import AndroidRemote.Display.Rotate
import AndroidRemote.Display.UpdateScreen
import AndroidRemote.Input.Pointer
import AndroidRemote.Library.Runs
import AndroidRemote.Native.Scale

/-! The process of `fbvncserver`: its variables, LibVNCServer's clients, and what moves them. -/

namespace AndroidRemote.Native

open AndroidRemote.Display AndroidRemote.Input AndroidRemote.Library AndroidRemote.Rfb

/-- The fields of `rfbClientRec` beside those that `vncscr.clients` has, in the same order. A
scaled screen keeps its size, and no size stands for the screen itself. -/
structure Peer where
  id : ℕ
  scaledScreen : Option (ℕ × ℕ)
  lastPtrButtons : ℕ
  deriving DecidableEq, Repr

/-- `bufferSize` counts the bytes allocated for `vncbuf`, and as many for `cmpbuf`. -/
structure Daemon (out : Out) where
  fb : FbVncServer out
  bufferSize : ℕ
  scaling : ℕ
  scaledScreenNext : List (ℕ × ℕ)
  peers : List Peer
  accepted : ℕ
  pointerClient : Option ℕ
  input : Injection
  listening : Bool
  running : Bool

variable {out : Out}

def Daemon.started (fb : FbVncServer out) (bufferSize scaling : ℕ) : Daemon out where
  fb := { fb with vncscr.clients := [] }
  bufferSize := bufferSize
  scaling := scaling
  scaledScreenNext := []
  peers := []
  accepted := 0
  pointerClient := none
  input := .created
  listening := true
  running := true

structure Arrival where
  greeted : Bool
  allocated : Bool
  localSocket : Bool
  writable : Bool
  deriving DecidableEq, Repr

namespace Daemon

variable (d : Daemon out)

def isConnected (k : ℕ) : Bool := (d.fb.vncscr.clients[k]?).any RfbClient.connected

def withClients (clients : List RfbClient) : Daemon out := { d with fb.vncscr.clients := clients }

def exit : Daemon out := { d with running := false }

def screenSize : ℕ × ℕ := (d.fb.vncscr.width, d.fb.vncscr.height)

/-- `rfbScaledScreenUpdate`, on behalf of a picture that is not empty, draws every scaled screen that
has a client. -/
def updateTraps : Bool :=
  decide (0 < d.screenSize.1 ∧ 0 < d.screenSize.2) &&
    d.peers.any (fun cl => cl.scaledScreen.any (dividesByZero d.fb.vncscr.serverFormat d.screenSize))

/-- The call closes with `rfbMarkRectAsModified`. So does `update_screen`, which never meets a zero
divisor (`running_updateTraps`). -/
def rotate : Daemon out :=
  match d.fb.rotate with
  | .error _ => d.exit
  | .ok fb => if updateTraps { d with fb := fb } then d.exit else { d with fb := fb }

def rfbShutdownServer : Daemon out :=
  { d.withClients (d.fb.vncscr.clients.map rfbCloseClient) with listening := false }

def perform (down : Bool) : Option KeyCommand → Daemon out
  | some .rfbShutdownServer => d.rfbShutdownServer
  | some .exit => d.exit
  | some .rotate => if down then d.rotate else d
  | none => d

def keyevent (down : Bool) (key : ℕ) : Daemon out :=
  let d := d.perform down (keysym2scancode key).command
  { d with input.device := typed down key d.input.device }

def ptrevent (buttonMask : ℕ) (x y : ℤ) : Daemon out :=
  { d with input := d.input.ptrevent d.fb.rotation d.fb.scrinfo buttonMask x y }

def rfbPointerEvent (k buttonMask : ℕ) (x y : ℤ) : Daemon out :=
  match d.peers[k]? with
  | none => d
  | some cl =>
    if d.pointerClient.any (fun holder => decide (holder ≠ cl.id)) then d
    else
      { d.ptrevent buttonMask x y with
        pointerClient := if buttonMask = 0 then none else some cl.id
        peers := d.peers.set k { cl with lastPtrButtons := buttonMask } }

def rfbSetPixelFormat (k : ℕ) (format : PixelFormat) : Daemon out :=
  match d.fb.vncscr.clients[k]? with
  | none => d
  | some cl =>
    match rfbSetTranslateFunction d.fb.vncscr.serverFormat d.fb.vncscr.colourMap
        { cl with format := format } with
    | .error _ => d.exit
    | .ok cl => d.withClients (d.fb.vncscr.clients.set k cl)

def rfbSetEncodings (k : ℕ) (useNewFBSize : Bool) : Daemon out :=
  d.withClients (d.fb.vncscr.clients.modify k (fun cl => { cl with useNewFBSize := useNewFBSize }))

/-- `side * scaling / 100.0` cut to an `int`. The product is an `int` too, so this is the code's value
for sides of fewer than `2 ^ 31 / scaling` pixels (`scaledSide_eq_truncate`). -/
def scaledSide (side : ℕ) : ℕ := side * d.scaling / 100

def rfbScalingSetup (width height : ℕ) (allocated : Bool) : Option (ℕ × ℕ) × List (ℕ × ℕ) × Bool :=
  if d.fb.vncscr.width = width ∧ d.fb.vncscr.height = height then (none, d.scaledScreenNext, true)
  else if (width, height) ∈ d.scaledScreenNext then (some (width, height), d.scaledScreenNext, true)
  else if allocated then (some (width, height), (width, height) :: d.scaledScreenNext, true)
  else (none, d.scaledScreenNext, false)

def clientHook (allocated : Bool) : Option (ℕ × ℕ) × List (ℕ × ℕ) × Bool :=
  if d.scaling ≠ 100 then
    d.rfbScalingSetup (d.scaledSide d.fb.vncscr.width) (d.scaledSide d.fb.vncscr.height) allocated
  else (none, d.scaledScreenNext, false)

/-- `rfbScalingSetup` draws the scaled screen that it allocates, and one that no client is on. -/
def setupTraps (scaledScreen : Option (ℕ × ℕ)) : Bool :=
  scaledScreen.any (fun size => dividesByZero d.fb.vncscr.serverFormat d.screenSize size &&
    d.peers.all (fun cl => decide (cl.scaledScreen ≠ some size)))

/-- `send_remote_msg` ends the process when it cannot open a socket. -/
def sendRemoteMsg (localSocket : Bool) : Daemon out := if localSocket then d else d.exit

def rfbNewClient (a : Arrival) : Daemon out :=
  if d.listening && a.greeted then
    let (scaledScreen, scaledScreenNext, newFBSizePending) := d.clientHook a.allocated
    let cl : RfbClient := ⟨d.fb.vncscr.serverFormat, .rfbTranslateNone, none, true, a.writable, false,
      newFBSizePending⟩
    if d.setupTraps scaledScreen then d.exit
    else
      sendRemoteMsg { d.withClients (cl :: d.fb.vncscr.clients) with
        scaledScreenNext := scaledScreenNext
        peers := ⟨d.accepted, scaledScreen, 0⟩ :: d.peers
        accepted := d.accepted + 1 } a.localSocket
  else d

def rfbClientConnectionGone (k : ℕ) (localSocket : Bool) : Daemon out :=
  match d.peers[k]? with
  | none => d
  | some cl =>
    let d := (d.withClients (d.fb.vncscr.clients.eraseIdx k)).sendRemoteMsg localSocket
    { d with
      peers := d.peers.eraseIdx k
      pointerClient := if d.pointerClient = some cl.id then none else d.pointerClient }

def updateScreen (ioctl : Option FbVarScreeninfo) : Daemon out :=
  match d.fb.updateScreen ioctl with
  | none => d.exit
  | some fb => { d with fb := fb }

end Daemon

/-- The client that an event is about is given by its place in the list of clients. -/
inductive Event
  | connects (a : Arrival)
  | keyEvent (k : ℕ) (down : Bool) (key : ℕ)
  | pointerEvent (k buttonMask : ℕ) (x y : ℤ)
  | setPixelFormat (k : ℕ) (format : PixelFormat)
  | setEncodings (k : ℕ) (useNewFBSize : Bool)
  | closes (k : ℕ)
  | gone (k : ℕ) (localSocket : Bool)
  | updateScreen (ioctl : Option FbVarScreeninfo)

/-- Messages are read from connected clients, and a client that was closed is freed. -/
def step (d : Daemon out) (e : Event) : Daemon out :=
  if d.running then
    match e with
    | .connects a => d.rfbNewClient a
    | .keyEvent k down key => if d.isConnected k then d.keyevent down key else d
    | .pointerEvent k buttonMask x y => if d.isConnected k then d.rfbPointerEvent k buttonMask x y else d
    | .setPixelFormat k format => if d.isConnected k then d.rfbSetPixelFormat k format else d
    | .setEncodings k useNewFBSize => if d.isConnected k then d.rfbSetEncodings k useNewFBSize else d
    | .closes k => d.withClients (d.fb.vncscr.clients.modify k rfbCloseClient)
    | .gone k localSocket => if d.isConnected k then d else d.rfbClientConnectionGone k localSocket
    | .updateScreen ioctl => d.updateScreen ioctl
  else d

namespace Daemon

variable (d : Daemon out)

lemma rotate_cases : d.rotate = d.exit ∨
    ∃ fb, d.fb.rotate = .ok fb ∧ updateTraps { d with fb := fb } = false ∧ d.rotate = { d with fb := fb } := by
  rw [rotate]
  cases d.fb.rotate with
  | error t => exact .inl rfl
  | ok fb =>
    by_cases htraps : updateTraps { d with fb := fb } = true
    · exact .inl (if_pos htraps)
    · exact .inr ⟨fb, rfl, Bool.of_not_eq_true htraps, if_neg htraps⟩

lemma perform_cases (down : Bool) (command : Option KeyCommand) :
    d.perform down command = d ∨ d.perform down command = d.exit ∨
      (command = some .rfbShutdownServer ∧ d.perform down command = d.rfbShutdownServer) ∨
      ∃ fb, d.fb.rotate = .ok fb ∧ command = some .rotate ∧ down = true ∧
        d.perform down command = { d with fb := fb } := by
  cases command with
  | none => exact .inl rfl
  | some command =>
    cases command with
    | rfbShutdownServer => exact .inr (.inr (.inl ⟨rfl, rfl⟩))
    | exit => exact .inr (.inl rfl)
    | rotate =>
      cases down with
      | false => exact .inl rfl
      | true =>
        rcases d.rotate_cases with hexit | ⟨fb, hfb, -, hrotate⟩
        · exact .inr (.inl hexit)
        · exact .inr (.inr (.inr ⟨fb, hfb, rfl, rfl, hrotate⟩))

lemma sendRemoteMsg_eq (localSocket : Bool) :
    d.sendRemoteMsg localSocket = { d with running := d.running && localSocket } := by
  cases localSocket with
  | true => simp [sendRemoteMsg]
  | false => simp [sendRemoteMsg, exit]

lemma rfbNewClient_cases (a : Arrival) : d.rfbNewClient a = d ∨ d.rfbNewClient a = d.exit ∨
    ∃ clients, d.setupTraps (d.clientHook a.allocated).1 = false ∧ d.rfbNewClient a =
      { d.withClients clients with
        scaledScreenNext := (d.clientHook a.allocated).2.1
        peers := ⟨d.accepted, (d.clientHook a.allocated).1, 0⟩ :: d.peers
        accepted := d.accepted + 1
        running := d.running && a.localSocket } := by
  rw [rfbNewClient]
  split_ifs
  · by_cases htraps : d.setupTraps (d.clientHook a.allocated).1 = true
    · exact .inr (.inl (if_pos htraps))
    · exact .inr (.inr ⟨_, Bool.of_not_eq_true htraps, (if_neg htraps).trans (sendRemoteMsg_eq _ _)⟩)
  · exact .inl rfl

lemma rfbPointerEvent_cases (k buttonMask : ℕ) (x y : ℤ) : d.rfbPointerEvent k buttonMask x y = d ∨
    ∃ cl, d.peers[k]? = some cl ∧ (∀ holder, d.pointerClient = some holder → holder = cl.id) ∧
      d.rfbPointerEvent k buttonMask x y = { d.ptrevent buttonMask x y with
        pointerClient := if buttonMask = 0 then none else some cl.id
        peers := d.peers.set k { cl with lastPtrButtons := buttonMask } } := by
  simp only [rfbPointerEvent]
  cases hk : d.peers[k]? with
  | none => exact .inl rfl
  | some cl =>
    by_cases hheld : d.pointerClient.any (fun holder => decide (holder ≠ cl.id)) = true
    · simp only [if_pos hheld]
      exact .inl trivial
    · simp only [if_neg hheld]
      refine .inr ⟨cl, rfl, ?_, rfl⟩
      intro holder hp
      simpa [hp] using hheld

lemma rfbClientConnectionGone_cases (k : ℕ) (localSocket : Bool) : d.rfbClientConnectionGone k localSocket = d ∨
    ∃ cl, d.peers[k]? = some cl ∧ d.rfbClientConnectionGone k localSocket =
      { d.withClients (d.fb.vncscr.clients.eraseIdx k) with
        running := d.running && localSocket
        peers := d.peers.eraseIdx k
        pointerClient := if d.pointerClient = some cl.id then none else d.pointerClient } := by
  simp only [rfbClientConnectionGone]
  cases hk : d.peers[k]? with
  | none => exact .inl rfl
  | some cl => exact .inr ⟨cl, rfl, by rw [sendRemoteMsg_eq]; rfl⟩

end Daemon

inductive Change (d : Daemon out) : Event → Daemon out → Prop
  | stays (e : Event) : Change d e d
  | ends (e : Event) : Change d e d.exit
  | records (e : Event) (clients : List RfbClient) : Change d e (d.withClients clients)
  | arrives (a : Arrival) : Change d (.connects a) (d.rfbNewClient a)
  | key (k : ℕ) (down : Bool) (key : ℕ) (hc : d.isConnected k = true) :
    Change d (.keyEvent k down key) (d.keyevent down key)
  | points (k buttonMask : ℕ) (x y : ℤ) (hc : d.isConnected k = true) :
    Change d (.pointerEvent k buttonMask x y) (d.rfbPointerEvent k buttonMask x y)
  | leaves (k : ℕ) (localSocket : Bool) (hc : d.isConnected k = false) :
    Change d (.gone k localSocket) (d.rfbClientConnectionGone k localSocket)
  | draws (ioctl : Option FbVarScreeninfo) (fb : FbVncServer out) (h : d.fb.updateScreen ioctl = some fb) :
    Change d (.updateScreen ioctl) { d with fb := fb }

lemma step_change {d : Daemon out} (e : Event) (hr : d.running = true) : Change d e (step d e) := by
  cases e with
  | connects a =>
    simp only [step, hr, if_true]
    exact .arrives a
  | keyEvent k down key =>
    by_cases hc : d.isConnected k = true
    · simp only [step, hr, hc, if_true]
      exact .key k down key hc
    · simp only [step, hr, hc, if_true]
      exact .stays _
  | pointerEvent k buttonMask x y =>
    by_cases hc : d.isConnected k = true
    · simp only [step, hr, hc, if_true]
      exact .points k buttonMask x y hc
    · simp only [step, hr, hc, if_true]
      exact .stays _
  | setPixelFormat k format =>
    by_cases hc : d.isConnected k = true
    · simp only [step, hr, hc, if_true, Daemon.rfbSetPixelFormat]
      cases d.fb.vncscr.clients[k]? with
      | none => exact .stays _
      | some cl =>
        simp only
        cases rfbSetTranslateFunction d.fb.vncscr.serverFormat d.fb.vncscr.colourMap
          { cl with format := format } with
        | error t => exact .ends _
        | ok cl => exact .records _ _
    · simp only [step, hr, hc, if_true]
      exact .stays _
  | setEncodings k useNewFBSize =>
    by_cases hc : d.isConnected k = true
    · simp only [step, hr, hc, if_true]
      exact .records _ _
    · simp only [step, hr, hc, if_true]
      exact .stays _
  | closes k =>
    simp only [step, hr, if_true]
    exact .records _ _
  | gone k localSocket =>
    by_cases hc : d.isConnected k = true
    · simp only [step, hr, hc, if_true]
      exact .stays _
    · simp only [step, hr, hc, if_true]
      exact .leaves k localSocket (by simpa using hc)
  | updateScreen ioctl =>
    have hdraws : step d (.updateScreen ioctl) = d.updateScreen ioctl := by simp [step, hr]
    rw [hdraws, Daemon.updateScreen]
    cases h : d.fb.updateScreen ioctl with
    | none => exact .ends _
    | some fb => exact .draws ioctl fb h

lemma step_ended {d : Daemon out} (e : Event) (hr : ¬ d.running = true) : step d e = d := by
  simp [step, hr]

end AndroidRemote.Native
