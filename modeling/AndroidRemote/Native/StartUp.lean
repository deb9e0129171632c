import AndroidRemote.Library.Runs
import AndroidRemote.Native.MappedScreen

/-! The ways in which `init_fb` and `init_fb_server` can go, and the loop of `main` behind them. -/

namespace AndroidRemote.Native

open AndroidRemote.Display AndroidRemote.Library AndroidRemote.Rfb

/-- What the calls of the start-up bring back; an `ioctl` that fails brings nothing. -/
structure StartUp where
  rotation : ℕ
  openDevice : Bool
  vscreeninfo : Option FbVarScreeninfo
  lineLength : Option ℕ
  mmap : Bool
  buffers : Bool
  screen : Bool
  listens : Bool
  deriving DecidableEq, Repr

structure MainLoop where
  scrinfo : FbVarScreeninfo
  fbmmap : Option ℕ
  updateScreen : Option Out
  listening : Bool
  clients : ℕ
  drawing : Bool
  running : Bool
  deriving DecidableEq, Repr

def zeroScreeninfo : FbVarScreeninfo := ⟨0, 0, 0, 0, 0, 0, 0, ⟨0, 0⟩, ⟨0, 0⟩, ⟨0, 0⟩⟩

namespace StartUp

variable (w pageSize : ℕ) (u : StartUp)

/-- `scrinfo` and the bytes mapped; a device that cannot be opened is only logged. -/
def initFb : Option (FbVarScreeninfo × Option ℕ) :=
  if u.openDevice then
    match u.vscreeninfo, u.lineLength with
    | some s, some lineLength => if u.mmap then some (s, some (fbSize w lineLength pageSize s).toNat) else none
    | _, _ => none
  else some (zeroScreeninfo, none)

/-- `init_fb_server` on what `init_fb` left; an assertion that fails ends the process. -/
def initServer (fb : FbVarScreeninfo × Option ℕ) : Option MainLoop :=
  if u.buffers && u.screen then
    some
      { scrinfo := fb.1
        fbmmap := fb.2
        updateScreen := selectUpdateScreen (startScreen u.rotation fb.1).serverFormat.bitsPerPixel
        listening := u.listens
        clients := 0
        drawing := false
        running := true }
  else none

def start : Option MainLoop := (u.initFb w pageSize).bind u.initServer

def Sound : Prop :=
  u.buffers = false ∨ u.screen = false ∨ u.listens = false ∨
    (u.openDevice = true ∧ ∀ s, u.vscreeninfo = some s → u.lineLength.isSome = true → u.mmap = true →
      s.bitsPerPixel = 8 ∨ s.bitsPerPixel = 16 ∨ s.bitsPerPixel = 32)

end StartUp

/-- `proceeds` is the test of `while (vncscr->clientHead == NULL)`; `draws` is the call of
`update_screen`, with what its `ioctl` reports. -/
inductive LoopEvent
  | connects
  | leaves
  | proceeds
  | draws (ioctl : Option FbVarScreeninfo)
  deriving DecidableEq, Repr

def LoopEvent.KeepsDepth (bitsPerPixel : ℕ) : LoopEvent → Prop
  | .draws (some s) => s.bitsPerPixel = bitsPerPixel
  | _ => True

namespace MainLoop

variable (m : MainLoop)

def call (ioctl : Option FbVarScreeninfo) : MainLoop :=
  match m.updateScreen, ioctl, m.fbmmap with
  | some _, some s, some _ => { m with scrinfo := s, drawing := false }
  | _, _, _ => { m with running := false }

def step (e : LoopEvent) : MainLoop :=
  if m.running then
    match e with
    | .connects => if m.listening then { m with clients := m.clients + 1 } else m
    | .leaves => { m with clients := m.clients - 1 }
    | .proceeds => { m with drawing := m.drawing || decide (m.clients ≠ 0) }
    | .draws ioctl => if m.drawing then m.call ioctl else m
  else m

def Usable (m : MainLoop) : LoopEvent → Prop
  | .draws _ => m.running = true → m.drawing = true →
      ∃ out, m.updateScreen = some out ∧ out.bits = m.scrinfo.bitsPerPixel ∧ m.fbmmap.isSome = true
  | _ => True

structure Deaf : Prop where
  listening : m.listening = false
  clients : m.clients = 0
  drawing : m.drawing = false

structure Equipped (bitsPerPixel : ℕ) : Prop where
  selected : ∃ out, m.updateScreen = some out ∧ out.bits = bitsPerPixel
  depth : m.scrinfo.bitsPerPixel = bitsPerPixel
  mapped : m.fbmmap.isSome = true

variable {m}

lemma call_cases (m : MainLoop) (ioctl : Option FbVarScreeninfo) : m.call ioctl = { m with running := false } ∨
    ∃ s, ioctl = some s ∧ m.call ioctl = { m with scrinfo := s, drawing := false } := by
  rw [call.eq_def]
  split
  · exact Or.inr ⟨_, rfl, rfl⟩
  · exact Or.inl rfl

lemma step_cases (m : MainLoop) (e : LoopEvent) :
    m.step e = m ∨
    (m.listening = true ∧ m.step e = { m with clients := m.clients + 1 }) ∨
    m.step e = { m with clients := m.clients - 1 } ∨
    m.step e = { m with drawing := m.drawing || decide (m.clients ≠ 0) } ∨
    m.step e = { m with running := false } ∨
    ∃ s, e = .draws (some s) ∧ m.drawing = true ∧ m.step e = { m with scrinfo := s, drawing := false } := by
  by_cases hr : m.running = true
  · rw [step.eq_def, if_pos hr]
    cases e with
    | connects =>
      by_cases hl : m.listening = true
      · exact Or.inr (Or.inl ⟨hl, if_pos hl⟩)
      · exact Or.inl (if_neg hl)
    | leaves => exact Or.inr (Or.inr (Or.inl rfl))
    | proceeds => exact Or.inr (Or.inr (Or.inr (Or.inl rfl)))
    | draws ioctl =>
      by_cases hd : m.drawing = true
      · rcases m.call_cases ioctl with hcall | ⟨s, rfl, hcall⟩
        · exact Or.inr (Or.inr (Or.inr (Or.inr (Or.inl ((if_pos hd).trans hcall)))))
        · exact Or.inr (Or.inr (Or.inr (Or.inr (Or.inr ⟨s, rfl, hd, (if_pos hd).trans hcall⟩))))
      · exact Or.inl (if_neg hd)
  · exact Or.inl (if_neg hr)

lemma Deaf.after (h : m.Deaf) (e : LoopEvent) : (m.step e).Deaf := by
  rcases m.step_cases e with hs | ⟨hl, -⟩ | hs | hs | hs | ⟨s, -, hd, -⟩
  · rwa [hs]
  · rw [h.listening] at hl
    cases hl
  · rw [hs]
    exact ⟨h.listening, by simp [h.clients], h.drawing⟩
  · rw [hs]
    exact ⟨h.listening, h.clients, by simp [h.clients, h.drawing]⟩
  · rw [hs]
    exact ⟨h.listening, h.clients, h.drawing⟩
  · rw [h.drawing] at hd
    cases hd

lemma Deaf.usable (h : m.Deaf) (e : LoopEvent) : m.Usable e := by
  cases e with
  | draws ioctl =>
    intro _ hd
    rw [h.drawing] at hd
    cases hd
  | _ => trivial

lemma Equipped.after {bitsPerPixel : ℕ} (h : m.Equipped bitsPerPixel) {e : LoopEvent}
    (he : e.KeepsDepth bitsPerPixel) : (m.step e).Equipped bitsPerPixel := by
  rcases m.step_cases e with hs | ⟨-, hs⟩ | hs | hs | hs | ⟨s, rfl, -, hs⟩ <;> rw [hs]
  · exact h
  · exact ⟨h.selected, h.depth, h.mapped⟩
  · exact ⟨h.selected, h.depth, h.mapped⟩
  · exact ⟨h.selected, h.depth, h.mapped⟩
  · exact ⟨h.selected, h.depth, h.mapped⟩
  · exact ⟨h.selected, he, h.mapped⟩

lemma Equipped.usable {bitsPerPixel : ℕ} (h : m.Equipped bitsPerPixel) (e : LoopEvent) : m.Usable e := by
  cases e with
  | draws ioctl =>
    intro _ _
    obtain ⟨out, hout, hbits⟩ := h.selected
    exact ⟨out, hout, hbits.trans h.depth.symm, h.mapped⟩
  | _ => trivial

end MainLoop

namespace StartUp

variable {w pageSize : ℕ} {u : StartUp} {m : MainLoop}

lemma start_eq_some (h : u.start w pageSize = some m) : ∃ fb, u.initFb w pageSize = some fb ∧
    u.buffers = true ∧ u.screen = true ∧ m =
      { scrinfo := fb.1
        fbmmap := fb.2
        updateScreen := selectUpdateScreen (startScreen u.rotation fb.1).serverFormat.bitsPerPixel
        listening := u.listens
        clients := 0
        drawing := false
        running := true } := by
  obtain ⟨fb, hfb, hserver⟩ := Option.bind_eq_some_iff.mp h
  rw [initServer] at hserver
  split_ifs at hserver with hasserts
  rw [Bool.and_eq_true] at hasserts
  exact ⟨fb, hfb, hasserts.1, hasserts.2, (Option.some.inj hserver).symm⟩

lemma initFb_eq_some {fb : FbVarScreeninfo × Option ℕ} (h : u.initFb w pageSize = some fb) :
    (u.openDevice = false ∧ fb = (zeroScreeninfo, none)) ∨
      (u.openDevice = true ∧ u.vscreeninfo = some fb.1 ∧ u.lineLength.isSome = true ∧ u.mmap = true ∧
        fb.2.isSome = true) := by
  rw [initFb] at h
  by_cases hopen : u.openDevice = true
  · rw [if_pos hopen] at h
    split at h
    · rename_i s lineLength hs hl
      by_cases hmap : u.mmap = true
      · rw [if_pos hmap] at h
        cases h
        exact Or.inr ⟨hopen, hs, by rw [hl]; rfl, hmap, rfl⟩
      · rw [if_neg hmap] at h
        cases h
    · cases h
  · rw [if_neg hopen] at h
    exact Or.inl ⟨by simpa using hopen, (Option.some.inj h).symm⟩

lemma startScreen_bits (rotation : ℕ) (s : FbVarScreeninfo) :
    (startScreen rotation s).serverFormat.bitsPerPixel = 8 * (s.bitsPerPixel / 8) % 256 := by
  have hbits : ∀ width height, (rfbGetScreen width height 0 (s.bitsPerPixel / 8)).serverFormat.bitsPerPixel =
      8 * (s.bitsPerPixel / 8) % 256 := by
    intro width height
    simp only [rfbGetScreen, rfbInitServerFormat, initialFormat]
    split_ifs <;> rfl
  simp only [startScreen]
  split_ifs <;> exact hbits _ _

lemma selectUpdateScreen_width {bitsPerPixel : ℕ} :
    (∃ out, selectUpdateScreen (8 * (bitsPerPixel / 8) % 256) = some out ∧ out.bits = bitsPerPixel) ↔
      bitsPerPixel = 8 ∨ bitsPerPixel = 16 ∨ bitsPerPixel = 32 := by
  constructor
  · rintro ⟨out, -, rfl⟩
    cases out <;> simp [Out.bits]
  · rintro (rfl | rfl | rfl)
    · exact ⟨.out8, rfl, rfl⟩
    · exact ⟨.out16, rfl, rfl⟩
    · exact ⟨.out32, rfl, rfl⟩

lemma start_equipped (h : u.start w pageSize = some m) (ho : u.openDevice = true)
    (hd : ∀ s, u.vscreeninfo = some s → u.lineLength.isSome = true → u.mmap = true →
      s.bitsPerPixel = 8 ∨ s.bitsPerPixel = 16 ∨ s.bitsPerPixel = 32) : m.Equipped m.scrinfo.bitsPerPixel := by
  obtain ⟨fb, hfb, -, -, rfl⟩ := start_eq_some h
  rcases initFb_eq_some hfb with ⟨hclosed, -⟩ | ⟨-, hs, hl, hmap, hmapped⟩
  · rw [ho] at hclosed
    cases hclosed
  · refine ⟨?_, rfl, hmapped⟩
    rw [startScreen_bits]
    exact selectUpdateScreen_width.mpr (hd fb.1 hs hl hmap)

def firstCall : List LoopEvent := [.connects, .proceeds, .draws none]

lemma firstCall_usable (hb : u.buffers = true) (hs : u.screen = true) (hl : u.listens = true)
    (h : ∀ m, u.start w pageSize = some m → Along MainLoop.step MainLoop.Usable m firstCall)
    {fb : FbVarScreeninfo × Option ℕ} (hfb : u.initFb w pageSize = some fb) :
    (fb.1.bitsPerPixel = 8 ∨ fb.1.bitsPerPixel = 16 ∨ fb.1.bitsPerPixel = 32) ∧ fb.2.isSome = true := by
  have hserver := h _ (by rw [start, hfb, Option.bind_some, initServer, hb, hs]; rfl)
  have hcall := hserver.2.2.1
  simp [MainLoop.Usable, MainLoop.step, hl] at hcall
  obtain ⟨out, hout, hbits, hmapped⟩ := hcall
  rw [startScreen_bits] at hout
  exact ⟨selectUpdateScreen_width.mp ⟨out, hout, hbits⟩, hmapped⟩

/-- The `Daemon` that the started process is, once `update_screen` points somewhere. -/
theorem start_initFbServer {out : Out} (h : u.start w pageSize = some m) (ho : m.updateScreen = some out)
    (scaling : ℕ) (testMode : ℤ) (fbmmap : (out : Out) → Memory (OutT out)) :
    ∃ d, initFbServer m.scrinfo u.rotation scaling testMode fbmmap = some ⟨out, d⟩ := by
  obtain ⟨fb, -, -, -, rfl⟩ := start_eq_some h
  simp only at ho
  rw [initFbServer, ho]
  exact ⟨_, rfl⟩

end StartUp

theorem loop_usable_iff (w pageSize : ℕ) (u : StartUp) :
    (∀ m, u.start w pageSize = some m → ∀ es : List LoopEvent,
      (∀ e ∈ es, e.KeepsDepth m.scrinfo.bitsPerPixel) → Along MainLoop.step MainLoop.Usable m es) ↔
        u.Sound := by
  constructor
  · intro h
    by_contra hsound
    simp only [StartUp.Sound, not_or, Bool.not_eq_false] at hsound
    obtain ⟨hbuffers, hscreen, hlistens, hdevice⟩ := hsound
    have hfirst : ∀ m, u.start w pageSize = some m → Along MainLoop.step MainLoop.Usable m StartUp.firstCall :=
      fun m hm => h m hm _ (by simp [StartUp.firstCall, LoopEvent.KeepsDepth])
    apply hdevice
    by_cases hopen : u.openDevice = true
    · refine ⟨hopen, ?_⟩
      intro s hs hl hmap
      obtain ⟨lineLength, hlength⟩ := Option.isSome_iff_exists.mp hl
      have hfb : u.initFb w pageSize = some (s, some (fbSize w lineLength pageSize s).toNat) := by
        rw [StartUp.initFb, if_pos hopen, hs, hlength]
        exact if_pos hmap
      exact (StartUp.firstCall_usable hbuffers hscreen hlistens hfirst hfb).1
    · have hfb : u.initFb w pageSize = some (zeroScreeninfo, none) := by
        rw [StartUp.initFb, if_neg hopen]
      have hmapped := (StartUp.firstCall_usable hbuffers hscreen hlistens hfirst hfb).2
      cases hmapped
  · rintro hsound m hm es hes
    rcases hsound with hbuffers | hscreen | hlistens | ⟨hopen, hdepth⟩
    · obtain ⟨fb, -, hb, -⟩ := StartUp.start_eq_some hm
      rw [hbuffers] at hb
      cases hb
    · obtain ⟨fb, -, -, hs, -⟩ := StartUp.start_eq_some hm
      rw [hscreen] at hs
      cases hs
    · obtain ⟨fb, -, -, -, rfl⟩ := StartUp.start_eq_some hm
      exact (along_of_forall hes).of_invariant MainLoop.Deaf (fun _ e hd _ => hd.after e)
        (fun _ e hd _ => hd.usable e) ⟨hlistens, rfl, rfl⟩
    · exact (along_of_forall hes).of_invariant (fun t => t.Equipped m.scrinfo.bitsPerPixel)
        (fun _ _ he hk => he.after hk) (fun _ e he _ => he.usable e) (StartUp.start_equipped hm hopen hdepth)

def missingDevice : StartUp := ⟨0, false, none, none, false, true, true, true⟩

theorem missing_device_reaches_the_call : ¬ ∀ (w pageSize : ℕ) (u : StartUp) (m : MainLoop),
    u.start w pageSize = some m → ∀ es : List LoopEvent,
      (∀ e ∈ es, e.KeepsDepth m.scrinfo.bitsPerPixel) → Along MainLoop.step MainLoop.Usable m es := by
  intro h
  have hrun := h 32 4096 missingDevice _ rfl [.connects, .proceeds, .draws none] (by simp [LoopEvent.KeepsDepth])
  obtain ⟨out, hout, -⟩ := hrun.2.2.1 (by decide) (by decide)
  revert hout
  decide +revert

end AndroidRemote.Native
