import AndroidRemote.Service.World

/-! The methods of `ServersControllerService` and `ServersWatchDog.run`. -/

namespace AndroidRemote.Service

structure Result where
  world : World
  thrown : Option JavaException

namespace Result

def ok (w : World) : Result := ⟨w, none⟩

def andThen (r : Result) (f : World → Result) : Result :=
  match r.thrown with
  | none => f r.world
  | some _ => r

@[simp] lemma ok_world (w : World) : (ok w).world = w := rfl

@[simp] lemma ok_thrown (w : World) : (ok w).thrown = none := rfl

lemma andThen_invariant {r : Result} {f : World → Result} (I : World → Prop) (hr : I r.world)
    (hf : r.thrown = none → I (f r.world).world) : I (r.andThen f).world := by
  rw [andThen]
  cases h : r.thrown with
  | none => exact hf h
  | some e => exact hr

lemma andThen_thrown {r : Result} {f : World → Result} :
    (r.andThen f).thrown = none ↔ r.thrown = none ∧ (f r.world).thrown = none := by
  rw [andThen]
  cases h : r.thrown with
  | none => simp
  | some e => simp [h]

lemma andThen_ok_isSome {r : Result} {f : World → World} :
    (r.andThen (fun w => ok (f w))).thrown.isSome = r.thrown.isSome := by
  rw [andThen]
  cases h : r.thrown with
  | none => rfl
  | some e => simp [h]

lemma andThen_of_none {r : Result} {f : World → Result} (h : r.thrown = none) :
    r.andThen f = f r.world := by
  simp [andThen, h]

end Result

namespace MngSide

variable (m : MngSide)

def isMngRunning : Bool :=
  match m.mngServer with
  | none => false
  | some k => (m.servers k).keepListening

def set (k : ℕ) (s : ManagementServer) : MngSide := { m with servers := Function.update m.servers k s }

def getMngServer : ℕ × MngSide :=
  match m.mngServer with
  | some k => (k, m)
  | none => (m.created, { m.set m.created .created with
      mngServer := some m.created, created := m.created + 1 })

def getMngPort : ℤ × MngSide :=
  let (k, m) := m.getMngServer
  ((m.servers k).listeningPort, m)

def startMngServer (port : ℤ) (bind : Bind) : MngSide × Option JavaException :=
  let (k, m) := m.getMngServer
  let m := m.set k { m.servers k with listeningPort := port }
  let m := { m with starts := k :: m.starts }
  if (m.servers k).thread = .new then (m.set k ((m.servers k).started bind), none)
  else (m, some .illegalThreadState)

def stopMngServer : MngSide :=
  match m.mngServer with
  | none => m
  | some k => { m.set k (m.servers k).stopListening with mngServer := none }

end MngSide

namespace VncSide

variable (v : VncSide)

def isRunning : Bool := v.processes.any NativeProcess.visible

def getVncPort : ℤ := (v.vncWrapper.getD .created).listeningPort

def startVncServer (port scaleFactor rotation : ℤ) (launch : Launch) : VncSide × Option VncException :=
  let v := { v with vncWrapper := some ⟨port, scaleFactor, rotation⟩ }
  match launch with
  | .throws message => (v, some ⟨"startServer():" ++ message⟩)
  | .runs launched appeared =>
    let processes := if launched then v.processes ++ [⟨port, scaleFactor, rotation, false⟩]
      else v.processes
    ({ v with processes := reveal appeared processes }, none)

def stopVncServer (kill : Kill) : VncSide × Option VncException :=
  let v := { v with vncWrapper := some (v.vncWrapper.getD .created) }
  match kill with
  | .throws message killed =>
    ({ v with processes := remaining killed v.processes }, some ⟨"stopServer():" ++ message⟩)
  | .runs killed => ({ v with processes := remaining killed v.processes }, none)

end VncSide

namespace Talk

variable (t : Talk)

def shows : Server → Bool
  | .vnc => t.activity.vncRunning
  | .mng => t.activity.mngRunning

def cached : Server → Bool
  | .vnc => t.cachedVncRunning
  | .mng => t.cachedMngRunning

def setCached (running : Bool) : Server → Talk
  | .vnc => { t with cachedVncRunning := running }
  | .mng => { t with cachedMngRunning := running }

def sendClient (reply : Reply) : Talk :=
  if t.mClient then { t with activity := t.activity.handleMessage reply } else t

def stateReply (running : Bool) : Server → ServiceReply
  | .vnc => if running then .vncStarted else .vncStopped
  | .mng => if running then .mngStarted else .mngStopped

def tell (server : Server) (current : Bool) (port : ℤ) (text : Option Text) : Talk :=
  if t.cached server ≠ current then t.sendClient ⟨stateReply current server, port, text⟩ else t

/-- `sendMngReply` and `sendVncReply` from the observed state on; they differ in the cached
flag, the two codes and the port alone. -/
def sendReply (server : Server) (current : Bool) (port : ℤ) (text : Option Text)
    (launchedWith : List ℤ) : Talk :=
  let told := (t.tell server current port text).setCached current server
  { told with reports := {
      server := server
      attached := t.mClient
      observed := current
      shown := told.shows server
      reply := if t.cached server ≠ current ∧ t.mClient = true then
        some ⟨stateReply current server, port, text⟩ else none
      launchedWith := launchedWith } :: t.reports }

end Talk

namespace World

variable (w : World)

def sendVncReply (text : Option Text) : World :=
  let launchedWith := (w.vnc.processes.filter NativeProcess.visible).map NativeProcess.port
  { w with talk := w.talk.sendReply .vnc w.vnc.isRunning w.vnc.getVncPort text launchedWith }

/-- The port is only asked for when a reply is due, which creates a server object if need be. -/
def sendMngReply (text : Option Text) : World :=
  let current := w.mng.isMngRunning
  let (port, m) := if w.talk.cachedMngRunning ≠ current then w.mng.getMngPort else (0, w.mng)
  { w with mng := m, talk := w.talk.sendReply .mng current port text [] }

def sendClientMessage (message : String) : World :=
  { w with talk := w.talk.sendClient ⟨.showMessage, 0, some (.message message)⟩ }

def sendServersState : World :=
  let w := { w with talk := (w.talk.setCached false .mng).setCached false .vnc }
  (w.sendMngReply none).sendVncReply none

def tryStartMng (port : ℤ) (bind : Bind) : Result :=
  if w.mng.isMngRunning then .ok (w.sendMngReply (some (.resource .managementServerStillRunning)))
  else
    let (m, thrown) := w.mng.startMngServer port bind
    match thrown with
    | some e => ⟨{ w with mng := m }, some e⟩
    | none => .ok ({ w with mng := m }.sendMngReply (some (.resource .mngStarted)))

def tryStopMng : World :=
  if w.mng.isMngRunning then
    { w with mng := w.mng.stopMngServer }.sendMngReply (some (.resource .mngStopped))
  else w.sendMngReply (some (.resource .managementNotRunning))

def tryStartVnc (port scaleFactor rotation : ℤ) (launch : Launch) : Result :=
  if w.vnc.isRunning then .ok (w.sendVncReply (some (.resource .vncServerStillRunning)))
  else
    let (v, thrown) := w.vnc.startVncServer port scaleFactor rotation launch
    match thrown with
    | some e => ⟨{ w with vnc := v }, some (.vncException e)⟩
    | none => .ok ({ w with vnc := v }.sendVncReply (some (.resource .vncStarted)))

def tryStopVnc (kill : Kill) : World :=
  if w.vnc.isRunning then
    let (v, thrown) := w.vnc.stopVncServer kill
    match thrown with
    | some e => { w with vnc := v }.sendClientMessage e.message
    | none => { w with vnc := v }.sendVncReply (some (.resource .vncStopped))
  else w.sendVncReply (some (.resource .vncNotRunning))

def initVnc (port factor rotation : ℤ) (launch : Launch) : Result :=
  (w.tryStartVnc port factor rotation launch).andThen (fun w =>
    .ok { w with watchDog := w.watchDog.setToRestartVnc true port factor rotation })

def stopVnc (kill : Kill) : World :=
  { w with watchDog := w.watchDog.setToRestartVnc false (-1) (-1) (-1) }.tryStopVnc kill

def initMng (port : ℤ) (bind : Bind) : Result :=
  (w.tryStartMng port bind).andThen (fun w =>
    .ok { w with watchDog := w.watchDog.setToRestartMng true port })

def stopMng : World :=
  { w with watchDog := w.watchDog.setToRestartMng false (-1) }.tryStopMng

def handleMessage (msg : Message) (env : Environment) : Result :=
  let w := { w with talk.mClient := msg.replyTo || w.talk.mClient }
  match msg.what with
  | .startVnc =>
    let w := { w with talk := w.talk.setCached false .vnc }
    let vncPort := getIntOrDefault msg vncDefaultPort "port"
    let scaleFactor := getIntOrDefault msg defaultScaleFactor "scaleFactor"
    let rotation := getIntOrDefault msg defaultRotationFactor "rotation"
    let w := { w with watchDog := w.watchDog.setToRestartVnc true vncPort scaleFactor rotation }
    w.tryStartVnc vncPort scaleFactor rotation env.launch
  | .stopVnc =>
    let w := { w with talk := w.talk.setCached true .vnc }
    let d := w.watchDog.setToRestartVnc false vncDefaultPort defaultScaleFactor defaultRotationFactor
    let w := { w with watchDog := d }
    .ok (w.tryStopVnc env.kill)
  | .startMng =>
    let w := { w with talk := w.talk.setCached false .mng }
    let mngPort := getIntOrDefault msg mngDefaultPort "port"
    let w := { w with watchDog := w.watchDog.setToRestartMng true mngPort }
    w.tryStartMng mngPort env.bind
  | .stopMng =>
    let w := { w with talk := w.talk.setCached true .mng }
    let w := { w with watchDog := w.watchDog.setToRestartMng false mngDefaultPort }
    .ok w.tryStopMng
  | .getAllServerStatus => .ok w.sendServersState

def startCommandVnc (extras : Extras) (env : Environment) : Result :=
  if extras.startVnc then
    w.initVnc (extras.vncPort.getD vncDefaultPort) (extras.scaleFactor.getD defaultScaleFactor)
      (extras.rotation.getD defaultRotationFactor) env.launch
  else .ok (w.stopVnc env.kill)

def startCommandMng (extras : Extras) (env : Environment) : Result :=
  if extras.startMng then w.initMng (extras.mngPort.getD mngDefaultPort) env.bind
  else .ok w.stopMng

def onStartCommand (intent : Option Extras) (env : Environment) : Result :=
  match intent with
  | none => .ok w
  | some extras => (w.startCommandVnc extras env).andThen (fun w => w.startCommandMng extras env)

def normalizeVnc (env : Environment) : Result :=
  let d := w.watchDog
  if d.shouldVncBeStarter then w.tryStartVnc d.vncPort d.scaleFactor d.rotation env.launch
  else .ok (w.tryStopVnc env.kill)

def normalizeMng (env : Environment) : Result :=
  if w.watchDog.shouldMngBeStarted then w.tryStartMng w.watchDog.mngPort env.bind
  else .ok w.tryStopMng

def normalizeServersStates (env : Environment) : Result :=
  (w.normalizeVnc env).andThen (fun w => w.normalizeMng env)

/-- The process is killed, and `START_STICKY` has the service created again and started
without an intent. The native servers live on. -/
def recreate (activityDies : Bool) : World where
  vnc := { vncWrapper := none, processes := w.vnc.processes }
  mng := { w.mng with mngServer := none, servers := fun k => (w.mng.servers k).orphaned }
  talk := { mClient := false, cachedVncRunning := false, cachedMngRunning := false,
            activity := if activityDies then .created else w.talk.activity,
            reports := w.talk.reports }
  watchDog := .created
  timerAlive := true

end World

/-- An exception that nothing on the main thread catches ends the process. -/
def Result.settle (r : Result) (env : Environment) : World :=
  if r.thrown.isSome then r.world.recreate env.activityDies else r.world

inductive Event
  | message (msg : Message) (env : Environment)
  | startCommand (intent : Option Extras) (env : Environment)
  | tick (env : Environment)
  | vncAppears (k : ℕ)
  | vncDies (k : ℕ)
  | mngBound (k : ℕ)
  | mngBindFails (k : ℕ)
  | mngDies (k : ℕ)
  | unbind (destroyed : Bool)
  | recreate (activityDies : Bool)

def Environment.quiet : Environment := ⟨.runs true (fun _ => true), .runs (fun _ => true), .inTime, true⟩

def Message.plain (what : ServiceAction) : Message := ⟨what, true, fun _ => 0⟩

/-- A tick whose exception escapes is the last one of its timer. -/
def step (w : World) : Event → World
  | .message msg env => (w.handleMessage msg env).settle env
  | .startCommand intent env => (w.onStartCommand intent env).settle env
  | .tick env =>
    if w.timerAlive then
      let r := w.normalizeServersStates env
      if r.thrown.isSome then { r.world with timerAlive := false } else r.world
    else w
  | .vncAppears k => { w with vnc.processes := reveal (fun n => decide (n = k)) w.vnc.processes }
  | .vncDies k => { w with vnc.processes := remaining (fun n => decide (n = k)) w.vnc.processes }
  | .mngBound k => { w with mng := w.mng.set k (w.mng.servers k).bound }
  | .mngBindFails k => { w with mng := w.mng.set k (w.mng.servers k).bindFails }
  | .mngDies k => { w with mng := w.mng.set k (w.mng.servers k).dies }
  | .unbind destroyed =>
    { w with
      talk.mClient := false
      talk.activity := if destroyed then .created else w.talk.activity }
  | .recreate activityDies => w.recreate activityDies

end AndroidRemote.Service
