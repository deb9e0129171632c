import AndroidRemote.Library.Runs

/-! The Java side of the application: the service, its watch dog, the activity, the management
servers the service has created and the native servers it has launched. -/

namespace AndroidRemote.Service

inductive ServiceAction
  | startVnc
  | stopVnc
  | startMng
  | stopMng
  | getAllServerStatus
  deriving DecidableEq, Repr

inductive ServiceReply
  | vncStarted
  | vncStopped
  | mngStarted
  | mngStopped
  | showMessage
  deriving DecidableEq, Repr

inductive ResString
  | managementServerStillRunning
  | mngStarted
  | managementNotRunning
  | mngStopped
  | vncServerStillRunning
  | vncStarted
  | vncNotRunning
  | vncStopped
  deriving DecidableEq, Repr

inductive Text
  | resource (r : ResString)
  | message (s : String)
  deriving DecidableEq, Repr

structure Reply where
  what : ServiceReply
  arg1 : ℤ
  obj : Option Text
  deriving DecidableEq, Repr

/-- `Bundle.getInt` gives 0 for a missing key. -/
abbrev Bundle := String → ℤ

structure Message where
  what : ServiceAction
  replyTo : Bool
  data : Bundle

def vncDefaultPort : ℤ := 5901
def defaultScaleFactor : ℤ := 100
def defaultRotationFactor : ℤ := 0
def mngDefaultPort : ℤ := 5000

def getIntOrDefault (msg : Message) (defaultValue : ℤ) (key : String) : ℤ :=
  if msg.data key > 0 then msg.data key else defaultValue

/-- The extras of an intent; an absent boolean counts as `false`. -/
structure Extras where
  startVnc : Bool
  vncPort : Option ℤ
  scaleFactor : Option ℤ
  rotation : Option ℤ
  startMng : Bool
  mngPort : Option ℤ
  deriving DecidableEq, Repr

def bootExtras : Extras := ⟨true, none, none, none, true, none⟩

structure VncException where
  message : String
  deriving DecidableEq, Repr

inductive JavaException
  | vncException (e : VncException)
  | illegalThreadState
  deriving DecidableEq, Repr

inductive ThreadState
  | new
  | binding
  | serving
  | terminated
  deriving DecidableEq, Repr

structure ManagementServer where
  listeningPort : ℤ
  thread : ThreadState
  keepListening : Bool
  deriving DecidableEq, Repr

def ManagementServer.created : ManagementServer := ⟨mngDefaultPort, .new, false⟩

def ManagementServer.stopListening (s : ManagementServer) : ManagementServer :=
  { s with keepListening := false }

inductive Bind
  | inTime
  | late
  | fails
  deriving DecidableEq, Repr

def ManagementServer.started (s : ManagementServer) : Bind → ManagementServer
  | .inTime => { s with thread := .serving, keepListening := true }
  | .late => { s with thread := .binding }
  | .fails => { s with thread := .terminated }

def ManagementServer.bound (s : ManagementServer) : ManagementServer :=
  if s.thread = .binding then { s with thread := .serving, keepListening := true } else s

def ManagementServer.bindFails (s : ManagementServer) : ManagementServer :=
  if s.thread = .binding then { s with thread := .terminated } else s

def ManagementServer.dies (s : ManagementServer) : ManagementServer :=
  if s.thread = .serving then { s with thread := .terminated } else s

/-- The thread ends with its process; an object whose thread was never started stays as it is. -/
def ManagementServer.orphaned (s : ManagementServer) : ManagementServer :=
  if s.thread = .new then s else { s with thread := .terminated }

/-- `mngServer` refers into `servers`, where the first `created` objects exist. `starts` records
the objects on which `Thread.start` has been called, the latest first. -/
structure MngSide where
  mngServer : Option ℕ
  servers : ℕ → ManagementServer
  created : ℕ
  starts : List ℕ

structure VncServerWrapper where
  listeningPort : ℤ
  scaleFactor : ℤ
  rotation : ℤ
  deriving DecidableEq, Repr

def VncServerWrapper.created : VncServerWrapper :=
  ⟨vncDefaultPort, defaultScaleFactor, defaultRotationFactor⟩

structure NativeProcess where
  port : ℤ
  scaleFactor : ℤ
  rotation : ℤ
  visible : Bool
  deriving DecidableEq, Repr

structure VncSide where
  vncWrapper : Option VncServerWrapper
  processes : List NativeProcess
  deriving DecidableEq, Repr

def reveal (appeared : ℕ → Bool) (ps : List NativeProcess) : List NativeProcess :=
  ps.mapIdx (fun k p => { p with visible := p.visible || appeared k })

def remaining (killed : ℕ → Bool) (ps : List NativeProcess) : List NativeProcess :=
  (ps.zipIdx.filter (fun x => !killed x.2)).map Prod.fst

/-- How `VncServerWrapper.startVncServer` goes: it throws before anything is launched, or it
waits, with or without a launch, while processes become visible. -/
inductive Launch
  | throws (message : String)
  | runs (launched : Bool) (appeared : ℕ → Bool)

inductive Kill
  | throws (message : String) (killed : ℕ → Bool)
  | runs (killed : ℕ → Bool)

/-- What the environment does during one call: how launching, killing and binding go, and
whether the activity dies with the process should the call bring that down. -/
structure Environment where
  launch : Launch
  kill : Kill
  bind : Bind
  activityDies : Bool

structure Activity where
  vncRunning : Bool
  vncPort : ℤ
  mngRunning : Bool
  mngPort : ℤ
  toast : Option Text
  deriving DecidableEq, Repr

def Activity.created : Activity := ⟨false, vncDefaultPort, false, mngDefaultPort, none⟩

def Activity.handleMessage (a : Activity) (msg : Reply) : Activity :=
  let a := match msg.what with
    | .vncStarted => { a with vncRunning := true, vncPort := msg.arg1 }
    | .vncStopped => { a with vncRunning := false }
    | .mngStarted => { a with mngRunning := true, mngPort := msg.arg1 }
    | .mngStopped => { a with mngRunning := false }
    | .showMessage => a
  if msg.obj.isSome then { a with toast := msg.obj } else a

inductive Server
  | vnc
  | mng
  deriving DecidableEq, Repr

/-- One completed `sendVncReply` or `sendMngReply`: the running state it observed, what the
activity shows once the reply has arrived, and the ports of the visible native servers. -/
structure Report where
  server : Server
  attached : Bool
  observed : Bool
  shown : Bool
  reply : Option Reply
  launchedWith : List ℤ
  deriving DecidableEq, Repr

structure Talk where
  mClient : Bool
  cachedVncRunning : Bool
  cachedMngRunning : Bool
  activity : Activity
  reports : List Report
  deriving DecidableEq, Repr

structure ServersWatchDog where
  shouldVncBeStarter : Bool
  shouldMngBeStarted : Bool
  vncPort : ℤ
  mngPort : ℤ
  scaleFactor : ℤ
  rotation : ℤ
  deriving DecidableEq, Repr

def ServersWatchDog.created : ServersWatchDog :=
  ⟨false, false, vncDefaultPort, mngDefaultPort, defaultScaleFactor, defaultRotationFactor⟩

def ServersWatchDog.setToRestartVnc (d : ServersWatchDog) (whish : Bool)
    (port factor rotationRequired : ℤ) : ServersWatchDog :=
  { d with
    shouldVncBeStarter := whish
    vncPort := port
    scaleFactor := factor
    rotation := rotationRequired }

def ServersWatchDog.setToRestartMng (d : ServersWatchDog) (whish : Bool) (port : ℤ) : ServersWatchDog :=
  { d with shouldMngBeStarted := whish, mngPort := port }

structure World where
  vnc : VncSide
  mng : MngSide
  talk : Talk
  watchDog : ServersWatchDog
  timerAlive : Bool

def World.created : World where
  vnc := ⟨none, []⟩
  mng := ⟨none, fun _ => .created, 0, []⟩
  talk := ⟨false, false, false, .created, []⟩
  watchDog := .created
  timerAlive := true

end AndroidRemote.Service
