import AndroidRemote.Service.Methods

/-! The wishes of the watch dog against what was last asked of the service. -/

namespace AndroidRemote.Service

open AndroidRemote.Library

inductive Request
  | start
  | stop
  deriving DecidableEq, Repr

def ServiceAction.request : Server → ServiceAction → Option Request
  | .vnc, .startVnc => some .start
  | .vnc, .stopVnc => some .stop
  | .mng, .startMng => some .start
  | .mng, .stopMng => some .stop
  | _, _ => none

def Extras.request (extras : Extras) : Server → Request
  | .vnc => if extras.startVnc then .start else .stop
  | .mng => if extras.startMng then .start else .stop

def request (server : Server) : Event → Option Request
  | .message msg _ => msg.what.request server
  | .startCommand (some extras) _ => some (extras.request server)
  | _ => none

def ServersWatchDog.hasToRestart (d : ServersWatchDog) : Server → Bool
  | .vnc => d.shouldVncBeStarter
  | .mng => d.shouldMngBeStarted

def restarts (w : World) : Event → Bool
  | .message msg env => (w.handleMessage msg env).thrown.isSome
  | .startCommand intent env => (w.onStartCommand intent env).thrown.isSome
  | .recreate _ => true
  | _ => false

structure History where
  world : World
  last : Server → Option Request
  since : Server → Bool

def History.created : History := ⟨.created, fun _ => none, fun _ => false⟩

def History.step (h : History) (e : Event) : History where
  world := Service.step h.world e
  last s := (request s e).or (h.last s)
  since s := !restarts h.world e && ((request s e).isSome || h.since s)

/-- The wish for each server is its last request, and no server asked for is stopped. -/
def History.WishesHold (h : History) : Event → Prop
  | .tick env =>
    (∀ s, h.world.watchDog.hasToRestart s = true ↔ h.last s = some .start) ∧
      (h.last .vnc = some .start → h.world.vnc.processes.map NativeProcess.port <+:
        (Service.step h.world (.tick env)).vnc.processes.map NativeProcess.port)
  | _ => True

def History.AskedSince (h : History) : Event → Prop
  | .tick _ => ∀ s, h.last s = some .start → h.since s = true
  | _ => True

namespace World

variable {w : World}

def wishAfter (asked : Option Request) (wished : Bool) : Bool :=
  match asked with
  | some r => decide (r = .start)
  | none => wished

lemma handleMessage_wish (msg : Message) (env : Environment) (server : Server) :
    (w.handleMessage msg env).world.watchDog.hasToRestart server =
      wishAfter (msg.what.request server) (w.watchDog.hasToRestart server) := by
  cases hw : msg.what with
  | startVnc =>
    simp only [handleMessage, hw]
    rw [(tryStartVnc_vncOnly _ _ _ _).watchDog]
    cases server <;> rfl
  | stopVnc =>
    simp only [handleMessage, hw, Result.ok_world]
    rw [(tryStopVnc_vncOnly _).watchDog]
    cases server <;> rfl
  | startMng =>
    simp only [handleMessage, hw]
    rw [(tryStartMng_mngOnly _ _).watchDog]
    cases server <;> rfl
  | stopMng =>
    simp only [handleMessage, hw, Result.ok_world]
    rw [tryStopMng_mngOnly.watchDog]
    cases server <;> rfl
  | getAllServerStatus =>
    simp only [handleMessage, hw]
    cases server <;> rfl

lemma startCommandVnc_wish (extras : Extras) (env : Environment)
    (h : (w.startCommandVnc extras env).thrown = none) :
    (w.startCommandVnc extras env).world.watchDog.hasToRestart .vnc = extras.startVnc ∧
      (w.startCommandVnc extras env).world.watchDog.hasToRestart .mng = w.watchDog.hasToRestart .mng := by
  rw [startCommandVnc] at h ⊢
  cases hs : extras.startVnc with
  | true =>
    rw [hs, if_pos rfl] at h
    rw [if_pos rfl, initVnc, Result.andThen_of_none (Result.andThen_thrown.mp h).1]
    simp only [Result.ok_world, (tryStartVnc_vncOnly _ _ _ _).watchDog]
    exact ⟨rfl, rfl⟩
  | false =>
    rw [if_neg (by decide), stopVnc]
    simp only [Result.ok_world, (tryStopVnc_vncOnly _).watchDog]
    exact ⟨rfl, rfl⟩

lemma startCommandMng_wish (extras : Extras) (env : Environment)
    (h : (w.startCommandMng extras env).thrown = none) :
    (w.startCommandMng extras env).world.watchDog.hasToRestart .mng = extras.startMng ∧
      (w.startCommandMng extras env).world.watchDog.hasToRestart .vnc = w.watchDog.hasToRestart .vnc := by
  rw [startCommandMng] at h ⊢
  cases hs : extras.startMng with
  | true =>
    rw [hs, if_pos rfl] at h
    rw [if_pos rfl, initMng, Result.andThen_of_none (Result.andThen_thrown.mp h).1]
    simp only [Result.ok_world, (tryStartMng_mngOnly _ _).watchDog]
    exact ⟨rfl, rfl⟩
  | false =>
    rw [if_neg (by decide), stopMng]
    simp only [Result.ok_world, tryStopMng_mngOnly.watchDog]
    exact ⟨rfl, rfl⟩

lemma onStartCommand_wish (extras : Extras) (env : Environment) (server : Server)
    (h : (w.onStartCommand (some extras) env).thrown = none) :
    (w.onStartCommand (some extras) env).world.watchDog.hasToRestart server =
      decide (extras.request server = .start) := by
  obtain ⟨hvnc, hmng⟩ := Result.andThen_thrown.mp h
  have hv := startCommandVnc_wish extras env hvnc
  have hm := startCommandMng_wish extras env hmng
  rw [onStartCommand, Result.andThen_of_none hvnc]
  cases server with
  | vnc =>
    rw [hm.2, hv.1]
    cases hs : extras.startVnc <;> simp [Extras.request, hs]
  | mng =>
    rw [hm.1]
    cases hs : extras.startMng <;> simp [Extras.request, hs]

lemma settle_of_none {r : Result} (h : r.thrown = none) (env : Environment) : r.settle env = r.world := by
  simp [Result.settle, h]

lemma normalizeServersStates_watchDog (env : Environment) :
    (w.normalizeServersStates env).world.watchDog = w.watchDog := by
  have hv := (w.normalizeVnc_vncOnly env).watchDog
  refine Result.andThen_invariant (fun u => u.watchDog = w.watchDog) hv ?_
  intro _
  exact (normalizeMng_mngOnly env).watchDog.trans hv

lemma step_wish (e : Event) (server : Server) (h : restarts w e = false) :
    (step w e).watchDog.hasToRestart server =
      wishAfter (request server e) (w.watchDog.hasToRestart server) := by
  cases e with
  | message msg env =>
    have hn : (w.handleMessage msg env).thrown = none := by simpa [restarts] using h
    rw [step, settle_of_none hn]
    exact handleMessage_wish msg env server
  | startCommand intent env =>
    have hn : (w.onStartCommand intent env).thrown = none := by simpa [restarts] using h
    rw [step, settle_of_none hn]
    cases intent with
    | none => rfl
    | some extras => exact onStartCommand_wish extras env server hn
  | tick env =>
    have hd := w.normalizeServersStates_watchDog env
    simp only [step]
    split_ifs
    · exact congrArg (fun d => ServersWatchDog.hasToRestart d server) hd
    · exact congrArg (fun d => ServersWatchDog.hasToRestart d server) hd
    · rfl
  | recreate activityDies => cases h
  | _ => rfl

lemma step_restarted (e : Event) (server : Server) (h : restarts w e = true) :
    (step w e).watchDog.hasToRestart server = false := by
  have hsettle : ∀ (r : Result) (env : Environment), r.thrown.isSome = true →
      (r.settle env).watchDog.hasToRestart server = false := by
    intro r env hr
    rw [Result.settle, if_pos hr]
    cases server <;> rfl
  cases e with
  | message msg env => exact hsettle _ env h
  | startCommand intent env => exact hsettle _ env h
  | recreate activityDies => cases server <;> rfl
  | _ => cases h

lemma tick_keeps_ports (env : Environment) (h : w.watchDog.shouldVncBeStarter = true) :
    w.vnc.processes.map NativeProcess.port <+:
      (step w (.tick env)).vnc.processes.map NativeProcess.port := by
  have hvnc : w.vnc.processes.map NativeProcess.port <+:
      (w.normalizeVnc env).world.vnc.processes.map NativeProcess.port := by
    simp only [normalizeVnc, h, if_true]
    cases hr : w.vnc.isRunning with
    | true =>
      rw [tryStartVnc_running hr]
      exact List.prefix_rfl
    | false =>
      cases env.launch with
      | throws message =>
        rw [tryStartVnc_throws hr]
      | runs launched appeared =>
        rw [tryStartVnc_runs hr]
        exact ⟨_, (VncSide.startVncServer_ports _ _ _ launched appeared).symm⟩
  have hboth : (w.normalizeServersStates env).world.vnc = (w.normalizeVnc env).world.vnc := by
    refine Result.andThen_invariant (fun u => u.vnc = (w.normalizeVnc env).world.vnc) rfl ?_
    intro _
    exact (normalizeMng_mngOnly env).vnc
  rw [← hboth] at hvnc
  simp only [step]
  split_ifs
  · exact hvnc
  · exact hvnc
  · exact List.prefix_rfl

end World

namespace History

def Kept (h : History) : Prop :=
  ∀ s, h.world.watchDog.hasToRestart s = true ↔ h.since s = true ∧ h.last s = some .start

lemma created_kept : created.Kept := by
  intro s
  cases s <;> simp [created, World.created, ServersWatchDog.created, ServersWatchDog.hasToRestart]

lemma step_kept (h : History) (e : Event) (hk : h.Kept) : (h.step e).Kept := by
  intro s
  cases hr : restarts h.world e with
  | true => simp [step, hr, World.step_restarted e s hr]
  | false =>
    simp only [step, hr, World.step_wish e s hr]
    cases hq : request s e with
    | none => simpa [World.wishAfter] using hk s
    | some r => simp [World.wishAfter]

lemma wishesHold_iff (h : History) (e : Event) (hk : h.Kept) : h.WishesHold e ↔ h.AskedSince e := by
  cases e with
  | tick env =>
    constructor
    · rintro ⟨hwish, -⟩ s hs
      exact ((hk s).mp ((hwish s).mpr hs)).1
    · intro hasked
      have hwish : ∀ s, h.world.watchDog.hasToRestart s = true ↔ h.last s = some .start := by
        intro s
        rw [hk s]
        constructor
        · exact And.right
        · exact fun hs => ⟨hasked s hs, hs⟩
      exact ⟨hwish, fun hs => World.tick_keeps_ports env ((hwish .vnc).mpr hs)⟩
  | _ => exact Iff.rfl

end History

theorem wishes_survive (es : List Event) :
    Along History.step History.WishesHold .created es ↔
      Along History.step History.AskedSince .created es :=
  along_congr History.Kept (fun h e hk _ => h.step_kept e hk) History.wishesHold_iff History.created_kept

def killedService : List Event :=
  [.message (.plain .startVnc) .quiet, .recreate true, .tick .quiet]

theorem killed_service_stops_vnc :
    (run step .created (killedService.take 2)).vnc.processes = [⟨5901, 100, 0, true⟩] ∧
    (run step .created killedService).vnc.processes = [] ∧
    ¬ Along History.step History.WishesHold .created killedService := by
  refine ⟨rfl, rfl, ?_⟩
  rintro ⟨-, -, ⟨hwish, -⟩, -⟩
  have hlost := (hwish .vnc).mpr rfl
  cases hlost

end AndroidRemote.Service
