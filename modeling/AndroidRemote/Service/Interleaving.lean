import AndroidRemote.Service.NativeServers
import AndroidRemote.Service.ThreadStarts
import AndroidRemote.Service.WatchdogTicks

/-! The ticks of the timer thread cut at the points between which the main thread may run. -/

namespace AndroidRemote.Service

open AndroidRemote.Library

inductive TickPoint
  | waiting
  | read (server : Server) (wish : Bool)
  | vncNormalized
  deriving DecidableEq, Repr

structure Threads where
  world : World
  tick : TickPoint

def World.normalize (w : World) (wish : Bool) (env : Environment) : Server → Result
  | .vnc =>
    if wish then w.tryStartVnc w.watchDog.vncPort w.watchDog.scaleFactor w.watchDog.rotation env.launch
    else .ok (w.tryStopVnc env.kill)
  | .mng => if wish then w.tryStartMng w.watchDog.mngPort env.bind else .ok w.tryStopMng

def World.isRunning (w : World) : Server → Bool
  | .vnc => w.vnc.isRunning
  | .mng => w.mng.isMngRunning

def World.comesTo (w : World) (server : Server) (extras : Extras) (env : Environment) : Bool :=
  match server with
  | .vnc => true
  | .mng => (w.startCommandVnc extras env).thrown.isNone

namespace Threads

variable (t : Threads)

def acted (r : Result) (next : TickPoint) : Threads :=
  if r.thrown.isSome then ⟨{ r.world with timerAlive := false }, .waiting⟩ else ⟨r.world, next⟩

def reads (server : Server) : Threads :=
  { t with tick := .read server (t.world.watchDog.hasToRestart server) }

def timer (env : Environment) : Threads :=
  if t.world.timerAlive then
    match t.tick with
    | .waiting => t.reads .vnc
    | .read .vnc wish => acted (t.world.normalize wish env .vnc) .vncNormalized
    | .vncNormalized => t.reads .mng
    | .read .mng wish => acted (t.world.normalize wish env .mng) .waiting
  else t

/-- `.tick` is the next step of the timer thread here, everything else happens at once. -/
def step (t : Threads) : Event → Threads
  | .tick env => t.timer env
  | e => ⟨Service.step t.world e, if restarts t.world e then .waiting else t.tick⟩

lemma tick_or_main (t : Threads) (e : Event) : (∃ env, e = .tick env) ∨
    t.step e = ⟨Service.step t.world e, if restarts t.world e then .waiting else t.tick⟩ := by
  cases e with
  | tick env => exact .inl ⟨env, rfl⟩
  | _ => exact .inr rfl

lemma timer_dead (h : t.world.timerAlive = false) (env : Environment) : t.timer env = t := by
  simp [timer, h]

lemma normalize_wish (w : World) (env : Environment) :
    w.normalize (w.watchDog.hasToRestart .vnc) env .vnc = w.normalizeVnc env ∧
      w.normalize (w.watchDog.hasToRestart .mng) env .mng = w.normalizeMng env := ⟨rfl, rfl⟩

theorem four_steps_are_a_tick (w : World) (env : Environment) :
    run step ⟨w, .waiting⟩ (List.replicate 4 (.tick env)) = ⟨Service.step w (.tick env), .waiting⟩ := by
  simp only [List.replicate, run_cons, run_nil, step]
  cases ha : w.timerAlive with
  | false => simp [timer_dead, ha, Service.step]
  | true =>
    have hfirst : (timer ⟨w, .waiting⟩ env).timer env = acted (w.normalizeVnc env) .vncNormalized := by
      simp [timer, ha, reads, (normalize_wish w env).1]
    have halive := (World.normalizeVnc_vncOnly (w := w) env).timerAlive.trans ha
    simp only [hfirst, Service.step, ha, if_true]
    cases ht : (w.normalizeVnc env).thrown with
    | some x => simp [acted, ht, timer_dead, World.normalizeServersStates, Result.andThen]
    | none =>
      have hsecond : ((acted (w.normalizeVnc env) .vncNormalized).timer env).timer env =
          acted ((w.normalizeVnc env).world.normalizeMng env) .waiting := by
        simp [acted, ht, timer, halive, reads, (normalize_wish _ env).2]
      have htick : w.normalizeServersStates env = (w.normalizeVnc env).world.normalizeMng env :=
        Result.andThen_of_none ht
      rw [hsecond]
      simp only [htick, acted]
      split_ifs <;> rfl

def starts (t : Threads) (server : Server) : Event → Bool
  | .message msg _ =>
    decide (msg.what.request server = some .start) && !t.world.isRunning server
  | .startCommand (some extras) env =>
    decide (extras.request server = .start) && t.world.comesTo server extras env && !t.world.isRunning server
  | .tick _ => t.world.timerAlive && decide (t.tick = .read server true) && !t.world.isRunning server
  | _ => false

lemma acted_world (r : Result) (next : TickPoint) :
    ∃ alive, (acted r next).world = { r.world with timerAlive := alive } := by
  rw [acted]
  split_ifs
  · exact ⟨false, rfl⟩
  · exact ⟨r.world.timerAlive, rfl⟩

lemma normalize_vncOnly (w : World) (wish : Bool) (env : Environment) :
    w.VncOnly (w.normalize wish env .vnc).world := by
  cases wish with
  | true => exact World.tryStartVnc_vncOnly _ _ _ _
  | false => exact World.tryStopVnc_vncOnly _

lemma normalize_mngOnly (w : World) (wish : Bool) (env : Environment) :
    w.MngOnly (w.normalize wish env .mng).world := by
  cases wish with
  | true => exact World.tryStartMng_mngOnly _ _
  | false => exact World.tryStopMng_mngOnly

lemma timer_cases (t : Threads) (env : Environment) :
    (t.world.timerAlive = false ∧ t.timer env = t) ∨
      (∃ server, (∀ s wish, t.tick ≠ .read s wish) ∧ t.timer env = t.reads server) ∨
      ∃ server wish next, t.world.timerAlive = true ∧ t.tick = .read server wish ∧
        (∀ s v, next ≠ .read s v) ∧ t.timer env = acted (t.world.normalize wish env server) next := by
  obtain ⟨w, point⟩ := t
  rw [timer]
  by_cases ha : w.timerAlive = true
  · rw [if_pos ha]
    refine .inr ?_
    cases point with
    | waiting => exact .inl ⟨.vnc, by simp, rfl⟩
    | vncNormalized => exact .inl ⟨.mng, by simp, rfl⟩
    | read server wish =>
      cases server with
      | vnc => exact .inr ⟨.vnc, wish, .vncNormalized, ha, rfl, by simp, rfl⟩
      | mng => exact .inr ⟨.mng, wish, .waiting, ha, rfl, by simp, rfl⟩
  · rw [if_neg ha]
    exact .inl ⟨eq_false_of_ne_true ha, rfl⟩

lemma startsAfter_eq (w : World) (reached : Bool) : w.startsAfter reached =
    if reached && !w.mng.isMngRunning then w.mng.current :: w.mng.starts else w.mng.starts := by
  rw [World.startsAfter]
  cases reached <;> cases w.mng.isMngRunning <;> rfl

lemma timer_starts (t : Threads) (env : Environment) : (t.timer env).world.mng.starts =
    if t.starts .mng (.tick env) then t.world.mng.current :: t.world.mng.starts else t.world.mng.starts := by
  rcases t.timer_cases env with ⟨ha, heq⟩ | ⟨server, hpoint, heq⟩ | ⟨server, wish, next, ha, hpoint, -, heq⟩
  · simp [heq, starts, ha]
  · simp [heq, starts, hpoint, reads]
  · obtain ⟨alive, hworld⟩ := acted_world (t.world.normalize wish env server) next
    rw [heq, hworld]
    cases server with
    | vnc => simp [starts, hpoint, (normalize_vncOnly t.world wish env).mng]
    | mng =>
      cases wish with
      | true => simp [starts, ha, hpoint, World.normalize, World.tryStartMng_startsAfter,
          startsAfter_eq, World.isRunning]
      | false => simp [starts, hpoint, World.normalize, World.tryStopMng_starts]

theorem starts_mng (t : Threads) (e : Event) : (t.step e).world.mng.starts =
    if t.starts .mng e then t.world.mng.current :: t.world.mng.starts else t.world.mng.starts := by
  have hmain : ∀ reached, t.starts .mng e = (reached && !t.world.mng.isMngRunning) →
      (Service.step t.world e).mng.starts = t.world.startsAfter reached →
      (Service.step t.world e).mng.starts =
        if t.starts .mng e then t.world.mng.current :: t.world.mng.starts else t.world.mng.starts := by
    intro reached hs he
    rw [he, startsAfter_eq, hs]
  cases e with
  | message msg env =>
    refine hmain _ ?_ (World.step_starts _)
    cases hw : msg.what <;>
      simp [starts, ServiceAction.request, World.startsMng, World.isRunning, hw]
  | startCommand intent env =>
    refine hmain _ ?_ (World.step_starts _)
    cases intent with
    | none => rfl
    | some extras =>
      rw [World.startsMng, ← World.startCommandVnc_isSome]
      cases hs : extras.startMng <;>
        simp [starts, Extras.request, World.comesTo, World.isRunning, hs]
  | tick env => exact timer_starts t env
  | _ => rfl

lemma portsStopped_sublist (v : VncSide) (kill : Kill) : (v.portsStopped kill).Sublist v.ports := by
  rw [VncSide.portsStopped]
  split_ifs
  · exact (VncSide.remaining_sublist _ _).map _
  · exact .refl _

lemma portsStarted_running {v : VncSide} (h : v.isRunning = true) (port : ℤ) (launch : Launch) :
    v.portsStarted port launch = v.ports := by
  simp [VncSide.portsStarted, h]

lemma handleMessage_ports (w : World) (msg : Message) (env : Environment)
    (h : msg.what = .startVnc → w.vnc.isRunning = true) :
    (w.handleMessage msg env).world.vnc.ports.Sublist w.vnc.ports := by
  cases hw : msg.what with
  | startVnc =>
    simp only [World.handleMessage, hw]
    rw [World.tryStartVnc_ports, portsStarted_running (h hw)]
  | stopVnc =>
    simp only [World.handleMessage, hw, Result.ok_world]
    rw [World.tryStopVnc_ports]
    exact portsStopped_sublist w.vnc env.kill
  | startMng =>
    simp only [World.handleMessage, hw]
    rw [(World.tryStartMng_mngOnly _ _).vnc]
  | stopMng =>
    simp only [World.handleMessage, hw, Result.ok_world]
    rw [World.tryStopMng_mngOnly.vnc]
  | getAllServerStatus =>
    simp only [World.handleMessage, hw]
    exact .refl _

lemma onStartCommand_ports (w : World) (extras : Extras) (env : Environment)
    (h : extras.startVnc = true → w.vnc.isRunning = true) :
    (w.onStartCommand (some extras) env).world.vnc.ports.Sublist w.vnc.ports := by
  have hvnc : (w.startCommandVnc extras env).world.vnc.ports.Sublist w.vnc.ports := by
    rw [World.startCommandVnc_ports, World.leftPorts]
    split_ifs with hs
    · rw [portsStarted_running (h hs)]
    · exact portsStopped_sublist w.vnc env.kill
  refine Result.andThen_invariant (fun u => u.vnc.ports.Sublist w.vnc.ports) hvnc ?_
  intro _
  rwa [World.startCommandMng_vnc]

lemma timer_ports (t : Threads) (env : Environment)
    (h : t.tick = .read .vnc true → t.world.vnc.isRunning = true) :
    (t.timer env).world.vnc.ports.Sublist t.world.vnc.ports := by
  rcases t.timer_cases env with ⟨-, heq⟩ | ⟨server, -, heq⟩ | ⟨server, wish, next, -, hpoint, -, heq⟩
  · rw [heq]
  · rw [heq]
    exact .refl _
  · obtain ⟨alive, hworld⟩ := acted_world (t.world.normalize wish env server) next
    rw [heq, hworld]
    cases server with
    | vnc =>
      simp only [World.normalize]
      cases wish with
      | true => rw [if_pos rfl, World.tryStartVnc_ports, portsStarted_running (h hpoint)]
      | false =>
        rw [if_neg Bool.false_ne_true, Result.ok_world, World.tryStopVnc_ports]
        exact portsStopped_sublist t.world.vnc env.kill
    | mng => simp only [(normalize_mngOnly t.world wish env).vnc, List.Sublist.refl]

theorem starts_vnc (t : Threads) (e : Event) (h : t.starts .vnc e = false) :
    (t.step e).world.vnc.ports.Sublist t.world.vnc.ports := by
  cases e with
  | message msg env =>
    refine (World.settle_ports _ env).symm ▸ handleMessage_ports t.world msg env ?_
    intro hw
    simpa [starts, ServiceAction.request, World.isRunning, hw] using h
  | startCommand intent env =>
    cases intent with
    | none => exact .refl _
    | some extras =>
      refine (World.settle_ports _ env).symm ▸ onStartCommand_ports t.world extras env ?_
      intro hs
      simpa [starts, Extras.request, World.comesTo, World.isRunning, hs] using h
  | tick env =>
    by_cases ha : t.world.timerAlive = true
    · apply timer_ports
      intro hp
      simpa [starts, World.isRunning, ha, hp] using h
    · rw [step, timer, if_neg ha]
  | vncAppears k =>
    change List.Sublist ((reveal _ t.world.vnc.processes).map NativeProcess.port) _
    rw [VncSide.reveal_ports]
    exact .refl _
  | vncDies k =>
    have hp := VncSide.remaining_sublist (fun n => decide (n = k)) t.world.vnc.processes
    exact hp.map NativeProcess.port
  | _ => exact .refl _

end Threads

def stopMessage (server : Server) : Event → Bool
  | .message msg _ => decide (msg.what.request server = some .stop)
  | _ => false

structure Interleaving where
  threads : Threads
  stopped : Server → Bool

namespace Interleaving

def created : Interleaving := ⟨⟨.created, .waiting⟩, fun _ => false⟩

def step (h : Interleaving) (e : Event) : Interleaving where
  threads := h.threads.step e
  stopped s := stopMessage s e || (h.stopped s && decide (request s e ≠ some .start))

def StopFinal (h : Interleaving) (e : Event) : Prop :=
  ∀ s, h.threads.starts s e = true → h.stopped s = true → request s e = some .start

/-- No stop message is handled while the timer thread, having read that the server is wished
for, has not acted yet. -/
def Undisturbed (h : Interleaving) (e : Event) : Prop :=
  ∀ s, stopMessage s e = true → h.threads.tick ≠ .read s true

structure Kept (h : Interleaving) : Prop where
  wish : ∀ s, h.stopped s = true → h.threads.world.watchDog.hasToRestart s = false
  read : ∀ s, h.threads.tick = .read s true → h.stopped s = false

lemma created_kept : created.Kept := by
  constructor
  · intro s hs
    cases hs
  · intro s hs
    cases hs

lemma timer_watchDog (t : Threads) (env : Environment) :
    (t.timer env).world.watchDog = t.world.watchDog := by
  rcases t.timer_cases env with ⟨-, heq⟩ | ⟨server, -, heq⟩ | ⟨server, wish, next, -, -, -, heq⟩
  · rw [heq]
  · rw [heq]
    rfl
  · obtain ⟨alive, hworld⟩ := Threads.acted_world (t.world.normalize wish env server) next
    rw [heq, hworld]
    cases server with
    | vnc => exact (Threads.normalize_vncOnly t.world wish env).watchDog
    | mng => exact (Threads.normalize_mngOnly t.world wish env).watchDog

lemma timer_read {t : Threads} {env : Environment} {s : Server} (h : (t.timer env).tick = .read s true) :
    t.world.watchDog.hasToRestart s = true ∨ t.tick = .read s true := by
  rcases t.timer_cases env with ⟨-, heq⟩ | ⟨server, -, heq⟩ | ⟨server, wish, next, -, -, hnext, heq⟩
  · rw [heq] at h
    exact .inr h
  · simp only [heq, Threads.reads, TickPoint.read.injEq] at h
    exact .inl (h.1 ▸ h.2)
  · rw [heq, Threads.acted] at h
    split_ifs at h
    exact absurd h (hnext s true)

lemma stopMessage_request {s : Server} {e : Event} (h : stopMessage s e = true) :
    request s e = some .stop := by
  cases e with
  | message msg env =>
    simp only [stopMessage, decide_eq_true_eq] at h
    exact h
  | _ => cases h

lemma step_stopped {h : Interleaving} {e : Event} {s : Server} (hs : (h.step e).stopped s = true) :
    stopMessage s e = true ∨ (h.stopped s = true ∧ request s e ≠ some .start) := by
  simpa only [step, Bool.or_eq_true, Bool.and_eq_true, decide_eq_true_eq] using hs

lemma step_stopped_wish {h : Interleaving} {e : Event} {s : Server} (hk : h.Kept)
    (hs : (h.step e).stopped s = true) :
    World.wishAfter (request s e) (h.threads.world.watchDog.hasToRestart s) = false := by
  rcases step_stopped hs with hm | ⟨hb, hq⟩
  · rw [stopMessage_request hm]
    rfl
  · rw [hk.wish s hb]
    cases hr : request s e with
    | none => rfl
    | some r =>
      cases r with
      | start => exact absurd hr hq
      | stop => rfl

lemma step_kept (h : Interleaving) (e : Event) (hk : h.Kept) (hu : h.Undisturbed e) : (h.step e).Kept := by
  rcases h.threads.tick_or_main e with ⟨env, rfl⟩ | hmain
  · constructor
    · intro s hs
      have hd := timer_watchDog h.threads env
      exact (congrArg (fun d => ServersWatchDog.hasToRestart d s) hd).trans (step_stopped_wish hk hs)
    · intro s hr
      rw [← Bool.not_eq_true]
      intro hs
      have hwish : h.threads.world.watchDog.hasToRestart s = false := step_stopped_wish hk hs
      rcases timer_read hr with hw | ht
      · rw [hwish] at hw
        cases hw
      · rcases step_stopped hs with hm | ⟨hb, -⟩
        · cases hm
        · rw [hk.read s ht] at hb
          cases hb
  · constructor
    · intro s hs
      change (h.threads.step e).world.watchDog.hasToRestart s = false
      rw [hmain]
      cases hr : restarts h.threads.world e with
      | true => exact World.step_restarted e s hr
      | false => exact (World.step_wish e s hr).trans (step_stopped_wish hk hs)
    · intro s hr
      change (h.threads.step e).tick = .read s true at hr
      rw [hmain] at hr
      cases hends : restarts h.threads.world e with
      | true =>
        rw [hends, if_pos rfl] at hr
        cases hr
      | false =>
        rw [hends, if_neg Bool.false_ne_true] at hr
        rw [← Bool.not_eq_true]
        intro hs
        rcases step_stopped hs with hm | ⟨hb, -⟩
        · exact hu s hm hr
        · rw [hk.read s hr] at hb
          cases hb

lemma stopFinal_of_kept (h : Interleaving) (e : Event) (hk : h.Kept) : h.StopFinal e := by
  intro s hs hstopped
  cases e with
  | message msg env =>
    simp only [Threads.starts, Bool.and_eq_true, decide_eq_true_eq] at hs
    exact hs.1
  | startCommand intent env =>
    cases intent with
    | none => cases hs
    | some extras =>
      simp only [Threads.starts, Bool.and_eq_true, decide_eq_true_eq] at hs
      exact congrArg some hs.1.1
  | tick env =>
    simp only [Threads.starts, Bool.and_eq_true, decide_eq_true_eq] at hs
    have hread := hk.read s hs.1.2
    rw [hstopped] at hread
    cases hread
  | _ => cases hs

lemma stop_keeps_tick {h : Interleaving} {e : Event} {s : Server} (hm : stopMessage s e = true) :
    (h.step e).threads.tick = h.threads.tick ∧
      (h.step e).threads.world.timerAlive = h.threads.world.timerAlive := by
  cases e with
  | message msg env =>
    have hn : (h.threads.world.handleMessage msg env).thrown = none := by
      have hq := stopMessage_request hm
      cases hw : msg.what <;> cases s <;>
        simp_all [World.handleMessage, request, ServiceAction.request]
    constructor
    · simp [step, Threads.step, restarts, hn]
    · change (Service.step h.threads.world (.message msg env)).timerAlive = _
      rw [Service.step, World.settle_of_none hn]
      exact World.handleMessage_timerAlive msg env
  | _ => cases hm

lemma not_stopFinal_of_disturbed {h : Interleaving} {e : Event} {s : Server} (env : Environment)
    (ha : h.threads.world.timerAlive = true) (hr : h.threads.tick = .read s true)
    (hm : stopMessage s e = true) (hdown : (h.step e).threads.world.isRunning s = false) :
    ¬ (h.step e).StopFinal (.tick env) := by
  intro hf
  have hkeeps := stop_keeps_tick (h := h) hm
  have hstarts : (h.step e).threads.starts s (.tick env) = true := by
    simp [Threads.starts, hkeeps.1, hkeeps.2, ha, hr, hdown]
  have hstopped : (h.step e).stopped s = true := by simp [step, hm]
  cases hf s hstarts hstopped

end Interleaving

theorem stop_is_final (es : List Event) :
    (Along Interleaving.step Interleaving.Undisturbed .created es →
      Along Interleaving.step Interleaving.StopFinal .created es) ∧
    ∀ (e : Event) (s : Server) (env : Environment),
      let h := run Interleaving.step .created es
      h.threads.world.timerAlive = true → h.threads.tick = .read s true → stopMessage s e = true →
        (h.step e).threads.world.isRunning s = false → ¬ (h.step e).StopFinal (.tick env) := by
  refine ⟨?_, fun e s env ha hr hm hdown => Interleaving.not_stopFinal_of_disturbed env ha hr hm hdown⟩
  intro hu
  exact hu.of_invariant Interleaving.Kept Interleaving.step_kept
    (fun h e hk _ => h.stopFinal_of_kept e hk) Interleaving.created_kept

def stopBetween : List Event :=
  [.message (.plain .startVnc) .quiet, .tick .quiet, .message (.plain .stopVnc) .quiet, .tick .quiet]

theorem stopped_server_is_started :
    ¬ Along Interleaving.step Interleaving.StopFinal .created stopBetween ∧
    (run Interleaving.step .created stopBetween).threads.world.vnc.ports = [vncDefaultPort] := by
  refine ⟨?_, rfl⟩
  rintro ⟨-, -, -, hfinal, -⟩
  have hasked := hfinal .vnc rfl rfl
  cases hasked

def stopAfterAct : List Event :=
  [.message (.plain .startVnc) .quiet, .tick .quiet, .tick .quiet, .message (.plain .stopVnc) .quiet,
    .tick .quiet, .tick .quiet, .tick .quiet]

theorem stop_after_act_is_final :
    Along Interleaving.step Interleaving.StopFinal .created stopAfterAct := by
  apply (stop_is_final stopAfterAct).1
  have hquiet : ∀ (h : Interleaving) (e : Event), (∀ s, stopMessage s e = false) → h.Undisturbed e := by
    intro h e he s hs
    rw [he s] at hs
    cases hs
  refine ⟨hquiet _ _ ?_, hquiet _ _ (fun _ => rfl), hquiet _ _ (fun _ => rfl), ?_, hquiet _ _ (fun _ => rfl),
    hquiet _ _ (fun _ => rfl), hquiet _ _ (fun _ => rfl), trivial⟩
  · intro s
    cases s <;> rfl
  · intro s _ ht
    cases ht

end AndroidRemote.Service
