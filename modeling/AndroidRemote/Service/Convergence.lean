import AndroidRemote.Service.NativeServers
import AndroidRemote.Service.ThreadStarts
import AndroidRemote.Service.WatchdogTicks

/-! Where one tick of the watch dog takes the servers when everything it asks for is done at once. -/

namespace AndroidRemote.Service

open AndroidRemote.Library

structure Environment.Prompt (env : Environment) : Prop where
  launch : ∃ appeared, env.launch = .runs true appeared ∧ ∀ k, appeared k = true
  kill : ∃ killed, env.kill = .runs killed ∧ ∀ k, killed k = true
  bind : env.bind = .inTime

lemma Environment.quiet_prompt : Environment.quiet.Prompt :=
  ⟨⟨_, rfl, fun _ => rfl⟩, ⟨_, rfl, fun _ => rfl⟩, rfl⟩

lemma Environment.Prompt.startFails {env : Environment} (h : env.Prompt) (v : VncSide) :
    v.startFails env.launch = false := by
  obtain ⟨appeared, hl, -⟩ := h.launch
  simp [VncSide.startFails, hl, Launch.fails]

namespace MngSide

variable {m : MngSide}

lemma getMngServer_stale : m.getMngServer.2.Stale ↔ m.Stale := by
  cases hr : m.isMngRunning with
  | true =>
    have hr' := m.getMngServer_isMngRunning.trans hr
    simp [not_stale_of_running hr, not_stale_of_running hr']
  | false =>
    rw [stale_iff hr, Stale, getMngServer_referenced]
    have hflag : (m.getMngServer.2.servers m.current).keepListening = false := by
      have hrun := m.getMngServer_isMngRunning
      rwa [hr, isMngRunning, getMngServer_referenced] at hrun
    simp [hflag]

lemma getMngServer_port : m.getMngServer.2.getMngPort.1 = m.getMngPort.1 := by
  cases hm : m.mngServer with
  | none => simp [getMngPort, getMngServer, hm, MngSide.set]
  | some k => simp [getMngPort, getMngServer, hm]

lemma getMngServer_servers {k : ℕ} (hk : k < m.created) : m.getMngServer.2.servers k = m.servers k := by
  rw [getMngServer]
  cases hm : m.mngServer with
  | none => exact Function.update_of_ne hk.ne _ _
  | some j => rfl

lemma stopMngServer_not_stale : ¬ m.stopMngServer.Stale := by
  rintro ⟨k, hk, -⟩
  rw [stopMngServer] at hk
  cases hm : m.mngServer with
  | none => simp [hm] at hk
  | some j => simp [hm] at hk

end MngSide

namespace World

variable {w : World}

lemma sendMngReply_stale (text : Option Text) : (w.sendMngReply text).mng.Stale ↔ w.mng.Stale := by
  cases w.sendMngReply_mng text with
  | inl h => rw [h]
  | inr h => rw [h, MngSide.getMngServer_stale]

lemma sendServersState_stale : w.sendServersState.mng.Stale ↔ w.mng.Stale :=
  sendMngReply_stale (w := { w with talk := (w.talk.setCached false .mng).setCached false .vnc }) none

lemma tryStartMng_settled (h : ¬ w.mng.Stale) (port : ℤ) {bind : Bind} (hb : bind = .inTime) :
    (w.tryStartMng port bind).world.mng.isMngRunning = true := by
  cases hr : w.mng.isMngRunning with
  | true =>
    rw [tryStartMng_running hr]
    exact (sendMngReply_isMngRunning _).trans hr
  | false =>
    have hfresh := MngSide.startMngServer_fresh hr h port bind
    rw [tryStartMng_fresh hr h]
    refine (sendMngReply_isMngRunning _).trans (hfresh.2.trans ?_)
    simp [hb]

lemma tryStopMng_not_stale (h : ¬ w.mng.Stale) : ¬ w.tryStopMng.mng.Stale := by
  cases hr : w.mng.isMngRunning with
  | true =>
    rw [tryStopMng_running hr, sendMngReply_stale]
    exact MngSide.stopMngServer_not_stale
  | false =>
    rw [tryStopMng_stopped hr, sendMngReply_stale]
    exact h

lemma tryStopVnc_settled {kill : Kill} (hk : ∃ killed, kill = .runs killed ∧ ∀ k, killed k = true) :
    (w.tryStopVnc kill).vnc.isRunning = false := by
  obtain ⟨killed, rfl, hall⟩ := hk
  rw [tryStopVnc]
  cases hr : w.vnc.isRunning with
  | false => simpa [sendVncReply] using hr
  | true =>
    have hnone : remaining killed w.vnc.processes = [] := by simp [remaining, hall]
    simp [VncSide.stopVncServer, sendVncReply, VncSide.isRunning, hnone]

lemma tryStartVnc_settled (port scaleFactor rotation : ℤ) {launch : Launch}
    (hl : ∃ appeared, launch = .runs true appeared ∧ ∀ k, appeared k = true) :
    (w.tryStartVnc port scaleFactor rotation launch).world.vnc.isRunning = true := by
  obtain ⟨appeared, rfl, hall⟩ := hl
  cases hr : w.vnc.isRunning with
  | true =>
    rw [tryStartVnc_running hr]
    exact hr
  | false =>
    rw [tryStartVnc_runs hr]
    simp [sendVncReply, VncSide.startVncServer, VncSide.isRunning, reveal, hall]

def Expected : Event → Prop
  | .message _ env => env.Prompt
  | .startCommand _ env => env.Prompt
  | .tick env => env.Prompt
  | .vncAppears _ => True
  | .vncDies _ => True
  | .unbind _ => True
  | _ => False

inductive Born : World → Prop
  | first : Born .created
  | again (w : World) (activityDies : Bool) : Born (w.recreate activityDies)

lemma Born.not_stale (h : Born w) : ¬ w.mng.Stale := by
  rintro ⟨k, hk, -⟩
  cases h with
  | first => cases hk
  | again w activityDies => cases hk

lemma tryStartMng_not_stale (h : ¬ w.mng.Stale) (port : ℤ) {bind : Bind} (hb : bind = .inTime) :
    ¬ (w.tryStartMng port bind).world.mng.Stale :=
  MngSide.not_stale_of_running (tryStartMng_settled h port hb)

lemma handleMessage_not_stale (h : ¬ w.mng.Stale) (msg : Message) {env : Environment} (he : env.Prompt) :
    ¬ (w.handleMessage msg env).world.mng.Stale := by
  cases hw : msg.what with
  | startVnc =>
    simp only [handleMessage, hw]
    rwa [(tryStartVnc_vncOnly _ _ _ _).mng]
  | stopVnc =>
    simp only [handleMessage, hw, Result.ok_world]
    rwa [(tryStopVnc_vncOnly _).mng]
  | startMng =>
    simp only [handleMessage, hw]
    apply tryStartMng_not_stale _ _ he.bind
    exact h
  | stopMng =>
    simp only [handleMessage, hw, Result.ok_world]
    apply tryStopMng_not_stale
    exact h
  | getAllServerStatus =>
    simp only [handleMessage, hw, Result.ok_world]
    rwa [sendServersState_stale]

lemma startCommandMng_not_stale (h : ¬ w.mng.Stale) (extras : Extras) {env : Environment}
    (he : env.Prompt) : ¬ (w.startCommandMng extras env).world.mng.Stale := by
  rw [startCommandMng]
  split_ifs
  · rw [initMng_mng]
    exact tryStartMng_not_stale h _ he.bind
  · exact tryStopMng_not_stale h

lemma normalizeMng_not_stale (h : ¬ w.mng.Stale) {env : Environment} (he : env.Prompt) :
    ¬ (w.normalizeMng env).world.mng.Stale := by
  rw [normalizeMng]
  split_ifs
  · exact tryStartMng_not_stale h _ he.bind
  · exact tryStopMng_not_stale h

lemma expected_goes_on {e : Event} (h : ¬ w.mng.Stale) (he : Expected e) : restarts w e = false := by
  rw [← Bool.not_eq_true, restarts_iff]
  cases e with
  | message msg env => simp [Ends, h, Environment.Prompt.startFails he]
  | startCommand intent env =>
    cases intent with
    | none => exact not_false
    | some extras => simp [Ends, h, Environment.Prompt.startFails he]
  | recreate activityDies => cases he
  | _ => exact not_false

lemma step_not_stale (e : Event) (h : ¬ w.mng.Stale) (he : Expected e) : ¬ (step w e).mng.Stale := by
  have hgoes := expected_goes_on h he
  cases e with
  | message msg env =>
    rw [step, settle_of_none (by simpa [restarts] using hgoes)]
    exact handleMessage_not_stale h msg he
  | startCommand intent env =>
    rw [step, settle_of_none (by simpa [restarts] using hgoes)]
    cases intent with
    | none => exact h
    | some extras =>
      have hv := startCommandVnc_mng (w := w) extras env
      refine Result.andThen_invariant (fun u => ¬ u.mng.Stale) (hv ▸ h) ?_
      intro _
      exact startCommandMng_not_stale (hv ▸ h) extras he
  | tick env =>
    have hv := (w.normalizeVnc_vncOnly env).mng
    have hboth : ¬ (w.normalizeServersStates env).world.mng.Stale := by
      refine Result.andThen_invariant (fun u => ¬ u.mng.Stale) (hv ▸ h) ?_
      intro _
      exact normalizeMng_not_stale (hv ▸ h) he
    simp only [step]
    split_ifs
    · exact hboth
    · exact hboth
    · exact h
  | vncAppears k => exact h
  | vncDies k => exact h
  | unbind destroyed => exact h
  | _ => cases he

structure Settled (w : World) : Prop where
  vnc : w.vnc.isRunning = w.watchDog.hasToRestart .vnc
  mng : w.mng.isMngRunning = w.watchDog.hasToRestart .mng

structure Untouched (w w' : World) : Prop where
  vnc : w'.vnc = w.vnc
  starts : w'.mng.starts = w.mng.starts
  running : w'.mng.isMngRunning = w.mng.isMngRunning
  port : w'.mng.getMngPort.1 = w.mng.getMngPort.1
  servers : ∀ k < w.mng.created, w'.mng.servers k = w.mng.servers k

lemma normalizeVnc_settled {env : Environment} (he : env.Prompt) :
    (w.normalizeVnc env).world.vnc.isRunning = w.watchDog.hasToRestart .vnc := by
  simp only [normalizeVnc, ServersWatchDog.hasToRestart]
  cases w.watchDog.shouldVncBeStarter with
  | true => exact tryStartVnc_settled _ _ _ he.launch
  | false => exact tryStopVnc_settled he.kill

lemma normalizeMng_settled (h : ¬ w.mng.Stale) {env : Environment} (he : env.Prompt) :
    (w.normalizeMng env).world.mng.isMngRunning = w.watchDog.hasToRestart .mng := by
  simp only [normalizeMng, ServersWatchDog.hasToRestart]
  cases w.watchDog.shouldMngBeStarted with
  | true => exact tryStartMng_settled h _ he.bind
  | false => exact tryStopMng_isMngRunning

lemma normalizeVnc_untouched (h : w.vnc.isRunning = w.watchDog.hasToRestart .vnc) (env : Environment) :
    (w.normalizeVnc env).world.vnc = w.vnc := by
  simp only [normalizeVnc]
  simp only [ServersWatchDog.hasToRestart] at h
  cases hwish : w.watchDog.shouldVncBeStarter with
  | true =>
    rw [if_pos rfl, tryStartVnc_running (h.trans hwish)]
    rfl
  | false => simp [tryStopVnc, h.trans hwish, sendVncReply]

lemma sendMngReply_untouched (text : Option Text) : w.Untouched (w.sendMngReply text) := by
  cases w.sendMngReply_mng text with
  | inl h => exact ⟨rfl, by rw [h], by rw [h], by rw [h], by simp [h]⟩
  | inr h =>
    refine ⟨rfl, ?_, ?_, ?_, ?_⟩
    · rw [h, MngSide.getMngServer_starts]
    · rw [h, MngSide.getMngServer_isMngRunning]
    · rw [h, MngSide.getMngServer_port]
    · intro k hk
      rw [h, MngSide.getMngServer_servers hk]

lemma normalizeMng_untouched (h : w.mng.isMngRunning = w.watchDog.hasToRestart .mng)
    (env : Environment) : w.Untouched (w.normalizeMng env).world := by
  rw [normalizeMng]
  simp only [ServersWatchDog.hasToRestart] at h
  cases hwish : w.watchDog.shouldMngBeStarted with
  | true =>
    rw [if_pos rfl, tryStartMng_running (h.trans hwish)]
    exact sendMngReply_untouched _
  | false =>
    rw [if_neg Bool.false_ne_true, tryStopMng_stopped (h.trans hwish)]
    exact sendMngReply_untouched _

lemma normalizeServersStates_of_not_stale (h : ¬ w.mng.Stale) {env : Environment} (he : env.Prompt) :
    (w.normalizeServersStates env).thrown = none :=
  (normalizeServersStates_thrown env).mpr ⟨fun _ => he.startFails w.vnc, fun _ => h⟩

lemma normalizeServersStates_settled (h : ¬ w.mng.Stale) {env : Environment} (he : env.Prompt) :
    (w.normalizeServersStates env).world.Settled := by
  have hv := w.normalizeVnc_vncOnly env
  have hthrown := normalizeServersStates_of_not_stale h he
  rw [normalizeServersStates, Result.andThen_of_none (Result.andThen_thrown.mp hthrown).1]
  have hm := (w.normalizeVnc env).world.normalizeMng_mngOnly env
  constructor
  · rw [hm.vnc, hm.watchDog, hv.watchDog]
    exact normalizeVnc_settled he
  · rw [hm.watchDog]
    exact normalizeMng_settled (hv.mng ▸ h) he

lemma normalizeServersStates_untouched (h : ¬ w.mng.Stale) (hs : w.Settled) {env : Environment}
    (he : env.Prompt) : w.Untouched (w.normalizeServersStates env).world := by
  have hv := w.normalizeVnc_vncOnly env
  have hthrown := normalizeServersStates_of_not_stale h he
  rw [normalizeServersStates, Result.andThen_of_none (Result.andThen_thrown.mp hthrown).1]
  have hvnc := normalizeVnc_untouched hs.vnc env
  have hmng : (w.normalizeVnc env).world.mng.isMngRunning =
      (w.normalizeVnc env).world.watchDog.hasToRestart .mng := by
    rw [hv.mng, hv.watchDog]
    exact hs.mng
  have hu := normalizeMng_untouched hmng env
  exact ⟨hu.vnc.trans hvnc, hv.mng ▸ hu.starts, hv.mng ▸ hu.running, hv.mng ▸ hu.port, hv.mng ▸ hu.servers⟩

end World

theorem tick_converges_and_is_idle {w₀ : World} (hborn : World.Born w₀) {es : List Event}
    (hes : ∀ e ∈ es, World.Expected e) {env : Environment} (he : env.Prompt) :
    let w := run step w₀ es
    let r := w.normalizeServersStates env
    r.thrown = none ∧ r.world.Settled ∧ (w.Settled → w.Untouched r.world) := by
  have halong : Along step (fun _ e => World.Expected e) w₀ es := along_of_forall hes
  have hstale := halong.invariant (fun w => ¬ w.mng.Stale)
    (fun _ e h he => World.step_not_stale e h he) hborn.not_stale
  exact ⟨World.normalizeServersStates_of_not_stale hstale he,
    World.normalizeServersStates_settled hstale he,
    fun hs => World.normalizeServersStates_untouched hstale hs he⟩

def diesAfterStart : List Event :=
  [.message (.plain .startMng) .quiet, .message (.plain .startVnc) .quiet, .vncDies 0]

theorem dead_vnc_is_started_again :
    (run step .created diesAfterStart).vnc.isRunning = false ∧
    ((run step .created diesAfterStart).normalizeServersStates .quiet).world.vnc.isRunning = true := by
  have hes : ∀ e ∈ diesAfterStart, World.Expected e := by
    intro e he
    simp only [diesAfterStart, List.mem_cons, List.not_mem_nil, or_false] at he
    rcases he with rfl | rfl | rfl
    · exact Environment.quiet_prompt
    · exact Environment.quiet_prompt
    · trivial
  obtain ⟨-, hsettled, -⟩ := tick_converges_and_is_idle .first hes Environment.quiet_prompt
  exact ⟨rfl, hsettled.vnc⟩

end AndroidRemote.Service
