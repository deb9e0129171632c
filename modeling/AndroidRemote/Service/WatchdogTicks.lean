import AndroidRemote.Service.Methods

/-! What an exception does to a tick of the watch dog, and to the ticks after it. -/

namespace AndroidRemote.Service

open AndroidRemote.Library

namespace World

variable {w : World}

def MngDriven (w w' : World) (bind : Bind) : Prop :=
  if w.watchDog.shouldMngBeStarted then bind = .inTime → w'.mng.isMngRunning = true
  else w'.mng.isMngRunning = false

def TickDone (w : World) : Event → Prop
  | .tick env =>
    w.timerAlive = true ∧ (w.normalizeServersStates env).thrown = none ∧
      w.MngDriven (w.normalizeServersStates env).world env.bind
  | _ => True

def StartsCleanly (w : World) : Event → Prop
  | .tick env =>
    (w.watchDog.shouldVncBeStarter = true → w.vnc.startFails env.launch = false) ∧
      (w.watchDog.shouldMngBeStarted = true → ¬ w.mng.Stale)
  | _ => True

lemma normalizeVnc_thrown (env : Environment) : (w.normalizeVnc env).thrown = none ↔
    (w.watchDog.shouldVncBeStarter = true → w.vnc.startFails env.launch = false) := by
  rw [← Option.not_isSome_iff_eq_none, normalizeVnc_isSome]
  cases w.watchDog.shouldVncBeStarter <;> simp

lemma normalizeMng_thrown (env : Environment) : (w.normalizeMng env).thrown = none ↔
    (w.watchDog.shouldMngBeStarted = true → ¬ w.mng.Stale) := by
  rw [normalizeMng]
  cases w.watchDog.shouldMngBeStarted with
  | false => simp
  | true => simp [tryStartMng_thrown]

lemma normalizeMng_driven (env : Environment) (h : (w.normalizeMng env).thrown = none) :
    w.MngDriven (w.normalizeMng env).world env.bind := by
  rw [normalizeMng_thrown] at h
  rw [MngDriven, normalizeMng]
  cases hwish : w.watchDog.shouldMngBeStarted with
  | false => exact tryStopMng_isMngRunning
  | true =>
    intro hb
    cases hr : w.mng.isMngRunning with
    | true =>
      rw [if_pos rfl, tryStartMng_running hr]
      exact (sendMngReply_isMngRunning _).trans hr
    | false =>
      have hfresh := MngSide.startMngServer_fresh hr (h hwish) w.watchDog.mngPort env.bind
      rw [if_pos rfl, tryStartMng_fresh hr (h hwish)]
      refine (sendMngReply_isMngRunning _).trans (hfresh.2.trans ?_)
      simp [hb]

lemma normalizeServersStates_thrown (env : Environment) :
    (w.normalizeServersStates env).thrown = none ↔ w.StartsCleanly (.tick env) := by
  have hv := w.normalizeVnc_vncOnly env
  rw [normalizeServersStates, Result.andThen_thrown, normalizeVnc_thrown, normalizeMng_thrown,
    hv.watchDog, hv.mng]
  rfl

lemma tickDone_iff (ha : w.timerAlive = true) (e : Event) : w.TickDone e ↔ w.StartsCleanly e := by
  cases e with
  | tick env =>
    rw [← normalizeServersStates_thrown]
    simp only [TickDone, ha, true_and]
    constructor
    · exact And.left
    · intro h
      refine ⟨h, ?_⟩
      have hv := w.normalizeVnc_vncOnly env
      obtain ⟨hvnc, hmng⟩ := Result.andThen_thrown.mp h
      have hdriven := normalizeMng_driven env hmng
      rw [MngDriven, hv.watchDog] at hdriven
      rw [normalizeServersStates, Result.andThen_of_none hvnc]
      exact hdriven
  | _ => exact Iff.rfl

lemma normalizeServersStates_timerAlive (env : Environment) :
    (w.normalizeServersStates env).world.timerAlive = w.timerAlive := by
  have hv := (w.normalizeVnc_vncOnly env).timerAlive
  refine Result.andThen_invariant (fun u => u.timerAlive = w.timerAlive) hv ?_
  intro _
  exact (normalizeMng_mngOnly env).timerAlive.trans hv

lemma handleMessage_timerAlive (msg : Message) (env : Environment) :
    (w.handleMessage msg env).world.timerAlive = w.timerAlive := by
  cases hw : msg.what with
  | startVnc =>
    simp only [handleMessage, hw]
    exact (tryStartVnc_vncOnly _ _ _ _).timerAlive
  | stopVnc =>
    simp only [handleMessage, hw]
    exact (tryStopVnc_vncOnly _).timerAlive
  | startMng =>
    simp only [handleMessage, hw]
    exact (tryStartMng_mngOnly _ _).timerAlive
  | stopMng =>
    simp only [handleMessage, hw]
    exact tryStopMng_mngOnly.timerAlive
  | getAllServerStatus =>
    simp only [handleMessage, hw]
    rfl

lemma startCommandVnc_timerAlive (extras : Extras) (env : Environment) :
    (w.startCommandVnc extras env).world.timerAlive = w.timerAlive := by
  rw [startCommandVnc]
  split_ifs
  · have hv := (w.tryStartVnc_vncOnly (extras.vncPort.getD vncDefaultPort)
      (extras.scaleFactor.getD defaultScaleFactor) (extras.rotation.getD defaultRotationFactor)
      env.launch).timerAlive
    exact Result.andThen_invariant (fun u => u.timerAlive = w.timerAlive) hv (fun _ => hv)
  · exact (tryStopVnc_vncOnly env.kill).timerAlive

lemma startCommandMng_timerAlive (extras : Extras) (env : Environment) :
    (w.startCommandMng extras env).world.timerAlive = w.timerAlive := by
  rw [startCommandMng]
  split_ifs
  · have hm := (w.tryStartMng_mngOnly (extras.mngPort.getD mngDefaultPort) env.bind).timerAlive
    exact Result.andThen_invariant (fun u => u.timerAlive = w.timerAlive) hm (fun _ => hm)
  · exact tryStopMng_mngOnly.timerAlive

lemma settle_timerAlive {r : Result} (h : r.world.timerAlive = true) (env : Environment) :
    (r.settle env).timerAlive = true := by
  rw [Result.settle]
  split_ifs
  · rfl
  · exact h

lemma step_timerAlive (e : Event) (ha : w.timerAlive = true) (hd : w.TickDone e) :
    (step w e).timerAlive = true := by
  cases e with
  | message msg env => exact settle_timerAlive ((handleMessage_timerAlive msg env).trans ha) env
  | startCommand intent env =>
    apply settle_timerAlive
    cases intent with
    | none => exact ha
    | some extras =>
      have hv := (startCommandVnc_timerAlive extras env).trans ha
      exact Result.andThen_invariant (fun u => u.timerAlive = true) hv
        (fun _ => (startCommandMng_timerAlive extras env).trans hv)
  | tick env =>
    have hb := (normalizeServersStates_timerAlive env).trans ha
    simpa [step, ha, hd.2.1] using hb
  | recreate activityDies => rfl
  | _ => exact ha

end World

theorem every_tick_takes_place (es : List Event) :
    Along step World.TickDone .created es ↔ Along step World.StartsCleanly .created es :=
  along_congr (fun w => w.timerAlive = true) (fun _ e ha hd => World.step_timerAlive e ha hd)
    (fun _ e ha => World.tickDone_iff ha e) rfl

def failingLaunch : List Event :=
  [.message (.plain .startVnc) .quiet, .vncDies 0,
    .tick { Environment.quiet with launch := .throws "Permission denied" }]

theorem failing_launch_ends_the_ticks : ¬ Along step World.TickDone .created failingLaunch := by
  rintro ⟨-, -, hdone, -⟩
  have hthrown := hdone.2.1
  cases hthrown

end AndroidRemote.Service
