import AndroidRemote.Service.Methods

/-! On which `ManagementServer` objects `Thread.start` is called, and how often. -/

namespace AndroidRemote.Service

open AndroidRemote.Library

namespace World

variable {w : World}

def startsMng (w : World) : Event → Bool
  | .message msg _ => decide (msg.what = .startMng)
  | .startCommand (some extras) env =>
    extras.startMng && !(extras.startVnc && w.vnc.startFails env.launch)
  | .tick env =>
    w.timerAlive && w.watchDog.shouldMngBeStarted &&
      !(w.watchDog.shouldVncBeStarter && w.vnc.startFails env.launch)
  | _ => false

def startsAfter (w : World) (reached : Bool) : List ℕ :=
  if reached = true ∧ w.mng.isMngRunning = false then w.mng.current :: w.mng.starts else w.mng.starts

lemma initMng_mng (port : ℤ) (bind : Bind) :
    (w.initMng port bind).world.mng = (w.tryStartMng port bind).world.mng := by
  rw [initMng, Result.andThen]
  cases (w.tryStartMng port bind).thrown <;> rfl

lemma stopMng_starts : w.stopMng.mng.starts = w.mng.starts := tryStopMng_starts

lemma tryStartMng_startsAfter (port : ℤ) (bind : Bind) :
    (w.tryStartMng port bind).world.mng.starts = w.startsAfter true := by
  rw [tryStartMng_starts, startsAfter]
  cases w.mng.isMngRunning <;> rfl

lemma settle_starts (r : Result) (env : Environment) :
    (r.settle env).mng.starts = r.world.mng.starts := by
  rw [Result.settle]
  split_ifs <;> rfl

lemma handleMessage_starts (msg : Message) (env : Environment) :
    (w.handleMessage msg env).world.mng.starts = w.startsAfter (decide (msg.what = .startMng)) := by
  cases hw : msg.what with
  | startVnc =>
    simp only [handleMessage, hw]
    exact congrArg MngSide.starts (tryStartVnc_vncOnly _ _ _ _).mng
  | stopVnc =>
    simp only [handleMessage, hw]
    exact congrArg MngSide.starts (tryStopVnc_vncOnly _).mng
  | startMng =>
    simp only [handleMessage, hw]
    exact tryStartMng_startsAfter _ _
  | stopMng =>
    simp only [handleMessage, hw]
    exact tryStopMng_starts
  | getAllServerStatus =>
    simp only [handleMessage, hw]
    exact sendMngReply_starts none

lemma startCommandMng_starts (extras : Extras) (env : Environment) :
    (w.startCommandMng extras env).world.mng.starts = w.startsAfter extras.startMng := by
  rw [startCommandMng]
  cases extras.startMng with
  | true =>
    rw [if_pos rfl, initMng_mng]
    exact tryStartMng_startsAfter _ _
  | false => exact stopMng_starts

lemma normalizeMng_starts (env : Environment) :
    (w.normalizeMng env).world.mng.starts = w.startsAfter w.watchDog.shouldMngBeStarted := by
  rw [normalizeMng]
  cases w.watchDog.shouldMngBeStarted with
  | true => exact tryStartMng_startsAfter _ _
  | false => exact tryStopMng_starts

lemma andThen_starts {r : Result} {f : World → Result} {reached : Bool} (hr : r.world.mng = w.mng)
    (hf : ∀ u : World, u.mng = w.mng → u = r.world → (f u).world.mng.starts = u.startsAfter reached) :
    (r.andThen f).world.mng.starts = w.startsAfter (reached && !r.thrown.isSome) := by
  rw [Result.andThen]
  cases ht : r.thrown with
  | none =>
    have h := hf r.world hr rfl
    simp only [startsAfter, hr] at h
    simpa [startsAfter] using h
  | some e => simp [startsAfter, hr]

lemma step_starts (e : Event) : (step w e).mng.starts = w.startsAfter (w.startsMng e) := by
  cases e with
  | message msg env =>
    rw [step, settle_starts]
    exact handleMessage_starts msg env
  | startCommand intent env =>
    rw [step, settle_starts]
    cases intent with
    | none => rfl
    | some extras =>
      rw [startsMng, ← startCommandVnc_isSome]
      exact andThen_starts (startCommandVnc_mng extras env)
        (fun u _ _ => startCommandMng_starts extras env)
  | tick env =>
    have hboth : (w.normalizeServersStates env).world.mng.starts =
        w.startsAfter (w.watchDog.shouldMngBeStarted && !(w.normalizeVnc env).thrown.isSome) := by
      apply andThen_starts (normalizeVnc_vncOnly env).mng
      intro u _ hu
      rw [normalizeMng_starts, hu, (normalizeVnc_vncOnly env).watchDog]
    cases hl : w.timerAlive with
    | true =>
      simp only [step, hl, if_true, startsMng, Bool.true_and, ← normalizeVnc_isSome, ← hboth]
      split_ifs <;> rfl
    | false => simp [step, hl, startsMng, startsAfter]
  | _ => rfl

lemma recreate_tracked (h : w.mng.Tracked) (activityDies : Bool) : (w.recreate activityDies).mng.Tracked := by
  refine ⟨by simp [recreate], ?_⟩
  intro k
  rw [show (w.recreate activityDies).mng.starts = w.mng.starts from rfl, h.started k]
  apply and_congr_right
  intro _
  simp only [recreate, ManagementServer.orphaned]
  split_ifs with hn <;> simp [hn]

lemma settle_tracked {r : Result} (h : r.world.mng.Tracked) (env : Environment) :
    (r.settle env).mng.Tracked := by
  rw [Result.settle]
  split_ifs
  · exact recreate_tracked h env.activityDies
  · exact h

lemma handleMessage_tracked (h : w.mng.Tracked) (msg : Message) (env : Environment) :
    (w.handleMessage msg env).world.mng.Tracked := by
  cases hw : msg.what with
  | startVnc =>
    simp only [handleMessage, hw]
    rw [(tryStartVnc_vncOnly _ _ _ _).mng]
    exact h
  | stopVnc =>
    simp only [handleMessage, hw, Result.ok_world]
    rw [(tryStopVnc_vncOnly _).mng]
    exact h
  | startMng =>
    simp only [handleMessage, hw]
    apply tryStartMng_tracked
    exact h
  | stopMng =>
    simp only [handleMessage, hw]
    apply tryStopMng_tracked
    exact h
  | getAllServerStatus =>
    simp only [handleMessage, hw]
    refine sendMngReply_tracked ?_ none
    exact h

lemma startCommandMng_tracked (h : w.mng.Tracked) (extras : Extras) (env : Environment) :
    (w.startCommandMng extras env).world.mng.Tracked := by
  rw [startCommandMng]
  split_ifs
  · rw [initMng_mng]
    exact tryStartMng_tracked h _ _
  · apply tryStopMng_tracked
    exact h

lemma normalizeMng_tracked (h : w.mng.Tracked) (env : Environment) :
    (w.normalizeMng env).world.mng.Tracked := by
  rw [normalizeMng]
  split_ifs
  · exact tryStartMng_tracked h _ _
  · exact tryStopMng_tracked h

lemma step_tracked (e : Event) (h : w.mng.Tracked) : (step w e).mng.Tracked := by
  cases e with
  | message msg env => exact settle_tracked (handleMessage_tracked h msg env) env
  | startCommand intent env =>
    apply settle_tracked
    cases intent with
    | none => exact h
    | some extras =>
      have hv : (w.startCommandVnc extras env).world.mng.Tracked := by
        rw [startCommandVnc_mng]
        exact h
      exact Result.andThen_invariant (fun u => u.mng.Tracked) hv
        (fun _ => startCommandMng_tracked hv extras env)
  | tick env =>
    have hv : (w.normalizeVnc env).world.mng.Tracked := by
      rw [(normalizeVnc_vncOnly env).mng]
      exact h
    have hboth : (w.normalizeServersStates env).world.mng.Tracked :=
      Result.andThen_invariant (fun u => u.mng.Tracked) hv (fun _ => normalizeMng_tracked hv env)
    simp only [step]
    split_ifs
    · exact hboth
    · exact hboth
    · exact h
  | vncAppears k => exact h
  | vncDies k => exact h
  | mngBound k =>
    apply h.set
    rw [ManagementServer.bound]
    split_ifs with hb <;> simp [hb]
  | mngBindFails k =>
    apply h.set
    rw [ManagementServer.bindFails]
    split_ifs with hb <;> simp [hb]
  | mngDies k =>
    apply h.set
    rw [ManagementServer.dies]
    split_ifs with hb <;> simp [hb]
  | unbind destroyed => exact h
  | recreate activityDies => exact recreate_tracked h activityDies

def NoRestart (w : World) (e : Event) : Prop := w.startsMng e = true → ¬ w.mng.Stale

lemma current_mem_starts (h : w.mng.Tracked) (hr : w.mng.isMngRunning = false) :
    w.mng.current ∈ w.mng.starts ↔ w.mng.Stale := by
  have hg := h.getMngServer
  have hk := hg.referenced _ w.mng.getMngServer_referenced
  rw [MngSide.stale_iff hr, ← w.mng.getMngServer_starts, hg.started]
  simp [hk]

lemma step_nodup_iff (e : Event) (h : w.mng.Tracked) (hn : w.mng.starts.Nodup) :
    (step w e).mng.starts.Nodup ↔ w.NoRestart e := by
  rw [step_starts, startsAfter, NoRestart]
  cases hr : w.mng.isMngRunning with
  | true => simp [hn, MngSide.not_stale_of_running hr]
  | false =>
    cases w.startsMng e with
    | true => simp [hn, current_mem_starts h hr]
    | false => simp [hn]

lemma created_tracked : created.mng.Tracked := by
  refine ⟨?_, ?_⟩ <;> simp [created]

end World

theorem started_at_most_once (es : List Event) :
    (run step .created es).mng.starts.Nodup ↔ Along step World.NoRestart .created es := by
  have hback : ∀ w e, (step w e).mng.starts.Nodup → w.mng.starts.Nodup := by
    intro w e h
    rw [World.step_starts, World.startsAfter] at h
    split_ifs at h
    · exact (List.nodup_cons.mp h).2
    · exact h
  refine (run_iff_along (fun w : World => w.mng.starts.Nodup) hback List.nodup_nil).trans ?_
  let I (w : World) : Prop := w.mng.Tracked ∧ w.mng.starts.Nodup
  refine along_congr I ?_ ?_ ⟨World.created_tracked, List.nodup_nil⟩
  · intro w e hi hp
    exact ⟨World.step_tracked e hi.1, hp⟩
  · intro w e hi
    exact World.step_nodup_iff e hi.1 hi.2

def takenPort : List Event :=
  [.message (.plain .startMng) { Environment.quiet with bind := .fails }, .tick .quiet]

theorem same_thread_started_twice : ¬ (run step .created takenPort).mng.starts.Nodup := by
  have hstarts : (run step .created takenPort).mng.starts = [0, 0] := rfl
  rw [hstarts]
  decide

end AndroidRemote.Service
