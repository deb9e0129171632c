import AndroidRemote.Service.WatchdogTicks

/-! What the activity shows of the servers against what the service has seen of them. -/

namespace AndroidRemote.Service

open AndroidRemote.Library

def Kill.fails : Kill → Bool
  | .throws _ _ => true
  | .runs _ => false

def Kill.killed : Kill → ℕ → Bool
  | .throws _ killed => killed
  | .runs killed => killed

namespace VncSide

variable {v : VncSide}

def comesUp (v : VncSide) : Launch → Bool
  | .throws _ => v.isRunning
  | .runs launched appeared =>
    v.isRunning || (List.range (v.processes.length + launched.toNat)).any appeared

def goesOn (v : VncSide) (kill : Kill) : Bool :=
  (remaining kill.killed v.processes).any NativeProcess.visible

lemma reveal_isRunning (appeared : ℕ → Bool) (ps : List NativeProcess) :
    (reveal appeared ps).any NativeProcess.visible =
      (ps.any NativeProcess.visible || (List.range ps.length).any appeared) := by
  rw [Bool.eq_iff_iff]
  simp only [reveal, List.any_eq_true, List.mem_mapIdx, Bool.or_eq_true, List.mem_range]
  constructor
  · rintro ⟨p, ⟨k, hk, rfl⟩, hv⟩
    rw [Bool.or_eq_true] at hv
    cases hv with
    | inl hv => exact .inl ⟨_, List.getElem_mem hk, hv⟩
    | inr ha => exact .inr ⟨k, hk, ha⟩
  · rintro (⟨p, hp, hv⟩ | ⟨k, hk, ha⟩)
    · obtain ⟨k, hk, rfl⟩ := List.getElem_of_mem hp
      exact ⟨_, ⟨k, hk, rfl⟩, by simp [hv]⟩
    · exact ⟨_, ⟨k, hk, rfl⟩, by simp [ha]⟩

lemma startVncServer_isRunning (port scaleFactor rotation : ℤ) (launched : Bool) (appeared : ℕ → Bool) :
    (v.startVncServer port scaleFactor rotation (.runs launched appeared)).1.isRunning =
      v.comesUp (.runs launched appeared) := by
  simp only [startVncServer, isRunning, comesUp, reveal_isRunning]
  cases launched <;> simp

lemma stopVncServer_isRunning (kill : Kill) : (v.stopVncServer kill).1.isRunning = v.goesOn kill := by
  cases kill <;> rfl

end VncSide

namespace Talk

variable {t : Talk} {s s' : Server} {current : Bool} {port : ℤ} {text : Option Text} {ports : List ℤ}

def Same (t : Talk) (s : Server) : Prop := t.mClient = true → t.cached s = t.shows s

def Agrees (t : Talk) : Prop := ∀ r ∈ t.reports, r.attached = true → r.shown = r.observed

structure InView (t : Talk) : Prop where
  same : ∀ s, t.Same s
  agrees : t.Agrees

lemma sendClient_shows (hc : t.mClient = true) :
    (t.sendClient ⟨stateReply current s, port, text⟩).shows s = current := by
  cases s <;> cases current <;> cases text <;>
    simp [sendClient, hc, shows, Activity.handleMessage, stateReply]

lemma sendClient_shows_other (hs : s' ≠ s) :
    (t.sendClient ⟨stateReply current s, port, text⟩).shows s' = t.shows s' := by
  cases hc : t.mClient with
  | false => simp [sendClient, hc]
  | true =>
    cases s <;> cases s' <;> cases current <;> cases text <;>
      simp_all [sendClient, shows, Activity.handleMessage, stateReply]

lemma setCached_cached : (t.setCached current s).cached s = current := by
  cases s <;> rfl

lemma setCached_cached_other (hs : s' ≠ s) : (t.setCached current s).cached s' = t.cached s' := by
  cases s <;> cases s' <;> simp_all [setCached, cached]

lemma setCached_shows : (t.setCached current s).shows s' = t.shows s' := by
  cases s <;> cases s' <;> rfl

lemma setCached_mClient : (t.setCached current s).mClient = t.mClient := by
  cases s <;> rfl

lemma setCached_reports : (t.setCached current s).reports = t.reports := by
  cases s <;> rfl

lemma sendClient_mClient (reply : Reply) : (t.sendClient reply).mClient = t.mClient := by
  rw [sendClient]
  split_ifs <;> rfl

lemma sendClient_cached (reply : Reply) : (t.sendClient reply).cached s = t.cached s := by
  rw [sendClient]
  split_ifs <;> cases s <;> rfl

lemma tell_shows (hc : t.mClient = true) (h : t.cached s = current → t.shows s = current) :
    (t.tell s current port text).shows s = current := by
  rw [tell]
  split_ifs with hne
  · exact sendClient_shows hc
  · exact h (not_not.mp hne)

lemma tell_shows_other (hs : s' ≠ s) : (t.tell s current port text).shows s' = t.shows s' := by
  rw [tell]
  split_ifs
  · exact sendClient_shows_other hs
  · rfl

lemma tell_cached : (t.tell s current port text).cached s' = t.cached s' := by
  rw [tell]
  split_ifs
  · exact sendClient_cached _
  · rfl

lemma tell_mClient : (t.tell s current port text).mClient = t.mClient := by
  rw [tell]
  split_ifs
  · exact sendClient_mClient _
  · rfl

lemma sendReply_mClient : (t.sendReply s current port text ports).mClient = t.mClient :=
  setCached_mClient.trans tell_mClient

lemma shows_reports (rs : List Report) : shows { t with reports := rs } s' = t.shows s' := by
  cases s' <;> rfl

lemma cached_reports (rs : List Report) : cached { t with reports := rs } s' = t.cached s' := by
  cases s' <;> rfl

lemma sendReply_shows :
    (t.sendReply s current port text ports).shows s' = (t.tell s current port text).shows s' :=
  (shows_reports _).trans setCached_shows

lemma sendReply_cached : (t.sendReply s current port text ports).cached s' =
    ((t.tell s current port text).setCached current s).cached s' := cached_reports _

lemma sendReply_same (h : t.mClient = true → t.cached s = current → t.shows s = current) :
    (t.sendReply s current port text ports).Same s := by
  intro hc
  rw [sendReply_mClient] at hc
  rw [sendReply_cached, setCached_cached, sendReply_shows, tell_shows hc (h hc)]

lemma sendReply_same_other (hs : s' ≠ s) (h : t.Same s') :
    (t.sendReply s current port text ports).Same s' := by
  intro hc
  rw [sendReply_mClient] at hc
  rw [sendReply_cached, setCached_cached_other hs, tell_cached, sendReply_shows, tell_shows_other hs]
  exact h hc

lemma sendReply_agrees (ha : t.Agrees)
    (h : t.mClient = true → t.cached s = current → t.shows s = current) :
    (t.sendReply s current port text ports).Agrees := by
  intro r hr
  simp only [sendReply, List.mem_cons] at hr
  cases hr with
  | inr hold => exact ha r hold
  | inl hnew =>
    subst hnew
    intro hc
    exact setCached_shows.trans (tell_shows hc (h hc))

lemma sendReply_inView (ha : t.Agrees) (hother : ∀ s', s' ≠ s → t.Same s')
    (h : t.mClient = true → t.cached s = current → t.shows s = current) :
    (t.sendReply s current port text ports).InView := by
  refine ⟨?_, sendReply_agrees ha h⟩
  intro s'
  by_cases hs : s' = s
  · subst hs
    exact sendReply_same h
  · exact sendReply_same_other hs (hother s' hs)

lemma InView.sendReply (hv : t.InView) : (t.sendReply s current port text ports).InView := by
  refine sendReply_inView hv.agrees (fun s' _ => hv.same s') ?_
  intro hc hcur
  rw [← hv.same s hc, hcur]

lemma InView.sendMessage (hv : t.InView) (message : Text) :
    (t.sendClient ⟨.showMessage, 0, some message⟩).InView := by
  have hshows : ∀ s, (t.sendClient ⟨.showMessage, 0, some message⟩).shows s = t.shows s := by
    intro s
    rw [sendClient]
    split_ifs <;> cases s <;> rfl
  refine ⟨?_, ?_⟩
  · intro s hc
    rw [sendClient_mClient] at hc
    rw [sendClient_cached, hshows]
    exact hv.same s hc
  · intro r hr
    have hold : (t.sendClient ⟨.showMessage, 0, some message⟩).reports = t.reports := by
      rw [sendClient]
      split_ifs <;> rfl
    rw [hold] at hr
    exact hv.agrees r hr

lemma InView.reply_after {b : Bool} (hv : t.InView)
    (h : t.mClient = true → current = b → t.shows s = b) :
    ((t.setCached b s).sendReply s current port text ports).InView := by
  refine sendReply_inView ?_ ?_ ?_
  · intro r hr
    rw [setCached_reports] at hr
    exact hv.agrees r hr
  · intro s' hs hc
    rw [setCached_mClient] at hc
    rw [setCached_cached_other hs, setCached_shows]
    exact hv.same s' hc
  · intro hc hcur
    rw [setCached_mClient] at hc
    rw [setCached_cached] at hcur
    rw [setCached_shows, h hc hcur.symm, hcur]

lemma InView.attend {c : Bool} (hv : t.InView) (hc : c = true → t.mClient = true) :
    InView { t with mClient := c } := by
  refine ⟨?_, hv.agrees⟩
  intro s hs
  have hsame := hv.same s (hc hs)
  cases s <;> exact hsame

end Talk

namespace World

variable {w : World}

lemma tryStartVnc_talk (port scaleFactor rotation : ℤ) (launch : Launch) :
    (w.tryStartVnc port scaleFactor rotation launch).world.talk = w.talk ∧
      (w.tryStartVnc port scaleFactor rotation launch).thrown ≠ none ∧
      w.vnc.isRunning = false ∧ launch.fails = true ∨
    (w.tryStartVnc port scaleFactor rotation launch).thrown = none ∧
      (launch.fails = true → w.vnc.comesUp launch = true) ∧ ∃ p text ports,
        (w.tryStartVnc port scaleFactor rotation launch).world.talk =
          w.talk.sendReply .vnc (w.vnc.comesUp launch) p text ports := by
  cases hr : w.vnc.isRunning with
  | true =>
    have hup : w.vnc.comesUp launch = true := by
      cases launch <;> simp [VncSide.comesUp, hr]
    right
    rw [tryStartVnc_running hr, hup]
    exact ⟨rfl, fun _ => rfl, _, _, _, congrArg (fun o => w.talk.sendReply .vnc o _ _ _) hr⟩
  | false =>
    cases launch with
    | throws message =>
      left
      rw [tryStartVnc_throws hr]
      exact ⟨rfl, by simp, rfl, rfl⟩
    | runs launched appeared =>
      right
      rw [tryStartVnc_runs hr, ← VncSide.startVncServer_isRunning port scaleFactor rotation]
      exact ⟨rfl, by simp [Launch.fails], _, _, _, rfl⟩

lemma tryStopVnc_talk (kill : Kill) :
    (w.vnc.isRunning = true ∧ kill.fails = true ∧
      ∃ message, (w.tryStopVnc kill).talk = w.talk.sendClient ⟨.showMessage, 0, some message⟩) ∨
    ((w.vnc.isRunning = true → kill.fails = false) ∧ ∃ port text ports, (w.tryStopVnc kill).talk =
      w.talk.sendReply .vnc (w.vnc.isRunning && w.vnc.goesOn kill) port text ports) := by
  cases hr : w.vnc.isRunning with
  | false =>
    right
    refine ⟨by simp, w.vnc.getVncPort, some (.resource .vncNotRunning),
      (w.vnc.processes.filter NativeProcess.visible).map NativeProcess.port, ?_⟩
    simp [tryStopVnc, hr, sendVncReply]
  | true =>
    cases kill with
    | throws message killed =>
      left
      refine ⟨rfl, rfl, .message ("stopServer():" ++ message), ?_⟩
      simp [tryStopVnc, hr, VncSide.stopVncServer, sendClientMessage]
    | runs killed =>
      right
      let v := (w.vnc.stopVncServer (.runs killed)).1
      refine ⟨fun _ => rfl, v.getVncPort, some (.resource .vncStopped),
        (v.processes.filter NativeProcess.visible).map NativeProcess.port, ?_⟩
      rw [Bool.true_and, ← VncSide.stopVncServer_isRunning, tryStopVnc, if_pos hr]
      rfl

lemma tryStartMng_talk (port : ℤ) (bind : Bind) :
    (w.tryStartMng port bind).world.talk = w.talk ∧ (w.tryStartMng port bind).thrown ≠ none ∧
      w.mng.Stale ∨
    (w.tryStartMng port bind).thrown = none ∧ ∃ p text, (w.tryStartMng port bind).world.talk =
      w.talk.sendReply .mng (w.mng.isMngRunning || decide (bind = .inTime)) p text [] := by
  cases hr : w.mng.isMngRunning with
  | true =>
    right
    rw [tryStartMng_running hr]
    obtain ⟨p, hp⟩ := w.sendMngReply_talk (some (.resource .managementServerStillRunning))
    rw [hr] at hp
    exact ⟨rfl, p, _, hp⟩
  | false =>
    by_cases hs : w.mng.Stale
    · left
      rw [tryStartMng_stale hr hs]
      exact ⟨rfl, by simp, hs⟩
    · right
      rw [tryStartMng_fresh hr hs]
      let u := { w with mng := (w.mng.startMngServer port bind).1 }
      obtain ⟨p, hp⟩ := u.sendMngReply_talk (some (.resource .mngStarted))
      rw [show u.mng.isMngRunning = _ from (MngSide.startMngServer_fresh hr hs port bind).2] at hp
      exact ⟨rfl, p, _, hp⟩

lemma tryStopMng_talk : ∃ p text, w.tryStopMng.talk = w.talk.sendReply .mng false p text [] := by
  cases hr : w.mng.isMngRunning with
  | true =>
    rw [tryStopMng_running hr]
    let u := { w with mng := w.mng.stopMngServer }
    obtain ⟨p, hp⟩ := u.sendMngReply_talk (some (.resource .mngStopped))
    rw [show u.mng.isMngRunning = false from MngSide.stopMngServer_isMngRunning] at hp
    exact ⟨p, _, hp⟩
  | false =>
    rw [tryStopMng_stopped hr]
    obtain ⟨p, hp⟩ := w.sendMngReply_talk (some (.resource .managementNotRunning))
    rw [hr] at hp
    exact ⟨p, _, hp⟩

lemma tryStartVnc_inView (hv : w.talk.InView) (port scaleFactor rotation : ℤ) (launch : Launch) :
    (w.tryStartVnc port scaleFactor rotation launch).world.talk.InView := by
  rcases w.tryStartVnc_talk port scaleFactor rotation launch with ⟨ht, -⟩ | ⟨-, -, p, text, ports, ht⟩
  · rw [ht]
    exact hv
  · rw [ht]
    exact hv.sendReply

lemma tryStopVnc_inView (hv : w.talk.InView) (kill : Kill) : (w.tryStopVnc kill).talk.InView := by
  rcases w.tryStopVnc_talk kill with ⟨-, -, message, ht⟩ | ⟨-, p, text, ports, ht⟩
  · rw [ht]
    exact hv.sendMessage message
  · rw [ht]
    exact hv.sendReply

lemma tryStartMng_inView (hv : w.talk.InView) (port : ℤ) (bind : Bind) :
    (w.tryStartMng port bind).world.talk.InView := by
  rcases w.tryStartMng_talk port bind with ⟨ht, -⟩ | ⟨-, p, text, ht⟩
  · rw [ht]
    exact hv
  · rw [ht]
    exact hv.sendReply

lemma tryStopMng_inView (hv : w.talk.InView) : w.tryStopMng.talk.InView := by
  obtain ⟨p, text, ht⟩ := w.tryStopMng_talk
  rw [ht]
  exact hv.sendReply

lemma recreate_inView (ha : w.talk.Agrees) (activityDies : Bool) :
    (w.recreate activityDies).talk.InView := by
  refine ⟨?_, ha⟩
  intro s hc
  cases hc

lemma settle_inView {r : Result} (ha : r.thrown ≠ none → r.world.talk.Agrees)
    (hv : r.thrown = none → r.world.talk.InView) (env : Environment) : (r.settle env).talk.InView := by
  rw [Result.settle]
  cases ht : r.thrown with
  | none => exact hv ht
  | some e => exact recreate_inView (ha (by simp [ht])) env.activityDies

lemma startCommandVnc_inView (hv : w.talk.InView) (extras : Extras) (env : Environment) :
    (w.startCommandVnc extras env).world.talk.InView := by
  rw [startCommandVnc]
  split_ifs
  · have hs := tryStartVnc_inView hv (extras.vncPort.getD vncDefaultPort)
      (extras.scaleFactor.getD defaultScaleFactor) (extras.rotation.getD defaultRotationFactor) env.launch
    exact Result.andThen_invariant (fun u => u.talk.InView) hs (fun _ => hs)
  · refine tryStopVnc_inView ?_ env.kill
    exact hv

lemma startCommandMng_inView (hv : w.talk.InView) (extras : Extras) (env : Environment) :
    (w.startCommandMng extras env).world.talk.InView := by
  rw [startCommandMng]
  split_ifs
  · have hs := tryStartMng_inView hv (extras.mngPort.getD mngDefaultPort) env.bind
    exact Result.andThen_invariant (fun u => u.talk.InView) hs (fun _ => hs)
  · apply tryStopMng_inView
    exact hv

lemma normalizeServersStates_inView (hv : w.talk.InView) (env : Environment) :
    (w.normalizeServersStates env).world.talk.InView := by
  have hvnc : (w.normalizeVnc env).world.talk.InView := by
    simp only [normalizeVnc]
    split_ifs
    · exact tryStartVnc_inView hv _ _ _ _
    · exact tryStopVnc_inView hv env.kill
  refine Result.andThen_invariant (fun u => u.talk.InView) hvnc ?_
  intro _
  rw [normalizeMng]
  split_ifs
  · exact tryStartMng_inView hvnc _ _
  · exact tryStopMng_inView hvnc

def Greets (w : World) : Event → Prop
  | .message msg _ =>
    msg.replyTo = true → w.talk.mClient = false → msg.what = .getAllServerStatus
  | _ => True

/-- Where a handler writes the cache by hand, the activity shows what was written, or the
server ends up in the other state. -/
def Tells (w : World) : Event → Prop
  | .message msg env =>
    (msg.replyTo || w.talk.mClient) = true →
    match msg.what with
    | .startVnc => w.talk.shows .vnc = true → env.launch.fails = true ∨ w.vnc.comesUp env.launch = true
    | .stopVnc => w.talk.shows .vnc = false → w.vnc.isRunning = true →
        env.kill.fails = false ∧ w.vnc.goesOn env.kill = false
    | .startMng => w.talk.shows .mng = true →
        w.mng.isMngRunning = true ∨ w.mng.Stale ∨ env.bind = .inTime
    | .stopMng => True
    | .getAllServerStatus =>
        (w.talk.shows .vnc = true → w.vnc.isRunning = true) ∧
          (w.talk.shows .mng = true → w.mng.isMngRunning = true)
  | _ => True

lemma setCached_agrees {t : Talk} (ha : t.Agrees) (running : Bool) (s : Server) :
    (t.setCached running s).Agrees := by
  intro r hr
  rw [Talk.setCached_reports] at hr
  exact ha r hr

lemma sendServersState_inView (ha : w.talk.Agrees)
    (hvnc : w.talk.mClient = true → w.talk.shows .vnc = true → w.vnc.isRunning = true)
    (hmng : w.talk.mClient = true → w.talk.shows .mng = true → w.mng.isMngRunning = true) :
    w.sendServersState.talk.InView := by
  let t := (w.talk.setCached false .mng).setCached false .vnc
  obtain ⟨p, hp⟩ := World.sendMngReply_talk (w := { w with talk := t }) none
  have hstale : ∀ s (running : Bool), (w.talk.shows s = true → running = true) → false = running →
      w.talk.shows s = running := by
    intro s running h hr
    subst hr
    cases hs : w.talk.shows s with
    | false => rfl
    | true => cases h hs
  have hfirst : t.mClient = true → t.cached .mng = w.mng.isMngRunning → t.shows .mng = w.mng.isMngRunning :=
    fun hc hcur => hstale .mng _ (hmng hc) hcur
  have hagrees : t.Agrees := setCached_agrees (setCached_agrees ha _ _) _ _
  change (World.sendVncReply (World.sendMngReply { w with talk := t } none) none).talk.InView
  simp only [sendVncReply, (World.sendMngReply_mngOnly _).vnc, hp]
  refine Talk.sendReply_inView (Talk.sendReply_agrees hagrees hfirst) ?_ ?_
  · intro s hs
    have hs : s = .mng := by
      cases s
      · exact absurd rfl hs
      · rfl
    subst hs
    exact Talk.sendReply_same hfirst
  · intro hc hcur
    rw [Talk.sendReply_mClient] at hc
    rw [Talk.sendReply_cached, Talk.setCached_cached_other (by decide), Talk.tell_cached] at hcur
    rw [Talk.sendReply_shows, Talk.tell_shows_other (by decide)]
    exact hstale .vnc _ (hvnc hc) hcur

def Result.Told (r : Result) : Prop :=
  (r.thrown ≠ none → r.world.talk.Agrees) ∧ (r.thrown = none → r.world.talk.InView)

lemma Result.told_of_inView {r : Result} (h : r.world.talk.InView) : Result.Told r :=
  ⟨fun _ => h.agrees, fun _ => h⟩

lemma tryStartVnc_told {t : Talk} (hw : w.talk = t.setCached false .vnc) (hv : t.InView) {launch : Launch}
    (h : t.mClient = true → t.shows .vnc = true → launch.fails = true ∨ w.vnc.comesUp launch = true)
    (port scaleFactor rotation : ℤ) : Result.Told (w.tryStartVnc port scaleFactor rotation launch) := by
  rcases w.tryStartVnc_talk port scaleFactor rotation launch with
    ⟨ht, hthrown, -⟩ | ⟨-, hfails, p, text, ports, ht⟩
  · refine ⟨fun _ => ?_, fun hn => absurd hn hthrown⟩
    rw [ht, hw]
    exact setCached_agrees hv.agrees _ _
  · apply Result.told_of_inView
    rw [ht, hw]
    apply hv.reply_after
    intro hc hdown
    by_contra hs
    rcases h hc (Bool.eq_true_of_not_eq_false hs) with hf | hup
    · simp [hfails hf] at hdown
    · simp [hup] at hdown

lemma tryStopVnc_told {t : Talk} (hw : w.talk = t.setCached true .vnc) (hv : t.InView) {kill : Kill}
    (h : t.mClient = true → t.shows .vnc = false → w.vnc.isRunning = true →
      kill.fails = false ∧ w.vnc.goesOn kill = false) : (w.tryStopVnc kill).talk.InView := by
  rcases w.tryStopVnc_talk kill with ⟨hrun, hfails, message, ht⟩ | ⟨-, p, text, ports, ht⟩
  · rw [ht, hw]
    refine Talk.InView.sendMessage ⟨?_, setCached_agrees hv.agrees _ _⟩ message
    intro s hc
    rw [Talk.setCached_mClient] at hc
    rw [Talk.setCached_shows]
    by_cases hs : s = .vnc
    · subst hs
      rw [Talk.setCached_cached]
      by_contra hshow
      have hquiet := h hc (Bool.eq_false_of_not_eq_true (fun h => hshow h.symm)) hrun
      rw [hfails] at hquiet
      cases hquiet.1
    · rw [Talk.setCached_cached_other hs]
      exact hv.same s hc
  · rw [ht, hw]
    apply hv.reply_after
    intro hc hup
    by_contra hs
    rw [Bool.and_eq_true] at hup
    have hquiet := h hc (Bool.eq_false_of_not_eq_true hs) hup.1
    rw [hup.2] at hquiet
    cases hquiet.2

lemma tryStartMng_told {t : Talk} (hw : w.talk = t.setCached false .mng) (hv : t.InView) {bind : Bind}
    (h : t.mClient = true → t.shows .mng = true →
      w.mng.isMngRunning = true ∨ w.mng.Stale ∨ bind = .inTime)
    (port : ℤ) : Result.Told (w.tryStartMng port bind) := by
  rcases w.tryStartMng_talk port bind with ⟨ht, hthrown, -⟩ | ⟨hnone, p, text, ht⟩
  · refine ⟨fun _ => ?_, fun hn => absurd hn hthrown⟩
    rw [ht, hw]
    exact setCached_agrees hv.agrees _ _
  · apply Result.told_of_inView
    rw [ht, hw]
    apply hv.reply_after
    intro hc hdown
    by_contra hs
    rw [tryStartMng_thrown] at hnone
    rcases h hc (Bool.eq_true_of_not_eq_false hs) with hrun | hstale | hb
    · simp [hrun] at hdown
    · exact hnone hstale
    · simp [hb] at hdown

lemma tryStopMng_told {t : Talk} (hw : w.talk = t.setCached true .mng) (hv : t.InView) :
    w.tryStopMng.talk.InView := by
  obtain ⟨p, text, ht⟩ := w.tryStopMng_talk
  rw [ht, hw]
  apply hv.reply_after
  intro _ hdown
  cases hdown

lemma handleMessage_told (hv : w.talk.InView) (msg : Message) (env : Environment)
    (hg : w.Greets (.message msg env)) (ht : w.Tells (.message msg env)) :
    Result.Told (w.handleMessage msg env) := by
  let t : Talk := { w.talk with mClient := msg.replyTo || w.talk.mClient }
  have hshows : ∀ s, t.shows s = w.talk.shows s := by
    intro s
    cases s <;> rfl
  have hattend : msg.what ≠ .getAllServerStatus → t.InView := by
    intro hne
    apply hv.attend
    intro hc
    cases hm : w.talk.mClient with
    | true => rfl
    | false =>
      rw [hm, Bool.or_false] at hc
      exact absurd (hg hc hm) hne
  simp only [Tells, ← hshows] at ht
  cases hw : msg.what with
  | startVnc =>
    rw [hw] at ht
    simp only [handleMessage, hw]
    apply tryStartVnc_told rfl (hattend (by simp [hw]))
    exact ht
  | stopVnc =>
    rw [hw] at ht
    simp only [handleMessage, hw]
    apply Result.told_of_inView
    apply tryStopVnc_told rfl (hattend (by simp [hw]))
    exact ht
  | startMng =>
    rw [hw] at ht
    simp only [handleMessage, hw]
    apply tryStartMng_told rfl (hattend (by simp [hw]))
    exact ht
  | stopMng =>
    simp only [handleMessage, hw]
    apply Result.told_of_inView
    exact tryStopMng_told rfl (hattend (by simp [hw]))
  | getAllServerStatus =>
    rw [hw] at ht
    simp only [handleMessage, hw]
    apply Result.told_of_inView
    apply sendServersState_inView
    · exact hv.agrees
    · exact fun hc => (ht hc).1
    · exact fun hc => (ht hc).2

lemma step_inView (w : World) (e : Event) (hv : w.talk.InView) (hg : w.Greets e) (ht : w.Tells e) :
    (step w e).talk.InView := by
  cases e with
  | message msg env =>
    have htold := handleMessage_told hv msg env hg ht
    exact settle_inView htold.1 htold.2 env
  | startCommand intent env =>
    have hview : (w.onStartCommand intent env).world.talk.InView := by
      cases intent with
      | none => exact hv
      | some extras =>
        have hvnc := startCommandVnc_inView hv extras env
        exact Result.andThen_invariant (fun u => u.talk.InView) hvnc
          (fun _ => startCommandMng_inView hvnc extras env)
    exact settle_inView (fun _ => hview.agrees) (fun _ => hview) env
  | tick env =>
    have hboth := normalizeServersStates_inView hv env
    simp only [step]
    split_ifs
    · exact hboth
    · exact hboth
    · exact hv
  | unbind destroyed =>
    refine ⟨?_, hv.agrees⟩
    intro s hc
    cases hc
  | recreate activityDies => exact recreate_inView hv.agrees activityDies
  | _ => exact hv

lemma created_inView : created.talk.InView := by
  refine ⟨?_, ?_⟩
  · intro s hc
    cases hc
  · intro r hr
    cases hr

end World

theorem activity_shows_what_was_observed (es : List Event) (hg : Along step World.Greets .created es)
    (ht : Along step World.Tells .created es) :
    ∀ r ∈ (run step .created es).talk.reports, r.attached = true → r.shown = r.observed := by
  have hview := (hg.and ht).invariant (fun w => w.talk.InView)
    (fun w e hv h => World.step_inView w e hv h.1 h.2) World.created_inView
  exact hview.agrees

def revivedServer : List Event :=
  [.message (.plain .getAllServerStatus) .quiet, .message (.plain .startVnc) .quiet, .vncDies 0,
    .tick .quiet, .message (.plain .stopVnc) .quiet]

theorem activity_shows_revived : (run step .created revivedServer).talk.reports.length = 6 ∧
    ∀ r ∈ (run step .created revivedServer).talk.reports,
      r.attached = true → r.shown = r.observed := by
  refine ⟨rfl, ?_⟩
  apply activity_shows_what_was_observed
  · simp only [revivedServer, along_cons, along_nil]
    refine ⟨fun _ _ => rfl, fun _ h => ?_, trivial, trivial, fun _ h => ?_, trivial⟩
    · cases h
    · cases h
  · simp only [revivedServer, along_cons, along_nil]
    refine ⟨fun _ => ⟨fun h => ?_, fun h => ?_⟩, fun _ h => ?_, trivial, trivial, fun _ h => ?_, trivial⟩
    · cases h
    · cases h
    · cases h
    · cases h

def lostServer : List Event :=
  [.message (.plain .getAllServerStatus) .quiet, .message (.plain .startVnc) .quiet, .vncDies 0,
    .message (.plain .getAllServerStatus) .quiet]

theorem lost_server_still_shown : Along step World.Greets .created lostServer ∧
    ∃ r ∈ (run step .created lostServer).talk.reports,
      r.attached = true ∧ r.observed = false ∧ r.shown = true := by
  constructor
  · simp only [lostServer, along_cons, along_nil]
    refine ⟨fun _ _ => rfl, fun _ h => ?_, trivial, fun _ h => ?_, trivial⟩
    · cases h
    · cases h
  · exact ⟨_, List.mem_cons_self, rfl, rfl, rfl⟩

end AndroidRemote.Service
