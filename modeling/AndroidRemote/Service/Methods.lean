import AndroidRemote.Service.Controller

/-! What each method of the service does, and what it leaves alone. -/

namespace AndroidRemote.Service

def Launch.fails : Launch → Bool
  | .throws _ => true
  | .runs _ _ => false

namespace MngSide

variable {m : MngSide}

def Stale (m : MngSide) : Prop :=
  ∃ k, m.mngServer = some k ∧ (m.servers k).thread ≠ .new ∧ (m.servers k).keepListening = false

def current (m : MngSide) : ℕ := m.getMngServer.1

structure Tracked (m : MngSide) : Prop where
  referenced : ∀ k, m.mngServer = some k → k < m.created
  started : ∀ k, k ∈ m.starts ↔ k < m.created ∧ (m.servers k).thread ≠ .new

lemma Tracked.set (h : m.Tracked) {k : ℕ} {s : ManagementServer}
    (hs : s.thread = .new ↔ (m.servers k).thread = .new) : (m.set k s).Tracked := by
  refine ⟨h.referenced, ?_⟩
  intro n
  rw [show (m.set k s).starts = m.starts from rfl, h.started n]
  apply and_congr_right
  intro _
  by_cases hn : n = k
  · subst hn
    simp [MngSide.set, hs]
  · simp [MngSide.set, Function.update_of_ne hn]

lemma Tracked.release (h : m.Tracked) : Tracked { m with mngServer := none } :=
  ⟨by simp, h.started⟩

lemma getMngServer_starts : m.getMngServer.2.starts = m.starts := by
  rw [getMngServer]
  cases m.mngServer <;> rfl

lemma getMngServer_isMngRunning : m.getMngServer.2.isMngRunning = m.isMngRunning := by
  simp only [getMngServer, isMngRunning]
  cases hm : m.mngServer with
  | none => simp [MngSide.set, ManagementServer.created]
  | some k => simp [hm]

lemma getMngServer_referenced : m.getMngServer.2.mngServer = some m.current := by
  rw [current, getMngServer]
  cases hm : m.mngServer with
  | none => rfl
  | some k => exact hm

lemma Tracked.getMngServer (h : m.Tracked) : m.getMngServer.2.Tracked := by
  rw [MngSide.getMngServer]
  cases hm : m.mngServer with
  | some k => exact h
  | none =>
    refine ⟨?_, ?_⟩
    · intro k hk
      simp only [Option.some.injEq] at hk
      simp only
      omega
    · intro k
      change k ∈ m.starts ↔ _
      rw [h.started k]
      by_cases hk : k = m.created
      · subst hk
        simp [MngSide.set, ManagementServer.created]
      · simp only [MngSide.set, Function.update_of_ne hk]
        apply and_congr_left
        intro _
        omega

lemma stale_iff (hr : m.isMngRunning = false) :
    m.Stale ↔ (m.getMngServer.2.servers m.current).thread ≠ .new := by
  rw [Stale, current, getMngServer]
  cases hm : m.mngServer with
  | none => simp [MngSide.set, ManagementServer.created]
  | some k =>
    simp only [isMngRunning, hm] at hr
    simp [hr]

lemma not_stale_of_running (hr : m.isMngRunning = true) : ¬ m.Stale := by
  rintro ⟨k, hk, -, hl⟩
  simp [isMngRunning, hk, hl] at hr

lemma startMngServer_stale (hr : m.isMngRunning = false) (hs : m.Stale) (port : ℤ) (bind : Bind) :
    (m.startMngServer port bind).2 = some .illegalThreadState := by
  rw [stale_iff hr] at hs
  simp only [current] at hs
  simp [startMngServer, MngSide.set, hs]

lemma startMngServer_fresh (hr : m.isMngRunning = false) (hs : ¬ m.Stale) (port : ℤ) (bind : Bind) :
    (m.startMngServer port bind).2 = none ∧
      (m.startMngServer port bind).1.isMngRunning = decide (bind = .inTime) := by
  rw [stale_iff hr, not_not] at hs
  have href := m.getMngServer_referenced
  simp only [current] at hs href
  have hflag : (m.getMngServer.2.servers m.getMngServer.1).keepListening = false := by
    have hrun := m.getMngServer_isMngRunning
    rwa [hr, isMngRunning, href] at hrun
  refine ⟨by simp [startMngServer, MngSide.set, hs], ?_⟩
  cases bind <;>
    simp [startMngServer, MngSide.set, hs, isMngRunning, href, ManagementServer.started, hflag]

lemma startMngServer_starts (port : ℤ) (bind : Bind) :
    (m.startMngServer port bind).1.starts = m.current :: m.starts := by
  have hstarts := m.getMngServer_starts
  simp only [startMngServer]
  split_ifs <;> simp [MngSide.set, current, hstarts]

lemma Tracked.startMngServer (h : m.Tracked) (port : ℤ) (bind : Bind) :
    (m.startMngServer port bind).1.Tracked := by
  have hg := h.getMngServer
  have hk := hg.referenced _ m.getMngServer_referenced
  have hcalled : ∀ n : MngSide, n.mngServer = m.getMngServer.2.mngServer →
      n.created = m.getMngServer.2.created → n.starts = m.current :: m.getMngServer.2.starts →
      (n.servers m.current).thread ≠ .new →
      (∀ j, j ≠ m.current → (n.servers j).thread = (m.getMngServer.2.servers j).thread) → n.Tracked := by
    intro n href hcreated hstarts hnew hsame
    refine ⟨?_, ?_⟩
    · intro j hj
      rw [href] at hj
      rw [hcreated]
      exact hg.referenced j hj
    · intro j
      rw [hstarts, List.mem_cons, hg.started j, hcreated]
      by_cases hj : j = m.current
      · subst hj
        simp [hk, hnew]
      · simp [hj, hsame j hj]
  simp only [MngSide.startMngServer]
  split_ifs with hnew
  · apply hcalled
    · rfl
    · rfl
    · rfl
    · cases bind <;> simp [MngSide.set, current, ManagementServer.started]
    · intro j hj
      simp only [current] at hj
      simp [MngSide.set, Function.update_of_ne hj]
  · apply hcalled
    · rfl
    · rfl
    · rfl
    · simpa [MngSide.set, current] using hnew
    · intro j hj
      simp only [current] at hj
      simp [MngSide.set, Function.update_of_ne hj]

lemma Tracked.stopMngServer (h : m.Tracked) : m.stopMngServer.Tracked := by
  rw [MngSide.stopMngServer]
  cases m.mngServer with
  | none => exact h
  | some k => exact (h.set (by rfl)).release

lemma stopMngServer_isMngRunning : m.stopMngServer.isMngRunning = false := by
  rw [stopMngServer]
  cases hm : m.mngServer with
  | none => simp [isMngRunning, hm]
  | some k => rfl

lemma stopMngServer_starts : m.stopMngServer.starts = m.starts := by
  rw [stopMngServer]
  cases m.mngServer <;> rfl

end MngSide

namespace VncSide

variable {v : VncSide}

def startFails (v : VncSide) (launch : Launch) : Bool := !v.isRunning && launch.fails

lemma reveal_ports (appeared : ℕ → Bool) (ps : List NativeProcess) :
    (reveal appeared ps).map NativeProcess.port = ps.map NativeProcess.port := by
  apply List.ext_getElem
  · simp [reveal]
  · simp [reveal]

lemma remaining_sublist (killed : ℕ → Bool) (ps : List NativeProcess) :
    (remaining killed ps).Sublist ps := by
  have h := List.Sublist.map Prod.fst (List.filter_sublist (p := fun x => !killed x.2) (l := ps.zipIdx))
  simpa [remaining] using h

lemma startVncServer_ports (port scaleFactor rotation : ℤ) (launched : Bool) (appeared : ℕ → Bool) :
    (v.startVncServer port scaleFactor rotation (.runs launched appeared)).1.processes.map
      NativeProcess.port = v.processes.map NativeProcess.port ++ (if launched then [port] else []) := by
  simp only [startVncServer, reveal_ports]
  cases launched <;> simp

end VncSide

namespace World

variable {w : World}

structure VncOnly (w w' : World) : Prop where
  mng : w'.mng = w.mng
  watchDog : w'.watchDog = w.watchDog
  timerAlive : w'.timerAlive = w.timerAlive

structure MngOnly (w w' : World) : Prop where
  vnc : w'.vnc = w.vnc
  watchDog : w'.watchDog = w.watchDog
  timerAlive : w'.timerAlive = w.timerAlive

lemma tryStartVnc_running (h : w.vnc.isRunning = true) (port scaleFactor rotation : ℤ) (launch : Launch) :
    w.tryStartVnc port scaleFactor rotation launch =
      .ok (w.sendVncReply (some (.resource .vncServerStillRunning))) := by
  simp [tryStartVnc, h]

lemma tryStartVnc_throws (h : w.vnc.isRunning = false) (port scaleFactor rotation : ℤ) (message : String) :
    w.tryStartVnc port scaleFactor rotation (.throws message) =
      ⟨{ w with vnc.vncWrapper := some ⟨port, scaleFactor, rotation⟩ },
        some (.vncException ⟨"startServer():" ++ message⟩)⟩ := by
  simp [tryStartVnc, h, VncSide.startVncServer]

lemma tryStartVnc_runs (h : w.vnc.isRunning = false) (port scaleFactor rotation : ℤ) (launched : Bool)
    (appeared : ℕ → Bool) :
    w.tryStartVnc port scaleFactor rotation (.runs launched appeared) =
      .ok ({ w with
        vnc := (w.vnc.startVncServer port scaleFactor rotation (.runs launched appeared)).1 }.sendVncReply
          (some (.resource .vncStarted))) := by
  simp [tryStartVnc, h, VncSide.startVncServer]

lemma tryStartVnc_isSome (port scaleFactor rotation : ℤ) (launch : Launch) :
    (w.tryStartVnc port scaleFactor rotation launch).thrown.isSome = w.vnc.startFails launch := by
  cases h : w.vnc.isRunning with
  | true =>
    rw [tryStartVnc_running h]
    simp [VncSide.startFails, h]
  | false =>
    cases launch with
    | throws message =>
      rw [tryStartVnc_throws h]
      simp [VncSide.startFails, h, Launch.fails]
    | runs launched appeared =>
      rw [tryStartVnc_runs h]
      simp [VncSide.startFails, h, Launch.fails]

lemma tryStartVnc_vncOnly (port scaleFactor rotation : ℤ) (launch : Launch) :
    w.VncOnly (w.tryStartVnc port scaleFactor rotation launch).world := by
  cases h : w.vnc.isRunning with
  | true =>
    rw [tryStartVnc_running h]
    exact ⟨rfl, rfl, rfl⟩
  | false =>
    cases launch with
    | throws message =>
      rw [tryStartVnc_throws h]
      exact ⟨rfl, rfl, rfl⟩
    | runs launched appeared =>
      rw [tryStartVnc_runs h]
      exact ⟨rfl, rfl, rfl⟩

lemma tryStopVnc_vncOnly (kill : Kill) : w.VncOnly (w.tryStopVnc kill) := by
  rw [tryStopVnc]
  split_ifs
  · cases kill <;> exact ⟨rfl, rfl, rfl⟩
  · exact ⟨rfl, rfl, rfl⟩

lemma sendMngReply_mng (text : Option Text) :
    (w.sendMngReply text).mng = w.mng ∨ (w.sendMngReply text).mng = w.mng.getMngServer.2 := by
  simp only [sendMngReply]
  split_ifs
  · exact .inr rfl
  · exact .inl rfl

lemma sendMngReply_mngOnly (text : Option Text) : w.MngOnly (w.sendMngReply text) := ⟨rfl, rfl, rfl⟩

lemma sendMngReply_talk (text : Option Text) : ∃ port, (w.sendMngReply text).talk =
    w.talk.sendReply .mng w.mng.isMngRunning port text [] := ⟨_, rfl⟩

lemma sendMngReply_isMngRunning (text : Option Text) :
    (w.sendMngReply text).mng.isMngRunning = w.mng.isMngRunning := by
  cases w.sendMngReply_mng text with
  | inl h => rw [h]
  | inr h => rw [h, MngSide.getMngServer_isMngRunning]

lemma sendMngReply_starts (text : Option Text) : (w.sendMngReply text).mng.starts = w.mng.starts := by
  cases w.sendMngReply_mng text with
  | inl h => rw [h]
  | inr h => rw [h, MngSide.getMngServer_starts]

lemma sendMngReply_tracked (h : w.mng.Tracked) (text : Option Text) : (w.sendMngReply text).mng.Tracked := by
  cases w.sendMngReply_mng text with
  | inl he => rwa [he]
  | inr he =>
    rw [he]
    exact h.getMngServer

lemma tryStartMng_running (h : w.mng.isMngRunning = true) (port : ℤ) (bind : Bind) :
    w.tryStartMng port bind =
      .ok (w.sendMngReply (some (.resource .managementServerStillRunning))) := by
  simp [tryStartMng, h]

lemma tryStartMng_stale (h : w.mng.isMngRunning = false) (hs : w.mng.Stale) (port : ℤ) (bind : Bind) :
    w.tryStartMng port bind =
      ⟨{ w with mng := (w.mng.startMngServer port bind).1 }, some .illegalThreadState⟩ := by
  simp [tryStartMng, h, MngSide.startMngServer_stale h hs]

lemma tryStartMng_fresh (h : w.mng.isMngRunning = false) (hs : ¬ w.mng.Stale) (port : ℤ) (bind : Bind) :
    w.tryStartMng port bind = .ok ({ w with mng := (w.mng.startMngServer port bind).1 }.sendMngReply
      (some (.resource .mngStarted))) := by
  simp [tryStartMng, h, (MngSide.startMngServer_fresh h hs port bind).1]

lemma tryStartMng_thrown (port : ℤ) (bind : Bind) :
    (w.tryStartMng port bind).thrown = none ↔ ¬ w.mng.Stale := by
  cases h : w.mng.isMngRunning with
  | true => simp [tryStartMng_running h, MngSide.not_stale_of_running h]
  | false =>
    by_cases hs : w.mng.Stale
    · simp [tryStartMng_stale h hs, hs]
    · simp [tryStartMng_fresh h hs, hs]

lemma tryStartMng_mngOnly (port : ℤ) (bind : Bind) : w.MngOnly (w.tryStartMng port bind).world := by
  cases h : w.mng.isMngRunning with
  | true =>
    rw [tryStartMng_running h]
    exact ⟨rfl, rfl, rfl⟩
  | false =>
    by_cases hs : w.mng.Stale
    · rw [tryStartMng_stale h hs]
      exact ⟨rfl, rfl, rfl⟩
    · rw [tryStartMng_fresh h hs]
      exact ⟨rfl, rfl, rfl⟩

lemma tryStartMng_starts (port : ℤ) (bind : Bind) : (w.tryStartMng port bind).world.mng.starts =
    if w.mng.isMngRunning then w.mng.starts else w.mng.current :: w.mng.starts := by
  cases h : w.mng.isMngRunning with
  | true => simp [tryStartMng_running h, sendMngReply_starts]
  | false =>
    by_cases hs : w.mng.Stale
    · simp [tryStartMng_stale h hs, MngSide.startMngServer_starts]
    · simp [tryStartMng_fresh h hs, sendMngReply_starts, MngSide.startMngServer_starts]

lemma tryStartMng_tracked (ht : w.mng.Tracked) (port : ℤ) (bind : Bind) :
    (w.tryStartMng port bind).world.mng.Tracked := by
  cases h : w.mng.isMngRunning with
  | true =>
    rw [tryStartMng_running h]
    exact sendMngReply_tracked ht _
  | false =>
    by_cases hs : w.mng.Stale
    · rw [tryStartMng_stale h hs]
      exact ht.startMngServer port bind
    · rw [tryStartMng_fresh h hs]
      exact sendMngReply_tracked (ht.startMngServer port bind) _

lemma tryStopMng_running (h : w.mng.isMngRunning = true) :
    w.tryStopMng = { w with mng := w.mng.stopMngServer }.sendMngReply (some (.resource .mngStopped)) :=
  if_pos h

lemma tryStopMng_stopped (h : w.mng.isMngRunning = false) :
    w.tryStopMng = w.sendMngReply (some (.resource .managementNotRunning)) := by
  simp [tryStopMng, h]

lemma tryStopMng_mngOnly : w.MngOnly w.tryStopMng := by
  rw [tryStopMng]
  split_ifs <;> exact ⟨rfl, rfl, rfl⟩

lemma tryStopMng_isMngRunning : w.tryStopMng.mng.isMngRunning = false := by
  cases h : w.mng.isMngRunning with
  | true => rw [tryStopMng_running h, sendMngReply_isMngRunning, MngSide.stopMngServer_isMngRunning]
  | false => rw [tryStopMng_stopped h, sendMngReply_isMngRunning, h]

lemma tryStopMng_starts : w.tryStopMng.mng.starts = w.mng.starts := by
  cases h : w.mng.isMngRunning with
  | true => rw [tryStopMng_running h, sendMngReply_starts, MngSide.stopMngServer_starts]
  | false => rw [tryStopMng_stopped h, sendMngReply_starts]

lemma tryStopMng_tracked (ht : w.mng.Tracked) : w.tryStopMng.mng.Tracked := by
  cases h : w.mng.isMngRunning with
  | true =>
    rw [tryStopMng_running h]
    exact sendMngReply_tracked ht.stopMngServer _
  | false =>
    rw [tryStopMng_stopped h]
    exact sendMngReply_tracked ht _

lemma startCommandVnc_mng (extras : Extras) (env : Environment) :
    (w.startCommandVnc extras env).world.mng = w.mng := by
  rw [startCommandVnc]
  split_ifs
  · exact Result.andThen_invariant (fun u => u.mng = w.mng) (tryStartVnc_vncOnly _ _ _ _).mng
      (fun _ => (tryStartVnc_vncOnly _ _ _ _).mng)
  · exact (tryStopVnc_vncOnly env.kill).mng

lemma startCommandVnc_isSome (extras : Extras) (env : Environment) :
    (w.startCommandVnc extras env).thrown.isSome = (extras.startVnc && w.vnc.startFails env.launch) := by
  rw [startCommandVnc]
  cases extras.startVnc with
  | true => rw [if_pos rfl, initVnc, Result.andThen_ok_isSome, tryStartVnc_isSome, Bool.true_and]
  | false => rfl

lemma normalizeVnc_isSome (env : Environment) : (w.normalizeVnc env).thrown.isSome =
    (w.watchDog.shouldVncBeStarter && w.vnc.startFails env.launch) := by
  simp only [normalizeVnc]
  cases w.watchDog.shouldVncBeStarter with
  | true => rw [if_pos rfl, tryStartVnc_isSome, Bool.true_and]
  | false => rfl

lemma normalizeVnc_vncOnly (env : Environment) : w.VncOnly (w.normalizeVnc env).world := by
  simp only [normalizeVnc]
  split_ifs
  · exact tryStartVnc_vncOnly _ _ _ _
  · exact tryStopVnc_vncOnly env.kill

lemma normalizeMng_mngOnly (env : Environment) : w.MngOnly (w.normalizeMng env).world := by
  rw [normalizeMng]
  split_ifs
  · exact tryStartMng_mngOnly _ _
  · exact tryStopMng_mngOnly

end World

end AndroidRemote.Service
