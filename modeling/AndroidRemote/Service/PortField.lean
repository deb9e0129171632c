import AndroidRemote.Service.ManagementThread
import AndroidRemote.Service.Methods

/-! A port from the activity's field on its way to `new ServerSocket` and into the reply. -/

namespace AndroidRemote.Service

open AndroidRemote.Library

def openServerSocket (port : ℤ) (free : Bool) : Outcome :=
  if 0 ≤ port ∧ port ≤ 65535 then if free then .ok else .throws .ioException
  else .throws .otherException

def outerCatch : Throwable → Option Throwable
  | .socketException _ => none
  | .ioException => none
  | .otherException => some .otherException
  | .error => some .error

namespace Outcome

def escaping : Outcome → Option Throwable
  | .ok => none
  | .throws t => outerCatch t

def bind (slow : Bool) : Outcome → Bind
  | .ok => if slow then .late else .inTime
  | .throws _ => .fails

end Outcome

/-- The service finds the thread where `run` is after the constructor. -/
theorem seen_after_open (port mngPort : ℤ) (free : Bool) :
    (run RunState.step .created [.start, .advance (openServerSocket mngPort free)]).seen port =
      ManagementServer.started ⟨port, .new, false⟩ ((openServerSocket mngPort free).bind true) := by
  rw [openServerSocket]
  split_ifs <;> rfl

def startMngMessage (mngPort : ℤ) : Message := ⟨.startMng, true, fun key => if key = "port" then mngPort else 0⟩

def requestedPort (mngPort : ℤ) : ℤ := getIntOrDefault (startMngMessage mngPort) mngDefaultPort "port"

namespace World

variable (w : World)

def pressStart (mngPort : ℤ) (env : Environment) (free slow : Bool) : Result :=
  w.handleMessage (startMngMessage mngPort)
    { env with bind := (openServerSocket (requestedPort mngPort) free).bind slow }

def Serves (report : Report) : Prop :=
  ∃ k text, w.mng.mngServer = some k ∧ (w.mng.servers k).thread = .serving ∧
    report.reply = some ⟨.mngStarted, (w.mng.servers k).listeningPort, text⟩

/-- The server was found not running and is not shown running, and no thread of it serves or is still
to bind. -/
def Stopped (report : Report) : Prop :=
  report.observed = false ∧ report.shown = false ∧
    ∀ k, w.mng.mngServer = some k → (w.mng.servers k).thread = .new ∨ (w.mng.servers k).thread = .terminated

def Answers (report : Report) : Prop := w.Serves report ∨ w.Stopped report

structure Handled (mngPort : ℤ) (env : Environment) (free slow : Bool) : Prop where
  contained : (w.pressStart mngPort env free slow).world.mng.starts ≠ w.mng.starts →
    (openServerSocket (requestedPort mngPort) free).escaping = none
  answered : (w.pressStart mngPort env free slow).thrown = none ∧
    ∃ report, (w.pressStart mngPort env free slow).world.talk.reports = report :: w.talk.reports ∧
      (w.pressStart mngPort env free slow).world.Answers report

/-- The port is bound before the wait for it is over, or it cannot be bound and the activity does not
show a server running. -/
def Settles (free slow : Bool) : Prop := if free then slow = false else w.talk.activity.mngRunning = false

def asked (mngPort : ℤ) : World :=
  { w with
    talk := { w.talk with mClient := true, cachedMngRunning := false }
    watchDog := w.watchDog.setToRestartMng true (requestedPort mngPort) }

variable {w}

lemma requestedPort_eq (mngPort : ℤ) : requestedPort mngPort = if 0 < mngPort then mngPort else 5000 := rfl

lemma escaping_eq_none (mngPort : ℤ) (free : Bool) :
    (openServerSocket (requestedPort mngPort) free).escaping = none ↔ mngPort ≤ 65535 := by
  rw [requestedPort_eq, openServerSocket]
  cases free <;> split_ifs <;> simp [Outcome.escaping, outerCatch] <;> omega

lemma pressStart_eq (mngPort : ℤ) (env : Environment) (free slow : Bool) : w.pressStart mngPort env free slow =
    (w.asked mngPort).tryStartMng (requestedPort mngPort)
      ((openServerSocket (requestedPort mngPort) free).bind slow) := rfl

lemma isMngRunning_some (h : w.mng.isMngRunning = true) : ∃ k, w.mng.mngServer = some k := by
  cases hm : w.mng.mngServer with
  | none => simp [MngSide.isMngRunning, hm] at h
  | some k => exact ⟨k, rfl⟩

lemma sendMngReply_silent (hr : w.mng.isMngRunning = false) (hc : w.talk.cachedMngRunning = false)
    (text : Option Text) : (w.sendMngReply text).mng = w.mng ∧ (w.sendMngReply text).talk.reports =
      ⟨.mng, w.talk.mClient, false, w.talk.activity.mngRunning, none, []⟩ :: w.talk.reports := by
  have hreply : w.sendMngReply text = { w with talk := w.talk.sendReply .mng false 0 text [] } := by
    simp [sendMngReply, hr, hc]
  rw [hreply]
  refine ⟨rfl, ?_⟩
  simp [Talk.sendReply, Talk.tell, Talk.cached, Talk.shows, Talk.setCached, hc]

lemma getMngServer_some {m : MngSide} {k : ℕ} (h : m.mngServer = some k) : m.getMngServer = (k, m) := by
  rw [MngSide.getMngServer, h]

lemma sendMngReply_running {k : ℕ} (hr : w.mng.isMngRunning = true) (hk : w.mng.mngServer = some k)
    (hc : w.talk.cachedMngRunning = false) (hm : w.talk.mClient = true) (text : Option Text) :
    (w.sendMngReply text).mng = w.mng ∧
      ∃ report, (w.sendMngReply text).talk.reports = report :: w.talk.reports ∧ report.observed = true ∧
        report.reply = some ⟨.mngStarted, (w.mng.servers k).listeningPort, text⟩ := by
  have hport : w.mng.getMngPort = ((w.mng.servers k).listeningPort, w.mng) := by
    rw [MngSide.getMngPort, getMngServer_some hk]
  have hreply : w.sendMngReply text =
      { w with talk := w.talk.sendReply .mng true (w.mng.servers k).listeningPort text [] } := by
    simp [sendMngReply, hr, hc, hport]
  rw [hreply]
  refine ⟨rfl, _, rfl, rfl, ?_⟩
  simp [hc, hm, Talk.cached, Talk.stateReply]

lemma sendMngReply_answers {k : ℕ} (hr : w.mng.isMngRunning = true) (hk : w.mng.mngServer = some k)
    (hc : w.talk.cachedMngRunning = false) (hm : w.talk.mClient = true)
    (hs : (w.mng.servers k).thread = .serving) (text : Option Text) :
    ∃ report, (w.sendMngReply text).talk.reports = report :: w.talk.reports ∧
      (w.sendMngReply text).Answers report := by
  obtain ⟨hmng, report, hreports, -, hreply⟩ := sendMngReply_running hr hk hc hm text
  refine ⟨report, hreports, .inl ⟨k, text, ?_⟩⟩
  rw [hmng]
  exact ⟨hk, hs, hreply⟩

lemma startMngServer_started {m : MngSide} (hr : m.isMngRunning = false) (hs : ¬ m.Stale) (port : ℤ) (b : Bind) :
    ∃ (k : ℕ) (s : ManagementServer), (m.startMngServer port b).1.mngServer = some k ∧
      (m.startMngServer port b).1.servers k = s.started b := by
  rw [MngSide.stale_iff hr, not_not] at hs
  simp only [MngSide.current] at hs
  have href : m.getMngServer.2.mngServer = some m.getMngServer.1 := m.getMngServer_referenced
  refine ⟨m.getMngServer.1, { m.getMngServer.2.servers m.getMngServer.1 with listeningPort := port }, ?_, ?_⟩
  · simpa [MngSide.startMngServer, MngSide.set, hs] using href
  · simp [MngSide.startMngServer, MngSide.set, hs]

section

variable (mngPort : ℤ) (env : Environment) (free slow : Bool)

lemma handled_running (hr : w.mng.isMngRunning = true) : w.Handled mngPort env free slow ↔
    ∃ k, w.mng.mngServer = some k ∧ (w.mng.servers k).thread = .serving := by
  obtain ⟨k, hk⟩ := isMngRunning_some hr
  have hpress : w.pressStart mngPort env free slow =
      .ok ((w.asked mngPort).sendMngReply (some (.resource .managementServerStillRunning))) := by
    rw [pressStart_eq]
    exact tryStartMng_running (w := w.asked mngPort) hr _ _
  obtain ⟨hmng, report, hreports, hobserved, hreply⟩ := sendMngReply_running (w := w.asked mngPort) hr hk rfl rfl
    (some (.resource .managementServerStillRunning))
  constructor
  · rintro ⟨-, -, other, hother, hanswers⟩
    rw [hpress, Result.ok_world] at hother hanswers
    rw [hreports] at hother
    obtain rfl : report = other := (List.cons.inj hother).1
    rcases hanswers with ⟨j, text, hj, hthread, -⟩ | ⟨hfalse, -⟩
    · rw [hmng] at hj hthread
      exact ⟨j, hj, hthread⟩
    · rw [hobserved] at hfalse
      cases hfalse
  · rintro ⟨j, hj, hthread⟩
    obtain rfl : k = j := Option.some.inj (hk.symm.trans hj)
    refine ⟨?_, ?_⟩
    · intro hstarts
      rw [hpress, Result.ok_world, hmng] at hstarts
      exact absurd rfl hstarts
    · rw [hpress]
      exact ⟨rfl, sendMngReply_answers (w := w.asked mngPort) hr hk rfl rfl hthread _⟩

lemma handled_stale (hr : w.mng.isMngRunning = false) (hs : w.mng.Stale) :
    ¬ w.Handled mngPort env free slow := by
  rintro ⟨-, hthrown, -⟩
  rw [pressStart_eq, tryStartMng_stale (w := w.asked mngPort) hr hs] at hthrown
  cases hthrown

lemma started_answers_iff (hr : w.mng.isMngRunning = false) (hs : ¬ w.mng.Stale) (port : ℤ) (b : Bind)
    (text : Option Text) :
    (∃ report, ({ w.asked mngPort with mng := (w.mng.startMngServer port b).1 }.sendMngReply text).talk.reports =
        report :: w.talk.reports ∧
      ({ w.asked mngPort with mng := (w.mng.startMngServer port b).1 }.sendMngReply text).Answers report) ↔
      b = .inTime ∨ b = .fails ∧ w.talk.activity.mngRunning = false := by
  have hrunning := (MngSide.startMngServer_fresh hr hs port b).2
  obtain ⟨k, s, hk, hserver⟩ := startMngServer_started hr hs port b
  by_cases hb : b = .inTime
  · subst hb
    have hthread : (s.started .inTime).thread = .serving := rfl
    refine iff_of_true ?_ (.inl rfl)
    exact sendMngReply_answers (w := { w.asked mngPort with mng := (w.mng.startMngServer port .inTime).1 })
      hrunning hk rfl rfl (hserver ▸ hthread) text
  · rw [decide_eq_false hb] at hrunning
    obtain ⟨hmng, hreports⟩ := sendMngReply_silent
      (w := { w.asked mngPort with mng := (w.mng.startMngServer port b).1 }) hrunning rfl text
    rw [hreports]
    constructor
    · rintro ⟨report, hreport, hanswers⟩
      obtain rfl := (List.cons.inj hreport).1
      rcases hanswers with ⟨_, _, -, -, hreply⟩ | ⟨-, hshown, hnone⟩
      · cases hreply
      · rw [hmng] at hnone
        refine .inr ⟨?_, hshown⟩
        have hthread := hnone k hk
        rw [hserver] at hthread
        cases b with
        | inTime => exact absurd rfl hb
        | late => rcases hthread with h | h <;> cases h
        | fails => rfl
    · rintro (hin | ⟨rfl, hshown⟩)
      · exact absurd hin hb
      · refine ⟨_, rfl, .inr ⟨rfl, hshown, ?_⟩⟩
        intro j hj
        rw [hmng] at hj ⊢
        obtain rfl := Option.some.inj (hk.symm.trans hj)
        rw [hserver]
        exact .inr rfl

lemma bind_settles_iff (hport : mngPort ≤ 65535) :
    ((openServerSocket (requestedPort mngPort) free).bind slow = .inTime ∨
        (openServerSocket (requestedPort mngPort) free).bind slow = .fails ∧ w.talk.activity.mngRunning = false) ↔
      w.Settles free slow := by
  have hrange : 0 ≤ requestedPort mngPort ∧ requestedPort mngPort ≤ 65535 := by
    rw [requestedPort_eq]
    split_ifs <;> omega
  rw [openServerSocket, if_pos hrange, Settles]
  cases free <;> cases slow <;> simp [Outcome.bind]

lemma handled_fresh (hr : w.mng.isMngRunning = false) (hs : ¬ w.mng.Stale) :
    w.Handled mngPort env free slow ↔ mngPort ≤ 65535 ∧ w.Settles free slow := by
  have hpress := tryStartMng_fresh (w := w.asked mngPort) hr hs (requestedPort mngPort)
    ((openServerSocket (requestedPort mngPort) free).bind slow)
  rw [← pressStart_eq mngPort env free slow] at hpress
  have hanswers := started_answers_iff mngPort hr hs (requestedPort mngPort)
    ((openServerSocket (requestedPort mngPort) free).bind slow) (some (.resource .mngStarted))
  constructor
  · intro h
    have hport : mngPort ≤ 65535 := by
      rw [← escaping_eq_none mngPort free]
      apply h.contained
      rw [hpress, Result.ok_world, sendMngReply_starts]
      simp [MngSide.startMngServer_starts, asked]
    have hanswered := h.answered.2
    rw [hpress] at hanswered
    exact ⟨hport, (bind_settles_iff mngPort free slow hport).mp (hanswers.mp hanswered)⟩
  · rintro ⟨hport, hsettles⟩
    refine ⟨fun _ => (escaping_eq_none mngPort free).mpr hport, ?_⟩
    rw [hpress]
    exact ⟨rfl, hanswers.mpr ((bind_settles_iff mngPort free slow hport).mpr hsettles)⟩

end

theorem port_handled_iff (w : World) (mngPort : ℤ) (env : Environment) (free slow : Bool) :
    w.Handled mngPort env free slow ↔
      (w.mng.isMngRunning = true ∧ ∃ k, w.mng.mngServer = some k ∧ (w.mng.servers k).thread = .serving) ∨
        (w.mng.isMngRunning = false ∧ ¬ w.mng.Stale ∧ mngPort ≤ 65535 ∧ w.Settles free slow) := by
  cases hr : w.mng.isMngRunning with
  | true => simp [handled_running mngPort env free slow hr]
  | false =>
    by_cases hs : w.mng.Stale
    · simp [handled_stale mngPort env free slow hr hs, hs]
    · simp [handled_fresh mngPort env free slow hr hs, hs]

end World

theorem large_port_escapes : ¬ ∀ mngPort : ℤ, World.created.Handled mngPort .quiet true false := by
  intro h
  have hescape := (h 70000).contained (by decide)
  revert hescape
  decide

end AndroidRemote.Service
