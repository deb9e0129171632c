import AndroidRemote.Service.ManagementThread

/-! The battery receivers of all the management servers in one life of the service. -/

namespace AndroidRemote.Service

open AndroidRemote.Library

structure Registered where
  run : RunState
  receiver : Bool
  deriving DecidableEq, Repr

namespace Registered

def created : Registered := ⟨.created, false⟩

/-- `registerReceiver` is the statement at `battery`; there is no `unregisterReceiver`. -/
def step (v : Registered) (e : RunEvent) : Registered where
  run := v.run.step e
  receiver := v.receiver || decide (v.run.point = .battery ∧ e = .advance .ok)

variable (v : Registered)

def listening : Bool :=
  v.run.point.inLoop && v.run.keepListening && decide (v.run.listeningSocket = .listening)

def settled : Bool :=
  decide (v.run.point ≠ .bind ∧ v.run.point ≠ .battery ∧ v.run.point ≠ .raiseFlag ∧
    v.run.stopping = false) &&
    (v.run.keepListening || !v.run.point.inLoop)

def leftBehind : Bool :=
  v.receiver && (decide (v.run.point = .ended) || (v.run.point.inLoop && !v.run.keepListening))

structure Sound : Prop where
  early : v.run.point = .fresh ∨ v.run.point = .bind ∨ v.run.point = .battery → v.receiver = false
  late : v.run.point = .raiseFlag ∨ v.run.point.inLoop = true → v.receiver = true
  flag : v.run.keepListening = true → v.run.point.inLoop = true ∨ v.run.point = .ended
  raised : v.run.keepListening = true → v.receiver = true
  halfway : v.run.stopping = true →
    v.run.keepListening = false ∧ (v.run.point.inLoop = true ∨ v.run.point = .ended)
  bound : v.run.point = .battery ∨ v.run.point = .raiseFlag → v.run.listeningSocket = .listening
  listens : v.run.point.inLoop = true → v.run.keepListening = true → v.run.listeningSocket = .listening

structure Released : Prop where
  lowered : v.run.keepListening = false
  reached : v.run.point.inLoop = true ∨ v.run.point = .ended

end Registered

structure ServiceLife where
  mngServer : Option ℕ
  servers : ℕ → Registered
  created : ℕ

inductive LifeEvent
  | start
  | stop
  | port
  | thread (k : ℕ) (o : Outcome)
  | closes (k : ℕ) (succeeds : Bool)
  deriving DecidableEq, Repr

namespace ServiceLife

def begun : ServiceLife := ⟨none, fun _ => .created, 0⟩

variable (l : ServiceLife)

def isMngRunning : Bool :=
  match l.mngServer with
  | none => false
  | some k => (l.servers k).run.keepListening

def happens (k : ℕ) (e : RunEvent) : ServiceLife :=
  { l with servers := Function.update l.servers k ((l.servers k).step e) }

def getMngServer : ℕ × ServiceLife :=
  match l.mngServer with
  | some k => (k, l)
  | none => (l.created, ⟨some l.created, Function.update l.servers l.created .created, l.created + 1⟩)

/-- `start` is `tryStartMng`, whoever calls it, `stop` is `tryStopMng` up to the closing of the
socket, and `port` is `getMngPort`; `start` of a thread that was started before only throws. -/
def step (l : ServiceLife) : LifeEvent → ServiceLife
  | .start => if l.isMngRunning then l else l.getMngServer.2.happens l.getMngServer.1 .start
  | .stop =>
    match l.mngServer with
    | some k => if l.isMngRunning then { l.happens k .stopFlag with mngServer := none } else l
    | none => l
  | .port => l.getMngServer.2
  | .thread k o => if k < l.created then l.happens k (.advance o) else l
  | .closes k succeeds => if k < l.created then l.happens k (.stopClose succeeds) else l

def Quiet : Prop := ∀ k < l.created, (l.servers k).settled = true

def receivers : ℕ := (List.range l.created).countP (fun k => (l.servers k).receiver)

def listening : ℕ := (List.range l.created).countP (fun k => (l.servers k).listening)

def Balanced : Prop := l.receivers = l.listening ∧ l.listening ≤ 1

def Lasting (l : ServiceLife) : LifeEvent → Prop
  | .start => True
  | .stop => l.isMngRunning = false
  | .port => True
  | .thread k o => k < l.created → (l.servers k).run.escapes o = true → (l.servers k).run.point = .battery
  | .closes _ _ => True

def view (ports : ℕ → ℤ) (starts : List ℕ) : MngSide :=
  ⟨l.mngServer, fun k => (l.servers k).run.seen (ports k), l.created, starts⟩

instance : Decidable l.Quiet := inferInstanceAs (Decidable (∀ k < l.created, (l.servers k).settled = true))

instance : Decidable l.Balanced := inferInstanceAs (Decidable (l.receivers = l.listening ∧ l.listening ≤ 1))

instance instDecidableLasting : ∀ e, Decidable (l.Lasting e)
  | .start => inferInstanceAs (Decidable True)
  | .stop => inferInstanceAs (Decidable (l.isMngRunning = false))
  | .port => inferInstanceAs (Decidable True)
  | .thread k o => inferInstanceAs (Decidable (k < l.created → (l.servers k).run.escapes o = true →
      (l.servers k).run.point = .battery))
  | .closes _ _ => inferInstanceAs (Decidable True)

end ServiceLife

namespace RunState

variable {s : RunState}

lemma advance_inLoop (hs : s.point.inLoop = true) (o : Outcome) :
    (s.advance o).keepListening = s.keepListening ∧ (s.advance o).listeningSocket = s.listeningSocket ∧
      (s.advance o).stopping = s.stopping ∧
      (((s.advance o).point.inLoop = true ∧ s.escapes o = false) ∨
        ((s.advance o).point = .ended ∧ (s.escapes o = true ∨ s.keepListening = false))) := by
  simp only [advance]
  cases hp : s.point with
  | test =>
    have hstay : s.escapes o = false := by rw [escapes, hp]
    dsimp only
    split_ifs with hk
    · exact ⟨rfl, rfl, rfl, Or.inl ⟨rfl, hstay⟩⟩
    · exact ⟨rfl, rfl, rfl, Or.inr ⟨rfl, Or.inr (by simpa using hk)⟩⟩
  | body b =>
    have hstay : s.escapes o = false := by rw [escapes, hp]
    cases o with
    | throws t => exact ⟨rfl, rfl, rfl, Or.inl ⟨rfl, hstay⟩⟩
    | ok =>
      dsimp only
      split_ifs
      · exact ⟨rfl, rfl, rfl, Or.inl ⟨rfl, hstay⟩⟩
      · cases b <;> exact ⟨rfl, rfl, rfl, Or.inl ⟨rfl, hstay⟩⟩
  | cleanup c pending =>
    dsimp only
    split_ifs with he
    · exact ⟨rfl, rfl, rfl, Or.inr ⟨rfl, Or.inl he⟩⟩
    · have hstay : s.escapes o = false := by simpa using he
      cases c <;> exact ⟨rfl, rfl, rfl, Or.inl ⟨rfl, hstay⟩⟩
  | _ => simp [hp, Point.inLoop] at hs

end RunState

namespace Registered

variable {v : Registered}

lemma created_sound : created.Sound := by
  refine ⟨?_, ?_, ?_, ?_, ?_, ?_, ?_⟩ <;> simp [created, RunState.created, Point.inLoop]

lemma step_receiver_loop (hv : v.run.point.inLoop = true) (e : RunEvent) : (v.step e).receiver = v.receiver := by
  have hpoint : v.run.point ≠ .battery := by
    intro hp
    rw [hp] at hv
    cases hv
  simp [step, hpoint]

lemma Sound.of_reached (hp : v.run.point.inLoop = true ∨ v.run.point = .ended)
    (hr : v.run.point.inLoop = true → v.receiver = true) (hk : v.run.keepListening = true → v.receiver = true)
    (hs : v.run.stopping = true → v.run.keepListening = false)
    (hl : v.run.point.inLoop = true → v.run.keepListening = true → v.run.listeningSocket = .listening) :
    v.Sound := by
  have hout : ∀ p : Point, p.inLoop = false → p ≠ .ended → v.run.point ≠ p := by
    rintro p hin hend rfl
    rcases hp with hp | hp
    · rw [hin] at hp
      cases hp
    · exact hend hp
  refine ⟨?_, ?_, fun _ => hp, hk, fun hstop => ⟨hs hstop, hp⟩, ?_, hl⟩
  · rintro (h | h | h)
    · exact absurd h (hout .fresh rfl (by decide))
    · exact absurd h (hout .bind rfl (by decide))
    · exact absurd h (hout .battery rfl (by decide))
  · rintro (h | h)
    · exact absurd h (hout .raiseFlag rfl (by decide))
    · exact hr h
  · rintro (h | h)
    · exact absurd h (hout .battery rfl (by decide))
    · exact absurd h (hout .raiseFlag rfl (by decide))

lemma Sound.advance_inLoop (h : v.Sound) (hv : v.run.point.inLoop = true) (o : Outcome) :
    (v.step (.advance o)).Sound := by
  obtain ⟨hk, hl, hs, hpoint⟩ := RunState.advance_inLoop hv o
  apply Sound.of_reached
  · rcases hpoint with ⟨hin, -⟩ | ⟨hend, -⟩
    · exact Or.inl hin
    · exact Or.inr hend
  · intro _
    exact (step_receiver_loop hv _).trans (h.late (Or.inr hv))
  · intro _
    exact (step_receiver_loop hv _).trans (h.late (Or.inr hv))
  · intro hstop
    exact hk.trans (h.halfway (hs.symm.trans hstop)).1
  · intro _ hrun
    exact hl.trans (h.listens hv (hk.symm.trans hrun))

lemma Sound.flag_down (h : v.Sound) (hin : v.run.point.inLoop = false) (hend : v.run.point ≠ .ended) :
    v.run.keepListening = false ∧ v.run.stopping = false := by
  have hout : ¬ (v.run.point.inLoop = true ∨ v.run.point = .ended) := by simp [hin, hend]
  refine ⟨?_, ?_⟩
  · by_contra hk
    exact hout (h.flag (by simpa using hk))
  · by_contra hs
    exact hout (h.halfway (by simpa using hs)).2

lemma sound_ended {r : RunState} {b : Bool} (hp : r.point = .ended) (hk : r.keepListening = false)
    (hs : r.stopping = false) : Sound ⟨r, b⟩ := by
  apply Sound.of_reached
  · exact Or.inr hp
  · simp [hp, Point.inLoop]
  · simp [hk]
  · simp [hs]
  · simp [hp, Point.inLoop]

lemma Sound.advance (h : v.Sound) (o : Outcome) : (v.step (.advance o)).Sound := by
  by_cases hin : v.run.point.inLoop = true
  · exact h.advance_inLoop hin o
  · have hdown := h.flag_down (by simpa using hin)
    cases hp : v.run.point with
    | fresh =>
      have hstay : v.step (.advance o) = v := by simp [step, RunState.step, RunState.advance, hp]
      rwa [hstay]
    | ended =>
      have hstay : v.step (.advance o) = v := by simp [step, RunState.step, RunState.advance, hp]
      rwa [hstay]
    | bind =>
      obtain ⟨hk, hs⟩ := hdown (by rw [hp]; decide)
      have hr := h.early (Or.inr (Or.inl hp))
      cases o with
      | ok =>
        refine ⟨?_, ?_, ?_, ?_, ?_, ?_, ?_⟩ <;>
          simp [step, RunState.step, RunState.advance, hp, hk, hs, hr, Point.inLoop]
      | throws t =>
        apply sound_ended
        · simp [RunState.step, RunState.advance, hp]
        · simp [RunState.step, RunState.advance, hp, hk]
        · simp [RunState.step, RunState.advance, hp, hs]
    | battery =>
      obtain ⟨hk, hs⟩ := hdown (by rw [hp]; decide)
      have hl := h.bound (Or.inl hp)
      cases o with
      | ok =>
        refine ⟨?_, ?_, ?_, ?_, ?_, ?_, ?_⟩ <;>
          simp [step, RunState.step, RunState.advance, RunState.escapes, hp, hk, hs, hl, Point.inLoop]
      | throws t =>
        apply sound_ended
        · simp [RunState.step, RunState.advance, RunState.escapes, hp]
        · simp [RunState.step, RunState.advance, RunState.escapes, hp, hk]
        · simp [RunState.step, RunState.advance, RunState.escapes, hp, hs]
    | raiseFlag =>
      obtain ⟨hk, hs⟩ := hdown (by rw [hp]; decide)
      have hl := h.bound (Or.inr hp)
      have hr := h.late (Or.inl hp)
      refine ⟨?_, ?_, ?_, ?_, ?_, ?_, ?_⟩ <;>
        simp [step, RunState.step, RunState.advance, hp, hs, hl, hr, Point.inLoop]
    | _ => simp [hp, Point.inLoop] at hin

lemma Sound.start (h : v.Sound) : (v.step .start).Sound := by
  by_cases hp : v.run.point = .fresh
  · obtain ⟨hk, hs⟩ := h.flag_down (by rw [hp]; rfl) (by rw [hp]; decide)
    have hr := h.early (Or.inl hp)
    refine ⟨?_, ?_, ?_, ?_, ?_, ?_, ?_⟩ <;> simp [step, RunState.step, hp, hk, hs, hr, Point.inLoop]
  · have hstay : v.step .start = v := by simp [step, RunState.step, hp]
    rwa [hstay]

lemma Sound.stopFlag (h : v.Sound) (hk : v.run.keepListening = true) :
    (v.step .stopFlag).Sound ∧ (v.step .stopFlag).Released := by
  have hs : v.run.stopping = false := by
    by_contra hs
    have hlow := (h.halfway (by simpa using hs)).1
    rw [hk] at hlow
    cases hlow
  have hstep : v.step .stopFlag = ⟨{ v.run with keepListening := false, stopping := true }, v.receiver⟩ := by
    simp [step, RunState.step, hs]
  rw [hstep]
  have hr := h.raised hk
  refine ⟨Sound.of_reached (h.flag hk) (fun _ => hr) (fun _ => hr) (fun _ => rfl) ?_, rfl, h.flag hk⟩
  intro _ hlow
  cases hlow

lemma Sound.stopClose (h : v.Sound) (succeeds : Bool) : (v.step (.stopClose succeeds)).Sound := by
  by_cases hs : v.run.stopping = true
  · obtain ⟨hk, hreached⟩ := h.halfway hs
    have hstep : v.step (.stopClose succeeds) =
        ⟨{ v.run with stopping := false, listeningSocket := v.run.listeningSocket.close succeeds },
          v.receiver⟩ := by
      simp [step, RunState.step, hs]
    rw [hstep]
    refine Sound.of_reached hreached (fun hin => h.late (Or.inr hin)) h.raised (fun _ => hk) ?_
    intro _ hrun
    rw [hk] at hrun
    cases hrun
  · have hstay : v.step (.stopClose succeeds) = v := by simp [step, RunState.step, hs]
    rwa [hstay]

lemma Released.advance (hr : v.Released) (o : Outcome) : (v.step (.advance o)).Released := by
  rcases hr.reached with hin | hend
  · obtain ⟨hk, -, -, hpoint⟩ := RunState.advance_inLoop hin o
    refine ⟨hk.trans hr.lowered, ?_⟩
    rcases hpoint with ⟨hin, -⟩ | ⟨hend, -⟩
    · exact Or.inl hin
    · exact Or.inr hend
  · have hstay : (v.step (.advance o)).run = v.run := by simp [step, RunState.step, RunState.advance, hend]
    exact ⟨hstay ▸ hr.lowered, hstay ▸ hr.reached⟩

lemma Released.start (hr : v.Released) : (v.step .start).Released := by
  have hold : v.run.point ≠ .fresh := by
    intro hp
    rcases hr.reached with hin | hend
    · rw [hp] at hin
      cases hin
    · rw [hp] at hend
      cases hend
  have hstay : (v.step .start).run = v.run := by simp [step, RunState.step, hold]
  exact ⟨hstay ▸ hr.lowered, hstay ▸ hr.reached⟩

lemma Released.stopClose (hr : v.Released) (succeeds : Bool) : (v.step (.stopClose succeeds)).Released := by
  by_cases hs : v.run.stopping = true
  · refine ⟨?_, ?_⟩ <;> simp only [step, RunState.step, hs, if_true]
    · exact hr.lowered
    · exact hr.reached
  · have hstay : v.step (.stopClose succeeds) = v := by simp [step, RunState.step, hs]
    rwa [hstay]

lemma leftBehind_advance (h : v.Sound) (o : Outcome) : (v.step (.advance o)).leftBehind =
    (v.leftBehind || (v.run.escapes o && decide (v.run.point ≠ .battery))) := by
  by_cases hin : v.run.point.inLoop = true
  · obtain ⟨hk, -, -, hpoint⟩ := RunState.advance_inLoop hin o
    have hr := h.late (Or.inr hin)
    have hreceiver : (v.step (.advance o)).receiver = true := (step_receiver_loop hin _).trans hr
    have hne : v.run.point ≠ .ended ∧ v.run.point ≠ .battery := by
      refine ⟨?_, ?_⟩ <;> intro hp <;> rw [hp] at hin <;> cases hin
    have hstep : (v.step (.advance o)).run = v.run.advance o := rfl
    rw [leftBehind, leftBehind, hreceiver, hr, hstep, hk, hin]
    rcases hpoint with ⟨hin', hstay⟩ | ⟨hend, hleft⟩
    · have hne' : (v.run.advance o).point ≠ .ended := by
        intro hp
        rw [hp] at hin'
        cases hin'
      simp [hin', hne', hne, hstay]
    · rw [hend]
      rcases hleft with he | he <;> simp [hne, he]
  · cases hp : v.run.point with
    | battery =>
      have hr := h.early (Or.inr (Or.inr hp))
      cases o <;> simp [leftBehind, step, RunState.step, RunState.advance, RunState.escapes, hp, hr, Point.inLoop]
    | bind =>
      have hr := h.early (Or.inr (Or.inl hp))
      cases o <;> simp [leftBehind, step, RunState.step, RunState.advance, RunState.escapes, hp, hr]
    | test => simp [hp, Point.inLoop] at hin
    | body b => simp [hp, Point.inLoop] at hin
    | cleanup c pending => simp [hp, Point.inLoop] at hin
    | _ => simp [leftBehind, step, RunState.step, RunState.advance, RunState.escapes, hp, Point.inLoop]

lemma leftBehind_start : (v.step .start).leftBehind = v.leftBehind := by
  by_cases hp : v.run.point = .fresh
  · simp [leftBehind, step, RunState.step, hp, Point.inLoop]
  · simp [leftBehind, step, RunState.step, hp]

lemma leftBehind_stopClose (succeeds : Bool) : (v.step (.stopClose succeeds)).leftBehind = v.leftBehind := by
  by_cases hs : v.run.stopping = true <;> simp [leftBehind, step, RunState.step, hs]

lemma leftBehind_stopFlag (h : v.Sound) (hk : v.run.keepListening = true) :
    (v.step .stopFlag).leftBehind = true := by
  have hr := h.raised hk
  obtain ⟨hlow, hreached⟩ := (h.stopFlag hk).2
  have hreceiver : (v.step .stopFlag).receiver = true := by simp [step, hr]
  rw [leftBehind, hreceiver, hlow]
  rcases hreached with hin | hend
  · simp [hin]
  · simp [hend]

lemma settled_receiver (h : v.Sound) (hs : v.settled = true) :
    v.receiver = (v.listening || v.leftBehind) ∧ (v.listening && v.leftBehind) = false := by
  simp only [settled, Bool.and_eq_true, decide_eq_true_eq] at hs
  obtain ⟨⟨hbind, hbattery, hraise, -⟩, hflag⟩ := hs
  by_cases hin : v.run.point.inLoop = true
  · have hk : v.run.keepListening = true := by simpa [hin] using hflag
    have hl := h.listens hin hk
    have hr := h.late (Or.inr hin)
    have hne : v.run.point ≠ .ended := by
      intro hp
      rw [hp] at hin
      cases hin
    simp [listening, leftBehind, hin, hk, hl, hr, hne]
  · have hout : v.run.point = .fresh ∨ v.run.point = .ended := by
      cases hp : v.run.point <;> simp_all [Point.inLoop]
    rcases hout with hp | hp
    · have hr := h.early (Or.inl hp)
      simp [listening, leftBehind, hp, hr, Point.inLoop]
    · simp [listening, leftBehind, hp, Point.inLoop]

end Registered

namespace ServiceLife

variable {l : ServiceLife}

structure Kept (l : ServiceLife) : Prop where
  sound : ∀ k, (l.servers k).Sound
  referenced : ∀ k, l.mngServer = some k → k < l.created
  released : ∀ k < l.created, l.mngServer ≠ some k → (l.servers k).Released

def NoneLeft (l : ServiceLife) : Prop := ∀ k < l.created, (l.servers k).leftBehind = false

lemma begun_kept : begun.Kept := by
  refine ⟨fun _ => Registered.created_sound, ?_, ?_⟩
  · intro k hk
    cases hk
  · intro k hk
    exact absurd hk (Nat.not_lt_zero k)

lemma happens_self (k : ℕ) (e : RunEvent) : (l.happens k e).servers k = (l.servers k).step e :=
  Function.update_self ..

lemma happens_other {k j : ℕ} (h : j ≠ k) (e : RunEvent) : (l.happens k e).servers j = l.servers j :=
  Function.update_of_ne h ..

lemma Kept.happens (h : l.Kept) {k : ℕ} {e : RunEvent} (hs : ((l.servers k).step e).Sound)
    (hr : (l.servers k).Released → ((l.servers k).step e).Released) : (l.happens k e).Kept := by
  refine ⟨?_, h.referenced, ?_⟩
  · intro j
    by_cases hj : j = k
    · rw [hj, happens_self]
      exact hs
    · rw [happens_other hj]
      exact h.sound j
  · intro j hcreated hfree
    have hreleased := h.released j hcreated hfree
    by_cases hj : j = k
    · subst j
      rw [happens_self]
      exact hr hreleased
    · rwa [happens_other hj]

lemma getMngServer_kept (h : l.Kept) : l.getMngServer.2.Kept := by
  rw [getMngServer]
  cases hm : l.mngServer with
  | some k => exact h
  | none =>
    refine ⟨?_, ?_, ?_⟩
    · intro k
      simp only [Function.update_apply]
      split_ifs
      · exact Registered.created_sound
      · exact h.sound k
    · intro k hk
      simp only [Option.some.injEq] at hk
      simp only
      omega
    · intro k hk hfree
      have hne : k ≠ l.created := by
        rintro rfl
        exact hfree rfl
      simp only at hk ⊢
      rw [Function.update_of_ne hne]
      exact h.released k (by omega) (by simp [hm])

lemma getMngServer_referenced : l.getMngServer.2.mngServer = some l.getMngServer.1 := by
  rw [getMngServer]
  cases hm : l.mngServer with
  | some k => exact hm
  | none => rfl

lemma getMngServer_noneLeft : l.getMngServer.2.NoneLeft ↔ l.NoneLeft := by
  rw [getMngServer]
  cases hm : l.mngServer with
  | some k => exact Iff.rfl
  | none =>
    constructor
    · intro h k hk
      have hleft := h k (Nat.lt_succ_of_lt hk)
      simpa only [Function.update_of_ne (Nat.ne_of_lt hk)] using hleft
    · intro h k hk
      by_cases hne : k = l.created
      · subst hne
        simp [Registered.created, Registered.leftBehind]
      · simp only [Function.update_of_ne hne]
        exact h k (by simp only at hk; omega)

lemma happens_noneLeft {k : ℕ} (hk : k < l.created) (e : RunEvent) : (l.happens k e).NoneLeft ↔
    ((l.servers k).step e).leftBehind = false ∧ ∀ j < l.created, j ≠ k → (l.servers j).leftBehind = false := by
  constructor
  · intro h
    refine ⟨?_, ?_⟩
    · rw [← happens_self]
      exact h k hk
    · intro j hj hne
      rw [← happens_other hne e]
      exact h j hj
  · rintro ⟨hself, hothers⟩ j hj
    by_cases hne : j = k
    · rw [hne, happens_self]
      exact hself
    · rw [happens_other hne]
      exact hothers j hj hne

lemma noneLeft_split {k : ℕ} (hk : k < l.created) : l.NoneLeft ↔
    (l.servers k).leftBehind = false ∧ ∀ j < l.created, j ≠ k → (l.servers j).leftBehind = false := by
  constructor
  · intro h
    exact ⟨h k hk, fun j hj _ => h j hj⟩
  · rintro ⟨hself, hothers⟩ j hj
    by_cases hne : j = k
    · rwa [hne]
    · exact hothers j hj hne

lemma isMngRunning_flag (h : l.isMngRunning = true) :
    ∃ k, l.mngServer = some k ∧ (l.servers k).run.keepListening = true := by
  rw [isMngRunning] at h
  cases hm : l.mngServer with
  | none => simp [hm] at h
  | some k => exact ⟨k, rfl, by simpa [hm] using h⟩

lemma step_stop {k : ℕ} (hr : l.isMngRunning = true) (hk : l.mngServer = some k) :
    l.step .stop = { l.happens k .stopFlag with mngServer := none } := by
  simp [step, hk, hr]

lemma step_stop_idle (hr : l.isMngRunning = false) : l.step .stop = l := by
  rw [step]
  cases l.mngServer <;> simp [hr]

lemma stop_kept (h : l.Kept) : (l.step .stop).Kept := by
  cases hr : l.isMngRunning with
  | false => rwa [step_stop_idle hr]
  | true =>
    obtain ⟨k, hk, hflag⟩ := isMngRunning_flag hr
    obtain ⟨hsound, hreleased⟩ := (h.sound k).stopFlag hflag
    rw [step_stop hr hk]
    refine ⟨(h.happens hsound (fun _ => hreleased)).sound, ?_, ?_⟩
    · intro j hj
      cases hj
    · intro j hj _
      by_cases hne : j = k
      · subst j
        simpa only [happens_self] using hreleased
      · simp only [happens_other hne]
        apply h.released j hj
        rw [hk]
        exact fun heq => hne (Option.some.inj heq).symm

lemma step_kept (l : ServiceLife) (e : LifeEvent) (h : l.Kept) : (l.step e).Kept := by
  cases e with
  | start =>
    rw [step]
    split_ifs
    · exact h
    · exact (getMngServer_kept h).happens ((getMngServer_kept h).sound _).start (fun hr => hr.start)
  | stop => exact stop_kept h
  | port => exact getMngServer_kept h
  | thread k o =>
    rw [step]
    split_ifs
    · exact h.happens ((h.sound k).advance o) (fun hr => hr.advance o)
    · exact h
  | closes k succeeds =>
    rw [step]
    split_ifs
    · exact h.happens ((h.sound k).stopClose succeeds) (fun hr => hr.stopClose succeeds)
    · exact h

lemma step_noneLeft (l : ServiceLife) (e : LifeEvent) (h : l.Kept) :
    (l.step e).NoneLeft ↔ l.NoneLeft ∧ l.Lasting e := by
  cases e with
  | start =>
    rw [step, Lasting, and_true]
    split_ifs
    · exact Iff.rfl
    · have hk := (getMngServer_kept h).referenced _ l.getMngServer_referenced
      rw [happens_noneLeft hk, Registered.leftBehind_start, ← noneLeft_split hk, getMngServer_noneLeft]
  | stop =>
    rw [Lasting]
    cases hr : l.isMngRunning with
    | false => rw [step_stop_idle hr, and_iff_left rfl]
    | true =>
      obtain ⟨k, hk, hflag⟩ := isMngRunning_flag hr
      rw [step_stop hr hk]
      -- The server that was stopped is the one left behind.
      refine iff_of_false ?_ (fun hleft => Bool.noConfusion hleft.2)
      intro hleft
      have hself := hleft k (h.referenced k hk)
      rw [happens_self, Registered.leftBehind_stopFlag (h.sound k) hflag] at hself
      cases hself
  | port =>
    rw [step, Lasting, and_true]
    exact getMngServer_noneLeft
  | thread k o =>
    rw [step, Lasting]
    split_ifs with hk
    · rw [happens_noneLeft hk, noneLeft_split hk, Registered.leftBehind_advance (h.sound k)]
      simp only [Bool.or_eq_false_iff, Bool.and_eq_false_imp, decide_eq_false_iff_not, not_not, hk,
        true_implies]
      tauto
    · simp [hk]
  | closes k succeeds =>
    rw [step, Lasting, and_true]
    split_ifs with hk
    · rw [happens_noneLeft hk, Registered.leftBehind_stopClose, ← noneLeft_split hk]
    · exact Iff.rfl

section View

variable (ports : ℕ → ℤ) (starts : List ℕ)

lemma seen_update (servers : ℕ → Registered) (k : ℕ) (v : Registered) (port : ℤ) :
    (fun j => (Function.update servers k v j).run.seen (Function.update ports k port j)) =
      Function.update (fun j => (servers j).run.seen (ports j)) k (v.run.seen port) := by
  funext j
  by_cases hj : j = k
  · subst j
    simp only [Function.update_self]
  · simp only [Function.update_of_ne hj]

lemma view_happens (k : ℕ) (e : RunEvent) : (l.happens k e).view ports starts =
    (l.view ports starts).set k (((l.servers k).run.step e).seen (ports k)) := by
  have hseen := seen_update ports l.servers k ((l.servers k).step e) (ports k)
  rw [Function.update_eq_self] at hseen
  simp only [view, happens, MngSide.set, hseen]
  rfl

lemma view_setPort (k : ℕ) (port : ℤ) :
    (l.view ports starts).set k { (l.view ports starts).servers k with listeningPort := port } =
      l.view (Function.update ports k port) starts := by
  have hseen := seen_update ports l.servers k (l.servers k) port
  rw [Function.update_eq_self] at hseen
  simp only [view, MngSide.set, hseen]
  rfl

lemma view_getMngServer : (l.view ports starts).getMngServer = (l.getMngServer.1,
    l.getMngServer.2.view (if l.mngServer = none then Function.update ports l.created mngDefaultPort else ports)
      starts) := by
  rw [getMngServer, MngSide.getMngServer, view]
  cases hm : l.mngServer with
  | some k => simp [view, hm]
  | none =>
    simp only [view, MngSide.set, if_true, seen_update]
    rfl

theorem view_stop (h : l.Kept) (hr : l.isMngRunning = true) :
    (l.step .stop).view ports starts = (l.view ports starts).stopMngServer := by
  obtain ⟨k, hk, hflag⟩ := isMngRunning_flag hr
  have hs : (l.servers k).run.stopping = false := by
    by_contra hs
    have hlow := ((h.sound k).halfway (by simpa using hs)).1
    rw [hflag] at hlow
    cases hlow
  have hseen : ((l.servers k).run.step .stopFlag).seen (ports k) =
      ((l.servers k).run.seen (ports k)).stopListening := by
    simp [RunState.step, hs, RunState.seen, ManagementServer.stopListening]
  have hview := view_happens (l := l) ports starts k .stopFlag
  rw [hseen] at hview
  rw [step_stop hr hk, MngSide.stopMngServer]
  have hm : (l.view ports starts).mngServer = some k := hk
  rw [hm]
  exact congrArg (fun m : MngSide => { m with mngServer := none }) hview

lemma view_startThread (k : ℕ) : (l.happens k .start).view ports starts =
    if ((l.view ports starts).servers k).thread = .new then
      (l.view ports starts).set k (((l.view ports starts).servers k).started .late)
    else l.view ports starts := by
  rw [view_happens]
  by_cases hp : (l.servers k).run.point = .fresh
  · have hnew : ((l.view ports starts).servers k).thread = .new := by
      simp only [view, RunState.seen, hp]
      rfl
    have hseen : ((l.servers k).run.step .start).seen (ports k) =
        ((l.view ports starts).servers k).started .late := by
      simp only [RunState.step, if_pos hp]
      rfl
    rw [if_pos hnew, hseen]
  · have hold : ((l.view ports starts).servers k).thread ≠ .new := by
      intro hnew
      have hthread : (l.servers k).run.point.threadState = .new := hnew
      cases hpoint : (l.servers k).run.point <;> simp_all [Point.threadState]
    have hseen : ((l.servers k).run.step .start).seen (ports k) = (l.view ports starts).servers k := by
      simp only [RunState.step, if_neg hp]
      rfl
    rw [if_neg hold, hseen, MngSide.set, Function.update_eq_self]

theorem view_start (hr : l.isMngRunning = false) (port : ℤ) : ∃ ports' starts',
    ((l.view ports starts).startMngServer port .late).1 = (l.step .start).view ports' starts' := by
  have hstep : l.step .start = l.getMngServer.2.happens l.getMngServer.1 .start := by simp [step, hr]
  rw [hstep, MngSide.startMngServer, view_getMngServer]
  generalize (if l.mngServer = none then Function.update ports l.created mngDefaultPort else ports) = ports₁
  refine ⟨Function.update ports₁ l.getMngServer.1 port, l.getMngServer.1 :: starts, ?_⟩
  rw [view_startThread]
  dsimp only
  rw [view_setPort]
  split_ifs with hnew hnew' hnew'
  · rfl
  · exact absurd hnew hnew'
  · exact absurd hnew' hnew
  · rfl

theorem view_thread (k : ℕ) (o : Outcome) :
    ((l.view ports starts).servers k).Moves (((l.step (.thread k o)).view ports starts).servers k) := by
  rw [step]
  split_ifs
  · rw [view_happens]
    simp only [MngSide.set, Function.update_self]
    exact RunState.step_moves _ _
  · exact .rest

end View

lemma run_kept {es : List LifeEvent} (h : l.Kept) : (run step l es).Kept := by
  induction es generalizing l with
  | nil => exact h
  | cons e es ih => exact ih (step_kept l e h)

lemma run_noneLeft (es : List LifeEvent) :
    (run step begun es).NoneLeft ↔ Along step Lasting begun es := by
  apply run_iff_along_kept Kept NoneLeft step_kept
  · intro l e h hleft
    exact ((step_noneLeft l e h).mp hleft).1
  · intro l e h hleft
    rw [step_noneLeft l e h, and_iff_right hleft]
  · exact begun_kept
  · intro k hk
    exact absurd hk (Nat.not_lt_zero k)

lemma listening_le_one (h : l.Kept) : l.listening ≤ 1 := by
  have honly : ∀ k < l.created, (l.servers k).listening = true → l.mngServer = some k := by
    intro k hk hlistens
    by_contra hfree
    have hlow := (h.released k hk hfree).lowered
    simp [Registered.listening, hlow] at hlistens
  cases hm : l.mngServer with
  | none =>
    have hzero : l.listening = 0 := by
      apply List.countP_eq_zero.mpr
      intro k hk hlistens
      have href := honly k (List.mem_range.mp hk) hlistens
      rw [hm] at href
      cases href
    rw [hzero]
    exact Nat.zero_le 1
  | some m =>
    calc l.listening ≤ (List.range l.created).count m := by
          apply List.countP_mono_left
          intro k hk hlistens
          have href := honly k (List.mem_range.mp hk) hlistens
          rw [hm, Option.some.injEq] at href
          simp [href]
      _ ≤ 1 := List.nodup_iff_count_le_one.mp List.nodup_range m

lemma countP_split {p q r : ℕ → Bool} {ks : List ℕ}
    (h : ∀ k ∈ ks, r k = (p k || q k) ∧ (p k && q k) = false) : ks.countP r = ks.countP p + ks.countP q := by
  induction ks with
  | nil => rfl
  | cons k ks ih =>
    obtain ⟨hor, hand⟩ := h k (by simp)
    have hks := ih (fun j hj => h j (by simp [hj]))
    simp only [List.countP_cons, hks, hor]
    cases hp : p k <;> cases hq : q k <;> simp [hp, hq] at hand ⊢ <;> omega

lemma receivers_split (h : l.Kept) (hq : l.Quiet) : l.receivers =
    l.listening + (List.range l.created).countP (fun k => (l.servers k).leftBehind) := by
  apply countP_split
  intro k hk
  exact Registered.settled_receiver (h.sound k) (hq k (List.mem_range.mp hk))

lemma balanced_iff (h : l.Kept) (hq : l.Quiet) : l.Balanced ↔ l.NoneLeft := by
  have hnone : (List.range l.created).countP (fun k => (l.servers k).leftBehind) = 0 ↔ l.NoneLeft := by
    simp [NoneLeft, List.countP_eq_zero]
  rw [Balanced, receivers_split h hq, and_iff_left (listening_le_one h), ← hnone]
  omega

theorem receivers_balanced_iff (es : List LifeEvent) (hq : (run step begun es).Quiet) :
    (run step begun es).Balanced ↔ Along step Lasting begun es :=
  (balanced_iff (run_kept begun_kept) hq).trans (run_noneLeft es)

def bringUp : List LifeEvent := [.start, .thread 0 .ok, .thread 0 .ok, .thread 0 .ok]

def failedRequest : List LifeEvent :=
  bringUp ++ [.thread 0 .ok, .thread 0 (.throws .ioException), .thread 0 .ok, .start]

theorem failed_request_balanced : (run step begun failedRequest).Balanced :=
  (receivers_balanced_iff failedRequest (by decide)).mpr (by decide)

def startAndStop : List LifeEvent := bringUp ++ [.stop, .closes 0 true, .thread 0 .ok]

theorem stopped_server_keeps_receiver :
    (run step begun startAndStop).Quiet ∧ ¬ (run step begun startAndStop).Balanced := by
  decide

end ServiceLife

end AndroidRemote.Service
