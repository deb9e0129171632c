import AndroidRemote.Service.ManagementRun
import AndroidRemote.Service.Controller

/-! The service's picture of a management server is what `run` and `stopListening` do to it,
with the statements between two changes of the picture left out. -/

namespace AndroidRemote.Service

open AndroidRemote.Library

def Point.threadState : Point → ThreadState
  | .fresh => .new
  | .bind | .battery | .raiseFlag => .binding
  | .test | .body _ | .cleanup _ _ => .serving
  | .ended => .terminated

def RunState.seen (port : ℤ) (s : RunState) : ManagementServer :=
  ⟨port, s.point.threadState, s.keepListening⟩

inductive ManagementServer.Moves (m : ManagementServer) : ManagementServer → Prop
  | rest : Moves m m
  | start : m.thread = .new → Moves m (m.started .late)
  | bound : Moves m m.bound
  | bindFails : Moves m m.bindFails
  | dies : Moves m m.dies
  | stopListening : Moves m m.stopListening

namespace RunState

variable {s : RunState} (port : ℤ)

lemma seen_inLoop {p q : Point} (hp : p.inLoop = true) (hq : q.inLoop = true) :
    p.threadState = q.threadState := by
  cases p <;> cases q <;> simp_all [Point.inLoop, Point.threadState]

lemma complete_inLoop (b : Statement) : (s.complete b).point.inLoop = true := by
  cases b <;> rfl

lemma cleaned_inLoop (pending : Option Throwable) (c : Cleanup) :
    (s.cleaned pending c).point.inLoop = true := by
  cases c <;> rfl

lemma moves_rest {t : RunState} (hs : s.point.inLoop = true) (ht : t.point.inLoop = true)
    (hk : t.keepListening = s.keepListening) : (s.seen port).Moves (t.seen port) := by
  have heq : t.seen port = s.seen port := by
    rw [seen, seen, hk, seen_inLoop ht hs]
  rw [heq]
  exact .rest

lemma moves_dies (hs : s.point.inLoop = true) :
    (s.seen port).Moves (RunState.seen port { s with point := .ended }) := by
  have hserving : s.point.threadState = .serving := seen_inLoop hs (q := .test) rfl
  have hthread : (s.seen port).thread = .serving := hserving
  have heq : RunState.seen port { s with point := .ended } = (s.seen port).dies := by
    rw [ManagementServer.dies, if_pos hthread]
    rfl
  rw [heq]
  exact .dies

lemma moves_bindFails (hs : s.point.threadState = .binding) :
    (s.seen port).Moves (RunState.seen port { s with point := .ended }) := by
  have hthread : (s.seen port).thread = .binding := hs
  have heq : RunState.seen port { s with point := .ended } = (s.seen port).bindFails := by
    rw [ManagementServer.bindFails, if_pos hthread]
    rfl
  rw [heq]
  exact .bindFails

lemma advance_moves (o : Outcome) : (s.seen port).Moves ((s.advance o).seen port) := by
  simp only [advance]
  cases hp : s.point with
  | fresh => exact .rest
  | ended => exact .rest
  | bind =>
    cases o with
    | ok =>
      have heq : s.seen port = ⟨port, .binding, s.keepListening⟩ := by rw [seen, hp]; rfl
      rw [heq]
      exact .rest
    | throws t => exact moves_bindFails port (by rw [hp]; rfl)
  | battery =>
    have heq : s.seen port = ⟨port, .binding, s.keepListening⟩ := by rw [seen, hp]; rfl
    dsimp only
    split_ifs
    · exact moves_bindFails port (by rw [hp]; rfl)
    · rw [heq]
      exact .rest
  | raiseFlag =>
    have heq : RunState.seen port { s with keepListening := true, point := .test } =
        (s.seen port).bound := by
      simp [seen, hp, Point.threadState, ManagementServer.bound]
    rw [heq]
    exact .bound
  | test =>
    have hin : s.point.inLoop = true := by rw [hp]; rfl
    dsimp only
    split_ifs
    · exact moves_rest port hin rfl rfl
    · exact moves_dies port hin
  | body b =>
    have hin : s.point.inLoop = true := by rw [hp]; rfl
    cases o with
    | throws t => exact moves_rest port hin rfl rfl
    | ok =>
      dsimp only
      split_ifs
      · exact moves_rest port hin rfl rfl
      · exact moves_rest port hin (complete_inLoop b) (by cases b <;> rfl)
  | cleanup c pending =>
    have hin : s.point.inLoop = true := by rw [hp]; rfl
    dsimp only
    split_ifs
    · exact moves_dies port hin
    · exact moves_rest port hin (cleaned_inLoop pending c) (by cases c <;> rfl)

lemma step_moves (e : RunEvent) : (s.seen port).Moves ((s.step e).seen port) := by
  cases e with
  | start =>
    simp only [step]
    split_ifs with hf
    · have heq : RunState.seen port { s with point := .bind } = (s.seen port).started .late := by
        simp [seen, Point.threadState, ManagementServer.started]
      rw [heq]
      exact .start (by rw [seen, hf]; rfl)
    · exact .rest
  | advance o => exact advance_moves port o
  | stopFlag =>
    simp only [step]
    split_ifs
    · exact .rest
    · exact .stopListening
  | stopClose succeeds =>
    simp only [step]
    split_ifs
    · exact .rest
    · exact .rest

/-- Every run of a management server is a run of moves that the service's world can make. -/
lemma run_moves (es : List RunEvent) :
    Relation.ReflTransGen ManagementServer.Moves (s.seen port) ((run step s es).seen port) := by
  induction es generalizing s with
  | nil => exact .refl
  | cons e es ih => exact .head (step_moves port e) ih

end RunState

namespace ManagementServer

variable {m : ManagementServer}

/-- What the service finds after the wait of its start-up is where such moves lead. -/
lemma started_moves (hm : m.thread = .new) (b : Bind) : Relation.ReflTransGen Moves m (m.started b) := by
  have hstart : Relation.ReflTransGen Moves m (m.started .late) := .single (.start hm)
  cases b with
  | inTime =>
    have hbound : m.started .inTime = (m.started .late).bound := by simp [started, bound]
    exact hbound ▸ hstart.tail .bound
  | late => exact hstart
  | fails =>
    have hfails : m.started .fails = (m.started .late).bindFails := by simp [started, bindFails]
    exact hfails ▸ hstart.tail .bindFails

lemma Moves.event {w : World} {k : ℕ} (h : (w.mng.servers k).Moves m) :
    m = w.mng.servers k ∨ m = (w.mng.servers k).started .late ∨
      m = (w.mng.servers k).stopListening ∨ ∃ e, (step w e).mng.servers k = m := by
  cases h with
  | rest => exact .inl rfl
  | start _ => exact .inr (.inl rfl)
  | stopListening => exact .inr (.inr (.inl rfl))
  | bound => exact .inr (.inr (.inr ⟨.mngBound k, Function.update_self ..⟩))
  | bindFails => exact .inr (.inr (.inr ⟨.mngBindFails k, Function.update_self ..⟩))
  | dies => exact .inr (.inr (.inr ⟨.mngDies k, Function.update_self ..⟩))

end ManagementServer

end AndroidRemote.Service
