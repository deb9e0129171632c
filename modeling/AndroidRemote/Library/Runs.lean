import Mathlib.Data.List.Basic
import Mathlib.Tactic

/-! Runs of a deterministic system: a step function folded over a list of events, and
properties required of every step of a run. -/

namespace AndroidRemote.Library

variable {σ ε : Type*} (step : σ → ε → σ)

def run (s : σ) (es : List ε) : σ := es.foldl step s

@[simp] lemma run_nil (s : σ) : run step s [] = s := rfl

@[simp] lemma run_cons (s : σ) (e : ε) (es : List ε) : run step s (e :: es) = run step (step s e) es := rfl

def Along (P : σ → ε → Prop) : σ → List ε → Prop
  | _, [] => True
  | s, e :: es => P s e ∧ Along P (step s e) es

instance instDecidableAlong (P : σ → ε → Prop) [∀ s e, Decidable (P s e)] :
    ∀ (s : σ) (es : List ε), Decidable (Along step P s es)
  | _, [] => inferInstanceAs (Decidable True)
  | s, e :: es =>
    have := instDecidableAlong P (step s e) es
    inferInstanceAs (Decidable (P s e ∧ Along step P (step s e) es))

variable {step} {P Q C : σ → ε → Prop} {s : σ} {es : List ε}

@[simp] lemma along_nil : Along step P s [] := trivial

@[simp] lemma along_cons {e : ε} : Along step P s (e :: es) ↔ P s e ∧ Along step P (step s e) es := Iff.rfl

lemma along_append {fs : List ε} :
    Along step P s (es ++ fs) ↔ Along step P s es ∧ Along step P (run step s es) fs := by
  induction es generalizing s with
  | nil => simp
  | cons e es ih => simp only [List.cons_append, along_cons, ih, run_cons, and_assoc]

lemma along_of_forall {A : ε → Prop} (h : ∀ e ∈ es, A e) : Along step (fun _ e => A e) s es := by
  induction es generalizing s with
  | nil => trivial
  | cons e es ih => exact ⟨h e (by simp), ih (fun f hf => h f (by simp [hf]))⟩

lemma Along.and (hp : Along step P s es) (hq : Along step Q s es) :
    Along step (fun s e => P s e ∧ Q s e) s es := by
  induction es generalizing s with
  | nil => trivial
  | cons e es ih => exact ⟨⟨hp.1, hq.1⟩, ih hp.2 hq.2⟩

lemma Along.invariant (I : σ → Prop) (hk : ∀ s e, I s → C s e → I (step s e))
    (h : Along step C s es) (hi : I s) : I (run step s es) := by
  induction es generalizing s with
  | nil => exact hi
  | cons e es ih => exact ih h.2 (hk _ _ hi h.1)

/-- What waits, and at every step goes on to wait or has reached its goal, waits at the end or had
reached its goal after some first part of the run. -/
lemma Along.reaches (W G : σ → Prop) (hk : ∀ s e, W s → C s e → W (step s e) ∨ G (step s e))
    (h : Along step C s es) (hw : W s) :
    W (run step s es) ∨ ∃ front back, es = front ++ back ∧ G (run step s front) := by
  induction es generalizing s with
  | nil => exact .inl hw
  | cons e es ih =>
    rcases hk s e hw h.1 with hw' | hg
    · rcases ih h.2 hw' with hend | ⟨front, back, rfl, hg⟩
      · exact .inl hend
      · exact .inr ⟨e :: front, back, rfl, hg⟩
    · exact .inr ⟨[e], es, rfl, hg⟩

lemma Along.of_invariant (I : σ → Prop) (hk : ∀ s e, I s → C s e → I (step s e))
    (hp : ∀ s e, I s → C s e → P s e) (h : Along step C s es) (hi : I s) : Along step P s es := by
  induction es generalizing s with
  | nil => trivial
  | cons e es ih => exact ⟨hp _ _ hi h.1, ih h.2 (hk _ _ hi h.1)⟩

/-- Two step properties that agree wherever the invariant holds agree on whole runs. The
invariant may be lost by a step that has neither. -/
lemma Along.congr (I : σ → Prop) (hk : ∀ s e, I s → C s e → P s e → I (step s e))
    (hpq : ∀ s e, I s → C s e → (P s e ↔ Q s e)) (hc : Along step C s es) (hi : I s) :
    Along step P s es ↔ Along step Q s es := by
  induction es generalizing s with
  | nil => rfl
  | cons e es ih =>
    simp only [along_cons]
    constructor
    · rintro ⟨hp, hr⟩
      exact ⟨(hpq _ _ hi hc.1).mp hp, (ih hc.2 (hk _ _ hi hc.1 hp)).mp hr⟩
    · rintro ⟨hq, hr⟩
      have hp := (hpq _ _ hi hc.1).mpr hq
      exact ⟨hp, (ih hc.2 (hk _ _ hi hc.1 hp)).mpr hr⟩

lemma along_congr (I : σ → Prop) (hk : ∀ s e, I s → P s e → I (step s e))
    (hpq : ∀ s e, I s → (P s e ↔ Q s e)) (hi : I s) : Along step P s es ↔ Along step Q s es :=
  Along.congr I (fun s e hi _ hp => hk s e hi hp) (fun s e hi _ => hpq s e hi)
    (along_of_forall (A := fun _ => True) (fun _ _ => trivial)) hi

lemma run_lost (I J : σ → Prop) (hk : ∀ s e, I s → I (step s e)) (hb : ∀ s e, I s → J (step s e) → J s)
    (hi : I s) (hj : ¬ J s) : ¬ J (run step s es) := by
  induction es generalizing s with
  | nil => exact hj
  | cons e es ih => exact ih (hk s e hi) (fun h => hj (hb s e hi h))

lemma run_iff_along_kept (I J : σ → Prop) (hk : ∀ s e, I s → I (step s e))
    (hb : ∀ s e, I s → J (step s e) → J s) (hc : ∀ s e, I s → J s → (J (step s e) ↔ C s e))
    (hi : I s) (hj : J s) : J (run step s es) ↔ Along step C s es := by
  induction es generalizing s with
  | nil => simpa using hj
  | cons e es ih =>
    rw [run_cons, along_cons, ← hc s e hi hj]
    by_cases he : J (step s e)
    · rw [ih (hk s e hi) he, and_iff_right he]
    · exact iff_of_false (run_lost I J hk hb (hk s e hi) he) (fun h => he h.1)

lemma run_iff_along (J : σ → Prop) (hb : ∀ s e, J (step s e) → J s) (hj : J s) :
    J (run step s es) ↔ Along step (fun s e => J (step s e)) s es :=
  run_iff_along_kept (fun _ => True) J (fun _ _ _ => trivial) (fun s e _ => hb s e) (fun _ _ _ _ => Iff.rfl)
    trivial hj

end AndroidRemote.Library
