import Mathlib.Data.Nat.Init
import Mathlib.Tactic

/-! Counted loops `for (k = 0; k < n; k++)` over an explicit state, and the running extrema
that such loops keep. -/

namespace AndroidRemote.Library

variable {σ : Type*}

def forUpto (n : ℕ) (body : ℕ → σ → σ) (s : σ) : σ := Nat.fold n (fun k _ s => body k s) s

@[simp] lemma forUpto_zero (body : ℕ → σ → σ) (s : σ) : forUpto 0 body s = s := rfl

@[simp] lemma forUpto_succ (n : ℕ) (body : ℕ → σ → σ) (s : σ) :
    forUpto (n + 1) body s = body n (forUpto n body s) := by
  simp [forUpto]

lemma forUpto_invariant {n : ℕ} {body : ℕ → σ → σ} {s : σ} (I : ℕ → σ → Prop) (hi : I 0 s)
    (hs : ∀ k < n, ∀ t, I k t → I (k + 1) (body k t)) : I n (forUpto n body s) := by
  induction n with
  | zero => exact hi
  | succ n ih =>
    rw [forUpto_succ]
    exact hs n (by omega) _ (ih (fun k hk => hs k (by omega)))

variable {α β : Type*} [LinearOrder β]

def runningMax (f : α → β) (b : β) (xs : List α) : β := xs.foldl (fun m x => max m (f x)) b

def runningMin (f : α → β) (b : β) (xs : List α) : β := xs.foldl (fun m x => min m (f x)) b

lemma le_runningMax_iff {f : α → β} {b v : β} {xs : List α} :
    v ≤ runningMax f b xs ↔ v ≤ b ∨ ∃ x ∈ xs, v ≤ f x := by
  induction xs generalizing b with
  | nil => simp [runningMax]
  | cons x xs ih =>
    have hcons : runningMax f b (x :: xs) = runningMax f (max b (f x)) xs := rfl
    rw [hcons, ih, le_max_iff, List.exists_mem_cons_iff, or_assoc]

lemma runningMax_le_iff {f : α → β} {b v : β} {xs : List α} :
    runningMax f b xs ≤ v ↔ b ≤ v ∧ ∀ x ∈ xs, f x ≤ v := by
  induction xs generalizing b with
  | nil => simp [runningMax]
  | cons x xs ih =>
    have hcons : runningMax f b (x :: xs) = runningMax f (max b (f x)) xs := rfl
    rw [hcons, ih, max_le_iff, List.forall_mem_cons, and_assoc]

lemma runningMin_le_iff {f : α → β} {b v : β} {xs : List α} :
    runningMin f b xs ≤ v ↔ b ≤ v ∨ ∃ x ∈ xs, f x ≤ v :=
  le_runningMax_iff (β := βᵒᵈ)

lemma le_runningMin_iff {f : α → β} {b v : β} {xs : List α} :
    v ≤ runningMin f b xs ↔ v ≤ b ∧ ∀ x ∈ xs, v ≤ f x :=
  runningMax_le_iff (β := βᵒᵈ)

end AndroidRemote.Library
