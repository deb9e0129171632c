import Mathlib.Data.List.Forall2
import Mathlib.Tactic

/-! Computations that can fail: `Except`, mapping one over a list, and a loop that may stop early. -/

namespace AndroidRemote.Library

universe u v

variable {ε : Type u} {α β : Type v}

lemma bind_eq_ok {x : Except ε α} {f : α → Except ε β} {b : β} :
    (x >>= f) = .ok b ↔ ∃ a, x = .ok a ∧ f a = .ok b := by
  cases x <;> simp [bind, Except.bind]

@[simp] lemma ok_bind (a : α) (f : α → Except ε β) : (Except.ok a >>= f) = f a := rfl

@[simp] lemma error_bind (e : ε) (f : α → Except ε β) : (Except.error e >>= f) = .error e := rfl

@[simp] lemma pure_eq_ok (a : α) : (pure a : Except ε α) = .ok a := rfl

lemma map_bind {γ : Type v} (x : Except ε α) (f : α → Except ε β) (g : β → γ) :
    (x >>= f).map g = x >>= fun a => (f a).map g := by
  cases x <;> rfl

lemma mapM_eq_ok {f : α → Except ε β} {xs : List α} {ys : List β} :
    xs.mapM f = .ok ys ↔ List.Forall₂ (fun x y => f x = .ok y) xs ys := by
  induction xs generalizing ys with
  | nil => simp [eq_comm]
  | cons x xs ih =>
    simp only [List.mapM_cons, bind_eq_ok, pure_eq_ok, Except.ok.injEq, ih, List.forall₂_cons_left_iff]
    constructor
    · rintro ⟨y, hy, zs, hz, rfl⟩
      exact ⟨y, zs, hy, hz, rfl⟩
    · rintro ⟨y, zs, hy, hz, rfl⟩
      exact ⟨y, hy, zs, hz, rfl⟩

lemma mapM_ok_map {f : α → Except ε β} {xs : List α} (g : α → β) (h : ∀ x ∈ xs, f x = .ok (g x)) :
    xs.mapM f = .ok (xs.map g) := by
  rw [mapM_eq_ok, List.forall₂_map_right_iff, List.forall₂_same]
  exact h

lemma mapM_error_head {f : α → Except ε β} {x : α} {xs : List α} {e : ε} (h : f x = .error e) :
    (x :: xs).mapM f = .error e := by
  simp [h]

lemma exists_mapM_ok_iff {f : α → Except ε β} {xs : List α} {P : β → Prop} :
    (∃ ys, xs.mapM f = .ok ys ∧ ∀ y ∈ ys, P y) ↔ ∀ x ∈ xs, ∃ y, f x = .ok y ∧ P y := by
  simp only [mapM_eq_ok]
  induction xs with
  | nil => simp
  | cons x xs ih =>
    rw [List.forall_mem_cons, ← ih]
    constructor
    · rintro ⟨ys, hys, hp⟩
      obtain ⟨y, zs, hy, hz, rfl⟩ := List.forall₂_cons_left_iff.mp hys
      rw [List.forall_mem_cons] at hp
      exact ⟨⟨y, hy, hp.1⟩, zs, hz, hp.2⟩
    · rintro ⟨⟨y, hy, hp⟩, zs, hz, hps⟩
      exact ⟨y :: zs, .cons hy hz, List.forall_mem_cons.mpr ⟨hp, hps⟩⟩

lemma foldlM_invariant {σ : Type u} {step : σ → ε → Option σ} {es : List ε} {s s' : σ}
    (I : List ε → σ → Prop)
    (hk : ∀ before s e s', e ∈ es → I before s → step s e = some s' → I (before ++ [e]) s') (hi : I [] s)
    (h : es.foldlM step s = some s') : I es s' := by
  suffices hrest : ∀ before after s, before ++ after = es → I before s →
    after.foldlM step s = some s' → I es s' from
    hrest [] es s rfl hi h
  intro before after
  induction after generalizing before with
  | nil =>
    intro s hes hs hrun
    obtain rfl : s = s' := by simpa using hrun
    simpa [← hes] using hs
  | cons e after ih =>
    intro s hes hs hrun
    obtain ⟨t, ht, hrun⟩ := Option.bind_eq_some_iff.mp (by simpa using hrun)
    exact ih (before ++ [e]) t (by simpa using hes) (hk before s e t (by simp [← hes]) hs ht) hrun

end AndroidRemote.Library
