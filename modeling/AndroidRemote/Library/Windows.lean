import Mathlib.Data.Nat.Periodic
import Mathlib.Tactic

/-! What holds of every stretch of a given length in a list, and how often a periodic
property holds in one. -/

namespace AndroidRemote.Library

variable {α β : Type*} {n : ℕ}

def EveryWindow (n : ℕ) (P : List α → Prop) (xs : List α) : Prop :=
  ∀ before window after, xs = before ++ window ++ after → window.length = n → P window

lemma everyWindow_map (f : α → β) (P : List β → Prop) (xs : List α) :
    EveryWindow n P (xs.map f) ↔ EveryWindow n (fun window => P (window.map f)) xs := by
  constructor
  · rintro h before window after rfl hlen
    apply h (before.map f) (window.map f) (after.map f)
    · simp only [List.map_append]
    · rwa [List.length_map]
  · intro h before window after hxs hlen
    obtain ⟨front, after', rfl, hfront, rfl⟩ := List.map_eq_append_iff.mp hxs
    obtain ⟨before', window', rfl, rfl, rfl⟩ := List.map_eq_append_iff.mp hfront
    apply h before' window' after' rfl
    rwa [List.length_map] at hlen

lemma everyWindow_range (f : ℕ → α) (P : List α → Prop) (k : ℕ) : EveryWindow n P ((List.range k).map f) ↔
    ∀ a, a + n ≤ k → P ((List.range n).map (fun j => f (a + j))) := by
  constructor
  · intro h a ha
    apply h ((List.range a).map f) _ ((List.range (k - (a + n))).map (fun j => f (a + n + j)))
    · have hk : k = a + n + (k - (a + n)) := by omega
      rw [hk, List.range_add, List.range_add, Nat.add_sub_cancel_left]
      simp only [List.map_append, List.map_map]
      rfl
    · simp
  · intro h before window after hxs hlen
    have hk : before.length + n + after.length = k := by
      have := congrArg List.length hxs
      simp only [List.length_map, List.length_range, List.length_append, hlen] at this
      exact this.symm
    have hwindow : window = (List.range n).map (fun j => f (before.length + j)) := by
      apply List.ext_getElem
      · simp [hlen]
      · intro j hj _
        have hget : ((List.range k).map f)[before.length + j]? = window[j]? := by
          rw [hxs, List.append_assoc, List.getElem?_append_right (by omega), Nat.add_sub_cancel_left,
            List.getElem?_append_left hj]
        have hin : before.length + j < k := by omega
        simpa [hin, hj] using hget.symm
    rw [hwindow]
    exact h before.length (by omega)

lemma countP_periodic {p : ℕ → Prop} [DecidablePred p] (h : Function.Periodic p n) (a : ℕ) :
    (List.range n).countP (fun j => decide (p (a + j))) = Nat.count p n := by
  induction a with
  | zero =>
    simp only [Nat.zero_add]
    rfl
  | succ a ih =>
    have hlast := Nat.count_succ (fun j => p (a + j)) n
    have hfirst := Nat.count_succ' (fun j => p (a + j)) n
    have hperiod : p (a + n) ↔ p (a + 0) := by rw [h a, Nat.add_zero]
    have hshift : (List.range n).countP (fun j => decide (p (a + 1 + j))) =
        Nat.count (fun j => p (a + (j + 1))) n := by
      simp only [Nat.add_assoc, Nat.add_comm 1]
      rfl
    have hcount : Nat.count (fun j => p (a + j)) n = Nat.count p n := ih
    rw [hshift, ← hcount]
    simp only [hperiod] at hlast
    omega

end AndroidRemote.Library
