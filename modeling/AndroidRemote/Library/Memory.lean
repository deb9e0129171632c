import Mathlib.Logic.Function.Basic
import Mathlib.Tactic

/-! Memory read from a base pointer, flat copies, and row-major picture coordinates. -/

namespace AndroidRemote.Library

variable {α : Type*}

/-- The cells around a pointer, by signed offset. An allocation is a range of offsets;
cells outside it belong to somebody else. -/
abbrev Memory (α : Type*) := ℤ → α

def memcpy (dst src : Memory α) (n : ℕ) : Memory α :=
  fun k => if 0 ≤ k ∧ k < n then src k else dst k

lemma memcpy_inside {dst src : Memory α} {n : ℕ} {k : ℤ} (h : 0 ≤ k) (hk : k < n) :
    memcpy dst src n k = src k := by
  simp [memcpy, h, hk]

lemma memcpy_behind {dst src : Memory α} {n : ℕ} {k : ℤ} (hk : n ≤ k) : memcpy dst src n k = dst k :=
  if_neg (fun h => absurd h.2 (not_lt.mpr hk))

lemma store_unless_equal [DecidableEq α] (m : Memory α) (k : ℤ) (v : α) :
    (if m k ≠ v then Function.update m k v else m) = Function.update m k v := by
  split_ifs with h
  · rfl
  · exact (Function.update_eq_self_iff.mpr (not_not.mp h).symm).symm

def rowMajor (w x y : ℤ) : ℤ := x + y * w

lemma rowMajor_injective {w x y x' y' : ℤ} (hx : 0 ≤ x) (hw : x < w) (hx' : 0 ≤ x') (hw' : x' < w)
    (h : rowMajor w x y = rowMajor w x' y') : x = x' ∧ y = y' := by
  have hr : x = x' := by
    have hm := congrArg (· % w) h
    simpa [rowMajor, Int.emod_eq_of_lt hx hw, Int.emod_eq_of_lt hx' hw'] using hm
  have hpos : w ≠ 0 := by omega
  refine ⟨hr, mul_right_cancel₀ hpos ?_⟩
  simp only [rowMajor, hr] at h
  exact add_left_cancel h

lemma rowMajor_nonneg {w x y : ℤ} (hw : 0 ≤ w) (hx : 0 ≤ x) (hy : 0 ≤ y) : 0 ≤ rowMajor w x y :=
  add_nonneg hx (mul_nonneg hy hw)

lemma rowMajor_lt {w h x y : ℤ} (hx : 0 ≤ x) (hw : x < w) (hy : y < h) :
    rowMajor w x y < w * h := by
  have hh : (y + 1) * w ≤ h * w := mul_le_mul_of_nonneg_right (by omega) (by omega)
  simp only [rowMajor]
  nlinarith

lemma rowMajor_range_iff {w h x y : ℤ} (hx : 0 ≤ x) (hw : x < w) :
    0 ≤ rowMajor w x y ∧ rowMajor w x y < w * h ↔ 0 ≤ y ∧ y < h := by
  constructor
  · rintro ⟨hlo, hhi⟩
    simp only [rowMajor] at hlo hhi
    constructor
    · by_contra hneg
      have hmul : y * w ≤ -1 * w := mul_le_mul_of_nonneg_right (by omega) (by omega)
      omega
    · by_contra hbig
      have hmul : h * w ≤ y * w := mul_le_mul_of_nonneg_right (by omega) (by omega)
      rw [mul_comm w h] at hhi
      omega
  · rintro ⟨hlo, hhi⟩
    exact ⟨rowMajor_nonneg (by omega) hx hlo, rowMajor_lt hx hw hhi⟩

end AndroidRemote.Library
