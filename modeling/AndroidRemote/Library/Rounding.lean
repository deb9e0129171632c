import Mathlib.Data.Int.Log
import Mathlib.Tactic

/-! Rational numbers rounded to `p` significant bits, to nearest with ties to even, and
truncated to integers. -/

namespace AndroidRemote.Library

def roundEven (q : ℚ) : ℤ :=
  let f := ⌊q⌋
  if q - f < 1 / 2 then f else if 1 / 2 < q - f then f + 1 else if f % 2 = 0 then f else f + 1

def ulp (p : ℕ) (x : ℚ) : ℚ := 2 ^ (Int.log 2 |x| + 1 - p)

def roundTo (p : ℕ) (x : ℚ) : ℚ := roundEven (x / ulp p x) * ulp p x

def truncate (x : ℚ) : ℤ := if 0 ≤ x then ⌊x⌋ else ⌈x⌉

lemma abs_roundEven_sub_le (q : ℚ) : |roundEven q - q| ≤ 1 / 2 := by
  have hlo := Int.floor_le q
  have hhi := Int.lt_floor_add_one q
  rw [abs_le, roundEven]
  split_ifs with hbelow habove heven
  · constructor <;> linarith
  · push_cast
    constructor <;> linarith
  · constructor <;> linarith
  · push_cast
    constructor <;> linarith

lemma roundEven_intCast (n : ℤ) : roundEven n = n := by
  simp [roundEven]

lemma ulp_pos (p : ℕ) (x : ℚ) : 0 < ulp p x := zpow_pos (by norm_num) _

lemma ulp_le (p : ℕ) {x : ℚ} (hx : x ≠ 0) : ulp p x / 2 ≤ |x| / 2 ^ p := by
  have hbinade : (2 : ℚ) ^ Int.log 2 |x| ≤ |x| := by
    exact_mod_cast Int.zpow_log_le_self (R := ℚ) (b := 2) (by decide) (abs_pos.mpr hx)
  have hulp : ulp p x / 2 = 2 ^ Int.log 2 |x| / 2 ^ p := by
    rw [ulp, zpow_sub₀ (by norm_num), zpow_add₀ (by norm_num), zpow_natCast]
    ring
  rw [hulp]
  exact div_le_div_of_nonneg_right hbinade (by positivity)

lemma abs_roundTo_sub_le (p : ℕ) (x : ℚ) : |roundTo p x - x| ≤ |x| / 2 ^ p := by
  by_cases hx : x = 0
  · subst hx
    simp [roundTo, roundEven]
  · have hu := ulp_pos p x
    have hscaled : roundTo p x - x = (roundEven (x / ulp p x) - x / ulp p x) * ulp p x := by
      rw [roundTo, sub_mul, div_mul_cancel₀ _ hu.ne']
    calc |roundTo p x - x|
        = |roundEven (x / ulp p x) - x / ulp p x| * ulp p x := by
          rw [hscaled, abs_mul, abs_of_pos hu]
      _ ≤ 1 / 2 * ulp p x := mul_le_mul_of_nonneg_right (abs_roundEven_sub_le _) hu.le
      _ = ulp p x / 2 := by ring
      _ ≤ |x| / 2 ^ p := ulp_le p hx

lemma roundTo_natCast {p n : ℕ} (hn : n < 2 ^ p) : roundTo p n = n := by
  by_cases hz : n = 0
  · subst hz
    simp [roundTo, roundEven]
  · have hlog : Int.log 2 |(n : ℚ)| = (Nat.log 2 n : ℕ) := by
      rw [abs_of_nonneg (by positivity)]
      exact Int.log_natCast 2 n
    have hbits : Nat.log 2 n + 1 ≤ p := Nat.log_lt_of_lt_pow hz hn
    have hulp : (n : ℚ) / ulp p n = ((n * 2 ^ (p - (Nat.log 2 n + 1)) : ℕ) : ℤ) := by
      have hexp : (Nat.log 2 n : ℤ) + 1 - p = -((p - (Nat.log 2 n + 1) : ℕ) : ℤ) := by
        omega
      rw [ulp, hlog, hexp, zpow_neg, zpow_natCast, div_inv_eq_mul]
      push_cast
      rfl
    rw [roundTo, hulp, roundEven_intCast, ← hulp, div_mul_cancel₀ _ (ulp_pos p n).ne']

end AndroidRemote.Library
