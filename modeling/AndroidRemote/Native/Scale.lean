import AndroidRemote.Library.Rounding
import AndroidRemote.Rfb.Screen

/-! The ratios of `scale.c` between a screen and its scaled picture, and the divisor they make. -/

namespace AndroidRemote.Native

open AndroidRemote.Library AndroidRemote.Rfb

def double (x : ℚ) : ℚ := roundTo 53 x

def scaleSide (source target x : ℕ) : ℤ := truncate (double (double (x / source) * target))

def scaleX (source target : ℕ × ℕ) (x : ℕ) : ℤ := scaleSide source.1 target.1 x

def scaleY (source target : ℕ × ℕ) (y : ℕ) : ℤ := scaleSide source.2 target.2 y

/-- The divisor of `rfbScaledScreenUpdateRect`: the pixels of `screen` for one of `ptr`. -/
def area2 (screen ptr : ℕ × ℕ) : ℤ := scaleX ptr screen 1 * scaleY ptr screen 1

/-- `rfbScaledScreenUpdateRect` for all of `screen`: every pixel of a true-colour picture is an
average over `area2` pixels. -/
def dividesByZero (format : PixelFormat) (screen ptr : ℕ × ℕ) : Bool :=
  format.trueColour && decide (0 < ptr.1 ∧ 0 < ptr.2 ∧ area2 screen ptr = 0)

lemma dividesByZero_iff {format : PixelFormat} {screen ptr : ℕ × ℕ} : dividesByZero format screen ptr = true ↔
    format.trueColour = true ∧ 0 < ptr.1 ∧ 0 < ptr.2 ∧ area2 screen ptr = 0 := by
  rw [dividesByZero, Bool.and_eq_true, decide_eq_true_eq]

lemma abs_double_sub_le (x : ℚ) : |double x - x| ≤ |x| / 2 ^ 53 := abs_roundTo_sub_le 53 x

lemma ratio_error (a b : ℕ) : |double (double (1 / a) * b) - b / a| ≤ b / a / 2 ^ 51 := by
  have hu : (0 : ℚ) ≤ 1 / a := by positivity
  have hb : (0 : ℚ) ≤ b := by positivity
  have hratio : (b : ℚ) / a = 1 / a * b := by ring
  have hinverse := abs_double_sub_le (1 / a)
  rw [abs_of_nonneg hu, abs_le] at hinverse
  rw [hratio]
  generalize double (1 / (a : ℚ)) = y at hinverse ⊢
  generalize (1 : ℚ) / a = u at hu hinverse ⊢
  have hlo : (u - u / 2 ^ 53) * b ≤ y * b := mul_le_mul_of_nonneg_right (by linarith) hb
  have hhi : y * b ≤ (u + u / 2 ^ 53) * b := mul_le_mul_of_nonneg_right (by linarith) hb
  have hub : 0 ≤ u * b := mul_nonneg hu hb
  have hyb : 0 ≤ y * b := mul_nonneg (by linarith) hb
  have hproduct := abs_double_sub_le (y * b)
  rw [abs_of_nonneg hyb, abs_le] at hproduct
  rw [abs_le]
  constructor <;> linarith

lemma scaleSide_shrunk {a b : ℕ} (ha : 0 < a) (h : 100 * a ≤ 99 * b) : 0 < scaleSide a b 1 := by
  have herror := ratio_error a b
  have hpos : (0 : ℚ) < a := by exact_mod_cast ha
  have hratio : (100 : ℚ) / 99 ≤ b / a := by
    rw [div_le_div_iff₀ (by norm_num) hpos]
    exact_mod_cast (by omega : 100 * a ≤ b * 99)
  rw [abs_le] at herror
  have hone : (1 : ℚ) ≤ double (double (1 / a) * b) := by linarith
  rw [scaleSide, Nat.cast_one, truncate, if_pos (by linarith)]
  exact Int.lt_iff_add_one_le.mpr (Int.le_floor.mpr (by exact_mod_cast hone))

lemma scaleSide_grown {a b : ℕ} (ha : 0 < a) (h : 200 * b ≤ 199 * a) : scaleSide a b 1 = 0 := by
  have herror := ratio_error a b
  have hpos : (0 : ℚ) < a := by exact_mod_cast ha
  have hnonneg : (0 : ℚ) ≤ b / a := by positivity
  have hratio : (b : ℚ) / a ≤ 199 / 200 := by
    rw [div_le_div_iff₀ hpos (by norm_num)]
    exact_mod_cast (by omega : b * 200 ≤ 199 * a)
  rw [abs_le] at herror
  rw [scaleSide, Nat.cast_one, truncate, if_pos (by linarith)]
  exact Int.floor_eq_zero_iff.mpr ⟨by linarith, by linarith⟩

end AndroidRemote.Native
