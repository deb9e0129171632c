import AndroidRemote.Display.RotatedPicture

/-! `transform_touch_coordinates` against the index formulas of `update_screen`. -/

namespace AndroidRemote.Display

open AndroidRemote.Library

def scale : ℤ := 4096

/-- An `int` product or difference that meets the unsigned `scrinfo.xres` becomes unsigned. -/
def toUnsigned (v : ℤ) : ℤ := v % 2 ^ 32

/-- The `int` assigned from an integral `double`; a value that no `int` holds is saturated. -/
def doubleToInt (d : ℤ) : ℤ := max (-2 ^ 31) (min (2 ^ 31 - 1) d)

def touchAxis (v : ℤ) (res : ℕ) : ℤ := doubleToInt (toUnsigned (v * scale) / res - scale / 2)

def transformTouchCoordinates (rotation : ℕ) (s : FbVarScreeninfo) (x y : ℤ) : ℤ × ℤ :=
  if rotation = 0 then
    (touchAxis x s.xres, touchAxis y s.yres)
  else if rotation = 90 then
    (touchAxis y s.xres, touchAxis (s.yres - x) s.yres)
  else if rotation = 180 then
    (touchAxis (s.xres - x) s.xres, touchAxis (s.yres - y) s.yres)
  else if rotation = 270 then
    (touchAxis (s.xres - y) s.xres, touchAxis x s.yres)
  else (x, y)

def vncWidth (rotation : ℕ) (s : FbVarScreeninfo) : ℕ :=
  if rotation = 90 ∨ rotation = 270 then s.yres else s.xres

def SharesTouch (f res : ℕ) : Prop := 4096 * f % res + 4096 < res

instance (f res : ℕ) : Decidable (SharesTouch f res) := inferInstanceAs (Decidable (_ < _))

/-- A mirrored axis is measured from the far edge of the pixel, not from its near one. -/
def TouchExact (rotation : ℕ) (s : FbVarScreeninfo) (fx fy : ℕ) : Prop :=
  (rotation = 180 ∨ rotation = 270 → SharesTouch fx s.xres) ∧
    (rotation = 90 ∨ rotation = 180 → SharesTouch fy s.yres)

lemma touchAxis_eq {v res : ℕ} (hv : v ≤ res) (hres : 1 ≤ res ∧ res ≤ 2 ^ 19) :
    touchAxis v res = (4096 * v / res : ℕ) - 2048 := by
  have hu : toUnsigned (v * scale) = ((4096 * v : ℕ) : ℤ) := by
    simp only [toUnsigned, scale]
    omega
  have hq : 4096 * v / res ≤ 4096 := Nat.div_le_of_le_mul (by nlinarith)
  rw [touchAxis, hu, ← Int.natCast_div]
  generalize 4096 * v / res = q at hq ⊢
  simp only [doubleToInt, scale]
  omega

lemma div_add_eq_iff {a b n : ℕ} (hn : 0 < n) : (a + b) / n = a / n ↔ a % n + b < n := by
  have hsplit : (a + b) / n = a / n + (a % n + b) / n := by
    conv_lhs => rw [← Nat.div_add_mod a n, Nat.add_assoc, Nat.mul_add_div hn]
  rw [hsplit, Nat.add_eq_left, Nat.div_eq_zero_iff]
  omega

lemma touchAxis_succ_iff {f res : ℕ} (hf : f < res) (hres : 1 ≤ res ∧ res ≤ 2 ^ 19) :
    touchAxis ((f + 1 : ℕ) : ℤ) res = touchAxis f res ↔ SharesTouch f res := by
  rw [touchAxis_eq hf hres, touchAxis_eq hf.le hres, SharesTouch, ← div_add_eq_iff (by omega)]
  rw [Nat.mul_succ]
  omega

lemma placed {s : FbVarScreeninfo} {r fx fy vx vy : ℕ} (hr : r = 0 ∨ r = 90 ∨ r = 180 ∨ r = 270)
    (hfx : fx < s.xres) (hfy : fy < s.yres) (hvx : vx < vncWidth r s)
    (hd : rowMajor (vncWidth r s) vx vy = destination r s fx fy) :
    (r = 0 → vx = fx ∧ vy = fy) ∧ (r = 90 → vx + 1 + fy = s.yres ∧ vy = fx) ∧
      (r = 180 → vx + 1 + fx = s.xres ∧ vy + 1 + fy = s.yres) ∧
      (r = 270 → vx = fy ∧ vy + 1 + fx = s.xres) := by
  have hplace : ∀ x y : ℤ, 0 ≤ x → x < vncWidth r s → destination r s fx fy = rowMajor (vncWidth r s) x y →
      (vx : ℤ) = x ∧ (vy : ℤ) = y := by
    intro x y hx hw h
    exact rowMajor_injective (by omega) (by omega) hx hw (hd.trans h)
  rcases hr with rfl | rfl | rfl | rfl
  · obtain ⟨hx, hy⟩ := hplace fx fy (by omega) (by simpa [vncWidth] using hfx) rfl
    omega
  · obtain ⟨hx, hy⟩ := hplace (s.yres - 1 - fy) fx (by omega) (by simp [vncWidth]; omega) rfl
    omega
  · obtain ⟨hx, hy⟩ := hplace (s.xres - 1 - fx) (s.yres - 1 - fy) (by omega)
      (by simp [vncWidth]; omega) rfl
    omega
  · obtain ⟨hx, hy⟩ := hplace fy (s.xres - 1 - fx) (by omega) (by simp [vncWidth]; omega) rfl
    omega

theorem touch_follows_display (s : FbVarScreeninfo) {r fx fy vx vy : ℕ}
    (hr : r = 0 ∨ r = 90 ∨ r = 180 ∨ r = 270) (hx : 1 ≤ s.xres ∧ s.xres ≤ 2 ^ 19)
    (hy : 1 ≤ s.yres ∧ s.yres ≤ 2 ^ 19) (hfx : fx < s.xres) (hfy : fy < s.yres)
    (hvx : vx < vncWidth r s)
    (hd : rowMajor (vncWidth r s) vx vy = destination r s fx fy) :
    transformTouchCoordinates r s vx vy = transformTouchCoordinates 0 s fx fy ↔ TouchExact r s fx fy := by
  obtain ⟨h0, h90, h180, h270⟩ := placed hr hfx hfy hvx hd
  have hfar : ∀ {v f res : ℕ}, v + 1 + f = res → (res : ℤ) - v = ((f + 1 : ℕ) : ℤ) := by
    intro v f res h
    omega
  rcases hr with rfl | rfl | rfl | rfl
  · obtain ⟨rfl, rfl⟩ := h0 rfl
    simp [TouchExact]
  · obtain ⟨hmirror, rfl⟩ := h90 rfl
    simp [transformTouchCoordinates, TouchExact, hfar hmirror, ← touchAxis_succ_iff hfy hy]
  · obtain ⟨hmx, hmy⟩ := h180 rfl
    simp [transformTouchCoordinates, TouchExact, hfar hmx, hfar hmy, ← touchAxis_succ_iff hfx hx,
      ← touchAxis_succ_iff hfy hy]
  · obtain ⟨rfl, hmirror⟩ := h270 rfl
    simp [transformTouchCoordinates, TouchExact, hfar hmirror, ← touchAxis_succ_iff hfx hx]

def portrait : FbVarScreeninfo := ⟨320, 480, 320, 480, 0, 0, 16, ⟨11, 5⟩, ⟨5, 6⟩, ⟨0, 5⟩⟩

theorem touch_follows_display_corner :
    transformTouchCoordinates 90 portrait 479 0 = transformTouchCoordinates 0 portrait 0 0 ↔
      TouchExact 90 portrait 0 0 :=
  touch_follows_display portrait (.inr (.inl rfl)) (by decide) (by decide) (by decide) (by decide)
    (by decide) (by decide)

theorem corner_touched_beside : rowMajor (vncWidth 90 portrait) 479 0 = destination 90 portrait 0 0 ∧
    transformTouchCoordinates 90 portrait 479 0 ≠ transformTouchCoordinates 0 portrait 0 0 := by
  decide

end AndroidRemote.Display
