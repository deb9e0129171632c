import AndroidRemote.Display.Touch

/-! `transform_touch_coordinates` against the axes that `suinput_open` declares. -/

namespace AndroidRemote.Display

open AndroidRemote.Library

def absMin : ℤ := -2047
def absMax : ℤ := 2048

def vncHeight (rotation : ℕ) (s : FbVarScreeninfo) : ℕ :=
  if rotation = 90 ∨ rotation = 270 then s.xres else s.yres

def OnAxis (v : ℤ) : Prop := absMin ≤ v ∧ v ≤ absMax

def distances (rotation : ℕ) (s : FbVarScreeninfo) (x y : ℤ) : ℤ × ℤ :=
  if rotation = 0 then (x, y)
  else if rotation = 90 then (y, s.yres - x)
  else if rotation = 180 then (s.xres - x, s.yres - y)
  else (s.xres - y, x)

def OffEdge (rotation : ℕ) (s : FbVarScreeninfo) (vx vy : ℕ) : Prop :=
  if rotation = 0 then s.xres ≤ 4096 * vx ∧ s.yres ≤ 4096 * vy
  else if rotation = 90 then s.xres ≤ 4096 * vy ∧ s.yres ≤ 4096 * (s.yres - vx)
  else if rotation = 180 then s.xres ≤ 4096 * (s.xres - vx) ∧ s.yres ≤ 4096 * (s.yres - vy)
  else s.xres ≤ 4096 * (s.xres - vy) ∧ s.yres ≤ 4096 * vx

section

variable {r : ℕ} {s : FbVarScreeninfo}

lemma transform_eq (hr : r = 0 ∨ r = 90 ∨ r = 180 ∨ r = 270) (x y : ℤ) :
    transformTouchCoordinates r s x y =
      (touchAxis (distances r s x y).1 s.xres, touchAxis (distances r s x y).2 s.yres) := by
  rcases hr with rfl | rfl | rfl | rfl <;> rfl

lemma distances_cast (hr : r = 0 ∨ r = 90 ∨ r = 180 ∨ r = 270) {vx vy : ℕ} (hx : vx < vncWidth r s)
    (hy : vy < vncHeight r s) : ∃ u v : ℕ, distances r s vx vy = ((u : ℤ), (v : ℤ)) ∧
      u ≤ s.xres ∧ v ≤ s.yres ∧ (OffEdge r s vx vy ↔ s.xres ≤ 4096 * u ∧ s.yres ≤ 4096 * v) := by
  rcases hr with rfl | rfl | rfl | rfl
  · exact ⟨vx, vy, rfl, hx.le, hy.le, Iff.rfl⟩
  · change vx < s.yres at hx
    exact ⟨vy, s.yres - vx, by simp [distances]; omega, hy.le, by omega, Iff.rfl⟩
  · change vx < s.xres at hx
    change vy < s.yres at hy
    exact ⟨s.xres - vx, s.yres - vy, by simp [distances]; omega, by omega, by omega, Iff.rfl⟩
  · change vy < s.xres at hy
    exact ⟨s.xres - vy, vx, by simp [distances]; omega, by omega, hx.le, Iff.rfl⟩

lemma onAxis_iff {v res : ℕ} (hv : v ≤ res) (hres : 1 ≤ res ∧ res ≤ 2 ^ 19) :
    OnAxis (touchAxis v res) ↔ res ≤ 4096 * v := by
  rw [OnAxis, touchAxis_eq hv hres, absMin, absMax]
  have hstep : 1 ≤ 4096 * v / res ↔ res ≤ 4096 * v := by
    rw [Nat.le_div_iff_mul_le (by omega), Nat.one_mul]
  have htop : 4096 * v / res ≤ 4096 := Nat.div_le_of_le_mul (by nlinarith)
  omega

end

lemma touchAxis_lt {u v res : ℕ} (huv : u < v) (hv : v ≤ res) (hres : res ≤ 4096) :
    touchAxis u res < touchAxis v res := by
  have hsize : 1 ≤ res ∧ res ≤ 2 ^ 19 := by omega
  rw [touchAxis_eq (huv.le.trans hv) hsize, touchAxis_eq hv hsize]
  have hstep : 4096 * u / res + 1 ≤ 4096 * v / res := by
    rw [← Nat.add_div_right _ (by omega : 0 < res)]
    exact Nat.div_le_div_right (by omega)
  omega

theorem touch_in_range (s : FbVarScreeninfo) {r vx vy : ℕ} (hr : r = 0 ∨ r = 90 ∨ r = 180 ∨ r = 270)
    (hx : 1 ≤ s.xres ∧ s.xres ≤ 2 ^ 19) (hy : 1 ≤ s.yres ∧ s.yres ≤ 2 ^ 19) (hvx : vx < vncWidth r s)
    (hvy : vy < vncHeight r s) :
    (OnAxis (transformTouchCoordinates r s vx vy).1 ∧ OnAxis (transformTouchCoordinates r s vx vy).2) ↔
      OffEdge r s vx vy := by
  obtain ⟨u, v, hd, hu, hv, hedge⟩ := distances_cast hr hvx hvy
  rw [hedge, transform_eq hr, hd, onAxis_iff hu hx, onAxis_iff hv hy]

theorem touch_in_range_corner :
    (OnAxis (transformTouchCoordinates 90 portrait 479 0).1 ∧
      OnAxis (transformTouchCoordinates 90 portrait 479 0).2) ↔ OffEdge 90 portrait 479 0 :=
  touch_in_range portrait (.inr (.inl rfl)) (by decide) (by decide) (by decide) (by decide)

theorem corner_below_axis : 0 < vncWidth 0 portrait ∧ 0 < vncHeight 0 portrait ∧
    ¬ OnAxis (transformTouchCoordinates 0 portrait 0 0).1 := by
  refine ⟨by decide, by decide, ?_⟩
  rintro ⟨hmin, -⟩
  revert hmin
  decide

@[ext] structure VncPosition (r : ℕ) (s : FbVarScreeninfo) where
  x : ℕ
  y : ℕ
  x_lt : x < vncWidth r s
  y_lt : y < vncHeight r s

def VncPosition.touch {r : ℕ} {s : FbVarScreeninfo} (p : VncPosition r s) : ℤ × ℤ :=
  transformTouchCoordinates r s p.x p.y

def MovesWithX (r : ℕ) (t u : ℤ × ℤ) : Prop :=
  if r = 0 then t.1 < u.1 else if r = 90 then u.2 < t.2 else if r = 180 then u.1 < t.1 else t.2 < u.2

def MovesWithY (r : ℕ) (t u : ℤ × ℤ) : Prop :=
  if r = 0 then t.2 < u.2 else if r = 90 then t.1 < u.1 else if r = 180 then u.2 < t.2 else u.1 < t.1

def Unwrapped (d : ℤ) : Prop := 0 ≤ d ∧ d * scale < 2 ^ 31

section

variable {r : ℕ} {s : FbVarScreeninfo}

lemma MovesWithX.ne {t u : ℤ × ℤ} (h : MovesWithX r t u) : t ≠ u := by
  rintro rfl
  rw [MovesWithX] at h
  split_ifs at h <;> exact lt_irrefl _ h

lemma MovesWithY.ne {t u : ℤ × ℤ} (h : MovesWithY r t u) : t ≠ u := by
  rintro rfl
  rw [MovesWithY] at h
  split_ifs at h <;> exact lt_irrefl _ h

lemma touchAxis_sub_lt {u v res : ℕ} (huv : u < v) (hv : v < res) (hres : res ≤ 4096) :
    touchAxis (res - v) res < touchAxis (res - u) res := by
  have hlt : touchAxis ((res - v : ℕ) : ℤ) res < touchAxis ((res - u : ℕ) : ℤ) res :=
    touchAxis_lt (by omega) (by omega) hres
  rwa [Nat.cast_sub hv.le, Nat.cast_sub (huv.trans hv).le] at hlt

lemma VncPosition.movesWithX (hr : r = 0 ∨ r = 90 ∨ r = 180 ∨ r = 270) (hx : s.xres ≤ 4096)
    (hy : s.yres ≤ 4096)
    {p q : VncPosition r s} (h : p.x < q.x) : MovesWithX r p.touch q.touch := by
  have hq := q.x_lt
  rcases hr with rfl | rfl | rfl | rfl
  · exact touchAxis_lt h hq.le hx
  · exact touchAxis_sub_lt h hq hy
  · exact touchAxis_sub_lt h hq hx
  · exact touchAxis_lt h hq.le hy

lemma VncPosition.movesWithY (hr : r = 0 ∨ r = 90 ∨ r = 180 ∨ r = 270) (hx : s.xres ≤ 4096)
    (hy : s.yres ≤ 4096)
    {p q : VncPosition r s} (h : p.y < q.y) : MovesWithY r p.touch q.touch := by
  have hq := q.y_lt
  rcases hr with rfl | rfl | rfl | rfl
  · exact touchAxis_lt h hq.le hy
  · exact touchAxis_lt h hq.le hx
  · exact touchAxis_sub_lt h hq hy
  · exact touchAxis_sub_lt h hq hx

lemma VncPosition.unwrapped (hr : r = 0 ∨ r = 90 ∨ r = 180 ∨ r = 270) (hx : s.xres ≤ 4096)
    (hy : s.yres ≤ 4096)
    (p : VncPosition r s) : Unwrapped (distances r s p.x p.y).1 ∧ Unwrapped (distances r s p.x p.y).2 := by
  obtain ⟨u, v, hd, hu, hv, -⟩ := distances_cast hr p.x_lt p.y_lt
  rw [hd]
  simp only [Unwrapped, scale]
  omega

end

theorem touch_keeps_order (s : FbVarScreeninfo) {r : ℕ} (hr : r = 0 ∨ r = 90 ∨ r = 180 ∨ r = 270)
    (hx : s.xres ≤ 4096) (hy : s.yres ≤ 4096) :
    Function.Injective (VncPosition.touch (r := r) (s := s)) ∧
      ∀ p q : VncPosition r s, (p.x < q.x → MovesWithX r p.touch q.touch) ∧
        (p.y < q.y → MovesWithY r p.touch q.touch) ∧
        Unwrapped (distances r s p.x p.y).1 ∧ Unwrapped (distances r s p.x p.y).2 := by
  constructor
  · intro p q heq
    ext
    · rcases lt_trichotomy p.x q.x with h | h | h
      · exact absurd heq (VncPosition.movesWithX hr hx hy h).ne
      · exact h
      · exact absurd heq.symm (VncPosition.movesWithX hr hx hy h).ne
    · rcases lt_trichotomy p.y q.y with h | h | h
      · exact absurd heq (VncPosition.movesWithY hr hx hy h).ne
      · exact h
      · exact absurd heq.symm (VncPosition.movesWithY hr hx hy h).ne
  · exact fun p q => ⟨VncPosition.movesWithX hr hx hy, VncPosition.movesWithY hr hx hy, p.unwrapped hr hx hy⟩

theorem touch_keeps_order_portrait :
    Function.Injective (VncPosition.touch (r := 270) (s := portrait)) ∧
      ∀ p q : VncPosition 270 portrait, (p.x < q.x → MovesWithX 270 p.touch q.touch) ∧
        (p.y < q.y → MovesWithY 270 p.touch q.touch) ∧
        Unwrapped (distances 270 portrait p.x p.y).1 ∧ Unwrapped (distances 270 portrait p.x p.y).2 :=
  touch_keeps_order portrait (.inr (.inr (.inr rfl))) (by decide) (by decide)

end AndroidRemote.Display
