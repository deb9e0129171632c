import AndroidRemote.Native.ScreenRecord

/-! The divisions that `scale.c` makes when a client is given a scaled picture. -/

namespace AndroidRemote.Native

open AndroidRemote.Display AndroidRemote.Library

variable {out : Out}

namespace Daemon

variable (d : Daemon out)

def scaledSize : ℕ × ℕ := (d.scaledSide d.fb.vncscr.width, d.scaledSide d.fb.vncscr.height)

/-- What `rfbScalingSetup` relies on when it is called for a new client. No picture is scaled to
the size of the screen itself. -/
def ScalesSafely : Prop :=
  0 < d.scaledSize.1 ∧ 0 < d.scaledSize.2 ∧
    (d.scaledSize ≠ d.screenSize → 0 < area2 d.screenSize d.scaledSize)

def ShrinksWithin : Prop :=
  (d.scaling < 100 ∧ 100 ≤ d.fb.vncscr.width * d.scaling ∧ 100 ≤ d.fb.vncscr.height * d.scaling) ∨
    (100 < d.scaling ∧ d.fb.vncscr.width * (d.scaling - 100) < 100 ∧
      d.fb.vncscr.height * (d.scaling - 100) < 100)

end Daemon

lemma truncate_natCast (n : ℕ) : truncate n = n := by
  simp [truncate]

namespace Daemon

variable (d : Daemon out)

lemma scaledSide_eq_truncate {side : ℕ} (h : side * d.scaling < 2 ^ 31) :
    (d.scaledSide side : ℤ) = truncate (double ((side * d.scaling : ℕ) / 100)) := by
  rw [scaledSide]
  generalize side * d.scaling = n at h ⊢
  have hsplit : (n : ℚ) = 100 * (n / 100 : ℕ) + (n % 100 : ℕ) := by
    exact_mod_cast (Nat.div_add_mod n 100).symm
  by_cases hexact : n % 100 = 0
  · have hquotient : (n : ℚ) / 100 = (n / 100 : ℕ) := by
      rw [hexact] at hsplit
      push_cast at hsplit ⊢
      linarith
    rw [hquotient, double, roundTo_natCast (by omega), truncate_natCast]
  · have herror := abs_double_sub_le ((n : ℚ) / 100)
    have hsmall : (n : ℚ) < 2 ^ 31 := by exact_mod_cast h
    have hrest : (1 : ℚ) ≤ (n % 100 : ℕ) ∧ ((n % 100 : ℕ) : ℚ) ≤ 99 := by
      constructor
      · exact_mod_cast Nat.one_le_iff_ne_zero.mpr hexact
      · exact_mod_cast Nat.le_of_lt_succ (Nat.mod_lt n (by decide))
    have hnonneg : (0 : ℚ) ≤ (n / 100 : ℕ) := by positivity
    rw [abs_le, abs_of_nonneg (show (0 : ℚ) ≤ n / 100 by positivity)] at herror
    rw [truncate, if_pos (by linarith), eq_comm, Int.floor_eq_iff, Int.cast_natCast]
    constructor <;> linarith

lemma scaledSide_shrunk (side : ℕ) (hs : d.scaling < 100) :
    100 * d.scaledSide side ≤ 99 * side ∧ (0 < d.scaledSide side ↔ 100 ≤ side * d.scaling) := by
  have hproduct : side * d.scaling ≤ side * 99 := Nat.mul_le_mul_left _ (by omega)
  rw [scaledSide]
  omega

lemma scaledSide_grown (side : ℕ) (hs : 100 < d.scaling) (hside : 1 ≤ side) : 0 < d.scaledSide side ∧
    (d.scaledSide side = side ↔ side * (d.scaling - 100) < 100) ∧
    (d.scaledSide side ≠ side → 200 * side ≤ 199 * d.scaledSide side) := by
  have hproduct : side * 101 ≤ side * d.scaling := Nat.mul_le_mul_left _ (by omega)
  have hexcess : side * (d.scaling - 100) = side * d.scaling - side * 100 := Nat.mul_sub _ _ _
  rw [scaledSide]
  omega

end Daemon

theorem scaling_safe_iff (d : Daemon out) (hs : 1 ≤ d.scaling ∧ d.scaling ≤ 150 ∧ d.scaling ≠ 100)
    (hw : 1 ≤ d.fb.vncscr.width) (hh : 1 ≤ d.fb.vncscr.height) : d.ScalesSafely ↔ d.ShrinksWithin := by
  rcases Nat.lt_or_gt_of_ne hs.2.2 with hless | hmore
  · obtain ⟨hwidth, hwpos⟩ := d.scaledSide_shrunk d.fb.vncscr.width hless
    obtain ⟨hheight, hhpos⟩ := d.scaledSide_shrunk d.fb.vncscr.height hless
    constructor
    · rintro ⟨hw₀, hh₀, -⟩
      exact .inl ⟨hless, hwpos.mp hw₀, hhpos.mp hh₀⟩
    · rintro (⟨-, hw₁, hh₁⟩ | ⟨hmore, -⟩)
      · have hw₀ := hwpos.mpr hw₁
        have hh₀ := hhpos.mpr hh₁
        exact ⟨hw₀, hh₀, fun _ => mul_pos (scaleSide_shrunk hw₀ hwidth) (scaleSide_shrunk hh₀ hheight)⟩
      · omega
  · obtain ⟨hw₀, hwsame, hwidth⟩ := d.scaledSide_grown _ hmore hw
    obtain ⟨hh₀, hhsame, hheight⟩ := d.scaledSide_grown _ hmore hh
    constructor
    · rintro ⟨-, -, harea⟩
      -- a side that grows has no source pixel for one of the target
      have hw₁ : d.scaledSide d.fb.vncscr.width = d.fb.vncscr.width := by
        by_contra hne
        have hzero := scaleSide_grown hw₀ (hwidth hne)
        have hpositive := harea (fun h => hne (congrArg Prod.fst h))
        simp [area2, scaleX, Daemon.screenSize, Daemon.scaledSize, hzero] at hpositive
      have hh₁ : d.scaledSide d.fb.vncscr.height = d.fb.vncscr.height := by
        by_contra hne
        have hzero := scaleSide_grown hh₀ (hheight hne)
        have hpositive := harea (fun h => hne (congrArg Prod.snd h))
        simp [area2, scaleY, Daemon.screenSize, Daemon.scaledSize, hzero] at hpositive
      exact .inr ⟨hmore, hwsame.mp hw₁, hhsame.mp hh₁⟩
    · rintro (⟨hless, -⟩ | ⟨-, hw₁, hh₁⟩)
      · omega
      · refine ⟨hw₀, hh₀, fun hne => absurd ?_ hne⟩
        rw [Daemon.scaledSize, hwsame.mpr hw₁, hhsame.mpr hh₁]
        rfl

lemma enlarged_start : ∃ d : Daemon .out16, initFbServer portrait 0 150 0 (fun _ _ => 0) = some ⟨.out16, d⟩ ∧
    d.scaling = 150 ∧ d.fb.vncscr.width = 320 ∧ d.fb.vncscr.height = 480 := ⟨_, rfl, rfl, rfl, rfl⟩

theorem scaling_safe_iff_portrait : ∃ d : Daemon .out16,
    initFbServer portrait 0 150 0 (fun _ _ => 0) = some ⟨.out16, d⟩ ∧ (d.ScalesSafely ↔ d.ShrinksWithin) := by
  obtain ⟨d, hd, hs, hw, hh⟩ := enlarged_start
  exact ⟨d, hd, scaling_safe_iff d (by omega) (by omega) (by omega)⟩

theorem enlarged_divides_by_zero : ∃ d : Daemon .out16,
    initFbServer portrait 0 150 0 (fun _ _ => 0) = some ⟨.out16, d⟩ ∧
      d.scaledSize ≠ d.screenSize ∧ area2 d.screenSize d.scaledSize = 0 ∧ ¬ d.ScalesSafely := by
  obtain ⟨d, hd, hs, hw, hh⟩ := enlarged_start
  have hsize : d.scaledSize = (480, 720) := by simp [Daemon.scaledSize, Daemon.scaledSide, hs, hw, hh]
  have hscreen : d.screenSize = (320, 480) := by simp [Daemon.screenSize, hw, hh]
  have hzero : area2 d.screenSize d.scaledSize = 0 := by
    rw [hsize, hscreen, area2, scaleX, scaleSide_grown (by decide) (by decide), zero_mul]
  have hne : d.scaledSize ≠ d.screenSize := by
    rw [hsize, hscreen]
    decide
  refine ⟨d, hd, hne, hzero, ?_⟩
  rintro ⟨-, -, harea⟩
  exact absurd (harea hne) (by rw [hzero]; decide)

end AndroidRemote.Native
