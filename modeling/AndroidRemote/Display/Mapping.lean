import AndroidRemote.Display.Indices

/-! The mapping that `init_fb` makes of the framebuffer, against what the unrotated scan reads. -/

namespace AndroidRemote.Display

open AndroidRemote.Library

variable {out : Out} {w : ℕ}

def roundUpToPageSize (pageSize x : BitVec w) : BitVec w := (x + (pageSize - 1)) &&& ~~~(pageSize - 1)

/-- `fbSize` of `init_fb`, where a `size_t` has `w` bits. -/
def fbSize (w lineLength pageSize : ℕ) (s : FbVarScreeninfo) : BitVec w :=
  let size := BitVec.ofNat w s.yresVirtual
  let twice := (BitVec.ofNat 32 s.yres * 2).setWidth w
  let size := if size < twice then twice else size
  roundUpToPageSize (BitVec.ofNat w pageSize) (BitVec.ofNat w lineLength * size)

lemma mask_toNat {k : ℕ} (hk : k < w) : (BitVec.ofNat w (2 ^ k) - 1).toNat = 2 ^ k - 1 := by
  have hpow : 2 ^ k < 2 ^ w := Nat.pow_lt_pow_right (by decide) hk
  have hone : (1 : BitVec w).toNat = 1 := Nat.mod_eq_of_lt (Nat.one_lt_two_pow (by omega))
  have hpage : (BitVec.ofNat w (2 ^ k)).toNat = 2 ^ k := Nat.mod_eq_of_lt hpow
  rw [BitVec.toNat_sub_of_le, hpage, hone]
  rw [BitVec.le_def, hpage, hone]
  exact Nat.one_le_two_pow

lemma and_not_mask (y : BitVec w) {k : ℕ} (hk : k < w) :
    y &&& ~~~(BitVec.ofNat w (2 ^ k) - 1) = (y >>> k) <<< k := by
  have hmask : BitVec.ofNat w (2 ^ k) - 1 = BitVec.ofNat w (2 ^ k - 1) := by
    apply BitVec.eq_of_toNat_eq
    rw [mask_toNat hk, BitVec.toNat_ofNat, Nat.mod_eq_of_lt]
    exact (Nat.sub_le _ _).trans_lt (Nat.pow_lt_pow_right (by decide) hk)
  rw [hmask]
  apply BitVec.eq_of_getLsbD_eq
  intro i hi
  rw [BitVec.getLsbD_and, BitVec.getLsbD_not, BitVec.getLsbD_ofNat, Nat.testBit_two_pow_sub_one,
    BitVec.getLsbD_shiftLeft, BitVec.getLsbD_ushiftRight]
  by_cases hik : i < k
  · simp [hik]
  · simp [hik, hi, show k + (i - k) = i by omega]

lemma roundUpToPageSize_ge (x : BitVec w) {k : ℕ} (hk : k < w) (hx : x.toNat + 2 ^ k ≤ 2 ^ w) :
    x.toNat ≤ (roundUpToPageSize (BitVec.ofNat w (2 ^ k)) x).toNat := by
  have hpow : 2 ^ k < 2 ^ w := Nat.pow_lt_pow_right (by decide) hk
  have hpos : 0 < 2 ^ k := Nat.two_pow_pos k
  have hsum : (x + (BitVec.ofNat w (2 ^ k) - 1)).toNat = x.toNat + (2 ^ k - 1) := by
    rw [BitVec.toNat_add, mask_toNat hk, Nat.mod_eq_of_lt (by omega)]
  rw [roundUpToPageSize, and_not_mask _ hk, BitVec.toNat_shiftLeft, BitVec.toNat_ushiftRight, hsum,
    Nat.shiftRight_eq_div_pow, Nat.shiftLeft_eq]
  have hfloor := Nat.div_add_mod (x.toNat + (2 ^ k - 1)) (2 ^ k)
  have hrest := Nat.mod_lt (x.toNat + (2 ^ k - 1)) hpos
  rw [Nat.mul_comm, Nat.mod_eq_of_lt]
  · omega
  · omega

lemma fbSize_ge (hw : 32 ≤ w) {lineLength k : ℕ} {s : FbVarScreeninfo} (hl : 1 ≤ lineLength)
    (hy : 1 ≤ s.yres) (hb : lineLength * max s.yresVirtual (2 * s.yres) + 2 ^ k < 2 ^ 31) :
    lineLength * max s.yresVirtual (2 * s.yres) ≤ (fbSize w lineLength (2 ^ k) s).toNat := by
  have hword : 2 ^ 32 ≤ 2 ^ w := Nat.pow_le_pow_right (by decide) hw
  have hpos : 0 < 2 ^ k := Nat.two_pow_pos k
  have hk : k < 31 := (Nat.pow_lt_pow_iff_right (a := 2) (by decide)).mp (by omega)
  generalize hn : max s.yresVirtual (2 * s.yres) = n at hb ⊢
  have hvirtual : s.yresVirtual ≤ n := hn ▸ le_max_left _ _
  have hreal : 2 * s.yres ≤ n := hn ▸ le_max_right _ _
  have hheight : n ≤ lineLength * n := Nat.le_mul_of_pos_left _ hl
  have hline : lineLength ≤ lineLength * n := Nat.le_mul_of_pos_right _ (by omega)
  have hsize : (BitVec.ofNat w s.yresVirtual).toNat = s.yresVirtual := Nat.mod_eq_of_lt (by omega)
  have htwice : ((BitVec.ofNat 32 s.yres * 2).setWidth w).toNat = 2 * s.yres := by
    have hdouble : (BitVec.ofNat 32 s.yres * 2).toNat = 2 * s.yres := by
      have htwo : (2 : BitVec 32).toNat = 2 := rfl
      rw [BitVec.toNat_mul, BitVec.toNat_ofNat, htwo]
      omega
    rw [BitVec.toNat_setWidth, hdouble, Nat.mod_eq_of_lt (by omega)]
  have hmax : (if BitVec.ofNat w s.yresVirtual < (BitVec.ofNat 32 s.yres * 2).setWidth w then
      (BitVec.ofNat 32 s.yres * 2).setWidth w else BitVec.ofNat w s.yresVirtual).toNat = n := by
    split_ifs with hlt
    · rw [BitVec.lt_def, hsize, htwice] at hlt
      rw [htwice, ← hn, max_eq_right hlt.le]
    · rw [BitVec.lt_def, hsize, htwice] at hlt
      rw [hsize, ← hn, max_eq_left (not_lt.mp hlt)]
  rw [fbSize]
  generalize (if BitVec.ofNat w s.yresVirtual < (BitVec.ofNat 32 s.yres * 2).setWidth w then
    (BitVec.ofNat 32 s.yres * 2).setWidth w else BitVec.ofNat w s.yresVirtual) = size at hmax
  have hproduct : (BitVec.ofNat w lineLength * size).toNat = lineLength * n := by
    rw [BitVec.toNat_mul, BitVec.toNat_ofNat, hmax, Nat.mod_eq_of_lt (a := lineLength) (by omega),
      Nat.mod_eq_of_lt (by omega)]
  rw [← hproduct]
  exact roundUpToPageSize_ge _ (by omega) (by omega)

lemma FbVncServer.fbIndices_lt (g : FbVncServer out) (hr : g.rotation = 0) (ht : g.testMode = 0)
    (hf : g.Fitted) {n : ℕ} (hc : g.scrinfo.xoffset + g.scrinfo.xres ≤ g.scrinfo.xresVirtual)
    (hn : g.scrinfo.yoffset + g.scrinfo.yres ≤ n) {p : ℤ} (hp : p ∈ g.fbIndices) :
    0 ≤ p ∧ p < g.scrinfo.xresVirtual * n := by
  rcases (g.mem_fbIndices_unrotated hr ht).mp hp with ⟨hlo, hhi⟩ | ⟨j, hj, i, hi, rfl⟩
  · have harea : g.scrinfo.xres * g.scrinfo.yres ≤ g.scrinfo.xresVirtual * n :=
      Nat.mul_le_mul (by omega) (by omega)
    rw [copiedPixels_eq hf] at hhi
    exact ⟨hlo, hhi.trans_le (by exact_mod_cast g.reached_le.trans harea)⟩
  · have hcell : pixelToVirtualPixel g.scrinfo i j =
        rowMajor g.scrinfo.xresVirtual (i + g.scrinfo.xoffset) (j + g.scrinfo.yoffset) := by
      simp only [pixelToVirtualPixel, rowMajor]
      ring
    rw [hcell]
    exact (rowMajor_range_iff (by omega) (by omega)).mpr ⟨by omega, by omega⟩

lemma FbVncServer.fbIndices_mapped (hw : 32 ≤ w) (g : FbVncServer out) (hr : g.rotation = 0) (ht : g.testMode = 0)
    {s : FbVarScreeninfo} (hf : Fitted { g with scrinfo := s }) (hx : 1 ≤ s.xres) (hy : 1 ≤ s.yres)
    {lineLength k : ℕ} (hl : s.xresVirtual * s.bitsPerPixel / 8 ≤ lineLength)
    (hb : lineLength * max s.yresVirtual (2 * s.yres) + 2 ^ k < 2 ^ 31) {xoffset yoffset : ℕ}
    (hc : xoffset + s.xres ≤ s.xresVirtual) (hv : yoffset + s.yres ≤ max s.yresVirtual (2 * s.yres)) {p : ℤ}
    (hp : p ∈ fbIndices { g with scrinfo := { s with xoffset := xoffset, yoffset := yoffset } }) :
    0 ≤ p ∧ (p + 1) * (out.bits / 8 : ℕ) ≤ (fbSize w lineLength (2 ^ k) s).toNat := by
  obtain ⟨hlo, hhi⟩ := fbIndices_lt
    { g with scrinfo := { s with xoffset := xoffset, yoffset := yoffset } } hr ht ⟨hf.bpp, hf.area⟩ hc hv hp
  have hrow : s.xresVirtual * (out.bits / 8) ≤ lineLength := by
    have hbits : s.bitsPerPixel = out.bits / 8 * 8 := hf.bpp.trans (by cases out <;> rfl)
    rwa [hbits, ← Nat.mul_assoc, Nat.mul_div_cancel _ (by decide)] at hl
  have hbytes : 1 ≤ out.bits / 8 := by cases out <;> decide
  have hmapped := fbSize_ge hw (by nlinarith) hy hb
  refine ⟨hlo, ?_⟩
  lift p to ℕ using hlo
  norm_cast at hhi ⊢
  calc (p + 1) * (out.bits / 8)
      ≤ s.xresVirtual * max s.yresVirtual (2 * s.yres) * (out.bits / 8) := Nat.mul_le_mul_right _ hhi
    _ = s.xresVirtual * (out.bits / 8) * max s.yresVirtual (2 * s.yres) := by ring
    _ ≤ lineLength * max s.yresVirtual (2 * s.yres) := Nat.mul_le_mul_right _ hrow
    _ ≤ (fbSize w lineLength (2 ^ k) s).toNat := hmapped

end AndroidRemote.Display
