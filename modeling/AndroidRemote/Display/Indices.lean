import AndroidRemote.Display.Visits
import Mathlib.Data.BitVec

/-! The cells of `cmpbuf` and of the framebuffer that one call of `update_screen` uses, and the same
indices in the 32-bit words that the code has for them. -/

namespace AndroidRemote.Display

open AndroidRemote.Library

variable {out : Out}

lemma mem_range_cast {n : ℕ} {k : ℤ} : k ∈ (List.range n).map (fun m : ℕ => (m : ℤ)) ↔
    0 ≤ k ∧ k < n := by
  rw [List.mem_map]
  constructor
  · rintro ⟨m, hm, rfl⟩
    rw [List.mem_range] at hm
    omega
  · rintro ⟨hlo, hhi⟩
    exact ⟨k.toNat, by rw [List.mem_range]; omega, by omega⟩

/-- An `int` or an `unsigned int`; an expression that has both is `unsigned`. -/
def word : ℤ →+* BitVec 32 := Int.castRingHom (BitVec 32)

lemma word_toInt_eq (v : ℤ) : (word v).toInt = v.bmod (2 ^ 32) := by
  have hword : word v = BitVec.ofInt 32 v := rfl
  rw [hword, BitVec.toInt_ofInt]

lemma word_toNat_eq (v : ℤ) : ((word v).toNat : ℤ) = v % 2 ^ 32 := by
  have hword : word v = BitVec.ofInt 32 v := rfl
  rw [hword, BitVec.toNat_ofInt]
  omega

lemma word_toInt {v : ℤ} (hlo : -2 ^ 31 ≤ v) (hhi : v < 2 ^ 31) : (word v).toInt = v := by
  rw [word_toInt_eq]
  exact Int.bmod_eq_of_le (by omega) (by omega)

lemma word_toNat {v : ℤ} (hlo : 0 ≤ v) (hhi : v < 2 ^ 32) : ((word v).toNat : ℤ) = v := by
  rw [word_toNat_eq]
  exact Int.emod_eq_of_lt hlo hhi

structure FbVarScreeninfo.Addressable (s : FbVarScreeninfo) : Prop where
  columns : s.xoffset + s.xres ≤ s.xresVirtual
  rows : s.yoffset + s.yres ≤ s.yresVirtual
  pixels : s.xresVirtual * s.yresVirtual < 2 ^ 31

lemma FbVarScreeninfo.Addressable.window {s : FbVarScreeninfo} (h : s.Addressable) : s.xres * s.yres < 2 ^ 31 :=
  (Nat.mul_le_mul ((Nat.le_add_left _ _).trans h.columns) ((Nat.le_add_left _ _).trans h.rows)).trans_lt h.pixels

namespace FbVncServer

variable (g : FbVncServer out)

def fbIndices : List ℤ := g.scan.fbUsed

lemma mem_fbIndices_unrotated (hr : g.rotation = 0) (ht : g.testMode = 0) {p : ℤ} :
    p ∈ g.fbIndices ↔ (0 ≤ p ∧ p < g.copiedPixels) ∨ ∃ j < g.scrinfo.yres, ∃ i < g.scrinfo.xres,
      pixelToVirtualPixel g.scrinfo i j = p := by
  obtain ⟨i, j, hscan⟩ := g.scan0_visits g.entry
  rw [if_pos ht] at hscan
  have hused := (g.visits_used (g.testMode ≠ 0) g.entry (g.visitList 0 g.entry.i)).2
  have hfb : g.fbIndices = (List.range g.copiedPixels).map (↑) ++
      (((g.visitList 0 g.i).map (fun v => g.base + v.source)).reverse ++ []) := by
    rw [fbIndices, scan, if_pos hr, hscan]
    exact congrArg ((List.range g.copiedPixels).map (↑) ++ ·) hused
  have hbase : g.base = 0 := if_pos ht
  rw [hfb, List.append_nil, List.mem_append, List.mem_reverse, mem_range_cast, List.mem_map]
  simp only [mem_visitList, hbase, zero_add]
  refine or_congr_right ?_
  constructor
  · rintro ⟨v, ⟨j, hj, i, hi, rfl⟩, rfl⟩
    exact ⟨j, hj, i, hi, rfl⟩
  · rintro ⟨j, hj, i, hi, rfl⟩
    exact ⟨_, ⟨j, hj, i, hi, rfl⟩, rfl⟩

/-- `PIXEL_TO_VIRTUALPIXEL`, assigned to an `int`. -/
def machineSource (i j : ℤ) : ℤ :=
  let s := g.scrinfo
  ((word j + word s.yoffset) * word s.xresVirtual + word i + word s.xoffset).toInt

/-- The index into `cmpbuf`, behind the `int offset` that is computed before it. -/
def machineCell (r : ℕ) (c : ℤ) (i j : ℕ) : ℤ :=
  let xres := word g.scrinfo.xres
  let yres := word g.scrinfo.yres
  if r = 0 then (word i + word j * xres).toInt
  else if r = 90 then (yres - 1 - word j + word c * yres).toNat
  else if r = 180 then (xres - 1 - word i + (yres - 1 - word j) * xres).toNat
  else (word j + (xres - 1 - word c) * yres).toInt

def machineVisitAt (r : ℕ) (c : ℤ) (i j : ℕ) : Visit :=
  { g.visitAt r c i j with
    cell := g.machineCell r c i j
    source := g.machineSource (if r = 0 then i else c) j }

variable {g}

lemma machineSource_eq (hs : g.scrinfo.Addressable) {c : ℤ} (hc : 0 ≤ c ∧ c ≤ g.scrinfo.xres) {j : ℕ}
    (hj : j < g.scrinfo.yres) : g.machineSource c j = pixelToVirtualPixel g.scrinfo c j := by
  have hrow : (j + g.scrinfo.yoffset + 1) * g.scrinfo.xresVirtual ≤
      g.scrinfo.xresVirtual * g.scrinfo.yresVirtual := by
    rw [Nat.mul_comm]
    exact Nat.mul_le_mul_left _ (by have := hs.rows; omega)
  have hcolumns := hs.columns
  have hlo : 0 ≤ pixelToVirtualPixel g.scrinfo c j := by
    simp only [pixelToVirtualPixel]
    have hpos : (0 : ℤ) ≤ (j + g.scrinfo.yoffset) * g.scrinfo.xresVirtual := by positivity
    omega
  have hhi : pixelToVirtualPixel g.scrinfo c j < 2 ^ 31 := by
    have hcast : ((j : ℤ) + g.scrinfo.yoffset + 1) * g.scrinfo.xresVirtual < 2 ^ 31 := by
      exact_mod_cast hrow.trans_lt hs.pixels
    simp only [pixelToVirtualPixel]
    linarith
  rw [← word_toInt (by omega) hhi]
  simp [machineSource, pixelToVirtualPixel]

lemma machineCell_eq {r : ℕ} (hr : r = 0 ∨ r = 90 ∨ r = 180 ∨ r = 270)
    (hsize : g.scrinfo.xres * g.scrinfo.yres < 2 ^ 31) {c : ℤ} (hc : 0 ≤ c ∧ c ≤ g.scrinfo.xres) {i j : ℕ}
    (hi : i < g.scrinfo.xres) (hj : j < g.scrinfo.yres) :
    g.machineCell r c i j = (g.visitAt r c i j).cell := by
  have harea : (g.scrinfo.xres : ℤ) * g.scrinfo.yres < 2 ^ 31 := by exact_mod_cast hsize
  have hrow : (g.scrinfo.yres : ℤ) ≤ g.scrinfo.xres * g.scrinfo.yres := by
    exact_mod_cast Nat.le_mul_of_pos_left _ (by omega)
  have hcolumn : 0 ≤ c * g.scrinfo.yres ∧ c * g.scrinfo.yres ≤ g.scrinfo.xres * g.scrinfo.yres :=
    ⟨mul_nonneg hc.1 (by omega), mul_le_mul_of_nonneg_right hc.2 (by omega)⟩
  rcases hr with rfl | rfl | rfl | rfl
  · have hcell := (rowMajor_range_iff (w := g.scrinfo.xres) (h := g.scrinfo.yres) (x := i) (y := j)
      (by omega) (by omega)).mpr ⟨by omega, by omega⟩
    rw [rowMajor] at hcell
    have hword := word_toInt (v := i + j * g.scrinfo.xres) (by omega) (by linarith)
    simpa [machineCell, visitAt] using hword
  · have hword := word_toNat (v := g.scrinfo.yres - 1 - j + c * g.scrinfo.yres) (by omega) (by linarith)
    simpa [machineCell, visitAt, destination] using hword
  · have hcell := destination_range (s := g.scrinfo) (r := 180) (by omega) hi hj
    have hword := word_toNat hcell.1 (by linarith)
    simpa [machineCell, visitAt, destination] using hword
  · have hbefore : (g.scrinfo.xres - 1 - c) * g.scrinfo.yres =
        g.scrinfo.xres * g.scrinfo.yres - g.scrinfo.yres - c * g.scrinfo.yres := by ring
    have hword := word_toInt (v := j + (g.scrinfo.xres - 1 - c) * g.scrinfo.yres)
      (by rw [hbefore]; linarith) (by rw [hbefore]; linarith)
    simpa [machineCell, visitAt, destination] using hword

/-- Where the leftover column is at most the one beyond the window, no index of the scan wraps. -/
lemma machine_visitAt (hs : g.scrinfo.Addressable) {r : ℕ} (hr : r = 0 ∨ r = 90 ∨ r = 180 ∨ r = 270) {c : ℤ}
    (hc : 0 ≤ c ∧ c ≤ g.scrinfo.xres) {i j : ℕ} (hi : i < g.scrinfo.xres) (hj : j < g.scrinfo.yres) :
    g.machineVisitAt r c i j = g.visitAt r c i j := by
  have hsource : g.machineSource (if r = 0 then i else c) j = (g.visitAt r c i j).source := by
    rw [machineSource_eq hs _ hj]
    · rcases hr with rfl | rfl | rfl | rfl <;> rfl
    · split_ifs
      · exact ⟨by omega, by omega⟩
      · exact hc
  rw [machineVisitAt, machineCell_eq hr hs.window hc hi hj, hsource]

variable (g)

variable {g}

variable (g)

lemma scan_i : g.scan.i = g.i ∨ 0 < g.scrinfo.yres ∧ g.scan.i = g.scrinfo.xres := by
  rw [scan]
  split_ifs
  · rw [scan0]
    split_ifs <;> exact Scan.forJ_i (fun j u => Scan.forI_i _ _ u) g.entry
  · exact Scan.forJ_i (fun j u => Scan.forI_i _ _ u) g.entry
  · exact Scan.forJ_i (fun j u => Scan.forI_i _ _ u) g.entry
  · exact Scan.forJ_i (fun j u => Scan.forI_i _ _ u) g.entry
  · exact .inl rfl

end FbVncServer

end AndroidRemote.Display
