import AndroidRemote.Library.Painting
import AndroidRemote.Library.Wire
import Mathlib.Data.List.Basic
import Mathlib.Tactic

/-! Pixels in the client's format, and the primitives with which a client draws what it reads. -/

namespace AndroidRemote.Rfb

open Library

variable {α : Type} {n : ℕ}

/-- A pixel of `8 * n` bits as its bytes in memory, which are the bytes that travel. -/
abbrev Pixel (n : ℕ) := { bs : List UInt8 // bs.length = n }

def blackPixel : Pixel n := ⟨List.replicate n 0, List.length_replicate⟩

def readPixel : Reader (Pixel n) := fun input =>
  if h : n ≤ input.length then some (⟨input.take n, List.length_take_of_le h⟩, input.drop n) else none

def readPixels : ℕ → Reader (List (Pixel n))
  | 0 => pure []
  | k + 1 => do
    let p ← readPixel
    let ps ← readPixels k
    pure (p :: ps)

def pixelBytes (ps : List (Pixel n)) : List UInt8 := ps.flatMap Subtype.val

def rowPixels (data : Picture α) (w h : ℕ) : List α := (List.range (w * h)).map fun k => data (k % w) (k / w)

@[simp] lemma length_rowPixels (data : Picture α) (w h : ℕ) : (rowPixels data w h).length = w * h := by
  simp [rowPixels]

lemma length_pixelBytes (ps : List (Pixel n)) : (pixelBytes ps).length = ps.length * n := by
  induction ps with
  | nil => simp [pixelBytes]
  | cons p ps ih =>
    have hcons : pixelBytes (p :: ps) = p.1 ++ pixelBytes ps := rfl
    rw [hcons, List.length_append, p.2, ih, List.length_cons]
    ring

lemma pixelBytes_append (ps qs : List (Pixel n)) : pixelBytes (ps ++ qs) = pixelBytes ps ++ pixelBytes qs := by
  simp [pixelBytes]

lemma rowPixels_add (data : Picture α) {w : ℕ} (hw : 0 < w) (h k : ℕ) :
    rowPixels data w (k + h) = rowPixels data w k ++ rowPixels (fun i j => data i (j + k)) w h := by
  have hshift (q : ℕ) : data ((w * k + q) % w) ((w * k + q) / w) = data (q % w) (q / w + k) := by
    rw [Nat.mul_add_mod, Nat.mul_add_div hw, Nat.add_comm k]
  simp only [rowPixels, mul_add, List.range_add, List.map_append, List.map_map, Function.comp_def, hshift]

lemma getElem?_rowPixels {data : Picture α} {w h i j : ℕ} (hi : i < w) (hj : j < h) :
    (rowPixels data w h)[j * w + i]? = some (data i j) := by
  have hlt : j * w + i < w * h := by
    calc j * w + i < j * w + w := by omega
      _ = (j + 1) * w := by ring
      _ ≤ h * w := Nat.mul_le_mul_right w hj
      _ = w * h := Nat.mul_comm h w
  have hmod : (j * w + i) % w = i := by rw [Nat.mul_comm, Nat.mul_add_mod, Nat.mod_eq_of_lt hi]
  have hdiv : (j * w + i) / w = j := by
    rw [Nat.mul_comm, Nat.mul_add_div (by omega), Nat.div_eq_of_lt hi, Nat.add_zero]
  simp [rowPixels, List.getElem?_range hlt, hmod, hdiv]

lemma mem_rowPixels {data : Picture α} {w h : ℕ} {p : α} :
    p ∈ rowPixels data w h ↔ ∃ i < w, ∃ j < h, data i j = p := by
  constructor
  · intro hp
    obtain ⟨k, hk, rfl⟩ := List.mem_map.mp hp
    have hlt := List.mem_range.mp hk
    have hw : 0 < w := Nat.pos_of_mul_pos_right (Nat.zero_lt_of_lt hlt)
    exact ⟨k % w, Nat.mod_lt k hw, k / w, Nat.div_lt_of_lt_mul hlt, rfl⟩
  · rintro ⟨i, hi, j, hj, rfl⟩
    exact List.mem_of_getElem? (getElem?_rowPixels hi hj)

namespace Reads

lemma pixel (p : Pixel n) : Reads readPixel p.1 p := by
  intro rest
  obtain ⟨bs, rfl⟩ := p
  simp [readPixel]

lemma pixels (ps : List (Pixel n)) : Reads (readPixels ps.length) (pixelBytes ps) ps := by
  induction ps with
  | nil => exact Library.Reads.pure []
  | cons p ps ih => exact (pixel p).bind (ih.finish (p :: ·))

end Reads

def fillRectangle (x y w h : ℕ) (colour : α) (pic : Picture α) : Picture α := fill ⟨x, y, w, h, colour⟩ pic

def copyRectangle (buffer : List α) (x y w h : ℕ) (pic : Picture α) : Picture α := fun i j =>
  if (x ≤ i ∧ i < x + w) ∧ y ≤ j ∧ j < y + h then buffer[(j - y) * w + (i - x)]?.getD (pic i j) else pic i j

lemma copyRectangle_rowPixels (data : Picture α) (x y w h : ℕ) (pic : Picture α) :
    copyRectangle (rowPixels data w h) x y w h pic = place x y w h data pic := by
  funext i j
  simp only [copyRectangle, place]
  split
  · rw [getElem?_rowPixels (by omega) (by omega), Option.getD_some]
  · rfl

end AndroidRemote.Rfb
