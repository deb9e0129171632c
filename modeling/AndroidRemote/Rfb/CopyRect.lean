import AndroidRemote.Library.InPlace
import AndroidRemote.Rfb.RectHextile
import AndroidRemote.Rfb.RegionRects
import Mathlib.Tactic

/-! Copies of rectangles inside the client's picture: the loops of one copy and the order of the
rectangles of a region, in which no cell is overwritten while a later one still needs it. -/

namespace AndroidRemote.Rfb

open Library

variable {α : Type}

def copyCells (srcX srcY w h destX destY : ℕ) : List (ℕ × ℕ) :=
  (directed (!decide (destY < srcY)) (List.range' destY h)).flatMap fun j =>
    (directed (!decide (destX < srcX)) (List.range' destX w)).map fun i => (i, j)

/-- The picture as the loops leave it, which read and write one frame buffer. -/
def copyRectangleFromRectangle (srcX srcY w h destX destY : ℕ) (pic : Picture α) : Picture α := fun i j =>
  moveAlong (fun c => (c.1 + srcX - destX, c.2 + srcY - destY)) (fun c => pic c.1 c.2)
    (copyCells srcX srcY w h destX destY) (i, j)

def source (dx dy : ℤ) (c : ℕ × ℕ) : ℕ × ℕ := ((c.1 - dx).toNat, (c.2 - dy).toNat)

section one

variable {srcX srcY w h destX destY : ℕ}

lemma mem_copyCells {c : ℕ × ℕ} :
    c ∈ copyCells srcX srcY w h destX destY ↔
      (destX ≤ c.1 ∧ c.1 < destX + w) ∧ destY ≤ c.2 ∧ c.2 < destY + h := by
  obtain ⟨i, j⟩ := c
  simp only [copyCells, List.mem_flatMap, List.mem_map, mem_directed, List.mem_range'_1, Prod.mk.injEq]
  constructor
  · rintro ⟨j', hj, i', hi, rfl, rfl⟩
    exact ⟨hi, hj⟩
  · rintro ⟨hi, hj⟩
    exact ⟨j, hj, i, hi, rfl, rfl⟩

lemma pairwise_directed_range (forward : Bool) (lo n : ℕ) :
    (directed (!forward) (List.range' lo n)).Pairwise fun a b => if forward then a < b else b < a := by
  cases forward with
  | true => simpa [directed] using List.pairwise_lt_range'
  | false => simpa [directed, List.pairwise_reverse] using List.pairwise_lt_range'

lemma inOrder_directed_range {f : ℕ → ℕ} {forward : Bool} {lo n : ℕ}
    (h : ∀ i, lo ≤ i → i < lo + n → if forward then i ≤ f i else f i ≤ i) :
    InOrder f (directed (!forward) (List.range' lo n)) := by
  refine (pairwise_directed_range forward lo n).imp_of_mem ?_
  intro a b _ hb hlt
  have hrange := List.mem_range'_1.mp (mem_directed.mp hb)
  have hf := h b hrange.1 hrange.2
  cases forward with
  | true =>
    simp only [if_true] at hlt hf
    omega
  | false =>
    simp only [Bool.false_eq_true, if_false] at hlt hf
    omega

lemma inOrder_shift {src dest n : ℕ} :
    InOrder (fun i => i + src - dest) (directed (!decide (dest < src)) (List.range' dest n)) := by
  refine inOrder_directed_range fun i hi _ => ?_
  by_cases hlt : dest < src
  · simp only [hlt, decide_true, if_true]
    omega
  · simp only [hlt, decide_false, Bool.false_eq_true, if_false]
    omega

lemma inOrder_copyCells :
    InOrder (fun c => (c.1 + srcX - destX, c.2 + srcY - destY)) (copyCells srcX srcY w h destX destY) := by
  have hx : InOrder (fun i => i + srcX - destX)
    (directed (!decide (destX < srcX)) (List.range' destX w)) := inOrder_shift
  have hy : InOrder (fun j => j + srcY - destY)
    (directed (!decide (destY < srcY)) (List.range' destY h)) := inOrder_shift
  refine inOrder_flatMap ?_ ?_
  · intro j _
    refine List.pairwise_map.mpr (hx.imp fun hne => ?_)
    exact ⟨fun h => hne.1 (congrArg Prod.fst h), fun h => hne.2 (congrArg Prod.fst h)⟩
  · refine hy.imp fun hne a ha b hb => ?_
    obtain ⟨i, -, rfl⟩ := List.mem_map.mp ha
    obtain ⟨i', -, rfl⟩ := List.mem_map.mp hb
    exact ⟨fun h => hne.1 (congrArg Prod.snd h), fun h => hne.2 (congrArg Prod.snd h)⟩

lemma copyRectangleFromRectangle_eq (pic : Picture α) (i j : ℕ) :
    copyRectangleFromRectangle srcX srcY w h destX destY pic i j =
      if (destX ≤ i ∧ i < destX + w) ∧ destY ≤ j ∧ j < destY + h then
        pic (i + srcX - destX) (j + srcY - destY)
      else pic i j := by
  simp only [copyRectangleFromRectangle, moveAlong_eq inOrder_copyCells, mem_copyCells]

end one

structure WireRect where
  x : ℕ
  y : ℕ
  w : ℕ
  h : ℕ
  deriving DecidableEq, Repr

def WireRect.of (r : Display.Rect) : WireRect := ⟨r.x1.toNat, r.y1.toNat, (r.x2 - r.x1).toNat, (r.y2 - r.y1).toNat⟩

def copyRect (dx dy : ℤ) (pic : Picture α) (r : WireRect) : Picture α :=
  copyRectangleFromRectangle (r.x - dx).toNat (r.y - dy).toNat r.w r.h r.x r.y pic

def OnScreen (dx dy : ℤ) (r : Display.Rect) : Prop :=
  ((0 ≤ r.x1 ∧ r.x1 ≤ r.x2) ∧ 0 ≤ r.y1 ∧ r.y1 ≤ r.y2) ∧ 0 ≤ r.x1 - dx ∧ 0 ≤ r.y1 - dy

section many

variable {dx dy : ℤ}

def wireCells (dx dy : ℤ) (r : WireRect) : List (ℕ × ℕ) :=
  copyCells (r.x - dx).toNat (r.y - dy).toNat r.w r.h r.x r.y

lemma source_eq {r : Display.Rect} (hr : OnScreen dx dy r) {c : ℕ × ℕ} (hc : c ∈ wireCells dx dy (.of r)) :
    (c.1 + ((WireRect.of r).x - dx).toNat - (WireRect.of r).x,
      c.2 + ((WireRect.of r).y - dy).toNat - (WireRect.of r).y) = source dx dy c := by
  have hin := mem_copyCells.mp hc
  obtain ⟨hpos, hsrc⟩ := hr
  simp only [WireRect.of] at hin ⊢
  simp only [source, Prod.mk.injEq]
  omega

lemma copyRect_eq {r : Display.Rect} (hr : OnScreen dx dy r) (m : ℕ × ℕ → α) :
    (fun c => copyRect dx dy (fun i j => m (i, j)) (.of r) c.1 c.2) =
      moveAlong (source dx dy) m (wireCells dx dy (.of r)) := by
  funext c
  exact congrFun (moveAlong_congr (fun c hc => source_eq hr hc) m) c

lemma copyRects_eq {rs : List Display.Rect} (hrs : ∀ r ∈ rs, OnScreen dx dy r) (pic : Picture α) (i j : ℕ) :
    (rs.map WireRect.of).foldl (copyRect dx dy) pic i j =
      moveAlong (source dx dy) (fun c => pic c.1 c.2) ((rs.map WireRect.of).flatMap (wireCells dx dy)) (i, j) := by
  induction rs generalizing pic with
  | nil => rfl
  | cons r rs ih =>
    obtain ⟨hr, hrest⟩ := List.forall_mem_cons.mp hrs
    rw [List.map_cons, List.foldl_cons, ih hrest, List.flatMap_cons, moveAlong_append,
      ← copyRect_eq hr fun c => pic c.1 c.2]

lemma mem_wireCells {r : Display.Rect} (hr : OnScreen dx dy r) {c : ℕ × ℕ} :
    c ∈ wireCells dx dy (.of r) ↔ ((c.1, c.2) : ℤ × ℤ) ∈ rectPixels r := by
  obtain ⟨hpos, -⟩ := hr
  simp only [wireCells, mem_copyCells, WireRect.of, mem_rectPixels]
  omega

lemma inOrder_wireRect {r : Display.Rect} (hr : OnScreen dx dy r) :
    InOrder (source dx dy) (wireCells dx dy (.of r)) := by
  refine inOrder_copyCells.imp_of_mem fun ha hb hab => ?_
  rwa [← source_eq hr hb]

lemma inOrder_wireCells {a : Region (· < ·)} (hrs : ∀ r ∈ regionRects a.val (0 < dx) (0 < dy), OnScreen dx dy r) :
    InOrder (source dx dy)
      (((regionRects a.val (0 < dx) (0 < dy)).map WireRect.of).flatMap (wireCells dx dy)) := by
  refine inOrder_flatMap ?_ ?_
  · intro w hw
    obtain ⟨r, hr, rfl⟩ := List.mem_map.mp hw
    exact inOrder_wireRect (hrs r hr)
  · refine List.pairwise_map.mpr ((regionRects_pairwise a _ _).imp_of_mem ?_)
    intro r s hr hs hprec p hp q hq
    have hpr := (mem_wireCells (hrs r hr)).mp hp
    have hqs := (mem_wireCells (hrs s hs)).mp hq
    obtain ⟨-, hsx, hsy⟩ := hrs s hs
    simp only [mem_rectPixels] at hpr hqs
    -- the cells of two rectangles, and of one and the other's source, differ in a coordinate
    have hne : ((p.1 : ℤ) ≠ q.1 - dx ∨ (p.2 : ℤ) ≠ q.2 - dy) ∧ (p.1 ≠ q.1 ∨ p.2 ≠ q.2) := by
      rcases hprec with hband | ⟨-, -, hrun⟩
      · simp only [decide_eq_true_eq] at hband
        split at hband <;> omega
      · simp only [decide_eq_true_eq] at hrun
        split at hrun <;> omega
    constructor
    · intro h
      have h₁ := congrArg Prod.fst h
      have h₂ := congrArg Prod.snd h
      simp only [source] at h₁ h₂
      omega
    · rintro rfl
      omega

lemma copyRegion_eq {a : Region (· < ·)} (hrs : ∀ r ∈ regionRects a.val (0 < dx) (0 < dy), OnScreen dx dy r)
    (pic : Picture α) (i j : ℕ) [Decidable (((i, j) : ℤ × ℤ) ∈ a.pixels)] :
    ((regionRects a.val (0 < dx) (0 < dy)).map WireRect.of).foldl (copyRect dx dy) pic i j =
      if ((i, j) : ℤ × ℤ) ∈ a.pixels then pic (i - dx).toNat (j - dy).toNat else pic i j := by
  have hmem : (i, j) ∈ ((regionRects a.val (0 < dx) (0 < dy)).map WireRect.of).flatMap (wireCells dx dy) ↔
      ((i, j) : ℤ × ℤ) ∈ a.pixels := by
    rw [← regionRects_pixels a (0 < dx) (0 < dy), mem_pieces]
    simp only [List.mem_flatMap, List.mem_map, exists_exists_and_eq_and]
    exact exists_congr fun r => and_congr_right fun hr => mem_wireCells (hrs r hr)
  rw [copyRects_eq hrs, moveAlong_eq (inOrder_wireCells hrs)]
  simp only [hmem]
  rfl

def Copyable (a : Region (fun a b : ℤ => a < b)) (dx dy : ℤ) : Prop :=
  ∀ p ∈ a.pixels, (0 ≤ p.1 ∧ 0 ≤ p.2) ∧ 0 ≤ p.1 - dx ∧ 0 ≤ p.2 - dy

lemma Copyable.onScreen {a : Region (fun a b : ℤ => a < b)} (h : Copyable a dx dy) (rx ry : Bool) :
    ∀ r ∈ regionRects a.val rx ry, OnScreen dx dy r := by
  intro r hr
  obtain ⟨hx, hy⟩ := regionRects_bounds a rx ry r hr
  have hcorner : (r.x1, r.y1) ∈ a.pixels := by
    rw [← regionRects_pixels a rx ry]
    exact ⟨r, hr, ⟨le_rfl, hx⟩, le_rfl, hy⟩
  obtain ⟨hpos, hsrc⟩ := h _ hcorner
  exact ⟨⟨⟨hpos.1, hx.le⟩, hpos.2, hy.le⟩, hsrc⟩

open scoped Classical in
/-- The order in which an update message names the rectangles of a region loses nothing, whatever
the region and however it overlaps the one it is copied from. -/
theorem copyRegion_at_once {a : Region (fun a b : ℤ => a < b)} (h : Copyable a dx dy) (pic : Picture α) (i j : ℕ) :
    ((regionRects a.val (0 < dx) (0 < dy)).map WireRect.of).foldl (copyRect dx dy) pic i j =
      if ((i, j) : ℤ × ℤ) ∈ a.pixels then pic (i - dx).toNat (j - dy).toNat else pic i j :=
  copyRegion_eq (h.onScreen _ _) pic i j

lemma stairs_copyable : Copyable stairs 1 1 := by
  intro p hp
  have hp := mem_stairs.mp hp
  simp only [mem_rectPixels] at hp
  omega

-- the cell at (2, 2) is copied from one that the region covers too
theorem copyRegion_at_once_stairs :
    ((regionRects stairs.val true true).map WireRect.of).foldl (copyRect 1 1) (fun i j => i + 10 * j) 2 2 = 11 := by
  refine (copyRegion_at_once stairs_copyable _ 2 2).trans (if_pos ?_)
  rw [mem_stairs]
  simp

end many

section server

/-- `memmove` of one row of the server's framebuffer. -/
def moveRow (dx dy : ℤ) (r : Display.Rect) (pic : Picture α) (y : ℕ) : Picture α := fun i j =>
  if j = y ∧ r.x1 ≤ i ∧ i < r.x2 then pic (i - dx).toNat (j - dy).toNat else pic i j

def copyRows (dx dy : ℤ) (pic : Picture α) (r : Display.Rect) : Picture α :=
  (directed (!decide (dy < 0)) (List.range' r.y1.toNat (r.y2 - r.y1).toNat)).foldl (moveRow dx dy r) pic

/-- `rfbDoCopyRegion` up to the scheduling. It takes the rectangles the other way round than the
update message does. -/
def rfbDoCopyRegion (copyRegion : Region (fun a b : ℤ => a < b)) (dx dy : ℤ) (pic : Picture α) : Picture α :=
  (regionRects copyRegion.val (dx < 0) (dy < 0)).foldl (copyRows dx dy) pic

variable {dx dy : ℤ} {r : Display.Rect}

lemma foldl_moveRow {ys : List ℕ} (h : InOrder (fun j : ℕ => (j - dy).toNat) ys) (pic : Picture α) (i j : ℕ) :
    ys.foldl (moveRow dx dy r) pic i j =
      if j ∈ ys ∧ r.x1 ≤ i ∧ i < r.x2 then pic (i - dx).toNat (j - dy).toNat else pic i j := by
  set merge : (ℕ → α) → (ℕ → α) → ℕ → α :=
    fun new old i => if r.x1 ≤ i ∧ i < r.x2 then new (i - dx).toNat else old i with hmerge
  have hrow (pic : Picture α) (y : ℕ) : (fun j i => moveRow dx dy r pic y i j) =
      Function.update (fun j i => pic i j) y (merge (fun i => pic i (y - dy).toNat) fun i => pic i y) := by
    funext j i
    by_cases hj : j = y
    · subst hj
      simp only [moveRow, true_and, Function.update_self, hmerge]
    · simp only [moveRow, hj, false_and, if_false, Function.update_of_ne hj]
  have hfold (pic : Picture α) : (fun j i => ys.foldl (moveRow dx dy r) pic i j) =
      mergeAlong merge (fun j : ℕ => (j - dy).toNat) (fun j i => pic i j) ys := by
    clear h
    induction ys generalizing pic with
    | nil => rfl
    | cons y ys ih =>
      rw [List.foldl_cons, ih, hrow]
      rfl
  have hcell := congrFun (congrFun (hfold pic) j) i
  simp only [mergeAlong_eq h, hmerge] at hcell
  rw [hcell]
  by_cases hj : j ∈ ys
  · simp only [hj, if_true, true_and]
  · simp only [hj, if_false, false_and]

lemma copyRows_eq (hr : OnScreen dx dy r) (pic : Picture α) (i j : ℕ)
    [Decidable (((i, j) : ℤ × ℤ) ∈ rectPixels r)] :
    copyRows dx dy pic r i j =
      if ((i, j) : ℤ × ℤ) ∈ rectPixels r then pic (i - dx).toNat (j - dy).toNat else pic i j := by
  obtain ⟨hpos, hsrc⟩ := hr
  have horder : InOrder (fun j : ℕ => (j - dy).toNat)
      (directed (!decide (dy < 0)) (List.range' r.y1.toNat (r.y2 - r.y1).toNat)) := by
    refine inOrder_directed_range fun i hi _ => ?_
    by_cases hdy : dy < 0
    · simp only [hdy, decide_true, if_true]
      omega
    · simp only [hdy, decide_false, Bool.false_eq_true, if_false]
      omega
  have hmem : (j ∈ directed (!decide (dy < 0)) (List.range' r.y1.toNat (r.y2 - r.y1).toNat) ∧
    r.x1 ≤ i ∧ i < r.x2) ↔
      ((i, j) : ℤ × ℤ) ∈ rectPixels r := by
    rw [mem_directed, List.mem_range'_1]
    simp only [mem_rectPixels]
    omega
  rw [copyRows, foldl_moveRow horder]
  simp only [hmem]

def ReadsFirst (dx dy : ℤ) (rs : List Display.Rect) : Prop :=
  rs.Pairwise fun r s => ∀ p ∈ rectPixels s, p - (dx, dy) ∉ rectPixels r

open scoped Classical in
lemma foldl_copyRows {rs : List Display.Rect} (hrs : ∀ r ∈ rs, OnScreen dx dy r) (hread : ReadsFirst dx dy rs)
    (hapart : rs.Pairwise fun r s => ∀ p ∈ rectPixels s, p ∉ rectPixels r) (pic : Picture α) (i j : ℕ) :
    rs.foldl (copyRows dx dy) pic i j =
      if ((i, j) : ℤ × ℤ) ∈ pieces rectPixels rs then pic (i - dx).toNat (j - dy).toNat else pic i j := by
  induction rs generalizing pic with
  | nil => simp
  | cons r rs ih =>
    obtain ⟨hr, hrest⟩ := List.forall_mem_cons.mp hrs
    obtain ⟨hsrc, hread⟩ := List.pairwise_cons.mp hread
    obtain ⟨hdisj, hapart⟩ := List.pairwise_cons.mp hapart
    rw [List.foldl_cons, ih hrest hread hapart]
    simp only [pieces_cons, Set.mem_union]
    by_cases hlater : ((i, j) : ℤ × ℤ) ∈ pieces rectPixels rs
    · obtain ⟨s, hs, hin⟩ := hlater
      have hnot := hsrc s hs _ hin
      have hpos : 0 ≤ (i : ℤ) - dx ∧ 0 ≤ (j : ℤ) - dy := by
        obtain ⟨hbounds, hpos⟩ := hrest s hs
        simp only [mem_rectPixels] at hin
        omega
      have hcell : (((i - dx).toNat, (j - dy).toNat) : ℤ × ℤ) = ((i, j) : ℤ × ℤ) - (dx, dy) :=
        Prod.ext (Int.toNat_of_nonneg hpos.1) (Int.toNat_of_nonneg hpos.2)
      rw [if_pos ⟨s, hs, hin⟩, if_pos (.inr ⟨s, hs, hin⟩), copyRows_eq hr, hcell, if_neg hnot]
    · rw [if_neg hlater, copyRows_eq hr]
      simp only [hlater, or_false]

lemma regionRects_apart (a : Region (fun a b : ℤ => a < b)) (reverseX reverseY : Bool) :
    (regionRects a.val reverseX reverseY).Pairwise fun r s => ∀ p ∈ rectPixels s, p ∉ rectPixels r := by
  refine (regionRects_pairwise a reverseX reverseY).imp ?_
  intro r s hprec p hs hr
  simp only [mem_rectPixels] at hs hr
  rcases hprec with hband | ⟨-, -, hrun⟩
  · split at hband <;> omega
  · split at hrun <;> omega

open scoped Classical in
lemma doCopyRegion_eq {a : Region (fun a b : ℤ => a < b)}
    (hrs : ∀ r ∈ regionRects a.val (dx < 0) (dy < 0), OnScreen dx dy r)
    (hread : ReadsFirst dx dy (regionRects a.val (dx < 0) (dy < 0))) (pic : Picture α) (i j : ℕ) :
    rfbDoCopyRegion a dx dy pic i j =
      if ((i, j) : ℤ × ℤ) ∈ a.pixels then pic (i - dx).toNat (j - dy).toNat else pic i j := by
  rw [rfbDoCopyRegion, foldl_copyRows hrs hread (regionRects_apart a _ _), regionRects_pixels]

lemma rects_single (hx : r.x1 < r.x2) (hy : r.y1 < r.y2) (reverseX reverseY : Bool) :
    regionRects (Region.rect r hx hy : Region (fun a b : ℤ => a < b)).val reverseX reverseY = [r] := by
  rw [regionRects_eq]
  simp [Region.rect, sraRgnCreateRect, directed, bandRects]

open scoped Classical in
/-- The server's own copy takes the rectangles in the other order, and is right where that does no
harm: among others, for a single rectangle. -/
theorem rfbDoCopyRegion_at_once {a : Region (fun a b : ℤ => a < b)} (h : Copyable a dx dy)
    (hread : ReadsFirst dx dy (regionRects a.val (dx < 0) (dy < 0))) (pic : Picture α) (i j : ℕ) :
    rfbDoCopyRegion a dx dy pic i j =
      if ((i, j) : ℤ × ℤ) ∈ a.pixels then pic (i - dx).toNat (j - dy).toNat else pic i j :=
  doCopyRegion_eq (h.onScreen _ _) hread pic i j

theorem rfbDoCopyRegion_at_once_rect :
    rfbDoCopyRegion (Region.rect ⟨1, 1, 4, 4⟩ (by decide) (by decide)) 1 1 (fun i j => i + 10 * j) 3 3 = 22 := by
  have hpixels := Region.rect_pixels (R := fun a b : ℤ => a < b) ⟨1, 1, 4, 4⟩ (by decide) (by decide)
  refine (rfbDoCopyRegion_at_once ?_ ?_ _ 3 3).trans (if_pos ?_)
  · rw [Copyable, hpixels]
    intro p hp
    simp only [mem_rectPixels] at hp
    omega
  · rw [rects_single]
    exact List.pairwise_singleton _ _
  · rw [hpixels]
    simp

end server

end AndroidRemote.Rfb
