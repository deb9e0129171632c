import AndroidRemote.Display.UpdateScreen

/-! What one call of `update_screen` shows when the picture is rotated. -/

namespace AndroidRemote.Display

open AndroidRemote.Library AndroidRemote.Rfb

variable {out : Out}

def FbVncServer.PictureShown (g : FbVncServer out) : Prop :=
  ∀ i < g.scrinfo.xres, ∀ j < g.scrinfo.yres,
    g.vncbuf (destination g.rotation g.scrinfo i j) = g.window i j

lemma destination_eq_rowMajor {s : FbVarScreeninfo} {r : ℕ} (hr : r = 90 ∨ r = 180 ∨ r = 270) (i j : ℤ) :
    destination r s i j =
      if r = 90 then rowMajor s.yres (s.yres - 1 - j) i
      else if r = 180 then rowMajor s.xres (s.xres - 1 - i) (s.yres - 1 - j)
      else rowMajor s.yres j (s.xres - 1 - i) := by
  rcases hr with rfl | rfl | rfl <;> simp [destination, rowMajor]

lemma destination_range {s : FbVarScreeninfo} {r : ℕ} (hr : r = 90 ∨ r = 180 ∨ r = 270) {i j : ℕ}
    (hi : i < s.xres) (hj : j < s.yres) :
    0 ≤ destination r s i j ∧ destination r s i j < s.xres * s.yres := by
  rw [destination_eq_rowMajor hr]
  split_ifs
  · refine ⟨rowMajor_nonneg (by omega) (by omega) (by omega), ?_⟩
    rw [mul_comm]
    exact rowMajor_lt (by omega) (by omega) (by omega)
  · exact ⟨rowMajor_nonneg (by omega) (by omega) (by omega),
      rowMajor_lt (by omega) (by omega) (by omega)⟩
  · refine ⟨rowMajor_nonneg (by omega) (by omega) (by omega), ?_⟩
    rw [mul_comm]
    exact rowMajor_lt (by omega) (by omega) (by omega)

lemma destination_injective {s : FbVarScreeninfo} {r : ℕ} (hr : r = 90 ∨ r = 180 ∨ r = 270)
    {i j : ℕ} {i' j' : ℤ} (hi : i < s.xres) (hj : j < s.yres) (hj' : 0 ≤ j' ∧ j' < s.yres)
    (hi' : r = 180 → 0 ≤ i' ∧ i' < s.xres)
    (h : destination r s i j = destination r s i' j') : (i : ℤ) = i' ∧ (j : ℤ) = j' := by
  rw [destination_eq_rowMajor hr, destination_eq_rowMajor hr] at h
  split_ifs at h with h90 h180
  · obtain ⟨hx, hy⟩ := rowMajor_injective (by omega) (by omega) (by omega) (by omega) h
    omega
  · have := hi' h180
    obtain ⟨hx, hy⟩ := rowMajor_injective (by omega) (by omega) (by omega) (by omega) h
    omega
  · obtain ⟨hx, hy⟩ := rowMajor_injective (by omega) (by omega) (by omega) (by omega) h
    omega

lemma Scan.forI_compare_fixed (fb : Memory (OutT out)) (base k p : ℤ) (note : ℕ → Box → Box) (n : ℕ)
    (t : Scan out) :
    (t.forI n (fun i t => t.compare fb base k p true (note i))).a =
      if n = 0 then t.a else Function.update t.a k (fb (base + p)) := by
  refine Scan.forI_invariant
    (fun m a => a = if m = 0 then t.a else Function.update t.a k (fb (base + p))) rfl ?_
  intro m _ u hu
  rw [Scan.compare_a, hu, if_neg (Nat.succ_ne_zero m)]
  split_ifs <;> simp

namespace FbVncServer

variable (g : FbVncServer out)

def read (i j : ℤ) : OutT out := g.fbmmap (g.base + pixelToVirtualPixel g.scrinfo i j)

/-- A row of the loops of 90 and 270 degrees: both indices are computed before the inner loop,
from the `i` that the row before has left. -/
def staleRow (r : ℕ) (note : ℕ → ℕ → Box → Box) (j : ℕ) (t : Scan out) : Scan out :=
  t.forI g.scrinfo.xres (fun i u => u.compare g.fbmmap g.base (destination r g.scrinfo t.i j)
    (pixelToVirtualPixel g.scrinfo t.i j) true (note j i))

lemma staleRows_a {r : ℕ} (hr : r = 90 ∨ r = 270) (note : ℕ → ℕ → Box → Box) (t : Scan out)
    {i j : ℕ} (hi : i < g.scrinfo.xres) (hj : j < g.scrinfo.yres) :
    (t.forJ g.scrinfo.yres (g.staleRow r note)).a (destination r g.scrinfo i j) =
      if (i : ℤ) = t.i ∧ j = 0 then g.read i j else t.a (destination r g.scrinfo i j) := by
  let I (m : ℕ) (c : ℤ) (a : Memory (OutT out)) : Prop :=
    c = (if m = 0 then t.i else (g.scrinfo.xres : ℤ)) ∧
      a (destination r g.scrinfo i j) =
        if 0 < m ∧ (i : ℤ) = t.i ∧ j = 0 then g.read i j else t.a (destination r g.scrinfo i j)
  have hstep : ∀ m < g.scrinfo.yres, ∀ u : Scan out, I m u.i u.a →
      I (m + 1) (g.staleRow r note m u).i (g.staleRow r note m u).a := by
    rintro m hm u ⟨hc, ha⟩
    refine ⟨by simp [staleRow], ?_⟩
    have hr' : r = 90 ∨ r = 180 ∨ r = 270 := by omega
    rw [staleRow, Scan.forI_compare_fixed, if_neg (by omega)]
    by_cases hk : destination r g.scrinfo i j = destination r g.scrinfo u.i m
    · -- a cell of the picture is only met in row 0, at the column left over from before the call
      obtain ⟨hx, hy⟩ := destination_injective hr' hi hj (by omega) (by omega) hk
      have hm0 : m = 0 := by
        by_contra hne
        rw [if_neg hne] at hc
        omega
      subst hm0
      have hj0 : j = 0 := by omega
      subst hj0
      rw [if_pos rfl] at hc
      rw [hk, Function.update_self, ← hx, if_pos (by omega)]
      rfl
    · have hne : ¬ (m = 0 ∧ (i : ℤ) = t.i ∧ j = 0) := by
        rintro ⟨rfl, hx, rfl⟩
        rw [if_pos rfl] at hc
        exact hk (by rw [hx, hc])
      rw [Function.update_of_ne hk, ha]
      congr 1
      apply propext
      omega
  have hzero : I 0 t.i t.a := by simp [I]
  have hinv := (Scan.forJ_invariant I hzero hstep).2
  simpa [show 0 < g.scrinfo.yres by omega] using hinv

lemma scan90_eq (t : Scan out) : g.scan90 t =
    t.forJ g.scrinfo.yres (g.staleRow 90 (fun j i b => (b.noteY i).noteX (g.scrinfo.yres - j))) := rfl

lemma scan270_eq (t : Scan out) : g.scan270 t =
    t.forJ g.scrinfo.yres (g.staleRow 270 (fun j i b => (b.noteY i).noteX j)) := rfl

def shownColumn (i₀ : ℤ) (j : ℕ) : ℤ := if j = 0 then i₀ else g.scrinfo.xres

lemma fill_row (p : ℤ) (m : ℕ) (hm : m < g.scrinfo.yres) (note : ℕ → Box → Box) (t : Scan out)
    {i j : ℕ} (hi : i < g.scrinfo.xres) (hj : j < g.scrinfo.yres) :
    (t.forI g.scrinfo.xres (fun x u => u.compare g.fbmmap g.base
      (destination 180 g.scrinfo x m) p true (note x))).a (destination 180 g.scrinfo i j) =
      if j = m then g.fbmmap (g.base + p) else t.a (destination 180 g.scrinfo i j) := by
  let I (n : ℕ) (a : Memory (OutT out)) : Prop :=
    a (destination 180 g.scrinfo i j) =
      if j = m ∧ i < n then g.fbmmap (g.base + p) else t.a (destination 180 g.scrinfo i j)
  have hzero : I 0 t.a := by simp [I]
  have hstep : ∀ n < g.scrinfo.xres, ∀ u : Scan out, I n u.a → I (n + 1) (u.compare g.fbmmap g.base
      (destination 180 g.scrinfo n m) p true (note n)).a := by
    intro n hn u hu
    simp only [I] at hu ⊢
    rw [Scan.compare_a]
    by_cases hk : destination 180 g.scrinfo i j = destination 180 g.scrinfo n m
    · obtain ⟨hx, hy⟩ := destination_injective (by omega) hi hj (by omega) (by omega) hk
      rw [hk, Function.update_self, if_pos (by omega)]
    · have hne : ¬ (j = m ∧ i = n) := by
        rintro ⟨rfl, rfl⟩
        exact hk rfl
      rw [Function.update_of_ne hk, hu]
      congr 1
      apply propext
      omega
  have hinv := Scan.forI_invariant I hzero hstep
  simpa [I, hi] using hinv

lemma scan180_a (t : Scan out) {i j : ℕ} (hi : i < g.scrinfo.xres) (hj : j < g.scrinfo.yres) :
    (g.scan180 t).a (destination 180 g.scrinfo i j) = g.read (g.shownColumn t.i j) j := by
  let I (m : ℕ) (c : ℤ) (a : Memory (OutT out)) : Prop :=
    c = g.shownColumn t.i m ∧ a (destination 180 g.scrinfo i j) =
      if j < m then g.read (g.shownColumn t.i j) j else t.a (destination 180 g.scrinfo i j)
  have hzero : I 0 t.i t.a := by simp [I, shownColumn]
  have hstep : ∀ m < g.scrinfo.yres, ∀ u : Scan out, I m u.i u.a → I (m + 1)
      (u.forI g.scrinfo.xres (fun x v => v.compare g.fbmmap g.base (destination 180 g.scrinfo x m)
        (pixelToVirtualPixel g.scrinfo u.i m) true
        (fun b => (b.noteX x).noteY (g.scrinfo.yres - m)))).i
      (u.forI g.scrinfo.xres (fun x v => v.compare g.fbmmap g.base (destination 180 g.scrinfo x m)
        (pixelToVirtualPixel g.scrinfo u.i m) true
        (fun b => (b.noteX x).noteY (g.scrinfo.yres - m)))).a := by
    rintro m hm u ⟨hc, ha⟩
    refine ⟨by simp [shownColumn], ?_⟩
    rw [fill_row g _ m hm (fun x b => (b.noteX x).noteY (g.scrinfo.yres - m)) u hi hj]
    by_cases hjm : j = m
    · subst hjm
      rw [if_pos rfl, if_pos (by omega), hc]
      rfl
    · rw [if_neg hjm, ha]
      congr 1
      apply propext
      omega
  have hinv := (Scan.forJ_invariant I hzero hstep).2
  rw [if_pos hj] at hinv
  exact hinv

/-- What `(i, j)` shows after the call, before any of it runs. A cell that the closing copy does not
reach keeps what it has. With 90 and 270 degrees the loops write one pixel of the picture, that of
row 0 in the column left over from the call before; with 180 degrees every row shows one single
pixel. -/
def leftover (i j : ℕ) : OutT out :=
  let k := destination g.rotation g.scrinfo i j
  if g.reached ≤ k then g.vncbuf k
  else if g.rotation = 180 then g.read (g.shownColumn g.i j) j
  else if (i : ℤ) = g.i ∧ j = 0 then g.read i j
  else g.cmpbuf k

/-- The pixels that the call does not take from their own place are right already. -/
def LeftoverHarmless : Prop :=
  ∀ i < g.scrinfo.xres, ∀ j < g.scrinfo.yres, g.leftover i j = g.window i j

lemma scan_turned_a (hr : g.rotation = 90 ∨ g.rotation = 270) {i j : ℕ} (hi : i < g.scrinfo.xres)
    (hj : j < g.scrinfo.yres) : g.scan.a (destination g.rotation g.scrinfo i j) =
      if (i : ℤ) = g.i ∧ j = 0 then g.read i j else g.cmpbuf (destination g.rotation g.scrinfo i j) := by
  rcases hr with hr | hr
  · have hs : g.scan = g.scan90 g.entry := by simp [scan, hr]
    rw [hs, hr, scan90_eq]
    exact staleRows_a g (.inl rfl) _ g.entry hi hj
  · have hs : g.scan = g.scan270 g.entry := by simp [scan, hr]
    rw [hs, hr, scan270_eq]
    exact staleRows_a g (.inr rfl) _ g.entry hi hj

lemma draw_vncbuf (hf : g.Fitted) {k : ℤ} (hk : 0 ≤ k) :
    g.draw.vncbuf k = if g.reached ≤ k then g.vncbuf k else g.scan.a k := by
  have hcopy : g.draw.vncbuf = memcpy g.vncbuf g.scan.a g.copiedPixels := rfl
  rw [hcopy, copiedPixels_eq hf]
  split_ifs with hbehind
  · exact memcpy_behind hbehind
  · exact memcpy_inside hk (not_le.mp hbehind)

lemma draw_leftover (hf : g.Fitted) (hr : g.rotation = 90 ∨ g.rotation = 180 ∨ g.rotation = 270)
    {i j : ℕ} (hi : i < g.scrinfo.xres) (hj : j < g.scrinfo.yres) :
    g.draw.vncbuf (destination g.rotation g.scrinfo i j) = g.leftover i j := by
  rw [draw_vncbuf g hf (destination_range hr hi hj).1]
  simp only [leftover]
  split_ifs with hbehind h180 hrow
  · rfl
  · have hs : g.scan = g.scan180 g.entry := by simp [scan, h180]
    rw [hs, h180, scan180_a g _ hi hj]
    rfl
  · rw [g.scan_turned_a (by omega) hi hj, if_pos hrow]
  · rw [g.scan_turned_a (by omega) hi hj, if_neg hrow]

lemma draw_shown_iff (hf : g.Fitted) (hr : g.rotation = 90 ∨ g.rotation = 180 ∨ g.rotation = 270) :
    g.draw.PictureShown ↔ g.LeftoverHarmless := by
  refine forall₂_congr fun i hi => forall₂_congr fun j hj => ?_
  exact Eq.congr_left (draw_leftover g hf hr hi hj)

end FbVncServer

theorem rotated_picture (g : FbVncServer out) (info : FbVarScreeninfo)
    (hf : FbVncServer.Fitted { g with scrinfo := info })
    (hr : g.rotation = 90 ∨ g.rotation = 180 ∨ g.rotation = 270) :
    ∃ g', g.updateScreen (some info) = some g' ∧
      (g'.PictureShown ↔ FbVncServer.LeftoverHarmless { g with scrinfo := info }) :=
  ⟨_, rfl, FbVncServer.draw_shown_iff _ hf hr⟩

def twoRows : FbVarScreeninfo := ⟨1, 2, 1, 2, 0, 0, 8, ⟨0, 3⟩, ⟨3, 3⟩, ⟨6, 2⟩⟩

def whiteTwoRows (rotation : ℕ) : FbVncServer .out8 where
  scrinfo := twoRows
  fbmmap := fun _ => 255
  vncbuf := fun _ => 0
  cmpbuf := fun _ => 0
  vncscr := { width := 2, height := 1, bitsPerPixel := 8, depth := 8, paddedWidthInBytes := 2,
              serverFormat := bgr233Format, colourMap := ⟨0, false, []⟩, cursorX := 0, cursorY := 0,
              clients := [] }
  idle := true
  testMode := 0
  rotation := rotation
  i := 0
  j := 0
  marked := none

lemma whiteTwoRows_fitted : (whiteTwoRows 90).Fitted := ⟨rfl, rfl⟩

theorem rotated_picture_white : ∃ g', (whiteTwoRows 90).updateScreen (some twoRows) = some g' ∧
    (g'.PictureShown ↔ FbVncServer.LeftoverHarmless { whiteTwoRows 90 with scrinfo := twoRows }) :=
  rotated_picture (whiteTwoRows 90) twoRows whiteTwoRows_fitted (.inl rfl)

theorem second_row_stays_black : ∃ g', (whiteTwoRows 90).updateScreen (some twoRows) = some g' ∧
    twoRows.Visible ∧ ¬ g'.PictureShown := by
  refine ⟨_, rfl, by constructor <;> decide, ?_⟩
  intro hshown
  have hcell := hshown 0 (by decide) 1 (by decide)
  revert hcell
  decide

end AndroidRemote.Display
