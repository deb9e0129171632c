import AndroidRemote.Display.RotatedPicture

/-! What one call of `update_screen` shows when the picture is not rotated. -/

namespace AndroidRemote.Display

open AndroidRemote.Library AndroidRemote.Rfb

variable {out : Out}

/-- The mapping begins like the window, as far as it is copied; what lies behind is shown already. -/
def FbVncServer.FlatWindow (g : FbVncServer out) : Prop :=
  ∀ i < g.scrinfo.xres, ∀ j < g.scrinfo.yres,
    let k := rowMajor g.scrinfo.xres (i : ℕ) (j : ℕ)
    (if g.reached ≤ k then g.vncbuf k else g.fbmmap k) = g.window i j

def FbVarScreeninfo.FirstPage (s : FbVarScreeninfo) : Prop :=
  s.xres = 0 ∨ s.yres = 0 ∨
    (s.xoffset = 0 ∧ s.yoffset = 0 ∧ (s.xresVirtual = s.xres ∨ s.yres = 1))

instance (s : FbVarScreeninfo) : Decidable s.FirstPage := inferInstanceAs (Decidable (_ ∨ _))

def FbVarScreeninfo.Countable (s : FbVarScreeninfo) (out : Out) : Prop := s.xres * s.yres * out.bits < 2 ^ 32

namespace FbVarScreeninfo

variable {s : FbVarScreeninfo}

lemma firstPage_flat (h : s.FirstPage) {i j : ℕ} (hi : i < s.xres) (hj : j < s.yres) :
    rowMajor s.xres i j = pixelToVirtualPixel s i j := by
  obtain hempty | hempty | ⟨hx, hy, hrows⟩ := h
  · omega
  · omega
  · simp only [rowMajor, pixelToVirtualPixel, hx, hy]
    cases hrows with
    | inl hw =>
      rw [hw]
      push_cast
      ring
    | inr hone =>
      have hzero : j = 0 := by omega
      subst hzero
      push_cast
      ring

lemma firstPage_of_flat (hc : s.xoffset + s.xres ≤ s.xresVirtual)
    (h : ∀ i < s.xres, ∀ j < s.yres, rowMajor s.xres (i : ℕ) (j : ℕ) = pixelToVirtualPixel s i j) :
    s.FirstPage := by
  by_cases hempty : s.xres = 0 ∨ s.yres = 0
  · exact hempty.elim .inl (fun h => .inr (.inl h))
  · have hcorner := h 0 (by omega) 0 (by omega)
    simp only [rowMajor, pixelToVirtualPixel] at hcorner
    have hsum : s.yoffset * s.xresVirtual + s.xoffset = 0 := by
      zify
      push_cast at hcorner
      linarith
    obtain ⟨hprod, hx⟩ := Nat.add_eq_zero_iff.mp hsum
    have hy : s.yoffset = 0 := by
      cases Nat.mul_eq_zero.mp hprod with
      | inl hy => exact hy
      | inr hz => omega
    refine .inr (.inr ⟨hx, hy, ?_⟩)
    by_cases hone : s.yres = 1
    · exact .inr hone
    · left
      have hrow := h 0 (by omega) 1 (by omega)
      simp only [rowMajor, pixelToVirtualPixel, hx, hy] at hrow
      push_cast at hrow
      omega

end FbVarScreeninfo

namespace FbVncServer

variable (g : FbVncServer out)

lemma reached_of_countable (hs : g.scrinfo.Countable out) : g.reached = g.scrinfo.xres * g.scrinfo.yres := by
  rw [FbVarScreeninfo.Countable] at hs
  rw [reached]
  cases out <;> simp only [Out.bits] at hs ⊢ <;> omega

lemma countable_of_reached (h : ∀ i < g.scrinfo.xres, ∀ j < g.scrinfo.yres,
    rowMajor g.scrinfo.xres (i : ℕ) (j : ℕ) < g.reached) : g.scrinfo.Countable out := by
  have harea : g.reached = g.scrinfo.xres * g.scrinfo.yres := by
    refine le_antisymm g.reached_le ?_
    by_cases hempty : g.scrinfo.xres = 0 ∨ g.scrinfo.yres = 0
    · rw [Nat.mul_eq_zero.mpr hempty]
      exact Nat.zero_le _
    · have hlast := h (g.scrinfo.xres - 1) (by omega) (g.scrinfo.yres - 1) (by omega)
      rw [rowMajor, Nat.cast_sub (by omega), Nat.cast_sub (by omega)] at hlast
      push_cast at hlast
      zify
      linarith
  rw [reached] at harea
  rw [FbVarScreeninfo.Countable]
  cases out <;> simp only [Out.bits] at harea ⊢ <;> omega

lemma flat_pixel (h : ∀ fb, FlatWindow { g with fbmmap := fb }) {i j : ℕ} (hi : i < g.scrinfo.xres)
    (hj : j < g.scrinfo.yres) : rowMajor g.scrinfo.xres (i : ℕ) (j : ℕ) < g.reached ∧
      rowMajor g.scrinfo.xres (i : ℕ) (j : ℕ) = pixelToVirtualPixel g.scrinfo i j := by
  have hone : (1 : OutT out) ≠ 0 := by cases out <;> decide
  have hreached : rowMajor g.scrinfo.xres (i : ℕ) (j : ℕ) < g.reached := by
    by_contra hbehind
    -- a framebuffer of a colour that `vncbuf` does not have in this place
    let v := g.vncbuf (rowMajor g.scrinfo.xres i j)
    have hkept : v = v + 1 := (if_pos (not_lt.mp hbehind)).symm.trans (h (fun _ => v + 1) i hi j hj)
    exact hone (BitVec.self_eq_add_right.mp hkept)
  refine ⟨hreached, ?_⟩
  by_contra hne
  -- a framebuffer that is lit in the window's cell alone
  have hlit := h (fun k => if k = pixelToVirtualPixel g.scrinfo i j then 1 else 0) i hi j hj
  have hcopied := (if_neg (not_le.mpr hreached)).symm.trans hlit
  simp only [window, if_neg hne, if_true] at hcopied
  exact hone hcopied.symm

lemma flatWindow_forall_iff (hc : g.scrinfo.xoffset + g.scrinfo.xres ≤ g.scrinfo.xresVirtual) :
    (∀ fb, FlatWindow { g with fbmmap := fb }) ↔ g.scrinfo.FirstPage ∧ g.scrinfo.Countable out := by
  constructor
  · intro h
    exact ⟨FbVarScreeninfo.firstPage_of_flat hc (fun i hi j hj => (g.flat_pixel h hi hj).2),
      g.countable_of_reached (fun i hi j hj => (g.flat_pixel h hi hj).1)⟩
  · rintro ⟨hfirst, hcount⟩ fb i hi j hj
    have hin : rowMajor g.scrinfo.xres (i : ℕ) (j : ℕ) < g.reached := by
      rw [g.reached_of_countable hcount]
      push_cast
      exact rowMajor_lt (Int.natCast_nonneg i) (Int.ofNat_lt.mpr hi) (Int.ofNat_lt.mpr hj)
    refine (if_neg (not_le.mpr hin)).trans ?_
    rw [window, FbVarScreeninfo.firstPage_flat hfirst hi hj]

lemma scan0_a (ht : g.testMode = 0) (t : Scan out) {k : ℤ} (hk : 0 ≤ k ∧ k < g.copiedPixels) :
    (g.scan0 t).a k = g.fbmmap k := by
  simp only [scan0, ht, if_true]
  exact memcpy_inside hk.1 hk.2

lemma draw_flat (hf : g.Fitted) (hr : g.rotation = 0) (ht : g.testMode = 0) {k : ℤ} (hk : 0 ≤ k) :
    g.draw.vncbuf k = if g.reached ≤ k then g.vncbuf k else g.fbmmap k := by
  have hscan : g.scan = g.scan0 g.entry := if_pos hr
  rw [draw_vncbuf g hf hk, hscan]
  split_ifs with hbehind
  · rfl
  · apply scan0_a g ht
    rw [copiedPixels_eq hf]
    exact ⟨hk, not_le.mp hbehind⟩

lemma draw_flatWindow_iff (hf : g.Fitted) (hr : g.rotation = 0) (ht : g.testMode = 0) :
    g.draw.PictureShown ↔ g.FlatWindow := by
  refine forall₂_congr fun i hi => forall₂_congr fun j hj => ?_
  have hd : destination g.draw.rotation g.draw.scrinfo i j = rowMajor g.scrinfo.xres i j := by
    have hr' : g.draw.rotation = 0 := hr
    rw [destination, if_pos hr']
    rfl
  rw [hd, draw_flat g hf hr ht (rowMajor_nonneg (by omega) (by omega) (by omega))]
  rfl

end FbVncServer

theorem unrotated_picture (g : FbVncServer out) (info : FbVarScreeninfo)
    (hf : FbVncServer.Fitted { g with scrinfo := info }) (hr : g.rotation = 0) (ht : g.testMode = 0)
    (hc : info.xoffset + info.xres ≤ info.xresVirtual) :
    (∃ g', g.updateScreen (some info) = some g' ∧
      (g'.PictureShown ↔ FbVncServer.FlatWindow { g with scrinfo := info })) ∧
    ((∀ fb, ∃ g', { g with fbmmap := fb }.updateScreen (some info) = some g' ∧ g'.PictureShown) ↔
      info.FirstPage ∧ info.Countable out) := by
  refine ⟨⟨_, rfl, FbVncServer.draw_flatWindow_iff _ hf hr ht⟩, ?_⟩
  rw [← FbVncServer.flatWindow_forall_iff { g with scrinfo := info } hc]
  refine forall_congr' fun fb => ?_
  have hfit : FbVncServer.Fitted { g with scrinfo := info, fbmmap := fb } := ⟨hf.bpp, hf.area⟩
  rw [← FbVncServer.draw_flatWindow_iff _ hfit hr ht]
  constructor
  · rintro ⟨g', hg, hs⟩
    cases hg
    exact hs
  · intro hs
    exact ⟨_, rfl, hs⟩

def secondPage : FbVarScreeninfo := { twoRows with yresVirtual := 4, yoffset := 2 }

def pannedServer : FbVncServer .out8 where
  __ := whiteTwoRows 0
  fbmmap := fun k => if k = 2 then 255 else 0
  vncscr := { (whiteTwoRows 0).vncscr with width := 1, height := 2 }

lemma pannedServer_fitted : FbVncServer.Fitted { pannedServer with scrinfo := secondPage } := ⟨rfl, rfl⟩

theorem unrotated_picture_panned :
    (∃ g', pannedServer.updateScreen (some secondPage) = some g' ∧
      (g'.PictureShown ↔ FbVncServer.FlatWindow { pannedServer with scrinfo := secondPage })) ∧
    ((∀ fb, ∃ g', { pannedServer with fbmmap := fb }.updateScreen (some secondPage) = some g' ∧
      g'.PictureShown) ↔ secondPage.FirstPage ∧ secondPage.Countable .out8) :=
  unrotated_picture pannedServer secondPage pannedServer_fitted rfl rfl (by decide)

theorem second_page_not_shown : ∃ g', pannedServer.updateScreen (some secondPage) = some g' ∧
    secondPage.Visible ∧ ¬ g'.PictureShown := by
  refine ⟨_, rfl, by constructor <;> decide, ?_⟩
  intro hshown
  have hcell := hshown 0 (by decide) 0 (by decide)
  revert hcell
  decide

end AndroidRemote.Display
