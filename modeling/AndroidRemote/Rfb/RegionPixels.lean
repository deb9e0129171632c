import AndroidRemote.Rfb.RegionOps

/-! Regions as sets of pixels: the routines of `rfbregion.c` on bands of runs compute the union,
the intersection and the difference, and keep the bands in order. -/

namespace AndroidRemote.Rfb

open Library

section

variable {σ : Type} [Subspan σ]

lemma sraSpanListEqual_eq (hsub : ∀ {s t : σ}, Subspan.equal s t = true → s = t) {l m : SraSpanList σ}
    (h : sraSpanListEqual l m = true) : l = m := by
  fun_induction sraSpanListEqual l m with
  | case1 => rfl
  | case2 a as b bs hne => simp at h
  | case3 a as b bs he ih =>
    simp only [not_or, not_not, Bool.not_eq_false] at he
    obtain ⟨hstart, hstop, he⟩ := he
    have hab : a = b := SraSpan.ext hstart hstop (hsub he)
    rw [hab, ih h]
  | case4 l m h₁ h₂ => simp at h

lemma sraSpanListOrLoop_ne_nil (before rest src : SraSpanList σ) (h : before ≠ [] ∨ rest ≠ [] ∨ src ≠ []) :
    sraSpanListOrLoop before rest src ≠ [] := by
  fun_induction sraSpanListOrLoop before rest src with
  | case1 before rest => simpa [imp_iff_not_or] using h
  | case2 before s src ih => exact ih (by simp)
  | case3 before d ds s src hds c ih => exact ih (by simp)
  | case4 before d ds s src hds hov c hst _ ih => exact ih (by simp)
  | case5 before d ds s src hds hov c hst ih => exact ih (by simp)
  | case6 before d ds s src hds hov ih => exact ih (by simp)

lemma and_flag {dest src : SraSpanList σ} :
    (sraSpanListAnd dest src).2 = true ↔ (sraSpanListAnd dest src).1 ≠ [] := by
  simp [sraSpanListAnd, sraSpanListEmpty]

lemma subtract_flag {dest src : SraSpanList σ} :
    (sraSpanListSubtract dest src).2 = true ↔ (sraSpanListSubtract dest src).1 ≠ [] := by
  simp [sraSpanListSubtract, sraSpanListEmpty]

instance {β : Type} [HasPoints σ β] {R : ℤ → ℤ → Prop} [LawfulSubspan R σ] [SpanOrder R] :
    LawfulSubspan R (SraSpanList σ) where
  good l := SraSpanList.Sound R l ∧ l ≠ []
  equal_eq := sraSpanListEqual_eq (LawfulSubspan.equal_eq R)
  or_good hs ht := ⟨(sraSpanListOr_spec hs.1 ht.1).1, sraSpanListOrLoop_ne_nil _ _ _ (Or.inr (Or.inl hs.2))⟩
  or_points hs ht := (sraSpanListOr_spec hs.1 ht.1).2
  and_good hs ht h := ⟨(sraSpanListAnd_spec hs.1 ht.1).1, and_flag.mp h⟩
  and_points hs ht := (sraSpanListAnd_spec hs.1 ht.1).2
  and_empty {s t} hs ht h := by
    have hnil : (sraSpanListAnd s t).1 = [] := by
      by_contra hne
      exact Bool.false_ne_true (h.symm.trans (and_flag.mpr hne))
    rw [← (sraSpanListAnd_spec hs.1 ht.1).2, hnil, points_nil]
  subtract_good hs ht _ h := ⟨(sraSpanListSubtract_spec hs.1 ht.1).1, subtract_flag.mp h⟩
  subtract_points hs ht _ := (sraSpanListSubtract_spec hs.1 ht.1).2
  subtract_empty {s t} hs ht h := by
    have hflag : (sraSpanListSubtract s t).2 = false := by
      rcases h with h | h
      · exact absurd h Bool.false_ne_true
      · exact h
    have hnil : (sraSpanListSubtract s t).1 = [] := by
      by_contra hne
      exact Bool.false_ne_true (hflag.symm.trans (subtract_flag.mpr hne))
    rw [← (sraSpanListSubtract_spec hs.1 ht.1).2, hnil, points_nil]

end

section

variable {R : ℤ → ℤ → Prop} [SpanOrder R]

def Region (R : ℤ → ℤ → Prop) [SpanOrder R] := {rgn : SraRegion // SraSpanList.Sound R rgn}

def SraRegion.pixels (rgn : SraRegion) : Set (ℤ × ℤ) := {p | (p.2, p.1, ()) ∈ points rgn}

def rectPixels (r : Display.Rect) : Set (ℤ × ℤ) := Set.Ico r.x1 r.x2 ×ˢ Set.Ico r.y1 r.y2

@[simp] lemma mem_rectPixels {r : Display.Rect} {p : ℤ × ℤ} :
    p ∈ rectPixels r ↔ (r.x1 ≤ p.1 ∧ p.1 < r.x2) ∧ r.y1 ≤ p.2 ∧ p.2 < r.y2 := Iff.rfl

omit [SpanOrder R] in
lemma sound_singleton {σ β : Type} [HasPoints σ β] [Subspan σ] [LawfulSubspan R σ] {a : SraSpan σ}
    (h : a.Sound R) : SraSpanList.Sound R [a] :=
  ⟨by simpa using h, List.pairwise_singleton _ _⟩

lemma sound_createRect {x1 y1 x2 y2 : ℤ} (hx : R x1 x2) (hy : R y1 y2) :
    SraSpanList.Sound R (sraRgnCreateRect x1 y1 x2 y2) := by
  have hrun : SraSpanList.Sound R [(⟨x1, x2, ()⟩ : SraSpan Unit)] := sound_singleton ⟨hx, trivial⟩
  exact sound_singleton ⟨hy, hrun, by simp⟩

lemma createRect_pixels (x1 y1 x2 y2 : ℤ) :
    (sraRgnCreateRect x1 y1 x2 y2).pixels = rectPixels ⟨x1, y1, x2, y2⟩ := by
  ext ⟨x, y⟩
  simp [SraRegion.pixels, sraRgnCreateRect, SraSpan.extent, and_comm, HasPoints.points]

lemma sound_offset {rgn : SraRegion} (h : SraSpanList.Sound R rgn) (dx dy : ℤ) :
    SraSpanList.Sound R (sraRgnOffset rgn dx dy) := by
  refine h.map dy (fun v hv => ⟨SpanOrder.shift dy hv.bounds, ?_, ?_⟩) (fun _ => rfl) fun _ => rfl
  · exact hv.subspan.1.map dx (fun r hr => ⟨SpanOrder.shift dx hr.bounds, trivial⟩) (fun _ => rfl) fun _ => rfl
  · simpa using hv.subspan.2

lemma offset_pixels (rgn : SraRegion) (dx dy : ℤ) :
    (sraRgnOffset rgn dx dy).pixels = {p | (p.1 - dx, p.2 - dy) ∈ rgn.pixels} := by
  ext ⟨x, y⟩
  exact mem_points_map dy y (fun _ => rfl) (fun _ => rfl) fun v =>
    mem_points_map dx x (fun _ => rfl) (fun _ => rfl) fun _ => Iff.rfl

namespace Region

def pixels (rgn : Region R) : Set (ℤ × ℤ) := rgn.val.pixels

def empty : Region R := ⟨sraRgnCreate, by simp [sraRgnCreate], by simp [sraRgnCreate]⟩

def rect (r : Display.Rect) (hx : R r.x1 r.x2) (hy : R r.y1 r.y2) : Region R :=
  ⟨sraRgnCreateRect r.x1 r.y1 r.x2 r.y2, sound_createRect hx hy⟩

def or (a b : Region R) : Region R := ⟨sraRgnOr a.val b.val, (sraSpanListOr_spec a.property b.property).1⟩

def and (a b : Region R) : Region R :=
  ⟨(sraRgnAnd a.val b.val).1, (sraSpanListAnd_spec a.property b.property).1⟩

def subtract (a b : Region R) : Region R :=
  ⟨(sraRgnSubtract a.val b.val).1, (sraSpanListSubtract_spec a.property b.property).1⟩

variable (a b : Region R)

lemma or_pixels : (a.or b).pixels = a.pixels ∪ b.pixels := by
  ext p
  exact Set.ext_iff.mp (sraSpanListOr_spec a.property b.property).2 _

lemma and_pixels : (a.and b).pixels = a.pixels ∩ b.pixels := by
  ext p
  exact Set.ext_iff.mp (sraSpanListAnd_spec a.property b.property).2 _

lemma subtract_pixels : (a.subtract b).pixels = a.pixels \ b.pixels := by
  ext p
  exact Set.ext_iff.mp (sraSpanListSubtract_spec a.property b.property).2 _

def offset (dx dy : ℤ) : Region R := ⟨sraRgnOffset a.val dx dy, sound_offset a.property dx dy⟩

lemma offset_pixels (dx dy : ℤ) : (a.offset dx dy).pixels = {p | (p.1 - dx, p.2 - dy) ∈ a.pixels} :=
  Rfb.offset_pixels a.val dx dy

lemma rect_pixels (r : Display.Rect) (hx : R r.x1 r.x2) (hy : R r.y1 r.y2) :
    (rect r hx hy : Region R).pixels = rectPixels r :=
  createRect_pixels r.x1 r.y1 r.x2 r.y2

end Region

end

lemma nonempty_of_ne_nil {rgn : SraRegion} (h : SraSpanList.Sound (· < ·) rgn) (hne : rgn ≠ []) :
    rgn.pixels.Nonempty := by
  obtain ⟨v, vs, rfl⟩ := List.exists_cons_of_ne_nil hne
  obtain ⟨hv, -, -⟩ := h.tail
  obtain ⟨r, rs, hr⟩ := List.exists_cons_of_ne_nil hv.subspan.2
  have hrun := hv.subspan.1.spans r (by simp [hr])
  refine ⟨(r.start, v.start), v, by simp, ⟨le_rfl, hv.bounds⟩, ?_⟩
  exact ⟨r, by simp [hr], ⟨le_rfl, hrun.bounds⟩, trivial⟩

theorem sraRgnAnd_inter (a b : Region (· < ·)) :
    SraSpanList.Sound (· < ·) (sraRgnAnd a.val b.val).1 ∧
      (sraRgnAnd a.val b.val).1.pixels = a.pixels ∩ b.pixels ∧
      ((sraRgnAnd a.val b.val).2 = true ↔ (a.pixels ∩ b.pixels).Nonempty) := by
  refine ⟨(a.and b).property, Region.and_pixels a b, ?_⟩
  rw [← Region.and_pixels]
  refine and_flag.trans ⟨nonempty_of_ne_nil (a.and b).property, ?_⟩
  rintro ⟨p, hp⟩ hnil
  simp [Region.pixels, Region.and, SraRegion.pixels, sraRgnAnd, hnil] at hp

theorem sraRgnSubtract_diff (a b : Region (· < ·)) :
    SraSpanList.Sound (· < ·) (sraRgnSubtract a.val b.val).1 ∧
      (sraRgnSubtract a.val b.val).1.pixels = a.pixels \ b.pixels ∧
      ((sraRgnSubtract a.val b.val).2 = true ↔ (a.pixels \ b.pixels).Nonempty) := by
  refine ⟨(a.subtract b).property, Region.subtract_pixels a b, ?_⟩
  rw [← Region.subtract_pixels]
  refine subtract_flag.trans ⟨nonempty_of_ne_nil (a.subtract b).property, ?_⟩
  rintro ⟨p, hp⟩ hnil
  simp [Region.pixels, Region.subtract, SraRegion.pixels, sraRgnSubtract, hnil] at hp

end AndroidRemote.Rfb
