import AndroidRemote.Rfb.RegionPixels

/-! Regions as lists of rectangles: what the iterator and `sraRgnPopRect` hand out, and the
bounding box. -/

namespace AndroidRemote.Rfb

open Library

section Rectangles

def bandRects (reverseX : Bool) (v : SraBand) : List Display.Rect :=
  (directed reverseX v.subspan).map fun h => ⟨h.start, v.start, h.stop, v.stop⟩

lemma rects_some {i j : SraRectangleIterator} {r : Display.Rect} (h : sraRgnIteratorNext i = some (r, j)) :
    i.rects = r :: j.rects := by
  rw [SraRectangleIterator.rects]
  split
  · simp_all
  · simp_all

lemma rects_none {i : SraRectangleIterator} (h : sraRgnIteratorNext i = none) : i.rects = [] := by
  rw [SraRectangleIterator.rects]
  split
  · rfl
  · simp_all

lemma rects_runs (reverseX : Bool) (y1 y2 : ℤ) (bands : SraRegion) (runs : SraSpanList Unit) :
    SraRectangleIterator.rects ⟨reverseX, y1, y2, bands, runs⟩ =
      (runs.map fun h => ⟨h.start, y1, h.stop, y2⟩) ++
        SraRectangleIterator.rects ⟨reverseX, y1, y2, bands, []⟩ := by
  induction runs with
  | nil => rfl
  | cons h runs ih =>
    rw [rects_some rfl, ih]
    rfl

lemma directed_ne_nil {α : Type} (reverse : Bool) {l : List α} (h : l ≠ []) : directed reverse l ≠ [] := by
  cases reverse <;> simpa [directed]

lemma rects_bands (reverseX : Bool) (y1 y2 : ℤ) (bands : SraRegion) (hb : ∀ v ∈ bands, v.subspan ≠ []) :
    SraRectangleIterator.rects ⟨reverseX, y1, y2, bands, []⟩ = bands.flatMap (bandRects reverseX) := by
  induction bands generalizing y1 y2 with
  | nil => exact rects_none rfl
  | cons v bands ih =>
    obtain ⟨hv, hbands⟩ := List.forall_mem_cons.mp hb
    obtain ⟨h, runs, hruns⟩ := List.exists_cons_of_ne_nil (directed_ne_nil reverseX hv)
    have hnext : sraRgnIteratorNext ⟨reverseX, y1, y2, v :: bands, []⟩ =
        some (⟨h.start, v.start, h.stop, v.stop⟩, ⟨reverseX, v.start, v.stop, bands, runs⟩) := by
      simp only [sraRgnIteratorNext, hruns]
    rw [rects_some hnext, rects_runs, ih _ _ hbands, List.flatMap_cons, bandRects, hruns]
    rfl

lemma SraSpanList.Sound.subspan_ne_nil {R : ℤ → ℤ → Prop} [SpanOrder R] {rgn : SraRegion} (h : Sound R rgn) :
    ∀ v ∈ rgn, v.subspan ≠ [] :=
  fun v hv => (h.spans v hv).subspan.2

variable {R : ℤ → ℤ → Prop} [SpanOrder R]

def regionRects (rgn : SraRegion) (reverseX reverseY : Bool) : List Display.Rect :=
  (sraRgnGetReverseIterator rgn reverseX reverseY).rects

lemma mem_directed {α : Type} {reverse : Bool} {l : List α} {a : α} : a ∈ directed reverse l ↔ a ∈ l := by
  cases reverse <;> simp [directed]

lemma regionRects_eq (a : Region R) (reverseX reverseY : Bool) :
    regionRects a.val reverseX reverseY = (directed reverseY a.val).flatMap (bandRects reverseX) :=
  rects_bands _ _ _ _ fun v hv => a.property.subspan_ne_nil v (mem_directed.mp hv)

def Precedes (reverseX reverseY : Bool) (a b : Display.Rect) : Prop :=
  (if reverseY then b.y2 ≤ a.y1 else a.y2 ≤ b.y1) ∨
    (a.y1 = b.y1 ∧ a.y2 = b.y2 ∧ if reverseX then b.x2 ≤ a.x1 else a.x2 ≤ b.x1)

lemma pairwise_directed {α : Type} {lo hi : α → ℤ} {l : List α} (reverse : Bool)
    (h : l.Pairwise fun a b => hi a ≤ lo b) :
    (directed reverse l).Pairwise fun a b => if reverse then hi b ≤ lo a else hi a ≤ lo b := by
  cases reverse with
  | false => simpa [directed] using h
  | true => simpa [directed, List.pairwise_reverse] using h

lemma bandRects_pairwise (reverseX reverseY : Bool) {v : SraBand} (h : v.Sound R) :
    (bandRects reverseX v).Pairwise (Precedes reverseX reverseY) := by
  refine List.pairwise_map.mpr ((pairwise_directed reverseX h.subspan.1.sorted).imp fun hab => ?_)
  exact Or.inr ⟨rfl, rfl, hab⟩

lemma mem_bandRects {reverseX : Bool} {v : SraBand} {r : Display.Rect} (h : r ∈ bandRects reverseX v) :
    r.y1 = v.start ∧ r.y2 = v.stop ∧ ∃ t ∈ v.subspan, r.x1 = t.start ∧ r.x2 = t.stop := by
  obtain ⟨t, ht, rfl⟩ := List.mem_map.mp h
  exact ⟨rfl, rfl, t, mem_directed.mp ht, rfl, rfl⟩

lemma regionRects_pairwise (a : Region R) (reverseX reverseY : Bool) :
    (regionRects a.val reverseX reverseY).Pairwise (Precedes reverseX reverseY) := by
  rw [regionRects_eq]
  refine List.pairwise_flatMap.mpr ⟨?_, ?_⟩
  · intro v hv
    exact bandRects_pairwise reverseX reverseY (a.property.spans v (mem_directed.mp hv))
  · refine (pairwise_directed reverseY a.property.sorted).imp fun hvw r hr t ht => Or.inl ?_
    obtain ⟨hr₁, hr₂, -⟩ := mem_bandRects hr
    obtain ⟨ht₁, ht₂, -⟩ := mem_bandRects ht
    rw [hr₁, hr₂, ht₁, ht₂]
    exact hvw

lemma regionRects_bounds (a : Region R) (reverseX reverseY : Bool) :
    ∀ r ∈ regionRects a.val reverseX reverseY, R r.x1 r.x2 ∧ R r.y1 r.y2 := by
  rw [regionRects_eq]
  intro r hr
  obtain ⟨v, hv, hr⟩ := List.mem_flatMap.mp hr
  obtain ⟨hy₁, hy₂, t, ht, hx₁, hx₂⟩ := mem_bandRects hr
  have hsound := a.property.spans v (mem_directed.mp hv)
  rw [hy₁, hy₂, hx₁, hx₂]
  exact ⟨(hsound.subspan.1.spans t ht).bounds, hsound.bounds⟩

lemma bandRects_pixels (reverseX : Bool) (v : SraBand) (x y : ℤ) :
    (x, y) ∈ pieces rectPixels (bandRects reverseX v) ↔ (y, x, ()) ∈ v.extent := by
  rw [bandRects, pieces_map, mem_extent]
  constructor
  · rintro ⟨t, ht, hx, hy⟩
    exact ⟨hy, t, mem_directed.mp ht, hx, trivial⟩
  · rintro ⟨hy, t, ht, hx, -⟩
    exact ⟨t, mem_directed.mpr ht, hx, hy⟩

lemma regionRects_pixels (a : Region R) (reverseX reverseY : Bool) :
    pieces rectPixels (regionRects a.val reverseX reverseY) = a.pixels := by
  rw [regionRects_eq, pieces_flatMap]
  ext ⟨x, y⟩
  simp only [mem_pieces, mem_directed]
  exact exists_congr fun v => and_congr_right fun _ => bandRects_pixels reverseX v x y

lemma length_directed {α : Type} (reverse : Bool) (l : List α) : (directed reverse l).length = l.length := by
  cases reverse <;> simp [directed]

lemma count_runs (l : SraSpanList Unit) : sraSpanListCount l = l.length := by
  induction l with
  | nil => rfl
  | cons a l ih =>
    rw [sraSpanListCount, ih, List.length_cons]
    exact Nat.add_comm _ _

lemma count_bands (l : SraRegion) : sraSpanListCount l = (l.map fun v => v.subspan.length).sum := by
  induction l with
  | nil => rfl
  | cons v l ih =>
    rw [sraSpanListCount, ih, List.map_cons, List.sum_cons]
    exact congrArg (· + _) (count_runs v.subspan)

lemma sum_map_directed {α : Type} (f : α → ℕ) (reverse : Bool) (l : List α) :
    ((directed reverse l).map f).sum = (l.map f).sum := by
  cases reverse with
  | false => rfl
  | true => simp [directed, List.map_reverse, List.sum_reverse]

lemma regionRects_length (a : Region R) (reverseX reverseY : Bool) :
    (regionRects a.val reverseX reverseY).length = sraRgnCountRects a.val := by
  have hlen : ∀ v, (bandRects reverseX v).length = v.subspan.length := by
    intro v
    rw [bandRects, List.length_map, length_directed]
  rw [regionRects_eq, List.length_flatMap, funext hlen, sum_map_directed]
  exact (count_bands a.val).symm

theorem sraRgnIterator_partition (a : Region (· ≤ ·)) (reverseX reverseY : Bool) :
    (∀ p, p ∈ a.pixels ↔ ∃ r ∈ regionRects a.val reverseX reverseY, p ∈ rectPixels r) ∧
      (regionRects a.val reverseX reverseY).Pairwise (Precedes reverseX reverseY) ∧
      (regionRects a.val reverseX reverseY).length = sraRgnCountRects a.val :=
  ⟨fun _ => by rw [← regionRects_pixels a reverseX reverseY, mem_pieces],
    regionRects_pairwise a reverseX reverseY, regionRects_length a reverseX reverseY⟩

end Rectangles

section BBox

def Inside (r m : Display.Rect) : Prop := m.x1 ≤ r.x1 ∧ r.x2 ≤ m.x2 ∧ m.y1 ≤ r.y1 ∧ r.y2 ≤ m.y2

lemma bboxRuns_inside (l : SraSpanList Unit) (b m : Display.Rect) :
    Inside (l.foldl bboxRun b) m ↔ Inside b m ∧ ∀ t ∈ l, m.x1 ≤ t.start ∧ t.stop ≤ m.x2 := by
  induction l generalizing b with
  | nil => simp
  | cons t l ih =>
    rw [List.foldl_cons, ih, List.forall_mem_cons, ← and_assoc]
    refine and_congr_left fun _ => ?_
    simp only [Inside, bboxRun]
    split <;> split <;> omega

lemma bboxBands_inside (l : SraRegion) (b m : Display.Rect) :
    Inside (l.foldl bboxBand b) m ↔
      Inside b m ∧ ∀ v ∈ l, (m.y1 ≤ v.start ∧ v.stop ≤ m.y2) ∧ ∀ t ∈ v.subspan, m.x1 ≤ t.start ∧
        t.stop ≤ m.x2 := by
  induction l generalizing b with
  | nil => simp
  | cons v l ih =>
    rw [List.foldl_cons, ih, List.forall_mem_cons, ← and_assoc, ← and_assoc, bboxBand, bboxRuns_inside]
    refine and_congr_left fun _ => and_congr_left fun _ => ?_
    simp only [Inside]
    split <;> split <;> omega

lemma pixels_subset_iff (a : Region (· < ·)) (m : Display.Rect) :
    a.pixels ⊆ rectPixels m ↔ ∀ v ∈ a.val, (m.y1 ≤ v.start ∧ v.stop ≤ m.y2) ∧
      ∀ t ∈ v.subspan, m.x1 ≤ t.start ∧ t.stop ≤ m.x2 := by
  constructor
  · intro h v hv
    have hsound := a.property.spans v hv
    have hall : ∀ t ∈ v.subspan, (m.x1 ≤ t.start ∧ t.stop ≤ m.x2) ∧ m.y1 ≤ v.start ∧
      v.stop ≤ m.y2 := by
      intro t ht
      have hrun := (hsound.subspan.1.spans t ht).bounds
      have hband := hsound.bounds
      have hfirst : (t.start, v.start) ∈ a.pixels :=
        ⟨v, hv, ⟨le_rfl, hband⟩, t, ht, ⟨le_rfl, hrun⟩, trivial⟩
      have hlast : (t.stop - 1, v.stop - 1) ∈ a.pixels :=
        ⟨v, hv, ⟨by simp; omega, by simp⟩, t, ht, ⟨by simp; omega, by simp⟩, trivial⟩
      have h₁ := mem_rectPixels.mp (h hfirst)
      have h₂ := mem_rectPixels.mp (h hlast)
      simp only at h₁ h₂
      omega
    obtain ⟨t, ht⟩ := List.exists_mem_of_ne_nil _ hsound.subspan.2
    exact ⟨(hall t ht).2, fun t ht => (hall t ht).1⟩
  · rintro h ⟨x, y⟩ ⟨v, hv, hy, t, ht, hx, -⟩
    obtain ⟨hband, hruns⟩ := h v hv
    have hrun := hruns t ht
    exact ⟨⟨hrun.1.trans hx.1, hx.2.trans_le hrun.2⟩, hband.1.trans hy.1, hy.2.trans_le hband.2⟩

lemma Inside.refl (r : Display.Rect) : Inside r r := ⟨le_rfl, le_rfl, le_rfl, le_rfl⟩

lemma rectPixels_subset_iff {r m : Display.Rect} (hx : r.x1 < r.x2) (hy : r.y1 < r.y2) :
    rectPixels r ⊆ rectPixels m ↔ Inside r m := by
  rw [← Region.rect_pixels (R := (· < ·)) r hx hy, pixels_subset_iff]
  simp only [Region.rect, sraRgnCreateRect, List.forall_mem_singleton, Inside]
  omega

lemma bbox_empty {a : Region (· < ·)} (h : a.val = []) : sraRgnBBox a.val = [] := by
  rw [h]
  rfl

lemma bbox_nonempty (a : Region (· < ·)) (h : a.val ≠ []) :
    ∃ b : Display.Rect, (b.x1 < b.x2 ∧ b.y1 < b.y2) ∧ sraRgnBBox a.val = sraRgnCreateRect b.x1 b.y1 b.x2 b.y2 ∧
      a.pixels ⊆ rectPixels b ∧
      ((∀ p ∈ a.pixels, (1 - intMax ≤ p.1 ∧ p.1 < intMax) ∧ 1 - intMax ≤ p.2 ∧ p.2 < intMax) →
        ∀ m : Display.Rect, Inside b m ↔ a.pixels ⊆ rectPixels m) := by
  set b := a.val.foldl bboxBand ⟨intMax, intMax, 1 - intMax, 1 - intMax⟩ with hb
  obtain ⟨v, vs, hv⟩ := List.exists_cons_of_ne_nil h
  have hsound := a.property.spans v (by simp [hv])
  obtain ⟨t, ts, ht⟩ := List.exists_cons_of_ne_nil hsound.subspan.2
  have hrun := (hsound.subspan.1.spans t (by simp [ht])).bounds
  have hband := hsound.bounds
  have hcorners := ((bboxBands_inside a.val ⟨intMax, intMax, 1 - intMax, 1 - intMax⟩ b).mp (Inside.refl b)).2
  obtain ⟨hv₁, hv₂⟩ := hcorners v (by simp [hv])
  have ht₁ := hv₂ t (by simp [ht])
  refine ⟨b, by omega, ?_, (pixels_subset_iff a b).mpr hcorners, fun hsmall m => ?_⟩
  · rw [sraRgnBBox, ← hb, if_neg (by omega)]
  · have hpixel := hsmall (t.start, v.start)
      ⟨v, by simp [hv], ⟨le_rfl, hband⟩, t, by simp [ht], ⟨le_rfl, hrun⟩, trivial⟩
    rw [pixels_subset_iff, hb, bboxBands_inside, and_iff_right_iff_imp]
    intro hm
    obtain ⟨hm₁, hm₂⟩ := hm v (by simp [hv])
    have hm₃ := hm₂ t (by simp [ht])
    simp only [Inside]
    omega

def Region.bbox (a : Region (· < ·)) : Region (· < ·) := ⟨sraRgnBBox a.val, by
  by_cases h : a.val = []
  · rw [bbox_empty h]
    exact ⟨by simp, by simp⟩
  · obtain ⟨b, hpos, hbox, -⟩ := bbox_nonempty a h
    rw [hbox]
    exact sound_createRect hpos.1 hpos.2⟩

theorem sraRgnBBox_least (a : Region (· < ·))
    (h : ∀ p ∈ a.pixels, (1 - intMax ≤ p.1 ∧ p.1 < intMax) ∧ 1 - intMax ≤ p.2 ∧ p.2 < intMax) :
    (∃ r, (sraRgnBBox a.val).pixels = rectPixels r) ∧
      ∀ m, a.pixels ⊆ rectPixels m ↔ (sraRgnBBox a.val).pixels ⊆ rectPixels m := by
  by_cases hnil : a.val = []
  · have hempty : ∀ rgn : SraRegion, rgn = [] → rgn.pixels = ∅ := by
      rintro rgn rfl
      ext p
      simp [SraRegion.pixels]
    rw [Region.pixels, hempty _ hnil, hempty _ (bbox_empty hnil)]
    refine ⟨⟨⟨0, 0, 0, 0⟩, ?_⟩, fun _ => Iff.rfl⟩
    simp [rectPixels]
  · obtain ⟨b, hpos, hbox, -, hleast⟩ := bbox_nonempty a hnil
    rw [hbox, createRect_pixels]
    refine ⟨⟨b, rfl⟩, fun m => ?_⟩
    rw [← hleast h m, ← rectPixels_subset_iff hpos.1 hpos.2]

def stairs : Region (fun a b : ℤ => a < b) :=
  (Region.rect ⟨1, 1, 3, 2⟩ (by decide) (by decide)).or (Region.rect ⟨2, 2, 4, 3⟩ (by decide) (by decide))

lemma mem_stairs {p : ℤ × ℤ} : p ∈ stairs.pixels ↔
    p ∈ rectPixels ⟨1, 1, 3, 2⟩ ∨ p ∈ rectPixels ⟨2, 2, 4, 3⟩ := by
  rw [stairs, Region.or_pixels, Region.rect_pixels, Region.rect_pixels]
  rfl

theorem sraRgnBBox_least_stairs :
    (∃ r, (sraRgnBBox stairs.val).pixels = rectPixels r) ∧
      ∀ m, stairs.pixels ⊆ rectPixels m ↔ (sraRgnBBox stairs.val).pixels ⊆ rectPixels m := by
  refine sraRgnBBox_least stairs fun p hp => ?_
  have hin := mem_stairs.mp hp
  simp only [mem_rectPixels, intMax] at hin ⊢
  omega

end BBox

section PopRect

variable {R : ℤ → ℤ → Prop} [SpanOrder R]

lemma directed_directed {α : Type} (reverse : Bool) (l : List α) : directed reverse (directed reverse l) = l := by
  cases reverse <;> simp [directed]

lemma pairwise_undirected {α : Type} {lo hi : α → ℤ} {l : List α} {reverse : Bool}
    (h : l.Pairwise fun a b => if reverse then hi b ≤ lo a else hi a ≤ lo b) :
    (directed reverse l).Pairwise fun a b => hi a ≤ lo b := by
  cases reverse with
  | false => simpa [directed] using h
  | true => simpa [directed, List.pairwise_reverse] using h

lemma sublist_directed {α : Type} {reverse : Bool} {l : List α} {t : α} {ts : List α}
    (h : directed reverse l = t :: ts) :
    (directed reverse ts).Sublist l := by
  have hsub : ts.Sublist (directed reverse l) := h ▸ List.sublist_cons_self t ts
  cases reverse with
  | false => exact hsub
  | true => simpa [directed] using hsub.reverse

lemma sound_popped (a : Region R) {ry : Bool} {v : SraBand} {vs : List SraBand} (hv : directed ry a.val = v :: vs)
    {left : SraSpanList Unit} (hleft : left.Sublist v.subspan) :
    SraSpanList.Sound R (directed ry (if left = [] then vs else { v with subspan := left } :: vs)) := by
  have hmem : ∀ b ∈ v :: vs, b ∈ a.val := fun b hb => mem_directed.mp (hv ▸ hb)
  have hsorted := pairwise_directed ry a.property.sorted
  rw [hv] at hsorted
  obtain ⟨hfirst, hrest⟩ := List.pairwise_cons.mp hsorted
  split
  · exact ⟨fun b hb => a.property.spans b (hmem b (List.mem_cons_of_mem v (mem_directed.mp hb))),
      pairwise_undirected hrest⟩
  · next hne =>
    refine ⟨fun b hb => ?_, pairwise_undirected (List.pairwise_cons.mpr ⟨hfirst, hrest⟩)⟩
    rcases List.mem_cons.mp (mem_directed.mp hb) with rfl | hb
    · obtain ⟨hbounds, hruns, -⟩ := a.property.spans v (hmem v List.mem_cons_self)
      exact ⟨hbounds, ⟨fun t ht => hruns.spans t (hleft.subset ht), hruns.sorted.sublist hleft⟩, hne⟩
    · exact a.property.spans b (hmem b (List.mem_cons_of_mem v hb))

/-- Popping hands out what the iterator hands out next, and leaves a region with the rest. -/
theorem sraRgnPopRect_next (a : Region R) (right2left bottom2top : Bool) :
    (sraRgnPopRect a.val right2left bottom2top = none → regionRects a.val right2left bottom2top = []) ∧
      ∀ r rest, sraRgnPopRect a.val right2left bottom2top = some (r, rest) →
        SraSpanList.Sound R rest ∧
          regionRects a.val right2left bottom2top = r :: regionRects rest right2left bottom2top := by
  rw [regionRects_eq, sraRgnPopRect]
  cases hv : directed bottom2top a.val with
  | nil => simp
  | cons v vs =>
    have hsubspan := a.property.subspan_ne_nil v (mem_directed.mp (hv ▸ List.mem_cons_self))
    obtain ⟨t, ts, ht⟩ := List.exists_cons_of_ne_nil (directed_ne_nil right2left hsubspan)
    have hleft := sublist_directed ht
    have hband : bandRects right2left v =
        ⟨t.start, v.start, t.stop, v.stop⟩ :: ts.map fun h => ⟨h.start, v.start, h.stop, v.stop⟩ := by
      rw [bandRects, ht, List.map_cons]
    simp only [ht]
    refine ⟨fun h => by simp at h, fun r rest h => ?_⟩
    obtain ⟨rfl, rfl⟩ := by simpa only [Option.some.injEq, Prod.mk.injEq] using h
    have hsound := sound_popped a hv hleft
    have hempty : sraSpanListEmpty (directed right2left ts) = true ↔ directed right2left ts = [] := by
      simp [sraSpanListEmpty]
    simp only [hempty]
    refine ⟨hsound, ?_⟩
    have hrest := regionRects_eq ⟨_, hsound⟩ right2left bottom2top
    simp only at hrest
    rw [hrest, directed_directed, List.flatMap_cons, hband, List.cons_append]
    congr 1
    split
    · next hnil =>
      have hts : ts = [] := by rw [← directed_directed right2left ts, hnil]; cases right2left <;> rfl
      rw [hts]
      rfl
    · rw [List.flatMap_cons, bandRects, directed_directed]

theorem sraRgnPopRect_next_stairs :
    (sraRgnPopRect stairs.val true true = none → regionRects stairs.val true true = []) ∧
      ∀ r rest, sraRgnPopRect stairs.val true true = some (r, rest) →
        SraSpanList.Sound (· < ·) rest ∧ regionRects stairs.val true true = r :: regionRects rest true true :=
  sraRgnPopRect_next stairs true true

end PopRect

end AndroidRemote.Rfb
