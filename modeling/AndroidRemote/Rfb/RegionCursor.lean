import AndroidRemote.Library.Pieces
import AndroidRemote.Rfb.Region

/-! What a span list covers, and what moving, cutting and merging at the cursor keeps. The order
between the two ends of a span is `≤` where a client may ask for nothing, and `<` elsewhere. -/

namespace AndroidRemote.Rfb

open Library

class SpanOrder (R : ℤ → ℤ → Prop) : Prop where
  of_lt : ∀ {a b}, a < b → R a b
  le : ∀ {a b}, R a b → a ≤ b
  trans : ∀ {a b c}, R a b → R b c → R a c
  shift : ∀ {a b} (d : ℤ), R a b → R (a + d) (b + d)

instance : SpanOrder (· ≤ ·) where
  of_lt := le_of_lt
  le := id
  trans := le_trans
  shift d h := Int.add_le_add_right h d

instance : SpanOrder (· < ·) where
  of_lt := id
  le := le_of_lt
  trans := lt_trans
  shift d h := Int.add_lt_add_right h d

class HasPoints (σ : Type) (β : outParam Type) where
  points : σ → Set β

export HasPoints (points)

class LawfulSubspan (R : ℤ → ℤ → Prop) (σ : Type) {β : outParam Type} [Subspan σ] [HasPoints σ β] where
  good : σ → Prop
  equal_eq : ∀ {s t : σ}, Subspan.equal s t = true → s = t
  or_good : ∀ {s t}, good s → good t → good (Subspan.or s t)
  or_points : ∀ {s t}, good s → good t → points (Subspan.or s t) = points s ∪ points t
  and_good : ∀ {s t}, good s → good t → (Subspan.and s t).2 = true → good (Subspan.and s t).1
  and_points : ∀ {s t}, good s → good t → points (Subspan.and s t).1 = points s ∩ points t
  and_empty : ∀ {s t}, good s → good t → (Subspan.and s t).2 = false → points s ∩ points t = ∅
  subtract_good : ∀ {s t}, good s → good t → Subspan.null σ = false → (Subspan.subtract s t).2 = true →
    good (Subspan.subtract s t).1
  subtract_points : ∀ {s t}, good s → good t → Subspan.null σ = false →
    points (Subspan.subtract s t).1 = points s \ points t
  subtract_empty : ∀ {s t}, good s → good t → Subspan.null σ = true ∨ (Subspan.subtract s t).2 = false →
    points s \ points t = ∅

instance : HasPoints Unit Unit where
  points _ := Set.univ

instance (R : ℤ → ℤ → Prop) : LawfulSubspan R Unit where
  good _ := True
  equal_eq _ := rfl
  or_good _ _ := trivial
  or_points _ _ := (Set.union_self _).symm
  and_good _ _ _ := trivial
  and_points _ _ := (Set.inter_self _).symm
  and_empty _ _ h := nomatch h
  subtract_good _ _ h := nomatch h
  subtract_points _ _ h := nomatch h
  subtract_empty _ _ _ := sdiff_self

variable {σ β : Type} [HasPoints σ β]

def SraSpan.extent (a : SraSpan σ) : Set (ℤ × β) := slab a.start a.stop (points a.subspan)

@[simp] lemma mem_extent {a : SraSpan σ} {p : ℤ} {q : β} :
    (p, q) ∈ a.extent ↔ (a.start ≤ p ∧ p < a.stop) ∧ q ∈ points a.subspan := Iff.rfl

instance : HasPoints (SraSpanList σ) (ℤ × β) where
  points := pieces SraSpan.extent

lemma points_list (l : SraSpanList σ) : points l = pieces SraSpan.extent l := rfl

@[simp] lemma points_nil : points ([] : SraSpanList σ) = ∅ := pieces_nil

lemma points_cons (a : SraSpan σ) (l : SraSpanList σ) : points (a :: l) = a.extent ∪ points l := pieces_cons

@[simp] lemma points_reverse (l : SraSpanList σ) : points l.reverse = points l := pieces_reverse

lemma le_of_mem_points {l : SraSpanList σ} {m p : ℤ} {q : β} (h : ∀ a ∈ l, m ≤ a.start)
    (hp : (p, q) ∈ points l) :
    m ≤ p := by
  obtain ⟨a, ha, hpa⟩ := hp
  exact (h a ha).trans hpa.1.1

lemma inter_points_passed {s : SraSpan σ} {l src : SraSpanList σ} (h : ∀ a ∈ l, s.stop ≤ a.start) :
    points l ∩ points (s :: src) = points l ∩ points src := by
  ext ⟨p, q⟩
  have hl := le_of_mem_points (p := p) (q := q) h
  simp only [points_list, pieces_cons, Set.mem_inter_iff, Set.mem_union, mem_extent] at hl ⊢
  grind

lemma mem_points_map {f : SraSpan σ → SraSpan σ} {l : SraSpanList σ} (d p : ℤ) {q q' : β}
    (hstart : ∀ a, (f a).start = a.start + d) (hstop : ∀ a, (f a).stop = a.stop + d)
    (hq : ∀ a, q ∈ points (f a).subspan ↔ q' ∈ points a.subspan) :
    (p, q) ∈ points (l.map f) ↔ (p - d, q') ∈ points l := by
  have ha : ∀ a, (p, q) ∈ (f a).extent ↔ (p - d, q') ∈ a.extent := by
    intro a
    rw [mem_extent, mem_extent, hstart, hstop, hq]
    refine and_congr_left fun _ => ?_
    omega
  simp only [points_list, pieces_map, mem_pieces, ha]

def SraCursor.covered (c : SraCursor σ) : Set (ℤ × β) :=
  pieces SraSpan.extent c.before ∪ (c.curr.extent ∪ pieces SraSpan.extent c.after)

lemma SraCursor.points_before_curr (c : SraCursor σ) : points c.before ∪ points (c.curr :: c.after) = c.covered := by
  simp [HasPoints.points, SraCursor.covered]

lemma SraCursor.points_curr_after (c : SraCursor σ) : points (c.curr :: c.before) ∪ points c.after = c.covered := by
  simp only [HasPoints.points, pieces_cons, SraCursor.covered]
  ac_rfl

lemma SraCursor.covered_insertBefore (a : SraSpan σ) (c : SraCursor σ) :
    (c.insertBefore a).covered = c.covered ∪ a.extent := by
  simp only [insertBefore, SraCursor.covered, pieces_cons]
  ac_rfl

variable (R : ℤ → ℤ → Prop) [Subspan σ] [LawfulSubspan R σ]

structure SraSpan.Sound (a : SraSpan σ) : Prop where
  bounds : R a.start a.stop
  subspan : LawfulSubspan.good R a.subspan

structure SraSpanList.Sound (l : SraSpanList σ) : Prop where
  spans : ∀ a ∈ l, SraSpan.Sound R a
  sorted : l.Pairwise fun a b => a.stop ≤ b.start

structure SraCursor.Sound (c : SraCursor σ) : Prop where
  curr : c.curr.Sound R
  before : ∀ a ∈ c.before, a.Sound R ∧ a.stop ≤ c.curr.start
  before_sorted : c.before.Pairwise fun a b => b.stop ≤ a.start
  after : ∀ a ∈ c.after, a.Sound R ∧ c.curr.stop ≤ a.start
  after_sorted : c.after.Pairwise fun a b => a.stop ≤ b.start

structure SraCursor.Grown (c c' : SraCursor σ) : Prop where
  sound : c'.Sound R
  covered : c'.covered = c.covered
  start : c'.curr.start ≤ c.curr.start
  stop : c.curr.stop ≤ c'.curr.stop
  subspan : c'.curr.subspan = c.curr.subspan
  before : ∀ a ∈ c'.before, a ∈ c.before
  after : ∀ a ∈ c'.after, a ∈ c.after

variable {R}

namespace SraCursor

lemma Grown.refl {c : SraCursor σ} (h : c.Sound R) : Grown R c c :=
  ⟨h, rfl, le_rfl, le_rfl, rfl, fun _ ha => ha, fun _ ha => ha⟩

lemma Grown.trans {c c' c'' : SraCursor σ} (h : Grown R c c') (h' : Grown R c' c'') : Grown R c c'' :=
  ⟨h'.sound, h'.covered.trans h.covered, h'.start.trans h.start, h.stop.trans h'.stop, h'.subspan.trans h.subspan,
    fun a ha => h.before a (h'.before a ha), fun a ha => h.after a (h'.after a ha)⟩

lemma Sound.withSubspan {c : SraCursor σ} (h : c.Sound R) {t : σ} (ht : LawfulSubspan.good R t) :
    (c.withSubspan t).Sound R :=
  ⟨⟨h.curr.bounds, ht⟩, h.before, h.before_sorted, h.after, h.after_sorted⟩

lemma Sound.dropBefore {b : ℤ} {c : SraCursor σ} (h : c.Sound R) (hb : R b c.curr.stop) :
    (c.dropBefore b).Sound R := by
  rw [SraCursor.dropBefore]
  split
  · rename_i hlt
    exact ⟨⟨hb, h.curr.subspan⟩, fun a ha => ⟨(h.before a ha).1, (h.before a ha).2.trans hlt.le⟩,
      h.before_sorted, h.after, h.after_sorted⟩
  · exact h

lemma Sound.insertBefore {c : SraCursor σ} (h : c.Sound R) {a : SraSpan σ} (ha : a.Sound R)
    (hb : ∀ b ∈ c.before, b.stop ≤ a.start) (hc : a.stop ≤ c.curr.start) : (c.insertBefore a).Sound R :=
  ⟨h.curr, List.forall_mem_cons.mpr ⟨⟨ha, hc⟩, h.before⟩, List.pairwise_cons.mpr ⟨hb, h.before_sorted⟩,
    h.after, h.after_sorted⟩

end SraCursor

lemma SraSpanList.Sound.tail {s : SraSpan σ} {src : SraSpanList σ} (h : Sound R (s :: src)) :
    s.Sound R ∧ Sound R src ∧ ∀ t ∈ src, s.stop ≤ t.start :=
  ⟨h.spans s (by simp), ⟨fun a ha => h.spans a (by simp [ha]), (List.pairwise_cons.mp h.sorted).2⟩,
    (List.pairwise_cons.mp h.sorted).1⟩

lemma SraSpanList.Sound.sublist {l m : SraSpanList σ} (h : Sound R m) (hl : l.Sublist m) : Sound R l :=
  ⟨fun a ha => h.spans a (hl.subset ha), h.sorted.sublist hl⟩

lemma SraSpanList.Sound.cons {s : SraSpan σ} {src : SraSpanList σ} (hs : s.Sound R) (h : Sound R src)
    (hle : ∀ t ∈ src, s.stop ≤ t.start) : Sound R (s :: src) :=
  ⟨List.forall_mem_cons.mpr ⟨hs, h.spans⟩, List.pairwise_cons.mpr ⟨hle, h.sorted⟩⟩

lemma SraSpanList.Sound.map {f : SraSpan σ → SraSpan σ} {l : SraSpanList σ} (d : ℤ) (h : Sound R l)
    (hf : ∀ a, a.Sound R → (f a).Sound R) (hstart : ∀ a, (f a).start = a.start + d)
    (hstop : ∀ a, (f a).stop = a.stop + d) : Sound R (l.map f) := by
  refine ⟨?_, List.pairwise_map.mpr (h.sorted.imp fun hab => ?_)⟩
  · intro a ha
    obtain ⟨b, hb, rfl⟩ := List.mem_map.mp ha
    exact hf b (h.spans b hb)
  · rw [hstart, hstop]
    omega

lemma SraSpanList.Sound.concat {s : SraSpan σ} {l : SraSpanList σ} (h : Sound R l) (hs : s.Sound R)
    (hle : ∀ a ∈ l, a.stop ≤ s.start) : Sound R (l ++ [s]) := by
  refine ⟨?_, List.pairwise_append.mpr ⟨h.sorted, List.pairwise_singleton _ _, by simpa using hle⟩⟩
  intro a ha
  rcases List.mem_append.mp ha with ha | ha
  · exact h.spans a ha
  · exact (List.mem_singleton.mp ha) ▸ hs

variable [SpanOrder R]

lemma SraSpan.Sound.le {a : SraSpan σ} (h : a.Sound R) : a.start ≤ a.stop := SpanOrder.le h.bounds

lemma SraCursor.sound_list {c : SraCursor σ} : SraSpanList.Sound R c.list ↔ c.Sound R := by
  constructor
  · rintro ⟨hs, ho⟩
    simp only [list, List.mem_append, List.mem_reverse, List.mem_cons] at hs
    obtain ⟨hb, hca, hbc⟩ := List.pairwise_append.mp ho
    obtain ⟨hc, ha⟩ := List.pairwise_cons.mp hca
    exact ⟨hs _ (by simp), fun a h => ⟨hs a (by simp [h]), hbc a (by simpa) _ (by simp)⟩,
      List.pairwise_reverse.mp hb, fun a h => ⟨hs a (by simp [h]), hc a h⟩, ha⟩
  · intro h
    refine ⟨?_, ?_⟩
    · intro a ha
      simp only [list, List.mem_append, List.mem_reverse, List.mem_cons] at ha
      rcases ha with ha | rfl | ha
      · exact (h.before a ha).1
      · exact h.curr
      · exact (h.after a ha).1
    · refine List.pairwise_append.mpr ⟨List.pairwise_reverse.mpr h.before_sorted,
        List.pairwise_cons.mpr ⟨fun a ha => (h.after a ha).2, h.after_sorted⟩, ?_⟩
      intro a ha b hb
      have hac := (h.before a (List.mem_reverse.mp ha)).2
      rcases List.mem_cons.mp hb with rfl | hb
      · exact hac
      · exact hac.trans (h.curr.le.trans (h.after b hb).2)

lemma SraCursor.Sound.without {c : SraCursor σ} (h : c.Sound R) : SraSpanList.Sound R (c.before.reverse ++ c.after) :=
  (sound_list.mpr h).sublist (by simp [list])

lemma SraCursor.Sound.passed {c : SraCursor σ} (h : c.Sound R) :
    SraSpanList.Sound R ((c.curr :: c.before).reverse ++ c.after) := by
  simpa [list] using sound_list.mpr h

lemma SraSpan.Sound.extended {a b : SraSpan σ} (ha : a.Sound R) (hb : b.Sound R) (hab : a.stop = b.start)
    (hs : Subspan.equal a.subspan b.subspan = true ∨ Subspan.equal b.subspan a.subspan = true) :
    SraSpan.Sound R ⟨a.start, b.stop, b.subspan⟩ ∧
      a.extent ∪ b.extent = SraSpan.extent ⟨a.start, b.stop, b.subspan⟩ := by
  have hsub : a.subspan = b.subspan := by
    rcases hs with h | h
    · exact LawfulSubspan.equal_eq R h
    · exact (LawfulSubspan.equal_eq R h).symm
  refine ⟨⟨SpanOrder.trans (hab ▸ ha.bounds) hb.bounds, hb.subspan⟩, ?_⟩
  rw [SraSpan.extent, hsub, SraSpan.extent, hab]
  exact slab_cut (hab ▸ ha.le) hb.le

namespace SraCursor

lemma grown_previous {prev dest : SraSpan σ} {before after : SraSpanList σ}
    (h : Sound R ⟨prev :: before, dest, after⟩) (hp : prev.stop = dest.start)
    (he : Subspan.equal prev.subspan dest.subspan = true) :
    Grown R ⟨prev :: before, dest, after⟩ ⟨before, { dest with start := prev.start }, after⟩ := by
  obtain ⟨hprev, hbefore⟩ := List.forall_mem_cons.mp h.before
  obtain ⟨hsorted, hrest⟩ := List.pairwise_cons.mp h.before_sorted
  obtain ⟨hs, hd⟩ := hprev.1.extended h.curr hp (Or.inl he)
  refine ⟨⟨hs, fun a ha => ⟨(hbefore a ha).1, hsorted a ha⟩, hrest, h.after, h.after_sorted⟩, ?_,
    hprev.1.le.trans_eq hp, le_rfl, rfl, fun a ha => List.mem_cons_of_mem _ ha, fun a ha => ha⟩
  simp only [SraCursor.covered, pieces_cons, ← hd]
  ac_rfl

lemma grown_next {next dest : SraSpan σ} {before after : SraSpanList σ}
    (h : Sound R ⟨before, dest, next :: after⟩) (hn : next.start = dest.stop)
    (he : Subspan.equal next.subspan dest.subspan = true) :
    Grown R ⟨before, dest, next :: after⟩ ⟨before, { dest with stop := next.stop }, after⟩ := by
  obtain ⟨hnext, hafter⟩ := List.forall_mem_cons.mp h.after
  obtain ⟨hsorted, hrest⟩ := List.pairwise_cons.mp h.after_sorted
  obtain ⟨hs, hd⟩ := h.curr.extended hnext.1 hn.symm (Or.inr he)
  have hsub := LawfulSubspan.equal_eq R he
  rw [hsub] at hs hd
  refine ⟨⟨hs, h.before, h.before_sorted, fun a ha => ⟨(hafter a ha).1, hsorted a ha⟩, hrest⟩, ?_,
    le_rfl, hn ▸ hnext.1.le, rfl, fun a ha => ha, fun a ha => List.mem_cons_of_mem _ ha⟩
  simp only [SraCursor.covered, pieces_cons, ← hd]
  ac_rfl

lemma Sound.mergePrevious {c : SraCursor σ} (h : c.Sound R) : Grown R c c.mergePrevious := by
  obtain ⟨before, dest, after⟩ := c
  induction before generalizing dest with
  | nil => exact Grown.refl h
  | cons prev before ih =>
    simp only [SraCursor.mergePrevious, sraSpanMergePrevious]
    split
    · have hg := grown_previous h (by simp_all) (by simp_all)
      exact hg.trans (ih _ hg.sound)
    · exact Grown.refl h

lemma Sound.points_mergePrevious {c : SraCursor σ} (h : c.Sound R) :
    points (c.mergePrevious.curr :: c.mergePrevious.before) = points (c.curr :: c.before) := by
  obtain ⟨before, dest, after⟩ := c
  induction before generalizing dest with
  | nil => rfl
  | cons prev before ih =>
    simp only [SraCursor.mergePrevious, sraSpanMergePrevious]
    split
    · rename_i hm
      refine (ih _ (grown_previous h hm.1 hm.2).sound).trans ?_
      obtain ⟨-, hd⟩ := (h.before prev (by simp)).1.extended h.curr hm.1 (Or.inl hm.2)
      simp only [points_list, pieces_cons, ← hd]
      ac_rfl
    · rfl

lemma Sound.mergeNext {c : SraCursor σ} (h : c.Sound R) : Grown R c c.mergeNext := by
  obtain ⟨before, dest, after⟩ := c
  induction after generalizing dest with
  | nil => exact Grown.refl h
  | cons next after ih =>
    simp only [SraCursor.mergeNext, sraSpanMergeNext]
    split
    · have hg := grown_next h (by simp_all) (by simp_all)
      exact hg.trans (ih _ hg.sound)
    · exact Grown.refl h

lemma Sound.cutBefore {b : ℤ} {c : SraCursor σ} (h : c.Sound R) (hb : R b c.curr.stop) :
    (c.cutBefore b).Sound R ∧ (c.cutBefore b).covered = c.covered := by
  rw [SraCursor.cutBefore]
  split
  · rename_i hlt
    refine ⟨⟨⟨hb, h.curr.subspan⟩, ?_, ?_, h.after, h.after_sorted⟩, ?_⟩
    · refine List.forall_mem_cons.mpr ⟨⟨⟨SpanOrder.of_lt hlt, h.curr.subspan⟩, le_rfl⟩, ?_⟩
      exact fun a ha => ⟨(h.before a ha).1, (h.before a ha).2.trans hlt.le⟩
    · exact List.pairwise_cons.mpr ⟨fun a ha => (h.before a ha).2, h.before_sorted⟩
    · have hcut := slab_cut (S := points c.curr.subspan) hlt.le (SpanOrder.le hb)
      simp only [SraCursor.covered, pieces_cons, SraSpan.extent, ← hcut]
      ac_rfl
  · exact ⟨h, rfl⟩

lemma Sound.cutAfter {e : ℤ} {c : SraCursor σ} (h : c.Sound R) (he : R c.curr.start e) :
    (c.cutAfter e).Sound R ∧
      points ((c.cutAfter e).curr :: (c.cutAfter e).after) = points (c.curr :: c.after) := by
  rw [SraCursor.cutAfter]
  split
  · rename_i hlt
    refine ⟨⟨⟨he, h.curr.subspan⟩, h.before, h.before_sorted, ?_, ?_⟩, ?_⟩
    · refine List.forall_mem_cons.mpr ⟨⟨⟨SpanOrder.of_lt hlt, h.curr.subspan⟩, le_rfl⟩, ?_⟩
      exact fun a ha => ⟨(h.after a ha).1, hlt.le.trans (h.after a ha).2⟩
    · exact List.pairwise_cons.mpr ⟨fun a ha => (h.after a ha).2, h.after_sorted⟩
    · have hcut := slab_cut (S := HasPoints.points c.curr.subspan) (SpanOrder.le he) hlt.le
      simp only [points_list, pieces_cons, SraSpan.extent, ← hcut]
      ac_rfl
  · exact ⟨h, rfl⟩

lemma Sound.covered_cutAfter {e : ℤ} {c : SraCursor σ} (h : c.Sound R) (he : R c.curr.start e) :
    (c.cutAfter e).covered = c.covered := by
  rw [← points_before_curr, cutAfter_before, (h.cutAfter he).2, points_before_curr]

end SraCursor

end AndroidRemote.Rfb
