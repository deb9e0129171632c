import AndroidRemote.Rfb.RegionCursor

/-! The three loops of `rfbregion.c` on span lists compute the union, the intersection and the
difference of what the lists cover. -/

namespace AndroidRemote.Rfb

open Library

variable {σ β : Type} [HasPoints σ β] {R : ℤ → ℤ → Prop} [Subspan σ] [LawfulSubspan R σ]
variable {s : SraSpan σ} {c : SraCursor σ}

section Or

lemma withSubspan_or_covered (hc : c.Sound R) (hs : s.Sound R) :
    (c.withSubspan (Subspan.or c.curr.subspan s.subspan)).covered =
      c.covered ∪ slab c.curr.start c.curr.stop (points s.subspan) := by
  simp only [SraCursor.covered, SraCursor.withSubspan, SraSpan.extent,
    LawfulSubspan.or_points hc.curr.subspan hs.subspan, ← slab_union_right]
  ac_rfl

structure OrState (R : ℤ → ℤ → Prop) [LawfulSubspan R σ] (before rest src : SraSpanList σ) : Prop where
  dest : SraSpanList.Sound R (before.reverse ++ rest)
  source : SraSpanList.Sound R src
  behind : ∀ s ∈ src, ∀ a ∈ before, a.stop ≤ s.start

lemma OrState.passed {before rest src : SraSpanList σ} {s : SraSpan σ} (h : OrState R before rest (s :: src))
    {l : SraSpanList σ} (hl : ∀ a ∈ l, a.stop ≤ s.stop) : ∀ t ∈ src, ∀ a ∈ l, a.stop ≤ t.start :=
  fun t ht a ha => (hl a ha).trans (h.source.tail.2.2 t ht)

lemma OrState.cursor [SpanOrder R] {before ds src : SraSpanList σ} {d : SraSpan σ}
    (h : OrState R before (d :: ds) src) :
    SraCursor.Sound R ⟨before, d, ds⟩ :=
  SraCursor.sound_list.mp h.dest

variable [SpanOrder R]

lemma orHead_spec (hc : c.Sound R) (hs : s.Sound R) (hb : ∀ a ∈ c.before, a.stop ≤ s.start) :
    (orHead s c).Sound R ∧ (orHead s c).covered = c.covered ∪ slab s.start c.curr.start (points s.subspan) ∧
      (orHead s c).curr.start ≤ c.curr.start ∧ (orHead s c).curr.stop = c.curr.stop ∧
      ∀ a ∈ (orHead s c).before, a.stop ≤ max s.start c.curr.start := by
  rw [orHead]
  split
  · rename_i hlt
    have hi := hc.insertBefore (a := ⟨s.start, c.curr.start, s.subspan⟩)
      ⟨SpanOrder.of_lt hlt, hs.subspan⟩ hb le_rfl
    have hg := hi.mergePrevious
    refine ⟨hg.sound, ?_, hg.start, SraCursor.mergePrevious_stop _, ?_⟩
    · rw [hg.covered, SraCursor.covered_insertBefore, SraSpan.extent]
    · intro a ha
      rcases List.mem_cons.mp (hg.before a ha) with rfl | ha
      · exact le_max_right _ _
      · exact (hb a ha).trans (le_max_left _ _)
  · rename_i hle
    exact ⟨hc, by rw [slab_eq_empty (not_lt.mp hle), Set.union_empty], le_rfl, rfl,
      fun a ha => (hb a ha).trans (le_max_left _ _)⟩

lemma orOverlap_spec (hc : c.Sound R) (hs : s.Sound R) (hb : ∀ a ∈ c.before, a.stop ≤ s.start)
    (hsd : s.start < c.curr.stop) (hds : c.curr.start < s.stop) :
    (orOverlap s c).Sound R ∧
      (orOverlap s c).covered ∪ slab (orOverlap s c).curr.stop s.stop (points s.subspan) =
        c.covered ∪ s.extent ∧
      ∀ a ∈ (orOverlap s c).before, a.stop ≤ s.stop := by
  obtain ⟨h₁, hp₁, hstart₁, hstop₁, hb₁⟩ := orHead_spec hc hs hb
  have hcut : R (orHead s c).curr.start s.stop := SpanOrder.of_lt (hstart₁.trans_lt hds)
  obtain ⟨h₂, -⟩ := h₁.cutAfter hcut
  have hp₂ := h₁.covered_cutAfter hcut
  have hbounds : R s.start ((orHead s c).cutAfter s.stop).curr.stop := by
    rw [SraCursor.cutAfter_curr_stop, hstop₁]
    rcases min_choice s.stop c.curr.stop with h | h <;> rw [h]
    · exact hs.bounds
    · exact SpanOrder.of_lt hsd
  obtain ⟨h₃, hp₃⟩ := h₂.cutBefore hbounds
  have hstart₃ := SraCursor.cutBefore_curr_start s.start ((orHead s c).cutAfter s.stop)
  have hstop₃ := SraCursor.cutBefore_stop s.start ((orHead s c).cutAfter s.stop)
  have hb₃ := SraCursor.mem_cutBefore_before (b := s.start) (m := s.stop)
    (c := (orHead s c).cutAfter s.stop) (fun a ha => (hb₁ a (by simpa using ha)).trans (max_le hs.le hds.le)) hs.le
  rw [SraCursor.cutAfter_curr_start] at hstart₃
  rw [SraCursor.cutAfter_curr_stop, hstop₁] at hstop₃
  rw [hp₂, hp₁] at hp₃
  set c₃ := ((orHead s c).cutAfter s.stop).cutBefore s.start
  have h₄ := h₃.withSubspan (LawfulSubspan.or_good h₃.curr.subspan hs.subspan)
  have hg := h₄.mergePrevious.trans h₄.mergePrevious.sound.mergeNext
  refine ⟨hg.sound, ?_, fun a ha => hb₃ a (hg.before a ha)⟩
  have hcov : (orOverlap s c).covered = c.covered ∪ slab s.start c.curr.start (points s.subspan) ∪
      slab c₃.curr.start c₃.curr.stop (points s.subspan) := by
    rw [← hp₃, ← withSubspan_or_covered h₃ hs]
    exact hg.covered
  have hstop : c₃.curr.stop ≤ (orOverlap s c).curr.stop := hg.stop
  rw [hcov]
  refine slab_patch (by omega) (by omega) hds.le (by omega) (by have := hs.le; omega) ?_
  rw [← hcov]
  -- The cursor holds what the source holds, as far as merging took it.
  intro p hp
  obtain ⟨hlow, hmem⟩ := mem_slab.mp hp
  have hstart : (orOverlap s c).curr.start ≤ c₃.curr.start := hg.start
  have hsub : points (orOverlap s c).curr.subspan = points c₃.curr.subspan ∪ points s.subspan := by
    rw [← LawfulSubspan.or_points h₃.curr.subspan hs.subspan]
    exact congrArg points hg.subspan
  have hcurr := h₃.curr.le
  exact Or.inr (Or.inl ⟨⟨by omega, hlow.2⟩, hsub ▸ Or.inr hmem⟩)

section steps

variable {before ds src : SraSpanList σ} {d : SraSpan σ}

lemma OrState.append (h : OrState R before [] (s :: src)) :
    OrState R (s :: before) [] src ∧
      points (s :: before) ∪ points ([] : SraSpanList σ) ∪ points src =
        points before ∪ points ([] : SraSpanList σ) ∪ points (s :: src) := by
  obtain ⟨hs, hsrc, -⟩ := h.source.tail
  have hb := h.behind s (by simp)
  have hd := h.dest
  rw [List.append_nil] at hd
  refine ⟨⟨?_, hsrc, h.passed ?_⟩, ?_⟩
  · simpa using hd.concat hs (by simpa using hb)
  · exact List.forall_mem_cons.mpr ⟨le_rfl, fun a ha => (hb a ha).trans hs.le⟩
  · simp only [points_list, pieces_cons]
    ac_rfl

lemma OrState.insert (h : OrState R before (d :: ds) (s :: src)) (hds : s.stop ≤ d.start) {c : SraCursor σ}
    (hc : c = SraCursor.mergePrevious ⟨s :: before, d, ds⟩) :
    OrState R c.before (c.curr :: c.after) src ∧
      points c.before ∪ points (c.curr :: c.after) ∪ points src =
        points before ∪ points (d :: ds) ∪ points (s :: src) := by
  obtain ⟨hs, hsrc, -⟩ := h.source.tail
  have hb := h.behind s (by simp)
  have hg : SraCursor.Grown R _ c := hc ▸ (h.cursor.insertBefore hs hb hds).mergePrevious
  refine ⟨⟨SraCursor.sound_list.mpr hg.sound, hsrc, h.passed ?_⟩, ?_⟩
  · intro a ha
    rcases List.mem_cons.mp (hg.before a ha) with rfl | ha
    · exact le_rfl
    · exact (hb a ha).trans hs.le
  · rw [c.points_before_curr, hg.covered, SraCursor.covered_insertBefore, ← SraCursor.points_before_curr]
    simp only [points_list, pieces_cons]
    ac_rfl

lemma OrState.overlap_partly (h : OrState R before (d :: ds) (s :: src)) (hov : s.start < d.stop ∧ d.start < s.stop)
    {c : SraCursor σ} (hc : c = orOverlap s ⟨before, d, ds⟩) (hst : c.curr.stop < s.stop) :
    OrState R (c.curr :: c.before) c.after ({ s with start := c.curr.stop } :: src) ∧
      points (c.curr :: c.before) ∪ points c.after ∪ points ({ s with start := c.curr.stop } :: src) =
        points before ∪ points (d :: ds) ∪ points (s :: src) := by
  obtain ⟨hs, hsrc, hle⟩ := h.source.tail
  obtain ⟨ho, hp, -⟩ := orOverlap_spec h.cursor hs (h.behind s (by simp)) hov.1 hov.2
  rw [← hc] at ho hp
  have hcurr : ∀ a ∈ c.curr :: c.before, a.stop ≤ c.curr.stop :=
    List.forall_mem_cons.mpr ⟨le_rfl, fun a ha => (ho.before a ha).2.trans ho.curr.le⟩
  have hrest : points ({ s with start := c.curr.stop } :: src) =
      slab c.curr.stop s.stop (points s.subspan) ∪ points src := pieces_cons
  refine ⟨⟨?_, hsrc.cons ⟨SpanOrder.of_lt hst, hs.subspan⟩ hle, ?_⟩, ?_⟩
  · have hl := SraCursor.sound_list.mpr ho
    simpa [SraCursor.list] using hl
  · exact List.forall_mem_cons.mpr ⟨hcurr, h.passed fun a ha => (hcurr a ha).trans hst.le⟩
  · rw [c.points_curr_after, hrest, ← Set.union_assoc, hp, ← SraCursor.points_before_curr]
    simp only [points_list, pieces_cons]
    ac_rfl

lemma OrState.overlap_all (h : OrState R before (d :: ds) (s :: src)) (hov : s.start < d.stop ∧ d.start < s.stop)
    {c : SraCursor σ} (hc : c = orOverlap s ⟨before, d, ds⟩) (hst : s.stop ≤ c.curr.stop) :
    OrState R c.before (c.curr :: c.after) src ∧
      points c.before ∪ points (c.curr :: c.after) ∪ points src =
        points before ∪ points (d :: ds) ∪ points (s :: src) := by
  obtain ⟨hs, hsrc, -⟩ := h.source.tail
  obtain ⟨ho, hp, hb⟩ := orOverlap_spec h.cursor hs (h.behind s (by simp)) hov.1 hov.2
  rw [← hc] at ho hp hb
  rw [slab_eq_empty hst, Set.union_empty] at hp
  refine ⟨⟨SraCursor.sound_list.mpr ho, hsrc, h.passed hb⟩, ?_⟩
  rw [c.points_before_curr, hp, ← SraCursor.points_before_curr]
  simp only [points_list, pieces_cons]
  ac_rfl

lemma OrState.skip (h : OrState R before (d :: ds) (s :: src)) (hd : d.stop ≤ s.start) :
    OrState R (d :: before) ds (s :: src) ∧
      points (d :: before) ∪ points ds ∪ points (s :: src) =
        points before ∪ points (d :: ds) ∪ points (s :: src) := by
  obtain ⟨hs, -, hle⟩ := h.source.tail
  refine ⟨⟨by simpa using h.dest, h.source, ?_⟩, ?_⟩
  · intro t ht
    refine List.forall_mem_cons.mpr ⟨?_, h.behind t ht⟩
    rcases List.mem_cons.mp ht with rfl | ht
    · exact hd
    · exact hd.trans (hs.le.trans (hle t ht))
  · simp only [points_list, pieces_cons]
    ac_rfl

end steps

lemma sraSpanListOrLoop_spec (before rest src : SraSpanList σ) (h : OrState R before rest src) :
    SraSpanList.Sound R (sraSpanListOrLoop before rest src) ∧
      points (sraSpanListOrLoop before rest src) = points before ∪ points rest ∪ points src := by
  fun_induction sraSpanListOrLoop before rest src with
  | case1 before rest => exact ⟨h.dest, by simp [points_list]⟩
  | case2 before s src ih =>
    obtain ⟨hstate, hpoints⟩ := h.append
    exact ⟨(ih hstate).1, (ih hstate).2.trans hpoints⟩
  | case3 before d ds s src hds c ih =>
    obtain ⟨hstate, hpoints⟩ := h.insert hds rfl
    exact ⟨(ih hstate).1, (ih hstate).2.trans hpoints⟩
  | case4 before d ds s src hds hov c hst _ ih =>
    obtain ⟨hstate, hpoints⟩ := h.overlap_partly hov rfl hst
    exact ⟨(ih hstate).1, (ih hstate).2.trans hpoints⟩
  | case5 before d ds s src hds hov c hst ih =>
    obtain ⟨hstate, hpoints⟩ := h.overlap_all hov rfl (not_lt.mp hst)
    exact ⟨(ih hstate).1, (ih hstate).2.trans hpoints⟩
  | case6 before d ds s src hds hov ih =>
    have hd : d.stop ≤ s.start := by
      by_contra hlt
      exact hov ⟨not_le.mp hlt, not_le.mp hds⟩
    obtain ⟨hstate, hpoints⟩ := h.skip hd
    exact ⟨(ih hstate).1, (ih hstate).2.trans hpoints⟩

lemma sraSpanListOr_spec {dest src : SraSpanList σ} (hd : SraSpanList.Sound R dest) (hs : SraSpanList.Sound R src) :
    SraSpanList.Sound R (sraSpanListOr dest src) ∧ points (sraSpanListOr dest src) = points dest ∪ points src := by
  have h := sraSpanListOrLoop_spec [] dest src ⟨hd, hs, fun _ _ _ h => nomatch h⟩
  simpa [points_list, sraSpanListOr] using h

end Or

section And

structure AndState (R : ℤ → ℤ → Prop) [LawfulSubspan R σ] (before rest src : SraSpanList σ) : Prop where
  dest : SraSpanList.Sound R (before.reverse ++ rest)
  source : SraSpanList.Sound R src

variable [SpanOrder R]

lemma inter_points_behind {a : SraSpan σ} {l src : SraSpanList σ} (h : SraSpanList.Sound R (s :: src))
    (ha : a.stop ≤ s.start) : points (a :: l) ∩ points (s :: src) = points l ∩ points (s :: src) := by
  obtain ⟨hs, -, hle⟩ := h.tail
  ext ⟨p, q⟩
  have hsrc := le_of_mem_points (p := p) (q := q) hle
  have := hs.le
  simp only [points_list, pieces_cons, Set.mem_inter_iff, Set.mem_union, mem_extent] at hsrc ⊢
  grind

lemma andOverlap_spec {src : SraSpanList σ} (hc : c.Sound R) (h : SraSpanList.Sound R (s :: src))
    (hsd : s.start < c.curr.stop) (hds : c.curr.start < s.stop) :
    (andOverlap s c).Sound R ∧ (andOverlap s c).before = c.before ∧ (andOverlap s c).curr.stop ≤ s.stop ∧
      points (c.curr :: c.after) ∩ points (s :: src) =
        slab (andOverlap s c).curr.start (andOverlap s c).curr.stop
          (points (andOverlap s c).curr.subspan ∩ points s.subspan) ∪
        (points (andOverlap s c).after ∩ points (s :: src)) := by
  obtain ⟨hs, -, hle⟩ := h.tail
  have h₁ := hc.dropBefore (SpanOrder.of_lt (R := R) hsd)
  have hcut : R (c.dropBefore s.start).curr.start s.stop := by
    rw [SraCursor.dropBefore_curr]
    rcases max_choice c.curr.start s.start with hm | hm <;> rw [hm]
    · exact SpanOrder.of_lt hds
    · exact hs.bounds
  obtain ⟨h₂, hp₂⟩ := h₁.cutAfter hcut
  have hstart : (andOverlap s c).curr.start = max c.curr.start s.start := by simp [andOverlap]
  have hstop : (andOverlap s c).curr.stop = min s.stop c.curr.stop := by simp [andOverlap]
  refine ⟨h₂, by simp [andOverlap], by omega, ?_⟩
  ext ⟨p, q⟩
  have hx : (p, q) ∈ points ((andOverlap s c).curr :: (andOverlap s c).after) ↔ _ := Set.ext_iff.mp hp₂ (p, q)
  have hsrc := le_of_mem_points (p := p) (q := q) hle
  have hles := hs.le
  simp only [points_list, pieces_cons, Set.mem_inter_iff, Set.mem_union, mem_extent, mem_slab,
    SraCursor.dropBefore_curr, SraCursor.dropBefore_after] at hx hsrc ⊢
  rw [hstart, hstop] at hx ⊢
  grind

lemma andKept_spec {t : σ} (hc : c.Sound R) (ht : LawfulSubspan.good R t) :
    (c.withSubspan t).mergePrevious.Sound R ∧ (c.withSubspan t).mergePrevious.after = c.after ∧
      points ((c.withSubspan t).mergePrevious.curr :: (c.withSubspan t).mergePrevious.before) =
        points c.before ∪ slab c.curr.start c.curr.stop (points t) := by
  have h := hc.withSubspan ht
  refine ⟨h.mergePrevious.sound, rfl, h.points_mergePrevious.trans ?_⟩
  simp only [points_list, pieces_cons, Set.union_comm, SraCursor.withSubspan, SraSpan.extent]

section steps

variable {before ds src : SraSpanList σ} {d : SraSpan σ}

lemma AndState.cursor (h : AndState R before (d :: ds) src) : SraCursor.Sound R ⟨before, d, ds⟩ :=
  SraCursor.sound_list.mp h.dest

lemma AndState.passed (h : AndState R before (d :: ds) (s :: src)) (hds : s.stop ≤ d.start) :
    AndState R before (d :: ds) src ∧ points (d :: ds) ∩ points (s :: src) = points (d :: ds) ∩ points src := by
  have hc := h.cursor
  refine ⟨⟨h.dest, h.source.tail.2.1⟩, inter_points_passed ?_⟩
  exact List.forall_mem_cons.mpr ⟨hds, fun a ha => hds.trans (hc.curr.le.trans (hc.after a ha).2)⟩

variable {r : σ × Bool}

lemma AndState.drop (h : AndState R before (d :: ds) (s :: src)) (hsd : s.start < d.stop) (hds : d.start < s.stop)
    (hc : c = andOverlap s ⟨before, d, ds⟩) (hr : r = Subspan.and c.curr.subspan s.subspan) (hnone : r.2 = false) :
    AndState R c.before c.after (s :: src) ∧
      points c.before ∪ points c.after ∩ points (s :: src) =
        points before ∪ points (d :: ds) ∩ points (s :: src) := by
  obtain ⟨ho, hb, -, hp⟩ := andOverlap_spec h.cursor h.source hsd hds
  rw [← hc] at ho hb hp
  have hempty := LawfulSubspan.and_empty ho.curr.subspan h.source.tail.1.subspan (hr ▸ hnone)
  refine ⟨⟨ho.without, h.source⟩, ?_⟩
  rw [hp, hempty, slab_empty, Set.empty_union, hb]

variable {c' : SraCursor σ}

lemma AndState.keep (h : AndState R before (d :: ds) (s :: src)) (hsd : s.start < d.stop) (hds : d.start < s.stop)
    (hc : c = andOverlap s ⟨before, d, ds⟩) (hr : r = Subspan.and c.curr.subspan s.subspan) (hsome : ¬ r.2 = false)
    (hc' : c' = (c.withSubspan r.1).mergePrevious) :
    AndState R (c'.curr :: c'.before) c'.after (s :: src) ∧ (∀ a ∈ c'.after, c'.curr.stop ≤ a.start) ∧
      points (c'.curr :: c'.before) ∪ points c'.after ∩ points (s :: src) =
        points before ∪ points (d :: ds) ∩ points (s :: src) := by
  obtain ⟨ho, hb, -, hp⟩ := andOverlap_spec h.cursor h.source hsd hds
  rw [← hc] at ho hb hp
  have hs := h.source.tail.1
  have hgood : LawfulSubspan.good R r.1 :=
    hr ▸ LawfulSubspan.and_good ho.curr.subspan hs.subspan (by simpa [← hr] using hsome)
  obtain ⟨hk, ha, hp'⟩ := andKept_spec ho hgood
  rw [← hc'] at hk ha hp'
  refine ⟨⟨hk.passed, h.source⟩, fun a ha => (hk.after a ha).2, ?_⟩
  rw [hp, ← LawfulSubspan.and_points ho.curr.subspan hs.subspan, ← hr, hp', ha, hb, Set.union_assoc]

end steps

lemma sraSpanListAndLoop_spec (before rest src : SraSpanList σ) (h : AndState R before rest src) :
    SraSpanList.Sound R (sraSpanListAndLoop before rest src) ∧
      points (sraSpanListAndLoop before rest src) = points before ∪ points rest ∩ points src := by
  fun_induction sraSpanListAndLoop before rest src with
  | case1 before rest => exact ⟨h.dest.sublist (List.sublist_append_left _ _), by simp [points_list]⟩
  | case2 before src hsrc => exact ⟨h.dest.sublist (List.sublist_append_left _ _), by simp [points_list]⟩
  | case3 before d ds s src hds ih =>
    obtain ⟨hstate, hpoints⟩ := h.passed hds
    rw [hpoints]
    exact ih hstate
  | case4 before d ds s src hds hsd _ ih =>
    rw [inter_points_behind h.source hsd]
    exact ih ⟨h.dest.sublist (by simp), h.source⟩
  | case5 before d ds s src hds hsd c _ r hr ih =>
    obtain ⟨hstate, hpoints⟩ := h.drop (not_le.mp hsd) (not_le.mp hds) rfl rfl hr
    exact ⟨(ih hstate).1, (ih hstate).2.trans hpoints⟩
  | case6 before d ds s src hds hsd c _ r hr c' hle hge ih =>
    obtain ⟨hstate, hafter, hpoints⟩ := h.keep (not_le.mp hsd) (not_le.mp hds) rfl rfl hr rfl
    rw [inter_points_passed fun a ha => hge.trans (hafter a ha)] at hpoints
    have hnext : AndState R (c'.curr :: c'.before) c'.after src := ⟨hstate.dest, hstate.source.tail.2.1⟩
    exact ⟨(ih hnext).1, (ih hnext).2.trans hpoints⟩
  | case7 before d ds s src hds hsd c _ r hr c' hle hge ih =>
    obtain ⟨hstate, -, hpoints⟩ := h.keep (not_le.mp hsd) (not_le.mp hds) rfl rfl hr rfl
    exact ⟨(ih hstate).1, (ih hstate).2.trans hpoints⟩
  | case8 before d ds s src hds hsd c _ r hr c' hle ih =>
    obtain ⟨-, -, hstop, -⟩ := andOverlap_spec h.cursor h.source (not_le.mp hsd) (not_le.mp hds)
    rw [SraCursor.mergePrevious_stop] at hle
    exact absurd hstop hle

lemma sraSpanListAnd_spec {dest src : SraSpanList σ} (hd : SraSpanList.Sound R dest)
    (hs : SraSpanList.Sound R src) :
    SraSpanList.Sound R (sraSpanListAnd dest src).1 ∧
      points (sraSpanListAnd dest src).1 = points dest ∩ points src := by
  have h := sraSpanListAndLoop_spec [] dest src ⟨hd, hs⟩
  simpa [points_list, sraSpanListAnd] using h

end And

section Subtract

structure SubtractState (R : ℤ → ℤ → Prop) [LawfulSubspan R σ] (before rest src : SraSpanList σ) : Prop where
  dest : SraSpanList.Sound R (before.reverse ++ rest)
  source : SraSpanList.Sound R src
  cleared : ∀ a ∈ before, ∀ x ∈ a.extent, x ∉ points src

lemma SubtractState.cursor [SpanOrder R] {before ds src : SraSpanList σ} {d : SraSpan σ}
    (h : SubtractState R before (d :: ds) src) :
    SraCursor.Sound R ⟨before, d, ds⟩ :=
  SraCursor.sound_list.mp h.dest

lemma SubtractState.advance {before rest src : SraSpanList σ} (h : SubtractState R before rest (s :: src)) :
    ∀ a ∈ before, ∀ x ∈ a.extent, x ∉ points src := by
  intro a ha x hx
  have hd := h.cleared a ha x hx
  rw [points_cons, Set.mem_union, not_or] at hd
  exact hd.2

lemma SubtractState.disjoint {before rest src : SraSpanList σ} (h : SubtractState R before rest src) :
    ∀ x ∈ points before, x ∉ points src := by
  rintro x ⟨a, ha, hx⟩
  exact h.cleared a ha x hx

lemma SubtractState.finish {before src : SraSpanList σ} (h : SubtractState R before [] src) :
    SraSpanList.Sound R before.reverse ∧
      points before.reverse = (points before ∪ points ([] : SraSpanList σ)) \ points src := by
  have hd := h.dest
  rw [List.append_nil] at hd
  refine ⟨hd, ?_⟩
  rw [points_reverse, points_nil, Set.union_empty]
  exact (sdiff_eq_left.mpr (Set.disjoint_left.mpr fun x hx => h.disjoint x hx)).symm

variable [SpanOrder R]

lemma disjoint_of_stop_le {a : SraSpan σ} {src : SraSpanList σ} (h : SraSpanList.Sound R (s :: src))
    (ha : a.stop ≤ s.start) : ∀ x ∈ a.extent, x ∉ points (s :: src) := by
  obtain ⟨hs, -, hle⟩ := h.tail
  have hall : ∀ b ∈ s :: src, s.start ≤ b.start :=
    List.forall_mem_cons.mpr ⟨le_rfl, fun b hb => hs.le.trans (hle b hb)⟩
  rintro ⟨p, q⟩ hp hq
  have := le_of_mem_points hall hq
  have := hp.1.2
  simp only at this
  omega

lemma subtractOverlap_spec {rest src : SraSpanList σ} (h : SubtractState R c.before rest (s :: src))
    (hc : c.Sound R) (hsd : s.start < c.curr.stop) (hds : c.curr.start < s.stop) :
    (subtractOverlap s c).Sound R ∧ (subtractOverlap s c).covered = c.covered ∧
      s.start ≤ (subtractOverlap s c).curr.start ∧ (subtractOverlap s c).curr.stop ≤ s.stop ∧
      ∀ a ∈ (subtractOverlap s c).before, ∀ x ∈ a.extent, x ∉ points (s :: src) := by
  obtain ⟨h₁, hp₁⟩ := hc.cutBefore (SpanOrder.of_lt (R := R) hsd)
  have hcut : R (c.cutBefore s.start).curr.start s.stop := by
    rw [SraCursor.cutBefore_curr_start]
    rcases max_choice c.curr.start s.start with hm | hm <;> rw [hm]
    · exact SpanOrder.of_lt hds
    · exact h.source.tail.1.bounds
  obtain ⟨h₂, -⟩ := h₁.cutAfter hcut
  refine ⟨h₂, (h₁.covered_cutAfter hcut).trans hp₁, by simp [subtractOverlap], by simp [subtractOverlap], ?_⟩
  rw [subtractOverlap, SraCursor.cutAfter_before, SraCursor.cutBefore]
  split
  · exact List.forall_mem_cons.mpr ⟨disjoint_of_stop_le h.source le_rfl, h.cleared⟩
  · exact h.cleared

lemma subtractKept_spec (src : SraSpanList σ) (hc : c.Sound R) (hs : s.Sound R)
    (hstart : s.start ≤ c.curr.start) (hstop : c.curr.stop ≤ s.stop) {r : σ × Bool}
    (hr : r = Subspan.subtract c.curr.subspan s.subspan) (hleft : ¬ (Subspan.null σ = true ∨ r.2 = false)) :
    SraCursor.Grown R (c.withSubspan r.1) (c.withSubspan r.1).mergePrevious.mergeNext ∧
      points (c.withSubspan r.1).mergePrevious.mergeNext.curr.subspan = points c.curr.subspan \ points s.subspan ∧
      (c.withSubspan r.1).mergePrevious.mergeNext.covered \ points (s :: src) = c.covered \ points (s :: src) := by
  have hnull : Subspan.null σ = false := by simpa using (not_or.mp hleft).1
  have hp : points r.1 = points c.curr.subspan \ points s.subspan :=
    hr ▸ LawfulSubspan.subtract_points hc.curr.subspan hs.subspan hnull
  have hgood : LawfulSubspan.good R r.1 := by
    have hflag := (not_or.mp hleft).2
    subst hr
    exact LawfulSubspan.subtract_good hc.curr.subspan hs.subspan hnull (by simpa using hflag)
  have h := hc.withSubspan hgood
  have hg := h.mergePrevious.trans h.mergePrevious.sound.mergeNext
  refine ⟨hg, (congrArg points hg.subspan).trans hp, ?_⟩
  rw [hg.covered]
  ext ⟨p, q⟩
  simp only [SraCursor.covered, SraCursor.withSubspan, points_cons, Set.mem_sdiff, Set.mem_union, mem_extent, hp]
  grind

section steps

variable {before ds src : SraSpanList σ} {d : SraSpan σ}

lemma SubtractState.passed (h : SubtractState R before (d :: ds) (s :: src)) (hds : s.stop ≤ d.start) :
    SubtractState R before (d :: ds) src ∧
      (points before ∪ points (d :: ds)) \ points src = (points before ∪ points (d :: ds)) \ points (s :: src) := by
  have hc := h.cursor
  refine ⟨⟨h.dest, h.source.tail.2.1, h.advance⟩, ?_⟩
  have hge : ∀ a ∈ d :: ds, s.stop ≤ a.start :=
    List.forall_mem_cons.mpr ⟨hds, fun a ha => hds.trans (hc.curr.le.trans (hc.after a ha).2)⟩
  ext ⟨p, q⟩
  have hl := le_of_mem_points (p := p) (q := q) hge
  have hb : (p, q) ∈ points before → (p, q) ∉ points (s :: src) := h.disjoint (p, q)
  simp only [points_cons s, Set.mem_sdiff, Set.mem_union, mem_extent] at hb ⊢
  grind

lemma SubtractState.skip (h : SubtractState R before (d :: ds) (s :: src)) (hd : d.stop ≤ s.start) :
    SubtractState R (d :: before) ds (s :: src) ∧
      (points (d :: before) ∪ points ds) \ points (s :: src) =
        (points before ∪ points (d :: ds)) \ points (s :: src) := by
  refine ⟨⟨by simpa using h.dest, h.source,
    List.forall_mem_cons.mpr ⟨disjoint_of_stop_le h.source hd, h.cleared⟩⟩, ?_⟩
  rw [points_cons d, points_cons d, Set.union_comm d.extent, Set.union_assoc]

variable {r : σ × Bool}

lemma SubtractState.drop (h : SubtractState R before (d :: ds) (s :: src)) (hsd : s.start < d.stop)
    (hds : d.start < s.stop)
    (hc : c = subtractOverlap s ⟨before, d, ds⟩) (hr : r = Subspan.subtract c.curr.subspan s.subspan)
    (hnone : Subspan.null σ = true ∨ r.2 = false) :
    SubtractState R c.before c.after (s :: src) ∧
      (points c.before ∪ points c.after) \ points (s :: src) =
        (points before ∪ points (d :: ds)) \ points (s :: src) := by
  obtain ⟨ho, hp, hstart, hstop, hclear⟩ := subtractOverlap_spec (c := ⟨before, d, ds⟩) h h.cursor hsd hds
  rw [← hc] at ho hp hstart hstop hclear
  have hempty := LawfulSubspan.subtract_empty ho.curr.subspan h.source.tail.1.subspan (hr ▸ hnone)
  refine ⟨⟨ho.without, h.source, hclear⟩, ?_⟩
  rw [(SraCursor.points_before_curr ⟨before, d, ds⟩).trans hp.symm]
  ext ⟨p, q⟩
  have hq := Set.ext_iff.mp hempty q
  simp only [SraCursor.covered, points_list, pieces_cons, Set.mem_sdiff, Set.mem_union, mem_extent,
    Set.mem_empty_iff_false] at hq ⊢
  grind

variable {c' : SraCursor σ}

lemma SubtractState.cut_partly (h : SubtractState R before (d :: ds) (s :: src)) (hsd : s.start < d.stop)
    (hds : d.start < s.stop) (hc : c = subtractOverlap s ⟨before, d, ds⟩)
    (hr : r = Subspan.subtract c.curr.subspan s.subspan) (hleft : ¬ (Subspan.null σ = true ∨ r.2 = false))
    (hc' : c' = (c.withSubspan r.1).mergePrevious.mergeNext) (hst : c'.curr.stop < s.stop) :
    SubtractState R (c'.curr :: c'.before) c'.after (s :: src) ∧
      (points (c'.curr :: c'.before) ∪ points c'.after) \ points (s :: src) =
        (points before ∪ points (d :: ds)) \ points (s :: src) := by
  obtain ⟨ho, hp, hstart, hstop, hclear⟩ := subtractOverlap_spec (c := ⟨before, d, ds⟩) h h.cursor hsd hds
  rw [← hc] at ho hp hstart hstop hclear
  obtain ⟨hs, -, hsrc⟩ := h.source.tail
  obtain ⟨hg, hpoints, hk⟩ := subtractKept_spec src ho hs hstart hstop hr hleft
  rw [← hc'] at hg hpoints hk
  refine ⟨⟨hg.sound.passed, h.source, List.forall_mem_cons.mpr
    ⟨?_, fun a ha => hclear a (hg.before a ha)⟩⟩, ?_⟩
  · rintro ⟨p, q⟩ hx hy
    have hl := le_of_mem_points (p := p) (q := q) hsrc
    have hq := Set.ext_iff.mp hpoints q
    simp only [points_cons, Set.mem_sdiff, Set.mem_union, mem_extent] at hx hy hq
    grind
  · rw [c'.points_curr_after, hk, hp, SraCursor.points_before_curr ⟨before, d, ds⟩]

lemma SubtractState.cut_all (h : SubtractState R before (d :: ds) (s :: src)) (hsd : s.start < d.stop)
    (hds : d.start < s.stop) (hc : c = subtractOverlap s ⟨before, d, ds⟩)
    (hr : r = Subspan.subtract c.curr.subspan s.subspan) (hleft : ¬ (Subspan.null σ = true ∨ r.2 = false))
    (hc' : c' = (c.withSubspan r.1).mergePrevious.mergeNext) (hst : s.stop ≤ c'.curr.stop) :
    SubtractState R c'.before (c'.curr :: c'.after) src ∧
      (points c'.before ∪ points (c'.curr :: c'.after)) \ points src =
        (points before ∪ points (d :: ds)) \ points (s :: src) := by
  obtain ⟨ho, hp, hstart, hstop, hclear⟩ := subtractOverlap_spec (c := ⟨before, d, ds⟩) h h.cursor hsd hds
  rw [← hc] at ho hp hstart hstop hclear
  obtain ⟨hs, hsource, -⟩ := h.source.tail
  obtain ⟨hg, hpoints, hk⟩ := subtractKept_spec src ho hs hstart hstop hr hleft
  rw [← hc'] at hg hpoints hk
  have hbefore : SubtractState R c'.before (c'.curr :: c'.after) (s :: src) :=
    ⟨SraCursor.sound_list.mpr hg.sound, h.source, fun a ha => hclear a (hg.before a ha)⟩
  refine ⟨⟨hbefore.dest, hsource, hbefore.advance⟩, ?_⟩
  rw [c'.points_before_curr, (SraCursor.points_before_curr ⟨before, d, ds⟩).trans hp.symm, ← hk]
  ext ⟨p, q⟩
  have hafter : (p, q) ∈ points c'.after → s.stop ≤ p := fun hx =>
    le_of_mem_points (fun a ha => hst.trans (hg.sound.after a ha).2) hx
  have hb : (p, q) ∈ points c'.before → (p, q) ∉ points (s :: src) := hbefore.disjoint (p, q)
  have hq := Set.ext_iff.mp hpoints q
  simp only [SraCursor.covered, points_list, pieces_cons, Set.mem_sdiff, Set.mem_union, mem_extent] at hafter hb hq ⊢
  grind

end steps

lemma sraSpanListSubtractLoop_spec (before rest src : SraSpanList σ) (h : SubtractState R before rest src) :
    SraSpanList.Sound R (sraSpanListSubtractLoop before rest src) ∧
      points (sraSpanListSubtractLoop before rest src) = (points before ∪ points rest) \ points src := by
  fun_induction sraSpanListSubtractLoop before rest src with
  | case1 before rest => exact ⟨h.dest, by simp [points_list]⟩
  | case2 before src hsrc => exact h.finish
  | case3 before d ds s src hds ih =>
    obtain ⟨hstate, hpoints⟩ := h.passed hds
    exact ⟨(ih hstate).1, (ih hstate).2.trans hpoints⟩
  | case4 before d ds s src hds hsd _ ih =>
    obtain ⟨hstate, hpoints⟩ := h.skip hsd
    exact ⟨(ih hstate).1, (ih hstate).2.trans hpoints⟩
  | case5 before d ds s src hds hsd c _ r hr ih =>
    obtain ⟨hstate, hpoints⟩ := h.drop (not_le.mp hsd) (not_le.mp hds) rfl rfl hr
    exact ⟨(ih hstate).1, (ih hstate).2.trans hpoints⟩
  | case6 before d ds s src hds hsd c _ r hr c' hle _ ih =>
    obtain ⟨hstate, hpoints⟩ := h.cut_partly (not_le.mp hsd) (not_le.mp hds) rfl rfl hr rfl hle
    exact ⟨(ih hstate).1, (ih hstate).2.trans hpoints⟩
  | case7 before d ds s src hds hsd c _ r hr c' hle ih =>
    obtain ⟨hstate, hpoints⟩ := h.cut_all (not_le.mp hsd) (not_le.mp hds) rfl rfl hr rfl (not_lt.mp hle)
    exact ⟨(ih hstate).1, (ih hstate).2.trans hpoints⟩

lemma sraSpanListSubtract_spec {dest src : SraSpanList σ} (hd : SraSpanList.Sound R dest)
    (hs : SraSpanList.Sound R src) :
    SraSpanList.Sound R (sraSpanListSubtract dest src).1 ∧
      points (sraSpanListSubtract dest src).1 = points dest \ points src := by
  have h := sraSpanListSubtractLoop_spec [] dest src ⟨hd, hs, fun _ h => nomatch h⟩
  simpa [sraSpanListSubtract] using h

end Subtract

end AndroidRemote.Rfb
