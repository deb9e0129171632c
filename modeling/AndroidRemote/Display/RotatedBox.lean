import AndroidRemote.Display.DirtyBox
import AndroidRemote.Display.Rotate

/-! The rectangle that `update_screen` marks when the picture is rotated, against the pixels of
the VNC screen that the call has changed. -/

namespace AndroidRemote.Display

open AndroidRemote.Library

variable {out : Out}

lemma noted_contains_iff {vs : List Visit} {x y : ℤ} :
    (vs.foldl Box.note emptyBox).rect.Contains x y ↔
      ((9999 ≤ x ∨ ∃ v ∈ vs, v.spotX ≤ x) ∧ (x ≤ -1 ∨ ∃ v ∈ vs, x ≤ v.spotX)) ∧
        (9999 ≤ y ∨ ∃ v ∈ vs, v.spotY ≤ y) ∧ (y ≤ -1 ∨ ∃ v ∈ vs, y ≤ v.spotY) := by
  rw [Box.foldl_note, Rect.Contains, Box.rect, ← runningMin_le_iff, ← runningMin_le_iff,
    ← le_runningMax_iff, ← le_runningMax_iff, Int.lt_add_one_iff, Int.lt_add_one_iff]
  rfl

def shownAt (r : ℕ) (s : FbVarScreeninfo) (i j : ℕ) : ℤ × ℤ :=
  if r = 90 then (s.yres - 1 - j, i)
  else if r = 180 then (s.xres - 1 - i, s.yres - 1 - j)
  else (j, s.xres - 1 - i)

lemma forall_shown_iff {r w h : ℕ} {s : FbVarScreeninfo} (hr : r = 90 ∨ r = 180 ∨ r = 270)
    (hs : (w, h) = turnedSize r s) {P : ℤ × ℤ → Prop} :
    (∀ vy < h, ∀ vx < w, P ((vx : ℕ), (vy : ℕ))) ↔
      ∀ i < s.xres, ∀ j < s.yres, P (shownAt r s i j) := by
  constructor
  · intro hall i hi j hj
    rcases hr with rfl | rfl | rfl <;> cases hs
    · have hp := hall i hi (s.yres - 1 - j) (by omega)
      rwa [show ((s.yres - 1 - j : ℕ) : ℤ) = s.yres - 1 - j by omega] at hp
    · have hp := hall (s.yres - 1 - j) (by omega) (s.xres - 1 - i) (by omega)
      rwa [show ((s.yres - 1 - j : ℕ) : ℤ) = s.yres - 1 - j by omega,
        show ((s.xres - 1 - i : ℕ) : ℤ) = s.xres - 1 - i by omega] at hp
    · have hp := hall (s.xres - 1 - i) (by omega) j hj
      rwa [show ((s.xres - 1 - i : ℕ) : ℤ) = s.xres - 1 - i by omega] at hp
  · intro hall vy hy vx hx
    rcases hr with rfl | rfl | rfl <;> cases hs
    · have hp := hall vy hy (s.yres - 1 - vx) (by omega)
      rwa [shownAt, if_pos rfl, show (s.yres : ℤ) - 1 - (s.yres - 1 - vx : ℕ) = vx by omega] at hp
    · have hp := hall (s.xres - 1 - vx) (by omega) (s.yres - 1 - vy) (by omega)
      rwa [shownAt, if_neg (by decide), if_pos rfl, show (s.yres : ℤ) - 1 - (s.yres - 1 - vy : ℕ) = vy by omega,
        show (s.xres : ℤ) - 1 - (s.xres - 1 - vx : ℕ) = vx by omega] at hp
    · have hp := hall (s.xres - 1 - vy) (by omega) vx hx
      rwa [shownAt, if_neg (by decide), if_neg (by decide),
        show (s.xres : ℤ) - 1 - (s.xres - 1 - vy : ℕ) = vy by omega] at hp

lemma destination_shownAt {r w h : ℕ} {s : FbVarScreeninfo} (hr : r = 90 ∨ r = 180 ∨ r = 270)
    (hs : (w, h) = turnedSize r s) (i j : ℕ) :
    rowMajor w (shownAt r s i j).1 (shownAt r s i j).2 = destination r s i j := by
  rw [destination_eq_rowMajor hr]
  rcases hr with rfl | rfl | rfl <;> cases hs <;> rfl

lemma forall_last_iff {S : ℕ → Prop} {n a : ℕ} (hn : ∀ j, S j → j < n) :
    (∀ j, S j → a + j < n ∨ ∃ j', S j' ∧ j < j') ↔ ∀ j, S j → a + j < n := by
  constructor
  · intro h j hj
    induction hd : n - j using Nat.strong_induction_on generalizing j with
    | _ d ih =>
      rcases h j hj with hlast | ⟨j', hj', hlt⟩
      · exact hlast
      · have hbound := hn j hj
        have hlater := ih (n - j') (by omega) j' hj' rfl
        omega
  · exact fun h j hj => .inl (h j hj)

namespace FbVncServer

variable (g : FbVncServer out)

def Finds (i j : ℕ) : Prop :=
  let v := g.visitAt g.rotation (g.shownColumn g.i j) i j
  g.cmpbuf v.cell ≠ g.fbmmap (g.base + v.source)

lemma found180 {v : Visit} (hr : g.rotation = 180) :
    v ∈ g.found true g.cmpbuf (g.visitList g.rotation g.i) ↔
      ∃ j < g.scrinfo.yres, ∃ i < g.scrinfo.xres, g.Finds i j ∧
        g.visitAt g.rotation (g.shownColumn g.i j) i j = v := by
  have hcells : ((g.visitList 180 g.i).map Visit.cell).Nodup := by
    apply visitList_distinct
    intro i hi j hj i' hi' j' hj' heq
    obtain ⟨hx, hy⟩ := destination_injective (r := 180) (by omega) hi hj (by omega) (by omega) heq
    omega
  rw [hr, found_distinct _ _ _ (fun _ => hcells), List.mem_filter, mem_visitList]
  simp only [Finds, hr, decide_eq_true_eq]
  constructor
  · rintro ⟨⟨j, hj, i, hi, rfl⟩, hne⟩
    exact ⟨j, hj, i, hi, hne, rfl⟩
  · rintro ⟨j, hj, i, hi, hne, rfl⟩
    exact ⟨⟨j, hj, i, hi, rfl⟩, hne⟩

lemma firsts_distinct (hr : g.rotation = 90 ∨ g.rotation = 270) (c : ℕ → ℤ) :
    (((List.range g.scrinfo.yres).map (fun j => g.visitAt g.rotation (c j) 0 j)).map Visit.cell).Nodup := by
  rw [List.map_map]
  refine List.Nodup.map_on ?_ List.nodup_range
  intro j hj j' hj' heq
  rw [List.mem_range] at hj hj'
  rcases hr with hr | hr <;> simp only [hr] at heq
  · have hcell : rowMajor g.scrinfo.yres (g.scrinfo.yres - 1 - j) (c j) =
        rowMajor g.scrinfo.yres (g.scrinfo.yres - 1 - j') (c j') := heq
    obtain ⟨hx, -⟩ := rowMajor_injective (by omega) (by omega) (by omega) (by omega) hcell
    omega
  · have hcell : rowMajor g.scrinfo.yres j (g.scrinfo.xres - 1 - c j) =
        rowMajor g.scrinfo.yres j' (g.scrinfo.xres - 1 - c j') := heq
    obtain ⟨hx, -⟩ := rowMajor_injective (by omega) (by omega) (by omega) (by omega) hcell
    omega

lemma found_turned {v : Visit} (hr : g.rotation = 90 ∨ g.rotation = 270) :
    v ∈ g.found true g.cmpbuf (g.visitList g.rotation g.i) ↔
      0 < g.scrinfo.xres ∧ ∃ j < g.scrinfo.yres, g.Finds 0 j ∧
        g.visitAt g.rotation (g.shownColumn g.i j) 0 j = v := by
  cases hx : g.scrinfo.xres with
  | zero =>
    have hnone : g.visitList g.rotation g.i = [] := by
      simp [visitList, visitRow, hx, List.flatMap_eq_nil_iff]
    simp [hnone, found]
  | succ n =>
    let first (j : ℕ) : Visit := g.visitAt g.rotation (g.shownColumn g.i j) 0 j
    let rest (j : ℕ) : List Visit :=
      (List.range n).map (fun i => g.visitAt g.rotation (g.shownColumn g.i j) (i + 1) j)
    have hrows : g.visitList g.rotation g.i =
        (List.range g.scrinfo.yres).flatMap (fun j => first j :: rest j) := by
      simp [visitList, visitRow, hx, first, rest, List.range_succ_eq_map, Function.comp_def]
    have hsame : ∀ j, ∀ w ∈ rest j, w.cell = (first j).cell ∧ w.source = (first j).source := by
      intro j w hw
      obtain ⟨i, -, rfl⟩ := List.mem_map.mp hw
      rcases hr with hr | hr <;> simp [first, visitAt, hr]
    rw [hrows, g.found_rows _ _ first rest hsame,
      found_distinct _ _ _ (fun _ => g.firsts_distinct hr (g.shownColumn g.i)), List.mem_filter,
      List.mem_map]
    simp only [List.mem_range, decide_eq_true_eq, Nat.succ_pos, true_and]
    constructor
    · rintro ⟨⟨j, hj, rfl⟩, hne⟩
      exact ⟨j, hj, hne, rfl⟩
    · rintro ⟨j, hj, hne, rfl⟩
      exact ⟨⟨j, hj, rfl⟩, hne⟩

lemma mem_found (hr : g.rotation = 90 ∨ g.rotation = 180 ∨ g.rotation = 270) {v : Visit} :
    v ∈ g.found true g.cmpbuf (g.visitList g.rotation g.i) ↔
      ∃ j < g.scrinfo.yres, ∃ i < g.scrinfo.xres, (g.rotation = 180 ∨ i = 0) ∧ g.Finds i j ∧
        g.visitAt g.rotation (g.shownColumn g.i j) i j = v := by
  by_cases h180 : g.rotation = 180
  · rw [found180 g h180]
    simp only [h180, true_or, true_and]
  · rw [found_turned g (by omega)]
    simp only [h180, false_or]
    constructor
    · rintro ⟨hx, j, hj, hfind, hv⟩
      exact ⟨j, hj, 0, hx, rfl, hfind, hv⟩
    · rintro ⟨j, hj, i, hi, rfl, hfind, hv⟩
      exact ⟨hi, j, hj, hfind, hv⟩

def Copied (i j : ℕ) : Prop := destination g.rotation g.scrinfo i j < g.reached

lemma Copied.later (hr : g.rotation = 180) {i j i' j' : ℕ} (hcopied : g.Copied i j) (hi : i < g.scrinfo.xres)
    (hlt : j < j') : g.Copied i' j' := by
  rw [Copied, hr, destination_eq_rowMajor (by omega)] at hcopied ⊢
  have hrow : ((g.scrinfo.yres - 1 - j' : ℤ) + 1) * g.scrinfo.xres ≤ (g.scrinfo.yres - 1 - j) * g.scrinfo.xres :=
    mul_le_mul_of_nonneg_right (by omega) (by omega)
  simp only [rowMajor] at hcopied ⊢
  norm_num at hcopied ⊢
  linarith

lemma changed_iff (hf : g.Fitted) (hr : g.rotation = 90 ∨ g.rotation = 180 ∨ g.rotation = 270)
    (hb : ∀ k : ℤ, 0 ≤ k → k < g.scrinfo.xres * g.scrinfo.yres → g.cmpbuf k = g.vncbuf k) {i j : ℕ}
    (hi : i < g.scrinfo.xres) (hj : j < g.scrinfo.yres) :
    g.draw.vncbuf (destination g.rotation g.scrinfo i j) ≠ g.vncbuf (destination g.rotation g.scrinfo i j) ↔
      (g.rotation = 180 ∨ (i : ℤ) = g.i ∧ j = 0) ∧ g.Copied i j ∧ g.Finds i j := by
  have hk := destination_range hr hi hj
  rw [draw_leftover g hf hr hi hj]
  simp only [leftover, ← hb _ hk.1 hk.2]
  by_cases hcopied : g.Copied i j
  · rw [if_neg (not_le.mpr hcopied)]
    simp only [hcopied, true_and]
    by_cases h180 : g.rotation = 180
    · simp only [h180, true_or, true_and, Finds, if_true]
      exact ne_comm
    · simp only [h180, false_or, if_false]
      split_ifs with hrow
      · obtain ⟨hcol, rfl⟩ := hrow
        have hcell : (g.visitAt g.rotation (g.shownColumn g.i 0) i 0).cell =
            destination g.rotation g.scrinfo i (0 : ℕ) ∧
            (g.visitAt g.rotation (g.shownColumn g.i 0) i 0).source = pixelToVirtualPixel g.scrinfo i (0 : ℕ) := by
          rcases hr with hr | hr | hr
          · simp [visitAt, hr, shownColumn, hcol]
          · exact absurd hr h180
          · simp [visitAt, hr, shownColumn, hcol]
        simp only [Finds, hcell, hcol, true_and]
        exact ne_comm
      · simp [hrow]
  · rw [if_pos (not_lt.mp hcopied)]
    simp [hcopied]

def ChangesCovered (g' : FbVncServer out) : Prop :=
  ∀ vy < g'.vncscr.height, ∀ vx < g'.vncscr.width,
    g'.vncbuf (rowMajor g'.vncscr.width (vx : ℕ) (vy : ℕ)) ≠ g.vncbuf (rowMajor g'.vncscr.width vx vy) →
      g'.idle = false ∧ ∃ r, g'.marked = some r ∧ r.Contains vx vy

/-- The box is noted in the coordinates of the framebuffer, one row too low where they are
mirrored, and a row of 90 and 270 degrees notes its first column alone. -/
def BoxReaches : Prop :=
  let s := g.scrinfo
  ∀ i < s.xres, ∀ j < s.yres, g.Copied i j → g.Finds i j →
    if g.rotation = 180 then
      9999 + j < s.yres ∧
        (∃ i' < s.xres, ∃ j' < s.yres, g.Finds i' j' ∧ s.xres ≤ i + i' + 1) ∧
        (9999 + i < s.xres ∨ ∃ i' < s.xres, ∃ j' < s.yres, g.Finds i' j' ∧ i + i' + 1 ≤ s.xres)
    else (i : ℤ) = g.i → j = 0 →
      if g.rotation = 90 then
        i = 0 ∧ (9999 < s.yres ∨ ∃ j' < s.yres, g.Finds i j' ∧ 1 ≤ j')
      else i + 1 = s.xres

lemma finds_column (hr : g.rotation = 90 ∨ g.rotation = 270) (i i' j : ℕ) : g.Finds i j ↔ g.Finds i' j := by
  rcases hr with hr | hr <;> simp [Finds, visitAt, hr]

lemma covered_iff (hr : g.rotation = 90 ∨ g.rotation = 180 ∨ g.rotation = 270) {i j : ℕ}
    (hi : i < g.scrinfo.xres) (hj : j < g.scrinfo.yres) (hfind : g.Finds i j) {p : ℤ × ℤ} :
    (g.draw.idle = false ∧ ∃ r, g.draw.marked = some r ∧ r.Contains p.1 p.2) ↔
      ((g.found true g.cmpbuf (g.visitList g.rotation g.i)).foldl Box.note emptyBox).rect.Contains p.1 p.2 := by
  obtain ⟨i₁, j₁, hscan⟩ := g.scan_visits hr
  obtain ⟨hbox, hidle⟩ := g.visits_found true g.entry (g.visitList g.rotation g.i)
  have hmem : ∃ v, v ∈ g.found true g.cmpbuf (g.visitList g.rotation g.i) := by
    by_cases h180 : g.rotation = 180
    · exact ⟨_, (g.mem_found hr).mpr ⟨j, hj, i, hi, .inl h180, hfind, rfl⟩⟩
    · have hzero := (g.finds_column (by omega) i 0 j).mp hfind
      exact ⟨_, (g.mem_found hr).mpr ⟨j, hj, 0, by omega, .inr rfl, hzero, rfl⟩⟩
  obtain ⟨hbusy, hmarked⟩ := (g.draw_of_found (hscan ▸ hbox) (hscan ▸ hidle)).2
    (List.ne_nil_of_mem hmem.choose_spec)
  simp [hbusy, hmarked]

lemma exists_found_iff (hr : g.rotation = 90 ∨ g.rotation = 180 ∨ g.rotation = 270) {P : Visit → Prop} :
    (∃ v ∈ g.found true g.cmpbuf (g.visitList g.rotation g.i), P v) ↔
      ∃ j < g.scrinfo.yres, ∃ i < g.scrinfo.xres, (g.rotation = 180 ∨ i = 0) ∧ g.Finds i j ∧
        P (g.visitAt g.rotation (g.shownColumn g.i j) i j) := by
  simp only [g.mem_found hr]
  constructor
  · rintro ⟨_, ⟨j, hj, i, hi, hside, hfind, rfl⟩, hp⟩
    exact ⟨j, hj, i, hi, hside, hfind, hp⟩
  · rintro ⟨j, hj, i, hi, hside, hfind, hp⟩
    exact ⟨_, ⟨j, hj, i, hi, hside, hfind, rfl⟩, hp⟩

lemma exists_turned_iff (hr : g.rotation = 90 ∨ g.rotation = 270) {i : ℕ} (hi : i < g.scrinfo.xres)
    {P : Visit → Prop} : (∃ v ∈ g.found true g.cmpbuf (g.visitList g.rotation g.i), P v) ↔
      ∃ j < g.scrinfo.yres, g.Finds i j ∧ P (g.visitAt g.rotation (g.shownColumn g.i j) 0 j) := by
  have hne : ¬ g.rotation = 180 := by omega
  rw [g.exists_found_iff (by omega)]
  simp only [hne, false_or]
  constructor
  · rintro ⟨j, hj, _, -, rfl, hfind, hp⟩
    exact ⟨j, hj, (g.finds_column hr 0 i j).mp hfind, hp⟩
  · rintro ⟨j, hj, hfind, hp⟩
    exact ⟨j, hj, 0, by omega, rfl, (g.finds_column hr i 0 j).mp hfind, hp⟩

lemma exists_upright_iff (hr : g.rotation = 180) {P : Visit → Prop} :
    (∃ v ∈ g.found true g.cmpbuf (g.visitList g.rotation g.i), P v) ↔
      ∃ i < g.scrinfo.xres, ∃ j < g.scrinfo.yres, g.Finds i j ∧
        P (g.visitAt g.rotation (g.shownColumn g.i j) i j) := by
  rw [g.exists_found_iff (.inr (.inl hr))]
  constructor
  · rintro ⟨j, hj, i, hi, -, hfind, hp⟩
    exact ⟨i, hi, j, hj, hfind, hp⟩
  · rintro ⟨i, hi, j, hj, hfind, hp⟩
    exact ⟨j, hj, i, hi, .inl hr, hfind, hp⟩

lemma reaches90 (hr : g.rotation = 90) {i : ℕ} (hi : i < g.scrinfo.xres) (hy : 0 < g.scrinfo.yres)
    (hfind : g.Finds i 0) :
    ((g.found true g.cmpbuf (g.visitList g.rotation g.i)).foldl Box.note emptyBox).rect.Contains
        (shownAt g.rotation g.scrinfo i 0).1 (shownAt g.rotation g.scrinfo i 0).2 ↔
      i = 0 ∧ (9999 < g.scrinfo.yres ∨ ∃ j' < g.scrinfo.yres, g.Finds i j' ∧ 1 ≤ j') := by
  have hshown : shownAt g.rotation g.scrinfo i 0 = (g.scrinfo.yres - 1 - ((0 : ℕ) : ℤ), (i : ℤ)) := by
    rw [hr]
    rfl
  have hspot : ∀ c (j : ℕ), (g.visitAt g.rotation c 0 j).spotX = g.scrinfo.yres - j ∧
      (g.visitAt g.rotation c 0 j).spotY = 0 := by
    intro c j
    rw [hr]
    exact ⟨rfl, rfl⟩
  rw [hshown, noted_contains_iff]
  simp only [g.exists_turned_iff (.inl hr) hi, hspot]
  constructor
  · rintro ⟨⟨hleft, -⟩, -, hdown⟩
    refine ⟨?_, hleft.imp (fun hfar => by omega) ?_⟩
    · rcases hdown with hdown | ⟨-, -, -, hle⟩ <;> omega
    · rintro ⟨j, hj, hf, hle⟩
      exact ⟨j, hj, hf, by omega⟩
  · rintro ⟨rfl, hleft⟩
    refine ⟨⟨hleft.imp (fun hfar => by omega) ?_, .inr ⟨0, hy, hfind, by omega⟩⟩,
      .inr ⟨0, hy, hfind, by omega⟩,
      .inr ⟨0, hy, hfind, by omega⟩⟩
    rintro ⟨j, hj, hf, hle⟩
    exact ⟨j, hj, hf, by omega⟩

lemma reaches270 (hr : g.rotation = 270) {i : ℕ} (hi : i < g.scrinfo.xres) (hy : 0 < g.scrinfo.yres)
    (hfind : g.Finds i 0) :
    ((g.found true g.cmpbuf (g.visitList g.rotation g.i)).foldl Box.note emptyBox).rect.Contains
        (shownAt g.rotation g.scrinfo i 0).1 (shownAt g.rotation g.scrinfo i 0).2 ↔
      i + 1 = g.scrinfo.xres := by
  have hshown : shownAt g.rotation g.scrinfo i 0 = (((0 : ℕ) : ℤ), g.scrinfo.xres - 1 - (i : ℤ)) := by
    rw [hr]
    rfl
  have hspot : ∀ c (j : ℕ), (g.visitAt g.rotation c 0 j).spotX = j ∧
      (g.visitAt g.rotation c 0 j).spotY = 0 := by
    intro c j
    rw [hr]
    exact ⟨rfl, rfl⟩
  rw [hshown, noted_contains_iff]
  simp only [g.exists_turned_iff (.inr hr) hi, hspot]
  constructor
  · rintro ⟨-, -, hdown⟩
    rcases hdown with hdown | ⟨-, -, -, hle⟩ <;> omega
  · intro hlast
    exact ⟨⟨.inr ⟨0, hy, hfind, by omega⟩, .inr ⟨0, hy, hfind, by omega⟩⟩,
      .inr ⟨0, hy, hfind, by omega⟩,
      .inr ⟨0, hy, hfind, by omega⟩⟩

lemma reaches180 (hr : g.rotation = 180) {i j : ℕ} (hi : i < g.scrinfo.xres) (hj : j < g.scrinfo.yres)
    (hfind : g.Finds i j) :
    ((g.found true g.cmpbuf (g.visitList g.rotation g.i)).foldl Box.note emptyBox).rect.Contains
        (shownAt g.rotation g.scrinfo i j).1 (shownAt g.rotation g.scrinfo i j).2 ↔
      (9999 + j < g.scrinfo.yres ∨ ∃ i' < g.scrinfo.xres, ∃ j' < g.scrinfo.yres, g.Finds i' j' ∧ j < j') ∧
        (∃ i' < g.scrinfo.xres, ∃ j' < g.scrinfo.yres, g.Finds i' j' ∧ g.scrinfo.xres ≤ i + i' + 1) ∧
        (9999 + i < g.scrinfo.xres ∨
          ∃ i' < g.scrinfo.xres, ∃ j' < g.scrinfo.yres, g.Finds i' j' ∧ i + i' + 1 ≤ g.scrinfo.xres) := by
  have hshown : shownAt g.rotation g.scrinfo i j =
      (g.scrinfo.xres - 1 - (i : ℤ), g.scrinfo.yres - 1 - (j : ℤ)) := by
    rw [hr]
    rfl
  have hspot : ∀ c (i' j' : ℕ), (g.visitAt g.rotation c i' j').spotX = i' ∧
      (g.visitAt g.rotation c i' j').spotY = g.scrinfo.yres - j' := by
    intro c i' j'
    rw [hr]
    exact ⟨rfl, rfl⟩
  have hleft : ∀ i' : ℕ, (i' : ℤ) ≤ g.scrinfo.xres - 1 - i ↔ i + i' + 1 ≤ g.scrinfo.xres := by
    intro i'
    omega
  have hright : ∀ i' : ℕ, (g.scrinfo.xres : ℤ) - 1 - i ≤ i' ↔ g.scrinfo.xres ≤ i + i' + 1 := by
    intro i'
    omega
  have hup : ∀ j' : ℕ, (g.scrinfo.yres : ℤ) - j' ≤ g.scrinfo.yres - 1 - j ↔ j < j' := by
    intro j'
    omega
  rw [hshown, noted_contains_iff]
  simp only [g.exists_upright_iff hr, hspot, hleft, hright, hup]
  constructor
  · rintro ⟨⟨hl, hrt⟩, hu, -⟩
    exact ⟨hu.imp_left (by omega), hrt.resolve_left (by omega), hl.imp_left (by omega)⟩
  · rintro ⟨hu, hrt, hl⟩
    exact ⟨⟨hl.imp_left (by omega), .inr hrt⟩, hu.imp_left (by omega), .inr ⟨i, hi, j, hj, hfind, by omega⟩⟩

lemma changed_covered_iff (hf : g.Fitted) (hr : g.rotation = 90 ∨ g.rotation = 180 ∨ g.rotation = 270)
    (hs : (g.vncscr.width, g.vncscr.height) = turnedSize g.rotation g.scrinfo)
    (hb : ∀ k : ℤ, 0 ≤ k → k < g.scrinfo.xres * g.scrinfo.yres → g.cmpbuf k = g.vncbuf k) :
    g.ChangesCovered g.draw ↔ ∀ i < g.scrinfo.xres, ∀ j < g.scrinfo.yres,
      (g.rotation = 180 ∨ (i : ℤ) = g.i ∧ j = 0) ∧ g.Copied i j ∧ g.Finds i j →
        ((g.found true g.cmpbuf (g.visitList g.rotation g.i)).foldl Box.note emptyBox).rect.Contains
          (shownAt g.rotation g.scrinfo i j).1 (shownAt g.rotation g.scrinfo i j).2 := by
  have hpixels := forall_shown_iff hr hs (P := fun p =>
    g.draw.vncbuf (rowMajor g.vncscr.width p.1 p.2) ≠ g.vncbuf (rowMajor g.vncscr.width p.1 p.2) →
      g.draw.idle = false ∧ ∃ r, g.draw.marked = some r ∧ r.Contains p.1 p.2)
  refine hpixels.trans (forall₂_congr fun i hi => forall₂_congr fun j hj => ?_)
  rw [destination_shownAt hr hs, g.changed_iff hf hr hb hi hj]
  exact imp_congr_right fun hfind => g.covered_iff hr hi hj hfind.2.2

lemma draw_covers_iff (hf : g.Fitted) (hr : g.rotation = 90 ∨ g.rotation = 180 ∨ g.rotation = 270)
    (hs : (g.vncscr.width, g.vncscr.height) = turnedSize g.rotation g.scrinfo)
    (hb : ∀ k : ℤ, 0 ≤ k → k < g.scrinfo.xres * g.scrinfo.yres → g.cmpbuf k = g.vncbuf k) :
    g.ChangesCovered g.draw ↔ g.BoxReaches := by
  rw [g.changed_covered_iff hf hr hs hb, BoxReaches]
  rcases hr with hr | hr | hr
  · have hne : ¬ g.rotation = 180 := by omega
    refine forall₂_congr fun i hi => forall₂_congr fun j hj => ?_
    rw [if_neg hne, if_pos hr]
    constructor
    · rintro h hcopied hfind hcol rfl
      exact (g.reaches90 hr hi hj hfind).mp (h ⟨.inr ⟨hcol, rfl⟩, hcopied, hfind⟩)
    · rintro h ⟨hside, hcopied, hfind⟩
      obtain ⟨hcol, rfl⟩ := hside.resolve_left hne
      exact (g.reaches90 hr hi hj hfind).mpr (h hcopied hfind hcol rfl)
  · have hrows := forall_last_iff (n := g.scrinfo.yres) (a := 9999)
      (S := fun j => j < g.scrinfo.yres ∧ ∃ i < g.scrinfo.xres, g.Copied i j ∧ g.Finds i j) (fun j hj => hj.1)
    constructor
    · intro h i hi j hj hcopied hfind
      rw [if_pos hr]
      have hreach := (g.reaches180 hr hi hj hfind).mp (h i hi j hj ⟨.inl hr, hcopied, hfind⟩)
      refine ⟨hrows.mp ?_ j ⟨hj, i, hi, hcopied, hfind⟩, hreach.2⟩
      rintro j₂ ⟨hj₂, i₂, hi₂, hcopied₂, hfind₂⟩
      have hreach₂ := (g.reaches180 hr hi₂ hj₂ hfind₂).mp
        (h i₂ hi₂ j₂ hj₂ ⟨.inl hr, hcopied₂, hfind₂⟩)
      rcases hreach₂.1 with hlast | ⟨i', hi', j', hj', hf, hlt⟩
      · exact .inl hlast
      · exact .inr ⟨j', ⟨hj', i', hi', hcopied₂.later g hr hi₂ hlt, hf⟩, hlt⟩
    · rintro h i hi j hj ⟨-, hcopied, hfind⟩
      have hcond := h i hi j hj hcopied hfind
      rw [if_pos hr] at hcond
      exact (g.reaches180 hr hi hj hfind).mpr ⟨.inl hcond.1, hcond.2⟩
  · have hne : ¬ g.rotation = 180 := by omega
    refine forall₂_congr fun i hi => forall₂_congr fun j hj => ?_
    rw [if_neg hne, if_neg (show ¬ g.rotation = 90 by omega)]
    constructor
    · rintro h hcopied hfind hcol rfl
      exact (g.reaches270 hr hi hj hfind).mp (h ⟨.inr ⟨hcol, rfl⟩, hcopied, hfind⟩)
    · rintro h ⟨hside, hcopied, hfind⟩
      obtain ⟨hcol, rfl⟩ := hside.resolve_left hne
      exact (g.reaches270 hr hi hj hfind).mpr (h hcopied hfind hcol rfl)

end FbVncServer

theorem rotated_dirty_rectangle (g : FbVncServer out) (info : FbVarScreeninfo)
    (hr : g.rotation = 90 ∨ g.rotation = 180 ∨ g.rotation = 270)
    (hs : (g.vncscr.width, g.vncscr.height) = turnedSize g.rotation info) (hp : info.bitsPerPixel = out.bits)
    (hb : ∀ k : ℤ, 0 ≤ k → k < info.xres * info.yres → g.cmpbuf k = g.vncbuf k) :
    ∃ g', g.updateScreen (some info) = some g' ∧
      (g.ChangesCovered g' ↔ FbVncServer.BoxReaches { g with scrinfo := info }) :=
  ⟨_, rfl, FbVncServer.draw_covers_iff { g with scrinfo := info }
    ⟨hp, FbVncServer.turnedSize_area hs⟩ hr hs hb⟩

def uprightWhite : FbVncServer .out8 where
  __ := whiteTwoRows 180
  vncscr := { (whiteTwoRows 180).vncscr with width := 1, height := 2 }

theorem rotated_dirty_rectangle_white : ∃ g', uprightWhite.updateScreen (some twoRows) = some g' ∧
    (uprightWhite.ChangesCovered g' ↔ FbVncServer.BoxReaches { uprightWhite with scrinfo := twoRows }) :=
  rotated_dirty_rectangle uprightWhite twoRows (.inr (.inl rfl)) rfl rfl (fun _ _ _ => rfl)

theorem top_row_not_marked : ∃ g', uprightWhite.updateScreen (some twoRows) = some g' ∧
    twoRows.Visible ∧ uprightWhite.cmpbuf = uprightWhite.vncbuf ∧ ¬ uprightWhite.ChangesCovered g' := by
  refine ⟨_, rfl, by constructor <;> decide, rfl, ?_⟩
  intro hcovered
  obtain ⟨-, r, hr, hcontains⟩ := hcovered 0 (by decide) 0 (by decide) (by decide)
  have hmarked : some r = some ⟨0, 1, 1, 3⟩ := hr.symm.trans rfl
  cases hmarked
  revert hcontains
  simp [Rect.Contains]

end AndroidRemote.Display
