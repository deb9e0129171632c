import AndroidRemote.Display.UnrotatedPicture
import AndroidRemote.Display.Visits

/-! The rectangle that `update_screen` marks when the picture is not rotated. -/

namespace AndroidRemote.Display

open AndroidRemote.Library

variable {out : Out}

def Rect.Contains (r : Rect) (x y : ℤ) : Prop := (r.x1 ≤ x ∧ x < r.x2) ∧ r.y1 ≤ y ∧ y < r.y2

instance : LE Rect := ⟨fun r r' => (r'.x1 ≤ r.x1 ∧ r.x2 ≤ r'.x2) ∧ r'.y1 ≤ r.y1 ∧ r.y2 ≤ r'.y2⟩

def Rect.around (points : Set (ℤ × ℤ)) : Set Rect := {r | ∀ p ∈ points, r.Contains p.1 p.2}

def Box.rect (b : Box) : Rect := ⟨b.minX, b.minY, b.maxX + 1, b.maxY + 1⟩

def emptyBox : Box := ⟨-1, -1, 9999, 9999⟩

def Visit.spot (v : Visit) : ℤ × ℤ := (v.spotX, v.spotY)

lemma noted_contains {b : Box} {vs : List Visit} {v : Visit} (hv : v ∈ vs) :
    (vs.foldl Box.note b).rect.Contains v.spotX v.spotY := by
  rw [Box.foldl_note]
  refine ⟨⟨?_, ?_⟩, ?_, ?_⟩
  · exact runningMin_le_iff.mpr (.inr ⟨v, hv, le_rfl⟩)
  · exact Int.lt_add_one_of_le (le_runningMax_iff.mpr (.inr ⟨v, hv, le_rfl⟩))
  · exact runningMin_le_iff.mpr (.inr ⟨v, hv, le_rfl⟩)
  · exact Int.lt_add_one_of_le (le_runningMax_iff.mpr (.inr ⟨v, hv, le_rfl⟩))

lemma noted_least {vs : List Visit} {v : Visit} (hv : v ∈ vs) (hx : 0 ≤ v.spotX ∧ v.spotX ≤ 9999)
    (hy : 0 ≤ v.spotY ∧ v.spotY ≤ 9999) :
    IsLeast (Rect.around {p | ∃ w ∈ vs, w.spot = p}) (vs.foldl Box.note emptyBox).rect := by
  constructor
  · rintro p ⟨w, hw, rfl⟩
    exact noted_contains hw
  · intro r hr
    have hin : ∀ w ∈ vs, r.Contains w.spotX w.spotY := fun w hw => hr w.spot ⟨w, hw, rfl⟩
    obtain ⟨⟨hx1, hx2⟩, hy1, hy2⟩ := hin v hv
    rw [Box.foldl_note]
    refine ⟨⟨?_, ?_⟩, ?_, ?_⟩
    · exact le_runningMin_iff.mpr ⟨hx1.trans hx.2, fun w hw => (hin w hw).1.1⟩
    · apply Int.add_le_of_le_sub_right
      refine runningMax_le_iff.mpr ⟨?_, fun w hw => Int.le_sub_one_of_lt (hin w hw).1.2⟩
      simp only [emptyBox]
      omega
    · exact le_runningMin_iff.mpr ⟨hy1.trans hy.2, fun w hw => (hin w hw).2.1⟩
    · apply Int.add_le_of_le_sub_right
      refine runningMax_le_iff.mpr ⟨?_, fun w hw => Int.le_sub_one_of_lt (hin w hw).2.2⟩
      simp only [emptyBox]
      omega

namespace FbVncServer

variable (g : FbVncServer out)

def differing : Set (ℤ × ℤ) :=
  {p | ∃ j < g.scrinfo.yres, ∃ i < g.scrinfo.xres,
    g.cmpbuf (rowMajor g.scrinfo.xres (i : ℕ) (j : ℕ)) ≠ g.read i j ∧ ((i : ℤ), (j : ℤ)) = p}

lemma visitList_eq_map (r : ℕ) (c : ℤ) : g.visitList r c =
    (List.range g.scrinfo.yres ×ˢ List.range g.scrinfo.xres).map
      (fun p => g.visitAt r (g.shownColumn c p.1) p.2 p.1) := by
  simp [visitList, visitRow, List.product, SProd.sprod, List.map_flatMap, Function.comp_def]

lemma visitList_distinct {r : ℕ} {c : ℤ} (h : ∀ i < g.scrinfo.xres, ∀ j < g.scrinfo.yres,
    ∀ i' < g.scrinfo.xres, ∀ j' < g.scrinfo.yres,
    (g.visitAt r (g.shownColumn c j) i j).cell = (g.visitAt r (g.shownColumn c j') i' j').cell →
      i = i' ∧ j = j') : ((g.visitList r c).map Visit.cell).Nodup := by
  rw [visitList_eq_map, List.map_map]
  refine List.Nodup.map_on ?_ (List.nodup_range.product List.nodup_range)
  rintro ⟨j, i⟩ hp ⟨j', i'⟩ hq heq
  obtain ⟨hj, hi⟩ := List.pair_mem_product.mp hp
  obtain ⟨hj', hi'⟩ := List.pair_mem_product.mp hq
  rw [List.mem_range] at hi hj hi' hj'
  obtain ⟨hx, hy⟩ := h i hi j hj i' hi' j' hj' heq
  exact Prod.ext hy hx

lemma found0_spots (store : Bool) (c : ℤ) :
    {p | ∃ w ∈ g.found store g.cmpbuf (g.visitList 0 c), w.spot = p} = g.differing := by
  have hcells : ((g.visitList 0 c).map Visit.cell).Nodup := by
    apply visitList_distinct
    intro i hi j hj i' hi' j' hj' heq
    obtain ⟨hx, hy⟩ := rowMajor_injective (by omega) (by omega) (by omega) (by omega) heq
    omega
  rw [found_distinct _ _ _ (fun _ => hcells)]
  ext p
  simp only [List.mem_filter, decide_eq_true_eq, mem_visitList, Set.mem_ofPred_eq, differing]
  constructor
  · rintro ⟨w, ⟨⟨j, hj, i, hi, rfl⟩, hne⟩, rfl⟩
    exact ⟨j, hj, i, hi, hne, rfl⟩
  · rintro ⟨j, hj, i, hi, hne, rfl⟩
    exact ⟨_, ⟨⟨j, hj, i, hi, rfl⟩, hne⟩, rfl⟩

lemma scan0_box (t : Scan out) : (g.scan0 t).box =
    (g.found (g.testMode ≠ 0) t.a (g.visitList 0 t.i)).foldl Box.note t.box ∧
    (g.scan0 t).idle = (t.idle && (g.found (g.testMode ≠ 0) t.a (g.visitList 0 t.i)).isEmpty) := by
  obtain ⟨i, j, heq⟩ := g.scan0_visits t
  rw [← (g.visits_found _ t _).1, ← (g.visits_found _ t _).2, heq]
  split_ifs <;> exact ⟨rfl, rfl⟩

lemma draw_of_found {vs : List Visit} (hbox : g.scan.box = vs.foldl Box.note emptyBox)
    (hidle : g.scan.idle = vs.isEmpty) :
    (vs = [] → g.draw.idle = true ∧ g.draw.marked = none) ∧
      (vs ≠ [] → g.draw.idle = false ∧ g.draw.marked = some (vs.foldl Box.note emptyBox).rect) := by
  constructor
  · rintro rfl
    exact ⟨hidle, by simp [draw, hidle]⟩
  · intro hne
    have hbusy : g.scan.idle = false := by simp [hidle, hne]
    exact ⟨hbusy, by simp [draw, hbusy, hbox, Box.rect]⟩

lemma draw_marks (hr : g.rotation = 0) (hx : g.scrinfo.xres ≤ 9999) (hy : g.scrinfo.yres ≤ 9999) :
    (g.draw.idle = true ↔ g.differing = ∅) ∧
      (g.differing.Nonempty → ∃ r, g.draw.marked = some r ∧ IsLeast (Rect.around g.differing) r) := by
  have hscan : g.scan = g.scan0 g.entry := if_pos hr
  have hbox : g.scan.box =
      (g.found (g.testMode ≠ 0) g.cmpbuf (g.visitList 0 g.i)).foldl Box.note emptyBox :=
    hscan ▸ (g.scan0_box g.entry).1
  have hidle : g.scan.idle = (g.found (g.testMode ≠ 0) g.cmpbuf (g.visitList 0 g.i)).isEmpty :=
    hscan ▸ (g.scan0_box g.entry).2
  have hspots := g.found0_spots (g.testMode ≠ 0) g.i
  generalize g.found (g.testMode ≠ 0) g.cmpbuf (g.visitList 0 g.i) = vs at hbox hidle hspots
  obtain ⟨hquiet, hbusy⟩ := g.draw_of_found hbox hidle
  cases vs with
  | nil =>
    rw [← hspots]
    simp [hquiet rfl]
  | cons v vs =>
    obtain ⟨hidle, hmarked⟩ := hbusy (List.cons_ne_nil v vs)
    have hmem : v.spot ∈ g.differing := hspots ▸ ⟨v, by simp, rfl⟩
    obtain ⟨j, hj, i, hi, -, hspot⟩ := id hmem
    obtain ⟨hsx, hsy⟩ := Prod.ext_iff.mp hspot
    simp only [Visit.spot] at hsx hsy
    constructor
    · rw [hidle]
      exact iff_of_false Bool.false_ne_true (Set.Nonempty.ne_empty ⟨_, hmem⟩)
    · intro _
      rw [← hspots]
      exact ⟨_, hmarked, noted_least List.mem_cons_self (by omega) (by omega)⟩

end FbVncServer

theorem unrotated_dirty_rectangle (g : FbVncServer out) (info : FbVarScreeninfo) (hr : g.rotation = 0)
    (hx : info.xres ≤ 9999) (hy : info.yres ≤ 9999) :
    let g₀ : FbVncServer out := { g with scrinfo := info }
    ∃ g', g.updateScreen (some info) = some g' ∧ (g'.idle = true ↔ g₀.differing = ∅) ∧
      (g₀.differing.Nonempty → ∃ r, g'.marked = some r ∧ IsLeast (Rect.around g₀.differing) r) :=
  ⟨_, rfl, FbVncServer.draw_marks _ hr hx hy⟩

theorem unrotated_dirty_rectangle_panned :
    let g₀ : FbVncServer .out8 := { pannedServer with scrinfo := secondPage }
    ∃ g', pannedServer.updateScreen (some secondPage) = some g' ∧ (g'.idle = true ↔ g₀.differing = ∅) ∧
      (g₀.differing.Nonempty → ∃ r, g'.marked = some r ∧ IsLeast (Rect.around g₀.differing) r) :=
  unrotated_dirty_rectangle pannedServer secondPage rfl (by decide) (by decide)

end AndroidRemote.Display
