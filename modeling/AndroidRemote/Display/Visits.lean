import AndroidRemote.Display.RotatedPicture

/-! The nested loops of `update_screen` as one list of comparisons. -/

namespace AndroidRemote.Display

open AndroidRemote.Library

variable {out : Out}

structure Visit where
  cell : ℤ
  source : ℤ
  spotX : ℤ
  spotY : ℤ
  deriving DecidableEq, Repr

def Scan.moved (t : Scan out) (i j : ℤ) : Scan out := { t with i := i, j := j }

def Box.note (b : Box) (v : Visit) : Box := (b.noteX v.spotX).noteY v.spotY

lemma Box.foldl_note (b : Box) (vs : List Visit) : vs.foldl Box.note b =
    ⟨runningMax Visit.spotX b.maxX vs, runningMax Visit.spotY b.maxY vs,
      runningMin Visit.spotX b.minX vs, runningMin Visit.spotY b.minY vs⟩ := by
  induction vs generalizing b with
  | nil => rfl
  | cons v vs ih =>
    have hnote : b.note v =
        ⟨max b.maxX v.spotX, max b.maxY v.spotY, min b.minX v.spotX, min b.minY v.spotY⟩ := by
      simp only [Box.note, Box.noteX, Box.noteY, Box.mk.injEq]
      omega
    rw [List.foldl_cons, ih, hnote]
    rfl

namespace FbVncServer

variable (g : FbVncServer out)

def visit (store : Bool) (t : Scan out) (v : Visit) : Scan out :=
  t.compare g.fbmmap g.base v.cell v.source store (·.note v)

def visits (store : Bool) (t : Scan out) (vs : List Visit) : Scan out := vs.foldl (g.visit store) t

lemma visit_moved (store : Bool) (t : Scan out) (i j : ℤ) (v : Visit) :
    g.visit store (t.moved i j) v = (g.visit store t v).moved i j := by
  by_cases h : t.a v.cell = g.fbmmap (g.base + v.source)
  · simp [visit, Scan.compare, Scan.moved, h]
  · simp [visit, Scan.compare, Scan.moved, h]

lemma visits_moved (store : Bool) (t : Scan out) (i j : ℤ) (vs : List Visit) :
    g.visits store (t.moved i j) vs = (g.visits store t vs).moved i j := by
  induction vs generalizing t with
  | nil => rfl
  | cons v vs ih =>
    have hcons : ∀ u, g.visits store u (v :: vs) = g.visits store (g.visit store u v) vs := fun _ => rfl
    rw [hcons, hcons, visit_moved, ih]

lemma visits_append (store : Bool) (t : Scan out) (vs ws : List Visit) :
    g.visits store t (vs ++ ws) = g.visits store (g.visits store t vs) ws := List.foldl_append

lemma forI_visits (store : Bool) (n : ℕ) (f : ℕ → Visit) (t : Scan out) :
    t.forI n (fun i u => g.visit store u (f i)) =
      (g.visits store t ((List.range n).map f)).moved n t.j := by
  have hloop : ∀ m, ∃ c, forUpto m (fun i u => g.visit store { u with i := i } (f i)) t =
      (g.visits store t ((List.range m).map f)).moved c t.j := by
    intro m
    induction m with
    | zero => exact ⟨t.i, rfl⟩
    | succ m ih =>
      obtain ⟨c, hc⟩ := ih
      refine ⟨m, ?_⟩
      rw [forUpto_succ, hc, List.range_succ, List.map_append, visits_append]
      exact g.visit_moved store (g.visits store t ((List.range m).map f)) m t.j (f m)
  obtain ⟨c, hc⟩ := hloop n
  rw [Scan.forI, hc]
  rfl

lemma forJ_visits (store : Bool) (n : ℕ) (w : ℤ) (row : ℤ → ℕ → List Visit)
    {body : ℕ → Scan out → Scan out} (hb : ∀ j u, body j u = (g.visits store u (row u.i j)).moved w u.j)
    (t : Scan out) : ∃ i, t.forJ n body = (g.visits store t
      ((List.range n).flatMap (fun j => row (if j = 0 then t.i else w) j))).moved i n := by
  let rows (m : ℕ) : List Visit := (List.range m).flatMap (fun j => row (if j = 0 then t.i else w) j)
  have hloop : ∀ m, ∃ j, forUpto m (fun j u => body j { u with j := j }) t =
      (g.visits store t (rows m)).moved (if m = 0 then t.i else w) j := by
    intro m
    induction m with
    | zero => exact ⟨t.j, rfl⟩
    | succ m ih =>
      obtain ⟨j, hj⟩ := ih
      have hrows : rows (m + 1) = rows m ++ row (if m = 0 then t.i else w) m := by
        simp [rows, List.range_succ]
      have hmoved := congrArg (Scan.moved · w m) (g.visits_moved store (g.visits store t (rows m))
        (if m = 0 then t.i else w) m (row (if m = 0 then t.i else w) m))
      refine ⟨m, ?_⟩
      rw [forUpto_succ, hj, hb, hrows, visits_append, if_neg (Nat.succ_ne_zero m)]
      exact hmoved
  obtain ⟨j, hj⟩ := hloop n
  exact ⟨if n = 0 then t.i else w, by rw [Scan.forJ, hj]; rfl⟩

/-- The comparison made in column `i` of row `j`, where `c` is the column that the row before
has left. -/
def visitAt (r : ℕ) (c : ℤ) (i j : ℕ) : Visit :=
  let s := g.scrinfo
  if r = 0 then ⟨i + j * s.xres, pixelToVirtualPixel s i j, i, j⟩
  else if r = 90 then ⟨destination 90 s c j, pixelToVirtualPixel s c j, s.yres - j, i⟩
  else if r = 180 then ⟨destination 180 s i j, pixelToVirtualPixel s c j, i, s.yres - j⟩
  else ⟨destination 270 s c j, pixelToVirtualPixel s c j, j, i⟩

def visitRow (r : ℕ) (c : ℤ) (j : ℕ) : List Visit :=
  (List.range g.scrinfo.xres).map (fun i => g.visitAt r c i j)

def visitList (r : ℕ) (c : ℤ) : List Visit :=
  (List.range g.scrinfo.yres).flatMap (fun j => g.visitRow r (g.shownColumn c j) j)

lemma mem_visitList {r : ℕ} {c : ℤ} {v : Visit} : v ∈ g.visitList r c ↔
    ∃ j < g.scrinfo.yres, ∃ i < g.scrinfo.xres, g.visitAt r (g.shownColumn c j) i j = v := by
  simp [visitList, visitRow]

lemma scan0_visits (t : Scan out) : ∃ i j, g.scan0 t =
    let u := (g.visits (g.testMode ≠ 0) t (g.visitList 0 t.i)).moved i j
    if g.testMode = 0 then
      { u with
        a := memcpy u.a g.fbmmap g.copiedPixels
        fbUsed := (List.range g.copiedPixels).map (↑) ++ u.fbUsed }
    else u := by
  obtain ⟨i, hi⟩ := g.forJ_visits (g.testMode ≠ 0) g.scrinfo.yres g.scrinfo.xres (g.visitRow 0)
    (fun j u => g.forI_visits (g.testMode ≠ 0) g.scrinfo.xres (fun i => g.visitAt 0 u.i i j) u) t
  refine ⟨i, g.scrinfo.yres, ?_⟩
  have hloops := congrArg (fun u : Scan out => if g.testMode = 0 then
    { u with
      a := memcpy u.a g.fbmmap g.copiedPixels
      fbUsed := (List.range g.copiedPixels).map (↑) ++ u.fbUsed }
    else u) hi
  exact hloops

lemma scan_visits (hr : g.rotation = 90 ∨ g.rotation = 180 ∨ g.rotation = 270) :
    ∃ i j, g.scan = (g.visits true g.entry (g.visitList g.rotation g.i)).moved i j := by
  have hrow : ∀ r (j : ℕ) (u : Scan out), u.forI g.scrinfo.xres (fun i u' =>
      g.visit true u' (g.visitAt r u.i i j)) = (g.visits true u (g.visitRow r u.i j)).moved g.scrinfo.xres u.j :=
    fun r j u => g.forI_visits true g.scrinfo.xres (fun i => g.visitAt r u.i i j) u
  rcases hr with hr | hr | hr
  · obtain ⟨i, hi⟩ := g.forJ_visits true g.scrinfo.yres g.scrinfo.xres (g.visitRow 90) (hrow 90) g.entry
    exact ⟨i, g.scrinfo.yres, by rw [scan, hr]; exact hi⟩
  · obtain ⟨i, hi⟩ := g.forJ_visits true g.scrinfo.yres g.scrinfo.xres (g.visitRow 180) (hrow 180) g.entry
    exact ⟨i, g.scrinfo.yres, by rw [scan, hr]; exact hi⟩
  · obtain ⟨i, hi⟩ := g.forJ_visits true g.scrinfo.yres g.scrinfo.xres (g.visitRow 270) (hrow 270) g.entry
    exact ⟨i, g.scrinfo.yres, by rw [scan, hr]; exact hi⟩

def stored (store : Bool) (a : Memory (OutT out)) (v : Visit) : Memory (OutT out) :=
  if store then Function.update a v.cell (g.fbmmap (g.base + v.source)) else a

def found (store : Bool) : Memory (OutT out) → List Visit → List Visit
  | _, [] => []
  | a, v :: vs =>
    if a v.cell ≠ g.fbmmap (g.base + v.source) then v :: found store (g.stored store a v) vs
    else found store (g.stored store a v) vs

lemma visits_found (store : Bool) (t : Scan out) (vs : List Visit) :
    (g.visits store t vs).box = (g.found store t.a vs).foldl Box.note t.box ∧
      (g.visits store t vs).idle = (t.idle && (g.found store t.a vs).isEmpty) := by
  induction vs generalizing t with
  | nil => simp [visits, found]
  | cons v vs ih =>
    have hcons : g.visits store t (v :: vs) = g.visits store (g.visit store t v) vs := rfl
    obtain ⟨hbox, hidle⟩ := ih (g.visit store t v)
    rw [hcons, hbox, hidle, found]
    by_cases h : t.a v.cell = g.fbmmap (g.base + v.source)
    · have ha : g.stored store t.a v = t.a := by
        rw [stored, ← h, Function.update_eq_self, ite_self]
      have hvisit : (g.visit store t v).a = t.a ∧ (g.visit store t v).box = t.box ∧
          (g.visit store t v).idle = t.idle := by simp [visit, Scan.compare, h]
      simp [h, ha, hvisit]
    · have hvisit : (g.visit store t v).a = g.stored store t.a v ∧
          (g.visit store t v).box = t.box.note v ∧ (g.visit store t v).idle = false := by
        simp [visit, Scan.compare, h, stored]
      simp [h, hvisit]

lemma found_append (store : Bool) (a : Memory (OutT out)) (vs ws : List Visit) :
    g.found store a (vs ++ ws) = g.found store a vs ++ g.found store (vs.foldl (g.stored store) a) ws := by
  induction vs generalizing a with
  | nil => rfl
  | cons v vs ih =>
    simp only [List.cons_append, found, List.foldl_cons, ih]
    split_ifs <;> rfl

lemma found_distinct (store : Bool) (a : Memory (OutT out)) {vs : List Visit}
    (hd : store = true → (vs.map Visit.cell).Nodup) :
    g.found store a vs = vs.filter (fun v => a v.cell ≠ g.fbmmap (g.base + v.source)) := by
  induction vs generalizing a with
  | nil => rfl
  | cons v vs ih =>
    have hrest : vs.filter (fun w => g.stored store a v w.cell ≠ g.fbmmap (g.base + w.source)) =
        vs.filter (fun w => a w.cell ≠ g.fbmmap (g.base + w.source)) := by
      apply List.filter_congr
      intro w hw
      cases store with
      | false => rfl
      | true =>
        have hne : w.cell ≠ v.cell := by
          intro heq
          exact (List.nodup_cons.mp (hd rfl)).1 (List.mem_map.mpr ⟨w, hw, heq⟩)
        simp [stored, hne]
    rw [found, ih _ (fun h => (List.nodup_cons.mp (hd h)).2), hrest, List.filter_cons]
    simp only [decide_eq_true_eq]

lemma visits_used (store : Bool) (t : Scan out) (vs : List Visit) :
    (g.visits store t vs).cmpUsed = (vs.map Visit.cell).reverse ++ t.cmpUsed ∧
      (g.visits store t vs).fbUsed = (vs.map (fun v => g.base + v.source)).reverse ++ t.fbUsed := by
  induction vs generalizing t with
  | nil => exact ⟨rfl, rfl⟩
  | cons v vs ih =>
    have hvisit : (g.visit store t v).cmpUsed = v.cell :: t.cmpUsed ∧
        (g.visit store t v).fbUsed = (g.base + v.source) :: t.fbUsed := by
      simp only [visit, Scan.compare]
      split_ifs <;> exact ⟨rfl, rfl⟩
    have hcons : g.visits store t (v :: vs) = g.visits store (g.visit store t v) vs := rfl
    obtain ⟨hcmp, hfb⟩ := ih (g.visit store t v)
    rw [hcons, hcmp, hfb, hvisit.1, hvisit.2]
    simp

lemma found_again (a : Memory (OutT out)) {v : Visit} {vs : List Visit}
    (h : ∀ w ∈ vs, w.cell = v.cell ∧ w.source = v.source) :
    g.found true (g.stored true a v) vs = [] ∧
      vs.foldl (g.stored true) (g.stored true a v) = g.stored true a v := by
  induction vs with
  | nil => exact ⟨rfl, rfl⟩
  | cons w vs ih =>
    obtain ⟨hcell, hsource⟩ := h w (by simp)
    have hagain : g.stored true (g.stored true a v) w = g.stored true a v := by
      simp [stored, hcell, hsource]
    have hsame : g.stored true a v w.cell = g.fbmmap (g.base + w.source) := by
      simp [stored, hcell, hsource]
    rw [found, List.foldl_cons, hagain, if_neg (not_not.mpr hsame)]
    exact ih (fun u hu => h u (by simp [hu]))

lemma found_rows (a : Memory (OutT out)) (js : List ℕ) (first : ℕ → Visit) (rest : ℕ → List Visit)
    (h : ∀ j, ∀ w ∈ rest j, w.cell = (first j).cell ∧ w.source = (first j).source) :
    g.found true a (js.flatMap (fun j => first j :: rest j)) = g.found true a (js.map first) := by
  induction js generalizing a with
  | nil => rfl
  | cons j js ih =>
    obtain ⟨hnone, hkept⟩ := g.found_again a (h j)
    rw [List.flatMap_cons, List.cons_append, List.map_cons, found, found, found_append, hnone, hkept, ih]
    rfl

end FbVncServer

end AndroidRemote.Display
