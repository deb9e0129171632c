import AndroidRemote.Display.Server

/-! The span lists of `rfbregion.c`. A list with a cursor `d_curr` in it is the spans before the
cursor, nearest first, and those from the cursor on. A `NULL` subspan is the value of `Unit`, so
a region is a list of bands whose subspans are lists of runs. -/

namespace AndroidRemote.Rfb

open Display

@[ext] structure SraSpan (σ : Type) where
  start : ℤ
  stop : ℤ
  subspan : σ
  deriving DecidableEq, Repr

abbrev SraSpanList (σ : Type) := List (SraSpan σ)

/-- The cursor `d_curr` of a loop, with the spans on both sides of it. -/
structure SraCursor (σ : Type) where
  before : SraSpanList σ
  curr : SraSpan σ
  after : SraSpanList σ

section

variable {σ : Type}

namespace SraCursor

def list (c : SraCursor σ) : SraSpanList σ := c.before.reverse ++ c.curr :: c.after

def insertBefore (a : SraSpan σ) (c : SraCursor σ) : SraCursor σ := { c with before := a :: c.before }

def withSubspan (t : σ) (c : SraCursor σ) : SraCursor σ := { c with curr := { c.curr with subspan := t } }

def dropBefore (b : ℤ) (c : SraCursor σ) : SraCursor σ :=
  if b > c.curr.start then { c with curr := { c.curr with start := b } } else c

def cutBefore (b : ℤ) (c : SraCursor σ) : SraCursor σ :=
  if b > c.curr.start then
    { c with before := ⟨c.curr.start, b, c.curr.subspan⟩ :: c.before, curr := { c.curr with start := b } }
  else c

def cutAfter (e : ℤ) (c : SraCursor σ) : SraCursor σ :=
  if e < c.curr.stop then
    { c with curr := { c.curr with stop := e }, after := ⟨e, c.curr.stop, c.curr.subspan⟩ :: c.after }
  else c

@[simp] lemma insertBefore_curr (a : SraSpan σ) (c : SraCursor σ) : (c.insertBefore a).curr = c.curr := rfl

@[simp] lemma insertBefore_after (a : SraSpan σ) (c : SraCursor σ) : (c.insertBefore a).after = c.after := rfl

@[simp] lemma withSubspan_stop (t : σ) (c : SraCursor σ) : (c.withSubspan t).curr.stop = c.curr.stop := rfl

@[simp] lemma withSubspan_after (t : σ) (c : SraCursor σ) : (c.withSubspan t).after = c.after := rfl

@[simp] lemma dropBefore_curr (b : ℤ) (c : SraCursor σ) :
    (c.dropBefore b).curr = ⟨max c.curr.start b, c.curr.stop, c.curr.subspan⟩ := by
  rw [dropBefore]
  split
  · rw [max_eq_right (by omega)]
  · rw [max_eq_left (by omega)]

@[simp] lemma dropBefore_before (b : ℤ) (c : SraCursor σ) : (c.dropBefore b).before = c.before := by
  rw [dropBefore]
  split <;> rfl

@[simp] lemma dropBefore_after (b : ℤ) (c : SraCursor σ) : (c.dropBefore b).after = c.after := by
  rw [dropBefore]
  split <;> rfl

@[simp] lemma cutBefore_stop (b : ℤ) (c : SraCursor σ) : (c.cutBefore b).curr.stop = c.curr.stop := by
  rw [cutBefore]
  split <;> rfl

@[simp] lemma cutBefore_curr_start (b : ℤ) (c : SraCursor σ) :
    (c.cutBefore b).curr.start = max c.curr.start b := by
  rw [cutBefore]
  split <;> simp <;> omega

@[simp] lemma cutAfter_before (e : ℤ) (c : SraCursor σ) : (c.cutAfter e).before = c.before := by
  rw [cutAfter]
  split <;> rfl

@[simp] lemma cutAfter_curr_start (e : ℤ) (c : SraCursor σ) :
    (c.cutAfter e).curr.start = c.curr.start := by
  rw [cutAfter]
  split <;> rfl

@[simp] lemma cutAfter_curr_subspan (e : ℤ) (c : SraCursor σ) :
    (c.cutAfter e).curr.subspan = c.curr.subspan := by
  rw [cutAfter]
  split <;> rfl

@[simp] lemma cutAfter_curr_stop (e : ℤ) (c : SraCursor σ) : (c.cutAfter e).curr.stop = min e c.curr.stop := by
  rw [cutAfter]
  split <;> simp <;> omega

lemma mem_cutBefore_before {b m : ℤ} {c : SraCursor σ} (h : ∀ a ∈ c.before, a.stop ≤ m) (hb : b ≤ m) :
    ∀ a ∈ (c.cutBefore b).before, a.stop ≤ m := by
  rw [cutBefore]
  split
  · exact List.forall_mem_cons.mpr ⟨hb, h⟩
  · exact h

@[simp] lemma cutBefore_after (b : ℤ) (c : SraCursor σ) : (c.cutBefore b).after = c.after := by
  rw [cutBefore]
  split <;> rfl

end SraCursor

/-- How many destination spans may still meet the source span. -/
def ahead : SraSpanList σ → SraSpanList σ → ℕ
  | d :: ds, s :: _ => if d.start ≥ s.stop then 0 else ds.length + 1
  | _, _ => 0

lemma ahead_le (ds src : SraSpanList σ) : ahead ds src ≤ ds.length := by
  unfold ahead
  split
  · split <;> simp
  · simp

lemma ahead_cons {d s : SraSpan σ} {ds src : SraSpanList σ} (h : ¬ d.start ≥ s.stop) :
    ahead (d :: ds) (s :: src) = ds.length + 1 := by
  simp only [ahead, if_neg h]

lemma ahead_cutAfter (s : SraSpan σ) (c : SraCursor σ) (src : SraSpanList σ) :
    ahead (c.cutAfter s.stop).after (s :: src) ≤ c.after.length := by
  rw [SraCursor.cutAfter]
  split
  · simp [ahead]
  · exact ahead_le _ _

/-- `sraSpanListAnd` at a source span that meets `d_curr`. -/
def andOverlap (s : SraSpan σ) (c : SraCursor σ) : SraCursor σ := (c.dropBefore s.start).cutAfter s.stop

lemma andOverlap_ahead (s : SraSpan σ) (c : SraCursor σ) (src : SraSpanList σ) :
    ahead (andOverlap s c).after (s :: src) ≤ c.after.length := by
  have h := ahead_cutAfter s (c.dropBefore s.start) src
  rwa [SraCursor.dropBefore_after] at h

/-- `sraSpanListSubtract` at a source span that meets `d_curr`. -/
def subtractOverlap (s : SraSpan σ) (c : SraCursor σ) : SraCursor σ := (c.cutBefore s.start).cutAfter s.stop

lemma subtractOverlap_ahead (s : SraSpan σ) (c : SraCursor σ) (src : SraSpanList σ) :
    ahead (subtractOverlap s c).after (s :: src) ≤ c.after.length := by
  have h := ahead_cutAfter s (c.cutBefore s.start) src
  rwa [SraCursor.cutBefore_after] at h

def sraSpanListEmpty (l : SraSpanList σ) : Bool := l.isEmpty

end

class Subspan (σ : Type) where
  null : Bool
  equal : σ → σ → Bool
  count : σ → ℕ
  or : σ → σ → σ
  and : σ → σ → σ × Bool
  subtract : σ → σ → σ × Bool

instance : Subspan Unit where
  null := true
  equal _ _ := true
  count _ := 1
  or _ _ := ()
  and _ _ := ((), true)
  subtract _ _ := ((), true)

section

variable {σ : Type} [Subspan σ]

def sraSpanListEqual : SraSpanList σ → SraSpanList σ → Bool
  | [], [] => true
  | a :: as, b :: bs =>
    if a.start ≠ b.start ∨ a.stop ≠ b.stop ∨ Subspan.equal a.subspan b.subspan = false then false
    else sraSpanListEqual as bs
  | _, _ => false

def sraSpanListCount : SraSpanList σ → ℕ
  | [] => 0
  | a :: as => Subspan.count a.subspan + sraSpanListCount as

def sraSpanMergePrevious : SraSpanList σ → SraSpan σ → SraSpanList σ × SraSpan σ
  | [], dest => ([], dest)
  | prev :: before, dest =>
    if prev.stop = dest.start ∧ Subspan.equal prev.subspan dest.subspan then
      sraSpanMergePrevious before { dest with start := prev.start }
    else (prev :: before, dest)

def sraSpanMergeNext (dest : SraSpan σ) : SraSpanList σ → SraSpan σ × SraSpanList σ
  | [] => (dest, [])
  | next :: after =>
    if next.start = dest.stop ∧ Subspan.equal next.subspan dest.subspan then
      sraSpanMergeNext { dest with stop := next.stop } after
    else (dest, next :: after)

lemma sraSpanMergePrevious_stop (before : SraSpanList σ) (dest : SraSpan σ) :
    (sraSpanMergePrevious before dest).2.stop = dest.stop := by
  induction before generalizing dest with
  | nil => rfl
  | cons prev before ih =>
    rw [sraSpanMergePrevious]
    split
    · rw [ih]
    · rfl

lemma sraSpanMergeNext_progress (dest : SraSpan σ) (after : SraSpanList σ) :
    sraSpanMergeNext dest after = (dest, after) ∨ (sraSpanMergeNext dest after).2.length < after.length := by
  induction after generalizing dest with
  | nil => exact Or.inl rfl
  | cons next after ih =>
    rw [sraSpanMergeNext]
    split
    · rcases ih { dest with stop := next.stop } with h | h
      · exact Or.inr (by simp [h])
      · exact Or.inr (h.trans (by simp))
    · exact Or.inl rfl

namespace SraCursor

def mergePrevious (c : SraCursor σ) : SraCursor σ :=
  let m := sraSpanMergePrevious c.before c.curr
  { c with before := m.1, curr := m.2 }

def mergeNext (c : SraCursor σ) : SraCursor σ :=
  let m := sraSpanMergeNext c.curr c.after
  { c with curr := m.1, after := m.2 }

@[simp] lemma mergePrevious_stop (c : SraCursor σ) : c.mergePrevious.curr.stop = c.curr.stop :=
  sraSpanMergePrevious_stop _ _

@[simp] lemma mergePrevious_after (c : SraCursor σ) : c.mergePrevious.after = c.after := rfl

lemma mergeNext_after_cut {e : ℤ} {c c' : SraCursor σ} (hs : c'.curr.stop = (c.cutAfter e).curr.stop)
    (ha : c'.after = (c.cutAfter e).after) (h : e > c'.mergeNext.curr.stop) :
    c'.mergeNext.after.length ≤ c.after.length := by
  simp only [mergeNext] at h ⊢
  rw [cutAfter] at hs ha
  rcases sraSpanMergeNext_progress c'.curr c'.after with hm | hm
  · rw [hm] at h ⊢
    split at hs
    · simp only at hs h
      omega
    · rw [if_neg (by assumption)] at ha
      simp [ha]
  · split at ha <;> simp only [ha, List.length_cons] at hm ⊢ <;> omega

end SraCursor

def orHead (s : SraSpan σ) (c : SraCursor σ) : SraCursor σ :=
  if s.start < c.curr.start then (c.insertBefore ⟨s.start, c.curr.start, s.subspan⟩).mergePrevious else c

/-- `sraSpanListOr` at a source span that meets `d_curr`. -/
def orOverlap (s : SraSpan σ) (c : SraCursor σ) : SraCursor σ :=
  let c := ((orHead s c).cutAfter s.stop).cutBefore s.start
  (c.withSubspan (Subspan.or c.curr.subspan s.subspan)).mergePrevious.mergeNext

lemma orOverlap_after (s : SraSpan σ) (c : SraCursor σ) (h : s.stop > (orOverlap s c).curr.stop) :
    (orOverlap s c).after.length ≤ c.after.length := by
  have hafter : (orHead s c).after = c.after := by
    rw [orHead]
    split <;> simp
  rw [← hafter]
  exact SraCursor.mergeNext_after_cut (by simp) (by simp) h

/-- `s_start` and `s_end` are the bounds of the head of the source. -/
def sraSpanListOrLoop (before : SraSpanList σ) : SraSpanList σ → SraSpanList σ → SraSpanList σ
  | rest, [] => before.reverse ++ rest
  | [], s :: src => sraSpanListOrLoop (s :: before) [] src
  | d :: ds, s :: src =>
    if d.start ≥ s.stop then
      let c := SraCursor.mergePrevious ⟨s :: before, d, ds⟩
      sraSpanListOrLoop c.before (c.curr :: c.after) src
    else if s.start < d.stop ∧ s.stop > d.start then
      let c := orOverlap s ⟨before, d, ds⟩
      if h : s.stop > c.curr.stop then
        have := orOverlap_after s ⟨before, d, ds⟩ h
        sraSpanListOrLoop (c.curr :: c.before) c.after ({ s with start := c.curr.stop } :: src)
      else sraSpanListOrLoop c.before (c.curr :: c.after) src
    else sraSpanListOrLoop (d :: before) ds (s :: src)
termination_by rest src => (src.length, rest.length)
decreasing_by
  all_goals simp_wf
  all_goals grind

def sraSpanListOr (dest src : SraSpanList σ) : SraSpanList σ := sraSpanListOrLoop [] dest src

def sraSpanListAndLoop (before : SraSpanList σ) : SraSpanList σ → SraSpanList σ → SraSpanList σ
  | _, [] => before.reverse
  | [], _ => before.reverse
  | d :: ds, s :: src =>
    if d.start ≥ s.stop then sraSpanListAndLoop before (d :: ds) src
    else if d.stop ≤ s.start then
      have := ahead_le ds (s :: src)
      sraSpanListAndLoop before ds (s :: src)
    else
      let c := andOverlap s ⟨before, d, ds⟩
      have := andOverlap_ahead s ⟨before, d, ds⟩ src
      let r := Subspan.and c.curr.subspan s.subspan
      if r.2 = false then sraSpanListAndLoop c.before c.after (s :: src)
      else
        let c' := (c.withSubspan r.1).mergePrevious
        if s.stop ≥ c'.curr.stop then
          if s.stop ≤ c'.curr.stop then sraSpanListAndLoop (c'.curr :: c'.before) c'.after src
          else sraSpanListAndLoop (c'.curr :: c'.before) c'.after (s :: src)
        else sraSpanListAndLoop c'.before (c'.curr :: c'.after) src
termination_by rest src => (src.length, ahead rest src)
decreasing_by
  all_goals simp_wf
  all_goals first
    | exact Prod.Lex.left _ _ (Nat.lt_succ_self _)
    | rw [ahead_cons (by assumption)]
      exact Prod.Lex.right _ (Nat.lt_succ_of_le (by assumption))

def sraSpanListAnd (dest src : SraSpanList σ) : SraSpanList σ × Bool :=
  let l := sraSpanListAndLoop [] dest src
  (l, !sraSpanListEmpty l)

lemma subtractOverlap_after (s : SraSpan σ) (c : SraCursor σ) (t : σ)
    (h : s.stop > ((subtractOverlap s c).withSubspan t).mergePrevious.mergeNext.curr.stop) :
    ((subtractOverlap s c).withSubspan t).mergePrevious.mergeNext.after.length ≤ c.after.length := by
  have hc := SraCursor.mergeNext_after_cut (c := c.cutBefore s.start) (by simp [subtractOverlap])
    (by simp [subtractOverlap]) h
  rwa [SraCursor.cutBefore_after] at hc

def sraSpanListSubtractLoop (before : SraSpanList σ) : SraSpanList σ → SraSpanList σ → SraSpanList σ
  | rest, [] => before.reverse ++ rest
  | [], _ => before.reverse
  | d :: ds, s :: src =>
    if d.start ≥ s.stop then sraSpanListSubtractLoop before (d :: ds) src
    else if d.stop ≤ s.start then
      have := ahead_le ds (s :: src)
      sraSpanListSubtractLoop (d :: before) ds (s :: src)
    else
      let c := subtractOverlap s ⟨before, d, ds⟩
      have := subtractOverlap_ahead s ⟨before, d, ds⟩ src
      let r := Subspan.subtract c.curr.subspan s.subspan
      if Subspan.null σ = true ∨ r.2 = false then sraSpanListSubtractLoop c.before c.after (s :: src)
      else
        let c' := (c.withSubspan r.1).mergePrevious.mergeNext
        if h : s.stop > c'.curr.stop then
          have := (ahead_le _ (s :: src)).trans (subtractOverlap_after s ⟨before, d, ds⟩ r.1 h)
          sraSpanListSubtractLoop (c'.curr :: c'.before) c'.after (s :: src)
        else sraSpanListSubtractLoop c'.before (c'.curr :: c'.after) src
termination_by rest src => (src.length, ahead rest src)
decreasing_by
  all_goals simp_wf
  all_goals first
    | exact Prod.Lex.left _ _ (Nat.lt_succ_self _)
    | rw [ahead_cons (by assumption)]
      exact Prod.Lex.right _ (Nat.lt_succ_of_le (by assumption))

def sraSpanListSubtract (dest src : SraSpanList σ) : SraSpanList σ × Bool :=
  let l := sraSpanListSubtractLoop [] dest src
  (l, !sraSpanListEmpty l)

instance : Subspan (SraSpanList σ) where
  null := false
  equal := sraSpanListEqual
  count := sraSpanListCount
  or := sraSpanListOr
  and := sraSpanListAnd
  subtract := sraSpanListSubtract

end

abbrev SraBand := SraSpan (SraSpanList Unit)

abbrev SraRegion := SraSpanList (SraSpanList Unit)

def sraRgnCreate : SraRegion := []

def sraRgnCreateRect (x1 y1 x2 y2 : ℤ) : SraRegion := [⟨y1, y2, [⟨x1, x2, ()⟩]⟩]

def sraRgnOr (dst src : SraRegion) : SraRegion := sraSpanListOr dst src

def sraRgnAnd (dst src : SraRegion) : SraRegion × Bool := sraSpanListAnd dst src

def sraRgnSubtract (dst src : SraRegion) : SraRegion × Bool := sraSpanListSubtract dst src

def sraRgnEmpty (rgn : SraRegion) : Bool := sraSpanListEmpty rgn

def sraRgnCountRects (rgn : SraRegion) : ℕ := sraSpanListCount rgn

/-- Coordinates are unbounded integers: those of a screen, moved by less than a screen, are far
inside the machine's range. -/
def sraRgnOffset (dst : SraRegion) (dx dy : ℤ) : SraRegion :=
  dst.map fun v => ⟨v.start + dy, v.stop + dy, v.subspan.map fun h => ⟨h.start + dx, h.stop + dx, ()⟩⟩

def bboxRun (b : Rect) (h : SraSpan Unit) : Rect :=
  { b with
    x1 := if h.start < b.x1 then h.start else b.x1
    x2 := if h.stop > b.x2 then h.stop else b.x2 }

def bboxBand (b : Rect) (v : SraBand) : Rect :=
  v.subspan.foldl bboxRun { b with
    y1 := if v.start < b.y1 then v.start else b.y1
    y2 := if v.stop > b.y2 then v.stop else b.y2 }

def intMax : ℤ := 2 ^ 31 - 1

def sraRgnBBox (src : SraRegion) : SraRegion :=
  let b := src.foldl bboxBand ⟨intMax, intMax, 1 - intMax, 1 - intMax⟩
  if b.x2 < b.x1 ∨ b.y2 < b.y1 then sraRgnCreate else sraRgnCreateRect b.x1 b.y1 b.x2 b.y2

def directed {α : Type} (reverse : Bool) (l : List α) : List α := if reverse then l.reverse else l

def sraRgnPopRect (rgn : SraRegion) (right2left bottom2top : Bool) : Option (Rect × SraRegion) :=
  match directed bottom2top rgn with
  | [] => none
  | v :: vs =>
    match directed right2left v.subspan with
    | [] => none
    | h :: hs =>
      let left := directed right2left hs
      some (⟨h.start, v.start, h.stop, v.stop⟩,
        directed bottom2top (if sraSpanListEmpty left then vs else { v with subspan := left } :: vs))

/-- `bands` is what follows `sPtrs[0]` in the iterator's direction, with `y1` and `y2` from
`sPtrs[0]` itself; `runs` is what follows `sPtrs[2]`. -/
structure SraRectangleIterator where
  reverseX : Bool
  y1 : ℤ
  y2 : ℤ
  bands : SraRegion
  runs : SraSpanList Unit

def sraRgnGetReverseIterator (s : SraRegion) (reverseX reverseY : Bool) : SraRectangleIterator where
  reverseX := reverseX
  y1 := 0
  y2 := 0
  bands := directed reverseY s
  runs := []

def sraRgnGetIterator (s : SraRegion) : SraRectangleIterator := sraRgnGetReverseIterator s false false

def sraRgnIteratorNext (i : SraRectangleIterator) : Option (Rect × SraRectangleIterator) :=
  match i.runs, i.bands with
  | h :: runs, _ => some (⟨h.start, i.y1, h.stop, i.y2⟩, { i with runs := runs })
  | [], [] => none
  | [], v :: bands =>
    match directed i.reverseX v.subspan with
    | [] => none
    | h :: runs =>
      some (⟨h.start, v.start, h.stop, v.stop⟩,
        { i with y1 := v.start, y2 := v.stop, bands := bands, runs := runs })

lemma sraRgnIteratorNext_lt {i j : SraRectangleIterator} {r : Rect} (h : sraRgnIteratorNext i = some (r, j)) :
    Prod.Lex (· < ·) (· < ·) (j.bands.length, j.runs.length) (i.bands.length, i.runs.length) := by
  rw [sraRgnIteratorNext] at h
  split at h
  · rename_i hr
    obtain ⟨-, rfl⟩ := by simpa using h
    exact Prod.Lex.right _ (by simp [hr])
  · simp at h
  · rename_i hr
    split at h
    · simp at h
    · obtain ⟨-, rfl⟩ := by simpa using h
      exact Prod.Lex.left _ _ (by simp [hr])

/-- The rectangles of `while (sraRgnIteratorNext(i, &rect))`. -/
def SraRectangleIterator.rects (i : SraRectangleIterator) : List Rect :=
  match _h : sraRgnIteratorNext i with
  | none => []
  | some (r, j) => r :: j.rects
termination_by (i.bands.length, i.runs.length)
decreasing_by exact sraRgnIteratorNext_lt _h

end AndroidRemote.Rfb
