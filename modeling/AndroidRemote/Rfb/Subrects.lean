import AndroidRemote.Library.Fallible
import AndroidRemote.Library.Painting
import Mathlib.Data.List.Basic
import Mathlib.Tactic

/-! The search that the rising rectangle encoders share: a tile is its background overwritten by
rectangles of one colour, each anchored at the first cell not yet accounted for. -/

namespace AndroidRemote.Rfb

open Library

variable {α : Type} [DecidableEq α]

/-- `i` after `while ((seg[i] == cl) && (i < w)) i += 1`. -/
def runEnd (data : Picture α) (cl : α) (w j i : ℕ) : ℕ :=
  if i < w ∧ data i j = cl then runEnd data cl w j (i + 1) else i
termination_by w - i

structure Search where
  hx : ℤ
  hy : ℤ
  vx : ℤ
  hyflag : Bool

def Search.row (s : Search) (y j : ℕ) (i : ℤ) : Search :=
  let s := if j = y then { s with hx := i, vx := i } else s
  let s := if i < s.vx then { s with vx := i } else s
  if s.hyflag ∧ s.hx ≤ i then { s with hy := s.hy + 1 } else { s with hyflag := false }

def searchRows (data : Picture α) (cl : α) (w h x y j : ℕ) (s : Search) : Search × ℕ :=
  if j < h ∧ data x j = cl then searchRows data cl w h x y (j + 1) (s.row y j (runEnd data cl w j x - 1)) else (s, j)
termination_by h - j

def biggerSubrect (data : Picture α) (w h x y : ℕ) : Patch α :=
  let found := searchRows data (data x y) w h x y y ⟨0, y - 1, 0, true⟩
  let hw := found.1.hx - x + 1
  let hh := found.1.hy - y + 1
  let vw := found.1.vx - x + 1
  let vh := (found.2 - 1 : ℤ) - y + 1
  if vw * vh < hw * hh then ⟨x, y, hw.toNat, hh.toNat, data x y⟩ else ⟨x, y, vw.toNat, vh.toNat, data x y⟩

section search

variable {data : Picture α} {cl : α} {w h x y j : ℕ} {s : Search}

lemma runEnd_spec (data : Picture α) (cl : α) (w j i : ℕ) :
    (i ≤ runEnd data cl w j i ∧ (i ≤ w → runEnd data cl w j i ≤ w)) ∧
      ∀ k, i ≤ k → k < runEnd data cl w j i → data k j = cl := by
  fun_induction runEnd data cl w j i with
  | case1 i hi ih =>
    obtain ⟨⟨hle, hw⟩, hrun⟩ := ih
    refine ⟨⟨by omega, fun _ => hw hi.1⟩, fun k hk hlt => ?_⟩
    rcases Nat.eq_or_lt_of_le hk with rfl | hk
    · exact hi.2
    · exact hrun k hk hlt
  | case2 i hi => exact ⟨⟨le_rfl, id⟩, by omega⟩

lemma lt_runEnd (hx : x < w) (hc : data x j = cl) : x < runEnd data cl w j x := by
  rw [runEnd, if_pos ⟨hx, hc⟩]
  exact (runEnd_spec data cl w j _).1.1

structure Found (data : Picture α) (cl : α) (w x y j : ℕ) (s : Search) : Prop where
  hx_range : x ≤ s.hx ∧ s.hx < w
  vx_range : x ≤ s.vx ∧ s.vx < w
  hy_range : y ≤ s.hy ∧ s.hy < j
  last : s.hyflag → s.hy = j - 1
  horizontal : ∀ i k : ℕ, x ≤ i → i ≤ s.hx → y ≤ k → k ≤ s.hy → data i k = cl
  vertical : ∀ i k : ℕ, x ≤ i → i ≤ s.vx → y ≤ k → k < j → data i k = cl

lemma found_first (hx : x < w) (hc : data x y = cl) :
    Found data cl w x y (y + 1) (Search.row ⟨0, y - 1, 0, true⟩ y y (runEnd data cl w y x - 1)) := by
  obtain ⟨⟨-, hw⟩, hrun⟩ := runEnd_spec data cl w y x
  have hlt := lt_runEnd hx hc
  have hle := hw hx.le
  simp only [Search.row, if_true, lt_irrefl, if_false, le_refl, and_self]
  constructor
  · simp; omega
  · simp; omega
  · simp
  · simp
  · intro i k hi hi' hk hk'
    obtain rfl : k = y := by simp at hk'; omega
    exact hrun i hi (by simp at hi'; omega)
  · intro i k hi hi' hk hk'
    obtain rfl : k = y := by omega
    exact hrun i hi (by simp at hi'; omega)

lemma Search.row_later (hj : j ≠ y) (i : ℤ) :
    s.row y j i =
      ⟨s.hx, if s.hyflag ∧ s.hx ≤ i then s.hy + 1 else s.hy, min s.vx i, decide (s.hyflag ∧ s.hx ≤ i)⟩ := by
  simp only [Search.row, if_neg hj]
  have hmin : (if i < s.vx then { s with vx := i } else s) = { s with vx := min s.vx i } := by
    split_ifs with hi
    · rw [min_eq_right hi.le]
    · rw [min_eq_left (not_lt.mp hi)]
  rw [hmin]
  split_ifs with hgo
  · simp [hgo]
  · simp [hgo]

lemma Found.row (hf : Found data cl w x y j s) (hy : y < j) (hx : x < w) (hc : data x j = cl) :
    Found data cl w x y (j + 1) (s.row y j (runEnd data cl w j x - 1)) := by
  obtain ⟨⟨-, hw⟩, hrun⟩ := runEnd_spec data cl w j x
  have hlt := lt_runEnd hx hc
  have hle := hw hx.le
  generalize runEnd data cl w j x = e at *
  have hrow (i : ℕ) (hi : x ≤ i) (he : (i : ℤ) ≤ e - 1) : data i j = cl := hrun i hi (by omega)
  have hvx := hf.vx_range
  have hhy := hf.hy_range
  rw [Search.row_later hy.ne']
  constructor
  · exact hf.hx_range
  · simp only [le_min_iff, min_lt_iff]
    omega
  · dsimp only
    split_ifs <;> omega
  · intro hflag
    have hgo := of_decide_eq_true hflag
    have hlast := hf.last hgo.1
    dsimp only
    rw [if_pos hgo]
    omega
  · intro i k hi hi' hk hk'
    dsimp only at hi' hk'
    split_ifs at hk' with hgo
    · have hlast := hf.last hgo.1
      rcases Nat.lt_or_ge k j with hlt' | hge
      · exact hf.horizontal i k hi hi' hk (by omega)
      · obtain rfl : k = j := by omega
        exact hrow i hi (hi'.trans hgo.2)
    · exact hf.horizontal i k hi hi' hk hk'
  · intro i k hi hi' hk hk'
    have hmin := le_min_iff.mp hi'
    rcases Nat.lt_or_ge k j with hlt' | hge
    · exact hf.vertical i k hi hmin.1 hk hlt'
    · obtain rfl : k = j := by omega
      exact hrow i hi hmin.2

lemma Found.rows (hf : Found data cl w x y j s) (hy : y < j) (hx : x < w) (hj : j ≤ h) :
    Found data cl w x y (searchRows data cl w h x y j s).2 (searchRows data cl w h x y j s).1 ∧
      j ≤ (searchRows data cl w h x y j s).2 ∧ (searchRows data cl w h x y j s).2 ≤ h := by
  fun_induction searchRows data cl w h x y j s with
  | case1 j s hc ih =>
    obtain ⟨hrest, hle, hh⟩ := ih (hf.row hy hx hc.2) (by omega) (by omega)
    exact ⟨hrest, by omega, hh⟩
  | case2 j s hc => exact ⟨hf, le_rfl, hj⟩

lemma searchRows_first (hy : j < h) (hc : data x j = cl) :
    searchRows data cl w h x y j s = searchRows data cl w h x y (j + 1) (s.row y j (runEnd data cl w j x - 1)) := by
  conv_lhs => rw [searchRows, if_pos ⟨hy, hc⟩]

lemma biggerSubrect_found (data : Picture α) (hx : x < w) (hy : y < h) :
    ∃ s j, Found data (data x y) w x y j s ∧ (y < j ∧ j ≤ h) ∧
      (biggerSubrect data w h x y = ⟨x, y, (s.hx - x + 1).toNat, (s.hy - y + 1).toNat, data x y⟩ ∨
        biggerSubrect data w h x y = ⟨x, y, (s.vx - x + 1).toNat, ((j - 1 : ℤ) - y + 1).toNat, data x y⟩) := by
  have hfirst : Found data (data x y) w x y (y + 1) _ := found_first hx rfl
  obtain ⟨hf, hle, hh⟩ := hfirst.rows (Nat.lt_succ_self y) hx hy
  refine ⟨_, _, hf, ⟨hle, hh⟩, ?_⟩
  simp only [biggerSubrect, searchRows_first hy rfl]
  split_ifs
  · exact .inl rfl
  · exact .inr rfl

structure Anchored (data : Picture α) (w h x y : ℕ) (sub : Patch α) : Prop where
  x_eq : sub.x = x
  y_eq : sub.y = y
  pix_eq : sub.pix = data x y
  pos : 0 < sub.w ∧ 0 < sub.h
  within : sub.Within w h
  uniform : ∀ i j, sub.Covers i j → data i j = data x y

omit [DecidableEq α] in
lemma anchored_span {right bottom : ℤ} (hright : x ≤ right ∧ right < w) (hbottom : y ≤ bottom ∧ bottom < h)
    (huniform : ∀ i k : ℕ, x ≤ i → i ≤ right → y ≤ k → k ≤ bottom → data i k = data x y) :
    Anchored data w h x y ⟨x, y, (right - x + 1).toNat, (bottom - y + 1).toNat, data x y⟩ := by
  refine ⟨rfl, rfl, rfl, ⟨?_, ?_⟩, ⟨?_, ?_⟩, fun i k hc => ?_⟩
  · dsimp only
    omega
  · dsimp only
    omega
  · dsimp only
    omega
  · dsimp only
    omega
  · simp only [Patch.Covers] at hc
    exact huniform i k (by omega) (by omega) (by omega) (by omega)

lemma anchored_biggerSubrect (data : Picture α) (hx : x < w) (hy : y < h) :
    Anchored data w h x y (biggerSubrect data w h x y) := by
  obtain ⟨s, j, hf, ⟨hyj, hjh⟩, hsub | hsub⟩ := biggerSubrect_found data hx hy
  · have hhy := hf.hy_range
    rw [hsub]
    exact anchored_span hf.hx_range ⟨hhy.1, by omega⟩ hf.horizontal
  · rw [hsub]
    refine anchored_span hf.vx_range ⟨by omega, by omega⟩ ?_
    exact fun i k hx hi hy hk => hf.vertical i k hx hi hy (by omega)

end search

def scan (w h : ℕ) : List (ℕ × ℕ) := (List.range h).flatMap fun y => (List.range w).map fun x => (x, y)

lemma mem_scan {w h : ℕ} {p : ℕ × ℕ} : p ∈ scan w h ↔ p.1 < w ∧ p.2 < h := by
  obtain ⟨x, y⟩ := p
  simp [scan, and_comm]

lemma length_scan (w h : ℕ) : (scan w h).length = w * h := by
  simp [scan, mul_comm]

structure Encoded (α : Type) where
  data : Picture α
  after : List UInt8
  numsubs : ℕ

section encode

-- `base` bytes stand before `after` in what `newLen` measures
variable (put : Patch α → List UInt8) (base cost limit w h : ℕ) (bg : α)

def subrectStep (e : Encoded α) (p : ℕ × ℕ) : Option (Encoded α) :=
  if e.data p.1 p.2 = bg then some e
  else
    let sub := biggerSubrect e.data w h p.1 p.2
    let newLen := base + e.after.length + cost
    if limit < newLen then none
    else some ⟨fill { sub with pix := bg } e.data, e.after ++ put sub, e.numsubs + 1⟩

def subrectEncode (data : Picture α) (start : List UInt8) : Option (Encoded α) :=
  (scan w h).foldlM (subrectStep put base cost limit w h bg) ⟨data, start, 0⟩

structure Progress (orig : Picture α) (start : List UInt8) (seen : List (ℕ × ℕ)) (e : Encoded α)
    (subs : List (Patch α)) : Prop where
  cells : ∀ i < w, ∀ j < h,
    (e.data i j = bg → orig i j = paint subs (fun _ _ => bg) i j) ∧ (e.data i j ≠ bg → orig i j = e.data i j)
  done : ∀ p ∈ seen, e.data p.1 p.2 = bg
  within : ∀ s ∈ subs, s.Within w h ∧ 0 < s.w ∧ 0 < s.h
  colours : ∀ s ∈ subs, s.pix ≠ bg ∧ ∃ i < w, ∃ j < h, orig i j = s.pix
  after_eq : e.after = start ++ subs.flatMap put
  numsubs_eq : e.numsubs = subs.length
  few : subs.length ≤ (seen.filter fun p => orig p.1 p.2 ≠ bg).length
  small : subs ≠ [] → base + e.after.length ≤ limit

variable {put base cost limit w h bg}

lemma progress_start (orig : Picture α) (start : List UInt8) :
    Progress put base limit w h bg orig start [] ⟨orig, start, 0⟩ [] := by
  constructor
  · exact fun i _ j _ => ⟨fun hb => hb, fun _ => rfl⟩
  all_goals simp

lemma subrectStep_cases {e e' : Encoded α} {p : ℕ × ℕ}
    (hs : subrectStep put base cost limit w h bg e p = some e') :
    (e.data p.1 p.2 = bg ∧ e' = e) ∨
      (e.data p.1 p.2 ≠ bg ∧ base + e.after.length + cost ≤ limit ∧
        e' = ⟨fill { biggerSubrect e.data w h p.1 p.2 with pix := bg } e.data,
          e.after ++ put (biggerSubrect e.data w h p.1 p.2), e.numsubs + 1⟩) := by
  rw [subrectStep] at hs
  split at hs
  · next hbg => exact .inl ⟨hbg, (Option.some.inj hs).symm⟩
  · next hbg =>
    dsimp only at hs
    split at hs
    · simp at hs
    · next hlen => exact .inr ⟨hbg, not_lt.mp hlen, (Option.some.inj hs).symm⟩

variable {orig : Picture α} {start : List UInt8} {seen : List (ℕ × ℕ)} {e e' : Encoded α}
  {subs : List (Patch α)}
  {p : ℕ × ℕ}

lemma Progress.skip (hp : Progress put base limit w h bg orig start seen e subs) (hbg : e.data p.1 p.2 = bg) :
    Progress put base limit w h bg orig start (seen ++ [p]) e subs where
  cells := hp.cells
  done := by
    intro q hq
    rcases List.mem_append.mp hq with hq | hq
    · exact hp.done q hq
    · obtain rfl := List.mem_singleton.mp hq
      exact hbg
  within := hp.within
  colours := hp.colours
  after_eq := hp.after_eq
  numsubs_eq := hp.numsubs_eq
  few := by
    rw [List.filter_append, List.length_append]
    exact Nat.le_add_right_of_le hp.few
  small := hp.small

lemma Progress.found {sub : Patch α} (hp : Progress put base limit w h bg orig start seen e subs)
    (hput : ∀ s, (put s).length = cost) (hx : p.1 < w) (hy : p.2 < h) (hbg : e.data p.1 p.2 ≠ bg)
    (hlen : base + e.after.length + cost ≤ limit) (hsub : Anchored e.data w h p.1 p.2 sub) :
    Progress put base limit w h bg orig start (seen ++ [p])
      ⟨fill { sub with pix := bg } e.data, e.after ++ put sub, e.numsubs + 1⟩ (subs ++ [sub]) := by
  have horig : orig p.1 p.2 = e.data p.1 p.2 := (hp.cells p.1 hx p.2 hy).2 hbg
  have hcolour : sub.pix ≠ bg := hsub.pix_eq ▸ hbg
  have hcovers : sub.Covers p.1 p.2 := by
    have hpos := hsub.pos
    simp only [Patch.Covers, hsub.x_eq, hsub.y_eq]
    omega
  constructor
  · intro i hi j hj
    rw [paint_concat]
    by_cases hc : sub.Covers i j
    · -- a cell of the rectangle had its colour, and is now done
      have hdata := (hsub.uniform i j hc).trans hsub.pix_eq.symm
      have hnow : fill sub (paint subs fun _ _ => bg) i j = sub.pix := if_pos hc
      refine ⟨fun _ => ?_, fun hne => absurd (if_pos hc) hne⟩
      rw [hnow, (hp.cells i hi j hj).2 (hdata ▸ hcolour), hdata]
    · have hmark : fill { sub with pix := bg } e.data i j = e.data i j := if_neg hc
      have hnow : fill sub (paint subs fun _ _ => bg) i j = paint subs (fun _ _ => bg) i j := if_neg hc
      rw [hnow]
      dsimp only
      rw [hmark]
      exact hp.cells i hi j hj
  · intro q hq
    by_cases hc : sub.Covers q.1 q.2
    · exact if_pos hc
    · have hq' : q ∈ seen := by
        rcases List.mem_append.mp hq with hq | hq
        · exact hq
        · obtain rfl := List.mem_singleton.mp hq
          exact absurd hcovers hc
      exact (if_neg hc).trans (hp.done q hq')
  · intro s hs
    rcases List.mem_append.mp hs with hs | hs
    · exact hp.within s hs
    · obtain rfl := List.mem_singleton.mp hs
      exact ⟨hsub.within, hsub.pos⟩
  · intro s hs
    rcases List.mem_append.mp hs with hs | hs
    · exact hp.colours s hs
    · obtain rfl := List.mem_singleton.mp hs
      exact ⟨hcolour, p.1, hx, p.2, hy, horig.trans hsub.pix_eq.symm⟩
  · rw [List.flatMap_append, hp.after_eq, List.append_assoc]
    simp
  · rw [hp.numsubs_eq, List.length_append, List.length_singleton]
  · have hone : [p].filter (fun q => orig q.1 q.2 ≠ bg) = [p] := by simp [horig, hbg]
    rw [List.filter_append, List.length_append, List.length_append, hone]
    exact Nat.add_le_add_right hp.few 1
  · intro _
    rw [List.length_append, hput]
    omega

lemma Progress.step (hp : Progress put base limit w h bg orig start seen e subs)
    (hput : ∀ s, (put s).length = cost) (hx : p.1 < w) (hy : p.2 < h)
    (hs : subrectStep put base cost limit w h bg e p = some e') :
    ∃ subs', Progress put base limit w h bg orig start (seen ++ [p]) e' subs' := by
  obtain ⟨hbg, rfl⟩ | ⟨hbg, hlen, rfl⟩ := subrectStep_cases hs
  · exact ⟨subs, hp.skip hbg⟩
  · exact ⟨_, hp.found hput hx hy hbg hlen (anchored_biggerSubrect e.data hx hy)⟩

lemma subrectEncode_progress (hput : ∀ s, (put s).length = cost)
    (hs : subrectEncode put base cost limit w h bg orig start = some e) :
    ∃ subs, Progress put base limit w h bg orig start (scan w h) e subs := by
  refine foldlM_invariant (fun seen e => ∃ subs, Progress put base limit w h bg orig start seen e subs) ?_ ?_ hs
  · rintro seen p e e' hp ⟨subs, hprog⟩ hstep
    obtain ⟨hx, hy⟩ := mem_scan.mp hp
    exact hprog.step hput hx hy hstep
  · exact ⟨[], progress_start orig start⟩

lemma Progress.painted (hp : Progress put base limit w h bg orig start (scan w h) e subs) :
    ∀ i < w, ∀ j < h, orig i j = paint subs (fun _ _ => bg) i j := by
  intro i hi j hj
  exact (hp.cells i hi j hj).1 (hp.done (i, j) (mem_scan.mpr ⟨hi, hj⟩))

lemma Progress.numsubs_lt (hp : Progress put base limit w h bg orig start (scan w h) e subs) {i j : ℕ} (hi : i < w)
    (hj : j < h) (hbg : orig i j = bg) : subs.length < w * h := by
  refine hp.few.trans_lt ?_
  rw [← length_scan w h]
  exact List.length_filter_lt_length_iff_exists.mpr ⟨(i, j), mem_scan.mpr ⟨hi, hj⟩, by simp [hbg]⟩

end encode

end AndroidRemote.Rfb
