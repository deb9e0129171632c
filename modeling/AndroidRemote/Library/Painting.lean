import Mathlib.Data.List.Basic
import Mathlib.Tactic

/-! Pictures by column and row, patches of one colour painted over them, and rectangles of one
picture placed in another. -/

namespace AndroidRemote.Library

variable {α : Type*}

abbrev Picture (α : Type*) := ℕ → ℕ → α

structure Patch (α : Type*) where
  x : ℕ
  y : ℕ
  w : ℕ
  h : ℕ
  pix : α
  deriving DecidableEq, Repr

namespace Patch

def Covers (p : Patch α) (i j : ℕ) : Prop := (p.x ≤ i ∧ i < p.x + p.w) ∧ p.y ≤ j ∧ j < p.y + p.h

instance (p : Patch α) (i j : ℕ) : Decidable (p.Covers i j) := inferInstanceAs (Decidable (_ ∧ _))

def Within (w h : ℕ) (p : Patch α) : Prop := p.x + p.w ≤ w ∧ p.y + p.h ≤ h

def shift (x y : ℕ) (p : Patch α) : Patch α := { p with x := x + p.x, y := y + p.y }

end Patch

def fill (p : Patch α) (pic : Picture α) : Picture α := fun i j => if p.Covers i j then p.pix else pic i j

def paint (ps : List (Patch α)) (pic : Picture α) : Picture α := ps.foldl (fun pic p => fill p pic) pic

@[simp] lemma paint_nil (pic : Picture α) : paint [] pic = pic := rfl

@[simp] lemma paint_cons (p : Patch α) (ps : List (Patch α)) (pic : Picture α) :
    paint (p :: ps) pic = paint ps (fill p pic) := rfl

lemma paint_concat (p : Patch α) (ps : List (Patch α)) (pic : Picture α) :
    paint (ps ++ [p]) pic = fill p (paint ps pic) := by
  simp [paint]

/-- The rectangle at `x`, `y` of `pic` replaced by the upper left corner of `data`. -/
def place (x y w h : ℕ) (data pic : Picture α) : Picture α :=
  fun i j => if (x ≤ i ∧ i < x + w) ∧ y ≤ j ∧ j < y + h then data (i - x) (j - y) else pic i j

lemma place_congr {x y w h : ℕ} {data data' pic : Picture α}
    (he : ∀ i < w, ∀ j < h, data i j = data' i j) : place x y w h data pic = place x y w h data' pic := by
  funext i j
  simp only [place]
  split
  · exact he _ (by omega) _ (by omega)
  · rfl

lemma paint_shift {x y w h : ℕ} {ps : List (Patch α)} {pic data : Picture α}
    (hp : ∀ p ∈ ps, p.Within w h) :
    paint (ps.map (Patch.shift x y)) (place x y w h data pic) = place x y w h (paint ps data) pic := by
  induction ps generalizing data with
  | nil => rfl
  | cons p ps ih =>
    obtain ⟨hw, hps⟩ := List.forall_mem_cons.mp hp
    have hfill : fill (p.shift x y) (place x y w h data pic) = place x y w h (fill p data) pic := by
      funext i j
      simp only [Patch.Within] at hw
      simp only [fill, place, Patch.shift, Patch.Covers]
      grind
    rw [List.map_cons, paint_cons, hfill, ih hps, paint_cons]

lemma paint_background {x y w h : ℕ} {ps : List (Patch α)} {bg : α} {pic data : Picture α}
    (hp : ∀ p ∈ ps, p.Within w h) (he : ∀ i < w, ∀ j < h, data i j = paint ps (fun _ _ => bg) i j) :
    paint (ps.map (Patch.shift x y)) (fill ⟨x, y, w, h, bg⟩ pic) = place x y w h data pic := by
  have hfill : fill ⟨x, y, w, h, bg⟩ pic = place x y w h (fun _ _ => bg) pic := rfl
  rw [place_congr he, hfill]
  exact paint_shift hp

lemma place_below {x y w h k : ℕ} {data pic : Picture α} :
    place x (y + k) w h (fun i j => data i (j + k)) (place x y w k data pic) = place x y w (k + h) data pic := by
  funext i j
  simp only [place]
  grind

lemma place_beside {x y w h k : ℕ} {data pic : Picture α} :
    place (x + k) y w h (fun i j => data (i + k) j) (place x y k h data pic) = place x y (k + w) h data pic := by
  funext i j
  simp only [place]
  grind

lemma foldl_place {τ : Type*} (view pic : Picture α) (x y w h : τ → ℕ) (ts : List τ) :
    ts.foldl (fun pic t => place (x t) (y t) (w t) (h t) (fun i j => view (x t + i) (y t + j)) pic) pic =
      fun i j => if ∃ t ∈ ts, (x t ≤ i ∧ i < x t + w t) ∧ y t ≤ j ∧ j < y t + h t then view i j
        else pic i j := by
  induction ts generalizing pic with
  | nil => simp
  | cons t ts ih =>
    rw [List.foldl_cons, ih]
    funext i j
    simp only [List.exists_mem_cons_iff, place]
    by_cases hts : ∃ t ∈ ts, (x t ≤ i ∧ i < x t + w t) ∧ y t ≤ j ∧ j < y t + h t
    · simp only [hts, or_true, if_true]
    · simp only [hts, or_false, if_false]
      split
      · rw [show x t + (i - x t) = i by omega, show y t + (j - y t) = j by omega]
      · rfl

end AndroidRemote.Library
