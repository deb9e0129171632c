import Mathlib.Data.Set.Lattice
import Mathlib.Data.Int.Interval
import Mathlib.Tactic

/-! Sets put together from the pieces of a list, and slabs: an interval of the integers times a
set. -/

namespace AndroidRemote.Library

section Pieces

variable {α X : Type*} {f : α → Set X} {x : X} {a : α} {l m : List α}

def pieces (f : α → Set X) (l : List α) : Set X := {x | ∃ a ∈ l, x ∈ f a}

@[simp] lemma mem_pieces : x ∈ pieces f l ↔ ∃ a ∈ l, x ∈ f a := Iff.rfl

@[simp] lemma pieces_nil : pieces f [] = ∅ := by
  ext x
  simp

@[simp] lemma pieces_cons : pieces f (a :: l) = f a ∪ pieces f l := by
  ext x
  simp

@[simp] lemma pieces_append : pieces f (l ++ m) = pieces f l ∪ pieces f m := by
  ext x
  simp [or_and_right, exists_or]

@[simp] lemma pieces_reverse : pieces f l.reverse = pieces f l := by
  ext x
  simp

lemma pieces_map {γ : Type*} {g : γ → α} {k : List γ} : pieces f (k.map g) = pieces (fun c => f (g c)) k := by
  ext x
  simp

lemma pieces_flatMap {γ : Type*} {g : γ → List α} {k : List γ} :
    pieces f (k.flatMap g) = pieces (fun c => pieces f (g c)) k := by
  ext x
  constructor
  · rintro ⟨a, ha, hx⟩
    obtain ⟨c, hc, hac⟩ := List.mem_flatMap.mp ha
    exact ⟨c, hc, a, hac, hx⟩
  · rintro ⟨c, hc, a, hac, hx⟩
    exact ⟨a, List.mem_flatMap.mpr ⟨c, hc, hac⟩, hx⟩

end Pieces

section Slabs

variable {β : Type*} {a b m : ℤ} {S T : Set β}

def slab (a b : ℤ) (S : Set β) : Set (ℤ × β) := Set.Ico a b ×ˢ S

@[simp] lemma mem_slab {p : ℤ × β} : p ∈ slab a b S ↔ (a ≤ p.1 ∧ p.1 < b) ∧ p.2 ∈ S := Iff.rfl

lemma slab_cut (ha : a ≤ m) (hb : m ≤ b) : slab a m S ∪ slab m b S = slab a b S := by
  rw [slab, slab, slab, ← Set.union_prod, Set.Ico_union_Ico_eq_Ico ha hb]

lemma slab_union_right : slab a b S ∪ slab a b T = slab a b (S ∪ T) := Set.prod_union.symm

lemma slab_eq_empty (h : b ≤ a) : slab a b S = ∅ := by
  rw [slab, Set.Ico_eq_empty (not_lt.mpr h), Set.empty_prod]

@[simp] lemma slab_empty : slab a b (∅ : Set β) = ∅ := Set.prod_empty

lemma slab_patch {C : Set (ℤ × β)} {x y z w : ℤ} (hy : a ≤ y) (hyx : y ≤ max a x) (hx : x ≤ b)
    (hz : z ≤ b)
    (haw : a ≤ w) (hw : slab z w S ⊆ C ∪ slab a x S ∪ slab y z S) :
    C ∪ slab a x S ∪ slab y z S ∪ slab w b S = C ∪ slab a b S := by
  ext p
  have h := @hw p
  simp only [Set.mem_union, mem_slab] at h ⊢
  grind

end Slabs

end AndroidRemote.Library
