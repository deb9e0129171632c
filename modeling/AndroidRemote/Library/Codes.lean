import Mathlib.InformationTheory.Coding.UniquelyDecodable
import Mathlib.Tactic

/-! Sets of words none of which begins another, and lists of letters that two codes tell apart alike. -/

namespace AndroidRemote.Library

open InformationTheory

variable {α : Type*} {S : Set (List α)}

lemma uniquelyDecodable_of_prefix (hne : [] ∉ S) (hp : ∀ u ∈ S, ∀ v ∈ S, u <+: v → u = v) :
    UniquelyDecodable S := by
  intro us vs hus hvs h
  induction us generalizing vs with
  | nil =>
    cases vs with
    | nil => rfl
    | cons v vs =>
      have hv : v = [] := by
        simp only [List.flatten_nil, List.flatten_cons] at h
        exact (List.append_eq_nil_iff.mp h.symm).1
      exact absurd (hv ▸ hvs v (by simp)) hne
  | cons u us ih =>
    cases vs with
    | nil =>
      have hu : u = [] := by
        simp only [List.flatten_nil, List.flatten_cons] at h
        exact (List.append_eq_nil_iff.mp h).1
      exact absurd (hu ▸ hus u (by simp)) hne
    | cons v vs =>
      simp only [List.flatten_cons] at h
      have hu := hus u (by simp)
      have hv := hvs v (by simp)
      have huv : u = v := by
        have hw : v <+: u ++ us.flatten := ⟨vs.flatten, h.symm⟩
        rcases List.prefix_or_prefix_of_prefix (List.prefix_append u us.flatten) hw with hpre | hpre
        · exact hp u hu v hv hpre
        · exact (hp v hv u hu hpre).symm
      subst v
      rw [ih vs (fun w hw => hus w (by simp [hw])) (fun w hw => hvs w (by simp [hw]))
        (List.append_cancel_left h)]

lemma map_eq_map_congr {β γ δ : Type*} {P : β → Prop} {f : β → γ} {g : β → δ}
    (h : ∀ a b, P a → P b → (f a = f b ↔ g a = g b)) {as bs : List β} (ha : ∀ a ∈ as, P a)
    (hb : ∀ b ∈ bs, P b) :
    as.map f = bs.map f ↔ as.map g = bs.map g := by
  induction as generalizing bs with
  | nil => simp
  | cons a as ih =>
    cases bs with
    | nil => simp
    | cons b bs =>
      have hrest := ih (fun c hc => ha c (List.mem_cons_of_mem a hc)) (fun c hc => hb c (List.mem_cons_of_mem b hc))
      simp only [List.map_cons, List.cons.injEq]
      rw [hrest, h a b (ha a (by simp)) (hb b (by simp))]

end AndroidRemote.Library
