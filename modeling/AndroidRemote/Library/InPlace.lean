import Mathlib.Data.List.Basic
import Mathlib.Logic.Function.Basic
import Mathlib.Tactic

/-! Copies within one store, cell after cell, and the orders in which they lose nothing. -/

namespace AndroidRemote.Library

variable {κ α : Type*}

def InOrder (f : κ → κ) (ts : List κ) : Prop := ts.Pairwise fun a b => a ≠ f b ∧ a ≠ b

lemma inOrder_flatMap {τ : Type*} {f : κ → κ} {cells : τ → List κ} {ts : List τ}
    (hone : ∀ t ∈ ts, InOrder f (cells t))
    (htwo : ts.Pairwise fun s t => ∀ a ∈ cells s, ∀ b ∈ cells t, a ≠ f b ∧ a ≠ b) :
    InOrder f (ts.flatMap cells) :=
  List.pairwise_flatMap.mpr ⟨hone, htwo⟩

variable [DecidableEq κ]

def mergeAlong (g : α → α → α) (f : κ → κ) (m : κ → α) (ts : List κ) : κ → α :=
  ts.foldl (fun m t => Function.update m t (g (m (f t)) (m t))) m

lemma mergeAlong_eq {g : α → α → α} {f : κ → κ} {ts : List κ} (h : InOrder f ts) (m : κ → α) (k : κ) :
    mergeAlong g f m ts k = if k ∈ ts then g (m (f k)) (m k) else m k := by
  induction ts generalizing m with
  | nil => simp [mergeAlong]
  | cons t ts ih =>
    obtain ⟨ht, hts⟩ := List.pairwise_cons.mp h
    have hstep : mergeAlong g f m (t :: ts) = mergeAlong g f (Function.update m t (g (m (f t)) (m t))) ts := rfl
    rw [hstep, ih hts]
    by_cases hk : k ∈ ts
    · rw [if_pos hk, if_pos (List.mem_cons_of_mem t hk), Function.update_of_ne (ht k hk).1.symm,
        Function.update_of_ne (ht k hk).2.symm]
    · rw [if_neg hk]
      rcases eq_or_ne k t with rfl | hne
      · rw [Function.update_self, if_pos List.mem_cons_self]
      · rw [Function.update_of_ne hne, if_neg (by simp [hne, hk])]

def moveAlong (f : κ → κ) : (κ → α) → List κ → κ → α := mergeAlong (fun a _ => a) f

lemma moveAlong_eq {f : κ → κ} {ts : List κ} (h : InOrder f ts) (m : κ → α) (k : κ) :
    moveAlong f m ts k = if k ∈ ts then m (f k) else m k :=
  mergeAlong_eq h m k

lemma moveAlong_append (f : κ → κ) (m : κ → α) (ts us : List κ) :
    moveAlong f m (ts ++ us) = moveAlong f (moveAlong f m ts) us := by
  simp [moveAlong, mergeAlong]

lemma moveAlong_congr {f g : κ → κ} {ts : List κ} (h : ∀ t ∈ ts, f t = g t) (m : κ → α) :
    moveAlong f m ts = moveAlong g m ts := by
  induction ts generalizing m with
  | nil => rfl
  | cons t ts ih =>
    obtain ⟨ht, hts⟩ := List.forall_mem_cons.mp h
    have hstep (f : κ → κ) : moveAlong f m (t :: ts) = moveAlong f (Function.update m t (m (f t))) ts := rfl
    rw [hstep, hstep, ht, ih hts]

end AndroidRemote.Library
