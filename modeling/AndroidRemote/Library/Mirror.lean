import Mathlib.Algebra.Group.Basic
import Mathlib.Data.Set.Basic
import Mathlib.Tactic

/-! A picture and a copy of it that is kept by messages. Some positions are dirty, and some are to
be moved within the copy itself; of the rest, the copy is to be right, except where something
else is drawn over it. -/

namespace AndroidRemote.Library

variable {P α : Type*} [AddCommGroup P]

structure Mirror (P α : Type*) where
  picture : P → α
  copy : P → α
  dirty : Set P
  moved : Set P
  shift : P
  hidden : Set P

namespace Mirror

structure Faithful (Ω : Set P) (m : Mirror P α) : Prop where
  settled : ∀ p ∈ Ω, p ∉ m.dirty → p ∉ m.moved → p ∉ m.hidden → m.copy p = m.picture p
  movable : ∀ p ∈ Ω, p ∈ m.moved → p ∉ m.dirty → p - m.shift ∈ Ω → m.copy (p - m.shift) = m.picture p

namespace Faithful

variable {Ω : Set P} {m : Mirror P α}

lemma all_dirty (h : ∀ p ∈ Ω, p ∈ m.dirty) : m.Faithful Ω :=
  ⟨fun p hp hd => absurd (h p hp) hd, fun p hp _ hd => absurd (h p hp) hd⟩

lemma mark (hm : m.Faithful Ω) {picture : P → α} {dirty moved hidden : Set P}
    (hchanged : ∀ p ∈ Ω, p ∉ dirty → picture p = m.picture p)
    (hdirty : ∀ p ∈ Ω, p ∈ m.dirty → p ∈ dirty)
    (hmoved : ∀ p ∈ Ω, p ∈ m.moved → p ∈ moved ∨ p ∈ dirty)
    (hsub : ∀ p ∈ Ω, p ∈ moved → p ∈ m.moved)
    (hhidden : ∀ p ∈ Ω, p ∈ m.hidden → p ∈ hidden ∨ p ∈ dirty) :
    Faithful Ω ⟨picture, m.copy, dirty, moved, m.shift, hidden⟩ where
  settled p hp hd hmv hh := by
    have hclean : p ∉ m.dirty := fun h => hd (hdirty p hp h)
    have hstill : p ∉ m.moved := fun h => (hmoved p hp h).elim hmv hd
    have hplain : p ∉ m.hidden := fun h => (hhidden p hp h).elim hh hd
    exact (hm.settled p hp hclean hstill hplain).trans (hchanged p hp hd).symm
  movable p hp hmv hd hsrc :=
    (hm.movable p hp (hsub p hp hmv) (fun h => hd (hdirty p hp h)) hsrc).trans (hchanged p hp hd).symm

/-- The picture is moved by `d` on `region`. What the copy cannot take from where it was becomes
dirty: a source that was not right, and what the sender draws over. -/
lemma schedule (hm : m.Faithful Ω) {picture : P → α} {dirty moved region : Set P} {d : P}
    (hin : ∀ p ∈ Ω, p ∈ region → p - d ∈ Ω → picture p = m.picture (p - d))
    (hout : ∀ p ∈ Ω, p ∉ region → picture p = m.picture p)
    (hdirty : ∀ p ∈ Ω, p ∈ m.dirty → p ∈ dirty)
    (hregion : ∀ p ∈ Ω, p ∈ region → p ∈ moved)
    (hmoved : ∀ p ∈ Ω, p ∈ m.moved → p ∈ moved ∨ p ∈ dirty)
    (hold : ∀ p ∈ Ω, p ∈ moved → p ∉ region → p ∉ dirty → p ∈ m.moved ∧ d = m.shift)
    (hsource : ∀ p ∈ Ω, p ∈ region → p ∉ dirty → p - d ∈ Ω →
      p - d ∉ m.dirty ∧ p - d ∉ m.moved ∧ p - d ∉ m.hidden) :
    Faithful Ω ⟨picture, m.copy, dirty, moved, d, m.hidden⟩ where
  settled p hp hd hmv hh := by
    have hnot : p ∉ region := fun h => hmv (hregion p hp h)
    have hstill : p ∉ m.moved := fun h => (hmoved p hp h).elim hmv hd
    exact (hm.settled p hp (fun h => hd (hdirty p hp h)) hstill hh).trans (hout p hp hnot).symm
  movable p hp hmv hd hsrc := by
    by_cases hr : p ∈ region
    · obtain ⟨hclean, hstill, hplain⟩ := hsource p hp hr hd hsrc
      exact (hm.settled _ hsrc hclean hstill hplain).trans (hin p hp hr hsrc).symm
    · obtain ⟨hmoved', rfl⟩ := hold p hp hmv hr hd
      exact (hm.movable p hp hmoved' (fun h => hd (hdirty p hp h)) hsrc).trans (hout p hp hr).symm

lemma send (hm : m.Faithful Ω) {copy shown : P → α} {dirty copies sent hidden : Set P}
    (hsent : ∀ p ∈ Ω, p ∈ sent → copy p = shown p)
    (hcopies : ∀ p ∈ Ω, p ∈ copies → p ∉ sent → copy p = m.copy (p - m.shift))
    (hrest : ∀ p ∈ Ω, p ∉ copies → p ∉ sent → copy p = m.copy p)
    (hshown : ∀ p ∈ Ω, p ∉ hidden → shown p = m.picture p)
    (hmovable : ∀ p ∈ Ω, p ∈ copies → p ∈ m.moved ∧ p ∉ m.dirty ∧ p - m.shift ∈ Ω)
    (hpending : ∀ p ∈ Ω, p ∈ m.dirty ∨ p ∈ m.moved → p ∈ dirty ∨ p ∈ copies ∨ p ∈ sent)
    (hhidden : ∀ p ∈ Ω, p ∈ m.hidden → p ∈ hidden ∨ p ∈ sent) (d : P) :
    Faithful Ω ⟨m.picture, copy, dirty, ∅, d, hidden⟩ where
  settled p hp hd _ hh := by
    by_cases hs : p ∈ sent
    · exact (hsent p hp hs).trans (hshown p hp hh)
    · by_cases hc : p ∈ copies
      · obtain ⟨hmv, hclean, hsrc⟩ := hmovable p hp hc
        exact (hcopies p hp hc hs).trans (hm.movable p hp hmv hclean hsrc)
      · have hdone (h : p ∈ m.dirty ∨ p ∈ m.moved) : False := by
          rcases hpending p hp h with h | h | h <;> contradiction
        have hplain : p ∉ m.hidden := fun h => (hhidden p hp h).elim hh hs
        exact (hrest p hp hc hs).trans
          (hm.settled p hp (fun h => hdone (.inl h)) (fun h => hdone (.inr h)) hplain)
  movable p _ hmv := absurd hmv (Set.notMem_empty p)

end Faithful

end Mirror

end AndroidRemote.Library
