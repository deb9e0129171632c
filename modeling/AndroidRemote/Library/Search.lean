import Mathlib.Data.List.Infix
import Mathlib.Tactic

/-! The first occurrence of a list in another one, and occurrences in what several lists join to. -/

namespace AndroidRemote.Library

variable {α : Type*} {sub xs ys : List α}

lemma infix_append_cases (h : sub <:+: xs ++ ys) :
    sub <:+: xs ∨ sub <:+: ys ∨ ∃ back, back ≠ [] ∧ back <:+ sub ∧ back <+: ys := by
  induction xs with
  | nil => exact Or.inr (Or.inl h)
  | cons x xs ih =>
    rcases List.infix_cons_iff.mp h with hp | hi
    · rcases List.prefix_or_prefix_of_prefix hp (List.prefix_append (x :: xs) ys) with hin | ⟨back, rfl⟩
      · exact Or.inl hin.isInfix
      · by_cases hback : back = []
        · left
          rw [hback, List.append_nil]
        · exact Or.inr (Or.inr ⟨back, hback, List.suffix_append _ _,
            (List.prefix_append_right_inj (x :: xs)).mp hp⟩)
    · rcases ih hi with hin | hys | hcross
      · exact Or.inl (List.infix_cons hin)
      · exact Or.inr (Or.inl hys)
      · exact Or.inr (Or.inr hcross)

lemma head?_flatten {lines : List (List α)} {c : α} (h : c ∈ lines.flatten.head?) :
    ∃ line ∈ lines, c ∈ line.head? := by
  induction lines with
  | nil => cases h
  | cons line lines ih =>
    cases line with
    | nil =>
      obtain ⟨later, hmem, hc⟩ := ih h
      exact ⟨later, List.mem_cons_of_mem _ hmem, hc⟩
    | cons d ds => exact ⟨d :: ds, List.mem_cons_self, h⟩

lemma infix_flatten_iff {lines : List (List α)} (hs : sub ≠ [])
    (h : ∀ line ∈ lines, ∀ c ∈ line.head?, c ∉ sub) :
    sub <:+: lines.flatten ↔ ∃ line ∈ lines, sub <:+: line := by
  constructor
  · intro hin
    induction lines with
    | nil => exact absurd (List.infix_nil.mp hin) hs
    | cons line lines ih =>
      have hlater : ∀ later ∈ lines, ∀ c ∈ later.head?, c ∉ sub :=
        fun later hmem => h later (List.mem_cons_of_mem _ hmem)
      rcases infix_append_cases hin with hline | hlines | ⟨back, hback, hsuffix, hprefix⟩
      · exact ⟨line, List.mem_cons_self, hline⟩
      · obtain ⟨later, hmem, hlater⟩ := ih hlater hlines
        exact ⟨later, List.mem_cons_of_mem _ hmem, hlater⟩
      · obtain ⟨c, cs, rfl⟩ := List.exists_cons_of_ne_nil hback
        obtain ⟨rest, hrest⟩ := hprefix
        have hc : c ∈ lines.flatten.head? := by
          rw [← hrest]
          rfl
        obtain ⟨later, hmem, hhead⟩ := head?_flatten hc
        exact absurd (hsuffix.subset List.mem_cons_self) (hlater later hmem c hhead)
  · rintro ⟨line, hmem, hline⟩
    exact hline.trans (List.infix_of_mem_flatten hmem)

variable [DecidableEq α]

def firstIndex (sub : List α) : List α → Option ℕ
  | [] => if sub = [] then some 0 else none
  | x :: xs => if sub <+: x :: xs then some 0 else (firstIndex sub xs).map (· + 1)

/-- `-1` where there is no occurrence. -/
def indexOf (sub xs : List α) : ℤ :=
  match firstIndex sub xs with
  | some i => i
  | none => -1

lemma firstIndex_isSome_iff : (firstIndex sub xs).isSome ↔ sub <:+: xs := by
  induction xs with
  | nil => by_cases h : sub = [] <;> simp [firstIndex, h]
  | cons x xs ih =>
    rw [firstIndex, List.infix_cons_iff]
    split_ifs with h
    · simp [h]
    · rw [Option.isSome_map, ih, or_iff_right h]

lemma firstIndex_eq_zero_iff : firstIndex sub xs = some 0 ↔ sub <+: xs := by
  cases xs with
  | nil => by_cases h : sub = [] <;> simp [firstIndex, h]
  | cons x xs =>
    rw [firstIndex]
    split_ifs with h <;> simp [h]

lemma firstIndex_append {i : ℕ} (h : firstIndex sub xs = some i) (ys : List α) :
    firstIndex sub (xs ++ ys) = some i := by
  induction xs generalizing i with
  | nil =>
    by_cases hs : sub = []
    · obtain rfl : 0 = i := by simpa [firstIndex, hs] using h
      exact firstIndex_eq_zero_iff.mpr (hs ▸ List.nil_prefix)
    · simp [firstIndex, hs] at h
  | cons x xs ih =>
    have hinfix : sub <:+: x :: xs := firstIndex_isSome_iff.mp (by rw [h]; rfl)
    -- An occurrence at the front cannot reach into what is appended.
    have hfront : sub <+: x :: (xs ++ ys) ↔ sub <+: x :: xs := by
      constructor
      · intro hp
        exact List.prefix_of_prefix_length_le hp (List.prefix_append (x :: xs) ys) hinfix.length_le
      · intro hp
        exact hp.trans (List.prefix_append (x :: xs) ys)
    rw [List.cons_append, firstIndex]
    rw [firstIndex] at h
    by_cases hp : sub <+: x :: xs
    · rw [if_pos hp] at h
      rwa [if_pos (hfront.mpr hp)]
    · rw [if_neg hp, Option.map_eq_some_iff] at h
      obtain ⟨j, hj, rfl⟩ := h
      rw [if_neg (mt hfront.mp hp), ih hj]
      rfl

lemma indexOf_pos_iff : 0 < indexOf sub xs ↔ sub <:+: xs ∧ ¬ sub <+: xs := by
  rw [indexOf, ← firstIndex_isSome_iff, ← firstIndex_eq_zero_iff]
  cases firstIndex sub xs with
  | none => simp
  | some i =>
    simp
    omega

lemma indexOf_pos_append (h : 0 < indexOf sub xs) (ys : List α) : 0 < indexOf sub (xs ++ ys) := by
  rw [indexOf] at h ⊢
  cases hi : firstIndex sub xs with
  | none =>
    rw [hi] at h
    cases h
  | some i =>
    rw [hi] at h
    rwa [firstIndex_append hi]

end AndroidRemote.Library
