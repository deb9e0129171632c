import Mathlib.Data.List.TakeWhile
import Mathlib.Tactic

/-! Texts as lists of characters: words between blanks, decimal numerals and their `atoi`. -/

namespace AndroidRemote.Library

def words (s : List Char) : List (List Char) := (s.splitOn ' ').filter (fun word => decide (word ≠ []))

lemma words_append (s t : List Char) : words (s ++ ' ' :: t) = words s ++ words t := by
  rw [words, List.splitOn_append_cons_self, List.filter_append]
  rfl

lemma words_nil : words [] = [] := rfl

lemma words_single {s : List Char} (hs : s ≠ []) (h : ' ' ∉ s) : words s = [s] := by
  simp [words, List.splitOn_eq_singleton h, hs]

def decimal (n : ℤ) : List Char :=
  if n < 0 then '-' :: Nat.toDigits 10 n.natAbs else Nat.toDigits 10 n.natAbs

def isSpace (c : Char) : Bool :=
  decide (c = ' ') || decide (c = '\t') || decide (c = '\n') || decide (c = '\x0b') || decide (c = '\x0c') ||
    decide (c = '\x0d')

def saturate (n : ℤ) : ℤ := max (-2 ^ 31) (min (2 ^ 31 - 1) n)

def digitsValue (s : List Char) : ℕ := Nat.ofDigitChars 10 (s.takeWhile Char.isDigit) 0

def atoi (s : List Char) : ℤ :=
  match s.dropWhile isSpace with
  | '-' :: digits => saturate (-digitsValue digits)
  | '+' :: digits => saturate (digitsValue digits)
  | digits => saturate (digitsValue digits)

lemma digitsValue_toDigits (n : ℕ) : digitsValue (Nat.toDigits 10 n) = n := by
  have hall : ∀ c ∈ Nat.toDigits 10 n, c.isDigit = true :=
    fun c hc => Nat.isDigit_of_mem_toDigits (by decide) (by decide) hc
  rw [digitsValue, List.takeWhile_eq_self_iff.mpr hall, Nat.ofDigitChars_ten_toDigits]

lemma blank_notMem_decimal (n : ℤ) : ' ' ∉ decimal n := by
  intro h
  have hdigits : ' ' ∉ Nat.toDigits 10 n.natAbs := fun hc =>
    absurd (Nat.isDigit_of_mem_toDigits (by decide) (by decide) hc) (by decide)
  rw [decimal] at h
  split_ifs at h
  · cases h with
    | tail _ h => exact hdigits h
  · exact hdigits h

lemma decimal_ne_nil (n : ℤ) : decimal n ≠ [] := by
  rw [decimal]
  split_ifs
  · exact List.cons_ne_nil _ _
  · exact Nat.toDigits_ne_nil

lemma atoi_decimal {n : ℤ} (h : 0 ≤ n) (hn : n < 2 ^ 31) : atoi (decimal n) = n := by
  obtain ⟨m, rfl⟩ := Int.eq_ofNat_of_zero_le h
  have hdecimal : decimal m = Nat.toDigits 10 m := by simp [decimal]
  have hall : ∀ c ∈ Nat.toDigits 10 m, c.isDigit = true :=
    fun c hc => Nat.isDigit_of_mem_toDigits (by decide) (by decide) hc
  have hvalue := digitsValue_toDigits m
  rw [hdecimal, atoi]
  cases hs : Nat.toDigits 10 m with
  | nil => exact absurd hs Nat.toDigits_ne_nil
  | cons c cs =>
    have hc : c.isDigit = true := hall c (by simp [hs])
    have hspace : isSpace c = false := by
      rw [isSpace]
      by_contra hne
      simp only [Bool.not_eq_false, Bool.or_eq_true, decide_eq_true_eq] at hne
      rcases hne with ((((rfl | rfl) | rfl) | rfl) | rfl) | rfl <;> exact absurd hc (by decide)
    rw [List.dropWhile_cons_of_neg (by simp [hspace])]
    split
    · next heq =>
      cases heq
      exact absurd hc (by decide)
    · next heq =>
      cases heq
      exact absurd hc (by decide)
    · rw [← hs, hvalue, saturate]
      omega

end AndroidRemote.Library
