import Mathlib.Data.List.Basic
import Mathlib.Tactic

/-! Readers of a byte stream, and what it takes for a reader to consume exactly the bytes that
were written for a value, whatever follows them. -/

namespace AndroidRemote.Library

variable {α β γ : Type}

abbrev Reader (β : Type) := StateT (List UInt8) Option β

def readBytes (n : ℕ) : Reader (List UInt8) :=
  fun input => if n ≤ input.length then some (input.take n, input.drop n) else none

def Reads (r : Reader β) (bs : List UInt8) (b : β) : Prop := ∀ rest, r (bs ++ rest) = some (b, rest)

namespace Reads

lemma pure (b : β) : Reads (Pure.pure b) [] b := fun _ => rfl

lemma bind {r : Reader α} {f : α → Reader β} {bs cs : List UInt8} {a : α} {b : β} (h : Reads r bs a)
    (hf : Reads (f a) cs b) : Reads (r >>= f) (bs ++ cs) b := by
  intro rest
  simp only [List.append_assoc, Bind.bind, StateT.bind]
  rw [h]
  exact hf rest

lemma map {r : Reader α} {bs : List UInt8} {a : α} (f : α → β) (h : Reads r bs a) : Reads (f <$> r) bs (f a) := by
  intro rest
  simp only [Functor.map, StateT.map]
  rw [h]
  rfl

lemma finish {r : Reader α} {bs : List UInt8} {a : α} (f : α → β) (h : Reads r bs a) :
    Reads (r >>= fun a => Pure.pure (f a)) bs (f a) := by
  simpa using h.bind (f := fun a => Pure.pure (f a)) (Reads.pure (f a))

lemma bytes (bs : List UInt8) : Reads (readBytes bs.length) bs bs := by
  intro rest
  simp [readBytes]

end Reads

def putU8 (n : ℕ) : List UInt8 := [UInt8.ofNat n]

def putU16 (n : ℕ) : List UInt8 := [UInt8.ofNat (n / 2 ^ 8), UInt8.ofNat n]

def putU32 (n : ℕ) : List UInt8 := putU16 (n / 2 ^ 16) ++ putU16 n

@[simp] lemma length_putU8 (n : ℕ) : (putU8 n).length = 1 := rfl

@[simp] lemma length_putU16 (n : ℕ) : (putU16 n).length = 2 := rfl

@[simp] lemma length_putU32 (n : ℕ) : (putU32 n).length = 4 := rfl

def bigEndian (bs : List UInt8) : ℕ := bs.foldl (fun n b => n * 2 ^ 8 + b.toNat) 0

def readU8 : Reader ℕ := bigEndian <$> readBytes 1

def readU16 : Reader ℕ := bigEndian <$> readBytes 2

def readU32 : Reader ℕ := bigEndian <$> readBytes 4

lemma bigEndian_putU8 (n : ℕ) : bigEndian (putU8 n) = n % 2 ^ 8 := by
  simp [bigEndian, putU8]

lemma bigEndian_putU16 (n : ℕ) : bigEndian (putU16 n) = n % 2 ^ 16 := by
  simp [bigEndian, putU16]
  omega

lemma bigEndian_putU32 (n : ℕ) : bigEndian (putU32 n) = n % 2 ^ 32 := by
  simp [bigEndian, putU32, putU16]
  omega

namespace Reads

variable {n : ℕ}

lemma u8 (h : n < 2 ^ 8) : Reads readU8 (putU8 n) n := by
  have hread := map bigEndian (bytes (putU8 n))
  rwa [bigEndian_putU8, Nat.mod_eq_of_lt h] at hread

lemma u16 (h : n < 2 ^ 16) : Reads readU16 (putU16 n) n := by
  have hread := map bigEndian (bytes (putU16 n))
  rwa [bigEndian_putU16, Nat.mod_eq_of_lt h] at hread

lemma u32 (h : n < 2 ^ 32) : Reads readU32 (putU32 n) n := by
  have hread := map bigEndian (bytes (putU32 n))
  rwa [bigEndian_putU32, Nat.mod_eq_of_lt h] at hread

end Reads

def times (step : β → Reader β) : ℕ → β → Reader β
  | 0, b => pure b
  | n + 1, b => do
    let b ← step b
    times step n b

lemma Reads.times {step : β → Reader β} {put : γ → List UInt8} {f : β → γ → β} {xs : List γ} {b : β}
    (h : ∀ x ∈ xs, ∀ b, Reads (step b) (put x) (f b x)) :
    Reads (times step xs.length b) (xs.flatMap put) (xs.foldl f b) := by
  induction xs generalizing b with
  | nil => exact Reads.pure b
  | cons x xs ih =>
    obtain ⟨hx, hxs⟩ := List.forall_mem_cons.mp h
    rw [List.flatMap_cons]
    exact (hx b).bind (ih hxs)

lemma Reads.times_one {step : β → Reader β} {b c : β} {bs : List UInt8} (h : Reads (step b) bs c) :
    Reads (Library.times step 1 b) bs c := by
  have hread := h.bind (f := Library.times step 0) (Reads.pure c)
  rwa [List.append_nil] at hread

lemma Reads.times_add {step : β → Reader β} {k l : ℕ} {b c d : β} {bs cs : List UInt8}
    (h : Reads (Library.times step k b) bs c) (h' : Reads (Library.times step l c) cs d) :
    Reads (Library.times step (k + l) b) (bs ++ cs) d := by
  have hsplit : Library.times step (k + l) b = Library.times step k b >>= Library.times step l := by
    clear h
    induction k generalizing b with
    | zero => simp [Library.times]
    | succ k ih => simp only [Nat.succ_add, Library.times, ih, bind_assoc]
  rw [hsplit]
  exact h.bind h'

end AndroidRemote.Library
