import Mathlib.Tactic

/-! Pixel formats of the RFB protocol, as LibVNCServer stores and compares them. -/

namespace AndroidRemote.Rfb

/-- `rfbPixelFormat` without its padding, which no function writes. -/
structure PixelFormat where
  bitsPerPixel : ℕ
  depth : ℕ
  bigEndian : Bool
  trueColour : Bool
  redMax : ℕ
  greenMax : ℕ
  blueMax : ℕ
  redShift : ℕ
  greenShift : ℕ
  blueShift : ℕ
  deriving DecidableEq, Repr

def bgr233Format : PixelFormat := ⟨8, 8, false, true, 7, 7, 3, 0, 3, 6⟩

def PfEq (x y : PixelFormat) : Prop :=
  x.bitsPerPixel = y.bitsPerPixel ∧ x.depth = y.depth ∧
    (x.bigEndian = y.bigEndian ∨ x.bitsPerPixel = 8) ∧ x.trueColour = y.trueColour ∧
    (x.trueColour = false ∨ (x.redMax = y.redMax ∧ x.greenMax = y.greenMax ∧ x.blueMax = y.blueMax ∧
      x.redShift = y.redShift ∧ x.greenShift = y.greenShift ∧ x.blueShift = y.blueShift))

instance (x y : PixelFormat) : Decidable (PfEq x y) := inferInstanceAs (Decidable (_ ∧ _))

def ValidBpp (bpp : ℕ) : Prop := bpp = 8 ∨ bpp = 16 ∨ bpp = 24 ∨ bpp = 32

instance (bpp : ℕ) : Decidable (ValidBpp bpp) := inferInstanceAs (Decidable (_ ∨ _))

structure PixelFormat.Coloured (f : PixelFormat) : Prop where
  red : 0 < f.redMax ∧ f.redMax < 2 ^ 16
  green : 0 < f.greenMax ∧ f.greenMax < 2 ^ 16
  blue : 0 < f.blueMax ∧ f.blueMax < 2 ^ 16

lemma bgr233Format_coloured : bgr233Format.Coloured := by
  constructor <;> decide

/-- A field of `len` bits has maximum `(1 << len) - 1`, computed in an `int` and
stored in a `uint16_t`. -/
def maxOfLength (len : ℕ) : ℕ := ((1#32 <<< len) - 1#32).toNat % 2 ^ 16

lemma maxOfLength_lt (len : ℕ) : maxOfLength len < 2 ^ 16 := Nat.mod_lt _ (by decide)

lemma maxOfLength_pos {len : ℕ} (h : 0 < len) : 0 < maxOfLength len := by
  by_cases hl : len < 32
  · interval_cases len <;> decide
  · have hz : (1#32 <<< len) = 0#32 := BitVec.shiftLeft_eq_zero (by omega)
    simp [maxOfLength, hz]

end AndroidRemote.Rfb
