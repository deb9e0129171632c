import Mathlib.Tactic

/-! The virtual input device of `suinput.c`, as the events written to it. -/

namespace AndroidRemote.Input

inductive Axis
  | absX
  | absY
  deriving DecidableEq, Repr

inductive InputEvent
  | evKey (code : ℕ) (value : ℤ)
  | evAbs (axis : Axis) (value : ℤ)
  | synReport
  deriving DecidableEq, Repr

/-- The events written, the latest first. -/
abbrev Device := List InputEvent

namespace Device

def suinputWrite (d : Device) (e : InputEvent) : Device := e :: d

def suinputPress (d : Device) (code : ℕ) : Device := d.suinputWrite (.evKey code 1)

def suinputRelease (d : Device) (code : ℕ) : Device := d.suinputWrite (.evKey code 0)

def isDown (code : ℕ) : Device → Bool
  | [] => false
  | .evKey c value :: d => if c = code then decide (value = 1) else isDown code d
  | _ :: d => isDown code d

def pending (d : Device) : Device := d.takeWhile (fun e => decide (e ≠ .synReport))

@[simp] lemma isDown_nil (code : ℕ) : isDown code [] = false := rfl

@[simp] lemma isDown_evKey (d : Device) (code c : ℕ) (value : ℤ) :
    isDown code (d.suinputWrite (.evKey c value)) = if c = code then decide (value = 1) else d.isDown code := rfl

@[simp] lemma isDown_evAbs (d : Device) (code : ℕ) (axis : Axis) (value : ℤ) :
    isDown code (d.suinputWrite (.evAbs axis value)) = d.isDown code := rfl

@[simp] lemma isDown_synReport (d : Device) (code : ℕ) :
    isDown code (d.suinputWrite .synReport) = d.isDown code := rfl

@[simp] lemma isDown_press (d : Device) (code c : ℕ) :
    isDown code (d.suinputPress c) = (decide (c = code) || d.isDown code) := by
  by_cases h : c = code <;> simp [suinputPress, h]

@[simp] lemma isDown_release (d : Device) (code c : ℕ) :
    isDown code (d.suinputRelease c) = (decide (c ≠ code) && d.isDown code) := by
  by_cases h : c = code <;> simp [suinputRelease, h]

@[simp] lemma pending_nil : pending [] = [] := rfl

@[simp] lemma pending_synReport (d : Device) : pending (d.suinputWrite .synReport) = [] := rfl

@[simp] lemma pending_press (d : Device) (code : ℕ) :
    pending (d.suinputPress code) = .evKey code 1 :: d.pending := rfl

@[simp] lemma pending_release (d : Device) (code : ℕ) :
    pending (d.suinputRelease code) = .evKey code 0 :: d.pending := rfl

lemma pending_eq_nil_iff (d : Device) :
    d.pending = [] ↔ ∀ newer e older, d = newer ++ e :: older → e ≠ .synReport → .synReport ∈ newer := by
  constructor
  · intro hp newer e older hd he
    cases newer with
    | nil =>
      subst hd
      simp [pending, he] at hp
    | cons n newer =>
      subst hd
      by_cases hn : n = .synReport
      · simp [hn]
      · simp [pending, hn] at hp
  · intro h
    cases d with
    | nil => rfl
    | cons e older =>
      by_cases he : e = .synReport
      · rw [he]
        rfl
      · cases h [] e older rfl he

end Device

def btnTouch : ℕ := 0x14a
def keyBack : ℕ := 158
def keyEnd : ℕ := 107
def keyHome : ℕ := 102
def leftShift : ℕ := 42
def leftAlt : ℕ := 56

end AndroidRemote.Input
