import AndroidRemote.Display.Touch
import AndroidRemote.Input.Keyboard

/-! `ptrevent`, with its static variables, and the state both handlers share. -/

namespace AndroidRemote.Input

open AndroidRemote.Display

/-- `i` counts the moves made while the left button is held, and wraps. -/
structure Injection where
  device : Device
  leftClicked : Bool
  rightClicked : Bool
  middleClicked : Bool
  i : Int32
  deriving DecidableEq, Repr

def Injection.created : Injection := ⟨[], false, false, false, 0⟩

namespace Injection

variable (t : Injection)

def placed (x y : ℤ) : Device := (t.device.suinputWrite (.evAbs .absX x)).suinputWrite (.evAbs .absY y)

def left (held : Bool) (x y : ℤ) : Injection :=
  if held && t.leftClicked then
    let t := { t with i := t.i + 1 }
    if t.i % 10 = 1 then { t with device := (t.placed x y).suinputWrite .synReport } else t
  else if held then
    { t with
      leftClicked := true
      device := ((t.placed x y).suinputWrite (.evKey btnTouch 1)).suinputWrite .synReport }
  else if t.leftClicked then
    { t with
      leftClicked := false
      device := ((t.placed x y).suinputWrite (.evKey btnTouch 0)).suinputWrite .synReport }
  else t

def click (code : ℕ) (held was : Bool) (d : Device) : Bool × Device :=
  if held then (true, d.suinputPress code)
  else if was then (false, d.suinputRelease code)
  else (was, d)

def right (held : Bool) : Injection :=
  let (clicked, device) := click keyBack held t.rightClicked t.device
  { t with rightClicked := clicked, device := device }

def middle (held : Bool) : Injection :=
  let (clicked, device) := click keyEnd held t.middleClicked t.device
  { t with middleClicked := clicked, device := device }

def ptrevent (rotation : ℕ) (s : FbVarScreeninfo) (buttonMask : ℕ) (x y : ℤ) : Injection :=
  let (x, y) := transformTouchCoordinates rotation s x y
  ((t.left (buttonMask.testBit 0) x y).right (buttonMask.testBit 2)).middle (buttonMask.testBit 1)

variable {t}

lemma click_fst (code : ℕ) (held was : Bool) (d : Device) : (click code held was d).1 = held := by
  cases held <;> cases was <;> rfl

lemma click_isDown (code c : ℕ) (held was : Bool) (d : Device) : (click c held was d).2.isDown code =
    if code = c ∧ (held || was) = true then held else d.isDown code := by
  cases held <;> cases was <;> simp [click, eq_comm (a := code)]

lemma click_pending (code : ℕ) (held was : Bool) (d : Device) :
    (click code held was d).2.pending = [] ↔ (held || was) = false ∧ d.pending = [] := by
  cases held <;> cases was <;> simp [click]

lemma left_flags (held : Bool) (x y : ℤ) : (t.left held x y).leftClicked = held ∧
    (t.left held x y).rightClicked = t.rightClicked ∧ (t.left held x y).middleClicked = t.middleClicked := by
  rw [left]
  cases held <;> cases hl : t.leftClicked <;> simp [hl]
  split_ifs <;> simp

lemma left_isDown (held : Bool) (x y : ℤ) (code : ℕ) : (t.left held x y).device.isDown code =
    if code = btnTouch ∧ held ≠ t.leftClicked then held else t.device.isDown code := by
  rw [left, placed]
  cases held <;> cases hl : t.leftClicked <;> simp [eq_comm (a := code)]
  split_ifs <;> simp [placed]

lemma left_pending (held : Bool) (x y : ℤ) (h : t.device.pending = []) :
    (t.left held x y).device.pending = [] := by
  simp only [left]
  split_ifs <;> simp [h]

section

variable (rotation : ℕ) (s : FbVarScreeninfo) (buttonMask : ℕ) (x y : ℤ)

theorem ptrevent_flags : (t.ptrevent rotation s buttonMask x y).leftClicked = buttonMask.testBit 0 ∧
    (t.ptrevent rotation s buttonMask x y).rightClicked = buttonMask.testBit 2 ∧
    (t.ptrevent rotation s buttonMask x y).middleClicked = buttonMask.testBit 1 := by
  simp [ptrevent, right, middle, click_fst, left_flags]

theorem ptrevent_isDown (code : ℕ) : (t.ptrevent rotation s buttonMask x y).device.isDown code =
    if code = btnTouch ∧ buttonMask.testBit 0 ≠ t.leftClicked then buttonMask.testBit 0
    else if code = keyBack ∧ (buttonMask.testBit 2 || t.rightClicked) = true then buttonMask.testBit 2
    else if code = keyEnd ∧ (buttonMask.testBit 1 || t.middleClicked) = true then buttonMask.testBit 1
    else t.device.isDown code := by
  simp only [ptrevent, right, middle, click_isDown, left_isDown, left_flags]
  by_cases hb : code = btnTouch
  · subst hb
    simp [btnTouch, keyBack, keyEnd]
  · by_cases hk : code = keyBack
    · subst hk
      simp [btnTouch, keyBack, keyEnd]
    · simp [hb, hk]

theorem ptrevent_pending (h : t.device.pending = []) :
    (t.ptrevent rotation s buttonMask x y).device.pending = [] ↔
      (buttonMask.testBit 2 || t.rightClicked) = false ∧ (buttonMask.testBit 1 || t.middleClicked) = false := by
  simp only [ptrevent, right, middle, click_pending, left_flags, left_pending _ _ _ h]
  tauto

end

end Injection

end AndroidRemote.Input
