import AndroidRemote.Native.Daemon

/-! What is left pressed, and what is left uncommitted, after calls of the two input handlers. -/

namespace AndroidRemote.Native

open AndroidRemote.Display AndroidRemote.Input AndroidRemote.Library

variable {out : Out}

inductive Call
  | keyevent (down : Bool) (key : ℕ)
  | ptrevent (buttonMask : ℕ) (x y : ℤ)
  deriving DecidableEq, Repr

namespace Daemon

variable {d : Daemon out}

def call (d : Daemon out) (c : Call) : Daemon out :=
  if d.running then
    match c with
    | .keyevent down key => d.keyevent down key
    | .ptrevent buttonMask x y => d.ptrevent buttonMask x y
  else d

lemma perform_input (down : Bool) (command : Option KeyCommand) :
    (d.perform down command).input = d.input := by
  rcases d.perform_cases down command with h | h | ⟨-, h⟩ | ⟨fb, -, -, -, h⟩ <;> rw [h] <;> rfl

lemma keyevent_input (down : Bool) (key : ℕ) :
    (d.keyevent down key).input = { d.input with device := typed down key d.input.device } := by
  simp [keyevent, perform_input]

end Daemon

def Types (down : Bool) (key : ℕ) : Prop := down = true ∧ (keysym2scancode key).code ≠ 0

instance (down : Bool) (key : ℕ) : Decidable (Types down key) := inferInstanceAs (Decidable (_ ∧ _))

lemma typed_of_types {down : Bool} {key : ℕ} (h : Types down key) (d : Device) :
    typed down key d = stroke (keysym2scancode key) d := by
  have hkey : key ≠ 0 := by
    rintro rfl
    exact h.2 (by decide)
  simp only [typed, ne_eq, h.1, h.2, hkey, not_false_eq_true, and_self, if_true]

lemma typed_of_not_types {down : Bool} {key : ℕ} (h : ¬ Types down key) (d : Device) :
    typed down key d = d := by
  rw [Types] at h
  rw [typed, if_neg]
  tauto

lemma typed_isDown_le {down : Bool} {key code : ℕ} {d : Device} (h : (typed down key d).isDown code = true) :
    d.isDown code = true := by
  by_cases ht : Types down key
  · rw [typed_of_types ht, stroke_isDown] at h
    simp only [Bool.and_eq_true] at h
    exact h.1.1.1
  · rwa [typed_of_not_types ht] at h

def Daemon.Committed (d : Daemon out) (c : Call) : Prop := (d.call c).input.device.pending = []

def Call.Unpressed : Call → Prop
  | .keyevent down key => ¬ Types down key
  | .ptrevent buttonMask _ _ => buttonMask.testBit 1 = false ∧ buttonMask.testBit 2 = false

def Daemon.Unpressed (d : Daemon out) (c : Call) : Prop := d.running = true → c.Unpressed

structure Daemon.Rested (d : Daemon out) : Prop where
  committed : d.input.device.pending = []
  right : d.input.rightClicked = false
  middle : d.input.middleClicked = false

lemma Daemon.committed_iff (d : Daemon out) (c : Call) (h : d.Rested) : d.Committed c ↔ d.Unpressed c := by
  rw [Committed, Unpressed]
  cases hr : d.running with
  | false => simp [call, hr, h.committed]
  | true =>
    simp only [call, hr, if_true, forall_const]
    cases c with
    | keyevent down key =>
      rw [keyevent_input]
      by_cases ht : Types down key
      · simp [typed_of_types ht, Call.Unpressed, ht, stroke_pending]
      · simp [typed_of_not_types ht, Call.Unpressed, ht, h.committed]
    | ptrevent buttonMask x y =>
      have hp := Injection.ptrevent_pending d.fb.rotation d.fb.scrinfo buttonMask x y h.committed
      rw [h.right, h.middle] at hp
      simpa [Call.Unpressed, ptrevent, and_comm] using hp

lemma Daemon.call_rested (d : Daemon out) (c : Call) (h : d.Rested) (hc : d.Committed c) : (d.call c).Rested := by
  have hun := (d.committed_iff c h).mp hc
  have hflags : (d.call c).input.rightClicked = false ∧ (d.call c).input.middleClicked = false := by
    simp only [call]
    cases hr : d.running with
    | false => exact ⟨h.right, h.middle⟩
    | true =>
      cases c with
      | keyevent down key => simp [keyevent_input, h.right, h.middle]
      | ptrevent buttonMask x y =>
        obtain ⟨hmiddle, hright⟩ := hun hr
        simp [ptrevent, Injection.ptrevent_flags, hright, hmiddle]
  exact ⟨hc, hflags.1, hflags.2⟩

theorem input_is_committed (fb : FbVncServer out) (bufferSize scaling : ℕ) (calls : List Call) :
    Along Daemon.call Daemon.Committed (.started fb bufferSize scaling) calls ↔
      Along Daemon.call Daemon.Unpressed (.started fb bufferSize scaling) calls :=
  along_congr Daemon.Rested Daemon.call_rested Daemon.committed_iff ⟨rfl, rfl, rfl⟩

theorem letter_is_not_committed :
    ¬ Along Daemon.call Daemon.Committed (.started watchedServer 32 100) [.keyevent true 97] := by
  rintro ⟨hpending, -⟩
  cases hpending

structure Typing (out : Out) where
  daemon : Daemon out
  lastMask : ℕ

def pressedBy (buttonMask code : ℕ) : Bool :=
  (decide (code = btnTouch) && buttonMask.testBit 0) || (decide (code = keyBack) && buttonMask.testBit 2) ||
    (decide (code = keyEnd) && buttonMask.testBit 1)

lemma pressedBy_zero (code : ℕ) : pressedBy 0 code = false := by simp [pressedBy]

lemma ptrevent_pressed {t : Injection} {lastMask : ℕ} (hd : ∀ code, t.device.isDown code = pressedBy lastMask code)
    (hl : t.leftClicked = lastMask.testBit 0) (hr : t.rightClicked = lastMask.testBit 2)
    (hm : t.middleClicked = lastMask.testBit 1) (rotation : ℕ) (s : FbVarScreeninfo) (buttonMask : ℕ) (x y : ℤ)
    (code : ℕ) : (t.ptrevent rotation s buttonMask x y).device.isDown code = pressedBy buttonMask code := by
  have hbk : btnTouch ≠ keyBack := by decide
  have hbe : btnTouch ≠ keyEnd := by decide
  have hke : keyBack ≠ keyEnd := by decide
  rw [Injection.ptrevent_isDown, hd, hl, hr, hm, pressedBy, pressedBy]
  grind

namespace Typing

variable (t : Typing out)

def call (c : Call) : Typing out where
  daemon := t.daemon.call c
  lastMask :=
    match c with
    | .keyevent _ _ => t.lastMask
    | .ptrevent buttonMask _ _ => if t.daemon.running then buttonMask else t.lastMask

def Exact : Prop := ∀ code, t.daemon.input.device.isDown code = pressedBy t.lastMask code

def Apart (t : Typing out) : Call → Prop
  | .keyevent down key => t.daemon.running = true → down = true →
      ((key = 0xff1b ∨ key = 0xffff) → t.lastMask.testBit 2 = false) ∧
        (key = 0xff57 → t.lastMask.testBit 1 = false)
  | .ptrevent _ _ _ => True

structure Kept : Prop where
  exact : t.Exact
  left : t.daemon.input.leftClicked = t.lastMask.testBit 0
  right : t.daemon.input.rightClicked = t.lastMask.testBit 2
  middle : t.daemon.input.middleClicked = t.lastMask.testBit 1

lemma stroke_exact_iff {d : Device} {buttonMask key : ℕ} (h : ∀ code, d.isDown code = pressedBy buttonMask code) :
    (∀ code, (stroke (keysym2scancode key) d).isDown code = pressedBy buttonMask code) ↔
      pressedBy buttonMask (keysym2scancode key).code = false := by
  have hshift : pressedBy buttonMask leftShift = false := rfl
  have halt : pressedBy buttonMask leftAlt = false := rfl
  constructor
  · intro hs
    have hcode := hs (keysym2scancode key).code
    rw [stroke_isDown] at hcode
    simpa using hcode.symm
  · intro hcode code
    rw [stroke_isDown, h]
    by_cases hc : code = (keysym2scancode key).code
    · simp [hc, hcode]
    · by_cases hs : code = leftShift
      · simp [hs, hshift]
      · by_cases ha : code = leftAlt
        · simp [ha, halt]
        · simp [hc, hs, ha]

lemma pressedBy_keysym (buttonMask key : ℕ) : pressedBy buttonMask (keysym2scancode key).code = false ↔
    ((key = 0xff1b ∨ key = 0xffff) → buttonMask.testBit 2 = false) ∧
      (key = 0xff57 → buttonMask.testBit 1 = false) := by
  rw [← code_back_iff, ← code_end_iff, pressedBy]
  simp [(code_unused key).1]

lemma exact_iff (t : Typing out) (c : Call) (h : t.Kept) : (t.call c).Exact ↔ t.Apart c := by
  cases hr : t.daemon.running with
  | false =>
    have hstays : (t.call c).Exact := by
      cases c <;> simpa [Exact, call, Daemon.call, hr] using h.exact
    cases c <;> simp [hstays, Apart, hr]
  | true =>
    cases c with
    | keyevent down key =>
      simp only [Exact, Apart, call, Daemon.call, hr, if_true, Daemon.keyevent_input, forall_const]
      by_cases ht : Types down key
      · rw [typed_of_types ht, stroke_exact_iff h.exact, pressedBy_keysym]
        simp [ht.1]
      · have hunmapped : down = true → (keysym2scancode key).code = 0 := by
          rw [Types] at ht
          tauto
        rw [typed_of_not_types ht]
        refine iff_of_true h.exact ?_
        intro hdown
        rw [← pressedBy_keysym, hunmapped hdown]
        rfl
    | ptrevent buttonMask x y =>
      refine iff_of_true ?_ trivial
      simp only [Exact, call, Daemon.call, hr, if_true]
      exact ptrevent_pressed h.exact h.left h.right h.middle _ _ buttonMask x y

lemma started_kept {fb : FbVncServer out} {bufferSize scaling : ℕ} :
    Kept ⟨.started fb bufferSize scaling, 0⟩ := by
  refine ⟨?_, ?_, ?_, ?_⟩
  · intro code
    rw [pressedBy_zero]
    rfl
  · simp [Daemon.started, Injection.created]
  · simp [Daemon.started, Injection.created]
  · simp [Daemon.started, Injection.created]

lemma call_kept (t : Typing out) (c : Call) (h : t.Kept) (hc : (t.call c).Exact) : (t.call c).Kept := by
  have hflags : (t.call c).daemon.input.leftClicked = (t.call c).lastMask.testBit 0 ∧
      (t.call c).daemon.input.rightClicked = (t.call c).lastMask.testBit 2 ∧
      (t.call c).daemon.input.middleClicked = (t.call c).lastMask.testBit 1 := by
    simp only [call, Daemon.call]
    cases hr : t.daemon.running with
    | false => cases c <;> simp [h.left, h.right, h.middle]
    | true =>
      cases c with
      | keyevent down key => simp [Daemon.keyevent_input, h.left, h.right, h.middle]
      | ptrevent buttonMask x y => simp [Daemon.ptrevent, Injection.ptrevent_flags]
  exact ⟨hc, hflags.1, hflags.2.1, hflags.2.2⟩

end Typing

theorem keys_and_buttons_apart (fb : FbVncServer out) (bufferSize scaling : ℕ) (calls : List Call) :
    Along Typing.call (fun t c => (t.call c).Exact) ⟨.started fb bufferSize scaling, 0⟩ calls ↔
      Along Typing.call Typing.Apart ⟨.started fb bufferSize scaling, 0⟩ calls :=
  along_congr Typing.Kept Typing.call_kept Typing.exact_iff Typing.started_kept

theorem escape_releases_held_button : ¬ Along Typing.call (fun t c => (t.call c).Exact)
    ⟨.started watchedServer 32 100, 0⟩ [.ptrevent 4 0 0, .keyevent true 0xff1b] := by
  rintro ⟨-, hexact, -⟩
  have hback := hexact keyBack
  revert hback
  decide

end AndroidRemote.Native
