import AndroidRemote.Input.Contact

/-! What sequences of pointer events write for the keys behind the right and the middle button. -/

namespace AndroidRemote.Input

open AndroidRemote.Display AndroidRemote.Library

def keyValue (code : ℕ) : InputEvent → Option ℤ
  | .evKey c value => if c = code then some value else none
  | _ => none

def keyValues (code : ℕ) (d : Device) : List ℤ := d.reverse.filterMap (keyValue code)

def PointerCall.holds (bit : ℕ) (c : PointerCall) : Bool := c.buttonMask.testBit bit

def transitions (before after : Bool) : Bool → List Bool → ℕ
  | _, [] => 0
  | was, held :: hs => (if was = before ∧ held = after then 1 else 0) + transitions before after held hs

def clickValues : Bool → List Bool → List ℤ
  | _, [] => []
  | was, held :: hs => (if held then [1] else if was then [0] else []) ++ clickValues held hs

def PressesOnce (bit code : ℕ) (cs : List PointerCall) : Prop :=
  let values := keyValues code (run Injection.point .created cs).device
  (∃ n, values = alternation n) ∧
    values.count 1 = transitions false true false (cs.map (PointerCall.holds bit)) ∧
    values.count 0 = transitions true false false (cs.map (PointerCall.holds bit))

lemma keyValues_append (code : ℕ) (written d : Device) :
    keyValues code (written ++ d) = keyValues code d ++ keyValues code written := by
  simp [keyValues]

lemma count_presses (was : Bool) (hs : List Bool) : (clickValues was hs).count 1 =
    transitions false true was hs + transitions true true was hs := by
  induction hs generalizing was with
  | nil => rfl
  | cons held hs ih =>
    rw [clickValues, List.count_append, ih]
    cases held <;> cases was <;> simp [transitions] <;> omega

lemma count_releases (was : Bool) (hs : List Bool) : (clickValues was hs).count 0 =
    transitions true false was hs := by
  induction hs generalizing was with
  | nil => rfl
  | cons held hs ih =>
    rw [clickValues, List.count_append, ih]
    cases held <;> cases was <;> simp [transitions]

lemma clickValues_alternate (n : ℕ) (was : Bool) (hs : List Bool) (hw : was = decide (n % 2 = 1))
    (h : transitions true true was hs = 0) : ∃ m, alternation n ++ clickValues was hs = alternation m := by
  induction hs generalizing n was with
  | nil => exact ⟨n, by simp [clickValues]⟩
  | cons held hs ih =>
    obtain ⟨hnow, hlater⟩ := Nat.add_eq_zero_iff.mp h
    by_cases hsame : held = was
    · subst held
      have hlow : was = false := by
        cases was <;> simp at hnow ⊢
      simpa [clickValues, hlow] using ih n was hw hlater
    · have hnext : held = decide ((n + 1) % 2 = 1) := by
        subst was
        cases held <;> simp at hsame ⊢ <;> omega
      obtain ⟨m, hm⟩ := ih (n + 1) held hnext hlater
      refine ⟨m, ?_⟩
      rw [← hm, alternation_succ, List.append_assoc, clickValues]
      congr 2
      subst was
      cases held <;> simp at hsame ⊢ <;> simp [hsame]

lemma holds_apart {was : Bool} {hs : List Bool} : transitions true true was hs = 0 ↔
    (was :: hs).IsChain (fun a b => ¬ (a = true ∧ b = true)) := by
  induction hs generalizing was with
  | nil => simp [transitions]
  | cons held hs ih => rw [transitions, Nat.add_eq_zero_iff, ih, List.isChain_cons_cons]; simp

namespace Injection

variable (t : Injection)

lemma clickWrites_values (code c : ℕ) (held was : Bool) : keyValues code (clickWrites c held was) =
    if c = code then (if held then [1] else if was then [0] else []) else [] := by
  by_cases hc : c = code <;> cases held <;> cases was <;> simp [clickWrites, keyValues, keyValue, hc]

lemma leftWrites_values {code : ℕ} (hc : code ≠ btnTouch) (held : Bool) (p : ℤ × ℤ) :
    keyValues code (t.leftWrites held p) = [] := by
  rw [leftWrites]
  split_ifs <;> simp [keyValues, keyValue, hc.symm]

lemma point_right (c : PointerCall) : keyValues keyBack (t.point c).device = keyValues keyBack t.device ++
    if c.holds 2 then [1] else if t.rightClicked then [0] else [] := by
  rw [point_writes, keyValues_append, keyValues_append, keyValues_append,
    leftWrites_values t (show keyBack ≠ btnTouch by decide), clickWrites_values, clickWrites_values,
    if_neg (show keyEnd ≠ keyBack by decide), if_pos rfl, List.append_nil, List.append_nil]
  rfl

lemma point_middle (c : PointerCall) : keyValues keyEnd (t.point c).device = keyValues keyEnd t.device ++
    if c.holds 1 then [1] else if t.middleClicked then [0] else [] := by
  rw [point_writes, keyValues_append, keyValues_append, keyValues_append,
    leftWrites_values t (show keyEnd ≠ btnTouch by decide), clickWrites_values, clickWrites_values,
    if_neg (show keyBack ≠ keyEnd by decide), if_pos rfl, List.append_nil, List.append_nil]
  rfl

lemma run_clickValues {bit code : ℕ} (clicked : Injection → Bool)
    (hflag : ∀ t c, clicked (point t c) = c.holds bit)
    (hstep : ∀ t c, keyValues code (point t c).device = keyValues code t.device ++
      if c.holds bit then [1] else if clicked t then [0] else [])
    (cs : List PointerCall) : keyValues code (run point t cs).device =
      keyValues code t.device ++ clickValues (clicked t) (cs.map (PointerCall.holds bit)) := by
  induction cs generalizing t with
  | nil => simp [clickValues]
  | cons c cs ih =>
    rw [run_cons, ih, hstep, hflag, List.map_cons, clickValues, List.append_assoc]

lemma right_values (cs : List PointerCall) : keyValues keyBack (run point .created cs).device =
    clickValues false (cs.map (PointerCall.holds 2)) :=
  run_clickValues .created rightClicked
    (fun _ c => (ptrevent_flags c.rotation c.scrinfo c.buttonMask c.x c.y).2.1) point_right cs

lemma middle_values (cs : List PointerCall) : keyValues keyEnd (run point .created cs).device =
    clickValues false (cs.map (PointerCall.holds 1)) :=
  run_clickValues .created middleClicked
    (fun _ c => (ptrevent_flags c.rotation c.scrinfo c.buttonMask c.x c.y).2.2) point_middle cs

end Injection

lemma pressesOnce_iff {bit code : ℕ} {cs : List PointerCall}
    (h : keyValues code (run Injection.point .created cs).device =
      clickValues false (cs.map (PointerCall.holds bit))) :
    PressesOnce bit code cs ↔
      cs.IsChain (fun before after => ¬ (before.holds bit = true ∧ after.holds bit = true)) := by
  have hchain : transitions true true false (cs.map (PointerCall.holds bit)) = 0 ↔
      cs.IsChain (fun before after => ¬ (before.holds bit = true ∧ after.holds bit = true)) := by
    rw [holds_apart]
    cases cs with
    | nil => simp
    | cons c cs =>
      rw [List.map_cons, List.isChain_cons_cons, ← List.map_cons, List.isChain_map]
      simp
  rw [← hchain, PressesOnce, h, count_presses, count_releases]
  constructor
  · rintro ⟨-, hpresses, -⟩
    omega
  · intro hapart
    have halternate := clickValues_alternate 0 false (cs.map (PointerCall.holds bit)) rfl hapart
    exact ⟨by simpa [alternation] using halternate, by omega, rfl⟩

theorem clicks_once_iff_apart (cs : List PointerCall) :
    (PressesOnce 2 keyBack cs ∧ PressesOnce 1 keyEnd cs) ↔
      cs.IsChain (fun before after => ¬ (before.holds 2 = true ∧ after.holds 2 = true)) ∧
        cs.IsChain (fun before after => ¬ (before.holds 1 = true ∧ after.holds 1 = true)) :=
  and_congr (pressesOnce_iff (Injection.right_values cs)) (pressesOnce_iff (Injection.middle_values cs))

def heldBack : PointerCall := ⟨0, portrait, 4, 10, 10⟩

theorem held_button_presses_twice :
    ¬ ∀ cs : List PointerCall, PressesOnce 2 keyBack cs ∧ PressesOnce 1 keyEnd cs := by
  intro h
  have hpresses := (h [heldBack, heldBack]).1.2.1
  revert hpresses
  decide

end AndroidRemote.Input
