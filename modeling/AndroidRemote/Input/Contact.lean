import AndroidRemote.Input.Pointer
import AndroidRemote.Library.Runs

/-! The touches that sequences of pointer events leave in the trace of the input device. -/

namespace AndroidRemote.Input

open AndroidRemote.Display AndroidRemote.Library

structure PointerCall where
  rotation : ℕ
  scrinfo : FbVarScreeninfo
  buttonMask : ℕ
  x : ℤ
  y : ℤ

namespace PointerCall

def position (c : PointerCall) : ℤ × ℤ := transformTouchCoordinates c.rotation c.scrinfo c.x c.y

def touches (c : PointerCall) : Bool := c.buttonMask.testBit 0

end PointerCall

def touchValue : InputEvent → Option ℤ
  | .evKey code value => if code = btnTouch then some value else none
  | _ => none

def contacts (d : Device) : List ℤ := d.reverse.filterMap touchValue

def alternation (n : ℕ) : List ℤ := (List.range n).map (fun k => if k % 2 = 0 then 1 else 0)

/-- The position before every touch, and a report right behind it; the latest event comes first. -/
def Bracketed (position : ℤ × ℤ) (written : Device) : Prop :=
  ∀ newer older value, written = newer ++ .evKey btnTouch value :: older →
    (∃ rest, newer = rest ++ [.synReport]) ∧
      ∃ rest, older = .evAbs .absY position.2 :: .evAbs .absX position.1 :: rest

lemma alternation_succ (n : ℕ) : alternation (n + 1) = alternation n ++ [if n % 2 = 0 then 1 else 0] := by
  simp [alternation, List.range_succ]

lemma alternation_last (n : ℕ) : (alternation n).getLast? = some 1 ↔ n % 2 = 1 := by
  cases n with
  | zero => simp [alternation]
  | succ n =>
    rw [alternation_succ, List.getLast?_concat]
    split_ifs with h <;> simp <;> omega

lemma contacts_append (written d : Device) : contacts (written ++ d) = contacts d ++ contacts written := by
  simp [contacts]

lemma contacts_eq_nil {d : Device} (h : ∀ e ∈ d, touchValue e = none) : contacts d = [] := by
  simpa [contacts, List.filterMap_eq_nil_iff] using h

lemma Bracketed.behind {p : ℤ × ℤ} {written : Device} (h : Bracketed p written) {later : Device}
    (hl : ∀ e ∈ later, touchValue e = none) : Bracketed p (later ++ written) := by
  intro newer older value heq
  rcases List.append_eq_append_iff.mp heq with ⟨rest, rfl, hw⟩ | ⟨rest, rfl, hw⟩
  · obtain ⟨⟨front, rfl⟩, hbefore⟩ := h rest older value hw
    exact ⟨⟨later ++ front, by simp⟩, hbefore⟩
  · cases rest with
    | nil =>
      obtain ⟨⟨front, hfront⟩, -⟩ := h [] older value hw.symm
      simp at hfront
    | cons e rest =>
      cases hw
      have hnone := hl (.evKey btnTouch value) (by simp)
      simp [touchValue] at hnone

namespace Injection

def point (t : Injection) (c : PointerCall) : Injection :=
  t.ptrevent c.rotation c.scrinfo c.buttonMask c.x c.y

def Reports (t : Injection) (c : PointerCall) : Prop :=
  ∃ written, (t.point c).device = written ++ t.device ∧ Bracketed c.position written ∧
    contacts written = if c.touches = t.leftClicked then [] else [if c.touches then 1 else 0]

def clickWrites (code : ℕ) (held was : Bool) : Device :=
  if held then [.evKey code 1] else if was then [.evKey code 0] else []

lemma click_writes (code : ℕ) (held was : Bool) (d : Device) :
    (click code held was d).2 = clickWrites code held was ++ d := by
  cases held <;> cases was <;> rfl

variable (t : Injection)

def leftWrites (held : Bool) (p : ℤ × ℤ) : Device :=
  if held = t.leftClicked then
    if held = true ∧ (t.i + 1) % 10 = 1 then [.synReport, .evAbs .absY p.2, .evAbs .absX p.1] else []
  else
    [.synReport, .evKey btnTouch (if held then 1 else 0), .evAbs .absY p.2, .evAbs .absX p.1]

lemma left_writes (held : Bool) (p : ℤ × ℤ) :
    (t.left held p.1 p.2).device = t.leftWrites held p ++ t.device := by
  cases held <;> cases hl : t.leftClicked <;> simp [left, leftWrites, hl, placed, Device.suinputWrite]
  split_ifs <;> rfl

lemma point_writes (c : PointerCall) : (t.point c).device =
    clickWrites keyEnd (c.buttonMask.testBit 1) t.middleClicked ++
      (clickWrites keyBack (c.buttonMask.testBit 2) t.rightClicked ++
        (t.leftWrites c.touches c.position ++ t.device)) := by
  have hflags := (left_flags (t := t) c.touches c.position.1 c.position.2).2
  rw [← left_writes, ← hflags.1, ← hflags.2, ← click_writes, ← click_writes]
  rfl

lemma clickWrites_silent {code : ℕ} (hc : code ≠ btnTouch) (held was : Bool) :
    ∀ e ∈ clickWrites code held was, touchValue e = none := by
  cases held <;> cases was <;> simp [clickWrites, touchValue, hc]

lemma leftWrites_contacts (held : Bool) (p : ℤ × ℤ) : contacts (t.leftWrites held p) =
    if held = t.leftClicked then [] else [if held then 1 else 0] := by
  rw [leftWrites]
  split_ifs <;> rfl

lemma bracketed_touch (p : ℤ × ℤ) (v : ℤ) :
    Bracketed p [.synReport, .evKey btnTouch v, .evAbs .absY p.2, .evAbs .absX p.1] := by
  intro newer older value heq
  rcases newer with _ | ⟨a, _ | ⟨b, _ | ⟨c, _ | ⟨d, newer⟩⟩⟩⟩ <;> simp at heq
  obtain ⟨rfl, rfl, rfl⟩ := heq
  exact ⟨⟨[], rfl⟩, ⟨[], rfl⟩⟩

lemma leftWrites_bracketed (held : Bool) (p : ℤ × ℤ) : Bracketed p (t.leftWrites held p) := by
  rw [leftWrites]
  split_ifs
  · intro newer older value heq
    rcases newer with _ | ⟨a, _ | ⟨b, _ | ⟨c, newer⟩⟩⟩ <;> simp at heq
  · intro newer older value heq
    simp at heq
  · exact bracketed_touch p 1
  · exact bracketed_touch p 0

lemma point_reports (c : PointerCall) : t.Reports c := by
  have hback := clickWrites_silent (show keyBack ≠ btnTouch by decide) (c.buttonMask.testBit 2) t.rightClicked
  have hend := clickWrites_silent (show keyEnd ≠ btnTouch by decide) (c.buttonMask.testBit 1) t.middleClicked
  have hleft := (t.leftWrites_bracketed c.touches c.position).behind hback
  refine ⟨_, ?_, hleft.behind hend, ?_⟩
  · rw [point_writes]
    simp only [List.append_assoc]
  · rw [contacts_append, contacts_append, leftWrites_contacts, contacts_eq_nil hback, contacts_eq_nil hend,
      List.append_nil, List.append_nil]

lemma point_contacts (c : PointerCall) : contacts (t.point c).device =
    contacts t.device ++ if c.touches = t.leftClicked then [] else [if c.touches then 1 else 0] := by
  obtain ⟨written, hdevice, -, hcontacts⟩ := t.point_reports c
  rw [hdevice, contacts_append, hcontacts]

lemma point_leftClicked (c : PointerCall) : (t.point c).leftClicked = c.touches :=
  (ptrevent_flags c.rotation c.scrinfo c.buttonMask c.x c.y).1

def Alternating : Prop := ∃ n, contacts t.device = alternation n ∧ t.leftClicked = decide (n % 2 = 1)

lemma point_alternating {t : Injection} (h : t.Alternating) (c : PointerCall) : (t.point c).Alternating := by
  obtain ⟨n, hn, hl⟩ := h
  rw [Alternating, point_contacts, point_leftClicked]
  by_cases hsame : c.touches = t.leftClicked
  · exact ⟨n, by simp [hsame, hn], hsame.trans hl⟩
  · have hparity : c.touches = decide (n % 2 = 0) := by
      rw [hl] at hsame
      cases htouch : c.touches <;> simp [htouch] at hsame ⊢ <;> omega
    refine ⟨n + 1, ?_, ?_⟩
    · rw [if_neg hsame]
      simp [alternation_succ, hn, hparity]
    · rw [hparity]
      congr 1
      apply propext
      omega

lemma run_leftClicked (t : Injection) (cs : List PointerCall) :
    (run point t cs).leftClicked = (cs.getLast?.map PointerCall.touches).getD t.leftClicked := by
  induction cs generalizing t with
  | nil => rfl
  | cons c cs ih =>
    rw [run_cons, ih, point_leftClicked, List.getLast?_cons]
    cases cs.getLast? <;> rfl

end Injection

theorem contacts_bracketed (cs : List PointerCall) :
    let t := run Injection.point .created cs
    (∃ n, contacts t.device = alternation n) ∧
      ((contacts t.device).getLast? = some 1 ↔ ∃ c, cs.getLast? = some c ∧ c.touches = true) ∧
      Along Injection.point Injection.Reports .created cs := by
  have hall : Along Injection.point (fun _ _ => True) .created cs := along_of_forall (A := fun _ => True) (by simp)
  have hstart : Injection.created.Alternating := ⟨0, rfl, rfl⟩
  obtain ⟨n, hn, hl⟩ := hall.invariant Injection.Alternating
    (fun t c ht _ => Injection.point_alternating ht c) hstart
  have hlast := Injection.run_leftClicked .created cs
  refine ⟨⟨n, hn⟩, ?_, ?_⟩
  · rw [hn, alternation_last, ← decide_eq_true_iff (p := n % 2 = 1), ← hl, hlast]
    cases cs.getLast? <;> simp [Injection.created]
  · exact hall.of_invariant (fun _ => True) (fun _ _ _ _ => trivial) (fun t c _ _ => t.point_reports c) trivial

end AndroidRemote.Input
