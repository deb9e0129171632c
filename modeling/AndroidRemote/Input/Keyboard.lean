import AndroidRemote.Input.Device

/-! `keysym2scancode` and the key strokes that `keyevent` writes. -/

namespace AndroidRemote.Input

inductive KeyCommand
  | rfbShutdownServer
  | exit
  | rotate
  deriving DecidableEq, Repr

structure Mapping where
  code : ℕ
  sh : Bool
  alt : Bool
  command : Option KeyCommand
  deriving DecidableEq, Repr

namespace Mapping

def plain (code : ℕ) : Mapping := ⟨code, false, false, none⟩

def shifted (code : ℕ) (sh : Bool) : Mapping := ⟨code, sh, false, none⟩

def altered (code : ℕ) (sh : Bool) : Mapping := ⟨code, sh, true, none⟩

def runs (command : KeyCommand) : Mapping := ⟨0, false, false, some command⟩

end Mapping

def qwerty : List ℕ :=
  [30, 48, 46, 32, 18, 33, 34, 35, 23, 36, 37, 38, 50, 49, 24, 25, 16, 19, 31, 20, 22, 47, 17, 45, 21, 44]

def spec1 : List (ℕ × Bool) :=
  [(57, false), (2, true), (40, true), (4, true), (5, true), (6, true), (8, true), (40, false),
    (10, true), (11, true), (9, true), (13, true), (51, false), (12, false), (52, false), (52, true)]

def spec2 : List (ℕ × Bool) :=
  [(39, true), (39, false), (227, true), (13, true), (228, true), (53, true), (215, false)]

def spec3 : List (ℕ × Bool) :=
  [(26, false), (43, false), (27, false), (7, true), (12, true), (399, false)]

def spec4 : List (ℕ × Bool) := [(26, true), (43, true), (27, true), (215, true), (14, false)]

def punctuation (spec : List (ℕ × Bool)) (k : ℕ) : Mapping :=
  let entry := spec.getD k (0, false)
  .shifted entry.1 entry.2

/-- The labels of the `switch`, with `real` set. -/
def switch : List (ℕ × Mapping) :=
  [(0xff08, .plain 14), (0xff09, .plain 15),
    (1, .altered 34 false), (3, .altered 46 false), (4, .altered 32 false), (18, .altered 31 false),
    (0xff0d, .plain 28), (0xff1b, .plain keyBack),
    (0xff51, .plain 105), (0xff53, .plain 106), (0xff54, .plain 108), (0xff52, .plain 103),
    (0xff50, .plain keyHome),
    (0xffc8, .runs .rfbShutdownServer), (0xffc9, .runs .exit), (0xffc1, .runs .rotate),
    (0xffff, .plain keyBack), (0xff55, .plain 229), (0xffcf, .plain 127), (0xffe3, .plain 127),
    (0xff56, .plain 61), (0xff57, .plain keyEnd),
    (0xffc2, .plain 211), (0xffc3, .plain 212), (0xffc4, .plain 150), (0xffc5, .plain 155),
    (50081, .altered 48 false), (225, .altered 48 false), (50049, .altered 48 true), (193, .altered 48 true),
    (50089, .altered 18 false), (233, .altered 18 false), (50057, .altered 18 true), (201, .altered 18 true),
    (50093, .altered 36 false), (0xffbf, .altered 36 false), (50061, .altered 36 true), (205, .altered 36 true),
    (50099, .altered 16 false), (243, .altered 16 false), (50067, .altered 16 true), (211, .altered 16 true),
    (50102, .altered 25 false), (246, .altered 25 false), (50070, .altered 25 true), (214, .altered 25 true),
    (50577, .altered 19 false), (245, .altered 19 false), (50576, .altered 19 true), (213, .altered 19 true),
    (50106, .altered 17 true), (50074, .altered 17 true), (218, .altered 17 true),
    (50108, .altered 47 false), (252, .altered 47 false), (50076, .altered 47 true), (220, .altered 47 true),
    (50609, .altered 45 false), (251, .altered 45 false), (50608, .altered 45 true), (219, .altered 45 true)]

def keysym2scancode (c : ℕ) : Mapping :=
  if 97 ≤ c ∧ c ≤ 122 then .plain (qwerty.getD (c - 97) 0)
  else if 65 ≤ c ∧ c ≤ 90 then .shifted (qwerty.getD (c - 65) 0) true
  else if 49 ≤ c ∧ c ≤ 57 then .plain (c - 49 + 2)
  else if c = 48 then .plain 11
  else if 32 ≤ c ∧ c ≤ 47 then punctuation spec1 (c - 32)
  else if 58 ≤ c ∧ c ≤ 64 then punctuation spec2 (c - 58)
  else if 91 ≤ c ∧ c ≤ 96 then punctuation spec3 (c - 91)
  else if 123 ≤ c ∧ c ≤ 127 then punctuation spec4 (c - 123)
  else (switch.lookup c).getD (.plain 0)

lemma keysym2scancode_large {c : ℕ} (h : 128 ≤ c) : keysym2scancode c = (switch.lookup c).getD (.plain 0) := by
  have hout : ∀ a b : ℕ, b < 128 → ¬ (a ≤ c ∧ c ≤ b) := by omega
  rw [keysym2scancode, if_neg (hout _ _ (by decide)), if_neg (hout _ _ (by decide)),
    if_neg (hout _ _ (by decide)), if_neg (by omega), if_neg (hout _ _ (by decide)),
    if_neg (hout _ _ (by decide)), if_neg (hout _ _ (by decide)), if_neg (hout _ _ (by decide))]

lemma keysym2scancode_forall {P : ℕ → Mapping → Prop} (hsmall : ∀ c < 128, P c (keysym2scancode c))
    (hlabel : ∀ e ∈ switch, P e.1 e.2) (hother : ∀ c, (∀ e ∈ switch, e.1 ≠ c) → P c (.plain 0))
    (c : ℕ) :
    P c (keysym2scancode c) := by
  by_cases hc : c < 128
  · exact hsmall c hc
  · rw [keysym2scancode_large (by omega)]
    cases hl : switch.lookup c with
    | some m =>
      obtain ⟨before, after, hsplit, -⟩ := List.lookup_eq_some_iff.mp hl
      exact hlabel (c, m) (hsplit ▸ by simp)
    | none =>
      apply hother
      intro e he hec
      have hnone := List.lookup_eq_none_iff.mp hl e he
      simp [hec] at hnone

lemma code_unused (c : ℕ) : (keysym2scancode c).code ≠ btnTouch ∧
    (keysym2scancode c).code ≠ leftShift ∧ (keysym2scancode c).code ≠ leftAlt := by
  apply keysym2scancode_forall (P := fun _ m => m.code ≠ btnTouch ∧ m.code ≠ leftShift ∧ m.code ≠ leftAlt)
  · decide +kernel
  · decide +kernel
  · intro c _
    decide

lemma mapping_iff (p : Mapping → Bool) (keys : List ℕ)
    (hsmall : ∀ c < 128, p (keysym2scancode c) = decide (c ∈ keys))
    (hlabel : ∀ e ∈ switch, p e.2 = decide (e.1 ∈ keys)) (hkeys : ∀ c ∈ keys, ∃ e ∈ switch, e.1 = c)
    (hplain : p (.plain 0) = false) (c : ℕ) : p (keysym2scancode c) = true ↔ c ∈ keys := by
  have hall : p (keysym2scancode c) = decide (c ∈ keys) := by
    apply keysym2scancode_forall (P := fun c m => p m = decide (c ∈ keys)) hsmall hlabel
    intro c hc
    rw [hplain, eq_comm, decide_eq_false_iff_not]
    intro hk
    obtain ⟨e, he, hec⟩ := hkeys c hk
    exact hc e he hec
  rw [hall, decide_eq_true_eq]

theorem code_back_iff (c : ℕ) : (keysym2scancode c).code = keyBack ↔ c = 0xff1b ∨ c = 0xffff := by
  have h := mapping_iff (fun m => decide (m.code = keyBack)) [0xff1b, 0xffff]
    (by decide +kernel) (by decide +kernel) (by decide +kernel) (by decide) c
  simpa using h

theorem code_end_iff (c : ℕ) : (keysym2scancode c).code = keyEnd ↔ c = 0xff57 := by
  have h := mapping_iff (fun m => decide (m.code = keyEnd)) [0xff57]
    (by decide +kernel) (by decide +kernel) (by decide +kernel) (by decide) c
  simpa using h

theorem command_shutdown_iff (c : ℕ) :
    (keysym2scancode c).command = some .rfbShutdownServer ↔ c = 0xffc8 := by
  have h := mapping_iff (fun m => decide (m.command = some .rfbShutdownServer)) [0xffc8]
    (by decide +kernel) (by decide +kernel) (by decide +kernel) (by decide) c
  simpa using h

theorem command_rotate_iff (c : ℕ) : (keysym2scancode c).command = some .rotate ↔ c = 0xffc1 := by
  have h := mapping_iff (fun m => decide (m.command = some .rotate)) [0xffc1]
    (by decide +kernel) (by decide +kernel) (by decide +kernel) (by decide) c
  simpa using h

def stroke (m : Mapping) (d : Device) : Device :=
  let d := if m.sh then d.suinputPress leftShift else d
  let d := if m.alt then d.suinputPress leftAlt else d
  let d := d.suinputPress m.code
  let d := d.suinputRelease m.code
  let d := if m.alt then d.suinputRelease leftAlt else d
  if m.sh then d.suinputRelease leftShift else d

def typed (down : Bool) (key : ℕ) (d : Device) : Device :=
  let m := keysym2scancode key
  if m.code ≠ 0 ∧ key ≠ 0 ∧ down = true then stroke m d else d

lemma stroke_isDown (m : Mapping) (d : Device) (code : ℕ) : (stroke m d).isDown code =
    (d.isDown code && decide (code ≠ m.code) && !(m.sh && decide (code = leftShift)) &&
      !(m.alt && decide (code = leftAlt))) := by
  rw [stroke]
  cases m.sh <;> cases m.alt <;> simp [eq_comm (a := code)] <;> grind

lemma stroke_pending (m : Mapping) (d : Device) : (stroke m d).pending ≠ [] := by
  rw [stroke]
  cases m.sh <;> cases m.alt <;> simp

end AndroidRemote.Input
