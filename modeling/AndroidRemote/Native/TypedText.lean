import AndroidRemote.Library.Codes
import AndroidRemote.Native.Injected

/-! The streams of input events that typed texts become, and what can be read off them again. -/

namespace AndroidRemote.Native

open AndroidRemote.Display AndroidRemote.Input AndroidRemote.Library InformationTheory

variable {out : Out}

def Printable (key : ℕ) : Prop := 32 ≤ key ∧ key ≤ 126

instance (key : ℕ) : Decidable (Printable key) := inferInstanceAs (Decidable (_ ∧ _))

def letter (key : ℕ) : List Call := [.keyevent true key, .keyevent false key]

def typing (text : List ℕ) : List Call := text.flatMap letter

def group (m : Mapping) : List InputEvent := (stroke m []).reverse

/-- `=` has the scan code and the shift of `+`. -/
def typedAs (key : ℕ) : ℕ := if key = 61 then 43 else key

lemma stroke_group (m : Mapping) (d : Device) : stroke m d = (group m).reverse ++ d := by
  rw [group, List.reverse_reverse, stroke, stroke]
  cases m.sh <;> cases m.alt <;> rfl

lemma group_eq (m : Mapping) : group m =
    (if m.sh then [InputEvent.evKey leftShift 1] else []) ++
      ((if m.alt then [InputEvent.evKey leftAlt 1] else []) ++
        ([InputEvent.evKey m.code 1, InputEvent.evKey m.code 0] ++
          ((if m.alt then [InputEvent.evKey leftAlt 0] else []) ++
            if m.sh then [InputEvent.evKey leftShift 0] else []))) := by
  rw [group, stroke]
  cases m.sh <;> cases m.alt <;> rfl

lemma group_prefix {m n : Mapping} (hm : m.code ≠ leftShift ∧ m.code ≠ leftAlt)
    (hn : n.code ≠ leftShift ∧ n.code ≠ leftAlt) (h : group m <+: group n) :
    m.sh = n.sh ∧ m.alt = n.alt ∧ m.code = n.code := by
  have hshiftalt : leftShift ≠ leftAlt := by decide
  rw [group_eq, group_eq] at h
  cases hms : m.sh <;> cases hma : m.alt <;> cases hns : n.sh <;> cases hna : n.alt <;>
    simp [hms, hma, hns, hna] at h ⊢ <;> tauto

lemma groups_decodable : UniquelyDecodable (Set.range fun key => group (keysym2scancode key)) := by
  apply uniquelyDecodable_of_prefix
  · rintro ⟨key, hkey⟩
    simp [group_eq] at hkey
  · rintro _ ⟨key, rfl⟩ _ ⟨other, rfl⟩ hpre
    obtain ⟨hsh, halt, hcode⟩ := group_prefix (code_unused key).2 (code_unused other).2 hpre
    simp only [group_eq, hsh, halt, hcode]

lemma group_eq_iff {key other : ℕ} : group (keysym2scancode key) = group (keysym2scancode other) ↔
    (keysym2scancode key).sh = (keysym2scancode other).sh ∧
      (keysym2scancode key).alt = (keysym2scancode other).alt ∧
      (keysym2scancode key).code = (keysym2scancode other).code := by
  constructor
  · intro h
    exact group_prefix (code_unused key).2 (code_unused other).2 (h ▸ List.prefix_refl _)
  · rintro ⟨hsh, halt, hcode⟩
    rw [group_eq, group_eq, hsh, halt, hcode]

lemma printable_typed {key : ℕ} (h : Printable key) :
    (keysym2scancode key).code ≠ 0 ∧ (keysym2scancode key).command = none := by
  have hall : ∀ k < 127, 32 ≤ k → (keysym2scancode k).code ≠ 0 ∧ (keysym2scancode k).command = none := by
    decide +kernel
  exact hall key (by have := h.2; omega) h.1

lemma printable_group_iff {key other : ℕ} (h : Printable key) (ho : Printable other) :
    group (keysym2scancode key) = group (keysym2scancode other) ↔ typedAs key = typedAs other := by
  have hall : ∀ k < 127, 32 ≤ k → ∀ l ∈ List.range' 32 95, (decide (typedAs k = typedAs l)) =
      decide ((keysym2scancode k).sh = (keysym2scancode l).sh ∧
        (keysym2scancode k).alt = (keysym2scancode l).alt ∧
          (keysym2scancode k).code = (keysym2scancode l).code) := by
    decide +kernel
  rw [group_eq_iff, ← decide_eq_decide]
  have hrange : other ∈ List.range' 32 95 := by
    rw [List.mem_range'_1]
    have := ho.2
    exact ⟨ho.1, by omega⟩
  exact (hall key (by have := h.2; omega) h.1 other hrange).symm

namespace Daemon

variable {d : Daemon out}

lemma letter_call (hd : d.running = true) {key : ℕ} (h : Printable key) :
    (run call d (letter key)).running = true ∧
      (run call d (letter key)).input.device = (group (keysym2scancode key)).reverse ++ d.input.device := by
  obtain ⟨hcode, hcommand⟩ := printable_typed h
  have hpress : d.call (.keyevent true key) =
      { d with input.device := stroke (keysym2scancode key) d.input.device } := by
    rw [call, if_pos hd]
    simp only [keyevent, hcommand, perform, typed_of_types ⟨rfl, hcode⟩]
  have hrelease : ∀ e : Daemon out, e.running = true → e.call (.keyevent false key) = e := by
    intro e he
    rw [call, if_pos he]
    simp only [keyevent, hcommand, perform, typed_of_not_types (show ¬ Types false key by simp [Types])]
  have hboth : run call d (letter key) = d.call (.keyevent true key) :=
    hrelease _ (by rw [hpress]; exact hd)
  rw [hboth, hpress]
  exact ⟨hd, stroke_group _ _⟩

lemma typing_device (hd : d.running = true) {text : List ℕ} (h : ∀ key ∈ text, Printable key) :
    (run call d (typing text)).input.device =
      (text.map (fun key => group (keysym2scancode key))).flatten.reverse ++ d.input.device := by
  induction text generalizing d with
  | nil => rfl
  | cons key text ih =>
    obtain ⟨hrun, hdevice⟩ := letter_call hd (h key (by simp))
    have hrest := ih hrun (fun k hk => h k (by simp [hk]))
    have hsplit : run call d (typing (key :: text)) = run call (run call d (letter key)) (typing text) := by
      simp [run, typing, List.foldl_append]
    rw [hsplit, hrest, hdevice]
    simp

end Daemon

theorem typing_decodable_iff (d : Daemon out) (hd : d.running = true) (text other : List ℕ)
    (ht : ∀ key ∈ text, Printable key) (ho : ∀ key ∈ other, Printable key) :
    (run Daemon.call d (typing text)).input.device ≠ (run Daemon.call d (typing other)).input.device ↔
      text.map typedAs ≠ other.map typedAs := by
  rw [Daemon.typing_device hd ht, Daemon.typing_device hd ho, ne_eq, ne_eq, not_iff_not,
    List.append_cancel_right_eq, List.reverse_inj]
  have hgroups : ∀ t : List ℕ, ∀ w ∈ t.map (fun key => group (keysym2scancode key)),
      w ∈ Set.range fun key => group (keysym2scancode key) := by
    intro t w hw
    obtain ⟨key, -, rfl⟩ := List.mem_map.mp hw
    exact ⟨key, rfl⟩
  have hflat : (text.map fun key => group (keysym2scancode key)).flatten =
        (other.map fun key => group (keysym2scancode key)).flatten ↔
      text.map (fun key => group (keysym2scancode key)) = other.map fun key => group (keysym2scancode key) :=
    ⟨groups_decodable _ _ (hgroups text) (hgroups other), fun h => h ▸ rfl⟩
  rw [hflat]
  exact map_eq_map_congr (fun _ _ => printable_group_iff) ht ho

theorem plus_and_minus_decodable :
    (run Daemon.call (.started watchedServer 32 100) (typing [43, 45])).input.device ≠
      (run Daemon.call (.started watchedServer 32 100) (typing [61, 43])).input.device :=
  (typing_decodable_iff (.started watchedServer 32 100) rfl [43, 45] [61, 43] (by decide) (by decide)).mpr
    (by decide)

theorem equals_is_typed_as_plus : ¬ ∀ text other : List ℕ, (∀ key ∈ text, Printable key) →
    (∀ key ∈ other, Printable key) → text ≠ other →
    (run Daemon.call (.started watchedServer 32 100) (typing text)).input.device ≠
      (run Daemon.call (.started watchedServer 32 100) (typing other)).input.device := by
  intro h
  exact h [43] [61] (by decide) (by decide) (by decide) rfl

end AndroidRemote.Native
