import AndroidRemote.Input.Clicks
import AndroidRemote.Library.Windows

/-! The moves of the held left button, and which of them report the position of the pointer. -/

namespace AndroidRemote.Input

open AndroidRemote.Display AndroidRemote.Library

def InputEvent.onAxis : InputEvent → Bool
  | .evAbs _ _ => true
  | _ => false

def axes (d : Device) : List InputEvent := d.reverse.filter InputEvent.onAxis

structure Move where
  call : PointerCall
  written : Device

def Move.reports (m : Move) : Bool :=
  decide (axes m.written = [.evAbs .absX m.call.position.1, .evAbs .absY m.call.position.2])

def reported (n : ℕ) : Bool := decide (Int32.ofNat n % 10 = 1)

namespace Injection

def written (t : Injection) (c : PointerCall) : Device :=
  (t.point c).device.take ((t.point c).device.length - t.device.length)

def moves : Injection → List PointerCall → List Move
  | _, [] => []
  | t, c :: cs =>
    if t.leftClicked && c.touches then ⟨c, t.written c⟩ :: moves (t.point c) cs
    else moves (t.point c) cs

end Injection

lemma axes_append (written d : Device) : axes (written ++ d) = axes d ++ axes written := by
  simp [axes]

namespace Injection

variable (t : Injection)

lemma written_eq (c : PointerCall) : t.written c =
    clickWrites keyEnd (c.buttonMask.testBit 1) t.middleClicked ++
      (clickWrites keyBack (c.buttonMask.testBit 2) t.rightClicked ++ t.leftWrites c.touches c.position) := by
  rw [written, point_writes, ← List.append_assoc, ← List.append_assoc, List.append_assoc _ (clickWrites _ _ _),
    List.length_append, Nat.add_sub_cancel, List.take_left]

lemma clickWrites_axes (code : ℕ) (held was : Bool) : axes (clickWrites code held was) = [] := by
  cases held <;> cases was <;> rfl

lemma written_axes (c : PointerCall) : axes (t.written c) = axes (t.leftWrites c.touches c.position) := by
  rw [written_eq, axes_append, axes_append, clickWrites_axes, clickWrites_axes, List.append_nil, List.append_nil]

variable {t}

lemma move_axes {c : PointerCall} (hl : t.leftClicked = true) (hc : c.touches = true) :
    axes (t.written c) =
      if (t.i + 1) % 10 = 1 then [.evAbs .absX c.position.1, .evAbs .absY c.position.2] else [] := by
  rw [written_axes, leftWrites, hl, hc, if_pos rfl]
  split_ifs with hi hi'
  · rfl
  · exact absurd hi.2 hi'
  · exact absurd ⟨rfl, by assumption⟩ hi
  · rfl

lemma move_reports {c : PointerCall} (hl : t.leftClicked = true) (hc : c.touches = true) :
    Move.reports ⟨c, t.written c⟩ = decide ((t.i + 1) % 10 = 1) := by
  rw [Move.reports, move_axes hl hc]
  split_ifs with hi <;> simp [hi]

lemma moves_axes (t : Injection) (cs : List PointerCall) :
    ∀ m ∈ moves t cs, m.reports = true ∨ axes m.written = [] := by
  induction cs generalizing t with
  | nil =>
    intro m hm
    cases hm
  | cons c cs ih =>
    rw [moves]
    split_ifs with hmove
    · obtain ⟨hl, hc⟩ := Bool.and_eq_true_iff.mp hmove
      intro m hm
      rcases List.mem_cons.mp hm with rfl | hm
      · rw [move_reports hl hc]
        by_cases hi : (t.i + 1) % 10 = 1
        · exact Or.inl (decide_eq_true hi)
        · exact Or.inr ((move_axes hl hc).trans (if_neg hi))
      · exact ih _ m hm
    · exact ih _

lemma point_i (t : Injection) (c : PointerCall) :
    (t.point c).i = if t.leftClicked && c.touches then t.i + 1 else t.i := by
  have hleft : (t.point c).i = (t.left c.touches c.position.1 c.position.2).i := rfl
  rw [hleft, left]
  cases hl : t.leftClicked <;> cases hc : c.touches <;> simp
  split_ifs <;> rfl

lemma moves_reports (t : Injection) {a : ℕ} (ha : t.i = Int32.ofNat a) (cs : List PointerCall) :
    (moves t cs).map Move.reports = (List.range (moves t cs).length).map (fun k => reported (a + k + 1)) := by
  induction cs generalizing t a with
  | nil => rfl
  | cons c cs ih =>
    rw [moves]
    split_ifs with hmove
    · obtain ⟨hl, hc⟩ := Bool.and_eq_true_iff.mp hmove
      have hi : (t.point c).i = Int32.ofNat (a + 1) := by
        rw [point_i, if_pos hmove, ha, Int32.ofNat_add]
        rfl
      rw [List.map_cons, ih _ hi, move_reports hl hc, List.length_cons, List.range_succ_eq_map, List.map_cons,
        List.map_map, reported, ha, Int32.ofNat_add]
      congr 2
      funext k
      simp only [Function.comp_apply, Nat.succ_eq_add_one]
      congr 1
      omega
    · apply ih
      rw [point_i, if_neg hmove, ha]

lemma moves_length (t : Injection) (cs : List PointerCall) :
    (moves t cs).length = transitions true true t.leftClicked (cs.map PointerCall.touches) := by
  induction cs generalizing t with
  | nil => rfl
  | cons c cs ih =>
    rw [moves, List.map_cons, transitions, ← point_leftClicked t c, ← ih, point_leftClicked]
    cases t.leftClicked <;> cases c.touches <;> simp [Nat.add_comm]

end Injection

/-- The remainder has the sign of the counter, so that nothing is reported while it is negative. -/
lemma reported_iff (n : ℕ) : reported n = true ↔ n % 2 ^ 32 < 2 ^ 31 ∧ n % 2 ^ 32 % 10 = 1 := by
  have hten : (10 : Int32).toInt = 10 := rfl
  have hone : (1 : Int32).toInt = 1 := rfl
  have hsize : Int32.size = 2 ^ 32 := rfl
  rw [reported, decide_eq_true_eq, ← Int32.toInt_inj, Int32.toInt_mod, Int32.toInt_ofNat', hten, hone, hsize]
  by_cases hlow : n % 2 ^ 32 < 2 ^ 31
  · have hvalue : (n : ℤ).bmod (2 ^ 32) = (n % 2 ^ 32 : ℕ) := by
      rw [Int.bmod_def]
      omega
    rw [hvalue, Int.tmod_eq_emod_of_nonneg (Int.natCast_nonneg _), and_iff_right hlow]
    omega
  · have hvalue : (n : ℤ).bmod (2 ^ 32) = -(2 ^ 32 - n % 2 ^ 32 : ℕ) := by
      rw [Int.bmod_def]
      omega
    rw [hvalue, Int.neg_tmod]
    have hsign := Int.tmod_nonneg 10 (Int.natCast_nonneg (2 ^ 32 - n % 2 ^ 32))
    refine iff_of_false ?_ (fun h => hlow h.1)
    omega

lemma window_reported {a : ℕ} (ha : a + 10 ≤ 2 ^ 31 + 2) :
    (List.range 10).countP (fun j => reported (a + j + 1)) = 1 := by
  have hperiod : Function.Periodic (fun k => (k + 1) % 10 = 1) 10 := by
    intro k
    simp only [eq_iff_iff]
    omega
  have hfirst : Nat.count (fun k => (k + 1) % 10 = 1) 10 = 1 := by decide
  refine Eq.trans ?_ ((countP_periodic hperiod a).trans hfirst)
  apply List.countP_congr
  intro j hj
  have hj := List.mem_range.mp hj
  rw [reported_iff, decide_eq_true_eq, Nat.mod_eq_of_lt (by omega)]
  omega

lemma window_unreported : (List.range 10).countP (fun j => reported (2 ^ 31 - 7 + j + 1)) = 0 := by
  apply List.countP_eq_zero.mpr
  intro j hj
  have hj := List.mem_range.mp hj
  rw [reported_iff, Nat.mod_eq_of_lt (by omega)]
  omega

lemma everyWindow_reports (cs : List PointerCall) :
    EveryWindow 10 (fun window => window.countP Move.reports = 1) (Injection.moves .created cs) ↔
      (Injection.moves .created cs).length ≤ 2 ^ 31 + 2 := by
  have hreports := Injection.moves_reports .created (a := 0) rfl cs
  have hwindows : (fun window : List Move => window.countP Move.reports = 1) =
      fun window => (window.map Move.reports).countP id = 1 := by
    funext window
    rw [List.countP_map]
    rfl
  rw [hwindows, ← everyWindow_map Move.reports (fun reports => reports.countP id = 1), hreports, everyWindow_range]
  simp only [List.countP_map, Function.comp_def, Nat.zero_add, id]
  constructor
  · intro h
    by_contra hlong
    have hsilent := h (2 ^ 31 - 7) (by omega)
    rw [window_unreported] at hsilent
    cases hsilent
  · intro hshort a ha
    exact window_reported (by omega)

/-- One move in ten reports the position in every run whose moves do not get the counter beyond
its wrap by more than two. -/
theorem drags_reported_iff (cs : List PointerCall) :
    EveryWindow 10 (fun window => window.countP Move.reports = 1) (Injection.moves .created cs) ↔
      transitions true true false (cs.map PointerCall.touches) ≤ 2 ^ 31 + 2 := by
  rw [everyWindow_reports, Injection.moves_length]
  rfl

def heldLeft : PointerCall := ⟨0, portrait, 1, 10, 10⟩

def drag (n : ℕ) : List PointerCall := List.replicate (n + 1) heldLeft

lemma drag_transitions (was : Bool) (n : ℕ) :
    transitions true true was ((drag n).map PointerCall.touches) = n + if was then 1 else 0 := by
  have htouches : heldLeft.touches = true := rfl
  rw [drag]
  induction n generalizing was with
  | zero => cases was <;> rfl
  | succ n ih =>
    rw [List.replicate_succ, List.map_cons, transitions, htouches, ih]
    cases was with
    | false => simp
    | true =>
      simp
      omega

theorem long_drag_goes_silent : ¬ ∀ cs : List PointerCall,
    EveryWindow 10 (fun window => window.countP Move.reports = 1) (Injection.moves .created cs) := by
  intro h
  have hlong := (everyWindow_reports (drag (2 ^ 31 + 3))).mp (h _)
  rw [Injection.moves_length, drag_transitions] at hlong
  omega

theorem drags_reported_again (cs : List PointerCall) :
    ∃ later, ∃ m ∈ Injection.moves (run Injection.point .created cs) later, m.reports = true := by
  generalize run Injection.point .created cs = t
  obtain ⟨a, ha⟩ : ∃ a, t.i = Int32.ofNat a := ⟨t.i.toBitVec.toNat, by
    rw [← Int32.toBitVec_inj]
    simp⟩
  let k := 2 ^ 32 * (a + 1) - a
  refine ⟨drag (k + 1), ?_⟩
  have hlength : k < (t.moves (drag (k + 1))).length := by
    rw [Injection.moves_length, drag_transitions]
    omega
  have hreported : reported (a + k + 1) = true := by
    have hsum : a + k + 1 = 1 + 2 ^ 32 * (a + 1) := by omega
    rw [hsum, reported_iff, Nat.add_mul_mod_self_left]
    decide
  have hmem : reported (a + k + 1) ∈ (t.moves (drag (k + 1))).map Move.reports := by
    rw [t.moves_reports ha]
    exact List.mem_map_of_mem (List.mem_range.mpr hlength)
  obtain ⟨m, hm, hreports⟩ := List.mem_map.mp hmem
  exact ⟨m, hm, hreports.trans hreported⟩

end AndroidRemote.Input
