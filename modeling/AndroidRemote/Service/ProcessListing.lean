import AndroidRemote.Library.Search
import AndroidRemote.Service.Controller

/-! How `VncServerWrapper.isRunning` looks for the native server in what `ps` prints. -/

namespace AndroidRemote.Service

open AndroidRemote.Library

namespace VncServerWrapper

def androidvncserver : List Char := "androidvncserver".toList

def scan (result : List Char) : List (List Char) → Bool
  | [] => false
  | line :: lines =>
    let result := result ++ line
    if indexOf androidvncserver result > 0 then true else scan result lines

/-- An exception ends the listing where it comes; no listing is a `ps` that could not be run. -/
def isRunning (ps : Option (List (List Char))) : Bool :=
  match ps with
  | some lines => scan [] lines
  | none => false

def DetectsPerLine (lines : List (List Char)) : Prop :=
  isRunning (some lines) = true ↔ ∃ line ∈ lines, androidvncserver <:+: line

lemma scan_iff {result : List Char} (h : ¬ 0 < indexOf androidvncserver result) (lines : List (List Char)) :
    scan result lines = true ↔ 0 < indexOf androidvncserver (result ++ lines.flatten) := by
  induction lines generalizing result with
  | nil => simpa [scan] using h
  | cons line lines ih =>
    rw [List.flatten_cons, ← List.append_assoc, scan]
    by_cases hfound : 0 < indexOf androidvncserver (result ++ line)
    · simp only [gt_iff_lt, if_pos hfound, true_iff]
      exact indexOf_pos_append hfound lines.flatten
    · simp only [gt_iff_lt, if_neg hfound]
      exact ih hfound

/-- The lines are searched as one text, in which an occurrence at the very start does not count. -/
lemma isRunning_iff (lines : List (List Char)) : isRunning (some lines) = true ↔
    androidvncserver <:+: lines.flatten ∧ ¬ androidvncserver <+: lines.flatten := by
  have hstart : ¬ 0 < indexOf androidvncserver [] := by decide
  rw [isRunning, scan_iff hstart, List.nil_append, indexOf_pos_iff]

lemma flatten_of_line {lines : List (List Char)} (h : ∃ line ∈ lines, androidvncserver <:+: line) :
    androidvncserver <:+: lines.flatten := by
  obtain ⟨line, hmem, hline⟩ := h
  exact hline.trans (List.infix_of_mem_flatten hmem)

theorem detects_per_line_iff (lines : List (List Char)) : DetectsPerLine lines ↔
    ((∃ line ∈ lines, androidvncserver <:+: line) → ¬ androidvncserver <+: lines.flatten) ∧
      (androidvncserver <:+: lines.flatten → androidvncserver <+: lines.flatten ∨
        ∃ line ∈ lines, androidvncserver <:+: line) := by
  rw [DetectsPerLine, isRunning_iff]
  constructor
  · intro h
    refine ⟨fun hline => (h.mpr hline).2, ?_⟩
    intro hin
    by_cases hstart : androidvncserver <+: lines.flatten
    · exact Or.inl hstart
    · exact Or.inr (h.mp ⟨hin, hstart⟩)
  · rintro ⟨hstart, hcross⟩
    constructor
    · rintro ⟨hin, hnot⟩
      exact (hcross hin).resolve_left hnot
    · intro hline
      exact ⟨flatten_of_line hline, hstart hline⟩

theorem listing_is_searched_as_one :
    ¬ DetectsPerLine ["androidvncserver".toList] ∧
      ¬ DetectsPerLine ["PID android".toList, "vncserver".toList] := by
  rw [DetectsPerLine, DetectsPerLine]
  decide

def Padded (lines : List (List Char)) : Prop := ∀ line ∈ lines, ∀ c ∈ line.head?, c ∉ androidvncserver

lemma Padded.not_prefix {lines : List (List Char)} (h : Padded lines) : ¬ androidvncserver <+: lines.flatten := by
  rintro ⟨rest, hrest⟩
  have hfirst : 'a' ∈ lines.flatten.head? := by
    rw [← hrest]
    rfl
  obtain ⟨line, hmem, hhead⟩ := head?_flatten hfirst
  exact h line hmem 'a' hhead (by decide)

lemma padded_isRunning {lines : List (List Char)} (h : Padded lines) :
    isRunning (some lines) = true ↔ ∃ line ∈ lines, androidvncserver <:+: line := by
  rw [isRunning_iff, and_iff_left h.not_prefix, infix_flatten_iff (by decide) h]

theorem isRunning_vncSide {v : VncSide} {lines : List (List Char)} (h : Padded lines)
    (hlisted : (∃ line ∈ lines, androidvncserver <:+: line) ↔ ∃ p ∈ v.processes, p.visible = true) :
    isRunning (some lines) = v.isRunning := by
  rw [Bool.eq_iff_iff, padded_isRunning h, hlisted, VncSide.isRunning, List.any_eq_true]

end VncServerWrapper

end AndroidRemote.Service
