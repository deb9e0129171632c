import AndroidRemote.Service.LocalSocketServer

/-! The allocations that `clientGone`, `clientHook` and `CutText` write their notifications to. -/

namespace AndroidRemote.Native

open AndroidRemote.Service

def strlen (b : List UInt8) : ℕ := (cString b).length

/-- `content` is what lies from the pointer on, up to the first NUL at least. -/
structure Allocation where
  size : ℕ
  content : List UInt8
  written : List ℤ
  deriving DecidableEq, Repr

namespace Allocation

def malloc (size : ℕ) : Allocation := ⟨size, [], []⟩

variable (a : Allocation)

def terminate (i : ℤ) : Allocation where
  size := a.size
  content := if 0 ≤ i then a.content.take i.toNat ++ [0] else a.content
  written := a.written ++ [i]

def strcat (src : List UInt8) : Allocation where
  size := a.size
  content := Service.strcat a.content src
  written := a.written ++ (List.range (strlen src + 1)).map (fun k => ((strlen a.content + k : ℕ) : ℤ))

def Fits : Prop := ∀ i ∈ a.written, 0 ≤ i ∧ i < a.size

instance : Decidable a.Fits := inferInstanceAs (Decidable (∀ i ∈ a.written, _))

structure Composed : Prop where
  terminated : (strlen a.content : ℤ) ∈ a.written
  bounded : ∀ i ∈ a.written, 0 ≤ i ∧ i ≤ strlen a.content

variable {a}

lemma strlen_strcat (src : List UInt8) : strlen (a.strcat src).content = strlen a.content + strlen src := by
  have h : cString (a.strcat src).content = cString a.content ++ cString src := cString_strcat a.content src
  rw [strlen, h, List.length_append, strlen, strlen]

lemma Composed.strcat (h : a.Composed) (src : List UInt8) : (a.strcat src).Composed := by
  refine ⟨?_, ?_⟩
  · rw [strlen_strcat]
    apply List.mem_append_right
    exact List.mem_map.mpr ⟨strlen src, by simp, rfl⟩
  · intro i hi
    rw [strlen_strcat]
    rcases List.mem_append.mp hi with hi | hi
    · have := h.bounded i hi
      omega
    · obtain ⟨k, hk, rfl⟩ := List.mem_map.mp hi
      have := List.mem_range.mp hk
      omega

lemma Composed.not_fits (h : a.Composed) (hs : a.size = strlen a.content) : ¬ a.Fits := by
  intro hf
  have hlast := (hf _ h.terminated).2
  omega

end Allocation

/-- `malloc`, `msg[0] = '\0'` and one `strcat` for each text. -/
def compose (size : ℕ) (texts : List (List UInt8)) : Allocation :=
  texts.foldl Allocation.strcat ((Allocation.malloc size).terminate 0)

lemma foldl_strcat {a : Allocation} (h : a.Composed) (texts : List (List UInt8)) :
    (texts.foldl Allocation.strcat a).Composed ∧ (texts.foldl Allocation.strcat a).size = a.size ∧
      strlen (texts.foldl Allocation.strcat a).content = strlen a.content + (texts.map strlen).sum := by
  induction texts generalizing a with
  | nil => exact ⟨h, rfl, rfl⟩
  | cons text texts ih =>
    obtain ⟨hcomposed, hsize, hlen⟩ := ih (h.strcat text)
    refine ⟨hcomposed, hsize, ?_⟩
    rw [List.foldl_cons, hlen, Allocation.strlen_strcat, List.map_cons, List.sum_cons, Nat.add_assoc]

lemma compose_composed (size : ℕ) (texts : List (List UInt8)) : (compose size texts).Composed ∧
    (compose size texts).size = size ∧ strlen (compose size texts).content = (texts.map strlen).sum := by
  have hstart : ((Allocation.malloc size).terminate 0).Composed :=
    ⟨List.mem_singleton.mpr rfl, by simp [Allocation.terminate, Allocation.malloc, strlen, cString]⟩
  obtain ⟨hcomposed, hsize, hlen⟩ := foldl_strcat hstart texts
  exact ⟨hcomposed, hsize, hlen.trans (Nat.zero_add _)⟩

structure ClipText where
  text : List UInt8
  behind : List UInt8
  card32 : text.length < 2 ^ 32
  deriving DecidableEq, Repr

inductive Composer
  | clientGone
  | clientHook (host : List UInt8)
  | cutText (str : ClipText)
  deriving DecidableEq, Repr

namespace ClipText

def received (s : ClipText) : Allocation := ⟨s.text.length, s.text ++ s.behind, []⟩

def len (s : ClipText) : ℤ :=
  if s.text.length < 2 ^ 31 then s.text.length else (s.text.length : ℤ) - 2 ^ 32

def terminated (s : ClipText) : Allocation := s.received.terminate s.len

end ClipText

namespace Composer

def clientGoneMsg : Allocation :=
  let header := ascii "~DISCONNECTED|"
  compose (strlen header) [header]

def clientHookMsg (host : List UInt8) : Allocation :=
  let header := ascii "~CONNECTED|"
  compose (strlen host + strlen header) [header, host]

def cutTextMsg (str : List UInt8) : Allocation :=
  let header := ascii "~CLIP|"
  compose (strlen str + strlen header) [header, str]

def msg : Composer → Allocation
  | .clientGone => clientGoneMsg
  | .clientHook host => clientHookMsg host
  | .cutText str => cutTextMsg str.terminated.content

def allocations (c : Composer) : List Allocation :=
  match c with
  | .cutText str => [str.terminated, c.msg]
  | _ => [c.msg]

lemma msg_compose (c : Composer) : ∃ texts : List (List UInt8), c.msg = compose (texts.map strlen).sum texts := by
  have htwo : ∀ header text : List UInt8, compose (strlen text + strlen header) [header, text] =
      compose ([header, text].map strlen).sum [header, text] := by
    intro header text
    simp [Nat.add_comm]
  cases c with
  | clientGone => exact ⟨[ascii "~DISCONNECTED|"], by simp [msg, clientGoneMsg]⟩
  | clientHook host =>
    refine ⟨[ascii "~CONNECTED|", host], ?_⟩
    rw [← htwo, msg, clientHookMsg]
  | cutText str =>
    refine ⟨[ascii "~CLIP|", str.terminated.content], ?_⟩
    rw [← htwo, msg, cutTextMsg]

lemma msg_composed (c : Composer) : c.msg.Composed ∧ c.msg.size = strlen c.msg.content := by
  obtain ⟨texts, hc⟩ := c.msg_compose
  obtain ⟨hcomposed, hsize, hlen⟩ := compose_composed (texts.map strlen).sum texts
  rw [hc]
  exact ⟨hcomposed, hsize.trans hlen.symm⟩

theorem msg_content (host text behind : List UInt8) (ht : text.length < 2 ^ 31)
    (hc : text.length < 2 ^ 32) :
    clientGoneMsg.content = Service.clientGone ∧ (clientHookMsg host).content = Service.clientHook host ∧
      (msg (.cutText ⟨text, behind, hc⟩)).content = Service.cutText text text.length := by
  refine ⟨rfl, rfl, ?_⟩
  rw [msg, ClipText.terminated, ClipText.len, if_pos ht]
  simp [ClipText.received, Allocation.terminate, cutTextMsg, compose, Allocation.strcat, Service.cutText,
    Allocation.malloc]

end Composer

lemma terminated_not_fits (s : ClipText) : ¬ s.terminated.Fits := by
  intro h
  have hlt := s.card32
  have hindex := h s.len (List.mem_append_right _ (List.mem_singleton_self _))
  have hsize : s.terminated.size = s.text.length := rfl
  rw [hsize, ClipText.len] at hindex
  split_ifs at hindex <;> omega

theorem messages_one_byte_short (c : Composer) : ∀ i ∈ c.msg.written, 0 ≤ i ∧ i ≤ c.msg.size := by
  obtain ⟨hcomposed, hsize⟩ := c.msg_composed
  rw [hsize]
  exact hcomposed.bounded

theorem notifications_never_fit (c : Composer) : ∀ a ∈ c.allocations, ¬ a.Fits := by
  have hmsg : ¬ c.msg.Fits := c.msg_composed.1.not_fits c.msg_composed.2
  intro a ha
  cases c with
  | clientGone => exact List.mem_singleton.mp ha ▸ hmsg
  | clientHook host => exact List.mem_singleton.mp ha ▸ hmsg
  | cutText str =>
    rcases List.mem_cons.mp ha with rfl | ha
    · exact terminated_not_fits str
    · exact List.mem_singleton.mp ha ▸ hmsg

theorem short_clip_does_not_fit : ¬ (ClipText.terminated ⟨ascii "hi", [], by decide⟩).Fits :=
  notifications_never_fit (.cutText ⟨ascii "hi", [], by decide⟩) _ (by simp [Composer.allocations])

theorem gone_message_does_not_fit : ¬ ∀ c : Composer, ∀ a ∈ c.allocations, a.Fits := by
  intro h
  have hgone := h .clientGone Composer.clientGoneMsg (by simp [Composer.allocations, Composer.msg])
  revert hgone
  decide

end AndroidRemote.Native
