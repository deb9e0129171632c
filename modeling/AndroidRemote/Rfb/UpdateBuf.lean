import AndroidRemote.Library.Wire
import Mathlib.Data.List.Basic
import Mathlib.Tactic

/-! The update buffer of a client and the bytes written to its socket. -/

namespace AndroidRemote.Rfb

open Library

def updateBufSize : ℕ := 30000

structure UpdateBuf where
  sent : List UInt8
  updateBuf : List UInt8
  fits : updateBuf.length ≤ updateBufSize

namespace UpdateBuf

def ublen (cl : UpdateBuf) : ℕ := cl.updateBuf.length

def stream (cl : UpdateBuf) : List UInt8 := cl.sent ++ cl.updateBuf

end UpdateBuf

/-- A socket that takes every byte: the failing write, which closes the client, has no successor. -/
def rfbSendUpdateBuf (cl : UpdateBuf) : UpdateBuf := ⟨cl.sent ++ cl.updateBuf, [], Nat.zero_le _⟩

namespace UpdateBuf

-- `none` where the C function would write past the array
def put (bs : List UInt8) (cl : UpdateBuf) : Option UpdateBuf :=
  if h : (cl.updateBuf ++ bs).length ≤ updateBufSize then some ⟨cl.sent, cl.updateBuf ++ bs, h⟩ else none

def makeRoom (k : ℕ) (cl : UpdateBuf) : UpdateBuf :=
  if updateBufSize < cl.ublen + k then rfbSendUpdateBuf cl else cl

variable {cl : UpdateBuf} {bs : List UInt8} {k : ℕ}

lemma ublen_le (cl : UpdateBuf) : cl.ublen ≤ updateBufSize := cl.fits

@[simp] lemma stream_send (cl : UpdateBuf) : (rfbSendUpdateBuf cl).stream = cl.stream := by
  simp [rfbSendUpdateBuf, stream]

@[simp] lemma ublen_send (cl : UpdateBuf) : (rfbSendUpdateBuf cl).ublen = 0 := rfl

@[simp] lemma stream_makeRoom (k : ℕ) (cl : UpdateBuf) : (makeRoom k cl).stream = cl.stream := by
  unfold makeRoom
  split <;> simp

lemma ublen_makeRoom (cl : UpdateBuf) (hk : k ≤ updateBufSize) : (makeRoom k cl).ublen + k ≤ updateBufSize := by
  unfold makeRoom
  split
  · simpa using hk
  · omega

lemma put_of_room (h : cl.ublen + bs.length ≤ updateBufSize) :
    ∃ cl', cl.put bs = some cl' ∧ cl'.stream = cl.stream ++ bs ∧ cl'.ublen = cl.ublen + bs.length := by
  have hfit : (cl.updateBuf ++ bs).length ≤ updateBufSize := by simpa [ublen] using h
  exact ⟨⟨cl.sent, cl.updateBuf ++ bs, hfit⟩, by simp only [put, hfit, dif_pos], by simp [stream],
    by simp [ublen]⟩

end UpdateBuf

namespace UpdateBuf

lemma ublen_of_put {cl cl' : UpdateBuf} {bs : List UInt8} (h : cl.put bs = some cl') :
    cl'.ublen = cl.ublen + bs.length := by
  simp only [put] at h
  split at h
  · obtain rfl := Option.some.inj h
    simp [ublen]
  · simp at h

def room (cl : UpdateBuf) (bs : List UInt8) : ℕ := min (updateBufSize - cl.ublen) bs.length

lemma ublen_add_room (cl : UpdateBuf) (bs : List UInt8) :
    cl.ublen + (bs.take (cl.room bs)).length ≤ updateBufSize := by
  have hle := cl.ublen_le
  simp only [room, List.length_take]
  omega

def flushFull (cl : UpdateBuf) : UpdateBuf := if cl.ublen = updateBufSize then rfbSendUpdateBuf cl else cl

lemma stream_flushFull (cl : UpdateBuf) : cl.flushFull.stream = cl.stream := by
  unfold flushFull
  split <;> simp

end UpdateBuf

def Emits (send : UpdateBuf → Option UpdateBuf) (bs : List UInt8) : Prop :=
  ∀ cl, ∃ cl', send cl = some cl' ∧ cl'.stream = cl.stream ++ bs

namespace Emits

variable {send send' : UpdateBuf → Option UpdateBuf} {bs cs : List UInt8}

lemma bind (h : Emits send bs) (h' : Emits send' cs) : Emits (fun cl => send cl >>= send') (bs ++ cs) := by
  intro cl
  obtain ⟨cl₁, hsend, hstream⟩ := h cl
  obtain ⟨cl₂, hsend', hstream'⟩ := h' cl₁
  exact ⟨cl₂, by simp [hsend, hsend'], by rw [hstream', hstream, List.append_assoc]⟩

lemma stay : Emits some [] := fun cl => ⟨cl, rfl, by simp⟩

lemma put_room {k : ℕ} (hk : k ≤ updateBufSize) (hb : bs.length ≤ k) :
    Emits (fun cl => (cl.makeRoom k).put bs) bs := by
  intro cl
  have hroom : (cl.makeRoom k).ublen + bs.length ≤ updateBufSize := by
    have hmade := UpdateBuf.ublen_makeRoom cl hk
    omega
  obtain ⟨cl', hput, hstream, -⟩ := UpdateBuf.put_of_room hroom
  exact ⟨cl', hput, by rw [hstream, UpdateBuf.stream_makeRoom]⟩

lemma put_room_two {k : ℕ} (hk : k ≤ updateBufSize) (hb : bs.length + cs.length ≤ k) :
    Emits (fun cl => (cl.makeRoom k).put bs >>= fun cl => cl.put cs) (bs ++ cs) := by
  intro cl
  have hroom := UpdateBuf.ublen_makeRoom cl hk
  have hfirst : (cl.makeRoom k).ublen + bs.length ≤ updateBufSize := by omega
  obtain ⟨cl₁, hput, hstream, hlen⟩ := UpdateBuf.put_of_room hfirst
  have hsecond : cl₁.ublen + cs.length ≤ updateBufSize := by omega
  obtain ⟨cl₂, hput', hstream', -⟩ := UpdateBuf.put_of_room hsecond
  refine ⟨cl₂, by simp [hput, hput'], ?_⟩
  rw [hstream', hstream, UpdateBuf.stream_makeRoom, List.append_assoc]

end Emits

/-- The loop that moves an encoder's own buffer into the update buffer, piece by piece. A full
buffer takes nothing and is flushed. -/
def copyAfterBuf (after : List UInt8) (cl : UpdateBuf) : Option UpdateBuf :=
  if _ha : after = [] then some cl
  else
    match _hp : cl.put (after.take (cl.room after)) with
    | none => none
    | some cl' => copyAfterBuf (after.drop (cl.room after)) cl'.flushFull
termination_by (after.length, cl.ublen)
decreasing_by
  have hlen := UpdateBuf.ublen_of_put _hp
  have hpos := List.length_pos_of_ne_nil _ha
  simp only [List.length_take, UpdateBuf.room] at hlen
  rcases Nat.lt_or_ge cl.ublen updateBufSize with hlt | hge
  · apply Prod.Lex.left
    simp only [List.length_drop, UpdateBuf.room]
    omega
  · have hfull : cl.ublen = updateBufSize := le_antisymm cl.ublen_le hge
    have hroom : cl.room after = 0 := by simp [UpdateBuf.room, hfull]
    rw [hroom, List.drop_zero]
    apply Prod.Lex.right
    rw [UpdateBuf.flushFull, if_pos (by omega), UpdateBuf.ublen_send, hfull]
    decide

namespace Emits

lemma copyAfterBuf (after : List UInt8) : Emits (copyAfterBuf after) after := by
  intro cl
  induction after, cl using Rfb.copyAfterBuf.induct with
  | case1 cl => exact ⟨cl, by simp [Rfb.copyAfterBuf], by simp⟩
  | case2 after cl ha hp =>
    obtain ⟨cl', hput, -⟩ := UpdateBuf.put_of_room (UpdateBuf.ublen_add_room cl after)
    simp [hp] at hput
  | case3 after cl ha cl' hp ih =>
    obtain ⟨cl₁, hput, hstream, -⟩ := UpdateBuf.put_of_room (UpdateBuf.ublen_add_room cl after)
    obtain rfl : cl' = cl₁ := Option.some.inj (hp.symm.trans hput)
    obtain ⟨cl₂, hcopy, hrest⟩ := ih
    refine ⟨cl₂, ?_, ?_⟩
    · rw [Rfb.copyAfterBuf, dif_neg ha]
      split
      · simp_all
      · simp_all
    · rw [hrest, UpdateBuf.stream_flushFull, hstream, List.append_assoc, List.take_append_drop]

end Emits

end AndroidRemote.Rfb
