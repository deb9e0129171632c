import AndroidRemote.Rfb.ClientPicture
import AndroidRemote.Rfb.UpdateBuf
import Mathlib.Tactic

/-! Rectangle headers and the raw encoding: lines of pixels in as many pieces as fit the buffer
of either side. -/

namespace AndroidRemote.Rfb

open Library

variable {n : ℕ}

structure SentRect (α : Type) where
  x : ℕ
  y : ℕ
  w : ℕ
  h : ℕ
  data : Picture α

namespace SentRect

/-- `view` is the whole framebuffer after translation, by column and row. -/
def cut (view : Picture (Pixel n)) (x y w h : ℕ) : SentRect (Pixel n) :=
  ⟨x, y, w, h, fun i j => view (x + i) (y + j)⟩

def draw (r : SentRect (Pixel n)) (pic : Picture (Pixel n)) : Picture (Pixel n) := place r.x r.y r.w r.h r.data pic

lemma draw_cut (view : Picture (Pixel n)) (x y w h : ℕ) (pic : Picture (Pixel n)) :
    (cut view x y w h).draw pic =
      fun i j => if (x ≤ i ∧ i < x + w) ∧ y ≤ j ∧ j < y + h then view i j else pic i j := by
  funext i j
  refine if_ctx_congr Iff.rfl (fun hin => ?_) fun _ => rfl
  have hcell : x + (i - x) = i ∧ y + (j - y) = j := by omega
  simp only [cut, hcell.1, hcell.2]

lemma draw_below (view : Picture (Pixel n)) (x y w h k : ℕ) (pic : Picture (Pixel n)) :
    (cut view x (y + k) w h).draw ((cut view x y w k).draw pic) = (cut view x y w (k + h)).draw pic := by
  have hrow (j : ℕ) : y + k + j = y + (j + k) := by omega
  simp only [draw, cut, hrow]
  exact place_below

lemma draw_beside (view : Picture (Pixel n)) (x y w h k : ℕ) (pic : Picture (Pixel n)) :
    (cut view (x + k) y w h).draw ((cut view x y k h).draw pic) = (cut view x y (k + w) h).draw pic := by
  have hcolumn (i : ℕ) : x + k + i = x + (i + k) := by omega
  simp only [draw, cut, hcolumn]
  exact place_beside

end SentRect

structure RectHeader where
  x : ℕ
  y : ℕ
  w : ℕ
  h : ℕ
  encoding : ℕ
  deriving DecidableEq, Repr

namespace RectHeader

def Fits (r : RectHeader) : Prop :=
  (r.x < 2 ^ 16 ∧ r.y < 2 ^ 16) ∧ (r.w < 2 ^ 16 ∧ r.h < 2 ^ 16) ∧ r.encoding < 2 ^ 32

def put (r : RectHeader) : List UInt8 := putU16 r.x ++ (putU16 r.y ++ (putU16 r.w ++ (putU16 r.h ++ putU32 r.encoding)))

def read : Reader RectHeader := do
  let x ← readU16
  let y ← readU16
  let w ← readU16
  let h ← readU16
  let encoding ← readU32
  pure ⟨x, y, w, h, encoding⟩

@[simp] lemma length_put (r : RectHeader) : r.put.length = 12 := by
  simp [put]

lemma reads {r : RectHeader} (hr : r.Fits) : Reads read r.put r := by
  obtain ⟨⟨hx, hy⟩, ⟨hw, hh⟩, he⟩ := hr
  refine (Reads.u16 hx).bind ((Reads.u16 hy).bind ((Reads.u16 hw).bind ((Reads.u16 hh).bind ?_)))
  exact (Reads.u32 he).finish (RectHeader.mk r.x r.y r.w r.h)

end RectHeader

def rfbEncodingRaw : ℕ := 0

/-- The `while (TRUE)` of the sender, from row `y` of the rectangle on. -/
def sendRawLines (data : Picture (Pixel n)) (w y h nlines : ℕ) (cl : UpdateBuf) : Option UpdateBuf :=
  let lines := min nlines h
  match cl.put (pixelBytes (rowPixels (fun i j => data i (j + y)) w lines)) with
  | none => none
  | some cl' =>
    if _hrest : h - lines = 0 then some cl'
    else
      -- a buffer too small for one line closes the client
      if _hline : updateBufSize / (w * n) = 0 then none
      else sendRawLines data w (y + lines) (h - lines) (updateBufSize / (w * n)) (rfbSendUpdateBuf cl')
termination_by (h, if nlines = 0 then 1 else 0)
decreasing_by
  rcases Nat.eq_zero_or_pos nlines with rfl | hpos
  · simp only [Nat.zero_min, Nat.sub_zero, if_true]
    apply Prod.Lex.right
    simp [_hline]
  · apply Prod.Lex.left
    simp only [lines] at _hrest ⊢
    omega

def rfbSendRectEncodingRaw (r : SentRect (Pixel n)) (cl : UpdateBuf) : Option UpdateBuf :=
  let cl := if 0 < cl.ublen then rfbSendUpdateBuf cl else cl
  match cl.put (RectHeader.put ⟨r.x, r.y, r.w, r.h, rfbEncodingRaw⟩) with
  | none => none
  | some cl =>
    -- division by zero
    if r.w * n = 0 then none
    else sendRawLines r.data r.w 0 r.h ((updateBufSize - cl.ublen) / (r.w * n)) cl

lemma emits_sendRawLines {data : Picture (Pixel n)} {w y h nlines : ℕ} {cl : UpdateBuf}
    (hw : 0 < w * n) (hline : w * n ≤ updateBufSize) (hn : cl.ublen + nlines * (w * n) ≤ updateBufSize) :
    ∃ cl', sendRawLines data w y h nlines cl = some cl' ∧
      cl'.stream = cl.stream ++ pixelBytes (rowPixels (fun i j => data i (j + y)) w h) := by
  have hwpos : 0 < w := Nat.pos_of_mul_pos_right hw
  have hfit (nlines h : ℕ) (cl : UpdateBuf) (hn : cl.ublen + nlines * (w * n) ≤ updateBufSize) (y : ℕ) :
      cl.ublen + (pixelBytes (rowPixels (fun i j => data i (j + y)) w (min nlines h))).length ≤ updateBufSize := by
    have hle : w * min nlines h * n ≤ nlines * (w * n) := by
      calc w * min nlines h * n = min nlines h * (w * n) := by ring
        _ ≤ nlines * (w * n) := Nat.mul_le_mul_right _ (min_le_left _ _)
    rw [length_pixelBytes, length_rowPixels]
    omega
  induction y, h, nlines, cl using sendRawLines.induct data w with
  | case1 y h nlines cl lines hp =>
    obtain ⟨cl', hput, -⟩ := UpdateBuf.put_of_room (hfit nlines h cl hn y)
    simp [lines, hput] at hp
  | case2 y h nlines cl lines cl' hp hrest =>
    obtain ⟨cl₁, hput, hstream, -⟩ := UpdateBuf.put_of_room (hfit nlines h cl hn y)
    obtain rfl : cl₁ = cl' := Option.some.inj (hput.symm.trans hp)
    have hall : min nlines h = h := by omega
    refine ⟨cl₁, ?_, ?_⟩
    · rw [sendRawLines]
      simp only [hput]
      exact dif_pos hrest
    · rw [hstream, hall]
  | case3 y h nlines cl lines cl' hp hrest hzero =>
    exact absurd hzero (Nat.div_pos hline hw).ne'
  | case4 y h nlines cl lines cl' hp hrest hzero ih =>
    obtain ⟨cl₁, hput, hstream, -⟩ := UpdateBuf.put_of_room (hfit nlines h cl hn y)
    obtain rfl : cl₁ = cl' := Option.some.inj (hput.symm.trans hp)
    obtain ⟨cl₂, hsend, hrows⟩ := ih (by simpa using Nat.div_mul_le_self _ _)
    refine ⟨cl₂, ?_, ?_⟩
    · rw [sendRawLines]
      simp only [hput]
      rw [dif_neg hrest, dif_neg hzero]
      exact hsend
    · have hsplit := rowPixels_add (fun i j => data i (j + y)) hwpos (h - lines) lines
      have hlines : lines + (h - lines) = h := by omega
      have hshift (j : ℕ) : j + lines + y = j + (y + lines) := by omega
      simp only [hlines, hshift] at hsplit
      rw [hsplit, pixelBytes_append, hrows, UpdateBuf.stream_send, hstream, List.append_assoc]

lemma emits_raw {r : SentRect (Pixel n)} (hw : 0 < r.w * n) (hline : r.w * n ≤ updateBufSize) :
    Emits (rfbSendRectEncodingRaw r)
      (RectHeader.put ⟨r.x, r.y, r.w, r.h, rfbEncodingRaw⟩ ++ pixelBytes (rowPixels r.data r.w r.h)) := by
  intro cl
  obtain ⟨cl₁, hflush, hempty, hstream⟩ : ∃ cl₁,
      (if 0 < cl.ublen then rfbSendUpdateBuf cl else cl) = cl₁ ∧ cl₁.ublen = 0 ∧ cl₁.stream = cl.stream := by
    split
    · exact ⟨_, rfl, rfl, by simp⟩
    · exact ⟨_, rfl, by omega, rfl⟩
  have hroom : cl₁.ublen + (RectHeader.put ⟨r.x, r.y, r.w, r.h, rfbEncodingRaw⟩).length ≤ updateBufSize := by
    simp [hempty, updateBufSize]
  obtain ⟨cl₂, hput, hheader, hlen⟩ := UpdateBuf.put_of_room hroom
  have hspace : cl₂.ublen + (updateBufSize - cl₂.ublen) / (r.w * n) * (r.w * n) ≤ updateBufSize := by
    have hle := Nat.div_mul_le_self (updateBufSize - cl₂.ublen) (r.w * n)
    have hbound := cl₂.ublen_le
    omega
  obtain ⟨cl₃, hlines, hrows⟩ : ∃ cl₃,
      sendRawLines r.data r.w 0 r.h _ cl₂ = some cl₃ ∧ cl₃.stream = _ :=
    emits_sendRawLines hw hline hspace
  refine ⟨cl₃, ?_, ?_⟩
  · simp only [rfbSendRectEncodingRaw, hflush, hput, if_neg hw.ne', hlines]
  · simp only [hrows, hheader, hstream, Nat.add_zero, List.append_assoc]

def rfbBufferSize : ℕ := 640 * 480

def readRawLines (x w linesToRead y h : ℕ) (pic : Picture (Pixel n)) : Reader (Picture (Pixel n)) :=
  if h = 0 then pure pic
  else
    let lines := min linesToRead h
    -- a line longer than the buffer: the loop would never end
    if _hzero : lines = 0 then failure
    else do
      let buffer ← readPixels (w * lines)
      readRawLines x w linesToRead (y + lines) (h - lines) (copyRectangle buffer x y w lines pic)
termination_by h

def handleRaw (r : RectHeader) (pic : Picture (Pixel n)) : Reader (Picture (Pixel n)) :=
  -- division by zero
  if r.w * n = 0 then failure else readRawLines r.x r.w (rfbBufferSize / (r.w * n)) r.y r.h pic

lemma reads_rawLines {data : Picture (Pixel n)} {x w linesToRead y h : ℕ} {pic : Picture (Pixel n)} (hw : 0 < w)
    (hl : 0 < linesToRead) :
    Reads (readRawLines x w linesToRead y h pic) (pixelBytes (rowPixels data w h)) (place x y w h data pic) := by
  induction h using Nat.strong_induction_on generalizing y data pic with
  | _ h ih =>
    rcases Nat.eq_zero_or_pos h with rfl | hh
    · rw [readRawLines, if_pos rfl]
      have hnone : place x y w 0 data pic = pic := by
        funext i j
        exact if_neg (by omega)
      simpa [hnone, rowPixels, pixelBytes] using Reads.pure pic
    · have hlines : min linesToRead h + (h - min linesToRead h) = h := by omega
      have hsplit := rowPixels_add data hw (h - min linesToRead h) (min linesToRead h)
      have hpic : place x (y + min linesToRead h) w (h - min linesToRead h) _ (place x y w _ data pic) = _ :=
        place_below
      rw [hlines] at hsplit hpic
      rw [readRawLines, if_neg hh.ne', dif_neg (by omega), hsplit, pixelBytes_append, ← hpic]
      have hread := Reads.pixels (rowPixels data w (min linesToRead h))
      rw [length_rowPixels] at hread
      refine hread.bind ?_
      rw [copyRectangle_rowPixels]
      exact ih (h - min linesToRead h) (by omega)

lemma reads_raw {r : SentRect (Pixel n)} {pic : Picture (Pixel n)} (hw : 0 < r.w * n)
    (hline : r.w * n ≤ rfbBufferSize) :
    Reads (handleRaw ⟨r.x, r.y, r.w, r.h, rfbEncodingRaw⟩ pic)
    (pixelBytes (rowPixels r.data r.w r.h)) (r.draw pic) := by
  rw [handleRaw, if_neg hw.ne']
  exact reads_rawLines (Nat.pos_of_mul_pos_right hw) (Nat.div_pos hline hw)

end AndroidRemote.Rfb
