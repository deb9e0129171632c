import AndroidRemote.Rfb.RectRaw
import AndroidRemote.Rfb.Subrects
import Mathlib.Tactic

/-! Rise-and-run-length encoding and its compact form: a background and the rectangles that
overwrite it, or the raw rectangle where that would be no shorter. -/

namespace AndroidRemote.Rfb

open Library

variable {n : ℕ}

section background

variable {α : Type} [DecidableEq α]

structure Prevalence (α : Type) where
  counts : α → ℕ
  maxcount : ℕ
  maxclr : α

def Prevalence.add (s : Prevalence α) (k : α) : Prevalence α :=
  let counts := Function.update s.counts k (s.counts k + 1)
  if s.maxcount < counts k then ⟨counts, counts k, k⟩ else { s with counts := counts }

def mostPrevalent (black : α) (ps : List α) : α := (ps.foldl Prevalence.add ⟨fun _ => 0, 0, black⟩).maxclr

end background

/-- Only with one byte a pixel are the colours counted. -/
def getBgColour (data : Picture (Pixel n)) (w h : ℕ) : Pixel n :=
  if n = 1 then mostPrevalent blackPixel (rowPixels data w h) else data 0 0

/-- What tells the two encodings apart: the number on the wire, and how a subrectangle is written. -/
structure Rising where
  encoding : ℕ
  sizeofRectangle : ℕ
  putRectangle : ℕ → ℕ → ℕ → ℕ → List UInt8
  readRectangle : Reader (ℕ × ℕ × ℕ × ℕ)

namespace Rising

variable (k : Rising)

def putSubrect (s : Patch (Pixel n)) : List UInt8 := s.pix.1 ++ k.putRectangle s.x s.y s.w s.h

def encode (afterBufSize : ℕ) (r : SentRect (Pixel n)) : Option (Encoded (Pixel n)) :=
  let bg := getBgColour r.data r.w r.h
  subrectEncode k.putSubrect 0 (n + k.sizeofRectangle) (min (r.w * r.h * n) afterBufSize) r.w r.h bg r.data bg.1

def send (afterBufSize : ℕ) (r : SentRect (Pixel n)) (cl : UpdateBuf) : Option UpdateBuf :=
  match k.encode afterBufSize r with
  | none => rfbSendRectEncodingRaw r cl
  | some e => do
    let cl ← (cl.makeRoom (12 + 4)).put (RectHeader.put ⟨r.x, r.y, r.w, r.h, k.encoding⟩)
    let cl ← cl.put (putU32 e.numsubs)
    copyAfterBuf e.after cl

def drawSubrect (rx ry : ℕ) (pic : Picture (Pixel n)) : Reader (Picture (Pixel n)) := do
  let pix ← readPixel
  let (x, y, w, h) ← k.readRectangle
  pure (fillRectangle (rx + x) (ry + y) w h pix pic)

end Rising

def rfbEncodingRRE : ℕ := 2

def rfbEncodingCoRRE : ℕ := 4

def rre : Rising where
  encoding := rfbEncodingRRE
  sizeofRectangle := 8
  putRectangle x y w h := putU16 x ++ (putU16 y ++ (putU16 w ++ putU16 h))
  readRectangle := do
    let x ← readU16
    let y ← readU16
    let w ← readU16
    let h ← readU16
    pure (x, y, w, h)

def corre : Rising where
  encoding := rfbEncodingCoRRE
  sizeofRectangle := 4
  putRectangle x y w h := putU8 x ++ (putU8 y ++ (putU8 w ++ putU8 h))
  readRectangle := do
    let x ← readU8
    let y ← readU8
    let w ← readU8
    let h ← readU8
    pure (x, y, w, h)

def rfbSendRectEncodingRRE (afterBufSize : ℕ) (r : SentRect (Pixel n)) (cl : UpdateBuf) : Option UpdateBuf :=
  rre.send afterBufSize r cl

def rfbSendSmallRectEncodingCoRRE (afterBufSize : ℕ) (r : SentRect (Pixel n)) (cl : UpdateBuf) : Option UpdateBuf :=
  corre.send afterBufSize r cl

def correMaxWidth : ℕ := 48

def correMaxHeight : ℕ := 48

def rfbSendRectEncodingCoRRE (afterBufSize : ℕ) (view : Picture (Pixel n)) (x y w h : ℕ) (cl : UpdateBuf) :
    Option UpdateBuf :=
  if correMaxHeight < h then do
    let cl ← rfbSendRectEncodingCoRRE afterBufSize view x y w correMaxHeight cl
    rfbSendRectEncodingCoRRE afterBufSize view x (y + correMaxHeight) w (h - correMaxHeight) cl
  else if correMaxWidth < w then do
    let cl ← rfbSendRectEncodingCoRRE afterBufSize view x y correMaxWidth h cl
    rfbSendRectEncodingCoRRE afterBufSize view (x + correMaxWidth) y (w - correMaxWidth) h cl
  else rfbSendSmallRectEncodingCoRRE afterBufSize (.cut view x y w h) cl
termination_by w + h
decreasing_by all_goals simp_all only [correMaxWidth, correMaxHeight]; omega

def handleRRE (r : RectHeader) (pic : Picture (Pixel n)) : Reader (Picture (Pixel n)) := do
  let nSubrects ← readU32
  let pix ← readPixel
  times (rre.drawSubrect r.x r.y) nSubrects (fillRectangle r.x r.y r.w r.h pix pic)

def handleCoRRE (r : RectHeader) (pic : Picture (Pixel n)) : Reader (Picture (Pixel n)) := do
  let nSubrects ← readU32
  let pix ← readPixel
  -- the subrectangles are first read as a whole, without a check, into the client's buffer
  if rfbBufferSize < nSubrects * (4 + n) then failure
  else times (corre.drawSubrect r.x r.y) nSubrects (fillRectangle r.x r.y r.w r.h pix pic)

namespace Rising

variable {k : Rising}

structure Lawful (k : Rising) (w h : ℕ) : Prop where
  length_put : ∀ sx sy sw sh, (k.putRectangle sx sy sw sh).length = k.sizeofRectangle
  reads : ∀ sx sy sw sh, sx + sw ≤ w → sy + sh ≤ h → 0 < sw → 0 < sh →
    Reads k.readRectangle (k.putRectangle sx sy sw sh) (sx, sy, sw, sh)

lemma lawful_rre {w h : ℕ} (hw : w < 2 ^ 16) (hh : h < 2 ^ 16) : rre.Lawful w h where
  length_put sx sy sw sh := rfl
  reads sx sy sw sh hx hy _ _ := by
    refine (Reads.u16 (by omega)).bind ((Reads.u16 (by omega)).bind ((Reads.u16 (by omega)).bind ?_))
    exact (Reads.u16 (by omega)).finish fun h => (sx, sy, sw, h)

lemma lawful_corre {w h : ℕ} (hw : w < 2 ^ 8) (hh : h < 2 ^ 8) : corre.Lawful w h where
  length_put sx sy sw sh := rfl
  reads sx sy sw sh hx hy _ _ := by
    refine (Reads.u8 (by omega)).bind ((Reads.u8 (by omega)).bind ((Reads.u8 (by omega)).bind ?_))
    exact (Reads.u8 (by omega)).finish fun h => (sx, sy, sw, h)

variable {r : SentRect (Pixel n)} {afterBufSize : ℕ} {e : Encoded (Pixel n)}

structure Drawn (k : Rising) (r : SentRect (Pixel n)) (e : Encoded (Pixel n)) (bg : Pixel n)
    (subs : List (Patch (Pixel n))) : Prop where
  after_eq : e.after = bg.1 ++ subs.flatMap k.putSubrect
  numsubs_eq : e.numsubs = subs.length
  numsubs_le : subs.length ≤ r.w * r.h
  size_le : subs ≠ [] → n + subs.length * (n + k.sizeofRectangle) ≤ r.w * r.h * n
  within : ∀ s ∈ subs, s.Within r.w r.h ∧ 0 < s.w ∧ 0 < s.h
  painted : ∀ i < r.w, ∀ j < r.h, r.data i j = paint subs (fun _ _ => bg) i j

lemma drawn_encode (hk : k.Lawful r.w r.h) (he : k.encode afterBufSize r = some e) :
    ∃ bg subs, k.Drawn r e bg subs := by
  have hput (s : Patch (Pixel n)) : (k.putSubrect s).length = n + k.sizeofRectangle := by
    rw [putSubrect, List.length_append, s.pix.2, hk.length_put]
  obtain ⟨subs, hp⟩ := subrectEncode_progress hput he
  refine ⟨_, subs, hp.after_eq, hp.numsubs_eq, ?_, ?_, hp.within, hp.painted⟩
  · exact hp.few.trans ((List.length_filter_le _ _).trans (length_scan _ _).le)
  · intro hne
    have hsmall := hp.small hne
    rw [hp.after_eq, List.length_append, List.length_flatMap, (getBgColour r.data r.w r.h).2] at hsmall
    simp only [hput, List.map_const', List.sum_replicate, smul_eq_mul] at hsmall
    omega

lemma Drawn.length_le {bg : Pixel n} {subs : List (Patch (Pixel n))} (hd : k.Drawn r e bg subs) (hk : k.Lawful r.w r.h)
    (hpos : 0 < r.w * r.h) : e.after.length ≤ r.w * r.h * n := by
  have hput (s : Patch (Pixel n)) : (k.putSubrect s).length = n + k.sizeofRectangle := by
    rw [putSubrect, List.length_append, s.pix.2, hk.length_put]
  rw [hd.after_eq, List.length_append, bg.2]
  rcases eq_or_ne subs [] with rfl | hne
  · exact Nat.le_mul_of_pos_left n hpos
  · have hsize := hd.size_le hne
    simpa only [List.length_flatMap, hput, List.map_const', List.sum_replicate, smul_eq_mul] using hsize

lemma Drawn.reads {bg : Pixel n} {subs : List (Patch (Pixel n))} (hd : k.Drawn r e bg subs) (hk : k.Lawful r.w r.h)
    (pic : Picture (Pixel n)) :
    Reads (times (k.drawSubrect r.x r.y) subs.length (fillRectangle r.x r.y r.w r.h bg pic))
      (subs.flatMap k.putSubrect) (r.draw pic) := by
  have hdraw : r.draw pic =
      subs.foldl (fun pic s => fill (s.shift r.x r.y) pic) (fillRectangle r.x r.y r.w r.h bg pic) := by
    rw [SentRect.draw, ← paint_background (fun s hs => (hd.within s hs).1) hd.painted, paint, List.foldl_map]
    rfl
  rw [hdraw]
  refine Reads.times fun s hs pic => ?_
  obtain ⟨⟨hx, hy⟩, hw, hh⟩ := hd.within s hs
  exact (Reads.pixel s.pix).bind ((hk.reads _ _ _ _ hx hy hw hh).finish _)

lemma emits_send (he : k.encode afterBufSize r = some e) :
    Emits (k.send afterBufSize r)
      (RectHeader.put ⟨r.x, r.y, r.w, r.h, k.encoding⟩ ++ putU32 e.numsubs ++ e.after) := by
  have hheaders : Emits _ (RectHeader.put ⟨r.x, r.y, r.w, r.h, k.encoding⟩ ++ putU32 e.numsubs) :=
    Emits.put_room_two (show 12 + 4 ≤ updateBufSize by decide) (by simp)
  intro cl
  obtain ⟨cl', hsend, hstream⟩ := (hheaders.bind (Emits.copyAfterBuf e.after)) cl
  refine ⟨cl', ?_, hstream⟩
  simp only [send, he, ← hsend, bind_assoc]

lemma send_raw (he : k.encode afterBufSize r = none) : k.send afterBufSize r = rfbSendRectEncodingRaw r := by
  funext cl
  rw [send, he]

end Rising

section handlers

variable {r : SentRect (Pixel n)} {e : Encoded (Pixel n)} {bg : Pixel n} {subs : List (Patch (Pixel n))}

lemma reads_rre (hd : rre.Drawn r e bg subs) (hw : r.w < 2 ^ 16) (hh : r.h < 2 ^ 16) (pic : Picture (Pixel n)) :
    Reads (handleRRE ⟨r.x, r.y, r.w, r.h, rfbEncodingRRE⟩ pic) (putU32 e.numsubs ++ e.after) (r.draw pic) := by
  have hcount : subs.length < 2 ^ 32 := by
    calc subs.length ≤ r.w * r.h := hd.numsubs_le
      _ < 2 ^ 16 * 2 ^ 16 := Nat.mul_lt_mul'' hw hh
  rw [hd.numsubs_eq, hd.after_eq]
  exact (Reads.u32 hcount).bind ((Reads.pixel bg).bind (hd.reads (Rising.lawful_rre hw hh) pic))

lemma reads_corre (hd : corre.Drawn r e bg subs) (hw : r.w < 2 ^ 8) (hh : r.h < 2 ^ 8)
    (hsize : r.w * r.h * n ≤ rfbBufferSize) (pic : Picture (Pixel n)) :
    Reads (handleCoRRE ⟨r.x, r.y, r.w, r.h, rfbEncodingCoRRE⟩ pic) (putU32 e.numsubs ++ e.after) (r.draw pic) := by
  have hcount : subs.length < 2 ^ 32 := by
    calc subs.length ≤ r.w * r.h := hd.numsubs_le
      _ < 2 ^ 8 * 2 ^ 8 := Nat.mul_lt_mul'' hw hh
      _ < 2 ^ 32 := by norm_num
  have hfits : ¬ rfbBufferSize < subs.length * (4 + n) := by
    rcases eq_or_ne subs [] with rfl | hne
    · simp
    · have hle : n + subs.length * (n + 4) ≤ r.w * r.h * n := hd.size_le hne
      rw [Nat.add_comm 4 n]
      omega
  rw [hd.numsubs_eq, hd.after_eq]
  refine (Reads.u32 hcount).bind ((Reads.pixel bg).bind ?_)
  rw [if_neg hfits]
  exact hd.reads (Rising.lawful_corre hw hh) pic

end handlers

end AndroidRemote.Rfb
