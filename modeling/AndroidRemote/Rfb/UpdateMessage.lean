import AndroidRemote.Rfb.CopyRect
import Mathlib.Tactic

/-! A framebuffer update as a message: how many rectangles it announces, how each is sent, and
what a client makes of it. -/

namespace AndroidRemote.Rfb

open Library

variable {n : ℕ}

inductive PixelEncoding
  | raw
  | rre
  | corre
  | hextile
  deriving DecidableEq, Repr

def PixelEncoding.count (enc : PixelEncoding) (r : WireRect) : ℕ :=
  match enc with
  | .corre => ((r.w - 1) / correMaxWidth + 1) * ((r.h - 1) / correMaxHeight + 1)
  | _ => 1

def sendRect (enc : PixelEncoding) (afterBufSize : ℕ) (view : Picture (Pixel n)) (r : WireRect) (cl : UpdateBuf) :
    Option UpdateBuf :=
  match enc with
  | .raw => rfbSendRectEncodingRaw (.cut view r.x r.y r.w r.h) cl
  | .rre => rfbSendRectEncodingRRE afterBufSize (.cut view r.x r.y r.w r.h) cl
  | .corre => rfbSendRectEncodingCoRRE afterBufSize view r.x r.y r.w r.h cl
  | .hextile => rfbSendRectEncodingHextile view r.x r.y r.w r.h cl

def rfbEncodingCopyRect : ℕ := 1

-- here the C code does not look for room first
def sendCopyRect (dx dy : ℤ) (cl : UpdateBuf) (r : WireRect) : Option UpdateBuf := do
  let cl ← cl.put (RectHeader.put ⟨r.x, r.y, r.w, r.h, rfbEncodingCopyRect⟩)
  cl.put (putU16 (r.x - dx).toNat ++ putU16 (r.y - dy).toNat)

def rfbFramebufferUpdate : ℕ := 0

/-- The byte `pad` is whatever the buffer held there. -/
def updateHeader (pad : UInt8) (nRects : ℕ) : List UInt8 := putU8 rfbFramebufferUpdate ++ ([pad] ++ putU16 nRects)

@[simp] lemma length_updateHeader (pad : UInt8) (nRects : ℕ) : (updateHeader pad nRects).length = 4 := rfl

structure RectUpdate (n : ℕ) where
  encoding : PixelEncoding
  afterBufSize : ℕ
  view : Picture (Pixel n)
  dx : ℤ
  dy : ℤ
  copies : List WireRect
  rects : List WireRect

namespace RectUpdate

variable (u : RectUpdate n)

def nRects : ℕ := u.copies.length + (u.rects.map u.encoding.count).sum

def sendUpdate (pad : UInt8) (cl : UpdateBuf) : Option UpdateBuf := do
  -- the header is written over what the buffer held
  let cl : UpdateBuf := ⟨cl.sent, updateHeader pad u.nRects, by rw [length_updateHeader]; decide⟩
  let cl ← u.copies.foldlM (sendCopyRect u.dx u.dy) cl
  let cl ← u.rects.foldlM (fun cl r => sendRect u.encoding u.afterBufSize u.view r cl) cl
  pure (rfbSendUpdateBuf cl)

end RectUpdate

/-- The client's screen, and what its variables hold when a hextile rectangle begins. -/
structure RfbViewer (n : ℕ) where
  width : ℕ
  height : ℕ
  junk : RectHeader → Pixel n × Pixel n

namespace RfbViewer

variable (v : RfbViewer n)

def handleCopyRect (r : RectHeader) (pic : Picture (Pixel n)) : Reader (Picture (Pixel n)) := do
  let srcX ← readU16
  let srcY ← readU16
  pure (copyRectangleFromRectangle srcX srcY r.w r.h r.x r.y pic)

def dispatch (r : RectHeader) (pic : Picture (Pixel n)) : Reader (Picture (Pixel n)) :=
  if r.encoding = rfbEncodingRaw then handleRaw r pic
  else if r.encoding = rfbEncodingCopyRect then handleCopyRect r pic
  else if r.encoding = rfbEncodingRRE then handleRRE r pic
  else if r.encoding = rfbEncodingCoRRE then handleCoRRE r pic
  else if r.encoding = rfbEncodingHextile then handleHextile (v.junk r).1 (v.junk r).2 r pic
  else failure

def handleRect (pic : Picture (Pixel n)) : Reader (Picture (Pixel n)) := do
  let r ← RectHeader.read
  -- a rectangle beyond the screen ends the connection
  if v.width < r.x + r.w ∨ v.height < r.y + r.h then failure else v.dispatch r pic

def handleUpdate (pic : Picture (Pixel n)) : Reader (Picture (Pixel n)) := do
  let type ← readU8
  if type ≠ rfbFramebufferUpdate then failure
  else
    let _ ← readU8
    let nRects ← readU16
    times v.handleRect nRects pic

/-- Sizes that go over the wire unchanged, and lines that fit the buffers. -/
structure Lawful : Prop where
  width_lt : v.width < 2 ^ 16
  height_lt : v.height < 2 ^ 16
  pixel : n = 1 ∨ n = 2 ∨ n = 4
  line : v.width * n ≤ updateBufSize

def Shows (r : WireRect) : Prop := (0 < r.w ∧ r.x + r.w ≤ v.width) ∧ 0 < r.h ∧ r.y + r.h ≤ v.height

variable {v}

lemma Lawful.pixel_pos (hv : v.Lawful) : 0 < n := by
  have hn := hv.pixel
  omega

lemma Lawful.pixel_le (hv : v.Lawful) : n ≤ 4 := by
  have hn := hv.pixel
  omega

lemma fits (hv : v.Lawful) {r : WireRect} (hr : r.x + r.w ≤ v.width ∧ r.y + r.h ≤ v.height) {encoding : ℕ}
    (he : encoding < 2 ^ 32) : RectHeader.Fits ⟨r.x, r.y, r.w, r.h, encoding⟩ := by
  have hw := hv.width_lt
  have hh := hv.height_lt
  exact ⟨⟨by dsimp only; omega, by dsimp only; omega⟩, ⟨by dsimp only; omega, by dsimp only; omega⟩, he⟩

lemma reads_handleRect (hv : v.Lawful) {r : WireRect} (hr : r.x + r.w ≤ v.width ∧ r.y + r.h ≤ v.height)
    {encoding : ℕ} (he : encoding < 2 ^ 32) {bs : List UInt8} {pic pic' : Picture (Pixel n)}
    (hb : Reads (v.dispatch ⟨r.x, r.y, r.w, r.h, encoding⟩ pic) bs pic') :
    Reads (v.handleRect pic) (RectHeader.put ⟨r.x, r.y, r.w, r.h, encoding⟩ ++ bs) pic' := by
  refine (RectHeader.reads (fits hv hr he)).bind ?_
  rw [if_neg (by dsimp only; omega)]
  exact hb

end RfbViewer

section encodings

variable {v : RfbViewer n}

/-- What a sender puts on the wire for a rectangle, in at most so many bytes, the client draws, as
so many rectangles. -/
def Draws (v : RfbViewer n) (send : UpdateBuf → Option UpdateBuf) (count bound : ℕ)
    (r : SentRect (Pixel n)) : Prop :=
  ∃ bs, bs.length ≤ bound ∧ Emits send bs ∧ ∀ pic, Reads (times v.handleRect count pic) bs (r.draw pic)

lemma Draws.mono {send : UpdateBuf → Option UpdateBuf} {count bound bound' : ℕ} {r : SentRect (Pixel n)}
    (h : Draws v send count bound r) (hle : bound ≤ bound') : Draws v send count bound' r := by
  obtain ⟨bs, hshort, hdrawn⟩ := h
  exact ⟨bs, hshort.trans hle, hdrawn⟩

lemma draws_raw (hv : v.Lawful) {r : SentRect (Pixel n)} (hw : 0 < r.w)
    (hr : r.x + r.w ≤ v.width ∧ r.y + r.h ≤ v.height) :
    Draws v (rfbSendRectEncodingRaw r) 1 (12 + r.w * r.h * n) r := by
  have hline : r.w * n ≤ updateBufSize := (Nat.mul_le_mul_right n (by omega)).trans hv.line
  have hpos : 0 < r.w * n := Nat.mul_pos hw hv.pixel_pos
  refine ⟨_, ?_, emits_raw hpos hline, fun pic => Reads.times_one ?_⟩
  · rw [List.length_append, RectHeader.length_put, length_pixelBytes, length_rowPixels]
  · exact RfbViewer.reads_handleRect hv (r := ⟨r.x, r.y, r.w, r.h⟩) hr (by decide)
      (reads_raw hpos (hline.trans (by decide)))

lemma draws_rising (hv : v.Lawful) {k : Rising} {afterBufSize : ℕ} {r : SentRect (Pixel n)}
    (hpos : 0 < r.w ∧ 0 < r.h)
    (hr : r.x + r.w ≤ v.width ∧ r.y + r.h ≤ v.height) (hk : k.Lawful r.w r.h) (he : k.encoding < 2 ^ 32)
    (hread : ∀ e bg subs pic, k.Drawn r e bg subs →
      Reads (v.dispatch ⟨r.x, r.y, r.w, r.h, k.encoding⟩ pic) (putU32 e.numsubs ++ e.after) (r.draw pic)) :
    Draws v (k.send afterBufSize r) 1 (16 + r.w * r.h * n) r := by
  cases hs : k.encode afterBufSize r with
  | none =>
    rw [Rising.send_raw hs]
    exact (draws_raw hv hpos.1 hr).mono (by omega)
  | some e =>
    obtain ⟨bg, subs, hd⟩ := Rising.drawn_encode hk hs
    refine ⟨_, ?_, Rising.emits_send hs, fun pic => Reads.times_one ?_⟩
    · have hshort := hd.length_le hk (Nat.mul_pos hpos.1 hpos.2)
      simp only [List.length_append, RectHeader.length_put, length_putU32]
      omega
    rw [List.append_assoc]
    exact RfbViewer.reads_handleRect hv (r := ⟨r.x, r.y, r.w, r.h⟩) hr he (hread e bg subs pic hd)

lemma draws_rre (hv : v.Lawful) {afterBufSize : ℕ} {r : SentRect (Pixel n)} (hpos : 0 < r.w ∧ 0 < r.h)
    (hr : r.x + r.w ≤ v.width ∧ r.y + r.h ≤ v.height) :
    Draws v (rfbSendRectEncodingRRE afterBufSize r) 1 (16 + r.w * r.h * n) r := by
  have hwidth : r.w < 2 ^ 16 := by have hlt := hv.width_lt; omega
  have hheight : r.h < 2 ^ 16 := by have hlt := hv.height_lt; omega
  exact draws_rising hv hpos hr (Rising.lawful_rre hwidth hheight) (by decide) fun e bg subs pic hd =>
    reads_rre hd hwidth hheight pic

lemma draws_smallCorre (hv : v.Lawful) {afterBufSize : ℕ} {r : SentRect (Pixel n)} (hpos : 0 < r.w ∧ 0 < r.h)
    (hr : r.x + r.w ≤ v.width ∧ r.y + r.h ≤ v.height)
    (hsmall : r.w ≤ correMaxWidth ∧ r.h ≤ correMaxHeight) :
    Draws v (rfbSendSmallRectEncodingCoRRE afterBufSize r) 1 (16 + r.w * r.h * n) r := by
  have hwidth : r.w < 2 ^ 8 := hsmall.1.trans_lt (by decide)
  have hheight : r.h < 2 ^ 8 := hsmall.2.trans_lt (by decide)
  have hsize : r.w * r.h * n ≤ rfbBufferSize := by
    calc r.w * r.h * n ≤ correMaxWidth * correMaxHeight * 4 :=
          Nat.mul_le_mul (Nat.mul_le_mul hsmall.1 hsmall.2) hv.pixel_le
      _ ≤ rfbBufferSize := by decide
  exact draws_rising hv hpos hr (Rising.lawful_corre hwidth hheight) (by decide) fun e bg subs pic hd =>
    reads_corre hd hwidth hheight hsize pic

lemma Draws.both {send send' : UpdateBuf → Option UpdateBuf} {k l b c : ℕ}
    {r r' r'' : SentRect (Pixel n)} (h : Draws v send k b r) (h' : Draws v send' l c r')
    (hr : ∀ pic, r'.draw (r.draw pic) = r''.draw pic) :
    Draws v (fun cl => send cl >>= send') (k + l) (b + c) r'' := by
  obtain ⟨bs, hshort, hsend, hread⟩ := h
  obtain ⟨bs', hshort', hsend', hread'⟩ := h'
  refine ⟨bs ++ bs', ?_, hsend.bind hsend', fun pic => ?_⟩
  · rw [List.length_append]
    exact Nat.add_le_add hshort hshort'
  · rw [← hr pic]
    exact Reads.times_add (hread pic) (hread' _)

lemma pieces_count {k m : ℕ} (hm : 0 < m) (h : m < k) :
    (k - 1) / m + 1 = (m - 1) / m + 1 + ((k - m - 1) / m + 1) := by
  have hone : (m - 1) / m = 0 := Nat.div_eq_of_lt (Nat.sub_one_lt hm.ne')
  have hsplit : k - 1 = k - m - 1 + m := by omega
  rw [hone, hsplit, Nat.add_div_right _ hm]
  omega

section corre

variable {afterBufSize : ℕ} {view : Picture (Pixel n)} {x y w h : ℕ}

lemma corre_sides : 0 < correMaxWidth ∧ 0 < correMaxHeight := by decide

lemma draws_corre_below (htall : correMaxHeight < h)
    (hupper : Draws v (rfbSendRectEncodingCoRRE afterBufSize view x y w correMaxHeight)
      (PixelEncoding.corre.count ⟨x, y, w, correMaxHeight⟩)
      (PixelEncoding.corre.count ⟨x, y, w, correMaxHeight⟩ * 16 + w * correMaxHeight * n)
      (.cut view x y w correMaxHeight))
    (hlower : Draws v (rfbSendRectEncodingCoRRE afterBufSize view x (y + correMaxHeight) w (h - correMaxHeight))
      (PixelEncoding.corre.count ⟨x, y + correMaxHeight, w, h - correMaxHeight⟩)
      (PixelEncoding.corre.count ⟨x, y + correMaxHeight, w, h - correMaxHeight⟩ * 16 + w * (h - correMaxHeight) * n)
      (.cut view x (y + correMaxHeight) w (h - correMaxHeight))) :
    Draws v (rfbSendRectEncodingCoRRE afterBufSize view x y w h) (PixelEncoding.corre.count ⟨x, y, w, h⟩)
      (PixelEncoding.corre.count ⟨x, y, w, h⟩ * 16 + w * h * n) (.cut view x y w h) := by
  have hsend : rfbSendRectEncodingCoRRE afterBufSize view x y w h = fun cl =>
      rfbSendRectEncodingCoRRE afterBufSize view x y w correMaxHeight cl >>=
        rfbSendRectEncodingCoRRE afterBufSize view x (y + correMaxHeight) w (h - correMaxHeight) := by
    funext cl
    rw [rfbSendRectEncodingCoRRE, if_pos htall]
  have hcount : PixelEncoding.corre.count ⟨x, y, w, h⟩ = PixelEncoding.corre.count ⟨x, y, w, correMaxHeight⟩ +
      PixelEncoding.corre.count ⟨x, y + correMaxHeight, w, h - correMaxHeight⟩ := by
    simp only [PixelEncoding.count, pieces_count corre_sides.2 htall, mul_add]
  have hbytes : w * h * n = w * correMaxHeight * n + w * (h - correMaxHeight) * n := by
    rw [← Nat.add_mul, ← Nat.mul_add, Nat.add_sub_cancel' htall.le]
  rw [hsend, hcount]
  refine (hupper.both hlower fun pic => ?_).mono ?_
  · rw [SentRect.draw_below, Nat.add_sub_cancel' htall.le]
  · rw [hbytes, Nat.add_mul]
    omega

lemma draws_corre_beside (htall : ¬ correMaxHeight < h) (hwide : correMaxWidth < w)
    (hleft : Draws v (rfbSendRectEncodingCoRRE afterBufSize view x y correMaxWidth h)
      (PixelEncoding.corre.count ⟨x, y, correMaxWidth, h⟩)
      (PixelEncoding.corre.count ⟨x, y, correMaxWidth, h⟩ * 16 + correMaxWidth * h * n)
      (.cut view x y correMaxWidth h))
    (hright : Draws v (rfbSendRectEncodingCoRRE afterBufSize view (x + correMaxWidth) y (w - correMaxWidth) h)
      (PixelEncoding.corre.count ⟨x + correMaxWidth, y, w - correMaxWidth, h⟩)
      (PixelEncoding.corre.count ⟨x + correMaxWidth, y, w - correMaxWidth, h⟩ * 16 + (w - correMaxWidth) * h * n)
      (.cut view (x + correMaxWidth) y (w - correMaxWidth) h)) :
    Draws v (rfbSendRectEncodingCoRRE afterBufSize view x y w h) (PixelEncoding.corre.count ⟨x, y, w, h⟩)
      (PixelEncoding.corre.count ⟨x, y, w, h⟩ * 16 + w * h * n) (.cut view x y w h) := by
  have hsend : rfbSendRectEncodingCoRRE afterBufSize view x y w h = fun cl =>
      rfbSendRectEncodingCoRRE afterBufSize view x y correMaxWidth h cl >>=
        rfbSendRectEncodingCoRRE afterBufSize view (x + correMaxWidth) y (w - correMaxWidth) h := by
    funext cl
    rw [rfbSendRectEncodingCoRRE, if_neg htall, if_pos hwide]
  have hcount : PixelEncoding.corre.count ⟨x, y, w, h⟩ = PixelEncoding.corre.count ⟨x, y, correMaxWidth, h⟩ +
      PixelEncoding.corre.count ⟨x + correMaxWidth, y, w - correMaxWidth, h⟩ := by
    simp only [PixelEncoding.count, pieces_count corre_sides.1 hwide, add_mul]
  have hbytes : w * h * n = correMaxWidth * h * n + (w - correMaxWidth) * h * n := by
    rw [← Nat.add_mul, ← Nat.add_mul, Nat.add_sub_cancel' hwide.le]
  rw [hsend, hcount]
  refine (hleft.both hright fun pic => ?_).mono ?_
  · rw [SentRect.draw_beside, Nat.add_sub_cancel' hwide.le]
  · rw [hbytes, Nat.add_mul]
    omega

lemma draws_corre_whole (hv : v.Lawful) (hpos : 0 < w ∧ 0 < h) (hr : x + w ≤ v.width ∧ y + h ≤ v.height)
    (hsmall : w ≤ correMaxWidth ∧ h ≤ correMaxHeight) :
    Draws v (rfbSendRectEncodingCoRRE afterBufSize view x y w h) (PixelEncoding.corre.count ⟨x, y, w, h⟩)
      (PixelEncoding.corre.count ⟨x, y, w, h⟩ * 16 + w * h * n) (.cut view x y w h) := by
  have hsend : rfbSendRectEncodingCoRRE afterBufSize view x y w h =
      rfbSendSmallRectEncodingCoRRE afterBufSize (.cut view x y w h) := by
    funext cl
    rw [rfbSendRectEncodingCoRRE, if_neg (not_lt.mpr hsmall.2), if_neg (not_lt.mpr hsmall.1)]
  have hcount : PixelEncoding.corre.count ⟨x, y, w, h⟩ = 1 := by
    have hx : (w - 1) / correMaxWidth = 0 := Nat.div_eq_of_lt (by omega)
    have hy : (h - 1) / correMaxHeight = 0 := Nat.div_eq_of_lt (by omega)
    simp [PixelEncoding.count, hx, hy]
  rw [hsend, hcount]
  exact (draws_smallCorre hv hpos hr hsmall).mono (by simp [SentRect.cut])

lemma draws_corre (hv : v.Lawful) (view : Picture (Pixel n)) (hw : 0 < w) (hh : 0 < h)
    (hr : x + w ≤ v.width ∧ y + h ≤ v.height) :
    Draws v (rfbSendRectEncodingCoRRE afterBufSize view x y w h) (PixelEncoding.corre.count ⟨x, y, w, h⟩)
      (PixelEncoding.corre.count ⟨x, y, w, h⟩ * 16 + w * h * n) (.cut view x y w h) := by
  have hsides := corre_sides
  induction hm : w + h using Nat.strong_induction_on generalizing x y w h with
  | _ m ih =>
    by_cases htall : correMaxHeight < h
    · refine draws_corre_below htall ?_ ?_
      · exact ih (w + correMaxHeight) (by omega) hw hsides.2 (by omega) rfl
      · exact ih (w + (h - correMaxHeight)) (by omega) hw (by omega) (by omega) rfl
    · by_cases hwide : correMaxWidth < w
      · refine draws_corre_beside htall hwide ?_ ?_
        · exact ih (correMaxWidth + h) (by omega) hsides.1 hh (by omega) rfl
        · exact ih (w - correMaxWidth + h) (by omega) (by omega) hh (by omega) rfl
      · exact draws_corre_whole hv ⟨hw, hh⟩ hr ⟨not_lt.mp hwide, not_lt.mp htall⟩

end corre

lemma draws_hextile (hv : v.Lawful) (view : Picture (Pixel n)) {x y w h : ℕ}
    (hr : x + w ≤ v.width ∧ y + h ≤ v.height) :
    Draws v (rfbSendRectEncodingHextile view x y w h) 1 (12 + (hexTiles x y w h).length * tileBytes n)
      (.cut view x y w h) := by
  have hbuf : tileBytes n ≤ updateBufSize := by
    have hn := hv.pixel_le
    rw [tileBytes, updateBufSize]
    omega
  obtain ⟨bs, hshort, hsend, hread⟩ := emits_hextile view hv.pixel_pos hbuf x y w h
  refine ⟨_, ?_, hsend, fun pic => Reads.times_one ?_⟩
  · rw [List.length_append, RectHeader.length_put]
    exact Nat.add_le_add_left hshort 12
  exact RfbViewer.reads_handleRect hv (r := ⟨x, y, w, h⟩) hr (by decide) (hread _ _ pic)

def PixelEncoding.bound (enc : PixelEncoding) (n : ℕ) (r : WireRect) : ℕ :=
  match enc with
  | .raw => 12 + r.w * r.h * n
  | .hextile => 12 + (hexTiles r.x r.y r.w r.h).length * tileBytes n
  | _ => enc.count r * 16 + r.w * r.h * n

lemma draws_rect (hv : v.Lawful) (enc : PixelEncoding) (afterBufSize : ℕ) (view : Picture (Pixel n)) {r : WireRect}
    (hr : v.Shows r) :
    Draws v (sendRect enc afterBufSize view r) (enc.count r) (enc.bound n r) (.cut view r.x r.y r.w r.h) := by
  obtain ⟨⟨hw, hx⟩, hh, hy⟩ := hr
  cases enc with
  | raw => exact draws_raw hv hw ⟨hx, hy⟩
  | rre => exact draws_rre hv ⟨hw, hh⟩ ⟨hx, hy⟩
  | corre => exact draws_corre hv view hw hh ⟨hx, hy⟩
  | hextile => exact draws_hextile hv view ⟨hx, hy⟩

lemma Draws.shown {send : UpdateBuf → Option UpdateBuf} {count bound x y w h : ℕ} {view : Picture (Pixel n)}
    (hd : Draws v send count bound (.cut view x y w h)) :
    ∃ bs, bs.length ≤ bound ∧ (∀ cl, ∃ cl', send cl = some cl' ∧ cl'.stream = cl.stream ++ bs) ∧
      ∀ pic, Reads (times v.handleRect count pic) bs
        fun i j => if (x ≤ i ∧ i < x + w) ∧ y ≤ j ∧ j < y + h then view i j else pic i j := by
  obtain ⟨bs, hshort, hsend, hread⟩ := hd
  simp only [SentRect.draw_cut] at hread
  exact ⟨bs, hshort, hsend, hread⟩

def onePixel (b : UInt8) : Pixel 1 := ⟨[b], rfl⟩

def smallViewer : RfbViewer 1 := ⟨3, 2, fun _ => (onePixel 0, onePixel 0)⟩

lemma smallViewer_lawful : smallViewer.Lawful := ⟨by decide, by decide, by decide, by decide⟩

lemma smallViewer_shows : smallViewer.Shows ⟨1, 0, 2, 2⟩ := ⟨by decide, by decide⟩

def smallView : Picture (Pixel 1) := fun i j => onePixel (UInt8.ofNat (i / 2 + j))

theorem rfbSendRectEncodingRaw_shown (hv : v.Lawful) (view : Picture (Pixel n)) {x y w h : ℕ}
    (hr : v.Shows ⟨x, y, w, h⟩) :
    ∃ bs, bs.length ≤ 12 + w * h * n ∧
      (∀ cl, ∃ cl', rfbSendRectEncodingRaw (.cut view x y w h) cl = some cl' ∧ cl'.stream = cl.stream ++ bs) ∧
      ∀ pic, Reads (times v.handleRect 1 pic) bs
        fun i j => if (x ≤ i ∧ i < x + w) ∧ y ≤ j ∧ j < y + h then view i j else pic i j :=
  (draws_raw hv hr.1.1 ⟨hr.1.2, hr.2.2⟩).shown

theorem rfbSendRectEncodingRaw_shown_small :
    ∃ bs, bs.length ≤ 12 + 2 * 2 * 1 ∧
      (∀ cl, ∃ cl', rfbSendRectEncodingRaw (.cut smallView 1 0 2 2) cl = some cl' ∧
        cl'.stream = cl.stream ++ bs) ∧
      ∀ pic, Reads (times smallViewer.handleRect 1 pic) bs
        fun i j => if (1 ≤ i ∧ i < 1 + 2) ∧ 0 ≤ j ∧ j < 0 + 2 then smallView i j else pic i j :=
  rfbSendRectEncodingRaw_shown smallViewer_lawful smallView smallViewer_shows

theorem rfbSendRectEncodingRRE_shown (hv : v.Lawful) (afterBufSize : ℕ) (view : Picture (Pixel n)) {x y w h : ℕ}
    (hr : v.Shows ⟨x, y, w, h⟩) :
    ∃ bs, bs.length ≤ 16 + w * h * n ∧
      (∀ cl, ∃ cl', rfbSendRectEncodingRRE afterBufSize (.cut view x y w h) cl = some cl' ∧
        cl'.stream = cl.stream ++ bs) ∧
      ∀ pic, Reads (times v.handleRect 1 pic) bs
        fun i j => if (x ≤ i ∧ i < x + w) ∧ y ≤ j ∧ j < y + h then view i j else pic i j :=
  (draws_rre hv ⟨hr.1.1, hr.2.1⟩ ⟨hr.1.2, hr.2.2⟩).shown

theorem rfbSendRectEncodingRRE_shown_small :
    ∃ bs, bs.length ≤ 16 + 2 * 2 * 1 ∧
      (∀ cl, ∃ cl', rfbSendRectEncodingRRE 100 (.cut smallView 1 0 2 2) cl = some cl' ∧
        cl'.stream = cl.stream ++ bs) ∧
      ∀ pic, Reads (times smallViewer.handleRect 1 pic) bs
        fun i j => if (1 ≤ i ∧ i < 1 + 2) ∧ 0 ≤ j ∧ j < 0 + 2 then smallView i j else pic i j :=
  rfbSendRectEncodingRRE_shown smallViewer_lawful 100 smallView smallViewer_shows

theorem rfbSendRectEncodingCoRRE_shown (hv : v.Lawful) (afterBufSize : ℕ) (view : Picture (Pixel n)) {x y w h : ℕ}
    (hr : v.Shows ⟨x, y, w, h⟩) :
    ∃ bs, bs.length ≤ PixelEncoding.corre.count ⟨x, y, w, h⟩ * 16 + w * h * n ∧
      (∀ cl, ∃ cl', rfbSendRectEncodingCoRRE afterBufSize view x y w h cl = some cl' ∧
        cl'.stream = cl.stream ++ bs) ∧
      ∀ pic, Reads (times v.handleRect (PixelEncoding.corre.count ⟨x, y, w, h⟩) pic) bs
        fun i j => if (x ≤ i ∧ i < x + w) ∧ y ≤ j ∧ j < y + h then view i j else pic i j :=
  (draws_corre hv view hr.1.1 hr.2.1 ⟨hr.1.2, hr.2.2⟩).shown

theorem rfbSendRectEncodingCoRRE_shown_small :
    ∃ bs, bs.length ≤ PixelEncoding.corre.count ⟨1, 0, 2, 2⟩ * 16 + 2 * 2 * 1 ∧
      (∀ cl, ∃ cl', rfbSendRectEncodingCoRRE 100 smallView 1 0 2 2 cl = some cl' ∧
        cl'.stream = cl.stream ++ bs) ∧
      ∀ pic, Reads (times smallViewer.handleRect (PixelEncoding.corre.count ⟨1, 0, 2, 2⟩) pic) bs
        fun i j => if (1 ≤ i ∧ i < 1 + 2) ∧ 0 ≤ j ∧ j < 0 + 2 then smallView i j else pic i j :=
  rfbSendRectEncodingCoRRE_shown smallViewer_lawful 100 smallView smallViewer_shows

theorem rfbSendRectEncodingHextile_shown (hv : v.Lawful) (view : Picture (Pixel n)) {x y w h : ℕ}
    (hr : v.Shows ⟨x, y, w, h⟩) :
    ∃ bs, bs.length ≤ 12 + (hexTiles x y w h).length * tileBytes n ∧
      (∀ cl, ∃ cl', rfbSendRectEncodingHextile view x y w h cl = some cl' ∧ cl'.stream = cl.stream ++ bs) ∧
      ∀ pic, Reads (times v.handleRect 1 pic) bs
        fun i j => if (x ≤ i ∧ i < x + w) ∧ y ≤ j ∧ j < y + h then view i j else pic i j :=
  (draws_hextile hv view ⟨hr.1.2, hr.2.2⟩).shown

theorem rfbSendRectEncodingHextile_shown_small :
    ∃ bs, bs.length ≤ 12 + (hexTiles 1 0 2 2).length * tileBytes 1 ∧
      (∀ cl, ∃ cl', rfbSendRectEncodingHextile smallView 1 0 2 2 cl = some cl' ∧ cl'.stream = cl.stream ++ bs) ∧
      ∀ pic, Reads (times smallViewer.handleRect 1 pic) bs
        fun i j => if (1 ≤ i ∧ i < 1 + 2) ∧ 0 ≤ j ∧ j < 0 + 2 then smallView i j else pic i j :=
  rfbSendRectEncodingHextile_shown smallViewer_lawful smallView smallViewer_shows

def Copies (v : RfbViewer n) (dx dy : ℤ) (r : WireRect) : Prop :=
  (r.x + r.w ≤ v.width ∧ r.y + r.h ≤ v.height) ∧ (r.x - dx).toNat < 2 ^ 16 ∧ (r.y - dy).toNat < 2 ^ 16

def copyBytes (dx dy : ℤ) (r : WireRect) : List UInt8 :=
  RectHeader.put ⟨r.x, r.y, r.w, r.h, rfbEncodingCopyRect⟩ ++ (putU16 (r.x - dx).toNat ++ putU16 (r.y - dy).toNat)

lemma length_copyBytes (dx dy : ℤ) (r : WireRect) : (copyBytes dx dy r).length = 16 := by
  simp [copyBytes]

lemma sendCopyRect_of_room {dx dy : ℤ} {r : WireRect} {cl : UpdateBuf} (h : cl.ublen + 16 ≤ updateBufSize) :
    ∃ cl', sendCopyRect dx dy cl r = some cl' ∧ cl'.stream = cl.stream ++ copyBytes dx dy r ∧
      cl'.ublen = cl.ublen + 16 := by
  have hfirst : cl.ublen + (RectHeader.put ⟨r.x, r.y, r.w, r.h, rfbEncodingCopyRect⟩).length ≤ updateBufSize := by
    rw [RectHeader.length_put]
    omega
  obtain ⟨cl₁, hput, hstream, hlen⟩ := UpdateBuf.put_of_room hfirst
  have hsecond : cl₁.ublen + (putU16 (r.x - dx).toNat ++ putU16 (r.y - dy).toNat).length ≤ updateBufSize := by
    rw [hlen, RectHeader.length_put, List.length_append, length_putU16, length_putU16]
    omega
  obtain ⟨cl₂, hput', hstream', hlen'⟩ := UpdateBuf.put_of_room hsecond
  refine ⟨cl₂, by simp [sendCopyRect, hput, hput'], ?_, ?_⟩
  · rw [hstream', hstream, copyBytes, List.append_assoc]
  · rw [hlen', hlen, RectHeader.length_put, List.length_append, length_putU16, length_putU16]

lemma reads_copyRect (hv : v.Lawful) {dx dy : ℤ} {r : WireRect} (hr : Copies v dx dy r) (pic : Picture (Pixel n)) :
    Reads (v.handleRect pic) (copyBytes dx dy r) (copyRect dx dy pic r) := by
  obtain ⟨hin, hx, hy⟩ := hr
  refine RfbViewer.reads_handleRect hv hin (by decide) ?_
  exact (Reads.u16 hx).bind ((Reads.u16 hy).finish fun srcY =>
    copyRectangleFromRectangle (r.x - dx).toNat srcY r.w r.h r.x r.y pic)

lemma sendCopies (hv : v.Lawful) {dx dy : ℤ} {rs : List WireRect} (hrs : ∀ r ∈ rs, Copies v dx dy r) :
    (∀ cl : UpdateBuf, cl.ublen + 16 * rs.length ≤ updateBufSize →
      ∃ cl', rs.foldlM (sendCopyRect dx dy) cl = some cl' ∧
        cl'.stream = cl.stream ++ rs.flatMap (copyBytes dx dy)) ∧
      ∀ pic, Reads (times v.handleRect rs.length pic) (rs.flatMap (copyBytes dx dy))
        (rs.foldl (copyRect dx dy) pic) := by
  constructor
  · clear hrs
    induction rs with
    | nil => exact fun cl _ => ⟨cl, rfl, by simp⟩
    | cons r rs ih =>
      intro cl hroom
      rw [List.length_cons] at hroom
      obtain ⟨cl₁, hsend, hstream, hlen⟩ := sendCopyRect_of_room (r := r)
        (show cl.ublen + 16 ≤ updateBufSize by omega)
      obtain ⟨cl₂, hrest, hstream'⟩ := ih cl₁ (by omega)
      refine ⟨cl₂, ?_, ?_⟩
      · rw [List.foldlM_cons, hsend]
        exact hrest
      · rw [hstream', hstream, List.flatMap_cons, List.append_assoc]
  · exact fun pic => Reads.times fun r hr pic => reads_copyRect hv (hrs r hr) pic

def drawRects (view : Picture (Pixel n)) (rs : List WireRect) (pic : Picture (Pixel n)) : Picture (Pixel n) :=
  rs.foldl (fun pic r => (SentRect.cut view r.x r.y r.w r.h).draw pic) pic

lemma sendRects (hv : v.Lawful) (enc : PixelEncoding) (afterBufSize : ℕ) (view : Picture (Pixel n))
    {rs : List WireRect}
    (hrs : ∀ r ∈ rs, v.Shows r) :
    ∃ bs, bs.length ≤ (rs.map (enc.bound n)).sum ∧
      Emits (fun cl => rs.foldlM (fun cl r => sendRect enc afterBufSize view r cl) cl) bs ∧
      ∀ pic, Reads (times v.handleRect (rs.map enc.count).sum pic) bs (drawRects view rs pic) := by
  induction rs with
  | nil => exact ⟨[], Nat.zero_le _, Emits.stay, fun pic => Reads.pure pic⟩
  | cons r rs ih =>
    obtain ⟨hr, hrest⟩ := List.forall_mem_cons.mp hrs
    obtain ⟨bs, hshort, hsend, hread⟩ := draws_rect hv enc afterBufSize view hr
    obtain ⟨cs, hshort', hsend', hread'⟩ := ih hrest
    refine ⟨bs ++ cs, ?_, ?_, fun pic => ?_⟩
    · rw [List.length_append, List.map_cons, List.sum_cons]
      exact Nat.add_le_add hshort hshort'
    · simpa only [List.foldlM_cons] using hsend.bind hsend'
    · rw [List.map_cons, List.sum_cons]
      exact Reads.times_add (hread pic) (hread' _)

namespace RectUpdate

variable {u : RectUpdate n}

structure Sendable (v : RfbViewer n) (u : RectUpdate n) : Prop where
  copies : ∀ r ∈ u.copies, Copies v u.dx u.dy r
  room : 4 + 16 * u.copies.length ≤ updateBufSize
  rects : ∀ r ∈ u.rects, v.Shows r
  count : u.nRects < 0xFFFF

def bound (u : RectUpdate n) : ℕ := 4 + 16 * u.copies.length + (u.rects.map (u.encoding.bound n)).sum

def result (u : RectUpdate n) (pic : Picture (Pixel n)) : Picture (Pixel n) :=
  drawRects u.view u.rects (u.copies.foldl (copyRect u.dx u.dy) pic)

lemma sendUpdate_reads (hv : v.Lawful) (hu : u.Sendable v) (pad : UInt8) :
    ∃ bs, bs.length ≤ u.bound ∧
      (∀ cl : UpdateBuf, ∃ cl', u.sendUpdate pad cl = some cl' ∧ cl'.ublen = 0 ∧ cl'.sent = cl.sent ++ bs) ∧
      ∀ pic, Reads (v.handleUpdate pic) bs (u.result pic) := by
  obtain ⟨hcopies, hdraw⟩ := sendCopies hv hu.copies
  obtain ⟨cs, hshort, hrects, hdraw'⟩ := sendRects hv u.encoding u.afterBufSize u.view hu.rects
  refine ⟨updateHeader pad u.nRects ++ (u.copies.flatMap (copyBytes u.dx u.dy) ++ cs), ?_,
    fun cl => ?_, fun pic => ?_⟩
  · simp only [List.length_append, length_updateHeader, List.length_flatMap, length_copyBytes, List.map_const',
      List.sum_replicate, smul_eq_mul, bound]
    omega
  · obtain ⟨cl₁, hsend, hstream⟩ :=
      hcopies ⟨cl.sent, updateHeader pad u.nRects, by rw [length_updateHeader]; decide⟩ hu.room
    obtain ⟨cl₂, hsend', hstream'⟩ := hrects cl₁
    refine ⟨rfbSendUpdateBuf cl₂, ?_, rfl, ?_⟩
    · rw [sendUpdate]
      simp only [hsend, Option.bind_eq_bind, Option.bind_some, hsend', Option.pure_def]
    · have hall : (rfbSendUpdateBuf cl₂).sent = cl₂.stream := rfl
      rw [hall, hstream', hstream]
      simp [UpdateBuf.stream]
  · have hpad : Reads readU8 [pad] pad.toNat := by
      have hread := Reads.u8 pad.toNat_lt
      rwa [putU8, UInt8.ofNat_toNat] at hread
    have hbody : Reads (times v.handleRect u.nRects pic)
      (u.copies.flatMap (copyBytes u.dx u.dy) ++ cs) (u.result pic) :=
      Reads.times_add (hdraw pic) (hdraw' _)
    rw [updateHeader]
    simp only [List.append_assoc]
    refine (Reads.u8 (by decide)).bind ?_
    rw [if_neg (by simp)]
    exact hpad.bind ((Reads.u16 (hu.count.trans (by decide))).bind hbody)

end RectUpdate

end encodings

end AndroidRemote.Rfb
