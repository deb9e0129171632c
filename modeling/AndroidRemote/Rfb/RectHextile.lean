import AndroidRemote.Rfb.RectRising
import Mathlib.Tactic

/-! Hextile: tiles of sixteen by sixteen cells, each with as much of its colours as the tiles
before it have not told the client. -/

namespace AndroidRemote.Rfb

open Library

variable {n : ℕ}

section colours

variable {α : Type}

structure TileColours (α : Type) where
  mono : Bool
  solid : Bool
  bg : α
  fg : α

structure ColourCount (α : Type) where
  colour1 : α
  colour2 : α
  n1 : ℕ
  n2 : ℕ
  solid : Bool

def ColourCount.guess (s : ColourCount α) (mono : Bool) : TileColours α :=
  if s.n2 < s.n1 then ⟨mono, s.solid, s.colour1, s.colour2⟩ else ⟨mono, s.solid, s.colour2, s.colour1⟩

structure ColourCount.Counted (s : ColourCount α) (seen : List α) : Prop where
  two : ∀ p ∈ seen, p = s.colour1 ∨ 0 < s.n2 ∧ p = s.colour2
  first : s.n1 = 0 ↔ seen = []
  mem1 : 0 < s.n1 → s.colour1 ∈ seen
  mem2 : 0 < s.n2 → s.colour2 ∈ seen
  solid_iff : s.solid = true ↔ s.n2 = 0

structure TileColours.Right (t : TileColours α) (ps : List α) : Prop where
  bg_mem : t.bg ∈ ps
  solid : t.solid = true → ∀ p ∈ ps, p = t.bg
  mono : t.mono = true → ∀ p ∈ ps, p = t.bg ∨ p = t.fg

lemma ColourCount.Counted.guess {s : ColourCount α} {seen rest : List α} (h : s.Counted seen) {mono : Bool}
    (hne : seen ≠ []) (hall : mono = true ∨ s.n2 = 0 → rest = []) : (s.guess mono).Right (seen ++ rest) := by
  have hn1 : 0 < s.n1 := Nat.pos_of_ne_zero fun h0 => hne (h.first.mp h0)
  unfold ColourCount.guess
  split
  · next hlt =>
    refine ⟨List.mem_append_left _ (h.mem1 hn1), fun hs p hp => ?_, fun hm p hp => ?_⟩
    · have hn2 := h.solid_iff.mp hs
      rw [hall (.inr hn2), List.append_nil] at hp
      rcases h.two p hp with hp | hp
      · exact hp
      · omega
    · rw [hall (.inl hm), List.append_nil] at hp
      exact (h.two p hp).imp_right And.right
  · next hlt =>
    refine ⟨List.mem_append_left _ (h.mem2 (by omega)), fun hs => ?_, fun hm p hp => ?_⟩
    · have hn2 := h.solid_iff.mp hs
      omega
    · rw [hall (.inl hm), List.append_nil] at hp
      exact (h.two p hp).symm.imp_left And.right

variable {s : ColourCount α} {seen ps : List α} {p : α}

lemma ColourCount.Counted.begin (h : s.Counted seen) (p : α) :
    (if s.n1 = 0 then { s with colour1 := p } else s).Counted seen := by
  split
  · next h0 =>
    obtain rfl := h.first.mp h0
    exact ⟨by simp, h.first, fun hpos => absurd h0 hpos.ne', h.mem2, h.solid_iff⟩
  · exact h

lemma ColourCount.Counted.again (h : s.Counted seen) (hp : p = s.colour1) :
    ColourCount.Counted { s with n1 := s.n1 + 1 } (seen ++ [p]) where
  two := by
    intro q hq
    rcases List.mem_append.mp hq with hq | hq
    · exact h.two q hq
    · exact .inl ((List.mem_singleton.mp hq).trans hp)
  first := by simp
  mem1 _ := by simp [hp]
  mem2 hpos := List.mem_append_left _ (h.mem2 hpos)
  solid_iff := h.solid_iff

lemma ColourCount.Counted.other (h : s.Counted seen) (hn1 : s.n1 ≠ 0)
    (hp : s.n2 ≠ 0 → p = s.colour2) :
    ColourCount.Counted { s with solid := false, colour2 := p, n2 := s.n2 + 1 } (seen ++ [p]) where
  two := by
    intro q hq
    rcases List.mem_append.mp hq with hq | hq
    · refine (h.two q hq).imp_right fun hq => ⟨Nat.succ_pos _, ?_⟩
      exact hq.2.trans (hp hq.1.ne').symm
    · exact .inr ⟨Nat.succ_pos _, List.mem_singleton.mp hq⟩
  first := by simp [hn1]
  mem1 hpos := List.mem_append_left _ (h.mem1 hpos)
  mem2 _ := by simp
  solid_iff := by simp

variable [DecidableEq α]

def testColoursLoop : ColourCount α → List α → TileColours α
  | s, [] => s.guess true
  | s, p :: ps =>
    let s := if s.n1 = 0 then { s with colour1 := p } else s
    if p = s.colour1 then testColoursLoop { s with n1 := s.n1 + 1 } ps
    else
      let s := if s.n2 = 0 then { s with solid := false, colour2 := p } else s
      if p = s.colour2 then testColoursLoop { s with n2 := s.n2 + 1 } ps
      else s.guess false

def testColours (black : α) (ps : List α) : TileColours α := testColoursLoop ⟨black, black, 0, 0, true⟩ ps

lemma testColoursLoop_right (h : s.Counted seen) (hne : seen ++ ps ≠ []) :
    (testColoursLoop s ps).Right (seen ++ ps) := by
  induction ps generalizing s seen with
  | nil => exact h.guess (by simpa using hne) (fun _ => rfl)
  | cons p ps ih =>
    rw [testColoursLoop]
    have hbegin := h.begin p
    have hfirst : (if s.n1 = 0 then { s with colour1 := p } else s).n1 = 0 →
        p = (if s.n1 = 0 then { s with colour1 := p } else s).colour1 := by
      split
      · exact fun _ => rfl
      · exact fun h0 => by contradiction
    dsimp only
    generalize (if s.n1 = 0 then { s with colour1 := p } else s) = t at *
    have hcons : seen ++ p :: ps = (seen ++ [p]) ++ ps := by simp
    by_cases h1 : p = t.colour1
    · rw [if_pos h1, hcons]
      exact ih (hbegin.again h1) (by simp)
    · rw [if_neg h1]
      have hn1 : t.n1 ≠ 0 := fun h0 => h1 (hfirst h0)
      have hseen : seen ≠ [] := fun h0 => hn1 (hbegin.first.mpr h0)
      by_cases h2 : t.n2 = 0
      · simp only [h2, if_true]
        rw [hcons]
        have hnew := hbegin.other (p := p) hn1 (fun hne => absurd h2 hne)
        rw [h2] at hnew
        exact ih hnew (by simp)
      · simp only [if_neg h2]
        split
        · next hp =>
          have hsolid : t.solid = false := by simpa [h2] using mt hbegin.solid_iff.mp h2
          have hnew := hbegin.other hn1 (fun _ => hp)
          rw [← hsolid, hp] at hnew
          rw [hcons]
          exact ih (hp ▸ hnew) (by simp)
        · refine hbegin.guess hseen (fun hor => ?_)
          rcases hor with hm | h0
          · exact absurd hm (by simp)
          · exact absurd h0 h2

lemma testColours_right (black : α) (hne : ps ≠ []) : (testColours black ps).Right ps := by
  have hstart : ColourCount.Counted ⟨black, black, 0, 0, true⟩ ([] : List α) :=
    ⟨by simp, by simp, by simp, by simp, by simp⟩
  exact testColoursLoop_right hstart (by simpa using hne)

end colours

def rfbEncodingHextile : ℕ := 5

def rfbHextileRaw : ℕ := 1

def rfbHextileBackgroundSpecified : ℕ := 2

def rfbHextileForegroundSpecified : ℕ := 4

def rfbHextileAnySubrects : ℕ := 8

def rfbHextileSubrectsColoured : ℕ := 16

def rfbHextilePackXY (x y : ℕ) : ℕ := x <<< 4 ||| y

def rfbHextilePackWH (w h : ℕ) : ℕ := (w - 1) <<< 4 ||| (h - 1)

def rfbHextileExtractX (byte : ℕ) : ℕ := byte >>> 4

def rfbHextileExtractY (byte : ℕ) : ℕ := byte &&& 15

def rfbHextileExtractW (byte : ℕ) : ℕ := (byte >>> 4) + 1

def rfbHextileExtractH (byte : ℕ) : ℕ := (byte &&& 15) + 1

lemma extract_packXY {x y : ℕ} (hx : x < 16) (hy : y < 16) :
    rfbHextilePackXY x y < 2 ^ 8 ∧ rfbHextileExtractX (rfbHextilePackXY x y) = x ∧
      rfbHextileExtractY (rfbHextilePackXY x y) = y := by
  have hall : ∀ x < 16, ∀ y < 16, rfbHextilePackXY x y < 2 ^ 8 ∧ rfbHextileExtractX (rfbHextilePackXY x y) = x ∧
      rfbHextileExtractY (rfbHextilePackXY x y) = y := by decide
  exact hall x hx y hy

lemma extract_packWH {w h : ℕ} (hw : 0 < w ∧ w ≤ 16) (hh : 0 < h ∧ h ≤ 16) :
    rfbHextilePackWH w h < 2 ^ 8 ∧ rfbHextileExtractW (rfbHextilePackWH w h) = w ∧
      rfbHextileExtractH (rfbHextilePackWH w h) = h := by
  obtain ⟨hlt, hx, hy⟩ := extract_packXY (show w - 1 < 16 by omega) (show h - 1 < 16 by omega)
  refine ⟨hlt, ?_, ?_⟩
  · exact (congrArg (· + 1) hx).trans (Nat.sub_add_cancel hw.1)
  · exact (congrArg (· + 1) hy).trans (Nat.sub_add_cancel hh.1)

/-- What the sender remembers of the tiles already sent. -/
structure HextileState (n : ℕ) where
  validBg : Bool
  bg : Pixel n
  validFg : Bool
  fg : Pixel n

def putHextileSubrect (mono : Bool) (s : Patch (Pixel n)) : List UInt8 :=
  (if mono then [] else s.pix.1) ++ (putU8 (rfbHextilePackXY s.x s.y) ++ putU8 (rfbHextilePackWH s.w s.h))

namespace HextileState

variable (st : HextileState n)

def specifyBg (newBg : Pixel n) : ℕ × List UInt8 × HextileState n :=
  if !st.validBg ∨ newBg ≠ st.bg then
    (rfbHextileBackgroundSpecified, newBg.1, { st with validBg := true, bg := newBg })
  else (0, [], st)

def specifyFg (newFg : Pixel n) : ℕ × List UInt8 × HextileState n :=
  if !st.validFg ∨ newFg ≠ st.fg then
    (rfbHextileForegroundSpecified, newFg.1, { st with validFg := true, fg := newFg })
  else (0, [], st)

def subrectColours (t : TileColours (Pixel n)) : ℕ × List UInt8 × HextileState n :=
  if t.mono then st.specifyFg t.fg else (rfbHextileSubrectsColoured, [], { st with validFg := false })

def tileSubrects (mono : Bool) (data : Picture (Pixel n)) (w h : ℕ) : Option (Encoded (Pixel n)) :=
  subrectEncode (putHextileSubrect mono) 1 (if mono then 2 else n + 2) (w * h * n) w h st.bg data []

def tile (data : Picture (Pixel n)) (w h : ℕ) : List UInt8 × HextileState n :=
  let t := testColours blackPixel (rowPixels data w h)
  let b := st.specifyBg t.bg
  if t.solid then (putU8 b.1 ++ b.2.1, b.2.2)
  else
    let f := b.2.2.subrectColours t
    match f.2.2.tileSubrects t.mono data w h with
    | none =>
      (putU8 rfbHextileRaw ++ pixelBytes (rowPixels data w h), { f.2.2 with validBg := false, validFg := false })
    | some e =>
      (putU8 (b.1 ||| rfbHextileAnySubrects ||| f.1) ++ (b.2.1 ++ (f.2.1 ++ (putU8 e.numsubs ++ e.after))), f.2.2)

end HextileState

def tileStarts (lo hi : ℕ) : List ℕ := if lo < hi then lo :: tileStarts (lo + 16) hi else []
termination_by hi - lo

structure HexTile where
  x : ℕ
  y : ℕ
  w : ℕ
  h : ℕ

def hexTiles (rx ry rw rh : ℕ) : List HexTile :=
  (tileStarts ry (ry + rh)).flatMap fun y =>
    (tileStarts rx (rx + rw)).map fun x => ⟨x, y, min 16 (rx + rw - x), min 16 (ry + rh - y)⟩

def tileBytes (n : ℕ) : ℕ := 1 + (2 + 16 * 16) * n

def sendHextile (view : Picture (Pixel n)) (s : HextileState n × UpdateBuf) (t : HexTile) :
    Option (HextileState n × UpdateBuf) := do
  let sent := s.1.tile (fun i j => view (t.x + i) (t.y + j)) t.w t.h
  let cl ← (s.2.makeRoom (tileBytes n)).put sent.1
  pure (sent.2, cl)

def rfbSendRectEncodingHextile (view : Picture (Pixel n)) (x y w h : ℕ) (cl : UpdateBuf) : Option UpdateBuf := do
  let cl ← (cl.makeRoom 12).put (RectHeader.put ⟨x, y, w, h, rfbEncodingHextile⟩)
  let s ← (hexTiles x y w h).foldlM (sendHextile view) (⟨false, blackPixel, false, blackPixel⟩, cl)
  pure s.2

structure HextileClient (n : ℕ) where
  bg : Pixel n
  fg : Pixel n
  pic : Picture (Pixel n)

namespace HextileClient

def readPacked : Reader (ℕ × ℕ × ℕ × ℕ) := do
  let xy ← readU8
  let wh ← readU8
  pure (rfbHextileExtractX xy, rfbHextileExtractY xy, rfbHextileExtractW wh, rfbHextileExtractH wh)

def drawColoured (x y : ℕ) (c : HextileClient n) : Reader (HextileClient n) := do
  let fg ← readPixel
  let (sx, sy, sw, sh) ← readPacked
  pure { c with fg := fg, pic := fillRectangle (x + sx) (y + sy) sw sh fg c.pic }

def drawMono (x y : ℕ) (c : HextileClient n) : Reader (HextileClient n) := do
  let (sx, sy, sw, sh) ← readPacked
  pure { c with pic := fillRectangle (x + sx) (y + sy) sw sh c.fg c.pic }

def specified (subencoding flag : ℕ) (old : Pixel n) : Reader (Pixel n) :=
  if subencoding &&& flag ≠ 0 then readPixel else pure old

def tileSubrects (t : HexTile) (subencoding : ℕ) (c : HextileClient n) : Reader (HextileClient n) :=
  if subencoding &&& rfbHextileAnySubrects = 0 then pure c
  else do
    let nSubrects ← readU8
    if subencoding &&& rfbHextileSubrectsColoured ≠ 0 then times (drawColoured t.x t.y) nSubrects c
    else times (drawMono t.x t.y) nSubrects c

def tile (t : HexTile) (c : HextileClient n) : Reader (HextileClient n) := do
  let subencoding ← readU8
  if subencoding &&& rfbHextileRaw ≠ 0 then
    let buffer ← readPixels (t.w * t.h)
    pure { c with pic := copyRectangle buffer t.x t.y t.w t.h c.pic }
  else
    let bg ← specified subencoding rfbHextileBackgroundSpecified c.bg
    let pic := fillRectangle t.x t.y t.w t.h bg c.pic
    let fg ← specified subencoding rfbHextileForegroundSpecified c.fg
    tileSubrects t subencoding ⟨bg, fg, pic⟩

end HextileClient

/-- `bg` and `fg` are the values that the client's uninitialised variables happen to have. -/
def handleHextile (bg fg : Pixel n) (r : RectHeader) (pic : Picture (Pixel n)) : Reader (Picture (Pixel n)) := do
  let c ← (hexTiles r.x r.y r.w r.h).foldlM (fun c t => HextileClient.tile t c) (⟨bg, fg, pic⟩ : HextileClient n)
  pure c.pic

structure Sync (st : HextileState n) (c : HextileClient n) : Prop where
  bg : st.validBg = true → c.bg = st.bg
  fg : st.validFg = true → c.fg = st.fg

def Names (flag bit : ℕ) (bytes : List UInt8) (old new : Pixel n) : Prop :=
  (flag = bit ∧ bytes = new.1) ∨ (flag = 0 ∧ bytes = [] ∧ old = new)

lemma Names.length_le {flag bit : ℕ} {bytes : List UInt8} {old new : Pixel n} (h : Names flag bit bytes old new) :
    bytes.length ≤ n := by
  obtain ⟨-, rfl⟩ | ⟨-, rfl, -⟩ := h
  · exact new.2.le
  · exact Nat.zero_le n

lemma Names.flag_eq {flag bit : ℕ} {bytes : List UInt8} {old new : Pixel n} (h : Names flag bit bytes old new) :
    flag = bit ∨ flag = 0 := h.imp And.left And.left

namespace HextileState

variable {st : HextileState n} {c : HextileClient n} {data : Picture (Pixel n)} {w h : ℕ}

lemma specifyBg_spec (hs : Sync st c) (newBg : Pixel n) :
    ∃ flag bytes, st.specifyBg newBg = (flag, bytes, ⟨true, newBg, st.validFg, st.fg⟩) ∧
      Names flag rfbHextileBackgroundSpecified bytes c.bg newBg := by
  unfold specifyBg
  split_ifs with hc
  · exact ⟨_, _, rfl, .inl ⟨rfl, rfl⟩⟩
  · obtain ⟨hvalid, hsame⟩ : st.validBg = true ∧ newBg = st.bg := by simpa [not_or] using hc
    refine ⟨_, _, ?_, .inr ⟨rfl, rfl, (hs.bg hvalid).trans hsame.symm⟩⟩
    rw [hsame, ← hvalid]

lemma specifyFg_spec (hs : Sync st c) (newFg : Pixel n) :
    ∃ flag bytes, st.specifyFg newFg = (flag, bytes, ⟨st.validBg, st.bg, true, newFg⟩) ∧
      Names flag rfbHextileForegroundSpecified bytes c.fg newFg := by
  unfold specifyFg
  split_ifs with hc
  · exact ⟨_, _, rfl, .inl ⟨rfl, rfl⟩⟩
  · obtain ⟨hvalid, hsame⟩ : st.validFg = true ∧ newFg = st.fg := by simpa [not_or] using hc
    refine ⟨_, _, ?_, .inr ⟨rfl, rfl, (hs.fg hvalid).trans hsame.symm⟩⟩
    rw [hsame, ← hvalid]

lemma subrectColours_spec (hs : Sync st c) (k : TileColours (Pixel n)) :
    ∃ ff fb fg st', st.subrectColours k = (ff, fb, st') ∧ st'.bg = st.bg ∧
      Names (ff &&& rfbHextileForegroundSpecified) rfbHextileForegroundSpecified fb c.fg fg ∧
      ((ff = rfbHextileForegroundSpecified ∨ ff = 0) ∨ ff = rfbHextileSubrectsColoured) ∧
      ff &&& rfbHextileSubrectsColoured = (if k.mono then 0 else rfbHextileSubrectsColoured) ∧
      (k.mono = true → fg = k.fg) ∧ (st'.validFg = true → k.mono = true ∧ st'.fg = fg) := by
  cases hmono : k.mono with
  | true =>
    obtain ⟨ff, fb, hf, hn⟩ := specifyFg_spec hs k.fg
    have hflag := hn.flag_eq
    refine ⟨ff, fb, k.fg, ⟨st.validBg, st.bg, true, k.fg⟩,
      by simp only [subrectColours, hmono, if_true, hf], rfl, ?_,
      .inl hflag, ?_, fun _ => rfl, fun _ => ⟨rfl, rfl⟩⟩
    · obtain rfl | rfl := hflag <;> exact hn
    · obtain rfl | rfl := hflag <;> rfl
  | false =>
    refine ⟨rfbHextileSubrectsColoured, [], c.fg, { st with validFg := false }, ?_, rfl,
      .inr ⟨by decide, rfl, rfl⟩,
      .inr rfl, rfl, fun h => absurd h (by simp), fun h => absurd h (by simp)⟩
    simp [subrectColours, hmono]

lemma tile_cases (st : HextileState n) (data : Picture (Pixel n)) (w h : ℕ) :
    let t := testColours blackPixel (rowPixels data w h)
    let b := st.specifyBg t.bg
    let f := b.2.2.subrectColours t
    (t.solid = true ∧ st.tile data w h = (putU8 b.1 ++ b.2.1, b.2.2)) ∨
      st.tile data w h = (putU8 rfbHextileRaw ++ pixelBytes (rowPixels data w h),
        { f.2.2 with validBg := false, validFg := false }) ∨
      ∃ e, f.2.2.tileSubrects t.mono data w h = some e ∧
        st.tile data w h = (putU8 (b.1 ||| rfbHextileAnySubrects ||| f.1) ++
          (b.2.1 ++ (f.2.1 ++ (putU8 e.numsubs ++ e.after))), f.2.2) := by
  intro t b f
  by_cases hsolid : t.solid = true
  · exact .inl ⟨hsolid, if_pos hsolid⟩
  · have htile : st.tile data w h = match f.2.2.tileSubrects t.mono data w h with
        | none => (putU8 rfbHextileRaw ++ pixelBytes (rowPixels data w h),
          { f.2.2 with validBg := false, validFg := false })
        | some e => (putU8 (b.1 ||| rfbHextileAnySubrects ||| f.1) ++
          (b.2.1 ++ (f.2.1 ++ (putU8 e.numsubs ++ e.after))), f.2.2) := if_neg hsolid
    rw [htile]
    cases f.2.2.tileSubrects t.mono data w h with
    | none => exact .inr (.inl rfl)
    | some e => exact .inr (.inr ⟨e, rfl, rfl⟩)

end HextileState

namespace HextileClient

variable {st : HextileState n} {c : HextileClient n} {data : Picture (Pixel n)} {w h x y : ℕ}
  {subs : List (Patch (Pixel n))}

lemma reads_specified {sub flag bit : ℕ} {bytes : List UInt8} {old new : Pixel n} (hn : Names flag bit bytes old new)
    (hbit : bit ≠ 0) (hsub : sub &&& bit = flag) : Reads (specified sub bit old) bytes new := by
  obtain ⟨rfl, rfl⟩ | ⟨rfl, rfl, rfl⟩ := hn
  · rw [specified, hsub, if_pos hbit]
    exact Reads.pixel new
  · rw [specified, hsub, if_neg (not_not.mpr rfl)]
    exact Reads.pure old

def TileSubs (w h : ℕ) (subs : List (Patch (Pixel n))) : Prop :=
  (w ≤ 16 ∧ h ≤ 16) ∧ ∀ s ∈ subs, s.Within w h ∧ 0 < s.w ∧ 0 < s.h

lemma reads_packed {s : Patch (Pixel n)} (hsubs : TileSubs w h subs) (hs : s ∈ subs) :
    Reads readPacked (putU8 (rfbHextilePackXY s.x s.y) ++ putU8 (rfbHextilePackWH s.w s.h)) (s.x, s.y, s.w, s.h) := by
  obtain ⟨⟨hw, hh⟩, hin⟩ := hsubs
  obtain ⟨⟨hx, hy⟩, hpos⟩ := hin s hs
  obtain ⟨hxy, hsx, hsy⟩ := extract_packXY (show s.x < 16 by omega) (show s.y < 16 by omega)
  obtain ⟨hwh, hsw, hsh⟩ := extract_packWH (show 0 < s.w ∧ s.w ≤ 16 by omega)
    (show 0 < s.h ∧ s.h ≤ 16 by omega)
  have hread : Reads readPacked _ _ := (Reads.u8 hxy).bind ((Reads.u8 hwh).finish fun wh =>
    (rfbHextileExtractX (rfbHextilePackXY s.x s.y), rfbHextileExtractY (rfbHextilePackXY s.x s.y),
      rfbHextileExtractW wh, rfbHextileExtractH wh))
  rwa [hsx, hsy, hsw, hsh] at hread

lemma reads_drawMono (hsubs : TileSubs w h subs) (hfg : ∀ s ∈ subs, s.pix = c.fg) :
    Reads (times (drawMono x y) subs.length c) (subs.flatMap (putHextileSubrect true))
      { c with pic := paint (subs.map (Patch.shift x y)) c.pic } := by
  have hfold (subs : List (Patch (Pixel n))) : ∀ c : HextileClient n, (∀ s ∈ subs, s.pix = c.fg) →
      subs.foldl (fun c s => { c with pic := fillRectangle (x + s.x) (y + s.y) s.w s.h c.fg c.pic }) c =
        { c with pic := paint (subs.map (Patch.shift x y)) c.pic } := by
    induction subs with
    | nil => exact fun c _ => rfl
    | cons s subs ih =>
      intro c hc
      obtain ⟨hs, hrest⟩ := List.forall_mem_cons.mp hc
      rw [List.foldl_cons, ih _ (by exact hrest), List.map_cons, paint_cons]
      simp only [fillRectangle, Patch.shift, hs]
  rw [← hfold subs c hfg]
  refine Reads.times fun s hs c => ?_
  exact (reads_packed hsubs hs).finish fun p =>
    { c with pic := fillRectangle (x + p.1) (y + p.2.1) p.2.2.1 p.2.2.2 c.fg c.pic }

lemma reads_drawColoured (hsubs : TileSubs w h subs) :
    ∃ fg, Reads (times (drawColoured x y) subs.length c) (subs.flatMap (putHextileSubrect false))
      { c with fg := fg, pic := paint (subs.map (Patch.shift x y)) c.pic } := by
  have hfold (subs : List (Patch (Pixel n))) : ∀ c : HextileClient n, ∃ fg,
      subs.foldl (fun c s => { c with fg := s.pix, pic := fillRectangle (x + s.x) (y + s.y) s.w s.h s.pix c.pic }) c =
        { c with fg := fg, pic := paint (subs.map (Patch.shift x y)) c.pic } := by
    induction subs with
    | nil => exact fun c => ⟨c.fg, rfl⟩
    | cons s subs ih =>
      intro c
      rw [List.foldl_cons]
      exact ih _
  obtain ⟨fg, hfg⟩ := hfold subs c
  refine ⟨fg, ?_⟩
  rw [← hfg]
  refine Reads.times fun s hs c => ?_
  exact (Reads.pixel s.pix).bind ((reads_packed hsubs hs).finish fun p =>
    { c with fg := s.pix, pic := fillRectangle (x + p.1) (y + p.2.1) p.2.2.1 p.2.2.2 s.pix c.pic })

end HextileClient

lemma subencoding_flags {bf ff : ℕ} (hb : bf = rfbHextileBackgroundSpecified ∨ bf = 0)
    (hf : (ff = rfbHextileForegroundSpecified ∨ ff = 0) ∨ ff = rfbHextileSubrectsColoured) :
    (bf ||| rfbHextileAnySubrects ||| ff < 2 ^ 8 ∧ (bf ||| rfbHextileAnySubrects ||| ff) &&& rfbHextileRaw = 0) ∧
      (bf ||| rfbHextileAnySubrects ||| ff) &&& rfbHextileBackgroundSpecified = bf ∧
      (bf ||| rfbHextileAnySubrects ||| ff) &&& rfbHextileAnySubrects ≠ 0 ∧
      (bf ||| rfbHextileAnySubrects ||| ff) &&& rfbHextileForegroundSpecified =
        ff &&& rfbHextileForegroundSpecified ∧
      (bf ||| rfbHextileAnySubrects ||| ff) &&& rfbHextileSubrectsColoured = ff &&& rfbHextileSubrectsColoured := by
  obtain rfl | rfl := hb <;> obtain (rfl | rfl) | rfl := hf <;> decide

namespace HextileClient

variable {st : HextileState n} {c c' : HextileClient n} {data : Picture (Pixel n)} {w h x y : ℕ} {t : HexTile}

lemma reads_tile_colours {sub bf ff : ℕ} {bb fb rest : List UInt8} {bg fg : Pixel n}
    (hsub : sub < 2 ^ 8 ∧ sub &&& rfbHextileRaw = 0) (hb : Names bf rfbHextileBackgroundSpecified bb c.bg bg)
    (hbs : sub &&& rfbHextileBackgroundSpecified = bf) (hf : Names ff rfbHextileForegroundSpecified fb c.fg fg)
    (hfs : sub &&& rfbHextileForegroundSpecified = ff)
    (hrest : Reads (tileSubrects t sub ⟨bg, fg, fillRectangle t.x t.y t.w t.h bg c.pic⟩) rest c') :
    Reads (tile t c) (putU8 sub ++ (bb ++ (fb ++ rest))) c' := by
  refine (Reads.u8 hsub.1).bind ?_
  rw [if_neg (not_not.mpr hsub.2)]
  exact (reads_specified hb (by decide) hbs).bind ((reads_specified hf (by decide) hfs).bind hrest)

lemma tile_subs {mono : Bool} {e : Encoded (Pixel n)} (hw : w ≤ 16) (hh : h ≤ 16)
    (hbg : st.bg ∈ rowPixels data w h) (he : st.tileSubrects mono data w h = some e) :
    ∃ subs, Progress (putHextileSubrect mono) 1 (w * h * n) w h st.bg data [] (scan w h) e subs ∧
      subs.length < 2 ^ 8 ∧ TileSubs w h subs := by
  have hput (s : Patch (Pixel n)) : (putHextileSubrect mono s).length = if mono then 2 else n + 2 := by
    cases mono
    · simp [putHextileSubrect, s.pix.2]
    · simp [putHextileSubrect]
  obtain ⟨subs, hp⟩ := subrectEncode_progress hput he
  obtain ⟨i, hi, j, hj, hij⟩ := mem_rowPixels.mp hbg
  have hlt := hp.numsubs_lt hi hj hij
  have hle : w * h ≤ 16 * 16 := Nat.mul_le_mul hw hh
  exact ⟨subs, hp, by omega, ⟨hw, hh⟩, hp.within⟩

lemma reads_tileSubrects {mono : Bool} {sub limit : ℕ} {e : Encoded (Pixel n)} {subs : List (Patch (Pixel n))}
    {bg fg : Pixel n} (pic : Picture (Pixel n))
    (hp : Progress (putHextileSubrect mono) 1 limit t.w t.h bg data [] (scan t.w t.h) e subs)
    (hlt : subs.length < 2 ^ 8) (hts : TileSubs t.w t.h subs) (hfg : mono = true → ∀ s ∈ subs, s.pix = fg)
    (hany : sub &&& rfbHextileAnySubrects ≠ 0)
    (hcol : sub &&& rfbHextileSubrectsColoured = if mono then 0 else rfbHextileSubrectsColoured) :
    ∃ c', Reads (tileSubrects t sub ⟨bg, fg, fillRectangle t.x t.y t.w t.h bg pic⟩)
    (putU8 e.numsubs ++ e.after) c' ∧
      c'.bg = bg ∧ (mono = true → c'.fg = fg) ∧ c'.pic = place t.x t.y t.w t.h data pic := by
  have hpic : paint (subs.map (Patch.shift t.x t.y)) (fillRectangle t.x t.y t.w t.h bg pic) = _ :=
    paint_background (fun s hs => (hts.2 s hs).1) hp.painted
  rw [tileSubrects, if_neg hany, hp.numsubs_eq, hp.after_eq, List.nil_append]
  cases mono with
  | true =>
    refine ⟨⟨bg, fg, _⟩, (Reads.u8 hlt).bind ?_, rfl, fun _ => rfl, hpic⟩
    have hplain : sub &&& rfbHextileSubrectsColoured = 0 := hcol
    rw [if_neg (not_not.mpr hplain)]
    exact reads_drawMono hts (hfg rfl)
  | false =>
    obtain ⟨fg', hread⟩ := reads_drawColoured (x := t.x) (y := t.y)
      (c := ⟨bg, fg, fillRectangle t.x t.y t.w t.h bg pic⟩) hts
    refine ⟨⟨bg, fg', _⟩, (Reads.u8 hlt).bind ?_, rfl, fun h => absurd h (by simp), hpic⟩
    rw [if_pos (by rw [hcol]; decide)]
    exact hread

lemma reads_tile_solid {bf : ℕ} {bb : List UInt8} {bg : Pixel n}
    (hb : Names bf rfbHextileBackgroundSpecified bb c.bg bg) (hsolid : ∀ i < t.w, ∀ j < t.h, data i j = bg) :
    Reads (tile t c) (putU8 bf ++ bb) ⟨bg, c.fg, place t.x t.y t.w t.h data c.pic⟩ := by
  have hsub : (bf < 2 ^ 8 ∧ bf &&& rfbHextileRaw = 0) ∧ bf &&& rfbHextileBackgroundSpecified = bf ∧
      bf &&& rfbHextileForegroundSpecified = 0 ∧ bf &&& rfbHextileAnySubrects = 0 := by
    obtain rfl | rfl := hb.flag_eq <;> decide
  have hfill : fillRectangle t.x t.y t.w t.h bg c.pic = place t.x t.y t.w t.h data c.pic :=
    place_congr fun i hi j hj => (hsolid i hi j hj).symm
  have hread : Reads (tile t c) (putU8 bf ++ (bb ++ ([] ++ []))) _ :=
    reads_tile_colours hsub.1 hb hsub.2.1 (.inr ⟨rfl, rfl, rfl⟩) hsub.2.2.1
      (by rw [tileSubrects, if_pos hsub.2.2.2]; exact Reads.pure _)
  rw [← hfill]
  simpa using hread

lemma reads_tile_raw : Reads (tile t c) (putU8 rfbHextileRaw ++ pixelBytes (rowPixels data t.w t.h))
    { c with pic := place t.x t.y t.w t.h data c.pic } := by
  have hpixels := Reads.pixels (rowPixels data t.w t.h)
  rw [length_rowPixels] at hpixels
  refine (Reads.u8 (by decide)).bind ?_
  rw [if_pos (by decide), ← copyRectangle_rowPixels]
  exact hpixels.finish fun buffer => { c with pic := copyRectangle buffer t.x t.y t.w t.h c.pic }

lemma reads_tile (ht : (0 < t.w ∧ t.w ≤ 16) ∧ 0 < t.h ∧ t.h ≤ 16) (hs : Sync st c)
    (data : Picture (Pixel n)) :
    ∃ c', Reads (tile t c) (st.tile data t.w t.h).1 c' ∧ Sync (st.tile data t.w t.h).2 c' ∧
      c'.pic = place t.x t.y t.w t.h data c.pic := by
  have hne : rowPixels data t.w t.h ≠ [] := by
    refine List.ne_nil_of_length_pos ?_
    rw [length_rowPixels]
    exact Nat.mul_pos ht.1.1 ht.2.1
  have hright := testColours_right blackPixel hne
  obtain ⟨bf, bb, hb, hbn⟩ := HextileState.specifyBg_spec hs (testColours blackPixel (rowPixels data t.w t.h)).bg
  have hcases := st.tile_cases data t.w t.h
  simp only [hb] at hcases
  generalize testColours blackPixel (rowPixels data t.w t.h) = k at *
  have hmem (i j : ℕ) (hi : i < t.w) (hj : j < t.h) : data i j ∈ rowPixels data t.w t.h :=
    mem_rowPixels.mpr ⟨i, hi, j, hj, rfl⟩
  obtain ⟨hsolid, heq⟩ | heq | ⟨e, he, heq⟩ := hcases
  · refine ⟨⟨k.bg, c.fg, place t.x t.y t.w t.h data c.pic⟩, ?_, ?_, rfl⟩
    · rw [heq]
      exact reads_tile_solid hbn fun i hi j hj => hright.solid hsolid _ (hmem i j hi hj)
    · rw [heq]
      exact ⟨fun _ => rfl, hs.fg⟩
  · refine ⟨{ c with pic := place t.x t.y t.w t.h data c.pic }, ?_, ?_, rfl⟩
    · rw [heq]
      exact reads_tile_raw
    · rw [heq]
      exact ⟨fun hv => absurd hv Bool.false_ne_true, fun hv => absurd hv Bool.false_ne_true⟩
  · have hsync : Sync ⟨true, k.bg, st.validFg, st.fg⟩ { c with bg := k.bg } := ⟨fun _ => rfl, hs.fg⟩
    obtain ⟨ff, fb, fg, st', hf, hbg, hfn, hflag, hcol, hmono, hvalid⟩ := HextileState.subrectColours_spec hsync k
    rw [hf] at he heq
    obtain ⟨subs, hp, hlt, hts⟩ := tile_subs ht.1.2 ht.2.2 (hbg ▸ hright.bg_mem) he
    rw [hbg] at hp
    have hfg (hm : k.mono = true) (s : Patch (Pixel n)) (hsub : s ∈ subs) : s.pix = fg := by
      obtain ⟨hne, i, hi, j, hj, hij⟩ := hp.colours s hsub
      exact ((hright.mono hm _ (hij ▸ hmem i j hi hj)).resolve_left hne).trans (hmono hm).symm
    obtain ⟨hsub, hbs, hany, hfs, hcs⟩ := subencoding_flags hbn.flag_eq hflag
    obtain ⟨c', hread, hbg', hfg', hpic⟩ := reads_tileSubrects c.pic hp hlt hts hfg hany (hcs.trans hcol)
    refine ⟨c', ?_, ⟨fun _ => ?_, fun hv => ?_⟩, hpic⟩
    · rw [heq]
      exact reads_tile_colours hsub hbn hbs hfn hfs hread
    · rw [heq, hbg', hbg]
    · rw [heq] at hv ⊢
      obtain ⟨hm, hsame⟩ := hvalid hv
      rw [hfg' hm, hsame]

end HextileClient

section tiles

variable {lo hi i : ℕ}

lemma tileStarts_range (lo hi : ℕ) : ∀ x ∈ tileStarts lo hi, lo ≤ x ∧ x < hi := by
  fun_induction tileStarts lo hi with
  | case1 lo hlt ih =>
    intro x hx
    rcases List.mem_cons.mp hx with rfl | hx
    · exact ⟨le_rfl, hlt⟩
    · have hrest := ih x hx
      omega
  | case2 => simp

lemma exists_tileStart (hl : lo ≤ i) (hh : i < hi) :
    ∃ x ∈ tileStarts lo hi, x ≤ i ∧ i < x + min 16 (hi - x) := by
  fun_induction tileStarts lo hi with
  | case1 lo hlt ih =>
    rcases Nat.lt_or_ge i (lo + 16) with hnear | hfar
    · exact ⟨lo, List.mem_cons_self, hl, by omega⟩
    · obtain ⟨x, hx, hin⟩ := ih hfar
      exact ⟨x, List.mem_cons_of_mem _ hx, hin⟩
  | case2 lo hge => omega

lemma mem_hexTiles {rx ry rw rh : ℕ} {t : HexTile} (ht : t ∈ hexTiles rx ry rw rh) :
    ((0 < t.w ∧ t.w ≤ 16) ∧ 0 < t.h ∧ t.h ≤ 16) ∧ (rx ≤ t.x ∧ t.x + t.w ≤ rx + rw) ∧
      ry ≤ t.y ∧ t.y + t.h ≤ ry + rh := by
  simp only [hexTiles, List.mem_flatMap, List.mem_map] at ht
  obtain ⟨y, hy, x, hx, rfl⟩ := ht
  have hxr := tileStarts_range _ _ x hx
  have hyr := tileStarts_range _ _ y hy
  dsimp only
  omega

lemma hexTiles_cover (rx ry rw rh i j : ℕ) :
    (∃ t ∈ hexTiles rx ry rw rh, (t.x ≤ i ∧ i < t.x + t.w) ∧ t.y ≤ j ∧ j < t.y + t.h) ↔
      (rx ≤ i ∧ i < rx + rw) ∧ ry ≤ j ∧ j < ry + rh := by
  constructor
  · rintro ⟨t, ht, hin⟩
    have hmem := mem_hexTiles ht
    omega
  · rintro ⟨⟨hx, hw⟩, hy, hh⟩
    obtain ⟨x, hxs, hxi⟩ := exists_tileStart hx hw
    obtain ⟨y, hys, hyj⟩ := exists_tileStart hy hh
    exact ⟨⟨x, y, _, _⟩, List.mem_flatMap.mpr ⟨y, hys, List.mem_map.mpr ⟨x, hxs, rfl⟩⟩, hxi, hyj⟩

end tiles

section rectangle

variable {w h : ℕ}

lemma length_tile_le (st : HextileState n) (data : Picture (Pixel n)) (hn : 0 < n) (hw : w ≤ 16) (hh : h ≤ 16) :
    (st.tile data w h).1.length ≤ tileBytes n := by
  unfold tileBytes
  have hsize : w * h * n ≤ 16 * 16 * n := Nat.mul_le_mul_right n (Nat.mul_le_mul hw hh)
  have hexpand : (2 + 16 * 16) * n = n + n + 16 * 16 * n := by ring
  have hs : Sync st (⟨st.bg, st.fg, fun _ _ => blackPixel⟩ : HextileClient n) := ⟨fun _ => rfl, fun _ => rfl⟩
  obtain ⟨bf, bb, hb, hbn⟩ := HextileState.specifyBg_spec hs (testColours blackPixel (rowPixels data w h)).bg
  have hsync : Sync ⟨true, (testColours blackPixel (rowPixels data w h)).bg, st.validFg, st.fg⟩
      (⟨(testColours blackPixel (rowPixels data w h)).bg, st.fg, fun _ _ => blackPixel⟩ : HextileClient n) :=
    ⟨fun _ => rfl, fun _ => rfl⟩
  obtain ⟨ff, fb, fg, st', hf, -, hfn, -⟩ :=
    HextileState.subrectColours_spec hsync (testColours blackPixel (rowPixels data w h))
  have hblen := hbn.length_le
  have hflen := hfn.length_le
  have hcases := st.tile_cases data w h
  simp only [hb, hf] at hcases
  obtain ⟨-, heq⟩ | heq | ⟨e, he, heq⟩ := hcases
  · rw [heq, List.length_append, length_putU8]
    omega
  · rw [heq, List.length_append, length_putU8, length_pixelBytes, length_rowPixels]
    omega
  · have hput (s : Patch (Pixel n)) : (putHextileSubrect (testColours blackPixel (rowPixels data w h)).mono s).length =
        if (testColours blackPixel (rowPixels data w h)).mono then 2 else n + 2 := by
      cases (testColours blackPixel (rowPixels data w h)).mono
      · simp [putHextileSubrect, s.pix.2]
      · simp [putHextileSubrect]
    obtain ⟨subs, hp⟩ := subrectEncode_progress hput he
    have hafter : 1 + e.after.length ≤ 16 * 16 * n := by
      rcases eq_or_ne subs [] with rfl | hne
      · rw [hp.after_eq, List.flatMap_nil, List.append_nil, List.length_nil]
        omega
      · exact (hp.small hne).trans hsize
    rw [heq]
    simp only [List.length_append, length_putU8]
    omega

lemma emits_tiles (view : Picture (Pixel n)) (hn : 0 < n) (hbuf : tileBytes n ≤ updateBufSize)
    {ts : List HexTile} (hts : ∀ t ∈ ts, (0 < t.w ∧ t.w ≤ 16) ∧ 0 < t.h ∧ t.h ≤ 16)
    (st : HextileState n) :
    ∃ bs st', bs.length ≤ ts.length * tileBytes n ∧
    (∀ cl, ∃ cl', ts.foldlM (sendHextile view) (st, cl) = some (st', cl') ∧
        cl'.stream = cl.stream ++ bs) ∧
      ∀ c, Sync st c → ∃ c', Reads (ts.foldlM (fun c t => HextileClient.tile t c) c) bs c' ∧ Sync st' c' ∧
        c'.pic = ts.foldl (fun pic t => place t.x t.y t.w t.h (fun i j => view (t.x + i) (t.y + j)) pic) c.pic := by
  induction ts generalizing st with
  | nil => exact ⟨[], st, Nat.zero_le _, fun cl => ⟨cl, rfl, by simp⟩, fun c hs =>
      ⟨c, Reads.pure c, hs, rfl⟩⟩
  | cons t ts ih =>
    obtain ⟨ht, hrest⟩ := List.forall_mem_cons.mp hts
    have hlen := length_tile_le st (fun i j => view (t.x + i) (t.y + j)) hn ht.1.2 ht.2.2
    obtain ⟨bs, st', hshort, hsend, hread⟩ := ih hrest (st.tile (fun i j => view (t.x + i) (t.y + j)) t.w t.h).2
    refine ⟨(st.tile (fun i j => view (t.x + i) (t.y + j)) t.w t.h).1 ++ bs, st', ?_, fun cl => ?_, fun c hs => ?_⟩
    · rw [List.length_append, List.length_cons, Nat.succ_mul, Nat.add_comm]
      exact Nat.add_le_add hshort hlen
    · obtain ⟨cl₁, hput, hstream⟩ := Emits.put_room hbuf hlen cl
      obtain ⟨cl₂, hfold, hstream'⟩ := hsend cl₁
      refine ⟨cl₂, ?_, by rw [hstream', hstream, List.append_assoc]⟩
      rw [List.foldlM_cons, sendHextile]
      simp only [hput]
      exact hfold
    · obtain ⟨c₁, htile, hs₁, hpic⟩ := HextileClient.reads_tile ht hs fun i j => view (t.x + i) (t.y + j)
      obtain ⟨c₂, hfold, hs₂, hpic'⟩ := hread c₁ hs₁
      refine ⟨c₂, ?_, hs₂, ?_⟩
      · rw [List.foldlM_cons]
        exact htile.bind hfold
      · rw [hpic', hpic, List.foldl_cons]

lemma emits_hextile (view : Picture (Pixel n)) (hn : 0 < n) (hbuf : tileBytes n ≤ updateBufSize)
    (x y w h : ℕ) :
    ∃ bs, bs.length ≤ (hexTiles x y w h).length * tileBytes n ∧ Emits (rfbSendRectEncodingHextile view x y w h)
        (RectHeader.put ⟨x, y, w, h, rfbEncodingHextile⟩ ++ bs) ∧
      ∀ bg fg pic, Reads (handleHextile bg fg ⟨x, y, w, h, rfbEncodingHextile⟩ pic) bs
        ((SentRect.cut view x y w h).draw pic) := by
  have htiles (t : HexTile) (ht : t ∈ hexTiles x y w h) : (0 < t.w ∧ t.w ≤ 16) ∧ 0 < t.h ∧ t.h ≤ 16 :=
    (mem_hexTiles ht).1
  have hheader : Emits _ (RectHeader.put ⟨x, y, w, h, rfbEncodingHextile⟩) :=
    Emits.put_room (show 12 ≤ updateBufSize by decide) (by simp)
  obtain ⟨bs, st', hshort, hsend, hread⟩ :=
    emits_tiles view hn hbuf htiles ⟨false, blackPixel, false, blackPixel⟩
  refine ⟨bs, hshort, fun cl => ?_, fun bg fg pic => ?_⟩
  · obtain ⟨cl₁, hput, hstream⟩ := hheader cl
    obtain ⟨cl₂, hfold, hstream'⟩ := hsend cl₁
    refine ⟨cl₂, ?_, by rw [hstream', hstream, List.append_assoc]⟩
    simp only [rfbSendRectEncodingHextile, hput, hfold, Option.bind_eq_bind, Option.bind_some, Option.pure_def]
  · obtain ⟨c', hfold, -, hpic⟩ := hread ⟨bg, fg, pic⟩
      ⟨fun hv => absurd hv Bool.false_ne_true, fun hv => absurd hv Bool.false_ne_true⟩
    have hdraw : (SentRect.cut view x y w h).draw pic = c'.pic := by
      rw [hpic, foldl_place view pic HexTile.x HexTile.y HexTile.w HexTile.h, SentRect.draw_cut]
      simp only [hexTiles_cover]
    rw [hdraw]
    exact hfold.finish HextileClient.pic

end rectangle

end AndroidRemote.Rfb
