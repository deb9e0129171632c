import AndroidRemote.Rfb.PixelFormat

/-! Lookup tables of `translate.c` and its templates, and the choice of a client's
translation function. An `int` is a 32-bit vector. -/

namespace AndroidRemote.Rfb

inductive Trap
  | divisionByZero
  deriving DecidableEq, Repr

def divide (a b : BitVec 32) : Except Trap (BitVec 32) :=
  if b = 0 then .error .divisionByZero else .ok (a.sdiv b)

lemma divide_zero (a : BitVec 32) : divide a 0 = .error .divisionByZero := if_pos rfl

lemma divide_ok (a : BitVec 32) {b : BitVec 32} (h : b ≠ 0) : divide a b = .ok (a.sdiv b) := if_neg h

lemma ofNat_ne_zero {m : ℕ} (h : 0 < m ∧ m < 2 ^ 16) : BitVec.ofNat 32 m ≠ 0 := by
  intro he
  have ht := congrArg BitVec.toNat he
  simp only [BitVec.toNat_ofNat, BitVec.ofNat_eq_ofNat] at ht
  omega

def swap16 (s : BitVec 32) : BitVec 32 := ((s &&& 0xff) <<< 8) ||| ((s >>> 8) &&& 0xff)

def swap24 (l : BitVec 32) : BitVec 32 :=
  ((l &&& 0xff) <<< 16) ||| ((l >>> 16) &&& 0xff) ||| (l &&& 0x00ff00)

def swap32 (l : BitVec 32) : BitVec 32 :=
  (l >>> 24) ||| ((l &&& 0x00ff0000) >>> 8) ||| ((l &&& 0x0000ff00) <<< 8) ||| (l <<< 24)

/-- What an entry of `out` bits holds after `t[i] = v` and the conditional byte swap. -/
def storeEntry (out : ℕ) (swap : Bool) (v : BitVec 32) : BitVec 32 :=
  let t := v &&& (BitVec.allOnes 32 >>> (32 - out))
  if swap then
    if out = 16 then swap16 t else if out = 24 then swap24 t else if out = 32 then swap32 t else t
  else t

abbrev LookupTable := List (BitVec 32)

def outColour (inColour inMax outMax : BitVec 32) : Except Trap (BitVec 32) :=
  divide (inColour * outMax + inMax.sdiv 2) inMax

def singleTableEntry (out : ℕ) (i o : PixelFormat) (k : ℕ) : Except Trap (BitVec 32) := do
  let pixel := BitVec.ofNat 32 k
  let inRed := (pixel >>> i.redShift) &&& BitVec.ofNat 32 i.redMax
  let inGreen := (pixel >>> i.greenShift) &&& BitVec.ofNat 32 i.greenMax
  let inBlue := (pixel >>> i.blueShift) &&& BitVec.ofNat 32 i.blueMax
  let outRed ← outColour inRed (.ofNat 32 i.redMax) (.ofNat 32 o.redMax)
  let outGreen ← outColour inGreen (.ofNat 32 i.greenMax) (.ofNat 32 o.greenMax)
  let outBlue ← outColour inBlue (.ofNat 32 i.blueMax) (.ofNat 32 o.blueMax)
  pure (storeEntry out (o.bigEndian != i.bigEndian)
    ((outRed <<< o.redShift) ||| (outGreen <<< o.greenShift) ||| (outBlue <<< o.blueShift)))

def rfbInitTrueColourSingleTable (out : ℕ) (i o : PixelFormat) : Except Trap LookupTable :=
  (List.range (2 ^ i.bitsPerPixel)).mapM (singleTableEntry out i o)

def rfbInitOneRGBTable (out inMax outMax outShift : ℕ) (swap : Bool) : Except Trap LookupTable :=
  (List.range (inMax + 1)).mapM (fun k => do
    let v ← outColour (.ofNat 32 k) (.ofNat 32 inMax) (.ofNat 32 outMax)
    pure (storeEntry out swap (v <<< outShift)))

def rfbInitTrueColourRGBTables (out : ℕ) (i o : PixelFormat) : Except Trap LookupTable := do
  let swap := o.bigEndian != i.bigEndian
  let redTable ← rfbInitOneRGBTable out i.redMax o.redMax o.redShift swap
  let greenTable ← rfbInitOneRGBTable out i.greenMax o.greenMax o.greenShift swap
  let blueTable ← rfbInitOneRGBTable out i.blueMax o.blueMax o.blueShift swap
  pure (redTable ++ greenTable ++ blueTable)

structure ColourMap where
  count : ℕ
  is16 : Bool
  data : List ℕ
  deriving DecidableEq, Repr

def rfbInitColourMapSingleTable (out : ℕ) (i o : PixelFormat) (colourMap : ColourMap) : LookupTable :=
  let shift := if colourMap.is16 then 16 else 8
  let colour (k c : ℕ) : BitVec 32 :=
    if k < colourMap.count then .ofNat 32 (colourMap.data.getD (3 * k + c) 0) else 0
  (List.range (2 ^ i.bitsPerPixel)).map (fun k =>
    storeEntry out (o.bigEndian != i.bigEndian)
      ((((colour k 0 * (1 + .ofNat 32 o.redMax)) >>> shift) <<< o.redShift) |||
        (((colour k 1 * (1 + .ofNat 32 o.greenMax)) >>> shift) <<< o.greenShift) |||
        (((colour k 2 * (1 + .ofNat 32 o.blueMax)) >>> shift) <<< o.blueShift)))

inductive TranslateFn
  | rfbTranslateNone
  | rfbTranslateWithSingleTable (inBpp outBpp : ℕ)
  | rfbTranslateWithRGBTables (inBpp outBpp : ℕ)
  deriving DecidableEq, Repr

/-- The part of `rfbClientRec` that following a new framebuffer reads or writes;
`writable` says whether `rfbWriteExact` to the client succeeds. -/
structure RfbClient where
  format : PixelFormat
  translateFn : TranslateFn
  translateLookupTable : Option LookupTable
  connected : Bool
  writable : Bool
  useNewFBSize : Bool
  newFBSizePending : Bool
  deriving DecidableEq, Repr

def rfbCloseClient (cl : RfbClient) : RfbClient := { cl with connected := false }

def rfbEconomicTranslate : Bool := false

def chooseTranslation (server : PixelFormat) (colourMap : ColourMap) (cl : RfbClient) :
    Except Trap RfbClient :=
  if PfEq cl.format server then
    .ok { cl with translateFn := .rfbTranslateNone }
  else if server.bitsPerPixel < 16 ∨
      ((server.trueColour = false ∨ rfbEconomicTranslate = false) ∧ server.bitsPerPixel = 16) then do
    let table ← if server.trueColour then
        rfbInitTrueColourSingleTable cl.format.bitsPerPixel server cl.format
      else pure (rfbInitColourMapSingleTable cl.format.bitsPerPixel server cl.format colourMap)
    pure { cl with
      translateFn := .rfbTranslateWithSingleTable server.bitsPerPixel cl.format.bitsPerPixel
      translateLookupTable := some table }
  else do
    let table ← rfbInitTrueColourRGBTables cl.format.bitsPerPixel server cl.format
    pure { cl with
      translateFn := .rfbTranslateWithRGBTables server.bitsPerPixel cl.format.bitsPerPixel
      translateLookupTable := some table }

/-- Every caller ignores the returned flag; a client that cannot be served is closed. -/
def rfbSetTranslateFunction (server : PixelFormat) (colourMap : ColourMap) (cl : RfbClient) :
    Except Trap RfbClient :=
  if ¬ ValidBpp server.bitsPerPixel then .ok (rfbCloseClient cl)
  else if ¬ ValidBpp cl.format.bitsPerPixel then .ok (rfbCloseClient cl)
  else if cl.format.trueColour then chooseTranslation server colourMap cl
  else if cl.format.bitsPerPixel ≠ 8 then .ok (rfbCloseClient cl)
  else if cl.writable then chooseTranslation server colourMap { cl with format := bgr233Format }
  else .ok (rfbCloseClient cl)

end AndroidRemote.Rfb
