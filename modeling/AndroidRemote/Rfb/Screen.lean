import AndroidRemote.Library.Fallible
import AndroidRemote.Rfb.Translate

/-! The screen record of LibVNCServer and its change to another framebuffer. -/

namespace AndroidRemote.Rfb

structure RfbScreenInfo where
  width : ℕ
  height : ℕ
  bitsPerPixel : ℕ
  depth : ℕ
  paddedWidthInBytes : ℕ
  serverFormat : PixelFormat
  colourMap : ColourMap
  cursorX : ℤ
  cursorY : ℤ
  clients : List RfbClient
  deriving DecidableEq, Repr

/-- The library is configured without `LIBVNCSERVER_WORDS_BIGENDIAN`. -/
def rfbEndianTest : Bool := true

def initialFormat (bitsPerPixel depth bitsPerSample : ℕ) : PixelFormat :=
  let bpp := bitsPerPixel % 256
  let max := maxOfLength bitsPerSample
  if bpp = 8 then
    ⟨bpp, depth % 256, !rfbEndianTest, true, 7, 7, 3, 0, 3, 6⟩
  else if rfbEndianTest then
    ⟨bpp, depth % 256, !rfbEndianTest, true, max, max, max,
      0, bitsPerSample % 256, bitsPerSample * 2 % 256⟩
  else if bpp = 8 * 3 then
    ⟨bpp, depth % 256, !rfbEndianTest, true, max, max, max,
      bitsPerSample * 2 % 256, bitsPerSample % 256, 0⟩
  else
    ⟨bpp, depth % 256, !rfbEndianTest, true, max, max, max,
      bitsPerSample * 3 % 256, bitsPerSample * 2 % 256, bitsPerSample % 256⟩

def rfbInitServerFormat (screen : RfbScreenInfo) (bitsPerSample : ℕ) : RfbScreenInfo :=
  { screen with
    serverFormat := initialFormat screen.bitsPerPixel screen.depth bitsPerSample
    colourMap := ⟨0, false, []⟩ }

/-- The record comes from `calloc`. -/
def rfbGetScreen (width height bitsPerSample bytesPerPixel : ℕ) : RfbScreenInfo :=
  rfbInitServerFormat
    { width := width
      height := height
      bitsPerPixel := 8 * bytesPerPixel
      depth := 8 * bytesPerPixel
      paddedWidthInBytes := width * bytesPerPixel
      serverFormat := ⟨0, 0, false, false, 0, 0, 0, 0, 0, 0⟩
      colourMap := ⟨0, false, []⟩
      cursorX := 0
      cursorY := 0
      clients := [] } bitsPerSample

/-- One turn of the client loop of `rfbNewFramebuffer`; the iterator skips closed clients. -/
def followFramebuffer (screen : RfbScreenInfo) (formatChanged : Bool) (cl : RfbClient) :
    Except Trap RfbClient :=
  if cl.connected then do
    let cl ← if formatChanged then rfbSetTranslateFunction screen.serverFormat screen.colourMap cl
      else pure cl
    pure (if cl.useNewFBSize then { cl with newFBSizePending := true } else cl)
  else .ok cl

def rfbNewFramebuffer (screen : RfbScreenInfo) (width height bitsPerSample bytesPerPixel : ℕ) :
    Except Trap RfbScreenInfo := do
  let oldFormat := screen.serverFormat
  let resized := { screen with
    width := width
    height := height
    bitsPerPixel := 8 * bytesPerPixel
    depth := 8 * bytesPerPixel
    paddedWidthInBytes := width * bytesPerPixel }
  let formatted := rfbInitServerFormat resized bitsPerSample
  let formatChanged := decide (formatted.serverFormat ≠ oldFormat)
  let pointed := { formatted with
    cursorX := if formatted.cursorX ≥ width then (width : ℤ) - 1 else formatted.cursorX
    cursorY := if formatted.cursorY ≥ height then (height : ℤ) - 1 else formatted.cursorY }
  let clients ← pointed.clients.mapM (followFramebuffer pointed formatChanged)
  pure { pointed with clients := clients }

end AndroidRemote.Rfb
