import AndroidRemote.Library.Memory
import AndroidRemote.Rfb.Screen

/-! The file-scope variables of `fbvncserver.c`. Pixel indices are unbounded integers: where the
virtual screen has fewer than `2 ^ 31` pixels none of them wraps (`machine_visitAt`). The bit count
of a whole picture may well reach `2 ^ 32`, so lengths of copies are taken in 32 bits. -/

namespace AndroidRemote.Display

open AndroidRemote.Library AndroidRemote.Rfb

structure FbBitfield where
  offset : ℕ
  length : ℕ
  deriving DecidableEq, Repr

structure FbVarScreeninfo where
  xres : ℕ
  yres : ℕ
  xresVirtual : ℕ
  yresVirtual : ℕ
  xoffset : ℕ
  yoffset : ℕ
  bitsPerPixel : ℕ
  red : FbBitfield
  green : FbBitfield
  blue : FbBitfield
  deriving DecidableEq, Repr

structure FbVarScreeninfo.Visible (s : FbVarScreeninfo) : Prop where
  xres_pos : 1 ≤ s.xres
  yres_pos : 1 ≤ s.yres
  columns : s.xoffset + s.xres ≤ s.xresVirtual
  rows : s.yoffset + s.yres ≤ s.yresVirtual

def pixelToVirtualPixel (s : FbVarScreeninfo) (i j : ℤ) : ℤ :=
  (j + s.yoffset) * s.xresVirtual + i + s.xoffset

inductive Out
  | out8
  | out16
  | out32
  deriving DecidableEq, Repr

def Out.bits : Out → ℕ
  | .out8 => 8
  | .out16 => 16
  | .out32 => 32

abbrev OutT (out : Out) := BitVec out.bits

structure Rect where
  x1 : ℤ
  y1 : ℤ
  x2 : ℤ
  y2 : ℤ
  deriving DecidableEq, Repr

/-- `i` and `j` are the static loop variables of `update_screen_OUT`; `marked` is the
rectangle last passed to `rfbMarkRectAsModified`. -/
structure FbVncServer (out : Out) where
  scrinfo : FbVarScreeninfo
  fbmmap : Memory (OutT out)
  vncbuf : Memory (OutT out)
  cmpbuf : Memory (OutT out)
  vncscr : RfbScreenInfo
  idle : Bool
  testMode : ℤ
  rotation : ℕ
  i : ℤ
  j : ℤ
  marked : Option Rect

/-- `vncscr` has room for the picture, upright or sideways, in the depth of this `OUT`. -/
structure FbVncServer.Fitted {out : Out} (g : FbVncServer out) : Prop where
  bpp : g.scrinfo.bitsPerPixel = out.bits
  area : g.vncscr.width * g.vncscr.height = g.scrinfo.xres * g.scrinfo.yres

/-- The cells of the picture that a copy of all of it reaches, in 32 bits for the bit count. -/
def FbVncServer.reached {out : Out} (g : FbVncServer out) : ℕ :=
  g.scrinfo.xres * g.scrinfo.yres % (2 ^ 32 / out.bits)

def FbVncServer.window {out : Out} (g : FbVncServer out) (i j : ℕ) : OutT out :=
  g.fbmmap (pixelToVirtualPixel g.scrinfo i j)

def destination (rotation : ℕ) (s : FbVarScreeninfo) (i j : ℤ) : ℤ :=
  if rotation = 0 then i + j * s.xres
  else if rotation = 90 then (s.yres - 1 - j) + i * s.yres
  else if rotation = 180 then (s.xres - 1 - i) + (s.yres - 1 - j) * s.xres
  else j + (s.xres - 1 - i) * s.yres

end AndroidRemote.Display
