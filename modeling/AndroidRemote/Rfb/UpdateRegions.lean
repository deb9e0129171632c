import AndroidRemote.Rfb.UpdateMessage
import Mathlib.Tactic

/-! What a client is still owed: the regions modified, requested and to be copied, and how marking,
copying, requesting and sending change them. The client has asked for no pseudo-encodings, so the
server draws the cursor. -/

namespace AndroidRemote.Rfb

open Library

variable {β : Type} {n : ℕ}

abbrev ScreenRegion := Region (fun a b : ℤ => a < b)

/-- A cursor the server draws. It changes no cell outside its rectangle. -/
structure Cursor (β : Type) where
  xhot : ℤ
  yhot : ℤ
  width : ℤ
  height : ℤ
  nonempty : 0 < width ∧ 0 < height
  rfbShowCursor : ℤ → ℤ → Picture β → Picture β
  only_inside : ∀ x y fb (i j : ℕ),
    ((i, j) : ℤ × ℤ) ∉ rectPixels ⟨x - xhot, y - yhot, x - xhot + width, y - yhot + height⟩ →
      rfbShowCursor x y fb i j = fb i j

/-- `struct timeval`, as `gettimeofday` fills it. -/
structure Timeval where
  sec : ℤ
  usec : ℤ

structure UpdateScreen (β : Type) where
  width : ℕ
  height : ℕ
  frameBuffer : Picture β
  cursorX : ℤ
  cursorY : ℤ
  cursor : Cursor β
  maxRectsPerUpdate : ℕ
  deferUpdateTime : ℤ

structure UpdateClient where
  modifiedRegion : ScreenRegion
  requestedRegion : ScreenRegion
  copyRegion : ScreenRegion
  copyDX : ℤ
  copyDY : ℤ
  useCopyRect : Bool
  cursorX : ℤ
  cursorY : ℤ
  preferredEncoding : PixelEncoding
  startDeferring : Timeval

-- `none` for a rectangle without cells, which would leave the region without its invariant
def createRect (r : Display.Rect) : Option ScreenRegion :=
  if h : r.x1 < r.x2 ∧ r.y1 < r.y2 then some (Region.rect r h.1 h.2) else none

def rfbNewClient (screen : UpdateScreen β) : Option UpdateClient := do
  let modifiedRegion ← createRect ⟨0, 0, screen.width, screen.height⟩
  pure {
    modifiedRegion := modifiedRegion
    requestedRegion := Region.empty
    copyRegion := Region.empty
    copyDX := 0
    copyDY := 0
    useCopyRect := false
    cursorX := screen.cursorX
    cursorY := screen.cursorY
    preferredEncoding := .raw
    startDeferring := ⟨0, 0⟩ }

namespace UpdateClient

def rfbMarkRegionAsModified (cl : UpdateClient) (modRegion : ScreenRegion) : UpdateClient :=
  { cl with modifiedRegion := cl.modifiedRegion.or modRegion }

def rfbMarkRectAsModified (screen : UpdateScreen β) (x1 y1 x2 y2 : ℤ) (cl : UpdateClient) :
    Option UpdateClient :=
  let (x1, x2) := if x2 < x1 then (x2, x1) else (x1, x2)
  let x1 := if x1 < 0 then 0 else x1
  let x2 := if screen.width < x2 then (screen.width : ℤ) else x2
  if x1 = x2 then some cl
  else
    let (y1, y2) := if y2 < y1 then (y2, y1) else (y1, y2)
    let y1 := if y1 < 0 then 0 else y1
    let y2 := if screen.height < y2 then (screen.height : ℤ) else y2
    if y1 = y2 then some cl else (createRect ⟨x1, y1, x2, y2⟩).map cl.rfbMarkRegionAsModified

def cursorRect (screen : UpdateScreen β) (cl : UpdateClient) : Display.Rect :=
  ⟨cl.cursorX - screen.cursor.xhot, cl.cursorY - screen.cursor.yhot,
    cl.cursorX - screen.cursor.xhot + screen.cursor.width,
    cl.cursorY - screen.cursor.yhot + screen.cursor.height⟩

def cursorRegion (screen : UpdateScreen β) (cl : UpdateClient) : ScreenRegion :=
  Region.rect (cl.cursorRect screen) (lt_add_of_pos_right _ screen.cursor.nonempty.1)
    (lt_add_of_pos_right _ screen.cursor.nonempty.2)

/-- `sraRgnOr(cl->modifiedRegion, region)` unless `region` is empty. -/
def markUnlessEmpty (cl : UpdateClient) (region : ScreenRegion) : UpdateClient :=
  if !sraRgnEmpty region.val then { cl with modifiedRegion := cl.modifiedRegion.or region } else cl

def settleOldCopy (cl : UpdateClient) (copyRegion : ScreenRegion) (dx dy : ℤ) : UpdateClient :=
  if !sraRgnEmpty cl.copyRegion.val then
    if cl.copyDX ≠ dx ∨ cl.copyDY ≠ dy then
      { cl with modifiedRegion := cl.modifiedRegion.or cl.copyRegion, copyRegion := Region.empty }
    else { cl with modifiedRegion := cl.modifiedRegion.or ((copyRegion.offset (-dx) (-dy)).and cl.copyRegion) }
  else cl

/-- The end of `rfbScheduleCopyRegion`: the cursor that the server draws is not to be copied with
what is below it. -/
def markCopiedCursor (screen : UpdateScreen β) (dx dy : ℤ) (cl : UpdateClient) : UpdateClient :=
  let cl := cl.markUnlessEmpty ((cl.cursorRegion screen).and cl.copyRegion)
  cl.markUnlessEmpty (((cl.cursorRegion screen).offset dx dy).and cl.copyRegion)

def rfbScheduleCopyRegion (screen : UpdateScreen β) (copyRegion : ScreenRegion) (dx dy : ℤ)
    (cl : UpdateClient) : UpdateClient :=
  if cl.useCopyRect then
    let cl := cl.settleOldCopy copyRegion dx dy
    let cl := { cl with copyRegion := cl.copyRegion.or copyRegion, copyDX := dx, copyDY := dy }
    let cl := { cl with
      modifiedRegion := cl.modifiedRegion.or ((cl.modifiedRegion.offset dx dy).and cl.copyRegion) }
    cl.markCopiedCursor screen dx dy
  else { cl with modifiedRegion := cl.modifiedRegion.or copyRegion }

end UpdateClient

def sraClipRect2 (r : Display.Rect) (cx cy cx2 cy2 : ℤ) : Option Display.Rect :=
  let x := if r.x1 < cx then cx else r.x1
  let y := if r.y1 < cy then cy else r.y1
  let x := if cx2 ≤ x then cx2 - 1 else x
  let y := if cy2 ≤ y then cy2 - 1 else y
  let x2 := if r.x2 ≤ cx then cx + 1 else r.x2
  let y2 := if r.y2 ≤ cy then cy + 1 else r.y2
  let x2 := if cx2 < x2 then cx2 else x2
  let y2 := if cy2 < y2 then cy2 else y2
  if x < x2 ∧ y < y2 then some ⟨x, y, x2, y2⟩ else none

namespace UpdateClient

/-- `rfbRedrawAfterHideCursor`, which adds the cursor to the region it is given. -/
def rfbRedrawAfterHideCursor (screen : UpdateScreen β) (cl : UpdateClient) (region : ScreenRegion) : ScreenRegion :=
  match (sraClipRect2 (cl.cursorRect screen) 0 0 screen.width screen.height).bind createRect with
  | none => region
  | some rect => region.or rect

/-- `rfbSetEncodings`, by what the encodings of the message came to. -/
def setEncodings (preferredEncoding : PixelEncoding) (useCopyRect : Bool) (cl : UpdateClient) : UpdateClient :=
  { cl with
    preferredEncoding := preferredEncoding
    useCopyRect := useCopyRect }

/-- `rectSwapIfLEAndClip` for one side: a 16-bit extent, which wraps when the origin is off the screen. -/
def clipSide (x w : ℕ) (size : ℕ) : Option ℕ :=
  let w := if (size : ℤ) - x < w then (((size : ℤ) - x) % 2 ^ 16).toNat else w
  if (size : ℤ) - x < w then none else some w

/-- The request of `x`, `y`, `w`, `h`. One whose rectangle is ignored leaves the client as it is;
`none` is a rectangle without cells. -/
def rfbFramebufferUpdateRequest (screen : UpdateScreen β) (incremental : Bool) (x y w h : ℕ)
    (cl : UpdateClient) : Option UpdateClient :=
  match clipSide x w screen.width, clipSide y h screen.height with
  | some w, some h => do
    let tmpRegion ← createRect ⟨x, y, x + w, y + h⟩
    let cl := { cl with requestedRegion := cl.requestedRegion.or tmpRegion }
    if !incremental then
      pure { cl with
        modifiedRegion := cl.modifiedRegion.or tmpRegion
        copyRegion := cl.copyRegion.subtract tmpRegion }
    else pure cl
  | _, _ => some cl

end UpdateClient

structure UpdatePlan where
  updateRegion : ScreenRegion
  updateCopyRegion : ScreenRegion
  dx : ℤ
  dy : ℤ

namespace UpdateClient

def cursorMoved (screen : UpdateScreen β) (cl : UpdateClient) : Bool :=
  cl.cursorX ≠ screen.cursorX ∨ cl.cursorY ≠ screen.cursorY

def redrawCursor (screen : UpdateScreen β) (cl : UpdateClient) (updateRegion : ScreenRegion) :
    UpdateClient × ScreenRegion :=
  if cl.cursorMoved screen then
    let updateRegion := cl.rfbRedrawAfterHideCursor screen updateRegion
    let cl := { cl with cursorX := screen.cursorX, cursorY := screen.cursorY }
    (cl, cl.rfbRedrawAfterHideCursor screen updateRegion)
  else (cl, updateRegion)

-- a count of 0xFFFF stands for a message that ends with a marker; it is not limited
def limitRects (screen : UpdateScreen β) (cl : UpdateClient) (updateRegion : ScreenRegion) : ScreenRegion :=
  let nUpdateRegionRects := sraRgnCountRects updateRegion.val
  if nUpdateRegionRects ≠ 0xFFFF ∧ 0 < screen.maxRectsPerUpdate ∧ cl.preferredEncoding ≠ .corre ∧
      screen.maxRectsPerUpdate < nUpdateRegionRects then updateRegion.bbox
  else updateRegion

/-- `rfbSendFramebufferUpdate(cl, cl->modifiedRegion)` up to the sending. -/
def planUpdate (screen : UpdateScreen β) (cl : UpdateClient) : UpdateClient × Option UpdatePlan :=
  let cl := { cl with copyRegion := cl.copyRegion.subtract cl.modifiedRegion }
  let updateRegion := cl.modifiedRegion.or cl.copyRegion
  let wanted := sraRgnAnd updateRegion.val cl.requestedRegion.val
  let updateRegion := updateRegion.and cl.requestedRegion
  if !wanted.2 ∧ sraRgnEmpty updateRegion.val ∧ !cl.cursorMoved screen then (cl, none)
  else
    let updateCopyRegion := cl.copyRegion.and cl.requestedRegion
    let tmpRegion := cl.requestedRegion.offset cl.copyDX cl.copyDY
    let updateCopyRegion := updateCopyRegion.and tmpRegion
    let updateRegion := updateRegion.subtract updateCopyRegion
    let modifiedRegion := cl.modifiedRegion.or cl.copyRegion
    let modifiedRegion := modifiedRegion.subtract updateRegion
    let modifiedRegion := modifiedRegion.subtract updateCopyRegion
    let r := redrawCursor screen { cl with
      modifiedRegion := modifiedRegion
      requestedRegion := Region.empty
      copyRegion := Region.empty
      copyDX := 0
      copyDY := 0 } updateRegion
    (r.1, some ⟨r.1.limitRects screen r.2, updateCopyRegion, cl.copyDX, cl.copyDY⟩)

def shown (screen : UpdateScreen β) (cl : UpdateClient) : Picture β :=
  screen.cursor.rfbShowCursor cl.cursorX cl.cursorY screen.frameBuffer

def message (screen : UpdateScreen β) (afterBufSize : ℕ) (translate : β → Pixel n) (cl : UpdateClient)
    (plan : UpdatePlan) : RectUpdate n where
  encoding := cl.preferredEncoding
  afterBufSize := afterBufSize
  view i j := translate (cl.shown screen i j)
  dx := plan.dx
  dy := plan.dy
  copies := (regionRects plan.updateCopyRegion.val (0 < plan.dx) (0 < plan.dy)).map .of
  rects := (regionRects plan.updateRegion.val false false).map .of

end UpdateClient

end AndroidRemote.Rfb
