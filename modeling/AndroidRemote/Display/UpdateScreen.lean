import AndroidRemote.Library.Loops
import AndroidRemote.Display.Server

/-! `update_screen_OUT`, statement by statement, and what one comparison does to the buffer. -/

namespace AndroidRemote.Display

open AndroidRemote.Library

structure Box where
  maxX : ℤ
  maxY : ℤ
  minX : ℤ
  minY : ℤ
  deriving DecidableEq, Repr

def Box.noteX (b : Box) (v : ℤ) : Box :=
  { b with maxX := if v > b.maxX then v else b.maxX, minX := if v < b.minX then v else b.minX }

def Box.noteY (b : Box) (v : ℤ) : Box :=
  { b with maxY := if v > b.maxY then v else b.maxY, minY := if v < b.minY then v else b.minY }

/-- The variables of one call. The two lists record which cells of `cmpbuf` and of the
framebuffer the call has used. -/
structure Scan (out : Out) where
  a : Memory (OutT out)
  i : ℤ
  j : ℤ
  box : Box
  idle : Bool
  cmpUsed : List ℤ
  fbUsed : List ℤ

variable {out : Out}

def Scan.forI (n : ℕ) (body : ℕ → Scan out → Scan out) (t : Scan out) : Scan out :=
  { forUpto n (fun i t => body i { t with i := i }) t with i := n }

def Scan.forJ (n : ℕ) (body : ℕ → Scan out → Scan out) (t : Scan out) : Scan out :=
  { forUpto n (fun j t => body j { t with j := j }) t with j := n }

/-- `if (a[k] != b[p]) { a[k] = b[p]; ...; idle = 0; }`, where `b` points `base` cells into the
framebuffer. The store is missing from the unrotated scan outside test mode. -/
def Scan.compare (fb : Memory (OutT out)) (base k p : ℤ) (store : Bool) (note : Box → Box)
    (t : Scan out) : Scan out :=
  let t := { t with cmpUsed := k :: t.cmpUsed, fbUsed := (base + p) :: t.fbUsed }
  if t.a k ≠ fb (base + p) then
    { t with
      a := if store then Function.update t.a k (fb (base + p)) else t.a
      box := note t.box
      idle := false }
  else t

namespace FbVncServer

variable (g : FbVncServer out)

/-- `fbmmap` points to `unsigned int`, so test mode moves `b` by 32-bit words. -/
def base : ℤ := if g.testMode = 0 then 0 else g.scrinfo.yres * g.testMode * (32 / out.bits : ℕ)

/-- The length of a `memcpy`, in cells. Its product is an `unsigned int`. -/
def copiedPixels : ℕ :=
  g.vncscr.width * g.vncscr.height * g.scrinfo.bitsPerPixel % 2 ^ 32 / 8 / (out.bits / 8)

def scan0 (t : Scan out) : Scan out :=
  let s := g.scrinfo
  let t := t.forJ s.yres (fun j t => t.forI s.xres (fun i t =>
    let offset : ℤ := j * s.xres
    let p := pixelToVirtualPixel s i j
    t.compare g.fbmmap g.base (i + offset) p (g.testMode ≠ 0) (fun b => (b.noteX i).noteY j)))
  if g.testMode = 0 then
    { t with
      a := memcpy t.a g.fbmmap g.copiedPixels
      fbUsed := (List.range g.copiedPixels).map (↑) ++ t.fbUsed }
  else t

def scan90 (t : Scan out) : Scan out :=
  let s := g.scrinfo
  t.forJ s.yres (fun j t =>
    let offset : ℤ := t.i * s.yres
    let p := pixelToVirtualPixel s t.i j
    t.forI s.xres (fun i t =>
      t.compare g.fbmmap g.base (s.yres - 1 - j + offset) p true
        (fun b => (b.noteY i).noteX (s.yres - j))))

def scan180 (t : Scan out) : Scan out :=
  let s := g.scrinfo
  t.forJ s.yres (fun j t =>
    let offset : ℤ := (s.yres - 1 - j) * s.xres
    let p := pixelToVirtualPixel s t.i j
    t.forI s.xres (fun i t =>
      t.compare g.fbmmap g.base ((s.xres - 1 - i) + offset) p true
        (fun b => (b.noteX i).noteY (s.yres - j))))

def scan270 (t : Scan out) : Scan out :=
  let s := g.scrinfo
  t.forJ s.yres (fun j t =>
    let offset : ℤ := (s.xres - 1 - t.i) * s.yres
    let p := pixelToVirtualPixel s t.i j
    t.forI s.xres (fun i t =>
      t.compare g.fbmmap g.base (j + offset) p true (fun b => (b.noteY i).noteX j)))

def entry : Scan out := ⟨g.cmpbuf, g.i, g.j, ⟨-1, -1, 9999, 9999⟩, true, [], []⟩

def scan : Scan out :=
  if g.rotation = 0 then g.scan0 g.entry
  else if g.rotation = 90 then g.scan90 g.entry
  else if g.rotation = 180 then g.scan180 g.entry
  else if g.rotation = 270 then g.scan270 g.entry
  else g.entry

def updateFbInfo (ioctl : Option FbVarScreeninfo) : Option (FbVncServer out) :=
  ioctl.map (fun s => { g with scrinfo := s })

def draw : FbVncServer out :=
  let t := g.scan
  { g with
    cmpbuf := t.a
    vncbuf := memcpy g.vncbuf t.a g.copiedPixels
    i := t.i
    j := t.j
    idle := t.idle
    marked := if t.idle then none
      else some ⟨t.box.minX, t.box.minY, t.box.maxX + 1, t.box.maxY + 1⟩ }

def updateScreen (ioctl : Option FbVarScreeninfo) : Option (FbVncServer out) :=
  (g.updateFbInfo ioctl).map draw

end FbVncServer

lemma Scan.compare_a (fb : Memory (OutT out)) (base k p : ℤ) (note : Box → Box) (t : Scan out) :
    (t.compare fb base k p true note).a = Function.update t.a k (fb (base + p)) := by
  rw [← store_unless_equal]
  simp only [Scan.compare]
  split_ifs <;> rfl

@[simp] lemma Scan.forI_i (n : ℕ) (body : ℕ → Scan out → Scan out) (t : Scan out) :
    (t.forI n body).i = n := rfl

lemma Scan.forJ_i {n : ℕ} {w : ℤ} {body : ℕ → Scan out → Scan out} (hb : ∀ j u, (body j u).i = w)
    (t : Scan out) : (t.forJ n body).i = t.i ∨ 0 < n ∧ (t.forJ n body).i = w := by
  cases n with
  | zero => exact .inl rfl
  | succ n =>
    refine .inr ⟨n.succ_pos, ?_⟩
    rw [forJ, forUpto_succ]
    exact hb n _

lemma Scan.forI_invariant {n : ℕ} {body : ℕ → Scan out → Scan out} {t : Scan out}
    (I : ℕ → Memory (OutT out) → Prop) (hi : I 0 t.a)
    (hs : ∀ i < n, ∀ t : Scan out, I i t.a → I (i + 1) (body i t).a) : I n (t.forI n body).a :=
  forUpto_invariant (fun i (t : Scan out) => I i t.a) hi (fun i hn t ht => hs i hn { t with i := i } ht)

lemma Scan.forJ_invariant {n : ℕ} {body : ℕ → Scan out → Scan out} {t : Scan out}
    (I : ℕ → ℤ → Memory (OutT out) → Prop) (hi : I 0 t.i t.a)
    (hs : ∀ j < n, ∀ t : Scan out, I j t.i t.a → I (j + 1) (body j t).i (body j t).a) :
    I n (t.forJ n body).i (t.forJ n body).a :=
  forUpto_invariant (fun j (t : Scan out) => I j t.i t.a) hi
    (fun j hn t ht => hs j hn { t with j := j } ht)

lemma FbVncServer.copiedPixels_eq {g : FbVncServer out} (h : g.Fitted) : g.copiedPixels = g.reached := by
  rw [copiedPixels, reached, h.area, h.bpp]
  cases out <;> simp only [Out.bits] <;> omega

lemma FbVncServer.reached_le (g : FbVncServer out) : g.reached ≤ g.scrinfo.xres * g.scrinfo.yres :=
  Nat.mod_le _ _

end AndroidRemote.Display
