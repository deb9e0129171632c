import AndroidRemote.Native.Daemon

/-! The start-up of `fbvncserver`, and `vncscr` after any number of rotations. -/

namespace AndroidRemote.Native

open AndroidRemote.Display AndroidRemote.Input AndroidRemote.Library AndroidRemote.Rfb

variable {out : Out}

/-- `main` keeps the rotation it has when `-r` is given another number. -/
def acceptRotation (rotation : ℕ) (r : ℤ) : ℕ :=
  if r = 0 ∨ r = 90 ∨ r = 180 ∨ r = 270 then r.toNat else rotation

def startScreen (rotation : ℕ) (s : FbVarScreeninfo) : RfbScreenInfo :=
  let vncscr := if rotation = 0 ∨ rotation = 180 then
      rfbGetScreen s.xres s.yres 0 (s.bitsPerPixel / 8)
    else
      rfbGetScreen s.yres s.xres 0 (s.bitsPerPixel / 8)
  { vncscr with serverFormat := s.writeFormat vncscr.serverFormat }

def selectUpdateScreen (bitsPerPixel : ℕ) : Option Out :=
  if bitsPerPixel = 32 then some .out32
  else if bitsPerPixel = 16 then some .out16
  else if bitsPerPixel = 8 then some .out8
  else none

def initFbServer (s : FbVarScreeninfo) (rotation scaling : ℕ) (testMode : ℤ)
    (fbmmap : (out : Out) → Memory (OutT out)) : Option ((out : Out) × Daemon out) :=
  let vncscr := startScreen rotation s
  (selectUpdateScreen vncscr.serverFormat.bitsPerPixel).map (fun out =>
    ⟨out, .started
      { scrinfo := s
        fbmmap := fbmmap out
        vncbuf := fun _ => 0
        cmpbuf := fun _ => 0
        vncscr := vncscr
        idle := false
        testMode := testMode
        rotation := rotation
        i := 0
        j := 0
        marked := some ⟨0, 0, s.xres, s.yres⟩ }
      (s.xres * s.yres % 2 ^ 32 * (s.bitsPerPixel / 8)) scaling⟩)

def SameScreen (s s' : FbVarScreeninfo) : Prop :=
  s'.xres = s.xres ∧ s'.yres = s.yres ∧ s'.bitsPerPixel = s.bitsPerPixel ∧ s'.red = s.red ∧
    s'.green = s.green ∧ s'.blue = s.blue

def KeepsScreen (s : FbVarScreeninfo) : Event → Prop
  | .updateScreen (some s') => SameScreen s s'
  | _ => True

def Quarter (rotation : ℕ) : Prop := rotation = 0 ∨ rotation = 90 ∨ rotation = 180 ∨ rotation = 270

def layout (v : RfbScreenInfo) : ℕ × ℕ × ℕ × ℕ × ℕ × PixelFormat :=
  (v.width, v.height, v.bitsPerPixel, v.depth, v.paddedWidthInBytes, v.serverFormat)

structure Daemon.Installed (s : FbVarScreeninfo) (d : Daemon out) : Prop where
  quarter : Quarter d.fb.rotation
  size : (d.fb.vncscr.width, d.fb.vncscr.height) = turnedSize d.fb.rotation s
  record : layout d.fb.vncscr = layout (startScreen d.fb.rotation s)

/-- The bytes of one `memcpy` in `update_screen`. The product is an `unsigned int`. -/
def copiedBytes (v : RfbScreenInfo) (s : FbVarScreeninfo) : ℕ :=
  v.width * v.height * s.bitsPerPixel % 2 ^ 32 / 8

def Daemon.CopiesInside (d : Daemon out) : Event → Prop
  | .updateScreen (some s') => d.running = true → copiedBytes d.fb.vncscr s' ≤ d.bufferSize
  | _ => True

/-- The bits of a pixel beyond its whole bytes do not add up to a byte more than the bit count of
the picture loses in 32 bits. The number of pixels is itself a product of 32 bits. -/
def WholeBytes (s : FbVarScreeninfo) : Prop :=
  let pixels := s.xres * s.yres % 2 ^ 32
  pixels * (s.bitsPerPixel % 8) < 8 + 2 ^ 32 * (pixels * s.bitsPerPixel / 2 ^ 32)

instance (s : FbVarScreeninfo) : Decidable (WholeBytes s) := inferInstanceAs (Decidable (_ < _))

def Daemon.DrawsWhole (s : FbVarScreeninfo) (d : Daemon out) : Event → Prop
  | .updateScreen (some _) => d.running = true → WholeBytes s
  | _ => True

lemma acceptRotation_quarter {rotation : ℕ} (h : Quarter rotation) (r : ℤ) :
    Quarter (acceptRotation rotation r) := by
  rw [acceptRotation]
  split_ifs with hr
  · rw [Quarter]
    omega
  · exact h

lemma options_quarter (options : List ℤ) : Quarter (options.foldl acceptRotation 0) := by
  have hall : ∀ rotation, Quarter rotation → Quarter (options.foldl acceptRotation rotation) := by
    induction options with
    | nil => exact fun _ h => h
    | cons r options ih => exact fun rotation h => ih _ (acceptRotation_quarter h r)
  exact hall 0 (.inl rfl)

lemma layout_startScreen {rotation width height : ℕ} (h : Quarter rotation) (s : FbVarScreeninfo)
    (hsize : (width, height) = turnedSize rotation s) : layout (startScreen rotation s) =
      (width, height, 8 * (s.bitsPerPixel / 8), 8 * (s.bitsPerPixel / 8), width * (s.bitsPerPixel / 8),
        s.finalFormat) := by
  rcases h with rfl | rfl | rfl | rfl <;> cases hsize <;> rfl

lemma quarter_next {rotation : ℕ} (h : Quarter rotation) : Quarter ((rotation + 90) % 360) := by
  rw [Quarter] at h ⊢
  omega

lemma SameScreen.start {s s' : FbVarScreeninfo} (h : SameScreen s s') (rotation : ℕ) :
    turnedSize rotation s' = turnedSize rotation s ∧ startScreen rotation s' = startScreen rotation s := by
  obtain ⟨hx, hy, hb, hr, hg, hbl⟩ := h
  simp [turnedSize, startScreen, FbVarScreeninfo.writeFormat, hx, hy, hb, hr, hg, hbl]

lemma rotate_ok {g g' : FbVncServer out} (hq : Quarter g.rotation) (h : g.rotate = .ok g') :
    g'.rotation = (g.rotation + 90) % 360 ∧ g'.scrinfo = g.scrinfo ∧
      (g'.vncscr.width, g'.vncscr.height) = turnedSize g'.rotation g.scrinfo ∧
      layout g'.vncscr = layout (startScreen g'.rotation g.scrinfo) := by
  obtain ⟨width, height, hsize, heq⟩ := g.rotate_eq
  rw [heq, bind_eq_ok] at h
  obtain ⟨clients, -, hg⟩ := h
  cases hg
  refine ⟨rfl, rfl, hsize, ?_⟩
  rw [layout_startScreen (quarter_next hq) _ hsize]
  rfl

structure Daemon.Steady (s : FbVarScreeninfo) (d : Daemon out) : Prop where
  same : SameScreen s d.fb.scrinfo
  installed : d.Installed s
  buffer : d.bufferSize = s.xres * s.yres % 2 ^ 32 * (s.bitsPerPixel / 8)

namespace Daemon

variable {s : FbVarScreeninfo} {d : Daemon out}

lemma Steady.kept (h : d.Steady s) {d' : Daemon out} (hr : d'.fb.rotation = d.fb.rotation)
    (hs : SameScreen s d'.fb.scrinfo) (hl : layout d'.fb.vncscr = layout d.fb.vncscr)
    (hb : d'.bufferSize = d.bufferSize) : d'.Steady s := by
  have hsize : (d'.fb.vncscr.width, d'.fb.vncscr.height) = (d.fb.vncscr.width, d.fb.vncscr.height) :=
    congrArg (fun l => (l.1, l.2.1)) hl
  refine ⟨hs, ⟨?_, ?_, ?_⟩, hb.trans h.buffer⟩
  · rw [hr]
    exact h.installed.quarter
  · rw [hr, hsize]
    exact h.installed.size
  · rw [hr, hl]
    exact h.installed.record

lemma Steady.rotated (h : d.Steady s) {fb : FbVncServer out} (hfb : d.fb.rotate = .ok fb) :
    Steady s { d with fb := fb } := by
  obtain ⟨hr, hs, hsize, hlayout⟩ := rotate_ok h.installed.quarter hfb
  have hstart := h.same.start fb.rotation
  rw [hstart.1] at hsize
  rw [hstart.2] at hlayout
  exact ⟨hs ▸ h.same, ⟨hr ▸ quarter_next h.installed.quarter, hsize, hlayout⟩, h.buffer⟩

lemma Steady.perform (h : d.Steady s) (down : Bool) (command : Option KeyCommand) :
    (d.perform down command).Steady s := by
  rcases d.perform_cases down command with hp | hp | ⟨-, hp⟩ | ⟨fb, hfb, -, -, hp⟩
  · rwa [hp]
  · rw [hp]
    exact h.kept rfl h.same rfl rfl
  · rw [hp]
    exact h.kept rfl h.same rfl rfl
  · rw [hp]
    exact h.rotated hfb

lemma step_steady (d : Daemon out) {e : Event} (hk : KeepsScreen s e) (h : d.Steady s) : (step d e).Steady s := by
  by_cases hr : d.running = true
  · have hchange := step_change e hr
    generalize step d e = d' at hchange
    cases hchange with
    | stays => exact h
    | ends => exact h.kept rfl h.same rfl rfl
    | records e clients => exact h.kept rfl h.same rfl rfl
    | arrives a =>
      rcases d.rfbNewClient_cases a with heq | heq | ⟨clients, -, heq⟩
      · rwa [heq]
      · rw [heq]
        exact h.kept rfl h.same rfl rfl
      · rw [heq]
        exact h.kept rfl h.same rfl rfl
    | key k down key hc =>
      have hp := h.perform down (keysym2scancode key).command
      exact hp.kept rfl hp.same rfl rfl
    | points k buttonMask x y hc =>
      rcases d.rfbPointerEvent_cases k buttonMask x y with heq | ⟨cl, -, -, heq⟩
      · rwa [heq]
      · rw [heq]
        exact h.kept rfl h.same rfl rfl
    | leaves k localSocket hc =>
      rcases d.rfbClientConnectionGone_cases k localSocket with heq | ⟨cl, -, heq⟩
      · rwa [heq]
      · rw [heq]
        exact h.kept rfl h.same rfl rfl
    | draws ioctl fb hfb =>
      cases ioctl with
      | none => cases hfb
      | some s' =>
        cases hfb
        exact h.kept rfl hk rfl rfl
  · rw [step_ended e hr]
    exact h

lemma copiesInside_iff {e : Event} (hk : KeepsScreen s e) (h : d.Steady s) : d.CopiesInside e ↔ d.DrawsWhole s e := by
  cases e with
  | updateScreen ioctl =>
    cases ioctl with
    | none => exact Iff.rfl
    | some s' =>
      have harea := FbVncServer.turnedSize_area h.installed.size
      obtain ⟨-, -, hb, -⟩ := hk
      simp only [CopiesInside, DrawsWhole, copiedBytes, WholeBytes, harea, hb, h.buffer]
      have hpixels : s.xres * s.yres * s.bitsPerPixel % 2 ^ 32 =
          s.xres * s.yres % 2 ^ 32 * s.bitsPerPixel % 2 ^ 32 := (Nat.mod_mul_mod _ _ _).symm
      rw [hpixels]
      generalize s.xres * s.yres % 2 ^ 32 = pixels
      have hsplit : pixels * s.bitsPerPixel =
          8 * (pixels * (s.bitsPerPixel / 8)) + pixels * (s.bitsPerPixel % 8) := by
        conv_lhs => rw [← Nat.div_add_mod s.bitsPerPixel 8]
        ring
      apply imp_congr_right
      intro _
      omega
  | _ => exact Iff.rfl

def InOrder (s : FbVarScreeninfo) (d : Daemon out) (e : Event) : Prop :=
  (step d e).Installed s ∧ d.CopiesInside e

end Daemon

lemma initFbServer_steady {s : FbVarScreeninfo} {options : List ℤ} {scaling : ℕ} {testMode : ℤ}
    {fbmmap : (out : Out) → Memory (OutT out)} {d : Daemon out}
    (h : initFbServer s (options.foldl acceptRotation 0) scaling testMode fbmmap = some ⟨out, d⟩) :
    d.Steady s := by
  have hq := options_quarter options
  generalize options.foldl acceptRotation 0 = rotation at h hq
  rw [initFbServer, Option.map_eq_some_iff] at h
  obtain ⟨out, -, heq⟩ := h
  cases heq
  refine ⟨⟨rfl, rfl, rfl, rfl, rfl, rfl⟩, ⟨hq, ?_, rfl⟩, rfl⟩
  rcases hq with rfl | rfl | rfl | rfl <;> rfl

theorem record_follows_rotation {s : FbVarScreeninfo} (options : List ℤ) {scaling : ℕ} {testMode : ℤ}
    {fbmmap : (out : Out) → Memory (OutT out)} {d : Daemon out}
    (h : initFbServer s (options.foldl acceptRotation 0) scaling testMode fbmmap = some ⟨out, d⟩)
    {es : List Event} (hes : ∀ e ∈ es, KeepsScreen s e) :
    Along step (fun d e => (step d e).Installed s) d es ∧
      (Along step (Daemon.InOrder s) d es ↔ Along step (Daemon.DrawsWhole s) d es) := by
  have hsteady := initFbServer_steady h
  have hkeeps : Along step (fun _ e => KeepsScreen s e) d es := along_of_forall hes
  constructor
  · exact hkeeps.of_invariant (Daemon.Steady s) (fun d _ hd hk => d.step_steady hk hd)
      (fun d _ hd hk => (d.step_steady hk hd).installed) hsteady
  · refine hkeeps.congr (Daemon.Steady s) (fun d _ hd hk _ => d.step_steady hk hd) ?_ hsteady
    intro d e hd hk
    rw [Daemon.InOrder, Daemon.copiesInside_iff hk hd]
    exact and_iff_right (d.step_steady hk hd).installed

def depth8 : FbVarScreeninfo := ⟨320, 480, 320, 480, 0, 0, 8, ⟨0, 3⟩, ⟨3, 3⟩, ⟨6, 2⟩⟩

theorem record_follows_rotation_depth8 : ∃ d : Daemon .out8,
    initFbServer depth8 90 100 0 (fun _ _ => 0) = some ⟨.out8, d⟩ ∧
    Along step (Daemon.InOrder depth8) d
      [.connects ⟨true, true, true, true⟩, .keyEvent 0 true 0xffc1, .updateScreen (some depth8)] := by
  have hstart : initFbServer depth8 (List.foldl acceptRotation 0 [90]) 100 0 (fun _ _ => 0) =
      some ⟨.out8, _⟩ := rfl
  refine ⟨_, hstart, ?_⟩
  apply (record_follows_rotation [90] hstart ?_).2.mpr
  · exact ⟨trivial, trivial, fun _ => by decide, trivial⟩
  · intro e he
    simp only [List.mem_cons, List.not_mem_nil, or_false] at he
    rcases he with rfl | rfl | rfl
    · trivial
    · trivial
    · exact ⟨rfl, rfl, rfl, rfl, rfl, rfl⟩

def depth15 : FbVarScreeninfo := ⟨320, 480, 320, 480, 0, 0, 15, ⟨10, 5⟩, ⟨5, 5⟩, ⟨0, 5⟩⟩

theorem depth15_copies_outside : ∃ d : Daemon .out8,
    initFbServer depth15 0 100 0 (fun _ _ => 0) = some ⟨.out8, d⟩ ∧
    ¬ Along step (Daemon.InOrder depth15) d [.updateScreen (some depth15)] := by
  refine ⟨_, rfl, ?_⟩
  rintro ⟨⟨-, hinside⟩, -⟩
  have hbytes := hinside rfl
  revert hbytes
  decide

end AndroidRemote.Native
