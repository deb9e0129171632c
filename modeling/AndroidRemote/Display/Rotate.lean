import AndroidRemote.Rfb.TableValues
import AndroidRemote.Display.Server

/-! `rotate`, and the clients' translation tables after it. -/

namespace AndroidRemote.Display

open AndroidRemote.Library AndroidRemote.Rfb

variable {out : Out}

def FbVarScreeninfo.writeFormat (s : FbVarScreeninfo) (f : PixelFormat) : PixelFormat :=
  { f with
    redShift := s.red.offset % 256
    greenShift := s.green.offset % 256
    blueShift := s.blue.offset % 256
    redMax := maxOfLength s.red.length
    greenMax := maxOfLength s.green.length
    blueMax := maxOfLength s.blue.length }

def FbVncServer.rotate (g : FbVncServer out) : Except Trap (FbVncServer out) := do
  let s := g.scrinfo
  let rotation := (g.rotation + 90) % 360
  let vncscr ← if rotation = 90 ∨ rotation = 270 then
      rfbNewFramebuffer g.vncscr s.yres s.xres 0 (s.bitsPerPixel / 8)
    else
      rfbNewFramebuffer g.vncscr s.xres s.yres 0 (s.bitsPerPixel / 8)
  pure { g with
    rotation := rotation
    vncscr := { vncscr with serverFormat := s.writeFormat vncscr.serverFormat }
    marked := some ⟨0, 0, vncscr.width, vncscr.height⟩ }

def turnedSize (rotation : ℕ) (s : FbVarScreeninfo) : ℕ × ℕ :=
  if rotation = 90 ∨ rotation = 270 then (s.yres, s.xres) else (s.xres, s.yres)

def emptyMap : ColourMap := ⟨0, false, []⟩

namespace FbVarScreeninfo

variable (s : FbVarScreeninfo)

structure TrueColour (s : FbVarScreeninfo) : Prop where
  bpp : s.bitsPerPixel = 8 ∨ s.bitsPerPixel = 16 ∨ s.bitsPerPixel = 32
  red : 0 < s.red.length
  green : 0 < s.green.length
  blue : 0 < s.blue.length

/-- The format that `rfbNewFramebuffer` leaves, and translates to, before `rotate` writes its own. -/
def passingFormat : PixelFormat := initialFormat (8 * (s.bitsPerPixel / 8)) (8 * (s.bitsPerPixel / 8)) 0

def finalFormat : PixelFormat := s.writeFormat s.passingFormat

variable {s}

lemma passingFormat_narrow (h : s.bitsPerPixel = 8) : s.passingFormat = bgr233Format := by
  simp only [passingFormat, h]
  decide

lemma passingFormat_wide (h : s.bitsPerPixel = 16 ∨ s.bitsPerPixel = 32) : s.passingFormat.redMax = 0 := by
  cases h with
  | inl h => simp only [passingFormat, h]; decide
  | inr h => simp only [passingFormat, h]; decide

lemma TrueColour.passing_bpp (h : s.TrueColour) : s.passingFormat.bitsPerPixel = s.bitsPerPixel := by
  rcases h.bpp with h | h | h <;> simp only [passingFormat, h] <;> decide

lemma TrueColour.passing_trueColour (h : s.TrueColour) : s.passingFormat.trueColour = true := by
  rcases h.bpp with h | h | h <;> simp only [passingFormat, h] <;> decide

lemma TrueColour.valid (h : s.TrueColour) : ValidBpp s.bitsPerPixel := by
  have hb := h.bpp
  rw [ValidBpp]
  omega

lemma TrueColour.final_coloured (h : s.TrueColour) : s.finalFormat.Coloured :=
  ⟨⟨maxOfLength_pos h.red, maxOfLength_lt _⟩, ⟨maxOfLength_pos h.green, maxOfLength_lt _⟩,
    ⟨maxOfLength_pos h.blue, maxOfLength_lt _⟩⟩

lemma TrueColour.final_valid (h : s.TrueColour) : ValidBpp s.finalFormat.bitsPerPixel := by
  change ValidBpp s.passingFormat.bitsPerPixel
  rw [h.passing_bpp]
  exact h.valid

lemma TrueColour.final_trueColour (h : s.TrueColour) : s.finalFormat.trueColour = true :=
  h.passing_trueColour

variable {cl : RfbClient}

def KeepsUp (s : FbVarScreeninfo) (before : PixelFormat) (cl : RfbClient) : Prop :=
  if before = s.passingFormat then InStep s.finalFormat emptyMap cl
  else s.bitsPerPixel = 8 ∧
    ((PfEq cl.format s.passingFormat ∧ PfEq cl.format s.finalFormat) ∨
      (¬ PfEq cl.format s.passingFormat ∧ ¬ PfEq cl.format s.finalFormat ∧
        ∀ k < 256, pixelValue cl.format.bitsPerPixel s.passingFormat cl.format k =
          pixelValue cl.format.bitsPerPixel s.finalFormat cl.format k))

lemma table_eq_iff (p q : ℕ → BitVec 32) :
    (List.range 256).map p = (List.range 256).map q ↔ ∀ k < 256, p k = q k := by
  simp [List.map_inj_left]

lemma rebuilt_narrow_iff (hs : s.TrueColour) (hb : s.bitsPerPixel = 8) (hc : cl.Translatable) :
    (∃ built, rfbSetTranslateFunction s.passingFormat emptyMap cl = .ok built ∧
      InStep s.finalFormat emptyMap built) ↔
    (PfEq cl.format s.passingFormat ∧ PfEq cl.format s.finalFormat) ∨
      (¬ PfEq cl.format s.passingFormat ∧ ¬ PfEq cl.format s.finalFormat ∧
        ∀ k < 256, pixelValue cl.format.bitsPerPixel s.passingFormat cl.format k =
          pixelValue cl.format.bitsPerPixel s.finalFormat cl.format k) := by
  have hpass : s.passingFormat.bitsPerPixel = 8 := by rw [hs.passing_bpp, hb]
  have hfinal : s.finalFormat.bitsPerPixel = 8 := hpass
  have htrue := hs.final_trueColour
  have hcoloured : s.passingFormat.Coloured := by
    rw [passingFormat_narrow hb]
    exact bgr233Format_coloured
  rw [rfbSetTranslateFunction_eq (.inl hpass) hc]
  have hkept : ∀ fn table, RfbClient.Translatable
      { cl with translateFn := fn, translateLookupTable := table } :=
    fun fn table => ⟨hc.bpp, hc.trueColour⟩
  by_cases hp : PfEq cl.format s.passingFormat
  · rw [chooseTranslation_same hp]
    simp only [Except.ok.injEq, exists_eq_left', hp, not_true_eq_false, false_and, or_false, true_and]
    constructor
    · intro hi
      by_contra hf
      exact inStep_other (.inl hfinal) hs.final_coloured htrue (hkept _ _) (by exact hf) hi rfl
    · intro hf
      exact (inStep_same (.inl hfinal) (hkept _ _) (by exact hf)).mpr rfl
  · rw [chooseTranslation_single hcoloured hs.passing_trueColour hpass hp]
    simp only [Except.ok.injEq, exists_eq_left', hp, false_and, not_false_eq_true, true_and, false_or]
    by_cases hf : PfEq cl.format s.finalFormat
    · simp only [hf, not_true_eq_false, false_and, iff_false]
      intro hi
      have hnone := (inStep_same (.inl hfinal) (hkept _ _) (by exact hf)).mp hi
      cases hnone
    · rw [inStep_single hs.final_coloured htrue hfinal (hkept _ _) (by exact hf)]
      simp only [true_and, Option.some.injEq, table_eq_iff, hf, not_false_eq_true]

lemma rebuilt_wide (hs : s.TrueColour) (hb : s.bitsPerPixel = 16 ∨ s.bitsPerPixel = 32)
    (hc : cl.Translatable) {built : RfbClient}
    (h : rfbSetTranslateFunction s.passingFormat emptyMap cl = .ok built) :
    ¬ InStep s.finalFormat emptyMap built := by
  have hvalid : ValidBpp s.passingFormat.bitsPerPixel := by
    rw [hs.passing_bpp]
    exact hs.valid
  have hzero := passingFormat_wide hb
  rw [rfbSetTranslateFunction_eq hvalid hc] at h
  by_cases hp : PfEq cl.format s.passingFormat
  · -- the client's own format has no red, which the final format has
    rw [chooseTranslation_same hp, Except.ok.injEq] at h
    subst h
    have hf : ¬ PfEq cl.format s.finalFormat := by
      intro hf
      obtain ⟨-, -, -, -, hpc⟩ := hp
      obtain ⟨-, -, -, -, hfc⟩ := hf
      have hpos := hs.final_coloured.red.1
      rw [hc.trueColour] at hpc hfc
      simp only [Bool.true_eq_false, false_or] at hpc hfc
      omega
    intro hi
    have hkept : RfbClient.Translatable { cl with translateFn := .rfbTranslateNone } :=
      ⟨hc.bpp, hc.trueColour⟩
    exact inStep_other hs.final_valid hs.final_coloured hs.final_trueColour hkept (by exact hf) hi rfl
  · rw [chooseTranslation_zero hzero hs.passing_trueColour hp] at h
    cases h

lemma follow_inStep_iff (hs : s.TrueColour) (hc : cl.Translatable) (hcon : cl.connected = true)
    {before : PixelFormat} {screen : RfbScreenInfo} (hscreen : screen.serverFormat = s.passingFormat)
    (hmap : screen.colourMap = emptyMap) :
    (∃ cl', followFramebuffer screen (decide (s.passingFormat ≠ before)) cl = .ok cl' ∧
      InStep s.finalFormat emptyMap cl') ↔ s.KeepsUp before cl := by
  have hpass : ValidBpp s.passingFormat.bitsPerPixel := hs.final_valid
  have hnote : ∀ c : RfbClient, c.Translatable → (InStep s.finalFormat emptyMap
      (if c.useNewFBSize then { c with newFBSizePending := true } else c) ↔
        InStep s.finalFormat emptyMap c) := by
    intro c hc
    split_ifs
    · exact inStep_pending hs.final_valid hc true
    · rfl
  simp only [followFramebuffer, hcon, if_true, hscreen, hmap, KeepsUp]
  by_cases hsame : before = s.passingFormat
  · simp only [hsame, ne_eq, not_true_eq_false, decide_false, Bool.false_eq_true, if_false, if_true,
      pure_eq_ok, ok_bind, Except.ok.injEq, exists_eq_left']
    exact hnote cl hc
  · have hne : s.passingFormat ≠ before := fun h => hsame h.symm
    have hbuilt : (∃ cl', (rfbSetTranslateFunction s.passingFormat emptyMap cl >>= fun c =>
          pure (if c.useNewFBSize then { c with newFBSizePending := true } else c)) = .ok cl' ∧
        InStep s.finalFormat emptyMap cl') ↔
        ∃ built, rfbSetTranslateFunction s.passingFormat emptyMap cl = .ok built ∧
          InStep s.finalFormat emptyMap built := by
      simp only [bind_eq_ok, pure_eq_ok, Except.ok.injEq]
      constructor
      · rintro ⟨_, ⟨built, hb, rfl⟩, hi⟩
        exact ⟨built, hb, (hnote built (hc.built hpass hb)).mp hi⟩
      · rintro ⟨built, hb, hi⟩
        exact ⟨_, ⟨built, hb, rfl⟩, (hnote built (hc.built hpass hb)).mpr hi⟩
    simp only [hne, ne_eq, not_false_eq_true, decide_true, if_true, hsame, if_false]
    rw [hbuilt]
    by_cases hb : s.bitsPerPixel = 8
    · rw [rebuilt_narrow_iff hs hb hc]
      simp only [hb, true_and]
    · have hwide : s.bitsPerPixel = 16 ∨ s.bitsPerPixel = 32 := hs.bpp.resolve_left hb
      simp only [hb, false_and, iff_false]
      rintro ⟨built, hset, hi⟩
      exact rebuilt_wide hs hwide hc hset hi

end FbVarScreeninfo

namespace FbVncServer

variable (g : FbVncServer out)

def turned (width height : ℕ) : RfbScreenInfo :=
  let s := g.scrinfo
  { g.vncscr with
    width := width
    height := height
    bitsPerPixel := 8 * (s.bitsPerPixel / 8)
    depth := 8 * (s.bitsPerPixel / 8)
    paddedWidthInBytes := width * (s.bitsPerPixel / 8)
    serverFormat := s.passingFormat
    colourMap := emptyMap
    cursorX := if g.vncscr.cursorX ≥ width then (width : ℤ) - 1 else g.vncscr.cursorX
    cursorY := if g.vncscr.cursorY ≥ height then (height : ℤ) - 1 else g.vncscr.cursorY }

lemma rfbNewFramebuffer_eq (width height : ℕ) :
    rfbNewFramebuffer g.vncscr width height 0 (g.scrinfo.bitsPerPixel / 8) =
      (g.vncscr.clients.mapM (followFramebuffer (g.turned width height)
          (decide (g.scrinfo.passingFormat ≠ g.vncscr.serverFormat))) >>= fun clients =>
        pure { g.turned width height with clients := clients }) := rfl

lemma turnedSize_area {rotation width height : ℕ} {s : FbVarScreeninfo}
    (h : (width, height) = turnedSize rotation s) : width * height = s.xres * s.yres := by
  rw [turnedSize] at h
  split_ifs at h
  · cases h
    exact Nat.mul_comm _ _
  · cases h
    rfl

lemma rotate_eq : ∃ width height : ℕ,
    (width, height) = turnedSize ((g.rotation + 90) % 360) g.scrinfo ∧ g.rotate =
    (g.vncscr.clients.mapM (followFramebuffer (g.turned width height)
        (decide (g.scrinfo.passingFormat ≠ g.vncscr.serverFormat))) >>= fun clients =>
      pure { g with
        rotation := (g.rotation + 90) % 360
        vncscr := { g.turned width height with
          serverFormat := g.scrinfo.finalFormat
          clients := clients }
        marked := some ⟨0, 0, width, height⟩ }) := by
  simp only [rotate, rfbNewFramebuffer_eq, turnedSize]
  split_ifs
  · refine ⟨g.scrinfo.yres, g.scrinfo.xres, rfl, ?_⟩
    rw [bind_assoc]
    rfl
  · refine ⟨g.scrinfo.xres, g.scrinfo.yres, rfl, ?_⟩
    rw [bind_assoc]
    rfl

lemma rotate_size {g g' : FbVncServer out} (h : g.rotate = .ok g') :
    (g'.vncscr.width, g'.vncscr.height) = turnedSize ((g.rotation + 90) % 360) g.scrinfo := by
  obtain ⟨width, height, hsize, heq⟩ := g.rotate_eq
  rw [heq, bind_eq_ok] at h
  obtain ⟨clients, -, hg⟩ := h
  cases hg
  exact hsize

lemma finalFormat_trueColour (s : FbVarScreeninfo) : s.finalFormat.trueColour = true := by
  simp only [FbVarScreeninfo.finalFormat, FbVarScreeninfo.writeFormat, FbVarScreeninfo.passingFormat, initialFormat]
  split_ifs <;> rfl

lemma rotate_trueColour {g g' : FbVncServer out} (h : g.rotate = .ok g') :
    g'.vncscr.serverFormat.trueColour = true := by
  obtain ⟨width, height, -, heq⟩ := g.rotate_eq
  rw [heq, bind_eq_ok] at h
  obtain ⟨clients, -, hg⟩ := h
  cases hg
  exact finalFormat_trueColour g.scrinfo

end FbVncServer

theorem rotate_keeps_translation (g : FbVncServer out) (hs : g.scrinfo.TrueColour)
    (hc : ∀ cl ∈ g.vncscr.clients, cl.connected = true ∧ cl.Translatable) :
    (∃ g', g.rotate = .ok g' ∧
      ∀ cl ∈ g'.vncscr.clients, InStep g'.vncscr.serverFormat g'.vncscr.colourMap cl) ↔
    ∀ cl ∈ g.vncscr.clients, g.scrinfo.KeepsUp g.vncscr.serverFormat cl := by
  obtain ⟨width, height, -, heq⟩ := g.rotate_eq
  have hone : ∀ cl ∈ g.vncscr.clients, ((∃ cl', followFramebuffer (g.turned width height)
      (decide (g.scrinfo.passingFormat ≠ g.vncscr.serverFormat)) cl = .ok cl' ∧
        InStep g.scrinfo.finalFormat emptyMap cl') ↔
      g.scrinfo.KeepsUp g.vncscr.serverFormat cl) :=
    fun cl hcl => FbVarScreeninfo.follow_inStep_iff hs (hc cl hcl).2 (hc cl hcl).1 rfl rfl
  rw [← forall₂_congr hone, ← exists_mapM_ok_iff, heq]
  simp only [bind_eq_ok, pure_eq_ok, Except.ok.injEq]
  constructor
  · rintro ⟨_, ⟨clients, hm, rfl⟩, hi⟩
    exact ⟨clients, hm, hi⟩
  · rintro ⟨clients, hm, hi⟩
    exact ⟨_, ⟨clients, hm, rfl⟩, hi⟩

def argb : PixelFormat := ⟨32, 32, false, true, 255, 255, 255, 16, 8, 0⟩

def argbClient : RfbClient := ⟨argb, .rfbTranslateNone, none, true, true, false, false⟩

def watchedServer : FbVncServer .out32 where
  scrinfo := ⟨4, 2, 4, 2, 0, 0, 32, ⟨16, 8⟩, ⟨8, 8⟩, ⟨0, 8⟩⟩
  fbmmap := fun _ => 0
  vncbuf := fun _ => 0
  cmpbuf := fun _ => 0
  vncscr := { width := 4, height := 2, bitsPerPixel := 32, depth := 32, paddedWidthInBytes := 16,
              serverFormat := argb, colourMap := ⟨0, false, []⟩, cursorX := 0, cursorY := 0,
              clients := [argbClient] }
  idle := true
  testMode := 0
  rotation := 0
  i := 0
  j := 0
  marked := none

lemma watchedServer_trueColour : watchedServer.scrinfo.TrueColour := by
  constructor <;> decide

lemma watchedServer_clients : ∀ cl ∈ watchedServer.vncscr.clients, cl.connected = true ∧ cl.Translatable := by
  intro cl hcl
  rw [List.mem_singleton.mp hcl]
  exact ⟨rfl, by decide, rfl⟩

theorem rotate_keeps_translation_watched :
    (∃ g', watchedServer.rotate = .ok g' ∧
      ∀ cl ∈ g'.vncscr.clients, InStep g'.vncscr.serverFormat g'.vncscr.colourMap cl) ↔
    ∀ cl ∈ watchedServer.vncscr.clients,
      watchedServer.scrinfo.KeepsUp watchedServer.vncscr.serverFormat cl :=
  rotate_keeps_translation watchedServer watchedServer_trueColour watchedServer_clients

theorem rotate_divides_by_zero : watchedServer.scrinfo.TrueColour ∧
    (∀ cl ∈ watchedServer.vncscr.clients, cl.connected = true ∧ cl.Translatable) ∧
    watchedServer.rotate = .error .divisionByZero :=
  ⟨watchedServer_trueColour, watchedServer_clients, rfl⟩

end AndroidRemote.Display
