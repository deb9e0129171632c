import AndroidRemote.Library.Fallible
import AndroidRemote.Rfb.Translate

/-! When the translation tables can be built, and what they then hold. -/

namespace AndroidRemote.Rfb

open AndroidRemote.Library

def outColourValue (inColour inMax outMax : BitVec 32) : BitVec 32 :=
  (inColour * outMax + inMax.sdiv 2).sdiv inMax

lemma outColour_ok {inMax : ℕ} (h : 0 < inMax ∧ inMax < 2 ^ 16) (inColour outMax : BitVec 32) :
    outColour inColour (.ofNat 32 inMax) outMax = .ok (outColourValue inColour (.ofNat 32 inMax) outMax) :=
  divide_ok _ (ofNat_ne_zero h)

lemma outColour_zero (inColour outMax : BitVec 32) :
    outColour inColour (.ofNat 32 0) outMax = .error .divisionByZero := divide_zero _

def pixelValue (out : ℕ) (i o : PixelFormat) (k : ℕ) : BitVec 32 :=
  let pixel := BitVec.ofNat 32 k
  let inRed := (pixel >>> i.redShift) &&& BitVec.ofNat 32 i.redMax
  let inGreen := (pixel >>> i.greenShift) &&& BitVec.ofNat 32 i.greenMax
  let inBlue := (pixel >>> i.blueShift) &&& BitVec.ofNat 32 i.blueMax
  storeEntry out (o.bigEndian != i.bigEndian)
    ((outColourValue inRed (.ofNat 32 i.redMax) (.ofNat 32 o.redMax) <<< o.redShift) |||
      (outColourValue inGreen (.ofNat 32 i.greenMax) (.ofNat 32 o.greenMax) <<< o.greenShift) |||
      (outColourValue inBlue (.ofNat 32 i.blueMax) (.ofNat 32 o.blueMax) <<< o.blueShift))

lemma singleTableEntry_ok {i : PixelFormat} (hi : i.Coloured) (out : ℕ) (o : PixelFormat) (k : ℕ) :
    singleTableEntry out i o k = .ok (pixelValue out i o k) := by
  simp only [singleTableEntry, outColour_ok hi.red, outColour_ok hi.green, outColour_ok hi.blue,
    ok_bind, pure_eq_ok, pixelValue]

lemma rfbInitTrueColourSingleTable_ok {i : PixelFormat} (hi : i.Coloured) (out : ℕ) (o : PixelFormat) :
    rfbInitTrueColourSingleTable out i o =
      .ok ((List.range (2 ^ i.bitsPerPixel)).map (pixelValue out i o)) :=
  mapM_ok_map _ (fun k _ => singleTableEntry_ok hi out o k)

lemma rfbInitOneRGBTable_ok {inMax : ℕ} (h : 0 < inMax ∧ inMax < 2 ^ 16) (out outMax outShift : ℕ)
    (swap : Bool) : ∃ table, rfbInitOneRGBTable out inMax outMax outShift swap = .ok table := by
  refine ⟨_, mapM_ok_map (fun k => storeEntry out swap
    (outColourValue (.ofNat 32 k) (.ofNat 32 inMax) (.ofNat 32 outMax) <<< outShift)) ?_⟩
  intro k _
  simp only [outColour_ok h, ok_bind, pure_eq_ok]

lemma rfbInitTrueColourRGBTables_ok {i : PixelFormat} (hi : i.Coloured) (out : ℕ) (o : PixelFormat) :
    ∃ table, rfbInitTrueColourRGBTables out i o = .ok table := by
  let swap := o.bigEndian != i.bigEndian
  obtain ⟨red, hr⟩ := rfbInitOneRGBTable_ok hi.red out o.redMax o.redShift swap
  obtain ⟨green, hg⟩ := rfbInitOneRGBTable_ok hi.green out o.greenMax o.greenShift swap
  obtain ⟨blue, hb⟩ := rfbInitOneRGBTable_ok hi.blue out o.blueMax o.blueShift swap
  refine ⟨red ++ green ++ blue, ?_⟩
  simp only [rfbInitTrueColourRGBTables, hr, hg, hb, swap, ok_bind, pure_eq_ok]

lemma rfbInitTrueColourSingleTable_zero {i : PixelFormat} (hi : i.redMax = 0) (out : ℕ) (o : PixelFormat) :
    rfbInitTrueColourSingleTable out i o = .error .divisionByZero := by
  obtain ⟨n, hn⟩ : ∃ n, 2 ^ i.bitsPerPixel = n + 1 :=
    Nat.exists_eq_succ_of_ne_zero (by positivity)
  rw [rfbInitTrueColourSingleTable, hn, List.range_succ_eq_map]
  apply mapM_error_head
  simp only [singleTableEntry, hi, outColour_zero, error_bind]

lemma rfbInitTrueColourRGBTables_zero {i : PixelFormat} (hi : i.redMax = 0) (out : ℕ) (o : PixelFormat) :
    rfbInitTrueColourRGBTables out i o = .error .divisionByZero := by
  have hr : rfbInitOneRGBTable out 0 o.redMax o.redShift (o.bigEndian != i.bigEndian) =
      .error .divisionByZero := by
    apply mapM_error_head
    simp only [outColour_zero, error_bind]
  simp only [rfbInitTrueColourRGBTables, hi, hr, error_bind]

variable {server : PixelFormat} {colourMap : ColourMap} {cl : RfbClient}

structure RfbClient.Translatable (cl : RfbClient) : Prop where
  bpp : ValidBpp cl.format.bitsPerPixel
  trueColour : cl.format.trueColour = true

lemma rfbSetTranslateFunction_eq (hs : ValidBpp server.bitsPerPixel) (hc : cl.Translatable) :
    rfbSetTranslateFunction server colourMap cl = chooseTranslation server colourMap cl := by
  simp [rfbSetTranslateFunction, hs, hc.bpp, hc.trueColour]

lemma chooseTranslation_same (h : PfEq cl.format server) :
    chooseTranslation server colourMap cl = .ok { cl with translateFn := .rfbTranslateNone } := by
  simp [chooseTranslation, h]

lemma chooseTranslation_other (colourMap : ColourMap) (hs : server.Coloured) (ht : server.trueColour = true)
    (h : ¬ PfEq cl.format server) : ∃ fn table, fn ≠ .rfbTranslateNone ∧
      chooseTranslation server colourMap cl =
        .ok { cl with translateFn := fn, translateLookupTable := some table } := by
  obtain ⟨rgb, hrgb⟩ := rfbInitTrueColourRGBTables_ok hs cl.format.bitsPerPixel cl.format
  have hsingle := rfbInitTrueColourSingleTable_ok hs cl.format.bitsPerPixel cl.format
  rw [chooseTranslation, if_neg h]
  split_ifs
  · refine ⟨_, _, ?_, by simp only [hsingle, ok_bind, pure_eq_ok]; rfl⟩
    simp
  · refine ⟨_, _, ?_, by simp only [hrgb, ok_bind, pure_eq_ok]; rfl⟩
    simp

lemma chooseTranslation_single (hs : server.Coloured) (ht : server.trueColour = true)
    (hb : server.bitsPerPixel = 8) (h : ¬ PfEq cl.format server) :
    chooseTranslation server colourMap cl = .ok { cl with
      translateFn := .rfbTranslateWithSingleTable 8 cl.format.bitsPerPixel
      translateLookupTable :=
        some ((List.range 256).map (pixelValue cl.format.bitsPerPixel server cl.format)) } := by
  have hsingle := rfbInitTrueColourSingleTable_ok hs cl.format.bitsPerPixel cl.format
  rw [hb] at hsingle
  simp [chooseTranslation, h, hb, ht, hsingle]

lemma chooseTranslation_zero (hz : server.redMax = 0) (ht : server.trueColour = true)
    (h : ¬ PfEq cl.format server) :
    chooseTranslation server colourMap cl = .error .divisionByZero := by
  rw [chooseTranslation, if_neg h]
  split_ifs
  · simp only [rfbInitTrueColourSingleTable_zero hz, error_bind]
  · simp only [rfbInitTrueColourRGBTables_zero hz, error_bind]

lemma RfbClient.Translatable.built {built : RfbClient} (hs : ValidBpp server.bitsPerPixel)
    (hc : cl.Translatable) (h : rfbSetTranslateFunction server colourMap cl = .ok built) :
    built.Translatable := by
  rw [rfbSetTranslateFunction_eq hs hc] at h
  have hformat : built.format = cl.format := by
    rw [chooseTranslation] at h
    by_cases hsame : PfEq cl.format server
    · rw [if_pos hsame, Except.ok.injEq] at h
      rw [← h]
    · rw [if_neg hsame] at h
      split_ifs at h
      all_goals
        obtain ⟨table, -, hb⟩ := bind_eq_ok.mp h
        cases hb
        rfl
  exact ⟨hformat ▸ hc.bpp, hformat ▸ hc.trueColour⟩

def InStep (server : PixelFormat) (colourMap : ColourMap) (cl : RfbClient) : Prop :=
  ∃ built, rfbSetTranslateFunction server colourMap cl = .ok built ∧
    built.translateFn = cl.translateFn ∧ built.translateLookupTable = cl.translateLookupTable

lemma chooseTranslation_pending (pending : Bool) :
    chooseTranslation server colourMap { cl with newFBSizePending := pending } =
      (chooseTranslation server colourMap cl).map (fun c => { c with newFBSizePending := pending }) := by
  simp only [chooseTranslation]
  by_cases hsame : PfEq cl.format server
  · rw [if_pos hsame, if_pos hsame]
    rfl
  · rw [if_neg hsame, if_neg hsame]
    split_ifs <;> rw [map_bind] <;> rfl

lemma inStep_pending (hs : ValidBpp server.bitsPerPixel) (hc : cl.Translatable) (pending : Bool) :
    InStep server colourMap { cl with newFBSizePending := pending } ↔ InStep server colourMap cl := by
  have hc' : RfbClient.Translatable { cl with newFBSizePending := pending } := ⟨hc.bpp, hc.trueColour⟩
  simp only [InStep, rfbSetTranslateFunction_eq hs hc, rfbSetTranslateFunction_eq hs hc',
    chooseTranslation_pending]
  cases chooseTranslation server colourMap cl <;> simp [Except.map]

lemma inStep_same (hs : ValidBpp server.bitsPerPixel) (hc : cl.Translatable)
    (h : PfEq cl.format server) :
    InStep server colourMap cl ↔ cl.translateFn = .rfbTranslateNone := by
  simp [InStep, rfbSetTranslateFunction_eq hs hc, chooseTranslation_same h, eq_comm]

lemma inStep_other (hs : ValidBpp server.bitsPerPixel) (hv : server.Coloured)
    (ht : server.trueColour = true) (hc : cl.Translatable) (h : ¬ PfEq cl.format server)
    (hi : InStep server colourMap cl) : cl.translateFn ≠ .rfbTranslateNone := by
  obtain ⟨fn, table, hfn, hb⟩ := chooseTranslation_other colourMap hv ht h
  obtain ⟨built, hbuilt, hf, _⟩ := hi
  rw [rfbSetTranslateFunction_eq hs hc, hb, Except.ok.injEq] at hbuilt
  rw [← hf, ← hbuilt]
  exact hfn

lemma inStep_single (hv : server.Coloured) (ht : server.trueColour = true)
    (hb : server.bitsPerPixel = 8) (hc : cl.Translatable) (h : ¬ PfEq cl.format server) :
    InStep server colourMap cl ↔
      cl.translateFn = .rfbTranslateWithSingleTable 8 cl.format.bitsPerPixel ∧
      cl.translateLookupTable =
        some ((List.range 256).map (pixelValue cl.format.bitsPerPixel server cl.format)) := by
  simp [InStep, rfbSetTranslateFunction_eq (.inl hb) hc, chooseTranslation_single hv ht hb h, eq_comm]

end AndroidRemote.Rfb
