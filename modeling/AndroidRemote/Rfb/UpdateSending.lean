import AndroidRemote.Rfb.UpdateFaithful
import Mathlib.Tactic

/-! An update message against the regions: the plan leaves nothing requested unsent, and what the
viewer makes of the message keeps its picture right. -/

namespace AndroidRemote.Rfb

open Library

variable {β : Type} {n : ℕ} {screen : UpdateScreen β} {cl cl' : UpdateClient} {plan : UpdatePlan}

structure UpdateScreen.Lawful (screen : UpdateScreen β) : Prop where
  width : 0 < screen.width ∧ screen.width < 2 ^ 16
  height : 0 < screen.height ∧ screen.height < 2 ^ 16

lemma rects_inside {a : ScreenRegion} {m : Display.Rect} (h : a.pixels ⊆ rectPixels m) (rx ry : Bool) :
    ∀ r ∈ regionRects a.val rx ry, (r.x1 < r.x2 ∧ r.y1 < r.y2) ∧ Inside r m := by
  intro r hr
  obtain ⟨hx, hy⟩ := regionRects_bounds a rx ry r hr
  refine ⟨⟨hx, hy⟩, (rectPixels_subset_iff hx hy).mp fun p hp => h ?_⟩
  rw [← regionRects_pixels a rx ry]
  exact ⟨r, hr, hp⟩

section plan

lemma redrawCursor_spec (hs : screen.Lawful) (cl : UpdateClient) (region : ScreenRegion) :
    (cl.redrawCursor screen region).1 = { cl with
        cursorX := (cl.redrawCursor screen region).1.cursorX
        cursorY := (cl.redrawCursor screen region).1.cursorY } ∧
      region.pixels ⊆ (cl.redrawCursor screen region).2.pixels ∧
      (cl.redrawCursor screen region).2.pixels ⊆ region.pixels ∪ screen.cells ∧
      ∀ p ∈ screen.cells, p ∈ cl.hidden screen →
        p ∈ (cl.redrawCursor screen region).1.hidden screen ∨ p ∈ (cl.redrawCursor screen region).2.pixels := by
  have hpos : 0 < screen.width ∧ 0 < screen.height := ⟨hs.width.1, hs.height.1⟩
  unfold UpdateClient.redrawCursor
  split
  · obtain ⟨hsub, hin, hcover⟩ := redrawAfterHideCursor_pixels hpos cl region
    obtain ⟨hsub', hin', -⟩ := redrawAfterHideCursor_pixels hpos
      { cl with cursorX := screen.cursorX, cursorY := screen.cursorY } (cl.rfbRedrawAfterHideCursor screen region)
    exact ⟨rfl, hsub.trans hsub', hin'.trans (Set.union_subset hin Set.subset_union_right),
      fun p hp hh => .inr (hsub' (hcover ⟨hh, hp⟩))⟩
  · exact ⟨rfl, subset_rfl, Set.subset_union_left, fun p _ hh => .inl hh⟩

lemma limitRects_spec (hs : screen.Lawful) (cl : UpdateClient) {region : ScreenRegion}
    (h : region.pixels ⊆ screen.cells) :
    region.pixels ⊆ (cl.limitRects screen region).pixels ∧
    (cl.limitRects screen region).pixels ⊆ screen.cells := by
  dsimp only [UpdateClient.limitRects]
  split
  · by_cases hnil : region.val = []
    · have hbox : region.bbox.val = region.val := by
        rw [hnil]
        exact bbox_empty hnil
      rw [Subtype.ext hbox]
      exact ⟨subset_rfl, h⟩
    · obtain ⟨b, hpos, hbox, hcover, hleast⟩ := bbox_nonempty region hnil
      have hpix : region.bbox.pixels = rectPixels b :=
        (congrArg SraRegion.pixels hbox).trans (createRect_pixels b.x1 b.y1 b.x2 b.y2)
      have hsmall : ∀ p ∈ region.pixels, (1 - intMax ≤ p.1 ∧ p.1 < intMax) ∧ 1 - intMax ≤ p.2 ∧
        p.2 < intMax := by
        intro p hp
        have hin := h hp
        have hw := hs.width.2
        have hh := hs.height.2
        simp only [UpdateScreen.cells, mem_rectPixels] at hin
        simp only [intMax]
        omega
      rw [hpix]
      exact ⟨hcover, (rectPixels_subset_iff hpos.1 hpos.2).mpr ((hleast hsmall _).mpr h)⟩
  · exact ⟨subset_rfl, h⟩

structure Planned (screen : UpdateScreen β) (cl cl' : UpdateClient) (plan : UpdatePlan) : Prop where
  done : cl'.requestedRegion = Region.empty ∧ cl'.copyRegion = Region.empty
  timer : cl'.startDeferring = cl.startDeferring
  shift : plan.dx = cl.copyDX ∧ plan.dy = cl.copyDY
  movable : ∀ p ∈ plan.updateCopyRegion.pixels, p ∈ cl.copyRegion.pixels ∧ p ∉ cl.modifiedRegion.pixels ∧
    p ∈ cl.requestedRegion.pixels ∧ p - (cl.copyDX, cl.copyDY) ∈ cl.requestedRegion.pixels
  pending : ∀ p, p ∈ cl.modifiedRegion.pixels ∨ p ∈ cl.copyRegion.pixels →
    p ∈ cl'.modifiedRegion.pixels ∨ p ∈ plan.updateCopyRegion.pixels ∨ p ∈ plan.updateRegion.pixels
  asked : ∀ p ∈ cl.requestedRegion.pixels, p ∉ cl'.modifiedRegion.pixels
  sent : plan.updateRegion.pixels ⊆ screen.cells
  hidden : ∀ p ∈ screen.cells, p ∈ cl.hidden screen → p ∈ cl'.hidden screen ∨ p ∈ plan.updateRegion.pixels

lemma planUpdate_some (hs : screen.Lawful) (hq : cl.requestedRegion.pixels ⊆ screen.cells)
    (h : cl.planUpdate screen = (cl', some plan)) : Planned screen cl cl' plan := by
  simp only [UpdateClient.planUpdate] at h
  split at h
  · simp at h
  · set copyRegion := cl.copyRegion.subtract cl.modifiedRegion with hcopy
    set copies := (copyRegion.and cl.requestedRegion).and (cl.requestedRegion.offset cl.copyDX cl.copyDY) with hcopies
    set update := ((cl.modifiedRegion.or copyRegion).and cl.requestedRegion).subtract copies with hupdate
    set left := (((cl.modifiedRegion.or copyRegion).subtract update).subtract copies) with hleft
    set cl₁ : UpdateClient := { cl with
      modifiedRegion := left, requestedRegion := Region.empty, copyRegion := Region.empty, copyDX := 0, copyDY := 0 }
      with hcl₁
    obtain ⟨hrest, hsub, hin, hcursor⟩ := redrawCursor_spec hs cl₁ update
    obtain ⟨rfl, rfl⟩ : (cl₁.redrawCursor screen update).1 = cl' ∧
        UpdatePlan.mk ((cl₁.redrawCursor screen update).1.limitRects screen
          (cl₁.redrawCursor screen update).2) copies
          cl.copyDX cl.copyDY = plan := by
      simpa only [Prod.mk.injEq, Option.some.injEq] using h
    set cl₂ := (cl₁.redrawCursor screen update).1
    set drawn := (cl₁.redrawCursor screen update).2
    have hupdateIn : update.pixels ⊆ screen.cells := by
      rw [hupdate, Region.subtract_pixels, Region.and_pixels]
      exact fun p hp => hq hp.1.2
    obtain ⟨hlimit, hlimitIn⟩ := limitRects_spec hs cl₂ (hin.trans (Set.union_subset hupdateIn subset_rfl))
    have hleftPix : left.pixels =
        ((cl.modifiedRegion.pixels ∪ copyRegion.pixels) \ update.pixels) \ copies.pixels := by
      rw [hleft, Region.subtract_pixels, Region.subtract_pixels, Region.or_pixels]
    have hupdatePix : update.pixels =
        ((cl.modifiedRegion.pixels ∪ copyRegion.pixels) ∩ cl.requestedRegion.pixels) \ copies.pixels := by
      rw [hupdate, Region.subtract_pixels, Region.and_pixels, Region.or_pixels]
    have hmodified : cl₂.modifiedRegion = left := by rw [hrest]
    constructor
    · rw [hrest]
      exact ⟨rfl, rfl⟩
    · rw [hrest]
    · exact ⟨rfl, rfl⟩
    · intro p hp
      rw [hcopies, Region.and_pixels, Region.and_pixels, Region.offset_pixels, hcopy, Region.subtract_pixels] at hp
      exact ⟨hp.1.1.1, hp.1.1.2, hp.1.2, hp.2⟩
    · intro p hp
      have howed : p ∈ cl.modifiedRegion.pixels ∪ copyRegion.pixels := by
        rw [hcopy, Region.subtract_pixels]
        by_cases hm : p ∈ cl.modifiedRegion.pixels
        · exact .inl hm
        · exact .inr ⟨hp.resolve_left hm, hm⟩
      rw [hmodified, hleftPix]
      by_cases hc : p ∈ copies.pixels
      · exact .inr (.inl hc)
      · by_cases hu : p ∈ update.pixels
        · exact .inr (.inr (hlimit (hsub hu)))
        · exact .inl ⟨⟨howed, hu⟩, hc⟩
    · intro p hp hleft'
      rw [hmodified, hleftPix] at hleft'
      exact hleft'.1.2 (hupdatePix.ge ⟨⟨hleft'.1.1, hp⟩, hleft'.2⟩)
    · exact hlimitIn
    · exact fun p hp hh => (hcursor p hp hh).imp id fun h => hlimit h

lemma planUpdate_none (h : cl.planUpdate screen = (cl', none)) :
    cl' = { cl with copyRegion := cl.copyRegion.subtract cl.modifiedRegion } ∧
      ∀ p ∈ cl.requestedRegion.pixels, p ∉ cl.modifiedRegion.pixels ∧ p ∉ cl.copyRegion.pixels := by
  simp only [UpdateClient.planUpdate] at h
  split at h
  · next hquiet =>
    refine ⟨(congrArg Prod.fst h).symm, fun p hp => ?_⟩
    have hempty := pixels_of_empty hquiet.2.1
    rw [Region.and_pixels, Region.or_pixels, Region.subtract_pixels] at hempty
    have hnot : ¬ ((p ∈ cl.modifiedRegion.pixels ∨
      p ∈ cl.copyRegion.pixels ∧ p ∉ cl.modifiedRegion.pixels) ∧
        p ∈ cl.requestedRegion.pixels) := fun hboth => hempty.le hboth
    tauto
  · simp at h

end plan

section message

variable {translate : β → Pixel n} {pic : Picture (Pixel n)} {v : RfbViewer n}

lemma wireRect_covers {r : Display.Rect} {m : Display.Rect} (hm : 0 ≤ m.x1 ∧ 0 ≤ m.y1)
    (hpos : r.x1 < r.x2 ∧ r.y1 < r.y2)
    (h : Inside r m) (i j : ℕ) :
    (((WireRect.of r).x ≤ i ∧ i < (WireRect.of r).x + (WireRect.of r).w) ∧
      (WireRect.of r).y ≤ j ∧ j < (WireRect.of r).y + (WireRect.of r).h) ↔
        ((i, j) : ℤ × ℤ) ∈ rectPixels r := by
  simp only [Inside] at h
  simp only [WireRect.of, mem_rectPixels]
  omega

lemma drawRects_eq {a : ScreenRegion} (h : a.pixels ⊆ screen.cells) (view pic : Picture (Pixel n)) (i j : ℕ)
    [Decidable (((i, j) : ℤ × ℤ) ∈ a.pixels)] :
    drawRects view ((regionRects a.val false false).map .of) pic i j =
      if ((i, j) : ℤ × ℤ) ∈ a.pixels then view i j else pic i j := by
  have hmem : (∃ w ∈ (regionRects a.val false false).map WireRect.of,
      (w.x ≤ i ∧ i < w.x + w.w) ∧ w.y ≤ j ∧ j < w.y + w.h) ↔ ((i, j) : ℤ × ℤ) ∈ a.pixels := by
    rw [← regionRects_pixels a false false, mem_pieces]
    simp only [List.mem_map, exists_exists_and_eq_and]
    refine exists_congr fun r => and_congr_right fun hr => ?_
    obtain ⟨hpos, hin⟩ := rects_inside h false false r hr
    exact wireRect_covers ⟨le_rfl, le_rfl⟩ hpos hin i j
  have hfold := congrFun (congrFun (foldl_place view pic WireRect.x WireRect.y WireRect.w WireRect.h
    ((regionRects a.val false false).map .of)) i) j
  simp only [hmem] at hfold
  exact hfold

/-- A copy is sent when both ends of it are requested, so both are on the screen. -/
lemma Planned.onScreen (hp : Planned screen cl cl' plan)
    (hq : cl.requestedRegion.pixels ⊆ screen.cells) (rx ry : Bool) :
    ∀ r ∈ regionRects plan.updateCopyRegion.val rx ry, (r.x1 < r.x2 ∧ r.y1 < r.y2) ∧
      Inside r ⟨0, 0, screen.width, screen.height⟩ ∧
      Inside r ⟨plan.dx, plan.dy, screen.width + plan.dx, screen.height + plan.dy⟩ := by
  intro r hr
  obtain ⟨hdx, hdy⟩ := hp.shift
  obtain ⟨hpos, hdest⟩ := rects_inside (m := ⟨0, 0, screen.width, screen.height⟩)
    (fun p h => hq (hp.movable p h).2.2.1) rx ry r hr
  refine ⟨hpos, hdest, (rects_inside (fun p h => ?_) rx ry r hr).2⟩
  have hsrc := hq (hp.movable p h).2.2.2
  simp only [UpdateScreen.cells, mem_rectPixels, Prod.fst_sub, Prod.snd_sub] at hsrc ⊢
  omega

variable (translate pic) in
open scoped Classical in
lemma result_eq (hp : Planned screen cl cl' plan) (hq : cl.requestedRegion.pixels ⊆ screen.cells)
    (afterBufSize i j : ℕ) :
    (cl'.message screen afterBufSize translate plan).result pic i j =
      if ((i, j) : ℤ × ℤ) ∈ plan.updateRegion.pixels then translate (cl'.shown screen i j)
      else if ((i, j) : ℤ × ℤ) ∈ plan.updateCopyRegion.pixels then pic (i - plan.dx).toNat (j - plan.dy).toNat
      else pic i j := by
  have honScreen : ∀ r ∈ regionRects plan.updateCopyRegion.val (0 < plan.dx) (0 < plan.dy),
      OnScreen plan.dx plan.dy r := by
    intro r hr
    obtain ⟨hpos, hdest, hsrc⟩ := hp.onScreen hq _ _ r hr
    simp only [Inside] at hdest hsrc
    simp only [OnScreen]
    omega
  rw [RectUpdate.result, UpdateClient.message, drawRects_eq hp.sent, copyRegion_eq honScreen]

lemma sendable (hs : screen.Lawful) (hp : Planned screen cl cl' plan) (hq : cl.requestedRegion.pixels ⊆ screen.cells)
    (hv : v.width = screen.width ∧ v.height = screen.height) {afterBufSize : ℕ}
    (hroom : 4 + 16 * (cl'.message screen afterBufSize translate plan).copies.length ≤ updateBufSize)
    (hcount : (cl'.message screen afterBufSize translate plan).nRects < 0xFFFF) :
    (cl'.message screen afterBufSize translate plan).Sendable v := by
  have hw := hs.width.2
  have hh := hs.height.2
  refine ⟨fun w hw' => ?_, hroom, fun w hw' => ?_, hcount⟩
  · obtain ⟨r, hr, rfl⟩ := List.mem_map.mp hw'
    obtain ⟨hpos, hdest, hsrc⟩ := hp.onScreen hq _ _ r hr
    simp only [Inside] at hdest hsrc
    simp only [Copies, WireRect.of, UpdateClient.message, hv.1, hv.2]
    omega
  · obtain ⟨r, hr, rfl⟩ := List.mem_map.mp hw'
    obtain ⟨hpos, hin⟩ := rects_inside hp.sent false false r hr
    simp only [Inside] at hin
    simp only [RfbViewer.Shows, WireRect.of, hv.1, hv.2]
    omega

lemma rects_length_le {screen : UpdateScreen β} {a : ScreenRegion} (h : a.pixels ⊆ screen.cells) (rx ry : Bool) :
    (regionRects a.val rx ry).length ≤ screen.width * screen.height := by
  have hcorner : ∀ r ∈ regionRects a.val rx ry, (r.x1, r.y1) ∈ rectPixels r := by
    intro r hr
    obtain ⟨hx, hy⟩ := regionRects_bounds a rx ry r hr
    exact ⟨⟨le_rfl, hx⟩, le_rfl, hy⟩
  have hnodup : ((regionRects a.val rx ry).map fun r => (r.x1, r.y1)).Nodup := by
    refine List.pairwise_map.mpr ((regionRects_apart a rx ry).imp_of_mem ?_)
    intro r s hr hs hapart heq
    exact hapart _ (hcorner s hs) (heq ▸ hcorner r hr)
  have hsub : ((regionRects a.val rx ry).map fun r => (r.x1, r.y1)).toFinset ⊆
      Finset.Ico (0 : ℤ) screen.width ×ˢ Finset.Ico (0 : ℤ) screen.height := by
    intro p hp
    obtain ⟨r, hr, rfl⟩ := List.mem_map.mp (List.mem_toFinset.mp hp)
    have hin := h ((regionRects_pixels a rx ry).le ⟨r, hr, hcorner r hr⟩)
    simp only [UpdateScreen.cells, mem_rectPixels] at hin
    simp only [Finset.mem_product, Finset.mem_Ico]
    exact hin
  calc (regionRects a.val rx ry).length
      = ((regionRects a.val rx ry).map fun r => (r.x1, r.y1)).toFinset.card := by
        rw [List.toFinset_card_of_nodup hnodup, List.length_map]
    _ ≤ (Finset.Ico (0 : ℤ) screen.width ×ˢ Finset.Ico (0 : ℤ) screen.height).card := Finset.card_le_card hsub
    _ = screen.width * screen.height := by simp

lemma count_le (enc : PixelEncoding) {w h : ℕ} {r : WireRect} (hw : 0 < r.w ∧ r.w ≤ w)
    (hh : 0 < r.h ∧ r.h ≤ h) :
    enc.count r ≤ w * h := by
  have hcorre : ((r.w - 1) / correMaxWidth + 1) * ((r.h - 1) / correMaxHeight + 1) ≤ w * h := by
    refine Nat.mul_le_mul ?_ ?_
    · have hle := Nat.div_le_self (r.w - 1) correMaxWidth
      omega
    · have hle := Nat.div_le_self (r.h - 1) correMaxHeight
      omega
  have hone : 1 ≤ w * h := Nat.mul_pos (by omega) (by omega)
  cases enc with
  | corre => exact hcorre
  | raw => exact hone
  | rre => exact hone
  | hextile => exact hone

lemma fits_of_small (hp : Planned screen cl cl' plan) (hq : cl.requestedRegion.pixels ⊆ screen.cells)
    (hsmall : screen.width * screen.height ≤ 250) (afterBufSize : ℕ) :
    4 + 16 * (cl'.message screen afterBufSize translate plan).copies.length ≤ updateBufSize ∧
      (cl'.message screen afterBufSize translate plan).nRects < 0xFFFF := by
  have hcopies := rects_length_le (fun p hc => hq (hp.movable p hc).2.2.1) (0 < plan.dx) (0 < plan.dy)
  have hrects := rects_length_le hp.sent false false
  have hcounts :
      (((regionRects plan.updateRegion.val false false).map WireRect.of).map
          cl'.preferredEncoding.count).sum ≤
        ((regionRects plan.updateRegion.val false false).map WireRect.of).length *
          (screen.width * screen.height) := by
    rw [← List.length_map cl'.preferredEncoding.count]
    refine List.sum_le_card_nsmul _ _ fun k hk => ?_
    obtain ⟨w, hw, rfl⟩ := List.mem_map.mp hk
    obtain ⟨r, hr, rfl⟩ := List.mem_map.mp hw
    obtain ⟨hpos, hin⟩ := rects_inside hp.sent false false r hr
    simp only [Inside] at hin
    exact count_le _ (by simp only [WireRect.of]; omega) (by simp only [WireRect.of]; omega)
  rw [List.length_map] at hcounts
  have hbound := Nat.mul_le_mul_right (screen.width * screen.height) hrects
  have hsquare := Nat.mul_le_mul hsmall hsmall
  simp only [UpdateClient.message, RectUpdate.nRects, List.length_map, updateBufSize]
  constructor
  · omega
  · omega

lemma dot_nonempty : (0 : ℤ) < 1 ∧ (0 : ℤ) < 1 := ⟨Int.one_pos, Int.one_pos⟩

def showDot (x y : ℤ) (fb : Picture UInt8) : Picture UInt8 := fun i j =>
  if (i : ℤ) = x ∧ (j : ℤ) = y then UInt8.ofNat 255 else fb i j

lemma showDot_outside (x y : ℤ) (fb : Picture UInt8) (i j : ℕ)
    (h : ((i, j) : ℤ × ℤ) ∉ rectPixels ⟨x - 0, y - 0, x - 0 + 1, y - 0 + 1⟩) :
    showDot x y fb i j = fb i j := by
  refine if_neg fun hdot => h ?_
  simp only [mem_rectPixels]
  omega

def dotCursor : Cursor UInt8 where
  xhot := 0
  yhot := 0
  width := 1
  height := 1
  nonempty := dot_nonempty
  rfbShowCursor := showDot
  only_inside := showDot_outside

def smallScreen : UpdateScreen UInt8 := ⟨3, 2, fun i j => UInt8.ofNat (i + 3 * j), 2, 1, dotCursor, 50, 5⟩

lemma smallScreen_lawful : smallScreen.Lawful := ⟨by decide, by decide⟩

open scoped Classical in
/-- One update message: the viewer that reads it copies what is to be copied, all at once, and shows
what is sent; the rest of its picture stays. -/
theorem rfbSendFramebufferUpdate_shown (hs : screen.Lawful) (hv : v.Lawful)
    (hsize : v.width = screen.width ∧ v.height = screen.height) (hq : cl.requestedRegion.pixels ⊆ screen.cells)
    (hplan : cl.planUpdate screen = (cl', some plan)) {afterBufSize : ℕ}
    (hroom : 4 + 16 * (cl'.message screen afterBufSize translate plan).copies.length ≤ updateBufSize)
    (hcount : (cl'.message screen afterBufSize translate plan).nRects < 0xFFFF) (pad : UInt8) :
    ∃ bs, bs.length ≤ (cl'.message screen afterBufSize translate plan).bound ∧
      (∀ out, ∃ out', (cl'.message screen afterBufSize translate plan).sendUpdate pad out = some out' ∧
        out'.ublen = 0 ∧ out'.sent = out.sent ++ bs) ∧
      ∀ pic, ∃ pic', Reads (v.handleUpdate pic) bs pic' ∧ ∀ i j : ℕ,
        pic' i j = if ((i, j) : ℤ × ℤ) ∈ plan.updateRegion.pixels then translate (cl'.shown screen i j)
          else if ((i, j) : ℤ × ℤ) ∈ plan.updateCopyRegion.pixels then
            pic (i - plan.dx).toNat (j - plan.dy).toNat
          else pic i j := by
  have hp := planUpdate_some hs hq hplan
  obtain ⟨bs, hshort, hsend, hread⟩ := RectUpdate.sendUpdate_reads hv (sendable hs hp hq hsize hroom hcount) pad
  exact ⟨bs, hshort, hsend, fun pic => ⟨_, hread pic, result_eq translate pic hp hq afterBufSize⟩⟩

def smallClient : UpdateClient where
  modifiedRegion := Region.rect ⟨0, 0, 3, 2⟩ (by decide) (by decide)
  requestedRegion := Region.rect ⟨0, 0, 3, 2⟩ (by decide) (by decide)
  copyRegion := Region.empty
  copyDX := 0
  copyDY := 0
  useCopyRect := false
  cursorX := 2
  cursorY := 1
  preferredEncoding := .hextile
  startDeferring := ⟨0, 0⟩

lemma smallClient_pixels : smallClient.modifiedRegion.pixels = smallScreen.cells ∧
    smallClient.requestedRegion.pixels = smallScreen.cells :=
  ⟨Region.rect_pixels ⟨0, 0, 3, 2⟩ (by decide) (by decide),
    Region.rect_pixels ⟨0, 0, 3, 2⟩ (by decide) (by decide)⟩

lemma smallClient_plan : ∃ cl' plan, smallClient.planUpdate smallScreen = (cl', some plan) := by
  rcases hplan : smallClient.planUpdate smallScreen with ⟨cl', _ | plan⟩
  · obtain ⟨-, hnothing⟩ := planUpdate_none hplan
    obtain ⟨hm, hq⟩ := smallClient_pixels
    have hin : ((0, 0) : ℤ × ℤ) ∈ smallScreen.cells := by simp [UpdateScreen.cells, smallScreen]
    exact absurd (hm.ge hin) (hnothing _ (hq.ge hin)).1
  · exact ⟨cl', plan, rfl⟩

open scoped Classical in
theorem rfbSendFramebufferUpdate_shown_small :
    ∃ cl' plan bs, smallClient.planUpdate smallScreen = (cl', some plan) ∧
      bs.length ≤ (cl'.message smallScreen 64 onePixel plan).bound ∧
      (∀ out, ∃ out', (cl'.message smallScreen 64 onePixel plan).sendUpdate 0 out = some out' ∧
        out'.ublen = 0 ∧ out'.sent = out.sent ++ bs) ∧
      ∀ pic, ∃ pic', Reads (smallViewer.handleUpdate pic) bs pic' ∧ ∀ i j : ℕ,
        pic' i j = if ((i, j) : ℤ × ℤ) ∈ plan.updateRegion.pixels then onePixel (cl'.shown smallScreen i j)
          else if ((i, j) : ℤ × ℤ) ∈ plan.updateCopyRegion.pixels then
            pic (i - plan.dx).toNat (j - plan.dy).toNat
          else pic i j := by
  obtain ⟨cl', plan, hplan⟩ := smallClient_plan
  have hq := smallClient_pixels.2.le
  obtain ⟨hroom, hcount⟩ := fits_of_small (planUpdate_some smallScreen_lawful hq hplan) hq (by decide) 64
  obtain ⟨bs, hshown⟩ := rfbSendFramebufferUpdate_shown smallScreen_lawful smallViewer_lawful
    ⟨rfl, rfl⟩ hq hplan
    hroom hcount 0
  exact ⟨cl', plan, bs, hplan, hshown⟩

lemma shown_eq {p : ℤ × ℤ} (hin : p ∈ screen.cells) (hp : p ∉ cl.hidden screen) :
    cl.shown screen p.1.toNat p.2.toNat = screen.frameBuffer p.1.toNat p.2.toNat := by
  simp only [UpdateScreen.cells, mem_rectPixels] at hin
  refine screen.cursor.only_inside _ _ _ _ _ ?_
  rwa [Int.toNat_of_nonneg hin.1.1, Int.toNat_of_nonneg hin.2.1]

lemma faithful_update (hf : cl.Faithful translate screen pic) (hp : Planned screen cl cl' plan)
    (hq : cl.requestedRegion.pixels ⊆ screen.cells) (afterBufSize : ℕ) :
    cl'.Faithful translate screen ((cl'.message screen afterBufSize translate plan).result pic) := by
  have hresult := result_eq translate pic hp hq afterBufSize
  have hcell (p : ℤ × ℤ) (hin : p ∈ screen.cells) : ((p.1.toNat, p.2.toNat) : ℤ × ℤ) = p := by
    simp only [UpdateScreen.cells, mem_rectPixels] at hin
    exact Prod.ext (Int.toNat_of_nonneg hin.1.1) (Int.toNat_of_nonneg hin.2.1)
  unfold UpdateClient.Faithful UpdateClient.mirror
  rw [hp.done.2, empty_pixels]
  refine Mirror.Faithful.send hf (fun p hin hs => ?_) (fun p hin hc hs => ?_) (fun p hin hc hs => ?_)
    (fun p hin hh => congrArg translate (shown_eq hin hh)) (fun p hin hc => ?_)
      (fun p _ ho => hp.pending p ho) hp.hidden
    (cl'.copyDX, cl'.copyDY)
  · rw [hresult, hcell p hin, if_pos hs]
  · rw [hresult, hcell p hin, if_neg hs, if_pos hc, hp.shift.1, hp.shift.2]
    simp only [UpdateScreen.cells, mem_rectPixels] at hin
    simp only [UpdateClient.mirror, Prod.fst_sub, Prod.snd_sub, Int.toNat_of_nonneg hin.1.1,
      Int.toNat_of_nonneg hin.2.1]
  · rw [hresult, hcell p hin, if_neg hs, if_neg hc]
    rfl
  · obtain ⟨hmoved, hclean, -, hsrc⟩ := hp.movable p hc
    exact ⟨hmoved, hclean, hq hsrc⟩

end message

end AndroidRemote.Rfb
