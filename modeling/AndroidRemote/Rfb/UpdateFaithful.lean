import AndroidRemote.Library.Mirror
import AndroidRemote.Rfb.UpdateRegions
import Mathlib.Algebra.Group.Prod
import Mathlib.Tactic

/-! The regions of a client against its picture: every cell of the screen that is neither modified
nor to be copied is shown as it is, except under the cursor. -/

namespace AndroidRemote.Rfb

open Library

variable {β : Type} {n : ℕ}

def UpdateScreen.cells (screen : UpdateScreen β) : Set (ℤ × ℤ) :=
  rectPixels ⟨0, 0, screen.width, screen.height⟩

namespace UpdateClient

def hidden (screen : UpdateScreen β) (cl : UpdateClient) : Set (ℤ × ℤ) := rectPixels (cl.cursorRect screen)

/-- The client's regions as an account of `pic`, what the viewer holds. -/
def mirror (translate : β → Pixel n) (screen : UpdateScreen β) (cl : UpdateClient) (pic : Picture (Pixel n)) :
    Mirror (ℤ × ℤ) (Pixel n) where
  picture p := translate (screen.frameBuffer p.1.toNat p.2.toNat)
  copy p := pic p.1.toNat p.2.toNat
  dirty := cl.modifiedRegion.pixels
  moved := cl.copyRegion.pixels
  shift := (cl.copyDX, cl.copyDY)
  hidden := cl.hidden screen

abbrev Faithful (translate : β → Pixel n) (screen : UpdateScreen β) (cl : UpdateClient) (pic : Picture (Pixel n)) :
    Prop :=
  (cl.mirror translate screen pic).Faithful screen.cells

end UpdateClient

section regions

lemma createRect_eq_some {r : Display.Rect} {region : ScreenRegion} (h : createRect r = some region) :
    (r.x1 < r.x2 ∧ r.y1 < r.y2) ∧ region.pixels = rectPixels r := by
  unfold createRect at h
  split at h
  · next hr =>
    obtain rfl := Option.some.inj h
    exact ⟨hr, Region.rect_pixels r hr.1 hr.2⟩
  · simp at h

lemma empty_pixels : (Region.empty : ScreenRegion).pixels = ∅ := by
  ext p
  simp [Region.pixels, Region.empty, SraRegion.pixels, sraRgnCreate]

lemma pixels_of_empty {region : ScreenRegion} (h : sraRgnEmpty region.val = true) : region.pixels = ∅ := by
  have hnil : region.val = [] := by simpa [sraRgnEmpty, sraSpanListEmpty] using h
  ext p
  simp [Region.pixels, hnil, SraRegion.pixels]

lemma markUnlessEmpty_pixels (cl : UpdateClient) (region : ScreenRegion) :
    (cl.markUnlessEmpty region).modifiedRegion.pixels = cl.modifiedRegion.pixels ∪ region.pixels := by
  unfold UpdateClient.markUnlessEmpty
  split
  · exact Region.or_pixels _ _
  · next h =>
    have hempty : sraRgnEmpty region.val = true := by simpa using h
    rw [pixels_of_empty hempty, Set.union_empty]

lemma markUnlessEmpty_rest (cl : UpdateClient) (region : ScreenRegion) :
    cl.markUnlessEmpty region = { cl with modifiedRegion := (cl.markUnlessEmpty region).modifiedRegion } := by
  unfold UpdateClient.markUnlessEmpty
  split <;> rfl

lemma clip_side {x x2 size : ℤ} (hsize : 0 < size) (hx : x < x2) :
    let a := if x < 0 then 0 else x
    let b := if size ≤ a then size - 1 else a
    let c := if x2 ≤ 0 then 0 + 1 else x2
    let d := if size < c then size else c
    b < d ∧ 0 ≤ b ∧ d ≤ size ∧ ∀ p, 0 ≤ p → p < size → x ≤ p → p < x2 → b ≤ p ∧ p < d := by
  intro a b c d
  refine ⟨?_, ?_, ?_, fun p _ _ _ _ => ⟨?_, ?_⟩⟩ <;> simp only [a, b, c, d] <;> split_ifs <;> omega

lemma sraClipRect2_spec {screen : UpdateScreen β} (hpos : 0 < screen.width ∧ 0 < screen.height) {r : Display.Rect}
    (hr : r.x1 < r.x2 ∧ r.y1 < r.y2) :
    ∃ c, sraClipRect2 r 0 0 screen.width screen.height = some c ∧ (c.x1 < c.x2 ∧ c.y1 < c.y2) ∧
      rectPixels c ⊆ screen.cells ∧ rectPixels r ∩ screen.cells ⊆ rectPixels c := by
  obtain ⟨hx, hx₀, hxw, hxin⟩ := clip_side (Int.natCast_pos.mpr hpos.1) hr.1
  obtain ⟨hy, hy₀, hyh, hyin⟩ := clip_side (Int.natCast_pos.mpr hpos.2) hr.2
  refine ⟨_, if_pos ⟨hx, hy⟩, ⟨hx, hy⟩, ?_, ?_⟩
  · rintro p ⟨⟨hp₁, hp₂⟩, hp₃, hp₄⟩
    exact ⟨⟨hx₀.trans hp₁, hp₂.trans_le hxw⟩, hy₀.trans hp₃, hp₄.trans_le hyh⟩
  · rintro p ⟨⟨⟨hp₁, hp₂⟩, hp₃, hp₄⟩, ⟨hs₁, hs₂⟩, hs₃, hs₄⟩
    exact ⟨hxin p.1 hs₁ hs₂ hp₁ hp₂, hyin p.2 hs₃ hs₄ hp₃ hp₄⟩

lemma redrawAfterHideCursor_pixels {screen : UpdateScreen β}
    (hpos : 0 < screen.width ∧ 0 < screen.height) (cl : UpdateClient)
    (region : ScreenRegion) :
    region.pixels ⊆ (cl.rfbRedrawAfterHideCursor screen region).pixels ∧
      (cl.rfbRedrawAfterHideCursor screen region).pixels ⊆ region.pixels ∪ screen.cells ∧
      rectPixels (cl.cursorRect screen) ∩ screen.cells ⊆ (cl.rfbRedrawAfterHideCursor screen region).pixels := by
  have hcursor : (cl.cursorRect screen).x1 < (cl.cursorRect screen).x2 ∧
      (cl.cursorRect screen).y1 < (cl.cursorRect screen).y2 :=
    ⟨lt_add_of_pos_right _ screen.cursor.nonempty.1, lt_add_of_pos_right _ screen.cursor.nonempty.2⟩
  obtain ⟨c, hclip, hc, hin, hcover⟩ := sraClipRect2_spec hpos hcursor
  have hadd : cl.rfbRedrawAfterHideCursor screen region = region.or (Region.rect c hc.1 hc.2) := by
    simp only [UpdateClient.rfbRedrawAfterHideCursor, hclip, Option.bind_some, createRect, dif_pos hc]
  rw [hadd, Region.or_pixels, Region.rect_pixels]
  exact ⟨Set.subset_union_left, Set.union_subset_union_right _ hin, hcover.trans Set.subset_union_right⟩

end regions

section steps

variable {translate : β → Pixel n} {screen : UpdateScreen β} {cl cl' : UpdateClient} {pic : Picture (Pixel n)}

lemma faithful_new (h : rfbNewClient screen = some cl) (pic : Picture (Pixel n)) :
    cl.Faithful translate screen pic := by
  obtain ⟨region, hregion, rfl⟩ : ∃ region,
      createRect ⟨0, 0, screen.width, screen.height⟩ = some region ∧ _ = cl := by
    simpa [rfbNewClient, Option.bind_eq_some_iff] using h
  have hall : region.pixels = screen.cells := (createRect_eq_some hregion).2
  exact Mirror.Faithful.all_dirty fun p hp => hall.ge hp

lemma UpdateClient.Faithful.modify (hf : cl.Faithful translate screen pic) {frameBuffer : Picture β}
    (hchanged : ∀ p ∈ screen.cells, p ∉ cl'.modifiedRegion.pixels →
      frameBuffer p.1.toNat p.2.toNat = screen.frameBuffer p.1.toNat p.2.toNat)
    (hdirty : cl.modifiedRegion.pixels ⊆ cl'.modifiedRegion.pixels)
    (hmoved : ∀ p, p ∈ cl.copyRegion.pixels → p ∈ cl'.copyRegion.pixels ∨ p ∈ cl'.modifiedRegion.pixels)
    (hsub : cl'.copyRegion.pixels ⊆ cl.copyRegion.pixels)
    (hshift : cl'.copyDX = cl.copyDX ∧ cl'.copyDY = cl.copyDY)
    (hhidden : ∀ p ∈ screen.cells, p ∈ cl.hidden screen →
      p ∈ cl'.hidden { screen with frameBuffer := frameBuffer } ∨ p ∈ cl'.modifiedRegion.pixels) :
    cl'.Faithful translate { screen with frameBuffer := frameBuffer } pic := by
  unfold UpdateClient.Faithful UpdateClient.mirror
  rw [hshift.1, hshift.2]
  exact Mirror.Faithful.mark hf (fun p hp hd => congrArg translate (hchanged p hp hd)) (fun p _ hd => hdirty hd)
    (fun p _ hm => hmoved p hm) (fun p _ hm => hsub hm) hhidden

def spanned (x1 y1 x2 y2 : ℤ) : Display.Rect := ⟨min x1 x2, min y1 y2, max x1 x2, max y1 y2⟩

lemma sorted_pair (a b : ℤ) : (if b < a then (b, a) else (a, b)) = (min a b, max a b) := by
  split <;> simp only [Prod.mk.injEq] <;> omega

lemma markRect_eq (x1 y1 x2 y2 : ℤ) :
    cl.rfbMarkRectAsModified screen x1 y1 x2 y2 =
      if max 0 (min x1 x2) = min (screen.width : ℤ) (max x1 x2) then some cl
      else if max 0 (min y1 y2) = min (screen.height : ℤ) (max y1 y2) then some cl
      else (createRect ⟨max 0 (min x1 x2), max 0 (min y1 y2), min (screen.width : ℤ) (max x1 x2),
        min (screen.height : ℤ) (max y1 y2)⟩).map cl.rfbMarkRegionAsModified := by
  have hlow (a : ℤ) : (if a < 0 then 0 else a) = max 0 a := by split <;> omega
  have hhigh (a b : ℤ) : (if b < a then b else a) = min b a := by split <;> omega
  simp only [UpdateClient.rfbMarkRectAsModified, sorted_pair, hlow, hhigh]

lemma markRect_some {x1 y1 x2 y2 : ℤ} (hx : 0 ≤ max x1 x2 ∧ min x1 x2 ≤ screen.width)
    (hy : 0 ≤ max y1 y2 ∧ min y1 y2 ≤ screen.height) :
    ∃ cl', cl.rfbMarkRectAsModified screen x1 y1 x2 y2 = some cl' := by
  rw [markRect_eq]
  split
  · exact ⟨_, rfl⟩
  · split
    · exact ⟨_, rfl⟩
    · rw [createRect, dif_pos (by dsimp only; omega)]
      exact ⟨_, rfl⟩

lemma markRect_spec {x1 y1 x2 y2 : ℤ} (h : cl.rfbMarkRectAsModified screen x1 y1 x2 y2 = some cl') :
    ∃ region, cl' = { cl with modifiedRegion := region } ∧ cl.modifiedRegion.pixels ⊆ region.pixels ∧
      ∀ p ∈ screen.cells, p ∈ rectPixels (spanned x1 y1 x2 y2) → p ∈ region.pixels := by
  rw [markRect_eq] at h
  have hnone (heq : max 0 (min x1 x2) = min (screen.width : ℤ) (max x1 x2) ∨
      max 0 (min y1 y2) = min (screen.height : ℤ) (max y1 y2)) (p : ℤ × ℤ) (hp : p ∈ screen.cells)
      (hr : p ∈ rectPixels (spanned x1 y1 x2 y2)) : p ∈ cl.modifiedRegion.pixels := by
    simp only [UpdateScreen.cells, mem_rectPixels, spanned] at hp hr
    omega
  split at h
  · next heq =>
    obtain rfl := Option.some.inj h
    exact ⟨cl.modifiedRegion, rfl, subset_rfl, hnone (.inl heq)⟩
  · split at h
    · next heq =>
      obtain rfl := Option.some.inj h
      exact ⟨cl.modifiedRegion, rfl, subset_rfl, hnone (.inr heq)⟩
    · obtain ⟨rect, hrect, rfl⟩ := Option.map_eq_some_iff.mp h
      refine ⟨_, rfl, ?_, fun p hp hr => ?_⟩
      · rw [Region.or_pixels]
        exact Set.subset_union_left
      · rw [Region.or_pixels, (createRect_eq_some hrect).2]
        refine .inr ?_
        simp only [UpdateScreen.cells, mem_rectPixels, spanned] at hp hr ⊢
        omega

lemma faithful_draw (hf : cl.Faithful translate screen pic) {x1 y1 x2 y2 : ℤ} {frameBuffer : Picture β}
    (h : cl.rfbMarkRectAsModified { screen with frameBuffer := frameBuffer } x1 y1 x2 y2 = some cl')
    (hchanged : ∀ p ∈ screen.cells, p ∉ rectPixels (spanned x1 y1 x2 y2) →
      frameBuffer p.1.toNat p.2.toNat = screen.frameBuffer p.1.toNat p.2.toNat) :
    cl'.Faithful translate { screen with frameBuffer := frameBuffer } pic := by
  obtain ⟨region, rfl, hsub, hmark⟩ := markRect_spec h
  refine hf.modify (fun p hp hd => hchanged p hp fun hr => hd (hmark p hp hr)) hsub (fun p hm => .inl hm) subset_rfl
    ⟨rfl, rfl⟩ fun p _ hh => .inl hh

lemma clipSide_spec {x w size w' : ℕ} (h : UpdateClient.clipSide x w size = some w') : x + w' ≤ size := by
  simp only [UpdateClient.clipSide, Option.ite_none_left_eq_some, Option.some.injEq, not_lt] at h
  split at h <;> omega

lemma request_spec {incremental : Bool} {x y w h : ℕ}
    (hr : cl.rfbFramebufferUpdateRequest screen incremental x y w h = some cl') :
    cl' = cl ∨ ∃ rect : ScreenRegion, rect.pixels ⊆ screen.cells ∧
      cl'.requestedRegion.pixels = cl.requestedRegion.pixels ∪ rect.pixels ∧
      cl' = { cl with
        requestedRegion := cl'.requestedRegion
        modifiedRegion := if incremental then cl.modifiedRegion else cl.modifiedRegion.or rect
        copyRegion := if incremental then cl.copyRegion else cl.copyRegion.subtract rect } := by
  unfold UpdateClient.rfbFramebufferUpdateRequest at hr
  split at hr
  · next w' h' hw hh =>
    right
    obtain ⟨rect, hrect, hcl⟩ := Option.bind_eq_some_iff.mp hr
    have hpix := (createRect_eq_some hrect).2
    have hw' := clipSide_spec hw
    have hh' := clipSide_spec hh
    refine ⟨rect, ?_, ?_⟩
    · rw [hpix]
      rintro p ⟨⟨hp₁, hp₂⟩, hp₃, hp₄⟩
      simp only [UpdateScreen.cells, mem_rectPixels]
      simp only at hp₁ hp₂ hp₃ hp₄
      omega
    · cases incremental with
      | true =>
        obtain rfl : _ = cl' := by simpa using hcl
        exact ⟨Region.or_pixels _ _, rfl⟩
      | false =>
        obtain rfl : _ = cl' := by simpa using hcl
        exact ⟨Region.or_pixels _ _, rfl⟩
  · exact .inl (Option.some.inj hr).symm

lemma faithful_request (hf : cl.Faithful translate screen pic) {incremental : Bool} {x y w h : ℕ}
    (hr : cl.rfbFramebufferUpdateRequest screen incremental x y w h = some cl') :
    cl'.Faithful translate screen pic := by
  obtain rfl | ⟨rect, -, -, heq⟩ := request_spec hr
  · exact hf
  · rw [heq]
    refine hf.modify (fun _ _ _ => rfl) ?_ (fun p hp => ?_) ?_ ⟨rfl, rfl⟩ fun p _ hh => .inl hh
    · cases incremental with
      | true => exact subset_rfl
      | false =>
        simp only [Bool.false_eq_true, if_false, Region.or_pixels]
        exact Set.subset_union_left
    · cases incremental with
      | true => exact .inl hp
      | false =>
        simp only [Bool.false_eq_true, if_false, Region.or_pixels, Region.subtract_pixels]
        by_cases hin : p ∈ rect.pixels
        · exact .inr (.inr hin)
        · exact .inl ⟨hp, hin⟩
    · cases incremental with
      | true => exact subset_rfl
      | false =>
        simp only [Bool.false_eq_true, if_false, Region.subtract_pixels]
        exact Set.sdiff_subset

/-- After `settleOldCopy` what is still to be copied moves by the same amount, and no cell that the
new copy reads is still waiting for the old one. -/
lemma settleOldCopy_spec (cl : UpdateClient) (region : ScreenRegion) (dx dy : ℤ) :
    ∃ modified copied : ScreenRegion,
      cl.settleOldCopy region dx dy = { cl with modifiedRegion := modified, copyRegion := copied } ∧
      cl.modifiedRegion.pixels ⊆ modified.pixels ∧ copied.pixels ⊆ cl.copyRegion.pixels ∧
      (∀ p ∈ cl.copyRegion.pixels, p ∈ copied.pixels ∨ p ∈ modified.pixels) ∧
      (∀ p ∈ copied.pixels, cl.copyDX = dx ∧ cl.copyDY = dy) ∧
      ∀ p ∈ region.pixels, p - (dx, dy) ∈ cl.copyRegion.pixels → p - (dx, dy) ∈ modified.pixels := by
  unfold UpdateClient.settleOldCopy
  split
  · split
    · refine ⟨_, _, rfl, ?_, ?_, fun p hp => .inr ?_, fun p hp => ?_, fun p _ hp => ?_⟩
      · rw [Region.or_pixels]
        exact Set.subset_union_left
      · rw [empty_pixels]
        exact Set.empty_subset _
      · rw [Region.or_pixels]
        exact .inr hp
      · rw [empty_pixels] at hp
        exact absurd hp (Set.notMem_empty p)
      · rw [Region.or_pixels]
        exact .inr hp
    · next hsame =>
      refine ⟨_, cl.copyRegion, rfl, ?_, subset_rfl, fun p hp => .inl hp, fun p _ => ?_, fun p hr hp => ?_⟩
      · rw [Region.or_pixels]
        exact Set.subset_union_left
      · simpa only [not_or, not_not] using hsame
      · rw [Region.or_pixels, Region.and_pixels, Region.offset_pixels]
        refine .inr ⟨?_, hp⟩
        simpa only [Set.mem_ofPred_eq, Prod.fst_sub, Prod.snd_sub, sub_neg_eq_add, sub_add_cancel] using hr
  · next h =>
    have hempty : cl.copyRegion.pixels = ∅ := pixels_of_empty (by simpa using h)
    refine ⟨cl.modifiedRegion, cl.copyRegion, rfl, subset_rfl, subset_rfl, fun p hp => .inl hp, fun p hp => ?_,
      fun p _ hp => ?_⟩ <;>
    · rw [hempty] at hp
      exact absurd hp (Set.notMem_empty _)

lemma markCopiedCursor_spec (screen : UpdateScreen β) (dx dy : ℤ) (cl : UpdateClient) :
    ∃ modified : ScreenRegion, cl.markCopiedCursor screen dx dy = { cl with modifiedRegion := modified } ∧
      cl.modifiedRegion.pixels ⊆ modified.pixels ∧
      ∀ p ∈ cl.copyRegion.pixels, p - (dx, dy) ∈ cl.hidden screen → p ∈ modified.pixels := by
  unfold UpdateClient.markCopiedCursor UpdateClient.hidden
  have hfirst := markUnlessEmpty_rest cl ((cl.cursorRegion screen).and cl.copyRegion)
  have hpix := markUnlessEmpty_pixels cl ((cl.cursorRegion screen).and cl.copyRegion)
  set cl₁ := cl.markUnlessEmpty ((cl.cursorRegion screen).and cl.copyRegion)
  have hsecond := markUnlessEmpty_rest cl₁ (((cl₁.cursorRegion screen).offset dx dy).and cl₁.copyRegion)
  have hpix' := markUnlessEmpty_pixels cl₁ (((cl₁.cursorRegion screen).offset dx dy).and cl₁.copyRegion)
  set cl₂ := cl₁.markUnlessEmpty (((cl₁.cursorRegion screen).offset dx dy).and cl₁.copyRegion)
  refine ⟨cl₂.modifiedRegion, ?_, ?_, fun p hp hs => ?_⟩
  · rw [hfirst] at hsecond
    exact hsecond
  · rw [hpix', hpix]
    exact Set.subset_union_left.trans Set.subset_union_left
  · have hcursor : (cl₁.cursorRegion screen).pixels = rectPixels (cl.cursorRect screen) := by
      rw [hfirst]
      exact Region.rect_pixels _ _ _
    have hcopy : cl₁.copyRegion = cl.copyRegion := by rw [hfirst]
    rw [hpix', Region.and_pixels, Region.offset_pixels, hcursor, hcopy]
    exact .inr ⟨hs, hp⟩

lemma schedule_spec (huse : cl.useCopyRect = true) (region : ScreenRegion) (dx dy : ℤ) {settled copied : ScreenRegion}
    (hsettle : cl.settleOldCopy region dx dy = { cl with modifiedRegion := settled, copyRegion := copied }) :
    ∃ modified : ScreenRegion,
      cl.rfbScheduleCopyRegion screen region dx dy =
        { cl with modifiedRegion := modified, copyRegion := copied.or region, copyDX := dx, copyDY := dy } ∧
      settled.pixels ⊆ modified.pixels ∧
      (∀ p ∈ region.pixels, p - (dx, dy) ∈ settled.pixels → p ∈ modified.pixels) ∧
      ∀ p ∈ region.pixels, p - (dx, dy) ∈ cl.hidden screen → p ∈ modified.pixels := by
  obtain ⟨modified, hcl, hsub, hcursor⟩ := markCopiedCursor_spec screen dx dy { cl with
    modifiedRegion := settled.or ((settled.offset dx dy).and (copied.or region))
    copyRegion := copied.or region, copyDX := dx, copyDY := dy }
  rw [Region.or_pixels, Region.and_pixels, Region.offset_pixels, Region.or_pixels] at hsub
  rw [Region.or_pixels] at hcursor
  refine ⟨modified, ?_, Set.subset_union_left.trans hsub, fun p hp hs => hsub (.inr ⟨hs, .inr hp⟩),
    fun p hp hs => hcursor p (.inr hp) hs⟩
  rw [UpdateClient.rfbScheduleCopyRegion, if_pos huse, hsettle]
  exact hcl

lemma faithful_schedule (hf : cl.Faithful translate screen pic) {region : ScreenRegion} {dx dy : ℤ}
    {frameBuffer : Picture β}
    (hin : ∀ p ∈ screen.cells, p ∈ region.pixels → p - (dx, dy) ∈ screen.cells →
      frameBuffer p.1.toNat p.2.toNat = screen.frameBuffer (p.1 - dx).toNat (p.2 - dy).toNat)
    (hout : ∀ p ∈ screen.cells, p ∉ region.pixels →
      frameBuffer p.1.toNat p.2.toNat = screen.frameBuffer p.1.toNat p.2.toNat) :
    (cl.rfbScheduleCopyRegion screen region dx dy).Faithful translate
    { screen with frameBuffer := frameBuffer } pic := by
  cases huse : cl.useCopyRect with
  | false =>
    have hplain : cl.rfbScheduleCopyRegion screen region dx dy =
        { cl with modifiedRegion := cl.modifiedRegion.or region } := by
      simp only [UpdateClient.rfbScheduleCopyRegion, huse, Bool.false_eq_true, if_false]
    rw [hplain]
    refine hf.modify (fun p hp hd => hout p hp fun hr => hd ?_) ?_ (fun p hp => .inl hp) subset_rfl ⟨rfl, rfl⟩
      fun p _ hp => .inl hp
    · rw [Region.or_pixels]
      exact .inr hr
    · rw [Region.or_pixels]
      exact Set.subset_union_left
  | true =>
    obtain ⟨settled, copied, hsettle, hdirty, hsub, hpending, hshift, hread⟩ := settleOldCopy_spec cl region dx dy
    obtain ⟨modified, hcl', hkeep, hafter, hcursor⟩ := schedule_spec huse region dx dy hsettle
    rw [hcl']
    have hcopied : (copied.or region).pixels = copied.pixels ∪ region.pixels := Region.or_pixels _ _
    refine Mirror.Faithful.schedule hf (d := (dx, dy)) (fun p hp (hr : p ∈ region.pixels) hs =>
        congrArg translate (hin p hp hr hs)) (fun p hp hr => congrArg translate (hout p hp hr))
      (fun p _ hp => hkeep (hdirty hp)) (fun p _ hr => hcopied.ge (.inr hr)) (fun p _ hp => ?_) (fun p _ hp hr _ => ?_)
      fun p _ hr hclean _ => ⟨fun h => hclean (hafter p hr (hdirty h)), fun h => hclean (hafter p hr (hread p hr h)),
        fun h => hclean (hcursor p hr h)⟩
    · exact (hpending p hp).imp (fun h => hcopied.ge (.inl h)) fun h => hkeep h
    · have hstill : p ∈ copied.pixels := (hcopied.le hp).resolve_right hr
      obtain ⟨hx, hy⟩ := hshift p hstill
      exact ⟨hsub hstill, Prod.ext hx.symm hy.symm⟩

end steps

end AndroidRemote.Rfb
