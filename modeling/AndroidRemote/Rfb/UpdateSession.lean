import AndroidRemote.Library.Runs
import AndroidRemote.Rfb.UpdateSending
import Mathlib.Tactic

/-! One client from its connection on: drawing, copying, requests, encodings and updates in any
order, and what a viewer shows that has read all that was sent. -/

namespace AndroidRemote.Rfb

open Library

variable {β : Type} {n : ℕ}

inductive UpdateEvent (β : Type)
  | draw (frameBuffer : Picture β) (x1 y1 x2 y2 : ℤ)
  | doCopyRect (x1 y1 x2 y2 dx dy : ℤ)
  | scheduleCopyRegion (frameBuffer : Picture β) (copyRegion : ScreenRegion) (dx dy : ℤ)
  | moveCursor (x y : ℤ)
  | setEncodings (preferredEncoding : PixelEncoding) (useCopyRect : Bool)
  | request (incremental : Bool) (x y w h : ℕ)
  | processEvents (now : Timeval) (pad : UInt8) (afterBufSize : ℕ)

structure Session (β : Type) where
  screen : UpdateScreen β
  client : UpdateClient
  out : UpdateBuf

namespace Timeval

/-- Milliseconds, in a `long` that does not overflow. -/
def since (now start : Timeval) : ℤ := (now.sec - start.sec) * 1000 + (now.usec - start.usec).tdiv 1000

def micros (t : Timeval) : ℤ := t.sec * 1000000 + t.usec

end Timeval

namespace UpdateClient

/-- `FB_UPDATE_PENDING`, without the pseudo-encodings. -/
def fbUpdatePending (screen : UpdateScreen β) (cl : UpdateClient) : Bool :=
  cl.cursorMoved screen || !sraRgnEmpty cl.copyRegion.val || !sraRgnEmpty cl.modifiedRegion.val

-- no microseconds stand for a client that is not deferred, so a start at a full second is moved by one
def deferUpdate (screen : UpdateScreen β) (now : Timeval) (cl : UpdateClient) : UpdateClient × Bool :=
  if screen.deferUpdateTime = 0 then (cl, true)
  else if cl.startDeferring.usec = 0 then
    let cl := { cl with startDeferring := now }
    if cl.startDeferring.usec = 0 then
      ({ cl with startDeferring := { cl.startDeferring with usec := cl.startDeferring.usec + 1 } }, false)
    else (cl, false)
  else if now.sec < cl.startDeferring.sec ∨ screen.deferUpdateTime < now.since cl.startDeferring then
    ({ cl with startDeferring := { cl.startDeferring with usec := 0 } }, true)
  else (cl, false)

end UpdateClient

namespace Session

def new (screen : UpdateScreen β) : Option (Session β) :=
  (rfbNewClient screen).map fun client => ⟨screen, client, ⟨[], [], by simp⟩⟩

def rfbDoCopyRect (x1 y1 x2 y2 dx dy : ℤ) (s : Session β) : Option (Session β) := do
  let region ← createRect ⟨x1, y1, x2, y2⟩
  let screen := { s.screen with frameBuffer := rfbDoCopyRegion region dx dy s.screen.frameBuffer }
  pure { s with screen := screen, client := s.client.rfbScheduleCopyRegion screen region dx dy }

def rfbSendFramebufferUpdate (translate : β → Pixel n) (pad : UInt8) (afterBufSize : ℕ) (s : Session β) :
    Option (Session β) :=
  match s.client.planUpdate s.screen with
  | (client, none) => some { s with client := client }
  | (client, some plan) => do
    let out ← (client.message s.screen afterBufSize translate plan).sendUpdate pad s.out
    pure { s with client := client, out := out }

/-- One client's turn in `rfbProcessEvents`. -/
def rfbProcessEvents (translate : β → Pixel n) (now : Timeval) (pad : UInt8) (afterBufSize : ℕ) (s : Session β) :
    Option (Session β) :=
  if s.client.fbUpdatePending s.screen ∧ !sraRgnEmpty s.client.requestedRegion.val then
    match s.client.deferUpdate s.screen now with
    | (client, true) => rfbSendFramebufferUpdate translate pad afterBufSize { s with client := client }
    | (client, false) => some { s with client := client }
  else some s

/-- `none` where the C code would leave what the model describes: a rectangle without cells in a
region, or a write past the end of the buffer. -/
def step (translate : β → Pixel n) (s : Session β) : UpdateEvent β → Option (Session β)
  | .draw frameBuffer x1 y1 x2 y2 =>
    let screen := { s.screen with frameBuffer := frameBuffer }
    (s.client.rfbMarkRectAsModified screen x1 y1 x2 y2).map fun client =>
      { s with screen := screen, client := client }
  | .doCopyRect x1 y1 x2 y2 dx dy => s.rfbDoCopyRect x1 y1 x2 y2 dx dy
  | .scheduleCopyRegion frameBuffer copyRegion dx dy =>
    let screen := { s.screen with frameBuffer := frameBuffer }
    some { s with screen := screen, client := s.client.rfbScheduleCopyRegion screen copyRegion dx dy }
  | .moveCursor x y => some { s with screen := { s.screen with cursorX := x, cursorY := y } }
  | .setEncodings preferredEncoding useCopyRect =>
    some { s with client := s.client.setEncodings preferredEncoding useCopyRect }
  | .request incremental x y w h =>
    (s.client.rfbFramebufferUpdateRequest s.screen incremental x y w h).map fun client => { s with client := client }
  | .processEvents now pad afterBufSize => s.rfbProcessEvents translate now pad afterBufSize

def Inside (s : Session β) (x1 y1 x2 y2 : ℤ) : Prop :=
  (0 ≤ x1 ∧ x1 < x2 ∧ x2 ≤ s.screen.width) ∧ 0 ≤ y1 ∧ y1 < y2 ∧ y2 ≤ s.screen.height

/-- What the application and the client keep to. The application marks what it draws; a request
has a rectangle with cells; and an update does not fall into more rectangles than go in a message. -/
def Allowed (translate : β → Pixel n) (s : Session β) : UpdateEvent β → Prop
  | .draw frameBuffer x1 y1 x2 y2 =>
    ((0 ≤ max x1 x2 ∧ min x1 x2 ≤ s.screen.width) ∧ 0 ≤ max y1 y2 ∧ min y1 y2 ≤ s.screen.height) ∧
      ∀ p ∈ s.screen.cells, p ∉ rectPixels (spanned x1 y1 x2 y2) →
        frameBuffer p.1.toNat p.2.toNat = s.screen.frameBuffer p.1.toNat p.2.toNat
  | .doCopyRect x1 y1 x2 y2 dx dy =>
    s.Inside x1 y1 x2 y2 ∧ s.Inside (x1 - dx) (y1 - dy) (x2 - dx) (y2 - dy)
  | .scheduleCopyRegion frameBuffer copyRegion dx dy =>
    (∀ p ∈ s.screen.cells, p ∈ copyRegion.pixels → p - (dx, dy) ∈ s.screen.cells →
      frameBuffer p.1.toNat p.2.toNat = s.screen.frameBuffer (p.1 - dx).toNat (p.2 - dy).toNat) ∧
    ∀ p ∈ s.screen.cells, p ∉ copyRegion.pixels →
      frameBuffer p.1.toNat p.2.toNat = s.screen.frameBuffer p.1.toNat p.2.toNat
  | .request _ x y w h => (0 < w ∧ x ≠ s.screen.width) ∧ 0 < h ∧ y ≠ s.screen.height
  | .processEvents now _ afterBufSize => ∀ due client plan, s.client.deferUpdate s.screen now = (due, true) →
    due.planUpdate s.screen = (client, some plan) →
      4 + 16 * (client.message s.screen afterBufSize translate plan).copies.length ≤ updateBufSize ∧
        (client.message s.screen afterBufSize translate plan).nRects < 0xFFFF
  | _ => True

/-- A viewer that starts from `pic₀` and has read everything holds a picture of which the regions
are a faithful account. -/
structure Right (v : RfbViewer n) (pic₀ : Picture (Pixel n)) (translate : β → Pixel n)
    (s : Session β) : Prop where
  lawful : s.screen.Lawful
  size : v.width = s.screen.width ∧ v.height = s.screen.height
  requested : s.client.requestedRegion.pixels ⊆ s.screen.cells
  shows : ∃ k pic, Reads (times v.handleUpdate k pic₀) s.out.sent pic ∧ s.client.Faithful translate s.screen pic

end Session

section steps

variable {translate : β → Pixel n} {v : RfbViewer n} {pic₀ : Picture (Pixel n)} {s s' : Session β}

lemma right_new {screen : UpdateScreen β} (hs : screen.Lawful)
    (hv : v.width = screen.width ∧ v.height = screen.height) :
    ∃ s, Session.new screen = some s ∧ s.Right v pic₀ translate := by
  obtain ⟨client, hclient⟩ : ∃ client, rfbNewClient screen = some client := by
    rw [rfbNewClient, createRect, dif_pos ⟨Int.natCast_pos.mpr hs.width.1, Int.natCast_pos.mpr hs.height.1⟩]
    exact ⟨_, rfl⟩
  refine ⟨⟨screen, client, ⟨[], [], by simp⟩⟩, congrArg _ hclient, hs, hv, ?_, 0, pic₀, Reads.pure pic₀,
    faithful_new hclient pic₀⟩
  obtain ⟨region, -, rfl⟩ : ∃ region,
      createRect ⟨0, 0, screen.width, screen.height⟩ = some region ∧ _ = client := by
    simpa [rfbNewClient, Option.bind_eq_some_iff] using hclient
  rw [empty_pixels]
  exact Set.empty_subset _

lemma Session.Right.keep (h : s.Right v pic₀ translate) {screen : UpdateScreen β} {client : UpdateClient}
    (hsize : screen.width = s.screen.width ∧ screen.height = s.screen.height)
    (hreq : client.requestedRegion.pixels ⊆ s.screen.cells)
    (hf : ∀ pic, s.client.Faithful translate s.screen pic → client.Faithful translate screen pic) :
    Session.Right v pic₀ translate ⟨screen, client, s.out⟩ := by
  obtain ⟨hlawful, hv, -, k, pic, hread, hfaith⟩ := h
  have hcells : screen.cells = s.screen.cells := by rw [UpdateScreen.cells, UpdateScreen.cells, hsize.1, hsize.2]
  refine ⟨⟨hsize.1 ▸ hlawful.width, hsize.2 ▸ hlawful.height⟩,
    ⟨hv.1.trans hsize.1.symm, hv.2.trans hsize.2.symm⟩,
    hcells ▸ hreq, k, pic, hread, hf pic hfaith⟩

lemma schedule_keeps (screen : UpdateScreen β) (cl : UpdateClient) (region : ScreenRegion) (dx dy : ℤ) :
    (cl.rfbScheduleCopyRegion screen region dx dy).requestedRegion = cl.requestedRegion ∧
      (cl.rfbScheduleCopyRegion screen region dx dy).startDeferring = cl.startDeferring := by
  cases huse : cl.useCopyRect with
  | false => simp [UpdateClient.rfbScheduleCopyRegion, huse]
  | true =>
    obtain ⟨settled, copied, hsettle, -⟩ := settleOldCopy_spec cl region dx dy
    obtain ⟨modified, hcl', -⟩ : ∃ modified, cl.rfbScheduleCopyRegion screen region dx dy = { cl with
        modifiedRegion := modified, copyRegion := copied.or region, copyDX := dx, copyDY := dy } ∧ _ :=
      schedule_spec huse region dx dy hsettle
    rw [hcl']
    exact ⟨rfl, rfl⟩

lemma right_draw (h : s.Right v pic₀ translate) {frameBuffer : Picture β} {x1 y1 x2 y2 : ℤ}
    (ha : s.Allowed translate (.draw frameBuffer x1 y1 x2 y2)) :
    ∃ s', s.step translate (.draw frameBuffer x1 y1 x2 y2) = some s' ∧ s'.Right v pic₀ translate := by
  obtain ⟨⟨hx, hy⟩, hchanged⟩ := ha
  set screen : UpdateScreen β := { s.screen with frameBuffer := frameBuffer }
  obtain ⟨client, hmark⟩ : ∃ client, s.client.rfbMarkRectAsModified screen x1 y1 x2 y2 = some client :=
    markRect_some hx hy
  refine ⟨⟨screen, client, s.out⟩, Option.map_eq_some_iff.mpr ⟨_, hmark, rfl⟩,
    h.keep ⟨rfl, rfl⟩ ?_ fun pic hf => faithful_draw hf hmark hchanged⟩
  obtain ⟨region, rfl, -⟩ := markRect_spec hmark
  exact h.requested

lemma right_schedule (h : s.Right v pic₀ translate) {frameBuffer : Picture β} {region : ScreenRegion} {dx dy : ℤ}
    (ha : s.Allowed translate (.scheduleCopyRegion frameBuffer region dx dy)) :
    Session.Right v pic₀ translate ⟨{ s.screen with frameBuffer := frameBuffer },
      s.client.rfbScheduleCopyRegion { s.screen with frameBuffer := frameBuffer } region dx dy, s.out⟩ := by
  refine h.keep ⟨rfl, rfl⟩ ?_ fun pic hf => faithful_schedule hf ha.1 ha.2
  rw [(schedule_keeps _ _ _ _ _).1]
  exact h.requested

lemma right_doCopyRect (h : s.Right v pic₀ translate) {x1 y1 x2 y2 dx dy : ℤ}
    (ha : s.Allowed translate (.doCopyRect x1 y1 x2 y2 dx dy)) :
    ∃ s', s.step translate (.doCopyRect x1 y1 x2 y2 dx dy) = some s' ∧ s'.Right v pic₀ translate := by
  obtain ⟨⟨⟨hx₀, hx, hxw⟩, hy₀, hy, hyh⟩, ⟨hsx, -, -⟩, hsy, -, -⟩ := ha
  have hregion : createRect ⟨x1, y1, x2, y2⟩ = some (Region.rect ⟨x1, y1, x2, y2⟩ hx hy) := dif_pos ⟨hx, hy⟩
  set region : ScreenRegion := Region.rect ⟨x1, y1, x2, y2⟩ hx hy with hrect
  have hon : ∀ r ∈ regionRects region.val (dx < 0) (dy < 0), OnScreen dx dy r := by
    rw [hrect, rects_single hx hy]
    exact List.forall_mem_singleton.mpr ⟨⟨⟨hx₀, hx.le⟩, hy₀, hy.le⟩, hsx, hsy⟩
  have hread : ReadsFirst dx dy (regionRects region.val (dx < 0) (dy < 0)) := by
    rw [hrect, rects_single hx hy]
    exact List.pairwise_singleton _ _
  have hcopy := doCopyRegion_eq hon hread s.screen.frameBuffer
  have hcell (p : ℤ × ℤ) (hp : p ∈ s.screen.cells) : ((p.1.toNat, p.2.toNat) : ℤ × ℤ) = p ∧
      (p.1.toNat : ℤ) = p.1 ∧ (p.2.toNat : ℤ) = p.2 := by
    simp only [UpdateScreen.cells, mem_rectPixels] at hp
    have h₁ := Int.toNat_of_nonneg hp.1.1
    have h₂ := Int.toNat_of_nonneg hp.2.1
    exact ⟨Prod.ext h₁ h₂, h₁, h₂⟩
  have hmoved : s.Allowed translate
      (.scheduleCopyRegion (rfbDoCopyRegion region dx dy s.screen.frameBuffer) region dx dy) := by
    refine ⟨fun p hp hr _ => ?_, fun p hp hr => ?_⟩
    · obtain ⟨hpair, h₁, h₂⟩ := hcell p hp
      rw [hcopy, hpair, if_pos hr, h₁, h₂]
    · rw [hcopy, (hcell p hp).1, if_neg hr]
  refine ⟨_, ?_, right_schedule h hmoved⟩
  simp only [Session.step, Session.rfbDoCopyRect, hregion, Option.bind_eq_bind, Option.bind_some, Option.pure_def]

lemma request_some {screen : UpdateScreen β} (hs : screen.Lawful) (cl : UpdateClient)
    (incremental : Bool) {x y w h : ℕ}
    (hx : 0 < w ∧ x ≠ screen.width) (hy : 0 < h ∧ y ≠ screen.height) :
    ∃ cl', cl.rfbFramebufferUpdateRequest screen incremental x y w h = some cl' := by
  have hside {x w size w' : ℕ} (hsize : size < 2 ^ 16) (hw : 0 < w ∧ x ≠ size)
      (hc : UpdateClient.clipSide x w size = some w') : 0 < w' := by
    simp only [UpdateClient.clipSide, Option.ite_none_left_eq_some, Option.some.injEq, not_lt] at hc
    split at hc <;> omega
  unfold UpdateClient.rfbFramebufferUpdateRequest
  split
  · next w' h' hw hh =>
    have hw' := hside hs.width.2 hx hw
    have hh' := hside hs.height.2 hy hh
    rw [createRect, dif_pos (by dsimp only; omega)]
    cases incremental <;> exact ⟨_, rfl⟩
  · exact ⟨_, rfl⟩

lemma right_request (h : s.Right v pic₀ translate) {incremental : Bool} {x y w k : ℕ}
    (ha : s.Allowed translate (.request incremental x y w k)) :
    ∃ s', s.step translate (.request incremental x y w k) = some s' ∧ s'.Right v pic₀ translate := by
  obtain ⟨client, hr⟩ := request_some h.lawful s.client incremental ha.1 ha.2
  refine ⟨⟨s.screen, client, s.out⟩, Option.map_eq_some_iff.mpr ⟨_, hr, rfl⟩,
    h.keep ⟨rfl, rfl⟩ ?_ fun pic hf => faithful_request hf hr⟩
  obtain rfl | ⟨rect, hin, hreq, -⟩ := request_spec hr
  · exact h.requested
  · rw [hreq]
    exact Set.union_subset h.requested hin

lemma right_nothing (h : s.Right v pic₀ translate) {client : UpdateClient}
    (hplan : s.client.planUpdate s.screen = (client, none)) :
    Session.Right v pic₀ translate ⟨s.screen, client, s.out⟩ ∧
      ∀ p ∈ s.client.requestedRegion.pixels, p ∉ client.modifiedRegion.pixels ∧
        p ∉ client.copyRegion.pixels := by
  obtain ⟨rfl, hnothing⟩ := planUpdate_none hplan
  refine ⟨h.keep ⟨rfl, rfl⟩ h.requested fun pic hf => ?_, fun p hp => ?_⟩
  · refine hf.modify (fun _ _ _ => rfl) subset_rfl (fun p hc => ?_) ?_ ⟨rfl, rfl⟩ fun p _ hh => .inl hh
    · rw [Region.subtract_pixels]
      exact (em (p ∈ s.client.modifiedRegion.pixels)).elim .inr fun hm => .inl ⟨hc, hm⟩
    · rw [Region.subtract_pixels]
      exact Set.sdiff_subset
  · rw [Region.subtract_pixels]
    exact ⟨(hnothing p hp).1, fun hc => (hnothing p hp).2 hc.1⟩

lemma right_update (hv : v.Lawful) (h : s.Right v pic₀ translate) {client : UpdateClient} {plan : UpdatePlan}
    (hplan : s.client.planUpdate s.screen = (client, some plan)) (pad : UInt8) {afterBufSize : ℕ}
    (hroom : 4 + 16 * (client.message s.screen afterBufSize translate plan).copies.length ≤ updateBufSize)
    (hcount : (client.message s.screen afterBufSize translate plan).nRects < 0xFFFF) :
    ∃ out, (client.message s.screen afterBufSize translate plan).sendUpdate pad s.out = some out ∧
      Session.Right v pic₀ translate ⟨s.screen, client, out⟩ ∧
      ∀ p ∈ s.client.requestedRegion.pixels, p ∉ client.modifiedRegion.pixels ∧
        p ∉ client.copyRegion.pixels := by
  obtain ⟨hlawful, hsize, hreq, k, pic, hread, hfaith⟩ := h
  have hp := planUpdate_some hlawful hreq hplan
  obtain ⟨bs, -, hsend, hview⟩ := RectUpdate.sendUpdate_reads hv (sendable hlawful hp hreq hsize hroom hcount) pad
  obtain ⟨out, hout, -, hsent⟩ := hsend s.out
  refine ⟨out, hout, ⟨hlawful, hsize, ?_, k + 1, _, ?_, faithful_update hfaith hp hreq afterBufSize⟩,
    fun p hq => ⟨hp.asked p hq, ?_⟩⟩
  · rw [hp.done.1, empty_pixels]
    exact Set.empty_subset _
  · rw [hsent]
    exact Reads.times_add hread (Reads.times_one (hview pic))
  · rw [hp.done.2, empty_pixels]
    exact Set.notMem_empty p

lemma UpdateClient.nothing_owed {screen : UpdateScreen β} {cl : UpdateClient}
    (hquiet : ¬(cl.fbUpdatePending screen ∧ !sraRgnEmpty cl.requestedRegion.val)) :
    ∀ p ∈ cl.requestedRegion.pixels, p ∉ cl.modifiedRegion.pixels ∧ p ∉ cl.copyRegion.pixels := by
  intro p hp
  have hasked : sraRgnEmpty cl.requestedRegion.val = false := by
    by_contra hne
    exact absurd (pixels_of_empty (by simpa using hne) ▸ hp) (Set.notMem_empty p)
  simp only [UpdateClient.fbUpdatePending, hasked, Bool.not_false, and_true, Bool.or_eq_true, not_or,
    Bool.not_eq_true', Bool.not_eq_false] at hquiet
  rw [pixels_of_empty hquiet.1.2, pixels_of_empty hquiet.2]
  exact ⟨Set.notMem_empty p, Set.notMem_empty p⟩

def Session.Answered (asked : Set (ℤ × ℤ)) (s : Session β) : Prop :=
  ∀ p ∈ asked, p ∉ s.client.modifiedRegion.pixels ∧ p ∉ s.client.copyRegion.pixels

structure Session.Deferred (s : Session β) (now : Timeval) (s' : Session β) : Prop where
  requested : s'.client.requestedRegion = s.client.requestedRegion
  running : s'.client.startDeferring.usec ≠ 0
  timer : (s.client.startDeferring.usec = 0 ∧ s'.client.startDeferring.micros ≤ now.micros + 1) ∨
    (s'.client.startDeferring = s.client.startDeferring ∧
      now.since s'.client.startDeferring ≤ s.screen.deferUpdateTime)

lemma right_send (hv : v.Lawful) (h : s.Right v pic₀ translate) (pad : UInt8) {afterBufSize : ℕ}
    (hfits : ∀ client plan, s.client.planUpdate s.screen = (client, some plan) →
      4 + 16 * (client.message s.screen afterBufSize translate plan).copies.length ≤ updateBufSize ∧
        (client.message s.screen afterBufSize translate plan).nRects < 0xFFFF) :
    ∃ s', s.rfbSendFramebufferUpdate translate pad afterBufSize = some s' ∧ s'.Right v pic₀ translate ∧
      s'.screen = s.screen ∧ s'.client.startDeferring = s.client.startDeferring ∧
      s'.Answered s.client.requestedRegion.pixels := by
  unfold Session.rfbSendFramebufferUpdate
  cases hplan : s.client.planUpdate s.screen with
  | mk client plan =>
    cases plan with
    | none =>
      obtain ⟨hright, hdone⟩ := right_nothing h hplan
      obtain ⟨rfl, -⟩ := planUpdate_none hplan
      exact ⟨_, rfl, hright, rfl, rfl, hdone⟩
    | some plan =>
      obtain ⟨hroom, hcount⟩ := hfits client plan hplan
      obtain ⟨out, hout, hright, hdone⟩ := right_update hv h hplan pad hroom hcount
      refine ⟨⟨s.screen, client, out⟩, ?_, hright, rfl,
        (planUpdate_some h.lawful h.requested hplan).timer, hdone⟩
      simp only [hout, Option.bind_eq_bind, Option.bind_some, Option.pure_def]

/-- A turn either sends, and has then stopped the timer if there is one, or leaves the timer running. -/
lemma deferUpdate_cases (screen : UpdateScreen β) (now : Timeval) (cl : UpdateClient) :
    ∃ timer : Timeval,
      (cl.deferUpdate screen now = ({ cl with startDeferring := timer }, true) ∧
        (timer = cl.startDeferring ∨ timer.usec = 0)) ∨
      (cl.deferUpdate screen now = ({ cl with startDeferring := timer }, false) ∧ timer.usec ≠ 0 ∧
        ((cl.startDeferring.usec = 0 ∧ timer.micros ≤ now.micros + 1) ∨
          (timer = cl.startDeferring ∧ now.since timer ≤ screen.deferUpdateTime))) := by
  unfold UpdateClient.deferUpdate
  split
  · exact ⟨cl.startDeferring, .inl ⟨rfl, .inl rfl⟩⟩
  · split
    · next hidle =>
      dsimp only
      split
      · next hfull =>
        refine ⟨_, .inr ⟨rfl, ?_, .inl ⟨hidle, ?_⟩⟩⟩
        · dsimp only
          omega
        · simp only [Timeval.micros]
          omega
      · next hfull => exact ⟨now, .inr ⟨rfl, hfull, .inl ⟨hidle, by omega⟩⟩⟩
    · next hrunning =>
      split
      · exact ⟨_, .inl ⟨rfl, .inr rfl⟩⟩
      · next hearly =>
        exact ⟨cl.startDeferring, .inr ⟨rfl, hrunning, .inr ⟨rfl, by omega⟩⟩⟩

lemma right_processEvents (hv : v.Lawful) (h : s.Right v pic₀ translate) {now : Timeval} {pad : UInt8}
    {afterBufSize : ℕ} (ha : s.Allowed translate (.processEvents now pad afterBufSize)) :
    ∃ s', s.step translate (.processEvents now pad afterBufSize) = some s' ∧ s'.Right v pic₀ translate ∧
      s'.screen = s.screen ∧
      ((s'.Answered s.client.requestedRegion.pixels ∧
          (s'.client.startDeferring = s.client.startDeferring ∨ s'.client.startDeferring.usec = 0)) ∨
        s.Deferred now s') := by
  simp only [Session.step, Session.rfbProcessEvents]
  split
  · obtain ⟨timer, ⟨hdue, htimer⟩ | ⟨hwait, hrunning, hsince⟩⟩ := deferUpdate_cases s.screen now s.client
    · have hright : Session.Right v pic₀ translate
          ⟨s.screen, { s.client with startDeferring := timer }, s.out⟩ :=
        h.keep ⟨rfl, rfl⟩ h.requested fun _ hf => hf
      obtain ⟨s', hsend, hright', hscreen, hkept, hdone⟩ :=
        right_send hv hright pad fun client plan hplan => ha _ client plan hdue hplan
      rw [hdue]
      exact ⟨s', hsend, hright', hscreen, .inl ⟨hdone, htimer.imp hkept.trans (hkept ▸ ·)⟩⟩
    · rw [hwait]
      exact ⟨_, rfl, h.keep ⟨rfl, rfl⟩ h.requested fun _ hf => hf, rfl, .inr ⟨rfl, hrunning, hsince⟩⟩
  · next hquiet => exact ⟨s, rfl, h, rfl, .inl ⟨UpdateClient.nothing_owed hquiet, .inl rfl⟩⟩

lemma right_step (hv : v.Lawful) (h : s.Right v pic₀ translate) {e : UpdateEvent β} (ha : s.Allowed translate e) :
    ∃ s', s.step translate e = some s' ∧ s'.Right v pic₀ translate := by
  cases e with
  | draw => exact right_draw h ha
  | doCopyRect => exact right_doCopyRect h ha
  | scheduleCopyRegion => exact ⟨_, rfl, right_schedule h ha⟩
  | moveCursor => exact ⟨_, rfl, h.keep ⟨rfl, rfl⟩ h.requested fun _ hf => hf⟩
  | setEncodings => exact ⟨_, rfl, h.keep ⟨rfl, rfl⟩ h.requested fun _ hf => hf⟩
  | request => exact right_request h ha
  | processEvents =>
    obtain ⟨s', hstep, hright, -⟩ := right_processEvents hv h ha
    exact ⟨s', hstep, hright⟩

end steps

section runs

namespace Session

def next (translate : β → Pixel n) (s : Option (Session β)) (e : UpdateEvent β) : Option (Session β) :=
  s.bind fun s => s.step translate e

def Permits (translate : β → Pixel n) (s : Option (Session β)) (e : UpdateEvent β) : Prop :=
  ∀ t, s = some t → t.Allowed translate e

end Session

variable {translate : β → Pixel n} {v : RfbViewer n} {s s' : Session β} {es : List (UpdateEvent β)}
  {pic₀ : Picture (Pixel n)}

lemma right_run (hv : v.Lawful) (h : s.Right v pic₀ translate)
    (ha : Along (Session.next translate) (Session.Permits translate) (some s) es) :
    ∃ s', run (Session.next translate) (some s) es = some s' ∧ s'.Right v pic₀ translate := by
  refine ha.invariant (fun o => ∃ s', o = some s' ∧ s'.Right v pic₀ translate) ?_ ⟨s, rfl, h⟩
  rintro _ e ⟨t, rfl, ht⟩ hallowed
  exact right_step hv ht (hallowed t rfl)

lemma fits_small (h : s.Right v pic₀ translate) (hsmall : v.width * v.height ≤ 250) (now : Timeval) (pad : UInt8)
    (afterBufSize : ℕ) : s.Allowed translate (.processEvents now pad afterBufSize) := by
  intro due client plan hdue hplan
  have hreq : due.requestedRegion.pixels ⊆ s.screen.cells := by
    obtain ⟨timer, ⟨hcl, -⟩ | ⟨hcl, -⟩⟩ := deferUpdate_cases s.screen now s.client
    · obtain ⟨rfl, -⟩ := Prod.mk.inj (hcl.symm.trans hdue)
      exact h.requested
    · simpa using hcl.symm.trans hdue
  rw [h.size.1, h.size.2] at hsmall
  exact fits_of_small (planUpdate_some h.lawful hreq hplan) hreq hsmall afterBufSize

lemma permits_small (hv : v.Lawful) (h : s.Right v pic₀ translate) (hsmall : v.width * v.height ≤ 250)
    (hes : ∀ e ∈ es, (∃ now pad afterBufSize, e = .processEvents now pad afterBufSize) ∨
      ∃ x y, e = .moveCursor x y) :
    Along (Session.next translate) (Session.Permits translate) (some s) es := by
  have hallowed {t : Session β} {e : UpdateEvent β} (ht : t.Right v pic₀ translate)
      (he : (∃ now pad afterBufSize, e = .processEvents now pad afterBufSize) ∨ ∃ x y, e = .moveCursor x y) :
      t.Allowed translate e := by
    obtain ⟨now, pad, afterBufSize, rfl⟩ | ⟨x, y, rfl⟩ := he
    · exact fits_small ht hsmall now pad afterBufSize
    · trivial
  refine (along_of_forall hes).of_invariant
    (fun o => ∃ t, o = some t ∧ t.Right v pic₀ translate) ?_ ?_ ⟨s, rfl, h⟩
  · rintro _ e ⟨t, rfl, ht⟩ he
    exact right_step hv ht (hallowed ht he)
  · rintro _ e ⟨t, rfl, ht⟩ he _ heq
    obtain rfl := Option.some.inj heq
    exact hallowed ht he

lemma UpdateClient.Faithful.cell {screen : UpdateScreen β} {cl : UpdateClient} {pic : Picture (Pixel n)}
    (hf : cl.Faithful translate screen pic) {i j : ℕ} (hi : i < screen.width) (hj : j < screen.height)
    (hm : ((i, j) : ℤ × ℤ) ∉ cl.modifiedRegion.pixels) (hc : ((i, j) : ℤ × ℤ) ∉ cl.copyRegion.pixels)
    (hh : ((i, j) : ℤ × ℤ) ∉ cl.hidden screen) : pic i j = translate (screen.frameBuffer i j) := by
  refine hf.settled ((i, j) : ℤ × ℤ) ?_ hm hc hh
  simp only [UpdateScreen.cells, mem_rectPixels]
  omega

variable {screen : UpdateScreen β}

lemma right_start (hv : v.Lawful) (hs : screen.Lawful) (hsize : v.width = screen.width ∧ v.height = screen.height)
    (ha : Along (Session.next translate) (Session.Permits translate) (Session.new screen) es)
    (pic₀ : Picture (Pixel n)) :
    ∃ s', run (Session.next translate) (Session.new screen) es = some s' ∧ s'.Right v pic₀ translate := by
  obtain ⟨s, hnew, hright⟩ : ∃ s, Session.new screen = some s ∧ s.Right v pic₀ translate := right_new hs hsize
  rw [hnew] at ha ⊢
  exact right_run hv hright ha

/-- Whatever happens and in whatever order, a viewer that has read all that was sent is right about
every cell that its client record does not count as modified or to be copied. -/
theorem updates_shown (hv : v.Lawful) (hs : screen.Lawful)
    (hsize : v.width = screen.width ∧ v.height = screen.height)
    (ha : Along (Session.next translate) (Session.Permits translate) (Session.new screen) es)
    (pic₀ : Picture (Pixel n)) :
    ∃ s' k pic, run (Session.next translate) (Session.new screen) es = some s' ∧
      Reads (times v.handleUpdate k pic₀) s'.out.sent pic ∧
      ∀ i < s'.screen.width, ∀ j < s'.screen.height, ((i, j) : ℤ × ℤ) ∉ s'.client.modifiedRegion.pixels →
        ((i, j) : ℤ × ℤ) ∉ s'.client.copyRegion.pixels →
          ((i, j) : ℤ × ℤ) ∉ s'.client.hidden s'.screen →
          pic i j = translate (s'.screen.frameBuffer i j) := by
  obtain ⟨s', hrun, -, -, -, k, pic, hread, hf⟩ := right_start hv hs hsize ha pic₀
  exact ⟨s', k, pic, hrun, hread, fun i hi j hj => hf.cell hi hj⟩

def smallRun : List (UpdateEvent UInt8) := [
  .draw (fun i j => if i = 0 ∧ j = 0 then 9 else smallScreen.frameBuffer i j) 1 1 0 0,
  .setEncodings .hextile true,
  .doCopyRect 1 0 3 2 1 0,
  .moveCursor 1 1,
  .request false 0 0 3 2]

def smallTurns : List (UpdateEvent UInt8) := [.processEvents ⟨100, 0⟩ 0 64, .processEvents ⟨100, 4000⟩ 0 64,
  .moveCursor 0 1, .processEvents ⟨100, 7000⟩ 0 64]

lemma smallRun_allowed :
    Along (Session.next onePixel) (Session.Permits onePixel) (Session.new smallScreen) smallRun := by
  refine ⟨fun t ht => ?_, fun t ht => trivial, fun t ht => ?_, fun t ht => trivial, fun t ht => ?_, trivial⟩
  · obtain rfl := Option.some.inj ht
    refine ⟨by decide, fun p hp hr => if_neg fun h0 => hr ?_⟩
    simp only [UpdateScreen.cells, mem_rectPixels, spanned] at hp ⊢
    omega
  · obtain rfl := Option.some.inj ht
    exact ⟨⟨by decide, by decide⟩, by decide, by decide⟩
  · obtain rfl := Option.some.inj ht
    exact ⟨by decide, by decide⟩

lemma smallTurns_allowed : Along (Session.next onePixel) (Session.Permits onePixel) (Session.new smallScreen)
    (smallRun ++ smallTurns) := by
  obtain ⟨s, hrun, hright⟩ := right_start smallViewer_lawful smallScreen_lawful ⟨rfl, rfl⟩ smallRun_allowed
    fun _ _ => onePixel 0
  refine along_append.mpr ⟨smallRun_allowed, ?_⟩
  rw [hrun]
  refine permits_small smallViewer_lawful hright (by decide) fun e he => ?_
  simp only [smallTurns, List.mem_cons, List.not_mem_nil, or_false] at he
  rcases he with rfl | rfl | rfl | rfl
  · exact .inl ⟨_, _, _, rfl⟩
  · exact .inl ⟨_, _, _, rfl⟩
  · exact .inr ⟨_, _, rfl⟩
  · exact .inl ⟨_, _, _, rfl⟩

theorem updates_shown_small : ∃ s' k pic,
    run (Session.next onePixel) (Session.new smallScreen) (smallRun ++ smallTurns) = some s' ∧
      Reads (times smallViewer.handleUpdate k fun _ _ => onePixel 0) s'.out.sent pic ∧
      ∀ i < s'.screen.width, ∀ j < s'.screen.height, ((i, j) : ℤ × ℤ) ∉ s'.client.modifiedRegion.pixels →
        ((i, j) : ℤ × ℤ) ∉ s'.client.copyRegion.pixels →
          ((i, j) : ℤ × ℤ) ∉ s'.client.hidden s'.screen →
          pic i j = onePixel (s'.screen.frameBuffer i j) :=
  updates_shown smallViewer_lawful smallScreen_lawful ⟨rfl, rfl⟩ smallTurns_allowed fun _ _ => onePixel 0

section deferral

def UpdateEvent.clock : UpdateEvent β → Option Timeval
  | .processEvents now _ _ => some now
  | _ => none

lemma UpdateEvent.clock_some {e : UpdateEvent β} {now : Timeval} (h : e.clock = some now) :
    ∃ pad afterBufSize, e = .processEvents now pad afterBufSize := by
  cases e with
  | processEvents t pad afterBufSize =>
    obtain rfl := Option.some.inj h
    exact ⟨pad, afterBufSize, rfl⟩
  | _ => cases h

lemma step_keeps {e : UpdateEvent β} (h : s.step translate e = some s') (he : e.clock = none) :
    s'.client.startDeferring = s.client.startDeferring ∧
      s.client.requestedRegion.pixels ⊆ s'.client.requestedRegion.pixels ∧
      s'.screen.deferUpdateTime = s.screen.deferUpdateTime := by
  cases e with
  | draw frameBuffer x1 y1 x2 y2 =>
    obtain ⟨client, hmark, rfl⟩ := Option.map_eq_some_iff.mp h
    obtain ⟨region, rfl, -⟩ := markRect_spec hmark
    exact ⟨rfl, subset_rfl, rfl⟩
  | doCopyRect x1 y1 x2 y2 dx dy =>
    obtain ⟨region, -, hcopy⟩ := Option.bind_eq_some_iff.mp h
    obtain rfl := Option.some.inj hcopy
    exact ⟨(schedule_keeps _ _ _ _ _).2, (schedule_keeps _ _ _ _ _).1 ▸ subset_rfl, rfl⟩
  | scheduleCopyRegion =>
    obtain rfl := Option.some.inj h
    exact ⟨(schedule_keeps _ _ _ _ _).2, (schedule_keeps _ _ _ _ _).1 ▸ subset_rfl, rfl⟩
  | moveCursor =>
    obtain rfl := Option.some.inj h
    exact ⟨rfl, subset_rfl, rfl⟩
  | setEncodings =>
    obtain rfl := Option.some.inj h
    exact ⟨rfl, subset_rfl, rfl⟩
  | request =>
    obtain ⟨client, hrequest, rfl⟩ := Option.map_eq_some_iff.mp h
    obtain rfl | ⟨rect, -, hreq, hclient⟩ := request_spec hrequest
    · exact ⟨rfl, subset_rfl, rfl⟩
    · refine ⟨?_, hreq ▸ Set.subset_union_left, rfl⟩
      rw [hclient]
  | processEvents => cases he

/-- A viewer that is right, of a client whose timer, if it runs, was started by `time`. -/
structure Session.StartedBy (v : RfbViewer n) (pic₀ : Picture (Pixel n)) (translate : β → Pixel n)
    (wait time : ℤ) (s : Session β) : Prop where
  right : s.Right v pic₀ translate
  screen : s.screen.deferUpdateTime = wait
  timer : s.client.startDeferring.usec = 0 ∨ s.client.startDeferring.micros ≤ time + 1

lemma Session.StartedBy.step (hv : v.Lawful) {wait time : ℤ} (h : s.StartedBy v pic₀ translate wait time)
    {e : UpdateEvent β} (ha : s.Allowed translate e) (he : ∀ now, e.clock = some now → now.micros ≤ time) :
    ∃ s', s.step translate e = some s' ∧ s'.StartedBy v pic₀ translate wait time := by
  cases hclock : e.clock with
  | none =>
    obtain ⟨s', hstep, hright⟩ := right_step hv h.right ha
    obtain ⟨htimer, -, hscreen⟩ := step_keeps hstep hclock
    exact ⟨s', hstep, hright, hscreen.trans h.screen, htimer ▸ h.timer⟩
  | some now =>
    have hnow := he now hclock
    obtain ⟨pad, afterBufSize, rfl⟩ := UpdateEvent.clock_some hclock
    obtain ⟨s', hstep, hright, hscreen, hturn⟩ := right_processEvents hv h.right ha
    refine ⟨s', hstep, hright, by rw [hscreen, h.screen], ?_⟩
    rcases hturn with ⟨-, hsame | hstopped⟩ | ⟨-, -, ⟨-, hstart⟩ | ⟨hsame, -⟩⟩
    · exact hsame ▸ h.timer
    · exact .inl hstopped
    · exact .inr (by omega)
    · exact hsame ▸ h.timer

structure Session.Waits (v : RfbViewer n) (pic₀ : Picture (Pixel n)) (translate : β → Pixel n) (wait time : ℤ)
    (asked : Set (ℤ × ℤ)) (s : Session β) : Prop where
  right : s.Right v pic₀ translate
  screen : s.screen.deferUpdateTime = wait
  asked : asked ⊆ s.client.requestedRegion.pixels
  running : s.client.startDeferring.usec ≠ 0
  timer : s.client.startDeferring.micros ≤ time + 1

variable {asked : Set (ℤ × ℤ)} {wait time : ℤ}

lemma Session.Waits.step (hv : v.Lawful) (h : s.Waits v pic₀ translate wait time asked) {e : UpdateEvent β}
    (ha : s.Allowed translate e) :
    ∃ s', s.step translate e = some s' ∧ (s'.Waits v pic₀ translate wait time asked ∨
      s'.Right v pic₀ translate ∧ s'.Answered asked) := by
  cases hclock : e.clock with
  | none =>
    obtain ⟨s', hstep, hright⟩ := right_step hv h.right ha
    obtain ⟨htimer, hreq, hscreen⟩ := step_keeps hstep hclock
    exact ⟨s', hstep, .inl ⟨hright, hscreen.trans h.screen, h.asked.trans hreq, htimer ▸ h.running,
      htimer ▸ h.timer⟩⟩
  | some now =>
    obtain ⟨pad, afterBufSize, rfl⟩ := UpdateEvent.clock_some hclock
    obtain ⟨s', hstep, hright, hscreen, ⟨hdone, -⟩ | ⟨hreq, hrunning, hidle | hsame⟩⟩ :=
      right_processEvents hv h.right ha
    · exact ⟨s', hstep, .inr ⟨hright, fun p hp => hdone p (h.asked hp)⟩⟩
    · exact absurd hidle.1 h.running
    · exact ⟨s', hstep, .inl ⟨hright, by rw [hscreen, h.screen], hreq ▸ h.asked, hrunning,
        hsame.1 ▸ h.timer⟩⟩

lemma Session.StartedBy.run (hv : v.Lawful) (h : s.StartedBy v pic₀ translate wait time)
    (ha : Along (Session.next translate) (Session.Permits translate) (some s) es)
    (hes : ∀ e ∈ es, ∀ now, e.clock = some now → now.micros ≤ time) :
    ∃ s', run (Session.next translate) (some s) es = some s' ∧ s'.StartedBy v pic₀ translate wait time := by
  refine (ha.and (along_of_forall hes)).invariant
    (fun o => ∃ s', o = some s' ∧ s'.StartedBy v pic₀ translate wait time) ?_ ⟨s, rfl, h⟩
  rintro _ e ⟨t, rfl, ht⟩ ⟨hallowed, he⟩
  exact ht.step hv (hallowed t rfl) he

lemma Session.Waits.run (hv : v.Lawful) (h : s.Waits v pic₀ translate wait time asked)
    (ha : Along (Session.next translate) (Session.Permits translate) (some s) es) :
    (∃ s', run (Session.next translate) (some s) es = some s' ∧ s'.Waits v pic₀ translate wait time asked) ∨
      ∃ front back, es = front ++ back ∧ ∃ s', run (Session.next translate) (some s) front = some s' ∧
        s'.Right v pic₀ translate ∧ s'.Answered asked := by
  refine ha.reaches (fun o => ∃ s', o = some s' ∧ s'.Waits v pic₀ translate wait time asked)
    (fun o => ∃ s', o = some s' ∧ s'.Right v pic₀ translate ∧ s'.Answered asked) ?_ ⟨s, rfl, h⟩
  rintro _ e ⟨t, rfl, ht⟩ hallowed
  obtain ⟨t', hstep, hwaits | hdone⟩ := ht.step hv (hallowed t rfl)
  · exact .inl ⟨t', hstep, hwaits⟩
  · exact .inr ⟨t', hstep, hdone⟩

end deferral

end runs

end AndroidRemote.Rfb
