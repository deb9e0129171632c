import AndroidRemote.Native.ScreenRecord

/-! The scaled screens that clients are given when they connect, and rotations after that. -/

namespace AndroidRemote.Native

open AndroidRemote.Display AndroidRemote.Input AndroidRemote.Library AndroidRemote.Rfb

variable {out : Out}

namespace Daemon

variable {d : Daemon out}

def InScale (d : Daemon out) : Prop :=
  ∀ cl ∈ d.peers, ∀ size, cl.scaledScreen = some size →
    size = (d.scaledSide d.fb.vncscr.width, d.scaledSide d.fb.vncscr.height)

def SameSides (d : Daemon out) : Prop :=
  let size := turnedSize ((d.fb.rotation + 90) % 360) d.fb.scrinfo
  d.scaledSide size.1 = d.scaledSide d.fb.vncscr.width ∧ d.scaledSide size.2 = d.scaledSide d.fb.vncscr.height

def TurnsSafely (d : Daemon out) : Prop :=
  let size := turnedSize ((d.fb.rotation + 90) % 360) d.fb.scrinfo
  0 < size.1 → 0 < size.2 → ∀ cl ∈ d.peers, ∀ scaled, cl.scaledScreen = some scaled →
    0 < scaled.1 → 0 < scaled.2 → area2 size scaled ≠ 0

/-- A rotation that is carried through meets no client on a scaled screen, or changes no side. -/
def TurnsInScale (d : Daemon out) : Event → Prop
  | .keyEvent k down key => d.running = true → d.isConnected k = true → down = true → key = 0xffc1 →
      (∃ fb, d.fb.rotate = .ok fb) → d.TurnsSafely →
        (∀ cl ∈ d.peers, cl.scaledScreen = none) ∨ d.SameSides
  | _ => True

structure SameScale (d d' : Daemon out) : Prop where
  scaling : d'.scaling = d.scaling
  size : (d'.fb.vncscr.width, d'.fb.vncscr.height) = (d.fb.vncscr.width, d.fb.vncscr.height)

lemma InScale.of_peers (h : d.InScale) {d' : Daemon out} (hs : d.SameScale d')
    (hp : ∀ cl ∈ d'.peers, (∃ old ∈ d.peers, cl.scaledScreen = old.scaledScreen) ∨
      ∀ size, cl.scaledScreen = some size →
        size = (d.scaledSide d.fb.vncscr.width, d.scaledSide d.fb.vncscr.height)) : d'.InScale := by
  intro cl hcl size hsize
  obtain ⟨hw, hh⟩ := Prod.mk.inj hs.size
  rw [scaledSide, scaledSide, hs.scaling, hw, hh]
  rcases hp cl hcl with ⟨old, hold, heq⟩ | hnew
  · exact h old hold size (heq ▸ hsize)
  · exact hnew size hsize

lemma InScale.same (h : d.InScale) {d' : Daemon out} (hs : d.SameScale d') (hp : d'.peers = d.peers) :
    d'.InScale := by
  apply h.of_peers hs
  rw [hp]
  exact fun cl hcl => .inl ⟨cl, hcl, rfl⟩

lemma clientHook_size {allocated : Bool} {size : ℕ × ℕ} (h : (d.clientHook allocated).1 = some size) :
    size = (d.scaledSide d.fb.vncscr.width, d.scaledSide d.fb.vncscr.height) := by
  rw [clientHook] at h
  by_cases hs : d.scaling ≠ 100
  · rw [if_pos hs, rfbScalingSetup] at h
    split_ifs at h <;> simp_all
  · rw [if_neg hs] at h
    cases h

lemma keyevent_other {key : ℕ} (down : Bool) (h : key ≠ 0xffc1 ∨ down = false) :
    d.SameScale (d.keyevent down key) ∧ (d.keyevent down key).peers = d.peers := by
  simp only [keyevent]
  rcases d.perform_cases down (keysym2scancode key).command with hp | hp | ⟨-, hp⟩ | ⟨fb, -, hc, hd, -⟩
  · rw [hp]
    exact ⟨⟨rfl, rfl⟩, rfl⟩
  · rw [hp]
    exact ⟨⟨rfl, rfl⟩, rfl⟩
  · rw [hp]
    exact ⟨⟨rfl, rfl⟩, rfl⟩
  · rcases h with hkey | hup
    · exact absurd ((command_rotate_iff key).mp hc) hkey
    · rw [hup] at hd
      cases hd

lemma updateTraps_iff {fb : FbVncServer out} (hr : d.fb.rotate = .ok fb) :
    updateTraps { d with fb := fb } = false ↔ d.TurnsSafely := by
  have hsize : screenSize { d with fb := fb } = turnedSize ((d.fb.rotation + 90) % 360) d.fb.scrinfo :=
    FbVncServer.rotate_size hr
  have hcolour : fb.vncscr.serverFormat.trueColour = true := FbVncServer.rotate_trueColour hr
  rw [updateTraps, hsize, TurnsSafely, ← Bool.not_eq_true]
  simp only [Bool.and_eq_true, decide_eq_true_eq, List.any_eq_true, Option.any_eq_true, dividesByZero_iff]
  constructor
  · intro h hw hh cl hcl scaled hscaled hsw hsh hzero
    exact h ⟨⟨hw, hh⟩, cl, hcl, scaled, hscaled, hcolour, hsw, hsh, hzero⟩
  · rintro h ⟨⟨hw, hh⟩, cl, hcl, scaled, hscaled, -, hsw, hsh, hzero⟩
    exact h hw hh cl hcl scaled hscaled hsw hsh hzero

lemma keyevent_rotate : (d.keyevent true 0xffc1).peers = d.peers ∧
    (d.keyevent true 0xffc1).scaling = d.scaling ∧ (d.keyevent true 0xffc1).fb = d.rotate.fb := by
  have hc := (command_rotate_iff 0xffc1).mpr rfl
  rw [keyevent, hc, perform, if_pos rfl]
  rcases d.rotate_cases with hexit | ⟨fb, -, -, hrotate⟩
  · rw [hexit]
    exact ⟨rfl, rfl, rfl⟩
  · rw [hrotate]
    exact ⟨rfl, rfl, rfl⟩

lemma rotate_eq (d : Daemon out) : ((∃ fb, d.fb.rotate = .ok fb) ∧ d.TurnsSafely ∧
      ∃ fb, d.fb.rotate = .ok fb ∧ d.rotate = { d with fb := fb }) ∨
    ¬ ((∃ fb, d.fb.rotate = .ok fb) ∧ d.TurnsSafely) ∧ d.rotate = d.exit := by
  cases hr : d.fb.rotate with
  | error t =>
    refine .inr ⟨?_, by rw [rotate, hr]⟩
    rintro ⟨⟨fb, hfb⟩, -⟩
    cases hfb
  | ok fb =>
    have hrotate : d.rotate = if updateTraps { d with fb := fb } then d.exit else { d with fb := fb } := by
      rw [rotate, hr]
    by_cases hsafe : d.TurnsSafely
    · refine .inl ⟨⟨fb, rfl⟩, hsafe, fb, rfl, ?_⟩
      rw [hrotate, (updateTraps_iff hr).mpr hsafe]
      rfl
    · refine .inr ⟨fun h => hsafe h.2, ?_⟩
      rw [hrotate, if_pos (Bool.of_not_eq_false ((updateTraps_iff hr).not.mpr hsafe))]

lemma rotate_inScale_iff (h : d.InScale) : (d.keyevent true 0xffc1).InScale ↔
    ((∃ fb, d.fb.rotate = .ok fb) → d.TurnsSafely →
      (∀ cl ∈ d.peers, cl.scaledScreen = none) ∨ d.SameSides) := by
  obtain ⟨hpeers, hscaling, hfb⟩ := d.keyevent_rotate
  rcases d.rotate_eq with ⟨hok, hsafe, fb, hr, hrotate⟩ | ⟨hends, hexit⟩
  · rw [hrotate] at hfb
    have hsize : ((d.keyevent true 0xffc1).fb.vncscr.width, (d.keyevent true 0xffc1).fb.vncscr.height) =
        turnedSize ((d.fb.rotation + 90) % 360) d.fb.scrinfo := hfb ▸ FbVncServer.rotate_size hr
    obtain ⟨hw, hh⟩ := Prod.mk.inj hsize
    simp only [InScale, scaledSide, hpeers, hscaling, hw, hh, hok, hsafe, forall_const]
    constructor
    · intro hafter
      by_cases hnone : ∀ cl ∈ d.peers, cl.scaledScreen = none
      · exact .inl hnone
      · simp only [not_forall] at hnone
        obtain ⟨cl, hcl, hsome⟩ := hnone
        obtain ⟨size, hcs⟩ := Option.ne_none_iff_exists'.mp hsome
        have hboth := (hafter cl hcl size hcs).symm.trans (h cl hcl size hcs)
        exact .inr (Prod.mk.inj hboth)
    · rintro (hnone | ⟨hsw, hsh⟩) cl hcl size hcs
      · rw [hnone cl hcl] at hcs
        cases hcs
      · rw [h cl hcl size hcs]
        exact Prod.ext hsw.symm hsh.symm
  · rw [hexit] at hfb
    exact iff_of_true (h.same ⟨hscaling, by rw [hfb]; rfl⟩ hpeers) (fun hok hsafe => absurd ⟨hok, hsafe⟩ hends)

lemma rfbNewClient_inScale (h : d.InScale) (a : Arrival) : (d.rfbNewClient a).InScale := by
  rcases d.rfbNewClient_cases a with heq | heq | ⟨clients, -, heq⟩
  · rwa [heq]
  · rw [heq]
    exact h.same ⟨rfl, rfl⟩ rfl
  · rw [heq]
    refine h.of_peers (by exact ⟨rfl, rfl⟩) ?_
    intro cl hcl
    rcases List.mem_cons.mp hcl with rfl | hold
    · exact .inr (fun size hsize => clientHook_size hsize)
    · exact .inl ⟨cl, hold, rfl⟩

lemma rfbPointerEvent_inScale (h : d.InScale) (k buttonMask : ℕ) (x y : ℤ) :
    (d.rfbPointerEvent k buttonMask x y).InScale := by
  rcases d.rfbPointerEvent_cases k buttonMask x y with heq | ⟨cl, hk, -, heq⟩
  · rwa [heq]
  · rw [heq]
    refine h.of_peers (by exact ⟨rfl, rfl⟩) ?_
    intro c hc
    rcases List.mem_or_eq_of_mem_set hc with hold | rfl
    · exact .inl ⟨c, hold, rfl⟩
    · exact .inl ⟨cl, List.mem_of_getElem? hk, rfl⟩

lemma rfbClientConnectionGone_inScale (h : d.InScale) (k : ℕ) (localSocket : Bool) :
    (d.rfbClientConnectionGone k localSocket).InScale := by
  rcases d.rfbClientConnectionGone_cases k localSocket with heq | ⟨cl, -, heq⟩
  · rwa [heq]
  · rw [heq]
    refine h.of_peers (by exact ⟨rfl, rfl⟩) ?_
    exact fun c hc => .inl ⟨c, List.mem_of_mem_eraseIdx hc, rfl⟩

lemma change_inScale {e : Event} {d' : Daemon out} (h : d.InScale) (hchange : Change d e d')
    (hturn : ∀ k down key, e = .keyEvent k down key → d.isConnected k = true → key ≠ 0xffc1 ∨ down = false) :
    d'.InScale := by
  cases hchange with
  | stays => exact h
  | ends => exact h.same ⟨rfl, rfl⟩ rfl
  | records e clients => exact h.same ⟨rfl, rfl⟩ rfl
  | arrives a => exact rfbNewClient_inScale h a
  | key k down key hc =>
    obtain ⟨hs, hp⟩ := d.keyevent_other down (hturn k down key rfl hc)
    exact h.same hs hp
  | points k buttonMask x y hc => exact rfbPointerEvent_inScale h k buttonMask x y
  | leaves k localSocket hc => exact rfbClientConnectionGone_inScale h k localSocket
  | draws ioctl fb hfb =>
    cases ioctl with
    | none => cases hfb
    | some s' =>
      cases hfb
      exact h.same ⟨rfl, rfl⟩ rfl

lemma inScale_iff (d : Daemon out) (e : Event) (h : d.InScale) : (step d e).InScale ↔ d.TurnsInScale e := by
  by_cases hr : d.running = true
  · by_cases hturn : ∃ k, e = .keyEvent k true 0xffc1 ∧ d.isConnected k = true
    · obtain ⟨k, rfl, hc⟩ := hturn
      have hstep : step d (.keyEvent k true 0xffc1) = d.keyevent true 0xffc1 := by simp [step, hr, hc]
      rw [hstep, rotate_inScale_iff h]
      simp only [TurnsInScale, hr, hc, forall_const]
    · refine iff_of_true (change_inScale h (step_change e hr) ?_) ?_
      · rintro k down key rfl hc
        by_contra hboth
        rw [not_or, not_not, Bool.not_eq_false] at hboth
        obtain ⟨rfl, rfl⟩ := hboth
        exact hturn ⟨k, rfl, hc⟩
      · cases e with
        | keyEvent k down key =>
          rintro - hc rfl rfl
          exact absurd ⟨k, rfl, hc⟩ hturn
        | _ => trivial
  · rw [step_ended e hr]
    refine iff_of_true h ?_
    cases e with
    | keyEvent k down key => exact fun hr' => absurd hr' hr
    | _ => trivial

lemma updateTraps_false_iff : d.updateTraps = false ↔
    (0 < d.screenSize.1 ∧ 0 < d.screenSize.2 → ∀ cl ∈ d.peers, ∀ size, cl.scaledScreen = some size →
      dividesByZero d.fb.vncscr.serverFormat d.screenSize size = false) := by
  rw [updateTraps, ← Bool.not_eq_true]
  simp only [Bool.and_eq_true, decide_eq_true_eq, List.any_eq_true, Option.any_eq_true, not_and, not_exists,
    Bool.not_eq_true]

lemma updateTraps_of_peers (h : d.updateTraps = false) {d' : Daemon out}
    (hv : d'.fb.vncscr.serverFormat = d.fb.vncscr.serverFormat) (hs : d'.screenSize = d.screenSize)
    (hp : ∀ cl ∈ d'.peers, ∃ old ∈ d.peers, cl.scaledScreen = old.scaledScreen) : d'.updateTraps = false := by
  rw [updateTraps_false_iff] at h ⊢
  rw [hv, hs]
  intro hsize cl hcl size hscaled
  obtain ⟨old, hold, heq⟩ := hp cl hcl
  exact h hsize old hold size (heq ▸ hscaled)

lemma rfbNewClient_updateTraps (h : d.updateTraps = false) (a : Arrival) :
    (d.rfbNewClient a).updateTraps = false := by
  rcases d.rfbNewClient_cases a with heq | heq | ⟨clients, hsetup, heq⟩
  · rwa [heq]
  · rw [heq]
    exact h
  · rw [heq, updateTraps_false_iff]
    rw [updateTraps_false_iff] at h
    intro hsize cl hcl size hscaled
    rcases List.mem_cons.mp hcl with rfl | hold
    · -- the new client is on a screen that was drawn for it, or that somebody is on already
      rw [setupTraps, show (d.clientHook a.allocated).1 = some size from hscaled, Option.any_some,
        Bool.and_eq_false_iff] at hsetup
      rcases hsetup with hdrawn | hshared
      · exact hdrawn
      · simp only [List.all_eq_false, decide_eq_true_eq, not_not] at hshared
        obtain ⟨old, hold, heq⟩ := hshared
        exact h hsize old hold size heq
    · exact h hsize cl hold size hscaled

lemma step_updateTraps (d : Daemon out) (e : Event) (h : d.running = true → d.updateTraps = false) :
    (step d e).running = true → (step d e).updateTraps = false := by
  intro hr
  by_cases hd : d.running = true
  · have hsame : ∀ {d' : Daemon out}, d'.fb.vncscr.serverFormat = d.fb.vncscr.serverFormat →
        d'.screenSize = d.screenSize → d'.peers = d.peers → d'.updateTraps = false := by
      intro d' hv hs hp
      exact updateTraps_of_peers (h hd) hv hs (fun cl hcl => ⟨cl, hp ▸ hcl, rfl⟩)
    have hchange := step_change e hd
    generalize step d e = d' at hr hchange
    cases hchange with
    | stays => exact h hd
    | ends => exact hsame rfl rfl rfl
    | records e clients => exact hsame rfl rfl rfl
    | arrives a => exact rfbNewClient_updateTraps (h hd) a
    | key k down key hc =>
      have hperform : (d.perform down (keysym2scancode key).command).updateTraps = false := by
        rcases d.perform_cases down (keysym2scancode key).command with hp | hp | ⟨-, hp⟩ | ⟨fb, -, hc, hdown, -⟩
        · rw [hp]
          exact h hd
        · rw [hp]
          exact hsame rfl rfl rfl
        · rw [hp]
          exact hsame rfl rfl rfl
        · rw [hc, hdown, perform, if_pos rfl]
          rcases d.rotate_cases with hexit | ⟨fb, -, htraps, hrotate⟩
          · rw [hexit]
            exact hsame rfl rfl rfl
          · rwa [hrotate]
      exact hperform
    | points k buttonMask x y hc =>
      rcases d.rfbPointerEvent_cases k buttonMask x y with heq | ⟨cl, hk, -, heq⟩
      · rw [heq]
        exact h hd
      · rw [heq]
        refine updateTraps_of_peers (h hd) rfl rfl ?_
        intro c hc
        rcases List.mem_or_eq_of_mem_set hc with hold | rfl
        · exact ⟨c, hold, rfl⟩
        · exact ⟨cl, List.mem_of_getElem? hk, rfl⟩
    | leaves k localSocket hc =>
      rcases d.rfbClientConnectionGone_cases k localSocket with heq | ⟨cl, -, heq⟩
      · rw [heq]
        exact h hd
      · rw [heq]
        exact updateTraps_of_peers (h hd) rfl rfl (fun c hc => ⟨c, List.mem_of_mem_eraseIdx hc, rfl⟩)
    | draws ioctl fb hfb =>
      cases ioctl with
      | none => cases hfb
      | some s' =>
        cases hfb
        exact hsame rfl rfl rfl
  · rw [step_ended e hd] at hr
    exact absurd hr hd

end Daemon

/-- The scaled screens that `update_screen` draws divide by no zero: the client whose screen did, or
the rotation that made it, has ended the process. -/
lemma running_updateTraps (fb : FbVncServer out) (bufferSize scaling : ℕ) (es : List Event) :
    (run step (.started fb bufferSize scaling) es).running = true →
      (run step (.started fb bufferSize scaling) es).updateTraps = false := by
  have hall : Along step (fun _ _ => True) (.started fb bufferSize scaling) es :=
    along_of_forall (A := fun _ => True) (fun _ _ => trivial)
  refine hall.invariant (fun d => d.running = true → d.updateTraps = false) (fun d e h _ => d.step_updateTraps e h) ?_
  simp [Daemon.updateTraps, Daemon.started]

theorem scaling_follows_rotation (fb : FbVncServer out) (bufferSize scaling : ℕ) (es : List Event) :
    Along step (fun d e => (step d e).InScale) (.started fb bufferSize scaling) es ↔
      Along step Daemon.TurnsInScale (.started fb bufferSize scaling) es :=
  along_congr Daemon.InScale (fun _ _ _ h => h) Daemon.inScale_iff (fun _ hcl => nomatch hcl)

theorem half_screen_is_left_behind : ∃ d : Daemon .out8,
    initFbServer depth8 0 50 0 (fun _ _ => 0) = some ⟨.out8, d⟩ ∧
    ¬ Along step (fun d e => (step d e).InScale) d
      [.connects ⟨true, true, true, true⟩, .keyEvent 0 true 0xffc1] := by
  refine ⟨_, rfl, ?_⟩
  rintro ⟨-, hscale, -⟩
  have hsize := hscale ⟨0, some (160, 240), 0⟩ (by decide +kernel) (160, 240) rfl
  revert hsize
  decide +kernel

end AndroidRemote.Native
