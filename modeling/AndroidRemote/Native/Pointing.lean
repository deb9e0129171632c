import AndroidRemote.Native.Injected

/-! Who holds the pointer, and what the input device has pressed for the one who does. -/

namespace AndroidRemote.Native

open AndroidRemote.Display AndroidRemote.Input AndroidRemote.Library AndroidRemote.Rfb

variable {out : Out}

def buttonKeys : List ℕ := [btnTouch, keyBack, keyEnd]

namespace Daemon

variable (d : Daemon out)

def Released : Prop := ∀ code ∈ buttonKeys, d.input.device.isDown code = false

def TouchesDown (e : Event) : Prop :=
  ∃ new, (step d e).input.device = new ++ d.input.device ∧ InputEvent.evKey btnTouch 1 ∈ new

def NothingStuck : Prop :=
  d.running = true → (∀ cl ∈ d.peers, cl.lastPtrButtons = 0) →
    d.Released ∧ ∀ k cl, d.peers[k]? = some cl → d.isConnected k = true →
      ∀ (buttonMask : ℕ) (x y : ℤ), buttonMask.testBit 0 = true → d.TouchesDown (.pointerEvent k buttonMask x y)

def LeavesReleased (d : Daemon out) : Event → Prop
  | .gone k true => d.running = true → d.isConnected k = false →
      ∀ cl, d.peers[k]? = some cl → d.pointerClient = some cl.id → d.Released
  | _ => True

structure Pointing : Prop where
  ids : (d.peers.map Peer.id).Nodup
  fresh : ∀ cl ∈ d.peers, cl.id < d.accepted
  holder : ∀ cl ∈ d.peers, cl.lastPtrButtons ≠ 0 ↔ d.pointerClient = some cl.id
  present : ∀ holder, d.pointerClient = some holder → ∃ cl ∈ d.peers, cl.id = holder
  touch : d.input.device.isDown btnTouch = d.input.leftClicked
  back : d.input.device.isDown keyBack = true → d.input.rightClicked = true
  middle : d.input.device.isDown keyEnd = true → d.input.middleClicked = true
  owned : d.pointerClient = none → d.Released

variable {d}

lemma id_ne {peers : List Peer} (hn : (peers.map Peer.id).Nodup) {i k : ℕ} {c cl : Peer}
    (hi : peers[i]? = some c) (hk : peers[k]? = some cl) (hik : i ≠ k) : c.id ≠ cl.id := by
  intro hid
  have hmap : (peers.map Peer.id)[i]? = (peers.map Peer.id)[k]? := by simp [hi, hk, hid]
  have hlt : i < (peers.map Peer.id).length := by
    simpa using (List.getElem?_eq_some_iff.mp hi).1
  exact hik ((List.getElem?_inj hlt hn).mp hmap)

lemma Pointing.no_holder (h : d.Pointing) (hz : ∀ cl ∈ d.peers, cl.lastPtrButtons = 0) :
    d.pointerClient = none := by
  cases hp : d.pointerClient with
  | none => rfl
  | some holder =>
    obtain ⟨cl, hcl, rfl⟩ := h.present holder hp
    exact absurd (hz cl hcl) ((h.holder cl hcl).mpr hp)

lemma left_press {t : Injection} (hl : t.leftClicked = false) (x y : ℤ) :
    ∃ new, (t.left true x y).device = new ++ t.device ∧ InputEvent.evKey btnTouch 1 ∈ new := by
  refine ⟨[.synReport, .evKey btnTouch 1, .evAbs .absY y, .evAbs .absX x], ?_, by simp⟩
  simp [Injection.left, hl, Injection.placed, Device.suinputWrite]

lemma click_appends (code : ℕ) (held was : Bool) (dev : Device) :
    ∃ new, (Injection.click code held was dev).2 = new ++ dev := by
  cases held with
  | true => exact ⟨[.evKey code 1], rfl⟩
  | false =>
    cases was with
    | true => exact ⟨[.evKey code 0], rfl⟩
    | false => exact ⟨[], rfl⟩

lemma right_appends (t : Injection) (held : Bool) : ∃ new, (t.right held).device = new ++ t.device :=
  click_appends keyBack held t.rightClicked t.device

lemma middle_appends (t : Injection) (held : Bool) : ∃ new, (t.middle held).device = new ++ t.device :=
  click_appends keyEnd held t.middleClicked t.device

lemma ptrevent_press {t : Injection} (hl : t.leftClicked = false) (rotation : ℕ) (s : FbVarScreeninfo)
    {buttonMask : ℕ} (hb : buttonMask.testBit 0 = true) (x y : ℤ) :
    ∃ new, (t.ptrevent rotation s buttonMask x y).device = new ++ t.device ∧
      InputEvent.evKey btnTouch 1 ∈ new := by
  simp only [Injection.ptrevent, hb]
  generalize transformTouchCoordinates rotation s x y = placed
  obtain ⟨touched, htouch, hmem⟩ := left_press hl placed.1 placed.2
  obtain ⟨right, hright⟩ := right_appends (t.left true placed.1 placed.2) (buttonMask.testBit 2)
  obtain ⟨middle, hmiddle⟩ := middle_appends
    ((t.left true placed.1 placed.2).right (buttonMask.testBit 2)) (buttonMask.testBit 1)
  refine ⟨middle ++ (right ++ touched), ?_, by simp [hmem]⟩
  rw [hmiddle, hright, htouch]
  simp

lemma Pointing.nothingStuck (h : d.running = true → d.Pointing) : d.NothingStuck := by
  intro hr hz
  have hp := h hr
  have hnone := hp.no_holder hz
  have hreleased := hp.owned hnone
  refine ⟨hreleased, ?_⟩
  intro k cl hk hc buttonMask x y hb
  have hleft : d.input.leftClicked = false := by
    rw [← hp.touch]
    exact hreleased btnTouch (by simp [buttonKeys])
  have hpress := ptrevent_press hleft d.fb.rotation d.fb.scrinfo hb x y
  simpa [TouchesDown, step, hr, hc, rfbPointerEvent, hk, hnone, ptrevent] using hpress

structure SamePointing (d d' : Daemon out) : Prop where
  peers : d'.peers = d.peers
  accepted : d'.accepted = d.accepted
  pointerClient : d'.pointerClient = d.pointerClient

lemma Pointing.typed (h : d.Pointing) {d' : Daemon out} (hs : d.SamePointing d') (down : Bool) (key : ℕ)
    (hi : d'.input = { d.input with device := typed down key d.input.device }) : d'.Pointing := by
  have htouch : (AndroidRemote.Input.typed down key d.input.device).isDown btnTouch =
      d.input.device.isDown btnTouch := by
    by_cases ht : Types down key
    · have hcode := (code_unused key).1.symm
      rw [typed_of_types ht, stroke_isDown]
      simp [hcode, show btnTouch ≠ leftShift by decide, show btnTouch ≠ leftAlt by decide]
    · rw [typed_of_not_types ht]
  refine ⟨?_, ?_, ?_, ?_, ?_, ?_, ?_, ?_⟩
  · rw [hs.peers]
    exact h.ids
  · rw [hs.peers, hs.accepted]
    exact h.fresh
  · rw [hs.peers, hs.pointerClient]
    exact h.holder
  · rw [hs.peers, hs.pointerClient]
    exact h.present
  · rw [hi]
    exact htouch.trans h.touch
  · rw [hi]
    exact fun hb => h.back (typed_isDown_le hb)
  · rw [hi]
    exact fun hm => h.middle (typed_isDown_le hm)
  · rw [hs.pointerClient]
    intro hn code hcode
    rw [hi, ← Bool.not_eq_true]
    intro hd
    have hwas := typed_isDown_le hd
    rw [h.owned hn code hcode] at hwas
    cases hwas

lemma Pointing.same (h : d.Pointing) {d' : Daemon out} (hs : d.SamePointing d') (hi : d'.input = d.input) :
    d'.Pointing := by
  apply h.typed hs false 0
  rw [hi, typed_of_not_types (by simp [Types])]

lemma perform_samePointing (down : Bool) (command : Option KeyCommand) :
    d.SamePointing (d.perform down command) := by
  rcases d.perform_cases down command with h | h | ⟨-, h⟩ | ⟨fb, -, -, -, h⟩ <;>
    rw [h] <;> exact ⟨rfl, rfl, rfl⟩

lemma Pointing.keyevent (h : d.Pointing) (down : Bool) (key : ℕ) : (d.keyevent down key).Pointing := by
  have hs := d.perform_samePointing down (keysym2scancode key).command
  exact h.typed ⟨hs.peers, hs.accepted, hs.pointerClient⟩ down key (keyevent_input down key)

lemma Pointing.arrives (h : d.Pointing) {d' : Daemon out} {scaledScreen : Option (ℕ × ℕ)}
    (hpeers : d'.peers = ⟨d.accepted, scaledScreen, 0⟩ :: d.peers) (haccepted : d'.accepted = d.accepted + 1)
    (hpointer : d'.pointerClient = d.pointerClient) (hinput : d'.input = d.input) : d'.Pointing := by
  refine ⟨?_, ?_, ?_, ?_, ?_, ?_, ?_, ?_⟩
  · rw [hpeers, List.map_cons, List.nodup_cons]
    refine ⟨?_, h.ids⟩
    intro hmem
    obtain ⟨cl, hcl, hid⟩ := List.mem_map.mp hmem
    exact (h.fresh cl hcl).ne hid
  · rw [hpeers, haccepted]
    intro cl hcl
    rcases List.mem_cons.mp hcl with rfl | hold
    · exact Nat.lt_succ_self _
    · exact (h.fresh cl hold).trans (Nat.lt_succ_self _)
  · rw [hpeers, hpointer]
    intro cl hcl
    rcases List.mem_cons.mp hcl with rfl | hold
    · simp only [ne_eq, not_true_eq_false, false_iff]
      intro hp
      obtain ⟨c, hc, hid⟩ := h.present _ hp
      exact (h.fresh c hc).ne hid
    · exact h.holder cl hold
  · rw [hpeers, hpointer]
    intro holder hp
    obtain ⟨cl, hcl, hid⟩ := h.present holder hp
    exact ⟨cl, List.mem_cons_of_mem _ hcl, hid⟩
  · rw [hinput]
    exact h.touch
  · rw [hinput]
    exact h.back
  · rw [hinput]
    exact h.middle
  · rw [hpointer, Released, hinput]
    exact h.owned

lemma Pointing.rfbNewClient (h : d.Pointing) (a : Arrival) : (d.rfbNewClient a).Pointing := by
  rcases d.rfbNewClient_cases a with heq | heq | ⟨clients, -, heq⟩
  · rwa [heq]
  · rw [heq]
    exact h.same ⟨rfl, rfl, rfl⟩ rfl
  · rw [heq]
    exact h.arrives rfl rfl rfl rfl

lemma mem_set {peers : List Peer} (hn : (peers.map Peer.id).Nodup) {k : ℕ} {cl v c : Peer}
    (hk : peers[k]? = some cl) (hc : c ∈ peers.set k v) : c = v ∨ (c ∈ peers ∧ c.id ≠ cl.id) := by
  obtain ⟨i, hi⟩ := List.mem_iff_getElem?.mp hc
  by_cases hik : i = k
  · subst hik
    rw [List.getElem?_set_self (List.getElem?_eq_some_iff.mp hk).1, Option.some.injEq] at hi
    exact .inl hi.symm
  · rw [List.getElem?_set_ne (Ne.symm hik)] at hi
    exact .inr ⟨List.mem_of_getElem? hi, id_ne hn hi hk hik⟩

lemma mem_eraseIdx {peers : List Peer} (hn : (peers.map Peer.id).Nodup) {k : ℕ} {cl c : Peer}
    (hk : peers[k]? = some cl) : c ∈ peers.eraseIdx k ↔ c ∈ peers ∧ c.id ≠ cl.id := by
  rw [List.mem_eraseIdx_iff_getElem?]
  constructor
  · rintro ⟨i, hik, hi⟩
    exact ⟨List.mem_of_getElem? hi, id_ne hn hi hk hik⟩
  · rintro ⟨hc, hid⟩
    obtain ⟨i, hi⟩ := List.mem_iff_getElem?.mp hc
    refine ⟨i, ?_, hi⟩
    rintro rfl
    rw [hk, Option.some.injEq] at hi
    exact hid (congrArg Peer.id hi.symm)

lemma ids_set {k : ℕ} {cl : Peer} (hk : d.peers[k]? = some cl) (buttonMask : ℕ) :
    (d.peers.set k { cl with lastPtrButtons := buttonMask }).map Peer.id = d.peers.map Peer.id := by
  obtain ⟨hlt, hget⟩ := List.getElem?_eq_some_iff.mp hk
  have hself := @List.set_getElem_self _ (d.peers.map Peer.id) k (by simpa using hlt)
  rw [List.getElem_map, hget] at hself
  rw [List.map_set, hself]

lemma Pointing.pointed (h : d.Pointing) {k : ℕ} {cl : Peer} (hk : d.peers[k]? = some cl)
    (hfree : ∀ holder, d.pointerClient = some holder → holder = cl.id) (buttonMask : ℕ) (x y : ℤ) :
    Pointing { d.ptrevent buttonMask x y with
      pointerClient := if buttonMask = 0 then none else some cl.id
      peers := d.peers.set k { cl with lastPtrButtons := buttonMask } } := by
  have hflags := d.input.ptrevent_flags d.fb.rotation d.fb.scrinfo buttonMask x y
  have hdown := d.input.ptrevent_isDown d.fb.rotation d.fb.scrinfo buttonMask x y
  have hbk : btnTouch ≠ keyBack := by decide
  have hbe : btnTouch ≠ keyEnd := by decide
  have hke : keyBack ≠ keyEnd := by decide
  refine ⟨?_, ?_, ?_, ?_, ?_, ?_, ?_, ?_⟩
  · exact ids_set hk buttonMask ▸ h.ids
  · intro c hc
    rcases mem_set h.ids hk hc with rfl | ⟨hold, -⟩
    · exact h.fresh cl (List.mem_of_getElem? hk)
    · exact h.fresh c hold
  · intro c hc
    rcases mem_set h.ids hk hc with rfl | ⟨hold, hid⟩
    · by_cases hz : buttonMask = 0 <;> simp [hz]
    · have hnot : d.pointerClient ≠ some c.id := fun hp => hid (hfree _ hp)
      have hz := (h.holder c hold).not.mpr hnot
      by_cases hz' : buttonMask = 0 <;> simp [hz', not_not.mp hz, Ne.symm hid]
  · intro holder hp
    by_cases hz : buttonMask = 0
    · simp [hz] at hp
    · rw [if_neg hz, Option.some.injEq] at hp
      have hlt := (List.getElem?_eq_some_iff.mp hk).1
      exact ⟨_, List.mem_set hlt _, hp⟩
  · refine (hdown btnTouch).trans ?_
    rw [h.touch]
    change _ = (d.input.ptrevent d.fb.rotation d.fb.scrinfo buttonMask x y).leftClicked
    rw [hflags.1]
    grind
  · intro hb
    refine hflags.2.1.trans ?_
    have hb' := (hdown keyBack).symm.trans hb
    have hwas := h.back
    grind
  · intro hm
    refine hflags.2.2.trans ?_
    have hm' := (hdown keyEnd).symm.trans hm
    have hwas := h.middle
    grind
  · intro hn code hcode
    have hz : buttonMask = 0 := by
      by_contra hz
      simp [hz] at hn
    refine (hdown code).trans ?_
    subst hz
    simp only [buttonKeys, List.mem_cons, List.not_mem_nil, or_false] at hcode
    have htouch := h.touch
    have hback := h.back
    have hmiddle := h.middle
    simp only [Nat.zero_testBit]
    rcases hcode with rfl | rfl | rfl <;> grind

lemma Pointing.rfbPointerEvent (h : d.Pointing) (k buttonMask : ℕ) (x y : ℤ) :
    (d.rfbPointerEvent k buttonMask x y).Pointing := by
  rcases d.rfbPointerEvent_cases k buttonMask x y with heq | ⟨cl, hk, hfree, heq⟩
  · rwa [heq]
  · rw [heq]
    exact h.pointed hk hfree buttonMask x y

structure Left (d : Daemon out) (k : ℕ) (cl : Peer) (d' : Daemon out) : Prop where
  peers : d'.peers = d.peers.eraseIdx k
  accepted : d'.accepted = d.accepted
  pointerClient : d'.pointerClient = if d.pointerClient = some cl.id then none else d.pointerClient
  input : d'.input = d.input

lemma rfbClientConnectionGone_left {k : ℕ} {cl : Peer} (hk : d.peers[k]? = some cl) (localSocket : Bool) :
    d.Left k cl (d.rfbClientConnectionGone k localSocket) ∧
      (d.rfbClientConnectionGone k localSocket).running = (d.running && localSocket) := by
  simp only [rfbClientConnectionGone, hk, sendRemoteMsg_eq]
  exact ⟨⟨rfl, rfl, rfl, rfl⟩, rfl⟩

lemma Pointing.left (h : d.Pointing) {k : ℕ} {cl : Peer} (hk : d.peers[k]? = some cl) {d' : Daemon out}
    (hl : d.Left k cl d') (hr : d.pointerClient = some cl.id → d.Released) : d'.Pointing := by
  refine ⟨?_, ?_, ?_, ?_, ?_, ?_, ?_, ?_⟩
  · rw [hl.peers]
    exact h.ids.sublist ((List.eraseIdx_sublist d.peers k).map Peer.id)
  · rw [hl.peers, hl.accepted]
    exact fun c hc => h.fresh c ((mem_eraseIdx h.ids hk).mp hc).1
  · rw [hl.peers, hl.pointerClient]
    intro c hc
    obtain ⟨hold, hid⟩ := (mem_eraseIdx h.ids hk).mp hc
    rw [h.holder c hold]
    by_cases hp : d.pointerClient = some cl.id
    · simp [hp, Ne.symm hid]
    · simp [hp]
  · rw [hl.peers, hl.pointerClient]
    intro holder hp
    by_cases hheld : d.pointerClient = some cl.id
    · simp [hheld] at hp
    · rw [if_neg hheld] at hp
      obtain ⟨c, hc, rfl⟩ := h.present holder hp
      refine ⟨c, (mem_eraseIdx h.ids hk).mpr ⟨hc, ?_⟩, rfl⟩
      intro hid
      exact hheld (hid ▸ hp)
  · rw [hl.input]
    exact h.touch
  · rw [hl.input]
    exact h.back
  · rw [hl.input]
    exact h.middle
  · rw [hl.pointerClient, Released, hl.input]
    intro hn
    by_cases hheld : d.pointerClient = some cl.id
    · exact hr hheld
    · rw [if_neg hheld] at hn
      exact h.owned hn

lemma step_pointing (d : Daemon out) (e : Event) (h : d.running = true → d.Pointing) (hl : d.LeavesReleased e) :
    (step d e).running = true → (step d e).Pointing := by
  intro hr
  by_cases hd : d.running = true
  · have hp := h hd
    have hchange := step_change e hd
    generalize step d e = d' at hr hchange
    cases hchange with
    | stays => exact hp
    | ends => exact hp.same ⟨rfl, rfl, rfl⟩ rfl
    | records e clients => exact hp.same ⟨rfl, rfl, rfl⟩ rfl
    | arrives a => exact hp.rfbNewClient a
    | key k down key hc => exact hp.keyevent down key
    | points k buttonMask x y hc => exact hp.rfbPointerEvent k buttonMask x y
    | leaves k localSocket hc =>
      cases hk : d.peers[k]? with
      | none =>
        simp only [rfbClientConnectionGone, hk]
        exact hp
      | some cl =>
        obtain ⟨hleft, hrunning⟩ := rfbClientConnectionGone_left hk localSocket
        rw [hrunning, hd, Bool.true_and] at hr
        subst hr
        exact hp.left hk hleft (hl hd hc cl hk)
    | draws ioctl fb hfb => exact hp.same ⟨rfl, rfl, rfl⟩ rfl
  · rw [step_ended e hd] at hr
    exact absurd hr hd

lemma nothingStuck_iff (d : Daemon out) (e : Event) (h : d.running = true → d.Pointing) :
    (step d e).NothingStuck ↔ d.LeavesReleased e := by
  constructor
  · intro hs
    cases e with
    | gone k localSocket =>
      cases localSocket with
      | false => trivial
      | true =>
        intro hr hc cl hk hheld
        have hp := h hr
        obtain ⟨hleft, hrunning⟩ := rfbClientConnectionGone_left hk true
        have hstep : step d (.gone k true) = d.rfbClientConnectionGone k true := by simp [step, hr, hc]
        have hreleased : (step d (.gone k true)).Released := by
          refine (hs ?_ ?_).1
          · rw [hstep, hrunning, hr]
            rfl
          · rw [hstep, hleft.peers]
            intro c hmem
            obtain ⟨hold, hid⟩ := (mem_eraseIdx hp.ids hk).mp hmem
            have hother : d.pointerClient ≠ some c.id := by
              rw [hheld, ne_eq, Option.some.injEq]
              exact Ne.symm hid
            exact not_not.mp ((hp.holder c hold).not.mpr hother)
        rwa [hstep, Released, hleft.input] at hreleased
    | _ => trivial
  · intro hl
    exact Pointing.nothingStuck (step_pointing d e h hl)

lemma started_pointing (fb : FbVncServer out) (bufferSize scaling : ℕ) :
    (Daemon.started fb bufferSize scaling).Pointing := by
  refine ⟨List.nodup_nil, ?_, ?_, ?_, rfl, ?_, ?_, ?_⟩
  · intro cl hcl
    cases hcl
  · intro cl hcl
    cases hcl
  · intro holder hp
    cases hp
  · intro hd
    cases hd
  · intro hd
    cases hd
  · exact fun _ _ _ => rfl

end Daemon

theorem no_stuck_input (fb : FbVncServer out) (bufferSize scaling : ℕ) (es : List Event) :
    Along step (fun d e => (step d e).NothingStuck) (.started fb bufferSize scaling) es ↔
      Along step Daemon.LeavesReleased (.started fb bufferSize scaling) es :=
  along_congr (fun d => d.running = true → d.Pointing)
    (fun d e h hs => d.step_pointing e h ((d.nothingStuck_iff e h).mp hs)) Daemon.nothingStuck_iff
    (fun _ => Daemon.started_pointing fb bufferSize scaling)

def leavesHolding : List Event :=
  [.connects ⟨true, true, true, true⟩, .pointerEvent 0 1 0 0, .closes 0, .gone 0 true]

theorem button_held_is_stuck :
    ¬ Along step (fun d e => (step d e).NothingStuck) (.started watchedServer 32 100) leavesHolding := by
  rintro ⟨-, -, -, hstuck, -⟩
  have hreleased := (hstuck rfl (fun _ hcl => nomatch hcl)).1 btnTouch (by decide)
  revert hreleased
  decide

end AndroidRemote.Native
