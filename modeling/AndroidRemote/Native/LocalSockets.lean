import AndroidRemote.Library.Runs
import AndroidRemote.Native.Daemon
import AndroidRemote.Native.MessageBuffers

/-! The local sockets that `send_remote_msg` opens, over any sequence of notifications. -/

namespace AndroidRemote.Native

open AndroidRemote.Display AndroidRemote.Library AndroidRemote.Service

structure LocalSockets where
  limit : ℕ
  opened : ℕ
  running : Bool
  delivered : List (List UInt8)
  deriving DecidableEq, Repr

/-- A call of one of the hooks: `others` descriptors are in use for something else, and the
GUI is there for `connect` and for `send`, or is not. -/
structure Notice where
  composer : Composer
  others : ℕ
  connects : Bool
  sends : Bool
  deriving DecidableEq, Repr

namespace LocalSockets

def started (limit : ℕ) : LocalSockets := ⟨limit, 0, true, []⟩

variable (s : LocalSockets)

def socket (others : ℕ) : Option LocalSockets :=
  if s.opened + others < s.limit then some { s with opened := s.opened + 1 } else none

def close : LocalSockets := { s with opened := s.opened - 1 }

def sendRemoteMsg (msg : List UInt8) (others : ℕ) (connects sends : Bool) : LocalSockets :=
  match s.socket others with
  | none => { s with running := false }
  | some s =>
    if connects = false then s
    else if sends = false then s
    else { s with delivered := cString msg :: s.delivered }.close

def notify (n : Notice) : LocalSockets :=
  if s.running then s.sendRemoteMsg n.composer.msg.content n.others n.connects n.sends else s

def Balanced (n : Notice) : Prop := (s.notify n).opened = s.opened

end LocalSockets

def Notice.Reached (n : Notice) : Prop := n.connects = true ∧ n.sends = true

instance (n : Notice) : Decidable n.Reached := inferInstanceAs (Decidable (_ ∧ _))

namespace LocalSockets

variable {s : LocalSockets} {n : Notice}

lemma notify_full (hr : s.running = true) (h : s.limit ≤ s.opened + n.others) :
    s.notify n = { s with running := false } := by
  rw [notify, if_pos hr, sendRemoteMsg, socket, if_neg (by omega)]

lemma notify_open (hr : s.running = true) (h : s.opened + n.others < s.limit) : s.notify n =
    if n.Reached then { s with delivered := cString n.composer.msg.content :: s.delivered }
    else { s with opened := s.opened + 1 } := by
  rw [notify, if_pos hr, sendRemoteMsg, socket, if_pos h]
  cases hc : n.connects <;> cases hs : n.sends <;> simp [Notice.Reached, hc, hs, close]

lemma notify_cases (s : LocalSockets) (n : Notice) :
    (s.running = false ∧ s.notify n = s) ∨
    (s.running = true ∧ s.limit ≤ s.opened + n.others ∧ s.notify n = { s with running := false }) ∨
    (s.running = true ∧ s.opened + n.others < s.limit ∧ n.Reached ∧
      s.notify n = { s with delivered := cString n.composer.msg.content :: s.delivered }) ∨
    (s.running = true ∧ s.opened + n.others < s.limit ∧ ¬ n.Reached ∧
      s.notify n = { s with opened := s.opened + 1 }) := by
  by_cases hr : s.running = true
  · by_cases h : s.opened + n.others < s.limit
    · by_cases hreach : n.Reached
      · exact Or.inr (Or.inr (Or.inl ⟨hr, h, hreach, by rw [notify_open hr h, if_pos hreach]⟩))
      · exact Or.inr (Or.inr (Or.inr ⟨hr, h, hreach, by rw [notify_open hr h, if_neg hreach]⟩))
    · exact Or.inr (Or.inl ⟨hr, by omega, notify_full hr (by omega)⟩)
  · exact Or.inl ⟨by simpa using hr, if_neg hr⟩

lemma run_stopped (hr : s.running = false) (ns : List Notice) : run notify s ns = s := by
  induction ns with
  | nil => rfl
  | cons n ns ih =>
    have hstay : s.notify n = s := by rw [notify, hr]; rfl
    rw [run_cons, hstay, ih]

theorem run_opened (ns : List Notice) (h : (run notify s ns).running = true) :
    (run notify s ns).opened = s.opened + ns.countP (fun n => decide (¬ n.Reached)) := by
  induction ns generalizing s with
  | nil => rfl
  | cons n ns ih =>
    rw [run_cons] at h ⊢
    rw [ih h, List.countP_cons]
    rcases s.notify_cases n with ⟨hr, hn⟩ | ⟨hr, -, hn⟩ | ⟨-, -, hreach, hn⟩ | ⟨-, -, hreach, hn⟩
    · rw [hn, run_stopped hr, hr] at h
      cases h
    · rw [hn, run_stopped rfl] at h
      cases h
    · simp [hn, hreach]
    · simp [hn, hreach]
      omega

lemma run_reached (hr : s.running = true) {ns : List Notice} (hn : ∀ n ∈ ns, s.opened + n.others < s.limit)
    (h : ∀ n ∈ ns, n.Reached) : Along notify Balanced s ns ∧ run notify s ns =
      { s with delivered := (ns.map (fun n => cString n.composer.msg.content)).reverse ++ s.delivered } := by
  induction ns generalizing s with
  | nil => exact ⟨trivial, rfl⟩
  | cons n ns ih =>
    have hstep := notify_open (n := n) hr (hn n (by simp))
    rw [if_pos (h n (by simp))] at hstep
    rw [along_cons, run_cons, Balanced, hstep]
    obtain ⟨halong, hrun⟩ := ih (s := { s with delivered := cString n.composer.msg.content :: s.delivered }) hr
      (fun m hm => hn m (by simp [hm])) (fun m hm => h m (by simp [hm]))
    exact ⟨⟨rfl, halong⟩, by rw [hrun]; simp⟩

lemma reached_of_balanced {ns : List Notice} (h : Along notify Balanced s ns)
    (hrun : (run notify s ns).running = true) : ∀ n ∈ ns, n.Reached := by
  have hopened := run_opened ns hrun
  have hkept : (run notify s ns).opened = s.opened :=
    h.invariant (fun t => t.opened = s.opened) (fun t n ht hb => hb.trans ht) rfl
  have hnone : ns.countP (fun n => decide (¬ n.Reached)) = 0 := by omega
  intro n hn
  have hreach := List.countP_eq_zero.mp hnone n hn
  simpa using hreach

/-- The `socket` that `Daemon` takes as given fails when the descriptors are used up. -/
theorem daemon_sendRemoteMsg {out : Out} (d : Daemon out) (s : LocalSockets) (msg : List UInt8) (others : ℕ)
    (connects sends : Bool) (hs : d.running = s.running) :
    (d.sendRemoteMsg (s.socket others).isSome).running = (s.sendRemoteMsg msg others connects sends).running := by
  by_cases h : s.opened + others < s.limit
  · have hsocket : s.socket others = some { s with opened := s.opened + 1 } := if_pos h
    rw [sendRemoteMsg, Daemon.sendRemoteMsg, hsocket]
    cases connects <;> cases sends <;> exact hs
  · have hsocket : s.socket others = none := if_neg h
    rw [sendRemoteMsg, Daemon.sendRemoteMsg, hsocket]
    rfl

end LocalSockets

theorem notifications_balanced_iff (limit : ℕ) (ns : List Notice) (h : ∀ n ∈ ns, n.others < limit) :
    (Along LocalSockets.notify LocalSockets.Balanced (.started limit) ns ∧
      (run LocalSockets.notify (.started limit) ns).running = true) ↔ ∀ n ∈ ns, n.Reached := by
  constructor
  · rintro ⟨halong, hrun⟩
    exact LocalSockets.reached_of_balanced halong hrun
  · intro hreach
    have hroom : ∀ n ∈ ns, (LocalSockets.started limit).opened + n.others < (LocalSockets.started limit).limit := by
      intro n hn
      have := h n hn
      simpa [LocalSockets.started] using this
    obtain ⟨halong, hrun⟩ := LocalSockets.run_reached (s := .started limit) rfl hroom hreach
    exact ⟨halong, by rw [hrun]; rfl⟩

def received : List Notice :=
  [⟨.clientHook (ascii "10.0.0.1"), 1, true, true⟩, ⟨.cutText ⟨ascii "Hi", [0], by decide⟩, 0, true, true⟩,
    ⟨.clientGone, 1, true, true⟩]

theorem received_notification_balanced :
    Along LocalSockets.notify LocalSockets.Balanced (.started 2) received ∧
      (run LocalSockets.notify (.started 2) received).running = true :=
  (notifications_balanced_iff 2 received (by decide)).mpr (by decide)

theorem missing_gui_ends_the_server : ¬ ∀ (limit : ℕ) (ns : List Notice), (∀ n ∈ ns, n.others < limit) →
    Along LocalSockets.notify LocalSockets.Balanced (.started limit) ns ∧
      (run LocalSockets.notify (.started limit) ns).running = true := by
  intro h
  have hexit := (h 1 [⟨.clientGone, 0, false, true⟩, ⟨.clientGone, 0, false, true⟩] (by decide)).2
  revert hexit
  decide

end AndroidRemote.Native
