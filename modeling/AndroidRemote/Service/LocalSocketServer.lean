import AndroidRemote.Library.Runs
import AndroidRemote.Library.Fallible
import Mathlib.Data.List.TakeWhile

/-! The notifications that the native server composes, and the thread that dispatches them. -/

namespace AndroidRemote.Service

open AndroidRemote.Library

def ascii (s : String) : List UInt8 := s.toList.map (fun c => UInt8.ofNat c.toNat)

def literal (s : String) : List UInt16 := s.toList.map (fun c => UInt16.ofNat c.toNat)

def cString (b : List UInt8) : List UInt8 := b.takeWhile (fun c => decide (c ≠ 0))

def strcat (dest src : List UInt8) : List UInt8 := cString dest ++ cString src ++ [0]

def clientGone : List UInt8 := strcat [0] (ascii "~DISCONNECTED|")

def clientHook (host : List UInt8) : List UInt8 := strcat (strcat [0] (ascii "~CONNECTED|")) host

def cutText (str : List UInt8) (len : ℕ) : List UInt8 :=
  strcat (strcat [0] (ascii "~CLIP|")) (str.take len ++ [0])

def appended (b : List UInt8) : List UInt16 := b.map UInt8.toUInt16

inductive Action
  | setText (text : List UInt16)
  | showClientConnected (host : List UInt16)
  | showClientDisconnected
  deriving DecidableEq, Repr

inductive ReadFailure
  | ioException
  | stringIndexOutOfBounds
  deriving DecidableEq, Repr

def substring (bytes : List UInt16) (stop : ℕ) : Except ReadFailure (List UInt16) :=
  if stop ≤ bytes.length then .ok (bytes.take stop) else .error .stringIndexOutOfBounds

/-- The first `substring` is the one of the log line. -/
def dispatch (bytes : List UInt16) : Except ReadFailure (Option Action) := do
  let _ ← substring bytes 6
  let start ← substring bytes 6
  if start = literal "~CLIP|" then pure (some (.setText (bytes.drop 6)))
  else do
    let start ← substring bytes 11
    if start = literal "~CONNECTED|" then pure (some (.showClientConnected (bytes.drop 11)))
    else do
      let start ← substring bytes 14
      if start = literal "~DISCONNECTED|" then pure (some .showClientDisconnected)
      else pure none

inductive Delivery
  | delivers (bytes : List UInt8)
  | fails
  deriving DecidableEq, Repr

def sendRemoteMsg (msg : List UInt8) : Delivery := .delivers (cString msg)

def Delivery.handled : Delivery → Except ReadFailure (Option Action)
  | .delivers bytes => dispatch (appended bytes)
  | .fails => .error .ioException

/-- `bound` says whether the constructor got its `LocalServerSocket`; `actions` has the latest first. -/
structure LocalSocketServer where
  bound : Bool
  keepListening : Bool
  listening : Bool
  actions : List Action
  deriving DecidableEq, Repr

inductive SocketEvent
  | acceptFails
  | connection (c : Delivery)
  | stopListening
  deriving DecidableEq, Repr

namespace LocalSocketServer

def running (bound : Bool) : LocalSocketServer := ⟨bound, true, true, []⟩

variable (s : LocalSocketServer)

/-- The test of the loop; when it fails, `finally` closes the socket. -/
def again : LocalSocketServer := { s with listening := s.keepListening }

def step (s : LocalSocketServer) : SocketEvent → LocalSocketServer
  | .acceptFails => if s.listening then s.again else s
  | .connection c =>
    if s.listening && s.bound then
      match c.handled with
      | .ok action => { s with actions := action.toList ++ s.actions }.again
      | .error _ => { s with listening := false }
    else s
  | .stopListening => { s with keepListening := false }

end LocalSocketServer

inductive Notification
  | connected (host : List UInt8)
  | disconnected
  | clip (text : List UInt8)
  deriving DecidableEq, Repr

namespace Notification

def message : Notification → List UInt8
  | .connected host => clientHook (host ++ [0])
  | .disconnected => clientGone
  | .clip text => cutText text text.length

def payload : Notification → List UInt8
  | .connected host => host
  | .disconnected => []
  | .clip text => text

/-- What the activity is to do: every byte of the payload counts as the character of its code. -/
def action : Notification → Action
  | .connected host => .showClientConnected (host.map (fun b => UInt16.ofNat b.toNat))
  | .disconnected => .showClientDisconnected
  | .clip text => .setText (text.map (fun b => UInt16.ofNat b.toNat))

end Notification

lemma nul_notMem_cString (b : List UInt8) : 0 ∉ cString b := by
  intro h
  simpa using List.mem_takeWhile_imp h

lemma cString_terminated {b : List UInt8} (h : 0 ∉ b) : cString (b ++ [0]) = b := by
  have hb : ∀ c ∈ b, decide (c ≠ 0) = true := by
    intro c hc
    rw [decide_eq_true_eq]
    rintro rfl
    exact h hc
  rw [cString, List.takeWhile_append_of_pos hb]
  simp

lemma cString_strcat (dest src : List UInt8) : cString (strcat dest src) = cString dest ++ cString src := by
  apply cString_terminated
  rw [List.mem_append, not_or]
  exact ⟨nul_notMem_cString dest, nul_notMem_cString src⟩

lemma appended_append (b c : List UInt8) : appended (b ++ c) = appended b ++ appended c := List.map_append

lemma appended_eq (b : List UInt8) : appended b = b.map (fun c => UInt16.ofNat c.toNat) := by
  refine List.map_congr_left fun c _ => ?_
  apply UInt16.toNat_inj.mp
  simp

lemma dispatch_clip (text : List UInt16) :
    dispatch (appended (ascii "~CLIP|") ++ text) = .ok (some (.setText text)) := rfl

lemma dispatch_connected (host : List UInt16) :
    dispatch (appended (ascii "~CONNECTED|") ++ host) = .ok (some (.showClientConnected host)) := rfl

lemma dispatch_disconnected : dispatch (appended (ascii "~DISCONNECTED|")) = .ok (some .showClientDisconnected) := rfl

lemma dispatch_message (n : Notification) (hn : 0 ∉ n.payload) :
    dispatch (appended (cString n.message)) = .ok (some n.action) := by
  cases n with
  | connected host =>
    have hh : cString (host ++ [0]) = host := cString_terminated hn
    rw [Notification.message, clientHook, cString_strcat, cString_strcat, hh, appended_append, Notification.action,
      ← appended_eq]
    exact dispatch_connected (appended host)
  | disconnected => exact dispatch_disconnected
  | clip text =>
    have ht : cString (text ++ [0]) = text := cString_terminated hn
    rw [Notification.message, cutText, List.take_length, cString_strcat, cString_strcat, ht, appended_append,
      Notification.action, ← appended_eq]
    exact dispatch_clip (appended text)

theorem notification_round_trips (n : Notification) (hn : 0 ∉ n.payload) (s : LocalSocketServer)
    (hl : s.listening = true) (hb : s.bound = true) :
    s.step (.connection (sendRemoteMsg n.message)) = { s with actions := n.action :: s.actions }.again := by
  simp [LocalSocketServer.step, sendRemoteMsg, Delivery.handled, hl, hb, dispatch_message n hn]

theorem header_is_copied_as_text :
    (LocalSocketServer.running true).step (.connection (.delivers (ascii "~CLIP|~CONNECTED|10.0.0.1"))) =
      ⟨true, true, true, [.setText (literal "~CONNECTED|10.0.0.1")]⟩ :=
  notification_round_trips (.clip (ascii "~CONNECTED|10.0.0.1")) (by decide) (.running true) rfl rfl

def Readable (bytes : List UInt8) : Prop :=
  ascii "~CLIP|" <+: bytes ∨ ascii "~CONNECTED|" <+: bytes ∨ 14 ≤ bytes.length

def SocketEvent.Readable : SocketEvent → Prop
  | .connection (.delivers bytes) => Service.Readable bytes
  | .connection .fails => False
  | .acceptFails => True
  | .stopListening => True

def beforeStop (es : List SocketEvent) : List SocketEvent := es.takeWhile (fun e => decide (e ≠ .stopListening))

def LocalSocketServer.Accepting (s : LocalSocketServer) : Prop := s.keepListening = true → s.listening = true

def LocalSocketServer.Survives (s : LocalSocketServer) (e : SocketEvent) : Prop :=
  (s.step e).Accepting ∧
    ∀ n : Notification, 0 ∉ n.payload → e = .connection (sendRemoteMsg n.message) →
      s.keepListening = true → s.bound = true → (s.step e).actions = n.action :: s.actions

lemma take_appended_iff (head b : List UInt8) :
    (appended b).take head.length = appended head ↔ head <+: b := by
  have hinj : Function.Injective UInt8.toUInt16 := fun _ _ h => UInt8.toUInt16_inj.mp h
  rw [appended, appended, ← List.map_take, (List.map_injective_iff.mpr hinj).eq_iff,
    List.prefix_iff_eq_take, eq_comm]

lemma exists_header_iff (b : List UInt8) {head : List UInt8} {stop : ℕ} (hs : head.length = stop)
    (action : Option Action) (rest : Except ReadFailure (Option Action)) :
    (∃ a, (substring (appended b) stop >>= fun start =>
        if start = appended head then pure action else rest) = .ok a) ↔
      head <+: b ∨ stop ≤ b.length ∧ ∃ a, rest = .ok a := by
  subst hs
  have hlen : (appended b).length = b.length := List.length_map _
  by_cases hl : head.length ≤ b.length
  · have hs : substring (appended b) head.length = .ok ((appended b).take head.length) := if_pos (hlen ▸ hl)
    rw [hs]
    by_cases hh : head <+: b
    · have ht := (take_appended_iff head b).mpr hh
      exact iff_of_true ⟨action, if_pos ht⟩ (.inl hh)
    · have ht : (appended b).take head.length ≠ appended head := fun h => hh ((take_appended_iff head b).mp h)
      have he : (Except.ok ((appended b).take head.length) >>= fun start =>
          if start = appended head then pure action else rest) = rest := if_neg ht
      rw [he]
      simp [hh, hl]
  · have hs : substring (appended b) head.length = .error .stringIndexOutOfBounds := if_neg (hlen ▸ hl)
    have hh : ¬ head <+: b := fun h => hl h.length_le
    rw [hs, error_bind]
    simp [hh, hl]

lemma substring_twice {β : Type} (b : List UInt16) (stop : ℕ) (f : List UInt16 → Except ReadFailure β) :
    (substring b stop >>= fun _ => substring b stop >>= f) = (substring b stop >>= f) := by
  cases substring b stop <;> rfl

lemma exists_dispatch_iff (b : List UInt8) : (∃ action, dispatch (appended b) = .ok action) ↔ Readable b := by
  have hconn (h : ascii "~CONNECTED|" <+: b) : 11 ≤ b.length := h.length_le
  have hdisc (h : ascii "~DISCONNECTED|" <+: b) : 14 ≤ b.length := h.length_le
  have hl₁ : (ascii "~CLIP|").length = 6 := rfl
  have hl₂ : (ascii "~CONNECTED|").length = 11 := rfl
  have hl₃ : (ascii "~DISCONNECTED|").length = 14 := rfl
  have hclip : literal "~CLIP|" = appended (ascii "~CLIP|") := rfl
  have hconnected : literal "~CONNECTED|" = appended (ascii "~CONNECTED|") := rfl
  have hdisconnected : literal "~DISCONNECTED|" = appended (ascii "~DISCONNECTED|") := rfl
  rw [dispatch, hclip, hconnected, hdisconnected, substring_twice, exists_header_iff b hl₁,
    exists_header_iff b hl₂, exists_header_iff b hl₃, Readable]
  constructor
  · rintro (hc | ⟨-, hd | ⟨-, he | ⟨hl, -⟩⟩⟩)
    · exact .inl hc
    · exact .inr (.inl hd)
    · exact .inr (.inr (hdisc he))
    · exact .inr (.inr hl)
  · rintro (hc | hd | hl)
    · exact .inl hc
    · exact .inr ⟨by have := hconn hd; omega, .inl hd⟩
    · exact .inr ⟨by omega, .inr ⟨by omega, .inr ⟨hl, none, rfl⟩⟩⟩

namespace LocalSocketServer

variable {s : LocalSocketServer} {e : SocketEvent}

lemma again_accepting (s : LocalSocketServer) : s.again.Accepting := fun h => h

lemma step_frame (s : LocalSocketServer) (e : SocketEvent) : ∃ listening actions,
    s.step e = ⟨s.bound, s.keepListening && decide (e ≠ .stopListening), listening, actions⟩ := by
  cases e with
  | acceptFails =>
    rw [step]
    split_ifs
    · exact ⟨s.keepListening, s.actions, by simp [again]⟩
    · exact ⟨s.listening, s.actions, by simp⟩
  | connection c =>
    rw [step]
    split_ifs
    · cases c.handled with
      | ok action => exact ⟨s.keepListening, action.toList ++ s.actions, by simp [again]⟩
      | error failure => exact ⟨false, s.actions, by simp⟩
    · exact ⟨s.listening, s.actions, by simp⟩
  | stopListening => exact ⟨s.listening, s.actions, by simp [step]⟩

lemma step_bound : (s.step e).bound = s.bound := by
  obtain ⟨listening, actions, h⟩ := s.step_frame e
  rw [h]

lemma step_keepListening : (s.step e).keepListening = (s.keepListening && decide (e ≠ .stopListening)) := by
  obtain ⟨listening, actions, h⟩ := s.step_frame e
  rw [h]

lemma stopped_stays (h : s.keepListening = false) : (s.step e).keepListening = false := by
  rw [step_keepListening, h, Bool.false_and]

lemma step_readable (hl : s.listening = true) (hb : s.bound = true) {bytes : List UInt8}
    (h : Service.Readable bytes) :
    ∃ action, dispatch (appended bytes) = .ok action ∧
      s.step (.connection (.delivers bytes)) = { s with actions := action.toList ++ s.actions }.again := by
  obtain ⟨action, ha⟩ := (exists_dispatch_iff bytes).mpr h
  exact ⟨action, ha, by simp [step, Delivery.handled, hl, hb, ha]⟩

lemma step_unreadable (hl : s.listening = true) (hb : s.bound = true) {c : Delivery}
    (h : ¬ (SocketEvent.connection c).Readable) : (s.step (.connection c)).listening = false := by
  cases c with
  | fails => simp [step, Delivery.handled, hl, hb]
  | delivers bytes =>
    cases hd : dispatch (appended bytes) with
    | ok action => exact absurd ((exists_dispatch_iff bytes).mp ⟨action, hd⟩) h
    | error failure => simp [step, Delivery.handled, hl, hb, hd]

lemma survives_iff (hs : s.Accepting) :
    s.Survives e ↔ (s.keepListening = true → s.bound = true → e.Readable) := by
  cases e with
  | acceptFails =>
    refine iff_of_true ⟨?_, fun _ _ h => nomatch h⟩ (fun _ _ => trivial)
    rw [step]
    split
    · exact again_accepting s
    · exact hs
  | stopListening => exact iff_of_true ⟨fun h => (nomatch h), fun _ _ h => nomatch h⟩ (fun _ _ => trivial)
  | connection c =>
    constructor
    · rintro ⟨hacc, -⟩ hk hb
      by_contra hr
      have hl := step_unreadable (hs hk) hb hr
      rw [Accepting, step_keepListening, hk, hl] at hacc
      exact absurd (hacc (by simp)) (by decide)
    · intro hr
      by_cases hk : s.keepListening = true
      · by_cases hb : s.bound = true
        · cases c with
          | fails => exact (hr hk hb).elim
          | delivers bytes =>
            obtain ⟨action, ha, hstep⟩ := step_readable (hs hk) hb (hr hk hb)
            rw [Survives, hstep]
            refine ⟨again_accepting _, fun n hn he _ _ => ?_⟩
            cases he
            rw [dispatch_message n hn] at ha
            cases ha
            rfl
        · have hstep : s.step (.connection c) = s := by simp [step, hb]
          exact ⟨hstep.symm ▸ hs, fun _ _ _ _ h => absurd h hb⟩
      · have hstep := stopped_stays (e := .connection c) (eq_false_of_ne_true hk)
        exact ⟨fun h => by simp [hstep] at h, fun _ _ _ h => absurd h hk⟩

lemma along_readable_of_stopped {es : List SocketEvent} (hk : s.keepListening = false) :
    Along step (fun s e => s.keepListening = true → s.bound = true → e.Readable) s es := by
  induction es generalizing s with
  | nil => trivial
  | cons e es ih => exact ⟨fun h => by simp [hk] at h, ih (stopped_stays hk)⟩

lemma along_readable_iff {es : List SocketEvent} (hk : s.keepListening = true) :
    Along step (fun s e => s.keepListening = true → s.bound = true → e.Readable) s es ↔
      (s.bound = true → ∀ e ∈ beforeStop es, e.Readable) := by
  induction es generalizing s with
  | nil => simp [beforeStop]
  | cons e es ih =>
    by_cases he : e = .stopListening
    · subst he
      refine iff_of_true ⟨fun _ _ => trivial, along_readable_of_stopped rfl⟩ ?_
      simp [beforeStop]
    · have hcons : beforeStop (e :: es) = e :: beforeStop es := List.takeWhile_cons_of_pos (by simpa using he)
      have hkeeps : (s.step e).keepListening = true := by simp [step_keepListening, hk, he]
      rw [along_cons, ih hkeeps, step_bound, hcons]
      simp only [List.forall_mem_cons]
      exact ⟨fun h hb => ⟨h.1 hk hb, h.2 hb⟩, fun h => ⟨fun _ hb => (h hb).1, fun hb => (h hb).2⟩⟩

end LocalSocketServer

/-- The thread survives exactly the runs in which, until it is told to stop, no connection
breaks while being read or is too short for the headers it is compared with. -/
theorem listener_survives (bound : Bool) (es : List SocketEvent) :
    Along LocalSocketServer.step LocalSocketServer.Survives (.running bound) es ↔
      (bound = true → ∀ e ∈ beforeStop es, e.Readable) := by
  have hs : (LocalSocketServer.running bound).Accepting := fun h => h
  rw [along_congr LocalSocketServer.Accepting (fun _ _ _ h => h.1)
    (fun _ _ h => LocalSocketServer.survives_iff h) hs]
  exact LocalSocketServer.along_readable_iff rfl

theorem empty_connection_ends_the_listener :
    run LocalSocketServer.step (.running true)
        [.connection (.delivers []),
          .connection (sendRemoteMsg (Notification.connected (ascii "10.0.0.1")).message)] =
      ⟨true, true, false, []⟩ ∧
    ¬ Along LocalSocketServer.step LocalSocketServer.Survives (.running true) [.connection (.delivers [])] := by
  refine ⟨by decide, fun h => ?_⟩
  exact absurd (h.1.1 rfl) (by decide)

end AndroidRemote.Service
