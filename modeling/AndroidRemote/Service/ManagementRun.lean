import AndroidRemote.Library.Runs

/-! `ManagementServer.run`, one statement at a time, so that the two statements of
`stopListening` can fall between any two of its own. -/

namespace AndroidRemote.Service

open AndroidRemote.Library

inductive Throwable
  | socketException (message : Option String)
  | ioException
  | otherException
  | error
  deriving DecidableEq, Repr

inductive ListeningSocket
  | unset
  | listening
  | closed
  deriving DecidableEq, Repr

def ListeningSocket.close (l : ListeningSocket) (succeeds : Bool) : ListeningSocket :=
  match l, succeeds with
  | .listening, true => .closed
  | l, _ => l

lemma ListeningSocket.close_ne_listening (l : ListeningSocket) : l.close true ≠ .listening := by
  cases l <;> decide

inductive Statement
  | accept
  | openOut
  | flushOut
  | openIn
  | readRequest
  | flushRequest
  | answer
  | logRequest
  deriving DecidableEq, Repr

inductive Cleanup
  | flush
  | closeOut
  | closeIn
  | closeSend
  deriving DecidableEq, Repr

inductive Point
  | fresh
  | bind
  | battery
  | raiseFlag
  | test
  | body (s : Statement)
  | cleanup (c : Cleanup) (pending : Option Throwable)
  | ended
  deriving DecidableEq, Repr

def Point.inLoop : Point → Bool
  | .test | .body _ | .cleanup _ _ => true
  | _ => false

/-- `os`, `input` and `send` say whether the variable is set; `send` is a field and outlives
the iteration. `stopping` says that `stopListening` has lowered the flag and not yet closed. -/
structure RunState where
  point : Point
  keepListening : Bool
  listeningSocket : ListeningSocket
  os : Bool
  input : Bool
  send : Bool
  stopping : Bool
  deriving DecidableEq, Repr

inductive Outcome
  | ok
  | throws (t : Throwable)
  deriving DecidableEq, Repr

inductive RunEvent
  | start
  | advance (o : Outcome)
  | stopFlag
  | stopClose (succeeds : Bool)
  deriving DecidableEq, Repr

/-- What is left of a throwable after the two `catch` clauses of the loop. The first one calls
`indexOf` on the message and fails itself where there is none. -/
def afterCatch : Throwable → Option Throwable
  | .socketException none => some .otherException
  | .socketException (some _) => none
  | .ioException => none
  | .otherException => none
  | .error => some .error

namespace RunState

def created : RunState := ⟨.fresh, false, .unset, false, false, false, false⟩

def complete (s : RunState) : Statement → RunState
  | .accept => { s with send := true, point := .body .openOut }
  | .openOut => { s with os := true, point := .body .flushOut }
  | .flushOut => { s with point := .body .openIn }
  | .openIn => { s with input := true, point := .body .readRequest }
  | .readRequest => { s with point := .body .flushRequest }
  | .flushRequest => { s with point := .body .answer }
  | .answer => { s with point := .body .logRequest }
  | .logRequest => { s with point := .cleanup .flush none }

def bodyThrows (s : RunState) (t : Throwable) : RunState :=
  { s with point := .cleanup .flush (afterCatch t) }

def attempted (s : RunState) : Cleanup → Bool
  | .flush => s.os
  | .closeOut => s.os
  | .closeIn => s.input
  | .closeSend => s.send

def escapes (s : RunState) (o : Outcome) : Bool :=
  match s.point with
  | .battery => o ≠ .ok
  | .cleanup c pending => (s.attempted c && decide (o ≠ .ok)) || (decide (c = .closeSend) && pending.isSome)
  | _ => false

def cleaned (s : RunState) (pending : Option Throwable) : Cleanup → RunState
  | .flush => { s with point := .cleanup .closeOut pending }
  | .closeOut => { s with point := .cleanup .closeIn pending }
  | .closeIn => { s with point := .cleanup .closeSend pending }
  | .closeSend => { s with point := .test }

/-- The outer `catch` clauses only log, so `run` is over whether they match or not. -/
def advance (s : RunState) (o : Outcome) : RunState :=
  match s.point with
  | .fresh | .ended => s
  | .bind =>
    match o with
    | .ok => { s with listeningSocket := .listening, point := .battery }
    | .throws _ => { s with point := .ended }
  | .battery => if s.escapes o then { s with point := .ended } else { s with point := .raiseFlag }
  | .raiseFlag => { s with keepListening := true, point := .test }
  | .test =>
    if s.keepListening then { s with os := false, input := false, point := .body .accept }
    else { s with point := .ended }
  | .body b =>
    match o with
    | .throws t => s.bodyThrows t
    | .ok =>
      if b = .accept ∧ s.listeningSocket ≠ .listening then
        s.bodyThrows (.socketException (some "Socket closed"))
      else s.complete b
  | .cleanup c pending => if s.escapes o then { s with point := .ended } else s.cleaned pending c

def step (s : RunState) : RunEvent → RunState
  | .start => if s.point = .fresh then { s with point := .bind } else s
  | .advance o => s.advance o
  | .stopFlag => if s.stopping then s else { s with keepListening := false, stopping := true }
  | .stopClose succeeds =>
    if s.stopping then
      { s with stopping := false, listeningSocket := s.listeningSocket.close succeeds }
    else s

structure Truthful (s : RunState) : Prop where
  running : s.keepListening = true → s.point.inLoop = true ∧ s.listeningSocket = .listening
  ended : s.point = .ended → s.keepListening = false ∧ s.listeningSocket ≠ .listening

def Stopped (s : RunState) : Prop := s.keepListening = false ∧ s.listeningSocket = .closed

instance (s : RunState) : Decidable s.Stopped := inferInstanceAs (Decidable (_ ∧ _))

/-- The steps that keep the flag true: no throwable leaves `run` before the server has been
stopped, and `stopListening` does not overtake the start, fail, or get cut in two by the exit. -/
def Orderly (s : RunState) : RunEvent → Prop
  | .start => True
  | .advance o =>
    (s.escapes o = true → s.Stopped) ∧
    (s.point = .raiseFlag → s.listeningSocket = .listening ∧ s.stopping = false) ∧
    (s.point = .test → s.keepListening = false → s.listeningSocket = .listening → s.stopping = false)
  | .stopFlag => True
  | .stopClose succeeds => succeeds = true

instance (s : RunState) (e : RunEvent) : Decidable (s.Orderly e) :=
  match e with
  | .start => inferInstanceAs (Decidable True)
  | .advance _ => inferInstanceAs (Decidable (_ ∧ _))
  | .stopFlag => inferInstanceAs (Decidable True)
  | .stopClose _ => inferInstanceAs (Decidable (_ = _))

structure Invariant (s : RunState) : Prop where
  truthful : s.Truthful
  unbound : s.point = .fresh ∨ s.point = .bind → s.listeningSocket ≠ .listening
  halfway : s.stopping = true → s.keepListening = false
  lowered : s.point.inLoop = true → s.keepListening = false →
    s.stopping = true ∨ s.listeningSocket ≠ .listening

lemma created_invariant : created.Invariant := by
  refine ⟨⟨?_, ?_⟩, ?_, ?_, ?_⟩ <;> simp [created, Point.inLoop]

lemma Invariant.stay {s t : RunState} (h : s.Invariant) (hs : s.point.inLoop = true)
    (ht : t.point.inLoop = true) (hk : t.keepListening = s.keepListening)
    (hl : t.listeningSocket = s.listeningSocket) (hp : t.stopping = s.stopping) : t.Invariant := by
  refine ⟨⟨?_, ?_⟩, ?_, ?_, ?_⟩
  · intro hrun
    rw [hk] at hrun
    exact ⟨ht, hl.trans (h.truthful.running hrun).2⟩
  · intro he
    rw [he] at ht
    cases ht
  · rintro (hf | hf)
    · rw [hf] at ht
      cases ht
    · rw [hf] at ht
      cases ht
  · rw [hk, hp]
    exact h.halfway
  · rw [hk, hl, hp]
    exact fun _ => h.lowered hs

lemma Invariant.finish {s : RunState} (hk : s.keepListening = false)
    (hl : s.listeningSocket ≠ .listening) : Invariant { s with point := .ended } :=
  ⟨⟨by simp [hk], fun _ => ⟨hk, hl⟩⟩, by simp, fun _ => hk, by simp [Point.inLoop]⟩

lemma Invariant.prepare {s : RunState} {p : Point} {l : ListeningSocket} (hk : s.keepListening = false)
    (hp : p = .battery ∨ p = .raiseFlag) : Invariant { s with listeningSocket := l, point := p } := by
  rcases hp with rfl | rfl <;> refine ⟨⟨?_, ?_⟩, ?_, ?_, ?_⟩ <;> simp [hk, Point.inLoop]

lemma Invariant.flag_down {s : RunState} (h : s.Invariant) (hp : s.point.inLoop = false) :
    s.keepListening = false := by
  cases hk : s.keepListening with
  | false => rfl
  | true =>
    rw [(h.truthful.running hk).1] at hp
    cases hp

lemma advance_invariant {s : RunState} (h : s.Invariant) (o : Outcome) (ho : s.Orderly (.advance o)) :
    (s.advance o).Invariant := by
  obtain ⟨hescape, hraise, hexit⟩ := ho
  have hdown := h.flag_down
  have hleave : s.escapes o = true → Invariant { s with point := .ended } := by
    intro he
    obtain ⟨hk, hl⟩ := hescape he
    exact Invariant.finish hk (by simp [hl])
  simp only [advance]
  cases hp : s.point with
  | fresh => exact h
  | ended => exact h
  | bind =>
    rw [hp] at hdown
    cases o with
    | ok => exact Invariant.prepare (hdown rfl) (.inl rfl)
    | throws t => exact Invariant.finish (hdown rfl) (h.unbound (.inr hp))
  | battery =>
    rw [hp] at hdown
    dsimp only
    split_ifs with he
    · exact hleave he
    · exact Invariant.prepare (hdown rfl) (.inr rfl)
  | raiseFlag =>
    obtain ⟨hl, hs⟩ := hraise hp
    refine ⟨⟨?_, ?_⟩, ?_, ?_, ?_⟩ <;> simp [hl, hs, Point.inLoop]
  | test =>
    have hin : s.point.inLoop = true := by rw [hp]; rfl
    dsimp only
    split_ifs with hk
    · exact h.stay hin rfl rfl rfl rfl
    · have hk := Bool.eq_false_iff.mpr hk
      refine Invariant.finish hk ?_
      intro hl
      have hs := hexit hp hk hl
      cases h.lowered hin hk with
      | inl hlow =>
        rw [hs] at hlow
        cases hlow
      | inr hlow => exact hlow hl
  | body b =>
    have hin : s.point.inLoop = true := by rw [hp]; rfl
    cases o with
    | throws t => exact h.stay hin rfl rfl rfl rfl
    | ok =>
      dsimp only
      split_ifs
      · exact h.stay hin rfl rfl rfl rfl
      · cases b <;> exact h.stay hin rfl rfl rfl rfl
  | cleanup c pending =>
    have hin : s.point.inLoop = true := by rw [hp]; rfl
    dsimp only
    split_ifs with he
    · exact hleave he
    · cases c <;> exact h.stay hin rfl rfl rfl rfl

lemma step_invariant (s : RunState) (e : RunEvent) (h : s.Invariant) (ho : s.Orderly e) :
    (s.step e).Invariant := by
  cases e with
  | start =>
    simp only [step]
    split_ifs with hf
    · have hk : s.keepListening = false := h.flag_down (by rw [hf]; rfl)
      have hl := h.unbound (.inl hf)
      refine ⟨⟨?_, ?_⟩, ?_, ?_, ?_⟩ <;> simp [hk, hl, Point.inLoop]
    · exact h
  | advance o => exact advance_invariant h o ho
  | stopFlag =>
    simp only [step]
    split_ifs
    · exact h
    · exact ⟨⟨by simp, fun he => ⟨rfl, (h.truthful.ended he).2⟩⟩, h.unbound,
        fun _ => rfl, fun _ _ => .inl rfl⟩
  | stopClose succeeds =>
    cases ho
    simp only [step]
    split_ifs with hstop
    · have hk := h.halfway hstop
      have hl := s.listeningSocket.close_ne_listening
      exact ⟨⟨by simp [hk], fun _ => ⟨hk, hl⟩⟩, fun _ => hl, by simp, fun _ _ => .inr hl⟩
    · exact h

end RunState

theorem flag_truthful (es : List RunEvent) (h : Along RunState.step RunState.Orderly .created es) :
    (run RunState.step .created es).Truthful :=
  (h.invariant RunState.Invariant RunState.step_invariant RunState.created_invariant).truthful

def started : List RunEvent := [.start, .advance .ok, .advance .ok, .advance .ok, .advance .ok]

def goneClient : List RunEvent :=
  started ++ [.advance .ok, .advance .ok, .advance .ok, .advance .ok, .advance (.throws .ioException),
    .advance .ok, .advance .ok, .advance .ok, .advance .ok]

theorem flag_truthful_gone : (run RunState.step .created goneClient).Truthful :=
  flag_truthful goneClient (by decide)

def resetClient : List RunEvent :=
  started ++ [.advance .ok, .advance .ok, .advance .ok, .advance (.throws .ioException),
    .advance (.throws .ioException)]

theorem reset_client_ends_listening : (run RunState.step .created resetClient).point = .ended ∧
    ¬ (run RunState.step .created resetClient).Truthful := by
  refine ⟨by decide, ?_⟩
  intro h
  have hflag := (h.ended (by decide)).1
  revert hflag
  decide

end AndroidRemote.Service
