import AndroidRemote.Library.Runs

/-! The installation of the two binaries when the application is started, one statement that can
fail at a time. -/

namespace AndroidRemote.Service

open AndroidRemote.Library

inductive Installed
  | androidvncserver
  | indexvnc
  deriving DecidableEq, Repr

structure AppServer where
  versionCode : ℤ
  resource : Installed → List UInt8

/-- The statement that the process executes next; `down` is no process, `up` one that has
returned from `onCreate`. -/
inductive StartPoint
  | down
  | commit (versionCode : ℤ)
  | openRawResource (id : Installed)
  | openFile (id : Installed) (buffer : List UInt8)
  | write (id : Installed) (buffer : List UInt8)
  | up
  deriving DecidableEq, Repr

structure Phone where
  lastRun : ℤ
  file : Installed → Option (List UInt8)
  point : StartPoint

/-- The outcome of the next statement. A stream is opened, reports a size and is read once, or one
of these throws; a write throws behind some of the bytes. -/
inductive StartEvent
  | starts (packageFound : Bool)
  | commits (stored : Bool)
  | reads (stream : Option (ℕ × ℕ))
  | opens (ok : Bool)
  | writes (thrownBehind : Option ℕ)
  | killed
  deriving DecidableEq, Repr

def readInto (resource : List UInt8) (available count : ℕ) : List UInt8 :=
  let bytes := resource.take (min available count)
  bytes ++ List.replicate (available - bytes.length) 0

namespace AppServer

variable (a : AppServer)

def afterCopy : Installed → StartPoint
  | .androidvncserver => .openRawResource .indexvnc
  | .indexvnc => .up

def versionSeen (packageFound : Bool) : ℤ := if packageFound then a.versionCode else 0

def step (s : Phone) (e : StartEvent) : Phone :=
  match s.point, e with
  | .down, .starts found =>
    if s.lastRun ≥ a.versionSeen found then { s with point := .up }
    else { s with point := .commit (a.versionSeen found) }
  | .commit version, .commits stored =>
    { s with lastRun := if stored then version else s.lastRun, point := .openRawResource .androidvncserver }
  | .openRawResource id, .reads stream =>
    match stream with
    | none => { s with point := afterCopy id }
    | some (available, count) =>
      { s with point := .openFile id (readInto (a.resource id) available count) }
  | .openFile id buffer, .opens ok =>
    if ok then { s with file := Function.update s.file id (some []), point := .write id buffer }
    else { s with point := afterCopy id }
  | .write id buffer, .writes thrownBehind =>
    let bytes := match thrownBehind with
      | none => buffer
      | some count => buffer.take count
    { s with file := Function.update s.file id (some bytes), point := afterCopy id }
  | _, .killed => { s with point := .down }
  | _, _ => s

def Complete (s : Phone) : Prop := ∀ id, s.file id = some (a.resource id)

def AnswersRight (s : Phone) (e : StartEvent) : Prop :=
  s.point = .down → e = .starts true → s.lastRun ≥ a.versionCode → a.Complete s

def Undisturbed (s : Phone) (e : StartEvent) : Prop :=
  a.versionCode ≤ s.lastRun →
    match s.point, e with
    | .openRawResource id, .reads stream =>
      ∃ count, stream = some ((a.resource id).length, count) ∧ (a.resource id).length ≤ count
    | .openFile _ _, .opens ok => ok = true
    | .write _ _, .writes thrownBehind => thrownBehind = none
    | .openRawResource _, .killed => False
    | .openFile _ _, .killed => False
    | .write _ _, .killed => False
    | _, _ => True

def Progress (s : Phone) : Prop :=
  match s.point with
  | .down | .up | .commit _ => a.Complete s
  | .openRawResource id => id = .indexvnc → s.file .androidvncserver = some (a.resource .androidvncserver)
  | .openFile id buffer | .write id buffer => buffer = a.resource id ∧
      (id = .indexvnc → s.file .androidvncserver = some (a.resource .androidvncserver))

def Tracks (s : Phone) : Prop := a.versionCode ≤ s.lastRun → a.Progress s

lemma readInto_complete (resource : List UInt8) {count : ℕ} (h : resource.length ≤ count) :
    readInto resource resource.length count = resource := by
  simp [readInto, h]

variable {a} {s : Phone} {e : StartEvent}

lemma tracks_down (h : a.Tracks s) (hp : s.point = .down) : a.Tracks (a.step s e) := by
  obtain ⟨lastRun, file, point⟩ := s
  cases hp
  cases e with
  | starts found =>
    simp only [step]
    split_ifs <;> exact h
  | _ => exact h

lemma tracks_commit (h : a.Tracks s) {version : ℤ} (hp : s.point = .commit version) : a.Tracks (a.step s e) := by
  obtain ⟨lastRun, file, point⟩ := s
  cases hp
  cases e with
  | commits stored => exact fun _ hid => absurd hid (by decide)
  | _ => exact h

lemma tracks_openRawResource (h : a.Tracks s) (hu : a.Undisturbed s e) {id : Installed}
    (hp : s.point = .openRawResource id) : a.Tracks (a.step s e) := by
  obtain ⟨lastRun, file, point⟩ := s
  cases hp
  cases e with
  | reads stream =>
    cases stream with
    | none =>
      intro hv
      obtain ⟨count, hstream, -⟩ := hu hv
      cases hstream
    | some stream =>
      intro hv
      obtain ⟨count, hstream, hcount⟩ := hu hv
      cases hstream
      exact ⟨readInto_complete _ hcount, h hv⟩
  | killed => exact fun hv => (hu hv).elim
  | _ => exact h

lemma tracks_openFile (h : a.Tracks s) (hu : a.Undisturbed s e) {id : Installed} {buffer : List UInt8}
    (hp : s.point = .openFile id buffer) : a.Tracks (a.step s e) := by
  obtain ⟨lastRun, file, point⟩ := s
  cases hp
  cases e with
  | opens ok =>
    cases ok with
    | false => exact fun hv => absurd (hu hv) Bool.false_ne_true
    | true =>
      intro hv
      obtain ⟨hbuffer, hfirst⟩ := h hv
      refine ⟨hbuffer, ?_⟩
      rintro rfl
      simpa [step] using hfirst rfl
  | killed => exact fun hv => (hu hv).elim
  | _ => exact h

lemma tracks_write (h : a.Tracks s) (hu : a.Undisturbed s e) {id : Installed} {buffer : List UInt8}
    (hp : s.point = .write id buffer) : a.Tracks (a.step s e) := by
  obtain ⟨lastRun, file, point⟩ := s
  cases hp
  cases e with
  | writes thrownBehind =>
    intro hv
    obtain rfl : thrownBehind = none := hu hv
    obtain ⟨rfl, hfirst⟩ := h hv
    cases id with
    | androidvncserver =>
      intro _
      simp [step]
    | indexvnc =>
      intro id
      cases id with
      | androidvncserver => simpa [step] using hfirst rfl
      | indexvnc => simp [step]
  | killed => exact fun hv => (hu hv).elim
  | _ => exact h

lemma step_tracks (s : Phone) (e : StartEvent) (h : a.Tracks s) (hu : a.Undisturbed s e) : a.Tracks (a.step s e) := by
  cases hp : s.point with
  | down => exact tracks_down h hp
  | commit version => exact tracks_commit h hp
  | openRawResource id => exact tracks_openRawResource h hu hp
  | openFile id buffer => exact tracks_openFile h hu hp
  | write id buffer => exact tracks_write h hu hp
  | up =>
    obtain ⟨lastRun, file, point⟩ := s
    cases hp
    cases e <;> exact h

structure Missed (a : AppServer) (s : Phone) : Prop where
  stored : a.versionCode ≤ s.lastRun ∧ 0 ≤ s.lastRun
  resting : s.point = .down ∨ s.point = .up
  incomplete : ¬ a.Complete s

lemma step_missed (h : a.Missed s) (e : StartEvent) : a.Missed (a.step s e) := by
  obtain ⟨hv, hrest, hi⟩ := h
  obtain ⟨lastRun, file, point⟩ := s
  have hseen : ∀ found, lastRun ≥ a.versionSeen found := by
    intro found
    cases found
    · exact hv.2
    · exact hv.1
  rcases hrest with hp | hp <;> cases hp
  · cases e with
    | starts found =>
      simp only [step, if_pos (hseen found)]
      exact ⟨hv, .inr rfl, hi⟩
    | _ => exact ⟨hv, .inl rfl, hi⟩
  · cases e with
    | killed => exact ⟨hv, .inl rfl, hi⟩
    | _ => exact ⟨hv, .inr rfl, hi⟩

end AppServer

theorem first_run_complete (a : AppServer) {s : Phone} (hs : s.lastRun < a.versionCode) (es : List StartEvent) :
    (Along a.step a.Undisturbed s es → Along a.step a.AnswersRight s es) ∧
      (a.Missed (run a.step s es) → ∀ later, a.Missed (run a.step (run a.step s es) later)) := by
  constructor
  · intro h
    refine h.of_invariant a.Tracks (fun s e hs he => AppServer.step_tracks s e hs he) ?_ (fun hv => ?_)
    · intro s e hs _ hdown _ hv
      have hprogress := hs hv
      rwa [AppServer.Progress, hdown] at hprogress
    · omega
  · intro h later
    have hall : Along a.step (fun _ _ => True) (run a.step s es) later :=
      along_of_forall (A := fun _ => True) (fun _ _ => trivial)
    exact hall.invariant a.Missed (fun s e hs _ => AppServer.step_missed hs e) h

def firstVersion : AppServer := ⟨1, fun _ => [0x7f]⟩

def bare : Phone := ⟨0, fun _ => none, .down⟩

def installedThenStarted : List StartEvent :=
  [.starts true, .commits true, .reads (some (1, 1)), .opens true, .writes none, .reads (some (1, 1)), .opens true,
    .writes none, .killed, .starts true]

theorem first_run_complete_bare :
    (Along firstVersion.step firstVersion.AnswersRight bare installedThenStarted ∧
      firstVersion.Complete (run firstVersion.step bare installedThenStarted)) ∧
    ∀ later, firstVersion.Missed (run firstVersion.step
      (run firstVersion.step bare [.starts true, .commits true, .killed]) later) := by
  have hundisturbed : Along firstVersion.step firstVersion.Undisturbed bare installedThenStarted :=
    ⟨fun _ => trivial, fun _ => trivial, fun _ => ⟨1, rfl, le_rfl⟩, fun _ => rfl, fun _ => rfl,
      fun _ => ⟨1, rfl, le_rfl⟩, fun _ => rfl, fun _ => rfl, fun _ => trivial, fun _ => trivial, trivial⟩
  have hright := (first_run_complete firstVersion (by decide) installedThenStarted).1 hundisturbed
  refine ⟨⟨hright, ?_⟩, ?_⟩
  · obtain ⟨-, -, -, -, -, -, -, -, -, hsecond, -⟩ := hright
    exact hsecond rfl rfl (by decide)
  · refine (first_run_complete firstVersion (by decide) [.starts true, .commits true, .killed]).2 ?_
    refine ⟨by decide, .inl rfl, ?_⟩
    intro hcomplete
    cases hcomplete .androidvncserver

theorem killed_before_copying : ¬ Along firstVersion.step firstVersion.AnswersRight bare
    [.starts true, .commits true, .killed, .starts true] := by
  rintro ⟨-, -, -, hanswer, -⟩
  have hfile := hanswer rfl rfl (by decide) .androidvncserver
  cases hfile

end AndroidRemote.Service
