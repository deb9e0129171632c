import AndroidRemote.Service.ManagementRun

/-! What a management server answers to a request: the dispatch in `run` and the functions it
calls, over what the platform knows. Coordinates are of any type. -/

namespace AndroidRemote.Service

structure Operation where
  id : ℤ
  message : String
  deriving DecidableEq, Repr

namespace Operation

def opOpen : ℤ := 0
def opServicesRunning : ℤ := 1
def opApplicationsRunning : ℤ := 2
def opLocationGps : ℤ := 3
def opClose : ℤ := 4
def opApplicationsInstalled : ℤ := 5
def opBatteryLevel : ℤ := 6
def opReboot : ℤ := 7

end Operation

structure AndroidRunningApplication where
  name : String
  importance : ℤ
  deriving DecidableEq, Repr

/-- `process` is set to the label of the application. -/
structure AndroidService where
  pid : ℤ
  process : String
  deriving DecidableEq, Repr

structure AndroidApplication where
  packageName : String
  applicationName : String
  deriving DecidableEq, Repr

structure ApplicationsRunning where
  list : List AndroidRunningApplication
  deriving DecidableEq, Repr

structure ServicesRunning where
  services : List AndroidService
  deriving DecidableEq, Repr

structure ApplicationsInstalled where
  list : List AndroidApplication
  deriving DecidableEq, Repr

structure Reboot where
  result : Bool
  problemMessage : Option String
  deriving DecidableEq, Repr

structure LocationOperation (α : Type*) where
  latitude : α
  longitude : α
  message : Option String
  deriving DecidableEq, Repr

def ApplicationsRunning.addApp (apps : ApplicationsRunning) (a : AndroidRunningApplication) :
    ApplicationsRunning :=
  ⟨apps.list ++ [a]⟩

def ServicesRunning.addService (running : ServicesRunning) (s : AndroidService) : ServicesRunning :=
  ⟨running.services ++ [s]⟩

def ApplicationsInstalled.addApp (apps : ApplicationsInstalled) (a : AndroidApplication) :
    ApplicationsInstalled :=
  ⟨apps.list ++ [a]⟩

namespace LocationOperation

variable {α : Type*}

def ofPosition (latitude longitude : α) : LocationOperation α := ⟨latitude, longitude, none⟩

def ofMessage [Zero α] (message : String) : LocationOperation α := ⟨0, 0, some message⟩

end LocationOperation

structure RunningAppProcessInfo where
  processName : String
  importance : ℤ

structure RunningServiceInfo where
  pid : ℤ
  process : String

structure ApplicationInfo where
  packageName : String
  label : String

structure Location (α : Type*) where
  latitude : α
  longitude : α
  altitude : α

/-- The managers of the platform. `applicationLabel` has nothing for a name that
`getApplicationInfo` does not find, `getBestProvider` and `getProviders` are asked for enabled
providers, and `su` is what comes of writing the reboot command. -/
structure Platform (α : Type*) where
  getRunningAppProcesses : Option (List RunningAppProcessInfo)
  getRunningServices : ℕ → List RunningServiceInfo
  installedApplications : List ApplicationInfo
  applicationLabel : String → Option String
  getBestProvider : Option String
  getProviders : List String
  getLastKnownLocation : String → Option (Location α)
  su : Except (Option String) Unit

inductive Answer (α : Type*)
  | text (s : String)
  | applications (apps : ApplicationsRunning)
  | services (running : ServicesRunning)
  | location (l : LocationOperation α)
  | installed (apps : ApplicationsInstalled)
  | battery (level : ℤ)
  | reboot (r : Reboot)
  deriving DecidableEq, Repr

namespace Platform

variable {α : Type*} (p : Platform α)

def addApps : List RunningAppProcessInfo → ApplicationsRunning → ApplicationsRunning
  | [], apps => apps
  | application :: rest, apps =>
    match p.applicationLabel application.processName with
    | some label => addApps rest (apps.addApp ⟨label, application.importance⟩)
    | none => addApps rest apps

/-- The platform may have null for the list, on which the loop fails. -/
def getApplications : Except Throwable ApplicationsRunning :=
  match p.getRunningAppProcesses with
  | some applications => .ok (p.addApps applications ⟨[]⟩)
  | none => .error .otherException

def addServices : List RunningServiceInfo → ServicesRunning → Except Throwable ServicesRunning
  | [], running => .ok running
  | info :: rest, running =>
    match p.applicationLabel info.process with
    | some label => addServices rest (running.addService ⟨info.pid, label⟩)
    | none => .error .otherException

def getServicesRunning : Except Throwable ServicesRunning :=
  p.addServices (p.getRunningServices 30) ⟨[]⟩

def getInstalledApplications : ApplicationsInstalled :=
  p.installedApplications.foldl (fun apps info => apps.addApp ⟨info.packageName, info.label⟩) ⟨[]⟩

def firstKnown : List String → Option (Location α)
  | [] => none
  | currentProvider :: rest =>
    match p.getLastKnownLocation currentProvider with
    | some loc => some loc
    | none => firstKnown rest

def noPosition : String := "Error trying to get location, no position available right now."

/-- The platform throws where it is asked for the location of the provider null. -/
def getLocation [Zero α] : Except Throwable (LocationOperation α) :=
  match p.getBestProvider with
  | none => .error .otherException
  | some provider =>
    let loc := match p.getLastKnownLocation provider with
      | some loc => some loc
      | none => p.firstKnown p.getProviders
    match loc with
    | some loc => .ok (.ofPosition loc.latitude loc.altitude)
    | none => .ok (.ofMessage noPosition)

def getRebootResult : Reboot :=
  match p.su with
  | .ok _ => ⟨true, none⟩
  | .error message => ⟨false, message⟩

open Operation in
def respond [Zero α] (batteryLevel : ℤ) (o : Operation) : Except Throwable (Option (Answer α)) :=
  if o.id = opOpen then .ok (some (.text "Conexión establecida"))
  else if o.id = opApplicationsRunning then p.getApplications.map (fun apps => some (.applications apps))
  else if o.id = opServicesRunning then p.getServicesRunning.map (fun running => some (.services running))
  else if o.id = opLocationGps then p.getLocation.map (fun l => some (.location l))
  else if o.id = opApplicationsInstalled then .ok (some (.installed p.getInstalledApplications))
  else if o.id = opBatteryLevel then .ok (some (.battery batteryLevel))
  else if o.id = opReboot then .ok (some (.reboot p.getRebootResult))
  else if o.id = opClose then .ok (some (.text "Conexión cerrada"))
  else .ok none

def answered [Zero α] (batteryLevel : ℤ) (o : Operation) : Option (Answer α) :=
  match p.respond batteryLevel o with
  | .ok a => a
  | .error _ => none

def outcome [Zero α] (batteryLevel : ℤ) (o : Operation) : Outcome :=
  match p.respond batteryLevel o with
  | .ok _ => .ok
  | .error t => .throws t

def foundApplication (info : RunningAppProcessInfo) : Option AndroidRunningApplication :=
  (p.applicationLabel info.processName).map (fun label => ⟨label, info.importance⟩)

def foundService (info : RunningServiceInfo) : Option AndroidService :=
  (p.applicationLabel info.process).map (fun label => ⟨info.pid, label⟩)

def ServicesAnswered [Zero α] (batteryLevel : ℤ) (message : String) : Prop :=
  p.answered batteryLevel ⟨Operation.opServicesRunning, message⟩ =
    some (.services ⟨(p.getRunningServices 30).filterMap p.foundService⟩)

def lastPosition : Option (Location α) :=
  (p.getBestProvider.bind p.getLastKnownLocation).or (p.getProviders.findSome? p.getLastKnownLocation)

def LocationAnswered [Zero α] (batteryLevel : ℤ) (message : String) : Prop :=
  p.answered batteryLevel ⟨Operation.opLocationGps, message⟩ =
    some (.location (match p.lastPosition with
      | some loc => .ofPosition loc.latitude loc.longitude
      | none => .ofMessage noPosition))

variable {p}

lemma addApps_eq (applications : List RunningAppProcessInfo) (apps : ApplicationsRunning) :
    p.addApps applications apps = ⟨apps.list ++ applications.filterMap p.foundApplication⟩ := by
  induction applications generalizing apps with
  | nil => simp [addApps]
  | cons application rest ih =>
    cases hl : p.applicationLabel application.processName with
    | none => simp [addApps, foundApplication, hl, ih]
    | some label => simp [addApps, foundApplication, hl, ih, ApplicationsRunning.addApp]

lemma addServices_eq (infos : List RunningServiceInfo) (running : ServicesRunning) :
    p.addServices infos running =
      if ∀ info ∈ infos, (p.applicationLabel info.process).isSome then
        .ok ⟨running.services ++ infos.filterMap p.foundService⟩
      else .error .otherException := by
  induction infos generalizing running with
  | nil => simp [addServices]
  | cons info rest ih =>
    cases hl : p.applicationLabel info.process with
    | none => simp [addServices, hl]
    | some label => simp [addServices, foundService, hl, ih, ServicesRunning.addService]

lemma firstKnown_eq (providers : List String) :
    p.firstKnown providers = providers.findSome? p.getLastKnownLocation := by
  induction providers with
  | nil => rfl
  | cons currentProvider rest ih =>
    cases hl : p.getLastKnownLocation currentProvider <;> simp [firstKnown, hl, ih]

lemma getLocation_none [Zero α] (hb : p.getBestProvider = none) : p.getLocation = .error .otherException := by
  rw [getLocation, hb]

lemma getLocation_some [Zero α] (hb : p.getBestProvider ≠ none) :
    p.getLocation = .ok (match p.lastPosition with
      | some loc => .ofPosition loc.latitude loc.altitude
      | none => .ofMessage noPosition) := by
  obtain ⟨provider, hb⟩ := Option.ne_none_iff_exists'.mp hb
  rw [getLocation, lastPosition, hb, firstKnown_eq]
  dsimp only [Option.bind_some]
  cases p.getLastKnownLocation provider with
  | some loc => rfl
  | none =>
    rw [Option.none_or]
    cases p.getProviders.findSome? p.getLastKnownLocation <;> rfl

lemma getApplications_error {t : Throwable} (h : p.getApplications = .error t) : t = .otherException := by
  rw [getApplications] at h
  cases hr : p.getRunningAppProcesses with
  | some applications => simp [hr] at h
  | none => simpa [hr] using h.symm

lemma getServicesRunning_error {t : Throwable} (h : p.getServicesRunning = .error t) : t = .otherException := by
  rw [getServicesRunning, addServices_eq] at h
  split_ifs at h
  cases h
  rfl

lemma map_error {β γ : Type*} {x : Except Throwable β} {f : β → γ} {t : Throwable}
    (h : x.map f = .error t) : x = .error t := by
  cases x with
  | ok b => cases h
  | error t' =>
    cases h
    rfl

section Answers

variable [Zero α] (batteryLevel : ℤ)

lemma getLocation_error {t : Throwable} (h : p.getLocation = .error t) : t = .otherException := by
  by_cases hb : p.getBestProvider = none
  · rw [getLocation_none hb] at h
    cases h
    rfl
  · rw [getLocation_some hb] at h
    cases h

lemma respond_error {o : Operation} {t : Throwable} (h : p.respond batteryLevel o = .error t) :
    t = .otherException := by
  rw [respond] at h
  split_ifs at h
  · exact getApplications_error (map_error h)
  · exact getServicesRunning_error (map_error h)
  · exact getLocation_error (map_error h)

lemma advance_outcome {s : RunState} (hs : s.point = .body .answer) (o : Operation) :
    (s.advance (p.outcome batteryLevel o)).point = .body .logRequest ∨
      (s.advance (p.outcome batteryLevel o)).point = .cleanup .flush none := by
  rw [outcome]
  cases hr : p.respond batteryLevel o with
  | ok a =>
    left
    simp [RunState.advance, hs, RunState.complete]
  | error t =>
    right
    obtain rfl := respond_error batteryLevel hr
    simp [RunState.advance, hs, RunState.bodyThrows, afterCatch]

lemma answered_applications {applications : List RunningAppProcessInfo}
    (h : p.getRunningAppProcesses = some applications) (message : String) :
    p.answered batteryLevel ⟨Operation.opApplicationsRunning, message⟩ =
      some (.applications ⟨applications.filterMap p.foundApplication⟩) := by
  have hget : p.getApplications = .ok ⟨applications.filterMap p.foundApplication⟩ := by
    rw [getApplications, h]
    simp [addApps_eq]
  simp [answered, respond, Operation.opOpen, Operation.opApplicationsRunning, hget, Except.map]

lemma answered_services (message : String) :
    p.answered batteryLevel ⟨Operation.opServicesRunning, message⟩ =
      if ∀ info ∈ p.getRunningServices 30, (p.applicationLabel info.process).isSome then
        some (.services ⟨(p.getRunningServices 30).filterMap p.foundService⟩)
      else none := by
  have hget : p.respond batteryLevel ⟨Operation.opServicesRunning, message⟩ =
      p.getServicesRunning.map (fun running => some (.services running)) := rfl
  rw [answered, hget, getServicesRunning, addServices_eq]
  split_ifs <;> simp [Except.map]

lemma answered_location (message : String) :
    p.answered batteryLevel ⟨Operation.opLocationGps, message⟩ =
      match (p.getLocation : Except Throwable (LocationOperation α)) with
      | .ok l => some (.location l)
      | .error _ => none := by
  have hget : p.respond batteryLevel ⟨Operation.opLocationGps, message⟩ =
      p.getLocation.map (fun l => some (.location l)) := rfl
  rw [answered, hget]
  cases p.getLocation <;> rfl

theorem services_answered_iff (p : Platform α) (message : String) : p.ServicesAnswered batteryLevel message ↔
    ∀ info ∈ p.getRunningServices 30, (p.applicationLabel info.process).isSome := by
  rw [ServicesAnswered, answered_services]
  split_ifs with hall
  · exact iff_of_true rfl hall
  · refine iff_of_false ?_ hall
    intro h
    cases h

/-- The position that is due reaches the client exactly when there is a provider to ask and the
altitude, sent in place of the longitude, is equal to it. -/
theorem location_answered_iff (p : Platform α) (message : String) : p.LocationAnswered batteryLevel message ↔
    p.getBestProvider ≠ none ∧ ∀ loc, p.lastPosition = some loc → loc.altitude = loc.longitude := by
  rw [LocationAnswered, answered_location]
  by_cases hb : p.getBestProvider = none
  · rw [getLocation_none hb]
    simp [hb]
  · rw [getLocation_some hb, and_iff_right hb]
    cases p.lastPosition with
    | none => simp
    | some loc => simp [LocationOperation.ofPosition]

end Answers

def remoteProcess : Platform ℤ where
  getRunningAppProcesses := none
  getRunningServices _ := [⟨7, "system"⟩, ⟨8, "system:remote"⟩]
  installedApplications := []
  applicationLabel name := if name = "system" then some "System" else none
  getBestProvider := none
  getProviders := []
  getLastKnownLocation _ := none
  su := .ok ()

theorem remote_process_silences_services : ¬ remoteProcess.ServicesAnswered 50 "services" := by
  simp [ServicesAnswered, answered_services, remoteProcess]

def fixedPosition : Platform ℤ :=
  { remoteProcess with
    getBestProvider := some "gps"
    getProviders := ["gps"]
    getLastKnownLocation := fun _ => some ⟨41, 2, 12⟩ }

theorem altitude_sent_as_longitude :
    ¬ fixedPosition.LocationAnswered 50 "location" ∧ ¬ remoteProcess.LocationAnswered 50 "location" := by
  refine ⟨?_, ?_⟩
  · simp [LocationAnswered, answered_location, fixedPosition, getLocation, lastPosition,
      LocationOperation.ofPosition]
  · simp [LocationAnswered, answered_location, remoteProcess, getLocation]

end Platform

end AndroidRemote.Service
