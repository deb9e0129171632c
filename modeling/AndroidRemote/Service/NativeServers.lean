import AndroidRemote.Service.ActivityView
import AndroidRemote.Service.Wishes

/-! How many native servers are outstanding, and the port the activity is told. -/

namespace AndroidRemote.Service

open AndroidRemote.Library

def Launch.launches : Launch → Bool
  | .throws _ => false
  | .runs launched _ => launched

namespace VncSide

variable {v : VncSide}

def ports (v : VncSide) : List ℤ := v.processes.map NativeProcess.port

def OnPort (v : VncSide) : Prop := v.ports = [] ∨ v.ports = [v.getVncPort]

def portsStarted (v : VncSide) (port : ℤ) (launch : Launch) : List ℤ :=
  if v.isRunning = false ∧ launch.launches = true then v.ports ++ [port] else v.ports

def portsStopped (v : VncSide) (kill : Kill) : List ℤ :=
  if v.isRunning then (remaining kill.killed v.processes).map NativeProcess.port else v.ports

lemma portsStarted_of_fails {launch : Launch} (h : launch.fails = true) {port : ℤ} :
    v.portsStarted port launch = v.ports := by
  cases launch with
  | throws message => simp [portsStarted, Launch.launches]
  | runs launched appeared => cases h

/-- A start on `port` is asked for while a native server is visible, or none is outstanding, or
nothing comes of it but the port that the outstanding one has already. -/
def MayLaunch (v : VncSide) (port : ℤ) (launch : Launch) : Prop :=
  v.isRunning = true ∨ v.ports = [] ∨ (launch.launches = false ∧ v.ports = [port])

lemma OnPort.length_le (h : v.OnPort) : v.processes.length ≤ 1 := by
  have hlen : v.processes.length = v.ports.length := (List.length_map _).symm
  rcases h with h | h <;> simp [hlen, h]

lemma OnPort.visible (h : v.OnPort) (hr : v.isRunning = true) :
    (v.processes.filter NativeProcess.visible).map NativeProcess.port = [v.getVncPort] := by
  rcases h with h | h
  · rw [ports, List.map_eq_nil_iff] at h
    rw [isRunning, h] at hr
    cases hr
  · obtain ⟨p, hp, hport⟩ := List.map_eq_singleton_iff.mp h
    have hv : p.visible = true := by simpa [isRunning, hp] using hr
    simp [hp, hv, hport]

lemma OnPort.remove (h : v.OnPort) (killed : ℕ → Bool) :
    OnPort { v with processes := remaining killed v.processes } := by
  have hsub := (remaining_sublist killed v.processes).map NativeProcess.port
  rcases h with h | h
  · left
    rw [show v.processes.map NativeProcess.port = [] from h] at hsub
    exact List.sublist_nil.mp hsub
  · rw [show v.processes.map NativeProcess.port = [v.getVncPort] from h] at hsub
    exact List.sublist_singleton.mp hsub

lemma OnPort.reveal (h : v.OnPort) (appeared : ℕ → Bool) :
    OnPort { v with processes := Service.reveal appeared v.processes } := by
  simpa only [OnPort, ports, getVncPort, reveal_ports] using h

lemma OnPort.stopVncServer (h : v.OnPort) (kill : Kill) : (v.stopVncServer kill).1.OnPort := by
  have hkeep : OnPort { v with vncWrapper := some (v.vncWrapper.getD .created) } := h
  cases kill <;> exact hkeep.remove _

lemma OnPort.startVncServer (hr : v.isRunning = false) {port : ℤ} {launch : Launch}
    (hm : v.MayLaunch port launch) (scaleFactor rotation : ℤ) :
    (v.startVncServer port scaleFactor rotation launch).1.OnPort := by
  have hm : v.ports = [] ∨ (launch.launches = false ∧ v.ports = [port]) := by
    rcases hm with hrun | hm
    · rw [hr] at hrun
      cases hrun
    · exact hm
  cases launch with
  | throws message =>
    rcases hm with hnone | ⟨-, hsame⟩
    · exact .inl hnone
    · exact .inr hsame
  | runs launched appeared =>
    have hports := v.startVncServer_ports port scaleFactor rotation launched appeared
    change ports _ = v.ports ++ _ at hports
    rcases hm with hnone | ⟨hl, hsame⟩
    · rw [hnone, List.nil_append] at hports
      cases launched with
      | true => exact .inr hports
      | false => exact .inl hports
    · have hl : launched = false := hl
      subst hl
      rw [hsame] at hports
      exact .inr hports

end VncSide

def Talk.Reported (t : Talk) : Prop :=
  ∀ r ∈ t.reports, ∀ reply, r.reply = some reply → reply.what = .vncStarted →
    r.launchedWith = [reply.arg1]

lemma Talk.Reported.sendReply {t : Talk} (h : t.Reported) {s : Server} {current : Bool} {port : ℤ}
    {ports : List ℤ} (hp : s = .vnc → current = true → ports = [port]) (text : Option Text) :
    (t.sendReply s current port text ports).Reported := by
  intro r hr
  simp only [Talk.sendReply, List.mem_cons] at hr
  cases hr with
  | inr hold => exact h r hold
  | inl hnew =>
    subst hnew
    intro reply hreply hwhat
    simp only at hreply ⊢
    split_ifs at hreply
    cases hreply
    cases s with
    | mng => cases current <;> cases hwhat
    | vnc =>
      cases current with
      | true => exact hp rfl rfl
      | false => cases hwhat

namespace World

variable {w : World}

def HandedOver (ports : List ℤ) : Prop := ports = [] ∨ ports = [vncDefaultPort]

def Ends (w : World) : Event → Prop
  | .message msg env =>
    (msg.what = .startVnc ∧ w.vnc.startFails env.launch = true) ∨ (msg.what = .startMng ∧ w.mng.Stale)
  | .startCommand (some extras) env =>
    (extras.startVnc = true ∧ w.vnc.startFails env.launch = true) ∨
      (extras.startMng = true ∧ w.mng.Stale)
  | .recreate _ => True
  | _ => False

def leftPorts (w : World) : Event → List ℤ
  | .startCommand (some extras) env =>
    if extras.startVnc then w.vnc.portsStarted (extras.vncPort.getD vncDefaultPort) env.launch
    else w.vnc.portsStopped env.kill
  | _ => w.vnc.ports

lemma startCommandMng_isSome (extras : Extras) (env : Environment) :
    (w.startCommandMng extras env).thrown.isSome = true ↔ extras.startMng = true ∧ w.mng.Stale := by
  rw [startCommandMng]
  cases extras.startMng with
  | true =>
    rw [if_pos rfl, initMng, Result.andThen_ok_isSome, Option.isSome_iff_ne_none, ne_eq,
      tryStartMng_thrown, not_not]
    simp
  | false => simp

lemma handleMessage_isSome (msg : Message) (env : Environment) :
    (w.handleMessage msg env).thrown.isSome = true ↔ w.Ends (.message msg env) := by
  simp only [Ends]
  cases hw : msg.what with
  | startVnc =>
    simp only [handleMessage, hw]
    rw [tryStartVnc_isSome]
    simp
  | startMng =>
    simp only [handleMessage, hw]
    rw [Option.isSome_iff_ne_none, ne_eq, tryStartMng_thrown, not_not]
    simp
  | _ => simp [handleMessage, hw]

lemma restarts_iff (e : Event) : restarts w e = true ↔ w.Ends e := by
  cases e with
  | message msg env => exact handleMessage_isSome msg env
  | startCommand intent env =>
    cases intent with
    | none => simp [restarts, onStartCommand, Ends]
    | some extras =>
      have hvnc := w.startCommandVnc_isSome extras env
      simp only [restarts, onStartCommand, Ends, ← Bool.and_eq_true, ← hvnc]
      cases ht : (w.startCommandVnc extras env).thrown with
      | none =>
        rw [Result.andThen_of_none ht, startCommandMng_isSome, startCommandVnc_mng]
        simp
      | some x => simp [Result.andThen, ht]
  | recreate activityDies => simp [restarts, Ends]
  | _ => simp [restarts, Ends]

lemma tryStartVnc_ports (port scaleFactor rotation : ℤ) (launch : Launch) :
    (w.tryStartVnc port scaleFactor rotation launch).world.vnc.ports = w.vnc.portsStarted port launch := by
  cases hr : w.vnc.isRunning with
  | true =>
    rw [tryStartVnc_running hr]
    simp [VncSide.portsStarted, hr, sendVncReply]
  | false =>
    cases launch with
    | throws message =>
      rw [tryStartVnc_throws hr, VncSide.portsStarted_of_fails rfl]
      rfl
    | runs launched appeared =>
      rw [tryStartVnc_runs hr]
      refine (w.vnc.startVncServer_ports port scaleFactor rotation launched appeared).trans ?_
      cases launched <;> simp [VncSide.portsStarted, VncSide.ports, Launch.launches, hr]

lemma tryStopVnc_ports (kill : Kill) : (w.tryStopVnc kill).vnc.ports = w.vnc.portsStopped kill := by
  rw [World.tryStopVnc, VncSide.portsStopped]
  split_ifs
  · cases kill <;> rfl
  · rfl

lemma startCommandVnc_ports (extras : Extras) (env : Environment) :
    (w.startCommandVnc extras env).world.vnc.ports = w.leftPorts (.startCommand (some extras) env) := by
  rw [startCommandVnc, leftPorts]
  split_ifs
  · have hs := w.tryStartVnc_ports (extras.vncPort.getD vncDefaultPort)
      (extras.scaleFactor.getD defaultScaleFactor) (extras.rotation.getD defaultRotationFactor) env.launch
    exact Result.andThen_invariant (fun u => u.vnc.ports = _) hs (fun _ => hs)
  · exact tryStopVnc_ports env.kill

lemma startCommandMng_vnc (extras : Extras) (env : Environment) :
    (w.startCommandMng extras env).world.vnc = w.vnc := by
  rw [startCommandMng]
  split_ifs
  · have hm := (w.tryStartMng_mngOnly (extras.mngPort.getD mngDefaultPort) env.bind).vnc
    exact Result.andThen_invariant (fun u => u.vnc = w.vnc) hm (fun _ => hm)
  · exact tryStopMng_mngOnly.vnc

lemma settle_ports (r : Result) (env : Environment) : (r.settle env).vnc.ports = r.world.vnc.ports := by
  rw [Result.settle]
  split_ifs <;> rfl

lemma step_leftPorts (e : Event) (h : w.Ends e) : (step w e).vnc.ports = w.leftPorts e := by
  cases e with
  | message msg env =>
    rw [step, settle_ports]
    rcases h with ⟨hw, hf⟩ | ⟨hw, -⟩
    · simp only [handleMessage, hw]
      simp only [VncSide.startFails, Bool.and_eq_true] at hf
      rw [tryStartVnc_ports, VncSide.portsStarted_of_fails hf.2]
      rfl
    · simp only [handleMessage, hw]
      exact congrArg VncSide.ports (tryStartMng_mngOnly _ _).vnc
  | startCommand intent env =>
    cases intent with
    | none => cases h
    | some extras =>
      rw [step, settle_ports, ← startCommandVnc_ports]
      exact Result.andThen_invariant (fun u => u.vnc.ports = _) rfl
        (fun _ => congrArg VncSide.ports (startCommandMng_vnc extras env))
  | recreate activityDies => rfl
  | _ => cases h

structure Single (w : World) : Prop where
  onPort : w.vnc.OnPort
  reported : w.talk.Reported

lemma Single.sendVncReply (h : w.Single) (text : Option Text) : (w.sendVncReply text).Single :=
  ⟨h.onPort, h.reported.sendReply (fun _ => h.onPort.visible) text⟩

lemma Single.withMng {u : World} (h : w.Single) (hu : w.MngOnly u) {current : Bool} {port : ℤ}
    {text : Option Text} (ht : u.talk = w.talk.sendReply .mng current port text []) : u.Single := by
  refine ⟨hu.vnc ▸ h.onPort, ?_⟩
  rw [ht]
  apply h.reported.sendReply
  intro hs
  cases hs

lemma Single.tryStartVnc (h : w.Single) {port : ℤ} {launch : Launch} (hm : w.vnc.MayLaunch port launch)
    (scaleFactor rotation : ℤ) : (w.tryStartVnc port scaleFactor rotation launch).world.Single := by
  cases hr : w.vnc.isRunning with
  | true =>
    rw [tryStartVnc_running hr]
    exact h.sendVncReply _
  | false =>
    have hon := VncSide.OnPort.startVncServer hr hm scaleFactor rotation
    cases launch with
    | throws message =>
      rw [tryStartVnc_throws hr]
      exact ⟨hon, h.reported⟩
    | runs launched appeared =>
      rw [tryStartVnc_runs hr]
      refine Single.sendVncReply ?_ _
      exact ⟨hon, h.reported⟩

lemma Single.tryStopVnc (h : w.Single) (kill : Kill) : (w.tryStopVnc kill).Single := by
  rw [World.tryStopVnc]
  split_ifs
  · have hon := h.onPort.stopVncServer kill
    cases kill with
    | throws message killed =>
      refine ⟨hon, ?_⟩
      have hold : (w.talk.sendClient ⟨.showMessage, 0, some (.message ("stopServer():" ++ message))⟩).reports =
          w.talk.reports := by
        rw [Talk.sendClient]
        split_ifs <;> rfl
      intro r hr
      exact h.reported r (hold ▸ hr)
    | runs killed =>
      refine Single.sendVncReply ?_ _
      exact ⟨hon, h.reported⟩
  · exact h.sendVncReply _

lemma Single.tryStartMng (h : w.Single) (port : ℤ) (bind : Bind) :
    (w.tryStartMng port bind).world.Single := by
  have hu := w.tryStartMng_mngOnly port bind
  rcases w.tryStartMng_talk port bind with ⟨ht, -⟩ | ⟨-, p, text, ht⟩
  · exact ⟨hu.vnc ▸ h.onPort, ht ▸ h.reported⟩
  · exact h.withMng hu ht

lemma Single.tryStopMng (h : w.Single) : w.tryStopMng.Single := by
  obtain ⟨p, text, ht⟩ := w.tryStopMng_talk
  exact h.withMng w.tryStopMng_mngOnly ht

lemma Single.sendServersState (h : w.Single) : w.sendServersState.Single := by
  let u : World := { w with talk := (w.talk.setCached false .mng).setCached false .vnc }
  have hu : u.Single := by
    refine ⟨h.onPort, ?_⟩
    intro r hr
    rw [Talk.setCached_reports, Talk.setCached_reports] at hr
    exact h.reported r hr
  obtain ⟨p, hp⟩ := u.sendMngReply_talk none
  exact (hu.withMng (u.sendMngReply_mngOnly none) hp).sendVncReply none

def OneAtATime (w : World) (e : Event) : Prop :=
  (w.Ends e → HandedOver (w.leftPorts e)) ∧
  match e with
  | .message msg env =>
    msg.what = .startVnc → w.vnc.MayLaunch (getIntOrDefault msg vncDefaultPort "port") env.launch
  | .startCommand (some extras) env =>
    extras.startVnc = true → w.vnc.MayLaunch (extras.vncPort.getD vncDefaultPort) env.launch
  | .tick env =>
    w.watchDog.shouldVncBeStarter = true → w.vnc.MayLaunch w.watchDog.vncPort env.launch
  | _ => True

lemma handleMessage_single (h : w.Single) (msg : Message) (env : Environment)
    (hm : msg.what = .startVnc → w.vnc.MayLaunch (getIntOrDefault msg vncDefaultPort "port") env.launch) :
    (w.handleMessage msg env).world.Single := by
  have hcache : ∀ (b : Bool) (s : Server) (d : ServersWatchDog), Single { w with
      talk := Talk.setCached { w.talk with mClient := msg.replyTo || w.talk.mClient } b s
      watchDog := d } := by
    intro b s d
    refine ⟨h.onPort, ?_⟩
    intro r hr
    rw [Talk.setCached_reports] at hr
    exact h.reported r hr
  cases hw : msg.what with
  | startVnc =>
    simp only [handleMessage, hw]
    exact (hcache _ _ _).tryStartVnc (hm hw) _ _
  | stopVnc =>
    simp only [handleMessage, hw]
    exact (hcache _ _ _).tryStopVnc env.kill
  | startMng =>
    simp only [handleMessage, hw]
    exact (hcache _ _ _).tryStartMng _ env.bind
  | stopMng =>
    simp only [handleMessage, hw]
    exact (hcache _ _ _).tryStopMng
  | getAllServerStatus =>
    simp only [handleMessage, hw]
    exact Single.sendServersState ⟨h.onPort, h.reported⟩

lemma startCommandVnc_single (h : w.Single) (extras : Extras) (env : Environment)
    (hm : extras.startVnc = true → w.vnc.MayLaunch (extras.vncPort.getD vncDefaultPort) env.launch) :
    (w.startCommandVnc extras env).world.Single := by
  rw [startCommandVnc]
  split_ifs with hs
  · have hstart := h.tryStartVnc (hm hs) (extras.scaleFactor.getD defaultScaleFactor)
      (extras.rotation.getD defaultRotationFactor)
    exact Result.andThen_invariant Single hstart (fun _ => ⟨hstart.onPort, hstart.reported⟩)
  · refine Single.tryStopVnc ?_ env.kill
    exact ⟨h.onPort, h.reported⟩

lemma startCommandMng_single (h : w.Single) (extras : Extras) (env : Environment) :
    (w.startCommandMng extras env).world.Single := by
  rw [startCommandMng]
  split_ifs
  · have hstart := h.tryStartMng (extras.mngPort.getD mngDefaultPort) env.bind
    exact Result.andThen_invariant Single hstart (fun _ => ⟨hstart.onPort, hstart.reported⟩)
  · exact Single.tryStopMng ⟨h.onPort, h.reported⟩

lemma normalizeServersStates_single (h : w.Single) (env : Environment)
    (hm : w.watchDog.shouldVncBeStarter = true → w.vnc.MayLaunch w.watchDog.vncPort env.launch) :
    (w.normalizeServersStates env).world.Single := by
  have hvnc : (w.normalizeVnc env).world.Single := by
    simp only [normalizeVnc]
    split_ifs with hs
    · exact h.tryStartVnc (hm hs) _ _
    · exact h.tryStopVnc env.kill
  refine Result.andThen_invariant Single hvnc ?_
  intro _
  rw [normalizeMng]
  split_ifs
  · exact hvnc.tryStartMng _ _
  · exact hvnc.tryStopMng

lemma settle_single {r : Result} (h : r.world.Single) (env : Environment)
    (hover : r.thrown.isSome = true → HandedOver (r.settle env).vnc.ports) : (r.settle env).Single := by
  rw [Result.settle] at hover ⊢
  split_ifs at hover ⊢ with ht
  · exact ⟨hover ht, h.reported⟩
  · exact h

lemma step_single (w : World) (e : Event) (h : w.Single) (ho : w.OneAtATime e) : (step w e).Single := by
  obtain ⟨hended, hm⟩ := ho
  have hover : restarts w e = true → HandedOver (step w e).vnc.ports := by
    intro hr
    have hends := (restarts_iff e).mp hr
    rw [step_leftPorts e hends]
    exact hended hends
  cases e with
  | message msg env => exact settle_single (handleMessage_single h msg env hm) env hover
  | startCommand intent env =>
    cases intent with
    | none => exact h
    | some extras =>
      have hvnc := startCommandVnc_single h extras env hm
      have hboth : (w.onStartCommand (some extras) env).world.Single :=
        Result.andThen_invariant Single hvnc (fun _ => startCommandMng_single hvnc extras env)
      exact settle_single hboth env hover
  | tick env =>
    have hboth := normalizeServersStates_single h env hm
    simp only [step]
    split_ifs
    · exact ⟨hboth.onPort, hboth.reported⟩
    · exact hboth
    · exact h
  | vncAppears k => exact ⟨h.onPort.reveal _, h.reported⟩
  | vncDies k => exact ⟨h.onPort.remove _, h.reported⟩
  | recreate activityDies => exact ⟨hover rfl, h.reported⟩
  | _ => exact ⟨h.onPort, h.reported⟩

lemma created_single : created.Single := by
  refine ⟨.inl rfl, ?_⟩
  intro r hr
  cases hr

end World

theorem one_native_server (es : List Event) (h : Along step World.OneAtATime .created es) :
    (run step .created es).vnc.processes.length ≤ 1 ∧
      ∀ r ∈ (run step .created es).talk.reports, ∀ reply, r.reply = some reply →
        reply.what = .vncStarted → r.launchedWith = [reply.arg1] := by
  have hsingle := h.invariant World.Single World.step_single World.created_single
  exact ⟨hsingle.onPort.length_le, hsingle.reported⟩

def lateServer : List Event :=
  [.message (.plain .startVnc) { Environment.quiet with launch := .runs true (fun _ => false) },
    .vncAppears 0, .tick .quiet, .vncDies 0, .tick .quiet]

theorem one_native_server_late : (run step .created lateServer).vnc.processes.length ≤ 1 ∧
    ∀ r ∈ (run step .created lateServer).talk.reports, ∀ reply, r.reply = some reply →
      reply.what = .vncStarted → r.launchedWith = [reply.arg1] := by
  apply one_native_server
  simp only [lateServer, along_cons, along_nil]
  refine ⟨⟨fun _ => ?_, fun _ => ?_⟩, ⟨fun h => ?_, trivial⟩, ⟨fun h => ?_, fun _ => ?_⟩,
    ⟨fun h => ?_, trivial⟩, ⟨fun h => ?_, fun _ => ?_⟩, trivial⟩
  · exact .inl rfl
  · exact .inr (.inl rfl)
  · cases h
  · cases h
  · exact .inl rfl
  · cases h
  · cases h
  · exact .inr (.inl rfl)

def pendingPrompt : List Event :=
  let env := { Environment.quiet with launch := .runs true (fun _ => false) }
  [.startCommand (some bootExtras) env, .tick env]

theorem pending_prompt_launches_two : (run step .created pendingPrompt).vnc.processes.length = 2 := by
  rfl

end AndroidRemote.Service
