import TuffXwin.Common.Artifacts
import TuffXwin.Lib.Outcome
import TuffXwin.Sessiond.Component
import TuffXwin.Sessiond.Reports

/-! The supervisor of a session: recovery requests, the processes of the active profile, the
snapshots it writes and streams, and the switch to a degraded profile that an answer of the
watchdog leads to. A switch activates a profile, which streams a snapshot, which may lead to
the next switch. -/

namespace TuffXwin.Sessiond
open Lib Watchdog

structure Config where
  spawnComponents : Bool := false
  superviseSeconds : Nat := 0
  restartLimit : Nat := 2
  notifyWatchdog : Bool := false
  deriving DecidableEq, Repr

def shouldAutoLaunchTransition (config : Config) : Bool :=
  config.spawnComponents || decide (0 < config.superviseSeconds)

/-! Which component a recovery request is for. -/

def expectedComponentRole : ServiceRole → Option DesktopComponentRole
  | .compd => some .windowManager
  | .lockd => some .lockScreen
  | .x11Bridge => some .compatLayer
  | _ => none

structure BindingResolutionResult where
  service : String
  resolutionSource : String := "missing"
  candidateComponentIds : List String := []
  selectedComponentId : Option String := none
  result : String := "missing"
  reason : String := "no active profile loaded"
  unixTimestamp : Nat
  deriving DecidableEq, Repr

/-- The resolution that one explicit binding leads to. -/
def resolveExplicit (profile : DesktopProfile) (service : ServiceRole) (componentId : String)
    (now : Nat) : BindingResolutionResult :=
  let resolution : BindingResolutionResult :=
    { service := service.asStr
      resolutionSource := "explicit"
      candidateComponentIds := [componentId]
      selectedComponentId := some componentId
      unixTimestamp := now }
  match profile.sessionComponents.find? (·.id = componentId) with
  | none =>
    { resolution with
      result := "missing-target"
      reason := "bound component " ++ componentId ++ " not found in profile" }
  | some component =>
    match expectedComponentRole service with
    | some expected =>
      if component.role ≠ expected then
        { resolution with
          result := "role-mismatch"
          reason := "expected " ++ roleDebug expected ++ ", got " ++ roleDebug component.role }
      else
        { resolution with result := "selected", reason := "" }
    | none => { resolution with result := "selected", reason := "" }

/-- Without a binding the window manager stands for the compositor, if there is one. -/
def resolveLegacy (profile : DesktopProfile) (now : Nat) : BindingResolutionResult :=
  let candidates :=
    (profile.sessionComponents.filter fun component =>
      component.role = .windowManager).map (·.id)
  let resolution : BindingResolutionResult :=
    { service := ServiceRole.compd.asStr
      resolutionSource := "legacy_fallback"
      candidateComponentIds := candidates
      unixTimestamp := now }
  match candidates with
  | [componentId] =>
    { resolution with selectedComponentId := some componentId, result := "selected", reason := "" }
  | [] =>
    { resolution with
      result := "missing"
      reason := "no compd binding or legacy candidate found" }
  | _ => { resolution with result := "collision", reason := "multiple legacy candidates found" }

def resolveServiceComponentBinding (profile : DesktopProfile) (service : ServiceRole)
    (now : Nat) : BindingResolutionResult :=
  let explicit :=
    (profile.serviceComponentBindings.filter fun binding => binding.service = service).map
      (·.componentId)
  match explicit with
  | [componentId] => resolveExplicit profile service componentId now
  | _ :: _ =>
    { service := service.asStr
      resolutionSource := "collision"
      candidateComponentIds := explicit
      result := "collision"
      reason := "multiple bindings found for " ++ service.asStr
      unixTimestamp := now }
  | [] =>
    if service = .lockd ∧ profile.protocol = .waylandNative ∧
        ServiceRole.lockd ∈ profile.brokerServices then
      { service := service.asStr
        resolutionSource := "service-only"
        result := "selected"
        reason := "using broker-owned lockd UI path"
        unixTimestamp := now }
    else if service = .compd then
      resolveLegacy profile now
    else
      { service := service.asStr
        reason := "no " ++ service.asStr ++ " binding found"
        unixTimestamp := now }

structure WatchdogRecoveryArtifact where
  role : String
  reason : String
  requestedBy : String
  unixTimestamp : Nat
  action : String
  status : String
  deriving DecidableEq, Repr

structure WatchdogExecutionArtifact where
  role : String
  action : String
  requestedAt : Nat
  executedAt : Nat
  result : String
  componentId : Option String := none
  previousPid : Option Nat := none
  newPid : Option Nat := none
  reason : String
  resolutionSource : String
  boundComponentId : Option String
  policySource : String := "none"
  recoveryCommandArgs : List String := []
  deriving DecidableEq, Repr

/-! What a poll meets outside the supervisor. -/

/-- One recovery request: the file when it is looked for and when it is read, what the parser
makes of its text, and what happens while it is executed. -/
structure RecoverySurroundings where
  found : Option (List UInt8) := none
  read : Option (List UInt8) := none
  parse : String → Except String WatchdogRecoveryArtifact
  bindingFault : Option String := none
  executionFault : Option String := none
  spawned : Option Nat := none
  now : Nat := 0

/-- One activation and its snapshot: the processes that start, the artifacts that cannot be
written, and the answer of the watchdog, an error when there is none. -/
structure StageSurroundings where
  resolve : DesktopComponent → Option String
  spawned : Nat → Option Nat := fun _ => none
  launchFault : Option String := none
  authorityFault : Option String := none
  answer : Except String SessionWatchdogReport
  activeFault : Option String := none
  transitionFault : Option String := none
  now : Nat := 0

/-- A poll: the requests, what the processes are doing, and the stages that may follow. -/
structure PollSurroundings where
  recovery : ServiceRole → RecoverySurroundings
  waits : Nat → TryWait
  spawned : Nat → Option Nat
  stages : Nat → StageSurroundings

/-- The supervisor. `activated` lists the profiles it made active, and is read by nothing. -/
structure SessionSupervisor where
  profiles : List DesktopProfile
  profile : DesktopProfile
  components : List RuntimeComponent
  sessionInstanceId : String
  streamGeneration : Nat
  streamSequence : Nat := 0
  lastStreamedState : Option SessionLaunchState := none
  idleInhibitors : List String := []
  isSuspended : Bool := false
  suspendCount : Nat := 0
  activated : List String := []

abbrev SupervisorM := EStateM String SessionSupervisor

/-- A write that fails ends what it is part of. -/
def orFail (fault : Option String) : SupervisorM Unit :=
  match fault with
  | some err => throw err
  | none => pure ()

namespace SessionSupervisor

def new (profile : DesktopProfile) (profiles : List DesktopProfile) (sessionInstanceId : String)
    (streamGeneration : Nat) (resolve : DesktopComponent → Option String) : SessionSupervisor :=
  { profiles
    profile
    components := freshComponents profile resolve
    sessionInstanceId
    streamGeneration }

def launchState (supervisor : SessionSupervisor) (now : Nat) : SessionLaunchState :=
  { profileId := supervisor.profile.id
    sessionInstanceId := supervisor.sessionInstanceId
    displayName := supervisor.profile.displayName
    protocol := supervisor.profile.protocol
    brokerServices := supervisor.profile.brokerServices
    generation := supervisor.streamGeneration
    sequence := supervisor.streamSequence
    components := supervisor.components.map (·.state)
    unixTimestamp := now
    serviceComponentBindings := supervisor.profile.serviceComponentBindings
    serviceRecoveryExecutionPolicies := supervisor.profile.serviceRecoveryExecutionPolicies }

end SessionSupervisor

def snapshot (now : Nat) : SupervisorM SessionLaunchState := do
  let supervisor ← get
  match usizeChecked (supervisor.streamSequence + 1) with
  | none => throw "session stream sequence exhausted"
  | some streamSequence => do
    set { supervisor with streamSequence }
    return { supervisor with streamSequence }.launchState now

def stopAll : SupervisorM Unit :=
  modify fun supervisor =>
    { supervisor with components := supervisor.components.map RuntimeComponent.stop }

/-- `switch_to` up to the activation of the profile, which is `activate`. -/
def switchTo (stage : StageSurroundings) (activate : SupervisorM Unit)
    (profile : DesktopProfile) : SupervisorM Unit := do
  stopAll
  let supervisor ← get
  match usizeChecked (supervisor.streamGeneration + 1) with
  | none => throw "session stream generation exhausted"
  | some nextGeneration => do
    set { SessionSupervisor.new profile supervisor.profiles supervisor.sessionInstanceId
      nextGeneration stage.resolve with activated := supervisor.activated }
    activate

def applyWatchdogStreamReport (stage : StageSurroundings) (report : SessionWatchdogReport)
    (switch : DesktopProfile → SupervisorM Unit) : SupervisorM Unit := do
  let supervisor ← get
  match applyWatchdogReport supervisor.profile supervisor.profiles report
      supervisor.sessionInstanceId stage.now with
  | .error err => throw err
  | .ok (.transition targetProfile _) => do
    orFail stage.activeFault
    orFail stage.transitionFault
    switch targetProfile
  | .ok (.unchanged _ _) => pure ()

def writeSnapshot (config : Config) (stage : StageSurroundings)
    (switch : DesktopProfile → SupervisorM Unit) : SupervisorM Unit := do
  let launchState ← snapshot stage.now
  orFail stage.launchFault
  orFail stage.authorityFault
  if config.notifyWatchdog then
    match stage.answer with
    | .ok report => do
      modify fun supervisor => { supervisor with lastStreamedState := some launchState }
      applyWatchdogStreamReport stage report switch
    | .error _ => pure ()
  else
    pure ()

/-- The supervisor with its processes started, if the configuration says so. -/
def SessionSupervisor.launched (config : Config) (stage : StageSurroundings)
    (supervisor : SessionSupervisor) : SessionSupervisor :=
  { supervisor with
    activated := supervisor.activated ++ [supervisor.profile.id]
    components :=
      if shouldAutoLaunchTransition config then
        supervisor.components.mapIdx fun index runtime => runtime.spawn (stage.spawned index)
      else supervisor.components }

/-- `activate` at one stage; a switch goes on with `next`. -/
def activateStage (config : Config) (stages : Nat → StageSurroundings) (stage : Nat)
    (next : SupervisorM Unit) : SupervisorM Unit := do
  modify (SessionSupervisor.launched config (stages stage))
  writeSnapshot config (stages stage) (switchTo (stages (stage + 1)) next)

/-- `activate` at a stage and those after it. Every switch takes a generation, so there are
no more switches than generations left. -/
def activate (config : Config) (stages : Nat → StageSurroundings) :
    (generationsLeft stage : Nat) → SupervisorM Unit
  | 0, stage => activateStage config stages stage (pure ())
  | generationsLeft + 1, stage =>
    activateStage config stages stage (activate config stages generationsLeft (stage + 1))

/-- `bootstrap` with what it read: the active profile and the generation to go on with. -/
def bootstrap (config : Config) (profiles : List DesktopProfile) (sessionInstanceId : String)
    (profile : Except String DesktopProfile) (streamGeneration : Except String Nat)
    (stages : Nat → StageSurroundings) : Except String SessionSupervisor × List String :=
  match profile with
  | .error err => (.error err, [])
  | .ok profile =>
    match streamGeneration with
    | .error err => (.error err, [])
    | .ok streamGeneration =>
      let supervisor := SessionSupervisor.new profile profiles sessionInstanceId streamGeneration
        (stages 0).resolve
      match activate config stages (u64Max - streamGeneration) 0 supervisor with
      | .ok _ supervisor => (.ok supervisor, supervisor.activated)
      | .error err supervisor => (.error err, supervisor.activated)

/-! Recovery requests. -/

/-- Whether the policy lets the supervisor restart the component, and where that comes from. -/
def recoveryEnabled (policy : Option ServiceRecoveryExecutionPolicy) (role : ServiceRole) :
    Bool × String :=
  match policy with
  | some policy => (policy.mode = .supervisorRestart, "profile-optin")
  | none => (role = .compd, "implicit-default")

def restartComponent (artifact : WatchdogExecutionArtifact) (index : Nat)
    (spawned : Option Nat) : SupervisorM WatchdogExecutionArtifact := do
  let supervisor ← get
  let restarted := supervisor.components.modify index fun runtime => runtime.stop.spawn spawned
  set { supervisor with components := restarted }
  match supervisor.components[index]?, restarted[index]? with
  | some before, some after =>
    let artifact :=
      { artifact with
        componentId := some before.component.id
        previousPid := before.state.pid }
    if after.state.state = .spawned then
      return { artifact with
        result := "succeeded"
        newPid := after.state.pid
        reason := "component restarted successfully" }
    else
      return { artifact with result := "failed", reason := "failed to spawn component" }
  | _, _ => return artifact

def executeRecovery (role : ServiceRole) (recovery : WatchdogRecoveryArtifact)
    (surroundings : RecoverySurroundings) : SupervisorM WatchdogExecutionArtifact := do
  let supervisor ← get
  let resolution := resolveServiceComponentBinding supervisor.profile role surroundings.now
  let policy := supervisor.profile.serviceRecoveryExecutionPolicies.find? (·.service = role)
  let enabled := recoveryEnabled policy role
  let artifact : WatchdogExecutionArtifact :=
    { role := role.asStr
      action := "restart"
      requestedAt := recovery.unixTimestamp
      executedAt := surroundings.now
      result := "failed"
      reason := "no matching component for role"
      resolutionSource := resolution.resolutionSource
      boundComponentId := resolution.selectedComponentId }
  if resolution.result = "collision" then do
    orFail surroundings.bindingFault
    return { artifact with result := "config-error", reason := resolution.reason }
  else
    let artifact :=
      { artifact with
        policySource := enabled.2
        recoveryCommandArgs := (policy.map (·.restartCommandArgs)).getD [] }
    if enabled.1 = false then do
      orFail surroundings.bindingFault
      return { artifact with
        result := "policy-disabled"
        reason := "recovery execution is disabled by policy" }
    else if resolution.result = "missing-target" ∨ resolution.result = "role-mismatch" then do
      orFail surroundings.bindingFault
      return { artifact with result := "config-error", reason := resolution.reason }
    else do
      orFail surroundings.bindingFault
      match resolution.selectedComponentId.bind fun id =>
          supervisor.components.findIdx? (·.component.id = id) with
      | none =>
        return { artifact with
          result := "no-executor"
          reason := "no component found via selected resolution source" }
      | some index => restartComponent artifact index surroundings.spawned

/-- The request, if the artifact is one that is to be executed. -/
def WatchdogRecoveryArtifact.Accepted (recovery : WatchdogRecoveryArtifact)
    (role : ServiceRole) : Prop :=
  recovery.status = "pending" ∧ recovery.role = role.asStr ∧
    recovery.requestedBy = ServiceRole.sessiond.asStr ∧
    recovery.action = "restart-request-accepted"

instance (recovery : WatchdogRecoveryArtifact) (role : ServiceRole) :
    Decidable (recovery.Accepted role) :=
  inferInstanceAs (Decidable (_ ∧ _ ∧ _ ∧ _))

/-- One role of `process_recovery_requests`: whether a request was executed. -/
def processRecoveryRequest (role : ServiceRole) (surroundings : RecoverySurroundings) :
    SupervisorM Bool := do
  match surroundings.found with
  | none => return false
  | some _ =>
    match readToString surroundings.read with
    | .error kind => throw kind.text
    | .ok raw =>
      match surroundings.parse raw with
      | .error _ => return false
      | .ok recovery =>
        if recovery.Accepted role then do
          let _ ← executeRecovery role recovery surroundings
          orFail surroundings.executionFault
          return true
        else
          return false

def processRecoveryRequests (surroundings : ServiceRole → RecoverySurroundings) :
    SupervisorM Bool := do
  let compd ← processRecoveryRequest .compd (surroundings .compd)
  let lockd ← processRecoveryRequest .lockd (surroundings .lockd)
  return compd || lockd

/-- The loop over the components: whether there was an event, and the components after it,
those before an error being looked at. -/
def pollComponents (restartLimit : Nat) (waits : Nat → TryWait) (spawned : Nat → Option Nat) :
    Nat → List RuntimeComponent → Except String Bool × List RuntimeComponent
  | _, [] => (.ok false, [])
  | index, runtime :: components =>
    match runtime.pollAndRestart restartLimit (waits index) (spawned index) with
    | .error err => (.error err, runtime :: components)
    | .ok (event, polled) =>
      let rest := pollComponents restartLimit waits spawned (index + 1) components
      (rest.1.map (event || ·), polled :: rest.2)

def pollAll (config : Config) (surroundings : PollSurroundings) : SupervisorM Bool := do
  let supervisor ← get
  let polled := pollComponents config.restartLimit surroundings.waits surroundings.spawned 0
    supervisor.components
  set { supervisor with components := polled.2 }
  match polled.1 with
  | .error err => throw err
  | .ok event => return event

def poll (config : Config) (surroundings : PollSurroundings) : SupervisorM Bool := do
  let recovered ← processRecoveryRequests surroundings.recovery
  let polled ← pollAll config surroundings
  if recovered || polled then do
    let supervisor ← get
    writeSnapshot config (surroundings.stages 0)
      (switchTo (surroundings.stages 1)
        (activate config surroundings.stages (u64Max - supervisor.streamGeneration - 1) 1))
    return true
  else
    return false

end TuffXwin.Sessiond
