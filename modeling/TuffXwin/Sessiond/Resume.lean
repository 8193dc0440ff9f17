import TuffXwin.Common.SessionArtifacts
import TuffXwin.Lockd.LockService
import TuffXwin.Sessiond.Supervisor

/-! The resume scenario. One step after the other asks a service and stops at the first answer
that is not the expected one; what is left of the screen follows from the step that failed, and
so does the service that the watchdog is asked to restart. -/

namespace TuffXwin.Sessiond
open Lib
open Lockd (LockState)

inductive ResumeStage
  | begin | outputsRecovered | lockReady | complete
  deriving DecidableEq, Repr

/-- The mode of an output, with its refresh rate. -/
structure ResumeOutputMode where
  name : String
  width : Nat
  height : Nat
  refreshHz : Nat
  deriving DecidableEq, Repr

/-- The message kinds of the scenario; the others are their debug texts. -/
inductive ResumeKind
  | resumeBegin
  | resumeStarted
  | setLockState (state : LockState)
  | authPrompt (reason : String)
  | resumeHint (stage : ResumeStage) (output : Option ResumeOutputMode)
  | restart (role : ServiceRole) (sessionInstanceId reason : String)
  | other (text : String)
  deriving DecidableEq

structure ResumeEnvelope where
  source : ServiceRole
  destination : ServiceRole
  kind : ResumeKind
  deriving DecidableEq

structure ResumeStep where
  name : String
  service : String
  outcome : String
  detail : Option String := none
  deriving DecidableEq, Repr

/-- `final_state`. -/
inductive ResumeOutcome
  | normal | hold | blankOnly | restartRequest
  deriving DecidableEq, Repr

def ResumeOutcome.asStr : ResumeOutcome → String
  | .normal => "normal"
  | .hold => "hold"
  | .blankOnly => "blank-only"
  | .restartRequest => "restart-request"

structure ResumeTrace where
  scenario : String
  unixTimestamp : Nat
  steps : List ResumeStep
  finalState : ResumeOutcome
  deriving DecidableEq, Repr

structure LockPathArtifact where
  scenario : String
  service : String := "lockd"
  bindingSource : String
  boundComponentId : Option String
  componentRole : Option String
  uiComponentPresent : Bool
  lockStateOutcome : String
  authOutcome : String
  finalState : ResumeOutcome
  reason : String
  unixTimestamp : Nat
  executionPolicy : String
  watchdogRequestOutcome : String
  executionResult : String := "pending"
  deriving DecidableEq, Repr

/-- The environment of a scenario: the active profile where it is read, the answers over the
sockets of the services, and the artifacts that cannot be written. -/
structure ResumeSurroundings where
  profile : Option DesktopProfile
  answer : ServiceRole → ResumeKind → Except String ResumeEnvelope
  debug : ResumeKind → String
  collisionFault : Option String := none
  lockdResolutionFault : Option String := none
  compdResolutionFault : Option String := none
  executionFault : Option String := none
  traceFault : Option String := none
  lockPathFault : Option String := none
  now : Nat := 0

/-- The variables of the scenario, the requests it sent, every value that the outcome has had,
and the artifacts written. -/
structure ResumeRun where
  steps : List ResumeStep := []
  finalState : ResumeOutcome := .normal
  lockStateOutcome : String := "skipped"
  authOutcome : String := "skipped"
  lockReason : String := "normal"
  executionPolicy : String := "disabled"
  watchdogRequestOutcome : String := "skipped"
  requests : List (ServiceRole × ResumeKind) := []
  outcomes : List ResumeOutcome := [.normal]
  executions : List WatchdogExecutionArtifact := []
  trace : Option ResumeTrace := none
  lockPath : Option LockPathArtifact := none

namespace ResumeRun

variable (run : ResumeRun)

def push (step : ResumeStep) : ResumeRun := { run with steps := run.steps ++ [step] }

def become (outcome : ResumeOutcome) : ResumeRun :=
  { run with finalState := outcome, outcomes := run.outcomes ++ [outcome] }

def whenNormal (stage : ResumeRun → ResumeRun) : ResumeRun :=
  if run.finalState = .normal then stage run else run

end ResumeRun

/-- One step of the scenario: a request, the answers that it expects, what another answer is
traced as, and the outcome that failing leads to. -/
structure ResumeExchange where
  name : String
  service : ServiceRole
  request : ResumeKind
  expects : ResumeKind → Bool
  refusal : (ResumeKind → String) → ResumeKind → String := fun debug kind => debug kind
  failure : ResumeOutcome

inductive Reply
  | accepted
  | refused (detail : String)
  | unreachable (err : String)
  deriving DecidableEq, Repr

def Reply.outcome : Reply → String
  | .accepted => "success"
  | .refused _ => "failed"
  | .unreachable _ => "unreachable"

def Reply.detail : Reply → Option String
  | .accepted => none
  | .refused detail => some detail
  | .unreachable err => some err

namespace ResumeExchange

variable (exchange : ResumeExchange) (surroundings : ResumeSurroundings)

/-- `send_ipc_and_wait` and the test of its answer, of which only the kind is read. -/
def reply : Reply :=
  match surroundings.answer exchange.service exchange.request with
  | .ok envelope =>
    if exchange.expects envelope.kind then .accepted
    else .refused (exchange.refusal surroundings.debug envelope.kind)
  | .error err => .unreachable err

def ask (run : ResumeRun) : ResumeRun :=
  let reply := exchange.reply surroundings
  let run := { run with requests := run.requests ++ [(exchange.service, exchange.request)] }
  let run := run.push ⟨exchange.name, exchange.service.asStr, reply.outcome, reply.detail⟩
  if reply = .accepted then run else run.become exchange.failure

end ResumeExchange

/-! The steps. -/

def resumeBegin : ResumeExchange where
  name := "resume_begin"
  service := .displayd
  request := .resumeBegin
  expects kind := kind = .resumeStarted
  failure := .hold

def setLockState : ResumeExchange where
  name := "set_lock_state"
  service := .lockd
  request := .setLockState .locked
  expects kind := kind = .setLockState .locked
  failure := .blankOnly

def isResumeHint : ResumeKind → Bool
  | .resumeHint _ _ => true
  | _ => false

def resumeHintOutputs : ResumeExchange where
  name := "resume_hint_outputs"
  service := .compd
  request := .resumeHint .outputsRecovered (some ⟨"eDP-1", 1920, 1080, 60⟩)
  expects := isResumeHint
  failure := .restartRequest

def authPrompt : ResumeExchange where
  name := "auth_prompt"
  service := .lockd
  request := .authPrompt "resume auth required"
  expects
    | .authPrompt reason => reason ≠ "fault injection"
    | _ => false
  refusal debug
    | .authPrompt _ => "auth prompt fault injection"
    | kind => debug kind
  failure := .blankOnly

def resumeHintComplete : ResumeExchange where
  name := "resume_hint_complete"
  service := .compd
  request := .resumeHint .complete none
  expects := isResumeHint
  failure := .normal

section Stages

variable (surroundings : ResumeSurroundings)

def resolveResumeBinding (service : ServiceRole) : BindingResolutionResult :=
  match surroundings.profile with
  | none => { service := service.asStr, unixTimestamp := surroundings.now }
  | some profile => resolveServiceComponentBinding profile service surroundings.now

def lockdResolution : BindingResolutionResult := resolveResumeBinding surroundings .lockd

def compdResolution : BindingResolutionResult := resolveResumeBinding surroundings .compd

def lockdBinding (run : ResumeRun) : ResumeRun :=
  let resolution := lockdResolution surroundings
  if resolution.result ≠ "selected" then
    { run.become .blankOnly with lockReason := resolution.reason }.push
      ⟨"lockd_binding_resolution", "sessiond", resolution.result, some resolution.reason⟩
  else
    run.push ⟨"lockd_binding_resolution", "sessiond", resolution.resolutionSource,
      match resolution.selectedComponentId with
      | some componentId => some ("bound to " ++ componentId)
      | none => if resolution.reason = "" then none else some resolution.reason⟩

def setLockStateStage (run : ResumeRun) : ResumeRun :=
  let reply := setLockState.reply surroundings
  { setLockState.ask surroundings run with
    lockStateOutcome := reply.outcome
    lockReason :=
      match reply with
      | .accepted => run.lockReason
      | .refused _ => "SetLockState rejected"
      | .unreachable _ => "lockd unreachable" }

def authPromptStage (run : ResumeRun) : ResumeRun :=
  let reply := authPrompt.reply surroundings
  { authPrompt.ask surroundings run with
    authOutcome := reply.outcome
    lockReason :=
      match reply with
      | .accepted => run.lockReason
      | .refused detail => detail
      | .unreachable _ => "lockd unreachable" }

/-- Whatever the answer is. -/
def resumeHintCompleteStage (run : ResumeRun) : ResumeRun :=
  let run := { run with
    requests := run.requests ++ [(resumeHintComplete.service, resumeHintComplete.request)] }
  run.push ⟨resumeHintComplete.name, resumeHintComplete.service.asStr, "success", none⟩

/-- The steps whose answers are looked at. -/
def checkedSteps (run : ResumeRun) : ResumeRun :=
  let run := lockdBinding surroundings run
  let run := resumeBegin.ask surroundings run
  let run := run.whenNormal (setLockStateStage surroundings)
  let run := run.whenNormal (resumeHintOutputs.ask surroundings)
  run.whenNormal (authPromptStage surroundings)

/-- The steps up to the recovery requests. -/
def resumeSteps (run : ResumeRun) : ResumeRun :=
  (checkedSteps surroundings run).whenNormal resumeHintCompleteStage

end Stages

/-! The recovery requests. -/

abbrev ResumeM := EStateM String ResumeRun

/-- `write_watchdog_execution_artifact`, `write_resume_trace` and the like. -/
def writeArtifact (fault : Option String) (written : ResumeRun → ResumeRun) : ResumeM Unit :=
  match fault with
  | some err => throw err
  | none => modify written

section Recovery

variable (surroundings : ResumeSurroundings) (sessionInstanceId : String)

def resumePolicy (service : ServiceRole) : Option ServiceRecoveryExecutionPolicy :=
  surroundings.profile.bind fun profile =>
    profile.serviceRecoveryExecutionPolicies.find? (·.service = service)

def resumeRecoveryEnabled (service : ServiceRole) : Bool :=
  (recoveryEnabled (resumePolicy surroundings service) service).1

/-- `send_watchdog_command` and its trace. -/
def watchdogReply (request : ResumeKind) : Reply :=
  match surroundings.answer .watchdog request with
  | .ok envelope =>
    match envelope.kind with
    | .restart _ _ _ => .accepted
    | kind => .refused (surroundings.debug kind)
  | .error err => .unreachable err

def Reply.watchdogOutcome : Reply → String
  | .accepted => "accepted"
  | .refused _ => "rejected"
  | .unreachable _ => "unreachable"

def requestRestart (role : ServiceRole) (reason : String) (acceptedDetail : Option String)
    (run : ResumeRun) : ResumeRun :=
  let request := ResumeKind.restart role sessionInstanceId reason
  let reply := watchdogReply surroundings request
  let run := { run with requests := run.requests ++ [(ServiceRole.watchdog, request)] }
  run.push ⟨"watchdog_restart_request", "watchdog", reply.watchdogOutcome,
    match reply with
    | .accepted => acceptedDetail
    | reply => reply.detail⟩

/-- What is written when the binding of an enabled role is not resolved. -/
def configError (role : ServiceRole) (resolution : BindingResolutionResult) :
    WatchdogExecutionArtifact :=
  { role := role.asStr
    action := "restart"
    requestedAt := surroundings.now
    executedAt := surroundings.now
    result := "config-error"
    reason := resolution.result
    resolutionSource := resolution.resolutionSource
    boundComponentId := resolution.selectedComponentId
    policySource := (recoveryEnabled (resumePolicy surroundings role) role).2 }

/-- The request for a role, if its policy and its binding allow it. -/
def recoverRole (role : ServiceRole) (resolution : BindingResolutionResult)
    (request : ResumeRun → ResumeRun) : ResumeM Unit :=
  let enabled := resumeRecoveryEnabled surroundings role
  if enabled ∧ resolution.result = "selected" then modify request
  else do
    let reason := if enabled then resolution.result else "policy-disabled"
    if enabled then
      writeArtifact surroundings.executionFault fun run =>
        { run with executions := run.executions ++ [configError surroundings role resolution] }
    modify (·.push ⟨"watchdog_restart_request", "watchdog", "skipped", some reason⟩)

def recoverCompd : ResumeM Unit :=
  recoverRole surroundings .compd (compdResolution surroundings) fun run =>
    requestRestart surroundings sessionInstanceId .compd "resume failure (restart-request)" none run

def recoverLockd : ResumeM Unit :=
  recoverRole surroundings .lockd (lockdResolution surroundings) fun run =>
    { requestRestart surroundings sessionInstanceId .lockd run.lockReason
        (some "lockd recovery execution enabled") run with
      executionPolicy := "supervisor-restart"
      watchdogRequestOutcome :=
        (watchdogReply surroundings
          (.restart .lockd sessionInstanceId run.lockReason)).watchdogOutcome }

def uiComponentPresent : Bool :=
  match surroundings.profile, (lockdResolution surroundings).selectedComponentId with
  | some profile, some id =>
    profile.sessionComponents.any fun component => component.id = id ∧ component.role = .lockScreen
  | _, _ => false

def resumeTrace (scenario : ResumeScenario) (run : ResumeRun) : ResumeTrace :=
  ⟨scenario.asStr, surroundings.now, run.steps, run.finalState⟩

def lockPathArtifact (scenario : ResumeScenario) (run : ResumeRun) : LockPathArtifact :=
  let resolution := lockdResolution surroundings
  { scenario := scenario.asStr
    bindingSource := resolution.resolutionSource
    boundComponentId := resolution.selectedComponentId
    componentRole := if uiComponentPresent surroundings then some "lockscreen" else none
    uiComponentPresent := uiComponentPresent surroundings
    lockStateOutcome := run.lockStateOutcome
    authOutcome := run.authOutcome
    finalState := run.finalState
    reason := run.lockReason
    unixTimestamp := surroundings.now
    executionPolicy := run.executionPolicy
    watchdogRequestOutcome := run.watchdogRequestOutcome }

/-- The outcome blames one service, or none. -/
def recover : ResumeM Unit := do
  let run ← get
  match run.finalState with
  | .restartRequest => recoverCompd surroundings sessionInstanceId
  | .blankOnly => recoverLockd surroundings sessionInstanceId
  | _ => pure ()

def runResumeScenario (scenario : ResumeScenario) : ResumeM Unit := do
  writeArtifact surroundings.collisionFault id
  writeArtifact surroundings.lockdResolutionFault id
  writeArtifact surroundings.compdResolutionFault id
  modify (resumeSteps surroundings)
  recover surroundings sessionInstanceId
  writeArtifact surroundings.traceFault fun run =>
    { run with trace := some (resumeTrace surroundings scenario run) }
  writeArtifact surroundings.lockPathFault fun run =>
    { run with lockPath := some (lockPathArtifact surroundings scenario run) }

end Recovery

/-! What the scenario promises. -/

section Promises

variable (surroundings : ResumeSurroundings)

def resumeExchanges : List ResumeExchange :=
  [resumeBegin, setLockState, resumeHintOutputs, authPrompt, resumeHintComplete]

def ResumeExchange.Acknowledged (exchange : ResumeExchange) : Prop :=
  ∃ envelope, surroundings.answer exchange.service exchange.request = .ok envelope ∧
    exchange.expects envelope.kind = true

/-- The service named in the step has given the expected answer to its request. -/
def Truthful (step : ResumeStep) : Prop :=
  ∃ exchange ∈ resumeExchanges, step.name = exchange.name ∧
    step.service = exchange.service.asStr ∧ exchange.Acknowledged surroundings

/-- A restart of the role has been requested. -/
def ResumeRun.Requested (run : ResumeRun) (role : ServiceRole) : Prop :=
  ∃ sessionInstanceId reason,
    (ServiceRole.watchdog, ResumeKind.restart role sessionInstanceId reason) ∈ run.requests

/-- `run_resume_scenario` has ended with `run`, or an artifact has ended it there. -/
structure KeepsResumePromises (run : ResumeRun) : Prop where
  failClosed : ∀ trace, run.trace = some trace → trace.finalState = .normal →
    (lockdResolution surroundings).result = "selected" ∧
      resumeBegin.Acknowledged surroundings ∧ setLockState.Acknowledged surroundings ∧
      resumeHintOutputs.Acknowledged surroundings ∧ authPrompt.Acknowledged surroundings
  truthful : ∀ step ∈ run.steps, step.outcome = "success" → Truthful surroundings step
  traced : ∀ trace, run.trace = some trace → trace.steps = run.steps ∧
    trace.finalState = run.finalState
  blankOnly : run.outcomes.Pairwise fun before after => before = .blankOnly → after = .blankOnly
  compd : run.Requested .compd ↔ run.finalState = .restartRequest ∧
    resumeRecoveryEnabled surroundings .compd = true ∧
      (compdResolution surroundings).result = "selected"
  lockd : run.Requested .lockd ↔ run.finalState = .blankOnly ∧
    resumeRecoveryEnabled surroundings .lockd = true ∧
      (lockdResolution surroundings).result = "selected"

/-- The artifacts before the first step can be written. -/
def Starts : Prop :=
  surroundings.collisionFault = none ∧ surroundings.lockdResolutionFault = none ∧
    surroundings.compdResolutionFault = none

/-- Where lockd has no binding displayd answers as expected, and where everything is as expected
so far compd does at the last step as well. -/
def AnswersInStep : Prop :=
  Starts surroundings →
    ((lockdResolution surroundings).result ≠ "selected" → resumeBegin.Acknowledged surroundings) ∧
    ((lockdResolution surroundings).result = "selected" →
      resumeBegin.Acknowledged surroundings → setLockState.Acknowledged surroundings →
      resumeHintOutputs.Acknowledged surroundings → authPrompt.Acknowledged surroundings →
      resumeHintComplete.Acknowledged surroundings)

end Promises

variable {surroundings : ResumeSurroundings} {exchange : ResumeExchange} {run run' : ResumeRun}
  {step : ResumeStep}

/-! What the resolution of a binding says. -/

/-- Neither word of a resolution reads like the outcome of a step. -/
def NotSuccess (resolution : BindingResolutionResult) : Prop :=
  resolution.result ≠ "success" ∧ resolution.resolutionSource ≠ "success"

theorem resolveExplicit_notSuccess (profile : DesktopProfile) (service : ServiceRole)
    (componentId : String) (now : Nat) :
    NotSuccess (resolveExplicit profile service componentId now) := by
  unfold resolveExplicit
  dsimp only
  cases profile.sessionComponents.find? fun component => component.id = componentId with
  | none => simp [NotSuccess]
  | some component =>
    cases expectedComponentRole service with
    | none => simp [NotSuccess]
    | some expected =>
      dsimp only
      split_ifs <;> simp [NotSuccess]

theorem resolveLegacy_notSuccess (profile : DesktopProfile) (now : Nat) :
    NotSuccess (resolveLegacy profile now) := by
  unfold resolveLegacy
  dsimp only
  split <;> simp [NotSuccess]

theorem resolveServiceComponentBinding_notSuccess (profile : DesktopProfile)
    (service : ServiceRole) (now : Nat) :
    NotSuccess (resolveServiceComponentBinding profile service now) := by
  unfold resolveServiceComponentBinding
  dsimp only
  split
  · exact resolveExplicit_notSuccess profile service _ now
  · simp [NotSuccess]
  · split_ifs
    · simp [NotSuccess]
    · exact resolveLegacy_notSuccess profile now
    · simp [NotSuccess]

theorem lockdResolution_notSuccess (surroundings : ResumeSurroundings) :
    NotSuccess (lockdResolution surroundings) := by
  unfold lockdResolution resolveResumeBinding
  cases surroundings.profile with
  | none => simp [NotSuccess]
  | some profile => exact resolveServiceComponentBinding_notSuccess profile .lockd surroundings.now

/-! One exchange. -/

theorem reply_accepted_iff :
    exchange.reply surroundings = .accepted ↔ exchange.Acknowledged surroundings := by
  unfold ResumeExchange.reply ResumeExchange.Acknowledged
  cases surroundings.answer exchange.service exchange.request with
  | error err => simp
  | ok envelope => simp

@[simp] theorem Reply.outcome_eq_success {reply : Reply} :
    reply.outcome = "success" ↔ reply = .accepted := by
  cases reply <;> simp [Reply.outcome]

section

variable (exchange) (surroundings) (run)

@[simp] theorem ask_steps : (exchange.ask surroundings run).steps = run.steps ++
      [⟨exchange.name, exchange.service.asStr, (exchange.reply surroundings).outcome,
        (exchange.reply surroundings).detail⟩] := by
  unfold ResumeExchange.ask
  dsimp only
  split_ifs <;> rfl

@[simp] theorem ask_requests : (exchange.ask surroundings run).requests =
      run.requests ++ [(exchange.service, exchange.request)] := by
  unfold ResumeExchange.ask
  dsimp only
  split_ifs <;> rfl

@[simp] theorem ask_trace : (exchange.ask surroundings run).trace = run.trace := by
  unfold ResumeExchange.ask
  dsimp only
  split_ifs <;> rfl

end

/-! The outcome of a run, and those before it. -/

def Stands (run : ResumeRun) (outcome : ResumeOutcome) (outcomes : List ResumeOutcome) : Prop :=
  run.finalState = outcome ∧ run.outcomes = outcomes

namespace Stands

variable {outcome outcome' : ResumeOutcome} {outcomes outcomes' : List ResumeOutcome}
  {stage : ResumeRun → ResumeRun}

section

variable (h : Stands run outcome outcomes)
include h

theorem bound (hselected : (lockdResolution surroundings).result = "selected") :
    Stands (lockdBinding surroundings run) outcome outcomes := by
  unfold lockdBinding
  dsimp only
  rw [if_neg fun hne => hne hselected]
  exact h

theorem unbound (hselected : (lockdResolution surroundings).result ≠ "selected") :
    Stands (lockdBinding surroundings run) .blankOnly (outcomes ++ [.blankOnly]) := by
  unfold lockdBinding
  dsimp only
  rw [if_pos hselected, ← h.2]
  exact ⟨rfl, rfl⟩

theorem accepted (hack : exchange.Acknowledged surroundings) :
    Stands (exchange.ask surroundings run) outcome outcomes := by
  unfold ResumeExchange.ask
  rw [reply_accepted_iff.mpr hack]
  exact h

theorem failed (hack : ¬ exchange.Acknowledged surroundings) :
    Stands (exchange.ask surroundings run) exchange.failure (outcomes ++ [exchange.failure]) := by
  rw [← reply_accepted_iff] at hack
  unfold ResumeExchange.ask
  dsimp only
  rw [if_neg hack, ← h.2]
  exact ⟨rfl, rfl⟩

end

theorem setLockStateStage : Stands (setLockStateStage surroundings run) outcome outcomes ↔
    Stands (setLockState.ask surroundings run) outcome outcomes := Iff.rfl

theorem authPromptStage : Stands (authPromptStage surroundings run) outcome outcomes ↔
    Stands (authPrompt.ask surroundings run) outcome outcomes := Iff.rfl

theorem enters (h : Stands run .normal outcomes) (hstage : Stands (stage run) outcome' outcomes') :
    Stands (run.whenNormal stage) outcome' outcomes' := by
  unfold ResumeRun.whenNormal
  rw [if_pos h.1]
  exact hstage

theorem passes (h : Stands run outcome outcomes) (hne : outcome ≠ .normal) :
    Stands (run.whenNormal stage) outcome outcomes := by
  unfold ResumeRun.whenNormal
  rw [if_neg fun hnormal => hne (h.1.symm.trans hnormal)]
  exact h

end Stands

/-- The outcome of the checked steps and the ones before it. -/
inductive CheckedEnd (surroundings : ResumeSurroundings) : ResumeOutcome → List ResumeOutcome → Prop
  | unbound : (lockdResolution surroundings).result ≠ "selected" →
      resumeBegin.Acknowledged surroundings →
      CheckedEnd surroundings .blankOnly [.normal, .blankOnly]
  | unboundHeld : (lockdResolution surroundings).result ≠ "selected" →
      ¬ resumeBegin.Acknowledged surroundings →
      CheckedEnd surroundings .hold [.normal, .blankOnly, .hold]
  | held : (lockdResolution surroundings).result = "selected" →
      ¬ resumeBegin.Acknowledged surroundings → CheckedEnd surroundings .hold [.normal, .hold]
  | unlocked : (lockdResolution surroundings).result = "selected" →
      resumeBegin.Acknowledged surroundings → ¬ setLockState.Acknowledged surroundings →
      CheckedEnd surroundings .blankOnly [.normal, .blankOnly]
  | lost : (lockdResolution surroundings).result = "selected" →
      resumeBegin.Acknowledged surroundings → setLockState.Acknowledged surroundings →
      ¬ resumeHintOutputs.Acknowledged surroundings →
      CheckedEnd surroundings .restartRequest [.normal, .restartRequest]
  | unauthorized : (lockdResolution surroundings).result = "selected" →
      resumeBegin.Acknowledged surroundings → setLockState.Acknowledged surroundings →
      resumeHintOutputs.Acknowledged surroundings → ¬ authPrompt.Acknowledged surroundings →
      CheckedEnd surroundings .blankOnly [.normal, .blankOnly]
  | passed : (lockdResolution surroundings).result = "selected" →
      resumeBegin.Acknowledged surroundings → setLockState.Acknowledged surroundings →
      resumeHintOutputs.Acknowledged surroundings → authPrompt.Acknowledged surroundings →
      CheckedEnd surroundings .normal [.normal]

namespace CheckedEnd

variable {outcome : ResumeOutcome} {outcomes : List ResumeOutcome}

theorem normal_iff (h : CheckedEnd surroundings outcome outcomes) : outcome = .normal ↔
    (lockdResolution surroundings).result = "selected" ∧
      resumeBegin.Acknowledged surroundings ∧ setLockState.Acknowledged surroundings ∧
      resumeHintOutputs.Acknowledged surroundings ∧ authPrompt.Acknowledged surroundings := by
  cases h <;> simp_all

/-- A blank screen is kept but where displayd fails as well. -/
theorem blankOnly_iff (h : CheckedEnd surroundings outcome outcomes) :
    (outcomes.Pairwise fun before after => before = .blankOnly → after = .blankOnly) ↔
      ((lockdResolution surroundings).result ≠ "selected" →
        resumeBegin.Acknowledged surroundings) := by
  cases h <;> simp_all

end CheckedEnd

theorem checkedSteps_end (surroundings : ResumeSurroundings) : CheckedEnd surroundings
    (checkedSteps surroundings {}).finalState (checkedSteps surroundings {}).outcomes := by
  have hends : ∀ outcome outcomes, Stands (checkedSteps surroundings {}) outcome outcomes →
      CheckedEnd surroundings outcome outcomes → CheckedEnd surroundings
        (checkedSteps surroundings {}).finalState (checkedSteps surroundings {}).outcomes := by
    rintro outcome outcomes ⟨rfl, rfl⟩ hend
    exact hend
  have hstart : Stands {} .normal [.normal] := ⟨rfl, rfl⟩
  by_cases hselected : (lockdResolution surroundings).result = "selected"
  · have hbound := hstart.bound hselected
    by_cases hdisplayd : resumeBegin.Acknowledged surroundings
    · have hbegun := hbound.accepted hdisplayd
      by_cases hlocked : setLockState.Acknowledged surroundings
      · have hlock := hbegun.enters (Stands.setLockStateStage.mpr (hbegun.accepted hlocked))
        by_cases houtputs : resumeHintOutputs.Acknowledged surroundings
        · have hhint := hlock.enters (hlock.accepted houtputs)
          by_cases hauth : authPrompt.Acknowledged surroundings
          · have hdone := hhint.enters (Stands.authPromptStage.mpr (hhint.accepted hauth))
            exact hends _ _ hdone (.passed hselected hdisplayd hlocked houtputs hauth)
          · have hdone := hhint.enters (Stands.authPromptStage.mpr (hhint.failed hauth))
            exact hends _ _ hdone (.unauthorized hselected hdisplayd hlocked houtputs hauth)
        · have hhint := hlock.enters (hlock.failed houtputs)
          exact hends _ _ (hhint.passes nofun) (.lost hselected hdisplayd hlocked houtputs)
      · have hlock := hbegun.enters (Stands.setLockStateStage.mpr (hbegun.failed hlocked))
        exact hends _ _ ((hlock.passes nofun).passes nofun) (.unlocked hselected hdisplayd hlocked)
    · have hbegun := hbound.failed hdisplayd
      exact hends _ _ (((hbegun.passes nofun).passes nofun).passes nofun)
        (.held hselected hdisplayd)
  · have hunbound := hstart.unbound hselected
    by_cases hdisplayd : resumeBegin.Acknowledged surroundings
    · have hbegun := hunbound.accepted hdisplayd
      exact hends _ _ (((hbegun.passes nofun).passes nofun).passes nofun)
        (.unbound hselected hdisplayd)
    · have hbegun := hunbound.failed hdisplayd
      exact hends _ _ (((hbegun.passes nofun).passes nofun).passes nofun)
        (.unboundHeld hselected hdisplayd)

/-! What the steps leave behind. -/

/-- The steps so far are truthful, and the watchdog has not been asked for anything. -/
structure ResumeRecorded (surroundings : ResumeSurroundings) (run : ResumeRun) : Prop where
  truthful : ∀ step ∈ run.steps, step.outcome = "success" → Truthful surroundings step
  unrequested : ∀ request ∈ run.requests, request.1 ≠ .watchdog
  untraced : run.trace = none

namespace ResumeRecorded

theorem init : ResumeRecorded surroundings {} := ⟨by simp, by simp, rfl⟩

section

variable (h : ResumeRecorded surroundings run)
include h

theorem push (hstep : step.outcome = "success" → Truthful surroundings step) :
    ResumeRecorded surroundings (run.push step) := by
  refine ⟨fun step' hstep' => ?_, h.unrequested, h.untraced⟩
  rcases List.mem_append.mp hstep' with hold | hnew
  · exact h.truthful step' hold
  · rw [List.mem_singleton.mp hnew]
    exact hstep

theorem lockdBinding : ResumeRecorded surroundings (lockdBinding surroundings run) := by
  obtain ⟨hresult, hsource⟩ := lockdResolution_notSuccess surroundings
  unfold Sessiond.lockdBinding
  dsimp only
  by_cases hselected : (lockdResolution surroundings).result ≠ "selected"
  · rw [if_pos hselected]
    exact push ⟨h.truthful, h.unrequested, h.untraced⟩ fun hcontra => absurd hcontra hresult
  · rw [if_neg hselected]
    exact h.push fun hcontra => absurd hcontra hsource

theorem ask (hexchange : exchange ∈ resumeExchanges) :
    ResumeRecorded surroundings (exchange.ask surroundings run) := by
  have hwatchdog : exchange.service ≠ .watchdog := by
    simp only [resumeExchanges, List.mem_cons, List.not_mem_nil, or_false] at hexchange
    rcases hexchange with rfl | rfl | rfl | rfl | rfl <;> decide
  refine ⟨fun step hstep hsuccess => ?_, fun request hrequest => ?_, by rw [ask_trace, h.untraced]⟩
  · rw [ask_steps] at hstep
    rcases List.mem_append.mp hstep with hold | hnew
    · exact h.truthful step hold hsuccess
    · rw [List.mem_singleton.mp hnew] at hsuccess ⊢
      exact ⟨exchange, hexchange, rfl, rfl,
        reply_accepted_iff.mp (Reply.outcome_eq_success.mp hsuccess)⟩
  · rw [ask_requests] at hrequest
    rcases List.mem_append.mp hrequest with hold | hnew
    · exact h.unrequested request hold
    · rw [List.mem_singleton.mp hnew]
      exact hwatchdog

theorem whenNormal {stage : ResumeRun → ResumeRun}
    (hstage : ∀ run, ResumeRecorded surroundings run → ResumeRecorded surroundings (stage run)) :
    ResumeRecorded surroundings (run.whenNormal stage) := by
  unfold ResumeRun.whenNormal
  split_ifs
  · exact hstage run h
  · exact h

/-- The variables of the lock play no part. -/
theorem same (hsteps : run'.steps = run.steps) (hrequests : run'.requests = run.requests)
    (htrace : run'.trace = run.trace) : ResumeRecorded surroundings run' :=
  ⟨hsteps ▸ h.truthful, hrequests ▸ h.unrequested, htrace.trans h.untraced⟩

end

theorem checkedSteps (surroundings : ResumeSurroundings) :
    ResumeRecorded surroundings (checkedSteps surroundings {}) := by
  have hlock : ∀ run, ResumeRecorded surroundings run →
      ResumeRecorded surroundings (setLockStateStage surroundings run) :=
    fun run h => (h.ask (by simp [resumeExchanges])).same rfl rfl rfl
  have hhint : ∀ run, ResumeRecorded surroundings run →
      ResumeRecorded surroundings (resumeHintOutputs.ask surroundings run) :=
    fun run h => h.ask (by simp [resumeExchanges])
  have hauth : ∀ run, ResumeRecorded surroundings run →
      ResumeRecorded surroundings (authPromptStage surroundings run) :=
    fun run h => (h.ask (by simp [resumeExchanges])).same rfl rfl rfl
  have hbegun : ResumeRecorded surroundings
      (resumeBegin.ask surroundings (Sessiond.lockdBinding surroundings {})) :=
    init.lockdBinding.ask (by simp [resumeExchanges])
  exact ((hbegun.whenNormal hlock).whenNormal hhint).whenNormal hauth

/-- The last step is truthful where compd has acknowledged it. -/
theorem resumeSteps (hcomplete : (Sessiond.checkedSteps surroundings {}).finalState = .normal →
      resumeHintComplete.Acknowledged surroundings) :
    ResumeRecorded surroundings (resumeSteps surroundings {}) := by
  have hchecked := checkedSteps surroundings
  unfold Sessiond.resumeSteps ResumeRun.whenNormal
  split_ifs with hnormal
  · refine push ⟨hchecked.truthful, fun request hrequest => ?_, hchecked.untraced⟩ fun _ => ?_
    · rcases List.mem_append.mp hrequest with hold | hnew
      · exact hchecked.unrequested request hold
      · rw [List.mem_singleton.mp hnew]
        decide
    · exact ⟨resumeHintComplete, by simp [resumeExchanges], rfl, rfl, hcomplete hnormal⟩
  · exact hchecked

end ResumeRecorded

theorem resumeSteps_stands (surroundings : ResumeSurroundings) :
    Stands (resumeSteps surroundings {}) (checkedSteps surroundings {}).finalState
      (checkedSteps surroundings {}).outcomes := by
  unfold resumeSteps ResumeRun.whenNormal
  split_ifs <;> exact ⟨rfl, rfl⟩

theorem resumeSteps_end (surroundings : ResumeSurroundings) : CheckedEnd surroundings
    (resumeSteps surroundings {}).finalState (resumeSteps surroundings {}).outcomes := by
  rw [(resumeSteps_stands surroundings).1, (resumeSteps_stands surroundings).2]
  exact checkedSteps_end surroundings

theorem resumeSteps_unrequested (surroundings : ResumeSurroundings) :
    (resumeSteps surroundings {}).trace = none ∧
      ∀ request ∈ (resumeSteps surroundings {}).requests, request.1 ≠ .watchdog := by
  have hchecked := ResumeRecorded.checkedSteps surroundings
  unfold resumeSteps ResumeRun.whenNormal
  split_ifs
  · refine ⟨hchecked.untraced, fun request hrequest => ?_⟩
    rcases List.mem_append.mp hrequest with hold | hnew
    · exact hchecked.unrequested request hold
    · rw [List.mem_singleton.mp hnew]
      decide
  · exact ⟨hchecked.untraced, hchecked.unrequested⟩

/-- The last step, once it is reached, is traced as a success. -/
theorem resumeSteps_complete (h : (resumeSteps surroundings {}).finalState = .normal) :
    ⟨"resume_hint_complete", "compd", "success", none⟩ ∈ (resumeSteps surroundings {}).steps := by
  rw [(resumeSteps_stands surroundings).1] at h
  unfold resumeSteps
  rw [ResumeRun.whenNormal, if_pos h]
  exact List.mem_append_right _ (List.mem_singleton_self _)

theorem truthful_complete (h : Truthful surroundings ⟨"resume_hint_complete", "compd", "success",
    none⟩) : resumeHintComplete.Acknowledged surroundings := by
  obtain ⟨exchange, hexchange, hname, -, hack⟩ := h
  simp only [resumeExchanges, List.mem_cons, List.not_mem_nil, or_false] at hexchange
  rcases hexchange with rfl | rfl | rfl | rfl | rfl
  · exact absurd hname (by decide)
  · exact absurd hname (by decide)
  · exact absurd hname (by decide)
  · exact absurd hname (by decide)
  · exact hack

/-! What the recovery adds. -/

section Recovering

variable {sessionInstanceId : String} {role : ServiceRole} {resolution : BindingResolutionResult}
  {request : ResumeRun → ResumeRun} {fault : Option String}

theorem ends_writeArtifact {written : ResumeRun → ResumeRun} {E : String → ResumeRun → Prop}
    {Q : PUnit → ResumeRun → Prop} : Ends E (writeArtifact fault written) run Q ↔
      (∀ err, fault = some err → E err run) ∧ (fault = none → Q ⟨⟩ (written run)) := by
  cases fault with
  | none => simp [writeArtifact]
  | some err => simp [writeArtifact]

theorem ends_recoverRole : Ends
    (fun _ run' => run' = run ∧
      ¬ (resumeRecoveryEnabled surroundings role = true ∧ resolution.result = "selected"))
    (recoverRole surroundings role resolution request) run
    fun _ run' => (run' = request run ∧
        resumeRecoveryEnabled surroundings role = true ∧ resolution.result = "selected") ∨
      (¬ (resumeRecoveryEnabled surroundings role = true ∧ resolution.result = "selected") ∧
        ∃ executions reason, run' = { run with executions }.push
          ⟨"watchdog_restart_request", "watchdog", "skipped", some reason⟩) := by
  unfold recoverRole
  dsimp only
  split_ifs with hallowed henabled
  · exact .inl ⟨rfl, hallowed⟩
  · rw [ends_bind, ends_writeArtifact]
    exact ⟨fun _ _ => ⟨rfl, hallowed⟩, fun _ => .inr ⟨hallowed, _, _, rfl⟩⟩
  · exact .inr ⟨hallowed, run.executions, _, rfl⟩

/-- Where the recovery leaves the scenario, whether it ends it or not. -/
structure Recovers (surroundings : ResumeSurroundings) (run run' : ResumeRun) : Prop where
  stands : Stands run' run.finalState run.outcomes
  trace : run'.trace = run.trace
  added : ∀ step ∈ run'.steps, step.outcome = "success" → step ∈ run.steps
  kept : ∀ step ∈ run.steps, step ∈ run'.steps
  compd : run'.Requested .compd ↔ run.finalState = .restartRequest ∧
    resumeRecoveryEnabled surroundings .compd = true ∧
      (compdResolution surroundings).result = "selected"
  lockd : run'.Requested .lockd ↔ run.finalState = .blankOnly ∧
    resumeRecoveryEnabled surroundings .lockd = true ∧
      (lockdResolution surroundings).result = "selected"

theorem requested_restart (surroundings : ResumeSurroundings) (sessionInstanceId : String)
    (hnone : ∀ request ∈ run.requests, request.1 ≠ .watchdog)
    (asked : ServiceRole) (reason : String) (detail : Option String) :
    (requestRestart surroundings sessionInstanceId asked reason detail run).Requested role ↔
      role = asked := by
  constructor
  · rintro ⟨sessionInstanceId', reason', hmem⟩
    rcases List.mem_append.mp hmem with hold | hnew
    · exact absurd rfl (hnone _ hold)
    · simp only [List.mem_singleton, Prod.mk.injEq, ResumeKind.restart.injEq] at hnew
      exact hnew.2.1
  · rintro rfl
    exact ⟨sessionInstanceId, reason, List.mem_append_right _ (List.mem_singleton_self _)⟩

theorem not_requested (hnone : ∀ request ∈ run.requests, request.1 ≠ .watchdog) :
    ¬ run.Requested role := by
  rintro ⟨sessionInstanceId', reason', hmem⟩
  exact hnone _ hmem rfl

/-- A step of the recovery is no success, and neither the outcome nor the trace is touched. -/
theorem Recovers.pushed {base : ResumeRun} (hstands : Stands base run.finalState run.outcomes)
    (htrace : base.trace = run.trace) (hsteps : base.steps = run.steps)
    (hstep : step.outcome ≠ "success")
    (hcompd : base.Requested .compd ↔ run.finalState = .restartRequest ∧
      resumeRecoveryEnabled surroundings .compd = true ∧
        (compdResolution surroundings).result = "selected")
    (hlockd : base.Requested .lockd ↔ run.finalState = .blankOnly ∧
      resumeRecoveryEnabled surroundings .lockd = true ∧
        (lockdResolution surroundings).result = "selected") :
    Recovers surroundings run (base.push step) := by
  refine ⟨hstands, htrace, fun step' hstep' hsuccess => ?_, fun step' hstep' => ?_, hcompd, hlockd⟩
  · rcases List.mem_append.mp hstep' with hold | hnew
    · rwa [hsteps] at hold
    · rw [List.mem_singleton.mp hnew] at hsuccess
      exact absurd hsuccess hstep
  · exact List.mem_append_left _ (hsteps ▸ hstep')

theorem Reply.watchdogOutcome_ne (reply : Reply) : reply.watchdogOutcome ≠ "success" := by
  cases reply <;> simp [Reply.watchdogOutcome]

theorem Recovers.requested (sessionInstanceId : String)
    (hnone : ∀ request ∈ run.requests, request.1 ≠ .watchdog)
    (asked : ServiceRole) (reason : String) (detail : Option String)
    (hcompd : .compd = asked ↔ run.finalState = .restartRequest ∧
      resumeRecoveryEnabled surroundings .compd = true ∧
        (compdResolution surroundings).result = "selected")
    (hlockd : .lockd = asked ↔ run.finalState = .blankOnly ∧
      resumeRecoveryEnabled surroundings .lockd = true ∧
        (lockdResolution surroundings).result = "selected") :
    Recovers surroundings run
      (requestRestart surroundings sessionInstanceId asked reason detail run) := by
  have hrole : ∀ role, (requestRestart surroundings sessionInstanceId asked reason detail
      run).Requested role ↔ role = asked := fun role =>
    requested_restart surroundings sessionInstanceId hnone asked reason detail
  exact .pushed ⟨rfl, rfl⟩ rfl rfl (Reply.watchdogOutcome_ne _) ((hrole .compd).trans hcompd)
    ((hrole .lockd).trans hlockd)

theorem ends_recover (hnone : ∀ request ∈ run.requests, request.1 ≠ .watchdog) :
    Ends (fun _ run' => Recovers surroundings run run') (recover surroundings sessionInstanceId) run
      fun _ run' => Recovers surroundings run run' := by
  have hidle : ∀ role, ¬ run.Requested role := fun role => not_requested hnone
  -- nothing is requested, of any role
  have hsame : (run.finalState = .restartRequest → ¬ (resumeRecoveryEnabled surroundings .compd =
        true ∧ (compdResolution surroundings).result = "selected")) →
      (run.finalState = .blankOnly → ¬ (resumeRecoveryEnabled surroundings .lockd = true ∧
        (lockdResolution surroundings).result = "selected")) →
      Recovers surroundings run run := fun hcompd hlockd =>
    ⟨⟨rfl, rfl⟩, rfl, fun _ h _ => h, fun _ h => h,
      iff_of_false (hidle _) fun h => hcompd h.1 h.2,
      iff_of_false (hidle _) fun h => hlockd h.1 h.2⟩
  unfold recover
  rw [ends_bind, ends_get]
  cases hstate : run.finalState with
  | normal =>
    exact hsame (fun h => by rw [hstate] at h; cases h) fun h => by rw [hstate] at h; cases h
  | hold =>
    exact hsame (fun h => by rw [hstate] at h; cases h) fun h => by rw [hstate] at h; cases h
  | restartRequest =>
    have hother : run.finalState = .blankOnly → False := fun h => by rw [hstate] at h; cases h
    refine (ends_recoverRole.mono_error ?_).mono ?_
    · rintro _ run' ⟨rfl, hdenied⟩
      exact hsame (fun _ => hdenied) fun h => (hother h).elim
    · rintro _ run' (⟨rfl, hallowed⟩ | ⟨hdenied, executions, reason, rfl⟩)
      · exact .requested sessionInstanceId hnone .compd _ _ (iff_of_true rfl ⟨hstate, hallowed⟩)
          (iff_of_false (by decide) fun h => hother h.1)
      · refine Recovers.pushed ⟨rfl, rfl⟩ rfl rfl (by simp) ?_ ?_
        · exact iff_of_false (hidle _) fun h => hdenied h.2
        · exact iff_of_false (hidle _) fun h => hother h.1
  | blankOnly =>
    have hother : run.finalState = .restartRequest → False := fun h => by rw [hstate] at h; cases h
    refine (ends_recoverRole.mono_error ?_).mono ?_
    · rintro _ run' ⟨rfl, hdenied⟩
      exact hsame (fun h => (hother h).elim) fun _ => hdenied
    · rintro _ run' (⟨rfl, hallowed⟩ | ⟨hdenied, executions, reason, rfl⟩)
      · obtain ⟨hstands, htrace, hadded, hkept, hcompd, hlockd⟩ := Recovers.requested
          sessionInstanceId hnone .lockd run.lockReason (some "lockd recovery execution enabled")
          (iff_of_false (by decide) fun h => hother h.1) (iff_of_true rfl ⟨hstate, hallowed⟩)
        exact ⟨hstands, htrace, hadded, hkept, hcompd, hlockd⟩
      · refine Recovers.pushed ⟨rfl, rfl⟩ rfl rfl (by simp) ?_ ?_
        · exact iff_of_false (hidle _) fun h => hother h.1
        · exact iff_of_false (hidle _) fun h => hdenied h.2

end Recovering

/-! The whole scenario. -/

/-- The run that a scenario ends with, or is ended in. -/
def ended {α : Type} : EStateM.Result String ResumeRun α → ResumeRun
  | .ok _ run => run
  | .error _ run => run

theorem ended_of_ends {α : Type} {m : ResumeM α} {P : ResumeRun → Prop}
    (h : Ends (fun _ => P) m run fun _ => P) : P (ended (m run)) := by
  cases hm : m run with
  | ok a run' => exact h.ok hm
  | error err run' => exact h.error hm

/-- The scenario has ended after the recovery that followed its steps, and any trace is of it. -/
def EndsAfter (surroundings : ResumeSurroundings) (run : ResumeRun) : Prop :=
  Recovers surroundings (resumeSteps surroundings {}) { run with trace := none } ∧
    ∀ trace, run.trace = some trace → trace.steps = run.steps ∧ trace.finalState = run.finalState

theorem runResumeScenario_after (sessionInstanceId : String) (scenario : ResumeScenario)
    (hstarts : Starts surroundings) : EndsAfter surroundings
      (ended (runResumeScenario surroundings sessionInstanceId scenario {})) := by
  obtain ⟨hcollision, hlockd, hcompd⟩ := hstarts
  obtain ⟨huntraced, hnone⟩ := resumeSteps_unrequested surroundings
  have hafter : ∀ run lockPath, Recovers surroundings (resumeSteps surroundings {}) run →
      Recovers surroundings (resumeSteps surroundings {}) { run with trace := none, lockPath } :=
    fun run lockPath h => ⟨h.stands, huntraced.symm, h.added, h.kept, h.compd, h.lockd⟩
  have huntouched : ∀ run, Recovers surroundings (resumeSteps surroundings {}) run →
      EndsAfter surroundings run := by
    refine fun run h => ⟨hafter run run.lockPath h, fun trace htrace => ?_⟩
    rw [h.trace, huntraced] at htrace
    cases htrace
  refine ended_of_ends ?_
  unfold runResumeScenario
  rw [hcollision, hlockd, hcompd]
  simp only [ends_bind, ends_writeArtifact, ends_modify, id, reduceCtorEq, false_implies,
    implies_true, true_and, forall_const]
  refine ((ends_recover hnone).mono_error fun _ run h => huntouched run h).mono fun _ run h => ?_
  have htraced : ∀ lockPath, EndsAfter surroundings
      { run with trace := some (resumeTrace surroundings scenario run), lockPath } := by
    refine fun lockPath => ⟨hafter run lockPath h, fun trace htrace => ?_⟩
    cases htrace
    exact ⟨rfl, rfl⟩
  exact ⟨fun _ _ => huntouched run h,
    fun _ => ⟨fun _ _ => htraced run.lockPath, fun _ => htraced _⟩⟩

/-- Before its first step a scenario is ended with nothing traced and nothing requested. -/
theorem runResumeScenario_stopped (sessionInstanceId : String) (scenario : ResumeScenario)
    (hstarts : ¬ Starts surroundings) :
    ended (runResumeScenario surroundings sessionInstanceId scenario {}) = {} := by
  unfold runResumeScenario Starts at *
  cases hcollision : surroundings.collisionFault with
  | some err => rfl
  | none =>
    cases hlockd : surroundings.lockdResolutionFault with
    | some err => rfl
    | none =>
      cases hcompd : surroundings.compdResolutionFault with
      | some err => rfl
      | none => exact absurd ⟨hcollision, hlockd, hcompd⟩ hstarts

/-- The scenario keeps its promises just when displayd and compd answer in step. -/
theorem runResumeScenario_keeps_iff (surroundings : ResumeSurroundings)
    (sessionInstanceId : String) (scenario : ResumeScenario) :
    KeepsResumePromises surroundings
        (ended (runResumeScenario surroundings sessionInstanceId scenario {})) ↔
      AnswersInStep surroundings := by
  by_cases hstarts : Starts surroundings
  · obtain ⟨hrecovers, htraced⟩ := runResumeScenario_after sessionInstanceId scenario hstarts
    generalize ended (runResumeScenario surroundings sessionInstanceId scenario {}) = run at *
    have hend := resumeSteps_end surroundings
    obtain ⟨hstate, houtcomes⟩ := hrecovers.stands
    dsimp only at hstate houtcomes
    constructor
    · intro hkeeps _
      refine ⟨hend.blankOnly_iff.mp (houtcomes ▸ hkeeps.blankOnly), ?_⟩
      intro hselected hdisplayd hlocked houtputs hauth
      have hnormal := hend.normal_iff.mpr ⟨hselected, hdisplayd, hlocked, houtputs, hauth⟩
      have htraced := hrecovers.kept _ (resumeSteps_complete hnormal)
      exact truthful_complete (hkeeps.truthful _ htraced rfl)
    · intro hanswers
      obtain ⟨hunbound, hcomplete⟩ := hanswers hstarts
      have hrecorded : ResumeRecorded surroundings (resumeSteps surroundings {}) := by
        refine ResumeRecorded.resumeSteps fun hnormal => ?_
        obtain ⟨hselected, hdisplayd, hlocked, houtputs, hauth⟩ :=
          (checkedSteps_end surroundings).normal_iff.mp hnormal
        exact hcomplete hselected hdisplayd hlocked houtputs hauth
      refine ⟨fun trace htrace hnormal => ?_, fun step hstep hsuccess => ?_, htraced, ?_, ?_, ?_⟩
      · exact hend.normal_iff.mp (hstate ▸ (htraced trace htrace).2 ▸ hnormal)
      · exact hrecorded.truthful step (hrecovers.added step hstep hsuccess) hsuccess
      · exact houtcomes ▸ hend.blankOnly_iff.mpr hunbound
      · exact hstate ▸ hrecovers.compd
      · exact hstate ▸ hrecovers.lockd
  · rw [runResumeScenario_stopped sessionInstanceId scenario hstarts]
    refine iff_of_true ?_ fun h => absurd h hstarts
    have hidle : ∀ role, ¬ ({} : ResumeRun).Requested role := fun role => not_requested (by simp)
    refine ⟨nofun, by simp, nofun, List.pairwise_singleton _ _, ?_, ?_⟩
    · exact iff_of_false (hidle _) fun h => by cases h.1
    · exact iff_of_false (hidle _) fun h => by cases h.1

/-- No profile is active, and no service can be reached. -/
def unreachedResume : ResumeSurroundings where
  profile := none
  answer _ _ := .error "connection refused"
  debug _ := ""

/-- The broker's own lock screen, and services that answer as expected up to the last step. -/
def brokenOffResume : ResumeSurroundings where
  profile := some
    { id := "native", displayName := "Native", protocol := .waylandNative, summary := ""
      degradedProfileId := none, brokerServices := [.lockd], sessionComponents := [] }
  answer service request :=
    match request with
    | .resumeBegin => .ok ⟨service, .sessiond, .resumeStarted⟩
    | .resumeHint .complete _ => .error "connection reset by peer"
    | request => .ok ⟨service, .sessiond, request⟩
  debug _ := ""

/-- The blank screen of the first gives way to a held one, and the second is done for a service
that did not answer. -/
theorem resume_promises_broken :
    (ended (runResumeScenario unreachedResume "s1" .normal {})).outcomes =
        [.normal, .blankOnly, .hold] ∧
      ¬ KeepsResumePromises unreachedResume
        (ended (runResumeScenario unreachedResume "s1" .normal {})) ∧
      ⟨"resume_hint_complete", "compd", "success", none⟩ ∈
        (ended (runResumeScenario brokenOffResume "s1" .normal {})).steps ∧
      ¬ KeepsResumePromises brokenOffResume
        (ended (runResumeScenario brokenOffResume "s1" .normal {})) := by
  have houtcomes : (ended (runResumeScenario unreachedResume "s1" .normal {})).outcomes =
      [.normal, .blankOnly, .hold] := by decide +kernel
  have hstep : ⟨"resume_hint_complete", "compd", "success", none⟩ ∈
      (ended (runResumeScenario brokenOffResume "s1" .normal {})).steps := by decide +kernel
  refine ⟨houtcomes, fun h => ?_, hstep, fun h => ?_⟩
  · have hkept := h.blankOnly
    rw [houtcomes] at hkept
    simp at hkept
  · obtain ⟨envelope, hanswer, -⟩ := truthful_complete (h.truthful _ hstep rfl)
    cases hanswer

end TuffXwin.Sessiond
