import TuffXwin.Lib.Reach
import TuffXwin.Sessiond.Resume

/-! The commands that a supervisor answers between its polls: the watchdog's report, what keeps
the session from going idle, and what suspends and resumes it. -/

namespace TuffXwin.Sessiond
open Lib Watchdog

inductive SessionCommand
  | suspendRequested
  | resumeHint (stage : ResumeStage) (output : Option ResumeOutputMode)
  | degradedMode (reason : String)
  | applyWatchdogReport (report : SessionWatchdogReport)
  | profileTransition (transition : SessionProfileTransition)
  | profileUnchanged (profileId reason : String)
  | inhibitIdle (reason : String)
  | releaseIdle (reason : String)
  deriving DecidableEq

/-- Messages of other kinds are shown in a reason and nothing else. -/
inductive MessageKind
  | sessionCommand (command : SessionCommand)
  | other (debug : String)
  deriving DecidableEq

structure IpcEnvelope where
  source : ServiceRole
  destination : ServiceRole
  kind : MessageKind
  deriving DecidableEq

def sessionCommandSourceAuthorized (source : ServiceRole) : SessionCommand → Bool
  | .applyWatchdogReport _ => source = .watchdog
  | .inhibitIdle _ | .releaseIdle _ => source = .waylandd
  | .suspendRequested | .resumeHint _ _ =>
    source = .sessiond ∨ source = .waylandd ∨ source = .displayd
  | .degradedMode _ | .profileTransition _ | .profileUnchanged _ _ => false

/-- `persist_watchdog_apply_outcome` with a supervisor. -/
def persistWatchdogApplyOutcome (stage : StageSurroundings) (outcome : WatchdogApplyOutcome)
    (switch : DesktopProfile → SupervisorM Unit) : SupervisorM SessionCommand :=
  match outcome with
  | .transition targetProfile transition => do
    orFail stage.activeFault
    orFail stage.transitionFault
    switch targetProfile
    return .profileTransition transition
  | .unchanged profileId reason => return .profileUnchanged profileId reason

/-- `debug` shows a command in a reason, and `stages` are the writes of the outcome and then
the activations that may follow. -/
def handleSessionCommand (debug : SessionCommand → String) (config : Config)
    (profiles : List DesktopProfile) (stages : Nat → StageSurroundings) (source : ServiceRole)
    (command : SessionCommand) : SupervisorM SessionCommand :=
  if sessionCommandSourceAuthorized source command = false then
    throw ("source " ++ source.asStr ++ " is not authorized for session command " ++
      debug command)
  else
    match command with
    | .applyWatchdogReport report =>
      if validateSessionInstanceId report.sessionInstanceId = false then
        throw "watchdog report contains invalid session instance id"
      else do
        let supervisor ← get
        if report.sessionInstanceId ≠ supervisor.sessionInstanceId then
          throw ("watchdog report session instance " ++ report.sessionInstanceId ++
            " does not match managed session " ++ supervisor.sessionInstanceId)
        else
          match applyWatchdogReport supervisor.profile profiles report
              supervisor.sessionInstanceId (stages 0).now with
          | .error err => throw err
          | .ok outcome =>
            persistWatchdogApplyOutcome (stages 0) outcome (switchTo (stages 1)
              (activate config stages (u64Max - supervisor.streamGeneration - 1) 1))
    | .inhibitIdle reason => do
      modify fun supervisor =>
        { supervisor with idleInhibitors := supervisor.idleInhibitors ++ [reason] }
      return .inhibitIdle reason
    | .releaseIdle reason => do
      modify fun supervisor =>
        { supervisor with idleInhibitors := supervisor.idleInhibitors.erase reason }
      return .releaseIdle reason
    | .suspendRequested => do
      modify fun supervisor =>
        { supervisor with isSuspended := true, suspendCount := bump supervisor.suspendCount }
      return .suspendRequested
    | .resumeHint stage output => do
      modify fun supervisor => { supervisor with isSuspended := false }
      return .resumeHint stage output
    | other => return .profileUnchanged "unknown" ("sessiond IPC does not apply " ++ debug other)

/-- `response_kind`, always a session command. -/
def responseKind (debug : SessionCommand → String) (config : Config)
    (profiles : List DesktopProfile) (stages : Nat → StageSurroundings) (request : IpcEnvelope) :
    SupervisorM SessionCommand :=
  match request.kind with
  | .sessionCommand command =>
    if request.destination = .sessiond then
      tryCatch (handleSessionCommand debug config profiles stages request.source command)
        fun err => pure (.profileUnchanged "unknown"
          ("sessiond rejected watchdog apply request: " ++ err))
    else
      pure (.profileUnchanged "unknown"
        ("sessiond received message addressed to " ++ request.destination.asStr))
  | .other debug => pure (.profileUnchanged "unknown" ("sessiond does not handle " ++ debug))

def buildResponse (debug : SessionCommand → String) (config : Config)
    (profiles : List DesktopProfile) (stages : Nat → StageSurroundings) (request : IpcEnvelope) :
    SupervisorM IpcEnvelope := do
  let command ← responseKind debug config profiles stages request
  return ⟨.sessiond, request.source, .sessionCommand command⟩

/-- What the loop of `serve_ipc` comes to: a poll, or a request that a client sent. -/
inductive ServeStep
  | poll (surroundings : PollSurroundings)
  | client (request : IpcEnvelope) (stages : Nat → StageSurroundings)

def serveStep (debug : SessionCommand → String) (config : Config)
    (profiles : List DesktopProfile) : ServeStep → SupervisorM Unit
  | .poll surroundings => do
    let _ ← poll config surroundings
    return ()
  | .client request stages => do
    let _ ← buildResponse debug config profiles stages request
    return ()

end TuffXwin.Sessiond
