import TuffXwin.Common.Profile

/-! What the watchdog reports about a launch state. A component is judged on its own; the
counts of the report are those of its components. -/

namespace TuffXwin.Watchdog

def componentAction (component : SessionLaunchComponentState) : DesktopRecoveryAction :=
  if component.critical = false then .none
  else if 3 ≤ component.restartCount then .degradedProfile
  else .restartComponent

/-- Status, action and reason; `alive` is what `/proc` shows. -/
def inspection (alive : Nat → Bool) (component : SessionLaunchComponentState) :
    DesktopHealthStatus × DesktopRecoveryAction × String :=
  match component.state with
  | .missing =>
    (.unhealthy, if component.critical then .degradedProfile else .none,
      "component command is not installed")
  | .failed =>
    (.unhealthy, componentAction component, "component spawn failed or supervisor gave up")
  | .ready => (.inactive, .none, "component is installed but not launched")
  | .spawned =>
    match component.pid with
    | some pid =>
      if alive pid then (.healthy, .none, "component process is alive")
      else (.unhealthy, componentAction component, "component process is missing")
    | none => (.unhealthy, componentAction component, "component was marked spawned without pid")

def inspectComponent (alive : Nat → Bool) (component : SessionLaunchComponentState) :
    SessionWatchdogComponentReport :=
  let judged := inspection alive component
  { id := component.id
    role := component.role
    critical := component.critical
    status := judged.1
    pid := component.pid
    crashLoopCount := component.restartCount
    action := judged.2.1
    reason := judged.2.2 }

def countStatus (status : DesktopHealthStatus)
    (components : List SessionWatchdogComponentReport) : Nat :=
  components.countP fun component => component.status = status

def inspectLaunchState (alive : Nat → Bool) (now : Nat) (state : SessionLaunchState) :
    SessionWatchdogReport :=
  let components := state.components.map (inspectComponent alive)
  { profileId := state.profileId
    sessionInstanceId := state.sessionInstanceId
    displayName := state.displayName
    protocol := state.protocol
    healthyComponents := countStatus .healthy components
    unhealthyComponents := countStatus .unhealthy components
    inactiveComponents := countStatus .inactive components
    components
    unixTimestamp := now }

/-- Every component has one status. -/
theorem countStatus_total (components : List SessionWatchdogComponentReport) :
    countStatus .healthy components + countStatus .unhealthy components +
      countStatus .inactive components = components.length := by
  induction components with
  | nil => rfl
  | cons component components ih =>
    simp only [countStatus, List.countP_cons, List.length_cons] at ih ⊢
    cases component.status <;> simp <;> omega

theorem inspectComponent_failed {alive : Nat → Bool} {component : SessionLaunchComponentState}
    (hcritical : component.critical = true) (hfailed : component.state = .failed) :
    (inspectComponent alive component).action = .degradedProfile ↔
      3 ≤ component.restartCount := by
  simp only [inspectComponent, inspection, hfailed, componentAction, hcritical]
  split_ifs <;> simp_all

end TuffXwin.Watchdog
