import TuffXwin.Common.IpcJson

/-! Desktop profiles, the launch states that report on their components, and what the
watchdog answers about one. -/

namespace TuffXwin

inductive DesktopProtocol
  | layerX11 | waylandNative
  deriving DecidableEq, Repr

inductive DesktopComponentRole
  | compatLayer | windowManager | shell | panel | settingsDaemon | applet | portal | lockScreen
  deriving DecidableEq, Repr

inductive DesktopLauncher
  | system | repoScript | repoBinary
  deriving DecidableEq, Repr

structure DesktopComponent where
  id : String
  role : DesktopComponentRole
  command : List String
  critical : Bool
  launcher : DesktopLauncher := .system
  deriving DecidableEq, Repr

structure ServiceComponentBinding where
  service : ServiceRole
  componentId : String
  deriving DecidableEq, Repr

inductive RecoveryExecutionMode
  | disabled | supervisorRestart
  deriving DecidableEq, Repr

structure ServiceRecoveryExecutionPolicy where
  service : ServiceRole
  mode : RecoveryExecutionMode
  preserveFinalState : Option String := none
  restartCommandArgs : List String := []
  deriving DecidableEq, Repr

structure DesktopProfile where
  id : String
  displayName : String
  protocol : DesktopProtocol
  summary : String
  degradedProfileId : Option String
  brokerServices : List ServiceRole
  sessionComponents : List DesktopComponent
  serviceComponentBindings : List ServiceComponentBinding := []
  serviceRecoveryExecutionPolicies : List ServiceRecoveryExecutionPolicy := []
  deriving DecidableEq, Repr

inductive DesktopComponentState
  | ready | missing | spawned | failed
  deriving DecidableEq, Repr

structure SessionLaunchComponentState where
  id : String
  role : DesktopComponentRole
  critical : Bool
  command : List String
  resolvedCommand : Option String
  state : DesktopComponentState
  pid : Option Nat
  restartCount : Nat
  lastExitStatus : Option Int
  deriving DecidableEq, Repr

structure SessionLaunchState where
  profileId : String
  sessionInstanceId : String
  displayName : String
  protocol : DesktopProtocol
  brokerServices : List ServiceRole
  generation : Nat
  sequence : Nat
  components : List SessionLaunchComponentState
  unixTimestamp : Nat
  serviceComponentBindings : List ServiceComponentBinding := []
  serviceRecoveryExecutionPolicies : List ServiceRecoveryExecutionPolicy := []
  deriving DecidableEq, Repr

structure SessionLaunchDelta where
  profileId : String
  sessionInstanceId : String
  displayName : String
  protocol : DesktopProtocol
  brokerServices : List ServiceRole
  generation : Nat
  sequence : Nat
  replace : Bool
  components : List SessionLaunchComponentState
  unixTimestamp : Nat
  serviceComponentBindings : List ServiceComponentBinding := []
  serviceRecoveryExecutionPolicies : List ServiceRecoveryExecutionPolicy := []
  deriving DecidableEq, Repr

inductive DesktopHealthStatus
  | healthy | unhealthy | inactive
  deriving DecidableEq, Repr

inductive DesktopRecoveryAction
  | none | restartComponent | degradedProfile
  deriving DecidableEq, Repr

structure SessionWatchdogComponentReport where
  id : String
  role : DesktopComponentRole
  critical : Bool
  status : DesktopHealthStatus
  pid : Option Nat
  crashLoopCount : Nat
  action : DesktopRecoveryAction
  reason : String
  deriving DecidableEq, Repr

structure SessionWatchdogReport where
  profileId : String
  sessionInstanceId : String
  displayName : String
  protocol : DesktopProtocol
  healthyComponents : Nat
  unhealthyComponents : Nat
  inactiveComponents : Nat
  components : List SessionWatchdogComponentReport
  unixTimestamp : Nat
  deriving DecidableEq, Repr

structure SessionProfileTransition where
  sourceProfileId : String
  sourceDisplayName : String
  targetProfileId : String
  targetDisplayName : String
  reason : String
  triggerComponentIds : List String
  unixTimestamp : Nat
  deriving DecidableEq, Repr

end TuffXwin
