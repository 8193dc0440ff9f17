import TuffXwin.Sessiond.Authority
import TuffXwin.Sessiond.Commands
import TuffXwin.Sessiond.Descent

/-! A profile transition and the artifacts it writes. The active profile and the transition are
written before the switch, and the launch state and the authority state after it; nothing that
was written is taken back when a later step fails. -/

namespace TuffXwin.Sessiond
open Lib Watchdog

variable {profiles : List DesktopProfile}
variable {β : Type} {switch' : DesktopProfile → SupervisorM Unit} {stages : Nat → StageSurroundings}
  {record : SessionAuthorityState} {report : SessionWatchdogReport} {outcome : WatchdogApplyOutcome}
variable {sessionInstanceId : String} {stage : StageSurroundings}

/-- The artifacts of a session that name a profile, as they were last written. -/
structure ProfileArtifacts where
  activeProfile : Option DesktopProfile := none
  transition : Option SessionProfileTransition := none
  launchState : Option SessionLaunchState := none
  authority : Option SessionAuthorityState := none

variable {artifacts : ProfileArtifacts} {Q : Unit → ProfileArtifacts → Prop}

/-- A supervisor with the artifacts of its session. -/
structure ManagedSession where
  artifacts : ProfileArtifacts
  supervisor : SessionSupervisor

variable {E : String → ManagedSession → Prop}

abbrev ArtifactsM := EStateM String ProfileArtifacts

abbrev ManagedM := EStateM String ManagedSession

variable {α : Type}

def onArtifacts (m : ArtifactsM α) : ManagedM α := fun managed =>
  match m managed.artifacts with
  | .ok a artifacts => .ok a { managed with artifacts }
  | .error err artifacts => .error err { managed with artifacts }

def onSupervisor (m : SupervisorM α) : ManagedM α := fun managed =>
  match m managed.supervisor with
  | .ok a supervisor => .ok a { managed with supervisor }
  | .error err supervisor => .error err { managed with supervisor }

namespace ProfileArtifacts

/-- One write: the artifact is replaced, or is as before and the write is an error. -/
def replace (written : Except String Unit) (change : ProfileArtifacts → ProfileArtifacts) :
    ArtifactsM Unit :=
  match written with
  | .error err => throw err
  | .ok () => modify change

def writeActiveProfile (fault : Option String) (profile : DesktopProfile) : ArtifactsM Unit :=
  replace (atomicWrite fault) fun artifacts => { artifacts with activeProfile := some profile }

def writeProfileTransition (fault : Option String) (transition : SessionProfileTransition) :
    ArtifactsM Unit :=
  replace (atomicWrite fault) fun artifacts => { artifacts with transition := some transition }

def writeLaunchState (fault : Option String) (state : SessionLaunchState)
    (sessionInstanceId : String) : ArtifactsM Unit :=
  replace (Sessiond.writeLaunchState fault state sessionInstanceId) fun artifacts =>
    { artifacts with launchState := some state }

def persistSessionAuthorityState (fault : Option String) (state : SessionAuthorityState)
    (sessionInstanceId : String) : ArtifactsM Unit :=
  if state.sessionInstanceId ≠ sessionInstanceId then
    throw ("refusing to persist session authority state for mismatched session " ++
      state.sessionInstanceId ++ " as " ++ sessionInstanceId)
  else
    replace (atomicWrite fault) fun artifacts => { artifacts with authority := some state }

def persistLaunchStateWithAuthority (stage : StageSurroundings) (state : SessionLaunchState)
    (sessionInstanceId : String) : ArtifactsM Unit := do
  writeLaunchState stage.launchFault state sessionInstanceId
  persistSessionAuthorityState stage.authorityFault
    (authorityOf state sessionInstanceId (.ofNat stage.now)) sessionInstanceId

end ProfileArtifacts

open ProfileArtifacts

namespace ManagedSession

/-- The writes of a transition, and the switch. -/
def transitionTo (stage : StageSurroundings) (targetProfile : DesktopProfile)
    (transition : SessionProfileTransition) (switch : DesktopProfile → ManagedM Unit) :
    ManagedM Unit := do
  onArtifacts (writeActiveProfile stage.activeFault targetProfile)
  onArtifacts (writeProfileTransition stage.transitionFault transition)
  switch targetProfile

def switchTo (stage : StageSurroundings) (activate : ManagedM Unit) (profile : DesktopProfile) :
    ManagedM Unit := do
  onSupervisor (Sessiond.switchTo stage (pure ()) profile)
  activate

def applyWatchdogStreamReport (stage : StageSurroundings) (report : SessionWatchdogReport)
    (switch : DesktopProfile → ManagedM Unit) : ManagedM Unit := do
  let managed ← get
  let supervisor := managed.supervisor
  match applyWatchdogReport supervisor.profile supervisor.profiles report
      supervisor.sessionInstanceId stage.now with
  | .error err => throw err
  | .ok (.transition targetProfile transition) =>
    transitionTo stage targetProfile transition switch
  | .ok (.unchanged _ _) => pure ()

def writeSnapshot (config : Config) (stage : StageSurroundings)
    (switch : DesktopProfile → ManagedM Unit) : ManagedM Unit := do
  let launchState ← onSupervisor (snapshot stage.now)
  let managed ← get
  onArtifacts (persistLaunchStateWithAuthority stage launchState
    managed.supervisor.sessionInstanceId)
  if config.notifyWatchdog then
    match stage.answer with
    | .ok report => do
      onSupervisor (modify fun supervisor =>
        { supervisor with lastStreamedState := some launchState })
      applyWatchdogStreamReport stage report switch
    | .error _ => pure ()
  else
    pure ()

def activateStage (config : Config) (stages : Nat → StageSurroundings) (stage : Nat)
    (next : ManagedM Unit) : ManagedM Unit := do
  onSupervisor (modify (SessionSupervisor.launched config (stages stage)))
  writeSnapshot config (stages stage) (switchTo (stages (stage + 1)) next)

/-- `activate` and the activations it leads to. -/
def activate (config : Config) (stages : Nat → StageSurroundings) :
    (generationsLeft stage : Nat) → ManagedM Unit
  | 0, stage => activateStage config stages stage (pure ())
  | generationsLeft + 1, stage =>
    activateStage config stages stage (activate config stages generationsLeft (stage + 1))

/-- The switch after a stage, with so many generations left. -/
def switching (config : Config) (stages : Nat → StageSurroundings) (generationsLeft stage : Nat) :
    DesktopProfile → ManagedM Unit :=
  switchTo (stages (stage + 1))
    (match generationsLeft with
    | 0 => pure ()
    | generationsLeft + 1 => activate config stages generationsLeft (stage + 1))

theorem activate_eq (config : Config) (stages : Nat → StageSurroundings)
    (generationsLeft stage : Nat) :
    activate config stages generationsLeft stage = (do
      onSupervisor (modify (SessionSupervisor.launched config (stages stage)))
      writeSnapshot config (stages stage) (switching config stages generationsLeft stage)) := by
  cases generationsLeft <;> rfl

def persistWatchdogApplyOutcome (stage : StageSurroundings) (outcome : WatchdogApplyOutcome)
    (switch : DesktopProfile → ManagedM Unit) : ManagedM SessionCommand :=
  match outcome with
  | .transition targetProfile transition => do
    transitionTo stage targetProfile transition switch
    return .profileTransition transition
  | .unchanged profileId reason => return .profileUnchanged profileId reason

end ManagedSession

/-! Without a supervisor. -/

/-- What a launch without a supervisor meets: what its components become, or why they cannot be
looked at, and what the parser makes of the authority state at its path. -/
structure LaunchSurroundings where
  fromText : AuthorityFromText
  path : String
  components : Except String (List SessionLaunchComponentState)

namespace ProfileArtifacts

def loadGeneration (launch : LaunchSurroundings) (sessionInstanceId : String)
    (artifacts : ProfileArtifacts) : Except String (Nat × SessionAuthorityStartup) :=
  loadSessionAuthorityGeneration launch.fromText launch.path sessionInstanceId
    (artifacts.authority.map SessionAuthorityState.bytes)

def autoLaunch (stage : StageSurroundings) (launch : LaunchSurroundings)
    (sessionInstanceId : String) (profile : DesktopProfile) : ArtifactsM Unit := do
  let artifacts ← get
  match artifacts.loadGeneration launch sessionInstanceId with
  | .error err => throw err
  | .ok (streamGeneration, _) =>
    match launch.components with
    | .error err => throw err
    | .ok components =>
      persistLaunchStateWithAuthority stage
        (launchStateForProfile profile sessionInstanceId streamGeneration components stage.now)
        sessionInstanceId

def persistWatchdogApplyOutcome (config : Config) (stage : StageSurroundings)
    (launch : LaunchSurroundings) (sessionInstanceId : String) (outcome : WatchdogApplyOutcome) :
    ArtifactsM SessionCommand :=
  match outcome with
  | .transition targetProfile transition => do
    writeActiveProfile stage.activeFault targetProfile
    writeProfileTransition stage.transitionFault transition
    if shouldAutoLaunchTransition config then
      autoLaunch stage launch sessionInstanceId targetProfile
    return .profileTransition transition
  | .unchanged profileId reason => return .profileUnchanged profileId reason

end ProfileArtifacts

/-! Without its artifacts a session is the supervisor, and its programs are the supervisor's. -/

/-- What a program leaves of the session, without the artifacts. -/
def forgotten : EStateM.Result String ManagedSession α → EStateM.Result String SessionSupervisor α
  | .ok a managed => .ok a managed.supervisor
  | .error err managed => .error err managed.supervisor

def Follows (m : ManagedM α) (m' : SupervisorM α) : Prop :=
  ∀ managed, forgotten (m managed) = m' managed.supervisor

theorem Follows.bind {m : ManagedM α} {m' : SupervisorM α} {f : α → ManagedM β}
    {f' : α → SupervisorM β} (hm : Follows m m') (hf : ∀ a, Follows (f a) (f' a)) :
    Follows (m >>= f) (m' >>= f') := by
  intro managed
  have hfirst := hm managed
  cases hrun : m managed with
  | ok a managed' =>
    rw [hrun] at hfirst
    rw [bind_of_ok hrun, bind_of_ok hfirst.symm]
    exact hf a managed'
  | error err managed' =>
    rw [hrun] at hfirst
    rw [bind_of_error hrun, bind_of_error hfirst.symm]
    rfl

theorem follows_pure (a : α) : Follows (pure a) (pure a) := fun _ => rfl

theorem follows_onSupervisor (m : SupervisorM α) : Follows (onSupervisor m) m := by
  intro managed
  unfold onSupervisor
  cases m managed.supervisor <;> rfl

theorem follows_replace (fault : Option String) (change : ProfileArtifacts → ProfileArtifacts) :
    Follows (onArtifacts (replace (atomicWrite fault) change)) (orFail fault) := by
  intro managed
  cases fault <;> rfl

section

variable (stage)
include stage

theorem follows_persist (state : SessionLaunchState) :
    Follows (onArtifacts (persistLaunchStateWithAuthority stage state state.sessionInstanceId))
      (do
        orFail stage.launchFault
        orFail stage.authorityFault) := by
  intro managed
  rw [persistLaunchStateWithAuthority, ProfileArtifacts.writeLaunchState,
    Sessiond.writeLaunchState, if_neg (by simp), ProfileArtifacts.persistSessionAuthorityState,
    if_neg (by simp [authorityOf])]
  cases stage.launchFault with
  | some err => rfl
  | none => cases stage.authorityFault <;> rfl

theorem switchTo_eq_bind (next : SupervisorM Unit) (profile : DesktopProfile) :
    Sessiond.switchTo stage next profile = (do
      Sessiond.switchTo stage (pure ()) profile
      next) := by
  funext supervisor
  unfold Sessiond.switchTo
  rw [bind_assoc]
  refine congrFun (congrArg _ (funext fun _ => ?_)) supervisor
  rw [bind_assoc]
  refine congrArg _ (funext fun stopped => ?_)
  cases usizeChecked (stopped.streamGeneration + 1) <;> rfl

theorem switchTo_follows {next : ManagedM Unit} {next' : SupervisorM Unit}
    (hnext : Follows next next') (profile : DesktopProfile) :
    Follows (ManagedSession.switchTo stage next profile)
      (Sessiond.switchTo stage next' profile) := by
  rw [switchTo_eq_bind]
  exact Follows.bind (follows_onSupervisor _) fun _ => hnext

theorem applyWatchdogStreamReport_follows (report : SessionWatchdogReport)
    {switch : DesktopProfile → ManagedM Unit}
    (hswitch : ∀ profile, Follows (switch profile) (switch' profile)) :
    Follows (ManagedSession.applyWatchdogStreamReport stage report switch)
      (Sessiond.applyWatchdogStreamReport stage report switch') := by
  intro managed
  rw [ManagedSession.applyWatchdogStreamReport, Sessiond.applyWatchdogStreamReport, bind_get,
    bind_get]
  cases applyWatchdogReport managed.supervisor.profile managed.supervisor.profiles report
      managed.supervisor.sessionInstanceId stage.now with
  | error err => rfl
  | ok outcome =>
    cases outcome with
    | unchanged => rfl
    | transition target transition =>
      refine (Follows.bind (follows_replace _ _) fun _ => ?_) managed
      exact Follows.bind (follows_replace _ _) fun _ => hswitch target

end

theorem writeSnapshot_follows (config : Config) (stage : StageSurroundings)
    {switch : DesktopProfile → ManagedM Unit}
    (hswitch : ∀ profile, Follows (switch profile) (switch' profile)) :
    Follows (ManagedSession.writeSnapshot config stage switch)
      (Sessiond.writeSnapshot config stage switch') := by
  intro managed
  rw [ManagedSession.writeSnapshot, Sessiond.writeSnapshot]
  rcases snapshot_run stage.now managed.supervisor with ⟨-, hsnapshot⟩ | ⟨-, err, hsnapshot⟩
  · have hrun : onSupervisor (snapshot stage.now) managed =
        .ok (managed.supervisor.numbered.launchState stage.now)
          { managed with supervisor := managed.supervisor.numbered } := by
      unfold onSupervisor
      rw [hsnapshot]
    rw [bind_of_ok hrun, bind_of_ok hsnapshot, bind_get, ← bind_assoc]
    refine (Follows.bind (follows_persist stage _) fun _ => ?_) { managed with
      supervisor := managed.supervisor.numbered }
    split_ifs
    · cases stage.answer with
      | error err => exact follows_pure ()
      | ok report =>
        refine Follows.bind (follows_onSupervisor _) fun _ => ?_
        exact applyWatchdogStreamReport_follows stage report hswitch
    · exact follows_pure ()
  · have hrun : onSupervisor (snapshot stage.now) managed = .error err managed := by
      unfold onSupervisor
      rw [hsnapshot]
    rw [bind_of_error hrun, bind_of_error hsnapshot]
    rfl

/-- Every activation is that of the supervisor alone. -/
theorem activate_follows (config : Config) (stages : Nat → StageSurroundings)
    (generationsLeft stage : Nat) :
    Follows (ManagedSession.activate config stages generationsLeft stage)
      (Sessiond.activate config stages generationsLeft stage) := by
  induction generationsLeft generalizing stage with
  | zero =>
    refine Follows.bind (follows_onSupervisor _) fun _ => ?_
    exact writeSnapshot_follows config (stages stage)
      (switchTo_follows (stages (stage + 1)) (follows_pure ()))
  | succ generationsLeft ih =>
    refine Follows.bind (follows_onSupervisor _) fun _ => ?_
    exact writeSnapshot_follows config (stages stage)
      (switchTo_follows (stages (stage + 1)) (ih (stage + 1)))

/-- The switch of an answer or a command is that of the supervisor alone. -/
theorem switching_follows (config : Config) (stages : Nat → StageSurroundings)
    (generationsLeft stage : Nat) (profile : DesktopProfile) :
    Follows (ManagedSession.switching config stages (generationsLeft + 1) stage profile)
      (Sessiond.switchTo (stages (stage + 1))
        (Sessiond.activate config stages generationsLeft (stage + 1)) profile) :=
  switchTo_follows _ (activate_follows config stages generationsLeft (stage + 1)) profile

/-! What the artifacts and the supervisor have to agree on. -/

/-- The artifacts are those of a profile, at a generation. -/
structure ProfileArtifacts.Of (artifacts : ProfileArtifacts) (profileId : String)
    (streamGeneration : Nat) : Prop where
  active : ∃ profile, artifacts.activeProfile = some profile ∧ profile.id = profileId
  launch : ∃ state, artifacts.launchState = some state ∧ state.profileId = profileId ∧
    state.generation = streamGeneration
  authority : ∃ record, artifacts.authority = some record ∧ record.activeProfileId = profileId ∧
    record.streamGeneration.toNat = streamGeneration

def ManagedSession.OneProfile (managed : ManagedSession) : Prop :=
  managed.artifacts.Of managed.supervisor.profile.id managed.supervisor.streamGeneration

/-- A program that fails leaves everything with one profile. -/
def AllOrNothing {σ : Type} (one : σ → Prop) (m : EStateM String σ α) (s : σ) : Prop :=
  ∀ err s', m s = .error err s' → one s'

/-- Once the active profile of an outcome is written, the rest is written as well: the
transition, and with a generation that is left the launch state and the authority state. So it
is with the outcomes that follow. -/
def CarriedOut (config : Config) (profiles : List DesktopProfile) (sessionInstanceId : String)
    (stages : Nat → StageSurroundings) :
    (generationsLeft stage : Nat) → WatchdogApplyOutcome → Prop
  | _, _, .unchanged _ _ => True
  | 0, stage, .transition _ _ => (stages stage).activeFault ≠ none
  | generationsLeft + 1, stage, .transition targetProfile _ =>
    (stages stage).activeFault = none →
      (stages stage).transitionFault = none ∧
        ((stages (stage + 1)).launchFault = none ∧ (stages (stage + 1)).authorityFault = none) ∧
        ∀ report, config.notifyWatchdog = true → (stages (stage + 1)).answer = .ok report →
          ∀ outcome, applyWatchdogReport targetProfile profiles report sessionInstanceId
              (stages (stage + 1)).now = .ok outcome →
            CarriedOut config profiles sessionInstanceId stages generationsLeft (stage + 1)
              outcome

/-- The same without a supervisor, where the generation is loaded. -/
def LaunchedWhole (config : Config) (stage : StageSurroundings) (launch : LaunchSurroundings)
    (sessionInstanceId : String) (artifacts : ProfileArtifacts) : WatchdogApplyOutcome → Prop
  | .unchanged _ _ => True
  | .transition _ _ =>
    stage.activeFault = none →
      stage.transitionFault = none ∧
        (shouldAutoLaunchTransition config = true →
          (∃ loaded, artifacts.loadGeneration launch sessionInstanceId = .ok loaded) ∧
            (∃ components, launch.components = .ok components) ∧
            stage.launchFault = none ∧ stage.authorityFault = none)

theorem carriedOut_of_fault {config : Config} {generationsLeft stage : Nat}
    (outcome : WatchdogApplyOutcome) (h : (stages stage).activeFault ≠ none) :
    CarriedOut config profiles sessionInstanceId stages generationsLeft stage outcome := by
  cases outcome with
  | unchanged => cases generationsLeft <;> trivial
  | transition =>
    cases generationsLeft with
    | zero => exact h
    | succ => exact fun hnone => absurd hnone h

/-! How the programs end. -/

variable {config : Config} {managed managed' : ManagedSession}

@[simp] theorem ends_onArtifacts {m : ArtifactsM α} {Q : α → ManagedSession → Prop} :
    Ends E (onArtifacts m) managed Q ↔
      Ends (fun err artifacts => E err { managed with artifacts }) m managed.artifacts
        fun a artifacts => Q a { managed with artifacts } := by
  unfold Ends onArtifacts
  cases m managed.artifacts <;> rfl

@[simp] theorem ends_onSupervisor {m : SupervisorM α} {Q : α → ManagedSession → Prop} :
    Ends E (onSupervisor m) managed Q ↔
      Ends (fun err supervisor => E err { managed with supervisor }) m managed.supervisor
        fun a supervisor => Q a { managed with supervisor } := by
  unfold Ends onSupervisor
  cases m managed.supervisor <;> rfl

theorem ProfileArtifacts.ends_replace {E : String → ProfileArtifacts → Prop} {fault : Option String}
    {change : ProfileArtifacts → ProfileArtifacts} :
    Ends E (replace (atomicWrite fault) change) artifacts Q ↔
      (∀ err, fault = some err → E err artifacts) ∧ (fault = none → Q () (change artifacts)) := by
  unfold replace atomicWrite
  cases fault <;> simp

/-- The launch state goes first; the authority state is as before when it cannot be written. -/
theorem ProfileArtifacts.ends_persistLaunchStateWithAuthority {E : String → ProfileArtifacts → Prop}
    {state : SessionLaunchState} :
    Ends E (persistLaunchStateWithAuthority stage state state.sessionInstanceId) artifacts Q ↔
      (∀ err, stage.launchFault = some err → E err artifacts) ∧
        (stage.launchFault = none →
          (∀ err, stage.authorityFault = some err →
            E err { artifacts with launchState := some state }) ∧
          (stage.authorityFault = none →
            Q () { artifacts with
              launchState := some state
              authority :=
                some (authorityOf state state.sessionInstanceId (.ofNat stage.now)) })) := by
  rw [persistLaunchStateWithAuthority, ends_bind, ProfileArtifacts.writeLaunchState,
    Sessiond.writeLaunchState, if_neg (by simp), ends_replace,
    ProfileArtifacts.persistSessionAuthorityState, if_neg (by simp [authorityOf]), ends_replace]

/-- The condition holds when the program returns; when it fails, it is what all belonging to one
profile comes down to. -/
def DecidedBy (condition : Prop) {σ : Type} (one : σ → Prop) (m : EStateM String σ α) (s : σ) :
    Prop :=
  Ends (fun _ s' => one s' ↔ condition) m s fun _ _ => condition

theorem DecidedBy.iff {condition : Prop} {σ : Type} {one : σ → Prop} {m : EStateM String σ α}
    {s : σ} (h : DecidedBy condition one m s) : AllOrNothing one m s ↔ condition := by
  unfold AllOrNothing
  cases hm : m s with
  | ok a s' => simp [h.ok hm]
  | error err s' => simpa using h.error hm

theorem DecidedBy.congr {condition condition' : Prop} {σ : Type} {one : σ → Prop}
    {m : EStateM String σ α} {s : σ} (h : DecidedBy condition one m s)
    (hiff : condition ↔ condition') : DecidedBy condition' one m s := by
  rw [← hiff]
  exact h

theorem DecidedBy.return {condition : Prop} {σ : Type} {one : σ → Prop} {m : EStateM String σ α}
    {s : σ} (h : DecidedBy condition one m s) (b : β) :
    DecidedBy condition one (m >>= fun _ => pure b) s :=
  Ends.then h fun _ _ hcondition => hcondition

namespace ManagedSession

/-- Nothing belongs together while the active profile is another one than that of the authority
state. -/
theorem not_oneProfile {profile : DesktopProfile}
    (hactive : managed.artifacts.activeProfile = some profile)
    (hauthority : managed.artifacts.authority = some record)
    (hother : profile.id ≠ record.activeProfileId) : ¬ managed.OneProfile := by
  intro h
  obtain ⟨profile', hactive', hid⟩ := h.active
  obtain ⟨record', hauthority', hrecord, -⟩ := h.authority
  obtain rfl := Option.some.inj (hactive.symm.trans hactive')
  obtain rfl := Option.some.inj (hauthority.symm.trans hauthority')
  exact hother (hid.trans hrecord.symm)

/-- The generations after that of the supervisor. -/
def generationsLeft (managed : ManagedSession) : Nat :=
  u64Max - managed.supervisor.streamGeneration

theorem OneProfile.generationsLeft (h : managed.OneProfile) :
    managed.supervisor.streamGeneration + managed.generationsLeft = u64Max := by
  obtain ⟨record, -, -, hgeneration⟩ := h.authority
  have hbound := record.streamGeneration.toNat_lt
  have hmax : u64Max = 2 ^ 64 - 1 := rfl
  unfold ManagedSession.generationsLeft
  omega

/-- The supervisor was switched and the authority state is that of the profile before. -/
structure Behind (managed : ManagedSession) : Prop where
  active : ∃ profile, managed.artifacts.activeProfile = some profile ∧
    profile.id = managed.supervisor.profile.id
  authority : ∃ record, managed.artifacts.authority = some record ∧
    managed.supervisor.profile.id ≠ record.activeProfileId
  sequence : managed.supervisor.streamSequence = 0
  generation : managed.supervisor.streamGeneration ≤ u64Max

/-- The snapshot after a switch either catches up or leaves the session split. -/
theorem writeSnapshot_decided (h : managed.Behind) {switch : DesktopProfile → ManagedM Unit}
    (rest : SessionWatchdogReport → Prop)
    (hreport : ∀ report managed', stage.answer = .ok report → managed'.OneProfile →
      managed.supervisor.Same managed'.supervisor →
        DecidedBy (rest report) OneProfile (applyWatchdogStreamReport stage report switch)
          managed') :
    DecidedBy ((stage.launchFault = none ∧ stage.authorityFault = none) ∧
        ∀ report, config.notifyWatchdog = true → stage.answer = .ok report → rest report)
      OneProfile (writeSnapshot config stage switch) managed := by
  obtain ⟨profile, hactive, hprofile⟩ := h.active
  obtain ⟨record, hauthority, hother⟩ := h.authority
  have hsplit : ∀ launchState supervisor, ¬ OneProfile
      ⟨{ managed.artifacts with launchState }, supervisor⟩ :=
    fun launchState supervisor => not_oneProfile hactive hauthority (hprofile ▸ hother)
  have hbound : managed.supervisor.streamSequence < u64Max := by
    rw [h.sequence]
    decide
  rw [DecidedBy, writeSnapshot, ends_bind, ends_onSupervisor]
  rcases snapshot_run stage.now managed.supervisor with ⟨-, hsnapshot⟩ | ⟨hnot, -⟩
  · rw [ends_of_ok hsnapshot, ends_bind, ends_get, ends_bind, ends_onArtifacts]
    refine ends_persistLaunchStateWithAuthority.mpr ⟨fun err herr => ?_, fun hlaunch => ?_⟩
    · exact iff_of_false (hsplit _ _) fun hall => by simp [hall.1.1] at herr
    refine ⟨fun err herr => ?_, fun hpersisted => ?_⟩
    · exact iff_of_false (hsplit _ _) fun hall => by simp [hall.1.2] at herr
    have hone : ∀ lastStreamedState, OneProfile
        ⟨{ managed.artifacts with
            launchState := some (managed.supervisor.numbered.launchState stage.now)
            authority := some (authorityOf (managed.supervisor.numbered.launchState stage.now)
              managed.supervisor.sessionInstanceId (.ofNat stage.now)) },
          { managed.supervisor.numbered with lastStreamedState }⟩ := by
      refine fun lastStreamedState => ⟨⟨profile, hactive, hprofile⟩, ⟨_, rfl, rfl, rfl⟩,
        ⟨_, rfl, rfl, ?_⟩⟩
      exact Nat.mod_eq_of_lt (Nat.lt_succ_of_le h.generation)
    split_ifs with hnotify
    · cases hanswer : stage.answer with
      | error err => exact ⟨⟨hlaunch, hpersisted⟩, fun report _ hreport => by cases hreport⟩
      | ok report =>
        dsimp only
        rw [ends_bind, ends_onSupervisor, ends_modify]
        refine (hreport report _ hanswer (hone _) ⟨rfl, rfl, rfl, rfl⟩).congr ?_
        simp [hlaunch, hpersisted, hnotify]
    · exact ⟨⟨hlaunch, hpersisted⟩, fun report hnotified => absurd hnotified hnotify⟩
  · exact absurd hbound hnot

/-- A transition to another profile, with so many generations left. -/
theorem transitionTo_decided {generationsLeft stage : Nat} {target : DesktopProfile}
    {transition : SessionProfileTransition} (hone : managed.OneProfile)
    (hleft : managed.supervisor.streamGeneration + generationsLeft = u64Max)
    (hother : target.id ≠ managed.supervisor.profile.id)
    (hnext : ∀ left report managed', generationsLeft = left + 1 → managed'.OneProfile →
      managed'.supervisor.profiles = managed.supervisor.profiles →
      managed'.supervisor.sessionInstanceId = managed.supervisor.sessionInstanceId →
      managed'.supervisor.profile = target →
      managed'.supervisor.streamGeneration + left = u64Max →
        DecidedBy (∀ outcome, applyWatchdogReport target managed.supervisor.profiles report
            managed.supervisor.sessionInstanceId (stages (stage + 1)).now = .ok outcome →
              CarriedOut config managed.supervisor.profiles managed.supervisor.sessionInstanceId
                stages left (stage + 1) outcome)
          OneProfile (applyWatchdogStreamReport (stages (stage + 1)) report
            (switching config stages left (stage + 1))) managed') :
    DecidedBy (CarriedOut config managed.supervisor.profiles managed.supervisor.sessionInstanceId
        stages generationsLeft stage (.transition target transition))
      OneProfile (transitionTo (stages stage) target transition
        (switching config stages generationsLeft stage)) managed := by
  obtain ⟨record, hauthority, hrecord, hgeneration⟩ := hone.authority
  rw [DecidedBy, transitionTo, ends_bind, ends_onArtifacts, writeActiveProfile, ends_replace]
  refine ⟨fun err herr => iff_of_true hone ?_, fun hactive => ?_⟩
  · cases generationsLeft <;> simp [CarriedOut, herr]
  have hsplit : ∀ transition supervisor, ¬ OneProfile
      ⟨{ managed.artifacts with activeProfile := some target, transition }, supervisor⟩ :=
    fun transition supervisor => not_oneProfile rfl hauthority (hrecord ▸ hother)
  rw [ends_bind, ends_onArtifacts, writeProfileTransition, ends_replace]
  refine ⟨fun err herr => iff_of_false (hsplit _ _) fun hcarried => ?_, fun htransition => ?_⟩
  · cases generationsLeft with
    | zero => exact hcarried hactive
    | succ left => simp [(hcarried hactive).1] at herr
  unfold switching
  rw [switchTo, ends_bind, ends_onSupervisor]
  cases generationsLeft with
  | zero =>
    refine switchTo_ends (fun err supervisor _ => ?_) fun hbound => ?_
    · exact iff_of_false (hsplit _ _) fun hcarried => hcarried hactive
    · exact absurd hbound (by dsimp only; omega)
  | succ left =>
    refine switchTo_goes (by dsimp only; omega) fun supervisor hswitched => ?_
    obtain ⟨hprofiles, hstanding, hsession, hsequence, -⟩ := hswitched
    have hprofile : supervisor.profile = target := congrArg Standing.profile hstanding
    have hnumber : supervisor.streamGeneration = managed.supervisor.streamGeneration + 1 :=
      congrArg Standing.generation hstanding
    dsimp only at hprofiles hsession ⊢
    rw [ends_pure, activate_eq, ends_bind, ends_onSupervisor, ends_modify]
    refine (writeSnapshot_decided ?_ (fun report => ∀ outcome,
        applyWatchdogReport target managed.supervisor.profiles report
          managed.supervisor.sessionInstanceId (stages (stage + 1)).now = .ok outcome →
            CarriedOut config managed.supervisor.profiles managed.supervisor.sessionInstanceId
              stages left (stage + 1) outcome) ?_).congr ?_
    · have hid : supervisor.profile.id = target.id := congrArg DesktopProfile.id hprofile
      refine ⟨⟨target, rfl, hid.symm⟩, ⟨record, hauthority, ?_⟩, hsequence, ?_⟩
      · exact hid.trans_ne (hrecord ▸ hother)
      · dsimp only [SessionSupervisor.launched]
        omega
    · intro report managed' _ hone' hsame
      refine hnext left report managed' rfl hone' (hsame.profiles.trans hprofiles)
        (hsame.session.trans hsession) (hsame.profile.trans hprofile) ?_
      rw [hsame.generation]
      dsimp only [SessionSupervisor.launched]
      omega
    · simp [CarriedOut, hactive, htransition]

/-- An outcome of a report on the active profile, with so many generations left. -/
theorem applyWatchdogStreamReport_decided (stages : Nat → StageSurroundings)
    (generationsLeft stage : Nat) (report : SessionWatchdogReport) (hone : managed.OneProfile)
    (hprofiles : managed.supervisor.profiles = profiles)
    (hsession : managed.supervisor.sessionInstanceId = sessionInstanceId)
    (hleft : managed.supervisor.streamGeneration + generationsLeft = u64Max) :
    DecidedBy (∀ outcome, applyWatchdogReport managed.supervisor.profile profiles report
        sessionInstanceId (stages stage).now = .ok outcome →
          CarriedOut config profiles sessionInstanceId stages generationsLeft stage outcome)
      OneProfile (applyWatchdogStreamReport (stages stage) report
        (switching config stages generationsLeft stage)) managed := by
  induction generationsLeft using Nat.strong_induction_on generalizing stage report managed with
  | _ generationsLeft ih =>
    subst hprofiles hsession
    rw [DecidedBy, applyWatchdogStreamReport, ends_bind, ends_get]
    dsimp only
    cases happly : applyWatchdogReport managed.supervisor.profile managed.supervisor.profiles report
        managed.supervisor.sessionInstanceId (stages stage).now with
    | error err => exact iff_of_true hone fun outcome houtcome => by cases houtcome
    | ok outcome =>
      cases outcome with
      | unchanged profileId reason =>
        rintro _ ⟨⟩
        simp [CarriedOut]
      | transition target transition =>
        have hother := degradesTo_other (applyWatchdogReport_transition happly).2.2
        refine (transitionTo_decided hone hleft hother ?_).congr (by simp)
        rintro left report managed' rfl hone' hprofiles hsession rfl hleft'
        exact ih left (Nat.lt_succ_self left) (stage + 1) report hone' hprofiles hsession hleft'

/-- What comes of a report, whichever list of profiles its target was taken from. -/
theorem persistWatchdogApplyOutcome_decided (stages : Nat → StageSurroundings)
    (generationsLeft : Nat) (hone : managed.OneProfile)
    (hleft : managed.supervisor.streamGeneration + generationsLeft = u64Max)
    (houtcome : applyWatchdogReport managed.supervisor.profile profiles report
      managed.supervisor.sessionInstanceId (stages 0).now = .ok outcome) :
    DecidedBy (CarriedOut config managed.supervisor.profiles managed.supervisor.sessionInstanceId
        stages generationsLeft 0 outcome)
      OneProfile (persistWatchdogApplyOutcome (stages 0) outcome
        (switching config stages generationsLeft 0)) managed := by
  cases outcome with
  | unchanged profileId reason =>
    rw [DecidedBy, persistWatchdogApplyOutcome, ends_pure]
    simp [CarriedOut]
  | transition target transition =>
    have hother := degradesTo_other (applyWatchdogReport_transition houtcome).2.2
    refine DecidedBy.return (transitionTo_decided hone hleft hother ?_) _
    rintro left report managed' rfl hone' hprofiles hsession rfl hleft'
    exact applyWatchdogStreamReport_decided stages left 1 report hone' hprofiles hsession hleft'

end ManagedSession

namespace ProfileArtifacts

/-- The artifacts are all those of some profile. -/
def Whole (artifacts : ProfileArtifacts) : Prop :=
  ∃ profileId streamGeneration, artifacts.Of profileId streamGeneration

theorem not_whole {profile : DesktopProfile} (hactive : artifacts.activeProfile = some profile)
    (hauthority : artifacts.authority = some record)
    (hother : profile.id ≠ record.activeProfileId) : ¬ artifacts.Whole := by
  rintro ⟨profileId, streamGeneration, h⟩
  obtain ⟨profile', hactive', hid⟩ := h.active
  obtain ⟨record', hauthority', hrecord, -⟩ := h.authority
  obtain rfl := Option.some.inj (hactive.symm.trans hactive')
  obtain rfl := Option.some.inj (hauthority.symm.trans hauthority')
  exact hother (hid.trans hrecord.symm)

/-- A launch catches up with the active profile, or the artifacts stay split. -/
theorem autoLaunch_decided (stage : StageSurroundings) (launch : LaunchSurroundings)
    (sessionInstanceId : String) (target : DesktopProfile) (artifacts : ProfileArtifacts)
    (hsplit : ∀ launchState, ¬ Whole { artifacts with launchState }) :
    DecidedBy ((∃ loaded, artifacts.loadGeneration launch sessionInstanceId = .ok loaded) ∧
        (∃ components, launch.components = .ok components) ∧
        stage.launchFault = none ∧ stage.authorityFault = none)
      Whole (autoLaunch stage launch sessionInstanceId target) artifacts := by
  rw [DecidedBy, autoLaunch, ends_bind, ends_get]
  cases hload : artifacts.loadGeneration launch sessionInstanceId with
  | error err => exact iff_of_false (hsplit artifacts.launchState) fun hall => by simp at hall
  | ok loaded =>
    obtain ⟨streamGeneration, startup⟩ := loaded
    dsimp only
    cases hcomponents : launch.components with
    | error err => exact iff_of_false (hsplit artifacts.launchState) fun hall => by simp at hall
    | ok components =>
      refine ends_persistLaunchStateWithAuthority.mpr ⟨fun err herr => ?_, fun hlaunch => ?_⟩
      · exact iff_of_false (hsplit artifacts.launchState) fun hall => by simp [hall.2.2.1] at herr
      refine ⟨fun err herr => ?_, fun hauthority => ?_⟩
      · exact iff_of_false (hsplit _) fun hall => by simp [hall.2.2.2] at herr
      · exact ⟨⟨_, rfl⟩, ⟨_, rfl⟩, hlaunch, hauthority⟩

theorem persistWatchdogApplyOutcome_decided (launch : LaunchSurroundings) {profile : DesktopProfile}
    (hwhole : artifacts.Whole) (hprofile : artifacts.activeProfile = some profile)
    (houtcome : applyWatchdogReport profile profiles report sessionInstanceId stage.now =
      .ok outcome) :
    DecidedBy (LaunchedWhole config stage launch sessionInstanceId artifacts outcome) Whole
      (persistWatchdogApplyOutcome config stage launch sessionInstanceId outcome) artifacts := by
  obtain ⟨profileId, streamGeneration, hof⟩ := hwhole
  obtain ⟨profile', hactive', hid⟩ := hof.active
  obtain rfl := Option.some.inj (hprofile.symm.trans hactive')
  obtain ⟨record, hauthority, hrecord, -⟩ := hof.authority
  cases outcome with
  | unchanged profileId reason =>
    rw [DecidedBy, persistWatchdogApplyOutcome, ends_pure]
    trivial
  | transition target transition =>
    have hother := degradesTo_other (applyWatchdogReport_transition houtcome).2.2
    have hsplit : ∀ transition launchState, ¬ Whole
        { artifacts with activeProfile := some target, transition, launchState } :=
      fun transition launchState => not_whole rfl hauthority (by rw [hrecord, ← hid]; exact hother)
    rw [DecidedBy, persistWatchdogApplyOutcome, ends_bind, writeActiveProfile, ends_replace]
    refine ⟨fun err herr => iff_of_true ⟨_, _, hof⟩ ?_, fun hactive => ?_⟩
    · exact fun hnone => by simp [hnone] at herr
    rw [ends_bind, writeProfileTransition, ends_replace]
    refine ⟨fun err herr => iff_of_false (hsplit _ _) fun hall => ?_, fun htransition => ?_⟩
    · simp [(hall hactive).1] at herr
    have hlaunched := autoLaunch_decided stage launch sessionInstanceId target
      { artifacts with activeProfile := some target, transition := some transition }
      fun launchState => hsplit (some transition) launchState
    dsimp only
    split_ifs with hauto
    · refine (hlaunched.return _).congr ?_
      simp [LaunchedWhole, loadGeneration, hactive, htransition, hauto]
    · exact fun _ => ⟨htransition, fun hauto' => absurd hauto' hauto⟩

end ProfileArtifacts

/-- Whatever fails in a transition, all still belongs to one profile, just when every outcome
whose active profile was written is carried out: with a supervisor, for the answer to a snapshot
and for a command, and without one. -/
theorem profileTransition_allOrNothing_iff (config : Config) (stages : Nat → StageSurroundings)
    (launch : LaunchSurroundings) (profiles : List DesktopProfile)
    (report : SessionWatchdogReport) (managed : ManagedSession) (h : managed.OneProfile) :
    (AllOrNothing ManagedSession.OneProfile
        (ManagedSession.applyWatchdogStreamReport (stages 0) report
          (ManagedSession.switching config stages managed.generationsLeft 0)) managed ↔
      ∀ outcome, applyWatchdogReport managed.supervisor.profile managed.supervisor.profiles
          report managed.supervisor.sessionInstanceId (stages 0).now = .ok outcome →
        CarriedOut config managed.supervisor.profiles managed.supervisor.sessionInstanceId stages
          managed.generationsLeft 0 outcome) ∧
    (∀ outcome, applyWatchdogReport managed.supervisor.profile profiles report
        managed.supervisor.sessionInstanceId (stages 0).now = .ok outcome →
      (AllOrNothing ManagedSession.OneProfile
          (ManagedSession.persistWatchdogApplyOutcome (stages 0) outcome
            (ManagedSession.switching config stages managed.generationsLeft 0)) managed ↔
        CarriedOut config managed.supervisor.profiles managed.supervisor.sessionInstanceId stages
          managed.generationsLeft 0 outcome)) ∧
    ∀ profile outcome, managed.artifacts.activeProfile = some profile →
      applyWatchdogReport profile profiles report managed.supervisor.sessionInstanceId
        (stages 0).now = .ok outcome →
      (AllOrNothing ProfileArtifacts.Whole
          (ProfileArtifacts.persistWatchdogApplyOutcome config (stages 0) launch
            managed.supervisor.sessionInstanceId outcome) managed.artifacts ↔
        LaunchedWhole config (stages 0) launch managed.supervisor.sessionInstanceId
          managed.artifacts outcome) := by
  have hleft := h.generationsLeft
  refine ⟨?_, fun outcome houtcome => ?_, fun profile outcome hprofile houtcome => ?_⟩
  · exact (ManagedSession.applyWatchdogStreamReport_decided stages _ 0 report h rfl rfl hleft).iff
  · exact (ManagedSession.persistWatchdogApplyOutcome_decided stages _ h hleft houtcome).iff
  · exact (ProfileArtifacts.persistWatchdogApplyOutcome_decided launch ⟨_, _, h⟩ hprofile
      houtcome).iff

/-- The shell is active and all of its artifacts are written. -/
def managedShell : ManagedSession where
  supervisor :=
    { SessionSupervisor.new shellProfile [rescueProfile, shellProfile] "seat-0" 1 fun _ => none with
      streamSequence := 1 }
  artifacts :=
    { activeProfile := some shellProfile
      launchState := some (launchStateForProfile shellProfile "seat-0" 1 [] 0)
      authority := some (authorityOf (launchStateForProfile shellProfile "seat-0" 1 [] 0)
        "seat-0" 0) }

theorem managedShell_oneProfile : managedShell.OneProfile :=
  ⟨⟨_, rfl, rfl⟩, ⟨_, rfl, rfl, rfl⟩, ⟨_, rfl, rfl, rfl⟩⟩

/-- The watchdog's report on the shell, which is not installed. -/
def shellReport : SessionWatchdogReport :=
  inspectLaunchState (fun _ => true) 0 (managedShell.supervisor.launchState 0)

/-- Writes of the first stage that fail. -/
def failingWrites (activeFault transitionFault : Option String) : Nat → StageSurroundings :=
  fun _ =>
    { resolve := fun _ => none
      answer := .error "watchdog is not there"
      activeFault, transitionFault }

def shellOutcome : WatchdogApplyOutcome :=
  .transition rescueProfile
    (profileTransition shellProfile rescueProfile (degradedTriggerComponentIds shellReport) 0)

/-- Before the active profile is written a failing transition does no harm. -/
theorem unwrittenProfile_keeps :
    let stages := failingWrites (some "no space left") none
    AllOrNothing ManagedSession.OneProfile
        (ManagedSession.applyWatchdogStreamReport (stages 0) shellReport
          (ManagedSession.switching {} stages managedShell.generationsLeft 0)) managedShell ∧
      AllOrNothing ManagedSession.OneProfile
        (ManagedSession.persistWatchdogApplyOutcome (stages 0) shellOutcome
          (ManagedSession.switching {} stages managedShell.generationsLeft 0)) managedShell ∧
      AllOrNothing ProfileArtifacts.Whole
        (ProfileArtifacts.persistWatchdogApplyOutcome {} (stages 0)
          ⟨fun _ => .error "", "", .ok []⟩ "seat-0" shellOutcome) managedShell.artifacts := by
  intro stages
  obtain ⟨hanswer, hcommand, hlaunch⟩ := profileTransition_allOrNothing_iff {} stages
    ⟨fun _ => .error "", "", .ok []⟩ [rescueProfile, shellProfile] shellReport managedShell
    managedShell_oneProfile
  have hfault : (stages 0).activeFault ≠ none := by simp [stages, failingWrites]
  refine ⟨hanswer.mpr fun outcome _ => carriedOut_of_fault outcome hfault, ?_, ?_⟩
  · exact (hcommand shellOutcome rfl).mpr (carriedOut_of_fault shellOutcome hfault)
  · exact (hlaunch shellProfile shellOutcome rfl rfl).mpr fun hnone => absurd hnone hfault

/-- The active profile is the rescue profile, and all the rest is the shell's. -/
theorem writtenProfile_split :
    managedShell.OneProfile ∧
      ∃ err managed, ManagedSession.applyWatchdogStreamReport
          (failingWrites none (some "no space left") 0) shellReport
          (ManagedSession.switching {} (failingWrites none (some "no space left"))
            managedShell.generationsLeft 0) managedShell = .error err managed ∧
        managed.artifacts.activeProfile = some rescueProfile ∧
        managed.supervisor.profile = shellProfile ∧ ¬ managed.OneProfile := by
  refine ⟨managedShell_oneProfile, "no space left", { managedShell with
    artifacts := { managedShell.artifacts with activeProfile := some rescueProfile } }, ?_, rfl,
    rfl, ?_⟩
  · rfl
  · exact ManagedSession.not_oneProfile rfl rfl (by decide)

end TuffXwin.Sessiond
