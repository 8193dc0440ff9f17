import Mathlib.Data.List.Nodup
import TuffXwin.Sessiond.Supervisor

/-! How far one call goes down from a profile to degraded ones. The watchdog can ask for every
step there is, and only a profile that degrades to itself is stopped; two that degrade to each
other are activated in turn until the generations run out. -/

namespace TuffXwin.Sessiond
open Lib Watchdog

variable {config : Config} {supervisor : SessionSupervisor} {profiles : List DesktopProfile}
  {E : String → SessionSupervisor → Prop} {Q : Unit → SessionSupervisor → Prop}
  {stage : StageSurroundings} {next : SupervisorM Unit} {target : DesktopProfile} {count : Nat}
variable {switch : DesktopProfile → SupervisorM Unit} {sessionInstanceId : String}
  {restartLimit : Nat} {wait : TryWait} {spawned : Option Nat} {runtime : RuntimeComponent}
variable {steps : Nat}

/-- The active profile and its generation. -/
structure Standing where
  profile : DesktopProfile
  generation : Nat
  deriving DecidableEq, Repr

variable {reached start : Standing}

/-- Where an answer of the watchdog can take the session. -/
def fallback (config : Config) (profiles : List DesktopProfile) (standing : Standing) :
    Option Standing :=
  if config.notifyWatchdog ∧ standing.profile.sessionComponents ≠ [] ∧
      standing.generation < u64Max then
    (degradesTo profiles standing.profile).map fun target => ⟨target, standing.generation + 1⟩
  else none

def descent (config : Config) (profiles : List DesktopProfile) :
    Nat → Standing → Option Standing
  | 0, standing => some standing
  | steps + 1, standing => (fallback config profiles standing).bind (descent config profiles steps)

theorem descent_succ_none {standing : Standing}
    (h : descent config profiles steps standing = none) :
    descent config profiles (steps + 1) standing = none := by
  induction steps generalizing standing with
  | zero => cases h
  | succ steps ih =>
    rw [descent]
    cases hfallback : fallback config profiles standing with
    | none => rfl
    | some next =>
      rw [descent, hfallback] at h
      exact ih h

theorem descent_succ (config : Config) (profiles : List DesktopProfile) (steps : Nat)
    (standing : Standing) :
    descent config profiles (steps + 1) standing =
      (descent config profiles steps standing).bind (fallback config profiles) := by
  induction steps generalizing standing with
  | zero =>
    cases hfallback : fallback config profiles standing with
    | none => simp [descent, hfallback]
    | some next => simp [descent, hfallback]
  | succ steps ih =>
    rw [descent]
    cases hfallback : fallback config profiles standing with
    | none => simp [descent, hfallback]
    | some next =>
      rw [Option.bind_some, ih]
      simp [descent, hfallback]

def SessionSupervisor.standing (supervisor : SessionSupervisor) : Standing :=
  ⟨supervisor.profile, supervisor.streamGeneration⟩

/-- What a snapshot and a look at the processes leave alone. -/
structure SessionSupervisor.Same (supervisor supervisor' : SessionSupervisor) : Prop where
  profiles : supervisor'.profiles = supervisor.profiles
  standing : supervisor'.standing = supervisor.standing
  session : supervisor'.sessionInstanceId = supervisor.sessionInstanceId
  activated : supervisor'.activated = supervisor.activated

namespace SessionSupervisor.Same

variable {supervisor supervisor' supervisor'' : SessionSupervisor}

theorem refl : supervisor.Same supervisor := ⟨rfl, rfl, rfl, rfl⟩

theorem trans (h : supervisor.Same supervisor') (h' : supervisor'.Same supervisor'') :
    supervisor.Same supervisor'' :=
  ⟨h'.profiles.trans h.profiles, h'.standing.trans h.standing, h'.session.trans h.session,
    h'.activated.trans h.activated⟩

theorem profile (h : supervisor.Same supervisor') : supervisor'.profile = supervisor.profile :=
  congrArg Standing.profile h.standing

theorem generation (h : supervisor.Same supervisor') :
    supervisor'.streamGeneration = supervisor.streamGeneration :=
  congrArg Standing.generation h.standing

end SessionSupervisor.Same

theorem ends_orFail {fault : Option String} :
    Ends E (orFail fault) supervisor Q ↔
      (∀ err, fault = some err → E err supervisor) ∧ (fault = none → Q () supervisor) := by
  unfold orFail
  cases fault <;> simp

/-- A snapshot that does not lead to a switch leaves the supervisor the same. One that does
leads to the profile that the active one degrades to. -/
theorem writeSnapshot_ends
    (hfail : ∀ err supervisor', supervisor.Same supervisor' → E err supervisor')
    (hdone : ∀ supervisor', supervisor.Same supervisor' → Q () supervisor')
    (hswitch : ∀ target supervisor', supervisor.Same supervisor' → config.notifyWatchdog = true →
      supervisor.profile.sessionComponents ≠ [] →
        degradesTo supervisor.profiles supervisor.profile = some target →
          Ends E (switch target) supervisor' Q) :
    Ends E (writeSnapshot config stage switch) supervisor Q := by
  rw [writeSnapshot, ends_bind, snapshot, ends_bind, ends_get]
  cases usizeChecked (supervisor.streamSequence + 1) with
  | none => exact hfail _ _ .refl
  | some streamSequence =>
    rw [ends_bind, ends_set, ends_pure, ends_bind, ends_orFail]
    refine ⟨fun err _ => hfail err _ ⟨rfl, rfl, rfl, rfl⟩, fun _ => ?_⟩
    rw [ends_bind, ends_orFail]
    refine ⟨fun err _ => hfail err _ ⟨rfl, rfl, rfl, rfl⟩, fun _ => ?_⟩
    split_ifs with hnotify
    · cases stage.answer with
      | error err => exact hdone _ ⟨rfl, rfl, rfl, rfl⟩
      | ok report =>
        dsimp only
        rw [ends_bind, ends_modify, applyWatchdogStreamReport, ends_bind, ends_get]
        dsimp only
        cases happly : applyWatchdogReport supervisor.profile supervisor.profiles report
          supervisor.sessionInstanceId stage.now with
        | error err => exact hfail err _ ⟨rfl, rfl, rfl, rfl⟩
        | ok outcome =>
          cases outcome with
          | unchanged => exact hdone _ ⟨rfl, rfl, rfl, rfl⟩
          | transition target transition =>
            obtain ⟨hvalid, htriggers, htarget⟩ := applyWatchdogReport_transition happly
            dsimp only
            rw [ends_bind, ends_orFail]
            refine ⟨fun err _ => hfail err _ ⟨rfl, rfl, rfl, rfl⟩, fun _ => ?_⟩
            rw [ends_bind, ends_orFail]
            refine ⟨fun err _ => hfail err _ ⟨rfl, rfl, rfl, rfl⟩, fun _ => ?_⟩
            exact hswitch target _ ⟨rfl, rfl, rfl, rfl⟩ hnotify
              (components_of_triggered hvalid htriggers) htarget
    · exact hdone _ ⟨rfl, rfl, rfl, rfl⟩

/-- The supervisor after a switch and before the activation. -/
structure SessionSupervisor.Switched (supervisor : SessionSupervisor) (target : DesktopProfile)
    (stage : StageSurroundings) (supervisor' : SessionSupervisor) : Prop where
  profiles : supervisor'.profiles = supervisor.profiles
  standing : supervisor'.standing = ⟨target, supervisor.streamGeneration + 1⟩
  session : supervisor'.sessionInstanceId = supervisor.sessionInstanceId
  sequence : supervisor'.streamSequence = 0
  activated : supervisor'.activated = supervisor.activated

/-- With a generation left the switch is made. -/
theorem switchTo_goes (hgeneration : supervisor.streamGeneration < u64Max)
    (hnext : ∀ supervisor', supervisor.Switched target stage supervisor' →
      Ends E next supervisor' Q) : Ends E (switchTo stage next target) supervisor Q := by
  have hchecked : usizeChecked (supervisor.streamGeneration + 1) =
      some (supervisor.streamGeneration + 1) := usizeChecked_eq_some.mpr ⟨hgeneration, rfl⟩
  rw [switchTo, ends_bind, stopAll, ends_modify, ends_bind, ends_get]
  dsimp only
  rw [hchecked]
  dsimp only
  rw [ends_bind, ends_set]
  exact hnext _ ⟨rfl, rfl, rfl, rfl, rfl⟩

/-- A switch takes the next generation, or fails and activates nothing. -/
theorem switchTo_ends (hfail : ∀ err supervisor', supervisor.Same supervisor' → E err supervisor')
    (hnext : supervisor.streamGeneration < u64Max → ∀ supervisor',
      supervisor.Switched target stage supervisor' → Ends E next supervisor' Q) :
    Ends E (switchTo stage next target) supervisor Q := by
  by_cases hgeneration : supervisor.streamGeneration < u64Max
  · exact switchTo_goes hgeneration (hnext hgeneration)
  · have hchecked : usizeChecked (supervisor.streamGeneration + 1) = none := by
      rw [usizeChecked, if_neg (by omega)]
    rw [switchTo, ends_bind, stopAll, ends_modify, ends_bind, ends_get]
    dsimp only
    rw [hchecked]
    exact hfail _ _ ⟨rfl, rfl, rfl, rfl⟩

/-- At most so many activations after those of the supervisor. -/
def AtMost (supervisor : SessionSupervisor) (count : Nat) (supervisor' : SessionSupervisor) :
    Prop :=
  supervisor'.activated.length ≤ supervisor.activated.length + count

theorem SessionSupervisor.Same.atMost {supervisor' : SessionSupervisor}
    (h : supervisor.Same supervisor') : AtMost supervisor count supervisor' := by
  rw [AtMost, h.activated]
  omega

theorem fallback_of_degradesTo {standing : Standing} (hnotify : config.notifyWatchdog = true)
    (hcomponents : standing.profile.sessionComponents ≠ [])
    (htarget : degradesTo profiles standing.profile = some target)
    (hgeneration : standing.generation < u64Max) :
    fallback config profiles standing = some ⟨target, standing.generation + 1⟩ := by
  rw [fallback, if_pos ⟨hnotify, hcomponents, hgeneration⟩, htarget]
  rfl

theorem activateStage_atMost (stages : Nat → StageSurroundings) (stage : Nat)
    (hnext : ∀ standing supervisor',
      fallback config supervisor.profiles supervisor.standing = some standing →
      supervisor'.profiles = supervisor.profiles → supervisor'.standing = standing →
      supervisor'.activated.length = supervisor.activated.length + 1 →
      Ends (fun _ => AtMost supervisor' count) next supervisor' fun _ => AtMost supervisor' count) :
    Ends (fun _ => AtMost supervisor (count + 1)) (activateStage config stages stage next)
      supervisor fun _ => AtMost supervisor (count + 1) := by
  rw [activateStage, ends_bind, ends_modify]
  have hone : ∀ supervisor', (supervisor.launched config (stages stage)).Same supervisor' →
      supervisor'.activated.length = supervisor.activated.length + 1 := by
    intro supervisor' hsame
    rw [hsame.activated, SessionSupervisor.launched, List.length_append, List.length_singleton]
  have hstays : ∀ supervisor', (supervisor.launched config (stages stage)).Same supervisor' →
      AtMost supervisor (count + 1) supervisor' := by
    intro supervisor' hsame
    rw [AtMost, hone supervisor' hsame]
    omega
  refine writeSnapshot_ends (fun _ => hstays) hstays
    fun target supervisor' hsame hnotify hcomponents htarget => ?_
  refine switchTo_ends (fun _ supervisor'' hsame' => hstays _ (hsame.trans hsame')) ?_
  intro hgeneration supervisor'' hswitched
  have hlength : supervisor''.activated.length = supervisor.activated.length + 1 := by
    rw [hswitched.activated, hone supervisor' hsame]
  have hstanding := hswitched.standing
  rw [hsame.generation] at hgeneration hstanding
  have hfallback : fallback config supervisor.profiles supervisor.standing =
      some ⟨target, supervisor.streamGeneration + 1⟩ :=
    fallback_of_degradesTo hnotify hcomponents htarget hgeneration
  refine (hnext _ supervisor'' hfallback (hswitched.profiles.trans hsame.profiles) hstanding
    hlength).anyway fun after hafter => ?_
  rw [AtMost] at hafter ⊢
  omega

/-- The activations from a standing are those on its way down. -/
theorem activate_atMost (stages : Nat → StageSurroundings) (generationsLeft stage : Nat)
    (hprofiles : supervisor.profiles = profiles)
    (h : descent config profiles count supervisor.standing = none) :
    Ends (fun _ => AtMost supervisor count) (activate config stages generationsLeft stage)
      supervisor fun _ => AtMost supervisor count := by
  induction generationsLeft generalizing stage count supervisor with
  | zero =>
    cases count with
    | zero => cases h
    | succ count =>
      refine activateStage_atMost stages stage fun standing supervisor' _ _ _ _ => ?_
      rw [ends_pure, AtMost]
      omega
  | succ generationsLeft ih =>
    cases count with
    | zero => cases h
    | succ count =>
      refine activateStage_atMost stages stage
        fun standing supervisor' hfallback hsame hstanding _ => ?_
      rw [hprofiles] at hfallback hsame
      rw [descent, hfallback, Option.bind_some, ← hstanding] at h
      exact ih (stage + 1) hsame h

/-! The watchdog can ask for every step on the way down. -/

/-- A report that the first component of a profile needs the degraded one. -/
def alarm (profile : DesktopProfile) (sessionInstanceId : String) : SessionWatchdogReport :=
  let components := profile.sessionComponents.take 1 |>.map fun component =>
    { id := component.id
      role := component.role
      critical := component.critical
      status := .unhealthy
      pid := none
      crashLoopCount := 0
      action := .degradedProfile
      reason := "component command is not installed" }
  { profileId := profile.id
    sessionInstanceId
    displayName := profile.displayName
    protocol := profile.protocol
    healthyComponents := 0
    unhealthyComponents := components.length
    inactiveComponents := 0
    components
    unixTimestamp := 0 }

theorem alarm_valid {profile : DesktopProfile} (sessionInstanceId : String)
    (h : profile.sessionComponents ≠ []) :
    validateWatchdogReportIdentity profile (alarm profile sessionInstanceId) sessionInstanceId =
        .ok () ∧
      degradedTriggerComponentIds (alarm profile sessionInstanceId) ≠ [] := by
  cases hcomponents : profile.sessionComponents with
  | nil => exact absurd hcomponents h
  | cons component components =>
    refine ⟨?_, by simp [alarm, degradedTriggerComponentIds, hcomponents]⟩
    simp [validateWatchdogReportIdentity, alarm, hcomponents, validateReportCounts,
      validateReportComponents, usizeChecked, u64Max, countStatus]
    rfl

/-- At each stage the alarm of the profile that is active there. -/
def alarms (config : Config) (profiles : List DesktopProfile) (sessionInstanceId : String)
    (standing : Standing) (stage : Nat) : StageSurroundings :=
  { resolve := fun _ => none
    answer :=
      match descent config profiles stage standing with
      | some reached => .ok (alarm reached.profile sessionInstanceId)
      | none => .error "watchdog is not there" }

theorem alarms_answer {stage : Nat} (h : descent config profiles stage start = some reached) :
    (alarms config profiles sessionInstanceId start stage).answer =
      .ok (alarm reached.profile sessionInstanceId) := by
  simp only [alarms, h]

theorem descent_generation {standing : Standing}
    (h : descent config profiles steps standing = some reached) :
    reached.generation = standing.generation + steps ∧
      (0 < steps → reached.generation ≤ u64Max) := by
  induction steps generalizing standing with
  | zero =>
    obtain rfl := Option.some.inj h
    simp
  | succ steps ih =>
    rw [descent] at h
    obtain ⟨next, hnext, hreached⟩ := Option.bind_eq_some_iff.mp h
    have hgeneration : next.generation = standing.generation + 1 ∧
        next.generation ≤ u64Max := by
      unfold fallback at hnext
      split_ifs at hnext with hgo
      obtain ⟨target, -, rfl⟩ := Option.map_eq_some_iff.mp hnext
      exact ⟨rfl, hgo.2.2⟩
    obtain ⟨hsum, hbound⟩ := ih hreached
    refine ⟨by omega, fun _ => ?_⟩
    rcases Nat.eq_zero_or_pos steps with hzero | hpos
    · omega
    · exact hbound hpos

/-- At least so many activations after those of the supervisor. -/
def AtLeast (supervisor : SessionSupervisor) (count : Nat) (supervisor' : SessionSupervisor) :
    Prop :=
  supervisor.activated.length + count ≤ supervisor'.activated.length

theorem activateStage_atLeast (stages : Nat → StageSurroundings) (stage : Nat)
    (hnext : ∀ supervisor', Ends (fun _ => AtLeast supervisor' 0) next supervisor'
      fun _ => AtLeast supervisor' 0) :
    Ends (fun _ => AtLeast supervisor 1) (activateStage config stages stage next) supervisor
      fun _ => AtLeast supervisor 1 := by
  rw [activateStage, ends_bind, ends_modify]
  have hstays : ∀ supervisor', (supervisor.launched config (stages stage)).Same supervisor' →
      AtLeast supervisor 1 supervisor' := by
    intro supervisor' hsame
    rw [AtLeast, hsame.activated, SessionSupervisor.launched, List.length_append,
      List.length_singleton]
  refine writeSnapshot_ends (fun _ => hstays) hstays fun target supervisor' hsame _ _ _ => ?_
  refine switchTo_ends (fun _ supervisor'' hsame' => hstays _ (hsame.trans hsame')) ?_
  intro _ supervisor'' hswitched
  have hone := hstays supervisor' hsame
  rw [AtLeast, ← hswitched.activated] at hone
  refine (hnext supervisor'').anyway fun after hafter => ?_
  rw [AtLeast] at hafter ⊢
  omega

theorem activate_atLeast_one (stages : Nat → StageSurroundings) (generationsLeft stage : Nat)
    (supervisor : SessionSupervisor) :
    Ends (fun _ => AtLeast supervisor 1) (activate config stages generationsLeft stage) supervisor
      fun _ => AtLeast supervisor 1 := by
  induction generationsLeft generalizing stage supervisor with
  | zero =>
    refine activateStage_atLeast stages stage fun supervisor' => ?_
    rw [ends_pure, AtLeast]
    omega
  | succ generationsLeft ih =>
    refine activateStage_atLeast stages stage fun supervisor' => ?_
    refine (ih (stage + 1) supervisor').anyway fun after hafter => ?_
    rw [AtLeast] at hafter ⊢
    omega

/-- An alarm that is heard is followed. -/
theorem writeSnapshot_alarmed (hnotify : config.notifyWatchdog = true)
    (hsequence : supervisor.streamSequence < u64Max)
    (hfaults : stage.launchFault = none ∧ stage.authorityFault = none ∧
      stage.activeFault = none ∧ stage.transitionFault = none)
    (hanswer : stage.answer = .ok (alarm supervisor.profile supervisor.sessionInstanceId))
    (hcomponents : supervisor.profile.sessionComponents ≠ [])
    (htarget : degradesTo supervisor.profiles supervisor.profile = some target)
    (hswitch : ∀ supervisor', supervisor.Same supervisor' →
      Ends E (switch target) supervisor' Q) :
    Ends E (writeSnapshot config stage switch) supervisor Q := by
  obtain ⟨hvalid, htriggers⟩ := alarm_valid supervisor.sessionInstanceId hcomponents
  obtain ⟨transition, happly⟩ :=
    (applyWatchdogReport_valid supervisor.profiles stage.now hvalid htriggers).1 target htarget
  have hnext : usizeChecked (supervisor.streamSequence + 1) =
      some (supervisor.streamSequence + 1) := usizeChecked_eq_some.mpr ⟨hsequence, rfl⟩
  obtain ⟨hlaunch, hauthority, hactive, htransition⟩ := hfaults
  rw [writeSnapshot, ends_bind, snapshot, ends_bind, ends_get, hnext]
  rw [ends_bind, ends_set, ends_pure, ends_bind, ends_orFail, hlaunch]
  refine ⟨fun err herr => (by cases herr), fun _ => ?_⟩
  rw [ends_bind, ends_orFail, hauthority]
  refine ⟨fun err herr => (by cases herr), fun _ => ?_⟩
  rw [if_pos hnotify, hanswer]
  dsimp only
  rw [ends_bind, ends_modify, applyWatchdogStreamReport, ends_bind, ends_get]
  dsimp only
  rw [happly]
  dsimp only
  rw [ends_bind, ends_orFail, hactive]
  refine ⟨fun err herr => (by cases herr), fun _ => ?_⟩
  rw [ends_bind, ends_orFail, htransition]
  exact ⟨fun err herr => (by cases herr), fun _ => hswitch _ ⟨rfl, rfl, rfl, rfl⟩⟩

theorem activate_atLeast {generationsLeft stage : Nat} (hprofiles : supervisor.profiles = profiles)
    (hsession : supervisor.sessionInstanceId = sessionInstanceId)
    (hsequence : supervisor.streamSequence < u64Max)
    (hat : descent config profiles stage start = some supervisor.standing)
    (h : descent config profiles steps supervisor.standing ≠ none)
    (hleft : steps ≤ generationsLeft) :
    Ends (fun _ => AtLeast supervisor (steps + 1))
      (activate config (alarms config profiles sessionInstanceId start) generationsLeft stage)
      supervisor fun _ => AtLeast supervisor (steps + 1) := by
  induction steps generalizing generationsLeft stage supervisor with
  | zero => exact activate_atLeast_one _ generationsLeft stage supervisor
  | succ steps ih =>
    cases generationsLeft with
    | zero => omega
    | succ generationsLeft =>
      rw [descent] at h
      obtain ⟨standing, hfallback⟩ : ∃ standing,
          fallback config profiles supervisor.standing = some standing := by
        cases hfallback : fallback config profiles supervisor.standing with
        | none => simp [hfallback] at h
        | some standing => exact ⟨standing, rfl⟩
      rw [hfallback, Option.bind_some] at h
      have hnext := hfallback
      unfold fallback at hnext
      split_ifs at hnext with hgo
      obtain ⟨target, htarget, rfl⟩ := Option.map_eq_some_iff.mp hnext
      rw [activate, activateStage, ends_bind, ends_modify]
      refine writeSnapshot_alarmed hgo.1 hsequence ⟨rfl, rfl, rfl, rfl⟩ ?_ hgo.2.1
        (hprofiles ▸ htarget) fun supervisor' hsame => ?_
      · rw [alarms_answer hat, ← hsession]
        rfl
      · have hgeneration : supervisor'.streamGeneration < u64Max := by
          rw [hsame.generation]
          exact hgo.2.2
        refine switchTo_goes hgeneration fun supervisor'' hswitched => ?_
        have hstanding : supervisor''.standing = ⟨target, supervisor.streamGeneration + 1⟩ := by
          rw [hswitched.standing, hsame.generation]
          rfl
        have hreached : descent config profiles (stage + 1) start = some supervisor''.standing := by
          rw [descent_succ, hat, Option.bind_some, hfallback, hstanding]
          rfl
        have hmore : descent config profiles steps supervisor''.standing ≠ none := by
          rw [hstanding]
          exact h
        have hone : supervisor''.activated.length = supervisor.activated.length + 1 := by
          rw [hswitched.activated, hsame.activated, SessionSupervisor.launched,
            List.length_append, List.length_singleton]
        have hfresh : supervisor''.streamSequence < u64Max := by
          rw [hswitched.sequence]
          decide
        refine (ih (hswitched.profiles.trans (hsame.profiles.trans hprofiles))
          (hswitched.session.trans (hsame.session.trans hsession)) hfresh hreached hmore
          (Nat.le_of_succ_le_succ hleft)).anyway fun after hafter => ?_
        rw [AtLeast] at hafter ⊢
        omega

/-! What goes before the snapshot of a poll. -/

/-- Only the components are other ones. -/
def SessionSupervisor.Tended (supervisor supervisor' : SessionSupervisor) : Prop :=
  ∃ components, supervisor' = { supervisor with components }

namespace SessionSupervisor.Tended

variable {supervisor supervisor' supervisor'' : SessionSupervisor}

theorem refl : supervisor.Tended supervisor := ⟨supervisor.components, rfl⟩

theorem trans (h : supervisor.Tended supervisor') (h' : supervisor'.Tended supervisor'') :
    supervisor.Tended supervisor'' := by
  obtain ⟨_, rfl⟩ := h
  obtain ⟨components, rfl⟩ := h'
  exact ⟨components, rfl⟩

theorem same (h : supervisor.Tended supervisor') : supervisor.Same supervisor' := by
  obtain ⟨_, rfl⟩ := h
  exact ⟨rfl, rfl, rfl, rfl⟩

theorem sequence (h : supervisor.Tended supervisor') :
    supervisor'.streamSequence = supervisor.streamSequence := by
  obtain ⟨_, rfl⟩ := h
  rfl

end SessionSupervisor.Tended

theorem restartComponent_same (artifact : WatchdogExecutionArtifact) (index : Nat)
    (spawned : Option Nat) (supervisor : SessionSupervisor) :
    Ends E (restartComponent artifact index spawned) supervisor fun _ => supervisor.Tended := by
  rw [restartComponent, ends_bind, ends_get, ends_bind, ends_set]
  split
  · split_ifs
    · exact ⟨_, rfl⟩
    · exact ⟨_, rfl⟩
  · exact ⟨_, rfl⟩

/-- A write for the request fails. -/
def RecoverySurroundings.Faulty (surroundings : RecoverySurroundings) : Prop :=
  surroundings.bindingFault ≠ none ∨ surroundings.executionFault ≠ none

theorem ends_orFail_binding {surroundings : RecoverySurroundings} {α : Type} {m : SupervisorM α}
    {Q : α → SessionSupervisor → Prop}
    (h : Ends (fun _ supervisor' => supervisor.Tended supervisor' ∧ surroundings.Faulty) m
      supervisor Q) :
    Ends (fun _ supervisor' => supervisor.Tended supervisor' ∧ surroundings.Faulty)
      (orFail surroundings.bindingFault >>= fun _ => m) supervisor Q := by
  rw [ends_bind, ends_orFail]
  exact ⟨fun err herr => ⟨.refl, .inl (by simp [herr])⟩, fun _ => h⟩

theorem executeRecovery_ends (role : ServiceRole) (recovery : WatchdogRecoveryArtifact)
    (surroundings : RecoverySurroundings) (supervisor : SessionSupervisor) :
    Ends (fun _ supervisor' => supervisor.Tended supervisor' ∧ surroundings.Faulty)
      (executeRecovery role recovery surroundings) supervisor fun _ => supervisor.Tended := by
  rw [executeRecovery, ends_bind, ends_get]
  dsimp only
  split_ifs
  · exact ends_orFail_binding .refl
  · exact ends_orFail_binding .refl
  · exact ends_orFail_binding .refl
  · refine ends_orFail_binding ?_
    split
    · exact .refl
    · exact restartComponent_same _ _ _ supervisor

/-- A request that is there when it is looked for is a text when it is read. -/
def RecoverySurroundings.Readable (surroundings : RecoverySurroundings) : Prop :=
  surroundings.found.isSome → ∃ raw, readToString surroundings.read = .ok raw

/-- There is a request, and it is executed. -/
def RecoverySurroundings.Executed (surroundings : RecoverySurroundings) (role : ServiceRole) :
    Prop :=
  surroundings.found.isSome ∧ ∃ raw recovery, readToString surroundings.read = .ok raw ∧
    surroundings.parse raw = .ok recovery ∧ recovery.Accepted role

theorem processRecoveryRequest_ends (role : ServiceRole) (surroundings : RecoverySurroundings)
    (supervisor : SessionSupervisor) :
    Ends (fun _ supervisor' => supervisor.Tended supervisor' ∧
        (surroundings.Faulty ∨ ¬ surroundings.Readable))
      (processRecoveryRequest role surroundings) supervisor fun executed supervisor' =>
        supervisor.Tended supervisor' ∧ surroundings.Readable ∧
          (executed = true ↔ surroundings.Executed role) ∧
          (executed = false → supervisor' = supervisor) := by
  unfold processRecoveryRequest RecoverySurroundings.Readable RecoverySurroundings.Executed
  cases surroundings.found with
  | none => exact ⟨.refl, by simp, by simp, fun _ => rfl⟩
  | some bytes =>
    dsimp only
    cases readToString surroundings.read with
    | error kind => exact ⟨.refl, .inr (by simp)⟩
    | ok raw =>
      dsimp only
      cases hparse : surroundings.parse raw with
      | error err => exact ⟨.refl, by simp, by simp [hparse], fun _ => rfl⟩
      | ok recovery =>
        dsimp only
        split_ifs with haccepted
        · rw [ends_bind]
          refine ((executeRecovery_ends role recovery surroundings supervisor).mono_error
            fun err supervisor' h => ⟨h.1, .inl h.2⟩).mono fun _ supervisor' hsame => ?_
          rw [ends_bind, ends_orFail]
          refine ⟨fun err herr => ⟨hsame, .inl (.inr (by simp [herr]))⟩, fun _ => ?_⟩
          rw [ends_pure]
          exact ⟨hsame, by simp, by simp [hparse, haccepted], by simp⟩
        · exact ⟨.refl, by simp, by simp [hparse, haccepted], fun _ => rfl⟩

theorem processRecoveryRequests_ends (surroundings : ServiceRole → RecoverySurroundings)
    (supervisor : SessionSupervisor) :
    Ends (fun _ supervisor' => supervisor.Tended supervisor' ∧
        ((surroundings .compd).Faulty ∨ ¬ (surroundings .compd).Readable ∨
          (surroundings .lockd).Faulty ∨ ¬ (surroundings .lockd).Readable))
      (processRecoveryRequests surroundings) supervisor fun executed supervisor' =>
        supervisor.Tended supervisor' ∧
          ((surroundings .compd).Readable ∧ (surroundings .lockd).Readable) ∧
          (executed = true ↔
            (surroundings .compd).Executed .compd ∨ (surroundings .lockd).Executed .lockd) ∧
          (executed = false → supervisor' = supervisor) := by
  rw [processRecoveryRequests, ends_bind]
  refine ((processRecoveryRequest_ends .compd _ supervisor).mono_error
    fun err supervisor' h => ⟨h.1, h.2.imp_right .inl⟩).mono fun compd middle hcompd => ?_
  rw [ends_bind]
  refine ((processRecoveryRequest_ends .lockd _ middle).mono_error
    fun err supervisor' h => ⟨hcompd.1.trans h.1, .inr (.inr h.2)⟩).mono
      fun lockd supervisor' hlockd => ?_
  rw [ends_pure]
  refine ⟨hcompd.1.trans hlockd.1, ⟨hcompd.2.1, hlockd.2.1⟩, ?_, fun hnone => ?_⟩
  · rw [Bool.or_eq_true, hcompd.2.2.1, hlockd.2.2.1]
  · rw [Bool.or_eq_false_iff] at hnone
    rw [hlockd.2.2.2 hnone.2, hcompd.2.2.2 hnone.1]

/-- A process is looked at that has ended. -/
def ExitsSeen (waits : Nat → TryWait) (index : Nat) (components : List RuntimeComponent) : Prop :=
  ∃ position runtime code, components[position]? = some runtime ∧ runtime.child ≠ none ∧
    waits (index + position) = .exited code

theorem pollAndRestart_event {polled : RuntimeComponent} {event : Bool}
    (h : runtime.pollAndRestart restartLimit wait spawned = .ok (event, polled)) :
    event = true ↔ runtime.child ≠ none ∧ ∃ code, wait = .exited code := by
  unfold RuntimeComponent.pollAndRestart at h
  cases hchild : runtime.child with
  | none =>
    simp only [hchild] at h
    cases h
    simp
  | some pid =>
    simp only [hchild] at h
    cases wait with
    | error text => cases h
    | running =>
      cases h
      simp
    | exited code =>
      dsimp only at h
      split_ifs at h
      · cases h
        simp
      · cases h
        simp

theorem pollAndRestart_error {err : String}
    (h : runtime.pollAndRestart restartLimit wait spawned = .error err) : wait = .error err := by
  unfold RuntimeComponent.pollAndRestart at h
  split at h
  · cases h
  · split at h
    · cases h
      rfl
    · cases h
    · dsimp only at h
      split_ifs at h

/-- Every process can be looked at. -/
def Watched (waits : Nat → TryWait) : Prop := ∀ index text, waits index ≠ .error text

theorem pollComponents_spec (restartLimit : Nat) (waits : Nat → TryWait)
    (spawned : Nat → Option Nat) (index : Nat) (components : List RuntimeComponent) :
    (∀ event, (pollComponents restartLimit waits spawned index components).1 = .ok event →
      (event = true ↔ ExitsSeen waits index components)) ∧
    (∀ err, (pollComponents restartLimit waits spawned index components).1 = .error err →
      ¬ Watched waits) := by
  induction components generalizing index with
  | nil =>
    refine ⟨fun event h => ?_, fun err h => (by cases h)⟩
    cases h
    simp [ExitsSeen]
  | cons runtime components ih =>
    have hrest := ih (index + 1)
    rw [pollComponents]
    cases hpolled : runtime.pollAndRestart restartLimit (waits index) (spawned index) with
    | error err =>
      refine ⟨fun event h => (by cases h), fun _ _ hwatched => ?_⟩
      exact hwatched index err (pollAndRestart_error hpolled)
    | ok polled =>
      obtain ⟨event, polled⟩ := polled
      have hevent := pollAndRestart_event hpolled
      dsimp only
      constructor
      · intro total htotal
        obtain ⟨later, hlater, rfl⟩ : ∃ later,
            (pollComponents restartLimit waits spawned (index + 1) components).1 = .ok later ∧
              (event || later) = total := by
          cases hresult : (pollComponents restartLimit waits spawned (index + 1) components).1 with
          | error err =>
            rw [hresult] at htotal
            cases htotal
          | ok later =>
            rw [hresult] at htotal
            exact ⟨later, rfl, Except.ok.inj htotal⟩
        rw [Bool.or_eq_true, hevent, hrest.1 later hlater]
        constructor
        · rintro (⟨hchild, code, hcode⟩ | ⟨position, seen, code, hseen, hchild, hcode⟩)
          · exact ⟨0, runtime, code, rfl, hchild, hcode⟩
          · refine ⟨position + 1, seen, code, hseen, hchild, ?_⟩
            rw [← hcode]
            congr 1
            omega
        · rintro ⟨position, seen, code, hseen, hchild, hcode⟩
          cases position with
          | zero =>
            obtain rfl := Option.some.inj hseen
            exact .inl ⟨hchild, code, hcode⟩
          | succ position =>
            refine .inr ⟨position, seen, code, hseen, hchild, ?_⟩
            rw [← hcode]
            congr 1
            omega
      · intro err herr
        cases hresult : (pollComponents restartLimit waits spawned (index + 1) components).1 with
        | error later => exact hrest.2 later hresult
        | ok later =>
          rw [hresult] at herr
          cases herr

theorem pollAll_ends (config : Config) (surroundings : PollSurroundings)
    (supervisor : SessionSupervisor) :
    Ends (fun _ supervisor' => supervisor.Tended supervisor' ∧ ¬ Watched surroundings.waits)
      (pollAll config surroundings) supervisor fun event supervisor' =>
        supervisor.Tended supervisor' ∧
          (event = true ↔ ExitsSeen surroundings.waits 0 supervisor.components) := by
  have hspec := pollComponents_spec config.restartLimit surroundings.waits surroundings.spawned 0
    supervisor.components
  rw [pollAll, ends_bind, ends_get, ends_bind, ends_set]
  cases hpolled : (pollComponents config.restartLimit surroundings.waits surroundings.spawned 0
      supervisor.components).1 with
  | error err => exact ⟨⟨_, rfl⟩, hspec.2 err hpolled⟩
  | ok event => exact ⟨⟨_, rfl⟩, hspec.1 event hpolled⟩

theorem poll_atMost (surroundings : PollSurroundings) (hprofiles : supervisor.profiles = profiles)
    (h : descent config profiles (count + 1) supervisor.standing = none) :
    Ends (fun _ => AtMost supervisor count) (poll config surroundings) supervisor
      fun _ => AtMost supervisor count := by
  rw [poll, ends_bind]
  refine ((processRecoveryRequests_ends _ supervisor).mono_error
    fun _ supervisor' h => h.1.same.atMost).mono fun recovered middle hrecovered => ?_
  rw [ends_bind]
  refine ((pollAll_ends config surroundings middle).mono_error
    fun _ supervisor' h => (hrecovered.1.trans h.1).same.atMost).mono
      fun polled watched hpolled => ?_
  have hsame := (hrecovered.1.trans hpolled.1).same
  split_ifs
  · rw [ends_bind, ends_get, ends_bind]
    refine Ends.mono (Q := fun _ => AtMost supervisor count) ?_ fun _ _ h => h
    refine writeSnapshot_ends (fun _ _ h => (hsame.trans h).atMost)
      (fun _ h => (hsame.trans h).atMost)
      fun target supervisor' hwritten hnotify hcomponents htarget => ?_
    have hbefore := hsame.trans hwritten
    refine switchTo_ends (fun _ _ h => (hbefore.trans h).atMost) ?_
    intro hgeneration supervisor'' hswitched
    have hstanding := hswitched.standing
    rw [hbefore.generation] at hgeneration hstanding
    rw [hsame.profile] at hcomponents htarget
    rw [hsame.profiles, hprofiles] at htarget
    have hfallback : fallback config profiles supervisor.standing =
        some ⟨target, supervisor.streamGeneration + 1⟩ :=
      fallback_of_degradesTo hnotify hcomponents htarget hgeneration
    rw [descent, hfallback, Option.bind_some, ← hstanding] at h
    refine (activate_atMost surroundings.stages _ 1 (hswitched.profiles.trans
      (hbefore.profiles.trans hprofiles)) h).anyway fun after hafter => ?_
    rw [AtMost, hswitched.activated, hbefore.activated] at hafter
    exact hafter
  · exact hsame.atMost

/-- A start and a poll make at most as many profiles active as there are, whatever the
watchdog answers. -/
structure ActivationsBounded (config : Config) (profiles : List DesktopProfile)
    (standing : Standing) : Prop where
  bootstrap : ∀ sessionInstanceId stages,
    (bootstrap config profiles sessionInstanceId (.ok standing.profile)
      (.ok standing.generation) stages).2.length ≤ profiles.length
  poll : ∀ surroundings supervisor, supervisor.profiles = profiles →
    supervisor.standing = standing →
      Ends (fun _ => AtMost supervisor profiles.length) (poll config surroundings) supervisor
        fun _ => AtMost supervisor profiles.length

theorem bootstrap_activated (config : Config) (profiles : List DesktopProfile)
    (sessionInstanceId : String) (standing : Standing) (stages : Nat → StageSurroundings)
    {P : SessionSupervisor → Prop}
    (h : Ends (fun _ => P) (activate config stages (u64Max - standing.generation) 0)
      (.new standing.profile profiles sessionInstanceId standing.generation (stages 0).resolve)
      fun _ => P) :
    ∃ supervisor, P supervisor ∧
      (bootstrap config profiles sessionInstanceId (.ok standing.profile)
        (.ok standing.generation) stages).2 = supervisor.activated := by
  unfold Ends at h
  unfold bootstrap
  dsimp only
  cases hrun : activate config stages (u64Max - standing.generation) 0
      (.new standing.profile profiles sessionInstanceId standing.generation
        (stages 0).resolve) with
  | ok _ supervisor =>
    rw [hrun] at h
    exact ⟨supervisor, h, rfl⟩
  | error err supervisor =>
    rw [hrun] at h
    exact ⟨supervisor, h, rfl⟩

theorem activationsBounded_iff (config : Config) (profiles : List DesktopProfile)
    (standing : Standing) :
    ActivationsBounded config profiles standing ↔
      descent config profiles profiles.length standing = none := by
  constructor
  · intro hbounded
    by_contra hdown
    let start := SessionSupervisor.new standing.profile profiles "seat-0" standing.generation
      (fun _ => none)
    have hleft : profiles.length ≤ u64Max - standing.generation := by
      obtain ⟨reached, hreached⟩ := Option.ne_none_iff_exists'.mp hdown
      obtain ⟨hsum, hbound⟩ := descent_generation hreached
      rcases Nat.eq_zero_or_pos profiles.length with hzero | hpos
      · omega
      · have := hbound hpos
        omega
    have hrun : Ends (fun _ => AtLeast start (profiles.length + 1))
        (activate config (alarms config profiles "seat-0" standing)
          (u64Max - standing.generation) 0) start
        fun _ => AtLeast start (profiles.length + 1) :=
      activate_atLeast rfl rfl (by decide : 0 < u64Max) rfl hdown hleft
    obtain ⟨supervisor, hmany, hactivated⟩ := bootstrap_activated config profiles "seat-0"
      standing (alarms config profiles "seat-0" standing) hrun
    have hfew := hbounded.bootstrap "seat-0" (alarms config profiles "seat-0" standing)
    rw [hactivated] at hfew
    rw [AtLeast] at hmany
    omega
  · intro hdown
    refine ⟨fun sessionInstanceId stages => ?_, fun surroundings supervisor hprofiles hstanding => ?_⟩
    · obtain ⟨supervisor, hfew, hactivated⟩ := bootstrap_activated config profiles
        sessionInstanceId standing stages (activate_atMost stages _ 0 rfl hdown)
      rw [hactivated]
      rw [AtMost] at hfew
      simpa [SessionSupervisor.new] using hfew
    · exact poll_atMost surroundings hprofiles (hstanding ▸ descent_succ_none hdown)

/-- Two profiles that degrade to each other, each with a component that is not installed. -/
def shellProfile : DesktopProfile :=
  { soleProfile with id := "shell", degradedProfileId := some "rescue" }

def rescueProfile : DesktopProfile :=
  { soleProfile with id := "rescue", degradedProfileId := some "shell" }

/-- The watchdog's own answer about a profile that has just been activated. -/
def inspected (profiles : List DesktopProfile) (profile : DesktopProfile) :
    StageSurroundings :=
  { resolve := fun _ => none
    answer := .ok (inspectLaunchState (fun _ => true) 0
      ((SessionSupervisor.new profile profiles "seat-0" 1 fun _ => none).launchState 0)) }

/-- Three answers, then the watchdog is gone. -/
def bouncing (profiles : List DesktopProfile) : Nat → StageSurroundings
  | 0 => inspected profiles shellProfile
  | 1 => inspected profiles rescueProfile
  | 2 => inspected profiles shellProfile
  | _ => { resolve := fun _ => none, answer := .error "watchdog is not there" }

theorem cycle_not_bounded :
    ¬ ActivationsBounded { notifyWatchdog := true } [rescueProfile, shellProfile]
      ⟨shellProfile, 1⟩ := by
  intro h
  have hfew := h.bootstrap "seat-0" (bouncing [rescueProfile, shellProfile])
  revert hfew
  decide +kernel

end TuffXwin.Sessiond
