import TuffXwin.Sessiond.Descent

/-! When a poll returns. An error of a poll ends the supervisor while its processes go on. The
requests have to be readable and the profiles that the watchdog takes the session to have to
be there; nothing else in a report or a request makes a poll fail. -/

namespace TuffXwin.Sessiond
open Lib Watchdog

variable {supervisor : SessionSupervisor} {profiles : List DesktopProfile} {config : Config}
  {surroundings : PollSurroundings} {profile : DesktopProfile}
variable {standing : Standing} {target : DesktopProfile} {α : Type}
variable {stages : Nat → StageSurroundings} {sessionInstanceId : String} {condition : Prop}
  {switch : DesktopProfile → SupervisorM Unit}

/-- Every write succeeds and every process can be looked at. -/
structure PollSurroundings.Undisturbed (surroundings : PollSurroundings) : Prop where
  recovery : ∀ role, ¬ (surroundings.recovery role).Faulty
  watched : Watched surroundings.waits
  launch : ∀ stage, (surroundings.stages stage).launchFault = none
  authority : ∀ stage, (surroundings.stages stage).authorityFault = none
  active : ∀ stage, (surroundings.stages stage).activeFault = none
  transition : ∀ stage, (surroundings.stages stage).transitionFault = none

/-- The watchdog asks for the degraded profile. -/
def StageSurroundings.Triggered (stage : StageSurroundings) : Prop :=
  ∃ report, stage.answer = .ok report ∧ degradedTriggerComponentIds report ≠ []

/-- The profile that the answer at a stage leads to. -/
def StageSurroundings.followed (stage : StageSurroundings) (profiles : List DesktopProfile)
    (profile : DesktopProfile) : Option DesktopProfile :=
  match stage.answer with
  | .ok report =>
    if degradedTriggerComponentIds report = [] then none else degradesTo profiles profile
  | .error _ => none

/-- The profile that is active so many stages after one. -/
def activeAt (stages : Nat → StageSurroundings) (profiles : List DesktopProfile) :
    (stage steps : Nat) → DesktopProfile → Option DesktopProfile
  | _, 0, profile => some profile
  | stage, steps + 1, profile =>
    ((stages stage).followed profiles profile).bind (activeAt stages profiles (stage + 1) steps)

/-- Every profile that is asked to degrade can, and there is a generation for it. -/
def Descends (stages : Nat → StageSurroundings) (profiles : List DesktopProfile)
    (stage : Nat) (standing : Standing) : Prop :=
  ∀ steps profile, activeAt stages profiles stage steps standing.profile = some profile →
    ((stages (stage + steps)).Triggered → TargetKnown profiles profile) ∧
      (((stages (stage + steps)).followed profiles profile).isSome →
        standing.generation + steps < u64Max)

/-- The answers are the watchdog's reports on the profiles that are active. -/
def Genuine (stages : Nat → StageSurroundings) (profiles : List DesktopProfile)
    (sessionInstanceId : String) (stage : Nat) (profile : DesktopProfile) : Prop :=
  ∀ steps reached report, activeAt stages profiles stage steps profile = some reached →
    (stages (stage + steps)).answer = .ok report → ReportOf reached sessionInstanceId report

theorem descends_iff {stage : Nat} :
    Descends stages profiles stage standing ↔
      ((stages stage).Triggered → TargetKnown profiles standing.profile) ∧
        ∀ target, (stages stage).followed profiles standing.profile = some target →
          standing.generation < u64Max ∧
            Descends stages profiles (stage + 1) ⟨target, standing.generation + 1⟩ := by
  constructor
  · intro h
    refine ⟨(h 0 standing.profile rfl).1, fun target htarget => ⟨?_, ?_⟩⟩
    · exact (h 0 standing.profile rfl).2 (by simp [htarget])
    · intro steps profile hactive
      have hlater := h (steps + 1) profile (by rw [activeAt, htarget]; exact hactive)
      have hstage : stage + (steps + 1) = stage + 1 + steps := by omega
      rw [hstage] at hlater
      refine ⟨hlater.1, fun hfollowed => ?_⟩
      have := hlater.2 hfollowed
      dsimp only
      omega
  · rintro ⟨hknown, hnext⟩ steps profile hactive
    cases steps with
    | zero =>
      obtain rfl := Option.some.inj hactive
      refine ⟨hknown, fun hfollowed => ?_⟩
      obtain ⟨target, htarget⟩ := Option.isSome_iff_exists.mp hfollowed
      exact (hnext target htarget).1
    | succ steps =>
      rw [activeAt] at hactive
      obtain ⟨target, htarget, hactive⟩ := Option.bind_eq_some_iff.mp hactive
      have hlater := (hnext target htarget).2 steps profile hactive
      have hstage : stage + (steps + 1) = stage + 1 + steps := by omega
      rw [hstage]
      refine ⟨hlater.1, fun hfollowed => ?_⟩
      have := hlater.2 hfollowed
      dsimp only at this
      omega

theorem Genuine.here {stage : Nat} (h : Genuine stages profiles sessionInstanceId stage profile)
    {report : SessionWatchdogReport} (hanswer : (stages stage).answer = .ok report) :
    ReportOf profile sessionInstanceId report :=
  h 0 profile report rfl hanswer

theorem Genuine.next {stage : Nat} (h : Genuine stages profiles sessionInstanceId stage profile)
    (htarget : (stages stage).followed profiles profile = some target) :
    Genuine stages profiles sessionInstanceId (stage + 1) target := by
  intro steps reached report hactive hanswer
  have hstage : stage + (steps + 1) = stage + 1 + steps := by omega
  refine h (steps + 1) reached report (by rw [activeAt, htarget]; exact hactive) ?_
  rw [hstage]
  exact hanswer

/-- The program returns exactly when the condition holds. -/
def ReturnsIff (condition : Prop) {α : Type} (m : SupervisorM α)
    (supervisor : SessionSupervisor) : Prop :=
  Ends (fun _ _ => ¬ condition) m supervisor fun _ _ => condition

theorem ReturnsIff.congr {condition' : Prop} {m : SupervisorM α}
    (h : ReturnsIff condition m supervisor) (hiff : condition ↔ condition') :
    ReturnsIff condition' m supervisor := by
  rw [← hiff]
  exact h

theorem ReturnsIff.result {m : SupervisorM α} (h : ReturnsIff condition m supervisor) :
    (∃ a supervisor', m supervisor = .ok a supervisor') ↔ condition := by
  constructor
  · rintro ⟨a, supervisor', hm⟩
    exact h.ok hm
  · intro hcondition
    cases hm : m supervisor with
    | ok a supervisor' => exact ⟨a, supervisor', rfl⟩
    | error err supervisor' => exact absurd hcondition (h.error hm)

/-- The snapshot and what follows it, under a report of the active profile. -/
theorem writeSnapshot_returns {stage : StageSurroundings} (switches : DesktopProfile → Prop)
    (hnotify : config.notifyWatchdog = true) (hsequence : supervisor.streamSequence < u64Max)
    (hfaults : stage.launchFault = none ∧ stage.authorityFault = none ∧
      stage.activeFault = none ∧ stage.transitionFault = none)
    (hgenuine : ∀ report, stage.answer = .ok report →
      ReportOf supervisor.profile supervisor.sessionInstanceId report)
    (hswitch : ∀ target supervisor', supervisor.Same supervisor' →
      stage.followed supervisor.profiles supervisor.profile = some target →
        ReturnsIff (switches target) (switch target) supervisor') :
    ReturnsIff
      ((stage.Triggered → TargetKnown supervisor.profiles supervisor.profile) ∧
        ∀ target, stage.followed supervisor.profiles supervisor.profile = some target →
          switches target)
      (writeSnapshot config stage switch) supervisor := by
  have hnext : usizeChecked (supervisor.streamSequence + 1) =
      some (supervisor.streamSequence + 1) := usizeChecked_eq_some.mpr ⟨hsequence, rfl⟩
  obtain ⟨hlaunch, hauthority, hactive, htransition⟩ := hfaults
  rw [ReturnsIff, writeSnapshot, ends_bind, snapshot, ends_bind, ends_get, hnext]
  rw [ends_bind, ends_set, ends_pure, ends_bind, ends_orFail, hlaunch]
  refine ⟨fun err herr => (by cases herr), fun _ => ?_⟩
  rw [ends_bind, ends_orFail, hauthority]
  refine ⟨fun err herr => (by cases herr), fun _ => ?_⟩
  rw [if_pos hnotify]
  cases hanswer : stage.answer with
  | error err =>
    dsimp only
    rw [ends_pure]
    simp [StageSurroundings.Triggered, StageSurroundings.followed, hanswer]
  | ok report =>
    have hvalid := (hgenuine report hanswer).valid
    dsimp only
    rw [ends_bind, ends_modify, applyWatchdogStreamReport, ends_bind, ends_get]
    dsimp only
    by_cases htriggers : degradedTriggerComponentIds report = []
    · have happly : applyWatchdogReport supervisor.profile supervisor.profiles report
          supervisor.sessionInstanceId stage.now = .ok (.unchanged supervisor.profile.id
            "watchdog report did not request degraded profile switch") := by
        simp only [applyWatchdogReport, hvalid, if_pos htriggers]
        rfl
      rw [happly]
      dsimp only
      rw [ends_pure]
      simp [StageSurroundings.Triggered, StageSurroundings.followed, hanswer, htriggers]
    · have htriggered : stage.Triggered := ⟨report, hanswer, htriggers⟩
      have hfollowed : stage.followed supervisor.profiles supervisor.profile =
          degradesTo supervisor.profiles supervisor.profile := by
        simp only [StageSurroundings.followed, hanswer, if_neg htriggers]
      obtain ⟨hto, hunknown, hnowhere⟩ :=
        applyWatchdogReport_valid supervisor.profiles stage.now hvalid htriggers
      cases htarget : degradesTo supervisor.profiles supervisor.profile with
      | some target =>
        obtain ⟨transition, happly⟩ := hto target htarget
        rw [happly]
        dsimp only
        rw [ends_bind, ends_orFail, hactive]
        refine ⟨fun err herr => (by cases herr), fun _ => ?_⟩
        rw [ends_bind, ends_orFail, htransition]
        refine ⟨fun err herr => (by cases herr), fun _ => ?_⟩
        refine ReturnsIff.congr (hswitch target _ ?_ (hfollowed.trans htarget)) ?_
        · exact ⟨rfl, rfl, rfl, rfl⟩
        rw [hfollowed, htarget]
        refine ⟨fun hgoes => ⟨fun _ => targetKnown_of_degradesTo htarget, ?_⟩, fun h => h.2 target rfl⟩
        rintro _ ⟨⟩
        exact hgoes
      | none =>
        rw [hfollowed, htarget]
        cases hid : supervisor.profile.degradedProfileId with
        | none =>
          obtain ⟨profileId, reason, happly⟩ := hnowhere hid
          rw [happly]
          dsimp only
          rw [ends_pure]
          refine ⟨fun _ id hsome => ?_, fun target hsome => (by cases hsome)⟩
          rw [hid] at hsome
          cases hsome
        | some id =>
          obtain ⟨err, happly⟩ := hunknown htarget (by simp [hid])
          rw [happly]
          dsimp only
          rw [ends_throw]
          rintro ⟨hknown, -⟩
          obtain ⟨target, -, hsome⟩ := degradesTo_of_known (hknown htriggered) hid
          rw [htarget] at hsome
          cases hsome

theorem PollSurroundings.Undisturbed.stage (h : surroundings.Undisturbed) (stage : Nat) :
    (surroundings.stages stage).launchFault = none ∧
      (surroundings.stages stage).authorityFault = none ∧
      (surroundings.stages stage).activeFault = none ∧
      (surroundings.stages stage).transitionFault = none :=
  ⟨h.launch stage, h.authority stage, h.active stage, h.transition stage⟩

/-- A switch needs a generation, and the rest of the way down. -/
theorem switchTo_returns {stage : StageSurroundings} {next : SupervisorM Unit}
    (hnext : supervisor.streamGeneration < u64Max → ∀ supervisor',
      supervisor.Switched target stage supervisor' → ReturnsIff condition next supervisor') :
    ReturnsIff (supervisor.streamGeneration < u64Max ∧ condition) (switchTo stage next target)
      supervisor := by
  by_cases hgeneration : supervisor.streamGeneration < u64Max
  · refine switchTo_goes hgeneration fun supervisor' hswitched => ?_
    exact (hnext hgeneration supervisor' hswitched).congr (by simp [hgeneration])
  · have hchecked : usizeChecked (supervisor.streamGeneration + 1) = none := by
      rw [usizeChecked, if_neg (by omega)]
    rw [ReturnsIff, switchTo, ends_bind, stopAll, ends_modify, ends_bind, ends_get]
    dsimp only
    rw [hchecked]
    exact fun h => hgeneration h.1

/-- What a switch after the snapshot of a standing starts from. -/
structure Entered (profiles : List DesktopProfile) (sessionInstanceId : String)
    (standing : Standing) (supervisor : SessionSupervisor) : Prop where
  profiles : supervisor.profiles = profiles
  session : supervisor.sessionInstanceId = sessionInstanceId
  standing : supervisor.standing = standing
  sequence : supervisor.streamSequence = 0

/-- A snapshot and the switch that follows it, which goes on with `next`. -/
theorem snapshotThenSwitch_returns (hquiet : surroundings.Undisturbed)
    (hnotify : config.notifyWatchdog = true) {stage : Nat} {next : SupervisorM Unit}
    (hsequence : supervisor.streamSequence < u64Max)
    (hgenuine : Genuine surroundings.stages supervisor.profiles supervisor.sessionInstanceId stage
      supervisor.profile) (hnext : ∀ target supervisor', supervisor.streamGeneration < u64Max →
      (surroundings.stages stage).followed supervisor.profiles supervisor.profile = some target →
      Entered supervisor.profiles supervisor.sessionInstanceId
        ⟨target, supervisor.streamGeneration + 1⟩ supervisor' →
      ReturnsIff (Descends surroundings.stages supervisor.profiles (stage + 1)
        ⟨target, supervisor.streamGeneration + 1⟩) next supervisor') :
    ReturnsIff (Descends surroundings.stages supervisor.profiles stage supervisor.standing)
      (writeSnapshot config (surroundings.stages stage)
        (switchTo (surroundings.stages (stage + 1)) next)) supervisor := by
  have hdescends : Descends surroundings.stages supervisor.profiles stage supervisor.standing ↔
      _ := descends_iff
  refine ReturnsIff.congr (writeSnapshot_returns
    (fun target => supervisor.streamGeneration < u64Max ∧
      Descends surroundings.stages supervisor.profiles (stage + 1)
        ⟨target, supervisor.streamGeneration + 1⟩) hnotify hsequence (hquiet.stage stage)
    (fun report hanswer => hgenuine.here hanswer) fun target supervisor' hsame hfollowed => ?_)
    hdescends.symm
  rw [← hsame.generation]
  refine switchTo_returns fun hgeneration supervisor'' hswitched => ?_
  rw [hsame.generation] at hgeneration ⊢
  refine hnext target supervisor'' hgeneration hfollowed
    ⟨hswitched.profiles.trans hsame.profiles, hswitched.session.trans hsame.session, ?_,
      hswitched.sequence⟩
  rw [hswitched.standing, hsame.generation]

/-- An activation with the snapshot and the switches that follow it. -/
theorem activate_returns (hquiet : surroundings.Undisturbed)
    (hnotify : config.notifyWatchdog = true) {generationsLeft stage : Nat}
    (hentered : Entered profiles sessionInstanceId standing supervisor)
    (hleft : u64Max - standing.generation ≤ generationsLeft)
    (hgenuine : Genuine surroundings.stages profiles sessionInstanceId stage standing.profile) :
    ReturnsIff (Descends surroundings.stages profiles stage standing)
      (activate config surroundings.stages generationsLeft stage) supervisor := by
  induction generationsLeft generalizing stage standing supervisor with
  | zero =>
    obtain ⟨rfl, rfl, rfl, hsequence⟩ := hentered
    rw [ReturnsIff, activate, activateStage, ends_bind, ends_modify]
    refine snapshotThenSwitch_returns hquiet hnotify ?_ hgenuine
      fun target supervisor' hgeneration _ _ => ?_
    · change supervisor.streamSequence < u64Max
      rw [hsequence]
      decide
    · change u64Max - supervisor.streamGeneration ≤ 0 at hleft
      change supervisor.streamGeneration < u64Max at hgeneration
      omega
  | succ generationsLeft ih =>
    obtain ⟨rfl, rfl, rfl, hsequence⟩ := hentered
    rw [ReturnsIff, activate, activateStage, ends_bind, ends_modify]
    refine snapshotThenSwitch_returns hquiet hnotify ?_ hgenuine
      fun target supervisor' hgeneration hfollowed hentered => ?_
    · change supervisor.streamSequence < u64Max
      rw [hsequence]
      decide
    · refine ih hentered ?_ (hgenuine.next hfollowed)
      change u64Max - supervisor.streamGeneration ≤ generationsLeft + 1 at hleft
      change u64Max - (supervisor.streamGeneration + 1) ≤ generationsLeft
      omega

/-- Without notifications nothing follows a snapshot. -/
theorem writeSnapshot_silent {stage : StageSurroundings} (hnotify : config.notifyWatchdog = false)
    (hsequence : supervisor.streamSequence < u64Max) (hlaunch : stage.launchFault = none)
    (hauthority : stage.authorityFault = none) :
    ReturnsIff True (writeSnapshot config stage switch) supervisor := by
  have hnext : usizeChecked (supervisor.streamSequence + 1) =
      some (supervisor.streamSequence + 1) := usizeChecked_eq_some.mpr ⟨hsequence, rfl⟩
  rw [ReturnsIff, writeSnapshot, ends_bind, snapshot, ends_bind, ends_get, hnext]
  rw [ends_bind, ends_set, ends_pure, ends_bind, ends_orFail, hlaunch]
  refine ⟨fun err herr => (by cases herr), fun _ => ?_⟩
  rw [ends_bind, ends_orFail, hauthority]
  refine ⟨fun err herr => (by cases herr), fun _ => ?_⟩
  rw [if_neg (by simp [hnotify]), ends_pure]
  trivial

/-- Something happened that a snapshot is written for. -/
def PollSurroundings.Eventful (surroundings : PollSurroundings)
    (supervisor : SessionSupervisor) : Prop :=
  ((surroundings.recovery .compd).Executed .compd ∨
      (surroundings.recovery .lockd).Executed .lockd) ∨
    ExitsSeen surroundings.waits 0 supervisor.components

/-- The requests can be read and, when there is a snapshot, its number and the profiles that
the answers lead to are there. -/
structure Sustained (config : Config) (surroundings : PollSurroundings)
    (supervisor : SessionSupervisor) : Prop where
  compd : (surroundings.recovery .compd).Readable
  lockd : (surroundings.recovery .lockd).Readable
  sequence : surroundings.Eventful supervisor → supervisor.streamSequence < u64Max
  targets : surroundings.Eventful supervisor → config.notifyWatchdog = true →
    Descends surroundings.stages supervisor.profiles 0 supervisor.standing

theorem snapshot_exhausted {stage : StageSurroundings}
    (hsequence : ¬ supervisor.streamSequence < u64Max) :
    ReturnsIff False (writeSnapshot config stage switch) supervisor := by
  have hchecked : usizeChecked (supervisor.streamSequence + 1) = none := by
    rw [usizeChecked, if_neg (by omega)]
  rw [ReturnsIff, writeSnapshot, ends_bind, snapshot, ends_bind, ends_get, hchecked]
  exact id

/-- The snapshot of a poll. -/
theorem pollSnapshot_returns (config : Config) (hquiet : surroundings.Undisturbed)
    (hgenuine : Genuine surroundings.stages supervisor.profiles supervisor.sessionInstanceId 0
      supervisor.profile) :
    ReturnsIff (supervisor.streamSequence < u64Max ∧ (config.notifyWatchdog = true →
        Descends surroundings.stages supervisor.profiles 0 supervisor.standing))
      (writeSnapshot config (surroundings.stages 0)
        (switchTo (surroundings.stages 1)
          (activate config surroundings.stages (u64Max - supervisor.streamGeneration - 1) 1)))
      supervisor := by
  by_cases hsequence : supervisor.streamSequence < u64Max
  · cases hnotify : config.notifyWatchdog with
    | false =>
      exact (writeSnapshot_silent hnotify hsequence (hquiet.launch 0) (hquiet.authority 0)).congr
        (by simp [hsequence])
    | true =>
      refine ReturnsIff.congr (snapshotThenSwitch_returns hquiet hnotify hsequence hgenuine
        fun target supervisor' hgeneration hfollowed hentered => ?_) (by simp [hsequence])
      refine activate_returns hquiet hnotify hentered ?_ (hgenuine.next hfollowed)
      change u64Max - (supervisor.streamGeneration + 1) ≤ _
      omega
  · exact (snapshot_exhausted hsequence).congr (by simp [hsequence])

theorem poll_returns (hquiet : surroundings.Undisturbed)
    (hgenuine : Genuine surroundings.stages supervisor.profiles supervisor.sessionInstanceId 0
      supervisor.profile) :
    ReturnsIff (Sustained config surroundings supervisor) (poll config surroundings)
      supervisor := by
  rw [ReturnsIff, poll, ends_bind]
  refine ((processRecoveryRequests_ends _ supervisor).mono_error
    fun _ supervisor' h hsustained => ?_).mono fun recovered middle hrecovered => ?_
  · rcases h.2 with hfaulty | hunreadable | hfaulty | hunreadable
    · exact hquiet.recovery .compd hfaulty
    · exact hunreadable hsustained.compd
    · exact hquiet.recovery .lockd hfaulty
    · exact hunreadable hsustained.lockd
  obtain ⟨htended, ⟨hcompd, hlockd⟩, hexecuted, hidle⟩ := hrecovered
  rw [ends_bind]
  refine ((pollAll_ends config surroundings middle).mono_error
    fun _ supervisor' h _ => h.2 hquiet.watched).mono fun polled watched hpolled => ?_
  have heventful : (recovered || polled) = true ↔ surroundings.Eventful supervisor := by
    rw [Bool.or_eq_true, hpolled.2, hexecuted, PollSurroundings.Eventful]
    refine or_congr_right' fun hnone => ?_
    rw [hidle (by rw [← Bool.not_eq_true, hexecuted]; exact hnone)]
  have hall := htended.trans hpolled.1
  split_ifs with hevent
  · have hhappened := heventful.mp hevent
    rw [ends_bind, ends_get, ends_bind]
    have hwatched : Genuine surroundings.stages watched.profiles watched.sessionInstanceId 0
        watched.profile := by
      rw [hall.same.profiles, hall.same.session, hall.same.profile]
      exact hgenuine
    have hsnapshot := pollSnapshot_returns config hquiet hwatched
    rw [hall.sequence, hall.same.profiles, hall.same.standing] at hsnapshot
    refine (hsnapshot.congr ?_ : ReturnsIff _ _ watched).mono fun _ _ h => h
    exact ⟨fun h => ⟨hcompd, hlockd, fun _ => h.1, fun _ => h.2⟩,
      fun h => ⟨h.sequence hhappened, h.targets hhappened⟩⟩
  · have hnothing : ¬ surroundings.Eventful supervisor := fun h => hevent (heventful.mpr h)
    exact ⟨hcompd, hlockd, fun h => absurd h hnothing, fun h => absurd h hnothing⟩

theorem poll_survives_iff {config : Config} {surroundings : PollSurroundings}
    {supervisor : SessionSupervisor} (hquiet : surroundings.Undisturbed)
    (hgenuine : Genuine surroundings.stages supervisor.profiles supervisor.sessionInstanceId 0
      supervisor.profile) :
    (∃ event supervisor', poll config surroundings supervisor = .ok event supervisor') ↔
      Sustained config surroundings supervisor :=
  (poll_returns hquiet hgenuine).result

/-- A supervisor of one profile, whose shell runs for the fourth time. -/
def watching (profile : DesktopProfile) (profiles : List DesktopProfile) : SessionSupervisor :=
  { SessionSupervisor.new profile profiles "seat-0" 1 installed with
    components := (freshComponents profile installed).map fun runtime =>
      { runtime with
        state := { runtime.state with state := .spawned, pid := some 100, restartCount := 3 }
        child := some 100 } }

/-- The state after the shell has exited once more. -/
def crashedState (profile : DesktopProfile) : SessionLaunchState :=
  { (watching profile []).launchState 0 with
    components := (freshComponents profile installed).map fun runtime =>
      { runtime.state with state := .failed, restartCount := 4 } }

/-- The shell exits, the watchdog reports on it once, and then it is gone. So are the files of
requests that were found, before they are read. -/
def crashing (profile : DesktopProfile) (found : Option (List UInt8)) : PollSurroundings :=
  { recovery := fun _ => { found, parse := fun _ => .error "expected value at line 1 column 1" }
    waits := fun _ => .exited (some 1)
    spawned := fun _ => none
    stages := fun stage =>
      match stage with
      | 0 =>
        { resolve := installed
          answer := .ok (inspectLaunchState (fun _ => true) 0 (crashedState profile)) }
      | _ => { resolve := installed, answer := .error "watchdog is not there" } }

theorem crashing_undisturbed (profile : DesktopProfile) (found : Option (List UInt8)) :
    (crashing profile found).Undisturbed where
  recovery := by
    intro role hfaulty
    rcases hfaulty with h | h <;> exact h rfl
  watched := by
    intro index text h
    cases h
  launch := by
    intro stage
    cases stage <;> rfl
  authority := by
    intro stage
    cases stage <;> rfl
  active := by
    intro stage
    cases stage <;> rfl
  transition := by
    intro stage
    cases stage <;> rfl

theorem crashing_genuine (h : StateOf profile "seat-0" (crashedState profile))
    (found : Option (List UInt8)) :
    Genuine (crashing profile found).stages profiles "seat-0" 0 profile := by
  intro steps reached report hactive hanswer
  cases steps with
  | zero =>
    obtain rfl := Option.some.inj hactive
    obtain rfl := Except.ok.inj hanswer
    exact ⟨fun _ => true, 0, crashedState profile, h, rfl⟩
  | succ steps => cases hanswer

theorem crashing_stays {found : Option (List UInt8)} (standing : Standing) :
    Descends (crashing profile found).stages profiles 1 standing := by
  rw [descends_iff]
  refine ⟨fun htriggered => ?_, fun target htarget => (by cases htarget)⟩
  obtain ⟨report, hanswer, -⟩ := htriggered
  cases hanswer

theorem soleProfile_state : StateOf soleProfile "seat-0" (crashedState soleProfile) where
  profileId := rfl
  session := rfl
  displayName := rfl
  protocol := rfl
  components := rfl
  distinct := by decide
  bounded := by decide

theorem crashedShell_survives :
    ∃ event supervisor', poll { notifyWatchdog := true } (crashing soleProfile none)
      (watching soleProfile [rescueProfile]) = .ok event supervisor' := by
  refine (poll_survives_iff (crashing_undisturbed soleProfile none)
    (crashing_genuine soleProfile_state none)).mpr ?_
  refine ⟨fun h => (by cases h), fun h => (by cases h), fun _ => by decide, fun _ _ => ?_⟩
  rw [descends_iff]
  refine ⟨fun _ id hid => ?_, fun target htarget => ⟨by decide, crashing_stays _⟩⟩
  obtain rfl := Option.some.inj hid
  exact ⟨by decide, rescueProfile, List.mem_cons_self, rfl⟩

/-- A profile that degrades to itself. -/
def stubbornProfile : DesktopProfile := { soleProfile with degradedProfileId := some "seat-shell" }

theorem stubbornProfile_state :
    StateOf stubbornProfile "seat-0" (crashedState stubbornProfile) where
  profileId := rfl
  session := rfl
  displayName := rfl
  protocol := rfl
  components := rfl
  distinct := by decide
  bounded := by decide

/-- What a poll has to live through, and does not. -/
def PollFails (surroundings : PollSurroundings) (supervisor : SessionSupervisor) : Prop :=
  surroundings.Undisturbed ∧
    Genuine surroundings.stages supervisor.profiles supervisor.sessionInstanceId 0
      supervisor.profile ∧
    ∃ err supervisor', poll { notifyWatchdog := true } surroundings supervisor =
      .error err supervisor'

/-- A profile that degrades to itself; a request that is gone when it is read. -/
theorem poll_fails :
    PollFails (crashing stubbornProfile none) (watching stubbornProfile [stubbornProfile]) ∧
      PollFails (crashing soleProfile (some [])) (watching soleProfile [rescueProfile]) := by
  refine ⟨⟨crashing_undisturbed stubbornProfile none,
    crashing_genuine stubbornProfile_state none, _, _, rfl⟩, ?_⟩
  exact ⟨crashing_undisturbed soleProfile (some []),
    crashing_genuine soleProfile_state (some []), _, _, rfl⟩

end TuffXwin.Sessiond
