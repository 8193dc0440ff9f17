import Mathlib.Data.Multiset.AddSub
import TuffXwin.Sessiond.Commands
import TuffXwin.Sessiond.Descent

/-! What a session knows of idling and of suspends. Commands keep it up to date; a switch to
another profile makes a new supervisor, which knows nothing of it. -/

namespace TuffXwin.Sessiond
open Lib Watchdog

variable {profiles : List DesktopProfile} {debug : SessionCommand → String}
  {stages : Nat → StageSurroundings}
variable {request : IpcEnvelope} {command : SessionCommand} {stage : StageSurroundings}

structure IdleState where
  idleInhibitors : List String := []
  isSuspended : Bool := false
  suspendCount : Nat := 0
  deriving DecidableEq, Repr

def SessionSupervisor.idleState (supervisor : SessionSupervisor) : IdleState :=
  ⟨supervisor.idleInhibitors, supervisor.isSuspended, supervisor.suspendCount⟩

/-- The command of a request that is for the session and may be given by its source. -/
def IpcEnvelope.accepted (request : IpcEnvelope) : Option SessionCommand :=
  match request.kind with
  | .sessionCommand command =>
    if request.destination = .sessiond ∧
        sessionCommandSourceAuthorized request.source command = true then
      some command
    else none
  | .other _ => none

theorem accepted_source (h : request.accepted = some command) :
    sessionCommandSourceAuthorized request.source command = true := by
  unfold IpcEnvelope.accepted at h
  split at h
  · split_ifs at h with haccepted
    obtain rfl := Option.some.inj h
    exact haccepted.2
  · cases h

/-- The inhibits that were accepted and not released, whether the last of the suspends and
resumes was a suspend, and how many suspends there were. -/
structure IdleRecord where
  inhibitors : Multiset String := 0
  suspended : Bool := false
  suspends : Nat := 0
  deriving DecidableEq

namespace IdleRecord

def told (record : IdleRecord) : SessionCommand → IdleRecord
  | .inhibitIdle reason => { record with inhibitors := reason ::ₘ record.inhibitors }
  | .releaseIdle reason => { record with inhibitors := record.inhibitors.erase reason }
  | .suspendRequested => { record with suspended := true, suspends := record.suspends + 1 }
  | .resumeHint _ _ => { record with suspended := false }
  | _ => record

def after (record : IdleRecord) : ServeStep → IdleRecord
  | .poll _ => record
  | .client request _ => (request.accepted.map record.told).getD record

end IdleRecord

/-- The session is in the state that its commands lead to. -/
structure IdleState.Agrees (idle : IdleState) (record : IdleRecord) : Prop where
  inhibitors : (idle.idleInhibitors : Multiset String) = record.inhibitors
  suspended : idle.isSuspended = record.suspended
  suspends : idle.suspendCount = record.suspends

/-- What a command of a client makes of the idle state; a report of the watchdog is another
matter. -/
def IdleState.told (idle : IdleState) : SessionCommand → IdleState
  | .inhibitIdle reason => { idle with idleInhibitors := idle.idleInhibitors ++ [reason] }
  | .releaseIdle reason => { idle with idleInhibitors := idle.idleInhibitors.erase reason }
  | .suspendRequested =>
    { idle with isSuspended := true, suspendCount := bump idle.suspendCount }
  | .resumeHint _ _ => { idle with isSuspended := false }
  | _ => idle

/-- `serve_ipc` with a supervisor, until a poll fails. The record is read by nothing. -/
structure Serving where
  supervisor : SessionSupervisor
  record : IdleRecord := {}
  running : Bool := true

variable {serving : Serving}

def Serving.step (debug : SessionCommand → String) (config : Config)
    (profiles : List DesktopProfile) (serving : Serving) (step : ServeStep) : Serving :=
  match serveStep debug config profiles step serving.supervisor with
  | .ok _ supervisor => { supervisor, record := serving.record.after step, running := true }
  | .error _ supervisor => { supervisor, record := serving.record.after step, running := false }

/-- The runs of a session from its bootstrap. -/
def serveRuns (debug : SessionCommand → String) (config : Config)
    (profiles : List DesktopProfile) : System Serving ServeStep where
  init serving := ∃ sessionInstanceId profile streamGeneration stages activated,
    bootstrap config profiles sessionInstanceId profile streamGeneration stages =
      (.ok serving.supervisor, activated) ∧ serving.record = {} ∧ serving.running = true
  next serving step :=
    if serving.running then serving.step debug config profiles step else serving

/-! Which steps switch to another profile. -/

/-- The snapshot at a stage is written and the answer to it leads to the profile. -/
structure StageSurroundings.LeadsTo (stage : StageSurroundings) (config : Config)
    (supervisor : SessionSupervisor) (target : DesktopProfile) : Prop where
  notify : config.notifyWatchdog = true
  sequence : supervisor.streamSequence < u64Max
  launch : stage.launchFault = none
  authority : stage.authorityFault = none
  report : ∃ report transition, stage.answer = .ok report ∧
    applyWatchdogReport supervisor.profile supervisor.profiles report
      supervisor.sessionInstanceId stage.now = .ok (.transition target transition)
  active : stage.activeFault = none
  transition : stage.transitionFault = none

/-- The requests and the processes are dealt with, and there is something to report. -/
def PollSurroundings.eventful (surroundings : PollSurroundings) (config : Config)
    (supervisor : SessionSupervisor) : Bool :=
  match processRecoveryRequests surroundings.recovery supervisor with
  | .error _ _ => false
  | .ok recovered supervisor =>
    match pollAll config surroundings supervisor with
    | .error _ _ => false
    | .ok polled _ => recovered || polled

/-- The poll reports, the answer leads to a profile, and there is a generation for it. -/
structure PollSurroundings.Switches (surroundings : PollSurroundings) (config : Config)
    (supervisor : SessionSupervisor) : Prop where
  eventful : surroundings.eventful config supervisor = true
  leads : ∃ target, (surroundings.stages 0).LeadsTo config supervisor target
  generation : supervisor.streamGeneration < u64Max

/-- The report is of the session, asks for a profile, and there is a generation for it. -/
structure StageSurroundings.SwitchesOn (stage : StageSurroundings)
    (profiles : List DesktopProfile) (supervisor : SessionSupervisor)
    (report : SessionWatchdogReport) : Prop where
  valid : validateSessionInstanceId report.sessionInstanceId = true
  session : report.sessionInstanceId = supervisor.sessionInstanceId
  report : ∃ target transition, applyWatchdogReport supervisor.profile profiles report
    supervisor.sessionInstanceId stage.now = .ok (.transition target transition)
  active : stage.activeFault = none
  transition : stage.transitionFault = none
  generation : supervisor.streamGeneration < u64Max

/-- A command that the idle state is kept by. -/
def SessionCommand.KeepsIdle (profiles : List DesktopProfile)
    (stage : StageSurroundings) (supervisor : SessionSupervisor) : SessionCommand → Prop
  | .suspendRequested => supervisor.suspendCount < u32Max
  | .applyWatchdogReport report =>
    stage.SwitchesOn profiles supervisor report → supervisor.idleState = {}
  | _ => True

/-- No step switches while there is something to lose, and the suspends fit their word. -/
def ServeStep.KeepsIdle (config : Config) (profiles : List DesktopProfile)
    (serving : Serving) (step : ServeStep) : Prop :=
  serving.running = true →
    match step with
    | .poll surroundings =>
      surroundings.Switches config serving.supervisor → serving.supervisor.idleState = {}
    | .client request stages => ∀ command, request.accepted = some command →
      command.KeepsIdle profiles (stages 0) serving.supervisor

/-! What the programs of the supervisor leave. -/

/-- The program ends with this idle state, whether it fails or not. -/
def Leaves (idle : IdleState) {α : Type} (m : SupervisorM α) (supervisor : SessionSupervisor) :
    Prop :=
  Ends (fun _ supervisor' => supervisor'.idleState = idle) m supervisor
    fun _ supervisor' => supervisor'.idleState = idle

variable {idle : IdleState} {config : Config} {supervisor supervisor' : SessionSupervisor}

theorem SessionSupervisor.Tended.idleState (h : supervisor.Tended supervisor') :
    supervisor'.idleState = supervisor.idleState := by
  obtain ⟨_, rfl⟩ := h
  rfl

/-- A switch that is made leaves what its activation does, and one that is not leaves all. -/
theorem switchTo_leaves {next : SupervisorM Unit} {target : DesktopProfile}
    (hfresh : supervisor.streamGeneration < u64Max → idle = {})
    (hstays : ¬ supervisor.streamGeneration < u64Max → supervisor.idleState = idle)
    (hnext : ∀ supervisor', supervisor'.idleState = {} → Leaves {} next supervisor') :
    Leaves idle (switchTo stage next target) supervisor := by
  rw [switchTo, Leaves, ends_bind, stopAll, ends_modify, ends_bind, ends_get]
  dsimp only
  by_cases hgeneration : supervisor.streamGeneration < u64Max
  · have hchecked : usizeChecked (supervisor.streamGeneration + 1) =
        some (supervisor.streamGeneration + 1) := usizeChecked_eq_some.mpr ⟨hgeneration, rfl⟩
    obtain rfl := hfresh hgeneration
    rw [hchecked]
    dsimp only
    rw [ends_bind, ends_set]
    exact hnext _ rfl
  · have hchecked : usizeChecked (supervisor.streamGeneration + 1) = none := by
      rw [usizeChecked, if_neg (by omega)]
    rw [hchecked]
    exact hstays hgeneration

/-- A snapshot leaves the idle state, up to the switch that the answer to it leads to. -/
theorem writeSnapshot_leaves {switch : DesktopProfile → SupervisorM Unit}
    (hstays : (∀ target, ¬ stage.LeadsTo config supervisor target) → supervisor.idleState = idle)
    (hswitch : ∀ target supervisor', stage.LeadsTo config supervisor target →
      supervisor.Same supervisor' → supervisor'.idleState = supervisor.idleState →
        Leaves idle (switch target) supervisor') :
    Leaves idle (writeSnapshot config stage switch) supervisor := by
  rw [Leaves, writeSnapshot, ends_bind, snapshot, ends_bind, ends_get]
  cases hnumber : usizeChecked (supervisor.streamSequence + 1) with
  | none =>
    refine hstays fun target hleads => ?_
    rw [usizeChecked_eq_some.mpr ⟨hleads.sequence, rfl⟩] at hnumber
    cases hnumber
  | some streamSequence =>
    have hsequence := (usizeChecked_eq_some.mp hnumber).1
    rw [ends_bind, ends_set, ends_pure, ends_bind, ends_orFail]
    refine ⟨fun err herr => ?_, fun hlaunch => ?_⟩
    · exact hstays fun target hleads => by simp [hleads.launch] at herr
    rw [ends_bind, ends_orFail]
    refine ⟨fun err herr => ?_, fun hauthority => ?_⟩
    · exact hstays fun target hleads => by simp [hleads.authority] at herr
    split_ifs with hnotify
    · cases hanswer : stage.answer with
      | error err =>
        refine hstays fun target hleads => ?_
        obtain ⟨report, -, hreport, -⟩ := hleads.report
        cases hanswer.symm.trans hreport
      | ok report =>
        dsimp only
        rw [ends_bind, ends_modify, applyWatchdogStreamReport, ends_bind, ends_get]
        dsimp only
        cases happly : applyWatchdogReport supervisor.profile supervisor.profiles report
          supervisor.sessionInstanceId stage.now with
        | error err =>
          refine hstays fun target hleads => ?_
          obtain ⟨report', transition, hreport, happly'⟩ := hleads.report
          obtain rfl := Except.ok.inj (hanswer.symm.trans hreport)
          cases happly.symm.trans happly'
        | ok outcome =>
          cases outcome with
          | unchanged =>
            refine hstays fun target hleads => ?_
            obtain ⟨report', transition, hreport, happly'⟩ := hleads.report
            obtain rfl := Except.ok.inj (hanswer.symm.trans hreport)
            cases happly.symm.trans happly'
          | transition target transition =>
            dsimp only
            rw [ends_bind, ends_orFail]
            refine ⟨fun err herr => ?_, fun hactive => ?_⟩
            · exact hstays fun target hleads => by simp [hleads.active] at herr
            rw [ends_bind, ends_orFail]
            refine ⟨fun err herr => ?_, fun htransition => ?_⟩
            · exact hstays fun target hleads => by simp [hleads.transition] at herr
            refine hswitch target _ ⟨hnotify, hsequence, hlaunch, hauthority, ?_, hactive,
              htransition⟩ ⟨rfl, rfl, rfl, rfl⟩ rfl
            exact ⟨report, transition, hanswer, happly⟩
    · exact hstays fun target hleads => hnotify hleads.notify

/-- An activation with nothing to lose loses nothing, however often it switches. -/
theorem activate_leaves (config : Config) (stages : Nat → StageSurroundings)
    (generationsLeft stage : Nat) (h : supervisor.idleState = {}) :
    Leaves {} (activate config stages generationsLeft stage) supervisor := by
  induction generationsLeft generalizing stage supervisor with
  | zero =>
    rw [activate, activateStage, Leaves, ends_bind, ends_modify]
    refine writeSnapshot_leaves (fun _ => h) fun target supervisor' _ _ hsame => ?_
    exact switchTo_leaves (fun _ => rfl) (fun _ => hsame.trans h) fun supervisor'' h'' => h''
  | succ generationsLeft ih =>
    rw [activate, activateStage, Leaves, ends_bind, ends_modify]
    refine writeSnapshot_leaves (fun _ => h) fun target supervisor' _ _ hsame => ?_
    exact switchTo_leaves (fun _ => rfl) (fun _ => hsame.trans h)
      fun supervisor'' h'' => ih (stage + 1) h''

theorem bootstrap_idle {sessionInstanceId : String} {profile : Except String DesktopProfile}
    {streamGeneration : Except String Nat} {activated : List String}
    (h : bootstrap config profiles sessionInstanceId profile streamGeneration stages =
      (.ok supervisor, activated)) : supervisor.idleState = {} := by
  unfold bootstrap at h
  cases profile with
  | error err => cases h
  | ok profile =>
    cases streamGeneration with
    | error err => cases h
    | ok streamGeneration =>
      dsimp only at h
      have hfresh : (SessionSupervisor.new profile profiles sessionInstanceId streamGeneration
          (stages 0).resolve).idleState = {} := rfl
      have hleaves := activate_leaves config stages (u64Max - streamGeneration) 0 hfresh
      split at h
      · rename_i supervisor' hactivate
        obtain rfl := Except.ok.inj (Prod.mk.inj h).1
        exact hleaves.ok hactivate
      · cases h

/-- A poll leaves the idle state unless it switches, and then there is none. -/
theorem poll_leaves {surroundings : PollSurroundings}
    (hfresh : surroundings.Switches config supervisor → idle = {})
    (hstays : ¬ surroundings.Switches config supervisor → supervisor.idleState = idle) :
    Leaves idle (poll config surroundings) supervisor := by
  have hquiet : surroundings.eventful config supervisor = false → supervisor.idleState = idle := by
    intro hquiet
    refine hstays fun hswitches => ?_
    rw [hswitches.eventful] at hquiet
    cases hquiet
  unfold PollSurroundings.eventful at hquiet
  rw [Leaves, poll, ends_bind]
  have hrequests := processRecoveryRequests_ends surroundings.recovery supervisor
  cases hrecovery : processRecoveryRequests surroundings.recovery supervisor with
  | error err middle =>
    rw [hrecovery] at hquiet
    rw [ends_of_error hrecovery]
    exact (hrequests.error hrecovery).1.idleState.trans (hquiet rfl)
  | ok recovered middle =>
    have hmiddle := (hrequests.ok hrecovery).1
    have hprocesses := pollAll_ends config surroundings middle
    rw [hrecovery] at hquiet
    rw [ends_of_ok hrecovery, ends_bind]
    dsimp only at hquiet
    cases hpoll : pollAll config surroundings middle with
    | error err polled =>
      rw [hpoll] at hquiet
      rw [ends_of_error hpoll]
      exact (hmiddle.trans (hprocesses.error hpoll).1).idleState.trans (hquiet rfl)
    | ok polled after =>
      have htended := hmiddle.trans (hprocesses.ok hpoll).1
      rw [hpoll] at hquiet
      rw [ends_of_ok hpoll]
      dsimp only at hquiet
      cases hevent : recovered || polled with
      | false => exact htended.idleState.trans (hquiet hevent)
      | true =>
        have heventful : surroundings.eventful config supervisor = true := by
          unfold PollSurroundings.eventful
          rw [hrecovery]
          dsimp only
          rw [hpoll]
          exact hevent
        rw [if_pos rfl, ends_bind, ends_get, ends_bind]
        refine Ends.mono (Q := fun _ supervisor' => supervisor'.idleState = idle) ?_
          fun _ supervisor' h => ends_pure.mpr h
        obtain ⟨_, rfl⟩ := htended
        refine writeSnapshot_leaves (fun hstill => hstays fun hswitches => ?_) ?_
        · obtain ⟨target, hleads⟩ := hswitches.leads
          exact hstill target ⟨hleads.notify, hleads.sequence, hleads.launch, hleads.authority,
            hleads.report, hleads.active, hleads.transition⟩
        · intro target supervisor' hleads hsame hidle
          have hswitches : supervisor'.streamGeneration < u64Max →
              surroundings.Switches config supervisor := fun hgeneration =>
            ⟨heventful, ⟨target, hleads.notify, hleads.sequence, hleads.launch, hleads.authority,
              hleads.report, hleads.active, hleads.transition⟩, hsame.generation ▸ hgeneration⟩
          refine switchTo_leaves (fun hgeneration => hfresh (hswitches hgeneration))
            (fun hgeneration => hidle.trans (hstays fun hmade => ?_)) ?_
          · exact hgeneration (hsame.generation ▸ hmade.generation)
          · exact fun supervisor'' hfresh => activate_leaves config surroundings.stages _ 1 hfresh

theorem handleSessionCommand_leaves {source : ServiceRole}
    (hsource : sessionCommandSourceAuthorized source command = true)
    (hother : ∀ report, command ≠ .applyWatchdogReport report) :
    Leaves (supervisor.idleState.told command)
      (handleSessionCommand debug config profiles stages source command) supervisor := by
  unfold handleSessionCommand
  rw [if_neg (by simp [hsource])]
  cases command with
  | applyWatchdogReport report => exact absurd rfl (hother report)
  | _ => rfl

/-- A report of the watchdog leaves the idle state unless it switches. -/
theorem applyReport_leaves {report : SessionWatchdogReport}
    (hfresh : (stages 0).SwitchesOn profiles supervisor report → idle = {})
    (hstays : ¬ (stages 0).SwitchesOn profiles supervisor report → supervisor.idleState = idle) :
    Leaves idle (handleSessionCommand debug config profiles stages .watchdog
      (.applyWatchdogReport report)) supervisor := by
  unfold handleSessionCommand
  rw [if_neg (by simp [sessionCommandSourceAuthorized])]
  dsimp only
  split_ifs with hvalid
  · exact hstays fun hswitches => by simp [hswitches.valid] at hvalid
  rw [Leaves, ends_bind, ends_get]
  split_ifs with hsession
  · exact hstays fun hswitches => hsession hswitches.session
  cases happly : applyWatchdogReport supervisor.profile profiles report
      supervisor.sessionInstanceId (stages 0).now with
  | error err =>
    refine hstays fun hswitches => ?_
    obtain ⟨target, transition, happly'⟩ := hswitches.report
    cases happly.symm.trans happly'
  | ok outcome =>
    cases outcome with
    | unchanged =>
      refine hstays fun hswitches => ?_
      obtain ⟨target, transition, happly'⟩ := hswitches.report
      cases happly.symm.trans happly'
    | transition target transition =>
      dsimp only [persistWatchdogApplyOutcome]
      rw [ends_bind, ends_orFail]
      refine ⟨fun err herr => ?_, fun hactive => ?_⟩
      · exact hstays fun hswitches => by simp [hswitches.active] at herr
      rw [ends_bind, ends_orFail]
      refine ⟨fun err herr => ?_, fun htransition => ?_⟩
      · exact hstays fun hswitches => by simp [hswitches.transition] at herr
      rw [ends_bind]
      refine switchTo_leaves (fun hgeneration => hfresh ?_) (fun hgeneration => hstays ?_) ?_
      · exact ⟨by simpa using hvalid, not_not.mp hsession, ⟨target, transition, happly⟩, hactive,
          htransition, hgeneration⟩
      · exact fun hswitches => hgeneration hswitches.generation
      · exact fun supervisor' h => activate_leaves config stages _ 1 h

/-- A request ends as its command does, if it is accepted, and is only answered otherwise. -/
theorem buildResponse_leaves (hcommand : ∀ command, request.accepted = some command →
      Leaves idle (handleSessionCommand debug config profiles stages request.source command)
        supervisor) (hignored : request.accepted = none → supervisor.idleState = idle) :
    Leaves idle (buildResponse debug config profiles stages request) supervisor := by
  unfold IpcEnvelope.accepted at hcommand hignored
  rw [buildResponse, Leaves, ends_bind, responseKind]
  cases hkind : request.kind with
  | other debug =>
    rw [hkind] at hignored
    exact hignored rfl
  | sessionCommand command =>
    simp only [hkind] at hcommand hignored ⊢
    by_cases hdestination : request.destination = .sessiond
    · rw [if_pos hdestination, ends_tryCatch]
      cases hsource : sessionCommandSourceAuthorized request.source command with
      | true =>
        rw [hsource, if_pos ⟨hdestination, rfl⟩] at hcommand
        exact hcommand command rfl
      | false =>
        rw [hsource, if_neg (by simp)] at hignored
        unfold handleSessionCommand
        rw [if_pos hsource]
        exact hignored rfl
    · rw [if_neg (by simp [hdestination])] at hignored
      rw [if_neg hdestination]
      exact hignored rfl

/-! The record along the runs. -/

variable {record : IdleRecord}

/-- To know nothing is right only when there is nothing to know. -/
theorem IdleState.Agrees.fresh_iff (h : idle.Agrees record) :
    ({} : IdleState).Agrees record ↔ idle = {} := by
  constructor
  · intro hfresh
    obtain ⟨inhibitors, suspended, suspends⟩ := idle
    obtain ⟨hinhibitors, hsuspended, hsuspends⟩ := h
    have hnone : inhibitors = [] :=
      Multiset.coe_eq_zero _ |>.mp (hinhibitors.trans hfresh.inhibitors.symm)
    have hawake : suspended = false := hsuspended.trans hfresh.suspended.symm
    have hnever : suspends = 0 := hsuspends.trans hfresh.suspends.symm
    rw [hnone, hawake, hnever]
  · rintro rfl
    exact h

/-- A command of a client keeps the agreement, as long as the suspends fit their word. -/
theorem IdleState.Agrees.told_iff (h : idle.Agrees record) (command : SessionCommand) :
    (idle.told command).Agrees (record.told command) ↔
      (command = .suspendRequested → idle.suspendCount < u32Max) := by
  obtain ⟨hinhibitors, hsuspended, hsuspends⟩ := h
  cases command with
  | suspendRequested =>
    have hbump : bump idle.suspendCount = idle.suspendCount + 1 ↔ idle.suspendCount < u32Max := by
      unfold bump
      constructor
      · intro heq
        have := Nat.mod_lt (idle.suspendCount + 1) (Nat.add_one_pos u32Max)
        omega
      · intro hlt
        exact Nat.mod_eq_of_lt (by omega)
    rw [← hbump, IdleState.told, IdleRecord.told]
    refine ⟨fun hagrees _ => ?_, fun hcount => ⟨hinhibitors, rfl, ?_⟩⟩
    · rw [hsuspends]
      exact hsuspends ▸ hagrees.suspends
    · exact hsuspends ▸ hcount rfl
  | inhibitIdle reason =>
    refine iff_of_true ⟨?_, hsuspended, hsuspends⟩ nofun
    simp only [IdleState.told, IdleRecord.told, ← hinhibitors, ← Multiset.coe_add]
    exact Multiset.add_comm _ _
  | releaseIdle reason =>
    refine iff_of_true ⟨?_, hsuspended, hsuspends⟩ nofun
    rw [IdleState.told, IdleRecord.told, ← hinhibitors, Multiset.coe_erase]
  | resumeHint stage output => exact iff_of_true ⟨hinhibitors, rfl, hsuspends⟩ nofun
  | _ => exact iff_of_true ⟨hinhibitors, hsuspended, hsuspends⟩ nofun

/-- The session is in the state that the commands it was given lead to. -/
def Serving.Agrees (serving : Serving) : Prop :=
  serving.supervisor.idleState.Agrees serving.record

theorem serving_step_idle {step : ServeStep}
    (h : Leaves idle (serveStep debug config profiles step) serving.supervisor) :
    (serving.step debug config profiles step).Agrees ↔
      idle.Agrees (serving.record.after step) := by
  unfold Serving.step Serving.Agrees
  cases hstep : serveStep debug config profiles step serving.supervisor with
  | ok a supervisor =>
    dsimp only
    rw [h.ok hstep]
  | error err supervisor =>
    dsimp only
    rw [h.error hstep]

/-- What is kept by a step that may switch, and is not told of anything. -/
theorem serving_step_switches {step : ServeStep} (h : serving.Agrees) (switches : Prop)
    (hrecord : serving.record.after step = serving.record)
    (hleaves : ∀ idle, (switches → idle = {}) →
      (¬ switches → serving.supervisor.idleState = idle) →
        Leaves idle (serveStep debug config profiles step) serving.supervisor) :
    (serving.step debug config profiles step).Agrees ↔
      (switches → serving.supervisor.idleState = {}) := by
  by_cases hswitches : switches
  · have hfresh := hleaves {} (fun _ => rfl) fun hnot => absurd hswitches hnot
    rw [serving_step_idle hfresh, hrecord, h.fresh_iff]
    exact ⟨fun hnone _ => hnone, fun hnone => hnone hswitches⟩
  · have hsame := hleaves _ (fun hmade => absurd hmade hswitches) fun _ => rfl
    rw [serving_step_idle hsame, hrecord]
    exact iff_of_true h fun hmade => absurd hmade hswitches

/-- A step keeps the agreement just when it neither switches with something to lose nor counts
one suspend too many. -/
theorem serveStep_agrees_iff (h : serving.Agrees) (hrunning : serving.running = true)
    (step : ServeStep) :
    (serving.step debug config profiles step).Agrees ↔
      step.KeepsIdle config profiles serving := by
  unfold ServeStep.KeepsIdle
  simp only [hrunning, forall_const]
  cases step with
  | poll surroundings =>
    refine serving_step_switches h _ rfl fun idle hfresh hstays => ?_
    rw [serveStep, Leaves, ends_bind]
    exact poll_leaves hfresh hstays
  | client request stages =>
    have hresponse : ∀ idle, Leaves idle (buildResponse debug config profiles stages request)
        serving.supervisor → Leaves idle (serveStep debug config profiles (.client request stages))
          serving.supervisor := by
      intro idle hbuilt
      rw [serveStep, Leaves, ends_bind]
      exact hbuilt
    cases haccepted : request.accepted with
    | none =>
      have hbuilt := hresponse _ (buildResponse_leaves (fun command hcommand => by
        rw [haccepted] at hcommand
        cases hcommand) fun _ => rfl)
      rw [serving_step_idle hbuilt, IdleRecord.after, haccepted]
      refine iff_of_true h fun command hcommand => ?_
      cases haccepted.symm.trans hcommand
    | some command =>
      have hsource := accepted_source haccepted
      have hbuilt : ∀ idle, Leaves idle (handleSessionCommand debug config profiles stages
          request.source command) serving.supervisor →
            Leaves idle (serveStep debug config profiles (.client request stages))
              serving.supervisor := by
        intro idle hhandled
        refine hresponse idle (buildResponse_leaves (fun command' hcommand => ?_) fun hnone => ?_)
        · obtain rfl := Option.some.inj (haccepted.symm.trans hcommand)
          exact hhandled
        · cases haccepted.symm.trans hnone
      have hkeeps : (∀ command', request.accepted = some command' →
          command'.KeepsIdle profiles (stages 0) serving.supervisor) ↔
            command.KeepsIdle profiles (stages 0) serving.supervisor := by
        simp [haccepted]
      refine Iff.trans ?_ hkeeps.symm
      by_cases hreport : ∃ report, command = .applyWatchdogReport report
      · obtain ⟨report, rfl⟩ := hreport
        have hwatchdog : request.source = .watchdog := by
          simpa [sessionCommandSourceAuthorized] using hsource
        refine serving_step_switches h _ ?_ fun idle hfresh hstays => ?_
        · rw [IdleRecord.after, haccepted]
          rfl
        · refine hbuilt idle ?_
          rw [hwatchdog]
          exact applyReport_leaves hfresh hstays
      · have hother : ∀ report, command ≠ .applyWatchdogReport report :=
          fun report heq => hreport ⟨report, heq⟩
        have htold := hbuilt _ (handleSessionCommand_leaves hsource hother)
        rw [serving_step_idle htold, IdleRecord.after, haccepted]
        refine (IdleState.Agrees.told_iff h command).trans ?_
        cases command with
        | suspendRequested => simp [SessionCommand.KeepsIdle, SessionSupervisor.idleState]
        | applyWatchdogReport report => exact absurd rfl (hother report)
        | _ => simp [SessionCommand.KeepsIdle]

theorem serving_next_iff {step : ServeStep} (h : serving.Agrees) :
    ((serveRuns debug config profiles).next serving step).Agrees ↔
      step.KeepsIdle config profiles serving := by
  dsimp only [serveRuns]
  cases hrunning : serving.running with
  | true => exact serveStep_agrees_iff h hrunning step
  | false => exact iff_of_true h fun hran => by simp [hrunning] at hran

/-- All along a run the idle state is what the commands made it, just when every step keeps
it. -/
theorem serving_agrees_iff {debug : SessionCommand → String} {config : Config}
    {profiles : List DesktopProfile} {serving : Serving}
    (h : (serveRuns debug config profiles).init serving) (steps : List ServeStep) :
    (∀ served, served <+: steps →
        ((serveRuns debug config profiles).run serving served).Agrees) ↔
      (serveRuns debug config profiles).Throughout
        (fun serving step => step.KeepsIdle config profiles serving) serving steps := by
  obtain ⟨_, _, _, _, _, hbootstrap, hrecord, -⟩ := h
  refine System.always_iff_throughout (J := fun _ => True) (fun _ _ _ _ _ => trivial)
    (fun serving step _ => serving_next_iff) trivial ?_ steps
  rw [Serving.Agrees, bootstrap_idle hbootstrap, hrecord]
  exact ⟨rfl, rfl, rfl⟩

/-- Every write succeeds, and the watchdog is not asked. -/
def unasked : Nat → StageSurroundings := fun _ =>
  { resolve := fun _ => none, answer := .error "watchdog is not there" }

/-- The supervisor of a session that has been started with the shell. -/
def startedShell : SessionSupervisor :=
  { SessionSupervisor.new shellProfile [rescueProfile, shellProfile] "seat-0" 1 fun _ => none with
    streamSequence := 1, activated := ["shell"] }

def inhibitVideo : ServeStep :=
  .client ⟨.waylandd, .sessiond, .sessionCommand (.inhibitIdle "video")⟩ unasked

/-- The shell is not installed, and the watchdog says so. -/
def reportShell : ServeStep :=
  .client ⟨.watchdog, .sessiond, .sessionCommand (.applyWatchdogReport
    (inspectLaunchState (fun _ => true) 0 (startedShell.launchState 0)))⟩ unasked

theorem startedShell_starts (debug : SessionCommand → String) :
    (serveRuns debug {} [rescueProfile, shellProfile]).init { supervisor := startedShell } :=
  ⟨"seat-0", .ok shellProfile, .ok 1, unasked, ["shell"], rfl, rfl, rfl⟩

theorem inhibitVideo_agrees :
    ((serveRuns (fun _ => "") {} [rescueProfile, shellProfile]).run
      { supervisor := startedShell } [inhibitVideo]).Agrees := by
  have hagrees := (serving_agrees_iff (startedShell_starts fun _ => "") [inhibitVideo]).mpr
    ⟨?_, trivial⟩
  · exact hagrees _ List.prefix_rfl
  · rintro - command hcommand
    obtain rfl := Option.some.inj hcommand
    trivial

def servedShell (steps : List ServeStep) : Serving :=
  (serveRuns (fun _ => "") {} [rescueProfile, shellProfile]).run { supervisor := startedShell }
    steps

/-- A video keeps the session from going idle until the shell is given up for the rescue
profile. -/
theorem video_forgotten :
    (serveRuns (fun _ => "") {} [rescueProfile, shellProfile]).init (servedShell []) ∧
      (servedShell [inhibitVideo, reportShell]).record.inhibitors = {"video"} ∧
      (servedShell [inhibitVideo, reportShell]).supervisor.idleInhibitors = [] ∧
      ¬ ∀ served, served <+: [inhibitVideo, reportShell] → (servedShell served).Agrees := by
  have hrecord : (servedShell [inhibitVideo, reportShell]).record.inhibitors = {"video"} := rfl
  have hforgotten : (servedShell [inhibitVideo, reportShell]).supervisor.idleInhibitors = [] := by
    decide +kernel
  refine ⟨startedShell_starts _, hrecord, hforgotten, fun hagrees => ?_⟩
  have hkept := (hagrees _ List.prefix_rfl).inhibitors
  rw [hrecord, SessionSupervisor.idleState, hforgotten] at hkept
  cases congrArg Multiset.card hkept

end TuffXwin.Sessiond
