import TuffXwin.Displayd.Backends
import TuffXwin.Displayd.Pacing

/-! Presentation pacing over runs of displayd. The tick a connection makes is computed
from its command, and a log of the ticks of every registered output is carried along. -/

namespace TuffXwin.Displayd
open Lib

variable {s : DisplayState} {generation : Nat} {r : OutputRuntime}
variable {s' : DisplayState}

/-- The tick that reaches an output: the driver, the time and the number. -/
structure OutputTick where
  id : String
  runtime : OutputRuntime
  driver : TickDriver
  nowNs : Nat
  tickSequence : Nat

variable {t : OutputTick}

def OutputTick.record (t : OutputTick) : TickRecord :=
  recordTick t.runtime t.id t.driver t.nowNs t.tickSequence

/-- The registered output a tick for this generation reaches. -/
def DisplayState.reaches (s : DisplayState) (id : String) (generation : Nat) :
    Option OutputRuntime :=
  (s.outputs.get? id).filter fun r =>
    r.state.outputGeneration = generation ∧ r.scheduler.outputGeneration = generation

/-- The output a feedback query drives. -/
def feedbackOutput (s : DisplayState) (commitId : Nat) : Option String :=
  if s.presentationFeedbacks.contains commitId then none
  else
    match s.presentationObligations.get? commitId, s.lastScene with
    | some o, some _ => (OrdSet.difference o.requiredOutputs o.presentedOutputs).head?
    | _, _ => none

def feedbackTick (s : DisplayState) (env : Env) (id : String) : Option OutputTick :=
  (s.outputs.get? id).bind fun r =>
    (s.reaches id r.state.outputGeneration).map fun r =>
      ⟨id, r, .feedback, driveClock env r, satAdd r.scheduler.lastTickSequence 1⟩

/-- The tick a command makes. -/
def commandTick (s : DisplayState) (env : Env) : DisplayCommand → Option OutputTick
  | .advancePresentation id generation now tick =>
    (s.reaches id generation).map fun r => ⟨id, r, .command, now, tick⟩
  | .getPresentationFeedback commitId =>
    (feedbackOutput s commitId).bind fun id => feedbackTick s env id
  | _ => none

abbrev TickLogs := String → List TickRecord

variable {logs : TickLogs}

def TickLogs.add (logs : TickLogs) (t : OutputTick) : TickLogs :=
  fun id => if id = t.id then t.record :: logs id else logs id

/-- The logs of the outputs whose clocks have not moved; those of others start anew. -/
def TickLogs.keep (logs : TickLogs) (s s' : DisplayState) : TickLogs :=
  fun id => if s'.clockOf id = s.clockOf id then logs id else []

theorem DisplayState.reaches_some {id : String} (h : s.reaches id generation = some r) :
    s.outputs.get? id = some r ∧ r.state.outputGeneration = generation ∧
      r.scheduler.outputGeneration = generation := by
  unfold DisplayState.reaches at h
  obtain ⟨hr, hgeneration⟩ := Option.filter_eq_some_iff.mp h
  rw [decide_eq_true_eq] at hgeneration
  exact ⟨hr, hgeneration⟩

theorem advancePresentation_reaches {id : String} (h : s.reaches id generation = some r)
    (now tick : Nat) :
    advancePresentation s id generation now tick =
      (s.modifyOutput id fun _ => (advanceRuntime r id now tick).1,
        (advanceRuntime r id now tick).2) := by
  obtain ⟨hr, hstate, hscheduler⟩ := DisplayState.reaches_some h
  unfold advancePresentation
  rw [hr]
  dsimp only
  rw [if_neg (by simp [hstate, hscheduler])]

theorem advancePresentation_stray {id : String} (h : s.reaches id generation = none)
    (now tick : Nat) :
    (advancePresentation s id generation now tick).1 = s ∧
      ∃ fault, (advancePresentation s id generation now tick).2 = .error fault := by
  unfold DisplayState.reaches at h
  unfold advancePresentation
  cases hr : s.outputs.get? id with
  | none => exact ⟨rfl, _, rfl⟩
  | some r =>
    rw [hr, Option.filter_some, ite_eq_right_iff] at h
    dsimp only
    split_ifs with hstale
    · exact ⟨rfl, _, rfl⟩
    · rw [not_or, not_not, not_not] at hstale
      exact absurd (h (by simp [hstale])) (by simp)

/-- After a tick its output has the clock of the advanced runtime, and the others theirs. -/
def Ticked (s : DisplayState) (t : OutputTick) (s' : DisplayState) : Prop :=
  s.outputs.get? t.id = some t.runtime ∧
    ∀ id, s'.clockOf id =
      if id = t.id then
        some (advanceRuntime t.runtime t.id t.nowNs t.tickSequence).1.clock
      else s.clockOf id

theorem ticked_advance {id : String} (h : s.reaches id generation = some r) (driver : TickDriver)
    (now tick : Nat) :
    Ticked s ⟨id, r, driver, now, tick⟩ (advancePresentation s id generation now tick).1 := by
  obtain ⟨hr, _, _⟩ := DisplayState.reaches_some h
  refine ⟨hr, fun id' => ?_⟩
  rw [advancePresentation_reaches h, DisplayState.clockOf, DisplayState.modifyOutput_get?]
  dsimp only
  split_ifs with hid
  · rw [hid, hr, Option.map_some, Option.map_some]
  · rfl

theorem Ticked.kept {s'' : DisplayState} (h : Ticked s t s') (hk : ClocksKept s' s'') :
    Ticked s t s'' :=
  ⟨h.1, fun id => (hk id).trans (h.2 id)⟩

section Commands

variable {β : Type} [DisplayBackend β]

theorem advanceAndPublish_ticked (d : Display β) (env : Env) {id : String}
    (h : d.state.reaches id generation = some r) (now tick : Nat) :
    Ticked d.state ⟨id, r, .command, now, tick⟩
      (d.advanceAndPublish env id generation now tick).1.state := by
  have htick := ticked_advance h .command now tick
  unfold Display.advanceAndPublish
  dsimp only
  split
  · exact htick
  · exact htick
  · split
    · exact htick
    · exact htick.kept (handleMultiOutputCommit_clocks
        ⟨(advancePresentation d.state id generation now tick).1, d.backend⟩ env _ id)

theorem advanceAndPublish_stray (d : Display β) (env : Env) {id : String}
    (h : d.state.reaches id generation = none) (now tick : Nat) :
    (d.advanceAndPublish env id generation now tick).1.state = d.state := by
  obtain ⟨hstate, fault, hfault⟩ := advancePresentation_stray h now tick
  unfold Display.advanceAndPublish
  dsimp only
  rw [hfault]
  exact hstate

theorem driveOutput_ticked (d : Display β) (env : Env) (scene : CommittedSceneState) {id : String}
    (h : d.state.reaches id r.state.outputGeneration = some r) :
    Ticked d.state
      ⟨id, r, .feedback, driveClock env r, satAdd r.scheduler.lastTickSequence 1⟩
      (d.driveOutput env scene id r).1.state := by
  have htick := ticked_advance h .feedback (driveClock env r)
    (satAdd r.scheduler.lastTickSequence 1)
  unfold Display.driveOutput
  dsimp only
  split
  · exact htick
  · exact htick
  · exact htick.kept (handleMultiOutputCommit_clocks ⟨_, d.backend⟩ env scene id)

theorem driveOutput_stray (d : Display β) (env : Env) (scene : CommittedSceneState) {id : String}
    (h : d.state.reaches id r.state.outputGeneration = none) :
    (d.driveOutput env scene id r).1.state = d.state := by
  obtain ⟨hstate, fault, hfault⟩ := advancePresentation_stray h (driveClock env r)
    (satAdd r.scheduler.lastTickSequence 1)
  unfold Display.driveOutput
  dsimp only
  rw [hfault]
  exact hstate

/-- What a command does to the clocks: it makes its tick, or ticks nothing. -/
def TicksAs (s s' : DisplayState) : Option OutputTick → Prop
  | some t => Ticked s t s'
  | none => ClocksKeptOrFresh s s'

section

variable (d : Display β) (env : Env)
include d env

theorem advanceCommand_ticks (id : String) (generation now tick : Nat) :
    TicksAs d.state (d.advanceAndPublish env id generation now tick).1.state
      (commandTick d.state env (.advancePresentation id generation now tick)) := by
  dsimp only [commandTick]
  cases hreaches : d.state.reaches id generation with
  | none =>
    rw [advanceAndPublish_stray d env hreaches]
    exact (ClocksKept.refl _).orFresh
  | some r => exact advanceAndPublish_ticked d env hreaches now tick

theorem driveOutputs_ticks (commitId : Nat) (scene : CommittedSceneState) (id : String) :
    TicksAs d.state (Display.driveOutputs env commitId scene d [id]).1.state
      (feedbackTick d.state env id) := by
  unfold feedbackTick Display.driveOutputs
  cases hr : d.state.outputs.get? id with
  | none => exact (ClocksKept.refl _).orFresh
  | some r =>
    have hdrive : TicksAs d.state (d.driveOutput env scene id r).1.state
        ((d.state.reaches id r.state.outputGeneration).map fun r =>
          ⟨id, r, .feedback, driveClock env r, satAdd r.scheduler.lastTickSequence 1⟩) := by
      cases hreaches : d.state.reaches id r.state.outputGeneration with
      | none =>
        rw [driveOutput_stray d env scene hreaches]
        exact (ClocksKept.refl _).orFresh
      | some r' =>
        obtain rfl := Option.some.inj (hr.symm.trans (DisplayState.reaches_some hreaches).1)
        exact driveOutput_ticked d env scene hreaches
    rw [Option.bind_some]
    dsimp only
    split
    · exact hdrive
    · split_ifs
      · exact hdrive
      · exact hdrive

theorem drivePresentationForFeedback_ticks (commitId : Nat) (hone : SingleOutput d.state) :
    TicksAs d.state (d.drivePresentationForFeedback env commitId).1.state
      ((feedbackOutput d.state commitId).bind fun id => feedbackTick d.state env id) := by
  unfold Display.drivePresentationForFeedback feedbackOutput
  split_ifs
  · exact (ClocksKept.refl _).orFresh
  · cases ho : d.state.presentationObligations.get? commitId with
    | none => exact (ClocksKept.refl _).orFresh
    | some o =>
      cases d.state.lastScene with
      | none => exact (ClocksKept.refl _).orFresh
      | some scene =>
        obtain ⟨id, hid, hpresented⟩ := hone commitId o ho
        have hdiff : OrdSet.difference o.requiredOutputs o.presentedOutputs = [id] := by
          rw [hid, hpresented]
          rfl
        dsimp only
        rw [hdiff]
        exact driveOutputs_ticks d env commitId scene id

theorem getPresentationFeedback_state (commitId : Nat) :
    (d.getPresentationFeedback env commitId).1 =
      (d.drivePresentationForFeedback env commitId).1 := by
  unfold Display.getPresentationFeedback
  cases hfeedback : d.state.presentationFeedbacks.get? commitId with
  | some feedback =>
    have hcontains : d.state.presentationFeedbacks.contains commitId = true := by
      rw [OrdMap.contains, hfeedback]
      rfl
    unfold Display.drivePresentationForFeedback
    rw [if_pos hcontains]
  | none =>
    dsimp only
    split
    · rfl
    · split
      · rfl
      · split_ifs
        · rfl
        · rfl

theorem handleDisplayCommand_ticks (source : ServiceRole) (topologySequence : Nat)
    (command : DisplayCommand) (hone : SingleOutput d.state) :
    TicksAs d.state (d.handleDisplayCommand env source topologySequence command).1.state
      (commandTick d.state env command) := by
  cases command with
  | getReconciliation => exact (ClocksKept.refl _).orFresh
  | getOutputTopology => exact (ClocksKept.refl _).orFresh
  | beginReconciliation epoch => exact beginReconciliation_clocks d epoch
  | reconcileScene epoch c => exact (reconcileScene_clocks d env source epoch c).orFresh
  | advancePresentation id generation now tick =>
    exact advanceCommand_ticks d env id generation now tick
  | completePresentation token outcome =>
    exact (finishBackendCompletion_clocks d env token outcome).orFresh
  | configureOutput geometry => exact clocks_registry.outputCommand d _ _
  | removeOutput id generation => exact clocks_registry.outputCommand d _ _
  | commitScene c => exact (acceptScene_clocks d env source c).orFresh
  | getSceneSnapshot output => exact (ClocksKept.refl _).orFresh
  | getPresentationFeedback commitId =>
    dsimp only [Display.handleDisplayCommand, commandTick]
    rw [getPresentationFeedback_state]
    exact drivePresentationForFeedback_ticks d env commitId hone

end

end Commands

/-! The runs of displayd, with the log of every output. -/

/-- Every output has a clock that its log accounts for. -/
def AllClocked (s : DisplayState) (logs : TickLogs) : Prop :=
  ∀ id c, s.clockOf id = some c → Clocked c (logs id)

theorem AllClocked.keep (h : AllClocked s logs) (hk : ClocksKeptOrFresh s s') :
    AllClocked s' (logs.keep s s') := by
  intro id c hc
  unfold TickLogs.keep
  split_ifs with heq
  · exact h id c (heq ▸ hc)
  · cases hk id with
    | inl hsame => exact absurd hsame heq
    | inr hfresh => exact .fresh (hfresh c hc)

theorem AllClocked.add (h : AllClocked s logs) (ht : Ticked s t s')
    (htimely : TimelyTick t.runtime (logs t.id) t.driver t.nowNs t.tickSequence) :
    AllClocked s' (logs.add t) := by
  intro id c hc
  have hclock := ht.2 id
  unfold TickLogs.add
  split_ifs with hid
  · rw [if_pos hid, hc] at hclock
    obtain rfl := Option.some.inj hclock
    have hbefore := h t.id _ (DisplayState.clockOf_some ht.1)
    rw [hid]
    exact hbefore.tick htimely
  · rw [if_neg hid] at hclock
    exact h id c (hclock ▸ hc)

theorem start_clocked {β : Type} (epoch : Nat) (keeps : Bool) (backend : β)
    (lastScene : Option CommittedSceneState) (history : List DisplayEffect) :
    AllClocked (Server.start epoch keeps backend lastScene history).display.state fun _ => [] := by
  intro id c hc
  obtain ⟨r, hr, rfl⟩ := Option.map_eq_some_iff.mp hc
  obtain ⟨_, rfl⟩ := startOutputs_get? hr
  exact .fresh ⟨rfl, rfl, rfl⟩

namespace Server

variable {β : Type} [DisplayBackend β]
variable {p : Server β × TickLogs}

/-- The command of a connection, with the state its backend events leave. -/
def heard (srv : Server β) (conn : Connection) : Server β × Option DisplayCommand :=
  match applyEvents conn.accepting srv.polled.1 srv.polled.2 with
  | (srv', .error _) => (srv', none)
  | (srv', .ok _) =>
    match conn.request with
    | some (.command command) => (srv', some command)
    | _ => (srv', none)

/-- The tick of a connection, and the logs it finds. -/
def connectionTick (srv : Server β) (logs : TickLogs) (conn : Connection) :
    TickLogs × Option OutputTick :=
  let heard := srv.heard conn
  (logs.keep srv.display.state heard.1.display.state,
    heard.2.bind fun command => commandTick heard.1.display.state conn.env command)

/-- The logs after a step: a tick is added to that of its output, and an output whose
clock moves without a tick has been registered anew. -/
def logsAfter (srv : Server β) (logs : TickLogs) : Input β → TickLogs
  | .restart .. => fun _ => []
  | .client conn =>
    if srv.halted then logs
    else
      match srv.connectionTick logs conn with
      | (logs, some t) => logs.add t
      | (logs, none) =>
        logs.keep (srv.heard conn).1.display.state (srv.handleClient conn).1.display.state

/-- displayd with the tick logs of its outputs carried along. -/
def pacing (β : Type) [DisplayBackend β] : System (Server β × TickLogs) (Input β) where
  init p := (system β).init p.1 ∧ p.2 = fun _ => []
  next p input := (p.1.step input, p.1.logsAfter p.2 input)

/-- The step makes no tick but a timely one. -/
def Timely (p : Server β × TickLogs) : Input β → Prop
  | .restart .. => True
  | .client conn =>
    p.1.halted = false → ∀ t, (p.1.connectionTick p.2 conn).2 = some t →
      TimelyTick t.runtime ((p.1.connectionTick p.2 conn).1 t.id) t.driver t.nowNs
        t.tickSequence

/-- The commands that tick an output come with growing times and numbers. -/
def Increasing (p : Server β × TickLogs) : Input β → Prop
  | .restart .. => True
  | .client conn =>
    p.1.halted = false → ∀ t, (p.1.connectionTick p.2 conn).2 = some t → t.driver = .command →
      ∀ e ∈ (p.1.connectionTick p.2 conn).1 t.id, e.driver = .command →
        e.nowNs < t.nowNs ∧ e.tickSequence < t.tickSequence

theorem heard_clocks (srv : Server β) (conn : Connection) :
    ClocksKeptOrFresh srv.display.state (srv.heard conn).1.display.state := by
  have hevents := clocks_registry.applyEvents conn.accepting srv.polled.1 srv.polled.2
  unfold heard
  split
  · rename_i he
    rw [he] at hevents
    exact hevents
  · rename_i he
    rw [he] at hevents
    split
    · exact hevents
    · exact hevents

theorem heard_singleOutput {srv : Server β} (conn : Connection)
    (hone : SingleOutput srv.display.state) : SingleOutput (srv.heard conn).1.display.state := by
  have hmoves := applyEvents_moves (P := anyMove) trivial conn.accepting srv.polled.1
    srv.polled.2
  have hevents : SingleOutput
      (applyEvents conn.accepting srv.polled.1 srv.polled.2).1.display.state :=
    hmoves.invariant (fun _ _ h hm => h.move hm) hone
  unfold heard
  split
  · rename_i he
    rw [he] at hevents
    exact hevents
  · rename_i he
    rw [he] at hevents
    split
    · exact hevents
    · exact hevents

/-- A connection ticks as its command does. -/
theorem handleClient_ticks (srv : Server β) (conn : Connection)
    (hone : SingleOutput srv.display.state) :
    TicksAs (srv.heard conn).1.display.state (srv.handleClient conn).1.display.state
      ((srv.heard conn).2.bind fun command =>
        commandTick (srv.heard conn).1.display.state conn.env command) := by
  have hone' := heard_singleOutput conn hone
  unfold heard at hone' ⊢
  unfold handleClient
  dsimp only
  cases he : applyEvents conn.accepting srv.polled.1 srv.polled.2 with
  | mk srv' result =>
    rw [he] at hone'
    cases result with
    | error fault => exact (ClocksKept.refl _).orFresh
    | ok _ =>
      cases hrequest : conn.request with
      | none => exact (ClocksKept.refl _).orFresh
      | some request =>
        rw [hrequest] at hone'
        cases request with
        | subscribe epoch sequence =>
          dsimp only [handleRequest]
          rw [subscribe_display]
          exact (ClocksKept.refl _).orFresh
        | command command =>
          exact handleDisplayCommand_ticks srv'.display conn.env conn.source
            srv'.topologySequence command hone'

theorem pacing_fst {good} (h : (pacing β).Reach good p) : (system β).Reachable p.1 := by
  induction h with
  | init h => exact .init h.1
  | next i _ _ ih => exact .next i ih trivial

theorem allClocked_step {input : Input β} (hone : SingleOutput p.1.display.state)
    (h : AllClocked p.1.display.state p.2) (htimely : Timely p input) :
    AllClocked (p.1.step input).display.state (p.1.logsAfter p.2 input) := by
  cases input with
  | restart epoch keeps backend => exact start_clocked _ _ _ _ _
  | client conn =>
    have hkept := h.keep (p.1.heard_clocks conn)
    have hticks := p.1.handleClient_ticks conn hone
    unfold Timely connectionTick at htimely
    unfold step logsAfter connectionTick
    dsimp only at htimely ⊢
    split_ifs with hhalted
    · exact h
    · cases htick : ((p.1.heard conn).2.bind fun command =>
          commandTick (p.1.heard conn).1.display.state conn.env command) with
      | none =>
        rw [htick] at hticks
        exact hkept.keep hticks
      | some t =>
        rw [htick] at hticks
        exact hkept.add hticks (htimely (by simpa using hhalted) t htick)

/-- Presentation is paced in every state of every run of timely ticks. -/
theorem pacing_law {p : Server β × TickLogs} (h : (pacing β).Reach Timely p) {id : String}
    {r : OutputRuntime} (hr : p.1.display.state.outputs.get? id = some r) :
    Paced r.scheduler.cadence.periodNs (p.2 id) := by
  have hclocked : AllClocked p.1.display.state p.2 := by
    refine System.Reach.invariant_with
      (I := fun p : Server β × TickLogs => AllClocked p.1.display.state p.2)
      (J := fun p => SingleOutput p.1.display.state)
      (fun p hp => singleOutput_run trivial (Run.any (pacing_fst hp))) ?_ ?_ h
    · rintro ⟨_, _⟩ ⟨⟨epoch, keeps, backend, rfl⟩, rfl⟩
      exact start_clocked _ _ _ _ _
    · intro p input hone hI htimely
      exact allClocked_step hone hI htimely
  exact (hclocked id r.clock (DisplayState.clockOf_some hr)).paced

/-- displayd on a mock backend with one monitor, and its logs, after these requests. -/
def paceRequests (requests : List Request) : Server MockDisplayBackend × TickLogs :=
  (pacing MockDisplayBackend).run
    (start 1 false MockDisplayBackend.production.withMonitor none [], fun _ => [])
    (requests.map fun request => .client { request := some request })

/-- A scene is committed and the next tick of the command presents it. -/
def tickedRequests : List Request :=
  [.command (.commitScene (pixelScene 1 1)), .command (.advancePresentation "eDP-1" 2 1 1)]

/-- A scene is committed, its feedback is queried, and then the command ticks. -/
def queriedRequests : List Request :=
  [.command (.commitScene (pixelScene 1 1)), .command (.getPresentationFeedback 1),
    .command (.advancePresentation "eDP-1" 2 1 1)]

/-- A tick the connection makes is timely: the first of its output. -/
def firstTick (p : Server MockDisplayBackend × TickLogs) : Input MockDisplayBackend → Bool
  | .restart .. => true
  | .client conn =>
    (p.1.connectionTick p.2 conn).2.all fun t =>
      decide (t.nowNs < u64Max) && ((p.1.connectionTick p.2 conn).1 t.id).isEmpty

/-- A tick the connection makes is the first of the command on its output. -/
def firstCommand (p : Server MockDisplayBackend × TickLogs) : Input MockDisplayBackend → Bool
  | .restart .. => true
  | .client conn =>
    (p.1.connectionTick p.2 conn).2.all fun t =>
      ((p.1.connectionTick p.2 conn).1 t.id).all fun e => decide (e.driver = .feedback)

theorem timely_of_firstTick (p : Server MockDisplayBackend × TickLogs)
    (input : Input MockDisplayBackend) (h : firstTick p input = true) : Timely p input := by
  cases input with
  | restart epoch keeps backend => trivial
  | client conn =>
    intro _ t ht
    dsimp only [firstTick] at h
    rw [ht, Option.all_some, Bool.and_eq_true, decide_eq_true_eq, List.isEmpty_iff] at h
    rw [h.2]
    exact ⟨fun _ f hf => absurd hf List.not_mem_nil, .inl h.1⟩

theorem increasing_of_firstCommand (p : Server MockDisplayBackend × TickLogs)
    (input : Input MockDisplayBackend) (h : firstCommand p input = true) :
    Increasing p input := by
  cases input with
  | restart epoch keeps backend => trivial
  | client conn =>
    intro _ t ht _ e he hcommand
    dsimp only [firstCommand] at h
    rw [ht, Option.all_some, List.all_eq_true] at h
    have hfeedback := of_decide_eq_true (h e he)
    rw [hcommand] at hfeedback
    cases hfeedback

theorem paceRequests_init : (pacing MockDisplayBackend).init
    (start 1 false MockDisplayBackend.production.withMonitor none [], fun _ => []) :=
  ⟨⟨1, false, _, rfl⟩, rfl⟩

/-- A commit and one tick of the command. -/
theorem pacing_law_ticked :
    ((paceRequests tickedRequests).2 "eDP-1").length = 1 ∧
      ∃ r, (paceRequests tickedRequests).1.display.state.outputs.get? "eDP-1" = some r ∧
        Paced r.scheduler.cadence.periodNs ((paceRequests tickedRequests).2 "eDP-1") := by
  have hreach : (pacing MockDisplayBackend).Reach Timely (paceRequests tickedRequests) :=
    System.Reach.run_passes timely_of_firstTick (.init paceRequests_init) (by decide +kernel)
  have hsome : ((paceRequests tickedRequests).1.display.state.outputs.get? "eDP-1").isSome =
      true := by
    decide +kernel
  obtain ⟨r, hr⟩ := Option.isSome_iff_exists.mp hsome
  exact ⟨by decide +kernel, r, hr, pacing_law hreach hr⟩

/-- A feedback query takes the first tick, and the first one of the command is late. -/
theorem feedback_overtakes :
    ¬ ∀ p : Server MockDisplayBackend × TickLogs,
      (pacing MockDisplayBackend).Reach Increasing p → ∀ id r,
        p.1.display.state.outputs.get? id = some r →
        Paced r.scheduler.cadence.periodNs (p.2 id) := by
  intro hall
  have hreach : (pacing MockDisplayBackend).Reach Increasing (paceRequests queriedRequests) :=
    System.Reach.run_passes increasing_of_firstCommand (.init paceRequests_init)
      (by decide +kernel)
  have hsome : ((paceRequests queriedRequests).1.display.state.outputs.get? "eDP-1").isSome =
      true := by
    decide +kernel
  have hlog : ((paceRequests queriedRequests).2 "eDP-1").map (fun e =>
      (e.driver, e.accepted, e.tickSequence)) =
        [(.command, false, 1), (.feedback, true, 1)] := by
    decide +kernel
  obtain ⟨r, hr⟩ := Option.isSome_iff_exists.mp hsome
  have hpaced := hall _ hreach "eDP-1" r hr
  cases hcases : (paceRequests queriedRequests).2 "eDP-1" with
  | nil =>
    rw [hcases] at hlog
    cases hlog
  | cons e older =>
    rw [hcases, List.map_cons, List.cons.injEq, Prod.mk.injEq, Prod.mk.injEq] at hlog
    obtain ⟨⟨hdriver, hrejected, hsequence⟩, holder⟩ := hlog
    refine hpaced.heard [] e older hcases ⟨hdriver, hrejected, hsequence ▸ Nat.one_pos, ?_⟩
    intro c hc hcommand _
    have hfeedback : (c.driver, c.accepted, c.tickSequence) ∈
        [(TickDriver.feedback, true, 1)] := by
      rw [← holder]
      exact List.mem_map_of_mem hc
    rw [List.mem_singleton, hcommand] at hfeedback
    cases hfeedback

end Server

end TuffXwin.Displayd
