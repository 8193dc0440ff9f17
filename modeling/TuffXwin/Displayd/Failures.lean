import TuffXwin.Displayd.Capture
import TuffXwin.Displayd.Topology

/-! What is left of an operation on the registry that failed. An output event that is
turned down has no effect unless it made displayd adopt the backend's instance first,
or the backend itself failed halfway; a failed restart has retired every submission;
and the events polled together with a failed one are gone. -/

namespace TuffXwin.Displayd
open Lib

variable {reason : String} {event : BackendOutputEvent}
variable {s : DisplayState} {instanceId : Nat} {fault : Fault} {accepting : Nat → Bool}

/-- The event's instance becomes the display epoch before the event is looked at. -/
def AdoptsEpoch (s : DisplayState) (instanceId : Nat) : Prop :=
  instanceId ≠ 0 ∧ instanceId ≠ s.displayEpoch ∧ s.outputs.isEmpty = true ∧
    s.backendSequences.isEmpty = true ∧ s.reconciliationState ≠ .recovering

theorem adoptEpoch_adopts (h : AdoptsEpoch s instanceId) :
    adoptEpoch s instanceId = some { s with displayEpoch := instanceId } := by
  obtain ⟨hzero, hepoch, houtputs, hsequences, hrecovering⟩ := h
  simp [adoptEpoch, hzero, hepoch, houtputs, hsequences, hrecovering]

theorem adoptEpoch_stays {s' : DisplayState} (hadopts : ¬ AdoptsEpoch s instanceId)
    (h : adoptEpoch s instanceId = some s') : s' = s := by
  unfold adoptEpoch at h
  split_ifs at h with hforeign hempty
  · simp only [Bool.and_eq_true, decide_eq_true_eq] at hempty
    exact absurd ⟨hforeign.1, hforeign.2, hempty.1.1, hempty.1.2, hempty.2⟩ hadopts
  · exact (Option.some.inj h).symm

/-- The event passes the epoch and sequence checks. -/
def Admitted (s : DisplayState) (event : BackendOutputEvent) : Prop :=
  adoptEpoch s (eventInstanceId event) = some s ∧
    ∀ previous, s.backendSequences.get? (eventInstanceId event) = some previous →
      previous < eventSequence event

namespace Display

variable {β : Type} [DisplayBackend β]
variable {d d' : Display β} {b : β}

/-- The backend that could not replace the predecessor of an output. -/
def unreplaced (d : Display β) (backendInstanceId : Nat) (mappedId : String)
    (geometry : OutputGeometry) (cadence : PresentationCadence) : Option β :=
  match checkConnected d.state backendInstanceId mappedId geometry cadence with
  | .error _ => none
  | .ok nextState =>
    match replacePredecessor d.backend d.state backendInstanceId mappedId nextState with
    | (backend, .error _) => some backend
    | (_, .ok _) => none

def unreplacedBy (d : Display β) : BackendOutputEvent → Option β
  | .connected i id _ geometry cadence => d.unreplaced i id geometry cadence
  | .reconfigured i id _ geometry cadence => d.unreplaced i id geometry cadence
  | _ => none

theorem connectOutput_failed {i : Nat} {id : String} {geometry : OutputGeometry}
    {cadence : PresentationCadence}
    (h : d.connectOutput i id geometry cadence = (d', .error (.error reason))) :
    d' = ⟨d.state, (d.unreplaced i id geometry cadence).getD d.backend⟩ := by
  unfold connectOutput at h
  unfold unreplaced
  cases hcheck : checkConnected d.state i id geometry cadence with
  | error message =>
    rw [hcheck] at h
    cases h
    rfl
  | ok nextState =>
    rw [hcheck] at h
    dsimp only at h ⊢
    cases hreplace : replacePredecessor d.backend d.state i id nextState with
    | mk backend replaced =>
      rw [hreplace] at h
      cases replaced with
      | error message =>
        cases h
        rfl
      | ok _ =>
        dsimp only at h
        split at h
        · cases h
        · cases h

theorem applyLifecycle_failed (h : d.applyLifecycle event = (d', .error (.error reason))) :
    d' = ⟨d.state, (d.unreplacedBy event).getD d.backend⟩ := by
  cases event with
  | connected i id q geometry cadence => exact connectOutput_failed h
  | reconfigured i id q geometry cadence => exact connectOutput_failed h
  | disabled i id q generation =>
    simp only [applyLifecycle, disableOutput] at h
    split at h
    · cases h
      rfl
    · split at h
      · cases h
        rfl
      · cases h
  | disconnected i id q generation =>
    simp only [applyLifecycle, disconnectOutput] at h
    split at h
    · cases h
      rfl
    · split at h
      · cases h
        rfl
      · cases h
  | backendReset i q => cases h

theorem applyInSequence_failed (h : d.applyInSequence event = (d', .error (.error reason))) :
    d' = ⟨d.state, (d.unreplacedBy event).getD d.backend⟩ := by
  unfold applyInSequence at h
  split at h
  · rename_i hlife
    cases h
    exact applyLifecycle_failed hlife
  · cases h

/-- The event leaves the display epoch alone, and a backend that cannot take the output's
new generation is left as it was. -/
def FailsCleanly (d : Display β) (event : BackendOutputEvent) : Prop :=
  ¬ AdoptsEpoch d.state (eventInstanceId event) ∧
    (Admitted d.state event → ∀ backend, d.unreplacedBy event = some backend →
      backend = d.backend)

/-- A failed event changes nothing exactly when it fails cleanly. -/
theorem failed_event_unchanged
    (h : d.applyBackendOutputEvent event = (d', .error (.error reason))) :
    d' = d ↔ d.FailsCleanly event := by
  unfold applyBackendOutputEvent at h
  by_cases hadopts : AdoptsEpoch d.state (eventInstanceId event)
  · -- the epoch is adopted whatever comes of the event
    have hsequences : d.state.backendSequences.get? (eventInstanceId event) = none := by
      have hentries := hadopts.2.2.2.1
      unfold OrdMap.isEmpty at hentries
      unfold OrdMap.get?
      rw [List.isEmpty_iff.mp hentries]
      rfl
    rw [adoptEpoch_adopts hadopts] at h
    dsimp only at h
    rw [hsequences] at h
    have hepoch : d'.state.displayEpoch = eventInstanceId event := by
      rw [applyInSequence_failed h]
    refine ⟨fun heq => ?_, fun hclean => absurd hadopts hclean.1⟩
    rw [heq] at hepoch
    exact absurd hepoch.symm hadopts.2.1
  · have hcleanly : d.FailsCleanly event ↔ (Admitted d.state event → ∀ backend,
        d.unreplacedBy event = some backend → backend = d.backend) :=
      ⟨fun hclean => hclean.2, fun hclean => ⟨hadopts, hclean⟩⟩
    rw [hcleanly]
    have hreached : Admitted d.state event →
        d.applyInSequence event = (d', .error (.error reason)) →
        (d' = d ↔ (Admitted d.state event → ∀ backend,
          d.unreplacedBy event = some backend → backend = d.backend)) := by
      intro hadmitted hsequence
      rw [applyInSequence_failed hsequence]
      obtain ⟨s, b⟩ := d
      rw [Display.mk.injEq]
      cases hrefused : unreplacedBy ⟨s, b⟩ event with
      | none => simp
      | some backend => simp [hadmitted]
    split at h
    · rename_i hstale
      cases h
      refine ⟨fun _ hadmitted => ?_, fun _ => rfl⟩
      rw [hadmitted.1] at hstale
      cases hstale
    · rename_i s hs
      obtain rfl := adoptEpoch_stays hadopts hs
      dsimp only at h
      split at h
      · rename_i hnone
        refine hreached ⟨hs, fun previous hprevious => ?_⟩ h
        rw [hnone] at hprevious
        cases hprevious
      · rename_i previous hprevious
        split_ifs at h with hsame hbackwards
        · cases h
        · cases h
          refine ⟨fun _ hadmitted => ?_, fun _ => rfl⟩
          exact absurd (hadmitted.2 previous hprevious) (by omega)
        · refine hreached ⟨hs, fun previous' hprevious' => ?_⟩ h
          obtain rfl := Option.some.inj (hprevious.symm.trans hprevious')
          omega

/-- No output has a frame in flight or one to retry. -/
def NothingToRetire (s : DisplayState) : Prop :=
  ∀ id r, s.outputs.get? id = some r → r.outstanding = none ∧ r.retry = none

theorem retireOutstanding_idle {r : OutputRuntime} (h : r.outstanding = none) :
    retireOutstanding b r = b := by
  unfold retireOutstanding
  rw [h]

theorem retireAll_idle {l : List OutputRuntime} (h : ∀ r ∈ l, r.outstanding = none) :
    l.foldl retireOutstanding b = b := by
  induction l with
  | nil => rfl
  | cons r l ih =>
    rw [List.foldl_cons, retireOutstanding_idle (h r List.mem_cons_self)]
    exact ih fun r' hr' => h r' (List.mem_cons_of_mem _ hr')

theorem retireAllRuntimeSubmissions_eq_self :
    d.retireAllRuntimeSubmissions = d ↔ NothingToRetire d.state := by
  constructor
  · intro h id r hr
    have hget : d.retireAllRuntimeSubmissions.state.outputs.get? id = some r := by
      rw [h]
      exact hr
    change (d.state.outputs.mapVals fun _ r => retireRuntime r).get? id = some r at hget
    rw [OrdMap.get?_mapVals, hr, Option.map_some] at hget
    have hretired := Option.some.inj hget
    exact ⟨(congrArg OutputRuntime.outstanding hretired).symm,
      (congrArg OutputRuntime.retry hretired).symm⟩
  · intro h
    have houtputs : (d.state.outputs.mapVals fun _ r => retireRuntime r) = d.state.outputs := by
      refine OrdMap.ext_get? fun id => ?_
      rw [OrdMap.get?_mapVals]
      cases hr : d.state.outputs.get? id with
      | none => rfl
      | some r =>
        obtain ⟨houtstanding, hretry⟩ := h id r hr
        rw [Option.map_some, retireRuntime, ← houtstanding, ← hretry]
    unfold retireAllRuntimeSubmissions
    rw [houtputs, retireAll_idle]
    intro r hr
    obtain ⟨id, hget⟩ := OrdMap.mem_values.mp hr
    exact (h id r hget).1

/-- A failed restart changes nothing exactly when there was nothing to retire. -/
theorem failed_restart_unchanged {epoch : Nat}
    (h : d.beginReconciliation epoch = (d', .error fault)) : d' = d ↔ NothingToRetire d.state := by
  unfold beginReconciliation at h
  dsimp only at h
  split at h
  · cases h
    exact retireAllRuntimeSubmissions_eq_self
  · cases h

/-- An observation of the backend that no operation on outputs changes. -/
structure OutputBlind {γ : Type} (q : β → γ) : Prop where
  retire : ∀ b token, q (DisplayBackend.retireSubmission b token) = q b
  reconfigure : ∀ b id generation, q (DisplayBackend.reconfigureOutput b id generation).1 = q b
  remove : ∀ b id, q (DisplayBackend.removeOutput b id) = q b

namespace OutputBlind

variable {γ : Type} {q : β → γ} (hq : OutputBlind q)

include hq

theorem retireOutstanding (b : β) (r : OutputRuntime) : q (retireOutstanding b r) = q b := by
  unfold Displayd.retireOutstanding
  cases r.outstanding with
  | none => rfl
  | some o => exact hq.retire b o.token

theorem connectOutput (d : Display β) (i : Nat) (id : String) (geometry : OutputGeometry)
    (cadence : PresentationCadence) :
    q (d.connectOutput i id geometry cadence).1.backend = q d.backend := by
  have hreplace : ∀ nextState,
      q (replacePredecessor d.backend d.state i id nextState).1 = q d.backend := by
    intro nextState
    unfold replacePredecessor
    split
    · rfl
    · split_ifs
      · rfl
      · rfl
      · rw [hq.reconfigure, hq.retireOutstanding]
  unfold Display.connectOutput
  split
  · rfl
  · rename_i nextState _
    have hbackend := hreplace nextState
    split
    · rename_i hr
      rw [hr] at hbackend
      exact hbackend
    · rename_i hr
      rw [hr] at hbackend
      split
      · exact hbackend
      · exact hbackend

theorem dropOutput (d : Display β) (id : String) (r : OutputRuntime) :
    q (d.dropOutput id r).backend = q d.backend :=
  (hq.remove _ id).trans (hq.retireOutstanding d.backend r)

theorem applyLifecycle (d : Display β) (event : BackendOutputEvent) :
    q (d.applyLifecycle event).1.backend = q d.backend := by
  cases event with
  | connected i id sequence geometry cadence => exact hq.connectOutput d i id geometry cadence
  | reconfigured i id sequence geometry cadence => exact hq.connectOutput d i id geometry cadence
  | disabled i id sequence generation =>
    simp only [Display.applyLifecycle, disableOutput]
    split
    · rfl
    · split_ifs
      · rfl
      · exact (hq.remove _ id).trans (hq.retireOutstanding d.backend _)
  | disconnected i id sequence generation =>
    simp only [Display.applyLifecycle, disconnectOutput]
    split
    · rfl
    · split_ifs
      · rfl
      · exact hq.dropOutput d id _
  | backendReset i sequence =>
    simp only [Display.applyLifecycle, resetBackend]
    generalize (d.state.outputs.filter fun _ r => r.backendInstanceId = i).entries = l
    induction l generalizing d with
    | nil => rfl
    | cons e l ih =>
      rw [List.foldl_cons, ih]
      exact hq.dropOutput d e.1 e.2

theorem applyBackendOutputEvent (d : Display β) (event : BackendOutputEvent) :
    q (d.applyBackendOutputEvent event).1.backend = q d.backend := by
  have hsequence : ∀ s, q (applyInSequence ⟨s, d.backend⟩ event).1.backend = q d.backend := by
    intro s
    have hlife := hq.applyLifecycle ⟨s, d.backend⟩ event
    unfold applyInSequence
    split
    · rename_i hl
      rw [hl] at hlife
      exact hlife
    · rename_i hl
      rw [hl] at hlife
      exact hlife
  unfold Display.applyBackendOutputEvent
  split
  · rfl
  · dsimp only
    split
    · exact hsequence _
    · split_ifs
      · rfl
      · rfl
      · exact hsequence _

end OutputBlind

end Display

namespace Server

variable {β : Type} [DisplayBackend β]

/-- The events of a batch that are taken up. -/
def takenUp (accepting : Nat → Bool) :
    Server β → List BackendOutputEvent → List BackendOutputEvent
  | _, [] => []
  | srv, event :: rest =>
    match srv.display.applyBackendOutputEvent event with
    | (_, .error _) => [event]
    | (d, .ok _) =>
      match publishTopologyDelta { srv with display := d } accepting event with
      | (_, .error _) => [event]
      | (srv, .ok _) => event :: takenUp accepting srv rest

/-- No event of the batch fails but the last. -/
def FailsLast (accepting : Nat → Bool) : Server β → List BackendOutputEvent → Prop
  | _, [] => True
  | srv, event :: rest =>
    match srv.display.applyBackendOutputEvent event with
    | (_, .error _) => rest = []
    | (d, .ok _) =>
      match publishTopologyDelta { srv with display := d } accepting event with
      | (_, .error _) => rest = []
      | (srv, .ok _) => FailsLast accepting srv rest

theorem takenUp_eq_self {srv : Server β} {events : List BackendOutputEvent} :
    takenUp accepting srv events = events ↔ FailsLast accepting srv events := by
  induction events generalizing srv with
  | nil => simp [takenUp, FailsLast]
  | cons event rest ih =>
    unfold takenUp FailsLast
    split
    · simp [eq_comm]
    · split
      · simp [eq_comm]
      · rw [List.cons.injEq]
        simp [ih]

theorem applyEvents_blind {γ : Type} {q : β → γ} (hq : Display.OutputBlind q)
    (accepting : Nat → Bool) (srv : Server β) (events : List BackendOutputEvent) :
    q (applyEvents accepting srv events).1.display.backend = q srv.display.backend := by
  induction events generalizing srv with
  | nil => rfl
  | cons event rest ih =>
    have happly := hq.applyBackendOutputEvent srv.display event
    unfold applyEvents
    split
    · rename_i hd
      rw [hd] at happly
      exact happly
    · rename_i d _ hd
      rw [hd] at happly
      have hpublish := publishTopologyDelta_display { srv with display := d } accepting event
      split
      · rename_i hp
        rw [hp] at hpublish
        dsimp only at hpublish ⊢
        rw [hpublish]
        exact happly
      · rename_i srv' _ hp
        rw [hp] at hpublish
        dsimp only at hpublish
        rw [ih, hpublish]
        exact happly

theorem headless_queue_blind :
    Display.OutputBlind fun b : HeadlessShmDisplayBackend => b.outputEvents :=
  ⟨fun _ _ => rfl, fun _ _ _ => rfl, fun _ _ => rfl⟩

/-- The events put back in front of what the backend has yet to announce. -/
def requeue (back : List BackendOutputEvent) :
    List (List BackendOutputEvent) → List (List BackendOutputEvent)
  | [] => if back = [] then [] else [back]
  | batch :: batches => (back ++ batch) :: batches

theorem requeue_eq_self {back : List BackendOutputEvent}
    {batches : List (List BackendOutputEvent)} : requeue back batches = batches ↔ back = [] := by
  cases batches with
  | nil =>
    unfold requeue
    split_ifs with hback
    · simp [hback]
    · simp [hback]
  | cons batch batches => simp [requeue]

/-- Every event polled is taken up, or will be polled again. -/
def KeepsEvents (accepting : Nat → Bool) (srv srv' : Server HeadlessShmDisplayBackend) : Prop :=
  ∃ back, srv'.display.backend.outputEvents =
      requeue back srv.polled.1.display.backend.outputEvents ∧
    takenUp accepting srv.polled.1 srv.polled.2 ++ back = srv.polled.2

/-- The events after a failed one are lost. -/
theorem failed_batch_keeps {srv srv' : Server HeadlessShmDisplayBackend}
    (h : applyEvents accepting srv.polled.1 srv.polled.2 = (srv', .error fault)) :
    KeepsEvents accepting srv srv' ↔ FailsLast accepting srv.polled.1 srv.polled.2 := by
  have hqueue : srv'.display.backend.outputEvents =
      srv.polled.1.display.backend.outputEvents := by
    have hblind := applyEvents_blind headless_queue_blind accepting srv.polled.1 srv.polled.2
    rw [h] at hblind
    exact hblind
  rw [← takenUp_eq_self]
  unfold KeepsEvents
  rw [hqueue]
  constructor
  · intro hex
    obtain ⟨back, hback, htaken⟩ := hex
    rw [requeue_eq_self.mp hback.symm, List.append_nil] at htaken
    exact htaken
  · intro htaken
    exact ⟨[], (requeue_eq_self.mpr rfl).symm, by rw [List.append_nil, htaken]⟩

/-- When a failed event, a failed restart and a batch with a failed event leave everything
as it was, on any backend, with every event of the batch accounted for. -/
theorem failure_law (β : Type) [DisplayBackend β] :
    (∀ (d d' : Display β) (event : BackendOutputEvent) (reason : String),
      d.applyBackendOutputEvent event = (d', .error (.error reason)) →
      (d' = d ↔ d.FailsCleanly event)) ∧
    (∀ (d d' : Display β) (epoch : Nat) (fault : Fault),
      d.beginReconciliation epoch = (d', .error fault) →
      (d' = d ↔ Display.NothingToRetire d.state)) ∧
    ∀ (accepting : Nat → Bool) (srv srv' : Server HeadlessShmDisplayBackend) (fault : Fault),
      applyEvents accepting srv.polled.1 srv.polled.2 = (srv', .error fault) →
      (KeepsEvents accepting srv srv' ↔ FailsLast accepting srv.polled.1 srv.polled.2) :=
  ⟨fun _ _ _ _ h => Display.failed_event_unchanged h,
    fun _ _ _ _ h => Display.failed_restart_unchanged h,
    fun _ _ _ _ h => failed_batch_keeps h⟩

def announcing (events : List BackendOutputEvent) : Server HeadlessShmDisplayBackend :=
  start 1 false { outputEvents := [events] } none []

def unknownDisabled : BackendOutputEvent := .disabled 0 "DP-1" 1 1

theorem failure_law_unknown_output :
    let srv := announcing [unknownDisabled];
    (srv.display.applyBackendOutputEvent unknownDisabled).1 = srv.display ∧
      (srv.display.beginReconciliation 0).1 = srv.display ∧
      KeepsEvents (fun _ => true) srv
        (applyEvents (fun _ => true) srv.polled.1 srv.polled.2).1 := by
  intro srv
  have hevent : srv.display.applyBackendOutputEvent unknownDisabled =
      (srv.display, .error (.error "backend disabled unknown output")) := rfl
  have hrestart : srv.display.beginReconciliation 0 =
      (srv.display, .error (.error "display epoch must advance monotonically")) := rfl
  have hbatch : applyEvents (fun _ => true) srv.polled.1 srv.polled.2 =
      (srv.polled.1, .error (.error "backend disabled unknown output")) := rfl
  have hclean : srv.display.FailsCleanly unknownDisabled :=
    ⟨fun h => h.1 rfl, fun _ backend h => by cases h⟩
  have hidle : Display.NothingToRetire srv.display.state := fun id r hr => by cases hr
  rw [hevent, hrestart, hbatch]
  obtain ⟨hevents, hrestarts, hbatches⟩ := failure_law HeadlessShmDisplayBackend
  exact ⟨(hevents _ _ _ _ hevent).mpr hclean, (hrestarts _ _ _ _ hrestart).mpr hidle,
    (hbatches _ _ _ _ hbatch).mpr rfl⟩

/-- An announcement displayd cannot take: an output without width. -/
def emptyConnected : BackendOutputEvent :=
  .connected 2 "eDP-1" 1 { pixelGeometry with width := 0 } ⟨16666667⟩

/-- A fresh displayd keeps the epoch of an announcement it turns down and drops the one
after it; a restart to an older epoch forgets the frame to be retried. -/
theorem failure_changes_state :
    let srv := announcing [emptyConnected, pixelConnected 2];
    let retrying := (configuredServer 8).step
      (.client { request := some (.command (.advancePresentation "eDP-1" 1 1 1)) });
    (system HeadlessShmDisplayBackend).Reachable srv ∧
      (system HeadlessShmDisplayBackend).Reachable retrying ∧
      (srv.display.applyBackendOutputEvent emptyConnected).2 =
        .error (.error "invalid output identity or zero dimensions") ∧
      (srv.display.applyBackendOutputEvent emptyConnected).1.state.displayEpoch ≠
        srv.display.state.displayEpoch ∧
      (retrying.display.beginReconciliation 0).2 =
        .error (.error "display epoch must advance monotonically") ∧
      (∃ r, retrying.display.state.outputs.get? "eDP-1" = some r ∧ r.retry.isSome = true) ∧
      (∃ r, (retrying.display.beginReconciliation 0).1.state.outputs.get? "eDP-1" = some r ∧
        r.retry = none) ∧
      applyEvents (fun _ => true) srv.polled.1 srv.polled.2 =
        ((applyEvents (fun _ => true) srv.polled.1 srv.polled.2).1,
          .error (.error "invalid output identity or zero dimensions")) ∧
      ¬ KeepsEvents (fun _ => true) srv
        (applyEvents (fun _ => true) srv.polled.1 srv.polled.2).1 := by
  have hinit : (system HeadlessShmDisplayBackend).init
      (announcing [emptyConnected, pixelConnected 2]) := ⟨1, false, _, rfl⟩
  have hconfigured : (system HeadlessShmDisplayBackend).Reachable (configuredServer 8) :=
    serve_reachable _ _
  have hbatch : applyEvents (fun _ => true) (announcing [emptyConnected, pixelConnected 2]).polled.1
      (announcing [emptyConnected, pixelConnected 2]).polled.2 =
      ((applyEvents (fun _ => true) (announcing [emptyConnected, pixelConnected 2]).polled.1
          (announcing [emptyConnected, pixelConnected 2]).polled.2).1,
        .error (.error "invalid output identity or zero dimensions")) := rfl
  have hretrying := System.Reach.next (.client { request := some (.command
    (.advancePresentation "eDP-1" 1 1 1)) }) hconfigured trivial
  refine ⟨.init hinit, hretrying, rfl, by decide, rfl,
    ⟨_, rfl, by decide⟩, ⟨_, rfl, by decide⟩, hbatch, ?_⟩
  rw [failed_batch_keeps hbatch]
  intro hlast
  cases hlast

end Server

end TuffXwin.Displayd
