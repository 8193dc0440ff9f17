import TuffXwin.Displayd.Faults
import TuffXwin.Displayd.Topology

/-! The output registry over whole runs. Every registered output keeps a validated
state under its scheduler's generation, and the registry its budgets. The process
goes down in two ways only: registering an output whose far edge is no `i32`, and
publishing a repeated event whose period is zero. -/

namespace TuffXwin.Displayd
open Lib

variable {s : DisplayState}
variable {s' : DisplayState} {i : Nat} {geometry : OutputGeometry} {cadence : PresentationCadence}
  {state : OutputState} {event : BackendOutputEvent}

/-- The far edges of an output are `i32` coordinates. -/
def InRange (g : OutputGeometry) : Prop :=
  (i32Min ≤ g.originX + g.width ∧ g.originX + g.width ≤ i32Max) ∧
    (i32Min ≤ g.originY + g.height ∧ g.originY + g.height ≤ i32Max)

namespace OutputState

theorem bounds?_eq_none {o : OutputState} : o.bounds? = none ↔ ¬ InRange o.toOutputGeometry := by
  have hwidth := o.valid.width_pos
  have hheight := o.valid.height_pos
  rw [← not_iff_not, not_not, ← ne_eq, Option.ne_none_iff_exists']
  unfold InRange bounds?
  simp only [RendererRect.fromOriginSize_eq_some]
  constructor
  · intro h
    obtain ⟨_, _, _, hx, hy, _⟩ := h
    exact ⟨hx, hy⟩
  · intro h
    exact ⟨_, hwidth, hheight, h.1, h.2, rfl⟩

/-- The geometry of a validated output passes validation again. -/
theorem validate_self (o : OutputState) : validate o.toOutputGeometry = .ok o := by
  have hid := o.valid.outputId
  have hwidth := o.valid.width_pos
  have hheight := o.valid.height_pos
  have hwide := o.valid.width_le
  have htall := o.valid.height_le
  have hstride := o.valid.stride
  have haligned := o.valid.aligned
  have hbytes := o.valid.bytes
  have hpos : 0 < o.stride * o.height := Nat.mul_pos (by omega) hheight
  have hdim : maxOutputDimension = 32768 := rfl
  have hframe : maxOutputFramebufferBytes = 536870912 := rfl
  have hu32 : u32Max = 4294967295 := rfl
  have hu64 : u64Max = 18446744073709551615 := rfl
  unfold validate
  rw [dif_neg (by simp only [not_or]; exact ⟨hid, by omega, by omega⟩), dif_neg (by omega),
    dif_neg (not_not.mpr o.valid.format), if_neg (by omega), dif_neg (by omega),
    if_neg (by omega), dif_neg (by omega)]

end OutputState

structure ValidRegistration (r : OutputRuntime) : Prop where
  validated : OutputState.validate r.state.toOutputGeometry = .ok r.state
  generation : r.scheduler.outputGeneration = r.state.outputGeneration
  period : r.scheduler.cadence.periodNs ≠ 0

def DisplayState.registeredBytes (s : DisplayState) : Nat :=
  s.outputs.total fun r => r.state.framebufferBytes

structure ValidRegistry (s : DisplayState) : Prop where
  outputs : ∀ id r, s.outputs.get? id = some r → ValidRegistration r
  count : s.outputs.size ≤ maxOutputs
  bytes : s.registeredBytes ≤ maxTotalFramebufferBytes

/-- Every output of the second registry is one of the first. -/
def Retained (s s' : DisplayState) : Prop :=
  ∀ id r', s'.outputs.get? id = some r' → ∃ r, s.outputs.get? id = some r ∧
    r'.state = r.state ∧ r'.scheduler.cadence = r.scheduler.cadence ∧
    r'.scheduler.outputGeneration = r.scheduler.outputGeneration

theorem SameOutputs.retained (h : SameOutputs s s') : Retained s s' := by
  intro id r' hr'
  obtain ⟨f, hf, hsame⟩ := h id
  rw [hf, Option.map_eq_some_iff] at hr'
  obtain ⟨r, hr, rfl⟩ := hr'
  have hr' := hsame r hr
  exact ⟨r, hr, hr'.state, hr'.cadence, hr'.outputGeneration⟩

theorem retained_of_get? (h : ∀ id r, s'.outputs.get? id = some r → s.outputs.get? id = some r) :
    Retained s s' :=
  fun id r hr => ⟨r, h id r hr, rfl, rfl, rfl⟩

namespace ValidRegistry

variable {s s' : DisplayState}

theorem retained (h : ValidRegistry s) (hr : Retained s s') : ValidRegistry s' where
  outputs id r' hr' := by
    obtain ⟨r, hget, hstate, hcadence, hgeneration⟩ := hr id r' hr'
    have hvalid := h.outputs id r hget
    refine ⟨OutputState.validate_self _, ?_, ?_⟩
    · rw [hgeneration, hstate]
      exact hvalid.generation
    · rw [hcadence]
      exact hvalid.period
  count := by
    refine le_trans (OrdMap.size_le_of fun id r' hr' => ?_) h.count
    obtain ⟨r, hget, _⟩ := hr id r' hr'
    exact ⟨r, hget⟩
  bytes := by
    refine le_trans (OrdMap.total_le_of fun id r' hr' => ?_) h.bytes
    obtain ⟨r, hget, hstate, _⟩ := hr id r' hr'
    exact ⟨r, hget, by rw [hstate]⟩

theorem insert {id : String} {r : OutputRuntime} (h : ValidRegistry s)
    (houtputs : s'.outputs = s.outputs.insert id r) (hvalid : ValidRegistration r)
    (hroom : s.outputs.contains id = true ∨ s.outputs.size < maxOutputs)
    (hbytes : (s.outputs.filter fun id' _ => id' ≠ id).total (fun r => r.state.framebufferBytes) +
      r.state.framebufferBytes ≤ maxTotalFramebufferBytes) : ValidRegistry s' where
  outputs id' r' hr' := by
    rw [houtputs, OrdMap.get?_insert] at hr'
    split_ifs at hr' with hid
    · obtain rfl := Option.some.inj hr'
      exact hvalid
    · exact h.outputs id' r' hr'
  count := by
    rw [houtputs]
    cases hroom with
    | inl hcontains =>
      obtain ⟨r₀, hr₀⟩ := OrdMap.contains_iff.mp hcontains
      refine le_trans (OrdMap.size_le_of fun id' r' hr' => ?_) h.count
      rw [OrdMap.get?_insert] at hr'
      split_ifs at hr' with hid
      · exact ⟨r₀, hid ▸ hr₀⟩
      · exact ⟨r', hr'⟩
    | inr hless =>
      have hsize := s.outputs.size_insert_le id r
      omega
  bytes := by
    unfold DisplayState.registeredBytes
    rw [houtputs, OrdMap.total_insert]
    omega

end ValidRegistry

theorem foldlM_addFramebufferBytes {l : List OutputRuntime} {total other : Nat}
    (h : l.foldlM addFramebufferBytes total = .ok other) :
    other = total + (l.map fun r => r.state.framebufferBytes).sum := by
  induction l generalizing total with
  | nil =>
    cases h
    rfl
  | cons r l ih =>
    obtain ⟨m, hm, hl⟩ := foldlM_cons_ok.mp h
    unfold addFramebufferBytes framebufferTotal at hm
    split_ifs at hm
    obtain rfl := Except.ok.inj hm
    rw [ih hl, List.map_cons, List.sum_cons, Nat.add_assoc]

/-- What the checks on a connected output establish for the budgets. -/
theorem checkConnected_budget {id : String}
    (h : checkConnected s i id geometry cadence = .ok state) :
    (s.outputs.contains id = true ∨ s.outputs.size < maxOutputs) ∧
      (s.outputs.filter fun id' _ => id' ≠ id).total (fun r => r.state.framebufferBytes) +
        state.framebufferBytes ≤ maxTotalFramebufferBytes := by
  unfold checkConnected at h
  obtain ⟨_, _, h⟩ := bind_eq_ok.mp h
  split_ifs at h with hfull
  obtain ⟨state', _, h⟩ := bind_eq_ok.mp h
  obtain ⟨other, hother, h⟩ := bind_eq_ok.mp h
  obtain ⟨aggregate, haggregate, h⟩ := bind_eq_ok.mp h
  unfold framebufferTotal at haggregate
  split_ifs at haggregate h with _ hover
  obtain rfl := Except.ok.inj haggregate
  obtain rfl := Except.ok.inj h
  rw [foldlM_addFramebufferBytes hother] at hover
  refine ⟨?_, ?_⟩
  · by_cases hcontains : s.outputs.contains id = true
    · exact .inl hcontains
    · simp [hcontains] at hfull
      exact .inr hfull
  · unfold OrdMap.total
    omega

theorem registerOutput_valid {id : String} (h : ValidRegistry s)
    (hcheck : checkConnected s i id geometry cadence = .ok state) {bounds : RendererRect}
    (hb : state.bounds? = some bounds) :
    ValidRegistry (registerOutput s id (connectedRuntime s state bounds hb i cadence)) := by
  obtain ⟨hroom, hbytes⟩ := checkConnected_budget hcheck
  exact h.insert (registerOutput_outputs _ _ _)
    ⟨OutputState.validate_self _, rfl, (checkConnected_ok hcheck).2.1⟩ hroom hbytes

namespace Display

variable {β : Type} [DisplayBackend β]
variable {d d' : Display β}

/-- The checks on a connected output pass, but its far edges leave the range. -/
def ConnectsOutOfRange (d : Display β) (i : Nat) (id : String) (geometry : OutputGeometry)
    (cadence : PresentationCadence) : Prop :=
  ¬ InRange geometry ∧ ∃ state, checkConnected d.state i id geometry cadence = .ok state ∧
    (replacePredecessor d.backend d.state i id state).2 = .ok ()

def Unplaceable (d : Display β) : BackendOutputEvent → Prop
  | .connected i id _ geometry cadence => d.ConnectsOutOfRange i id geometry cadence
  | .reconfigured i id _ geometry cadence => d.ConnectsOutOfRange i id geometry cadence
  | _ => False

/-- The event is taken up and cannot be placed. -/
def Overruns (d : Display β) (event : BackendOutputEvent) : Prop :=
  ∃ s, adoptEpoch d.state (eventInstanceId event) = some s ∧
    (∀ previous, s.backendSequences.get? (eventInstanceId event) = some previous →
      previous < eventSequence event) ∧
    Unplaceable ⟨s, d.backend⟩ event

theorem connectOutput_reports (d : Display β) (i : Nat) (id : String)
    (geometry : OutputGeometry) (cadence : PresentationCadence) :
    Reports (d.connectOutput i id geometry cadence).2 ↔
      ¬ d.ConnectsOutOfRange i id geometry cadence := by
  unfold connectOutput ConnectsOutOfRange
  split
  · rename_i hcheck
    simp [hcheck, reports_error]
  · rename_i state hcheck
    split
    · rename_i hreplace
      simp [hcheck, hreplace, reports_error]
    · rename_i hreplace
      have hgeometry := (checkConnected_ok hcheck).2.2
      have hrange : InRange state.toOutputGeometry ↔ InRange geometry := by
        rw [hgeometry]
        rfl
      split
      · rename_i hb
        rw [OutputState.bounds?_eq_none, hrange] at hb
        refine ⟨fun h => (h _ rfl).elim, fun h => absurd ⟨hb, state, hcheck, ?_⟩ h⟩
        rw [hreplace]
      · rename_i bounds hb
        have hin : InRange geometry := by
          by_contra hout
          rw [← hrange, ← OutputState.bounds?_eq_none, hb] at hout
          cases hout
        simp [hin, reports_ok]

theorem connectOutput_valid (h : ValidRegistry d.state) (i : Nat) (id : String)
    (geometry : OutputGeometry) (cadence : PresentationCadence) :
    ValidRegistry (d.connectOutput i id geometry cadence).1.state := by
  unfold connectOutput
  split
  · exact h
  · rename_i state hcheck
    split
    · exact h
    · split
      · exact h
      · rename_i bounds hb
        exact registerOutput_valid h hcheck hb

theorem disableOutput_reports (d : Display β) (i : Nat) (id : String) (generation : Nat) :
    Reports (d.disableOutput i id generation).2 := by
  unfold disableOutput
  split
  · exact reports_error _
  · split_ifs
    · exact reports_error _
    · exact reports_ok _

theorem disconnectOutput_reports (d : Display β) (i : Nat) (id : String) (generation : Nat) :
    Reports (d.disconnectOutput i id generation).2 := by
  unfold disconnectOutput
  split
  · exact reports_error _
  · split_ifs
    · exact reports_error _
    · exact reports_ok _

theorem disableOutput_retained (d : Display β) (i : Nat) (id : String) (generation : Nat) :
    Retained d.state (d.disableOutput i id generation).1.state := by
  have hrefl : Retained d.state d.state := retained_of_get? fun _ _ hr => hr
  unfold disableOutput
  split
  · exact hrefl
  · split_ifs
    · exact hrefl
    · intro id' r' hr'
      cases DisplayState.modifyOutput_origin hr' with
      | inl hother => exact ⟨r', hother.2, rfl, rfl, rfl⟩
      | inr hself =>
        obtain ⟨rfl, r, hr, rfl⟩ := hself
        exact ⟨r, hr, rfl, rfl, rfl⟩

theorem disconnectOutput_retained (d : Display β) (i : Nat) (id : String) (generation : Nat) :
    Retained d.state (d.disconnectOutput i id generation).1.state := by
  have hrefl : Retained d.state d.state := retained_of_get? fun _ _ hr => hr
  unfold disconnectOutput
  split
  · exact hrefl
  · split_ifs
    · exact hrefl
    · refine retained_of_get? fun id' r hr => ?_
      dsimp only [dropOutput] at hr
      rw [OrdMap.get?_erase] at hr
      split_ifs at hr
      exact hr

theorem applyLifecycle_reports (d : Display β) (event : BackendOutputEvent) :
    Reports (d.applyLifecycle event).2 ↔ ¬ d.Unplaceable event := by
  cases event with
  | connected i id q geometry cadence => exact connectOutput_reports d i id geometry cadence
  | reconfigured i id q geometry cadence => exact connectOutput_reports d i id geometry cadence
  | disabled i id q generation =>
    simp [Unplaceable, applyLifecycle, disableOutput_reports d i id generation]
  | disconnected i id q generation =>
    simp [Unplaceable, applyLifecycle, disconnectOutput_reports d i id generation]
  | backendReset i q => simp [Unplaceable, applyLifecycle, reports_ok]

theorem applyLifecycle_valid (h : ValidRegistry d.state) (event : BackendOutputEvent) :
    ValidRegistry (d.applyLifecycle event).1.state := by
  cases event with
  | connected i id q geometry cadence => exact connectOutput_valid h i id geometry cadence
  | reconfigured i id q geometry cadence => exact connectOutput_valid h i id geometry cadence
  | disabled i id q generation => exact h.retained (disableOutput_retained d i id generation)
  | disconnected i id q generation =>
    exact h.retained (disconnectOutput_retained d i id generation)
  | backendReset i q =>
    exact h.retained (retained_of_get? fun id r hr => (resetBackend_outputs.mp hr).1)

theorem applyInSequence_reports (d : Display β) (event : BackendOutputEvent) :
    Reports (d.applyInSequence event).2 ↔ ¬ d.Unplaceable event := by
  rw [← applyLifecycle_reports]
  unfold applyInSequence
  split
  · rename_i hlife
    rw [hlife]
  · rename_i hlife
    rw [hlife]

theorem applyInSequence_valid (h : ValidRegistry d.state) (event : BackendOutputEvent) :
    ValidRegistry (d.applyInSequence event).1.state := by
  have hlife := applyLifecycle_valid h event
  unfold applyInSequence
  split
  · rename_i hd
    rw [hd] at hlife
    exact hlife
  · rename_i hd
    rw [hd] at hlife
    exact hlife.retained (retained_of_get? fun _ _ hr => hr)

/-- An event takes the process down exactly when it overruns. -/
theorem applyBackendOutputEvent_reports (d : Display β) (event : BackendOutputEvent) :
    Reports (d.applyBackendOutputEvent event).2 ↔ ¬ d.Overruns event := by
  unfold applyBackendOutputEvent Overruns
  split
  · rename_i hstale
    simp [hstale, reports_error]
  · rename_i s hs
    simp only [hs, Option.some.injEq, exists_eq_left']
    split
    · rename_i hnone
      simp [hnone, applyInSequence_reports]
    · rename_i previous hprevious
      simp only [hprevious, Option.some.injEq, forall_eq']
      split_ifs with hsame hbackwards
      · simp [hsame, reports_ok]
      · simp [not_lt.mpr hbackwards.le, reports_error]
      · have hafter : previous < eventSequence event := by omega
        simp [hafter, applyInSequence_reports]

theorem applyBackendOutputEvent_valid (h : ValidRegistry d.state) (event : BackendOutputEvent) :
    ValidRegistry (d.applyBackendOutputEvent event).1.state := by
  unfold applyBackendOutputEvent
  split
  · exact h
  · rename_i s hs
    have hadopted : ValidRegistry s :=
      h.retained (retained_of_get? fun id r hr => (adoptEpoch_core hs).outputs ▸ hr)
    dsimp only
    split
    · exact applyInSequence_valid (d := ⟨s, d.backend⟩) hadopted event
    · split_ifs
      · exact hadopted
      · exact hadopted
      · exact applyInSequence_valid (d := ⟨s, d.backend⟩) hadopted event

/-- The backend sends its last event again, and the period of that event is zero. -/
def RepeatsZeroPeriod (d : Display β) (event : BackendOutputEvent) : Prop :=
  deltaPanics event = true ∧ (adoptEpoch d.state (eventInstanceId event)).isSome = true ∧
    duplicateEvent d.state event

theorem applyLifecycle_period (h : d.applyLifecycle event = (d', .ok ())) :
    deltaPanics event = false := by
  have hconnect : ∀ i id geometry cadence,
      d.connectOutput i id geometry cadence = (d', .ok ()) → cadence.periodNs ≠ 0 := by
    intro i id geometry cadence h
    unfold connectOutput at h
    split at h
    · cases h
    · rename_i hcheck
      exact (checkConnected_ok hcheck).2.1
  cases event with
  | connected i id q geometry cadence => simpa [deltaPanics] using hconnect i id geometry cadence h
  | reconfigured i id q geometry cadence =>
    simpa [deltaPanics] using hconnect i id geometry cadence h
  | _ => rfl

/-- Of the accepted events only a repeated one can have no period. -/
theorem accepted_period (h : d.applyBackendOutputEvent event = (d', .ok ())) :
    deltaPanics event = true ↔ d.RepeatsZeroPeriod event := by
  have hsequence : ∀ s, applyInSequence ⟨s, d.backend⟩ event = (d', .ok ()) →
      deltaPanics event = false := by
    intro s hs
    unfold applyInSequence at hs
    split at hs
    · cases hs
    · rename_i hlife
      exact applyLifecycle_period hlife
  unfold RepeatsZeroPeriod duplicateEvent
  unfold applyBackendOutputEvent at h
  split at h
  · cases h
  · rename_i s hs
    have hsequences := (adoptEpoch_frame hs).2
    rw [hs, ← hsequences]
    dsimp only at h
    split at h
    · simp [hsequence s h]
    · rename_i previous hprevious
      split_ifs at h with hsame hbackwards
      · simp [hprevious, hsame]
      · cases h
      · simp [hsequence s h]

/-- A command that registers an output out of range. -/
def CommandOverruns (d : Display β) : DisplayCommand → Prop
  | .configureOutput geometry =>
    d.Overruns (.reconfigured 0 geometry.outputId (commandSequence d.state) geometry ⟨16666667⟩)
  | _ => False

theorem outputCommand_reports (d : Display β) (event : BackendOutputEvent)
    (done : DisplayEvent) :
    Reports (d.outputCommand event done).2 ↔ ¬ d.Overruns event := by
  rw [← applyBackendOutputEvent_reports]
  unfold outputCommand
  split
  · rename_i hd
    simp [hd, reports_ok]
  · rename_i hd
    simp [hd, reports_ok, reports_error]
  · rename_i hd
    rw [hd]
    exact ⟨Reports.fault, Reports.fault⟩

theorem handleDisplayCommand_reports (hdamage : AllOutputs DamageOnOutput d.state)
    (hone : SingleOutput d.state) (env : Env) (source : ServiceRole) (topologySequence : Nat)
    (command : DisplayCommand) :
    Reports (d.handleDisplayCommand env source topologySequence command).2 ↔
      ¬ d.CommandOverruns command := by
  cases command with
  | configureOutput geometry => exact outputCommand_reports d _ _
  | removeOutput id generation =>
    have hplaced : ¬ d.Overruns (.disconnected 0 id (commandSequence d.state) generation) := by
      intro h
      obtain ⟨_, _, _, hplace⟩ := h
      exact hplace
    exact iff_of_true ((outputCommand_reports d _ _).mpr hplaced) fun h => h
  | commitScene c => exact iff_of_true (reports_acceptCanonical _ _ _ _) fun h => h
  | reconcileScene epoch c =>
    have haccept : Reports (d.acceptScene env source c).2 := reports_acceptCanonical _ _ _ _
    refine iff_of_true ?_ fun h => h
    dsimp only [handleDisplayCommand]
    unfold reconcileScene
    split_ifs
    · exact reports_ok _
    · split
      · rename_i hd
        rw [hd] at haccept
        exact haccept
      · exact reports_ok _
      · exact reports_ok _
  | beginReconciliation epoch =>
    refine iff_of_true ?_ fun h => h
    dsimp only [handleDisplayCommand]
    unfold beginReconciliation beginRestart
    dsimp only
    split
    · rename_i hfault
      split_ifs at hfault
      cases hfault
      exact reports_error _
    · exact reports_ok _
  | advancePresentation id generation now tick =>
    exact iff_of_true ((reports_advanceAndPublish hdamage env id generation now tick).map _)
      fun h => h
  | getPresentationFeedback commitId =>
    exact iff_of_true (reports_getPresentationFeedback hdamage hone env commitId) fun h => h
  | _ => exact iff_of_true (reports_ok _) fun h => h

theorem beginReconciliation_retained (d : Display β) (epoch : Nat) :
    Retained d.state (d.beginReconciliation epoch).1.state := by
  have hretired : Retained d.state d.retireAllRuntimeSubmissions.state :=
    SameOutputs.retained (.move .retireAll)
  unfold beginReconciliation beginRestart
  dsimp only
  split
  · exact hretired
  · rename_i s hs
    split_ifs at hs
    · obtain rfl := Except.ok.inj hs
      exact hretired
    · obtain rfl := Except.ok.inj hs
      intro id r hr
      cases hr

theorem handleDisplayCommand_valid (h : ValidRegistry d.state) (hone : SingleOutput d.state)
    (env : Env) (source : ServiceRole) (topologySequence : Nat) (command : DisplayCommand) :
    ValidRegistry (d.handleDisplayCommand env source topologySequence command).1.state := by
  have hfree : ¬ ChangesRegistry command →
      ValidRegistry (d.handleDisplayCommand env source topologySequence command).1.state :=
    fun hno => (handleDisplayCommand_moves d env source topologySequence command hone
      (commandAllowed_freely fun hyes => hno hyes)).invariant
      (fun _ _ hs hm => hs.retained (SameOutputs.retained (.move hm))) h
  cases command with
  | configureOutput geometry =>
    dsimp only [handleDisplayCommand, configureOutput]
    rw [outputCommand_state]
    exact applyBackendOutputEvent_valid h _
  | removeOutput id generation =>
    dsimp only [handleDisplayCommand, removeOutputCommand]
    rw [outputCommand_state]
    exact applyBackendOutputEvent_valid h _
  | beginReconciliation epoch => exact h.retained (beginReconciliation_retained d epoch)
  | _ => exact hfree fun hyes => hyes

end Display

namespace Server

theorem isPanic_iff {α : Type} {x : Except Fault α} : isPanic x = true ↔ ¬ Reports x := by
  cases x with
  | ok a => simp [isPanic, reports_ok]
  | error fault =>
    cases fault with
    | error reason => simp [isPanic, reports_error]
    | panic message =>
      simp only [isPanic, true_iff]
      exact fun h => h _ rfl

variable {β : Type} [DisplayBackend β]

/-- One of the polled events, each looked at in the state those before it leave, takes the
process down. -/
def EventsOverrun (accepting : Nat → Bool) : Server β → List BackendOutputEvent → Prop
  | _, [] => False
  | srv, event :: rest =>
    srv.display.Overruns event ∨ srv.display.RepeatsZeroPeriod event ∨
      match srv.display.applyBackendOutputEvent event with
      | (_, .error _) => False
      | (d, .ok _) =>
        EventsOverrun accepting (publishTopologyDelta { srv with display := d } accepting event).1
          rest

/-- The steps that take the process down. -/
def Overruns (srv : Server β) : Input β → Prop
  | .client conn =>
    EventsOverrun conn.accepting srv.polled.1 srv.polled.2 ∨
      ∃ srv' command, applyEvents conn.accepting srv.polled.1 srv.polled.2 = (srv', .ok ()) ∧
        conn.request = some (.command command) ∧ srv'.display.CommandOverruns command
  | .restart .. => False

omit [DisplayBackend β] in
theorem publishTopologyDelta_reports (srv : Server β) (accepting : Nat → Bool)
    (event : BackendOutputEvent) :
    Reports (srv.publishTopologyDelta accepting event).2 ↔ deltaPanics event = false := by
  unfold publishTopologyDelta
  dsimp only
  split
  · rename_i hpanics
    rw [hpanics]
    exact iff_of_false (fun h => h _ rfl) (by simp)
  · rename_i hpanics
    simp [hpanics, reports_ok]

theorem applyEvents_reports (accepting : Nat → Bool) (srv : Server β)
    (events : List BackendOutputEvent) :
    Reports (applyEvents accepting srv events).2 ↔ ¬ EventsOverrun accepting srv events := by
  induction events generalizing srv with
  | nil => exact iff_of_true (reports_ok _) fun h => h
  | cons event rest ih =>
    have happly := Display.applyBackendOutputEvent_reports srv.display event
    unfold applyEvents EventsOverrun
    split
    · rename_i d fault hd
      have hskipped : ¬ srv.display.RepeatsZeroPeriod event := by
        intro h
        obtain ⟨_, hadopted, hrepeated⟩ := h
        obtain ⟨s, hs⟩ := Option.isSome_iff_exists.mp hadopted
        unfold Display.applyBackendOutputEvent at hd
        unfold duplicateEvent at hrepeated
        rw [hs] at hd
        dsimp only at hd
        rw [(adoptEpoch_frame hs).2, hrepeated] at hd
        simp at hd
      rw [hd] at happly
      simp only [hd, hskipped, or_false]
      exact happly
    · rename_i d _ hd
      have hperiod := Display.accepted_period hd
      have hpublish := publishTopologyDelta_reports { srv with display := d } accepting event
      rw [hd] at happly
      have hplaced : ¬ srv.display.Overruns event := happly.mp (reports_ok _)
      rw [← hperiod]
      split
      · rename_i fault hp
        rw [hp] at hpublish
        have hpanics : deltaPanics event = true := by
          by_contra hno
          obtain ⟨message, rfl⟩ := publish_error hp
          exact hpublish.mpr ((Bool.not_eq_true _).mp hno) _ rfl
        simp only [hpanics, true_or, or_true, not_true, iff_false]
        rw [hpublish, hpanics]
        simp
      · rename_i srv' _ hp
        rw [hp] at hpublish
        have hpanics : deltaPanics event = false := hpublish.mp (reports_ok _)
        simp only [hd, hp, hplaced, hpanics, false_or, Bool.false_eq_true]
        exact ih srv'

theorem applyEvents_valid {srv : Server β} (h : ValidRegistry srv.display.state)
    (accepting : Nat → Bool) (events : List BackendOutputEvent) :
    ValidRegistry (applyEvents accepting srv events).1.display.state := by
  induction events generalizing srv with
  | nil => exact h
  | cons event rest ih =>
    have happly := Display.applyBackendOutputEvent_valid h event
    unfold applyEvents
    split
    · rename_i hd
      rw [hd] at happly
      exact happly
    · rename_i d _ hd
      rw [hd] at happly
      have hpublish := publishTopologyDelta_display { srv with display := d } accepting event
      split
      · rename_i hp
        rw [hp] at hpublish
        exact hpublish ▸ happly
      · rename_i srv' _ hp
        rw [hp] at hpublish
        refine ih ?_
        dsimp only at hpublish
        rw [hpublish]
        exact happly

/-- What a connection finds and what its events leave. -/
structure Sound (srv : Server β) : Prop where
  single : SingleOutput srv.display.state
  damage : AllOutputs DamageOnOutput srv.display.state

theorem sound_reachable {srv : Server β} (h : (system β).Reachable srv) : Sound srv :=
  ⟨singleOutput_run trivial (Run.any h), damageOnOutput_invariant.reachable h⟩

theorem applyEvents_sound {srv : Server β} (h : Sound srv) (accepting : Nat → Bool)
    (events : List BackendOutputEvent) : Sound (applyEvents accepting srv events).1 := by
  have hmoves := applyEvents_moves (P := anyMove) trivial accepting srv events
  exact ⟨hmoves.invariant (fun _ _ hs hm => hs.move hm) h.single,
    hmoves.invariant (fun _ _ hs hm => damageOnOutput_invariant.move hs hm) h.damage⟩

theorem handleClient_reports {srv : Server β} (h : Sound srv) (conn : Connection) :
    Reports (srv.handleClient conn).2 ↔ ¬ srv.Overruns (.client conn) := by
  have hevents := applyEvents_reports conn.accepting srv.polled.1 srv.polled.2
  have hpolled : Sound srv.polled.1 := ⟨h.single, h.damage⟩
  have hsound := applyEvents_sound hpolled conn.accepting srv.polled.2
  unfold handleClient Overruns
  dsimp only
  split
  · rename_i he
    rw [he] at hevents
    simp only [he, Prod.mk.injEq, reduceCtorEq, and_false, false_and, exists_false, or_false]
    exact ⟨fun hr => hevents.mp hr.fault, fun hr => (hevents.mpr hr).fault⟩
  · rename_i srv' _ he
    rw [he] at hevents hsound
    have hquiet := hevents.mp (reports_ok _)
    cases hrequest : conn.request with
    | none => simp [hquiet, reports_ok]
    | some request =>
      simp only [he, hquiet, false_or, Prod.mk.injEq, and_true, Option.some.injEq]
      cases request with
      | subscribe epoch sequence =>
        have hreports : Reports (srv'.subscribe epoch sequence).2 := by
          unfold subscribe
          dsimp only
          split_ifs
          · exact reports_ok _
          · exact reports_ok _
          · exact reports_ok _
        exact iff_of_true (hreports.map _) fun hover => by
          obtain ⟨_, _, _, hcommand, _⟩ := hover
          cases hcommand
      | command command =>
        have hreports := Display.handleDisplayCommand_reports hsound.damage hsound.single conn.env
          conn.source srv'.topologySequence command
        have hover : (∃ srv'' command', srv' = srv'' ∧ Request.command command =
            .command command' ∧ srv''.display.CommandOverruns command') ↔
            srv'.display.CommandOverruns command := by
          constructor
          · intro h
            obtain ⟨_, _, rfl, hcommand, hover⟩ := h
            cases hcommand
            exact hover
          · intro h
            exact ⟨srv', command, rfl, rfl, h⟩
        rw [hover, ← hreports]
        dsimp only [handleRequest]
        generalize srv'.display.handleDisplayCommand conn.env conn.source srv'.topologySequence
          command = result
        obtain ⟨d, answer⟩ := result
        cases answer with
        | error fault => exact ⟨Reports.fault, Reports.fault⟩
        | ok event => exact iff_of_true (reports_ok _) (reports_ok _)

theorem handleClient_valid {srv : Server β} (hone : SingleOutput srv.display.state)
    (h : ValidRegistry srv.display.state) (conn : Connection) :
    ValidRegistry (srv.handleClient conn).1.display.state := by
  have hpolled : ValidRegistry srv.polled.1.display.state := h
  have hvalid := applyEvents_valid hpolled conn.accepting srv.polled.2
  have hmoves := applyEvents_moves (P := anyMove) trivial conn.accepting srv.polled.1 srv.polled.2
  have hsingle := hmoves.invariant (fun _ _ hs hm => hs.move hm) hone
  unfold handleClient
  dsimp only
  split
  · rename_i he
    rw [he] at hvalid
    exact hvalid
  · rename_i srv' _ he
    rw [he] at hvalid hsingle
    cases conn.request with
    | none => exact hvalid
    | some request =>
      cases request with
      | subscribe epoch sequence =>
        dsimp only [handleRequest]
        rw [subscribe_display]
        exact hvalid
      | command command =>
        exact Display.handleDisplayCommand_valid hvalid hsingle conn.env conn.source
          srv'.topologySequence command

theorem validRegistry_start (epoch : Nat) (keeps : Bool) (lastScene : Option CommittedSceneState)
    (history : List DisplayEffect) :
    ValidRegistry (DisplayState.load epoch (startOutputs keeps) lastScene history) := by
  have hvalid : ValidRegistration defaultOutputRuntime :=
    ⟨OutputState.validate_self _, rfl, by decide⟩
  have hcount : ∀ keeps, (startOutputs keeps).size ≤ maxOutputs := by decide
  have hbytes : ∀ keeps, (startOutputs keeps).total (fun r => r.state.framebufferBytes) ≤
      maxTotalFramebufferBytes := by decide
  refine ⟨fun id r hr => ?_, hcount keeps, hbytes keeps⟩
  obtain ⟨_, rfl⟩ := startOutputs_get? hr
  exact hvalid

theorem validRegistry_reachable {srv : Server β} (h : (system β).Reachable srv) :
    ValidRegistry srv.display.state := by
  refine System.Reach.invariant_with (I := fun srv => ValidRegistry srv.display.state)
    (fun srv hsrv => (sound_reachable hsrv).single) ?_ ?_ h
  · rintro _ ⟨epoch, keeps, backend, rfl⟩
    exact validRegistry_start epoch keeps none []
  · intro srv input hone hvalid _
    cases input with
    | restart epoch keeps backend => exact validRegistry_start epoch keeps _ _
    | client conn =>
      dsimp only [system, step]
      split_ifs
      · exact hvalid
      · exact handleClient_valid hone hvalid conn

theorem step_halts {srv : Server β} (h : (system β).Reachable srv) (hrunning : srv.halted = false)
    (input : Input β) : (srv.step input).halted = true ↔ srv.Overruns input := by
  cases input with
  | restart epoch keeps backend => simp [step, start, Overruns]
  | client conn =>
    simp only [step, hrunning, Bool.false_eq_true, if_false]
    rw [isPanic_iff, handleClient_reports (sound_reachable h), not_not]

/-- In every run the registry is valid. The process goes down on the steps that overrun and
on no others, so a run without them has no panic. -/
theorem registry_law {srv : Server β} (h : (system β).Reachable srv) :
    ValidRegistry srv.display.state ∧
      ((system β).Reach (fun srv input => ¬ srv.Overruns input) srv → srv.halted = false) ∧
      (srv.halted = false → ∀ input, (srv.step input).halted = true ↔ srv.Overruns input) := by
  refine ⟨validRegistry_reachable h, fun hrun => ?_, step_halts h⟩
  refine System.Reach.invariant_with (I := fun srv => srv.halted = false)
    (fun srv hsrv => hsrv.reachable) ?_ ?_ hrun
  · rintro _ ⟨epoch, keeps, backend, rfl⟩
    rfl
  · intro srv input hreach hrunning hquiet
    rw [← Bool.not_eq_true]
    exact fun hhalted => hquiet ((step_halts hreach hrunning input).mp hhalted)

/-- A monitor is plugged in and configured again. -/
theorem registry_law_configured :
    ValidRegistry (serve (β := MockDisplayBackend) { outputEvents := [[], [pixelConnected 0]] }
      [.subscribe 1 0, .command (.configureOutput { pixelGeometry with outputGeneration := 3 })]
      ).display.state :=
  (registry_law (serve_reachable _ _)).1

/-- The rightmost column of coordinates, where no output fits. -/
def lastColumnGeometry : OutputGeometry := { pixelGeometry with originX := i32Max }

/-- An output configured beyond the coordinate range takes the process down. -/
theorem registry_panics : ¬ ∀ srv : Server MockDisplayBackend, (system _).Reachable srv →
    ValidRegistry srv.display.state ∧ srv.halted = false := by
  intro h
  have hreach := serve_reachable MockDisplayBackend.production
    [.command (.configureOutput lastColumnGeometry)]
  have hhalted := (h _ hreach).2
  cases hhalted

/-- The same event sent again without a period is skipped, but its delta is built. -/
example : (serve (β := MockDisplayBackend)
    { outputEvents := [[pixelConnected 0, .connected 0 "eDP-1" 1 pixelGeometry ⟨0⟩]] }
    [.command .getOutputTopology]).halted = true := rfl

end Server

end TuffXwin.Displayd
