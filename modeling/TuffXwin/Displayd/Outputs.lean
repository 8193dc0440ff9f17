import TuffXwin.Displayd.Presentation

/-! The output registry: backend lifecycle events with their sequence and epoch
rules, and the topology entries and deltas that describe it to subscribers. -/

namespace TuffXwin.Displayd
open Lib

def eventInstanceId : BackendOutputEvent → Nat
  | .connected i .. => i
  | .reconfigured i .. => i
  | .disabled i .. => i
  | .disconnected i .. => i
  | .backendReset i _ => i

def eventSequence : BackendOutputEvent → Nat
  | .connected _ _ q .. => q
  | .reconfigured _ _ q .. => q
  | .disabled _ _ q _ => q
  | .disconnected _ _ q _ => q
  | .backendReset _ q => q

/-- The generation an event's output is registered under. -/
def rebasedGeneration (backendInstanceId generation displayEpoch : Nat) : Nat :=
  if backendInstanceId ≠ 0 then satAdd generation displayEpoch else generation

/-- Take over the backend's instance as the display epoch, when nothing is known yet. -/
def adoptEpoch (s : DisplayState) (backendInstanceId : Nat) : Option DisplayState :=
  if backendInstanceId ≠ 0 ∧ backendInstanceId ≠ s.displayEpoch then
    if s.outputs.isEmpty && s.backendSequences.isEmpty &&
        decide (s.reconciliationState ≠ .recovering) then
      some { s with displayEpoch := backendInstanceId }
    else none
  else some s

def framebufferTotal (n : Nat) : Except String Nat :=
  if n ≤ u64Max then .ok n else .error "aggregate framebuffer accounting overflow"

def addFramebufferBytes (total : Nat) (runtime : OutputRuntime) : Except String Nat :=
  framebufferTotal (total + runtime.state.framebufferBytes)

/-- The checks on a connected or reconfigured output, up to those on its predecessor. -/
def checkConnected (s : DisplayState) (backendInstanceId : Nat) (mappedId : String)
    (geometry : OutputGeometry) (cadence : PresentationCadence) : Except String OutputState :=
  cadence.validate >>= fun _ =>
  if !s.outputs.contains mappedId && decide (s.outputs.size ≥ maxOutputs) then
    .error "display output budget exhausted"
  else if geometry.outputId ≠ mappedId then
    .error "backend output identity does not match geometry output_id"
  else
    OutputState.validate
      { geometry with
        outputGeneration :=
          rebasedGeneration backendInstanceId geometry.outputGeneration s.displayEpoch } >>=
      fun nextState =>
    ((s.outputs.filter fun id _ => id ≠ mappedId).values.foldlM addFramebufferBytes 0) >>=
      fun other =>
    framebufferTotal (other + nextState.framebufferBytes) >>= fun aggregate =>
    if aggregate > maxTotalFramebufferBytes then .error "aggregate framebuffer budget exceeded"
    else .ok nextState

theorem checkConnected_ok {s : DisplayState} {instanceId : Nat} {id : String}
    {geometry : OutputGeometry} {cadence : PresentationCadence} {state : OutputState}
    (h : checkConnected s instanceId id geometry cadence = .ok state) :
    geometry.outputId = id ∧ cadence.periodNs ≠ 0 ∧
      state.toOutputGeometry =
        { geometry with
          outputGeneration :=
            rebasedGeneration instanceId geometry.outputGeneration s.displayEpoch } := by
  unfold checkConnected at h
  obtain ⟨_, hcadence, h⟩ := bind_eq_ok.mp h
  split_ifs at h with hfull hid
  obtain ⟨state', hstate, h⟩ := bind_eq_ok.mp h
  obtain ⟨_, _, h⟩ := bind_eq_ok.mp h
  obtain ⟨_, _, h⟩ := bind_eq_ok.mp h
  split_ifs at h
  obtain rfl := Except.ok.inj h
  refine ⟨not_not.mp hid, ?_, OutputState.validate_geometry hstate⟩
  unfold PresentationCadence.validate at hcadence
  split_ifs at hcadence with hperiod
  exact hperiod

/-- The runtime a connected output starts with: all of it is to be presented. -/
def connectedRuntime (s : DisplayState) (state : OutputState) (bounds : RendererRect)
    (bounds_eq : state.bounds? = some bounds) (backendInstanceId : Nat)
    (cadence : PresentationCadence) : OutputRuntime where
  state := state
  bounds := bounds
  bounds_eq := bounds_eq
  backendInstanceId := backendInstanceId
  pendingDamage := [bounds]
  pendingSceneEpoch := s.lastSceneEpoch
  pendingSceneGeneration := s.lastSceneGeneration
  pendingCommitId := s.lastCommitId
  scheduler := { outputGeneration := state.outputGeneration, cadence := cadence }

/-- Register a connected output and move to it what the current scene owes elsewhere. -/
def registerOutput (s : DisplayState) (mappedId : String) (runtime : OutputRuntime) :
    DisplayState :=
  let registered := { s with outputs := s.outputs.insert mappedId runtime }
  match s.lastScene with
  | none => registered
  | some scene =>
    if sceneTargetsOutput scene mappedId then
      registered.rebindUnavailableObligations s.lastSceneEpoch s.lastSceneGeneration
        (OrdSet.single mappedId)
    else registered

variable {β : Type} [DisplayBackend β]

def retireOutstanding (backend : β) (runtime : OutputRuntime) : β :=
  match runtime.outstanding with
  | none => backend
  | some outstanding => DisplayBackend.retireSubmission backend outstanding.token

namespace Display

/-- Replace the predecessor of a connected output in the backend. -/
def replacePredecessor (backend : β) (s : DisplayState) (backendInstanceId : Nat)
    (mappedId : String) (nextState : OutputState) : β × Except String Unit :=
  match s.outputs.get? mappedId with
  | none => (backend, .ok ())
  | some previous =>
    if previous.backendInstanceId ≠ 0 ∧ previous.backendInstanceId ≠ backendInstanceId then
      (backend, .error "backend output identity collision")
    else if nextState.outputGeneration ≤ previous.state.outputGeneration then
      (backend, .error "backend output generation is stale")
    else
      DisplayBackend.reconfigureOutput (retireOutstanding backend previous) mappedId
        nextState.outputGeneration

def connectOutput (d : Display β) (backendInstanceId : Nat) (mappedId : String)
    (geometry : OutputGeometry) (cadence : PresentationCadence) :
    Display β × Except Fault Unit :=
  match checkConnected d.state backendInstanceId mappedId geometry cadence with
  | .error reason => (d, .error (.error reason))
  | .ok nextState =>
    match replacePredecessor d.backend d.state backendInstanceId mappedId nextState with
    | (backend, .error reason) => (⟨d.state, backend⟩, .error (.error reason))
    | (backend, .ok _) =>
      match hb : nextState.bounds? with
      | none => (⟨d.state, backend⟩, .error (.panic "validated geometry"))
      | some bounds =>
        (⟨registerOutput d.state mappedId
          (connectedRuntime d.state nextState bounds hb backendInstanceId cadence), backend⟩,
          .ok ())

/-- An output that goes away must be the one the event names. -/
def identifiesOutput (s : DisplayState) (backendInstanceId outputGeneration : Nat)
    (runtime : OutputRuntime) : Bool :=
  runtime.backendInstanceId = backendInstanceId ∧
    runtime.state.outputGeneration =
      rebasedGeneration backendInstanceId outputGeneration s.displayEpoch

def disableRuntime (runtime : OutputRuntime) : OutputRuntime :=
  { runtime with outstanding := none, pendingDamage := [], retry := none, disabled := true }

def disableOutput (d : Display β) (backendInstanceId : Nat) (outputId : String)
    (outputGeneration : Nat) : Display β × Except Fault Unit :=
  match d.state.outputs.get? outputId with
  | none => (d, .error (.error "backend disabled unknown output"))
  | some runtime =>
    if !identifiesOutput d.state backendInstanceId outputGeneration runtime then
      (d, .error (.error "backend disabled event generation or identity mismatch"))
    else
      (⟨d.state.modifyOutput outputId disableRuntime,
        DisplayBackend.removeOutput (retireOutstanding d.backend runtime) outputId⟩, .ok ())

def dropOutput (d : Display β) (outputId : String) (runtime : OutputRuntime) : Display β :=
  ⟨{ d.state with outputs := d.state.outputs.erase outputId },
    DisplayBackend.removeOutput (retireOutstanding d.backend runtime) outputId⟩

def disconnectOutput (d : Display β) (backendInstanceId : Nat) (outputId : String)
    (outputGeneration : Nat) : Display β × Except Fault Unit :=
  match d.state.outputs.get? outputId with
  | none => (d, .error (.error "backend disconnected unknown output"))
  | some runtime =>
    if !identifiesOutput d.state backendInstanceId outputGeneration runtime then
      (d, .error (.error "backend disconnect event generation or identity mismatch"))
    else (d.dropOutput outputId runtime, .ok ())

def resetBackend (d : Display β) (backendInstanceId : Nat) : Display β :=
  (d.state.outputs.filter fun _ r => r.backendInstanceId = backendInstanceId).entries.foldl
    (fun d e => d.dropOutput e.1 e.2) d

def applyLifecycle (d : Display β) : BackendOutputEvent → Display β × Except Fault Unit
  | .connected i id _ geometry cadence => d.connectOutput i id geometry cadence
  | .reconfigured i id _ geometry cadence => d.connectOutput i id geometry cadence
  | .disabled i id _ generation => d.disableOutput i id generation
  | .disconnected i id _ generation => d.disconnectOutput i id generation
  | .backendReset i _ => (d.resetBackend i, .ok ())

def noteSequence (s : DisplayState) (event : BackendOutputEvent) : DisplayState :=
  { s with
    backendSequences :=
      s.backendSequences.insert (eventInstanceId event) (eventSequence event) }

def applyInSequence (d : Display β) (event : BackendOutputEvent) :
    Display β × Except Fault Unit :=
  match d.applyLifecycle event with
  | (d, .error fault) => (d, .error fault)
  | (d, .ok _) => (⟨noteSequence d.state event, d.backend⟩, .ok ())

def applyBackendOutputEvent (d : Display β) (event : BackendOutputEvent) :
    Display β × Except Fault Unit :=
  match adoptEpoch d.state (eventInstanceId event) with
  | none => (d, .error (.error "backend event belongs to a stale display epoch"))
  | some s =>
    let d : Display β := ⟨s, d.backend⟩
    match s.backendSequences.get? (eventInstanceId event) with
    | none => d.applyInSequence event
    | some previous =>
      if eventSequence event = previous then (d, .ok ())
      else if eventSequence event < previous then
        (d, .error (.error "backend output event sequence moved backwards"))
      else d.applyInSequence event

def retireRuntime (runtime : OutputRuntime) : OutputRuntime :=
  { runtime with outstanding := none, retry := none }

def retireAllRuntimeSubmissions (d : Display β) : Display β :=
  ⟨{ d.state with outputs := d.state.outputs.mapVals fun _ r => retireRuntime r },
    d.state.outputs.values.foldl retireOutstanding d.backend⟩

end Display

/-- `DisplayState::begin_restart`. -/
def beginRestart (s : DisplayState) (newEpoch : Nat) : Except Fault DisplayState :=
  if newEpoch < s.displayEpoch then
    .error (.error "display epoch must advance monotonically")
  else if newEpoch = s.displayEpoch then
    .ok { s with reconciliationState := .recovering, presentationFeedbacks := OrdMap.empty }
  else
    .ok
      { s with
        displayEpoch := newEpoch
        reconciliationState := .recovering
        outputs := OrdMap.empty
        backendSequences := OrdMap.empty
        presentationFeedbacks := OrdMap.empty }

def refreshHz (cadence : PresentationCadence) : Nat := 1000000000 / cadence.periodNs

def topologyEntry (runtime : OutputRuntime) : OutputTopologyEntry where
  geometry := runtime.state.toOutputGeometry
  refreshHz := refreshHz runtime.scheduler.cadence
  scale := 1
  transform := 0
  enabled := true
  name := runtime.state.outputId
  description := "Headless output " ++ runtime.state.outputId

def topologyOutputs (s : DisplayState) : List OutputTopologyEntry :=
  ((s.outputs.values.filter fun r => !r.disabled).map topologyEntry).insertionSort
    fun a b => a.geometry.outputId ≤ b.geometry.outputId

def eventEntry (backendOutputId : String) (geometry : OutputGeometry)
    (cadence : PresentationCadence) : OutputTopologyEntry where
  geometry := geometry
  refreshHz := refreshHz cadence
  scale := 1
  transform := 0
  enabled := true
  name := backendOutputId
  description := "Headless output " ++ backendOutputId

/-- The delta published for an event, from the event alone. -/
def topologyDelta (epoch sequence : Nat) : BackendOutputEvent → OutputTopologyDelta
  | .connected _ id _ geometry cadence =>
    ⟨epoch, sequence, some id, some geometry.outputGeneration, sequence, .added,
      some (eventEntry id geometry cadence)⟩
  | .reconfigured _ id _ geometry cadence =>
    ⟨epoch, sequence, some id, some geometry.outputGeneration, sequence, .reconfigured,
      some (eventEntry id geometry cadence)⟩
  | .disabled _ id _ generation =>
    ⟨epoch, sequence, some id, some generation, sequence, .disabled, none⟩
  | .disconnected _ id _ generation =>
    ⟨epoch, sequence, some id, some generation, sequence, .removed, none⟩
  | .backendReset _ _ => ⟨epoch, sequence, none, none, sequence, .reset, none⟩

/-- Building the delta divides by the period. -/
def deltaPanics : BackendOutputEvent → Bool
  | .connected _ _ _ _ cadence => cadence.periodNs = 0
  | .reconfigured _ _ _ _ cadence => cadence.periodNs = 0
  | _ => false

end TuffXwin.Displayd
