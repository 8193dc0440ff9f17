import TuffXwin.Displayd.Outputs

/-! The displayd process as a transition system. An input is one client
connection, with everything the environment contributes to it, or a restart of
the process from the scene snapshot on disk. -/

namespace TuffXwin.Displayd
open Lib

variable {β : Type} [DisplayBackend β]

namespace Display

def acceptScene (d : Display β) (env : Env) (source : ServiceRole) (scene : SceneCommit) :
    Display β × Except Fault DisplayEvent :=
  let result := handleSceneAcceptance d.state scene source env
  (⟨result.1, d.backend⟩, result.2)

/-- `ReconcileScene`: the acceptance path, then the reconciliation state. -/
def reconcileScene (d : Display β) (env : Env) (source : ServiceRole) (epoch : Nat)
    (scene : SceneCommit) : Display β × Except Fault DisplayEvent :=
  if epoch ≠ d.state.displayEpoch then (d, .ok (.rejected "reconciliation epoch mismatch"))
  else
    match d.acceptScene env source scene with
    | (d, .error fault) => (d, .error fault)
    | (d, .ok (.sceneCommitted ..)) =>
      (⟨{ d.state with reconciliationState := .reconciledAwaitingPresentation }, d.backend⟩,
        .ok (.reconciled epoch scene.sceneGeneration scene.pixelPayloads.length))
    | (d, .ok event) => (d, .ok event)

def beginReconciliation (d : Display β) (epoch : Nat) : Display β × Except Fault DisplayEvent :=
  let d := d.retireAllRuntimeSubmissions
  match beginRestart d.state epoch with
  | .error fault => (d, .error fault)
  | .ok s => (⟨s, d.backend⟩, .ok (.reconciliation epoch .recovering))

/-- The sequence the next event of a command on outputs carries. -/
def commandSequence (s : DisplayState) : Nat := satAdd ((s.backendSequences.get? 0).getD 0) 1

/-- `ConfigureOutput` and `RemoveOutput` apply one event and answer its outcome. -/
def outputCommand (d : Display β) (event : BackendOutputEvent) (done : DisplayEvent) :
    Display β × Except Fault DisplayEvent :=
  match d.applyBackendOutputEvent event with
  | (d, .ok _) => (d, .ok done)
  | (d, .error (.error reason)) => (d, .ok (.rejected reason))
  | (d, .error (.panic message)) => (d, .error (.panic message))

def configureOutput (d : Display β) (geometry : OutputGeometry) :
    Display β × Except Fault DisplayEvent :=
  d.outputCommand (.reconfigured 0 geometry.outputId (commandSequence d.state) geometry
    ⟨16666667⟩) (.modeApplied geometry.outputId)

def removeOutputCommand (d : Display β) (outputId : String) (outputGeneration : Nat) :
    Display β × Except Fault DisplayEvent :=
  d.outputCommand (.disconnected 0 outputId (commandSequence d.state) outputGeneration)
    (.blankApplied (some outputId))

def completePresentationCommand (d : Display β) (env : Env) (token : PresentationToken)
    (outcome : PresentationCompletion) : Display β × Except Fault DisplayEvent :=
  let result := d.finishBackendCompletion env token outcome
  (result.1, .ok (.presentationCompleted token result.2))

def advanceCommand (d : Display β) (env : Env) (outputId : String)
    (outputGeneration nowNs tickSequence : Nat) : Display β × Except Fault DisplayEvent :=
  let result := d.advanceAndPublish env outputId outputGeneration nowNs tickSequence
  (result.1, result.2.map fun eligible =>
    .presentationAdvanced outputId tickSequence eligible)

def handleDisplayCommand (d : Display β) (env : Env) (source : ServiceRole)
    (topologySequence : Nat) : DisplayCommand → Display β × Except Fault DisplayEvent
  | .getReconciliation =>
    (d, .ok (.reconciliation d.state.displayEpoch d.state.reconciliationState))
  | .getOutputTopology =>
    (d, .ok (.outputTopology d.state.displayEpoch topologySequence (topologyOutputs d.state)))
  | .beginReconciliation epoch => d.beginReconciliation epoch
  | .reconcileScene epoch scene => d.reconcileScene env source epoch scene
  | .advancePresentation id generation now tick => d.advanceCommand env id generation now tick
  | .completePresentation token outcome => d.completePresentationCommand env token outcome
  | .configureOutput geometry => d.configureOutput geometry
  | .removeOutput id generation => d.removeOutputCommand id generation
  | .commitScene scene => d.acceptScene env source scene
  | .getSceneSnapshot output => (d, .ok (.sceneSnapshot (d.state.sceneForOutput output)))
  | .getPresentationFeedback commitId => d.getPresentationFeedback env commitId

end Display

/-- A topology subscription: the snapshot it was answered with, and every delta
queued to it since. -/
structure TopologySubscriber where
  id : Nat
  epoch : Nat
  sequence : Nat
  outputs : List OutputTopologyEntry
  deltas : List OutputTopologyDelta := []

structure Server (β : Type) where
  display : Display β
  topologySequence : Nat := 0
  subscribers : List TopologySubscriber := []
  nextSubscriberId : Nat := 1
  halted : Bool := false

inductive Request
  | subscribe (epoch sequence : Nat)
  | command (command : DisplayCommand)

/-- One connection: what its environment answers, which subscriber queues still
take a message, and the request, if one is read. -/
structure Connection where
  env : Env := {}
  accepting : Nat → Bool := fun _ => true
  source : ServiceRole := .waylandd
  request : Option Request := none

def maxTopologySubscribers : Nat := 64

namespace Server

def publishTopologyDelta (srv : Server β) (accepting : Nat → Bool)
    (event : BackendOutputEvent) : Server β × Except Fault Unit :=
  let sequence := min (srv.topologySequence + 1) u64Max
  let advanced :=
    { srv with
      topologySequence := if srv.topologySequence = u64Max then 0
        else srv.topologySequence + 1 }
  if deltaPanics event then
    (advanced, .error (.panic "attempt to divide by zero"))
  else
    let delta := topologyDelta srv.display.state.displayEpoch sequence event
    ({ advanced with
      subscribers := (srv.subscribers.filter fun sub => accepting sub.id).map fun sub =>
        { sub with deltas := sub.deltas ++ [delta] } }, .ok ())

/-- `apply_backend_output_events`: an error drops the events still polled. -/
def applyEvents (accepting : Nat → Bool) :
    Server β → List BackendOutputEvent → Server β × Except Fault Unit
  | srv, [] => (srv, .ok ())
  | srv, event :: rest =>
    match srv.display.applyBackendOutputEvent event with
    | (d, .error fault) => ({ srv with display := d }, .error fault)
    | (d, .ok _) =>
      match publishTopologyDelta { srv with display := d } accepting event with
      | (srv, .error fault) => (srv, .error fault)
      | (srv, .ok _) => applyEvents accepting srv rest

def subscribe (srv : Server β) (epoch sequence : Nat) :
    Server β × Except Fault DisplayEvent :=
  let s := srv.display.state
  if epoch ≠ s.displayEpoch ∨ sequence > srv.topologySequence then
    (srv, .ok (.rejected "topology subscription epoch or sequence mismatch"))
  else if srv.subscribers.length ≥ maxTopologySubscribers then
    ({ srv with nextSubscriberId := srv.nextSubscriberId + 1 },
      .ok (.rejected "topology subscriber budget exhausted"))
  else
    ({ srv with
      nextSubscriberId := srv.nextSubscriberId + 1
      subscribers := srv.subscribers ++
        [⟨srv.nextSubscriberId, s.displayEpoch, srv.topologySequence, topologyOutputs s, []⟩] },
      .ok (.outputTopology s.displayEpoch srv.topologySequence (topologyOutputs s)))

def handleRequest (srv : Server β) (conn : Connection) :
    Request → Server β × Except Fault DisplayEvent
  | .subscribe epoch sequence => srv.subscribe epoch sequence
  | .command command =>
    let result := srv.display.handleDisplayCommand conn.env conn.source srv.topologySequence
      command
    ({ srv with display := result.1 }, result.2)

def polled (srv : Server β) : Server β × List BackendOutputEvent :=
  let result := DisplayBackend.pollOutputEvents srv.display.backend
  ({ srv with display := ⟨srv.display.state, result.1⟩ }, result.2)

/-- `handle_client`: the events the backend has, then the request. No answer is
sent when there is no request or when a step fails. -/
def handleClient (srv : Server β) (conn : Connection) :
    Server β × Except Fault (Option DisplayEvent) :=
  let polled := srv.polled
  match applyEvents conn.accepting polled.1 polled.2 with
  | (srv, .error fault) => (srv, .error fault)
  | (srv, .ok _) =>
    match conn.request with
    | none => (srv, .ok none)
    | some request =>
      let result := srv.handleRequest conn request
      (result.1, result.2.map some)

def isPanic {α : Type} : Except Fault α → Bool
  | .error (.panic _) => true
  | _ => false

end Server

/-- `DisplayState::load`, with the outputs the chosen backend starts from. -/
def DisplayState.load (displayEpoch : Nat) (outputs : OrdMap String OutputRuntime)
    (lastScene : Option CommittedSceneState) (history : List DisplayEffect) :
    DisplayState where
  displayEpoch := displayEpoch
  lastScene := lastScene
  lastSceneEpoch := (lastScene.map (·.sceneEpoch)).getD 0
  lastSceneGeneration := (lastScene.map (·.sceneGeneration)).getD 0
  nextCommitId := (lastScene.map fun scene => satAdd scene.commitId 1).getD 1
  outputs := outputs
  history := history

inductive Input (β : Type)
  | client (conn : Connection)
  /-- The process starts again, from the snapshot file, with a new backend. -/
  | restart (displayEpoch : Nat) (keepsDefaultOutput : Bool) (backend : β)

def startOutputs (keepsDefaultOutput : Bool) : OrdMap String OutputRuntime :=
  if keepsDefaultOutput then defaultOutputRegistry else OrdMap.empty

theorem startOutputs_get? {keeps : Bool} {id : String} {r : OutputRuntime}
    (h : (startOutputs keeps).get? id = some r) : id = "eDP-1" ∧ r = defaultOutputRuntime := by
  unfold startOutputs at h
  split_ifs at h
  · unfold defaultOutputRegistry at h
    rw [OrdMap.get?_insert] at h
    split_ifs at h with hid
    · exact ⟨hid, (Option.some.inj h).symm⟩
    · cases h
  · cases h

namespace Server

def start (displayEpoch : Nat) (keepsDefaultOutput : Bool) (backend : β)
    (lastScene : Option CommittedSceneState) (history : List DisplayEffect) : Server β where
  display :=
    ⟨DisplayState.load displayEpoch (startOutputs keepsDefaultOutput) lastScene history,
      backend⟩

def step (srv : Server β) : Input β → Server β
  | .client conn =>
    if srv.halted then srv
    else
      let result := srv.handleClient conn
      { result.1 with halted := isPanic result.2 }
  | .restart epoch keeps backend =>
    start epoch keeps backend srv.display.state.lastScene srv.display.state.history

/-- displayd, started for the first time with no snapshot on disk. -/
def system (β : Type) [DisplayBackend β] : System (Server β) (Input β) where
  init srv := ∃ epoch keeps backend, srv = start epoch keeps backend none []
  next := step

end Server

end TuffXwin.Displayd
