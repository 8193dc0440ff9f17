import Mathlib.Data.Prod.Lex
import TuffXwin.Lib.Reach
import TuffXwin.WaylandWire.Core
import TuffXwin.Waylandd.Scene

/-! One production client of waylandd: its frame callbacks and presentation feedback
from their commit to the frame that shows it. Three places report a presented frame,
and the surface may go first. -/

namespace TuffXwin.Waylandd
open Lib WaylandWire

def maxPendingFrameCallbacks : Nat := 4096
def maxPendingPresentationFeedbacks : Nat := 4096

/-- A frame callback or a presentation feedback that waits for its frame. -/
structure PendingObject where
  objectId : Nat
  clientId : Nat
  surfaceId : Nat
  sceneGeneration : Nat
  intersectingOutputs : List String
  deriving DecidableEq, Repr

abbrev PendingObjects := OrdMap (Nat ×ₗ Nat) PendingObject

def PendingObject.intersects (object : PendingObject) (outputId : String) : Bool :=
  object.intersectingOutputs.contains outputId

/-- Sorted, without duplicates. -/
def normalizeOutputs (outputs : List String) : List String := (OrdSet.ofList outputs).keys

namespace PendingObjects

/-- The registration of either table; the texts and the budget are its own. -/
def register (table : PendingObjects) (kind field budgetOf : String) (budget : Nat)
    (object : PendingObject) : Except String PendingObjects :=
  if table.contains (toLex (object.clientId, object.objectId)) then
    .error ("duplicate " ++ kind ++ " identity client=" ++ toString object.clientId ++ " " ++
      field ++ "=" ++ toString object.objectId)
  else if table.size ≥ budget then
    .error ("pending " ++ budgetOf ++ " budget exhausted: " ++ toString budget)
  else
    .ok (table.insert (toLex (object.clientId, object.objectId))
      { object with intersectingOutputs := normalizeOutputs object.intersectingOutputs })

def ofSurface (table : PendingObjects) (clientId surfaceId : Nat) : PendingObjects :=
  table.filter fun _ object => object.clientId = clientId ∧ object.surfaceId = surfaceId

def withoutSurface (table : PendingObjects) (clientId surfaceId : Nat) : PendingObjects :=
  table.filter fun _ object => ¬ (object.clientId = clientId ∧ object.surfaceId = surfaceId)

def objectIds (table : PendingObjects) : List Nat := table.values.map (·.objectId)

end PendingObjects

namespace PendingFrameCallbacks

def register (table : PendingObjects) (object : PendingObject) : Except String PendingObjects :=
  PendingObjects.register table "frame callback" "callback" "frame callback"
    maxPendingFrameCallbacks object

def isDue (clientId presentedGeneration : Nat) (outputId : String) (object : PendingObject) :
    Bool :=
  object.clientId = clientId ∧ object.sceneGeneration ≤ presentedGeneration ∧
    object.intersects outputId

def releaseForPresented (table : PendingObjects) (clientId presentedGeneration : Nat)
    (outputId : String) : List Nat × PendingObjects :=
  let due := isDue clientId presentedGeneration outputId
  (PendingObjects.objectIds (table.filter fun _ object => due object),
    table.filter fun _ object => !due object)

end PendingFrameCallbacks

namespace PendingPresentationFeedbacks

def register (table : PendingObjects) (object : PendingObject) : Except String PendingObjects :=
  PendingObjects.register table "presentation feedback" "feedback" "presentation feedback"
    maxPendingPresentationFeedbacks object

def isDue (clientId presentedGeneration : Nat) (outputId : String) (object : PendingObject) :
    Bool :=
  object.clientId = clientId ∧ (object.sceneGeneration < presentedGeneration ∨
    object.sceneGeneration = presentedGeneration ∧ object.intersects outputId)

def isPresented (presentedGeneration : Nat) (outputId : String) (object : PendingObject) : Bool :=
  object.sceneGeneration = presentedGeneration ∧ object.intersects outputId

structure Resolved where
  presented : List Nat
  discarded : List Nat
  table : PendingObjects

def resolveForPresented (table : PendingObjects) (clientId presentedGeneration : Nat)
    (outputId : String) : Resolved :=
  let due := isDue clientId presentedGeneration outputId
  let shown := isPresented presentedGeneration outputId
  { presented := PendingObjects.objectIds (table.filter fun _ object => due object && shown object)
    discarded := PendingObjects.objectIds (table.filter fun _ object => due object && !shown object)
    table := table.filter fun _ object => !due object }

end PendingPresentationFeedbacks

/-- `output_viewports_from_projection` and `intersecting_output_ids` in one. -/
def intersectingOutputIds (placement : SurfacePlacement)
    (projection : OrdMap String OutputTopologyEntry) : List String :=
  projection.values.filterMap fun entry =>
    let viewport := entry.geometry
    if placement.visible ∧ placement.x < viewport.originX + viewport.width ∧
        placement.x + placement.width > viewport.originX ∧
        placement.y < viewport.originY + viewport.height ∧
        placement.y + placement.height > viewport.originY then
      some viewport.outputId
    else none

inductive ClientError
  | wire (error : WireError)
  | bail (reason : String)
  | commit (error : CommitProductionSceneError)

/-- A client thread between two turns of its loop. -/
structure ProductionClient where
  clientId : Nat
  core : HeadlessWireCore := { deferFrameCallbacks := true, deferPresentationFeedback := true }
  liveProjection : OrdMap String OutputTopologyEntry := OrdMap.empty
  pendingCallbacks : PendingObjects := OrdMap.empty
  pendingFeedbacks : PendingObjects := OrdMap.empty
  lastObservedPresentationGeneration : Nat := 0
  closed : Bool := false

abbrev ClientM := EStateM ClientError ProductionClient

/-- A program of the core, run by the client. -/
def onCore (m : CoreM PUnit) : ClientM PUnit := fun client =>
  match m client.core with
  | .ok value core => .ok value { client with core := core }
  | .error error core => .error (.wire error) { client with core := core }

def writeDeleteId (id : Nat) : CoreM PUnit := do
  destroyObject id
  deliverEvent (deleteIdEvent id)

/-- A terminal event, and the id released. -/
def deliverTerminal (event : WaylandMessage) : CoreM PUnit := do
  write event
  writeDeleteId event.header.objectId

def emitDiscardedFeedback (feedbackId : Nat) : CoreM PUnit :=
  deliverTerminal (encodeEvent feedbackId 2 [])

/-- Discarded whatever frame is presented: the feedback's surface is gone or on no output. -/
def withdrawFeedback (feedbackId : Nat) : CoreM PUnit := do
  note (.withdrawn feedbackId)
  emitDiscardedFeedback feedbackId

/-- The output the client's frames are reported for. -/
def ProductionClient.output (client : ProductionClient) : String :=
  (client.liveProjection.values.head?.map fun entry => entry.geometry.outputId).getD ""

def releasePresentedCallbacks (sceneGeneration : Nat) (presentation : DisplayEvent)
    (outputId : String) : ClientM PUnit :=
  match presentation with
  | .framePresented _ timestamp _ _ _ => do
    onCore (note (.notified sceneGeneration outputId timestamp))
    let client ← get
    let released := PendingFrameCallbacks.releaseForPresented client.pendingCallbacks
      client.clientId sceneGeneration outputId
    set { client with pendingCallbacks := released.2 }
    released.1.forM fun id => onCore (deliverTerminal (.new id 0 (writeU32 0)))
  | _ => pure ⟨⟩

def releasePresentationFeedbacks (presentedGeneration : Nat) (presentation : DisplayEvent)
    (outputId : String) : ClientM PUnit :=
  match presentation with
  | .framePresented _ timestamp refreshNs seq flags => do
    onCore (note (.notified presentedGeneration outputId timestamp))
    let client ← get
    let resolved := PendingPresentationFeedbacks.resolveForPresented client.pendingFeedbacks
      client.clientId presentedGeneration outputId
    set { client with pendingFeedbacks := resolved.table }
    resolved.presented.forM fun id => onCore
      (deliverTerminal (encodeEvent id 1 (presentedArgs timestamp refreshNs seq flags)))
    resolved.discarded.forM fun id => onCore (write (encodeEvent id 2 []))
  | _ => pure ⟨⟩

def releasePresented (generation : Nat) (presentation : DisplayEvent) : ClientM PUnit := do
  let client ← get
  releasePresentedCallbacks generation presentation client.output
  releasePresentationFeedbacks generation presentation client.output

def registerFrameCallback (surfaceId sceneGeneration : Nat) (outputs : List String) (id : Nat) :
    ClientM PUnit := do
  let client ← get
  match PendingFrameCallbacks.register client.pendingCallbacks
      ⟨id, client.clientId, surfaceId, sceneGeneration, outputs⟩ with
  | .error reason => throw (.bail reason)
  | .ok table => do
    set { client with pendingCallbacks := table }
    onCore (note (.committed id sceneGeneration (normalizeOutputs outputs)))

def registerPresentationFeedback (surfaceId sceneGeneration : Nat) (outputs : List String)
    (id : Nat) : ClientM PUnit := do
  let client ← get
  if outputs.isEmpty then
    onCore (withdrawFeedback id)
  else
    match PendingPresentationFeedbacks.register client.pendingFeedbacks
        ⟨id, client.clientId, surfaceId, sceneGeneration, outputs⟩ with
    | .error reason => throw (.bail reason)
    | .ok table => do
      set { client with pendingFeedbacks := table }
      onCore (note (.committed id sceneGeneration (normalizeOutputs outputs)))

/-- `HeadlessWireCore::take_frame_callbacks`. -/
def takeFrameCallbacks (core : HeadlessWireCore) (surfaceId : Nat) : List Nat × HeadlessWireCore :=
  (core.surfaceCallbacks surfaceId,
    { core with
      surfaces := core.surfaces.modify surfaceId fun surface => { surface with callbacks := [] } })

/-- `HeadlessWireCore::take_presentation_feedbacks`. -/
def takePresentationFeedbacks (core : HeadlessWireCore) (surfaceId : Nat) :
    List Nat × HeadlessWireCore :=
  (core.surfaceFeedbacks surfaceId,
    { core with feedbacks := core.feedbacks.filter fun _ surface => surface ≠ surfaceId })

/-- What the scene service answers to a commit: the outcome of `upsert_client_scene`, and
that of `commit_canonical_scene` after it. -/
structure CommitAnswer where
  upserted : Except String (Nat × List SurfaceSnapshot)
  outcome : Except CommitProductionSceneError DisplayEvent

def committedOutputs (client : ProductionClient) (surfaces : List SurfaceSnapshot)
    (surfaceId : Nat) : List String :=
  let name := "client-" ++ toString client.clientId ++ "-surface-" ++ toString surfaceId
  ((surfaces.find? fun surface => surface.id = name).map fun surface =>
    intersectingOutputIds surface.placement client.liveProjection).getD []

def commitSurface (surfaceId : Nat) (answer : CommitAnswer) : ClientM PUnit :=
  match answer.upserted with
  | .error reason => throw (.bail reason)
  | .ok (sceneGeneration, surfaces) => do
    let client ← get
    let outputs := committedOutputs client surfaces surfaceId
    let callbacks := takeFrameCallbacks client.core surfaceId
    set { client with core := callbacks.2 }
    callbacks.1.forM (registerFrameCallback surfaceId sceneGeneration outputs)
    let client ← get
    let feedbacks := takePresentationFeedbacks client.core surfaceId
    set { client with core := feedbacks.2 }
    feedbacks.1.forM (registerPresentationFeedback surfaceId sceneGeneration outputs)
    match answer.outcome with
    | .ok presentation => do
      releasePresented sceneGeneration presentation
      modify fun client => { client with lastObservedPresentationGeneration := sceneGeneration }
    | .error (.recoverable _) => pure ⟨⟩
    | .error (.fatal reason) => throw (.commit (.fatal reason))

/-- `PendingFrameCallbacks::remove_surface`. -/
def dropFrameCallbacks (surfaceId : Nat) : ClientM PUnit := do
  let client ← get
  let dropped := client.pendingCallbacks.ofSurface client.clientId surfaceId
  set { client with
    pendingCallbacks := client.pendingCallbacks.withoutSurface client.clientId surfaceId }
  (PendingObjects.objectIds dropped).forM fun id => onCore (note (.dropped id))

def dropPresentationFeedbacks (surfaceId : Nat) : ClientM PUnit := do
  let client ← get
  let dropped := client.pendingFeedbacks.ofSurface client.clientId surfaceId
  set { client with
    pendingFeedbacks := client.pendingFeedbacks.withoutSurface client.clientId surfaceId }
  (PendingObjects.objectIds dropped).forM fun id => onCore (withdrawFeedback id)

/-- The pending objects of a surface that is gone. -/
def dropSurface (surfaceId : Nat) (isSurfaceDestroy : Bool) : ClientM PUnit := do
  dropFrameCallbacks surfaceId
  if isSurfaceDestroy then dropPresentationFeedbacks surfaceId else pure ⟨⟩

/-- Is the message request `opcode` of a live surface? -/
def ProductionClient.isSurfaceRequest (client : ProductionClient) (message : WaylandMessage)
    (opcode : Nat) : Bool :=
  match client.core.registry.objects.get? message.header.objectId with
  | some object => object.interface = "wl_surface" ∧ message.header.opcode = opcode
  | none => false

def handleMessage (message : WaylandMessage) (effect : OtherEffect) (answer : CommitAnswer) :
    ClientM PUnit := do
  let client ← get
  onCore (dispatch message effect 0)
  onCore flushEvents
  if client.isSurfaceRequest message 6 then commitSurface message.header.objectId answer
  else pure ⟨⟩
  let after ← get
  if after.core.surfaces.contains message.header.objectId then pure ⟨⟩
  else dropSurface message.header.objectId (client.isSurfaceRequest message 0)

inductive RetryPendingOutcome
  | recoverable
  | fatal (reason : String)
  | success (generation : Nat) (event : DisplayEvent)
  | notDue

def handleRetry : RetryPendingOutcome → ClientM PUnit
  | .success generation event => do
    releasePresented generation event
    modify fun client => { client with
      lastObservedPresentationGeneration :=
        max client.lastObservedPresentationGeneration generation }
  | .fatal reason => throw (.commit (.fatal reason))
  | .recoverable => pure ⟨⟩
  | .notDue => pure ⟨⟩

/-- A frame another client's commit presented; the scene reports it when it is newer. -/
def handleShared (generation : Nat) (event : DisplayEvent) : ClientM PUnit := do
  let client ← get
  if generation ≤ client.lastObservedPresentationGeneration then pure ⟨⟩
  else do
    releasePresented generation event
    modify fun client => { client with lastObservedPresentationGeneration := generation }

inductive ClientInput
  | message (message : WaylandMessage) (effect : OtherEffect) (answer : CommitAnswer)
  | retried (outcome : RetryPendingOutcome)
  | shared (generation : Nat) (event : DisplayEvent)
  | topology (projection : OrdMap String OutputTopologyEntry)
  | close

def handleInput : ClientInput → ClientM PUnit
  | .message message effect answer => handleMessage message effect answer
  | .retried outcome => handleRetry outcome
  | .shared generation event => handleShared generation event
  | .topology projection => modify fun client => { client with liveProjection := projection }
  | .close => throw (.bail "the connection is closed")

namespace ProductionClient

/-- Any failure ends the connection. -/
def step (client : ProductionClient) (input : ClientInput) : ProductionClient :=
  if client.closed then client
  else
    match handleInput input client with
    | .ok _ client => client
    | .error _ client => { client with closed := true }

def system (clientId : Nat) : System ProductionClient ClientInput where
  init client := client = { clientId := clientId }
  next := step

end ProductionClient

end TuffXwin.Waylandd
