import TuffXwin.Lib.Session
import TuffXwin.WaylandWire.Registry

/-! The protocol core of one client, as far as frame callbacks and presentation feedback
go: the requests that make, commit and destroy them, and the events waiting to be
written. Every handler may fail and leave the core where it stopped. -/

namespace TuffXwin.WaylandWire
open Lib

def maxClientSurfaces : Nat := 4096
def maxClientFrameCallbacks : Nat := 4096

structure SurfaceInstance where
  callbacks : List Nat := []
  deriving DecidableEq, Repr

/-- What the registry and the stream saw, and why: a callback or feedback is `committed` to a
pending table of waylandd, `withdrawn` when no frame can show it, `dropped` from its table
without an event; `notified` is a presented frame. -/
inductive WireAction
  | registered (id : Nat) (interface : String)
  | destroyed (id : Nat)
  | sent (message : WaylandMessage)
  | committed (id generation : Nat) (outputs : List String)
  | withdrawn (id : Nat)
  | dropped (id : Nat)
  | notified (generation : Nat) (output : String) (timestamp : Nat)
  deriving DecidableEq, Repr

/-- `feedbacks` gives the surface of each feedback that is not committed; `trace` is a
specification variable, newest first. -/
structure HeadlessWireCore where
  registry : WireObjectRegistry := {}
  surfaces : OrdMap Nat SurfaceInstance := OrdMap.empty
  feedbacks : OrdMap Nat Nat := OrdMap.empty
  deferFrameCallbacks : Bool := false
  deferPresentationFeedback : Bool := false
  eventsOut : List WaylandMessage := []
  trace : List WireAction := []

abbrev CoreM := EStateM WireError HeadlessWireCore

def note (action : WireAction) : CoreM PUnit :=
  modify fun core => { core with trace := action :: core.trace }

def pushEvent (event : WaylandMessage) : CoreM PUnit :=
  modify fun core => { core with eventsOut := core.eventsOut ++ [event] }

/-- `write_all` on the client's stream. -/
def write (message : WaylandMessage) : CoreM PUnit := note (.sent message)

def registerObject (id : Nat) (interface : String) (version : Nat) : CoreM PUnit := do
  let core ← get
  match core.registry.registerClientObject id interface version with
  | .error error => throw error
  | .ok registry =>
    set { core with registry := registry, trace := .registered id interface :: core.trace }

def destroyObject (id : Nat) : CoreM PUnit := do
  let core ← get
  match core.registry.destroyObject id with
  | .error error => throw error
  | .ok registry => set { core with registry := registry, trace := .destroyed id :: core.trace }

def acknowledgeDeleteId (id : Nat) : CoreM PUnit := do
  let core ← get
  match core.registry.acknowledgeDeleteId id with
  | .error error => throw error
  | .ok registry => set { core with registry := registry }

def acknowledgeEventDelivery (event : WaylandMessage) : CoreM PUnit :=
  if event.header.objectId = displayId ∧ event.header.opcode = 1 then
    if event.payload.length ≠ 4 then
      throw (.protocolError "wl_display.delete_id payload is invalid")
    else acknowledgeDeleteId (readU32 event.payload)
  else pure ⟨⟩

def handleCreateSurface (payload : List UInt8) : CoreM PUnit := do
  let core ← get
  if payload.length < 4 then throw .incomplete
  else if core.surfaces.contains (readU32 payload) = false ∧
      core.surfaces.size ≥ maxClientSurfaces then
    throw (.protocolError "wl_surface resource budget exhausted")
  else do
    registerObject (readU32 payload) "wl_surface" 4
    modify fun core => { core with surfaces := core.surfaces.insert (readU32 payload) {} }

/-- The callbacks that wait for a commit, over all surfaces. -/
def HeadlessWireCore.callbackCount (core : HeadlessWireCore) : Nat :=
  (core.surfaces.values.map fun surface => surface.callbacks.length).sum

def handleSurfaceFrame (surfaceId : Nat) (payload : List UInt8) : CoreM PUnit := do
  let core ← get
  if payload.length < 4 then throw .incomplete
  else if core.callbackCount ≥ maxClientFrameCallbacks then
    throw (.protocolError "wl_surface frame callback budget exhausted")
  else do
    registerObject (readU32 payload) "wl_callback" 1
    modify fun core => { core with
      surfaces := core.surfaces.modify surfaceId fun surface =>
        { surface with callbacks := surface.callbacks ++ [readU32 payload] } }

def handlePresentationFeedback (payload : List UInt8) : CoreM PUnit :=
  if payload.length < 8 then throw .incomplete
  else do
    registerObject (readU32 (payload.drop 4)) "wp_presentation_feedback" 1
    modify fun core => { core with
      feedbacks := core.feedbacks.insert (readU32 (payload.drop 4)) (readU32 payload) }

/-- The feedbacks of a surface that wait for a commit, in the order of their ids. -/
def HeadlessWireCore.surfaceFeedbacks (core : HeadlessWireCore) (surfaceId : Nat) : List Nat :=
  (core.feedbacks.filter fun _ surface => surface = surfaceId).keys

def discardFeedback (id : Nat) : CoreM PUnit :=
  modify fun core => { core with
    eventsOut := core.eventsOut ++ [encodeEvent id 2 []]
    feedbacks := core.feedbacks.erase id
    trace := .withdrawn id :: core.trace }

def HeadlessWireCore.surfaceCallbacks (core : HeadlessWireCore) (surfaceId : Nat) : List Nat :=
  ((core.surfaces.get? surfaceId).map (·.callbacks)).getD []

/-- The interfaces of the objects whose life is followed. -/
def Followed (interface : String) : Prop :=
  interface = "wl_surface" ∨ interface = "wl_callback" ∨
    interface = "wp_presentation_feedback"

instance (interface : String) : Decidable (Followed interface) := by
  unfold Followed
  infer_instance

/-- What any other request does to the registry: objects made, then objects destroyed. -/
structure OtherEffect where
  made : List (Nat × String × Nat) := []
  destroyed : List Nat := []

def makeOther (entry : Nat × String × Nat) : CoreM PUnit :=
  if Followed entry.2.1 ∨ entry.1 > u32Max then throw (.protocolError "argument mismatch")
  else registerObject entry.1 entry.2.1 entry.2.2

def destroyOther (id : Nat) : CoreM PUnit := do
  let core ← get
  match core.registry.objects.get? id with
  | none => throw (.invalidObjectId id)
  | some object =>
    if Followed object.interface ∨ id = displayId then
      throw (.protocolError "argument mismatch")
    else destroyObject id

/-- With the surface go its idle inhibitors, `inhibitors`. -/
def handleSurfaceDestroy (surfaceId : Nat) (inhibitors : List Nat) : CoreM PUnit := do
  let core ← get
  (core.surfaceFeedbacks surfaceId).forM discardFeedback
  (core.surfaceCallbacks surfaceId).forM destroyObject
  inhibitors.forM destroyOther
  modify fun core => { core with surfaces := core.surfaces.erase surfaceId }
  destroyObject surfaceId

/-- The arguments of `wp_presentation_feedback.presented`. -/
def presentedArgs (timestamp refreshNs seq flags : Nat) : List WireArg :=
  [.uint (timestamp / 4294967296), .uint (timestamp % 4294967296), .uint (timestamp % 1000000000),
    .uint refreshNs, .uint (seq / 4294967296), .uint (seq % 4294967296), .uint flags]

/-- A callback answered at once, where presentation is not waited for. -/
def answerFrameCallback (id : Nat) : CoreM PUnit := do
  pushEvent (.new id 0 (writeU32 0))
  destroyObject id

def answerPresentationFeedback (clockNow id : Nat) : CoreM PUnit := do
  pushEvent (encodeEvent id 1 (presentedArgs clockNow 16666666 0 0))
  modify fun core => { core with feedbacks := core.feedbacks.erase id }

def handleSurfaceCommit (surfaceId clockNow : Nat) : CoreM PUnit := do
  let core ← get
  match core.surfaces.get? surfaceId with
  | none => throw (.invalidObjectId surfaceId)
  | some surface => do
    if core.deferFrameCallbacks then pure ⟨⟩ else do
      set { core with surfaces := core.surfaces.insert surfaceId { surface with callbacks := [] } }
      surface.callbacks.forM answerFrameCallback
    if core.deferPresentationFeedback then pure ⟨⟩ else
      (core.surfaceFeedbacks surfaceId).forM (answerPresentationFeedback clockNow)

def handleOther (effect : OtherEffect) : CoreM PUnit := do
  effect.made.forM makeOther
  effect.destroyed.forM destroyOther

/-- Queue a `delete_id` for every retired id that has none. -/
def queueDeleteIds : CoreM PUnit :=
  modify fun core =>
    let taken := core.registry.takeDeleteIdEvents
    { core with
      registry := taken.2
      eventsOut := core.eventsOut ++ taken.1.map deleteIdEvent }

def handleRequest (object : WireObject) (message : WaylandMessage) (effect : OtherEffect)
    (clockNow : Nat) : CoreM PUnit :=
  if object.interface = "wl_callback" ∨ object.interface = "wp_presentation_feedback" then
    throw (.protocolError ("unknown opcode " ++ toString message.header.opcode ++ " for " ++
      object.interface))
  else if object.interface = "wl_compositor" ∧ message.header.opcode = 0 then
    handleCreateSurface message.payload
  else if object.interface = "wl_surface" ∧ message.header.opcode = 0 then
    handleSurfaceDestroy message.header.objectId effect.destroyed
  else if object.interface = "wl_surface" ∧ message.header.opcode = 3 then
    handleSurfaceFrame message.header.objectId message.payload
  else if object.interface = "wl_surface" ∧ message.header.opcode = 6 then
    handleSurfaceCommit message.header.objectId clockNow
  else if object.interface = "wp_presentation" ∧ message.header.opcode = 1 then
    handlePresentationFeedback message.payload
  else handleOther effect

def dispatch (message : WaylandMessage) (effect : OtherEffect) (clockNow : Nat) :
    CoreM PUnit := do
  let core ← get
  match core.registry.getObject message.header.objectId with
  | .error error => throw error
  | .ok object => do
    modify fun core => { core with eventsOut := [] }
    handleRequest object message effect clockNow
    queueDeleteIds

def deliverEvent (event : WaylandMessage) : CoreM PUnit := do
  write event
  acknowledgeEventDelivery event

/-- `flush_pending_client_events`. -/
def flushEvents : CoreM PUnit := do
  let core ← get
  set { core with eventsOut := [] }
  core.eventsOut.forM deliverEvent

end TuffXwin.WaylandWire
