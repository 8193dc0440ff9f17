import TuffXwin.Headless.Managers

/-! The state of the protocol core of one client and the operations its handlers share.
Every event that is queued is noted together with the object that its id named then, and so
are the creation and the destruction of every object: the log is the history that the core
itself does not keep. -/

namespace TuffXwin.Headless
open Lib
open WaylandWire (WireError WireArg WaylandMessage readU32 displayId firstServerId encodeEvent
  deleteIdEvent)

structure WireObject where
  interface : Interface
  version : Nat
  deriving DecidableEq, Repr

structure WireObjectRegistry where
  objects : OrdMap Nat WireObject := OrdMap.empty.insert displayId ⟨.wlDisplay, 1⟩
  retiredPendingDelete : OrdSet Nat := OrdMap.empty
  reusableIds : OrdSet Nat := OrdMap.empty
  queuedDeleteIds : OrdSet Nat := OrdMap.empty
  serverId : Nat := firstServerId

namespace WireObjectRegistry

def getObject (r : WireObjectRegistry) (id : Nat) : Fallible WireObject :=
  orInvalid (r.objects.get? id) id

/-- The ids that may be registered. -/
def Available (r : WireObjectRegistry) (id : Nat) : Prop :=
  id ≠ displayId ∧ r.objects.contains id = false ∧ r.retiredPendingDelete.contains id = false

instance (r : WireObjectRegistry) (id : Nat) : Decidable (r.Available id) :=
  inferInstanceAs (Decidable (_ ∧ _))

def registered (r : WireObjectRegistry) (id : Nat) (object : WireObject) : WireObjectRegistry :=
  { r with
    objects := r.objects.insert id object
    reusableIds := r.reusableIds.erase id }

def registerClientObject (r : WireObjectRegistry) (id : Nat) (interface : Interface)
    (version : Nat) : Fallible WireObjectRegistry :=
  if r.Available id then .ok (r.registered id ⟨interface, version⟩)
  else .error (invalidObject id)

def retired (r : WireObjectRegistry) (id : Nat) : WireObjectRegistry :=
  { r with
    objects := r.objects.erase id
    retiredPendingDelete :=
      if id < firstServerId ∧ id ≠ displayId then r.retiredPendingDelete.insert id ()
      else r.retiredPendingDelete }

def destroyObject (r : WireObjectRegistry) (id : Nat) : Fallible WireObjectRegistry :=
  if r.objects.contains id then .ok (r.retired id) else .error (invalidObject id)

def takeDeleteIdEvents (r : WireObjectRegistry) : List Nat × WireObjectRegistry :=
  let ids := r.retiredPendingDelete.difference r.queuedDeleteIds
  (ids, { r with queuedDeleteIds := ids.foldl (fun s id => s.insert id ()) r.queuedDeleteIds })

def acknowledgeDeleteId (r : WireObjectRegistry) (id : Nat) : Fallible WireObjectRegistry :=
  if r.retiredPendingDelete.contains id then
    .ok { r with
      retiredPendingDelete := r.retiredPendingDelete.erase id
      queuedDeleteIds := r.queuedDeleteIds.erase id
      reusableIds := r.reusableIds.insert id () }
  else .error (invalidObject id)

/-- The id is a word; past the last one the sum panics. -/
def nextServerId (r : WireObjectRegistry) : Fallible (Nat × WireObjectRegistry) :=
  if r.serverId < u32Max then .ok (r.serverId, { r with serverId := r.serverId + 1 })
  else .error .panicked

end WireObjectRegistry

/-- What a step finds outside the core: the order in which it visits the keys of a map,
the time, and the size of the file behind a descriptor. -/
structure Environment where
  visit : List Nat → List Nat
  visit_perm : ∀ keys, (visit keys).Perm keys
  clockNow : Nat
  fileSize : Nat → Option Nat

structure WireGlobal where
  name : Nat
  interface : Interface
  version : Nat
  deriving DecidableEq, Repr

def standardGlobals : List WireGlobal := [
  ⟨1, .wlCompositor, 4⟩, ⟨2, .wlShm, 1⟩, ⟨3, .wlSeat, 7⟩, ⟨4, .xdgWmBase, 6⟩,
  ⟨5, .wlDataDeviceManager, 3⟩, ⟨6, .wlSubcompositor, 1⟩, ⟨7, .zwpTextInputManagerV3, 1⟩,
  ⟨8, .zwpInputMethodManagerV2, 1⟩, ⟨9, .wpViewporter, 1⟩, ⟨10, .wpFractionalScaleManagerV1, 1⟩,
  ⟨11, .zxdgDecorationManagerV1, 1⟩, ⟨12, .wpPresentation, 1⟩, ⟨13, .zxdgOutputManagerV1, 3⟩,
  ⟨14, .zwlrOutputManagerV1, 4⟩, ⟨15, .zwlrScreencopyManagerV1, 3⟩,
  ⟨16, .extImageCopyCaptureManagerV1, 1⟩, ⟨17, .zwlrLayerShellV1, 4⟩,
  ⟨18, .zwpIdleInhibitManagerV1, 1⟩, ⟨19, .zwpRelativePointerManagerV1, 1⟩,
  ⟨20, .zwpPointerConstraintsV1, 1⟩]

/-- An output of the topology. -/
structure RealOutput where
  name : String
  x : Int
  y : Int
  width : Int
  height : Int
  refreshNsec : Nat
  scale : Nat
  deriving DecidableEq, Repr

inductive Note
  | sent (event : WaylandMessage) (target : Option WireObject)
  | created (id : Nat) (object : WireObject)
  | destroyed (id : Nat)
  deriving DecidableEq, Repr

structure HeadlessWireCore where
  registry : WireObjectRegistry := {}
  surfaces : SurfaceManager := {}
  shm : ShmManager := {}
  xdgShell : XdgShellManager := {}
  input : SeatManager := {}
  dataDevice : DataDeviceManager := {}
  subsurface : SubcompositorManager := {}
  textInput : TextInputManager := {}
  inputMethod : InputMethodManager := {}
  ime : FakeImeBackend := {}
  viewport : ViewportManager := {}
  fractionalScale : FractionalScaleManager := {}
  xdgDecoration : XdgDecorationManager := {}
  presentation : PresentationManager := {}
  output : OutputManager := {}
  xdgOutput : XdgOutputManager := {}
  outputManagement : OutputManagementManager := {}
  screencopy : ScreencopyManager := {}
  imageCopyCapture : ImageCopyCaptureManager := {}
  layerShell : LayerShellState := {}
  idleInhibit : IdleInhibitState := {}
  relativePointer : RelativePointerState := {}
  pointerConstraints : PointerConstraintsState := {}
  globals : List WireGlobal := standardGlobals
  realOutputs : List RealOutput := []
  surfaceOutputMembership : OrdMap Nat (OrdSet Nat) := OrdMap.empty
  registryObjects : OrdSet Nat := OrdMap.empty
  runtimeGlobalNames : OrdMap String Nat := OrdMap.empty
  eventsOut : List WaylandMessage := []
  deferFrameCallbacks : Bool := false
  deferPresentationFeedback : Bool := false
  nextGlobalName : Nat := 100
  fdQueue : List Nat := []
  log : List Note := []

/-- A handler that fails leaves the core as it was then. -/
abbrev Handler := EStateM Fault HeadlessWireCore

namespace HeadlessWireCore

def object? (core : HeadlessWireCore) (id : Nat) : Option WireObject :=
  core.registry.objects.get? id

def withRegistry (core : HeadlessWireCore) (registry : WireObjectRegistry) : HeadlessWireCore :=
  { core with registry := registry }

def registered (core : HeadlessWireCore) (id : Nat) (object : WireObject) : HeadlessWireCore :=
  { core with
    registry := core.registry.registered id object
    log := core.log ++ [.created id object] }

def retired (core : HeadlessWireCore) (id : Nat) : HeadlessWireCore :=
  { core with
    registry := core.registry.retired id
    log := core.log ++ [.destroyed id] }

def noted (core : HeadlessWireCore) (note : Note) : HeadlessWireCore :=
  { core with log := core.log ++ [note] }

def pushed (core : HeadlessWireCore) (event : WaylandMessage) : HeadlessWireCore :=
  { core with
    eventsOut := core.eventsOut ++ [event]
    log := core.log ++ [.sent event (core.object? event.header.objectId)] }

def membershipOf (core : HeadlessWireCore) (surfaceId : Nat) : OrdSet Nat :=
  (core.surfaceOutputMembership.get? surfaceId).getD OrdMap.empty

end HeadlessWireCore

/-- What an operation of a manager returns or how it fails. -/
def lift {α : Type} (result : Fallible α) : Handler α :=
  match result with
  | .ok a => pure a
  | .error fault => throw fault

/-- An operation on one part of the core. -/
def onPart {α : Type} (part : HeadlessWireCore → α)
    (put : HeadlessWireCore → α → HeadlessWireCore) (op : α → Fallible α) : Handler Unit := do
  let core ← get
  let changed ← lift (op (part core))
  set (put core changed)

/-- The payload must have so many bytes. -/
def requireLength (payload : List UInt8) (length : Nat) : Handler Unit :=
  if payload.length < length then throw (.error .incomplete) else pure ()

/-- A word of the payload; a slice that ends behind it panics. -/
def wordAt (payload : List UInt8) (offset : Nat) : Handler Nat :=
  if payload.length < offset + 4 then throw .panicked else pure (readU32 (payload.drop offset))

def intAt (payload : List UInt8) (offset : Nat) : Handler Int :=
  if payload.length < offset + 4 then throw .panicked else pure (readI32 (payload.drop offset))

/-- An id of which zero stands for none. -/
def optionalId (id : Nat) : Option Nat := if id = 0 then none else some id

def textAt (payload : List UInt8) (offset : Nat) : Handler (String × Nat) :=
  match decodeString payload offset with
  | .ok read => pure read
  | .error error => throw (.error error)

def getObject (id : Nat) : Handler WireObject := do
  let core ← get
  lift (core.registry.getObject id)

def registerClientObject (id : Nat) (interface : Interface) (version : Nat) : Handler Unit := do
  onPart (·.registry) HeadlessWireCore.withRegistry fun registry =>
    registry.registerClientObject id interface version
  modify fun core => core.noted (.created id ⟨interface, version⟩)

def destroyObject (id : Nat) : Handler Unit := do
  onPart (·.registry) HeadlessWireCore.withRegistry fun registry => registry.destroyObject id
  modify fun core => core.noted (.destroyed id)

def destroyObjects : List Nat → Handler Unit
  | [] => pure ()
  | id :: rest => do
    destroyObject id
    destroyObjects rest

def nextServerId : Handler Nat := do
  let core ← get
  let next ← lift core.registry.nextServerId
  set (core.withRegistry next.2)
  pure next.1

def pushEvent (event : WaylandMessage) : Handler Unit := modify fun core => core.pushed event

/-- `encode_event` and the push of its message. -/
def send (id opcode : Nat) (args : List WireArg) : Handler Unit :=
  pushEvent (encodeEvent id opcode args)

def sendEach (messages : List WaylandMessage) : Handler Unit :=
  modify fun core => messages.foldl HeadlessWireCore.pushed core

/-! The outputs a surface is on. -/

/-- The rectangle of a surface as its current state gives it. -/
structure SurfaceExtent where
  x : Int
  y : Int
  width : Int
  height : Int

def SurfaceState.extent (state : SurfaceState) : SurfaceExtent where
  x := state.offsetX
  y := state.offsetY
  width := asI32 (state.snapshotWidthHint.getD 1)
  height := asI32 (state.snapshotHeightHint.getD 1)

/-- The edges of the output are summed only as far as the comparisons need them. -/
def SurfaceExtent.intersects (extent : SurfaceExtent) (output : OutputState) : Fallible Bool := do
  let right ← addI32 output.x output.width
  if extent.x < right ∧ satAddI32 extent.x extent.width > output.x then do
    let bottom ← addI32 output.y output.height
    pure (decide (extent.y < bottom ∧ satAddI32 extent.y extent.height > output.y))
  else pure false

def SurfaceExtent.outputsIn (extent : SurfaceExtent) :
    List (Nat × OutputState) → Fallible (OrdSet Nat)
  | [] => .ok OrdMap.empty
  | (id, output) :: rest => do
    let hit ← extent.intersects output
    let others ← extent.outputsIn rest
    .ok (if hit then others.insert id () else others)

def enterEvents (surfaceId : Nat) (outputs : List Nat) : List WaylandMessage :=
  outputs.map fun output => encodeEvent surfaceId 4 [.object output]

def leaveEvents (surfaceId : Nat) (outputs : List Nat) : List WaylandMessage :=
  outputs.map fun output => encodeEvent surfaceId 5 [.object output]

def HeadlessWireCore.withMembership (core : HeadlessWireCore) (surfaceId : Nat)
    (current : OrdSet Nat) : HeadlessWireCore :=
  { core with
    surfaceOutputMembership := core.surfaceOutputMembership.insert surfaceId current }

def updateSurfaceOutputMembership (surfaceId : Nat) : Handler Unit := do
  let core ← get
  let surface ← lift (orInvalid (core.surfaces.surfaces.get? surfaceId) surfaceId)
  let previous := core.membershipOf surfaceId
  let current ← lift (surface.current.extent.outputsIn core.output.outputs.entries)
  sendEach (enterEvents surfaceId (current.difference previous))
  sendEach (leaveEvents surfaceId (previous.difference current))
  modify fun core => core.withMembership surfaceId current

def updateSurfaces : List Nat → Handler Unit
  | [] => pure ()
  | id :: rest => do
    updateSurfaceOutputMembership id
    updateSurfaces rest

def recalculateSurfaceMembership (environment : Environment) : Handler Unit := do
  let core ← get
  updateSurfaces (environment.visit core.surfaces.surfaces.keys)

/-! The outputs of the topology. -/

def globalEvent (registryId : Nat) (global : WireGlobal) : WaylandMessage :=
  encodeEvent registryId 0
    [.uint global.name, .string global.interface.name, .uint global.version]

def globalRemoveEvent (registryId name : Nat) : WaylandMessage :=
  encodeEvent registryId 1 [.uint name]

/-- A runtime global takes the next name; the sum panics past the last word. -/
def addTopologyOutput (output : RealOutput) : Handler Unit := do
  let core ← get
  if core.runtimeGlobalNames.contains output.name then pure ()
  else if core.nextGlobalName < u32Max then do
    let global : WireGlobal := ⟨core.nextGlobalName, .wlOutput, 4⟩
    set { core with
      nextGlobalName := core.nextGlobalName + 1
      realOutputs := core.realOutputs ++ [output]
      runtimeGlobalNames := core.runtimeGlobalNames.insert output.name core.nextGlobalName
      globals := core.globals ++ [global] }
    sendEach (core.registryObjects.keys.map fun registry => globalEvent registry global)
  else throw .panicked

/-- A period in nanoseconds as a rate in millihertz. -/
def refreshPeriodToMillihz (refreshNs : Nat) : Fallible Int :=
  if refreshNs = 0 then .ok 0
  else
    let millihz := (1000000000000 + refreshNs / 2) / refreshNs
    if (millihz : Int) ≤ i32Max then .ok millihz
    else .error (protocolError "wl_output.mode refresh exceeds i32")

/-- What a client learns of an output, by the version it bound. -/
def outputEvents (id version : Nat) (output : RealOutput) (millihz : Int) :
    List WaylandMessage :=
  [encodeEvent id 0
      [.int output.x, .int output.y, .int 0, .int 0, .int 0, .string "TUFF",
        .string output.name, .int 0],
    encodeEvent id 1 [.uint 1, .int output.width, .int output.height, .int millihz]] ++
  (if version ≥ 2 then [encodeEvent id 3 [.int output.scale]] else []) ++
  (if version ≥ 4 then
    [encodeEvent id 4 [.string output.name], encodeEvent id 5 [.string "TUFF Virtual Display"]]
  else []) ++
  (if version ≥ 2 then [encodeEvent id 2 []] else [])

def sendOutputState (id : Nat) (output : RealOutput) : Handler Unit := do
  let object ← getObject id
  let millihz ← lift (refreshPeriodToMillihz output.refreshNsec)
  sendEach (outputEvents id object.version output millihz)

def sendOutputStates (output : RealOutput) : List Nat → Handler Unit
  | [] => pure ()
  | id :: rest => do
    sendOutputState id output
    sendOutputStates output rest

def OutputState.reconfigured (state : OutputState) (output : RealOutput) : OutputState :=
  { state with
    x := output.x
    y := output.y
    scale := asI32 output.scale
    width := output.width
    height := output.height
    refreshNsec := output.refreshNsec }

/-- The first entry of the name is replaced. -/
def replaceOutput (output : RealOutput) : List RealOutput → List RealOutput
  | [] => []
  | entry :: rest =>
    if entry.name = output.name then output :: rest else entry :: replaceOutput output rest

namespace HeadlessWireCore

def outputsNamed (core : HeadlessWireCore) (name : String) : OrdMap Nat OutputState :=
  core.output.outputs.filter fun _ output => output.name = name

def reconfigured (core : HeadlessWireCore) (output : RealOutput) : HeadlessWireCore :=
  { core with
    realOutputs := replaceOutput output core.realOutputs
    output := ⟨core.output.outputs.mapVals fun _ state =>
      if state.name = output.name then state.reconfigured output else state⟩ }

/-- Without the output of a name, its global and the objects bound to it. -/
def withoutOutput (core : HeadlessWireCore) (name : String) : HeadlessWireCore :=
  { core with
    realOutputs := core.realOutputs.filter fun entry => entry.name ≠ name
    runtimeGlobalNames := core.runtimeGlobalNames.erase name
    globals :=
      match core.runtimeGlobalNames.get? name with
      | none => core.globals
      | some globalName => core.globals.filter fun global => global.name ≠ globalName
    output := ⟨core.output.outputs.filter fun _ output => output.name ≠ name⟩ }

def globalRemovals (core : HeadlessWireCore) (name : String) : List WaylandMessage :=
  match core.runtimeGlobalNames.get? name with
  | none => []
  | some globalName =>
    core.registryObjects.keys.map fun registry => globalRemoveEvent registry globalName

end HeadlessWireCore

def reconfigureTopologyOutput (output : RealOutput) (environment : Environment) :
    Handler Unit := do
  let core ← get
  if core.realOutputs.any fun entry => entry.name = output.name then do
    set (core.reconfigured output)
    sendOutputStates output (environment.visit (core.outputsNamed output.name).keys)
    recalculateSurfaceMembership environment
  else throw (protocolError ("unknown output " ++ output.name))

/-- An error of a handler is ignored; a panic is not. -/
def ignoreError (handler : Handler Unit) : Handler Unit :=
  tryCatch handler fun fault =>
    match fault with
    | .error _ => pure ()
    | .panicked => throw .panicked

def tryUpdateSurfaces : List Nat → Handler Unit
  | [] => pure ()
  | id :: rest => do
    ignoreError (updateSurfaceOutputMembership id)
    tryUpdateSurfaces rest

def removeTopologyOutput (name : String) (environment : Environment) : Handler Unit := do
  let core ← get
  set (core.withoutOutput name)
  sendEach (core.globalRemovals name)
  tryUpdateSurfaces (environment.visit core.surfaces.surfaces.keys)

/-! What waits to be sent and what was taken from the core. -/

def drainEvents : Handler (List WaylandMessage) := do
  let core ← get
  set { core with eventsOut := [] }
  pure core.eventsOut

def acknowledgeEventDelivery (event : WaylandMessage) : Handler Unit :=
  if event.header.objectId = displayId ∧ event.header.opcode = 1 then
    if event.payload.length ≠ 4 then
      throw (protocolError "wl_display.delete_id payload is invalid")
    else
      onPart (·.registry) HeadlessWireCore.withRegistry fun registry =>
        registry.acknowledgeDeleteId (readU32 event.payload)
  else pure ()

def takeFrameCallbacks (surfaceId : Nat) : Handler (List Nat) := do
  let core ← get
  set { core with
    surfaces := core.surfaces.modifySurface surfaceId fun surface =>
      { surface with callbacks := [] } }
  pure (((core.surfaces.surfaces.get? surfaceId).map (·.callbacks)).getD [])

def takePresentationFeedbacks (surfaceId : Nat) : Handler (List Nat) := do
  let core ← get
  let taken := core.presentation.feedbacks.filter fun _ surface => surface = surfaceId
  set { core with
    presentation := ⟨core.presentation.feedbacks.filter fun _ surface => surface ≠ surfaceId⟩ }
  pure taken.keys

end TuffXwin.Headless
