import TuffXwin.Headless.Core

/-! The requests of the display, the registry, surfaces, shared memory and seats. A handler
takes the id of the object the message is for and the payload of the message. -/

namespace TuffXwin.Headless
open Lib
open WaylandWire (WireError WireArg WaylandMessage readU32 encodeEvent)

def maxClientSurfaces : Nat := 4096
def maxClientRegions : Nat := 4096
def maxClientPendingDamageRects : Nat := 4096
def maxClientFrameCallbacks : Nat := 4096

/-- `check` fails with a protocol error unless it holds. -/
def require (check : Prop) [Decidable check] (reason : String) : Handler Unit :=
  if check then pure () else throw (protocolError reason)

/-- Destroy an object of which the managers forget what they keep. -/
def destroyWith (forget : HeadlessWireCore → HeadlessWireCore) (id : Nat) : Handler Unit := do
  modify forget
  destroyObject id

/-! The display and the registry. -/

def handleGetRegistry (payload : List UInt8) : Handler Unit := do
  requireLength payload 4
  let newId ← wordAt payload 0
  registerClientObject newId .wlRegistry 1
  modify fun core => { core with registryObjects := core.registryObjects.insert newId () }
  let core ← get
  sendEach (core.globals.map fun global => globalEvent newId global)

def handleSync (payload : List UInt8) : Handler Unit := do
  requireLength payload 4
  let callbackId ← wordAt payload 0
  registerClientObject callbackId .wlCallback 1
  send callbackId 0 [.uint 0]
  destroyObject callbackId

/-- `std::str::from_utf8` accepts the bytes. -/
def isUtf8 : Option PartialScalar → List UInt8 → Bool
  | none, [] => true
  | some _, [] => false
  | none, byte :: rest =>
    match leadByte byte.toNat with
    | .scalar _ => isUtf8 none rest
    | .lead next => isUtf8 (some next) rest
    | .invalid => false
  | some scalar, byte :: rest =>
    if scalar.low ≤ byte.toNat ∧ byte.toNat ≤ scalar.high then
      if scalar.missing = 1 then isUtf8 none rest
      else isUtf8 (some ⟨scalar.bits, scalar.missing - 1, 128, 191⟩) rest
    else false

/-- The checks on the interface name of a bind, before it is decoded. -/
def checkInterface (payload : List UInt8) : Handler Unit := do
  let length ← wordAt payload 4
  require (length ≠ 0) "wl_registry.bind interface is empty"
  requireLength payload (8 + length)
  require (payload[7 + length]? = some 0) "wl_registry.bind interface is not nul terminated"
  require (isUtf8 none ((payload.drop 8).take (length - 1)) = true)
    "wl_registry.bind interface is not utf8"

def sendShmFormats (shmId : Nat) : Handler Unit := do
  send shmId 0 [.uint 0]
  send shmId 0 [.uint 1]

def sendSeatCapabilities (seatId : Nat) : Handler Unit := send seatId 0 [.uint 7]

def nextXdgSerial : Handler Nat := do
  let core ← get
  set { core with xdgShell := core.xdgShell.getNextSerial.2 }
  pure core.xdgShell.getNextSerial.1

def sendXdgPing (wmBaseId : Nat) : Handler Unit := do
  let serial ← nextXdgSerial
  send wmBaseId 0 [.uint serial]

namespace HeadlessWireCore

/-- The output behind a global: by the name it was announced for, else by its position. -/
def outputOfGlobal (core : HeadlessWireCore) (global : WireGlobal) : Option RealOutput :=
  let index := (core.globals.filter fun candidate =>
    candidate.interface = .wlOutput ∧ candidate.name ≤ global.name).length - 1
  let runtimeName := (core.runtimeGlobalNames.entries.find? fun entry =>
    entry.2 = global.name).map Prod.fst
  match runtimeName.bind fun name => core.realOutputs.find? fun entry => entry.name = name with
  | some output => some output
  | none => core.realOutputs[index]?

def withOutput (core : HeadlessWireCore) (id : Nat) (output : RealOutput) : HeadlessWireCore :=
  { core with
    output := ((core.output.createOutput id output.name).modifyOutput id fun state =>
      { state with x := output.x, y := output.y, scale := asI32 output.scale }).setMode id
        output.width output.height output.refreshNsec }

end HeadlessWireCore

def bindOutput (newId : Nat) (global : WireGlobal) : Handler Unit := do
  let core ← get
  match core.outputOfGlobal global with
  | none => pure ()
  | some output => do
    set (core.withOutput newId output)
    sendOutputState newId output

/-- What a bind does beyond the registration. -/
def announceGlobal (newId : Nat) (global : WireGlobal) : Handler Unit :=
  match global.interface with
  | .wlShm => sendShmFormats newId
  | .wlSeat => do
    modify fun core => { core with input := core.input.createSeat newId }
    sendSeatCapabilities newId
  | .xdgWmBase => sendXdgPing newId
  | .wlOutput => bindOutput newId global
  | _ => pure ()

def findGlobal (name : Nat) : Handler WireGlobal := do
  let core ← get
  lift (orInvalid (core.globals.find? fun global => global.name = name) name)

def handleRegistryBind (payload : List UInt8) : Handler Unit := do
  requireLength payload 8
  let name ← wordAt payload 0
  checkInterface payload
  let text ← textAt payload 4
  requireLength payload (text.2 + 8)
  require (payload.length = text.2 + 8) "wl_registry.bind has an invalid payload layout"
  let version ← wordAt payload text.2
  let newId ← wordAt payload (text.2 + 4)
  let global ← findGlobal name
  require (text.1 = global.interface.name)
    ("wl_registry.bind interface mismatch: requested " ++ text.1 ++ ", advertised " ++
      global.interface.name)
  require (version ≠ 0 ∧ version ≤ global.version)
    ("wl_registry.bind version " ++ toString version ++ " is outside advertised range 1..=" ++
      toString global.version)
  registerClientObject newId global.interface version
  announceGlobal newId global

/-! Surfaces. -/

namespace HeadlessWireCore

def withSurfaces (core : HeadlessWireCore) (surfaces : SurfaceManager) : HeadlessWireCore :=
  { core with surfaces := surfaces }

def pendingDamageCount (core : HeadlessWireCore) : Nat :=
  (core.surfaces.surfaces.values.map fun surface => surface.pending.damage.length).sum

def callbackCount (core : HeadlessWireCore) : Nat :=
  (core.surfaces.surfaces.values.map fun surface => surface.callbacks.length).sum

def callbacksOf (core : HeadlessWireCore) (surfaceId : Nat) : List Nat :=
  ((core.surfaces.surfaces.get? surfaceId).map (·.callbacks)).getD []

def feedbacksOf (core : HeadlessWireCore) (surfaceId : Nat) : List Nat :=
  (core.presentation.feedbacks.filter fun _ surface => surface = surfaceId).keys

def withoutFeedback (core : HeadlessWireCore) (id : Nat) : HeadlessWireCore :=
  { core with presentation := core.presentation.destroy id }

end HeadlessWireCore

def handleCreateSurface (payload : List UInt8) : Handler Unit := do
  requireLength payload 4
  let id ← wordAt payload 0
  let core ← get
  require (core.surfaces.surfaces.contains id ∨ core.surfaces.surfaces.size < maxClientSurfaces)
    "wl_surface resource budget exhausted"
  registerClientObject id .wlSurface 4
  modify fun core => core.withSurfaces (core.surfaces.createSurface id)

def handleCreateRegion (payload : List UInt8) : Handler Unit := do
  requireLength payload 4
  let id ← wordAt payload 0
  let core ← get
  require (core.surfaces.regions.contains id ∨ core.surfaces.regions.size < maxClientRegions)
    "wl_region resource budget exhausted"
  registerClientObject id .wlRegion 1
  modify fun core => core.withSurfaces (core.surfaces.createRegion id)

/-- Every feedback gets the event that ends it. -/
def endFeedbacks (opcode : Nat) (args : List WireArg) : List Nat → Handler Unit
  | [] => pure ()
  | id :: rest => do
    send id opcode args
    modify fun core => core.withoutFeedback id
    endFeedbacks opcode args rest

def closeLayerSurface (surfaceId : Nat) : Handler Unit := do
  let core ← get
  set { core with layerShell := (core.layerShell.surfaceDestroyed surfaceId).2 }
  match (core.layerShell.surfaceDestroyed surfaceId).1 with
  | none => pure ()
  | some layerId => send layerId 1 []

def removeInhibitors (environment : Environment) (surfaceId : Nat) : Handler Unit := do
  let core ← get
  set { core with idleInhibit := (core.idleInhibit.surfaceDestroyed surfaceId).2 }
  destroyObjects (environment.visit (core.idleInhibit.surfaceDestroyed surfaceId).1)

/-- Constraints that end without a request of their own. -/
def sendUnlocked (ids : List Nat) : Handler Unit :=
  sendEach (ids.map fun id => encodeEvent id 1 [])

def removeSurfaceConstraints (environment : Environment) (surfaceId : Nat) : Handler Unit := do
  let core ← get
  let removed := core.pointerConstraints.surfaceDestroyed environment.visit surfaceId
  set { core with pointerConstraints := removed.2 }
  sendUnlocked removed.1

def handleSurfaceDestroy (environment : Environment) (surfaceId : Nat) : Handler Unit := do
  let core ← get
  endFeedbacks 2 [] (environment.visit (core.feedbacksOf surfaceId))
  destroyObjects (core.callbacksOf surfaceId)
  closeLayerSurface surfaceId
  removeInhibitors environment surfaceId
  removeSurfaceConstraints environment surfaceId
  modify fun core => core.withSurfaces (core.surfaces.destroySurface surfaceId)
  destroyObject surfaceId

def requireBuffer (bufferId : Nat) : Handler Unit :=
  if bufferId = 0 then pure ()
  else do
    let core ← get
    let buffer ← getObject bufferId
    require (buffer.interface = .wlBuffer ∧ core.shm.buffers.contains bufferId = true)
      ("wl_surface.attach requires a live wl_shm buffer: " ++ toString bufferId)

/-- A change of what is pending for a surface, if it is there. -/
def setPending (surfaceId : Nat) (f : SurfaceState → SurfaceState) : Handler Unit :=
  modify fun core => core.withSurfaces (core.surfaces.modifySurface surfaceId fun surface =>
    { surface with pending := f surface.pending })

def handleSurfaceAttach (surfaceId : Nat) (payload : List UInt8) : Handler Unit := do
  requireLength payload 12
  let bufferId ← wordAt payload 0
  let x ← intAt payload 4
  let y ← intAt payload 8
  requireBuffer bufferId
  setPending surfaceId fun pending =>
    { pending with bufferId := optionalId bufferId, offsetX := x, offsetY := y }

def handleSurfaceDamage (surfaceId : Nat) (payload : List UInt8) : Handler Unit := do
  requireLength payload 16
  let x ← intAt payload 0
  let y ← intAt payload 4
  let width ← wordAt payload 8
  let height ← wordAt payload 12
  let core ← get
  require (core.pendingDamageCount < maxClientPendingDamageRects)
    "wl_surface pending damage budget exhausted"
  setPending surfaceId fun pending =>
    { pending with damage := pending.damage ++ [⟨x, y, width, height⟩] }

def handleSurfaceFrame (surfaceId : Nat) (payload : List UInt8) : Handler Unit := do
  requireLength payload 4
  let callbackId ← wordAt payload 0
  let core ← get
  require (core.callbackCount < maxClientFrameCallbacks)
    "wl_surface frame callback budget exhausted"
  registerClientObject callbackId .wlCallback 1
  modify fun core => core.withSurfaces (core.surfaces.modifySurface surfaceId fun surface =>
    { surface with callbacks := surface.callbacks ++ [callbackId] })

def answerCallbacks : List Nat → Handler Unit
  | [] => pure ()
  | id :: rest => do
    send id 0 [.uint 0]
    destroyObject id
    answerCallbacks rest

/-- Deferred callbacks go back into the list they were taken from. -/
def answerFrameCallbacks (surfaceId : Nat) : Handler Unit := do
  let core ← get
  if core.deferFrameCallbacks then pure ()
  else do
    let callbacks ← takeFrameCallbacks surfaceId
    answerCallbacks callbacks

def presentedArgs (now : Nat) : List WireArg :=
  [.uint (now / 4294967296 % 4294967296), .uint (now % 4294967296), .uint (now % 1000000000),
    .uint 16666666, .uint 0, .uint 0, .uint 0]

def handleSurfaceCommit (environment : Environment) (surfaceId : Nat) : Handler Unit := do
  modify fun core => { core with
    surfaces := core.surfaces.commit surfaceId
    viewport := core.viewport.commit environment.visit surfaceId }
  updateSurfaceOutputMembership surfaceId
  answerFrameCallbacks surfaceId
  let core ← get
  if core.deferPresentationFeedback then pure ()
  else
    endFeedbacks 1 (presentedArgs environment.clockNow)
      (environment.visit (core.feedbacksOf surfaceId))

/-! Shared memory. -/

def onShm (op : ShmManager → Fallible ShmManager) : Handler Unit :=
  onPart (·.shm) (fun core shm => { core with shm := shm }) op

/-- The registration is undone when what follows it fails. -/
def undoing (id : Nat) (handler : Handler Unit) : Handler Unit :=
  tryCatch handler fun fault =>
    match fault with
    | .panicked => throw .panicked
    | .error error => do
      ignoreError (destroyObject id)
      throw (.error error)

/-- The first descriptor among the arguments; received ones come from the queue. -/
def createPool (id size : Nat) : List WireArg → Handler Unit
  | [] => throw (protocolError "missing FD for wl_shm.create_pool")
  | .ancillaryFd :: rest => do
    let core ← get
    match core.fdQueue with
    | [] => createPool id size rest
    | fd :: fds => do
      set { core with fdQueue := fds }
      onShm fun shm => shm.createPoolFromFd id fd size
  | .fd _ :: _ => onShm fun shm => shm.createPoolFromFake id size
  | _ :: rest => createPool id size rest

def handleShmCreatePool (payload : List UInt8) (args : List WireArg) : Handler Unit := do
  requireLength payload 8
  let id ← wordAt payload 0
  let size ← wordAt payload 4
  registerClientObject id .wlShmPool 1
  undoing id (createPool id size args)

def handleShmPoolCreateBuffer (poolId : Nat) (payload : List UInt8) : Handler Unit := do
  requireLength payload 24
  let id ← wordAt payload 0
  let offset ← intAt payload 4
  let width ← intAt payload 8
  let height ← intAt payload 12
  let stride ← intAt payload 16
  let format ← wordAt payload 20
  registerClientObject id .wlBuffer 1
  undoing id (onShm fun shm => shm.createBuffer id poolId offset width height stride format)

def handleShmPoolDestroy (poolId : Nat) : Handler Unit := do
  onShm fun shm => shm.destroyPool poolId
  destroyObject poolId

def handleShmPoolResize (environment : Environment) (poolId : Nat) (payload : List UInt8) :
    Handler Unit := do
  requireLength payload 4
  let size ← intAt payload 0
  onShm fun shm => shm.resizePool environment.fileSize poolId size

def handleShmBufferDestroy (bufferId : Nat) : Handler Unit := do
  onShm fun shm => shm.destroyBuffer bufferId
  destroyObject bufferId

/-! Seats. -/

def onInput (op : SeatManager → Fallible SeatManager) : Handler Unit :=
  onPart (·.input) (fun core input => { core with input := input }) op

/-- The new pointer is on the surface with the greatest id. -/
def handleSeatGetPointer (seatId : Nat) (payload : List UInt8) : Handler Unit := do
  requireLength payload 4
  let id ← wordAt payload 0
  let seat ← getObject seatId
  registerClientObject id .wlPointer (min seat.version 7)
  onInput fun input => input.getPointer seatId id
  modify fun core =>
    match core.surfaces.surfaces.keys.max? with
    | none => core
    | some surfaceId => { core with input := core.input.setPointerFocus id (some surfaceId) 0 0 }

def handleSeatGetKeyboard (seatId : Nat) (payload : List UInt8) : Handler Unit := do
  requireLength payload 4
  let id ← wordAt payload 0
  let seat ← getObject seatId
  registerClientObject id .wlKeyboard (min seat.version 7)
  onInput fun input => input.getKeyboard seatId id

def handleWlPointerRelease (environment : Environment) (pointerId : Nat) : Handler Unit := do
  let core ← get
  let removed := core.pointerConstraints.pointerReleased environment.visit pointerId
  set { core with
    relativePointer := core.relativePointer.pointerReleased pointerId
    pointerConstraints := removed.2 }
  sendUnlocked removed.1
  onInput fun input => input.releasePointer pointerId
  destroyObject pointerId

end TuffXwin.Headless
