import TuffXwin.Headless.SurfaceRequests

/-! The requests of the desktop shell, of data exchange, of subsurfaces and of the layer
shell. -/

namespace TuffXwin.Headless
open Lib
open WaylandWire (WireError WireArg WaylandMessage readU32 encodeEvent)

/-! The desktop shell. -/

namespace HeadlessWireCore

def withXdgShell (core : HeadlessWireCore) (xdgShell : XdgShellManager) : HeadlessWireCore :=
  { core with xdgShell := xdgShell }

def withXdgSurface (core : HeadlessWireCore) (id : Nat)
    (f : XdgSurfaceState → XdgSurfaceState) : HeadlessWireCore :=
  core.withXdgShell (core.xdgShell.modifySurface id f)

/-- Without the extended surface; its surface gets a role anew. -/
def withoutXdgSurface (core : HeadlessWireCore) (id : Nat) : HeadlessWireCore :=
  match core.xdgShell.surfaces.get? id with
  | none => core
  | some state => { core with
      xdgShell := { core.xdgShell with surfaces := core.xdgShell.surfaces.erase id }
      surfaces := core.surfaces.releaseRole state.wlSurfaceId }

end HeadlessWireCore

def onXdgShell (op : XdgShellManager → Fallible XdgShellManager) : Handler Unit :=
  onPart (·.xdgShell) HeadlessWireCore.withXdgShell op

def onSurfaces (op : SurfaceManager → Fallible SurfaceManager) : Handler Unit :=
  onPart (·.surfaces) HeadlessWireCore.withSurfaces op

def handleXdgWmBaseGetXdgSurface (payload : List UInt8) : Handler Unit := do
  requireLength payload 8
  let id ← wordAt payload 0
  let wlSurfaceId ← wordAt payload 4
  let core ← get
  require ((core.xdgShell.surfaces.values.any fun s => s.wlSurfaceId = wlSurfaceId) = false)
    "wl_surface already has an xdg_surface"
  registerClientObject id .xdgSurface 6
  let _ ← getObject wlSurfaceId
  onSurfaces fun surfaces => surfaces.claimRole wlSurfaceId .xdgSurface
  modify fun core => core.withXdgShell (core.xdgShell.createXdgSurface id wlSurfaceId)

def handleXdgWmBasePong : Handler Unit := pure ()

def handleXdgWmBaseCreatePositioner (payload : List UInt8) : Handler Unit := do
  let id ← wordAt payload 0
  registerClientObject id .xdgPositioner 6
  modify fun core => core.withXdgShell (core.xdgShell.createPositioner id)

def handleXdgSurfaceDestroy (id : Nat) : Handler Unit :=
  destroyWith (fun core => core.withoutXdgSurface id) id

def handleXdgSurfaceGetToplevel (xdgSurfaceId : Nat) (payload : List UInt8) : Handler Unit := do
  requireLength payload 4
  let id ← wordAt payload 0
  registerClientObject id .xdgToplevel 6
  let serial ← nextXdgSerial
  modify fun core => core.withXdgSurface xdgSurfaceId fun state =>
    { state with configureSerial := serial }
  send id 0 [.int 0, .int 0, .array []]
  send xdgSurfaceId 0 [.uint serial]

def handleXdgSurfaceGetPopup (xdgSurfaceId : Nat) (payload : List UInt8) : Handler Unit := do
  let id ← wordAt payload 0
  let parentId ← wordAt payload 4
  let positionerId ← wordAt payload 8
  registerClientObject id .xdgPopup 6
  onXdgShell fun shell => shell.createPopup id xdgSurfaceId (optionalId parentId) positionerId
  send id 0 [.int 0, .int 0, .int 100, .int 100]

def handleXdgSurfaceSetWindowGeometry (id : Nat) (payload : List UInt8) : Handler Unit := do
  requireLength payload 16
  let x ← intAt payload 0
  let y ← intAt payload 4
  let width ← intAt payload 8
  let height ← intAt payload 12
  onXdgShell fun shell => shell.setWindowGeometry id (x, y, width, height)

def handleXdgSurfaceAckConfigure (id : Nat) (payload : List UInt8) : Handler Unit := do
  requireLength payload 4
  let serial ← wordAt payload 0
  onXdgShell fun shell => shell.ackConfigure id serial

def handleXdgToplevelDestroy (id : Nat) : Handler Unit := destroyWith (fun core => core) id

def handleXdgToplevelSetParent : Handler Unit := pure ()

/-- The surface's state under the id of its toplevel, if there is one. -/
def setToplevelText (id : Nat) (args : List WireArg)
    (f : String → XdgSurfaceState → XdgSurfaceState) : Handler Unit :=
  match args with
  | .string text :: _ => modify fun core => core.withXdgSurface id (f text)
  | _ => pure ()

def handleXdgToplevelSetTitle (id : Nat) (args : List WireArg) : Handler Unit :=
  setToplevelText id args fun title state => { state with title := some title }

def handleXdgToplevelSetAppId (id : Nat) (args : List WireArg) : Handler Unit :=
  setToplevelText id args fun appId state => { state with appId := some appId }

def handleXdgPopupDestroy (id : Nat) : Handler Unit :=
  destroyWith (fun core => core.withXdgShell
    { core.xdgShell with popups := core.xdgShell.popups.erase id }) id

def handleXdgPopupGrab : Handler Unit := pure ()

def handleXdgPositionerDestroy (id : Nat) : Handler Unit :=
  destroyWith (fun core => core.withXdgShell
    { core.xdgShell with positioners := core.xdgShell.positioners.erase id }) id

def setPositioner (id : Nat) (f : PositionerState → PositionerState) : Handler Unit :=
  modify fun core => core.withXdgShell (core.xdgShell.modifyPositioner id f)

def handleXdgPositionerSetSize (id : Nat) (payload : List UInt8) : Handler Unit := do
  let width ← intAt payload 0
  let height ← intAt payload 4
  setPositioner id fun p => { p with width := width, height := height }

def handleXdgPositionerSetAnchorRect (id : Nat) (payload : List UInt8) : Handler Unit := do
  let x ← intAt payload 0
  let y ← intAt payload 4
  let width ← intAt payload 8
  let height ← intAt payload 12
  setPositioner id fun p => { p with anchorRect := (x, y, width, height) }

def handleXdgPositionerSetAnchor (id : Nat) (payload : List UInt8) : Handler Unit := do
  let anchor ← wordAt payload 0
  setPositioner id fun p => { p with anchor := anchor }

def handleXdgPositionerSetGravity (id : Nat) (payload : List UInt8) : Handler Unit := do
  let gravity ← wordAt payload 0
  setPositioner id fun p => { p with gravity := gravity }

def handleXdgPositionerSetConstraintAdjustment (id : Nat) (payload : List UInt8) :
    Handler Unit := do
  let adjustment ← wordAt payload 0
  setPositioner id fun p => { p with constraintAdjustment := adjustment }

def handleXdgPositionerSetOffset (id : Nat) (payload : List UInt8) : Handler Unit := do
  let x ← intAt payload 0
  let y ← intAt payload 4
  setPositioner id fun p => { p with offset := (x, y) }

/-! Data exchange. -/

namespace HeadlessWireCore

def withDataDevice (core : HeadlessWireCore) (dataDevice : DataDeviceManager) :
    HeadlessWireCore :=
  { core with dataDevice := dataDevice }

def devicesOfSeat (core : HeadlessWireCore) (seatId : Nat) : List Nat :=
  (core.dataDevice.devices.filter fun _ seat => seat = seatId).keys

/-- The focus of the first pointer of the seat that is visited. -/
def pointerFocus (core : HeadlessWireCore) (environment : Environment) (seatId : Nat) :
    Option Nat :=
  let ofSeat := fun id => ((core.input.pointers.get? id).map (·.seatId)) = some seatId
  (((environment.visit core.input.pointers.keys).find? ofSeat).bind
    core.input.pointers.get?).bind (·.focusSurfaceId)

def offerSource (core : HeadlessWireCore) (offerId : Nat) : Option Nat :=
  (core.dataDevice.offers.get? offerId).bind (·.sourceId)

end HeadlessWireCore

def handleCreateDataSource (payload : List UInt8) : Handler Unit := do
  let id ← wordAt payload 0
  registerClientObject id .wlDataSource 3
  modify fun core => core.withDataDevice (core.dataDevice.createDataSource id)

def handleGetDataDevice (payload : List UInt8) : Handler Unit := do
  let id ← wordAt payload 0
  let seatId ← wordAt payload 4
  registerClientObject id .wlDataDevice 3
  modify fun core => core.withDataDevice (core.dataDevice.getDataDevice id seatId)

def setSource (id : Nat) (f : DataSource → DataSource) : Handler Unit :=
  modify fun core => core.withDataDevice (core.dataDevice.modifySource id f)

def handleDataSourceOffer (id : Nat) (payload : List UInt8) : Handler Unit := do
  let mimeType ← textAt payload 0
  setSource id fun source => { source with mimeTypes := source.mimeTypes ++ [mimeType.1] }

def handleDataSourceDestroy (id : Nat) : Handler Unit := do
  setSource id fun source => { source with isDestroyed := true }
  destroyObject id

def handleDataSourceSetActions (id : Nat) (payload : List UInt8) : Handler Unit := do
  let dndActions ← wordAt payload 0
  setSource id fun source => { source with dndActions := dndActions }

def seatOfDevice (deviceId : Nat) : Handler Nat := do
  let core ← get
  match core.dataDevice.devices.get? deviceId with
  | none => throw (protocolError "unknown data device")
  | some seatId => pure seatId

/-- A new offer of the source, announced to a device with its types. -/
def introduceOffer (deviceId offerId sourceId : Nat) : Handler Unit := do
  let core ← get
  match core.dataDevice.sources.get? sourceId with
  | none => throw (protocolError "source disappeared")
  | some source => do
    modify fun core => core.withDataDevice (core.dataDevice.insertOffer offerId sourceId source)
    send deviceId 0 [.newId offerId]
    sendEach (source.mimeTypes.map fun mime => encodeEvent offerId 0 [.string mime])

def newOffer : Handler Nat := do
  let offerId ← nextServerId
  registerClientObject offerId .wlDataOffer 3
  pure offerId

def emitSelectionEvents (sourceId : Nat) : List Nat → Handler Unit
  | [] => pure ()
  | deviceId :: rest => do
    let offerId ← newOffer
    introduceOffer deviceId offerId sourceId
    send deviceId 5 [.object offerId]
    emitSelectionEvents sourceId rest

def emitSelectionEventsNull (deviceIds : List Nat) : Handler Unit :=
  sendEach (deviceIds.map fun deviceId => encodeEvent deviceId 5 [.object 0])

def handleDataDeviceSetSelection (environment : Environment) (deviceId : Nat)
    (payload : List UInt8) : Handler Unit := do
  let source ← wordAt payload 0
  let seatId ← seatOfDevice deviceId
  modify fun core => core.withDataDevice { core.dataDevice with
    seatSelections := core.dataDevice.seatSelections.insert seatId (optionalId source) }
  let core ← get
  match optionalId source with
  | some sourceId => emitSelectionEvents sourceId (environment.visit (core.devicesOfSeat seatId))
  | none => emitSelectionEventsNull (environment.visit (core.devicesOfSeat seatId))

/-- The source of a drag may be missing. -/
def introduceSource (deviceId offerId : Nat) : Option Nat → Handler Unit
  | none => pure ()
  | some sourceId => introduceOffer deviceId offerId sourceId

/-- The surface in focus is entered with a new offer. -/
def enterDrag (deviceId surfaceId : Nat) (sourceId : Option Nat) : Handler Unit := do
  let offerId ← newOffer
  introduceSource deviceId offerId sourceId
  let serial ← nextXdgSerial
  send deviceId 1 [.uint serial, .object surfaceId, .fixed 0, .fixed 0, .object offerId]

def handleDataDeviceStartDrag (environment : Environment) (deviceId : Nat)
    (payload : List UInt8) : Handler Unit := do
  let source ← wordAt payload 0
  let originId ← wordAt payload 4
  let icon ← wordAt payload 8
  let _serial ← wordAt payload 12
  let seatId ← seatOfDevice deviceId
  modify fun core => core.withDataDevice
    (core.dataDevice.startDrag seatId (optionalId source) originId (optionalId icon))
  let core ← get
  match core.pointerFocus environment seatId with
  | none => pure ()
  | some surfaceId => enterDrag deviceId surfaceId (optionalId source)

def handleDataDeviceRelease (id : Nat) : Handler Unit := destroyWith (fun core => core) id

/-- An event for the source behind an offer, if there is one. -/
def sendToSource (offerId opcode : Nat) (args : List WireArg) : Handler Unit := do
  let core ← get
  match core.offerSource offerId with
  | none => pure ()
  | some sourceId => send sourceId opcode args

def handleDataOfferAccept (offerId : Nat) (payload : List UInt8) : Handler Unit := do
  let _serial ← wordAt payload 0
  let mimeType ← textAt payload 4
  sendToSource offerId 0 [.string mimeType.1]

/-- The last descriptor of the queue. -/
def popFd : Handler Unit := do
  let core ← get
  require (core.fdQueue ≠ []) "missing FD for receive"
  set { core with fdQueue := core.fdQueue.dropLast }

def handleDataOfferReceive (offerId : Nat) (payload : List UInt8) : Handler Unit := do
  let mimeType ← textAt payload 0
  popFd
  let core ← get
  require (core.dataDevice.offers.contains offerId = true) "unknown offer"
  sendToSource offerId 1 [.string mimeType.1, .fd 0]

def handleDataOfferDestroy (id : Nat) : Handler Unit := destroyWith (fun core => core) id

def handleDataOfferFinish (offerId : Nat) : Handler Unit := sendToSource offerId 4 []

def handleDataOfferSetActions (offerId : Nat) (payload : List UInt8) : Handler Unit := do
  let dndActions ← wordAt payload 0
  let preferredAction ← wordAt payload 4
  modify fun core => core.withDataDevice { core.dataDevice with
    offers := core.dataDevice.offers.modify offerId fun offer =>
      { offer with dndActions := dndActions, preferredAction := preferredAction } }
  sendToSource offerId 5 [.uint preferredAction]

/-! Subsurfaces. -/

def onSubsurface (op : SubcompositorManager → Fallible SubcompositorManager) : Handler Unit :=
  onPart (·.subsurface) (fun core subsurface => { core with subsurface := subsurface }) op

def handleSubcompositorDestroy (id : Nat) : Handler Unit := destroyWith (fun core => core) id

def handleGetSubsurface (payload : List UInt8) : Handler Unit := do
  let id ← wordAt payload 0
  let surfaceId ← wordAt payload 4
  let parentId ← wordAt payload 8
  registerClientObject id .wlSubsurface 1
  onSubsurface fun subsurface => subsurface.getSubsurface id surfaceId parentId

def handleSubsurfaceDestroy (id : Nat) : Handler Unit :=
  destroyWith (fun core => { core with subsurface := core.subsurface.destroy id }) id

def handleSubsurfaceSetPosition (id : Nat) (payload : List UInt8) : Handler Unit := do
  let x ← intAt payload 0
  let y ← intAt payload 4
  onSubsurface fun subsurface => subsurface.modifySubsurface id fun state =>
    { state with x := x, y := y }

def handleSubsurfacePlaceAbove : Handler Unit := pure ()

def handleSubsurfacePlaceBelow : Handler Unit := pure ()

def setSync (id : Nat) (sync : Bool) : Handler Unit :=
  onSubsurface fun subsurface => subsurface.modifySubsurface id fun state =>
    { state with sync := sync }

def handleSubsurfaceSetSync (id : Nat) : Handler Unit := setSync id true

def handleSubsurfaceSetDesync (id : Nat) : Handler Unit := setSync id false

/-! The layer shell. -/

def onLayerShell (op : LayerShellState → OutputManager → Fallible LayerShellState) :
    Handler Unit := do
  let core ← get
  let layerShell ← lift (op core.layerShell core.output)
  set { core with layerShell := layerShell }

/-- The role of the surface is claimed before the placement is calculated. -/
def createLayerSurface (id surfaceId : Nat) (outputId : Option Nat) (layer : Nat)
    (namespaceName : String) : Handler Unit := do
  let core ← get
  require (core.layerShell.surfaceBindings.contains surfaceId = false)
    "wl_surface already has a layer-shell role"
  onSurfaces fun surfaces => surfaces.claimRole surfaceId .layerSurface
  let core ← get
  let created ← lift
    (core.layerShell.createLayerSurface id surfaceId outputId layer namespaceName core.output)
  set { core with layerShell := created.2 }
  send id 0 [.uint created.1, .uint 0, .uint 0]

def handleGetLayerSurface (payload : List UInt8) : Handler Unit := do
  requireLength payload 20
  let id ← wordAt payload 0
  let surfaceId ← wordAt payload 4
  let output ← wordAt payload 8
  let layer ← wordAt payload 12
  let namespaceName ← textAt payload 16
  registerClientObject id .zwlrLayerSurfaceV1 4
  let _ ← getObject surfaceId
  createLayerSurface id surfaceId (optionalId output) layer namespaceName.1

/-- Also the request that destroys the shell looks for a surface under its id. -/
def destroyLayerSurface (id : Nat) : Handler Unit := do
  let core ← get
  let destroyed ← lift (core.layerShell.destroy id)
  set { core with
    layerShell := destroyed.2
    surfaces := core.surfaces.releaseRole destroyed.1 }
  destroyObject id

def handleLayerShellDestroy (id : Nat) : Handler Unit := destroyLayerSurface id

def handleLayerSurfaceDestroy (id : Nat) : Handler Unit := destroyLayerSurface id

def handleLayerSurfaceSetSize (id : Nat) (payload : List UInt8) : Handler Unit := do
  requireLength payload 8
  let width ← wordAt payload 0
  let height ← wordAt payload 4
  onLayerShell fun shell outputs => shell.setSize id width height outputs

def handleLayerSurfaceSetAnchor (id : Nat) (payload : List UInt8) : Handler Unit := do
  requireLength payload 4
  let anchor ← wordAt payload 0
  onLayerShell fun shell outputs => shell.setAnchor id anchor outputs

def handleLayerSurfaceSetExclusiveZone (id : Nat) (payload : List UInt8) : Handler Unit := do
  requireLength payload 4
  let zone ← intAt payload 0
  onLayerShell fun shell outputs => shell.setExclusiveZone id zone outputs

def handleLayerSurfaceSetMargin (id : Nat) (payload : List UInt8) : Handler Unit := do
  requireLength payload 16
  let top ← intAt payload 0
  let right ← intAt payload 4
  let bottom ← intAt payload 8
  let left ← intAt payload 12
  onLayerShell fun shell outputs => shell.setMargin id ⟨top, right, bottom, left⟩ outputs

def handleLayerSurfaceSetKeyboardInteractivity (id : Nat) (payload : List UInt8) :
    Handler Unit := do
  requireLength payload 4
  let value ← wordAt payload 0
  onLayerShell fun shell _ => shell.setKeyboardInteractivity id value

def handleLayerSurfaceGetPopup (id : Nat) (payload : List UInt8) : Handler Unit := do
  requireLength payload 8
  let newId ← wordAt payload 0
  let positionerId ← wordAt payload 4
  registerClientObject newId .xdgPopup 6
  let _ ← getObject positionerId
  onLayerShell fun shell _ => shell.getPopup newId id positionerId

def handleLayerSurfaceAckConfigure (id : Nat) (payload : List UInt8) : Handler Unit := do
  requireLength payload 4
  let serial ← wordAt payload 0
  onLayerShell fun shell _ => shell.ackConfigure id serial

def handleLayerSurfaceSetLayer (id : Nat) (payload : List UInt8) : Handler Unit := do
  requireLength payload 4
  let layer ← wordAt payload 0
  onLayerShell fun shell _ => shell.setLayer id layer

end TuffXwin.Headless
