import TuffXwin.Common.Ipc
import TuffXwin.Headless.Codec
import TuffXwin.Lib.OrdMap

/-! The managers of the protocol core: the state behind the objects of each protocol and
the operations on it. A map's order of iteration is none of their business; an operation
fails with an error of the wire, or panics where the source would. -/

namespace TuffXwin.Headless
open Lib
open WaylandWire (WireError)

inductive Fault
  | error (error : WireError)
  | panicked
  deriving DecidableEq, Repr

abbrev Fallible := Except Fault

def invalidObject (id : Nat) : Fault := .error (.invalidObjectId id)

def protocolError (reason : String) : Fault := .error (.protocolError reason)

def orInvalid {α : Type} (value : Option α) (id : Nat) : Fallible α :=
  match value with
  | some a => .ok a
  | none => .error (invalidObject id)

/-- A signed sum that panics where it overflows. -/
def addI32 (a b : Int) : Fallible Int :=
  match i32Checked (a + b) with
  | some sum => .ok sum
  | none => .error .panicked

/-- `i32::saturating_add`. -/
def satAddI32 (a b : Int) : Int := max i32Min (min i32Max (a + b))

/-! Surfaces. -/

inductive SurfaceRoleKind
  | xdgSurface | layerSurface | subsurface | popup
  deriving DecidableEq, Repr

def SurfaceRoleKind.asStr : SurfaceRoleKind → String
  | .xdgSurface => "xdg_surface"
  | .layerSurface => "layer_surface"
  | .subsurface => "wl_subsurface"
  | .popup => "xdg_popup"

structure SurfaceState where
  bufferId : Option Nat := none
  offsetX : Int := 0
  offsetY : Int := 0
  damage : List Rect := []
  deriving DecidableEq, Repr

namespace SurfaceState

def snapshotWidthHint (state : SurfaceState) : Option Nat := (state.damage.map (·.width)).max?

def snapshotHeightHint (state : SurfaceState) : Option Nat := (state.damage.map (·.height)).max?

end SurfaceState

structure SurfaceInstance where
  pending : SurfaceState := {}
  current : SurfaceState := {}
  callbacks : List Nat := []
  deriving DecidableEq, Repr

structure SurfaceManager where
  surfaces : OrdMap Nat SurfaceInstance := OrdMap.empty
  regions : OrdSet Nat := OrdMap.empty
  roles : OrdMap Nat SurfaceRoleKind := OrdMap.empty

namespace SurfaceManager

def createSurface (m : SurfaceManager) (id : Nat) : SurfaceManager :=
  { m with surfaces := m.surfaces.insert id {} }

def createRegion (m : SurfaceManager) (id : Nat) : SurfaceManager :=
  { m with regions := m.regions.insert id () }

def modifySurface (m : SurfaceManager) (id : Nat) (f : SurfaceInstance → SurfaceInstance) :
    SurfaceManager :=
  { m with surfaces := m.surfaces.modify id f }

def commit (m : SurfaceManager) (id : Nat) : SurfaceManager :=
  m.modifySurface id fun surface =>
    { surface with
      current := surface.pending
      pending := { surface.pending with damage := [] } }

def claimRole (m : SurfaceManager) (id : Nat) (role : SurfaceRoleKind) :
    Fallible SurfaceManager :=
  match m.roles.get? id with
  | some existing =>
    .error (protocolError ("wl_surface " ++ toString id ++ " already has role " ++ existing.asStr))
  | none => .ok { m with roles := m.roles.insert id role }

def releaseRole (m : SurfaceManager) (id : Nat) : SurfaceManager :=
  { m with roles := m.roles.erase id }

def destroySurface (m : SurfaceManager) (id : Nat) : SurfaceManager :=
  { m with
    surfaces := m.surfaces.erase id
    roles := m.roles.erase id }

end SurfaceManager

/-! Shared memory. A backing is known by its number; of its bytes only the count matters. -/

def maxShmBufferBytes : Nat := 67108864
def maxFakeShmPoolBytes : Nat := 268435456
def maxFakeShmTotalBytes : Nat := 268435456
def maxShmPools : Nat := 256
def maxShmBuffers : Nat := 4096

inductive ShmPoolStorage
  | fakeMemory (bytes : Nat)
  | receivedFd (fd : Nat)
  deriving DecidableEq, Repr

structure ShmPool where
  backing : Nat
  size : Nat
  deriving DecidableEq, Repr

structure ShmBuffer where
  poolId : Nat
  backing : Nat
  offset : Int
  width : Int
  height : Int
  stride : Int
  format : Nat
  deriving DecidableEq, Repr

structure ShmManager where
  pools : OrdMap Nat ShmPool := OrdMap.empty
  buffers : OrdMap Nat ShmBuffer := OrdMap.empty
  backings : OrdMap Nat ShmPoolStorage := OrdMap.empty
  nextBacking : Nat := 0

namespace ShmManager

def validateNewPool (m : ShmManager) (id size : Nat) : Fallible Unit :=
  if size = 0 then .error (.error (.invalidSize 0))
  else if m.pools.contains id then .error (protocolError "duplicate wl_shm pool identity")
  else if m.pools.size ≥ maxShmPools then .error (protocolError "wl_shm pool budget exhausted")
  else .ok ()

def storageBytes : ShmPoolStorage → Nat
  | .fakeMemory bytes => bytes
  | .receivedFd _ => 0

/-- The bytes of every backing that a pool or a buffer refers to, counted once. -/
def fakeBackingBytes (m : ShmManager) : Nat :=
  let used := OrdSet.ofList
    (m.pools.values.map (·.backing) ++ m.buffers.values.map (·.backing))
  (used.keys.map fun backing => ((m.backings.get? backing).map storageBytes).getD 0).sum

def insertPool (m : ShmManager) (id size : Nat) (storage : ShmPoolStorage) : ShmManager :=
  { m with
    pools := m.pools.insert id ⟨m.nextBacking, size⟩
    backings := m.backings.insert m.nextBacking storage
    nextBacking := m.nextBacking + 1 }

def createPoolFromFake (m : ShmManager) (id size : Nat) : Fallible ShmManager := do
  m.validateNewPool id size
  if size > maxFakeShmPoolBytes then
    throw (protocolError ("fake wl_shm pool exceeds " ++ toString maxFakeShmPoolBytes ++ " bytes"))
  else if m.fakeBackingBytes + size > u64Max then
    throw (protocolError "fake wl_shm byte accounting overflow")
  else if m.fakeBackingBytes + size > maxFakeShmTotalBytes then
    throw (protocolError
      ("aggregate fake wl_shm pools exceed " ++ toString maxFakeShmTotalBytes ++ " bytes"))
  else pure (m.insertPool id size (.fakeMemory size))

def createPoolFromFd (m : ShmManager) (id fd size : Nat) : Fallible ShmManager := do
  m.validateNewPool id size
  pure (m.insertPool id size (.receivedFd fd))

def destroyPool (m : ShmManager) (id : Nat) : Fallible ShmManager :=
  if m.pools.contains id then .ok { m with pools := m.pools.erase id }
  else .error (invalidObject id)

def resizeBacking (m : ShmManager) (fileSize : Nat → Option Nat) (pool : ShmPool)
    (newSize : Nat) : Fallible ShmManager :=
  match m.backings.get? pool.backing with
  | some (.receivedFd fd) =>
    match fileSize fd with
    | none => .error (protocolError "IO error")
    | some bytes => if newSize > bytes then .error (.error (.invalidSize newSize)) else .ok m
  | _ =>
    let total := m.fakeBackingBytes
    if total < pool.size ∨ total - pool.size + newSize > u64Max then
      .error (protocolError "fake wl_shm byte accounting overflow")
    else if total - pool.size + newSize > maxFakeShmTotalBytes then
      .error (protocolError "aggregate fake wl_shm pools exceed limit")
    else .ok { m with backings := m.backings.insert pool.backing (.fakeMemory newSize) }

/-- `fileSize` is what `fstat` answers for a received descriptor. -/
def resizePool (m : ShmManager) (fileSize : Nat → Option Nat) (id : Nat)
    (requestedSize : Int) : Fallible ShmManager := do
  let pool ← orInvalid (m.pools.get? id) id
  if requestedSize ≤ 0 ∨ requestedSize.toNat ≤ pool.size then
    throw (.error (.invalidSize requestedSize.toNat))
  else if requestedSize.toNat > maxFakeShmPoolBytes then
    throw (protocolError "fake wl_shm pool resize exceeds limit")
  else do
    let resized ← m.resizeBacking fileSize pool requestedSize.toNat
    if resized.pools.contains id then
      pure { resized with
        pools := resized.pools.modify id fun p => { p with size := requestedSize.toNat } }
    else throw .panicked

def createBuffer (m : ShmManager) (id poolId : Nat) (offset width height stride : Int)
    (format : Nat) : Fallible ShmManager := do
  let pool ← orInvalid (m.pools.get? poolId) poolId
  if offset < 0 ∨ stride ≤ 0 ∨ height ≤ 0 ∨ width ≤ 0 then throw (.error (.invalidSize 0))
  else if m.buffers.contains id then throw (protocolError "duplicate wl_shm buffer identity")
  else if m.buffers.size ≥ maxShmBuffers then
    throw (protocolError "wl_shm buffer budget exhausted")
  else if (format = 0 ∨ format = 1) ∧ stride < width * 4 then
    throw (protocolError "stride too small for format")
  else if stride * height > maxShmBufferBytes then
    throw (protocolError ("wl_shm buffer exceeds " ++ toString maxShmBufferBytes ++ " bytes"))
  else if offset + stride * height > pool.size then
    throw (.error (.invalidSize (min (offset + stride * height).toNat u32Max)))
  else
    pure { m with
      buffers := m.buffers.insert id ⟨poolId, pool.backing, offset, width, height, stride, format⟩ }

def destroyBuffer (m : ShmManager) (id : Nat) : Fallible ShmManager :=
  if m.buffers.contains id then .ok { m with buffers := m.buffers.erase id }
  else .error (invalidObject id)

end ShmManager

/-! The desktop shell. -/

structure XdgSurfaceState where
  wlSurfaceId : Nat
  configureSerial : Nat := 0
  ackedSerial : Nat := 0
  windowGeometry : Option (Int × Int × Int × Int) := none
  title : Option String := none
  appId : Option String := none
  deriving DecidableEq

structure PositionerState where
  width : Int := 0
  height : Int := 0
  anchorRect : Int × Int × Int × Int := (0, 0, 0, 0)
  anchor : Nat := 0
  gravity : Nat := 0
  constraintAdjustment : Nat := 0
  offset : Int × Int := (0, 0)
  deriving DecidableEq

structure PopupState where
  xdgSurfaceId : Nat
  parentId : Option Nat
  positioner : PositionerState
  deriving DecidableEq

structure XdgShellManager where
  surfaces : OrdMap Nat XdgSurfaceState := OrdMap.empty
  positioners : OrdMap Nat PositionerState := OrdMap.empty
  popups : OrdMap Nat PopupState := OrdMap.empty
  nextSerial : Nat := 1

namespace XdgShellManager

def createXdgSurface (m : XdgShellManager) (id wlSurfaceId : Nat) : XdgShellManager :=
  { m with surfaces := m.surfaces.insert id { wlSurfaceId := wlSurfaceId } }

def modifySurface (m : XdgShellManager) (id : Nat) (f : XdgSurfaceState → XdgSurfaceState) :
    XdgShellManager :=
  { m with surfaces := m.surfaces.modify id f }

def createPositioner (m : XdgShellManager) (id : Nat) : XdgShellManager :=
  { m with positioners := m.positioners.insert id {} }

def modifyPositioner (m : XdgShellManager) (id : Nat) (f : PositionerState → PositionerState) :
    XdgShellManager :=
  { m with positioners := m.positioners.modify id f }

def createPopup (m : XdgShellManager) (id xdgSurfaceId : Nat) (parentId : Option Nat)
    (positionerId : Nat) : Fallible XdgShellManager := do
  let positioner ← orInvalid (m.positioners.get? positionerId) positionerId
  pure { m with popups := m.popups.insert id ⟨xdgSurfaceId, parentId, positioner⟩ }

/-- The serial wraps around. -/
def getNextSerial (m : XdgShellManager) : Nat × XdgShellManager :=
  (m.nextSerial, { m with nextSerial := (m.nextSerial + 1) % 4294967296 })

def ackConfigure (m : XdgShellManager) (id serial : Nat) : Fallible XdgShellManager := do
  let surface ← orInvalid (m.surfaces.get? id) id
  if surface.configureSerial = 0 then
    throw (protocolError "ack_configure before any configure sent")
  else if serial > surface.configureSerial then
    throw (protocolError ("ack_configure with invalid serial: " ++ toString serial ++
      " (last sent: " ++ toString surface.configureSerial ++ ")"))
  else pure (m.modifySurface id fun state => { state with ackedSerial := serial })

def setWindowGeometry (m : XdgShellManager) (id : Nat) (geometry : Int × Int × Int × Int) :
    Fallible XdgShellManager := do
  if geometry.2.2.1 ≤ 0 ∨ geometry.2.2.2 ≤ 0 then
    throw (protocolError "xdg_surface.set_window_geometry requires positive width and height")
  else do
    let _ ← orInvalid (m.surfaces.get? id) id
    pure (m.modifySurface id fun state => { state with windowGeometry := some geometry })

end XdgShellManager

/-! Seats. -/

/-- The place of a pointer is a whole number: it starts at one and moves by whole numbers. -/
structure PointerState where
  seatId : Nat
  focusSurfaceId : Option Nat := none
  x : Int := 0
  y : Int := 0
  deriving DecidableEq, Repr

structure KeyboardState where
  seatId : Nat
  focusSurfaceId : Option Nat := none
  deriving DecidableEq, Repr

structure SeatManager where
  seats : OrdSet Nat := OrdMap.empty
  pointers : OrdMap Nat PointerState := OrdMap.empty
  keyboards : OrdMap Nat KeyboardState := OrdMap.empty

namespace SeatManager

def createSeat (m : SeatManager) (id : Nat) : SeatManager :=
  { m with seats := m.seats.insert id () }

def getPointer (m : SeatManager) (seatId newId : Nat) : Fallible SeatManager :=
  if m.seats.contains seatId then
    .ok { m with pointers := m.pointers.insert newId { seatId := seatId } }
  else .error (invalidObject seatId)

def getKeyboard (m : SeatManager) (seatId newId : Nat) : Fallible SeatManager :=
  if m.seats.contains seatId then
    .ok { m with keyboards := m.keyboards.insert newId { seatId := seatId } }
  else .error (invalidObject seatId)

def releasePointer (m : SeatManager) (pointerId : Nat) : Fallible SeatManager :=
  if m.pointers.contains pointerId then .ok { m with pointers := m.pointers.erase pointerId }
  else .error (invalidObject pointerId)

def setPointerFocus (m : SeatManager) (pointerId : Nat) (surfaceId : Option Nat) (x y : Int) :
    SeatManager :=
  { m with
    pointers := m.pointers.modify pointerId fun p => { p with
      focusSurfaceId := surfaceId
      x := x
      y := y } }

end SeatManager

/-! Data exchange. -/

structure DataSource where
  mimeTypes : List String := []
  dndActions : Nat := 0
  isDestroyed : Bool := false
  deriving DecidableEq

structure DataOffer where
  sourceId : Option Nat
  mimeTypes : List String
  dndActions : Nat
  preferredAction : Nat
  deriving DecidableEq

structure ActiveDrag where
  sourceId : Option Nat
  originSurfaceId : Nat
  iconSurfaceId : Option Nat
  deriving DecidableEq

/-- `devices` gives the seat of each device, `seatSelections` the source of each seat. -/
structure DataDeviceManager where
  sources : OrdMap Nat DataSource := OrdMap.empty
  offers : OrdMap Nat DataOffer := OrdMap.empty
  devices : OrdMap Nat Nat := OrdMap.empty
  seatSelections : OrdMap Nat (Option Nat) := OrdMap.empty
  activeDrags : OrdMap Nat ActiveDrag := OrdMap.empty

namespace DataDeviceManager

def createDataSource (m : DataDeviceManager) (id : Nat) : DataDeviceManager :=
  { m with sources := m.sources.insert id {} }

def modifySource (m : DataDeviceManager) (id : Nat) (f : DataSource → DataSource) :
    DataDeviceManager :=
  { m with sources := m.sources.modify id f }

def getDataDevice (m : DataDeviceManager) (id seatId : Nat) : DataDeviceManager :=
  { m with devices := m.devices.insert id seatId }

def insertOffer (m : DataDeviceManager) (offerId sourceId : Nat) (source : DataSource) :
    DataDeviceManager :=
  { m with
    offers := m.offers.insert offerId ⟨some sourceId, source.mimeTypes, source.dndActions, 0⟩ }

def startDrag (m : DataDeviceManager) (seatId : Nat) (sourceId : Option Nat) (originId : Nat)
    (iconId : Option Nat) : DataDeviceManager :=
  { m with activeDrags := m.activeDrags.insert seatId ⟨sourceId, originId, iconId⟩ }

end DataDeviceManager

structure SubsurfaceState where
  surfaceId : Nat
  parentId : Nat
  x : Int := 0
  y : Int := 0
  sync : Bool := true
  deriving DecidableEq, Repr

structure SubcompositorManager where
  subsurfaces : OrdMap Nat SubsurfaceState := OrdMap.empty

namespace SubcompositorManager

def getSubsurface (m : SubcompositorManager) (id surfaceId parentId : Nat) :
    Fallible SubcompositorManager :=
  if surfaceId = parentId then .error (protocolError "surface cannot be its own parent")
  else if m.subsurfaces.values.any fun s => s.surfaceId = surfaceId then
    .error (protocolError "surface is already a subsurface")
  else .ok ⟨m.subsurfaces.insert id { surfaceId := surfaceId, parentId := parentId }⟩

def modifySubsurface (m : SubcompositorManager) (id : Nat)
    (f : SubsurfaceState → SubsurfaceState) : Fallible SubcompositorManager :=
  if m.subsurfaces.contains id then .ok ⟨m.subsurfaces.modify id f⟩
  else .error (invalidObject id)

def destroy (m : SubcompositorManager) (id : Nat) : SubcompositorManager :=
  ⟨m.subsurfaces.erase id⟩

end SubcompositorManager

/-! Text input. -/

structure TextInputData where
  surroundingText : Option String := none
  cursor : Int := 0
  anchor : Int := 0
  hint : Nat := 0
  purpose : Nat := 0
  cause : Nat := 0
  cursorRectangle : Int × Int × Int × Int := (0, 0, 0, 0)
  deriving DecidableEq

structure TextInputState where
  seatId : Nat
  enabled : Bool := false
  pending : TextInputData := {}
  current : TextInputData := {}
  deriving DecidableEq

structure TextInputManager where
  inputs : OrdMap Nat TextInputState := OrdMap.empty

namespace TextInputManager

def createTextInput (m : TextInputManager) (id seatId : Nat) : TextInputManager :=
  ⟨m.inputs.insert id { seatId := seatId }⟩

def modifyInput (m : TextInputManager) (id : Nat) (f : TextInputState → TextInputState) :
    Fallible TextInputManager :=
  if m.inputs.contains id then .ok ⟨m.inputs.modify id f⟩ else .error (invalidObject id)

def commit (m : TextInputManager) (id : Nat) : Fallible TextInputManager :=
  m.modifyInput id fun state => { state with current := state.pending }

def enable (m : TextInputManager) (id : Nat) : Fallible TextInputManager :=
  m.modifyInput id fun state => { state with enabled := true }

def disable (m : TextInputManager) (id : Nat) : Fallible TextInputManager :=
  m.modifyInput id fun state => { state with enabled := false }

/-- What is set of a text input until the next commit. -/
def setPending (m : TextInputManager) (id : Nat) (f : TextInputData → TextInputData) :
    TextInputManager :=
  ⟨m.inputs.modify id fun state => { state with pending := f state.pending }⟩

end TextInputManager

structure InputPopupSurfaceState where
  surfaceId : Nat
  parentSurfaceId : Nat
  deriving DecidableEq, Repr

/-- `methods` gives the seat of each input method. -/
structure InputMethodManager where
  methods : OrdMap Nat Nat := OrdMap.empty
  popups : OrdMap Nat InputPopupSurfaceState := OrdMap.empty

namespace InputMethodManager

def getInputMethod (m : InputMethodManager) (id seatId : Nat) : Fallible InputMethodManager :=
  if m.methods.values.any fun seat => seat = seatId then
    .error (protocolError "input method already exists for this seat")
  else .ok { m with methods := m.methods.insert id seatId }

def createPopup (m : InputMethodManager) (id surfaceId parentId : Nat) : InputMethodManager :=
  { m with popups := m.popups.insert id ⟨surfaceId, parentId⟩ }

end InputMethodManager

inductive ImeRequest
  | preeditString (text : String) (cursorBegin cursorEnd : Int)
  | commitString (text : String)
  deriving DecidableEq, Repr

/-- The backend that comes with the core. -/
structure FakeImeBackend where
  lastText : String := ""

namespace FakeImeBackend

def handleSurroundingText (_ : FakeImeBackend) (text : String) : FakeImeBackend := ⟨text⟩

def handleCommit (m : FakeImeBackend) : List ImeRequest :=
  if m.lastText = "hello" then [.preeditString "こんにちは" 0 15]
  else if m.lastText = "commit" then [.commitString "確定"]
  else []

end FakeImeBackend

/-! Viewports, scales and decorations. -/

structure ViewportData where
  source : Option (Int × Int × Int × Int) := none
  destination : Option (Int × Int) := none
  deriving DecidableEq

structure ViewportState where
  surfaceId : Nat
  pending : ViewportData := {}
  current : ViewportData := {}
  deriving DecidableEq

structure ViewportManager where
  viewports : OrdMap Nat ViewportState := OrdMap.empty

namespace ViewportManager

def getViewport (m : ViewportManager) (id surfaceId : Nat) : Fallible ViewportManager :=
  if m.viewports.values.any fun v => v.surfaceId = surfaceId then
    .error (protocolError "viewport already exists for this surface")
  else .ok ⟨m.viewports.insert id { surfaceId := surfaceId }⟩

def setPending (m : ViewportManager) (id : Nat) (width height : Int) (reason : String)
    (f : ViewportData → ViewportData) : Fallible ViewportManager :=
  if !m.viewports.contains id then .error (invalidObject id)
  else if width ≤ 0 ∨ height ≤ 0 then .error (protocolError reason)
  else .ok ⟨m.viewports.modify id fun v => { v with pending := f v.pending }⟩

def setSource (m : ViewportManager) (id : Nat) (x y width height : Int) :
    Fallible ViewportManager :=
  m.setPending id width height "invalid source size" fun data =>
    { data with source := some (x, y, width, height) }

def setDestination (m : ViewportManager) (id : Nat) (width height : Int) :
    Fallible ViewportManager :=
  m.setPending id width height "invalid destination size" fun data =>
    { data with destination := some (width, height) }

/-- The first viewport of the surface, in the order in which the map is visited. -/
def commit (m : ViewportManager) (visit : List Nat → List Nat) (surfaceId : Nat) :
    ViewportManager :=
  let ofSurface := fun id => ((m.viewports.get? id).map (·.surfaceId)) = some surfaceId
  match (visit m.viewports.keys).find? ofSurface with
  | none => m
  | some id => ⟨m.viewports.modify id fun v => { v with current := v.pending }⟩

def destroy (m : ViewportManager) (id : Nat) : ViewportManager := ⟨m.viewports.erase id⟩

end ViewportManager

/-- `scales` gives the surface of each scale. -/
structure FractionalScaleManager where
  scales : OrdMap Nat Nat := OrdMap.empty

namespace FractionalScaleManager

def getFractionalScale (m : FractionalScaleManager) (id surfaceId : Nat) :
    Fallible FractionalScaleManager :=
  if m.scales.values.any fun surface => surface = surfaceId then
    .error (protocolError "fractional_scale already exists for this surface")
  else .ok ⟨m.scales.insert id surfaceId⟩

def destroy (m : FractionalScaleManager) (id : Nat) : FractionalScaleManager :=
  ⟨m.scales.erase id⟩

end FractionalScaleManager

inductive DecorationMode
  | clientSide | serverSide
  deriving DecidableEq, Repr

def DecorationMode.value : DecorationMode → Nat
  | .clientSide => 1
  | .serverSide => 2

structure XdgToplevelDecorationState where
  toplevelId : Nat
  mode : Option DecorationMode := none
  deriving DecidableEq, Repr

structure XdgDecorationManager where
  decorations : OrdMap Nat XdgToplevelDecorationState := OrdMap.empty

namespace XdgDecorationManager

def getToplevelDecoration (m : XdgDecorationManager) (id toplevelId : Nat) :
    Fallible XdgDecorationManager :=
  if m.decorations.values.any fun d => d.toplevelId = toplevelId then
    .error (protocolError "decoration already exists for this toplevel")
  else .ok ⟨m.decorations.insert id { toplevelId := toplevelId }⟩

def decorationMode : Nat → Fallible DecorationMode
  | 1 => .ok .clientSide
  | 2 => .ok .serverSide
  | _ => .error (protocolError "invalid decoration mode")

def modifyMode (m : XdgDecorationManager) (id : Nat) (mode : Option DecorationMode) :
    XdgDecorationManager :=
  ⟨m.decorations.modify id fun d => { d with mode := mode }⟩

def setMode (m : XdgDecorationManager) (id mode : Nat) :
    Fallible (DecorationMode × XdgDecorationManager) := do
  let _ ← orInvalid (m.decorations.get? id) id
  let chosen ← decorationMode mode
  pure (chosen, m.modifyMode id (some chosen))

def destroy (m : XdgDecorationManager) (id : Nat) : XdgDecorationManager :=
  ⟨m.decorations.erase id⟩

end XdgDecorationManager

/-- `feedbacks` gives the surface of each feedback. -/
structure PresentationManager where
  feedbacks : OrdMap Nat Nat := OrdMap.empty

namespace PresentationManager

def feedback (m : PresentationManager) (id surfaceId : Nat) : PresentationManager :=
  ⟨m.feedbacks.insert id surfaceId⟩

def destroy (m : PresentationManager) (id : Nat) : PresentationManager := ⟨m.feedbacks.erase id⟩

end PresentationManager

/-! Outputs. -/

structure OutputState where
  name : String
  x : Int := 0
  y : Int := 0
  width : Int := 1920
  height : Int := 1080
  scale : Int := 1
  refreshNsec : Nat := 16666666
  deriving DecidableEq, Repr

structure OutputManager where
  outputs : OrdMap Nat OutputState := OrdMap.empty

namespace OutputManager

def createOutput (m : OutputManager) (id : Nat) (name : String) : OutputManager :=
  ⟨m.outputs.insert id { name := name }⟩

def modifyOutput (m : OutputManager) (id : Nat) (f : OutputState → OutputState) : OutputManager :=
  ⟨m.outputs.modify id f⟩

def setMode (m : OutputManager) (id : Nat) (width height : Int) (refreshNsec : Nat) :
    OutputManager :=
  m.modifyOutput id fun output =>
    { output with width := width, height := height, refreshNsec := refreshNsec }

def geometryRect (m : OutputManager) (id : Nat) : Option Rect :=
  (m.outputs.get? id).map fun output =>
    ⟨output.x, output.y, output.width.toNat, output.height.toNat⟩

end OutputManager

/-- `outputs` gives the `wl_output` of each extended output. -/
structure XdgOutputManager where
  outputs : OrdMap Nat Nat := OrdMap.empty

namespace XdgOutputManager

def getXdgOutput (m : XdgOutputManager) (id wlOutputId : Nat) : Fallible XdgOutputManager :=
  if m.outputs.values.any fun output => output = wlOutputId then
    .error (protocolError "xdg_output already exists for this wl_output")
  else .ok ⟨m.outputs.insert id wlOutputId⟩

def destroy (m : XdgOutputManager) (id : Nat) : XdgOutputManager := ⟨m.outputs.erase id⟩

end XdgOutputManager

/-- `heads` gives the head of each configured head. -/
structure OutputConfigurationState where
  serial : Nat
  heads : OrdMap Nat Nat := OrdMap.empty

structure OutputManagementManager where
  configs : OrdMap Nat OutputConfigurationState := OrdMap.empty

namespace OutputManagementManager

def createConfiguration (m : OutputManagementManager) (id serial : Nat) :
    OutputManagementManager :=
  ⟨m.configs.insert id { serial := serial }⟩

def enableHead (m : OutputManagementManager) (configId configHeadId headId : Nat) :
    Fallible OutputManagementManager := do
  let config ← orInvalid (m.configs.get? configId) configId
  if config.heads.values.any fun head => head = headId then
    throw (protocolError "duplicate head configuration")
  else
    pure ⟨m.configs.modify configId fun c => { c with heads := c.heads.insert configHeadId headId }⟩

def disableHead (m : OutputManagementManager) (configId : Nat) : Fallible Unit := do
  let _ ← orInvalid (m.configs.get? configId) configId
  pure ()

def destroyConfiguration (m : OutputManagementManager) (id : Nat) : OutputManagementManager :=
  ⟨m.configs.erase id⟩

end OutputManagementManager

/-! Capture. -/

structure ScreencopyFrameState where
  outputId : Option Nat
  overlayCursor : Bool
  region : Option (Int × Int × Int × Int)
  bufferId : Option Nat := none
  copied : Bool := false
  deriving DecidableEq, Repr

structure ScreencopyManager where
  frames : OrdMap Nat ScreencopyFrameState := OrdMap.empty

namespace ScreencopyManager

def captureOutput (m : ScreencopyManager) (id : Nat) (outputId : Option Nat)
    (overlayCursor : Bool) : ScreencopyManager :=
  ⟨m.frames.insert id { outputId := outputId, overlayCursor := overlayCursor, region := none }⟩

def captureOutputRegion (m : ScreencopyManager) (id : Nat) (outputId : Option Nat)
    (overlayCursor : Bool) (x y width height : Int) : Fallible ScreencopyManager :=
  if width ≤ 0 ∨ height ≤ 0 then .error (protocolError "invalid capture region")
  else .ok ⟨m.frames.insert id
    { outputId := outputId, overlayCursor := overlayCursor, region := some (x, y, width, height) }⟩

/-- What `copy` and `copy_with_damage` note of the frame. -/
def copyFrame (m : ScreencopyManager) (id bufferId : Nat) : Fallible ScreencopyManager :=
  if m.frames.contains id then
    .ok ⟨m.frames.modify id fun frame => { frame with bufferId := some bufferId, copied := true }⟩
  else .error (invalidObject id)

def destroy (m : ScreencopyManager) (id : Nat) : ScreencopyManager := ⟨m.frames.erase id⟩

end ScreencopyManager

structure ImageCopyCaptureSessionState where
  sourceType : Nat
  sourceId : Nat
  deriving DecidableEq, Repr

/-- `frames` gives the session of each frame. -/
structure ImageCopyCaptureManager where
  sessions : OrdMap Nat ImageCopyCaptureSessionState := OrdMap.empty
  frames : OrdMap Nat Nat := OrdMap.empty

namespace ImageCopyCaptureManager

def createSession (m : ImageCopyCaptureManager) (id sourceType sourceId : Nat) :
    ImageCopyCaptureManager :=
  { m with sessions := m.sessions.insert id ⟨sourceType, sourceId⟩ }

def destroySession (m : ImageCopyCaptureManager) (id : Nat) : ImageCopyCaptureManager :=
  { m with sessions := m.sessions.erase id }

def createFrame (m : ImageCopyCaptureManager) (id sessionId : Nat) : ImageCopyCaptureManager :=
  { m with frames := m.frames.insert id sessionId }

def destroyFrame (m : ImageCopyCaptureManager) (id : Nat) : ImageCopyCaptureManager :=
  { m with frames := m.frames.erase id }

end ImageCopyCaptureManager

/-! The layer shell. -/

structure LayerMargins where
  top : Int := 0
  right : Int := 0
  bottom : Int := 0
  left : Int := 0
  deriving DecidableEq, Repr

structure LayerPlacement where
  x : Int
  y : Int
  width : Nat
  height : Nat
  exclusiveZone : Int
  deriving DecidableEq, Repr

structure LayerSurfaceState where
  wlSurfaceId : Nat
  outputId : Option Nat
  layer : Nat
  namespaceName : String
  size : Option (Nat × Nat) := none
  anchor : Nat := 0
  exclusiveZone : Int := 0
  margins : LayerMargins := {}
  keyboardInteractivity : Nat := 0
  lastConfigureSerial : Nat
  ackedSerial : Nat := 0
  popupId : Option Nat := none
  popupPositioner : Option Nat := none
  placement : LayerPlacement
  deriving DecidableEq, Repr

structure LayerShellState where
  surfaces : OrdMap Nat LayerSurfaceState := OrdMap.empty
  surfaceBindings : OrdMap Nat Nat := OrdMap.empty
  nextSerial : Nat := 0

/-- The extent of the output that both margins leave. -/
def marginExtent (size : Option Nat) (extent : Nat) (first second : Int) : Fallible Nat :=
  match size with
  | some given => .ok given
  | none => do
    let sum ← addI32 first second
    pure (extent - sum.toNat)

def calculatePlacement (outputId : Option Nat) (margins : LayerMargins)
    (size : Option (Nat × Nat)) (origin : Int × Int) (exclusiveZone : Int)
    (outputs : OutputManager) : Fallible LayerPlacement := do
  let geometry := (outputId.bind outputs.geometryRect).getD ⟨0, 0, 1920, 1080⟩
  let width ← marginExtent (size.map Prod.fst) geometry.width margins.left margins.right
  let height ← marginExtent (size.map Prod.snd) geometry.height margins.top margins.bottom
  let left ← addI32 geometry.x margins.left
  let x ← addI32 left origin.1
  let top ← addI32 geometry.y margins.top
  let y ← addI32 top origin.2
  pure ⟨x, y, width, height, exclusiveZone⟩

namespace LayerShellState

/-- The serial wraps around. -/
def nextConfigureSerial (m : LayerShellState) : Nat × LayerShellState :=
  let serial := max m.nextSerial 1
  (serial, { m with nextSerial := (serial + 1) % 4294967296 })

/-- The claim of the role is the caller's; with the state comes the serial to announce. -/
def createLayerSurface (m : LayerShellState) (id wlSurfaceId : Nat) (outputId : Option Nat)
    (layer : Nat) (namespaceName : String) (outputs : OutputManager) :
    Fallible (Nat × LayerShellState) := do
  let placement ← calculatePlacement outputId {} none (0, 0) 0 outputs
  let next := m.nextConfigureSerial
  pure (next.1, { next.2 with
    surfaceBindings := next.2.surfaceBindings.insert wlSurfaceId id
    surfaces := next.2.surfaces.insert id
      { wlSurfaceId := wlSurfaceId
        outputId := outputId
        layer := layer
        namespaceName := namespaceName
        lastConfigureSerial := next.1
        placement := placement } })

def modifySurface (m : LayerShellState) (id : Nat) (f : LayerSurfaceState → LayerSurfaceState) :
    Fallible LayerShellState :=
  if m.surfaces.contains id then .ok { m with surfaces := m.surfaces.modify id f }
  else .error (invalidObject id)

/-- A change of the surface from which its placement follows anew. -/
def replace (m : LayerShellState) (id : Nat) (f : LayerSurfaceState → LayerSurfaceState)
    (outputs : OutputManager) : Fallible LayerShellState := do
  let old ← orInvalid (m.surfaces.get? id) id
  let state := f old
  let placement ← calculatePlacement state.outputId state.margins state.size
    (state.placement.x, state.placement.y) state.exclusiveZone outputs
  m.modifySurface id fun s => { f s with placement := placement }

def setSize (m : LayerShellState) (id width height : Nat) (outputs : OutputManager) :
    Fallible LayerShellState := do
  let _ ← orInvalid (m.surfaces.get? id) id
  if width = 0 ∧ height = 0 then throw (protocolError "invalid layer-shell size")
  else m.replace id (fun state => { state with size := some (width, height) }) outputs

def setAnchor (m : LayerShellState) (id anchor : Nat) (outputs : OutputManager) :
    Fallible LayerShellState :=
  if anchor > 15 then .error (protocolError "invalid layer-shell anchor")
  else m.replace id (fun state => { state with anchor := anchor }) outputs

def setExclusiveZone (m : LayerShellState) (id : Nat) (zone : Int) (outputs : OutputManager) :
    Fallible LayerShellState :=
  if zone < -1 then .error (protocolError "invalid exclusive zone")
  else m.replace id (fun state => { state with exclusiveZone := zone }) outputs

def setMargin (m : LayerShellState) (id : Nat) (margins : LayerMargins)
    (outputs : OutputManager) : Fallible LayerShellState :=
  m.replace id (fun state => { state with margins := margins }) outputs

def setKeyboardInteractivity (m : LayerShellState) (id value : Nat) : Fallible LayerShellState :=
  m.modifySurface id fun state => { state with keyboardInteractivity := value }

def setLayer (m : LayerShellState) (id layer : Nat) : Fallible LayerShellState :=
  if layer > 3 then .error (protocolError "invalid layer-shell layer")
  else m.modifySurface id fun state => { state with layer := layer }

def getPopup (m : LayerShellState) (id layerSurfaceId positionerId : Nat) :
    Fallible LayerShellState :=
  m.modifySurface layerSurfaceId fun state =>
    { state with popupId := some id, popupPositioner := some positionerId }

def ackConfigure (m : LayerShellState) (id serial : Nat) : Fallible LayerShellState := do
  let state ← orInvalid (m.surfaces.get? id) id
  if state.lastConfigureSerial = 0 then throw (protocolError "layer-shell ack before configure")
  else if serial ≠ state.lastConfigureSerial then
    throw (protocolError ("layer-shell ack serial mismatch: expected " ++
      toString state.lastConfigureSerial ++ ", got " ++ toString serial))
  else m.modifySurface id fun s => { s with ackedSerial := serial }

/-- With the state comes the layer surface that is to be closed. -/
def surfaceDestroyed (m : LayerShellState) (wlSurfaceId : Nat) : Option Nat × LayerShellState :=
  match m.surfaceBindings.get? wlSurfaceId with
  | none => (none, m)
  | some layerId =>
    let unbound := { m with surfaceBindings := m.surfaceBindings.erase wlSurfaceId }
    if m.surfaces.contains layerId then
      (some layerId, { unbound with surfaces := m.surfaces.erase layerId })
    else (none, unbound)

/-- With the state comes the surface whose role is released. -/
def destroy (m : LayerShellState) (id : Nat) : Fallible (Nat × LayerShellState) := do
  let state ← orInvalid (m.surfaces.get? id) id
  pure (state.wlSurfaceId, { m with
    surfaces := m.surfaces.erase id
    surfaceBindings := m.surfaceBindings.erase state.wlSurfaceId })

end LayerShellState

/-! Idle inhibition, relative pointers and pointer constraints. -/

/-- `inhibitors` gives the surface of each inhibitor. -/
structure IdleInhibitState where
  inhibitors : OrdMap Nat Nat := OrdMap.empty
  surfaceCounts : OrdMap Nat Nat := OrdMap.empty
  inhibited : Bool := false

namespace IdleInhibitState

def createInhibitor (m : IdleInhibitState) (inhibitorId surfaceId : Nat) : IdleInhibitState where
  inhibitors := m.inhibitors.insert inhibitorId surfaceId
  surfaceCounts :=
    m.surfaceCounts.insert surfaceId ((m.surfaceCounts.get? surfaceId).getD 0 + 1)
  inhibited := true

/-- One inhibitor less of the surface. -/
def releaseCount (counts : OrdMap Nat Nat) (surfaceId : Nat) : OrdMap Nat Nat :=
  match counts.get? surfaceId with
  | none => counts
  | some count =>
    if count - 1 = 0 then counts.erase surfaceId else counts.insert surfaceId (count - 1)

def destroyInhibitor (m : IdleInhibitState) (inhibitorId : Nat) : Fallible IdleInhibitState := do
  let surfaceId ← orInvalid (m.inhibitors.get? inhibitorId) inhibitorId
  let left := m.inhibitors.erase inhibitorId
  pure ⟨left, releaseCount m.surfaceCounts surfaceId, !left.isEmpty⟩

/-- With the state come the inhibitors of the surface. -/
def surfaceDestroyed (m : IdleInhibitState) (surfaceId : Nat) : List Nat × IdleInhibitState :=
  let left := m.inhibitors.filter fun _ surface => surface ≠ surfaceId
  ((m.inhibitors.filter fun _ surface => surface = surfaceId).keys,
    ⟨left, m.surfaceCounts.erase surfaceId, !left.isEmpty⟩)

end IdleInhibitState

/-- `bindings` gives the pointer of each relative pointer. -/
structure RelativePointerState where
  bindings : OrdMap Nat Nat := OrdMap.empty
  bindingsByPointer : OrdMap Nat (List Nat) := OrdMap.empty

namespace RelativePointerState

def createRelativePointer (m : RelativePointerState) (relativeId pointerId : Nat) :
    Fallible RelativePointerState :=
  if m.bindings.contains relativeId then .error (invalidObject relativeId)
  else .ok
    ⟨m.bindings.insert relativeId pointerId, m.bindingsByPointer.insert pointerId
      ((m.bindingsByPointer.get? pointerId).getD [] ++ [relativeId])⟩

/-- The list without the id; an empty list is dropped. -/
def unlist (lists : OrdMap Nat (List Nat)) (pointerId relativeId : Nat) : OrdMap Nat (List Nat) :=
  match lists.get? pointerId with
  | none => lists
  | some ids =>
    let left := ids.filter (· ≠ relativeId)
    if left = [] then lists.erase pointerId else lists.insert pointerId left

def destroy (m : RelativePointerState) (relativeId : Nat) : Fallible RelativePointerState := do
  let pointerId ← orInvalid (m.bindings.get? relativeId) relativeId
  pure ⟨m.bindings.erase relativeId, unlist m.bindingsByPointer pointerId relativeId⟩

def pointerReleased (m : RelativePointerState) (pointerId : Nat) : RelativePointerState :=
  let removed := (m.bindingsByPointer.get? pointerId).getD []
  ⟨removed.foldl OrdMap.erase m.bindings, m.bindingsByPointer.erase pointerId⟩

end RelativePointerState

inductive PointerConstraintLifetime
  | oneShot | persistent
  deriving DecidableEq, Repr

def PointerConstraintLifetime.fromRaw (value : Nat) : Fallible PointerConstraintLifetime :=
  if value = 0 then .ok .oneShot
  else if value = 1 then .ok .persistent
  else .error (protocolError ("invalid constraint lifetime: " ++ toString value))

structure PointerConstraintState where
  surfaceId : Nat
  pointerId : Nat
  regionId : Option Nat
  lifetime : PointerConstraintLifetime
  cursorHint : Option (Int × Int) := none
  deriving DecidableEq, Repr

structure PointerConstraintsState where
  locked : OrdMap Nat PointerConstraintState := OrdMap.empty
  confined : OrdMap Nat PointerConstraintState := OrdMap.empty
  activePairs : List (Nat × Nat) := []

namespace PointerConstraintsState

def validatePair (m : PointerConstraintsState) (surfaceId pointerId : Nat) : Fallible Unit :=
  if (surfaceId, pointerId) ∈ m.activePairs then
    .error (protocolError "duplicate pointer constraint for surface/pointer pair")
  else .ok ()

def createLocked (m : PointerConstraintsState) (id : Nat) (state : PointerConstraintState) :
    Fallible PointerConstraintsState := do
  m.validatePair state.surfaceId state.pointerId
  pure { m with
    activePairs := (state.surfaceId, state.pointerId) :: m.activePairs
    locked := m.locked.insert id state }

def createConfined (m : PointerConstraintsState) (id : Nat) (state : PointerConstraintState) :
    Fallible PointerConstraintsState := do
  m.validatePair state.surfaceId state.pointerId
  pure { m with
    activePairs := (state.surfaceId, state.pointerId) :: m.activePairs
    confined := m.confined.insert id state }

def setCursorPositionHint (m : PointerConstraintsState) (id : Nat) (x y : Int) :
    Fallible PointerConstraintsState :=
  if m.locked.contains id then
    .ok { m with locked := m.locked.modify id fun state => { state with cursorHint := some (x, y) } }
  else .error (invalidObject id)

def setRegion (m : PointerConstraintsState) (id : Nat) (region : Option Nat) :
    Fallible PointerConstraintsState :=
  if m.locked.contains id then
    .ok { m with locked := m.locked.modify id fun state => { state with regionId := region } }
  else if m.confined.contains id then
    .ok { m with confined := m.confined.modify id fun state => { state with regionId := region } }
  else .error (invalidObject id)

/-- The pairs without that of a constraint. -/
def releasePair (pairs : List (Nat × Nat)) (state : PointerConstraintState) : List (Nat × Nat) :=
  pairs.filter (· ≠ (state.surfaceId, state.pointerId))

def destroyLocked (m : PointerConstraintsState) (id : Nat) : Fallible PointerConstraintsState := do
  let state ← orInvalid (m.locked.get? id) id
  pure { m with
    locked := m.locked.erase id
    activePairs := releasePair m.activePairs state }

def destroyConfined (m : PointerConstraintsState) (id : Nat) :
    Fallible PointerConstraintsState := do
  let state ← orInvalid (m.confined.get? id) id
  pure { m with
    confined := m.confined.erase id
    activePairs := releasePair m.activePairs state }

/-- Without the constraints that are chosen; with the state come their ids, the locks first. -/
def removeWhere (m : PointerConstraintsState) (visit : List Nat → List Nat)
    (chosen : PointerConstraintState → Bool) : List Nat × PointerConstraintsState :=
  let lockedIds := visit (m.locked.filter fun _ state => chosen state).keys
  let confinedIds := visit (m.confined.filter fun _ state => chosen state).keys
  let removed := (m.locked.filter fun _ state => chosen state).values ++
    (m.confined.filter fun _ state => chosen state).values
  (lockedIds ++ confinedIds,
    { locked := m.locked.filter fun _ state => !chosen state
      confined := m.confined.filter fun _ state => !chosen state
      activePairs := removed.foldl releasePair m.activePairs })

def surfaceDestroyed (m : PointerConstraintsState) (visit : List Nat → List Nat)
    (surfaceId : Nat) : List Nat × PointerConstraintsState :=
  m.removeWhere visit fun state => state.surfaceId = surfaceId

def pointerReleased (m : PointerConstraintsState) (visit : List Nat → List Nat)
    (pointerId : Nat) : List Nat × PointerConstraintsState :=
  m.removeWhere visit fun state => state.pointerId = pointerId

end PointerConstraintsState

end TuffXwin.Headless
