import TuffXwin.Headless.ExtensionRequests
import TuffXwin.Headless.ShellRequests

/-! The dispatch of a message: the object it is for, its arguments under the declaration of
the request, the handler of the request, and the ids that are free to be deleted. -/

namespace TuffXwin.Headless
open Lib
open WaylandWire (WireError WireArg WaylandMessage readU32 displayId encodeEvent deleteIdEvent)

/-- What the handlers of an interface see of a message. -/
structure Request where
  id : Nat
  opcode : Nat
  payload : List UInt8
  args : List WireArg
  environment : Environment

def unhandled (interface : Interface) (opcode : Nat) : Handler Unit :=
  throw (protocolError ("unhandled opcode " ++ toString opcode ++ " for " ++ interface.name))

def displayRequest (r : Request) : Handler Unit :=
  match r.opcode with
  | 0 => handleSync r.payload
  | 1 => handleGetRegistry r.payload
  | opcode => unhandled .wlDisplay opcode

def compositorRequest (r : Request) : Handler Unit :=
  match r.opcode with
  | 0 => handleCreateSurface r.payload
  | 1 => handleCreateRegion r.payload
  | opcode => unhandled .wlCompositor opcode

def surfaceRequest (r : Request) : Handler Unit :=
  match r.opcode with
  | 0 => handleSurfaceDestroy r.environment r.id
  | 1 => handleSurfaceAttach r.id r.payload
  | 2 => handleSurfaceDamage r.id r.payload
  | 3 => handleSurfaceFrame r.id r.payload
  | 6 => handleSurfaceCommit r.environment r.id
  | 9 => handleSurfaceDamage r.id r.payload
  | opcode => unhandled .wlSurface opcode

def shmPoolRequest (r : Request) : Handler Unit :=
  match r.opcode with
  | 0 => handleShmPoolCreateBuffer r.id r.payload
  | 1 => handleShmPoolDestroy r.id
  | 2 => handleShmPoolResize r.environment r.id r.payload
  | opcode => unhandled .wlShmPool opcode

def seatRequest (r : Request) : Handler Unit :=
  match r.opcode with
  | 0 => handleSeatGetPointer r.id r.payload
  | 1 => handleSeatGetKeyboard r.id r.payload
  | opcode => unhandled .wlSeat opcode

def xdgWmBaseRequest (r : Request) : Handler Unit :=
  match r.opcode with
  | 1 => handleXdgWmBaseCreatePositioner r.payload
  | 2 => handleXdgWmBaseGetXdgSurface r.payload
  | 3 => handleXdgWmBasePong
  | opcode => unhandled .xdgWmBase opcode

def xdgSurfaceRequest (r : Request) : Handler Unit :=
  match r.opcode with
  | 0 => handleXdgSurfaceDestroy r.id
  | 1 => handleXdgSurfaceGetToplevel r.id r.payload
  | 2 => handleXdgSurfaceGetPopup r.id r.payload
  | 3 => handleXdgSurfaceSetWindowGeometry r.id r.payload
  | 4 => handleXdgSurfaceAckConfigure r.id r.payload
  | opcode => unhandled .xdgSurface opcode

def xdgToplevelRequest (r : Request) : Handler Unit :=
  match r.opcode with
  | 0 => handleXdgToplevelDestroy r.id
  | 1 => handleXdgToplevelSetParent
  | 2 => handleXdgToplevelSetTitle r.id r.args
  | 3 => handleXdgToplevelSetAppId r.id r.args
  | opcode => unhandled .xdgToplevel opcode

def xdgPopupRequest (r : Request) : Handler Unit :=
  match r.opcode with
  | 0 => handleXdgPopupDestroy r.id
  | 1 => handleXdgPopupGrab
  | opcode => unhandled .xdgPopup opcode

def xdgPositionerRequest (r : Request) : Handler Unit :=
  match r.opcode with
  | 0 => handleXdgPositionerDestroy r.id
  | 1 => handleXdgPositionerSetSize r.id r.payload
  | 2 => handleXdgPositionerSetAnchorRect r.id r.payload
  | 3 => handleXdgPositionerSetAnchor r.id r.payload
  | 4 => handleXdgPositionerSetGravity r.id r.payload
  | 5 => handleXdgPositionerSetConstraintAdjustment r.id r.payload
  | 6 => handleXdgPositionerSetOffset r.id r.payload
  | opcode => unhandled .xdgPositioner opcode

def dataDeviceManagerRequest (r : Request) : Handler Unit :=
  match r.opcode with
  | 0 => handleCreateDataSource r.payload
  | 1 => handleGetDataDevice r.payload
  | opcode => unhandled .wlDataDeviceManager opcode

def dataSourceRequest (r : Request) : Handler Unit :=
  match r.opcode with
  | 0 => handleDataSourceOffer r.id r.payload
  | 1 => handleDataSourceDestroy r.id
  | 2 => handleDataSourceSetActions r.id r.payload
  | opcode => unhandled .wlDataSource opcode

def dataDeviceRequest (r : Request) : Handler Unit :=
  match r.opcode with
  | 0 => handleDataDeviceStartDrag r.environment r.id r.payload
  | 1 => handleDataDeviceSetSelection r.environment r.id r.payload
  | 2 => handleDataDeviceRelease r.id
  | opcode => unhandled .wlDataDevice opcode

def dataOfferRequest (r : Request) : Handler Unit :=
  match r.opcode with
  | 0 => handleDataOfferAccept r.id r.payload
  | 1 => handleDataOfferReceive r.id r.payload
  | 2 => handleDataOfferDestroy r.id
  | 3 => handleDataOfferFinish r.id
  | 4 => handleDataOfferSetActions r.id r.payload
  | opcode => unhandled .wlDataOffer opcode

def subcompositorRequest (r : Request) : Handler Unit :=
  match r.opcode with
  | 0 => handleSubcompositorDestroy r.id
  | 1 => handleGetSubsurface r.payload
  | opcode => unhandled .wlSubcompositor opcode

def subsurfaceRequest (r : Request) : Handler Unit :=
  match r.opcode with
  | 0 => handleSubsurfaceDestroy r.id
  | 1 => handleSubsurfaceSetPosition r.id r.payload
  | 2 => handleSubsurfacePlaceAbove
  | 3 => handleSubsurfacePlaceBelow
  | 4 => handleSubsurfaceSetSync r.id
  | 5 => handleSubsurfaceSetDesync r.id
  | opcode => unhandled .wlSubsurface opcode

def textInputRequest (r : Request) : Handler Unit :=
  match r.opcode with
  | 0 => handleTextInputDestroy r.id
  | 1 => handleTextInputEnable r.environment r.id
  | 2 => handleTextInputDisable r.environment r.id
  | 3 => handleTextInputSetSurroundingText r.id r.payload
  | 4 => handleTextInputSetTextChangeCause r.id r.payload
  | 5 => handleTextInputSetContentType r.id r.payload
  | 6 => handleTextInputSetCursorRectangle r.id r.payload
  | 7 => handleTextInputCommit r.environment r.id
  | opcode => unhandled .zwpTextInputV3 opcode

def inputMethodRequest (r : Request) : Handler Unit :=
  match r.opcode with
  | 1 => handleInputMethodCommitString r.environment r.id r.payload
  | 2 => handleInputMethodSetPreeditString r.environment r.id r.payload
  | 3 => handleInputMethodDeleteSurroundingText r.environment r.id r.payload
  | 4 => handleInputMethodCommit r.environment r.id r.payload
  | 5 => handleInputMethodGetInputPopupSurface r.payload
  | opcode => unhandled .zwpInputMethodV2 opcode

def viewportRequest (r : Request) : Handler Unit :=
  match r.opcode with
  | 0 => handleViewportDestroy r.id
  | 1 => handleViewportSetSource r.id r.payload
  | 2 => handleViewportSetDestination r.id r.payload
  | opcode => unhandled .wpViewport opcode

/-- A manager that is destroyed by its first request and creates an object by its second. -/
def managerRequest (interface : Interface) (destroy : Nat → Handler Unit)
    (create : List UInt8 → Handler Unit) (r : Request) : Handler Unit :=
  match r.opcode with
  | 0 => destroy r.id
  | 1 => create r.payload
  | opcode => unhandled interface opcode

/-- An interface with one request that is handled. -/
def onlyRequest (interface : Interface) (opcode : Nat) (handler : Handler Unit) (r : Request) :
    Handler Unit :=
  if r.opcode = opcode then handler else unhandled interface r.opcode

def toplevelDecorationRequest (r : Request) : Handler Unit :=
  match r.opcode with
  | 0 => handleXdgToplevelDecorationDestroy r.id
  | 1 => handleXdgToplevelDecorationSetMode r.id r.payload
  | 2 => handleXdgToplevelDecorationUnsetMode r.id
  | opcode => unhandled .zxdgToplevelDecorationV1 opcode

def outputManagerRequest (r : Request) : Handler Unit :=
  match r.opcode with
  | 0 => handleCreateConfiguration r.payload
  | 1 => handleOutputManagerStop
  | opcode => unhandled .zwlrOutputManagerV1 opcode

def outputConfigurationRequest (r : Request) : Handler Unit :=
  match r.opcode with
  | 0 => handleEnableHead r.id r.payload
  | 1 => handleDisableHead r.id r.payload
  | 2 => handleConfigurationApply r.id
  | 3 => handleConfigurationTest r.id
  | 4 => handleConfigurationDestroy r.id
  | opcode => unhandled .zwlrOutputConfigurationV1 opcode

def configurationHeadRequest (r : Request) : Handler Unit :=
  match r.opcode with
  | 0 => handleConfigHeadSetMode
  | 1 => handleConfigHeadSetCustomMode
  | 2 => handleConfigHeadSetPosition
  | 3 => handleConfigHeadSetTransform
  | 4 => handleConfigHeadSetScale
  | opcode => unhandled .zwlrOutputConfigurationHeadV1 opcode

def screencopyManagerRequest (r : Request) : Handler Unit :=
  match r.opcode with
  | 0 => handleScreencopyCaptureOutput r.payload
  | 1 => handleScreencopyCaptureOutputRegion r.payload
  | 2 => handleScreencopyManagerDestroy r.id
  | opcode => unhandled .zwlrScreencopyManagerV1 opcode

def screencopyFrameRequest (r : Request) : Handler Unit :=
  match r.opcode with
  | 0 => handleScreencopyFrameCopy r.environment r.id r.payload
  | 1 => handleScreencopyFrameDestroy r.id
  | 2 => handleScreencopyFrameCopyWithDamage r.environment r.id r.payload
  | opcode => unhandled .zwlrScreencopyFrameV1 opcode

def imageCopyCaptureSessionRequest (r : Request) : Handler Unit :=
  match r.opcode with
  | 0 => handleImageCopyCaptureSessionDestroy r.id
  | 1 => handleImageCopyCaptureCreateFrame r.id r.payload
  | opcode => unhandled .extImageCopyCaptureSessionV1 opcode

def imageCopyCaptureFrameRequest (r : Request) : Handler Unit :=
  match r.opcode with
  | 0 => handleImageCopyCaptureFrameCopy r.id
  | 1 => handleImageCopyCaptureFrameDestroy r.id
  | opcode => unhandled .extImageCopyCaptureFrameV1 opcode

def layerShellRequest (r : Request) : Handler Unit :=
  match r.opcode with
  | 0 => handleGetLayerSurface r.payload
  | 1 => handleLayerShellDestroy r.id
  | opcode => unhandled .zwlrLayerShellV1 opcode

def layerSurfaceRequest (r : Request) : Handler Unit :=
  match r.opcode with
  | 0 => handleLayerSurfaceSetSize r.id r.payload
  | 1 => handleLayerSurfaceSetAnchor r.id r.payload
  | 2 => handleLayerSurfaceSetExclusiveZone r.id r.payload
  | 3 => handleLayerSurfaceSetMargin r.id r.payload
  | 4 => handleLayerSurfaceSetKeyboardInteractivity r.id r.payload
  | 5 => handleLayerSurfaceGetPopup r.id r.payload
  | 6 => handleLayerSurfaceAckConfigure r.id r.payload
  | 7 => handleLayerSurfaceSetLayer r.id r.payload
  | 8 => handleLayerSurfaceDestroy r.id
  | opcode => unhandled .zwlrLayerSurfaceV1 opcode

def idleInhibitManagerRequest (r : Request) : Handler Unit :=
  match r.opcode with
  | 0 => handleIdleInhibitCreate r.payload
  | 1 => handleIdleInhibitDestroy r.id
  | opcode => unhandled .zwpIdleInhibitManagerV1 opcode

def relativePointerManagerRequest (r : Request) : Handler Unit :=
  match r.opcode with
  | 0 => handleRelativePointerGet r.payload
  | 1 => handleRelativePointerManagerDestroy r.id
  | opcode => unhandled .zwpRelativePointerManagerV1 opcode

def pointerConstraintsRequest (r : Request) : Handler Unit :=
  match r.opcode with
  | 0 => handleLockPointer r.payload
  | 1 => handleConfinePointer r.payload
  | 2 => handlePointerConstraintsDestroy r.id
  | opcode => unhandled .zwpPointerConstraintsV1 opcode

def lockedPointerRequest (r : Request) : Handler Unit :=
  match r.opcode with
  | 0 => handleLockedPointerSetCursorPositionHint r.id r.payload
  | 1 => handleLockedPointerSetRegion r.id r.payload
  | 2 => handleLockedPointerDestroy r.id
  | opcode => unhandled .zwpLockedPointerV1 opcode

def confinedPointerRequest (r : Request) : Handler Unit :=
  match r.opcode with
  | 0 => handleConfinedPointerSetRegion r.id r.payload
  | 1 => handleConfinedPointerDestroy r.id
  | opcode => unhandled .zwpConfinedPointerV1 opcode

/-- The table of the requests. -/
def handleRequest (interface : Interface) (r : Request) : Handler Unit :=
  match interface with
  | .wlDisplay => displayRequest r
  | .wlRegistry => onlyRequest .wlRegistry 0 (handleRegistryBind r.payload) r
  | .wlCompositor => compositorRequest r
  | .wlSurface => surfaceRequest r
  | .wlShm => onlyRequest .wlShm 0 (handleShmCreatePool r.payload r.args) r
  | .wlShmPool => shmPoolRequest r
  | .wlBuffer => onlyRequest .wlBuffer 0 (handleShmBufferDestroy r.id) r
  | .wlSeat => seatRequest r
  | .wlPointer => onlyRequest .wlPointer 1 (handleWlPointerRelease r.environment r.id) r
  | .wlDataDeviceManager => dataDeviceManagerRequest r
  | .wlDataSource => dataSourceRequest r
  | .wlDataDevice => dataDeviceRequest r
  | .wlDataOffer => dataOfferRequest r
  | .wlSubcompositor => subcompositorRequest r
  | .wlSubsurface => subsurfaceRequest r
  | .xdgWmBase => xdgWmBaseRequest r
  | .xdgPositioner => xdgPositionerRequest r
  | .xdgSurface => xdgSurfaceRequest r
  | .xdgToplevel => xdgToplevelRequest r
  | .xdgPopup => xdgPopupRequest r
  | .zwpTextInputManagerV3 =>
    onlyRequest .zwpTextInputManagerV3 1 (handleTextInputManagerGetTextInput r.payload) r
  | .zwpTextInputV3 => textInputRequest r
  | .zwpInputMethodManagerV2 =>
    onlyRequest .zwpInputMethodManagerV2 1 (handleInputMethodManagerGetInputMethod r.payload) r
  | .zwpInputMethodV2 => inputMethodRequest r
  | .zwpInputPopupSurfaceV2 =>
    onlyRequest .zwpInputPopupSurfaceV2 0 (handleInputPopupSurfaceDestroy r.id) r
  | .wpViewporter => managerRequest .wpViewporter handleViewporterDestroy handleGetViewport r
  | .wpViewport => viewportRequest r
  | .wpFractionalScaleManagerV1 =>
    managerRequest .wpFractionalScaleManagerV1 handleFractionalScaleManagerDestroy
      handleGetFractionalScale r
  | .wpFractionalScaleV1 =>
    onlyRequest .wpFractionalScaleV1 0 (handleFractionalScaleDestroy r.id) r
  | .zxdgDecorationManagerV1 =>
    managerRequest .zxdgDecorationManagerV1 handleXdgDecorationManagerDestroy
      handleGetToplevelDecoration r
  | .zxdgToplevelDecorationV1 => toplevelDecorationRequest r
  | .wpPresentation =>
    managerRequest .wpPresentation handlePresentationDestroy handlePresentationFeedback r
  | .wpPresentationFeedback => onlyRequest .wpPresentationFeedback 0 (pure ()) r
  | .zxdgOutputManagerV1 =>
    managerRequest .zxdgOutputManagerV1 handleXdgOutputManagerDestroy handleGetXdgOutput r
  | .zxdgOutputV1 => onlyRequest .zxdgOutputV1 0 (handleXdgOutputDestroy r.id) r
  | .zwlrOutputManagerV1 => outputManagerRequest r
  | .zwlrOutputConfigurationV1 => outputConfigurationRequest r
  | .zwlrOutputConfigurationHeadV1 => configurationHeadRequest r
  | .zwlrScreencopyManagerV1 => screencopyManagerRequest r
  | .zwlrScreencopyFrameV1 => screencopyFrameRequest r
  | .extImageCopyCaptureManagerV1 =>
    managerRequest .extImageCopyCaptureManagerV1 handleImageCopyCaptureManagerDestroy
      handleImageCopyCaptureCreateSession r
  | .extImageCopyCaptureSessionV1 => imageCopyCaptureSessionRequest r
  | .extImageCopyCaptureFrameV1 => imageCopyCaptureFrameRequest r
  | .zwlrLayerShellV1 => layerShellRequest r
  | .zwlrLayerSurfaceV1 => layerSurfaceRequest r
  | .zwpIdleInhibitManagerV1 => idleInhibitManagerRequest r
  | .zwpIdleInhibitorV1 => onlyRequest .zwpIdleInhibitorV1 0 (handleIdleInhibitorDestroy r.id) r
  | .zwpRelativePointerManagerV1 => relativePointerManagerRequest r
  | .zwpRelativePointerV1 =>
    onlyRequest .zwpRelativePointerV1 0 (handleRelativePointerDestroy r.id) r
  | .zwpPointerConstraintsV1 => pointerConstraintsRequest r
  | .zwpLockedPointerV1 => lockedPointerRequest r
  | .zwpConfinedPointerV1 => confinedPointerRequest r
  | interface => unhandled interface r.opcode

/-- The declaration of a request. -/
def requestSpec (interface : Interface) (opcode : Nat) : Fallible MessageSpec :=
  match p13ProtocolSpec interface with
  | none => .error (protocolError ("unknown interface: " ++ interface.name))
  | some spec =>
    match spec.requests[opcode]? with
    | none =>
      .error (protocolError ("unknown opcode " ++ toString opcode ++ " for " ++ interface.name))
    | some request => .ok request

def decodeRequest (payload : List UInt8) (spec : MessageSpec) (fds : List Nat) :
    Fallible (List WireArg) :=
  match decodeArguments payload spec (if fds = [] then none else some fds.length) with
  | .ok args => .ok args
  | .error error => .error (.error error)

/-- The ids of the objects that were destroyed go to the client once. -/
def announceDeletedIds : Handler Unit := do
  let core ← get
  set (core.withRegistry core.registry.takeDeleteIdEvents.2)
  sendEach (core.registry.takeDeleteIdEvents.1.map deleteIdEvent)

def dispatchWithFds (message : WaylandMessage) (fds : List Nat) (environment : Environment) :
    Handler (List WaylandMessage) := do
  let object ← getObject message.header.objectId
  let spec ← lift (requestSpec object.interface message.header.opcode)
  let args ← lift (decodeRequest message.payload spec fds)
  require (validateArgs spec args = true)
    ("argument mismatch for " ++ object.interface.name ++ " opcode " ++
      toString message.header.opcode)
  modify fun core => { core with eventsOut := [], fdQueue := fds }
  handleRequest object.interface
    { id := message.header.objectId
      opcode := message.header.opcode
      payload := message.payload
      args := args
      environment := environment }
  announceDeletedIds
  let core ← get
  pure core.eventsOut

end TuffXwin.Headless
