import TuffXwin.Headless.SurfaceRequests

/-! The requests of the extensions: text input, viewports and scales, decorations,
presentation, outputs, capture, idle inhibition and pointer constraints. -/

namespace TuffXwin.Headless
open Lib
open WaylandWire (WireError WireArg WaylandMessage readU32 encodeEvent)

/-! Text input and input methods. -/

namespace HeadlessWireCore

def withTextInput (core : HeadlessWireCore) (textInput : TextInputManager) : HeadlessWireCore :=
  { core with textInput := textInput }

/-- The first input method of the seat that is visited. -/
def inputMethodOf (core : HeadlessWireCore) (environment : Environment) (seatId : Nat) :
    Option Nat :=
  (environment.visit core.inputMethod.methods.keys).find? fun id =>
    core.inputMethod.methods.get? id = some seatId

/-- The first text input of the seat that is visited, if it is enabled. -/
def enabledInputOf (core : HeadlessWireCore) (environment : Environment) (seatId : Nat) :
    Option Nat :=
  ((environment.visit core.textInput.inputs.keys).find? fun id =>
    ((core.textInput.inputs.get? id).map (·.seatId)) = some seatId).filter fun id =>
      ((core.textInput.inputs.get? id).map (·.enabled)).getD false

end HeadlessWireCore

def onTextInput (op : TextInputManager → Fallible TextInputManager) : Handler Unit :=
  onPart (·.textInput) HeadlessWireCore.withTextInput op

/-- `unwrap` of a text input. -/
def textInputAt (id : Nat) : Handler TextInputState := do
  let core ← get
  match core.textInput.inputs.get? id with
  | none => throw .panicked
  | some input => pure input

/-- `unwrap` of an input method. -/
def seatOfMethod (id : Nat) : Handler Nat := do
  let core ← get
  match core.inputMethod.methods.get? id with
  | none => throw .panicked
  | some seatId => pure seatId

def handleTextInputManagerGetTextInput (payload : List UInt8) : Handler Unit := do
  let id ← wordAt payload 0
  let seatId ← wordAt payload 4
  registerClientObject id .zwpTextInputV3 1
  modify fun core => core.withTextInput (core.textInput.createTextInput id seatId)

def handleTextInputDestroy (id : Nat) : Handler Unit :=
  destroyWith (fun core => core.withTextInput ⟨core.textInput.inputs.erase id⟩) id

/-- Events for the input method of the seat, if there is one. -/
def tellInputMethod (environment : Environment) (seatId : Nat)
    (events : List (Nat × List WireArg)) : Handler Unit := do
  let core ← get
  match core.inputMethodOf environment seatId with
  | none => pure ()
  | some methodId => sendEach (events.map fun event => encodeEvent methodId event.1 event.2)

def handleTextInputEnable (environment : Environment) (id : Nat) : Handler Unit := do
  let core ← get
  let input ← lift (orInvalid (core.textInput.inputs.get? id) id)
  onTextInput fun textInput => textInput.enable id
  tellInputMethod environment input.seatId [(6, [])]

def handleTextInputDisable (environment : Environment) (id : Nat) : Handler Unit := do
  onTextInput fun textInput => textInput.disable id
  let input ← textInputAt id
  tellInputMethod environment input.seatId [(7, [])]

def setPendingInput (id : Nat) (f : TextInputData → TextInputData) : Handler Unit :=
  modify fun core => core.withTextInput (core.textInput.setPending id f)

/-- The backend sees the text when the text input is there. -/
def handleTextInputSetSurroundingText (id : Nat) (payload : List UInt8) : Handler Unit := do
  let text ← textAt payload 0
  let cursor ← intAt payload text.2
  let anchor ← intAt payload (text.2 + 4)
  setPendingInput id fun pending =>
    { pending with surroundingText := some text.1, cursor := cursor, anchor := anchor }
  modify fun core =>
    if core.textInput.inputs.contains id then
      { core with ime := core.ime.handleSurroundingText text.1 }
    else core

def handleTextInputSetTextChangeCause (id : Nat) (payload : List UInt8) : Handler Unit := do
  let cause ← wordAt payload 0
  setPendingInput id fun pending => { pending with cause := cause }

def handleTextInputSetContentType (id : Nat) (payload : List UInt8) : Handler Unit := do
  let hint ← wordAt payload 0
  let purpose ← wordAt payload 4
  setPendingInput id fun pending => { pending with hint := hint, purpose := purpose }

def handleTextInputSetCursorRectangle (id : Nat) (payload : List UInt8) : Handler Unit := do
  let x ← intAt payload 0
  let y ← intAt payload 4
  let width ← intAt payload 8
  let height ← intAt payload 12
  setPendingInput id fun pending => { pending with cursorRectangle := (x, y, width, height) }

def imeEvent : ImeRequest → Nat × List WireArg
  | .preeditString text cursorBegin cursorEnd =>
    (10, [.string text, .int cursorBegin, .int cursorEnd])
  | .commitString text => (9, [.string text])

def handleTextInputCommit (environment : Environment) (id : Nat) : Handler Unit := do
  onTextInput fun textInput => textInput.commit id
  let core ← get
  let input ← textInputAt id
  tellInputMethod environment input.seatId (core.ime.handleCommit.map imeEvent ++ [(13, [])])

def onInputMethod (op : InputMethodManager → Fallible InputMethodManager) : Handler Unit :=
  onPart (·.inputMethod) (fun core inputMethod => { core with inputMethod := inputMethod }) op

def handleInputMethodManagerGetInputMethod (payload : List UInt8) : Handler Unit := do
  let seatId ← wordAt payload 0
  let id ← wordAt payload 4
  registerClientObject id .zwpInputMethodV2 1
  onInputMethod fun inputMethod => inputMethod.getInputMethod id seatId

/-- An event of an input method for the enabled text input of its seat. -/
def tellTextInput (environment : Environment) (methodId opcode : Nat) (args : List WireArg) :
    Handler Unit := do
  let seatId ← seatOfMethod methodId
  let core ← get
  match core.enabledInputOf environment seatId with
  | none => pure ()
  | some inputId => send inputId opcode args

def handleInputMethodCommitString (environment : Environment) (id : Nat)
    (payload : List UInt8) : Handler Unit := do
  let text ← textAt payload 0
  tellTextInput environment id 3 [.string text.1]

def handleInputMethodSetPreeditString (environment : Environment) (id : Nat)
    (payload : List UInt8) : Handler Unit := do
  let text ← textAt payload 0
  let cursorBegin ← intAt payload text.2
  let cursorEnd ← intAt payload (text.2 + 4)
  tellTextInput environment id 2 [.string text.1, .int cursorBegin, .int cursorEnd]

def handleInputMethodDeleteSurroundingText (environment : Environment) (id : Nat)
    (payload : List UInt8) : Handler Unit := do
  let before ← wordAt payload 0
  let after ← wordAt payload 4
  tellTextInput environment id 4 [.uint before, .uint after]

def handleInputMethodCommit (environment : Environment) (id : Nat) (payload : List UInt8) :
    Handler Unit := do
  let serial ← wordAt payload 0
  tellTextInput environment id 5 [.uint serial]

def handleInputMethodGetInputPopupSurface (payload : List UInt8) : Handler Unit := do
  let id ← wordAt payload 0
  let surfaceId ← wordAt payload 4
  registerClientObject id .zwpInputPopupSurfaceV2 1
  modify fun core => { core with inputMethod := core.inputMethod.createPopup id surfaceId 0 }

def handleInputPopupSurfaceDestroy (id : Nat) : Handler Unit :=
  destroyWith (fun core => { core with
    inputMethod := { core.inputMethod with popups := core.inputMethod.popups.erase id } }) id

/-! Viewports, scales and decorations. -/

def onViewport (op : ViewportManager → Fallible ViewportManager) : Handler Unit :=
  onPart (·.viewport) (fun core viewport => { core with viewport := viewport }) op

def handleViewporterDestroy (id : Nat) : Handler Unit := destroyWith (fun core => core) id

def handleGetViewport (payload : List UInt8) : Handler Unit := do
  let id ← wordAt payload 0
  let surfaceId ← wordAt payload 4
  registerClientObject id .wpViewport 1
  onViewport fun viewport => viewport.getViewport id surfaceId

def handleViewportDestroy (id : Nat) : Handler Unit :=
  destroyWith (fun core => { core with viewport := core.viewport.destroy id }) id

def handleViewportSetSource (id : Nat) (payload : List UInt8) : Handler Unit := do
  let x ← intAt payload 0
  let y ← intAt payload 4
  let width ← intAt payload 8
  let height ← intAt payload 12
  onViewport fun viewport => viewport.setSource id x y width height

def handleViewportSetDestination (id : Nat) (payload : List UInt8) : Handler Unit := do
  let width ← intAt payload 0
  let height ← intAt payload 4
  onViewport fun viewport => viewport.setDestination id width height

def onFractionalScale (op : FractionalScaleManager → Fallible FractionalScaleManager) :
    Handler Unit :=
  onPart (·.fractionalScale) (fun core scale => { core with fractionalScale := scale }) op

def handleFractionalScaleManagerDestroy (id : Nat) : Handler Unit :=
  destroyWith (fun core => core) id

def handleGetFractionalScale (payload : List UInt8) : Handler Unit := do
  let id ← wordAt payload 0
  let surfaceId ← wordAt payload 4
  registerClientObject id .wpFractionalScaleV1 1
  onFractionalScale fun scale => scale.getFractionalScale id surfaceId
  send id 0 [.uint 120]

def handleFractionalScaleDestroy (id : Nat) : Handler Unit :=
  destroyWith (fun core => { core with fractionalScale := core.fractionalScale.destroy id }) id

def withXdgDecoration (core : HeadlessWireCore) (decoration : XdgDecorationManager) :
    HeadlessWireCore :=
  { core with xdgDecoration := decoration }

def handleXdgDecorationManagerDestroy (id : Nat) : Handler Unit :=
  destroyWith (fun core => core) id

def handleGetToplevelDecoration (payload : List UInt8) : Handler Unit := do
  let id ← wordAt payload 0
  let toplevelId ← wordAt payload 4
  registerClientObject id .zxdgToplevelDecorationV1 1
  onPart (·.xdgDecoration) withXdgDecoration fun decoration =>
    decoration.getToplevelDecoration id toplevelId
  send id 0 [.uint 2]

def handleXdgToplevelDecorationDestroy (id : Nat) : Handler Unit :=
  destroyWith (fun core => withXdgDecoration core (core.xdgDecoration.destroy id)) id

def handleXdgToplevelDecorationSetMode (id : Nat) (payload : List UInt8) : Handler Unit := do
  let mode ← wordAt payload 0
  let core ← get
  let chosen ← lift (core.xdgDecoration.setMode id mode)
  set (withXdgDecoration core chosen.2)
  send id 0 [.uint chosen.1.value]

def handleXdgToplevelDecorationUnsetMode (id : Nat) : Handler Unit := do
  modify fun core => withXdgDecoration core (core.xdgDecoration.modifyMode id none)
  send id 0 [.uint 2]

/-! Presentation. -/

def handlePresentationDestroy (id : Nat) : Handler Unit := destroyWith (fun core => core) id

def handlePresentationFeedback (payload : List UInt8) : Handler Unit := do
  let surfaceId ← wordAt payload 0
  let id ← wordAt payload 4
  registerClientObject id .wpPresentationFeedback 1
  modify fun core => { core with presentation := core.presentation.feedback id surfaceId }

/-! Outputs. -/

def handleXdgOutputManagerDestroy (id : Nat) : Handler Unit := destroyWith (fun core => core) id

def handleGetXdgOutput (payload : List UInt8) : Handler Unit := do
  let id ← wordAt payload 0
  let outputId ← wordAt payload 4
  registerClientObject id .zxdgOutputV1 3
  onPart (·.xdgOutput) (fun core xdgOutput => { core with xdgOutput := xdgOutput })
    fun xdgOutput => xdgOutput.getXdgOutput id outputId
  let core ← get
  let output ← lift (orInvalid (core.output.outputs.get? outputId) outputId)
  send id 0 [.int output.x, .int output.y]
  send id 1 [.int output.width, .int output.height]
  send id 3 [.string output.name]
  send id 4 [.string ("desc: " ++ output.name)]
  send id 2 []

def handleXdgOutputDestroy (id : Nat) : Handler Unit :=
  destroyWith (fun core => { core with xdgOutput := core.xdgOutput.destroy id }) id

def withOutputManagement (core : HeadlessWireCore) (management : OutputManagementManager) :
    HeadlessWireCore :=
  { core with outputManagement := management }

def handleCreateConfiguration (payload : List UInt8) : Handler Unit := do
  let id ← wordAt payload 0
  let serial ← wordAt payload 4
  registerClientObject id .zwlrOutputConfigurationV1 4
  modify fun core =>
    withOutputManagement core (core.outputManagement.createConfiguration id serial)

def handleOutputManagerStop : Handler Unit := pure ()

def handleEnableHead (configId : Nat) (payload : List UInt8) : Handler Unit := do
  let id ← wordAt payload 0
  let headId ← wordAt payload 4
  registerClientObject id .zwlrOutputConfigurationHeadV1 4
  onPart (·.outputManagement) withOutputManagement fun management =>
    management.enableHead configId id headId

def handleDisableHead (configId : Nat) (payload : List UInt8) : Handler Unit := do
  let _headId ← wordAt payload 0
  let core ← get
  lift (core.outputManagement.disableHead configId)

/-- Applying and testing only say that they succeeded. -/
def confirmConfiguration (configId : Nat) : Handler Unit := do
  let core ← get
  let _ ← lift (orInvalid (core.outputManagement.configs.get? configId) configId)
  send configId 0 []

def handleConfigurationApply (configId : Nat) : Handler Unit := confirmConfiguration configId

def handleConfigurationTest (configId : Nat) : Handler Unit := confirmConfiguration configId

def handleConfigurationDestroy (id : Nat) : Handler Unit :=
  destroyWith (fun core =>
    withOutputManagement core (core.outputManagement.destroyConfiguration id)) id

def handleConfigHeadSetMode : Handler Unit := pure ()

def handleConfigHeadSetCustomMode : Handler Unit := pure ()

def handleConfigHeadSetPosition : Handler Unit := pure ()

def handleConfigHeadSetTransform : Handler Unit := pure ()

def handleConfigHeadSetScale : Handler Unit := pure ()

/-! Capture. -/

def withScreencopy (core : HeadlessWireCore) (screencopy : ScreencopyManager) :
    HeadlessWireCore :=
  { core with screencopy := screencopy }

/-- The format of a buffer for the frame, of so many bytes a row, and no flags. -/
def sendFrameFormat (frameId width height stride : Nat) : Handler Unit := do
  send frameId 0 [.uint 0, .uint width, .uint height, .uint stride]
  send frameId 1 [.uint 0]

def handleScreencopyCaptureOutput (payload : List UInt8) : Handler Unit := do
  let frameId ← wordAt payload 0
  let overlay ← wordAt payload 4
  let outputId ← wordAt payload 8
  registerClientObject frameId .zwlrScreencopyFrameV1 3
  modify fun core =>
    withScreencopy core (core.screencopy.captureOutput frameId (some outputId) (overlay ≠ 0))
  sendFrameFormat frameId 1920 1080 (1920 * 4)

/-- A signed product that panics where it overflows. -/
def mulI32 (a b : Int) : Fallible Int :=
  match i32Checked (a * b) with
  | some product => .ok product
  | none => .error .panicked

def handleScreencopyCaptureOutputRegion (payload : List UInt8) : Handler Unit := do
  let frameId ← wordAt payload 0
  let overlay ← wordAt payload 4
  let outputId ← wordAt payload 8
  let x ← intAt payload 12
  let y ← intAt payload 16
  let width ← intAt payload 20
  let height ← intAt payload 24
  registerClientObject frameId .zwlrScreencopyFrameV1 3
  onPart (·.screencopy) withScreencopy fun screencopy =>
    screencopy.captureOutputRegion frameId (some outputId) (overlay ≠ 0) x y width height
  let stride ← lift (mulI32 width 4)
  sendFrameFormat frameId (asU32 width) (asU32 height) (asU32 stride)

def handleScreencopyManagerDestroy (id : Nat) : Handler Unit := destroyWith (fun core => core) id

def copyFrame (frameId bufferId : Nat) : Handler Unit :=
  onPart (·.screencopy) withScreencopy fun screencopy => screencopy.copyFrame frameId bufferId

def readyArgs (now : Nat) : List WireArg :=
  [.uint (now / 4294967296 % 4294967296), .uint (now % 4294967296), .uint (now % 1000000000)]

def handleScreencopyFrameCopy (environment : Environment) (frameId : Nat)
    (payload : List UInt8) : Handler Unit := do
  let bufferId ← wordAt payload 0
  copyFrame frameId bufferId
  send frameId 2 (readyArgs environment.clockNow)

def handleScreencopyFrameCopyWithDamage (environment : Environment) (frameId : Nat)
    (payload : List UInt8) : Handler Unit := do
  let bufferId ← wordAt payload 0
  copyFrame frameId bufferId
  send frameId 4 [.uint 0, .uint 0, .uint 1920, .uint 1080]
  send frameId 2 (readyArgs environment.clockNow)

def handleScreencopyFrameDestroy (id : Nat) : Handler Unit :=
  destroyWith (fun core => withScreencopy core (core.screencopy.destroy id)) id

def withImageCopyCapture (core : HeadlessWireCore) (capture : ImageCopyCaptureManager) :
    HeadlessWireCore :=
  { core with imageCopyCapture := capture }

def handleImageCopyCaptureManagerDestroy (id : Nat) : Handler Unit :=
  destroyWith (fun core => core) id

def handleImageCopyCaptureCreateSession (payload : List UInt8) : Handler Unit := do
  let sessionId ← wordAt payload 0
  let sourceType ← wordAt payload 4
  let sourceId ← wordAt payload 8
  registerClientObject sessionId .extImageCopyCaptureSessionV1 1
  modify fun core => withImageCopyCapture core
    (core.imageCopyCapture.createSession sessionId sourceType sourceId)

def handleImageCopyCaptureSessionDestroy (id : Nat) : Handler Unit :=
  destroyWith (fun core => withImageCopyCapture core (core.imageCopyCapture.destroySession id)) id

def handleImageCopyCaptureCreateFrame (sessionId : Nat) (payload : List UInt8) :
    Handler Unit := do
  let frameId ← wordAt payload 0
  let core ← get
  let _ ← lift (orInvalid (core.imageCopyCapture.sessions.get? sessionId) sessionId)
  registerClientObject frameId .extImageCopyCaptureFrameV1 1
  modify fun core => withImageCopyCapture core
    (core.imageCopyCapture.createFrame frameId sessionId)
  send frameId 0 [.uint 0, .uint 1920, .uint 1080, .uint (1920 * 4)]

def handleImageCopyCaptureFrameCopy (frameId : Nat) : Handler Unit := do
  let core ← get
  let _ ← lift (orInvalid (core.imageCopyCapture.frames.get? frameId) frameId)
  send frameId 1 []

def handleImageCopyCaptureFrameDestroy (id : Nat) : Handler Unit :=
  destroyWith (fun core => withImageCopyCapture core (core.imageCopyCapture.destroyFrame id)) id

/-! Idle inhibition and relative pointers. -/

def onIdleInhibit (op : IdleInhibitState → Fallible IdleInhibitState) : Handler Unit :=
  onPart (·.idleInhibit) (fun core idle => { core with idleInhibit := idle }) op

def handleIdleInhibitCreate (payload : List UInt8) : Handler Unit := do
  requireLength payload 8
  let newId ← wordAt payload 0
  let surfaceId ← wordAt payload 4
  registerClientObject newId .zwpIdleInhibitorV1 1
  let _ ← getObject surfaceId
  modify fun core => { core with idleInhibit := core.idleInhibit.createInhibitor newId surfaceId }

def handleIdleInhibitDestroy (id : Nat) : Handler Unit := destroyWith (fun core => core) id

def handleIdleInhibitorDestroy (id : Nat) : Handler Unit := do
  onIdleInhibit fun idle => idle.destroyInhibitor id
  destroyObject id

def onRelativePointer (op : RelativePointerState → Fallible RelativePointerState) :
    Handler Unit :=
  onPart (·.relativePointer) (fun core relative => { core with relativePointer := relative }) op

def handleRelativePointerGet (payload : List UInt8) : Handler Unit := do
  requireLength payload 8
  let newId ← wordAt payload 0
  let pointerId ← wordAt payload 4
  registerClientObject newId .zwpRelativePointerV1 1
  let _ ← getObject pointerId
  onRelativePointer fun relative => relative.createRelativePointer newId pointerId

def handleRelativePointerManagerDestroy (id : Nat) : Handler Unit :=
  destroyWith (fun core => core) id

def handleRelativePointerDestroy (id : Nat) : Handler Unit := do
  onRelativePointer fun relative => relative.destroy id
  destroyObject id

/-! Pointer constraints. -/

def onConstraints (op : PointerConstraintsState → Fallible PointerConstraintsState) :
    Handler Unit :=
  onPart (·.pointerConstraints) (fun core state => { core with pointerConstraints := state }) op

def requireRegion (region : Nat) : Handler Unit :=
  if region = 0 then pure ()
  else do
    let _ ← getObject region
    pure ()

/-- A pointer that is there must be on the surface. -/
def requireFocus (pointerId surfaceId : Nat) (reason : String) : Handler Unit := do
  let core ← get
  match core.input.pointers.get? pointerId with
  | none => pure ()
  | some pointer => require (pointer.focusSurfaceId = some surfaceId) reason

/-- Locking and confining differ in the new object and in the table it is kept in. -/
def constrainPointer (interface : Interface) (reason : String)
    (create : PointerConstraintsState → Nat → PointerConstraintState →
      Fallible PointerConstraintsState) (payload : List UInt8) : Handler Unit := do
  requireLength payload 20
  let newId ← wordAt payload 0
  let surfaceId ← wordAt payload 4
  let pointerId ← wordAt payload 8
  let region ← wordAt payload 12
  let value ← wordAt payload 16
  let lifetime ← lift (PointerConstraintLifetime.fromRaw value)
  registerClientObject newId interface 1
  let _ ← getObject surfaceId
  let _ ← getObject pointerId
  requireFocus pointerId surfaceId reason
  requireRegion region
  onConstraints fun state => create state newId
    { surfaceId := surfaceId
      pointerId := pointerId
      regionId := optionalId region
      lifetime := lifetime }
  send newId 0 []

def handleLockPointer (payload : List UInt8) : Handler Unit :=
  constrainPointer .zwpLockedPointerV1 "pointer focus is required for pointer lock"
    PointerConstraintsState.createLocked payload

def handleConfinePointer (payload : List UInt8) : Handler Unit :=
  constrainPointer .zwpConfinedPointerV1 "pointer focus is required for pointer confinement"
    PointerConstraintsState.createConfined payload

def handlePointerConstraintsDestroy (id : Nat) : Handler Unit :=
  destroyWith (fun core => core) id

def handleLockedPointerSetCursorPositionHint (id : Nat) (payload : List UInt8) :
    Handler Unit := do
  requireLength payload 8
  let x ← intAt payload 0
  let y ← intAt payload 4
  onConstraints fun state => state.setCursorPositionHint id x y

def setConstraintRegion (id : Nat) (payload : List UInt8) : Handler Unit := do
  requireLength payload 4
  let region ← wordAt payload 0
  requireRegion region
  onConstraints fun state => state.setRegion id (optionalId region)

def handleLockedPointerSetRegion (id : Nat) (payload : List UInt8) : Handler Unit :=
  setConstraintRegion id payload

def handleConfinedPointerSetRegion (id : Nat) (payload : List UInt8) : Handler Unit :=
  setConstraintRegion id payload

def handleLockedPointerDestroy (id : Nat) : Handler Unit := do
  onConstraints fun state => state.destroyLocked id
  send id 1 []
  destroyObject id

def handleConfinedPointerDestroy (id : Nat) : Handler Unit := do
  onConstraints fun state => state.destroyConfined id
  send id 1 []
  destroyObject id

end TuffXwin.Headless
