import TuffXwin.Displayd.State
import TuffXwin.Lib.Outcome

/-! Scanout over DRM. An output has two buffers; a frame goes into the one that is not active,
and the buffer becomes active when the kernel has set the mode or flipped the page to it. The
kernel is a party of its own: it completes flips when it likes, and its events wait until they
are read. `copies`, `arrived` and `finished` are specification variables. -/

namespace TuffXwin.Displayd
open Lib

/-! What the kernel does. -/

structure PageFlip where
  flipId : Nat
  crtcId : Nat
  framebufferId : Nat
  deriving DecidableEq, Repr

/-- The framebuffer of displayd that each CRTC shows, if it shows one; the flips that are not
finished; and the events of those that are, until they are read. -/
structure Kernel where
  displaying : Nat → Option Nat := fun _ => none
  pending : List PageFlip := []
  events : List Nat := []
  nextFramebuffer : Nat := 1

namespace Kernel

variable (kernel : Kernel)

def display (crtcId framebufferId : Nat) : Kernel :=
  { kernel with displaying := Function.update kernel.displaying crtcId (some framebufferId) }

def finishFlip (flip : PageFlip) : Kernel :=
  { kernel.display flip.crtcId flip.framebufferId with
    events := kernel.events ++ [flip.flipId] }

/-- The pending flips of some ids are finished. -/
def complete (ids : List Nat) : Kernel :=
  (kernel.pending.filter (·.flipId ∈ ids)).foldl finishFlip
    { kernel with pending := kernel.pending.filter (·.flipId ∉ ids) }

/-- Events are read in any order, but only those that are there. -/
def deliverable (delivered : List Nat) : List Nat := delivered.filter (· ∈ kernel.events)

def deliver (delivered : List Nat) : Kernel :=
  { kernel with events := kernel.events.filter (· ∉ delivered) }

def flip (flip : PageFlip) : Kernel := { kernel with pending := kernel.pending ++ [flip] }

end Kernel

/-- What a wait for an event ends with. -/
inductive Poll
  | interrupted
  | failed
  | timedOut
  | deviceError
  | handlerFailed
  | handled (delivered : List Nat)
  deriving DecidableEq, Repr

/-- One turn of the wait, and the flips that are finished until then. -/
structure Turn where
  completes : List Nat := []
  poll : Poll
  deriving DecidableEq, Repr

/-- What the kernel answers to the requests of one scanout. -/
structure ScanoutAnswers where
  createDumb : Except String (Nat × Nat) := .ok (0, 0)
  register : Except String Unit := .ok ()
  modeset : Bool := true
  pageFlip : Bool := true
  turns : List Turn := []
  osError : String := ""

/-! The backend. -/

structure DrmModeInfo where
  hdisplay : Nat
  vdisplay : Nat
  vrefresh : Nat
  deriving DecidableEq, Repr

structure ScanoutBuffer where
  framebufferId : Nat
  pitch : Nat
  bytes : Nat
  pixels : List UInt32
  deriving DecidableEq

structure KmsOutput where
  connectorId : Nat
  crtcId : Nat
  mode : DrmModeInfo
  geometry : OutputGeometry
  refreshHz : Nat
  buffers : Fin 2 → Option ScanoutBuffer := fun _ => none
  activeSlot : Option (Fin 2) := none
  lastFrame : Option FramePublication := none

namespace KmsOutput

variable (output : KmsOutput)

def nextSlot : Fin 2 :=
  match output.activeSlot with
  | none => 0
  | some active => 1 - active

def setBuffer (slot : Fin 2) (buffer : ScanoutBuffer) : KmsOutput :=
  { output with buffers := Function.update output.buffers slot (some buffer) }

/-- The framebuffer of the active slot. -/
def activeFramebuffer : Option Nat :=
  output.activeSlot.bind fun slot => (output.buffers slot).map (·.framebufferId)

def validateFrame (request : FramePublication) : Except String Nat :=
  let mismatch : String := "drm-kms frame geometry, format, or output identity mismatch"
  if request.outputId ≠ output.geometry.outputId ∨
      request.geometry.width ≠ output.mode.hdisplay ∨
      request.geometry.height ≠ output.mode.vdisplay ∨
      request.format ≠ wlShmFormatXrgb8888 then .error mismatch
  else
    match u32Checked (request.geometry.width * 4) with
    | none => .error "stride overflow"
    | some stride =>
      if request.stride ≠ stride then .error mismatch
      else
        match usizeChecked (output.mode.hdisplay * output.mode.vdisplay) with
        | none => .error "drm-kms pixel count overflow"
        | some count =>
          match usizeChecked (count * 4) with
          | none => .error "drm-kms byte count overflow"
          | some size =>
            if request.pixels.length ≠ count ∨ maxOutputFramebufferBytes < size then
              .error "drm-kms frame pixel payload invalid or over budget"
            else .ok size

end KmsOutput

/-- What a copy went into, and what the kernel was doing then. -/
structure Copy where
  framebufferId : Nat
  displaying : Option Nat
  targets : List Nat
  deriving DecidableEq, Repr

structure DrmKmsBackend where
  outputs : OrdMap String KmsOutput
  outputEvents : List BackendOutputEvent := []
  backendInstanceId : Nat
  nextTokenSequence : Nat := 1
  nextFlipId : Nat := 1
  lastFlipId : Nat := 0
  kernel : Kernel := {}
  copies : List Copy := []
  arrived : List Nat := []
  finished : List Nat := []

abbrev DrmM := EStateM String DrmKmsBackend

/-- A buffer for the mode of the output. -/
def createBuffer (answers : ScanoutAnswers) (output : KmsOutput) : DrmM ScanoutBuffer :=
  match answers.createDumb with
  | .error err => throw ("drmModeCreateDumbBuffer failed: " ++ err)
  | .ok (pitch, size) =>
    match u32Checked (output.mode.hdisplay * 4) with
    | none => throw "drm scanout row overflow"
    | some row =>
      if pitch < row ∨ size < pitch * output.mode.vdisplay ∨ maxOutputFramebufferBytes < size then
        throw "drm dumb buffer pitch/size invalid"
      else do
        let backend ← get
        set { backend with
          kernel := { backend.kernel with
            nextFramebuffer := backend.kernel.nextFramebuffer + 1 } }
        match answers.register with
        | .error err => throw err
        | .ok () =>
          return {
            framebufferId := backend.kernel.nextFramebuffer
            pitch
            bytes := size
            pixels := List.replicate (output.mode.hdisplay * output.mode.vdisplay) 0 }

/-- The next slot of the output has a buffer after this. -/
def allocateBuffer (answers : ScanoutAnswers) (outputId : String) (output : KmsOutput) :
    DrmM Unit :=
  match output.buffers output.nextSlot with
  | some _ => pure ()
  | none => do
    let buffer ← createBuffer answers output
    modify fun backend =>
      { backend with
        outputs := backend.outputs.modify outputId fun output =>
          output.setBuffer output.nextSlot buffer }

/-- The buffer that a frame was copied into. -/
structure ScanoutTarget where
  firstModeset : Bool
  crtcId : Nat
  framebufferId : Nat
  slot : Fin 2

def DrmKmsBackend.copied (frame : FramePublication) (output : KmsOutput)
    (buffer : ScanoutBuffer) (backend : DrmKmsBackend) : DrmKmsBackend :=
  { backend with
    outputs := backend.outputs.insert frame.outputId
      (output.setBuffer output.nextSlot { buffer with pixels := frame.pixels })
    copies := backend.copies ++
      [{ framebufferId := buffer.framebufferId
         displaying := backend.kernel.displaying output.crtcId
         targets := backend.kernel.pending.map (·.framebufferId) }] }

def copyFrame (frame : FramePublication) : DrmM ScanoutTarget := do
  let backend ← get
  match backend.outputs.get? frame.outputId with
  | none => throw "unknown DRM output"
  | some output =>
    match output.buffers output.nextSlot with
    | none => throw "DRM scanout not allocated"
    | some buffer =>
      match usizeChecked (buffer.pitch * output.geometry.height) with
      | none => throw "DRM pitch overflow"
      | some required =>
        if buffer.bytes < required then throw "DRM mapped buffer too small"
        else do
          set (backend.copied frame output buffer)
          return {
            firstModeset := output.activeSlot.isNone
            crtcId := output.crtcId
            framebufferId := buffer.framebufferId
            slot := output.nextSlot }

/-- The frame in the buffer that is not active. -/
def prepareFrame (answers : ScanoutAnswers) (frame : FramePublication) :
    DrmM ScanoutTarget := do
  let backend ← get
  match backend.outputs.get? frame.outputId with
  | none => throw "unknown DRM output"
  | some output =>
    match output.validateFrame frame with
    | .error err => throw err
    | .ok _ => do
      allocateBuffer answers frame.outputId output
      copyFrame frame

def setCrtc (answers : ScanoutAnswers) (target : ScanoutTarget) : DrmM Unit :=
  if answers.modeset then
    modify fun backend =>
      { backend with kernel := backend.kernel.display target.crtcId target.framebufferId }
  else
    throw ("drmModeSetCrtc rejected initial frame (check DRM master/VT): " ++ answers.osError)

/-- `drm_page_flip_done` for each of the events that are read. -/
def DrmKmsBackend.handleEvents (flipId : Nat) (delivered : List Nat)
    (backend : DrmKmsBackend) : DrmKmsBackend :=
  let read := backend.kernel.deliverable delivered
  { backend with
    kernel := backend.kernel.deliver delivered
    lastFlipId := read.getLast?.getD backend.lastFlipId
    arrived := if flipId ∈ read then backend.arrived ++ [flipId] else backend.arrived }

def awaitFlip (osError : String) (flipId : Nat) : List Turn → DrmM Unit
  | [] => do
    let backend ← get
    if backend.lastFlipId = flipId then pure ()
    else throw "DRM page flip completion timed out"
  | turn :: turns => do
    let backend ← get
    if backend.lastFlipId = flipId then pure ()
    else do
      modify fun backend => { backend with kernel := backend.kernel.complete turn.completes }
      match turn.poll with
      | .interrupted => awaitFlip osError flipId turns
      | .failed => throw ("DRM page flip poll failed: " ++ osError)
      | .timedOut => throw "DRM page flip completion timed out"
      | .deviceError => throw "DRM page flip device reported an error"
      | .handlerFailed => throw ("drmHandleEvent failed: " ++ osError)
      | .handled delivered => do
        modify (DrmKmsBackend.handleEvents flipId delivered)
        awaitFlip osError flipId turns

/-- `NEXT_FLIP_ID.fetch_add(1)`. -/
def takeFlipId : DrmM Nat := do
  let backend ← get
  set { backend with nextFlipId := (backend.nextFlipId + 1) % (u64Max + 1) }
  return backend.nextFlipId

def flipPage (answers : ScanoutAnswers) (target : ScanoutTarget) : DrmM Nat := do
  let flipId ← takeFlipId
  if flipId = 0 then throw "drm page flip token exhausted"
  else if answers.pageFlip = false then
    throw ("drmModePageFlip rejected frame: " ++ answers.osError)
  else do
    modify fun backend =>
      { backend with
        kernel := backend.kernel.flip ⟨flipId, target.crtcId, target.framebufferId⟩ }
    awaitFlip answers.osError flipId answers.turns
    return flipId

/-- The frame is scanned out, after a flip if there was one. -/
def finishScanout (frame : FramePublication) (slot : Fin 2) (flipId : Option Nat) : DrmM Unit :=
  modify fun backend =>
    { backend with
      outputs := backend.outputs.modify frame.outputId fun output =>
        { output with activeSlot := some slot, lastFrame := some frame }
      finished := backend.finished ++ flipId.toList }

def scanout (answers : ScanoutAnswers) (frame : FramePublication) : DrmM Unit := do
  let target ← prepareFrame answers frame
  if target.firstModeset then do
    setCrtc answers target
    finishScanout frame target.slot none
  else do
    let flipId ← flipPage answers target
    finishScanout frame target.slot (some flipId)

namespace DrmKmsBackend

variable (backend : DrmKmsBackend)

def token (request : FramePublication) : PresentationToken where
  backendInstanceId := backend.backendInstanceId
  sequence := backend.nextTokenSequence
  outputId := request.outputId
  outputGeneration := request.outputGeneration
  sceneGeneration := request.sceneGeneration
  frameId := request.frameId

def capturePublished (output : String) : Option FramePublication :=
  (backend.outputs.get? output).bind (·.lastFrame)

def removeOutput (outputId : String) : DrmKmsBackend :=
  { backend with
    outputs := backend.outputs.modify outputId fun output => { output with lastFrame := none } }

end DrmKmsBackend

def drmPublishFrame (answers : ScanoutAnswers) (request : FramePublication) : DrmM Unit :=
  scanout answers request

def drmSubmitFrame (answers : ScanoutAnswers) (request : FramePublication) :
    DrmM PresentationToken := do
  let backend ← get
  match (backend.token request).validate with
  | .error err => throw err
  | .ok () => do
    scanout answers request
    modify fun after => { after with nextTokenSequence := satAdd after.nextTokenSequence 1 }
    return backend.token request

def drmReconfigureOutput (outputId : String) : DrmM Unit := do
  let backend ← get
  if (backend.outputs.get? outputId).isSome then pure ()
  else throw "unknown drm-kms output"

/-! Which outputs there are. -/

/-- A connector with its selected mode, if it is connected, and the CRTCs that its encoders
can drive, in the order in which they are tried. -/
structure Connector where
  connectorId : Nat
  mode : Option DrmModeInfo
  encoders : List (List Nat)

structure Discovery where
  outputs : OrdMap String KmsOutput := OrdMap.empty
  events : List BackendOutputEvent := []
  usedCrtcs : List Nat := []
  originX : Int := 0
  sequence : Nat := 1

def selectCrtc (usedCrtcs : List Nat) (encoders : List (List Nat)) : Option Nat :=
  encoders.findSome? fun crtcs => crtcs.find? (· ∉ usedCrtcs)

def Discovery.add (epoch : Nat) (found : Discovery) (connector : Connector) : Discovery :=
  if maxOutputs ≤ found.outputs.size then found
  else
    match connector.mode, selectCrtc found.usedCrtcs connector.encoders with
    | some mode, some crtcId =>
      match u32Checked (mode.hdisplay * 4) with
      | none => found
      | some stride =>
        if maxOutputFramebufferBytes < stride * mode.vdisplay then found
        else
          let outputId := "drm-connector-" ++ toString connector.connectorId
          let geometry : OutputGeometry :=
            { outputId
              width := mode.hdisplay
              height := mode.vdisplay
              stride
              format := wlShmFormatXrgb8888
              originX := found.originX
              originY := 0
              outputGeneration := 1 }
          let refreshHz := max mode.vrefresh 1
          { outputs := found.outputs.insert outputId
              { connectorId := connector.connectorId, crtcId, mode, geometry, refreshHz }
            events := found.events ++
              [.connected epoch outputId found.sequence geometry ⟨1000000000 / refreshHz⟩]
            usedCrtcs := crtcId :: found.usedCrtcs
            originX := min (found.originX + mode.hdisplay) i32Max
            sequence := found.sequence + 1 }
    | _, _ => found

def discover (epoch : Nat) (connectors : List Connector) : Discovery :=
  connectors.foldl (Discovery.add epoch) {}

end TuffXwin.Displayd
