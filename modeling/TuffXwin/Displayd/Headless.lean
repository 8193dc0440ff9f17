import TuffXwin.Displayd.Backends

/-! The shared-memory display backend. Every frame goes into the inactive slot of
its output's region and waits under its token until it is completed; the frame of
the last completion is what a capture reads. Whether a region can be mapped is up
to the system, so `allocations` lists the outcomes. `completed` is a specification
variable: it lists the submissions completed so far, the latest first. -/

namespace TuffXwin.Displayd
open Lib

def headlessShmBackendInstanceId : Nat := 2
def headlessShmHeaderLen : Nat := 64
def maxHeadlessPendingSubmissions : Nat := maxOutputs

structure HeadlessShmOutput where
  slotLen : Nat
  activeSlot : Nat := 0
  generation : Nat
  latest : Option FramePublication := none
  presented : Option FramePublication := none

structure HeadlessShmDisplayBackend where
  backendInstanceId : Nat := 0
  configured : OrdMap String OutputGeometry := OrdMap.empty
  outputs : OrdMap String HeadlessShmOutput := OrdMap.empty
  pending : OrdMap PresentationToken FramePublication := OrdMap.empty
  nextSequence : Nat := 0
  outputEvents : List (List BackendOutputEvent) := []
  allocations : List (Except String Unit) := []
  completed : List (PresentationToken × FramePublication) := []

namespace HeadlessShmDisplayBackend

def instanceId (b : HeadlessShmDisplayBackend) : Nat :=
  max b.backendInstanceId headlessShmBackendInstanceId

/-- The length of the payload and of a row in bytes. -/
def validateFrame (request : FramePublication) : Except String (Nat × Nat) :=
  if request.geometry.outputId ≠ request.outputId ∨
      request.geometry.outputGeneration ≠ request.outputGeneration ∨
      request.geometry.stride ≠ request.stride ∨ request.geometry.format ≠ request.format then
    .error "headless-shm frame metadata is internally inconsistent"
  else if request.geometry.width = 0 ∨ request.geometry.height = 0 then
    .error "headless-shm rejects zero-sized output"
  else if request.format ≠ wlShmFormatArgb8888 ∧ request.format ≠ wlShmFormatXrgb8888 then
    .error ("headless-shm rejects unsupported pixel format " ++ toString request.format)
  else
    match u32Checked (request.geometry.width * 4) with
    | none => .error "headless-shm row size overflow"
    | some rowBytes =>
      if request.stride < rowBytes then
        .error "headless-shm stride is smaller than the row payload"
      else
        match usizeChecked (request.stride * request.geometry.height) with
        | none => .error "headless-shm payload size overflow"
        | some payloadLen =>
          if payloadLen > maxOutputFramebufferBytes then
            .error "headless-shm frame exceeds displayd framebuffer budget"
          else
            match usizeChecked (request.geometry.width * request.geometry.height) with
            | none => .error "headless-shm pixel count overflow"
            | some expectedPixels =>
              if request.pixels.length ≠ expectedPixels then
                .error "headless-shm pixel payload length mismatch"
              else .ok (payloadLen, rowBytes)

def needsNewRegion (b : HeadlessShmDisplayBackend) (request : FramePublication)
    (slotLen : Nat) : Bool :=
  match b.outputs.get? request.outputId with
  | none => true
  | some output => output.generation ≠ request.outputGeneration || output.slotLen ≠ slotLen

/-- A new region of two slots, if the system maps one, forgets the frames of the old. -/
def allocateRegion (b : HeadlessShmDisplayBackend) (request : FramePublication)
    (slotLen : Nat) : HeadlessShmDisplayBackend × Except String Unit :=
  match usizeChecked (slotLen * 2) with
  | none => (b, .error "headless-shm region size overflow")
  | some _ =>
    match b.allocations.headD (.ok ()) with
    | .error reason => ({ b with allocations := b.allocations.tail }, .error reason)
    | .ok _ =>
      ({ b with
        allocations := b.allocations.tail
        outputs := b.outputs.insert request.outputId
          { slotLen := slotLen, generation := request.outputGeneration } }, .ok ())

/-- The inactive slot takes the frame and becomes the active one. -/
def flipSlot (request : FramePublication) (output : HeadlessShmOutput) : HeadlessShmOutput :=
  { output with
    activeSlot := 1 - output.activeSlot
    generation := request.outputGeneration
    latest := some request }

def publishSlot (b : HeadlessShmDisplayBackend) (request : FramePublication) :
    HeadlessShmDisplayBackend :=
  { b with
    outputs := b.outputs.modify request.outputId (flipSlot request)
    nextSequence := satAdd b.nextSequence 1 }

def publishAtomic (b : HeadlessShmDisplayBackend) (request : FramePublication) :
    HeadlessShmDisplayBackend × Except String Unit :=
  match validateFrame request with
  | .error reason => (b, .error reason)
  | .ok lengths =>
    match usizeChecked (headlessShmHeaderLen + lengths.1) with
    | none => (b, .error "headless-shm slot size overflow")
    | some slotLen =>
      if b.needsNewRegion request slotLen then
        match b.allocateRegion request slotLen with
        | (b, .error reason) => (b, .error reason)
        | (b, .ok _) => (b.publishSlot request, .ok ())
      else (b.publishSlot request, .ok ())

def frameBytes (frame : FramePublication) : Nat := min (frame.pixels.length * 4) u64Max

def pendingBytes (b : HeadlessShmDisplayBackend) : Nat := (b.pending.values.map frameBytes).sum

def token (b : HeadlessShmDisplayBackend) (request : FramePublication) : PresentationToken where
  backendInstanceId := b.instanceId
  sequence := b.nextSequence
  outputId := request.outputId
  outputGeneration := request.outputGeneration
  sceneGeneration := request.sceneGeneration
  frameId := request.frameId

/-- A frame waits under the token it is submitted with. -/
def notePending (b : HeadlessShmDisplayBackend) (request : FramePublication) :
    HeadlessShmDisplayBackend :=
  { b with pending := b.pending.insert (b.token request) request }

def submitFrame (b : HeadlessShmDisplayBackend) (request : FramePublication) :
    HeadlessShmDisplayBackend × Except String PresentationToken :=
  if b.pending.size ≥ maxHeadlessPendingSubmissions then
    (b, .error "headless-shm pending submission budget exhausted")
  else
    match usizeChecked (b.pendingBytes + frameBytes request) with
    | none => (b, .error "headless-shm pending byte accounting overflow")
    | some aggregate =>
      if aggregate > maxTotalFramebufferBytes then
        (b, .error "headless-shm pending byte budget exhausted")
      else
        match b.publishAtomic request with
        | (b, .error reason) => (b, .error reason)
        | (b, .ok _) => (b.notePending request, .ok (b.token request))

def retireSubmission (b : HeadlessShmDisplayBackend) (token : PresentationToken) :
    HeadlessShmDisplayBackend :=
  { b with pending := b.pending.erase token }

/-- The capture of the token's output becomes the frame. -/
def present (b : HeadlessShmDisplayBackend) (token : PresentationToken)
    (frame : FramePublication) : HeadlessShmDisplayBackend :=
  { b with
    outputs := b.outputs.modify token.outputId fun output =>
      { output with presented := some frame }
    completed := (token, frame) :: b.completed }

def completeSubmission (b : HeadlessShmDisplayBackend) (token : PresentationToken) :
    HeadlessShmDisplayBackend × Except String Unit :=
  match b.pending.get? token with
  | none => (b, .error "headless-shm completion token is unknown")
  | some frame =>
    match b.outputs.get? token.outputId with
    | none => (b.retireSubmission token, .error "headless-shm output was removed")
    | some _ => ((b.retireSubmission token).present token frame, .ok ())

def capturePublished (b : HeadlessShmDisplayBackend) (output : String) :
    Option FramePublication :=
  (b.outputs.get? output).bind (·.presented)

/-- Only a region of the new generation stays. -/
def regionStays (id : String) (outputGeneration : Nat) (id' : String)
    (output : HeadlessShmOutput) : Bool :=
  id' ≠ id || output.generation = outputGeneration

def reconfigureOutput (b : HeadlessShmDisplayBackend) (id : String) (outputGeneration : Nat) :
    HeadlessShmDisplayBackend :=
  { b with
    configured := b.configured.modify id fun geometry =>
      { geometry with outputGeneration := outputGeneration }
    outputs := b.outputs.filter (regionStays id outputGeneration)
    pending := b.pending.filter fun token _ =>
      token.outputId ≠ id || token.outputGeneration = outputGeneration }

def removeOutput (b : HeadlessShmDisplayBackend) (id : String) : HeadlessShmDisplayBackend :=
  { b with
    configured := b.configured.erase id
    outputs := b.outputs.erase id
    pending := b.pending.filter fun token _ => token.outputId ≠ id }

def noteConfigured (configured : OrdMap String OutputGeometry) :
    BackendOutputEvent → OrdMap String OutputGeometry
  | .connected _ _ _ geometry _ => configured.insert geometry.outputId geometry
  | .reconfigured _ _ _ geometry _ => configured.insert geometry.outputId geometry
  | .disabled _ id _ _ => configured.erase id
  | .disconnected _ id _ _ => configured.erase id
  | .backendReset _ _ => OrdMap.empty

def pollOutputEvents (b : HeadlessShmDisplayBackend) :
    HeadlessShmDisplayBackend × List BackendOutputEvent :=
  let events := b.outputEvents.headD []
  ({ b with
    outputEvents := b.outputEvents.tail
    configured := events.foldl noteConfigured b.configured }, events)

/-- The backend of a process that has just started. -/
structure Fresh (b : HeadlessShmDisplayBackend) : Prop where
  outputs : b.outputs = OrdMap.empty
  pending : b.pending = OrdMap.empty
  nextSequence : b.nextSequence = 0
  completed : b.completed = []

end HeadlessShmDisplayBackend

instance : DisplayBackend HeadlessShmDisplayBackend where
  pollOutputEvents b := b.pollOutputEvents
  submitFrame b frame := b.submitFrame frame
  completesImmediately _ := true
  retireSubmission b token := b.retireSubmission token
  completeSubmission b token := b.completeSubmission token
  reconfigureOutput b id generation := (b.reconfigureOutput id generation, .ok ())
  removeOutput b id := b.removeOutput id
  submit_completes _ _ := rfl

end TuffXwin.Displayd
