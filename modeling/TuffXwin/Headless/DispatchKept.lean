import TuffXwin.Headless.ExtensionKept
import TuffXwin.Headless.LayerShellKept
import TuffXwin.Headless.SeatKept
import TuffXwin.Headless.TextInputKept

/-! A message that is dispatched keeps every stable invariant, whatever object it is for. What
an invariant asks of requests beyond that is gathered here, one condition an interface. -/

namespace TuffXwin.Headless
open Lib
open WaylandWire (WireError WireArg WaylandMessage readU32 displayId encodeEvent deleteIdEvent)

variable {interface : Interface}
variable {payload : List UInt8} {fds : List Nat} {args : List WireArg}

/-- What a request for an object of the interface needs. -/
def Admits (terms : Terms) (core : HeadlessWireCore) (interface : Interface) (r : Request) :
    Prop :=
  match interface with
  | .wlRegistry => OutputBehind core r → terms.mayBind
  | .wlCompositor => r.opcode = 0 → terms.mayCreate core.frame (readU32 r.payload)
  | .wlSurface => SurfaceAdmitted terms core r
  | .wlSeat => r.opcode = 0 → terms.mayPoint core.frame
  | .wlDataDevice =>
    (r.opcode = 0 → DragAdmitted terms.level terms.safe core (readU32 r.payload)) ∧
      (r.opcode = 1 → SelectionAdmitted terms.level terms.safe core r.id (readU32 r.payload))
  | .wlDataOffer => r.opcode ≠ 2 → OfferAdmitted terms.level core r
  | .zwpTextInputV3 => r.opcode = 2 ∨ r.opcode = 7 → Unheard terms.level core r.id
  | .zwpInputMethodV2 =>
    (terms.safe → core.inputMethod.methods.contains r.id = true) ∧
      (r.opcode = 1 ∨ r.opcode = 2 → TextFits terms.level r.payload 0)
  | .zxdgOutputManagerV1 => DescriptionFits terms.level core (readU32 (r.payload.drop 4))
  | .zwlrScreencopyManagerV1 => terms.safe → r.opcode = 1 → RegionFits r
  | .wlSubcompositor => r.opcode = 1 → MayNest terms core (readU32 (r.payload.drop 4))
  | .xdgWmBase => r.opcode = 2 → MayClaim terms core (readU32 (r.payload.drop 4))
  | .xdgSurface => r.opcode = 1 → terms.mayConfigure
  | .zwlrLayerShellV1 =>
    (terms.safe → r.opcode = 0 → NewPlacementFits core r) ∧
      (r.opcode = 0 → MayClaim terms core (readU32 (r.payload.drop 4)))
  | .zwlrLayerSurfaceV1 => terms.safe → ∀ f, placementChange r = some f →
    core.layerShell.ChangeFits r.id f core.output
  | _ => True

/-- The ids that data exchange sends events to stand for nothing that events are kept off. -/
structure Spared (level : Level) (core : HeadlessWireCore) (interface : Interface) (r : Request) :
    Prop where
  devices : interface = .wlDataDevice → r.opcode = 1 → ∀ seatId,
    core.dataDevice.devices.get? r.id = some seatId →
      ∀ device ∈ core.devicesOfSeat seatId, Target level core .wlDataDevice device
  sources : interface = .wlDataOffer → r.opcode ≠ 2 → ∀ source,
    core.offerSource r.id = some source → Target level core .wlDataSource source

/-- What remains to be asked where neither declarations nor safety are. -/
theorem Spared.admits {terms : Terms} {core : HeadlessWireCore} {r : Request}
    {banned : Interface → Bool} (h : Spared terms.level core interface r)
    (hlevel : terms.level = .off banned) (hsafe : ¬ terms.safe)
    (hbind : interface = .wlRegistry → OutputBehind core r → terms.mayBind)
    (hcreate : interface = .wlCompositor → r.opcode = 0 →
      terms.mayCreate core.frame (readU32 r.payload))
    (hdestroy : interface = .wlSurface → r.opcode = 0 → MayDestroy terms core r.id)
    (hclaim : (interface = .xdgWmBase ∧ r.opcode = 2) ∨
      (interface = .zwlrLayerShellV1 ∧ r.opcode = 0) →
        MayClaim terms core (readU32 (r.payload.drop 4)))
    (hnest : interface = .wlSubcompositor → r.opcode = 1 →
      MayNest terms core (readU32 (r.payload.drop 4)))
    (hpoint : interface = .wlSeat → r.opcode = 0 → terms.mayPoint core.frame)
    (hconfigure : interface = .xdgSurface → r.opcode = 1 → terms.mayConfigure) :
    Admits terms core interface r := by
  have hundeclared : terms.level ≠ .declared := by simp [hlevel]
  cases interface with
  | wlRegistry => exact hbind rfl
  | wlCompositor => exact hcreate rfl
  | wlSurface => exact ⟨hdestroy rfl, fun _ hon => absurd hon hsafe⟩
  | wlSeat => exact hpoint rfl
  | wlDataDevice =>
    refine ⟨fun _ => ⟨fun hon => absurd hon hundeclared, fun hon => absurd hon hsafe⟩, ?_⟩
    exact fun hopcode => ⟨h.devices rfl hopcode, fun hon => absurd hon hundeclared,
      fun hon => absurd hon hsafe⟩
  | wlDataOffer =>
    exact fun hopcode => ⟨h.sources rfl hopcode, fun _ hon => absurd hon hundeclared,
      fun _ hon => absurd hon hundeclared⟩
  | zwpTextInputV3 => exact fun _ hon => absurd hon hundeclared
  | zwpInputMethodV2 =>
    exact ⟨fun hon => absurd hon hsafe, fun _ hon => absurd hon hundeclared⟩
  | zxdgOutputManagerV1 => exact fun _ _ hon => absurd hon hundeclared
  | zwlrScreencopyManagerV1 => exact fun hon => absurd hon hsafe
  | wlSubcompositor => exact hnest rfl
  | xdgWmBase => exact fun hopcode => hclaim (.inl ⟨rfl, hopcode⟩)
  | xdgSurface => exact hconfigure rfl
  | zwlrLayerShellV1 =>
    exact ⟨fun hon => absurd hon hsafe, fun hopcode => hclaim (.inr ⟨rfl, hopcode⟩)⟩
  | zwlrLayerSurfaceV1 => exact fun hon => absurd hon hsafe
  | _ => trivial

section Dispatch

variable {terms : Terms} {J : Frame → Prop} {core : HeadlessWireCore} {r : Request}
  {spec : MessageSpec} {version : Nat}

theorem handleRequest_kept (hJ : Stable terms J) (h : Holds J none core)
    (hobject : core.object? r.id = some ⟨interface, version⟩) (hr : Decoded interface r spec)
    (hadmits : Admits terms core interface r) : Kept terms J (handleRequest interface r) core := by
  cases interface with
  | wlDisplay => exact displayRequest_kept hJ h
  | wlRegistry => exact registryRequest_kept hJ h hadmits
  | wlCompositor => exact compositorRequest_kept hJ h hadmits
  | wlSurface => exact surfaceRequest_kept hJ h hobject hadmits
  | wlShm => exact shmRequest_kept hJ h
  | wlShmPool => exact shmPoolRequest_kept hJ h hobject
  | wlBuffer => exact bufferRequest_kept hJ h hobject
  | wlSeat => exact seatRequest_kept hJ h hadmits
  | wlPointer => exact pointerRequest_kept hJ h hobject
  | wlDataDeviceManager => exact dataDeviceManagerRequest_kept hJ h hr
  | wlDataSource => exact dataSourceRequest_kept hJ h hobject hr
  | wlDataDevice => exact dataDeviceRequest_kept hJ h hobject hr hadmits.1 hadmits.2
  | wlDataOffer => exact dataOfferRequest_kept hJ h hobject hr hadmits
  | wlSubcompositor => exact subcompositorRequest_kept hJ h hobject hr hadmits
  | wlSubsurface => exact subsurfaceRequest_kept hJ h hobject hr
  | xdgWmBase => exact xdgWmBaseRequest_kept hJ h hr hadmits
  | xdgPositioner => exact xdgPositionerRequest_kept hJ h hobject hr
  | xdgSurface => exact xdgSurfaceRequest_kept hJ h hobject hr hadmits
  | xdgToplevel => exact xdgToplevelRequest_kept hJ h hobject
  | xdgPopup => exact xdgPopupRequest_kept hJ h hobject
  | zwpTextInputManagerV3 => exact textInputManagerRequest_kept hJ h hr
  | zwpTextInputV3 => exact textInputRequest_kept hJ h hobject hr hadmits
  | zwpInputMethodManagerV2 => exact inputMethodManagerRequest_kept hJ h hr
  | zwpInputMethodV2 => exact inputMethodRequest_kept hJ h hr hadmits.1 hadmits.2
  | zwpInputPopupSurfaceV2 => exact inputPopupSurfaceRequest_kept hJ h hobject
  | wpViewporter => exact viewporterRequest_kept hJ h hobject hr
  | wpViewport => exact viewportRequest_kept hJ h hobject hr
  | wpFractionalScaleManagerV1 => exact fractionalScaleManagerRequest_kept hJ h hobject hr
  | wpFractionalScaleV1 => exact fractionalScaleRequest_kept hJ h hobject
  | zxdgDecorationManagerV1 => exact decorationManagerRequest_kept hJ h hobject hr
  | zxdgToplevelDecorationV1 => exact toplevelDecorationRequest_kept hJ h hobject hr
  | wpPresentation => exact presentationRequest_kept hJ h hobject hr
  | wpPresentationFeedback => exact presentationFeedbackRequest_kept h
  | zxdgOutputManagerV1 => exact xdgOutputManagerRequest_kept hJ h hobject hr hadmits
  | zxdgOutputV1 => exact xdgOutputRequest_kept hJ h hobject
  | zwlrOutputManagerV1 => exact outputManagerRequest_kept hJ h hr
  | zwlrOutputConfigurationV1 => exact outputConfigurationRequest_kept hJ h hobject hr
  | zwlrOutputConfigurationHeadV1 => exact configurationHeadRequest_kept h
  | zwlrScreencopyManagerV1 => exact screencopyManagerRequest_kept hJ h hobject hr hadmits
  | zwlrScreencopyFrameV1 => exact screencopyFrameRequest_kept hJ h hobject hr
  | extImageCopyCaptureManagerV1 => exact imageCopyCaptureManagerRequest_kept hJ h hobject hr
  | extImageCopyCaptureSessionV1 => exact imageCopyCaptureSessionRequest_kept hJ h hobject hr
  | extImageCopyCaptureFrameV1 => exact imageCopyCaptureFrameRequest_kept hJ h hobject
  | zwlrLayerShellV1 => exact layerShellRequest_kept hJ h hobject hadmits.1 hadmits.2
  | zwlrLayerSurfaceV1 => exact layerSurfaceRequest_kept hJ h hobject hadmits
  | zwpIdleInhibitManagerV1 => exact idleInhibitManagerRequest_kept hJ h hobject
  | zwpIdleInhibitorV1 => exact idleInhibitorRequest_kept hJ h hobject
  | zwpRelativePointerManagerV1 => exact relativePointerManagerRequest_kept hJ h hobject
  | zwpRelativePointerV1 => exact relativePointerRequest_kept hJ h hobject
  | zwpPointerConstraintsV1 => exact pointerConstraintsRequest_kept hJ h hobject
  | zwpLockedPointerV1 => exact lockedPointerRequest_kept hJ h hobject
  | zwpConfinedPointerV1 => exact confinedPointerRequest_kept hJ h hobject
  | _ => exact kept_unhandled

/-! The dispatch. -/

/-- The core as a dispatch readies it, with the descriptors that wait. -/
def HeadlessWireCore.readied (core : HeadlessWireCore) (fds : List Nat) : HeadlessWireCore :=
  { core with eventsOut := [], fdQueue := fds }

def requestOf (message : WaylandMessage) (args : List WireArg) (environment : Environment) :
    Request where
  id := message.header.objectId
  opcode := message.header.opcode
  payload := message.payload
  args := args
  environment := environment

theorem announceDeletedIds_kept (hJ : Stable terms J) (h : Holds J none core) :
    Kept terms J announceDeletedIds core := by
  refine fun _ => ends_bind.mpr (ends_get.mpr (ends_bind.mpr (ends_set.mpr (ends_modify.mpr ?_))))
  refine ⟨?_, ?_⟩
  · rw [anchors_foldl_pushed]
    exact h.anchored
  · rw [frame_foldl_pushed]
    exact hJ.announced core.frame h.kept

theorem requestSpec_eq_ok {opcode : Nat} (h : requestSpec interface opcode = .ok spec) :
    interface.request? opcode = some spec := by
  unfold requestSpec at h
  unfold Interface.request?
  split at h
  · cases h
  · rename_i declared hdeclared
    rw [hdeclared]
    split at h
    · cases h
    · rename_i request hrequest
      obtain rfl := Except.ok.inj h
      exact hrequest

theorem decodeRequest_eq_ok (h : decodeRequest payload spec fds = .ok args) :
    decodeArguments payload spec (if fds = [] then none else some fds.length) = .ok args := by
  unfold decodeRequest at h
  split at h
  · rename_i decoded hdecoded
    obtain rfl := Except.ok.inj h
    exact hdecoded
  · cases h

theorem decodeArguments_eq_ok {fds : Option Nat} (h : decodeArguments payload spec fds = .ok args) :
    ∃ stop, decodeArgumentsFrom payload fds spec.args 0 0 = .ok (args, stop) := by
  unfold decodeArguments at h
  cases hdecode : decodeArgumentsFrom payload fds spec.args 0 0 with
  | error _ =>
    rw [hdecode] at h
    cases h
  | ok decoded =>
    rw [hdecode] at h
    obtain rfl := Except.ok.inj h
    exact ⟨decoded.2, rfl⟩

theorem dispatchWithFds_ends (hJ : Stable terms J) {message : WaylandMessage}
    {environment : Environment} (hleft : Left terms J core) (h : Holds J none (core.readied fds))
    (hadmits : ∀ object args, core.object? message.header.objectId = some object →
      Admits terms (core.readied fds) object.interface (requestOf message args environment)) :
    Ends (Tolerated terms.safe (Left terms J)) (dispatchWithFds message fds environment) core
      fun events core' => Holds J none core' ∧ events = core'.eventsOut := by
  refine ends_bind.mpr ((ends_getObject hleft).mpr fun object hobject => ends_bind.mpr ?_)
  refine (ends_lift hleft).mpr ⟨fun spec hspec => ?_, fun _ => requestSpec_calm _ _⟩
  refine ends_bind.mpr ((ends_lift hleft).mpr ⟨fun args hargs => ?_, fun _ => ?_⟩)
  · refine ends_bind.mpr ((ends_require hleft).mpr fun _ => ends_bind.mpr (ends_modify.mpr ?_))
    obtain ⟨stop, hstop⟩ := decodeArguments_eq_ok (decodeRequest_eq_ok hargs)
    have hr : Decoded object.interface (requestOf message args environment) spec :=
      ⟨requestSpec_eq_ok hspec, _, stop, hstop⟩
    have hhandled : Kept terms J (handleRequest object.interface
        (requestOf message args environment)) (core.readied fds) :=
      handleRequest_kept hJ h hobject hr (hadmits object args hobject)
    refine Ends.then (hhandled h) fun _ core₁ h₁ => ?_
    refine Ends.then (announceDeletedIds_kept hJ h₁ h₁) fun _ core₂ h₂ => ?_
    exact ends_bind.mpr (ends_get.mpr (ends_pure.mpr ⟨h₂, rfl⟩))
  · exact decodeRequest_calm _ _ _

end Dispatch

end TuffXwin.Headless
