import TuffXwin.Common.Ipc
import TuffXwin.Lib.Json

/-! The JSON of a display command, as the derived serializers of the IPC types have
it: fields in their order, variants by kebab-case tags. -/

namespace TuffXwin
open Lib Lib.Json

def ServiceRole.asStr : ServiceRole → String
  | .displayd => "displayd"
  | .waylandd => "waylandd"
  | .compd => "compd"
  | .lockd => "lockd"
  | .sessiond => "sessiond"
  | .watchdog => "watchdog"
  | .x11Bridge => "x11bridge"

def ServiceRole.toJson : ServiceRole → Json
  | .displayd => .text "displayd"
  | .waylandd => .text "waylandd"
  | .compd => .text "compd"
  | .lockd => .text "lockd"
  | .sessiond => .text "sessiond"
  | .watchdog => .text "watchdog"
  | .x11Bridge => .text "x11bridge"

def CommitTarget.toJson : CommitTarget → Json
  | .output name => .object [("type", .text "output"), ("name", .text name)]

def FocusTarget.toJson : FocusTarget → Json
  | .surface id => .object [("type", .text "surface"), ("id", .text id)]
  | .none => .object [("type", .text "none")]

def SelectionOffer.toJson (offer : SelectionOffer) : Json :=
  .object
    [("offer_id", .text offer.offerId), ("source_id", .text offer.sourceId),
      ("owner_surface_id", .text offer.ownerSurfaceId),
      ("mime_types", list .text offer.mimeTypes), ("serial", nat offer.serial)]

def WaylandSelectionState.toJson (selection : WaylandSelectionState) : Json :=
  .object
    [("clipboard_owner", option .text selection.clipboardOwner),
      ("clipboard_payload_id", option .text selection.clipboardPayloadId),
      ("clipboard_source_serial", option nat selection.clipboardSourceSerial),
      ("clipboard_offer", option SelectionOffer.toJson selection.clipboardOffer),
      ("primary_selection_owner", option .text selection.primarySelectionOwner),
      ("primary_selection_payload_id", option .text selection.primarySelectionPayloadId),
      ("primary_selection_source_serial", option nat selection.primarySelectionSourceSerial),
      ("primary_offer", option SelectionOffer.toJson selection.primaryOffer)]

def Rect.toJson (rect : Rect) : Json :=
  .object [("x", .number rect.x), ("y", .number rect.y), ("width", nat rect.width),
    ("height", nat rect.height)]

def PixelTransportHandle.toJson (handle : PixelTransportHandle) : Json :=
  .object
    [("client_id", nat handle.clientId), ("surface_id", .text handle.surfaceId),
      ("buffer_generation", nat handle.bufferGeneration),
      ("scene_generation", nat handle.sceneGeneration)]

def PixelTransportPayload.toJson (payload : PixelTransportPayload) : Json :=
  .object
    [("handle", payload.handle.toJson), ("pixels", list (fun byte => nat byte.toNat) payload.pixels),
      ("width", nat payload.width), ("height", nat payload.height), ("stride", nat payload.stride),
      ("format", nat payload.format)]

def SurfacePlacement.toJson (placement : SurfacePlacement) : Json :=
  .object
    [("x", .number placement.x), ("y", .number placement.y), ("width", nat placement.width),
      ("height", nat placement.height), ("z", .number placement.z),
      ("visible", .bool placement.visible)]

def SurfaceSnapshot.toJson (surface : SurfaceSnapshot) : Json :=
  .object
    [("id", .text surface.id), ("app_id", .text surface.appId),
      ("placement", surface.placement.toJson),
      ("buffer_handle", option .text surface.bufferHandle),
      ("buffer_generation", nat surface.bufferGeneration),
      ("damage_rects", list Rect.toJson surface.damageRects),
      ("pixel_transport", option PixelTransportHandle.toJson surface.pixelTransport),
      ("layer_class", nat surface.layerClass),
      ("creation_sequence", nat surface.creationSequence)]

def PresentationToken.toJson (token : PresentationToken) : Json :=
  .object
    [("backend_instance_id", nat token.backendInstanceId), ("sequence", nat token.sequence),
      ("output_id", .text token.outputId), ("output_generation", nat token.outputGeneration),
      ("scene_generation", nat token.sceneGeneration), ("frame_id", nat token.frameId)]

def PublicationFailure.toJson : PublicationFailure → Json
  | .backendRejected => .text "BackendRejected"
  | .staleOutputGeneration => .text "StaleOutputGeneration"
  | .staleRetryState => .text "StaleRetryState"
  | .malformedPublicationState => .text "MalformedPublicationState"
  | .outputUnavailable => .text "OutputUnavailable"
  | .rendererRejected => .text "RendererRejected"

def PresentationCompletion.toJson : PresentationCompletion → Json
  | .presented => .object [("status", .text "presented")]
  | .failed reason => .object [("status", .text "failed"), ("reason", reason.toJson)]
  | .superseded => .object [("status", .text "superseded")]
  | .staleGeneration => .object [("status", .text "stale-generation")]
  | .unknownToken => .object [("status", .text "unknown-token")]
  | .backendUnavailable => .object [("status", .text "backend-unavailable")]

def OutputGeometry.toJson (geometry : OutputGeometry) : Json :=
  .object
    [("output_id", .text geometry.outputId), ("width", nat geometry.width),
      ("height", nat geometry.height), ("stride", nat geometry.stride),
      ("format", nat geometry.format), ("origin_x", .number geometry.originX),
      ("origin_y", .number geometry.originY),
      ("output_generation", nat geometry.outputGeneration)]

def DisplayCommand.toJson : DisplayCommand → Json
  | .getReconciliation => .object [("op", .text "get-reconciliation")]
  | .getOutputTopology => .object [("op", .text "get-output-topology")]
  | .beginReconciliation epoch =>
    .object [("op", .text "begin-reconciliation"), ("epoch", nat epoch)]
  | .reconcileScene epoch scene =>
    .object
      [("op", .text "reconcile-scene"), ("epoch", nat epoch),
        ("scene_epoch", nat scene.sceneEpoch), ("scene_generation", nat scene.sceneGeneration),
        ("target", scene.target.toJson), ("focus", scene.focus.toJson),
        ("selection", scene.selection.toJson),
        ("surfaces", list SurfaceSnapshot.toJson scene.surfaces),
        ("pixel_payloads", list PixelTransportPayload.toJson scene.pixelPayloads)]
  | .advancePresentation outputId outputGeneration nowNs tickSequence =>
    .object
      [("op", .text "advance-presentation"), ("output_id", .text outputId),
        ("output_generation", nat outputGeneration), ("now_ns", nat nowNs),
        ("tick_sequence", nat tickSequence)]
  | .completePresentation token outcome =>
    .object
      [("op", .text "complete-presentation"), ("token", token.toJson),
        ("outcome", outcome.toJson)]
  | .configureOutput geometry =>
    .object [("op", .text "configure-output"), ("geometry", geometry.toJson)]
  | .removeOutput outputId outputGeneration =>
    .object
      [("op", .text "remove-output"), ("output_id", .text outputId),
        ("output_generation", nat outputGeneration)]
  | .commitScene scene =>
    .object
      [("op", .text "commit-scene"), ("target", scene.target.toJson),
        ("focus", scene.focus.toJson), ("selection", scene.selection.toJson),
        ("surfaces", list SurfaceSnapshot.toJson scene.surfaces),
        ("pixel_payloads", list PixelTransportPayload.toJson scene.pixelPayloads),
        ("scene_epoch", nat scene.sceneEpoch), ("scene_generation", nat scene.sceneGeneration)]
  | .getSceneSnapshot output =>
    .object [("op", .text "get-scene-snapshot"), ("output", option .text output)]
  | .getPresentationFeedback commitId =>
    .object [("op", .text "get-presentation-feedback"), ("commit_id", nat commitId)]

/-- `κ` stands for the messages outside the model; none of them carries a scene. -/
inductive MessageKind (κ : Type)
  | displayCommand (command : DisplayCommand)
  | other (message : κ)
  deriving DecidableEq, Repr

structure IpcEnvelope (κ : Type) where
  source : ServiceRole
  destination : ServiceRole
  kind : MessageKind κ
  deriving DecidableEq, Repr

/-- `serde_json` for envelopes: the tag and the payload of the messages outside the
model, and what the parser makes of a text. -/
structure Serde (κ : Type) where
  otherJson : κ → String × Json
  fromText : String → Option (IpcEnvelope κ)

variable {κ : Type}

def MessageKind.toJson (S : Serde κ) : MessageKind κ → Json
  | .displayCommand command =>
    .object [("kind", .text "display-command"), ("payload", command.toJson)]
  | .other message =>
    .object [("kind", .text (S.otherJson message).1), ("payload", (S.otherJson message).2)]

def IpcEnvelope.toJson (S : Serde κ) (envelope : IpcEnvelope κ) : Json :=
  .object
    [("source", envelope.source.toJson), ("destination", envelope.destination.toJson),
      ("kind", envelope.kind.toJson S)]

def Serde.toText (S : Serde κ) (envelope : IpcEnvelope κ) : String :=
  (envelope.toJson S).compact

end TuffXwin
