import TuffXwin.Displayd.Admission

/-! What compd checks and remembers of the scenes it relays: the structural
checks on a scene, the version floor, and the marker of a scene that could not
be delivered and may come again. -/

namespace TuffXwin.Compd
open Lib

def maxRelaySurfaces : Nat := 4096
def maxRelayPixelPayloads : Nat := 4096
def maxRelayPixelBytes : Nat := 256 * 1024 * 1024
def maxRelaySinglePayloadBytes : Nat := 64 * 1024 * 1024

structure RelayResourceUsage where
  surfaces : Nat
  pixelPayloads : Nat
  pixelBytes : Nat
  deriving DecidableEq, Repr

structure CompdScene where
  targetOutput : String
  focus : FocusTarget
  selection : WaylandSelectionState
  surfaces : List SurfaceSnapshot
  sceneEpoch : Nat
  sceneGeneration : Nat
  deriving DecidableEq, Repr

structure RelayScene where
  scene : CompdScene
  pixelPayloads : List PixelTransportPayload
  deriving DecidableEq, Repr

namespace RelayScene

def version (relay : RelayScene) : SceneVersion :=
  sceneVersion relay.scene.sceneEpoch relay.scene.sceneGeneration

/-- The relay of a `CommitScene` command. -/
def ofCommit (c : SceneCommit) : RelayScene where
  scene :=
    { targetOutput := c.target.name
      focus := c.focus
      selection := c.selection
      surfaces := c.surfaces
      sceneEpoch := c.sceneEpoch
      sceneGeneration := c.sceneGeneration }
  pixelPayloads := c.pixelPayloads

/-- The fields of the command a relay is sent on with. -/
def toCommit (relay : RelayScene) : SceneCommit where
  target := .output relay.scene.targetOutput
  focus := relay.scene.focus
  selection := relay.scene.selection
  surfaces := relay.scene.surfaces
  pixelPayloads := relay.pixelPayloads
  sceneEpoch := relay.scene.sceneEpoch
  sceneGeneration := relay.scene.sceneGeneration

end RelayScene

structure PendingRelayScene where
  version : SceneVersion
  usage : RelayResourceUsage
  reason : String

structure CompdRelayState where
  lastForwardedEpoch : Nat := 0
  lastForwardedGeneration : Nat := 0
  pending : Option PendingRelayScene := none
  acceptedCount : Nat := 0
  deferredCount : Nat := 0
  supersededCount : Nat := 0

def relayResourceUsage (relay : RelayScene) : RelayResourceUsage where
  surfaces := relay.scene.surfaces.length
  pixelPayloads := relay.pixelPayloads.length
  pixelBytes := relay.pixelPayloads.foldl (fun total p => satAdd total p.pixels.length) 0

namespace CompdRelayState

def forwarded (s : CompdRelayState) : SceneVersion :=
  sceneVersion s.lastForwardedEpoch s.lastForwardedGeneration

def versionFloor (s : CompdRelayState) : SceneVersion :=
  match s.pending with
  | none => s.forwarded
  | some pending => if s.forwarded < pending.version then pending.version else s.forwarded

def shouldRejectVersion (s : CompdRelayState) (incoming : SceneVersion) : Bool :=
  if s.versionFloor = sceneVersion 0 0 then false
  else if incoming = sceneVersion 0 0 then true
  else if incoming < s.versionFloor then true
  else if incoming = s.versionFloor then
    ((s.pending.map fun pending => decide (pending.version ≠ incoming)).getD true)
  else false

def noteForwarded (s : CompdRelayState) (relay : RelayScene) : CompdRelayState :=
  let advances := relay.version ≠ sceneVersion 0 0 ∧ s.forwarded ≤ relay.version
  { s with
    lastForwardedEpoch := if advances then relay.scene.sceneEpoch else s.lastForwardedEpoch
    lastForwardedGeneration :=
      if advances then relay.scene.sceneGeneration else s.lastForwardedGeneration
    pending := s.pending.filter fun pending => !decide (pending.version ≤ relay.version)
    acceptedCount := satAdd s.acceptedCount 1 }

def deferLatest (s : CompdRelayState) (relay : RelayScene) (reason : String) :
    CompdRelayState :=
  let replace := (s.pending.map fun pending => decide (pending.version ≤ relay.version)).getD true
  { s with
    pending :=
      if replace then some ⟨relay.version, relayResourceUsage relay, reason⟩ else s.pending
    supersededCount :=
      if replace && s.pending.isSome then satAdd s.supersededCount 1 else s.supersededCount
    deferredCount := satAdd s.deferredCount 1 }

theorem forwarded_noteForwarded (s : CompdRelayState) (relay : RelayScene) :
    (s.noteForwarded relay).forwarded =
      if relay.version ≠ sceneVersion 0 0 ∧ s.forwarded ≤ relay.version then relay.version
      else s.forwarded := by
  unfold noteForwarded forwarded
  dsimp only
  split_ifs
  · rfl
  · rfl

end CompdRelayState

structure RelaySurfaces where
  surfaceIds : OrdSet String := OrdMap.empty
  expectedHandles : OrdSet PixelTransportHandle := OrdMap.empty

def relayHandle (sceneGeneration : Nat) (handles : OrdSet PixelTransportHandle)
    (surface : SurfaceSnapshot) : Except String (OrdSet PixelTransportHandle) :=
  match surface.pixelTransport with
  | none => .ok handles
  | some handle =>
    if handle.surfaceId ≠ surface.id then
      .error ("PixelTransport surface identity mismatch for " ++ surface.id)
    else if sceneGeneration ≠ 0 ∧ handle.sceneGeneration ≠ sceneGeneration then
      .error ("PixelTransport scene generation mismatch for " ++ surface.id)
    else if surface.bufferGeneration ≠ 0 ∧
        handle.bufferGeneration ≠ surface.bufferGeneration then
      .error ("PixelTransport buffer generation mismatch for " ++ surface.id)
    else .ok (handles.insert handle ())

def relaySurface (sceneGeneration : Nat) (acc : RelaySurfaces) (surface : SurfaceSnapshot) :
    Except String RelaySurfaces :=
  if surface.id = "" ∨ acc.surfaceIds.contains surface.id then
    .error "scene contains empty or duplicate surface identity"
  else if surface.placement.visible ∧
      (surface.placement.width = 0 ∨ surface.placement.height = 0) then
    .error ("visible surface " ++ surface.id ++ " has zero dimensions")
  else if surface.placement.x + surface.placement.width > i32Max ∨
      surface.placement.y + surface.placement.height > i32Max then
    .error ("surface " ++ surface.id ++ " placement overflows compositor coordinates")
  else
    (relayHandle sceneGeneration acc.expectedHandles surface).map fun handles =>
      ⟨acc.surfaceIds.insert surface.id (), handles⟩

/-- The checks on one payload; the accumulator holds the handles seen. -/
def relayPayload (sceneGeneration : Nat) (acc : RelaySurfaces)
    (payloadHandles : OrdSet PixelTransportHandle) (payload : PixelTransportPayload) :
    Except String (OrdSet PixelTransportHandle) :=
  if payloadHandles.contains payload.handle then
    .error ("duplicate PixelTransport payload handle for " ++ payload.handle.surfaceId)
  else if !acc.surfaceIds.contains payload.handle.surfaceId then
    .error ("orphan PixelTransport payload for " ++ payload.handle.surfaceId)
  else if !acc.expectedHandles.contains payload.handle then
    .error "PixelTransport payload does not match canonical surface handle"
  else if sceneGeneration ≠ 0 ∧ payload.handle.sceneGeneration ≠ sceneGeneration then
    .error "PixelTransport payload generation does not match scene generation"
  else if payload.width = 0 ∨ payload.height = 0 then
    .error "PixelTransport payload dimensions must be non-zero"
  else if payload.width * 4 > u32Max then .error "PixelTransport stride overflow"
  else if payload.stride < payload.width * 4 then
    .error "PixelTransport payload stride is smaller than 32-bit pixel width"
  else if payload.stride * payload.height > u64Max then
    .error "PixelTransport byte length overflow"
  else if payload.stride * payload.height ≠ payload.pixels.length then
    .error ("PixelTransport payload byte length mismatch for " ++ payload.handle.surfaceId ++
      ": " ++ toString payload.pixels.length ++ " != " ++
      toString (payload.stride * payload.height))
  else if payload.stride * payload.height > maxRelaySinglePayloadBytes then
    .error ("single PixelTransport payload budget exceeded: " ++
      toString (payload.stride * payload.height) ++ " > " ++
      toString maxRelaySinglePayloadBytes)
  else .ok (payloadHandles.insert payload.handle ())

def validateRelayScene (relay : RelayScene) (requireTransportPayloads : Bool) :
    Except String RelayResourceUsage :=
  let usage := relayResourceUsage relay
  if relay.scene.targetOutput = "" then .error "scene target output must not be empty"
  else if (relay.scene.sceneEpoch = 0) ≠ (relay.scene.sceneGeneration = 0) then
    .error "scene epoch and generation must both be zero or both be non-zero"
  else if usage.surfaces > maxRelaySurfaces then
    .error ("compd surface budget exceeded: " ++ toString usage.surfaces ++ " > " ++
      toString maxRelaySurfaces)
  else if usage.pixelPayloads > maxRelayPixelPayloads then
    .error ("compd PixelTransport payload budget exceeded: " ++ toString usage.pixelPayloads ++
      " > " ++ toString maxRelayPixelPayloads)
  else if usage.pixelBytes > maxRelayPixelBytes then
    .error ("compd PixelTransport byte budget exceeded: " ++ toString usage.pixelBytes ++
      " > " ++ toString maxRelayPixelBytes)
  else
    relay.scene.surfaces.foldlM (relaySurface relay.scene.sceneGeneration) {} >>= fun acc =>
    Displayd.checkFocus acc.surfaceIds relay.scene.focus >>= fun _ =>
    checkAll (Displayd.checkOwner acc.surfaceIds)
      (Displayd.selectionOwners relay.scene.selection) >>= fun _ =>
    relay.pixelPayloads.foldlM (relayPayload relay.scene.sceneGeneration acc) OrdMap.empty >>=
      fun payloadHandles =>
    if requireTransportPayloads && !acc.expectedHandles.subset payloadHandles then
      .error "canonical surface references PixelTransport payload that is not attached"
    else .ok usage

/-- `canonicalize_relay_scene`: displayd's surface order, payloads by handle. -/
def canonicalizeRelayScene (relay : RelayScene) : RelayScene where
  scene := { relay.scene with surfaces := Displayd.canonicalizeSurfaces relay.scene.surfaces }
  pixelPayloads :=
    relay.pixelPayloads.insertionSort fun left right => left.handle ≤ right.handle

end TuffXwin.Compd
