import Mathlib.Data.List.Sort
import TuffXwin.Common.PixelTransport

/-! The canonical scene of waylandd: the surfaces of every client under one
generation, the commit that waits to be retried, and what was presented last. The
functions here run under the scene lock; between them other clients run. -/

namespace TuffXwin.Waylandd
open Lib

variable {surfaces : List SurfaceSnapshot} {payloads : List PixelTransportPayload}
def maxSceneSurfaces : Nat := 4096
def maxScenePixelPayloads : Nat := maxSceneSurfaces
def maxScenePixelBytes : Nat := 256 * 1024 * 1024
def maxSinglePixelPayloadBytes : Nat := 64 * 1024 * 1024

/-- Milliseconds. -/
def sceneRetryInitial : Nat := 250
def sceneRetryMax : Nat := 2000

structure SceneResourceUsage where
  surfaces : Nat
  pixelPayloads : Nat
  pixelBytes : Nat
  deriving DecidableEq, Repr

variable {usage : SceneResourceUsage}

def sceneResourceUsage (surfaces : List SurfaceSnapshot)
    (pixelPayloads : List PixelTransportPayload) : SceneResourceUsage where
  surfaces := surfaces.length
  pixelPayloads := pixelPayloads.length
  pixelBytes := pixelPayloads.foldl (fun total p => satAdd total p.pixels.length) 0

structure SceneIdentities where
  surfaceIds : OrdSet String := OrdMap.empty
  surfaceHandles : OrdSet PixelTransportHandle := OrdMap.empty

/-- The checks on one surface of `validate_scene_budget`. -/
def budgetSurface (seen : SceneIdentities) (surface : SurfaceSnapshot) :
    Except String SceneIdentities :=
  if surface.id = "" ∨ seen.surfaceIds.contains surface.id then
    .error "scene contains empty or duplicate surface identity"
  else
    match surface.pixelTransport with
    | none => .ok { seen with surfaceIds := seen.surfaceIds.insert surface.id () }
    | some handle =>
      if seen.surfaceHandles.contains handle then
        .error ("duplicate PixelTransport surface handle for " ++ surface.id)
      else
        .ok ⟨seen.surfaceIds.insert surface.id (), seen.surfaceHandles.insert handle ()⟩

/-- The checks on one payload; the accumulator holds the handles seen. -/
def budgetPayload (surfaceHandles payloadHandles : OrdSet PixelTransportHandle)
    (payload : PixelTransportPayload) : Except String (OrdSet PixelTransportHandle) :=
  if payload.pixels.length > maxSinglePixelPayloadBytes then
    .error ("single PixelTransport payload budget exceeded: " ++
      toString payload.pixels.length ++ " > " ++ toString maxSinglePixelPayloadBytes ++
      " for " ++ payload.handle.surfaceId)
  else if payload.stride * payload.height > u64Max then
    .error "PixelTransport payload dimensions overflow"
  else if payload.stride * payload.height ≠ payload.pixels.length then
    .error ("PixelTransport payload size mismatch for " ++ payload.handle.surfaceId ++
      ": bytes=" ++ toString payload.pixels.length ++ " expected=" ++
      toString (payload.stride * payload.height))
  else if payload.width > 0 ∧ payload.stride < min (payload.width * 4) u32Max then
    .error ("PixelTransport stride too small for " ++ payload.handle.surfaceId ++ ": stride=" ++
      toString payload.stride ++ " width=" ++ toString payload.width)
  else if payloadHandles.contains payload.handle then
    .error ("duplicate PixelTransport payload handle for " ++ payload.handle.surfaceId)
  else if !surfaceHandles.contains payload.handle then
    .error ("orphan PixelTransport payload for " ++ payload.handle.surfaceId)
  else .ok (payloadHandles.insert payload.handle ())

def validateSceneBudget (surfaces : List SurfaceSnapshot)
    (pixelPayloads : List PixelTransportPayload) : Except String SceneResourceUsage :=
  let usage := sceneResourceUsage surfaces pixelPayloads
  if usage.surfaces > maxSceneSurfaces then
    .error ("scene surface budget exceeded: " ++ toString usage.surfaces ++ " > " ++
      toString maxSceneSurfaces)
  else if usage.pixelPayloads > maxScenePixelPayloads then
    .error ("scene PixelTransport payload budget exceeded: " ++ toString usage.pixelPayloads ++
      " > " ++ toString maxScenePixelPayloads)
  else
    surfaces.foldlM budgetSurface {} >>= fun seen =>
    pixelPayloads.foldlM (budgetPayload seen.surfaceHandles) OrdMap.empty >>=
      fun payloadHandles =>
    if !seen.surfaceHandles.subset payloadHandles then
      .error "canonical surface references PixelTransport payload that is not attached"
    else if usage.pixelBytes > maxScenePixelBytes then
      .error ("scene PixelTransport byte budget exceeded: " ++ toString usage.pixelBytes ++
        " > " ++ toString maxScenePixelBytes)
    else .ok usage

/-- The parts of an admission that succeeded. -/
theorem validateSceneBudget_parts (h : validateSceneBudget surfaces payloads = .ok usage) :
    payloads.length ≤ maxScenePixelPayloads ∧
      (sceneResourceUsage surfaces payloads).pixelBytes ≤ maxScenePixelBytes ∧
      ∃ seen payloadHandles, surfaces.foldlM budgetSurface {} = .ok seen ∧
        payloads.foldlM (budgetPayload seen.surfaceHandles) OrdMap.empty = .ok payloadHandles ∧
        seen.surfaceHandles.subset payloadHandles = true := by
  unfold validateSceneBudget at h
  dsimp only at h
  by_cases hsurfaces : (sceneResourceUsage surfaces payloads).surfaces > maxSceneSurfaces
  · rw [if_pos hsurfaces] at h
    cases h
  rw [if_neg hsurfaces] at h
  by_cases hcount : (sceneResourceUsage surfaces payloads).pixelPayloads > maxScenePixelPayloads
  · rw [if_pos hcount] at h
    cases h
  rw [if_neg hcount] at h
  obtain ⟨seen, hseen, h⟩ := bind_eq_ok.mp h
  obtain ⟨handles, hpayloads, h⟩ := bind_eq_ok.mp h
  split_ifs at h with hsubset hbytes
  exact ⟨Nat.le_of_not_lt hcount, Nat.le_of_not_lt hbytes, seen, handles, hseen, hpayloads,
    by simpa using hsubset⟩

theorem budgetSurfaces_handles {seen : SceneIdentities}
    (h : surfaces.foldlM budgetSurface {} = .ok seen) (handle : PixelTransportHandle) :
    seen.surfaceHandles.contains handle = true ↔
      ∃ surface ∈ surfaces, surface.pixelTransport = some handle := by
  refine foldlM_prefix (fun done seen => seen.surfaceHandles.contains handle = true ↔
    ∃ surface ∈ done, surface.pixelTransport = some handle) ?_ (by simp [OrdMap.contains]) h
  intro done seen surface next hdone hstep
  simp only [List.mem_append, List.mem_singleton, or_and_right, exists_or, exists_eq_left]
  rw [← hdone]
  unfold budgetSurface at hstep
  split_ifs at hstep with hid
  cases htransport : surface.pixelTransport with
  | none =>
    simp only [htransport, Except.ok.injEq] at hstep
    simp [← hstep]
  | some own =>
    simp only [htransport] at hstep
    split_ifs at hstep with hseen
    cases hstep
    rw [OrdSet.contains_insert, Option.some.injEq]
    tauto

theorem budgetPayloads_handles {surfaceHandles payloadHandles : OrdSet PixelTransportHandle}
    (h : payloads.foldlM (budgetPayload surfaceHandles) OrdMap.empty = .ok payloadHandles)
    (handle : PixelTransportHandle) :
    (payloadHandles.contains handle = true ↔ ∃ p ∈ payloads, p.handle = handle) ∧
      ((∃ p ∈ payloads, p.handle = handle) → surfaceHandles.contains handle = true) := by
  refine foldlM_prefix (fun done handles =>
    (handles.contains handle = true ↔ ∃ p ∈ done, p.handle = handle) ∧
      ((∃ p ∈ done, p.handle = handle) → surfaceHandles.contains handle = true)) ?_
    (by simp [OrdMap.contains]) h
  intro done handles p next hdone hstep
  simp only [List.mem_append, List.mem_singleton, or_and_right, exists_or, exists_eq_left]
  unfold budgetPayload at hstep
  split_ifs at hstep with h1 h2 h3 h4 h5 h6
  cases hstep
  rw [OrdSet.contains_insert, hdone.1, eq_comm (a := handle)]
  refine ⟨or_comm, ?_⟩
  rintro (hold | rfl)
  · exact hdone.2 hold
  · simpa using h6

/-- An admitted scene refers to exactly the payloads attached to it. -/
theorem validateSceneBudget_handles (h : validateSceneBudget surfaces payloads = .ok usage)
    (handle : PixelTransportHandle) :
    (∃ surface ∈ surfaces, surface.pixelTransport = some handle) ↔
      ∃ p ∈ payloads, p.handle = handle := by
  obtain ⟨-, -, seen, handles, hseen, hpayloads, hsubset⟩ := validateSceneBudget_parts h
  have hpayload := budgetPayloads_handles hpayloads handle
  rw [← budgetSurfaces_handles hseen handle]
  constructor
  · intro hmem
    exact hpayload.1.mp (OrdSet.subset_iff.mp hsubset handle hmem)
  · exact hpayload.2

structure PendingCanonicalCommit where
  generation : Nat
  surfaces : List SurfaceSnapshot
  reason : String

structure CanonicalSceneState where
  generation : Nat := 0
  clients : OrdMap Nat (List SurfaceSnapshot) := OrdMap.empty
  pending : Option PendingCanonicalCommit := none
  lastPresentedGeneration : Nat := 0
  lastPresentation : Option DisplayEvent := none
  retryDelay : Nat := sceneRetryInitial
  nextRetryAt : Option Nat := none

inductive CommitProductionSceneError
  | recoverable (error : String)
  | fatal (error : String)
  deriving DecidableEq, Repr

def CommitProductionSceneError.toText : CommitProductionSceneError → String
  | .recoverable error => "recoverable scene transport failure: " ++ error
  | .fatal error => "scene publication failure: " ++ error

def sceneOrderKey (s : SurfaceSnapshot) : Nat ×ₗ Int ×ₗ Nat ×ₗ String :=
  toLex (s.layerClass, toLex (s.placement.z, toLex (s.creationSequence, s.id)))

/-- Sort, and make the place in the order the new `z`. A scene is of at most
`MAX_SCENE_SURFACES` surfaces, so the cast of a place to `i32` keeps it. -/
def orderSceneSurfaces (surfaces : List SurfaceSnapshot) : List SurfaceSnapshot :=
  (surfaces.insertionSort fun left right => sceneOrderKey left ≤ sceneOrderKey right).mapIdx
    fun z surface => { surface with placement := { surface.placement with z := z } }

def canonicalSceneSurfacesFrom (scene : CanonicalSceneState) : Nat × List SurfaceSnapshot :=
  (scene.generation, orderSceneSurfaces scene.clients.values.flatten)

def stampSurface (sceneGeneration : Nat) (surface : SurfaceSnapshot) : SurfaceSnapshot :=
  { surface with
    pixelTransport := surface.pixelTransport.map fun handle =>
      { handle with sceneGeneration := sceneGeneration } }

def stampPayload (sceneGeneration : Nat) (payload : PixelTransportPayload) :
    PixelTransportPayload :=
  { payload with handle := { payload.handle with sceneGeneration := sceneGeneration } }

/-- The `Debug` text of a handle and of a store error. -/
def debugHandle (handle : PixelTransportHandle) : String :=
  "PixelTransportHandle \x7b client_id: " ++ toString handle.clientId ++ ", surface_id: " ++
    handle.surfaceId.quote ++ ", buffer_generation: " ++ toString handle.bufferGeneration ++
    ", scene_generation: " ++ toString handle.sceneGeneration ++ " \x7d"

def debugPixelTransportError : PixelTransportError → String
  | .staleGeneration current incoming =>
    "StaleGeneration \x7b current: " ++ debugHandle current ++ ", incoming: " ++
      debugHandle incoming ++ " \x7d"
  | .invalidPayload reason => "InvalidPayload \x7b reason: " ++ reason.quote ++ " \x7d"

def replaceClientPixelPayloads (store : PixelTransportStore) (clientId : Nat)
    (payloads : List PixelTransportPayload) : Except String PixelTransportStore :=
  let incomingBytes := (payloads.map fun p => p.pixels.length).sum
  let nextTotalBytes := store.totalBytes - store.bytesForClient clientId + incomingBytes
  let nextPayloadCount := store.len - store.lenForClient clientId + payloads.length
  if incomingBytes > u64Max then
    .error "PixelTransport replacement byte accounting overflow"
  else if nextTotalBytes > u64Max then .error "PixelTransport retained byte accounting overflow"
  else if nextTotalBytes > maxScenePixelBytes then
    .error ("retained PixelTransport byte budget exceeded: " ++ toString nextTotalBytes ++
      " > " ++ toString maxScenePixelBytes)
  else if nextPayloadCount > u64Max then
    .error "PixelTransport retained payload accounting overflow"
  else if nextPayloadCount > maxScenePixelPayloads then
    .error ("retained PixelTransport payload budget exceeded: " ++ toString nextPayloadCount ++
      " > " ++ toString maxScenePixelPayloads)
  else (store.replaceClient clientId payloads).mapError fun error =>
    "PixelTransport replacement failed: " ++ debugPixelTransportError error

/-- The surfaces of the other clients, counted. -/
def otherSurfaceCount (scene : CanonicalSceneState) (clientId : Nat) : Nat :=
  ((scene.clients.filter fun id _ => id ≠ clientId).values.map List.length).sum

/-- `upsert_client_scene`, from the surfaces and payloads read off the client's core. -/
def upsertClientScene (scene : CanonicalSceneState) (store : PixelTransportStore)
    (clientId : Nat) (surfaces : List SurfaceSnapshot) (payloads : List PixelTransportPayload) :
    Except String (CanonicalSceneState × PixelTransportStore) :=
  let sceneGeneration := satAdd scene.generation 1
  let surfaces := surfaces.map (stampSurface sceneGeneration)
  let payloads := payloads.map (stampPayload sceneGeneration)
  validateSceneBudget surfaces payloads >>= fun _ =>
  let nextSurfaceCount := otherSurfaceCount scene clientId + surfaces.length
  if nextSurfaceCount > u64Max then .error "canonical surface accounting overflow"
  else if nextSurfaceCount > maxSceneSurfaces then
    .error ("canonical scene surface budget exceeded: " ++ toString nextSurfaceCount ++ " > " ++
      toString maxSceneSurfaces)
  else
    (replaceClientPixelPayloads store clientId payloads).map fun store =>
      ({ scene with
          generation := sceneGeneration
          clients := scene.clients.insert clientId surfaces }, store)

def removeClientScene (scene : CanonicalSceneState) (clientId : Nat) : CanonicalSceneState :=
  if scene.clients.contains clientId then
    { scene with
      clients := scene.clients.erase clientId
      generation := satAdd scene.generation 1 }
  else scene

def coalescePendingCommit (scene : CanonicalSceneState) (candidate : PendingCanonicalCommit) :
    CanonicalSceneState :=
  let replace :=
    match scene.pending with
    | none => true
    | some pending => decide (candidate.generation ≥ pending.generation)
  if replace then { scene with pending := some candidate } else scene

def scheduleSceneRetry (scene : CanonicalSceneState) (now : Nat) : CanonicalSceneState :=
  { scene with
    nextRetryAt := some (now + scene.retryDelay)
    retryDelay := min (scene.retryDelay * 2) sceneRetryMax }

def resetSceneRetry (scene : CanonicalSceneState) : CanonicalSceneState :=
  { scene with retryDelay := sceneRetryInitial, nextRetryAt := none }

def pendingReplayCommit (scene : CanonicalSceneState) : Option PendingCanonicalCommit :=
  scene.pending.filter fun pending => pending.generation ≥ scene.generation

def resolvePixelPayloads (store : PixelTransportStore) (surfaces : List SurfaceSnapshot) :
    List PixelTransportPayload :=
  surfaces.filterMap fun surface => surface.pixelTransport.bind store.lookup

def shouldStorePendingCommit (failedGeneration currentGeneration currentPendingGeneration : Nat) :
    Bool :=
  failedGeneration ≥ currentGeneration ∧ failedGeneration ≥ currentPendingGeneration

def shouldClearPendingCommit (successGeneration pendingGeneration : Nat) : Bool :=
  pendingGeneration ≤ successGeneration

/-- What `commit_canonical_scene` hands to the publication. -/
structure ScenePublication where
  surfaces : List SurfaceSnapshot
  pixelPayloads : List PixelTransportPayload
  sceneGeneration : Nat
  sceneEpoch : Nat

/-- A pending commit of an older generation is dropped before anything else. -/
def dropOlderPending (scene : CanonicalSceneState) : CanonicalSceneState :=
  { scene with
    pending := scene.pending.filter fun pending => !(pending.generation < scene.generation) }

/-- The presentation answered without publishing: nothing is newer than it. -/
def cachedPresentation (scene : CanonicalSceneState) : Option DisplayEvent :=
  if scene.pending.isNone ∧ scene.lastPresentedGeneration ≥ scene.generation then
    scene.lastPresentation
  else none

/-- The snapshot a publication is made from. -/
def snapshotScene (scene : CanonicalSceneState) (store : PixelTransportStore)
    (sceneEpoch : Nat) : ScenePublication :=
  let snapshot :=
    match pendingReplayCommit scene with
    | some pending => (pending.generation, pending.surfaces)
    | none => canonicalSceneSurfacesFrom scene
  { surfaces := snapshot.2
    pixelPayloads := resolvePixelPayloads store snapshot.2
    sceneGeneration := snapshot.1
    sceneEpoch := if snapshot.1 = 0 then 0 else sceneEpoch }

/-- The bookkeeping after a publication, by its result. -/
def finishCommit (scene : CanonicalSceneState) (now : Nat) (publication : ScenePublication) :
    Except CommitProductionSceneError DisplayEvent → CanonicalSceneState
  | .ok event =>
    let generation := publication.sceneGeneration
    let cleared := { scene with
      pending := scene.pending.filter fun pending =>
        !shouldClearPendingCommit generation pending.generation }
    resetSceneRetry
      (if generation ≥ cleared.lastPresentedGeneration then
        { cleared with
          lastPresentedGeneration := generation
          lastPresentation := some event }
      else cleared)
  | .error (.recoverable reason) =>
    let generation := publication.sceneGeneration
    let currentPendingGeneration := (scene.pending.map (·.generation)).getD 0
    scheduleSceneRetry
      (if shouldStorePendingCommit generation scene.generation currentPendingGeneration then
        coalescePendingCommit scene
          { generation := generation
            surfaces := publication.surfaces
            reason := (CommitProductionSceneError.recoverable reason).toText }
      else scene) now
  | .error (.fatal _) => scene

/-- `retry_pending_canonical_scene` looks at the deadline first, on its own. -/
def retryIsDue (scene : CanonicalSceneState) (now : Nat) : Bool :=
  scene.pending.isSome && (scene.nextRetryAt.map fun deadline => decide (now ≥ deadline)).getD
    false

def sharedPresentationSince (scene : CanonicalSceneState) (lastGeneration : Nat) :
    Option (Nat × DisplayEvent) :=
  if scene.lastPresentedGeneration ≤ lastGeneration then none
  else
    match scene.lastPresentation with
    | some (.framePresented commitId timestamp refreshNs seq flags) =>
      some (scene.lastPresentedGeneration,
        .framePresented commitId timestamp refreshNs seq flags)
    | _ => none

end TuffXwin.Waylandd
