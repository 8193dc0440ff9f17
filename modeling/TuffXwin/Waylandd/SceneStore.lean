import TuffXwin.Lib.Outcome
import TuffXwin.Lib.Reach
import TuffXwin.Lib.Session
import TuffXwin.Waylandd.Scene

/-! The canonical scene next to the pixel store. The functions run as programs on the
two, in the order in which the source changes them; the surfaces of a client and its
payloads go in together and out together, up to a finalizer that is between its halves. -/

namespace TuffXwin.Waylandd
open Lib

variable {clientId : Nat} {store : PixelTransportStore}
variable {store' : PixelTransportStore} {payloads : List PixelTransportPayload}

/-- A buffer of a client; `pixels` is what `read_shm_buffer` reads of it. -/
structure ShmBuffer where
  width : Int
  height : Int
  stride : Int
  format : Nat
  pixels : List UInt8

structure SurfaceInstance where
  bufferId : Option Nat
  offsetX : Int
  offsetY : Int
  damage : List Rect

/-- What the scene reads of a client's core; the surfaces come in any order. -/
structure SceneCore where
  surfaces : List (Nat × SurfaceInstance)
  buffers : OrdMap Nat ShmBuffer

def productionSurface (clientId : Nat) (core : SceneCore) (sceneGeneration : Nat)
    (entry : Nat × SurfaceInstance) : Option (SurfaceSnapshot × Option PixelTransportPayload) :=
  entry.2.bufferId.bind fun bufferId =>
  (core.buffers.get? bufferId).map fun buffer =>
    let surfaceId := "client-" ++ toString clientId ++ "-surface-" ++ toString entry.1
    let handle : PixelTransportHandle := ⟨clientId, surfaceId, bufferId, sceneGeneration⟩
    ({ id := surfaceId
       appId := "production-app"
       placement :=
         ⟨entry.2.offsetX, entry.2.offsetY, buffer.width.toNat, buffer.height.toNat, 0, true⟩
       bufferHandle := some (toString bufferId)
       bufferGeneration := bufferId
       damageRects := entry.2.damage
       pixelTransport := if buffer.pixels = [] then none else some handle
       layerClass := 0
       creationSequence := entry.1 },
     if buffer.pixels = [] then none
     else some ⟨handle, buffer.pixels, buffer.width.toNat, buffer.height.toNat,
       buffer.stride.toNat, buffer.format⟩)

def productionSceneSurfacesForGeneration (clientId : Nat) (core : SceneCore)
    (sceneGeneration : Nat) : List SurfaceSnapshot × List PixelTransportPayload :=
  let items := core.surfaces.filterMap (productionSurface clientId core sceneGeneration)
  (items.map Prod.fst, items.filterMap Prod.snd)

/-- `finalizing` is a specification variable: the clients whose finalizer has removed
their scene and not yet invalidated their payloads. -/
structure SharedScene where
  scene : CanonicalSceneState := {}
  pixelTransport : PixelTransportStore := {}
  finalizing : List Nat := []

variable {s : SharedScene}

abbrev Sharing (α : Type) := EStateM String SharedScene α

def bail {α : Type} (reason : String) : Sharing α := throw reason

def orFail {α : Type} : Except String α → Sharing α
  | .ok a => pure a
  | .error reason => throw reason

def modifyScene (f : CanonicalSceneState → CanonicalSceneState) : Sharing PUnit :=
  modify fun s => { s with scene := f s.scene }

def modifyStore (f : PixelTransportStore → PixelTransportStore) : Sharing PUnit :=
  modify fun s => { s with pixelTransport := f s.pixelTransport }

namespace SharedScene

/-- `PixelTransportStore::replace_client`. -/
def replaceClient (clientId : Nat) (payloads : List PixelTransportPayload) : Sharing PUnit := do
  let _ ← orFail ((payloads.foldlM (PixelTransportStore.checkReplacement clientId) []).mapError
    fun error => "PixelTransport replacement failed: " ++ debugPixelTransportError error)
  modifyStore (·.invalidateClient clientId)
  payloads.forM fun payload =>
    modifyStore fun store => ⟨store.payloads.insert payload.handle payload⟩

def replaceClientPixelPayloads (clientId : Nat) (payloads : List PixelTransportPayload) :
    Sharing PUnit := do
  let store := (← get).pixelTransport
  let incomingBytes := (payloads.map fun p => p.pixels.length).sum
  if incomingBytes > u64Max then bail "PixelTransport replacement byte accounting overflow"
  else
    let nextTotalBytes := store.totalBytes - store.bytesForClient clientId + incomingBytes
    if nextTotalBytes > u64Max then bail "PixelTransport retained byte accounting overflow"
    else if nextTotalBytes > maxScenePixelBytes then
      bail ("retained PixelTransport byte budget exceeded: " ++ toString nextTotalBytes ++
        " > " ++ toString maxScenePixelBytes)
    else
      let nextPayloadCount := store.len - store.lenForClient clientId + payloads.length
      if nextPayloadCount > u64Max then
        bail "PixelTransport retained payload accounting overflow"
      else if nextPayloadCount > maxScenePixelPayloads then
        bail ("retained PixelTransport payload budget exceeded: " ++ toString nextPayloadCount ++
          " > " ++ toString maxScenePixelPayloads)
      else replaceClient clientId payloads

def upsertClientScene (clientId : Nat) (core : SceneCore) :
    Sharing (Nat × List SurfaceSnapshot) := do
  let produced := productionSceneSurfacesForGeneration clientId core 0
  let scene := (← get).scene
  let sceneGeneration := satAdd scene.generation 1
  let surfaces := produced.1.map (stampSurface sceneGeneration)
  let payloads := produced.2.map (stampPayload sceneGeneration)
  let _ ← orFail (validateSceneBudget surfaces payloads)
  let nextSurfaceCount := otherSurfaceCount scene clientId + surfaces.length
  if nextSurfaceCount > u64Max then bail "canonical surface accounting overflow"
  else if nextSurfaceCount > maxSceneSurfaces then
    bail ("canonical scene surface budget exceeded: " ++ toString nextSurfaceCount ++ " > " ++
      toString maxSceneSurfaces)
  else do
    replaceClientPixelPayloads clientId payloads
    modifyScene fun scene => { scene with generation := sceneGeneration }
    modifyScene fun scene => { scene with clients := scene.clients.insert clientId surfaces }
    pure (sceneGeneration, surfaces)

def removeScene (s : SharedScene) (clientId : Nat) : SharedScene :=
  { s with scene := removeClientScene s.scene clientId }

def invalidateClientPixelPayloads (s : SharedScene) (clientId : Nat) : SharedScene :=
  { s with pixelTransport := s.pixelTransport.invalidateClient clientId }

theorem insertAll_run (payloads : List PixelTransportPayload) (s : SharedScene) :
    (payloads.forM fun payload : PixelTransportPayload =>
      modifyStore fun store => ⟨store.payloads.insert payload.handle payload⟩) s =
      .ok ⟨⟩ { s with pixelTransport := s.pixelTransport.insertAll payloads } := by
  induction payloads generalizing s with
  | nil => rfl
  | cons payload payloads ih => exact ih _

/-- The payloads are checked before the store changes. -/
theorem replaceClient_run (clientId : Nat) (payloads : List PixelTransportPayload)
    (s : SharedScene) :
    replaceClient clientId payloads s =
      match (s.pixelTransport.replaceClient clientId payloads).mapError fun error =>
        "PixelTransport replacement failed: " ++ debugPixelTransportError error with
      | .ok store => .ok ⟨⟩ { s with pixelTransport := store }
      | .error reason => .error reason s := by
  unfold replaceClient PixelTransportStore.replaceClient
  cases payloads.foldlM (PixelTransportStore.checkReplacement clientId) [] with
  | error error => rfl
  | ok surfaceIds => exact insertAll_run payloads _

theorem replaceClientPixelPayloads_run (clientId : Nat) (payloads : List PixelTransportPayload)
    (s : SharedScene) :
    replaceClientPixelPayloads clientId payloads s =
      match Waylandd.replaceClientPixelPayloads s.pixelTransport clientId payloads with
      | .ok store => .ok ⟨⟩ { s with pixelTransport := store }
      | .error reason => .error reason s := by
  unfold replaceClientPixelPayloads Waylandd.replaceClientPixelPayloads
  rw [bind_get]
  dsimp only
  split_ifs
  · rfl
  · rfl
  · rfl
  · rfl
  · rfl
  · exact replaceClient_run clientId payloads s

/-- The program changes the scene and the store together, at its end or not at all. -/
theorem upsertClientScene_run (clientId : Nat) (core : SceneCore) (s : SharedScene) :
    upsertClientScene clientId core s =
      let produced := productionSceneSurfacesForGeneration clientId core 0
      match Waylandd.upsertClientScene s.scene s.pixelTransport clientId produced.1
        produced.2 with
      | .ok (scene, store) =>
        .ok (satAdd s.scene.generation 1,
            produced.1.map (stampSurface (satAdd s.scene.generation 1)))
          { s with scene := scene, pixelTransport := store }
      | .error reason => .error reason s := by
  unfold upsertClientScene Waylandd.upsertClientScene
  rw [bind_get]
  simp only [bind, EStateM.bind]
  cases hbudget : validateSceneBudget _ _ with
  | error reason => rfl
  | ok usage =>
    simp only [orFail, Except.bind, pure, EStateM.pure]
    split_ifs
    · rfl
    · rfl
    · simp only [EStateM.bind, replaceClientPixelPayloads_run]
      cases Waylandd.replaceClientPixelPayloads s.pixelTransport clientId _ <;> rfl

theorem upsertClientScene_error {core : SceneCore} {after : SharedScene} {reason : String}
    (h : upsertClientScene clientId core s = .error reason after) : after = s := by
  rw [upsertClientScene_run] at h
  dsimp only at h
  split at h
  · cases h
  · cases h
    rfl

/-- The client's canonical surfaces refer to the payload. -/
def Refers (s : SharedScene) (clientId : Nat) (handle : PixelTransportHandle) : Prop :=
  ∃ surfaces, s.scene.clients.get? clientId = some surfaces ∧
    ∃ surface ∈ surfaces, surface.pixelTransport = some handle

/-- The store holds the payload for the client. -/
def Stores (s : SharedScene) (clientId : Nat) (handle : PixelTransportHandle) : Prop :=
  handle.clientId = clientId ∧ s.pixelTransport.payloads.contains handle = true

theorem replaceClient_ok (h : store.replaceClient clientId payloads = .ok store') :
    (∀ p ∈ payloads, p.handle.clientId = clientId) ∧
      store' = (store.invalidateClient clientId).insertAll payloads := by
  unfold PixelTransportStore.replaceClient at h
  cases hcheck : payloads.foldlM (PixelTransportStore.checkReplacement clientId) [] with
  | error e =>
    rw [hcheck] at h
    cases h
  | ok surfaceIds =>
    rw [hcheck] at h
    refine ⟨fun p hp => ?_, (Except.ok.inj h).symm⟩
    obtain ⟨before, after, hstep⟩ := foldlM_ok_mem hcheck p hp
    obtain ⟨u, -, hstep⟩ := bind_eq_ok.mp hstep
    split_ifs at hstep with howner
    · simpa using howner

theorem contains_invalidated {handle : PixelTransportHandle} :
    (store.invalidateClient clientId).payloads.contains handle = true ↔
      handle.clientId ≠ clientId ∧ store.payloads.contains handle = true := by
  refine (OrdMap.contains_filter_key
    (p := fun h : PixelTransportHandle => decide (h.clientId ≠ clientId))).trans ?_
  rw [decide_eq_true_iff]

theorem replaceClientPixelPayloads_ok
    (h : Waylandd.replaceClientPixelPayloads store clientId payloads = .ok store') :
    (∀ p ∈ payloads, p.handle.clientId = clientId) ∧
      ∀ handle, store'.payloads.contains handle = true ↔
        if handle.clientId = clientId then ∃ p ∈ payloads, p.handle = handle
        else store.payloads.contains handle = true := by
  unfold Waylandd.replaceClientPixelPayloads at h
  dsimp only at h
  split_ifs at h with h1 h2 h3 h4 h5
  cases hreplace : store.replaceClient clientId payloads with
  | error error =>
    rw [hreplace] at h
    cases h
  | ok replaced =>
    rw [hreplace] at h
    cases h
    obtain ⟨howner, hstore⟩ := replaceClient_ok hreplace
    subst hstore
    refine ⟨howner, fun handle => ?_⟩
    change (OrdMap.insertAll PixelTransportPayload.handle payloads
      (store.invalidateClient clientId).payloads).contains handle = true ↔ _
    rw [OrdMap.contains_insertAll, contains_invalidated]
    split_ifs with hclient
    · simp [hclient]
    · refine ⟨?_, fun hold => .inr ⟨hclient, hold⟩⟩
      rintro (⟨p, hp, rfl⟩ | hold)
      · exact absurd (howner p hp) hclient
      · exact hold.2

/-- What a successful upsert stores is what the new surfaces refer to. -/
theorem upsertClientScene_stores {scene scene' : CanonicalSceneState}
    {surfaces : List SurfaceSnapshot}
    (h : Waylandd.upsertClientScene scene store clientId surfaces payloads =
      .ok (scene', store')) :
    ∃ stamped, scene'.clients = scene.clients.insert clientId stamped ∧
      (∀ handle, (∃ surface ∈ stamped, surface.pixelTransport = some handle) →
        handle.clientId = clientId) ∧
      ∀ handle, store'.payloads.contains handle = true ↔
        if handle.clientId = clientId then
          ∃ surface ∈ stamped, surface.pixelTransport = some handle
        else store.payloads.contains handle = true := by
  unfold Waylandd.upsertClientScene at h
  obtain ⟨usage, hbudget, h⟩ := bind_eq_ok.mp h
  dsimp only at h
  split_ifs at h with h1 h2
  cases hreplace : Waylandd.replaceClientPixelPayloads store clientId
      (payloads.map (stampPayload (satAdd scene.generation 1))) with
  | error reason =>
    rw [hreplace] at h
    cases h
  | ok replaced =>
    rw [hreplace] at h
    cases h
    obtain ⟨howner, hstore⟩ := replaceClientPixelPayloads_ok hreplace
    refine ⟨_, rfl, fun handle hrefers => ?_, fun handle => ?_⟩
    · obtain ⟨p, hp, rfl⟩ := (validateSceneBudget_handles hbudget handle).mp hrefers
      exact howner p hp
    · rw [hstore, validateSceneBudget_handles hbudget]

/-- What one thread of the service does under its locks; a client's thread does nothing
else between the halves of its finalizer. -/
inductive Operation
  | upsert (clientId : Nat) (core : SceneCore)
  | remove (clientId : Nat)
  | invalidate (clientId : Nat)

def upserted (s : SharedScene) (clientId : Nat) (core : SceneCore) : SharedScene :=
  match upsertClientScene clientId core s with
  | .ok _ after => after
  | .error _ after => after

def step (s : SharedScene) : Operation → SharedScene
  | .upsert clientId core => if clientId ∈ s.finalizing then s else s.upserted clientId core
  | .remove clientId =>
    if clientId ∈ s.finalizing then s
    else { s.removeScene clientId with finalizing := clientId :: s.finalizing }
  | .invalidate clientId =>
    if clientId ∈ s.finalizing then
      { s.invalidateClientPixelPayloads clientId with
        finalizing := s.finalizing.filter (· ≠ clientId) }
    else s

def sharing : System SharedScene Operation where
  init s := s = {}
  next := step

structure InStep (s : SharedScene) : Prop where
  agree : ∀ clientId ∉ s.finalizing, ∀ handle, s.Refers clientId handle ↔ s.Stores clientId handle
  removed : ∀ clientId ∈ s.finalizing, s.scene.clients.get? clientId = none

theorem InStep.upserted (h : InStep s) (hactive : clientId ∉ s.finalizing) (core : SceneCore) :
    InStep (s.upserted clientId core) := by
  unfold SharedScene.upserted
  rw [upsertClientScene_run]
  dsimp only
  generalize productionSceneSurfacesForGeneration clientId core 0 = produced
  cases hrun : Waylandd.upsertClientScene s.scene s.pixelTransport clientId produced.1
      produced.2 with
  | error reason => exact h
  | ok result =>
    obtain ⟨scene, store⟩ := result
    obtain ⟨stamped, hclients, howner, hstore⟩ := upsertClientScene_stores hrun
    constructor
    · intro other hother handle
      have hold := h.agree other hother handle
      simp only [Refers, Stores, hclients, hstore handle, OrdMap.get?_insert] at hold ⊢
      by_cases heq : other = clientId
      · subst heq
        simp only [if_true, Option.some.injEq, exists_eq_left']
        constructor
        · intro hrefers
          have hclient := howner handle hrefers
          exact ⟨hclient, by rwa [if_pos hclient]⟩
        · rintro ⟨hclient, hrefers⟩
          rwa [if_pos hclient] at hrefers
      · rw [if_neg heq]
        rw [hold]
        refine and_congr_right fun hclient => ?_
        rw [if_neg (hclient ▸ heq)]
    · intro other hother
      rw [hclients, OrdMap.get?_insert, if_neg (ne_of_mem_of_not_mem hother hactive)]
      exact h.removed other hother

theorem removeClientScene_clients (scene : CanonicalSceneState) (clientId other : Nat) :
    (removeClientScene scene clientId).clients.get? other =
      if other = clientId then none else scene.clients.get? other := by
  unfold removeClientScene
  split_ifs with hcontains heq heq
  · rw [OrdMap.get?_erase, if_pos heq]
  · rw [OrdMap.get?_erase, if_neg heq]
  · subst heq
    simpa [OrdMap.contains] using hcontains
  · rfl

theorem InStep.removed_scene (h : InStep s) (clientId : Nat) :
    InStep { s.removeScene clientId with finalizing := clientId :: s.finalizing } := by
  constructor
  · intro other hother handle
    simp only [List.mem_cons, not_or] at hother
    have hold := h.agree other hother.2 handle
    simp only [Refers, Stores, removeScene, removeClientScene_clients, if_neg hother.1] at hold ⊢
    exact hold
  · intro other hother
    simp only [removeScene, removeClientScene_clients]
    split_ifs with heq
    · rfl
    · exact h.removed other ((List.mem_cons.mp hother).resolve_left heq)

theorem InStep.invalidated (h : InStep s) (hfinalizing : clientId ∈ s.finalizing) :
    InStep { s.invalidateClientPixelPayloads clientId with
      finalizing := s.finalizing.filter (· ≠ clientId) } := by
  constructor
  · intro other hother handle
    simp only [Refers, Stores, invalidateClientPixelPayloads, contains_invalidated]
    by_cases heq : other = clientId
    · subst heq
      rw [h.removed other hfinalizing]
      simp only [reduceCtorEq, false_and, exists_false, false_iff]
      rintro ⟨hclient, hne, -⟩
      exact hne hclient
    · have hactive : other ∉ s.finalizing := by
        intro hmem
        exact hother (List.mem_filter.mpr ⟨hmem, by simpa using heq⟩)
      have hold := h.agree other hactive handle
      simp only [Refers, Stores] at hold
      rw [hold]
      refine and_congr_right fun hclient => ?_
      simp [hclient, heq]
  · intro other hother
    exact h.removed other (List.mem_filter.mp hother).1

theorem InStep.step (h : InStep s) (operation : Operation) : InStep (s.step operation) := by
  cases operation with
  | upsert clientId core =>
    simp only [SharedScene.step]
    split_ifs with hfinalizing
    · exact h
    · exact h.upserted hfinalizing core
  | remove clientId =>
    simp only [SharedScene.step]
    split_ifs with hfinalizing
    · exact h
    · exact h.removed_scene clientId
  | invalidate clientId =>
    simp only [SharedScene.step]
    split_ifs with hfinalizing
    · exact h.invalidated hfinalizing
    · exact h

theorem inStep_reachable (h : sharing.Reachable s) : InStep s := by
  refine h.invariant (I := InStep) ?_ fun s operation hs _ => hs.step operation
  rintro s rfl
  constructor
  · intro clientId _ handle
    simp [Refers, Stores, OrdMap.contains]
  · intro clientId hmem
    rfl

/-- The surfaces of a client and its payloads name each other, and a failed upsert
changes neither. -/
theorem scene_store_in_step (s : SharedScene) (h : sharing.Reachable s) :
    (∀ clientId ∉ s.finalizing, ∀ handle,
      s.Refers clientId handle ↔ s.Stores clientId handle) ∧
    (∀ clientId handle, s.Refers clientId handle → s.Stores clientId handle) ∧
    ∀ (clientId : Nat) (core : SceneCore) (reason : String) (after : SharedScene),
      upsertClientScene clientId core s = .error reason after → after = s := by
  have hs := inStep_reachable h
  refine ⟨hs.agree, ?_, fun clientId core reason after => upsertClientScene_error⟩
  intro clientId handle hrefers
  by_cases hfinalizing : clientId ∈ s.finalizing
  · obtain ⟨surfaces, hget, -⟩ := hrefers
    rw [hs.removed clientId hfinalizing] at hget
    cases hget
  · exact (hs.agree clientId hfinalizing handle).mp hrefers

def sampleCore : SceneCore where
  surfaces := [(3, ⟨some 5, 0, 0, []⟩)]
  buffers := OrdMap.empty.insert 5 ⟨1, 1, 4, 0, [1, 2, 3, 4]⟩

def sampleShared : SharedScene :=
  sharing.run {} [.upsert 1 sampleCore, .upsert 2 sampleCore, .remove 1, .invalidate 1]

theorem scene_store_in_step_sample :
    sampleShared.Stores 2 ⟨2, "client-2-surface-3", 5, 2⟩ ∧ sampleShared.finalizing = [] := by
  have hreach : sharing.Reachable sampleShared := System.Reachable.run (.init rfl) _
  have hhandles : (sampleShared.scene.clients.get? 2).map (·.map SurfaceSnapshot.pixelTransport) =
      some [some ⟨2, "client-2-surface-3", 5, 2⟩] := by decide +kernel
  obtain ⟨surfaces, hget, hmap⟩ := Option.map_eq_some_iff.mp hhandles
  obtain ⟨surface, hmem, htransport⟩ := List.mem_map.mp (hmap ▸ List.mem_singleton_self _)
  exact ⟨(scene_store_in_step sampleShared hreach).2.1 2 _ ⟨surfaces, hget, surface, hmem,
    htransport⟩, rfl⟩

end SharedScene

end TuffXwin.Waylandd
