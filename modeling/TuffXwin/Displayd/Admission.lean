import TuffXwin.Displayd.State

/-! Admission of a scene: the structural checks made before any version rule,
and the version rules themselves. The checks succeed exactly on the scenes
described by `AdmissibleScene`. -/

namespace TuffXwin.Displayd
open Lib

variable {g : Nat} {handles : OrdSet PixelTransportHandle} {s : SurfaceSnapshot}
variable {c : SceneCommit} {done surfaces : List SurfaceSnapshot} {p : PixelTransportPayload}
  {payloads : List PixelTransportPayload} {ids : OrdSet String}

def sceneVersionIsStale (lastEpoch lastGeneration incomingEpoch incomingGeneration : Nat) :
    Bool :=
  if incomingEpoch = 0 ∧ incomingGeneration = 0 then false
  else sceneVersion incomingEpoch incomingGeneration < sceneVersion lastEpoch lastGeneration

def sceneVersionIsEqual (lastEpoch lastGeneration incomingEpoch incomingGeneration : Nat) :
    Bool :=
  incomingEpoch ≠ 0 ∧
    sceneVersion incomingEpoch incomingGeneration = sceneVersion lastEpoch lastGeneration

def sameSceneIdentity (scene : CommittedSceneState) (target : CommitTarget)
    (focus : FocusTarget) (selection : WaylandSelectionState)
    (surfaces : List SurfaceSnapshot) (sceneEpoch sceneGeneration : Nat) : Bool :=
  scene.target = target ∧ scene.focus = focus ∧ scene.selection = selection ∧
    scene.surfaces = surfaces ∧ scene.sceneEpoch = sceneEpoch ∧
    scene.sceneGeneration = sceneGeneration

structure SceneAdmissionUsage where
  surfaces : Nat
  pixelPayloads : Nat
  pixelBytes : Nat
  damageRects : Nat
  deriving DecidableEq, Repr

structure SurfaceAdmission where
  surfaceIds : OrdSet String := OrdMap.empty
  expectedHandles : OrdSet PixelTransportHandle := OrdMap.empty
  damageRects : Nat := 0

variable {acc : SurfaceAdmission}

def admitHandle (sceneGeneration : Nat) (handles : OrdSet PixelTransportHandle)
    (surface : SurfaceSnapshot) : Except String (OrdSet PixelTransportHandle) :=
  match surface.pixelTransport with
  | none => .ok handles
  | some handle =>
    if handle.surfaceId ≠ surface.id then
      .error ("PixelTransport surface identity mismatch for " ++ surface.id)
    else if sceneGeneration ≠ 0 ∧ handle.sceneGeneration ≠ sceneGeneration then
      .error ("PixelTransport scene generation mismatch for " ++ surface.id)
    else if surface.bufferGeneration ≠ 0 ∧
        handle.bufferGeneration ≠ surface.bufferGeneration then
      .error ("PixelTransport buffer generation mismatch for " ++ surface.id)
    else if handles.contains handle then
      .error ("duplicate PixelTransport handle for " ++ surface.id)
    else .ok (handles.insert handle ())

def admitSurface (sceneGeneration : Nat) (acc : SurfaceAdmission) (surface : SurfaceSnapshot) :
    Except String SurfaceAdmission :=
  if surface.id = "" ∨ acc.surfaceIds.contains surface.id then
    .error "scene contains empty or duplicate surface identity"
  else if surface.placement.visible ∧
      (surface.placement.width = 0 ∨ surface.placement.height = 0) then
    .error ("visible surface " ++ surface.id ++ " has zero dimensions")
  else if checkedAddI32U32 surface.placement.x surface.placement.width = none then
    .error ("surface " ++ surface.id ++ " x extent overflows")
  else if checkedAddI32U32 surface.placement.y surface.placement.height = none then
    .error ("surface " ++ surface.id ++ " y extent overflows")
  else if acc.damageRects + surface.damageRects.length > u64Max then
    .error "damage rectangle accounting overflow"
  else if acc.damageRects + surface.damageRects.length > maxDamageRects then
    .error ("scene damage rectangle budget exceeded: " ++
      toString (acc.damageRects + surface.damageRects.length) ++ " > " ++
      toString maxDamageRects)
  else
    (admitHandle sceneGeneration acc.expectedHandles surface).map fun handles =>
      ⟨acc.surfaceIds.insert surface.id (), handles,
        acc.damageRects + surface.damageRects.length⟩

structure PayloadAdmission where
  payloadHandles : OrdSet PixelTransportHandle := OrdMap.empty
  pixelBytes : Nat := 0

def admitPayload (expectedHandles : OrdSet PixelTransportHandle) (acc : PayloadAdmission)
    (payload : PixelTransportPayload) : Except String PayloadAdmission :=
  if acc.payloadHandles.contains payload.handle then
    .error ("duplicate PixelTransport payload handle for " ++ payload.handle.surfaceId)
  else if !expectedHandles.contains payload.handle then
    .error ("orphan or mismatched PixelTransport payload for " ++ payload.handle.surfaceId)
  else if payload.width = 0 ∨ payload.height = 0 then
    .error "PixelTransport payload dimensions must be non-zero"
  else if payload.width * 4 > u32Max then .error "PixelTransport stride overflow"
  else if payload.stride < payload.width * 4 then
    .error "PixelTransport payload stride is smaller than 32-bit pixel width"
  else if payload.stride * payload.height > u64Max then
    .error "PixelTransport payload byte length overflow"
  else if payload.stride * payload.height ≠ payload.pixels.length then
    .error ("PixelTransport payload byte length mismatch for " ++ payload.handle.surfaceId)
  else if payload.stride * payload.height > maxSinglePixelPayloadBytes then
    .error ("single PixelTransport payload budget exceeded: " ++
      toString (payload.stride * payload.height) ++ " > " ++
      toString maxSinglePixelPayloadBytes)
  else if acc.pixelBytes + payload.stride * payload.height > u64Max then
    .error "PixelTransport aggregate byte length overflow"
  else if acc.pixelBytes + payload.stride * payload.height > maxScenePixelBytes then
    .error ("PixelTransport byte budget exceeded: " ++
      toString (acc.pixelBytes + payload.stride * payload.height) ++ " > " ++
      toString maxScenePixelBytes)
  else
    .ok ⟨acc.payloadHandles.insert payload.handle (),
      acc.pixelBytes + payload.stride * payload.height⟩

def checkFocus (surfaceIds : OrdSet String) : FocusTarget → Except String Unit
  | .none => .ok ()
  | .surface id =>
    if surfaceIds.contains id then .ok ()
    else .error ("focused surface " ++ id ++ " is not present in the scene")

def selectionOwners (selection : WaylandSelectionState) : List String :=
  selection.clipboardOwner.toList ++ selection.primarySelectionOwner.toList

def checkOwner (surfaceIds : OrdSet String) (owner : String) : Except String Unit :=
  if surfaceIds.contains owner then .ok ()
  else .error ("selection owner " ++ owner ++ " is not present in the scene")

def validateSceneAdmission (c : SceneCommit) : Except String SceneAdmissionUsage :=
  if (c.sceneEpoch = 0) ≠ (c.sceneGeneration = 0) then
    .error "scene epoch and generation must both be zero or both be non-zero"
  else if c.target.name = "" then .error "scene target output must not be empty"
  else if c.surfaces.length > maxSceneSurfaces then
    .error ("scene surface budget exceeded: " ++ toString c.surfaces.length ++ " > " ++
      toString maxSceneSurfaces)
  else if c.pixelPayloads.length > maxScenePixelPayloads then
    .error ("PixelTransport payload budget exceeded: " ++ toString c.pixelPayloads.length ++
      " > " ++ toString maxScenePixelPayloads)
  else
    c.surfaces.foldlM (admitSurface c.sceneGeneration) {} >>= fun acc =>
    checkFocus acc.surfaceIds c.focus >>= fun _ =>
    checkAll (checkOwner acc.surfaceIds) (selectionOwners c.selection) >>= fun _ =>
    c.pixelPayloads.foldlM (admitPayload acc.expectedHandles) {} >>= fun payloads =>
    .ok ⟨c.surfaces.length, c.pixelPayloads.length, payloads.pixelBytes, acc.damageRects⟩

/-- The checks on one surface that look at nothing else. -/
structure SurfaceAdmissible (sceneGeneration : Nat) (s : SurfaceSnapshot) : Prop where
  id : s.id ≠ ""
  visible : s.placement.visible → s.placement.width ≠ 0 ∧ s.placement.height ≠ 0
  extentX : (checkedAddI32U32 s.placement.x s.placement.width).isSome
  extentY : (checkedAddI32U32 s.placement.y s.placement.height).isSome
  surfaceId : ∀ h, s.pixelTransport = some h → h.surfaceId = s.id
  generation : ∀ h, s.pixelTransport = some h → sceneGeneration ≠ 0 →
    h.sceneGeneration = sceneGeneration
  buffer : ∀ h, s.pixelTransport = some h → s.bufferGeneration ≠ 0 →
    h.bufferGeneration = s.bufferGeneration

def damageCount (surfaces : List SurfaceSnapshot) : Nat :=
  (surfaces.map fun s => s.damageRects.length).sum

def pixelByteCount (payloads : List PixelTransportPayload) : Nat :=
  (payloads.map fun p => p.pixels.length).sum

structure AdmissibleScene (c : SceneCommit) : Prop where
  version : c.sceneEpoch = 0 ↔ c.sceneGeneration = 0
  target : c.target.name ≠ ""
  surfaceCount : c.surfaces.length ≤ maxSceneSurfaces
  payloadCount : c.pixelPayloads.length ≤ maxScenePixelPayloads
  surfaces : ∀ s ∈ c.surfaces, SurfaceAdmissible c.sceneGeneration s
  nodup : (c.surfaces.map (·.id)).Nodup
  damage : damageCount c.surfaces ≤ maxDamageRects
  focus : ∀ id, c.focus = .surface id → ∃ s ∈ c.surfaces, s.id = id
  owners : ∀ id ∈ selectionOwners c.selection, ∃ s ∈ c.surfaces, s.id = id
  payloadNodup : (c.pixelPayloads.map (·.handle)).Nodup
  payloadHandles : ∀ p ∈ c.pixelPayloads, ∃ s ∈ c.surfaces, s.pixelTransport = some p.handle
  payloads : ∀ p ∈ c.pixelPayloads, p.WellFormed ∧ p.pixels.length ≤ maxSinglePixelPayloadBytes
  bytes : pixelByteCount c.pixelPayloads ≤ maxScenePixelBytes

theorem AdmissibleScene.named (h : AdmissibleScene c) : NamedSurfaces c.surfaces where
  nodup := h.nodup
  named s hs handle hh := (h.surfaces s hs).surfaceId handle hh

/-- The state of the surface loop after it has admitted `done`. -/
structure AdmittedSurfaces (sceneGeneration : Nat) (done : List SurfaceSnapshot)
    (acc : SurfaceAdmission) : Prop where
  surfaces : ∀ s ∈ done, SurfaceAdmissible sceneGeneration s
  nodup : (done.map (·.id)).Nodup
  ids : ∀ id, acc.surfaceIds.contains id = true ↔ ∃ s ∈ done, s.id = id
  handles : ∀ h, acc.expectedHandles.contains h = true ↔ ∃ s ∈ done, s.pixelTransport = some h
  damage : acc.damageRects = damageCount done
  damage_le : damageCount done ≤ maxDamageRects

theorem AdmittedSurfaces.nil (g : Nat) : AdmittedSurfaces g [] {} where
  surfaces := by simp
  nodup := by simp
  ids := by simp [OrdMap.contains_empty]
  handles := by simp [OrdMap.contains_empty]
  damage := rfl
  damage_le := by simp [damageCount]

theorem damageCount_concat (l : List SurfaceSnapshot) (s : SurfaceSnapshot) :
    damageCount (l ++ [s]) = damageCount l + s.damageRects.length := by
  simp [damageCount]

private theorem admitHandle_ok {handles' : OrdSet PixelTransportHandle} :
    admitHandle g handles s = .ok handles' ↔
      (∀ h, s.pixelTransport = some h → h.surfaceId = s.id ∧
        (g ≠ 0 → h.sceneGeneration = g) ∧
        (s.bufferGeneration ≠ 0 → h.bufferGeneration = s.bufferGeneration) ∧
        handles.contains h = false) ∧
      handles' = (s.pixelTransport.map fun h => handles.insert h ()).getD handles := by
  unfold admitHandle
  cases hp : s.pixelTransport with
  | none =>
    simp only [Except.ok.injEq, Option.map_none, Option.getD_none, reduceCtorEq, false_imp_iff,
      implies_true, true_and]
    exact eq_comm
  | some h =>
    simp only [Option.some.injEq, forall_eq', Option.map_some, Option.getD_some]
    constructor
    · intro hr
      split_ifs at hr with h1 h2 h3 h4
      refine ⟨⟨not_not.mp h1, fun hg => ?_, fun hb => ?_, by simpa using h4⟩,
        (Except.ok.inj hr).symm⟩
      · by_contra hne
        exact h2 ⟨hg, hne⟩
      · by_contra hne
        exact h3 ⟨hb, hne⟩
    · intro hr
      obtain ⟨⟨h1, h2, h3, h4⟩, rfl⟩ := hr
      rw [if_neg (not_not.mpr h1), if_neg fun hc => hc.2 (h2 hc.1),
        if_neg fun hc => hc.2 (h3 hc.1), if_neg (by simp [h4])]

theorem admitSurface_step {acc' : SurfaceAdmission} (hacc : AdmittedSurfaces g done acc)
    (h : admitSurface g acc s = .ok acc') : AdmittedSurfaces g (done ++ [s]) acc' := by
  unfold admitSurface at h
  split_ifs at h with h1 h2 h3 h4 h5 h6
  cases hh : admitHandle g acc.expectedHandles s with
  | error e => simp [hh, Except.map] at h
  | ok handles =>
    simp only [hh, Except.map, Except.ok.injEq] at h
    subst h
    obtain ⟨hhandle, hhandles⟩ := admitHandle_ok.mp hh
    have hfresh : ∀ t ∈ done, t.id ≠ s.id := by
      intro t ht heq
      exact h1 (.inr ((hacc.ids s.id).mpr ⟨t, ht, heq⟩))
    refine ⟨?_, ?_, ?_, ?_, ?_, ?_⟩
    · intro t ht
      cases List.mem_append.mp ht with
      | inl ht => exact hacc.surfaces t ht
      | inr ht =>
        rw [List.mem_singleton.mp ht]
        refine ⟨fun e => h1 (.inl e), fun hv => ?_, ?_, ?_, fun h hp => (hhandle h hp).1,
          fun h hp => (hhandle h hp).2.1, fun h hp => (hhandle h hp).2.2.1⟩
        · constructor
          · exact fun e => h2 ⟨hv, .inl e⟩
          · exact fun e => h2 ⟨hv, .inr e⟩
        · exact Option.isSome_iff_ne_none.mpr h3
        · exact Option.isSome_iff_ne_none.mpr h4
    · rw [List.map_append, List.nodup_append]
      refine ⟨hacc.nodup, by simp, ?_⟩
      intro a ha b hb
      obtain ⟨t, ht, rfl⟩ := List.mem_map.mp ha
      rw [List.map_singleton, List.mem_singleton] at hb
      exact hb ▸ hfresh t ht
    · intro id
      rw [OrdSet.contains_insert, hacc.ids]
      simp only [List.mem_append, List.mem_singleton, or_and_right, exists_or, exists_eq_left]
      rw [or_comm, eq_comm (a := id)]
    · intro handle
      simp only [hhandles, List.mem_append, List.mem_singleton, or_and_right, exists_or,
        exists_eq_left]
      cases hp : s.pixelTransport with
      | none => simpa using hacc.handles handle
      | some h' =>
        simp only [Option.map_some, Option.getD_some, Option.some.injEq]
        rw [OrdSet.contains_insert, hacc.handles, or_comm, eq_comm (a := handle)]
    · rw [damageCount_concat, hacc.damage]
    · rw [damageCount_concat, ← hacc.damage]
      omega

theorem admitSurface_total (hacc : AdmittedSurfaces g done acc) (hs : SurfaceAdmissible g s)
    (hid : ∀ t ∈ done, t.id ≠ s.id) (hdamage : damageCount (done ++ [s]) ≤ maxDamageRects) :
    ∃ acc', admitSurface g acc s = .ok acc' := by
  have hcount : acc.damageRects + s.damageRects.length ≤ maxDamageRects := by
    rw [hacc.damage, ← damageCount_concat]
    exact hdamage
  have hmax : maxDamageRects ≤ u64Max := by decide
  have hcontains : ¬ (s.id = "" ∨ acc.surfaceIds.contains s.id = true) := by
    intro hc
    cases hc with
    | inl he => exact hs.id he
    | inr hin =>
      obtain ⟨t, ht, heq⟩ := (hacc.ids s.id).mp hin
      exact hid t ht heq
  have hvisible : ¬ (s.placement.visible = true ∧
      (s.placement.width = 0 ∨ s.placement.height = 0)) := by
    intro hc
    obtain ⟨hw, hh⟩ := hs.visible hc.1
    cases hc.2 with
    | inl e => exact hw e
    | inr e => exact hh e
  have hhandle : ∀ h, s.pixelTransport = some h → acc.expectedHandles.contains h = false := by
    intro h hp
    cases hc : acc.expectedHandles.contains h with
    | false => rfl
    | true =>
      obtain ⟨t, ht, htp⟩ := (hacc.handles h).mp hc
      have heq := (hacc.surfaces t ht).surfaceId h htp
      exact absurd (heq.symm.trans (hs.surfaceId h hp)) (hid t ht)
  rw [admitSurface, if_neg hcontains, if_neg hvisible,
    if_neg (Option.isSome_iff_ne_none.mp hs.extentX),
    if_neg (Option.isSome_iff_ne_none.mp hs.extentY), if_neg (by omega), if_neg (by omega)]
  have hok := admitHandle_ok.mpr
    ⟨fun h hp => ⟨hs.surfaceId h hp, hs.generation h hp, hs.buffer h hp, hhandle h hp⟩, rfl⟩
  rw [hok]
  exact ⟨_, rfl⟩

theorem admitSurfaces_ok (h : surfaces.foldlM (admitSurface g) {} = .ok acc) :
    AdmittedSurfaces g surfaces acc :=
  foldlM_prefix (AdmittedSurfaces g) (fun _ _ _ _ => admitSurface_step) (.nil g) h

theorem admitSurfaces_total (hs : ∀ s ∈ surfaces, SurfaceAdmissible g s)
    (hnodup : (surfaces.map (·.id)).Nodup) (hdamage : damageCount surfaces ≤ maxDamageRects) :
    ∃ acc, surfaces.foldlM (admitSurface g) {} = .ok acc := by
  refine foldlM_prefix_total (AdmittedSurfaces g) (fun _ _ _ _ => admitSurface_step) ?_ (.nil g)
  intro done s rest acc hl hacc
  subst hl
  rw [List.map_append, List.nodup_append] at hnodup
  refine admitSurface_total hacc (hs s (by simp)) (fun t ht => ?_) ?_
  · exact hnodup.2.2 t.id (List.mem_map_of_mem ht) s.id (by simp)
  · refine le_trans ?_ hdamage
    simp only [damageCount, List.map_append, List.sum_append, List.map_cons, List.sum_cons,
      List.map_nil, List.sum_nil]
    omega

/-- The checks on one payload that look at nothing but the expected handles. -/
def PayloadAdmissible (handles : OrdSet PixelTransportHandle) (p : PixelTransportPayload) :
    Prop :=
  handles.contains p.handle = true ∧ p.WellFormed ∧
    p.pixels.length ≤ maxSinglePixelPayloadBytes

/-- The state of the payload loop after it has admitted `done`. -/
structure AdmittedPayloads (handles : OrdSet PixelTransportHandle)
    (done : List PixelTransportPayload) (acc : PayloadAdmission) : Prop where
  payloads : ∀ p ∈ done, PayloadAdmissible handles p
  nodup : (done.map (·.handle)).Nodup
  seen : ∀ h, acc.payloadHandles.contains h = true ↔ ∃ p ∈ done, p.handle = h
  bytes : acc.pixelBytes = pixelByteCount done
  bytes_le : pixelByteCount done ≤ maxScenePixelBytes

theorem AdmittedPayloads.nil (handles : OrdSet PixelTransportHandle) :
    AdmittedPayloads handles [] {} where
  payloads := by simp
  nodup := by simp
  seen := by simp [OrdMap.contains_empty]
  bytes := rfl
  bytes_le := by simp [pixelByteCount]

theorem pixelByteCount_concat (l : List PixelTransportPayload) (p : PixelTransportPayload) :
    pixelByteCount (l ++ [p]) = pixelByteCount l + p.pixels.length := by
  simp [pixelByteCount]

theorem admitPayload_step {done : List PixelTransportPayload} {acc acc' : PayloadAdmission}
    (hacc : AdmittedPayloads handles done acc) (h : admitPayload handles acc p = .ok acc') :
    AdmittedPayloads handles (done ++ [p]) acc' := by
  unfold admitPayload at h
  split_ifs at h with h1 h2 h3 h4 h5 h6 h7 h8 h9 h10
  obtain rfl := Except.ok.inj h
  have hlen : p.pixels.length = p.stride * p.height := by omega
  have hwell : p.WellFormed := ⟨by omega, by omega, by omega, by omega, by omega, hlen⟩
  have hfresh : ∀ q ∈ done, q.handle ≠ p.handle := by
    intro q hq heq
    exact h1 ((hacc.seen p.handle).mpr ⟨q, hq, heq⟩)
  refine ⟨?_, ?_, ?_, ?_, ?_⟩
  · intro q hq
    cases List.mem_append.mp hq with
    | inl hq => exact hacc.payloads q hq
    | inr hq =>
      rw [List.mem_singleton.mp hq]
      exact ⟨by simpa using h2, hwell, by omega⟩
  · rw [List.map_append, List.nodup_append]
    refine ⟨hacc.nodup, by simp, ?_⟩
    intro a ha b hb
    obtain ⟨q, hq, rfl⟩ := List.mem_map.mp ha
    rw [List.map_singleton, List.mem_singleton] at hb
    exact hb ▸ hfresh q hq
  · intro handle
    rw [OrdSet.contains_insert, hacc.seen]
    simp only [List.mem_append, List.mem_singleton, or_and_right, exists_or, exists_eq_left]
    rw [or_comm, eq_comm (a := handle)]
  · rw [pixelByteCount_concat, hacc.bytes, hlen]
  · rw [pixelByteCount_concat, ← hacc.bytes, hlen]
    omega

theorem admitPayload_total {done : List PixelTransportPayload} {acc : PayloadAdmission}
    (hacc : AdmittedPayloads handles done acc) (hp : PayloadAdmissible handles p)
    (hfresh : ∀ q ∈ done, q.handle ≠ p.handle)
    (hbytes : pixelByteCount (done ++ [p]) ≤ maxScenePixelBytes) :
    ∃ acc', admitPayload handles acc p = .ok acc' := by
  obtain ⟨hhandle, hwell, hsingle⟩ := hp
  have hlen := hwell.length
  have hw := hwell.width_pos
  have hh := hwell.height_pos
  have hw4 := hwell.width_le
  have hstride := hwell.stride
  have hle := hwell.bytes_le
  have hcount : acc.pixelBytes + p.stride * p.height ≤ maxScenePixelBytes := by
    rw [hacc.bytes, ← hlen, ← pixelByteCount_concat]
    exact hbytes
  have hmax : maxScenePixelBytes ≤ u64Max := by decide
  have hseen : ¬ acc.payloadHandles.contains p.handle = true := by
    intro hc
    obtain ⟨q, hq, heq⟩ := (hacc.seen p.handle).mp hc
    exact hfresh q hq heq
  rw [admitPayload, if_neg hseen, if_neg (by simp [hhandle]), if_neg (by omega),
    if_neg (by omega), if_neg (by omega), if_neg (by omega), if_neg (by omega),
    if_neg (by omega), if_neg (by omega), if_neg (by omega)]
  exact ⟨_, rfl⟩

theorem admitPayloads_ok {acc : PayloadAdmission}
    (h : payloads.foldlM (admitPayload handles) {} = .ok acc) :
    AdmittedPayloads handles payloads acc :=
  foldlM_prefix (AdmittedPayloads handles) (fun _ _ _ _ => admitPayload_step) (.nil handles) h

theorem admitPayloads_total (hp : ∀ p ∈ payloads, PayloadAdmissible handles p)
    (hnodup : (payloads.map (·.handle)).Nodup)
    (hbytes : pixelByteCount payloads ≤ maxScenePixelBytes) :
    ∃ acc, payloads.foldlM (admitPayload handles) {} = .ok acc := by
  refine foldlM_prefix_total (AdmittedPayloads handles) (fun _ _ _ _ => admitPayload_step) ?_
    (.nil handles)
  intro done p rest acc hl hacc
  subst hl
  rw [List.map_append, List.nodup_append] at hnodup
  refine admitPayload_total hacc (hp p (by simp)) (fun q hq => ?_) ?_
  · exact hnodup.2.2 q.handle (List.mem_map_of_mem hq) p.handle (by simp)
  · refine le_trans ?_ hbytes
    simp only [pixelByteCount, List.map_append, List.sum_append, List.map_cons, List.sum_cons,
      List.map_nil, List.sum_nil]
    omega

private theorem checkFocus_ok {focus : FocusTarget} :
    checkFocus ids focus = .ok () ↔ ∀ id, focus = .surface id → ids.contains id = true := by
  cases focus with
  | none => simp [checkFocus]
  | surface id =>
    simp only [checkFocus, FocusTarget.surface.injEq, forall_eq']
    cases ids.contains id <;> simp

private theorem checkOwner_ok {owner : String} :
    checkOwner ids owner = .ok () ↔ ids.contains owner = true := by
  unfold checkOwner
  cases ids.contains owner <;> simp

/-- Admission succeeds exactly on the admissible scenes. -/
theorem validateSceneAdmission_ok :
    (∃ usage, validateSceneAdmission c = .ok usage) ↔ AdmissibleScene c := by
  constructor
  · intro h
    obtain ⟨usage, h⟩ := h
    unfold validateSceneAdmission at h
    split_ifs at h with h1 h2 h3 h4
    obtain ⟨acc, hacc, h⟩ := bind_eq_ok.mp h
    obtain ⟨_, hfocus, h⟩ := bind_eq_ok.mp h
    obtain ⟨_, howners, h⟩ := bind_eq_ok.mp h
    obtain ⟨payloads, hpayloads, _⟩ := bind_eq_ok.mp h
    have hs := admitSurfaces_ok hacc
    have hp := admitPayloads_ok hpayloads
    exact
      { version := by simpa using h1
        target := h2
        surfaceCount := by omega
        payloadCount := by omega
        surfaces := hs.surfaces
        nodup := hs.nodup
        damage := hs.damage_le
        focus := fun id hid => (hs.ids id).mp (checkFocus_ok.mp hfocus id hid)
        owners := fun id hid =>
          (hs.ids id).mp (checkOwner_ok.mp (checkAll_ok.mp howners id hid))
        payloadNodup := hp.nodup
        payloadHandles := fun p hmem => (hs.handles p.handle).mp (hp.payloads p hmem).1
        payloads := fun p hmem => (hp.payloads p hmem).2
        bytes := hp.bytes_le }
  · intro h
    obtain ⟨acc, hacc⟩ := admitSurfaces_total h.surfaces h.nodup h.damage
    have hs := admitSurfaces_ok hacc
    have hfocus : checkFocus acc.surfaceIds c.focus = .ok () :=
      checkFocus_ok.mpr fun id hid => (hs.ids id).mpr (h.focus id hid)
    have howners : checkAll (checkOwner acc.surfaceIds) (selectionOwners c.selection) = .ok () :=
      checkAll_ok.mpr fun id hid => checkOwner_ok.mpr ((hs.ids id).mpr (h.owners id hid))
    obtain ⟨payloads, hpayloads⟩ := admitPayloads_total
      (fun p hp => ⟨(hs.handles p.handle).mpr (h.payloadHandles p hp), h.payloads p hp⟩)
      h.payloadNodup h.bytes
    have hcount := h.surfaceCount
    have hpcount := h.payloadCount
    refine ⟨⟨c.surfaces.length, c.pixelPayloads.length, payloads.pixelBytes,
      acc.damageRects⟩, ?_⟩
    rw [validateSceneAdmission, if_neg (by simpa using h.version), if_neg h.target,
      if_neg (by omega), if_neg (by omega)]
    refine bind_eq_ok.mpr ⟨acc, hacc, bind_eq_ok.mpr ⟨(), hfocus, bind_eq_ok.mpr ⟨(), howners,
      bind_eq_ok.mpr ⟨payloads, hpayloads, rfl⟩⟩⟩⟩

end TuffXwin.Displayd
