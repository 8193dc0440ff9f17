import TuffXwin.Compd.Reconcile
import TuffXwin.Lib.ByteStream

/-! Which reconciled scenes compd would relay. The checks on a relayed scene are stated on
the scene; a reconciled scene passes them exactly when the roles find room on the output and
the selection stays with the surfaces of the scene. -/

namespace TuffXwin.Compd
open Lib

variable {g : Nat} {s : SurfaceSnapshot} {output : OutputMode}
variable {done : List SurfaceSnapshot} {acc : RelaySurfaces} {surfaceIds : OrdSet String}
  {focus : FocusTarget} {scene : CompdScene}

/-- The checks of a relay on one surface. -/
structure RelaySurfaceValid (sceneGeneration : Nat) (s : SurfaceSnapshot) : Prop where
  id : s.id ≠ ""
  sized : s.placement.visible = true → s.placement.width ≠ 0 ∧ s.placement.height ≠ 0
  right : s.placement.x + s.placement.width ≤ i32Max
  bottom : s.placement.y + s.placement.height ≤ i32Max
  surfaceId : ∀ h, s.pixelTransport = some h → h.surfaceId = s.id
  generation : ∀ h, s.pixelTransport = some h → sceneGeneration ≠ 0 →
    h.sceneGeneration = sceneGeneration
  buffer : ∀ h, s.pixelTransport = some h → s.bufferGeneration ≠ 0 →
    h.bufferGeneration = s.bufferGeneration

/-- A scene that may be relayed, its payloads apart. -/
structure ValidRelayScene (scene : CompdScene) : Prop where
  target : scene.targetOutput ≠ ""
  version : scene.sceneEpoch = 0 ↔ scene.sceneGeneration = 0
  count : scene.surfaces.length ≤ maxRelaySurfaces
  surfaces : ∀ s ∈ scene.surfaces, RelaySurfaceValid scene.sceneGeneration s
  nodup : (scene.surfaces.map (·.id)).Nodup
  focus : ∀ id, scene.focus = .surface id → ∃ s ∈ scene.surfaces, s.id = id
  owners : ∀ id ∈ Displayd.selectionOwners scene.selection, ∃ s ∈ scene.surfaces, s.id = id

theorem relayHandle_ok {handles handles' : OrdSet PixelTransportHandle}
    (h : relayHandle g handles s = .ok handles') :
    ∀ handle, s.pixelTransport = some handle → handle.surfaceId = s.id ∧
      (g ≠ 0 → handle.sceneGeneration = g) ∧
      (s.bufferGeneration ≠ 0 → handle.bufferGeneration = s.bufferGeneration) := by
  intro handle hp
  unfold relayHandle at h
  rw [hp] at h
  dsimp only at h
  split_ifs at h with hid hscene hbuffer
  refine ⟨not_not.mp hid, fun hg => ?_, fun hb => ?_⟩
  · by_contra hne
    exact hscene ⟨hg, hne⟩
  · by_contra hne
    exact hbuffer ⟨hb, hne⟩

theorem relayHandle_total (handles : OrdSet PixelTransportHandle) (h : RelaySurfaceValid g s) :
    ∃ handles', relayHandle g handles s = .ok handles' := by
  unfold relayHandle
  cases hp : s.pixelTransport with
  | none => exact ⟨_, rfl⟩
  | some handle =>
    dsimp only
    rw [if_neg (not_not.mpr (h.surfaceId handle hp)),
      if_neg fun hc => hc.2 (h.generation handle hp hc.1),
      if_neg fun hc => hc.2 (h.buffer handle hp hc.1)]
    exact ⟨_, rfl⟩

/-- The state of the loop over the surfaces after it has passed `done`. -/
structure RelayedSurfaces (sceneGeneration : Nat) (done : List SurfaceSnapshot)
    (acc : RelaySurfaces) : Prop where
  surfaces : ∀ s ∈ done, RelaySurfaceValid sceneGeneration s
  nodup : (done.map (·.id)).Nodup
  ids : ∀ id, acc.surfaceIds.contains id = true ↔ ∃ s ∈ done, s.id = id

theorem RelayedSurfaces.nil (g : Nat) : RelayedSurfaces g [] {} where
  surfaces := by simp
  nodup := by simp
  ids := by simp [OrdMap.contains_empty]

theorem relaySurface_step {acc' : RelaySurfaces} (hacc : RelayedSurfaces g done acc)
    (h : relaySurface g acc s = .ok acc') : RelayedSurfaces g (done ++ [s]) acc' := by
  unfold relaySurface at h
  split_ifs at h with hid hsized hextent
  cases hh : relayHandle g acc.expectedHandles s with
  | error e => simp [hh, Except.map] at h
  | ok handles =>
    simp only [hh, Except.map, Except.ok.injEq] at h
    subst h
    have hhandle := relayHandle_ok hh
    rw [not_or] at hid hextent
    refine ⟨fun t ht => ?_, ?_, fun id => ?_⟩
    · rcases List.mem_append.mp ht with ht | ht
      · exact hacc.surfaces t ht
      · rw [List.mem_singleton.mp ht]
        refine ⟨hid.1, fun hv => ?_, not_lt.mp hextent.1, not_lt.mp hextent.2,
          fun handle hp => (hhandle handle hp).1, fun handle hp => (hhandle handle hp).2.1,
          fun handle hp => (hhandle handle hp).2.2⟩
        exact not_or.mp fun hzero => hsized ⟨hv, hzero⟩
    · rw [List.map_append, List.nodup_append]
      refine ⟨hacc.nodup, by simp, ?_⟩
      intro a ha b hb
      obtain ⟨t, ht, rfl⟩ := List.mem_map.mp ha
      rw [List.map_singleton, List.mem_singleton] at hb
      subst hb
      exact fun heq => hid.2 ((hacc.ids s.id).mpr ⟨t, ht, heq⟩)
    · rw [OrdSet.contains_insert, hacc.ids]
      simp only [List.mem_append, List.mem_singleton, or_and_right, exists_or, exists_eq_left]
      rw [or_comm, eq_comm (a := id)]

theorem relaySurface_total (hacc : RelayedSurfaces g done acc) (hs : RelaySurfaceValid g s)
    (hid : ∀ t ∈ done, t.id ≠ s.id) : ∃ acc', relaySurface g acc s = .ok acc' := by
  have hfresh : ¬ (s.id = "" ∨ acc.surfaceIds.contains s.id = true) := by
    rintro (hempty | hseen)
    · exact hs.id hempty
    · obtain ⟨t, ht, heq⟩ := (hacc.ids s.id).mp hseen
      exact hid t ht heq
  have hsized : ¬ (s.placement.visible = true ∧
      (s.placement.width = 0 ∨ s.placement.height = 0)) := by
    rintro ⟨hv, hzero⟩
    exact not_or.mpr (hs.sized hv) hzero
  obtain ⟨handles, hhandles⟩ := relayHandle_total acc.expectedHandles hs
  rw [relaySurface, if_neg hfresh, if_neg hsized,
    if_neg (not_or.mpr ⟨not_lt.mpr hs.right, not_lt.mpr hs.bottom⟩), hhandles]
  exact ⟨_, rfl⟩

theorem checkFocus_ok :
    Displayd.checkFocus surfaceIds focus = .ok () ↔
      ∀ id, focus = .surface id → surfaceIds.contains id = true := by
  cases focus <;> simp [Displayd.checkFocus]

theorem checkOwner_ok {owner : String} :
    Displayd.checkOwner surfaceIds owner = .ok () ↔ surfaceIds.contains owner = true := by
  simp [Displayd.checkOwner]

/-- What a scene that passed is known to be. -/
theorem validateRelayScene_valid {relay : RelayScene} {require : Bool}
    {usage : RelayResourceUsage} (h : validateRelayScene relay require = .ok usage) :
    ValidRelayScene relay.scene := by
  unfold validateRelayScene at h
  dsimp only at h
  split_ifs at h with htarget hversion hsurfaces hpayloads hbytes
  obtain ⟨acc, hacc, h⟩ := bind_eq_ok.mp h
  obtain ⟨hfocus, h⟩ := check_eq_ok.mp h
  obtain ⟨howners, -⟩ := check_eq_ok.mp h
  have hrelayed : RelayedSurfaces relay.scene.sceneGeneration relay.scene.surfaces acc :=
    foldlM_prefix (RelayedSurfaces _) (fun _ _ _ _ => relaySurface_step) (.nil _) hacc
  refine ⟨htarget, by simpa using hversion, not_lt.mp hsurfaces, hrelayed.surfaces,
    hrelayed.nodup, fun id hid => ?_, fun id hid => ?_⟩
  · exact (hrelayed.ids id).mp (checkFocus_ok.mp hfocus id hid)
  · exact (hrelayed.ids id).mp (checkOwner_ok.mp (checkAll_ok.mp howners id hid))

/-- Without payloads nothing else is asked of it. -/
theorem validateRelayScene_bare :
    (∃ usage, validateRelayScene ⟨scene, []⟩ false = .ok usage) ↔ ValidRelayScene scene := by
  constructor
  · rintro ⟨usage, h⟩
    exact validateRelayScene_valid h
  · intro h
    obtain ⟨acc, hacc⟩ : ∃ acc, scene.surfaces.foldlM (relaySurface scene.sceneGeneration) {} =
        .ok acc := by
      refine foldlM_prefix_total (RelayedSurfaces scene.sceneGeneration)
        (fun _ _ _ _ => relaySurface_step) ?_ (.nil _)
      intro done s rest acc hl hacc
      have hmem : s ∈ scene.surfaces := by rw [hl]; simp
      have hnodup := h.nodup
      rw [hl, List.map_append, List.nodup_append] at hnodup
      exact relaySurface_total hacc (h.surfaces s hmem) fun t ht =>
        hnodup.2.2 t.id (List.mem_map_of_mem ht) s.id (by simp)
    have hrelayed : RelayedSurfaces scene.sceneGeneration scene.surfaces acc :=
      foldlM_prefix (RelayedSurfaces _) (fun _ _ _ _ => relaySurface_step) (.nil _) hacc
    have hfocus : Displayd.checkFocus acc.surfaceIds scene.focus = .ok () :=
      checkFocus_ok.mpr fun id hid => (hrelayed.ids id).mpr (h.focus id hid)
    have howners : checkAll (Displayd.checkOwner acc.surfaceIds)
        (Displayd.selectionOwners scene.selection) = .ok () :=
      checkAll_ok.mpr fun id hid => checkOwner_ok.mpr ((hrelayed.ids id).mpr (h.owners id hid))
    refine ⟨⟨scene.surfaces.length, 0, 0⟩, ?_⟩
    unfold validateRelayScene relayResourceUsage
    dsimp only
    rw [if_neg h.target, if_neg (by simpa using h.version), if_neg (not_lt.mpr h.count),
      if_neg (by simp), if_neg (by simp), hacc, ok_bind, hfocus, ok_bind, howners, ok_bind]
    rfl

/-- A scene without handles needs no payloads. -/
theorem validateRelayScene_handleless (h : ValidRelayScene scene)
    (hnone : ∀ s ∈ scene.surfaces, s.pixelTransport = none) (require : Bool) :
    ∃ usage, validateRelayScene ⟨scene, []⟩ require = .ok usage := by
  obtain ⟨usage, husage⟩ := validateRelayScene_bare.mpr h
  refine ⟨usage, ?_⟩
  unfold validateRelayScene at husage ⊢
  dsimp only at husage ⊢
  split_ifs at husage ⊢ with htarget hversion hsurfaces hpayloads hbytes
  obtain ⟨acc, hacc, husage⟩ := bind_eq_ok.mp husage
  have hhandles : acc.expectedHandles = OrdMap.empty := by
    refine foldlM_invariant (fun acc => acc.expectedHandles = OrdMap.empty) ?_ rfl hacc
    intro before s after hs hbefore hstep
    have hkeep : relayHandle scene.sceneGeneration before.expectedHandles s =
        .ok before.expectedHandles := by
      rw [relayHandle, hnone s hs]
    unfold relaySurface at hstep
    split_ifs at hstep
    rw [hkeep] at hstep
    cases hstep
    exact hbefore
  obtain ⟨hfocus, husage⟩ := check_eq_ok.mp husage
  obtain ⟨howners, husage⟩ := check_eq_ok.mp husage
  cases husage
  rw [hacc, ok_bind, hfocus, ok_bind, howners, ok_bind, List.foldlM_nil, hhandles]
  have hsubset : OrdSet.subset (OrdMap.empty : OrdSet PixelTransportHandle) OrdMap.empty = true :=
    rfl
  simp [bind, Except.bind, pure, Except.pure, hsubset]

/-- The checks on the place of a surface. -/
structure PlacementValid (p : SurfacePlacement) : Prop where
  sized : p.visible = true → p.width ≠ 0 ∧ p.height ≠ 0
  right : p.x + p.width ≤ i32Max
  bottom : p.y + p.height ≤ i32Max

/-! What a role does to the place of a surface, on the signed numbers themselves. -/

def panelHeight (metadata : LayerMetadata) : Int :=
  if 0 < metadata.exclusiveZone then metadata.exclusiveZone else stubPanelHeight

/-- A layer surface of these margins fits into the output and into the coordinates. -/
structure LayerFits (metadata : LayerMetadata) (output : OutputMode) (visible : Bool) : Prop where
  across : LayerLayout.anchoredAcross metadata →
    fitsI32 (metadata.marginLeft + metadata.marginRight) ∧
      (visible → metadata.marginLeft + metadata.marginRight < output.width) ∧
      metadata.marginLeft +
        max 0 (output.width - max 0 (metadata.marginLeft + metadata.marginRight)) ≤ i32Max
  free : ¬ LayerLayout.anchoredAcross metadata →
    metadata.marginLeft + stubScreenWidth ≤ i32Max
  top : LayerLayout.anchoredTop metadata → metadata.marginTop + panelHeight metadata ≤ i32Max
  bottom : ¬ LayerLayout.anchoredTop metadata → LayerLayout.anchoredBottom metadata →
    fitsI32 (wrapI32 (max 0 (output.height - panelHeight metadata)) - metadata.marginBottom) ∧
      wrapI32 (max 0 (output.height - panelHeight metadata)) - metadata.marginBottom +
        panelHeight metadata ≤ i32Max
  loose : ¬ LayerLayout.anchoredTop metadata → ¬ LayerLayout.anchoredBottom metadata →
    panelHeight metadata ≤ i32Max

/-- The place of the role fits. -/
def RoleFits (output : OutputMode) (visible : Bool) : WaylandSurfaceRole → Prop
  | .background => (output.width : Int) ≤ i32Max ∧ (output.height : Int) ≤ i32Max
  | .layer metadata => LayerFits metadata output visible
  | _ => True

section

variable (metadata : LayerMetadata)
include metadata

theorem panelHeight_eq : (LayerLayout.height metadata : Int) = panelHeight metadata := by
  unfold LayerLayout.height panelHeight
  split_ifs with hzone
  · exact Int.toNat_of_nonneg hzone.le
  · rfl

theorem panelHeight_pos : 0 < panelHeight metadata := by
  unfold panelHeight
  split_ifs with hzone
  · exact hzone
  · decide

theorem bottomRow_eq (output : OutputMode) :
    LayerLayout.bottomRow metadata output =
      wrapI32 (max 0 (output.height - panelHeight metadata)) := by
  unfold LayerLayout.bottomRow
  rw [← panelHeight_eq]
  congr 1
  omega

theorem layerAcross_iff (visible : Bool) (hwidth : 0 < output.width) :
    (¬ (LayerLayout.anchoredAcross metadata = true ∧
        ¬ fitsI32 (metadata.marginLeft + metadata.marginRight)) ∧
      (visible = true → LayerLayout.width metadata output ≠ 0) ∧
      metadata.marginLeft + LayerLayout.width metadata output ≤ i32Max) ↔
    (LayerLayout.anchoredAcross metadata = true →
      fitsI32 (metadata.marginLeft + metadata.marginRight) ∧
        (visible = true → metadata.marginLeft + metadata.marginRight < output.width) ∧
        metadata.marginLeft +
          max 0 (output.width - max 0 (metadata.marginLeft + metadata.marginRight)) ≤ i32Max) ∧
      (¬ LayerLayout.anchoredAcross metadata = true →
        metadata.marginLeft + stubScreenWidth ≤ i32Max) := by
  unfold LayerLayout.width
  by_cases hacross : LayerLayout.anchoredAcross metadata = true
  · simp only [hacross, true_and, if_true, true_imp_iff, not_true, false_imp_iff, and_true, not_not]
    refine and_congr_right fun hfits => ?_
    rw [wrapI32_of_fits hfits]
    refine and_congr (imp_congr_right fun _ => ?_) ?_
    · omega
    · omega
  · simp only [hacross, false_and, not_false_iff, true_and, if_false, true_imp_iff,
      false_imp_iff, Bool.false_eq_true]
    refine and_iff_right fun _ => ?_
    decide

theorem layerDown_iff (output : OutputMode) :
    (¬ ((!LayerLayout.anchoredTop metadata) = true ∧ LayerLayout.anchoredBottom metadata = true ∧
        ¬ fitsI32 (LayerLayout.bottomRow metadata output - metadata.marginBottom)) ∧
      LayerLayout.y metadata output + LayerLayout.height metadata ≤ i32Max) ↔
    (LayerLayout.anchoredTop metadata = true →
      metadata.marginTop + panelHeight metadata ≤ i32Max) ∧
    (¬ LayerLayout.anchoredTop metadata = true → LayerLayout.anchoredBottom metadata = true →
      fitsI32 (wrapI32 (max 0 (output.height - panelHeight metadata)) - metadata.marginBottom) ∧
        wrapI32 (max 0 (output.height - panelHeight metadata)) - metadata.marginBottom +
          panelHeight metadata ≤ i32Max) ∧
    (¬ LayerLayout.anchoredTop metadata = true → ¬ LayerLayout.anchoredBottom metadata = true →
      panelHeight metadata ≤ i32Max) := by
  unfold LayerLayout.y
  rw [panelHeight_eq, bottomRow_eq]
  by_cases htop : LayerLayout.anchoredTop metadata = true
  · simp [htop]
  · by_cases hbottom : LayerLayout.anchoredBottom metadata = true
    · simp only [htop, hbottom, Bool.not_false, true_and, if_true, if_false, false_imp_iff,
        not_false_iff, true_imp_iff, not_true, and_true, not_not, Bool.false_eq_true]
      refine and_congr_right fun hfits => ?_
      rw [wrapI32_of_fits hfits]
    · simp [htop, hbottom]

end

/-- A layer surface gets a valid place, without overflow, exactly when it fits. -/
theorem layerFits_iff {metadata : LayerMetadata} (placement : SurfacePlacement)
    (hwidth : 0 < output.width) :
    (¬ RoleLayoutOverflows (.layer metadata) output ∧
      PlacementValid (roleBasedPlacement placement (.layer metadata) output)) ↔
      LayerFits metadata output placement.visible := by
  have hheight : LayerLayout.height metadata ≠ 0 := by
    have hpos := panelHeight_pos metadata
    rw [← panelHeight_eq] at hpos
    omega
  have hacross := layerAcross_iff metadata placement.visible hwidth
  have hdown := layerDown_iff metadata output
  constructor
  · rintro ⟨hoverflow, hsized, hright, hbottom⟩
    obtain ⟨ha, hfree⟩ := hacross.mp ⟨fun h => hoverflow (.inl h), fun hv => (hsized hv).1, hright⟩
    obtain ⟨htop, hb, hloose⟩ := hdown.mp ⟨fun h => hoverflow (.inr h), hbottom⟩
    exact ⟨ha, hfree, htop, hb, hloose⟩
  · rintro ⟨ha, hfree, htop, hb, hloose⟩
    obtain ⟨hover, hsized, hright⟩ := hacross.mpr ⟨ha, hfree⟩
    obtain ⟨hover', hbottom⟩ := hdown.mpr ⟨htop, hb, hloose⟩
    exact ⟨fun h => h.elim hover hover', fun hv => ⟨hsized hv, hheight⟩, hright, hbottom⟩

/-- Of the roles only the background and the layers can fail to find room. -/
theorem roleFits_iff {role : WaylandSurfaceRole} {placement : SurfacePlacement}
    (hplacement : PlacementValid placement) (hwidth : 0 < output.width)
    (hheight : 0 < output.height) :
    (¬ RoleLayoutOverflows role output ∧
      PlacementValid (roleBasedPlacement placement role output)) ↔
      RoleFits output placement.visible role := by
  cases role with
  | layer metadata => exact layerFits_iff placement hwidth
  | background =>
    constructor
    · rintro ⟨-, hvalid⟩
      have hright := hvalid.right
      have hbottom := hvalid.bottom
      simp only [roleBasedPlacement, Int.zero_add] at hright hbottom
      exact ⟨hright, hbottom⟩
    · rintro ⟨hright, hbottom⟩
      refine ⟨fun h => h, fun _ => ⟨hwidth.ne', hheight.ne'⟩, ?_, ?_⟩
      · simpa [roleBasedPlacement] using hright
      · simpa [roleBasedPlacement] using hbottom
  | toplevel =>
    have hsame : PlacementValid (roleBasedPlacement placement .toplevel output) :=
      ⟨hplacement.sized, hplacement.right, hplacement.bottom⟩
    exact iff_of_true ⟨fun h => h, hsame⟩ trivial
  | popup => exact iff_of_true ⟨fun h => h, hplacement⟩ trivial
  | lock => exact iff_of_true ⟨fun h => h, hplacement⟩ trivial
  | cursor => exact iff_of_true ⟨fun h => h, hplacement⟩ trivial

/-- The reconciled scene may be relayed, and nothing was lost on the way to it. -/
structure ReconcileAdmissible (scene : CompdScene) (registry : SurfaceRegistrySnapshot)
    (output : OutputMode) : Prop where
  passes : ∃ usage, validateRelayScene
    ⟨(reconcileSceneWithRegistry scene registry output).scene, []⟩ false = .ok usage
  valid : ValidRelayScene (reconcileSceneWithRegistry scene registry output).scene
  exact : ∀ s ∈ scene.surfaces, ∀ r, (activeSurfaceRegistry registry).get? s.id = some r →
    ¬ RoleLayoutOverflows r.role output
  dropped : ∀ s ∈ scene.surfaces, (activeSurfaceRegistry registry).contains s.id = false →
    s.id ∈ (reconcileSceneWithRegistry scene registry output).droppedSurfaceIds ∧
      ∀ t ∈ (reconcileSceneWithRegistry scene registry output).scene.surfaces, t.id ≠ s.id

/-- The roles fit, and the active owners of the selection are surfaces of the scene. -/
structure Reconcilable (scene : CompdScene) (registry : SurfaceRegistrySnapshot)
    (output : OutputMode) : Prop where
  fits : ∀ s ∈ scene.surfaces, ∀ r, (activeSurfaceRegistry registry).get? s.id = some r →
    RoleFits output s.placement.visible r.role
  owners : ∀ id ∈ Displayd.selectionOwners registry.selection,
    (activeSurfaceRegistry registry).contains id = true → ∃ s ∈ scene.surfaces, s.id = id

section Kept

variable {scene : CompdScene} {registry : SurfaceRegistrySnapshot} {output : OutputMode}

variable (scene registry output) in
theorem reconciled_ids_sublist :
    List.Sublist ((reconcileSceneWithRegistry scene registry output).scene.surfaces.map (·.id))
      (scene.surfaces.map (·.id)) := by
  rw [reconcile_surfaces, List.map_map]
  induction scene.surfaces with
  | nil => exact List.Sublist.slnil
  | cons s surfaces ih =>
    rw [List.filterMap_cons]
    unfold keptSurface
    cases hr : (activeSurfaceRegistry registry).get? s.id with
    | none => exact ih.cons _
    | some r =>
      simp only [Option.map_some, List.map_cons, Function.comp_apply, layOut_id,
        adoptRegistrySurface_id]
      exact ih.cons_cons _

/-- The surfaces of the scene that are active are still there. -/
theorem exists_reconciled {id : String} :
    (∃ t ∈ (reconcileSceneWithRegistry scene registry output).scene.surfaces, t.id = id) ↔
      (activeSurfaceRegistry registry).contains id = true ∧ ∃ s ∈ scene.surfaces, s.id = id := by
  constructor
  · rintro ⟨t, ht, rfl⟩
    obtain ⟨s, hs, r, hr, rfl⟩ := mem_reconciled.mp ht
    exact ⟨OrdMap.contains_iff.mpr ⟨r, hr⟩, s, hs, rfl⟩
  · rintro ⟨hactive, s, hs, rfl⟩
    obtain ⟨r, hr⟩ := OrdMap.contains_iff.mp hactive
    exact ⟨_, mem_reconciled.mpr ⟨s, hs, r, hr, rfl⟩, rfl⟩

/-- The focus is on an active surface of the scene. -/
theorem reconciledFocus_kept (hfocus : ∀ id, scene.focus = .surface id →
    ∃ s ∈ scene.surfaces, s.id = id) {id : String}
    (h : (reconcileSceneWithRegistry scene registry output).scene.focus = .surface id) :
    (activeSurfaceRegistry registry).contains id = true ∧ ∃ s ∈ scene.surfaces, s.id = id := by
  rw [reconcile_focus] at h
  refine ⟨focusable_active (reconcileFocus_focusable h), ?_⟩
  have hfallback : fallbackFocusTarget
      (scene.surfaces.filterMap (keptSurface (activeSurfaceRegistry registry)))
      (activeSurfaceRegistry registry) = .surface id → ∃ s ∈ scene.surfaces, s.id = id := by
    intro hf
    obtain ⟨-, kept, hkept, rfl⟩ := fallbackFocusTarget_surface hf
    obtain ⟨s, hs, hk⟩ := List.mem_filterMap.mp hkept
    obtain ⟨r, -, rfl⟩ := keptSurface_eq_some.mp hk
    exact ⟨s, hs, rfl⟩
  unfold reconcileFocus at h
  split at h
  · rename_i previous hprevious
    split_ifs at h
    · injection h with h
      subst h
      exact hfocus previous hprevious
    · exact hfallback h
  · exact hfallback h

/-- An owner of the reconciled selection was one before, or has the focus. -/
theorem reconciledOwner_source {previous : Option String} {payloadId : Option String}
    {sourceSerial : Option Nat} {activeRegistry : ActiveRegistry} {id : String}
    (h : (reconcileSelectionSlot previous payloadId sourceSerial focus activeRegistry).owner =
      some id) :
    activeRegistry.contains id = true ∧ (previous = some id ∨ focus = .surface id) := by
  unfold reconcileSelectionSlot at h
  split at h
  · rename_i owner
    split_ifs at h with hactive
    · injection h with h
      subst h
      exact ⟨hactive, .inl rfl⟩
    · obtain ⟨hfocus, hid⟩ := handoffOwner_active h
      exact ⟨hid, .inr hfocus⟩
  · cases h

theorem mem_selectionOwners {selection : WaylandSelectionState} {id : String} :
    id ∈ Displayd.selectionOwners selection ↔
      selection.clipboardOwner = some id ∨ selection.primarySelectionOwner = some id := by
  unfold Displayd.selectionOwners
  rw [List.mem_append, Option.mem_toList, Option.mem_toList]

/-- Every active owner keeps its selection. -/
theorem mem_reconciledOwners {id : String}
    (hid : id ∈ Displayd.selectionOwners registry.selection)
    (hactive : (activeSurfaceRegistry registry).contains id = true) :
    id ∈ Displayd.selectionOwners
      (reconcileSceneWithRegistry scene registry output).scene.selection := by
  rw [reconcile_selection]
  rcases mem_selectionOwners.mp hid with howner | howner
  · refine mem_selectionOwners.mpr (.inl ?_)
    simp [reconcileSelection, reconcileSelectionSlot, howner, hactive]
  · refine mem_selectionOwners.mpr (.inr ?_)
    simp [reconcileSelection, reconcileSelectionSlot, howner, hactive]

/-- The surface a kept surface came from has its checks, but for its place. -/
theorem reconciledSurface_valid {r : WaylandSurfaceState} (hs : RelaySurfaceValid g s) :
    RelaySurfaceValid g (applyRoleBasedLayout (adoptRegistrySurface s r) r.role output) ↔
      PlacementValid (roleBasedPlacement s.placement r.role output) := by
  constructor
  · intro h
    exact ⟨h.sized, h.right, h.bottom⟩
  · intro h
    -- pixels are kept only where the buffer is the one they belong to
    have hpixels : ∀ handle, (applyRoleBasedLayout (adoptRegistrySurface s r) r.role
        output).pixelTransport = some handle →
        s.pixelTransport = some handle ∧ s.bufferGeneration = r.bufferGeneration := by
      intro handle hhandle
      simp only [applyRoleBasedLayout, adoptRegistrySurface] at hhandle
      split_ifs at hhandle with hsame
      exact ⟨hhandle, not_not.mp hsame⟩
    refine ⟨hs.id, h.sized, h.right, h.bottom, fun handle hp => ?_, fun handle hp => ?_,
      fun handle hp hb => ?_⟩
    · exact hs.surfaceId handle (hpixels handle hp).1
    · exact hs.generation handle (hpixels handle hp).1
    · obtain ⟨hsome, hsame⟩ := hpixels handle hp
      simp only [applyRoleBasedLayout, adoptRegistrySurface] at hb ⊢
      rw [← hsame] at hb ⊢
      exact hs.buffer handle hsome hb

end Kept

/-- A scene that may be relayed stays so exactly when the roles of its surfaces fit and the
active owners of the selection are among them. -/
theorem reconcileAdmissible_iff {relay : RelayScene} {require : Bool}
    {usage : RelayResourceUsage} {registry : SurfaceRegistrySnapshot} {output : OutputMode}
    (hrelay : validateRelayScene relay require = .ok usage) (hwidth : 0 < output.width)
    (hheight : 0 < output.height) :
    ReconcileAdmissible relay.scene registry output ↔
      Reconcilable relay.scene registry output := by
  have hvalid := validateRelayScene_valid hrelay
  have hplacement : ∀ s ∈ relay.scene.surfaces, PlacementValid s.placement := fun s hs =>
    ⟨(hvalid.surfaces s hs).sized, (hvalid.surfaces s hs).right, (hvalid.surfaces s hs).bottom⟩
  constructor
  · intro h
    refine ⟨fun s hs r hr => ?_, fun id hid hactive => ?_⟩
    · have hsurface := h.valid.surfaces _ (mem_reconciled.mpr ⟨s, hs, r, hr, rfl⟩)
      exact (roleFits_iff (hplacement s hs) hwidth hheight).mp
        ⟨h.exact s hs r hr, (reconciledSurface_valid (hvalid.surfaces s hs)).mp hsurface⟩
    · have howner := h.valid.owners id (mem_reconciledOwners hid hactive)
      exact (exists_reconciled.mp howner).2
  · intro h
    have hfits := fun s hs r hr =>
      (roleFits_iff (hplacement s hs) hwidth hheight).mpr (h.fits s hs r hr)
    have hfocus : ∀ id, (reconcileSceneWithRegistry relay.scene registry output).scene.focus =
        .surface id → _ := fun id hid => reconciledFocus_kept hvalid.focus hid
    have hscene : ValidRelayScene (reconcileSceneWithRegistry relay.scene registry output).scene := by
      refine ⟨hvalid.target, hvalid.version, ?_, fun t ht => ?_, ?_, fun id hid => ?_,
        fun id hid => ?_⟩
      · have hlength := (reconciled_ids_sublist relay.scene registry output).length_le
        rw [List.length_map, List.length_map] at hlength
        exact hlength.trans hvalid.count
      · obtain ⟨s, hs, r, hr, rfl⟩ := mem_reconciled.mp ht
        exact (reconciledSurface_valid (hvalid.surfaces s hs)).mpr (hfits s hs r hr).2
      · exact (reconciled_ids_sublist _ _ _).nodup hvalid.nodup
      · exact exists_reconciled.mpr (hfocus id hid)
      · rw [reconcile_selection] at hid
        refine exists_reconciled.mpr ?_
        rcases mem_selectionOwners.mp hid with howner | howner
        · obtain ⟨hactive, hprevious | hfocused⟩ := reconciledOwner_source howner
          · exact ⟨hactive, h.owners id (mem_selectionOwners.mpr (.inl hprevious)) hactive⟩
          · exact hfocus id hfocused
        · obtain ⟨hactive, hprevious | hfocused⟩ := reconciledOwner_source howner
          · exact ⟨hactive, h.owners id (mem_selectionOwners.mpr (.inr hprevious)) hactive⟩
          · exact hfocus id hfocused
    refine ⟨validateRelayScene_bare.mpr hscene, hscene, fun s hs r hr => (hfits s hs r hr).1,
      fun s hs hgone => ⟨?_, fun t ht heq => ?_⟩⟩
    · rw [reconcile_dropped]
      exact List.mem_map.mpr ⟨s, List.mem_filter.mpr ⟨hs, by simp [hgone]⟩, rfl⟩
    · have hactive := (exists_reconciled.mp ⟨t, ht, rfl⟩).1
      rw [heq, hgone] at hactive
      cases hactive

/-- A scene of one window. -/
def windowScene : CompdScene where
  targetOutput := "eDP-1"
  focus := .surface "window-1"
  selection := {}
  surfaces := [{ id := "window-1", placement := ⟨0, 0, 640, 480, 0, true⟩ }]
  sceneEpoch := 1
  sceneGeneration := 1

def windowRegistry (role : WaylandSurfaceRole) : SurfaceRegistrySnapshot where
  generation := 1
  surfaces := [{ id := "window-1", role := role, mapped := true, bufferAttached := true }]

theorem windowScene_reconcilable :
    ReconcileAdmissible windowScene (windowRegistry .toplevel) ⟨"eDP-1", 1920, 1080⟩ := by
  have hrelay : validateRelayScene ⟨windowScene, []⟩ true = .ok ⟨1, 0, 0⟩ := by decide +kernel
  refine (reconcileAdmissible_iff hrelay (by decide) (by decide)).mpr ⟨?_, ?_⟩
  · intro s _ r hr
    obtain ⟨hmem, -, -⟩ := activeSurfaceRegistry_source hr
    rw [List.mem_singleton.mp hmem]
    trivial
  · intro id hid
    cases hid

/-- A panel whose margins add up to more than a signed word. -/
def wideMargins : LayerMetadata where
  layer := 2
  anchor := 3
  marginLeft := 1
  marginRight := i32Max

theorem wideMargins_overflow :
    validateRelayScene ⟨windowScene, []⟩ true = .ok ⟨1, 0, 0⟩ ∧
      ¬ ReconcileAdmissible windowScene (windowRegistry (.layer wideMargins))
        ⟨"eDP-1", 1920, 1080⟩ := by
  refine ⟨by decide +kernel, fun h => ?_⟩
  refine h.exact _ (List.mem_singleton_self _)
    { id := "window-1", role := .layer wideMargins, mapped := true, bufferAttached := true }
    (by decide +kernel) (.inl ⟨by decide, by decide⟩)

end TuffXwin.Compd
