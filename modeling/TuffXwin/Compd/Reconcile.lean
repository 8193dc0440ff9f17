import TuffXwin.Common.SurfaceRegistry
import TuffXwin.Compd.Relay

/-! compd fits a scene to the surface registry. Surfaces that are not active go, the others
take what the registry knows of them and the place of their role; focus and selection move
to surfaces that are still there. Signed sums are those of a release build, which wraps;
`RoleLayoutOverflows` says where a build with overflow checks stops instead. -/

namespace TuffXwin.Compd
open Lib

variable {surfaces : List SurfaceSnapshot}

abbrev ActiveRegistry := OrdMap String WaylandSurfaceState

variable {activeRegistry : ActiveRegistry}

def isFocusableRole : WaylandSurfaceRole → Bool
  | .toplevel | .popup | .lock => true
  | _ => false

/-- The surface with this id takes the focus. -/
def focusable (activeRegistry : ActiveRegistry) (id : String) : Bool :=
  ((activeRegistry.get? id).map fun surface => isFocusableRole surface.role).getD false

def fallbackFocusTarget (surfaces : List SurfaceSnapshot) (activeRegistry : ActiveRegistry) :
    FocusTarget :=
  ((maxByKey (·.placement.z) (surfaces.filter fun surface =>
    surface.placement.visible && focusable activeRegistry surface.id)).map fun surface =>
      FocusTarget.surface surface.id).getD .none

def reconcileFocus (previousFocus : FocusTarget) (surfaces : List SurfaceSnapshot)
    (activeRegistry : ActiveRegistry) : FocusTarget :=
  match previousFocus with
  | .surface id =>
    if focusable activeRegistry id then .surface id
    else fallbackFocusTarget surfaces activeRegistry
  | .none => fallbackFocusTarget surfaces activeRegistry

structure ReconciledSlot where
  owner : Option String
  payloadId : Option String
  sourceSerial : Option Nat
  changed : Bool
  deriving DecidableEq, Repr

/-- Where a selection goes whose owner is no longer active. -/
def handoffOwner (focus : FocusTarget) (activeRegistry : ActiveRegistry) : Option String :=
  match focus with
  | .surface id => if focusable activeRegistry id then some id else none
  | .none => none

def reconcileSelectionSlot (previousOwner previousPayloadId : Option String)
    (previousSourceSerial : Option Nat) (focus : FocusTarget)
    (activeRegistry : ActiveRegistry) : ReconciledSlot :=
  match previousOwner with
  | some id =>
    if activeRegistry.contains id then
      ⟨some id, previousPayloadId, previousSourceSerial, false⟩
    else ⟨handoffOwner focus activeRegistry, none, none, true⟩
  | none => ⟨none, none, none, previousPayloadId.isSome || previousSourceSerial.isSome⟩

def reconcileSelection (previousSelection : WaylandSelectionState) (focus : FocusTarget)
    (activeRegistry : ActiveRegistry) : WaylandSelectionState × Nat :=
  let clipboard := reconcileSelectionSlot previousSelection.clipboardOwner
    previousSelection.clipboardPayloadId previousSelection.clipboardSourceSerial focus
    activeRegistry
  let primary := reconcileSelectionSlot previousSelection.primarySelectionOwner
    previousSelection.primarySelectionPayloadId previousSelection.primarySelectionSourceSerial
    focus activeRegistry
  ({ clipboardOwner := clipboard.owner
     clipboardPayloadId := clipboard.payloadId
     clipboardSourceSerial := clipboard.sourceSerial
     clipboardOffer := previousSelection.clipboardOffer
     primarySelectionOwner := primary.owner
     primarySelectionPayloadId := primary.payloadId
     primarySelectionSourceSerial := primary.sourceSerial
     primaryOffer := previousSelection.primaryOffer },
    clipboard.changed.toNat + primary.changed.toNat)

def stubScreenWidth : Nat := 1920
def stubScreenHeight : Nat := 1080
def stubPanelHeight : Nat := 36

namespace LayerLayout

variable (metadata : LayerMetadata) (output : OutputMode)

def anchoredAcross : Bool := metadata.anchor &&& 1 ≠ 0 && metadata.anchor &&& 2 ≠ 0

def anchoredTop : Bool := metadata.anchor &&& 4 ≠ 0

def anchoredBottom : Bool := metadata.anchor &&& 8 ≠ 0

def width : Nat :=
  if anchoredAcross metadata then
    output.width - (wrapI32 (metadata.marginLeft + metadata.marginRight)).toNat
  else stubScreenWidth

def height : Nat :=
  if 0 < metadata.exclusiveZone then metadata.exclusiveZone.toNat else stubPanelHeight

/-- The row of a surface at the bottom, before its margin. -/
def bottomRow : Int := wrapI32 ((output.height - height metadata : Nat) : Int)

def y : Int :=
  if anchoredTop metadata then metadata.marginTop
  else if anchoredBottom metadata then
    wrapI32 (bottomRow metadata output - metadata.marginBottom)
  else 0

def z : Int :=
  match metadata.layer with
  | 0 => 10
  | 1 => 20
  | 2 => 100
  | 3 => 200
  | _ => 100

end LayerLayout

/-- The place a role gives a surface. -/
def roleBasedPlacement (placement : SurfacePlacement) (role : WaylandSurfaceRole)
    (output : OutputMode) : SurfacePlacement :=
  match role with
  | .background =>
    { placement with x := 0, y := 0, width := output.width, height := output.height, z := 0 }
  | .layer metadata =>
    { placement with
      x := metadata.marginLeft
      y := LayerLayout.y metadata output
      width := LayerLayout.width metadata output
      height := LayerLayout.height metadata
      z := LayerLayout.z metadata }
  | .toplevel => { placement with z := if placement.z < 30 then 30 else placement.z }
  | _ => placement

def applyRoleBasedLayout (surface : SurfaceSnapshot) (role : WaylandSurfaceRole)
    (output : OutputMode) : SurfaceSnapshot :=
  { surface with placement := roleBasedPlacement surface.placement role output }

def fitsI32 (v : Int) : Prop := i32Min ≤ v ∧ v ≤ i32Max

instance (v : Int) : Decidable (fitsI32 v) := inferInstanceAs (Decidable (_ ∧ _))

/-- A sum of the layout leaves the signed 32-bit range. -/
def RoleLayoutOverflows (role : WaylandSurfaceRole) (output : OutputMode) : Prop :=
  match role with
  | .layer metadata =>
    (LayerLayout.anchoredAcross metadata ∧
        ¬ fitsI32 (metadata.marginLeft + metadata.marginRight)) ∨
      (!LayerLayout.anchoredTop metadata ∧ LayerLayout.anchoredBottom metadata ∧
        ¬ fitsI32 (LayerLayout.bottomRow metadata output - metadata.marginBottom))
  | _ => False

instance (role : WaylandSurfaceRole) (output : OutputMode) :
    Decidable (RoleLayoutOverflows role output) := by
  unfold RoleLayoutOverflows
  cases role <;> infer_instance

/-- What the registry knows of a surface. Pixels of another buffer are given up. -/
def adoptRegistrySurface (surface : SurfaceSnapshot) (registrySurface : WaylandSurfaceState) :
    SurfaceSnapshot :=
  { surface with
    appId := registrySurface.appId
    bufferHandle := registrySurface.bufferHandle
    bufferGeneration := registrySurface.bufferGeneration
    damageRects := registrySurface.damageRects
    pixelTransport :=
      if surface.bufferGeneration ≠ registrySurface.bufferGeneration then none
      else surface.pixelTransport }

structure Reconciling where
  keptSurfaces : List SurfaceSnapshot := []
  droppedSurfaceIds : List String := []
  updatedAppIds : Nat := 0

def reconcileSurface (activeRegistry : ActiveRegistry) (acc : Reconciling)
    (surface : SurfaceSnapshot) : Reconciling :=
  match activeRegistry.get? surface.id with
  | some registrySurface =>
    { acc with
      keptSurfaces := acc.keptSurfaces ++ [adoptRegistrySurface surface registrySurface]
      updatedAppIds :=
        acc.updatedAppIds + if surface.appId ≠ registrySurface.appId then 1 else 0 }
  | none => { acc with droppedSurfaceIds := acc.droppedSurfaceIds ++ [surface.id] }

def layOut (activeRegistry : ActiveRegistry) (output : OutputMode) (surface : SurfaceSnapshot) :
    SurfaceSnapshot :=
  match activeRegistry.get? surface.id with
  | some registrySurface => applyRoleBasedLayout surface registrySurface.role output
  | none => surface

structure SceneReconcileResult where
  scene : CompdScene
  droppedSurfaceIds : List String
  updatedAppIds : Nat
  selectionHandoffs : Nat
  deriving DecidableEq, Repr

def reconcileSceneWithRegistry (scene : CompdScene) (registry : SurfaceRegistrySnapshot)
    (output : OutputMode) : SceneReconcileResult :=
  let activeRegistry := activeSurfaceRegistry registry
  let reconciled := scene.surfaces.foldl (reconcileSurface activeRegistry) {}
  let focus := reconcileFocus scene.focus reconciled.keptSurfaces activeRegistry
  let selection := reconcileSelection registry.selection focus activeRegistry
  { scene :=
      { scene with
        focus := focus
        selection := selection.1
        surfaces := reconciled.keptSurfaces.map (layOut activeRegistry output) }
    droppedSurfaceIds := reconciled.droppedSurfaceIds
    updatedAppIds := reconciled.updatedAppIds
    selectionHandoffs := selection.2 }

/-! What the loop over the surfaces leaves. -/

/-- The surface as it is kept, before its layout. -/
def keptSurface (activeRegistry : ActiveRegistry) (surface : SurfaceSnapshot) :
    Option SurfaceSnapshot :=
  (activeRegistry.get? surface.id).map (adoptRegistrySurface surface)

theorem reconcileSurfaces (activeRegistry : ActiveRegistry) (surfaces : List SurfaceSnapshot)
    (acc : Reconciling) :
    let reconciled := surfaces.foldl (reconcileSurface activeRegistry) acc
    reconciled.keptSurfaces =
        acc.keptSurfaces ++ surfaces.filterMap (keptSurface activeRegistry) ∧
      reconciled.droppedSurfaceIds = acc.droppedSurfaceIds ++
        (surfaces.filter fun s => !activeRegistry.contains s.id).map (·.id) ∧
      reconciled.updatedAppIds = acc.updatedAppIds + surfaces.countP fun s =>
        (activeRegistry.get? s.id).any fun r => s.appId ≠ r.appId := by
  induction surfaces generalizing acc with
  | nil => simp
  | cons surface surfaces ih =>
    obtain ⟨hkept, hdropped, hupdated⟩ := ih (reconcileSurface activeRegistry acc surface)
    simp only [List.foldl_cons, List.filterMap_cons, List.filter_cons, List.countP_cons]
    rw [hkept, hdropped, hupdated]
    unfold reconcileSurface keptSurface OrdMap.contains
    cases hget : activeRegistry.get? surface.id with
    | none => simp
    | some registrySurface => by_cases hid : surface.appId = registrySurface.appId <;>
        simp [hid, Nat.add_assoc, Nat.add_comm]

theorem reconcileSceneWithRegistry_eq (scene : CompdScene) (registry : SurfaceRegistrySnapshot)
    (output : OutputMode) :
    let activeRegistry := activeSurfaceRegistry registry
    let kept := scene.surfaces.filterMap (keptSurface activeRegistry)
    let focus := reconcileFocus scene.focus kept activeRegistry
    let selection := reconcileSelection registry.selection focus activeRegistry
    reconcileSceneWithRegistry scene registry output =
      { scene :=
          { scene with
            focus := focus
            selection := selection.1
            surfaces := kept.map (layOut activeRegistry output) }
        droppedSurfaceIds :=
          (scene.surfaces.filter fun s => !activeRegistry.contains s.id).map (·.id)
        updatedAppIds := scene.surfaces.countP fun s =>
          (activeRegistry.get? s.id).any fun r => s.appId ≠ r.appId
        selectionHandoffs := selection.2 } := by
  obtain ⟨hkept, hdropped, hupdated⟩ :=
    reconcileSurfaces (activeSurfaceRegistry registry) scene.surfaces {}
  rw [List.nil_append] at hkept hdropped
  rw [Nat.zero_add] at hupdated
  simp only [reconcileSceneWithRegistry, hkept, hdropped, hupdated]

variable {scene : CompdScene} {registry : SurfaceRegistrySnapshot} {output : OutputMode}

theorem reconcile_surfaces :
    (reconcileSceneWithRegistry scene registry output).scene.surfaces =
      (scene.surfaces.filterMap (keptSurface (activeSurfaceRegistry registry))).map
        (layOut (activeSurfaceRegistry registry) output) := by
  rw [reconcileSceneWithRegistry_eq]

variable (scene registry output) in
theorem reconcile_focus :
    (reconcileSceneWithRegistry scene registry output).scene.focus =
      reconcileFocus scene.focus
        (scene.surfaces.filterMap (keptSurface (activeSurfaceRegistry registry)))
        (activeSurfaceRegistry registry) := by
  rw [reconcileSceneWithRegistry_eq]

theorem reconcile_selection :
    (reconcileSceneWithRegistry scene registry output).scene.selection =
      (reconcileSelection registry.selection
        (reconcileSceneWithRegistry scene registry output).scene.focus
        (activeSurfaceRegistry registry)).1 := rfl

/-- Dropped are exactly the surfaces that are not active. -/
theorem reconcile_dropped :
    (reconcileSceneWithRegistry scene registry output).droppedSurfaceIds =
      (scene.surfaces.filter fun s => !(activeSurfaceRegistry registry).contains s.id).map
        (·.id) := by
  rw [reconcileSceneWithRegistry_eq]

/-! One surface on its way through. -/

section Surface

variable {activeRegistry : ActiveRegistry} {surface kept : SurfaceSnapshot}

theorem keptSurface_eq_some : keptSurface activeRegistry surface = some kept ↔
    ∃ r, activeRegistry.get? surface.id = some r ∧ adoptRegistrySurface surface r = kept := by
  unfold keptSurface
  rw [Option.map_eq_some_iff]

@[simp] theorem adoptRegistrySurface_id (r : WaylandSurfaceState) :
    (adoptRegistrySurface surface r).id = surface.id := rfl

@[simp] theorem layOut_id : (layOut activeRegistry output surface).id = surface.id := by
  unfold layOut
  split <;> rfl

theorem layOut_active {r : WaylandSurfaceState} (h : activeRegistry.get? surface.id = some r) :
    layOut activeRegistry output surface = applyRoleBasedLayout surface r.role output := by
  unfold layOut
  rw [h]

@[simp] theorem roleBasedPlacement_visible (placement : SurfacePlacement)
    (role : WaylandSurfaceRole) :
    (roleBasedPlacement placement role output).visible = placement.visible := by
  cases role <;> rfl

/-- A surface that has its place keeps it. -/
theorem roleBasedPlacement_idem (placement : SurfacePlacement) (role : WaylandSurfaceRole) :
    roleBasedPlacement (roleBasedPlacement placement role output) role output =
      roleBasedPlacement placement role output := by
  cases role with
  | toplevel =>
    unfold roleBasedPlacement
    by_cases hz : placement.z < 30 <;> simp [hz]
  | _ => rfl

theorem applyRoleBasedLayout_idem (role : WaylandSurfaceRole) :
    applyRoleBasedLayout (applyRoleBasedLayout surface role output) role output =
      applyRoleBasedLayout surface role output := by
  unfold applyRoleBasedLayout
  rw [roleBasedPlacement_idem]

/-- What was taken from the registry is there already. -/
theorem adoptRegistrySurface_laidOut (r : WaylandSurfaceState) :
    adoptRegistrySurface (applyRoleBasedLayout (adoptRegistrySurface surface r) r.role output)
      r = applyRoleBasedLayout (adoptRegistrySurface surface r) r.role output := by
  simp [adoptRegistrySurface, applyRoleBasedLayout]

end Surface

/-- The surfaces of the reconciled scene, with the registry's surfaces they stand for. -/
theorem mem_reconciled {surface : SurfaceSnapshot} :
    surface ∈ (reconcileSceneWithRegistry scene registry output).scene.surfaces ↔
      ∃ s ∈ scene.surfaces, ∃ r, (activeSurfaceRegistry registry).get? s.id = some r ∧
        surface = applyRoleBasedLayout (adoptRegistrySurface s r) r.role output := by
  rw [reconcile_surfaces, List.mem_map]
  constructor
  · rintro ⟨kept, hkept, rfl⟩
    obtain ⟨s, hs, hk⟩ := List.mem_filterMap.mp hkept
    obtain ⟨r, hr, rfl⟩ := keptSurface_eq_some.mp hk
    exact ⟨s, hs, r, hr, layOut_active hr⟩
  · rintro ⟨s, hs, r, hr, rfl⟩
    exact ⟨adoptRegistrySurface s r,
      List.mem_filterMap.mpr ⟨s, hs, keptSurface_eq_some.mpr ⟨r, hr, rfl⟩⟩, layOut_active hr⟩

/-! The focus is always a surface that takes it. -/

theorem focusable_active {id : String} (h : focusable activeRegistry id = true) :
    activeRegistry.contains id = true := by
  unfold focusable at h
  unfold OrdMap.contains
  cases hget : activeRegistry.get? id with
  | none => simp [hget] at h
  | some r => rfl

theorem fallbackFocusTarget_surface {id : String}
    (h : fallbackFocusTarget surfaces activeRegistry = .surface id) :
    focusable activeRegistry id = true ∧ ∃ s ∈ surfaces, s.id = id := by
  unfold fallbackFocusTarget at h
  cases hbest : maxByKey (·.placement.z) (surfaces.filter fun surface =>
      surface.placement.visible && focusable activeRegistry surface.id) with
  | none => simp [hbest] at h
  | some best =>
    rw [hbest] at h
    injection h with h
    obtain ⟨hmem, hpass⟩ := List.mem_filter.mp (maxByKey_mem hbest).1
    rw [Bool.and_eq_true] at hpass
    exact ⟨h ▸ hpass.2, best, hmem, h⟩

theorem fallbackFocusTarget_none :
    fallbackFocusTarget surfaces activeRegistry = .none ↔
      ∀ s ∈ surfaces, s.placement.visible = true → focusable activeRegistry s.id = false := by
  unfold fallbackFocusTarget
  cases hbest : maxByKey (·.placement.z) (surfaces.filter fun surface =>
      surface.placement.visible && focusable activeRegistry surface.id) with
  | none =>
    rw [maxByKey_eq_none, List.filter_eq_nil_iff] at hbest
    simp only [Option.map_none, Option.getD_none, true_iff]
    intro s hs hvisible
    have hnot := hbest s hs
    rw [hvisible, Bool.true_and] at hnot
    exact (Bool.not_eq_true _).mp hnot
  | some best =>
    obtain ⟨hmem, hpass⟩ := List.mem_filter.mp (maxByKey_mem hbest).1
    rw [Bool.and_eq_true] at hpass
    simp only [Option.map_some, Option.getD_some, reduceCtorEq, false_iff]
    intro hnone
    rw [hnone best hmem hpass.1] at hpass
    exact absurd hpass.2 (by simp)

theorem reconcileFocus_focusable {previousFocus : FocusTarget} {id : String}
    (h : reconcileFocus previousFocus surfaces activeRegistry = .surface id) :
    focusable activeRegistry id = true := by
  unfold reconcileFocus at h
  split at h
  · split_ifs at h with hfocusable
    · injection h with h
      exact h ▸ hfocusable
    · exact (fallbackFocusTarget_surface h).1
  · exact (fallbackFocusTarget_surface h).1

theorem handoffOwner_active {focus : FocusTarget} {id : String}
    (h : handoffOwner focus activeRegistry = some id) :
    focus = .surface id ∧ activeRegistry.contains id = true := by
  unfold handoffOwner at h
  split at h
  · split_ifs at h with hfocusable
    injection h with h
    subst h
    exact ⟨rfl, focusable_active hfocusable⟩
  · cases h

end TuffXwin.Compd
