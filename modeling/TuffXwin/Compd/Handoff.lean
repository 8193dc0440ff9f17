import TuffXwin.Compd.Reconcile
import TuffXwin.Waylandd.SelectionHandoff

/-! The selection handoff between compd and waylandd. compd computes focus and selection
from a registry, waylandd checks them against the same registry. compd carries the offer of
a slot over to any owner, and waylandd wants the metadata of an owner in pairs. -/

namespace TuffXwin.Compd
open Lib Waylandd

variable {surfaces : List SurfaceSnapshot}

structure SelectionSlot where
  owner : Option String
  payloadId : Option String
  sourceSerial : Option Nat
  offer : Option SelectionOffer
  deriving DecidableEq, Repr

def clipboardSlot (selection : WaylandSelectionState) : SelectionSlot :=
  ⟨selection.clipboardOwner, selection.clipboardPayloadId, selection.clipboardSourceSerial,
    selection.clipboardOffer⟩

def primarySlot (selection : WaylandSelectionState) : SelectionSlot :=
  ⟨selection.primarySelectionOwner, selection.primarySelectionPayloadId,
    selection.primarySelectionSourceSerial, selection.primaryOffer⟩

/-- The owner of the slot is still there. -/
def SelectionSlot.Owned (slot : SelectionSlot) (activeRegistry : ActiveRegistry) : Prop :=
  ∃ id, slot.owner = some id ∧ activeRegistry.contains id = true

/-- An owner that is still there keeps what it has; any other has nothing of it. -/
structure SlotHandedOn (activeRegistry : ActiveRegistry) (previous next : SelectionSlot) :
    Prop where
  kept : previous.Owned activeRegistry → next = previous
  payloadId : ¬ previous.Owned activeRegistry →
    ∀ id, previous.payloadId = some id → next.payloadId ≠ some id
  sourceSerial : ¬ previous.Owned activeRegistry →
    ∀ serial, previous.sourceSerial = some serial → next.sourceSerial ≠ some serial
  offer : ¬ previous.Owned activeRegistry →
    ∀ offer, previous.offer = some offer → next.offer ≠ some offer

/-- What compd sends to waylandd. -/
def SceneReconcileResult.handoff (result : SceneReconcileResult) : WaylandSelectionHandoff :=
  ⟨result.scene.focus, result.scene.selection⟩

/-- The registry after waylandd has handled the handoff of a reconciled scene. -/
def handedOn (scene : CompdScene) (registry : SurfaceRegistrySnapshot) (output : OutputMode)
    (now : Nat) : SurfaceRegistrySnapshot :=
  (applySelectionHandoff (reconcileSceneWithRegistry scene registry output).handoff registry
    now).1

/-- compd and waylandd agree on the selection. -/
structure HandoffAgrees (scene : CompdScene) (registry : SurfaceRegistrySnapshot)
    (output : OutputMode) : Prop where
  accepted : validateSelectionHandoff
    (reconcileSceneWithRegistry scene registry output).handoff registry = .ok ()
  settled : ∀ now, reconcileSceneWithRegistry
      (reconcileSceneWithRegistry scene registry output).scene
      (handedOn scene registry output now) output =
    ⟨(reconcileSceneWithRegistry scene registry output).scene, [], 0, 0⟩
  clipboard : SlotHandedOn (activeSurfaceRegistry registry) (clipboardSlot registry.selection)
    (clipboardSlot (reconcileSceneWithRegistry scene registry output).scene.selection)
  primary : SlotHandedOn (activeSurfaceRegistry registry) (primarySlot registry.selection)
    (primarySlot (reconcileSceneWithRegistry scene registry output).scene.selection)

/-- An active owner has its payload and serial together, and without one there is no offer. -/
structure SlotInOrder (activeRegistry : ActiveRegistry) (slot : SelectionSlot) : Prop where
  paired : slot.Owned activeRegistry → slot.payloadId.isSome = slot.sourceSerial.isSome
  unoffered : ¬ slot.Owned activeRegistry → slot.offer = none

section Slot

variable {activeRegistry : ActiveRegistry} {owner payloadId : Option String}
  {sourceSerial : Option Nat} {focus : FocusTarget}

/-- What becomes of a slot. -/
theorem reconcileSelectionSlot_cases (activeRegistry : ActiveRegistry)
    (owner payloadId : Option String) (sourceSerial : Option Nat) (focus : FocusTarget)
    (offer : Option SelectionOffer) :
    (SelectionSlot.Owned ⟨owner, payloadId, sourceSerial, offer⟩ activeRegistry ∧
        reconcileSelectionSlot owner payloadId sourceSerial focus activeRegistry =
          ⟨owner, payloadId, sourceSerial, false⟩) ∨
      (¬ SelectionSlot.Owned ⟨owner, payloadId, sourceSerial, offer⟩ activeRegistry ∧
        ∃ next changed, (∀ id, next = some id → activeRegistry.contains id = true) ∧
          reconcileSelectionSlot owner payloadId sourceSerial focus activeRegistry =
            ⟨next, none, none, changed⟩) := by
  unfold SelectionSlot.Owned reconcileSelectionSlot
  cases owner with
  | none => exact .inr ⟨by simp, none, _, by simp, rfl⟩
  | some id =>
    by_cases hactive : activeRegistry.contains id = true
    · exact .inl ⟨⟨id, rfl, hactive⟩, if_pos hactive⟩
    · refine .inr ⟨by simp [hactive], handoffOwner focus activeRegistry, true, ?_,
        if_neg hactive⟩
      intro next hnext
      exact (handoffOwner_active hnext).2

theorem reconciledSlot_accepted (offer : Option SelectionOffer) :
    SlotAccepted activeRegistry
        (reconcileSelectionSlot owner payloadId sourceSerial focus activeRegistry).owner
        (reconcileSelectionSlot owner payloadId sourceSerial focus activeRegistry).payloadId
        (reconcileSelectionSlot owner payloadId sourceSerial focus activeRegistry).sourceSerial ↔
      (SelectionSlot.Owned ⟨owner, payloadId, sourceSerial, offer⟩ activeRegistry →
        payloadId.isSome = sourceSerial.isSome) := by
  rcases reconcileSelectionSlot_cases activeRegistry owner payloadId sourceSerial focus offer with
    ⟨howned, heq⟩ | ⟨hgone, next, changed, hnext, heq⟩
  · rw [heq]
    constructor
    · intro h _
      exact h.paired
    · intro h
      obtain ⟨id, howner, hactive⟩ := howned
      dsimp only at howner
      refine ⟨?_, ?_, h ⟨id, howner, hactive⟩⟩
      · intro other hother
        rw [howner] at hother
        injection hother with hother
        exact hother ▸ hactive
      · intro hnone
        rw [howner] at hnone
        cases hnone
  · rw [heq]
    constructor
    · intro _ howned
      exact absurd howned hgone
    · intro _
      exact ⟨hnext, fun _ => ⟨rfl, rfl⟩, rfl⟩

/-- The offer goes along with the slot, whoever owns it. -/
theorem reconciledSlot_handedOn (offer : Option SelectionOffer) :
    SlotHandedOn activeRegistry ⟨owner, payloadId, sourceSerial, offer⟩
        ⟨(reconcileSelectionSlot owner payloadId sourceSerial focus activeRegistry).owner,
          (reconcileSelectionSlot owner payloadId sourceSerial focus activeRegistry).payloadId,
          (reconcileSelectionSlot owner payloadId sourceSerial focus activeRegistry).sourceSerial,
          offer⟩ ↔
      (¬ SelectionSlot.Owned ⟨owner, payloadId, sourceSerial, offer⟩ activeRegistry →
        offer = none) := by
  rcases reconcileSelectionSlot_cases activeRegistry owner payloadId sourceSerial focus offer with
    ⟨howned, heq⟩ | ⟨hgone, next, changed, -, heq⟩
  · rw [heq]
    constructor
    · intro _ hgone
      exact absurd howned hgone
    · intro _
      exact ⟨fun _ => rfl, fun hgone => absurd howned hgone, fun hgone => absurd howned hgone,
        fun hgone => absurd howned hgone⟩
  · rw [heq]
    constructor
    · intro h _
      cases hoffer : offer with
      | none => rfl
      | some o => exact absurd hoffer (h.offer hgone o hoffer)
    · intro hnone
      refine ⟨fun howned => absurd howned hgone, fun _ _ _ => by simp, fun _ _ _ => by simp, ?_⟩
      intro _ o ho
      rw [hnone hgone] at ho
      cases ho

/-- A slot that was reconciled stays as it is. -/
theorem reconcileSelectionSlot_again (focus' : FocusTarget) :
    let slot := reconcileSelectionSlot owner payloadId sourceSerial focus activeRegistry
    reconcileSelectionSlot slot.owner slot.payloadId slot.sourceSerial focus' activeRegistry =
      { slot with changed := false } := by
  rcases reconcileSelectionSlot_cases activeRegistry owner payloadId sourceSerial focus none with
    ⟨⟨id, howner, hactive⟩, heq⟩ | ⟨-, next, changed, hnext, heq⟩
  · dsimp only at howner
    subst howner
    rw [heq]
    exact if_pos hactive
  · rw [heq]
    cases next with
    | none => rfl
    | some id => exact if_pos (hnext id rfl)

end Slot

section Again

variable {activeRegistry : ActiveRegistry} {output : OutputMode}

/-- The surfaces of a scene that has been fitted to the registry. -/
def FittedSurfaces (activeRegistry : ActiveRegistry) (output : OutputMode)
    (surfaces : List SurfaceSnapshot) : Prop :=
  ∀ s ∈ surfaces, ∃ r, activeRegistry.get? s.id = some r ∧ adoptRegistrySurface s r = s ∧
    applyRoleBasedLayout s r.role output = s

section

variable (h : FittedSurfaces activeRegistry output surfaces)
include h

theorem FittedSurfaces.kept : surfaces.filterMap (keptSurface activeRegistry) = surfaces := by
  have hkept : ∀ s ∈ surfaces, keptSurface activeRegistry s = some s := by
    intro s hs
    obtain ⟨r, hr, hadopt, -⟩ := h s hs
    exact keptSurface_eq_some.mpr ⟨r, hr, hadopt⟩
  rw [List.filterMap_congr hkept, List.filterMap_some]

theorem FittedSurfaces.laidOut : surfaces.map (layOut activeRegistry output) = surfaces := by
  have hlaid : ∀ s ∈ surfaces, layOut activeRegistry output s = s := by
    intro s hs
    obtain ⟨r, hr, -, hplace⟩ := h s hs
    rw [layOut_active hr, hplace]
  rw [List.map_congr_left hlaid, List.map_id']

theorem FittedSurfaces.known :
    (surfaces.filter fun s => !activeRegistry.contains s.id) = [] ∧
      (surfaces.countP fun s => (activeRegistry.get? s.id).any fun r => s.appId ≠ r.appId) =
        0 := by
  rw [List.filter_eq_nil_iff, List.countP_eq_zero]
  constructor
  · intro s hs
    obtain ⟨r, hr, -, -⟩ := h s hs
    simp [OrdMap.contains, hr]
  · intro s hs
    obtain ⟨r, hr, hadopt, -⟩ := h s hs
    have happ : r.appId = s.appId := congrArg SurfaceSnapshot.appId hadopt
    simp [hr, happ]

end

end Again

variable {scene : CompdScene} {registry registry' : SurfaceRegistrySnapshot}
  {output : OutputMode}

variable (scene registry output) in
theorem reconciled_fitted : FittedSurfaces (activeSurfaceRegistry registry) output
    (reconcileSceneWithRegistry scene registry output).scene.surfaces := by
  intro surface hsurface
  obtain ⟨s, -, r, hr, rfl⟩ := mem_reconciled.mp hsurface
  exact ⟨r, hr, adoptRegistrySurface_laidOut r, applyRoleBasedLayout_idem r.role⟩

variable (scene registry output) in
/-- A focus that was reconciled stays where it is. -/
theorem reconciledFocus_again :
    reconcileFocus (reconcileSceneWithRegistry scene registry output).scene.focus
        (reconcileSceneWithRegistry scene registry output).scene.surfaces
        (activeSurfaceRegistry registry) =
      (reconcileSceneWithRegistry scene registry output).scene.focus := by
  have hfocus := reconcile_focus scene registry output
  cases hnow : (reconcileSceneWithRegistry scene registry output).scene.focus with
  | surface id =>
    rw [hnow] at hfocus
    exact if_pos (reconcileFocus_focusable hfocus.symm)
  | none =>
    rw [hnow] at hfocus
    -- no kept surface takes the focus, wherever its role places it
    have hfallback : fallbackFocusTarget
        (scene.surfaces.filterMap (keptSurface (activeSurfaceRegistry registry)))
        (activeSurfaceRegistry registry) = .none := by
      unfold reconcileFocus at hfocus
      split at hfocus
      · split_ifs at hfocus
        exact hfocus.symm
      · exact hfocus.symm
    refine fallbackFocusTarget_none.mpr fun surface hsurface hvisible => ?_
    obtain ⟨s, hs, r, hr, rfl⟩ := mem_reconciled.mp hsurface
    have hkept : adoptRegistrySurface s r ∈
        scene.surfaces.filterMap (keptSurface (activeSurfaceRegistry registry)) :=
      List.mem_filterMap.mpr ⟨s, hs, keptSurface_eq_some.mpr ⟨r, hr, rfl⟩⟩
    have hshown : (adoptRegistrySurface s r).placement.visible = true := by
      rw [← hvisible]
      exact (roleBasedPlacement_visible _ r.role).symm
    exact fallbackFocusTarget_none.mp hfallback (adoptRegistrySurface s r) hkept hshown

/-- Reconciling again, over a registry that has taken the selection, changes nothing. -/
theorem reconcile_again (hsurfaces : registry'.surfaces = registry.surfaces)
    (hselection : registry'.selection =
      (reconcileSceneWithRegistry scene registry output).scene.selection) :
    reconcileSceneWithRegistry (reconcileSceneWithRegistry scene registry output).scene
        registry' output =
      ⟨(reconcileSceneWithRegistry scene registry output).scene, [], 0, 0⟩ := by
  have hactive := activeSurfaceRegistry_congr hsurfaces
  have hfitted := reconciled_fitted scene registry output
  have hfocus := reconciledFocus_again scene registry output
  have hslots : reconcileSelection
      (reconcileSceneWithRegistry scene registry output).scene.selection
      (reconcileSceneWithRegistry scene registry output).scene.focus
      (activeSurfaceRegistry registry) =
      ((reconcileSceneWithRegistry scene registry output).scene.selection, 0) := by
    rw [reconcile_selection]
    simp only [reconcileSelection, reconcileSelectionSlot_again]
    rfl
  rw [reconcileSceneWithRegistry_eq]
  simp only [hactive, hselection, hfitted.kept, hfitted.laidOut, hfitted.known, hfocus, hslots,
    List.map_nil]

/-- compd and waylandd agree exactly when an active owner has its payload and serial
together and a slot without an active owner has no offer. -/
theorem handoffAgrees_iff (scene : CompdScene) (registry : SurfaceRegistrySnapshot)
    (output : OutputMode) : HandoffAgrees scene registry output ↔
      SlotInOrder (activeSurfaceRegistry registry) (clipboardSlot registry.selection) ∧
        SlotInOrder (activeSurfaceRegistry registry) (primarySlot registry.selection) := by
  have hvalid : validateSelectionHandoff
      (reconcileSceneWithRegistry scene registry output).handoff registry = .ok () ↔
      ((clipboardSlot registry.selection).Owned (activeSurfaceRegistry registry) →
        (clipboardSlot registry.selection).payloadId.isSome =
          (clipboardSlot registry.selection).sourceSerial.isSome) ∧
      ((primarySlot registry.selection).Owned (activeSurfaceRegistry registry) →
        (primarySlot registry.selection).payloadId.isSome =
          (primarySlot registry.selection).sourceSerial.isSome) := by
    rw [validateSelectionHandoff_ok]
    refine (and_iff_right ?_).trans (Iff.and (reconciledSlot_accepted _) (reconciledSlot_accepted _))
    intro id hfocus
    have hreconciled := reconcile_focus scene registry output
    exact focusable_active (reconcileFocus_focusable (hreconciled.symm.trans hfocus))
  constructor
  · intro h
    obtain ⟨hclipboard, hprimary⟩ := hvalid.mp h.accepted
    exact ⟨⟨hclipboard, (reconciledSlot_handedOn _).mp h.clipboard⟩,
      hprimary, (reconciledSlot_handedOn _).mp h.primary⟩
  · rintro ⟨hclipboard, hprimary⟩
    have haccepted := hvalid.mpr ⟨hclipboard.paired, hprimary.paired⟩
    refine ⟨haccepted, fun now => ?_, (reconciledSlot_handedOn _).mpr hclipboard.unoffered,
      (reconciledSlot_handedOn _).mpr hprimary.unoffered⟩
    obtain ⟨hsurfaces, hselection⟩ := applySelectionHandoff_accepted now haccepted
    exact reconcile_again hsurfaces hselection

/-- The clipboard of a window that has gone, with its offer. -/
def orphanedClipboard : SurfaceRegistrySnapshot where
  generation := 1
  surfaces := []
  selection :=
    { clipboardOwner := some "editor-1"
      clipboardPayloadId := some "payload-1"
      clipboardSourceSerial := some 7
      clipboardOffer := some ⟨"offer-1", "source-1", "editor-1", ["text/plain"], 7⟩ }

def emptyScene : CompdScene where
  targetOutput := "eDP-1"
  focus := .none
  selection := {}
  surfaces := []
  sceneEpoch := 1
  sceneGeneration := 1

/-- The offer of the window outlives it. -/
theorem orphanedClipboard_disagrees :
    ¬ HandoffAgrees emptyScene orphanedClipboard ⟨"eDP-1", 1920, 1080⟩ := by
  intro h
  have hgone : ¬ (clipboardSlot orphanedClipboard.selection).Owned
      (activeSurfaceRegistry orphanedClipboard) := by
    rintro ⟨id, -, hactive⟩
    cases hactive
  exact h.clipboard.offer hgone _ rfl rfl

end TuffXwin.Compd
