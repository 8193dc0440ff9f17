import TuffXwin.Common.SurfaceRegistry
import TuffXwin.Lib.Fold

/-! The selection handoff of waylandd: a focus and a selection are checked against the
registry, and the selection replaces that of the registry. -/

namespace TuffXwin.Waylandd
open Lib

variable {label : String} {owner : Option String}
  {activeRegistry : OrdMap String WaylandSurfaceState} {handoff : WaylandSelectionHandoff}
  {registry : SurfaceRegistrySnapshot}

def validateSelectionMetadata (label : String) (owner payloadId : Option String)
    (sourceSerial : Option Nat) : Except String Unit :=
  if owner.isNone ∧ (payloadId.isSome ∨ sourceSerial.isSome) then
    .error (label ++ " metadata requires an active owner")
  else if payloadId.isSome ≠ sourceSerial.isSome then
    .error (label ++ " payload_id and source_serial must be paired")
  else .ok ()

def checkHandoffFocus (activeRegistry : OrdMap String WaylandSurfaceState) :
    FocusTarget → Except String Unit
  | .none => .ok ()
  | .surface id =>
    if activeRegistry.contains id then .ok ()
    else .error ("focus target " ++ id ++ " is not active in waylandd registry")

def checkHandoffOwner (activeRegistry : OrdMap String WaylandSurfaceState) (label : String) :
    Option String → Except String Unit
  | none => .ok ()
  | some id =>
    if activeRegistry.contains id then .ok ()
    else .error (label ++ " owner " ++ id ++ " is not active in waylandd registry")

def validateSelectionHandoff (handoff : WaylandSelectionHandoff)
    (registry : SurfaceRegistrySnapshot) : Except String Unit :=
  let activeRegistry := activeSurfaceRegistry registry
  let selection := handoff.selection
  checkHandoffFocus activeRegistry handoff.focus >>= fun _ =>
  checkHandoffOwner activeRegistry "clipboard" selection.clipboardOwner >>= fun _ =>
  checkHandoffOwner activeRegistry "primary-selection" selection.primarySelectionOwner >>= fun _ =>
  validateSelectionMetadata "clipboard" selection.clipboardOwner selection.clipboardPayloadId
    selection.clipboardSourceSerial >>= fun _ =>
  validateSelectionMetadata "primary-selection" selection.primarySelectionOwner
    selection.primarySelectionPayloadId selection.primarySelectionSourceSerial

inductive WaylandEvent
  | surfaceRegistry (snapshot : SurfaceRegistrySnapshot)
  | selectionHandoffApplied (generation : Nat) (handoff : WaylandSelectionHandoff)
  | rejected (reason : String)
  deriving DecidableEq, Repr

/-- `ApplySelectionHandoff`, with whether the registry has changed. -/
def applySelectionHandoff (handoff : WaylandSelectionHandoff)
    (registry : SurfaceRegistrySnapshot) (now : Nat) :
    SurfaceRegistrySnapshot × WaylandEvent × Bool :=
  match validateSelectionHandoff handoff registry with
  | .error reason => (registry, .rejected reason, false)
  | .ok _ =>
    let registry :=
      { registry with
        selection := handoff.selection
        generation := satAdd registry.generation 1
        unixTimestamp := now }
    (registry, .selectionHandoffApplied registry.generation handoff, true)

/-! What the checks accept. -/

theorem validateSelectionMetadata_ok {payloadId : Option String} {sourceSerial : Option Nat} :
    validateSelectionMetadata label owner payloadId sourceSerial = .ok () ↔
      (owner = none → payloadId = none ∧ sourceSerial = none) ∧
        payloadId.isSome = sourceSerial.isSome := by
  unfold validateSelectionMetadata
  cases owner <;> cases payloadId <;> cases sourceSerial <;> simp

theorem checkHandoffFocus_ok {focus : FocusTarget} :
    checkHandoffFocus activeRegistry focus = .ok () ↔
      ∀ id, focus = .surface id → activeRegistry.contains id = true := by
  cases focus <;> simp [checkHandoffFocus]

theorem checkHandoffOwner_ok :
    checkHandoffOwner activeRegistry label owner = .ok () ↔
      ∀ id, owner = some id → activeRegistry.contains id = true := by
  cases owner <;> simp [checkHandoffOwner]

/-- One slot of a handoff that waylandd takes. -/
structure SlotAccepted (activeRegistry : OrdMap String WaylandSurfaceState)
    (owner payloadId : Option String) (sourceSerial : Option Nat) : Prop where
  active : ∀ id, owner = some id → activeRegistry.contains id = true
  owned : owner = none → payloadId = none ∧ sourceSerial = none
  paired : payloadId.isSome = sourceSerial.isSome

theorem validateSelectionHandoff_ok :
    validateSelectionHandoff handoff registry = .ok () ↔
      (∀ id, handoff.focus = .surface id →
        (activeSurfaceRegistry registry).contains id = true) ∧
      SlotAccepted (activeSurfaceRegistry registry) handoff.selection.clipboardOwner
        handoff.selection.clipboardPayloadId handoff.selection.clipboardSourceSerial ∧
      SlotAccepted (activeSurfaceRegistry registry) handoff.selection.primarySelectionOwner
        handoff.selection.primarySelectionPayloadId
        handoff.selection.primarySelectionSourceSerial := by
  unfold validateSelectionHandoff
  simp only [check_eq_ok, checkHandoffFocus_ok, checkHandoffOwner_ok,
    validateSelectionMetadata_ok]
  constructor
  · rintro ⟨hfocus, hclipboard, hprimary, ⟨hc, hc'⟩, hp, hp'⟩
    exact ⟨hfocus, ⟨hclipboard, hc, hc'⟩, hprimary, hp, hp'⟩
  · rintro ⟨hfocus, ⟨hclipboard, hc, hc'⟩, hprimary, hp, hp'⟩
    exact ⟨hfocus, hclipboard, hprimary, ⟨hc, hc'⟩, hp, hp'⟩

theorem applySelectionHandoff_accepted (now : Nat)
    (h : validateSelectionHandoff handoff registry = .ok ()) :
    (applySelectionHandoff handoff registry now).1.surfaces = registry.surfaces ∧
      (applySelectionHandoff handoff registry now).1.selection = handoff.selection := by
  unfold applySelectionHandoff
  rw [h]
  exact ⟨rfl, rfl⟩

end TuffXwin.Waylandd
