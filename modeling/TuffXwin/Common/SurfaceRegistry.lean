import TuffXwin.Common.Ipc
import TuffXwin.Lib.OrdMap

/-! The surface registry that waylandd keeps and that compd reads: the surfaces of the
clients with their roles, and the selection. -/

namespace TuffXwin
open Lib

structure LayerMetadata where
  layer : Nat := 0
  anchor : Nat := 0
  exclusiveZone : Int := 0
  marginTop : Int := 0
  marginBottom : Int := 0
  marginLeft : Int := 0
  marginRight : Int := 0
  deriving DecidableEq, Repr

inductive WaylandSurfaceRole
  | toplevel
  | popup
  | layer (metadata : LayerMetadata)
  | background
  | lock
  | cursor
  deriving DecidableEq, Repr

structure WaylandSurfaceState where
  id : String
  appId : String := ""
  role : WaylandSurfaceRole := .toplevel
  mapped : Bool := false
  bufferAttached : Bool := false
  bufferHandle : Option String := none
  bufferGeneration : Nat := 0
  damageRects : List Rect := []
  deriving DecidableEq, Repr

structure SurfaceRegistrySnapshot where
  generation : Nat
  surfaces : List WaylandSurfaceState
  selection : WaylandSelectionState := {}
  unixTimestamp : Nat := 0
  deriving DecidableEq, Repr

variable {registry : SurfaceRegistrySnapshot}

structure WaylandSelectionHandoff where
  focus : FocusTarget
  selection : WaylandSelectionState
  deriving DecidableEq, Repr

structure OutputMode where
  name : String
  width : Nat
  height : Nat
  deriving DecidableEq, Repr

def WaylandSurfaceState.active (surface : WaylandSurfaceState) : Bool :=
  surface.mapped && surface.bufferAttached

/-- The mapped surfaces with a buffer by id; of several with one id the last counts. -/
def activeSurfaceRegistry (registry : SurfaceRegistrySnapshot) :
    OrdMap String WaylandSurfaceState :=
  .insertAll (·.id) (registry.surfaces.filter (·.active)) .empty

theorem activeSurfaceRegistry_congr {registry' : SurfaceRegistrySnapshot}
    (h : registry'.surfaces = registry.surfaces) :
    activeSurfaceRegistry registry' = activeSurfaceRegistry registry := by
  unfold activeSurfaceRegistry
  rw [h]

theorem activeSurfaceRegistry_source {id : String} {surface : WaylandSurfaceState}
    (h : (activeSurfaceRegistry registry).get? id = some surface) :
    surface ∈ registry.surfaces ∧ surface.active = true ∧ surface.id = id := by
  rcases OrdMap.get?_insertAll_source h with ⟨hmem, hid⟩ | hempty
  · obtain ⟨hsurface, hactive⟩ := List.mem_filter.mp hmem
    exact ⟨hsurface, hactive, hid⟩
  · cases hempty

end TuffXwin
