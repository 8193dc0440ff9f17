import TuffXwin.Compd.Relay
import TuffXwin.Displayd.Conservative
import TuffXwin.Displayd.Reference
import TuffXwin.Waylandd.Scene

/-! One stacking order. waylandd sorts by its own key and rewrites every `z` with the place
it found; compd and displayd sort the result again, by a key that holds the new `z`. -/

namespace TuffXwin.Waylandd

variable {surfaces : List SurfaceSnapshot}
variable {lower upper : SurfaceSnapshot}

open Displayd (surfaceKey canonicalizeSurfaces)

/-- Surfaces whose `z` is their place. -/
def Placed (surfaces : List SurfaceSnapshot) : Prop :=
  ∀ i (hi : i < surfaces.length), surfaces[i].placement.z = i

/-- Layer by layer, and each surface at its place. -/
structure Stacked (surfaces : List SurfaceSnapshot) : Prop where
  placed : Placed surfaces
  layers : surfaces.Pairwise fun lower upper => lower.layerClass ≤ upper.layerClass

theorem orderSceneSurfaces_eq (surfaces : List SurfaceSnapshot) :
    orderSceneSurfaces surfaces =
      (canonicalizeSurfaces surfaces).mapIdx fun z surface =>
        { surface with placement := { surface.placement with z := z } } := rfl

theorem layerClass_mono (h : surfaceKey lower ≤ surfaceKey upper) :
    lower.layerClass ≤ upper.layerClass := by
  unfold surfaceKey at h
  rcases Prod.Lex.le_iff.mp h with hlt | ⟨heq, -⟩
  · exact hlt.le
  · exact heq.le

theorem surfaceKey_le_of_placed (hlayer : lower.layerClass ≤ upper.layerClass)
    (hz : lower.placement.z < upper.placement.z) : surfaceKey lower ≤ surfaceKey upper := by
  unfold surfaceKey
  rw [Prod.Lex.le_iff]
  rcases hlayer.lt_or_eq with hlt | heq
  · exact .inl hlt
  · exact .inr ⟨heq, Prod.Lex.le_iff.mpr (.inl hz)⟩

theorem orderSceneSurfaces_stacked (surfaces : List SurfaceSnapshot) :
    Stacked (orderSceneSurfaces surfaces) := by
  have hsorted : (canonicalizeSurfaces surfaces).Pairwise
      fun lower upper => surfaceKey lower ≤ surfaceKey upper :=
    List.pairwise_insertionSort _ surfaces
  rw [orderSceneSurfaces_eq]
  constructor
  · intro i hi
    rw [List.getElem_mapIdx]
  · rw [List.pairwise_iff_getElem] at hsorted ⊢
    intro i j hi hj hij
    rw [List.length_mapIdx] at hi hj
    rw [List.getElem_mapIdx, List.getElem_mapIdx]
    have hlayer := layerClass_mono (hsorted i j hi hj hij)
    exact hlayer

/-- Sorting a stack again, by whatever comes after layer and place in the key, changes nothing. -/
theorem Stacked.canonicalize (h : Stacked surfaces) : canonicalizeSurfaces surfaces = surfaces := by
  refine List.Pairwise.insertionSort_eq ?_
  have hlayers := h.layers
  rw [List.pairwise_iff_getElem] at hlayers ⊢
  intro i j hi hj hij
  refine surfaceKey_le_of_placed (hlayers i j hi hj hij) ?_
  rw [h.placed i hi, h.placed j hj]
  exact Int.ofNat_lt.mpr hij

theorem Stacked.order (h : Stacked surfaces) : orderSceneSurfaces surfaces = surfaces := by
  rw [orderSceneSurfaces_eq, h.canonicalize]
  refine List.ext_getElem List.length_mapIdx fun i hi hi' => ?_
  rw [List.getElem_mapIdx, ← h.placed i hi']

/-- With distinct ids no two surfaces share a key. -/
theorem orderSceneSurfaces_perm {surfaces' : List SurfaceSnapshot}
    (hids : (surfaces.map (·.id)).Nodup) (hperm : surfaces'.Perm surfaces) :
    orderSceneSurfaces surfaces' = orderSceneSurfaces surfaces := by
  have hkeys : ∀ a ∈ surfaces, ∀ b ∈ surfaces, surfaceKey a = surfaceKey b → a = b := by
    intro a ha b hb hkey
    exact List.inj_on_of_nodup_map hids ha hb (Displayd.surfaceKey_id hkey)
  rw [orderSceneSurfaces_eq, orderSceneSurfaces_eq, Displayd.canonicalizeSurfaces_perm hperm hkeys]

/-- waylandd's order of a set of surfaces is one list, and no sort of that list in waylandd,
compd or displayd moves a surface of it. -/
theorem stacking_order_agreed {surfaces : List SurfaceSnapshot}
    (hids : (surfaces.map (·.id)).Nodup) :
    (∀ surfaces', surfaces'.Perm surfaces →
      orderSceneSurfaces surfaces' = orderSceneSurfaces surfaces) ∧
    orderSceneSurfaces (orderSceneSurfaces surfaces) = orderSceneSurfaces surfaces ∧
    (∀ relay : Compd.RelayScene, relay.scene.surfaces = orderSceneSurfaces surfaces →
      (Compd.canonicalizeRelayScene relay).scene.surfaces = relay.scene.surfaces) ∧
    canonicalizeSurfaces (orderSceneSurfaces surfaces) = orderSceneSurfaces surfaces ∧
    ∀ framebuffer output store damageRects,
      Displayd.composeDamageRects framebuffer output store (orderSceneSurfaces surfaces)
          damageRects =
        damageRects.foldlM
          (Displayd.composeDamageRect output store (orderSceneSurfaces surfaces)) framebuffer := by
  have hstacked := orderSceneSurfaces_stacked surfaces
  refine ⟨fun _ hperm => orderSceneSurfaces_perm hids hperm, hstacked.order, ?_,
    hstacked.canonicalize, ?_⟩
  · intro relay hrelay
    change canonicalizeSurfaces relay.scene.surfaces = relay.scene.surfaces
    rw [hrelay, hstacked.canonicalize]
  · intro framebuffer output store damageRects
    unfold Displayd.composeDamageRects
    rw [hstacked.canonicalize]

/-- A window and a panel over it. -/
def panelAndWindow : List SurfaceSnapshot :=
  [{ id := "window", placement := ⟨0, 0, 64, 64, 7, true⟩, layerClass := 1,
     creationSequence := 2 },
   { id := "panel", placement := ⟨0, 0, 64, 8, 9, true⟩, layerClass := 3,
     creationSequence := 1 }]

theorem panelAndWindow_order_agreed :
    (panelAndWindow.map (·.id)).Nodup ∧
      orderSceneSurfaces panelAndWindow.reverse = orderSceneSurfaces panelAndWindow :=
  have hids : (panelAndWindow.map (·.id)).Nodup := by decide
  ⟨hids, (stacking_order_agreed hids).1 _ (List.reverse_perm _)⟩

end TuffXwin.Waylandd
