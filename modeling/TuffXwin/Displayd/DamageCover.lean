import Mathlib.Data.List.Dedup
import TuffXwin.Displayd.Reference

/-! Which pixels the damage between two scenes covers. A pixel is covered when a surface
over it in one scene is not in the other with its place and buffer, or when declared
damage that can be formed lies there; past the limit on rectangles every pixel is. -/

namespace TuffXwin.Displayd
open Lib

variable {x y : Int} {surfaces : List SurfaceSnapshot} {s : SurfaceSnapshot} {bounds : RendererRect}
variable {new : SurfaceSnapshot} {α : Type}
variable {old surface : SurfaceSnapshot}

/-- The corners of a surface are of their machine type and its extents admitted. -/
structure PlacedInRange (surface : SurfaceSnapshot) : Prop where
  x : i32Min ≤ surface.placement.x
  y : i32Min ≤ surface.placement.y
  extent : ExtentFits surface

/-- The surfaces of an accepted scene. -/
structure SceneSurfaces (surfaces : List SurfaceSnapshot) : Prop where
  nodup : (surfaces.map (·.id)).Nodup
  placed : ∀ s ∈ surfaces, PlacedInRange s

theorem SceneSurfaces.unique (h : SceneSurfaces surfaces) {t : SurfaceSnapshot} (hs : s ∈ surfaces)
    (ht : t ∈ surfaces) (hid : s.id = t.id) : s = t :=
  List.inj_on_of_nodup_map h.nodup hs ht hid

theorem covers_surfaceRegion (h : PlacedInRange surface) (hb : bounds.Mem x y) :
    Covers (surfaceRegion surface bounds) x y ↔ Contains surface x y := by
  rw [← shows_iff_contains h.extent]
  constructor
  · intro hc
    obtain ⟨r, hr, hm⟩ := hc
    simp only [surfaceRegion, Option.mem_toList, Option.bind_eq_some_iff] at hr
    obtain ⟨shown, hshown, hr⟩ := hr
    exact ⟨shown, hshown, (((RendererRect.intersect_eq_some hr).2.2.2 x y).mp hm).1⟩
  · intro hs
    obtain ⟨shown, hshown, hm⟩ := hs
    obtain ⟨r, hr, hmr⟩ := RendererRect.exists_intersect hm hb
    refine ⟨r, ?_, hmr⟩
    simp only [surfaceRegion, Option.mem_toList, Option.bind_eq_some_iff]
    exact ⟨shown, hshown, hr⟩

/-- A declared rectangle, over the integers and moved to the output, holds the pixel. -/
def DamageAt (surface : SurfaceSnapshot) (damage : Rect) (x y : Int) : Prop :=
  surface.placement.x + damage.x ≤ x ∧ x < surface.placement.x + damage.x + damage.width ∧
    surface.placement.y + damage.y ≤ y ∧ y < surface.placement.y + damage.y + damage.height

instance (surface : SurfaceSnapshot) (damage : Rect) (x y : Int) :
    Decidable (DamageAt surface damage x y) := by
  unfold DamageAt
  infer_instance

/-- The declared rectangle, and the surface's own from its corner, have corners in `i32`. -/
def Representable (surface : SurfaceSnapshot) (damage : Rect) : Prop :=
  (RendererRect.fromOriginSize damage.x damage.y damage.width damage.height).isSome ∧
    (RendererRect.fromOriginSize 0 0 surface.placement.width surface.placement.height).isSome

instance (surface : SurfaceSnapshot) (damage : Rect) : Decidable (Representable surface damage) := by
  unfold Representable
  infer_instance

/-- The rectangle one declaration leaves on the output. -/
theorem damageOnOutput_mem (h : PlacedInRange surface) {shown localBounds : RendererRect}
    (hb : bounds.Mem x y) (hshown : surfaceOutputBounds surface = some shown)
    (hlocal : RendererRect.fromOriginSize 0 0 surface.placement.width
      surface.placement.height = some localBounds) (damage : Rect) :
    (∃ r, damageOnOutput surface shown localBounds bounds damage = some r ∧ r.Mem x y) ↔
      shown.Mem x y ∧
        (RendererRect.fromOriginSize damage.x damage.y damage.width damage.height).isSome ∧
        DamageAt surface damage x y := by
  have hmin : i32Min = -2147483648 := rfl
  have hmax : i32Max = 2147483647 := rfl
  have hx := h.x
  have hy := h.y
  obtain ⟨_, hshownEq⟩ := surfaceOutputBounds_eq hshown
  obtain ⟨_, _, hlocalX, hlocalY, hlocalEq⟩ := RendererRect.fromOriginSize_eq_some.mp hlocal
  obtain ⟨hextentX, hextentY⟩ := h.extent
  obtain ⟨x1, hx1⟩ := Option.isSome_iff_exists.mp hextentX
  obtain ⟨y1, hy1⟩ := Option.isSome_iff_exists.mp hextentY
  obtain ⟨hinx, _⟩ := i32Checked_eq_some.mp hx1
  obtain ⟨hiny, _⟩ := i32Checked_eq_some.mp hy1
  subst hshownEq
  subst hlocalEq
  unfold damageOnOutput DamageAt
  cases hdeclared : RendererRect.fromOriginSize damage.x damage.y damage.width damage.height with
  | none => simp
  | some declared =>
    obtain ⟨_, _, hdx, hdy, hdeclaredEq⟩ := RendererRect.fromOriginSize_eq_some.mp hdeclared
    subst hdeclaredEq
    simp only [Option.bind_some, Option.isSome_some, true_and]
    constructor
    · intro hr
      obtain ⟨r, hr, hm⟩ := hr
      simp only [Option.bind_eq_some_iff] at hr
      obtain ⟨part, hpart, left, hleft, top, htop, output, houtput, onShown, honShown, hr⟩ := hr
      obtain ⟨_, rfl⟩ := i32Checked_eq_some.mp hleft
      obtain ⟨_, rfl⟩ := i32Checked_eq_some.mp htop
      obtain ⟨_, _, _, _, rfl⟩ := RendererRect.fromOriginSize_eq_some.mp houtput
      obtain ⟨hne, _, _, hpartMem⟩ := RendererRect.intersect_eq_some hpart
      have hon := ((RendererRect.intersect_eq_some hr).2.2.2 x y).mp hm
      have hin := ((RendererRect.intersect_eq_some honShown).2.2.2 x y).mp hon.1
      have hpartAt : part.Mem (x - surface.placement.x) (y - surface.placement.y) := by
        have hplaced := hin.1
        unfold RendererRect.Mem RendererRect.width RendererRect.height at *
        dsimp only at hplaced
        unfold RendererRect.Nonempty at hne
        omega
      have hdamage := ((hpartMem _ _).mp hpartAt).1
      refine ⟨hin.2, ?_⟩
      unfold RendererRect.Mem at hdamage
      dsimp only at hdamage
      omega
    · intro hat
      obtain ⟨hm, hat⟩ := hat
      have hdamage : (⟨damage.x, damage.y, damage.x + damage.width, damage.y + damage.height⟩ :
          RendererRect).Mem (x - surface.placement.x) (y - surface.placement.y) := by
        unfold RendererRect.Mem
        dsimp only
        omega
      have hown : (⟨0, 0, 0 + surface.placement.width, 0 + surface.placement.height⟩ :
          RendererRect).Mem (x - surface.placement.x) (y - surface.placement.y) := by
        unfold RendererRect.Mem at hm ⊢
        dsimp only at hm ⊢
        omega
      obtain ⟨part, hpart, hpartAt⟩ := RendererRect.exists_intersect hdamage hown
      obtain ⟨_, _, hwithin, _⟩ := RendererRect.intersect_eq_some hpart
      unfold RendererRect.Within at hwithin
      dsimp only at hwithin
      have houtput : (⟨surface.placement.x + part.x0, surface.placement.y + part.y0,
          surface.placement.x + part.x0 + part.width,
          surface.placement.y + part.y0 + part.height⟩ : RendererRect).Mem x y := by
        unfold RendererRect.Mem RendererRect.width RendererRect.height at *
        dsimp only
        omega
      obtain ⟨onShown, honShown, honMem⟩ := RendererRect.exists_intersect houtput hm
      obtain ⟨r, hr, hrMem⟩ := RendererRect.exists_intersect honMem hb
      refine ⟨r, ?_, hrMem⟩
      simp only [Option.bind_eq_some_iff]
      unfold RendererRect.Mem at hpartAt
      refine ⟨part, hpart, surface.placement.x + part.x0, ?_, surface.placement.y + part.y0, ?_,
        _, ?_, onShown, honShown, hr⟩
      · exact i32Checked_eq_some.mpr ⟨⟨by omega, by omega⟩, rfl⟩
      · exact i32Checked_eq_some.mpr ⟨⟨by omega, by omega⟩, rfl⟩
      · unfold RendererRect.width RendererRect.height
        exact RendererRect.fromOriginSize_eq_some.mpr
          ⟨by omega, by omega, ⟨by omega, by omega⟩, ⟨by omega, by omega⟩, rfl⟩

/-- Declared damage that can be formed covers the part of it on its surface. -/
theorem covers_surfaceDamageRects (h : PlacedInRange surface) (hb : bounds.Mem x y) :
    Covers (surfaceDamageRects surface bounds) x y ↔
      Contains surface x y ∧
        ∃ d ∈ surface.damageRects, Representable surface d ∧ DamageAt surface d x y := by
  rw [← shows_iff_contains h.extent]
  unfold surfaceDamageRects Representable
  cases hshown : surfaceOutputBounds surface with
  | none => simp [Covers, Shows, hshown]
  | some shown =>
    cases hlocal : RendererRect.fromOriginSize 0 0 surface.placement.width
        surface.placement.height with
    | none => simp [Covers]
    | some localBounds =>
      have hshows : Shows surface x y ↔ shown.Mem x y := by simp [Shows, hshown]
      have hone := damageOnOutput_mem h hb hshown hlocal
      simp only [Option.isSome_some, and_true]
      constructor
      · intro hc
        obtain ⟨r, hr, hm⟩ := hc
        obtain ⟨d, hd, hdr⟩ := List.mem_filterMap.mp hr
        obtain ⟨hmem, hformed, hat⟩ := (hone d).mp ⟨r, hdr, hm⟩
        exact ⟨hshows.mpr hmem, d, hd, hformed, hat⟩
      · intro hc
        obtain ⟨hs, d, hd, hformed, hat⟩ := hc
        obtain ⟨r, hdr, hm⟩ := (hone d).mpr ⟨hshows.mp hs, hformed, hat⟩
        exact ⟨r, List.mem_filterMap.mpr ⟨d, hd, hdr⟩, hm⟩

theorem surfaceById_concat (surfaces : List SurfaceSnapshot) (s : SurfaceSnapshot)
    (id : String) :
    surfaceById (surfaces ++ [s]) id =
      if s.id = id then some s else surfaceById surfaces id := by
  unfold surfaceById
  rw [List.foldl_concat]

theorem mem_of_surfaceById {id : String} (h : surfaceById surfaces id = some s) :
    s ∈ surfaces ∧ s.id = id := by
  induction surfaces using List.reverseRecOn with
  | nil => cases h
  | append_singleton surfaces t ih =>
    rw [surfaceById_concat] at h
    split_ifs at h with hid
    · obtain rfl := Option.some.inj h
      exact ⟨by simp, hid⟩
    · exact ⟨List.mem_append_left _ (ih h).1, (ih h).2⟩

theorem exists_surfaceById (hs : s ∈ surfaces) : ∃ t, surfaceById surfaces s.id = some t := by
  induction surfaces using List.reverseRecOn with
  | nil => cases hs
  | append_singleton surfaces t ih =>
    rw [surfaceById_concat]
    split_ifs with hid
    · exact ⟨t, rfl⟩
    · refine ih ?_
      rcases List.mem_append.mp hs with hin | hlast
      · exact hin
      · exact absurd (congrArg (·.id) (List.mem_singleton.mp hlast).symm) hid

theorem SceneSurfaces.surfaceById_eq (h : SceneSurfaces surfaces) (hs : s ∈ surfaces) :
    surfaceById surfaces s.id = some s := by
  obtain ⟨t, ht⟩ := exists_surfaceById hs
  obtain ⟨hmem, hid⟩ := mem_of_surfaceById ht
  rw [ht, h.unique hmem hs hid]

/-- A surface of both scenes with its place and its buffer. -/
structure KeptInPlace (old new : SurfaceSnapshot) : Prop where
  id : old.id = new.id
  placement : old.placement = new.placement
  buffer : old.bufferGeneration = new.bufferGeneration

theorem KeptInPlace.contains (h : KeptInPlace old new) (x y : Int) :
    Contains old x y ↔ Contains new x y := by
  unfold Contains
  rw [h.placement]

theorem surfaceExposes_iff (hid : old.id = new.id) :
    surfaceExposesOrOccupiesDifferentRegion old new = true ↔ ¬ KeptInPlace old new := by
  have hkept : KeptInPlace old new ↔
      old.placement = new.placement ∧ old.bufferGeneration = new.bufferGeneration :=
    ⟨fun h => ⟨h.placement, h.buffer⟩, fun h => ⟨hid, h.1, h.2⟩⟩
  rw [hkept]
  unfold surfaceExposesOrOccupiesDifferentRegion
  simp only [Bool.or_eq_true, bne_iff_ne, ne_eq]
  constructor
  · intro h hc
    rcases h with (hplace | hbuffer) | hvisible
    · exact hplace hc.1
    · exact hbuffer hc.2
    · exact hvisible (by rw [hc.1])
  · intro h
    by_cases hplace : old.placement = new.placement
    · exact .inl (.inr fun hbuffer => h ⟨hplace, hbuffer⟩)
    · exact .inl (.inl hplace)

theorem covers_ite {p : Prop} [Decidable p] {l : List RendererRect} :
    Covers (if p then l else []) x y ↔ p ∧ Covers l x y := by
  split_ifs with hp
  · simp [hp]
  · simp [hp, Covers]

theorem covers_flatMap {l : List α} {f : α → List RendererRect} :
    Covers (l.flatMap f) x y ↔ ∃ a ∈ l, Covers (f a) x y := by
  unfold Covers
  constructor
  · intro h
    obtain ⟨r, hr, hm⟩ := h
    obtain ⟨a, ha, hra⟩ := List.mem_flatMap.mp hr
    exact ⟨a, ha, r, hra, hm⟩
  · intro h
    obtain ⟨a, ha, r, hra, hm⟩ := h
    exact ⟨r, List.mem_flatMap.mpr ⟨a, ha, hra⟩, hm⟩

/-- Declared damage over a pixel, of which a rectangle could be formed. -/
def DamageCarried (surfaces : List SurfaceSnapshot) (x y : Int) : Prop :=
  ∃ s ∈ surfaces, Contains s x y ∧ ∃ d ∈ s.damageRects, Representable s d ∧ DamageAt s d x y

/-- Every surface over the pixel in either scene is in the other, with its place and buffer. -/
structure Settled (olds news : List SurfaceSnapshot) (x y : Int) : Prop where
  new : ∀ s ∈ news, Contains s x y → ∃ old ∈ olds, KeptInPlace old s
  old : ∀ s ∈ olds, Contains s x y → ∃ new ∈ news, KeptInPlace s new

section Scenes

variable {previous : CommittedSceneState} {surfaces : List SurfaceSnapshot}
  (hprevious : SceneSurfaces previous.surfaces) (hsurfaces : SceneSurfaces surfaces)
  {bounds : RendererRect} {x y : Int} (hb : bounds.Mem x y)

include hprevious hsurfaces hb

theorem covers_currentSurfaceDamage (hs : s ∈ surfaces) :
    Covers (currentSurfaceDamage previous bounds s) x y ↔
      Contains s x y ∧ ((¬ ∃ old ∈ previous.surfaces, KeptInPlace old s) ∨
        ∃ d ∈ s.damageRects, Representable s d ∧ DamageAt s d x y) := by
  have hplaced := hsurfaces.placed s hs
  have hchanged : ((surfaceById previous.surfaces s.id).map fun old =>
      surfaceExposesOrOccupiesDifferentRegion old s).getD true = true ↔
        ¬ ∃ old ∈ previous.surfaces, KeptInPlace old s := by
    cases hold : surfaceById previous.surfaces s.id with
    | none =>
      simp only [Option.map_none, Option.getD_none, true_iff]
      intro hex
      obtain ⟨old, hmem, hkept⟩ := hex
      obtain ⟨t, ht⟩ := exists_surfaceById hmem
      rw [hkept.id, hold] at ht
      cases ht
    | some old =>
      obtain ⟨hmem, hid⟩ := mem_of_surfaceById hold
      rw [Option.map_some, Option.getD_some, surfaceExposes_iff hid, not_iff_not]
      constructor
      · exact fun hkept => ⟨old, hmem, hkept⟩
      · intro hex
        obtain ⟨other, hother, hkept⟩ := hex
        rwa [hprevious.unique hmem hother (hid.trans hkept.id.symm)]
  unfold currentSurfaceDamage
  dsimp only
  rw [covers_append, covers_ite, hchanged, covers_surfaceRegion hplaced hb,
    covers_surfaceDamageRects hplaced hb, and_comm, ← and_or_left]

theorem covers_previousSurfaceDamage (hold : old ∈ previous.surfaces) :
    Covers (previousSurfaceDamage surfaces bounds old) x y ↔
      Contains old x y ∧ ¬ ∃ new ∈ surfaces, KeptInPlace old new := by
  have hchanged : ((surfaceById surfaces old.id).map fun new =>
      surfaceExposesOrOccupiesDifferentRegion old new).getD true = true ↔
        ¬ ∃ new ∈ surfaces, KeptInPlace old new := by
    cases hnew : surfaceById surfaces old.id with
    | none =>
      simp only [Option.map_none, Option.getD_none, true_iff]
      intro hex
      obtain ⟨new, hmem, hkept⟩ := hex
      obtain ⟨t, ht⟩ := exists_surfaceById hmem
      rw [← hkept.id, hnew] at ht
      cases ht
    | some new =>
      obtain ⟨hmem, hid⟩ := mem_of_surfaceById hnew
      rw [Option.map_some, Option.getD_some, surfaceExposes_iff hid.symm, not_iff_not]
      constructor
      · exact fun hkept => ⟨new, hmem, hkept⟩
      · intro hex
        obtain ⟨other, hother, hkept⟩ := hex
        rwa [hsurfaces.unique hmem hother (hid.trans hkept.id)]
  unfold previousSurfaceDamage
  dsimp only
  rw [covers_ite, hchanged, covers_surfaceRegion (hprevious.placed old hold) hb, and_comm]

end Scenes

theorem damageKey_injective : Function.Injective damageKey := by
  intro a b h
  unfold damageKey at h
  simp only [EmbeddingLike.apply_eq_iff_eq, Prod.mk.injEq] at h
  obtain ⟨hy0, hx0, hy1, hx1⟩ := h
  cases a
  cases b
  simp_all

/-- Without adjacent repetitions a sorted list has none. -/
theorem nodup_dedupAdjacent {κ : Type} [DecidableEq α] [PartialOrder κ] {key : α → κ}
    (hkey : Function.Injective key) {l : List α} (h : l.Pairwise fun a b => key a ≤ key b) :
    (dedupAdjacent l).Nodup := by
  induction l using dedupAdjacent.induct with
  | case1 => exact List.nodup_nil
  | case2 a => exact List.nodup_singleton a
  | case3 a rest ih =>
    rw [dedupAdjacent, if_pos rfl]
    exact ih (List.pairwise_cons.mp h).2
  | case4 a b rest hne ih =>
    obtain ⟨hhead, htail⟩ := List.pairwise_cons.mp h
    rw [dedupAdjacent, if_neg hne]
    refine List.nodup_cons.mpr ⟨fun hmem => ?_, ih htail⟩
    rw [mem_dedupAdjacent] at hmem
    rcases List.mem_cons.mp hmem with rfl | hrest
    · exact hne rfl
    · have hle := (List.pairwise_cons.mp htail).1 a hrest
      exact hne (hkey (le_antisymm (hhead b List.mem_cons_self) hle))

theorem length_dedup_sorted (damage : List RendererRect) :
    (dedupAdjacent (damage.insertionSort fun a b => damageKey a ≤ damageKey b)).length =
      damage.dedup.length := by
  have hsorted := List.pairwise_insertionSort (fun a b => damageKey a ≤ damageKey b) damage
  refine List.Perm.length_eq ((List.perm_ext_iff_of_nodup
    (nodup_dedupAdjacent damageKey_injective hsorted) (List.nodup_dedup damage)).mpr fun r => ?_)
  rw [mem_dedupAdjacent, List.mem_insertionSort, List.mem_dedup]

theorem covers_normalizeDamage_iff {damage : List RendererRect} (hb : bounds.Mem x y) :
    Covers (normalizeDamage bounds damage) x y ↔
      maxDamageRects < damage.dedup.length ∨ Covers damage x y := by
  unfold normalizeDamage
  dsimp only
  rw [length_dedup_sorted]
  split_ifs with hlen
  · simp only [hlen, true_or, iff_true]
    exact ⟨bounds, List.mem_singleton_self _, hb⟩
  · simp only [hlen, false_or, Covers, mem_dedupAdjacent, List.mem_insertionSort]

/-- More rectangles are asked for than are kept, so that the whole output is damaged. -/
def Collapsed (previous : CommittedSceneState) (surfaces : List SurfaceSnapshot)
    (bounds : RendererRect) : Prop :=
  maxDamageRects < (surfaces.flatMap (currentSurfaceDamage previous bounds) ++
    previous.surfaces.flatMap (previousSurfaceDamage surfaces bounds)).dedup.length

/-- The pixels of the output the damage between two scenes covers. -/
theorem covers_effectiveDamageRects {previous : CommittedSceneState}
    (hprevious : SceneSurfaces previous.surfaces) (hsurfaces : SceneSurfaces surfaces)
    (hb : bounds.Mem x y) :
    Covers (effectiveDamageRects (some previous) surfaces true bounds) x y ↔
      Collapsed previous surfaces bounds ∨ ¬ Settled previous.surfaces surfaces x y ∨
        DamageCarried surfaces x y := by
  have hcurrent : Covers (surfaces.flatMap (currentSurfaceDamage previous bounds)) x y ↔
      (∃ s ∈ surfaces, Contains s x y ∧ ¬ ∃ old ∈ previous.surfaces, KeptInPlace old s) ∨
        DamageCarried surfaces x y := by
    rw [covers_flatMap]
    unfold DamageCarried
    constructor
    · intro h
      obtain ⟨s, hs, hc⟩ := h
      obtain ⟨hcontains, hwhy⟩ :=
        (covers_currentSurfaceDamage hprevious hsurfaces hb hs).mp hc
      rcases hwhy with hchanged | hdamage
      · exact .inl ⟨s, hs, hcontains, hchanged⟩
      · exact .inr ⟨s, hs, hcontains, hdamage⟩
    · intro h
      rcases h with ⟨s, hs, hcontains, hchanged⟩ | ⟨s, hs, hcontains, hdamage⟩
      · exact ⟨s, hs, (covers_currentSurfaceDamage hprevious hsurfaces hb hs).mpr
          ⟨hcontains, .inl hchanged⟩⟩
      · exact ⟨s, hs, (covers_currentSurfaceDamage hprevious hsurfaces hb hs).mpr
          ⟨hcontains, .inr hdamage⟩⟩
  have hold : Covers (previous.surfaces.flatMap (previousSurfaceDamage surfaces bounds)) x y ↔
      ∃ old ∈ previous.surfaces, Contains old x y ∧ ¬ ∃ new ∈ surfaces, KeptInPlace old new := by
    rw [covers_flatMap]
    exact exists_congr fun old => and_congr_right fun hmem =>
      covers_previousSurfaceDamage hprevious hsurfaces hb hmem
  have hsettled : ¬ Settled previous.surfaces surfaces x y ↔
      (∃ s ∈ surfaces, Contains s x y ∧ ¬ ∃ old ∈ previous.surfaces, KeptInPlace old s) ∨
        ∃ old ∈ previous.surfaces, Contains old x y ∧
          ¬ ∃ new ∈ surfaces, KeptInPlace old new := by
    constructor
    · intro h
      by_contra hnone
      push Not at hnone
      exact h ⟨hnone.1, hnone.2⟩
    · intro h hs
      rcases h with ⟨s, hmem, hcontains, hchanged⟩ | ⟨old, hmem, hcontains, hchanged⟩
      · exact hchanged (hs.new s hmem hcontains)
      · exact hchanged (hs.old old hmem hcontains)
  have hready : (!true) = false := rfl
  unfold effectiveDamageRects Collapsed
  simp only [hready, Bool.false_eq_true, if_false]
  rw [covers_normalizeDamage_iff hb, covers_append, hcurrent, hold, hsettled]
  exact or_congr_right or_right_comm

end TuffXwin.Displayd
