import Mathlib.Data.List.Sort
import TuffXwin.Common.Ipc

/-! Renderer rectangles, output geometry and the damage computed between two
scenes. Rectangles are half open; a damage list denotes the union of its
rectangles. -/

namespace TuffXwin.Displayd
open Lib

variable {x y : Int}
variable {surface : SurfaceSnapshot}

def maxOutputs : Nat := 64
def maxSceneSurfaces : Nat := 4096
def maxScenePixelPayloads : Nat := 4096
def maxScenePixelBytes : Nat := 256 * 1024 * 1024
def maxSinglePixelPayloadBytes : Nat := 64 * 1024 * 1024
def maxDamageRects : Nat := 4096
def maxPresentationObligations : Nat := 4096
def maxPresentationFeedbacks : Nat := 4096
def maxOutputDimension : Nat := 32768
def maxOutputFramebufferBytes : Nat := 512 * 1024 * 1024
def maxTotalFramebufferBytes : Nat := 1024 * 1024 * 1024
def wlShmFormatArgb8888 : Nat := 0
def wlShmFormatXrgb8888 : Nat := 1

structure RendererRect where
  x0 : Int
  y0 : Int
  x1 : Int
  y1 : Int
  deriving DecidableEq, Repr

variable {a b bounds r : RendererRect} {damage : List RendererRect}

def checkedAddI32U32 (value : Int) (delta : Nat) : Option Int := i32Checked (value + delta)

namespace RendererRect

def fromOriginSize (x y : Int) (width height : Nat) : Option RendererRect :=
  if width = 0 ∨ height = 0 then none
  else
    (checkedAddI32U32 x width).bind fun x1 =>
      (checkedAddI32U32 y height).bind fun y1 =>
        if x1 > x ∧ y1 > y then some ⟨x, y, x1, y1⟩ else none

def width (r : RendererRect) : Nat := (r.x1 - r.x0).toNat

def height (r : RendererRect) : Nat := (r.y1 - r.y0).toNat

def intersect (a b : RendererRect) : Option RendererRect :=
  let rect : RendererRect := ⟨max a.x0 b.x0, max a.y0 b.y0, min a.x1 b.x1, min a.y1 b.y1⟩
  if rect.x1 > rect.x0 ∧ rect.y1 > rect.y0 then some rect else none

def Mem (r : RendererRect) (x y : Int) : Prop :=
  r.x0 ≤ x ∧ x < r.x1 ∧ r.y0 ≤ y ∧ y < r.y1

instance (r : RendererRect) (x y : Int) : Decidable (r.Mem x y) := by
  unfold Mem
  infer_instance

def Nonempty (r : RendererRect) : Prop := r.x0 < r.x1 ∧ r.y0 < r.y1

def Within (a b : RendererRect) : Prop :=
  b.x0 ≤ a.x0 ∧ a.x1 ≤ b.x1 ∧ b.y0 ≤ a.y0 ∧ a.y1 ≤ b.y1

theorem Within.mem (h : a.Within b) (hm : a.Mem x y) : b.Mem x y := by
  unfold Within Mem at *
  omega

theorem Within.refl (a : RendererRect) : a.Within a := by
  unfold Within
  omega

theorem fromOriginSize_eq_some {w h : Nat} :
    fromOriginSize x y w h = some r ↔
      0 < w ∧ 0 < h ∧ (i32Min ≤ x + w ∧ x + w ≤ i32Max) ∧
        (i32Min ≤ y + h ∧ y + h ≤ i32Max) ∧ r = ⟨x, y, x + w, y + h⟩ := by
  simp only [fromOriginSize, checkedAddI32U32, i32Checked]
  constructor
  · intro hr
    split_ifs at hr with h0 hx hy
    · rw [Option.bind_some, Option.bind_some] at hr
      split_ifs at hr
      exact ⟨by omega, by omega, hx, hy, (Option.some.inj hr).symm⟩
    · cases hr
    · cases hr
    · cases hr
  · rintro ⟨hw, hh, hx, hy, rfl⟩
    have hz : ¬ (w = 0 ∨ h = 0) := by omega
    have hp : x + ↑w > x ∧ y + ↑h > y := by omega
    simp [hz, hx, hy, hp]

theorem intersect_eq_some (h : a.intersect b = some r) :
    r.Nonempty ∧ r.Within a ∧ r.Within b ∧ ∀ x y, r.Mem x y ↔ a.Mem x y ∧ b.Mem x y := by
  simp only [intersect] at h
  split_ifs at h with hp
  obtain rfl := Option.some.inj h
  unfold Nonempty Within Mem
  dsimp only at *
  refine ⟨⟨by omega, by omega⟩, ⟨by omega, by omega, by omega, by omega⟩,
    ⟨by omega, by omega, by omega, by omega⟩, fun x y => ?_⟩
  constructor
  · intro hm
    omega
  · intro hm
    omega

theorem exists_intersect (ha : a.Mem x y) (hb : b.Mem x y) :
    ∃ r, a.intersect b = some r ∧ r.Mem x y := by
  unfold Mem at *
  refine ⟨⟨max a.x0 b.x0, max a.y0 b.y0, min a.x1 b.x1, min a.y1 b.y1⟩, ?_, ?_⟩
  · rw [intersect, if_pos]
    dsimp only
    omega
  · dsimp only
    omega

end RendererRect

/-- The pixels a damage list denotes. -/
def Covers (rects : List RendererRect) (x y : Int) : Prop := ∃ r ∈ rects, r.Mem x y

instance (rects : List RendererRect) (x y : Int) : Decidable (Covers rects x y) := by
  unfold Covers
  infer_instance

theorem covers_append {l l' : List RendererRect} :
    Covers (l ++ l') x y ↔ Covers l x y ∨ Covers l' x y := by
  simp only [Covers, List.mem_append, or_and_right, exists_or]

/-- The key both damage lists are sorted by. -/
def damageKey (r : RendererRect) : Int ×ₗ Int ×ₗ Int ×ₗ Int :=
  toLex (r.y0, toLex (r.x0, toLex (r.y1, r.x1)))

/-- `Vec::dedup`: drop a repetition of the element just kept. -/
def dedupAdjacent {α : Type} [DecidableEq α] : List α → List α
  | [] => []
  | [a] => [a]
  | a :: b :: rest =>
    if a = b then dedupAdjacent (b :: rest) else a :: dedupAdjacent (b :: rest)

theorem mem_dedupAdjacent {α : Type} [DecidableEq α] {a : α} {l : List α} :
    a ∈ dedupAdjacent l ↔ a ∈ l := by
  induction l using dedupAdjacent.induct with
  | case1 => simp [dedupAdjacent]
  | case2 b => simp [dedupAdjacent]
  | case3 b rest ih => simp [dedupAdjacent, ih]
  | case4 b c rest hne ih => simp [dedupAdjacent, hne, ih]

/-- Sort, drop repetitions, and fall back to the whole output past the limit. -/
def normalizeDamage (bounds : RendererRect) (damage : List RendererRect) :
    List RendererRect :=
  let sorted := dedupAdjacent (damage.insertionSort (fun a b => damageKey a ≤ damageKey b))
  if sorted.length > maxDamageRects then [bounds] else sorted

theorem mem_normalizeDamage (h : r ∈ normalizeDamage bounds damage) : r = bounds ∨ r ∈ damage := by
  simp only [normalizeDamage] at h
  split_ifs at h with hlen
  · exact .inl (List.mem_singleton.mp h)
  · rw [mem_dedupAdjacent, List.mem_insertionSort] at h
    exact .inr h

theorem normalizeDamage_eq_nil : normalizeDamage bounds damage = [] ↔ damage = [] := by
  constructor
  · intro h
    rw [List.eq_nil_iff_forall_not_mem]
    intro r hr
    simp only [normalizeDamage] at h
    split_ifs at h with hlen
    have hmem : r ∈ dedupAdjacent
        (damage.insertionSort (fun a b => damageKey a ≤ damageKey b)) := by
      rw [mem_dedupAdjacent, List.mem_insertionSort]
      exact hr
    rw [h] at hmem
    exact absurd hmem List.not_mem_nil
  · rintro rfl
    rfl

/-- What `OutputState::validate` establishes of a geometry. -/
structure ValidGeometry (g : OutputGeometry) : Prop where
  outputId : g.outputId ≠ ""
  width_pos : 0 < g.width
  height_pos : 0 < g.height
  width_le : g.width ≤ maxOutputDimension
  height_le : g.height ≤ maxOutputDimension
  format : g.format = wlShmFormatXrgb8888
  stride : g.width * 4 ≤ g.stride
  aligned : g.stride % 4 = 0
  bytes : g.stride * g.height ≤ maxOutputFramebufferBytes

/-- A validated output geometry. -/
structure OutputState extends OutputGeometry where
  valid : ValidGeometry toOutputGeometry
  deriving DecidableEq

variable {o : OutputState}

namespace OutputState

def validate (g : OutputGeometry) : Except String OutputState :=
  if h : g.outputId = "" ∨ g.width = 0 ∨ g.height = 0 then
    .error "invalid output identity or zero dimensions"
  else if h' : g.width > maxOutputDimension ∨ g.height > maxOutputDimension then
    .error "output dimensions exceed displayd bounds"
  else if hf : g.format ≠ wlShmFormatXrgb8888 then
    .error "output framebuffer must be XRGB8888"
  else if g.width * 4 > u32Max then .error "output stride overflow"
  else if hs : g.stride < g.width * 4 ∨ g.stride % 4 ≠ 0 then
    .error "undersized or unaligned output stride"
  else if g.stride * g.height > u64Max then .error "framebuffer size overflow"
  else if hb : g.stride * g.height = 0 ∨ g.stride * g.height > maxOutputFramebufferBytes then
    .error "framebuffer size exceeds displayd bounds"
  else
    .ok
      { toOutputGeometry := g
        valid :=
          { outputId := fun e => h (.inl e)
            width_pos := Nat.pos_of_ne_zero fun e => h (.inr (.inl e))
            height_pos := Nat.pos_of_ne_zero fun e => h (.inr (.inr e))
            width_le := by omega
            height_le := by omega
            format := not_not.mp hf
            stride := by omega
            aligned := by omega
            bytes := by omega } }

theorem validate_geometry {g : OutputGeometry} (h : validate g = .ok o) :
    o.toOutputGeometry = g := by
  simp only [validate] at h
  split_ifs at h
  exact congrArg OutputState.toOutputGeometry (Except.ok.inj h).symm

/-- `OutputState::bounds`; `none` is its panic on an extent outside `i32`. -/
def bounds? (o : OutputState) : Option RendererRect :=
  RendererRect.fromOriginSize o.originX o.originY o.width o.height

def framebufferWords (o : OutputState) : Nat := o.stride / 4 * o.height

def framebufferBytes (o : OutputState) : Nat := o.stride * o.height

theorem bounds?_eq_some (h : o.bounds? = some r) :
    r = ⟨o.originX, o.originY, o.originX + o.width, o.originY + o.height⟩ :=
  (RendererRect.fromOriginSize_eq_some.mp h).2.2.2.2

end OutputState

def framebufferIsInitialized (framebuffer : List UInt32) (output : OutputState) : Bool :=
  framebuffer.length == output.framebufferWords

def surfaceOutputBounds (surface : SurfaceSnapshot) : Option RendererRect :=
  if !surface.placement.visible then none
  else
    RendererRect.fromOriginSize surface.placement.x surface.placement.y
      surface.placement.width surface.placement.height

/-- One declared damage rectangle, clipped to its surface and moved to the output. -/
def damageOnOutput (surface : SurfaceSnapshot) (surfaceBounds surfaceLocalBounds
    outputBounds : RendererRect) (damage : Rect) : Option RendererRect :=
  (RendererRect.fromOriginSize damage.x damage.y damage.width damage.height).bind fun local₀ =>
    (local₀.intersect surfaceLocalBounds).bind fun localRect =>
      (i32Checked (surface.placement.x + localRect.x0)).bind fun x =>
        (i32Checked (surface.placement.y + localRect.y0)).bind fun y =>
          (RendererRect.fromOriginSize x y localRect.width localRect.height).bind fun output =>
            (output.intersect surfaceBounds).bind fun r => r.intersect outputBounds

def surfaceDamageRects (surface : SurfaceSnapshot) (outputBounds : RendererRect) :
    List RendererRect :=
  match surfaceOutputBounds surface with
  | none => []
  | some surfaceBounds =>
    match RendererRect.fromOriginSize 0 0 surface.placement.width surface.placement.height with
    | none => []
    | some surfaceLocalBounds =>
      surface.damageRects.filterMap
        (damageOnOutput surface surfaceBounds surfaceLocalBounds outputBounds)

def surfaceExposesOrOccupiesDifferentRegion (old new : SurfaceSnapshot) : Bool :=
  old.placement != new.placement || old.bufferGeneration != new.bufferGeneration ||
    old.placement.visible != new.placement.visible

/-- The map from ids to surfaces collected from a list: a later entry wins. -/
def surfaceById (surfaces : List SurfaceSnapshot) (id : String) : Option SurfaceSnapshot :=
  surfaces.foldl (fun found surface => if surface.id = id then some surface else found) none

def surfaceRegion (surface : SurfaceSnapshot) (outputBounds : RendererRect) :
    List RendererRect :=
  ((surfaceOutputBounds surface).bind fun r => r.intersect outputBounds).toList

def currentSurfaceDamage (previous : CommittedSceneState) (outputBounds : RendererRect)
    (surface : SurfaceSnapshot) : List RendererRect :=
  let changed := ((surfaceById previous.surfaces surface.id).map fun old =>
    surfaceExposesOrOccupiesDifferentRegion old surface).getD true
  (if changed then surfaceRegion surface outputBounds else []) ++
    surfaceDamageRects surface outputBounds

def previousSurfaceDamage (surfaces : List SurfaceSnapshot) (outputBounds : RendererRect)
    (old : SurfaceSnapshot) : List RendererRect :=
  let changed := ((surfaceById surfaces old.id).map fun new =>
    surfaceExposesOrOccupiesDifferentRegion old new).getD true
  if changed then surfaceRegion old outputBounds else []

def effectiveDamageRects (previous : Option CommittedSceneState)
    (surfaces : List SurfaceSnapshot) (framebufferReady : Bool)
    (outputBounds : RendererRect) : List RendererRect :=
  match previous with
  | none => [outputBounds]
  | some previous =>
    if !framebufferReady then [outputBounds]
    else
      normalizeDamage outputBounds
        (surfaces.flatMap (currentSurfaceDamage previous outputBounds) ++
          previous.surfaces.flatMap (previousSurfaceDamage surfaces outputBounds))

theorem RendererRect.Within.trans {c : RendererRect} (h : a.Within b) (h' : b.Within c) :
    a.Within c := by
  unfold Within at *
  omega

theorem surfaceRegion_within (h : r ∈ surfaceRegion surface bounds) :
    r.Nonempty ∧ r.Within bounds := by
  simp only [surfaceRegion, Option.mem_toList, Option.bind_eq_some_iff] at h
  obtain ⟨s, _, hr⟩ := h
  have hspec := RendererRect.intersect_eq_some hr
  exact ⟨hspec.1, hspec.2.2.1⟩

theorem surfaceDamageRects_within (h : r ∈ surfaceDamageRects surface bounds) :
    r.Nonempty ∧ r.Within bounds := by
  simp only [surfaceDamageRects] at h
  split at h
  · simp at h
  · split at h
    · simp at h
    · obtain ⟨d, _, hd⟩ := List.mem_filterMap.mp h
      simp only [damageOnOutput, Option.bind_eq_some_iff] at hd
      obtain ⟨_, _, _, _, _, _, _, _, _, _, _, _, hr⟩ := hd
      have hspec := RendererRect.intersect_eq_some hr
      exact ⟨hspec.1, hspec.2.2.1⟩

/-- Every rectangle of the computed damage is non-empty and inside the output. -/
theorem effectiveDamageRects_within {previous : Option CommittedSceneState}
    {surfaces : List SurfaceSnapshot} {ready : Bool} (hb : bounds.Nonempty)
    (h : r ∈ effectiveDamageRects previous surfaces ready bounds) :
    r.Nonempty ∧ r.Within bounds := by
  have hself : r = bounds → r.Nonempty ∧ r.Within bounds := by
    intro e
    rw [e]
    exact ⟨hb, RendererRect.Within.refl bounds⟩
  simp only [effectiveDamageRects] at h
  split at h
  · exact hself (List.mem_singleton.mp h)
  · split_ifs at h with hready
    · exact hself (List.mem_singleton.mp h)
    · cases mem_normalizeDamage h with
      | inl e => exact hself e
      | inr hmem =>
        simp only [List.mem_append, List.mem_flatMap] at hmem
        cases hmem with
        | inl hcur =>
          obtain ⟨s, _, hs⟩ := hcur
          simp only [currentSurfaceDamage, List.mem_append] at hs
          cases hs with
          | inl hregion =>
            split_ifs at hregion
            · exact surfaceRegion_within hregion
            · simp at hregion
          | inr hdamage => exact surfaceDamageRects_within hdamage
        | inr hold =>
          obtain ⟨s, _, hs⟩ := hold
          simp only [previousSurfaceDamage] at hs
          split_ifs at hs
          · exact surfaceRegion_within hs
          · simp at hs

end TuffXwin.Displayd
