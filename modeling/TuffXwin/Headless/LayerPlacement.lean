import TuffXwin.Headless.Managers
import TuffXwin.Headless.Rules
import TuffXwin.Lib.Fold
import Mathlib.Algebra.Group.Prod
import Mathlib.Algebra.Ring.Int.Defs

/-! The placement of a layer surface. Every request that changes a setting calculates it
anew from the position it had, so that the positions asked for add up. -/

namespace TuffXwin.Headless
open Lib

variable {outputId : Option Nat}
variable {margins : LayerMargins} {size : Option (Nat × Nat)} {origin : Int × Int} {zone : Int}
  {outputs : OutputManager}

def FitsI32 (v : Int) : Prop := i32Min ≤ v ∧ v ≤ i32Max

instance (v : Int) : Decidable (FitsI32 v) := inferInstanceAs (Decidable (_ ∧ _))

theorem addI32_eq_ok {a b sum : Int} :
    addI32 a b = .ok sum ↔ FitsI32 (a + b) ∧ sum = a + b := by
  unfold addI32 i32Checked FitsI32
  by_cases hfits : i32Min ≤ a + b ∧ a + b ≤ i32Max
  · rw [if_pos hfits]
    simp [hfits, eq_comm]
  · rw [if_neg hfits]
    simp [hfits]

/-- The sums of a placement: those of the margins only where no size is given. -/
structure PlacementFits (geometry : Rect) (margins : LayerMargins) (size : Option (Nat × Nat))
    (origin : Int × Int) : Prop where
  across : size = none → FitsI32 (margins.left + margins.right)
  along : size = none → FitsI32 (margins.top + margins.bottom)
  left : FitsI32 (geometry.x + margins.left)
  x : FitsI32 (geometry.x + margins.left + origin.1)
  top : FitsI32 (geometry.y + margins.top)
  y : FitsI32 (geometry.y + margins.top + origin.2)

def OutputManager.placementRect (outputs : OutputManager) (outputId : Option Nat) : Rect :=
  (outputId.bind outputs.geometryRect).getD ⟨0, 0, 1920, 1080⟩

/-- The extent of a surface on the output. -/
def layerExtent (geometry : Rect) (margins : LayerMargins) (size : Option (Nat × Nat)) :
    Nat × Nat :=
  size.getD (geometry.width - (margins.left + margins.right).toNat,
    geometry.height - (margins.top + margins.bottom).toNat)

theorem marginExtent_eq_ok {size : Option Nat} {extent width : Nat} {first second : Int} :
    marginExtent size extent first second = .ok width ↔
      (size = none → FitsI32 (first + second)) ∧
        width = size.getD (extent - (first + second).toNat) := by
  cases size with
  | some given => simp [marginExtent, eq_comm]
  | none =>
    simp only [marginExtent, bind_eq_ok, addI32_eq_ok, forall_const, Option.getD_none]
    constructor
    · rintro ⟨sum, ⟨hfits, rfl⟩, hwidth⟩
      exact ⟨hfits, (Except.ok.inj hwidth).symm⟩
    · rintro ⟨hfits, rfl⟩
      exact ⟨_, ⟨hfits, rfl⟩, rfl⟩

theorem calculatePlacement_eq_ok {placement : LayerPlacement} :
    calculatePlacement outputId margins size origin zone outputs = .ok placement ↔
      PlacementFits (outputs.placementRect outputId) margins size origin ∧
        placement =
          ⟨(outputs.placementRect outputId).x + margins.left + origin.1,
            (outputs.placementRect outputId).y + margins.top + origin.2,
            (layerExtent (outputs.placementRect outputId) margins size).1,
            (layerExtent (outputs.placementRect outputId) margins size).2, zone⟩ := by
  simp only [calculatePlacement, bind_eq_ok, marginExtent_eq_ok, addI32_eq_ok,
    Option.map_eq_none_iff]
  constructor
  · rintro ⟨width, ⟨hacross, rfl⟩, height, ⟨halong, rfl⟩, left, ⟨hleft, rfl⟩, x, ⟨hx, rfl⟩, top,
      ⟨htop, rfl⟩, y, ⟨hy, rfl⟩, hplacement⟩
    refine ⟨⟨hacross, halong, hleft, hx, htop, hy⟩, ?_⟩
    rw [← Except.ok.inj hplacement]
    cases size <;> rfl
  · rintro ⟨hfits, rfl⟩
    refine ⟨_, ⟨hfits.across, rfl⟩, _, ⟨hfits.along, rfl⟩, _, ⟨hfits.left, rfl⟩, _,
      ⟨hfits.x, rfl⟩, _, ⟨hfits.top, rfl⟩, _, ⟨hfits.y, rfl⟩, ?_⟩
    cases size <;> rfl

theorem calculatePlacement_calm
    (h : PlacementFits (outputs.placementRect outputId) margins size origin) :
    Calm (calculatePlacement outputId margins size origin zone outputs) := by
  rw [calculatePlacement_eq_ok.mpr ⟨h, rfl⟩]
  exact calm_ok _

/-! The requests that change a setting. -/

structure LayerSettings where
  size : Option (Nat × Nat)
  anchor : Nat
  exclusiveZone : Int
  margins : LayerMargins
  deriving DecidableEq, Repr

def LayerSurfaceState.settings (state : LayerSurfaceState) : LayerSettings :=
  ⟨state.size, state.anchor, state.exclusiveZone, state.margins⟩

inductive Setter
  | size (width height : Nat)
  | anchor (value : Nat)
  | exclusiveZone (zone : Int)
  | margin (margins : LayerMargins)
  deriving DecidableEq, Repr

namespace Setter

def apply (setter : Setter) (m : LayerShellState) (id : Nat) (outputs : OutputManager) :
    Fallible LayerShellState :=
  match setter with
  | .size width height => m.setSize id width height outputs
  | .anchor value => m.setAnchor id value outputs
  | .exclusiveZone zone => m.setExclusiveZone id zone outputs
  | .margin margins => m.setMargin id margins outputs

def set (setter : Setter) (settings : LayerSettings) : LayerSettings :=
  match setter with
  | .size width height => { settings with size := some (width, height) }
  | .anchor value => { settings with anchor := value }
  | .exclusiveZone zone => { settings with exclusiveZone := zone }
  | .margin margins => { settings with margins := margins }

/-- The change of the state that the request makes before the placement is calculated. -/
def change (setter : Setter) (state : LayerSurfaceState) : LayerSurfaceState :=
  match setter with
  | .size width height => { state with size := some (width, height) }
  | .anchor value => { state with anchor := value }
  | .exclusiveZone zone => { state with exclusiveZone := zone }
  | .margin margins => { state with margins := margins }

/-- The request is one the shell takes at all. -/
def Valid : Setter → Prop
  | .size width height => ¬ (width = 0 ∧ height = 0)
  | .anchor value => ¬ value > 15
  | .exclusiveZone zone => ¬ zone < -1
  | .margin _ => True

end Setter

def applySetters (m : LayerShellState) (id : Nat) (outputs : OutputManager) :
    List Setter → Fallible LayerShellState
  | [] => .ok m
  | setter :: rest => do
    let changed ← setter.apply m id outputs
    applySetters changed id outputs rest

namespace LayerSettings

/-- Where the settings put a surface of the output. -/
def position (settings : LayerSettings) (geometry : Rect) : Int × Int :=
  (geometry.x + settings.margins.left, geometry.y + settings.margins.top)

end LayerSettings

/-- The positions that the requests of a sequence ask for, added up. -/
def drift (geometry : Rect) : LayerSettings → List Setter → Int × Int
  | _, [] => 0
  | settings, setter :: rest =>
    (setter.set settings).position geometry + drift geometry (setter.set settings) rest

def LayerPlacement.position (placement : LayerPlacement) : Int × Int := (placement.x, placement.y)

/-- All of the placement but its position follows from the settings. -/
def LayerSurfaceState.Shaped (state : LayerSurfaceState) (geometry : Rect) : Prop :=
  (state.placement.width, state.placement.height) = layerExtent geometry state.margins state.size ∧
    state.placement.exclusiveZone = state.exclusiveZone

section Setters

variable {m m' : LayerShellState} {id : Nat} {outputs : OutputManager} {setter : Setter}
  {old new : LayerSurfaceState} {geometry : Rect}

theorem replace_eq_ok {f : LayerSurfaceState → LayerSurfaceState}
    (hold : m.surfaces.get? id = some old) :
    m.replace id f outputs = .ok m' ↔
      PlacementFits (outputs.placementRect (f old).outputId) (f old).margins (f old).size
          (f old).placement.position ∧
        m' = { m with surfaces := m.surfaces.modify id fun s => { f s with placement :=
          ⟨(outputs.placementRect (f old).outputId).x + (f old).margins.left +
              (f old).placement.x,
            (outputs.placementRect (f old).outputId).y + (f old).margins.top +
              (f old).placement.y,
            (layerExtent (outputs.placementRect (f old).outputId) (f old).margins
              (f old).size).1,
            (layerExtent (outputs.placementRect (f old).outputId) (f old).margins
              (f old).size).2, (f old).exclusiveZone⟩ } } := by
  have hcontains : m.surfaces.contains id = true := OrdMap.contains_iff.mpr ⟨old, hold⟩
  simp only [LayerShellState.replace, hold, orInvalid, bind_eq_ok, calculatePlacement_eq_ok,
    LayerShellState.modifySurface, hcontains, if_true, Except.ok.injEq, exists_eq_left']
  constructor
  · rintro ⟨placement, ⟨hfits, rfl⟩, rfl⟩
    exact ⟨hfits, rfl⟩
  · rintro ⟨hfits, rfl⟩
    exact ⟨_, ⟨hfits, rfl⟩, rfl⟩

theorem apply_eq_replace (hold : m.surfaces.get? id = some old) :
    setter.apply m id outputs = .ok m' ↔
      setter.Valid ∧ m.replace id setter.change outputs = .ok m' := by
  cases setter with
  | size width height =>
    simp only [Setter.apply, LayerShellState.setSize, hold, orInvalid, bind, Except.bind,
      Setter.Valid]
    split_ifs with h
    · simp [h]
    · simp only [h, not_false_eq_true, true_and]
      rfl
  | anchor value =>
    simp only [Setter.apply, LayerShellState.setAnchor, Setter.Valid]
    split_ifs with h
    · simp [h]
    · simp only [h, not_false_eq_true, true_and]
      rfl
  | exclusiveZone zone =>
    simp only [Setter.apply, LayerShellState.setExclusiveZone, Setter.Valid]
    split_ifs with h
    · simp [h]
    · simp only [h, not_false_eq_true, true_and]
      rfl
  | margin margins =>
    simp only [Setter.apply, LayerShellState.setMargin, Setter.Valid, true_and]
    rfl

theorem change_settings (setter : Setter) (old : LayerSurfaceState) :
    (setter.change old).settings = setter.set old.settings := by
  cases setter <;> rfl

theorem change_outputId (setter : Setter) (old : LayerSurfaceState) :
    (setter.change old).outputId = old.outputId := by
  cases setter <;> rfl

theorem change_placement (setter : Setter) (old : LayerSurfaceState) :
    (setter.change old).placement = old.placement := by
  cases setter <;> rfl

theorem set_set (setter : Setter) (settings : LayerSettings) :
    setter.set (setter.set settings) = setter.set settings := by
  cases setter <;> rfl

/-- The sums of the placement that a request asks for. -/
def Setter.Fits (setter : Setter) (old : LayerSurfaceState) (geometry : Rect) : Prop :=
  PlacementFits geometry (setter.set old.settings).margins (setter.set old.settings).size
    old.placement.position

/-- A request is accepted where it is valid and its sums fit; the surface moves by the
position its settings then ask for. -/
theorem apply_eq_ok (hold : m.surfaces.get? id = some old)
    (hgeometry : geometry = outputs.placementRect old.outputId) :
    setter.apply m id outputs = .ok m' ↔
      setter.Valid ∧ setter.Fits old geometry ∧
        m' = { m with surfaces := m.surfaces.modify id fun s => { setter.change s with placement :=
          ⟨((setter.set old.settings).position geometry).1 + old.placement.x,
            ((setter.set old.settings).position geometry).2 + old.placement.y,
            (layerExtent geometry (setter.set old.settings).margins
              (setter.set old.settings).size).1,
            (layerExtent geometry (setter.set old.settings).margins
              (setter.set old.settings).size).2, (setter.set old.settings).exclusiveZone⟩ } } := by
  rw [apply_eq_replace hold, replace_eq_ok hold]
  simp only [Setter.Fits, LayerSettings.position, ← change_settings, hgeometry]
  rw [← change_outputId setter old, ← change_placement setter old]
  rfl

/-- What an accepted request leaves of its surface. -/
theorem apply_spec (hold : m.surfaces.get? id = some old)
    (h : setter.apply m id outputs = .ok m')
    (hgeometry : geometry = outputs.placementRect old.outputId) :
    ∃ new, m'.surfaces.get? id = some new ∧ new.settings = setter.set old.settings ∧
      new.outputId = old.outputId ∧ new.Shaped geometry ∧
      new.placement.position =
        (setter.set old.settings).position geometry + old.placement.position := by
  obtain ⟨_, _, rfl⟩ := (apply_eq_ok hold hgeometry).mp h
  refine ⟨_, by rw [OrdMap.get?_modify_self, hold]; rfl, ?_, ?_, ⟨?_, ?_⟩, rfl⟩
  · exact change_settings setter old
  · exact change_outputId setter old
  · rw [← change_settings]
    rfl
  · rw [← change_settings]
    rfl

/-- A surface after a sequence of requests: its position has drifted. -/
theorem applySetters_spec {setters : List Setter} (hold : m.surfaces.get? id = some old)
    (hshaped : old.Shaped geometry) (h : applySetters m id outputs setters = .ok m')
    (hgeometry : geometry = outputs.placementRect old.outputId) :
    ∃ new, m'.surfaces.get? id = some new ∧ new.outputId = old.outputId ∧
      new.Shaped geometry ∧
      new.placement.position = drift geometry old.settings setters + old.placement.position := by
  induction setters generalizing m old with
  | nil =>
    obtain rfl := Except.ok.inj h
    exact ⟨old, hold, rfl, hshaped, (zero_add _).symm⟩
  | cons setter rest ih =>
    obtain ⟨changed, hchanged, hrest⟩ := bind_eq_ok.mp h
    obtain ⟨next, hnext, hsettings, houtput, hshaped', hposition⟩ :=
      apply_spec hold hchanged hgeometry
    obtain ⟨new, hnew, houtput', hshapedNew, hdrift⟩ :=
      ih hnext hshaped' hrest (by rw [houtput]; exact hgeometry)
    refine ⟨new, hnew, houtput'.trans houtput, hshapedNew, ?_⟩
    rw [hdrift, hposition, hsettings, drift, ← add_assoc,
      add_comm (drift _ _ _)]

/-- Placements of surfaces with equal settings differ in their positions only. -/
theorem placement_eq_iff {first second : LayerSurfaceState} (hfirst : first.Shaped geometry)
    (hsecond : second.Shaped geometry) (hsettings : first.settings = second.settings) :
    first.placement = second.placement ↔
      first.placement.position = second.placement.position := by
  obtain ⟨hextent, hzone⟩ := hfirst
  obtain ⟨hextent', hzone'⟩ := hsecond
  simp only [LayerSurfaceState.settings, LayerSettings.mk.injEq] at hsettings
  obtain ⟨hsize, _, hzones, hmargins⟩ := hsettings
  rw [hsize, hmargins, ← hextent'] at hextent
  obtain ⟨hwidth, hheight⟩ := Prod.mk.inj hextent
  constructor
  · intro heq
    rw [heq]
  · intro heq
    obtain ⟨hx, hy⟩ := Prod.mk.inj heq
    cases hplacement : first.placement
    cases hplacement' : second.placement
    simp_all

/-- A request that is repeated moves the surface by what it asks for once more. -/
theorem repeat_iff (hold : m.surfaces.get? id = some old)
    (h : setter.apply m id outputs = .ok m') (hnew : m'.surfaces.get? id = some new)
    (hgeometry : geometry = outputs.placementRect old.outputId) :
    (∃ m'' again, setter.apply m' id outputs = .ok m'' ∧ m''.surfaces.get? id = some again ∧
        again.placement = new.placement) ↔
      new.settings.position geometry = 0 := by
  obtain ⟨state, hstate, hsettings, houtput, hshapedNew, hposition⟩ :=
    apply_spec hold h hgeometry
  obtain rfl := Option.some.inj (hnew.symm.trans hstate)
  have hgeometry' : geometry = outputs.placementRect new.outputId := by
    rw [houtput]
    exact hgeometry
  have hsame : setter.set new.settings = new.settings := by rw [hsettings, set_set]
  constructor
  · rintro ⟨m'', again, hagain, hget, hplacement⟩
    obtain ⟨next, hnext, _, _, _, hmoved⟩ := apply_spec hnew hagain hgeometry'
    obtain rfl := Option.some.inj (hget.symm.trans hnext)
    rw [hplacement, hsame] at hmoved
    exact right_eq_add.mp hmoved
  · intro hzero
    obtain ⟨hvalid, hfits, _⟩ := (apply_eq_ok hold hgeometry).mp h
    have hstay : new.placement.position = old.placement.position := by
      rw [hposition, ← hsettings, hzero]
      exact zero_add _
    have hfits' : setter.Fits new geometry := by
      unfold Setter.Fits at hfits ⊢
      rw [hsame, hstay, hsettings]
      exact hfits
    have hagain := (apply_eq_ok hnew hgeometry').mpr ⟨hvalid, hfits', rfl⟩
    obtain ⟨again, hget, hsettings', houtput', hshaped, hmoved⟩ :=
      apply_spec hnew hagain hgeometry'
    refine ⟨_, again, hagain, hget, ?_⟩
    refine (placement_eq_iff hshaped hshapedNew (hsettings'.trans hsame)).mpr ?_
    rw [hmoved, hsame, hzero]
    exact zero_add _

/-! A layer surface from its creation on. -/

def initialSettings : LayerSettings := ⟨none, 0, 0, {}⟩

theorem createLayerSurface_spec {surfaceId layer serial : Nat} {namespaceName : String}
    (h : m.createLayerSurface id surfaceId outputId layer namespaceName outputs =
      .ok (serial, m')) (hgeometry : geometry = outputs.placementRect outputId) :
    ∃ state, m'.surfaces.get? id = some state ∧ state.settings = initialSettings ∧
      state.outputId = outputId ∧ state.Shaped geometry := by
  obtain ⟨placement, hplacement, hvalue⟩ := bind_eq_ok.mp h
  obtain ⟨_, rfl⟩ := Prod.mk.inj (Except.ok.inj hvalue)
  obtain ⟨_, rfl⟩ := calculatePlacement_eq_ok.mp hplacement
  refine ⟨_, OrdMap.get?_insert_self _ _ _, rfl, rfl, ?_, rfl⟩
  rw [hgeometry]

/-- The placement of a layer surface is that of its settings as far as the positions asked
for add up alike: two sequences of requests after its creation that end with equal settings
end with equal placements if and only if their positions have the same sum, and repeating a
request changes nothing if and only if it asks for the origin. -/
theorem placement_settings {first second : LayerShellState} {surfaceId layer serial : Nat}
    {outputId : Option Nat} {namespaceName : String} {setters setters' : List Setter}
    (hcreated : m.createLayerSurface id surfaceId outputId layer namespaceName outputs =
      .ok (serial, m'))
    (hfirst : applySetters m' id outputs setters = .ok first)
    (hsecond : applySetters m' id outputs setters' = .ok second) :
    (∀ a b, first.surfaces.get? id = some a → second.surfaces.get? id = some b →
      a.settings = b.settings →
        (a.placement = b.placement ↔
          drift (outputs.placementRect outputId) initialSettings setters =
            drift (outputs.placementRect outputId) initialSettings setters')) ∧
    ∀ (setter : Setter) (third : LayerShellState) (a : LayerSurfaceState),
      setter.apply first id outputs = .ok third → third.surfaces.get? id = some a →
        ((∃ (fourth : LayerShellState) (b : LayerSurfaceState),
            setter.apply third id outputs = .ok fourth ∧ fourth.surfaces.get? id = some b ∧
              b.placement = a.placement) ↔
          a.settings.position (outputs.placementRect outputId) = 0) := by
  obtain ⟨state, hstate, hsettings, houtput, hshaped⟩ := createLayerSurface_spec hcreated rfl
  have hgeometry : outputs.placementRect outputId = outputs.placementRect state.outputId := by
    rw [houtput]
  obtain ⟨a, ha, haOutput, haShaped, haDrift⟩ := applySetters_spec hstate hshaped hfirst hgeometry
  obtain ⟨b, hb, _, hbShaped, hbDrift⟩ := applySetters_spec hstate hshaped hsecond hgeometry
  rw [hsettings] at haDrift hbDrift
  refine ⟨fun a' b' ha' hb' hequal => ?_, fun setter third c happly hc => ?_⟩
  · obtain rfl := Option.some.inj (ha'.symm.trans ha)
    obtain rfl := Option.some.inj (hb'.symm.trans hb)
    rw [placement_eq_iff haShaped hbShaped hequal, haDrift, hbDrift]
    exact add_left_inj _
  · refine repeat_iff ha happly hc ?_
    rw [haOutput]
    exact hgeometry

end Setters

/-- A margin of ten pixels, and the same settings once more: the surface moves twice. -/
def samplePanel : List Setter := [.margin { left := 10 }]

def samplePanelAgain : List Setter := [.margin { left := 10 }, .anchor 0]

def sampleShell : Fallible (Nat × LayerShellState) :=
  LayerShellState.createLayerSurface {} 12 10 none 1 "panel" {}

theorem samplePanel_settles :
    ∃ shell first second a b, sampleShell = .ok (1, shell) ∧
      applySetters shell 12 {} samplePanel = .ok first ∧
      applySetters shell 12 {} samplePanelAgain = .ok second ∧
      first.surfaces.get? 12 = some a ∧ second.surfaces.get? 12 = some b ∧
      a.settings = b.settings ∧ a.placement.x = 10 ∧ b.placement.x = 20 := by
  refine ⟨_, _, _, _, _, rfl, rfl, rfl, rfl, rfl, ?_⟩
  decide

/-- Equal settings do not give equal placements. -/
theorem samplePanel_moves :
    ¬ ∀ (m m' first second : LayerShellState) (id surfaceId layer serial : Nat)
      (outputId : Option Nat) (namespaceName : String) (outputs : OutputManager)
      (setters setters' : List Setter) (a b : LayerSurfaceState),
      m.createLayerSurface id surfaceId outputId layer namespaceName outputs = .ok (serial, m') →
      applySetters m' id outputs setters = .ok first →
      applySetters m' id outputs setters' = .ok second →
      first.surfaces.get? id = some a → second.surfaces.get? id = some b →
      a.settings = b.settings → a.placement = b.placement := by
  intro h
  obtain ⟨shell, first, second, a, b, hshell, hfirst, hsecond, ha, hb, hsame, hxa, hxb⟩ :=
    samplePanel_settles
  have heq := h {} shell first second 12 10 1 1 none "panel" {} samplePanel samplePanelAgain a b
    hshell hfirst hsecond ha hb hsame
  rw [heq, hxb] at hxa
  cases hxa

theorem samplePanel_drift :
    ∃ shell first second a b, sampleShell = .ok (1, shell) ∧
      applySetters shell 12 {} samplePanel = .ok first ∧
      applySetters shell 12 {} samplePanelAgain = .ok second ∧
      first.surfaces.get? 12 = some a ∧ second.surfaces.get? 12 = some b ∧
      ¬ (a.placement = b.placement) := by
  obtain ⟨shell, first, second, a, b, hshell, hfirst, hsecond, ha, hb, hsame, _, _⟩ :=
    samplePanel_settles
  refine ⟨shell, first, second, a, b, hshell, hfirst, hsecond, ha, hb, ?_⟩
  rw [(placement_settings hshell hfirst hsecond).1 a b ha hb hsame]
  decide

end TuffXwin.Headless
