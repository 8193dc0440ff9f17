import TuffXwin.Headless.ShellKept
import TuffXwin.Headless.LayerPlacement

/-! The requests of the layer shell keep every stable invariant, without a panic where the
sums of a placement are signed words. -/

namespace TuffXwin.Headless
open Lib
open WaylandWire (WireError WireArg WaylandMessage readU32 displayId encodeEvent)

variable {check : Prop} {f : LayerSurfaceState → LayerSurfaceState} {layer surfaceId : Nat}
  {outputId : Option Nat} {namespaceName : String}

namespace LayerShellState

variable {m m' : LayerShellState} {id : Nat} {f : LayerSurfaceState → LayerSurfaceState}
  {outputs : OutputManager}

/-- The layer surfaces are those of before, bound to the surfaces they were bound to. -/
structure SameSurfaces (m m' : LayerShellState) : Prop where
  surfaces : m'.surfaces.mapVals (fun _ state => state.wlSurfaceId) =
    m.surfaces.mapVals fun _ state => state.wlSurfaceId
  bindings : m'.surfaceBindings = m.surfaceBindings

theorem SameSurfaces.contains (h : SameSurfaces m m') (other : Nat) :
    m'.surfaces.contains other = m.surfaces.contains other := by
  have hsame := congrArg (OrdMap.contains · other) h.surfaces
  simpa only [OrdMap.contains_mapVals] using hsame

theorem modifySurface_same (h : m.modifySurface id f = .ok m')
    (hf : ∀ state, (f state).wlSurfaceId = state.wlSurfaceId) : SameSurfaces m m' := by
  unfold modifySurface at h
  split_ifs at h
  cases h
  exact ⟨OrdMap.mapVals_modify _ _ fun _ state => hf state, rfl⟩

theorem replace_same (h : m.replace id f outputs = .ok m')
    (hf : ∀ state, (f state).wlSurfaceId = state.wlSurfaceId) : SameSurfaces m m' := by
  obtain ⟨old, _, h⟩ := bind_eq_ok.mp h
  obtain ⟨placement, _, h⟩ := bind_eq_ok.mp h
  exact modifySurface_same h fun state => hf state

/-- The placement that follows from a change of the surface. -/
def ChangeFits (m : LayerShellState) (id : Nat) (f : LayerSurfaceState → LayerSurfaceState)
    (outputs : OutputManager) : Prop :=
  ∀ old, m.surfaces.get? id = some old →
    PlacementFits (outputs.placementRect (f old).outputId) (f old).margins (f old).size
      ((f old).placement.x, (f old).placement.y)

theorem replace_calm (h : m.ChangeFits id f outputs) : Calm (m.replace id f outputs) := by
  refine (calm_orInvalid _ _).bind fun old hold => ?_
  refine (calculatePlacement_calm (h old (orInvalid_eq_ok.mp hold))).bind fun _ _ => ?_
  exact layerModifySurface_calm _ _ _

end LayerShellState

section LayerShell

variable {terms : Terms} {J : Frame → Prop} {core : HeadlessWireCore}
  {r : Request} {spec : MessageSpec} {version : Nat}

theorem onLayerShell_kept (h : Holds J none core)
    {op : LayerShellState → OutputManager → Fallible LayerShellState}
    (hcalm : terms.safe → Calm (op core.layerShell core.output))
    (hsame : ∀ shell, op core.layerShell core.output = .ok shell →
      core.layerShell.SameSurfaces shell) :
    Kept terms J (onLayerShell op) core := by
  refine kept_get (kept_lift hcalm fun shell hshell => kept_set ?_)
  have hkept := hsame shell hshell
  refine h.layerShell (fun id hid => .inl ?_) ?_
  · rw [← hkept.contains id]
    exact hid
  · unfold HeadlessWireCore.roleTables
    rw [hkept.surfaces, hkept.bindings]

/-- The change of a layer surface after which its placement is calculated. -/
def placementChange (r : Request) : Option (LayerSurfaceState → LayerSurfaceState) :=
  let word := fun offset => readU32 (r.payload.drop offset)
  let int := fun offset => readI32 (r.payload.drop offset)
  match r.opcode with
  | 0 =>
    if word 0 = 0 ∧ word 4 = 0 then none
    else some fun state => { state with size := some (word 0, word 4) }
  | 1 => if word 0 > 15 then none else some fun state => { state with anchor := word 0 }
  | 2 => if int 0 < -1 then none else some fun state => { state with exclusiveZone := int 0 }
  | 3 => some fun state => { state with margins := ⟨int 0, int 4, int 8, int 12⟩ }
  | _ => none

theorem Calm.ofCheck {α : Type} [Decidable check] {fault : Fault} {x : Fallible α}
    (hfault : fault ≠ .panicked) (h : ¬ check → Calm x) :
    Calm (if check then .error fault else x) := by
  by_cases hcheck : check
  · rw [if_pos hcheck]
    exact fun heq => hfault (Except.error.inj heq)
  · rw [if_neg hcheck]
    exact h hcheck

theorem setPlacement_kept (h : Holds J none core) {id : Nat} [Decidable check] {reason : String}
    (hf : ∀ state, (f state).wlSurfaceId = state.wlSurfaceId)
    (hfits : terms.safe → ¬ check → core.layerShell.ChangeFits id f core.output) :
    Kept terms J (onLayerShell fun shell outputs =>
      if check then .error (protocolError reason) else shell.replace id f outputs) core := by
  refine onLayerShell_kept h (fun hsafe => ?_) fun shell hshell => ?_
  · refine Calm.ofCheck (by simp [protocolError]) fun hcheck => ?_
    exact LayerShellState.replace_calm (hfits hsafe hcheck)
  · split_ifs at hshell
    exact LayerShellState.replace_same hshell hf

theorem modifyLayerSurface_kept (h : Holds J none core) {id : Nat}
    (hf : ∀ state, (f state).wlSurfaceId = state.wlSurfaceId) :
    Kept terms J (onLayerShell fun shell _ => shell.modifySurface id f) core :=
  onLayerShell_kept h (fun _ => layerModifySurface_calm _ _ _)
    fun _ hshell => LayerShellState.modifySurface_same hshell hf

theorem layerAckConfigure_same {m m' : LayerShellState} {id serial : Nat}
    (h : m.ackConfigure id serial = .ok m') : m.SameSurfaces m' := by
  obtain ⟨state, _, h⟩ := bind_eq_ok.mp h
  split_ifs at h
  exact LayerShellState.modifySurface_same h fun _ => rfl

/-- The layer surface is destroyed: it is bound no longer, and its surface has no role. -/
def HeadlessWireCore.withoutLayerSurface (core : HeadlessWireCore) (id surfaceId : Nat) :
    HeadlessWireCore :=
  { core with
    layerShell := { core.layerShell with
      surfaces := core.layerShell.surfaces.erase id
      surfaceBindings := core.layerShell.surfaceBindings.erase surfaceId }
    surfaces := core.surfaces.releaseRole surfaceId }

theorem Holds.withoutLayerSurface (hJ : Stable terms J) (h : Holds J none core) {id : Nat}
    {state : LayerSurfaceState} (hstate : core.layerShell.surfaces.get? id = some state) :
    Holds J none (core.withoutLayerSurface id state.wlSurfaceId) := by
  have hentry : core.frame.roles.layerSurfaces.get? id = some state.wlSurfaceId := by
    refine (OrdMap.get?_mapVals _ _ _).trans ?_
    rw [hstate]
    rfl
  refine h.of_roles _ hJ (.layerGone hentry) ?_ rfl rfl fun interface other hkeeps => .inl ?_
  · unfold HeadlessWireCore.frame RoleTables.layerReleased
    congr 1
    unfold HeadlessWireCore.roleTables
    congr 1
    exact OrdMap.mapVals_erase _ _ _
  · cases interface
    case zwlrLayerSurfaceV1 => exact (OrdMap.contains_erase.mp hkeeps).2
    all_goals exact hkeeps

/-- Also taken by the request that destroys the shell, whose object is no layer surface. -/
theorem destroyLayerSurface_kept (hJ : Stable terms J) (h : Holds J none core)
    {id : Nat} {interface : Interface} (hobject : core.object? id = some ⟨interface, version⟩)
    (hplain : interface.plain = true)
    (hfree : interface = .zwlrLayerSurfaceV1 ∨ ¬ core.anchors.keeps none interface id) :
    Kept terms J (destroyLayerSurface id) core := by
  refine kept_get (kept_lift (fun _ => layerDestroy_calm _ _) fun destroyed hdestroyed => ?_)
  obtain ⟨state, hstate, hvalue⟩ := bind_eq_ok.mp hdestroyed
  obtain rfl := Except.ok.inj hvalue
  refine kept_set_bind (h.withoutLayerSurface hJ (orInvalid_eq_ok.mp hstate)) fun h₁ =>
    kept_destroy hJ h₁ hobject hplain fun hkeeps => ?_
  cases hfree with
  | inl hlayer =>
    rw [hlayer] at hkeeps
    exact not_contains_erase hkeeps
  | inr hfree =>
    refine hfree ?_
    cases interface
    case zwlrLayerSurfaceV1 => exact (OrdMap.contains_erase.mp hkeeps).2
    all_goals exact hkeeps

theorem layerSurfaceRequest_kept (hJ : Stable terms J)
    (h : Holds J none core) (hobject : core.object? r.id = some ⟨.zwlrLayerSurfaceV1, version⟩)
    (hfits : terms.safe → ∀ f, placementChange r = some f →
      core.layerShell.ChangeFits r.id f core.output) :
    Kept terms J (layerSurfaceRequest r) core := by
  unfold layerSurfaceRequest
  split
  · rename_i hopcode
    refine kept_requireLength fun hlength => kept_word (by omega) (kept_word (by omega) ?_)
    refine onLayerShell_kept h (fun hsafe => ?_) fun shell hshell => ?_
    · refine (calm_orInvalid _ _).bind fun _ _ => Calm.ofCheck (by simp [protocolError]) ?_
      intro hcheck
      refine LayerShellState.replace_calm (hfits hsafe _ ?_)
      simp only [placementChange, hopcode, if_neg hcheck]
    · obtain ⟨_, _, hshell⟩ := bind_eq_ok.mp hshell
      split_ifs at hshell
      exact LayerShellState.replace_same hshell fun _ => rfl
  · rename_i hopcode
    refine kept_requireLength fun hlength => kept_word (by omega) ?_
    refine setPlacement_kept h (fun _ => rfl) fun hsafe hcheck => hfits hsafe _ ?_
    simp only [placementChange, hopcode, if_neg hcheck]
  · rename_i hopcode
    refine kept_requireLength fun hlength => kept_int (by omega) ?_
    refine setPlacement_kept h (fun _ => rfl) fun hsafe hcheck => hfits hsafe _ ?_
    simp only [placementChange, hopcode, if_neg hcheck]
  · rename_i hopcode
    refine kept_requireLength fun hlength => kept_int (by omega) (kept_int (by omega) ?_)
    refine kept_int (by omega) (kept_int (by omega) ?_)
    refine onLayerShell_kept h (fun hsafe => ?_) fun _ hshell =>
      LayerShellState.replace_same hshell fun _ => rfl
    refine LayerShellState.replace_calm (hfits hsafe _ ?_)
    simp only [placementChange, hopcode]
  · refine kept_requireLength fun hlength => kept_word (by omega) ?_
    exact modifyLayerSurface_kept h fun _ => rfl
  · refine kept_requireLength fun hlength => kept_word (by omega) (kept_word (by omega) ?_)
    refine kept_register_bind hJ h (by decide) fun core' h' _ _ _ _ => kept_getObject fun _ _ => ?_
    exact modifyLayerSurface_kept h' fun _ => rfl
  · refine kept_requireLength fun hlength => kept_word (by omega) ?_
    exact onLayerShell_kept h (fun _ => layerAckConfigure_calm _ _ _)
      fun _ hshell => layerAckConfigure_same hshell
  · refine kept_requireLength fun hlength => kept_word (by omega) ?_
    refine onLayerShell_kept h (fun _ => setLayer_calm _ _ _) fun shell hshell => ?_
    unfold LayerShellState.setLayer at hshell
    split_ifs at hshell
    exact LayerShellState.modifySurface_same hshell fun _ => rfl
  · exact destroyLayerSurface_kept hJ h hobject (by decide) (.inl rfl)
  · exact kept_unhandled

/-- The first placement has no margins, but the output may be anywhere. -/
def NewPlacementFits (core : HeadlessWireCore) (r : Request) : Prop :=
  PlacementFits (core.output.placementRect (optionalId (readU32 (r.payload.drop 8)))) {} none (0, 0)

theorem Holds.layerClaimed (hJ : Stable terms J) (h : Holds J none core) {id : Nat}
    {created : Nat × LayerShellState}
    (hcreated : core.layerShell.createLayerSurface id surfaceId outputId layer namespaceName
      core.output = .ok created) (hlive : LiveAs core.registry.objects .zwlrLayerSurfaceV1 id)
    (hfresh : core.layerShell.surfaces.get? id = none)
    (hfree : core.surfaces.roles.get? surfaceId = none) (hmay : terms.mayClaim core.frame surfaceId)
    (hnew : core.frame.Newest id) :
    Holds J none { core.claimed surfaceId .layerSurface with layerShell := created.2 } := by
  obtain ⟨placement, _, hvalue⟩ := bind_eq_ok.mp hcreated
  obtain rfl := Except.ok.inj hvalue
  have hnone : core.frame.roles.layerSurfaces.get? id = none := by
    refine (OrdMap.get?_mapVals _ _ _).trans ?_
    rw [hfresh]
    rfl
  refine h.of_roles _ hJ (.layer hmay hfree hnone hnew) ?_ rfl rfl fun interface other hkeeps => ?_
  · unfold HeadlessWireCore.frame RoleTables.layerClaimed
    congr 1
    unfold HeadlessWireCore.roleTables
    congr 1
    exact OrdMap.mapVals_insert _ _ _ _
  · cases interface
    case zwlrLayerSurfaceV1 => exact insert_kept hlive other hkeeps
    all_goals exact .inl hkeeps

theorem createLayerSurface_kept (hJ : Stable terms J) (h : Holds J none core) {id : Nat}
    (hlive : LiveAs core.registry.objects .zwlrLayerSurfaceV1 id)
    (hfresh : core.layerShell.surfaces.get? id = none) (hmay : terms.mayClaim core.frame surfaceId)
    (hnew : core.frame.Newest id)
    (hfits : terms.safe → PlacementFits (core.output.placementRect outputId) {} none (0, 0)) :
    Kept terms J (createLayerSurface id surfaceId outputId layer namespaceName) core := by
  refine kept_get (kept_require fun _ => claimRole_kept fun hfree => ends_bind.mpr
    (ends_get.mpr (ends_bind.mpr ((ends_lift (h.half hJ)).mpr ⟨fun created hcreated => ?_,
      fun hsafe => ?_⟩))))
  · have h₁ := h.layerClaimed hJ hcreated hlive hfresh hfree hmay hnew
    refine ends_bind.mpr (ends_set.mpr (kept_send hJ h₁ ?_ h₁))
    exact fine_declared hlive rfl rfl (by simp [Fits])
  · exact (calculatePlacement_calm (hfits hsafe)).bind fun _ _ => calm_ok _

theorem layerShellRequest_kept (hJ : Stable terms J) (h : Holds J none core)
    (hobject : core.object? r.id = some ⟨.zwlrLayerShellV1, version⟩)
    (hfits : terms.safe → r.opcode = 0 → NewPlacementFits core r)
    (hmay : r.opcode = 0 → MayClaim terms core (readU32 (r.payload.drop 4))) :
    Kept terms J (layerShellRequest r) core := by
  unfold layerShellRequest
  split
  · rename_i hopcode
    refine kept_requireLength fun hlength => kept_word (by omega) (kept_word (by omega) ?_)
    refine kept_word (by omega) (kept_word (by omega) (kept_text fun text _ => ?_))
    refine kept_register_bind hJ h (by decide) fun core' h' hnew _ heq hnone => ?_
    have hfresh : core'.layerShell.surfaces.get? (readU32 (r.payload.drop 0)) = none := by
      rw [heq]
      exact get?_of_not_contains (h.unkept hnone .zwlrLayerSurfaceV1)
    refine kept_getObject fun _ _ => createLayerSurface_kept hJ h' ⟨_, hnew, rfl⟩ hfresh
      (hmay hopcode core'.frame ?_ ?_) ?_ fun hsafe => ?_
    · rw [heq]
      rfl
    · rw [heq]
      rfl
    · rw [heq]
      exact ⟨_, _, rfl⟩
    · rw [heq]
      exact hfits hsafe hopcode
  · exact destroyLayerSurface_kept hJ h hobject (by decide) (.inr id)
  · exact kept_unhandled

end LayerShell

end TuffXwin.Headless
