import TuffXwin.Headless.Kept

/-! Changes of one table of the core: what it keeps afterwards was kept before or is live. -/

namespace TuffXwin.Headless
open Lib
open WaylandWire (WireError WireArg WaylandMessage readU32 displayId encodeEvent)

variable {ν : Type} {surfaces : OrdMap Nat SurfaceInstance}
variable {f : XdgSurfaceState → XdgSurfaceState} {dataDevice : DataDeviceManager}
variable {table : OrdMap Nat ν} {terms : Terms} {interface : Interface}

section Tables

variable {J : Frame → Prop} {dying : Option Nat} {core : HeadlessWireCore}

theorem Holds.textInput (h : Holds J dying core) {textInput : TextInputManager}
    (hinputs : ∀ id, textInput.inputs.contains id = true →
      core.textInput.inputs.contains id = true ∨
        LiveAs core.registry.objects .zwpTextInputV3 id) :
    Holds J dying (core.withTextInput textInput) := by
  refine h.of_keeps rfl rfl rfl fun interface id hkeeps => ?_
  cases interface
  case zwpTextInputV3 => exact hinputs id hkeeps
  all_goals exact .inl hkeeps

theorem Holds.presentation (h : Holds J dying core) {presentation : PresentationManager}
    (hfeedbacks : ∀ id, presentation.feedbacks.contains id = true →
      core.presentation.feedbacks.contains id = true ∨
        LiveAs core.registry.objects .wpPresentationFeedback id) :
    Holds J dying { core with presentation := presentation } := by
  refine h.of_keeps rfl rfl rfl fun interface id hkeeps => ?_
  cases interface
  case wpPresentationFeedback => exact hfeedbacks id hkeeps
  all_goals exact .inl hkeeps

theorem Holds.layerShell (h : Holds J dying core) {layerShell : LayerShellState}
    (hsurfaces : ∀ id, layerShell.surfaces.contains id = true →
      core.layerShell.surfaces.contains id = true ∨
        LiveAs core.registry.objects .zwlrLayerSurfaceV1 id)
    (hroles : ({ core with layerShell := layerShell } : HeadlessWireCore).roleTables =
      core.roleTables) : Holds J dying { core with layerShell := layerShell } := by
  have hframe : ({ core with layerShell := layerShell } : HeadlessWireCore).frame =
      core.frame := by
    unfold HeadlessWireCore.frame
    rw [hroles]
    rfl
  refine h.of_keeps hframe rfl rfl fun interface id hkeeps => ?_
  cases interface
  case zwlrLayerSurfaceV1 => exact hsurfaces id hkeeps
  all_goals exact .inl hkeeps

/-- A change of extended surfaces that leaves them where they are. -/
theorem Holds.changeXdgSurface (hJ : Stable terms J) (h : Holds J dying core) {id : Nat}
    (hf : ∀ state, (f state).wlSurfaceId = state.wlSurfaceId) (hserials : terms.mayConfigure ∨
      ∀ state, (f state).configureSerial = state.configureSerial) :
    Holds J dying (core.withXdgSurface id f) := by
  have hroles : (core.withXdgSurface id f).roleTables = core.roleTables := by
    have hsame := core.xdgShell.surfaces.mapVals_modify id (g := f)
      (f := fun _ state => state.wlSurfaceId) fun _ state => hf state
    unfold HeadlessWireCore.roleTables
    congr 1
  have hframe : (core.withXdgSurface id f).frame =
      { core.frame with serials := (core.withXdgSurface id f).xdgShell.serials } := by
    unfold HeadlessWireCore.frame
    rw [hroles]
    rfl
  have hchange : terms.mayConfigure ∨ SerialsFrom core.xdgShell.serials
      (core.withXdgSurface id f).xdgShell.serials := by
    refine hserials.imp_right fun hsame => ?_
    have hmapped := core.xdgShell.surfaces.mapVals_modify id (g := f)
      (f := fun _ state => state.configureSerial) fun _ state => hsame state
    have heq : (core.withXdgSurface id f).xdgShell.serials = core.xdgShell.serials := by
      unfold XdgShellManager.serials
      congr 1
    rw [heq]
    exact .refl _
  refine h.of_serials _ hJ hchange hframe rfl rfl fun interface other hkeeps => .inl ?_
  cases interface
  case xdgSurface => exact OrdMap.contains_modify.symm.trans hkeeps
  all_goals exact hkeeps

/-- And one that leaves their serials, too. -/
theorem Holds.modifyXdgSurface (hJ : Stable terms J) (h : Holds J dying core) {id : Nat}
    (hf : ∀ state, (f state).wlSurfaceId = state.wlSurfaceId)
    (hserials : ∀ state, (f state).configureSerial = state.configureSerial) :
    Holds J dying (core.withXdgSurface id f) :=
  h.changeXdgSurface hJ hf (.inr hserials)

section

variable (h : Holds J dying core)
include h

/-- A change of subsurfaces that leaves them where they are. -/
theorem Holds.modifySubsurface {id : Nat} {f : SubsurfaceState → SubsurfaceState}
    (hf : ∀ state, (f state).surfaceId = state.surfaceId) :
    Holds J dying { core with
      subsurface := ⟨core.subsurface.subsurfaces.modify id f⟩ } := by
  have hsame := core.subsurface.subsurfaces.mapVals_modify id (g := f)
    (f := fun _ state => state.surfaceId) fun _ state => hf state
  have hroles : ({ core with
      subsurface := ⟨core.subsurface.subsurfaces.modify id f⟩ } : HeadlessWireCore).roleTables =
        core.roleTables := by
    unfold HeadlessWireCore.roleTables
    congr 1
  have hframe : ({ core with
      subsurface := ⟨core.subsurface.subsurfaces.modify id f⟩ } : HeadlessWireCore).frame =
        core.frame := by
    unfold HeadlessWireCore.frame
    rw [hroles]
    rfl
  refine h.of_keeps hframe rfl rfl fun interface other hkeeps => .inl ?_
  cases interface
  case wlSubsurface => exact OrdMap.contains_modify.symm.trans hkeeps
  all_goals exact hkeeps

theorem Holds.constraints {constraints : PointerConstraintsState}
    (hlocked : ∀ id, constraints.locked.contains id = true →
      core.pointerConstraints.locked.contains id = true ∨
        LiveAs core.registry.objects .zwpLockedPointerV1 id)
    (hconfined : ∀ id, constraints.confined.contains id = true →
      core.pointerConstraints.confined.contains id = true ∨
        LiveAs core.registry.objects .zwpConfinedPointerV1 id) :
    Holds J dying { core with pointerConstraints := constraints } := by
  refine h.of_keeps rfl rfl rfl fun interface id hkeeps => ?_
  cases interface
  case zwpLockedPointerV1 => exact hlocked id hkeeps
  case zwpConfinedPointerV1 => exact hconfined id hkeeps
  all_goals exact .inl hkeeps

theorem Holds.idleInhibit {idle : IdleInhibitState}
    (hinhibitors : ∀ id, idle.inhibitors.contains id = true →
      core.idleInhibit.inhibitors.contains id = true ∨
        LiveAs core.registry.objects .zwpIdleInhibitorV1 id) :
    Holds J dying { core with idleInhibit := idle } := by
  refine h.of_keeps rfl rfl rfl fun interface id hkeeps => ?_
  cases interface
  case zwpIdleInhibitorV1 => exact hinhibitors id hkeeps
  all_goals exact .inl hkeeps

theorem Holds.registries {id : Nat} (hlive : LiveAs core.registry.objects .wlRegistry id) :
    Holds J dying { core with registryObjects := core.registryObjects.insert id () } := by
  refine h.of_keeps rfl rfl rfl fun interface other hkeeps => ?_
  cases interface
  case wlRegistry =>
    cases OrdMap.contains_insert.mp hkeeps with
    | inl heq => exact .inr (heq ▸ hlive)
    | inr hold => exact .inl hold
  all_goals exact .inl hkeeps

/-- A new object does not get the id of the display. -/
theorem Holds.fresh_ne {id : Nat} (hnone : core.object? id = none) : id ≠ displayId := by
  intro heq
  rw [heq] at hnone
  exact absurd (h.anchored.root.symm.trans hnone) (by simp)

/-- Devices, sources and offers stay, as far as ids are concerned. -/
theorem Holds.exchange (hdevices : ∀ id, dataDevice.devices.contains id = true →
      core.dataDevice.devices.contains id = true ∨ id ≠ displayId)
    (hsources : ∀ id, dataDevice.sources.contains id = true →
      core.dataDevice.sources.contains id = true ∨ id ≠ displayId)
    (hoffers : ∀ offerId offer id, dataDevice.offers.get? offerId = some offer →
      offer.sourceId = some id → core.anchors.Peer id) :
    Holds J dying (core.withDataDevice dataDevice) := by
  refine h.dataDevice fun id hpeer => ?_
  rcases hpeer with hdevice | hsource | ⟨offerId, offer, hoffer, hid⟩
  · exact (hdevices id hdevice).imp_left .inl
  · exact (hsources id hsource).imp_left fun hold => .inr (.inl hold)
  · exact .inl (hoffers offerId offer id hoffer hid)

end

theorem offered_peer {offerId id : Nat} {offer : DataOffer}
    (hoffer : core.dataDevice.offers.get? offerId = some offer)
    (hid : offer.sourceId = some id) : core.anchors.Peer id :=
  .inr (.inr ⟨offerId, offer, hoffer, hid⟩)

theorem Holds.exchange_same (h : Holds J dying core)
    (hdevices : dataDevice.devices = core.dataDevice.devices)
    (hsources : dataDevice.sources = core.dataDevice.sources)
    (hoffers : dataDevice.offers = core.dataDevice.offers) :
    Holds J dying (core.withDataDevice dataDevice) := by
  refine h.exchange (fun id => ?_) (fun id => ?_) fun offerId offer id hoffer => ?_
  · rw [hdevices]
    exact .inl
  · rw [hsources]
    exact .inl
  · rw [hoffers] at hoffer
    exact offered_peer hoffer

theorem Holds.modifySource (h : Holds J dying core) {id : Nat} {f : DataSource → DataSource} :
    Holds J dying (core.withDataDevice (core.dataDevice.modifySource id f)) := by
  refine h.exchange (fun _ => .inl) (fun other hcontains => .inl ?_) fun _ _ _ => offered_peer
  rw [DataDeviceManager.modifySource, OrdMap.contains_modify] at hcontains
  exact hcontains

/-- What is inserted is live. -/
theorem insert_kept {id : Nat} {value : ν} (hlive : LiveAs core.registry.objects interface id)
    (other : Nat) (hcontains : (table.insert id value).contains other = true) :
    table.contains other = true ∨ LiveAs core.registry.objects interface other := by
  cases OrdMap.contains_insert.mp hcontains with
  | inl heq => exact .inr (heq ▸ hlive)
  | inr hold => exact .inl hold

theorem erase_kept {id : Nat} (other : Nat) (hcontains : (table.erase id).contains other = true) :
    table.contains other = true ∨ LiveAs core.registry.objects interface other :=
  .inl (OrdMap.contains_erase.mp hcontains).2

theorem filter_kept {p : Nat → ν → Bool} (other : Nat)
    (hcontains : (table.filter p).contains other = true) :
    table.contains other = true ∨ LiveAs core.registry.objects interface other :=
  .inl (OrdMap.contains_of_filter hcontains)

theorem not_contains_erase {id : Nat} :
    ¬ (table.erase id).contains id = true := fun h => (OrdMap.contains_erase.mp h).1 rfl

theorem get?_of_not_contains {id : Nat} (h : ¬ table.contains id = true) :
    table.get? id = none := by
  unfold OrdMap.contains at h
  simpa using h

/-- Surfaces stay, and their callbacks are among those they had. -/
def Retains (surfaces surfaces' : OrdMap Nat SurfaceInstance) : Prop :=
  ∀ id surface', surfaces'.get? id = some surface' →
    ∃ surface, surfaces.get? id = some surface ∧ surface'.callbacks.Sublist surface.callbacks

theorem Retains.modify {id : Nat} {f : SurfaceInstance → SurfaceInstance}
    (hf : ∀ surface, (f surface).callbacks.Sublist surface.callbacks) :
    Retains surfaces (surfaces.modify id f) := by
  intro other surface' hget
  rw [OrdMap.get?_modify] at hget
  split_ifs at hget with heq
  · obtain ⟨surface, hsurface, rfl⟩ := Option.map_eq_some_iff.mp hget
    exact ⟨surface, hsurface, hf surface⟩
  · exact ⟨surface', hget, List.Sublist.refl _⟩

theorem Retains.erase {id : Nat} : Retains surfaces (surfaces.erase id) := by
  intro other surface' hget
  rw [OrdMap.get?_erase] at hget
  split_ifs at hget with heq
  exact ⟨surface', hget, List.Sublist.refl _⟩

theorem SoleCallbacks.retains {surfaces' : OrdMap Nat SurfaceInstance} (h : SoleCallbacks surfaces)
    (hretains : Retains surfaces surfaces') : SoleCallbacks surfaces' := by
  refine ⟨fun a b surfaceA surfaceB id ha hb hidA hidB => ?_, fun id surface hsurface => ?_⟩
  · obtain ⟨oldA, holdA, hsubA⟩ := hretains a surfaceA ha
    obtain ⟨oldB, holdB, hsubB⟩ := hretains b surfaceB hb
    exact h.unique a b oldA oldB id holdA holdB (hsubA.subset hidA) (hsubB.subset hidB)
  · obtain ⟨old, hold, hsub⟩ := hretains id surface hsurface
    exact hsub.nodup (h.nodup id old hold)

theorem Anchored.retains {a : Anchors} (h : Anchored dying a)
    (hretains : Retains a.surfaces surfaces) : Anchored dying { a with surfaces := surfaces } := by
  refine ⟨fun interface id hkeeps => ?_, h.sole.retains hretains, h.globals, h.peers, h.root,
    h.display⟩
  refine h.live interface id ?_
  cases interface
  case wlSurface =>
    obtain ⟨surface', hsurface'⟩ := OrdMap.contains_iff.mp hkeeps
    obtain ⟨surface, hsurface, _⟩ := hretains id surface' hsurface'
    exact OrdMap.contains_iff.mpr ⟨surface, hsurface⟩
  case wlCallback =>
    obtain ⟨surfaceId, surface', hdying, hsurface', hid⟩ := hkeeps
    obtain ⟨surface, hsurface, hsub⟩ := hretains surfaceId surface' hsurface'
    exact ⟨surfaceId, surface, hdying, hsurface, hsub.subset hid⟩
  all_goals exact hkeeps

/-- A change of what is pending for or current of surfaces. -/
theorem Holds.withSurfaces (hJ : Stable terms J) (h : Holds J dying core)
    {surfaces : SurfaceManager} (hretains : Retains core.surfaces.surfaces surfaces.surfaces)
    (hsame : ∀ id, surfaces.surfaces.contains id = core.surfaces.surfaces.contains id)
    (hroles : surfaces.roles = core.surfaces.roles) :
    Holds J dying (core.withSurfaces surfaces) := by
  refine ⟨h.anchored.retains hretains, ?_⟩
  have hkept := hJ.surfaces core.frame _ h.kept hsame
  have hframe : (core.withSurfaces surfaces).frame =
      { core.frame with surfaces := surfaces.surfaces } := by
    unfold HeadlessWireCore.frame HeadlessWireCore.roleTables HeadlessWireCore.withSurfaces
    rw [hroles]
    rfl
  rw [hframe]
  exact hkept

/-- The text of an event is short enough where the declarations are asked for. -/
def TextFits (level : Level) (payload : List UInt8) (offset : Nat) : Prop :=
  level = .declared → ∀ text, decodeString payload offset = .ok text → Fits (.string text.1)

end Tables

end TuffXwin.Headless
