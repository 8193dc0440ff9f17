import TuffXwin.Headless.Tables

/-! The requests of the desktop shell, of data exchange, of subsurfaces and of the layer
shell keep every stable invariant. An event may be for a source or a device that is gone;
how much is asked of it decides what its id may stand for. -/

namespace TuffXwin.Headless
open Lib
open WaylandWire (WireError WireArg WaylandMessage readU32 displayId encodeEvent)

variable {deviceId offerId sourceId surfaceId : Nat} {α : Type} {role : SurfaceRoleKind}
  {args : List WireArg} {interface : Interface}
variable {rest : Unit → Handler α} {m m' : XdgShellManager} {opcode parentId : Nat}
  {environment : Environment} {payload : List UInt8}

section Shell

variable {terms : Terms} {J : Frame → Prop} {core : HeadlessWireCore}
  {r : Request} {spec : MessageSpec} {version : Nat}

/-! The desktop shell. -/

theorem claimRole_eq_ok {m m' : SurfaceManager} {id : Nat} (h : m.claimRole id role = .ok m') :
    m.roles.get? id = none ∧ m' = { m with roles := m.roles.insert id role } := by
  unfold SurfaceManager.claimRole at h
  split at h
  · cases h
  · rename_i hnone
    exact ⟨hnone, (Except.ok.inj h).symm⟩

/-- Once a role is claimed its object follows, unless the request fails. -/
def HeadlessWireCore.claimed (core : HeadlessWireCore) (id : Nat) (role : SurfaceRoleKind) :
    HeadlessWireCore :=
  core.withSurfaces { core.surfaces with roles := core.surfaces.roles.insert id role }

theorem Holds.half (hJ : Stable terms J) (h : Holds J none core) {id : Nat} :
    Left terms J (core.claimed id role) :=
  fun hlasting => h.of_roles _ hJ (.half hlasting) rfl rfl rfl fun _ _ hkeeps => .inl hkeeps

theorem claimRole_kept {id : Nat}
    (hrest : core.surfaces.roles.get? id = none → Keeps terms J (rest ()) (core.claimed id role)) :
    Kept terms J (onSurfaces (fun surfaces => surfaces.claimRole id role) >>= rest) core := by
  refine fun hcore => ends_bind.mpr ((ends_onPart hcore.left).mpr ⟨fun surfaces hclaim => ?_,
    fun _ => claimRole_calm _ _ _⟩)
  obtain ⟨hfree, rfl⟩ := claimRole_eq_ok hclaim
  exact hrest hfree

/-- No table keeps an id that is no object. -/
theorem Holds.unkept {dying : Option Nat} (h : Holds J dying core) {id : Nat}
    (hnone : core.object? id = none) (interface : Interface) :
    ¬ core.anchors.keeps dying interface id := by
  intro hkeeps
  obtain ⟨object, hobject, _⟩ := h.live interface hkeeps
  rw [HeadlessWireCore.object?, hobject] at hnone
  cases hnone

/-- What may be asked of a surface that claims a role. -/
def MayClaim (terms : Terms) (core : HeadlessWireCore) (surfaceId : Nat) : Prop :=
  ∀ f : Frame, f.surfaces = core.surfaces.surfaces → f.roles = core.roleTables →
    terms.mayClaim f surfaceId

/-- What may be asked of a surface that becomes a subsurface. -/
def MayNest (terms : Terms) (core : HeadlessWireCore) (surfaceId : Nat) : Prop :=
  ∀ f : Frame, f.surfaces = core.surfaces.surfaces → f.roles = core.roleTables →
    terms.mayNest f surfaceId

theorem Holds.xdgClaimed (hJ : Stable terms J) (h : Holds J none core) {id : Nat}
    (hlive : LiveAs core.registry.objects .xdgSurface id)
    (hfresh : core.xdgShell.surfaces.get? id = none)
    (hfree : core.surfaces.roles.get? surfaceId = none) (hmay : terms.mayClaim core.frame surfaceId)
    (hnew : core.frame.Newest id) :
    Holds J none ((core.claimed surfaceId .xdgSurface).withXdgShell
      (core.xdgShell.createXdgSurface id surfaceId)) := by
  have hnone : core.frame.roles.xdgSurfaces.get? id = none := by
    refine (OrdMap.get?_mapVals _ _ _).trans ?_
    rw [hfresh]
    rfl
  refine h.of_shell _ _ hJ (.xdg hmay hfree hnone hnew) (.created _ id) ?_ rfl rfl
    fun interface other hkeeps => ?_
  · unfold HeadlessWireCore.frame RoleTables.xdgClaimed
    congr 1
    · unfold HeadlessWireCore.roleTables
      congr 1
      exact OrdMap.mapVals_insert _ _ _ _
    · unfold XdgShellManager.serials
      congr 1
      exact OrdMap.mapVals_insert _ _ _ _
  · cases interface
    case xdgSurface => exact insert_kept hlive other hkeeps
    all_goals exact .inl hkeeps

theorem Holds.withoutXdgSurface (hJ : Stable terms J) (h : Holds J none core) {id : Nat} :
    Holds J none (core.withoutXdgSurface id) := by
  unfold HeadlessWireCore.withoutXdgSurface
  cases hstate : core.xdgShell.surfaces.get? id with
  | none => exact h
  | some state =>
    refine h.of_shell (core.roleTables.xdgReleased id) _ hJ .xdgGone (.erased _ id) ?_ rfl rfl
      fun interface other hkeeps => .inl ?_
    · have hget : core.roleTables.xdgSurfaces.get? id = some state.wlSurfaceId := by
        refine (OrdMap.get?_mapVals _ _ _).trans ?_
        rw [hstate]
        rfl
      unfold HeadlessWireCore.frame RoleTables.xdgReleased
      rw [hget]
      congr 1
      · unfold HeadlessWireCore.roleTables
        congr 1
        exact OrdMap.mapVals_erase _ _ _
      · unfold XdgShellManager.serials
        congr 1
        exact OrdMap.mapVals_erase _ _ _
    · cases interface
      case xdgSurface => exact (OrdMap.contains_erase.mp hkeeps).2
      all_goals exact hkeeps

theorem withoutXdgSurface_forgets (core : HeadlessWireCore) (id : Nat) :
    (core.withoutXdgSurface id).registry = core.registry ∧
      ¬ (core.withoutXdgSurface id).xdgShell.surfaces.contains id = true := by
  unfold HeadlessWireCore.withoutXdgSurface
  cases hstate : core.xdgShell.surfaces.get? id with
  | none => exact ⟨rfl, by simp [OrdMap.contains, hstate]⟩
  | some state => exact ⟨rfl, not_contains_erase⟩

theorem xdgWmBaseRequest_kept (hJ : Stable terms J) (h : Holds J none core)
    (hr : Decoded .xdgWmBase r spec)
    (hmay : r.opcode = 2 → MayClaim terms core (readU32 (r.payload.drop 4))) :
    Kept terms J (xdgWmBaseRequest r) core := by
  unfold xdgWmBaseRequest
  split
  · rename_i hopcode
    have hlength := hr.words 0 hopcode rfl (by decide)
    refine kept_word (by omega) ?_
    refine kept_register_bind hJ h (by decide) fun core' h' _ _ _ _ => kept_modify ?_
    exact h'.of_same rfl rfl
  · rename_i hopcode
    refine kept_requireLength fun hlength => kept_word (by omega) (kept_word (by omega) ?_)
    refine kept_get (kept_require fun _ => ?_)
    refine kept_register_bind hJ h (by decide) fun core' h' hnew _ heq hnone => ?_
    refine kept_getObject fun _ _ => claimRole_kept fun hfree => ends_modify.mpr ?_
    have hfresh : core'.xdgShell.surfaces.get? (readU32 (r.payload.drop 0)) = none := by
      rw [heq]
      exact get?_of_not_contains (h.unkept hnone .xdgSurface)
    refine h'.xdgClaimed hJ ⟨_, hnew, rfl⟩ hfresh hfree (hmay hopcode core'.frame ?_ ?_) ?_
    · rw [heq]
      rfl
    · rw [heq]
      rfl
    · rw [heq]
      exact ⟨_, _, rfl⟩
  · exact kept_pure h
  · exact kept_unhandled

theorem setWindowGeometry_eq_ok {id : Nat} {geometry : Int × Int × Int × Int}
    (h : m.setWindowGeometry id geometry = .ok m') :
    ∃ state, m' = m.modifySurface id fun surface =>
      { surface with windowGeometry := some state } := by
  unfold XdgShellManager.setWindowGeometry at h
  split_ifs at h
  obtain ⟨_, _, h⟩ := bind_eq_ok.mp h
  exact ⟨geometry, (Except.ok.inj h).symm⟩

theorem xdgAckConfigure_eq_ok {id serial : Nat} (h : m.ackConfigure id serial = .ok m') :
    ∃ acked, m' = m.modifySurface id fun surface => { surface with ackedSerial := acked } := by
  obtain ⟨state, _, h⟩ := bind_eq_ok.mp h
  split_ifs at h
  exact ⟨serial, (Except.ok.inj h).symm⟩

section

variable (hJ : Stable terms J) (h : Holds J none core)
include hJ h

theorem xdgSurfaceRequest_kept (hobject : core.object? r.id = some ⟨.xdgSurface, version⟩)
    (hr : Decoded .xdgSurface r spec) (hmay : r.opcode = 1 → terms.mayConfigure) :
    Kept terms J (xdgSurfaceRequest r) core := by
  unfold xdgSurfaceRequest
  split
  · obtain ⟨hregistry, hforgotten⟩ := withoutXdgSurface_forgets core r.id
    have hobject' : (core.withoutXdgSurface r.id).object? r.id = some ⟨.xdgSurface, version⟩ := by
      rw [HeadlessWireCore.object?, hregistry]
      exact hobject
    exact kept_destroyWith hJ (h.withoutXdgSurface hJ) hobject' (by decide) hforgotten
  · rename_i hopcode
    refine kept_requireLength fun hlength => kept_word (by omega) ?_
    refine kept_register_bind hJ h (by decide) fun core' h' hnew hold _ _ => ?_
    refine kept_nextXdgSerial_bind hJ fun core₁ h₁ hregistry _ => ?_
    have hconfigured : Holds J none (core₁.withXdgSurface r.id fun state =>
        { state with configureSerial := core'.xdgShell.getNextSerial.1 }) :=
      h₁.changeXdgSurface hJ (fun _ => rfl) (.inl (hmay hopcode))
    refine kept_modify_bind hconfigured fun h₂ => ?_
    have hlive : LiveAs core₁.registry.objects .xdgToplevel
        (readU32 (r.payload.drop 0)) := by
      rw [hregistry]
      exact ⟨_, hnew, rfl⟩
    have hsurface : LiveAs core₁.registry.objects .xdgSurface r.id := by
      rw [hregistry]
      exact ⟨_, hold _ _ hobject, rfl⟩
    refine kept_send_bind hJ h₂ (fine_declared hlive rfl rfl (by simp [Fits])) fun h₃ => ?_
    exact kept_send hJ h₃ (fine_declared hsurface rfl rfl (by simp [Fits]))
  · rename_i hopcode
    have hlength := hr.words 2 hopcode rfl (by decide)
    refine kept_word (by omega) (kept_word (by omega) (kept_word (by omega) ?_))
    refine kept_register_bind hJ h (by decide) fun core' h' hnew _ _ _ => ?_
    refine kept_part_bind (fun _ => createPopup_calm _ _ _ _ _) fun xdgShell hpopup =>
      ⟨?_, fun h₁ => ?_⟩
    · obtain ⟨positioner, _, hvalue⟩ := bind_eq_ok.mp hpopup
      obtain rfl := Except.ok.inj hvalue
      exact h'.of_same rfl rfl
    exact kept_send hJ h₁ (fine_declared ⟨_, hnew, rfl⟩ rfl rfl (by simp [Fits]))
  · refine kept_requireLength fun hlength => kept_int (by omega) (kept_int (by omega) ?_)
    refine kept_int (by omega) (kept_int (by omega) ?_)
    refine kept_part (fun _ => setWindowGeometry_calm _ _ _) fun xdgShell hshell => ?_
    obtain ⟨state, rfl⟩ := setWindowGeometry_eq_ok hshell
    exact h.modifyXdgSurface hJ (fun _ => rfl) fun _ => rfl
  · refine kept_requireLength fun hlength => kept_word (by omega) ?_
    refine kept_part (fun _ => xdgAckConfigure_calm _ _ _) fun xdgShell hshell => ?_
    obtain ⟨state, rfl⟩ := xdgAckConfigure_eq_ok hshell
    exact h.modifyXdgSurface hJ (fun _ => rfl) fun _ => rfl
  · exact kept_unhandled

theorem setToplevelText_kept {id : Nat} {f : String → XdgSurfaceState → XdgSurfaceState}
    (hf : ∀ text state, (f text state).wlSurfaceId = state.wlSurfaceId)
    (hserials : ∀ text state, (f text state).configureSerial = state.configureSerial) :
    Kept terms J (setToplevelText id args f) core := by
  unfold setToplevelText
  split
  · exact kept_modify (h.modifyXdgSurface hJ (fun state => hf _ state) fun state =>
      hserials _ state)
  · exact kept_pure h

theorem xdgToplevelRequest_kept (hobject : core.object? r.id = some ⟨.xdgToplevel, version⟩) :
    Kept terms J (xdgToplevelRequest r) core := by
  unfold xdgToplevelRequest
  split
  · exact destroyWith_kept hJ h hobject rfl rfl (by decide) id
  · exact kept_pure h
  · exact setToplevelText_kept hJ h (fun _ _ => rfl) fun _ _ => rfl
  · exact setToplevelText_kept hJ h (fun _ _ => rfl) fun _ _ => rfl
  · exact kept_unhandled

theorem xdgPopupRequest_kept (hobject : core.object? r.id = some ⟨.xdgPopup, version⟩) :
    Kept terms J (xdgPopupRequest r) core := by
  unfold xdgPopupRequest
  split
  · exact destroyWith_kept hJ h hobject rfl rfl (by decide) id
  · exact kept_pure h
  · exact kept_unhandled

end

theorem setPositioner_kept (h : Holds J none core) {id : Nat}
    {f : PositionerState → PositionerState} : Kept terms J (setPositioner id f) core :=
  kept_modify (h.of_same rfl rfl)

theorem xdgPositionerRequest_kept (hJ : Stable terms J)
    (h : Holds J none core) (hobject : core.object? r.id = some ⟨.xdgPositioner, version⟩)
    (hr : Decoded .xdgPositioner r spec) : Kept terms J (xdgPositionerRequest r) core := by
  unfold xdgPositionerRequest
  split
  · exact destroyWith_kept hJ h hobject rfl rfl (by decide) id
  · rename_i hopcode
    have hlength := hr.words 1 hopcode rfl (by decide)
    exact kept_int (by omega) (kept_int (by omega) (setPositioner_kept h))
  · rename_i hopcode
    have hlength := hr.words 3 hopcode rfl (by decide)
    refine kept_int (by omega) (kept_int (by omega) (kept_int (by omega) (kept_int (by omega) ?_)))
    exact setPositioner_kept h
  · rename_i hopcode
    have hlength := hr.words 0 hopcode rfl (by decide)
    exact kept_word (by omega) (setPositioner_kept h)
  · rename_i hopcode
    have hlength := hr.words 0 hopcode rfl (by decide)
    exact kept_word (by omega) (setPositioner_kept h)
  · rename_i hopcode
    have hlength := hr.words 0 hopcode rfl (by decide)
    exact kept_word (by omega) (setPositioner_kept h)
  · rename_i hopcode
    have hlength := hr.words 1 hopcode rfl (by decide)
    exact kept_int (by omega) (kept_int (by omega) (setPositioner_kept h))
  · exact kept_unhandled

/-! Subsurfaces. -/

theorem getSubsurface_eq_ok {m m' : SubcompositorManager} {id : Nat}
    (h : m.getSubsurface id surfaceId parentId = .ok m') :
    (∀ other state, m.subsurfaces.get? other = some state → state.surfaceId ≠ surfaceId) ∧
      m' = ⟨m.subsurfaces.insert id { surfaceId := surfaceId, parentId := parentId }⟩ := by
  unfold SubcompositorManager.getSubsurface at h
  split_ifs at h with _ hany
  refine ⟨fun other state hstate heq => hany ?_, (Except.ok.inj h).symm⟩
  exact List.any_eq_true.mpr ⟨state, OrdMap.mem_values.mpr ⟨other, hstate⟩, by simpa using heq⟩

theorem modifySubsurface_eq_ok {m m' : SubcompositorManager} {id : Nat}
    {f : SubsurfaceState → SubsurfaceState} (h : m.modifySubsurface id f = .ok m') :
    m' = ⟨m.subsurfaces.modify id f⟩ := by
  unfold SubcompositorManager.modifySubsurface at h
  split_ifs at h
  exact (Except.ok.inj h).symm

theorem Holds.nested (hJ : Stable terms J) (h : Holds J none core) {id : Nat}
    (hlive : LiveAs core.registry.objects .wlSubsurface id)
    (hfresh : core.subsurface.subsurfaces.get? id = none)
    (hsole : ∀ other state, core.subsurface.subsurfaces.get? other = some state →
      state.surfaceId ≠ surfaceId) (hmay : terms.mayNest core.frame surfaceId)
    (hnew : core.frame.Newest id) :
    Holds J none { core with
      subsurface := ⟨core.subsurface.subsurfaces.insert id
        { surfaceId := surfaceId, parentId := parentId }⟩ } := by
  have hget : ∀ other, core.frame.roles.subsurfaces.get? other =
      (core.subsurface.subsurfaces.get? other).map SubsurfaceState.surfaceId :=
    fun other => OrdMap.get?_mapVals _ _ _
  have hother : ∀ other, core.frame.roles.subsurfaces.get? other ≠ some surfaceId := by
    intro other hsome
    rw [hget] at hsome
    obtain ⟨state, hstate, heq⟩ := Option.map_eq_some_iff.mp hsome
    exact hsole other state hstate heq
  have hnone : core.frame.roles.subsurfaces.get? id = none := by
    rw [hget, hfresh]
    rfl
  refine h.of_roles _ hJ (.nested hmay hother hnone hnew) ?_ rfl rfl fun interface other hkeeps => ?_
  · unfold HeadlessWireCore.frame RoleTables.nested
    congr 1
    unfold HeadlessWireCore.roleTables
    congr 1
    exact OrdMap.mapVals_insert _ _ _ _
  · cases interface
    case wlSubsurface => exact insert_kept hlive other hkeeps
    all_goals exact .inl hkeeps

theorem Holds.unnested (hJ : Stable terms J) (h : Holds J none core) {id : Nat} :
    Holds J none { core with subsurface := core.subsurface.destroy id } := by
  refine h.of_roles (core.roleTables.unnested id) hJ .unnested ?_ rfl rfl
    fun interface other hkeeps => .inl ?_
  · unfold HeadlessWireCore.frame RoleTables.unnested
    congr 1
    unfold HeadlessWireCore.roleTables
    congr 1
    exact OrdMap.mapVals_erase _ _ _
  · cases interface
    case wlSubsurface => exact (OrdMap.contains_erase.mp hkeeps).2
    all_goals exact hkeeps

theorem subcompositorRequest_kept (hJ : Stable terms J)
    (h : Holds J none core) (hobject : core.object? r.id = some ⟨.wlSubcompositor, version⟩)
    (hr : Decoded .wlSubcompositor r spec)
    (hmay : r.opcode = 1 → MayNest terms core (readU32 (r.payload.drop 4))) :
    Kept terms J (subcompositorRequest r) core := by
  unfold subcompositorRequest
  split
  · exact destroyWith_kept hJ h hobject rfl rfl (by decide) id
  · rename_i hopcode
    have hlength := hr.words 2 hopcode rfl (by decide)
    refine kept_word (by omega) (kept_word (by omega) (kept_word (by omega) ?_))
    refine kept_register_bind hJ h (by decide) fun core' h' hnew _ heq hnone => ?_
    refine kept_part (fun _ => getSubsurface_calm _ _ _ _) fun subsurface hsub => ?_
    obtain ⟨hsole, rfl⟩ := getSubsurface_eq_ok hsub
    have hfresh : core'.subsurface.subsurfaces.get? (readU32 (r.payload.drop 0)) = none := by
      rw [heq]
      exact get?_of_not_contains (h.unkept hnone .wlSubsurface)
    refine h'.nested hJ ⟨_, hnew, rfl⟩ hfresh hsole (hmay hopcode core'.frame ?_ ?_) ?_
    · rw [heq]
      rfl
    · rw [heq]
      rfl
    · rw [heq]
      exact ⟨_, _, rfl⟩
  · exact kept_unhandled

theorem setSync_kept (h : Holds J none core) {id : Nat} {sync : Bool} :
    Kept terms J (setSync id sync) core := by
  unfold setSync onSubsurface
  refine kept_part (fun _ => modifySubsurface_calm _ _ _) fun subsurface hsub => ?_
  obtain rfl := modifySubsurface_eq_ok hsub
  exact h.modifySubsurface fun _ => rfl

theorem subsurfaceRequest_kept (hJ : Stable terms J) (h : Holds J none core)
    (hobject : core.object? r.id = some ⟨.wlSubsurface, version⟩)
    (hr : Decoded .wlSubsurface r spec) : Kept terms J (subsurfaceRequest r) core := by
  unfold subsurfaceRequest
  split
  · exact kept_destroyWith hJ (h.unnested hJ) hobject (by decide) not_contains_erase
  · rename_i hopcode
    have hlength := hr.words 1 hopcode rfl (by decide)
    refine kept_int (by omega) (kept_int (by omega) ?_)
    refine kept_part (fun _ => modifySubsurface_calm _ _ _) fun subsurface hsub => ?_
    obtain rfl := modifySubsurface_eq_ok hsub
    exact h.modifySubsurface fun _ => rfl
  · exact kept_pure h
  · exact kept_pure h
  · exact setSync_kept h
  · exact setSync_kept h
  · exact kept_unhandled

/-! Data exchange. -/

variable {level : Level}

/-- What an id may stand for that an event for an object of the interface is sent to. -/
def Target (level : Level) (core : HeadlessWireCore) (interface : Interface) (id : Nat) : Prop :=
  match level with
  | .off banned => ∀ object, core.object? id = some object → ¬ object.Banned banned
  | .declared => LiveAs core.registry.objects interface id

theorem Target.of_live {id : Nat} (h : LiveAs core.registry.objects interface id)
    (hquiet : interface.quiet = false) : Target level core interface id := by
  cases level with
  | off banned =>
    intro other hother hbanned
    obtain ⟨object, hobject, hinterface⟩ := h
    obtain rfl := Option.some.inj (hobject.symm.trans hother)
    rw [← hinterface, hbanned.1] at hquiet
    cases hquiet
  | declared => exact h

theorem fine_target {id : Nat} (htarget : Target level core interface id)
    (hevent : interface.reply? opcode = some spec) (htypes : spec.args = args.map argType)
    (hfits : level = .declared → ∀ a ∈ args, Fits a) :
    Fine level (encodeEvent id opcode args) (core.object? id) := by
  cases level with
  | off banned => exact htarget
  | declared => exact fine_declared htarget hevent htypes (hfits rfl)

/-- A new offer is nothing that events are kept off. -/
theorem Target.offered {core' : HeadlessWireCore} {id : Nat} (h : Target level core interface id)
    (hold : Objects core core') (hnew : ∀ id object, core'.object? id = some object →
      core.object? id = some object ∨ object.interface = .wlDataOffer) :
    Target level core' interface id := by
  cases level with
  | off banned =>
    intro object hobject hbanned
    cases hnew id object hobject with
    | inl hbefore => exact h object hbefore hbanned
    | inr hoffer =>
      have hquiet := hbanned.1
      rw [hoffer] at hquiet
      cases hquiet
  | declared =>
    obtain ⟨object, hobject, hinterface⟩ := h
    exact ⟨object, hold id object hobject, hinterface⟩

theorem sendToSource_kept (hJ : Stable terms J) (h : Holds J none core)
    (htarget : ∀ source, core.offerSource offerId = some source →
      Target terms.level core .wlDataSource source)
    (hevent : Interface.wlDataSource.reply? opcode = some spec)
    (htypes : spec.args = args.map argType) (hfits : terms.level = .declared → ∀ a ∈ args, Fits a) :
    Kept terms J (sendToSource offerId opcode args) core := by
  refine kept_get ?_
  cases hsource : core.offerSource offerId with
  | none => exact kept_pure h
  | some source =>
    exact kept_send hJ h (fine_target (htarget source hsource) hevent htypes hfits)

theorem dataDeviceManagerRequest_kept (hJ : Stable terms J)
    (h : Holds J none core) (hr : Decoded .wlDataDeviceManager r spec) :
    Kept terms J (dataDeviceManagerRequest r) core := by
  unfold dataDeviceManagerRequest
  split
  · rename_i hopcode
    have hlength := hr.words 0 hopcode rfl (by decide)
    refine kept_word (by omega) ?_
    refine kept_register_bind hJ h (by decide) fun core' h' _ _ _ hnone => kept_modify ?_
    refine h'.exchange (fun _ => .inl) (fun id hcontains => ?_) fun _ _ _ => offered_peer
    cases OrdMap.contains_insert.mp hcontains with
    | inl heq => exact .inr (heq ▸ h.fresh_ne hnone)
    | inr hold => exact .inl hold
  · rename_i hopcode
    have hlength := hr.words 1 hopcode rfl (by decide)
    refine kept_word (by omega) (kept_word (by omega) ?_)
    refine kept_register_bind hJ h (by decide) fun core' h' _ _ _ hnone => kept_modify ?_
    refine h'.exchange (fun id hcontains => ?_) (fun _ => .inl) fun _ _ _ => offered_peer
    cases OrdMap.contains_insert.mp hcontains with
    | inl heq => exact .inr (heq ▸ h.fresh_ne hnone)
    | inr hold => exact .inl hold
  · exact kept_unhandled

theorem dataSourceRequest_kept (hJ : Stable terms J) (h : Holds J none core)
    (hobject : core.object? r.id = some ⟨.wlDataSource, version⟩)
    (hr : Decoded .wlDataSource r spec) : Kept terms J (dataSourceRequest r) core := by
  unfold dataSourceRequest
  split
  · exact kept_text fun _ _ => kept_modify h.modifySource
  · exact kept_modify_bind h.modifySource fun h₁ => kept_destroy hJ h₁ hobject rfl id
  · rename_i hopcode
    have hlength := hr.words 0 hopcode rfl (by decide)
    exact kept_word (by omega) (kept_modify h.modifySource)
  · exact kept_unhandled

/-- The server has a word left for each of so many ids. -/
def ServerIdsLeft (core : HeadlessWireCore) (count : Nat) : Prop :=
  core.registry.serverId + count ≤ u32Max

/-- A new offer: what it leaves of the core. -/
structure Offered (core core' : HeadlessWireCore) : Prop where
  objects : Objects core core'
  fresh : ∀ id object, core'.object? id = some object →
    core.object? id = some object ∨ object.interface = .wlDataOffer
  sources : core'.dataDevice.sources = core.dataDevice.sources
  serverId : core'.registry.serverId = core.registry.serverId + 1

theorem newOffer_kept {rest : Nat → Handler α} (hJ : Stable terms J) (h : Holds J none core)
    (hleft : terms.safe → ServerIdsLeft core 1) (hrest : ∀ core' offerId, Holds J none core' →
      core'.object? offerId = some ⟨.wlDataOffer, 3⟩ → Offered core core' →
      Kept terms J (rest offerId) core') : Kept terms J (newOffer >>= rest) core := by
  intro hcore
  refine ends_bind.mpr (ends_bind.mpr (ends_bind.mpr (ends_get.mpr (ends_bind.mpr ?_))))
  refine (ends_lift hcore.left).mpr ⟨fun next hnext => ?_, fun hsafe => ?_⟩
  · have hvalue : core.registry.serverId < u32Max ∧
        next = (core.registry.serverId, { core.registry with
          serverId := core.registry.serverId + 1 }) := by
      unfold WireObjectRegistry.nextServerId at hnext
      split_ifs at hnext with hlt
      exact ⟨hlt, (Except.ok.inj hnext).symm⟩
    obtain ⟨hlt, rfl⟩ := hvalue
    refine ends_bind.mpr (ends_set.mpr (ends_pure.mpr (ends_bind.mpr ?_)))
    have h₀ : Holds J none (core.withRegistry { core.registry with
        serverId := core.registry.serverId + 1 }) := ⟨h.anchored, hJ.served core.frame h.kept hlt⟩
    refine ends_register hJ h₀ rfl fun core' h' hnew hold heq _ => ends_pure.mpr ?_
    refine hrest core' _ h' hnew ⟨hold, ?_, ?_, ?_⟩ h'
    · intro id object hobject
      rw [heq] at hobject
      by_cases hid : id = core.registry.serverId
      · rw [hid] at hobject
        have hinserted := (OrdMap.get?_insert_self _ _ _).symm.trans hobject
        obtain rfl := Option.some.inj hinserted
        exact .inr rfl
      · exact .inl ((OrdMap.get?_insert_ne _ _ hid).symm.trans hobject)
    · rw [heq]
      rfl
    · rw [heq]
      rfl
  · have hlt := hleft hsafe
    unfold ServerIdsLeft at hlt
    unfold WireObjectRegistry.nextServerId
    rw [if_pos (by omega)]
    exact calm_ok _

/-- The types of a source are short enough to be sent. -/
def TypesFit (level : Level) (core : HeadlessWireCore) (sourceId : Nat) : Prop :=
  level = .declared → ∀ source, core.dataDevice.sources.get? sourceId = some source →
    ∀ mime ∈ source.mimeTypes, Fits (.string mime)

theorem foldl_pushed_sources (messages : List WaylandMessage) (core : HeadlessWireCore) :
    (messages.foldl HeadlessWireCore.pushed core).dataDevice = core.dataDevice := by
  induction messages generalizing core with
  | nil => rfl
  | cons event rest ih => exact ih (core.pushed event)

theorem Holds.insertOffer (h : Holds J none core) {source : DataSource}
    (hsource : core.dataDevice.sources.contains sourceId = true) :
    Holds J none (core.withDataDevice (core.dataDevice.insertOffer offerId sourceId source)) := by
  refine h.exchange (fun _ => .inl) (fun _ => .inl) fun other offer id hoffer hid => ?_
  by_cases heq : other = offerId
  · rw [heq] at hoffer
    obtain rfl := Option.some.inj ((OrdMap.get?_insert_self _ _ _).symm.trans hoffer)
    obtain rfl := Option.some.inj hid
    exact .inr (.inl hsource)
  · exact offered_peer ((OrdMap.get?_insert_ne _ _ heq).symm.trans hoffer) hid

theorem introduceOffer_ends (hJ : Stable terms J) (h : Holds J none core)
    (hoffer : core.object? offerId = some ⟨.wlDataOffer, 3⟩)
    (hdevice : Target terms.level core .wlDataDevice deviceId)
    (htypes : TypesFit terms.level core sourceId) :
    Ends (Tolerated terms.safe (Left terms J)) (introduceOffer deviceId offerId sourceId) core
      fun _ core' =>
      Holds J none core' ∧ core'.registry = core.registry ∧
        core'.dataDevice.sources = core.dataDevice.sources := by
  refine ends_bind.mpr (ends_get.mpr ?_)
  cases hsource : core.dataDevice.sources.get? sourceId with
  | none => exact tolerated_error h.left _
  | some source =>
    refine ends_bind.mpr (ends_modify.mpr (ends_bind.mpr (ends_send.mpr ?_)))
    have h₀ : Holds J none (core.withDataDevice
        (core.dataDevice.insertOffer offerId sourceId source)) :=
      h.insertOffer (OrdMap.contains_iff.mpr ⟨source, hsource⟩)
    have hannounced : Fine terms.level (encodeEvent deviceId 0 [.newId offerId])
        (core.object? deviceId) := fine_target hdevice rfl rfl fun _ => by simp [Fits]
    have h₁ := h₀.pushed hJ hannounced
    refine ends_sendEach.mpr ⟨h₁.pushedAll hJ fun event hevent => ?_, ?_, ?_⟩
    · obtain ⟨mime, hmime, rfl⟩ := List.mem_map.mp hevent
      exact fine_text ⟨_, hoffer, rfl⟩ rfl rfl fun hlevel => by
        simpa using htypes hlevel source hsource mime hmime
    · rw [object?_foldl_pushed]
      rfl
    · rw [foldl_pushed_sources]
      rfl

theorem emitSelectionEvents_kept (hJ : Stable terms J) {devices : List Nat} (h : Holds J none core)
    (hleft : terms.safe → ServerIdsLeft core devices.length)
    (hdevices : ∀ device ∈ devices, Target terms.level core .wlDataDevice device)
    (htypes : TypesFit terms.level core sourceId) :
    Kept terms J (emitSelectionEvents sourceId devices) core := by
  induction devices generalizing core with
  | nil => exact kept_pure h
  | cons deviceId rest ih =>
    have hone : terms.safe → ServerIdsLeft core 1 := by
      intro hsafe
      have hle := hleft hsafe
      simp only [ServerIdsLeft, List.length_cons] at hle ⊢
      omega
    refine newOffer_kept hJ h hone fun core₁ offerId h₁ hoffer hoffered => ?_
    have hdevice := (hdevices deviceId List.mem_cons_self).offered hoffered.objects hoffered.fresh
    have htypes₁ : TypesFit terms.level core₁ sourceId := by
      intro hlevel source hsource
      rw [hoffered.sources] at hsource
      exact htypes hlevel source hsource
    refine fun _ => Ends.then (introduceOffer_ends hJ h₁ hoffer hdevice htypes₁)
      fun _ core₂ hcore₂ => ?_
    obtain ⟨h₂, hregistry, hsources⟩ := hcore₂
    have htarget : ∀ id, Target terms.level core₁ .wlDataDevice id →
        Target terms.level core₂ .wlDataDevice id := by
      intro id ht
      unfold Target at ht ⊢
      have hsame : core₂.object? id = core₁.object? id := by
        rw [HeadlessWireCore.object?, HeadlessWireCore.object?, hregistry]
      rw [hsame, hregistry]
      exact ht
    refine kept_send_bind hJ h₂ (fine_target (htarget _ hdevice) rfl rfl fun _ => by simp [Fits])
      (fun h₃ => ih h₃ ?_ ?_ ?_) h₂
    · intro hsafe
      have hle := hleft hsafe
      have hid := hoffered.serverId
      simp only [ServerIdsLeft, List.length_cons] at hle ⊢
      change core₂.registry.serverId + _ ≤ _
      rw [hregistry]
      omega
    · intro device hdevice'
      exact htarget device ((hdevices device (List.mem_cons_of_mem _ hdevice')).offered
        hoffered.objects hoffered.fresh)
    · intro hlevel source hsource
      refine htypes₁ hlevel source ?_
      rw [← hsources]
      exact hsource

theorem seatOfDevice_kept {rest : Nat → Handler α}
    (h : ∀ seatId, core.dataDevice.devices.get? deviceId = some seatId →
      Kept terms J (rest seatId) core) : Kept terms J (seatOfDevice deviceId >>= rest) core := by
  refine fun hcore => ends_bind.mpr (ends_bind.mpr (ends_get.mpr ?_))
  cases hseat : core.dataDevice.devices.get? deviceId with
  | none => exact tolerated_error hcore.left _
  | some seatId => exact h seatId hseat hcore

/-- What a change of the selection of a device needs. -/
structure SelectionAdmitted (level : Level) (safe : Prop) (core : HeadlessWireCore)
    (deviceId sourceId : Nat) : Prop where
  devices : ∀ seatId, core.dataDevice.devices.get? deviceId = some seatId →
    ∀ device ∈ core.devicesOfSeat seatId, Target level core .wlDataDevice device
  types : TypesFit level core sourceId
  left : safe → ∀ seatId, core.dataDevice.devices.get? deviceId = some seatId →
    sourceId ≠ 0 → ServerIdsLeft core (core.devicesOfSeat seatId).length

theorem handleDataDeviceSetSelection_kept (hJ : Stable terms J) (h : Holds J none core)
    (hlength : 4 ≤ payload.length)
    (hadmitted : SelectionAdmitted terms.level terms.safe core deviceId (readU32 payload)) :
    Kept terms J (handleDataDeviceSetSelection environment deviceId payload) core := by
  refine kept_word (by omega) (seatOfDevice_kept fun seatId hseat => ?_)
  refine kept_modify_bind (h.exchange_same rfl rfl rfl) fun h₁ => kept_get ?_
  have hvisit : ∀ device ∈ environment.visit (core.devicesOfSeat seatId),
      Target terms.level core .wlDataDevice device := fun device hdevice =>
    hadmitted.devices seatId hseat device ((environment.visit_perm _).mem_iff.mp hdevice)
  rw [List.drop_zero]
  split
  · rename_i sourceId hsource
    have hid : sourceId = readU32 payload ∧ readU32 payload ≠ 0 := by
      unfold optionalId at hsource
      split_ifs at hsource with hzero
      exact ⟨(Option.some.inj hsource).symm, hzero⟩
    rw [hid.1]
    refine emitSelectionEvents_kept hJ h₁ ?_ hvisit hadmitted.types
    intro hsafe
    have hle := hadmitted.left hsafe seatId hseat hid.2
    unfold ServerIdsLeft at hle ⊢
    rw [(environment.visit_perm _).length_eq]
    exact hle
  · refine kept_sendEach hJ h₁ fun event hevent => ?_
    obtain ⟨device, hdevice, rfl⟩ := List.mem_map.mp hevent
    exact fine_target (hvisit device hdevice) rfl rfl fun _ => by simp [Fits]

/-- What the start of a drag needs. -/
structure DragAdmitted (level : Level) (safe : Prop) (core : HeadlessWireCore)
    (sourceId : Nat) : Prop where
  types : TypesFit level core sourceId
  left : safe → ServerIdsLeft core 1

theorem enterDrag_kept (hJ : Stable terms J) (h : Holds J none core) {source : Option Nat}
    (hdevice : LiveAs core.registry.objects .wlDataDevice deviceId)
    (htypes : ∀ sourceId, source = some sourceId → TypesFit terms.level core sourceId)
    (hleft : terms.safe → ServerIdsLeft core 1) :
    Kept terms J (enterDrag deviceId surfaceId source) core := by
  refine newOffer_kept hJ h hleft fun core₁ offerId h₁ hoffer hoffered => ?_
  have hlive : LiveAs core₁.registry.objects .wlDataDevice deviceId := by
    obtain ⟨object, hobject, hinterface⟩ := hdevice
    exact ⟨object, hoffered.objects _ _ hobject, hinterface⟩
  have hintroduce : Ends (Tolerated terms.safe (Left terms J))
      (introduceSource deviceId offerId source) core₁ fun _ core₂ => Holds J none core₂ ∧ core₂.registry = core₁.registry := by
    cases source with
    | none => exact ⟨h₁, rfl⟩
    | some sourceId =>
      have htypes₁ : TypesFit terms.level core₁ sourceId := by
        intro hlevel source hsource
        rw [hoffered.sources] at hsource
        exact htypes sourceId rfl hlevel source hsource
      refine Ends.mono (introduceOffer_ends hJ h₁ hoffer (Target.of_live hlive rfl)
        htypes₁) fun _ core₂ hcore₂ => ⟨hcore₂.1, hcore₂.2.1⟩
  refine fun _ => Ends.then hintroduce fun _ core₂ hcore₂ => ?_
  refine kept_nextXdgSerial_bind hJ (fun core₃ h₃ hregistry _ => kept_send hJ h₃ ?_) hcore₂.1
  have hlive₂ : LiveAs core₃.registry.objects .wlDataDevice deviceId := by
    rw [hregistry, hcore₂.2]
    exact hlive
  exact fine_declared hlive₂ rfl rfl (by simp [Fits])

theorem handleDataDeviceStartDrag_kept (hJ : Stable terms J) (h : Holds J none core)
    (hlength : 16 ≤ payload.length) (hdevice : LiveAs core.registry.objects .wlDataDevice deviceId)
    (hadmitted : DragAdmitted terms.level terms.safe core (readU32 payload)) :
    Kept terms J (handleDataDeviceStartDrag environment deviceId payload) core := by
  refine kept_word (by omega) (kept_word (by omega) (kept_word (by omega) ?_))
  refine kept_word (by omega) (seatOfDevice_kept fun seatId _ => ?_)
  refine kept_modify_bind (h.exchange_same rfl rfl rfl) fun h₁ => kept_get ?_
  split
  · exact kept_pure h₁
  · refine enterDrag_kept hJ h₁ hdevice (fun sourceId hsource => ?_) hadmitted.left
    rw [List.drop_zero, optionalId] at hsource
    split_ifs at hsource
    obtain rfl := Option.some.inj hsource
    exact hadmitted.types

theorem dataDeviceRequest_kept (hJ : Stable terms J) (h : Holds J none core)
    (hobject : core.object? r.id = some ⟨.wlDataDevice, version⟩)
    (hr : Decoded .wlDataDevice r spec)
    (hdrag : r.opcode = 0 → DragAdmitted terms.level terms.safe core (readU32 r.payload))
    (hselection : r.opcode = 1 → SelectionAdmitted terms.level terms.safe core r.id (readU32 r.payload)) :
    Kept terms J (dataDeviceRequest r) core := by
  unfold dataDeviceRequest
  split
  · rename_i hopcode
    have hlength := hr.words 3 hopcode rfl (by decide)
    exact handleDataDeviceStartDrag_kept hJ h (by omega) ⟨_, hobject, rfl⟩ (hdrag hopcode)
  · rename_i hopcode
    have hlength := hr.words 0 hopcode rfl (by decide)
    exact handleDataDeviceSetSelection_kept hJ h (by omega) (hselection hopcode)
  · exact destroyWith_kept hJ h hobject rfl rfl (by decide) id
  · exact kept_unhandled

/-- What the requests of an offer need of its source. -/
structure OfferAdmitted (level : Level) (core : HeadlessWireCore) (r : Request) : Prop where
  source : ∀ source, core.offerSource r.id = some source → Target level core .wlDataSource source
  accept : r.opcode = 0 → TextFits level r.payload 4
  receive : r.opcode = 1 → TextFits level r.payload 0

theorem popFd_kept (h : Kept terms J (rest ()) { core with fdQueue := core.fdQueue.dropLast }) :
    Kept terms J (popFd >>= rest) core := by
  refine fun hcore => ends_bind.mpr (ends_bind.mpr (ends_get.mpr (ends_bind.mpr ?_)))
  exact (ends_require hcore.left).mpr fun _ => ends_set.mpr (h (hcore.of_same rfl rfl))

/-- The actions of an offer say nothing of its source. -/
theorem modifyOffer_source {offers : OrdMap Nat DataOffer} {id other : Nat} {actions preferred : Nat}
    {offer : DataOffer} (h : (offers.modify id fun offer =>
      { offer with dndActions := actions, preferredAction := preferred }).get? other = some offer) :
    ∃ old, offers.get? other = some old ∧ old.sourceId = offer.sourceId := by
  rw [OrdMap.get?_modify] at h
  split_ifs at h
  · obtain ⟨old, hold, rfl⟩ := Option.map_eq_some_iff.mp h
    exact ⟨old, hold, rfl⟩
  · exact ⟨offer, h, rfl⟩

theorem dataOfferRequest_kept (hJ : Stable terms J) (h : Holds J none core)
    (hobject : core.object? r.id = some ⟨.wlDataOffer, version⟩)
    (hr : Decoded .wlDataOffer r spec)
    (hadmitted : r.opcode ≠ 2 → OfferAdmitted terms.level core r) :
    Kept terms J (dataOfferRequest r) core := by
  unfold dataOfferRequest
  split
  · rename_i hopcode
    have hlength := hr.words 0 hopcode rfl (by decide)
    have hoffer := hadmitted (by omega)
    refine kept_word (by omega) (kept_text fun text htext => ?_)
    refine sendToSource_kept hJ h hoffer.source rfl rfl fun hlevel => ?_
    simpa using hoffer.accept hopcode hlevel text htext
  · rename_i hopcode
    have hoffer := hadmitted (by omega)
    refine kept_text fun text htext => popFd_kept (kept_get (kept_require fun _ => ?_))
    have h₀ : Holds J none { core with fdQueue := core.fdQueue.dropLast } := h.of_same rfl rfl
    refine sendToSource_kept hJ h₀ ?_ rfl rfl fun hlevel => ?_
    · exact hoffer.source
    · intro a ha
      simp only [List.mem_cons, List.not_mem_nil, or_false] at ha
      rcases ha with rfl | rfl
      · exact hoffer.receive hopcode hlevel text htext
      · trivial
  · exact destroyWith_kept hJ h hobject rfl rfl (by decide) id
  · rename_i hopcode
    exact sendToSource_kept hJ h (hadmitted (by omega)).source rfl rfl fun _ a ha => by cases ha
  · rename_i hopcode
    have hlength := hr.words 1 hopcode rfl (by decide)
    have hoffer := hadmitted (by omega)
    refine kept_word (by omega) (kept_word (by omega) ?_)
    refine kept_modify_bind (h.exchange (fun _ => .inl) (fun _ => .inl) ?_) fun h₁ => ?_
    · intro offerId offer id hoffer hid
      obtain ⟨old, hold, hsame⟩ := modifyOffer_source hoffer
      exact offered_peer hold (hsame.trans hid)
    refine sendToSource_kept hJ h₁ (fun source hsource => ?_) rfl rfl fun _ => by simp [Fits]
    refine hoffer.source source ?_
    simp only [HeadlessWireCore.offerSource, HeadlessWireCore.withDataDevice,
      OrdMap.get?_modify_self, Option.bind_map] at hsource ⊢
    exact hsource
  · exact kept_unhandled

end Shell

end TuffXwin.Headless
