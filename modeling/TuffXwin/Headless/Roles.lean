import TuffXwin.Headless.Destruction

/-! The roles of surfaces. A subsurface claims none, and an object that gave a surface its
role may outlive it and release the claim of another. Where clients give a surface one such
object at a time, and destroy it before the surface, roles are exclusive and tracked. -/

namespace TuffXwin.Headless
open Lib
open WaylandWire (WireError WireArg WaylandMessage readU32 writeU32 encodeString displayId
  encodeEvent)

variable {surfaceId : Nat}
variable {table : OrdMap Nat Nat} {other : Nat} {message : WaylandMessage}

/-- The object is kept as what gives the surface the role. -/
def RoleTables.Backs (t : RoleTables) : SurfaceRoleKind → Nat → Nat → Prop
  | .xdgSurface, id, surfaceId => t.xdgSurfaces.get? id = some surfaceId
  | .layerSurface, id, surfaceId => t.layerSurfaces.get? id = some surfaceId
  | .subsurface, id, surfaceId => t.subsurfaces.get? id = some surfaceId
  | .popup, _, _ => False

/-- Since the object was created the surface has not been destroyed. -/
def Current (log : List Note) (surfaceId id : Nat) : Prop :=
  ∃ before object after, log = before ++ .created id object :: after ∧
    .destroyed surfaceId ∉ after

theorem Current.append {log more : List Note} {id : Nat} (h : Current log surfaceId id)
    (hmore : .destroyed surfaceId ∉ more) : Current (log ++ more) surfaceId id := by
  obtain ⟨before, object, after, rfl, hafter⟩ := h
  refine ⟨before, object, after ++ more, by simp, ?_⟩
  rw [List.mem_append]
  exact fun hin => hin.elim hafter hmore

structure RolesKept (objects : OrdMap Nat WireObject) (surfaces : OrdMap Nat SurfaceInstance)
    (roles : RoleTables) (log : List Note) : Prop where
  surfaced : Mirrors objects .wlSurface surfaces
  sole : ∀ role role' id id' surfaceId, roles.Backs role id surfaceId →
    roles.Backs role' id' surfaceId → role = role' ∧ id = id'
  claims : ∀ surfaceId role, roles.claims.get? surfaceId = some role ↔
    role ≠ .subsurface ∧ ∃ id, roles.Backs role id surfaceId
  live : ∀ role id surfaceId, roles.Backs role id surfaceId → surfaces.contains surfaceId = true
  current : ∀ role id surfaceId, roles.Backs role id surfaceId → Current log surfaceId id
  bindings : ∀ id surfaceId, roles.layerSurfaces.get? id = some surfaceId ↔
    roles.layerBindings.get? surfaceId = some id

def FrameRoles (f : Frame) : Prop := RolesKept f.objects f.surfaces f.roles f.log

def roleTerms : Terms where
  level := .off fun _ => false
  mayClaim := fun f id => f.surfaces.contains id = true ∧
    ∀ other, f.roles.subsurfaces.get? other ≠ some id
  mayNest := fun f id => f.surfaces.contains id = true ∧ f.roles.claims.get? id = none
  mayDestroy := fun f id => (∀ other, f.roles.xdgSurfaces.get? other ≠ some id) ∧
    ∀ other, f.roles.subsurfaces.get? other ≠ some id

namespace RolesKept

variable {objects objects' : OrdMap Nat WireObject} {surfaces surfaces' : OrdMap Nat SurfaceInstance}
  {roles roles' : RoleTables} {log more : List Note} {id surfaceId : Nat}

/-- Roles do not change with what is created or said. -/
theorem grown (h : RolesKept objects surfaces roles log)
    (hsurfaced : Mirrors objects' .wlSurface surfaces')
    (hsurfaces : ∀ id, surfaces.contains id = true → surfaces'.contains id = true)
    (hmore : ∀ id, surfaces.contains id = true → .destroyed id ∉ more) :
    RolesKept objects' surfaces' roles (log ++ more) where
  surfaced := hsurfaced
  sole := h.sole
  claims := h.claims
  live := fun role id surfaceId hbacks => hsurfaces surfaceId (h.live role id surfaceId hbacks)
  current := fun role id surfaceId hbacks => (h.current role id surfaceId hbacks).append
    (hmore surfaceId (h.live role id surfaceId hbacks))
  bindings := h.bindings

/-- A surface that nothing backs gets an object that does. -/
theorem gained (kind : SurfaceRoleKind) (h : RolesKept objects surfaces roles log)
    (hfree : ∀ role id, ¬ roles.Backs role id surfaceId)
    (hlive : surfaces.contains surfaceId = true) (hcurrent : Current log surfaceId id)
    (hbacks : ∀ role other x, roles'.Backs role other x ↔
      (role = kind ∧ other = id ∧ x = surfaceId) ∨ roles.Backs role other x)
    (hclaims : roles'.claims =
      if kind = .subsurface then roles.claims else roles.claims.insert surfaceId kind)
    (hbindings : roles'.layerBindings =
      if kind = .layerSurface then roles.layerBindings.insert surfaceId id
      else roles.layerBindings) : RolesKept objects surfaces roles' log where
  surfaced := h.surfaced
  sole := by
    intro role role' i j x hi hj
    rw [hbacks] at hi hj
    rcases hi with ⟨hrole, hid, hx⟩ | hi <;> rcases hj with ⟨hrole', hid', hx'⟩ | hj
    · exact ⟨hrole.trans hrole'.symm, hid.trans hid'.symm⟩
    · rw [hx] at hj
      exact absurd hj (hfree _ _)
    · rw [hx'] at hi
      exact absurd hi (hfree _ _)
    · exact h.sole _ _ _ _ _ hi hj
  claims := by
    intro x role
    have hnone : roles.claims.get? surfaceId = none := by
      refine Option.eq_none_iff_forall_ne_some.mpr fun other hother => ?_
      obtain ⟨_, i, hi⟩ := (h.claims surfaceId other).mp hother
      exact hfree other i hi
    simp only [hbacks]
    rw [hclaims]
    by_cases hkind : kind = .subsurface
    · rw [if_pos hkind, h.claims]
      refine and_congr_right fun hrole => exists_congr fun i => ?_
      simp [hkind, hrole]
    · rw [if_neg hkind]
      by_cases hx : x = surfaceId
      · rw [hx, OrdMap.get?_insert_self]
        simp only [hfree, or_false, and_true]
        constructor
        · intro heq
          exact ⟨fun hsub => hkind ((Option.some.inj heq).trans hsub), id,
            (Option.some.inj heq).symm, rfl⟩
        · rintro ⟨_, _, rfl, _⟩
          rfl
      · rw [OrdMap.get?_insert_ne _ _ hx, h.claims]
        simp [hx]
  live := by
    intro role i x hi
    rcases (hbacks _ _ _).mp hi with ⟨_, _, rfl⟩ | hold
    · exact hlive
    · exact h.live _ _ _ hold
  current := by
    intro role i x hi
    rcases (hbacks _ _ _).mp hi with ⟨_, rfl, rfl⟩ | hold
    · exact hcurrent
    · exact h.current _ _ _ hold
  bindings := by
    intro i x
    have hlayer := hbacks .layerSurface i x
    change roles'.layerSurfaces.get? i = some x ↔ _ at hlayer
    rw [hlayer, hbindings]
    change _ ∨ roles.layerSurfaces.get? i = some x ↔ _
    rw [h.bindings]
    by_cases hkind : kind = .layerSurface
    · rw [if_pos hkind]
      by_cases hx : x = surfaceId
      · have hnone : roles.layerBindings.get? surfaceId ≠ some i := fun hbound =>
          hfree .layerSurface i ((h.bindings i surfaceId).mpr hbound)
        rw [hx, OrdMap.get?_insert_self]
        simp [hnone, hkind, eq_comm]
      · rw [OrdMap.get?_insert_ne _ _ hx]
        simp [hx]
    · rw [if_neg hkind]
      simp [Ne.symm hkind]

/-- What backed a surface does so no longer. -/
theorem lost (h : RolesKept objects surfaces roles log)
    (hbacks : ∀ role other x, roles'.Backs role other x ↔
      roles.Backs role other x ∧ x ≠ surfaceId)
    (hclaims : roles'.claims = roles.claims.erase surfaceId)
    (hbindings : roles'.layerBindings = roles.layerBindings.erase surfaceId) :
    RolesKept objects surfaces roles' log where
  surfaced := h.surfaced
  sole := fun role role' i j x hi hj => h.sole role role' i j x ((hbacks _ _ _).mp hi).1
    ((hbacks _ _ _).mp hj).1
  claims := by
    intro x role
    simp only [hbacks]
    rw [hclaims, OrdMap.get?_erase]
    by_cases hx : x = surfaceId
    · simp [hx]
    · simp only [ne_eq, hx, not_false_iff, and_true]
      exact h.claims x role
  live := fun role i x hi => h.live role i x ((hbacks _ _ _).mp hi).1
  current := fun role i x hi => h.current role i x ((hbacks _ _ _).mp hi).1
  bindings := by
    intro i x
    have hlayer := hbacks .layerSurface i x
    change roles'.layerSurfaces.get? i = some x ↔ roles.layerSurfaces.get? i = some x ∧ _ at hlayer
    rw [hlayer, hbindings, OrdMap.get?_erase, h.bindings]
    by_cases hx : x = surfaceId <;> simp [hx]

/-- Only layer surfaces are bound, and where one is the surface has no other role. -/
theorem unbound (role : SurfaceRoleKind) (h : RolesKept objects surfaces roles log)
    (hbacks : roles.Backs role id surfaceId) (hrole : role ≠ .layerSurface) :
    roles.layerBindings.get? surfaceId = none := by
  refine Option.eq_none_iff_forall_ne_some.mpr fun other hother => hrole ?_
  exact (h.sole role .layerSurface id other surfaceId hbacks
    ((h.bindings other surfaceId).mpr hother)).1

/-- An object that backs a surface is forgotten. -/
theorem forgotten (kind : SurfaceRoleKind) (h : RolesKept objects surfaces roles log)
    (hkind : roles.Backs kind id surfaceId)
    (hbacks : ∀ role other x, roles'.Backs role other x ↔
      roles.Backs role other x ∧ ¬ (role = kind ∧ other = id))
    (hclaims : roles'.claims = roles.claims.erase surfaceId)
    (hbindings : roles'.layerBindings = roles.layerBindings.erase surfaceId) :
    RolesKept objects surfaces roles' log := by
  refine h.lost (fun role other x => ?_) hclaims hbindings
  rw [hbacks]
  refine and_congr_right fun hother => not_congr ⟨?_, ?_⟩
  · rintro ⟨rfl, rfl⟩
    cases role
    case popup => exact hother.elim
    all_goals exact Option.some.inj (hother.symm.trans hkind)
  · rintro rfl
    exact h.sole role kind other id x hother hkind

end RolesKept

section Stable

variable {f : Frame} {id surfaceId : Nat}

theorem erase_get?_eq_some {x : Nat} :
    (table.erase id).get? other = some x ↔ table.get? other = some x ∧ ¬ other = id := by
  rw [OrdMap.get?_erase]
  by_cases h : other = id <;> simp [h]

theorem insert_get?_eq_some {x value : Nat} (hfresh : table.get? id = none) :
    (table.insert id value).get? other = some x ↔
      (other = id ∧ x = value) ∨ table.get? other = some x := by
  by_cases h : other = id
  · rw [h, OrdMap.get?_insert_self, hfresh]
    simp [eq_comm]
  · rw [OrdMap.get?_insert_ne _ _ h]
    simp [h]

theorem newest_current (h : f.Newest id) (surfaceId : Nat) : Current f.log surfaceId id := by
  obtain ⟨log, object, heq⟩ := h
  exact ⟨log, object, [], heq, by simp⟩

theorem FrameRoles.unclaimed (h : FrameRoles f) (hfree : f.roles.claims.get? surfaceId = none)
    (hsole : ∀ other, f.roles.subsurfaces.get? other ≠ some surfaceId) (role : SurfaceRoleKind)
    (id : Nat) : ¬ f.roles.Backs role id surfaceId := by
  intro hbacks
  cases role
  case subsurface => exact hsole id hbacks
  all_goals
    have hclaimed := (h.claims surfaceId _).mpr ⟨by simp, id, hbacks⟩
    rw [hfree] at hclaimed
    cases hclaimed

theorem FrameRoles.changed (h : FrameRoles f) {roles : RoleTables}
    (hchange : RoleChange roleTerms f roles) : FrameRoles { f with roles := roles } := by
  cases hchange with
  | half hlasting => exact hlasting.elim
  | xdg hmay hfree hfresh hnew =>
    refine RolesKept.gained .xdgSurface h (h.unclaimed hfree hmay.2) hmay.1
      (newest_current hnew _) (fun role other x => ?_) rfl rfl
    cases role
    case xdgSurface => exact (insert_get?_eq_some hfresh).trans (by simp [RoleTables.Backs])
    all_goals simp [RoleTables.Backs, RoleTables.xdgClaimed]
  | @xdgGone id =>
    unfold RoleTables.xdgReleased
    cases hentry : f.roles.xdgSurfaces.get? id with
    | none => exact h
    | some surfaceId =>
      have hunbound := RolesKept.unbound .xdgSurface h hentry (by simp)
      refine RolesKept.forgotten .xdgSurface h hentry (fun role other x => ?_) rfl
        (OrdMap.erase_eq_self hunbound).symm
      cases role
      case xdgSurface => exact erase_get?_eq_some.trans (by simp [RoleTables.Backs])
      all_goals simp [RoleTables.Backs]
  | layer hmay hfree hfresh hnew =>
    refine RolesKept.gained .layerSurface h (h.unclaimed hfree hmay.2) hmay.1
      (newest_current hnew _) (fun role other x => ?_) rfl rfl
    cases role
    case layerSurface => exact (insert_get?_eq_some hfresh).trans (by simp [RoleTables.Backs])
    all_goals simp [RoleTables.Backs, RoleTables.layerClaimed]
  | layerGone hentry =>
    refine RolesKept.forgotten .layerSurface h hentry (fun role other x => ?_) rfl rfl
    cases role
    case layerSurface => exact erase_get?_eq_some.trans (by simp [RoleTables.Backs])
    all_goals simp [RoleTables.Backs, RoleTables.layerReleased]
  | nested hmay hsole hfresh hnew =>
    refine RolesKept.gained .subsurface h (h.unclaimed hmay.2 hsole) hmay.1
      (newest_current hnew _) (fun role other x => ?_) rfl rfl
    cases role
    case subsurface => exact (insert_get?_eq_some hfresh).trans (by simp [RoleTables.Backs])
    all_goals simp [RoleTables.Backs, RoleTables.nested]
  | @unnested id =>
    cases hentry : f.roles.subsurfaces.get? id with
    | none =>
      unfold RoleTables.unnested
      rw [OrdMap.erase_eq_self hentry]
      exact h
    | some surfaceId =>
      have hunbound := RolesKept.unbound .subsurface h hentry (by simp)
      have hunclaimed : f.roles.claims.get? surfaceId = none := by
        refine Option.eq_none_iff_forall_ne_some.mpr fun role hrole => ?_
        obtain ⟨hne, other, hother⟩ := (h.claims surfaceId role).mp hrole
        exact hne (h.sole _ _ _ _ _ hother (show f.roles.Backs .subsurface id surfaceId from
          hentry)).1
      refine RolesKept.forgotten .subsurface h hentry (fun role other x => ?_)
        (OrdMap.erase_eq_self hunclaimed).symm (OrdMap.erase_eq_self hunbound).symm
      cases role
      case subsurface => exact erase_get?_eq_some.trans (by simp [RoleTables.Backs])
      all_goals simp [RoleTables.Backs, RoleTables.unnested]

/-- A surface that is destroyed leaves no role where only a layer surface had one. -/
theorem FrameRoles.destroyed (h : FrameRoles f) (hmay : roleTerms.mayDestroy f id) :
    FrameRoles { f.retired id with
      surfaces := f.surfaces.erase id
      roles := f.roles.surfaceGone id } := by
  have hlost : RolesKept f.objects f.surfaces (f.roles.surfaceGone id) f.log := by
    unfold RoleTables.surfaceGone RoleTables.layerClosed
    cases hbound : f.roles.layerBindings.get? id with
    | none =>
      have hfree : ∀ role other, ¬ f.roles.Backs role other id := by
        intro role other hbacks
        cases role
        case xdgSurface => exact hmay.1 other hbacks
        case layerSurface => cases hbound.symm.trans ((h.bindings other id).mp hbacks)
        case subsurface => exact hmay.2 other hbacks
        case popup => exact hbacks
      refine h.lost (fun role other x => ?_) rfl (OrdMap.erase_eq_self hbound).symm
      refine ⟨fun hbacks => ⟨by cases role <;> exact hbacks, fun heq => ?_⟩, fun hbacks => ?_⟩
      · rw [heq] at hbacks
        exact hfree role other (by cases role <;> exact hbacks)
      · cases role <;> exact hbacks.1
    | some layerId =>
      have hentry : f.roles.Backs .layerSurface layerId id := (h.bindings layerId id).mpr hbound
      refine RolesKept.forgotten _ h hentry (fun role other x => ?_) rfl rfl
      cases role
      case layerSurface => exact erase_get?_eq_some.trans (by simp [RoleTables.Backs])
      all_goals simp [RoleTables.Backs]
  have hsubsurfaces : (f.roles.surfaceGone id).subsurfaces = f.roles.subsurfaces := by
    unfold RoleTables.surfaceGone RoleTables.layerClosed
    cases f.roles.layerBindings.get? id <;> rfl
  have hne : ∀ role other x, (f.roles.surfaceGone id).Backs role other x → x ≠ id := by
    rintro role other x hbacks rfl
    by_cases hsub : role = .subsurface
    · rw [hsub] at hbacks
      refine hmay.2 other ?_
      rw [← hsubsurfaces]
      exact hbacks
    · have hclaimed := (hlost.claims x role).mpr ⟨hsub, other, hbacks⟩
      change (f.roles.claims.erase x).get? x = _ at hclaimed
      rw [OrdMap.get?_erase, if_pos rfl] at hclaimed
      cases hclaimed
  refine ⟨hlost.surfaced.removed, hlost.sole, hlost.claims, fun role other x hbacks => ?_,
    fun role other x hbacks => ?_, hlost.bindings⟩
  · exact OrdMap.contains_erase.mpr ⟨hne role other x hbacks, hlost.live role other x hbacks⟩
  · refine (hlost.current role other x hbacks).append ?_
    simpa using hne role other x hbacks

theorem FrameRoles.created (h : FrameRoles f) {object : WireObject}
    (havailable : f.registry.Available id) (hne : object.interface ≠ .wlSurface) :
    FrameRoles (f.registered id object) :=
  RolesKept.grown h (h.surfaced.registered havailable.none hne) (fun _ hlive => hlive)
    (by simp)

theorem FrameRoles.retired (h : FrameRoles f) {interface : Interface}
    (hlive : LiveAs f.objects interface id) (hne : interface ≠ .wlSurface) :
    FrameRoles (f.retired id) := by
  obtain ⟨object, hobject, rfl⟩ := hlive
  refine RolesKept.grown h (h.surfaced.retired hobject hne) (fun _ hlive => hlive)
    fun other hother => ?_
  obtain ⟨surface, hsurface, hinterface⟩ := (h.surfaced other).mpr hother
  simp only [List.mem_singleton, Note.destroyed.injEq]
  rintro rfl
  rw [hobject] at hsurface
  obtain rfl := Option.some.inj hsurface
  exact hne hinterface

/-- Events leave the log longer, by nothing that is destroyed. -/
theorem FrameRoles.foldl_sent (h : FrameRoles f) (messages : List WaylandMessage) :
    FrameRoles (messages.foldl Frame.sent f) := by
  induction messages generalizing f with
  | nil => exact h
  | cons event rest ih =>
    have hsent : FrameRoles (f.sent event) :=
      RolesKept.grown h h.surfaced (fun _ hlive => hlive) (by simp)
    exact ih hsent

theorem frameRoles_stable : Stable roleTerms FrameRoles where
  sent := fun _ event h _ => h.foldl_sent [event]
  registered := fun _ _ _ _ h havailable hplain =>
    h.created havailable (Interface.plain_ne hplain rfl)
  retired := fun _ _ object h hobject hplain =>
    h.retired ⟨object, hobject, rfl⟩ (Interface.plain_ne hplain rfl)
  served := fun _ h _ => h
  announced := by
    intro f h
    have hregistry : FrameRoles { f with registry := f.registry.takeDeleteIdEvents.2 } := h
    exact hregistry.foldl_sent _
  surfaces := fun _ _ h hsame => ⟨h.surfaced.of_contains hsame, h.sole, h.claims,
    fun role id x hbacks => (hsame x).trans (h.live role id x hbacks), h.current, h.bindings⟩
  outputs := fun _ _ h _ => h
  roles := fun _ _ h hchange => h.changed hchange
  serials := fun _ _ h _ => h
  created := fun _ _ _ h havailable _ =>
    RolesKept.grown h (h.surfaced.added havailable.none rfl _)
      (fun _ hlive => OrdMap.contains_insert.mpr (.inr hlive)) (by simp)
  destroyed := fun _ _ h _ hmay => h.destroyed hmay
  moved := fun f id current h _ _ _ => h.foldl_sent (f.moveEvents id current)
  bound := fun _ _ _ _ h _ _ => h
  outputEvent := fun _ _ _ _ _ _ hbanned => absurd hbanned.2 (by simp)
  method := fun _ _ _ _ h havailable => h.created havailable (by simp)
  unmade := fun _ _ _ _ hlasting => hlasting.elim
  pool := fun _ _ _ _ _ h havailable _ => h.created havailable (by simp)
  poolResized := fun _ _ _ _ _ h _ => h
  poolGone := fun _ _ _ h hlive _ => h.retired hlive (by simp)
  buffer := fun _ _ _ _ _ _ _ _ _ _ h havailable _ => h.created havailable (by simp)
  bufferGone := fun _ _ _ h hlive _ => h.retired hlive (by simp)
  undone := by
    intro f id object h havailable
    have hsame : (f.registry.objects.insert id object).erase id = f.registry.objects :=
      erase_insert havailable.none
    have hkept : RolesKept f.objects f.surfaces f.roles
        (f.log ++ [.created id object, .destroyed id]) := by
      refine RolesKept.grown h h.surfaced (fun _ hlive => hlive) fun other hother => ?_
      obtain ⟨surface, hsurface, _⟩ := (h.surfaced other).mpr hother
      simp only [List.mem_cons, Note.destroyed.injEq, List.not_mem_nil, or_false, reduceCtorEq,
        false_or]
      rintro rfl
      cases havailable.none.symm.trans hsurface
    change RolesKept ((f.registry.objects.insert id object).erase id) f.surfaces f.roles
      ((f.log ++ [.created id object]) ++ [.destroyed id])
    rw [hsame, List.append_assoc]
    exact hkept
  seat := fun _ _ h => h
  pointer := fun _ _ _ _ _ h havailable _ _ => h.created havailable (by simp)
  pointerGone := fun _ _ _ h hlive _ => h.retired hlive (by simp)
  keyboard := fun _ _ _ _ _ h havailable _ => h.created havailable (by simp)

theorem frameRoles_lasting : Lasting FrameRoles where
  fresh := by
    intro deferCallbacks deferFeedback
    have hnone : ∀ role id surfaceId,
        ¬ (freshCore deferCallbacks deferFeedback).frame.roles.Backs role id surfaceId := by
      intro role id surfaceId hbacks
      cases role <;> cases hbacks
    refine ⟨freshCore_mirrors .wlSurface (by simp) _ _, fun _ _ _ _ _ hbacks => ?_,
      fun x role => ⟨fun hclaimed => (by cases hclaimed), fun hbacks => ?_⟩,
      fun _ _ _ hbacks => ?_, fun _ _ _ hbacks => ?_,
      fun _ _ => ⟨fun hentry => (by cases hentry), fun hbound => (by cases hbound)⟩⟩
    · exact absurd hbacks (hnone _ _ _)
    · obtain ⟨_, id, hid⟩ := hbacks
      exact absurd hid (hnone _ _ _)
    · exact absurd hbacks (hnone _ _ _)
    · exact absurd hbacks (hnone _ _ _)
  readied := fun _ h => h
  topology := fun _ _ h => h
  acknowledged := by
    intro f id registry h hregistry
    change RolesKept registry.objects f.surfaces f.roles f.log
    rw [acknowledgeDeleteId_objects hregistry]
    exact h

end Stable

/-! What clients see of roles. -/

def SurfaceRoleKind.interface : SurfaceRoleKind → Interface
  | .xdgSurface => .xdgSurface
  | .layerSurface => .zwlrLayerSurfaceV1
  | .subsurface => .wlSubsurface
  | .popup => .xdgPopup

/-- The object is live and gives the surface, as it is there now, the role. -/
structure RoleObject (core : HeadlessWireCore) (role : SurfaceRoleKind) (id surfaceId : Nat) :
    Prop where
  live : LiveAs core.registry.objects role.interface id
  backs : core.roleTables.Backs role id surfaceId
  current : Current core.log surfaceId id

/-- The request destroys a role object. -/
structure EndsRole (core : HeadlessWireCore) (role : SurfaceRoleKind) (message : WaylandMessage) :
    Prop where
  live : LiveAs core.registry.objects role.interface message.header.objectId
  opcode : role.interface.destructor? = some message.header.opcode
  kind : role ≠ .popup

/-- Roles are exclusive, and claimed exactly where there is an object; the destruction of a role
object leaves the claims of all others. -/
structure RolesTracked (core : HeadlessWireCore) : Prop where
  sole : ∀ role role' id id' surfaceId, RoleObject core role id surfaceId →
    RoleObject core role' id' surfaceId → role = role' ∧ id = id'
  claims : ∀ surfaceId role, role = .xdgSurface ∨ role = .layerSurface →
    (core.surfaces.roles.get? surfaceId = some role ↔ ∃ id, RoleObject core role id surfaceId)
  others : ∀ kind message fds environment events core', EndsRole core kind message →
    dispatchWithFds message fds environment core = .ok events core' →
    ∀ role id surfaceId, RoleObject core role id surfaceId → id ≠ message.header.objectId →
      core'.surfaces.roles.get? surfaceId = core.surfaces.roles.get? surfaceId

/-- A live surface that no subsurface is left of. -/
def MayGetRole (core : HeadlessWireCore) (surfaceId : Nat) : Prop :=
  core.surfaces.surfaces.contains surfaceId = true ∧
    ∀ id state, core.subsurface.subsurfaces.get? id = some state → state.surfaceId ≠ surfaceId

/-- No object that gave the surface a role outlives it. -/
def MayGo (core : HeadlessWireCore) (surfaceId : Nat) : Prop :=
  (∀ id state, core.xdgShell.surfaces.get? id = some state → state.wlSurfaceId ≠ surfaceId) ∧
    ∀ id state, core.subsurface.subsurfaces.get? id = some state → state.surfaceId ≠ surfaceId

/-- Role objects are asked for one at a time for live surfaces, and surfaces destroyed last. -/
def Operation.RolesApart (core : HeadlessWireCore) : Operation → Prop
  | .dispatch message _ _ => ∀ object, core.object? message.header.objectId = some object →
    match object.interface with
    | .xdgWmBase => message.header.opcode = 2 →
      MayGetRole core (readU32 (message.payload.drop 4))
    | .zwlrLayerShellV1 => message.header.opcode = 0 →
      MayGetRole core (readU32 (message.payload.drop 4))
    | .wlSubcompositor => message.header.opcode = 1 →
      core.surfaces.surfaces.contains (readU32 (message.payload.drop 4)) = true ∧
        core.surfaces.roles.get? (readU32 (message.payload.drop 4)) = none
    | .wlSurface => message.header.opcode = 0 → MayGo core message.header.objectId
    | _ => True
  | _ => True

section Runs

variable {core : HeadlessWireCore} {client : Client}

theorem roleTables_subsurfaces_ne (core : HeadlessWireCore)
    (h : ∀ id state, core.subsurface.subsurfaces.get? id = some state →
      state.surfaceId ≠ surfaceId) (id : Nat) :
    core.roleTables.subsurfaces.get? id ≠ some surfaceId := by
  intro hentry
  rw [HeadlessWireCore.roleTables, OrdMap.get?_mapVals] at hentry
  obtain ⟨state, hstate, heq⟩ := Option.map_eq_some_iff.mp hentry
  exact h id state hstate heq

theorem roleTables_xdgSurfaces_ne (core : HeadlessWireCore)
    (h : ∀ id state, core.xdgShell.surfaces.get? id = some state →
      state.wlSurfaceId ≠ surfaceId) (id : Nat) :
    core.roleTables.xdgSurfaces.get? id ≠ some surfaceId := by
  intro hentry
  rw [HeadlessWireCore.roleTables, OrdMap.get?_mapVals] at hentry
  obtain ⟨state, hstate, heq⟩ := Option.map_eq_some_iff.mp hentry
  exact h id state hstate heq

theorem mayClaim_of (h : MayGetRole core surfaceId) (fds : List Nat) :
    MayClaim roleTerms (core.readied fds) surfaceId := by
  intro f hsurfaces hroles
  refine ⟨by rw [hsurfaces]; exact h.1, fun other => ?_⟩
  rw [hroles]
  exact roleTables_subsurfaces_ne (core.readied fds) h.2 other

theorem Operation.RolesApart.admitted {operation : Operation} (h : operation.RolesApart core) :
    operation.Admitted roleTerms core := by
  have hunsafe : ¬ roleTerms.safe := id
  cases operation with
  | dispatch message fds environment =>
    intro object args hobject
    have happart := h object hobject
    have hspared : Spared roleTerms.level (core.readied fds) object.interface
        (requestOf message args environment) :=
      ⟨fun _ _ _ _ _ _ _ _ hbanned => absurd hbanned.2 (by simp),
        fun _ _ _ _ _ _ hbanned => absurd hbanned.2 (by simp)⟩
    refine hspared.admits rfl hunsafe (fun _ _ => trivial) (fun _ _ => trivial)
      (fun hinterface hopcode f hinput hroles => ?_) (fun hclaim => ?_)
      (fun hinterface hopcode f hsurfaces hroles => ?_) (fun _ _ => trivial)
      fun _ _ => trivial
    · rw [hinterface] at happart
      have hgo : MayGo core message.header.objectId := happart hopcode
      refine ⟨fun other => ?_, fun other => ?_⟩
      · rw [hroles]
        exact roleTables_xdgSurfaces_ne (core.readied fds) hgo.1 other
      · rw [hroles]
        exact roleTables_subsurfaces_ne (core.readied fds) hgo.2 other
    · rcases hclaim with ⟨hinterface, hopcode⟩ | ⟨hinterface, hopcode⟩
      · rw [hinterface] at happart
        exact mayClaim_of (happart hopcode) fds
      · rw [hinterface] at happart
        exact mayClaim_of (happart hopcode) fds
    · rw [hinterface] at happart
      obtain ⟨hlive, hfree⟩ := happart hopcode
      refine ⟨by rw [hsurfaces]; exact hlive, ?_⟩
      rw [hroles]
      exact hfree
  | acknowledge => trivial
  | reconfigureOutput => exact ⟨fun _ => trivial, fun hsafe => absurd hsafe hunsafe⟩
  | _ => exact fun hsafe => absurd hsafe hunsafe

/-- What backs a surface is an object. -/
theorem Anchored.roleObject_live (h : Anchored none core.anchors) {role : SurfaceRoleKind}
    {id : Nat} (hbacks : core.roleTables.Backs role id surfaceId) :
    LiveAs core.registry.objects role.interface id := by
  have hcontains : ∀ {ν : Type} {table : OrdMap Nat ν} {f : Nat → ν → Nat},
      (table.mapVals f).get? id = some surfaceId → table.contains id = true := by
    intro ν table f hget
    rw [OrdMap.get?_mapVals] at hget
    obtain ⟨state, hstate, _⟩ := Option.map_eq_some_iff.mp hget
    exact OrdMap.contains_iff.mpr ⟨state, hstate⟩
  cases role with
  | xdgSurface => exact h.live .xdgSurface id (hcontains hbacks)
  | layerSurface => exact h.live .zwlrLayerSurfaceV1 id (hcontains hbacks)
  | subsurface => exact h.live .wlSubsurface id (hcontains hbacks)
  | popup => exact hbacks.elim

/-- Of the claims at most those of surfaces that the object backed are gone. -/
def Releases (core : HeadlessWireCore) (id : Nat) (core' : HeadlessWireCore) : Prop :=
  ∀ surfaceId, (∀ role, ¬ core.roleTables.Backs role id surfaceId) →
    core'.surfaces.roles.get? surfaceId = core.surfaces.roles.get? surfaceId

theorem destroyXdgSurface_releases (core : HeadlessWireCore) {id : Nat} :
    Ends Anyhow (handleXdgSurfaceDestroy id) core fun _ core' => Releases core id core' := by
  refine ends_bind.mpr (ends_modify.mpr ((ends_destroyObject trivial).mpr fun _ _ => ?_))
  intro surfaceId hfree
  change (core.withoutXdgSurface id).surfaces.roles.get? surfaceId = _
  unfold HeadlessWireCore.withoutXdgSurface
  cases hstate : core.xdgShell.surfaces.get? id with
  | none => rfl
  | some state =>
    have hne : surfaceId ≠ state.wlSurfaceId := by
      rintro rfl
      refine hfree .xdgSurface ?_
      exact (OrdMap.get?_mapVals _ _ _).trans (by rw [hstate]; rfl)
    exact (OrdMap.get?_erase _ _ _).trans (if_neg hne)

theorem destroyLayerSurface_releases (core : HeadlessWireCore) {id : Nat} :
    Ends Anyhow (destroyLayerSurface id) core fun _ core' => Releases core id core' := by
  refine ends_bind.mpr (ends_get.mpr (ends_bind.mpr ?_))
  refine (ends_lift trivial).mpr ⟨fun destroyed hdestroyed => ?_, False.elim⟩
  obtain ⟨state, hstate, hvalue⟩ := bind_eq_ok.mp hdestroyed
  obtain rfl := Except.ok.inj hvalue
  refine ends_bind.mpr (ends_set.mpr ((ends_destroyObject trivial).mpr fun _ _ => ?_))
  intro surfaceId hfree
  have hne : surfaceId ≠ state.wlSurfaceId := by
    rintro rfl
    refine hfree .layerSurface ?_
    exact (OrdMap.get?_mapVals _ _ _).trans (by rw [orInvalid_eq_ok.mp hstate]; rfl)
  exact (OrdMap.get?_erase _ _ _).trans (if_neg hne)

theorem destroySubsurface_releases (core : HeadlessWireCore) {id : Nat} :
    Ends Anyhow (handleSubsurfaceDestroy id) core fun _ core' => Releases core id core' :=
  ends_bind.mpr (ends_modify.mpr ((ends_destroyObject trivial).mpr fun _ _ _ _ => rfl))

theorem EndsRole.releases {kind : SurfaceRoleKind} (h : EndsRole core kind message) (fds : List Nat)
    (environment : Environment) :
    Ends Anyhow (dispatchWithFds message fds environment) core fun _ core' =>
      Releases core message.header.objectId core' := by
  obtain ⟨⟨interface, version⟩, hobject, hinterface⟩ := h.live
  obtain rfl : interface = kind.interface := hinterface
  refine dispatchWithFds_reaches hobject (fun _ _ _ _ hreleases => hreleases) fun spec args _ _ => ?_
  have hopcode := h.opcode
  cases kind with
  | xdgSurface =>
    have hzero : (requestOf message args environment).opcode = 0 := (Option.some.inj hopcode).symm
    change Ends Anyhow (xdgSurfaceRequest _) _ _
    unfold xdgSurfaceRequest
    rw [hzero]
    exact destroyXdgSurface_releases (core.readied fds)
  | layerSurface =>
    have height : (requestOf message args environment).opcode = 8 := (Option.some.inj hopcode).symm
    change Ends Anyhow (layerSurfaceRequest _) _ _
    unfold layerSurfaceRequest
    rw [height]
    exact destroyLayerSurface_releases (core.readied fds)
  | subsurface =>
    have hzero : (requestOf message args environment).opcode = 0 := (Option.some.inj hopcode).symm
    change Ends Anyhow (subsurfaceRequest _) _ _
    unfold subsurfaceRequest
    rw [hzero]
    exact destroySubsurface_releases (core.readied fds)
  | popup => exact absurd rfl h.kind

theorem Holds.rolesTracked (h : Holds FrameRoles none core) : RolesTracked core where
  sole := fun role role' id id' surfaceId hobject hobject' =>
    h.kept.sole role role' id id' surfaceId hobject.backs hobject'.backs
  claims := by
    intro surfaceId role hrole
    refine (h.kept.claims surfaceId role).trans ⟨?_, ?_⟩
    · rintro ⟨_, id, hbacks⟩
      exact ⟨id, h.anchored.roleObject_live hbacks, hbacks, h.kept.current role id surfaceId hbacks⟩
    · rintro ⟨id, hobject⟩
      refine ⟨?_, id, hobject.backs⟩
      rcases hrole with rfl | rfl <;> simp
  others := by
    intro kind message fds environment events core' hends hdispatch role id surfaceId hobject hne
    refine (hends.releases fds environment).ok hdispatch surfaceId fun role' hbacks => hne ?_
    exact (h.kept.sole role role' id _ surfaceId hobject.backs hbacks).2

/-- Roles are tracked throughout every run that keeps role objects apart. -/
theorem clients_rolesTracked
    (h : clients.Reach (fun client operation => operation.RolesApart client.core) client)
    (hopen : client.fault = none) : RolesTracked client.core := by
  have hsound : Sound roleTerms FrameRoles client :=
    run_sound frameRoles_stable frameRoles_lasting (h.mono fun _ _ happart => happart.admitted)
  exact (hsound.holds hopen).rolesTracked

end Runs

/-! The client of the layer surface, and one whose surface becomes a subsurface and an extended
surface. -/

theorem rolesApart_other (object : WireObject) {core : HeadlessWireCore}
    (hobject : core.object? message.header.objectId = some object)
    (hother : object.interface ∉ [.xdgWmBase, .zwlrLayerShellV1, .wlSubcompositor, .wlSurface]) :
    (Operation.dispatch message [] stillEnvironment).RolesApart core := by
  intro found hfound
  obtain rfl := Option.some.inj (hobject.symm.trans hfound)
  simp only [List.mem_cons, List.not_mem_nil, or_false, not_or] at hother
  obtain ⟨hbase, hlayer, hsub, hsurface⟩ := hother
  cases hinterface : object.interface
  case xdgWmBase => exact absurd hinterface hbase
  case zwlrLayerShellV1 => exact absurd hinterface hlayer
  case wlSubcompositor => exact absurd hinterface hsub
  case wlSurface => exact absurd hinterface hsurface
  all_goals trivial

theorem layerClient_apart :
    clients.Reach (fun client operation => operation.RolesApart client.core) layerClient := by
  refine .next _ (.next _ (.next _ (.next _ (.next _ (.init ⟨true, true, rfl⟩)
    ?_) ?_) ?_) ?_) ?_
  · exact rolesApart_other ⟨.wlDisplay, 1⟩ (by decide +kernel) (by decide)
  · exact rolesApart_other ⟨.wlRegistry, 1⟩ (by decide +kernel) (by decide)
  · exact rolesApart_other ⟨.wlRegistry, 1⟩ (by decide +kernel) (by decide)
  · exact rolesApart_other ⟨.wlCompositor, 4⟩ (by decide +kernel) (by decide)
  · intro object hobject
    have hshell : object = ⟨.zwlrLayerShellV1, 4⟩ :=
      Option.some.inj (hobject.symm.trans (by decide +kernel))
    rw [hshell]
    intro _
    refine ⟨by decide +kernel, fun id state hstate => ?_⟩
    have hempty : (clients.run { core := freshCore true true }
        (layerOperations.take 4)).core.subsurface.subsurfaces.keys = [] := by decide +kernel
    have hin : id ∈ (clients.run { core := freshCore true true }
        (layerOperations.take 4)).core.subsurface.subsurfaces.keys :=
      OrdMap.mem_keys.mpr ⟨state, hstate⟩
    rw [hempty] at hin
    cases hin

theorem layerClient_rolesTracked : RolesTracked layerClient.core :=
  clients_rolesTracked layerClient_apart (by decide +kernel)

/-- A subsurface, object 8, and an extended surface, object 9, of the surface 5. -/
def nestedClient : Client :=
  clients.run { core := freshCore true true } (requests [.new displayId 1 (writeU32 2),
    bindGlobal 1 3 4 .wlCompositor, bindGlobal 6 4 1 .wlSubcompositor,
    bindGlobal 4 6 6 .xdgWmBase, .new 3 0 (writeU32 5), .new 3 0 (writeU32 7),
    .new 4 1 (writeU32 8 ++ writeU32 5 ++ writeU32 7), .new 6 2 (writeU32 9 ++ writeU32 5)])

theorem nestedClient_untracked : ∃ client, clients.Reachable client ∧ client.fault = none ∧
    ¬ RolesTracked client.core := by
  have hinit : clients.Reachable { core := freshCore true true } := .init ⟨true, true, rfl⟩
  have hreach : clients.Reachable nestedClient := hinit.run _
  refine ⟨nestedClient, hreach, by decide +kernel, fun htracked => ?_⟩
  have hsub : RoleObject nestedClient.core .subsurface 8 5 :=
    ⟨⟨⟨.wlSubsurface, 1⟩, by decide +kernel, rfl⟩, by change _ = _; decide +kernel,
      nestedClient.core.log.dropLast.dropLast, ⟨.wlSubsurface, 1⟩,
      [.created 9 ⟨.xdgSurface, 6⟩], by decide +kernel, by decide⟩
  have hxdg : RoleObject nestedClient.core .xdgSurface 9 5 :=
    ⟨⟨⟨.xdgSurface, 6⟩, by decide +kernel, rfl⟩, by change _ = _; decide +kernel,
      nestedClient.core.log.dropLast, ⟨.xdgSurface, 6⟩, [], by decide +kernel, by decide⟩
  have hsame := htracked.sole _ _ _ _ _ hsub hxdg
  cases hsame.1

end TuffXwin.Headless
