import TuffXwin.Headless.Events
import TuffXwin.Lib.Outcome

/-! What the managers keep are objects of the registry. An invariant of the core is one of a
frame of it; it holds after every handler once it holds after the moves handlers are made
of: events, registrations, removals, and what is done to surfaces, outputs and input. -/

namespace TuffXwin.Headless
open Lib
open WaylandWire (WireError WireArg WaylandMessage readU32 displayId encodeEvent deleteIdEvent)

variable {interface : Interface} {other : Nat}
variable {event : WaylandMessage}

/-- The roles of surfaces: those that are claimed, and the surface of every object that has to
do with one. -/
structure RoleTables where
  claims : OrdMap Nat SurfaceRoleKind
  xdgSurfaces : OrdMap Nat Nat
  layerSurfaces : OrdMap Nat Nat
  layerBindings : OrdMap Nat Nat
  subsurfaces : OrdMap Nat Nat

namespace RoleTables

def xdgClaimed (t : RoleTables) (id surfaceId : Nat) : RoleTables :=
  { t with
    claims := t.claims.insert surfaceId .xdgSurface
    xdgSurfaces := t.xdgSurfaces.insert id surfaceId }

def xdgReleased (t : RoleTables) (id : Nat) : RoleTables :=
  match t.xdgSurfaces.get? id with
  | none => t
  | some surfaceId => { t with
      claims := t.claims.erase surfaceId
      xdgSurfaces := t.xdgSurfaces.erase id }

def layerClaimed (t : RoleTables) (id surfaceId : Nat) : RoleTables :=
  { t with
    claims := t.claims.insert surfaceId .layerSurface
    layerSurfaces := t.layerSurfaces.insert id surfaceId
    layerBindings := t.layerBindings.insert surfaceId id }

def layerReleased (t : RoleTables) (id surfaceId : Nat) : RoleTables :=
  { t with
    claims := t.claims.erase surfaceId
    layerSurfaces := t.layerSurfaces.erase id
    layerBindings := t.layerBindings.erase surfaceId }

def nested (t : RoleTables) (id surfaceId : Nat) : RoleTables :=
  { t with subsurfaces := t.subsurfaces.insert id surfaceId }

def unnested (t : RoleTables) (id : Nat) : RoleTables :=
  { t with subsurfaces := t.subsurfaces.erase id }

/-- The layer surface that is bound to the surface is closed. -/
def layerClosed (t : RoleTables) (surfaceId : Nat) : RoleTables :=
  match t.layerBindings.get? surfaceId with
  | none => t
  | some id => { t with
      layerSurfaces := t.layerSurfaces.erase id
      layerBindings := t.layerBindings.erase surfaceId }

def surfaceGone (t : RoleTables) (surfaceId : Nat) : RoleTables :=
  { t.layerClosed surfaceId with claims := t.claims.erase surfaceId }

end RoleTables

/-- The serials that extended surfaces were configured with last, and the next one. -/
structure Serials where
  configured : OrdMap Nat Nat
  next : Nat

/-- A surface has the serial it had, or none yet, and the next serial is a word. -/
def SerialsFrom (before after : Serials) : Prop :=
  (∀ id serial, after.configured.get? id = some serial →
    serial = 0 ∨ before.configured.get? id = some serial) ∧
  (before.next ≤ u32Max → after.next ≤ u32Max)

namespace SerialsFrom

variable {before between after : Serials} {id : Nat}

theorem refl (serials : Serials) : SerialsFrom serials serials :=
  ⟨fun _ _ hserial => .inr hserial, fun h => h⟩

theorem trans (h : SerialsFrom before between) (h' : SerialsFrom between after) :
    SerialsFrom before after := by
  refine ⟨fun id serial hserial => ?_, fun hword => h'.2 (h.2 hword)⟩
  cases h'.1 id serial hserial with
  | inl hnone => exact .inl hnone
  | inr hbetween => exact h.1 id serial hbetween

theorem created (serials : Serials) (id : Nat) :
    SerialsFrom serials { serials with configured := serials.configured.insert id 0 } := by
  refine ⟨fun other serial hserial => ?_, fun h => h⟩
  rw [OrdMap.get?_insert] at hserial
  split_ifs at hserial
  · exact .inl (Option.some.inj hserial).symm
  · exact .inr hserial

theorem erased (serials : Serials) (id : Nat) :
    SerialsFrom serials { serials with configured := serials.configured.erase id } := by
  refine ⟨fun other serial hserial => ?_, fun h => h⟩
  rw [OrdMap.get?_erase] at hserial
  split_ifs at hserial
  exact .inr hserial

end SerialsFrom

/-- The outputs of the topology, the names of their globals, and the next name. -/
abbrev Topology := List RealOutput × OrdMap String Nat × Nat

/-- The part of the core that invariants of its runs speak of. -/
structure Frame where
  registry : WireObjectRegistry
  shm : ShmManager
  input : SeatManager
  surfaces : OrdMap Nat SurfaceInstance
  outputs : OrdMap Nat OutputState
  methods : OrdMap Nat Nat
  membership : OrdMap Nat (OrdSet Nat)
  roles : RoleTables
  serials : Serials
  topology : Topology
  eventsOut : List WaylandMessage
  log : List Note

/-- The objects, the globals, and the tables whose ids receive events. -/
structure Anchors where
  objects : OrdMap Nat WireObject
  globals : List WireGlobal
  registries : OrdSet Nat
  surfaces : OrdMap Nat SurfaceInstance
  outputs : OrdMap Nat OutputState
  feedbacks : OrdMap Nat Nat
  layerSurfaces : OrdMap Nat LayerSurfaceState
  xdgSurfaces : OrdMap Nat XdgSurfaceState
  subsurfaces : OrdMap Nat SubsurfaceState
  locked : OrdMap Nat PointerConstraintState
  confined : OrdMap Nat PointerConstraintState
  inputs : OrdMap Nat TextInputState
  methods : OrdMap Nat Nat
  inhibitors : OrdMap Nat Nat
  devices : OrdMap Nat Nat
  sources : OrdMap Nat DataSource
  offers : OrdMap Nat DataOffer

variable {a : Anchors}

def HeadlessWireCore.roleTables (core : HeadlessWireCore) : RoleTables where
  claims := core.surfaces.roles
  xdgSurfaces := core.xdgShell.surfaces.mapVals fun _ state => state.wlSurfaceId
  layerSurfaces := core.layerShell.surfaces.mapVals fun _ state => state.wlSurfaceId
  layerBindings := core.layerShell.surfaceBindings
  subsurfaces := core.subsurface.subsurfaces.mapVals fun _ state => state.surfaceId

def XdgShellManager.serials (shell : XdgShellManager) : Serials where
  configured := shell.surfaces.mapVals fun _ state => state.configureSerial
  next := shell.nextSerial

def HeadlessWireCore.topology (core : HeadlessWireCore) : Topology :=
  (core.realOutputs, core.runtimeGlobalNames, core.nextGlobalName)

def HeadlessWireCore.frame (core : HeadlessWireCore) : Frame where
  registry := core.registry
  shm := core.shm
  input := core.input
  surfaces := core.surfaces.surfaces
  outputs := core.output.outputs
  methods := core.inputMethod.methods
  membership := core.surfaceOutputMembership
  roles := core.roleTables
  serials := core.xdgShell.serials
  topology := core.topology
  eventsOut := core.eventsOut
  log := core.log

def HeadlessWireCore.anchors (core : HeadlessWireCore) : Anchors where
  objects := core.registry.objects
  globals := core.globals
  registries := core.registryObjects
  surfaces := core.surfaces.surfaces
  outputs := core.output.outputs
  feedbacks := core.presentation.feedbacks
  layerSurfaces := core.layerShell.surfaces
  xdgSurfaces := core.xdgShell.surfaces
  subsurfaces := core.subsurface.subsurfaces
  locked := core.pointerConstraints.locked
  confined := core.pointerConstraints.confined
  inputs := core.textInput.inputs
  methods := core.inputMethod.methods
  inhibitors := core.idleInhibit.inhibitors
  devices := core.dataDevice.devices
  sources := core.dataDevice.sources
  offers := core.dataDevice.offers

namespace Frame

def objects (f : Frame) : OrdMap Nat WireObject := f.registry.objects

def sent (f : Frame) (event : WaylandMessage) : Frame :=
  { f with
    eventsOut := f.eventsOut ++ [event]
    log := f.log ++ [.sent event (f.objects.get? event.header.objectId)] }

def registered (f : Frame) (id : Nat) (object : WireObject) : Frame :=
  { f with
    registry := f.registry.registered id object
    log := f.log ++ [.created id object] }

def retired (f : Frame) (id : Nat) : Frame :=
  { f with
    registry := f.registry.retired id
    log := f.log ++ [.destroyed id] }

/-- The next id of the server is given away. -/
def served (f : Frame) : Frame :=
  { f with registry := { f.registry with serverId := f.registry.serverId + 1 } }

/-- The ids that are free to be deleted are announced. -/
def announced (f : Frame) : Frame :=
  (f.registry.takeDeleteIdEvents.1.map deleteIdEvent).foldl sent
    { f with registry := f.registry.takeDeleteIdEvents.2 }

def membershipOf (f : Frame) (surfaceId : Nat) : OrdSet Nat :=
  (f.membership.get? surfaceId).getD OrdMap.empty

/-- The events of a change of the outputs of a surface. -/
def moveEvents (f : Frame) (surfaceId : Nat) (current : OrdSet Nat) : List WaylandMessage :=
  enterEvents surfaceId (current.difference (f.membershipOf surfaceId)) ++
    leaveEvents surfaceId ((f.membershipOf surfaceId).difference current)

def moved (f : Frame) (surfaceId : Nat) (current : OrdSet Nat) : Frame :=
  { (f.moveEvents surfaceId current).foldl sent f with
    membership := f.membership.insert surfaceId current }

end Frame

/-- The id is kept as that of an object of the interface; the callbacks of a surface that is
being destroyed do not count. -/
def Anchors.keeps (a : Anchors) (dying : Option Nat) : Interface → Nat → Prop
  | .wlRegistry, id => a.registries.contains id = true
  | .wlSurface, id => a.surfaces.contains id = true
  | .wlOutput, id => a.outputs.contains id = true
  | .wlCallback, id =>
    ∃ surfaceId surface, dying ≠ some surfaceId ∧
      a.surfaces.get? surfaceId = some surface ∧ id ∈ surface.callbacks
  | .wpPresentationFeedback, id => a.feedbacks.contains id = true
  | .zwlrLayerSurfaceV1, id => a.layerSurfaces.contains id = true
  | .xdgSurface, id => a.xdgSurfaces.contains id = true
  | .wlSubsurface, id => a.subsurfaces.contains id = true
  | .zwpLockedPointerV1, id => a.locked.contains id = true
  | .zwpConfinedPointerV1, id => a.confined.contains id = true
  | .zwpTextInputV3, id => a.inputs.contains id = true
  | .zwpInputMethodV2, id => a.methods.contains id = true
  | .zwpIdleInhibitorV1, id => a.inhibitors.contains id = true
  | _, _ => False

/-- The id is one of data exchange, whatever has become of its object. -/
def Anchors.Peer (a : Anchors) (id : Nat) : Prop :=
  a.devices.contains id = true ∨ a.sources.contains id = true ∨
    ∃ offerId offer, a.offers.get? offerId = some offer ∧ offer.sourceId = some id

def LiveAs (objects : OrdMap Nat WireObject) (interface : Interface) (id : Nat) : Prop :=
  ∃ object, objects.get? id = some object ∧ object.interface = interface

/-- A callback belongs to one surface, once. -/
structure SoleCallbacks (surfaces : OrdMap Nat SurfaceInstance) : Prop where
  unique : ∀ a b surfaceA surfaceB id, surfaces.get? a = some surfaceA →
    surfaces.get? b = some surfaceB → id ∈ surfaceA.callbacks → id ∈ surfaceB.callbacks → a = b
  nodup : ∀ id surface, surfaces.get? id = some surface → surface.callbacks.Nodup

/-- Objects that come and go with the registry alone, as far as the frame is concerned. -/
def Interface.plain : Interface → Bool
  | .wlDisplay | .wlSurface | .zwpInputMethodV2 | .wlShmPool | .wlBuffer | .wlPointer
  | .wlKeyboard => false
  | _ => true

structure Anchored (dying : Option Nat) (a : Anchors) : Prop where
  live : ∀ interface id, a.keeps dying interface id → LiveAs a.objects interface id
  sole : SoleCallbacks a.surfaces
  globals : ∀ global ∈ a.globals, global.interface.plain = true
  peers : ∀ id, a.Peer id → id ≠ displayId
  root : a.objects.get? displayId = some ⟨.wlDisplay, 1⟩
  display : ∀ id, LiveAs a.objects .wlDisplay id → id = displayId

/-- How much is asked of an event: that it is not for certain objects, or that the interface
of its object declares it. -/
inductive Level
  | off (banned : Interface → Bool)
  | declared

/-- The object is one that events are kept off. -/
def WireObject.Banned (object : WireObject) (banned : Interface → Bool) : Prop :=
  object.interface.quiet = true ∧ banned object.interface = true

def Fine (level : Level) (event : WaylandMessage) (target : Option WireObject) : Prop :=
  match level with
  | .off banned => ∀ object, target = some object → ¬ object.Banned banned
  | .declared => ∃ object, target = some object ∧ WellFormed event object.interface

theorem Fine.of_wellFormed {level : Level} {object : WireObject}
    (h : WellFormed event object.interface) (hquiet : object.interface.quiet = false) :
    Fine level event (some object) := by
  cases level with
  | off banned =>
    intro other hother hbanned
    obtain rfl := Option.some.inj hother
    rw [hbanned.1] at hquiet
    cases hquiet
  | declared => exact ⟨object, rfl, h⟩

/-- What an invariant asks of the runs it is for: of their events, when surfaces may come and
go, claim roles and be nested, and pointers may be created, whether outputs may be bound and
extended surfaces configured, whether runs go on after a request has failed, and that no request
panics. -/
structure Terms where
  level : Level
  mayCreate : Frame → Nat → Prop := fun _ _ => True
  mayDestroy : Frame → Nat → Prop := fun _ _ => True
  mayClaim : Frame → Nat → Prop := fun _ _ => True
  mayNest : Frame → Nat → Prop := fun _ _ => True
  mayPoint : Frame → Prop := fun _ => True
  mayBind : Prop := True
  mayConfigure : Prop := True
  lasting : Prop := False
  safe : Prop := False

/-- The object was registered just now. -/
def Frame.Newest (f : Frame) (id : Nat) : Prop :=
  ∃ log object, f.log = log ++ [.created id object]

/-- A change of the roles of surfaces. A claim without its object is left only by a request that
fails. -/
inductive RoleChange (terms : Terms) (f : Frame) : RoleTables → Prop
  | half {surfaceId : Nat} {role : SurfaceRoleKind} (hlasting : terms.lasting) :
    RoleChange terms f { f.roles with claims := f.roles.claims.insert surfaceId role }
  | xdg {id surfaceId : Nat} (hmay : terms.mayClaim f surfaceId)
    (hfree : f.roles.claims.get? surfaceId = none) (hfresh : f.roles.xdgSurfaces.get? id = none)
    (hnew : f.Newest id) :
    RoleChange terms f (f.roles.xdgClaimed id surfaceId)
  | xdgGone {id : Nat} : RoleChange terms f (f.roles.xdgReleased id)
  | layer {id surfaceId : Nat} (hmay : terms.mayClaim f surfaceId)
    (hfree : f.roles.claims.get? surfaceId = none)
    (hfresh : f.roles.layerSurfaces.get? id = none) (hnew : f.Newest id) :
    RoleChange terms f (f.roles.layerClaimed id surfaceId)
  | layerGone {id surfaceId : Nat} (hentry : f.roles.layerSurfaces.get? id = some surfaceId) :
    RoleChange terms f (f.roles.layerReleased id surfaceId)
  | nested {id surfaceId : Nat} (hmay : terms.mayNest f surfaceId)
    (hsole : ∀ other, f.roles.subsurfaces.get? other ≠ some surfaceId)
    (hfresh : f.roles.subsurfaces.get? id = none) (hnew : f.Newest id) :
    RoleChange terms f (f.roles.nested id surfaceId)
  | unnested {id : Nat} : RoleChange terms f (f.roles.unnested id)

/-- The moves after which an invariant has to hold again. -/
structure Stable (terms : Terms) (J : Frame → Prop) : Prop where
  sent : ∀ f event, J f → Fine terms.level event (f.objects.get? event.header.objectId) →
    J (f.sent event)
  registered : ∀ f id interface version, J f → f.registry.Available id →
    interface.plain = true → J (f.registered id ⟨interface, version⟩)
  retired : ∀ f id object, J f → f.objects.get? id = some object →
    object.interface.plain = true → J (f.retired id)
  served : ∀ f, J f → f.registry.serverId < u32Max → J f.served
  announced : ∀ f, J f → J f.announced
  surfaces : ∀ f surfaces, J f →
    (∀ id, OrdMap.contains surfaces id = f.surfaces.contains id) →
    J { f with surfaces := surfaces }
  outputs : ∀ f outputs, J f →
    (∀ id, OrdMap.contains outputs id = true → f.outputs.contains id = true) →
    J { f with outputs := outputs }
  created : ∀ f id version, J f → f.registry.Available id → terms.mayCreate f id →
    J { f.registered id ⟨.wlSurface, version⟩ with
      surfaces := f.surfaces.insert id {} }
  destroyed : ∀ f id, J f → LiveAs f.objects .wlSurface id → terms.mayDestroy f id →
    J { f.retired id with
      surfaces := f.surfaces.erase id
      roles := f.roles.surfaceGone id }
  roles : ∀ f roles, J f → RoleChange terms f roles → J { f with roles := roles }
  serials : ∀ f serials, J f → terms.mayConfigure ∨ SerialsFrom f.serials serials →
    J { f with serials := serials }
  moved : ∀ f id current, J f → f.surfaces.contains id = true →
    LiveAs f.objects .wlSurface id →
    (∀ output, OrdMap.contains current output = true → f.outputs.contains output = true) →
    J (f.moved id current)
  bound : ∀ f id output, terms.mayBind → J f → id ≤ u32Max → LiveAs f.objects .wlOutput id →
    J { f with outputs := f.outputs.insert id output }
  outputEvent : ∀ event object, terms.mayBind → object.interface = .wlOutput →
    Fine terms.level event (some object)
  method : ∀ f id version seat, J f → f.registry.Available id →
    J { f.registered id ⟨.zwpInputMethodV2, version⟩ with
      methods := f.methods.insert id seat }
  unmade : ∀ f id interface version, terms.lasting → J f → f.registry.Available id →
    interface = .zwpInputMethodV2 ∨ interface = .wlPointer ∨ interface = .wlKeyboard →
    J (f.registered id ⟨interface, version⟩)
  pool : ∀ f id version size shm, J f → f.registry.Available id →
    f.shm.createPoolFromFake id size = .ok shm ∨
      (∃ fd, f.shm.createPoolFromFd id fd size = .ok shm) →
    J { f.registered id ⟨.wlShmPool, version⟩ with shm := shm }
  poolResized : ∀ f id fileSize size shm, J f →
    f.shm.resizePool fileSize id size = .ok shm → J { f with shm := shm }
  poolGone : ∀ f id shm, J f → LiveAs f.objects .wlShmPool id →
    f.shm.destroyPool id = .ok shm → J { f.retired id with shm := shm }
  buffer : ∀ f id version poolId offset width height stride format shm, J f →
    f.registry.Available id →
    f.shm.createBuffer id poolId offset width height stride format = .ok shm →
    J { f.registered id ⟨.wlBuffer, version⟩ with shm := shm }
  bufferGone : ∀ f id shm, J f → LiveAs f.objects .wlBuffer id →
    f.shm.destroyBuffer id = .ok shm → J { f.retired id with shm := shm }
  undone : ∀ f id object, J f → f.registry.Available id → J ((f.registered id object).retired id)
  seat : ∀ f id, J f → J { f with input := f.input.createSeat id }
  pointer : ∀ f id version seat input, J f → f.registry.Available id → terms.mayPoint f →
    f.input.getPointer seat id = .ok input →
    J { f.registered id ⟨.wlPointer, version⟩ with
      input := match f.surfaces.keys.max? with
        | none => input
        | some surfaceId => input.setPointerFocus id (some surfaceId) 0 0 }
  pointerGone : ∀ f id input, J f → LiveAs f.objects .wlPointer id →
    f.input.releasePointer id = .ok input → J { f.retired id with input := input }
  keyboard : ∀ f id version seat input, J f → f.registry.Available id →
    f.input.getKeyboard seat id = .ok input →
    J { f.registered id ⟨.wlKeyboard, version⟩ with input := input }

/-- The invariant and what it rests on. -/
structure Holds (J : Frame → Prop) (dying : Option Nat) (core : HeadlessWireCore) : Prop where
  anchored : Anchored dying core.anchors
  kept : J core.frame

section Moves

variable {terms : Terms} {J : Frame → Prop} {dying : Option Nat} {core core' : HeadlessWireCore}
  {id : Nat} {object : WireObject}
variable {objects : OrdMap Nat WireObject}

theorem Holds.live (h : Holds J dying core) (interface : Interface)
    (hkeeps : core.anchors.keeps dying interface id) :
    LiveAs core.registry.objects interface id :=
  h.anchored.live interface id hkeeps

/-- A change of what neither the frame nor the anchors show. -/
theorem Holds.of_same (h : Holds J dying core) (hanchors : core'.anchors = core.anchors)
    (hframe : core'.frame = core.frame) : Holds J dying core' := by
  refine ⟨?_, ?_⟩
  · rw [hanchors]
    exact h.anchored
  · rw [hframe]
    exact h.kept

/-- Tables that keep no more than before, or only what is live. -/
theorem Anchored.of_keeps {a' : Anchors} (h : Anchored dying a) (hobjects : a'.objects = a.objects)
    (hsurfaces : a'.surfaces = a.surfaces) (hglobals : a'.globals = a.globals)
    (hpeers : ∀ id, a'.Peer id → a.Peer id) (hkeeps : ∀ interface id, a'.keeps dying interface id →
      a.keeps dying interface id ∨ LiveAs a.objects interface id) : Anchored dying a' where
  live := by
    intro interface id hkept
    rw [hobjects]
    cases hkeeps interface id hkept with
    | inl hold => exact h.live interface id hold
    | inr hnew => exact hnew
  sole := by
    rw [hsurfaces]
    exact h.sole
  globals := by
    rw [hglobals]
    exact h.globals
  peers := fun id hpeer => h.peers id (hpeers id hpeer)
  root := by
    rw [hobjects]
    exact h.root
  display := by
    rw [hobjects]
    exact h.display

theorem Holds.anchored_of_keeps (h : Holds J dying core)
    (hobjects : core'.registry.objects = core.registry.objects)
    (hsurfaces : core'.surfaces.surfaces = core.surfaces.surfaces)
    (hglobals : core'.globals = core.globals) (hdata : core'.dataDevice = core.dataDevice)
    (hkeeps : ∀ interface id, core'.anchors.keeps dying interface id →
      core.anchors.keeps dying interface id ∨ LiveAs core.registry.objects interface id) :
    Anchored dying core'.anchors := by
  refine h.anchored.of_keeps hobjects hsurfaces hglobals (fun id hpeer => ?_) hkeeps
  unfold Anchors.Peer HeadlessWireCore.anchors at hpeer ⊢
  rw [hdata] at hpeer
  exact hpeer

theorem Holds.of_keeps (h : Holds J dying core) (hframe : core'.frame = core.frame)
    (hglobals : core'.globals = core.globals) (hdata : core'.dataDevice = core.dataDevice)
    (hkeeps : ∀ interface id, core'.anchors.keeps dying interface id →
      core.anchors.keeps dying interface id ∨ LiveAs core.registry.objects interface id) :
    Holds J dying core' := by
  refine ⟨h.anchored_of_keeps (congrArg Frame.objects hframe) (congrArg Frame.surfaces hframe)
    hglobals hdata hkeeps, ?_⟩
  rw [hframe]
  exact h.kept

/-- The roles and the serials of surfaces change, and of the rest of the frame nothing. -/
theorem Holds.of_shell (roles : RoleTables) (serials : Serials) (hJ : Stable terms J)
    (h : Holds J dying core) (hchange : RoleChange terms core.frame roles)
    (hserials : SerialsFrom core.xdgShell.serials serials)
    (hframe : core'.frame = { core.frame with roles := roles, serials := serials })
    (hglobals : core'.globals = core.globals) (hdata : core'.dataDevice = core.dataDevice)
    (hkeeps : ∀ interface id, core'.anchors.keeps dying interface id →
      core.anchors.keeps dying interface id ∨ LiveAs core.registry.objects interface id) :
    Holds J dying core' := by
  refine ⟨h.anchored_of_keeps (congrArg Frame.objects hframe) (congrArg Frame.surfaces hframe)
    hglobals hdata hkeeps, ?_⟩
  rw [hframe]
  have hroles := hJ.roles core.frame roles h.kept hchange
  exact hJ.serials { core.frame with roles := roles } serials hroles (.inr hserials)

/-- The roles of surfaces change. -/
theorem Holds.of_roles (roles : RoleTables) (hJ : Stable terms J) (h : Holds J dying core)
    (hchange : RoleChange terms core.frame roles)
    (hframe : core'.frame = { core.frame with roles := roles })
    (hglobals : core'.globals = core.globals) (hdata : core'.dataDevice = core.dataDevice)
    (hkeeps : ∀ interface id, core'.anchors.keeps dying interface id →
      core.anchors.keeps dying interface id ∨ LiveAs core.registry.objects interface id) :
    Holds J dying core' :=
  h.of_shell roles _ hJ hchange (.refl _) hframe hglobals hdata hkeeps

/-- The serials of surfaces change. -/
theorem Holds.of_serials (serials : Serials) (hJ : Stable terms J) (h : Holds J dying core)
    (hchange : terms.mayConfigure ∨ SerialsFrom core.xdgShell.serials serials)
    (hframe : core'.frame = { core.frame with serials := serials })
    (hglobals : core'.globals = core.globals) (hdata : core'.dataDevice = core.dataDevice)
    (hkeeps : ∀ interface id, core'.anchors.keeps dying interface id →
      core.anchors.keeps dying interface id ∨ LiveAs core.registry.objects interface id) :
    Holds J dying core' := by
  refine ⟨h.anchored_of_keeps (congrArg Frame.objects hframe) (congrArg Frame.surfaces hframe)
    hglobals hdata hkeeps, ?_⟩
  rw [hframe]
  exact hJ.serials core.frame serials h.kept hchange

/-- Data exchange never uses the id of the display. -/
theorem Holds.dataDevice (h : Holds J dying core) {dataDevice : DataDeviceManager}
    (hpeers : ∀ id, { core.anchors with
      devices := dataDevice.devices
      sources := dataDevice.sources
      offers := dataDevice.offers }.Peer id → core.anchors.Peer id ∨ id ≠ displayId) :
    Holds J dying { core with dataDevice := dataDevice } := by
  refine ⟨⟨?_, h.anchored.sole, h.anchored.globals, fun id hpeer => ?_, h.anchored.root,
    h.anchored.display⟩, h.kept⟩
  · intro interface id hkeeps
    exact h.anchored.live interface id (by cases interface <;> exact hkeeps)
  · cases hpeers id hpeer with
    | inl hold => exact h.anchored.peers id hold
    | inr hne => exact hne

theorem Holds.pushed (hJ : Stable terms J) (h : Holds J dying core)
    (hfine : Fine terms.level event (core.object? event.header.objectId)) :
    Holds J dying (core.pushed event) :=
  ⟨h.anchored, hJ.sent core.frame event h.kept hfine⟩

/-- Events change nothing but the queue and the log. -/
theorem foldl_pushed (messages : List WaylandMessage) (core : HeadlessWireCore) :
    ∃ eventsOut log, messages.foldl HeadlessWireCore.pushed core =
      { core with eventsOut := eventsOut, log := log } := by
  induction messages generalizing core with
  | nil => exact ⟨_, _, rfl⟩
  | cons event rest ih => exact ih (core.pushed event)

theorem object?_foldl_pushed (messages : List WaylandMessage) (core : HeadlessWireCore) :
    (messages.foldl HeadlessWireCore.pushed core).registry = core.registry := by
  induction messages generalizing core with
  | nil => rfl
  | cons event rest ih => exact ih (core.pushed event)

theorem Holds.pushedAll (hJ : Stable terms J) (h : Holds J dying core)
    {messages : List WaylandMessage} (hfine : ∀ event ∈ messages,
      Fine terms.level event (core.object? event.header.objectId)) :
    Holds J dying (messages.foldl HeadlessWireCore.pushed core) := by
  induction messages generalizing core with
  | nil => exact h
  | cons event rest ih =>
    have hfirst := h.pushed hJ (hfine event List.mem_cons_self)
    exact ih hfirst fun e he => hfine e (List.mem_cons_of_mem _ he)

theorem LiveAs.registered (h : LiveAs objects interface other) (hnone : objects.get? id = none) :
    LiveAs (objects.insert id object) interface other := by
  obtain ⟨o, ho, hinterface⟩ := h
  have hne : other ≠ id := by
    intro heq
    rw [heq, hnone] at ho
    cases ho
  exact ⟨o, by rw [OrdMap.get?_insert_ne _ _ hne, ho], hinterface⟩

theorem LiveAs.retired (h : LiveAs objects interface other) (hne : other ≠ id) :
    LiveAs (objects.erase id) interface other := by
  obtain ⟨o, ho, hinterface⟩ := h
  exact ⟨o, by rw [OrdMap.get?_erase, if_neg hne, ho], hinterface⟩

/-- An object that was live before or is the new one. -/
theorem LiveAs.of_registered (h : LiveAs (objects.insert id object) interface other) :
    other = id ∧ object.interface = interface ∨ LiveAs objects interface other := by
  obtain ⟨o, ho, hinterface⟩ := h
  by_cases heq : other = id
  · rw [heq] at ho
    obtain rfl := Option.some.inj ((OrdMap.get?_insert_self _ _ _).symm.trans ho)
    exact .inl ⟨heq, hinterface⟩
  · exact .inr ⟨o, (OrdMap.get?_insert_ne _ _ heq).symm.trans ho, hinterface⟩

theorem LiveAs.of_retired (h : LiveAs (objects.erase id) interface other) :
    other ≠ id ∧ LiveAs objects interface other := by
  obtain ⟨o, ho, hinterface⟩ := h
  rw [OrdMap.get?_erase] at ho
  split_ifs at ho with heq
  exact ⟨heq, o, ho, hinterface⟩

theorem WireObjectRegistry.Available.none {registry : WireObjectRegistry}
    (h : registry.Available id) : registry.objects.get? id = none := by
  have hcontains := h.2.1
  unfold OrdMap.contains at hcontains
  simpa using hcontains

theorem Anchored.registered (h : Anchored dying a) (hnone : a.objects.get? id = none)
    (hdisplay : object.interface ≠ .wlDisplay) :
    Anchored dying { a with objects := a.objects.insert id object } := by
  refine ⟨fun interface other hkeeps => ?_, h.sole, h.globals, h.peers, ?_, fun other hlive => ?_⟩
  · have hlive := h.live interface other (by cases interface <;> exact hkeeps)
    exact hlive.registered hnone
  · have hne : displayId ≠ id := by
      intro heq
      rw [← heq, h.root] at hnone
      cases hnone
    exact (OrdMap.get?_insert_ne _ _ hne).trans h.root
  · rcases hlive.of_registered with ⟨_, hnew⟩ | hold
    · exact absurd hnew hdisplay
    · exact h.display other hold

theorem Interface.plain_ne {other : Interface} (hplain : interface.plain = true)
    (hother : other.plain = false) : interface ≠ other := by
  intro heq
  rw [heq, hother] at hplain
  cases hplain

theorem Holds.registered (hJ : Stable terms J) (h : Holds J dying core)
    (havailable : core.registry.Available id) (hplain : object.interface.plain = true) :
    Holds J dying (core.registered id object) :=
  ⟨h.anchored.registered havailable.none (Interface.plain_ne hplain rfl),
    hJ.registered core.frame id object.interface object.version h.kept havailable hplain⟩

/-- An object whose manager then refuses it stays registered. -/
theorem Holds.unmade {version : Nat} (hJ : Stable terms J) (h : Holds J dying core)
    (havailable : core.registry.Available id)
    (hinterface : interface = .zwpInputMethodV2 ∨ interface = .wlPointer ∨
      interface = .wlKeyboard) (hlasting : terms.lasting) :
    Holds J dying (core.registered id ⟨interface, version⟩) := by
  refine ⟨h.anchored.registered havailable.none ?_,
    hJ.unmade core.frame id interface version hlasting h.kept havailable hinterface⟩
  rcases hinterface with rfl | rfl | rfl <;> simp

/-- Nothing keeps an object but tables of its own interface. -/
theorem Anchored.unkept (h : Anchored dying a) (hobject : a.objects.get? id = some object)
    (hfree : ¬ a.keeps dying object.interface id) (interface : Interface) :
    ¬ a.keeps dying interface id := by
  intro hkeeps
  obtain ⟨o, ho, hinterface⟩ := h.live interface id hkeeps
  obtain rfl := Option.some.inj (hobject.symm.trans ho)
  rw [hinterface] at hfree
  exact hfree hkeeps

theorem Anchored.retired (h : Anchored dying a) (hfree : ∀ interface, ¬ a.keeps dying interface id)
    (hne : id ≠ displayId) : Anchored dying { a with objects := a.objects.erase id } := by
  refine ⟨fun interface other hkeeps => ?_, h.sole, h.globals, h.peers, ?_, fun other hlive => ?_⟩
  · have hkept : a.keeps dying interface other := by cases interface <;> exact hkeeps
    have hother : other ≠ id := by
      intro heq
      rw [heq] at hkept
      exact hfree interface hkept
    exact (h.live interface other hkept).retired hother
  · rw [OrdMap.get?_erase, if_neg hne.symm]
    exact h.root
  · exact h.display other hlive.of_retired.2

theorem Anchored.ne_display (h : Anchored dying a) (hobject : a.objects.get? id = some object)
    (hne : object.interface ≠ .wlDisplay) : id ≠ displayId := by
  intro heq
  rw [heq, h.root] at hobject
  rw [← Option.some.inj hobject] at hne
  exact hne rfl

theorem Holds.retired (hJ : Stable terms J) (h : Holds J dying core)
    (hobject : core.object? id = some object) (hplain : object.interface.plain = true)
    (hfree : ¬ core.anchors.keeps dying object.interface id) :
    Holds J dying (core.retired id) := by
  have hne := h.anchored.ne_display hobject (Interface.plain_ne hplain rfl)
  exact ⟨h.anchored.retired (h.anchored.unkept hobject hfree) hne,
    hJ.retired core.frame id object h.kept hobject hplain⟩

end Moves

/-! Frames after many events, and tables that go with the objects of an interface. -/

namespace Frame

theorem foldl_sent (messages : List WaylandMessage) (f : Frame) :
    ∃ eventsOut log, messages.foldl sent f = { f with eventsOut := eventsOut, log := log } := by
  induction messages generalizing f with
  | nil => exact ⟨_, _, rfl⟩
  | cons event rest ih => exact ih (f.sent event)

theorem announced_eq (f : Frame) : ∃ eventsOut log, f.announced = { f with
    registry := f.registry.takeDeleteIdEvents.2
    eventsOut := eventsOut
    log := log } :=
  foldl_sent _ { f with registry := f.registry.takeDeleteIdEvents.2 }

theorem moved_eq (f : Frame) (id : Nat) (current : OrdSet Nat) :
    ∃ eventsOut log, f.moved id current = { f with
      membership := f.membership.insert id current
      eventsOut := eventsOut
      log := log } := by
  obtain ⟨eventsOut, log, heq⟩ := foldl_sent (f.moveEvents id current) f
  refine ⟨eventsOut, log, ?_⟩
  unfold moved
  rw [heq]

end Frame

/-- The table has an entry for each object of the interface, and for nothing else. -/
def Mirrors {ν : Type} (objects : OrdMap Nat WireObject) (interface : Interface)
    (table : OrdMap Nat ν) : Prop :=
  ∀ id, LiveAs objects interface id ↔ table.contains id = true

namespace Mirrors

variable {ν ν' : Type} {objects : OrdMap Nat WireObject} {interface : Interface}
  {table : OrdMap Nat ν} {id : Nat} {object : WireObject}

section

variable (h : Mirrors objects interface table)
include h

theorem of_contains {table' : OrdMap Nat ν'}
    (hsame : ∀ id, table'.contains id = table.contains id) : Mirrors objects interface table' := by
  intro other
  rw [hsame other]
  exact h other

theorem registered (hnone : objects.get? id = none) (hne : object.interface ≠ interface) :
    Mirrors (objects.insert id object) interface table := by
  intro other
  rw [← h other]
  refine ⟨fun hlive => ?_, fun hlive => hlive.registered hnone⟩
  cases hlive.of_registered with
  | inl hnew => exact absurd hnew.2 hne
  | inr hold => exact hold

theorem retired (hobject : objects.get? id = some object) (hne : object.interface ≠ interface) :
    Mirrors (objects.erase id) interface table := by
  intro other
  rw [← h other]
  refine ⟨fun hlive => hlive.of_retired.2, fun hlive => hlive.retired fun heq => ?_⟩
  obtain ⟨o, ho, hinterface⟩ := hlive
  rw [heq, hobject] at ho
  obtain rfl := Option.some.inj ho
  exact hne hinterface

theorem added (hnone : objects.get? id = none) (hinterface : object.interface = interface)
    (value : ν) : Mirrors (objects.insert id object) interface (table.insert id value) := by
  intro other
  rw [OrdMap.contains_insert, ← h other]
  constructor
  · exact fun hlive => hlive.of_registered.imp_left And.left
  · rintro (rfl | hlive)
    · exact ⟨object, OrdMap.get?_insert_self _ _ _, hinterface⟩
    · exact hlive.registered hnone

theorem removed : Mirrors (objects.erase id) interface (table.erase id) := by
  intro other
  rw [OrdMap.contains_erase, ← h other]
  exact ⟨LiveAs.of_retired, fun hlive => hlive.2.retired hlive.1⟩

end

end Mirrors

end TuffXwin.Headless
