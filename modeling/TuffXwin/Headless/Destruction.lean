import TuffXwin.Headless.Presentations

/-! The requests with which a client destroys or releases its objects. A handler that only
forgets what it keeps always succeeds; one that insists on the entry of its manager fails once
the destruction of a surface or a pointer has dropped it; and data exchange keeps what it had
of an object that is gone. -/

namespace TuffXwin.Headless
open Lib
open WaylandWire (WireError WireArg WaylandMessage readU32 writeU32 displayId encodeString)

variable {J : Frame → Prop} {input input' : SeatManager}
variable {interface : Interface} {ν : Type} {forget : HeadlessWireCore → HeadlessWireCore}
  {terms : Terms} {environment : Environment} {seat : Nat} {client : Client}

/-- The opcode of the request that is handled by the destruction or the release of its object. -/
def Interface.destructor? : Interface → Option Nat
  | .wlSurface | .wlBuffer | .wlSubcompositor | .wlSubsurface | .xdgPositioner | .xdgSurface
  | .xdgToplevel | .xdgPopup | .zwpTextInputV3 | .zwpInputPopupSurfaceV2 | .wpViewporter
  | .wpViewport | .wpFractionalScaleManagerV1 | .wpFractionalScaleV1 | .zxdgDecorationManagerV1
  | .zxdgToplevelDecorationV1 | .wpPresentation | .zxdgOutputManagerV1 | .zxdgOutputV1
  | .extImageCopyCaptureManagerV1 | .extImageCopyCaptureSessionV1 | .zwpIdleInhibitorV1
  | .zwpRelativePointerV1 => some 0
  | .wlShmPool | .wlPointer | .wlDataSource | .zwlrScreencopyFrameV1
  | .extImageCopyCaptureFrameV1 | .zwlrLayerShellV1 | .zwpIdleInhibitManagerV1
  | .zwpRelativePointerManagerV1 | .zwpConfinedPointerV1 => some 1
  | .wlDataDevice | .wlDataOffer | .zwlrScreencopyManagerV1 | .zwpPointerConstraintsV1
  | .zwpLockedPointerV1 => some 2
  | .zwlrOutputConfigurationV1 => some 4
  | .zwlrLayerSurfaceV1 => some 8
  | _ => none

/-- The manager of the interface has an entry for the object. -/
def HeadlessWireCore.entry (core : HeadlessWireCore) : Interface → Nat → Bool
  | .wlSurface, id => core.surfaces.surfaces.contains id
  | .wlShmPool, id => core.shm.pools.contains id
  | .wlBuffer, id => core.shm.buffers.contains id
  | .wlPointer, id => core.input.pointers.contains id
  | .wlDataSource, id => core.dataDevice.sources.contains id
  | .wlDataDevice, id => core.dataDevice.devices.contains id
  | .wlDataOffer, id => core.dataDevice.offers.contains id
  | .wlSubsurface, id => core.subsurface.subsurfaces.contains id
  | .xdgPositioner, id => core.xdgShell.positioners.contains id
  | .xdgSurface, id => core.xdgShell.surfaces.contains id
  | .xdgPopup, id => core.xdgShell.popups.contains id
  | .zwpTextInputV3, id => core.textInput.inputs.contains id
  | .zwpInputPopupSurfaceV2, id => core.inputMethod.popups.contains id
  | .wpViewport, id => core.viewport.viewports.contains id
  | .wpFractionalScaleV1, id => core.fractionalScale.scales.contains id
  | .zxdgToplevelDecorationV1, id => core.xdgDecoration.decorations.contains id
  | .zxdgOutputV1, id => core.xdgOutput.outputs.contains id
  | .zwlrOutputConfigurationV1, id => core.outputManagement.configs.contains id
  | .zwlrScreencopyFrameV1, id => core.screencopy.frames.contains id
  | .extImageCopyCaptureSessionV1, id => core.imageCopyCapture.sessions.contains id
  | .extImageCopyCaptureFrameV1, id => core.imageCopyCapture.frames.contains id
  | .zwlrLayerSurfaceV1, id => core.layerShell.surfaces.contains id
  | .zwpIdleInhibitorV1, id => core.idleInhibit.inhibitors.contains id
  | .zwpRelativePointerV1, id => core.relativePointer.bindings.contains id
  | .zwpLockedPointerV1, id => core.pointerConstraints.locked.contains id
  | .zwpConfinedPointerV1, id => core.pointerConstraints.confined.contains id
  | _, _ => false

/-- Neither the registry nor the manager of the interface knows the object. -/
def Gone (interface : Interface) (id : Nat) (core : HeadlessWireCore) : Prop :=
  core.object? id = none ∧ core.entry interface id = false

/-- The request succeeds and its object is gone. -/
def Destroys (core : HeadlessWireCore) (interface : Interface) (message : WaylandMessage)
    (fds : List Nat) (environment : Environment) : Prop :=
  ∃ events core', dispatchWithFds message fds environment core = .ok events core' ∧
    Gone interface message.header.objectId core'

/-- When an object can be destroyed: always, unless its manager is asked for its entry, keeps
the entry whatever happens, or is asked for the entry of another interface. -/
def Destroyable (core : HeadlessWireCore) (interface : Interface) (id : Nat) : Prop :=
  match interface with
  | .zwlrLayerSurfaceV1 | .zwpRelativePointerV1 | .zwpLockedPointerV1 | .zwpConfinedPointerV1
  | .zwpIdleInhibitorV1 => core.entry interface id = true
  | .wlDataSource | .wlDataDevice | .wlDataOffer => core.entry interface id = false
  | .zwlrLayerShellV1 => False
  | _ => True

theorem destructor_declared {opcode : Nat} (h : interface.destructor? = some opcode) :
    ∃ name, requestSpec interface opcode = .ok ⟨name, []⟩ := by
  cases interface
  all_goals first
    | (obtain rfl := Option.some.inj h; exact ⟨_, rfl⟩)
    | cases h

section Dispatch

variable {core : HeadlessWireCore} {message : WaylandMessage} {fds : List Nat}
  {environment : Environment} {interface : Interface} {version : Nat}

/-- A request without arguments goes to its handler, whatever its payload. -/
theorem dispatchWithFds_eq {name : String}
    (hobject : core.object? message.header.objectId = some ⟨interface, version⟩)
    (hspec : requestSpec interface message.header.opcode = .ok ⟨name, []⟩) :
    dispatchWithFds message fds environment core =
      (do
        handleRequest interface (requestOf message [] environment)
        announceDeletedIds
        let core ← get
        pure core.eventsOut : Handler (List WaylandMessage)) (core.readied fds) := by
  have hget : getObject message.header.objectId core = .ok ⟨interface, version⟩ core := by
    change lift (orInvalid (core.object? message.header.objectId) _) core = _
    rw [hobject]
    rfl
  unfold dispatchWithFds
  rw [bind_of_ok hget, bind_of_ok (show lift _ core = .ok ⟨name, []⟩ core by rw [hspec]; rfl)]
  rfl

theorem dispatchWithFds_never {name : String} {P : HeadlessWireCore → Prop}
    (hobject : core.object? message.header.objectId = some ⟨interface, version⟩)
    (hspec : requestSpec interface message.header.opcode = .ok ⟨name, []⟩)
    (hsame : ∀ core' queued eventsOut log, P { core' with
      registry := { core'.registry with queuedDeleteIds := queued }
      eventsOut := eventsOut
      log := log } ↔ P core') :
    (∃ events core', dispatchWithFds message fds environment core = .ok events core' ∧ P core') ↔
      Ends (fun _ _ => False) (handleRequest interface (requestOf message [] environment))
        (core.readied fds) fun _ core' => P core' := by
  have hannounced : ∀ core', P ((core'.registry.takeDeleteIdEvents.1.map
      WaylandWire.deleteIdEvent).foldl HeadlessWireCore.pushed
        (core'.withRegistry core'.registry.takeDeleteIdEvents.2)) ↔ P core' := by
    intro core'
    obtain ⟨eventsOut, log, heq⟩ := foldl_pushed
      (core'.registry.takeDeleteIdEvents.1.map WaylandWire.deleteIdEvent)
      (core'.withRegistry core'.registry.takeDeleteIdEvents.2)
    rw [heq]
    exact hsame core' _ _ _
  rw [dispatchWithFds_eq hobject hspec, ← ends_never, ends_bind]
  simp only [announceDeletedIds, sendEach, ends_bind, ends_get, ends_set, ends_modify, ends_pure,
    hannounced]

end Dispatch

/-! What the handlers leave. -/

section Handlers

variable {core : HeadlessWireCore} {interface : Interface} {version id : Nat}

/-- A handler that never fails leaves nothing of the object. -/
def Ruins (handler : Handler Unit) (core : HeadlessWireCore) (interface : Interface) (id : Nat) :
    Prop :=
  Ends (fun _ _ => False) handler core fun _ core' => Gone interface id core'

theorem not_contains_erase_eq (table : OrdMap Nat ν) (id : Nat) :
    (table.erase id).contains id = false := Bool.eq_false_iff.mpr not_contains_erase

/-- The entry of an object does not depend on the registry. -/
theorem entry_retired (core : HeadlessWireCore) (interface : Interface) (id : Nat) :
    (core.retired id).entry interface id = core.entry interface id := by
  cases interface <;> rfl

section

variable (hobject : core.object? id = some ⟨interface, version⟩)
include hobject

theorem destroyObject_ruins_iff :
    Ruins (destroyObject id) core interface id ↔ core.entry interface id = false := by
  have hcontains : core.registry.objects.contains id = true :=
    OrdMap.contains_iff.mpr ⟨_, hobject⟩
  refine (ends_destroyLive hcontains).trans ?_
  unfold Gone
  rw [entry_retired core interface id]
  refine and_iff_right ?_
  exact (OrdMap.get?_erase _ _ _).trans (if_pos rfl)

theorem destroyObject_ruins (hentry : core.entry interface id = false) :
    Ruins (destroyObject id) core interface id :=
  (destroyObject_ruins_iff hobject).mpr hentry

theorem destroyWith_ruins_iff (hregistry : (forget core).registry = core.registry) :
    Ruins (destroyWith forget id) core interface id ↔ (forget core).entry interface id = false := by
  have hforgotten : (forget core).object? id = some ⟨interface, version⟩ := by
    rw [HeadlessWireCore.object?, hregistry]
    exact hobject
  exact ends_bind.trans (ends_modify.trans (destroyObject_ruins_iff hforgotten))

theorem destroyWith_ruins (hregistry : (forget core).registry = core.registry)
    (hentry : (forget core).entry interface id = false) :
    Ruins (destroyWith forget id) core interface id :=
  (destroyWith_ruins_iff hobject hregistry).mpr hentry

end

theorem ends_onPart_never {α : Type} {part : HeadlessWireCore → α}
    {put : HeadlessWireCore → α → HeadlessWireCore} {op : α → Fallible α}
    {Q : Unit → HeadlessWireCore → Prop} :
    Ends (fun _ _ => False) (onPart part put op) core Q ↔
      ∃ a, op (part core) = .ok a ∧ Q () (put core a) := by
  cases hop : op (part core) <;> simp [onPart, lift, hop]

theorem handleSurfaceDestroy_ruins (hJ : Stable terms J) (h : Holds J none core)
    (hobject : core.object? id = some ⟨.wlSurface, version⟩) (hdestroy : MayDestroy terms core id) :
    Ruins (handleSurfaceDestroy environment id) core .wlSurface id :=
  (handleSurfaceDestroy_ends hJ h ⟨_, hobject, rfl⟩ hdestroy).mono fun _ _ hdone => hdone.2

theorem handleShmPoolDestroy_ruins (hobject : core.object? id = some ⟨.wlShmPool, version⟩)
    (hpool : core.shm.pools.contains id = true) :
    Ruins (handleShmPoolDestroy id) core .wlShmPool id := by
  refine ends_bind.mpr (ends_onPart_never.mpr ⟨{ core.shm with
    pools := core.shm.pools.erase id }, ?_, ?_⟩)
  · exact if_pos hpool
  · exact destroyObject_ruins hobject (not_contains_erase_eq _ _)

theorem handleShmBufferDestroy_ruins (hobject : core.object? id = some ⟨.wlBuffer, version⟩)
    (hbuffer : core.shm.buffers.contains id = true) :
    Ruins (handleShmBufferDestroy id) core .wlBuffer id := by
  refine ends_bind.mpr (ends_onPart_never.mpr ⟨{ core.shm with
    buffers := core.shm.buffers.erase id }, ?_, ?_⟩)
  · exact if_pos hbuffer
  · exact destroyObject_ruins hobject (not_contains_erase_eq _ _)

theorem handleWlPointerRelease_ruins (hobject : core.object? id = some ⟨.wlPointer, version⟩)
    (hpointer : core.input.pointers.contains id = true) :
    Ruins (handleWlPointerRelease environment id) core .wlPointer id := by
  refine ends_bind.mpr (ends_get.mpr (ends_bind.mpr (ends_set.mpr (ends_bind.mpr ?_))))
  refine ends_modify.mpr (ends_bind.mpr ?_)
  obtain ⟨eventsOut, log, heq⟩ := foldl_pushed
    ((core.pointerConstraints.pointerReleased environment.visit id).1.map
      fun id => WaylandWire.encodeEvent id 1 [])
    { core with
      relativePointer := core.relativePointer.pointerReleased id
      pointerConstraints := (core.pointerConstraints.pointerReleased environment.visit id).2 }
  rw [heq]
  refine ends_onPart_never.mpr ⟨{ core.input with pointers := core.input.pointers.erase id },
    if_pos hpointer, ?_⟩
  exact destroyObject_ruins hobject (not_contains_erase_eq _ _)

theorem destroyLayerSurface_ruins (hobject : core.object? id = some ⟨.zwlrLayerSurfaceV1, version⟩) :
    Ruins (destroyLayerSurface id) core .zwlrLayerSurfaceV1 id ↔
      core.entry .zwlrLayerSurfaceV1 id = true := by
  dsimp only [HeadlessWireCore.entry]
  refine ends_bind.trans (ends_get.trans ?_)
  rw [ends_bind]
  unfold LayerShellState.destroy OrdMap.contains
  cases hstate : core.layerShell.surfaces.get? id with
  | none => exact ⟨False.elim, fun h => by cases h⟩
  | some state =>
    refine iff_of_true (ends_bind.mpr (ends_set.mpr ?_)) rfl
    exact destroyObject_ruins hobject (not_contains_erase_eq _ _)

theorem handleIdleInhibitorDestroy_ruins
    (hobject : core.object? id = some ⟨.zwpIdleInhibitorV1, version⟩) :
    Ruins (handleIdleInhibitorDestroy id) core .zwpIdleInhibitorV1 id ↔
      core.entry .zwpIdleInhibitorV1 id = true := by
  dsimp only [HeadlessWireCore.entry]
  refine ends_bind.trans (ends_onPart_never.trans ?_)
  unfold IdleInhibitState.destroyInhibitor OrdMap.contains
  cases hstate : core.idleInhibit.inhibitors.get? id with
  | none => exact ⟨fun h => (by obtain ⟨_, h, _⟩ := h; cases h), fun h => by cases h⟩
  | some surface =>
    refine iff_of_true ⟨_, rfl, ?_⟩ rfl
    exact destroyObject_ruins hobject (not_contains_erase_eq _ _)

theorem handleRelativePointerDestroy_ruins
    (hobject : core.object? id = some ⟨.zwpRelativePointerV1, version⟩) :
    Ruins (handleRelativePointerDestroy id) core .zwpRelativePointerV1 id ↔
      core.entry .zwpRelativePointerV1 id = true := by
  dsimp only [HeadlessWireCore.entry]
  refine ends_bind.trans (ends_onPart_never.trans ?_)
  unfold RelativePointerState.destroy OrdMap.contains
  cases hstate : core.relativePointer.bindings.get? id with
  | none => exact ⟨fun h => (by obtain ⟨_, h, _⟩ := h; cases h), fun h => by cases h⟩
  | some pointer =>
    refine iff_of_true ⟨_, rfl, ?_⟩ rfl
    exact destroyObject_ruins hobject (not_contains_erase_eq _ _)

theorem handleLockedPointerDestroy_ruins
    (hobject : core.object? id = some ⟨.zwpLockedPointerV1, version⟩) :
    Ruins (handleLockedPointerDestroy id) core .zwpLockedPointerV1 id ↔
      core.entry .zwpLockedPointerV1 id = true := by
  dsimp only [HeadlessWireCore.entry]
  refine ends_bind.trans (ends_onPart_never.trans ?_)
  unfold PointerConstraintsState.destroyLocked OrdMap.contains
  cases hstate : core.pointerConstraints.locked.get? id with
  | none => exact ⟨fun h => (by obtain ⟨_, h, _⟩ := h; cases h), fun h => by cases h⟩
  | some state =>
    refine iff_of_true ⟨_, rfl, ends_bind.mpr (ends_modify.mpr ?_)⟩ rfl
    exact destroyObject_ruins hobject (not_contains_erase_eq _ _)

theorem handleConfinedPointerDestroy_ruins
    (hobject : core.object? id = some ⟨.zwpConfinedPointerV1, version⟩) :
    Ruins (handleConfinedPointerDestroy id) core .zwpConfinedPointerV1 id ↔
      core.entry .zwpConfinedPointerV1 id = true := by
  dsimp only [HeadlessWireCore.entry]
  refine ends_bind.trans (ends_onPart_never.trans ?_)
  unfold PointerConstraintsState.destroyConfined OrdMap.contains
  cases hstate : core.pointerConstraints.confined.get? id with
  | none => exact ⟨fun h => (by obtain ⟨_, h, _⟩ := h; cases h), fun h => by cases h⟩
  | some state =>
    refine iff_of_true ⟨_, rfl, ends_bind.mpr (ends_modify.mpr ?_)⟩ rfl
    exact destroyObject_ruins hobject (not_contains_erase_eq _ _)

theorem handleXdgSurfaceDestroy_ruins (hobject : core.object? id = some ⟨.xdgSurface, version⟩) :
    Ruins (handleXdgSurfaceDestroy id) core .xdgSurface id := by
  refine destroyWith_ruins hobject ?_ ?_
  · unfold HeadlessWireCore.withoutXdgSurface
    split <;> rfl
  · unfold HeadlessWireCore.withoutXdgSurface
    split
    · rename_i hnone
      simp [HeadlessWireCore.entry, OrdMap.contains, hnone]
    · exact not_contains_erase_eq _ _

/-- The source is marked and kept. -/
theorem handleDataSourceDestroy_ruins
    (hobject : core.object? id = some ⟨.wlDataSource, version⟩) :
    Ruins (handleDataSourceDestroy id) core .wlDataSource id ↔
      core.entry .wlDataSource id = false := by
  change Ruins (destroyWith (fun core => core.withDataDevice (core.dataDevice.modifySource id
    fun source => { source with isDestroyed := true })) id) core .wlDataSource id ↔ _
  rw [destroyWith_ruins_iff hobject rfl]
  change OrdMap.contains (core.dataDevice.sources.modify id _) id = false ↔
    core.dataDevice.sources.contains id = false
  rw [OrdMap.contains_modify]

/-- The shell looks for a layer surface under its own id. -/
theorem handleLayerShellDestroy_ruins (h : Holds J none core)
    (hobject : core.object? id = some ⟨.zwlrLayerShellV1, version⟩) :
    ¬ Ruins (handleLayerShellDestroy id) core .zwlrLayerShellV1 id := by
  have hnone : core.layerShell.surfaces.get? id = none := by
    rw [Option.eq_none_iff_forall_not_mem]
    intro state hstate
    obtain ⟨object, hlive, hinterface⟩ := h.live .zwlrLayerSurfaceV1
      (OrdMap.contains_iff.mpr ⟨state, hstate⟩)
    obtain rfl := Option.some.inj (hobject.symm.trans hlive)
    cases hinterface
  intro hruins
  unfold Ruins handleLayerShellDestroy destroyLayerSurface at hruins
  rw [ends_bind, ends_get, ends_bind] at hruins
  unfold LayerShellState.destroy at hruins
  rw [hnone] at hruins
  exact hruins

end Handlers

/-! Every live surface, pool, buffer and pointer has the entry that its destruction asks for. -/

def Pointed (f : Frame) : Prop := Mirrors f.objects .wlPointer f.input.pointers

/-- A run ends with the first failure; nothing else is asked of it. -/
def openTerms : Terms where
  level := .off fun _ => false

section Pointed

variable {f : Frame} {id : Nat}

theorem Pointed.registered (h : Pointed f) {object : WireObject}
    (havailable : f.registry.Available id) (hne : object.interface ≠ .wlPointer) :
    Pointed (f.registered id object) :=
  Mirrors.registered h havailable.none hne

theorem Pointed.retired (h : Pointed f) (hlive : LiveAs f.objects interface id)
    (hne : interface ≠ .wlPointer) : Pointed (f.retired id) := by
  obtain ⟨object, hobject, rfl⟩ := hlive
  exact Mirrors.retired h hobject hne

theorem getPointer_pointers (h : input.getPointer seat id = .ok input') :
    input'.pointers = input.pointers.insert id { seatId := seat } := by
  unfold SeatManager.getPointer at h
  split_ifs at h
  obtain rfl := Except.ok.inj h
  rfl

theorem getKeyboard_pointers (h : input.getKeyboard seat id = .ok input') :
    input'.pointers = input.pointers := by
  unfold SeatManager.getKeyboard at h
  split_ifs at h
  obtain rfl := Except.ok.inj h
  rfl

theorem releasePointer_pointers (h : input.releasePointer id = .ok input') :
    input'.pointers = input.pointers.erase id := by
  unfold SeatManager.releasePointer at h
  split_ifs at h
  obtain rfl := Except.ok.inj h
  rfl

theorem pointed_stable : Stable openTerms Pointed where
  sent := fun _ _ h _ => h
  registered := fun _ _ _ _ h havailable hplain =>
    h.registered havailable (Interface.plain_ne hplain rfl)
  retired := fun _ _ object h hobject hplain =>
    h.retired ⟨object, hobject, rfl⟩ (Interface.plain_ne hplain rfl)
  served := fun _ h _ => h
  announced := by
    intro f h
    obtain ⟨_, _, heq⟩ := f.announced_eq
    rw [heq]
    exact h
  surfaces := fun _ _ h _ => h
  outputs := fun _ _ h _ => h
  roles := fun _ _ h _ => h
  serials := fun _ _ h _ => h
  created := fun _ _ _ h havailable _ => h.registered havailable (by simp)
  destroyed := fun _ _ h hlive _ => h.retired hlive (by simp)
  moved := by
    intro f id current h _ _ _
    obtain ⟨_, _, heq⟩ := f.moved_eq id current
    rw [heq]
    exact h
  bound := fun _ _ _ _ h _ _ => h
  outputEvent := fun _ _ _ _ _ _ hbanned => absurd hbanned.2 (by simp)
  method := fun _ _ _ _ h havailable => h.registered havailable (by simp)
  unmade := fun _ _ _ _ hlasting => hlasting.elim
  pool := fun _ _ _ _ _ h havailable _ => h.registered havailable (by simp)
  poolResized := fun _ _ _ _ _ h _ => h
  poolGone := fun _ _ _ h hlive _ => h.retired hlive (by simp)
  buffer := fun _ _ _ _ _ _ _ _ _ _ h havailable _ => h.registered havailable (by simp)
  bufferGone := fun _ _ _ h hlive _ => h.retired hlive (by simp)
  undone := by
    intro f id object h havailable
    have hsame : (f.registry.objects.insert id object).erase id = f.registry.objects :=
      erase_insert havailable.none
    change Mirrors ((f.registry.objects.insert id object).erase id) .wlPointer f.input.pointers
    rw [hsame]
    exact h
  seat := fun _ _ h => h
  pointer := by
    intro f id version seat input h havailable _ hinput
    have hadded : Mirrors (f.objects.insert id ⟨.wlPointer, version⟩) .wlPointer input.pointers := by
      rw [getPointer_pointers hinput]
      exact Mirrors.added h havailable.none rfl _
    cases hmax : f.surfaces.keys.max? with
    | none => exact hadded
    | some surfaceId => exact hadded.of_contains fun _ => OrdMap.contains_modify
  pointerGone := by
    intro f id input h _ hinput
    change Mirrors (f.objects.erase id) .wlPointer input.pointers
    rw [releasePointer_pointers hinput]
    exact Mirrors.removed h
  keyboard := by
    intro f id version seat input h havailable hinput
    change Mirrors (f.objects.insert id ⟨.wlKeyboard, version⟩) .wlPointer input.pointers
    rw [getKeyboard_pointers hinput]
    exact Mirrors.registered h havailable.none (by simp)

end Pointed

/-- What a fresh core has no object of, it has no entry for. -/
theorem freshCore_mirrors (interface : Interface) (hne : interface ≠ .wlDisplay)
    (deferCallbacks deferFeedback : Bool) :
    Mirrors (freshCore deferCallbacks deferFeedback).frame.objects interface
      (OrdMap.empty : OrdMap Nat ν) := by
  intro id
  refine ⟨fun hlive => ?_, fun hcontains => by cases hcontains⟩
  rcases LiveAs.of_registered hlive with ⟨_, heq⟩ | ⟨_, hobject, _⟩
  · exact absurd heq.symm hne
  · cases hobject

theorem pointed_lasting : Lasting Pointed where
  fresh := fun _ _ => freshCore_mirrors .wlPointer (by simp) _ _
  readied := fun _ h => h
  topology := fun _ _ h => h
  acknowledged := by
    intro f id registry h hregistry
    change Mirrors registry.objects .wlPointer f.input.pointers
    rw [acknowledgeDeleteId_objects hregistry]
    exact h

theorem shmMirrored_lasting : Lasting ShmMirrored where
  fresh := fun _ _ => ⟨freshCore_mirrors .wlShmPool (by simp) _ _,
    freshCore_mirrors .wlBuffer (by simp) _ _⟩
  readied := fun _ h => ⟨h.pools, h.buffers⟩
  topology := fun _ _ h => ⟨h.pools, h.buffers⟩
  acknowledged := by
    intro f id registry h hregistry
    have hobjects : registry.objects = f.registry.objects := acknowledgeDeleteId_objects hregistry
    refine ⟨?_, ?_⟩
    · change Mirrors registry.objects .wlShmPool f.shm.pools
      rw [hobjects]
      exact h.pools
    · change Mirrors registry.objects .wlBuffer f.shm.buffers
      rw [hobjects]
      exact h.buffers

/-- What holds of every core of an open connection. -/
structure Furnished (core : HeadlessWireCore) : Prop where
  surfaced : Holds Surfaced none core
  shm : ShmMirrored core.frame
  pointed : Pointed core.frame

theorem openTerms_unasked : openTerms.Unasked :=
  ⟨rfl, id, trivial, fun _ _ => trivial, fun _ _ => trivial, fun _ _ => trivial,
    fun _ _ => trivial, fun _ => trivial⟩

/-- An invariant that asks nothing of a run holds of every open connection. -/
theorem reachable_holds (hJ : Stable terms J) (hL : Lasting J) (hunasked : terms.Unasked)
    (hconfigure : terms.mayConfigure) (hreach : clients.Reachable client)
    (hopen : client.fault = none) : Holds J none client.core := by
  have hsound : Sound terms J client :=
    run_sound hJ hL (hreach.mono fun _ _ _ => hunasked.admitted _ _ fun _ => hconfigure)
  exact hsound.holds hopen

theorem reachable_furnished (hreach : clients.Reachable client) (hopen : client.fault = none) :
    Furnished client.core where
  surfaced :=
    reachable_holds surfaced_stable surfaced_lasting shmTerms_unasked trivial hreach hopen
  shm :=
    (reachable_holds shmMirrored_stable shmMirrored_lasting shmTerms_unasked trivial hreach
      hopen).kept
  pointed :=
    (reachable_holds pointed_stable pointed_lasting openTerms_unasked trivial hreach hopen).kept

section Destructors

variable {core : HeadlessWireCore} {interface : Interface} {version : Nat} {r : Request}

/-- The handler of the request that destroys an object leaves nothing of it exactly if the
object can be destroyed. -/
theorem handleRequest_ruins (h : Furnished core)
    (hobject : core.object? r.id = some ⟨interface, version⟩)
    (hopcode : interface.destructor? = some r.opcode) :
    Ruins (handleRequest interface r) core interface r.id ↔
      Destroyable core interface r.id := by
  have hlive : LiveAs core.registry.objects interface r.id := ⟨_, hobject, rfl⟩
  obtain ⟨id, opcode, payload, args, environment⟩ := r
  cases interface
  case wlSurface =>
    obtain rfl := Option.some.inj hopcode
    exact iff_of_true (handleSurfaceDestroy_ruins surfaced_stable h.surfaced hobject
      fun _ _ _ => trivial) trivial
  case wlShmPool =>
    obtain rfl := Option.some.inj hopcode
    exact iff_of_true (handleShmPoolDestroy_ruins hobject ((h.shm.pools id).mp hlive)) trivial
  case wlBuffer =>
    obtain rfl := Option.some.inj hopcode
    exact iff_of_true (handleShmBufferDestroy_ruins hobject ((h.shm.buffers id).mp hlive)) trivial
  case wlPointer =>
    obtain rfl := Option.some.inj hopcode
    exact iff_of_true (handleWlPointerRelease_ruins hobject ((h.pointed id).mp hlive)) trivial
  case xdgSurface =>
    obtain rfl := Option.some.inj hopcode
    exact iff_of_true (handleXdgSurfaceDestroy_ruins hobject) trivial
  case wlDataSource =>
    obtain rfl := Option.some.inj hopcode
    exact handleDataSourceDestroy_ruins hobject
  case wlDataDevice =>
    obtain rfl := Option.some.inj hopcode
    exact destroyWith_ruins_iff hobject rfl
  case wlDataOffer =>
    obtain rfl := Option.some.inj hopcode
    exact destroyWith_ruins_iff hobject rfl
  case zwlrLayerShellV1 =>
    obtain rfl := Option.some.inj hopcode
    exact iff_of_false (handleLayerShellDestroy_ruins h.surfaced hobject) False.elim
  case zwlrLayerSurfaceV1 =>
    obtain rfl := Option.some.inj hopcode
    exact destroyLayerSurface_ruins hobject
  case zwpIdleInhibitorV1 =>
    obtain rfl := Option.some.inj hopcode
    exact handleIdleInhibitorDestroy_ruins hobject
  case zwpRelativePointerV1 =>
    obtain rfl := Option.some.inj hopcode
    exact handleRelativePointerDestroy_ruins hobject
  case zwpLockedPointerV1 =>
    obtain rfl := Option.some.inj hopcode
    exact handleLockedPointerDestroy_ruins hobject
  case zwpConfinedPointerV1 =>
    obtain rfl := Option.some.inj hopcode
    exact handleConfinedPointerDestroy_ruins hobject
  -- The others only forget what they keep, if they keep anything.
  all_goals first
    | (obtain rfl := Option.some.inj hopcode
       exact iff_of_true (destroyWith_ruins hobject rfl rfl) trivial)
    | (obtain rfl := Option.some.inj hopcode
       exact iff_of_true (destroyWith_ruins hobject rfl (not_contains_erase_eq _ _)) trivial)
    | cases hopcode

theorem Furnished.readied (h : Furnished core) (fds : List Nat) : Furnished (core.readied fds) :=
  ⟨⟨h.surfaced.anchored, h.surfaced.kept⟩, ⟨h.shm.pools, h.shm.buffers⟩, h.pointed⟩

/-- In every open connection a request for the destruction of an object does what it is for
exactly if the object can be destroyed. -/
theorem destroys_iff {client : Client} (hreach : clients.Reachable client)
    (hopen : client.fault = none) {message : WaylandMessage} {object : WireObject}
    (hobject : client.core.object? message.header.objectId = some object)
    (hrequest : object.interface.destructor? = some message.header.opcode) (fds : List Nat)
    (environment : Environment) :
    Destroys client.core object.interface message fds environment ↔
      Destroyable client.core object.interface message.header.objectId := by
  obtain ⟨interface, version⟩ := object
  obtain ⟨name, hspec⟩ := destructor_declared hrequest
  refine (dispatchWithFds_never hobject hspec fun core' _ _ _ => ?_).trans ?_
  · cases interface <;> exact Iff.rfl
  · have hready := (reachable_furnished hreach hopen).readied fds
    refine (handleRequest_ruins (r := requestOf message [] environment) hready hobject
      hrequest).trans ?_
    cases interface <;> exact Iff.rfl

end Destructors

/-! A client with a layer surface, which is object 6, on the surface 5. -/

def layerOperations : List Operation :=
  requests [.new displayId 1 (writeU32 2), bindGlobal 1 3 4 .wlCompositor,
    bindGlobal 17 4 4 .zwlrLayerShellV1, .new 3 0 (writeU32 5),
    .new 4 0 (writeU32 6 ++ writeU32 5 ++ writeU32 0 ++ writeU32 0 ++ encodeString "bar")]

def layerClient : Client := clients.run { core := freshCore true true } layerOperations

theorem layerClient_reachable : clients.Reachable layerClient := by
  have hinit : clients.Reachable { core := freshCore true true } := .init ⟨true, true, rfl⟩
  exact hinit.run layerOperations

def layerDestruction : WaylandMessage := .new 6 8 []

theorem layerSurface_destroyed :
    Destroys layerClient.core .zwlrLayerSurfaceV1 layerDestruction [] stillEnvironment ↔
      Destroyable layerClient.core .zwlrLayerSurfaceV1 6 := by
  have hobject : layerClient.core.object? layerDestruction.header.objectId =
      some ⟨.zwlrLayerSurfaceV1, 4⟩ := by decide +kernel
  exact destroys_iff layerClient_reachable (by decide +kernel) hobject rfl [] stillEnvironment

def surfaceDestruction : Operation := .dispatch (.new 5 0 []) [] stillEnvironment

def failed {ε σ α : Type} : EStateM.Result ε σ α → Bool
  | .ok _ _ => false
  | .error _ _ => true

/-- Once its surface is destroyed, a layer surface that is still an object cannot be. -/
theorem orphanedLayerSurface_stays :
    clients.Reachable (layerClient.step surfaceDestruction) ∧
      (layerClient.step surfaceDestruction).fault = none ∧
      (layerClient.step surfaceDestruction).core.object? 6 = some ⟨.zwlrLayerSurfaceV1, 4⟩ ∧
      ¬ Destroys (layerClient.step surfaceDestruction).core .zwlrLayerSurfaceV1
        layerDestruction [] stillEnvironment := by
  refine ⟨.next _ layerClient_reachable trivial, by decide +kernel, by decide +kernel, ?_⟩
  rintro ⟨events, core', hdispatch, _⟩
  have hfails : failed (dispatchWithFds layerDestruction [] stillEnvironment
      (layerClient.step surfaceDestruction).core) = true := by decide +kernel
  rw [hdispatch] at hfails
  cases hfails

end TuffXwin.Headless
