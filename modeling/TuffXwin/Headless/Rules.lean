import TuffXwin.Headless.Anchors
import TuffXwin.Lib.Preserves

/-! How the operations of the handlers end. An error of the protocol ends the connection and
is always tolerated; a panic is not where safety is asked for. -/

namespace TuffXwin.Headless
open Lib
open WaylandWire (WireError WireArg WaylandMessage readU32 displayId encodeEvent)

variable {Q : Unit → HeadlessWireCore → Prop} {payload : List UInt8} {offset : Nat}
variable {interface : Interface} {opcode : Nat} {messages : List WaylandMessage}

/-- The operation of a manager does not panic. -/
def Calm {α : Type} (result : Fallible α) : Prop := result ≠ .error .panicked

section Calm

variable {α β : Type}

@[simp] theorem calm_ok (a : α) : Calm (.ok a) := by
  intro h
  cases h

@[simp] theorem calm_pure (a : α) : Calm (pure a) := calm_ok a

@[simp] theorem calm_error (error : WireError) : Calm (α := α) (.error (.error error)) := by
  intro h
  cases h

@[simp] theorem calm_throw (error : WireError) :
    Calm (α := α) (throw (Fault.error error)) := calm_error error

@[simp] theorem calm_invalidObject (id : Nat) : Calm (α := α) (.error (invalidObject id)) :=
  calm_error _

@[simp] theorem calm_protocolError (reason : String) :
    Calm (α := α) (.error (protocolError reason)) := calm_error _

@[simp] theorem calm_throw_protocolError (reason : String) :
    Calm (α := α) (throw (protocolError reason)) := calm_error _

theorem calm_ite {c : Prop} [Decidable c] {x y : Fallible α} :
    Calm (if c then x else y) ↔ (c → Calm x) ∧ (¬ c → Calm y) := by
  by_cases h : c <;> simp [h]

theorem Calm.bind {x : Fallible α} {f : α → Fallible β} (hx : Calm x)
    (hf : ∀ a, x = .ok a → Calm (f a)) : Calm (x >>= f) := by
  cases x with
  | ok a => exact hf a rfl
  | error e => exact fun h => hx (by cases h; rfl)

@[simp] theorem calm_orInvalid (value : Option α) (id : Nat) : Calm (orInvalid value id) := by
  cases value <;> simp [orInvalid]

end Calm

section Managers

variable (id other : Nat)

@[simp] theorem acknowledgeDeleteId_calm (r : WireObjectRegistry) :
    Calm (r.acknowledgeDeleteId id) := by
  simp [WireObjectRegistry.acknowledgeDeleteId, calm_ite]

@[simp] theorem claimRole_calm (m : SurfaceManager) (role : SurfaceRoleKind) :
    Calm (m.claimRole id role) := by
  unfold SurfaceManager.claimRole
  split <;> simp

@[simp] theorem validateNewPool_calm (m : ShmManager) (size : Nat) :
    Calm (m.validateNewPool id size) := by
  simp [ShmManager.validateNewPool, calm_ite]

@[simp] theorem createPoolFromFake_calm (m : ShmManager) (size : Nat) :
    Calm (m.createPoolFromFake id size) :=
  (validateNewPool_calm id m size).bind fun _ _ => by simp [calm_ite]

@[simp] theorem createPoolFromFd_calm (m : ShmManager) (fd size : Nat) :
    Calm (m.createPoolFromFd id fd size) :=
  (validateNewPool_calm id m size).bind fun _ _ => by simp

@[simp] theorem destroyPool_calm (m : ShmManager) : Calm (m.destroyPool id) := by
  simp [ShmManager.destroyPool, calm_ite]

theorem resizeBacking_pools {m m' : ShmManager} {fileSize : Nat → Option Nat} {pool : ShmPool}
    {newSize : Nat} (h : m.resizeBacking fileSize pool newSize = .ok m') : m'.pools = m.pools := by
  unfold ShmManager.resizeBacking at h
  dsimp only at h
  split at h
  · split at h
    · cases h
    · split_ifs at h
      cases h
      rfl
  · split_ifs at h
    cases h
    rfl

@[simp] theorem resizeBacking_calm (m : ShmManager) (fileSize : Nat → Option Nat) (pool : ShmPool)
    (newSize : Nat) : Calm (m.resizeBacking fileSize pool newSize) := by
  unfold ShmManager.resizeBacking
  dsimp only
  repeat' split
  all_goals simp

@[simp] theorem resizePool_calm (m : ShmManager) (fileSize : Nat → Option Nat)
    (requestedSize : Int) : Calm (m.resizePool fileSize id requestedSize) := by
  refine (calm_orInvalid _ _).bind fun pool hpool => ?_
  simp only [calm_ite, calm_throw, calm_throw_protocolError, implies_true, true_and]
  intro _ _
  refine (resizeBacking_calm _ _ _ _).bind fun m' hm' => ?_
  have hpools := resizeBacking_pools hm'
  have hcontains : m'.pools.contains id = true := by
    rw [hpools, OrdMap.contains]
    cases hget : m.pools.get? id with
    | none =>
      rw [hget] at hpool
      cases hpool
    | some p => rfl
  simp [hcontains]

@[simp] theorem createBuffer_calm (m : ShmManager) (offset width height stride : Int)
    (format : Nat) : Calm (m.createBuffer id other offset width height stride format) :=
  (calm_orInvalid _ _).bind fun _ _ => by simp [calm_ite]

@[simp] theorem destroyBuffer_calm (m : ShmManager) : Calm (m.destroyBuffer id) := by
  simp [ShmManager.destroyBuffer, calm_ite]

@[simp] theorem createPopup_calm (m : XdgShellManager) (parent : Option Nat) (positioner : Nat) :
    Calm (m.createPopup id other parent positioner) :=
  (calm_orInvalid _ _).bind fun _ _ => by simp

@[simp] theorem xdgAckConfigure_calm (m : XdgShellManager) (serial : Nat) :
    Calm (m.ackConfigure id serial) :=
  (calm_orInvalid _ _).bind fun _ _ => by simp [calm_ite]

@[simp] theorem setWindowGeometry_calm (m : XdgShellManager) (geometry : Int × Int × Int × Int) :
    Calm (m.setWindowGeometry id geometry) := by
  simp only [XdgShellManager.setWindowGeometry, calm_ite, calm_throw_protocolError, implies_true,
    true_and]
  exact fun _ => (calm_orInvalid _ _).bind fun _ _ => by simp

@[simp] theorem getPointer_calm (m : SeatManager) : Calm (m.getPointer id other) := by
  simp [SeatManager.getPointer, calm_ite]

@[simp] theorem getKeyboard_calm (m : SeatManager) : Calm (m.getKeyboard id other) := by
  simp [SeatManager.getKeyboard, calm_ite]

@[simp] theorem releasePointer_calm (m : SeatManager) : Calm (m.releasePointer id) := by
  simp [SeatManager.releasePointer, calm_ite]

@[simp] theorem getSubsurface_calm (m : SubcompositorManager) (parent : Nat) :
    Calm (m.getSubsurface id other parent) := by
  simp [SubcompositorManager.getSubsurface, calm_ite]

@[simp] theorem modifySubsurface_calm (m : SubcompositorManager)
    (f : SubsurfaceState → SubsurfaceState) : Calm (m.modifySubsurface id f) := by
  simp [SubcompositorManager.modifySubsurface, calm_ite]

@[simp] theorem modifyInput_calm (m : TextInputManager) (f : TextInputState → TextInputState) :
    Calm (m.modifyInput id f) := by
  simp [TextInputManager.modifyInput, calm_ite]

@[simp] theorem getInputMethod_calm (m : InputMethodManager) : Calm (m.getInputMethod id other) := by
  simp [InputMethodManager.getInputMethod, calm_ite]

@[simp] theorem getViewport_calm (m : ViewportManager) : Calm (m.getViewport id other) := by
  simp [ViewportManager.getViewport, calm_ite]

@[simp] theorem setPending_calm (m : ViewportManager) (width height : Int) (reason : String)
    (f : ViewportData → ViewportData) : Calm (m.setPending id width height reason f) := by
  simp [ViewportManager.setPending, calm_ite]

@[simp] theorem setSource_calm (m : ViewportManager) (x y width height : Int) :
    Calm (m.setSource id x y width height) := setPending_calm _ _ _ _ _ _

@[simp] theorem setDestination_calm (m : ViewportManager) (width height : Int) :
    Calm (m.setDestination id width height) := setPending_calm _ _ _ _ _ _

@[simp] theorem getFractionalScale_calm (m : FractionalScaleManager) :
    Calm (m.getFractionalScale id other) := by
  simp [FractionalScaleManager.getFractionalScale, calm_ite]

@[simp] theorem getToplevelDecoration_calm (m : XdgDecorationManager) :
    Calm (m.getToplevelDecoration id other) := by
  simp [XdgDecorationManager.getToplevelDecoration, calm_ite]

@[simp] theorem setMode_calm (m : XdgDecorationManager) : Calm (m.setMode id other) := by
  refine (calm_orInvalid _ _).bind fun _ _ => Calm.bind ?_ fun _ _ => by simp
  unfold XdgDecorationManager.decorationMode
  split <;> simp

@[simp] theorem getXdgOutput_calm (m : XdgOutputManager) : Calm (m.getXdgOutput id other) := by
  simp [XdgOutputManager.getXdgOutput, calm_ite]

@[simp] theorem enableHead_calm (m : OutputManagementManager) (head : Nat) :
    Calm (m.enableHead id other head) :=
  (calm_orInvalid _ _).bind fun _ _ => by simp [calm_ite]

@[simp] theorem disableHead_calm (m : OutputManagementManager) : Calm (m.disableHead id) :=
  (calm_orInvalid _ _).bind fun _ _ => by simp

@[simp] theorem captureOutputRegion_calm (m : ScreencopyManager) (output : Option Nat)
    (overlay : Bool) (x y width height : Int) :
    Calm (m.captureOutputRegion id output overlay x y width height) := by
  simp [ScreencopyManager.captureOutputRegion, calm_ite]

@[simp] theorem copyFrame_calm (m : ScreencopyManager) : Calm (m.copyFrame id other) := by
  simp [ScreencopyManager.copyFrame, calm_ite]

@[simp] theorem destroyInhibitor_calm (m : IdleInhibitState) : Calm (m.destroyInhibitor id) :=
  (calm_orInvalid _ _).bind fun _ _ => by simp

@[simp] theorem createRelativePointer_calm (m : RelativePointerState) :
    Calm (m.createRelativePointer id other) := by
  simp [RelativePointerState.createRelativePointer, calm_ite]

@[simp] theorem relativeDestroy_calm (m : RelativePointerState) : Calm (m.destroy id) :=
  (calm_orInvalid _ _).bind fun _ _ => by simp

@[simp] theorem fromRaw_calm : Calm (PointerConstraintLifetime.fromRaw id) := by
  simp [PointerConstraintLifetime.fromRaw, calm_ite]

section

variable (m : PointerConstraintsState)

theorem validatePair_calm : Calm (m.validatePair id other) := by
  simp [PointerConstraintsState.validatePair, calm_ite]

@[simp] theorem createLocked_calm (state : PointerConstraintState) :
    Calm (m.createLocked id state) :=
  (validatePair_calm _ _ m).bind fun _ _ => by simp

@[simp] theorem createConfined_calm (state : PointerConstraintState) :
    Calm (m.createConfined id state) :=
  (validatePair_calm _ _ m).bind fun _ _ => by simp

@[simp] theorem setCursorPositionHint_calm (x y : Int) : Calm (m.setCursorPositionHint id x y) := by
  simp [PointerConstraintsState.setCursorPositionHint, calm_ite]

@[simp] theorem setRegion_calm (region : Option Nat) : Calm (m.setRegion id region) := by
  simp [PointerConstraintsState.setRegion, calm_ite]

@[simp] theorem destroyLocked_calm : Calm (m.destroyLocked id) :=
  (calm_orInvalid _ _).bind fun _ _ => by simp

@[simp] theorem destroyConfined_calm : Calm (m.destroyConfined id) :=
  (calm_orInvalid _ _).bind fun _ _ => by simp

end

@[simp] theorem refreshPeriodToMillihz_calm (refresh : Nat) :
    Calm (refreshPeriodToMillihz refresh) := by
  simp [refreshPeriodToMillihz, calm_ite]

@[simp] theorem layerModifySurface_calm (m : LayerShellState)
    (f : LayerSurfaceState → LayerSurfaceState) : Calm (m.modifySurface id f) := by
  simp [LayerShellState.modifySurface, calm_ite]

@[simp] theorem setLayer_calm (m : LayerShellState) (layer : Nat) :
    Calm (m.setLayer id layer) := by
  simp [LayerShellState.setLayer, calm_ite]

@[simp] theorem layerAckConfigure_calm (m : LayerShellState) (serial : Nat) :
    Calm (m.ackConfigure id serial) :=
  (calm_orInvalid _ _).bind fun _ _ => by simp [calm_ite]

@[simp] theorem layerDestroy_calm (m : LayerShellState) : Calm (m.destroy id) :=
  (calm_orInvalid _ _).bind fun _ _ => by simp

@[simp] theorem requestSpec_calm (interface : Interface) (opcode : Nat) :
    Calm (requestSpec interface opcode) := by
  unfold requestSpec
  repeat' split
  all_goals simp

@[simp] theorem decodeRequest_calm (payload : List UInt8) (spec : MessageSpec) (fds : List Nat) :
    Calm (decodeRequest payload spec fds) := by
  unfold decodeRequest
  split <;> simp

end Managers

/-- The errors that an ignored handler ends with count as results. -/
def Ignored (E : Fault → HeadlessWireCore → Prop) (Q : Unit → HeadlessWireCore → Prop)
    (fault : Fault) (core : HeadlessWireCore) : Prop :=
  match fault with
  | .error _ => Q () core
  | .panicked => E .panicked core

@[simp] theorem noted_created (core : HeadlessWireCore) (id : Nat) (object : WireObject) :
    (core.withRegistry (core.registry.registered id object)).noted (.created id object) =
      core.registered id object := rfl

@[simp] theorem noted_destroyed (core : HeadlessWireCore) (id : Nat) :
    (core.withRegistry (core.registry.retired id)).noted (.destroyed id) = core.retired id := rfl

section Plain

variable {E : Fault → HeadlessWireCore → Prop} {core : HeadlessWireCore}
  {Q : Unit → HeadlessWireCore → Prop}

theorem ends_ignoreError {handler : Handler Unit} :
    Ends E (ignoreError handler) core Q ↔ Ends (Ignored E Q) handler core Q := by
  refine ends_tryCatch.trans (ends_congr fun fault core' => ?_)
  cases fault with
  | error _ => exact ends_pure
  | panicked => exact ends_throw

/-- The destruction of an object that is there. -/
theorem ends_destroyLive {id : Nat} (hcontains : core.registry.objects.contains id = true) :
    Ends E (destroyObject id) core Q ↔
      Q () (core.retired id) := by
  unfold destroyObject onPart
  simp [WireObjectRegistry.destroyObject, hcontains, lift]

end Plain

/-- A fault is tolerated where `I` holds of what it leaves; a panic only where safety is
not asked for. -/
def Tolerated (safe : Prop) (I : HeadlessWireCore → Prop) (fault : Fault)
    (core : HeadlessWireCore) : Prop :=
  (safe → fault ≠ .panicked) ∧ I core

section Rules

variable {safe : Prop} {I : HeadlessWireCore → Prop} {α : Type} {core : HeadlessWireCore} {id : Nat}

theorem tolerated_error (h : I core) (error : WireError) :
    Tolerated safe I (.error error) core := by
  refine ⟨fun _ heq => ?_, h⟩
  cases heq

theorem ends_lift (h : I core) {x : Fallible α} {Q : α → HeadlessWireCore → Prop} :
    Ends (Tolerated safe I) (lift x) core Q ↔
      (∀ a, x = .ok a → Q a core) ∧ (safe → Calm x) := by
  cases x with
  | ok a => simp [lift]
  | error fault => simp [lift, Calm, Tolerated, h]

theorem ends_onPart (h : I core) {part : HeadlessWireCore → α}
    {put : HeadlessWireCore → α → HeadlessWireCore} {op : α → Fallible α} :
    Ends (Tolerated safe I) (onPart part put op) core Q ↔
      (∀ a, op (part core) = .ok a → Q () (put core a)) ∧ (safe → Calm (op (part core))) := by
  simp [onPart, ends_lift h]

theorem ends_requireLength (h : I core) {length : Nat} :
    Ends (Tolerated safe I) (requireLength payload length) core Q ↔
      (length ≤ payload.length → Q () core) := by
  simp [requireLength, ends_ite, tolerated_error h]

theorem ends_require (h : I core) {check : Prop} [Decidable check] {reason : String} :
    Ends (Tolerated safe I) (require check reason) core Q ↔ (check → Q () core) := by
  simp [require, ends_ite, protocolError, tolerated_error h]

theorem ends_wordAt {Q : Nat → HeadlessWireCore → Prop} (hlength : offset + 4 ≤ payload.length) :
    Ends (Tolerated safe I) (wordAt payload offset) core Q ↔
      Q (readU32 (payload.drop offset)) core := by
  have hnot : ¬ payload.length < offset + 4 := by omega
  simp [wordAt, hnot]

theorem ends_intAt {Q : Int → HeadlessWireCore → Prop} (hlength : offset + 4 ≤ payload.length) :
    Ends (Tolerated safe I) (intAt payload offset) core Q ↔
      Q (readI32 (payload.drop offset)) core := by
  have hnot : ¬ payload.length < offset + 4 := by omega
  simp [intAt, hnot]

theorem ends_textAt (h : I core) {Q : String × Nat → HeadlessWireCore → Prop} :
    Ends (Tolerated safe I) (textAt payload offset) core Q ↔
      ∀ text, decodeString payload offset = .ok text → Q text core := by
  unfold textAt
  cases decodeString payload offset <;> simp [tolerated_error h]

@[simp] theorem orInvalid_eq_ok {value : Option α} {a : α} :
    orInvalid value id = .ok a ↔ value = some a := by
  cases value <;> simp [orInvalid]

theorem ends_getObject (h : I core) {Q : WireObject → HeadlessWireCore → Prop} :
    Ends (Tolerated safe I) (getObject id) core Q ↔
      ∀ object, core.object? id = some object → Q object core := by
  simp [getObject, WireObjectRegistry.getObject, HeadlessWireCore.object?, ends_lift h]

theorem ends_registerClientObject (h : I core) {version : Nat} :
    Ends (Tolerated safe I) (registerClientObject id interface version) core Q ↔
      (core.registry.Available id →
        Q () (core.registered id ⟨interface, version⟩)) := by
  by_cases havailable : core.registry.Available id <;>
    simp [registerClientObject, WireObjectRegistry.registerClientObject, havailable, ends_onPart h]

theorem ends_destroyObject (h : I core) :
    Ends (Tolerated safe I) (destroyObject id) core Q ↔
      ∀ object, core.object? id = some object →
        Q () (core.retired id) := by
  unfold HeadlessWireCore.object?
  cases hobject : core.registry.objects.get? id <;>
    simp [destroyObject, WireObjectRegistry.destroyObject, OrdMap.contains, hobject, ends_onPart h]

@[simp] theorem ends_send {args : List WireArg} :
    Ends (Tolerated safe I) (send id opcode args) core Q ↔
      Q () (core.pushed (encodeEvent id opcode args)) := Iff.rfl

@[simp] theorem ends_sendEach :
    Ends (Tolerated safe I) (sendEach messages) core Q ↔
      Q () (messages.foldl HeadlessWireCore.pushed core) := Iff.rfl

@[simp] theorem ends_nextXdgSerial {Q : Nat → HeadlessWireCore → Prop} :
    Ends (Tolerated safe I) nextXdgSerial core Q ↔
      Q core.xdgShell.getNextSerial.1 { core with xdgShell := core.xdgShell.getNextSerial.2 } :=
  Iff.rfl

theorem ends_unhandled (h : I core) : Ends (Tolerated safe I) (unhandled interface opcode) core Q :=
  tolerated_error h _

end Rules

/-! What only reads keeps everything. -/

section Preserves

variable {P : HeadlessWireCore → Prop} {α : Type} {offset length : Nat} {payload : List UInt8}

theorem preserves_wordAt : Preserves P (wordAt payload offset) :=
  preserves_ite (preserves_throw _) (preserves_pure _)

theorem preserves_intAt : Preserves P (intAt payload offset) :=
  preserves_ite (preserves_throw _) (preserves_pure _)

theorem preserves_requireLength : Preserves P (requireLength payload length) :=
  preserves_ite (preserves_throw _) (preserves_pure _)

theorem preserves_lift {result : Fallible α} : Preserves P (lift result) := by
  cases result with
  | ok a => exact preserves_pure a
  | error fault => exact preserves_throw fault

theorem preserves_onPart {part : HeadlessWireCore → α}
    {put : HeadlessWireCore → α → HeadlessWireCore} {op : α → Fallible α}
    (h : ∀ core a, op (part core) = .ok a → P core → P (put core a)) :
    Preserves P (onPart part put op) := by
  intro core hcore
  unfold onPart
  refine stays_get ?_
  cases hresult : op (part core) with
  | ok a => exact h core a hresult hcore
  | error fault => exact hcore

/-- What does not speak of events. -/
theorem preserves_sendEach (h : ∀ core event, P core → P (core.pushed event)) :
    Preserves P (sendEach messages) := by
  refine preserves_modify fun core hcore => ?_
  induction messages generalizing core with
  | nil => exact hcore
  | cons event rest ih => exact ih (core.pushed event) (h core event hcore)

end Preserves

end TuffXwin.Headless
