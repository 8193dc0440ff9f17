import TuffXwin.Headless.SurfaceKept

/-! The requests of shared memory and of seats keep every stable invariant. A registration is
undone when the manager then refuses the pool or the buffer, but not when it refuses a
pointer or a keyboard. -/

namespace TuffXwin.Headless
open Lib
open WaylandWire (WireError WireArg WaylandMessage readU32 displayId encodeEvent)

variable {payload : List UInt8}
variable {seatId : Nat}

section Seat

variable {terms : Terms} {J : Frame → Prop} {core : HeadlessWireCore} {r : Request}
  {spec : MessageSpec} {version : Nat}

/-! Shared memory. -/

/-- The object is there, and the invariant holds again once it is gone. -/
structure Undoable (J : Frame → Prop) (id : Nat) (core : HeadlessWireCore) : Prop where
  present : core.registry.objects.contains id = true
  holds : Holds J none (core.retired id)

theorem undoing_ends {id : Nat} {handler : Handler Unit} {Q : Unit → HeadlessWireCore → Prop}
    (h : Ends (Tolerated True (Undoable J id)) handler core Q) :
    Ends (Tolerated terms.safe (Left terms J)) (undoing id handler) core Q := by
  refine ends_tryCatch.mpr (h.mono_error fun fault core' hfault => ?_)
  obtain ⟨hcalm, hpresent, hundone⟩ := hfault
  cases fault with
  | panicked => exact absurd rfl (hcalm trivial)
  | error error =>
    refine ends_bind.mpr (ends_ignoreError.mpr ((ends_destroyLive hpresent).mpr ?_))
    exact tolerated_error hundone.left error

/-- A pool is created from a descriptor of the queue or from memory. -/
theorem createPool_ends {I : HeadlessWireCore → Prop} {id size : Nat} {args : List WireArg}
    (hI : ∀ queue, I { core with fdQueue := queue }) :
    Ends (Tolerated True I) (createPool id size args) core fun _ core' =>
      ∃ queue shm, core' = { core with fdQueue := queue, shm := shm } ∧
        (core.shm.createPoolFromFake id size = .ok shm ∨
          ∃ fd, core.shm.createPoolFromFd id fd size = .ok shm) := by
  have hcore : I core := hI core.fdQueue
  induction args with
  | nil => exact tolerated_error hcore _
  | cons arg rest ih =>
    cases arg with
    | ancillaryFd =>
      refine ends_bind.mpr (ends_get.mpr ?_)
      cases hqueue : core.fdQueue with
      | nil => exact ih
      | cons fd fds =>
        refine ends_bind.mpr (ends_set.mpr ((ends_onPart (hI fds)).mpr ⟨fun shm hshm => ?_, ?_⟩))
        · exact ⟨fds, shm, rfl, .inr ⟨fd, hshm⟩⟩
        · exact fun _ => createPoolFromFd_calm _ _ _ _
    | fd _ =>
      change Ends _ (onShm fun shm => shm.createPoolFromFake id size) core _
      refine (ends_onPart hcore).mpr ⟨fun shm hshm => ?_, ?_⟩
      · exact ⟨core.fdQueue, shm, rfl, .inl hshm⟩
      · exact fun _ => createPoolFromFake_calm _ _ _
    | int _ | uint _ | fixed _ | string _ | object _ | newId _ | array _ => exact ih

theorem erase_insert {ν : Type} {table : OrdMap Nat ν} {id : Nat} {value : ν}
    (hnone : table.get? id = none) : (table.insert id value).erase id = table := by
  refine OrdMap.ext_get? fun other => ?_
  by_cases heq : other = id
  · rw [heq, OrdMap.get?_erase, if_pos rfl, hnone]
  · rw [OrdMap.get?_erase, if_neg heq, OrdMap.get?_insert_ne _ _ heq]

/-- A registration that is undone leaves the objects as they were. -/
theorem Holds.undoable (hJ : Stable terms J) (h : Holds J none core) {id : Nat}
    {object : WireObject} (havailable : core.registry.Available id) :
    Undoable J id (core.registered id object) := by
  have hsame : (core.registry.objects.insert id object).erase id = core.registry.objects :=
    erase_insert havailable.none
  refine ⟨OrdMap.contains_iff.mpr ⟨_, OrdMap.get?_insert_self _ _ _⟩, ?_,
    hJ.undone core.frame id object h.kept havailable⟩
  change Anchored none { core.anchors with
    objects := (core.registry.objects.insert id object).erase id }
  rw [hsame]
  exact h.anchored

theorem shmRequest_kept (hJ : Stable terms J) (h : Holds J none core) :
    Kept terms J (onlyRequest .wlShm 0 (handleShmCreatePool r.payload r.args) r) core := by
  unfold onlyRequest
  split
  · refine kept_requireLength fun hlength => kept_word (by omega) (kept_word (by omega) ?_)
    intro hcore
    refine ends_bind.mpr ((ends_registerClientObject hcore.left).mpr fun havailable => ?_)
    have hundoable : Undoable J _ (core.registered _ ⟨.wlShmPool, 1⟩) := h.undoable hJ havailable
    refine undoing_ends ((createPool_ends fun queue => ?_).mono fun _ core' hcore' => ?_)
    · exact ⟨hundoable.present, hundoable.holds.of_same rfl rfl⟩
    · obtain ⟨queue, shm, rfl, hshm⟩ := hcore'
      exact ⟨h.anchored.registered havailable.none (by simp),
        hJ.pool core.frame _ 1 _ shm h.kept havailable hshm⟩
  · exact kept_unhandled

theorem createBuffer_kept (hJ : Stable terms J) (h : Holds J none core) {poolId : Nat} :
    Kept terms J (handleShmPoolCreateBuffer poolId payload) core := by
  refine kept_requireLength fun _ => kept_word (by omega) (kept_int (by omega) ?_)
  refine kept_int (by omega) (kept_int (by omega) (kept_int (by omega) (kept_word (by omega) ?_)))
  intro hcore
  refine ends_bind.mpr ((ends_registerClientObject hcore.left).mpr fun havailable => ?_)
  have hundoable : Undoable J _ (core.registered _ ⟨.wlBuffer, 1⟩) := h.undoable hJ havailable
  refine undoing_ends ((ends_onPart hundoable).mpr ⟨fun shm hshm => ?_, ?_⟩)
  · exact ⟨h.anchored.registered havailable.none (by simp),
      hJ.buffer core.frame _ 1 poolId _ _ _ _ _ shm h.kept havailable hshm⟩
  · exact fun _ => createBuffer_calm _ _ _ _ _ _ _ _

/-- An object that no table of anchors keeps, and that goes with its entry in a manager. -/
theorem Anchored.gone {a : Anchors} {id : Nat} {interface : Interface} (h : Anchored none a)
    (hobject : a.objects.get? id = some ⟨interface, version⟩)
    (hdisplay : interface ≠ .wlDisplay) (hfree : ¬ a.keeps none interface id) :
    Anchored none { a with objects := a.objects.erase id } :=
  h.retired (h.unkept hobject hfree) (h.ne_display hobject hdisplay)

theorem shmPoolRequest_kept (hJ : Stable terms J) (h : Holds J none core)
    (hobject : core.object? r.id = some ⟨.wlShmPool, version⟩) :
    Kept terms J (shmPoolRequest r) core := by
  unfold shmPoolRequest
  split
  · exact createBuffer_kept hJ h
  · refine fun hcore => ends_bind.mpr ((ends_onPart hcore.left).mpr ⟨fun shm hshm => ?_, ?_⟩)
    · have hpresent : ({ core with shm := shm } : HeadlessWireCore).registry.objects.contains
          r.id = true := OrdMap.contains_iff.mpr ⟨_, hobject⟩
      refine (ends_destroyLive hpresent).mpr ?_
      exact ⟨h.anchored.gone hobject (by simp) id,
        hJ.poolGone core.frame r.id shm h.kept ⟨_, hobject, rfl⟩ hshm⟩
    · exact fun _ => destroyPool_calm _ _
  · refine kept_requireLength fun hlength => kept_int (by omega) ?_
    refine kept_part (fun _ => resizePool_calm _ _ _ _) fun shm hshm => ?_
    exact ⟨h.anchored, hJ.poolResized core.frame _ _ _ shm h.kept hshm⟩
  · exact kept_unhandled

theorem bufferRequest_kept (hJ : Stable terms J) (h : Holds J none core)
    (hobject : core.object? r.id = some ⟨.wlBuffer, version⟩) :
    Kept terms J (onlyRequest .wlBuffer 0 (handleShmBufferDestroy r.id) r) core := by
  unfold onlyRequest
  split
  · refine fun hcore => ends_bind.mpr ((ends_onPart hcore.left).mpr ⟨fun shm hshm => ?_, ?_⟩)
    · have hpresent : ({ core with shm := shm } : HeadlessWireCore).registry.objects.contains
          r.id = true := OrdMap.contains_iff.mpr ⟨_, hobject⟩
      refine (ends_destroyLive hpresent).mpr ?_
      exact ⟨h.anchored.gone hobject (by simp) id,
        hJ.bufferGone core.frame r.id shm h.kept ⟨_, hobject, rfl⟩ hshm⟩
    · exact fun _ => destroyBuffer_calm _ _
  · exact kept_unhandled

/-! Seats. -/

section

variable (hJ : Stable terms J) (h : Holds J none core)
include hJ h

theorem handleSeatGetPointer_kept (hpoint : terms.mayPoint core.frame) :
    Kept terms J (handleSeatGetPointer seatId payload) core := by
  refine kept_requireLength fun hlength => kept_word (by omega) (kept_getObject fun seat _ => ?_)
  refine fun hcore => ends_bind.mpr ?_
  refine (ends_registerClientObject hcore.left).mpr fun havailable => ends_bind.mpr ?_
  refine (ends_onPart (h.unmade hJ havailable (.inr (.inl rfl)))).mpr
    ⟨fun input hinput => ends_modify.mpr ?_, fun _ => getPointer_calm _ _ _⟩
  have hmoved := hJ.pointer core.frame _ (min seat.version 7) seatId input h.kept havailable
    hpoint hinput
  have hregistered : Anchored none { core.anchors with
      objects := core.registry.objects.insert _ ⟨.wlPointer, min seat.version 7⟩ } :=
    h.anchored.registered havailable.none (by simp)
  have hsurfaces : core.frame.surfaces = core.surfaces.surfaces := rfl
  rw [hsurfaces] at hmoved
  dsimp only
  split
  · rename_i hmax
    change core.surfaces.surfaces.keys.max? = none at hmax
    rw [hmax] at hmoved
    exact ⟨hregistered, hmoved⟩
  · rename_i surfaceId hmax
    change core.surfaces.surfaces.keys.max? = some surfaceId at hmax
    rw [hmax] at hmoved
    exact ⟨hregistered, hmoved⟩

theorem handleSeatGetKeyboard_kept : Kept terms J (handleSeatGetKeyboard seatId payload) core := by
  refine kept_requireLength fun hlength => kept_word (by omega) (kept_getObject fun seat _ => ?_)
  refine fun hcore => ends_bind.mpr ?_
  refine (ends_registerClientObject hcore.left).mpr fun havailable => ?_
  refine (ends_onPart (h.unmade hJ havailable (.inr (.inr rfl)))).mpr
    ⟨fun input hinput => ?_, fun _ => getKeyboard_calm _ _ _⟩
  have hregistered : Anchored none { core.anchors with
      objects := core.registry.objects.insert _ ⟨.wlKeyboard, min seat.version 7⟩ } :=
    h.anchored.registered havailable.none (by simp)
  exact ⟨hregistered, hJ.keyboard core.frame _ _ seatId input h.kept havailable hinput⟩

theorem seatRequest_kept (hpoint : r.opcode = 0 → terms.mayPoint core.frame) :
    Kept terms J (seatRequest r) core := by
  unfold seatRequest
  split
  · rename_i hopcode
    exact handleSeatGetPointer_kept hJ h (hpoint hopcode)
  · exact handleSeatGetKeyboard_kept hJ h
  · exact kept_unhandled

theorem pointerRequest_kept (hobject : core.object? r.id = some ⟨.wlPointer, version⟩) :
    Kept terms J (onlyRequest .wlPointer 1 (handleWlPointerRelease r.environment r.id) r)
      core := by
  unfold onlyRequest
  split
  · refine kept_get ?_
    have hrelative : Holds J none { core with
        relativePointer := core.relativePointer.pointerReleased r.id } := h.of_same rfl rfl
    have hunlocked := hrelative.unlocked hJ r.environment fun state => state.pointerId = r.id
    refine fun _ => ends_bind.mpr (ends_set.mpr (ends_bind.mpr (ends_modify.mpr ?_)))
    have hregistry : (((core.pointerConstraints.pointerReleased r.environment.visit r.id).1.map
        fun id => encodeEvent id 1 []).foldl HeadlessWireCore.pushed { core with
          relativePointer := core.relativePointer.pointerReleased r.id
          pointerConstraints :=
            (core.pointerConstraints.pointerReleased r.environment.visit r.id).2 }).object? r.id =
        core.object? r.id := by
      rw [HeadlessWireCore.object?, object?_foldl_pushed]
      rfl
    change Holds J none (List.foldl HeadlessWireCore.pushed { core with
      relativePointer := core.relativePointer.pointerReleased r.id
      pointerConstraints :=
        (core.pointerConstraints.pointerReleased r.environment.visit r.id).2 }
      ((core.pointerConstraints.pointerReleased r.environment.visit r.id).1.map
        fun id => encodeEvent id 1 [])) at hunlocked
    generalize List.foldl HeadlessWireCore.pushed _ _ = core₁ at hunlocked hregistry ⊢
    refine ends_bind.mpr ((ends_onPart hunlocked.left).mpr ⟨fun input hinput => ?_, fun _ => ?_⟩)
    · have hobject₁ := hregistry.trans hobject
      have hpresent : ({ core₁ with input := input } : HeadlessWireCore).registry.objects.contains
          r.id = true := OrdMap.contains_iff.mpr ⟨_, hobject₁⟩
      refine (ends_destroyLive hpresent).mpr ?_
      exact ⟨hunlocked.anchored.gone hobject₁ (by simp) id,
        hJ.pointerGone core₁.frame r.id input hunlocked.kept ⟨_, hobject₁, rfl⟩ hinput⟩
    · exact releasePointer_calm _ _
  · exact kept_unhandled

end

end Seat

end TuffXwin.Headless
