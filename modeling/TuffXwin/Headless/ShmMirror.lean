import TuffXwin.Headless.Runs
import TuffXwin.Headless.SharedMemory

/-! Shared memory and the registry agree, in runs that go on whatever fails: a registration
that the manager refuses is undone, and an object that is destroyed was dropped before. -/

namespace TuffXwin.Headless
open Lib
open WaylandWire (WaylandMessage)

variable {object : WireObject} {terms : Terms} {core : HeadlessWireCore}

structure ShmMirrored (f : Frame) : Prop where
  pools : Mirrors f.objects .wlShmPool f.shm.pools
  buffers : Mirrors f.objects .wlBuffer f.shm.buffers

/-- Runs go on after a failure, and no event is kept off anything. -/
def shmTerms : Terms where
  level := .off fun _ => false
  lasting := True

section Shm

variable {m m' : ShmManager} {id : Nat}

theorem createPool_pools {size : Nat} (h : m.createPoolFromFake id size = .ok m' ∨
    ∃ fd, m.createPoolFromFd id fd size = .ok m') :
    m'.pools = m.pools.insert id ⟨m.nextBacking, size⟩ ∧ m'.buffers = m.buffers := by
  rcases h with hfake | ⟨fd, hfd⟩
  · rw [(ShmManager.createPoolFromFake_eq_ok hfake).2.2]
    exact ⟨rfl, rfl⟩
  · rw [(ShmManager.createPoolFromFd_eq_ok hfd).2]
    exact ⟨rfl, rfl⟩

theorem destroyPool_pools (h : m.destroyPool id = .ok m') :
    m'.pools = m.pools.erase id ∧ m'.buffers = m.buffers := by
  unfold ShmManager.destroyPool at h
  split_ifs at h
  obtain rfl := Except.ok.inj h
  exact ⟨rfl, rfl⟩

theorem destroyBuffer_buffers (h : m.destroyBuffer id = .ok m') :
    m'.buffers = m.buffers.erase id ∧ m'.pools = m.pools := by
  unfold ShmManager.destroyBuffer at h
  split_ifs at h
  obtain rfl := Except.ok.inj h
  exact ⟨rfl, rfl⟩

theorem resizePool_tables {fileSize : Nat → Option Nat} {size : Int}
    (h : m.resizePool fileSize id size = .ok m') :
    (∀ other, m'.pools.contains other = m.pools.contains other) ∧ m'.buffers = m.buffers := by
  obtain ⟨pool, resized, _, _, hresized, rfl⟩ := ShmManager.resizePool_eq_ok h
  obtain ⟨hbuffers, hpools⟩ := resizeBacking_buffers hresized
  refine ⟨fun other => ?_, hbuffers⟩
  rw [← hpools]
  exact OrdMap.contains_modify

end Shm

section Mirrored

variable {f : Frame} {id : Nat}

theorem ShmMirrored.registered (h : ShmMirrored f) (havailable : f.registry.Available id)
    (hpool : object.interface ≠ .wlShmPool) (hbuffer : object.interface ≠ .wlBuffer) :
    ShmMirrored (f.registered id object) :=
  ⟨h.pools.registered havailable.none hpool, h.buffers.registered havailable.none hbuffer⟩

theorem ShmMirrored.retired (h : ShmMirrored f) (hobject : f.objects.get? id = some object)
    (hpool : object.interface ≠ .wlShmPool) (hbuffer : object.interface ≠ .wlBuffer) :
    ShmMirrored (f.retired id) :=
  ⟨h.pools.retired hobject hpool, h.buffers.retired hobject hbuffer⟩

theorem shmMirrored_stable : Stable shmTerms ShmMirrored where
  sent := fun _ _ h _ => ⟨h.pools, h.buffers⟩
  registered := fun _ _ _ _ h havailable hplain =>
    h.registered havailable (Interface.plain_ne hplain rfl) (Interface.plain_ne hplain rfl)
  retired := fun _ _ _ h hobject hplain =>
    h.retired hobject (Interface.plain_ne hplain rfl) (Interface.plain_ne hplain rfl)
  served := fun _ h _ => ⟨h.pools, h.buffers⟩
  announced := by
    intro f h
    obtain ⟨_, _, heq⟩ := f.announced_eq
    rw [heq]
    exact ⟨h.pools, h.buffers⟩
  surfaces := fun _ _ h _ => ⟨h.pools, h.buffers⟩
  outputs := fun _ _ h _ => ⟨h.pools, h.buffers⟩
  roles := fun _ _ h _ => ⟨h.pools, h.buffers⟩
  serials := fun _ _ h _ => ⟨h.pools, h.buffers⟩
  created := by
    intro f id version h havailable _
    have hregistered : ShmMirrored (f.registered id ⟨.wlSurface, version⟩) :=
      h.registered havailable (by simp) (by simp)
    exact ⟨hregistered.pools, hregistered.buffers⟩
  destroyed := by
    intro f id h hlive _
    obtain ⟨object, hobject, hinterface⟩ := hlive
    have hretired := h.retired hobject (by simp [hinterface]) (by simp [hinterface])
    exact ⟨hretired.pools, hretired.buffers⟩
  moved := by
    intro f id current h _ _ _
    obtain ⟨_, _, heq⟩ := f.moved_eq id current
    rw [heq]
    exact ⟨h.pools, h.buffers⟩
  bound := fun _ _ _ _ h _ _ => ⟨h.pools, h.buffers⟩
  outputEvent := fun _ _ _ _ _ _ hbanned => absurd hbanned.2 (by simp)
  method := by
    intro f id version _ h havailable
    have hregistered : ShmMirrored (f.registered id ⟨.zwpInputMethodV2, version⟩) :=
      h.registered havailable (by simp) (by simp)
    exact ⟨hregistered.pools, hregistered.buffers⟩
  unmade := by
    rintro f id interface version _ h havailable (rfl | rfl | rfl)
    · exact h.registered havailable (by simp) (by simp)
    · exact h.registered havailable (by simp) (by simp)
    · exact h.registered havailable (by simp) (by simp)
  pool := by
    intro f id version size shm h havailable hshm
    obtain ⟨hpools, hbuffers⟩ := createPool_pools hshm
    refine ⟨?_, ?_⟩
    · change Mirrors _ _ shm.pools
      rw [hpools]
      exact h.pools.added havailable.none rfl _
    · change Mirrors _ _ shm.buffers
      rw [hbuffers]
      exact h.buffers.registered havailable.none (by simp)
  poolResized := by
    intro f id fileSize size shm h hshm
    obtain ⟨hpools, hbuffers⟩ := resizePool_tables hshm
    refine ⟨h.pools.of_contains hpools, ?_⟩
    change Mirrors _ _ shm.buffers
    rw [hbuffers]
    exact h.buffers
  poolGone := by
    intro f id shm h hlive hshm
    obtain ⟨object, hobject, hinterface⟩ := hlive
    obtain ⟨hpools, hbuffers⟩ := destroyPool_pools hshm
    refine ⟨?_, ?_⟩
    · change Mirrors _ _ shm.pools
      rw [hpools]
      exact h.pools.removed
    · change Mirrors _ _ shm.buffers
      rw [hbuffers]
      exact h.buffers.retired hobject (by simp [hinterface])
  buffer := by
    intro f id version poolId offset width height stride format shm h havailable hshm
    obtain ⟨pool, _, _, _, _, rfl⟩ := ShmManager.createBuffer_eq_ok hshm
    exact ⟨h.pools.registered havailable.none (by simp), h.buffers.added havailable.none rfl _⟩
  bufferGone := by
    intro f id shm h hlive hshm
    obtain ⟨object, hobject, hinterface⟩ := hlive
    obtain ⟨hbuffers, hpools⟩ := destroyBuffer_buffers hshm
    refine ⟨?_, ?_⟩
    · change Mirrors _ _ shm.pools
      rw [hpools]
      exact h.pools.retired hobject (by simp [hinterface])
    · change Mirrors _ _ shm.buffers
      rw [hbuffers]
      exact h.buffers.removed
  undone := by
    intro f id object h havailable
    have hsame : (f.registry.objects.insert id object).erase id = f.registry.objects :=
      erase_insert havailable.none
    refine ⟨?_, ?_⟩
    · change Mirrors ((f.registry.objects.insert id object).erase id) _ _
      rw [hsame]
      exact h.pools
    · change Mirrors ((f.registry.objects.insert id object).erase id) _ _
      rw [hsame]
      exact h.buffers
  seat := fun _ _ h => ⟨h.pools, h.buffers⟩
  pointer := by
    intro f id version _ _ h havailable _ _
    have hregistered : ShmMirrored (f.registered id ⟨.wlPointer, version⟩) :=
      h.registered havailable (by simp) (by simp)
    exact ⟨hregistered.pools, hregistered.buffers⟩
  pointerGone := by
    intro f id _ h hlive _
    obtain ⟨object, hobject, hinterface⟩ := hlive
    have hretired := h.retired hobject (by simp [hinterface]) (by simp [hinterface])
    exact ⟨hretired.pools, hretired.buffers⟩
  keyboard := by
    intro f id version _ _ h havailable _
    have hregistered : ShmMirrored (f.registered id ⟨.wlKeyboard, version⟩) :=
      h.registered havailable (by simp) (by simp)
    exact ⟨hregistered.pools, hregistered.buffers⟩

end Mirrored

/-! Runs of dispatches, of which any may fail. -/

structure Dispatched where
  message : WaylandMessage
  fds : List Nat
  environment : Environment

def Dispatched.after (core : HeadlessWireCore) (step : Dispatched) : HeadlessWireCore :=
  match dispatchWithFds step.message step.fds step.environment core with
  | .ok _ core' => core'
  | .error _ core' => core'

def runDispatched (core : HeadlessWireCore) (steps : List Dispatched) : HeadlessWireCore :=
  steps.foldl Dispatched.after core

/-- Nothing is asked of a request. -/
structure Terms.Unasked (terms : Terms) : Prop where
  level : terms.level = .off fun _ => false
  safe : ¬ terms.safe
  mayBind : terms.mayBind
  mayCreate : ∀ f id, terms.mayCreate f id
  mayDestroy : ∀ f id, terms.mayDestroy f id
  mayClaim : ∀ f id, terms.mayClaim f id
  mayNest : ∀ f id, terms.mayNest f id
  mayPoint : ∀ f, terms.mayPoint f

theorem Terms.Unasked.admits (h : terms.Unasked) (core : HeadlessWireCore) (interface : Interface)
    (r : Request) (hconfigure : interface = .xdgSurface → r.opcode = 1 → terms.mayConfigure) :
    Admits terms core interface r := by
  have hspared : Spared terms.level core interface r := by
    rw [h.level]
    exact ⟨fun _ _ _ _ _ _ _ _ hbanned => absurd hbanned.2 (by simp),
      fun _ _ _ _ _ _ hbanned => absurd hbanned.2 (by simp)⟩
  exact hspared.admits h.level h.safe (fun _ _ => h.mayBind) (fun _ _ => h.mayCreate _ _)
    (fun _ _ _ _ _ => h.mayDestroy _ _) (fun _ _ _ _ => h.mayClaim _ _)
    (fun _ _ _ _ _ => h.mayNest _ _) (fun _ _ => h.mayPoint _) hconfigure

/-- The operation configures an extended surface. -/
def Operation.Configures (core : HeadlessWireCore) : Operation → Prop
  | .dispatch message _ _ => message.header.opcode = 1 ∧
    ∃ version, core.object? message.header.objectId = some ⟨.xdgSurface, version⟩
  | _ => False

theorem Terms.Unasked.admitted (h : terms.Unasked) (core : HeadlessWireCore) (operation : Operation)
    (hconfigure : operation.Configures core → terms.mayConfigure) :
    operation.Admitted terms core := by
  have hunsafe : ∀ P : Prop, terms.safe → P := fun _ hsafe => absurd hsafe h.safe
  cases operation with
  | dispatch =>
    intro object args hobject
    obtain ⟨interface, version⟩ := object
    refine h.admits _ interface _ fun hinterface hopcode => hconfigure ⟨hopcode, version, ?_⟩
    rw [hobject, ← hinterface]
  | acknowledge => trivial
  | reconfigureOutput => exact ⟨fun _ => h.mayBind, hunsafe _⟩
  | _ => exact hunsafe _

theorem shmTerms_unasked : shmTerms.Unasked :=
  ⟨rfl, id, trivial, fun _ _ => trivial, fun _ _ => trivial, fun _ _ => trivial,
    fun _ _ => trivial, fun _ => trivial⟩

theorem ShmMirrored.after (h : Holds ShmMirrored none core) (step : Dispatched) :
    Holds ShmMirrored none (step.after core) := by
  have hready : Holds ShmMirrored none (core.readied step.fds) :=
    ⟨h.anchored, h.kept.pools, h.kept.buffers⟩
  have hends : Ends (Tolerated shmTerms.safe (Left shmTerms ShmMirrored))
      (dispatchWithFds step.message step.fds step.environment) core fun events core' =>
        Holds ShmMirrored none core' ∧ events = core'.eventsOut :=
    dispatchWithFds_ends shmMirrored_stable h.left hready fun _ _ _ =>
      shmTerms_unasked.admits _ _ _ fun _ _ => trivial
  unfold Dispatched.after
  cases hresult : dispatchWithFds step.message step.fds step.environment core with
  | ok events core' => exact (hends.ok hresult).1
  | error fault core' => exact (hends.error hresult).2 trivial

theorem freshCore_mirrored (deferCallbacks deferFeedback : Bool) :
    Holds ShmMirrored none (freshCore deferCallbacks deferFeedback) := by
  have hnone : ∀ interface, interface ≠ .wlDisplay → ∀ id,
      ¬ LiveAs (freshCore deferCallbacks deferFeedback).frame.objects interface id := by
    intro interface hne id hlive
    rcases LiveAs.of_registered hlive with ⟨_, heq⟩ | ⟨_, hobject, _⟩
    · exact hne heq.symm
    · cases hobject
  refine ⟨freshCore_anchored _ _, fun id => ?_, fun id => ?_⟩
  · exact ⟨fun hlive => absurd hlive (hnone _ (by simp) id), fun hcontains => by cases hcontains⟩
  · exact ⟨fun hlive => absurd hlive (hnone _ (by simp) id), fun hcontains => by cases hcontains⟩

theorem runDispatched_holds (h : Holds ShmMirrored none core) (steps : List Dispatched) :
    Holds ShmMirrored none (runDispatched core steps) := by
  induction steps generalizing core with
  | nil => exact h
  | cons step rest ih => exact ih (ShmMirrored.after h step)

theorem runDispatched_mirrored (deferCallbacks deferFeedback : Bool) (steps : List Dispatched)
    (id : Nat) :
    let core := runDispatched (freshCore deferCallbacks deferFeedback) steps
    (LiveAs core.registry.objects .wlShmPool id ↔ core.shm.pools.contains id = true) ∧
      (LiveAs core.registry.objects .wlBuffer id ↔ core.shm.buffers.contains id = true) := by
  have hrun := runDispatched_holds (freshCore_mirrored deferCallbacks deferFeedback) steps
  exact ⟨hrun.kept.pools id, hrun.kept.buffers id⟩

end TuffXwin.Headless
