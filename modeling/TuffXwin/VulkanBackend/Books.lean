import Mathlib.Algebra.BigOperators.Group.List.Basic
import Mathlib.Data.List.Nodup
import TuffXwin.Lib.Session
import TuffXwin.VulkanBackend.Backend

/-! What the books of the GPU say. The held submissions are those of the two maps together;
their objects are the live ones, their sizes add up to the bytes in use, and no object of a
submission that the driver took is destroyed before its fence was seen signalled. -/

namespace TuffXwin.VulkanBackend
open Lib Lib.Ledger

variable {gpu : Gpu} {dropped : Bool}
variable {call : DriverCall} {answer : Except VkResult Unit} {memory size : Nat} {kind : ObjectKind}
  {α : Type} {entry : VulkanBatchHandle × VulkanStoredSubmission}

/-! The objects of a submission. -/

namespace GpuHandles

def kinds : List ObjectKind := [.fence, .commandBuffer, .descriptorPool, .buffer, .memory]

def object (handles : GpuHandles) (kind : ObjectKind) : Option GpuObject :=
  if handles.get kind = 0 then none else some ⟨kind, handles.get kind⟩

def objects (handles : GpuHandles) : List GpuObject := kinds.filterMap handles.object

variable {handles : GpuHandles} {kind : ObjectKind} {handle commandPool : Nat}

theorem mem_kinds : kind ∈ kinds := by
  cases kind <;> decide

theorem get_set {other : ObjectKind} :
    (handles.set handle kind).get other = if other = kind then handle else handles.get other := by
  cases kind <;> cases other <;> rfl

theorem mem_objects {object : GpuObject} :
    object ∈ handles.objects ↔ object.handle ≠ 0 ∧ handles.get object.kind = object.handle := by
  unfold objects
  rw [List.mem_filterMap]
  constructor
  · rintro ⟨kind, -, heq⟩
    unfold GpuHandles.object at heq
    split_ifs at heq with hzero
    obtain rfl := Option.some.inj heq
    exact ⟨hzero, rfl⟩
  · rintro ⟨hzero, hget⟩
    refine ⟨object.kind, mem_kinds, ?_⟩
    unfold GpuHandles.object
    rw [if_neg (hget ▸ hzero), hget]

theorem destroyed_eq (hpool : commandPool ≠ 0) :
    handles.destroyed commandPool = handles.objects := by
  unfold destroyed objects kinds object get
  by_cases hfence : handles.fence = 0 <;> by_cases hcommand : handles.commandBuffer = 0 <;>
    by_cases hdescriptor : handles.descriptorPool = 0 <;>
      by_cases hbuffer : handles.buffer = 0 <;> by_cases hmemory : handles.memory = 0 <;>
        simp [hfence, hcommand, hdescriptor, hbuffer, hmemory, hpool]

theorem objects_set (hnone : handles.get kind = 0) (hhandle : handle ≠ 0) :
    (handles.set handle kind).objects.Perm (⟨kind, handle⟩ :: handles.objects) := by
  have hkinds : kinds.Perm (kind :: kinds.erase kind) := List.perm_cons_erase mem_kinds
  have hnodup : kind ∉ kinds.erase kind := by
    cases kind <;> decide
  have hset : (handles.set handle kind).object kind = some ⟨kind, handle⟩ := by
    unfold object
    rw [get_set, if_pos rfl, if_neg hhandle]
  have hold : handles.object kind = none := by
    unfold object
    rw [if_pos hnone]
  have hothers : (kinds.erase kind).filterMap (handles.set handle kind).object =
      (kinds.erase kind).filterMap handles.object := by
    refine List.filterMap_congr fun other hother => ?_
    have hne : other ≠ kind := fun heq => hnodup (heq ▸ hother)
    unfold object
    rw [get_set, if_neg hne]
  have hnew := hkinds.filterMap (handles.set handle kind).object
  have hbefore := hkinds.filterMap handles.object
  rw [List.filterMap_cons_some hset, hothers] at hnew
  rw [List.filterMap_cons_none hold] at hbefore
  exact hnew.trans (hbefore.symm.cons _)

end GpuHandles

abbrev Calls := List (Event GpuObject DriverCall)

/-- The fence was seen signalled. -/
def Signalled (fence : Nat) (calls : Calls) : Prop :=
  ∃ now, .other (.fenceStatus fence (.ok true) now) ∈ calls

/-- The device was waited for. -/
def Idle (calls : Calls) : Prop := .other .deviceWaitIdle ∈ calls

abbrev Accepted := List (VulkanBatchHandle × VulkanStoredSubmission)

variable {accepted : Accepted}

/-- An object of an accepted submission is destroyed when its fence was seen signalled, or with
the backend when the device was waited for. -/
def Earned (dropped : Bool) (accepted : Accepted) (before : Calls) :
    Event GpuObject DriverCall → Prop
  | .destroy object => ∀ entry ∈ accepted, object ∈ entry.2.handles.objects →
    Signalled entry.2.handles.fence before ∨ dropped = true ∧ Idle before
  | _ => True

theorem Signalled.mono {fence : Nat} {calls calls' : Calls} (h : Signalled fence calls)
    (hsub : calls <+: calls') : Signalled fence calls' := by
  obtain ⟨now, hmem⟩ := h
  exact ⟨now, hsub.subset hmem⟩

/-! The driver's side. -/

/-- The live objects are those listed, and numbers are given out once. -/
structure GpuKept (gpu : Gpu) (objects : List GpuObject) : Prop where
  sound : Sound gpu.calls
  numbered : ∀ object, .create object ∈ gpu.calls → object.handle < gpu.nextHandle
  live : (live gpu.calls).Perm objects
  started : gpu.nextHandle ≠ 0

namespace GpuKept

variable {gpu : Gpu} {objects rest : List GpuObject}

theorem perm (h : GpuKept gpu objects) (hperm : objects.Perm rest) : GpuKept gpu rest :=
  ⟨h.sound, h.numbered, h.live.trans hperm, h.started⟩

theorem log (h : GpuKept gpu objects) (call : DriverCall) : GpuKept (gpu.log call) objects := by
  refine ⟨guarded_snoc.mpr ⟨h.sound, trivial⟩, fun object hmem => ?_, ?_, h.started⟩
  · refine h.numbered object ?_
    simpa [Gpu.log] using hmem
  · unfold Gpu.log
    rw [live_snoc]
    exact h.live

theorem create (h : GpuKept gpu objects) (kind : ObjectKind) :
    GpuKept (gpu.create kind) (⟨kind, gpu.nextHandle⟩ :: objects) := by
  have hnew : .create ⟨kind, gpu.nextHandle⟩ ∉ gpu.calls := fun hmem =>
    absurd (h.numbered _ hmem) (Nat.lt_irrefl _)
  refine ⟨guarded_snoc.mpr ⟨h.sound, hnew⟩, fun object hmem => ?_, ?_, Nat.succ_ne_zero _⟩
  · change object.handle < gpu.nextHandle + 1
    rcases List.mem_append.mp hmem with hold | hcreated
    · exact Nat.lt_succ_of_lt (h.numbered object hold)
    · obtain rfl := Event.create.inj (List.mem_singleton.mp hcreated)
      exact Nat.lt_succ_self _
  · unfold Gpu.create
    rw [live_snoc]
    exact h.live.cons _

theorem destroy (h : GpuKept gpu (objects ++ rest)) : GpuKept (gpu.destroy objects) rest := by
  obtain ⟨hsound, hlive⟩ := h.sound.destroyAll h.live
  refine ⟨hsound, fun object hmem => h.numbered object ?_, hlive, h.started⟩
  rcases List.mem_append.mp hmem with hold | hdestroyed
  · exact hold
  · obtain ⟨_, -, heq⟩ := List.mem_map.mp hdestroyed
    cases heq

theorem zeroize (h : GpuKept gpu objects) (answer : Except VkResult Unit) (memory size : Nat) :
    GpuKept (zeroizeDeviceMemory answer gpu memory size).1 objects := by
  unfold zeroizeDeviceMemory
  split_ifs
  · exact h
  · exact h.log _

/-- What is live was not destroyed before. -/
theorem not_destroyed (h : GpuKept gpu objects) {object : GpuObject} (hmem : object ∈ objects) :
    .destroy object ∉ gpu.calls := by
  have hlive := h.live.mem_iff.mpr hmem
  have hnone := h.sound.destroyed (h.sound.created_of_live hlive)
  rw [if_pos hlive, List.countP_eq_zero] at hnone
  intro hdestroyed
  have := hnone _ hdestroyed
  simp [Event.destroys] at this

end GpuKept

/-! A call that neither creates nor destroys leaves the log a longer one. -/

theorem Gpu.log_grown : gpu.calls <+: (gpu.log call).calls :=
  List.prefix_append _ _

theorem zeroizeDeviceMemory_grown :
    gpu.calls <+: (zeroizeDeviceMemory answer gpu memory size).1.calls := by
  unfold zeroizeDeviceMemory
  split_ifs
  · exact List.prefix_rfl
  · exact Gpu.log_grown

section

variable (h : Guarded (Earned dropped accepted) gpu.calls)
include h

theorem earned_log : Guarded (Earned dropped accepted) (gpu.log call).calls :=
  guarded_snoc.mpr ⟨h, trivial⟩

theorem earned_create : Guarded (Earned dropped accepted) (gpu.create kind).calls :=
  guarded_snoc.mpr ⟨h, trivial⟩

theorem earned_zeroize :
    Guarded (Earned dropped accepted) (zeroizeDeviceMemory answer gpu memory size).1.calls := by
  unfold zeroizeDeviceMemory
  split_ifs
  · exact h
  · exact earned_log h

/-- Objects that may be destroyed now may be destroyed one after the other. -/
theorem earned_destroy {objects : List GpuObject}
    (hearned : ∀ object ∈ objects, ∀ entry ∈ accepted, object ∈ entry.2.handles.objects →
      Signalled entry.2.handles.fence gpu.calls ∨ dropped = true ∧ Idle gpu.calls) :
    Guarded (Earned dropped accepted) (gpu.destroy objects).calls := by
  unfold Gpu.destroy
  generalize gpu.calls = calls at h hearned
  induction objects generalizing calls with
  | nil => simpa using h
  | cons object objects ih =>
    have hsnoc : Guarded (Earned dropped accepted) (calls ++ [.destroy object]) :=
      guarded_snoc.mpr ⟨h, hearned object List.mem_cons_self⟩
    have hrest := ih _ hsnoc fun other hother entry hentry hown =>
      (hearned other (List.mem_cons_of_mem _ hother) entry hentry hown).imp
        (·.mono (List.prefix_append _ _)) fun hidle => ⟨hidle.1, List.mem_append_left _ hidle.2⟩
    rwa [List.append_assoc] at hrest

end

/-! An attempt at a submission. -/

structure Attempt (start : Gpu) (dropped : Bool) (accepted : Accepted) (rest : List GpuObject)
    (commandPool : Nat) (attempt : Submitting) : Prop where
  kept : GpuKept attempt.gpu (attempt.pending.handles.objects ++ rest)
  earned : Guarded (Earned dropped accepted) attempt.gpu.calls
  grown : start.calls <+: attempt.gpu.calls
  later : start.nextHandle ≤ attempt.gpu.nextHandle
  own : ∀ object ∈ attempt.pending.handles.objects, start.nextHandle ≤ object.handle
  pool : attempt.pending.commandPool = commandPool

/-- The objects still to come are not there yet. -/
structure Awaiting (start : Gpu) (dropped : Bool) (accepted : Accepted) (rest : List GpuObject)
    (commandPool : Nat) (kinds : List ObjectKind) (size : Nat) (attempt : Submitting) : Prop where
  begun : Attempt start dropped accepted rest commandPool attempt
  none : ∀ kind ∈ kinds, attempt.pending.handles.get kind = 0
  size : attempt.pending.allocationSize = size

section Attempt

variable {start : Gpu} {dropped : Bool} {accepted : Accepted} {rest : List GpuObject}
  {commandPool size : Nat} {kinds : List ObjectKind}

theorem answered_attempt (answer : Except VkResult α) :
    Triple (Awaiting start dropped accepted rest commandPool kinds size) (answered answer)
      (fun _ => Awaiting start dropped accepted rest commandPool kinds size)
      (Attempt start dropped accepted rest commandPool) := by
  unfold answered
  cases answer with
  | ok value => exact Triple.pure fun _ h => h
  | error result => exact Triple.throw fun _ h => h.begun

theorem require_attempt (reason : String) (value : Option α) :
    Triple (Awaiting start dropped accepted rest commandPool kinds size) (require reason value)
      (fun _ => Awaiting start dropped accepted rest commandPool kinds size)
      (Attempt start dropped accepted rest commandPool) := by
  unfold require
  cases value with
  | some value => exact Triple.pure fun _ h => h
  | none => exact Triple.throw fun _ h => h.begun

theorem refuse_attempt (reason : String) (bad : Bool) :
    Triple (Awaiting start dropped accepted rest commandPool kinds size) (refuse reason bad)
      (fun _ attempt =>
        Awaiting start dropped accepted rest commandPool kinds size attempt ∧ bad = false)
      (Attempt start dropped accepted rest commandPool) := by
  unfold refuse
  cases bad with
  | true => exact Triple.throw fun _ h => h.begun
  | false => exact Triple.pure fun _ h => ⟨h, rfl⟩

theorem unrefused_attempt (reason : String) (bad : Bool) :
    Triple (Awaiting start dropped accepted rest commandPool kinds size) (refuse reason bad)
      (fun _ => Awaiting start dropped accepted rest commandPool kinds size)
      (Attempt start dropped accepted rest commandPool) :=
  (refuse_attempt reason bad).imp (fun _ _ h => h.1) fun _ h => h

theorem sized_attempt (memorySize : Nat) :
    Triple (Awaiting start dropped accepted rest commandPool kinds size)
      (modify fun attempt =>
        { attempt with pending := { attempt.pending with allocationSize := memorySize } } :
        SubmitM Unit)
      (fun _ => Awaiting start dropped accepted rest commandPool kinds memorySize)
      (Attempt start dropped accepted rest commandPool) :=
  Triple.modify fun _ h =>
    ⟨⟨h.begun.kept, h.begun.earned, h.begun.grown, h.begun.later, h.begun.own, h.begun.pool⟩,
      h.none, rfl⟩

theorem logged_attempt (call : Submitting → DriverCall) :
    Triple (Awaiting start dropped accepted rest commandPool kinds size)
      (modify fun attempt => { attempt with gpu := attempt.gpu.log (call attempt) } :
        SubmitM Unit)
      (fun _ => Awaiting start dropped accepted rest commandPool kinds size)
      (Attempt start dropped accepted rest commandPool) :=
  Triple.modify fun _ h =>
    ⟨⟨h.begun.kept.log _, earned_log h.begun.earned, h.begun.grown.trans Gpu.log_grown,
      h.begun.later, h.begun.own, h.begun.pool⟩, h.none, h.size⟩

/-- An allocation that is not refused is within the budget. -/
theorem fits_of_budget {current memorySize : Nat}
    (h : (usizeChecked (current + memorySize)).all (maxTotalGpuAllocationBytes < ·) = false) :
    current + memorySize ≤ maxTotalGpuAllocationBytes := by
  unfold usizeChecked at h
  split_ifs at h with hfits
  · simpa using h
  · simp at h

theorem createObject_attempt (hother : kind ∉ kinds) :
    Triple (Awaiting start dropped accepted rest commandPool (kind :: kinds) size) (createObject kind)
      (fun _ => Awaiting start dropped accepted rest commandPool kinds size)
      (Attempt start dropped accepted rest commandPool) := by
  unfold createObject
  refine Triple.modify fun attempt h => ?_
  obtain ⟨⟨hkept, hearned, hgrown, hlater, hown, hpool⟩, hnone, hsize⟩ := h
  have hset := GpuHandles.objects_set (hnone kind List.mem_cons_self) hkept.started
  refine ⟨⟨?_, earned_create hearned, ?_, Nat.le_succ_of_le hlater, fun object hobject => ?_,
    hpool⟩, fun other hmem => ?_, hsize⟩
  · exact (hkept.create kind).perm (hset.symm.append_right rest)
  · exact hgrown.trans (List.prefix_append _ _)
  · rcases List.mem_cons.mp (hset.mem_iff.mp hobject) with rfl | hold
    · exact hlater
    · exact hown object hold
  · have hne : other ≠ kind := fun heq => hother (heq ▸ hmem)
    rw [GpuHandles.get_set, if_neg hne]
    exact hnone other (List.mem_cons_of_mem _ hmem)

/-- An attempt that succeeds stores the objects that it created, within the budget. -/
theorem trySubmitM_attempt (inner : VulkanBackendInner) (submission : VulkanBatchSubmission)
    (timeout : Nat) (answers : SubmitAnswers) :
    Triple
      (Awaiting start dropped accepted rest commandPool
        [.buffer, .memory, .commandBuffer, .descriptorPool, .fence] 0)
      (trySubmitM inner submission timeout answers)
      (fun stored attempt => Attempt start dropped accepted rest commandPool attempt ∧
        stored.handles = attempt.pending.handles ∧ stored.completedAt = none ∧
        stored.workload = submission.workload ∧
        inner.metrics.currentGpuAllocationBytes + stored.allocationSize ≤
          maxTotalGpuAllocationBytes)
      (Attempt start dropped accepted rest commandPool) := by
  unfold trySubmitM
  refine (answered_attempt _).bind fun _ => (createObject_attempt (by decide)).bind fun _ => ?_
  refine (refuse_attempt _ _).bind fun _ => Triple.each fun attempt hbudget => ?_
  obtain ⟨hawaiting, hbudget⟩ := hbudget
  have hfits : inner.metrics.currentGpuAllocationBytes + answers.memorySize ≤
      maxTotalGpuAllocationBytes := fits_of_budget hbudget
  have hhere : ∀ s, s = attempt → Awaiting start dropped accepted rest commandPool
      [.memory, .commandBuffer, .descriptorPool, .fence] 0 s := by
    rintro s rfl
    exact hawaiting
  refine Triple.weaken ?_ hhere (fun _ _ h => h) fun _ h => h
  refine (unrefused_attempt _ _).bind fun _ => (require_attempt _ _).bind fun _ => ?_
  refine (answered_attempt _).bind fun _ => (createObject_attempt (by decide)).bind fun _ => ?_
  refine (sized_attempt answers.memorySize).bind fun _ => ?_
  refine (answered_attempt _).bind fun _ => (answered_attempt _).bind fun _ => ?_
  refine (logged_attempt _).bind fun _ => ?_
  refine (answered_attempt _).bind fun _ => (unrefused_attempt _ _).bind fun _ => ?_
  refine (createObject_attempt (by decide)).bind fun _ => (answered_attempt _).bind fun _ => ?_
  refine (answered_attempt _).bind fun _ => (createObject_attempt (by decide)).bind fun _ => ?_
  refine (answered_attempt _).bind fun _ => (unrefused_attempt _ _).bind fun _ => ?_
  refine (require_attempt _ _).bind fun _ => (require_attempt _ _).bind fun _ => ?_
  refine (answered_attempt _).bind fun _ => (answered_attempt _).bind fun _ => ?_
  refine (createObject_attempt (by decide)).bind fun _ => (answered_attempt _).bind fun _ => ?_
  refine Triple.get_bind fun attempt hdone => ?_
  refine (Triple.set (R := fun _ s => s = { attempt with
    gpu := attempt.gpu.log (.queueSubmit attempt.pending.handles.commandBuffer
      attempt.pending.handles.fence) }) rfl).bind fun _ => Triple.pure ?_
  rintro s rfl
  obtain ⟨⟨hkept, hearned, hgrown, hlater, hown, hpool⟩, -, hsize⟩ := hdone
  refine ⟨⟨hkept.log _, earned_log hearned, hgrown.trans Gpu.log_grown, hlater, hown, hpool⟩,
    rfl, rfl, rfl, ?_⟩
  rwa [hsize]

end Attempt

theorem dropPending_kept {start : Gpu} {rest : List GpuObject} {commandPool : Nat}
    {attempt : Submitting} (answers : SubmitAnswers)
    (h : Attempt start dropped accepted rest commandPool attempt) (hpool : commandPool ≠ 0)
    (hbefore : ∀ entry ∈ accepted, ∀ object ∈ entry.2.handles.objects,
      object.handle < start.nextHandle) :
    GpuKept (dropPending answers attempt) rest ∧
      Guarded (Earned dropped accepted) (dropPending answers attempt).calls ∧
      start.calls <+: (dropPending answers attempt).calls := by
  obtain ⟨hkept, hearned, hgrown, hlater, hown, hpending⟩ := h
  have hnone : ∀ object ∈ attempt.pending.handles.objects, ∀ entry ∈ accepted,
      object ∉ entry.2.handles.objects := fun object hobject entry hentry hmem =>
    absurd (hbefore entry hentry object hmem) (Nat.not_lt.mpr (hown object hobject))
  have hdestroyed : attempt.pending.handles.destroyed attempt.pending.commandPool =
      attempt.pending.handles.objects := GpuHandles.destroyed_eq (hpending ▸ hpool)
  unfold dropPending
  dsimp only
  rw [hdestroyed]
  split_ifs
  · refine ⟨(hkept.zeroize _ _ _).destroy, earned_destroy (earned_zeroize hearned) ?_, ?_⟩
    · exact fun object hobject entry hentry hmem =>
        absurd hmem (hnone object hobject entry hentry)
    · exact (hgrown.trans zeroizeDeviceMemory_grown).trans (List.prefix_append _ _)
  · refine ⟨hkept.destroy, earned_destroy hearned ?_, hgrown.trans (List.prefix_append _ _)⟩
    exact fun object hobject entry hentry hmem => absurd hmem (hnone object hobject entry hentry)

/-! The books. -/

/-- The part of the state that the books are about. -/
structure Ledger where
  gpu : Gpu
  accepted : Accepted
  device : Bool
  commandPool : Nat
  bytes : Nat
  nextSubmissionId : Nat
  submissionGeneration : Nat
  handleSpaceExhausted : Bool
  dropped : Bool

def VulkanBackendInner.ledger (inner : VulkanBackendInner) : Ledger where
  gpu := inner.gpu
  accepted := inner.accepted
  device := inner.device
  commandPool := inner.commandPool
  bytes := inner.metrics.currentGpuAllocationBytes
  nextSubmissionId := inner.nextSubmissionId
  submissionGeneration := inner.submissionGeneration
  handleSpaceExhausted := inner.handleSpaceExhausted
  dropped := inner.dropped

/-- A key that was given out. -/
def Ledger.Below (ledger : Ledger) (key : SubmissionKey) : Prop :=
  key.generation < ledger.submissionGeneration ∨
    key.generation = ledger.submissionGeneration ∧
      (key.id < ledger.nextSubmissionId ∨
        ledger.handleSpaceExhausted = true ∧ key.id = ledger.nextSubmissionId)

abbrev Held := List (SubmissionKey × VulkanStoredSubmission)

/-- A held submission is the one accepted under its key; only its completion was added, and
that when its fence was seen signalled. -/
def Owned (ledger : Ledger) (entry : SubmissionKey × VulkanStoredSubmission) : Prop :=
  ∃ owner ∈ ledger.accepted, handleKey owner.1 = entry.1 ∧
    owner.2 = { entry.2 with completedAt := none } ∧
    (entry.2.completedAt.isSome → Signalled entry.2.handles.fence ledger.gpu.calls)

structure Books (ledger : Ledger) (held : Held) : Prop where
  gpu : GpuKept ledger.gpu (held.flatMap fun entry => entry.2.handles.objects)
  earned : Guarded (Earned ledger.dropped ledger.accepted) ledger.gpu.calls
  keys : (held.map Prod.fst).Nodup
  count : held.length ≤ maxPendingGpuSubmissions
  bytes : ledger.bytes = (held.map fun entry => entry.2.allocationSize).sum
  budget : ledger.bytes ≤ maxTotalGpuAllocationBytes
  device : held ≠ [] → ledger.device = true
  pool : ledger.device = true → ledger.commandPool ≠ 0
  owned : ∀ entry ∈ held, Owned ledger entry
  identities : (ledger.accepted.map fun entry => handleKey entry.1).Nodup
  apart : ∀ entry ∈ ledger.accepted, ∀ other ∈ ledger.accepted, ∀ object,
    object ∈ entry.2.handles.objects → object ∈ other.2.handles.objects → entry = other
  created : ∀ entry ∈ ledger.accepted, ∀ object ∈ entry.2.handles.objects,
    .create object ∈ ledger.gpu.calls
  below : ∀ entry ∈ ledger.accepted, ledger.Below (handleKey entry.1)
  started : ledger.nextSubmissionId ≠ 0

/-- Of two accepted submissions under one key there is one. -/
theorem Books.unique {ledger : Ledger} {held : Held} (h : Books ledger held)
    {other : VulkanBatchHandle × VulkanStoredSubmission} (hentry : entry ∈ ledger.accepted)
    (hother : other ∈ ledger.accepted) (hkey : handleKey entry.1 = handleKey other.1) :
    entry = other :=
  List.inj_on_of_nodup_map h.identities hentry hother hkey

theorem Owned.mono {ledger ledger' : Ledger} {entry : SubmissionKey × VulkanStoredSubmission}
    (h : Owned ledger entry) (haccepted : ∀ owner ∈ ledger.accepted, owner ∈ ledger'.accepted)
    (hcalls : ledger.gpu.calls <+: ledger'.gpu.calls) : Owned ledger' entry := by
  obtain ⟨owner, howner, hkey, hsame, hsignalled⟩ := h
  exact ⟨owner, haccepted owner howner, hkey, hsame, fun hdone => (hsignalled hdone).mono hcalls⟩

namespace Books

variable {ledger : Ledger} {held held' rest : Held} {key : SubmissionKey}
  {submission : VulkanStoredSubmission}

section

variable (h : Books ledger held)
include h

theorem perm (hperm : held.Perm held') : Books ledger held' where
  gpu := h.gpu.perm (hperm.flatMap_right _)
  earned := h.earned
  keys := (hperm.map _).nodup_iff.mp h.keys
  count := hperm.length_eq ▸ h.count
  bytes := h.bytes.trans (hperm.map _).sum_eq
  budget := h.budget
  device hne := h.device fun hnil => hne (List.nil_perm.mp (hnil ▸ hperm))
  pool := h.pool
  owned entry hentry := h.owned entry (hperm.mem_iff.mpr hentry)
  identities := h.identities
  apart := h.apart
  created := h.created
  below := h.below
  started := h.started

/-- The books after calls that leave the same objects live. -/
theorem called (hgpu : GpuKept gpu (held.flatMap fun entry => entry.2.handles.objects))
    (hearned : Guarded (Earned ledger.dropped ledger.accepted) gpu.calls)
    (hgrown : ledger.gpu.calls <+: gpu.calls) : Books { ledger with gpu := gpu } held where
  gpu := hgpu
  earned := hearned
  keys := h.keys
  count := h.count
  bytes := h.bytes
  budget := h.budget
  device := h.device
  pool := h.pool
  owned entry hentry := (h.owned entry hentry).mono (fun _ howner => howner) hgrown
  identities := h.identities
  apart := h.apart
  created entry hentry object hobject := hgrown.subset (h.created entry hentry object hobject)
  below := h.below
  started := h.started

theorem log (call : DriverCall) : Books { ledger with gpu := ledger.gpu.log call } held :=
  h.called (h.gpu.log call) (earned_log h.earned) Gpu.log_grown

/-- The books after keys were given out. -/
theorem advance {nextSubmissionId submissionGeneration : Nat} {handleSpaceExhausted : Bool}
    (hstarted : nextSubmissionId ≠ 0) (hbelow : ∀ key, ledger.Below key → { ledger with
      nextSubmissionId, submissionGeneration, handleSpaceExhausted : Ledger }.Below key) :
    Books { ledger with nextSubmissionId, submissionGeneration, handleSpaceExhausted } held where
  gpu := h.gpu
  earned := h.earned
  keys := h.keys
  count := h.count
  bytes := h.bytes
  budget := h.budget
  device := h.device
  pool := h.pool
  owned := h.owned
  identities := h.identities
  apart := h.apart
  created := h.created
  below entry hentry := hbelow _ (h.below entry hentry)
  started := hstarted

theorem zeroize (answer : Except VkResult Unit) (memory size : Nat) :
    Books { ledger with gpu := (zeroizeDeviceMemory answer ledger.gpu memory size).1 } held := by
  unfold zeroizeDeviceMemory
  split_ifs
  · exact h
  · exact h.log _

end

/-- The objects of a held submission belong to its owner alone. -/
theorem owner (h : Books ledger ((key, submission) :: rest)) {object : GpuObject}
    (hobject : object ∈ submission.handles.objects) (hentry : entry ∈ ledger.accepted)
    (hmem : object ∈ entry.2.handles.objects) : entry.2.handles = submission.handles := by
  obtain ⟨owner, howner, -, hsame, -⟩ := h.owned (key, submission) List.mem_cons_self
  have hhandles : owner.2.handles = submission.handles := by rw [hsame]
  obtain rfl := h.apart entry hentry owner howner object hmem (hhandles ▸ hobject)
  exact hhandles

/-- A submission whose fence was seen signalled, or after the device was waited for, leaves the
books with its objects and its bytes. -/
theorem release (h : Books ledger ((key, submission) :: rest))
    (hdone : Signalled submission.handles.fence ledger.gpu.calls ∨
      ledger.dropped = true ∧ Idle ledger.gpu.calls) :
    Books
      { ledger with
        gpu := ledger.gpu.destroy submission.handles.objects
        bytes := ledger.bytes - submission.allocationSize } rest where
  gpu := h.gpu.destroy
  earned := earned_destroy h.earned fun object hobject entry hentry hmem => by
    rw [h.owner hobject hentry hmem]
    exact hdone
  keys := (List.nodup_cons.mp h.keys).2
  count := Nat.le_of_succ_le h.count
  bytes := by
    have hbytes := h.bytes
    rw [List.map_cons, List.sum_cons] at hbytes
    dsimp only at hbytes
    change ledger.bytes - submission.allocationSize = _
    omega
  budget := (Nat.sub_le _ _).trans h.budget
  device _ := h.device (List.cons_ne_nil _ _)
  pool := h.pool
  owned entry hentry := (h.owned entry (List.mem_cons_of_mem _ hentry)).mono
    (fun _ howner => howner) (List.prefix_append _ _)
  identities := h.identities
  apart := h.apart
  created entry hentry object hobject :=
    List.mem_append_left _ (h.created entry hentry object hobject)
  below := h.below
  started := h.started

/-- Without submissions the books may be closed. -/
theorem close (h : Books ledger []) : Books { ledger with device := false, bytes := 0 } [] where
  gpu := h.gpu
  earned := h.earned
  keys := h.keys
  count := h.count
  bytes := rfl
  budget := Nat.zero_le _
  device hne := absurd rfl hne
  pool hdevice := by cases hdevice
  owned entry hentry := by cases hentry
  identities := h.identities
  apart := h.apart
  created := h.created
  below := h.below
  started := h.started

/-- From now on waiting for the device is enough. -/
theorem drop (h : Books ledger held) : Books { ledger with dropped := true } held where
  gpu := h.gpu
  earned := h.earned.mono fun before event _ hold => by
    cases event with
    | destroy object =>
      intro entry hentry hmem
      exact (hold entry hentry hmem).imp_right fun hidle => ⟨rfl, hidle.2⟩
    | create => trivial
    | other => trivial
  keys := h.keys
  count := h.count
  bytes := h.bytes
  budget := h.budget
  device := h.device
  pool := h.pool
  owned := h.owned
  identities := h.identities
  apart := h.apart
  created := h.created
  below := h.below
  started := h.started

/-- A held submission whose fence was seen signalled may be marked completed. -/
theorem complete (h : Books ledger ((key, submission) :: rest)) (now : Nat)
    (hdone : Signalled submission.handles.fence ledger.gpu.calls) :
    Books ledger ((key, { submission with completedAt := some now }) :: rest) where
  gpu := h.gpu
  earned := h.earned
  keys := h.keys
  count := h.count
  bytes := h.bytes
  budget := h.budget
  device _ := h.device (List.cons_ne_nil _ _)
  pool := h.pool
  owned entry hentry := by
    rcases List.mem_cons.mp hentry with rfl | hrest
    · obtain ⟨owner, howner, hkey, hsame, -⟩ := h.owned (key, submission) List.mem_cons_self
      exact ⟨owner, howner, hkey, hsame, fun _ => hdone⟩
    · exact h.owned entry (List.mem_cons_of_mem _ hrest)
  identities := h.identities
  apart := h.apart
  created := h.created
  below := h.below
  started := h.started

/-- A submission that the driver took enters the books under a key that no other has. -/
theorem store (h : Books ledger held) {handle : VulkanBatchHandle} {stored : VulkanStoredSubmission}
    (hgpu : GpuKept gpu
      (stored.handles.objects ++ held.flatMap fun entry => entry.2.handles.objects))
    (hearned : Guarded (Earned ledger.dropped ledger.accepted) gpu.calls)
    (hgrown : ledger.gpu.calls <+: gpu.calls)
    (hown : ∀ object ∈ stored.handles.objects, ledger.gpu.nextHandle ≤ object.handle)
    (hfresh : ∀ entry ∈ ledger.accepted, handleKey entry.1 ≠ handleKey handle)
    (hbelow : ledger.Below (handleKey handle)) (hpending : stored.completedAt = none)
    (hroom : held.length < maxPendingGpuSubmissions) (hdevice : ledger.device = true)
    (hfits : ledger.bytes + stored.allocationSize ≤ maxTotalGpuAllocationBytes) :
    Books
      { ledger with
        gpu := gpu
        bytes := ledger.bytes + stored.allocationSize
        accepted := ledger.accepted ++ [(handle, stored)] }
      ((handleKey handle, stored) :: held) := by
  have hbefore : ∀ entry ∈ ledger.accepted, ∀ object ∈ entry.2.handles.objects,
      object ∉ stored.handles.objects := fun entry hentry object hobject hmem =>
    absurd (h.gpu.numbered object (h.created entry hentry object hobject))
      (Nat.not_lt.mpr (hown object hmem))
  have hknown : ∀ entry ∈ held, entry.1 ≠ handleKey handle := by
    intro entry hentry heq
    obtain ⟨owner, howner, hkey, -⟩ := h.owned entry hentry
    exact hfresh owner howner (hkey.trans heq)
  refine ⟨hgpu, ?_, ?_, hroom, ?_, hfits, fun _ => hdevice, h.pool, ?_, ?_, ?_, ?_, ?_,
    h.started⟩
  · refine hearned.mono fun before event hprefix hold => ?_
    cases event with
    | destroy object =>
      intro entry hentry hmem
      rcases List.mem_append.mp hentry with hentry | hnew
      · exact hold entry hentry hmem
      · -- What is new is live, so it was not destroyed in this log.
        obtain rfl := List.mem_singleton.mp hnew
        have hdestroyed : .destroy object ∈ gpu.calls := hprefix.subset (by simp)
        exact absurd hdestroyed (hgpu.not_destroyed (List.mem_append_left _ hmem))
    | create => trivial
    | other => trivial
  · refine List.nodup_cons.mpr ⟨fun hmem => ?_, h.keys⟩
    obtain ⟨entry, hentry, heq⟩ := List.mem_map.mp hmem
    exact hknown entry hentry heq
  · change ledger.bytes + stored.allocationSize = _
    rw [List.map_cons, List.sum_cons, h.bytes, Nat.add_comm]
  · intro entry hentry
    rcases List.mem_cons.mp hentry with rfl | hold
    · refine ⟨(handle, stored), List.mem_append_right _ (List.mem_singleton_self _), rfl, ?_, ?_⟩
      · rw [← hpending]
      · intro hdone
        rw [hpending] at hdone
        cases hdone
    · exact (h.owned entry hold).mono (fun _ howner => List.mem_append_left _ howner) hgrown
  · change (List.map _ (ledger.accepted ++ [(handle, stored)])).Nodup
    rw [List.map_append]
    refine List.nodup_append.mpr ⟨h.identities, List.pairwise_singleton _ _, ?_⟩
    intro key hkey other hother heq
    obtain ⟨entry, hentry, rfl⟩ := List.mem_map.mp hkey
    exact hfresh entry hentry (heq.trans (List.mem_singleton.mp hother))
  · intro entry hentry other hother object hobject hmem
    rcases List.mem_append.mp hentry with hentry | hnew <;>
      rcases List.mem_append.mp hother with hother | hnew'
    · exact h.apart entry hentry other hother object hobject hmem
    · obtain rfl := List.mem_singleton.mp hnew'
      exact absurd hmem (hbefore entry hentry object hobject)
    · obtain rfl := List.mem_singleton.mp hnew
      exact absurd hobject (hbefore other hother object hmem)
    · rw [List.mem_singleton.mp hnew, List.mem_singleton.mp hnew']
  · intro entry hentry object hobject
    rcases List.mem_append.mp hentry with hentry | hnew
    · exact hgrown.subset (h.created entry hentry object hobject)
    · obtain rfl := List.mem_singleton.mp hnew
      exact hgpu.sound.created_of_live (hgpu.live.mem_iff.mpr (List.mem_append_left _ hobject))
  · intro entry hentry
    rcases List.mem_append.mp hentry with hentry | hnew
    · exact h.below entry hentry
    · obtain rfl := List.mem_singleton.mp hnew
      exact hbelow

end Books

end TuffXwin.VulkanBackend
