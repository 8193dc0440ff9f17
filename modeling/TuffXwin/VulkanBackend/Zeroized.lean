import TuffXwin.VulkanBackend.Runs

/-! Words that have to be cleared, from the copy into the memory of a submission to the end of
that memory. A submission whose memory cannot be overwritten is kept when it is released, and
is not kept when an attempt is given up or the backend is dropped. -/

namespace TuffXwin.VulkanBackend
open Lib Lib.Ledger

variable {gpu : Gpu} {handles : GpuHandles}
variable {accepted : Accepted} {rest : List GpuObject} {ledger : Ledger} {key : SubmissionKey}
  {submission : VulkanStoredSubmission}

/-- How much of a memory has to be overwritten, after one more event. -/
def dirtied (memory : Nat) (dirt : Option Nat) : Event GpuObject DriverCall → Option Nat
  | .other (.writeWords written allocationSize requiresZeroize) =>
    if written = memory ∧ requiresZeroize = true then some allocationSize else dirt
  | .other (.zeroize zeroized allocationSize (.ok ())) =>
    if zeroized = memory ∧ dirt = some allocationSize then none else dirt
  | _ => dirt

/-- The whole allocation, once words that have to be cleared were copied into it, until it is
overwritten with zeros. -/
def dirt (calls : Calls) (memory : Nat) : Option Nat := calls.foldl (dirtied memory) none

/-- There is nothing left to overwrite. -/
def Clean (calls : Calls) (memory : Nat) : Prop := ∀ size, dirt calls memory = some size → size = 0

def FreedClean (before : Calls) : Event GpuObject DriverCall → Prop
  | .destroy object => object.kind = .memory → Clean before object.handle
  | _ => True

/-- Every memory was clean when it was freed. -/
abbrev AllFreedClean (calls : Calls) : Prop := Guarded FreedClean calls

variable {calls : Calls} {memory other size : Nat}

@[simp] theorem dirt_snoc (event : Event GpuObject DriverCall) :
    dirt (calls ++ [event]) memory = dirtied memory (dirt calls memory) event := by
  unfold dirt
  rw [List.foldl_append]
  rfl

@[simp] theorem dirt_destroy (objects : List GpuObject) :
    dirt (calls ++ objects.map .destroy) memory = dirt calls memory := by
  induction objects generalizing calls with
  | nil => simp
  | cons object objects ih =>
    have hrest := @ih (calls ++ [.destroy object])
    rw [dirt_snoc, List.append_assoc] at hrest
    exact hrest

theorem freedClean_destroy_iff (objects : List GpuObject) :
    AllFreedClean (calls ++ objects.map .destroy) ↔
      AllFreedClean calls ∧ ∀ object ∈ objects, object.kind = .memory →
        Clean calls object.handle := by
  induction objects generalizing calls with
  | nil => simp
  | cons object objects ih =>
    have hfirst : AllFreedClean (calls ++ [.destroy object]) ↔
        AllFreedClean calls ∧ FreedClean calls (.destroy object) := guarded_snoc
    have hclean : ∀ handle, Clean (calls ++ [.destroy object]) handle ↔ Clean calls handle := by
      intro handle
      unfold Clean
      rw [dirt_snoc]
      rfl
    have hrest := @ih (calls ++ [.destroy object])
    simp only [hclean, hfirst, List.append_assoc, List.singleton_append] at hrest
    rw [List.map_cons, hrest, List.forall_mem_cons, and_assoc]
    rfl

/-- What a zeroization leaves of the dirt. -/
theorem dirt_zeroize (answer : Except VkResult Unit) (gpu : Gpu) :
    dirt (zeroizeDeviceMemory answer gpu memory size).1.calls other =
      if other = memory ∧ memory ≠ 0 ∧ size ≠ 0 ∧ answer = .ok () ∧
        dirt gpu.calls other = some size then none
      else dirt gpu.calls other := by
  unfold zeroizeDeviceMemory
  by_cases hnone : memory = 0 ∨ size = 0
  · rw [if_pos hnone, if_neg]
    tauto
  · rw [if_neg hnone]
    unfold Gpu.log
    rw [dirt_snoc]
    obtain ⟨hmemory, hsize⟩ := not_or.mp hnone
    cases answer with
    | error result => simp [dirtied]
    | ok done => simp [dirtied, hmemory, hsize, eq_comm]

theorem freedClean_zeroize (answer : Except VkResult Unit) (gpu : Gpu) :
    AllFreedClean (zeroizeDeviceMemory answer gpu memory size).1.calls ↔
      AllFreedClean gpu.calls := by
  unfold zeroizeDeviceMemory
  split_ifs
  · exact Iff.rfl
  · exact guarded_snoc.trans (and_iff_left trivial)

/-- A memory is overwritten, if it has to be, and freed with the other objects. -/
def overwriteAndFree (gpu : Gpu) (requiresZeroize : Bool) (answer : Except VkResult Unit)
    (allocationSize : Nat) (handles : GpuHandles) : Gpu :=
  (if requiresZeroize then
    (zeroizeDeviceMemory answer gpu handles.memory allocationSize).1
  else gpu).destroy handles.objects

/-- A memory that is freed this way is clean just when it can be overwritten. -/
theorem overwriteAndFree_iff {requiresZeroize : Bool} {answer : Except VkResult Unit}
    {allocationSize : Nat} (hmemory : handles.memory ≠ 0) (hdirt : dirt gpu.calls handles.memory =
      if requiresZeroize then some allocationSize else none) :
    AllFreedClean (overwriteAndFree gpu requiresZeroize answer allocationSize handles).calls ↔
      AllFreedClean gpu.calls ∧
        (requiresZeroize = true → allocationSize ≠ 0 → answer = .ok ()) := by
  have hfreed : ∀ calls, (∀ object ∈ handles.objects, object.kind = .memory →
      Clean calls object.handle) ↔ Clean calls handles.memory := by
    intro calls
    constructor
    · intro h
      exact h ⟨.memory, handles.memory⟩ (GpuHandles.mem_objects.mpr ⟨hmemory, rfl⟩) rfl
    · intro h object hobject hkind
      obtain ⟨-, hget⟩ := GpuHandles.mem_objects.mp hobject
      rw [hkind] at hget
      exact hget ▸ h
  unfold overwriteAndFree Gpu.destroy
  rw [freedClean_destroy_iff, hfreed]
  cases requiresZeroize with
  | false => simp [Clean, hdirt]
  | true =>
    rw [if_pos rfl, freedClean_zeroize]
    refine and_congr_right fun _ => ?_
    unfold Clean
    rw [dirt_zeroize, hdirt, if_pos rfl]
    by_cases hsize : allocationSize = 0
    · simp [hsize]
    · by_cases hanswer : answer = .ok ()
      · simp [hmemory, hanswer]
      · simp [hsize, hanswer]

/-- So is one that nothing has to be cleared in, whatever the answer. -/
theorem overwriteAndFree_clean (hclean : handles.memory ≠ 0 → Clean gpu.calls handles.memory)
    (hfreed : AllFreedClean gpu.calls) (requiresZeroize : Bool) (answer : Except VkResult Unit)
    (allocationSize : Nat) :
    AllFreedClean
      (overwriteAndFree gpu requiresZeroize answer allocationSize handles).calls := by
  have hmemory : ∀ object ∈ handles.objects, object.kind = .memory →
      Clean gpu.calls object.handle := by
    intro object hobject hkind
    obtain ⟨hzero, hget⟩ := GpuHandles.mem_objects.mp hobject
    rw [hkind] at hget
    change handles.memory = object.handle at hget
    rw [← hget]
    exact hclean (hget ▸ hzero)
  unfold overwriteAndFree Gpu.destroy
  rw [freedClean_destroy_iff]
  cases requiresZeroize with
  | false => exact ⟨hfreed, hmemory⟩
  | true =>
    rw [if_pos rfl, freedClean_zeroize]
    refine ⟨hfreed, fun object hobject hkind size hsize => ?_⟩
    rw [dirt_zeroize] at hsize
    split_ifs at hsize
    exact hmemory object hobject hkind size hsize

/-! What is known of every memory. -/

def VulkanStoredSubmission.owed (submission : VulkanStoredSubmission) : Option Nat :=
  if submission.requiresZeroize then some submission.allocationSize else none

/-- The memory of a submission that the driver took is still to be overwritten, as long as it is
there; a memory that is not there yet has nothing in it. -/
structure Wiped (gpu : Gpu) (accepted : Accepted) : Prop where
  fresh : ∀ memory, gpu.nextHandle ≤ memory → dirt gpu.calls memory = none
  made : ∀ entry ∈ accepted, entry.2.handles.memory ≠ 0
  owed : ∀ entry ∈ accepted, ⟨.memory, entry.2.handles.memory⟩ ∈ live gpu.calls →
    dirt gpu.calls entry.2.handles.memory = entry.2.owed

/-- A call that says nothing of a memory. -/
theorem Wiped.log (h : Wiped gpu accepted) {call : DriverCall}
    (hquiet : ∀ memory dirt, dirtied memory dirt (.other call) = dirt) :
    Wiped (gpu.log call) accepted := by
  have hdirt : ∀ memory, dirt (gpu.log call).calls memory = dirt gpu.calls memory := by
    intro memory
    unfold Gpu.log
    rw [dirt_snoc, hquiet]
  refine ⟨fun memory hmemory => ?_, h.made, fun entry hentry hlive => ?_⟩
  · rw [hdirt]
    exact h.fresh memory hmemory
  · rw [hdirt]
    refine h.owed entry hentry ?_
    unfold Gpu.log at hlive
    rwa [live_snoc] at hlive

theorem overwriteAndFree_kept (hkept : GpuKept gpu (handles.objects ++ rest))
    (requiresZeroize : Bool) (answer : Except VkResult Unit) (allocationSize : Nat) :
    GpuKept (overwriteAndFree gpu requiresZeroize answer allocationSize handles) rest := by
  unfold overwriteAndFree
  split_ifs
  · exact (hkept.zeroize _ _ _).destroy
  · exact hkept.destroy

theorem dirt_overwriteAndFree (gpu : Gpu) (requiresZeroize : Bool)
    (answer : Except VkResult Unit) (allocationSize : Nat) (handles : GpuHandles) (memory : Nat) :
    dirt (overwriteAndFree gpu requiresZeroize answer allocationSize handles).calls memory =
        dirt gpu.calls memory ∨
      memory = handles.memory ∧
        dirt (overwriteAndFree gpu requiresZeroize answer allocationSize handles).calls memory =
          none := by
  unfold overwriteAndFree Gpu.destroy
  rw [dirt_destroy]
  cases requiresZeroize with
  | false => exact .inl rfl
  | true =>
    rw [if_pos rfl, dirt_zeroize]
    split_ifs with hcleared
    · exact .inr ⟨hcleared.1, rfl⟩
    · exact .inl rfl

/-- The memories of the others are as before. -/
theorem Wiped.freed (h : Wiped gpu accepted) (hkept : GpuKept gpu (handles.objects ++ rest))
    (requiresZeroize : Bool) (answer : Except VkResult Unit) (allocationSize : Nat) :
    Wiped (overwriteAndFree gpu requiresZeroize answer allocationSize handles) accepted := by
  have hafter := overwriteAndFree_kept hkept requiresZeroize answer allocationSize
  have hnext : (overwriteAndFree gpu requiresZeroize answer allocationSize handles).nextHandle =
      gpu.nextHandle := by
    unfold overwriteAndFree zeroizeDeviceMemory
    split_ifs <;> rfl
  have hdirt := dirt_overwriteAndFree gpu requiresZeroize answer allocationSize handles
  refine ⟨fun memory hmemory => ?_, h.made, fun entry hentry hlive => ?_⟩
  · rcases hdirt memory with hsame | ⟨-, hnone⟩
    · rw [hsame]
      exact h.fresh memory (hnext ▸ hmemory)
    · exact hnone
  · have hrest := hafter.live.mem_iff.mp hlive
    have hnodup : (handles.objects ++ rest).Nodup := hkept.live.nodup_iff.mp hkept.sound.nodup_live
    have hother : entry.2.handles.memory ≠ handles.memory := by
      intro hsame
      refine List.disjoint_of_nodup_append hnodup ?_ hrest
      exact GpuHandles.mem_objects.mpr ⟨h.made entry hentry, hsame.symm⟩
    rw [(hdirt entry.2.handles.memory).resolve_right fun hcleared => hother hcleared.1]
    exact h.owed entry hentry (hkept.live.mem_iff.mpr (List.mem_append_right _ hrest))

/-- What a held submission owes is still in its memory. -/
theorem Books.owed {rest : Held} (h : Books ledger ((key, submission) :: rest))
    (hwiped : Wiped ledger.gpu ledger.accepted) :
    submission.handles.memory ≠ 0 ∧
      dirt ledger.gpu.calls submission.handles.memory = submission.owed := by
  obtain ⟨owner, howner, -, hsame, -⟩ := h.owned _ List.mem_cons_self
  have hmemory := hwiped.made owner howner
  have howed := hwiped.owed owner howner
  rw [hsame] at hmemory howed
  refine ⟨hmemory, howed (h.gpu.live.mem_iff.mpr ?_)⟩
  refine List.mem_flatMap.mpr ⟨_, List.mem_cons_self, ?_⟩
  exact GpuHandles.mem_objects.mpr ⟨hmemory, rfl⟩

theorem Books.gpu_cons {rest : Held} (h : Books ledger ((key, submission) :: rest)) :
    GpuKept ledger.gpu
      (submission.handles.objects ++ rest.flatMap fun entry => entry.2.handles.objects) :=
  h.gpu

/-! Operations of the backend. -/

/-- Every freed memory was clean, and what is owed by the others is known. -/
structure Sealed (inner : VulkanBackendInner) : Prop where
  wiped : Wiped inner.gpu inner.accepted
  freed : AllFreedClean inner.gpu.calls

namespace Sealed

variable {accepted : Accepted} {extra : Held} {inner inner' : VulkanBackendInner}
  {key : SubmissionKey} {submission : VulkanStoredSubmission}

section

variable (h : Sealed inner)
include h

theorem same (hgpu : inner'.gpu = inner.gpu) (haccepted : inner'.accepted = inner.accepted) :
    Sealed inner' := by
  refine ⟨?_, ?_⟩
  · rw [hgpu, haccepted]
    exact h.wiped
  · rw [hgpu]
    exact h.freed

theorem getFenceStatus (fence : Nat) (answer : Except VkResult Bool) (now : Nat) :
    Sealed (inner.getFenceStatus fence answer now) :=
  ⟨h.wiped.log fun _ _ => rfl, guarded_snoc.mpr ⟨h.freed, trivial⟩⟩

/-- A submission is released when its memory was overwritten, and kept otherwise. -/
theorem releaseOrQuarantine (hkept : KeptWith calls accepted ((key, submission) :: extra) inner)
    (zeroize : Except VkResult Unit) :
    Sealed (inner.releaseOrQuarantine zeroize key submission) := by
  have hdevice : inner.device = true := hkept.books.device (List.cons_ne_nil _ _)
  have hdestroyed : submission.handles.destroyed inner.commandPool = submission.handles.objects :=
    GpuHandles.destroyed_eq (hkept.books.pool hdevice)
  obtain ⟨hmemory, howed⟩ := Books.owed hkept.books h.wiped
  have hfreed : ∀ answer : Except VkResult Unit,
      (submission.requiresZeroize = true → submission.allocationSize ≠ 0 → answer = .ok ()) →
        Sealed
          { inner with
            gpu :=
              overwriteAndFree inner.gpu submission.requiresZeroize answer
                submission.allocationSize submission.handles } :=
    fun answer hcleared => ⟨h.wiped.freed (Books.gpu_cons hkept.books) _ _ _,
      (overwriteAndFree_iff hmemory howed).mpr ⟨h.freed, hcleared⟩⟩
  unfold VulkanBackendInner.releaseOrQuarantine VulkanBackendInner.releaseGpuSubmission
  rw [if_neg (by simp [hdevice])]
  dsimp only
  rw [hdestroyed]
  unfold overwriteAndFree at hfreed
  cases hrequires : submission.requiresZeroize with
  | false =>
    rw [hrequires] at hfreed
    exact (hfreed (.ok ()) nofun).same rfl rfl
  | true =>
    rw [hrequires] at hfreed
    rw [if_pos rfl]
    by_cases hsize : submission.allocationSize = 0
    · have hnothing : ∀ answer, zeroizeDeviceMemory answer inner.gpu submission.handles.memory
          submission.allocationSize = (inner.gpu, .ok ()) := fun answer => if_pos (.inr hsize)
      have hsealed := hfreed zeroize fun _ hne => absurd hsize hne
      rw [hnothing] at hsealed ⊢
      exact hsealed.same rfl rfl
    · have hmapped : zeroizeDeviceMemory zeroize inner.gpu submission.handles.memory
          submission.allocationSize = (inner.gpu.log (.zeroize submission.handles.memory
            submission.allocationSize zeroize), zeroize) := if_neg (by simp [hmemory, hsize])
      cases zeroize with
      | ok done =>
        have hsealed := hfreed (.ok ()) fun _ _ => rfl
        rw [hmapped] at hsealed ⊢
        exact hsealed.same rfl rfl
      | error result =>
        rw [hmapped]
        exact ⟨h.wiped.log fun _ _ => rfl, guarded_snoc.mpr ⟨h.freed, trivial⟩⟩

theorem reapOne (hkept : KeptWith calls accepted [] inner) (answers : ReapAnswers) :
    Sealed (inner.reapOne answers key) := by
  unfold VulkanBackendInner.reapOne
  cases hget : inner.quarantined.get? key with
  | none => exact h
  | some submission =>
    have hasked := h.getFenceStatus submission.handles.fence (answers.fence key) answers.now
    have hbooks := hkept.getFenceStatus submission.handles.fence (answers.fence key) answers.now
    dsimp only
    cases hanswer : answers.fence key with
    | error result =>
      rw [hanswer] at hasked
      exact hasked.same rfl rfl
    | ok signalled =>
      rw [hanswer] at hasked hbooks
      cases signalled with
      | false => exact hasked
      | true =>
        refine releaseOrQuarantine ?_ (hbooks.takeQuarantined hget) _
        exact hasked.same rfl rfl

theorem reapQuarantined (hkept : KeptWith calls accepted [] inner) (answers : ReapAnswers) :
    Sealed (inner.reapQuarantined answers) := by
  unfold VulkanBackendInner.reapQuarantined
  split_ifs with hdevice
  · clear hdevice
    generalize inner.quarantined.keys = keys
    induction keys generalizing inner with
    | nil => exact h
    | cons key keys ih => exact ih (h.reapOne hkept answers) (hkept.reapOne answers)
  · exact h

theorem takeTerminalResult (key : SubmissionKey) : Sealed (inner.takeTerminalResult key).1 := by
  unfold VulkanBackendInner.takeTerminalResult
  cases inner.terminalResults.get? key with
  | none => exact h
  | some record => exact h.same rfl rfl

theorem terminalizeSubmission (key : SubmissionKey) (status : VulkanPollStatus)
    (reason : VulkanFallbackReason) (now : Nat) :
    Sealed (inner.terminalizeSubmission key status reason now) := by
  unfold VulkanBackendInner.terminalizeSubmission
  cases inner.submissions.get? key with
  | none => exact h.same rfl rfl
  | some submission => exact h.same rfl rfl

theorem pollCompletion (hkept : KeptWith calls accepted [] inner) (answers : DriverAnswers)
    (handle : VulkanBatchHandle) : Sealed (inner.pollCompletion answers handle).1 := by
  have hreaped := h.reapQuarantined hkept answers.reap
  unfold VulkanBackendInner.pollCompletion
  split_ifs
  · exact h
  dsimp only
  cases (inner.reapQuarantined answers.reap).terminalResults.get? (handleKey handle) with
  | some record => exact hreaped
  | none =>
    cases (inner.reapQuarantined answers.reap).submissions.get? (handleKey handle) with
    | none => exact hreaped
    | some submission =>
      have hasked := hreaped.getFenceStatus submission.handles.fence answers.fence answers.now
      dsimp only
      by_cases hdone : submission.completedAt.isSome = true
      · rw [if_pos hdone]
        exact hreaped
      rw [if_neg hdone]
      by_cases hdevice : (inner.reapQuarantined answers.reap).device = false
      · rw [if_pos hdevice]
        exact (hreaped.terminalizeSubmission (handleKey handle) .missing .driverUnavailable
          answers.now).same rfl rfl
      rw [if_neg hdevice]
      cases hanswer : answers.fence with
      | error result =>
        rw [hanswer] at hasked
        exact (hasked.terminalizeSubmission (handleKey handle) .missing .driverUnavailable
          answers.now).same rfl rfl
      | ok signalled =>
        rw [hanswer] at hasked
        cases signalled with
        | true => exact hasked.same rfl rfl
        | false =>
          dsimp only
          split_ifs
          · exact (hasked.terminalizeSubmission (handleKey handle) .timedOut .timeout
              answers.now).same rfl rfl
          · exact hasked

theorem finishCompleted (hkept : KeptWith calls accepted [] inner) (answers : DriverAnswers)
    (handle : VulkanBatchHandle) : Sealed (inner.finishCompleted answers handle).1 := by
  have htaken := h.takeTerminalResult (handleKey handle)
  have hbooks := hkept.takeTerminalResult (handleKey handle)
  unfold VulkanBackendInner.finishCompleted
  dsimp only
  cases hresult : inner.takeTerminalResult (handleKey handle) with
  | mk taken record =>
    rw [hresult] at htaken hbooks
    cases record with
    | some record => exact htaken
    | none =>
      dsimp only
      cases hget : taken.submissions.get? (handleKey handle) with
      | none => exact htaken
      | some submission =>
        have hreleased := releaseOrQuarantine ?_ (hbooks.takeSubmission hget) answers.zeroize
        · exact hreleased.same rfl rfl
        · exact htaken.same rfl rfl

theorem finishFailed (answers : DriverAnswers) (handle : VulkanBatchHandle) :
    Sealed (inner.finishFailed answers handle).1 := by
  have htaken := h.takeTerminalResult (handleKey handle)
  unfold VulkanBackendInner.finishFailed
  cases hresult : inner.takeTerminalResult (handleKey handle) with
  | mk taken record =>
    rw [hresult] at htaken
    cases record with
    | some record => exact htaken
    | none => exact htaken

theorem retireSubmission (hkept : KeptWith calls accepted [] inner) (answers : DriverAnswers)
    (handle : VulkanBatchHandle) : Sealed (inner.retireSubmission answers handle) := by
  have hreaped := h.reapQuarantined hkept answers.reap
  have hbooks := hkept.reapQuarantined answers.reap
  unfold VulkanBackendInner.retireSubmission
  split_ifs
  · exact h
  dsimp only
  refine takeTerminalResult ?_ _
  cases hget : (inner.reapQuarantined answers.reap).submissions.get? (handleKey handle) with
  | none => exact hreaped
  | some submission =>
    have htaken := hbooks.takeSubmission hget
    dsimp only
    split_ifs
    · exact hreaped.same rfl rfl
    · have hasked := hreaped.getFenceStatus submission.handles.fence answers.fence answers.now
      have hnow := htaken.getFenceStatus submission.handles.fence answers.fence answers.now
      cases hanswer : answers.fence with
      | error result =>
        rw [hanswer] at hasked
        exact hasked.same rfl rfl
      | ok signalled =>
        rw [hanswer] at hasked hnow
        cases signalled with
        | false => exact hasked.same rfl rfl
        | true =>
          refine releaseOrQuarantine ?_ hnow answers.zeroize
          exact hasked.same rfl rfl

theorem initializeBackend (config : VulkanBackendConfig) (answer : Except String InitAnswer) :
    Sealed (inner.initializeBackend config answer) := by
  unfold VulkanBackendInner.initializeBackend
  split_ifs
  · exact h
  · exact h.same rfl rfl
  · cases answer with
    | ok found => exact h.same rfl rfl
    | error reason => exact h.same rfl rfl

end

end Sealed

end TuffXwin.VulkanBackend
