import TuffXwin.VulkanBackend.Zeroized

/-! Attempts at a submission that are given up, and the end of the backend: there a memory is
freed whether it could be overwritten or not. So whether sensitive words are left in freed
memory is decided by what the driver answers in those two places. -/

namespace TuffXwin.VulkanBackend
open Lib Lib.Ledger

variable {reason : String} {submission : VulkanBatchSubmission}

/-- The driver goes along until the words are copied. -/
structure SubmitAnswers.Copies (inner : VulkanBackendInner) (answers : SubmitAnswers) : Prop where
  createBuffer : answers.createBuffer = .ok ()
  budget : inner.metrics.currentGpuAllocationBytes + answers.memorySize ≤
    maxTotalGpuAllocationBytes
  vkInstance : inner.vkInstance = true
  memoryType : (memoryTypeIndex answers).isSome
  allocateMemory : answers.allocateMemory = .ok ()
  bindBufferMemory : answers.bindBufferMemory = .ok ()
  mapMemory : answers.mapMemory = .ok ()

/-- And from there until the submission is in the queue. -/
structure SubmitAnswers.Completes (answers : SubmitAnswers) : Prop where
  allocateCommandBuffers : answers.allocateCommandBuffers = .ok true
  beginCommandBuffer : answers.beginCommandBuffer = .ok ()
  createDescriptorPool : answers.createDescriptorPool = .ok ()
  allocateDescriptorSets : answers.allocateDescriptorSets = .ok true
  endCommandBuffer : answers.endCommandBuffer = .ok ()
  createFence : answers.createFence = .ok ()
  queueSubmit : answers.queueSubmit = .ok ()

/-! Attempts. -/

/-- Nothing was copied so far. -/
structure Unwritten (start : Gpu) (requiresZeroize : Bool) (attempt : Submitting) : Prop where
  dirt : ∀ memory, dirt attempt.gpu.calls memory = dirt start.calls memory
  freed : AllFreedClean attempt.gpu.calls
  later : start.nextHandle ≤ attempt.gpu.nextHandle
  requires : attempt.pending.requiresZeroize = requiresZeroize

/-- The memory that the words go to is a new one. -/
structure Allocated (start : Gpu) (requiresZeroize : Bool) (size : Nat) (attempt : Submitting) :
    Prop where
  unwritten : Unwritten start requiresZeroize attempt
  memory : start.nextHandle ≤ attempt.pending.handles.memory
  size : attempt.pending.allocationSize = size

/-- The words are in that memory and in no other. -/
structure Written (start : Gpu) (requiresZeroize : Bool) (size : Nat) (attempt : Submitting) :
    Prop where
  memory : start.nextHandle ≤ attempt.pending.handles.memory
  owed : dirt attempt.gpu.calls attempt.pending.handles.memory =
    if requiresZeroize then some size else none
  others : ∀ memory, memory ≠ attempt.pending.handles.memory →
    dirt attempt.gpu.calls memory = dirt start.calls memory
  freed : AllFreedClean attempt.gpu.calls
  requires : attempt.pending.requiresZeroize = requiresZeroize
  size : attempt.pending.allocationSize = size

/-- An attempt is given up before the words are copied or after it. -/
def GivenUp (start : Gpu) (requiresZeroize : Bool) (size : Nat) (copies completes : Prop)
    (attempt : Submitting) : Prop :=
  (¬ copies ∧ Unwritten start requiresZeroize attempt) ∨
    (copies ∧ ¬ completes ∧ Written start requiresZeroize size attempt)

section Attempt

variable {α β : Type} {P : Submitting → Prop} {Q : β → Submitting → Prop}
  {E : Submitting → Prop}

theorem answered_bind {answer : Except VkResult α} {rest : α → SubmitM β}
    (hok : ∀ value, answer = .ok value → Triple P (rest value) Q E)
    (herror : (∀ value, answer ≠ .ok value) → ∀ attempt, P attempt → E attempt) :
    Triple P (answered answer >>= rest) Q E := by
  cases answer with
  | ok value => exact hok value rfl
  | error result => exact (Triple.throw (Q := fun _ _ => False) (herror nofun)).bind nofun

theorem require_bind {value : Option α} {rest : α → SubmitM β}
    (hsome : ∀ found, value = some found → Triple P (rest found) Q E)
    (hnone : value = none → ∀ attempt, P attempt → E attempt) :
    Triple P (require reason value >>= rest) Q E := by
  cases value with
  | some found => exact hsome found rfl
  | none => exact (Triple.throw (Q := fun _ _ => False) (hnone rfl)).bind nofun

theorem refuse_bind {bad : Bool} {rest : Unit → SubmitM β}
    (hgood : bad = false → Triple P (rest ()) Q E)
    (hbad : bad = true → ∀ attempt, P attempt → E attempt) :
    Triple P (refuse reason bad >>= rest) Q E := by
  cases bad with
  | false => exact hgood rfl
  | true => exact (Triple.throw (Q := fun _ _ => False) (hbad rfl)).bind nofun

variable {start : Gpu} {requiresZeroize : Bool} {size : Nat} {kind : ObjectKind}

theorem dirt_create (gpu : Gpu) (memory : Nat) :
    dirt (gpu.create kind).calls memory = dirt gpu.calls memory :=
  dirt_snoc _

theorem createObject_unwritten :
    Triple (Unwritten start requiresZeroize) (createObject kind)
      (fun _ => Unwritten start requiresZeroize) E :=
  Triple.modify fun attempt h =>
    ⟨fun memory => (dirt_create attempt.gpu memory).trans (h.dirt memory),
      guarded_snoc.mpr ⟨h.freed, trivial⟩, Nat.le_succ_of_le h.later, h.requires⟩

theorem createMemory_unwritten :
    Triple (Unwritten start requiresZeroize) (createObject .memory)
      (fun _ attempt => Unwritten start requiresZeroize attempt ∧
        start.nextHandle ≤ attempt.pending.handles.memory) E :=
  Triple.modify fun attempt h =>
    ⟨⟨fun memory => (dirt_create attempt.gpu memory).trans (h.dirt memory),
      guarded_snoc.mpr ⟨h.freed, trivial⟩, Nat.le_succ_of_le h.later, h.requires⟩, h.later⟩

theorem sized_allocated (memorySize : Nat) :
    Triple
      (fun attempt => Unwritten start requiresZeroize attempt ∧
        start.nextHandle ≤ attempt.pending.handles.memory)
      (modify fun attempt =>
        { attempt with pending := { attempt.pending with allocationSize := memorySize } } :
        SubmitM Unit)
      (fun _ => Allocated start requiresZeroize memorySize) E :=
  Triple.modify fun _ h => ⟨⟨h.1.dirt, h.1.freed, h.1.later, h.1.requires⟩, h.2, rfl⟩

/-- What is created later is another kind of object. -/
theorem createObject_written (hkind : kind ≠ .memory) :
    Triple (Written start requiresZeroize size) (createObject kind)
      (fun _ => Written start requiresZeroize size) E := by
  refine Triple.modify fun attempt h => ?_
  have hmemory : (attempt.pending.handles.set attempt.gpu.nextHandle kind).memory =
      attempt.pending.handles.memory := by
    have hget : (attempt.pending.handles.set attempt.gpu.nextHandle kind).get .memory =
        if .memory = kind then attempt.gpu.nextHandle else attempt.pending.handles.get .memory :=
      GpuHandles.get_set
    rwa [if_neg (Ne.symm hkind)] at hget
  refine ⟨?_, ?_, ?_, guarded_snoc.mpr ⟨h.freed, trivial⟩, h.requires, h.size⟩
  · dsimp only
    rw [hmemory]
    exact h.memory
  · dsimp only
    rw [hmemory, dirt_create]
    exact h.owed
  · dsimp only
    rw [hmemory]
    intro memory hne
    rw [dirt_create]
    exact h.others memory hne

theorem write_written (hfresh : ∀ memory, start.nextHandle ≤ memory → dirt start.calls memory = none) :
    Triple (Allocated start requiresZeroize size)
      (modify fun attempt =>
        { attempt with
          gpu := attempt.gpu.log (.writeWords attempt.pending.handles.memory size
            requiresZeroize) } : SubmitM Unit)
      (fun _ => Written start requiresZeroize size) E := by
  refine Triple.modify fun attempt h => ?_
  refine ⟨h.memory, ?_, fun memory hne => ?_, guarded_snoc.mpr ⟨h.unwritten.freed, trivial⟩,
    h.unwritten.requires, h.size⟩
  · unfold Gpu.log
    rw [dirt_snoc, h.unwritten.dirt, hfresh _ h.memory]
    simp [dirtied]
  · unfold Gpu.log
    rw [dirt_snoc, h.unwritten.dirt]
    simp [dirtied, Ne.symm hne]

theorem budget_iff {current memorySize : Nat} :
    (usizeChecked (current + memorySize)).all (maxTotalGpuAllocationBytes < ·) = false ↔
      current + memorySize ≤ maxTotalGpuAllocationBytes := by
  refine ⟨fits_of_budget, fun h => ?_⟩
  have hfits : current + memorySize ≤ u64Max := h.trans (by decide)
  unfold usizeChecked
  simp [hfits, h]

/-- The groups of an admitted payload can be counted. -/
theorem groups_fit {payloadLen : Nat} (h : payloadLen ≤ maxGpuPayloadBytes) :
    usizeChecked (payloadLen / 4 + 63) = some (payloadLen / 4 + 63) ∧
      (u32Checked ((payloadLen / 4 + 63) / 64)).isSome = true := by
  unfold maxGpuPayloadBytes at h
  constructor
  · rw [usizeChecked_eq_some]
    unfold u64Max
    omega
  · refine Option.isSome_iff_exists.mpr ⟨_, u32Checked_eq_some.mpr ⟨?_, rfl⟩⟩
    unfold u32Max
    omega

/-- An attempt succeeds just when the driver goes along to its end. -/
theorem trySubmitM_given (inner : VulkanBackendInner) (submission : VulkanBatchSubmission)
    (timeout : Nat) (answers : SubmitAnswers)
    (hpayload : submission.payloadLen ≤ maxGpuPayloadBytes)
    (hfresh : ∀ memory, start.nextHandle ≤ memory → dirt start.calls memory = none) :
    Triple (Unwritten start submission.requiresZeroize)
      (trySubmitM inner submission timeout answers)
      (fun stored attempt => answers.Completes ∧
        Written start submission.requiresZeroize answers.memorySize attempt ∧
        stored.handles = attempt.pending.handles ∧ stored.allocationSize = answers.memorySize ∧
        stored.requiresZeroize = submission.requiresZeroize)
      (GivenUp start submission.requiresZeroize answers.memorySize (answers.Copies inner)
        answers.Completes) := by
  unfold trySubmitM
  -- Up to the copy.
  refine answered_bind (fun _ hbuffer => ?_) fun hno attempt h =>
    .inl ⟨fun hcopies => hno _ hcopies.createBuffer, h⟩
  refine createObject_unwritten.bind fun _ => ?_
  refine refuse_bind (fun hbudget => ?_) fun hbad attempt h =>
    .inl ⟨fun hcopies => by simp [budget_iff.mpr hcopies.budget] at hbad, h⟩
  refine refuse_bind (fun hinstance => ?_) fun hbad attempt h =>
    .inl ⟨fun hcopies => by simp [hcopies.vkInstance] at hbad, h⟩
  refine require_bind (fun index hindex => ?_) fun hno attempt h =>
    .inl ⟨fun hcopies => by simpa [hno] using hcopies.memoryType, h⟩
  refine answered_bind (fun _ hallocate => ?_) fun hno attempt h =>
    .inl ⟨fun hcopies => hno _ hcopies.allocateMemory, h⟩
  refine createMemory_unwritten.bind fun _ => (sized_allocated answers.memorySize).bind fun _ => ?_
  refine answered_bind (fun _ hbind => ?_) fun hno attempt h =>
    .inl ⟨fun hcopies => hno _ hcopies.bindBufferMemory, h.unwritten⟩
  refine answered_bind (fun _ hmap => ?_) fun hno attempt h =>
    .inl ⟨fun hcopies => hno _ hcopies.mapMemory, h.unwritten⟩
  have hcopies : answers.Copies inner :=
    ⟨hbuffer, budget_iff.mp hbudget, by simpa using hinstance, by simp [hindex], hallocate, hbind,
      hmap⟩
  refine (write_written hfresh).bind fun _ => ?_
  -- And from there on.
  refine answered_bind (fun first hcommand => ?_) fun hno attempt h =>
    .inr ⟨hcopies, fun hdone => hno _ hdone.allocateCommandBuffers, h⟩
  have hfirst : answers.Completes → first = true := fun hdone =>
    Except.ok.inj (hcommand.symm.trans hdone.allocateCommandBuffers)
  refine refuse_bind (fun hsome => ?_) fun hbad attempt h =>
    .inr ⟨hcopies, fun hdone => by simp [hfirst hdone] at hbad, h⟩
  refine (createObject_written (by decide)).bind fun _ => ?_
  refine answered_bind (fun _ hbegin => ?_) fun hno attempt h =>
    .inr ⟨hcopies, fun hdone => hno _ hdone.beginCommandBuffer, h⟩
  refine answered_bind (fun _ hpool => ?_) fun hno attempt h =>
    .inr ⟨hcopies, fun hdone => hno _ hdone.createDescriptorPool, h⟩
  refine (createObject_written (by decide)).bind fun _ => ?_
  refine answered_bind (fun set hsets => ?_) fun hno attempt h =>
    .inr ⟨hcopies, fun hdone => hno _ hdone.allocateDescriptorSets, h⟩
  have hset : answers.Completes → set = true := fun hdone =>
    Except.ok.inj (hsets.symm.trans hdone.allocateDescriptorSets)
  refine refuse_bind (fun hsome' => ?_) fun hbad attempt h =>
    .inr ⟨hcopies, fun hdone => by simp [hset hdone] at hbad, h⟩
  obtain ⟨hcount, hgroups⟩ := groups_fit hpayload
  refine require_bind (fun count hfound => ?_) fun hnone => ?_
  · obtain rfl := Option.some.inj (hcount.symm.trans hfound)
    refine require_bind (fun groups _ => ?_) fun hnone => ?_
    · refine answered_bind (fun _ hend => ?_) fun hno attempt h =>
        .inr ⟨hcopies, fun hdone => hno _ hdone.endCommandBuffer, h⟩
      refine answered_bind (fun _ hfence => ?_) fun hno attempt h =>
        .inr ⟨hcopies, fun hdone => hno _ hdone.createFence, h⟩
      refine (createObject_written (by decide)).bind fun _ => ?_
      refine answered_bind (fun _ hsubmit => ?_) fun hno attempt h =>
        .inr ⟨hcopies, fun hdone => hno _ hdone.queueSubmit, h⟩
      have hcompletes : answers.Completes :=
        ⟨by simpa [hcommand] using hsome, hbegin, hpool, by simpa [hsets] using hsome', hend,
          hfence, hsubmit⟩
      refine Triple.get_bind fun attempt h => ?_
      refine (Triple.set (R := fun _ s => s = { attempt with
        gpu := attempt.gpu.log (.queueSubmit attempt.pending.handles.commandBuffer
          attempt.pending.handles.fence) }) rfl).bind fun _ => Triple.pure ?_
      rintro s rfl
      refine ⟨hcompletes, ⟨h.memory, (dirt_snoc _).trans h.owed, fun memory hne => ?_,
        guarded_snoc.mpr ⟨h.freed, trivial⟩, h.requires, h.size⟩, rfl, h.size, h.requires⟩
      exact (dirt_snoc _).trans (h.others memory hne)
    · rw [hnone] at hgroups
      cases hgroups
  · rw [hnone] at hcount
    cases hcount

end Attempt

/-- An attempt that fails after the copy can overwrite its memory. -/
def SubmitAnswers.Overwrites (inner : VulkanBackendInner) (submission : VulkanBatchSubmission)
    (answers : SubmitAnswers) : Prop :=
  submission.requiresZeroize = true → answers.Copies inner → ¬ answers.Completes →
    answers.memorySize ≠ 0 → answers.zeroize = .ok ()

section Submission

variable {calls : Calls} {accepted : Accepted} {inner : VulkanBackendInner}

/-- An attempt changes no memory but its own. -/
theorem Sealed.attempted (h : Sealed inner) (hkept : KeptWith calls accepted [] inner)
    {attempt : Submitting}
    (hattempt : Attempt inner.gpu inner.dropped inner.accepted
      (inner.held.flatMap fun entry => entry.2.handles.objects) inner.commandPool attempt)
    (hothers : ∀ memory, memory ≠ attempt.pending.handles.memory →
      dirt attempt.gpu.calls memory = dirt inner.gpu.calls memory) :
    Wiped attempt.gpu inner.accepted := by
  have hown : attempt.pending.handles.memory ≠ 0 →
      ⟨.memory, attempt.pending.handles.memory⟩ ∈ attempt.pending.handles.objects :=
    fun hzero => GpuHandles.mem_objects.mpr ⟨hzero, rfl⟩
  have hbelow : attempt.pending.handles.memory < attempt.gpu.nextHandle := by
    by_cases hzero : attempt.pending.handles.memory = 0
    · rw [hzero]
      exact Nat.pos_of_ne_zero hattempt.kept.started
    · have hlive := hattempt.kept.live.mem_iff.mpr (List.mem_append_left _ (hown hzero))
      exact hattempt.kept.numbered _ (hattempt.kept.sound.created_of_live hlive)
  refine ⟨fun memory hmemory => ?_, h.wiped.made, fun entry hentry hlive => ?_⟩
  · rw [hothers memory (Nat.ne_of_gt (Nat.lt_of_lt_of_le hbelow hmemory))]
    exact h.wiped.fresh memory (hattempt.later.trans hmemory)
  · have hmade := h.wiped.made entry hentry
    have hbefore : entry.2.handles.memory < inner.gpu.nextHandle := by
      refine hkept.books.gpu.numbered ⟨.memory, entry.2.handles.memory⟩ ?_
      exact hkept.books.created entry hentry _ (GpuHandles.mem_objects.mpr ⟨hmade, rfl⟩)
    have hnew : ∀ object ∈ attempt.pending.handles.objects,
        object ≠ ⟨.memory, entry.2.handles.memory⟩ := by
      rintro object hobject rfl
      exact absurd hbefore (Nat.not_lt.mpr (hattempt.own _ hobject))
    have hother : entry.2.handles.memory ≠ attempt.pending.handles.memory := by
      intro heq
      exact hnew _ (hown (heq ▸ hmade)) (heq ▸ rfl)
    rw [hothers _ hother]
    refine h.wiped.owed entry hentry (hkept.books.gpu.live.mem_iff.mpr ?_)
    rcases List.mem_append.mp (hattempt.kept.live.mem_iff.mp hlive) with hmem | hmem
    · exact absurd rfl (hnew _ hmem)
    · exact hmem

/-- What is left in the memory of an attempt that fails is up to the driver; one that succeeds
leaves its memory to the submission. -/
theorem trySubmit_cleared (h : Sealed inner) (hkept : KeptWith calls accepted [] inner)
    (hdevice : inner.device = true) (hwords : submission.surfaceWords.isSome = true)
    (hpayload : submission.payloadLen ≤ maxGpuPayloadBytes) (timeout : Nat)
    (answers : SubmitAnswers) {gpu : Gpu} {result : Except SubmitError VulkanStoredSubmission}
    (heq : trySubmit inner submission timeout answers = (gpu, result)) :
    (∀ error, result = .error error → Wiped gpu inner.accepted ∧
      (AllFreedClean gpu.calls ↔ answers.Overwrites inner submission)) ∧
      ∀ stored, result = .ok stored → answers.Completes ∧ AllFreedClean gpu.calls ∧
        ∀ handle, Wiped gpu (inner.accepted ++ [(handle, stored)]) := by
  unfold trySubmit at heq
  rw [if_neg (by simp [hdevice]), if_neg (by simpa using Option.isSome_iff_ne_none.mp hwords)] at heq
  dsimp only at heq
  have hkeeps := trySubmitM_attempt inner submission timeout answers _
    (hkept.awaiting submission.requiresZeroize)
  have hunwritten : Unwritten inner.gpu submission.requiresZeroize
      { gpu := inner.gpu
        pending :=
          { commandPool := inner.commandPool
            requiresZeroize := submission.requiresZeroize } } :=
    ⟨fun _ => rfl, h.freed, Nat.le_refl _, rfl⟩
  have hgiven := trySubmitM_given inner submission timeout answers hpayload h.wiped.fresh _
    hunwritten
  split at heq
  · next stored attempt hrun =>
    obtain ⟨rfl, rfl⟩ := Prod.mk.inj heq
    rw [hrun] at hkeeps hgiven
    obtain ⟨hattempt, hhandles, -⟩ := hkeeps
    obtain ⟨hcompletes, hwritten, -, hsize, hrequires⟩ := hgiven
    refine ⟨fun error herror => (by cases herror), fun stored' hstored => ?_⟩
    obtain rfl := Except.ok.inj hstored
    refine ⟨hcompletes, hwritten.freed, fun handle => ?_⟩
    obtain ⟨hfresh, hmade, howed⟩ := h.attempted hkept hattempt hwritten.others
    refine ⟨hfresh, fun entry hentry => ?_, fun entry hentry hlive => ?_⟩
    · rcases List.mem_append.mp hentry with hold | hnew
      · exact hmade entry hold
      · rw [List.mem_singleton.mp hnew, hhandles]
        have hstarted := hkept.books.gpu.started
        have hmemory := hwritten.memory
        intro hzero
        rw [hzero] at hmemory
        exact hstarted (Nat.le_zero.mp hmemory)
    · rcases List.mem_append.mp hentry with hold | hnew
      · exact howed entry hold hlive
      · rw [List.mem_singleton.mp hnew, hhandles, hwritten.owed]
        unfold VulkanStoredSubmission.owed
        rw [hsize, hrequires]
  · next error attempt hrun =>
    obtain ⟨rfl, rfl⟩ := Prod.mk.inj heq
    rw [hrun] at hkeeps hgiven
    have hattempt : Attempt _ _ _ _ _ attempt := hkeeps
    have hdropped : dropPending answers attempt =
        overwriteAndFree attempt.gpu attempt.pending.requiresZeroize answers.zeroize
          attempt.pending.allocationSize attempt.pending.handles := by
      have hpool : attempt.pending.commandPool ≠ 0 := by
        rw [hattempt.pool]
        exact hkept.books.pool hdevice
      unfold dropPending overwriteAndFree
      dsimp only
      rw [GpuHandles.destroyed_eq hpool]
    have hothers : ∀ memory, memory ≠ attempt.pending.handles.memory →
        dirt attempt.gpu.calls memory = dirt inner.gpu.calls memory := by
      rcases hgiven with ⟨-, hunwritten⟩ | ⟨-, -, hwritten⟩
      · exact fun memory _ => hunwritten.dirt memory
      · exact hwritten.others
    refine ⟨fun _ _ => ?_, fun stored hstored => by cases hstored⟩
    rw [hdropped]
    refine ⟨(h.attempted hkept hattempt hothers).freed hattempt.kept _ _ _, ?_⟩
    unfold SubmitAnswers.Overwrites
    rcases hgiven with ⟨hnot, hunwritten⟩ | ⟨hcopies, hfailed, hwritten⟩
    · refine iff_of_true (overwriteAndFree_clean (fun hzero size hsize => ?_) hunwritten.freed _ _ _)
        fun _ hcopies => absurd hcopies hnot
      have hnew := hattempt.own ⟨.memory, _⟩ (GpuHandles.mem_objects.mpr ⟨hzero, rfl⟩)
      rw [hunwritten.dirt, h.wiped.fresh _ hnew] at hsize
      cases hsize
    · have hmemory : attempt.pending.handles.memory ≠ 0 := fun hzero =>
        hkept.books.gpu.started (Nat.le_zero.mp (hzero ▸ hwritten.memory))
      have howed := hwritten.owed
      rw [← hwritten.requires, ← hwritten.size] at howed
      rw [overwriteAndFree_iff hmemory howed, hwritten.requires, hwritten.size]
      simp [hwritten.freed, hcopies, hfailed]

theorem allocateHandle_id (hstarted : inner.nextSubmissionId ≠ 0) (workload : VulkanWorkloadClass)
    (path : VulkanExecutionPath) (reason : Option VulkanFallbackReason) :
    (inner.allocateHandle workload path reason).2.id = 0 ↔ inner.handleSpaceExhausted = true := by
  unfold VulkanBackendInner.allocateHandle
  split_ifs with hexhausted
  · exact iff_of_true rfl hexhausted
  · exact iff_of_false hstarted hexhausted
  · exact iff_of_false hstarted hexhausted
  · exact iff_of_false hstarted hexhausted

/-- A submission that gets to the driver can be overwritten when it does not get into the
queue. -/
def SubmitOverwrites (config : VulkanBackendConfig) (inner : VulkanBackendInner)
    (submission : VulkanBatchSubmission) (answers : SubmitAnswers) : Prop :=
  admissionFallbackReason config inner submission = none →
    inner.handleSpaceExhausted = false → answers.Overwrites inner submission

theorem submitBatch_cleared (h : Sealed inner) (hkept : KeptWith calls accepted [] inner)
    (config : VulkanBackendConfig) (submission : VulkanBatchSubmission) (reap : ReapAnswers)
    (answers : SubmitAnswers) :
    Wiped (inner.submitBatch config submission reap answers).1.gpu
        (inner.submitBatch config submission reap answers).1.accepted ∧
      (AllFreedClean (inner.submitBatch config submission reap answers).1.gpu.calls ↔
        SubmitOverwrites config (inner.reapQuarantined reap).countSubmission submission
          answers) := by
  have hsealed : Sealed (inner.reapQuarantined reap).countSubmission :=
    (h.reapQuarantined hkept reap).same rfl rfl
  have hcounted := (hkept.reapQuarantined reap).countSubmission
  unfold VulkanBackendInner.submitBatch SubmitOverwrites
  dsimp only
  generalize (inner.reapQuarantined reap).countSubmission = counted at hcounted hsealed
  cases hreason : admissionFallbackReason config counted submission with
  | some reason =>
    obtain ⟨id, generation, exhausted, hrest⟩ :=
      allocateHandle_rest counted.countCpuFallback submission.workload .cpuFallback (some reason)
    dsimp only
    rw [hrest]
    exact ⟨hsealed.wiped, iff_of_true hsealed.freed nofun⟩
  | none =>
    obtain ⟨hdevice, -, hwords, hpayload⟩ := admitted hreason
    have hallocated := hcounted.allocateHandle submission.workload .vulkan none
    have hid := allocateHandle_id hcounted.books.started submission.workload .vulkan none
    obtain ⟨id, generation, exhausted, hrest⟩ :=
      allocateHandle_rest counted submission.workload .vulkan none
    dsimp only
    by_cases hexhausted : counted.handleSpaceExhausted = true
    · rw [if_pos (hid.mpr hexhausted), hrest]
      refine ⟨hsealed.wiped, iff_of_true hsealed.freed fun _ hopen => ?_⟩
      rw [hexhausted] at hopen
      cases hopen
    · rw [if_neg fun hzero => hexhausted (hid.mp hzero)]
      generalize (counted.allocateHandle submission.workload .vulkan none).2 = handle at *
      generalize (counted.allocateHandle submission.workload .vulkan none).1 = allocated at *
      have hsealed' : Sealed allocated := by
        rw [hrest]
        exact hsealed.same rfl rfl
      have hoverwrites : answers.Overwrites allocated submission ↔
          answers.Overwrites counted submission := by
        have hcopies : answers.Copies allocated ↔ answers.Copies counted := by
          rw [hrest]
          exact ⟨fun ⟨h₁, h₂, h₃, h₄, h₅, h₆, h₇⟩ => ⟨h₁, h₂, h₃, h₄, h₅, h₆, h₇⟩,
            fun ⟨h₁, h₂, h₃, h₄, h₅, h₆, h₇⟩ => ⟨h₁, h₂, h₃, h₄, h₅, h₆, h₇⟩⟩
        unfold SubmitAnswers.Overwrites
        rw [hcopies]
      generalize hout : trySubmit allocated submission
        (effectiveTimeout submission.timeout config.submitTimeout) answers = tried
      obtain ⟨gpu, result⟩ := tried
      obtain ⟨hfailed, hstored⟩ := trySubmit_cleared hsealed' hallocated (hrest ▸ hdevice) hwords
        hpayload _ _ hout
      cases result with
      | error error =>
        obtain ⟨hwiped, hfreed⟩ := hfailed error rfl
        dsimp only
        -- Whether the device was lost is the same to the memory.
        have hafter : ∀ inner' : VulkanBackendInner, inner'.gpu = gpu →
            inner'.accepted = allocated.accepted → Wiped inner'.gpu inner'.accepted ∧
              (AllFreedClean inner'.gpu.calls ↔ answers.Overwrites counted submission) := by
          intro inner' hgpu haccepted
          rw [hgpu, haccepted, hfreed, hoverwrites]
          exact ⟨hwiped, Iff.rfl⟩
        have hopen : counted.handleSpaceExhausted = false := by simpa using hexhausted
        simp only [hopen, forall_const]
        split_ifs
        · exact hafter _ rfl rfl
        · exact hafter _ rfl rfl
      | ok stored =>
        obtain ⟨hcompletes, hfreed, hwiped⟩ := hstored stored rfl
        refine ⟨hwiped handle, iff_of_true hfreed fun _ _ => ?_⟩
        exact fun _ _ hfailed => absurd hcompletes hfailed

/-- The submissions that are left are freed one after the other. -/
theorem destroyStored_cleared {ledger : Ledger} {entries : Held}
    (zeroize : SubmissionKey → Except VkResult Unit) (h : Books ledger entries)
    (hwiped : Wiped ledger.gpu ledger.accepted) (hpool : inner.commandPool ≠ 0)
    (hdropped : ledger.dropped = true) (hidle : Idle ledger.gpu.calls) :
    Wiped (entries.foldl (inner.destroyStored zeroize) ledger.gpu) ledger.accepted ∧
      (AllFreedClean (entries.foldl (inner.destroyStored zeroize) ledger.gpu).calls ↔
        AllFreedClean ledger.gpu.calls ∧ ∀ entry ∈ entries, entry.2.requiresZeroize = true →
          entry.2.allocationSize ≠ 0 → zeroize entry.1 = .ok ()) := by
  induction entries generalizing ledger with
  | nil => exact ⟨hwiped, by simp⟩
  | cons entry entries ih =>
    obtain ⟨key, submission⟩ := entry
    obtain ⟨hmemory, howed⟩ := h.owed hwiped
    have hdestroyed : submission.handles.destroyed inner.commandPool =
        submission.handles.objects := GpuHandles.destroyed_eq hpool
    have hstored : inner.destroyStored zeroize ledger.gpu (key, submission) =
        overwriteAndFree ledger.gpu submission.requiresZeroize (zeroize key)
          submission.allocationSize submission.handles := by
      unfold VulkanBackendInner.destroyStored overwriteAndFree
      dsimp only
      rw [hdestroyed]
    have hfreed := hwiped.freed h.gpu_cons submission.requiresZeroize (zeroize key)
      submission.allocationSize
    obtain ⟨hbooks, hgrown⟩ := destroyStored_book zeroize h hpool hdropped hidle
    rw [← hstored] at hfreed
    obtain ⟨hrest, hclean⟩ := ih hbooks hfreed hdropped (hgrown.subset hidle)
    refine ⟨hrest, ?_⟩
    rw [List.foldl_cons, hclean, hstored, overwriteAndFree_iff hmemory howed, List.forall_mem_cons,
      and_assoc]

theorem dropInner_cleared (h : Sealed inner) (hkept : KeptWith calls accepted [] inner)
    (zeroize : SubmissionKey → Except VkResult Unit) :
    Wiped (inner.dropInner zeroize).gpu (inner.dropInner zeroize).accepted ∧
      (AllFreedClean (inner.dropInner zeroize).gpu.calls ↔
        ∀ entry ∈ inner.held, entry.2.requiresZeroize = true →
          entry.2.allocationSize ≠ 0 → zeroize entry.1 = .ok ()) := by
  change Wiped (inner.dropGpu zeroize) inner.accepted ∧
    (AllFreedClean (inner.dropGpu zeroize).calls ↔ _)
  unfold VulkanBackendInner.dropGpu
  split_ifs with hdevice
  · have hnone : inner.held = [] := by
      by_contra hne
      exact absurd (hkept.books.device hne) (by simp [VulkanBackendInner.ledger, hdevice])
    rw [hnone]
    exact ⟨h.wiped, by simp [h.freed]⟩
  · have hpool : inner.commandPool ≠ 0 :=
      hkept.books.pool (by simpa [VulkanBackendInner.ledger] using hdevice)
    have hidle : Idle (inner.gpu.log .deviceWaitIdle).calls :=
      List.mem_append_right _ (List.mem_singleton_self _)
    have hwaited : Wiped (inner.gpu.log .deviceWaitIdle) inner.accepted :=
      h.wiped.log fun _ _ => rfl
    have hfreed : AllFreedClean (inner.gpu.log .deviceWaitIdle).calls :=
      guarded_snoc.mpr ⟨h.freed, trivial⟩
    obtain ⟨hwiped, hclean⟩ := destroyStored_cleared zeroize
      (hkept.books.drop.log .deviceWaitIdle) hwaited hpool rfl hidle
    exact ⟨hwiped, hclean.trans (and_iff_right hfreed)⟩

end Submission

/-! Runs. -/

/-- Where memory is freed in any case, it can be overwritten. -/
def Backend.Overwrites (backend : Backend) (part : Section) : Prop :=
  backend.inner.dropped = false →
    match part with
    | .submitBatch submission reap answers =>
      SubmitOverwrites backend.config (backend.inner.reapQuarantined reap).countSubmission
        submission answers
    | .shutdown zeroize =>
      backend.waits = [] → backend.zeroizing = [] → ∀ entry ∈ backend.inner.held,
        entry.2.requiresZeroize = true → entry.2.allocationSize ≠ 0 → zeroize entry.1 = .ok ()
    | _ => True

/-- No sensitive words are left in memory that was freed, on the device or on the host. -/
structure Erased (backend : Backend) : Prop where
  device : AllFreedClean backend.inner.gpu.calls
  host : ∀ left ∈ backend.left, left.1 = true → ∀ words, left.2 = some words →
    ∀ word ∈ words, word = 0

section Runs

variable {backend : Backend}

theorem Sealed.through {inner : VulkanBackendInner} (h : Sealed inner) :
    Wiped inner.gpu inner.accepted ∧ (AllFreedClean inner.gpu.calls ↔ True) :=
  ⟨h.wiped, iff_true_intro h.freed⟩

theorem step_device (hkept : BackendKept backend) (h : Sealed backend.inner)
    (hopen : backend.inner.dropped = false) (part : Section) :
    Wiped (backend.step part).inner.gpu (backend.step part).inner.accepted ∧
      (AllFreedClean (backend.step part).inner.gpu.calls ↔ backend.Overwrites part) := by
  unfold Backend.step Backend.Overwrites
  simp only [hopen, forall_const]
  cases part with
  | initializeBackend answer => exact (h.initializeBackend _ _).through
  | submitBatch submission reap answers =>
    exact submitBatch_cleared h hkept.inner.begin backend.config submission reap answers
  | zeroizeHost index =>
    dsimp only
    unfold Backend.zeroizeHost
    split
    · exact h.through
    · exact h.through
  | pollCompletion handle answers => exact (h.pollCompletion hkept.inner.begin _ _).through
  | wait handle now =>
    dsimp only
    unfold Backend.beginWait
    split_ifs
    · exact h.through
    · exact h.through
  | waitPoll index answers =>
    dsimp only
    unfold Backend.waitPoll
    split
    · exact (h.pollCompletion hkept.inner.begin _ _).through
    · exact h.through
  | waitFinish index answers =>
    dsimp only
    unfold Backend.waitFinish
    split
    · exact (h.finishCompleted hkept.inner.begin _ _).through
    · exact (h.finishFailed _ _).through
    · exact h.through
  | cancel index =>
    dsimp only
    unfold Backend.cancel
    split
    · exact h.through
    · exact h.through
  | retireSubmission handle answers => exact (h.retireSubmission hkept.inner.begin _ _).through
  | metrics reap => exact (h.reapQuarantined hkept.inner.begin _).through
  | shutdown zeroize =>
    dsimp only
    unfold Backend.shutdown
    split_ifs with hidle
    · obtain ⟨hwaits, hzeroizing⟩ := hidle
      obtain ⟨hwiped, hclean⟩ := dropInner_cleared h hkept.inner.begin zeroize
      refine ⟨hwiped, hclean.trans ?_⟩
      simp [hwaits, hzeroizing]
    · refine ⟨h.wiped, iff_of_true h.freed fun hwaits hzeroizing => ?_⟩
      exact absurd ⟨hwaits, hzeroizing⟩ hidle

/-- The words are cleared whatever became of the submission. -/
theorem remainingWords_zero {words : List UInt32} (hrequires : submission.requiresZeroize = true)
    (hwords : submission.remainingWords = some words) : ∀ word ∈ words, word = 0 := by
  unfold VulkanBatchSubmission.remainingWords zeroizeSurfaceWords at hwords
  rw [if_pos hrequires, Option.map_eq_some_iff] at hwords
  obtain ⟨before, -, rfl⟩ := hwords
  intro word hword
  obtain ⟨_, -, rfl⟩ := List.mem_map.mp hword
  rfl

theorem step_left (backend : Backend) (part : Section) :
    (backend.step part).left = backend.left ∨ ∃ submission : VulkanBatchSubmission,
      (backend.step part).left =
        backend.left ++ [(submission.requiresZeroize, submission.remainingWords)] := by
  unfold Backend.step
  cases part with
  | submitBatch submission reap answers => exact .inr ⟨submission, rfl⟩
  | initializeBackend answer => exact .inl rfl
  | zeroizeHost index =>
    dsimp only
    unfold Backend.zeroizeHost
    split <;> exact .inl rfl
  | pollCompletion handle answers => exact .inl rfl
  | wait handle now =>
    dsimp only
    unfold Backend.beginWait
    split_ifs <;> exact .inl rfl
  | waitPoll index answers =>
    dsimp only
    unfold Backend.waitPoll
    split <;> exact .inl rfl
  | waitFinish index answers =>
    dsimp only
    unfold Backend.waitFinish
    split <;> exact .inl rfl
  | cancel index =>
    dsimp only
    unfold Backend.cancel
    split <;> exact .inl rfl
  | retireSubmission handle answers => exact .inl rfl
  | metrics reap => exact .inl rfl
  | shutdown zeroize =>
    dsimp only
    unfold Backend.shutdown
    split_ifs <;> exact .inl rfl

theorem Erased.step_iff (h : Erased backend) (hkept : BackendKept backend)
    (hwiped : Wiped backend.inner.gpu backend.inner.accepted)
    (hopen : backend.inner.dropped = false) (part : Section) :
    Erased (backend.step part) ↔ backend.Overwrites part := by
  have hhost : ∀ left ∈ (backend.step part).left, left.1 = true → ∀ words,
      left.2 = some words → ∀ word ∈ words, word = 0 := by
    intro left hleft hrequires words hwords
    rcases step_left backend part with hsame | ⟨submission, hmore⟩
    · exact h.host left (hsame ▸ hleft) hrequires words hwords
    · rw [hmore] at hleft
      rcases List.mem_append.mp hleft with hold | hnew
      · exact h.host left hold hrequires words hwords
      · obtain rfl := List.mem_singleton.mp hnew
        exact remainingWords_zero hrequires hwords
  have hdevice := (step_device hkept ⟨hwiped, h.device⟩ hopen part).2
  exact ⟨fun herased => hdevice.mp herased.device, fun hgood => ⟨hdevice.mpr hgood, hhost⟩⟩

end Runs

/-- Sensitive words are left in no freed memory, all along the runs in which the memory can be
overwritten wherever it is freed in any case, and along no others. -/
theorem sensitive_erased_iff (config : VulkanBackendConfig) (sections : List Section) :
    (∀ done, done <+: sections → Erased ((backendRuns config).run { config } done)) ↔
      (backendRuns config).Throughout Backend.Overwrites { config } sections := by
  refine System.always_iff_throughout
    (J := fun backend => BackendKept backend ∧ Wiped backend.inner.gpu backend.inner.accepted)
    (fun backend part hj hi hgood => ?_) (fun backend part hj hi => ?_)
    ⟨backendKept_init config, ?_⟩ ?_ sections
  · unfold backendRuns
    dsimp only
    split_ifs with hdropped
    · exact hj
    · have hopen : backend.inner.dropped = false := by simpa using hdropped
      exact ⟨hj.1.step hopen part, (step_device hj.1 ⟨hj.2, hi.device⟩ hopen part).1⟩
  · unfold backendRuns
    dsimp only
    split_ifs with hdropped
    · refine iff_of_true hi fun hopen => ?_
      rw [hdropped] at hopen
      cases hopen
    · exact hi.step_iff hj.1 hj.2 (by simpa using hdropped) part
  · have hwiped : Wiped {} [] :=
      ⟨fun _ _ => rfl, fun _ hentry => absurd hentry List.not_mem_nil,
        fun _ hentry => absurd hentry List.not_mem_nil⟩
    exact hwiped
  · exact ⟨guarded_nil, fun _ hleft => absurd hleft List.not_mem_nil⟩

/-- The queue refuses a sensitive submission whose memory cannot be mapped again. -/
theorem refused_uncleared :
    ¬ Erased ((backendRuns ⟨true, 0, 0⟩).run { config := ⟨true, 0, 0⟩ }
      [.initializeBackend (.ok ⟨true, "gpu", 1, by decide⟩),
        .submitBatch ⟨.auditScan, 4, some [7], 0, true, true⟩ {}
          { memorySize := 4, queueSubmit := .error (-2), zeroize := .error (-5) }]) := by
  intro h
  generalize hrun : (backendRuns ⟨true, 0, 0⟩).run _ _ = backend at h
  have hcalls : backend.inner.gpu.calls =
      backend.inner.gpu.calls.dropLast ++ [.destroy ⟨.memory, 2⟩] := by
    subst hrun
    rfl
  have hdirt : dirt backend.inner.gpu.calls.dropLast 2 = some 4 := by
    subst hrun
    rfl
  have hclean : Clean backend.inner.gpu.calls.dropLast 2 := h.device _ _ [] hcalls rfl
  exact absurd (hclean 4 hdirt) (by decide)

end TuffXwin.VulkanBackend
