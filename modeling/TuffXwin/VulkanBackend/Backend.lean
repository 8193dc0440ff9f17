import Mathlib.Data.Prod.Lex
import TuffXwin.Lib.History
import TuffXwin.Lib.Ledger
import TuffXwin.Lib.Machine
import TuffXwin.Lib.Outcome

/-! The submission books of the GPU backend. The driver is a party of its own: what it answers
is an input of each call, and `calls` records what was asked of it. It names the objects that
it creates by numbers from one on, zero being the null handle. Instants and durations are in
nanoseconds. -/

namespace TuffXwin.VulkanBackend
open Lib Lib.Ledger

def defaultTimeoutMs : Nat := 250
def maxTimeoutMs : Nat := 5000
def maxPendingGpuSubmissions : Nat := 64
def maxTerminalResults : Nat := maxPendingGpuSubmissions * 2
def maxGpuPayloadBytes : Nat := 64 * 1024 * 1024
def maxSurfaceWords : Nat := 1048576
def maxTotalGpuAllocationBytes : Nat := 256 * 1024 * 1024

/-- `vk::Result`. -/
abbrev VkResult := Int

def errorDeviceLost : VkResult := -4

inductive VulkanBackendState
  | uninitialized
  | ready
  | disabled
  | faulted
  deriving DecidableEq, Repr

inductive VulkanExecutionPath
  | vulkan
  | cpuFallback
  deriving DecidableEq, Repr

inductive VulkanWorkloadClass
  | maintenanceHashing
  | auditScan
  | packetPreclassification
  | bulkPrefilter
  | screenshotRefine
  | sceneComposition
  deriving DecidableEq, Repr

inductive VulkanPollStatus
  | pending
  | completed
  | timedOut
  | missing
  deriving DecidableEq, Repr

inductive VulkanFallbackReason
  | notInitialized
  | disabledByPolicy
  | capabilityUnavailable
  | belowBatchThreshold
  | timeout
  | submissionRejected
  | driverUnavailable
  | probeStageStop
  deriving DecidableEq, Repr

structure VulkanBackendConfig where
  enableVulkan : Bool
  packetPreclassificationMinBatchBytes : Nat
  submitTimeout : Nat

structure VulkanBackendCapabilities where
  computeAvailable : Bool := false
  transferAvailable : Bool := false
  driverName : String := "cpu-fallback-contract"
  deviceName : String := "unbound"

structure VulkanBatchSubmission where
  workload : VulkanWorkloadClass
  payloadLen : Nat
  surfaceWords : Option (List UInt32)
  timeout : Nat
  requiresZeroize : Bool
  allowsGpu : Bool

structure VulkanBatchHandle where
  id : Nat
  generation : Nat
  workload : VulkanWorkloadClass
  path : VulkanExecutionPath
  fallbackReason : Option VulkanFallbackReason
  deriving DecidableEq, Repr

structure VulkanBatchResult where
  handle : VulkanBatchHandle
  path : VulkanExecutionPath
  workload : VulkanWorkloadClass
  fallbackReason : Option VulkanFallbackReason
  completedAt : Nat
  deriving DecidableEq, Repr

structure VulkanBackendMetrics where
  totalSubmissions : Nat := 0
  vulkanSubmissions : Nat := 0
  cpuFallbackSubmissions : Nat := 0
  completedVulkanSubmissions : Nat := 0
  timedOutSubmissions : Nat := 0
  driverFaults : Nat := 0
  currentGpuAllocationBytes : Nat := 0
  peakGpuAllocationBytes : Nat := 0
  zeroizedHostBytes : Nat := 0
  zeroizedDeviceBytes : Nat := 0
  pendingGpuSubmissions : Nat := 0
  quarantinedGpuSubmissions : Nat := 0

structure SubmissionKey where
  generation : Nat
  id : Nat
  deriving DecidableEq, Repr

instance : LinearOrder SubmissionKey :=
  LinearOrder.lift' (fun key => toLex (key.generation, key.id)) fun a b h => by
    cases a
    cases b
    cases h
    rfl

/-! What is asked of the driver. -/

inductive ObjectKind
  | fence
  | commandBuffer
  | descriptorPool
  | buffer
  | memory
  deriving DecidableEq, Repr

structure GpuObject where
  kind : ObjectKind
  handle : Nat
  deriving DecidableEq, Repr

inductive DriverCall
  | queueSubmit (commandBuffer fence : Nat)
  | fenceStatus (fence : Nat) (answer : Except VkResult Bool) (now : Nat)
  | writeWords (memory allocationSize : Nat) (requiresZeroize : Bool)
  | zeroize (memory allocationSize : Nat) (answer : Except VkResult Unit)
  | deviceWaitIdle

structure Gpu where
  calls : List (Event GpuObject DriverCall) := []
  nextHandle : Nat := 1

namespace Gpu

def log (gpu : Gpu) (call : DriverCall) : Gpu := { gpu with calls := gpu.calls ++ [.other call] }

def create (gpu : Gpu) (kind : ObjectKind) : Gpu :=
  { calls := gpu.calls ++ [.create ⟨kind, gpu.nextHandle⟩]
    nextHandle := gpu.nextHandle + 1 }

def destroy (gpu : Gpu) (objects : List GpuObject) : Gpu :=
  { gpu with calls := gpu.calls ++ objects.map .destroy }

end Gpu

/-- The objects of one submission, zero where there is none. -/
structure GpuHandles where
  fence : Nat := 0
  commandBuffer : Nat := 0
  descriptorPool : Nat := 0
  buffer : Nat := 0
  memory : Nat := 0
  deriving DecidableEq, Repr

namespace GpuHandles

def get (handles : GpuHandles) : ObjectKind → Nat
  | .fence => handles.fence
  | .commandBuffer => handles.commandBuffer
  | .descriptorPool => handles.descriptorPool
  | .buffer => handles.buffer
  | .memory => handles.memory

def set (handles : GpuHandles) (handle : Nat) : ObjectKind → GpuHandles
  | .fence => { handles with fence := handle }
  | .commandBuffer => { handles with commandBuffer := handle }
  | .descriptorPool => { handles with descriptorPool := handle }
  | .buffer => { handles with buffer := handle }
  | .memory => { handles with memory := handle }

/-- The objects that are destroyed with a submission, in the order of their destruction. -/
def destroyed (handles : GpuHandles) (commandPool : Nat) : List GpuObject :=
  (if handles.fence ≠ 0 then [⟨.fence, handles.fence⟩] else []) ++
  (if handles.commandBuffer ≠ 0 ∧ commandPool ≠ 0 then
    [⟨.commandBuffer, handles.commandBuffer⟩] else []) ++
  (if handles.descriptorPool ≠ 0 then [⟨.descriptorPool, handles.descriptorPool⟩] else []) ++
  (if handles.buffer ≠ 0 then [⟨.buffer, handles.buffer⟩] else []) ++
  (if handles.memory ≠ 0 then [⟨.memory, handles.memory⟩] else [])

end GpuHandles

/-- Map the memory and overwrite it; only the mapping can fail. -/
def zeroizeDeviceMemory (answer : Except VkResult Unit) (gpu : Gpu)
    (memory allocationSize : Nat) : Gpu × Except VkResult Unit :=
  if memory = 0 ∨ allocationSize = 0 then (gpu, .ok ())
  else (gpu.log (.zeroize memory allocationSize answer), answer)

structure VulkanStoredSubmission where
  workload : VulkanWorkloadClass
  handles : GpuHandles
  allocationSize : Nat
  deadline : Nat
  completedAt : Option Nat
  requiresZeroize : Bool
  deriving DecidableEq, Repr

structure VulkanTerminalRecord where
  status : VulkanPollStatus
  fallbackReason : VulkanFallbackReason
  completedAt : Nat
  deriving DecidableEq, Repr

/-- Two specification variables: `accepted` are the submissions that the driver took, under the
handles that they were given; `dropped` says that the backend is gone. -/
structure VulkanBackendInner where
  state : VulkanBackendState := .uninitialized
  capabilities : VulkanBackendCapabilities := {}
  vkInstance : Bool := false
  device : Bool := false
  commandPool : Nat := 0
  nextSubmissionId : Nat := 1
  submissionGeneration : Nat := 1
  handleSpaceExhausted : Bool := false
  submissions : OrdMap SubmissionKey VulkanStoredSubmission := OrdMap.empty
  quarantined : OrdMap SubmissionKey VulkanStoredSubmission := OrdMap.empty
  terminalResults : OrdMap SubmissionKey VulkanTerminalRecord := OrdMap.empty
  terminalOrder : List SubmissionKey := []
  metrics : VulkanBackendMetrics := {}
  gpu : Gpu := {}
  accepted : List (VulkanBatchHandle × VulkanStoredSubmission) := []
  dropped : Bool := false

inductive SubmitError
  | vulkan (result : VkResult)
  | contract (reason : String)
  deriving DecidableEq, Repr

def SubmitError.isDeviceLost : SubmitError → Bool
  | .vulkan result => result = errorDeviceLost
  | .contract _ => false

def effectiveTimeout (requested configured : Nat) : Nat :=
  let hardMax := maxTimeoutMs * 1000000
  let configured :=
    if configured = 0 then defaultTimeoutMs * 1000000 else min configured hardMax
  if requested = 0 then configured else min (min requested configured) hardMax

/-- `Instant::checked_add`: the seconds of an instant are an `i64`. -/
def instantCheckedAdd (now duration : Nat) : Option Nat :=
  if (now + duration) / 1000000000 ≤ 9223372036854775807 then some (now + duration) else none

def handleKey (handle : VulkanBatchHandle) : SubmissionKey := ⟨handle.generation, handle.id⟩

namespace VulkanBackendInner

variable (inner : VulkanBackendInner)

def allocateHandle (workload : VulkanWorkloadClass) (path : VulkanExecutionPath)
    (fallbackReason : Option VulkanFallbackReason) : VulkanBackendInner × VulkanBatchHandle :=
  if inner.handleSpaceExhausted then (inner, ⟨0, 0, workload, path, fallbackReason⟩)
  else
    let handle : VulkanBatchHandle :=
      ⟨inner.nextSubmissionId, inner.submissionGeneration, workload, path, fallbackReason⟩
    if inner.nextSubmissionId = u64Max then
      if inner.submissionGeneration = u64Max then
        ({ inner with handleSpaceExhausted := true }, handle)
      else
        ({ inner with
          nextSubmissionId := 1
          submissionGeneration := inner.submissionGeneration + 1 }, handle)
    else ({ inner with nextSubmissionId := inner.nextSubmissionId + 1 }, handle)

def activeGpuResourceCount : Nat := satAdd inner.submissions.size inner.quarantined.size

def metricsSnapshot : VulkanBackendMetrics :=
  { inner.metrics with
    pendingGpuSubmissions := inner.submissions.size
    quarantinedGpuSubmissions := inner.quarantined.size }

def markFaulted : VulkanBackendInner :=
  { inner with
    state := .faulted
    capabilities :=
      { inner.capabilities with computeAvailable := false, transferAvailable := false }
    metrics :=
      if inner.state ≠ .faulted then
        { inner.metrics with driverFaults := satAdd inner.metrics.driverFaults 1 }
      else inner.metrics }

def countCpuFallback : VulkanBackendInner :=
  { inner with
    metrics :=
      { inner.metrics with
        cpuFallbackSubmissions := satAdd inner.metrics.cpuFallbackSubmissions 1 } }

def countSubmission : VulkanBackendInner :=
  { inner with
    metrics :=
      { inner.metrics with totalSubmissions := satAdd inner.metrics.totalSubmissions 1 } }

def countTimedOut : VulkanBackendInner :=
  { inner with
    metrics :=
      { inner.metrics with timedOutSubmissions := satAdd inner.metrics.timedOutSubmissions 1 } }

def countCompleted : VulkanBackendInner :=
  { inner with
    metrics :=
      { inner.metrics with
        completedVulkanSubmissions := satAdd inner.metrics.completedVulkanSubmissions 1 } }

/-- The part of `submit_batch` under its second lock. -/
def countZeroizedHost (hostWordBytes : Nat) : VulkanBackendInner :=
  { inner with
    metrics :=
      { inner.metrics with
        zeroizedHostBytes := satAdd inner.metrics.zeroizedHostBytes hostWordBytes } }

/-- A quarantined submission stays among the books of the GPU. -/
def quarantine (key : SubmissionKey) (submission : VulkanStoredSubmission) :
    VulkanBackendInner :=
  { inner with quarantined := inner.quarantined.insert key submission }

def insertTerminalResult (key : SubmissionKey) (record : VulkanTerminalRecord) :
    VulkanBackendInner :=
  let history := History.record maxTerminalResults inner.terminalOrder inner.terminalResults key
    record
  { inner with terminalOrder := history.1, terminalResults := history.2 }

def takeTerminalResult (key : SubmissionKey) :
    VulkanBackendInner × Option VulkanTerminalRecord :=
  match inner.terminalResults.get? key with
  | none => (inner, none)
  | some record =>
    let history := History.forget inner.terminalOrder inner.terminalResults key
    ({ inner with terminalOrder := history.1, terminalResults := history.2 }, some record)

def terminalizeSubmission (key : SubmissionKey) (status : VulkanPollStatus)
    (fallbackReason : VulkanFallbackReason) (completedAt : Nat) : VulkanBackendInner :=
  let moved :=
    match inner.submissions.get? key with
    | none => inner
    | some submission =>
      ({ inner with submissions := inner.submissions.erase key }.quarantine key
        submission).countCpuFallback
  moved.insertTerminalResult key ⟨status, fallbackReason, completedAt⟩

/-- The result is the submission itself where it could not be released. -/
def releaseGpuSubmission (zeroize : Except VkResult Unit) (submission : VulkanStoredSubmission) :
    VulkanBackendInner × Option VulkanStoredSubmission :=
  if inner.device = false then (inner, some submission)
  else
    let zeroized :=
      if submission.requiresZeroize then
        zeroizeDeviceMemory zeroize inner.gpu submission.handles.memory submission.allocationSize
      else (inner.gpu, .ok ())
    match zeroized.2 with
    | .error _ => ({ inner with gpu := zeroized.1 }, some submission)
    | .ok () =>
      ({ inner with
        gpu := zeroized.1.destroy (submission.handles.destroyed inner.commandPool)
        metrics :=
          { inner.metrics with
            currentGpuAllocationBytes :=
              inner.metrics.currentGpuAllocationBytes - submission.allocationSize
            zeroizedDeviceBytes :=
              if submission.requiresZeroize then
                satAdd inner.metrics.zeroizedDeviceBytes submission.allocationSize
              else inner.metrics.zeroizedDeviceBytes } }, none)

/-- Release a submission that is in none of the maps, or quarantine it. -/
def releaseOrQuarantine (zeroize : Except VkResult Unit) (key : SubmissionKey)
    (submission : VulkanStoredSubmission) : VulkanBackendInner :=
  match inner.releaseGpuSubmission zeroize submission with
  | (released, none) => released
  | (kept, some submission) => (kept.quarantine key submission).markFaulted

end VulkanBackendInner

/-- What a successful initialization finds and creates. -/
structure InitAnswer where
  transferAvailable : Bool
  deviceName : String
  commandPool : Nat
  created : commandPool ≠ 0

/-- What the driver answers while the quarantine is looked through. -/
structure ReapAnswers where
  fence : SubmissionKey → Except VkResult Bool := fun _ => .ok false
  zeroize : SubmissionKey → Except VkResult Unit := fun _ => .ok ()
  now : Nat := 0

/-- And what it answers to the rest of the call. -/
structure DriverAnswers where
  reap : ReapAnswers := {}
  fence : Except VkResult Bool := .ok false
  zeroize : Except VkResult Unit := .ok ()
  now : Nat := 0

namespace VulkanBackendInner

variable (inner : VulkanBackendInner)

def getFenceStatus (fence : Nat) (answer : Except VkResult Bool) (now : Nat) :
    VulkanBackendInner :=
  { inner with gpu := inner.gpu.log (.fenceStatus fence answer now) }

def reapOne (answers : ReapAnswers) (key : SubmissionKey) : VulkanBackendInner :=
  match inner.quarantined.get? key with
  | none => inner
  | some submission =>
    let asked := inner.getFenceStatus submission.handles.fence (answers.fence key) answers.now
    match answers.fence key with
    | .ok true =>
      { asked with quarantined := asked.quarantined.erase key }.releaseOrQuarantine
        (answers.zeroize key) key submission
    | .ok false => asked
    | .error _ => asked.markFaulted

def reapQuarantined (answers : ReapAnswers) : VulkanBackendInner :=
  if inner.device then
    inner.quarantined.keys.foldl (fun inner key => inner.reapOne answers key) inner
  else inner

end VulkanBackendInner

def admissionFallbackReason (config : VulkanBackendConfig) (inner : VulkanBackendInner)
    (submission : VulkanBatchSubmission) : Option VulkanFallbackReason :=
  let badWords :=
    match submission.surfaceWords with
    | none => false
    | some words =>
      match usizeChecked (words.length * 4) with
      | none => true
      | some wordBytes =>
        words.isEmpty || decide (maxSurfaceWords < words.length) ||
          decide (wordBytes ≠ submission.payloadLen)
  if submission.payloadLen = 0 ∨ maxGpuPayloadBytes < submission.payloadLen then
    some .submissionRejected
  else if badWords then some .submissionRejected
  else if submission.workload = .packetPreclassification ∧
      submission.payloadLen < config.packetPreclassificationMinBatchBytes then
    some .belowBatchThreshold
  else if submission.allowsGpu = false then some .disabledByPolicy
  else
    match inner.state with
    | .uninitialized => some .notInitialized
    | .disabled => some .disabledByPolicy
    | .faulted => some .driverUnavailable
    | .ready =>
      if maxPendingGpuSubmissions ≤ inner.activeGpuResourceCount then some .submissionRejected
      else if inner.capabilities.computeAvailable = false ∨ inner.device = false then
        some .capabilityUnavailable
      else if submission.surfaceWords.isNone then some .capabilityUnavailable
      else none

/-- What the driver answers to a submission, call by call. The lists that it allocates have one
member, or are empty. -/
structure SubmitAnswers where
  createBuffer : Except VkResult Unit := .ok ()
  memorySize : Nat := 0
  memoryTypeBits : Nat := 1
  memoryTypes : List Nat := [6]
  allocateMemory : Except VkResult Unit := .ok ()
  bindBufferMemory : Except VkResult Unit := .ok ()
  mapMemory : Except VkResult Unit := .ok ()
  allocateCommandBuffers : Except VkResult Bool := .ok true
  beginCommandBuffer : Except VkResult Unit := .ok ()
  createDescriptorPool : Except VkResult Unit := .ok ()
  allocateDescriptorSets : Except VkResult Bool := .ok true
  endCommandBuffer : Except VkResult Unit := .ok ()
  createFence : Except VkResult Unit := .ok ()
  queueSubmit : Except VkResult Unit := .ok ()
  zeroize : Except VkResult Unit := .ok ()
  now : Nat := 0

structure PendingGpuResources where
  commandPool : Nat
  handles : GpuHandles := {}
  allocationSize : Nat := 0
  requiresZeroize : Bool

/-- An attempt at a submission, with what it has created so far. -/
structure Submitting where
  gpu : Gpu
  pending : PendingGpuResources

abbrev SubmitM := EStateM SubmitError Submitting

def answered {α : Type} : Except VkResult α → SubmitM α
  | .ok value => pure value
  | .error result => throw (.vulkan result)

def require {α : Type} (reason : String) : Option α → SubmitM α
  | some value => pure value
  | none => throw (.contract reason)

def refuse (reason : String) (bad : Bool) : SubmitM Unit :=
  if bad then throw (.contract reason) else pure ()

def createObject (kind : ObjectKind) : SubmitM Unit :=
  modify fun attempt =>
    { gpu := attempt.gpu.create kind
      pending :=
        { attempt.pending with
          handles := attempt.pending.handles.set attempt.gpu.nextHandle kind } }

/-- The first host-visible and coherent memory type among those allowed. -/
def memoryTypeIndex (answers : SubmitAnswers) : Option Nat :=
  (List.range answers.memoryTypes.length).find? fun index =>
    answers.memoryTypeBits.testBit index && (answers.memoryTypes.getD index 0 &&& 6) == 6

def trySubmitM (inner : VulkanBackendInner) (submission : VulkanBatchSubmission) (timeout : Nat)
    (answers : SubmitAnswers) : SubmitM VulkanStoredSubmission := do
  answered answers.createBuffer
  createObject .buffer
  let total := usizeChecked (inner.metrics.currentGpuAllocationBytes + answers.memorySize)
  refuse "aggregate GPU allocation budget exceeded" (total.all (maxTotalGpuAllocationBytes < ·))
  refuse "instance missing" !inner.vkInstance
  let _ ← require "no host-visible coherent memory type" (memoryTypeIndex answers)
  answered answers.allocateMemory
  createObject .memory
  modify fun attempt =>
    { attempt with pending := { attempt.pending with allocationSize := answers.memorySize } }
  answered answers.bindBufferMemory
  answered answers.mapMemory
  modify fun attempt =>
    { attempt with
      gpu := attempt.gpu.log (.writeWords attempt.pending.handles.memory answers.memorySize
        submission.requiresZeroize) }
  let first ← answered answers.allocateCommandBuffers
  refuse "Vulkan returned no command buffer" !first
  createObject .commandBuffer
  answered answers.beginCommandBuffer
  answered answers.createDescriptorPool
  createObject .descriptorPool
  let first ← answered answers.allocateDescriptorSets
  refuse "Vulkan returned no descriptor set" !first
  let count ← require "dispatch group count overflow"
    (usizeChecked (submission.payloadLen / 4 + 63))
  let _ ← require "dispatch group count exceeds u32" (u32Checked (count / 64))
  answered answers.endCommandBuffer
  answered answers.createFence
  createObject .fence
  answered answers.queueSubmit
  let attempt ← get
  let handles := attempt.pending.handles
  set { attempt with gpu := attempt.gpu.log (.queueSubmit handles.commandBuffer handles.fence) }
  return {
    workload := submission.workload
    handles
    allocationSize := attempt.pending.allocationSize
    deadline := (instantCheckedAdd answers.now timeout).getD answers.now
    completedAt := none
    requiresZeroize := attempt.pending.requiresZeroize }

/-- `Drop for PendingGpuResources`. -/
def dropPending (answers : SubmitAnswers) (attempt : Submitting) : Gpu :=
  let pending := attempt.pending
  let zeroized :=
    if pending.requiresZeroize then
      (zeroizeDeviceMemory answers.zeroize attempt.gpu pending.handles.memory
        pending.allocationSize).1
    else attempt.gpu
  zeroized.destroy (pending.handles.destroyed pending.commandPool)

def trySubmit (inner : VulkanBackendInner) (submission : VulkanBatchSubmission) (timeout : Nat)
    (answers : SubmitAnswers) : Gpu × Except SubmitError VulkanStoredSubmission :=
  if inner.device = false then (inner.gpu, .error (.contract "device missing"))
  else if submission.surfaceWords.isNone then
    (inner.gpu, .error (.contract "metadata words missing"))
  else
    let attempt : Submitting :=
      { gpu := inner.gpu
        pending :=
          { commandPool := inner.commandPool, requiresZeroize := submission.requiresZeroize } }
    match trySubmitM inner submission timeout answers attempt with
    | .ok stored attempt => (attempt.gpu, .ok stored)
    | .error error attempt => (dropPending answers attempt, .error error)

namespace VulkanBackendInner

variable (inner : VulkanBackendInner)

def storeSubmission (handle : VulkanBatchHandle) (stored : VulkanStoredSubmission) :
    VulkanBackendInner :=
  let current := satAdd inner.metrics.currentGpuAllocationBytes stored.allocationSize
  { inner with
    submissions := inner.submissions.insert (handleKey handle) stored
    metrics :=
      { inner.metrics with
        vulkanSubmissions := satAdd inner.metrics.vulkanSubmissions 1
        currentGpuAllocationBytes := current
        peakGpuAllocationBytes := max inner.metrics.peakGpuAllocationBytes current }
    accepted := inner.accepted ++ [(handle, stored)] }

/-- The part of `submit_batch` under its first lock. -/
def submitBatch (config : VulkanBackendConfig) (submission : VulkanBatchSubmission)
    (reap : ReapAnswers) (answers : SubmitAnswers) : VulkanBackendInner × VulkanBatchHandle :=
  let counted := (inner.reapQuarantined reap).countSubmission
  match admissionFallbackReason config counted submission with
  | some reason =>
    counted.countCpuFallback.allocateHandle submission.workload .cpuFallback (some reason)
  | none =>
    let allocated := (counted.allocateHandle submission.workload .vulkan none).1
    let handle := (counted.allocateHandle submission.workload .vulkan none).2
    if handle.id = 0 then
      (allocated.countCpuFallback,
        { handle with path := .cpuFallback, fallbackReason := some .submissionRejected })
    else
      let timeout := effectiveTimeout submission.timeout config.submitTimeout
      match trySubmit allocated submission timeout answers with
      | (gpu, .ok stored) => ({ allocated with gpu }.storeSubmission handle stored, handle)
      | (gpu, .error error) =>
        let tried := { allocated with gpu }
        let reason :=
          if error.isDeviceLost then VulkanFallbackReason.driverUnavailable
          else .submissionRejected
        ((if error.isDeviceLost then tried.markFaulted else tried).countCpuFallback,
          { handle with path := .cpuFallback, fallbackReason := some reason })

def pollCompletion (answers : DriverAnswers) (handle : VulkanBatchHandle) :
    VulkanBackendInner × VulkanPollStatus :=
  if handle.path = .cpuFallback then (inner, .completed)
  else
    let key := handleKey handle
    let reaped := inner.reapQuarantined answers.reap
    match reaped.terminalResults.get? key with
    | some record => (reaped, record.status)
    | none =>
      match reaped.submissions.get? key with
      | none => (reaped, .missing)
      | some submission =>
        if submission.completedAt.isSome then (reaped, .completed)
        else if reaped.device = false then
          ((reaped.terminalizeSubmission key .missing .driverUnavailable answers.now).markFaulted,
            .missing)
        else
          let asked := reaped.getFenceStatus submission.handles.fence answers.fence answers.now
          match answers.fence with
          | .ok true =>
            ({ asked with
              submissions := asked.submissions.modify key fun submission =>
                { submission with completedAt := some answers.now } }, .completed)
          | .ok false =>
            if submission.deadline ≤ answers.now then
              let ended := asked.terminalizeSubmission key .timedOut .timeout answers.now
              (ended.countTimedOut.markFaulted, .timedOut)
            else (asked, .pending)
          | .error _ =>
            ((asked.terminalizeSubmission key .missing .driverUnavailable answers.now).markFaulted,
              .missing)

end VulkanBackendInner

/-- The memory of the words afterwards; the vector itself is left empty. -/
def zeroizeSurfaceWords (words : Option (List UInt32)) : Option (List UInt32) :=
  words.map fun words => words.map fun _ => 0

def fallbackResult (handle : VulkanBatchHandle) (reason : Option VulkanFallbackReason)
    (completedAt : Nat) : VulkanBatchResult :=
  ⟨handle, .cpuFallback, handle.workload, reason.or handle.fallbackReason, completedAt⟩

namespace VulkanBackendInner

variable (inner : VulkanBackendInner)

/-- What `wait_for_completion` does under the lock that it takes after a poll that found the
submission completed. -/
def finishCompleted (answers : DriverAnswers) (handle : VulkanBatchHandle) :
    VulkanBackendInner × VulkanBatchResult :=
  let key := handleKey handle
  match inner.takeTerminalResult key with
  | (taken, some record) =>
    (taken, fallbackResult handle (some record.fallbackReason) record.completedAt)
  | (taken, none) =>
    match taken.submissions.get? key with
    | none => (taken, fallbackResult handle (some .submissionRejected) answers.now)
    | some submission =>
      let released :=
        { taken with submissions := taken.submissions.erase key }.releaseOrQuarantine
          answers.zeroize key submission
      (released.countCompleted,
        ⟨handle, .vulkan, submission.workload, none, submission.completedAt.getD answers.now⟩)

/-- And after one that found it timed out or missing. -/
def finishFailed (answers : DriverAnswers) (handle : VulkanBatchHandle) :
    VulkanBackendInner × VulkanBatchResult :=
  match inner.takeTerminalResult (handleKey handle) with
  | (taken, some record) =>
    (taken, fallbackResult handle (some record.fallbackReason) record.completedAt)
  | (taken, none) => (taken, fallbackResult handle (some .submissionRejected) answers.now)

def retireSubmission (answers : DriverAnswers) (handle : VulkanBatchHandle) :
    VulkanBackendInner :=
  if handle.path = .cpuFallback then inner
  else
    let key := handleKey handle
    let reaped := inner.reapQuarantined answers.reap
    let removed :=
      match reaped.submissions.get? key with
      | none => reaped
      | some submission =>
        let removed := { reaped with submissions := reaped.submissions.erase key }
        if removed.device = false then removed.markFaulted.quarantine key submission
        else
          let asked := removed.getFenceStatus submission.handles.fence answers.fence answers.now
          match answers.fence with
          | .ok true => asked.releaseOrQuarantine answers.zeroize key submission
          | .ok false => asked.quarantine key submission
          | .error _ => asked.markFaulted.quarantine key submission
    (removed.takeTerminalResult key).1

def initializeBackend (config : VulkanBackendConfig) (answer : Except String InitAnswer) :
    VulkanBackendInner :=
  if inner.state ≠ .uninitialized then inner
  else if config.enableVulkan = false then { inner with state := .disabled }
  else
    match answer with
    | .ok found =>
      { inner with
        state := .ready
        capabilities :=
          { computeAvailable := true
            transferAvailable := found.transferAvailable
            driverName := "vulkan-ash-v1"
            deviceName := found.deviceName }
        vkInstance := true
        device := true
        commandPool := found.commandPool }
    | .error _ => inner.markFaulted

def destroyStored (zeroize : SubmissionKey → Except VkResult Unit) (gpu : Gpu)
    (entry : SubmissionKey × VulkanStoredSubmission) : Gpu :=
  let submission := entry.2
  let zeroized :=
    if submission.requiresZeroize then
      (zeroizeDeviceMemory (zeroize entry.1) gpu submission.handles.memory
        submission.allocationSize).1
    else gpu
  zeroized.destroy (submission.handles.destroyed inner.commandPool)

def dropGpu (zeroize : SubmissionKey → Except VkResult Unit) : Gpu :=
  if inner.device = false then inner.gpu
  else
    (inner.submissions.entries ++ inner.quarantined.entries).foldl
      (inner.destroyStored zeroize) (inner.gpu.log .deviceWaitIdle)

/-- `Drop for VulkanBackendInner`; the device goes after the submissions. -/
def dropInner (zeroize : SubmissionKey → Except VkResult Unit) : VulkanBackendInner :=
  { inner with
    device := false
    vkInstance := false
    submissions := OrdMap.empty
    quarantined := OrdMap.empty
    metrics := {}
    gpu := inner.dropGpu zeroize
    dropped := true }

end VulkanBackendInner

end TuffXwin.VulkanBackend
