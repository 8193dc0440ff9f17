import TuffXwin.Lib.Reach
import TuffXwin.VulkanBackend.Kept

/-! Runs of the GPU backend: any number of callers, each step one critical section of a call.
A wait polls until its submission has ended, and takes the result in a section of its own, so
everything may happen in between. -/

namespace TuffXwin.VulkanBackend
open Lib Lib.Ledger

variable {handle : VulkanBatchHandle}

inductive WaitPhase
  | polling
  | completed
  | failed
  deriving DecidableEq, Repr

structure Wait where
  handle : VulkanBatchHandle
  phase : WaitPhase
  deriving DecidableEq, Repr

/-- What the callers are told. -/
inductive Report
  | polled (handle : VulkanBatchHandle) (status : VulkanPollStatus)
  | waited (handle : VulkanBatchHandle) (result : VulkanBatchResult)
  | measured (metrics : VulkanBackendMetrics)

/-- `issued`, `reports` and `left` are read by nothing; `left` is the memory of the words that
the calls of `submit_batch` leave, and whether they had to be cleared. -/
structure Backend where
  config : VulkanBackendConfig
  inner : VulkanBackendInner := {}
  waits : List Wait := []
  zeroizing : List Nat := []
  issued : List VulkanBatchHandle := []
  reports : List Report := []
  left : List (Bool × Option (List UInt32)) := []

/-- The critical sections of the calls, with what the driver answers in them. -/
inductive Section
  | initializeBackend (answer : Except String InitAnswer)
  | submitBatch (submission : VulkanBatchSubmission) (reap : ReapAnswers)
      (answers : SubmitAnswers)
  | zeroizeHost (index : Nat)
  | pollCompletion (handle : VulkanBatchHandle) (answers : DriverAnswers)
  | wait (handle : VulkanBatchHandle) (now : Nat)
  | waitPoll (index : Nat) (answers : DriverAnswers)
  | waitFinish (index : Nat) (answers : DriverAnswers)
  | cancel (index : Nat)
  | retireSubmission (handle : VulkanBatchHandle) (answers : DriverAnswers)
  | metrics (reap : ReapAnswers)
  | shutdown (zeroize : SubmissionKey → Except VkResult Unit)

/-- The host words of a submission that is zeroized after the first lock. -/
def hostWordBytes (submission : VulkanBatchSubmission) : Nat :=
  match submission.surfaceWords with
  | none => 0
  | some words => (usizeChecked (words.length * 4)).getD 0

/-- The memory of the words when `submit_batch` returns. -/
def VulkanBatchSubmission.remainingWords (submission : VulkanBatchSubmission) :
    Option (List UInt32) :=
  if submission.requiresZeroize then zeroizeSurfaceWords submission.surfaceWords
  else submission.surfaceWords

def WaitPhase.after : VulkanPollStatus → WaitPhase
  | .completed => .completed
  | .timedOut => .failed
  | .missing => .failed
  | .pending => .polling

namespace Backend

variable (backend : Backend)

def submit (submission : VulkanBatchSubmission) (reap : ReapAnswers) (answers : SubmitAnswers) :
    Backend :=
  let submitted := backend.inner.submitBatch backend.config submission reap answers
  { backend with
    inner := submitted.1
    issued := backend.issued ++ [submitted.2]
    left := backend.left ++ [(submission.requiresZeroize, submission.remainingWords)]
    zeroizing :=
      if submission.requiresZeroize ∧ hostWordBytes submission ≠ 0 then
        backend.zeroizing ++ [hostWordBytes submission]
      else backend.zeroizing }

def poll (handle : VulkanBatchHandle) (answers : DriverAnswers) : Backend :=
  let polled := backend.inner.pollCompletion answers handle
  { backend with inner := polled.1, reports := backend.reports ++ [.polled handle polled.2] }

def beginWait (handle : VulkanBatchHandle) (now : Nat) : Backend :=
  if handle.path = .cpuFallback then
    let result := fallbackResult handle handle.fallbackReason now
    { backend with reports := backend.reports ++ [.waited handle result] }
  else { backend with waits := backend.waits ++ [⟨handle, .polling⟩] }

def waitPoll (index : Nat) (answers : DriverAnswers) : Backend :=
  match backend.waits[index]? with
  | some ⟨handle, .polling⟩ =>
    let polled := backend.inner.pollCompletion answers handle
    { backend with
      inner := polled.1
      waits := backend.waits.set index ⟨handle, .after polled.2⟩ }
  | _ => backend

def waitFinish (index : Nat) (answers : DriverAnswers) : Backend :=
  match backend.waits[index]? with
  | some ⟨handle, .completed⟩ =>
    let finished := backend.inner.finishCompleted answers handle
    { backend with
      inner := finished.1
      waits := backend.waits.eraseIdx index
      reports := backend.reports ++ [.waited handle finished.2] }
  | some ⟨handle, .failed⟩ =>
    let finished := backend.inner.finishFailed answers handle
    { backend with
      inner := finished.1
      waits := backend.waits.eraseIdx index
      reports := backend.reports ++ [.waited handle finished.2] }
  | _ => backend

/-- A wait may be given up where it sleeps. -/
def cancel (index : Nat) : Backend :=
  match backend.waits[index]? with
  | some ⟨_, .polling⟩ => { backend with waits := backend.waits.eraseIdx index }
  | _ => backend

def zeroizeHost (index : Nat) : Backend :=
  match backend.zeroizing[index]? with
  | some bytes =>
    { backend with
      inner := backend.inner.countZeroizedHost bytes
      zeroizing := backend.zeroizing.eraseIdx index }
  | none => backend

def measure (reap : ReapAnswers) : Backend :=
  let inner := backend.inner.reapQuarantined reap
  { backend with inner, reports := backend.reports ++ [.measured inner.metricsSnapshot] }

/-- Nothing borrows the backend when it is dropped. -/
def shutdown (zeroize : SubmissionKey → Except VkResult Unit) : Backend :=
  if backend.waits = [] ∧ backend.zeroizing = [] then
    { backend with inner := backend.inner.dropInner zeroize }
  else backend

def step : Section → Backend
  | .initializeBackend answer =>
    { backend with inner := backend.inner.initializeBackend backend.config answer }
  | .submitBatch submission reap answers => backend.submit submission reap answers
  | .zeroizeHost index => backend.zeroizeHost index
  | .pollCompletion handle answers => backend.poll handle answers
  | .wait handle now => backend.beginWait handle now
  | .waitPoll index answers => backend.waitPoll index answers
  | .waitFinish index answers => backend.waitFinish index answers
  | .cancel index => backend.cancel index
  | .retireSubmission handle answers =>
    { backend with inner := backend.inner.retireSubmission answers handle }
  | .metrics reap => backend.measure reap
  | .shutdown zeroize => backend.shutdown zeroize

end Backend

/-- The runs of one backend, until it is dropped. -/
def backendRuns (config : VulkanBackendConfig) : System Backend Section where
  init backend := backend = { config }
  next backend part := if backend.inner.dropped then backend else backend.step part

/-- A report is about the submission of its handle, or about the handle alone. -/
def Told (accepted : Accepted) (calls : Calls) : Report → Prop
  | .polled handle status =>
    (handle.path = .cpuFallback ∧ status = .completed) ∨
      (handle.path = .vulkan ∧ PollTells accepted calls handle status)
  | .waited handle result =>
    (handle.path = .cpuFallback ∧
      result = fallbackResult handle handle.fallbackReason result.completedAt) ∨
      (handle.path = .vulkan ∧ WaitTells accepted calls handle result)
  | .measured metrics =>
    metrics.pendingGpuSubmissions + metrics.quarantinedGpuSubmissions ≤
        maxPendingGpuSubmissions ∧
      metrics.currentGpuAllocationBytes ≤ maxTotalGpuAllocationBytes

/-- What a wait may rely on when it comes back. -/
def Polled (accepted : Accepted) (calls : Calls) (wait : Wait) : Prop :=
  wait.handle.path = .vulkan ∧
    (wait.phase = .completed → PollTells accepted calls wait.handle .completed)

structure BackendKept (backend : Backend) : Prop where
  inner : KeptWith [] [] [] backend.inner
  issued : ∀ handle ∈ backend.issued, Issued backend.inner.accepted handle
  waits : ∀ wait ∈ backend.waits,
    Polled backend.inner.accepted backend.inner.gpu.calls wait
  reports : ∀ report ∈ backend.reports,
    Told backend.inner.accepted backend.inner.gpu.calls report

theorem Told.mono {accepted accepted' : Accepted} {calls calls' : Calls} {report : Report}
    (h : Told accepted calls report) (haccepted : ∀ owner ∈ accepted, owner ∈ accepted')
    (hsub : calls <+: calls') : Told accepted' calls' report := by
  cases report with
  | polled handle status =>
    exact h.imp_right fun htells => ⟨htells.1, htells.2.mono haccepted hsub⟩
  | waited handle result =>
    exact h.imp_right fun htells => ⟨htells.1, htells.2.mono haccepted hsub⟩
  | measured metrics => exact h

theorem path_vulkan (h : handle.path ≠ .cpuFallback) : handle.path = .vulkan := by
  cases hpath : handle.path with
  | vulkan => rfl
  | cpuFallback => exact absurd hpath h

namespace BackendKept

variable {backend : Backend}

section

variable (h : BackendKept backend)
include h

/-- A section that leaves the callers alone. -/
theorem grown {inner : VulkanBackendInner}
    (hinner : KeptWith backend.inner.gpu.calls backend.inner.accepted [] inner) :
    BackendKept { backend with inner := inner } where
  inner := hinner.ended
  issued handle hhandle hpath := by
    obtain ⟨stored, hmem, hworkload⟩ := h.issued handle hhandle hpath
    exact ⟨stored, hinner.accepted.subset hmem, hworkload⟩
  waits wait hwait := by
    obtain ⟨hpath, hdone⟩ := h.waits wait hwait
    exact ⟨hpath, fun hphase => (hdone hphase).mono (fun _ howner => hinner.accepted.subset howner)
      hinner.calls⟩
  reports report hreport := (h.reports report hreport).mono
    (fun _ howner => hinner.accepted.subset howner) hinner.calls

theorem report {report : Report}
    (htold : Told backend.inner.accepted backend.inner.gpu.calls report) :
    BackendKept { backend with reports := backend.reports ++ [report] } :=
  { h with
    reports := fun other hother => by
      rcases List.mem_append.mp hother with hold | hnew
      · exact h.reports other hold
      · rw [List.mem_singleton.mp hnew]
        exact htold }

theorem setWaits {waits : List Wait}
    (hwaits : ∀ wait ∈ waits, Polled backend.inner.accepted backend.inner.gpu.calls wait) :
    BackendKept { backend with waits := waits } :=
  { h with waits := hwaits }

theorem endWait (index : Nat) :
    BackendKept { backend with waits := backend.waits.eraseIdx index } :=
  h.setWaits fun wait hmem => h.waits wait (List.mem_of_mem_eraseIdx hmem)

theorem submit (submission : VulkanBatchSubmission) (reap : ReapAnswers) (answers : SubmitAnswers) :
    BackendKept (backend.submit submission reap answers) := by
  obtain ⟨hinner, hissued⟩ :=
    submitBatch_kept h.inner.begin backend.config submission reap answers
  have hgrown := h.grown hinner
  unfold Backend.submit
  refine { hgrown with issued := fun handle hhandle => ?_ }
  rcases List.mem_append.mp hhandle with hold | hnew
  · exact hgrown.issued handle hold
  · rw [List.mem_singleton.mp hnew]
    exact hissued

theorem poll (handle : VulkanBatchHandle) (answers : DriverAnswers) :
    BackendKept (backend.poll handle answers) := by
  unfold Backend.poll
  by_cases hpath : handle.path = .cpuFallback
  · have hfallback : backend.inner.pollCompletion answers handle = (backend.inner, .completed) := by
      unfold VulkanBackendInner.pollCompletion
      rw [if_pos hpath]
    rw [hfallback]
    exact h.report (.inl ⟨hpath, rfl⟩)
  · obtain ⟨hinner, htells⟩ :=
      h.inner.begin.pollCompletion answers handle (path_vulkan hpath)
    exact (h.grown hinner).report (.inr ⟨path_vulkan hpath, htells⟩)

theorem beginWait (handle : VulkanBatchHandle) (now : Nat) :
    BackendKept (backend.beginWait handle now) := by
  unfold Backend.beginWait
  split_ifs with hpath
  · exact h.report (.inl ⟨hpath, rfl⟩)
  · refine h.setWaits fun wait hwait => ?_
    rcases List.mem_append.mp hwait with hold | hnew
    · exact h.waits wait hold
    · rw [List.mem_singleton.mp hnew]
      exact ⟨path_vulkan hpath, fun hphase => by cases hphase⟩

theorem waitPoll (index : Nat) (answers : DriverAnswers) :
    BackendKept (backend.waitPoll index answers) := by
  unfold Backend.waitPoll
  split
  · next handle hwait =>
    have hpath := (h.waits _ (List.mem_of_getElem? hwait)).1
    obtain ⟨hinner, htells⟩ := h.inner.begin.pollCompletion answers handle hpath
    have hgrown := h.grown hinner
    refine hgrown.setWaits fun wait hmem => ?_
    rcases List.mem_or_eq_of_mem_set hmem with hold | heq
    · exact hgrown.waits wait hold
    · rw [heq]
      refine ⟨hpath, fun hphase => ?_⟩
      cases hstatus : (backend.inner.pollCompletion answers handle).2 with
      | completed =>
        rw [hstatus] at htells
        exact htells
      | pending =>
        rw [hstatus] at hphase
        cases hphase
      | timedOut =>
        rw [hstatus] at hphase
        cases hphase
      | missing =>
        rw [hstatus] at hphase
        cases hphase
  · exact h

theorem waitFinish (index : Nat) (answers : DriverAnswers) :
    BackendKept (backend.waitFinish index answers) := by
  unfold Backend.waitFinish
  split
  · next handle hwait =>
    obtain ⟨hpath, hdone⟩ := h.waits _ (List.mem_of_getElem? hwait)
    obtain ⟨hinner, htells⟩ := h.inner.begin.finishCompleted answers handle (hdone rfl)
    have hgrown := h.grown hinner
    exact (hgrown.endWait index).report (.inr ⟨hpath, htells⟩)
  · next handle hwait =>
    obtain ⟨hpath, -⟩ := h.waits _ (List.mem_of_getElem? hwait)
    obtain ⟨hinner, htells⟩ := h.inner.begin.finishFailed answers handle
    have hgrown := h.grown hinner
    exact (hgrown.endWait index).report (.inr ⟨hpath, htells⟩)
  · exact h

theorem cancel (index : Nat) : BackendKept (backend.cancel index) := by
  unfold Backend.cancel
  split
  · exact h.endWait index
  · exact h

theorem zeroizeHost (index : Nat) : BackendKept (backend.zeroizeHost index) := by
  unfold Backend.zeroizeHost
  split
  · next bytes _ => exact { h.grown (h.inner.begin.countZeroizedHost bytes) with }
  · exact h

theorem measure (reap : ReapAnswers) : BackendKept (backend.measure reap) := by
  have hinner := h.inner.begin.reapQuarantined reap
  refine (h.grown hinner).report ⟨?_, hinner.books.budget⟩
  have hcount := hinner.books.count
  unfold VulkanBackendInner.held at hcount
  rw [List.nil_append, List.length_append] at hcount
  exact hcount

theorem shutdown (zeroize : SubmissionKey → Except VkResult Unit) :
    BackendKept (backend.shutdown zeroize) := by
  unfold Backend.shutdown
  split_ifs
  · exact h.grown (h.inner.begin.dropInner zeroize)
  · exact h

theorem step (hopen : backend.inner.dropped = false) (part : Section) :
    BackendKept (backend.step part) := by
  unfold Backend.step
  cases part with
  | initializeBackend answer =>
    exact h.grown (h.inner.begin.initializeBackend hopen backend.config answer)
  | submitBatch submission reap answers => exact h.submit submission reap answers
  | zeroizeHost index => exact h.zeroizeHost index
  | pollCompletion handle answers => exact h.poll handle answers
  | wait handle now => exact h.beginWait handle now
  | waitPoll index answers => exact h.waitPoll index answers
  | waitFinish index answers => exact h.waitFinish index answers
  | cancel index => exact h.cancel index
  | retireSubmission handle answers => exact h.grown (h.inner.begin.retireSubmission answers handle)
  | metrics reap => exact h.measure reap
  | shutdown zeroize => exact h.shutdown zeroize

end

end BackendKept

theorem backendKept_init (config : VulkanBackendConfig) : BackendKept { config } := by
  have hbooks : Books ({} : VulkanBackendInner).ledger [] :=
    { gpu := ⟨guarded_nil, fun object hmem => (by cases hmem), List.Perm.nil, Nat.one_ne_zero⟩
      earned := guarded_nil
      keys := List.nodup_nil
      count := Nat.zero_le _
      bytes := rfl
      budget := Nat.zero_le _
      device := fun hne => absurd rfl hne
      pool := fun hdevice => by cases hdevice
      owned := fun entry hentry => by cases hentry
      identities := List.nodup_nil
      apart := fun entry hentry => by cases hentry
      created := fun entry hentry => by cases hentry
      below := fun entry hentry => by cases hentry
      started := Nat.one_ne_zero }
  exact
    { inner :=
        ⟨hbooks, History.listed_empty, Nat.zero_le _, fun key record hget => (by cases hget),
          List.nil_prefix, List.nil_prefix, fun hdropped => by cases hdropped⟩
      issued := fun handle hhandle => by cases hhandle
      waits := fun wait hwait => by cases hwait
      reports := fun report hreport => by cases hreport }

theorem backend_kept {config : VulkanBackendConfig} {backend : Backend}
    (h : (backendRuns config).Reachable backend) : BackendKept backend := by
  refine h.invariant ?_ ?_
  · rintro backend rfl
    exact backendKept_init config
  · intro backend part hkept _
    unfold backendRuns
    dsimp only
    split_ifs with hdropped
    · exact hkept
    · exact hkept.step (by simpa using hdropped) part

/-! What the runs account for. -/

/-- The submission of a handle is in one of the maps. -/
def VulkanBackendInner.holds (inner : VulkanBackendInner) (key : SubmissionKey) : Bool :=
  inner.submissions.contains key || inner.quarantined.contains key

/-- A report on a handle of the GPU path is about the submission that was accepted for it. -/
def Own (accepted : Accepted) (calls : Calls) : Report → Prop
  | .polled handle status => handle.path = .vulkan →
    ∃ stored, (handle, stored) ∈ accepted ∧ PollTells [(handle, stored)] calls handle status
  | .waited handle result => handle.path = .vulkan →
    ∃ stored, (handle, stored) ∈ accepted ∧ WaitTells [(handle, stored)] calls handle result
  | .measured _ => True

def Report.about (handle : VulkanBatchHandle) : Report → Prop
  | .polled other _ => other = handle
  | .waited other _ => other = handle
  | .measured _ => False

structure Accounted (backend : Backend) : Prop where
  disjoint : ∀ key, backend.inner.submissions.contains key = true →
    backend.inner.quarantined.contains key = false
  bounded : backend.inner.submissions.size + backend.inner.quarantined.size ≤
    maxPendingGpuSubmissions
  bytes : backend.inner.metrics.currentGpuAllocationBytes =
    backend.inner.submissions.total (·.allocationSize) +
      backend.inner.quarantined.total (·.allocationSize)
  budget : backend.inner.metrics.currentGpuAllocationBytes ≤ maxTotalGpuAllocationBytes
  /-- An object of an accepted submission is destroyed once, when nothing holds it any more. -/
  destroyed : ∀ entry ∈ backend.inner.accepted, ∀ object ∈ entry.2.handles.objects,
    backend.inner.gpu.calls.countP (Event.destroys object) =
      if backend.inner.holds (handleKey entry.1) then 0 else 1
  /-- So is every object of an attempt that failed. -/
  failed : ∀ object, .create object ∈ backend.inner.gpu.calls →
    (∀ entry ∈ backend.inner.accepted, object ∉ entry.2.handles.objects) →
      backend.inner.gpu.calls.countP (Event.destroys object) = 1
  /-- Only what is there is destroyed. -/
  live : Sound backend.inner.gpu.calls
  signalled : ∀ entry ∈ backend.inner.accepted, ∀ object ∈ entry.2.handles.objects,
    ∀ before after, backend.inner.gpu.calls = before ++ .destroy object :: after →
      Signalled entry.2.handles.fence before ∨ backend.inner.dropped = true ∧ Idle before
  /-- With the backend everything is gone. -/
  gone : backend.inner.dropped = true → ∀ key, backend.inner.holds key = false
  order : backend.inner.terminalOrder.Perm backend.inner.terminalResults.keys
  once : backend.inner.terminalOrder.Nodup
  history : backend.inner.terminalOrder.length ≤ maxTerminalResults
  /-- Every handle of the GPU path has a submission, and no two have the same key. -/
  issued : ∀ handle ∈ backend.issued, handle.path = .vulkan →
    ∃ stored, (handle, stored) ∈ backend.inner.accepted ∧ stored.workload = handle.workload
  identities : (backend.inner.accepted.map fun entry => handleKey entry.1).Nodup
  reports : ∀ handle ∈ backend.issued, ∀ report ∈ backend.reports, report.about handle →
    Own backend.inner.accepted backend.inner.gpu.calls report
  measured : ∀ metrics, .measured metrics ∈ backend.reports →
    metrics.pendingGpuSubmissions + metrics.quarantinedGpuSubmissions ≤
        maxPendingGpuSubmissions ∧
      metrics.currentGpuAllocationBytes ≤ maxTotalGpuAllocationBytes

namespace BackendKept

variable {backend : Backend}

theorem mem_held {key : SubmissionKey} :
    backend.inner.holds key = true ↔ ∃ stored, (key, stored) ∈ backend.inner.held := by
  unfold VulkanBackendInner.holds VulkanBackendInner.held
  simp only [Bool.or_eq_true, OrdMap.contains_iff, List.mem_append, OrdMap.mem_entries,
    exists_or]

/-- An object of an accepted submission is live while the submission is held. -/
theorem live_iff (h : BackendKept backend) {entry : VulkanBatchHandle × VulkanStoredSubmission}
    (hentry : entry ∈ backend.inner.accepted) {object : GpuObject}
    (hobject : object ∈ entry.2.handles.objects) :
    object ∈ live backend.inner.gpu.calls ↔ backend.inner.holds (handleKey entry.1) = true := by
  have hbooks : Books backend.inner.ledger backend.inner.held := h.inner.books
  have hlive : object ∈ live backend.inner.gpu.calls ↔ _ := hbooks.gpu.live.mem_iff
  rw [hlive, List.mem_flatMap, mem_held]
  constructor
  · rintro ⟨⟨key, stored⟩, hheld, hmem⟩
    obtain ⟨owner, howner, hkey, hsame, -⟩ := hbooks.owned (key, stored) hheld
    have hhandles : owner.2.handles = stored.handles := by rw [hsame]
    obtain rfl := hbooks.apart entry hentry owner howner object hobject (hhandles ▸ hmem)
    exact ⟨stored, hkey ▸ hheld⟩
  · rintro ⟨stored, hheld⟩
    obtain ⟨owner, howner, hkey, hsame, -⟩ := hbooks.owned _ hheld
    have hhandles : owner.2.handles = stored.handles := by rw [hsame]
    obtain rfl := hbooks.unique hentry howner hkey.symm
    exact ⟨_, hheld, hhandles ▸ hobject⟩

/-- Told of the key of an accepted handle is told of its own submission. -/
theorem own (h : BackendKept backend) (hhandle : handle ∈ backend.issued) {report : Report}
    (hreport : report ∈ backend.reports) (habout : report.about handle) :
    Own backend.inner.accepted backend.inner.gpu.calls report := by
  have hbooks : Books backend.inner.ledger backend.inner.held := h.inner.books
  have htold := h.reports report hreport
  -- The owner of the key is the handle itself.
  have howner : handle.path = .vulkan → ∃ stored, (handle, stored) ∈ backend.inner.accepted ∧
      ∀ owner ∈ backend.inner.accepted, handleKey owner.1 = handleKey handle →
        owner = (handle, stored) := by
    intro hpath
    obtain ⟨stored, hmem, -⟩ := h.issued handle hhandle hpath
    exact ⟨stored, hmem, fun owner howner hkey => hbooks.unique howner hmem hkey⟩
  cases report with
  | polled polled status =>
    obtain rfl : polled = handle := habout
    intro hpath
    obtain ⟨stored, hmem, hunique⟩ := howner hpath
    refine ⟨stored, hmem, ?_⟩
    rcases htold with ⟨hfallback, -⟩ | ⟨-, hmissing | ⟨owner, howner, hkey, hstatus⟩⟩
    · exact absurd (hpath.symm.trans hfallback) (by decide)
    · exact .inl hmissing
    · obtain rfl := hunique owner howner hkey
      exact .inr ⟨_, List.mem_singleton_self _, rfl, hstatus⟩
  | waited waited result =>
    obtain rfl : waited = handle := habout
    intro hpath
    obtain ⟨stored, hmem, hunique⟩ := howner hpath
    refine ⟨stored, hmem, ?_⟩
    rcases htold with ⟨hfallback, -⟩ | ⟨-, hsame, hrejected | ⟨owner, howner, hkey, houtcome⟩⟩
    · exact absurd (hpath.symm.trans hfallback) (by decide)
    · exact ⟨hsame, .inl hrejected⟩
    · obtain rfl := hunique owner howner hkey
      exact ⟨hsame, .inr ⟨_, List.mem_singleton_self _, rfl, houtcome⟩⟩
  | measured metrics => trivial

theorem accounted (h : BackendKept backend) : Accounted backend := by
  have hbooks : Books backend.inner.ledger backend.inner.held := h.inner.books
  refine ⟨fun key hsubmission => ?_, ?_, ?_, hbooks.budget, fun entry hentry object hobject => ?_,
    fun object hcreated hnone => ?_, hbooks.gpu.sound,
    fun entry hentry object hobject before after heq => ?_, fun hdropped key => ?_,
    h.inner.listed.perm, h.inner.listed.nodup, h.inner.bounded, h.issued, hbooks.identities,
    fun handle hhandle report hreport habout => h.own hhandle hreport habout,
    fun metrics hmeasured => h.reports _ hmeasured⟩
  · by_contra hquarantined
    obtain ⟨first, hfirst⟩ := OrdMap.contains_iff.mp hsubmission
    obtain ⟨second, hsecond⟩ := OrdMap.contains_iff.mp (by simpa using hquarantined)
    have hkeys := hbooks.keys
    unfold VulkanBackendInner.held at hkeys
    rw [List.map_append] at hkeys
    exact List.disjoint_of_nodup_append hkeys
      (List.mem_map.mpr ⟨_, OrdMap.mem_entries.mpr hfirst, rfl⟩)
      (List.mem_map.mpr ⟨_, OrdMap.mem_entries.mpr hsecond, rfl⟩)
  · have hcount := hbooks.count
    unfold VulkanBackendInner.held at hcount
    rw [List.length_append] at hcount
    exact hcount
  · have hbytes := hbooks.bytes
    unfold VulkanBackendInner.held at hbytes
    rw [List.map_append, List.sum_append] at hbytes
    unfold OrdMap.total OrdMap.values
    rw [List.map_map, List.map_map]
    exact hbytes
  · have hdestroyed : backend.inner.gpu.calls.countP (Event.destroys object) =
        if object ∈ live backend.inner.gpu.calls then 0 else 1 :=
      hbooks.gpu.sound.destroyed (hbooks.created entry hentry object hobject)
    have hiff := h.live_iff hentry hobject
    by_cases hholds : backend.inner.holds (handleKey entry.1) = true
    · rw [if_pos (hiff.mpr hholds)] at hdestroyed
      rw [if_pos hholds]
      exact hdestroyed
    · rw [if_neg (fun hlive => hholds (hiff.mp hlive))] at hdestroyed
      rw [if_neg hholds]
      exact hdestroyed
  · have hdestroyed := hbooks.gpu.sound.destroyed hcreated
    rw [if_neg] at hdestroyed
    · exact hdestroyed
    · intro hlive
      obtain ⟨held, hheld, hmem⟩ := List.mem_flatMap.mp (hbooks.gpu.live.mem_iff.mp hlive)
      obtain ⟨owner, howner, -, hsame, -⟩ := hbooks.owned held hheld
      refine hnone owner howner ?_
      rw [hsame]
      exact hmem
  · exact hbooks.earned before (.destroy object) after heq entry hentry hobject
  · by_contra hholds
    obtain ⟨stored, hmem⟩ := mem_held.mp (by simpa using hholds)
    have hdevice := hbooks.device (List.ne_nil_of_mem hmem)
    have hclosed := h.inner.closed hdropped
    exact absurd hdevice (by simp [VulkanBackendInner.ledger, hclosed])

end BackendKept

/-- In every run of the GPU backend its submissions are accounted for. -/
theorem submissions_accounted (config : VulkanBackendConfig) (sections : List Section) :
    Accounted ((backendRuns config).run { config } sections) :=
  (backend_kept (System.Reachable.run (.init rfl) sections)).accounted

/-- A submission that is polled and waited for by two callers: one gets its result. -/
example :
    let ready : InitAnswer := ⟨true, "gpu", 1, by decide⟩
    let submission : VulkanBatchSubmission := ⟨.auditScan, 4, some [7], 0, false, true⟩
    let handle : VulkanBatchHandle := ⟨1, 1, .auditScan, .vulkan, none⟩
    let signalled : DriverAnswers := { fence := .ok true }
    let backend := (backendRuns ⟨true, 0, 0⟩).run { config := ⟨true, 0, 0⟩ }
      [.initializeBackend (.ok ready), .submitBatch submission {} { memorySize := 4 },
        .wait handle 0, .wait handle 0, .waitPoll 0 signalled, .waitPoll 1 signalled,
        .waitFinish 1 {}, .waitFinish 0 {}]
    backend.inner.accepted.length = 1 ∧ backend.inner.metrics.currentGpuAllocationBytes = 0 ∧
      backend.inner.gpu.calls.countP (Event.destroys ⟨.fence, 5⟩) = 1 := by
  decide

end TuffXwin.VulkanBackend
