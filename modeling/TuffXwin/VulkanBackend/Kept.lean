import TuffXwin.VulkanBackend.Books

/-! Every operation keeps the books. `extra` are submissions that are in none of the maps at
the moment; `calls` and `accepted` are what was there when the operation began. -/

namespace TuffXwin.VulkanBackend
open Lib Lib.Ledger

variable {calls calls' : Calls} {record : VulkanTerminalRecord}
  {submission : VulkanStoredSubmission} {accepted : Accepted} {key : SubmissionKey}
  {handle : VulkanBatchHandle}
variable {ledger : Ledger} {entries : Held}
variable {accepted' : Accepted} {gpu : Gpu}

def VulkanBackendInner.held (inner : VulkanBackendInner) : Held :=
  inner.submissions.entries ++ inner.quarantined.entries

/-- A terminal record tells why the submission accepted under its key was given up. -/
def Failure (calls : Calls) (submission : VulkanStoredSubmission)
    (record : VulkanTerminalRecord) : Prop :=
  (record.status = .timedOut ∧ record.fallbackReason = .timeout ∧
    submission.deadline ≤ record.completedAt ∧
    .other (.fenceStatus submission.handles.fence (.ok false) record.completedAt) ∈ calls) ∨
  (record.status = .missing ∧ record.fallbackReason = .driverUnavailable ∧
    ∃ error, .other (.fenceStatus submission.handles.fence (.error error)
      record.completedAt) ∈ calls)

def Recorded (accepted : Accepted) (calls : Calls) (key : SubmissionKey)
    (record : VulkanTerminalRecord) : Prop :=
  ∃ owner ∈ accepted, handleKey owner.1 = key ∧ Failure calls owner.2 record

structure KeptWith (calls : Calls) (accepted : Accepted) (extra : Held)
    (inner : VulkanBackendInner) : Prop where
  books : Books inner.ledger (extra ++ inner.held)
  listed : History.Listed inner.terminalOrder inner.terminalResults
  bounded : inner.terminalOrder.length ≤ maxTerminalResults
  records : ∀ key record, inner.terminalResults.get? key = some record →
    Recorded inner.accepted inner.gpu.calls key record
  calls : calls <+: inner.gpu.calls
  accepted : accepted <+: inner.accepted
  closed : inner.dropped = true → inner.device = false

theorem Failure.mono (h : Failure calls submission record) (hsub : calls <+: calls') :
    Failure calls' submission record := by
  rcases h with ⟨hstatus, hreason, hdeadline, hmem⟩ | ⟨hstatus, hreason, error, hmem⟩
  · exact .inl ⟨hstatus, hreason, hdeadline, hsub.subset hmem⟩
  · exact .inr ⟨hstatus, hreason, error, hsub.subset hmem⟩

theorem Recorded.mono (h : Recorded accepted calls key record)
    (haccepted : ∀ owner ∈ accepted, owner ∈ accepted') (hsub : calls <+: calls') :
    Recorded accepted' calls' key record := by
  obtain ⟨owner, howner, hkey, hfailure⟩ := h
  exact ⟨owner, haccepted owner howner, hkey, hfailure.mono hsub⟩

namespace KeptWith

variable {calls : Calls} {accepted : Accepted} {extra : Held} {inner inner' : VulkanBackendInner}
  {key : SubmissionKey} {submission : VulkanStoredSubmission}

section

variable (h : KeptWith calls accepted extra inner)
include h

/-- An operation begins. -/
theorem begin : KeptWith inner.gpu.calls inner.accepted extra inner :=
  { h with calls := List.prefix_rfl, accepted := List.prefix_rfl }

theorem ended : KeptWith [] [] extra inner :=
  { h with calls := List.nil_prefix, accepted := List.nil_prefix }

/-- Only the books, the maps and the history count. -/
theorem same (hledger : inner'.ledger = inner.ledger) (hheld : inner'.held.Perm inner.held)
    (horder : inner'.terminalOrder = inner.terminalOrder)
    (hresults : inner'.terminalResults = inner.terminalResults) :
    KeptWith calls accepted extra inner' := by
  have hgpu : inner'.gpu = inner.gpu := congrArg Ledger.gpu hledger
  have haccepted : inner'.accepted = inner.accepted := congrArg Ledger.accepted hledger
  have hdropped : inner'.dropped = inner.dropped := congrArg Ledger.dropped hledger
  have hdevice : inner'.device = inner.device := congrArg Ledger.device hledger
  refine ⟨?_, ?_, ?_, ?_, ?_, ?_, ?_⟩
  · rw [hledger]
    exact h.books.perm (hheld.symm.append_left extra)
  · rw [horder, hresults]
    exact h.listed
  · rw [horder]
    exact h.bounded
  · rw [hresults, haccepted, hgpu]
    exact h.records
  · rw [hgpu]
    exact h.calls
  · rw [haccepted]
    exact h.accepted
  · rw [hdropped, hdevice]
    exact h.closed

theorem markFaulted : KeptWith calls accepted extra inner.markFaulted := by
  refine h.same ?_ (List.Perm.refl _) rfl rfl
  unfold VulkanBackendInner.markFaulted VulkanBackendInner.ledger
  by_cases hstate : inner.state ≠ .faulted
  · simp only [if_pos hstate]
  · simp only [if_neg hstate]

theorem countCpuFallback : KeptWith calls accepted extra inner.countCpuFallback :=
  h.same rfl (List.Perm.refl _) rfl rfl

theorem countSubmission : KeptWith calls accepted extra inner.countSubmission :=
  h.same rfl (List.Perm.refl _) rfl rfl

theorem countTimedOut : KeptWith calls accepted extra inner.countTimedOut :=
  h.same rfl (List.Perm.refl _) rfl rfl

theorem countCompleted : KeptWith calls accepted extra inner.countCompleted :=
  h.same rfl (List.Perm.refl _) rfl rfl

theorem countZeroizedHost (bytes : Nat) :
    KeptWith calls accepted extra (inner.countZeroizedHost bytes) :=
  h.same rfl (List.Perm.refl _) rfl rfl

/-- The books after a change of the log alone. -/
theorem changed (hbooks : Books inner'.ledger (extra ++ inner'.held))
    (hcalls : inner.gpu.calls <+: inner'.gpu.calls) (haccepted : inner'.accepted = inner.accepted)
    (horder : inner'.terminalOrder = inner.terminalOrder)
    (hresults : inner'.terminalResults = inner.terminalResults)
    (hclosed : inner'.dropped = true → inner'.device = false) :
    KeptWith calls accepted extra inner' := by
  refine ⟨hbooks, ?_, ?_, fun key record hrecord => ?_, h.calls.trans hcalls, ?_, hclosed⟩
  · rw [horder, hresults]
    exact h.listed
  · rw [horder]
    exact h.bounded
  · rw [haccepted]
    rw [hresults] at hrecord
    exact (h.records key record hrecord).mono (fun _ howner => howner) hcalls
  · rw [haccepted]
    exact h.accepted

theorem getFenceStatus (fence : Nat) (answer : Except VkResult Bool) (now : Nat) :
    KeptWith calls accepted extra (inner.getFenceStatus fence answer now) :=
  h.changed (h.books.log _) Gpu.log_grown rfl rfl rfl h.closed

/-- A submission taken out of the maps is still in the books. -/
theorem takeSubmission (hget : inner.submissions.get? key = some submission) :
    KeptWith calls accepted ((key, submission) :: extra)
      { inner with submissions := inner.submissions.erase key } := by
  have hperm : (extra ++ inner.held).Perm ((key, submission) :: extra ++
      ((inner.submissions.erase key).entries ++ inner.quarantined.entries)) := by
    have hentries := (OrdMap.entries_erase hget).append_right inner.quarantined.entries
    exact (hentries.append_left extra).trans List.perm_middle
  exact ⟨h.books.perm hperm, h.listed, h.bounded, h.records, h.calls, h.accepted, h.closed⟩

theorem takeQuarantined (hget : inner.quarantined.get? key = some submission) :
    KeptWith calls accepted ((key, submission) :: extra)
      { inner with quarantined := inner.quarantined.erase key } := by
  have hperm : (extra ++ inner.held).Perm ((key, submission) :: extra ++
      (inner.submissions.entries ++ (inner.quarantined.erase key).entries)) := by
    have hentries := (OrdMap.entries_erase hget).append_left inner.submissions.entries
    have hheld := hentries.trans List.perm_middle
    exact (hheld.append_left extra).trans List.perm_middle
  exact ⟨h.books.perm hperm, h.listed, h.bounded, h.records, h.calls, h.accepted, h.closed⟩

end

theorem quarantine (h : KeptWith calls accepted ((key, submission) :: extra) inner) :
    KeptWith calls accepted extra (inner.quarantine key submission) := by
  have hnone : inner.quarantined.get? key = none := by
    refine Option.eq_none_iff_forall_ne_some.mpr fun other hother => ?_
    have hmem : (key, other) ∈ extra ++ inner.held :=
      List.mem_append_right _ (List.mem_append_right _ (OrdMap.mem_entries.mpr hother))
    exact (List.nodup_cons.mp h.books.keys).1 (List.mem_map.mpr ⟨_, hmem, rfl⟩)
  have hperm : ((key, submission) :: extra ++ inner.held).Perm
      (extra ++ (inner.quarantine key submission).held) := by
    have hinsert : (inner.quarantined.insert key submission).entries.Perm
        ((key, submission) :: inner.quarantined.entries) := OrdMap.entries_insert hnone
    have hentries := hinsert.append_left inner.submissions.entries
    have hheld := hentries.trans List.perm_middle
    exact ((hheld.append_left extra).trans List.perm_middle).symm
  exact ⟨h.books.perm hperm, h.listed, h.bounded, h.records, h.calls, h.accepted, h.closed⟩

theorem complete (h : KeptWith calls accepted extra inner)
    (hget : inner.submissions.get? key = some submission) (now : Nat)
    (hdone : Signalled submission.handles.fence inner.gpu.calls) :
    KeptWith calls accepted extra
      { inner with
        submissions := inner.submissions.modify key fun submission =>
          { submission with completedAt := some now } } := by
  have hbooks := (h.takeSubmission hget).books.complete now hdone
  have hmodify : (inner.submissions.modify key fun submission =>
      { submission with completedAt := some now }).entries.Perm
      ((key, { submission with completedAt := some now }) ::
        (inner.submissions.erase key).entries) := OrdMap.entries_modify hget
  have hentries := hmodify.append_right inner.quarantined.entries
  have hperm := (hentries.append_left extra).trans List.perm_middle
  exact ⟨hbooks.perm hperm.symm, h.listed, h.bounded, h.records, h.calls, h.accepted, h.closed⟩

/-- A submission out of the maps whose fence was seen signalled is released, or is quarantined. -/
theorem releaseOrQuarantine (h : KeptWith calls accepted ((key, submission) :: extra) inner)
    (zeroize : Except VkResult Unit)
    (hdone : Signalled submission.handles.fence inner.gpu.calls) :
    KeptWith calls accepted extra (inner.releaseOrQuarantine zeroize key submission) := by
  have hdevice : inner.device = true := h.books.device (List.cons_ne_nil _ _)
  have hpool : inner.commandPool ≠ 0 := h.books.pool hdevice
  have hdestroyed : submission.handles.destroyed inner.commandPool = submission.handles.objects :=
    GpuHandles.destroyed_eq hpool
  -- The memory may have been overwritten before the objects go.
  have hzeroized : ∀ gpu, (gpu = inner.gpu ∨ gpu = (zeroizeDeviceMemory zeroize inner.gpu
      submission.handles.memory submission.allocationSize).1) →
      KeptWith calls accepted ((key, submission) :: extra) { inner with gpu := gpu } := by
    rintro gpu (rfl | rfl)
    · exact h
    · exact h.changed (h.books.zeroize _ _ _) zeroizeDeviceMemory_grown rfl rfl rfl h.closed
  unfold VulkanBackendInner.releaseOrQuarantine VulkanBackendInner.releaseGpuSubmission
  rw [if_neg (by simp [hdevice])]
  dsimp only
  generalize hout : (if submission.requiresZeroize then
      zeroizeDeviceMemory zeroize inner.gpu submission.handles.memory submission.allocationSize
    else (inner.gpu, Except.ok ())) = zeroized
  have hgpu : zeroized.1 = inner.gpu ∨ zeroized.1 = (zeroizeDeviceMemory zeroize inner.gpu
      submission.handles.memory submission.allocationSize).1 := by
    rw [← hout]
    split_ifs
    · exact .inr rfl
    · exact .inl rfl
  have hkept := hzeroized zeroized.1 hgpu
  have hcalls : inner.gpu.calls <+: zeroized.1.calls := by
    rcases hgpu with heq | heq
    · exact heq ▸ List.prefix_rfl
    · exact heq ▸ zeroizeDeviceMemory_grown
  cases hanswer : zeroized.2 with
  | error result => exact hkept.quarantine.markFaulted
  | ok =>
    have hbooks := hkept.books.release (.inl (hdone.mono hcalls))
    dsimp only
    rw [hdestroyed]
    exact ⟨hbooks, hkept.listed, hkept.bounded,
      fun key record hrecord => (hkept.records key record hrecord).mono (fun _ howner => howner)
        (List.prefix_append _ _),
      hkept.calls.trans (List.prefix_append _ _), hkept.accepted, hkept.closed⟩

theorem insertTerminalResult (h : KeptWith calls accepted extra inner)
    (hrecord : Recorded inner.accepted inner.gpu.calls key record) :
    KeptWith calls accepted extra (inner.insertTerminalResult key record) := by
  have hcap : 0 < maxTerminalResults := by decide
  obtain ⟨hlisted, hbounded⟩ := History.record_listed hcap h.listed h.bounded
  refine ⟨h.books, hlisted, hbounded, fun other record' hget => ?_, h.calls, h.accepted, h.closed⟩
  rcases History.get?_record hget with ⟨rfl, rfl⟩ | hold
  · exact hrecord
  · exact h.records other record' hold

theorem takeTerminalResult (h : KeptWith calls accepted extra inner) (key : SubmissionKey) :
    KeptWith calls accepted extra (inner.takeTerminalResult key).1 := by
  unfold VulkanBackendInner.takeTerminalResult
  cases hget : inner.terminalResults.get? key with
  | none => exact h
  | some record =>
    refine ⟨h.books, History.forget_listed h.listed, (List.length_filter_le _ _).trans h.bounded,
      fun other record' hrecord => ?_, h.calls, h.accepted, h.closed⟩
    unfold History.forget at hrecord
    rw [OrdMap.get?_erase] at hrecord
    split_ifs at hrecord with heq
    exact h.records other record' hrecord

theorem terminalizeSubmission (h : KeptWith calls accepted extra inner) {status : VulkanPollStatus}
    {reason : VulkanFallbackReason} {now : Nat}
    (hget : inner.submissions.get? key = some submission)
    (hrecord : Recorded inner.accepted inner.gpu.calls key ⟨status, reason, now⟩) :
    KeptWith calls accepted extra (inner.terminalizeSubmission key status reason now) := by
  unfold VulkanBackendInner.terminalizeSubmission
  rw [hget]
  exact (h.takeSubmission hget).quarantine.countCpuFallback.insertTerminalResult hrecord

theorem reapOne (h : KeptWith calls accepted [] inner) (answers : ReapAnswers) :
    KeptWith calls accepted [] (inner.reapOne answers key) := by
  unfold VulkanBackendInner.reapOne
  cases hget : inner.quarantined.get? key with
  | none => exact h
  | some submission =>
    have hasked := h.getFenceStatus submission.handles.fence (answers.fence key) answers.now
    dsimp only
    cases hanswer : answers.fence key with
    | error result =>
      rw [hanswer] at hasked
      exact hasked.markFaulted
    | ok signalled =>
      rw [hanswer] at hasked
      cases signalled with
      | false => exact hasked
      | true =>
        refine (hasked.takeQuarantined hget).releaseOrQuarantine _ ⟨answers.now, ?_⟩
        exact List.mem_append_right _ (List.mem_singleton_self _)

theorem reapQuarantined (h : KeptWith calls accepted [] inner) (answers : ReapAnswers) :
    KeptWith calls accepted [] (inner.reapQuarantined answers) := by
  unfold VulkanBackendInner.reapQuarantined
  split_ifs with hdevice
  · clear hdevice
    generalize inner.quarantined.keys = keys
    induction keys generalizing inner with
    | nil => exact h
    | cons key keys ih => exact ih (h.reapOne answers)
  · exact h

/-- A held submission is the one accepted under its key. -/
theorem owned (h : KeptWith calls accepted extra inner)
    (hget : inner.submissions.get? key = some submission) :
    Owned inner.ledger (key, submission) :=
  h.books.owned _ (List.mem_append_right _ (List.mem_append_left _ (OrdMap.mem_entries.mpr hget)))

theorem device (h : KeptWith calls accepted extra inner)
    (hget : inner.submissions.get? key = some submission) : inner.device = true := by
  refine h.books.device fun hnil => ?_
  have hmem : (key, submission) ∈ extra ++ inner.held :=
    List.mem_append_right _ (List.mem_append_left _ (OrdMap.mem_entries.mpr hget))
  rw [hnil] at hmem
  cases hmem

end KeptWith

/-! What a handle is told. -/

/-- A status of a submission is what its own fence and its own deadline gave. -/
def StatusOf (calls : Calls) (submission : VulkanStoredSubmission) : VulkanPollStatus → Prop
  | .pending => ∃ now, now < submission.deadline ∧
    .other (.fenceStatus submission.handles.fence (.ok false) now) ∈ calls
  | .completed => Signalled submission.handles.fence calls
  | .timedOut => ∃ now, submission.deadline ≤ now ∧
    .other (.fenceStatus submission.handles.fence (.ok false) now) ∈ calls
  | .missing => ∃ error now,
    .other (.fenceStatus submission.handles.fence (.error error) now) ∈ calls

/-- A poll answers for the submission under the key of the handle, or that there is none. -/
def PollTells (accepted : Accepted) (calls : Calls) (handle : VulkanBatchHandle)
    (status : VulkanPollStatus) : Prop :=
  status = .missing ∨
    ∃ owner ∈ accepted, handleKey owner.1 = handleKey handle ∧ StatusOf calls owner.2 status

/-- A wait ends with the outcome of the submission under the key of the handle, or with the
rejection of the handle itself. -/
def WaitTells (accepted : Accepted) (calls : Calls) (handle : VulkanBatchHandle)
    (result : VulkanBatchResult) : Prop :=
  result.handle = handle ∧
    ((result = ⟨handle, .cpuFallback, handle.workload, some .submissionRejected,
        result.completedAt⟩) ∨
      ∃ owner ∈ accepted, handleKey owner.1 = handleKey handle ∧
        ((result = ⟨handle, .vulkan, owner.2.workload, none, result.completedAt⟩ ∧
            Signalled owner.2.handles.fence calls) ∨
          (result = ⟨handle, .cpuFallback, handle.workload, some .timeout,
              result.completedAt⟩ ∧ StatusOf calls owner.2 .timedOut) ∨
          (result = ⟨handle, .cpuFallback, handle.workload, some .driverUnavailable,
              result.completedAt⟩ ∧ StatusOf calls owner.2 .missing)))

theorem StatusOf.mono {status : VulkanPollStatus} (h : StatusOf calls submission status)
    (hsub : calls <+: calls') : StatusOf calls' submission status := by
  cases status with
  | pending =>
    obtain ⟨now, hnow, hmem⟩ := h
    exact ⟨now, hnow, hsub.subset hmem⟩
  | completed => exact Signalled.mono h hsub
  | timedOut =>
    obtain ⟨now, hnow, hmem⟩ := h
    exact ⟨now, hnow, hsub.subset hmem⟩
  | missing =>
    obtain ⟨error, now, hmem⟩ := h
    exact ⟨error, now, hsub.subset hmem⟩

theorem Failure.status (h : Failure calls submission record) :
    StatusOf calls submission record.status := by
  rcases h with ⟨hstatus, -, hdeadline, hmem⟩ | ⟨hstatus, -, error, hmem⟩
  · rw [hstatus]
    exact ⟨_, hdeadline, hmem⟩
  · rw [hstatus]
    exact ⟨error, _, hmem⟩

theorem PollTells.mono {status : VulkanPollStatus} (h : PollTells accepted calls handle status)
    (haccepted : ∀ owner ∈ accepted, owner ∈ accepted') (hsub : calls <+: calls') :
    PollTells accepted' calls' handle status := by
  rcases h with hmissing | ⟨owner, howner, hkey, hstatus⟩
  · exact .inl hmissing
  · exact .inr ⟨owner, haccepted owner howner, hkey, hstatus.mono hsub⟩

theorem WaitTells.mono {result : VulkanBatchResult} (h : WaitTells accepted calls handle result)
    (haccepted : ∀ owner ∈ accepted, owner ∈ accepted') (hsub : calls <+: calls') :
    WaitTells accepted' calls' handle result := by
  obtain ⟨hhandle, hrejected | ⟨owner, howner, hkey, houtcome⟩⟩ := h
  · exact ⟨hhandle, .inl hrejected⟩
  · refine ⟨hhandle, .inr ⟨owner, haccepted owner howner, hkey, ?_⟩⟩
    rcases houtcome with ⟨hresult, hdone⟩ | ⟨hresult, hstatus⟩ | ⟨hresult, hstatus⟩
    · exact .inl ⟨hresult, hdone.mono hsub⟩
    · exact .inr (.inl ⟨hresult, hstatus.mono hsub⟩)
    · exact .inr (.inr ⟨hresult, hstatus.mono hsub⟩)

/-- The result made from a terminal record. -/
theorem Recorded.tells (h : Recorded accepted calls (handleKey handle) record) :
    WaitTells accepted calls handle
      (fallbackResult handle (some record.fallbackReason) record.completedAt) := by
  obtain ⟨owner, howner, hkey, hfailure⟩ := h
  refine ⟨rfl, .inr ⟨owner, howner, hkey, ?_⟩⟩
  rcases hfailure with ⟨-, hreason, hdeadline, hmem⟩ | ⟨-, hreason, error, hmem⟩
  · rw [hreason]
    exact .inr (.inl ⟨rfl, _, hdeadline, hmem⟩)
  · rw [hreason]
    exact .inr (.inr ⟨rfl, error, _, hmem⟩)

/-! The calls. -/

namespace KeptWith

variable {calls : Calls} {accepted : Accepted} {inner : VulkanBackendInner}

/-- A poll keeps the books, and tells of the submission under the key of its handle. -/
theorem pollCompletion (h : KeptWith calls accepted [] inner) (answers : DriverAnswers)
    (handle : VulkanBatchHandle) (hpath : handle.path = .vulkan) :
    KeptWith calls accepted [] (inner.pollCompletion answers handle).1 ∧
      PollTells (inner.pollCompletion answers handle).1.accepted
        (inner.pollCompletion answers handle).1.gpu.calls handle
        (inner.pollCompletion answers handle).2 := by
  have hreaped := h.reapQuarantined answers.reap
  unfold VulkanBackendInner.pollCompletion
  rw [if_neg (by simp [hpath])]
  dsimp only
  generalize inner.reapQuarantined answers.reap = reaped at hreaped
  cases hresult : reaped.terminalResults.get? (handleKey handle) with
  | some record =>
    obtain ⟨owner, howner, hkey, hfailure⟩ := hreaped.records _ record hresult
    exact ⟨hreaped, .inr ⟨owner, howner, hkey, hfailure.status⟩⟩
  | none =>
    cases hget : reaped.submissions.get? (handleKey handle) with
    | none => exact ⟨hreaped, .inl rfl⟩
    | some submission =>
      obtain ⟨owner, howner, hkey, hsame, hsignalled⟩ := hreaped.owned hget
      have hhandles : owner.2.handles = submission.handles := by rw [hsame]
      have hdeadline : owner.2.deadline = submission.deadline := by rw [hsame]
      dsimp only
      by_cases hdone : submission.completedAt.isSome = true
      · rw [if_pos hdone]
        refine ⟨hreaped, .inr ⟨owner, howner, hkey, ?_⟩⟩
        rw [StatusOf, hhandles]
        exact hsignalled hdone
      · have hdevice := hreaped.device hget
        rw [if_neg hdone, if_neg (by simp [hdevice])]
        have hasked := hreaped.getFenceStatus submission.handles.fence answers.fence answers.now
        have hcall : .other (.fenceStatus owner.2.handles.fence answers.fence answers.now) ∈
            (reaped.getFenceStatus submission.handles.fence answers.fence
              answers.now).gpu.calls := by
          rw [hhandles]
          exact List.mem_append_right _ (List.mem_singleton_self _)
        generalize hout : reaped.getFenceStatus submission.handles.fence answers.fence
          answers.now = asked at hasked hcall
        have hgot : asked.submissions.get? (handleKey handle) = some submission := by
          rw [← hout]
          exact hget
        have howner' : owner ∈ asked.accepted := by
          rw [← hout]
          exact howner
        cases hanswer : answers.fence with
        | error result =>
          rw [hanswer] at hcall
          have hrecord : Recorded asked.accepted asked.gpu.calls (handleKey handle)
              ⟨.missing, .driverUnavailable, answers.now⟩ :=
            ⟨owner, howner', hkey, .inr ⟨rfl, rfl, result, hcall⟩⟩
          exact ⟨(hasked.terminalizeSubmission hgot hrecord).markFaulted, .inl rfl⟩
        | ok signalled =>
          rw [hanswer] at hcall
          cases signalled with
          | true =>
            rw [hhandles] at hcall
            refine ⟨hasked.complete hgot answers.now ⟨_, hcall⟩, .inr ⟨owner, howner', hkey, ?_⟩⟩
            rw [StatusOf, hhandles]
            exact ⟨_, hcall⟩
          | false =>
            dsimp only
            by_cases hlate : submission.deadline ≤ answers.now
            · have hrecord : Recorded asked.accepted asked.gpu.calls (handleKey handle)
                  ⟨.timedOut, .timeout, answers.now⟩ :=
                ⟨owner, howner', hkey, .inl ⟨rfl, rfl, hdeadline ▸ hlate, hcall⟩⟩
              have hended := hasked.terminalizeSubmission hgot hrecord
              have hgrown := hasked.begin.terminalizeSubmission hgot hrecord
              rw [if_pos hlate]
              refine ⟨hended.countTimedOut.markFaulted, .inr
                ⟨owner, hgrown.accepted.subset howner', hkey, answers.now, hdeadline ▸ hlate, ?_⟩⟩
              exact hgrown.calls.subset hcall
            · rw [if_neg hlate]
              exact ⟨hasked, .inr ⟨owner, howner', hkey, _, by omega, hcall⟩⟩

theorem takeTerminalResult_none (hget : inner.terminalResults.get? key = none) :
    inner.takeTerminalResult key = (inner, none) := by
  unfold VulkanBackendInner.takeTerminalResult
  rw [hget]

theorem takeTerminalResult_some (hget : inner.terminalResults.get? key = some record) :
    ∃ taken, inner.takeTerminalResult key = (taken, some record) ∧
      taken.accepted = inner.accepted ∧ taken.gpu = inner.gpu := by
  unfold VulkanBackendInner.takeTerminalResult
  rw [hget]
  exact ⟨_, rfl, rfl, rfl⟩

section

variable (h : KeptWith calls accepted [] inner) (answers : DriverAnswers)
include h answers

/-- A wait whose poll found the fence signalled. -/
theorem finishCompleted (handle : VulkanBatchHandle)
    (hdone : PollTells inner.accepted inner.gpu.calls handle .completed) :
    KeptWith calls accepted [] (inner.finishCompleted answers handle).1 ∧
      WaitTells (inner.finishCompleted answers handle).1.accepted
        (inner.finishCompleted answers handle).1.gpu.calls handle
        (inner.finishCompleted answers handle).2 := by
  have htaken := h.takeTerminalResult (handleKey handle)
  unfold VulkanBackendInner.finishCompleted
  dsimp only
  cases hresult : inner.terminalResults.get? (handleKey handle) with
  | some record =>
    obtain ⟨taken, heq, haccepted, hgpu⟩ := takeTerminalResult_some hresult
    rw [heq] at htaken ⊢
    refine ⟨htaken, ?_⟩
    dsimp only
    rw [haccepted, hgpu]
    exact (h.records _ record hresult).tells
  | none =>
    rw [takeTerminalResult_none hresult]
    dsimp only
    cases hget : inner.submissions.get? (handleKey handle) with
    | none => exact ⟨h, rfl, .inl rfl⟩
    | some submission =>
      -- The submission under the key is the one whose fence the poll saw.
      obtain ⟨owner, howner, hkey, hsame, -⟩ := h.owned hget
      obtain hmissing | ⟨seen, hseen, hkey', hstatus⟩ := hdone
      · cases hmissing
      obtain rfl := h.books.unique howner hseen (hkey.trans hkey'.symm)
      have hhandles : owner.2.handles = submission.handles := by rw [hsame]
      have hworkload : owner.2.workload = submission.workload := by rw [hsame]
      have hsignalled : Signalled submission.handles.fence inner.gpu.calls := hhandles ▸ hstatus
      have hreleased := ((h.takeSubmission hget).releaseOrQuarantine answers.zeroize
        hsignalled).countCompleted
      have hgrown := ((h.begin.takeSubmission hget).releaseOrQuarantine answers.zeroize
        hsignalled).countCompleted
      refine ⟨hreleased, rfl, .inr ⟨owner, hgrown.accepted.subset howner, hkey, .inl ⟨?_, ?_⟩⟩⟩
      · rw [hworkload]
      · rw [hhandles]
        exact hsignalled.mono hgrown.calls

/-- And one whose poll found it timed out or missing. -/
theorem finishFailed (handle : VulkanBatchHandle) :
    KeptWith calls accepted [] (inner.finishFailed answers handle).1 ∧
      WaitTells (inner.finishFailed answers handle).1.accepted
        (inner.finishFailed answers handle).1.gpu.calls handle
        (inner.finishFailed answers handle).2 := by
  have htaken := h.takeTerminalResult (handleKey handle)
  unfold VulkanBackendInner.finishFailed
  cases hresult : inner.terminalResults.get? (handleKey handle) with
  | some record =>
    obtain ⟨taken, heq, haccepted, hgpu⟩ := takeTerminalResult_some hresult
    rw [heq] at htaken ⊢
    refine ⟨htaken, ?_⟩
    dsimp only
    rw [haccepted, hgpu]
    exact (h.records _ record hresult).tells
  | none =>
    rw [takeTerminalResult_none hresult]
    exact ⟨h, rfl, .inl rfl⟩

theorem retireSubmission (handle : VulkanBatchHandle) :
    KeptWith calls accepted [] (inner.retireSubmission answers handle) := by
  have hreaped := h.reapQuarantined answers.reap
  unfold VulkanBackendInner.retireSubmission
  by_cases hpath : handle.path = .cpuFallback
  · rw [if_pos hpath]
    exact h
  · rw [if_neg hpath]
    dsimp only
    generalize inner.reapQuarantined answers.reap = reaped at hreaped
    refine takeTerminalResult ?_ (handleKey handle)
    cases hget : reaped.submissions.get? (handleKey handle) with
    | none => exact hreaped
    | some submission =>
      have hdevice := hreaped.device hget
      have hasked := (hreaped.takeSubmission hget).getFenceStatus submission.handles.fence
        answers.fence answers.now
      dsimp only
      rw [if_neg (by simp [hdevice])]
      cases hanswer : answers.fence with
      | error result =>
        rw [hanswer] at hasked
        exact hasked.markFaulted.quarantine
      | ok signalled =>
        rw [hanswer] at hasked
        cases signalled with
        | false => exact hasked.quarantine
        | true =>
          refine hasked.releaseOrQuarantine _ ⟨answers.now, ?_⟩
          exact List.mem_append_right _ (List.mem_singleton_self _)

end

theorem allocateHandle (h : KeptWith calls accepted [] inner) (workload : VulkanWorkloadClass)
    (path : VulkanExecutionPath) (reason : Option VulkanFallbackReason) :
    KeptWith calls accepted [] (inner.allocateHandle workload path reason).1 := by
  unfold VulkanBackendInner.allocateHandle
  split_ifs with hexhausted hlast hend
  · exact h
  · refine ⟨h.books.advance h.books.started fun key hbelow => ?_, h.listed, h.bounded, h.records,
      h.calls, h.accepted, h.closed⟩
    unfold Ledger.Below at hbelow ⊢
    tauto
  · refine ⟨h.books.advance Nat.one_ne_zero fun key hbelow => ?_, h.listed, h.bounded, h.records,
      h.calls, h.accepted, h.closed⟩
    unfold Ledger.Below at hbelow ⊢
    dsimp only [VulkanBackendInner.ledger] at hbelow ⊢
    omega
  · refine ⟨h.books.advance (Nat.succ_ne_zero _) fun key hbelow => ?_, h.listed, h.bounded,
      h.records, h.calls, h.accepted, h.closed⟩
    unfold Ledger.Below at hbelow ⊢
    dsimp only [VulkanBackendInner.ledger] at hbelow ⊢
    simp only [hexhausted] at hbelow ⊢
    omega

end KeptWith

section Submission

variable {calls : Calls} {accepted : Accepted} {inner : VulkanBackendInner}

/-- A key is given out by moving on in the key space. -/
theorem allocateHandle_rest (inner : VulkanBackendInner) (workload : VulkanWorkloadClass)
    (path : VulkanExecutionPath) (reason : Option VulkanFallbackReason) :
    ∃ nextSubmissionId submissionGeneration handleSpaceExhausted,
      (inner.allocateHandle workload path reason).1 =
        { inner with nextSubmissionId, submissionGeneration, handleSpaceExhausted } := by
  unfold VulkanBackendInner.allocateHandle
  split_ifs
  · exact ⟨_, _, _, rfl⟩
  · exact ⟨_, _, _, rfl⟩
  · exact ⟨_, _, _, rfl⟩
  · exact ⟨_, _, _, rfl⟩

theorem allocateHandle_fields (inner : VulkanBackendInner) (workload : VulkanWorkloadClass)
    (path : VulkanExecutionPath) (reason : Option VulkanFallbackReason) :
    (inner.allocateHandle workload path reason).2.workload = workload ∧
      (inner.allocateHandle workload path reason).2.path = path := by
  unfold VulkanBackendInner.allocateHandle
  split_ifs
  · exact ⟨rfl, rfl⟩
  · exact ⟨rfl, rfl⟩
  · exact ⟨rfl, rfl⟩
  · exact ⟨rfl, rfl⟩

/-- A key with an id was not given out before, and is given out now. -/
theorem allocateHandle_fresh {workload : VulkanWorkloadClass} {path : VulkanExecutionPath}
    {reason : Option VulkanFallbackReason}
    (hid : (inner.allocateHandle workload path reason).2.id ≠ 0) :
    ¬ inner.ledger.Below (handleKey (inner.allocateHandle workload path reason).2) ∧
      (inner.allocateHandle workload path reason).1.ledger.Below
        (handleKey (inner.allocateHandle workload path reason).2) := by
  unfold VulkanBackendInner.allocateHandle at hid ⊢
  split_ifs at hid ⊢ with hexhausted hlast hend
  · exact absurd rfl hid
  · simp [Ledger.Below, handleKey, VulkanBackendInner.ledger, hexhausted]
  · simp [Ledger.Below, handleKey, VulkanBackendInner.ledger, hexhausted]
  · simp [Ledger.Below, handleKey, VulkanBackendInner.ledger, hexhausted]

/-- What is submitted has a device and room in the books, and has words. -/
theorem admitted {config : VulkanBackendConfig} {submission : VulkanBatchSubmission}
    (h : admissionFallbackReason config inner submission = none) :
    inner.device = true ∧ inner.held.length < maxPendingGpuSubmissions ∧
      submission.surfaceWords.isSome = true ∧ submission.payloadLen ≤ maxGpuPayloadBytes := by
  unfold admissionFallbackReason at h
  dsimp only at h
  cases hstate : inner.state with
  | uninitialized =>
    simp only [hstate] at h
    split_ifs at h
  | disabled =>
    simp only [hstate] at h
    split_ifs at h
  | faulted =>
    simp only [hstate] at h
    split_ifs at h
  | ready =>
    simp only [hstate] at h
    split_ifs at h with hlength _ _ _ hfull hdevice hwords
    obtain ⟨-, hdevice⟩ := not_or.mp hdevice
    refine ⟨by simpa using hdevice, ?_, ?_, Nat.not_lt.mp (not_or.mp hlength).2⟩
    swap
    · exact Option.isSome_iff_ne_none.mpr fun hnone => hwords (by simp [hnone])
    unfold VulkanBackendInner.activeGpuResourceCount satAdd u64Max maxPendingGpuSubmissions at hfull
    unfold VulkanBackendInner.held maxPendingGpuSubmissions
    rw [List.length_append]
    unfold OrdMap.size at hfull
    omega

/-- The driver's side after an attempt: on success the objects of what is stored are new. -/
structure Tried (inner : VulkanBackendInner) (gpu : Gpu) (objects : List GpuObject) : Prop where
  kept : GpuKept gpu
    (objects ++ inner.held.flatMap fun entry => entry.2.handles.objects)
  earned : Guarded (Earned inner.dropped inner.accepted) gpu.calls
  grown : inner.gpu.calls <+: gpu.calls
  own : ∀ object ∈ objects, inner.gpu.nextHandle ≤ object.handle

section

variable (h : KeptWith calls accepted [] inner)
include h

theorem KeptWith.tried (htried : Tried inner gpu []) :
    KeptWith calls accepted [] { inner with gpu := gpu } :=
  h.changed (h.books.called htried.kept htried.earned htried.grown) htried.grown rfl rfl rfl
    h.closed

theorem KeptWith.storeSubmission {stored : VulkanStoredSubmission}
    (htried : Tried inner gpu stored.handles.objects)
    (hfresh : ∀ entry ∈ inner.accepted, handleKey entry.1 ≠ handleKey handle)
    (hbelow : inner.ledger.Below (handleKey handle)) (hpending : stored.completedAt = none)
    (hroom : inner.held.length < maxPendingGpuSubmissions) (hdevice : inner.device = true)
    (hfits : inner.metrics.currentGpuAllocationBytes + stored.allocationSize ≤
      maxTotalGpuAllocationBytes) :
    KeptWith calls accepted [] ({ inner with gpu := gpu }.storeSubmission handle stored) := by
  have hbooks := h.books.store htried.kept htried.earned htried.grown htried.own hfresh hbelow
    hpending hroom hdevice hfits
  have hnone : inner.submissions.get? (handleKey handle) = none := by
    refine Option.eq_none_iff_forall_ne_some.mpr fun other hother => ?_
    obtain ⟨owner, howner, hkey, -⟩ := h.owned hother
    exact hfresh owner howner hkey
  have hinsert : (inner.submissions.insert (handleKey handle) stored).entries.Perm
      ((handleKey handle, stored) :: inner.submissions.entries) := OrdMap.entries_insert hnone
  have hbytes : satAdd inner.metrics.currentGpuAllocationBytes stored.allocationSize =
      inner.metrics.currentGpuAllocationBytes + stored.allocationSize := by
    unfold maxTotalGpuAllocationBytes at hfits
    unfold satAdd u64Max
    omega
  have hledger : ({ inner with gpu := gpu }.storeSubmission handle stored).ledger =
      { inner.ledger with
        gpu := gpu
        bytes := inner.ledger.bytes + stored.allocationSize
        accepted := inner.ledger.accepted ++ [(handle, stored)] } := by
    unfold VulkanBackendInner.storeSubmission VulkanBackendInner.ledger
    simp only [hbytes]
  refine ⟨?_, h.listed, h.bounded, fun key record hrecord => ?_, h.calls.trans htried.grown,
    h.accepted.trans (List.prefix_append _ _), h.closed⟩
  · rw [hledger]
    exact hbooks.perm (hinsert.symm.append_right inner.quarantined.entries)
  · exact (h.records key record hrecord).mono (fun _ howner => List.mem_append_left _ howner)
      htried.grown

/-- An attempt begins without objects of its own. -/
theorem KeptWith.awaiting (requiresZeroize : Bool) :
    Awaiting inner.gpu inner.dropped inner.accepted
      (inner.held.flatMap fun entry => entry.2.handles.objects) inner.commandPool
      [.buffer, .memory, .commandBuffer, .descriptorPool, .fence] 0
      { gpu := inner.gpu, pending := { commandPool := inner.commandPool, requiresZeroize } } := by
  refine ⟨⟨h.books.gpu, h.books.earned, List.prefix_rfl, Nat.le_refl _, ?_, rfl⟩, ?_, rfl⟩
  · intro object hobject
    obtain ⟨hzero, hget⟩ := GpuHandles.mem_objects.mp hobject
    cases hkind : object.kind <;> rw [hkind] at hget <;> exact absurd hget.symm hzero
  · intro kind _
    cases kind <;> rfl

theorem trySubmit_tried (hdevice : inner.device = true) (submission : VulkanBatchSubmission)
    (timeout : Nat) (answers : SubmitAnswers) {result : Except SubmitError VulkanStoredSubmission}
    (heq : trySubmit inner submission timeout answers = (gpu, result)) :
    (∀ error, result = .error error → Tried inner gpu []) ∧
      ∀ stored, result = .ok stored → Tried inner gpu stored.handles.objects ∧
        stored.completedAt = none ∧ stored.workload = submission.workload ∧
        inner.metrics.currentGpuAllocationBytes + stored.allocationSize ≤
          maxTotalGpuAllocationBytes := by
  have hsame : Tried inner inner.gpu [] :=
    ⟨h.books.gpu, h.books.earned, List.prefix_rfl, fun object hobject => by cases hobject⟩
  unfold trySubmit at heq
  rw [if_neg (by simp [hdevice])] at heq
  split_ifs at heq with hwords
  · obtain ⟨rfl, rfl⟩ := Prod.mk.inj heq
    refine ⟨fun _ _ => hsame, ?_⟩
    intro stored hstored
    cases hstored
  · dsimp only at heq
    have htriple := trySubmitM_attempt inner submission timeout answers _
      (h.awaiting submission.requiresZeroize)
    have hbefore : ∀ entry ∈ inner.accepted, ∀ object ∈ entry.2.handles.objects,
        object.handle < inner.gpu.nextHandle := fun entry hentry object hobject =>
      h.books.gpu.numbered object (h.books.created entry hentry object hobject)
    split at heq
    · next stored attempt hrun =>
      rw [hrun] at htriple
      obtain ⟨hattempt, hhandles, hpending, hworkload, hfits⟩ := htriple
      obtain ⟨rfl, rfl⟩ := Prod.mk.inj heq
      refine ⟨fun error herror => (by cases herror), fun stored' hstored => ?_⟩
      obtain rfl := Except.ok.inj hstored
      refine ⟨⟨?_, hattempt.earned, hattempt.grown, ?_⟩, hpending, hworkload, hfits⟩
      · rw [hhandles]
        exact hattempt.kept
      · rw [hhandles]
        exact hattempt.own
    · next error attempt hrun =>
      rw [hrun] at htriple
      obtain ⟨rfl, rfl⟩ := Prod.mk.inj heq
      obtain ⟨hkept, hearned, hgrown⟩ :=
        dropPending_kept answers htriple (h.books.pool hdevice) hbefore
      refine ⟨fun _ _ => ⟨hkept, hearned, hgrown, fun object hobject => by cases hobject⟩, ?_⟩
      intro stored hstored
      cases hstored

end

/-- A handle of the GPU path is one of an accepted submission of its workload. -/
def Issued (accepted : Accepted) (handle : VulkanBatchHandle) : Prop :=
  handle.path = .vulkan →
    ∃ stored, (handle, stored) ∈ accepted ∧ stored.workload = handle.workload

theorem submitBatch_kept (h : KeptWith calls accepted [] inner) (config : VulkanBackendConfig)
    (submission : VulkanBatchSubmission) (reap : ReapAnswers) (answers : SubmitAnswers) :
    KeptWith calls accepted [] (inner.submitBatch config submission reap answers).1 ∧
      Issued (inner.submitBatch config submission reap answers).1.accepted
        (inner.submitBatch config submission reap answers).2 := by
  have hcounted := (h.reapQuarantined reap).countSubmission
  unfold VulkanBackendInner.submitBatch
  dsimp only
  generalize (inner.reapQuarantined reap).countSubmission = counted at hcounted
  cases hreason : admissionFallbackReason config counted submission with
  | some reason =>
    refine ⟨hcounted.countCpuFallback.allocateHandle _ _ _, fun hpath => ?_⟩
    rw [(allocateHandle_fields _ _ _ _).2] at hpath
    cases hpath
  | none =>
    obtain ⟨hdevice, hroom, -⟩ := admitted hreason
    have hallocated := hcounted.allocateHandle submission.workload .vulkan none
    have hfields := allocateHandle_fields counted submission.workload .vulkan none
    obtain ⟨id, generation, exhausted, hrest⟩ :=
      allocateHandle_rest counted submission.workload .vulkan none
    dsimp only
    by_cases hid : (counted.allocateHandle submission.workload .vulkan none).2.id = 0
    · rw [if_pos hid]
      refine ⟨hallocated.countCpuFallback, fun hpath => ?_⟩
      cases hpath
    · obtain ⟨hnew, hbelow⟩ := allocateHandle_fresh hid
      rw [if_neg hid]
      generalize (counted.allocateHandle submission.workload .vulkan none).2 = handle at *
      generalize (counted.allocateHandle submission.workload .vulkan none).1 = allocated at *
      obtain ⟨hworkload, hpath⟩ := hfields
      have hdevice' : allocated.device = true := hrest ▸ hdevice
      generalize hout : trySubmit allocated submission
        (effectiveTimeout submission.timeout config.submitTimeout) answers = tried
      obtain ⟨gpu, result⟩ := tried
      obtain ⟨hfailed, hstored⟩ := trySubmit_tried hallocated hdevice' _ _ _ hout
      cases result with
      | error error =>
        have htried := hallocated.tried (hfailed error rfl)
        refine ⟨?_, fun hpath => by cases hpath⟩
        dsimp only
        by_cases hlost : error.isDeviceLost = true
        · rw [if_pos hlost]
          exact htried.markFaulted.countCpuFallback
        · rw [if_neg hlost]
          exact htried.countCpuFallback
      | ok stored =>
        obtain ⟨htried, hpending, hworkload', hfits⟩ := hstored stored rfl
        have hfresh : ∀ entry ∈ allocated.accepted, handleKey entry.1 ≠ handleKey handle := by
          intro entry hentry heq
          rw [hrest] at hentry
          exact hnew (heq ▸ hcounted.books.below entry hentry)
        have hroom' : allocated.held.length < maxPendingGpuSubmissions := hrest ▸ hroom
        refine ⟨hallocated.storeSubmission htried hfresh hbelow hpending hroom' hdevice' hfits,
          fun _ => ⟨stored, List.mem_append_right _ (List.mem_singleton_self _), ?_⟩⟩
        rw [hworkload', hworkload]

end Submission

section Ends

variable {calls : Calls} {accepted : Accepted} {inner : VulkanBackendInner}

theorem KeptWith.initializeBackend (h : KeptWith calls accepted [] inner)
    (hopen : inner.dropped = false) (config : VulkanBackendConfig)
    (answer : Except String InitAnswer) :
    KeptWith calls accepted [] (inner.initializeBackend config answer) := by
  unfold VulkanBackendInner.initializeBackend
  split_ifs
  · exact h
  · exact h.same rfl (List.Perm.refl _) rfl rfl
  · cases answer with
    | error reason => exact h.markFaulted
    | ok found =>
      have hbooks : Books { inner.ledger with device := true, commandPool := found.commandPool }
          ([] ++ inner.held) :=
        { h.books with
          device := fun _ => rfl
          pool := fun _ => found.created }
      refine ⟨hbooks, h.listed, h.bounded, h.records, h.calls, h.accepted, fun hdropped => ?_⟩
      exact absurd hdropped (by simp [hopen])

theorem destroyStored_book (zeroize : SubmissionKey → Except VkResult Unit)
    (h : Books ledger ((key, submission) :: entries)) (hpool : inner.commandPool ≠ 0)
    (hdropped : ledger.dropped = true) (hidle : Idle ledger.gpu.calls) :
    Books
      { ledger with
        gpu := inner.destroyStored zeroize ledger.gpu (key, submission)
        bytes := ledger.bytes - submission.allocationSize } entries ∧
      ledger.gpu.calls <+: (inner.destroyStored zeroize ledger.gpu (key, submission)).calls := by
  have hdestroyed : submission.handles.destroyed inner.commandPool =
      submission.handles.objects := GpuHandles.destroyed_eq hpool
  obtain ⟨zeroized, hstored, hbooks, hgrown⟩ : ∃ zeroized,
      inner.destroyStored zeroize ledger.gpu (key, submission) =
        zeroized.destroy submission.handles.objects ∧
      Books { ledger with gpu := zeroized } ((key, submission) :: entries) ∧
      ledger.gpu.calls <+: zeroized.calls := by
    unfold VulkanBackendInner.destroyStored
    dsimp only
    rw [hdestroyed]
    split_ifs
    · exact ⟨_, rfl, h.zeroize _ _ _, zeroizeDeviceMemory_grown⟩
    · exact ⟨_, rfl, h, List.prefix_rfl⟩
  rw [hstored]
  exact ⟨hbooks.release (.inr ⟨hdropped, hgrown.subset hidle⟩),
    hgrown.trans (List.prefix_append _ _)⟩

/-- The device was waited for, so what is left may go. -/
theorem destroyStored_books (zeroize : SubmissionKey → Except VkResult Unit)
    (h : Books ledger entries) (hpool : inner.commandPool ≠ 0) (hdropped : ledger.dropped = true)
    (hidle : Idle ledger.gpu.calls) :
    ∃ bytes, Books { ledger with
        gpu := entries.foldl (inner.destroyStored zeroize) ledger.gpu, bytes } [] ∧
      ledger.gpu.calls <+: (entries.foldl (inner.destroyStored zeroize) ledger.gpu).calls := by
  induction entries generalizing ledger with
  | nil => exact ⟨ledger.bytes, h, List.prefix_rfl⟩
  | cons entry entries ih =>
    obtain ⟨key, submission⟩ := entry
    obtain ⟨hbooks, hgrown⟩ := destroyStored_book zeroize h hpool hdropped hidle
    obtain ⟨bytes, hrest, hmore⟩ := ih hbooks hdropped (hgrown.subset hidle)
    exact ⟨bytes, hrest, hgrown.trans hmore⟩

theorem KeptWith.dropInner (h : KeptWith calls accepted [] inner)
    (zeroize : SubmissionKey → Except VkResult Unit) :
    KeptWith calls accepted [] (inner.dropInner zeroize) := by
  obtain ⟨bytes, hbooks, hgrown⟩ : ∃ bytes,
      Books { inner.ledger with gpu := inner.dropGpu zeroize, bytes, dropped := true } [] ∧
        inner.gpu.calls <+: (inner.dropGpu zeroize).calls := by
    unfold VulkanBackendInner.dropGpu
    split_ifs with hdevice
    · have hnone : inner.held = [] := by
        by_contra hne
        exact absurd (h.books.device hne) (by simp [VulkanBackendInner.ledger, hdevice])
      have hbooks : Books inner.ledger inner.held := h.books
      rw [hnone] at hbooks
      exact ⟨inner.ledger.bytes, hbooks.drop, List.prefix_rfl⟩
    · have hpool : inner.commandPool ≠ 0 :=
        h.books.pool (by simpa [VulkanBackendInner.ledger] using hdevice)
      have hidle : Idle (inner.gpu.log .deviceWaitIdle).calls :=
        List.mem_append_right _ (List.mem_singleton_self _)
      obtain ⟨bytes, hclosed, hmore⟩ := destroyStored_books zeroize
        (h.books.drop.log .deviceWaitIdle) hpool rfl hidle
      exact ⟨bytes, hclosed, Gpu.log_grown.trans hmore⟩
  exact ⟨hbooks.close, h.listed, h.bounded,
    fun key record hrecord => (h.records key record hrecord).mono (fun _ howner => howner) hgrown,
    h.calls.trans hgrown, h.accepted, fun _ => rfl⟩

end Ends

end TuffXwin.VulkanBackend
