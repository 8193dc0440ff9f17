import TuffXwin.Displayd.Resident

/-! The two readiness notions of displayd. `readiness_from_state` answers
`GetReadiness` from the outputs as they stand and counts the disabled ones too; the
reconciliation state turns ready at a completion and looks at the enabled ones only. -/

namespace TuffXwin.Displayd
open Lib

variable {r : OutputRuntime}

inductive OutputReadinessState
  | configuredAwaitingPublication
  | submittedAwaitingPresentation
  | ready
  | publicationFailed
  | retryPending
  | reconfiguring
  | disabled
  deriving DecidableEq

structure OutputReadiness where
  outputId : String
  outputGeneration : Nat
  state : OutputReadinessState
  lastPublishedFrameId : Nat
  lastPublishedSceneGeneration : Nat
  pendingDamage : Bool
  retryPending : Bool

inductive ServiceReadinessState
  | liveNotReady
  | ready
  | partiallyReady
  | failed
  deriving DecidableEq

structure ServiceReadiness where
  ipcAvailable : Bool
  canonicalSceneAvailable : Bool
  rendererAvailable : Bool
  configuredOutputCount : Nat
  readyOutputCount : Nat
  failedOutputCount : Nat
  retryPendingOutputCount : Nat
  state : ServiceReadinessState
  outputs : List OutputReadiness

def outputReadinessState (runtime : OutputRuntime) : OutputReadinessState :=
  if runtime.disabled then .disabled
  else if runtime.retry.isSome then .retryPending
  else if runtime.outstanding.isSome then .submittedAwaitingPresentation
  else if runtime.publishedFrameId ≠ 0 && runtime.pendingDamage.isEmpty then .ready
  else .configuredAwaitingPublication

def outputReadiness (outputId : String) (runtime : OutputRuntime) : OutputReadiness where
  outputId := outputId
  outputGeneration := runtime.state.outputGeneration
  state := outputReadinessState runtime
  lastPublishedFrameId := runtime.publishedFrameId
  lastPublishedSceneGeneration := runtime.lastPublishedSceneGeneration
  pendingDamage := !runtime.pendingDamage.isEmpty
  retryPending := runtime.retry.isSome

def serviceReadinessState (rendererAvailable : Bool) (ready outputs : Nat) :
    ServiceReadinessState :=
  if !rendererAvailable || outputs = 0 then .liveNotReady
  else if ready = outputs then .ready
  else if ready > 0 then .partiallyReady
  else .failed

def readinessFromState (s : DisplayState) (rendererAvailable : Bool) : ServiceReadiness :=
  let outputs := s.outputs.entries.map fun e => outputReadiness e.1 e.2
  let ready := outputs.countP fun o => o.state = .ready
  { ipcAvailable := true
    canonicalSceneAvailable := s.lastScene.isSome
    rendererAvailable := rendererAvailable
    configuredOutputCount := outputs.length
    readyOutputCount := ready
    failedOutputCount :=
      outputs.countP fun o => o.state = .publicationFailed || o.state = .retryPending
    retryPendingOutputCount := outputs.countP fun o => o.retryPending
    state := serviceReadinessState rendererAvailable ready outputs.length
    outputs := outputs }

/-- `GetReadiness`; the CPU renderer is always there. -/
def getReadiness (s : DisplayState) : ServiceReadiness := readinessFromState s true

/-- Everything an output was given to present has been presented. -/
structure OutputRuntime.Presented (r : OutputRuntime) : Prop where
  published : r.publishedFrameId ≠ 0
  undamaged : r.pendingDamage = []
  free : r.outstanding = none
  settled : r.retry = none

def AllPresented (s : DisplayState) : Prop :=
  ∀ id r, s.outputs.get? id = some r → r.disabled = false → r.Presented

theorem outputReadinessState_ready :
    outputReadinessState r = .ready ↔ r.disabled = false ∧ r.Presented := by
  unfold outputReadinessState
  constructor
  · intro h
    split_ifs at h with hdisabled hretry hstanding hpublished
    · rw [Bool.and_eq_true, decide_eq_true_eq, List.isEmpty_iff] at hpublished
      exact ⟨by simpa using hdisabled, hpublished.1, hpublished.2,
        Option.not_isSome_iff_eq_none.mp hstanding, Option.not_isSome_iff_eq_none.mp hretry⟩
  · intro h
    obtain ⟨hdisabled, hpublished, hdamage, hstanding, hretry⟩ := h
    simp [hdisabled, hpublished, hdamage, hstanding, hretry]

theorem serviceReadinessState_ready {ready outputs : Nat} :
    serviceReadinessState true ready outputs = .ready ↔ outputs ≠ 0 ∧ ready = outputs := by
  unfold serviceReadinessState
  constructor
  · intro h
    split_ifs at h with hnone hall
    exact ⟨by simpa using hnone, hall⟩
  · intro h
    simp [h.1, h.2]

/-- displayd says it is ready when it has outputs and each is enabled and presented. -/
theorem getReadiness_ready {s : DisplayState} :
    (getReadiness s).state = .ready ↔ s.outputs.entries ≠ [] ∧
      ∀ id r, s.outputs.get? id = some r → r.disabled = false ∧ r.Presented := by
  unfold getReadiness readinessFromState
  dsimp only
  rw [serviceReadinessState_ready, List.countP_eq_length, List.length_map, ne_eq,
    List.length_eq_zero_iff]
  refine and_congr_right fun _ => ?_
  simp only [List.mem_map, forall_exists_index, and_imp, decide_eq_true_eq]
  constructor
  · intro h id r hr
    exact outputReadinessState_ready.mp (h _ (id, r) (OrdMap.mem_entries.mpr hr) rfl)
  · intro h o e he heq
    rw [← heq]
    exact outputReadinessState_ready.mpr (h e.1 e.2 (OrdMap.mem_entries.mp he))

/-! What is in flight or to be retried on an output is still among its damage. -/

structure FlightDamaged (r : OutputRuntime) : Prop where
  frame : ∀ o, r.outstanding = some o → o.frame.damage ≠ []
  idle : r.pendingDamage = [] → r.outstanding = none ∧ r.retry = none

theorem publicationDamage_ne_nil (h : r.pendingDamage ≠ []) : publicationDamage r ≠ [] :=
  fun hnone => h (normalizeDamage_eq_nil.mp hnone)

theorem flightDamaged_invariant : OutputInvariant fun _ r => FlightDamaged r where
  start := ⟨fun _ ho => (by cases ho), fun _ => ⟨rfl, rfl⟩⟩
  quiet h hq := by
    refine ⟨fun o ho => h.frame o (hq.outstanding ▸ ho), fun hnone => ?_⟩
    obtain ⟨hfree, hretry⟩ := h.idle (hq.pendingDamage ▸ hnone)
    exact ⟨hq.outstanding.trans hfree, hq.retry hretry⟩
  damaged _ _ _ h _ hne := ⟨h.frame, fun hnone => absurd hnone hne⟩
  submitFailed h hd hf :=
    ⟨h.frame, fun hnone => absurd (hf ▸ hnone) (publicationDamage_ne_nil hd)⟩
  submitted h hs := by
    refine ⟨fun o ho => ?_, fun hnone => absurd hnone hs.damaged⟩
    obtain rfl := (Option.some.inj ho).symm
    exact publicationDamage_ne_nil hs.damaged
  presented {_ r o} h ho := by
    refine ⟨fun o' ho' => ?_, fun hnone => ⟨presentRuntime_outstanding o r, ?_⟩⟩
    · rw [presentRuntime_outstanding] at ho'
      cases ho'
    · unfold presentRuntime at hnone ⊢
      dsimp only at hnone ⊢
      split_ifs at hnone ⊢
      · rfl
      · exact (h.idle hnone).2
  failed {_ r o} h ho := by
    refine ⟨fun o' ho' => ?_, fun hnone => ?_⟩
    · rw [failRuntime_outstanding] at ho'
      cases ho'
    · have hpending : r.pendingDamage ≠ [] := by
        intro hempty
        rw [(h.idle hempty).1] at ho
        cases ho
      unfold failRuntime at hnone
      dsimp only at hnone
      split_ifs at hnone
      · exact absurd hnone (h.frame o ho)
      · exact absurd hnone hpending
  connected _ := ⟨fun _ ho => (by cases ho), fun hnone => by cases hnone⟩
  disabled _ := ⟨fun _ ho => (by cases ho), fun _ => ⟨rfl, rfl⟩⟩
  retired _ := ⟨fun _ ho => (by cases ho), fun _ => ⟨rfl, rfl⟩⟩

end TuffXwin.Displayd
