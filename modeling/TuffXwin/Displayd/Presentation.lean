import TuffXwin.Displayd.Acceptance

/-! Presentation: scheduler ticks, submission of composed frames to the backend,
and their completion, which clears or restores an output's pending damage and
resolves obligations. -/

namespace TuffXwin.Displayd
open Lib

def preflightPresentationToken (s : DisplayState) (token : PresentationToken) :
    Except PresentationCompletion OutstandingPresentation :=
  match token.validate with
  | .error _ => .error .unknownToken
  | .ok _ =>
    match s.outputs.get? token.outputId with
    | none => .error .unknownToken
    | some runtime =>
      if runtime.state.outputGeneration ≠ token.outputGeneration then .error .staleGeneration
      else if runtime.backendInstanceId ≠ 0 ∧
          runtime.backendInstanceId ≠ token.backendInstanceId then .error .staleGeneration
      else
        match runtime.outstanding with
        | none => .error .unknownToken
        | some outstanding =>
          if outstanding.token ≠ token then .error .unknownToken else .ok outstanding

/-- Does a presented frame settle this obligation? -/
def generationMatches (frame : FramePublication) (commitId : Nat) (o : PresentationObligation) :
    Bool :=
  if frame.sceneGeneration = 0 then commitId = frame.commitId
  else o.sceneEpoch = frame.sceneEpoch ∧ o.sceneGeneration ≤ frame.sceneGeneration

def notePresented (frame : FramePublication) (outputId : String) (commitId : Nat)
    (o : PresentationObligation) : PresentationObligation :=
  if generationMatches frame commitId o && o.requiredOutputs.contains outputId then
    { o with presentedOutputs := o.presentedOutputs.insert outputId () }
  else o

def obligationResolved (frame : FramePublication) (commitId : Nat)
    (o : PresentationObligation) : Bool :=
  generationMatches frame commitId o && OrdSet.subset o.requiredOutputs o.presentedOutputs

/-- Drop the least keys until there is room for one more. -/
def evictOldest (feedbacks : List (Nat × DisplayEvent)) : List (Nat × DisplayEvent) :=
  feedbacks.drop (feedbacks.length + 1 - maxPresentationFeedbacks)

def insertBoundedFeedback (feedbacks : OrdMap Nat DisplayEvent) (commitId : Nat)
    (feedback : DisplayEvent) : OrdMap Nat DisplayEvent :=
  (⟨evictOldest feedbacks.entries, feedbacks.sorted.drop⟩ : OrdMap Nat DisplayEvent).insert
    commitId feedback

def framePresentedEvent (commitId timestamp refreshNs seq : Nat) : DisplayEvent :=
  .framePresented commitId timestamp refreshNs seq 0

/-- Record the feedback of one resolved obligation and drop the obligation. -/
def resolveObligation (env : Env) (refreshNs seq : Nat) (s : DisplayState)
    (entry : Nat × PresentationObligation) : DisplayState :=
  { s with
    presentationFeedbacks := insertBoundedFeedback s.presentationFeedbacks entry.1
      (framePresentedEvent entry.1 (env.monotonicNow entry.1) refreshNs seq)
    presentationObligations := s.presentationObligations.erase entry.1
    history := .resolved entry.1 entry.2.requiredOutputs :: s.history }

def notePresentedObligations (s : DisplayState) (env : Env) (frame : FramePublication)
    (outputId : String) (refreshNs seq : Nat) : DisplayState :=
  let noted := s.presentationObligations.mapVals (notePresented frame outputId)
  let matching := noted.entries.filter fun e => obligationResolved frame e.1 e.2
  matching.foldl (resolveObligation env refreshNs seq)
    { s with presentationObligations := noted }

/-- The runtime of an output whose outstanding frame was presented. -/
def presentRuntime (outstanding : OutstandingPresentation) (runtime : OutputRuntime) :
    OutputRuntime :=
  let published :=
    { runtime with
      outstanding := none
      framebuffer := outstanding.frame.pixels
      publishedFrameId := outstanding.token.frameId
      lastPublishedSceneGeneration := outstanding.token.sceneGeneration }
  if runtime.pendingVersion ≤
      sceneVersion outstanding.frame.sceneEpoch outstanding.token.sceneGeneration then
    { published with
      pendingDamage := []
      pendingCommitId := 0
      retry := none
      scheduler := { runtime.scheduler with state := .idle } }
  else { published with scheduler := { runtime.scheduler with state := .damagePending } }

section

variable (o : OutstandingPresentation) (r : OutputRuntime)
include o r

theorem presentRuntime_outstanding : (presentRuntime o r).outstanding = none := by
  unfold presentRuntime
  dsimp only
  split_ifs
  · rfl
  · rfl

theorem presentRuntime_pendingCommitId :
    (presentRuntime o r).pendingCommitId ≤ r.pendingCommitId := by
  unfold presentRuntime
  dsimp only
  split_ifs
  · exact Nat.zero_le _
  · exact le_rfl

theorem presentRuntime_same : r.SameOutput (presentRuntime o r) := by
  unfold presentRuntime
  dsimp only
  split_ifs
  · exact ⟨rfl, rfl, rfl, rfl, rfl, rfl⟩
  · exact ⟨rfl, rfl, rfl, rfl, rfl, rfl⟩

end

/-- The runtime of an output whose outstanding frame was not presented. -/
def failRuntime (outstanding : OutstandingPresentation) (runtime : OutputRuntime) :
    OutputRuntime :=
  let restored :=
    if runtime.pendingVersion ≤
        sceneVersion outstanding.frame.sceneEpoch outstanding.token.sceneGeneration then
      { runtime with
        pendingDamage := outstanding.frame.damage
        pendingSceneEpoch := outstanding.frame.sceneEpoch
        pendingSceneGeneration := outstanding.frame.sceneGeneration
        pendingCommitId := outstanding.frame.commitId }
    else runtime
  { restored with
    outstanding := none
    retry := some
      { sceneEpoch := outstanding.frame.sceneEpoch
        sceneGeneration := outstanding.token.sceneGeneration
        outputGeneration := outstanding.token.outputGeneration
        frameId := outstanding.token.frameId
        commitId := outstanding.frame.commitId }
    scheduler := { runtime.scheduler with state := .retryPending } }

section

variable (o : OutstandingPresentation) (r : OutputRuntime)
include o r

theorem failRuntime_outstanding : (failRuntime o r).outstanding = none := rfl

theorem failRuntime_pendingCommitId :
    (failRuntime o r).pendingCommitId = o.frame.commitId ∨
      (failRuntime o r).pendingCommitId = r.pendingCommitId := by
  unfold failRuntime
  dsimp only
  split_ifs
  · exact .inl rfl
  · exact .inr rfl

theorem failRuntime_same : r.SameOutput (failRuntime o r) := by
  unfold failRuntime
  dsimp only
  split_ifs
  · exact ⟨rfl, rfl, rfl, rfl, rfl, rfl⟩
  · exact ⟨rfl, rfl, rfl, rfl, rfl, rfl⟩

end

def allPublished (s : DisplayState) : Bool :=
  s.outputs.all fun _ r => r.disabled || (r.publishedFrameId ≠ 0 && r.pendingDamage.isEmpty)

def noteReady (s : DisplayState) : DisplayState :=
  if s.reconciliationState = .reconciledAwaitingPresentation && allPublished s then
    { s with reconciliationState := .ready }
  else s

def presentOutput (s : DisplayState) (env : Env) (outstanding : OutstandingPresentation)
    (outputId : String) : DisplayState :=
  let cadencePeriod := ((s.outputs.get? outputId).map fun r => r.scheduler.cadence.periodNs).getD 0
  noteReady <|
    notePresentedObligations
      ((s.modifyOutput outputId (presentRuntime outstanding)).note (.presented outputId))
      env outstanding.frame outputId (min cadencePeriod u32Max) outstanding.token.sequence

def completePresentation (s : DisplayState) (env : Env) (token : PresentationToken)
    (outcome : PresentationCompletion) : DisplayState × PresentationCompletion :=
  match preflightPresentationToken s token with
  | .error result => (s, result)
  | .ok outstanding =>
    match outcome with
    | .presented => (presentOutput s env outstanding token.outputId, .presented)
    | other => (s.modifyOutput token.outputId (failRuntime outstanding), other)

variable {β : Type} [DisplayBackend β]

/-- displayd's state together with its backend. -/
structure Display (β : Type) where
  state : DisplayState
  backend : β

namespace Display

def retire (d : Display β) (token : PresentationToken) : Display β :=
  { d with backend := DisplayBackend.retireSubmission d.backend token }

def finishBackendCompletion (d : Display β) (env : Env) (token : PresentationToken)
    (outcome : PresentationCompletion) : Display β × PresentationCompletion :=
  match preflightPresentationToken d.state token with
  | .error result => (d, result)
  | .ok _ =>
    if outcome = .presented then
      match DisplayBackend.completeSubmission d.backend token with
      | (backend, .error _) =>
        let result := completePresentation d.state env token .backendUnavailable
        (⟨result.1, DisplayBackend.retireSubmission backend token⟩, result.2)
      | (backend, .ok _) =>
        let result := completePresentation d.state env token .presented
        (⟨result.1, DisplayBackend.retireSubmission backend token⟩, result.2)
    else
      let result := completePresentation d.state env token outcome
      (⟨result.1, DisplayBackend.retireSubmission d.backend token⟩, result.2)

end Display

def debugPublicationFailure : PublicationFailure → String
  | .backendRejected => "BackendRejected"
  | .staleOutputGeneration => "StaleOutputGeneration"
  | .staleRetryState => "StaleRetryState"
  | .malformedPublicationState => "MalformedPublicationState"
  | .outputUnavailable => "OutputUnavailable"
  | .rendererRejected => "RendererRejected"

def debugCompletion : PresentationCompletion → String
  | .presented => "Presented"
  | .failed reason => "Failed \x7b reason: " ++ debugPublicationFailure reason ++ " \x7d"
  | .superseded => "Superseded"
  | .staleGeneration => "StaleGeneration"
  | .unknownToken => "UnknownToken"
  | .backendUnavailable => "BackendUnavailable"

/-- Drop a retry record that no longer describes the pending damage. -/
def refreshRetry (runtime : OutputRuntime) : OutputRuntime :=
  match runtime.retry with
  | none => runtime
  | some retry =>
    if retry.outputGeneration = runtime.state.outputGeneration ∧
        retry.sceneEpoch = runtime.pendingSceneEpoch ∧
        retry.sceneGeneration = runtime.pendingSceneGeneration ∧
        retry.commitId = runtime.pendingCommitId ∧ retry.frameId ≤ runtime.nextFrameId then
      runtime
    else if runtime.pendingDamage.isEmpty then { runtime with retry := none }
    else
      { runtime with
        retry := none
        scheduler := { runtime.scheduler with state := .damagePending } }

def tickRuntime (runtime : OutputRuntime) (nowNs tickSequence : Nat) : OutputRuntime :=
  { runtime with
    scheduler :=
      { runtime.scheduler with lastTickNs := nowNs, lastTickSequence := tickSequence } }

def tickEligible (runtime : OutputRuntime) (nowNs : Nat) : Bool :=
  nowNs ≥ runtime.scheduler.nextEligibleNs && runtime.outstanding.isNone &&
    (!runtime.pendingDamage.isEmpty || runtime.scheduler.state = .damagePending ||
      runtime.scheduler.state = .retryPending)

/-- The tick of an output that has passed the identity checks. -/
def advanceRuntime (runtime : OutputRuntime) (outputId : String) (nowNs tickSequence : Nat) :
    OutputRuntime × Except Fault Bool :=
  let runtime := refreshRetry runtime
  if runtime.disabled then (tickRuntime runtime nowNs tickSequence, .ok false)
  else if nowNs < runtime.scheduler.lastTickNs then
    (runtime, .error (.error ("presentation clock moved backwards for " ++ outputId)))
  else if tickSequence ≤ runtime.scheduler.lastTickSequence then
    (runtime, .error (.error ("duplicate presentation tick for " ++ outputId)))
  else
    let runtime := tickRuntime runtime nowNs tickSequence
    if tickEligible runtime nowNs then
      ({ runtime with
          scheduler :=
            { runtime.scheduler with
              state := .submissionEligible
              nextEligibleNs := satAdd nowNs runtime.scheduler.cadence.periodNs } },
        .ok true)
    else if runtime.outstanding.isSome then
      ({ runtime with
          scheduler := { runtime.scheduler with state := .presentationBlocked } }, .ok false)
    else (runtime, .ok false)

def advancePresentation (s : DisplayState) (outputId : String)
    (outputGeneration nowNs tickSequence : Nat) : DisplayState × Except Fault Bool :=
  match s.outputs.get? outputId with
  | none => (s, .error (.error ("unknown output " ++ outputId)))
  | some runtime =>
    if runtime.state.outputGeneration ≠ outputGeneration ∨
        runtime.scheduler.outputGeneration ≠ outputGeneration then
      (s, .error (.error ("stale output generation for " ++ outputId)))
    else
      let result := advanceRuntime runtime outputId nowNs tickSequence
      (s.modifyOutput outputId fun _ => result.1, result.2)

/-- The frame buffer a composition starts from. -/
def scratchFramebuffer (runtime : OutputRuntime) : List UInt32 :=
  if runtime.initialized then runtime.framebuffer
  else List.replicate runtime.state.framebufferWords backgroundPixel

def publicationDamage (runtime : OutputRuntime) : List RendererRect :=
  normalizeDamage runtime.bounds runtime.pendingDamage

def isDirectScanout (surfaces : List SurfaceSnapshot) (state : OutputState) : Bool :=
  match surfaces with
  | [s] =>
    s.placement.visible && s.placement.x = state.originX && s.placement.y = state.originY &&
      s.placement.width = state.width && s.placement.height = state.height
  | _ => false

def countComposition (s : DisplayState) (directScanout : Bool) : DisplayState :=
  if directScanout then { s with directScanoutCount := satAdd s.directScanoutCount 1 }
  else { s with compositionFrameCount := satAdd s.compositionFrameCount 1 }

def composedFrame (runtime : OutputRuntime) (outputId : String) (scene : CommittedSceneState)
    (pixels : List UInt32) : FramePublication where
  frameId := runtime.nextFrameId
  commitId := runtime.pendingCommitId
  outputId := outputId
  outputGeneration := runtime.state.outputGeneration
  sceneEpoch := scene.sceneEpoch
  sceneGeneration := scene.sceneGeneration
  geometry := runtime.state.toOutputGeometry
  format := runtime.state.format
  stride := runtime.state.stride
  pixels := pixels
  damage := publicationDamage runtime

def submitFailedRuntime (frame : FramePublication) (runtime : OutputRuntime) : OutputRuntime :=
  { runtime with
    scheduler := { runtime.scheduler with state := .retryPending }
    retry := some
      { sceneEpoch := frame.sceneEpoch
        sceneGeneration := frame.sceneGeneration
        outputGeneration := runtime.state.outputGeneration
        frameId := frame.frameId
        commitId := frame.commitId }
    pendingDamage := frame.damage }

def submittedRuntime (frame : FramePublication) (token : PresentationToken)
    (runtime : OutputRuntime) : OutputRuntime :=
  { runtime with
    submittedFrameId := frame.frameId
    scheduler := { runtime.scheduler with state := .submissionInFlight }
    outstanding := some ⟨token, frame⟩
    nextFrameId := satAdd frame.frameId 1 }

def schedulerState (state : PresentationSchedulerState) (runtime : OutputRuntime) :
    OutputRuntime :=
  { runtime with scheduler := { runtime.scheduler with state := state } }

/-- The earliest time the clock of an output can take. -/
def driveClock (env : Env) (runtime : OutputRuntime) : Nat :=
  max (max env.clockNow runtime.scheduler.lastTickNs) runtime.scheduler.nextEligibleNs

namespace Display

def advanced (d : Display β) (outputId : String) (eligible : Bool) :
    Display β × Except Fault DisplayEvent :=
  (d, .ok (.presentationAdvanced outputId
    (((d.state.outputs.get? outputId).map fun r => r.scheduler.lastTickSequence).getD 0)
    eligible))

/-- A submitted frame is finished there and then by a backend that completes
submissions immediately. -/
def finishSubmitted (d : Display β) (env : Env) (outputId : String)
    (token : PresentationToken) : Display β × Except Fault DisplayEvent :=
  if DisplayBackend.completesImmediately d.backend then
    let result := d.finishBackendCompletion env token .presented
    if result.2 ≠ .presented then
      (result.1, .ok (.rejected
        ("immediate presentation completion failed: " ++ debugCompletion result.2)))
    else advanced result.1 outputId true
  else advanced d outputId true

/-- The frame was composed: hand it to the backend. -/
def submitComposed (d : Display β) (env : Env) (outputId : String) (frame : FramePublication)
    (sceneCommitId : Nat) : Display β × Except Fault DisplayEvent :=
  match DisplayBackend.submitFrame d.backend frame with
  | (backend, .error _) =>
    advanced ⟨d.state.modifyOutput outputId (submitFailedRuntime frame), backend⟩ outputId false
  | (backend, .ok token) =>
    match token.validate with
    | .error reason => (⟨d.state, backend⟩, .error (.error reason))
    | .ok _ =>
      if token.outputId ≠ outputId ∨ token.outputGeneration ≠ frame.outputGeneration ∨
          token.sceneGeneration ≠ frame.sceneGeneration then
        ((⟨d.state, backend⟩ : Display β).retire token,
          .ok (.rejected "display backend returned a mismatched presentation token"))
      else
        finishSubmitted
          ⟨(d.state.modifyOutput outputId (submittedRuntime frame token)).note
            (.submitted outputId sceneCommitId), backend⟩ env outputId token

/-- `handle_multi_output_commit` for the output the scheduler selected; it always
publishes the canonical scene. -/
def handleMultiOutputCommit (d : Display β) (env : Env) (scene : CommittedSceneState)
    (outputId : String) : Display β × Except Fault DisplayEvent :=
  if outputId = "" then
    (d, .error (.error "presentation scheduler did not select an output"))
  else
    let surfaces := canonicalizeSurfaces scene.surfaces
    match d.state.outputs.get? outputId with
    | none => (d, .error (.error ("unknown output " ++ outputId)))
    | some runtime =>
      if runtime.disabled then advanced d outputId false
      else if runtime.outstanding.isSome then
        advanced ⟨d.state.modifyOutput outputId (schedulerState .presentationBlocked),
          d.backend⟩ outputId false
      else if runtime.pendingDamage.isEmpty then
        advanced ⟨d.state.modifyOutput outputId (schedulerState .idle), d.backend⟩ outputId
          false
      else
        let damage := publicationDamage runtime
        match validateSurfacePixelsForDamage d.state.pixelTransport surfaces damage with
        | .error reason => (d, .ok (.rejected reason))
        | .ok _ =>
          let counted := countComposition d.state (isDirectScanout surfaces runtime.state)
          match composeDamageRects (scratchFramebuffer runtime) runtime.state
              d.state.pixelTransport surfaces damage with
          | .error fault => (⟨counted, d.backend⟩, .error fault)
          | .ok pixels =>
            submitComposed ⟨counted, d.backend⟩ env outputId
              (composedFrame runtime outputId scene pixels) scene.commitId

/-- `AdvancePresentation`: a tick, and the publication it makes eligible. -/
def advanceAndPublish (d : Display β) (env : Env) (outputId : String)
    (outputGeneration nowNs tickSequence : Nat) : Display β × Except Fault Bool :=
  let ticked := advancePresentation d.state outputId outputGeneration nowNs tickSequence
  let d : Display β := ⟨ticked.1, d.backend⟩
  match ticked.2 with
  | .error fault => (d, .error fault)
  | .ok false => (d, .ok false)
  | .ok true =>
    match d.state.lastScene with
    | none => (d, .ok true)
    | some scene =>
      let result := handleMultiOutputCommit d env scene outputId
      (result.1, result.2.map fun _ => true)

/-- Tick one output as early as its clock allows and publish what is eligible. -/
def driveOutput (d : Display β) (env : Env) (scene : CommittedSceneState) (outputId : String)
    (runtime : OutputRuntime) : Display β × Except Fault Unit :=
  let ticked := advancePresentation d.state outputId runtime.state.outputGeneration
    (driveClock env runtime) (satAdd runtime.scheduler.lastTickSequence 1)
  match ticked.2 with
  | .error fault => (⟨ticked.1, d.backend⟩, .error fault)
  | .ok false => (⟨ticked.1, d.backend⟩, .ok ())
  | .ok true =>
    let result := handleMultiOutputCommit ⟨ticked.1, d.backend⟩ env scene outputId
    (result.1, result.2.map fun _ => ())

/-- Drive the outputs an obligation still waits for, until its feedback is there. -/
def driveOutputs (env : Env) (commitId : Nat) (scene : CommittedSceneState) :
    Display β → List String → Display β × Except Fault Unit
  | d, [] => (d, .ok ())
  | d, outputId :: rest =>
    match d.state.outputs.get? outputId with
    | none => driveOutputs env commitId scene d rest
    | some runtime =>
      let driven := d.driveOutput env scene outputId runtime
      match driven.2 with
      | .error fault => (driven.1, .error fault)
      | .ok _ =>
        if driven.1.state.presentationFeedbacks.contains commitId then (driven.1, .ok ())
        else driveOutputs env commitId scene driven.1 rest

def drivePresentationForFeedback (d : Display β) (env : Env) (commitId : Nat) :
    Display β × Except Fault Unit :=
  if d.state.presentationFeedbacks.contains commitId then (d, .ok ())
  else
    match d.state.presentationObligations.get? commitId with
    | none => (d, .ok ())
    | some obligation =>
      match d.state.lastScene with
      | none => (d, .ok ())
      | some scene =>
        driveOutputs env commitId scene d
          (OrdSet.difference obligation.requiredOutputs obligation.presentedOutputs)

def getPresentationFeedback (d : Display β) (env : Env) (commitId : Nat) :
    Display β × Except Fault DisplayEvent :=
  match d.state.presentationFeedbacks.get? commitId with
  | some feedback => (d, .ok feedback)
  | none =>
    let driven := d.drivePresentationForFeedback env commitId
    match driven.2 with
    | .error fault => (driven.1, .error fault)
    | .ok _ =>
      match driven.1.state.presentationFeedbacks.get? commitId with
      | some feedback => (driven.1, .ok feedback)
      | none =>
        if driven.1.state.presentationObligations.contains commitId then
          (driven.1, .ok (.rejected
            ("presentation is still pending for commit_id " ++ toString commitId)))
        else
          (driven.1, .ok (.rejected
            ("no presentation obligation for commit_id " ++ toString commitId)))

end Display

end TuffXwin.Displayd
