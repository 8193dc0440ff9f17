import TuffXwin.Displayd.Admission

/-! Acceptance of a scene by displayd: version rules, preparation of the pixel
store, damage of every enabled output, obligations, and the commit itself.
`Acceptance` lists what one call can do. -/

namespace TuffXwin.Displayd
open Lib

variable {s : DisplayState} {c : SceneCommit}
variable {event : DisplayEvent} {env : Env}

namespace DisplayState

def outputActive (s : DisplayState) (id : String) : Bool :=
  match s.outputs.get? id with
  | some runtime => !runtime.disabled
  | none => false

/-- The obligations `rebind_unavailable_obligations` moves: those covered by the
version whose outputs are all gone or disabled. -/
def obligationStranded (s : DisplayState) (sceneEpoch sceneGeneration : Nat)
    (o : PresentationObligation) : Bool :=
  (if sceneGeneration = 0 then decide (o.sceneGeneration = 0)
    else decide (o.version ≤ sceneVersion sceneEpoch sceneGeneration)) &&
    o.requiredOutputs.all fun id _ => !s.outputActive id

def rebindObligation (s : DisplayState) (sceneEpoch sceneGeneration : Nat)
    (requiredOutputs : OrdSet String) (o : PresentationObligation) : PresentationObligation :=
  if s.obligationStranded sceneEpoch sceneGeneration o then
    { o with requiredOutputs := requiredOutputs, presentedOutputs := OrdMap.empty }
  else o

def rebindUnavailableObligations (s : DisplayState) (sceneEpoch sceneGeneration : Nat)
    (requiredOutputs : OrdSet String) : DisplayState :=
  if requiredOutputs.isEmpty then s
  else
    { s with
      presentationObligations := s.presentationObligations.mapVals fun _ o =>
        s.rebindObligation sceneEpoch sceneGeneration requiredOutputs o }

def requiredOutputsForScene (s : DisplayState) (target : CommitTarget)
    (damageByOutput : OrdMap String (List RendererRect)) (visualTransitionRequired : Bool) :
    OrdSet String :=
  let targetActive := s.outputActive target.name
  let targetHasDamage := ((damageByOutput.get? target.name).map fun d => !d.isEmpty).getD false
  if targetHasDamage || (!targetActive && visualTransitionRequired) then
    OrdSet.single target.name
  else OrdMap.empty

/-- `record_commit`, with the write to disk left to the environment. -/
def recordCommit (s : DisplayState) (scene : CommittedSceneState) (env : Env) :
    Except Fault DisplayState :=
  match env.persists scene with
  | .error reason => .error (.error reason)
  | .ok _ =>
    .ok
      { s with
        nextCommitId := satAdd scene.commitId 1
        lastSceneEpoch := if scene.sceneGeneration ≠ 0 then scene.sceneEpoch
          else s.lastSceneEpoch
        lastSceneGeneration := if scene.sceneGeneration ≠ 0 then scene.sceneGeneration
          else s.lastSceneGeneration
        lastScene := some scene
        history := .accepted scene :: s.history }

end DisplayState

/-- The damage a scene leaves on one enabled output. -/
def outputDamage (previous : Option CommittedSceneState) (surfaces : List SurfaceSnapshot)
    (runtime : OutputRuntime) : List RendererRect :=
  let damage :=
    if surfaces.isEmpty && previous.isNone then []
    else effectiveDamageRects previous surfaces runtime.initialized runtime.bounds
  normalizeDamage runtime.bounds (damage ++ runtime.pendingDamage)

def addOutputDamage (previous : Option CommittedSceneState) (surfaces : List SurfaceSnapshot)
    (store : DisplayPixelTransportStore) (allowMissing : Bool)
    (damageByOutput : OrdMap String (List RendererRect)) (output : String × OutputRuntime) :
    Except String (OrdMap String (List RendererRect)) :=
  if output.2.disabled then .ok damageByOutput
  else
    let damage := outputDamage previous surfaces output.2
    let payloadSurfaces := surfaces.filter fun s => s.pixelTransport.isSome
    (if !damage.isEmpty && !payloadSurfaces.isEmpty && !allowMissing then
      validateSurfacePixelsForDamage store payloadSurfaces damage
    else .ok ()) >>= fun _ => .ok (damageByOutput.insert output.1 damage)

inductive ReplayDecision
  | proceed (replayCommitId : Option Nat)
  | answer (event : DisplayEvent)

/-- The rules for a version equal to the accepted one. -/
def replayDecision (s : DisplayState) (c : SceneCommit) : ReplayDecision :=
  if sceneVersionIsEqual s.lastSceneEpoch s.lastSceneGeneration c.sceneEpoch
      c.sceneGeneration then
    match s.lastScene with
    | none =>
      .answer (.rejected "scene generation matches version floor without canonical snapshot")
    | some existing =>
      let metadataMatches := sameSceneIdentity existing c.target c.focus c.selection c.surfaces
        c.sceneEpoch c.sceneGeneration
      let payloadsCompatible := c.pixelPayloads.all fun p =>
        ((s.pixelTransport.lookup p.handle).map fun current => decide (current = p)).getD true
      let transportHydrationNeeded := c.pixelPayloads.any fun p =>
        (s.pixelTransport.lookup p.handle).isNone
      if metadataMatches && payloadsCompatible then
        if s.reconciliationState = .recovering || transportHydrationNeeded then
          .proceed (some existing.commitId)
        else
          .answer (.sceneCommitted existing.target existing.focus existing.selection
            existing.surfaces.length existing.commitId)
      else
        .answer (.rejected "conflicting scene state for an already accepted generation")
  else .proceed none

def staleReason (s : DisplayState) (c : SceneCommit) : String :=
  "stale scene epoch " ++ toString c.sceneEpoch ++ " generation " ++
    toString c.sceneGeneration ++ "; latest is epoch " ++ toString s.lastSceneEpoch ++
    " generation " ++ toString s.lastSceneGeneration

def allowMissingTransport (s : DisplayState) (c : SceneCommit) : Bool :=
  s.reconciliationState = .recovering && c.pixelPayloads.isEmpty

/-- The pixel store and the damage by output a scene would be committed with. -/
def prepareScene (s : DisplayState) (c : SceneCommit) :
    Except String (DisplayPixelTransportStore × OrdMap String (List RendererRect)) :=
  let allowMissing := allowMissingTransport s c
  s.pixelTransport.preparedForSceneWithPolicy c.surfaces c.pixelPayloads allowMissing >>=
    fun store =>
  (if !allowMissing then verifyPixelPayloadsAvailable store c.surfaces else .ok ()) >>= fun _ =>
  s.outputs.entries.foldlM (addOutputDamage s.lastScene c.surfaces store allowMissing)
    OrdMap.empty >>= fun damageByOutput => .ok (store, damageByOutput)

def visualTransitionRequired (s : DisplayState) (c : SceneCommit) : Bool :=
  s.lastScene.isSome || c.surfaces.any fun surface => surface.placement.visible

def committedScene (c : SceneCommit) (source : ServiceRole) (commitId : Nat) (env : Env) :
    CommittedSceneState where
  source := source
  target := c.target
  focus := c.focus
  selection := c.selection
  surfaces := c.surfaces
  sceneEpoch := c.sceneEpoch
  sceneGeneration := c.sceneGeneration
  commitId := commitId
  unixTimestamp := env.unixTimestamp

/-- The new damage of one output, when there is any. -/
def damageOutput (c : SceneCommit) (commitId : Nat)
    (damageByOutput : OrdMap String (List RendererRect)) (id : String)
    (runtime : OutputRuntime) : OutputRuntime :=
  match damageByOutput.get? id with
  | none => runtime
  | some damage =>
    if damage.isEmpty then runtime
    else
      { runtime with
        pendingDamage := damage
        pendingSceneEpoch := c.sceneEpoch
        pendingSceneGeneration := c.sceneGeneration
        pendingCommitId := commitId
        scheduler :=
          { runtime.scheduler with
            sceneGeneration := c.sceneGeneration
            state := .damagePending } }

theorem damageOutput_same (c : SceneCommit) (commitId : Nat)
    (damageByOutput : OrdMap String (List RendererRect)) (id : String) (r : OutputRuntime) :
    r.SameOutput (damageOutput c commitId damageByOutput id r) := by
  unfold damageOutput
  split
  · exact .refl r
  · split_ifs
    · exact .refl r
    · exact ⟨rfl, rfl, rfl, rfl, rfl, rfl⟩

/-- The state after the scene is recorded: store, damage and obligation. -/
def applyAcceptance (s : DisplayState) (c : SceneCommit) (commitId : Nat)
    (store : DisplayPixelTransportStore) (damageByOutput : OrdMap String (List RendererRect))
    (requiredOutputs : OrdSet String) : DisplayState :=
  { s with
    pixelTransport := store
    outputs := s.outputs.mapVals (damageOutput c commitId damageByOutput)
    presentationObligations :=
      if requiredOutputs.isEmpty then s.presentationObligations
      else
        s.presentationObligations.insert commitId
          { sceneEpoch := c.sceneEpoch
            sceneGeneration := c.sceneGeneration
            requiredOutputs := requiredOutputs }
    presentationFeedbacks := s.presentationFeedbacks.erase commitId
    history := if requiredOutputs.isEmpty then s.history else .obliged commitId :: s.history }

def commitPrepared (s : DisplayState) (c : SceneCommit) (source : ServiceRole) (env : Env)
    (replayCommitId : Option Nat) (store : DisplayPixelTransportStore)
    (damageByOutput : OrdMap String (List RendererRect)) :
    DisplayState × Except Fault DisplayEvent :=
  let required := s.requiredOutputsForScene c.target damageByOutput
    (visualTransitionRequired s c)
  let rebound := s.rebindUnavailableObligations c.sceneEpoch c.sceneGeneration required
  if !required.isEmpty &&
      decide (rebound.presentationObligations.size ≥ maxPresentationObligations) then
    (rebound, .ok (.rejected "presentation obligation budget exhausted"))
  else
    let commitId := replayCommitId.getD s.nextCommitId
    let recorded :=
      if replayCommitId.isNone then
        rebound.recordCommit (committedScene c source commitId env) env
      else .ok rebound
    match recorded with
    | .error fault => (rebound, .error fault)
    | .ok recorded =>
      (applyAcceptance recorded c commitId store damageByOutput required,
        .ok (.sceneCommitted c.target c.focus c.selection c.surfaces.length commitId))

/-- Acceptance of a scene whose surfaces are already in canonical order. -/
def acceptCanonical (s : DisplayState) (c : SceneCommit) (source : ServiceRole) (env : Env) :
    DisplayState × Except Fault DisplayEvent :=
  match validateSceneAdmission c with
  | .error reason => (s, .ok (.rejected reason))
  | .ok _ =>
    if sceneVersionIsStale s.lastSceneEpoch s.lastSceneGeneration c.sceneEpoch
        c.sceneGeneration then
      (s, .ok (.rejected (staleReason s c)))
    else
      match replayDecision s c with
      | .answer event => (s, .ok event)
      | .proceed replayCommitId =>
        match prepareScene s c with
        | .error reason => (s, .ok (.rejected reason))
        | .ok (store, damageByOutput) =>
          commitPrepared s c source env replayCommitId store damageByOutput

def handleSceneAcceptance (s : DisplayState) (c : SceneCommit) (source : ServiceRole)
    (env : Env) : DisplayState × Except Fault DisplayEvent :=
  acceptCanonical s { c with surfaces := canonicalizeSurfaces c.surfaces } source env

def IsCommitted : Except Fault DisplayEvent → Prop
  | .ok (.sceneCommitted ..) => True
  | _ => False

/-- The versions a canonical scene may follow, and what following them needs. -/
structure Acceptable (s : DisplayState) (c : SceneCommit) (replayCommitId : Option Nat)
    (store : DisplayPixelTransportStore) (damageByOutput : OrdMap String (List RendererRect)) :
    Prop where
  admissible : AdmissibleScene c
  notStale : sceneVersionIsStale s.lastSceneEpoch s.lastSceneGeneration c.sceneEpoch
    c.sceneGeneration = false
  decision : replayDecision s c = .proceed replayCommitId
  prepared : prepareScene s c = .ok (store, damageByOutput)

/-- The ways a scene is turned down after every check on the scene itself. -/
def CommitRefused (s : DisplayState) (c : SceneCommit) (source : ServiceRole) (env : Env)
    (replayCommitId : Option Nat) (required : OrdSet String) : Prop :=
  (required.isEmpty = false ∧
      maxPresentationObligations ≤ s.presentationObligations.size) ∨
    (replayCommitId = none ∧
      ∃ reason, env.persists (committedScene c source s.nextCommitId env) = .error reason)

/-- What one submission of a canonical scene can do. -/
inductive Acceptance (s : DisplayState) (c : SceneCommit) (source : ServiceRole) (env : Env) :
    DisplayState × Except Fault DisplayEvent → Prop
  | rejected (reason : String) : Acceptance s c source env (s, .ok (.rejected reason))
  | idempotent (existing : CommittedSceneState) (admissible : AdmissibleScene c)
      (last : s.lastScene = some existing)
      (equal : sceneVersionIsEqual s.lastSceneEpoch s.lastSceneGeneration c.sceneEpoch
        c.sceneGeneration = true)
      (same : sameSceneIdentity existing c.target c.focus c.selection c.surfaces c.sceneEpoch
        c.sceneGeneration = true)
      (live : s.reconciliationState ≠ .recovering) :
      Acceptance s c source env (s, .ok (.sceneCommitted existing.target existing.focus
        existing.selection existing.surfaces.length existing.commitId))
  | refused (replayCommitId : Option Nat) (store : DisplayPixelTransportStore)
      (damageByOutput : OrdMap String (List RendererRect))
      (acceptable : Acceptable s c replayCommitId store damageByOutput)
      (refusal : CommitRefused s c source env replayCommitId
        (s.requiredOutputsForScene c.target damageByOutput (visualTransitionRequired s c)))
      (result : Except Fault DisplayEvent) (uncommitted : ¬ IsCommitted result) :
      Acceptance s c source env
        (s.rebindUnavailableObligations c.sceneEpoch c.sceneGeneration
          (s.requiredOutputsForScene c.target damageByOutput (visualTransitionRequired s c)),
          result)
  | accepted (replayCommitId : Option Nat) (store : DisplayPixelTransportStore)
      (damageByOutput : OrdMap String (List RendererRect))
      (acceptable : Acceptable s c replayCommitId store damageByOutput)
      (recorded : DisplayState)
      (taken : ¬ CommitRefused s c source env replayCommitId
        (s.requiredOutputsForScene c.target damageByOutput (visualTransitionRequired s c)))
      (record : (if replayCommitId.isNone then
          (s.rebindUnavailableObligations c.sceneEpoch c.sceneGeneration
            (s.requiredOutputsForScene c.target damageByOutput
              (visualTransitionRequired s c))).recordCommit
            (committedScene c source (replayCommitId.getD s.nextCommitId) env) env
        else
          .ok (s.rebindUnavailableObligations c.sceneEpoch c.sceneGeneration
            (s.requiredOutputsForScene c.target damageByOutput
              (visualTransitionRequired s c)))) = .ok recorded) :
      Acceptance s c source env
        (applyAcceptance recorded c (replayCommitId.getD s.nextCommitId) store damageByOutput
          (s.requiredOutputsForScene c.target damageByOutput (visualTransitionRequired s c)),
          .ok (.sceneCommitted c.target c.focus c.selection c.surfaces.length
            (replayCommitId.getD s.nextCommitId)))

theorem replayDecision_answer (h : replayDecision s c = .answer event) :
    (∃ reason, event = .rejected reason) ∨ IsCommitted (.ok event) := by
  simp only [replayDecision] at h
  split at h
  · split at h
    · cases h
      exact .inl ⟨_, rfl⟩
    · split_ifs at h
      · cases h
        exact .inr trivial
      · cases h
        exact .inl ⟨_, rfl⟩
  · cases h

/-- An answer says that the scene was committed, or why it was not. -/
theorem acceptCanonical_answer {source : ServiceRole}
    (h : (acceptCanonical s c source env).2 = .ok event) :
    (∃ reason, event = .rejected reason) ∨ IsCommitted (.ok event) := by
  unfold acceptCanonical at h
  split at h
  · cases h
    exact .inl ⟨_, rfl⟩
  · split at h
    · cases h
      exact .inl ⟨_, rfl⟩
    · split at h
      · rename_i hdecision
        cases h
        exact replayDecision_answer hdecision
      · split at h
        · cases h
          exact .inl ⟨_, rfl⟩
        · unfold commitPrepared at h
          dsimp only at h
          split at h
          · cases h
            exact .inl ⟨_, rfl⟩
          · split at h
            · cases h
            · cases h
              exact .inr trivial

theorem replayDecision_none (h : replayDecision s c = .proceed none) :
    sceneVersionIsEqual s.lastSceneEpoch s.lastSceneGeneration c.sceneEpoch
      c.sceneGeneration = false := by
  simp only [replayDecision] at h
  split at h
  · split at h
    · cases h
    · split_ifs at h
      cases h
  · rename_i hequal
    exact (Bool.not_eq_true _).mp hequal

/-- A scene is replayed only over the very scene it repeats. -/
structure Replayed (s : DisplayState) (c : SceneCommit) (existing : CommittedSceneState) :
    Prop where
  last : s.lastScene = some existing
  equal : sceneVersionIsEqual s.lastSceneEpoch s.lastSceneGeneration c.sceneEpoch
    c.sceneGeneration = true
  same : sameSceneIdentity existing c.target c.focus c.selection c.surfaces c.sceneEpoch
    c.sceneGeneration = true
  compatible : ∀ p ∈ c.pixelPayloads, ∀ q, s.pixelTransport.lookup p.handle = some q → q = p

theorem replayDecision_some {commitId : Nat} (h : replayDecision s c = .proceed (some commitId)) :
    ∃ existing, Replayed s c existing ∧ commitId = existing.commitId := by
  simp only [replayDecision] at h
  split at h
  · rename_i hequal
    split at h
    · cases h
    · rename_i existing hlast
      split at h
      · rename_i hmatch
        rw [Bool.and_eq_true, List.all_eq_true] at hmatch
        split at h
        · cases h
          refine ⟨existing, ⟨hlast, hequal, hmatch.1, fun p hp q hq => ?_⟩, rfl⟩
          have hsame := hmatch.2 p hp
          rw [hq] at hsame
          simpa using hsame
        · cases h
      · cases h
  · cases h

theorem rebind_size (s : DisplayState) (e g : Nat) (required : OrdSet String) :
    (s.rebindUnavailableObligations e g required).presentationObligations.size =
      s.presentationObligations.size := by
  simp only [DisplayState.rebindUnavailableObligations]
  split_ifs with h
  · rfl
  · simp [OrdMap.size, OrdMap.mapVals]

theorem recordCommit_error {scene : CommittedSceneState} {fault : Fault} :
    s.recordCommit scene env = .error fault ↔
      ∃ reason, env.persists scene = .error reason ∧ fault = .error reason := by
  unfold DisplayState.recordCommit
  split
  · rename_i reason hreason
    rw [hreason]
    constructor
    · intro h
      exact ⟨reason, rfl, (Except.error.inj h).symm⟩
    · intro h
      obtain ⟨reason', hr, hf⟩ := h
      rw [hf, Except.error.inj hr]
  · rename_i hok
    rw [hok]
    constructor
    · intro h
      cases h
    · intro h
      obtain ⟨reason, hr, _⟩ := h
      cases hr

theorem commitPrepared_cases (s : DisplayState) (c : SceneCommit) (source : ServiceRole)
    (env : Env) {replayCommitId : Option Nat} {store : DisplayPixelTransportStore}
    {damageByOutput : OrdMap String (List RendererRect)}
    (h : Acceptable s c replayCommitId store damageByOutput) :
    Acceptance s c source env
      (commitPrepared s c source env replayCommitId store damageByOutput) := by
  unfold commitPrepared
  dsimp only
  split
  · rename_i hfull
    rw [rebind_size, Bool.and_eq_true, Bool.not_eq_true', decide_eq_true_eq] at hfull
    exact .refused replayCommitId store damageByOutput h (.inl hfull) _ (by simp [IsCommitted])
  · rename_i hbudget
    rw [rebind_size, Bool.and_eq_true, Bool.not_eq_true', decide_eq_true_eq] at hbudget
    split
    · rename_i fault hfault
      refine .refused replayCommitId store damageByOutput h (.inr ?_) _ (by simp [IsCommitted])
      cases replayCommitId with
      | none =>
        obtain ⟨reason, hreason, _⟩ := recordCommit_error.mp hfault
        exact ⟨rfl, reason, hreason⟩
      | some commitId => cases hfault
    · rename_i recorded hrecorded
      refine .accepted replayCommitId store damageByOutput h recorded ?_ hrecorded
      intro hrefused
      cases hrefused with
      | inl hfull => exact hbudget hfull
      | inr hpersist =>
        obtain ⟨hnone, reason, hreason⟩ := hpersist
        subst hnone
        have herror := (recordCommit_error (s := s.rebindUnavailableObligations c.sceneEpoch
          c.sceneGeneration (s.requiredOutputsForScene c.target damageByOutput
            (visualTransitionRequired s c)))).mpr ⟨reason, hreason, rfl⟩
        exact absurd (herror.symm.trans hrecorded) (by simp)

theorem acceptCanonical_cases (s : DisplayState) (c : SceneCommit) (source : ServiceRole)
    (env : Env) : Acceptance s c source env (acceptCanonical s c source env) := by
  unfold acceptCanonical
  cases hadmit : validateSceneAdmission c with
  | error reason => exact .rejected reason
  | ok usage =>
    have hadm : AdmissibleScene c := validateSceneAdmission_ok.mp ⟨usage, hadmit⟩
    dsimp only
    split
    · exact .rejected _
    · rename_i hstale
      have hfresh := (Bool.not_eq_true _).mp hstale
      cases hdecision : replayDecision s c with
      | answer event =>
        simp only [replayDecision] at hdecision
        split at hdecision
        · rename_i hequal
          split at hdecision
          · cases hdecision
            exact .rejected _
          · rename_i existing hlast
            split at hdecision
            · rename_i hmatch
              split at hdecision
              · cases hdecision
              · rename_i hlive
                cases hdecision
                rw [Bool.and_eq_true] at hmatch
                refine .idempotent existing hadm hlast hequal hmatch.1 ?_
                intro hrec
                exact hlive (by simp [hrec])
            · cases hdecision
              exact .rejected _
        · cases hdecision
      | proceed replayCommitId =>
        dsimp only
        split
        · exact .rejected _
        · rename_i store damageByOutput hprepared
          exact commitPrepared_cases s c source env ⟨hadm, hfresh, hdecision, hprepared⟩

end TuffXwin.Displayd
