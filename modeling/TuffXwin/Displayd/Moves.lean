import Mathlib.Logic.Relation
import TuffXwin.Displayd.Service

/-! Every command of displayd changes its state by a sequence of moves, each of
one kind: a scene accepted, a frame submitted, a completion, an output connected
or gone, or bookkeeping. An invariant is proved once for each kind of move. A
policy restricts the acceptances and completions of the runs looked at. -/

namespace TuffXwin.Displayd
open Lib

variable {s' : DisplayState} {env : Env} {token : PresentationToken}

namespace OutputRuntime

/-- Only the scheduler's clock and state may differ, or the retry record be dropped. -/
structure Quiet (r r' : OutputRuntime) : Prop where
  same : SameOutput r r'
  framebuffer : r'.framebuffer = r.framebuffer
  nextFrameId : r'.nextFrameId = r.nextFrameId
  publishedFrameId : r'.publishedFrameId = r.publishedFrameId
  pendingDamage : r'.pendingDamage = r.pendingDamage
  pendingSceneEpoch : r'.pendingSceneEpoch = r.pendingSceneEpoch
  pendingSceneGeneration : r'.pendingSceneGeneration = r.pendingSceneGeneration
  pendingCommitId : r'.pendingCommitId = r.pendingCommitId
  outstanding : r'.outstanding = r.outstanding
  retry : r.retry = none → r'.retry = none

theorem Quiet.refl (r : OutputRuntime) : Quiet r r :=
  ⟨.refl r, rfl, rfl, rfl, rfl, rfl, rfl, rfl, rfl, id⟩

theorem Quiet.trans {a b c : OutputRuntime} (h : Quiet a b) (h' : Quiet b c) : Quiet a c :=
  ⟨h.same.trans h'.same, h'.framebuffer.trans h.framebuffer,
    h'.nextFrameId.trans h.nextFrameId, h'.publishedFrameId.trans h.publishedFrameId,
    h'.pendingDamage.trans h.pendingDamage, h'.pendingSceneEpoch.trans h.pendingSceneEpoch,
    h'.pendingSceneGeneration.trans h.pendingSceneGeneration,
    h'.pendingCommitId.trans h.pendingCommitId, h'.outstanding.trans h.outstanding,
    fun hnone => h'.retry (h.retry hnone)⟩

theorem quiet_schedulerState (state : PresentationSchedulerState) (r : OutputRuntime) :
    Quiet r (schedulerState state r) :=
  ⟨⟨rfl, rfl, rfl, rfl, rfl, rfl⟩, rfl, rfl, rfl, rfl, rfl, rfl, rfl, rfl, id⟩

theorem quiet_tickRuntime (r : OutputRuntime) (now tick : Nat) :
    Quiet r (tickRuntime r now tick) :=
  ⟨⟨rfl, rfl, rfl, rfl, rfl, rfl⟩, rfl, rfl, rfl, rfl, rfl, rfl, rfl, rfl, id⟩

theorem quiet_refreshRetry (r : OutputRuntime) : Quiet r (refreshRetry r) := by
  unfold refreshRetry
  split
  · exact .refl r
  · split_ifs
    · exact .refl r
    · exact ⟨⟨rfl, rfl, rfl, rfl, rfl, rfl⟩, rfl, rfl, rfl, rfl, rfl, rfl, rfl, rfl,
        fun _ => rfl⟩
    · exact ⟨⟨rfl, rfl, rfl, rfl, rfl, rfl⟩, rfl, rfl, rfl, rfl, rfl, rfl, rfl, rfl,
        fun _ => rfl⟩

theorem quiet_advanceRuntime (r : OutputRuntime) (id : String) (now tick : Nat) :
    Quiet r (advanceRuntime r id now tick).1 := by
  have hrefresh := quiet_refreshRetry r
  have htick := hrefresh.trans (quiet_tickRuntime _ now tick)
  unfold advanceRuntime
  dsimp only
  split_ifs
  · exact htick
  · exact hrefresh
  · exact hrefresh
  · exact htick.trans
      ⟨⟨rfl, rfl, rfl, rfl, rfl, rfl⟩, rfl, rfl, rfl, rfl, rfl, rfl, rfl, rfl,
        fun hnone => hnone⟩
  · exact htick.trans
      ⟨⟨rfl, rfl, rfl, rfl, rfl, rfl⟩, rfl, rfl, rfl, rfl, rfl, rfl, rfl, rfl,
        fun hnone => hnone⟩
  · exact htick

end OutputRuntime

/-- What bookkeeping does not touch. -/
structure SameCore (s s' : DisplayState) : Prop where
  lastScene : s'.lastScene = s.lastScene
  lastSceneEpoch : s'.lastSceneEpoch = s.lastSceneEpoch
  lastSceneGeneration : s'.lastSceneGeneration = s.lastSceneGeneration
  nextCommitId : s'.nextCommitId = s.nextCommitId
  feedbacks : s'.presentationFeedbacks = s.presentationFeedbacks
  obligations : s'.presentationObligations = s.presentationObligations
  outputs : s'.outputs = s.outputs
  pixelTransport : s'.pixelTransport = s.pixelTransport
  history : s'.history = s.history

/-- A frame of the canonical scene, composed for an output and accepted by the backend. -/
structure Submission (s : DisplayState) (id : String) (r : OutputRuntime)
    (scene : CommittedSceneState) (pixels : List UInt32) (token : PresentationToken) :
    Prop where
  output : s.outputs.get? id = some r
  enabled : r.disabled = false
  free : r.outstanding = none
  damaged : r.pendingDamage ≠ []
  last : s.lastScene = some scene
  validated : validateSurfacePixelsForDamage s.pixelTransport
    (canonicalizeSurfaces scene.surfaces) (publicationDamage r) = .ok ()
  composed : composeDamageRects (scratchFramebuffer r) r.state s.pixelTransport
    (canonicalizeSurfaces scene.surfaces) (publicationDamage r) = .ok pixels
  valid : token.validate = .ok ()
  tokenOutput : token.outputId = id
  tokenOutputGeneration : token.outputGeneration = r.state.outputGeneration
  tokenSceneGeneration : token.sceneGeneration = scene.sceneGeneration

def submitState (s : DisplayState) (id : String) (frame : FramePublication)
    (token : PresentationToken) (sceneCommitId : Nat) : DisplayState :=
  (s.modifyOutput id (submittedRuntime frame token)).note (.submitted id sceneCommitId)

/-- Conditions put on the acceptances and completions of a run, and whether the
output registry may change. -/
structure MovePolicy where
  registry : Prop
  accept : DisplayState → SceneCommit → Option Nat → DisplayPixelTransportStore →
    OrdMap String (List RendererRect) → Prop
  refuse : DisplayState → SceneCommit → OrdMap String (List RendererRect) → Prop
  present : DisplayState → String → OutstandingPresentation → Prop
  fail : DisplayState → String → OutstandingPresentation → Prop

variable {P : MovePolicy}

/-- No condition on scenes and frames. -/
def freely (registry : Prop) : MovePolicy where
  registry := registry
  accept _ _ _ _ _ := True
  refuse _ _ _ := True
  present _ _ _ := True
  fail _ _ _ := True

abbrev anyMove : MovePolicy := freely True

/-- An outstanding frame of a registered output. -/
structure InFlight (s : DisplayState) (id : String) (r : OutputRuntime)
    (o : OutstandingPresentation) : Prop where
  output : s.outputs.get? id = some r
  outstanding : r.outstanding = some o
  valid : o.token.validate = .ok ()

def requiredFor (s : DisplayState) (c : SceneCommit)
    (damageByOutput : OrdMap String (List RendererRect)) : OrdSet String :=
  s.requiredOutputsForScene c.target damageByOutput (visualTransitionRequired s c)

def reboundFor (s : DisplayState) (c : SceneCommit)
    (damageByOutput : OrdMap String (List RendererRect)) : DisplayState :=
  s.rebindUnavailableObligations c.sceneEpoch c.sceneGeneration (requiredFor s c damageByOutput)

inductive Move (P : MovePolicy) : DisplayState → DisplayState → Prop
  | refuse {s c replay store damage} (h : Acceptable s c replay store damage)
      (hp : P.refuse s c damage) : Move P s (reboundFor s c damage)
  | accept {s c store damage source env recorded} (h : Acceptable s c none store damage)
      (hp : P.accept s c none store damage)
      (hr : (reboundFor s c damage).recordCommit
        (committedScene c source s.nextCommitId env) env = .ok recorded) :
      Move P s (applyAcceptance recorded c s.nextCommitId store damage (requiredFor s c damage))
  | hydrate {s c store damage commitId} (h : Acceptable s c (some commitId) store damage)
      (hp : P.accept s c (some commitId) store damage) :
      Move P s (applyAcceptance (reboundFor s c damage) c commitId store damage
        (requiredFor s c damage))
  | quiet {s id f} (h : ∀ r, s.outputs.get? id = some r → r.Quiet (f r)) :
      Move P s (s.modifyOutput id f)
  | submitFailed {s id r frame} (hr : s.outputs.get? id = some r)
      (hd : r.pendingDamage ≠ []) (hf : frame.damage = publicationDamage r) :
      Move P s (s.modifyOutput id (submitFailedRuntime frame))
  | submit {s id r scene pixels token} (h : Submission s id r scene pixels token) :
      Move P s (submitState s id (composedFrame r id scene pixels) token scene.commitId)
  | present {s id r o env} (h : InFlight s id r o) (hp : P.present s id o) :
      Move P s (presentOutput s env o id)
  | fail {s id r o} (h : InFlight s id r o) (hp : P.fail s id o) :
      Move P s (s.modifyOutput id (failRuntime o))
  | connect {s id state bounds hb instanceId cadence} (hreg : P.registry)
      (hid : state.outputId = id) :
      Move P s (registerOutput s id (connectedRuntime s state bounds hb instanceId cadence))
  | disable {s id} (hreg : P.registry) : Move P s (s.modifyOutput id Display.disableRuntime)
  | drop {s id} (hreg : P.registry) : Move P s { s with outputs := s.outputs.erase id }
  | retireAll {s} :
      Move P s { s with outputs := s.outputs.mapVals fun _ r => Display.retireRuntime r }
  | clearFeedbacks {s} : Move P s { s with presentationFeedbacks := OrdMap.empty }
  | clearOutputs {s} (hreg : P.registry) : Move P s { s with outputs := OrdMap.empty }
  | bookkeeping {s s'} (h : SameCore s s') : Move P s s'
  | restart {s epoch keeps} (hreg : P.registry) :
      Move P s (DisplayState.load epoch (startOutputs keeps) s.lastScene s.history)

abbrev Moves (P : MovePolicy) : DisplayState → DisplayState → Prop :=
  Relation.ReflTransGen (Move P)

theorem Moves.invariant {I : DisplayState → Prop} (hmove : ∀ s s', I s → Move P s s' → I s')
    {s : DisplayState} (h : Moves P s s') (hs : I s) : I s' := by
  induction h with
  | refl => exact hs
  | tail _ hm ih => exact hmove _ _ ih hm

variable {β : Type}

theorem countComposition_core (s : DisplayState) (direct : Bool) :
    SameCore s (countComposition s direct) := by
  unfold countComposition
  split_ifs
  · exact ⟨rfl, rfl, rfl, rfl, rfl, rfl, rfl, rfl, rfl⟩
  · exact ⟨rfl, rfl, rfl, rfl, rfl, rfl, rfl, rfl, rfl⟩

theorem advancePresentation_frame (s : DisplayState) (id : String)
    (generation now tick : Nat) :
    (advancePresentation s id generation now tick).1.lastScene = s.lastScene ∧
      (advancePresentation s id generation now tick).1.presentationObligations =
        s.presentationObligations := by
  unfold advancePresentation
  split
  · exact ⟨rfl, rfl⟩
  · split_ifs
    · exact ⟨rfl, rfl⟩
    · exact ⟨rfl, rfl⟩

/-- A scene as displayd works with it. -/
def canonicalCommit (c : SceneCommit) : SceneCommit :=
  { c with surfaces := canonicalizeSurfaces c.surfaces }

/-- What the policy asks of a scene: one thing when it is committed, another when
it is turned down after its checks. -/
def AcceptAllowed (P : MovePolicy) (s : DisplayState) (env : Env) (source : ServiceRole)
    (c : SceneCommit) : Prop :=
  ∀ replay store damage, Acceptable s c replay store damage →
    (¬ CommitRefused s c source env replay (requiredFor s c damage) →
        P.accept s c replay store damage) ∧
      (CommitRefused s c source env replay (requiredFor s c damage) → P.refuse s c damage)

section Policy

variable [DisplayBackend β]
variable {d : Display β}

/-- What the policy asks of a completion, by what the backend answers to it. -/
def CompletionAllowed (P : MovePolicy) (d : Display β) (token : PresentationToken)
    (outcome : PresentationCompletion) (o : OutstandingPresentation) : Prop :=
  (outcome = .presented → (DisplayBackend.completeSubmission d.backend token).2 = .ok () →
      P.present d.state token.outputId o) ∧
    ((outcome ≠ .presented ∨
        ∃ reason, (DisplayBackend.completeSubmission d.backend token).2 = .error reason) →
      P.fail d.state token.outputId o)

/-- What the policy asks of the frame an output is about to submit: nothing, unless
the backend takes it and completes it there and then. -/
def SubmitAllowed (P : MovePolicy) (d : Display β) (id : String) : Prop :=
  ∀ r scene pixels token backend, Submission d.state id r scene pixels token →
    DisplayBackend.submitFrame d.backend (composedFrame r id scene pixels) =
      (backend, .ok token) →
    DisplayBackend.completesImmediately backend = true →
    CompletionAllowed P
      ⟨submitState d.state id (composedFrame r id scene pixels) token scene.commitId, backend⟩
      token .presented ⟨token, composedFrame r id scene pixels⟩

def PublishAllowed (P : MovePolicy) (d : Display β) (id : String) : Prop :=
  ∀ direct, SubmitAllowed P ⟨countComposition d.state direct, d.backend⟩ id

/-- The same for a tick, when it makes the output eligible. -/
def TickAllowed (P : MovePolicy) (d : Display β) (id : String) (generation now tick : Nat) :
    Prop :=
  (advancePresentation d.state id generation now tick).2 = .ok true →
    PublishAllowed P ⟨(advancePresentation d.state id generation now tick).1, d.backend⟩ id

/-- The tick that drives an output for feedback. -/
def DriveAllowed (P : MovePolicy) (d : Display β) (env : Env) (id : String) : Prop :=
  ∀ r, d.state.outputs.get? id = some r →
    TickAllowed P d id r.state.outputGeneration (driveClock env r)
      (satAdd r.scheduler.lastTickSequence 1)

/-- A tick is allowed when every frame it can submit may complete. -/
theorem TickAllowed.of_submission {id : String}
    (h : ∀ s r scene pixels token, s.lastScene = d.state.lastScene →
      s.presentationObligations = d.state.presentationObligations →
      Submission s id r scene pixels token →
      P.present (submitState s id (composedFrame r id scene pixels) token scene.commitId) id
          ⟨token, composedFrame r id scene pixels⟩ ∧
        P.fail (submitState s id (composedFrame r id scene pixels) token scene.commitId) id
          ⟨token, composedFrame r id scene pixels⟩) (generation now tick : Nat) :
    TickAllowed P d id generation now tick := by
  intro _ direct r scene pixels token backend hs _ _
  obtain ⟨hlast, hobligations⟩ := advancePresentation_frame d.state id generation now tick
  have hcore := countComposition_core (advancePresentation d.state id generation now tick).1 direct
  obtain ⟨hpresent, hfail⟩ := h _ r scene pixels token (hcore.lastScene.trans hlast)
    (hcore.obligations.trans hobligations) hs
  unfold CompletionAllowed
  rw [hs.tokenOutput]
  exact ⟨fun _ _ => hpresent, fun _ => hfail⟩

/-- What the policy asks of a command, in the state the command finds. -/
def CommandAllowed (P : MovePolicy) (d : Display β) (env : Env) (source : ServiceRole) :
    DisplayCommand → Prop
  | .commitScene c => AcceptAllowed P d.state env source (canonicalCommit c)
  | .reconcileScene epoch c =>
    epoch = d.state.displayEpoch → AcceptAllowed P d.state env source (canonicalCommit c)
  | .completePresentation token outcome =>
    ∀ o, preflightPresentationToken d.state token = .ok o →
      CompletionAllowed P d token outcome o
  | .advancePresentation id generation now tick => TickAllowed P d id generation now tick
  | .getPresentationFeedback commitId =>
    d.state.presentationFeedbacks.get? commitId = none →
      ∀ o id, d.state.presentationObligations.get? commitId = some o →
        o.requiredOutputs.contains id = true → DriveAllowed P d env id
  | .configureOutput _ => P.registry
  | .removeOutput _ _ => P.registry
  | .beginReconciliation _ => P.registry
  | _ => True

def ChangesRegistry : DisplayCommand → Prop
  | .configureOutput _ => True
  | .removeOutput _ _ => True
  | .beginReconciliation _ => True
  | _ => False

theorem commandAllowed_freely {registry : Prop} {source : ServiceRole} {command : DisplayCommand}
    (h : ChangesRegistry command → registry) :
    CommandAllowed (freely registry) d env source command := by
  cases command with
  | commitScene c => exact fun _ _ _ _ => ⟨fun _ => trivial, fun _ => trivial⟩
  | reconcileScene epoch c => exact fun _ _ _ _ _ => ⟨fun _ => trivial, fun _ => trivial⟩
  | completePresentation token outcome =>
    exact fun _ _ => ⟨fun _ _ => trivial, fun _ => trivial⟩
  | advancePresentation id generation now tick =>
    exact .of_submission (fun _ _ _ _ _ _ _ _ => ⟨trivial, trivial⟩) _ _ _
  | getPresentationFeedback commitId =>
    exact fun _ _ id _ _ r _ =>
      .of_submission (fun _ _ _ _ _ _ _ _ => ⟨trivial, trivial⟩) _ _ _
  | configureOutput geometry => exact h trivial
  | removeOutput id generation => exact h trivial
  | beginReconciliation epoch => exact h trivial
  | _ => trivial

end Policy

section Steps

variable {P : MovePolicy}
variable {s : DisplayState} {scene : CommittedSceneState} {r : OutputRuntime}

theorem acceptScene_moves (d : Display β) (env : Env) (source : ServiceRole) (c : SceneCommit)
    (hP : AcceptAllowed P d.state env source (canonicalCommit c)) :
    Moves P d.state (d.acceptScene env source c).1.state := by
  have hcases := acceptCanonical_cases d.state (canonicalCommit c) source env
  change Moves P d.state (acceptCanonical d.state (canonicalCommit c) source env).1
  generalize acceptCanonical d.state (canonicalCommit c) source env = result at hcases ⊢
  cases hcases with
  | rejected reason => exact .refl
  | idempotent => exact .refl
  | refused replay store damage h refusal =>
    exact .single (.refuse h ((hP _ _ _ h).2 refusal))
  | accepted replay store damage h recorded taken record =>
    have hp := (hP _ _ _ h).1 taken
    cases replay with
    | none => exact .single (.accept h hp record)
    | some commitId =>
      obtain rfl := Except.ok.inj record
      exact .single (.hydrate h hp)

theorem reconcileScene_moves (d : Display β) (env : Env) (source : ServiceRole) (epoch : Nat)
    (c : SceneCommit)
    (haccept : epoch = d.state.displayEpoch →
      Moves P d.state (d.acceptScene env source c).1.state) :
    Moves P d.state (d.reconcileScene env source epoch c).1.state := by
  unfold Display.reconcileScene
  split_ifs with hepoch
  · exact .refl
  · have hmoves := haccept (not_not.mp hepoch)
    split
    · rename_i hd
      rw [hd] at hmoves
      exact hmoves
    · rename_i hd
      rw [hd] at hmoves
      exact hmoves.tail (.bookkeeping ⟨rfl, rfl, rfl, rfl, rfl, rfl, rfl, rfl, rfl⟩)
    · rename_i hd
      rw [hd] at hmoves
      exact hmoves

theorem preflight_inFlight {o : OutstandingPresentation}
    (h : preflightPresentationToken s token = .ok o) :
    ∃ r, InFlight s token.outputId r o ∧ o.token = token := by
  unfold preflightPresentationToken at h
  split at h
  · cases h
  · rename_i hvalid
    split at h
    · cases h
    · rename_i r hr
      split_ifs at h
      split at h
      · cases h
      · rename_i o' ho
        split_ifs at h with htoken
        obtain rfl := Except.ok.inj h
        have heq := not_not.mp htoken
        exact ⟨r, ⟨hr, ho, heq ▸ hvalid⟩, heq⟩

theorem completePresentation_moves {outcome : PresentationCompletion}
    (hP : ∀ o, preflightPresentationToken s token = .ok o →
      (outcome = .presented → P.present s token.outputId o) ∧
        (outcome ≠ .presented → P.fail s token.outputId o)) :
    Moves P s (completePresentation s env token outcome).1 := by
  unfold completePresentation
  cases hpre : preflightPresentationToken s token with
  | error result => exact .refl
  | ok o =>
    obtain ⟨r, hflight, _⟩ := preflight_inFlight hpre
    obtain ⟨hpresent, hfail⟩ := hP o hpre
    cases outcome with
    | presented => exact .single (.present hflight (hpresent rfl))
    | failed reason => exact .single (.fail hflight (hfail (by simp)))
    | superseded => exact .single (.fail hflight (hfail (by simp)))
    | staleGeneration => exact .single (.fail hflight (hfail (by simp)))
    | unknownToken => exact .single (.fail hflight (hfail (by simp)))
    | backendUnavailable => exact .single (.fail hflight (hfail (by simp)))

variable [DisplayBackend β]

theorem finishBackendCompletion_moves (d : Display β) (env : Env) (token : PresentationToken)
    (outcome : PresentationCompletion)
    (hP : ∀ o, preflightPresentationToken d.state token = .ok o →
      CompletionAllowed P d token outcome o) :
    Moves P d.state (d.finishBackendCompletion env token outcome).1.state := by
  unfold Display.finishBackendCompletion
  split
  · exact .refl
  · split_ifs with houtcome
    · split
      · rename_i reason hcomplete
        refine completePresentation_moves fun o ho => ⟨?_, fun _ => ?_⟩
        · intro h
          cases h
        · exact (hP o ho).2 (.inr ⟨reason, by rw [hcomplete]⟩)
      · rename_i hcomplete
        refine completePresentation_moves fun o ho => ⟨fun _ => ?_, fun h => absurd rfl h⟩
        exact (hP o ho).1 houtcome (by rw [hcomplete])
    · exact completePresentation_moves fun o ho =>
        ⟨fun h => absurd h houtcome, fun h => (hP o ho).2 (.inl h)⟩

theorem advancePresentation_moves (s : DisplayState) (id : String)
    (generation now tick : Nat) : Moves P s (advancePresentation s id generation now tick).1 := by
  unfold advancePresentation
  split
  · exact .refl
  · rename_i r hr
    split_ifs
    · exact .refl
    · refine .single (.quiet fun r' hr' => ?_)
      obtain rfl := Option.some.inj (hr.symm.trans hr')
      exact OutputRuntime.quiet_advanceRuntime r id now tick

theorem finishSubmitted_state (d : Display β) (env : Env) (id : String)
    (token : PresentationToken) :
    (d.finishSubmitted env id token).1 =
      if DisplayBackend.completesImmediately d.backend then
        (d.finishBackendCompletion env token .presented).1
      else d := by
  unfold Display.finishSubmitted
  dsimp only
  split_ifs <;> rfl

private theorem modifyOutput_self {id : String} (h : s.outputs.get? id = some r)
    (f : OutputRuntime → OutputRuntime) : (s.modifyOutput id f).outputs.get? id = some (f r) := by
  rw [DisplayState.modifyOutput_get?, if_pos rfl, h, Option.map_some]

theorem submitComposed_moves (d : Display β) (env : Env) {id : String} {pixels : List UInt32}
    (hsub : ∀ token, token.validate = .ok () → token.outputId = id →
      token.outputGeneration = r.state.outputGeneration →
      token.sceneGeneration = scene.sceneGeneration →
      Submission d.state id r scene pixels token) (hr : d.state.outputs.get? id = some r)
    (hd : r.pendingDamage ≠ []) (hP : SubmitAllowed P d id) :
    Moves P d.state
      (d.submitComposed env id (composedFrame r id scene pixels) scene.commitId).1.state := by
  unfold Display.submitComposed
  split
  · exact .single (.submitFailed hr hd rfl)
  · rename_i backend token hsubmit
    split
    · exact .refl
    · rename_i hvalid
      split_ifs with hmatch
      · exact .refl
      · have hid : token.outputId = id := by
          by_contra hne
          exact hmatch (.inl hne)
        have hgen : token.outputGeneration = r.state.outputGeneration := by
          by_contra hne
          exact hmatch (.inr (.inl hne))
        have hscene : token.sceneGeneration = scene.sceneGeneration := by
          by_contra hne
          exact hmatch (.inr (.inr hne))
        have hsubmission := hsub token hvalid hid hgen hscene
        have hmove : Moves P d.state (submitState d.state id (composedFrame r id scene pixels)
            token scene.commitId) := .single (.submit hsubmission)
        rw [finishSubmitted_state]
        split_ifs with himm
        · refine hmove.trans (finishBackendCompletion_moves ⟨submitState d.state id
            (composedFrame r id scene pixels) token scene.commitId, backend⟩ env token .presented
            fun o ho => ?_)
          have hout : (submitState d.state id (composedFrame r id scene pixels) token
              scene.commitId).outputs.get? id =
              some (submittedRuntime (composedFrame r id scene pixels) token r) :=
            modifyOutput_self hr _
          obtain ⟨r', hflight, _⟩ := preflight_inFlight ho
          have hr' : r' = submittedRuntime (composedFrame r id scene pixels) token r := by
            have hget := hflight.output
            rw [hid] at hget
            exact Option.some.inj (hget.symm.trans hout)
          have ho' : o = ⟨token, composedFrame r id scene pixels⟩ := by
            have hstanding := hflight.outstanding
            rw [hr'] at hstanding
            exact (Option.some.inj hstanding).symm
          subst ho'
          exact hP r scene pixels token backend hsubmission hsubmit himm
        · exact hmove

theorem handleMultiOutputCommit_moves (d : Display β) (env : Env) (id : String)
    (hlast : d.state.lastScene = some scene) (hP : PublishAllowed P d id) :
    Moves P d.state (d.handleMultiOutputCommit env scene id).1.state := by
  unfold Display.handleMultiOutputCommit
  split_ifs with hname
  · exact .refl
  · dsimp only
    split
    · exact .refl
    · rename_i r hr
      split_ifs with hdisabled houtstanding hdamage
      · exact .refl
      · exact .single (.quiet fun r' _ => OutputRuntime.quiet_schedulerState _ r')
      · exact .single (.quiet fun r' _ => OutputRuntime.quiet_schedulerState _ r')
      · split
        · exact .refl
        · rename_i hvalidated
          have hcore := countComposition_core d.state
            (isDirectScanout (canonicalizeSurfaces scene.surfaces) r.state)
          have hcount : Moves P d.state (countComposition d.state
              (isDirectScanout (canonicalizeSurfaces scene.surfaces) r.state)) :=
            .single (.bookkeeping hcore)
          split
          · exact hcount
          · rename_i pixels hcomposed
            refine hcount.trans (submitComposed_moves ⟨countComposition d.state
              (isDirectScanout (canonicalizeSurfaces scene.surfaces) r.state), d.backend⟩ env
              ?_ ?_ ?_ (hP _))
            · intro token hvalid hid hgen hscene
              exact ⟨hcore.outputs ▸ hr, by simpa using hdisabled,
                Option.not_isSome_iff_eq_none.mp houtstanding, by simpa using hdamage,
                hcore.lastScene.trans hlast, by rw [hcore.pixelTransport]; exact hvalidated,
                by rw [hcore.pixelTransport]; exact hcomposed, hvalid, hid, hgen, hscene⟩
            · exact hcore.outputs ▸ hr
            · simpa using hdamage

theorem advanceAndPublish_moves (d : Display β) (env : Env) (id : String)
    (generation now tick : Nat) (hP : TickAllowed P d id generation now tick) :
    Moves P d.state (d.advanceAndPublish env id generation now tick).1.state := by
  have htick := advancePresentation_moves (P := P) d.state id generation now tick
  unfold Display.advanceAndPublish
  dsimp only
  split
  · exact htick
  · exact htick
  · rename_i heligible
    split
    · exact htick
    · rename_i scene hscene
      exact htick.trans (handleMultiOutputCommit_moves
        ⟨(advancePresentation d.state id generation now tick).1, d.backend⟩ env id hscene
        (hP heligible))

theorem driveOutput_moves (d : Display β) (env : Env) {id : String}
    (hr : d.state.outputs.get? id = some r) (hlast : d.state.lastScene = some scene)
    (hP : DriveAllowed P d env id) : Moves P d.state (d.driveOutput env scene id r).1.state := by
  have hallowed := hP r hr
  unfold Display.driveOutput
  unfold TickAllowed at hallowed
  dsimp only
  generalize driveClock env r = now at hallowed ⊢
  generalize satAdd r.scheduler.lastTickSequence 1 = tick at hallowed ⊢
  generalize r.state.outputGeneration = generation at hallowed ⊢
  have htick := advancePresentation_moves (P := P) d.state id generation now tick
  split
  · exact htick
  · exact htick
  · rename_i heligible
    exact htick.trans (handleMultiOutputCommit_moves
      ⟨(advancePresentation d.state id generation now tick).1, d.backend⟩ env id
      ((advancePresentation_frame _ _ _ _ _).1.trans hlast) (hallowed heligible))

theorem driveOutputs_moves (d : Display β) (env : Env) (commitId : Nat) {ids : List String}
    (hone : ids.length ≤ 1) (hlast : d.state.lastScene = some scene)
    (hP : ∀ id ∈ ids, DriveAllowed P d env id) :
    Moves P d.state (Display.driveOutputs env commitId scene d ids).1.state := by
  match ids, hone with
  | [], _ => exact .refl
  | [id], _ =>
    unfold Display.driveOutputs
    split
    · exact .refl
    · rename_i r hr
      have hdrive := driveOutput_moves d env hr hlast (hP id (by simp))
      dsimp only
      split
      · exact hdrive
      · split_ifs
        · exact hdrive
        · exact hdrive

/-- Every obligation waits for exactly one output, and none has been presented. -/
def SingleOutput (s : DisplayState) : Prop :=
  ∀ c o, s.presentationObligations.get? c = some o →
    ∃ id, o.requiredOutputs = OrdSet.single id ∧ o.presentedOutputs = OrdMap.empty

theorem getPresentationFeedback_moves (d : Display β) (env : Env) (commitId : Nat)
    (hone : SingleOutput d.state)
    (hP : d.state.presentationFeedbacks.get? commitId = none →
      ∀ o id, d.state.presentationObligations.get? commitId = some o →
        o.requiredOutputs.contains id = true → DriveAllowed P d env id) :
    Moves P d.state (d.getPresentationFeedback env commitId).1.state := by
  have hdrive : d.state.presentationFeedbacks.get? commitId = none → Moves P d.state (d.drivePresentationForFeedback env commitId).1.state := by
    intro hnone
    unfold Display.drivePresentationForFeedback
    split_ifs
    · exact .refl
    · split
      · exact .refl
      · rename_i o ho
        split
        · exact .refl
        · rename_i scene hscene
          obtain ⟨id, hid, hpresented⟩ := hone commitId o ho
          have hdiff : OrdSet.difference o.requiredOutputs o.presentedOutputs = [id] := by
            rw [hid, hpresented]
            rfl
          rw [hdiff]
          refine driveOutputs_moves d env commitId (by simp) hscene fun id' hid' => ?_
          rw [List.mem_singleton.mp hid']
          refine hP hnone o id ho ?_
          rw [hid]
          exact OrdSet.contains_single.mpr rfl
  unfold Display.getPresentationFeedback
  split
  · exact .refl
  · rename_i hnone
    have hmoves := hdrive hnone
    dsimp only
    split
    · exact hmoves
    · split
      · exact hmoves
      · split_ifs
        · exact hmoves
        · exact hmoves

theorem SameCore.refl (s : DisplayState) : SameCore s s :=
  ⟨rfl, rfl, rfl, rfl, rfl, rfl, rfl, rfl, rfl⟩

theorem connectOutput_moves (hreg : P.registry) (d : Display β) (instanceId : Nat) (id : String)
    (geometry : OutputGeometry) (cadence : PresentationCadence) :
    Moves P d.state (d.connectOutput instanceId id geometry cadence).1.state := by
  unfold Display.connectOutput
  split
  · exact .refl
  · rename_i nextState hcheck
    split
    · exact .refl
    · split
      · exact .refl
      · rename_i bounds hb
        obtain ⟨hid, _, hgeometry⟩ := checkConnected_ok hcheck
        have hid : nextState.outputId = id := by
          rw [hgeometry]
          exact hid
        exact .single (.connect hreg hid)

theorem resetBackend_moves (hreg : P.registry) (d : Display β) (instanceId : Nat) :
    Moves P d.state (d.resetBackend instanceId).state := by
  unfold Display.resetBackend
  generalize (d.state.outputs.filter fun _ r => r.backendInstanceId = instanceId).entries = l
  induction l generalizing d with
  | nil => exact .refl
  | cons e l ih =>
    rw [List.foldl_cons]
    exact Relation.ReflTransGen.head (.drop hreg) (ih (d.dropOutput e.1 e.2))

theorem applyLifecycle_moves (hreg : P.registry) (d : Display β) (event : BackendOutputEvent) :
    Moves P d.state (d.applyLifecycle event).1.state := by
  cases event with
  | connected i id q geometry cadence => exact connectOutput_moves hreg d i id geometry cadence
  | reconfigured i id q geometry cadence => exact connectOutput_moves hreg d i id geometry cadence
  | disabled i id q generation =>
    simp only [Display.applyLifecycle, Display.disableOutput]
    split
    · exact .refl
    · split_ifs
      · exact .refl
      · exact .single (.disable hreg)
  | disconnected i id q generation =>
    simp only [Display.applyLifecycle, Display.disconnectOutput]
    split
    · exact .refl
    · split_ifs
      · exact .refl
      · exact .single (.drop hreg)
  | backendReset i q => exact resetBackend_moves hreg d i

theorem adoptEpoch_core {instanceId : Nat} (h : adoptEpoch s instanceId = some s') :
    SameCore s s' := by
  unfold adoptEpoch at h
  split_ifs at h
  · obtain rfl := Option.some.inj h
    exact ⟨rfl, rfl, rfl, rfl, rfl, rfl, rfl, rfl, rfl⟩
  · obtain rfl := Option.some.inj h
    exact .refl s

section

variable (hreg : P.registry) (d : Display β)
include hreg d

theorem applyInSequence_moves (event : BackendOutputEvent) :
    Moves P d.state (d.applyInSequence event).1.state := by
  have hlife := applyLifecycle_moves hreg d event
  unfold Display.applyInSequence
  split
  · rename_i hd
    rw [hd] at hlife
    exact hlife
  · rename_i hd
    rw [hd] at hlife
    exact hlife.tail (.bookkeeping ⟨rfl, rfl, rfl, rfl, rfl, rfl, rfl, rfl, rfl⟩)

theorem applyBackendOutputEvent_moves (event : BackendOutputEvent) :
    Moves P d.state (d.applyBackendOutputEvent event).1.state := by
  unfold Display.applyBackendOutputEvent
  split
  · exact .refl
  · rename_i s hs
    have hadopt : Moves P d.state s := .single (.bookkeeping (adoptEpoch_core hs))
    dsimp only
    split
    · exact hadopt.trans (applyInSequence_moves hreg ⟨s, d.backend⟩ event)
    · split_ifs
      · exact hadopt
      · exact hadopt
      · exact hadopt.trans (applyInSequence_moves hreg ⟨s, d.backend⟩ event)

theorem beginReconciliation_moves (epoch : Nat) :
    Moves P d.state (d.beginReconciliation epoch).1.state := by
  have hretire : Moves P d.state d.retireAllRuntimeSubmissions.state := .single .retireAll
  unfold Display.beginReconciliation
  dsimp only
  split
  · exact hretire
  · rename_i s hs
    refine hretire.trans ?_
    unfold beginRestart at hs
    split_ifs at hs
    · obtain rfl := Except.ok.inj hs
      exact .head .clearFeedbacks
        (.single (.bookkeeping ⟨rfl, rfl, rfl, rfl, rfl, rfl, rfl, rfl, rfl⟩))
    · obtain rfl := Except.ok.inj hs
      exact .head .clearFeedbacks (.head (.clearOutputs hreg)
        (.single (.bookkeeping ⟨rfl, rfl, rfl, rfl, rfl, rfl, rfl, rfl, rfl⟩)))

theorem outputCommand_moves (event : BackendOutputEvent) (done : DisplayEvent) :
    Moves P d.state (d.outputCommand event done).1.state := by
  have happly := applyBackendOutputEvent_moves hreg d event
  unfold Display.outputCommand
  split
  · rename_i hd
    rw [hd] at happly
    exact happly
  · rename_i hd
    rw [hd] at happly
    exact happly
  · rename_i hd
    rw [hd] at happly
    exact happly

end

theorem handleDisplayCommand_moves (d : Display β) (env : Env) (source : ServiceRole)
    (topologySequence : Nat) (command : DisplayCommand) (hone : SingleOutput d.state)
    (hP : CommandAllowed P d env source command) :
    Moves P d.state (d.handleDisplayCommand env source topologySequence command).1.state := by
  cases command with
  | getReconciliation => exact .refl
  | getOutputTopology => exact .refl
  | beginReconciliation epoch => exact beginReconciliation_moves hP d epoch
  | reconcileScene epoch c =>
    exact reconcileScene_moves d env source epoch c fun hepoch =>
      acceptScene_moves d env source c (hP hepoch)
  | advancePresentation id generation now tick =>
    exact advanceAndPublish_moves d env id generation now tick hP
  | completePresentation token outcome =>
    exact finishBackendCompletion_moves d env token outcome hP
  | configureOutput geometry => exact outputCommand_moves hP d _ _
  | removeOutput id generation => exact outputCommand_moves hP d _ _
  | commitScene c => exact acceptScene_moves d env source c hP
  | getSceneSnapshot output => exact .refl
  | getPresentationFeedback commitId =>
    exact getPresentationFeedback_moves d env commitId hone hP

end Steps

end TuffXwin.Displayd
