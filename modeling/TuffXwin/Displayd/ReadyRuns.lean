import TuffXwin.Displayd.Readiness
import TuffXwin.Displayd.RegistryFrames

/-! The reconciliation state over whole runs. Only the completion of a presented frame
turns it ready, and every restart, reconciliation or reconciled scene takes that back. -/

namespace TuffXwin.Displayd
open Lib

variable {command : DisplayCommand} {answer : DisplayEvent} {s : DisplayState}

/-- The second state is the one the completion of a presented frame leaves, which was not
ready before it; the completion is newer than anything the first state has seen. -/
def CompletedAll (s s' : DisplayState) : Prop :=
  ∃ t env id r o, s.history <:+ t.history ∧ InFlight t id r o ∧
    t.reconciliationState ≠ .ready ∧ s' = presentOutput t env o id

/-- Between two states the reconciliation state turns ready by a completion only, and
the completion is the last thing that happens. -/
structure ReadyByCompletion (s s' : DisplayState) : Prop where
  cause : s'.reconciliationState = .ready → s.reconciliationState = .ready ∨ CompletedAll s s'

/-- No frame has been presented and the reconciliation state is as it was. -/
structure Unannounced (s s' : DisplayState) : Prop where
  reconciliationState : s'.reconciliationState = s.reconciliationState
  history : s'.history = s.history

theorem Unannounced.refl (s : DisplayState) : Unannounced s s := ⟨rfl, rfl⟩

theorem Unannounced.trans {a b c : DisplayState} (h : Unannounced a b) (h' : Unannounced b c) :
    Unannounced a c :=
  ⟨h'.reconciliationState.trans h.reconciliationState, h'.history.trans h.history⟩

namespace ReadyByCompletion

variable {s t s' : DisplayState}

theorem of_eq (h : s'.reconciliationState = s.reconciliationState) : ReadyByCompletion s s' :=
  ⟨fun hready => .inl (h ▸ hready)⟩

theorem refl (s : DisplayState) : ReadyByCompletion s s := .of_eq rfl

theorem of_ne (h : s'.reconciliationState ≠ .ready) : ReadyByCompletion s s' :=
  ⟨fun hready => absurd hready h⟩

/-- What happens before without announcing anything may be left out. -/
theorem after (h : ReadyByCompletion t s')
    (heq : t.reconciliationState = s.reconciliationState)
    (hhistory : s.history <:+ t.history) : ReadyByCompletion s s' := by
  refine ⟨fun hready => ?_⟩
  cases h.cause hready with
  | inl hbefore => exact .inl (heq ▸ hbefore)
  | inr hcompleted =>
    obtain ⟨u, env, id, r, o, hsuffix, hflight, hne, heq'⟩ := hcompleted
    exact .inr ⟨u, env, id, r, o, hhistory.trans hsuffix, hflight, hne, heq'⟩

theorem after_unannounced (h : ReadyByCompletion t s') (hs : Unannounced s t) :
    ReadyByCompletion s s' :=
  h.after hs.reconciliationState (hs.history ▸ List.suffix_refl _)

end ReadyByCompletion

section Scenes

variable {β : Type}

theorem acceptScene_reconciliation (d : Display β) (env : Env) (source : ServiceRole)
    (c : SceneCommit) :
    (d.acceptScene env source c).1.state.reconciliationState = d.state.reconciliationState := by
  have hcases := acceptCanonical_cases d.state (canonicalCommit c) source env
  change (acceptCanonical d.state (canonicalCommit c) source env).1.reconciliationState =
    d.state.reconciliationState
  generalize acceptCanonical d.state (canonicalCommit c) source env = result at hcases ⊢
  cases hcases with
  | rejected reason => rfl
  | idempotent => rfl
  | refused replay store damage h refusal =>
    rw [rebind_frame]
  | accepted replay store damage h recorded taken record =>
    cases replay with
    | none => exact (accept_committed store record).reconciliationState
    | some commitId =>
      obtain rfl := Except.ok.inj record
      exact (hydrate_committed ..).reconciliationState

/-- The acceptance path never answers for the reconciliation. -/
theorem acceptScene_answer (d : Display β) (env : Env) (source : ServiceRole) (c : SceneCommit)
    (epoch generation count : Nat) :
    (d.acceptScene env source c).2 ≠ .ok (.reconciled epoch generation count) := by
  intro hanswer
  rcases acceptCanonical_answer hanswer with ⟨_, hrejected⟩ | hcommitted
  · cases hrejected
  · exact hcommitted

/-- A reconciled scene puts the state back to waiting, any other leaves it. -/
theorem reconcileScene_reconciliation (d : Display β) (env : Env) (source : ServiceRole)
    (epoch : Nat) (c : SceneCommit) :
    (d.reconcileScene env source epoch c).1.state.reconciliationState =
        .reconciledAwaitingPresentation ∨
      (d.reconcileScene env source epoch c).1.state.reconciliationState =
          d.state.reconciliationState ∧
        ∀ e g n, (d.reconcileScene env source epoch c).2 ≠ .ok (.reconciled e g n) := by
  have haccept := acceptScene_reconciliation d env source c
  have hanswer := acceptScene_answer d env source c
  unfold Display.reconcileScene
  split_ifs
  · exact .inr ⟨rfl, by simp⟩
  · split
    · rename_i hd
      rw [hd] at haccept
      exact .inr ⟨haccept, by simp⟩
    · exact .inl rfl
    · rename_i hd
      rw [hd] at haccept hanswer
      exact .inr ⟨haccept, hanswer⟩

end Scenes

section Commands

variable {β : Type} [DisplayBackend β]

theorem completePresentation_ready (s : DisplayState) (env : Env) (token : PresentationToken)
    (outcome : PresentationCompletion) :
    ReadyByCompletion s (completePresentation s env token outcome).1 := by
  unfold completePresentation
  cases hpre : preflightPresentationToken s token with
  | error result => exact .refl s
  | ok o =>
    obtain ⟨r, hflight, _⟩ := preflight_inFlight hpre
    cases outcome with
    | presented =>
      refine ⟨fun hready => ?_⟩
      by_cases hbefore : s.reconciliationState = .ready
      · exact .inl hbefore
      · exact .inr ⟨s, env, token.outputId, r, o, List.suffix_refl _, hflight, hbefore, rfl⟩
    | _ => exact .of_eq rfl

theorem finishBackendCompletion_ready (d : Display β) (env : Env) (token : PresentationToken)
    (outcome : PresentationCompletion) :
    ReadyByCompletion d.state (d.finishBackendCompletion env token outcome).1.state := by
  unfold Display.finishBackendCompletion
  split
  · exact .refl _
  · split_ifs
    · split
      · exact completePresentation_ready ..
      · exact completePresentation_ready ..
    · exact completePresentation_ready ..

theorem finishSubmitted_ready (d : Display β) (env : Env) (id : String)
    (token : PresentationToken) :
    ReadyByCompletion d.state (d.finishSubmitted env id token).1.state := by
  rw [finishSubmitted_state]
  split_ifs
  · exact finishBackendCompletion_ready ..
  · exact .refl _

theorem submitComposed_ready (d : Display β) (env : Env) (id : String)
    (frame : FramePublication) (sceneCommitId : Nat) :
    ReadyByCompletion d.state (d.submitComposed env id frame sceneCommitId).1.state := by
  unfold Display.submitComposed
  split
  · exact .of_eq rfl
  · split
    · exact .of_eq rfl
    · split_ifs
      · exact .of_eq rfl
      · exact (finishSubmitted_ready ..).after rfl (List.suffix_cons _ _)

theorem countComposition_unannounced (s : DisplayState) (direct : Bool) :
    Unannounced s (countComposition s direct) := by
  unfold countComposition
  split_ifs
  · exact ⟨rfl, rfl⟩
  · exact ⟨rfl, rfl⟩

theorem handleMultiOutputCommit_ready (d : Display β) (env : Env) (scene : CommittedSceneState)
    (id : String) :
    ReadyByCompletion d.state (d.handleMultiOutputCommit env scene id).1.state := by
  unfold Display.handleMultiOutputCommit
  split_ifs
  · exact .refl _
  · dsimp only
    split
    · exact .refl _
    · split_ifs
      · exact .refl _
      · exact .of_eq rfl
      · exact .of_eq rfl
      · split
        · exact .refl _
        · split
          · exact .of_eq (countComposition_unannounced ..).reconciliationState
          · exact (submitComposed_ready ..).after_unannounced
              (countComposition_unannounced ..)

theorem advancePresentation_unannounced (s : DisplayState) (id : String)
    (generation now tick : Nat) :
    Unannounced s (advancePresentation s id generation now tick).1 := by
  unfold advancePresentation
  split
  · exact .refl s
  · split_ifs
    · exact .refl s
    · exact ⟨rfl, rfl⟩

section

variable (d : Display β) (env : Env)
include d env

theorem advanceAndPublish_ready (id : String) (generation now tick : Nat) :
    ReadyByCompletion d.state (d.advanceAndPublish env id generation now tick).1.state := by
  have htick := advancePresentation_unannounced d.state id generation now tick
  unfold Display.advanceAndPublish
  dsimp only
  split
  · exact .of_eq htick.reconciliationState
  · exact .of_eq htick.reconciliationState
  · split
    · exact .of_eq htick.reconciliationState
    · exact (handleMultiOutputCommit_ready ..).after_unannounced htick

theorem driveOutput_ready (scene : CommittedSceneState) (id : String) (r : OutputRuntime) :
    ReadyByCompletion d.state (d.driveOutput env scene id r).1.state := by
  have htick := advancePresentation_unannounced d.state id r.state.outputGeneration
    (driveClock env r) (satAdd r.scheduler.lastTickSequence 1)
  unfold Display.driveOutput
  dsimp only
  split
  · exact .of_eq htick.reconciliationState
  · exact .of_eq htick.reconciliationState
  · exact (handleMultiOutputCommit_ready ..).after_unannounced htick

/-- An obligation waits for one output, so at most one is driven. -/
theorem driveOutputs_ready (commitId : Nat) (scene : CommittedSceneState) {ids : List String}
    (hone : ids.length ≤ 1) :
    ReadyByCompletion d.state (Display.driveOutputs env commitId scene d ids).1.state := by
  match ids, hone with
  | [], _ => exact .refl _
  | [id], _ =>
    unfold Display.driveOutputs
    split
    · exact .refl _
    · rename_i r hr
      have hdrive := driveOutput_ready d env scene id r
      dsimp only
      split
      · exact hdrive
      · split_ifs
        · exact hdrive
        · exact hdrive

theorem drivePresentationForFeedback_ready (commitId : Nat) (hone : SingleOutput d.state) :
    ReadyByCompletion d.state (d.drivePresentationForFeedback env commitId).1.state := by
  unfold Display.drivePresentationForFeedback
  split_ifs
  · exact .refl _
  · split
    · exact .refl _
    · rename_i o ho
      split
      · exact .refl _
      · obtain ⟨id, hid, hpresented⟩ := hone commitId o ho
        have hdiff : OrdSet.difference o.requiredOutputs o.presentedOutputs = [id] := by
          rw [hid, hpresented]
          rfl
        rw [hdiff]
        exact driveOutputs_ready d env commitId _ (by simp)

theorem getPresentationFeedback_ready (commitId : Nat) (hone : SingleOutput d.state) :
    ReadyByCompletion d.state (d.getPresentationFeedback env commitId).1.state := by
  have hdrive := drivePresentationForFeedback_ready d env commitId hone
  unfold Display.getPresentationFeedback
  split
  · exact .refl _
  · dsimp only
    split
    · exact hdrive
    · split
      · exact hdrive
      · split_ifs
        · exact hdrive
        · exact hdrive

end

/-! Output events announce nothing. -/

theorem registerOutput_unannounced (s : DisplayState) (id : String) (runtime : OutputRuntime) :
    Unannounced s (registerOutput s id runtime) := by
  obtain ⟨s₁, hcases, rfl⟩ := registerOutput_obligations s id runtime
  cases hcases with
  | inl heq =>
    rw [heq]
    exact ⟨rfl, rfl⟩
  | inr heq =>
    rw [heq, rebind_frame]
    exact ⟨rfl, rfl⟩

theorem unannounced_registry : RegistryRelation Unannounced where
  refl := .refl
  trans := .trans
  adopted _ _ := ⟨rfl, rfl⟩
  noted _ _ := ⟨rfl, rfl⟩
  registered s id _ _ _ _ _ := registerOutput_unannounced s id _
  disabled _ _ := ⟨rfl, rfl⟩
  dropped _ _ := ⟨rfl, rfl⟩

theorem beginReconciliation_reconciliation (d : Display β) (epoch : Nat) :
    (d.beginReconciliation epoch).1.state.reconciliationState = .recovering ∨
      (d.beginReconciliation epoch).1.state.reconciliationState =
          d.state.reconciliationState ∧
        ∃ fault, (d.beginReconciliation epoch).2 = .error fault := by
  unfold Display.beginReconciliation beginRestart
  dsimp only
  split_ifs
  · exact .inr ⟨rfl, _, rfl⟩
  · exact .inl rfl
  · exact .inl rfl

/-- The commands that start a reconciliation over, when they are answered so. -/
def StartsOver (command : DisplayCommand) (answer : DisplayEvent) : Prop :=
  match command with
  | .beginReconciliation _ => True
  | .reconcileScene _ _ => ∃ epoch generation count, answer = .reconciled epoch generation count
  | _ => False

theorem handleDisplayCommand_ready (d : Display β) (env : Env) (source : ServiceRole)
    (topologySequence : Nat) (command : DisplayCommand) (hone : SingleOutput d.state) :
    ReadyByCompletion d.state
      (d.handleDisplayCommand env source topologySequence command).1.state := by
  cases command with
  | getReconciliation => exact .refl _
  | getOutputTopology => exact .refl _
  | beginReconciliation epoch =>
    cases beginReconciliation_reconciliation d epoch with
    | inl hbegun => exact .of_ne (by dsimp only [Display.handleDisplayCommand]; rw [hbegun]; simp)
    | inr hkept => exact .of_eq hkept.1
  | reconcileScene epoch c =>
    cases reconcileScene_reconciliation d env source epoch c with
    | inl hwaiting =>
      exact .of_ne (by dsimp only [Display.handleDisplayCommand]; rw [hwaiting]; simp)
    | inr hkept => exact .of_eq hkept.1
  | advancePresentation id generation now tick => exact advanceAndPublish_ready ..
  | completePresentation token outcome => exact finishBackendCompletion_ready ..
  | configureOutput geometry =>
    exact .of_eq (unannounced_registry.outputCommand d _ _).reconciliationState
  | removeOutput id generation =>
    exact .of_eq (unannounced_registry.outputCommand d _ _).reconciliationState
  | commitScene c => exact .of_eq (acceptScene_reconciliation ..)
  | getSceneSnapshot output => exact .refl _
  | getPresentationFeedback commitId => exact getPresentationFeedback_ready d env commitId hone

theorem handleDisplayCommand_startsOver {d : Display β} {env : Env} {source : ServiceRole}
    {topologySequence : Nat}
    (hanswer : (d.handleDisplayCommand env source topologySequence command).2 = .ok answer)
    (hstarts : StartsOver command answer) :
    (d.handleDisplayCommand env source topologySequence command).1.state.reconciliationState ≠
      .ready := by
  cases command with
  | beginReconciliation epoch =>
    dsimp only [Display.handleDisplayCommand] at hanswer ⊢
    cases beginReconciliation_reconciliation d epoch with
    | inl hbegun =>
      rw [hbegun]
      simp
    | inr hkept =>
      obtain ⟨_, fault, hfault⟩ := hkept
      rw [hfault] at hanswer
      cases hanswer
  | reconcileScene epoch c =>
    dsimp only [Display.handleDisplayCommand] at hanswer ⊢
    obtain ⟨e, g, n, rfl⟩ := hstarts
    cases reconcileScene_reconciliation d env source epoch c with
    | inl hwaiting =>
      rw [hwaiting]
      simp
    | inr hkept => exact absurd hanswer (hkept.2 e g n)
  | _ => exact absurd hstarts id

end Commands

theorem notePresentedObligations_reconciliation (s : DisplayState) (env : Env)
    (frame : FramePublication) (id : String) (refreshNs seq : Nat) :
    (notePresentedObligations s env frame id refreshNs seq).reconciliationState =
      s.reconciliationState := by
  rw [notePresentedObligations_eq]
  obtain ⟨feedbacks, obligations, history, hall⟩ := resolveAll_eq env refreshNs seq
    (matchingObligations s frame id)
    { s with presentationObligations := notedObligations s frame id }
  rw [hall]

/-- A completion that turns the state ready finds all enabled outputs published and
without damage. -/
theorem CompletedAll.published {s' : DisplayState} (h : CompletedAll s s')
    (hready : s'.reconciliationState = .ready) : allPublished s' = true := by
  obtain ⟨t, env, id, r, o, _, _, hne, rfl⟩ := h
  unfold presentOutput noteReady at hready ⊢
  dsimp only at hready ⊢
  split_ifs at hready ⊢ with hcheck
  · rw [Bool.and_eq_true] at hcheck
    exact hcheck.2
  · rw [notePresentedObligations_reconciliation] at hready
    exact absurd hready hne

theorem allPublished_iff :
    allPublished s = true ↔ ∀ id r, s.outputs.get? id = some r → r.disabled = false →
      r.publishedFrameId ≠ 0 ∧ r.pendingDamage = [] := by
  unfold allPublished
  rw [OrdMap.all_iff]
  refine forall_congr' fun id => forall_congr' fun r => forall_congr' fun _ => ?_
  cases r.disabled
  · simp
  · simp

namespace Server

variable {β : Type} [DisplayBackend β]
variable {srv : Server β}

/-- A step after which a reconciliation is under way anew: a restart, or a command that
starts it over. -/
def Restarts (srv : Server β) : Input β → Prop
  | .client conn =>
    srv.halted = false ∧ ∃ command answer, conn.request = some (.command command) ∧
      (srv.handleClient conn).2 = .ok (some answer) ∧ StartsOver command answer
  | .restart .. => True

theorem handleClient_ready (srv : Server β) (conn : Connection)
    (hone : SingleOutput srv.display.state) :
    ReadyByCompletion srv.display.state (srv.handleClient conn).1.display.state := by
  have hevents := unannounced_registry.applyEvents conn.accepting srv.polled.1 srv.polled.2
  have hmoves := applyEvents_moves (P := anyMove) trivial conn.accepting srv.polled.1
    srv.polled.2
  unfold handleClient
  dsimp only
  split
  · rename_i he
    rw [he] at hevents
    exact .of_eq hevents.reconciliationState
  · rename_i srv' _ he
    rw [he] at hevents hmoves
    have hone' : SingleOutput srv'.display.state :=
      hmoves.invariant (fun _ _ h hm => h.move hm) hone
    split
    · exact .of_eq hevents.reconciliationState
    · rename_i request hrequest
      cases request with
      | subscribe epoch sequence =>
        dsimp only [handleRequest]
        rw [subscribe_display]
        exact .of_eq hevents.reconciliationState
      | command command =>
        exact (handleDisplayCommand_ready srv'.display conn.env conn.source
          srv'.topologySequence command hone').after_unannounced hevents

theorem step_ready (srv : Server β) (input : Input β) (hone : SingleOutput srv.display.state) :
    ReadyByCompletion srv.display.state (srv.step input).display.state := by
  cases input with
  | client conn =>
    unfold step
    dsimp only
    split_ifs
    · exact .refl _
    · exact handleClient_ready srv conn hone
  | restart epoch keeps backend => exact .of_ne (by simp [step, start, DisplayState.load])

theorem handleClient_startsOver {conn : Connection}
    (hrequest : conn.request = some (.command command))
    (hanswer : (srv.handleClient conn).2 = .ok (some answer))
    (hstarts : StartsOver command answer) :
    (srv.handleClient conn).1.display.state.reconciliationState ≠ .ready := by
  unfold handleClient at hanswer ⊢
  dsimp only at hanswer ⊢
  split at hanswer
  · cases hanswer
  · rename_i srv' _ _
    rw [hrequest] at hanswer ⊢
    dsimp only [handleRequest] at hanswer ⊢
    have hcommand : (srv'.display.handleDisplayCommand conn.env conn.source
        srv'.topologySequence command).2 = .ok answer := by
      cases hresult : (srv'.display.handleDisplayCommand conn.env conn.source
          srv'.topologySequence command).2 with
      | error fault =>
        rw [hresult] at hanswer
        cases hanswer
      | ok event =>
        rw [hresult] at hanswer
        cases hanswer
        rfl
    exact handleDisplayCommand_startsOver hcommand hstarts

theorem step_restarts {input : Input β} (h : srv.Restarts input) :
    (srv.step input).display.state.reconciliationState ≠ .ready := by
  cases input with
  | client conn =>
    obtain ⟨hrunning, command, answer, hrequest, hanswer, hstarts⟩ := h
    unfold step
    dsimp only
    rw [if_neg (by simp [hrunning])]
    exact handleClient_startsOver hrequest hanswer hstarts
  | restart epoch keeps backend => simp [step, start, DisplayState.load]

/-- In some step of the run a frame was presented, after which all enabled outputs were
presented, and no reconciliation has been started over since. -/
def ReadySince (srv : Server β) : Prop :=
  ∃ srv₀ input, (system β).Reachable srv₀ ∧
    CompletedAll srv₀.display.state (srv₀.step input).display.state ∧
    AllPresented (srv₀.step input).display.state ∧
    (System.mk (fun s => s = srv₀.step input) step).Reach (fun s i => ¬ s.Restarts i) srv

/-- An output published and without damage has nothing in flight and nothing to retry. -/
theorem allPresented_of_published (h : (system β).Reachable srv)
    (hpublished : allPublished srv.display.state = true) : AllPresented srv.display.state := by
  intro id r hr henabled
  obtain ⟨hframe, hdamage⟩ := allPublished_iff.mp hpublished id r hr henabled
  obtain ⟨hfree, hretry⟩ := (flightDamaged_invariant.reachable h id r hr).idle hdamage
  exact ⟨hframe, hdamage, hfree, hretry⟩

theorem readySince_reachable (h : (system β).Reachable srv)
    (hready : srv.display.state.reconciliationState = .ready) : ReadySince srv := by
  induction h with
  | init hinit =>
    obtain ⟨epoch, keeps, backend, rfl⟩ := hinit
    cases hready
  | @next srv input hr _ ih =>
    have hone := singleOutput_run (P := anyMove) trivial (Run.any hr)
    cases (step_ready srv input hone).cause hready with
    | inl hbefore =>
      obtain ⟨srv₀, input₀, hr₀, hcompleted, hall, hsince⟩ := ih hbefore
      have hnot : ¬ srv.Restarts input := fun hrestarts => step_restarts hrestarts hready
      exact ⟨srv₀, input₀, hr₀, hcompleted, hall, .next input hsince hnot⟩
    | inr hcompleted =>
      have hnext : (system β).Reachable (srv.step input) := .next input hr trivial
      exact ⟨srv, input, hr, hcompleted,
        allPresented_of_published hnext (hcompleted.published hready), .init rfl⟩

def HasEnabled (s : DisplayState) : Prop :=
  ∃ id r, s.outputs.get? id = some r ∧ r.disabled = false

/-- Both readiness notions mean what they say. -/
structure ReadinessConsistent (srv : Server β) : Prop where
  service : HasEnabled srv.display.state →
    ((getReadiness srv.display.state).state = .ready ↔ AllPresented srv.display.state)
  reconciliation : srv.display.state.reconciliationState = .ready → ReadySince srv

/-- Readiness is consistent in a state of a run unless a disabled output stands beside
enabled ones that are all presented. -/
theorem readinessConsistent_iff {srv : Server β} (h : (system β).Reachable srv) :
    ReadinessConsistent srv ↔
      ¬ (HasEnabled srv.display.state ∧ AllPresented srv.display.state ∧
        ∃ id r, srv.display.state.outputs.get? id = some r ∧ r.disabled = true) := by
  have hservice : ∀ {id r}, srv.display.state.outputs.get? id = some r →
      srv.display.state.outputs.entries ≠ [] := by
    intro id r hr hnil
    have hmem := OrdMap.mem_entries.mpr hr
    rw [hnil] at hmem
    exact absurd hmem List.not_mem_nil
  constructor
  · intro hconsistent hbad
    obtain ⟨henabled, hall, id, r, hr, hdisabled⟩ := hbad
    have hready := (hconsistent.service henabled).mpr hall
    have hr' := (getReadiness_ready.mp hready).2 id r hr
    rw [hdisabled] at hr'
    cases hr'.1
  · intro hgood
    refine ⟨fun henabled => ⟨fun hready id r hr _ => ?_, fun hall => ?_⟩,
      readySince_reachable h⟩
    · exact ((getReadiness_ready.mp hready).2 id r hr).2
    · obtain ⟨id₀, r₀, hr₀, hr₀'⟩ := henabled
      refine getReadiness_ready.mpr ⟨hservice hr₀, fun id r hr => ?_⟩
      have hdisabled : r.disabled = false := by
        rw [← Bool.not_eq_true]
        exact fun hdisabled => hgood ⟨⟨id₀, r₀, hr₀, hr₀'⟩, hall, id, r, hr, hdisabled⟩
      exact ⟨hdisabled, hall id r hr hdisabled⟩

/-- A second monitor, right of the first. -/
def secondGeometry : OutputGeometry :=
  { pixelGeometry with outputId := "HDMI-A-1", originX := 1 }

/-- The mock backend about to announce two monitors, and a change to the second one at
the third poll. -/
def twoMonitors (change : List BackendOutputEvent) : MockDisplayBackend :=
  { MockDisplayBackend.production with
    outputEvents :=
      [[pixelConnected 1, .connected 1 "HDMI-A-1" 2 secondGeometry ⟨16666667⟩], [], change] }

/-- A scene for the first monitor is committed and presented, then the change comes. -/
def changedServer (change : List BackendOutputEvent) : Server MockDisplayBackend :=
  serve (twoMonitors change)
    [.command (.commitScene (pixelScene 1 1)),
      .command (.advancePresentation "eDP-1" 2 1 1), .command .getReconciliation]

def unpluggedServer : Server MockDisplayBackend :=
  changedServer [.disconnected 1 "HDMI-A-1" 3 1]

def dimmedServer : Server MockDisplayBackend := changedServer [.disabled 1 "HDMI-A-1" 3 1]

/-- The second monitor is unplugged: displayd is ready and says so. -/
theorem readinessConsistent_unplugged :
    ReadinessConsistent unpluggedServer := by
  have henabled : ∀ e ∈ unpluggedServer.display.state.outputs.entries,
      e.2.disabled = false := by
    decide +kernel
  refine (readinessConsistent_iff (serve_reachable _ _)).mpr fun hbad => ?_
  obtain ⟨_, _, id, r, hr, hdisabled⟩ := hbad
  have hfalse := henabled (id, r) (OrdMap.mem_entries.mpr hr)
  rw [hdisabled] at hfalse
  cases hfalse

/-- The second monitor is disabled, and that keeps displayd from being ready. -/
theorem disabledMonitor_unready :
    ¬ ∀ srv : Server MockDisplayBackend, (system MockDisplayBackend).Reachable srv →
      ReadinessConsistent srv := by
  intro hall
  have hr : (system MockDisplayBackend).Reachable dimmedServer := serve_reachable _ _
  have hpresented := allPresented_of_published hr (by decide +kernel)
  have henabled : ∃ e ∈ dimmedServer.display.state.outputs.entries,
      e.2.disabled = false := by
    decide +kernel
  have hunready : (getReadiness dimmedServer.display.state).state ≠ .ready := by
    decide +kernel
  obtain ⟨e, he, hdisabled⟩ := henabled
  exact hunready (((hall _ hr).service ⟨e.1, e.2, OrdMap.mem_entries.mp he, hdisabled⟩).mpr
    hpresented)

end Server

end TuffXwin.Displayd
