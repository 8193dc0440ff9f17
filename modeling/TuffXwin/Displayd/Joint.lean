import TuffXwin.Displayd.Runtimes

/-! What displayd does to its state and to its backend together. Outside of these
moves the two are not touched, so what relates the outstanding frames of the outputs
to the submissions of the backend is proved once for each kind of move. A panic may
leave the two apart; it also ends the process. -/

namespace TuffXwin.Displayd
open Lib

variable {s : DisplayState} {answer : Except Fault Unit} {event : BackendOutputEvent}
variable {f : OutputRuntime → OutputRuntime} {r : OutputRuntime} {s' : DisplayState}
  {conn : Connection}
variable {scene : CommittedSceneState}

namespace DisplayState

def outstandingOf (s : DisplayState) (id : String) : Option OutstandingPresentation :=
  (s.outputs.get? id).bind (·.outstanding)

theorem outstandingOf_eq_some {id : String} {o : OutstandingPresentation} :
    s.outstandingOf id = some o ↔
      ∃ r, s.outputs.get? id = some r ∧ r.outstanding = some o :=
  Option.bind_eq_some_iff

theorem outstandingOf_modify (s : DisplayState) (id id' : String)
    (f : OutputRuntime → OutputRuntime) :
    (s.modifyOutput id f).outstandingOf id' =
      if id' = id then ((s.outputs.get? id).map f).bind (·.outstanding)
      else s.outstandingOf id' := by
  unfold outstandingOf
  rw [modifyOutput_get?]
  split_ifs with hid
  · rw [hid]
  · rfl

theorem outstandingOf_clear {id : String} (hf : ∀ r, (f r).outstanding = none) (id' : String) :
    (s.modifyOutput id f).outstandingOf id' = if id' = id then none else s.outstandingOf id' := by
  rw [outstandingOf_modify]
  congr 1
  cases s.outputs.get? id with
  | none => rfl
  | some r => exact hf r

theorem outstandingOf_insert (s : DisplayState) (id : String) (hr : r.outstanding = none)
    (id' : String) :
    (registerOutput s id r).outstandingOf id' = if id' = id then none else s.outstandingOf id' := by
  unfold outstandingOf
  rw [registerOutput_outputs, OrdMap.get?_insert]
  split_ifs
  · exact hr
  · rfl

end DisplayState

def SameOutstanding (s s' : DisplayState) : Prop :=
  ∀ id, s'.outstandingOf id = s.outstandingOf id

theorem SameOutstanding.of_outputs (h : s'.outputs = s.outputs) :
    SameOutstanding s s' := fun id => by rw [DisplayState.outstandingOf, h]; rfl

theorem sameOutstanding_modify {id : String}
    (hf : ∀ r, s.outputs.get? id = some r → (f r).outstanding = r.outstanding) :
    SameOutstanding s (s.modifyOutput id f) := by
  intro id'
  rw [DisplayState.outstandingOf_modify]
  split_ifs with hid
  · rw [hid, DisplayState.outstandingOf]
    cases hr : s.outputs.get? id with
    | none => rfl
    | some r => exact hf r hr
  · rfl

theorem sameOutstanding_committed {c : SceneCommit} {commitId : Nat}
    {store : DisplayPixelTransportStore} {damage : OrdMap String (List RendererRect)}
    (h : Committed s c commitId store damage s') : SameOutstanding s s' := by
  intro id
  unfold DisplayState.outstandingOf
  rw [h.outputs, OrdMap.get?_mapVals]
  cases s.outputs.get? id with
  | none => rfl
  | some r =>
    cases damageOutput_cases c commitId damage id r with
    | inl hsame => rw [Option.map_some, hsame]
    | inr hnoted =>
      obtain ⟨_, _, _, heq⟩ := hnoted
      rw [Option.map_some, heq]
      rfl

variable {β : Type} [DisplayBackend β]

inductive JointMove : Display β → Display β → Prop
  | quiet {s s' : DisplayState} {b : β} (hm : Move anyMove s s') (h : SameOutstanding s s') :
      JointMove ⟨s, b⟩ ⟨s', b⟩
  | poll {s : DisplayState} {b : β} : JointMove ⟨s, b⟩ ⟨s, (DisplayBackend.pollOutputEvents b).1⟩
  | submitFailed {s : DisplayState} {b b' : β} {id r frame reason}
      (hr : s.outputs.get? id = some r) (hd : r.pendingDamage ≠ [])
      (hf : frame.damage = publicationDamage r)
      (hsub : DisplayBackend.submitFrame b frame = (b', .error reason)) :
      JointMove ⟨s, b⟩ ⟨s.modifyOutput id (submitFailedRuntime frame), b'⟩
  /-- The token of a submitted frame is no token: the submission is forgotten. -/
  | malformed {s : DisplayState} {b b' : β} {id r scene pixels token}
      (hr : s.outputs.get? id = some r) (hid : id ≠ "")
      (hsub : DisplayBackend.submitFrame b (composedFrame r id scene pixels) = (b', .ok token))
      (htoken : token.validate ≠ .ok ()) : JointMove ⟨s, b⟩ ⟨s, b'⟩
  /-- The token of a submitted frame names another frame: the submission is retired. -/
  | mismatched {s : DisplayState} {b b' : β} {id r scene pixels token}
      (hr : s.outputs.get? id = some r)
      (hsub : DisplayBackend.submitFrame b (composedFrame r id scene pixels) = (b', .ok token))
      (hmismatch : token.outputId ≠ id ∨ token.outputGeneration ≠ r.state.outputGeneration ∨
        token.sceneGeneration ≠ scene.sceneGeneration) :
      JointMove ⟨s, b⟩ ⟨s, DisplayBackend.retireSubmission b' token⟩
  | submit {s : DisplayState} {b b' : β} {id r scene pixels token}
      (h : Submission s id r scene pixels token)
      (hsub : DisplayBackend.submitFrame b (composedFrame r id scene pixels) = (b', .ok token)) :
      JointMove ⟨s, b⟩
        ⟨submitState s id (composedFrame r id scene pixels) token scene.commitId, b'⟩
  | present {s : DisplayState} {b b' : β} {r o env} (h : InFlight s o.token.outputId r o)
      (hc : DisplayBackend.completeSubmission b o.token = (b', .ok ())) :
      JointMove ⟨s, b⟩
        ⟨presentOutput s env o o.token.outputId, DisplayBackend.retireSubmission b' o.token⟩
  | completeFailed {s : DisplayState} {b b' : β} {r o reason}
      (h : InFlight s o.token.outputId r o)
      (hc : DisplayBackend.completeSubmission b o.token = (b', .error reason)) :
      JointMove ⟨s, b⟩
        ⟨s.modifyOutput o.token.outputId (failRuntime o),
          DisplayBackend.retireSubmission b' o.token⟩
  | fail {s : DisplayState} {b : β} {r o} (h : InFlight s o.token.outputId r o) :
      JointMove ⟨s, b⟩
        ⟨s.modifyOutput o.token.outputId (failRuntime o),
          DisplayBackend.retireSubmission b o.token⟩
  | connect {s : DisplayState} {b : β} {id state bounds hb instanceId cadence}
      (hnone : s.outputs.get? id = none) (hid : state.outputId = id) :
      JointMove ⟨s, b⟩
        ⟨registerOutput s id (connectedRuntime s state bounds hb instanceId cadence), b⟩
  | replace {s : DisplayState} {b b' : β} {id previous state bounds hb instanceId cadence}
      (hprevious : s.outputs.get? id = some previous) (hid : state.outputId = id)
      (hnewer : previous.state.outputGeneration < state.outputGeneration)
      (hrec : DisplayBackend.reconfigureOutput (retireOutstanding b previous) id
        state.outputGeneration = (b', .ok ())) :
      JointMove ⟨s, b⟩
        ⟨registerOutput s id (connectedRuntime s state bounds hb instanceId cadence), b'⟩
  /-- The backend does not take the new generation of an output. -/
  | unreconfigured {s : DisplayState} {b b' : β} {id previous generation reason}
      (hprevious : s.outputs.get? id = some previous)
      (hrec : DisplayBackend.reconfigureOutput (retireOutstanding b previous) id generation =
        (b', .error reason)) : JointMove ⟨s, b⟩ ⟨s, b'⟩
  | disable {s : DisplayState} {b : β} {id r} (hr : s.outputs.get? id = some r) :
      JointMove ⟨s, b⟩
        ⟨s.modifyOutput id Display.disableRuntime,
          DisplayBackend.removeOutput (retireOutstanding b r) id⟩
  | drop {d : Display β} {id r} (hr : d.state.outputs.get? id = some r) :
      JointMove d (d.dropOutput id r)
  | retireAll {d : Display β} : JointMove d d.retireAllRuntimeSubmissions
  | clearOutputs {s : DisplayState} {b : β} (h : ∀ id, s.outstandingOf id = none) :
      JointMove ⟨s, b⟩ ⟨{ s with outputs := OrdMap.empty }, b⟩

abbrev JointMoves : Display β → Display β → Prop := Relation.ReflTransGen JointMove

/-- The state part of a joint move is made of moves of the state. -/
theorem JointMove.state {d d' : Display β} (h : JointMove d d') :
    Moves anyMove d.state d'.state := by
  cases h with
  | quiet hm _ => exact .single hm
  | poll => exact .refl
  | submitFailed hr hd hf _ => exact .single (.submitFailed hr hd hf)
  | malformed _ _ _ _ => exact .refl
  | mismatched _ _ _ => exact .refl
  | submit h _ => exact .single (.submit h)
  | present h _ => exact .single (.present h trivial)
  | completeFailed h _ => exact .single (.fail h trivial)
  | fail h => exact .single (.fail h trivial)
  | connect _ hid => exact .single (.connect trivial hid)
  | replace _ hid _ _ => exact .single (.connect trivial hid)
  | unreconfigured _ _ => exact .refl
  | disable _ => exact .single (.disable trivial)
  | drop _ => exact .single (.drop trivial)
  | retireAll => exact .single .retireAll
  | clearOutputs _ => exact .single (.clearOutputs trivial)

theorem JointMoves.invariant {I : Display β → Prop}
    (hmove : ∀ d d', I d → JointMove d d' → I d') {d d' : Display β} (h : JointMoves d d')
    (hd : I d) : I d' := by
  induction h with
  | refl => exact hd
  | tail _ hm ih => exact hmove _ _ ih hm

section

variable (d : Display β)

theorem acceptScene_joint (env : Env) (source : ServiceRole) (c : SceneCommit) :
    JointMoves d (d.acceptScene env source c).1 := by
  have hcases := acceptCanonical_cases d.state (canonicalCommit c) source env
  change JointMoves d ⟨(acceptCanonical d.state (canonicalCommit c) source env).1, d.backend⟩
  generalize acceptCanonical d.state (canonicalCommit c) source env = result at hcases ⊢
  cases hcases with
  | rejected reason => exact .refl
  | idempotent => exact .refl
  | refused replay store damage h refusal =>
    refine .single (.quiet (.refuse h trivial) (.of_outputs ?_))
    dsimp only
    rw [rebind_frame]
  | accepted replay store damage h recorded taken record =>
    cases replay with
    | none =>
      exact .single (.quiet (.accept h trivial record)
        (sameOutstanding_committed (accept_committed _ record)))
    | some commitId =>
      obtain rfl := Except.ok.inj record
      exact .single (.quiet (.hydrate h trivial)
        (sameOutstanding_committed (hydrate_committed _ _ _ _ _)))

theorem reconcileScene_joint (env : Env) (source : ServiceRole) (epoch : Nat) (c : SceneCommit) :
    JointMoves d (d.reconcileScene env source epoch c).1 := by
  have hmoves := acceptScene_joint d env source c
  unfold Display.reconcileScene
  split_ifs
  · exact .refl
  · split
    · rename_i hd
      rw [hd] at hmoves
      exact hmoves
    · rename_i hd
      rw [hd] at hmoves
      exact hmoves.tail (.quiet (.bookkeeping ⟨rfl, rfl, rfl, rfl, rfl, rfl, rfl, rfl, rfl⟩)
        (.of_outputs rfl))
    · rename_i hd
      rw [hd] at hmoves
      exact hmoves

/-- A completion is finished on the outstanding frame it names, or not at all. -/
theorem finishBackendCompletion_joint (env : Env) (token : PresentationToken)
    (outcome : PresentationCompletion) :
    JointMoves d (d.finishBackendCompletion env token outcome).1 := by
  unfold Display.finishBackendCompletion
  cases hpre : preflightPresentationToken d.state token with
  | error result => exact .refl
  | ok o =>
    obtain ⟨r, hflight, rfl⟩ := preflight_inFlight hpre
    have hfail : ∀ other, other ≠ .presented →
        (completePresentation d.state env o.token other).1 =
          d.state.modifyOutput o.token.outputId (failRuntime o) := by
      intro other hother
      simp only [completePresentation, hpre]
    have hpresent : (completePresentation d.state env o.token .presented).1 =
        presentOutput d.state env o o.token.outputId := by
      simp only [completePresentation, hpre]
    dsimp only
    split_ifs with houtcome
    · split
      · rename_i hc
        dsimp only
        rw [hfail _ (by simp)]
        exact .single (.completeFailed hflight hc)
      · rename_i hc
        dsimp only
        rw [hpresent]
        exact .single (.present hflight hc)
    · rw [hfail _ houtcome]
      exact .single (.fail hflight)

theorem advancePresentation_joint (id : String) (generation now tick : Nat) :
    JointMoves d ⟨(advancePresentation d.state id generation now tick).1, d.backend⟩ := by
  unfold advancePresentation
  split
  · exact .refl
  · rename_i r hr
    split_ifs
    · exact .refl
    · have hquiet : ∀ r', d.state.outputs.get? id = some r' →
          r'.Quiet (advanceRuntime r id now tick).1 := by
        intro r' hr'
        obtain rfl := Option.some.inj (hr.symm.trans hr')
        exact OutputRuntime.quiet_advanceRuntime r id now tick
      exact .single (.quiet (.quiet hquiet)
        (sameOutstanding_modify fun r' hr' => (hquiet r' hr').outstanding))

theorem submitComposed_joint (env : Env) {id : String} {pixels : List UInt32} (hid : id ≠ "")
    (hsub : ∀ token, token.validate = .ok () → token.outputId = id →
      token.outputGeneration = r.state.outputGeneration →
      token.sceneGeneration = scene.sceneGeneration →
      Submission d.state id r scene pixels token) (hr : d.state.outputs.get? id = some r)
    (hd : r.pendingDamage ≠ []) :
    JointMoves d
      (d.submitComposed env id (composedFrame r id scene pixels) scene.commitId).1 := by
  unfold Display.submitComposed
  split
  · rename_i hsubmit
    exact .single (.submitFailed hr hd rfl hsubmit)
  · rename_i backend token hsubmit
    split
    · rename_i hinvalid
      exact .single (.malformed hr hid hsubmit (by rw [hinvalid]; simp))
    · rename_i hvalid
      split_ifs with hmatch
      · exact .single (.mismatched hr hsubmit hmatch)
      · simp only [not_or, not_not] at hmatch
        have hsubmission := hsub token hvalid hmatch.1 hmatch.2.1 hmatch.2.2
        have hmove : JointMoves d ⟨submitState d.state id (composedFrame r id scene pixels)
            token scene.commitId, backend⟩ := .single (.submit hsubmission hsubmit)
        rw [finishSubmitted_state]
        split_ifs
        · exact hmove.trans (finishBackendCompletion_joint ⟨submitState d.state id
            (composedFrame r id scene pixels) token scene.commitId, backend⟩ env token .presented)
        · exact hmove

theorem handleMultiOutputCommit_joint (env : Env) (id : String)
    (hlast : d.state.lastScene = some scene) :
    JointMoves d (d.handleMultiOutputCommit env scene id).1 := by
  have hscheduled : ∀ state, JointMoves d
      ⟨d.state.modifyOutput id (schedulerState state), d.backend⟩ := fun state =>
    .single (.quiet (.quiet fun r' _ => OutputRuntime.quiet_schedulerState _ r')
      (sameOutstanding_modify fun _ _ => rfl))
  unfold Display.handleMultiOutputCommit
  split_ifs with hname
  · exact .refl
  · dsimp only
    split
    · exact .refl
    · rename_i r hr
      split_ifs with hdisabled houtstanding hdamage
      · exact .refl
      · exact hscheduled _
      · exact hscheduled _
      · split
        · exact .refl
        · rename_i hvalidated
          have hcore := countComposition_core d.state
            (isDirectScanout (canonicalizeSurfaces scene.surfaces) r.state)
          have hcount : JointMoves d ⟨countComposition d.state
              (isDirectScanout (canonicalizeSurfaces scene.surfaces) r.state), d.backend⟩ :=
            .single (.quiet (.bookkeeping hcore) (.of_outputs hcore.outputs))
          split
          · exact hcount
          · rename_i pixels hcomposed
            refine hcount.trans (submitComposed_joint ⟨countComposition d.state
              (isDirectScanout (canonicalizeSurfaces scene.surfaces) r.state), d.backend⟩ env
              hname ?_ ?_ ?_)
            · intro token hvalid hid hgen hscene
              exact ⟨hcore.outputs ▸ hr, by simpa using hdisabled,
                Option.not_isSome_iff_eq_none.mp houtstanding, by simpa using hdamage,
                hcore.lastScene.trans hlast, by rw [hcore.pixelTransport]; exact hvalidated,
                by rw [hcore.pixelTransport]; exact hcomposed, hvalid, hid, hgen, hscene⟩
            · exact hcore.outputs ▸ hr
            · simpa using hdamage

theorem advanceAndPublish_joint (env : Env) (id : String) (generation now tick : Nat) :
    JointMoves d (d.advanceAndPublish env id generation now tick).1 := by
  have htick := advancePresentation_joint d id generation now tick
  unfold Display.advanceAndPublish
  dsimp only
  split
  · exact htick
  · exact htick
  · split
    · exact htick
    · rename_i scene hscene
      exact htick.trans (handleMultiOutputCommit_joint
        ⟨(advancePresentation d.state id generation now tick).1, d.backend⟩ env id hscene)

theorem driveOutput_joint (env : Env) (id : String) (r : OutputRuntime)
    (hlast : d.state.lastScene = some scene) : JointMoves d (d.driveOutput env scene id r).1 := by
  unfold Display.driveOutput
  dsimp only
  generalize driveClock env r = now
  generalize satAdd r.scheduler.lastTickSequence 1 = tick
  generalize r.state.outputGeneration = generation
  have htick := advancePresentation_joint d id generation now tick
  split
  · exact htick
  · exact htick
  · exact htick.trans (handleMultiOutputCommit_joint
      ⟨(advancePresentation d.state id generation now tick).1, d.backend⟩ env id
      ((advancePresentation_frame _ _ _ _ _).1.trans hlast))

theorem getPresentationFeedback_joint (env : Env) (commitId : Nat) (hone : SingleOutput d.state) :
    JointMoves d (d.getPresentationFeedback env commitId).1 := by
  have hdrive : JointMoves d (d.drivePresentationForFeedback env commitId).1 := by
    unfold Display.drivePresentationForFeedback
    split_ifs
    · exact .refl
    · split
      · exact .refl
      · rename_i o ho
        split
        · exact .refl
        · rename_i scene hscene
          obtain ⟨id, hid, hpresented⟩ := hone commitId o ho
          have hdiff : OrdSet.difference o.requiredOutputs o.presentedOutputs = [id] := by
            rw [hid, hpresented]
            rfl
          rw [hdiff]
          unfold Display.driveOutputs
          split
          · exact .refl
          · rename_i r _
            have hmoves := driveOutput_joint d env id r hscene
            dsimp only
            split
            · exact hmoves
            · split_ifs
              · exact hmoves
              · exact hmoves
  unfold Display.getPresentationFeedback
  split
  · exact .refl
  · dsimp only
    split
    · exact hdrive
    · split
      · exact hdrive
      · split_ifs
        · exact hdrive
        · exact hdrive

end

theorem connectOutput_joint {d d' : Display β} {instanceId : Nat} {id : String}
    {geometry : OutputGeometry} {cadence : PresentationCadence}
    (h : d.connectOutput instanceId id geometry cadence = (d', answer))
    (hrunning : Server.isPanic answer = false) : JointMoves d d' := by
  unfold Display.connectOutput at h
  split at h
  · cases h
    exact .refl
  · rename_i nextState hcheck
    obtain ⟨hname, _, hgeometry⟩ := checkConnected_ok hcheck
    have hid : nextState.outputId = id := by
      rw [hgeometry]
      exact hname
    unfold Display.replacePredecessor at h
    cases hprevious : d.state.outputs.get? id with
    | none =>
      rw [hprevious] at h
      dsimp only at h
      split at h
      · cases h
        cases hrunning
      · cases h
        exact .single (.connect hprevious hid)
    | some previous =>
      rw [hprevious] at h
      dsimp only at h
      split_ifs at h with hcollision hstale
      · cases h
        exact .refl
      · cases h
        exact .refl
      · cases hrec : DisplayBackend.reconfigureOutput (retireOutstanding d.backend previous) id
            nextState.outputGeneration with
        | mk b result =>
          rw [hrec] at h
          cases result with
          | error reason =>
            cases h
            exact .single (.unreconfigured hprevious hrec)
          | ok _ =>
            dsimp only at h
            split at h
            · cases h
              cases hrunning
            · cases h
              exact .single (.replace hprevious hid (not_le.mp hstale) hrec)

/-- The outputs left to drop are still registered. -/
theorem dropOutputs_joint {l : List (String × OutputRuntime)}
    (hl : l.Pairwise fun a b => a.1 < b.1) {d : Display β}
    (h : ∀ e ∈ l, d.state.outputs.get? e.1 = some e.2) :
    JointMoves d (l.foldl (fun d e => d.dropOutput e.1 e.2) d) := by
  induction l generalizing d with
  | nil => exact .refl
  | cons e l ih =>
    obtain ⟨hless, hrest⟩ := List.pairwise_cons.mp hl
    rw [List.foldl_cons]
    refine .head (.drop (h e List.mem_cons_self)) (ih hrest fun e' he' => ?_)
    simp only [Display.dropOutput]
    rw [OrdMap.get?_erase, if_neg (hless e' he').ne', h e' (List.mem_cons_of_mem _ he')]

theorem resetBackend_joint (d : Display β) (instanceId : Nat) :
    JointMoves d (d.resetBackend instanceId) := by
  unfold Display.resetBackend
  refine dropOutputs_joint (OrdMap.sorted _) fun e he => ?_
  exact (OrdMap.get?_filter_eq_some.mp (OrdMap.mem_entries.mp he)).1

theorem applyLifecycle_joint {d d' : Display β} (h : d.applyLifecycle event = (d', answer))
    (hrunning : Server.isPanic answer = false) : JointMoves d d' := by
  cases event with
  | connected i id q geometry cadence => exact connectOutput_joint h hrunning
  | reconfigured i id q geometry cadence => exact connectOutput_joint h hrunning
  | disabled i id q generation =>
    simp only [Display.applyLifecycle, Display.disableOutput] at h
    split at h
    · cases h
      exact .refl
    · rename_i r hr
      split_ifs at h
      · cases h
        exact .refl
      · cases h
        exact .single (.disable hr)
  | disconnected i id q generation =>
    simp only [Display.applyLifecycle, Display.disconnectOutput] at h
    split at h
    · cases h
      exact .refl
    · rename_i r hr
      split_ifs at h
      · cases h
        exact .refl
      · cases h
        exact .single (.drop hr)
  | backendReset i q =>
    cases h
    exact resetBackend_joint d i

theorem applyInSequence_joint {d d' : Display β} (h : d.applyInSequence event = (d', answer))
    (hrunning : Server.isPanic answer = false) : JointMoves d d' := by
  unfold Display.applyInSequence at h
  split at h
  · rename_i hlife
    cases h
    exact applyLifecycle_joint hlife hrunning
  · rename_i hlife
    cases h
    exact (applyLifecycle_joint hlife rfl).tail
      (.quiet (.bookkeeping ⟨rfl, rfl, rfl, rfl, rfl, rfl, rfl, rfl, rfl⟩) (.of_outputs rfl))

theorem applyBackendOutputEvent_joint {d d' : Display β}
    (h : d.applyBackendOutputEvent event = (d', answer))
    (hrunning : Server.isPanic answer = false) : JointMoves d d' := by
  unfold Display.applyBackendOutputEvent at h
  split at h
  · cases h
    exact .refl
  · rename_i s hs
    have hcore := adoptEpoch_core hs
    have hadopt : JointMoves d ⟨s, d.backend⟩ :=
      .single (.quiet (.bookkeeping hcore) (.of_outputs hcore.outputs))
    dsimp only at h
    split at h
    · exact hadopt.trans (applyInSequence_joint h hrunning)
    · split_ifs at h
      · cases h
        exact hadopt
      · cases h
        exact hadopt
      · exact hadopt.trans (applyInSequence_joint h hrunning)

theorem outputCommand_joint {d : Display β} {done : DisplayEvent}
    (hrunning : Server.isPanic (d.outputCommand event done).2 = false) :
    JointMoves d (d.outputCommand event done).1 := by
  unfold Display.outputCommand at hrunning ⊢
  split
  · rename_i hd
    exact applyBackendOutputEvent_joint hd rfl
  · rename_i hd
    exact applyBackendOutputEvent_joint hd rfl
  · rename_i hd
    rw [hd] at hrunning
    cases hrunning

theorem outstandingOf_retireAll (d : Display β) (id : String) :
    d.retireAllRuntimeSubmissions.state.outstandingOf id = none := by
  unfold DisplayState.outstandingOf Display.retireAllRuntimeSubmissions
  dsimp only
  rw [OrdMap.get?_mapVals]
  cases d.state.outputs.get? id with
  | none => rfl
  | some r => rfl

theorem beginReconciliation_joint (d : Display β) (epoch : Nat) :
    JointMoves d (d.beginReconciliation epoch).1 := by
  have hretire : JointMoves d d.retireAllRuntimeSubmissions := .single .retireAll
  have hclear := outstandingOf_retireAll d
  unfold Display.beginReconciliation
  dsimp only
  generalize d.retireAllRuntimeSubmissions = retired at hretire hclear ⊢
  split
  · exact hretire
  · rename_i s hs
    refine hretire.trans ?_
    unfold beginRestart at hs
    split_ifs at hs
    · obtain rfl := Except.ok.inj hs
      exact .head (.quiet .clearFeedbacks (.of_outputs rfl))
        (.single (.quiet (.bookkeeping ⟨rfl, rfl, rfl, rfl, rfl, rfl, rfl, rfl, rfl⟩)
          (.of_outputs rfl)))
    · obtain rfl := Except.ok.inj hs
      exact .head (.quiet .clearFeedbacks (.of_outputs rfl)) (.head (.clearOutputs hclear)
        (.single (.quiet (.bookkeeping ⟨rfl, rfl, rfl, rfl, rfl, rfl, rfl, rfl, rfl⟩)
          (.of_outputs rfl))))

theorem handleDisplayCommand_joint (d : Display β) (env : Env) (source : ServiceRole)
    (topologySequence : Nat) (command : DisplayCommand) (hone : SingleOutput d.state)
    (hrunning : Server.isPanic
      (d.handleDisplayCommand env source topologySequence command).2 = false) :
    JointMoves d (d.handleDisplayCommand env source topologySequence command).1 := by
  cases command with
  | getReconciliation => exact .refl
  | getOutputTopology => exact .refl
  | beginReconciliation epoch => exact beginReconciliation_joint d epoch
  | reconcileScene epoch c => exact reconcileScene_joint d env source epoch c
  | advancePresentation id generation now tick =>
    exact advanceAndPublish_joint d env id generation now tick
  | completePresentation token outcome =>
    exact finishBackendCompletion_joint d env token outcome
  | configureOutput geometry => exact outputCommand_joint hrunning
  | removeOutput id generation => exact outputCommand_joint hrunning
  | commitScene c => exact acceptScene_joint d env source c
  | getSceneSnapshot output => exact .refl
  | getPresentationFeedback commitId => exact getPresentationFeedback_joint d env commitId hone

namespace Server

theorem applyEvents_joint {accepting : Nat → Bool} {srv srv' : Server β}
    {events : List BackendOutputEvent} (h : applyEvents accepting srv events = (srv', answer))
    (hrunning : isPanic answer = false) : JointMoves srv.display srv'.display := by
  induction events generalizing srv with
  | nil =>
    cases h
    exact .refl
  | cons event rest ih =>
    unfold applyEvents at h
    split at h
    · rename_i hd
      cases h
      exact applyBackendOutputEvent_joint hd hrunning
    · rename_i d _ hd
      have happly := applyBackendOutputEvent_joint hd rfl
      have hpublish := publishTopologyDelta_display { srv with display := d } accepting event
      split at h
      · rename_i hp
        rw [hp] at hpublish
        cases h
        exact hpublish ▸ happly
      · rename_i srv₁ _ hp
        rw [hp] at hpublish
        dsimp only at hpublish
        have hrest := ih h
        rw [hpublish] at hrest
        exact happly.trans hrest

theorem handleClient_joint {srv : Server β} (hone : SingleOutput srv.display.state)
    (hrunning : isPanic (srv.handleClient conn).2 = false) :
    JointMoves srv.display (srv.handleClient conn).1.display := by
  have hpoll : JointMoves srv.display srv.polled.1.display := .single .poll
  unfold handleClient at hrunning ⊢
  dsimp only at hrunning ⊢
  split at hrunning
  · rename_i fault he
    exact hpoll.trans (applyEvents_joint he (by cases fault <;> exact hrunning))
  · rename_i srv' _ he
    have hevents := hpoll.trans (applyEvents_joint he rfl)
    have hone' : SingleOutput srv'.display.state :=
      JointMoves.invariant (I := fun d => SingleOutput d.state)
        (fun d d' hs hm => hm.state.invariant (fun _ _ h hm => h.move hm) hs) hevents hone
    cases hrequest : conn.request with
    | none => exact hevents
    | some request =>
      rw [hrequest] at hrunning
      cases request with
      | subscribe epoch sequence =>
        dsimp only [handleRequest]
        rw [subscribe_display]
        exact hevents
      | command command =>
        dsimp only [handleRequest] at hrunning ⊢
        refine hevents.trans (handleDisplayCommand_joint srv'.display conn.env conn.source
          srv'.topologySequence command hone' ?_)
        generalize srv'.display.handleDisplayCommand conn.env conn.source srv'.topologySequence
          command = result at hrunning ⊢
        obtain ⟨d, answer⟩ := result
        cases answer with
        | error fault => cases fault <;> exact hrunning
        | ok event => rfl

/-- A connection served without a panic. -/
theorem client_joint {srv : Server β} (h : (system β).Reachable srv)
    (hrunning : (srv.step (.client conn)).halted = false) :
    JointMoves srv.display (srv.step (.client conn)).display := by
  unfold step at hrunning ⊢
  dsimp only at hrunning ⊢
  split_ifs at hrunning ⊢
  · exact .refl
  · exact handleClient_joint (singleOutput_run trivial (Run.any h)) hrunning

end Server

end TuffXwin.Displayd
