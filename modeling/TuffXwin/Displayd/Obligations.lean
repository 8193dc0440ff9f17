import TuffXwin.Displayd.Moves

/-! Presentation obligations. Each waits for a single output, so a presented
frame either settles it or leaves it as it was; what a presentation does to the
recorded obligations and feedbacks is described here once. -/

namespace TuffXwin.Displayd
open Lib

variable {s : DisplayState} {c commitId k : Nat} {damage : OrdMap String (List RendererRect)}
  {o : PresentationObligation} {env : Env} {e : DisplayEvent}
variable {g refreshNs seq : Nat} {source : ServiceRole}
variable {required : OrdSet String} {recorded s' : DisplayState}
  {store : DisplayPixelTransportStore}

/-- Resolve a list of obligations, least commit first. -/
def resolveAll (env : Env) (refreshNs seq : Nat) (l : List (Nat × PresentationObligation))
    (s : DisplayState) : DisplayState :=
  l.foldl (resolveObligation env refreshNs seq) s

theorem resolveObligation_eq (env : Env) (refreshNs seq : Nat)
    (e : Nat × PresentationObligation) (s : DisplayState) :
    ∃ feedbacks,
      resolveObligation env refreshNs seq s e =
        { s with
          presentationFeedbacks := feedbacks
          presentationObligations := s.presentationObligations.erase e.1
          history := .resolved e.1 e.2.requiredOutputs :: s.history } :=
  ⟨_, rfl⟩

theorem resolveAll_eq (env : Env) (refreshNs seq : Nat)
    (l : List (Nat × PresentationObligation)) (s : DisplayState) :
    ∃ feedbacks obligations history,
      resolveAll env refreshNs seq l s =
        { s with
          presentationFeedbacks := feedbacks
          presentationObligations := obligations
          history := history } := by
  induction l generalizing s with
  | nil => exact ⟨s.presentationFeedbacks, s.presentationObligations, s.history, rfl⟩
  | cons e l ih =>
    obtain ⟨feedbacks, hstep⟩ := resolveObligation_eq env refreshNs seq e s
    obtain ⟨feedbacks', obligations, history, h⟩ := ih (resolveObligation env refreshNs seq s e)
    refine ⟨feedbacks', obligations, history, ?_⟩
    simp only [resolveAll, List.foldl_cons] at h ⊢
    rw [h, hstep]

theorem resolveAll_obligations (env : Env) (refreshNs seq : Nat)
    (l : List (Nat × PresentationObligation)) (s : DisplayState) (c : Nat) :
    (resolveAll env refreshNs seq l s).presentationObligations.get? c =
      if c ∈ l.map Prod.fst then none else s.presentationObligations.get? c := by
  induction l generalizing s with
  | nil => rfl
  | cons e l ih =>
    simp only [resolveAll, List.foldl_cons] at ih ⊢
    rw [ih]
    simp only [resolveObligation, OrdMap.get?_erase, List.map_cons, List.mem_cons]
    by_cases hl : c ∈ l.map Prod.fst
    · simp [hl]
    · by_cases he : c = e.1 <;> simp [hl, he]

theorem resolveAll_history (env : Env) (refreshNs seq : Nat)
    (l : List (Nat × PresentationObligation)) (s : DisplayState) :
    (resolveAll env refreshNs seq l s).history =
      (l.map fun e => DisplayEffect.resolved e.1 e.2.requiredOutputs).reverse ++ s.history := by
  induction l generalizing s with
  | nil => rfl
  | cons e l ih =>
    simp only [resolveAll, List.foldl_cons] at ih ⊢
    rw [ih]
    simp [resolveObligation]

theorem notePresented_version (frame : FramePublication) (id : String) (c : Nat)
    (o : PresentationObligation) :
    (notePresented frame id c o).sceneEpoch = o.sceneEpoch ∧
      (notePresented frame id c o).sceneGeneration = o.sceneGeneration ∧
      (notePresented frame id c o).requiredOutputs = o.requiredOutputs := by
  unfold notePresented
  split_ifs
  · exact ⟨rfl, rfl, rfl⟩
  · exact ⟨rfl, rfl, rfl⟩

theorem generationMatches_notePresented (frame : FramePublication) (id : String) (c : Nat)
    (o : PresentationObligation) :
    generationMatches frame c (notePresented frame id c o) = generationMatches frame c o := by
  obtain ⟨he, hg, _⟩ := notePresented_version frame id c o
  unfold generationMatches
  rw [he, hg]

/-- A presented frame settles the obligations it matches that wait for its output. -/
def Settles (frame : FramePublication) (id : String) (c : Nat) (o : PresentationObligation) :
    Prop :=
  generationMatches frame c o = true ∧ o.requiredOutputs.contains id = true

instance (frame : FramePublication) (id : String) (c : Nat) (o : PresentationObligation) :
    Decidable (Settles frame id c o) := by
  unfold Settles
  infer_instance

/-- What one obligation becomes, and whether it is resolved, when it waits for one output. -/
theorem obligationResolved_single {frame : FramePublication} {id id' : String}
    (hr : o.requiredOutputs = OrdSet.single id') (hp : o.presentedOutputs = OrdMap.empty) :
    (obligationResolved frame c (notePresented frame id c o) = true ↔ Settles frame id c o) ∧
      (¬ Settles frame id c o → notePresented frame id c o = o) := by
  obtain ⟨_, _, hreq⟩ := notePresented_version frame id c o
  unfold obligationResolved Settles
  rw [generationMatches_notePresented, Bool.and_eq_true, hreq, hr, OrdSet.single_subset,
    OrdSet.contains_single]
  unfold notePresented
  by_cases hset : generationMatches frame c o = true ∧ o.requiredOutputs.contains id = true
  · rw [if_pos (by rw [hset.1, hset.2]; rfl)]
    have hid : id = id' := by
      rw [hr] at hset
      exact OrdSet.contains_single.mp hset.2
    refine ⟨⟨fun h => ⟨h.1, hid⟩, fun h => ⟨h.1, ?_⟩⟩, fun h => ?_⟩
    · exact OrdSet.contains_insert.mpr (.inl hid.symm)
    · rw [hr, OrdSet.contains_single] at hset
      exact absurd hset h
  · rw [if_neg (by rwa [Bool.and_eq_true])]
    refine ⟨⟨fun h => ?_, fun h => ?_⟩, fun _ => rfl⟩
    · rw [hp] at h
      simp [OrdMap.contains_empty] at h
    · rw [hr, OrdSet.contains_single] at hset
      exact absurd h hset

section Note

variable (s : DisplayState) (env : Env) (frame : FramePublication) (id : String)
  (refreshNs seq : Nat)

def notedObligations : OrdMap Nat PresentationObligation :=
  s.presentationObligations.mapVals (notePresented frame id)

def matchingObligations : List (Nat × PresentationObligation) :=
  (notedObligations s frame id).entries.filter fun e => obligationResolved frame e.1 e.2

theorem notePresentedObligations_eq :
    notePresentedObligations s env frame id refreshNs seq =
      resolveAll env refreshNs seq (matchingObligations s frame id)
        { s with presentationObligations := notedObligations s frame id } := rfl

variable {s frame id}

theorem mem_matching (hone : SingleOutput s) (h : (c, o) ∈ matchingObligations s frame id) :
    ∃ o', s.presentationObligations.get? c = some o' ∧ Settles frame id c o' ∧
      o.requiredOutputs = o'.requiredOutputs := by
  obtain ⟨hmem, hresolved⟩ := List.mem_filter.mp h
  have hget := OrdMap.mem_entries.mp hmem
  rw [notedObligations, OrdMap.get?_mapVals, Option.map_eq_some_iff] at hget
  obtain ⟨o', ho', rfl⟩ := hget
  obtain ⟨id', hr, hp⟩ := hone c o' ho'
  exact ⟨o', ho', (obligationResolved_single hr hp).1.mp hresolved,
    (notePresented_version frame id c o').2.2⟩

theorem matching_key (hone : SingleOutput s) :
    c ∈ (matchingObligations s frame id).map Prod.fst ↔
      ∃ o, s.presentationObligations.get? c = some o ∧ Settles frame id c o := by
  constructor
  · intro h
    obtain ⟨⟨c', o⟩, hmem, rfl⟩ := List.mem_map.mp h
    obtain ⟨o', ho', hs, _⟩ := mem_matching hone hmem
    exact ⟨o', ho', hs⟩
  · intro h
    obtain ⟨o, ho, hs⟩ := h
    obtain ⟨id', hr, hp⟩ := hone c o ho
    refine List.mem_map.mpr ⟨(c, notePresented frame id c o), List.mem_filter.mpr ⟨?_, ?_⟩, rfl⟩
    · rw [OrdMap.mem_entries, notedObligations, OrdMap.get?_mapVals, ho, Option.map_some]
    · exact (obligationResolved_single hr hp).1.mpr hs

/-- The obligations left are those the frame does not settle, unchanged. -/
theorem noted_obligations (hone : SingleOutput s) :
    (notePresentedObligations s env frame id refreshNs seq).presentationObligations.get? c =
        some o ↔
      s.presentationObligations.get? c = some o ∧ ¬ Settles frame id c o := by
  rw [notePresentedObligations_eq, resolveAll_obligations]
  simp only [matching_key hone]
  constructor
  · intro h
    split_ifs at h with hmatch
    rw [notedObligations, OrdMap.get?_mapVals, Option.map_eq_some_iff] at h
    obtain ⟨o', ho', rfl⟩ := h
    have hunsettled : ¬ Settles frame id c o' := fun hs => hmatch ⟨o', ho', hs⟩
    obtain ⟨id', hr, hp⟩ := hone c o' ho'
    rw [(obligationResolved_single hr hp).2 hunsettled]
    exact ⟨ho', hunsettled⟩
  · intro h
    obtain ⟨ho, hunsettled⟩ := h
    obtain ⟨id', hr, hp⟩ := hone c o ho
    rw [if_neg]
    · rw [notedObligations, OrdMap.get?_mapVals, ho, Option.map_some,
        (obligationResolved_single hr hp).2 hunsettled]
    · intro hmatch
      obtain ⟨o', ho', hs⟩ := hmatch
      obtain rfl := Option.some.inj (ho.symm.trans ho')
      exact hunsettled hs

end Note

/-- A presentation, as an update of the output, the obligations and the feedbacks. -/
theorem presentOutput_spec (s : DisplayState) (env : Env) (o : OutstandingPresentation)
    (id : String) :
    ∃ refreshNs reconciled,
      presentOutput s env o id =
        { notePresentedObligations
            ((s.modifyOutput id (presentRuntime o)).note (.presented id)) env o.frame id
            refreshNs o.token.sequence with
          reconciliationState := reconciled } := by
  unfold presentOutput noteReady
  dsimp only
  split_ifs
  · exact ⟨_, _, rfl⟩
  · exact ⟨_, _, rfl⟩

theorem presentOutput_frame (s : DisplayState) (env : Env) (o : OutstandingPresentation)
    (id : String) :
    (presentOutput s env o id).lastScene = s.lastScene ∧
      (presentOutput s env o id).lastSceneEpoch = s.lastSceneEpoch ∧
      (presentOutput s env o id).lastSceneGeneration = s.lastSceneGeneration ∧
      (presentOutput s env o id).nextCommitId = s.nextCommitId ∧
      (presentOutput s env o id).pixelTransport = s.pixelTransport ∧
      (presentOutput s env o id).outputs = (s.modifyOutput id (presentRuntime o)).outputs := by
  obtain ⟨refreshNs, reconciled, h⟩ := presentOutput_spec s env o id
  rw [h, notePresentedObligations_eq]
  generalize matchingObligations _ _ _ = l
  obtain ⟨feedbacks, obligations, history, hall⟩ := resolveAll_eq env refreshNs
    o.token.sequence l { (s.modifyOutput id (presentRuntime o)).note (.presented id) with
      presentationObligations := notedObligations
        ((s.modifyOutput id (presentRuntime o)).note (.presented id)) o.frame id }
  rw [hall]
  exact ⟨rfl, rfl, rfl, rfl, rfl, rfl⟩

theorem presentOutput_obligations (env : Env) (o : OutstandingPresentation) (id : String)
    (hone : SingleOutput s) {b : PresentationObligation} :
    (presentOutput s env o id).presentationObligations.get? c = some b ↔
      s.presentationObligations.get? c = some b ∧ ¬ Settles o.frame id c b := by
  obtain ⟨refreshNs, reconciled, h⟩ := presentOutput_spec s env o id
  rw [h]
  exact noted_obligations (s := (s.modifyOutput id (presentRuntime o)).note (.presented id))
    env refreshNs o.token.sequence hone

theorem presentOutput_history (s : DisplayState) (env : Env) (o : OutstandingPresentation)
    (id : String) :
    (presentOutput s env o id).history =
      ((matchingObligations s o.frame id).map fun e =>
        DisplayEffect.resolved e.1 e.2.requiredOutputs).reverse ++ .presented id :: s.history := by
  obtain ⟨refreshNs, reconciled, h⟩ := presentOutput_spec s env o id
  rw [h, notePresentedObligations_eq]
  exact resolveAll_history env refreshNs o.token.sequence _ _

theorem mem_evictOldest {feedbacks : List (Nat × DisplayEvent)} {e : Nat × DisplayEvent}
    (h : e ∈ evictOldest feedbacks) : e ∈ feedbacks := by
  unfold evictOldest at h
  exact List.mem_of_mem_drop h

theorem insertBoundedFeedback_source {feedbacks : OrdMap Nat DisplayEvent} {e' : DisplayEvent}
    (h : (insertBoundedFeedback feedbacks c e).get? k = some e') :
    (k = c ∧ e' = e) ∨ feedbacks.get? k = some e' := by
  unfold insertBoundedFeedback at h
  rw [OrdMap.get?_insert] at h
  split_ifs at h with hk
  · exact .inl ⟨hk, (Option.some.inj h).symm⟩
  · have hmem := OrdMap.mem_entries.mpr h
    dsimp only at hmem
    exact .inr (OrdMap.mem_entries.mp (mem_evictOldest hmem))

theorem resolveObligation_feedback {a : Nat × PresentationObligation}
    (h : (resolveObligation env refreshNs seq s a).presentationFeedbacks.get? k = some e) :
    (k = a.1 ∧ e = framePresentedEvent a.1 (env.monotonicNow a.1) refreshNs seq) ∨
      s.presentationFeedbacks.get? k = some e :=
  insertBoundedFeedback_source h

theorem resolveAll_feedback {l : List (Nat × PresentationObligation)}
    (h : (resolveAll env refreshNs seq l s).presentationFeedbacks.get? k = some e) :
    (∃ b, (k, b) ∈ l ∧ e = framePresentedEvent k (env.monotonicNow k) refreshNs seq) ∨
      s.presentationFeedbacks.get? k = some e := by
  induction l generalizing s with
  | nil => exact .inr h
  | cons a l ih =>
    obtain ⟨c, b⟩ := a
    rw [resolveAll, List.foldl_cons] at h
    cases ih h with
    | inl hl =>
      obtain ⟨b', hb', he⟩ := hl
      exact .inl ⟨b', List.mem_cons_of_mem _ hb', he⟩
    | inr hs =>
      cases resolveObligation_feedback hs with
      | inl hnew =>
        obtain ⟨hk, he⟩ := hnew
        exact .inl ⟨b, hk ▸ List.mem_cons_self, hk ▸ he⟩
      | inr hold => exact .inr hold

theorem presentOutput_feedback (env : Env) (o : OutstandingPresentation) (id : String)
    (h : (presentOutput s env o id).presentationFeedbacks.get? k = some e) :
    (∃ b, (k, b) ∈ matchingObligations s o.frame id ∧
        ∃ timestamp refreshNs seq, e = framePresentedEvent k timestamp refreshNs seq) ∨
      s.presentationFeedbacks.get? k = some e := by
  obtain ⟨refreshNs, reconciled, hspec⟩ := presentOutput_spec s env o id
  rw [hspec, notePresentedObligations_eq] at h
  cases resolveAll_feedback h with
  | inl hl =>
    obtain ⟨b, hb, he⟩ := hl
    exact .inl ⟨b, hb, _, _, _, he⟩
  | inr hs => exact .inr hs

theorem rebindObligation_cases (s : DisplayState) (e g : Nat) (required : OrdSet String)
    (o : PresentationObligation) :
    s.rebindObligation e g required o = o ∨
      s.rebindObligation e g required o =
        { o with requiredOutputs := required, presentedOutputs := OrdMap.empty } := by
  unfold DisplayState.rebindObligation
  split_ifs
  · exact .inr rfl
  · exact .inl rfl

theorem rebind_obligations {e : Nat}
    (h : (s.rebindUnavailableObligations e g required).presentationObligations.get? c = some o) :
    ∃ o', s.presentationObligations.get? c = some o' ∧
      (o = o' ∨ (required.isEmpty = false ∧ o = s.rebindObligation e g required o')) := by
  unfold DisplayState.rebindUnavailableObligations at h
  split_ifs at h with hempty
  · exact ⟨o, h, .inl rfl⟩
  · dsimp only at h
    rw [OrdMap.get?_mapVals, Option.map_eq_some_iff] at h
    obtain ⟨o', ho', rfl⟩ := h
    exact ⟨o', ho', .inr ⟨(Bool.not_eq_true _).mp hempty, rfl⟩⟩

theorem rebind_frame (s : DisplayState) (e g : Nat) (required : OrdSet String) :
    s.rebindUnavailableObligations e g required =
      { s with presentationObligations :=
          (s.rebindUnavailableObligations e g required).presentationObligations } := by
  unfold DisplayState.rebindUnavailableObligations
  split_ifs <;> rfl

/-- A rebinding to one output, or to none. -/
theorem singleOutput_rebind {e : Nat} (hone : SingleOutput s)
    (hrequired : required.isEmpty = false → ∃ id, required = OrdSet.single id) :
    SingleOutput (s.rebindUnavailableObligations e g required) := by
  intro c o h
  obtain ⟨o', ho', hcases⟩ := rebind_obligations h
  cases hcases with
  | inl heq => exact heq ▸ hone c o' ho'
  | inr hbound =>
    obtain ⟨hne, heq⟩ := hbound
    cases rebindObligation_cases s e g required o' with
    | inl hsame => exact (heq.trans hsame) ▸ hone c o' ho'
    | inr hnew =>
      obtain ⟨id, hid⟩ := hrequired hne
      exact ⟨id, by rw [heq, hnew, hid], by rw [heq, hnew]⟩

theorem requiredFor_single (s : DisplayState) (c : SceneCommit)
    (damage : OrdMap String (List RendererRect)) :
    requiredFor s c damage = OrdSet.single c.target.name ∨
      requiredFor s c damage = OrdMap.empty := by
  unfold requiredFor DisplayState.requiredOutputsForScene
  dsimp only
  split_ifs
  · exact .inl rfl
  · exact .inr rfl

theorem requiredFor_nonempty {c : SceneCommit} (h : (requiredFor s c damage).isEmpty = false) :
    requiredFor s c damage = OrdSet.single c.target.name := by
  cases requiredFor_single s c damage with
  | inl hsingle => exact hsingle
  | inr hempty =>
    rw [hempty] at h
    simp [OrdMap.isEmpty, OrdMap.empty] at h

theorem recordCommit_spec {scene : CommittedSceneState} (h : s.recordCommit scene env = .ok s') :
    s' =
      { s with
        nextCommitId := satAdd scene.commitId 1
        lastSceneEpoch := if scene.sceneGeneration ≠ 0 then scene.sceneEpoch
          else s.lastSceneEpoch
        lastSceneGeneration := if scene.sceneGeneration ≠ 0 then scene.sceneGeneration
          else s.lastSceneGeneration
        lastScene := some scene
        history := .accepted scene :: s.history } := by
  unfold DisplayState.recordCommit at h
  split at h
  · cases h
  · exact (Except.ok.inj h).symm

theorem applyAcceptance_obligations {c : SceneCommit}
    (h : (applyAcceptance s c commitId store damage required).presentationObligations.get? k =
      some o) :
    (required.isEmpty = false ∧ k = commitId ∧
        o = { sceneEpoch := c.sceneEpoch, sceneGeneration := c.sceneGeneration,
              requiredOutputs := required }) ∨
      s.presentationObligations.get? k = some o := by
  unfold applyAcceptance at h
  dsimp only at h
  split_ifs at h with hempty
  · exact .inr h
  · rw [OrdMap.get?_insert] at h
    split_ifs at h with hk
    · exact .inl ⟨(Bool.not_eq_true _).mp hempty, hk, (Option.some.inj h).symm⟩
    · exact .inr h

/-- The state after a scene was taken over as commit `commitId`. -/
structure Committed (s : DisplayState) (c : SceneCommit) (commitId : Nat)
    (store : DisplayPixelTransportStore) (damage : OrdMap String (List RendererRect))
    (s' : DisplayState) : Prop where
  outputs : s'.outputs = s.outputs.mapVals (damageOutput c commitId damage)
  pixelTransport : s'.pixelTransport = store
  feedbacks : s'.presentationFeedbacks = s.presentationFeedbacks.erase commitId
  obligation : ∀ {k o}, s'.presentationObligations.get? k = some o →
    ((requiredFor s c damage).isEmpty = false ∧ k = commitId ∧
        o = { sceneEpoch := c.sceneEpoch, sceneGeneration := c.sceneGeneration,
              requiredOutputs := requiredFor s c damage }) ∨
      ∃ o', s.presentationObligations.get? k = some o' ∧
        (o = o' ∨ ((requiredFor s c damage).isEmpty = false ∧
          o = s.rebindObligation c.sceneEpoch c.sceneGeneration (requiredFor s c damage) o'))
  reconciliationState : s'.reconciliationState = s.reconciliationState
  displayEpoch : s'.displayEpoch = s.displayEpoch

theorem committed_of_rebound {c : SceneCommit} (houtputs : recorded.outputs = s.outputs)
    (hfeedbacks : recorded.presentationFeedbacks = s.presentationFeedbacks)
    (hobligations : recorded.presentationObligations =
      (reboundFor s c damage).presentationObligations)
    (hreconciliation : recorded.reconciliationState = s.reconciliationState)
    (hepoch : recorded.displayEpoch = s.displayEpoch) :
    Committed s c commitId store damage
      (applyAcceptance recorded c commitId store damage (requiredFor s c damage)) where
  outputs := by
    rw [← houtputs]
    rfl
  pixelTransport := rfl
  feedbacks := by
    rw [← hfeedbacks]
    rfl
  obligation h := by
    cases applyAcceptance_obligations h with
    | inl hnew => exact .inl hnew
    | inr hold =>
      rw [hobligations] at hold
      exact .inr (rebind_obligations hold)
  reconciliationState := hreconciliation
  displayEpoch := hepoch

theorem hydrate_committed (s : DisplayState) (c : SceneCommit) (commitId : Nat)
    (store : DisplayPixelTransportStore) (damage : OrdMap String (List RendererRect)) :
    Committed s c commitId store damage
      (applyAcceptance (reboundFor s c damage) c commitId store damage
        (requiredFor s c damage)) := by
  refine committed_of_rebound ?_ ?_ rfl ?_ ?_
  · rw [reboundFor, rebind_frame]
  · rw [reboundFor, rebind_frame]
  · rw [reboundFor, rebind_frame]
  · rw [reboundFor, rebind_frame]

theorem accept_committed {c : SceneCommit} (store : DisplayPixelTransportStore)
    (hr : (reboundFor s c damage).recordCommit (committedScene c source commitId env) env =
      .ok recorded) :
    Committed s c commitId store damage
      (applyAcceptance recorded c commitId store damage (requiredFor s c damage)) := by
  refine committed_of_rebound ?_ ?_ ?_ ?_ ?_
  · rw [recordCommit_spec hr, reboundFor, rebind_frame]
  · rw [recordCommit_spec hr, reboundFor, rebind_frame]
  · rw [recordCommit_spec hr]
  · rw [recordCommit_spec hr, reboundFor, rebind_frame]
  · rw [recordCommit_spec hr, reboundFor, rebind_frame]

/-- What recording a fresh scene changes. -/
structure Recorded (s : DisplayState) (scene : CommittedSceneState) (required : OrdSet String)
    (s' : DisplayState) : Prop where
  lastScene : s'.lastScene = some scene
  floor : s'.floor = if scene.sceneGeneration ≠ 0 then scene.version else s.floor
  nextCommitId : s'.nextCommitId = satAdd scene.commitId 1
  history : s'.history =
    if required.isEmpty then .accepted scene :: s.history
    else .obliged scene.commitId :: .accepted scene :: s.history

theorem accept_recorded {c : SceneCommit} (store : DisplayPixelTransportStore)
    (hr : (reboundFor s c damage).recordCommit (committedScene c source commitId env) env =
      .ok recorded) :
    Recorded s (committedScene c source commitId env) (requiredFor s c damage)
      (applyAcceptance recorded c commitId store damage (requiredFor s c damage)) := by
  have hepoch : (reboundFor s c damage).lastSceneEpoch = s.lastSceneEpoch := by
    rw [reboundFor, rebind_frame]
  have hgeneration : (reboundFor s c damage).lastSceneGeneration = s.lastSceneGeneration := by
    rw [reboundFor, rebind_frame]
  have hhistory : (reboundFor s c damage).history = s.history := by
    rw [reboundFor, rebind_frame]
  rw [recordCommit_spec hr]
  refine ⟨rfl, ?_, rfl, ?_⟩
  · unfold DisplayState.floor applyAcceptance
    dsimp only
    rw [hepoch, hgeneration]
    split_ifs
    · rfl
    · rfl
  · unfold applyAcceptance
    dsimp only
    rw [hhistory]
    rfl

/-- A replay records nothing but the obligation. -/
theorem hydrate_frame (s : DisplayState) (c : SceneCommit) (commitId : Nat)
    (store : DisplayPixelTransportStore) (damage : OrdMap String (List RendererRect))
    (required : OrdSet String) :
    (applyAcceptance (reboundFor s c damage) c commitId store damage required).lastScene =
        s.lastScene ∧
      (applyAcceptance (reboundFor s c damage) c commitId store damage required).floor =
        s.floor ∧
      (applyAcceptance (reboundFor s c damage) c commitId store damage required).nextCommitId =
        s.nextCommitId ∧
      (applyAcceptance (reboundFor s c damage) c commitId store damage required).history =
        if required.isEmpty then s.history else .obliged commitId :: s.history := by
  rw [reboundFor, rebind_frame]
  exact ⟨rfl, rfl, rfl, rfl⟩

private theorem singleOutput_committed {c : SceneCommit} (hone : SingleOutput s)
    (h : Committed s c commitId store damage s') : SingleOutput s' := by
  intro k o ho
  cases h.obligation ho with
  | inl hnew =>
    obtain ⟨hne, _, ho⟩ := hnew
    exact ⟨c.target.name, by rw [ho, requiredFor_nonempty hne], by rw [ho]⟩
  | inr hold =>
    obtain ⟨o', ho', hcases⟩ := hold
    cases hcases with
    | inl heq => exact heq ▸ hone k o' ho'
    | inr hbound =>
      obtain ⟨hne, heq⟩ := hbound
      cases rebindObligation_cases s c.sceneEpoch c.sceneGeneration (requiredFor s c damage)
        o' with
      | inl hsame => exact (heq.trans hsame) ▸ hone k o' ho'
      | inr hnew => exact ⟨c.target.name, by rw [heq, hnew, requiredFor_nonempty hne],
          by rw [heq, hnew]⟩

theorem singleOutput_reboundFor (hone : SingleOutput s) (c : SceneCommit)
    (damage : OrdMap String (List RendererRect)) : SingleOutput (reboundFor s c damage) :=
  singleOutput_rebind hone fun h => ⟨_, requiredFor_nonempty h⟩

theorem registerOutput_obligations (s : DisplayState) (id : String) (runtime : OutputRuntime) :
    ∃ s₁, (registerOutput s id runtime = s₁ ∨ registerOutput s id runtime =
        s₁.rebindUnavailableObligations s.lastSceneEpoch s.lastSceneGeneration
          (OrdSet.single id)) ∧ s₁ = { s with outputs := s.outputs.insert id runtime } := by
  unfold registerOutput
  dsimp only
  split
  · exact ⟨_, .inl rfl, rfl⟩
  · split_ifs
    · exact ⟨_, .inr rfl, rfl⟩
    · exact ⟨_, .inl rfl, rfl⟩

theorem registerOutput_outputs (s : DisplayState) (id : String) (runtime : OutputRuntime) :
    (registerOutput s id runtime).outputs = s.outputs.insert id runtime := by
  obtain ⟨s₁, hcases, rfl⟩ := registerOutput_obligations s id runtime
  cases hcases with
  | inl heq => rw [heq]
  | inr heq => rw [heq, rebind_frame]

theorem SingleOutput.move {P : MovePolicy} (hone : SingleOutput s) (h : Move P s s') :
    SingleOutput s' := by
  cases h with
  | refuse _ _ => exact singleOutput_reboundFor hone _ _
  | accept _ _ hr => exact singleOutput_committed hone (accept_committed _ hr)
  | hydrate _ _ => exact singleOutput_committed hone (hydrate_committed _ _ _ _ _)
  | quiet _ => exact hone
  | submitFailed _ _ _ => exact hone
  | submit _ => exact hone
  | present _ _ =>
    intro c o h
    exact hone c o ((presentOutput_obligations _ _ _ hone).mp h).1
  | fail _ _ => exact hone
  | connect _ _ =>
    obtain ⟨s₁, hcases, hs₁⟩ := registerOutput_obligations s _ _
    have hone₁ : SingleOutput s₁ := hs₁ ▸ hone
    cases hcases with
    | inl heq => exact heq ▸ hone₁
    | inr heq => exact heq ▸ singleOutput_rebind hone₁ fun _ => ⟨_, rfl⟩
  | disable _ => exact hone
  | drop _ => exact hone
  | retireAll => exact hone
  | clearFeedbacks => exact hone
  | clearOutputs _ => exact hone
  | bookkeeping h =>
    intro c o ho
    exact hone c o (h.obligations ▸ ho)
  | restart _ =>
    intro c o ho
    cases ho

end TuffXwin.Displayd
