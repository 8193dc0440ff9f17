import TuffXwin.Displayd.Runs

/-! What the history of a run shows: every resolved obligation was owed, and the
outputs it waited for had presented a frame of its scene or of a later one. The
invariant relates the commit ids and versions of the canonical scene, of the
obligations and of the frames in flight. -/

namespace TuffXwin.Displayd
open Lib

variable {s s' : DisplayState} {history : List DisplayEffect} {c : Nat} {required : OrdSet String}
  {store : DisplayPixelTransportStore} {damage : OrdMap String (List RendererRect)}
variable {l : List (Nat × PresentationObligation)} {r' : OutputRuntime} {commitId e g sc : Nat}
  {b : PresentationObligation}
variable {r : OutputRuntime} {k : Nat} {scene : CommittedSceneState} {o : OutstandingPresentation}

/-- Does a history, newest effect first, leave an obligation for this commit open? -/
def Owed (commitId : Nat) : List DisplayEffect → Prop
  | [] => False
  | .obliged c :: older => c = commitId ∨ Owed commitId older
  | .resolved c _ :: older => c ≠ commitId ∧ Owed commitId older
  | .accepted _ :: older => Owed commitId older
  | .submitted _ _ :: older => Owed commitId older
  | .presented _ :: older => Owed commitId older

/-- The commit of the scene in the frame last submitted for an output. -/
def submittedScene (outputId : String) : List DisplayEffect → Option Nat
  | [] => none
  | .submitted id c :: older => if id = outputId then some c else submittedScene outputId older
  | .obliged _ :: older => submittedScene outputId older
  | .resolved _ _ :: older => submittedScene outputId older
  | .accepted _ :: older => submittedScene outputId older
  | .presented _ :: older => submittedScene outputId older

/-- An output has presented a frame of this commit's scene, or of a later one. -/
def Shown (outputId : String) (commitId : Nat) (history : List DisplayEffect) : Prop :=
  ∃ newer older, history = newer ++ .presented outputId :: older ∧
    ∃ c, submittedScene outputId older = some c ∧ commitId ≤ c

/-- Each resolution closes an open obligation, after its outputs showed the scene. -/
def ResolvedRightly (history : List DisplayEffect) : Prop :=
  ∀ newer commitId required older, history = newer ++ .resolved commitId required :: older →
    Owed commitId older ∧ ∀ id, required.contains id = true → Shown id commitId older

theorem Shown.cons {id : String} (h : Shown id c history) (e : DisplayEffect) :
    Shown id c (e :: history) := by
  obtain ⟨newer, older, rfl, hshown⟩ := h
  exact ⟨e :: newer, older, rfl, hshown⟩

def DisplayEffect.IsResolved : DisplayEffect → Prop
  | .resolved _ _ => True
  | _ => False

theorem ResolvedRightly.cons (h : ResolvedRightly history) {e : DisplayEffect}
    (he : ¬ e.IsResolved) : ResolvedRightly (e :: history) := by
  intro newer c required older heq
  cases newer with
  | nil =>
    obtain ⟨rfl, _⟩ := List.cons.inj heq
    exact absurd trivial he
  | cons e' newer => exact h newer c required older (List.cons.inj heq).2

theorem ResolvedRightly.resolve (h : ResolvedRightly history) (howed : Owed c history)
    (hshown : ∀ id, required.contains id = true → Shown id c history) :
    ResolvedRightly (.resolved c required :: history) := by
  intro newer c' required' older heq
  cases newer with
  | nil =>
    obtain ⟨heffect, rfl⟩ := List.cons.inj heq
    cases heffect
    exact ⟨howed, hshown⟩
  | cons e' newer => exact h newer c' required' older (List.cons.inj heq).2

/-- The effects of a list of resolutions, newest first. -/
def resolutions (l : List (Nat × PresentationObligation)) : List DisplayEffect :=
  (l.map fun e => DisplayEffect.resolved e.1 e.2.requiredOutputs).reverse

theorem resolutions_cons (e : Nat × PresentationObligation)
    (l : List (Nat × PresentationObligation)) (history : List DisplayEffect) :
    resolutions (e :: l) ++ history =
      resolutions l ++ .resolved e.1 e.2.requiredOutputs :: history := by
  simp [resolutions]

theorem submittedScene_resolutions (id : String) (l : List (Nat × PresentationObligation))
    (history : List DisplayEffect) :
    submittedScene id (resolutions l ++ history) = submittedScene id history := by
  induction l generalizing history with
  | nil => rfl
  | cons e l ih =>
    rw [resolutions_cons, ih]
    rfl

theorem owed_resolutions (hc : c ∉ l.map Prod.fst) (h : Owed c history) :
    Owed c (resolutions l ++ history) := by
  induction l generalizing history with
  | nil => exact h
  | cons e l ih =>
    rw [List.map_cons, List.mem_cons, not_or] at hc
    rw [resolutions_cons]
    exact ih hc.2 ⟨fun heq => hc.1 heq.symm, h⟩

theorem ResolvedRightly.resolutions (h : ResolvedRightly history) (hnodup : (l.map Prod.fst).Nodup)
    (hl : ∀ e ∈ l, Owed e.1 history ∧
      ∀ id, e.2.requiredOutputs.contains id = true → Shown id e.1 history) :
    ResolvedRightly (resolutions l ++ history) := by
  induction l generalizing history with
  | nil => exact h
  | cons e l ih =>
    rw [List.map_cons, List.nodup_cons] at hnodup
    rw [resolutions_cons]
    obtain ⟨howed, hshown⟩ := hl e (by simp)
    refine ih (h.resolve howed hshown) hnodup.2 fun e' he' => ?_
    obtain ⟨howed', hshown'⟩ := hl e' (by simp [he'])
    have hne : e.1 ≠ e'.1 := fun heq =>
      hnodup.1 (heq ▸ List.mem_map_of_mem he')
    exact ⟨⟨hne, howed'⟩, fun id hid => (hshown' id hid).cons _⟩

/-- A frame in flight, composed from the scene of commit `sceneCommitId`: nothing
of its version or older was committed later. -/
structure TracedFrame (s : DisplayState) (id : String) (o : OutstandingPresentation)
    (sceneCommitId : Nat) : Prop where
  submitted : submittedScene id s.history = some sceneCommitId
  last : sceneCommitId ≤ s.lastCommitId
  commit : o.frame.commitId ≤ sceneCommitId
  floor : o.frame.version ≤ s.floor
  versioned : o.frame.sceneEpoch = 0 ↔ o.frame.sceneGeneration = 0
  obligation : ∀ c b, s.presentationObligations.get? c = some b → b.sceneGeneration ≠ 0 →
    b.version ≤ o.frame.version → c ≤ sceneCommitId
  scene : ∀ scene, s.lastScene = some scene → scene.sceneGeneration ≠ 0 →
    scene.version ≤ o.frame.version → scene.commitId ≤ sceneCommitId

structure TracedOutput (s : DisplayState) (id : String) (r : OutputRuntime) : Prop where
  pending : r.pendingCommitId ≤ s.lastCommitId
  frame : ∀ o, r.outstanding = some o → ∃ c, TracedFrame s id o c

structure TracedObligation (s : DisplayState) (c : Nat) (b : PresentationObligation) :
    Prop where
  last : c ≤ s.lastCommitId
  owed : Owed c s.history
  versioned : b.sceneEpoch = 0 ↔ b.sceneGeneration = 0

structure TracedScene (s : DisplayState) (scene : CommittedSceneState) : Prop where
  next : s.nextCommitId = satAdd scene.commitId 1
  floor : scene.version ≤ s.floor
  versioned : scene.sceneEpoch = 0 ↔ scene.sceneGeneration = 0

def FeedbackRecorded (c : Nat) (feedback : DisplayEvent) (history : List DisplayEffect) :
    Prop :=
  (∃ timestamp refreshNs seq, feedback = framePresentedEvent c timestamp refreshNs seq) ∧
    ∃ required, DisplayEffect.resolved c required ∈ history

structure Traced (s : DisplayState) : Prop where
  scene : ∀ scene, s.lastScene = some scene → TracedScene s scene
  obligation : ∀ c b, s.presentationObligations.get? c = some b → TracedObligation s c b
  output : ∀ id r, s.outputs.get? id = some r → TracedOutput s id r
  feedback : ∀ c e, s.presentationFeedbacks.get? c = some e → FeedbackRecorded c e s.history
  history : ResolvedRightly s.history

/-- Moves that record no scene: the frames and obligations left are old ones. -/
structure TraceFrame (s s' : DisplayState) : Prop where
  lastScene : s'.lastScene = s.lastScene
  floor : s'.floor = s.floor
  nextCommitId : s'.nextCommitId = s.nextCommitId
  history : s'.history = s.history
  obligation : ∀ c b', s'.presentationObligations.get? c = some b' →
    ∃ b, s.presentationObligations.get? c = some b ∧ b'.sceneEpoch = b.sceneEpoch ∧
      b'.sceneGeneration = b.sceneGeneration
  output : ∀ id r', s'.outputs.get? id = some r' → r'.pendingCommitId ≤ s.lastCommitId ∧
    ∀ o, r'.outstanding = some o → ∃ r, s.outputs.get? id = some r ∧ r.outstanding = some o
  feedback : ∀ c e, s'.presentationFeedbacks.get? c = some e →
    s.presentationFeedbacks.get? c = some e

theorem TraceFrame.lastCommitId (hf : TraceFrame s s') : s'.lastCommitId = s.lastCommitId := by
  rw [DisplayState.lastCommitId, DisplayState.lastCommitId, hf.lastScene]

theorem Traced.frame (h : Traced s) (hf : TraceFrame s s') : Traced s' where
  scene scene hscene := by
    obtain ⟨hnext, hfloor, hversioned⟩ := h.scene scene (hf.lastScene ▸ hscene)
    exact ⟨hf.nextCommitId.trans hnext, hf.floor ▸ hfloor, hversioned⟩
  obligation c b' hb' := by
    obtain ⟨b, hb, he, hg⟩ := hf.obligation c b' hb'
    obtain ⟨hlast, howed, hversioned⟩ := h.obligation c b hb
    exact ⟨hf.lastCommitId ▸ hlast, hf.history ▸ howed, by rw [he, hg]; exact hversioned⟩
  output id r' hr' := by
    obtain ⟨hpending, houtstanding⟩ := hf.output id r' hr'
    refine ⟨hf.lastCommitId ▸ hpending, fun o ho => ?_⟩
    obtain ⟨r, hr, ho'⟩ := houtstanding o ho
    obtain ⟨c, hframe⟩ := (h.output id r hr).frame o ho'
    refine ⟨c, hf.history ▸ hframe.submitted, hf.lastCommitId ▸ hframe.last, hframe.commit,
      hf.floor ▸ hframe.floor, hframe.versioned, fun k b' hb' hgen hle => ?_,
      fun scene hscene => hframe.scene scene (hf.lastScene ▸ hscene)⟩
    obtain ⟨b, hb, he, hg⟩ := hf.obligation k b' hb'
    refine hframe.obligation k b hb (hg ▸ hgen) ?_
    rw [PresentationObligation.version, ← he, ← hg]
    exact hle
  feedback c e he := by
    rw [hf.history]
    exact h.feedback c e (hf.feedback c e he)
  history := hf.history ▸ h.history

theorem standing_output {id : String} (hr : s.outputs.get? id = some r)
    (hpending : r'.pendingCommitId ≤ s.lastCommitId)
    (ho : r'.outstanding = r.outstanding ∨ r'.outstanding = none) :
    r'.pendingCommitId ≤ s.lastCommitId ∧
      ∀ o, r'.outstanding = some o → ∃ r, s.outputs.get? id = some r ∧ r.outstanding = some o := by
  refine ⟨hpending, fun o hstanding => ?_⟩
  cases ho with
  | inl heq => exact ⟨r, hr, heq ▸ hstanding⟩
  | inr hnone =>
    rw [hnone] at hstanding
    cases hstanding

/-- A change of one output that starts no frame. -/
theorem traceFrame_modifyOutput {id : String} {f : OutputRuntime → OutputRuntime} (h : Traced s)
    (hf : ∀ r, s.outputs.get? id = some r → (f r).pendingCommitId ≤ s.lastCommitId ∧
      ((f r).outstanding = r.outstanding ∨ (f r).outstanding = none)) :
    TraceFrame s (s.modifyOutput id f) where
  lastScene := rfl
  floor := rfl
  nextCommitId := rfl
  history := rfl
  obligation c b hb := ⟨b, hb, rfl, rfl⟩
  output id' r' hr' := by
    cases DisplayState.modifyOutput_origin hr' with
    | inl hother =>
      exact standing_output hother.2 (h.output id' r' hother.2).pending (.inl rfl)
    | inr hself =>
      obtain ⟨rfl, r, hr, rfl⟩ := hself
      exact standing_output hr (hf r hr).1 (hf r hr).2
  feedback _ _ he := he

theorem rebindObligation_version (s : DisplayState) (e g : Nat) (required : OrdSet String)
    (o : PresentationObligation) :
    (s.rebindObligation e g required o).sceneEpoch = o.sceneEpoch ∧
      (s.rebindObligation e g required o).sceneGeneration = o.sceneGeneration := by
  cases rebindObligation_cases s e g required o with
  | inl hsame =>
    rw [hsame]
    exact ⟨rfl, rfl⟩
  | inr hnew =>
    rw [hnew]
    exact ⟨rfl, rfl⟩

theorem rebind_version {o : PresentationObligation}
    (h : (s.rebindUnavailableObligations e g required).presentationObligations.get? c = some o) :
    ∃ o', s.presentationObligations.get? c = some o' ∧ o.sceneEpoch = o'.sceneEpoch ∧
      o.sceneGeneration = o'.sceneGeneration := by
  obtain ⟨o', ho', hcases⟩ := rebind_obligations h
  refine ⟨o', ho', ?_⟩
  cases hcases with
  | inl heq => exact ⟨heq ▸ rfl, heq ▸ rfl⟩
  | inr hbound =>
    rw [hbound.2]
    exact rebindObligation_version s e g required o'

theorem Committed.version {c : SceneCommit} (h : Committed s c commitId store damage s')
    {o : PresentationObligation} (ho : s'.presentationObligations.get? k = some o) :
    ((requiredFor s c damage).isEmpty = false ∧ k = commitId ∧ o.sceneEpoch = c.sceneEpoch ∧
        o.sceneGeneration = c.sceneGeneration) ∨
      ∃ o', s.presentationObligations.get? k = some o' ∧ o.sceneEpoch = o'.sceneEpoch ∧
        o.sceneGeneration = o'.sceneGeneration := by
  cases h.obligation ho with
  | inl hnew =>
    obtain ⟨hne, hk, rfl⟩ := hnew
    exact .inl ⟨hne, hk, rfl, rfl⟩
  | inr hold =>
    obtain ⟨o', ho', hcases⟩ := hold
    refine .inr ⟨o', ho', ?_⟩
    cases hcases with
    | inl heq => exact ⟨heq ▸ rfl, heq ▸ rfl⟩
    | inr hbound =>
      rw [hbound.2]
      exact rebindObligation_version _ _ _ _ o'

theorem damageOutput_outstanding (c : SceneCommit) (commitId : Nat)
    (damage : OrdMap String (List RendererRect)) (id : String) (r : OutputRuntime) :
    (damageOutput c commitId damage id r).outstanding = r.outstanding ∧
      ((damageOutput c commitId damage id r).pendingCommitId = commitId ∨
        (damageOutput c commitId damage id r).pendingCommitId = r.pendingCommitId) := by
  unfold damageOutput
  split
  · exact ⟨rfl, .inr rfl⟩
  · split_ifs
    · exact ⟨rfl, .inr rfl⟩
    · exact ⟨rfl, .inl rfl⟩

/-- A fresh versioned scene is newer than every scene accepted so far. -/
theorem Acceptable.newer {c : SceneCommit} (h : Acceptable s c none store damage)
    (hgen : c.sceneGeneration ≠ 0) : s.floor < c.version := by
  have hepoch : c.sceneEpoch ≠ 0 := fun he => hgen (h.admissible.version.mp he)
  have hstale := h.notStale
  have hequal := replayDecision_none h.decision
  unfold sceneVersionIsStale at hstale
  rw [if_neg (fun hz => hgen hz.2), decide_eq_false_iff_not, not_lt] at hstale
  unfold sceneVersionIsEqual at hequal
  rw [decide_eq_false_iff_not] at hequal
  exact lt_of_le_of_ne hstale fun heq => hequal ⟨hepoch, heq.symm⟩

theorem Traced.lastCommitId_le_next (h : Traced s) : s.lastCommitId ≤ s.nextCommitId := by
  unfold DisplayState.lastCommitId
  cases hlast : s.lastScene with
  | none => exact Nat.zero_le _
  | some scene =>
    rw [(h.scene scene hlast).next]
    exact le_satAdd _ _

theorem lastCommitId_some (h : s.lastScene = some scene) : s.lastCommitId = scene.commitId := by
  rw [DisplayState.lastCommitId, h]
  rfl

/-- What a scene taken over as commit `commitId` leaves of the history. -/
structure HistoryAfter (s s' : DisplayState) (commitId : Nat) (required : OrdSet String) : Prop
    where
  last : s'.lastCommitId = commitId
  lastMono : s.lastCommitId ≤ s'.lastCommitId
  floor : s.floor ≤ s'.floor
  submitted : ∀ id, submittedScene id s'.history = submittedScene id s.history
  owed : ∀ k, Owed k s.history → Owed k s'.history
  obliged : required.isEmpty = false → Owed commitId s'.history
  mem : ∀ e ∈ s.history, e ∈ s'.history
  resolvedRightly : ResolvedRightly s.history → ResolvedRightly s'.history

section Committed

variable {s s' : DisplayState} {c : SceneCommit} {commitId : Nat}
  {store : DisplayPixelTransportStore} {damage : OrdMap String (List RendererRect)}

theorem TracedObligation.committed (h : Traced s) (hc : Committed s c commitId store damage s')
    (hh : HistoryAfter s s' commitId (requiredFor s c damage)) (ha : AdmissibleScene c)
    (hb : s'.presentationObligations.get? k = some b) : TracedObligation s' k b := by
  cases hc.version hb with
  | inl hnew =>
    obtain ⟨hne, rfl, he, hg⟩ := hnew
    exact ⟨hh.last.ge, hh.obliged hne, by rw [he, hg]; exact ha.version⟩
  | inr hold =>
    obtain ⟨b', hb', he, hg⟩ := hold
    obtain ⟨hkey, hob, hversioned⟩ := h.obligation k b' hb'
    exact ⟨hkey.trans hh.lastMono, hh.owed k hob, by rw [he, hg]; exact hversioned⟩

theorem TracedFrame.committed {id : String} (h : TracedFrame s id o sc)
    (hc : Committed s c commitId store damage s')
    (hh : HistoryAfter s s' commitId (requiredFor s c damage))
    (hnew : c.sceneGeneration ≠ 0 → c.version ≤ o.frame.version → commitId ≤ sc)
    (hscene : ∀ scene, s'.lastScene = some scene → scene.sceneGeneration ≠ 0 →
      scene.version ≤ o.frame.version → scene.commitId ≤ sc) : TracedFrame s' id o sc where
  submitted := (hh.submitted id).trans h.submitted
  last := h.last.trans hh.lastMono
  commit := h.commit
  floor := h.floor.trans hh.floor
  versioned := h.versioned
  obligation k b hb hgen hv := by
    cases hc.version hb with
    | inl hob =>
      obtain ⟨_, hk, he, hg⟩ := hob
      rw [PresentationObligation.version, he, hg] at hv
      exact hk ▸ hnew (hg ▸ hgen) hv
    | inr hold =>
      obtain ⟨b', hb', he, hg⟩ := hold
      rw [PresentationObligation.version, he, hg] at hv
      exact h.obligation k b' hb' (hg ▸ hgen) hv
  scene := hscene

theorem TracedOutput.committed {id : String} (h : Traced s)
    (hc : Committed s c commitId store damage s')
    (hh : HistoryAfter s s' commitId (requiredFor s c damage))
    (hframe : ∀ r o sc, s.outputs.get? id = some r → r.outstanding = some o →
      TracedFrame s id o sc → TracedFrame s' id o sc) (hr' : s'.outputs.get? id = some r') :
    TracedOutput s' id r' := by
  rw [hc.outputs, OrdMap.get?_mapVals, Option.map_eq_some_iff] at hr'
  obtain ⟨r, hr, rfl⟩ := hr'
  obtain ⟨hstanding, hcommit⟩ := damageOutput_outstanding c commitId damage id r
  have hout := h.output id r hr
  refine ⟨?_, fun o ho => ?_⟩
  · cases hcommit with
    | inl hnew =>
      rw [hnew]
      exact hh.last.ge
    | inr hold =>
      rw [hold]
      exact hout.pending.trans hh.lastMono
  · obtain ⟨sc, hsc⟩ := hout.frame o (hstanding ▸ ho)
    exact ⟨sc, hframe r o sc hr (hstanding ▸ ho) hsc⟩

theorem FeedbackRecorded.committed (h : Traced s) (hc : Committed s c commitId store damage s')
    (hh : HistoryAfter s s' commitId (requiredFor s c damage)) {e : DisplayEvent}
    (he : s'.presentationFeedbacks.get? k = some e) : FeedbackRecorded k e s'.history := by
  rw [hc.feedbacks, OrdMap.get?_erase] at he
  split_ifs at he
  obtain ⟨hevent, required, hmem⟩ := h.feedback k e he
  exact ⟨hevent, required, hh.mem _ hmem⟩

end Committed

private theorem historyAfter_accept (h : Traced s) (hr : Recorded s scene required s')
    (hcommit : scene.commitId = s.nextCommitId) (hfloor : s.floor ≤ s'.floor) :
    HistoryAfter s s' s.nextCommitId required where
  last := (lastCommitId_some hr.lastScene).trans hcommit
  lastMono := by
    rw [lastCommitId_some hr.lastScene, hcommit]
    exact h.lastCommitId_le_next
  floor := hfloor
  submitted id := by
    rw [hr.history]
    split_ifs
    · rfl
    · rfl
  owed k hk := by
    rw [hr.history]
    split_ifs
    · exact hk
    · exact .inr hk
  obliged hne := by
    rw [hr.history, if_neg (by simp [hne])]
    exact .inl hcommit
  mem e he := by
    rw [hr.history]
    split_ifs
    · exact List.mem_cons_of_mem _ he
    · exact List.mem_cons_of_mem _ (List.mem_cons_of_mem _ he)
  resolvedRightly hh := by
    rw [hr.history]
    split_ifs
    · exact hh.cons id
    · exact (hh.cons id).cons id

theorem Traced.accept {recorded : DisplayState} {c : SceneCommit} {source : ServiceRole} {env : Env}
    (h : Traced s) (ha : Acceptable s c none store damage)
    (hr : (reboundFor s c damage).recordCommit
      (committedScene c source s.nextCommitId env) env = .ok recorded) :
    Traced (applyAcceptance recorded c s.nextCommitId store damage (requiredFor s c damage)) := by
  have hc := accept_committed store hr
  have hrecorded := accept_recorded store hr
  generalize applyAcceptance recorded c s.nextCommitId store damage (requiredFor s c damage) = s'
    at hc hrecorded ⊢
  have hfloor : s.floor ≤ s'.floor := by
    rw [hrecorded.floor]
    split_ifs with hgen
    · exact (ha.newer hgen).le
    · exact le_rfl
  have hh := historyAfter_accept h hrecorded rfl hfloor
  have hunseen : ∀ id o sc, TracedFrame s id o sc → c.sceneGeneration ≠ 0 →
      ¬ c.version ≤ o.frame.version := fun id o sc hframe hgen hv =>
    absurd (ha.newer hgen) (not_lt.mpr (hv.trans hframe.floor))
  refine ⟨fun scene hscene => ?_, fun k b hb => .committed h hc hh ha.admissible hb,
    fun id r' hr' => .committed h hc hh (fun r o sc _ _ hframe => ?_) hr',
    fun k e he => .committed h hc hh he, hh.resolvedRightly h.history⟩
  · obtain rfl := Option.some.inj (hrecorded.lastScene.symm.trans hscene)
    refine ⟨hrecorded.nextCommitId, ?_, ha.admissible.version⟩
    rw [hrecorded.floor]
    split_ifs with hgen
    · exact le_rfl
    · have hg : c.sceneGeneration = 0 := not_not.mp hgen
      have hz : (committedScene c source s.nextCommitId env).version = sceneVersion 0 0 := by
        rw [CommittedSceneState.version]
        exact sceneVersion_eq.mpr ⟨ha.admissible.version.mpr hg, hg⟩
      rw [hz]
      exact sceneVersion_zero_le _
  · refine hframe.committed hc hh (fun hgen hv => absurd hv (hunseen id o sc hframe hgen))
      fun scene hscene hgen hv => ?_
    obtain rfl := Option.some.inj (hrecorded.lastScene.symm.trans hscene)
    exact absurd hv (hunseen id o sc hframe hgen)

/-- A replay repeats the canonical scene, version included. -/
theorem Replayed.version {c : SceneCommit} {existing : CommittedSceneState}
    (h : Replayed s c existing) : c.version = existing.version ∧ c.sceneGeneration =
      existing.sceneGeneration := by
  have hsame := h.same
  unfold sameSceneIdentity at hsame
  obtain ⟨_, _, _, _, he, hg⟩ := of_decide_eq_true hsame
  rw [SceneCommit.version, CommittedSceneState.version, he, hg]
  exact ⟨rfl, rfl⟩

theorem Traced.hydrate {c : SceneCommit} (h : Traced s)
    (ha : Acceptable s c (some commitId) store damage) :
    Traced (applyAcceptance (reboundFor s c damage) c commitId store damage
      (requiredFor s c damage)) := by
  have hc := hydrate_committed s c commitId store damage
  obtain ⟨hscene, hfloor, hnext, hhistory⟩ := hydrate_frame s c commitId store damage
    (requiredFor s c damage)
  generalize applyAcceptance (reboundFor s c damage) c commitId store damage
    (requiredFor s c damage) = s' at hc hscene hfloor hnext hhistory ⊢
  obtain ⟨existing, hreplayed, rfl⟩ := replayDecision_some ha.decision
  obtain ⟨hversion, hgeneration⟩ := hreplayed.version
  have hlast : s'.lastCommitId = s.lastCommitId := by
    rw [DisplayState.lastCommitId, DisplayState.lastCommitId, hscene]
  have hh : HistoryAfter s s' existing.commitId (requiredFor s c damage) := by
    refine ⟨hlast.trans (lastCommitId_some hreplayed.last), hlast.ge, hfloor.ge, fun id => ?_,
      fun k hk => ?_, fun hne => ?_, fun e he => ?_, fun hr => ?_⟩
    · rw [hhistory]
      split_ifs
      · rfl
      · rfl
    · rw [hhistory]
      split_ifs
      · exact hk
      · exact .inr hk
    · rw [hhistory, if_neg (by simp [hne])]
      exact .inl rfl
    · rw [hhistory]
      split_ifs
      · exact he
      · exact List.mem_cons_of_mem _ he
    · rw [hhistory]
      split_ifs
      · exact hr
      · exact hr.cons id
  refine ⟨fun scene hs => ?_, fun k b hb => .committed h hc hh ha.admissible hb,
    fun id r' hr' => .committed h hc hh (fun r o sc _ _ hframe => ?_) hr',
    fun k e he => .committed h hc hh he, hh.resolvedRightly h.history⟩
  · obtain ⟨hn, hf, hv⟩ := h.scene scene (hscene ▸ hs)
    exact ⟨hnext.trans hn, hfloor ▸ hf, hv⟩
  · refine hframe.committed hc hh (fun hgen hv => ?_) fun scene hs =>
      hframe.scene scene (hscene ▸ hs)
    exact hframe.scene existing hreplayed.last (hgeneration ▸ hgen) (hversion ▸ hv)

theorem Traced.submit {id : String} {pixels : List UInt32} {token : PresentationToken}
    (h : Traced s) (hs : Submission s id r scene pixels token) :
    Traced (submitState s id (composedFrame r id scene pixels) token scene.commitId) := by
  have hlast := lastCommitId_some hs.last
  have hscene := h.scene scene hs.last
  refine ⟨fun scene' hscene' => ?_, fun k b hb => ?_, fun id' r' hr' => ?_, fun k e he => ?_,
    h.history.cons fun hf => hf⟩
  · obtain ⟨hn, hf, hv⟩ := h.scene scene' hscene'
    exact ⟨hn, hf, hv⟩
  · obtain ⟨hkey, howed, hv⟩ := h.obligation k b hb
    exact ⟨hkey, howed, hv⟩
  · cases DisplayState.modifyOutput_origin hr' with
    | inl hother =>
      obtain ⟨hne, hr⟩ := hother
      obtain ⟨hpending, hframe⟩ := h.output id' r' hr
      refine ⟨hpending, fun o ho => ?_⟩
      obtain ⟨sc, hsc⟩ := hframe o ho
      refine ⟨sc, ?_, hsc.last, hsc.commit, hsc.floor, hsc.versioned, hsc.obligation, hsc.scene⟩
      exact (if_neg fun heq => hne heq.symm).trans hsc.submitted
    | inr hself =>
      obtain ⟨rfl, r₀, hr₀, rfl⟩ := hself
      obtain rfl := Option.some.inj (hs.output.symm.trans hr₀)
      have hpending := (h.output id' r hs.output).pending
      refine ⟨hpending, fun o ho => ⟨scene.commitId, ?_⟩⟩
      obtain rfl := Option.some.inj ho
      refine ⟨if_pos rfl, hlast.ge, hlast ▸ hpending, hscene.floor, hscene.versioned,
        fun c b hb _ _ => hlast ▸ (h.obligation c b hb).last, fun scene' hscene' _ _ => ?_⟩
      obtain rfl := Option.some.inj (hs.last.symm.trans hscene')
      exact le_rfl
  · obtain ⟨hevent, required, hmem⟩ := h.feedback k e he
    exact ⟨hevent, required, List.mem_cons_of_mem _ hmem⟩

theorem matching_nodup (s : DisplayState) (frame : FramePublication) (id : String) :
    ((matchingObligations s frame id).map Prod.fst).Nodup := by
  have hkeys : ((notedObligations s frame id).entries.map Prod.fst).Nodup := by
    rw [List.nodup_iff_pairwise_ne, List.pairwise_map]
    exact (notedObligations s frame id).sorted.imp fun hlt => ne_of_lt hlt
  exact hkeys.sublist (List.filter_sublist.map _)

/-- A frame that settles an obligation was composed from its scene or a later one. -/
theorem TracedFrame.settled {id : String} (h : TracedFrame s id o sc)
    (hb : s.presentationObligations.get? c = some b) (hv : TracedObligation s c b)
    (hs : Settles o.frame id c b) : c ≤ sc := by
  have hmatch := hs.1
  unfold generationMatches at hmatch
  split_ifs at hmatch with hgen
  · rw [decide_eq_true_eq] at hmatch
    exact hmatch ▸ h.commit
  · rw [decide_eq_true_eq] at hmatch
    obtain ⟨hepoch, hle⟩ := hmatch
    refine h.obligation c b hb ?_ (sceneVersion_le.mpr (.inr ⟨hepoch, hle⟩))
    rw [Ne, ← hv.versioned, hepoch, h.versioned]
    exact hgen

theorem Traced.present {id : String} (env : Env) (h : Traced s) (hone : SingleOutput s)
    (hf : InFlight s id r o) : Traced (presentOutput s env o id) := by
  obtain ⟨hscene, hepoch, hgeneration, hnext, _, houtputs⟩ := presentOutput_frame s env o id
  have hhistory : (presentOutput s env o id).history =
      resolutions (matchingObligations s o.frame id) ++ .presented id :: s.history :=
    presentOutput_history s env o id
  have hob := fun {c b} => presentOutput_obligations env o id hone
    (c := c) (b := b)
  have hfeedback := fun {k e} => presentOutput_feedback (s := s) env o id (k := k) (e := e)
  generalize presentOutput s env o id = s' at *
  obtain ⟨sc, hframe⟩ := (h.output id r hf.output).frame o hf.outstanding
  have hlast : s'.lastCommitId = s.lastCommitId := by
    rw [DisplayState.lastCommitId, DisplayState.lastCommitId, hscene]
  have hfloor : s'.floor = s.floor := by
    rw [DisplayState.floor, DisplayState.floor, hepoch, hgeneration]
  have hsubmitted : ∀ id', submittedScene id' s'.history = submittedScene id' s.history := by
    intro id'
    rw [hhistory, submittedScene_resolutions]
    rfl
  have hshown : ∀ c b, (c, b) ∈ matchingObligations s o.frame id →
      Owed c s.history ∧ ∀ id', b.requiredOutputs.contains id' = true →
        Shown id' c (.presented id :: s.history) := by
    intro c b hmem
    obtain ⟨b', hb', hsettles, hrequired⟩ := mem_matching hone hmem
    have htraced := h.obligation c b' hb'
    refine ⟨htraced.owed, fun id' hid' => ?_⟩
    obtain ⟨id₀, hsingle, _⟩ := hone c b' hb'
    have hid := hsettles.2
    rw [hsingle, OrdSet.contains_single] at hid
    rw [hrequired, hsingle, OrdSet.contains_single, ← hid] at hid'
    subst hid'
    exact ⟨[], s.history, rfl, sc, hframe.submitted, hframe.settled hb' htraced hsettles⟩
  refine ⟨fun scene hs => ?_, fun k b hb => ?_, fun id' r' hr' => ?_, fun k e he => ?_, ?_⟩
  · obtain ⟨hn, hfl, hv⟩ := h.scene scene (hscene ▸ hs)
    exact ⟨hnext.trans hn, hfloor ▸ hfl, hv⟩
  · obtain ⟨hb', hunsettled⟩ := hob.mp hb
    obtain ⟨hkey, howed, hv⟩ := h.obligation k b hb'
    refine ⟨hlast ▸ hkey, ?_, hv⟩
    rw [hhistory]
    refine owed_resolutions (fun hmem => hunsettled ?_) howed
    obtain ⟨b₀, hb₀, hsettles⟩ := (matching_key hone).mp hmem
    obtain rfl := Option.some.inj (hb'.symm.trans hb₀)
    exact hsettles
  · rw [houtputs] at hr'
    have hold : r'.pendingCommitId ≤ s.lastCommitId ∧ ∀ o', r'.outstanding = some o' →
        ∃ r, s.outputs.get? id' = some r ∧ r.outstanding = some o' := by
      cases DisplayState.modifyOutput_origin hr' with
      | inl hother => exact standing_output hother.2 (h.output id' r' hother.2).pending (.inl rfl)
      | inr hself =>
        obtain ⟨rfl, r₀, hr₀, rfl⟩ := hself
        exact standing_output hr₀
          ((presentRuntime_pendingCommitId o r₀).trans (h.output id' r₀ hr₀).pending)
          (.inr (presentRuntime_outstanding o r₀))
    refine ⟨hlast ▸ hold.1, fun o' ho' => ?_⟩
    obtain ⟨r₀, hr₀, hstanding⟩ := hold.2 o' ho'
    obtain ⟨c, hc⟩ := (h.output id' r₀ hr₀).frame o' hstanding
    exact ⟨c, (hsubmitted id').trans hc.submitted, hlast ▸ hc.last, hc.commit, hfloor ▸ hc.floor,
      hc.versioned, fun k b hb => hc.obligation k b (hob.mp hb).1,
      fun scene hs => hc.scene scene (hscene ▸ hs)⟩
  · rw [hhistory]
    cases hfeedback he with
    | inl hnew =>
      obtain ⟨b, hmem, hevent⟩ := hnew
      refine ⟨hevent, b.requiredOutputs, List.mem_append_left _ ?_⟩
      exact List.mem_reverse.mpr (List.mem_map_of_mem hmem)
    | inr hold =>
      obtain ⟨hevent, required, hmem⟩ := h.feedback k e hold
      exact ⟨hevent, required, List.mem_append_right _ (List.mem_cons_of_mem _ hmem)⟩
  · rw [hhistory]
    exact (h.history.cons (e := .presented id) fun hf => hf).resolutions (matching_nodup s _ _)
      fun e he => ⟨(hshown e.1 e.2 he).1, (hshown e.1 e.2 he).2⟩

theorem traceFrame_rebind {s₁ : DisplayState} (h : TraceFrame s s₁) :
    TraceFrame s (s₁.rebindUnavailableObligations e g required) where
  lastScene := by rw [rebind_frame]; exact h.lastScene
  floor := by rw [rebind_frame]; exact h.floor
  nextCommitId := by rw [rebind_frame]; exact h.nextCommitId
  history := by rw [rebind_frame]; exact h.history
  obligation c b hb := by
    obtain ⟨b', hb', he, hg⟩ := rebind_version hb
    obtain ⟨b₀, hb₀, he₀, hg₀⟩ := h.obligation c b' hb'
    exact ⟨b₀, hb₀, he.trans he₀, hg.trans hg₀⟩
  output id r' hr' := by
    rw [rebind_frame] at hr'
    exact h.output id r' hr'
  feedback c e' he := by
    rw [rebind_frame] at he
    exact h.feedback c e' he

/-- A change of the registry that keeps no frame but old ones. -/
theorem traceFrame_outputs {outputs : OrdMap String OutputRuntime}
    (h : ∀ id r', outputs.get? id = some r' → r'.pendingCommitId ≤ s.lastCommitId ∧
      ∀ o, r'.outstanding = some o → ∃ r, s.outputs.get? id = some r ∧ r.outstanding = some o) :
    TraceFrame s { s with outputs := outputs } :=
  ⟨rfl, rfl, rfl, rfl, fun _ b hb => ⟨b, hb, rfl, rfl⟩, h, fun _ _ he => he⟩

theorem TraceFrame.refl (h : Traced s) : TraceFrame s s :=
  traceFrame_outputs fun id r hr => standing_output hr (h.output id r hr).pending (.inl rfl)

theorem traceFrame_register {id : String} {runtime : OutputRuntime} (h : Traced s)
    (hpending : runtime.pendingCommitId ≤ s.lastCommitId) (hfree : runtime.outstanding = none) :
    TraceFrame s (registerOutput s id runtime) := by
  obtain ⟨s₁, hcases, rfl⟩ := registerOutput_obligations s id runtime
  have hframe : TraceFrame s { s with outputs := s.outputs.insert id runtime } := by
    refine traceFrame_outputs fun id' r' hr' => ?_
    rw [OrdMap.get?_insert] at hr'
    split_ifs at hr'
    · obtain rfl := Option.some.inj hr'
      refine ⟨hpending, fun o ho => ?_⟩
      rw [hfree] at ho
      cases ho
    · exact standing_output hr' (h.output id' r' hr').pending (.inl rfl)
  cases hcases with
  | inl heq => exact heq ▸ hframe
  | inr heq => exact heq ▸ traceFrame_rebind hframe

theorem traced_load {epoch : Nat} {keeps : Bool} {lastScene : Option CommittedSceneState}
    (hhistory : ResolvedRightly history) (hscene : ∀ scene, lastScene = some scene →
      (scene.sceneEpoch = 0 ↔ scene.sceneGeneration = 0)) :
    Traced (DisplayState.load epoch (startOutputs keeps) lastScene history) where
  scene scene hs := by
    have hlast : lastScene = some scene := hs
    subst hlast
    exact ⟨rfl, le_rfl, hscene scene rfl⟩
  obligation c b hb := by cases hb
  output id r hr := by
    obtain ⟨_, rfl⟩ := startOutputs_get? hr
    refine ⟨Nat.zero_le _, fun o ho => ?_⟩
    cases ho
  feedback c e he := by cases he
  history := hhistory

theorem Traced.move {P : MovePolicy} (hone : SingleOutput s) (h : Traced s) (hm : Move P s s') :
    Traced s' := by
  cases hm with
  | refuse _ _ => exact h.frame (traceFrame_rebind (.refl h))
  | accept ha _ hr => exact h.accept ha hr
  | hydrate ha _ => exact h.hydrate ha
  | quiet hq =>
    refine h.frame (traceFrame_modifyOutput h fun r hr => ?_)
    rw [(hq r hr).pendingCommitId]
    exact ⟨(h.output _ r hr).pending, .inl (hq r hr).outstanding⟩
  | submitFailed _ _ _ =>
    exact h.frame (traceFrame_modifyOutput h fun r hr => ⟨(h.output _ r hr).pending, .inl rfl⟩)
  | submit hs => exact h.submit hs
  | present hf _ => exact h.present _ hone hf
  | fail hf _ =>
    refine h.frame (traceFrame_modifyOutput h fun r hr => ⟨?_, .inr (failRuntime_outstanding _ r)⟩)
    obtain rfl := Option.some.inj (hf.output.symm.trans hr)
    obtain ⟨hpending, hframe⟩ := h.output _ _ hr
    obtain ⟨c, hc⟩ := hframe _ hf.outstanding
    cases failRuntime_pendingCommitId _ _ with
    | inl hnew => exact hnew.le.trans (hc.commit.trans hc.last)
    | inr hold => exact hold.le.trans hpending
  | connect _ _ => exact h.frame (traceFrame_register h le_rfl rfl)
  | disable _ =>
    exact h.frame (traceFrame_modifyOutput h fun r hr => ⟨(h.output _ r hr).pending, .inr rfl⟩)
  | drop _ =>
    refine h.frame (traceFrame_outputs fun id r hr => ?_)
    rw [OrdMap.get?_erase] at hr
    split_ifs at hr
    exact standing_output hr (h.output id r hr).pending (.inl rfl)
  | retireAll =>
    refine h.frame (traceFrame_outputs fun id r' hr' => ?_)
    rw [OrdMap.get?_mapVals, Option.map_eq_some_iff] at hr'
    obtain ⟨r, hr, rfl⟩ := hr'
    exact standing_output hr (h.output id r hr).pending (.inr rfl)
  | clearFeedbacks =>
    have hrefl := TraceFrame.refl h
    refine h.frame { hrefl with feedback := fun c e he => ?_ }
    cases he
  | clearOutputs _ =>
    refine h.frame (traceFrame_outputs fun id r hr => ?_)
    cases hr
  | bookkeeping hc =>
    have hrefl := TraceFrame.refl h
    refine h.frame ⟨hc.lastScene, ?_, hc.nextCommitId, hc.history, fun c b hb => ?_,
      fun id r hr => ?_, fun c e he => ?_⟩
    · rw [DisplayState.floor, DisplayState.floor, hc.lastSceneEpoch, hc.lastSceneGeneration]
    · exact hrefl.obligation c b (hc.obligations ▸ hb)
    · exact hrefl.output id r (hc.outputs ▸ hr)
    · exact hrefl.feedback c e (hc.feedbacks ▸ he)
  | restart _ => exact traced_load h.history fun scene hs => (h.scene scene hs).versioned

namespace Server

variable {β : Type} [DisplayBackend β] {P : MovePolicy}

theorem traced_run (hreg : P.registry) {srv : Server β} (h : Run P srv) : Traced srv.display.state :=
  h.invariant hreg
    (fun epoch keeps => traced_load
      (fun newer c required older heq => by cases newer <;> cases heq) fun scene hs => by cases hs)
    fun _ _ hone htraced hm => htraced.move hone hm

end Server

end TuffXwin.Displayd
