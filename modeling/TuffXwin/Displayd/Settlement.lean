import TuffXwin.Displayd.Backends
import TuffXwin.Displayd.Trace

/-! When obligations are released. A presentation that clears the pending damage
of an output must settle every obligation waiting for it, and a scene that is
turned down must not have moved an obligation to an output with nothing to
present. Runs that keep to this leave no obligation on idle outputs. -/

namespace TuffXwin.Displayd
open Lib

variable {s : DisplayState}
variable {r : OutputRuntime} {o : OutstandingPresentation}
variable {s' : DisplayState} {c : SceneCommit} {damage : OrdMap String (List RendererRect)}

/-- Does presenting this frame leave the output nothing to present? -/
def ClearsPending (r : OutputRuntime) (o : OutstandingPresentation) : Prop :=
  r.pendingVersion ≤ sceneVersion o.frame.sceneEpoch o.token.sceneGeneration

/-- A presentation that clears an enabled output matches every obligation on it. -/
def SettlesAll (s : DisplayState) (id : String) (o : OutstandingPresentation) : Prop :=
  ∀ r, s.outputs.get? id = some r → r.disabled = false → ClearsPending r o →
    ∀ c b, s.presentationObligations.get? c = some b → b.requiredOutputs.contains id = true →
      generationMatches o.frame c b = true

/-- A scene turned down finds no obligation to move to a target with nothing to present. -/
def StrandsNone (s : DisplayState) (c : SceneCommit)
    (damage : OrdMap String (List RendererRect)) : Prop :=
  (requiredFor s c damage).isEmpty = false →
    ∀ r, s.outputs.get? c.target.name = some r → r.disabled = false → r.pendingDamage = [] →
      ∀ k b, s.presentationObligations.get? k = some b →
        s.obligationStranded c.sceneEpoch c.sceneGeneration b = false

def settlingPolicy : MovePolicy where
  registry := True
  accept _ _ _ _ _ := True
  refuse := StrandsNone
  present := SettlesAll
  fail _ _ _ := True

/-- An obligation waits only for outputs that still have something to present. -/
structure Owing (s : DisplayState) : Prop where
  pending : ∀ c b id r, s.presentationObligations.get? c = some b →
    b.requiredOutputs.contains id = true → s.outputs.get? id = some r → r.disabled = false →
    r.pendingDamage ≠ []
  frame : ∀ id r o, s.outputs.get? id = some r → r.outstanding = some o → o.frame.damage ≠ []

/-- Moves after which every enabled output with less to present was there before. -/
structure OwingFrame (s s' : DisplayState) : Prop where
  obligation : ∀ c b', s'.presentationObligations.get? c = some b' →
    ∃ b, s.presentationObligations.get? c = some b ∧ b'.requiredOutputs = b.requiredOutputs
  output : ∀ id r', s'.outputs.get? id = some r' →
    (r'.disabled = false → r'.pendingDamage = [] →
        ∃ r, s.outputs.get? id = some r ∧ r.disabled = false ∧ r.pendingDamage = []) ∧
      ∀ o, r'.outstanding = some o → ∃ r, s.outputs.get? id = some r ∧ r.outstanding = some o

theorem Owing.step (h : Owing s) (hf : OwingFrame s s') : Owing s' where
  pending c b' id r' hb' hid hr' henabled hnone := by
    obtain ⟨b, hb, hrequired⟩ := hf.obligation c b' hb'
    obtain ⟨r, hr, hr₁, hr₂⟩ := (hf.output id r' hr').1 henabled hnone
    exact h.pending c b id r hb (hrequired ▸ hid) hr hr₁ hr₂
  frame id r' o hr' ho := by
    obtain ⟨r, hr, hstanding⟩ := (hf.output id r' hr').2 o ho
    exact h.frame id r o hr hstanding

/-- A change of one output that does not take its pending damage away. -/
theorem owingFrame_modifyOutput {id : String} {f : OutputRuntime → OutputRuntime}
    (hf : ∀ r, s.outputs.get? id = some r →
      ((f r).disabled = false → (f r).pendingDamage = [] →
          r.disabled = false ∧ r.pendingDamage = []) ∧
        ((f r).outstanding = r.outstanding ∨ (f r).outstanding = none)) :
    OwingFrame s (s.modifyOutput id f) where
  obligation c b hb := ⟨b, hb, rfl⟩
  output id' r' hr' := by
    cases DisplayState.modifyOutput_origin hr' with
    | inl hother =>
      exact ⟨fun h₁ h₂ => ⟨r', hother.2, h₁, h₂⟩, fun o ho => ⟨r', hother.2, ho⟩⟩
    | inr hself =>
      obtain ⟨rfl, r, hr, rfl⟩ := hself
      obtain ⟨hkeep, hstanding⟩ := hf r hr
      refine ⟨fun h₁ h₂ => ⟨r, hr, hkeep h₁ h₂⟩, fun o ho => ?_⟩
      cases hstanding with
      | inl heq => exact ⟨r, hr, heq ▸ ho⟩
      | inr hnone =>
        rw [hnone] at ho
        cases ho

theorem owingFrame_outputs {outputs : OrdMap String OutputRuntime}
    (h : ∀ id r', outputs.get? id = some r' → ∃ r, s.outputs.get? id = some r ∧
      r'.disabled = r.disabled ∧ r'.pendingDamage = r.pendingDamage ∧
      (r'.outstanding = r.outstanding ∨ r'.outstanding = none)) :
    OwingFrame s { s with outputs := outputs } where
  obligation c b hb := ⟨b, hb, rfl⟩
  output id r' hr' := by
    obtain ⟨r, hr, hdisabled, hpending, hstanding⟩ := h id r' hr'
    refine ⟨fun h₁ h₂ => ⟨r, hr, hdisabled ▸ h₁, hpending ▸ h₂⟩, fun o ho => ?_⟩
    cases hstanding with
    | inl heq => exact ⟨r, hr, heq ▸ ho⟩
    | inr hnone =>
      rw [hnone] at ho
      cases ho

theorem rebindObligation_kept {e g : Nat} {b : PresentationObligation}
    (h : s.obligationStranded e g b = false) (required : OrdSet String) :
    s.rebindObligation e g required b = b := by
  unfold DisplayState.rebindObligation
  rw [if_neg (by simp [h])]

theorem outputActive_iff {id : String} :
    s.outputActive id = true ↔ ∃ r, s.outputs.get? id = some r ∧ r.disabled = false := by
  unfold DisplayState.outputActive
  constructor
  · intro h
    split at h
    · rename_i r hr
      exact ⟨r, hr, by simpa using h⟩
    · cases h
  · intro h
    obtain ⟨r, hr, hdisabled⟩ := h
    rw [hr]
    simp [hdisabled]

/-- An enabled target is required only when the scene leaves it damage. -/
theorem requiredFor_damage (h : (requiredFor s c damage).isEmpty = false)
    (hr : s.outputs.get? c.target.name = some r) (henabled : r.disabled = false) :
    ∃ d, damage.get? c.target.name = some d ∧ d ≠ [] := by
  have hactive : s.outputActive c.target.name = true := outputActive_iff.mpr ⟨r, hr, henabled⟩
  unfold requiredFor DisplayState.requiredOutputsForScene at h
  rw [hactive] at h
  cases hd : damage.get? c.target.name with
  | none =>
    rw [hd] at h
    simp [OrdMap.isEmpty, OrdMap.empty] at h
  | some d =>
    refine ⟨d, rfl, fun hnil => ?_⟩
    rw [hd, hnil] at h
    simp [OrdMap.isEmpty, OrdMap.empty] at h

theorem damageOutput_pending (c : SceneCommit) (commitId : Nat)
    (damage : OrdMap String (List RendererRect)) (id : String) (r : OutputRuntime) :
    (damageOutput c commitId damage id r).disabled = r.disabled ∧
      ((damageOutput c commitId damage id r).pendingDamage = [] →
        r.pendingDamage = [] ∧ ∀ d, damage.get? id = some d → d = []) := by
  unfold damageOutput
  split
  · rename_i hnone
    refine ⟨rfl, fun h => ⟨h, fun d hd => ?_⟩⟩
    rw [hnone] at hd
    cases hd
  · rename_i d hd
    split_ifs with hempty
    · refine ⟨rfl, fun h => ⟨h, fun d' hd' => ?_⟩⟩
      rw [hd] at hd'
      exact (Option.some.inj hd') ▸ List.isEmpty_iff.mp hempty
    · exact ⟨rfl, fun h => absurd (List.isEmpty_iff.mpr h) hempty⟩

/-- A committed scene leaves damage on its target before anything waits for it. -/
theorem Owing.committed {commitId : Nat} {store : DisplayPixelTransportStore} (h : Owing s)
    (hc : Committed s c commitId store damage s') : Owing s' where
  pending k b id r' hb hid hr' henabled hnone := by
    rw [hc.outputs, OrdMap.get?_mapVals, Option.map_eq_some_iff] at hr'
    obtain ⟨r, hr, rfl⟩ := hr'
    obtain ⟨hdisabled, hkept⟩ := damageOutput_pending c commitId damage id r
    rw [hdisabled] at henabled
    obtain ⟨hpending, hnodamage⟩ := hkept hnone
    have htarget : (requiredFor s c damage).isEmpty = false →
        b.requiredOutputs = requiredFor s c damage → False := by
      intro hne hrequired
      rw [hrequired, requiredFor_nonempty hne, OrdSet.contains_single] at hid
      subst hid
      obtain ⟨d, hd, hdne⟩ := requiredFor_damage hne hr henabled
      exact hdne (hnodamage d hd)
    cases hc.obligation hb with
    | inl hnew =>
      obtain ⟨hne, _, rfl⟩ := hnew
      exact htarget hne rfl
    | inr hold =>
      obtain ⟨b', hb', hcases⟩ := hold
      cases hcases with
      | inl heq => exact h.pending k b' id r hb' (heq ▸ hid) hr henabled hpending
      | inr hbound =>
        obtain ⟨hne, heq⟩ := hbound
        cases rebindObligation_cases s c.sceneEpoch c.sceneGeneration
          (requiredFor s c damage) b' with
        | inl hsame => exact h.pending k b' id r hb' ((heq.trans hsame) ▸ hid) hr henabled hpending
        | inr hmoved => exact htarget hne (by rw [heq, hmoved])
  frame id r' o hr' ho := by
    rw [hc.outputs, OrdMap.get?_mapVals, Option.map_eq_some_iff] at hr'
    obtain ⟨r, hr, rfl⟩ := hr'
    exact h.frame id r o hr ((damageOutput_outstanding c commitId damage id r).1 ▸ ho)

theorem Owing.refuse (h : Owing s) (hp : StrandsNone s c damage) :
    Owing (reboundFor s c damage) where
  pending k b id r hb hid hr henabled hnone := by
    rw [reboundFor, rebind_frame] at hr
    dsimp only at hr
    obtain ⟨b', hb', hcases⟩ := rebind_obligations hb
    cases hcases with
    | inl heq => exact h.pending k b' id r hb' (heq ▸ hid) hr henabled hnone
    | inr hbound =>
      obtain ⟨hne, heq⟩ := hbound
      cases hstranded : s.obligationStranded c.sceneEpoch c.sceneGeneration b' with
      | false =>
        rw [rebindObligation_kept hstranded] at heq
        exact h.pending k b' id r hb' (heq ▸ hid) hr henabled hnone
      | true =>
        have hrequired : b.requiredOutputs = requiredFor s c damage := by
          rw [heq, DisplayState.rebindObligation, if_pos hstranded]
        rw [hrequired, requiredFor_nonempty hne, OrdSet.contains_single] at hid
        subst hid
        have hkept := hp hne r hr henabled hnone k b' hb'
        rw [hkept] at hstranded
        cases hstranded
  frame id r o hr ho := by
    rw [reboundFor, rebind_frame] at hr
    exact h.frame id r o hr ho

theorem presentRuntime_kept :
    (presentRuntime o r).disabled = r.disabled ∧
      (¬ ClearsPending r o → (presentRuntime o r).pendingDamage = r.pendingDamage) := by
  unfold presentRuntime ClearsPending
  dsimp only
  split_ifs with hclear
  · exact ⟨rfl, fun h => absurd hclear h⟩
  · exact ⟨rfl, fun _ => rfl⟩

theorem Owing.present {id : String} (env : Env) (h : Owing s) (hone : SingleOutput s)
    (hp : SettlesAll s id o) : Owing (presentOutput s env o id) where
  pending c b id' r' hb hid hr' henabled hnone := by
    obtain ⟨_, _, _, _, _, houtputs⟩ := presentOutput_frame s env o id
    obtain ⟨hb', hunsettled⟩ := (presentOutput_obligations env o id hone).mp hb
    rw [houtputs] at hr'
    cases DisplayState.modifyOutput_origin hr' with
    | inl hother => exact h.pending c b id' r' hb' hid hother.2 henabled hnone
    | inr hself =>
      obtain ⟨rfl, r, hr, rfl⟩ := hself
      obtain ⟨hdisabled, hkept⟩ := presentRuntime_kept (o := o) (r := r)
      rw [hdisabled] at henabled
      by_cases hclear : ClearsPending r o
      · exact hunsettled ⟨hp r hr henabled hclear c b hb' hid, hid⟩
      · exact h.pending c b id' r hb' hid hr henabled (hkept hclear ▸ hnone)
  frame id' r' o' hr' ho' := by
    obtain ⟨_, _, _, _, _, houtputs⟩ := presentOutput_frame s env o id
    rw [houtputs] at hr'
    cases DisplayState.modifyOutput_origin hr' with
    | inl hother => exact h.frame id' r' o' hother.2 ho'
    | inr hself =>
      obtain ⟨_, r, _, rfl⟩ := hself
      rw [presentRuntime_outstanding] at ho'
      cases ho'

/-- A connected output has all of itself to present. -/
theorem Owing.register {id : String} {runtime : OutputRuntime} (h : Owing s)
    (hpending : runtime.pendingDamage ≠ []) (hfree : runtime.outstanding = none) :
    Owing (registerOutput s id runtime) := by
  obtain ⟨s₁, hcases, rfl⟩ := registerOutput_obligations s id runtime
  have hframe : ∀ id' r' o, (s.outputs.insert id runtime).get? id' = some r' →
      r'.outstanding = some o → o.frame.damage ≠ [] := by
    intro id' r' o hr' ho
    rw [OrdMap.get?_insert] at hr'
    split_ifs at hr'
    · obtain rfl := Option.some.inj hr'
      rw [hfree] at ho
      cases ho
    · exact h.frame id' r' o hr' ho
  have hpend : ∀ (b : PresentationObligation) (id' : String) (r' : OutputRuntime),
      (s.outputs.insert id runtime).get? id' = some r' → r'.disabled = false →
      (id' ≠ id → ∃ c b', s.presentationObligations.get? c = some b' ∧
        b'.requiredOutputs.contains id' = true) → r'.pendingDamage ≠ [] := by
    intro b id' r' hr' henabled howed
    rw [OrdMap.get?_insert] at hr'
    split_ifs at hr' with hid
    · exact Option.some.inj hr' ▸ hpending
    · obtain ⟨c, b', hb', hreq⟩ := howed hid
      exact h.pending c b' id' r' hb' hreq hr' henabled
  cases hcases with
  | inl heq =>
    rw [heq]
    exact ⟨fun c b id' r' hb hid hr' henabled => hpend b id' r' hr' henabled fun _ => ⟨c, b, hb, hid⟩,
      hframe⟩
  | inr heq =>
    rw [heq]
    refine ⟨fun c b id' r' hb hid hr' henabled => ?_, fun id' r' o hr' ho => ?_⟩
    · rw [rebind_frame] at hr'
      refine hpend b id' r' hr' henabled fun hne => ?_
      obtain ⟨b', hb', hcases⟩ := rebind_obligations hb
      cases hcases with
      | inl hsame => exact ⟨c, b', hb', hsame ▸ hid⟩
      | inr hbound =>
        cases rebindObligation_cases _ _ _ _ b' with
        | inl hsame => exact ⟨c, b', hb', (hbound.2.trans hsame) ▸ hid⟩
        | inr hmoved =>
          rw [hbound.2, hmoved] at hid
          exact absurd (OrdSet.contains_single.mp hid) hne
    · rw [rebind_frame] at hr'
      exact hframe id' r' o hr' ho

theorem Owing.load (epoch : Nat) (keeps : Bool) (lastScene : Option CommittedSceneState)
    (history : List DisplayEffect) :
    Owing (DisplayState.load epoch (startOutputs keeps) lastScene history) where
  pending c b id r hb := by cases hb
  frame id r o hr ho := by
    obtain ⟨_, rfl⟩ := startOutputs_get? hr
    cases ho

theorem Owing.move (hone : SingleOutput s) (h : Owing s) (hm : Move settlingPolicy s s') :
    Owing s' := by
  cases hm with
  | refuse _ hp => exact h.refuse hp
  | accept _ _ hr => exact h.committed (accept_committed _ hr)
  | hydrate _ _ => exact h.committed (hydrate_committed _ _ _ _ _)
  | quiet hq =>
    refine h.step (owingFrame_modifyOutput fun r hr => ?_)
    rw [(hq r hr).same.disabled, (hq r hr).pendingDamage]
    exact ⟨fun h₁ h₂ => ⟨h₁, h₂⟩, .inl (hq r hr).outstanding⟩
  | submitFailed hr hd hf =>
    refine h.step (owingFrame_modifyOutput fun r' hr' => ⟨fun _ hnone => ?_, .inl rfl⟩)
    exact absurd (normalizeDamage_eq_nil.mp (hf.symm.trans hnone)) hd
  | submit hs =>
    refine ⟨fun c b id' r' hb hid hr' henabled => ?_, fun id' r' o hr' ho => ?_⟩
    · cases DisplayState.modifyOutput_origin hr' with
      | inl hother => exact h.pending c b id' r' hb hid hother.2 henabled
      | inr hself =>
        obtain ⟨rfl, r₀, hr₀, rfl⟩ := hself
        exact h.pending c b id' r₀ hb hid hr₀ henabled
    · cases DisplayState.modifyOutput_origin hr' with
      | inl hother => exact h.frame id' r' o hother.2 ho
      | inr hself =>
        obtain ⟨_, r₀, _, rfl⟩ := hself
        obtain rfl := Option.some.inj ho
        exact fun hnone => hs.damaged (normalizeDamage_eq_nil.mp hnone)
  | present _ hp => exact h.present _ hone hp
  | fail hf _ =>
    refine h.step (owingFrame_modifyOutput fun r hr => ⟨fun henabled hnone => ?_,
      .inr (failRuntime_outstanding _ r)⟩)
    obtain rfl := Option.some.inj (hf.output.symm.trans hr)
    have hdamage := h.frame _ _ _ hr hf.outstanding
    unfold failRuntime at henabled hnone
    dsimp only at henabled hnone
    split_ifs at henabled hnone
    · exact absurd hnone hdamage
    · exact ⟨henabled, hnone⟩
  | connect _ _ => exact h.register (by simp [connectedRuntime]) rfl
  | disable _ =>
    refine h.step (owingFrame_modifyOutput fun r hr => ⟨fun henabled _ => ?_, .inr rfl⟩)
    cases henabled
  | drop _ =>
    refine h.step (owingFrame_outputs fun id r hr => ?_)
    rw [OrdMap.get?_erase] at hr
    split_ifs at hr
    exact ⟨r, hr, rfl, rfl, .inl rfl⟩
  | retireAll =>
    refine h.step (owingFrame_outputs fun id r' hr' => ?_)
    rw [OrdMap.get?_mapVals, Option.map_eq_some_iff] at hr'
    obtain ⟨r, hr, rfl⟩ := hr'
    exact ⟨r, hr, rfl, rfl, .inr rfl⟩
  | clearFeedbacks => exact ⟨h.pending, h.frame⟩
  | clearOutputs _ => exact h.step (owingFrame_outputs fun id r hr => by cases hr)
  | bookkeeping hc =>
    refine ⟨fun c b id r hb hid hr => ?_, fun id r o hr => ?_⟩
    · exact h.pending c b id r (hc.obligations ▸ hb) hid (hc.outputs ▸ hr)
    · exact h.frame id r o (hc.outputs ▸ hr)
  | restart _ => exact .load _ _ _ _

/-- An obligation all of whose outputs are enabled with nothing left to do. -/
def StrandedObligation (s : DisplayState) (c : Nat) : Prop :=
  ∃ b, s.presentationObligations.get? c = some b ∧
    ∀ id, b.requiredOutputs.contains id = true →
      ∃ r, s.outputs.get? id = some r ∧ r.Idle

theorem Owing.not_stranded (hone : SingleOutput s) (h : Owing s) (c : Nat) :
    ¬ StrandedObligation s c := by
  intro hstranded
  obtain ⟨b, hb, hidle⟩ := hstranded
  obtain ⟨id, hsingle, _⟩ := hone c b hb
  have hid : b.requiredOutputs.contains id = true := by
    rw [hsingle]
    exact OrdSet.contains_single.mpr rfl
  obtain ⟨r, hr, henabled, hpending, _⟩ := hidle id hid
  exact h.pending c b id r hb hid hr henabled hpending

namespace Server

variable {β : Type} [DisplayBackend β]

/-- While every obligation is of the canonical scene's epoch, its frames settle all. -/
theorem tickAllowed_of_epoch {d : Display β} {id : String}
    (h : ∀ scene, d.state.lastScene = some scene → scene.sceneGeneration ≠ 0 ∧
      ∀ c b, d.state.presentationObligations.get? c = some b →
        b.sceneEpoch = scene.sceneEpoch ∧ b.sceneGeneration ≤ scene.sceneGeneration)
    (generation now tick : Nat) : TickAllowed settlingPolicy d id generation now tick := by
  refine .of_submission (fun s r scene pixels token hlast hobligations hs => ⟨?_, trivial⟩) _ _ _
  intro _ _ _ _ c b hb _
  obtain ⟨hgen, hmatch⟩ := h scene (hlast ▸ hs.last)
  unfold generationMatches
  rw [if_neg (show (composedFrame r id scene pixels).sceneGeneration ≠ 0 from hgen)]
  exact decide_eq_true (hmatch c b (hobligations ▸ hb))

/-- What is recorded of obligations is right in every run; that none outlives its
presentation needs the policy. -/
theorem obligation_law :
    (∀ srv : Server β, (system β).Reachable srv →
        ResolvedRightly srv.display.state.history ∧
          ∀ c e, srv.display.state.presentationFeedbacks.get? c = some e →
            FeedbackRecorded c e srv.display.state.history) ∧
      ∀ srv : Server β, Run settlingPolicy srv →
        ∀ c, ¬ StrandedObligation srv.display.state c := by
  refine ⟨fun srv h => ?_, fun srv h c => ?_⟩
  · have htraced := traced_run (P := anyMove) trivial (Run.any h)
    exact ⟨htraced.history, htraced.feedback⟩
  · have howing : Owing srv.display.state :=
      h.invariant trivial (fun epoch keeps => .load epoch keeps none [])
        fun _ _ hone howing hm => howing.move hone hm
    exact howing.not_stranded (singleOutput_run (P := settlingPolicy) trivial h) c

theorem obligation_law_presented :
    ResolvedRightly (serve MockDisplayBackend.production.withMonitor
        [.command (.commitScene (pixelScene 1 1)),
          .command (.getPresentationFeedback 1)]).display.state.history ∧
      ∀ c, ¬ StrandedObligation (serve MockDisplayBackend.production.withMonitor
        [.command (.commitScene (pixelScene 1 1)),
          .command (.getPresentationFeedback 1)]).display.state c := by
  have hinit : Run settlingPolicy (serve MockDisplayBackend.production.withMonitor []) :=
    .init ⟨1, false, _, rfl⟩
  have hcommit : Run settlingPolicy (serve MockDisplayBackend.production.withMonitor
      [.command (.commitScene (pixelScene 1 1))]) := by
    refine .next (.client _) hinit ?_
    intro srv' command _ hevents hrequest
    cases hrequest
    obtain rfl := congrArg Prod.fst hevents
    refine fun replay store damage _ => ⟨fun _ => trivial, fun _ _ _ _ _ _ k b hb => ?_⟩
    cases hb
  have hfeedback : Run settlingPolicy (serve MockDisplayBackend.production.withMonitor
      [.command (.commitScene (pixelScene 1 1)), .command (.getPresentationFeedback 1)]) := by
    refine .next (.client _) hcommit ?_
    intro srv' command _ hevents hrequest
    cases hrequest
    obtain rfl := congrArg Prod.fst hevents
    refine fun _ o id ho hid r hr => tickAllowed_of_epoch (fun scene hscene => ?_) _ _ _
    obtain rfl := Option.some.inj hscene
    refine ⟨by decide, fun c b hb => ?_⟩
    change (OrdMap.empty.insert 1 ⟨1, 1, OrdSet.single "eDP-1", OrdMap.empty⟩).get? c =
      some b at hb
    rw [OrdMap.get?_insert] at hb
    split_ifs at hb
    · obtain rfl := Option.some.inj hb
      exact ⟨rfl, le_rfl⟩
    · cases hb
  obtain ⟨hrecorded, hreleased⟩ := obligation_law (β := MockDisplayBackend)
  exact ⟨(hrecorded _ (serve_reachable _ _)).1, hreleased _ hfeedback⟩
/-- Two commits of different epochs before one presentation: the first is never released. -/
theorem obligation_leaks : ¬ ∀ srv : Server MockDisplayBackend, (system _).Reachable srv →
    ResolvedRightly srv.display.state.history ∧
      (∀ c e, srv.display.state.presentationFeedbacks.get? c = some e →
        FeedbackRecorded c e srv.display.state.history) ∧
      ∀ c, ¬ StrandedObligation srv.display.state c := by
  intro h
  refine (h _ (serve_reachable MockDisplayBackend.production.withMonitor
    [.command (.commitScene (pixelScene 1 1)), .command (.commitScene (pixelScene 2 1)),
      .command (.getPresentationFeedback 2)])).2.2 1 ⟨⟨1, 1, OrdSet.single "eDP-1", OrdMap.empty⟩,
        by rfl, fun id hid => ?_⟩
  rw [OrdSet.contains_single] at hid
  subst hid
  exact ⟨_, rfl, rfl, rfl, rfl, rfl⟩

end Server

end TuffXwin.Displayd
