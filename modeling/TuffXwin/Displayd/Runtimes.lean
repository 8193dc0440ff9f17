import TuffXwin.Displayd.Runs

/-! Properties of one output. A property of a registered output that each way of
changing an output keeps holds of every output in every state of every run; the
same is done once for the payloads of the pixel store. -/

namespace TuffXwin.Displayd
open Lib

variable {s : DisplayState}
variable {f : OutputRuntime → OutputRuntime} {c : SceneCommit} {store : DisplayPixelTransportStore}
  {I : String → OutputRuntime → Prop} {s' : DisplayState}

/-- The scene's damage noted on an output, as `damageOutput` does where there is any. -/
def noteDamage (c : SceneCommit) (commitId : Nat) (damage : List RendererRect)
    (r : OutputRuntime) : OutputRuntime :=
  { r with
    pendingDamage := damage
    pendingSceneEpoch := c.sceneEpoch
    pendingSceneGeneration := c.sceneGeneration
    pendingCommitId := commitId
    scheduler :=
      { r.scheduler with sceneGeneration := c.sceneGeneration, state := .damagePending } }

theorem damageOutput_cases (c : SceneCommit) (commitId : Nat)
    (damageByOutput : OrdMap String (List RendererRect)) (id : String) (r : OutputRuntime) :
    damageOutput c commitId damageByOutput id r = r ∨
      ∃ damage, damageByOutput.get? id = some damage ∧ damage ≠ [] ∧
        damageOutput c commitId damageByOutput id r = noteDamage c commitId damage r := by
  unfold damageOutput
  cases damageByOutput.get? id with
  | none => exact .inl rfl
  | some damage =>
    dsimp only
    split_ifs with hempty
    · exact .inl rfl
    · exact .inr ⟨damage, rfl, by simpa using hempty, rfl⟩

/-- The same outputs are registered, each with the identity it had. -/
def SameOutputs (s s' : DisplayState) : Prop :=
  ∀ id, ∃ f : OutputRuntime → OutputRuntime,
    s'.outputs.get? id = (s.outputs.get? id).map f ∧
      ∀ r, s.outputs.get? id = some r → r.SameOutput (f r)

namespace SameOutputs

variable {s s' : DisplayState}

theorem of_outputs (h : s'.outputs = s.outputs) : SameOutputs s s' := fun id =>
  ⟨fun r => r, by simp [h], fun r _ => .refl r⟩

theorem mapVals {f : String → OutputRuntime → OutputRuntime}
    (houtputs : s'.outputs = s.outputs.mapVals f)
    (h : ∀ id (r : OutputRuntime), r.SameOutput (f id r)) : SameOutputs s s' := fun id =>
  ⟨f id, by rw [houtputs, OrdMap.get?_mapVals], fun r _ => h id r⟩

theorem modify {id : String} (houtputs : s'.outputs = (s.modifyOutput id f).outputs)
    (h : ∀ r, s.outputs.get? id = some r → r.SameOutput (f r)) : SameOutputs s s' := by
  intro id'
  rw [houtputs, DisplayState.modifyOutput_get?]
  split_ifs with hid
  · subst hid
    exact ⟨f, rfl, h⟩
  · exact ⟨fun r => r, by simp, fun r _ => .refl r⟩

/-- Scenes and frames leave the registry alone. -/
theorem move (hm : Move (freely False) s s') : SameOutputs s s' := by
  cases hm with
  | refuse _ _ => exact of_outputs (by rw [reboundFor, rebind_frame])
  | accept _ _ hr => exact mapVals (accept_committed _ hr).outputs (damageOutput_same _ _ _)
  | hydrate _ _ =>
    exact mapVals (hydrate_committed _ _ _ _ _).outputs (damageOutput_same _ _ _)
  | quiet hq => exact modify rfl fun r hr => (hq r hr).same
  | submitFailed _ _ _ => exact modify rfl fun _ _ => ⟨rfl, rfl, rfl, rfl, rfl, rfl⟩
  | submit _ =>
    exact modify (f := submittedRuntime _ _) rfl fun _ _ => ⟨rfl, rfl, rfl, rfl, rfl, rfl⟩
  | present _ _ =>
    obtain ⟨_, _, _, _, _, houtputs⟩ := presentOutput_frame s _ _ _
    exact modify houtputs fun r _ => presentRuntime_same _ r
  | fail _ _ => exact modify rfl fun r _ => failRuntime_same _ r
  | retireAll =>
    exact mapVals (f := fun _ r => Display.retireRuntime r) rfl fun _ _ =>
      ⟨rfl, rfl, rfl, rfl, rfl, rfl⟩
  | clearFeedbacks => exact of_outputs rfl
  | bookkeeping hc => exact of_outputs hc.outputs
  | connect hreg _ => exact hreg.elim
  | disable hreg => exact hreg.elim
  | drop hreg => exact hreg.elim
  | clearOutputs hreg => exact hreg.elim
  | restart hreg => exact hreg.elim

end SameOutputs

/-- What preparing a scene establishes. -/
structure PreparedScene (s : DisplayState) (c : SceneCommit)
    (store : DisplayPixelTransportStore) (damageByOutput : OrdMap String (List RendererRect)) :
    Prop where
  store : s.pixelTransport.preparedForSceneWithPolicy c.surfaces c.pixelPayloads
    (allowMissingTransport s c) = .ok store
  damage : ∀ id damage, damageByOutput.get? id = some damage →
    ∃ r, s.outputs.get? id = some r ∧ r.disabled = false ∧
      damage = outputDamage s.lastScene c.surfaces r

theorem prepareScene_ok {damageByOutput : OrdMap String (List RendererRect)}
    (h : prepareScene s c = .ok (store, damageByOutput)) :
    PreparedScene s c store damageByOutput := by
  unfold prepareScene at h
  obtain ⟨store', hstore, h⟩ := bind_eq_ok.mp h
  obtain ⟨_, _, h⟩ := bind_eq_ok.mp h
  obtain ⟨damage', hdamage, h⟩ := bind_eq_ok.mp h
  obtain ⟨rfl, rfl⟩ := Prod.mk.inj (Except.ok.inj h)
  refine ⟨hstore, ?_⟩
  refine foldlM_invariant (fun m : OrdMap String (List RendererRect) => ∀ id damage,
    m.get? id = some damage → ∃ r, s.outputs.get? id = some r ∧ r.disabled = false ∧
      damage = outputDamage s.lastScene c.surfaces r) ?_ ?_ hdamage
  · intro m output m' hmem hm hstep id damage hget
    unfold addOutputDamage at hstep
    split_ifs at hstep with hdisabled
    · obtain rfl := Except.ok.inj hstep
      exact hm id damage hget
    · obtain ⟨_, _, hstep⟩ := bind_eq_ok.mp hstep
      obtain rfl := Except.ok.inj hstep
      rw [OrdMap.get?_insert] at hget
      split_ifs at hget with hid
      · exact ⟨output.2, hid ▸ OrdMap.mem_entries.mp hmem, by simpa using hdisabled,
          (Option.some.inj hget).symm⟩
      · exact hm id damage hget
  · intro id damage hget
    simp at hget

/-- A property every change of an output keeps. -/
structure OutputInvariant (I : String → OutputRuntime → Prop) : Prop where
  start : I "eDP-1" defaultOutputRuntime
  quiet : ∀ {id r r'}, I id r → r.Quiet r' → I id r'
  damaged : ∀ {id r} previous c commitId, I id r → r.disabled = false →
    outputDamage previous c.surfaces r ≠ [] →
    I id (noteDamage c commitId (outputDamage previous c.surfaces r) r)
  submitFailed : ∀ {id r frame}, I id r → r.pendingDamage ≠ [] →
    frame.damage = publicationDamage r → I id (submitFailedRuntime frame r)
  submitted : ∀ {s id r scene pixels token}, I id r → Submission s id r scene pixels token →
    I id (submittedRuntime (composedFrame r id scene pixels) token r)
  presented : ∀ {id r o}, I id r → r.outstanding = some o → I id (presentRuntime o r)
  failed : ∀ {id r o}, I id r → r.outstanding = some o → I id (failRuntime o r)
  connected : ∀ {id s state bounds hb instanceId cadence}, state.outputId = id →
    I id (connectedRuntime s state bounds hb instanceId cadence)
  disabled : ∀ {id r}, I id r → I id (Display.disableRuntime r)
  retired : ∀ {id r}, I id r → I id (Display.retireRuntime r)

def AllOutputs (I : String → OutputRuntime → Prop) (s : DisplayState) : Prop :=
  ∀ id r, s.outputs.get? id = some r → I id r

theorem AllOutputs.modify {id : String} (h : AllOutputs I s)
    (hf : ∀ r, s.outputs.get? id = some r → I id r → I id (f r)) :
    AllOutputs I (s.modifyOutput id f) := by
  intro id' r' hr'
  cases DisplayState.modifyOutput_origin hr' with
  | inl hother => exact h id' r' hother.2
  | inr hself =>
    obtain ⟨hid, r, hr, rfl⟩ := hself
    rw [hid]
    exact hf r hr (h id r hr)

theorem AllOutputs.register {id : String} {runtime : OutputRuntime} (h : AllOutputs I s)
    (hr : I id runtime) : AllOutputs I (registerOutput s id runtime) := by
  intro id' r' hr'
  rw [registerOutput_outputs, OrdMap.get?_insert] at hr'
  split_ifs at hr' with hid
  · obtain rfl := Option.some.inj hr'
    exact hid ▸ hr
  · exact h id' r' hr'

namespace OutputInvariant

variable {I : String → OutputRuntime → Prop} (hI : OutputInvariant I)

include hI

theorem committed {commitId : Nat} {damage : OrdMap String (List RendererRect)} (h : AllOutputs I s)
    (hprepared : prepareScene s c = .ok (store, damage))
    (hc : Committed s c commitId store damage s') : AllOutputs I s' := by
  intro id r' hr'
  rw [hc.outputs, OrdMap.get?_mapVals, Option.map_eq_some_iff] at hr'
  obtain ⟨r, hr, rfl⟩ := hr'
  cases damageOutput_cases c commitId damage id r with
  | inl hsame =>
    rw [hsame]
    exact h id r hr
  | inr hnoted =>
    obtain ⟨d, hd, hne, heq⟩ := hnoted
    obtain ⟨r₀, hr₀, hdisabled, rfl⟩ := (prepareScene_ok hprepared).damage id d hd
    obtain rfl := Option.some.inj (hr.symm.trans hr₀)
    rw [heq]
    exact hI.damaged s.lastScene c commitId (h id r hr) hdisabled hne

theorem move {P : MovePolicy} (h : AllOutputs I s) (hm : Move P s s') : AllOutputs I s' := by
  cases hm with
  | refuse _ _ =>
    rw [reboundFor, rebind_frame]
    exact h
  | accept ha _ hr => exact hI.committed h ha.prepared (accept_committed _ hr)
  | hydrate ha _ => exact hI.committed h ha.prepared (hydrate_committed ..)
  | quiet hq => exact h.modify fun r hr hi => hI.quiet hi (hq r hr)
  | submitFailed hr hd hf =>
    refine h.modify fun r' hr' hi => ?_
    obtain rfl := Option.some.inj (hr.symm.trans hr')
    exact hI.submitFailed hi hd hf
  | submit hs =>
    refine AllOutputs.modify (s := s) h fun r' hr' hi => ?_
    obtain rfl := Option.some.inj (hs.output.symm.trans hr')
    exact hI.submitted hi hs
  | present hf _ =>
    have hmodified := h.modify fun r' hr' hi => hI.presented hi
      (Option.some.inj (hf.output.symm.trans hr') ▸ hf.outstanding)
    intro id' r' hr'
    rw [(presentOutput_frame _ _ _ _).2.2.2.2.2] at hr'
    exact hmodified id' r' hr'
  | fail hf _ =>
    refine h.modify fun r' hr' hi => ?_
    obtain rfl := Option.some.inj (hf.output.symm.trans hr')
    exact hI.failed hi hf.outstanding
  | connect _ hid => exact h.register (hI.connected hid)
  | disable _ => exact h.modify fun r _ hi => hI.disabled hi
  | drop _ =>
    intro id r hr
    rw [OrdMap.get?_erase] at hr
    split_ifs at hr
    exact h id r hr
  | retireAll =>
    intro id r' hr'
    rw [OrdMap.get?_mapVals, Option.map_eq_some_iff] at hr'
    obtain ⟨r, hr, rfl⟩ := hr'
    exact hI.retired (h id r hr)
  | clearFeedbacks => exact h
  | clearOutputs _ =>
    intro id r hr
    cases hr
  | bookkeeping hc =>
    intro id r hr
    exact h id r (hc.outputs ▸ hr)
  | restart _ =>
    intro id r hr
    obtain ⟨rfl, rfl⟩ := startOutputs_get? hr
    exact hI.start

theorem reachable {β : Type} [DisplayBackend β] {srv : Server β}
    (h : (Server.system β).Reachable srv) : AllOutputs I srv.display.state := by
  refine (Server.Run.any h).invariant trivial (fun epoch keeps id r hr => ?_)
    fun _ _ _ hi hm => hI.move hi hm
  obtain ⟨rfl, rfl⟩ := startOutputs_get? hr
  exact hI.start

end OutputInvariant

/-- Every output is registered under its own id. -/
theorem registeredId_invariant : OutputInvariant fun id r => r.state.outputId = id where
  start := rfl
  quiet h hq := hq.same.state ▸ h
  damaged _ _ _ h _ _ := h
  submitFailed h _ _ := h
  submitted h _ := h
  presented {_ r o} h _ := (presentRuntime_same o r).state ▸ h
  failed {_ r o} h _ := (failRuntime_same o r).state ▸ h
  connected hid := hid
  disabled h := h
  retired h := h

end TuffXwin.Displayd
