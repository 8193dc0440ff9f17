import TuffXwin.Displayd.Obligations
import TuffXwin.Displayd.RegistryFrames

/-! The clock of an output: its generation and cadence, the time it is next eligible and
its last tick. Ticks and registrations move it; nothing else in displayd does. -/

namespace TuffXwin.Displayd
open Lib

variable {s s' : DisplayState}
variable {a b c : DisplayState}

structure PacingClock where
  outputGeneration : Nat
  periodNs : Nat
  nextEligibleNs : Nat
  lastTickNs : Nat
  lastTickSequence : Nat
  deriving DecidableEq

/-- The clock of an output that has just been registered. -/
def PacingClock.Fresh (c : PacingClock) : Prop :=
  c.nextEligibleNs = 0 ∧ c.lastTickNs = 0 ∧ c.lastTickSequence = 0

def OutputRuntime.clock (r : OutputRuntime) : PacingClock where
  outputGeneration := r.state.outputGeneration
  periodNs := r.scheduler.cadence.periodNs
  nextEligibleNs := r.scheduler.nextEligibleNs
  lastTickNs := r.scheduler.lastTickNs
  lastTickSequence := r.scheduler.lastTickSequence

def DisplayState.clockOf (s : DisplayState) (id : String) : Option PacingClock :=
  (s.outputs.get? id).map (·.clock)

theorem DisplayState.clockOf_some {id : String} {r : OutputRuntime}
    (h : s.outputs.get? id = some r) : s.clockOf id = some r.clock := by
  rw [DisplayState.clockOf, h, Option.map_some]

/-- No clock moves. -/
def ClocksKept (s s' : DisplayState) : Prop := ∀ id, s'.clockOf id = s.clockOf id

/-- Clocks are kept but for those of outputs registered in between. -/
def ClocksKeptOrFresh (s s' : DisplayState) : Prop :=
  ∀ id, s'.clockOf id = s.clockOf id ∨ ∀ c, s'.clockOf id = some c → c.Fresh

theorem ClocksKept.refl (s : DisplayState) : ClocksKept s s := fun _ => rfl

theorem ClocksKept.trans (h : ClocksKept a b) (h' : ClocksKept b c) : ClocksKept a c :=
  fun id => (h' id).trans (h id)

theorem ClocksKept.of_outputs (h : s'.outputs = s.outputs) : ClocksKept s s' :=
  fun id => by rw [DisplayState.clockOf, DisplayState.clockOf, h]

theorem ClocksKept.modify {id : String} {f : OutputRuntime → OutputRuntime}
    (hf : ∀ r, (f r).clock = r.clock) : ClocksKept s (s.modifyOutput id f) := by
  intro id'
  rw [DisplayState.clockOf, DisplayState.clockOf, DisplayState.modifyOutput_get?]
  split_ifs
  · rw [Option.map_map]
    exact congrArg (fun g => (s.outputs.get? id').map g) (funext hf)
  · rfl

theorem ClocksKept.mapVals {f : String → OutputRuntime → OutputRuntime}
    (h : s'.outputs = s.outputs.mapVals f) (hf : ∀ id r, (f id r).clock = r.clock) :
    ClocksKept s s' := by
  intro id
  rw [DisplayState.clockOf, DisplayState.clockOf, h, OrdMap.get?_mapVals, Option.map_map]
  exact congrArg (fun g => (s.outputs.get? id).map g) (funext (hf id))

theorem ClocksKept.orFresh (h : ClocksKept s s') : ClocksKeptOrFresh s s' :=
  fun id => .inl (h id)

theorem ClocksKeptOrFresh.trans (h : ClocksKeptOrFresh a b) (h' : ClocksKeptOrFresh b c) :
    ClocksKeptOrFresh a c := by
  intro id
  cases h' id with
  | inl heq =>
    rw [heq]
    exact h id
  | inr hfresh => exact .inr hfresh

theorem registerOutput_clocks (s : DisplayState) (id : String) (state : OutputState)
    (bounds : RendererRect) (hb : state.bounds? = some bounds) (instanceId : Nat)
    (cadence : PresentationCadence) :
    ClocksKeptOrFresh s
      (registerOutput s id (connectedRuntime s state bounds hb instanceId cadence)) := by
  intro id'
  rw [DisplayState.clockOf, registerOutput_outputs, OrdMap.get?_insert]
  split_ifs
  · refine .inr fun c hc => ?_
    obtain rfl := Option.some.inj hc
    exact ⟨rfl, rfl, rfl⟩
  · exact .inl rfl

theorem eraseOutput_clocks (s : DisplayState) (id : String) :
    ClocksKeptOrFresh s { s with outputs := s.outputs.erase id } := by
  intro id'
  rw [DisplayState.clockOf, OrdMap.get?_erase]
  split_ifs
  · exact .inr fun c hc => by cases hc
  · exact .inl rfl

theorem clocks_registry : RegistryRelation ClocksKeptOrFresh where
  refl s := (ClocksKept.refl s).orFresh
  trans := .trans
  adopted _ _ := (ClocksKept.of_outputs rfl).orFresh
  noted _ _ := (ClocksKept.of_outputs rfl).orFresh
  registered := registerOutput_clocks
  disabled s _ := (ClocksKept.modify (s := s) (f := Display.disableRuntime) fun _ => rfl).orFresh
  dropped := eraseOutput_clocks

theorem damageOutput_clock (c : SceneCommit) (commitId : Nat)
    (damage : OrdMap String (List RendererRect)) (id : String) (r : OutputRuntime) :
    (damageOutput c commitId damage id r).clock = r.clock := by
  unfold damageOutput
  split
  · rfl
  · split_ifs
    · rfl
    · rfl

theorem presentRuntime_clock (o : OutstandingPresentation) (r : OutputRuntime) :
    (presentRuntime o r).clock = r.clock := by
  unfold presentRuntime
  dsimp only
  split_ifs
  · rfl
  · rfl

theorem failRuntime_clock (o : OutstandingPresentation) (r : OutputRuntime) :
    (failRuntime o r).clock = r.clock := by
  unfold failRuntime
  dsimp only
  split_ifs
  · rfl
  · rfl

section Commands

variable {β : Type}

theorem acceptScene_clocks (d : Display β) (env : Env) (source : ServiceRole)
    (c : SceneCommit) : ClocksKept d.state (d.acceptScene env source c).1.state := by
  have hcases := acceptCanonical_cases d.state (canonicalCommit c) source env
  change ClocksKept d.state (acceptCanonical d.state (canonicalCommit c) source env).1
  generalize acceptCanonical d.state (canonicalCommit c) source env = result at hcases ⊢
  cases hcases with
  | rejected reason => exact .refl _
  | idempotent => exact .refl _
  | refused replay store damage h refusal => exact .of_outputs (by rw [rebind_frame])
  | accepted replay store damage h recorded taken record =>
    cases replay with
    | none => exact .mapVals (accept_committed store record).outputs (damageOutput_clock _ _ damage)
    | some commitId =>
      obtain rfl := Except.ok.inj record
      exact .mapVals (hydrate_committed ..).outputs (damageOutput_clock _ _ damage)

theorem reconcileScene_clocks (d : Display β) (env : Env) (source : ServiceRole) (epoch : Nat)
    (c : SceneCommit) : ClocksKept d.state (d.reconcileScene env source epoch c).1.state := by
  have haccept := acceptScene_clocks d env source c
  unfold Display.reconcileScene
  split_ifs
  · exact .refl _
  · split
    all_goals
      rename_i hd
      rw [hd] at haccept
      exact haccept

variable [DisplayBackend β]

theorem beginReconciliation_clocks (d : Display β) (epoch : Nat) :
    ClocksKeptOrFresh d.state (d.beginReconciliation epoch).1.state := by
  have hretired : ClocksKept d.state d.retireAllRuntimeSubmissions.state :=
    .mapVals (f := fun _ r => Display.retireRuntime r) rfl fun _ _ => rfl
  unfold Display.beginReconciliation beginRestart
  dsimp only
  split_ifs
  · exact hretired.orFresh
  · exact hretired.orFresh
  · exact fun id => .inr fun c hc => by cases hc

theorem completePresentation_clocks (s : DisplayState) (env : Env) (token : PresentationToken)
    (outcome : PresentationCompletion) :
    ClocksKept s (completePresentation s env token outcome).1 := by
  unfold completePresentation
  cases preflightPresentationToken s token with
  | error result => exact .refl s
  | ok o =>
    cases outcome with
    | presented =>
      have hmodified : ClocksKept s (s.modifyOutput token.outputId (presentRuntime o)) :=
        .modify (presentRuntime_clock o)
      exact hmodified.trans (.of_outputs (presentOutput_frame s env o _).2.2.2.2.2)
    | _ => exact .modify (failRuntime_clock o)

theorem finishBackendCompletion_clocks (d : Display β) (env : Env) (token : PresentationToken)
    (outcome : PresentationCompletion) :
    ClocksKept d.state (d.finishBackendCompletion env token outcome).1.state := by
  unfold Display.finishBackendCompletion
  split
  · exact .refl _
  · split_ifs
    · split
      · exact completePresentation_clocks d.state env token _
      · exact completePresentation_clocks d.state env token _
    · exact completePresentation_clocks d.state env token _

theorem submitComposed_clocks (d : Display β) (env : Env) (id : String)
    (frame : FramePublication) (sceneCommitId : Nat) :
    ClocksKept d.state (d.submitComposed env id frame sceneCommitId).1.state := by
  unfold Display.submitComposed
  split
  · exact .modify fun _ => rfl
  · rename_i backend token _
    split
    · exact .refl _
    · split_ifs
      · exact .refl _
      · have hsubmitted : ClocksKept d.state (submitState d.state id frame token sceneCommitId) :=
          .modify fun _ => rfl
        rw [finishSubmitted_state]
        split_ifs
        · exact hsubmitted.trans (finishBackendCompletion_clocks
            ⟨submitState d.state id frame token sceneCommitId, backend⟩ env token .presented)
        · exact hsubmitted

theorem handleMultiOutputCommit_clocks (d : Display β) (env : Env)
    (scene : CommittedSceneState) (id : String) :
    ClocksKept d.state (d.handleMultiOutputCommit env scene id).1.state := by
  unfold Display.handleMultiOutputCommit
  split_ifs
  · exact .refl _
  · dsimp only
    split
    · exact .refl _
    · rename_i r hr
      split_ifs
      · exact .refl _
      · exact .modify fun _ => rfl
      · exact .modify fun _ => rfl
      · split
        · exact .refl _
        · have hcount : ClocksKept d.state (countComposition d.state
              (isDirectScanout (canonicalizeSurfaces scene.surfaces) r.state)) :=
            .of_outputs (countComposition_core ..).outputs
          split
          · exact hcount
          · exact hcount.trans (submitComposed_clocks
              ⟨countComposition d.state
                (isDirectScanout (canonicalizeSurfaces scene.surfaces) r.state), d.backend⟩
              env id _ _)

end Commands

end TuffXwin.Displayd
