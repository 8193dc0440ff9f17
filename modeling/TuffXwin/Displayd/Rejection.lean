import TuffXwin.Displayd.Backends
import TuffXwin.Displayd.Runs

/-! What a scene that is turned down leaves behind. Every check but the last two
comes before any change; between the rebinding of stranded obligations and the
commit stand the obligation budget and the write of the snapshot. -/

namespace TuffXwin.Displayd
open Lib

variable {s : DisplayState} {c : SceneCommit} {damage : OrdMap String (List RendererRect)}
  {source : ServiceRole} {env : Env}
variable {replay : Option Nat} {store : DisplayPixelTransportStore}

/-- Every obligation a scene of this version and target would take over is
already as it would make it. -/
def RebindsNothing (s : DisplayState) (c : SceneCommit) : Prop :=
  ∀ k o, s.presentationObligations.get? k = some o →
    s.obligationStranded c.sceneEpoch c.sceneGeneration o = true →
    o.requiredOutputs = OrdSet.single c.target.name ∧ o.presentedOutputs = OrdMap.empty

/-- A scene turned down after its checks finds no obligation to move. -/
def RefusalClean (s : DisplayState) (c : SceneCommit) (source : ServiceRole) (env : Env) :
    Prop :=
  ∀ replay store damage, Acceptable s c replay store damage →
    CommitRefused s c source env replay (requiredFor s c damage) →
    (requiredFor s c damage).isEmpty = true ∨ RebindsNothing s c

theorem rebindObligation_eq_self {e g : Nat} {required : OrdSet String}
    {o : PresentationObligation} :
    s.rebindObligation e g required o = o ↔
      (s.obligationStranded e g o = true →
        o.requiredOutputs = required ∧ o.presentedOutputs = OrdMap.empty) := by
  unfold DisplayState.rebindObligation
  obtain ⟨epoch, generation, outputs, presented⟩ := o
  split_ifs with h
  · simp [h, eq_comm]
  · simp [h]

theorem reboundFor_eq_self :
    reboundFor s c damage = s ↔
      (requiredFor s c damage).isEmpty = true ∨ RebindsNothing s c := by
  unfold reboundFor DisplayState.rebindUnavailableObligations
  cases hempty : (requiredFor s c damage).isEmpty with
  | true => simp
  | false =>
    have hsingle := requiredFor_nonempty hempty
    simp only [Bool.false_eq_true, if_false, false_or]
    constructor
    · intro heq k o ho hstranded
      have hmap := congrArg (fun t : DisplayState => t.presentationObligations.get? k) heq
      dsimp only at hmap
      rw [OrdMap.get?_mapVals, ho, Option.map_some, Option.some.injEq, hsingle] at hmap
      exact rebindObligation_eq_self.mp hmap hstranded
    · intro hnothing
      have hsame : (s.presentationObligations.mapVals fun _ o =>
          s.rebindObligation c.sceneEpoch c.sceneGeneration (requiredFor s c damage) o) =
          s.presentationObligations := by
        apply OrdMap.ext_get?
        intro k
        rw [OrdMap.get?_mapVals]
        cases ho : s.presentationObligations.get? k with
        | none => rfl
        | some o =>
          rw [Option.map_some, Option.some.injEq, hsingle]
          exact rebindObligation_eq_self.mpr (hnothing k o ho)
      rw [hsame]

theorem acceptCanonical_prepared (h : Acceptable s c replay store damage) :
    acceptCanonical s c source env = commitPrepared s c source env replay store damage := by
  obtain ⟨usage, husage⟩ := validateSceneAdmission_ok.mpr h.admissible
  unfold acceptCanonical
  rw [husage, h.notStale, h.decision, h.prepared]
  rfl

/-- Past the checks, a scene that is not refused is committed. -/
theorem acceptCanonical_taken (h : Acceptable s c replay store damage)
    (hr : ¬ CommitRefused s c source env replay (requiredFor s c damage)) :
    IsCommitted (acceptCanonical s c source env).2 := by
  rw [acceptCanonical_prepared h]
  unfold commitPrepared
  dsimp only
  split
  · rename_i hfull
    rw [rebind_size, Bool.and_eq_true, Bool.not_eq_true', decide_eq_true_eq] at hfull
    exact absurd (.inl hfull) hr
  · split
    · rename_i fault hfault
      split_ifs at hfault with hnone
      obtain ⟨reason, hreason, -⟩ := recordCommit_error.mp hfault
      rw [Option.isNone_iff_eq_none] at hnone
      subst hnone
      exact absurd (.inr ⟨rfl, reason, hreason⟩) hr
    · trivial

/-- Past the checks, a refusal leaves the obligations rebound. -/
theorem acceptCanonical_refused (h : Acceptable s c replay store damage)
    (hr : CommitRefused s c source env replay (requiredFor s c damage)) :
    (acceptCanonical s c source env).1 = reboundFor s c damage := by
  rw [acceptCanonical_prepared h]
  unfold commitPrepared
  dsimp only
  split
  · rfl
  · rename_i hbudget
    rw [rebind_size, Bool.and_eq_true, Bool.not_eq_true', decide_eq_true_eq] at hbudget
    cases hr with
    | inl hfull => exact absurd hfull hbudget
    | inr hpersist =>
      obtain ⟨rfl, reason, hreason⟩ := hpersist
      simp only [Option.isNone_none, if_true, Option.getD_none]
      rw [recordCommit_error.mpr ⟨reason, hreason, rfl⟩]
      rfl

/-- A scene that is turned down leaves the state alone exactly when its refusal is clean. -/
theorem acceptCanonical_unchanged (hdown : ¬ IsCommitted (acceptCanonical s c source env).2) :
    (acceptCanonical s c source env).1 = s ↔ RefusalClean s c source env := by
  constructor
  · intro hsame replay store damage hacceptable hrefused
    rw [acceptCanonical_refused hacceptable hrefused] at hsame
    exact reboundFor_eq_self.mp hsame
  · intro hclean
    have hcases := acceptCanonical_cases s c source env
    generalize acceptCanonical s c source env = result at hcases hdown ⊢
    cases hcases with
    | rejected reason => rfl
    | idempotent existing _ _ _ _ _ => rfl
    | refused replay store damage hacceptable hrefused _ _ =>
      exact reboundFor_eq_self.mpr (hclean replay store damage hacceptable hrefused)
    | accepted replay store damage _ _ _ _ => exact absurd trivial hdown

/-- The answers that say a scene was taken. -/
def TakesScene : Except Fault DisplayEvent → Prop
  | .ok (.sceneCommitted ..) => True
  | .ok (.reconciled ..) => True
  | _ => False

namespace Display

variable {β : Type}

theorem acceptScene_unchanged (d : Display β) (env : Env) (source : ServiceRole)
    (scene : SceneCommit) (hdown : ¬ IsCommitted (d.acceptScene env source scene).2) :
    (d.acceptScene env source scene).1 = d ↔
      RefusalClean d.state (canonicalCommit scene) source env := by
  have hunchanged := acceptCanonical_unchanged (s := d.state) (c := canonicalCommit scene) hdown
  obtain ⟨s, backend⟩ := d
  rw [← hunchanged]
  unfold acceptScene
  simp only [Display.mk.injEq, and_true]
  rfl

/-- A command that submits a scene, with what it needs to reach the acceptance path. -/
inductive SubmitsScene (d : Display β) : DisplayCommand → SceneCommit → Prop → Prop
  | commit (scene : SceneCommit) : SubmitsScene d (.commitScene scene) scene True
  | reconcile (epoch : Nat) (scene : SceneCommit) :
      SubmitsScene d (.reconcileScene epoch scene) scene (epoch = d.state.displayEpoch)

/-- A scene turned down changes nothing, unless it is refused past its checks and
has moved an obligation by then. -/
theorem rejection_unchanged [DisplayBackend β] {d : Display β} {env : Env} {source : ServiceRole}
    {topologySequence : Nat} {command : DisplayCommand} {scene : SceneCommit} {admitted : Prop}
    (hcommand : SubmitsScene d command scene admitted)
    (hdown : ¬ TakesScene (d.handleDisplayCommand env source topologySequence command).2) :
    (d.handleDisplayCommand env source topologySequence command).1 = d ↔
      (admitted → RefusalClean d.state (canonicalCommit scene) source env) := by
  cases hcommand with
  | commit =>
    rw [true_imp_iff]
    refine acceptScene_unchanged d env source scene fun hcommitted => hdown ?_
    dsimp only [handleDisplayCommand]
    cases hresult : (d.acceptScene env source scene).2 with
    | error fault =>
      rw [hresult] at hcommitted
      exact hcommitted
    | ok event =>
      rw [hresult] at hcommitted
      cases event <;> first | exact trivial | exact hcommitted
  | reconcile epoch =>
    dsimp only [handleDisplayCommand] at hdown ⊢
    unfold reconcileScene at hdown ⊢
    split_ifs at hdown ⊢ with hepoch
    · simp [hepoch]
    · rw [not_not] at hepoch
      simp only [hepoch, true_imp_iff]
      have hunchanged := acceptScene_unchanged d env source scene
      generalize d.acceptScene env source scene = result at hunchanged hdown ⊢
      obtain ⟨d', answer⟩ := result
      cases answer with
      | error fault => exact hunchanged id
      | ok event =>
        cases event
        case sceneCommitted => exact absurd trivial hdown
        all_goals exact hunchanged id

theorem rejection_unchanged_stale :
    ((Server.serve MockDisplayBackend.production
        [.command (.commitScene (pixelScene 2 1))]).display.handleDisplayCommand {} .waylandd 0
      (.commitScene (pixelScene 1 1))).1 =
      (Server.serve MockDisplayBackend.production
        [.command (.commitScene (pixelScene 2 1))]).display := by
  refine (rejection_unchanged (d := (Server.serve MockDisplayBackend.production
    [.command (.commitScene (pixelScene 2 1))]).display) (.commit (pixelScene 1 1)) ?_).mpr ?_
  · intro h
    exact h
  · intro _ replay store damage hacceptable _
    exact absurd hacceptable.notStale (by decide)

/-- A disk that takes no snapshot. -/
def fullDisk : Env := { persists := fun _ => .error "failed to write temporary scene snapshot" }

/-- A backend whose monitor is unplugged again. -/
def unpluggedBackend : MockDisplayBackend :=
  { MockDisplayBackend.production with
    outputEvents := [[pixelConnected mockBackendInstanceId],
      [.disconnected mockBackendInstanceId "eDP-1" 2 1]] }

/-- The obligation of the first scene has lost its output; the second scene, for
another output, takes it over and is then lost with the write of the snapshot. -/
theorem refused_scene_moves_obligation :
    let d := (Server.serve unpluggedBackend
      [.command (.commitScene (pixelScene 1 1)), .command .getReconciliation]).display
    let c := { pixelScene 1 2 with target := .output "HDMI-1" };
    ¬ TakesScene (d.handleDisplayCommand fullDisk .waylandd 0 (.commitScene c)).2 ∧
      (d.handleDisplayCommand fullDisk .waylandd 0 (.commitScene c)).1 ≠ d := by
  refine ⟨id, fun heq => ?_⟩
  have hmoved := congrArg (fun d : Display MockDisplayBackend =>
    (d.state.presentationObligations.get? 1).map fun o => o.requiredOutputs.keys) heq
  revert hmoved
  decide

end Display

end TuffXwin.Displayd
