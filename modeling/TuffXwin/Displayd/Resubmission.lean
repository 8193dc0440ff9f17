import TuffXwin.Displayd.Rejection
import TuffXwin.Displayd.Versions

/-! A scene submitted under the version of the canonical one. With a version of its own
displayd takes it only as a repetition; without one it goes through every check again. -/

namespace TuffXwin.Displayd
open Lib

/-- Admitted, and then turned down for nothing but the version it carries. -/
def RefusedForVersion (s : DisplayState) (c : SceneCommit) : Prop :=
  AdmissibleScene (canonicalCommit c) ∧
    ∃ reason, replayDecision s (canonicalCommit c) = .answer (.rejected reason)

/-- The scene passes every check as one that repeats none. -/
def TakenAnew (s : DisplayState) (c : SceneCommit) (source : ServiceRole) (env : Env) : Prop :=
  ∃ store damage, Acceptable s (canonicalCommit c) none store damage ∧
    ¬ CommitRefused s (canonicalCommit c) source env none
      (requiredFor s (canonicalCommit c) damage)

/-- The canonical scene has the content of this submission. -/
def HoldsContent (s : DisplayState) (c : SceneCommit) : Prop :=
  ∃ canonical, s.lastScene = some canonical ∧ SameContent canonical c

variable {s : DisplayState} {c : SceneCommit} {source : ServiceRole} {env : Env}
  {existing : CommittedSceneState}

theorem sameSceneIdentity_content : sameSceneIdentity existing c.target c.focus c.selection
    (canonicalizeSurfaces c.surfaces) c.sceneEpoch c.sceneGeneration = true ↔
      SameContent existing c := by
  unfold sameSceneIdentity SameContent
  rw [decide_eq_true_eq, CommittedSceneState.version, SceneCommit.version, sceneVersion_eq]

/-- Without payloads a repetition meets no objection. -/
theorem not_refusedForVersion (hlast : s.lastScene = some existing)
    (hsame : SameContent existing c) (hbare : c.pixelPayloads = []) :
    ¬ RefusedForVersion s c := by
  rintro ⟨-, reason, hrefused⟩
  have hidentity := sameSceneIdentity_content.mpr hsame
  unfold replayDecision at hrefused
  dsimp only [canonicalCommit] at hrefused
  rw [hlast, hbare] at hrefused
  simp only [hidentity, List.all_nil, List.any_nil, Bool.and_self, if_true] at hrefused
  split at hrefused
  · cases hrecovering : decide (s.reconciliationState = .recovering) with
    | true =>
      rw [hrecovering] at hrefused
      cases hrefused
    | false =>
      rw [hrecovering] at hrefused
      cases hrefused
  · cases hrefused

/-- A scene that is not committed leaves the canonical one. -/
theorem acceptCanonical_lastScene (hdown : ¬ IsCommitted (acceptCanonical s c source env).2) :
    (acceptCanonical s c source env).1.lastScene = s.lastScene := by
  have hcases := acceptCanonical_cases s c source env
  generalize acceptCanonical s c source env = result at hcases hdown ⊢
  cases hcases with
  | rejected reason => rfl
  | idempotent existing _ _ _ _ _ => rfl
  | refused replay store damage _ _ _ _ => rw [rebind_frame]
  | accepted replay store damage _ _ _ _ => exact absurd trivial hdown

/-- A commit is of a scene that repeats the canonical one, or of one that takes its place. -/
theorem acceptCanonical_committed
    (hcommitted : IsCommitted (acceptCanonical s (canonicalCommit c) source env).2) :
    ((acceptCanonical s (canonicalCommit c) source env).1.lastScene = s.lastScene ∧
        HoldsContent s c) ∨
      (TakenAnew s c source env ∧
        HoldsContent (acceptCanonical s (canonicalCommit c) source env).1 c) := by
  have hcases := acceptCanonical_cases s (canonicalCommit c) source env
  generalize acceptCanonical s (canonicalCommit c) source env = result at hcases hcommitted ⊢
  cases hcases with
  | rejected reason => exact absurd hcommitted id
  | idempotent existing _ hlast _ hsame _ =>
    exact .inl ⟨rfl, existing, hlast, sameSceneIdentity_content.mp hsame⟩
  | refused replay store damage _ _ _ huncommitted => exact absurd hcommitted huncommitted
  | accepted replay store damage hacceptable recorded htaken hrecord =>
    cases replay with
    | none =>
      have hrecorded := accept_recorded store hrecord
      exact .inr ⟨⟨store, damage, hacceptable, htaken⟩, _, hrecorded.lastScene,
        rfl, rfl, rfl, rfl, rfl⟩
    | some commitId =>
      obtain ⟨existing, hreplayed, -⟩ := replayDecision_some hacceptable.decision
      obtain rfl := Except.ok.inj hrecord
      exact .inl ⟨(hydrate_frame s _ _ store damage _).1, existing, hreplayed.last,
        sameSceneIdentity_content.mp hreplayed.same⟩

/-- A version equal to that of the canonical scene is never taken anew. -/
theorem TakenAnew.unversioned (hs : Ledger s) (hlast : s.lastScene = some existing)
    (hversion : existing.version = c.version) (h : TakenAnew s c source env) :
    existing.sceneGeneration = 0 := by
  obtain ⟨store, damage, hacceptable, -⟩ := h
  obtain ⟨hepoch, hgeneration⟩ := sceneVersion_eq.mp hversion
  by_contra hversioned
  have hfloor : sceneVersion c.sceneEpoch c.sceneGeneration =
      sceneVersion s.lastSceneEpoch s.lastSceneGeneration :=
    hversion.symm.trans (hs.current existing hlast hversioned).symm
  have hne : c.sceneEpoch ≠ 0 := fun hzero =>
    hversioned (hgeneration.trans (hacceptable.admissible.version.mp hzero))
  have hequal := replayDecision_none hacceptable.decision
  unfold sceneVersionIsEqual at hequal
  exact absurd ⟨hne, hfloor⟩ (of_decide_eq_false hequal)

/-- A bare submission under the version of the canonical scene ends with its own content
in displayd, and without a refusal for its version, exactly if it repeats that scene, or if
neither has a version and it passes every check. -/
theorem resubmission_iff (hs : Ledger s) (hlast : s.lastScene = some existing)
    (hversion : existing.version = c.version) (hbare : c.pixelPayloads = []) :
    (HoldsContent (acceptCanonical s (canonicalCommit c) source env).1 c ∧
        ¬ RefusedForVersion s c) ↔
      SameContent existing c ∨
        (existing.sceneGeneration = 0 ∧ TakenAnew s c source env) := by
  have holds_iff : ∀ s', s'.lastScene = s.lastScene →
      (HoldsContent s' c ↔ SameContent existing c) := by
    intro s' hkept
    unfold HoldsContent
    rw [hkept, hlast]
    simp
  constructor
  · rintro ⟨hholds, -⟩
    by_cases hcommitted : IsCommitted (acceptCanonical s (canonicalCommit c) source env).2
    · rcases acceptCanonical_committed hcommitted with ⟨hkept, -⟩ | ⟨htaken, -⟩
      · exact .inl ((holds_iff _ hkept).mp hholds)
      · exact .inr ⟨htaken.unversioned hs hlast hversion, htaken⟩
    · exact .inl ((holds_iff _ (acceptCanonical_lastScene hcommitted)).mp hholds)
  · rintro (hsame | ⟨-, htaken⟩)
    · refine ⟨?_, not_refusedForVersion hlast hsame hbare⟩
      by_cases hcommitted : IsCommitted (acceptCanonical s (canonicalCommit c) source env).2
      · rcases acceptCanonical_committed hcommitted with ⟨hkept, -⟩ | ⟨-, hholds⟩
        · exact (holds_iff _ hkept).mpr hsame
        · exact hholds
      · exact (holds_iff _ (acceptCanonical_lastScene hcommitted)).mpr hsame
    · obtain ⟨store, damage, hacceptable, hr⟩ := htaken
      refine ⟨?_, ?_⟩
      · rcases acceptCanonical_committed (acceptCanonical_taken hacceptable hr) with
          ⟨hkept, existing', hlast', hsame⟩ | ⟨-, hholds⟩
        · exact ⟨existing', hkept.trans hlast', hsame⟩
        · exact hholds
      · rintro ⟨-, reason, hrefused⟩
        rw [hacceptable.decision] at hrefused
        cases hrefused

end TuffXwin.Displayd
