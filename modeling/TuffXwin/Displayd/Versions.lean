import TuffXwin.Displayd.Backends
import TuffXwin.Displayd.Ledger
import TuffXwin.Displayd.Trace

/-! The order of the scenes displayd accepts, across restarts. In memory the
version floor outlives unversioned scenes; the snapshot on disk, from which a
restart rebuilds it, holds the last scene only. -/

namespace TuffXwin.Displayd
open Lib

variable {s : DisplayState}
variable {s' : DisplayState} {c : SceneCommit}

/-- The content of an accepted scene, as a later submission may repeat it. -/
def SameContent (scene : CommittedSceneState) (c : SceneCommit) : Prop :=
  scene.target = c.target ∧ scene.focus = c.focus ∧ scene.selection = c.selection ∧
    scene.surfaces = canonicalizeSurfaces c.surfaces ∧ scene.version = c.version

/-- Of two scenes with versions the newer one has the greater. -/
def VersionOrder (newer older : CommittedSceneState) : Prop :=
  newer.sceneGeneration ≠ 0 → older.sceneGeneration ≠ 0 → older.version < newer.version

/-- Scene versions and commit ids never go back, in the scenes recorded so far and
in the next one that is answered as committed. -/
structure NeverBack (s : DisplayState) : Prop where
  versions : (acceptedScenes s.history).Pairwise VersionOrder
  commitIds : (acceptedScenes s.history).Pairwise fun newer older =>
    older.commitId < newer.commitId
  next : ∀ c source env, IsCommitted (handleSceneAcceptance s c source env).2 →
    c.sceneGeneration ≠ 0 → ∀ old ∈ acceptedScenes s.history, old.sceneGeneration ≠ 0 →
      old.version ≤ c.version ∧ (old.version = c.version → SameContent old c)

/-- The floor is what the snapshot on disk can restore. -/
def FloorOnDisk (s : DisplayState) : Prop :=
  s.floor = (s.lastScene.map (·.version)).getD (sceneVersion 0 0)

/-- A fresh scene still gets a commit id of its own. -/
def freshCommitIds : MovePolicy :=
  { anyMove with accept := fun s _ replay _ _ => replay = none → s.lastCommitId < u64Max }

/-- No scene is recorded once the commit ids are used up, and displayd does not
restart over a snapshot that has lost the floor. -/
def VersionStep {β : Type} [DisplayBackend β] (srv : Server β) (input : Input β) : Prop :=
  Server.StepAllowed freshCommitIds srv input ∧
    ((∃ epoch keeps backend, input = .restart epoch keeps backend) →
      FloorOnDisk srv.display.state)

/-- The floor is above every accepted version, the last commit id above every id. -/
structure Ordered (s : DisplayState) : Prop where
  ledger : Ledger s
  versions : (acceptedScenes s.history).Pairwise VersionOrder
  commitIds : (acceptedScenes s.history).Pairwise fun newer older =>
    older.commitId < newer.commitId
  floor : ∀ old ∈ acceptedScenes s.history, old.sceneGeneration ≠ 0 → old.version ≤ s.floor
  last : ∀ old ∈ acceptedScenes s.history, old.commitId ≤ s.lastCommitId

theorem Ordered.kept (h : Ordered s) (hk : SceneKept s s') : Ordered s' where
  ledger := h.ledger.kept hk
  versions := hk.accepted ▸ h.versions
  commitIds := hk.accepted ▸ h.commitIds
  floor := by
    rw [hk.accepted, hk.floor]
    exact h.floor
  last := by
    rw [hk.accepted, DisplayState.lastCommitId, hk.lastScene]
    exact h.last

/-- The next commit id is above the last one, until they are used up. -/
theorem Ledger.lastCommitId_lt_next (h : Ledger s) (hfresh : s.lastCommitId < u64Max) :
    s.lastCommitId < s.nextCommitId := by
  rw [h.next]
  unfold DisplayState.lastCommitId at hfresh ⊢
  cases hs : s.lastScene with
  | none => exact Nat.one_pos
  | some scene =>
    rw [hs] at hfresh
    exact lt_satAdd_one hfresh

theorem Ordered.accept {store : DisplayPixelTransportStore}
    {damage : OrdMap String (List RendererRect)} {source : ServiceRole} {env : Env} (h : Ordered s)
    (ha : Acceptable s c none store damage) (hfresh : s.lastCommitId < u64Max)
    (hr : Recorded s (committedScene c source s.nextCommitId env) (requiredFor s c damage) s') :
    Ordered s' := by
  have hnext := h.ledger.lastCommitId_lt_next hfresh
  have hnewer : ∀ old ∈ acceptedScenes s.history,
      VersionOrder (committedScene c source s.nextCommitId env) old := by
    intro old hold hgen hold_gen
    exact (h.floor old hold hold_gen).trans_lt (ha.newer hgen)
  have hlast : s'.lastCommitId = s.nextCommitId := lastCommitId_some hr.lastScene
  refine ⟨h.ledger.record rfl hr, ?_, ?_, ?_, ?_⟩
  · rw [acceptedScenes_recorded hr]
    exact List.pairwise_cons.mpr ⟨hnewer, h.versions⟩
  · rw [acceptedScenes_recorded hr]
    refine List.pairwise_cons.mpr ⟨fun old hold => ?_, h.commitIds⟩
    exact (h.last old hold).trans_lt hnext
  · rw [acceptedScenes_recorded hr, hr.floor, List.forall_mem_cons]
    constructor
    · intro hgen
      rw [if_pos hgen]
    · intro old hold hgen
      split_ifs with hversioned
      · exact (hnewer old hold hversioned hgen).le
      · exact h.floor old hold hgen
  · rw [acceptedScenes_recorded hr, hlast, List.forall_mem_cons]
    exact ⟨le_rfl, fun old hold => (h.last old hold).trans hnext.le⟩

theorem Ordered.restart (h : Ordered s) (hdisk : FloorOnDisk s) (epoch : Nat) (keeps : Bool) :
    Ordered (DisplayState.load epoch (startOutputs keeps) s.lastScene s.history) where
  ledger := h.ledger.restart epoch keeps
  versions := h.versions
  commitIds := h.commitIds
  floor old hold hgen := by
    rw [load_floor, ← hdisk]
    exact h.floor old hold hgen
  last := h.last

/-- Two accepted scenes of one version are the same scene. -/
theorem Ordered.same_version (h : Ordered s) {a b : CommittedSceneState}
    (ha : a ∈ acceptedScenes s.history) (hb : b ∈ acceptedScenes s.history)
    (hgen : a.sceneGeneration ≠ 0) (heq : a.version = b.version) : a = b := by
  have hgen_b : b.sceneGeneration ≠ 0 := by
    rw [CommittedSceneState.version, CommittedSceneState.version, sceneVersion_eq] at heq
    exact heq.2 ▸ hgen
  have hdistinct : (acceptedScenes s.history).Pairwise fun x y =>
      x.version = y.version → x.sceneGeneration ≠ 0 → y.sceneGeneration ≠ 0 → x = y :=
    h.versions.imp fun hlt he hx hy => absurd he (ne_of_gt (hlt hx hy))
  have hflipped : (acceptedScenes s.history).Pairwise (flip fun x y =>
      x.version = y.version → x.sceneGeneration ≠ 0 → y.sceneGeneration ≠ 0 → x = y) :=
    h.versions.imp fun hlt he hx hy => absurd he (ne_of_lt (hlt hy hx))
  exact hdistinct.forall_of_forall_of_flip (fun _ _ _ _ _ => rfl) hflipped ha hb heq hgen hgen_b

/-- A version equal to the floor is taken only for the very scene that has it. -/
theorem Ordered.repeats (h : Ordered s) {existing : CommittedSceneState}
    (hlast : s.lastScene = some existing)
    (hsame : sameSceneIdentity existing c.target c.focus c.selection
      (canonicalizeSurfaces c.surfaces) c.sceneEpoch c.sceneGeneration = true)
    (hgen : c.sceneGeneration ≠ 0) :
    ∀ old ∈ acceptedScenes s.history, old.sceneGeneration ≠ 0 →
      old.version ≤ c.version ∧ (old.version = c.version → SameContent old c) := by
  unfold sameSceneIdentity at hsame
  obtain ⟨htarget, hfocus, hselection, hsurfaces, he, hg⟩ := of_decide_eq_true hsame
  have hversion : existing.version = c.version := by
    rw [CommittedSceneState.version, SceneCommit.version, he, hg]
  have hexisting : existing ∈ acceptedScenes s.history :=
    List.mem_of_head? (h.ledger.last.symm.trans hlast)
  have hfloor := h.ledger.current existing hlast (hg ▸ hgen)
  intro old hold hold_gen
  refine ⟨?_, fun heq => ?_⟩
  · rw [← hversion, ← hfloor]
    exact h.floor old hold hold_gen
  · obtain rfl := h.same_version hold hexisting hold_gen (heq.trans hversion.symm)
    exact ⟨htarget, hfocus, hselection, hsurfaces, hversion⟩

theorem Ordered.neverBack (h : Ordered s) : NeverBack s where
  versions := h.versions
  commitIds := h.commitIds
  next c source env hcommitted hgen := by
    have hcases := acceptCanonical_cases s (canonicalCommit c) source env
    have hresult : IsCommitted (acceptCanonical s (canonicalCommit c) source env).2 := hcommitted
    generalize acceptCanonical s (canonicalCommit c) source env = result at hcases hresult
    cases hcases with
    | rejected reason => exact absurd hresult id
    | idempotent existing _ hlast _ hsame _ => exact h.repeats hlast hsame hgen
    | refused _ _ _ _ _ _ huncommitted => exact absurd hresult huncommitted
    | accepted replay store damage hacceptable _ _ _ =>
      cases replay with
      | some commitId =>
        obtain ⟨existing, hreplayed, _⟩ := replayDecision_some hacceptable.decision
        exact h.repeats hreplayed.last hreplayed.same hgen
      | none =>
        have hnewer : s.floor < c.version := hacceptable.newer hgen
        intro old hold hold_gen
        have hlt := (h.floor old hold hold_gen).trans_lt hnewer
        exact ⟨hlt.le, fun heq => absurd heq hlt.ne⟩

theorem ordered_load (epoch : Nat) (keeps : Bool) :
    Ordered (DisplayState.load epoch (startOutputs keeps) none []) where
  ledger := ledger_load epoch keeps
  versions := List.Pairwise.nil
  commitIds := List.Pairwise.nil
  floor old hold := by cases hold
  last old hold := by cases hold

namespace Server

/-- In every run that restarts only over a snapshot with the floor and records no
scene past the last commit id, versions and commit ids never go back. -/
theorem version_law {β : Type} [DisplayBackend β] {srv : Server β}
    (h : (system β).Reach VersionStep srv) : NeverBack srv.display.state := by
  refine Ordered.neverBack (scenes_run (P := freshCommitIds) (I := Ordered) _ ordered_load ?_ ?_ h)
  · intro s s' hs hchange
    cases hchange with
    | kept hk => exact hs.kept hk
    | accepted c store damage source env hacceptable hallowed hr =>
      exact hs.accept hacceptable (hallowed rfl) hr
  · intro s epoch keeps hs hdisk
    exact hs.restart hdisk epoch keeps

/-- A run of the mock backend from its first start. -/
def runMock (inputs : List (Input MockDisplayBackend)) : Server MockDisplayBackend :=
  (system MockDisplayBackend).run (start 1 false MockDisplayBackend.production none []) inputs

def commitInput (sceneEpoch sceneGeneration : Nat) : Input MockDisplayBackend :=
  .client { request := some (.command (.commitScene (pixelScene sceneEpoch sceneGeneration))) }

theorem version_law_restarted :
    NeverBack (runMock [commitInput 1 1,
      .restart 2 false MockDisplayBackend.production]).display.state := by
  have hinit : (system MockDisplayBackend).init
      (start 1 false MockDisplayBackend.production none []) := ⟨1, false, _, rfl⟩
  refine version_law (.next (.restart 2 false _) (.next (commitInput 1 1) (.init hinit) ⟨?_, ?_⟩)
    ⟨trivial, fun _ => rfl⟩)
  · intro srv' command _ hevents hrequest
    obtain rfl := congrArg Prod.fst hevents
    cases hrequest
    exact fun _ _ _ _ => ⟨fun _ _ => by decide, fun _ => trivial⟩
  · intro hrestart
    obtain ⟨_, _, _, hinput⟩ := hrestart
    cases hinput

/-- An unversioned scene hides the floor from the restart: an older version follows. -/
theorem version_goes_back :
    ¬ NeverBack (runMock [commitInput 2 1, commitInput 0 0,
      .restart 2 false MockDisplayBackend.production, commitInput 1 1]).display.state := by
  intro h
  have hversions := h.versions
  have hpair : ∀ a b c : CommittedSceneState, [a, b, c].Pairwise VersionOrder →
      VersionOrder a c := fun a b c hp => (List.pairwise_cons.mp hp).1 c (by simp)
  have horder := hpair _ _ _ hversions
  exact absurd (horder (by decide) (by decide)) (by decide)

end Server

end TuffXwin.Displayd
