import TuffXwin.Compd.Rebuild
import TuffXwin.Compd.RelayRuns

/-! What the answers of compd are worth. A scene is reported as committed only while displayd
holds one of its target and version, whichever of the ways to the answer was taken. -/

namespace TuffXwin.Compd
open Lib Displayd

/-- displayd holds a scene of this target and version, under this commit id. -/
def Standing (scene : SceneCommit) (commitId : Nat) (s : DisplayState) : Prop :=
  ∃ snapshot, s.lastScene = some snapshot ∧ snapshot.target.name = scene.target.name ∧
    snapshot.version = scene.version ∧ snapshot.commitId = commitId

/-- A scene displayd answers as committed stands, whether it is new or repeats the last one. -/
theorem handleSceneAcceptance_standing {s : DisplayState} {scene : SceneCommit} {env : Env}
    {source : ServiceRole} {target : CommitTarget} {focus : FocusTarget}
    {selection : WaylandSelectionState} {surfaceCount commitId : Nat}
    (h : (handleSceneAcceptance s scene source env).2 =
      .ok (.sceneCommitted target focus selection surfaceCount commitId)) :
    Standing scene commitId (handleSceneAcceptance s scene source env).1 := by
  have hcases := acceptCanonical_cases s (canonicalCommit scene) source env
  have heq : handleSceneAcceptance s scene source env =
      acceptCanonical s (canonicalCommit scene) source env := rfl
  rw [heq] at h ⊢
  generalize acceptCanonical s (canonicalCommit scene) source env = result at hcases h ⊢
  cases hcases with
  | rejected reason => cases h
  | idempotent existing _ hlast _ hsame _ =>
    cases h
    obtain ⟨htarget, -, -, -, hversion⟩ := (sameSceneIdentity_content (c := scene)).mp hsame
    exact ⟨existing, hlast, congrArg CommitTarget.name htarget, hversion, rfl⟩
  | refused replay store damage _ _ result huncommitted =>
    dsimp only at h
    subst h
    exact absurd trivial huncommitted
  | accepted replay store damage hacceptable recorded htaken hrecord =>
    cases h
    cases replay with
    | none => exact ⟨_, (accept_recorded store hrecord).lastScene, rfl, rfl, rfl⟩
    | some commitId =>
      obtain ⟨existing, hreplayed, rfl⟩ := replayDecision_some hacceptable.decision
      obtain rfl := Except.ok.inj hrecord
      obtain ⟨htarget, -, -, -, hversion⟩ :=
        (sameSceneIdentity_content (c := scene)).mp hreplayed.same
      exact ⟨existing, (hydrate_frame s _ _ store damage _).1.trans hreplayed.last,
        congrArg CommitTarget.name htarget, hversion, rfl⟩

section Displayd

variable {β : Type} [DisplayBackend β]
  {link after : DisplayLink (Server β) (Input β) Connection} {relay : RelayScene}
  {receipt : SceneCommitReceipt}
variable {event : DisplayEvent} {scene : SceneCommit} {epoch : Nat} {relayState : CompdRelayState}
  {snapshot : CommittedSceneState}

/-- displayd as an answered request has found it, and as it has left it. -/
theorem send_answered {command : DisplayCommand}
    (h : displayd.send link command = (after, .ok event)) :
    after.server.display.state = ((nextFound link).display.handleDisplayCommand (nextEnv link)
        .compd (nextFound link).topologySequence command).1.state ∧
      ((nextFound link).display.handleDisplayCommand (nextEnv link) .compd
        (nextFound link).topologySequence command).2 = .ok event := by
  have hok : (displayd.send link command).2 = .ok event := by rw [h]
  obtain ⟨d, rest, hscript, -, hserve⟩ := Service.send_ok hok
  obtain ⟨hdisplay, hanswer⟩ := displayd_ok hserve
  rw [h] at hdisplay
  unfold nextFound nextEnv
  rw [hscript]
  exact ⟨congrArg Display.state hdisplay, hanswer⟩

/-- The snapshot is of the scene that stands when it is taken. -/
theorem querySceneSnapshot_standing {output : Option String}
    (h : querySceneSnapshotFromDisplayd displayd link output = (after, .ok (some snapshot))) :
    after.server.display.state.lastScene = some snapshot := by
  unfold querySceneSnapshotFromDisplayd at h
  split at h
  · cases h
  · rename_i hsend
    cases h
    obtain ⟨hstate, hanswer⟩ := send_answered hsend
    rw [hstate]
    have hsnapshot : (nextFound link).display.state.sceneForOutput output = some snapshot :=
      DisplayEvent.sceneSnapshot.inj (Except.ok.inj hanswer)
    obtain ⟨scene, hscene, htarget⟩ := Option.bind_eq_some_iff.mp hsnapshot
    refine hscene.trans (congrArg some ?_)
    cases output with
    | none => exact Option.some.inj htarget
    | some name =>
      dsimp only at htarget
      split_ifs at htarget
      exact Option.some.inj htarget
  · cases h
  · cases h

theorem matchingSnapshotReceipt_standing
    (h : matchingSnapshotReceipt displayd relay link = (after, .ok (some receipt))) :
    Standing relay.toCommit receipt.commitId after.server.display.state := by
  unfold matchingSnapshotReceipt at h
  split at h
  · cases h
  · cases h
  · rename_i snapshot hquery
    split_ifs at h with hmatches hzero
    · cases h
    · cases h
    obtain ⟨rfl, hreceipt⟩ := Prod.mk.inj h
    cases hreceipt
    rw [Bool.not_eq_true', Bool.not_eq_false] at hmatches
    obtain ⟨htarget, hepoch, hgeneration⟩ := of_decide_eq_true hmatches
    exact ⟨snapshot, querySceneSnapshot_standing hquery, htarget,
      sceneVersion_eq.mpr ⟨hepoch, hgeneration⟩, rfl⟩

theorem reconciledReceipt_standing
    (h : reconciledReceipt displayd relay link = (after, .ok receipt)) :
    Standing relay.toCommit receipt.commitId after.server.display.state := by
  unfold reconciledReceipt at h
  split at h
  · cases h
  · rename_i snapshot hquery
    obtain ⟨rfl, hreceipt⟩ := Prod.mk.inj h
    unfold reconciliationCommitId at hreceipt
    cases snapshot with
    | none => cases hreceipt
    | some snapshot =>
      dsimp only at hreceipt
      split_ifs at hreceipt with htarget hversion hzero
      · cases hreceipt
      · cases hreceipt
      · cases hreceipt
      · cases hreceipt
        rw [not_or, not_not, not_not] at hversion
        exact ⟨snapshot, querySceneSnapshot_standing hquery, not_not.mp htarget,
          sceneVersion_eq.mpr hversion, rfl⟩

/-! Every way through the reconciliation ends with one of these two queries. -/

theorem reconcileScene_standing
    (h : reconcileScene displayd relay epoch link = (after, .finished (.ok receipt))) :
    Standing relay.toCommit receipt.commitId after.server.display.state := by
  unfold reconcileScene at h
  split at h
  · split at h
    · rename_i hmatching
      cases h
      exact matchingSnapshotReceipt_standing hmatching
    · cases h
  · split_ifs at h
    · obtain ⟨rfl, hreceipt⟩ := Prod.mk.inj h
      exact reconciledReceipt_standing (Prod.ext rfl (Attempt.finished.inj hreceipt))
    · cases h
  · split at h
    · rename_i hmatching
      cases h
      exact matchingSnapshotReceipt_standing hmatching
    · cases h
  · cases h

theorem reconcileAttempt_standing
    (h : reconcileAttempt displayd relay link = (after, .finished (.ok receipt))) :
    Standing relay.toCommit receipt.commitId after.server.display.state := by
  unfold reconcileAttempt at h
  split at h
  · cases h
  · unfold beginReconciliation at h
    split at h
    · cases h
    · split_ifs at h
      · exact reconcileScene_standing h
      · cases h
    · cases h
    · cases h
  · cases h
  · cases h

theorem reconcileLoop_standing {attempts : Nat} {lastError : Option String}
    (h : reconcileLoop displayd relay attempts lastError link = (after, .ok receipt)) :
    Standing relay.toCommit receipt.commitId after.server.display.state := by
  induction attempts generalizing lastError link with
  | zero => cases h
  | succ attempts ih =>
    unfold reconcileLoop at h
    split at h
    · rename_i hattempt
      cases h
      exact reconcileAttempt_standing hattempt
    · exact ih h

omit [DisplayBackend β] in
theorem displayReconcileScene_standing {d : Display β} {env : Env} {source : ServiceRole}
    {accepted sceneGeneration payloadCount : Nat} (h : (d.reconcileScene env source epoch scene).2 =
      .ok (.reconciled accepted sceneGeneration payloadCount)) :
    ∃ commitId, Standing scene commitId (d.reconcileScene env source epoch scene).1.state := by
  unfold Display.reconcileScene at h ⊢
  split_ifs at h ⊢
  · cases h
  · split at h
    · cases h
    · rename_i haccept
      obtain ⟨rfl, hanswer⟩ := Prod.mk.inj haccept
      exact ⟨_, handleSceneAcceptance_standing hanswer⟩
    · rename_i d' event' hno haccept
      cases h
      obtain ⟨-, hanswer⟩ := Prod.mk.inj haccept
      rcases acceptCanonical_answer hanswer with ⟨reason, hrejected⟩ | hcommitted
      · cases hrejected
      · exact absurd hcommitted id

/-- What an answer of compd to this command says of displayd. -/
def Truthful (s : DisplayState) : DisplayCommand → DisplayEvent → Prop
  | .commitScene scene, .sceneCommitted _ _ _ _ commitId =>
    Standing scene commitId s
  | .reconcileScene _ scene, .reconciled _ _ _ => ∃ commitId, Standing scene commitId s
  | _, _ => True

theorem commitScene_truthful (h : (commitScene displayd relay relayState link).result = .ok event) :
    Truthful (commitScene displayd relay relayState link).link.server.display.state
      (.commitScene relay.toCommit) event := by
  unfold commitScene at h ⊢
  split at h
  · rename_i hsend
    cases h
    obtain ⟨hstate, hanswer⟩ := send_answered hsend
    dsimp only
    rw [hstate]
    exact handleSceneAcceptance_standing hanswer
  · split at h
    · rename_i hmatching
      cases h
      exact matchingSnapshotReceipt_standing hmatching
    · cases h
      trivial
  · cases h
  · unfold recoverScene at h ⊢
    split at h
    · rename_i hreconcile
      cases h
      exact reconcileLoop_standing hreconcile
    · cases h
      trivial

theorem forwardCommitScene_truthful
    (h : (forwardCommitScene displayd scene relayState link).result = .ok event) :
    Truthful (forwardCommitScene displayd scene relayState link).link.server.display.state
      (.commitScene scene) event := by
  unfold forwardCommitScene at h ⊢
  dsimp only at h ⊢
  split at h
  · cases h
    trivial
  · split_ifs at h ⊢
    · cases h
      trivial
    · split at h
      · rename_i hchecked
        unfold checkDeferred at hchecked
        split_ifs at hchecked
        · cases h
          exact matchingSnapshotReceipt_standing hchecked
        · cases hchecked
      · have hcommit := commitScene_truthful h
        cases event with
        | sceneCommitted => exact hcommit
        | _ => trivial

theorem forwardReconcileScene_truthful
    (h : (forwardReconcileScene displayd epoch scene relayState link).result = .ok event) :
    Truthful (forwardReconcileScene displayd epoch scene relayState link).link.server.display.state
      (.reconcileScene epoch scene) event := by
  unfold forwardReconcileScene at h ⊢
  dsimp only at h ⊢
  split at h
  · cases h
    trivial
  · split_ifs at h ⊢
    · cases h
      trivial
    · split at h
      · rename_i hsend
        cases h
        obtain ⟨hstate, hanswer⟩ := send_answered hsend
        dsimp only
        rw [hstate]
        exact displayReconcileScene_standing hanswer
      · rename_i hother hsend
        cases h
        cases event with
        | reconciled => exact absurd rfl (hother _ _ _)
        | _ => trivial
      · cases h
        trivial

theorem truthful_rejected (s : DisplayState) (command : DisplayCommand) (reason : String) :
    Truthful s command (.rejected reason) := by
  cases command <;> trivial

/-- compd reports a scene as committed or reconciled only if displayd, at the end of the
exchange, holds a scene of its target and version, under the commit id it reports. -/
theorem answers_truthful (relayState : CompdRelayState)
    (link : DisplayLink (Server β) (Input β) Connection) (command : DisplayCommand) :
    Truthful (forwardDisplayCommand displayd relayState link command).link.server.display.state
      command (forwardDisplayCommand displayd relayState link command).response := by
  unfold Forwarded.response
  split
  · rename_i event hresult
    cases command with
    | commitScene scene => exact forwardCommitScene_truthful hresult
    | reconcileScene epoch scene => exact forwardReconcileScene_truthful hresult
    | _ => trivial
  · exact truthful_rejected _ command _

/-- A scene that had arrived when its answer was lost is acknowledged when it comes again, with
the commit id it has, and displayd keeps it as it is. -/
theorem retry_acknowledged {r : RelayRun (Server β)} {script : List (Delivery (Input β) Connection)}
    {p : PendingRelayScene} (hreach : (RelayRun.system displayd).Reachable r)
    (hpending : r.relayState.pending = some p) (hversion : scene.version = p.version)
    (hvalid : ∃ usage,
      validateRelayScene (canonicalizeRelayScene (.ofCommit scene)) true = .ok usage)
    (hholds : Holds (some snapshot) r.server) (hsole : SolePublisher ⟨r.server, script, []⟩)
    (htarget : snapshot.target.name = scene.target.name)
    (hsnapshot : snapshot.version = scene.version)
    (hanswered : ∃ event, (displayd.send ⟨r.server, script, []⟩
      (.getSceneSnapshot (some scene.target.name))).2 = .ok event) :
    (∃ surfaceCount, (r.forward displayd ⟨.commitScene scene, script⟩).response =
        .sceneCommitted scene.target scene.focus scene.selection surfaceCount
          snapshot.commitId) ∧
      Holds (some snapshot) (r.next displayd ⟨.commitScene scene, script⟩).server ∧
      (r.next displayd ⟨.commitScene scene, script⟩).relayState.pending = none := by
  obtain ⟨usage, hvalid⟩ := hvalid
  obtain ⟨event, hok⟩ := hanswered
  have hpass : r.relayState.shouldRejectVersion scene.version = false :=
    hversion ▸ (RelayRun.floored_reachable hreach).marker.passes hpending
  have hcarries : Carries (canonicalizeRelayScene (.ofCommit scene)).scene snapshot :=
    ⟨htarget, (sceneVersion_eq.mp hsnapshot).1, (sceneVersion_eq.mp hsnapshot).2⟩
  obtain ⟨after, receipt, hmatching, hafter⟩ :=
    matchingSnapshotReceipt_old hcarries hholds hsole hok
  obtain ⟨standing, hscene, -, -, hid⟩ := matchingSnapshotReceipt_standing hmatching
  obtain rfl := Option.some.inj (hscene.symm.trans hafter.scene)
  have hchecked : checkDeferred displayd (canonicalizeRelayScene (.ofCommit scene)) r.relayState
      ⟨r.server, script, []⟩ = (after, .ok (some receipt)) := by
    have hretry : retryingDeferredVersion r.relayState
        (canonicalizeRelayScene (.ofCommit scene)) = true := by
      unfold retryingDeferredVersion
      rw [hpending]
      exact decide_eq_true hversion.symm
    unfold checkDeferred
    rw [hretry, if_pos rfl]
    exact hmatching
  have hforward : r.forward displayd ⟨.commitScene scene, script⟩ =
      acknowledge (canonicalizeRelayScene (.ofCommit scene)) receipt r.relayState after := by
    change forwardCommitScene displayd scene r.relayState ⟨r.server, script, []⟩ = _
    unfold forwardCommitScene
    dsimp only
    rw [hvalid]
    dsimp only
    rw [if_neg (by rw [show (canonicalizeRelayScene (.ofCommit scene)).version = scene.version
      from rfl, hpass]; simp), hchecked]
  unfold RelayRun.next
  rw [hforward]
  refine ⟨⟨receipt.surfaceCount, hid ▸ rfl⟩, hafter, ?_⟩
  change r.relayState.pending.filter _ = none
  rw [hpending]
  have hle : p.version ≤ (canonicalizeRelayScene (.ofCommit scene)).version := hversion.ge
  simp [Option.filter, hle]

end Displayd

/-- displayd has taken the scene, and the link was lost before it could say so. -/
def lostOnce : RelayRun (Server MockDisplayBackend) :=
  RelayRun.next displayd { server := Server.serve MockDisplayBackend.production [] }
    ⟨.commitScene (RelayRun.emptyCommit 1), [{ context := {}, returns := false }]⟩

theorem retry_acknowledged_lost : ∃ surfaceCount,
    (lostOnce.forward displayd
      ⟨.commitScene (RelayRun.emptyCommit 1), [{ context := {} }]⟩).response =
        .sceneCommitted (.output "eDP-1") .none {} surfaceCount 1 := by
  have hholds :
      Holds (some (committedScene (RelayRun.emptyCommit 1) .compd 1 {})) lostOnce.server :=
    ⟨step_reachable (Server.serve_reachable _ []) (.client
      { source := .compd
        request := some (.command (.commitScene (RelayRun.emptyCommit 1))) }), rfl⟩
  have hsole : SolePublisher (⟨lostOnce.server, [{ context := {} }], []⟩ :
      DisplayLink (Server MockDisplayBackend) (Input MockDisplayBackend) Connection) := by
    rintro d hd i hi
    obtain rfl := List.mem_singleton.mp hd
    cases hi
  have hreach : (RelayRun.system displayd).Reachable lostOnce := .next _ (.init ⟨_, rfl⟩) trivial
  have hversion : (RelayRun.emptyCommit 1).version = sceneVersion 1 1 := rfl
  exact (retry_acknowledged hreach rfl hversion ⟨_, rfl⟩ hholds hsole rfl rfl ⟨_, rfl⟩).1

end TuffXwin.Compd
