import TuffXwin.Compd.Forward
import TuffXwin.Lib.Reach

/-! The versions compd sends on in the course of its life, over any service behind the link.
The floor of the relay never goes back, so a scene that was acknowledged stays behind. -/

namespace TuffXwin.Compd
open Lib

def submittedScene : DisplayCommand → Option SceneCommit
  | .commitScene scene => some scene
  | .reconcileScene _ scene => some scene
  | _ => none

/-- The version an answer settles. -/
def settledVersion : DisplayCommand → DisplayEvent → Option SceneVersion
  | .commitScene scene, .sceneCommitted .. => some scene.version
  | .reconcileScene _ scene, .reconciled .. => some scene.version
  | _, _ => none

namespace CompdRelayState

variable {s : CompdRelayState} {v : SceneVersion}

/-- The marker of a deferred scene is above what was forwarded, unless neither has a version. -/
def MarkerAhead (s : CompdRelayState) : Prop :=
  ∀ p, s.pending = some p →
    s.forwarded < p.version ∨ (s.forwarded = sceneVersion 0 0 ∧ p.version = sceneVersion 0 0)

theorem forwarded_le_floor (s : CompdRelayState) : s.forwarded ≤ s.versionFloor := by
  unfold versionFloor
  split
  · exact le_rfl
  · split_ifs with hlt
    · exact hlt.le
    · exact le_rfl

theorem pending_le_floor {p : PendingRelayScene} (h : s.pending = some p) :
    p.version ≤ s.versionFloor := by
  unfold versionFloor
  rw [h]
  dsimp only
  split_ifs with hlt
  · exact le_rfl
  · exact not_lt.mp hlt

/-- What passes the guard is above the floor, comes for the marker, or finds no floor. -/
theorem floor_of_passes (h : s.shouldRejectVersion v = false) :
    s.versionFloor < v ∨ s.versionFloor = sceneVersion 0 0 ∨
      (s.versionFloor = v ∧ ∃ p, s.pending = some p ∧ p.version = v) := by
  unfold shouldRejectVersion at h
  split_ifs at h with hzero hincoming hlt heq
  · exact .inr (.inl hzero)
  · cases hpending : s.pending with
    | none => simp [hpending] at h
    | some p =>
      rw [hpending] at h
      exact .inr (.inr ⟨heq.symm, p, rfl, by simpa using h⟩)
  · exact .inl (lt_of_le_of_ne (not_lt.mp hlt) (Ne.symm heq))

theorem floor_le_of_passes (h : s.shouldRejectVersion v = false) : s.versionFloor ≤ v := by
  rcases floor_of_passes h with hlt | hzero | ⟨heq, -⟩
  · exact hlt.le
  · exact hzero ▸ sceneVersion_zero_le v
  · exact heq.le

/-- Of the versions that pass, only the empty one has been forwarded. -/
theorem MarkerAhead.passes_ahead (hs : s.MarkerAhead) (h : s.shouldRejectVersion v = false) :
    s.forwarded = sceneVersion 0 0 ∨ s.forwarded < v := by
  rcases floor_of_passes h with hlt | hzero | ⟨-, p, hpending, rfl⟩
  · exact .inr ((forwarded_le_floor s).trans_lt hlt)
  · exact .inl (le_antisymm (hzero ▸ forwarded_le_floor s) (sceneVersion_zero_le _))
  · exact (hs p hpending).symm.imp_left And.left

/-- The scene the marker stands for passes. -/
theorem MarkerAhead.passes (hs : s.MarkerAhead) {p : PendingRelayScene}
    (h : s.pending = some p) : s.shouldRejectVersion p.version = false := by
  have hfloor : s.versionFloor = p.version := by
    unfold versionFloor
    rw [h]
    dsimp only
    split_ifs with hlt
    · rfl
    · obtain ⟨hforwarded, hversion⟩ := (hs p h).resolve_left hlt
      rw [hforwarded, hversion]
  unfold shouldRejectVersion
  rw [hfloor, h]
  by_cases hzero : p.version = sceneVersion 0 0 <;> simp [hzero]

variable {relay : RelayScene}

theorem noteForwarded_forwarded (hpass : s.shouldRejectVersion relay.version = false) :
    (s.noteForwarded relay).forwarded = relay.version := by
  have hle := (forwarded_le_floor s).trans (floor_le_of_passes hpass)
  rw [forwarded_noteForwarded]
  split_ifs with hadvances
  · rfl
  · have hzero : relay.version = sceneVersion 0 0 := by
      by_contra hne
      exact hadvances ⟨hne, hle⟩
    exact le_antisymm hle (hzero ▸ sceneVersion_zero_le _)

theorem MarkerAhead.noteForwarded (hpass : s.shouldRejectVersion relay.version = false) :
    (s.noteForwarded relay).MarkerAhead := by
  intro p hpending
  obtain ⟨-, hkept⟩ := Option.filter_eq_some_iff.mp hpending
  rw [noteForwarded_forwarded hpass]
  exact .inl (by simpa using hkept)

/-- A scene that passes takes the place of the marker. -/
theorem deferLatest_pending (reason : String)
    (hpass : s.shouldRejectVersion relay.version = false) :
    (s.deferLatest relay reason).pending =
      some ⟨relay.version, relayResourceUsage relay, reason⟩ := by
  unfold deferLatest
  dsimp only
  cases hpending : s.pending with
  | none => rfl
  | some p =>
    have hle : p.version ≤ relay.version :=
      (pending_le_floor hpending).trans (floor_le_of_passes hpass)
    simp [hle]

theorem MarkerAhead.deferLatest (hs : s.MarkerAhead) (reason : String)
    (hpass : s.shouldRejectVersion relay.version = false) :
    (s.deferLatest relay reason).MarkerAhead := by
  intro p hpending
  obtain rfl := Option.some.inj ((deferLatest_pending reason hpass).symm.trans hpending)
  have hforwarded : (s.deferLatest relay reason).forwarded = s.forwarded := rfl
  rw [hforwarded]
  rcases floor_of_passes hpass with hlt | hzero | ⟨-, p, hmarker, hversion⟩
  · exact .inl ((forwarded_le_floor s).trans_lt hlt)
  · have hnone := le_antisymm (hzero ▸ forwarded_le_floor s) (sceneVersion_zero_le s.forwarded)
    rcases (sceneVersion_zero_le relay.version).eq_or_lt with heq | hlt
    · exact .inr ⟨hnone, heq.symm⟩
    · exact .inl (hnone ▸ hlt)
  · exact hversion ▸ hs p hmarker

end CompdRelayState

section Link

variable {σ ι κ : Type} {S : Service σ ι κ DisplayCommand DisplayEvent}
  {link : DisplayLink σ ι κ} {relay : RelayScene}
variable {command : DisplayCommand} {relayState : CompdRelayState}

/-- Every scene in the log of the link has the version of this relay. -/
def SendsOnly (relay : RelayScene) (link : DisplayLink σ ι κ) : Prop :=
  ∀ e ∈ link.log, ∀ scene, submittedScene e.request = some scene →
    scene.version = relay.version

theorem SendsOnly.send (h : SendsOnly relay link) (command : DisplayCommand)
    (hcommand : ∀ scene, submittedScene command = some scene → scene.version = relay.version) :
    SendsOnly relay (S.send link command).1 := by
  intro e he
  rw [Service.send_log] at he
  rcases List.mem_cons.mp he with rfl | he
  · exact hcommand
  · exact h e he

variable (S) in
theorem querySceneSnapshot_link (link : DisplayLink σ ι κ) (output : Option String) :
    (querySceneSnapshotFromDisplayd S link output).1 =
      (S.send link (.getSceneSnapshot output)).1 := by
  unfold querySceneSnapshotFromDisplayd
  split <;> rename_i hsend <;> rw [hsend]

variable (S) in
theorem matchingSnapshotReceipt_link (relay : RelayScene) (link : DisplayLink σ ι κ) :
    (matchingSnapshotReceipt S relay link).1 =
      (S.send link (.getSceneSnapshot (some relay.scene.targetOutput))).1 := by
  rw [← querySceneSnapshot_link]
  unfold matchingSnapshotReceipt
  split <;> rename_i hquery <;> rw [hquery]
  split_ifs <;> rfl

section

variable (h : SendsOnly relay link)
include h

theorem SendsOnly.query (output : Option String) :
    SendsOnly relay (querySceneSnapshotFromDisplayd S link output).1 := by
  rw [querySceneSnapshot_link]
  exact h.send _ (by simp [submittedScene])

theorem SendsOnly.matching : SendsOnly relay (matchingSnapshotReceipt S relay link).1 := by
  rw [matchingSnapshotReceipt_link]
  exact h.send _ (by simp [submittedScene])

theorem SendsOnly.reconcileScene (epoch : Nat) :
    SendsOnly relay (reconcileScene S relay epoch link).1 := by
  have hsent := h.send (S := S) (.reconcileScene epoch relay.toCommit) (by
    rintro scene ⟨⟩
    rfl)
  unfold Compd.reconcileScene
  split <;> rename_i hsend <;> rw [hsend] at hsent
  · have hmatched := hsent.matching (S := S)
    split <;> rename_i hmatching <;> rw [hmatching] at hmatched <;> exact hmatched
  · split_ifs
    · have hqueried := hsent.query (S := S) (some relay.scene.targetOutput)
      unfold reconciledReceipt
      split <;> rename_i hquery <;> rw [hquery] at hqueried <;> exact hqueried
    · exact hsent
  · have hmatched := hsent.matching (S := S)
    split <;> rename_i hmatching <;> rw [hmatching] at hmatched <;> exact hmatched
  · exact hsent

theorem SendsOnly.reconcileAttempt : SendsOnly relay (reconcileAttempt S relay link).1 := by
  have hasked := h.send (S := S) .getReconciliation (by simp [submittedScene])
  unfold Compd.reconcileAttempt
  split <;> rename_i hask <;> rw [hask] at hasked
  · exact hasked
  · rename_i epoch _
    have hbegun := hasked.send (S := S) (.beginReconciliation epoch)
      (by simp [submittedScene])
    unfold beginReconciliation
    split <;> rename_i hbegin <;> rw [hbegin] at hbegun
    · exact hbegun
    · split_ifs
      · exact hbegun.reconcileScene epoch
      · exact hbegun
    · exact hbegun
    · exact hbegun
  · exact hasked
  · exact hasked

theorem SendsOnly.reconcileLoop (attempts : Nat) (lastError : Option String) :
    SendsOnly relay (reconcileLoop S relay attempts lastError link).1 := by
  induction attempts generalizing lastError link with
  | zero => exact h
  | succ attempts ih =>
    have htried := h.reconcileAttempt (S := S)
    unfold Compd.reconcileLoop
    split <;> rename_i hattempt <;> rw [hattempt] at htried
    · exact htried
    · exact ih htried _

end

/-- What compd does with one command, over a link that has not been used. -/
structure Handled (relayState : CompdRelayState) (command : DisplayCommand)
    (f : Forwarded σ ι κ) : Prop where
  sends : ∀ e ∈ f.link.log, ∀ scene, submittedScene e.request = some scene →
    relayState.shouldRejectVersion scene.version = false
  state : (f.relayState = relayState ∧ settledVersion command f.response = none) ∨
    ∃ relay : RelayScene, relayState.shouldRejectVersion relay.version = false ∧
      ((f.relayState = relayState.noteForwarded relay ∧
          settledVersion command f.response = some relay.version) ∨
        ((∃ reason, f.relayState = relayState.deferLatest relay reason) ∧
          settledVersion command f.response = none))

/-- compd turns a scene down by itself. -/
theorem Handled.turnedDown (hfresh : link.log = []) (reason : String) :
    Handled relayState command ⟨link, relayState, .ok (.rejected reason)⟩ where
  sends := by simp [hfresh]
  state := .inl ⟨rfl, by cases command <;> rfl⟩

/-- compd sends a scene of this version, and comes to one of three ends. -/
structure Tried (relay : RelayScene) (relayState : CompdRelayState) (f : Forwarded σ ι κ) :
    Prop where
  sends : SendsOnly relay f.link
  state : (f.relayState = relayState.noteForwarded relay ∧
      ∃ target focus selection surfaceCount commitId,
        f.response = .sceneCommitted target focus selection surfaceCount commitId) ∨
    ((f.relayState = relayState ∨ ∃ reason, f.relayState = relayState.deferLatest relay reason) ∧
      ∃ reason, f.response = .rejected reason)

theorem tried_acknowledge (h : SendsOnly relay link) (receipt : SceneCommitReceipt)
    (relayState : CompdRelayState) :
    Tried relay relayState (acknowledge relay receipt relayState link) :=
  ⟨h, .inl ⟨rfl, _, _, _, _, _, rfl⟩⟩

theorem commitScene_tried (relayState : CompdRelayState) (h : SendsOnly relay link) :
    Tried relay relayState (commitScene S relay relayState link) := by
  have hsent := h.send (S := S) (.commitScene relay.toCommit) (by
    rintro scene ⟨⟩
    rfl)
  unfold commitScene
  split <;> rename_i hsend <;> rw [hsend] at hsent
  · exact ⟨hsent, .inl ⟨rfl, _, _, _, _, _, rfl⟩⟩
  · have hmatched := hsent.matching (S := S)
    split <;> rename_i hmatching <;> rw [hmatching] at hmatched
    · exact tried_acknowledge hmatched _ _
    · exact ⟨hmatched, .inr ⟨.inl rfl, _, rfl⟩⟩
  · exact ⟨hsent, .inr ⟨.inl rfl, _, rfl⟩⟩
  · have hreconciled := hsent.reconcileLoop (S := S) displayReconnectRetryLimit none
    unfold recoverScene reconcileRelaySceneToDisplayd
    split <;> rename_i hreconcile <;> rw [hreconcile] at hreconciled
    · exact tried_acknowledge hreconciled _ _
    · exact ⟨hreconciled, .inr ⟨.inr ⟨_, rfl⟩, _, rfl⟩⟩

theorem Tried.handled {scene : SceneCommit} {f : Forwarded σ ι κ}
    (h : Tried (canonicalizeRelayScene (.ofCommit scene)) relayState f)
    (hguard : relayState.shouldRejectVersion scene.version = false) :
    Handled relayState (.commitScene scene) f := by
  refine ⟨fun e he c hc => (h.sends e he c hc).symm ▸ hguard, ?_⟩
  rcases h.state with ⟨hstate, _, _, _, _, _, hresponse⟩ | ⟨hstate, _, hresponse⟩
  · exact .inr ⟨canonicalizeRelayScene (.ofCommit scene), hguard,
      .inl ⟨hstate, by rw [hresponse]; rfl⟩⟩
  · rcases hstate with hstate | hstate
    · exact .inl ⟨hstate, by rw [hresponse]; rfl⟩
    · exact .inr ⟨canonicalizeRelayScene (.ofCommit scene), hguard,
        .inr ⟨hstate, by rw [hresponse]; rfl⟩⟩

variable (S) in
theorem forwardCommitScene_handled (scene : SceneCommit) (relayState : CompdRelayState)
    (hfresh : link.log = []) : Handled relayState (.commitScene scene)
      (forwardCommitScene S scene relayState link) := by
  have hnone : SendsOnly (canonicalizeRelayScene (.ofCommit scene)) link := by
    simp [SendsOnly, hfresh]
  have hchecked : SendsOnly (canonicalizeRelayScene (.ofCommit scene))
      (checkDeferred S (canonicalizeRelayScene (.ofCommit scene)) relayState link).1 := by
    unfold checkDeferred
    split_ifs
    · exact hnone.matching
    · exact hnone
  unfold forwardCommitScene
  dsimp only
  split
  · exact .turnedDown hfresh _
  · split_ifs with hguard
    · exact .turnedDown hfresh _
    · refine Tried.handled ?_ ((Bool.not_eq_true _).mp hguard)
      split <;> rename_i hcheck <;> rw [hcheck] at hchecked
      · exact tried_acknowledge hchecked _ _
      · exact commitScene_tried relayState hchecked

variable (S) in
theorem forwardReconcileScene_handled (epoch : Nat) (scene : SceneCommit)
    (relayState : CompdRelayState) (hfresh : link.log = []) :
    Handled relayState (.reconcileScene epoch scene)
      (forwardReconcileScene S epoch scene relayState link) := by
  have hnone : SendsOnly (canonicalizeRelayScene (.ofCommit scene)) link := by
    simp [SendsOnly, hfresh]
  have hsent := hnone.send (S := S) (.reconcileScene epoch
    (canonicalizeRelayScene (.ofCommit scene)).toCommit) (by
      rintro scene ⟨⟩
      rfl)
  unfold forwardReconcileScene
  dsimp only
  split
  · exact .turnedDown hfresh _
  · split_ifs with hguard
    · exact .turnedDown hfresh _
    · have hpass : relayState.shouldRejectVersion scene.version = false :=
        (Bool.not_eq_true _).mp hguard
      split <;> rename_i hsend <;> rw [hsend] at hsent <;>
        refine ⟨fun e he c hc => (hsent e he c hc).symm ▸ hpass, ?_⟩
      · exact .inr ⟨canonicalizeRelayScene (.ofCommit scene), hpass, .inl ⟨rfl, rfl⟩⟩
      · rename_i event hother
        refine .inl ⟨rfl, ?_⟩
        cases event with
        | reconciled => exact absurd rfl (hother _ _ _)
        | _ => rfl
      · exact .inr ⟨canonicalizeRelayScene (.ofCommit scene), hpass, .inr ⟨⟨_, rfl⟩, rfl⟩⟩

variable (S) in
theorem forwardDisplayCommand_handled (relayState : CompdRelayState) (command : DisplayCommand)
    (hfresh : link.log = []) :
    Handled relayState command (forwardDisplayCommand S relayState link command) := by
  have hother : submittedScene command = none → Handled relayState command
      ⟨(S.send link command).1, relayState, (S.send link command).2⟩ := by
    intro hnone
    refine ⟨?_, .inl ⟨rfl, by cases command <;> first | rfl | cases hnone⟩⟩
    rw [Service.send_log, hfresh]
    intro e he scene hscene
    obtain rfl := List.mem_singleton.mp he
    cases hnone.symm.trans hscene
  cases command with
  | commitScene scene => exact forwardCommitScene_handled S scene relayState hfresh
  | reconcileScene epoch scene =>
    exact forwardReconcileScene_handled S epoch scene relayState hfresh
  | _ => exact hother rfl

/-- compd between two requests: its relay, the service behind it, and the versions that have
been answered as settled and those that were deferred. -/
structure RelayRun (σ : Type) where
  server : σ
  relayState : CompdRelayState := {}
  acknowledged : List SceneVersion := []
  deferred : List SceneVersion := []

/-- A request to compd, and what the link goes through while it is served. -/
structure RelayInput (ι κ : Type) where
  command : DisplayCommand
  script : List (Delivery ι κ)

namespace RelayRun

variable (S)

def forward (r : RelayRun σ) (input : RelayInput ι κ) : Forwarded σ ι κ :=
  forwardDisplayCommand S r.relayState ⟨r.server, input.script, []⟩ input.command

def next (r : RelayRun σ) (input : RelayInput ι κ) : RelayRun σ where
  server := (r.forward S input).link.server
  relayState := (r.forward S input).relayState
  acknowledged :=
    (settledVersion input.command (r.forward S input).response).toList ++ r.acknowledged
  deferred := ((r.forward S input).relayState.pending.map (·.version)).toList ++ r.deferred

def system : System (RelayRun σ) (RelayInput ι κ) where
  init r := ∃ server, r = { server := server }
  next := next S

/-- The version comes after this one, unless this one is empty. -/
def Outdates (v w : SceneVersion) : Prop := w = sceneVersion 0 0 ∨ w < v

/-- The floor is above everything settled or deferred. -/
structure Floored (r : RelayRun σ) : Prop where
  marker : r.relayState.MarkerAhead
  ordered : r.acknowledged.Pairwise Outdates
  acknowledged : ∀ v ∈ r.acknowledged, v ≤ r.relayState.forwarded
  deferred : ∀ v ∈ r.deferred, v ≤ r.relayState.versionFloor

variable {S} {r : RelayRun σ}

theorem forward_handled (r : RelayRun σ) (input : RelayInput ι κ) :
    Handled r.relayState input.command (r.forward S input) :=
  forwardDisplayCommand_handled S r.relayState input.command rfl

/-- What passes the guard comes after all that was settled. -/
theorem Floored.outdated {v : SceneVersion} (h : r.Floored)
    (hpass : r.relayState.shouldRejectVersion v = false) : ∀ w ∈ r.acknowledged, Outdates v w := by
  intro w hw
  have hle := h.acknowledged w hw
  rcases h.marker.passes_ahead hpass with hzero | hlt
  · exact .inl (le_antisymm (hzero ▸ hle) (sceneVersion_zero_le w))
  · exact .inr (hle.trans_lt hlt)

theorem Floored.next (h : r.Floored) (input : RelayInput ι κ) : (r.next S input).Floored := by
  have hstate := (forward_handled (S := S) r input).state
  -- a floor that does not fall carries what was below it along
  have hraise : ∀ {relayState : CompdRelayState}, relayState.MarkerAhead →
      (∀ v, settledVersion input.command (r.forward S input).response = some v →
        v ≤ relayState.forwarded ∧ ∀ w ∈ r.acknowledged, Outdates v w) →
      r.relayState.forwarded ≤ relayState.forwarded →
      r.relayState.versionFloor ≤ relayState.versionFloor →
      (r.forward S input).relayState = relayState → (r.next S input).Floored := by
    intro relayState hmarker hsettled hforwarded hfloor heq
    unfold RelayRun.next
    rw [heq]
    refine ⟨hmarker, ?_, fun v hv => ?_, fun v hv => ?_⟩
    · refine List.pairwise_append.mpr ⟨Option.pairwise_toList, h.ordered, fun v hv => ?_⟩
      exact (hsettled v (Option.mem_toList.mp hv)).2
    · rcases List.mem_append.mp hv with hv | hv
      · exact (hsettled v (Option.mem_toList.mp hv)).1
      · exact (h.acknowledged v hv).trans hforwarded
    · rcases List.mem_append.mp hv with hv | hv
      · obtain ⟨p, hpending, rfl⟩ := Option.map_eq_some_iff.mp (Option.mem_toList.mp hv)
        exact CompdRelayState.pending_le_floor hpending
      · exact (h.deferred v hv).trans hfloor
  rcases hstate with ⟨hsame, hnone⟩ |
    ⟨relay, hpass, ⟨hnoted, hsettled⟩ | ⟨⟨reason, hdeferred⟩, hnone⟩⟩
  · exact hraise h.marker (fun v hv => by cases hnone.symm.trans hv) le_rfl le_rfl hsame
  · have hforwarded := CompdRelayState.noteForwarded_forwarded hpass
    have hfloor := CompdRelayState.floor_le_of_passes hpass
    refine hraise (.noteForwarded hpass) (fun v hv => ?_) ?_ ?_ hnoted
    · obtain rfl := Option.some.inj (hsettled.symm.trans hv)
      exact ⟨hforwarded.ge, h.outdated hpass⟩
    · rw [hforwarded]
      exact (CompdRelayState.forwarded_le_floor _).trans hfloor
    · exact hfloor.trans (hforwarded ▸ CompdRelayState.forwarded_le_floor _)
  · have hpending := CompdRelayState.deferLatest_pending reason hpass
    refine hraise (h.marker.deferLatest reason hpass) (fun v hv => by cases hnone.symm.trans hv)
      le_rfl ?_ hdeferred
    exact (CompdRelayState.floor_le_of_passes hpass).trans
      (CompdRelayState.pending_le_floor hpending)

theorem floored_reachable (h : (system S).Reachable r) : r.Floored := by
  refine System.Reach.invariant (fun r hinit => ?_) (fun r input hr _ => hr.next input) h
  obtain ⟨server, rfl⟩ := hinit
  exact ⟨fun _ hp => (by cases hp), .nil, by simp, by simp⟩

/-- Every scene compd answers as settled is newer than those it has settled before. -/
theorem settles_newer (h : (system S).Reachable r) : r.acknowledged.Pairwise Outdates :=
  (floored_reachable h).ordered

/-- A scene sent to displayd is newer than every one compd has answered as settled before, and
no older than any it has deferred. -/
theorem sends_newer (h : (system S).Reachable r) (input : RelayInput ι κ) :
    ∀ e ∈ (r.forward S input).link.log, ∀ scene, submittedScene e.request = some scene →
      (∀ v ∈ r.acknowledged, Outdates scene.version v) ∧
        ∀ v ∈ r.deferred, v ≤ scene.version := by
  intro e he scene hscene
  have hfloored := floored_reachable h
  have hpass := (forward_handled r input).sends e he scene hscene
  exact ⟨hfloored.outdated hpass, fun v hv =>
    (hfloored.deferred v hv).trans (CompdRelayState.floor_le_of_passes hpass)⟩

/-- A displayd that takes every scene. -/
def taking : Service Unit Unit Unit DisplayCommand DisplayEvent where
  meanwhile s _ := s
  serve s _
    | .commitScene c => (s, .ok (.sceneCommitted c.target c.focus c.selection 0 1))
    | _ => (s, .error "connection closed")

def emptyCommit (sceneGeneration : Nat) : SceneCommit where
  target := .output "eDP-1"
  focus := .none
  selection := {}
  surfaces := []
  pixelPayloads := []
  sceneEpoch := 1
  sceneGeneration := sceneGeneration

/-- An empty scene, over a link that lasts for one request. -/
def emptyInput (sceneGeneration : Nat) : RelayInput Unit Unit :=
  ⟨.commitScene (emptyCommit sceneGeneration), [{ context := () }]⟩

def takenOnce : RelayRun Unit := RelayRun.next taking { server := () } (emptyInput 1)

theorem takenOnce_reachable : (system taking).Reachable takenOnce :=
  .next (emptyInput 1) (.init ⟨(), rfl⟩) trivial

theorem settles_newer_taken :
    (takenOnce.next taking (emptyInput 2)).acknowledged =
        [sceneVersion 1 2, sceneVersion 1 1] ∧
      (takenOnce.next taking (emptyInput 2)).acknowledged.Pairwise Outdates :=
  ⟨rfl, settles_newer (.next (emptyInput 2) takenOnce_reachable trivial)⟩

/-- After the first scene has been taken only newer ones are sent. -/
theorem sends_newer_taken : sceneVersion 1 1 ∈ takenOnce.acknowledged ∧
    ∀ e ∈ (takenOnce.forward taking (emptyInput 2)).link.log, ∀ scene,
      submittedScene e.request = some scene → sceneVersion 1 1 < scene.version := by
  have hmem : sceneVersion 1 1 ∈ takenOnce.acknowledged := List.mem_cons_self
  refine ⟨hmem, fun e he scene hscene => ?_⟩
  have hnewer := (sends_newer takenOnce_reachable (emptyInput 2) e he scene hscene).1 _ hmem
  exact hnewer.resolve_left (by decide)

end RelayRun

end Link

end TuffXwin.Compd
