import TuffXwin.Compd.Admissible
import TuffXwin.Compd.Forward
import TuffXwin.Displayd.Resubmission

/-! The start of compd. It takes the last scene from displayd, fits it to the surface
registry and commits it again under the version it had. What then stands in displayd is
the scene compd has made only where that version lets it through. -/

namespace TuffXwin.Compd
open Lib Displayd

variable {event : DisplayEvent} {lastScene : Option CommittedSceneState} {command : DisplayCommand}
variable {snapshot : CommittedSceneState}

def sceneFromSnapshot (snapshot : CommittedSceneState) : CompdScene where
  targetOutput := snapshot.target.name
  focus := snapshot.focus
  selection := snapshot.selection
  surfaces := snapshot.surfaces
  sceneEpoch := snapshot.sceneEpoch
  sceneGeneration := snapshot.sceneGeneration

/-- The output a scene is laid out for, a default one if the inventory does not have it. -/
def outputModeFor (targetOutputName : String) (outputs : List OutputMode) : OutputMode :=
  (outputs.find? (·.name = targetOutputName)).getD
    ⟨targetOutputName, stubScreenWidth, stubScreenHeight⟩

/-- `prepare_scene` on a snapshot of displayd, with the answer of waylandd. -/
def prepareScene (snapshot : CommittedSceneState) (registry : SurfaceRegistrySnapshot)
    (outputs : List OutputMode) : CompdScene :=
  (reconcileSceneWithRegistry (sceneFromSnapshot snapshot) registry
    (outputModeFor snapshot.target.name outputs)).scene

def transportLostReason (transportError reconcileError : String) : String :=
  "displayd transport lost (" ++ transportError ++ "); reconciliation failed: " ++
    reconcileError

def commitSceneToDisplayd {σ ι κ : Type} (S : Service σ ι κ DisplayCommand DisplayEvent)
    (scene : CompdScene) (link : DisplayLink σ ι κ) :
    DisplayLink σ ι κ × Except String SceneCommitReceipt :=
  let relay : RelayScene := ⟨scene, []⟩
  match validateRelayScene relay false with
  | .error reason => (link, .error reason)
  | .ok _ =>
    match S.send link (.commitScene relay.toCommit) with
    | (link, .ok (.sceneCommitted _ _ _ surfaceCount commitId)) =>
      (link, .ok ⟨surfaceCount, commitId⟩)
    | (link, .ok (.rejected reason)) =>
      match matchingSnapshotReceipt S relay link with
      | (link, .ok (some receipt)) => (link, .ok receipt)
      | (link, _) => (link, .error ("displayd rejected scene: " ++ reason))
    | (link, .ok _) => (link, .error "unexpected displayd response")
    | (link, .error transportError) =>
      match reconcileRelaySceneToDisplayd S relay link with
      | (link, .ok receipt) => (link, .ok receipt)
      | (link, .error reconcileError) =>
        (link, .error (transportLostReason transportError reconcileError))

section Displayd

variable {β : Type} [DisplayBackend β]
variable {srv : Server β} {input : Input β}

/-- displayd behind the link. Between the requests of compd it serves others or restarts. -/
def displayd : Service (Server β) (Input β) Connection DisplayCommand DisplayEvent where
  meanwhile := Server.step
  serve srv conn command :=
    let asked := { conn with source := .compd, request := some (.command command) }
    (srv.step (.client asked),
      if srv.halted then .error "connection refused"
      else
        match (srv.handleClient asked).2 with
        | .ok (some event) => .ok event
        | _ => .error "connection closed")

/-- displayd as a request on this connection finds it: the output events come first. -/
def found (srv : Server β) (conn : Connection) : Server β :=
  srv.step (.client { conn with request := none })

theorem displayd_ok {srv' : Server β} {conn : Connection}
    (h : displayd.serve srv conn command = (srv', .ok event)) :
    srv'.display = ((found srv conn).display.handleDisplayCommand conn.env .compd
        (found srv conn).topologySequence command).1 ∧
      ((found srv conn).display.handleDisplayCommand conn.env .compd
        (found srv conn).topologySequence command).2 = .ok event := by
  obtain ⟨hserver, hanswer⟩ := Prod.ext_iff.mp h
  unfold displayd at hserver hanswer
  unfold found
  dsimp only at hserver hanswer
  subst hserver
  cases hhalted : srv.halted with
  | true =>
    rw [hhalted, if_pos rfl] at hanswer
    cases hanswer
  | false =>
    rw [hhalted, if_neg (by simp)] at hanswer
    simp only [Server.step, hhalted, Bool.false_eq_true, if_false]
    unfold Server.handleClient at hanswer ⊢
    dsimp only at hanswer ⊢
    cases happlied : Server.applyEvents conn.accepting srv.polled.1 srv.polled.2 with
    | mk srv'' applied =>
      rw [happlied] at hanswer
      cases applied with
      | error fault => cases hanswer
      | ok _ =>
        dsimp only [Server.handleRequest] at hanswer ⊢
        cases hresult : (srv''.display.handleDisplayCommand conn.env .compd
            srv''.topologySequence command).2 with
        | error fault =>
          rw [hresult] at hanswer
          cases hanswer
        | ok event' =>
          rw [hresult] at hanswer
          cases hanswer
          exact ⟨rfl, rfl⟩

def PublishesScene : DisplayCommand → Prop
  | .commitScene _ => True
  | .reconcileScene _ _ => True
  | _ => False

/-- An input that submits no scene. -/
def PublishesNothing : Input β → Prop
  | .client conn =>
    ∀ command, conn.request = some (.command command) → ¬ PublishesScene command
  | .restart .. => True

/-- No scene is accepted. -/
def noScene : MovePolicy := { anyMove with accept := fun _ _ _ _ _ => False }

theorem commandAllowed_noScene {d : Display β} {env : Env} {source : ServiceRole}
    (h : ¬ PublishesScene command) : CommandAllowed noScene d env source command := by
  have hfree : CommandAllowed anyMove d env source command :=
    commandAllowed_freely fun _ => trivial
  cases command with
  | commitScene c => exact absurd trivial h
  | reconcileScene epoch c => exact absurd trivial h
  | _ => exact hfree

theorem step_lastScene (hreach : (Server.system β).Reachable srv) (h : PublishesNothing input) :
    (srv.step input).display.state.lastScene = srv.display.state.lastScene := by
  cases input with
  | restart epoch keeps backend => rfl
  | client conn =>
    have hone : SingleOutput srv.display.state :=
      Server.singleOutput_run trivial (Server.Run.any hreach)
    have hchanges : SceneChanges noScene srv.display.state
        (srv.step (.client conn)).display.state :=
      Server.client_scenes hone fun _ command _ _ hrequest =>
        commandAllowed_noScene (h command hrequest)
    refine hchanges.invariant (I := fun s => s.lastScene = srv.display.state.lastScene) ?_ rfl
    intro s s' hs hchange
    cases hchange with
    | kept hk => exact hk.lastScene.trans hs
    | accepted _ _ _ _ _ _ hallowed _ => exact absurd hallowed id

/-- displayd in a run that has left this canonical scene. -/
structure Holds (lastScene : Option CommittedSceneState) (srv : Server β) : Prop where
  reachable : (Server.system β).Reachable srv
  scene : srv.display.state.lastScene = lastScene

theorem step_reachable (h : (Server.system β).Reachable srv) (input : Input β) :
    (Server.system β).Reachable (srv.step input) :=
  .next input h trivial

theorem Holds.step (h : Holds lastScene srv) (hinput : PublishesNothing input) :
    Holds lastScene (srv.step input) where
  reachable := step_reachable h.reachable input
  scene := (step_lastScene h.reachable hinput).trans h.scene

theorem Holds.commitId (h : Holds (some snapshot) srv) : snapshot.commitId ≠ 0 := by
  have hledger := Server.ledger_reachable h.reachable
  have hmem : snapshot ∈ acceptedScenes srv.display.state.history :=
    List.mem_of_head? (hledger.last.symm.trans h.scene)
  exact (hledger.positive.2 snapshot hmem).ne'

/-- The link of a compd that is the only publisher. -/
def SolePublisher (link : DisplayLink (Server β) (Input β) Connection) : Prop :=
  ∀ d ∈ link.script, ∀ i ∈ d.before, PublishesNothing i

/-- displayd as the next request of the link finds it. -/
def nextFound (link : DisplayLink (Server β) (Input β) Connection) : Server β :=
  match link.script with
  | [] => link.server
  | d :: _ => found (displayd.idle link.server d) d.context

def nextEnv (link : DisplayLink (Server β) (Input β) Connection) : Env :=
  match link.script with
  | [] => {}
  | d :: _ => d.context.env

/-- What an answered request finds and leaves. -/
structure Served (lastScene : Option CommittedSceneState)
    (link after : DisplayLink (Server β) (Input β) Connection) (command : DisplayCommand)
    (event : DisplayEvent) : Prop where
  found : Holds lastScene (nextFound link)
  reachable : (Server.system β).Reachable after.server
  sole : SolePublisher after
  state : after.server.display.state = ((nextFound link).display.handleDisplayCommand
    (nextEnv link) .compd (nextFound link).topologySequence command).1.state
  answer : ((nextFound link).display.handleDisplayCommand (nextEnv link) .compd
    (nextFound link).topologySequence command).2 = .ok event

variable {link : DisplayLink (Server β) (Input β) Connection}

section

variable (h : Holds lastScene link.server) (hsole : SolePublisher link)
include h hsole

theorem Holds.served (hok : (displayd.send link command).2 = .ok event) :
    Served lastScene link (displayd.send link command).1 command event := by
  obtain ⟨d, rest, hscript, hrest, hserve⟩ := Service.send_ok hok
  have hquiet : ∀ i ∈ d.before, PublishesNothing i :=
    hsole d (by rw [hscript]; exact List.mem_cons_self)
  have hidle : Holds lastScene (displayd.idle link.server d) :=
    Service.idle_keeps (I := Holds lastScene) (fun _ _ hi hs => hs.step hi) hquiet h
  obtain ⟨hdisplay, hanswer⟩ := displayd_ok hserve
  have hserver : (displayd.send link command).1.server =
      (displayd.idle link.server d).step
        (.client { d.context with source := .compd, request := some (.command command) }) :=
    (congrArg Prod.fst hserve).symm
  refine ⟨?_, ?_, ?_, ?_, ?_⟩
  · unfold nextFound
    rw [hscript]
    refine hidle.step ?_
    intro command hrequest
    cases hrequest
  · rw [hserver]
    exact step_reachable hidle.reachable _
  · unfold SolePublisher
    rw [hrest]
    exact fun d' hd' => hsole d' (by rw [hscript]; exact List.mem_cons_of_mem _ hd')
  · unfold nextFound nextEnv
    rw [hscript, hdisplay]
  · unfold nextFound nextEnv
    rw [hscript]
    exact hanswer

/-- A snapshot query reads the canonical scene and leaves it. -/
theorem Holds.queried {output : Option String}
    (hok : (displayd.send link (.getSceneSnapshot output)).2 = .ok event) :
    Holds lastScene (displayd.send link (.getSceneSnapshot output)).1.server ∧
      event = .sceneSnapshot ((nextFound link).display.state.sceneForOutput output) := by
  have hserved := h.served hsole hok
  refine ⟨⟨hserved.reachable, ?_⟩, ?_⟩
  · rw [hserved.state]
    exact hserved.found.scene
  · have hanswer := hserved.answer
    cases hanswer
    rfl

theorem Holds.restored {restored : DisplayLink (Server β) (Input β) Connection}
    (hquery : querySceneSnapshotFromDisplayd displayd link none = (restored, .ok (some snapshot))) :
    Holds (some snapshot) restored.server ∧ SolePublisher restored := by
  unfold querySceneSnapshotFromDisplayd at hquery
  split at hquery
  · cases hquery
  · rename_i link' answer hsend
    cases hquery
    have hok : (displayd.send link (.getSceneSnapshot none)).2 =
        .ok (.sceneSnapshot (some snapshot)) := by rw [hsend]
    obtain ⟨hholds, hevent⟩ := h.queried hsole hok
    have hserved := h.served hsole hok
    rw [hsend] at hholds hserved
    have hscene : lastScene = some snapshot := by
      rw [← hserved.found.scene]
      have hsnapshot := (DisplayEvent.sceneSnapshot.inj hevent).symm
      unfold DisplayState.sceneForOutput at hsnapshot
      simpa using hsnapshot
    exact ⟨hscene ▸ hholds, hserved.sole⟩
  · cases hquery
  · cases hquery

end

/-- The commit compd sends for a scene. It carries no pixels. -/
def bareCommit (scene : CompdScene) : SceneCommit := (RelayScene.mk scene []).toCommit

/-- displayd answers what compd asks for the commit. -/
structure Answering (link : DisplayLink (Server β) (Input β) Connection) (scene : CompdScene) :
    Prop where
  commit : ∃ event, (displayd.send link (.commitScene (bareCommit scene))).2 = .ok event
  snapshot : ∀ reason, (displayd.send link (.commitScene (bareCommit scene))).2 =
      .ok (.rejected reason) →
    ∃ event, (displayd.send (displayd.send link (.commitScene (bareCommit scene))).1
      (.getSceneSnapshot (some scene.targetOutput))).2 = .ok event

/-- A scene that compd reports as committed stands in displayd, and no commit is turned down
for nothing but the version of the scene it was made from. -/
def TakesEffect (link : DisplayLink (Server β) (Input β) Connection) (scene : CompdScene) :
    Prop :=
  (∀ receipt, (commitSceneToDisplayd displayd scene link).2 = .ok receipt →
      HoldsContent (commitSceneToDisplayd displayd scene link).1.server.display.state
        (bareCommit scene)) ∧
    ((∃ usage, validateRelayScene ⟨scene, []⟩ false = .ok usage) →
      ¬ RefusedForVersion (nextFound link).display.state (bareCommit scene))

/-- The scene goes under the target and the version of the snapshot. -/
structure Carries (scene : CompdScene) (snapshot : CommittedSceneState) : Prop where
  target : snapshot.target.name = scene.targetOutput
  epoch : snapshot.sceneEpoch = scene.sceneEpoch
  generation : snapshot.sceneGeneration = scene.sceneGeneration

theorem prepareScene_carries (snapshot : CommittedSceneState)
    (registry : SurfaceRegistrySnapshot) (outputs : List OutputMode) :
    Carries (prepareScene snapshot registry outputs) snapshot := ⟨rfl, rfl, rfl⟩

variable {scene : CompdScene} {snapshot : CommittedSceneState}

/-- The snapshot query after a rejection finds the old scene and takes it for the new one. -/
theorem matchingSnapshotReceipt_old (hcarries : Carries scene snapshot)
    (h : Holds (some snapshot) link.server) (hsole : SolePublisher link)
    (hok : (displayd.send link (.getSceneSnapshot (some scene.targetOutput))).2 = .ok event) :
    ∃ after receipt, matchingSnapshotReceipt displayd ⟨scene, []⟩ link =
        (after, .ok (some receipt)) ∧ Holds (some snapshot) after.server := by
  obtain ⟨hafter, hevent⟩ := h.queried hsole hok
  have hserved := h.served hsole hok
  have hsnapshot : (nextFound link).display.state.sceneForOutput (some scene.targetOutput) =
      some snapshot := by
    unfold DisplayState.sceneForOutput
    rw [hserved.found.scene]
    exact if_pos hcarries.target
  rw [hsnapshot] at hevent
  have hmatches : snapshotMatches ⟨scene, []⟩ snapshot = true := by
    unfold snapshotMatches
    exact decide_eq_true ⟨hcarries.target, hcarries.epoch, hcarries.generation⟩
  have hquery : querySceneSnapshotFromDisplayd displayd link (some scene.targetOutput) =
      ((displayd.send link (.getSceneSnapshot (some scene.targetOutput))).1,
        .ok (some snapshot)) := by
    unfold querySceneSnapshotFromDisplayd
    rw [show displayd.send link (.getSceneSnapshot (some scene.targetOutput)) =
      ((displayd.send link (.getSceneSnapshot (some scene.targetOutput))).1,
        .ok (.sceneSnapshot (some snapshot))) from Prod.ext rfl (hok.trans (congrArg _ hevent))]
  refine ⟨(displayd.send link (.getSceneSnapshot (some scene.targetOutput))).1,
    ⟨snapshot.surfaces.length, snapshot.commitId⟩, ?_, hafter⟩
  unfold matchingSnapshotReceipt
  rw [hquery]
  dsimp only
  rw [hmatches, if_neg (by simp), if_neg h.commitId]

/-- An answered commit always ends in a receipt, over what displayd made of it. -/
theorem commitSceneToDisplayd_receipt (hcarries : Carries scene snapshot)
    (h : Holds (some snapshot) link.server) (hsole : SolePublisher link)
    (hvalid : ∃ usage, validateRelayScene ⟨scene, []⟩ false = .ok usage)
    (hanswers : Answering link scene) :
    (∃ receipt, (commitSceneToDisplayd displayd scene link).2 = .ok receipt) ∧
      (commitSceneToDisplayd displayd scene link).1.server.display.state.lastScene =
        (acceptCanonical (nextFound link).display.state (canonicalCommit (bareCommit scene))
          .compd (nextEnv link)).1.lastScene := by
  obtain ⟨usage, hvalid⟩ := hvalid
  obtain ⟨event, hok⟩ := hanswers.commit
  have hserved := h.served hsole hok
  have hanswer : (acceptCanonical (nextFound link).display.state
      (canonicalCommit (bareCommit scene)) .compd (nextEnv link)).2 = .ok event := hserved.answer
  have hstate : (displayd.send link (.commitScene (bareCommit scene))).1.server.display.state =
      (acceptCanonical (nextFound link).display.state (canonicalCommit (bareCommit scene))
        .compd (nextEnv link)).1 := hserved.state
  have hsent : displayd.send link (.commitScene (RelayScene.mk scene []).toCommit) =
      ((displayd.send link (.commitScene (bareCommit scene))).1, .ok event) :=
    Prod.ext rfl hok
  unfold commitSceneToDisplayd
  dsimp only
  rw [hvalid, hsent]
  dsimp only
  rcases acceptCanonical_answer hanswer with ⟨reason, rfl⟩ | hcommitted
  · have hkept : (acceptCanonical (nextFound link).display.state
        (canonicalCommit (bareCommit scene)) .compd (nextEnv link)).1.lastScene =
          some snapshot := by
      rw [acceptCanonical_lastScene (by rw [hanswer]; exact id)]
      exact hserved.found.scene
    have hholds : Holds (some snapshot)
        (displayd.send link (.commitScene (bareCommit scene))).1.server :=
      ⟨hserved.reachable, by rw [hstate, hkept]⟩
    obtain ⟨event', hok'⟩ := hanswers.snapshot reason hok
    obtain ⟨after, receipt, hmatching, hafter⟩ :=
      matchingSnapshotReceipt_old hcarries hholds hserved.sole hok'
    dsimp only
    rw [hmatching]
    exact ⟨⟨receipt, rfl⟩, hafter.scene.trans hkept.symm⟩
  · cases event
    case sceneCommitted => exact ⟨⟨_, rfl⟩, congrArg DisplayState.lastScene hstate⟩
    all_goals exact absurd hcommitted id

/-- The scene compd makes at its start takes effect exactly if compd itself turns it down, if
it changes nothing, or if the last scene has no version and displayd takes it as a new one. -/
theorem prepareScene_takesEffect {restored : DisplayLink (Server β) (Input β) Connection}
    {registry : SurfaceRegistrySnapshot} {outputs : List OutputMode}
    (hstart : (Server.system β).Reachable link.server) (hsole : SolePublisher link)
    (hrestored : querySceneSnapshotFromDisplayd displayd link none =
      (restored, .ok (some snapshot)))
    (hanswers : Answering restored (prepareScene snapshot registry outputs)) :
    TakesEffect restored (prepareScene snapshot registry outputs) ↔
      ¬ ValidRelayScene (prepareScene snapshot registry outputs) ∨
        SameContent snapshot (bareCommit (prepareScene snapshot registry outputs)) ∨
        (snapshot.sceneGeneration = 0 ∧ TakenAnew (nextFound restored).display.state
          (bareCommit (prepareScene snapshot registry outputs)) .compd (nextEnv restored)) := by
  have hcarries := prepareScene_carries snapshot registry outputs
  generalize prepareScene snapshot registry outputs = scene at hcarries hanswers ⊢
  have hlink : Holds link.server.display.state.lastScene link.server := ⟨hstart, rfl⟩
  obtain ⟨hholds, hsole'⟩ := hlink.restored hsole hrestored
  unfold TakesEffect
  rw [validateRelayScene_bare]
  by_cases hvalid : ValidRelayScene scene
  · have husage := validateRelayScene_bare.mpr hvalid
    obtain ⟨⟨receipt, hreceipt⟩, hlast⟩ :=
      commitSceneToDisplayd_receipt hcarries hholds hsole' husage hanswers
    obtain ⟨event, hok⟩ := hanswers.commit
    have hfound := (hholds.served hsole' hok).found
    have hversion : snapshot.version = (bareCommit scene).version :=
      sceneVersion_eq.mpr ⟨hcarries.epoch, hcarries.generation⟩
    have hcommit : (HoldsContent (acceptCanonical (nextFound restored).display.state
          (canonicalCommit (bareCommit scene)) .compd (nextEnv restored)).1 (bareCommit scene) ∧
        ¬ RefusedForVersion (nextFound restored).display.state (bareCommit scene)) ↔ _ :=
      resubmission_iff (Server.ledger_reachable hfound.reachable) hfound.scene hversion rfl
    have hfinal : HoldsContent
        (commitSceneToDisplayd displayd scene restored).1.server.display.state
          (bareCommit scene) ↔
        HoldsContent (acceptCanonical (nextFound restored).display.state
          (canonicalCommit (bareCommit scene)) .compd (nextEnv restored)).1
          (bareCommit scene) := by
      unfold HoldsContent
      rw [hlast]
    rw [← hcommit, ← hfinal]
    simp [hvalid, hreceipt]
  · have hrefused : ∀ receipt,
        (commitSceneToDisplayd displayd scene restored).2 ≠ .ok receipt := by
      intro receipt hreceipt
      unfold commitSceneToDisplayd at hreceipt
      dsimp only at hreceipt
      cases hvalidated : validateRelayScene ⟨scene, []⟩ false with
      | error reason =>
        rw [hvalidated] at hreceipt
        cases hreceipt
      | ok usage => exact hvalid (validateRelayScene_bare.mp ⟨usage, hvalidated⟩)
    simp [hvalid, hrefused]

end Displayd

section sample

/-- displayd holds a scene of one surface and answers the next three requests. -/
def sampleLink (sceneEpoch sceneGeneration : Nat) :
    DisplayLink (Server MockDisplayBackend) (Input MockDisplayBackend) Connection where
  server := Server.serve MockDisplayBackend.production
    [.command (.commitScene (pixelScene sceneEpoch sceneGeneration))]
  script := List.replicate 3 ⟨[], {}, true, true, "connection lost"⟩

def sampleRestored (sceneEpoch sceneGeneration : Nat) :
    DisplayLink (Server MockDisplayBackend) (Input MockDisplayBackend) Connection :=
  (querySceneSnapshotFromDisplayd displayd (sampleLink sceneEpoch sceneGeneration) none).1

def sampleSnapshot (sceneEpoch sceneGeneration : Nat) : CommittedSceneState :=
  committedScene (pixelScene sceneEpoch sceneGeneration) .waylandd 1 {}

/-- The surface is gone from the registry. -/
def emptyRegistry : SurfaceRegistrySnapshot where
  generation := 1
  surfaces := []

def sampleScene (sceneEpoch sceneGeneration : Nat) : CompdScene :=
  prepareScene (sampleSnapshot sceneEpoch sceneGeneration) emptyRegistry []

theorem sampleLink_sole (sceneEpoch sceneGeneration : Nat) :
    SolePublisher (sampleLink sceneEpoch sceneGeneration) := by
  intro d hd i hi
  obtain rfl := List.eq_of_mem_replicate hd
  cases hi

theorem sampleRestored_versioned : querySceneSnapshotFromDisplayd displayd (sampleLink 1 1) none =
    (sampleRestored 1 1, .ok (some (sampleSnapshot 1 1))) :=
  Prod.ext rfl rfl

theorem sampleRestored_unversioned :
    querySceneSnapshotFromDisplayd displayd (sampleLink 0 0) none =
      (sampleRestored 0 0, .ok (some (sampleSnapshot 0 0))) :=
  Prod.ext rfl rfl

/-- An unversioned scene loses the surface that is gone. -/
theorem prepareScene_takesEffect_unversioned :
    TakesEffect (sampleRestored 0 0) (sampleScene 0 0) := by
  have hadmissible : AdmissibleScene (canonicalCommit (bareCommit (sampleScene 0 0))) :=
    validateSceneAdmission_ok.mp ⟨_, rfl⟩
  have hacceptable : Acceptable (nextFound (sampleRestored 0 0)).display.state
      (canonicalCommit (bareCommit (sampleScene 0 0))) none {} OrdMap.empty :=
    ⟨hadmissible, rfl, rfl, rfl⟩
  refine (prepareScene_takesEffect (Server.serve_reachable _ _) (sampleLink_sole 0 0)
    sampleRestored_unversioned ⟨⟨_, rfl⟩, fun reason h => ⟨_, rfl⟩⟩).mpr
      (.inr (.inr ⟨rfl, _, _, hacceptable, ?_⟩))
  rintro (⟨-, hfull⟩ | ⟨-, reason, hreason⟩)
  · exact absurd hfull (by decide)
  · cases hreason

/-- Under a version of its own the scene without the surface is turned down, and compd takes
the old scene for it. -/
theorem prepared_scene_kept_out :
    (Server.system MockDisplayBackend).Reachable (sampleLink 1 1).server ∧
      SolePublisher (sampleLink 1 1) ∧
      querySceneSnapshotFromDisplayd displayd (sampleLink 1 1) none =
        (sampleRestored 1 1, .ok (some (sampleSnapshot 1 1))) ∧
      Answering (sampleRestored 1 1) (sampleScene 1 1) ∧
      ¬ TakesEffect (sampleRestored 1 1) (sampleScene 1 1) := by
  refine ⟨Server.serve_reachable _ _, sampleLink_sole 1 1, sampleRestored_versioned,
    ⟨⟨_, rfl⟩, fun reason h => ⟨_, rfl⟩⟩, fun h => ?_⟩
  have hreceipt : (commitSceneToDisplayd displayd (sampleScene 1 1) (sampleRestored 1 1)).2 =
      .ok ⟨1, 1⟩ := rfl
  obtain ⟨canonical, hlast, -, -, -, hsurfaces, -⟩ := h.1 _ hreceipt
  have hold : (commitSceneToDisplayd displayd (sampleScene 1 1)
      (sampleRestored 1 1)).1.server.display.state.lastScene = some (sampleSnapshot 1 1) := rfl
  obtain rfl := Option.some.inj (hlast.symm.trans hold)
  exact absurd hsurfaces (by decide)

end sample

end TuffXwin.Compd
