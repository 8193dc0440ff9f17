import TuffXwin.Waylandd.Clients

/-! No scene is lost between the clients of waylandd. The generation of a commit is
the newest when it is taken; whoever makes it newer has a commit of its own ahead,
so the newest generation is presented, retried, failed, or still to be committed. -/

namespace TuffXwin.Waylandd
open Lib

variable {w w' : SceneService} {input : SceneInput}
variable {phase : ClientPhase}
variable {store : PixelTransportStore} {clientId : Nat} {pending : PendingCanonicalCommit}
  {client : SceneClient}

/-- The threads whose commit is still to come after the scene was changed. -/
def CommitAhead : ClientPhase → Prop
  | .owing | .exiting | .removed | .leaving => True
  | .idle | .due => False

/-- A client has changed the scene, and its thread commits or finalizes next. -/
def SceneService.Owes (w : SceneService) (clientId : Nat) : Prop :=
  ∃ client, w.clients.get? clientId = some client ∧ client.changed = true ∧
    CommitAhead client.phase

/-- A client changed its part of the scene. -/
structure SceneChanged (scene scene' : CanonicalSceneState) : Prop where
  generation : scene'.generation = satAdd scene.generation 1
  pending : scene'.pending = scene.pending
  presented : scene'.lastPresentedGeneration = scene.lastPresentedGeneration
  retry : scene'.nextRetryAt = scene.nextRetryAt

theorem upsertClientScene_changed {scene scene' : CanonicalSceneState}
    {store' : PixelTransportStore} {surfaces : List SurfaceSnapshot}
    {payloads : List PixelTransportPayload}
    (h : upsertClientScene scene store clientId surfaces payloads = .ok (scene', store')) :
    SceneChanged scene scene' := by
  unfold upsertClientScene at h
  obtain ⟨_, _, h⟩ := bind_eq_ok.mp h
  dsimp only at h
  split_ifs at h
  cases hstore : replaceClientPixelPayloads store clientId
      (payloads.map (stampPayload (satAdd scene.generation 1))) with
  | error reason =>
    rw [hstore] at h
    cases h
  | ok replaced =>
    rw [hstore] at h
    obtain ⟨rfl, rfl⟩ := Prod.mk.inj (Except.ok.inj h)
    exact ⟨rfl, rfl, rfl, rfl⟩

theorem removeClientScene_changed {scene : CanonicalSceneState}
    (h : scene.clients.contains clientId = true) :
    SceneChanged scene (removeClientScene scene clientId) := by
  rw [removeClientScene, if_pos h]
  exact ⟨rfl, rfl, rfl, rfl⟩

theorem removeClientScene_absent {scene : CanonicalSceneState}
    (h : scene.clients.contains clientId = false) : removeClientScene scene clientId = scene := by
  rw [removeClientScene, h]
  rfl

/-- The pending commit is of a generation the scene has had. -/
def PendingBehind (scene : CanonicalSceneState) : Prop :=
  ∀ pending, scene.pending = some pending → pending.generation ≤ scene.generation

theorem dropOlderPending_pending {scene : CanonicalSceneState} :
    (dropOlderPending scene).pending = some pending ↔
      scene.pending = some pending ∧ scene.generation ≤ pending.generation := by
  unfold dropOlderPending
  rw [Option.filter_eq_some_iff]
  simp

/-- Whatever it is taken from, a snapshot is of the newest generation. -/
theorem snapshotScene_generation {scene : CanonicalSceneState} (h : PendingBehind scene)
    (store : PixelTransportStore) (sceneEpoch : Nat) :
    (snapshotScene scene store sceneEpoch).sceneGeneration = scene.generation := by
  unfold snapshotScene
  dsimp only
  split
  · rename_i pending hreplay
    obtain ⟨hpending, hnewest⟩ := Option.filter_eq_some_iff.mp hreplay
    exact le_antisymm (h pending hpending) (of_decide_eq_true hnewest)
  · rfl

section

variable (scene : CanonicalSceneState) (now : Nat) (publication : ScenePublication)

theorem finishCommit_generation (result : Except CommitProductionSceneError DisplayEvent) :
    (finishCommit scene now publication result).generation = scene.generation := by
  unfold finishCommit resetSceneRetry scheduleSceneRetry coalescePendingCommit
  split
  · dsimp only
    split_ifs
    · rfl
    · rfl
  · dsimp only
    split_ifs
    · rfl
    · rfl
    · rfl
  · rfl

theorem finishCommit_presented (result : Except CommitProductionSceneError DisplayEvent) :
    scene.lastPresentedGeneration ≤
      (finishCommit scene now publication result).lastPresentedGeneration := by
  unfold finishCommit resetSceneRetry scheduleSceneRetry coalescePendingCommit
  split
  · dsimp only
    split_ifs with hnewer
    · exact hnewer
    · exact le_rfl
  · dsimp only
    split_ifs
    · exact le_rfl
    · exact le_rfl
    · exact le_rfl
  · exact le_rfl

theorem finishCommit_ok (event : DisplayEvent) :
    (finishCommit scene now publication (.ok event)).lastPresentedGeneration =
        max scene.lastPresentedGeneration publication.sceneGeneration ∧
      (finishCommit scene now publication (.ok event)).pending = scene.pending.filter
        fun pending => !(pending.generation ≤ publication.sceneGeneration) := by
  unfold finishCommit resetSceneRetry shouldClearPendingCommit
  dsimp only
  split_ifs with hnewer
  · exact ⟨(max_eq_right hnewer).symm, rfl⟩
  · exact ⟨(max_eq_left (not_le.mp hnewer).le).symm, rfl⟩

end

theorem coalescePendingCommit_newest {scene : CanonicalSceneState}
    {candidate : PendingCanonicalCommit}
    (h : ∀ pending, scene.pending = some pending → pending.generation ≤ candidate.generation) :
    coalescePendingCommit scene candidate = { scene with pending := some candidate } := by
  unfold coalescePendingCommit
  cases hpending : scene.pending with
  | none => rfl
  | some pending =>
    dsimp only
    rw [if_pos (decide_eq_true (h pending hpending))]

/-- A recoverable failure of the newest generation is stored; that of an older one is not. -/
theorem finishCommit_recoverable {scene : CanonicalSceneState} {publication : ScenePublication}
    (hbehind : PendingBehind scene) (hle : publication.sceneGeneration ≤ scene.generation)
    (now : Nat) (reason : String) :
    let scene' := finishCommit scene now publication (.error (.recoverable reason));
    scene'.lastPresentedGeneration = scene.lastPresentedGeneration ∧
      scene'.nextRetryAt.isSome = true ∧
      (publication.sceneGeneration = scene.generation →
        ∃ pending, scene'.pending = some pending ∧ pending.generation = scene.generation) ∧
      (publication.sceneGeneration ≠ scene.generation → scene'.pending = scene.pending) := by
  intro scene'
  have hcurrent : (scene.pending.map (·.generation)).getD 0 ≤ scene.generation := by
    cases hpending : scene.pending with
    | none => simp
    | some pending => exact hbehind pending hpending
  by_cases hnewest : publication.sceneGeneration = scene.generation
  · have hstore : shouldStorePendingCommit publication.sceneGeneration scene.generation
        ((scene.pending.map (·.generation)).getD 0) = true := by
      rw [hnewest]
      simp [shouldStorePendingCommit, hcurrent]
    have heq : scene' = scheduleSceneRetry { scene with
        pending := some ⟨publication.sceneGeneration, publication.surfaces,
          (CommitProductionSceneError.recoverable reason).toText⟩ } now := by
      simp only [scene', finishCommit, hstore, if_true]
      rw [coalescePendingCommit_newest fun pending hpending => ?_]
      rw [hnewest]
      exact hbehind pending hpending
    rw [heq]
    exact ⟨rfl, rfl, fun _ => ⟨_, rfl, hnewest⟩, fun hne => absurd hnewest hne⟩
  · have hkeep : shouldStorePendingCommit publication.sceneGeneration scene.generation
        ((scene.pending.map (·.generation)).getD 0) = false := by
      have hless := lt_of_le_of_ne hle hnewest
      simp [shouldStorePendingCommit, hless]
    have heq : scene' = scheduleSceneRetry scene now := by
      simp only [scene', finishCommit, hkeep, Bool.false_eq_true, if_false]
    rw [heq]
    exact ⟨rfl, rfl, fun h => absurd h hnewest, fun _ => rfl⟩

/-- A step of the service, by what it does to the scene. -/
inductive SceneStep (w : SceneService) : SceneInput → SceneService → Prop
  | stay (input : SceneInput) : SceneStep w input w
  | connect : SceneStep w .connect
      ({ w with nextClientId := w.nextClientId + 1 }.setClient w.nextClientId {})
  | moved {input id client} (phase : ClientPhase) (store : PixelTransportStore)
      (hget : w.clients.get? id = some client)
      (hfree : w.runs id = false ∨ ¬ SceneService.CommitsNext client.phase)
      (hahead : CommitAhead client.phase → CommitAhead phase) :
      SceneStep w input
        ({ w with pixelTransport := store }.setClient id { client with phase := phase })
  | changed {input id client scene} (phase : ClientPhase) (store : PixelTransportStore)
      (hget : w.clients.get? id = some client)
      (hfree : w.runs id = false ∨ ¬ SceneService.CommitsNext client.phase)
      (hscene : SceneChanged w.scene scene) (hahead : CommitAhead phase) :
      SceneStep w input
        ({ w with scene := scene, pixelTransport := store }.setClient id ⟨phase, true⟩)
  | cached {id client event} (hidle : w.running = none)
      (hget : w.clients.get? id = some client)
      (hcached : cachedPresentation (dropOlderPending w.scene) = some event) :
      SceneStep w (.begin id) ({ w with scene := dropOlderPending w.scene }.conclude id false)
  | begun {id client run} (hidle : w.running = none) (hget : w.clients.get? id = some client)
      (hnext : SceneService.CommitsNext client.phase) (hclient : run.clientId = id)
      (hrun : run.publication =
        snapshotScene (dropOlderPending w.scene) w.pixelTransport w.sceneEpoch) :
      SceneStep w (.begin id)
        ({ w with
          scene := dropOlderPending w.scene
          running := some run
          handed := if run.admitted then run.publication :: w.handed else w.handed }.setClient
            id { client with changed := false })
  | finished {run} (now : Nat) (answer : Except CommitProductionSceneError DisplayEvent)
      (hrun : w.running = some run) :
      SceneStep w (.finish now answer)
        ({ w with
          scene := finishCommit w.scene now run.publication (run.result answer)
          running := none
          fatal := if isFatal (run.result answer) then
              run.publication.sceneGeneration :: w.fatal
            else w.fatal }.conclude run.clientId (isFatal (run.result answer)))

theorem SceneService.step_cases (w : SceneService) (input : SceneInput) :
    SceneStep w input (w.step input) := by
  cases input with
  | connect => exact .connect
  | upsert id surfaces payloads =>
    simp only [step, upsert]
    split
    · rename_i changed hget
      split
      · exact .moved .exiting w.pixelTransport hget (.inr fun h => h) fun h => h.elim
      · rename_i scene store hupsert
        exact .changed .owing store hget (.inr fun h => h) (upsertClientScene_changed hupsert)
          trivial
    · exact .stay _
  | exit id =>
    simp only [step, exit]
    split
    · rename_i changed hget
      exact .moved .exiting w.pixelTransport hget (.inr fun h => h) fun h => h.elim
    · rename_i changed hget
      split_ifs with hruns
      · exact .stay _
      · exact .moved .exiting w.pixelTransport hget (.inl ((Bool.not_eq_true _).mp hruns))
          fun _ => trivial
    · exact .stay _
  | remove id =>
    simp only [step, remove]
    split
    · rename_i changed hget
      cases hcontains : w.scene.clients.contains id with
      | true =>
        rw [Bool.or_true]
        exact .changed .removed w.pixelTransport hget (.inr fun h => h)
          (removeClientScene_changed hcontains) trivial
      | false =>
        rw [Bool.or_false, removeClientScene_absent hcontains]
        exact .moved .removed w.pixelTransport hget (.inr fun h => h) fun _ => trivial
    · exact .stay _
  | invalidate id =>
    simp only [step, invalidate]
    split
    · rename_i changed hget
      exact .moved .leaving _ hget (.inr fun h => h) fun _ => trivial
    · exact .stay _
  | lookAtRetry id now =>
    simp only [step, lookAtRetry]
    split
    · rename_i changed hget
      split_ifs
      · exact .moved .due w.pixelTransport hget (.inr fun h => h) fun h => h.elim
      · exact .stay _
    · exact .stay _
  | begin id =>
    simp only [step, begin]
    split
    · rename_i client hidle hget
      by_cases hnext : CommitsNext client.phase
      · rw [if_pos hnext]
        split
        · rename_i event hcached
          exact .cached hidle hget hcached
        · exact .begun hidle hget hnext rfl rfl
      · rw [if_neg hnext]
        exact .stay _
    · exact .stay _
  | finish now answer =>
    simp only [step, finish]
    split
    · exact .stay _
    · rename_i run hrun
      exact .finished now answer hrun

namespace SceneService

theorem setClient_get? (w : SceneService) (id id' : Nat) (client : SceneClient) :
    (w.setClient id client).clients.get? id' =
      if id' = id then some client else w.clients.get? id' :=
  OrdMap.get?_insert w.clients id id' client

theorem conclude_get? (w : SceneService) (id id' : Nat) (failed : Bool) :
    (w.conclude id failed).clients.get? id' =
      if id' = id then
        (w.clients.get? id).bind fun client =>
          (client.phase.concluded failed).map fun phase => ⟨phase, false⟩
      else w.clients.get? id' := by
  unfold conclude
  cases hget : w.clients.get? id with
  | none =>
    split_ifs with hid
    · rw [hid, hget]
      rfl
    · rfl
  | some client =>
    dsimp only [Option.bind_some]
    cases hphase : client.phase.concluded failed with
    | none =>
      dsimp only
      rw [OrdMap.get?_erase]
      rfl
    | some phase =>
      dsimp only
      rw [setClient_get?]
      rfl

theorem conclude_frame (w : SceneService) (id : Nat) (failed : Bool) :
    (w.conclude id failed).scene = w.scene ∧ (w.conclude id failed).running = w.running ∧
      (w.conclude id failed).handed = w.handed ∧ (w.conclude id failed).fatal = w.fatal ∧
      (w.conclude id failed).nextClientId = w.nextClientId := by
  unfold conclude
  split
  · exact ⟨rfl, rfl, rfl, rfl, rfl⟩
  · split
    · exact ⟨rfl, rfl, rfl, rfl, rfl⟩
    · exact ⟨rfl, rfl, rfl, rfl, rfl⟩

theorem runs_iff {id : Nat} :
    w.runs id = true ↔ ∃ run, w.running = some run ∧ run.clientId = id := by
  unfold runs
  cases w.running with
  | none => simp
  | some run => simp

/-- Who changed the scene has a commit ahead, and the commit under way is that of a client
that waits for it. -/
structure Threads (w : SceneService) : Prop where
  known : ∀ id client, w.clients.get? id = some client → id < w.nextClientId
  ahead : ∀ id client, w.clients.get? id = some client → client.changed = true →
    CommitAhead client.phase
  runner : ∀ run, w.running = some run → ∃ client, w.clients.get? run.clientId = some client ∧
    CommitsNext client.phase ∧ client.changed = false

/-- The state of one client is replaced. -/
theorem Threads.setClient {id : Nat} (h : Threads w)
    (hclients : w'.clients = w.clients.insert id client) (hnext : w.nextClientId ≤ w'.nextClientId)
    (hid : id < w'.nextClientId) (hahead : client.changed = true → CommitAhead client.phase)
    (hrunning : ∀ run, w'.running = some run →
      (run.clientId = id ∧ CommitsNext client.phase ∧ client.changed = false) ∨
        (run.clientId ≠ id ∧ w.running = some run)) : Threads w' where
  known id' client' hget := by
    rw [hclients, OrdMap.get?_insert] at hget
    split_ifs at hget with heq
    · rw [heq]
      exact hid
    · exact lt_of_lt_of_le (h.known id' client' hget) hnext
  ahead id' client' hget := by
    rw [hclients, OrdMap.get?_insert] at hget
    split_ifs at hget with heq
    · obtain rfl := Option.some.inj hget
      exact hahead
    · exact h.ahead id' client' hget
  runner run hrun := by
    rw [hclients, OrdMap.get?_insert]
    cases hrunning run hrun with
    | inl hself =>
      rw [if_pos hself.1]
      exact ⟨client, rfl, hself.2⟩
    | inr hother =>
      rw [if_neg hother.1]
      exact h.runner run hother.2

theorem Threads.conclude {id : Nat} {failed : Bool} (h : Threads w)
    (hclients : ∀ id', w'.clients.get? id' = (w.conclude id failed).clients.get? id')
    (hnext : w'.nextClientId = w.nextClientId) (hrunning : w'.running = none) : Threads w' where
  known id' client' hget := by
    rw [hclients, conclude_get?] at hget
    rw [hnext]
    split_ifs at hget with heq
    · obtain ⟨client, hclient, _⟩ := Option.bind_eq_some_iff.mp hget
      exact heq ▸ h.known id client hclient
    · exact h.known id' client' hget
  ahead id' client' hget hchanged := by
    rw [hclients, conclude_get?] at hget
    split_ifs at hget with heq
    · obtain ⟨client, _, hphase⟩ := Option.bind_eq_some_iff.mp hget
      obtain ⟨phase, _, rfl⟩ := Option.map_eq_some_iff.mp hphase
      cases hchanged
    · exact h.ahead id' client' hget hchanged
  runner run hrun := by
    rw [hrunning] at hrun
    cases hrun

theorem threads_step (h : Threads w) (hstep : SceneStep w input w') : Threads w' := by
  have hother : ∀ {id client}, w.clients.get? id = some client →
      w.runs id = false ∨ ¬ CommitsNext client.phase →
      ∀ run, w.running = some run → run.clientId ≠ id := by
    intro id client hget hfree run hrun hclient
    obtain ⟨runner, hrunner, hnext, _⟩ := h.runner run hrun
    rw [hclient, hget] at hrunner
    obtain rfl := Option.some.inj hrunner
    cases hfree with
    | inl hfree => simp [runs_iff.mpr ⟨run, hrun, hclient⟩] at hfree
    | inr hfree => exact hfree hnext
  cases hstep with
  | stay => exact h
  | connect =>
    refine h.setClient rfl (Nat.le_succ _) (Nat.lt_succ_self _) (fun hc => by cases hc)
      fun run hrun => .inr ⟨?_, hrun⟩
    obtain ⟨client, hclient, _⟩ := h.runner run hrun
    exact (h.known _ client hclient).ne
  | moved phase store hget hfree hahead =>
    exact h.setClient rfl le_rfl (h.known _ _ hget)
      (fun hchanged => hahead (h.ahead _ _ hget hchanged))
      fun run hrun => .inr ⟨hother hget hfree run hrun, hrun⟩
  | changed phase store hget hfree hscene hahead =>
    exact h.setClient rfl le_rfl (h.known _ _ hget) (fun _ => hahead)
      fun run hrun => .inr ⟨hother hget hfree run hrun, hrun⟩
  | cached hidle hget hcached =>
    refine Threads.conclude (w := { w with scene := dropOlderPending w.scene })
      ⟨h.known, h.ahead, h.runner⟩ (fun _ => rfl) ?_ ?_
    · rw [(conclude_frame _ _ _).2.2.2.2]
    · rw [(conclude_frame _ _ _).2.1]
      exact hidle
  | begun hidle hget hnext hclient hrun =>
    refine h.setClient rfl le_rfl (h.known _ _ hget) (fun hc => by cases hc) fun run' hrun' => ?_
    obtain rfl := Option.some.inj hrun'
    exact .inl ⟨hclient, hnext, rfl⟩
  | finished now answer hrun =>
    rename_i run
    refine Threads.conclude (w := { w with
        scene := finishCommit w.scene now run.publication (run.result answer)
        running := none
        fatal := if isFatal (run.result answer) then run.publication.sceneGeneration :: w.fatal
          else w.fatal }) ⟨h.known, h.ahead, fun _ hrun => by cases hrun⟩ (fun _ => rfl) ?_ ?_
    · rw [(conclude_frame _ _ _).2.2.2.2]
    · rw [(conclude_frame _ _ _).2.1]

/-- A commit of the newest generation waits to be retried. -/
def Retried (w : SceneService) : Prop :=
  (∃ pending, w.scene.pending = some pending ∧ pending.generation = w.scene.generation) ∧
    w.scene.nextRetryAt.isSome = true

structure Accounted (w : SceneService) : Prop where
  behind : PendingBehind w.scene
  scheduled : w.scene.pending.isSome = true → w.scene.nextRetryAt.isSome = true
  presented : w.scene.lastPresentedGeneration ≤ w.scene.generation
  handed : ∀ publication ∈ w.handed, publication.sceneGeneration ≤ w.scene.generation
  ordered : w.handed.Pairwise fun newer older => older.sceneGeneration ≤ newer.sceneGeneration
  running : ∀ run, w.running = some run → run.publication.sceneGeneration ≤ w.scene.generation
  covers : ∀ run, w.running = some run → ∀ pending, w.scene.pending = some pending →
    pending.generation ≤ run.publication.sceneGeneration
  newest : ∀ run, w.running = some run →
    run.publication.sceneGeneration = w.scene.generation ∨ ∃ id, w.Owes id
  attempted : w.scene.lastPresentedGeneration < w.scene.generation →
    w.Retried ∨ (∃ id, w.Owes id) ∨ w.scene.generation ∈ w.fatal ∨ w.running.isSome = true

/-- The scene and its commits are left alone, and nobody's debt is forgotten. -/
theorem Accounted.of_same (h : Accounted w) (hscene : w'.scene = w.scene)
    (hrunning : w'.running = w.running) (hhanded : w'.handed = w.handed)
    (hfatal : w'.fatal = w.fatal) (howes : ∀ id, w.Owes id → w'.Owes id) : Accounted w' where
  behind := hscene ▸ h.behind
  scheduled := hscene ▸ h.scheduled
  presented := hscene ▸ h.presented
  handed := by
    rw [hscene, hhanded]
    exact h.handed
  ordered := hhanded ▸ h.ordered
  running := by
    rw [hscene, hrunning]
    exact h.running
  covers := by
    rw [hscene, hrunning]
    exact h.covers
  newest run hrun := by
    rw [hrunning] at hrun
    rw [hscene]
    exact (h.newest run hrun).imp_right fun hex => hex.imp howes
  attempted hlate := by
    unfold Retried
    rw [hscene] at hlate ⊢
    rw [hfatal, hrunning]
    exact (h.attempted hlate).imp_right fun hrest => hrest.imp_left fun hex => hex.imp howes

theorem accounted_connect (h : Accounted w) (hthreads : Threads w) :
    Accounted
      ({ w with nextClientId := w.nextClientId + 1 }.setClient w.nextClientId {}) := by
  refine h.of_same rfl rfl rfl rfl fun id howes => ?_
  obtain ⟨client, hget, hdebt⟩ := howes
  refine ⟨client, ?_, hdebt⟩
  rw [setClient_get?, if_neg (hthreads.known id client hget).ne]
  exact hget

theorem accounted_moved {id : Nat} (h : Accounted w) (hget : w.clients.get? id = some client)
    (hahead : CommitAhead client.phase → CommitAhead phase) :
    Accounted ({ w with pixelTransport := store }.setClient id { client with phase := phase }) := by
  refine h.of_same rfl rfl rfl rfl fun id' howes => ?_
  obtain ⟨client', hget', hchanged, hphase⟩ := howes
  by_cases hid : id' = id
  · rw [hid, hget] at hget'
    obtain rfl := Option.some.inj hget'
    refine ⟨{ client with phase := phase }, ?_, hchanged, hahead hphase⟩
    rw [setClient_get?, if_pos hid]
  · refine ⟨client', ?_, hchanged, hphase⟩
    rw [setClient_get?, if_neg hid]
    exact hget'

theorem accounted_changed {id : Nat} {scene : CanonicalSceneState} (h : Accounted w)
    (hscene : SceneChanged w.scene scene) (hahead : CommitAhead phase) :
    Accounted
      ({ w with scene := scene, pixelTransport := store }.setClient id ⟨phase, true⟩) := by
  have howes : ({ w with scene := scene, pixelTransport := store }.setClient id
      ⟨phase, true⟩).Owes id := by
    refine ⟨⟨phase, true⟩, ?_, rfl, hahead⟩
    rw [setClient_get?, if_pos rfl]
  have hgrows : w.scene.generation ≤ scene.generation := by
    rw [hscene.generation]
    exact le_satAdd _ _
  refine ⟨fun pending hpending => ?_, fun hpending => ?_, ?_, fun publication hmem => ?_,
    h.ordered, fun run hrun => (h.running run hrun).trans hgrows, fun run hrun pending hpending => ?_,
    fun _ _ => .inr ⟨id, howes⟩, fun _ => .inr (.inl ⟨id, howes⟩)⟩
  · replace hpending : scene.pending = some pending := hpending
    rw [hscene.pending] at hpending
    exact (h.behind pending hpending).trans hgrows
  · replace hpending : scene.pending.isSome = true := hpending
    rw [hscene.pending] at hpending
    exact (congrArg Option.isSome hscene.retry).trans (h.scheduled hpending)
  · change scene.lastPresentedGeneration ≤ scene.generation
    rw [hscene.presented]
    exact h.presented.trans hgrows
  · exact (h.handed publication hmem).trans hgrows
  · replace hpending : scene.pending = some pending := hpending
    rw [hscene.pending] at hpending
    exact h.covers run hrun pending hpending

theorem accounted_cached {id : Nat} {event : DisplayEvent} (h : Accounted w)
    (hidle : w.running = none)
    (hcached : cachedPresentation (dropOlderPending w.scene) = some event) :
    Accounted ({ w with scene := dropOlderPending w.scene }.conclude id false) := by
  obtain ⟨hscene, hrunning, hhanded, _, _⟩ :=
    conclude_frame { w with scene := dropOlderPending w.scene } id false
  have hnone : (dropOlderPending w.scene).pending = none ∧
      w.scene.generation ≤ w.scene.lastPresentedGeneration := by
    unfold cachedPresentation at hcached
    split_ifs at hcached with hcache
    exact ⟨Option.isNone_iff_eq_none.mp hcache.1, hcache.2⟩
  refine ⟨fun pending hpending => ?_, fun hpending => ?_, ?_, ?_, ?_, fun run hrun => ?_,
    fun run hrun => ?_, fun run hrun => ?_, fun hlate => ?_⟩
  · rw [hscene, hnone.1] at hpending
    cases hpending
  · rw [hscene, hnone.1] at hpending
    cases hpending
  · rw [hscene]
    exact h.presented
  · rw [hscene, hhanded]
    exact h.handed
  · rw [hhanded]
    exact h.ordered
  · rw [hrunning, hidle] at hrun
    cases hrun
  · rw [hrunning, hidle] at hrun
    cases hrun
  · rw [hrunning, hidle] at hrun
    cases hrun
  · rw [hscene] at hlate
    exact absurd hlate (not_lt.mpr hnone.2)

theorem accounted_begun {id : Nat} {run : RunningCommit} (h : Accounted w) (hrun : run.publication =
      snapshotScene (dropOlderPending w.scene) w.pixelTransport w.sceneEpoch) :
    Accounted ({ w with
      scene := dropOlderPending w.scene
      running := some run
      handed := if run.admitted then run.publication :: w.handed else w.handed }.setClient
        id { client with changed := false }) := by
  have hbehind : PendingBehind (dropOlderPending w.scene) := fun pending hpending =>
    h.behind pending (dropOlderPending_pending.mp hpending).1
  have hnewest : run.publication.sceneGeneration = w.scene.generation := by
    rw [hrun]
    exact snapshotScene_generation hbehind w.pixelTransport w.sceneEpoch
  refine ⟨hbehind, fun hpending => ?_, h.presented, ?_, ?_, fun run' hrun' => ?_,
    fun run' hrun' pending hpending => ?_, fun run' hrun' => .inl ?_,
    fun _ => .inr (.inr (.inr rfl))⟩
  · obtain ⟨pending, hpending⟩ := Option.isSome_iff_exists.mp hpending
    exact h.scheduled (Option.isSome_of_mem (dropOlderPending_pending.mp hpending).1)
  · change ∀ publication ∈ (if run.admitted then run.publication :: w.handed else w.handed),
      publication.sceneGeneration ≤ w.scene.generation
    split_ifs
    · exact List.forall_mem_cons.mpr ⟨hnewest.le, h.handed⟩
    · exact h.handed
  · change List.Pairwise _ (if run.admitted then run.publication :: w.handed else w.handed)
    split_ifs
    · refine List.pairwise_cons.mpr ⟨fun older hmem => ?_, h.ordered⟩
      rw [hnewest]
      exact h.handed older hmem
    · exact h.ordered
  · obtain rfl := Option.some.inj hrun'
    exact hnewest.le
  · obtain rfl := Option.some.inj hrun'
    rw [hnewest]
    exact hbehind pending hpending
  · obtain rfl := Option.some.inj hrun'
    exact hnewest

/-- A thread that owes nothing concludes, and the debts of the others stand. -/
theorem owes_conclude {id id' : Nat} (failed : Bool) (hclients : w'.clients = w.clients)
    (hfree : ¬ w.Owes id) (howes : w.Owes id') : (w'.conclude id failed).Owes id' := by
  have hid : id' ≠ id := by
    intro hid
    exact hfree (hid ▸ howes)
  obtain ⟨client, hget, hdebt⟩ := howes
  refine ⟨client, ?_, hdebt⟩
  rw [conclude_get?, if_neg hid, hclients]
  exact hget

/-- What the bookkeeping after a commit leaves of the scene. -/
theorem finishCommit_accounted {run : RunningCommit} (h : Accounted w) (hrun : w.running = some run)
    (now : Nat) (result : Except CommitProductionSceneError DisplayEvent) :
    let scene' := finishCommit w.scene now run.publication result;
    PendingBehind scene' ∧ (scene'.pending.isSome = true → scene'.nextRetryAt.isSome = true) ∧
      scene'.lastPresentedGeneration ≤ scene'.generation ∧
      (run.publication.sceneGeneration = w.scene.generation →
        scene'.lastPresentedGeneration < scene'.generation →
        ((∃ pending, scene'.pending = some pending ∧ pending.generation = scene'.generation) ∧
          scene'.nextRetryAt.isSome = true) ∨ isFatal result = true) := by
  intro scene'
  have hgeneration : scene'.generation = w.scene.generation :=
    finishCommit_generation w.scene now run.publication result
  have hle := h.running run hrun
  cases result with
  | ok event =>
    obtain ⟨hpresented, hpending⟩ := finishCommit_ok w.scene now run.publication event
    have hcleared : scene'.pending = none := by
      rw [hpending, Option.filter_eq_none_iff]
      intro pending hmem
      have := h.covers run hrun pending hmem
      simpa using this
    refine ⟨fun pending hp => ?_, fun hp => ?_, ?_, fun hnewest hlate => ?_⟩
    · rw [hcleared] at hp
      cases hp
    · rw [hcleared] at hp
      cases hp
    · rw [hgeneration]
      exact hpresented.le.trans (max_le h.presented hle)
    · rw [hgeneration] at hlate
      have hmax := le_max_right w.scene.lastPresentedGeneration run.publication.sceneGeneration
      rw [← hpresented, hnewest] at hmax
      exact absurd hlate (not_lt.mpr hmax)
  | error failure =>
    cases failure with
    | recoverable reason =>
      obtain ⟨hpresented, hretry, hstored, hkept⟩ :=
        finishCommit_recoverable h.behind hle now reason
      refine ⟨fun pending hp => ?_, fun _ => hretry, ?_, fun hnewest _ => .inl ?_⟩
      · rw [hgeneration]
        by_cases hnewest : run.publication.sceneGeneration = w.scene.generation
        · obtain ⟨stored, heq, hgen⟩ := hstored hnewest
          obtain rfl := Option.some.inj (heq.symm.trans hp)
          exact hgen.le
        · exact h.behind pending ((hkept hnewest).symm.trans hp)
      · rw [hgeneration]
        exact hpresented.le.trans h.presented
      · rw [hgeneration]
        exact ⟨hstored hnewest, hretry⟩
    | fatal reason => exact ⟨h.behind, h.scheduled, h.presented, fun _ _ => .inr rfl⟩

theorem accounted_finished {run : RunningCommit} (h : Accounted w) (hthreads : Threads w)
    (now : Nat) (answer : Except CommitProductionSceneError DisplayEvent)
    (hrun : w.running = some run) :
    Accounted ({ w with
      scene := finishCommit w.scene now run.publication (run.result answer)
      running := none
      fatal := if isFatal (run.result answer) then
          run.publication.sceneGeneration :: w.fatal
        else w.fatal }.conclude run.clientId (isFatal (run.result answer))) := by
  set w' : SceneService := { w with
    scene := finishCommit w.scene now run.publication (run.result answer)
    running := none
    fatal := if isFatal (run.result answer) then run.publication.sceneGeneration :: w.fatal
      else w.fatal } with hw'
  obtain ⟨hscene, hrunning, hhanded, hfatal, _⟩ :=
    conclude_frame w' run.clientId (isFatal (run.result answer))
  obtain ⟨hbehind, hscheduled, hpresented, hlast⟩ :=
    finishCommit_accounted h hrun now (run.result answer)
  have hgeneration : w'.scene.generation = w.scene.generation :=
    finishCommit_generation w.scene now run.publication (run.result answer)
  have hfree : ¬ w.Owes run.clientId := by
    rintro ⟨client, hget, hchanged, _⟩
    obtain ⟨runner, hrunner, _, hunchanged⟩ := hthreads.runner run hrun
    obtain rfl := Option.some.inj (hget.symm.trans hrunner)
    rw [hunchanged] at hchanged
    cases hchanged
  refine ⟨hscene ▸ hbehind, hscene ▸ hscheduled, hscene ▸ hpresented, ?_, hhanded ▸ h.ordered,
    fun run' hrun' => ?_, fun run' hrun' => ?_, fun run' hrun' => ?_, fun hlate => ?_⟩
  · rw [hscene, hhanded, hgeneration]
    exact h.handed
  · rw [hrunning] at hrun'
    cases hrun'
  · rw [hrunning] at hrun'
    cases hrun'
  · rw [hrunning] at hrun'
    cases hrun'
  · unfold Retried
    rw [hscene] at hlate ⊢
    rw [hfatal]
    cases h.newest run hrun with
    | inl hnewest =>
      cases hlast hnewest hlate with
      | inl hretried => exact .inl hretried
      | inr hfailed =>
        refine .inr (.inr (.inl ?_))
        rw [hgeneration, ← hnewest]
        simp only [hw', hfailed, if_true, List.mem_cons, true_or]
    | inr hex =>
      obtain ⟨id, howes⟩ := hex
      exact .inr (.inl ⟨id, owes_conclude _ rfl hfree howes⟩)

theorem accounted_step (h : Accounted w) (hthreads : Threads w) (hstep : SceneStep w input w') :
    Accounted w' := by
  cases hstep with
  | stay => exact h
  | connect => exact accounted_connect h hthreads
  | moved phase store hget hfree hahead => exact accounted_moved h hget hahead
  | changed phase store hget hfree hscene hahead => exact accounted_changed h hscene hahead
  | cached hidle hget hcached => exact accounted_cached h hidle hcached
  | begun hidle hget hnext hclient hrun => exact accounted_begun h hrun
  | finished now answer hrun => exact accounted_finished h hthreads now answer hrun

theorem threads_reachable (h : system.Reachable w) : Threads w := by
  refine h.invariant ?_ fun w input hthreads _ => threads_step hthreads (step_cases w input)
  rintro _ ⟨epoch, rfl⟩
  exact ⟨fun _ _ hget => (by cases hget), fun _ _ hget => (by cases hget),
    fun _ hrun => (by cases hrun)⟩

theorem accounted_reachable (h : system.Reachable w) : Accounted w := by
  refine h.invariant_with (J := Threads) (fun _ => threads_reachable) ?_
    fun w input hthreads haccounted _ => accounted_step haccounted hthreads (step_cases w input)
  rintro _ ⟨epoch, rfl⟩
  exact ⟨fun _ hp => (by cases hp), fun hp => (by cases hp), le_rfl, List.forall_mem_nil _,
    .nil, fun _ hrun => (by cases hrun), fun _ hrun => (by cases hrun),
    fun _ hrun => (by cases hrun), fun hlate => absurd hlate (lt_irrefl 0)⟩

theorem presented_step (hstep : SceneStep w input w') :
    w.scene.lastPresentedGeneration ≤ w'.scene.lastPresentedGeneration := by
  cases hstep with
  | stay => exact le_rfl
  | connect => exact le_rfl
  | moved phase store hget hfree hahead => exact le_rfl
  | changed phase store hget hfree hscene hahead => exact hscene.presented.ge
  | cached hidle hget hcached =>
    rw [(conclude_frame _ _ _).1]
    exact le_rfl
  | begun hidle hget hnext hclient hrun => exact le_rfl
  | finished now answer hrun =>
    rw [(conclude_frame _ _ _).1]
    exact finishCommit_presented _ _ _ _

theorem presented_run (w : SceneService) (inputs : List SceneInput) :
    w.scene.lastPresentedGeneration ≤ (system.run w inputs).scene.lastPresentedGeneration := by
  induction inputs generalizing w with
  | nil => exact le_rfl
  | cons input rest ih => exact (presented_step (step_cases w input)).trans (ih (w.step input))

/-- The commit that is under way ends in a success. -/
def Succeeds (w : SceneService) : SceneInput → Prop
  | .finish _ answer => ∃ run event, w.running = some run ∧ run.result answer = .ok event
  | _ => False

/-- The pending commit stays, gives way to one that is not older, or is cleared for a
success or a newer generation. -/
def PendingKept (w : SceneService) (input : SceneInput) (w' : SceneService) : Prop :=
  ∀ pending, w.scene.pending = some pending →
    match w'.scene.pending with
    | some pending' => pending.generation ≤ pending'.generation
    | none => w.Succeeds input ∨ pending.generation < w.scene.generation

theorem PendingKept.of_some {pending' : PendingCanonicalCommit}
    (h : w'.scene.pending = some pending') (hle : pending.generation ≤ pending'.generation) :
    match w'.scene.pending with
    | some pending' => pending.generation ≤ pending'.generation
    | none => w.Succeeds input ∨ pending.generation < w.scene.generation := by
  rw [h]
  exact hle

theorem PendingKept.of_none (h : w'.scene.pending = none)
    (hwhy : w.Succeeds input ∨ pending.generation < w.scene.generation) :
    match w'.scene.pending with
    | some pending' => pending.generation ≤ pending'.generation
    | none => w.Succeeds input ∨ pending.generation < w.scene.generation := by
  rw [h]
  exact hwhy

theorem PendingKept.of_drop (h : w'.scene.pending = (dropOlderPending w.scene).pending) :
    PendingKept w input w' := by
  intro pending hpending
  by_cases hnewest : w.scene.generation ≤ pending.generation
  · have hkept := dropOlderPending_pending.mpr ⟨hpending, hnewest⟩
    exact PendingKept.of_some (h.trans hkept) le_rfl
  · refine PendingKept.of_none (h.trans ?_) (.inr (not_le.mp hnewest))
    rw [Option.eq_none_iff_forall_ne_some]
    intro kept hkept
    have hkept := dropOlderPending_pending.mp hkept
    obtain rfl := Option.some.inj (hkept.1.symm.trans hpending)
    exact hnewest hkept.2

theorem PendingKept.of_finish {run : RunningCommit} {now : Nat}
    {answer : Except CommitProductionSceneError DisplayEvent} (h : Accounted w)
    (hrun : w.running = some run)
    (heq : w'.scene = finishCommit w.scene now run.publication (run.result answer)) :
    PendingKept w (.finish now answer) w' := by
  intro pending hpending
  cases hresult : run.result answer with
  | ok event =>
    have hcleared := (finishCommit_ok w.scene now run.publication event).2
    rw [← hresult, ← heq, hpending] at hcleared
    refine PendingKept.of_none (hcleared.trans ?_) (.inl ⟨run, event, hrun, hresult⟩)
    have := h.covers run hrun pending hpending
    simpa [shouldClearPendingCommit] using this
  | error failure =>
    cases failure with
    | recoverable reason =>
      obtain ⟨_, _, hstored, hkept⟩ :=
        finishCommit_recoverable h.behind (h.running run hrun) now reason
      rw [← hresult, ← heq] at hstored hkept
      by_cases hnewest : run.publication.sceneGeneration = w.scene.generation
      · obtain ⟨stored, hsome, hgeneration⟩ := hstored hnewest
        exact PendingKept.of_some hsome (hgeneration ▸ h.behind pending hpending)
      · exact PendingKept.of_some ((hkept hnewest).trans hpending) le_rfl
    | fatal reason =>
      rw [hresult] at heq
      exact PendingKept.of_some ((congrArg (·.pending) heq).trans hpending) le_rfl

theorem pending_step (h : Accounted w) (hstep : SceneStep w input w') : PendingKept w input w' := by
  cases hstep with
  | stay => exact fun pending hpending => PendingKept.of_some hpending le_rfl
  | connect => exact fun pending hpending => PendingKept.of_some hpending le_rfl
  | moved phase store hget hfree hahead =>
    exact fun pending hpending => PendingKept.of_some hpending le_rfl
  | changed phase store hget hfree hscene hahead =>
    exact fun pending hpending => PendingKept.of_some (hscene.pending.trans hpending) le_rfl
  | cached hidle hget hcached =>
    refine PendingKept.of_drop ?_
    rw [(conclude_frame _ _ _).1]
  | begun hidle hget hnext hclient hrun => exact PendingKept.of_drop rfl
  | finished now answer hrun => exact PendingKept.of_finish h hrun (conclude_frame _ _ _).1

/-- Commits are handed over in order, what was presented stays presented, a pending commit
is not lost, and the newest scene is always attempted. -/
theorem canonical_law {w : SceneService} (h : system.Reachable w) :
    (w.handed.Pairwise fun newer older => older.sceneGeneration ≤ newer.sceneGeneration) ∧
      w.scene.lastPresentedGeneration ≤ w.scene.generation ∧
      (∀ inputs, w.scene.lastPresentedGeneration ≤
        (system.run w inputs).scene.lastPresentedGeneration) ∧
      (∀ input, PendingKept w input (w.step input)) ∧
      (w.running = none → w.scene.lastPresentedGeneration < w.scene.generation →
        w.Retried ∨ (∃ id, w.Owes id) ∨ w.scene.generation ∈ w.fatal) := by
  have haccounted := accounted_reachable h
  refine ⟨haccounted.ordered, haccounted.presented, presented_run w,
    fun input => pending_step haccounted (step_cases w input), fun hidle hlate => ?_⟩
  have hattempted := haccounted.attempted hlate
  rw [hidle] at hattempted
  simpa using hattempted

/-- A client's commit fails while compd is away: its scene waits to be retried. -/
theorem canonical_law_retried :
    let w := system.run { sceneEpoch := 1 } [.connect, .upsert 1 [] [], .begin 1,
      .finish 0 (.error (.recoverable "compd is away"))];
    w.handed.map (·.sceneGeneration) = [1] ∧ w.running.isNone = true ∧
      w.scene.lastPresentedGeneration = 0 ∧ w.scene.generation = 1 ∧
      (w.Retried ∨ (∃ id, w.Owes id) ∨ w.scene.generation ∈ w.fatal) := by
  intro w
  have hinit : system.Reachable { sceneEpoch := 1 } := .init ⟨1, rfl⟩
  have hreach : system.Reachable w := hinit.run _
  have hlaw := canonical_law hreach
  exact ⟨rfl, rfl, rfl, rfl, hlaw.2.2.2.2 rfl (by decide)⟩

end SceneService

end TuffXwin.Waylandd
