import TuffXwin.Displayd.RegistryFrames

/-! The scenes displayd has accepted over a run, newest first. Only acceptance
and a restart touch the canonical scene and the version floor; both always come
from an accepted scene. -/

namespace TuffXwin.Displayd
open Lib

variable {s s' : DisplayState} {P : MovePolicy}
variable {a b c : DisplayState} {I : DisplayState → Prop} {required : OrdSet String}

def acceptedScenes : List DisplayEffect → List CommittedSceneState
  | [] => []
  | .accepted scene :: history => scene :: acceptedScenes history
  | _ :: history => acceptedScenes history

/-- Moves that leave the canonical scene alone. -/
structure SceneKept (s s' : DisplayState) : Prop where
  lastScene : s'.lastScene = s.lastScene
  floor : s'.floor = s.floor
  nextCommitId : s'.nextCommitId = s.nextCommitId
  accepted : acceptedScenes s'.history = acceptedScenes s.history

theorem SceneKept.refl (s : DisplayState) : SceneKept s s := ⟨rfl, rfl, rfl, rfl⟩

theorem SceneKept.trans (h : SceneKept a b) (h' : SceneKept b c) : SceneKept a c :=
  ⟨h'.lastScene.trans h.lastScene, h'.floor.trans h.floor,
    h'.nextCommitId.trans h.nextCommitId, h'.accepted.trans h.accepted⟩

/-- Moves that leave the canonical scene and its pixels alone. -/
structure PixelsKept (s s' : DisplayState) : Prop extends SceneKept s s' where
  pixelTransport : s'.pixelTransport = s.pixelTransport

theorem PixelsKept.refl (s : DisplayState) : PixelsKept s s := ⟨.refl s, rfl⟩

theorem PixelsKept.trans (h : PixelsKept a b) (h' : PixelsKept b c) : PixelsKept a c :=
  ⟨h.toSceneKept.trans h'.toSceneKept, h'.pixelTransport.trans h.pixelTransport⟩

/-- What a running displayd does to the canonical scene. -/
inductive SceneChange (P : MovePolicy) (s s' : DisplayState) : Prop
  | kept (h : SceneKept s s')
  | accepted (c : SceneCommit) (store : DisplayPixelTransportStore)
      (damage : OrdMap String (List RendererRect)) (source : ServiceRole) (env : Env)
      (acceptable : Acceptable s c none store damage) (allowed : P.accept s c none store damage)
      (recorded : Recorded s (committedScene c source s.nextCommitId env)
        (requiredFor s c damage) s')

abbrev SceneChanges (P : MovePolicy) : DisplayState → DisplayState → Prop :=
  Relation.ReflTransGen (SceneChange P)

theorem SceneChanges.invariant (hchange : ∀ s s', I s → SceneChange P s s' → I s')
    (h : SceneChanges P s s') (hs : I s) : I s' := by
  induction h with
  | refl => exact hs
  | tail _ hc ih => exact hchange _ _ ih hc

theorem acceptedScenes_resolutions (l : List (Nat × PresentationObligation))
    (history : List DisplayEffect) :
    acceptedScenes ((l.map fun e => DisplayEffect.resolved e.1 e.2.requiredOutputs).reverse ++
      history) = acceptedScenes history := by
  induction l generalizing history with
  | nil => rfl
  | cons e l ih =>
    rw [List.map_cons, List.reverse_cons, List.append_assoc]
    exact (ih _).trans rfl

theorem registerOutput_kept (s : DisplayState) (id : String) (runtime : OutputRuntime) :
    PixelsKept s (registerOutput s id runtime) := by
  obtain ⟨s₁, hcases, rfl⟩ := registerOutput_obligations s id runtime
  cases hcases with
  | inl heq =>
    rw [heq]
    exact ⟨⟨rfl, rfl, rfl, rfl⟩, rfl⟩
  | inr heq =>
    rw [heq, rebind_frame]
    exact ⟨⟨rfl, rfl, rfl, rfl⟩, rfl⟩

theorem presentOutput_kept (s : DisplayState) (env : Env) (o : OutstandingPresentation)
    (id : String) : PixelsKept s (presentOutput s env o id) := by
  obtain ⟨hlast, hepoch, hgeneration, hnext, hpixels, _⟩ := presentOutput_frame s env o id
  refine ⟨⟨hlast, ?_, hnext, ?_⟩, hpixels⟩
  · rw [DisplayState.floor, DisplayState.floor, hepoch, hgeneration]
  · rw [presentOutput_history]
    exact acceptedScenes_resolutions _ _

theorem load_floor (epoch : Nat) (outputs : OrdMap String OutputRuntime)
    (lastScene : Option CommittedSceneState) (history : List DisplayEffect) :
    (DisplayState.load epoch outputs lastScene history).floor =
      (lastScene.map (·.version)).getD (sceneVersion 0 0) := by
  cases lastScene with
  | none => rfl
  | some scene => rfl

theorem Move.scene (hm : Move P s s') :
    SceneChange P s s' ∨ (P.registry ∧ ∃ epoch keeps,
      s' = DisplayState.load epoch (startOutputs keeps) s.lastScene s.history) := by
  cases hm with
  | refuse _ _ =>
    rw [reboundFor, rebind_frame]
    exact .inl (.kept ⟨rfl, rfl, rfl, rfl⟩)
  | accept ha hp hr => exact .inl (.accepted _ _ _ _ _ ha hp (accept_recorded _ hr))
  | @hydrate c store damage commitId _ _ =>
    obtain ⟨hlast, hfloor, hnext, hhistory⟩ :=
      hydrate_frame s c commitId store damage (requiredFor s c damage)
    refine .inl (.kept ⟨hlast, hfloor, hnext, ?_⟩)
    rw [hhistory]
    split_ifs
    · rfl
    · rfl
  | quiet _ => exact .inl (.kept ⟨rfl, rfl, rfl, rfl⟩)
  | submitFailed _ _ _ => exact .inl (.kept ⟨rfl, rfl, rfl, rfl⟩)
  | submit _ => exact .inl (.kept ⟨rfl, rfl, rfl, rfl⟩)
  | present _ _ => exact .inl (.kept (presentOutput_kept _ _ _ _).toSceneKept)
  | fail _ _ => exact .inl (.kept ⟨rfl, rfl, rfl, rfl⟩)
  | connect _ _ => exact .inl (.kept (registerOutput_kept _ _ _).toSceneKept)
  | disable _ => exact .inl (.kept ⟨rfl, rfl, rfl, rfl⟩)
  | drop _ => exact .inl (.kept ⟨rfl, rfl, rfl, rfl⟩)
  | retireAll => exact .inl (.kept ⟨rfl, rfl, rfl, rfl⟩)
  | clearFeedbacks => exact .inl (.kept ⟨rfl, rfl, rfl, rfl⟩)
  | clearOutputs _ => exact .inl (.kept ⟨rfl, rfl, rfl, rfl⟩)
  | bookkeeping hc =>
    refine .inl (.kept ⟨hc.lastScene, ?_, hc.nextCommitId, by rw [hc.history]⟩)
    rw [DisplayState.floor, DisplayState.floor, hc.lastSceneEpoch, hc.lastSceneGeneration]
  | restart hreg => exact .inr ⟨hreg, _, _, rfl⟩

theorem Moves.scenes (hclosed : ¬ P.registry) (h : Moves P s s') : SceneChanges P s s' := by
  induction h with
  | refl => exact .refl
  | tail _ hm ih =>
    cases hm.scene with
    | inl hchange => exact ih.tail hchange
    | inr hrestart => exact absurd hrestart.1 hclosed

/-- Output events never touch the canonical scene or its pixels. -/
theorem pixelsKept_registry : RegistryRelation PixelsKept where
  refl := .refl
  trans := .trans
  adopted _ _ := ⟨⟨rfl, rfl, rfl, rfl⟩, rfl⟩
  noted _ _ := ⟨⟨rfl, rfl, rfl, rfl⟩, rfl⟩
  registered s id _ _ _ _ _ := registerOutput_kept s id _
  disabled _ _ := ⟨⟨rfl, rfl, rfl, rfl⟩, rfl⟩
  dropped _ _ := ⟨⟨rfl, rfl, rfl, rfl⟩, rfl⟩

section Registry

variable {β : Type} [DisplayBackend β]

theorem beginReconciliation_kept (d : Display β) (epoch : Nat) :
    PixelsKept d.state (d.beginReconciliation epoch).1.state := by
  unfold Display.beginReconciliation beginRestart
  dsimp only
  split_ifs
  · exact ⟨⟨rfl, rfl, rfl, rfl⟩, rfl⟩
  · exact ⟨⟨rfl, rfl, rfl, rfl⟩, rfl⟩
  · exact ⟨⟨rfl, rfl, rfl, rfl⟩, rfl⟩

end Registry

/-- The canonical scene is the last accepted one, the floor is the version of an
accepted scene, and commit ids grow until they saturate. -/
structure Ledger (s : DisplayState) : Prop where
  last : s.lastScene = (acceptedScenes s.history).head?
  floor : s.floor = sceneVersion 0 0 ∨ ∃ scene ∈ acceptedScenes s.history, scene.version = s.floor
  current : ∀ scene, s.lastScene = some scene → scene.sceneGeneration ≠ 0 →
    s.floor = scene.version
  next : s.nextCommitId = (s.lastScene.map fun scene => satAdd scene.commitId 1).getD 1
  positive : 0 < s.nextCommitId ∧ ∀ scene ∈ acceptedScenes s.history, 0 < scene.commitId
  growing : s.nextCommitId < u64Max →
    (∀ scene ∈ acceptedScenes s.history, scene.commitId < s.nextCommitId) ∧
      (acceptedScenes s.history).Pairwise fun newer older => older.commitId < newer.commitId

theorem acceptedScenes_recorded {scene : CommittedSceneState} (h : Recorded s scene required s') :
    acceptedScenes s'.history = scene :: acceptedScenes s.history := by
  rw [h.history]
  split_ifs
  · rfl
  · rfl

theorem Ledger.kept (h : Ledger s) (hk : SceneKept s s') : Ledger s' where
  last := by rw [hk.lastScene, hk.accepted, h.last]
  floor := by
    rw [hk.floor, hk.accepted]
    exact h.floor
  current scene hs hgen := hk.floor.trans (h.current scene (hk.lastScene ▸ hs) hgen)
  next := by rw [hk.nextCommitId, hk.lastScene, h.next]
  positive := by
    rw [hk.nextCommitId, hk.accepted]
    exact h.positive
  growing := by
    rw [hk.nextCommitId, hk.accepted]
    exact h.growing

theorem Ledger.record {scene : CommittedSceneState} (h : Ledger s)
    (hid : scene.commitId = s.nextCommitId) (hr : Recorded s scene required s') : Ledger s' where
  last := by rw [hr.lastScene, acceptedScenes_recorded hr, List.head?_cons]
  floor := by
    rw [hr.floor, acceptedScenes_recorded hr]
    split_ifs
    · exact .inr ⟨_, List.mem_cons_self, rfl⟩
    · refine h.floor.imp id fun hold => ?_
      obtain ⟨scene', hmem, hversion⟩ := hold
      exact ⟨scene', List.mem_cons_of_mem _ hmem, hversion⟩
  current scene' hs hgen := by
    obtain rfl := Option.some.inj (hr.lastScene.symm.trans hs)
    rw [hr.floor, if_pos hgen]
  next := by rw [hr.nextCommitId, hr.lastScene, Option.map_some, Option.getD_some]
  positive := by
    rw [hr.nextCommitId, acceptedScenes_recorded hr, hid, List.forall_mem_cons, hid]
    exact ⟨h.positive.1.trans_le (le_satAdd _ _), h.positive.1, h.positive.2⟩
  growing := by
    rw [hr.nextCommitId, acceptedScenes_recorded hr, hid]
    intro hlt
    have hnext : s.nextCommitId < u64Max := (le_satAdd _ _).trans_lt hlt
    obtain ⟨hbelow, hsorted⟩ := h.growing hnext
    have hstep := lt_satAdd_one hnext
    refine ⟨?_, List.pairwise_cons.mpr ⟨fun older ho => hid ▸ hbelow older ho, hsorted⟩⟩
    rw [List.forall_mem_cons, hid]
    exact ⟨hstep, fun older ho => (hbelow older ho).trans hstep⟩

theorem Ledger.restart (h : Ledger s) (epoch : Nat) (keeps : Bool) :
    Ledger (DisplayState.load epoch (startOutputs keeps) s.lastScene s.history) where
  last := h.last
  floor := by
    rw [load_floor]
    cases hs : s.lastScene with
    | none => exact .inl rfl
    | some scene => exact .inr ⟨scene, List.mem_of_head? (h.last.symm.trans hs), rfl⟩
  current scene hs _ := by
    have hlast : s.lastScene = some scene := hs
    rw [load_floor, hlast]
    rfl
  next := rfl
  positive := ⟨h.positive.1.trans_eq h.next, h.positive.2⟩
  growing hlt := by
    have hgrowing := h.growing
    rw [h.next] at hgrowing
    exact hgrowing hlt

theorem ledger_load (epoch : Nat) (keeps : Bool) :
    Ledger (DisplayState.load epoch (startOutputs keeps) none []) where
  last := rfl
  floor := .inl rfl
  current scene hs := by cases hs
  next := rfl
  positive := by
    refine ⟨Nat.one_pos, fun scene hs => ?_⟩
    cases hs
  growing _ := by
    refine ⟨fun scene hs => ?_, List.Pairwise.nil⟩
    cases hs

theorem Ledger.change (h : Ledger s) (hm : SceneChange P s s') : Ledger s' := by
  cases hm with
  | kept hk => exact h.kept hk
  | accepted c store damage source env _ _ hr => exact h.record rfl hr

namespace Server

variable {β : Type} [DisplayBackend β] {P : MovePolicy}

/-- The policy with its leave to change the registry withdrawn. -/
def closed (P : MovePolicy) : MovePolicy := { P with registry := False }

theorem handleDisplayCommand_scenes {d : Display β} {env : Env} {source : ServiceRole}
    {topologySequence : Nat} {command : DisplayCommand} (hone : SingleOutput d.state)
    (hP : CommandAllowed P d env source command) :
    SceneChanges P d.state
      (d.handleDisplayCommand env source topologySequence command).1.state := by
  have hclosed : CommandAllowed (closed P) d env source command →
      SceneChanges P d.state
        (d.handleDisplayCommand env source topologySequence command).1.state := by
    intro hcommand
    have hmoves := (handleDisplayCommand_moves d env source topologySequence command hone
      hcommand).scenes id
    refine hmoves.invariant (I := SceneChanges P d.state) (fun s s' hs hchange => hs.tail ?_) .refl
    cases hchange with
    | kept hk => exact .kept hk
    | accepted c store damage source env hacceptable hallowed hr =>
      exact .accepted c store damage source env hacceptable hallowed hr
  cases command with
  | beginReconciliation epoch => exact .single (.kept (beginReconciliation_kept d epoch).toSceneKept)
  | configureOutput geometry =>
    exact .single (.kept (pixelsKept_registry.outputCommand d _ _).toSceneKept)
  | removeOutput id generation =>
    exact .single (.kept (pixelsKept_registry.outputCommand d _ _).toSceneKept)
  | getReconciliation => exact hclosed hP
  | getOutputTopology => exact hclosed hP
  | reconcileScene epoch scene => exact hclosed hP
  | advancePresentation id generation now tick => exact hclosed hP
  | completePresentation token outcome => exact hclosed hP
  | commitScene scene => exact hclosed hP
  | getSceneSnapshot output => exact hclosed hP
  | getPresentationFeedback commitId => exact hclosed hP

/-- What a connection does to the canonical scene: nothing but accept scenes. -/
theorem client_scenes {srv : Server β} {conn : Connection}
    (hone : SingleOutput srv.display.state) (hP : StepAllowed P srv (.client conn)) :
    SceneChanges P srv.display.state (srv.step (.client conn)).display.state := by
  unfold step
  dsimp only
  split_ifs with hhalted
  · exact .refl
  have hevents := pixelsKept_registry.applyEvents conn.accepting srv.polled.1 srv.polled.2
  have hmoves := applyEvents_moves (P := anyMove) trivial conn.accepting srv.polled.1
    srv.polled.2
  unfold handleClient
  dsimp only
  split
  · rename_i he
    rw [he] at hevents
    exact .single (.kept hevents.toSceneKept)
  · rename_i srv' _ he
    rw [he] at hevents hmoves
    have hone' : SingleOutput srv'.display.state :=
      hmoves.invariant (fun _ _ h hm => h.move hm) hone
    have hkept : SceneChanges P srv.display.state srv'.display.state :=
      .single (.kept hevents.toSceneKept)
    split
    · exact hkept
    · rename_i request hrequest
      cases request with
      | subscribe epoch sequence =>
        dsimp only [handleRequest]
        rw [subscribe_display]
        exact hkept
      | command command =>
        refine hkept.trans (handleDisplayCommand_scenes hone' ?_)
        exact hP srv' command ((Bool.not_eq_true _).mp hhalted) he hrequest

/-- What holds at first, what every acceptance keeps, and what a restart keeps when
it is safe, holds throughout the runs whose restarts are safe. -/
theorem scenes_run (safe : DisplayState → Prop)
    (hinit : ∀ epoch keeps, I (DisplayState.load epoch (startOutputs keeps) none []))
    (hchange : ∀ s s', I s → SceneChange P s s' → I s') (hrestart : ∀ s epoch keeps, I s → safe s →
      I (DisplayState.load epoch (startOutputs keeps) s.lastScene s.history)) {srv : Server β}
    (h : (system β).Reach (fun srv input => StepAllowed P srv input ∧
      ((∃ epoch keeps backend, input = .restart epoch keeps backend) →
        safe srv.display.state)) srv) : I srv.display.state := by
  refine System.Reach.invariant_with (I := fun srv => I srv.display.state)
    (J := fun srv => SingleOutput srv.display.state)
    (fun srv hr => singleOutput_run trivial (Run.any hr.reachable)) ?_ ?_ h
  · rintro _ ⟨epoch, keeps, backend, rfl⟩
    exact hinit epoch keeps
  · intro srv input hone hI hgood
    cases input with
    | client conn =>
      exact (client_scenes hone hgood.1).invariant hchange hI
    | restart epoch keeps backend =>
      exact hrestart _ epoch keeps hI (hgood.2 ⟨epoch, keeps, backend, rfl⟩)

theorem ledger_reachable {srv : Server β} (h : (system β).Reachable srv) :
    Ledger srv.display.state := by
  refine scenes_run (P := anyMove) (fun _ => True) ledger_load
    (fun _ _ hl hc => hl.change hc) (fun s epoch keeps hl _ => hl.restart epoch keeps)
    (h.mono fun srv input _ => ⟨?_, fun _ => trivial⟩)
  cases input with
  | restart => trivial
  | client conn => exact fun srv' command _ _ _ => commandAllowed_freely fun _ => trivial

end Server

end TuffXwin.Displayd
