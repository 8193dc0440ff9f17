import TuffXwin.Displayd.Backends
import TuffXwin.Displayd.Ledger
import TuffXwin.Displayd.Runtimes

/-! The resident pixel store and the last scene. Every acceptance rebuilds the
store for the scene it takes over, and nothing else touches either; only a scene
taken over in the recovering mode without payloads, or reloaded from disk, may
name payloads the store does not hold. -/

namespace TuffXwin.Displayd
open Lib

variable {s s' : DisplayState} {c : SceneCommit} {source : ServiceRole} {env : Env}
  {replay : Option Nat} {excused : Bool}
variable {topologySequence : Nat} {command : DisplayCommand}
variable {store : DisplayPixelTransportStore} {damage : OrdMap String (List RendererRect)}

/-- The store belongs to the last scene and its accounts are right. -/
structure Resident (s : DisplayState) : Prop where
  consistent : s.pixelTransport.Consistent
  referenced : ∀ h p, s.pixelTransport.lookup h = some p →
    ∃ scene, s.lastScene = some scene ∧ ∃ surface ∈ scene.surfaces,
      surface.pixelTransport = some h
  bytes : s.pixelTransport.totalBytes =
    (s.pixelTransport.payloads.values.map (·.pixels.length)).sum
  count : s.pixelTransport.payloads.size ≤ maxScenePixelPayloads
  budget : s.pixelTransport.totalBytes ≤ maxScenePixelBytes
  stored : StoredPayloads s.pixelTransport

/-- Every payload the last scene names is there. -/
def PayloadsPresent (s : DisplayState) : Prop :=
  ∀ scene, s.lastScene = some scene → ∀ surface ∈ scene.surfaces, ∀ h,
    surface.pixelTransport = some h → ∃ p, s.pixelTransport.lookup h = some p

/-- A prepared store has nothing older than what it is asked for. -/
def NeverOlder (store : DisplayPixelTransportStore) : Prop :=
  ∀ surfaces incoming allowMissing store',
    store.preparedForSceneWithPolicy surfaces incoming allowMissing = .ok store' →
    ∀ surface ∈ surfaces, ∀ h, surface.pixelTransport = some h →
      (∀ p, store'.lookup h = some p → p.handle = h) ∧
        ∀ old p, store.lookup old = some p → old.clientId = h.clientId →
          old.surfaceId = h.surfaceId → generationKey old ≤ generationKey h

theorem Resident.neverOlder (h : Resident s) : NeverOlder s.pixelTransport := by
  intro surfaces incoming allowMissing store' hprepared surface hsurface handle hhandle
  refine ⟨fun p hp => DisplayPixelTransportStore.prepared_keyed hprepared hp, ?_⟩
  intro old p hold hclient hid
  rw [h.consistent.lookup] at hold
  exact (DisplayPixelTransportStore.prepared_accounted hprepared).newest surface hsurface handle
    hhandle old p hold hclient hid

/-- What taking a scene over makes of the scene and the store. -/
structure TakenOver (s : DisplayState) (c : SceneCommit) (replay : Option Nat)
    (s' : DisplayState) : Prop where
  admissible : AdmissibleScene c
  store : s.pixelTransport.preparedForSceneWithPolicy c.surfaces c.pixelPayloads
    (allowMissingTransport s c) = .ok s'.pixelTransport
  scene : ∃ scene, s'.lastScene = some scene ∧ scene.surfaces = c.surfaces
  replayed : replay.isSome → ∃ scene, s.lastScene = some scene ∧ scene.surfaces = c.surfaces

theorem TakenOver.resident (h : Resident s) (ht : TakenOver s c replay s') : Resident s' := by
  have hspec := DisplayPixelTransportStore.prepared_spec h.consistent ht.admissible.named ht.store
  have haccount := DisplayPixelTransportStore.prepared_accounted ht.store
  obtain ⟨scene, hscene, hsurfaces⟩ := ht.scene
  refine ⟨hspec.consistent, fun handle p hp => ⟨scene, hscene, ?_⟩, haccount.bytes,
    haccount.count, haccount.budget, fun handle p hp => ?_⟩
  · rw [hspec.consistent.lookup] at hp
    rw [hsurfaces]
    exact haccount.referenced handle p hp
  · cases hspec.source handle p hp with
    | inl hincoming =>
      obtain ⟨hwell, hlen⟩ := ht.admissible.payloads p hincoming.1
      exact ⟨hwell, hlen⟩
    | inr hold => exact h.stored handle p hold

/-- A scene taken over with its payloads, or replayed over one that had them, has them. -/
theorem TakenOver.present (h : Resident s) (ht : TakenOver s c replay s')
    (hexcuse : allowMissingTransport s c = false ∨ (replay.isSome ∧ PayloadsPresent s)) :
    PayloadsPresent s' := by
  have hspec := DisplayPixelTransportStore.prepared_spec h.consistent ht.admissible.named ht.store
  obtain ⟨scene, hscene, hsurfaces⟩ := ht.scene
  intro scene' hscene' surface hsurface handle hhandle
  obtain rfl := Option.some.inj (hscene.symm.trans hscene')
  rw [hsurfaces] at hsurface
  cases hallow : allowMissingTransport s c with
  | false => exact hspec.present hallow surface hsurface handle hhandle
  | true =>
    cases hexcuse with
    | inl hfalse => rw [hallow] at hfalse; cases hfalse
    | inr hold =>
      obtain ⟨old, hold_scene, hold_surfaces⟩ := ht.replayed hold.1
      obtain ⟨p, hp⟩ := hold.2 old hold_scene surface (hold_surfaces ▸ hsurface) handle hhandle
      have hempty : c.pixelPayloads = [] := by
        unfold allowMissingTransport at hallow
        rw [Bool.and_eq_true] at hallow
        exact List.isEmpty_iff.mp hallow.2
      refine ⟨p, hspec.keep handle p hp ⟨surface, hsurface, hhandle⟩ fun q hq => ?_⟩
      rw [hempty] at hq
      cases hq

theorem TakenOver.accept {recorded : DisplayState} (h : Acceptable s c none store damage)
    (hr : (reboundFor s c damage).recordCommit
      (committedScene c source s.nextCommitId env) env = .ok recorded) :
    TakenOver s c none
      (applyAcceptance recorded c s.nextCommitId store damage (requiredFor s c damage)) where
  admissible := h.admissible
  store := by
    rw [(accept_committed store hr).pixelTransport]
    exact (prepareScene_ok h.prepared).store
  scene := ⟨_, (accept_recorded store hr).lastScene, rfl⟩
  replayed hsome := by cases hsome

theorem TakenOver.hydrate {commitId : Nat} (h : Acceptable s c (some commitId) store damage) :
    TakenOver s c (some commitId)
      (applyAcceptance (reboundFor s c damage) c commitId store damage
        (requiredFor s c damage)) := by
  obtain ⟨existing, hreplayed, _⟩ := replayDecision_some h.decision
  have hsame := hreplayed.same
  unfold sameSceneIdentity at hsame
  have hsurfaces : existing.surfaces = c.surfaces := (of_decide_eq_true hsame).2.2.2.1
  have hlast := (hydrate_frame s c commitId store damage (requiredFor s c damage)).1
  refine ⟨h.admissible, ?_, ⟨existing, hlast.trans hreplayed.last, hsurfaces⟩,
    fun _ => ⟨existing, hreplayed.last, hsurfaces⟩⟩
  rw [(hydrate_committed s c commitId store damage).pixelTransport]
  exact (prepareScene_ok h.prepared).store

/-- What the acceptance path does with a scene whose replay decision is known. -/
inductive Disposed (s : DisplayState) (c : SceneCommit) (replay : Option Nat) :
    DisplayState × Except Fault DisplayEvent → Prop
  | down (s' : DisplayState) (kept : PixelsKept s s') (result : Except Fault DisplayEvent)
      (uncommitted : ¬ IsCommitted result) : Disposed s c replay (s', result)
  | took (s' : DisplayState) (taken : TakenOver s c replay s')
      (result : Except Fault DisplayEvent) (committed : IsCommitted result) :
      Disposed s c replay (s', result)

theorem reboundFor_kept (s : DisplayState) (c : SceneCommit)
    (damage : OrdMap String (List RendererRect)) : PixelsKept s (reboundFor s c damage) := by
  rw [reboundFor, rebind_frame]
  exact ⟨⟨rfl, rfl, rfl, rfl⟩, rfl⟩

theorem commitPrepared_disposed (h : Acceptable s c replay store damage) :
    Disposed s c replay (commitPrepared s c source env replay store damage) := by
  unfold commitPrepared
  dsimp only
  split
  · exact .down _ (reboundFor_kept s c damage) _ id
  · split
    · exact .down _ (reboundFor_kept s c damage) _ id
    · rename_i recorded hrecorded
      cases replay with
      | none => exact .took _ (.accept h hrecorded) _ trivial
      | some commitId =>
        obtain rfl := Except.ok.inj hrecorded
        exact .took _ (.hydrate h) _ trivial

theorem acceptCanonical_disposed (source : ServiceRole) (env : Env)
    (h : replayDecision s c = .proceed replay) :
    Disposed s c replay (acceptCanonical s c source env) := by
  unfold acceptCanonical
  split
  · exact .down _ (.refl s) _ id
  · rename_i usage husage
    split
    · exact .down _ (.refl s) _ id
    · rename_i hstale
      rw [h]
      dsimp only
      split
      · exact .down _ (.refl s) _ id
      · rename_i store damage hprepared
        exact commitPrepared_disposed ⟨validateSceneAdmission_ok.mp ⟨usage, husage⟩,
          (Bool.not_eq_true _).mp hstale, h, hprepared⟩

theorem acceptCanonical_answered {event : DisplayEvent} (h : replayDecision s c = .answer event) :
    (acceptCanonical s c source env).1 = s := by
  unfold acceptCanonical
  split
  · rfl
  · split
    · rfl
    · rw [h]

instance (result : Except Fault DisplayEvent) : Decidable (IsCommitted result) := by
  unfold IsCommitted
  split
  · exact isTrue trivial
  · exact isFalse id

/-- Whether the missing payloads of the last scene are excused after a scene was submitted:
a scene taken over decides it anew, a replay only removes the excuse. -/
def excusedAfter (s : DisplayState) (c : SceneCommit) (source : ServiceRole) (env : Env)
    (excused : Bool) : Bool :=
  match replayDecision s c with
  | .answer _ => excused
  | .proceed replay =>
    if IsCommitted (acceptCanonical s c source env).2 then
      allowMissingTransport s c && (replay.isNone || excused)
    else excused

/-- The invariant of the store, with the excuse of the last scene. -/
structure Held (s : DisplayState) (excused : Bool) : Prop where
  resident : Resident s
  present : excused = false → PayloadsPresent s

theorem Held.kept (h : Held s excused) (hk : PixelsKept s s') : Held s' excused where
  resident :=
    { consistent := hk.pixelTransport ▸ h.resident.consistent
      referenced := by
        rw [hk.pixelTransport, hk.lastScene]
        exact h.resident.referenced
      bytes := hk.pixelTransport ▸ h.resident.bytes
      count := hk.pixelTransport ▸ h.resident.count
      budget := hk.pixelTransport ▸ h.resident.budget
      stored := hk.pixelTransport ▸ h.resident.stored }
  present hexcused := by
    unfold PayloadsPresent
    rw [hk.pixelTransport, hk.lastScene]
    exact h.present hexcused

theorem Held.accept (h : Held s excused) :
    Held (acceptCanonical s c source env).1 (excusedAfter s c source env excused) := by
  unfold excusedAfter
  cases hdecision : replayDecision s c with
  | answer event =>
    rw [acceptCanonical_answered hdecision]
    exact h
  | proceed replay =>
    have hdisposed := acceptCanonical_disposed source env hdecision
    generalize acceptCanonical s c source env = result at hdisposed ⊢
    cases hdisposed with
    | down s' hkept result hdown =>
      dsimp only
      rw [if_neg hdown]
      exact h.kept hkept
    | took s' htaken result hcommitted =>
      dsimp only
      rw [if_pos hcommitted]
      refine ⟨htaken.resident h.resident, fun hexcused => htaken.present h.resident ?_⟩
      rw [Bool.and_eq_false_iff, Bool.or_eq_false_iff] at hexcused
      refine hexcused.imp id fun hreplay => ⟨?_, h.present hreplay.2⟩
      rw [← Option.not_isNone, hreplay.1]
      rfl

theorem held_load (epoch : Nat) (keeps : Bool) (lastScene : Option CommittedSceneState)
    (history : List DisplayEffect) (excused : Bool)
    (h : excused = false → ∀ scene, lastScene ≠ some scene) :
    Held (DisplayState.load epoch (startOutputs keeps) lastScene history) excused where
  resident :=
    { consistent := .default
      referenced := fun h p hp => by cases hp
      bytes := rfl
      count := Nat.zero_le _
      budget := Nat.zero_le _
      stored := fun h p hp => by cases hp }
  present hexcused scene hscene := absurd hscene (h hexcused scene)

/-- The scene a command submits to the acceptance path. -/
def commandScene {β : Type} (d : Display β) : DisplayCommand → Option SceneCommit
  | .commitScene c => some (canonicalCommit c)
  | .reconcileScene epoch c =>
    if epoch = d.state.displayEpoch then some (canonicalCommit c) else none
  | _ => none

/-- The moves of commands that neither submit a scene nor touch the registry. -/
def unsubmitting : MovePolicy :=
  { freely False with accept := fun _ _ _ _ _ => False }

theorem Move.pixels (hm : Move unsubmitting s s') : PixelsKept s s' := by
  cases hm with
  | refuse _ _ => exact reboundFor_kept ..
  | accept _ hp _ => exact absurd hp id
  | hydrate _ hp => exact absurd hp id
  | quiet _ => exact ⟨⟨rfl, rfl, rfl, rfl⟩, rfl⟩
  | submitFailed _ _ _ => exact ⟨⟨rfl, rfl, rfl, rfl⟩, rfl⟩
  | submit _ => exact ⟨⟨rfl, rfl, rfl, rfl⟩, rfl⟩
  | present _ _ => exact presentOutput_kept ..
  | fail _ _ => exact ⟨⟨rfl, rfl, rfl, rfl⟩, rfl⟩
  | connect hreg _ => exact absurd hreg id
  | disable hreg => exact absurd hreg id
  | drop hreg => exact absurd hreg id
  | retireAll => exact ⟨⟨rfl, rfl, rfl, rfl⟩, rfl⟩
  | clearFeedbacks => exact ⟨⟨rfl, rfl, rfl, rfl⟩, rfl⟩
  | clearOutputs hreg => exact absurd hreg id
  | bookkeeping hc =>
    refine ⟨⟨hc.lastScene, ?_, hc.nextCommitId, by rw [hc.history]⟩, hc.pixelTransport⟩
    rw [DisplayState.floor, DisplayState.floor, hc.lastSceneEpoch, hc.lastSceneGeneration]
  | restart hreg => exact absurd hreg id

theorem Moves.pixels (h : Moves unsubmitting s s') : PixelsKept s s' :=
  h.invariant (I := PixelsKept s) (fun _ _ hk hm => hk.trans hm.pixels) (.refl s)

section Commands

variable {β : Type} [DisplayBackend β]
variable {d : Display β}

theorem handleDisplayCommand_kept (hone : SingleOutput d.state)
    (hnone : commandScene d command = none) :
    PixelsKept d.state
      (d.handleDisplayCommand env source topologySequence command).1.state := by
  cases command with
  | getReconciliation => exact .refl _
  | getOutputTopology => exact .refl _
  | beginReconciliation epoch => exact beginReconciliation_kept d epoch
  | reconcileScene epoch c =>
    have hepoch : epoch ≠ d.state.displayEpoch := by
      intro heq
      rw [commandScene, if_pos heq] at hnone
      cases hnone
    dsimp only [Display.handleDisplayCommand]
    rw [Display.reconcileScene, if_pos hepoch]
    exact .refl _
  | advancePresentation id generation now tick =>
    exact (advanceAndPublish_moves d env id generation now tick
      (.of_submission (fun _ _ _ _ _ _ _ _ => ⟨trivial, trivial⟩) _ _ _)).pixels
  | completePresentation token outcome =>
    exact (finishBackendCompletion_moves d env token outcome
      fun _ _ => ⟨fun _ _ => trivial, fun _ => trivial⟩).pixels
  | configureOutput geometry => exact pixelsKept_registry.outputCommand d _ _
  | removeOutput id generation => exact pixelsKept_registry.outputCommand d _ _
  | commitScene c => cases hnone
  | getSceneSnapshot output => exact .refl _
  | getPresentationFeedback commitId =>
    exact (getPresentationFeedback_moves d env commitId hone fun _ _ _ _ _ _ _ =>
      .of_submission (fun _ _ _ _ _ _ _ _ => ⟨trivial, trivial⟩) _ _ _).pixels

theorem handleDisplayCommand_accepts (hsome : commandScene d command = some c) :
    PixelsKept (acceptCanonical d.state c source env).1
      (d.handleDisplayCommand env source topologySequence command).1.state := by
  cases command with
  | commitScene scene =>
    obtain rfl := Option.some.inj hsome
    exact .refl _
  | reconcileScene epoch scene =>
    simp only [commandScene] at hsome
    split_ifs at hsome with hepoch
    obtain rfl := Option.some.inj hsome
    dsimp only [Display.handleDisplayCommand]
    rw [Display.reconcileScene, if_neg (not_not.mpr hepoch)]
    have haccept : (d.acceptScene env source scene).1.state =
        (acceptCanonical d.state (canonicalCommit scene) source env).1 := rfl
    rw [← haccept]
    split
    · rename_i hd
      rw [hd]
      exact .refl _
    · rename_i hd
      rw [hd]
      exact ⟨⟨rfl, rfl, rfl, rfl⟩, rfl⟩
    · rename_i hd
      rw [hd]
      exact .refl _
  | _ => cases hsome

end Commands

namespace Server

variable {β : Type} [DisplayBackend β]
variable {srv : Server β}

/-- The excuse after a step: a restart grants it, a submitted scene decides it. -/
def excusedBy (srv : Server β) (excused : Bool) : Input β → Bool
  | .restart .. => true
  | .client conn =>
    if srv.halted then excused
    else
      match applyEvents conn.accepting srv.polled.1 srv.polled.2, conn.request with
      | (srv, .ok _), some (.command command) =>
        match commandScene srv.display command with
        | none => excused
        | some c => excusedAfter srv.display.state c conn.source conn.env excused
      | _, _ => excused

/-- displayd with the excuse of its last scene carried along. -/
def excusing (β : Type) [DisplayBackend β] : System (Server β × Bool) (Input β) where
  init p := (system β).init p.1 ∧ p.2 = false
  next p input := (p.1.step input, p.1.excusedBy p.2 input)

theorem excusing_fst {p : Server β × Bool} (h : (excusing β).Reachable p) :
    (system β).Reachable p.1 := by
  induction h with
  | init h => exact .init h.1
  | next i _ _ ih => exact .next i ih trivial

/-- Every state of displayd is one of the states with an excuse. -/
theorem excusing_exists (h : (system β).Reachable srv) :
    ∃ excused, (excusing β).Reachable (srv, excused) := by
  induction h with
  | init h => exact ⟨false, .init ⟨h, rfl⟩⟩
  | next i _ _ ih =>
    obtain ⟨excused, hr⟩ := ih
    exact ⟨_, .next i hr trivial⟩

theorem held_client {conn : Connection} (hone : SingleOutput srv.display.state)
    (h : Held srv.display.state excused) :
    Held (srv.step (.client conn)).display.state (srv.excusedBy excused (.client conn)) := by
  unfold step excusedBy
  dsimp only
  split_ifs with hhalted
  · exact h
  have hevents := pixelsKept_registry.applyEvents conn.accepting srv.polled.1 srv.polled.2
  have hmoves := applyEvents_moves (P := anyMove) trivial conn.accepting srv.polled.1
    srv.polled.2
  unfold handleClient
  dsimp only
  cases he : applyEvents conn.accepting srv.polled.1 srv.polled.2 with
  | mk srv' result =>
    rw [he] at hevents hmoves
    cases result with
    | error fault => exact h.kept hevents
    | ok _ =>
      have hone' : SingleOutput srv'.display.state :=
        hmoves.invariant (fun _ _ h hm => h.move hm) hone
      have hheld := h.kept hevents
      dsimp only at hheld hone'
      cases hrequest : conn.request with
      | none => exact hheld
      | some request =>
        cases request with
        | subscribe epoch sequence =>
          dsimp only [handleRequest]
          rw [subscribe_display]
          exact hheld
        | command command =>
          dsimp only [handleRequest]
          cases hscene : commandScene srv'.display command with
          | none => exact hheld.kept (handleDisplayCommand_kept hone' hscene)
          | some c => exact hheld.accept.kept (handleDisplayCommand_accepts hscene)

theorem held_reachable (h : (excusing β).Reachable (srv, excused)) :
    Held srv.display.state excused := by
  refine System.Reach.invariant_with
    (I := fun p : Server β × Bool => Held p.1.display.state p.2)
    (J := fun p => SingleOutput p.1.display.state)
    (fun p hr => singleOutput_run trivial (Run.any (excusing_fst hr))) ?_ ?_ h
  · rintro ⟨_, _⟩ ⟨⟨epoch, keeps, backend, rfl⟩, rfl⟩
    exact held_load epoch keeps none [] false fun _ _ hnone => by cases hnone
  · rintro ⟨srv, excused⟩ input hone hI _
    cases input with
    | client conn => exact held_client hone hI
    | restart epoch keeps backend =>
      exact held_load epoch keeps _ _ true fun hfalse => by cases hfalse

theorem storedPayloads_reachable (h : (system β).Reachable srv) :
    StoredPayloads srv.display.state.pixelTransport := by
  obtain ⟨excused, hexcusing⟩ := excusing_exists h
  exact (held_reachable hexcusing).resident.stored

/-- The resident pixel store belongs to the last scene, over every run. -/
theorem resident_store {srv : Server β} {excused : Bool}
    (h : (excusing β).Reachable (srv, excused)) :
    Resident srv.display.state ∧ (excused = false → PayloadsPresent srv.display.state) ∧
      NeverOlder srv.display.state.pixelTransport := by
  have hheld := held_reachable h
  exact ⟨hheld.resident, hheld.present, hheld.resident.neverOlder⟩

def pixelPayload (sceneGeneration : Nat) : PixelTransportPayload where
  handle := ⟨1, "surface-1", 1, sceneGeneration⟩
  pixels := [0, 0, 0, 0]
  width := 1
  height := 1
  stride := 4
  format := wlShmFormatXrgb8888

/-- The scene of one surface, with its pixels. -/
def drawnScene (sceneEpoch sceneGeneration : Nat) : SceneCommit :=
  { pixelScene sceneEpoch sceneGeneration with
    surfaces := [{
      id := "surface-1"
      placement := ⟨0, 0, 1, 1, 0, true⟩
      pixelTransport := some (pixelPayload sceneGeneration).handle }]
    pixelPayloads := [pixelPayload sceneGeneration] }

def drawnServer : Server MockDisplayBackend :=
  serve .production [.command (.commitScene (drawnScene 1 1))]

/-- A scene taken over with its payloads is there with them. -/
theorem resident_store_drawn :
    drawnServer.display.state.reconciliationState ≠ .recovering ∧
      PayloadsPresent drawnServer.display.state := by
  have hinit : (excusing MockDisplayBackend).init (start 1 false .production none [], false) :=
    ⟨⟨1, false, .production, rfl⟩, rfl⟩
  have hr : (excusing MockDisplayBackend).Reachable (drawnServer, false) :=
    .next (.client { request := some (.command (.commitScene (drawnScene 1 1))) })
      (.init hinit) trivial
  exact ⟨by decide, (resident_store hr).2.1 rfl⟩

/-- A restart reloads the scene without its payloads, though it was accepted with them
and not in the recovering mode. -/
theorem restart_forgets_payloads :
    let srv := drawnServer.step (.restart 2 false .production);
    (system MockDisplayBackend).Reachable srv ∧
      (drawnScene 1 1).pixelPayloads ≠ [] ∧
      drawnServer.display.state.reconciliationState ≠ .recovering ∧
      srv.display.state.lastScene = drawnServer.display.state.lastScene ∧
      (drawnServer.display.state.lastScene.map (·.surfaces)) =
        some (drawnScene 1 1).surfaces ∧
      ¬ PayloadsPresent srv.display.state := by
  have hr : (system MockDisplayBackend).Reachable
      (drawnServer.step (.restart 2 false .production)) :=
    .next (.restart 2 false MockDisplayBackend.production) (serve_reachable _ _) trivial
  refine ⟨hr, by decide, by decide, rfl, by decide, ?_⟩
  intro hpresent
  have hscene : ∃ scene, drawnServer.display.state.lastScene = some scene ∧
      ∃ surface ∈ scene.surfaces, surface.pixelTransport = some (pixelPayload 1).handle :=
    ⟨_, rfl, _, List.mem_singleton_self _, rfl⟩
  obtain ⟨scene, hlast, surface, hsurface, hhandle⟩ := hscene
  obtain ⟨p, hp⟩ := hpresent scene hlast surface hsurface _ hhandle
  cases hp

end Server

end TuffXwin.Displayd
