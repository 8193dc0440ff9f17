import TuffXwin.Waylandd.Frames

/-! A commit moves the callbacks and feedbacks of its surface to the pending tables; the
end of a surface takes out those that are still there. -/

namespace TuffXwin.Waylandd
open Lib WaylandWire

variable {outputs : List String} {fed rest : List Nat} {generation surfaceId : Nat}
  {interface : String} {table : PendingObjects} {object : PendingObject}
variable {ids : List Nat}

section Register

variable {clean : Bool} {client w : ProductionClient}

theorem register_eq {table' : PendingObjects} {kind field budgetOf : String} {budget : Nat}
    (h : table.register kind field budgetOf budget object = .ok table') :
    table' = table.insert (toLex (object.clientId, object.objectId))
      { object with intersectingOutputs := normalizeOutputs object.intersectingOutputs } := by
  unfold PendingObjects.register at h
  split_ifs at h
  exact (Except.ok.inj h).symm

theorem TableOk.insert (h : TableOk client interface table)
    (hclient : object.clientId = client.clientId) (hstanding : Standing client.core interface
      (.pending interface object.sceneGeneration object.intersectingOutputs) object.objectId) :
    TableOk client interface
      (table.insert (toLex (object.clientId, object.objectId)) object) := by
  intro key object' hget
  rw [OrdMap.get?_insert] at hget
  split_ifs at hget with hkey
  · obtain rfl := Option.some.inj hget
    rw [hkey, hclient]
    exact ⟨rfl, rfl, hstanding⟩
  · exact h key object' hget

/-- The client with an object's commit on record. -/
def ProductionClient.committed (client : ProductionClient) (object : PendingObject) :
    ProductionClient :=
  { client with
    core := client.core.noted
      (.committed object.objectId object.sceneGeneration object.intersectingOutputs) }

theorem ClientOk.committed (h : ClientOk clean client) (hloose : Loose client object.objectId)
    (hstanding : Standing client.core interface (.fresh interface) object.objectId) :
    Advanced clean (· = object.objectId) client (client.committed object) ∧
      Standing (client.committed object).core interface
        (.pending interface object.sceneGeneration object.intersectingOutputs)
        object.objectId := by
  have hdisplay := hstanding.notDisplay h.ok
  have hother : ∀ id, id ≠ object.objectId → ¬ Concerns id
      (.committed object.objectId object.sceneGeneration object.intersectingOutputs) :=
    fun id hid heq => hid heq.symm
  refine ⟨h.advanced hloose (h.ok.noted_committed hdisplay _ _)
    ⟨h.settled.retired, h.settled.queued⟩ (keeps_noted hother) rfl rfl rfl, ⟨hstanding.object, ?_⟩⟩
  refine (life_committed object.objectId object.sceneGeneration object.intersectingOutputs
    client.core.trace).trans ?_
  rw [hstanding.life]
  rfl

theorem Loose.withCallbacks {id : Nat} (h : Loose client id)
    (htable : ∀ key object, table.get? key = some object → object.objectId ≠ id) :
    Loose (client.withCallbacks table) id :=
  ⟨h.callbacks, h.feedbacks, htable, h.pendingFeedbacks⟩

theorem Loose.withFeedbacks {id : Nat} (h : Loose client id)
    (htable : ∀ key object, table.get? key = some object → object.objectId ≠ id) :
    Loose (client.withFeedbacks table) id :=
  ⟨h.callbacks, h.feedbacks, h.pendingCallbacks, htable⟩

theorem get?_insert_other {id : Nat}
    (h : ∀ key object, table.get? key = some object → object.objectId ≠ id)
    (hne : object.objectId ≠ id) :
    ∀ key object', (table.insert (toLex (object.clientId, object.objectId)) object).get? key =
      some object' → object'.objectId ≠ id := by
  intro key object' hget
  rw [OrdMap.get?_insert] at hget
  split_ifs at hget with hkey
  · obtain rfl := Option.some.inj hget
    exact hne
  · exact h key object' hget

/-- A commit under way: `rest` is still to be registered, and every feedback that is
pending was so before or is one of `fed`. -/
structure Registering (clean : Bool) (client : ProductionClient) (generation : Nat)
    (outputs : List String) (fed : List Nat) (interface : String) (rest : List Nat)
    (w : ProductionClient) : Prop where
  ok : ClientOk clean w
  same : SameClient client w
  hand : InHand w interface (· = .fresh interface) rest
  surfaces : w.core.surfaces = client.core.surfaces
  feedbacks : w.core.feedbacks = client.core.feedbacks
  pending : ∀ key object, w.pendingFeedbacks.get? key = some object →
    client.pendingFeedbacks.get? key = some object ∨ object.objectId ∈ fed ∧
      object.sceneGeneration = generation ∧
      object.intersectingOutputs = normalizeOutputs outputs

theorem InHand.tail {P : Life → Prop} {id : Nat} (h : InHand client interface P (id :: rest)) :
    id ∉ rest ∧ InHand client interface P rest := by
  obtain ⟨hnew, hnodup⟩ := List.nodup_cons.mp h.nodup
  exact ⟨hnew, hnodup, fun id' hid => h.loose id' (List.mem_cons_of_mem _ hid),
    fun id' hid => h.standing id' (List.mem_cons_of_mem _ hid)⟩

theorem InHand.head {id : Nat} (h : InHand client interface (· = .fresh interface) (id :: rest)) :
    Loose client id ∧ Standing client.core interface (.fresh interface) id := by
  obtain ⟨l, hl, rfl⟩ := h.standing id List.mem_cons_self
  exact ⟨h.loose id List.mem_cons_self, hl⟩

/-- The key under which an object is pending. -/
abbrev PendingObject.key (object : PendingObject) : Nat ×ₗ Nat :=
  toLex (object.clientId, object.objectId)

theorem InHand.committed (hfollowed : Followed interface)
    (h : InHand client interface (· = .fresh interface) (object.objectId :: rest))
    (hadv : Advanced clean (· = object.objectId) client (client.committed object)) :
    InHand (client.committed object) interface (· = .fresh interface) rest := by
  obtain ⟨hnew, htail⟩ := h.tail
  exact htail.advanced hfollowed hadv fun id hid heq => hnew (heq ▸ hid)

theorem Registering.callback (object : PendingObject)
    (h : Registering clean client generation outputs fed "wl_callback"
      (object.objectId :: rest) w) (hclient : object.clientId = w.clientId)
    (hsurface : clean = true → client.core.surfaces.contains object.surfaceId = true) :
    Registering clean client generation outputs fed "wl_callback" rest
      ((w.committed object).withCallbacks (w.pendingCallbacks.insert object.key object)) := by
  obtain ⟨hloose, hstanding⟩ := h.hand.head
  obtain ⟨hadv, hpending⟩ := h.ok.committed hloose hstanding
  have hok := hadv.ok
  have hhand := h.hand.committed (.inr (.inl rfl)) hadv
  refine ⟨⟨hok.ok, hok.settled, hok.uncommitted, hok.callbacks.insert hclient hpending,
    hok.feedbacks, fun hclean key object' hget => ?_⟩, h.same.trans ⟨rfl, rfl, rfl⟩,
    ⟨hhand.nodup, fun id hid => ?_, hhand.standing⟩, h.surfaces, h.feedbacks, h.pending⟩
  · change (w.pendingCallbacks.insert object.key object).get? key = some object' at hget
    rw [OrdMap.get?_insert] at hget
    split_ifs at hget with hkey
    · obtain rfl := Option.some.inj hget
      have hcontains := hsurface hclean
      rw [← h.surfaces] at hcontains
      exact hcontains
    · exact h.ok.anchored hclean key object' hget
  · have hother := hhand.loose id hid
    exact hother.withCallbacks (get?_insert_other hother.pendingCallbacks
      fun heq => h.hand.tail.1 (heq ▸ hid))

theorem Registering.feedback (object : PendingObject)
    (h : Registering clean client generation outputs fed "wp_presentation_feedback"
      (object.objectId :: rest) w) (hclient : object.clientId = w.clientId)
    (hfed : object.objectId ∈ fed) (hgeneration : object.sceneGeneration = generation)
    (houtputs : object.intersectingOutputs = normalizeOutputs outputs) :
    Registering clean client generation outputs fed "wp_presentation_feedback" rest
      ((w.committed object).withFeedbacks (w.pendingFeedbacks.insert object.key object)) := by
  obtain ⟨hloose, hstanding⟩ := h.hand.head
  obtain ⟨hadv, hpending⟩ := h.ok.committed hloose hstanding
  have hok := hadv.ok
  have hhand := h.hand.committed (.inr (.inr rfl)) hadv
  refine ⟨⟨hok.ok, hok.settled, hok.uncommitted, hok.callbacks,
    hok.feedbacks.insert hclient hpending, hok.anchored⟩, h.same.trans ⟨rfl, rfl, rfl⟩,
    ⟨hhand.nodup, fun id hid => ?_, hhand.standing⟩, h.surfaces, h.feedbacks,
    fun key object' hget => ?_⟩
  · have hother := hhand.loose id hid
    exact hother.withFeedbacks (get?_insert_other hother.pendingFeedbacks
      fun heq => h.hand.tail.1 (heq ▸ hid))
  · change (w.pendingFeedbacks.insert object.key object).get? key = some object' at hget
    rw [OrdMap.get?_insert] at hget
    split_ifs at hget with hkey
    · obtain rfl := Option.some.inj hget
      exact .inr ⟨hfed, hgeneration, houtputs⟩
    · exact h.pending key object' hget

/-- Nothing but the core is advanced, and only at the head of what is in hand. -/
theorem Registering.advanced (hfollowed : Followed interface) {id : Nat} {s : ProductionClient}
    (h : Registering clean client generation outputs fed interface (id :: rest) w)
    (hadv : Advanced clean (· = id) w s) :
    Registering clean client generation outputs fed interface rest s := by
  obtain ⟨hnew, htail⟩ := h.hand.tail
  refine ⟨hadv.ok, h.same.trans hadv.sameClient,
    htail.advanced hfollowed hadv fun id' hid heq => hnew (heq ▸ hid),
    hadv.surfaces.trans h.surfaces, hadv.feedbacks.trans h.feedbacks, fun key object hget => ?_⟩
  rw [hadv.same] at hget
  exact h.pending key object hget

theorem registerFrameCallback_spec {id : Nat}
    (h : Registering clean client generation outputs fed "wl_callback" (id :: rest) w)
    (hsurface : clean = true → client.core.surfaces.contains surfaceId = true) :
    Triple (fun s => s = w) (registerFrameCallback surfaceId generation outputs id)
      (fun _ s => Registering clean client generation outputs fed "wl_callback" rest s)
      fun s => TraceLaw clean s.core.trace := by
  refine Triple.get_bind fun s hs => ?_
  subst hs
  cases hregister : PendingFrameCallbacks.register s.pendingCallbacks
      ⟨id, s.clientId, surfaceId, generation, outputs⟩ with
  | error reason => exact Triple.throw fun t ht => ht ▸ h.ok.ok.law
  | ok table =>
    refine Triple.bind (Q := fun _ t => t = s.withCallbacks table) (Triple.set rfl) fun _ =>
      Triple.each fun t ht => onCore_triple (Triple.modify fun core hcore => ?_)
    subst ht hcore
    rw [register_eq hregister]
    exact Registering.callback ⟨id, s.clientId, surfaceId, generation, normalizeOutputs outputs⟩
      h rfl hsurface

theorem registerPresentationFeedback_spec {id : Nat}
    (h : Registering clean client generation outputs fed "wp_presentation_feedback"
      (id :: rest) w) (hfed : id ∈ fed) :
    Triple (fun s => s = w) (registerPresentationFeedback surfaceId generation outputs id)
      (fun _ s => Registering clean client generation outputs fed "wp_presentation_feedback"
        rest s)
      fun s => TraceLaw clean s.core.trace := by
  refine Triple.get_bind fun s hs => ?_
  subst hs
  obtain ⟨hloose, hstanding⟩ := h.hand.head
  refine Triple.ite (fun _ => (withdraw_step h.ok hloose hstanding rfl rfl).imp
    (fun _ t ht => h.advanced (.inr (.inr rfl)) ht) fun _ ht => ht) fun _ => ?_
  cases hregister : PendingPresentationFeedbacks.register s.pendingFeedbacks
      ⟨id, s.clientId, surfaceId, generation, outputs⟩ with
  | error reason => exact Triple.throw fun t ht => ht ▸ h.ok.ok.law
  | ok table =>
    refine Triple.bind (Q := fun _ t => t = s.withFeedbacks table) (Triple.set rfl) fun _ =>
      Triple.each fun t ht => onCore_triple (Triple.modify fun core hcore => ?_)
    subst ht hcore
    rw [register_eq hregister]
    exact Registering.feedback ⟨id, s.clientId, surfaceId, generation, normalizeOutputs outputs⟩
      h rfl hfed rfl rfl

end Register

section Take

variable {clean : Bool} {client : ProductionClient}

def ProductionClient.withCore (client : ProductionClient) (core : HeadlessWireCore) :
    ProductionClient :=
  { client with core := core }

/-- Objects that are not committed are in no table. -/
theorem ClientOk.not_pending (h : ClientOk clean client) {id : Nat}
    (hstanding : Standing client.core interface (.fresh interface) id) :
    (∀ key object, client.pendingCallbacks.get? key = some object → object.objectId ≠ id) ∧
      ∀ key object, client.pendingFeedbacks.get? key = some object → object.objectId ≠ id := by
  constructor
  · intro key object hget hid
    have hother := (h.callbacks key object hget).2.2
    rw [hid] at hother
    have hboth := hstanding.unique hother
    simp [Life.pending, Life.fresh] at hboth
  · intro key object hget hid
    have hother := (h.feedbacks key object hget).2.2
    rw [hid] at hother
    have hboth := hstanding.unique hother
    simp [Life.pending, Life.fresh] at hboth

theorem takeFrameCallbacks_spec (h : ClientOk clean client) (surfaceId : Nat) :
    let taken := takeFrameCallbacks client.core surfaceId
    ClientOk clean (client.withCore taken.2) ∧
      InHand (client.withCore taken.2) "wl_callback" (· = .fresh "wl_callback") taken.1 ∧
      (taken.1 ≠ [] → taken.2.surfaces.contains surfaceId = true) := by
  have hget : ∀ s surface, (client.core.surfaces.modify surfaceId fun surface =>
      { surface with callbacks := [] }).get? s = some surface →
      client.core.surfaces.get? s = some surface ∧ s ≠ surfaceId ∨ surface.callbacks = [] := by
    intro s surface hs
    rw [OrdMap.get?_modify] at hs
    split_ifs at hs with hself
    · obtain ⟨surface', _, rfl⟩ := Option.map_eq_some_iff.mp hs
      exact .inr rfl
    · exact .inl ⟨hs, hself⟩
  have hcontains : ∀ s, client.core.surfaces.contains s = true →
      (client.core.surfaces.modify surfaceId fun surface =>
        { surface with callbacks := [] }).contains s = true := by
    intro s hs
    obtain ⟨surface, hsurface⟩ := OrdMap.contains_iff.mp hs
    rw [OrdMap.contains_iff, OrdMap.get?_modify, hsurface]
    split_ifs
    · exact ⟨_, rfl⟩
    · exact ⟨_, rfl⟩
  have hkeeps : Keeps (fun _ => False) client.core (takeFrameCallbacks client.core surfaceId).2 :=
    fun _ _ _ _ hstanding _ => hstanding.of_same rfl rfl
  refine ⟨⟨h.ok.congr rfl rfl rfl rfl, ⟨h.settled.retired, h.settled.queued⟩,
    h.uncommitted.keeps hkeeps (fun s surface hs => (hget s surface hs).imp_left And.left)
      (fun _ _ hs => hs) (fun _ _ _ _ _ hno => hno) fun _ _ _ hno => hno,
    h.callbacks.keeps (.inr (.inl rfl)) hkeeps fun _ _ _ hno => hno,
    h.feedbacks.keeps (.inr (.inr rfl)) hkeeps fun _ _ _ hno => hno,
    fun hclean key object hobject => hcontains _ (h.anchored hclean key object hobject)⟩,
    ⟨h.uncommitted.nodup_surfaceCallbacks surfaceId, fun id hid => ?_, fun id hid => ?_⟩,
    fun hne => ?_⟩
  · obtain ⟨surface, hsurface, hmem⟩ := mem_surfaceCallbacks hid
    have hstanding := h.uncommitted.callbacks surfaceId surface id hsurface hmem
    obtain ⟨hcallbacks, hfeedbacks⟩ := h.not_pending hstanding
    refine ⟨fun s surface' hs hmem' => ?_, fun s hfeedback => ?_, hcallbacks, hfeedbacks⟩
    · cases hget s surface' hs with
      | inl hold => exact hold.2 (h.uncommitted.apart s surfaceId surface' surface id hold.1
          hsurface hmem' hmem)
      | inr hempty =>
        rw [hempty] at hmem'
        cases hmem'
    · have hboth := hstanding.unique (h.uncommitted.feedbacks id s hfeedback)
      simp at hboth
  · obtain ⟨surface, hsurface, hmem⟩ := mem_surfaceCallbacks hid
    have hstanding := h.uncommitted.callbacks surfaceId surface id hsurface hmem
    exact ⟨_, hstanding.of_same rfl rfl, rfl⟩
  · obtain ⟨id, hid⟩ := List.exists_mem_of_ne_nil _ hne
    obtain ⟨surface, hsurface, _⟩ := mem_surfaceCallbacks hid
    exact hcontains surfaceId (OrdMap.contains_iff.mpr ⟨surface, hsurface⟩)

theorem takePresentationFeedbacks_spec (h : ClientOk clean client) (surfaceId : Nat) :
    let taken := takePresentationFeedbacks client.core surfaceId
    ClientOk clean (client.withCore taken.2) ∧
      InHand (client.withCore taken.2) "wp_presentation_feedback"
        (· = .fresh "wp_presentation_feedback") taken.1 := by
  have hkeeps : Keeps (fun _ => False) client.core
      (takePresentationFeedbacks client.core surfaceId).2 :=
    fun _ _ _ _ hstanding _ => hstanding.of_same rfl rfl
  refine ⟨⟨h.ok.congr rfl rfl rfl rfl, ⟨h.settled.retired, h.settled.queued⟩,
    h.uncommitted.keeps hkeeps (fun _ _ hs => .inl hs)
      (fun _ _ hs => (OrdMap.get?_filter_eq_some.mp hs).1) (fun _ _ _ _ _ hno => hno)
      fun _ _ _ hno => hno,
    h.callbacks.keeps (.inr (.inl rfl)) hkeeps fun _ _ _ hno => hno,
    h.feedbacks.keeps (.inr (.inr rfl)) hkeeps fun _ _ _ hno => hno, h.anchored⟩,
    ⟨nodup_surfaceFeedbacks surfaceId, fun id hid => ?_, fun id hid => ?_⟩⟩
  · have hget := mem_surfaceFeedbacks.mp hid
    have hstanding := h.uncommitted.feedbacks id surfaceId hget
    obtain ⟨hcallbacks, hfeedbacks⟩ := h.not_pending hstanding
    refine ⟨fun s surface hs hmem => ?_, fun s hs => ?_, hcallbacks, hfeedbacks⟩
    · have hboth := hstanding.unique (h.uncommitted.callbacks s surface id hs hmem)
      simp at hboth
    · obtain ⟨hbefore, hne⟩ := OrdMap.get?_filter_eq_some.mp hs
      rw [hget] at hbefore
      obtain rfl := Option.some.inj hbefore
      simp at hne
  · have hstanding := h.uncommitted.feedbacks id surfaceId (mem_surfaceFeedbacks.mp hid)
    exact ⟨_, hstanding.of_same rfl rfl, rfl⟩

end Take

section Commit

variable {clean : Bool} {client : ProductionClient}

theorem registerFrameCallbacks_spec (h : ClientOk clean client)
    (hin : InHand client "wl_callback" (· = .fresh "wl_callback") ids)
    (hsurface : ids ≠ [] → client.core.surfaces.contains surfaceId = true) :
    Triple (fun w => w = client) (ids.forM (registerFrameCallback surfaceId generation outputs))
      (fun _ w => Registering clean client generation outputs [] "wl_callback" [] w)
      fun w => TraceLaw clean w.core.trace := by
  refine (Triple.forM (I := fun rest w =>
      Registering clean client generation outputs [] "wl_callback" rest w ∧
        ∀ id ∈ rest, id ∈ ids)
    fun id rest => Triple.each fun w hw => ?_).weaken (fun w hw => ?_) (fun _ _ hw => hw.1)
      fun _ hw => hw
  · obtain ⟨hregistering, hsub⟩ := hw
    have hmem := hsub id List.mem_cons_self
    exact (registerFrameCallback_spec hregistering fun _ =>
      hsurface (List.ne_nil_of_mem hmem)).imp
        (fun _ _ hs => ⟨hs, fun id' hid => hsub id' (List.mem_cons_of_mem _ hid)⟩)
        fun _ hs => hs
  · rw [hw]
    exact ⟨⟨h, ⟨rfl, rfl, rfl⟩, hin, rfl, rfl, fun _ _ hget => .inl hget⟩, fun _ hid => hid⟩

theorem registerPresentationFeedbacks_spec (h : ClientOk clean client)
    (hin : InHand client "wp_presentation_feedback" (· = .fresh "wp_presentation_feedback") ids) :
    Triple (fun w => w = client)
      (ids.forM (registerPresentationFeedback surfaceId generation outputs))
      (fun _ w => Registering clean client generation outputs ids "wp_presentation_feedback" [] w)
      fun w => TraceLaw clean w.core.trace := by
  refine (Triple.forM (I := fun rest w =>
      Registering clean client generation outputs ids "wp_presentation_feedback" rest w ∧
        ∀ id ∈ rest, id ∈ ids)
    fun id rest => Triple.each fun w hw => ?_).weaken (fun w hw => ?_) (fun _ _ hw => hw.1)
      fun _ hw => hw
  · obtain ⟨hregistering, hsub⟩ := hw
    exact (registerPresentationFeedback_spec hregistering (hsub id List.mem_cons_self)).imp
      (fun _ _ hs => ⟨hs, fun id' hid => hsub id' (List.mem_cons_of_mem _ hid)⟩)
      fun _ hs => hs
  · rw [hw]
    exact ⟨⟨h, ⟨rfl, rfl, rfl⟩, hin, rfl, rfl, fun _ _ hget => .inl hget⟩, fun _ hid => hid⟩

theorem mem_normalizeOutputs {output : String} :
    output ∈ normalizeOutputs outputs ↔ output ∈ outputs := by
  unfold normalizeOutputs
  rw [OrdSet.mem_keys_iff, OrdSet.contains_ofList]

theorem SameClient.output {client' : ProductionClient} (h : SameClient client client') :
    client'.output = client.output := by
  unfold ProductionClient.output
  rw [h.projection]

/-- Nothing that the commit's own frame would resolve wrongly, among the feedbacks pending
before it and those of its own surface. -/
def QuietCommit (client : ProductionClient) (surfaceId : Nat) (answer : CommitAnswer) : Prop :=
  ∀ generation surfaces presentation timestamp,
    answer.upserted = .ok (generation, surfaces) → answer.outcome = .ok presentation →
    Reports presentation timestamp →
    QuietFrame client generation client.output timestamp ∧
      (client.output ∈ committedOutputs client surfaces surfaceId →
        ∀ id, client.core.feedbacks.get? id = some surfaceId → timestamp = 0)

theorem Registering.quiet {base w : ProductionClient} {timestamp : Nat}
    (h : Registering clean base generation outputs fed "wp_presentation_feedback" [] w)
    (hquiet : QuietFrame base generation base.output timestamp)
    (hown : base.output ∈ outputs → ∀ id ∈ fed, timestamp = 0) :
    QuietFrame w generation w.output timestamp := by
  intro key object hget
  rw [h.same.output]
  cases h.pending key object hget with
  | inl hold => exact hquiet key object hold
  | inr hnew =>
    obtain ⟨hfed, hgeneration, houtputs⟩ := hnew
    refine ⟨by omega, fun _ hintersects => ?_⟩
    unfold PendingObject.intersects at hintersects
    rw [houtputs, List.contains_iff_mem, mem_normalizeOutputs] at hintersects
    exact hown hintersects object.objectId hfed

theorem commitSurface_spec (h : ClientOk clean client) (surfaceId : Nat) (answer : CommitAnswer)
    (hquiet : clean = true → QuietCommit client surfaceId answer) :
    Triple (fun w => w = client) (commitSurface surfaceId answer) (fun _ w => ClientOk clean w)
      fun w => TraceLaw clean w.core.trace := by
  unfold commitSurface
  cases hupserted : answer.upserted with
  | error reason => exact Triple.throw fun w hw => hw ▸ h.ok.law
  | ok upserted =>
    obtain ⟨generation, surfaces⟩ := upserted
    refine Triple.get_bind fun w hw => ?_
    subst hw
    obtain ⟨htaken, hin, hsurface⟩ := takeFrameCallbacks_spec h surfaceId
    refine Triple.bind (Q := fun _ s => s = w.withCore (takeFrameCallbacks w.core surfaceId).2)
      (Triple.set rfl) fun _ => ?_
    refine Triple.bind (registerFrameCallbacks_spec htaken hin hsurface) fun _ =>
      Triple.get_bind fun s hs => ?_
    obtain ⟨htaken', hin'⟩ := takePresentationFeedbacks_spec hs.ok surfaceId
    refine Triple.bind (Q := fun _ t => t = s.withCore
      (takePresentationFeedbacks s.core surfaceId).2) (Triple.set rfl) fun _ => ?_
    refine Triple.bind (registerPresentationFeedbacks_spec htaken' hin') fun _ =>
      Triple.each fun t ht => ?_
    cases houtcome : answer.outcome with
    | error failure =>
      cases failure with
      | recoverable reason => exact Triple.pure fun _ hu => hu ▸ ht.ok
      | fatal reason => exact Triple.throw fun _ hu => hu ▸ ht.ok.ok.law
    | ok presentation =>
      refine Triple.bind (releasePresented_spec ht.ok generation presentation
        fun hclean timestamp hreports => ?_) fun _ => Triple.modify fun u hu => ?_
      · obtain ⟨hframe, hown⟩ :=
          hquiet hclean generation surfaces presentation timestamp hupserted houtcome hreports
        have houtput : s.output = w.output :=
          SameClient.output ⟨hs.same.clientId, hs.same.projection, hs.same.observed⟩
        have hquiet' : QuietFrame s generation s.output timestamp := by
          intro key object hget
          rw [houtput]
          exact hframe key object ((hs.pending key object hget).resolve_right
            fun hnew => List.not_mem_nil hnew.1)
        refine ht.quiet hquiet' fun hmem id hid => ?_
        have hfed := mem_surfaceFeedbacks.mp hid
        rw [hs.feedbacks] at hfed
        change s.output ∈ _ at hmem
        rw [houtput] at hmem
        exact hown hmem id hfed
      · obtain ⟨hok, _⟩ := hu
        exact ⟨hok.ok, hok.settled, hok.uncommitted, hok.callbacks, hok.feedbacks, hok.anchored⟩

end Commit

end TuffXwin.Waylandd
