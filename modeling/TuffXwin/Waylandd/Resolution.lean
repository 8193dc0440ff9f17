import Mathlib.Data.List.Nodup
import TuffXwin.WaylandWire.Dispatch
import TuffXwin.Waylandd.Callbacks

/-! The pending tables of a client against the lives of its objects. An id is in one
place at a time: uncommitted in the core, pending in a table, or in the hands of the
function that resolves it. -/

namespace TuffXwin.Waylandd
open Lib WaylandWire

variable {core : HeadlessWireCore} {interface : String} {l : Life}
variable {P : Life → Prop} {ids : List Nat}
variable {gone : Nat → Prop}

/-- Every entry of a table is an object that waits for the frame of its commit. -/
def TableOk (client : ProductionClient) (interface : String) (table : PendingObjects) : Prop :=
  ∀ key object, table.get? key = some object →
    key = toLex (client.clientId, object.objectId) ∧ object.clientId = client.clientId ∧
      Standing client.core interface
        (.pending interface object.sceneGeneration object.intersectingOutputs) object.objectId

structure ClientOk (clean : Bool) (client : ProductionClient) : Prop where
  ok : CoreOk clean client.core
  settled : Settled client.core
  uncommitted : Uncommitted client.core
  callbacks : TableOk client "wl_callback" client.pendingCallbacks
  feedbacks : TableOk client "wp_presentation_feedback" client.pendingFeedbacks
  anchored : clean = true → ∀ key object, client.pendingCallbacks.get? key = some object →
    client.core.surfaces.contains object.surfaceId = true

/-- No list of the core and no table holds the id. -/
structure Loose (client : ProductionClient) (id : Nat) : Prop where
  callbacks : ∀ s surface, client.core.surfaces.get? s = some surface → id ∉ surface.callbacks
  feedbacks : ∀ s, client.core.feedbacks.get? id ≠ some s
  pendingCallbacks : ∀ key object, client.pendingCallbacks.get? key = some object →
    object.objectId ≠ id
  pendingFeedbacks : ∀ key object, client.pendingFeedbacks.get? key = some object →
    object.objectId ≠ id

/-- Programs of the core that touch only the objects in `gone`. -/
structure Advanced (clean : Bool) (gone : Nat → Prop) (client client' : ProductionClient) :
    Prop where
  same : client' = { client with core := client'.core }
  ok : ClientOk clean client'
  keeps : Keeps gone client.core client'.core
  surfaces : client'.core.surfaces = client.core.surfaces
  feedbacks : client'.core.feedbacks = client.core.feedbacks
  notification : latestNotification client'.core.trace = latestNotification client.core.trace

section Advanced

variable {clean : Bool} {gone gone' : Nat → Prop} {a b c : ProductionClient}

theorem Advanced.refl (h : ClientOk clean a) (gone : Nat → Prop) : Advanced clean gone a a :=
  ⟨rfl, h, .refl gone a.core, rfl, rfl, rfl⟩

theorem Advanced.trans (h : Advanced clean gone a b) (h' : Advanced clean gone' b c) :
    Advanced clean (fun id => gone id ∨ gone' id) a c := by
  refine ⟨?_, h'.ok, h.keeps.trans h'.keeps, h'.surfaces.trans h.surfaces,
    h'.feedbacks.trans h.feedbacks, h'.notification.trans h.notification⟩
  rw [h'.same, h.same]

theorem Advanced.mono (h : Advanced clean gone a b) (hsub : ∀ id, gone id → gone' id) :
    Advanced clean gone' a b :=
  ⟨h.same, h.ok, h.keeps.mono hsub, h.surfaces, h.feedbacks, h.notification⟩

theorem Advanced.loose (h : Advanced clean gone a b) {id : Nat} (hloose : Loose a id) :
    Loose b id := by
  rw [h.same]
  refine ⟨?_, ?_, hloose.pendingCallbacks, hloose.pendingFeedbacks⟩
  · change ∀ s surface, b.core.surfaces.get? s = some surface → _
    rw [h.surfaces]
    exact hloose.callbacks
  · change ∀ s, b.core.feedbacks.get? id ≠ some s
    rw [h.feedbacks]
    exact hloose.feedbacks

end Advanced

section Steps

variable {clean : Bool} {client : ProductionClient}

theorem TableOk.keeps {table : PendingObjects} (h : TableOk client interface table)
    (hfollowed : Followed interface) (hkeeps : Keeps gone client.core core)
    (hgone : ∀ key object, table.get? key = some object → ¬ gone object.objectId) :
    TableOk { client with core := core } interface table := by
  intro key object hget
  obtain ⟨hkey, hclient, hstanding⟩ := h key object hget
  exact ⟨hkey, hclient, hkeeps _ _ _ hfollowed hstanding (hgone key object hget)⟩

/-- The core works on objects that no place holds. -/
theorem ClientOk.withCore (h : ClientOk clean client) (hloose : ∀ id, gone id → Loose client id)
    (hok : CoreOk clean core) (hsettled : Settled core) (hkeeps : Keeps gone client.core core)
    (hsurfaces : core.surfaces = client.core.surfaces)
    (hfeedbacks : core.feedbacks = client.core.feedbacks) :
    ClientOk clean { client with core := core } := by
  refine ⟨hok, hsettled, ?_, ?_, ?_, fun hclean key object hget => ?_⟩
  · refine h.uncommitted.keeps hkeeps (fun s surface hget => .inl (hsurfaces ▸ hget))
      (fun id s hget => hfeedbacks ▸ hget) (fun s surface id hget hmem hgone => ?_)
      fun id s hget hgone => ?_
    · rw [hsurfaces] at hget
      exact (hloose id hgone).callbacks s surface hget hmem
    · rw [hfeedbacks] at hget
      exact (hloose id hgone).feedbacks s hget
  · exact h.callbacks.keeps (.inr (.inl rfl)) hkeeps
      fun key object hget hgone => (hloose _ hgone).pendingCallbacks key object hget rfl
  · exact h.feedbacks.keeps (.inr (.inr rfl)) hkeeps
      fun key object hget hgone => (hloose _ hgone).pendingFeedbacks key object hget rfl
  · change core.surfaces.contains object.surfaceId = true
    rw [hsurfaces]
    exact h.anchored hclean key object hget

theorem ClientOk.advanced (h : ClientOk clean client) {id : Nat} (hloose : Loose client id)
    (hok : CoreOk clean core) (hsettled : Settled core) (hkeeps : Keeps (· = id) client.core core)
    (hsurfaces : core.surfaces = client.core.surfaces)
    (hfeedbacks : core.feedbacks = client.core.feedbacks)
    (hnotification : latestNotification core.trace = latestNotification client.core.trace) :
    Advanced clean (· = id) client { client with core := core } := by
  have hself : ∀ id', id' = id → Loose client id' := fun id' hid => hid ▸ hloose
  exact ⟨rfl, h.withCore hself hok hsettled hkeeps hsurfaces hfeedbacks, hkeeps, hsurfaces,
    hfeedbacks, hnotification⟩

/-- A program of the core, from the state of the client. -/
theorem onCore_triple {m : CoreM PUnit} {Q : PUnit → ProductionClient → Prop}
    {E : ProductionClient → Prop}
    (h : Triple (fun core => core = client.core) m
      (fun a core => Q a { client with core := core }) fun core => E { client with core := core }) :
    Triple (fun w => w = client) (onCore m) Q E := by
  intro w hw
  subst hw
  have hresult := h w.core rfl
  unfold onCore
  cases hrun : m w.core with
  | ok value core =>
    rw [hrun] at hresult
    exact hresult
  | error error core =>
    rw [hrun] at hresult
    exact hresult

theorem deliverTerminal_spec {event : WaylandMessage} {object : WireObject}
    (hobject : core.registry.objects.get? event.header.objectId = some object)
    (hrange : event.header.objectId ≤ u32Max) :
    Triple (fun c => c = core) (deliverTerminal event) (fun _ c => Delivered core event c)
      fun c => Delivered core event c := by
  refine Triple.bind (Q := fun _ c => c = core.noted (.sent event))
    (Triple.modify fun c hc => hc ▸ rfl) fun _ => ?_
  have hobject' : (core.noted (.sent event)).registry.objects.get? event.header.objectId =
      some object := hobject
  refine Triple.bind ((destroyObject_spec hobject').imp (fun _ _ hc => hc)
    fun _ hc => hc.elim) fun _ => ?_
  refine (deliverDeleteId_spec _ hrange).imp (fun _ c hc => ?_) fun c hc => ?_
  · rw [hc]
    refine ⟨rfl, fun id hid => ?_, fun id hid => ?_, rfl, rfl, ⟨rfl, rfl⟩, rfl⟩
    · obtain ⟨hne, hbefore⟩ := acknowledged_retired hid
      change (if event.header.objectId < firstServerId ∧ event.header.objectId ≠ displayId then
        core.registry.retiredPendingDelete.insert event.header.objectId ()
        else core.registry.retiredPendingDelete).contains id = true at hbefore
      split_ifs at hbefore
      · exact (OrdSet.contains_insert.mp hbefore).resolve_left hne
      · exact hbefore
    · obtain ⟨u, hu⟩ := OrdMap.contains_iff.mp hid
      change (core.registry.queuedDeleteIds.erase event.header.objectId).get? id = some u at hu
      rw [OrdMap.get?_erase] at hu
      split_ifs at hu
      exact OrdMap.contains_iff.mpr ⟨u, hu⟩
  · rw [hc.2]
    refine ⟨rfl, fun id hid => ?_, fun id hid => hid, rfl, rfl, ⟨rfl, rfl⟩, rfl⟩
    have hnot := hc.1
    change (if event.header.objectId < firstServerId ∧ event.header.objectId ≠ displayId then
        core.registry.retiredPendingDelete.insert event.header.objectId ()
        else core.registry.retiredPendingDelete).contains event.header.objectId = false at hnot
    change (if event.header.objectId < firstServerId ∧ event.header.objectId ≠ displayId then
        core.registry.retiredPendingDelete.insert event.header.objectId ()
        else core.registry.retiredPendingDelete).contains id = true at hid
    split_ifs at hnot hid
    · rw [OrdSet.contains_insert.mpr (.inl rfl)] at hnot
      cases hnot
    · exact hid

theorem deliver_step (h : ClientOk clean client) (event : WaylandMessage)
    (hloose : Loose client event.header.objectId)
    (hstanding : Standing client.core interface l event.header.objectId) (hnone : l.terminals = 0)
    (hterminal : IsTerminal l.interface event.header.opcode)
    (hmay : MayBeSent clean l client.core.trace event) :
    Triple (fun w => w = client) (onCore (deliverTerminal event))
      (fun _ w => Advanced clean (· = event.header.objectId) client w)
      fun w => TraceLaw clean w.core.trace := by
  obtain ⟨object, hobject, _⟩ := hstanding.object
  have hdisplay := hstanding.notDisplay h.ok
  have hrange := h.ok.range _ object hobject
  refine onCore_triple ((deliverTerminal_spec hobject hrange).imp (fun _ core hd => ?_)
    fun core hd => ?_)
  · exact h.advanced hloose
      (h.ok.delivered hd hobject hdisplay hstanding.life hnone hterminal hmay)
      (hd.settled h.settled) (hd.keeps h.ok hrange hdisplay) hd.surfaces hd.feedbacks
      hd.notification
  · exact (h.ok.delivered hd hobject hdisplay hstanding.life hnone hterminal hmay).law

/-- A note about one object leaves the others as they are. -/
theorem keeps_noted {action : WireAction} {id : Nat}
    (hother : ∀ id', id' ≠ id → ¬ Concerns id' action) : Keeps (· = id) core (core.noted action) :=
  fun _ _ id' _ hstanding hid => hstanding.of_same rfl (life_other (hother id' hid) core.trace)

theorem withdraw_step (h : ClientOk clean client) {id : Nat} (hloose : Loose client id)
    (hstanding : Standing client.core "wp_presentation_feedback" l id)
    (hinterface : l.interface = "wp_presentation_feedback") (hnone : l.terminals = 0) :
    Triple (fun w => w = client) (onCore (withdrawFeedback id))
      (fun _ w => Advanced clean (· = id) client w) fun w => TraceLaw clean w.core.trace := by
  obtain ⟨object, hobject, _⟩ := hstanding.object
  have hdisplay := hstanding.notDisplay h.ok
  have hrange := h.ok.range _ object hobject
  have hok := h.ok.noted_withdrawn hdisplay
  have hlife : life id (client.core.noted (.withdrawn id)).trace =
      some { l with withdrawn := true } := by
    change life id (.withdrawn id :: client.core.trace) = _
    rw [life_withdrawn, hstanding.life]
    rfl
  have hother : ∀ id', id' ≠ id → ¬ Concerns id' (.withdrawn id) :=
    fun id' hid heq => hid heq.symm
  have hdelivered : ∀ core, Delivered (client.core.noted (.withdrawn id)) (encodeEvent id 2 []) core →
      CoreOk clean core := fun core hd =>
    hok.delivered hd hobject hdisplay hlife hnone (.inr ⟨hinterface, .inr rfl⟩) (.inl rfl)
  refine onCore_triple (Triple.bind (Q := fun _ c => c = client.core.noted (.withdrawn id))
    (Triple.modify fun c hc => hc ▸ rfl) fun _ => ?_)
  have hobject' : (client.core.noted (.withdrawn id)).registry.objects.get?
      (encodeEvent id 2 []).header.objectId = some object := hobject
  refine (deliverTerminal_spec hobject' hrange).imp
    (fun _ core hd => ?_) fun core hd => (hdelivered core hd).law
  refine h.advanced hloose (hdelivered core hd) (hd.settled ⟨h.settled.retired, h.settled.queued⟩)
    ?_ hd.surfaces hd.feedbacks (hd.notification.trans rfl)
  exact ((keeps_noted hother).trans (hd.keeps hok hrange hdisplay)).mono
    fun id' hid => hid.elim (fun heq => heq) fun heq => heq

/-- The terminal event is written, the id is not released. -/
theorem leak_step (h : ClientOk false client) (event : WaylandMessage)
    (hloose : Loose client event.header.objectId)
    (hstanding : Standing client.core interface l event.header.objectId) (hnone : l.terminals = 0)
    (hterminal : IsTerminal l.interface event.header.opcode)
    (hmay : MayBeSent false l client.core.trace event) :
    Triple (fun w => w = client) (onCore (write event))
      (fun _ w => Advanced false (· = event.header.objectId) client w) fun _ => False := by
  obtain ⟨object, hobject, _⟩ := hstanding.object
  have hdisplay := hstanding.notDisplay h.ok
  have hother : ∀ id', id' ≠ event.header.objectId → ¬ Concerns id' (.sent event) := by
    intro id' hid hconcerns
    simp only [Concerns, deletedId_terminal hdisplay, reduceCtorEq, or_false] at hconcerns
    exact hid hconcerns.symm
  refine onCore_triple (Triple.modify fun core hcore => ?_)
  subst hcore
  exact h.advanced hloose (h.ok.leaked hobject hdisplay hstanding.life hnone hterminal hmay)
    ⟨h.settled.retired, h.settled.queued⟩ (keeps_noted hother) rfl rfl rfl

/-- A callback is dropped without an event. -/
theorem drop_step (h : ClientOk false client) {id : Nat} (hloose : Loose client id)
    (hstanding : Standing client.core "wl_callback" l id) :
    Triple (fun w => w = client) (onCore (note (.dropped id)))
      (fun _ w => Advanced false (· = id) client w) fun _ => False := by
  obtain ⟨object, hobject, hinterface⟩ := hstanding.object
  have hother : ∀ id', id' ≠ id → ¬ Concerns id' (.dropped id) := fun id' hid heq => hid heq.symm
  refine onCore_triple (Triple.modify fun core hcore => ?_)
  subst hcore
  exact h.advanced hloose (h.ok.noted_dropped hobject hinterface (hstanding.notDisplay h.ok))
    ⟨h.settled.retired, h.settled.queued⟩ (keeps_noted hother) rfl rfl rfl

/-- Objects in hand, to be resolved one after the other. -/
structure InHand (client : ProductionClient) (interface : String) (P : Life → Prop)
    (ids : List Nat) : Prop where
  nodup : ids.Nodup
  loose : ∀ id ∈ ids, Loose client id
  standing : ∀ id ∈ ids, ∃ l, Standing client.core interface l id ∧ P l

theorem InHand.advanced {client' : ProductionClient} (h : InHand client interface P ids)
    (hfollowed : Followed interface) (hadv : Advanced clean gone client client')
    (hgone : ∀ id ∈ ids, ¬ gone id) : InHand client' interface P ids where
  nodup := h.nodup
  loose id hid := hadv.loose (h.loose id hid)
  standing id hid := by
    obtain ⟨l, hl, hP⟩ := h.standing id hid
    exact ⟨l, hadv.keeps _ _ _ hfollowed hl (hgone id hid), hP⟩

/-- A loop over the objects in hand, each step of which touches its own object only. -/
theorem advance_forM (h : ClientOk clean client) (hfollowed : Followed interface)
    (hin : InHand client interface P ids) {f : Nat → ClientM PUnit}
    (hf : ∀ id w l, ClientOk clean w → Loose w id → Standing w.core interface l id → P l →
      latestNotification w.core.trace = latestNotification client.core.trace →
      Triple (fun s => s = w) (f id) (fun _ s => Advanced clean (· = id) w s)
        fun s => TraceLaw clean s.core.trace) :
    Triple (fun w => w = client) (ids.forM f)
      (fun _ w => Advanced clean (· ∈ ids) client w) fun w => TraceLaw clean w.core.trace := by
  refine (Triple.forM (I := fun rest w => Advanced clean (· ∈ ids) client w ∧
      InHand w interface P rest ∧ ∀ id ∈ rest, id ∈ ids)
    fun id rest => Triple.each fun w hw => ?_).weaken (fun w hw => ?_) (fun _ _ hw => hw.1)
      fun _ hw => hw
  · obtain ⟨hadv, hrest, hsub⟩ := hw
    obtain ⟨hnew, hnodup⟩ := List.nodup_cons.mp hrest.nodup
    obtain ⟨l, hl, hP⟩ := hrest.standing id List.mem_cons_self
    have htail : InHand w interface P rest :=
      ⟨hnodup, fun id' hid => hrest.loose id' (List.mem_cons_of_mem _ hid),
        fun id' hid => hrest.standing id' (List.mem_cons_of_mem _ hid)⟩
    refine (hf id w l hadv.ok (hrest.loose id List.mem_cons_self) hl hP hadv.notification).imp
      (fun _ s hs => ⟨?_, ?_, fun id' hid => hsub id' (List.mem_cons_of_mem _ hid)⟩)
      fun _ hs => hs
    · refine (hadv.trans hs).mono fun id' hid => ?_
      exact hid.elim (fun hmem => hmem) fun heq => heq ▸ hsub id List.mem_cons_self
    · exact htail.advanced hfollowed hs fun id' hid heq => hnew (heq ▸ hid)
  · rw [hw]
    exact ⟨.refl h _, hin, fun _ hid => hid⟩

end Steps

end TuffXwin.Waylandd
