import TuffXwin.Waylandd.Pending

/-! The turns of a client's loop, and what holds after any number of them. Two rules are
shown side by side: what every run keeps, and what a run keeps in which no turn leaves an
object behind. -/

namespace TuffXwin.Waylandd
open Lib WaylandWire

variable {message : WaylandMessage} {client : ProductionClient}
variable {opcode : Nat} {core : HeadlessWireCore} {answer : CommitAnswer} {clean : Bool}

section Drop

variable {clean : Bool} {client : ProductionClient}

theorem withoutSurface_eq (table : PendingObjects) (clientId surfaceId : Nat) :
    table.withoutSurface clientId surfaceId = table.filter fun _ object =>
      !decide (object.clientId = clientId ∧ object.surfaceId = surfaceId) := by
  unfold PendingObjects.withoutSurface
  simp only [decide_not]

theorem dropFrameCallbacks_spec (h : ClientOk clean client) (surfaceId : Nat)
    (hnone : clean = true → ∀ key object, client.pendingCallbacks.get? key = some object →
      object.surfaceId ≠ surfaceId) :
    Triple (fun w => w = client) (dropFrameCallbacks surfaceId) (fun _ w => ClientOk clean w)
      fun w => TraceLaw clean w.core.trace := by
  refine Triple.get_bind fun w hw => ?_
  subst hw
  obtain ⟨htaken, hin⟩ := h.take_callbacks fun object =>
    decide (object.clientId = w.clientId ∧ object.surfaceId = surfaceId)
  refine Triple.bind (Q := fun _ s => s = w.withCallbacks (w.pendingCallbacks.filter
    fun _ object => !decide (object.clientId = w.clientId ∧ object.surfaceId = surfaceId)))
    (Triple.set (congrArg w.withCallbacks (withoutSurface_eq _ _ _))) fun _ => ?_
  cases clean with
  | true =>
    have hempty : (w.pendingCallbacks.ofSurface w.clientId surfaceId).objectIds = [] := by
      rw [List.eq_nil_iff_forall_not_mem]
      intro id hid
      obtain ⟨key, object, hget, rfl⟩ := mem_objectIds.mp hid
      obtain ⟨hbefore, hsurface⟩ := OrdMap.get?_filter_eq_some.mp hget
      rw [decide_eq_true_eq] at hsurface
      exact hnone rfl key object hbefore hsurface.2
    rw [hempty]
    exact Triple.pure fun s hs => by rw [hs]; exact htaken
  | false =>
    refine (advance_forM htaken (.inr (.inl rfl)) hin fun id s l hok hloose hstanding _ _ =>
      (drop_step hok hloose hstanding).imp (fun _ _ hs => hs) fun _ hs => hs.elim).imp
        (fun _ s hs => hs.ok) fun _ hs => hs

theorem dropPresentationFeedbacks_spec (h : ClientOk clean client) (surfaceId : Nat) :
    Triple (fun w => w = client) (dropPresentationFeedbacks surfaceId)
      (fun _ w => ClientOk clean w) fun w => TraceLaw clean w.core.trace := by
  refine Triple.get_bind fun w hw => ?_
  subst hw
  obtain ⟨htaken, hin⟩ := h.take_feedbacks
    (fun object => decide (object.clientId = w.clientId ∧ object.surfaceId = surfaceId))
    fun _ => true
  simp only [Bool.and_true] at hin
  refine Triple.bind (Q := fun _ s => s = w.withFeedbacks (w.pendingFeedbacks.filter
    fun _ object => !decide (object.clientId = w.clientId ∧ object.surfaceId = surfaceId)))
    (Triple.set (congrArg w.withFeedbacks (withoutSurface_eq _ _ _))) fun _ => ?_
  refine (advance_forM htaken (.inr (.inr rfl)) hin fun id s l hok hloose hstanding hP _ => ?_).imp
    (fun _ s hs => hs.ok) fun _ hs => hs
  obtain ⟨key, object, _, _, rfl⟩ := hP
  exact withdraw_step hok hloose hstanding rfl rfl

theorem dropSurface_spec (h : ClientOk clean client) (surfaceId : Nat) (isSurfaceDestroy : Bool)
    (hnone : clean = true → ∀ key object, client.pendingCallbacks.get? key = some object →
      object.surfaceId ≠ surfaceId) :
    Triple (fun w => w = client) (dropSurface surfaceId isSurfaceDestroy)
      (fun _ w => ClientOk clean w) fun w => TraceLaw clean w.core.trace := by
  refine Triple.bind (dropFrameCallbacks_spec h surfaceId hnone) fun _ =>
    Triple.each fun w hw => ?_
  exact Triple.ite (fun _ => dropPresentationFeedbacks_spec hw surfaceId) fun _ =>
    Triple.pure fun s hs => by rw [hs]; exact hw

end Drop

section Turn

variable {clean : Bool} {client : ProductionClient}

theorem isSurfaceRequest_iff :
    client.isSurfaceRequest message opcode = true ↔
      ∃ object, client.core.registry.objects.get? message.header.objectId = some object ∧
        object.interface = "wl_surface" ∧ message.header.opcode = opcode := by
  unfold ProductionClient.isSurfaceRequest
  cases client.core.registry.objects.get? message.header.objectId with
  | none => simp
  | some object => simp

/-- The message destroys no surface with an object that waits, and reports no frame that
resolves a feedback wrongly. -/
structure CleanMessage (client : ProductionClient) (message : WaylandMessage)
    (answer : CommitAnswer) : Prop where
  callbacks : client.isSurfaceRequest message 0 = true →
    ∀ key object, client.pendingCallbacks.get? key = some object →
      object.surfaceId ≠ message.header.objectId
  feedbacks : client.isSurfaceRequest message 0 = true →
    ∀ id surface, client.core.feedbacks.get? id = some surface →
      surface ≠ message.header.objectId
  commit : client.isSurfaceRequest message 6 = true →
    QuietCommit client message.header.objectId answer

theorem isSurfaceRequest_of_destroyed {object : WireObject} {s : Nat}
    (hobject : client.core.registry.objects.get? message.header.objectId = some object)
    (hdestroyed : destroyedSurface object message = some s) :
    client.isSurfaceRequest message 0 = true ∧ s = message.header.objectId := by
  unfold destroyedSurface at hdestroyed
  split_ifs at hdestroyed with hsurface
  exact ⟨isSurfaceRequest_iff.mpr ⟨object, hobject, hsurface⟩, (Option.some.inj hdestroyed).symm⟩

theorem TableOk.pending {interface : String} {table : PendingObjects}
    (h : TableOk client interface table) (hawaits : AwaitsFrame interface)
    (hkeeps : KeepsPending client.core core) : TableOk (client.withCore core) interface table := by
  intro key object hget
  obtain ⟨hkey, hclient, hstanding⟩ := h key object hget
  exact ⟨hkey, hclient, hkeeps interface _ _ _ hawaits hstanding⟩

theorem onDispatch_spec (h : ClientOk clean client) (effect : OtherEffect)
    (hclean : clean = true → CleanMessage client message answer) :
    Triple (fun w => w = client) (onCore (dispatch message effect 0))
      (fun _ w => ∃ core, w = client.withCore core ∧ Dispatched clean client.core message core ∧
        (client.isSurfaceRequest message 6 = true → core.feedbacks = client.core.feedbacks))
      fun w => TraceLaw clean w.core.trace := by
  have hfeedbacks : clean = true → ∀ object id s,
      client.core.registry.objects.get? message.header.objectId = some object →
      client.core.feedbacks.get? id = some s → destroyedSurface object message ≠ some s := by
    intro hc object id s hobject hget hdestroyed
    obtain ⟨hrequest, rfl⟩ := isSurfaceRequest_of_destroyed hobject hdestroyed
    exact (hclean hc).feedbacks hrequest id _ hget rfl
  have hkept : Triple (fun c => c = client.core) (dispatch message effect 0)
      (fun _ c => client.isSurfaceRequest message 6 = true →
        c.feedbacks = client.core.feedbacks) fun _ => True := by
    by_cases hcommit : client.isSurfaceRequest message 6 = true
    · obtain ⟨object, hobject, hsurface, hopcode⟩ := isSurfaceRequest_iff.mp hcommit
      exact (dispatch_commit_feedbacks h.ok hobject hsurface hopcode effect 0).imp
        (fun _ _ hs _ => hs) fun _ hs => hs
    · intro s _
      split
      · exact fun h => absurd h hcommit
      · trivial
  have hdispatch := (dispatch_spec h.ok h.settled h.uncommitted message effect 0 hfeedbacks).and
    hkept
  exact onCore_triple (hdispatch.imp (fun _ core hs => ⟨core, rfl, hs⟩) fun _ hs => hs.1.law)

theorem onFlush_spec (h : ClientOk clean client)
    (hdispatched : Dispatched clean client.core message core)
    (hclean : clean = true → CleanMessage client message answer) :
    Triple (fun w => w = client.withCore core) (onCore flushEvents)
      (fun _ w => ClientOk clean w ∧ ∃ core', w = client.withCore core' ∧
        core'.feedbacks = core.feedbacks)
      fun w => TraceLaw clean w.core.trace := by
  refine onCore_triple ((flushEvents_spec hdispatched.ok hdispatched.flushable).imp
    (fun _ core' hs => ⟨⟨hs.1.ok, hs.2, hs.1.uncommitted hdispatched.uncommitted, ?_, ?_, ?_⟩,
      core', rfl, hs.1.feedbacks⟩) fun _ hs => hs.law)
  · exact (h.callbacks.pending (.inl rfl) hdispatched.keeps).pending (.inl rfl) hs.1.pending
  · exact (h.feedbacks.pending (.inr rfl) hdispatched.keeps).pending (.inr rfl) hs.1.pending
  · intro hc key object hget
    change core'.surfaces.contains object.surfaceId = true
    rw [hs.1.surfaces]
    refine (hdispatched.surfaces _ (h.anchored hc key object hget)).resolve_right ?_
    rintro ⟨object', hobject', hdestroyed⟩
    obtain ⟨hrequest, heq⟩ := isSurfaceRequest_of_destroyed hobject' hdestroyed
    exact (hclean hc).callbacks hrequest key object hget heq

theorem handleMessage_spec (h : ClientOk clean client) (message : WaylandMessage)
    (effect : OtherEffect) (answer : CommitAnswer)
    (hclean : clean = true → CleanMessage client message answer) :
    Triple (fun w => w = client) (handleMessage message effect answer)
      (fun _ w => ClientOk clean w) fun w => TraceLaw clean w.core.trace := by
  refine Triple.get_bind fun w hw => ?_
  subst hw
  refine Triple.bind (onDispatch_spec h effect hclean) fun _ => Triple.each fun s hs => ?_
  obtain ⟨core, rfl, hdispatched, hsame⟩ := hs
  refine Triple.bind (onFlush_spec h hdispatched hclean) fun _ => Triple.each fun s hs => ?_
  obtain ⟨hok, core', rfl, hfeedbacks⟩ := hs
  have hcommit : clean = true → w.isSurfaceRequest message 6 = true →
      QuietCommit (w.withCore core') message.header.objectId answer := by
    intro hc hrequest generation surfaces presentation timestamp hupserted houtcome hreports
    obtain ⟨hframe, hown⟩ := (hclean hc).commit hrequest generation surfaces presentation
      timestamp hupserted houtcome hreports
    refine ⟨hframe, fun hmem id hid => hown hmem id ?_⟩
    change core'.feedbacks.get? id = _ at hid
    rw [hfeedbacks, hsame hrequest] at hid
    exact hid
  have hgone : ∀ s, ClientOk clean s → Triple (fun s' => s' = s) (do
      let after ← get
      if after.core.surfaces.contains message.header.objectId then pure ⟨⟩
      else dropSurface message.header.objectId (w.isSurfaceRequest message 0))
      (fun _ s => ClientOk clean s) fun s => TraceLaw clean s.core.trace := by
    intro s hs
    refine Triple.get_bind fun t ht => ?_
    subst ht
    refine Triple.ite (fun _ => Triple.pure fun u hu => by rw [hu]; exact hs) fun habsent => ?_
    refine dropSurface_spec hs _ _ fun hc key object hget hsurface => habsent ?_
    rw [← hsurface]
    exact hs.anchored hc key object hget
  refine Triple.ite (fun hrequest => ?_) fun _ => hgone _ hok
  exact Triple.bind (commitSurface_spec hok _ answer fun hc => hcommit hc hrequest) fun _ =>
    Triple.each hgone

/-- A frame reported to the client resolves no feedback wrongly. -/
def QuietReport (client : ProductionClient) (generation : Nat) (event : DisplayEvent) : Prop :=
  ∀ timestamp, Reports event timestamp →
    QuietFrame client generation client.output timestamp

/-- A frame is reported, and remembered as seen. -/
theorem reported_spec (h : ClientOk clean client) (generation : Nat) (event : DisplayEvent)
    (observe : ProductionClient → Nat)
    (hclean : clean = true → QuietReport client generation event) :
    Triple (fun w => w = client) (do
      releasePresented generation event
      modify fun w => { w with lastObservedPresentationGeneration := observe w })
      (fun _ w => ClientOk clean w) fun w => TraceLaw clean w.core.trace := by
  refine Triple.bind (releasePresented_spec h generation event hclean) fun _ =>
    Triple.modify fun w hw => ?_
  obtain ⟨hok, _⟩ := hw
  exact ⟨hok.ok, hok.settled, hok.uncommitted, hok.callbacks, hok.feedbacks, hok.anchored⟩

/-- The turns that leave no object behind. -/
def Clean (client : ProductionClient) : ClientInput → Prop
  | .message message _ answer => CleanMessage client message answer
  | .retried (.success generation event) => QuietReport client generation event
  | .shared generation event =>
    client.lastObservedPresentationGeneration < generation → QuietReport client generation event
  | _ => True

theorem handleInput_spec (h : ClientOk clean client) (input : ClientInput)
    (hclean : clean = true → Clean client input) :
    Triple (fun w => w = client) (handleInput input) (fun _ w => ClientOk clean w)
      fun w => TraceLaw clean w.core.trace := by
  cases input with
  | message message effect answer => exact handleMessage_spec h message effect answer hclean
  | retried outcome =>
    cases outcome with
    | success generation event => exact reported_spec h generation event _ hclean
    | fatal reason => exact Triple.throw fun w hw => hw ▸ h.ok.law
    | recoverable => exact Triple.pure fun w hw => by rw [hw]; exact h
    | notDue => exact Triple.pure fun w hw => by rw [hw]; exact h
  | shared generation event =>
    refine Triple.get_bind fun w hw => ?_
    subst hw
    refine Triple.ite (fun _ => Triple.pure fun s hs => by rw [hs]; exact h) fun hnewer => ?_
    exact reported_spec h generation event _ fun hc => hclean hc (Nat.lt_of_not_le hnewer)
  | topology projection =>
    refine Triple.modify fun w hw => ?_
    subst hw
    exact ⟨h.ok, h.settled, h.uncommitted, h.callbacks, h.feedbacks, h.anchored⟩
  | close => exact Triple.throw fun w hw => hw ▸ h.ok.law

end Turn

/-- What a client keeps, its connection open or closed. -/
structure Lawful (clean : Bool) (client : ProductionClient) : Prop where
  law : TraceLaw clean client.core.trace
  ok : client.closed = false → ClientOk clean client

theorem Lawful.step (h : Lawful clean client) (input : ClientInput)
    (hclean : clean = true → Clean client input) : Lawful clean (client.step input) := by
  unfold ProductionClient.step
  cases hclosed : client.closed with
  | true =>
    rw [if_pos rfl]
    exact h
  | false =>
    have hturn := handleInput_spec (h.ok hclosed) input hclean client rfl
    rw [if_neg Bool.false_ne_true]
    cases hrun : handleInput input client with
    | ok value client' =>
      rw [hrun] at hturn
      exact ⟨hturn.ok.law, fun _ => hturn⟩
    | error failure client' =>
      rw [hrun] at hturn
      exact ⟨hturn, fun hopen => by cases hopen⟩

theorem clientOk_initial (clean : Bool) (clientId : Nat) :
    ClientOk clean { clientId := clientId } := by
  have hobjects : ∀ id object, ({} : WireObjectRegistry).objects.get? id = some object →
      id = displayId ∧ object.interface = "wl_display" := by
    intro id object hget
    change (OrdMap.empty.insert displayId _).get? id = some object at hget
    rw [OrdMap.get?_insert] at hget
    split_ifs at hget with hid
    · obtain rfl := Option.some.inj hget
      exact ⟨hid, rfl⟩
    · cases hget
  refine ⟨⟨⟨rfl, rfl⟩, fun object hget => (hobjects _ object hget).2, rfl,
    fun id object hget => ?_, fun id object hget hid => absurd (hobjects id object hget).1 hid,
    fun id l _ hl => (by cases hl), fun id hid => (by cases hid), fun id hid => (by cases hid),
    trivial⟩, ⟨fun _ => rfl, fun _ => rfl⟩, ⟨fun s surface hget => (by cases hget),
    fun s surface id hget => (by cases hget), fun s s' surface surface' id hget => (by cases hget),
    fun id s hget => (by cases hget)⟩, fun key object hget => (by cases hget),
    fun key object hget => (by cases hget), fun _ key object hget => (by cases hget)⟩
  rw [(hobjects id object hget).1]
  decide

namespace ProductionClient

theorem lawful {clientId : Nat}
    (h : (system clientId).Reach (fun w input => clean = true → Clean w input) client) :
    Lawful clean client :=
  h.invariant (fun w hw => by
    rw [hw]
    exact ⟨(clientOk_initial clean clientId).ok.law, fun _ => clientOk_initial clean clientId⟩)
    fun _ input hw hclean => hw.step input hclean

/-- Where no turn leaves an object behind, what is over is released, and its id is free. -/
theorem resolved_released {clientId : Nat} {client : ProductionClient}
    (h : (system clientId).Reach Clean client) :
    TraceLaw true client.core.trace ∧ (client.closed = false → ∀ id l,
      life id client.core.trace = some l → l.Ended → ∀ interface version, ∃ registry,
        client.core.registry.registerClientObject id interface version = .ok registry) := by
  have hlawful : Lawful true client := lawful (h.mono fun _ _ hclean _ => hclean)
  refine ⟨hlawful.law, fun hopen id l hl hended interface version => ?_⟩
  have hok := hlawful.ok hopen
  have hdisplay : id ≠ displayId := by
    intro hid
    rw [hid, hok.ok.unborn] at hl
    cases hl
  have hdead : client.core.registry.objects.get? id = none := by
    cases hobject : client.core.registry.objects.get? id with
    | none => rfl
    | some object =>
      obtain ⟨l', hl', _, _, _, _, hquiet⟩ := hok.ok.alive id object hobject hdisplay
      obtain rfl := Option.some.inj (hl'.symm.trans hl)
      exact absurd hended (hquiet (.inl rfl)).not_ended
  refine ⟨_, if_neg ?_⟩
  rw [hok.settled.retired id]
  simp [hdisplay, OrdMap.contains, hdead]

/-- A request of client 7 that reports no frame. -/
def request (objectId opcode : Nat) (payload : List UInt8) (made : List (Nat × String × Nat)) :
    ClientInput :=
  .message (.new objectId opcode payload) ⟨made, []⟩ ⟨.error "", .error (.recoverable "")⟩

/-- A commit of its surface 3. -/
def commitOf (generation : Nat) (outcome : Except CommitProductionSceneError DisplayEvent) :
    ClientInput :=
  .message (.new 3 6 []) {}
    ⟨.ok (generation, [{ id := "client-7-surface-3", placement := ⟨0, 0, 10, 10, 0, true⟩ }]),
      outcome⟩

/-- On one output the client makes its surface and binds the presentation global, 6. -/
def setUp : List ClientInput :=
  [.topology (OrdMap.empty.insert "HDMI-A-1"
      ⟨⟨"HDMI-A-1", 100, 100, 0, 0, 0, 0, 0⟩, 60, 1, 0, true, "HDMI-A-1", ""⟩),
    request 1 1 [] [(2, "wl_registry", 1)],
    request 2 0 [] [(4, "wl_compositor", 4), (6, "wp_presentation", 1)],
    request 4 0 (writeU32 3) []]

/-- The client after its set-up and more inputs. -/
def afterSetUp (inputs : List ClientInput) : ProductionClient :=
  (system 7).run { clientId := 7 } (setUp ++ inputs)

theorem clean_request {objectId : Nat} {payload : List UInt8} {made : List (Nat × String × Nat)}
    (h : client.isSurfaceRequest (.new objectId opcode payload) 0 = false) :
    Clean client (request objectId opcode payload made) := by
  refine ⟨fun hdestroy => ?_, fun hdestroy => ?_, ?_⟩
  · rw [h] at hdestroy
    cases hdestroy
  · rw [h] at hdestroy
    cases hdestroy
  · intro _ generation surfaces presentation timestamp hupserted
    cases hupserted

theorem reach_setUp : (system 7).Reach Clean (afterSetUp []) := by
  have hinit : (system 7).Reach Clean { clientId := 7 } := .init rfl
  have hdesk := System.Reach.next (setUp.head (by decide)) hinit trivial
  exact .next _ (.next _ (.next _ hdesk (clean_request (by decide +kernel)))
    (clean_request (by decide +kernel))) (clean_request (by decide +kernel))

/-- A frame is clean where no feedback waits. -/
theorem clean_commitOf {generation : Nat} {outcome : Except CommitProductionSceneError DisplayEvent}
    (h : client.isSurfaceRequest (.new 3 6 []) 0 = false)
    (hpending : client.pendingFeedbacks.entries = []) (hcore : client.core.feedbacks.entries = []) :
    Clean client (commitOf generation outcome) := by
  refine ⟨fun hdestroy => ?_, fun hdestroy => ?_,
    fun _ _ _ _ _ _ _ _ => ⟨fun key object hget => ?_, fun _ id hget => ?_⟩⟩
  · rw [h] at hdestroy
    cases hdestroy
  · rw [h] at hdestroy
    cases hdestroy
  · have hmem := OrdMap.mem_entries.mpr hget
    rw [hpending] at hmem
    cases hmem
  · have hmem := OrdMap.mem_entries.mpr hget
    rw [hcore] at hmem
    cases hmem

/-- A callback that is done by the frame of its own commit. -/
theorem resolved_released_done :
    let client := afterSetUp [request 3 3 (writeU32 5) [],
      commitOf 1 (.ok (.framePresented 1 33 16666666 1 0))]
    TraceLaw true client.core.trace ∧ (client.closed = false → ∀ id l,
      life id client.core.trace = some l → l.Ended → ∀ interface version, ∃ registry,
        client.core.registry.registerClientObject id interface version = .ok registry) := by
  intro client
  have hframe : (system 7).Reach Clean (afterSetUp [request 3 3 (writeU32 5) []]) :=
    .next _ reach_setUp (clean_request (by decide +kernel))
  have hclean : Clean (afterSetUp [request 3 3 (writeU32 5) []])
      (commitOf 1 (.ok (.framePresented 1 33 16666666 1 0))) :=
    clean_commitOf (by decide +kernel) (by decide +kernel) (by decide +kernel)
  exact resolved_released (.next _ hframe hclean)

/-- Feedback 8 is discarded by a later frame, callback 9 goes with its surface: neither is
destroyed, no `delete_id` is sent, and the ids stay taken. -/
theorem discarded_keeps_id :
    let client := afterSetUp [request 6 1 (writeU32 3 ++ writeU32 8) [],
      commitOf 1 (.error (.recoverable "")), .shared 2 (.framePresented 2 33 16666666 2 0),
      request 3 3 (writeU32 9) [], commitOf 3 (.error (.recoverable "")), request 3 0 [] []]
    (system 7).Reachable client ∧ client.closed = false ∧
      life 8 client.core.trace = some
        { interface := "wp_presentation_feedback", committed := some (1, ["HDMI-A-1"]),
          terminals := 1 } ∧
      life 9 client.core.trace = some
        { interface := "wl_callback", committed := some (3, ["HDMI-A-1"]), dropped := true } ∧
      ¬ TraceLaw true client.core.trace := by
  intro client
  have hlife : life 8 client.core.trace = some
      { interface := "wp_presentation_feedback", committed := some (1, ["HDMI-A-1"]),
        terminals := 1 } := by
    decide +kernel
  refine ⟨System.Reachable.run (.init rfl) _, by decide +kernel, hlife, by decide +kernel,
    fun hlaw => ?_⟩
  have hreleased := hlaw.released rfl 8 _ hlife (.inl rfl)
  simp at hreleased

end ProductionClient

end TuffXwin.Waylandd
