import TuffXwin.WaylandWire.Core

/-! The life of an object id, from one registration to the next, read off what the
registry and the stream saw. The core keeps its registry in step with these lives. -/

namespace TuffXwin.WaylandWire
open Lib

variable {core : HeadlessWireCore} {action : WireAction} {clean : Bool} {trace : List WireAction}
  {object : WireObject}
variable {event : WaylandMessage}

/-- The events after which a frame callback or a feedback is over. -/
def IsTerminal (interface : String) (opcode : Nat) : Prop :=
  interface = "wl_callback" ∧ opcode = 0 ∨
    interface = "wp_presentation_feedback" ∧ (opcode = 1 ∨ opcode = 2)

instance (interface : String) (opcode : Nat) : Decidable (IsTerminal interface opcode) := by
  unfold IsTerminal
  infer_instance

def deletedId (message : WaylandMessage) : Option Nat :=
  if message.header.objectId = displayId ∧ message.header.opcode = 1 then
    some (readU32 message.payload)
  else none

/-- What happened to an object since its id was registered. -/
structure Life where
  interface : String
  committed : Option (Nat × List String) := none
  withdrawn : Bool := false
  dropped : Bool := false
  terminals : Nat := 0
  destroyed : Nat := 0
  deleted : Nat := 0
  deriving DecidableEq, Repr

variable {l : Life}

def Life.record (id : Nat) (l : Life) : WireAction → Life
  | .registered _ _ => l
  | .destroyed id' => if id' = id then { l with destroyed := l.destroyed + 1 } else l
  | .sent message =>
    match deletedId message with
    | some id' => if id' = id then { l with deleted := l.deleted + 1 } else l
    | none =>
      if message.header.objectId = id ∧ IsTerminal l.interface message.header.opcode then
        { l with terminals := l.terminals + 1 }
      else l
  | .committed id' generation outputs =>
    if id' = id then { l with committed := some (generation, outputs) } else l
  | .withdrawn id' => if id' = id then { l with withdrawn := true } else l
  | .dropped id' => if id' = id then { l with dropped := true } else l
  | .notified _ _ _ => l

def Life.next (id : Nat) (action : WireAction) (l : Option Life) : Option Life :=
  match action with
  | .registered id' interface => if id' = id then some { interface := interface } else l
  | action => l.map fun l => l.record id action

def life (id : Nat) (trace : List WireAction) : Option Life := trace.foldr (Life.next id) none

theorem life_cons (id : Nat) (action : WireAction) (trace : List WireAction) :
    life id (action :: trace) = Life.next id action (life id trace) := rfl

def Concerns (id : Nat) : WireAction → Prop
  | .registered id' _ => id' = id
  | .destroyed id' => id' = id
  | .sent message => message.header.objectId = id ∨ deletedId message = some id
  | .committed id' _ _ => id' = id
  | .withdrawn id' => id' = id
  | .dropped id' => id' = id
  | .notified _ _ _ => False

theorem record_other {id : Nat} (h : ¬ Concerns id action) (l : Life) : l.record id action = l := by
  cases action with
  | registered id' interface => rfl
  | destroyed id' => exact if_neg h
  | sent message =>
    simp only [Concerns, not_or] at h
    simp only [Life.record]
    cases hdeleted : deletedId message with
    | some id' =>
      rw [hdeleted, Option.some.injEq] at h
      exact if_neg h.2
    | none =>
      simp only [h.1, false_and, if_false]
  | committed id' generation outputs => exact if_neg h
  | withdrawn id' => exact if_neg h
  | dropped id' => exact if_neg h
  | notified generation output timestamp => rfl

theorem life_other {id : Nat} (h : ¬ Concerns id action) (trace : List WireAction) :
    life id (action :: trace) = life id trace := by
  rw [life_cons]
  have hmap : (life id trace).map (fun l => l.record id action) = life id trace := by
    simp only [record_other h, Option.map_id_fun', id_eq]
  cases action with
  | registered id' interface => exact if_neg h
  | destroyed id' => exact hmap
  | sent message => exact hmap
  | committed id' generation outputs => exact hmap
  | withdrawn id' => exact hmap
  | dropped id' => exact hmap
  | notified generation output timestamp => exact hmap

/-- The frame waylandd was told of last: its generation, output and timestamp. -/
def latestNotification (trace : List WireAction) : Option (Nat × String × Nat) :=
  trace.findSome? fun
    | .notified generation output timestamp => some (generation, output, timestamp)
    | _ => none

/-- The timestamp in a `presented` event: seconds in two words, then nanoseconds. -/
def presentedTimestamp (payload : List UInt8) : Nat :=
  (readU32 payload * 4294967296 + readU32 (payload.drop 4)) * 1000000000 +
    readU32 (payload.drop 8)

/-- The frame told last, and the commit of the object. -/
def ShownAs (l : Life) (trace : List WireAction)
    (shows : Nat → Nat → Prop) (time : Nat → Prop) : Prop :=
  ∃ generation output timestamp commit outputs,
    latestNotification trace = some (generation, output, timestamp) ∧
    l.committed = some (commit, outputs) ∧ shows commit generation ∧ output ∈ outputs ∧
    time timestamp

/-- Why a terminal event may be sent: a callback is done by a frame not older than its
commit, a feedback is presented by the very frame of its commit, and discarded otherwise.
`exact` asks for the timestamp of that frame, too. -/
def MayBeSent (exactTime : Bool) (l : Life) (trace : List WireAction)
    (message : WaylandMessage) : Prop :=
  if message.header.opcode = 0 then ShownAs l trace (· ≤ ·) fun _ => True
  else if message.header.opcode = 1 then
    ShownAs l trace (· = ·) fun timestamp =>
      exactTime = true → presentedTimestamp message.payload = timestamp
  else
    l.withdrawn = true ∨
      ∃ generation output timestamp commit outputs,
        latestNotification trace = some (generation, output, timestamp) ∧
        l.committed = some (commit, outputs) ∧ ¬ (commit = generation ∧ output ∈ outputs)

def Justified (exactTime : Bool) : List WireAction → Prop
  | [] => True
  | .sent message :: earlier =>
    (∀ l, life message.header.objectId earlier = some l →
      IsTerminal l.interface message.header.opcode → MayBeSent exactTime l earlier message) ∧
      Justified exactTime earlier
  | _ :: earlier => Justified exactTime earlier

/-- The object had its terminal event, or lost its place in a table without one. -/
def Life.Ended (l : Life) : Prop := l.terminals = 1 ∨ l.dropped = true

def Life.Quiet (l : Life) : Prop := l.terminals = 0 ∧ l.dropped = false

theorem Life.Quiet.not_ended (h : l.Quiet) : ¬ l.Ended := by
  intro hended
  cases hended with
  | inl hterminal => simp [h.1] at hterminal
  | inr hdropped => simp [h.2] at hdropped

/-- At most one terminal event to an object, each for a reason; and, where nothing leaks,
an object that has ended is destroyed, with one `delete_id`. -/
structure TraceLaw (clean : Bool) (trace : List WireAction) : Prop where
  justified : Justified clean trace
  once : ∀ id l, life id trace = some l → l.terminals ≤ 1
  released : clean = true → ∀ id l, life id trace = some l → l.Ended →
    l.destroyed = 1 ∧ l.deleted = 1

theorem life_none {id : Nat} (h : life id trace = none)
    (haction : ∀ interface, action ≠ .registered id interface) :
    life id (action :: trace) = none := by
  rw [life_cons, h]
  cases action with
  | registered id' interface =>
    refine if_neg fun heq => ?_
    subst heq
    exact haction interface rfl
  | destroyed id' => rfl
  | sent message => rfl
  | committed id' generation outputs => rfl
  | withdrawn id' => rfl
  | dropped id' => rfl
  | notified generation output timestamp => rfl

theorem deletedId_deleteIdEvent {id : Nat} (h : id ≤ u32Max) :
    deletedId (deleteIdEvent id) = some id := by
  have hread : readU32 (writeU32 id) = id := by
    rw [readU32_writeU32]
    exact Nat.mod_eq_of_lt (Nat.lt_succ_of_le h)
  unfold deletedId
  rw [if_pos ⟨rfl, rfl⟩]
  exact congrArg some hread

theorem deletedId_terminal (h : event.header.objectId ≠ displayId) :
    deletedId event = none := if_neg fun hdisplay => h hdisplay.1

theorem life_terminal (hl : life event.header.objectId trace = some l)
    (hdisplay : event.header.objectId ≠ displayId)
    (hterminal : IsTerminal l.interface event.header.opcode) :
    life event.header.objectId (.sent event :: trace) =
      some { l with terminals := l.terminals + 1 } := by
  rw [life_cons, hl]
  simp only [Life.next, Option.map_some, Life.record, deletedId_terminal hdisplay]
  rw [if_pos ⟨trivial, hterminal⟩]

theorem life_deleted {id : Nat} (h : id ≤ u32Max) (hl : life id trace = some l) :
    life id (.sent (deleteIdEvent id) :: trace) = some { l with deleted := l.deleted + 1 } := by
  rw [life_cons, hl]
  simp only [Life.next, Option.map_some, Life.record, deletedId_deleteIdEvent h, if_true]

theorem life_destroyed {id : Nat} (hl : life id trace = some l) :
    life id (.destroyed id :: trace) = some { l with destroyed := l.destroyed + 1 } := by
  rw [life_cons, hl]
  simp only [Life.next, Option.map_some, Life.record, if_true]

/-- The registry in step with the lives. Where nothing leaks, what is alive is quiet. -/
structure CoreOk (clean : Bool) (core : HeadlessWireCore) : Prop where
  defers : core.deferFrameCallbacks = true ∧ core.deferPresentationFeedback = true
  display : ∀ object, core.registry.objects.get? displayId = some object →
    object.interface = "wl_display"
  unborn : life displayId core.trace = none
  range : ∀ id object, core.registry.objects.get? id = some object → id ≤ u32Max
  alive : ∀ id object, core.registry.objects.get? id = some object → id ≠ displayId →
    ∃ l, life id core.trace = some l ∧ l.interface = object.interface ∧ l.destroyed = 0 ∧
      l.deleted = 0 ∧ l.terminals ≤ 1 ∧
      (clean = true ∨ (l.interface ≠ "wl_callback" ∧ l.interface ≠ "wp_presentation_feedback") →
        l.Quiet)
  dead : ∀ id l, core.registry.objects.get? id = none → life id core.trace = some l →
    l.terminals ≤ 1 ∧ (l.Ended → l.destroyed = 1 ∧ l.deleted = 1)
  retired : ∀ id, core.registry.retiredPendingDelete.contains id = true →
    core.registry.objects.get? id = none ∧ ∀ l, life id core.trace = some l → l.Quiet
  retiredRange : ∀ id, core.registry.retiredPendingDelete.contains id = true →
    id ≤ u32Max ∧ id ≠ displayId
  justified : Justified clean core.trace

theorem CoreOk.law (h : CoreOk clean core) : TraceLaw clean core.trace where
  justified := h.justified
  once id l hl := by
    cases hobject : core.registry.objects.get? id with
    | none => exact (h.dead id l hobject hl).1
    | some object =>
      by_cases hid : id = displayId
      · rw [hid, h.unborn] at hl
        cases hl
      · obtain ⟨l', hl', _, _, _, honce, _⟩ := h.alive id object hobject hid
        obtain rfl := Option.some.inj (hl'.symm.trans hl)
        exact honce
  released hclean id l hl hended := by
    cases hobject : core.registry.objects.get? id with
    | none => exact (h.dead id l hobject hl).2 hended
    | some object =>
      by_cases hid : id = displayId
      · rw [hid, h.unborn] at hl
        cases hl
      · obtain ⟨l', hl', _, _, _, _, hquiet⟩ := h.alive id object hobject hid
        obtain rfl := Option.some.inj (hl'.symm.trans hl)
        exact absurd hended (hquiet (.inl hclean)).not_ended

/-- No id waits for its `delete_id`. -/
structure Settled (core : HeadlessWireCore) : Prop where
  retired : ∀ id, core.registry.retiredPendingDelete.contains id = false
  queued : ∀ id, core.registry.queuedDeleteIds.contains id = false

def HeadlessWireCore.withObject (core : HeadlessWireCore) (id : Nat) (interface : String)
    (version : Nat) : HeadlessWireCore :=
  { core with
    registry := { core.registry with
      objects := core.registry.objects.insert id
        { id := id, interface := interface, version := version }
      reusableIds := core.registry.reusableIds.erase id }
    trace := .registered id interface :: core.trace }

def HeadlessWireCore.withoutObject (core : HeadlessWireCore) (id : Nat) : HeadlessWireCore :=
  { core with
    registry := { core.registry with
      objects := core.registry.objects.erase id
      retiredPendingDelete :=
        if id < firstServerId ∧ id ≠ displayId then
          core.registry.retiredPendingDelete.insert id ()
        else core.registry.retiredPendingDelete }
    trace := .destroyed id :: core.trace }

/-- An id that may be registered. -/
structure FreeId (core : HeadlessWireCore) (id : Nat) : Prop where
  notDisplay : id ≠ displayId
  dead : core.registry.objects.get? id = none
  deleted : core.registry.retiredPendingDelete.contains id = false

theorem registerObject_spec (core : HeadlessWireCore) (id : Nat) (interface : String)
    (version : Nat) :
    Triple (fun c => c = core) (registerObject id interface version)
      (fun _ c => FreeId core id ∧ c = core.withObject id interface version)
      fun c => c = core := by
  refine Triple.get_bind fun c hc => ?_
  subst hc
  unfold WireObjectRegistry.registerClientObject
  by_cases hused : id = displayId ∨ c.registry.objects.contains id = true ∨
      c.registry.retiredPendingDelete.contains id = true
  · rw [if_pos hused]
    exact Triple.throw fun _ h => h
  · rw [if_neg hused]
    simp only [not_or, Bool.not_eq_true] at hused
    have hdead : c.registry.objects.get? id = none := by
      simpa [OrdMap.contains] using hused.2.1
    intro s hs
    subst hs
    exact ⟨⟨hused.1, hdead, hused.2.2⟩, rfl⟩

theorem destroyObject_spec {id : Nat} (hobject : core.registry.objects.get? id = some object) :
    Triple (fun c => c = core) (destroyObject id) (fun _ c => c = core.withoutObject id)
      fun _ => False := by
  refine Triple.get_bind fun c hc => ?_
  subst hc
  have halive : c.registry.objects.contains id = true := OrdMap.contains_iff.mpr ⟨object, hobject⟩
  unfold WireObjectRegistry.destroyObject
  rw [if_pos halive]
  intro s hs
  subst hs
  rfl

theorem CoreOk.registered {id : Nat} (h : CoreOk clean core) (hfree : FreeId core id)
    (hrange : id ≤ u32Max) (interface : String) (version : Nat) :
    CoreOk clean (core.withObject id interface version) := by
  have hother : ∀ id', id' ≠ id → ¬ Concerns id' (.registered id interface) :=
    fun id' hid heq => hid heq.symm
  have hlife : ∀ id', id' ≠ id →
      life id' (.registered id interface :: core.trace) = life id' core.trace :=
    fun id' hid => life_other (hother id' hid) core.trace
  have hget : ∀ id', id' ≠ id → (core.withObject id interface version).registry.objects.get? id' =
      core.registry.objects.get? id' := fun id' hid => OrdMap.get?_insert_ne _ _ hid
  refine ⟨h.defers, fun object hobject => ?_, ?_, fun id' object hobject => ?_,
    fun id' object hobject hdisplay => ?_, fun id' l hobject hl => ?_, fun id' hretired => ?_,
    h.retiredRange, h.justified⟩
  · rw [hget displayId (Ne.symm hfree.notDisplay)] at hobject
    exact h.display object hobject
  · exact (hlife displayId (Ne.symm hfree.notDisplay)).trans h.unborn
  · by_cases hid : id' = id
    · rw [hid]
      exact hrange
    · rw [hget id' hid] at hobject
      exact h.range id' object hobject
  · by_cases hid : id' = id
    · subst hid
      obtain rfl := Option.some.inj ((OrdMap.get?_insert_self _ _ _).symm.trans hobject)
      refine ⟨{ interface := interface }, ?_, rfl, rfl, rfl, Nat.zero_le _, fun _ => ⟨rfl, rfl⟩⟩
      exact if_pos rfl
    · rw [hget id' hid] at hobject
      obtain ⟨l, hl, hrest⟩ := h.alive id' object hobject hdisplay
      exact ⟨l, (hlife id' hid).trans hl, hrest⟩
  · by_cases hid : id' = id
    · subst hid
      exact absurd ((OrdMap.get?_insert_self _ _ _).symm.trans hobject) (Option.some_ne_none _)
    · rw [hget id' hid] at hobject
      exact h.dead id' l hobject ((hlife id' hid).symm.trans hl)
  · have hid : id' ≠ id := by
      intro hid
      rw [hid] at hretired
      exact absurd hretired (Bool.eq_false_iff.mp hfree.deleted)
    obtain ⟨hobject, hquiet⟩ := h.retired id' hretired
    exact ⟨(hget id' hid).trans hobject, fun l hl => hquiet l ((hlife id' hid).symm.trans hl)⟩

/-- The object of a quiet life is destroyed. -/
theorem CoreOk.destroyed {id : Nat} (h : CoreOk clean core) (hid : id ≠ displayId)
    (hquiet : ∀ l, life id core.trace = some l → l.Quiet) :
    CoreOk clean (core.withoutObject id) := by
  have hother : ∀ id', id' ≠ id → ¬ Concerns id' (.destroyed id) :=
    fun id' hid heq => hid heq.symm
  have hlife : ∀ id', id' ≠ id →
      life id' (.destroyed id :: core.trace) = life id' core.trace :=
    fun id' hid => life_other (hother id' hid) core.trace
  have hself : life id (.destroyed id :: core.trace) =
      (life id core.trace).map fun l => { l with destroyed := l.destroyed + 1 } := by
    rw [life_cons]
    simp only [Life.next, Life.record, if_true]
  have hget : ∀ id', id' ≠ id → (core.withoutObject id).registry.objects.get? id' =
      core.registry.objects.get? id' := fun id' hne => by
    change (core.registry.objects.erase id).get? id' = _
    rw [OrdMap.get?_erase, if_neg hne]
  have hgone : (core.withoutObject id).registry.objects.get? id = none := by
    change (core.registry.objects.erase id).get? id = _
    rw [OrdMap.get?_erase, if_pos rfl]
  have hretired' : ∀ id', (core.withoutObject id).registry.retiredPendingDelete.contains id' = true →
      (id' = id ∧ id < firstServerId) ∨
        core.registry.retiredPendingDelete.contains id' = true := by
    intro id' hretired
    change (if id < firstServerId ∧ id ≠ displayId then
      core.registry.retiredPendingDelete.insert id ()
      else core.registry.retiredPendingDelete).contains id' = true at hretired
    split_ifs at hretired with hclient
    · exact (OrdSet.contains_insert.mp hretired).imp_left fun heq => ⟨heq, hclient.1⟩
    · exact .inr hretired
  refine ⟨h.defers, fun object hobject => ?_, ?_, fun id' object hobject => ?_,
    fun id' object hobject hdisplay => ?_, fun id' l hobject hl => ?_, fun id' hretired => ?_,
    fun id' hretired => ?_, h.justified⟩
  · rw [hget displayId (Ne.symm hid)] at hobject
    exact h.display object hobject
  · exact (hlife displayId (Ne.symm hid)).trans h.unborn
  · have hne : id' ≠ id := by
      intro heq
      rw [heq, hgone] at hobject
      cases hobject
    rw [hget id' hne] at hobject
    exact h.range id' object hobject
  · have hne : id' ≠ id := by
      intro heq
      rw [heq, hgone] at hobject
      cases hobject
    rw [hget id' hne] at hobject
    obtain ⟨l, hl, hrest⟩ := h.alive id' object hobject hdisplay
    exact ⟨l, (hlife id' hne).trans hl, hrest⟩
  · by_cases heq : id' = id
    · subst heq
      obtain ⟨l', hl', rfl⟩ := Option.map_eq_some_iff.mp (hself.symm.trans hl)
      have hquiet' := hquiet l' hl'
      refine ⟨?_, fun hended => absurd hended (Life.Quiet.not_ended ⟨hquiet'.1, hquiet'.2⟩)⟩
      exact hquiet'.1.le.trans (Nat.zero_le 1)
    · rw [hget id' heq] at hobject
      exact h.dead id' l hobject ((hlife id' heq).symm.trans hl)
  · by_cases heq : id' = id
    · subst heq
      refine ⟨hgone, fun l hl => ?_⟩
      obtain ⟨l', hl', rfl⟩ := Option.map_eq_some_iff.mp (hself.symm.trans hl)
      exact hquiet l' hl'
    · have hbefore := (hretired' id' hretired).resolve_left fun hself => heq hself.1
      obtain ⟨hobject, hquiet'⟩ := h.retired id' hbefore
      exact ⟨(hget id' heq).trans hobject, fun l hl => hquiet' l ((hlife id' heq).symm.trans hl)⟩
  · cases hretired' id' hretired with
    | inl hself =>
      rw [hself.1]
      have hserver : firstServerId ≤ u32Max := by decide
      exact ⟨hself.2.le.trans hserver, hid⟩
    | inr hbefore => exact h.retiredRange id' hbefore

/-- A `delete_id` was written for `id`, and acknowledged. -/
def HeadlessWireCore.acknowledged (core : HeadlessWireCore) (id : Nat) : HeadlessWireCore :=
  { core with
    registry := { core.registry with
      retiredPendingDelete := core.registry.retiredPendingDelete.erase id
      queuedDeleteIds := core.registry.queuedDeleteIds.erase id
      reusableIds := core.registry.reusableIds.insert id () }
    trace := .sent (deleteIdEvent id) :: core.trace }

def HeadlessWireCore.noted (core : HeadlessWireCore) (action : WireAction) : HeadlessWireCore :=
  { core with trace := action :: core.trace }

theorem deliverDeleteId_spec (core : HeadlessWireCore) {id : Nat} (h : id ≤ u32Max) :
    Triple (fun c => c = core) (deliverEvent (deleteIdEvent id))
      (fun _ c => c = core.acknowledged id)
      fun c => core.registry.retiredPendingDelete.contains id = false ∧
        c = core.noted (.sent (deleteIdEvent id)) := by
  have hread : readU32 (writeU32 id) = id := by
    rw [readU32_writeU32]
    exact Nat.mod_eq_of_lt (Nat.lt_succ_of_le h)
  refine Triple.bind (Q := fun _ c => c = core.noted (.sent (deleteIdEvent id)))
    (Triple.modify fun c hc => hc ▸ rfl) fun _ => ?_
  have hack : acknowledgeEventDelivery (deleteIdEvent id) = acknowledgeDeleteId id := by
    change acknowledgeDeleteId (readU32 (writeU32 id)) = _
    rw [hread]
  rw [hack]
  refine Triple.get_bind fun c hc => ?_
  subst hc
  unfold WireObjectRegistry.acknowledgeDeleteId
  by_cases hretired : (core.noted (.sent (deleteIdEvent id))).registry.retiredPendingDelete.contains
      id = true
  · rw [if_pos hretired]
    intro s hs
    subst hs
    rfl
  · rw [if_neg hretired]
    exact Triple.throw fun c hc => ⟨(Bool.not_eq_true _).mp hretired, hc⟩

/-- A terminal event was written, its object destroyed and the id released. -/
structure Delivered (core : HeadlessWireCore) (event : WaylandMessage)
    (core' : HeadlessWireCore) : Prop where
  objects : core'.registry.objects = core.registry.objects.erase event.header.objectId
  retired : ∀ id, core'.registry.retiredPendingDelete.contains id = true →
    core.registry.retiredPendingDelete.contains id = true
  queued : ∀ id, core'.registry.queuedDeleteIds.contains id = true →
    core.registry.queuedDeleteIds.contains id = true
  surfaces : core'.surfaces = core.surfaces
  feedbacks : core'.feedbacks = core.feedbacks
  defers : core'.deferFrameCallbacks = core.deferFrameCallbacks ∧
    core'.deferPresentationFeedback = core.deferPresentationFeedback
  trace : core'.trace = .sent (deleteIdEvent event.header.objectId) ::
    .destroyed event.header.objectId :: .sent event :: core.trace

section Delivered

variable {clean : Bool} {core core' : HeadlessWireCore} {event : WaylandMessage}

theorem Delivered.life_other (hd : Delivered core event core') {id : Nat}
    (hunborn : life displayId core.trace = none) (hrange : event.header.objectId ≤ u32Max)
    (hdisplay : event.header.objectId ≠ displayId) (hid : id ≠ event.header.objectId) :
    life id core'.trace = life id core.trace := by
  rw [hd.trace]
  by_cases hself : id = displayId
  · rw [hself, hunborn]
    refine life_none (life_none (life_none hunborn ?_) ?_) ?_
    · exact fun _ h => by cases h
    · exact fun _ h => by cases h
    · exact fun _ h => by cases h
  · have hsent : ¬ Concerns id (.sent event) := by
      simp only [Concerns, deletedId_terminal hdisplay, reduceCtorEq, or_false]
      exact Ne.symm hid
    have hdestroyed : ¬ Concerns id (.destroyed event.header.objectId) := Ne.symm hid
    have hdeleted : ¬ Concerns id (.sent (deleteIdEvent event.header.objectId)) := by
      simp only [Concerns, deletedId_deleteIdEvent hrange, Option.some.injEq, not_or]
      exact ⟨Ne.symm hself, Ne.symm hid⟩
    rw [WaylandWire.life_other hdeleted, WaylandWire.life_other hdestroyed,
      WaylandWire.life_other hsent]

theorem Delivered.life_self (hd : Delivered core event core')
    (hl : life event.header.objectId core.trace = some l) (hrange : event.header.objectId ≤ u32Max)
    (hdisplay : event.header.objectId ≠ displayId)
    (hterminal : IsTerminal l.interface event.header.opcode) :
    life event.header.objectId core'.trace = some { l with
      terminals := l.terminals + 1
      destroyed := l.destroyed + 1
      deleted := l.deleted + 1 } := by
  rw [hd.trace]
  exact life_deleted hrange (life_destroyed (life_terminal hl hdisplay hterminal))

theorem CoreOk.delivered (h : CoreOk clean core) (hd : Delivered core event core')
    (hobject : core.registry.objects.get? event.header.objectId = some object)
    (hdisplay : event.header.objectId ≠ displayId)
    (hl : life event.header.objectId core.trace = some l) (hnone : l.terminals = 0)
    (hterminal : IsTerminal l.interface event.header.opcode)
    (hmay : MayBeSent clean l core.trace event) : CoreOk clean core' := by
  have hrange := h.range _ _ hobject
  have hself := hd.life_self hl hrange hdisplay hterminal
  have hother : ∀ id, id ≠ event.header.objectId → life id core'.trace = life id core.trace :=
    fun id hid => hd.life_other h.unborn hrange hdisplay hid
  have hzero : l.destroyed = 0 ∧ l.deleted = 0 := by
    obtain ⟨l', hl', _, hdestroyed, hdeleted, _⟩ := h.alive _ object hobject hdisplay
    obtain rfl := Option.some.inj (hl'.symm.trans hl)
    exact ⟨hdestroyed, hdeleted⟩
  have hget : ∀ id, id ≠ event.header.objectId →
      core'.registry.objects.get? id = core.registry.objects.get? id := by
    intro id hid
    rw [hd.objects, OrdMap.get?_erase, if_neg hid]
  have hgone : core'.registry.objects.get? event.header.objectId = none := by
    rw [hd.objects, OrdMap.get?_erase, if_pos rfl]
  have hne : ∀ id object', core'.registry.objects.get? id = some object' →
      id ≠ event.header.objectId := by
    intro id object' hobject' heq
    rw [heq, hgone] at hobject'
    cases hobject'
  refine ⟨⟨hd.defers.1.trans h.defers.1, hd.defers.2.trans h.defers.2⟩,
    fun object' hobject' => ?_, (hother _ (Ne.symm hdisplay)).trans h.unborn,
    fun id object' hobject' => ?_, fun id object' hobject' hid => ?_,
    fun id l' hobject' hl' => ?_, fun id hretired => ?_,
    fun id hretired => h.retiredRange id (hd.retired id hretired), ?_⟩
  · rw [hget displayId (Ne.symm hdisplay)] at hobject'
    exact h.display object' hobject'
  · rw [hget id (hne id object' hobject')] at hobject'
    exact h.range id object' hobject'
  · have hid' := hne id object' hobject'
    rw [hget id hid'] at hobject'
    rw [hother id hid']
    exact h.alive id object' hobject' hid
  · by_cases heq : id = event.header.objectId
    · rw [heq, hself] at hl'
      obtain rfl := Option.some.inj hl'
      exact ⟨by simp [hnone], fun _ => by simp [hzero.1, hzero.2]⟩
    · rw [hget id heq] at hobject'
      rw [hother id heq] at hl'
      exact h.dead id l' hobject' hl'
  · obtain ⟨hdead, hquiet⟩ := h.retired id (hd.retired id hretired)
    have heq : id ≠ event.header.objectId := by
      intro heq
      rw [heq, hobject] at hdead
      cases hdead
    rw [hget id heq, hother id heq]
    exact ⟨hdead, hquiet⟩
  · rw [hd.trace]
    refine ⟨fun l' hl' => ?_, fun l' hl' _ => ?_, h.justified⟩
    · rw [show (deleteIdEvent event.header.objectId).header.objectId = displayId from rfl] at hl'
      rw [life_none (life_none h.unborn ?_) ?_] at hl'
      · cases hl'
      · exact fun _ h => by cases h
      · exact fun _ h => by cases h
    · obtain rfl := Option.some.inj (hl.symm.trans hl')
      exact hmay

end Delivered

/-- What `CoreOk` asks of the life of an object that is alive. -/
def AliveLife (clean : Bool) (interface : String) (l : Life) : Prop :=
  l.interface = interface ∧ l.destroyed = 0 ∧ l.deleted = 0 ∧ l.terminals ≤ 1 ∧
    (clean = true ∨ (l.interface ≠ "wl_callback" ∧ l.interface ≠ "wp_presentation_feedback") →
      l.Quiet)

/-- An action that concerns one id, the registry staying as it is. -/
theorem CoreOk.noted_of {id : Nat} (h : CoreOk clean core) (hdisplay : id ≠ displayId)
    (hother : ∀ id', id' ≠ id → life id' (action :: core.trace) = life id' core.trace)
    (halive : ∀ object l, core.registry.objects.get? id = some object →
      life id core.trace = some l → AliveLife clean object.interface l →
      ∃ l', life id (action :: core.trace) = some l' ∧ AliveLife clean object.interface l')
    (hdead : ∀ l', core.registry.objects.get? id = none →
      life id (action :: core.trace) = some l' →
      l'.terminals ≤ 1 ∧ (l'.Ended → l'.destroyed = 1 ∧ l'.deleted = 1))
    (hretired : ∀ l', core.registry.retiredPendingDelete.contains id = true →
      life id (action :: core.trace) = some l' → l'.Quiet)
    (hjustified : Justified clean (action :: core.trace)) : CoreOk clean (core.noted action) where
  defers := h.defers
  display := h.display
  unborn := (hother displayId (Ne.symm hdisplay)).trans h.unborn
  range := h.range
  alive id' object hobject hid' := by
    by_cases heq : id' = id
    · subst heq
      obtain ⟨l, hl, hvital⟩ := h.alive id' object hobject hid'
      exact halive object l hobject hl hvital
    · obtain ⟨l, hl, hvital⟩ := h.alive id' object hobject hid'
      exact ⟨l, (hother id' heq).trans hl, hvital⟩
  dead id' l' hobject hl' := by
    by_cases heq : id' = id
    · subst heq
      exact hdead l' hobject hl'
    · exact h.dead id' l' hobject ((hother id' heq).symm.trans hl')
  retired id' hcontains := by
    refine ⟨(h.retired id' hcontains).1, fun l' hl' => ?_⟩
    by_cases heq : id' = id
    · subst heq
      exact hretired l' hcontains hl'
    · exact (h.retired id' hcontains).2 l' ((hother id' heq).symm.trans hl')
  retiredRange := h.retiredRange
  justified := hjustified

/-- A record that changes neither the events nor the end of a life. -/
def SameVitals (l l' : Life) : Prop :=
  l'.interface = l.interface ∧ l'.terminals = l.terminals ∧ l'.dropped = l.dropped ∧
    l'.destroyed = l.destroyed ∧ l'.deleted = l.deleted

theorem CoreOk.noted_same {id : Nat} {f : Life → Life} (h : CoreOk clean core)
    (hdisplay : id ≠ displayId)
    (hother : ∀ id', id' ≠ id → life id' (action :: core.trace) = life id' core.trace)
    (hself : life id (action :: core.trace) = (life id core.trace).map f)
    (hf : ∀ l, SameVitals l (f l)) (hjustified : Justified clean (action :: core.trace)) :
    CoreOk clean (core.noted action) := by
  refine h.noted_of hdisplay hother (fun object l hobject hl hvital => ?_)
    (fun l' hobject hl' => ?_) (fun l' hcontains hl' => ?_) hjustified
  · obtain ⟨hinterface, hterminals, hdropped, hdestroyed, hdeleted⟩ := hf l
    refine ⟨f l, hself.trans (congrArg (Option.map f) hl), ?_⟩
    unfold AliveLife Life.Quiet at hvital ⊢
    rw [hinterface, hterminals, hdropped, hdestroyed, hdeleted]
    exact hvital
  · obtain ⟨l, hl, rfl⟩ := Option.map_eq_some_iff.mp (hself.symm.trans hl')
    obtain ⟨_, hterminals, hdropped, hdestroyed, hdeleted⟩ := hf l
    unfold Life.Ended
    rw [hterminals, hdropped, hdestroyed, hdeleted]
    exact h.dead id l hobject hl
  · obtain ⟨l, hl, rfl⟩ := Option.map_eq_some_iff.mp (hself.symm.trans hl')
    obtain ⟨_, hterminals, hdropped, _, _⟩ := hf l
    unfold Life.Quiet
    rw [hterminals, hdropped]
    exact (h.retired id hcontains).2 l hl

theorem life_committed (id generation : Nat) (outputs : List String) (trace : List WireAction) :
    life id (.committed id generation outputs :: trace) =
      (life id trace).map fun l => { l with committed := some (generation, outputs) } := by
  rw [life_cons]
  simp only [Life.next, Life.record, if_true]

theorem life_withdrawn (id : Nat) (trace : List WireAction) :
    life id (.withdrawn id :: trace) =
      (life id trace).map fun l => { l with withdrawn := true } := by
  rw [life_cons]
  simp only [Life.next, Life.record, if_true]

theorem life_dropped (id : Nat) (trace : List WireAction) :
    life id (.dropped id :: trace) =
      (life id trace).map fun l => { l with dropped := true } := by
  rw [life_cons]
  simp only [Life.next, Life.record, if_true]

theorem life_notified (id generation : Nat) (output : String) (timestamp : Nat)
    (trace : List WireAction) :
    life id (.notified generation output timestamp :: trace) = life id trace := by
  have hnone : ¬ Concerns id (.notified generation output timestamp) := fun h => h
  exact life_other hnone trace

section Notes

variable {clean : Bool} {core : HeadlessWireCore} {id : Nat}

theorem CoreOk.noted_committed (h : CoreOk clean core) (hdisplay : id ≠ displayId)
    (generation : Nat) (outputs : List String) :
    CoreOk clean (core.noted (.committed id generation outputs)) := by
  have hother : ∀ id', id' ≠ id → ¬ Concerns id' (.committed id generation outputs) :=
    fun id' hid heq => hid heq.symm
  exact h.noted_same hdisplay (fun id' hid => life_other (hother id' hid) core.trace)
    (life_committed id generation outputs core.trace) (fun _ => ⟨rfl, rfl, rfl, rfl, rfl⟩)
    h.justified

theorem CoreOk.noted_withdrawn (h : CoreOk clean core) (hdisplay : id ≠ displayId) :
    CoreOk clean (core.noted (.withdrawn id)) := by
  have hother : ∀ id', id' ≠ id → ¬ Concerns id' (.withdrawn id) :=
    fun id' hid heq => hid heq.symm
  exact h.noted_same hdisplay (fun id' hid => life_other (hother id' hid) core.trace)
    (life_withdrawn id core.trace) (fun _ => ⟨rfl, rfl, rfl, rfl, rfl⟩) h.justified

theorem CoreOk.noted_notified (h : CoreOk clean core) (generation : Nat) (output : String)
    (timestamp : Nat) : CoreOk clean (core.noted (.notified generation output timestamp)) := by
  refine h.noted_same (f := fun l => l) (Nat.zero_ne_one) (fun id' _ => life_notified id' _ _ _ _)
    ?_ (fun _ => ⟨rfl, rfl, rfl, rfl, rfl⟩) h.justified
  rw [life_notified, Option.map_id']

/-- A callback leaves its table without an event, and stays alive. -/
theorem CoreOk.noted_dropped (h : CoreOk false core)
    (hobject : core.registry.objects.get? id = some object)
    (hcallback : object.interface = "wl_callback") (hdisplay : id ≠ displayId) :
    CoreOk false (core.noted (.dropped id)) := by
  have hother : ∀ id', id' ≠ id → ¬ Concerns id' (.dropped id) := fun id' hid heq => hid heq.symm
  refine h.noted_of hdisplay (fun id' hid => life_other (hother id' hid) core.trace)
    (fun object' l hobject' hl hvital => ?_) (fun l' hdead _ => ?_) (fun l' hcontains _ => ?_)
    h.justified
  · obtain rfl := Option.some.inj (hobject.symm.trans hobject')
    refine ⟨{ l with dropped := true }, (life_dropped id core.trace).trans (by rw [hl]; rfl), ?_⟩
    refine ⟨hvital.1, hvital.2.1, hvital.2.2.1, hvital.2.2.2.1, fun huntracked => ?_⟩
    refine absurd (hvital.1.trans hcallback) ?_
    simpa using fun heq => huntracked.elim (fun h => by cases h) fun h => absurd heq h.1
  · rw [hobject] at hdead
    cases hdead
  · rw [(h.retired id hcontains).1] at hobject
    cases hobject

/-- A terminal event is written, and its object stays alive. -/
theorem CoreOk.leaked (h : CoreOk false core)
    (hobject : core.registry.objects.get? event.header.objectId = some object)
    (hdisplay : event.header.objectId ≠ displayId)
    (hl : life event.header.objectId core.trace = some l) (hnone : l.terminals = 0)
    (hterminal : IsTerminal l.interface event.header.opcode)
    (hmay : MayBeSent false l core.trace event) : CoreOk false (core.noted (.sent event)) := by
  have hother : ∀ id', id' ≠ event.header.objectId → ¬ Concerns id' (.sent event) := by
    intro id' hid hconcerns
    simp only [Concerns, deletedId_terminal hdisplay, reduceCtorEq, or_false] at hconcerns
    exact hid hconcerns.symm
  have hself := life_terminal hl hdisplay hterminal
  refine h.noted_of hdisplay (fun id' hid => life_other (hother id' hid) core.trace)
    (fun object' l' hobject' hl' hvital => ?_) (fun l' hdead _ => ?_) (fun l' hcontains _ => ?_)
    ⟨fun l' hl' _ => ?_, h.justified⟩
  · obtain rfl := Option.some.inj (hl.symm.trans hl')
    refine ⟨_, hself, hvital.1, hvital.2.1, hvital.2.2.1, by simp [hnone], fun huntracked => ?_⟩
    cases huntracked with
    | inl hclean => cases hclean
    | inr huntracked =>
      cases hterminal with
      | inl hcallback => exact absurd hcallback.1 huntracked.1
      | inr hfeedback => exact absurd hfeedback.1 huntracked.2
  · rw [hobject] at hdead
    cases hdead
  · rw [(h.retired _ hcontains).1] at hobject
    cases hobject
  · obtain rfl := Option.some.inj (hl.symm.trans hl')
    exact hmay

/-- `delete_id` is written for an id whose life ended quietly. -/
theorem CoreOk.noted_deleted (h : CoreOk clean core) (hrange : id ≤ u32Max)
    (hdisplay : id ≠ displayId) (hdead : core.registry.objects.get? id = none)
    (hquiet : ∀ l, life id core.trace = some l → l.Quiet) :
    CoreOk clean (core.noted (.sent (deleteIdEvent id))) := by
  have hquiet' : ∀ l', life id (.sent (deleteIdEvent id) :: core.trace) = some l' → l'.Quiet := by
    intro l' hl'
    cases hl : life id core.trace with
    | none =>
      rw [life_none hl fun _ h => by cases h] at hl'
      cases hl'
    | some l =>
      rw [life_deleted hrange hl] at hl'
      obtain rfl := Option.some.inj hl'
      exact hquiet l hl
  refine h.noted_of hdisplay (fun id' hid => ?_) (fun object l hobject _ _ => ?_)
    (fun l' _ hl' => ⟨(hquiet' l' hl').1.le.trans (Nat.zero_le 1), fun hended =>
      absurd hended (hquiet' l' hl').not_ended⟩)
    (fun l' _ hl' => hquiet' l' hl') ⟨fun l hl => ?_, h.justified⟩
  · by_cases hself : id' = displayId
    · rw [hself, h.unborn]
      exact life_none h.unborn fun _ h => by cases h
    · refine life_other ?_ core.trace
      simp only [Concerns, deletedId_deleteIdEvent hrange, Option.some.injEq, not_or]
      exact ⟨Ne.symm hself, Ne.symm hid⟩
  · rw [hdead] at hobject
    cases hobject
  · rw [show (deleteIdEvent id).header.objectId = displayId from rfl, h.unborn] at hl
    cases hl

theorem acknowledged_retired {id' : Nat}
    (h : (core.acknowledged id).registry.retiredPendingDelete.contains id' = true) :
    id' ≠ id ∧ core.registry.retiredPendingDelete.contains id' = true := by
  obtain ⟨u, hu⟩ := OrdMap.contains_iff.mp h
  change (core.registry.retiredPendingDelete.erase id).get? id' = some u at hu
  rw [OrdMap.get?_erase] at hu
  split_ifs at hu with hid
  exact ⟨hid, OrdMap.contains_iff.mpr ⟨u, hu⟩⟩

theorem CoreOk.acknowledged (h : CoreOk clean (core.noted (.sent (deleteIdEvent id)))) :
    CoreOk clean (core.acknowledged id) :=
  ⟨h.defers, h.display, h.unborn, h.range, h.alive, h.dead,
    fun id' hcontains => h.retired id' (acknowledged_retired hcontains).2,
    fun id' hcontains => h.retiredRange id' (acknowledged_retired hcontains).2, h.justified⟩

end Notes

end TuffXwin.WaylandWire
