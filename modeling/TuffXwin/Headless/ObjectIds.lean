import TuffXwin.Headless.Runs
import TuffXwin.WaylandWire.Lifetimes

/-! The ids of a client's objects on a connection whose events are delivered and acknowledged
in the order in which they were returned: an id is created, destroyed, deleted once, and free
again when its deletion was acknowledged. -/

namespace TuffXwin.Headless
open Lib
open WaylandWire (WaylandMessage readU32 displayId firstServerId deleteIdEvent deletedId
  deletedId_deleteIdEvent)

variable {event : WaylandMessage}
variable {core : HeadlessWireCore} {delivered : List WaylandMessage} {r : WireObjectRegistry}
  {log : List Note}

inductive Stage
  | free
  | live
  | destroyed
  deriving DecidableEq, Repr

/-- The stage of an id after a note, which must be one that may follow. -/
def Stage.next (id : Nat) (stage : Option Stage) : Note → Option Stage
  | .created other _ =>
    if other = id then (if stage = some .free then some .live else none) else stage
  | .destroyed other =>
    if other = id then (if stage = some .live then some .destroyed else none) else stage
  | .sent event _ =>
    if deletedId event = some id then (if stage = some .destroyed then some .free else none)
    else stage

/-- Where an id is in its life, as the history of the core has it. -/
def stageOf (id : Nat) (log : List Note) : Option Stage := log.foldl (Stage.next id) (some .free)

theorem stageOf_append (id : Nat) (log : List Note) (note : Note) :
    stageOf id (log ++ [note]) = Stage.next id (stageOf id log) note := by
  simp [stageOf, List.foldl_append]

/-- A destroyed id waits for its deletion to be queued. -/
def WireObjectRegistry.stage (r : WireObjectRegistry) (id : Nat) : Stage :=
  if r.objects.contains id = true then .live
  else if r.retiredPendingDelete.contains id = true ∧ r.queuedDeleteIds.contains id = false then
    .destroyed
  else .free

def deletions (events : List WaylandMessage) : List Nat := events.filterMap deletedId

def Note.deleted : Note → Option Nat
  | .sent event _ => deletedId event
  | _ => none

/-- The registry is in step with the history, and with the deletions under way. -/
structure Tracked (delivered inFlight : List WaylandMessage) (r : WireObjectRegistry)
    (eventsOut : List WaylandMessage) (log : List Note) : Prop where
  root : r.objects.get? displayId = some ⟨.wlDisplay, 1⟩
  told : log.filterMap Note.deleted = deletions (delivered ++ inFlight ++ eventsOut)
  once : (deletions (inFlight ++ eventsOut)).Nodup
  queued : ∀ id, r.queuedDeleteIds.contains id = true ↔ id ∈ deletions (inFlight ++ eventsOut)
  awaiting : ∀ id, r.queuedDeleteIds.contains id = true → r.retiredPendingDelete.contains id = true
  dead : ∀ id, r.retiredPendingDelete.contains id = true →
    r.objects.contains id = false ∧ id < firstServerId ∧ id ≠ displayId
  sized : ∀ event ∈ inFlight ++ eventsOut, deletedId event ≠ none → event.payload.length = 4
  stages : ∀ id, id < firstServerId → id ≠ displayId → stageOf id log = some (r.stage id)

section Tracked

variable {delivered inFlight eventsOut : List WaylandMessage} {r : WireObjectRegistry}
  {log : List Note} {id : Nat} {object : WireObject}

@[simp] theorem deletions_append (events more : List WaylandMessage) :
    deletions (events ++ more) = deletions events ++ deletions more := by
  simp [deletions]

section

variable (h : Tracked delivered inFlight r eventsOut log)
include h

/-- An event that deletes nothing. -/
theorem Tracked.sent (hevent : deletedId event = none) (target : Option WireObject) :
    Tracked delivered inFlight r (eventsOut ++ [event]) (log ++ [.sent event target]) := by
  have hsame : ∀ events, deletions (events ++ (eventsOut ++ [event])) =
      deletions (events ++ eventsOut) := by simp [deletions, hevent]
  refine ⟨h.root, ?_, ?_, ?_, h.awaiting, h.dead, fun e he hdeletes => ?_, fun id hid hne => ?_⟩
  · rw [hsame, ← h.told]
    simp [Note.deleted, hevent]
  · rw [hsame]
    exact h.once
  · rw [hsame]
    exact h.queued
  · rw [← List.append_assoc] at he
    cases List.mem_append.mp he with
    | inl hold => exact h.sized e hold hdeletes
    | inr hnew =>
      obtain rfl := List.mem_singleton.mp hnew
      exact absurd hevent hdeletes
  · rw [stageOf_append, Stage.next, hevent, if_neg (by simp)]
    exact h.stages id hid hne

theorem Tracked.ne_display (hobject : r.objects.get? id = some object)
    (hne : object.interface ≠ .wlDisplay) : id ≠ displayId := by
  intro heq
  rw [heq, h.root] at hobject
  rw [← Option.some.inj hobject] at hne
  exact hne rfl

theorem Tracked.registered (havailable : r.Available id) :
    Tracked delivered inFlight (r.registered id object) eventsOut (log ++ [.created id object]) := by
  obtain ⟨hdisplay, hfree, hretired⟩ := havailable
  have hother : ∀ other, other ≠ id →
      (r.objects.insert id object).contains other = r.objects.contains other := by
    intro other hne
    rw [OrdMap.contains, OrdMap.contains, OrdMap.get?_insert_ne _ _ hne]
  refine ⟨?_, ?_, h.once, h.queued, h.awaiting, fun other hdead => ?_, h.sized,
    fun other hclient hne => ?_⟩
  · exact (OrdMap.get?_insert_ne _ _ hdisplay.symm).trans h.root
  · rw [← h.told]
    simp [Note.deleted]
  · have hne : other ≠ id := by
      intro heq
      rw [heq] at hdead
      exact absurd (hretired.symm.trans hdead) (by simp)
    obtain ⟨hgone, hrest⟩ := h.dead other hdead
    exact ⟨(hother other hne).trans hgone, hrest⟩
  · rw [stageOf_append, h.stages other hclient hne]
    unfold Stage.next WireObjectRegistry.stage WireObjectRegistry.registered
    by_cases heq : other = id
    · have hnew : (r.objects.insert id object).contains id = true :=
        OrdMap.contains_insert.mpr (.inl rfl)
      simp [heq, hfree, hretired, hnew]
    · simp [Ne.symm heq, hother other heq]

theorem Tracked.retired (hlive : r.objects.contains id = true) (hdisplay : id ≠ displayId) :
    Tracked delivered inFlight (r.retired id) eventsOut (log ++ [.destroyed id]) := by
  have hwaiting : ∀ other, (r.retired id).retiredPendingDelete.contains other = true ↔
      (other = id ∧ id < firstServerId) ∨ r.retiredPendingDelete.contains other = true := by
    intro other
    unfold WireObjectRegistry.retired
    by_cases hclient : id < firstServerId
    · rw [if_pos ⟨hclient, hdisplay⟩, OrdSet.contains_insert]
      simp [hclient]
    · rw [if_neg fun hboth => hclient hboth.1]
      simp [hclient]
  have hgone : ∀ other, (r.retired id).objects.contains other = true ↔
      other ≠ id ∧ r.objects.contains other = true := fun other => OrdMap.contains_erase
  have hunqueued : r.queuedDeleteIds.contains id = false := by
    by_contra hqueued
    have hdead := (h.dead id (h.awaiting id (by simpa using hqueued))).1
    exact absurd (hdead.symm.trans hlive) (by simp)
  refine ⟨?_, ?_, h.once, h.queued, fun other hqueued => ?_, fun other hdead => ?_, h.sized,
    fun other hclient hne => ?_⟩
  · exact (OrdMap.get?_erase _ _ _).trans ((if_neg hdisplay.symm).trans h.root)
  · rw [← h.told]
    simp [Note.deleted]
  · exact (hwaiting other).mpr (.inr (h.awaiting other hqueued))
  · have hfree := hgone other
    rcases (hwaiting other).mp hdead with ⟨heq, hclient⟩ | hold
    · refine ⟨?_, by omega, by omega⟩
      simpa [heq] using hfree
    · obtain ⟨hfree', hrest⟩ := h.dead other hold
      exact ⟨by simpa [hfree'] using hfree, hrest⟩
  · have hwait := hwaiting other
    have hfree := hgone other
    have hqueue : (r.retired id).queuedDeleteIds = r.queuedDeleteIds := rfl
    rw [stageOf_append, h.stages other hclient hne]
    unfold Stage.next WireObjectRegistry.stage
    rw [hqueue]
    by_cases heq : other = id
    · subst heq
      simp [hlive, hfree, hwait, hunqueued, hclient]
    · simp only [heq, false_and, false_or, ne_eq, not_false_eq_true, true_and] at hwait hfree
      simp [Ne.symm heq, hfree, hwait]

end

/-- One deletion is queued. -/
def WireObjectRegistry.queueing (r : WireObjectRegistry) (id : Nat) : WireObjectRegistry :=
  { r with queuedDeleteIds := r.queuedDeleteIds.insert id () }

theorem Tracked.announced (h : Tracked delivered inFlight r eventsOut log)
    (hretired : r.retiredPendingDelete.contains id = true)
    (hunqueued : r.queuedDeleteIds.contains id = false) (target : Option WireObject) :
    Tracked delivered inFlight (r.queueing id) (eventsOut ++ [deleteIdEvent id])
      (log ++ [.sent (deleteIdEvent id) target]) := by
  obtain ⟨hfree, hclient, hdisplay⟩ := h.dead id hretired
  have hword : deletedId (deleteIdEvent id) = some id := by
    refine deletedId_deleteIdEvent ?_
    have hfirst : firstServerId = 4278190080 := rfl
    have hmax : u32Max = 4294967295 := rfl
    omega
  have hqueue : ∀ other, (r.queueing id).queuedDeleteIds.contains other = true ↔
      other = id ∨ r.queuedDeleteIds.contains other = true := fun other => OrdSet.contains_insert
  have hmore : ∀ events, deletions (events ++ (eventsOut ++ [deleteIdEvent id])) =
      deletions (events ++ eventsOut) ++ [id] := by simp [deletions, hword]
  have hnew : id ∉ deletions (inFlight ++ eventsOut) := by
    intro hmem
    have hqueued := (h.queued id).mpr hmem
    exact absurd (hunqueued.symm.trans hqueued) (by simp)
  refine ⟨h.root, ?_, ?_, fun other => ?_, fun other hqueued => ?_, h.dead, fun e he hdeletes => ?_,
    fun other hother hne => ?_⟩
  · rw [hmore, ← h.told]
    simp [Note.deleted, hword]
  · rw [hmore, List.nodup_append]
    refine ⟨h.once, by simp, fun a ha b hb heq => ?_⟩
    obtain rfl := List.mem_singleton.mp hb
    exact hnew (heq ▸ ha)
  · rw [hqueue, hmore, List.mem_append, List.mem_singleton, h.queued, or_comm]
  · cases (hqueue other).mp hqueued with
    | inl heq => exact heq ▸ hretired
    | inr hold => exact h.awaiting other hold
  · rw [← List.append_assoc] at he
    cases List.mem_append.mp he with
    | inl hold => exact h.sized e hold hdeletes
    | inr hevent =>
      obtain rfl := List.mem_singleton.mp hevent
      rfl
  · have hqueued := hqueue other
    rw [stageOf_append, h.stages other hother hne, Stage.next, hword]
    unfold WireObjectRegistry.stage
    change _ = some (if r.objects.contains other = true then _ else
      if r.retiredPendingDelete.contains other = true ∧ _ then _ else _)
    by_cases heq : other = id
    · subst heq
      simp [hfree, hretired, hunqueued, hqueued]
    · have hsame : (r.queueing id).queuedDeleteIds.contains other =
          r.queuedDeleteIds.contains other := by
        rw [Bool.eq_iff_iff, hqueued]
        simp [heq]
      rw [hsame]
      simp only [Option.some.injEq, Ne.symm heq, if_false]
      rfl

end Tracked

/-! Frames that are in step. -/

def FrameTracked (delivered inFlight : List WaylandMessage) (f : Frame) : Prop :=
  Tracked delivered inFlight f.registry f.eventsOut f.log

/-- Nothing but the deletions themselves is sent to the display's object. -/
def idTerms : Terms where
  level := .off fun interface => interface = .wlDisplay

section Frames

variable {delivered inFlight : List WaylandMessage} {f : Frame} {id : Nat}

theorem FrameTracked.silent (h : FrameTracked delivered inFlight f)
    (hne : event.header.objectId ≠ displayId) : FrameTracked delivered inFlight (f.sent event) :=
  Tracked.sent h (WaylandWire.deletedId_terminal hne) _

theorem FrameTracked.sent (h : FrameTracked delivered inFlight f)
    (hfine : Fine idTerms.level event (f.objects.get? event.header.objectId)) :
    FrameTracked delivered inFlight (f.sent event) := by
  refine h.silent fun heq => ?_
  rw [heq, Frame.objects, h.root] at hfine
  exact hfine _ rfl ⟨rfl, rfl⟩

theorem FrameTracked.silentAll (messages : List WaylandMessage)
    (h : FrameTracked delivered inFlight f)
    (hne : ∀ event ∈ messages, event.header.objectId ≠ displayId) :
    FrameTracked delivered inFlight (messages.foldl Frame.sent f) := by
  induction messages generalizing f with
  | nil => exact h
  | cons event rest ih =>
    have hfirst := h.silent (hne event List.mem_cons_self)
    exact ih hfirst fun e he => hne e (List.mem_cons_of_mem _ he)

theorem FrameTracked.registered (h : FrameTracked delivered inFlight f) {object : WireObject}
    (havailable : f.registry.Available id) :
    FrameTracked delivered inFlight (f.registered id object) :=
  Tracked.registered h havailable

theorem FrameTracked.retired (h : FrameTracked delivered inFlight f) {interface : Interface}
    (hlive : LiveAs f.objects interface id) (hne : interface ≠ .wlDisplay) :
    FrameTracked delivered inFlight (f.retired id) := by
  obtain ⟨object, hobject, hinterface⟩ := hlive
  refine Tracked.retired h (OrdMap.contains_iff.mpr ⟨object, hobject⟩) ?_
  exact Tracked.ne_display h hobject (by rwa [hinterface])

/-- One deletion is announced. -/
def Frame.announcing (f : Frame) (id : Nat) : Frame :=
  { f with registry := f.registry.queueing id }.sent (deleteIdEvent id)

theorem announced_foldl (ids : List Nat) (f : Frame) :
    (ids.map deleteIdEvent).foldl Frame.sent { f with registry := { f.registry with
      queuedDeleteIds := ids.foldl (fun s id => s.insert id ()) f.registry.queuedDeleteIds } } =
      ids.foldl Frame.announcing f := by
  induction ids generalizing f with
  | nil => rfl
  | cons id rest ih => exact ih (f.announcing id)

theorem FrameTracked.announcing (ids : List Nat) (h : FrameTracked delivered inFlight f)
    (hids : ∀ id ∈ ids, f.registry.retiredPendingDelete.contains id = true ∧
      f.registry.queuedDeleteIds.contains id = false) (hnodup : ids.Nodup) :
    FrameTracked delivered inFlight (ids.foldl Frame.announcing f) := by
  induction ids generalizing f with
  | nil => exact h
  | cons id rest ih =>
    obtain ⟨hnew, hrest⟩ := List.nodup_cons.mp hnodup
    obtain ⟨hretired, hunqueued⟩ := hids id List.mem_cons_self
    have hfirst : FrameTracked delivered inFlight (f.announcing id) :=
      Tracked.announced h hretired hunqueued _
    refine ih hfirst (fun other hother => ?_) hrest
    obtain ⟨hdead, hfree⟩ := hids other (List.mem_cons_of_mem _ hother)
    refine ⟨hdead, ?_⟩
    have hne : other ≠ id := by
      intro heq
      exact hnew (heq ▸ hother)
    change (f.registry.queuedDeleteIds.insert id ()).contains other = false
    rw [OrdMap.contains, OrdMap.get?_insert_ne _ _ hne]
    exact hfree

theorem FrameTracked.announced (h : FrameTracked delivered inFlight f) :
    FrameTracked delivered inFlight f.announced := by
  unfold Frame.announced WireObjectRegistry.takeDeleteIdEvents
  rw [announced_foldl]
  exact h.announcing _ (fun id hid => OrdSet.mem_difference.mp hid) (OrdMap.nodup_keys _)

theorem FrameTracked.moved (h : FrameTracked delivered inFlight f)
    (hlive : LiveAs f.objects .wlSurface id) (current : OrdSet Nat) :
    FrameTracked delivered inFlight (f.moved id current) := by
  obtain ⟨object, hobject, hinterface⟩ := hlive
  have hne : id ≠ displayId := Tracked.ne_display h hobject (by simp [hinterface])
  have hsent : FrameTracked delivered inFlight ((f.moveEvents id current).foldl Frame.sent f) := by
    refine h.silentAll _ fun event hevent => ?_
    rcases List.mem_append.mp hevent with henter | hleave
    · obtain ⟨_, _, rfl⟩ := List.mem_map.mp henter
      exact hne
    · obtain ⟨_, _, rfl⟩ := List.mem_map.mp hleave
      exact hne
  exact hsent

theorem frameTracked_stable : Stable idTerms (FrameTracked delivered inFlight) where
  sent := fun _ _ h hfine => h.sent hfine
  registered := fun _ _ _ _ h havailable _ => h.registered havailable
  retired := fun _ _ _ h hobject hplain =>
    h.retired ⟨_, hobject, rfl⟩ (Interface.plain_ne hplain rfl)
  served := fun _ h _ => ⟨h.root, h.told, h.once, h.queued, h.awaiting, h.dead, h.sized, h.stages⟩
  announced := fun _ h => h.announced
  surfaces := fun _ _ h _ => h
  outputs := fun _ _ h _ => h
  roles := fun _ _ h _ => h
  serials := fun _ _ h _ => h
  created := fun _ _ _ h havailable _ => h.registered havailable
  destroyed := fun _ _ h hlive _ => h.retired hlive (by simp)
  moved := fun _ _ current h _ hlive _ => h.moved hlive current
  bound := fun _ _ _ _ h _ _ => h
  outputEvent := by
    intro event object _ hinterface other hother hbanned
    obtain rfl := Option.some.inj hother
    have hdisplay := hbanned.2
    rw [hinterface] at hdisplay
    cases hdisplay
  method := fun _ _ _ _ h havailable => h.registered havailable
  unmade := fun _ _ _ _ hlasting => hlasting.elim
  pool := fun _ _ _ _ _ h havailable _ => h.registered havailable
  poolResized := fun _ _ _ _ _ h _ => h
  poolGone := fun _ _ _ h hlive _ => h.retired hlive (by simp)
  buffer := fun _ _ _ _ _ _ _ _ _ _ h havailable _ => h.registered havailable
  bufferGone := fun _ _ _ h hlive _ => h.retired hlive (by simp)
  undone := by
    intro f id object h havailable
    refine Tracked.retired (h.registered havailable) ?_ havailable.1
    exact OrdMap.contains_insert.mpr (.inl rfl)
  seat := fun _ _ h => h
  pointer := fun _ _ _ _ _ h havailable _ _ => h.registered havailable
  pointerGone := fun _ _ _ h hlive _ => h.retired hlive (by simp)
  keyboard := fun _ _ _ _ _ h havailable _ => h.registered havailable

end Frames

/-! Connections. -/

/-- A core with the events that were returned, and those of them that were delivered. -/
structure Connection where
  core : HeadlessWireCore
  delivered : List WaylandMessage := []
  inFlight : List WaylandMessage := []
  fault : Option Fault := none

inductive Exchange
  | dispatch (message : WaylandMessage) (fds : List Nat) (environment : Environment)
  | deliver

namespace Connection

def dispatched (c : Connection) (message : WaylandMessage) (fds : List Nat)
    (environment : Environment) : Connection :=
  match dispatchWithFds message fds environment c.core with
  | .ok events core => { c with core := core, inFlight := c.inFlight ++ events }
  | .error fault core => { c with core := core, fault := some fault }

/-- The event that was returned first is written and acknowledged. -/
def deliver (c : Connection) : Connection :=
  match c.inFlight with
  | [] => c
  | event :: rest =>
    match acknowledgeEventDelivery event c.core with
    | .ok _ core => { c with
        core := core
        delivered := c.delivered ++ [event]
        inFlight := rest }
    | .error fault core => { c with core := core, fault := some fault }

def step (c : Connection) (exchange : Exchange) : Connection :=
  match c.fault with
  | some _ => c
  | none =>
    match exchange with
    | .dispatch message fds environment => c.dispatched message fds environment
    | .deliver => c.deliver

def Fresh (c : Connection) : Prop :=
  ∃ deferCallbacks deferFeedback, c = { core := freshCore deferCallbacks deferFeedback }

end Connection

def connections : System Connection Exchange where
  init := Connection.Fresh
  next := Connection.step

/-- Between dispatches every destroyed id is announced. -/
structure Connection.Sound (c : Connection) : Prop where
  anchored : Anchored none c.core.anchors
  tracked : Tracked c.delivered c.inFlight c.core.registry [] c.core.log
  settled : ∀ id, c.core.registry.retiredPendingDelete.contains id = true →
    c.core.registry.queuedDeleteIds.contains id = true

/-- What a client may rely on for the ids of its objects. -/
structure Accounted (c : Connection) : Prop where
  lives : ∀ id, id < firstServerId → id ≠ displayId → stageOf id c.core.log =
    some (if c.core.registry.objects.contains id = true then .live else .free)
  told : c.core.log.filterMap Note.deleted = deletions (c.delivered ++ c.inFlight)
  once : (deletions c.inFlight).Nodup
  awaiting : ∀ id, c.core.registry.retiredPendingDelete.contains id = true ↔
    id ∈ deletions c.inFlight
  barred : ∀ id, c.core.registry.retiredPendingDelete.contains id = true →
    c.core.registry.objects.contains id = false ∧ ¬ c.core.registry.Available id
  acknowledged : ∀ event rest, c.inFlight = event :: rest →
    ∃ core, acknowledgeEventDelivery event c.core = .ok () core ∧
      ∀ id, deletedId event = some id → core.registry.Available id

/-! Deliveries. -/

section Deliveries

variable {c : Connection} {id : Nat} {event : WaylandMessage} {rest : List WaylandMessage}

/-- The registry once a deletion was acknowledged. -/
def WireObjectRegistry.freed (r : WireObjectRegistry) (id : Nat) : WireObjectRegistry :=
  { r with
    retiredPendingDelete := r.retiredPendingDelete.erase id
    queuedDeleteIds := r.queuedDeleteIds.erase id
    reusableIds := r.reusableIds.insert id () }

theorem deletedId_eq_some (h : deletedId event = some id) :
    event.header.objectId = displayId ∧ event.header.opcode = 1 ∧ readU32 event.payload = id := by
  unfold deletedId at h
  split_ifs at h with hdisplay
  exact ⟨hdisplay.1, hdisplay.2, Option.some.inj h⟩

/-- A delivery that deletes nothing. -/
theorem acknowledge_silent (h : deletedId event = none) (core : HeadlessWireCore) :
    acknowledgeEventDelivery event core = .ok () core := by
  unfold deletedId at h
  split_ifs at h with hdisplay
  unfold acknowledgeEventDelivery
  rw [if_neg hdisplay]
  rfl

theorem onPart_ok {α : Type} {part : HeadlessWireCore → α}
    {put : HeadlessWireCore → α → HeadlessWireCore} {op : α → Fallible α} {a : α}
    (h : op (part core) = .ok a) : onPart part put op core = .ok () (put core a) := by
  change EStateM.bind (lift (op (part core))) (fun changed => set (put core changed)) core = _
  rw [h]
  rfl

theorem acknowledge_deleted (h : deletedId event = some id) (hlength : event.payload.length = 4)
    (hretired : core.registry.retiredPendingDelete.contains id = true) :
    acknowledgeEventDelivery event core =
      .ok () (core.withRegistry (core.registry.freed id)) := by
  obtain ⟨hobject, hopcode, hid⟩ := deletedId_eq_some h
  have hfreed : core.registry.acknowledgeDeleteId (readU32 event.payload) =
      .ok (core.registry.freed id) := by
    rw [hid]
    exact if_pos hretired
  have hlong : ¬ event.payload.length ≠ 4 := by omega
  unfold acknowledgeEventDelivery
  rw [if_pos ⟨hobject, hopcode⟩, if_neg hlong]
  exact onPart_ok hfreed

/-- What the first event in flight is acknowledged with. -/
theorem Connection.Sound.head (h : c.Sound) (hflight : c.inFlight = event :: rest)
    (hdeleted : deletedId event = some id) :
    c.core.registry.retiredPendingDelete.contains id = true ∧ event.payload.length = 4 := by
  have hmem : id ∈ deletions (c.inFlight ++ []) := by
    rw [hflight]
    simp [deletions, hdeleted]
  refine ⟨h.tracked.awaiting id ((h.tracked.queued id).mpr hmem), ?_⟩
  refine h.tracked.sized event ?_ (by simp [hdeleted])
  rw [hflight]
  simp

theorem Tracked.acknowledged (h : Tracked delivered (event :: rest) r [] log)
    (hdeleted : deletedId event = some id) :
    Tracked (delivered ++ [event]) rest (r.freed id) [] log := by
  have hids : deletions (event :: rest ++ []) = id :: deletions (rest ++ []) := by
    simp [deletions, hdeleted]
  have hnodup := h.once
  rw [hids] at hnodup
  obtain ⟨hnew, honce⟩ := List.nodup_cons.mp hnodup
  have hqueue : ∀ other, (r.freed id).queuedDeleteIds.contains other = true ↔
      other ≠ id ∧ r.queuedDeleteIds.contains other = true := fun other => OrdMap.contains_erase
  have hwait : ∀ other, (r.freed id).retiredPendingDelete.contains other = true ↔
      other ≠ id ∧ r.retiredPendingDelete.contains other = true :=
    fun other => OrdMap.contains_erase
  have hqueued : r.queuedDeleteIds.contains id = true := by
    rw [h.queued, hids]
    exact List.mem_cons_self
  obtain ⟨hgone, _⟩ := h.dead id (h.awaiting id hqueued)
  refine ⟨h.root, ?_, honce, fun other => ?_, fun other hother => ?_, fun other hother => ?_,
    fun e he => ?_, fun other hclient hne => ?_⟩
  · rw [h.told]
    simp [List.append_assoc]
  · rw [hqueue, h.queued, hids, List.mem_cons]
    constructor
    · rintro ⟨hother, heq | hmem⟩
      · exact absurd heq hother
      · exact hmem
    · intro hmem
      refine ⟨fun heq => hnew (heq ▸ hmem), .inr hmem⟩
  · obtain ⟨hother', hold⟩ := (hqueue other).mp hother
    exact (hwait other).mpr ⟨hother', h.awaiting other hold⟩
  · exact h.dead other ((hwait other).mp hother).2
  · exact h.sized e (List.mem_cons_of_mem _ he)
  · have hqueue' := hqueue other
    have hwait' := hwait other
    have hlive : (r.freed id).objects = r.objects := rfl
    rw [h.stages other hclient hne]
    unfold WireObjectRegistry.stage
    rw [hlive]
    by_cases heq : other = id
    · subst heq
      simp [hgone, hqueued, hwait']
    · simp only [heq, ne_eq, not_false_eq_true, true_and] at hqueue' hwait'
      rw [Bool.eq_iff_iff.mpr hqueue', Bool.eq_iff_iff.mpr hwait']

theorem Tracked.passed (h : Tracked delivered (event :: rest) r [] log)
    (hdeleted : deletedId event = none) : Tracked (delivered ++ [event]) rest r [] log := by
  have hids : deletions (event :: rest ++ []) = deletions (rest ++ []) := by
    simp [deletions, hdeleted]
  refine ⟨h.root, ?_, ?_, ?_, h.awaiting, h.dead, fun e he => ?_, h.stages⟩
  · rw [h.told]
    simp [List.append_assoc]
  · rw [← hids]
    exact h.once
  · rw [← hids]
    exact h.queued
  · exact h.sized e (List.mem_cons_of_mem _ he)

theorem Connection.Sound.accounted (h : c.Sound) : Accounted c where
  lives := by
    intro id hclient hne
    rw [h.tracked.stages id hclient hne]
    unfold WireObjectRegistry.stage
    have hsettled := h.settled id
    split_ifs with hlive hwaiting
    · rfl
    · exact absurd (hwaiting.2.symm.trans (hsettled hwaiting.1)) (by simp)
    · rfl
  told := by
    rw [h.tracked.told, List.append_nil]
  once := by
    have honce := h.tracked.once
    rwa [List.append_nil] at honce
  awaiting := by
    intro id
    have hqueued := h.tracked.queued id
    rw [List.append_nil] at hqueued
    rw [← hqueued]
    exact ⟨h.settled id, h.tracked.awaiting id⟩
  barred := by
    intro id hretired
    refine ⟨(h.tracked.dead id hretired).1, fun havailable => ?_⟩
    exact absurd (havailable.2.2.symm.trans hretired) (by simp)
  acknowledged := by
    intro event rest hflight
    cases hdeleted : deletedId event with
    | none => exact ⟨_, acknowledge_silent hdeleted _, fun _ heq => by cases heq⟩
    | some id =>
      obtain ⟨hretired, hlength⟩ := h.head hflight hdeleted
      refine ⟨_, acknowledge_deleted hdeleted hlength hretired, fun other heq => ?_⟩
      obtain rfl := Option.some.inj heq
      obtain ⟨hgone, _, hne⟩ := h.tracked.dead id hretired
      refine ⟨hne, hgone, ?_⟩
      rw [Bool.eq_false_iff]
      intro hstill
      exact (OrdMap.contains_erase.mp hstill).1 rfl

theorem Connection.Sound.deliver (h : c.Sound) : c.deliver.Sound := by
  unfold Connection.deliver
  cases hflight : c.inFlight with
  | nil => exact h
  | cons event rest =>
    have htracked := h.tracked
    rw [hflight] at htracked
    cases hdeleted : deletedId event with
    | none =>
      simp only [acknowledge_silent hdeleted]
      exact ⟨h.anchored, htracked.passed hdeleted, h.settled⟩
    | some id =>
      obtain ⟨hretired, hlength⟩ := h.head hflight hdeleted
      simp only [acknowledge_deleted hdeleted hlength hretired]
      refine ⟨h.anchored, htracked.acknowledged hdeleted, fun other hother => ?_⟩
      obtain ⟨hne, hold⟩ := OrdMap.contains_erase.mp hother
      exact OrdMap.contains_erase.mpr ⟨hne, h.settled other hold⟩

end Deliveries

/-! Dispatches. -/

section Dispatches

variable {core : HeadlessWireCore} {c : Connection}

/-- Events that are sent to the ids of data exchange are not for the display. -/
theorem peer_target (h : Anchored none core.anchors) {id : Nat} (hpeer : core.anchors.Peer id)
    (interface : Interface) : Target idTerms.level core interface id := by
  intro object hobject hbanned
  have hinterface : object.interface = .wlDisplay := of_decide_eq_true hbanned.2
  exact h.peers id hpeer (h.display id ⟨object, hobject, hinterface⟩)

theorem idTerms_admits (h : Anchored none core.anchors) (interface : Interface) (r : Request) :
    Admits idTerms core interface r := by
  have hspared : Spared idTerms.level core interface r := by
    refine ⟨fun _ _ seatId _ device hdevice => peer_target h (.inl ?_) _, ?_⟩
    · obtain ⟨_, hget⟩ := OrdMap.mem_keys.mp hdevice
      exact OrdMap.contains_iff.mpr ⟨_, (OrdMap.get?_filter_eq_some.mp hget).1⟩
    · intro _ _ source hsource
      obtain ⟨offer, hoffer, hid⟩ := Option.bind_eq_some_iff.mp hsource
      exact peer_target h (offered_peer hoffer hid) _
  exact hspared.admits rfl id (fun _ _ => trivial) (fun _ _ => trivial)
    (fun _ _ _ _ _ => trivial) (fun _ _ _ _ => trivial) (fun _ _ _ _ _ => trivial)
    (fun _ _ => trivial) fun _ _ => trivial

/-- A dispatch that succeeds announces every id that was destroyed. -/
theorem dispatchWithFds_settled (core : HeadlessWireCore) (message : WaylandMessage)
    (fds : List Nat) (environment : Environment) :
    Ends (fun _ _ => True) (dispatchWithFds message fds environment) core fun _ core' =>
      ∀ id, core'.registry.retiredPendingDelete.contains id = true →
        core'.registry.queuedDeleteIds.contains id = true := by
  unfold dispatchWithFds
  refine Ends.then (ends_any fun _ _ => trivial) fun object _ _ => Ends.then (ends_any fun _ _ => trivial) fun spec _ _ => ?_
  refine Ends.then (ends_any fun _ _ => trivial) fun args _ _ => Ends.then (ends_any fun _ _ => trivial) fun _ _ _ => ?_
  refine Ends.then (ends_any fun _ _ => trivial) fun _ _ _ => Ends.then (ends_any fun _ _ => trivial) fun _ core₁ _ => ?_
  have hannounced : Ends (fun _ _ => True) announceDeletedIds core₁ fun _ core' =>
      ∀ id, core'.registry.retiredPendingDelete.contains id = true →
        core'.registry.queuedDeleteIds.contains id = true := by
    refine ends_bind.mpr (ends_get.mpr (ends_bind.mpr (ends_set.mpr (ends_modify.mpr ?_))))
    intro id
    rw [object?_foldl_pushed]
    intro hretired
    refine OrdSet.contains_foldl_insert.mpr ?_
    cases hqueued : core₁.registry.queuedDeleteIds.contains id with
    | true => exact .inr rfl
    | false => exact .inl (OrdSet.mem_difference.mpr ⟨hretired, hqueued⟩)
  exact Ends.then hannounced fun _ _ h => ends_bind.mpr (ends_get.mpr (ends_pure.mpr h))

theorem Connection.Sound.dispatched (h : c.Sound) {message : WaylandMessage} {fds : List Nat}
    {environment : Environment} (hopen : (c.dispatched message fds environment).fault = none) :
    (c.dispatched message fds environment).Sound := by
  have hready : Holds (FrameTracked c.delivered c.inFlight) none (c.core.readied fds) :=
    ⟨h.anchored, h.tracked⟩
  have hends : Ends (Tolerated idTerms.safe (Left idTerms (FrameTracked c.delivered c.inFlight)))
      (dispatchWithFds message fds environment) c.core fun events core' =>
        Holds (FrameTracked c.delivered c.inFlight) none core' ∧ events = core'.eventsOut :=
    dispatchWithFds_ends frameTracked_stable (fun hlasting => hlasting.elim) hready
      fun _ _ _ => idTerms_admits hready.anchored _ _
  have hsettled := dispatchWithFds_settled c.core message fds environment
  unfold Connection.dispatched at hopen ⊢
  cases hresult : dispatchWithFds message fds environment c.core with
  | error fault core' =>
    rw [hresult] at hopen
    cases hopen
  | ok events core' =>
    obtain ⟨hholds, rfl⟩ := hends.ok hresult
    have hkept : Tracked c.delivered c.inFlight core'.registry core'.eventsOut core'.log :=
      hholds.kept
    refine ⟨hholds.anchored, ⟨hkept.root, ?_, ?_, ?_, hkept.awaiting, hkept.dead, ?_,
      hkept.stages⟩, hsettled.ok hresult⟩
    · rw [hkept.told]
      simp
    · rw [List.append_nil]
      exact hkept.once
    · rw [List.append_nil]
      exact hkept.queued
    · rw [List.append_nil]
      exact hkept.sized

theorem Connection.Sound.fresh (h : c.Fresh) : c.Sound := by
  obtain ⟨deferCallbacks, deferFeedback, rfl⟩ := h
  refine ⟨freshCore_anchored _ _, ⟨rfl, rfl, List.nodup_nil, fun id => ?_, fun id hid => ?_,
    fun id hid => ?_, fun event hevent => ?_, fun id _ hne => ?_⟩, fun id hid => ?_⟩
  · exact ⟨fun hid => (by cases hid), fun hid => (by cases hid)⟩
  · cases hid
  · cases hid
  · cases hevent
  · have hfree : ({} : WireObjectRegistry).objects.contains id = false := by
      rw [OrdMap.contains, OrdMap.get?_insert_ne _ _ hne]
      rfl
    change some Stage.free = some (WireObjectRegistry.stage {} id)
    unfold WireObjectRegistry.stage
    rw [hfree]
    rfl
  · cases hid

theorem Connection.Sound.step (h : c.fault = none → c.Sound) (exchange : Exchange)
    (hopen : (c.step exchange).fault = none) : (c.step exchange).Sound := by
  unfold Connection.step at hopen ⊢
  cases hfault : c.fault with
  | some fault =>
    simp only [hfault] at hopen
    cases hopen
  | none =>
    simp only [hfault] at hopen ⊢
    cases exchange with
    | dispatch message fds environment => exact (h hfault).dispatched hopen
    | deliver => exact (h hfault).deliver

end Dispatches

theorem connection_accounted {c : Connection} (h : connections.Reachable c)
    (hopen : c.fault = none) : Accounted c := by
  have hsound : c.fault = none → c.Sound := by
    refine h.invariant (I := fun c => c.fault = none → c.Sound) ?_ ?_
    · exact fun c hfresh _ => Connection.Sound.fresh hfresh
    · exact fun c exchange hsound _ hnext => Connection.Sound.step hsound exchange hnext
  exact (hsound hopen).accounted

/-- A client that asked for a sync under the id 2 and was told that it is done. -/
def syncedConnection : Connection :=
  connections.run { core := freshCore false false }
    [.dispatch (.new displayId 0 (WaylandWire.writeU32 2)) [] stillEnvironment, .deliver]

theorem syncedConnection_accounted : Accounted syncedConnection := by
  have hinit : connections.Reachable { core := freshCore false false } :=
    .init ⟨false, false, rfl⟩
  exact connection_accounted (hinit.run _) (by decide +kernel)

end TuffXwin.Headless
