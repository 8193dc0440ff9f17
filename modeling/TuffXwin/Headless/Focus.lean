import TuffXwin.Headless.PhysicalInput
import TuffXwin.Headless.Runs

/-! What the clients of pointers and keyboards are told of their focus. A surface that goes
takes the focus with it, so an id that is used again has to be entered again. The focus that
the core keeps is what the client was told only while pointers are created before surfaces
and surfaces in focus are not destroyed. -/

namespace TuffXwin.Headless
open Lib
open WaylandWire (WireError WaylandMessage readU32 writeU32 writeI32 displayId)

variable {before : List Note}

inductive FocusEvent
  | enter (surfaceId : Nat)
  | leave (surfaceId : Nat)
  | input
  deriving DecidableEq, Repr

/-- What an event tells an object of its focus. -/
def focusEvent (event : WaylandMessage) (object : WireObject) : Option FocusEvent :=
  match object.interface, event.header.opcode with
  | .wlPointer, 0 => some (.enter (readU32 (event.payload.drop 4)))
  | .wlPointer, 1 => some (.leave (readU32 (event.payload.drop 4)))
  | .wlPointer, 2 => some .input
  | .wlPointer, 3 => some .input
  | .wlKeyboard, 1 => some (.enter (readU32 (event.payload.drop 4)))
  | .wlKeyboard, 2 => some (.leave (readU32 (event.payload.drop 4)))
  | .wlKeyboard, 3 => some .input
  | _, _ => none

/-- The focus of an object after a note, as its client knows it. -/
def heldAfter (id : Nat) (held : Option Nat) : Note → Option Nat
  | .created other _ => if other = id then none else held
  | .destroyed other => if held = some other then none else held
  | .sent event target =>
    if event.header.objectId = id then
      match target.bind (focusEvent event) with
      | some (.enter surfaceId) => some surfaceId
      | some (.leave _) => none
      | _ => held
    else held

/-- The surface that the object was last told to be on, while that surface lasts. -/
def heldBy (id : Nat) (log : List Note) : Option Nat := log.foldl (heldAfter id) none

def aliveAfter (surfaceId : Nat) (alive : Bool) : Note → Bool
  | .created other object =>
    if other = surfaceId then decide (object.interface = .wlSurface) else alive
  | .destroyed other => if other = surfaceId then false else alive
  | .sent _ _ => alive

/-- The id is that of a surface, by the history of the core. -/
def surfaceAlive (surfaceId : Nat) (log : List Note) : Bool :=
  log.foldl (aliveAfter surfaceId) false

/-- An enter names a surface; a leave the surface that was entered; and input is for an
object that is on a surface. -/
def FairNote (before : List Note) : Note → Prop
  | .sent event target =>
    match target.bind (focusEvent event) with
    | some (.enter surfaceId) => surfaceAlive surfaceId before = true
    | some (.leave surfaceId) => heldBy event.header.objectId before = some surfaceId ∧
        surfaceAlive surfaceId before = true
    | some .input => ∃ surfaceId ∈ heldBy event.header.objectId before,
        surfaceAlive surfaceId before = true
    | none => True
  | _ => True

def FocusPaired (log : List Note) : Prop :=
  ∀ before note after, log = before ++ note :: after → FairNote before note

section Log

variable {log : List Note} {id surfaceId : Nat}

theorem heldBy_append (id : Nat) (log : List Note) (note : Note) :
    heldBy id (log ++ [note]) = heldAfter id (heldBy id log) note := by
  simp [heldBy, List.foldl_append]

theorem surfaceAlive_append (surfaceId : Nat) (log : List Note) (note : Note) :
    surfaceAlive surfaceId (log ++ [note]) =
      aliveAfter surfaceId (surfaceAlive surfaceId log) note := by
  simp [surfaceAlive, List.foldl_append]

theorem FocusPaired.append (h : FocusPaired log) {note : Note} (hfair : FairNote log note) :
    FocusPaired (log ++ [note]) := by
  intro before other after heq
  rcases List.eq_nil_or_concat after with rfl | ⟨rest, last, rfl⟩
  · obtain ⟨rfl, hnote⟩ := List.append_inj' heq rfl
    obtain rfl := List.singleton_inj.mp hnote
    exact hfair
  · rw [List.concat_eq_append, ← List.cons_append, ← List.append_assoc] at heq
    exact h before other rest (List.append_inj' heq rfl).1

end Log

/-- What the history says is so: of the surfaces, and of what devices were told. -/
structure FocusLog (objects : OrdMap Nat WireObject) (log : List Note) : Prop where
  alive : ∀ surfaceId, surfaceAlive surfaceId log = true ↔ LiveAs objects .wlSurface surfaceId
  entered : ∀ id, ∀ surfaceId ∈ heldBy id log, surfaceAlive surfaceId log = true
  paired : FocusPaired log

section FocusLog

variable {objects : OrdMap Nat WireObject} {log : List Note} {id surfaceId : Nat}
  {event : WaylandMessage} {target : Option WireObject}

theorem FocusLog.sent (h : FocusLog objects log) (hfair : FairNote log (.sent event target)) :
    FocusLog objects (log ++ [.sent event target]) where
  alive := by
    intro surfaceId
    rw [surfaceAlive_append]
    exact h.alive surfaceId
  entered := by
    intro id surfaceId hheld
    rw [surfaceAlive_append]
    change surfaceAlive surfaceId log = true
    rw [heldBy_append] at hheld
    dsimp only [heldAfter] at hheld
    split_ifs at hheld with heq
    · dsimp only [FairNote] at hfair
      cases hkind : target.bind (focusEvent event) with
      | none =>
        rw [hkind] at hheld
        exact h.entered id surfaceId hheld
      | some kind =>
        rw [hkind] at hheld hfair
        cases kind with
        | enter other =>
          obtain rfl := Option.some.inj hheld
          exact hfair
        | leave other => cases hheld
        | input => exact h.entered id surfaceId hheld
    · exact h.entered id surfaceId hheld
  paired := h.paired.append hfair

theorem FocusLog.created (h : FocusLog objects log) (hnone : objects.get? id = none)
    (object : WireObject) :
    FocusLog (objects.insert id object) (log ++ [.created id object]) where
  alive := by
    intro surfaceId
    rw [surfaceAlive_append, aliveAfter]
    by_cases heq : id = surfaceId
    · subst heq
      rw [if_pos rfl, decide_eq_true_iff]
      constructor
      · exact fun hinterface => ⟨object, OrdMap.get?_insert_self _ _ _, hinterface⟩
      · rintro ⟨other, hother, hinterface⟩
        rw [OrdMap.get?_insert_self] at hother
        rwa [Option.some.inj hother]
    · rw [if_neg heq, h.alive surfaceId]
      constructor
      · exact fun hlive => hlive.registered hnone
      · intro hlive
        cases hlive.of_registered with
        | inl hnew => exact absurd hnew.1.symm heq
        | inr hold => exact hold
  entered := by
    intro other surfaceId hheld
    rw [heldBy_append, heldAfter] at hheld
    split_ifs at hheld
    · cases hheld
    have halive := h.entered other surfaceId hheld
    have hne : id ≠ surfaceId := by
      rintro rfl
      obtain ⟨_, hobject, _⟩ := (h.alive id).mp halive
      rw [hnone] at hobject
      cases hobject
    rw [surfaceAlive_append, aliveAfter, if_neg hne]
    exact halive
  paired := h.paired.append trivial

theorem FocusLog.destroyed (h : FocusLog objects log) (id : Nat) :
    FocusLog (objects.erase id) (log ++ [.destroyed id]) where
  alive := by
    intro surfaceId
    rw [surfaceAlive_append, aliveAfter]
    by_cases heq : id = surfaceId
    · rw [if_pos heq]
      constructor
      · intro hfalse
        cases hfalse
      · intro hlive
        exact absurd heq.symm hlive.of_retired.1
    · rw [if_neg heq, h.alive surfaceId]
      exact ⟨fun hlive => hlive.retired (Ne.symm heq), fun hlive => hlive.of_retired.2⟩
  entered := by
    intro other surfaceId hheld
    rw [heldBy_append, heldAfter] at hheld
    split_ifs at hheld with hsame
    · cases hheld
    have hne : id ≠ surfaceId := by
      rintro rfl
      exact hsame hheld
    rw [surfaceAlive_append, aliveAfter, if_neg hne]
    exact h.entered other surfaceId hheld
  paired := h.paired.append trivial

/-! One device, told of a change of focus and of input. -/

/-- The device is on the surface, and other devices are where they were. -/
structure Entered (objects : OrdMap Nat WireObject) (before log : List Note) (id surfaceId : Nat) :
    Prop where
  history : FocusLog objects log
  held : heldBy id log = some surfaceId
  others : ∀ other, other ≠ id → heldBy other log = heldBy other before

/-- An event to the device that tells it this. -/
def Tells (objects : OrdMap Nat WireObject) (id : Nat) (event : WaylandMessage)
    (kind : Option FocusEvent) : Prop :=
  event.header.objectId = id ∧ (objects.get? id).bind (focusEvent event) = kind

def notesOf (objects : OrdMap Nat WireObject) (events : List WaylandMessage) : List Note :=
  events.map fun event => .sent event (objects.get? event.header.objectId)

theorem heldBy_sent_ne {other : Nat} (hid : event.header.objectId = id) (hne : other ≠ id) :
    heldBy other (log ++ [.sent event target]) = heldBy other log := by
  rw [heldBy_append, heldAfter, if_neg]
  rw [hid]
  exact hne.symm

theorem Entered.input (h : Entered objects before log id surfaceId)
    (htells : Tells objects id event (some .input) ∨ Tells objects id event none) :
    Entered objects before (log ++ [.sent event (objects.get? event.header.objectId)]) id
      surfaceId := by
  have hid : event.header.objectId = id := htells.elim And.left And.left
  have hheld : heldBy id (log ++ [.sent event (objects.get? event.header.objectId)]) =
      some surfaceId := by
    rw [heldBy_append, heldAfter, if_pos hid, hid]
    rcases htells with ⟨_, hkind⟩ | ⟨_, hkind⟩
    · rw [hkind]
      exact h.held
    · rw [hkind]
      exact h.held
  refine ⟨h.history.sent ?_, hheld, fun other hne => ?_⟩
  · dsimp only [FairNote]
    rw [hid]
    rcases htells with ⟨_, hkind⟩ | ⟨_, hkind⟩
    · rw [hkind]
      exact ⟨surfaceId, h.held, h.history.entered id surfaceId h.held⟩
    · rw [hkind]
      trivial
  · rw [heldBy_sent_ne hid hne]
    exact h.others other hne

theorem Entered.inputs {events : List WaylandMessage} (h : Entered objects before log id surfaceId)
    (htell : ∀ event ∈ events, Tells objects id event (some .input) ∨ Tells objects id event none) :
    Entered objects before (log ++ notesOf objects events) id surfaceId := by
  induction events generalizing log with
  | nil => rwa [notesOf, List.map_nil, List.append_nil]
  | cons event rest ih =>
    have hfirst := h.input (htell event List.mem_cons_self)
    have hrest := ih hfirst fun e he => htell e (List.mem_cons_of_mem _ he)
    rwa [List.append_assoc] at hrest

/-- The events of a change of focus, from the surface that the device was told. -/
theorem FocusLog.focused (h : FocusLog objects log) {old : Option Nat}
    {leave : Nat → WaylandMessage} {enter : WaylandMessage}
    (hold : ∀ oldId ∈ old, heldBy id log = some oldId)
    (hsurface : LiveAs objects .wlSurface surfaceId)
    (hleave : ∀ oldId ∈ old, Tells objects id (leave oldId) (some (.leave oldId)))
    (henter : Tells objects id enter (some (.enter surfaceId))) :
    Entered objects log (log ++ notesOf objects (focusEvents old surfaceId leave enter)) id
      surfaceId := by
  have entering : ∀ log', FocusLog objects log' →
      (∀ other, other ≠ id → heldBy other log' = heldBy other log) →
      Entered objects log (log' ++ notesOf objects [enter]) id surfaceId := by
    intro log' hlog hothers
    obtain ⟨hid, hkind⟩ := henter
    have hfair : FairNote log' (.sent enter (objects.get? enter.header.objectId)) := by
      dsimp only [FairNote]
      rw [hid, hkind]
      exact (hlog.alive surfaceId).mpr hsurface
    refine ⟨hlog.sent hfair, ?_, fun other hne => ?_⟩
    · change heldBy id (log' ++ [.sent enter (objects.get? enter.header.objectId)]) = _
      rw [heldBy_append, heldAfter, if_pos hid, hid, hkind]
    · exact (heldBy_sent_ne hid hne).trans (hothers other hne)
  unfold focusEvents
  split_ifs with hsame
  · rw [notesOf, List.map_nil, List.append_nil]
    exact ⟨h, hold surfaceId hsame, fun _ _ => rfl⟩
  · cases old with
    | none => exact entering log h fun _ _ => rfl
    | some oldId =>
      obtain ⟨hid, hkind⟩ := hleave oldId rfl
      have hheld := hold oldId rfl
      have hfair : FairNote log (.sent (leave oldId)
          (objects.get? (leave oldId).header.objectId)) := by
        dsimp only [FairNote]
        rw [hid, hkind]
        exact ⟨hheld, h.entered id oldId hheld⟩
      have hleft := entering _ (h.sent hfair) fun other hne => heldBy_sent_ne hid hne
      rwa [List.append_assoc] at hleft

end FocusLog

end TuffXwin.Headless
