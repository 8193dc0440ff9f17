import TuffXwin.Headless.Focus

/-! Runs of a client with physical input between its requests. The focus of every pointer and
keyboard is what its client was told, in runs whose steps do not set or lose it silently. -/

namespace TuffXwin.Headless
open Lib
open WaylandWire (WireError WireArg WaylandMessage readU32 writeU32 writeI32 displayId
  readU32_append)

variable {input : SeatManager}
variable {seat version : Nat} {objects : OrdMap Nat WireObject} {events : List WaylandMessage}
  {event : PhysicalInputEvent} {core : HeadlessWireCore} {message : WaylandMessage}

/-- The devices of a table are objects of the interface, and are where they were told. -/
def Told {ν : Type} (objects : OrdMap Nat WireObject) (log : List Note) (interface : Interface)
    (table : OrdMap Nat ν) (focus : ν → Option Nat) : Prop :=
  ∀ id device, table.get? id = some device → LiveAs objects interface id ∧
    ∀ surfaceId ∈ focus device, heldBy id log = some surfaceId

section Told

variable {ν : Type} {objects objects' : OrdMap Nat WireObject} {log log' : List Note}
  {interface : Interface} {table : OrdMap Nat ν} {focus : ν → Option Nat} {id : Nat}

section

variable (h : Told objects log interface table focus)
include h

theorem Told.same
    (hheld : ∀ id device, table.get? id = some device → heldBy id log' = heldBy id log) :
    Told objects log' interface table focus := by
  intro id device hdevice
  obtain ⟨hlive, hfocus⟩ := h id device hdevice
  refine ⟨hlive, fun surfaceId hsurface => ?_⟩
  rw [hheld id device hdevice]
  exact hfocus surfaceId hsurface

theorem Told.created (hnone : objects.get? id = none) (object : WireObject) :
    Told (objects.insert id object) (log ++ [.created id object]) interface table focus := by
  intro other device hdevice
  obtain ⟨hlive, hfocus⟩ := h other device hdevice
  have hne : id ≠ other := by
    rintro rfl
    obtain ⟨_, hobject, _⟩ := hlive
    rw [hnone] at hobject
    cases hobject
  refine ⟨hlive.registered hnone, fun surfaceId hsurface => ?_⟩
  rw [heldBy_append, heldAfter, if_neg hne]
  exact hfocus surfaceId hsurface

theorem Told.destroyed (hout : table.get? id = none)
    (hunfocused : ∀ other device, table.get? other = some device → focus device ≠ some id) :
    Told (objects.erase id) (log ++ [.destroyed id]) interface table focus := by
  intro other device hdevice
  obtain ⟨hlive, hfocus⟩ := h other device hdevice
  have hne : other ≠ id := by
    rintro rfl
    rw [hout] at hdevice
    cases hdevice
  refine ⟨hlive.retired hne, fun surfaceId hsurface => ?_⟩
  have hother : surfaceId ≠ id := by
    rintro rfl
    exact hunfocused other device hdevice hsurface
  rw [heldBy_append, heldAfter, hfocus surfaceId hsurface, if_neg (by simpa using hother)]

theorem Told.insert {device : ν} (hlive : LiveAs objects interface id)
    (hfocus : ∀ surfaceId ∈ focus device, heldBy id log = some surfaceId) :
    Told objects log interface (table.insert id device) focus := by
  intro other found hfound
  by_cases heq : other = id
  · rw [heq, OrdMap.get?_insert_self] at hfound
    obtain rfl := Option.some.inj hfound
    rw [heq]
    exact ⟨hlive, hfocus⟩
  · rw [OrdMap.get?_insert_ne _ _ heq] at hfound
    exact h other found hfound

theorem Told.erase : Told objects log interface (table.erase id) focus := by
  intro other found hfound
  rw [OrdMap.get?_erase] at hfound
  split_ifs at hfound
  exact h other found hfound

/-- An object of another interface is no device of the table. -/
theorem Told.absent {object : WireObject} (hobject : objects.get? id = some object)
    (hne : object.interface ≠ interface) : table.get? id = none := by
  rw [Option.eq_none_iff_forall_not_mem]
  intro device hdevice
  obtain ⟨⟨other, hother, hinterface⟩, _⟩ := h id device hdevice
  rw [hobject] at hother
  obtain rfl := Option.some.inj hother
  exact hne hinterface

/-- The device that entered the surface is on it; the others are where they were. -/
theorem Told.entered {device : ν} {surfaceId : Nat} (hlive : LiveAs objects interface id)
    (hentered : Entered objects log log' id surfaceId) (hfocus : focus device = some surfaceId) :
    Told objects log' interface (table.insert id device) focus := by
  intro other found hfound
  by_cases heq : other = id
  · rw [heq, OrdMap.get?_insert_self] at hfound
    obtain rfl := Option.some.inj hfound
    rw [heq, hfocus]
    refine ⟨hlive, fun other hother => ?_⟩
    obtain rfl := Option.some.inj hother
    exact hentered.held
  · rw [OrdMap.get?_insert_ne _ _ heq] at hfound
    obtain ⟨hother, hheld⟩ := h other found hfound
    rw [hentered.others other heq]
    exact ⟨hother, hheld⟩

end

end Told

/-- No device has the surface in focus. -/
def SeatManager.Unfocused (input : SeatManager) (surfaceId : Nat) : Prop :=
  (∀ id pointer, input.pointers.get? id = some pointer →
      pointer.focusSurfaceId ≠ some surfaceId) ∧
    ∀ id keyboard, input.keyboards.get? id = some keyboard →
      keyboard.focusSurfaceId ≠ some surfaceId

/-- The focus that is kept is what was told. -/
structure FocusKept (f : Frame) : Prop where
  root : f.objects.get? displayId = some ⟨.wlDisplay, 1⟩
  history : FocusLog f.objects f.log
  words : ∀ surfaceId, LiveAs f.objects .wlSurface surfaceId → surfaceId ≤ u32Max
  pointers : Told f.objects f.log .wlPointer f.input.pointers PointerState.focusSurfaceId
  keyboards : Told f.objects f.log .wlKeyboard f.input.keyboards KeyboardState.focusSurfaceId

/-- No request is answered by events for pointers and keyboards; a pointer is created while
there is no surface; and no surface is destroyed in focus. -/
def focusTerms : Terms where
  level := .off fun interface => interface = .wlPointer ∨ interface = .wlKeyboard
  mayCreate := fun _ id => id ≤ u32Max
  mayDestroy := fun f id => f.input.Unfocused id
  mayPoint := fun f => f.surfaces.keys.max? = none

section Frames

variable {f : Frame} {id : Nat} {object : WireObject} {event : WaylandMessage}

theorem focusEvent_none (hpointer : object.interface ≠ .wlPointer)
    (hkeyboard : object.interface ≠ .wlKeyboard) : focusEvent event object = none := by
  unfold focusEvent
  split <;> simp_all

/-- An event that tells nobody about focus. -/
theorem FocusKept.silent (h : FocusKept f)
    (hnone : (f.objects.get? event.header.objectId).bind (focusEvent event) = none) :
    FocusKept (f.sent event) := by
  have hheld : ∀ id, heldBy id (f.sent event).log = heldBy id f.log := by
    intro id
    change heldBy id (f.log ++ [_]) = _
    rw [heldBy_append]
    dsimp only [heldAfter]
    rw [hnone]
    split_ifs <;> rfl
  have hfair : FairNote f.log (.sent event (f.objects.get? event.header.objectId)) := by
    dsimp only [FairNote]
    rw [hnone]
    trivial
  exact ⟨h.root, h.history.sent hfair, h.words, h.pointers.same fun id _ _ => hheld id,
    h.keyboards.same fun id _ _ => hheld id⟩

theorem FocusKept.sent (h : FocusKept f)
    (hfine : Fine focusTerms.level event (f.objects.get? event.header.objectId)) :
    FocusKept (f.sent event) := by
  refine h.silent ?_
  cases htarget : f.objects.get? event.header.objectId with
  | none => rfl
  | some object =>
    have hnot := hfine object htarget
    refine focusEvent_none (fun heq => hnot ⟨?_, ?_⟩) fun heq => hnot ⟨?_, ?_⟩ <;> simp [heq] <;> rfl

theorem FocusKept.silentAll (events : List WaylandMessage) (h : FocusKept f)
    (hnone : ∀ event ∈ events,
      (f.objects.get? event.header.objectId).bind (focusEvent event) = none) :
    FocusKept (events.foldl Frame.sent f) := by
  induction events generalizing f with
  | nil => exact h
  | cons event rest ih =>
    have hfirst := h.silent (hnone event List.mem_cons_self)
    exact ih hfirst fun e he => hnone e (List.mem_cons_of_mem _ he)

section

variable (h : FocusKept f)
include h

theorem FocusKept.registered (havailable : f.registry.Available id)
    (hword : object.interface = .wlSurface → id ≤ u32Max) : FocusKept (f.registered id object) where
  root := (OrdMap.get?_insert_ne _ _ havailable.1.symm).trans h.root
  history := h.history.created havailable.none object
  words := by
    intro surfaceId hlive
    rcases LiveAs.of_registered hlive with ⟨heq, hinterface⟩ | hold
    · exact heq ▸ hword hinterface
    · exact h.words surfaceId hold
  pointers := h.pointers.created havailable.none object
  keyboards := h.keyboards.created havailable.none object

theorem FocusKept.retired (hne : id ≠ displayId) (hpointer : f.input.pointers.get? id = none)
    (hkeyboard : f.input.keyboards.get? id = none) (hunfocused : f.input.Unfocused id) :
    FocusKept (f.retired id) where
  root := by
    change (f.objects.erase id).get? displayId = _
    rw [OrdMap.get?_erase, if_neg hne.symm]
    exact h.root
  history := h.history.destroyed id
  words := fun surfaceId hlive => h.words surfaceId hlive.of_retired.2
  pointers := h.pointers.destroyed hpointer hunfocused.1
  keyboards := h.keyboards.destroyed hkeyboard hunfocused.2

theorem FocusKept.ne_display (hobject : f.objects.get? id = some object)
    (hne : object.interface ≠ .wlDisplay) : id ≠ displayId := by
  intro heq
  rw [heq, h.root] at hobject
  rw [← Option.some.inj hobject] at hne
  exact hne rfl

/-- What is in focus is a surface. -/
theorem FocusKept.unfocused (hobject : f.objects.get? id = some object)
    (hne : object.interface ≠ .wlSurface) : f.input.Unfocused id := by
  have hheld : ∀ device, heldBy device f.log ≠ some id := by
    intro device heq
    obtain ⟨other, hother, hinterface⟩ :=
      (h.history.alive id).mp (h.history.entered device id heq)
    rw [hobject] at hother
    obtain rfl := Option.some.inj hother
    exact hne hinterface
  refine ⟨fun device pointer hget hfocus => ?_, fun device keyboard hget hfocus => ?_⟩
  · exact hheld device ((h.pointers device pointer hget).2 id hfocus)
  · exact hheld device ((h.keyboards device keyboard hget).2 id hfocus)

/-- An object goes that is no device and no surface. -/
theorem FocusKept.gone (hobject : f.objects.get? id = some object)
    (hdisplay : object.interface ≠ .wlDisplay) (hsurface : object.interface ≠ .wlSurface)
    (hpointer : object.interface ≠ .wlPointer) (hkeyboard : object.interface ≠ .wlKeyboard) :
    FocusKept (f.retired id) :=
  h.retired (h.ne_display hobject hdisplay) (h.pointers.absent hobject hpointer)
    (h.keyboards.absent hobject hkeyboard) (h.unfocused hobject hsurface)

theorem FocusKept.announced : FocusKept f.announced := by
  have hqueued : FocusKept { f with registry := f.registry.takeDeleteIdEvents.2 } :=
    ⟨h.root, h.history, h.words, h.pointers, h.keyboards⟩
  refine hqueued.silentAll _ fun event hevent => ?_
  obtain ⟨id, _, rfl⟩ := List.mem_map.mp hevent
  change (f.objects.get? displayId).bind _ = none
  rw [h.root]
  rfl

theorem FocusKept.moved (hlive : LiveAs f.objects .wlSurface id) (current : OrdSet Nat) :
    FocusKept (f.moved id current) := by
  obtain ⟨object, hobject, hinterface⟩ := hlive
  have hsent : FocusKept ((f.moveEvents id current).foldl Frame.sent f) := by
    refine h.silentAll _ fun event hevent => ?_
    have hid : event.header.objectId = id := by
      rcases List.mem_append.mp hevent with henter | hleave
      · obtain ⟨_, _, rfl⟩ := List.mem_map.mp henter
        rfl
      · obtain ⟨_, _, rfl⟩ := List.mem_map.mp hleave
        rfl
    rw [hid, hobject]
    exact focusEvent_none (by simp [hinterface]) (by simp [hinterface])
  exact ⟨hsent.root, hsent.history, hsent.words, hsent.pointers, hsent.keyboards⟩

theorem FocusKept.pointer (havailable : f.registry.Available id)
    (hinput : f.input.getPointer seat id = .ok input) :
    FocusKept { f.registered id ⟨.wlPointer, version⟩ with input := input } := by
  have hregistered : FocusKept (f.registered id ⟨.wlPointer, version⟩) :=
    h.registered havailable (by simp)
  have hlive : LiveAs (f.registered id ⟨.wlPointer, version⟩).objects .wlPointer id :=
    ⟨_, OrdMap.get?_insert_self _ _ _, rfl⟩
  unfold SeatManager.getPointer at hinput
  split_ifs at hinput
  obtain rfl := Except.ok.inj hinput
  exact ⟨hregistered.root, hregistered.history, hregistered.words,
    hregistered.pointers.insert hlive fun _ hfocus => (by cases hfocus), hregistered.keyboards⟩

theorem FocusKept.keyboard (havailable : f.registry.Available id)
    (hinput : f.input.getKeyboard seat id = .ok input) :
    FocusKept { f.registered id ⟨.wlKeyboard, version⟩ with input := input } := by
  have hregistered : FocusKept (f.registered id ⟨.wlKeyboard, version⟩) :=
    h.registered havailable (by simp)
  have hlive : LiveAs (f.registered id ⟨.wlKeyboard, version⟩).objects .wlKeyboard id :=
    ⟨_, OrdMap.get?_insert_self _ _ _, rfl⟩
  unfold SeatManager.getKeyboard at hinput
  split_ifs at hinput
  obtain rfl := Except.ok.inj hinput
  exact ⟨hregistered.root, hregistered.history, hregistered.words, hregistered.pointers,
    hregistered.keyboards.insert hlive fun _ hfocus => (by cases hfocus)⟩

theorem FocusKept.pointerGone (hlive : LiveAs f.objects .wlPointer id)
    (hinput : f.input.releasePointer id = .ok input) :
    FocusKept { f.retired id with input := input } := by
  obtain ⟨object, hobject, hinterface⟩ := hlive
  unfold SeatManager.releasePointer at hinput
  split_ifs at hinput
  obtain rfl := Except.ok.inj hinput
  have hreleased : FocusKept { f with
      input := { f.input with pointers := f.input.pointers.erase id } } :=
    ⟨h.root, h.history, h.words, h.pointers.erase, h.keyboards⟩
  have hout : (f.input.pointers.erase id).get? id = none := by
    rw [OrdMap.get?_erase, if_pos rfl]
  have hretired := hreleased.retired (h.ne_display hobject (by simp [hinterface])) hout
    (h.keyboards.absent hobject (by simp [hinterface]))
    (hreleased.unfocused hobject (by simp [hinterface]))
  exact ⟨hretired.root, hretired.history, hretired.words, hretired.pointers, hretired.keyboards⟩

theorem FocusKept.undone (havailable : f.registry.Available id) (object : WireObject) :
    FocusKept ((f.registered id object).retired id) := by
  have hpointer : f.input.pointers.get? id = none := by
    rw [Option.eq_none_iff_forall_not_mem]
    intro device hdevice
    obtain ⟨⟨_, hobject, _⟩, _⟩ := h.pointers id device hdevice
    exact absurd (havailable.none.symm.trans hobject) (by simp)
  have hkeyboard : f.input.keyboards.get? id = none := by
    rw [Option.eq_none_iff_forall_not_mem]
    intro device hdevice
    obtain ⟨⟨_, hobject, _⟩, _⟩ := h.keyboards id device hdevice
    exact absurd (havailable.none.symm.trans hobject) (by simp)
  have hheld : ∀ device, heldBy device f.log ≠ some id := by
    intro device heq
    obtain ⟨_, hobject, _⟩ := (h.history.alive id).mp (h.history.entered device id heq)
    exact absurd (havailable.none.symm.trans hobject) (by simp)
  refine ⟨?_, (h.history.created havailable.none object).destroyed id, fun surfaceId hlive => ?_,
    (h.pointers.created havailable.none object).destroyed hpointer fun device pointer hget => ?_,
    (h.keyboards.created havailable.none object).destroyed hkeyboard
      fun device keyboard hget => ?_⟩
  · change ((f.objects.insert id object).erase id).get? displayId = _
    rw [OrdMap.get?_erase, if_neg havailable.1.symm, OrdMap.get?_insert_ne _ _ havailable.1.symm]
    exact h.root
  · obtain ⟨hne, hinserted⟩ := hlive.of_retired
    rcases LiveAs.of_registered hinserted with ⟨heq, _⟩ | hold
    · exact absurd heq hne
    · exact h.words surfaceId hold
  · exact fun hfocus => hheld device ((h.pointers device pointer hget).2 id hfocus)
  · exact fun hfocus => hheld device ((h.keyboards device keyboard hget).2 id hfocus)

end

theorem focusKept_stable : Stable focusTerms FocusKept where
  sent := fun _ _ h hfine => h.sent hfine
  registered := fun _ _ _ _ h havailable hplain =>
    h.registered havailable fun hsurface => absurd hsurface (Interface.plain_ne hplain rfl)
  retired := fun _ _ _ h hobject hplain =>
    h.gone hobject (Interface.plain_ne hplain rfl) (Interface.plain_ne hplain rfl)
      (Interface.plain_ne hplain rfl) (Interface.plain_ne hplain rfl)
  served := fun _ h _ => ⟨h.root, h.history, h.words, h.pointers, h.keyboards⟩
  announced := fun _ h => h.announced
  surfaces := fun _ _ h _ => ⟨h.root, h.history, h.words, h.pointers, h.keyboards⟩
  outputs := fun _ _ h _ => ⟨h.root, h.history, h.words, h.pointers, h.keyboards⟩
  roles := fun _ _ h _ => ⟨h.root, h.history, h.words, h.pointers, h.keyboards⟩
  serials := fun _ _ h _ => ⟨h.root, h.history, h.words, h.pointers, h.keyboards⟩
  created := by
    intro f id version h havailable hword
    have hregistered : FocusKept (f.registered id ⟨.wlSurface, version⟩) :=
      h.registered havailable fun _ => hword
    exact ⟨hregistered.root, hregistered.history, hregistered.words, hregistered.pointers,
      hregistered.keyboards⟩
  destroyed := by
    intro f id h hlive hunfocused
    obtain ⟨object, hobject, hinterface⟩ := hlive
    have hretired := h.retired (h.ne_display hobject (by simp [hinterface]))
      (h.pointers.absent hobject (by simp [hinterface]))
      (h.keyboards.absent hobject (by simp [hinterface])) hunfocused
    exact ⟨hretired.root, hretired.history, hretired.words, hretired.pointers,
      hretired.keyboards⟩
  moved := fun _ _ current h _ hlive _ => h.moved hlive current
  bound := fun _ _ _ _ h _ _ => ⟨h.root, h.history, h.words, h.pointers, h.keyboards⟩
  outputEvent := by
    intro event object _ hinterface other hother hbanned
    obtain rfl := Option.some.inj hother
    have hquiet := hbanned.1
    rw [hinterface] at hquiet
    cases hquiet
  method := by
    intro f id version _ h havailable
    have hregistered : FocusKept (f.registered id ⟨.zwpInputMethodV2, version⟩) :=
      h.registered havailable (by simp)
    exact ⟨hregistered.root, hregistered.history, hregistered.words, hregistered.pointers,
      hregistered.keyboards⟩
  unmade := fun _ _ _ _ hlasting => hlasting.elim
  pool := by
    intro f id version _ _ h havailable _
    have hregistered : FocusKept (f.registered id ⟨.wlShmPool, version⟩) :=
      h.registered havailable (by simp)
    exact ⟨hregistered.root, hregistered.history, hregistered.words, hregistered.pointers,
      hregistered.keyboards⟩
  poolResized := fun _ _ _ _ _ h _ => ⟨h.root, h.history, h.words, h.pointers, h.keyboards⟩
  poolGone := by
    intro f id _ h hlive _
    obtain ⟨object, hobject, hinterface⟩ := hlive
    have hgone := h.gone hobject (by simp [hinterface]) (by simp [hinterface])
      (by simp [hinterface]) (by simp [hinterface])
    exact ⟨hgone.root, hgone.history, hgone.words, hgone.pointers, hgone.keyboards⟩
  buffer := by
    intro f id version _ _ _ _ _ _ _ h havailable _
    have hregistered : FocusKept (f.registered id ⟨.wlBuffer, version⟩) :=
      h.registered havailable (by simp)
    exact ⟨hregistered.root, hregistered.history, hregistered.words, hregistered.pointers,
      hregistered.keyboards⟩
  bufferGone := by
    intro f id _ h hlive _
    obtain ⟨object, hobject, hinterface⟩ := hlive
    have hgone := h.gone hobject (by simp [hinterface]) (by simp [hinterface])
      (by simp [hinterface]) (by simp [hinterface])
    exact ⟨hgone.root, hgone.history, hgone.words, hgone.pointers, hgone.keyboards⟩
  undone := fun _ _ object h havailable => h.undone havailable object
  seat := fun _ _ h => ⟨h.root, h.history, h.words, h.pointers, h.keyboards⟩
  pointer := by
    intro f id version _ input h havailable hpoint hinput
    have hnone : f.surfaces.keys.max? = none := hpoint
    rw [hnone]
    exact h.pointer havailable hinput
  pointerGone := fun _ _ _ h hlive hinput => h.pointerGone hlive hinput
  keyboard := fun _ _ _ _ _ h havailable hinput => h.keyboard havailable hinput

end Frames

/-! Physical input. -/

section Input

variable {f : Frame} {core : HeadlessWireCore} {id surfaceId serial : Nat}

theorem Frame.foldl_sent_eq (events : List WaylandMessage) (f : Frame) :
    events.foldl Frame.sent f = { f with
      eventsOut := f.eventsOut ++ events
      log := f.log ++ notesOf f.objects events } := by
  induction events generalizing f with
  | nil => simp [notesOf]
  | cons event rest ih =>
    rw [List.foldl_cons, ih]
    simp [Frame.sent, notesOf, Frame.objects, List.append_assoc]

theorem notesOf_append (objects : OrdMap Nat WireObject) (events more : List WaylandMessage) :
    notesOf objects (events ++ more) = notesOf objects events ++ notesOf objects more :=
  List.map_append

theorem readU32_named {named : Nat} (rest : List UInt8) (h : named ≤ u32Max) :
    readU32 (writeU32 named ++ rest) = named := by
  rw [readU32_append]
  exact Nat.mod_eq_of_lt (Nat.lt_succ_of_le h)

theorem tells_pointer (serial : Nat) (hlive : LiveAs objects .wlPointer id) :
    (∀ oldId, oldId ≤ u32Max →
        Tells objects id (pointerLeave id serial oldId) (some (.leave oldId))) ∧
      ∀ named x y, named ≤ u32Max →
        Tells objects id (pointerEnter id serial named x y) (some (.enter named)) := by
  obtain ⟨object, hobject, hinterface⟩ := hlive
  refine ⟨fun oldId hword => ⟨rfl, ?_⟩, fun named x y hword => ⟨rfl, ?_⟩⟩
  · rw [hobject]
    simp only [Option.bind_some, focusEvent, hinterface]
    exact congrArg (fun id => some (FocusEvent.leave id)) (readU32_named [] hword)
  · rw [hobject]
    simp only [Option.bind_some, focusEvent, hinterface]
    exact congrArg (fun id => some (FocusEvent.enter id))
      (readU32_named (writeI32 x ++ writeI32 y) hword)

theorem tells_keyboard (serial : Nat) (hlive : LiveAs objects .wlKeyboard id) :
    (∀ oldId, oldId ≤ u32Max →
        Tells objects id (keyboardLeave id serial oldId) (some (.leave oldId))) ∧
      ∀ named, named ≤ u32Max →
        Tells objects id (keyboardEnter id serial named) (some (.enter named)) := by
  obtain ⟨object, hobject, hinterface⟩ := hlive
  refine ⟨fun oldId hword => ⟨rfl, ?_⟩, fun named hword => ⟨rfl, ?_⟩⟩
  · rw [hobject]
    simp only [Option.bind_some, focusEvent, hinterface]
    exact congrArg (fun id => some (FocusEvent.leave id)) (readU32_named [] hword)
  · rw [hobject]
    simp only [Option.bind_some, focusEvent, hinterface]
    exact congrArg (fun id => some (FocusEvent.enter id)) (readU32_named (writeU32 0) hword)

/-- What is in focus, and what is held, are words. -/
theorem FocusKept.held_word (h : FocusKept f) {device oldId : Nat}
    (hheld : heldBy device f.log = some oldId) : oldId ≤ u32Max :=
  h.words oldId ((h.history.alive oldId).mp (h.history.entered device oldId hheld))

/-- A pointer is moved to a surface and told so, with the input that moved it. -/
theorem FocusKept.pointed (h : FocusKept f) {old moved : PointerState} {x y : Int}
    (hold : f.input.pointers.get? id = some old) (hmoved : moved.focusSurfaceId = some surfaceId)
    (hsurface : LiveAs f.objects .wlSurface surfaceId)
    (hevents : ∀ event ∈ events, Tells f.objects id event (some .input) ∨
      Tells f.objects id event none) :
    FocusKept ((focusEvents old.focusSurfaceId surfaceId (pointerLeave id serial)
      (pointerEnter id serial surfaceId x y) ++ events).foldl Frame.sent { f with
        input := { f.input with pointers := f.input.pointers.insert id moved } }) := by
  obtain ⟨hlive, hfocus⟩ := h.pointers id old hold
  obtain ⟨hleave, henter⟩ := tells_pointer serial hlive
  have hentered := (h.history.focused hfocus hsurface
    (fun oldId hmem => hleave oldId (h.held_word (hfocus oldId hmem)))
    (henter surfaceId x y (h.words surfaceId hsurface))).inputs hevents
  rw [Frame.foldl_sent_eq, notesOf_append]
  rw [List.append_assoc] at hentered
  refine ⟨h.root, hentered.history, h.words, h.pointers.entered hlive hentered hmoved,
    h.keyboards.same fun other keyboard hother => hentered.others other ?_⟩
  rintro rfl
  obtain ⟨object, hobject, hinterface⟩ := hlive
  rw [h.keyboards.absent hobject (by simp [hinterface])] at hother
  cases hother

theorem FocusKept.keyed (h : FocusKept f) {old moved : KeyboardState}
    (hold : f.input.keyboards.get? id = some old) (hmoved : moved.focusSurfaceId = some surfaceId)
    (hsurface : LiveAs f.objects .wlSurface surfaceId)
    (hevents : ∀ event ∈ events, Tells f.objects id event (some .input) ∨
      Tells f.objects id event none) :
    FocusKept ((focusEvents old.focusSurfaceId surfaceId (keyboardLeave id serial)
      (keyboardEnter id serial surfaceId) ++ events).foldl Frame.sent { f with
        input := { f.input with keyboards := f.input.keyboards.insert id moved } }) := by
  obtain ⟨hlive, hfocus⟩ := h.keyboards id old hold
  obtain ⟨hleave, henter⟩ := tells_keyboard serial hlive
  have hentered := (h.history.focused hfocus hsurface
    (fun oldId hmem => hleave oldId (h.held_word (hfocus oldId hmem)))
    (henter surfaceId (h.words surfaceId hsurface))).inputs hevents
  rw [Frame.foldl_sent_eq, notesOf_append]
  rw [List.append_assoc] at hentered
  refine ⟨h.root, hentered.history, h.words,
    h.pointers.same fun other pointer hother => hentered.others other ?_,
    h.keyboards.entered hlive hentered hmoved⟩
  rintro rfl
  obtain ⟨object, hobject, hinterface⟩ := hlive
  rw [h.pointers.absent hobject (by simp [hinterface])] at hother
  cases hother

/-- The invariant, while a surface stays. -/
structure FocusedOn (surfaceId : Nat) (core : HeadlessWireCore) : Prop where
  holds : Holds FocusKept none core
  surface : LiveAs core.registry.objects .wlSurface surfaceId

/-- The event of a pointer is its motion or one of its buttons. -/
def PointerInput.Moves (input : PointerInput) : Prop :=
  ∀ id pointer, (input.deliver id pointer).header.objectId = id ∧
    ((input.deliver id pointer).header.opcode = 2 ∨ (input.deliver id pointer).header.opcode = 3)

theorem FocusedOn.pushed {core' : HeadlessWireCore} (h : FocusedOn surfaceId core)
    (events : List WaylandMessage) (hanchors : core'.anchors = core.anchors)
    (hkept : FocusKept (events.foldl Frame.sent core'.frame)) :
    FocusedOn surfaceId (events.foldl HeadlessWireCore.pushed core') := by
  have hobjects : core'.registry.objects = core.registry.objects := congrArg Anchors.objects hanchors
  refine ⟨⟨?_, ?_⟩, ?_⟩
  · rw [anchors_foldl_pushed, hanchors]
    exact h.holds.anchored
  · rw [frame_foldl_pushed]
    exact hkept
  · rw [object?_foldl_pushed, hobjects]
    exact h.surface

theorem injectPointer_focused (h : FocusedOn surfaceId core) {input : PointerInput}
    (hmoves : input.Moves) :
    Ends (Tolerated focusTerms.safe (Left focusTerms FocusKept))
      (injectPointer surfaceId serial input id) core fun _ core' => FocusedOn surfaceId core' := by
  have hleft : Left focusTerms FocusKept core := h.holds.left
  refine ends_bind.mpr (ends_get.mpr (ends_bind.mpr ((ends_lift hleft).mpr ⟨?_, ?_⟩)))
  · intro old hold
    rw [orInvalid_eq_ok] at hold
    refine ends_bind.mpr (ends_set.mpr (ends_sendEach.mpr ?_))
    rw [List.append_assoc]
    refine h.pushed _ rfl (h.holds.kept.pointed hold rfl h.surface fun event hevent => ?_)
    obtain ⟨⟨object, hobject, hinterface⟩, _⟩ := h.holds.kept.pointers id old hold
    rw [List.mem_append, List.mem_singleton] at hevent
    rcases hevent with rfl | hframe
    · obtain ⟨hid, hopcode⟩ := hmoves id (input.move old)
      refine .inl ⟨hid, ?_⟩
      rw [hobject]
      rcases hopcode with hopcode | hopcode <;>
        simp [Option.bind_some, focusEvent, hinterface, hopcode]
    · unfold HeadlessWireCore.pointerFrame at hframe
      split_ifs at hframe
      · obtain rfl := List.mem_singleton.mp hframe
        refine .inr ⟨rfl, ?_⟩
        rw [hobject]
        simp [focusEvent, hinterface, WaylandMessage.new]
      · cases hframe
  · exact fun _ => calm_orInvalid _ _

theorem injectKeyboard_focused (h : FocusedOn surfaceId core) {code : Nat} {pressed : Bool} :
    Ends (Tolerated focusTerms.safe (Left focusTerms FocusKept))
      (injectKeyboard surfaceId event code pressed id) core
      fun _ core' => FocusedOn surfaceId core' := by
  have hleft : Left focusTerms FocusKept core := h.holds.left
  refine ends_bind.mpr (ends_get.mpr (ends_bind.mpr ((ends_lift hleft).mpr ⟨?_, ?_⟩)))
  · intro old hold
    rw [orInvalid_eq_ok] at hold
    refine ends_bind.mpr (ends_set.mpr (ends_sendEach.mpr ?_))
    refine h.pushed _ rfl (h.holds.kept.keyed hold rfl h.surface fun event hevent => ?_)
    obtain ⟨⟨object, hobject, hinterface⟩, _⟩ := h.holds.kept.keyboards id old hold
    obtain rfl := List.mem_singleton.mp hevent
    refine .inl ⟨rfl, ?_⟩
    rw [hobject]
    simp [focusEvent, hinterface, keyboardKey, WaylandMessage.new]
  · exact fun _ => calm_orInvalid _ _

theorem injectEach_focused {inject : Nat → Handler Unit} (ids : List Nat)
    (hone : ∀ id core, FocusedOn surfaceId core →
      Ends (Tolerated focusTerms.safe (Left focusTerms FocusKept)) (inject id) core
        fun _ core' => FocusedOn surfaceId core')
    (h : FocusedOn surfaceId core) :
    Ends (Tolerated focusTerms.safe (Left focusTerms FocusKept)) (injectEach inject ids) core
      fun _ core' => FocusedOn surfaceId core' := by
  induction ids generalizing core with
  | nil => exact h
  | cons id rest ih => exact Ends.then (hone id core h) fun _ _ h' => ih h'

theorem validate_calm (event : PhysicalInputEvent) : Calm event.validate := by
  unfold PhysicalInputEvent.validate
  split
  · simp
  · split <;> split_ifs <;> simp

theorem injectPhysicalInput_kept {environment : Environment} (h : Holds FocusKept none core) :
    Kept focusTerms FocusKept (injectPhysicalInput surfaceId event environment) core := by
  refine kept_lift (fun _ => validate_calm event) fun _ _ => kept_get fun hcore => ?_
  dsimp only
  split_ifs with hcontains
  · have hon : FocusedOn surfaceId core := ⟨h, h.live .wlSurface hcontains⟩
    have relative : ∀ move, (relativeInput event move).Moves := fun _ _ _ => ⟨rfl, .inl rfl⟩
    split
    · exact (injectEach_focused _ (fun _ _ h => injectPointer_focused h (relative _)) hon).mono
        fun _ _ h' => h'.holds
    · exact (injectEach_focused _ (fun _ _ h => injectPointer_focused h (relative _)) hon).mono
        fun _ _ h' => h'.holds
    · refine (injectEach_focused _ (fun _ _ h => injectPointer_focused h ?_) hon).mono
        fun _ _ h' => h'.holds
      exact fun _ _ => ⟨rfl, .inr rfl⟩
    · exact (injectEach_focused _ (fun _ _ h => injectKeyboard_focused h) hon).mono
        fun _ _ h' => h'.holds
  · exact kept_throw hcore

end Input

/-! Runs. -/

inductive Stimulus
  | operation (operation : Operation)
  | inject (surfaceId : Nat) (event : PhysicalInputEvent) (environment : Environment)

def Stimulus.perform : Stimulus → Handler Unit
  | .operation op => op.perform
  | .inject surfaceId event environment => injectPhysicalInput surfaceId event environment

def inputClients : System Client Stimulus where
  init := Client.Fresh
  next := fun client stimulus => client.after stimulus.perform

/-- A pointer is created while there is no surface, a surface is destroyed while no device is
on it, and the ids that data exchange sends events to are not those of devices. -/
def Stimulus.Heard (core : HeadlessWireCore) : Stimulus → Prop
  | .operation (Operation.dispatch message _ environment) => ∀ object,
    core.object? message.header.objectId = some object →
      (object.interface = .wlSeat → message.header.opcode = 0 →
        core.surfaces.surfaces.keys.max? = none) ∧
      (object.interface = .wlSurface → message.header.opcode = 0 →
        core.input.Unfocused message.header.objectId) ∧
      Spared focusTerms.level core object.interface (requestOf message [] environment)
  | _ => True

section Runs

variable {core : HeadlessWireCore}

theorem focusKept_fresh (deferCallbacks deferFeedback : Bool) :
    FocusKept (freshCore deferCallbacks deferFeedback).frame := by
  have hnone : ∀ surfaceId, ¬ LiveAs (freshCore deferCallbacks deferFeedback).frame.objects
      .wlSurface surfaceId := by
    intro surfaceId hlive
    rcases LiveAs.of_registered hlive with ⟨_, heq⟩ | ⟨_, hobject, _⟩
    · cases heq
    · cases hobject
  refine ⟨rfl, ⟨fun surfaceId => ?_, fun id surfaceId hheld => ?_, fun before note after heq => ?_⟩,
    fun surfaceId hlive => absurd hlive (hnone surfaceId), ?_, ?_⟩
  · exact ⟨fun halive => (by cases halive), fun hlive => absurd hlive (hnone surfaceId)⟩
  · cases hheld
  · cases before <;> cases heq
  · intro _ _ hget
    cases hget
  · intro _ _ hget
    cases hget

theorem focusKept_lasting : Lasting FocusKept where
  fresh := focusKept_fresh
  readied := fun _ h => ⟨h.root, h.history, h.words, h.pointers, h.keyboards⟩
  topology := fun _ _ h => ⟨h.root, h.history, h.words, h.pointers, h.keyboards⟩
  acknowledged := by
    intro f id registry h hacknowledged
    have hobjects := acknowledgeDeleteId_objects hacknowledged
    have hsame : ({ f with registry := registry } : Frame).objects = f.objects := hobjects
    refine ⟨?_, ?_, ?_, ?_, ?_⟩
    · rw [hsame]
      exact h.root
    · rw [hsame]
      exact h.history
    · rw [hsame]
      exact h.words
    · rw [hsame]
      exact h.pointers
    · rw [hsame]
      exact h.keyboards

theorem Stimulus.Heard.admitted {operation : Operation}
    (h : Stimulus.Heard core (.operation operation)) : operation.Admitted focusTerms core := by
  cases operation with
  | dispatch message fds environment =>
    intro object args hobject
    obtain ⟨hpoint, hdestroy, hspared⟩ := h object hobject
    have hpeers : Spared focusTerms.level (core.readied fds) object.interface
        (requestOf message args environment) := ⟨hspared.devices, hspared.sources⟩
    refine hpeers.admits rfl id (fun _ _ => trivial) (fun _ _ => ?_)
      (fun hsurface hopcode f hf _ => ?_) (fun _ _ _ _ => trivial) (fun _ _ _ _ _ => trivial)
      hpoint fun _ _ => trivial
    · exact WaylandWire.readU32_le _
    · change f.input.Unfocused message.header.objectId
      rw [hf]
      exact hdestroy hsurface hopcode
  | acknowledge event => trivial
  | addOutput output => exact False.elim
  | reconfigureOutput output environment => exact ⟨fun _ => trivial, False.elim⟩
  | removeOutput name environment => exact False.elim
  | recalculate environment => exact False.elim

theorem Stimulus.perform_kept {stimulus : Stimulus} (h : Holds FocusKept none core)
    (hheard : stimulus.Heard core) : Kept focusTerms FocusKept stimulus.perform core := by
  cases stimulus with
  | operation operation =>
    exact Headless.perform_kept focusKept_stable focusKept_lasting h hheard.admitted
  | inject surfaceId event environment => exact injectPhysicalInput_kept h

end Runs

theorem inputClients_paired {client : Client}
    (h : inputClients.Reach (fun client stimulus => stimulus.Heard client.core) client)
    (hopen : client.fault = none) : FocusPaired client.core.log := by
  have hsound : Sound focusTerms FocusKept client := by
    refine h.invariant (fun _ => Sound.fresh focusKept_lasting) fun client stimulus hsound hheard => ?_
    exact hsound.after fun hfault => Stimulus.perform_kept (hsound.holds hfault) hheard
  exact (hsound.holds hopen).kept.history.paired

/-! A client that binds the compositor and the seat, and creates a surface and a pointer. -/

def sampleRequest (message : WaylandMessage) : Stimulus :=
  .operation (.dispatch message [] stillEnvironment)

/-- The client after the bindings, which are followed by more. -/
def sampleClient (steps : List Stimulus) : Client :=
  inputClients.run { core := freshCore false false }
    ([sampleRequest (.new displayId 1 (writeU32 2)),
      sampleRequest (bindGlobal 1 3 4 .wlCompositor),
      sampleRequest (bindGlobal 3 4 7 .wlSeat)] ++ steps)

def sampleSurface : Stimulus := sampleRequest (.new 3 0 (writeU32 5))

def samplePointer : Stimulus := sampleRequest (.new 4 0 (writeU32 6))

def sampleMotion : Stimulus := .inject 5 ⟨1, 1000, .relativeX 1⟩ stillEnvironment

theorem heard_other (object : WireObject)
    (hobject : core.object? message.header.objectId = some object)
    (hother : object.interface ∉ [.wlSeat, .wlSurface, .wlDataDevice, .wlDataOffer]) :
    (sampleRequest message).Heard core := by
  intro found hfound
  obtain rfl := Option.some.inj (hobject.symm.trans hfound)
  simp only [List.mem_cons, List.not_mem_nil, or_false, not_or] at hother
  obtain ⟨hseat, hsurface, hdevice, hoffer⟩ := hother
  exact ⟨fun heq => absurd heq hseat, fun heq => absurd heq hsurface,
    fun heq => absurd heq hdevice, fun heq => absurd heq hoffer⟩

theorem heard_seat (version : Nat)
    (hobject : core.object? message.header.objectId = some ⟨.wlSeat, version⟩)
    (hnone : core.surfaces.surfaces.keys.max? = none) : (sampleRequest message).Heard core := by
  intro found hfound
  obtain rfl := Option.some.inj (hobject.symm.trans hfound)
  exact ⟨fun _ _ => hnone, fun heq => (by cases heq), fun heq => (by cases heq),
    fun heq => (by cases heq)⟩

/-- A pointer that is there before the surface is told of it. -/
theorem samplePointer_paired :
    FocusPaired (sampleClient [samplePointer, sampleSurface, sampleMotion]).core.log := by
  have h : inputClients.Reach (fun client stimulus => stimulus.Heard client.core)
      (sampleClient [samplePointer, sampleSurface, sampleMotion]) := by
    refine .next sampleMotion (.next sampleSurface (.next samplePointer (.next _ (.next _ (.next _
      (.init ⟨false, false, rfl⟩) ?_) ?_) ?_) ?_) ?_) trivial
    · exact heard_other ⟨.wlDisplay, 1⟩ (by decide +kernel) (by decide)
    · exact heard_other ⟨.wlRegistry, 1⟩ (by decide +kernel) (by decide)
    · exact heard_other ⟨.wlRegistry, 1⟩ (by decide +kernel) (by decide)
    · exact heard_seat 7 (by decide +kernel) (by decide +kernel)
    · exact heard_other ⟨.wlCompositor, 4⟩ (by decide +kernel) (by decide)
  exact inputClients_paired h (by decide +kernel)

/-- A pointer that is created on a surface gets motion without having entered it. -/
theorem samplePointer_unpaired : ∃ client, inputClients.Reachable client ∧ client.fault = none ∧
    ¬ FocusPaired client.core.log := by
  have hinit : inputClients.Reachable { core := freshCore false false } :=
    .init ⟨false, false, rfl⟩
  have hreach : inputClients.Reachable (sampleClient [sampleSurface, samplePointer, sampleMotion]) :=
    hinit.run _
  refine ⟨_, hreach, by decide +kernel, fun hpaired => ?_⟩
  have hlog : (sampleClient [sampleSurface, samplePointer, sampleMotion]).core.log =
      (sampleClient [sampleSurface, samplePointer]).core.log ++
        .sent ⟨⟨6, 20, 2⟩, [1, 0, 0, 0, 0, 1, 0, 0, 0, 0, 0, 0]⟩ (some ⟨.wlPointer, 7⟩) ::
          [.sent ⟨⟨6, 8, 5⟩, []⟩ (some ⟨.wlPointer, 7⟩)] := by decide +kernel
  obtain ⟨surfaceId, hheld, _⟩ := hpaired _ _ _ hlog
  have hnone : heldBy 6 (sampleClient [sampleSurface, samplePointer]).core.log = none := by
    decide +kernel
  exact absurd (hnone.symm.trans hheld) (by simp)

end TuffXwin.Headless
