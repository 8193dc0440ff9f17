import TuffXwin.Headless.Core

/-! Physical input: a pointer or keyboard event is given to every pointer or keyboard of the
client, whose focus moves to the surface that the host chose. -/

namespace TuffXwin.Headless
open Lib
open WaylandWire (WireError WaylandMessage writeU32 writeI32)

inductive PhysicalInputKind
  | relativeX (delta : Int)
  | relativeY (delta : Int)
  | button (code : Nat) (pressed : Bool)
  | key (code : Nat) (pressed : Bool)
  deriving DecidableEq, Repr

structure PhysicalInputEvent where
  sequence : Nat
  timestampUsec : Nat
  kind : PhysicalInputKind
  deriving DecidableEq, Repr

namespace PhysicalInputEvent

def validate (event : PhysicalInputEvent) : Fallible Unit :=
  if event.sequence = 0 then
    .error (protocolError "physical input sequence must be nonzero")
  else
    match event.kind with
    | .relativeX delta | .relativeY delta =>
      if delta.natAbs > 32768 then
        .error (protocolError "physical input relative delta exceeds bound")
      else .ok ()
    | .button code _ =>
      if 0x110 ≤ code ∧ code ≤ 0x11f then .ok ()
      else .error (protocolError "physical pointer button code out of range")
    | .key code _ =>
      if code > 767 then .error (protocolError "physical keyboard key code out of range")
      else .ok ()

/-- The sequence number and the time in milliseconds, as words. -/
def serial (event : PhysicalInputEvent) : Nat := event.sequence % 4294967296

def timeMs (event : PhysicalInputEvent) : Nat := event.timestampUsec / 1000 % 4294967296

end PhysicalInputEvent

/-- A place stays within the range of a fixed-point number. -/
def clampPlace (v : Int) : Int := min (max v (-32768)) 32767

def flag (pressed : Bool) : Nat := if pressed then 1 else 0

/-- What a device is told when its focus moves from one surface to another. -/
def focusEvents (old : Option Nat) (surfaceId : Nat) (leave : Nat → WaylandMessage)
    (enter : WaylandMessage) : List WaylandMessage :=
  if old = some surfaceId then []
  else (old.map leave).toList ++ [enter]

def pointerLeave (pointerId serial oldId : Nat) : WaylandMessage :=
  .new pointerId 1 (writeU32 serial ++ writeU32 oldId)

def pointerEnter (pointerId serial surfaceId : Nat) (x y : Int) : WaylandMessage :=
  .new pointerId 0 (writeU32 serial ++ writeU32 surfaceId ++ writeI32 x ++ writeI32 y)

def pointerMotion (pointerId timeMs : Nat) (x y : Int) : WaylandMessage :=
  .new pointerId 2 (writeU32 timeMs ++ writeI32 x ++ writeI32 y)

def pointerButton (pointerId serial timeMs code : Nat) (pressed : Bool) : WaylandMessage :=
  .new pointerId 3 (writeU32 serial ++ writeU32 timeMs ++ writeU32 code ++ writeU32 (flag pressed))

def keyboardLeave (keyboardId serial oldId : Nat) : WaylandMessage :=
  .new keyboardId 2 (writeU32 serial ++ writeU32 oldId)

/-- No key is pressed as the surface is entered. -/
def keyboardEnter (keyboardId serial surfaceId : Nat) : WaylandMessage :=
  .new keyboardId 1 (writeU32 serial ++ writeU32 surfaceId ++ writeU32 0)

def keyboardKey (keyboardId serial timeMs code : Nat) (pressed : Bool) : WaylandMessage :=
  .new keyboardId 3 (writeU32 serial ++ writeU32 timeMs ++ writeU32 code ++ writeU32 (flag pressed))

/-- Pointers of version 5 are told where a group of events ends. -/
def HeadlessWireCore.pointerFrame (core : HeadlessWireCore) (pointerId : Nat) :
    List WaylandMessage :=
  if (core.object? pointerId).any (fun object => decide (object.version ≥ 5)) then
    [.new pointerId 5 []]
  else []

/-- What the events of a device need of it: the events of a change of focus, and the event. -/
structure PointerInput where
  move : PointerState → PointerState
  deliver : Nat → PointerState → WaylandMessage

def relativeInput (event : PhysicalInputEvent) (move : PointerState → PointerState) :
    PointerInput where
  move := move
  deliver := fun pointerId pointer =>
    pointerMotion pointerId event.timeMs (pointer.x * 256) (pointer.y * 256)

def buttonInput (event : PhysicalInputEvent) (code : Nat) (pressed : Bool) : PointerInput where
  move := id
  deliver := fun pointerId _ => pointerButton pointerId event.serial event.timeMs code pressed

def HeadlessWireCore.withPointer (core : HeadlessWireCore) (pointerId : Nat)
    (pointer : PointerState) : HeadlessWireCore :=
  { core with
    input := { core.input with pointers := core.input.pointers.insert pointerId pointer } }

def HeadlessWireCore.withKeyboard (core : HeadlessWireCore) (keyboardId : Nat)
    (keyboard : KeyboardState) : HeadlessWireCore :=
  { core with
    input := { core.input with keyboards := core.input.keyboards.insert keyboardId keyboard } }

def injectPointer (surfaceId serial : Nat) (input : PointerInput) (pointerId : Nat) :
    Handler Unit := do
  let core ← get
  let old ← lift (orInvalid (core.input.pointers.get? pointerId) pointerId)
  let moved := input.move old
  set (core.withPointer pointerId { moved with focusSurfaceId := some surfaceId })
  sendEach (focusEvents old.focusSurfaceId surfaceId (pointerLeave pointerId serial)
    (pointerEnter pointerId serial surfaceId (moved.x * 256) (moved.y * 256)) ++
    [input.deliver pointerId moved] ++ core.pointerFrame pointerId)

def injectKeyboard (surfaceId : Nat) (event : PhysicalInputEvent) (code : Nat) (pressed : Bool)
    (keyboardId : Nat) : Handler Unit := do
  let core ← get
  let old ← lift (orInvalid (core.input.keyboards.get? keyboardId) keyboardId)
  set (core.withKeyboard keyboardId { old with focusSurfaceId := some surfaceId })
  sendEach (focusEvents old.focusSurfaceId surfaceId (keyboardLeave keyboardId event.serial)
    (keyboardEnter keyboardId event.serial surfaceId) ++
    [keyboardKey keyboardId event.serial event.timeMs code pressed])

def injectEach (inject : Nat → Handler Unit) : List Nat → Handler Unit
  | [] => pure ()
  | id :: rest => do
    inject id
    injectEach inject rest

def injectPhysicalInput (surfaceId : Nat) (event : PhysicalInputEvent)
    (environment : Environment) : Handler Unit := do
  lift event.validate
  let core ← get
  let pointers := environment.visit core.input.pointers.keys
  let keyboards := environment.visit core.input.keyboards.keys
  if core.surfaces.surfaces.contains surfaceId then
    match event.kind with
    | .relativeX delta =>
      injectEach (injectPointer surfaceId event.serial (relativeInput event fun pointer =>
        { pointer with x := clampPlace (pointer.x + delta) })) pointers
    | .relativeY delta =>
      injectEach (injectPointer surfaceId event.serial (relativeInput event fun pointer =>
        { pointer with y := clampPlace (pointer.y + delta) })) pointers
    | .button code pressed =>
      injectEach (injectPointer surfaceId event.serial (buttonInput event code pressed)) pointers
    | .key code pressed =>
      injectEach (injectKeyboard surfaceId event code pressed) keyboards
  else throw (invalidObject surfaceId)

end TuffXwin.Headless
