import TuffXwin.Headless.PhysicalInput
import TuffXwin.Headless.Runs
import TuffXwin.Waylandd.TopologyRegistry

/-! The commands that a client thread takes from its queue: physical input for a surface, and
what has changed of the topology. The commands of a topology are filtered by the epoch and the
sequence of the last one applied. -/

namespace TuffXwin.Waylandd
open Lib
open Headless (HeadlessWireCore Handler Environment RealOutput PhysicalInputEvent asI32
  addTopologyOutput removeTopologyOutput reconfigureTopologyOutput recalculateSurfaceMembership
  injectPhysicalInput)

inductive QueuedCommand
  | topology (command : ClientCommand)
  | physicalInput (event : PhysicalInputEvent) (surfaceId : Nat)
  deriving DecidableEq, Repr

/-- What `apply_client_command` works on. -/
structure CommandClient where
  core : HeadlessWireCore
  epoch : Nat := 0
  sequence : Nat := 0
  projection : Projection := OrdMap.empty

variable {Q : Unit → CommandClient → Prop}

inductive CommandFault
  | core (fault : Headless.Fault)
  | epochMismatch
  deriving DecidableEq, Repr

abbrev CommandM := EStateM CommandFault CommandClient

/-- An operation of the core; its error ends the command. -/
def runCore (handler : Handler Unit) : CommandM Unit := fun client =>
  match handler client.core with
  | .ok _ core => .ok () { client with core := core }
  | .error fault core => .error (.core fault) { client with core := core }

/-- The output as the core is told of it; its period is at most a second. -/
def realOutputOf (output : OutputTopologyEntry) : RealOutput where
  name := output.geometry.outputId
  x := output.geometry.originX
  y := output.geometry.originY
  width := asI32 output.geometry.width
  height := asI32 output.geometry.height
  refreshNsec := 1000000000 / max output.refreshHz 1
  scale := output.scale

namespace ClientCommand

def epoch : ClientCommand → Nat
  | .initialTopology epoch _ _ | .addGlobal epoch _ _ | .removeGlobal epoch _ _ _
  | .reconfigureOutput epoch _ _ | .recalculateMembership epoch _ | .topologyReset epoch _
  | .disconnect epoch _ => epoch

def sequence : ClientCommand → Nat
  | .initialTopology _ sequence _ | .addGlobal _ sequence _ | .removeGlobal _ sequence _ _
  | .reconfigureOutput _ sequence _ | .recalculateMembership _ sequence
  | .topologyReset _ sequence | .disconnect _ sequence => sequence

end ClientCommand

def keepProjected (output : OutputTopologyEntry) : CommandM Unit :=
  modify fun client =>
    { client with projection := client.projection.insert output.geometry.outputId output }

def addGlobal (output : OutputTopologyEntry) : CommandM Unit := do
  keepProjected output
  runCore (addTopologyOutput (realOutputOf output))

def addGlobals : List OutputTopologyEntry → CommandM Unit
  | [] => pure ()
  | output :: outputs => do
    addGlobal output
    addGlobals outputs

def removeGlobal (environment : Environment) (outputId : String) : CommandM Unit := do
  modify fun client => { client with projection := client.projection.erase outputId }
  runCore (removeTopologyOutput outputId environment)

def reconfigureOutput (environment : Environment) (output : OutputTopologyEntry) :
    CommandM Unit := do
  keepProjected output
  runCore (reconfigureTopologyOutput (realOutputOf output) environment)

/-- A command that has passed the filters. -/
def performCommand (environment : Environment) : ClientCommand → CommandM Bool
  | .initialTopology _ _ outputs => do
    addGlobals outputs
    return false
  | .addGlobal _ _ output => do
    addGlobal output
    return false
  | .removeGlobal _ _ outputId _ => do
    removeGlobal environment outputId
    return false
  | .reconfigureOutput _ _ output => do
    reconfigureOutput environment output
    return false
  | .recalculateMembership _ _ => do
    runCore (recalculateSurfaceMembership environment)
    return false
  | .topologyReset _ _ => pure false
  | .disconnect _ _ => pure true

def stamp (epoch sequence : Nat) : CommandM Unit :=
  modify fun client => { client with epoch := epoch, sequence := sequence }

/-- The filters: a command of an older epoch or sequence is ignored, one of a newer epoch is
an error, unless it is a reset. -/
def applyTopologyCommand (environment : Environment) (command : ClientCommand) :
    CommandM Bool := do
  let client ← get
  if command.isReset then
    if client.epoch ≠ 0 ∧ command.epoch = client.epoch ∧ command.sequence < client.sequence then
      return false
    else do
      stamp command.epoch command.sequence
      return false
  else if client.epoch ≠ 0 ∧ command.epoch ≠ client.epoch then
    if command.epoch < client.epoch then return false else throw .epochMismatch
  else if command.sequence < client.sequence then return false
  else do
    stamp command.epoch command.sequence
    performCommand environment command

/-- Whether the client is to be disconnected. -/
def applyClientCommand (environment : Environment) : QueuedCommand → CommandM Bool
  | .physicalInput event surfaceId => do
    runCore (injectPhysicalInput surfaceId event environment)
    return false
  | .topology command => applyTopologyCommand environment command

section Rules

variable {client : CommandClient} {E : CommandFault → CommandClient → Prop}

/-- An operation of the core ends as it does on the core alone. -/
theorem ends_runCore {handler : Handler Unit} :
    Ends E (runCore handler) client Q ↔
      Ends (fun fault core => E (.core fault) { client with core := core }) handler client.core
        fun a core => Q a { client with core := core } := by
  unfold Ends runCore
  cases handler client.core <;> rfl

theorem ends_stamp {epoch sequence : Nat} :
    Ends E (stamp epoch sequence) client Q ↔
      Q () { client with epoch := epoch, sequence := sequence } := Iff.rfl

theorem ends_keepProjected {output : OutputTopologyEntry} :
    Ends E (keepProjected output) client Q ↔
      Q () { client with
        projection := client.projection.insert output.geometry.outputId output } := Iff.rfl

/-- A command that no filter stops. -/
theorem ends_applyTopologyCommand {environment : Environment} {command : ClientCommand}
    {Q : Bool → CommandClient → Prop} (hreset : command.isReset = false)
    (hepoch : client.epoch = 0 ∨ client.epoch = command.epoch)
    (hsequence : client.sequence ≤ command.sequence) :
    Ends E (applyTopologyCommand environment command) client Q ↔
      Ends E (performCommand environment command)
        { client with epoch := command.epoch, sequence := command.sequence } Q := by
  have hsame : ¬(client.epoch ≠ 0 ∧ command.epoch ≠ client.epoch) := by
    rintro ⟨hnonzero, hother⟩
    rcases hepoch with hzero | hequal
    · exact hnonzero hzero
    · exact hother hequal.symm
  have hreset' : ¬command.isReset = true := by simp [hreset]
  unfold applyTopologyCommand
  rw [ends_bind, ends_get, if_neg hreset', if_neg hsame, if_neg (not_lt.mpr hsequence), ends_bind,
    ends_stamp]

end Rules

end TuffXwin.Waylandd
