import Mathlib.Data.List.Sort
import TuffXwin.Common.Ipc
import TuffXwin.Lib.OrdMap

/-! The topology registry of waylandd: the outputs as last agreed with displayd, under
an epoch and a sequence, and the queue of every client that is told about changes. -/

namespace TuffXwin.Waylandd
open Lib

/-- Physical input goes through the same queues and is left out. -/
inductive ClientCommand
  | initialTopology (epoch sequence : Nat) (outputs : List OutputTopologyEntry)
  | addGlobal (epoch sequence : Nat) (output : OutputTopologyEntry)
  | removeGlobal (epoch sequence : Nat) (outputId : String) (outputGeneration : Nat)
  | reconfigureOutput (epoch sequence : Nat) (output : OutputTopologyEntry)
  | recalculateMembership (epoch sequence : Nat)
  | topologyReset (epoch sequence : Nat)
  | disconnect (epoch sequence : Nat)
  deriving DecidableEq, Repr

def ClientCommand.isReset : ClientCommand → Bool
  | .topologyReset _ _ => true
  | _ => false

def topologyDeltaBufferLimit : Nat := 32
def topologyQueueCapacity : Nat := 64
def clientCommandCapacity : Nat := 64

/-- The queue holds what the client has not taken yet, the oldest first. -/
structure TopologyClientEndpoint where
  queue : List ClientCommand := []
  resyncRequested : Bool := false
  deriving DecidableEq

abbrev Projection := OrdMap String OutputTopologyEntry

structure TopologyRegistry where
  clients : OrdMap Nat TopologyClientEndpoint := OrdMap.empty
  epoch : Nat := 0
  sequence : Nat := 0
  projection : Projection := OrdMap.empty

def projectionOf (outputs : List OutputTopologyEntry) : Projection :=
  OrdMap.insertAll (fun output => output.geometry.outputId) outputs OrdMap.empty

def snapshotIsValid (outputs : List OutputTopologyEntry) : Bool :=
  (outputs.map fun o => o.geometry.outputId).Nodup ∧ (outputs.map (·.name)).Nodup ∧
  outputs.all fun o =>
    !(o.geometry.outputId = "" ∨ o.name = "" ∨ o.geometry.width = 0 ∨ o.geometry.height = 0 ∨
      o.geometry.stride < min (o.geometry.width * 4) u32Max ∨ o.scale = 0 ∨ o.refreshHz = 0 ∨
      o.geometry.width * o.geometry.height > u32Max)

def validateOutputSnapshot (outputs : List OutputTopologyEntry) : Except String Unit :=
  if snapshotIsValid outputs then .ok ()
  else .error "malformed or duplicate topology snapshot output"

namespace TopologyClientEndpoint

/-- A full queue raises the resync flag; a flagged client hears of resets only. -/
def offer (command : ClientCommand) (endpoint : TopologyClientEndpoint) :
    TopologyClientEndpoint :=
  if endpoint.resyncRequested ∧ !command.isReset then endpoint
  else if endpoint.queue.length < clientCommandCapacity then
    { endpoint with queue := endpoint.queue ++ [command] }
  else { endpoint with resyncRequested := true }

end TopologyClientEndpoint

namespace TopologyRegistry

/-- A client leaves the registry before its queue closes, so no queue is found closed. -/
def broadcastClientCommand (reg : TopologyRegistry) (command : ClientCommand) :
    TopologyRegistry :=
  { reg with clients := reg.clients.mapVals fun _ endpoint => endpoint.offer command }

def broadcastAll (reg : TopologyRegistry) (commands : List ClientCommand) : TopologyRegistry :=
  commands.foldl broadcastClientCommand reg

variable (reg : TopologyRegistry) (command : ClientCommand) (commands : List ClientCommand)

@[simp] theorem broadcastClientCommand_epoch :
    (reg.broadcastClientCommand command).epoch = reg.epoch := rfl

@[simp] theorem broadcastClientCommand_sequence :
    (reg.broadcastClientCommand command).sequence = reg.sequence := rfl

@[simp] theorem broadcastClientCommand_projection :
    (reg.broadcastClientCommand command).projection = reg.projection := rfl

@[simp] theorem broadcastAll_projection :
    (reg.broadcastAll commands).projection = reg.projection := by
  induction commands generalizing reg with
  | nil => rfl
  | cons command commands ih => exact ih (reg.broadcastClientCommand command)

end TopologyRegistry

def removedCommands (previous next : Projection) (epoch sequence : Nat) : List ClientCommand :=
  previous.entries.filterMap fun entry =>
    if next.contains entry.1 then none
    else some (.removeGlobal epoch sequence entry.1 entry.2.geometry.outputGeneration)

def changedCommands (previous next : Projection) (epoch sequence : Nat) : List ClientCommand :=
  next.entries.filterMap fun entry =>
    match previous.get? entry.1 with
    | none => some (.addGlobal epoch sequence entry.2)
    | some old => if old ≠ entry.2 then some (.reconfigureOutput epoch sequence entry.2) else none

def projectionDiffCommands (previous next : Projection) (epoch sequence : Nat) :
    List ClientCommand :=
  removedCommands previous next epoch sequence ++ changedCommands previous next epoch sequence ++
    [.recalculateMembership epoch sequence]

def applyTopologyDelta (projection : Projection) (delta : OutputTopologyDelta) :
    Option (Projection × ClientCommand) :=
  match delta.transition with
  | .added | .enabled =>
    delta.output.map fun output =>
      (projection.insert output.geometry.outputId output,
        .addGlobal delta.epoch delta.topologySequence output)
  | .reconfigured =>
    delta.output.map fun output =>
      (projection.insert output.geometry.outputId output,
        .reconfigureOutput delta.epoch delta.topologySequence output)
  | .disabled | .removed =>
    delta.outputId.map fun outputId =>
      (projection.erase outputId,
        .removeGlobal delta.epoch delta.topologySequence outputId
          (delta.outputGeneration.getD 0))
  | .reset | .snapshotRequired => none

/-- Whether the delta has what its transition needs. -/
def carries (delta : OutputTopologyDelta) : Bool :=
  match delta.transition with
  | .added | .enabled | .reconfigured => delta.output.isSome
  | .disabled | .removed => delta.outputId.isSome
  | .reset | .snapshotRequired => false

theorem applyTopologyDelta_isSome (projection : Projection) (delta : OutputTopologyDelta) :
    (applyTopologyDelta projection delta).isSome = carries delta := by
  unfold applyTopologyDelta carries
  cases delta.transition <;> simp

namespace TopologyRegistry

def setTopology (reg : TopologyRegistry) (projection : Projection) (epoch sequence : Nat) :
    TopologyRegistry :=
  { reg with
    projection := projection
    epoch := epoch
    sequence := sequence }

/-- The commands of a snapshot under a new epoch. -/
def resetCommands (previous next : Projection) (epoch sequence : Nat) : List ClientCommand :=
  .topologyReset epoch sequence ::
    (previous.entries.map fun entry =>
      .removeGlobal epoch sequence entry.1 entry.2.geometry.outputGeneration) ++
    next.values.map fun output => .addGlobal epoch sequence output

/-- `none` is a snapshot older than the registry. -/
def applyAuthoritativeTopologySnapshotLocked (reg : TopologyRegistry) (previous next : Projection)
    (epoch sequence : Nat) : Option TopologyRegistry :=
  if epoch = reg.epoch ∧ sequence < reg.sequence then none
  else
    let replaced := reg.setTopology next epoch sequence
    let told := replaced.broadcastAll
      (if epoch ≠ reg.epoch then resetCommands previous next epoch sequence
      else projectionDiffCommands previous next epoch sequence)
    some (told.broadcastClientCommand (.recalculateMembership epoch sequence))

def applyAuthoritativeTopologySnapshot (reg : TopologyRegistry) (epoch sequence : Nat)
    (outputs : List OutputTopologyEntry) : Option TopologyRegistry :=
  reg.applyAuthoritativeTopologySnapshotLocked reg.projection (projectionOf outputs) epoch sequence

/-- What an applied delta leaves and tells. -/
def advance (reg : TopologyRegistry) (delta : OutputTopologyDelta)
    (applied : Projection × ClientCommand) : TopologyRegistry :=
  ((reg.setTopology applied.1 delta.epoch delta.topologySequence).broadcastClientCommand
    applied.2).broadcastClientCommand
      (.recalculateMembership delta.epoch delta.topologySequence)

/-- The delta neither repeats nor follows what the registry has. No sequence number lies
beyond the saturated successor of another. -/
def OutOfStep (reg : TopologyRegistry) (delta : OutputTopologyDelta) : Prop :=
  delta.epoch ≠ reg.epoch ∨ delta.topologySequence < reg.sequence ∨
    delta.topologySequence > reg.sequence + 1

instance (reg : TopologyRegistry) (delta : OutputTopologyDelta) : Decidable (OutOfStep reg delta) :=
  inferInstanceAs (Decidable (_ ∨ _ ∨ _))

/-- One turn of the loop of `replay_buffered_deltas`. -/
def replayDelta (reg : TopologyRegistry) (delta : OutputTopologyDelta) : TopologyRegistry :=
  if reg.OutOfStep delta then reg
  else
    match applyTopologyDelta reg.projection delta with
    | none => reg
    | some applied => reg.advance delta applied

def sortDeltas (buffered : List OutputTopologyDelta) : List OutputTopologyDelta :=
  buffered.insertionSort fun a b => a.topologySequence ≤ b.topologySequence

def replayBufferedDeltas (reg : TopologyRegistry) (buffered : List OutputTopologyDelta) :
    TopologyRegistry :=
  (sortDeltas buffered).foldl replayDelta reg

end TopologyRegistry

end TuffXwin.Waylandd
