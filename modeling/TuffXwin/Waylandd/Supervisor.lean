import TuffXwin.Lib.Reach
import TuffXwin.Waylandd.TopologyRegistry

/-! The topology supervisor of waylandd. Deltas go into the registry in sequence; what
does not fit starts a fetch of a fresh snapshot, and later deltas wait in a buffer
until it is adopted. Subscription, fetches and supervisor share one bounded queue. -/

namespace TuffXwin.Waylandd
open Lib

/-- `snapshotApplying` is never left standing between two inputs. -/
inductive ResyncState
  | streaming | snapshotPending | snapshotApplying | failed
  deriving DecidableEq, Repr

inductive ResyncReason
  | reset | snapshotRequired | sequenceGap | streamOverflow
  deriving DecidableEq, Repr

def ResyncReason.priority : ResyncReason → Nat
  | .reset => 4
  | .snapshotRequired => 3
  | .sequenceGap => 2
  | .streamOverflow => 1

structure TopologySnapshot where
  epoch : Nat
  sequence : Nat
  outputs : List OutputTopologyEntry
  deriving DecidableEq

inductive TopologyInput
  | subscriptionLost (reason : String)
  | subscriptionSnapshot (snapshot : TopologySnapshot)
  | overflow
  | snapshotResult (resyncGeneration : Nat) (result : Except String TopologySnapshot)
  | event (event : DisplayEvent)

/-- `fetches` are the generations of the fetch threads under way. The last four are
specification variables: all deltas taken from the queue, the snapshot last adopted, the
deltas applied since, and whether a fetch has failed since. -/
structure Supervisor where
  state : ResyncState := .streaming
  pendingReason : Option ResyncReason := none
  buffered : List OutputTopologyDelta := []
  resyncGen : Nat := 0
  fetches : List Nat := []
  registry : TopologyRegistry := {}
  received : List OutputTopologyDelta := []
  adopted : Projection × Nat := (OrdMap.empty, 0)
  applied : List OutputTopologyDelta := []
  lapsed : Bool := false

namespace Supervisor

def isPending (w : Supervisor) : Bool :=
  w.state = .snapshotPending ∨ w.state = .snapshotApplying

def startFetch (w : Supervisor) (reason : ResyncReason) (resyncGen : Nat) : Supervisor :=
  { w with
    state := .snapshotPending
    pendingReason := some reason
    resyncGen := resyncGen
    fetches := resyncGen :: w.fetches }

def endFetch (w : Supervisor) (resyncGeneration : Nat) : Supervisor :=
  { w with fetches := w.fetches.erase resyncGeneration }

def triggerResync (w : Supervisor) (reason : ResyncReason) : Supervisor :=
  if w.isPending then
    if reason.priority > (w.pendingReason.getD .streamOverflow).priority then
      { w with pendingReason := some reason }
    else w
  else w.startFetch reason (w.resyncGen + 1)

def adopt (w : Supervisor) (registry : TopologyRegistry) : Supervisor :=
  { w with
    registry := registry
    adopted := (registry.projection, registry.sequence)
    applied := []
    lapsed := false }

def resume (w : Supervisor) : Supervisor :=
  { w with
    state := .streaming
    pendingReason := none
    buffered := [] }

def loseSubscription (w : Supervisor) : Supervisor :=
  { w with
    state := .snapshotPending
    buffered := []
    resyncGen := satAdd w.resyncGen 1
    pendingReason := some .reset }

def takeSubscriptionSnapshot (w : Supervisor) (snapshot : TopologySnapshot) : Supervisor :=
  if !snapshotIsValid snapshot.outputs then w
  else
    match w.registry.applyAuthoritativeTopologySnapshot snapshot.epoch snapshot.sequence
      snapshot.outputs with
    | none => w
    | some registry => (w.adopt registry).resume

/-- The smallest buffered sequence beyond the registry. -/
def firstNewer (epoch sequence : Nat) (buffered : List OutputTopologyDelta) : Option Nat :=
  ((buffered.filter fun d => d.epoch = epoch ∧ d.topologySequence > sequence).map
    (·.topologySequence)).min?

def hasGap (epoch sequence : Nat) (buffered : List OutputTopologyDelta) : Bool :=
  match firstNewer epoch sequence buffered with
  | none => false
  | some first => first > sequence + 1

/-- Whether the delta goes into the registry when it is replayed. -/
def Applies (registry : TopologyRegistry) (delta : OutputTopologyDelta) : Prop :=
  ¬registry.OutOfStep delta ∧ (applyTopologyDelta registry.projection delta).isSome

instance (registry : TopologyRegistry) (delta : OutputTopologyDelta) :
    Decidable (Applies registry delta) :=
  inferInstanceAs (Decidable (_ ∧ _))

def replayStep (w : Supervisor) (delta : OutputTopologyDelta) : Supervisor :=
  { w with
    registry := w.registry.replayDelta delta
    applied := if Applies w.registry delta then w.applied ++ [delta] else w.applied }

def replay (w : Supervisor) : Supervisor :=
  (TopologyRegistry.sortDeltas w.buffered).foldl replayStep w

def adoptFetched (w : Supervisor) (snapshot : TopologySnapshot) : Supervisor :=
  let fresh := projectionOf snapshot.outputs
  let replaced := w.registry.setTopology fresh snapshot.epoch snapshot.sequence
  let registry := replaced.broadcastAll
    (projectionDiffCommands w.registry.projection fresh snapshot.epoch snapshot.sequence)
  let gap := hasGap registry.epoch registry.sequence w.buffered
  let replayed := (w.adopt registry).replay
  if gap then { replayed with buffered := [] }.startFetch .sequenceGap (w.resyncGen + 1)
  else replayed.resume

def takeSnapshotResult (w : Supervisor) (resyncGeneration : Nat)
    (result : Except String TopologySnapshot) : Supervisor :=
  if resyncGeneration ≠ w.resyncGen then w
  else if !w.isPending then w
  else
    match result with
    | .ok snapshot => w.adoptFetched snapshot
    | .error _ => { w.resume with lapsed := true }

def receiveDelta (w : Supervisor) (delta : OutputTopologyDelta) : Supervisor :=
  { w with received := w.received ++ [delta] }

def bufferDelta (w : Supervisor) (delta : OutputTopologyDelta) : Supervisor :=
  if w.buffered.length = topologyDeltaBufferLimit then
    { w with buffered := [] }.triggerResync .streamOverflow
  else { w with buffered := w.buffered ++ [delta] }

def takeTopology (w : Supervisor) (snapshot : TopologySnapshot) : Supervisor :=
  if !snapshotIsValid snapshot.outputs then w
  else if w.registry.epoch = snapshot.epoch ∧ snapshot.sequence < w.registry.sequence then w
  else if snapshot.epoch ≠ w.registry.epoch then
    match w.registry.applyAuthoritativeTopologySnapshotLocked w.registry.projection
      (projectionOf snapshot.outputs) snapshot.epoch snapshot.sequence with
    | none => w
    | some registry => w.adopt registry
  else
    let next := projectionOf snapshot.outputs
    let replaced := w.registry.setTopology next snapshot.epoch snapshot.sequence
    w.adopt (replaced.broadcastAll
      (if w.registry.projection.isEmpty then
        [.initialTopology snapshot.epoch snapshot.sequence next.values]
      else projectionDiffCommands w.registry.projection next snapshot.epoch snapshot.sequence))

def applyDelta (w : Supervisor) (delta : OutputTopologyDelta) : Supervisor :=
  match delta.transition with
  | .reset => w.triggerResync .reset
  | .snapshotRequired => w.triggerResync .snapshotRequired
  | _ =>
    match applyTopologyDelta w.registry.projection delta with
    | none => w
    | some result =>
      { w with
        registry := w.registry.advance delta result
        applied := w.applied ++ [delta] }

def takeDelta (w : Supervisor) (delta : OutputTopologyDelta) : Supervisor :=
  if w.registry.OutOfStep delta then
    { w with
      buffered :=
        if w.buffered.length < topologyDeltaBufferLimit then w.buffered ++ [delta]
        else [] }.triggerResync .sequenceGap
  else w.applyDelta delta

def takeEvent (w : Supervisor) : DisplayEvent → Supervisor
  | .outputTopologyDelta delta =>
    if w.state ≠ .streaming then (w.receiveDelta delta).bufferDelta delta
    else (w.receiveDelta delta).takeDelta delta
  | .outputTopology epoch sequence outputs =>
    if w.state ≠ .streaming then w else w.takeTopology ⟨epoch, sequence, outputs⟩
  | _ => w

def handle (w : Supervisor) : TopologyInput → Supervisor
  | .subscriptionLost _ => w.loseSubscription
  | .subscriptionSnapshot snapshot => w.takeSubscriptionSnapshot snapshot
  | .overflow => { w with state := .failed }
  | .snapshotResult resyncGeneration result => w.takeSnapshotResult resyncGeneration result
  | .event event => w.takeEvent event

end Supervisor

/-- The thread that reads displayd's stream: `overflowing` is about to mark its end, and
`retrying` reads the lost stream once more after a reconnection that failed. -/
inductive Subscription
  | reading | overflowing | reconnecting | retrying | ended
  deriving DecidableEq, Repr

def Subscription.isOpen (subscription : Subscription) : Bool :=
  subscription = .reading ∨ subscription = .retrying

structure TopologyService where
  supervisor : Supervisor := {}
  queue : List TopologyInput := []
  subscription : Subscription := .reading

inductive TopologyStep
  /-- The supervisor takes the next input. -/
  | receive
  /-- A message of the stream; one that is no event for waylandd is passed over. -/
  | deliver (event : Option DisplayEvent)
  | markOverflow
  | lose (reason : String)
  | reconnectFailed
  | reconnected (snapshot : TopologySnapshot)
  | fetched (resyncGeneration : Nat) (result : Except String TopologySnapshot)

namespace TopologyService

/-- A supervisor that has failed has closed the queue. -/
def hasRoom (s : TopologyService) : Bool :=
  s.supervisor.state ≠ .failed ∧ s.queue.length < topologyQueueCapacity + 1

/-- `try_send`: what finds no room is dropped. -/
def trySend (s : TopologyService) (input : TopologyInput) : TopologyService :=
  if s.hasRoom then { s with queue := s.queue ++ [input] } else s

def receive (s : TopologyService) : TopologyService :=
  match s.queue with
  | [] => s
  | input :: rest =>
    if s.supervisor.state = .failed then s
    else { s with
      queue := rest
      supervisor := s.supervisor.handle input }

def deliver (s : TopologyService) (event : Option DisplayEvent) : TopologyService :=
  if !s.subscription.isOpen then s
  else
    match event with
    | none => { s with subscription := .reading }
    | some event =>
      { s.trySend (.event event) with
        subscription := if s.hasRoom then .reading else .overflowing }

def markOverflow (s : TopologyService) : TopologyService :=
  if s.subscription ≠ .overflowing then s
  else { s.trySend .overflow with subscription := .ended }

def lose (s : TopologyService) (reason : String) : TopologyService :=
  if !s.subscription.isOpen then s
  else { s.trySend (.subscriptionLost reason) with subscription := .reconnecting }

def reconnectFailed (s : TopologyService) : TopologyService :=
  if s.subscription ≠ .reconnecting then s else { s with subscription := .retrying }

/-- A reconnection that finds a malformed snapshot has failed. -/
def reconnected (s : TopologyService) (snapshot : TopologySnapshot) : TopologyService :=
  if s.subscription ≠ .reconnecting then s
  else if !snapshotIsValid snapshot.outputs then s.reconnectFailed
  else
    { s.trySend (.subscriptionSnapshot snapshot) with
      subscription := if s.hasRoom then .reading else .ended }

def fetched (s : TopologyService) (resyncGeneration : Nat)
    (result : Except String TopologySnapshot) : TopologyService :=
  if resyncGeneration ∈ s.supervisor.fetches then
    { s with supervisor := s.supervisor.endFetch resyncGeneration }.trySend
      (.snapshotResult resyncGeneration result)
  else s

def step (s : TopologyService) : TopologyStep → TopologyService
  | .receive => s.receive
  | .deliver event => s.deliver event
  | .markOverflow => s.markOverflow
  | .lose reason => s.lose reason
  | .reconnectFailed => s.reconnectFailed
  | .reconnected snapshot => s.reconnected snapshot
  | .fetched resyncGeneration result => s.fetched resyncGeneration result

/-- The supervisor starts with the snapshot of its first subscription in the queue. -/
def topology : System TopologyService TopologyStep where
  init s := ∃ snapshot, snapshotIsValid snapshot.outputs ∧
    s = { queue := [.subscriptionSnapshot snapshot] }
  next := step

end TopologyService

end TuffXwin.Waylandd
