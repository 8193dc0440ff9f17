import TuffXwin.Headless.DispatchKept
import TuffXwin.Headless.TopologyKept
import TuffXwin.Lib.Reach

/-! Runs of the core of one client: messages are dispatched, deliveries acknowledged and
outputs added, reconfigured and removed, until an operation fails and the connection ends. A
stable invariant holds in every state of every run whose operations it admits. -/

namespace TuffXwin.Headless
open Lib
open WaylandWire (WireError WireArg WaylandMessage readU32 writeU32 encodeString displayId
  encodeEvent)

/-- The core as it is created; the host chooses whether callbacks and feedbacks wait for it. -/
def freshCore (deferCallbacks deferFeedback : Bool) : HeadlessWireCore where
  deferFrameCallbacks := deferCallbacks
  deferPresentationFeedback := deferFeedback

theorem freshCore_anchored (deferCallbacks deferFeedback : Bool) :
    Anchored none (freshCore deferCallbacks deferFeedback).anchors := by
  have hglobals : ∀ global ∈ standardGlobals, global.interface.plain = true := by decide
  refine ⟨fun interface id hkeeps => ?_, ⟨?_, ?_⟩, hglobals, fun id hpeer => ?_, rfl, ?_⟩
  · cases interface
    case wlCallback =>
      obtain ⟨_, _, _, hsurface, _⟩ := hkeeps
      cases hsurface
    all_goals cases hkeeps
  · intro _ _ _ _ _ hsurface
    cases hsurface
  · intro _ _ hsurface
    cases hsurface
  · rcases hpeer with hdevice | hsource | ⟨_, _, hoffer, _⟩
    · cases hdevice
    · cases hsource
    · cases hoffer
  · intro id hlive
    rcases LiveAs.of_registered hlive with ⟨heq, _⟩ | ⟨_, hobject, _⟩
    · exact heq
    · cases hobject

/-- An environment in which nothing moves. -/
def stillEnvironment : Environment where
  visit := id
  visit_perm := fun _ => List.Perm.refl _
  clockNow := 0
  fileSize := fun _ => none

/-- The binding of a global by a client whose registry is object 2. -/
def bindGlobal (name newId version : Nat) (interface : Interface) : WaylandMessage :=
  .new 2 0 (writeU32 name ++ encodeString interface.name ++ writeU32 version ++ writeU32 newId)

inductive Operation
  | dispatch (message : WaylandMessage) (fds : List Nat) (environment : Environment)
  | acknowledge (event : WaylandMessage)
  | addOutput (output : RealOutput)
  | reconfigureOutput (output : RealOutput) (environment : Environment)
  | removeOutput (name : String) (environment : Environment)
  | recalculate (environment : Environment)

def Operation.perform : Operation → Handler Unit
  | .dispatch message fds environment => do
    let _ ← dispatchWithFds message fds environment
  | .acknowledge event => acknowledgeEventDelivery event
  | .addOutput output => addTopologyOutput output
  | .reconfigureOutput output environment => reconfigureTopologyOutput output environment
  | .removeOutput name environment => removeTopologyOutput name environment
  | .recalculate environment => recalculateSurfaceMembership environment

/-- The core, and how its connection ended if it did. -/
structure Client where
  core : HeadlessWireCore
  fault : Option Fault := none

variable {client : Client}

namespace Client

def after (client : Client) (handler : Handler Unit) : Client :=
  match client.fault with
  | some _ => client
  | none =>
    match handler client.core with
    | .ok _ core => { core := core }
    | .error fault core => { core := core, fault := some fault }

def step (client : Client) (operation : Operation) : Client := client.after operation.perform

/-- A new client, whatever its host defers. -/
def Fresh (client : Client) : Prop :=
  ∃ deferCallbacks deferFeedback, client = { core := freshCore deferCallbacks deferFeedback }

end Client

def clients : System Client Operation where
  init := Client.Fresh
  next := Client.step

/-- What an invariant asks of an operation. -/
def Operation.Admitted (terms : Terms) (core : HeadlessWireCore) : Operation → Prop
  | .dispatch message fds environment => ∀ object args,
    core.object? message.header.objectId = some object →
      Admits terms (core.readied fds) object.interface (requestOf message args environment)
  | .acknowledge _ => True
  | .addOutput _ => terms.safe → core.nextGlobalName < u32Max
  | .reconfigureOutput output _ =>
    ((core.outputsNamed output.name).keys ≠ [] → terms.mayBind) ∧
      (terms.safe → OutputEdgesFit (core.reconfigured output))
  | .removeOutput .. => terms.safe → OutputEdgesFit core
  | .recalculate _ => terms.safe → OutputEdgesFit core

/-- The moves of a run that are not those of a request. -/
structure Lasting (J : Frame → Prop) : Prop where
  fresh : ∀ deferCallbacks deferFeedback, J (freshCore deferCallbacks deferFeedback).frame
  readied : ∀ f, J f → J { f with eventsOut := [] }
  acknowledged : ∀ f id registry, J f → f.registry.acknowledgeDeleteId id = .ok registry →
    J { f with registry := registry }
  topology : ∀ f topology, J f → J { f with topology := topology }

section Run

variable {terms : Terms} {J : Frame → Prop} {core : HeadlessWireCore}

theorem acknowledgeDeleteId_objects {registry registry' : WireObjectRegistry} {id : Nat}
    (h : registry.acknowledgeDeleteId id = .ok registry') :
    registry'.objects = registry.objects := by
  unfold WireObjectRegistry.acknowledgeDeleteId at h
  split_ifs at h
  obtain rfl := Except.ok.inj h
  rfl

theorem acknowledgeEventDelivery_kept (hL : Lasting J) (h : Holds J none core)
    {event : WaylandMessage} : Kept terms J (acknowledgeEventDelivery event) core := by
  unfold acknowledgeEventDelivery
  split_ifs
  · exact kept_throw
  · refine kept_part (fun _ => acknowledgeDeleteId_calm _ _) fun registry hregistry => ?_
    refine ⟨?_, hL.acknowledged core.frame _ registry h.kept hregistry⟩
    change Anchored none { core.anchors with objects := registry.objects }
    rw [acknowledgeDeleteId_objects hregistry]
    exact h.anchored
  · exact kept_pure h

/-- What one admitted operation preserves. -/
theorem perform_kept (hJ : Stable terms J) (hL : Lasting J) (h : Holds J none core)
    {operation : Operation} (hadmitted : operation.Admitted terms core) :
    Kept terms J operation.perform core := by
  cases operation with
  | dispatch message fds environment =>
    have hready : Holds J none (core.readied fds) := ⟨h.anchored, hL.readied core.frame h.kept⟩
    exact fun _ => Ends.then (dispatchWithFds_ends hJ h.left hready hadmitted)
      fun _ _ hdone => ends_pure.mpr hdone.1
  | acknowledge event => exact acknowledgeEventDelivery_kept hL h
  | addOutput output => exact addTopologyOutput_kept hJ hL.topology h hadmitted
  | reconfigureOutput output environment =>
    exact reconfigureTopologyOutput_kept hJ hL.topology h hadmitted.1 hadmitted.2
  | removeOutput name environment =>
    exact removeTopologyOutput_kept hJ hL.topology h hadmitted
  | recalculate environment => exact recalculateSurfaceMembership_kept hJ h hadmitted

/-- A client that keeps the invariant until its connection ends, and ends without a panic
where safety is asked for. -/
structure Sound (terms : Terms) (J : Frame → Prop) (client : Client) : Prop where
  holds : client.fault = none → Holds J none client.core
  calm : terms.safe → client.fault ≠ some .panicked

theorem Sound.after {handler : Handler Unit} (h : Sound terms J client)
    (hkept : client.fault = none → Kept terms J handler client.core) :
    Sound terms J (client.after handler) := by
  unfold Client.after
  cases hfault : client.fault with
  | some fault => exact h
  | none =>
    have hends := hkept hfault (h.holds hfault)
    cases hresult : handler client.core with
    | ok _ core => exact ⟨fun _ => hends.ok hresult, by simp⟩
    | error fault core =>
      refine ⟨by simp, fun hsafe heq => (hends.error hresult).1 hsafe ?_⟩
      exact Option.some.inj heq

theorem Sound.fresh (hL : Lasting J) (h : client.Fresh) : Sound terms J client := by
  obtain ⟨deferCallbacks, deferFeedback, rfl⟩ := h
  exact ⟨fun _ => ⟨freshCore_anchored _ _, hL.fresh _ _⟩, by simp⟩

/-- A stable invariant holds throughout every run that it admits. -/
theorem run_sound (hJ : Stable terms J) (hL : Lasting J)
    (h : clients.Reach (fun client operation => operation.Admitted terms client.core) client) :
    Sound terms J client := by
  refine h.invariant (fun _ => Sound.fresh hL) fun client operation hsound hadmitted => ?_
  exact hsound.after fun hfault => perform_kept hJ hL (hsound.holds hfault) hadmitted

end Run

end TuffXwin.Headless
