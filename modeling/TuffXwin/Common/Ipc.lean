import Mathlib.Data.Prod.Lex
import Mathlib.Data.String.Basic
import Mathlib.Order.Lattice
import TuffXwin.Lib.Machine

/-! The messages of the broker services. Field names and variants follow the
IPC types; a variant or a field that no modelled function reads is left out.
Unsigned words are `Nat`, signed words `Int`, pixel bytes and words fixed-width. -/

namespace TuffXwin
open Lib

variable {e e' g g' : Nat}

inductive ServiceRole
  | displayd | waylandd | compd | lockd | sessiond | watchdog | x11Bridge
  deriving DecidableEq, Repr

structure Rect where
  x : Int
  y : Int
  width : Nat
  height : Nat
  deriving DecidableEq, Repr

structure PixelTransportHandle where
  clientId : Nat
  surfaceId : String
  bufferGeneration : Nat
  sceneGeneration : Nat
  deriving DecidableEq, Repr

/-- The derived field order of the handle. -/
def PixelTransportHandle.key (h : PixelTransportHandle) : Nat ×ₗ String ×ₗ Nat ×ₗ Nat :=
  toLex (h.clientId, toLex (h.surfaceId, toLex (h.bufferGeneration, h.sceneGeneration)))

theorem PixelTransportHandle.key_injective : Function.Injective key := by
  rintro ⟨_, _, _, _⟩ ⟨_, _, _, _⟩ h
  simpa [key] using h

instance : LinearOrder PixelTransportHandle :=
  LinearOrder.lift' PixelTransportHandle.key PixelTransportHandle.key_injective

structure PixelTransportPayload where
  handle : PixelTransportHandle
  pixels : List UInt8
  width : Nat
  height : Nat
  stride : Nat
  format : Nat
  deriving DecidableEq, Repr

structure SurfacePlacement where
  x : Int
  y : Int
  width : Nat
  height : Nat
  z : Int
  visible : Bool
  deriving DecidableEq, Repr

structure SurfaceSnapshot where
  id : String
  appId : String := ""
  placement : SurfacePlacement
  bufferHandle : Option String := none
  bufferGeneration : Nat := 0
  damageRects : List Rect := []
  pixelTransport : Option PixelTransportHandle := none
  layerClass : Nat := 0
  creationSequence : Nat := 0
  deriving DecidableEq, Repr

inductive CommitTarget
  | output (name : String)
  deriving DecidableEq, Repr

def CommitTarget.name : CommitTarget → String
  | .output name => name

inductive FocusTarget
  | surface (id : String)
  | none
  deriving DecidableEq, Repr

structure SelectionOffer where
  offerId : String
  sourceId : String
  ownerSurfaceId : String
  mimeTypes : List String
  serial : Nat
  deriving DecidableEq, Repr

structure WaylandSelectionState where
  clipboardOwner : Option String := none
  clipboardPayloadId : Option String := none
  clipboardSourceSerial : Option Nat := none
  clipboardOffer : Option SelectionOffer := none
  primarySelectionOwner : Option String := none
  primarySelectionPayloadId : Option String := none
  primarySelectionSourceSerial : Option Nat := none
  primaryOffer : Option SelectionOffer := none
  deriving DecidableEq, Repr

structure CommittedSceneState where
  source : ServiceRole
  target : CommitTarget
  focus : FocusTarget
  selection : WaylandSelectionState
  surfaces : List SurfaceSnapshot
  sceneEpoch : Nat
  sceneGeneration : Nat
  commitId : Nat
  unixTimestamp : Nat
  deriving DecidableEq, Repr

/-- Scene versions are compared as pairs, epoch first. -/
abbrev SceneVersion := Nat ×ₗ Nat

def sceneVersion (epoch generation : Nat) : SceneVersion := toLex (epoch, generation)

theorem sceneVersion_le : sceneVersion e g ≤ sceneVersion e' g' ↔ e < e' ∨ (e = e' ∧ g ≤ g') :=
  Prod.Lex.toLex_le_toLex

theorem sceneVersion_eq : sceneVersion e g = sceneVersion e' g' ↔ e = e' ∧ g = g' := by
  simp [sceneVersion]

theorem sceneVersion_zero_le (v : SceneVersion) : sceneVersion 0 0 ≤ v := by
  obtain ⟨e, g⟩ := v
  exact sceneVersion_le.mpr (by omega)

structure OutputGeometry where
  outputId : String
  width : Nat
  height : Nat
  stride : Nat
  format : Nat
  originX : Int
  originY : Int
  outputGeneration : Nat
  deriving DecidableEq, Repr

structure OutputTopologyEntry where
  geometry : OutputGeometry
  refreshHz : Nat
  scale : Nat
  transform : Nat
  enabled : Bool
  name : String
  description : String
  deriving DecidableEq, Repr

inductive OutputTopologyTransition
  | added | reconfigured | disabled | enabled | removed | reset | snapshotRequired
  deriving DecidableEq, Repr

structure OutputTopologyDelta where
  epoch : Nat
  topologySequence : Nat
  outputId : Option String
  outputGeneration : Option Nat
  lifecycleSequence : Nat
  transition : OutputTopologyTransition
  output : Option OutputTopologyEntry
  deriving DecidableEq, Repr

structure PresentationCadence where
  periodNs : Nat
  deriving DecidableEq, Repr

def PresentationCadence.validate (c : PresentationCadence) : Except String Unit :=
  if c.periodNs = 0 then .error "presentation cadence must be non-zero" else .ok ()

structure PresentationToken where
  backendInstanceId : Nat
  sequence : Nat
  outputId : String
  outputGeneration : Nat
  sceneGeneration : Nat
  frameId : Nat
  deriving DecidableEq, Repr

def PresentationToken.key (t : PresentationToken) :
    Nat ×ₗ Nat ×ₗ String ×ₗ Nat ×ₗ Nat ×ₗ Nat :=
  toLex (t.backendInstanceId, toLex (t.sequence, toLex (t.outputId,
    toLex (t.outputGeneration, toLex (t.sceneGeneration, t.frameId)))))

theorem PresentationToken.key_injective : Function.Injective key := by
  rintro ⟨_, _, _, _, _, _⟩ ⟨_, _, _, _, _, _⟩ h
  simpa [key] using h

instance : LinearOrder PresentationToken :=
  LinearOrder.lift' PresentationToken.key PresentationToken.key_injective

def PresentationToken.validate (t : PresentationToken) : Except String Unit :=
  if t.backendInstanceId = 0 ∨ t.sequence = 0 ∨ t.outputId = "" then
    .error "malformed presentation token"
  else if t.frameId = 0 then .error "presentation token has invalid frame"
  else .ok ()

inductive PublicationFailure
  | backendRejected | staleOutputGeneration | staleRetryState | malformedPublicationState
  | outputUnavailable | rendererRejected
  deriving DecidableEq, Repr

inductive PresentationCompletion
  | presented
  | failed (reason : PublicationFailure)
  | superseded | staleGeneration | unknownToken | backendUnavailable
  deriving DecidableEq, Repr

inductive PresentationSchedulerState
  | idle | damagePending | submissionEligible | submissionInFlight | retryPending
  | presentationBlocked
  deriving DecidableEq, Repr

inductive DisplayReconciliationState
  | recovering | reconciledAwaitingPresentation | ready | failed
  deriving DecidableEq, Repr

inductive BackendOutputEvent
  | connected (backendInstanceId : Nat) (backendOutputId : String) (eventSequence : Nat)
      (geometry : OutputGeometry) (cadence : PresentationCadence)
  | reconfigured (backendInstanceId : Nat) (backendOutputId : String) (eventSequence : Nat)
      (geometry : OutputGeometry) (cadence : PresentationCadence)
  | disabled (backendInstanceId : Nat) (backendOutputId : String) (eventSequence : Nat)
      (outputGeneration : Nat)
  | disconnected (backendInstanceId : Nat) (backendOutputId : String) (eventSequence : Nat)
      (outputGeneration : Nat)
  | backendReset (backendInstanceId : Nat) (eventSequence : Nat)
  deriving DecidableEq, Repr

/-- The fields of `DisplayCommand::CommitScene`. -/
structure SceneCommit where
  target : CommitTarget
  focus : FocusTarget
  selection : WaylandSelectionState
  surfaces : List SurfaceSnapshot
  pixelPayloads : List PixelTransportPayload
  sceneEpoch : Nat
  sceneGeneration : Nat
  deriving DecidableEq, Repr

def SceneCommit.version (c : SceneCommit) : SceneVersion :=
  sceneVersion c.sceneEpoch c.sceneGeneration

def CommittedSceneState.version (s : CommittedSceneState) : SceneVersion :=
  sceneVersion s.sceneEpoch s.sceneGeneration

inductive DisplayCommand
  | getReconciliation
  | getOutputTopology
  | beginReconciliation (epoch : Nat)
  | reconcileScene (epoch : Nat) (scene : SceneCommit)
  | advancePresentation (outputId : String) (outputGeneration nowNs tickSequence : Nat)
  | completePresentation (token : PresentationToken) (outcome : PresentationCompletion)
  | configureOutput (geometry : OutputGeometry)
  | removeOutput (outputId : String) (outputGeneration : Nat)
  | commitScene (scene : SceneCommit)
  | getSceneSnapshot (output : Option String)
  | getPresentationFeedback (commitId : Nat)
  deriving DecidableEq, Repr

inductive DisplayEvent
  | reconciliation (epoch : Nat) (state : DisplayReconciliationState)
  | outputTopology (epoch sequence : Nat) (outputs : List OutputTopologyEntry)
  | outputTopologyDelta (delta : OutputTopologyDelta)
  | reconciled (epoch sceneGeneration payloadCount : Nat)
  | presentationCompleted (token : PresentationToken) (outcome : PresentationCompletion)
  | presentationAdvanced (outputId : String) (tickSequence : Nat) (eligible : Bool)
  | modeApplied (output : String)
  | sceneCommitted (target : CommitTarget) (focus : FocusTarget)
      (selection : WaylandSelectionState) (surfaceCount commitId : Nat)
  | sceneSnapshot (snapshot : Option CommittedSceneState)
  | framePresented (commitId timestamp refreshNs seq flags : Nat)
  | blankApplied (output : Option String)
  | rejected (reason : String)
  deriving DecidableEq, Repr

end TuffXwin
