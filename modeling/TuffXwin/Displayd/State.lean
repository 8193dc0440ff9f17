import TuffXwin.Displayd.Compose
import TuffXwin.Lib.Reach

/-! The state of displayd. An output runtime carries its bounds with the proof
that its validated geometry has them, so an output whose extent leaves the
coordinate range cannot be registered. `history` is a specification variable:
the functions append to it and none reads it. -/

namespace TuffXwin.Displayd
open Lib

structure FramePublication where
  frameId : Nat
  commitId : Nat
  outputId : String
  outputGeneration : Nat
  sceneEpoch : Nat
  sceneGeneration : Nat
  geometry : OutputGeometry
  format : Nat
  stride : Nat
  pixels : List UInt32
  damage : List RendererRect
  deriving DecidableEq

def FramePublication.version (f : FramePublication) : SceneVersion :=
  sceneVersion f.sceneEpoch f.sceneGeneration

structure OutstandingPresentation where
  token : PresentationToken
  frame : FramePublication
  deriving DecidableEq

structure OutputRetryState where
  sceneEpoch : Nat
  sceneGeneration : Nat
  outputGeneration : Nat
  frameId : Nat
  commitId : Nat
  deriving DecidableEq

structure OutputScheduler where
  cadence : PresentationCadence := ⟨16666667⟩
  state : PresentationSchedulerState := .idle
  outputGeneration : Nat
  sceneGeneration : Nat := 0
  nextEligibleNs : Nat := 0
  lastTickNs : Nat := 0
  lastTickSequence : Nat := 0
  deriving DecidableEq

structure OutputRuntime where
  state : OutputState
  bounds : RendererRect
  bounds_eq : state.bounds? = some bounds
  backendInstanceId : Nat := 0
  disabled : Bool := false
  framebuffer : List UInt32 := []
  nextFrameId : Nat := 1
  publishedFrameId : Nat := 0
  lastPublishedSceneGeneration : Nat := 0
  pendingDamage : List RendererRect := []
  pendingSceneEpoch : Nat := 0
  pendingSceneGeneration : Nat := 0
  pendingCommitId : Nat := 0
  retry : Option OutputRetryState := none
  submittedFrameId : Nat := 0
  outstanding : Option OutstandingPresentation := none
  scheduler : OutputScheduler := { outputGeneration := state.outputGeneration }
  deriving DecidableEq

namespace OutputRuntime

def pendingVersion (r : OutputRuntime) : SceneVersion :=
  sceneVersion r.pendingSceneEpoch r.pendingSceneGeneration

def initialized (r : OutputRuntime) : Bool := framebufferIsInitialized r.framebuffer r.state

/-- An enabled output with nothing to present and nothing in flight. -/
def Idle (r : OutputRuntime) : Prop :=
  r.disabled = false ∧ r.pendingDamage = [] ∧ r.outstanding = none ∧ r.retry = none

theorem bounds_spec (r : OutputRuntime) :
    r.bounds = ⟨r.state.originX, r.state.originY, r.state.originX + r.state.width,
      r.state.originY + r.state.height⟩ :=
  OutputState.bounds?_eq_some r.bounds_eq

theorem bounds_nonempty (r : OutputRuntime) : r.bounds.Nonempty := by
  have hw := r.state.valid.width_pos
  have hh := r.state.valid.height_pos
  rw [r.bounds_spec]
  unfold RendererRect.Nonempty
  dsimp only
  omega

/-- What no operation on a registered output changes. -/
structure SameOutput (r r' : OutputRuntime) : Prop where
  state : r'.state = r.state
  bounds : r'.bounds = r.bounds
  backendInstanceId : r'.backendInstanceId = r.backendInstanceId
  disabled : r'.disabled = r.disabled
  cadence : r'.scheduler.cadence = r.scheduler.cadence
  outputGeneration : r'.scheduler.outputGeneration = r.scheduler.outputGeneration

theorem SameOutput.refl (r : OutputRuntime) : SameOutput r r := ⟨rfl, rfl, rfl, rfl, rfl, rfl⟩

theorem SameOutput.trans {a b c : OutputRuntime} (h : SameOutput a b) (h' : SameOutput b c) :
    SameOutput a c :=
  ⟨h'.state.trans h.state, h'.bounds.trans h.bounds,
    h'.backendInstanceId.trans h.backendInstanceId, h'.disabled.trans h.disabled,
    h'.cadence.trans h.cadence, h'.outputGeneration.trans h.outputGeneration⟩

end OutputRuntime

structure PresentationObligation where
  sceneEpoch : Nat
  sceneGeneration : Nat
  requiredOutputs : OrdSet String
  presentedOutputs : OrdSet String := OrdMap.empty

def PresentationObligation.version (o : PresentationObligation) : SceneVersion :=
  sceneVersion o.sceneEpoch o.sceneGeneration

/-- What the specification remembers of a run. -/
inductive DisplayEffect
  | accepted (scene : CommittedSceneState)
  | obliged (commitId : Nat)
  | submitted (outputId : String) (sceneCommitId : Nat)
  | presented (outputId : String)
  | resolved (commitId : Nat) (requiredOutputs : OrdSet String)

structure DisplayState where
  displayEpoch : Nat
  reconciliationState : DisplayReconciliationState := .reconciledAwaitingPresentation
  lastScene : Option CommittedSceneState := none
  lastSceneEpoch : Nat := 0
  lastSceneGeneration : Nat := 0
  nextCommitId : Nat := 1
  presentationFeedbacks : OrdMap Nat DisplayEvent := OrdMap.empty
  presentationObligations : OrdMap Nat PresentationObligation := OrdMap.empty
  directScanoutCount : Nat := 0
  compositionFrameCount : Nat := 0
  outputs : OrdMap String OutputRuntime
  pixelTransport : DisplayPixelTransportStore := {}
  backendSequences : OrdMap Nat Nat := OrdMap.empty
  history : List DisplayEffect := []

namespace DisplayState

def floor (s : DisplayState) : SceneVersion :=
  sceneVersion s.lastSceneEpoch s.lastSceneGeneration

def lastCommitId (s : DisplayState) : Nat := (s.lastScene.map (·.commitId)).getD 0

def modifyOutput (s : DisplayState) (id : String) (f : OutputRuntime → OutputRuntime) :
    DisplayState :=
  { s with outputs := s.outputs.modify id f }

def note (s : DisplayState) (e : DisplayEffect) : DisplayState :=
  { s with history := e :: s.history }

@[simp] theorem modifyOutput_get? (s : DisplayState) (id id' : String)
    (f : OutputRuntime → OutputRuntime) :
    (s.modifyOutput id f).outputs.get? id' =
      if id' = id then (s.outputs.get? id').map f else s.outputs.get? id' :=
  OrdMap.get?_modify s.outputs id id' f

theorem modifyOutput_origin {s : DisplayState} {id id' : String}
    {f : OutputRuntime → OutputRuntime} {r' : OutputRuntime}
    (h : (s.modifyOutput id f).outputs.get? id' = some r') :
    (id' ≠ id ∧ s.outputs.get? id' = some r') ∨
      (id' = id ∧ ∃ r, s.outputs.get? id = some r ∧ r' = f r) := by
  rw [modifyOutput_get?] at h
  split_ifs at h with hid
  · obtain ⟨r, hr, rfl⟩ := Option.map_eq_some_iff.mp h
    exact .inr ⟨hid, r, hid ▸ hr, rfl⟩
  · exact .inl ⟨hid, h⟩

/-- `DisplayState::scene_for_output`. -/
def sceneForOutput (s : DisplayState) (output : Option String) : Option CommittedSceneState :=
  s.lastScene.bind fun scene =>
    match output with
    | none => some scene
    | some name => if scene.target.name = name then some scene else none

end DisplayState

def sceneTargetsOutput (scene : CommittedSceneState) (output : String) : Bool :=
  scene.target.name = output

/-- The services displayd calls on its display backend. Whether submissions
complete at once is a property of the backend that a submission does not change. -/
class DisplayBackend (β : Type) where
  pollOutputEvents : β → β × List BackendOutputEvent
  submitFrame : β → FramePublication → β × Except String PresentationToken
  completesImmediately : β → Bool
  retireSubmission : β → PresentationToken → β
  completeSubmission : β → PresentationToken → β × Except String Unit
  reconfigureOutput : β → String → Nat → β × Except String Unit
  removeOutput : β → String → β
  submit_completes : ∀ b frame,
    completesImmediately (submitFrame b frame).1 = completesImmediately b

/-- What one request takes from its environment: clocks, read once for each
feedback, and whether the scene snapshot reaches the disk. -/
structure Env where
  clockNow : Nat := 1000000000
  monotonicNow : Nat → Nat := fun _ => 0
  unixTimestamp : Nat := 0
  persists : CommittedSceneState → Except String Unit := fun _ => .ok ()

def defaultOutputState : OutputState where
  outputId := "eDP-1"
  width := 1920
  height := 1080
  stride := 1920 * 4
  format := wlShmFormatXrgb8888
  originX := 0
  originY := 0
  outputGeneration := 0
  valid := by constructor <;> decide

def defaultOutputRuntime : OutputRuntime where
  state := defaultOutputState
  bounds := ⟨0, 0, 1920, 1080⟩
  bounds_eq := by decide

def defaultOutputRegistry : OrdMap String OutputRuntime :=
  OrdMap.empty.insert "eDP-1" defaultOutputRuntime

end TuffXwin.Displayd
