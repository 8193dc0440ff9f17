import TuffXwin.Displayd.State

/-! The mock display backend. It takes every frame but those it is told to fail,
completes them at once when it completes submissions itself, and hands out the
output events queued in it; `outputEvents` lists what is queued before each poll. -/

namespace TuffXwin.Displayd
open Lib

def mockBackendInstanceId : Nat := 1

structure MockDisplayBackend where
  failOnFrame : Option Nat := none
  failOnOutput : Option String := none
  autoComplete : Bool := false
  nextTokenSequence : Nat := 1
  outputEvents : List (List BackendOutputEvent) := []

namespace MockDisplayBackend

/-- The backend displayd runs with when it has no other. -/
def production : MockDisplayBackend := { autoComplete := true }

def token (b : MockDisplayBackend) (frame : FramePublication) : PresentationToken where
  backendInstanceId := mockBackendInstanceId
  sequence := b.nextTokenSequence
  outputId := frame.outputId
  outputGeneration := frame.outputGeneration
  sceneGeneration := frame.sceneGeneration
  frameId := frame.frameId

def submitFrame (b : MockDisplayBackend) (frame : FramePublication) :
    MockDisplayBackend × Except String PresentationToken :=
  if b.failOnFrame = some frame.frameId ∨ b.failOnOutput = some frame.outputId then
    (b, .error ("mock submission failure for frame " ++ toString frame.frameId))
  else ({ b with nextTokenSequence := satAdd b.nextTokenSequence 1 }, .ok (b.token frame))

end MockDisplayBackend

instance : DisplayBackend MockDisplayBackend where
  pollOutputEvents b := ({ b with outputEvents := b.outputEvents.tail }, b.outputEvents.headD [])
  submitFrame b frame := b.submitFrame frame
  completesImmediately b := b.autoComplete
  retireSubmission b _ := b
  completeSubmission b _ := (b, .ok ())
  reconfigureOutput b _ _ := (b, .ok ())
  removeOutput b _ := b
  submit_completes b frame := by
    unfold MockDisplayBackend.submitFrame
    split_ifs
    · rfl
    · rfl

/-- A monitor of one pixel. -/
def pixelGeometry : OutputGeometry where
  outputId := "eDP-1"
  width := 1
  height := 1
  stride := 4
  format := wlShmFormatXrgb8888
  originX := 0
  originY := 0
  outputGeneration := 1

def pixelConnected (backendInstanceId : Nat) : BackendOutputEvent :=
  .connected backendInstanceId "eDP-1" 1 pixelGeometry ⟨16666667⟩

/-- The mock backend about to announce its monitor. -/
def MockDisplayBackend.withMonitor (b : MockDisplayBackend) : MockDisplayBackend :=
  { b with outputEvents := [[pixelConnected mockBackendInstanceId]] }

/-- A scene of one surface that covers the monitor. -/
def pixelScene (sceneEpoch sceneGeneration : Nat) : SceneCommit where
  target := .output "eDP-1"
  focus := .none
  selection := {}
  surfaces := [{ id := "surface-1", placement := ⟨0, 0, 1, 1, 0, true⟩ }]
  pixelPayloads := []
  sceneEpoch := sceneEpoch
  sceneGeneration := sceneGeneration

end TuffXwin.Displayd
