import TuffXwin.Common.Ipc
import TuffXwin.Lib.Fold
import TuffXwin.Lib.Machine
import TuffXwin.Lib.OrdMap

/-! The rootless scene of the X11 bridge: its validator, and the surfaces, the focus and
the selection that are made of it. The numbers are words of the source's widths. -/

namespace TuffXwin.LayerX11
open Lib

variable {ids ids' : OrdSet String}

inductive X11WindowKind
  | normal
  | dialog
  | utility
  | dock
  | menu
  | tooltip
  deriving DecidableEq, Repr

structure X11Window where
  id : String
  appId : String
  title : String
  kind : X11WindowKind
  x : Int32
  y : Int32
  width : UInt32
  height : UInt32
  z : Int32
  mapped : Bool
  overrideRedirect : Bool
  deriving DecidableEq, Repr

variable {window : X11Window}

structure X11OutputTarget where
  name : String
  width : UInt32
  height : UInt32
  deriving DecidableEq, Repr

structure X11SelectionState where
  clipboardOwner : Option String := none
  clipboardPayloadId : Option String := none
  clipboardSourceSerial : Option UInt64 := none
  primarySelectionOwner : Option String := none
  primarySelectionPayloadId : Option String := none
  primarySelectionSourceSerial : Option UInt64 := none
  deriving DecidableEq, Repr

structure X11RootlessScene where
  output : X11OutputTarget
  focusWindow : Option String
  selection : X11SelectionState := {}
  windows : List X11Window
  deriving DecidableEq, Repr

variable {scene : X11RootlessScene}

/-- The loop over the windows; the accumulator holds the ids seen. -/
def validateWindow (ids : OrdSet String) (window : X11Window) : Except String (OrdSet String) :=
  if window.id = "" ∨ ids.contains window.id then
    .error "window ids must be non-empty and unique"
  else if window.mapped then
    if window.width = 0 ∨ window.height = 0 then
      .error ("mapped window " ++ window.id ++ " must have non-zero dimensions")
    else if i32Checked window.width.toNat = none then
      .error ("window " ++ window.id ++ " width overflows i32")
    else if i32Checked window.height.toNat = none then
      .error ("window " ++ window.id ++ " height overflows i32")
    else if i32Checked (window.x.toInt + window.width.toNat) = none then
      .error ("window " ++ window.id ++ " x coordinate overflows i32")
    else if i32Checked (window.y.toInt + window.height.toNat) = none then
      .error ("window " ++ window.id ++ " y coordinate overflows i32")
    else .ok (ids.insert window.id ())
  else .ok (ids.insert window.id ())

structure SelectionClaim where
  label : String
  owner : Option String
  payload : Option String
  serial : Option UInt64

namespace X11RootlessScene

variable (scene : X11RootlessScene)

def mappedWindows : List X11Window := scene.windows.filter (·.mapped)

def validateSelection (claimed : SelectionClaim) : Except String Unit :=
  match claimed.owner with
  | some owner =>
    if scene.windows.any fun window => window.mapped ∧ window.id = owner then .ok ()
    else .error (claimed.label ++ " owner " ++ owner ++ " is not a mapped window")
  | none =>
    if claimed.payload.isSome ∨ claimed.serial.isSome then
      .error (claimed.label ++ " metadata requires an owner")
    else .ok ()

def selectionClaims : List SelectionClaim :=
  [⟨"clipboard", scene.selection.clipboardOwner, scene.selection.clipboardPayloadId,
      scene.selection.clipboardSourceSerial⟩,
    ⟨"primary selection", scene.selection.primarySelectionOwner,
      scene.selection.primarySelectionPayloadId, scene.selection.primarySelectionSourceSerial⟩]

def validate : Except String Unit :=
  if scene.output.name = "" then .error "output name must not be empty"
  else if ¬ (1 ≤ scene.output.width ∧ scene.output.width ≤ 16384) ∨
      ¬ (1 ≤ scene.output.height ∧ scene.output.height ≤ 16384) then
    .error "output dimensions must be between 1 and 16384"
  else if scene.output.width.toNat * scene.output.height.toNat > 67108864 then
    .error "output pixel budget exceeded"
  else if scene.windows.length > 4096 then .error "window budget exceeded"
  else
    scene.windows.foldlM validateWindow OrdMap.empty >>= fun _ =>
    checkAll scene.validateSelection scene.selectionClaims

end X11RootlessScene

def X11Window.toSurfaceSnapshot (window : X11Window) : SurfaceSnapshot where
  id := window.id
  appId := window.appId
  placement := ⟨window.x.toInt, window.y.toInt, window.width.toNat, window.height.toNat,
    window.z.toInt, window.mapped⟩

namespace X11RootlessScene

variable (scene : X11RootlessScene)

def toSurfaceSnapshots : List SurfaceSnapshot :=
  scene.mappedWindows.map X11Window.toSurfaceSnapshot

def focusTarget : FocusTarget :=
  match scene.focusWindow with
  | some focusId =>
    if scene.mappedWindows.any fun window => window.id = focusId then .surface focusId else .none
  | none => .none

def selectionState : WaylandSelectionState where
  clipboardOwner := scene.selection.clipboardOwner
  clipboardPayloadId := scene.selection.clipboardPayloadId
  clipboardSourceSerial := scene.selection.clipboardSourceSerial.map UInt64.toNat
  clipboardOffer := none
  primarySelectionOwner := scene.selection.primarySelectionOwner
  primarySelectionPayloadId := scene.selection.primarySelectionPayloadId
  primarySelectionSourceSerial := scene.selection.primarySelectionSourceSerial.map UInt64.toNat
  primaryOffer := none

end X11RootlessScene

def sampleRootlessScene : X11RootlessScene where
  output := ⟨"eDP-1", 1920, 1080⟩
  focusWindow := some "xterm-1"
  selection :=
    ⟨some "xterm-1", some "x11-clipboard-v1", some 101, some "xterm-1", some "x11-primary-v1",
      some 102⟩
  windows :=
    [⟨"xterm-1", "org.x.term", "xterm", .normal, 96, 72, 1120, 720, 10, true, false⟩,
      ⟨"xclock-1", "org.x.clock", "xclock", .utility, 1320, 88, 240, 240, 20, true, false⟩,
      ⟨"dock-1", "org.x.panel", "legacy dock", .dock, 0, 0, 1920, 32, 100, true, true⟩]

/-- What the validator lets a mapped window be. -/
structure PlacedWindow (window : X11Window) : Prop where
  width : window.width.toNat ≠ 0
  height : window.height.toNat ≠ 0
  right : i32Min ≤ window.x.toInt + window.width.toNat ∧
    window.x.toInt + window.width.toNat ≤ i32Max
  bottom : i32Min ≤ window.y.toInt + window.height.toNat ∧
    window.y.toInt + window.height.toNat ≤ i32Max

/-- The loop over the windows after it has passed `done`. -/
structure PassedWindows (done : List X11Window) (ids : OrdSet String) : Prop where
  named : ∀ window ∈ done, window.id ≠ ""
  placed : ∀ window ∈ done, window.mapped = true → PlacedWindow window
  nodup : (done.map (·.id)).Nodup
  ids : ∀ id, ids.contains id = true ↔ ∃ window ∈ done, window.id = id

theorem validateWindow_placed (h : validateWindow ids window = .ok ids') :
    window.id ≠ "" ∧ ids.contains window.id = false ∧ ids' = ids.insert window.id () ∧
      (window.mapped = true → PlacedWindow window) := by
  have hword : ∀ n : UInt32, n ≠ 0 → n.toNat ≠ 0 := fun n hn hzero =>
    hn (UInt32.toNat_inj.mp hzero)
  have hchecked : ∀ v, i32Checked v ≠ none → i32Min ≤ v ∧ v ≤ i32Max := fun v hv => by
    by_contra hout
    exact hv (if_neg hout)
  unfold validateWindow at h
  split_ifs at h with hid hmapped hzero hwidth hheight hright hbottom
  · rw [not_or] at hid hzero
    cases h
    exact ⟨hid.1, by simpa using hid.2, rfl, fun _ => ⟨hword _ hzero.1, hword _ hzero.2,
      hchecked _ hright, hchecked _ hbottom⟩⟩
  · rw [not_or] at hid
    cases h
    exact ⟨hid.1, by simpa using hid.2, rfl, fun h => absurd h hmapped⟩

theorem validateWindow_step {done : List X11Window} (hacc : PassedWindows done ids)
    (h : validateWindow ids window = .ok ids') : PassedWindows (done ++ [window]) ids' := by
  obtain ⟨hid, hfresh, rfl, hplaced⟩ := validateWindow_placed h
  refine ⟨?_, ?_, ?_, fun id => ?_⟩
  · simpa [or_imp, forall_and, hid] using hacc.named
  · intro other hother
    rcases List.mem_append.mp hother with hother | hother
    · exact hacc.placed other hother
    · rw [List.mem_singleton.mp hother]
      exact hplaced
  · rw [List.map_append, List.nodup_append]
    refine ⟨hacc.nodup, by simp, ?_⟩
    intro a ha b hb heq
    obtain ⟨other, hother, rfl⟩ := List.mem_map.mp ha
    rw [List.map_singleton, List.mem_singleton] at hb
    rw [(hacc.ids window.id).mpr ⟨other, hother, heq.trans hb⟩] at hfresh
    cases hfresh
  · rw [OrdSet.contains_insert, hacc.ids]
    simp only [List.mem_append, List.mem_singleton, or_and_right, exists_or, exists_eq_left]
    rw [or_comm, eq_comm (a := id)]

/-- A scene that passed the validator. -/
structure ValidScene (scene : X11RootlessScene) : Prop where
  output : scene.output.name ≠ ""
  count : scene.windows.length ≤ 4096
  named : ∀ window ∈ scene.windows, window.id ≠ ""
  placed : ∀ window ∈ scene.windows, window.mapped = true → PlacedWindow window
  nodup : (scene.windows.map (·.id)).Nodup
  owners : ∀ claimed ∈ scene.selectionClaims, ∀ owner, claimed.owner = some owner →
    ∃ window ∈ scene.windows, window.mapped = true ∧ window.id = owner

theorem X11RootlessScene.validate_valid (h : scene.validate = .ok ()) : ValidScene scene := by
  unfold validate at h
  split_ifs at h with hname hdimensions hpixels hcount
  obtain ⟨ids, hids, hclaims⟩ := bind_eq_ok.mp h
  have hpassed : PassedWindows scene.windows ids :=
    foldlM_prefix PassedWindows (fun _ _ _ _ => validateWindow_step)
      ⟨by simp, by simp, by simp, by simp [OrdMap.contains_empty]⟩ hids
  refine ⟨hname, not_lt.mp hcount, hpassed.named, hpassed.placed, hpassed.nodup, ?_⟩
  intro claimed hclaimed owner howner
  have hchecked := checkAll_ok.mp hclaims claimed hclaimed
  unfold validateSelection at hchecked
  simp only [howner] at hchecked
  split_ifs at hchecked with hany
  simpa using hany

theorem X11RootlessScene.mem_mappedWindows :
    window ∈ scene.mappedWindows ↔ window ∈ scene.windows ∧ window.mapped = true := by
  simp [mappedWindows]

end TuffXwin.LayerX11
