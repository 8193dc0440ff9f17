import TuffXwin.Common.Delivery
import TuffXwin.Compd.Admissible
import TuffXwin.LayerX11.RootlessScene
import TuffXwin.Lib.JsonSize

/-! A rootless scene on its way to displayd. A scene that was loaded is short enough for the
frame of its request, whatever its ids are made of: every text that the request repeats was
in the file, and what stands around the texts is bounded for each window. -/

namespace TuffXwin.LayerX11
open Lib Lib.Json

variable {scene : X11RootlessScene} {κ : Type}

def maxSceneInputBytes : Nat := 8 * 1024 * 1024

/-- What comes of opening a path and, when there is a file, of reading it to its end. -/
abbrev SceneFiles := String → Option (Except String (List UInt8))

/-- `fromSlice` stands for `serde_json::from_slice`. -/
def loadScene (fromSlice : List UInt8 → Option X11RootlessScene) (files : SceneFiles)
    (path : Option String) : Except String X11RootlessScene :=
  let loaded :=
    match path with
    | none => .ok sampleRootlessScene
    | some path =>
      match files path with
      | none => .error ("failed to read scene file " ++ path)
      | some (.error reason) => .error reason
      | some (.ok bytes) =>
        let raw := bytes.take (maxSceneInputBytes + 1)
        if raw.length > maxSceneInputBytes then
          .error ("scene file exceeds " ++ toString maxSceneInputBytes ++ " bytes")
        else
          match fromSlice raw with
          | none => .error ("failed to decode scene file " ++ path)
          | some scene => .ok scene
  loaded >>= fun scene =>
    match scene.validate with
    | .error reason => .error ("invalid rootless scene: " ++ reason)
    | .ok () => .ok scene

def X11RootlessScene.commitScene (scene : X11RootlessScene) : SceneCommit where
  target := .output scene.output.name
  focus := scene.focusTarget
  selection := scene.selectionState
  surfaces := scene.toSurfaceSnapshots
  pixelPayloads := []
  sceneEpoch := 0
  sceneGeneration := 0

/-- The request that `commit_scene_to_displayd` sends. -/
def X11RootlessScene.commitRequest {κ : Type} (scene : X11RootlessScene) : IpcEnvelope κ :=
  ⟨.x11Bridge, .displayd, .displayCommand (.commitScene scene.commitScene)⟩

/-! The size of the request. -/

def textSize (text : Option String) : Nat := text.elim 0 quotedSize

def X11Window.textSize (window : X11Window) : Nat :=
  quotedSize window.id + quotedSize window.appId + quotedSize window.title

/-- What the texts of a scene take at least in a document. -/
def X11RootlessScene.textSize (scene : X11RootlessScene) : Nat :=
  quotedSize scene.output.name + LayerX11.textSize scene.focusWindow +
    LayerX11.textSize scene.selection.clipboardOwner +
    LayerX11.textSize scene.selection.clipboardPayloadId +
    LayerX11.textSize scene.selection.primarySelectionOwner +
    LayerX11.textSize scene.selection.primarySelectionPayloadId +
    (scene.windows.map X11Window.textSize).sum

/-- Every text of a scene that was read has its own place in the document, with no fewer
escapes than it needs. -/
def ReadsTexts (fromSlice : List UInt8 → Option X11RootlessScene) : Prop :=
  ∀ raw scene, fromSlice raw = some scene → scene.textSize ≤ raw.length

/-- The texts of a scene that was loaded fit into a file, and the validator passed it. -/
theorem loadScene_ok {fromSlice : List UInt8 → Option X11RootlessScene}
    (hreads : ReadsTexts fromSlice) {files : SceneFiles} {path : Option String}
    (h : loadScene fromSlice files path = .ok scene) :
    scene.textSize ≤ maxSceneInputBytes ∧ ValidScene scene := by
  obtain ⟨loaded, hloaded, h⟩ := bind_eq_ok.mp h
  have hvalid : loaded = scene ∧ ValidScene scene := by
    cases hvalidate : loaded.validate with
    | error reason => simp [hvalidate] at h
    | ok u =>
      simp only [hvalidate, Except.ok.injEq] at h
      exact ⟨h, h ▸ X11RootlessScene.validate_valid hvalidate⟩
  obtain ⟨rfl, hvalid⟩ := hvalid
  refine ⟨?_, hvalid⟩
  split at hloaded
  · cases hloaded
    decide +kernel
  · split at hloaded
    · cases hloaded
    · cases hloaded
    · dsimp only at hloaded
      split_ifs at hloaded with hlong
      split at hloaded
      · cases hloaded
      · rename_i hslice
        cases hloaded
        exact (hreads _ _ hslice).trans (not_lt.mp hlong)

theorem surface_size (window : X11Window) :
    size window.toSurfaceSnapshot.toJson ≤
      280 + quotedSize window.id + quotedSize window.appId := by
  have hx := size_number window.x.toInt 10 (by decide)
    (by have := window.x.toInt_lt; have := window.x.le_toInt; omega)
  have hy := size_number window.y.toInt 10 (by decide)
    (by have := window.y.toInt_lt; have := window.y.le_toInt; omega)
  have hz := size_number window.z.toInt 10 (by decide)
    (by have := window.z.toInt_lt; have := window.z.le_toInt; omega)
  have hwidth := size_nat window.width.toNat 10 (by decide)
    (by have := window.width.toNat_lt; omega)
  have hheight := size_nat window.height.toNat 10 (by decide)
    (by have := window.height.toNat_lt; omega)
  have hvisible := size_bool window.mapped
  have hplacement : size window.toSurfaceSnapshot.placement.toJson ≤ 108 := by
    have hnames : overhead ["x", "y", "width", "height", "z", "visible"] ≤ 50 := by decide +kernel
    refine (size_object _).trans ?_
    simp only [X11Window.toSurfaceSnapshot, List.map_cons, List.map_nil, List.sum_cons,
      List.sum_nil]
    omega
  have hnames : overhead ["id", "app_id", "placement", "buffer_handle", "buffer_generation",
      "damage_rects", "pixel_transport", "layer_class", "creation_sequence"] ≤ 150 := by
    decide +kernel
  have hempty : size (option Json.text none) = 4 ∧ size (nat 0) = 1 ∧
      size (list Rect.toJson []) = 2 ∧ size (option PixelTransportHandle.toJson none) = 4 := by
    decide +kernel
  refine (size_object _).trans ?_
  simp only [X11Window.toSurfaceSnapshot, List.map_cons, List.map_nil, List.sum_cons,
    List.sum_nil, size_text, hempty] at hplacement ⊢
  omega

/-- The surfaces take what their texts take and a fixed part for each window. -/
theorem surfaces_size (windows : List X11Window) :
    (((windows.filter X11Window.mapped).map X11Window.toSurfaceSnapshot).map fun surface =>
      size surface.toJson + 1).sum ≤
      281 * windows.length + (windows.map X11Window.textSize).sum := by
  induction windows with
  | nil => simp
  | cons window windows ih =>
    have hsurface := surface_size window
    have htext : X11Window.textSize window =
      quotedSize window.id + quotedSize window.appId + quotedSize window.title := rfl
    rw [List.map_cons, List.sum_cons, List.length_cons]
    by_cases hmapped : window.mapped = true
    · rw [List.filter_cons_of_pos hmapped, List.map_cons, List.map_cons, List.sum_cons]
      omega
    · rw [List.filter_cons_of_neg hmapped]
      omega

theorem optionText_size (text : Option String) :
    size (option Json.text text) ≤ 4 + textSize text := by
  refine (size_option Json.text text).trans (le_of_eq ?_)
  cases text <;> simp [textSize, size_text]

theorem optionSerial_size (serial : Option UInt64) :
    size (option nat (serial.map UInt64.toNat)) ≤ 24 := by
  refine (size_option nat _).trans ?_
  cases serial with
  | none => simp
  | some n =>
    have := size_nat n.toNat 20 (by decide) (by have := n.toNat_lt; omega)
    simp only [Option.map_some, Option.elim_some]
    omega

theorem focus_size (scene : X11RootlessScene) :
    size scene.focusTarget.toJson ≤ 32 + textSize scene.focusWindow := by
  have hnone : size FocusTarget.none.toJson ≤ 32 := by decide +kernel
  unfold X11RootlessScene.focusTarget
  cases scene.focusWindow with
  | none => exact hnone.trans (Nat.le_add_right _ _)
  | some id =>
    dsimp only
    split_ifs
    · have hnames : overhead ["type", "id"] + size (.text "surface") ≤ 32 := by decide +kernel
      refine (size_object _).trans ?_
      simp only [List.map_cons, List.map_nil, List.sum_cons, List.sum_nil, size_text, textSize,
        Option.elim_some] at hnames ⊢
      omega
    · exact hnone.trans (Nat.le_add_right _ _)

theorem selection_size (scene : X11RootlessScene) :
    size scene.selectionState.toJson ≤ 320 + textSize scene.selection.clipboardOwner +
      textSize scene.selection.clipboardPayloadId +
      textSize scene.selection.primarySelectionOwner +
      textSize scene.selection.primarySelectionPayloadId := by
  have hnames : overhead ["clipboard_owner", "clipboard_payload_id", "clipboard_source_serial",
      "clipboard_offer", "primary_selection_owner", "primary_selection_payload_id",
      "primary_selection_source_serial", "primary_offer"] ≤ 240 := by decide +kernel
  have hnone : size (option SelectionOffer.toJson none) = 4 := by decide +kernel
  have howner := optionText_size scene.selection.clipboardOwner
  have hpayload := optionText_size scene.selection.clipboardPayloadId
  have hserial := optionSerial_size scene.selection.clipboardSourceSerial
  have hprimaryOwner := optionText_size scene.selection.primarySelectionOwner
  have hprimaryPayload := optionText_size scene.selection.primarySelectionPayloadId
  have hprimarySerial := optionSerial_size scene.selection.primarySelectionSourceSerial
  refine (size_object _).trans ?_
  simp only [X11RootlessScene.selectionState, List.map_cons, List.map_nil, List.sum_cons,
    List.sum_nil, hnone]
  omega

theorem commitRequest_size (S : Serde κ) (hcount : scene.windows.length ≤ 4096) :
    size (scene.commitRequest.toJson S) ≤ 1200000 + scene.textSize := by
  have hfocus := focus_size scene
  have hselection := selection_size scene
  have hsurfaces : (scene.toSurfaceSnapshots.map fun surface => size surface.toJson + 1).sum ≤
    281 * scene.windows.length + (scene.windows.map X11Window.textSize).sum :=
    surfaces_size scene.windows
  have hlist := size_list SurfaceSnapshot.toJson scene.toSurfaceSnapshots
  have htarget : size scene.commitScene.target.toJson ≤ 40 + quotedSize scene.output.name := by
    have hnames : overhead ["type", "name"] + size (.text "output") ≤ 40 := by decide +kernel
    change size (CommitTarget.output scene.output.name).toJson ≤ _
    refine (size_object _).trans ?_
    simp only [List.map_cons, List.map_nil, List.sum_cons, List.sum_nil, size_text] at hnames ⊢
    omega
  have hcommand : size (DisplayCommand.commitScene scene.commitScene).toJson ≤
      200 + size scene.commitScene.target.toJson + size scene.focusTarget.toJson +
        size scene.selectionState.toJson +
        size (list SurfaceSnapshot.toJson scene.toSurfaceSnapshots) := by
    have hnames : overhead ["op", "target", "focus", "selection", "surfaces", "pixel_payloads",
        "scene_epoch", "scene_generation"] + size (.text "commit-scene") ≤ 150 := by
      decide +kernel
    have hempty : size (list PixelTransportPayload.toJson []) = 2 ∧ size (nat 0) = 1 := by
      decide +kernel
    refine (size_object _).trans ?_
    simp only [X11RootlessScene.commitScene, List.map_cons, List.map_nil, List.sum_cons,
      List.sum_nil, hempty]
    omega
  have hkind : size ((scene.commitRequest (κ := κ)).kind.toJson S) ≤
      50 + size (DisplayCommand.commitScene scene.commitScene).toJson := by
    have hnames : overhead ["kind", "payload"] + size (.text "display-command") ≤ 50 := by
      decide +kernel
    refine (size_object _).trans ?_
    simp only [List.map_cons, List.map_nil, List.sum_cons, List.sum_nil]
    omega
  have hnames : overhead ["source", "destination", "kind"] + size (.text "x11bridge") +
      size (.text "displayd") ≤ 100 := by decide +kernel
  have htext : scene.textSize = quotedSize scene.output.name + textSize scene.focusWindow +
      textSize scene.selection.clipboardOwner + textSize scene.selection.clipboardPayloadId +
      textSize scene.selection.primarySelectionOwner +
      textSize scene.selection.primarySelectionPayloadId +
      (scene.windows.map X11Window.textSize).sum := rfl
  refine (size_object _).trans ?_
  simp only [X11RootlessScene.commitRequest, ServiceRole.toJson, List.map_cons, List.map_nil,
    List.sum_cons, List.sum_nil] at hkind ⊢
  omega

/-- The request of a scene that was loaded fits its frame. -/
theorem commitRequest_sendable (S : Serde κ) (htexts : scene.textSize ≤ maxSceneInputBytes)
    (hcount : scene.windows.length ≤ 4096) : Sendable S scene.commitRequest := by
  have hsize := commitRequest_size S hcount
  have hlimits : maxSceneInputBytes + 1200000 ≤ maxIpcFrameMetadataBytes := by decide
  have hpayloads : envelopePixelPayloads (scene.commitRequest : IpcEnvelope κ) = some [] := rfl
  refine sendable_frame hpayloads ⟨by simp, by simp, by simp [attachmentSizes], ?_⟩
  rw [utf8_toText_length]
  change size (scene.commitRequest.toJson S) ≤ _
  omega

/-- A message that fits is refused by nothing but its sink. -/
theorem sendable_sent {S : Serde κ} {message : IpcEnvelope κ} (h : Sendable S message)
    (sink : Sink UInt8) :
    (∀ (reason : String) (after : Sink UInt8),
      sendIpcEnvelope S message sink ≠ .error (.rejected reason) after) ∧
    (sink.failures = [] → ∃ after, sendIpcEnvelope S message sink = .ok () after) := by
  have hwrites := sendIpcEnvelope_writes h
  constructor
  · intro reason after hrejected
    have hrun := hwrites.run sink
    rw [hrejected] at hrun
    obtain ⟨⟨context, hcontext⟩, -⟩ := hrun
    cases hcontext
  · intro hsink
    obtain ⟨after, hafter, -⟩ := hwrites.accepted sink hsink
    exact ⟨after, hafter⟩

/-! What the two validators see of it. -/

section Valid

variable {scene : X11RootlessScene} (h : ValidScene scene)

include h

omit h in
theorem focused {id : String} (hfocus : scene.focusTarget = .surface id) :
    ∃ s ∈ scene.toSurfaceSnapshots, s.id = id := by
  unfold X11RootlessScene.focusTarget at hfocus
  split at hfocus
  · split_ifs at hfocus with hany
    cases hfocus
    obtain ⟨window, hwindow, hid⟩ := List.any_eq_true.mp hany
    exact ⟨_, List.mem_map_of_mem hwindow, of_decide_eq_true hid⟩
  · cases hfocus

theorem ValidScene.owned {id : String}
    (hid : id ∈ Displayd.selectionOwners scene.selectionState) :
    ∃ s ∈ scene.toSurfaceSnapshots, s.id = id := by
  have hclaimed : ∃ claimed ∈ scene.selectionClaims, claimed.owner = some id := by
    rw [Displayd.selectionOwners, List.mem_append, Option.mem_toList, Option.mem_toList] at hid
    rcases hid with hid | hid
    · exact ⟨_, List.mem_cons_self, hid⟩
    · exact ⟨_, List.mem_cons_of_mem _ List.mem_cons_self, hid⟩
  obtain ⟨claimed, hmem, howner⟩ := hclaimed
  obtain ⟨window, hwindow, hmapped, rfl⟩ := h.owners claimed hmem id howner
  exact ⟨_, List.mem_map_of_mem (X11RootlessScene.mem_mappedWindows.mpr ⟨hwindow, hmapped⟩), rfl⟩

theorem ValidScene.surfaces_length : scene.toSurfaceSnapshots.length ≤ 4096 := by
  rw [X11RootlessScene.toSurfaceSnapshots, List.length_map]
  exact (List.length_filter_le _ _).trans h.count

theorem ValidScene.surfaces_nodup : (scene.toSurfaceSnapshots.map (·.id)).Nodup := by
  rw [X11RootlessScene.toSurfaceSnapshots, List.map_map]
  exact h.nodup.sublist (List.filter_sublist.map _)

/-- Every surface is a window that the validator placed. -/
theorem ValidScene.surface {s : SurfaceSnapshot} (hs : s ∈ scene.toSurfaceSnapshots) :
    ∃ window, window.id ≠ "" ∧ PlacedWindow window ∧ s = window.toSurfaceSnapshot := by
  obtain ⟨window, hwindow, rfl⟩ := List.mem_map.mp hs
  obtain ⟨hmem, hmapped⟩ := X11RootlessScene.mem_mappedWindows.mp hwindow
  exact ⟨window, h.named window hmem, h.placed window hmem hmapped, rfl⟩

theorem ValidScene.admissible : Displayd.AdmissibleScene scene.commitScene where
  version := Iff.rfl
  target := h.output
  surfaceCount := h.surfaces_length
  payloadCount := Nat.zero_le _
  surfaces s hs := by
    obtain ⟨window, hid, hplaced, rfl⟩ := h.surface hs
    refine ⟨hid, fun _ => ⟨hplaced.width, hplaced.height⟩, ?_, ?_, nofun, nofun, nofun⟩
    · exact Option.isSome_iff_exists.mpr ⟨_, i32Checked_eq_some.mpr ⟨hplaced.right, rfl⟩⟩
    · exact Option.isSome_iff_exists.mpr ⟨_, i32Checked_eq_some.mpr ⟨hplaced.bottom, rfl⟩⟩
  nodup := h.surfaces_nodup
  damage := by
    have hzero : Displayd.damageCount scene.commitScene.surfaces = 0 := by
      refine List.sum_eq_zero fun n hn => ?_
      obtain ⟨s, hs, rfl⟩ := List.mem_map.mp hn
      obtain ⟨window, -, -, rfl⟩ := h.surface hs
      rfl
    omega
  focus id hid := focused hid
  owners id hid := h.owned hid
  payloadNodup := List.nodup_nil
  payloadHandles := nofun
  payloads := nofun
  bytes := Nat.zero_le _

theorem ValidScene.relayed :
    Compd.ValidRelayScene (Compd.RelayScene.ofCommit scene.commitScene).scene where
  target := h.output
  version := Iff.rfl
  count := h.surfaces_length
  surfaces s hs := by
    obtain ⟨window, hid, hplaced, rfl⟩ := h.surface hs
    exact ⟨hid, fun _ => ⟨hplaced.width, hplaced.height⟩, hplaced.right.2, hplaced.bottom.2,
      nofun, nofun, nofun⟩
  nodup := h.surfaces_nodup
  focus id hid := focused hid
  owners id hid := h.owned hid

end Valid

/-- The surface is the mapped window, in its place. -/
def Shows (surface : SurfaceSnapshot) (window : X11Window) : Prop :=
  surface.id = window.id ∧ surface.appId = window.appId ∧
    surface.placement = ⟨window.x.toInt, window.y.toInt, window.width.toNat,
      window.height.toNat, window.z.toInt, true⟩

theorem toSurfaceSnapshots_shows (scene : X11RootlessScene) :
    List.Forall₂ Shows scene.toSurfaceSnapshots (scene.windows.filter (·.mapped)) := by
  change List.Forall₂ Shows (scene.mappedWindows.map _) scene.mappedWindows
  rw [List.forall₂_map_left_iff, List.forall₂_same]
  intro window hwindow
  have hmapped := (X11RootlessScene.mem_mappedWindows.mp hwindow).2
  exact ⟨rfl, rfl, by rw [X11Window.toSurfaceSnapshot, hmapped]⟩

/-- A scene that was loaded is sent whole and admitted by displayd and by compd; its surfaces
are its mapped windows, and its focus and its owners are among them. -/
theorem loaded_scene_commits {κ : Type} (S : Serde κ)
    (fromSlice : List UInt8 → Option X11RootlessScene) (hreads : ReadsTexts fromSlice)
    (files : SceneFiles) (path : Option String) (scene : X11RootlessScene)
    (hload : loadScene fromSlice files path = .ok scene) :
    (∀ sink : Sink UInt8,
      (∀ (reason : String) (after : Sink UInt8),
        sendIpcEnvelope S scene.commitRequest sink ≠ .error (.rejected reason) after) ∧
      (sink.failures = [] → ∃ after, sendIpcEnvelope S scene.commitRequest sink = .ok () after)) ∧
    (∃ usage, Displayd.validateSceneAdmission scene.commitScene = .ok usage) ∧
    (∀ require, ∃ usage, Compd.validateRelayScene (.ofCommit scene.commitScene) require =
      .ok usage) ∧
    (∀ id, scene.commitScene.focus = .surface id →
      ∃ s ∈ scene.commitScene.surfaces, s.id = id) ∧
    (∀ id ∈ Displayd.selectionOwners scene.commitScene.selection,
      ∃ s ∈ scene.commitScene.surfaces, s.id = id) ∧
    List.Forall₂ Shows scene.commitScene.surfaces (scene.windows.filter (·.mapped)) := by
  obtain ⟨htexts, hvalid⟩ := loadScene_ok hreads hload
  refine ⟨sendable_sent (commitRequest_sendable S htexts hvalid.count),
    Displayd.validateSceneAdmission_ok.mpr hvalid.admissible, ?_, fun id hid => focused hid,
    fun id hid => hvalid.owned hid, toSurfaceSnapshots_shows scene⟩
  refine Compd.validateRelayScene_handleless hvalid.relayed fun s hs => ?_
  obtain ⟨window, -, -, rfl⟩ := hvalid.surface hs
  rfl

section sample

def sampleSceneText : List UInt8 :=
  utf8 ("\x7b\"output\":\x7b\"name\":\"o\",\"width\":9,\"height\":9\x7d," ++
    "\"focus_window\":\"\\n\",\"windows\":[\x7b\"id\":\"\\n\",\"app_id\":\"\"," ++
    "\"title\":\"\",\"kind\":\"menu\",\"x\":-1,\"y\":0,\"width\":2,\"height\":3," ++
    "\"z\":0,\"mapped\":true,\"override_redirect\":true\x7d]\x7d")

def sampleScene : X11RootlessScene where
  output := ⟨"o", 9, 9⟩
  focusWindow := some "\n"
  windows := [⟨"\n", "", "", .menu, -1, 0, 2, 3, 0, true, true⟩]

/-- Reads the sample text and no other. -/
def readSample (raw : List UInt8) : Option X11RootlessScene :=
  if raw = sampleSceneText then some sampleScene else none

theorem readSample_readsTexts : ReadsTexts readSample := by
  intro raw scene hscene
  unfold readSample at hscene
  split_ifs at hscene with hraw
  cases hscene
  rw [hraw]
  decide +kernel

theorem loaded_scene_commits_sample :
    (∃ usage, Displayd.validateSceneAdmission sampleScene.commitScene = .ok usage) ∧
      ∃ after, sendIpcEnvelope sampleSerde sampleScene.commitRequest {} = .ok () after := by
  have hloaded := loaded_scene_commits sampleSerde readSample readSample_readsTexts
    (fun _ => some (.ok sampleSceneText)) (some "scene.json") sampleScene (by decide +kernel)
  exact ⟨hloaded.2.1, (hloaded.1 {}).2 rfl⟩

end sample

end TuffXwin.LayerX11
