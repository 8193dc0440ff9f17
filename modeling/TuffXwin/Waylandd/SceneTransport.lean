import TuffXwin.Common.Delivery
import TuffXwin.Waylandd.Scene

/-! Scene admission against the transport. What the scene budget lets through fits a
binary frame up to two points that admission leaves open: a payload without an extent,
and the size of the scene's JSON. -/

namespace TuffXwin.Waylandd
open Lib

variable {payloads : List PixelTransportPayload}
variable {p : PixelTransportPayload}

structure BudgetedPayload (p : PixelTransportPayload) : Prop where
  bytes_le : p.pixels.length ≤ maxSinglePixelPayloadBytes
  length : p.stride * p.height = p.pixels.length
  stride : 0 < p.width → min (p.width * 4) u32Max ≤ p.stride

theorem budgetPayload_ok {surfaceHandles payloadHandles payloadHandles' :
    OrdSet PixelTransportHandle}
    (h : budgetPayload surfaceHandles payloadHandles p = .ok payloadHandles') :
    BudgetedPayload p := by
  unfold budgetPayload at h
  split_ifs at h with h1 h2 h3 h4 h5 h6
  exact ⟨by omega, by omega, fun hwidth => by omega⟩

/-- An admitted payload is an attachment as soon as it has an extent. -/
theorem BudgetedPayload.attachable_iff (h : BudgetedPayload p) :
    p.Attachable ↔ 0 < p.width ∧ 0 < p.height := by
  constructor
  · intro hattachable
    exact ⟨hattachable.wellFormed.width_pos, hattachable.wellFormed.height_pos⟩
  · rintro ⟨hwidth, hheight⟩
    have hbytes := h.bytes_le
    have hlength := h.length
    have hstride := h.stride hwidth
    have hrow : p.stride ≤ p.stride * p.height := Nat.le_mul_of_pos_right _ hheight
    have hlimits : maxSinglePixelPayloadBytes < u32Max ∧ maxSinglePixelPayloadBytes ≤ u64Max ∧
        maxSinglePixelPayloadBytes = maxIpcBinaryAttachmentBytes := by decide
    exact ⟨⟨hwidth, hheight, by omega, by omega, by omega, hlength.symm⟩, by omega⟩

theorem pixelBytes_sum {total limit : Nat} (hlimit : limit < u64Max)
    (h : payloads.foldl (fun total p => satAdd total p.pixels.length) total ≤ limit) :
    total + (attachmentSizes payloads).sum ≤ limit := by
  induction payloads generalizing total with
  | nil => simpa [attachmentSizes] using h
  | cons p payloads ih =>
    have hrest := ih h
    simp only [attachmentSizes, List.map_cons, List.sum_cons] at hrest ⊢
    simp only [satAdd] at hrest
    omega

structure BudgetedScene (payloads : List PixelTransportPayload) : Prop where
  count : payloads.length ≤ maxIpcBinaryAttachments
  budgeted : ∀ p ∈ payloads, BudgetedPayload p
  total : (attachmentSizes payloads).sum ≤ maxIpcBinaryTotalBytes

theorem validateSceneBudget_ok {surfaces : List SurfaceSnapshot} {usage : SceneResourceUsage}
    (h : validateSceneBudget surfaces payloads = .ok usage) : BudgetedScene payloads := by
  obtain ⟨hcount, hbytes, seen, handles, -, hpayloads, -⟩ := validateSceneBudget_parts h
  have hlimits : maxScenePixelPayloads = maxIpcBinaryAttachments ∧
      maxScenePixelBytes = maxIpcBinaryTotalBytes ∧ maxScenePixelBytes < u64Max := by decide
  refine ⟨by omega, ?_, ?_⟩
  · intro p hp
    obtain ⟨before, after, hstep⟩ := foldlM_ok_mem hpayloads p hp
    exact budgetPayload_ok hstep
  · have hsum := pixelBytes_sum hlimits.2.2 hbytes
    omega

/-- The frame of an admitted scene fits exactly when every payload has an extent and the
JSON of the scene is within its bound. -/
theorem BudgetedScene.fits_iff {κ : Type} {S : Serde κ} {metadata : IpcEnvelope κ}
    (h : BudgetedScene payloads) :
    FrameFits S metadata payloads ↔ (∀ p ∈ payloads, 0 < p.width ∧ 0 < p.height) ∧
      (utf8 (S.toText metadata)).length ≤ maxIpcFrameMetadataBytes := by
  constructor
  · intro hfits
    exact ⟨fun p hp => (h.budgeted p hp).attachable_iff.mp (hfits.attachable p hp),
      hfits.metadata⟩
  · rintro ⟨hextents, hmetadata⟩
    exact ⟨h.count, fun p hp => (h.budgeted p hp).attachable_iff.mpr (hextents p hp), h.total,
      hmetadata⟩

/-- A scene with the pixels taken out, as its frame carries it. -/
def sceneMetadata {κ : Type} (source destination : ServiceRole) (scene : SceneCommit) :
    IpcEnvelope κ :=
  ⟨source, destination, .displayCommand (displayCommandWithoutPixelBytes (.commitScene scene))⟩

theorem admitted_scene_sent {κ : Type} (S : Serde κ) (source destination : ServiceRole)
    (scene : SceneCommit) (usage : SceneResourceUsage)
    (hadmitted : validateSceneBudget scene.surfaces scene.pixelPayloads = .ok usage)
    (sink : Sink UInt8) :
    (∀ (reason : String) (after : Sink UInt8),
      sendIpcDisplayCommand S source destination (.commitScene scene) sink ≠
        .error (.rejected reason) after) ↔
    (∀ p ∈ scene.pixelPayloads, 0 < p.width ∧ 0 < p.height) ∧
      (utf8 (S.toText (sceneMetadata source destination scene))).length ≤
        maxIpcFrameMetadataBytes := by
  rw [← (validateSceneBudget_ok hadmitted).fits_iff]
  constructor
  · intro hsent
    by_contra hunfit
    obtain ⟨reason, hthrow⟩ := writeFramedSceneEnvelope_rejects hunfit
    exact hsent reason sink (congrFun hthrow sink)
  · intro hframe reason after hrejected
    have hwrites := (writeFramedSceneEnvelope_writes hframe).run sink
    change writeFramedSceneEnvelope S (sceneMetadata source destination scene)
      scene.pixelPayloads sink = _ at hrejected
    rw [hrejected] at hwrites
    obtain ⟨⟨context, hcontext⟩, -⟩ := hwrites
    cases hcontext

def sampleCommit (width : Nat) : SceneCommit where
  target := .output "headless-1"
  focus := .none
  selection := {}
  surfaces :=
    [{ id := "surface-1"
       placement := ⟨0, 0, 1, 1, 0, true⟩
       pixelTransport := some ⟨1, "surface-1", 1, 1⟩ }]
  pixelPayloads := [samplePayload width]
  sceneEpoch := 1
  sceneGeneration := 1

theorem sampleCommit_admitted (width : Nat) (h : width ≤ 1) :
    validateSceneBudget (sampleCommit width).surfaces (sampleCommit width).pixelPayloads =
      .ok ⟨1, 1, 4⟩ := by
  interval_cases width <;> decide +kernel

theorem admitted_scene_sent_sample :
    ¬∃ (reason : String) (after : Sink UInt8),
      sendIpcDisplayCommand sampleSerde .waylandd .displayd (.commitScene (sampleCommit 1)) {} =
        .error (.rejected reason) after := by
  rintro ⟨reason, after, hrejected⟩
  refine (admitted_scene_sent sampleSerde .waylandd .displayd (sampleCommit 1) _
    (sampleCommit_admitted 1 (by decide)) {}).mpr ⟨by decide, ?_⟩ reason after hrejected
  rw [utf8_toText_length]
  decide +kernel

/-- A payload without columns is admitted, and then refused by the transport. -/
theorem admitted_scene_refused :
    validateSceneBudget (sampleCommit 0).surfaces (sampleCommit 0).pixelPayloads =
        .ok ⟨1, 1, 4⟩ ∧
      sendIpcDisplayCommand sampleSerde .waylandd .displayd (.commitScene (sampleCommit 0)) {} =
        .error (.rejected "framed PixelTransport payload dimensions must be non-zero") {} :=
  ⟨sampleCommit_admitted 0 (by decide), rfl⟩

end TuffXwin.Waylandd
