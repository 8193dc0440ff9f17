import TuffXwin.Displayd.Headless
import TuffXwin.Displayd.Drawing

/-! From a composed frame to a captured picture. Displayd sizes and addresses a
frame by the stride of its output; the shared-memory backend and the artifact
encoder count its pixels by width times height. The two agree on outputs whose
rows carry no padding, and the frames of no other output can be published. -/

namespace TuffXwin.Displayd
open Lib

variable {pixels : List UInt32}

def u32ToRgba8888 (pixel : UInt32) : List UInt8 :=
  [(pixel &&& 0xFF).toUInt8, ((pixel >>> 8) &&& 0xFF).toUInt8,
    ((pixel >>> 16) &&& 0xFF).toUInt8, ((pixel >>> 24) &&& 0xFF).toUInt8]

def validateCapturePixelCount (width height pixelLen : Nat) : Except String Unit :=
  match u32Checked (width * height) with
  | none => .error "capture dimensions overflow"
  | some expectedPixels =>
    if pixelLen ≠ expectedPixels then
      .error ("capture buffer size mismatch: got " ++ toString pixelLen ++ " pixels, expected " ++
        toString expectedPixels ++ " for " ++ toString width ++ "x" ++ toString height)
    else .ok ()

def encodeRgba8888ArtifactBytes (width height : Nat) (pixels : List UInt32) :
    Except String (List UInt8) :=
  validateCapturePixelCount width height pixels.length >>= fun _ =>
  match usizeChecked (pixels.length * 4) with
  | none => .error "capture artifact byte size overflow"
  | some _ => .ok (pixels.flatMap u32ToRgba8888)

structure HeadlessArtifact where
  output : String
  width : Nat
  height : Nat
  sceneGeneration : Nat
  frameId : Nat
  bytes : List UInt8
  deriving DecidableEq

/-- The artifact a capture writes. -/
def handleHeadlessCaptureOutput (b : HeadlessShmDisplayBackend) (output : String) :
    Except String HeadlessArtifact :=
  match b.capturePublished output with
  | none => .error ("headless-shm has no Presented frame for output " ++ output)
  | some frame =>
    encodeRgba8888ArtifactBytes frame.geometry.width frame.geometry.height frame.pixels >>=
      fun bytes =>
    .ok ⟨output, frame.geometry.width, frame.geometry.height, frame.sceneGeneration,
      frame.frameId, bytes⟩

theorem encodeRgba8888ArtifactBytes_ok {width height : Nat} (hlen : pixels.length = width * height)
    (hcount : width * height ≤ u32Max) :
    encodeRgba8888ArtifactBytes width height pixels = .ok (pixels.flatMap u32ToRgba8888) := by
  have hu32 : u32Max = 4294967295 := rfl
  have hu64 : u64Max = 18446744073709551615 := rfl
  have hchecked : u32Checked (width * height) = some (width * height) :=
    u32Checked_eq_some.mpr ⟨hcount, rfl⟩
  have hbytes : usizeChecked (pixels.length * 4) = some (pixels.length * 4) :=
    usizeChecked_eq_some.mpr ⟨by omega, rfl⟩
  have hvalid : validateCapturePixelCount width height pixels.length = .ok () := by
    simp only [validateCapturePixelCount, hchecked, hlen, ne_eq, not_true, if_false]
  unfold encodeRgba8888ArtifactBytes
  rw [hvalid]
  change (match usizeChecked (pixels.length * 4) with
    | none => Except.error "capture artifact byte size overflow"
    | some _ => Except.ok (pixels.flatMap u32ToRgba8888)) = _
  rw [hbytes]

/-- The pixels of a frame that are on its output, row by row. -/
def visiblePixels (frame : FramePublication) : List UInt32 :=
  (List.range frame.geometry.height).flatMap fun row =>
    (frame.pixels.drop (row * (frame.stride / 4))).take frame.geometry.width

/-- Rows without padding make up the whole frame. -/
theorem rows_concat {α : Type} {pitch rows : Nat} {l : List α} (h : l.length = rows * pitch) :
    ((List.range rows).flatMap fun row => (l.drop (row * pitch)).take pitch) = l := by
  induction rows generalizing l with
  | zero =>
    rw [Nat.zero_mul] at h
    rw [List.eq_nil_of_length_eq_zero h]
    rfl
  | succ rows ih =>
    have hrest : (l.drop pitch).length = rows * pitch := by
      rw [List.length_drop, h, Nat.succ_mul]
      omega
    have htail := ih hrest
    rw [List.range_succ_eq_map, List.flatMap_cons, Nat.zero_mul, List.drop_zero,
      List.flatMap_map]
    simp only [List.drop_drop] at htail
    have hstep : ∀ row, (row + 1) * pitch = pitch + row * pitch := fun row => by
      rw [Nat.succ_mul, Nat.add_comm]
    simp only [Nat.succ_eq_add_one, hstep, htail]
    exact List.take_append_drop pitch l

/-- The backend takes the frame, and a capture of it is its visible picture. -/
structure Publishable (frame : FramePublication) : Prop where
  accepted : ∃ lengths, HeadlessShmDisplayBackend.validateFrame frame = .ok lengths
  captured : ∀ b : HeadlessShmDisplayBackend,
    b.capturePublished frame.outputId = some frame →
    handleHeadlessCaptureOutput b frame.outputId =
      .ok ⟨frame.outputId, frame.geometry.width, frame.geometry.height, frame.sceneGeneration,
        frame.frameId, (visiblePixels frame).flatMap u32ToRgba8888⟩

theorem validateFrame_length {frame : FramePublication} {lengths : Nat × Nat}
    (h : HeadlessShmDisplayBackend.validateFrame frame = .ok lengths) :
    frame.pixels.length = frame.geometry.width * frame.geometry.height := by
  unfold HeadlessShmDisplayBackend.validateFrame at h
  split_ifs at h
  split at h
  · cases h
  · split_ifs at h
    split at h
    · cases h
    · split_ifs at h
      split at h
      · cases h
      · rename_i expectedPixels hexpected
        split_ifs at h with hlen
        rw [not_not.mp hlen]
        exact (usizeChecked_eq_some.mp hexpected).2.symm

/-- A frame of a validated output, at its size. -/
structure FrameOf (o : OutputState) (frame : FramePublication) : Prop where
  outputId : frame.outputId = o.outputId
  outputGeneration : frame.outputGeneration = o.outputGeneration
  geometry : frame.geometry = o.toOutputGeometry
  stride : frame.stride = o.stride
  format : frame.format = o.format
  length : frame.pixels.length = o.framebufferWords

namespace FrameOf

variable {o : OutputState} {frame : FramePublication} (h : FrameOf o frame)

include h

theorem validateFrame_ok (hstride : o.stride = 4 * o.width) :
    HeadlessShmDisplayBackend.validateFrame frame =
      .ok (o.stride * o.height, o.width * 4) := by
  have hu32 : u32Max = 4294967295 := rfl
  have hu64 : u64Max = 18446744073709551615 := rfl
  have hdimension : maxOutputDimension = 32768 := rfl
  have hbudget : maxOutputFramebufferBytes = 536870912 := rfl
  obtain ⟨_, hwidth, hheight, hwide, _, hformat, _, _, hbytes⟩ := o.valid
  have hpixels : o.width * o.height ≤ o.stride * o.height :=
    Nat.mul_le_mul_right _ (by omega)
  have hrow : u32Checked (o.width * 4) = some (o.width * 4) :=
    u32Checked_eq_some.mpr ⟨by omega, rfl⟩
  have hpayload : usizeChecked (o.stride * o.height) = some (o.stride * o.height) :=
    usizeChecked_eq_some.mpr ⟨by omega, rfl⟩
  have hcount : usizeChecked (o.width * o.height) = some (o.width * o.height) :=
    usizeChecked_eq_some.mpr ⟨by omega, rfl⟩
  have hlen : frame.pixels.length = o.width * o.height := by
    rw [h.length, OutputState.framebufferWords, hstride, Nat.mul_div_cancel_left _ (by omega)]
  unfold HeadlessShmDisplayBackend.validateFrame
  rw [h.outputId, h.outputGeneration, h.geometry, h.stride, h.format, hlen]
  have hconsistent : ¬ (o.outputId ≠ o.outputId ∨ o.outputGeneration ≠ o.outputGeneration ∨
      o.stride ≠ o.stride ∨ o.format ≠ o.format) := by simp
  have hsize : ¬ (o.width = 0 ∨ o.height = 0) := by omega
  have hknown : ¬ (o.format ≠ wlShmFormatArgb8888 ∧ o.format ≠ wlShmFormatXrgb8888) := by
    simp [hformat]
  have hcover : ¬ o.stride < o.width * 4 := by omega
  have hbudgeted : ¬ o.stride * o.height > maxOutputFramebufferBytes := by omega
  rw [if_neg hconsistent, if_neg hsize, if_neg hknown]
  simp only [hrow, hpayload, hcount, if_neg hcover, if_neg hbudgeted, ne_eq, not_true, if_false]

theorem visiblePixels_eq (hstride : o.stride = 4 * o.width) :
    visiblePixels frame = frame.pixels := by
  have hpitch : o.stride / 4 = o.width := by omega
  have hlen : frame.pixels.length = o.height * o.width := by
    rw [h.length, OutputState.framebufferWords, hpitch, Nat.mul_comm]
  unfold visiblePixels
  rw [h.geometry, h.stride, hpitch]
  exact rows_concat hlen

theorem publishable (hstride : o.stride = 4 * o.width) : Publishable frame := by
  have hu32 : u32Max = 4294967295 := rfl
  have hbudget : maxOutputFramebufferBytes = 536870912 := rfl
  have hbytes := o.valid.bytes
  refine ⟨⟨_, h.validateFrame_ok hstride⟩, fun b hb => ?_⟩
  have hlen := validateFrame_length (h.validateFrame_ok hstride)
  have hcount : o.width * o.height ≤ o.stride * o.height :=
    Nat.mul_le_mul_right _ (by omega)
  have hsmall : frame.geometry.width * frame.geometry.height ≤ u32Max := by
    rw [h.geometry]
    omega
  unfold handleHeadlessCaptureOutput
  simp only [hb, encodeRgba8888ArtifactBytes_ok hlen hsmall, h.visiblePixels_eq hstride]
  rfl

/-- The backend accepts the frame exactly when its rows carry no padding. -/
theorem publishable_iff : Publishable frame ↔ o.stride = 4 * o.width := by
  constructor
  · intro hp
    obtain ⟨lengths, haccepted⟩ := hp.accepted
    have hcounted := validateFrame_length haccepted
    rw [h.length, OutputState.framebufferWords, h.geometry] at hcounted
    have hpitch : o.stride / 4 = o.width := Nat.eq_of_mul_eq_mul_right o.valid.height_pos hcounted
    have haligned := o.valid.aligned
    omega
  · exact h.publishable

end FrameOf

namespace Server

variable {β : Type} [DisplayBackend β]

/-- Every frame displayd composes is as long as the frame buffer of its output. -/
theorem composedFrame_of {srv : Server β} (h : (system β).Reachable srv) {id : String}
    {r : OutputRuntime} (hr : srv.display.state.outputs.get? id = some r)
    {scene : CommittedSceneState}
    (hvalidated : validateSurfacePixelsForDamage srv.display.state.pixelTransport
      (canonicalizeSurfaces scene.surfaces) (publicationDamage r) = .ok ())
    (hcomposed : composeDamageRects (scratchFramebuffer r) r.state
      srv.display.state.pixelTransport (canonicalizeSurfaces scene.surfaces)
      (publicationDamage r) = .ok pixels) : FrameOf r.state (composedFrame r id scene pixels) := by
  have hdamage := (damageOnOutput_invariant.reachable h id r hr).pending
  have hstored := storedPayloads_reachable h
  have hcovered := (validateSurfacePixelsForDamage_ok hstored).mp hvalidated
  refine ⟨(registeredId_invariant.reachable h id r hr).symm, rfl, rfl, rfl, rfl, ?_⟩
  exact (composeDamageRects_acts (onOutput_normalize hdamage) fun d hd =>
    (hcovered d hd).canonical.readable hstored).length _ _ (scratchFramebuffer_length r) hcomposed

/-- In every state of every run, a frame composed for an output can be published and
captured exactly when the rows of the output carry no padding. -/
theorem publication_law {srv : Server β} (h : (system β).Reachable srv) {id : String}
    {r : OutputRuntime} (hr : srv.display.state.outputs.get? id = some r)
    {scene : CommittedSceneState} {pixels : List UInt32}
    (hvalidated : validateSurfacePixelsForDamage srv.display.state.pixelTransport
      (canonicalizeSurfaces scene.surfaces) (publicationDamage r) = .ok ())
    (hcomposed : composeDamageRects (scratchFramebuffer r) r.state
      srv.display.state.pixelTransport (canonicalizeSurfaces scene.surfaces)
      (publicationDamage r) = .ok pixels) :
    Publishable (composedFrame r id scene pixels) ↔ r.state.stride = 4 * r.state.width :=
  (composedFrame_of h hr hvalidated hcomposed).publishable_iff

/-- A scene committed to an output of one pixel, with rows of `stride` bytes. -/
def configuredServer (stride : Nat) : Server HeadlessShmDisplayBackend :=
  serve {} [.command (.configureOutput { pixelGeometry with stride := stride }),
    .command (.commitScene (drawnScene 1 1))]

theorem publication_law_unpadded :
    ∃ (r : OutputRuntime) (scene : CommittedSceneState) (pixels : List UInt32),
      (configuredServer 4).display.state.outputs.get? "eDP-1" = some r ∧
      (configuredServer 4).display.state.lastScene = some scene ∧
      Publishable (composedFrame r "eDP-1" scene pixels) := by
  have hreach : (system HeadlessShmDisplayBackend).Reachable (configuredServer 4) :=
    serve_reachable _ _
  have hout : ∃ (r : OutputRuntime) (scene : CommittedSceneState) (pixels : List UInt32),
      (configuredServer 4).display.state.outputs.get? "eDP-1" = some r ∧
      (configuredServer 4).display.state.lastScene = some scene ∧
      r.state.stride = 4 * r.state.width ∧
      validateSurfacePixelsForDamage (configuredServer 4).display.state.pixelTransport
        (canonicalizeSurfaces scene.surfaces) (publicationDamage r) = .ok () ∧
      composeDamageRects (scratchFramebuffer r) r.state
        (configuredServer 4).display.state.pixelTransport (canonicalizeSurfaces scene.surfaces)
        (publicationDamage r) = .ok pixels :=
    ⟨_, _, _, rfl, rfl, rfl, rfl, rfl⟩
  obtain ⟨r, scene, pixels, hr, hscene, hstride, hvalidated, hcomposed⟩ := hout
  exact ⟨r, scene, pixels, hr, hscene,
    (publication_law hreach hr hvalidated hcomposed).mpr hstride⟩

/-- The backend turns down every frame of an accepted output with padded rows. -/
theorem padded_frame_refused :
    (system HeadlessShmDisplayBackend).Reachable (configuredServer 8) ∧
      ∃ (r : OutputRuntime) (scene : CommittedSceneState) (pixels : List UInt32),
        (configuredServer 8).display.state.outputs.get? "eDP-1" = some r ∧
        (configuredServer 8).display.state.lastScene = some scene ∧
        validateSurfacePixelsForDamage (configuredServer 8).display.state.pixelTransport
          (canonicalizeSurfaces scene.surfaces) (publicationDamage r) = .ok () ∧
        composeDamageRects (scratchFramebuffer r) r.state
          (configuredServer 8).display.state.pixelTransport
          (canonicalizeSurfaces scene.surfaces) (publicationDamage r) = .ok pixels ∧
        ¬ Publishable (composedFrame r "eDP-1" scene pixels) := by
  refine ⟨serve_reachable _ _, _, _, _, rfl, rfl, rfl, rfl, ?_⟩
  intro hp
  obtain ⟨lengths, haccepted⟩ := hp.accepted
  cases haccepted

end Server

end TuffXwin.Displayd
