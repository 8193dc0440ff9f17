import TuffXwin.Displayd.CaptureArtifacts
import TuffXwin.Lib.ByteLanes

/-! The exchange of red and blue in pixels, in the three crates that have it: as a loop over
words or bytes, as a byte shuffle of eight pixels and as masks and shifts. All of them exchange
the bytes 0 and 2 of each pixel. -/

namespace TuffXwin
open Lib

inductive SimdFlavor
  | portable
  | sse42
  | avx2
  | avx512f
  | neon
  deriving DecidableEq, Repr

structure AccelPolicy where
  simdEnabled : Bool
  avx2Available : Bool
  avx512fAvailable : Bool
  sse42Available : Bool
  neonAvailable : Bool

def AccelPolicy.selectedSimdFlavor (policy : AccelPolicy) : SimdFlavor :=
  if !policy.simdEnabled then .portable
  else if policy.avx512fAvailable then .avx512f
  else if policy.avx2Available then .avx2
  else if policy.sse42Available then .sse42
  else if policy.neonAvailable then .neon
  else .portable

/-- `chunks_mut(8)` with a shuffle of each full chunk; a shorter one is the last. -/
def shuffleChunks (portable : List UInt32 → List UInt32) (pixels : List UInt32) : List UInt32 :=
  inGroups (fun chunk => storeRegister (shuffleBytes (loadRegister chunk) swapMask)) portable
    pixels

theorem shuffleChunks_eq {portable : List UInt32 → List UInt32}
    (h : ∀ pixels, portable pixels = pixels.map swapWord) (pixels : List UInt32) :
    shuffleChunks portable pixels = pixels.map swapWord :=
  inGroups_eq_map (fun _ => shuffle_swapMask) h pixels

theorem refinePixel_eq (pixel : UInt32) : Displayd.refinePixel pixel = swapWord pixel := by
  unfold Displayd.refinePixel swapWord ofLeBytes
  apply UInt32.toBitVec_inj.mp
  apply BitVec.eq_of_getLsbD_eq
  intro i hi
  interval_cases i <;> simp [-UInt32.toUInt32_toUInt8]

theorem map_refinePixel (pixels : List UInt32) :
    pixels.map Displayd.refinePixel = pixels.map swapWord :=
  List.map_congr_left fun pixel _ => refinePixel_eq pixel

namespace WaylandWire

inductive PixelOpPath
  | portable
  | sse42
  | avx2
  | avx512f
  | neon
  deriving DecidableEq, Repr

def selectedPixelPath (policy : AccelPolicy) : PixelOpPath :=
  match policy.selectedSimdFlavor with
  | .portable => .portable
  | .sse42 => .sse42
  | .avx2 => .avx2
  | .avx512f => .avx512f
  | .neon => .neon

def normalizeBgraToRgbaInPlacePortable (pixels : List UInt32) : List UInt32 :=
  pixels.map fun pixel : UInt32 =>
    let b := (pixel >>> 16) &&& 0xff
    let r := pixel &&& 0xff
    (pixel &&& 0xff00ff00) ||| r <<< (16 : UInt32) ||| b

def normalizeBgraToRgbaInPlaceAvx2Impl (pixels : List UInt32) : List UInt32 :=
  shuffleChunks normalizeBgraToRgbaInPlacePortable pixels

/-- Other processors than x86-64 do not detect it. -/
def normalizeBgraToRgbaInPlaceAvx2 (avx2Detected : Bool) (pixels : List UInt32) : List UInt32 :=
  if avx2Detected then normalizeBgraToRgbaInPlaceAvx2Impl pixels
  else normalizeBgraToRgbaInPlacePortable pixels

def normalizeBgraToRgbaInPlaceWithPath (avx2Detected : Bool) (pixels : List UInt32) :
    PixelOpPath → List UInt32
  | .avx2 => normalizeBgraToRgbaInPlaceAvx2 avx2Detected pixels
  | .avx512f | .sse42 | .neon | .portable => normalizeBgraToRgbaInPlacePortable pixels

def normalizeBgraToRgbaInPlace (policy : AccelPolicy) (avx2Detected : Bool)
    (pixels : List UInt32) : List UInt32 :=
  match selectedPixelPath policy with
  | .avx2 => normalizeBgraToRgbaInPlaceAvx2 avx2Detected pixels
  | .avx512f | .sse42 | .neon | .portable => normalizeBgraToRgbaInPlacePortable pixels

/-- `swap(0, 2)` in each chunk of four. -/
def swapByteChunks : List UInt8 → List UInt8
  | b0 :: b1 :: b2 :: b3 :: rest => b2 :: b1 :: b0 :: b3 :: swapByteChunks rest
  | rest => rest

def normalizeBgraToRgbaBytes (bytes : List UInt8) : Except String (List UInt8) :=
  if bytes.length % 4 ≠ 0 then .error "pixel buffer must be 4-byte aligned"
  else .ok (swapByteChunks bytes)

theorem normalizeBgraToRgbaInPlacePortable_eq (pixels : List UInt32) :
    normalizeBgraToRgbaInPlacePortable pixels = pixels.map swapWord :=
  map_refinePixel pixels

theorem normalizeBgraToRgbaInPlaceAvx2_eq (avx2Detected : Bool) (pixels : List UInt32) :
    normalizeBgraToRgbaInPlaceAvx2 avx2Detected pixels = pixels.map swapWord := by
  unfold normalizeBgraToRgbaInPlaceAvx2
  split_ifs
  · exact shuffleChunks_eq normalizeBgraToRgbaInPlacePortable_eq pixels
  · exact normalizeBgraToRgbaInPlacePortable_eq pixels

theorem normalizeBgraToRgbaInPlaceWithPath_eq (avx2Detected : Bool) (pixels : List UInt32)
    (path : PixelOpPath) :
    normalizeBgraToRgbaInPlaceWithPath avx2Detected pixels path = pixels.map swapWord := by
  cases path with
  | avx2 => exact normalizeBgraToRgbaInPlaceAvx2_eq avx2Detected pixels
  | _ => exact normalizeBgraToRgbaInPlacePortable_eq pixels

theorem normalizeBgraToRgbaBytes_eq (pixels : List UInt32) :
    normalizeBgraToRgbaBytes (pixels.flatMap leBytes) =
      .ok ((pixels.map swapWord).flatMap leBytes) := by
  have hlength : (pixels.flatMap leBytes).length % 4 = 0 := by
    induction pixels with
    | nil => rfl
    | cons pixel pixels ih =>
      rw [List.flatMap_cons, List.length_append]
      exact (Nat.add_mod_left 4 _).trans ih
  rw [normalizeBgraToRgbaBytes, if_neg (not_not.mpr hlength)]
  congr 1
  clear hlength
  induction pixels with
  | nil => rfl
  | cons pixel pixels ih =>
    rw [List.map_cons, List.flatMap_cons, List.flatMap_cons, leBytes_swapWord, ← ih]
    rfl

end WaylandWire

namespace VulkanBackend

def refinePixelsPortable (pixels : List UInt32) : List UInt32 :=
  pixels.map fun pixel : UInt32 =>
    let high := (pixel >>> 16) &&& 0xFF
    let low := pixel &&& 0xFF
    (pixel &&& 0xFF00FF00) ||| low <<< (16 : UInt32) ||| high

def refinePixelsAvx2 (pixels : List UInt32) : List UInt32 :=
  shuffleChunks refinePixelsPortable pixels

def refineScreenshotPixels (policy : AccelPolicy) (pixels : List UInt32) : List UInt32 :=
  if policy.avx2Available then refinePixelsAvx2 pixels else refinePixelsPortable pixels

theorem refinePixelsPortable_eq (pixels : List UInt32) :
    refinePixelsPortable pixels = pixels.map swapWord := map_refinePixel pixels

theorem refinePixelsAvx2_eq (pixels : List UInt32) :
    refinePixelsAvx2 pixels = pixels.map swapWord :=
  shuffleChunks_eq refinePixelsPortable_eq pixels

theorem refineScreenshotPixels_eq (policy : AccelPolicy) (pixels : List UInt32) :
    refineScreenshotPixels policy pixels = pixels.map swapWord := by
  unfold refineScreenshotPixels
  split_ifs
  · exact refinePixelsAvx2_eq pixels
  · exact refinePixelsPortable_eq pixels

end VulkanBackend

open WaylandWire VulkanBackend in
/-- Every path yields the pixels with bytes 0 and 2 exchanged, whatever the processor has, and
a second exchange undoes the first. -/
theorem pixel_paths_agree (policy : AccelPolicy) (avx2Detected : Bool) (path : PixelOpPath)
    (pixels : List UInt32) :
    (normalizeBgraToRgbaInPlacePortable pixels = pixels.map swapWord ∧
      normalizeBgraToRgbaInPlaceAvx2Impl pixels = pixels.map swapWord ∧
      normalizeBgraToRgbaInPlace policy avx2Detected pixels = pixels.map swapWord ∧
      normalizeBgraToRgbaInPlaceWithPath avx2Detected pixels path = pixels.map swapWord ∧
      normalizeBgraToRgbaBytes (pixels.flatMap leBytes) =
        .ok ((pixels.map swapWord).flatMap leBytes)) ∧
    (refinePixelsPortable pixels = pixels.map swapWord ∧
      refinePixelsAvx2 pixels = pixels.map swapWord ∧
      refineScreenshotPixels policy pixels = pixels.map swapWord) ∧
    (pixels.map Displayd.refinePixel = pixels.map swapWord ∧
      Displayd.refineScreenshotPixelsAvx2 pixels = pixels.map swapWord ∧
      Displayd.refineScreenshotPixelsAccel policy.avx2Available pixels = pixels.map swapWord) ∧
    (∀ pixel, ∃ b0 b1 b2 b3, leBytes pixel = [b0, b1, b2, b3] ∧
      leBytes (swapWord pixel) = [b2, b1, b0, b3]) ∧
    (pixels.map swapWord).map swapWord = pixels := by
  have hpath : normalizeBgraToRgbaInPlace policy avx2Detected pixels =
      normalizeBgraToRgbaInPlaceWithPath avx2Detected pixels (selectedPixelPath policy) := by
    unfold normalizeBgraToRgbaInPlace
    cases selectedPixelPath policy <;> rfl
  refine ⟨⟨normalizeBgraToRgbaInPlacePortable_eq pixels,
    shuffleChunks_eq normalizeBgraToRgbaInPlacePortable_eq pixels, ?_,
    normalizeBgraToRgbaInPlaceWithPath_eq avx2Detected pixels path,
    normalizeBgraToRgbaBytes_eq pixels⟩, ⟨refinePixelsPortable_eq pixels,
    refinePixelsAvx2_eq pixels, refineScreenshotPixels_eq policy pixels⟩, ⟨?_, ?_, ?_⟩, ?_, ?_⟩
  · rw [hpath]
    exact normalizeBgraToRgbaInPlaceWithPath_eq avx2Detected pixels _
  · exact map_refinePixel pixels
  · rw [Displayd.refineScreenshotPixelsAvx2_eq]
    exact map_refinePixel pixels
  · rw [Displayd.refineScreenshotPixelsAccel_eq]
    exact map_refinePixel pixels
  · exact fun pixel => ⟨_, _, _, _, rfl, leBytes_swapWord pixel⟩
  · have htwice : swapWord ∘ swapWord = id := funext swapWord_swapWord
    rw [List.map_map, htwice, List.map_id]

end TuffXwin
