import TuffXwin.Displayd.Capture
import TuffXwin.Displayd.DrmKms
import TuffXwin.Displayd.Tokens
import TuffXwin.Screenshot.Artifact

/-! A capture from the picture to the client's frame. Displayd writes the pixels of a presented
frame, or those of its capture backend, to a file of the runtime directory and announces it;
the screenshot client opens the file by its announced name. Only the pixels of a capture
backend have their red and blue exchanged before they are encoded. -/

namespace TuffXwin.Displayd
open Lib Screenshot

variable {height width : Nat} {pixels : List UInt32} {bytes : List UInt8}

/-- The body of the scalar loop. -/
def refinePixel (pixel : UInt32) : UInt32 :=
  let high := (pixel >>> 16) &&& 0xFF
  let low := pixel &&& 0xFF
  (pixel &&& 0xFF00FF00) ||| low <<< (16 : UInt32) ||| high

/-- One lane of the vector loop. -/
def refineLane (value : UInt32) : UInt32 :=
  let ag := value &&& 0xFF00FF00
  let high := (value &&& 0x00FF0000) >>> 16
  let low := (value &&& 0x000000FF) <<< 16
  ag ||| (high ||| low)

def refineScreenshotPixelsAvx2 (pixels : List UInt32) : List UInt32 :=
  if 8 ≤ pixels.length then
    (pixels.take 8).map refineLane ++ refineScreenshotPixelsAvx2 (pixels.drop 8)
  else pixels.map refinePixel
termination_by pixels.length
decreasing_by
  rw [List.length_drop]
  omega

def refineScreenshotPixelsAccel (avx2Available : Bool) (pixels : List UInt32) : List UInt32 :=
  if simdXrgbMinPixels ≤ pixels.length ∧ avx2Available then refineScreenshotPixelsAvx2 pixels
  else pixels.map refinePixel

theorem refineLane_eq (value : UInt32) : refineLane value = refinePixel value := by
  unfold refineLane refinePixel
  apply UInt32.toBitVec_inj.mp
  apply BitVec.eq_of_getLsbD_eq
  intro i hi
  interval_cases i <;> simp [Bool.or_comm]

theorem refineScreenshotPixelsAvx2_eq (pixels : List UInt32) :
    refineScreenshotPixelsAvx2 pixels = pixels.map refinePixel := by
  induction pixels using refineScreenshotPixelsAvx2.induct with
  | case1 pixels h ih =>
    have hlane : refineLane = refinePixel := funext refineLane_eq
    rw [refineScreenshotPixelsAvx2, if_pos h, ih, hlane, ← List.map_append,
      List.take_append_drop]
  | case2 pixels h => rw [refineScreenshotPixelsAvx2, if_neg h]

/-- The two variants exchange the same bytes. -/
theorem refineScreenshotPixelsAccel_eq (avx2Available : Bool) (pixels : List UInt32) :
    refineScreenshotPixelsAccel avx2Available pixels = pixels.map refinePixel := by
  unfold refineScreenshotPixelsAccel
  split_ifs
  · exact refineScreenshotPixelsAvx2_eq pixels
  · rfl

structure Picture where
  width : Nat
  height : Nat
  pixels : List UInt32

abbrev CaptureBackend := String → Except String Picture

variable {backend : CaptureBackend}

def generateMockPixels (width height : Nat) : List UInt32 :=
  (List.range height).flatMap fun y => (List.range width).map fun x =>
    (255 : UInt32) <<< (24 : UInt32) ||| UInt32.ofNat (x % 256) <<< (16 : UInt32) |||
      UInt32.ofNat (y % 256) <<< (8 : UInt32) ||| 128

def fakeCaptureBackend : CaptureBackend := fun _ =>
  .ok ⟨1920, 1080, generateMockPixels 1920 1080⟩

/-- What a capture finds: `fault` is the answer of a file system that does not write. -/
structure CaptureEnvironment where
  runtimeDir : PathBuf
  sessionInstanceId : String
  nowUnixTimestamp : Nat := 0
  avx2Available : Bool := false
  fault : Option String := none

/-- The end of both captures: the file is written and announced. -/
def announceArtifact (env : CaptureEnvironment) (disk : Disk) (output : String)
    (width height : Nat) (artifactName : String) (bytes : List UInt8) :
    Except String (CaptureEvent × Disk) :=
  let fileName := sessionArtifactName env.sessionInstanceId.toList artifactName.toList
  match env.fault with
  | some reason => .error reason
  | none =>
    disk.write env.runtimeDir fileName bytes >>= fun disk =>
    .ok (.outputCaptured output width height "RGBA8888" (.ofList fileName), disk)

def handleCaptureOutput (env : CaptureEnvironment) (disk : Disk) (output : String)
    (backend : CaptureBackend) : Except String (CaptureEvent × Disk) :=
  backend output >>= fun picture =>
  validateCapturePixelCount picture.width picture.height picture.pixels.length >>= fun _ =>
  match usizeChecked (picture.pixels.length * 4) with
  | none => .error "capture artifact byte size overflow"
  | some _ =>
    let pixels := refineScreenshotPixelsAccel env.avx2Available picture.pixels
    encodeRgba8888ArtifactBytes picture.width picture.height pixels >>= fun bytes =>
    announceArtifact env disk output picture.width picture.height
      ("screenshot-" ++ .ofList (sanitizeArtifactFilename output.toList) ++ "-" ++
        toString env.nowUnixTimestamp ++ ".raw") bytes

/-- `handle_headless_capture_output` after `capture_published`. -/
def handlePublishedCapture (env : CaptureEnvironment) (disk : Disk) (output : String)
    (published : Option FramePublication) : Except String (CaptureEvent × Disk) :=
  match published with
  | none => .error ("headless-shm has no Presented frame for output " ++ output)
  | some frame =>
    encodeRgba8888ArtifactBytes frame.geometry.width frame.geometry.height frame.pixels >>=
      fun bytes =>
    announceArtifact env disk output frame.geometry.width frame.geometry.height
      ("headless-screenshot-" ++ .ofList (sanitizeArtifactFilename output.toList) ++ "-" ++
        toString frame.sceneGeneration ++ "-" ++ toString frame.frameId ++ ".raw") bytes

inductive CaptureSource
  | headlessShm (backend : HeadlessShmDisplayBackend)
  | drmKms (backend : DrmKmsBackend)
  | capture (backend : CaptureBackend)

/-- The command of `handle_display_command`. -/
def captureOutput (env : CaptureEnvironment) (disk : Disk) (output : String) :
    CaptureSource → Except String (CaptureEvent × Disk)
  | .headlessShm backend =>
    handlePublishedCapture env disk output (backend.capturePublished output)
  | .drmKms backend => handlePublishedCapture env disk output (backend.capturePublished output)
  | .capture backend => handleCaptureOutput env disk output backend

def captureResponse (source : ServiceRole) (event : CaptureEvent) : IpcEnvelope CaptureEvent :=
  ⟨.displayd, source, .other event⟩

namespace CaptureSource

def published (source : CaptureSource) (output : String) : Option FramePublication :=
  match source with
  | .headlessShm backend => backend.capturePublished output
  | .drmKms backend => backend.capturePublished output
  | .capture _ => none

/-- What there is to capture. -/
def picture (source : CaptureSource) (output : String) : Option Picture :=
  match source with
  | .capture backend => (backend output).toOption
  | source => (source.published output).map fun frame =>
    ⟨frame.geometry.width, frame.geometry.height, frame.pixels⟩

/-- The presented frames are encoded as they are. -/
def unrefined : CaptureSource → Bool
  | .capture _ => false
  | _ => true

end CaptureSource

/-! The bytes of a pixel `0xAARRGGBB`. -/

def red (pixel : UInt32) : UInt8 := ((pixel >>> 16) &&& 0xFF).toUInt8
def green (pixel : UInt32) : UInt8 := ((pixel >>> 8) &&& 0xFF).toUInt8
def blue (pixel : UInt32) : UInt8 := (pixel &&& 0xFF).toUInt8
def alpha (pixel : UInt32) : UInt8 := ((pixel >>> 24) &&& 0xFF).toUInt8

def rgba (pixel : UInt32) : List UInt8 := [red pixel, green pixel, blue pixel, alpha pixel]

theorem u32ToRgba8888_refinePixel (pixel : UInt32) :
    u32ToRgba8888 (refinePixel pixel) = rgba pixel := by
  unfold u32ToRgba8888 refinePixel rgba red green blue alpha
  simp only [List.cons.injEq, and_true]
  refine ⟨?_, ?_, ?_, ?_⟩ <;> apply UInt8.toBitVec_inj.mp <;>
    apply BitVec.eq_of_getLsbD_eq <;> intro i hi <;> interval_cases i <;> simp

theorem u32ToRgba8888_rgba {pixel : UInt32} :
    u32ToRgba8888 pixel = rgba pixel ↔ red pixel = blue pixel := by
  have hbytes : u32ToRgba8888 pixel = [blue pixel, green pixel, red pixel, alpha pixel] := rfl
  rw [hbytes, rgba]
  simp only [List.cons.injEq, and_true, true_and]
  constructor
  · intro h
    exact h.2
  · intro h
    exact ⟨h.symm, h⟩

/-- The picture, row by row, four bytes to a pixel. -/
def Depicts (picture : Picture) (bytes : List UInt8) : Prop :=
  ∀ x < picture.width, ∀ y < picture.height, ∃ pixel,
    picture.pixels[y * picture.width + x]? = some pixel ∧
    (bytes.drop (4 * (y * picture.width + x))).take 4 = rgba pixel

theorem chunk_flatMap {α β : Type} {f : α → List β} {size : Nat} (hf : ∀ a, (f a).length = size)
    {items : List α} {index : Nat} {a : α} (h : items[index]? = some a) :
    ((items.flatMap f).drop (size * index)).take size = f a := by
  induction items generalizing index with
  | nil => simp at h
  | cons item items ih =>
    rw [List.flatMap_cons]
    cases index with
    | zero =>
      rw [List.getElem?_cons_zero] at h
      injection h with h
      subst h
      rw [Nat.mul_zero, List.drop_zero, List.take_append_of_le_length (hf item).ge,
        List.take_of_length_le (hf item).le]
    | succ index =>
      rw [List.getElem?_cons_succ] at h
      have hskip : size * (index + 1) = (f item).length + size * index := by
        rw [hf, Nat.mul_succ, Nat.add_comm]
      rw [hskip, ← List.drop_drop, List.drop_left]
      exact ih h

theorem depicts_iff {picture : Picture} {f : UInt32 → List UInt8} (hf : ∀ a, (f a).length = 4)
    (hlen : picture.pixels.length = picture.width * picture.height) :
    Depicts picture (picture.pixels.flatMap f) ↔ ∀ pixel ∈ picture.pixels, f pixel = rgba pixel := by
  constructor
  · intro h pixel hpixel
    obtain ⟨index, hindex, hat⟩ := List.getElem_of_mem hpixel
    have hwidth : 0 < picture.width := by
      rw [hlen] at hindex
      exact Nat.pos_of_ne_zero fun hzero => by simp [hzero] at hindex
    have hrow : index / picture.width < picture.height := by
      rw [hlen] at hindex
      exact Nat.div_lt_of_lt_mul hindex
    obtain ⟨pixel', hpixel', hbytes⟩ :=
      h (index % picture.width) (Nat.mod_lt _ hwidth) (index / picture.width) hrow
    rw [Nat.div_add_mod'] at hpixel' hbytes
    rw [List.getElem?_eq_getElem hindex, hat] at hpixel'
    injection hpixel' with hsame
    subst hsame
    rw [← hbytes]
    exact (chunk_flatMap hf (by rw [List.getElem?_eq_getElem hindex, hat])).symm
  · intro h x hx y hy
    have hindex : y * picture.width + x < picture.pixels.length := by
      rw [hlen]
      calc y * picture.width + x < y * picture.width + picture.width := by omega
        _ = picture.width * (y + 1) := by rw [Nat.mul_succ, Nat.mul_comm]
        _ ≤ picture.width * picture.height := Nat.mul_le_mul_left _ hy
    have hat := List.getElem?_eq_getElem hindex
    refine ⟨_, hat, ?_⟩
    rw [chunk_flatMap hf hat]
    exact h _ (List.getElem_mem hindex)

/-- How a pixel of the source lies in the file. -/
def CaptureSource.encoded (source : CaptureSource) (pixel : UInt32) : List UInt8 :=
  if source.unrefined then u32ToRgba8888 pixel else rgba pixel

theorem CaptureSource.encoded_length (source : CaptureSource) (pixel : UInt32) :
    (source.encoded pixel).length = 4 := by
  unfold encoded
  split_ifs <;> rfl

theorem validateCapturePixelCount_ok {pixelLen : Nat}
    (h : validateCapturePixelCount width height pixelLen = .ok ()) : pixelLen = width * height := by
  unfold validateCapturePixelCount at h
  split at h
  · cases h
  · rename_i expectedPixels hexpected
    obtain ⟨-, rfl⟩ := u32Checked_eq_some.mp hexpected
    split_ifs at h with hne
    exact not_not.mp hne

theorem encodeRgba8888ArtifactBytes_bytes
    (h : encodeRgba8888ArtifactBytes width height pixels = .ok bytes) :
    pixels.length = width * height ∧ bytes = pixels.flatMap u32ToRgba8888 := by
  obtain ⟨_, hvalid, h⟩ := bind_eq_ok.mp h
  refine ⟨validateCapturePixelCount_ok hvalid, ?_⟩
  split at h
  · cases h
  · injection h with h
    exact h.symm

/-- The file a capture leaves, and what is said of it. -/
structure CaptureAnnounced (env : CaptureEnvironment) (output : String) (picture : Picture)
    (bytes : List UInt8) (event : CaptureEvent) (disk disk' : Disk) (name : List Char) :
    Prop where
  event : event = .outputCaptured output picture.width picture.height "RGBA8888"
    (.ofList (sessionArtifactName env.sessionInstanceId.toList name))
  written : disk.write env.runtimeDir
    (sessionArtifactName env.sessionInstanceId.toList name) bytes = .ok disk'

section

variable {env : CaptureEnvironment} {disk disk' : Disk} {output : String}
  {source : CaptureSource} {event : CaptureEvent} {picture : Picture}

theorem announceArtifact_ok {artifactName : String}
    (h : announceArtifact env disk output picture.width picture.height artifactName bytes =
      .ok (event, disk')) :
    CaptureAnnounced env output picture bytes event disk disk' artifactName.toList := by
  unfold announceArtifact at h
  split at h
  · cases h
  · obtain ⟨disk'', hwrite, h⟩ := bind_eq_ok.mp h
    injection h with h
    injection h with hevent hdisk
    subst hdisk
    exact ⟨hevent.symm, hwrite⟩

theorem handlePublishedCapture_ok {frame : FramePublication}
    (h : handlePublishedCapture env disk output (some frame) = .ok (event, disk')) :
    frame.pixels.length = frame.geometry.width * frame.geometry.height ∧
      ∃ name, CaptureAnnounced env output ⟨frame.geometry.width, frame.geometry.height, frame.pixels⟩
        (frame.pixels.flatMap u32ToRgba8888) event disk disk' name := by
  unfold handlePublishedCapture at h
  obtain ⟨bytes, hbytes, h⟩ := bind_eq_ok.mp h
  obtain ⟨hlen, rfl⟩ := encodeRgba8888ArtifactBytes_bytes hbytes
  exact ⟨hlen, _, announceArtifact_ok h⟩

theorem handleCaptureOutput_ok (hpicture : backend output = .ok picture)
    (h : handleCaptureOutput env disk output backend = .ok (event, disk')) :
    picture.pixels.length = picture.width * picture.height ∧
      ∃ name, CaptureAnnounced env output picture (picture.pixels.flatMap rgba) event disk disk'
        name := by
  unfold handleCaptureOutput at h
  rw [hpicture, ok_bind] at h
  obtain ⟨_, hvalid, h⟩ := bind_eq_ok.mp h
  refine ⟨validateCapturePixelCount_ok hvalid, ?_⟩
  split at h
  · cases h
  · obtain ⟨bytes, hbytes, h⟩ := bind_eq_ok.mp h
    obtain ⟨-, rfl⟩ := encodeRgba8888ArtifactBytes_bytes hbytes
    have hrefined : (refineScreenshotPixelsAccel env.avx2Available picture.pixels).flatMap
        u32ToRgba8888 = picture.pixels.flatMap rgba := by
      rw [refineScreenshotPixelsAccel_eq, List.flatMap_map]
      simp only [u32ToRgba8888_refinePixel]
    rw [hrefined] at h
    exact ⟨_, announceArtifact_ok h⟩

theorem captureOutput_announced (hpicture : source.picture output = some picture)
    (h : captureOutput env disk output source = .ok (event, disk')) :
    picture.pixels.length = picture.width * picture.height ∧
      ∃ name, CaptureAnnounced env output picture (picture.pixels.flatMap source.encoded) event disk
        disk' name := by
  cases source with
  | headlessShm backend =>
    obtain ⟨frame, hframe, rfl⟩ := Option.map_eq_some_iff.mp hpicture
    simp only [CaptureSource.published] at hframe
    simp only [captureOutput, hframe] at h
    exact handlePublishedCapture_ok h
  | drmKms backend =>
    obtain ⟨frame, hframe, rfl⟩ := Option.map_eq_some_iff.mp hpicture
    simp only [CaptureSource.published] at hframe
    simp only [captureOutput, hframe] at h
    exact handlePublishedCapture_ok h
  | capture backend =>
    have hbackend : backend output = .ok picture := by
      simp only [CaptureSource.picture] at hpicture
      cases hanswer : backend output with
      | error reason => simp [hanswer, Except.toOption] at hpicture
      | ok answer =>
        rw [hanswer] at hpicture
        injection hpicture with hpicture
        rw [hpicture]
    exact handleCaptureOutput_ok hbackend h

end

/-- The file that the client is told of. -/
def announcedFile (env : CaptureEnvironment) (disk : Disk) : CaptureEvent → Option (List UInt8)
  | .outputCaptured _ _ _ _ artifactPath => disk.file env.runtimeDir artifactPath.toList
  | _ => none

/-- The file is the picture, and the client takes the announcement and reads just this file. -/
def CaptureShown (env : CaptureEnvironment) (role : ServiceRole) (picture : Picture)
    (event : CaptureEvent) (disk : Disk) : Prop :=
  ∃ bytes artifact reader,
    announcedFile env disk event = some bytes ∧ Depicts picture bytes ∧
    decodeCaptureResponse role (captureResponse role event) = .ok artifact ∧
    FileCaptureArtifactReader.new disk env.runtimeDir = .ok reader ∧
    reader.readFrame disk artifact = .ok ⟨picture.width, picture.height, bytes⟩

/-- The captures that the client can show. -/
structure Showable (env : CaptureEnvironment) (disk : Disk) (source : CaptureSource)
    (output : String) (picture : Picture) : Prop where
  balanced : source.unrefined = true → ∀ pixel ∈ picture.pixels, red pixel = blue pixel
  named : isBlank output = false
  nonempty : picture.width ≠ 0 ∧ picture.height ≠ 0
  fits : picture.width * picture.height * 4 ≤ maxScreenshotArtifactBytes
  rooted : ∃ root, ArtifactRoot.new disk env.runtimeDir = .ok root

theorem encoded_rgba {source : CaptureSource} :
    (∀ pixel ∈ pixels, source.encoded pixel = rgba pixel) ↔
      (source.unrefined = true → ∀ pixel ∈ pixels, red pixel = blue pixel) := by
  unfold CaptureSource.encoded
  cases source.unrefined with
  | false => simp
  | true => simp [u32ToRgba8888_rgba]
/-- An announced capture is shown exactly when displayd had no channels to exchange, the output
has a name, the picture is neither empty nor larger than the client reads, and the client takes
the runtime directory as its root. -/
theorem captureOutput_shown_iff {env : CaptureEnvironment} {disk disk' : Disk}
    {source : CaptureSource} {output : String} {picture : Picture} {event : CaptureEvent}
    (role : ServiceRole) (hpicture : source.picture output = some picture)
    (h : captureOutput env disk output source = .ok (event, disk')) :
    CaptureShown env role picture event disk' ↔ Showable env disk source output picture := by
  obtain ⟨hlen, name, rfl, hwritten⟩ := captureOutput_announced hpicture h
  obtain ⟨hcanonicalize, root, hroot, hentry⟩ := Disk.write_ok hwritten
  have hpath : (String.ofList (sessionArtifactName env.sessionInstanceId.toList name)).toList =
      sessionArtifactName env.sessionInstanceId.toList name := String.toList_ofList
  have hne : (String.ofList
      (sessionArtifactName env.sessionInstanceId.toList name)).toList ≠ [] := by
    obtain ⟨tail, htail⟩ := sessionArtifactName_cons env.sessionInstanceId.toList name
    simp [htail]
  have hfile : announcedFile env disk' (.outputCaptured output picture.width picture.height
      "RGBA8888" (.ofList (sessionArtifactName env.sessionInstanceId.toList name))) =
      some (picture.pixels.flatMap source.encoded) := by
    rw [announcedFile, hpath, Disk.write_file hwritten]
  have hbytes : (picture.pixels.flatMap source.encoded).length =
      picture.width * picture.height * 4 := by
    rw [List.length_flatMap, List.map_congr_left fun a _ => source.encoded_length a,
      List.map_const', List.sum_replicate_nat, hlen]
  have hdepicts := (depicts_iff source.encoded_length hlen).trans encoded_rgba
  have hread : ∀ allowed, ArtifactRoot.new disk env.runtimeDir = .ok allowed →
      (FileCaptureArtifactReader.readFrame ⟨allowed⟩ disk'
        ⟨output, picture.width, picture.height, "RGBA8888",
          (String.ofList (sessionArtifactName env.sessionInstanceId.toList name)).toList⟩ =
        .ok ⟨picture.width, picture.height, picture.pixels.flatMap source.encoded⟩ ↔
        picture.width ≠ 0 ∧ picture.height ≠ 0 ∧
          picture.width * picture.height * 4 ≤ maxScreenshotArtifactBytes) := by
    intro allowed hallowed
    have hsame : allowed.path = root := by
      have hallowedPath := ArtifactRoot.new_path hallowed
      rw [hroot] at hallowedPath
      injection hallowedPath with hsame
      exact hsame.symm
    refine FileCaptureArtifactReader.readFrame_ok rfl ?_ hbytes
    rw [hpath]
    exact FileCaptureArtifactReader.openArtifact_session (by rw [hsame]; exact hentry)
  have hnew : ∀ reader, FileCaptureArtifactReader.new disk' env.runtimeDir = .ok reader ↔
      ArtifactRoot.new disk env.runtimeDir = .ok reader.allowedRoot := by
    intro reader
    unfold FileCaptureArtifactReader.new
    rw [ArtifactRoot.new_congr hcanonicalize, bind_eq_ok]
    constructor
    · rintro ⟨allowed, hallowed, hreader⟩
      injection hreader with hreader
      rw [hallowed, ← hreader]
    · intro hallowed
      exact ⟨_, hallowed, rfl⟩
  constructor
  · rintro ⟨bytes, artifact, reader, hannounced, hpixels, hdecode, hreader, hframe⟩
    rw [hfile] at hannounced
    injection hannounced with hannounced
    subst hannounced
    obtain ⟨rfl, hnamed, hwidth, hheight⟩ := (decodeCaptureResponse_ok hne).mp hdecode
    have hallowed := (hnew reader).mp hreader
    have hfits := ((hread _ hallowed).mp hframe).2.2
    exact ⟨hdepicts.mp hpixels, hnamed, ⟨hwidth, hheight⟩, hfits, _, hallowed⟩
  · rintro ⟨hbalanced, hnamed, ⟨hwidth, hheight⟩, hfits, allowed, hallowed⟩
    exact ⟨_, _, ⟨allowed⟩, hfile, hdepicts.mpr hbalanced,
      (decodeCaptureResponse_ok hne).mpr ⟨rfl, hnamed, hwidth, hheight⟩,
      (hnew ⟨allowed⟩).mpr hallowed, (hread allowed hallowed).mpr ⟨hwidth, hheight, hfits⟩⟩

theorem generateMockPixels_length (width height : Nat) :
    (generateMockPixels width height).length = width * height := by
  unfold generateMockPixels
  rw [List.length_flatMap]
  simp [Nat.mul_comm]

/-- A buffer of the announced size is written with its channels exchanged. -/
theorem handleCaptureOutput_eq {env : CaptureEnvironment} {disk : Disk} {output : String}
    {picture : Picture} (hpicture : backend output = .ok picture)
    (hlen : picture.pixels.length = picture.width * picture.height)
    (hcount : picture.width * picture.height ≤ u32Max) :
    handleCaptureOutput env disk output backend =
      announceArtifact env disk output picture.width picture.height
        ("screenshot-" ++ .ofList (sanitizeArtifactFilename output.toList) ++ "-" ++
          toString env.nowUnixTimestamp ++ ".raw") (picture.pixels.flatMap rgba) := by
  have hu32 : u32Max = 4294967295 := rfl
  have hu64 : u64Max = 18446744073709551615 := rfl
  have hvalid : validateCapturePixelCount picture.width picture.height picture.pixels.length =
      .ok () := by
    unfold validateCapturePixelCount
    rw [u32Checked_eq_some.mpr ⟨hcount, rfl⟩, hlen]
    exact if_neg (fun h => h rfl)
  have hbytes : usizeChecked (picture.pixels.length * 4) = some (picture.pixels.length * 4) :=
    usizeChecked_eq_some.mpr ⟨by omega, rfl⟩
  have hrefined : (picture.pixels.map refinePixel).length = picture.width * picture.height := by
    rw [List.length_map, hlen]
  unfold handleCaptureOutput
  rw [hpicture, ok_bind, hvalid, ok_bind, hbytes]
  simp only [refineScreenshotPixelsAccel_eq, encodeRgba8888ArtifactBytes_ok hrefined hcount,
    List.flatMap_map, u32ToRgba8888_refinePixel]
  rfl

def srvEnvironment : CaptureEnvironment where
  runtimeDir := ['/', 's', 'r', 'v']
  sessionInstanceId := "1"

def srvDisk : Disk where
  canonicalize := some

theorem announceArtifact_srv (output : String) (width height : Nat) (artifactName : String)
    (bytes : List UInt8) : ∃ event disk,
      announceArtifact srvEnvironment srvDisk output width height artifactName bytes =
        .ok (event, disk) :=
  ⟨_, _, rfl⟩

def mockPicture : Picture := ⟨1920, 1080, generateMockPixels 1920 1080⟩

theorem fakeCaptureBackend_ok (output : String) :
    fakeCaptureBackend output = .ok mockPicture := by
  unfold fakeCaptureBackend mockPicture
  with_reducible rfl

/-- The picture of the mock backend reaches the client. -/
theorem captureOutput_shown_mock : ∃ event disk,
    captureOutput srvEnvironment srvDisk "fullscreen" (.capture fakeCaptureBackend) =
      .ok (event, disk) ∧
    CaptureShown srvEnvironment .sessiond mockPicture event disk := by
  have hbackend := fakeCaptureBackend_ok "fullscreen"
  have hwidth : mockPicture.width = 1920 := by simp only [mockPicture]
  have hheight : mockPicture.height = 1080 := by simp only [mockPicture]
  have hlen : mockPicture.pixels.length = mockPicture.width * mockPicture.height := by
    simp only [mockPicture, generateMockPixels_length]
  -- from here on nothing may evaluate the two million pixels
  generalize fakeCaptureBackend = backend at *
  generalize mockPicture = picture at *
  have hpicture : (CaptureSource.capture backend).picture "fullscreen" = some picture := by
    simp only [CaptureSource.picture, hbackend, Except.toOption]
  have hcount : picture.width * picture.height ≤ u32Max := by
    rw [hwidth, hheight]
    decide
  obtain ⟨event, disk, hannounced⟩ := announceArtifact_srv "fullscreen" picture.width
    picture.height ("screenshot-" ++ .ofList (sanitizeArtifactFilename "fullscreen".toList) ++
      "-" ++ toString srvEnvironment.nowUnixTimestamp ++ ".raw") (picture.pixels.flatMap rgba)
  have hcapture : captureOutput srvEnvironment srvDisk "fullscreen" (.capture backend) =
      .ok (event, disk) := by
    rw [captureOutput, handleCaptureOutput_eq hbackend hlen hcount, hannounced]
  refine ⟨event, disk, hcapture, (captureOutput_shown_iff .sessiond hpicture hcapture).mpr ?_⟩
  refine ⟨fun h => (by cases h), by decide +kernel, by omega, ?_, _, rfl⟩
  rw [hwidth, hheight]
  decide

/-- A red pixel presented on an output of one pixel. -/
def redServer : Server HeadlessShmDisplayBackend :=
  Server.serve {} [.command (.configureOutput pixelGeometry),
    .command (.commitScene (pixelScene 1 1)), .command (.advancePresentation "eDP-1" 1 1 1)]

theorem redServer_published :
    (redServer.display.backend.capturePublished "eDP-1").map
      (fun frame => (frame.geometry.width, frame.geometry.height, frame.pixels)) =
      some (1, 1, [0xFFFF0000]) := by
  decide +kernel

/-- A frame of the announced size is written as it is. -/
theorem handlePublishedCapture_srv (frame : FramePublication) (output : String)
    (hlen : frame.pixels.length = frame.geometry.width * frame.geometry.height)
    (hcount : frame.geometry.width * frame.geometry.height ≤ u32Max) : ∃ event disk,
      handlePublishedCapture srvEnvironment srvDisk output (some frame) = .ok (event, disk) := by
  unfold handlePublishedCapture
  simp only [encodeRgba8888ArtifactBytes_ok hlen hcount, ok_bind]
  exact announceArtifact_srv _ _ _ _ _

theorem redCapture_blue :
    (Server.system HeadlessShmDisplayBackend).Reachable redServer ∧ redServer.halted = false ∧
      ∃ event disk,
        (CaptureSource.headlessShm redServer.display.backend).picture "eDP-1" =
          some ⟨1, 1, [0xFFFF0000]⟩ ∧
        captureOutput srvEnvironment srvDisk "eDP-1" (.headlessShm redServer.display.backend) =
          .ok (event, disk) ∧
        announcedFile srvEnvironment disk event = some [0x00, 0x00, 0xFF, 0xFF] ∧
        ¬ CaptureShown srvEnvironment .sessiond ⟨1, 1, [0xFFFF0000]⟩ event disk := by
  refine ⟨Server.serve_reachable _ _, by decide +kernel, ?_⟩
  obtain ⟨frame, hframe, hshape⟩ := Option.map_eq_some_iff.mp redServer_published
  injection hshape with hwidth hshape
  injection hshape with hheight hpixels
  generalize redServer.display.backend = backend at *
  have hpicture : (CaptureSource.headlessShm backend).picture "eDP-1" =
      some ⟨1, 1, [0xFFFF0000]⟩ := by
    simp only [CaptureSource.picture, CaptureSource.published, hframe, Option.map_some, hwidth,
      hheight, hpixels]
  obtain ⟨event, disk, hhandled⟩ := handlePublishedCapture_srv frame "eDP-1"
    (by rw [hwidth, hheight, hpixels]; rfl) (by rw [hwidth, hheight]; decide)
  have hcapture : captureOutput srvEnvironment srvDisk "eDP-1" (.headlessShm backend) =
      .ok (event, disk) := by
    rw [captureOutput, hframe, hhandled]
  obtain ⟨-, name, rfl, hwritten⟩ := captureOutput_announced hpicture hcapture
  have hfile : announcedFile srvEnvironment disk (.outputCaptured "eDP-1" 1 1 "RGBA8888"
      (.ofList (sessionArtifactName srvEnvironment.sessionInstanceId.toList name))) =
      some [0x00, 0x00, 0xFF, 0xFF] := by
    rw [announcedFile, String.toList_ofList, Disk.write_file hwritten]
    rfl
  refine ⟨_, disk, hpicture, hcapture, hfile, ?_⟩
  rintro ⟨bytes, artifact, reader, hannounced, hdepicts, -⟩
  rw [hfile] at hannounced
  injection hannounced with hbytes
  obtain ⟨pixel, hpixel, hchannels⟩ := hdepicts 0 Nat.one_pos 0 Nat.one_pos
  have hred : pixel = 0xFFFF0000 := Option.some.inj hpixel.symm
  rw [← hbytes, hred] at hchannels
  exact absurd hchannels (by decide)

end TuffXwin.Displayd
