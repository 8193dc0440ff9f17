import TuffXwin.Common.SessionArtifacts
import TuffXwin.Lib.FileTree
import TuffXwin.Lib.Outcome
import TuffXwin.Screenshot.Artifact

/-! Saving a captured frame. The name of the file is made from the template of the
configuration, the file is created, and then the frame is encoded into it. What fails after
the file is created leaves the file as far as it got. -/

namespace TuffXwin.Screenshot
open Lib

variable {rest : List UInt8}

inductive CaptureTarget
  | fullscreen | activeWindow
  deriving DecidableEq, Repr

def CaptureTarget.asStr : CaptureTarget → String
  | .fullscreen => "fullscreen"
  | .activeWindow => "active-window"

inductive ScreenshotFormat
  | png | jpeg
  deriving DecidableEq, Repr

def ScreenshotFormat.extension : ScreenshotFormat → String
  | .png => "png"
  | .jpeg => "jpg"

def ScreenshotFormat.asStr : ScreenshotFormat → String
  | .png => "png"
  | .jpeg => "jpeg"

structure PngOptions where
  compressionLevel : Nat := 6
  deriving DecidableEq, Repr

def PngOptions.validate (png : PngOptions) : Except String Unit :=
  if png.compressionLevel > 9 then .error "png compression level must be in 0..=9" else .ok ()

structure JpegOptions where
  quality : Nat := 90
  deriving DecidableEq, Repr

def JpegOptions.validate (jpeg : JpegOptions) : Except String Unit :=
  if 1 ≤ jpeg.quality ∧ jpeg.quality ≤ 100 then .ok ()
  else .error "jpeg quality must be in 1..=100"

def validateFilenameComponent (value : List Char) : Except String Unit :=
  if value.all isWhitespace then .error "filename template must not be empty"
  else if value = ['.'] ∨ value = ['.', '.'] then
    .error "filename template must not resolve to a traversal segment"
  else if isAbsolute value then .error "filename template must not be absolute"
  else if value.any fun ch => ch = '/' ∨ ch = '\\' ∨ ch = '\x00' then
    .error "filename template must not contain path separators"
  else if String.utf8Len value > 255 then
    .error "filename template must be 255 bytes or less"
  else .ok ()

/-- `str::replace`; `skip` characters of an occurrence are still to be passed over. -/
def replaceFrom (pattern replacement : List Char) : Nat → List Char → List Char
  | _, [] => []
  | skip + 1, _ :: rest => replaceFrom pattern replacement skip rest
  | 0, c :: rest =>
    if pattern.isPrefixOf (c :: rest) then
      replacement ++ replaceFrom pattern replacement (pattern.length - 1) rest
    else c :: replaceFrom pattern replacement 0 rest

def replace (text : List Char) (pattern replacement : String) : List Char :=
  replaceFrom pattern.toList replacement.toList 0 text

structure FilenameTemplate where
  text : List Char := "xwin-{target}-{timestamp}".toList
  deriving DecidableEq, Repr

def FilenameTemplate.validate (template : FilenameTemplate) : Except String Unit :=
  validateFilenameComponent template.text

/-- `now` is the time since the epoch in milliseconds, if the clock is past it. -/
def FilenameTemplate.render (template : FilenameTemplate) (target : CaptureTarget)
    (format : ScreenshotFormat) (sequence : Nat) (now : Option Nat) : Except String (List Char) :=
  template.validate >>= fun _ =>
  let timestamp := now.getD 0
  let rendered := replace template.text "\x7btarget\x7d" target.asStr
  let rendered := replace rendered "\x7bformat\x7d" format.asStr
  let rendered := replace rendered "\x7bsequence\x7d" (toString sequence)
  let rendered := replace rendered "\x7btimestamp\x7d" (toString timestamp)
  validateFilenameComponent rendered >>= fun _ => .ok rendered

structure ScreenshotConfig where
  hotkey : String := "PrintScreen"
  saveDir : PathBuf := "screenshots".toList
  captureTarget : CaptureTarget := .fullscreen
  format : ScreenshotFormat := .png
  png : PngOptions := {}
  jpeg : JpegOptions := {}
  filenameTemplate : FilenameTemplate := {}
  deriving DecidableEq

namespace ScreenshotConfig

variable (config : ScreenshotConfig)

def validate : Except String Unit :=
  if isBlank config.hotkey then .error "hotkey must not be empty"
  else if config.saveDir = [] then .error "save_dir must not be empty"
  else
    config.png.validate >>= fun _ =>
    config.jpeg.validate >>= fun _ =>
    config.filenameTemplate.validate

def artifactFilename (sequence : Nat) (now : Option Nat) : Except String (List Char) :=
  config.filenameTemplate.render config.captureTarget config.format sequence now >>= fun stem =>
  .ok (stem ++ '.' :: config.format.extension.toList)

end ScreenshotConfig

/-! The directory and what is written to it. -/

inductive Compression
  | fast | default | best
  deriving DecidableEq, Repr

def mapPngCompression (level : Nat) : Compression :=
  if level ≤ 2 then .fast else if level ≤ 6 then .default else .best

/-- The encoders. A png ends with a chunk that is written when its writer is dropped. -/
structure Encoders where
  pngBody : Compression → Nat → Nat → List UInt8 → List UInt8
  pngEnd : List UInt8
  jpeg : Nat → List UInt8 → Nat → Nat → List UInt8

/-- The environment of a save: the calls that fail, and after how many bytes writing does. -/
structure Volume where
  createDirAll : Option String := none
  nameMax : Nat := 255
  create : Option String := none
  write : Option (Nat × String) := none

/-- The entries of `save_dir`. -/
abbrev SaveDir := List Char → Option Entry

abbrev Saving := EStateM String SaveDir

def bail {α : Type} : Except String α → Saving α
  | .ok a => pure a
  | .error e => throw e

def orFault : Option String → Saving Unit
  | none => pure ()
  | some e => throw e

def setFile (name : List Char) (bytes : List UInt8) (files : SaveDir) : SaveDir :=
  Function.update files name (some (.file bytes))

/-- `File::create`. -/
def createFile (volume : Volume) (name : List Char) : Saving Unit := do
  let files ← get
  if volume.nameMax < String.utf8Len name then throw "File name too long (os error 36)"
  else if files name = some .directory then throw "Is a directory (os error 21)"
  else
    orFault volume.create
    modify (setFile name [])

/-- Writes to the file, which holds `written`. -/
def writeAll (volume : Volume) (name : List Char) (written bytes : List UInt8) : Saving Unit :=
  match volume.write with
  | none => modify (setFile name (written ++ bytes))
  | some (limit, e) =>
    if (written ++ bytes).length ≤ limit then modify (setFile name (written ++ bytes))
    else do
      modify (setFile name ((written ++ bytes).take limit))
      throw e

def validateCapturedFrame (frame : CapturedFrame) : Except String Unit :=
  validateRgbaBufferSize frame.width frame.height frame.rgba.length

def rgbOf : List UInt8 → List UInt8
  | r :: g :: b :: _ :: rest => r :: g :: b :: rgbOf rest
  | _ => []

def rgbaToRgb (rgba : List UInt8) : Except String (List UInt8) :=
  if rgba.length % 4 ≠ 0 then .error "rgba buffer length must be divisible by 4"
  else .ok (rgbOf rgba)

section Save

variable (encoders : Encoders) (volume : Volume)

/-- What the drop of the writer fails with is lost. -/
def encodeRgbaPng (name : List Char) (frame : CapturedFrame) (compressionLevel : Nat) :
    Saving Unit := do
  bail (validateCapturedFrame frame)
  createFile volume name
  let body := encoders.pngBody (mapPngCompression compressionLevel) frame.width frame.height
    frame.rgba
  writeAll volume name [] body
  tryCatch (writeAll volume name body encoders.pngEnd) fun _ => pure ()

def encodeRgbaJpeg (name : List Char) (frame : CapturedFrame) (quality : Nat) : Saving Unit := do
  bail (validateCapturedFrame frame)
  createFile volume name
  let rgb ← bail (rgbaToRgb frame.rgba)
  if frame.width > 65535 then throw "jpeg width exceeds u16"
  else if frame.height > 65535 then throw "jpeg height exceeds u16"
  else writeAll volume name [] (encoders.jpeg quality rgb frame.width frame.height)

/-- `save_captured_frame` with the name that `artifact_path` joins to `save_dir`. -/
def saveCapturedFrame (config : ScreenshotConfig) (frame : CapturedFrame) (sequence : Nat)
    (now : Option Nat) : Saving PathBuf := do
  bail config.validate
  bail (validateCapturedFrame frame)
  orFault volume.createDirAll
  bail config.validate
  let filename ← bail (config.artifactFilename sequence now)
  match config.format with
  | .png => encodeRgbaPng encoders volume filename frame config.png.compressionLevel
  | .jpeg => encodeRgbaJpeg encoders volume filename frame config.jpeg.quality
  pure (joinName config.saveDir filename)

/-- The complete encoding of a frame. -/
def encoding (config : ScreenshotConfig) (frame : CapturedFrame) : List UInt8 :=
  match config.format with
  | .png =>
    encoders.pngBody (mapPngCompression config.png.compressionLevel) frame.width frame.height
      frame.rgba ++ encoders.pngEnd
  | .jpeg => encoders.jpeg config.jpeg.quality (rgbOf frame.rgba) frame.width frame.height

/-- The save has written the whole file, directly in `save_dir`, or it has touched nothing. -/
def AllOrNothing (config : ScreenshotConfig) (frame : CapturedFrame) (files : SaveDir) :
    EStateM.Result String SaveDir PathBuf → Prop
  | .ok path files' => ∃ name, IsFileName name ∧ path = joinName config.saveDir name ∧
      String.utf8Len name ≤ 255 ∧ files' name = some (.file (encoding encoders config frame))
  | .error _ files' => files' = files

/-! What a save comes to. -/

/-- The checks before the file is created pass, and it is created. -/
structure Creates (config : ScreenshotConfig) (frame : CapturedFrame) (sequence : Nat)
    (now : Option Nat) (files : SaveDir) (name : List Char) : Prop where
  valid : config.validate = .ok ()
  sized : validateCapturedFrame frame = .ok ()
  makesDir : volume.createDirAll = none
  named : config.artifactFilename sequence now = .ok name
  short : String.utf8Len name ≤ volume.nameMax
  notDirectory : files name ≠ some .directory
  creates : volume.create = none

/-- A jpeg with a side that a `u16` does not hold. -/
def TooWide (config : ScreenshotConfig) (frame : CapturedFrame) : Prop :=
  config.format = .jpeg ∧ (frame.width > 65535 ∨ frame.height > 65535)

/-- What writing leaves in the file, when it does not end. -/
def cut (bytes : List UInt8) : Option (List UInt8) :=
  volume.write.bind fun fault => if bytes.length ≤ fault.1 then none else some (bytes.take fault.1)

/-- What a save that fails after the file was created leaves in it. -/
def Leaves (config : ScreenshotConfig) (frame : CapturedFrame) (left : List UInt8) : Prop :=
  (TooWide config frame ∧ left = []) ∨
    (¬ TooWide config frame ∧ cut volume (encoding encoders config frame) = some left ∧
      (config.format = .png →
        left.length < (encoders.pngBody (mapPngCompression config.png.compressionLevel) frame.width
          frame.height frame.rgba).length))

/-- Once the file is created it is written whole, under a name of 255 bytes at most; or it was
there before, as the failing save leaves it. -/
def WritesWhole (config : ScreenshotConfig) (frame : CapturedFrame) (sequence : Nat)
    (now : Option Nat) (files : SaveDir) : Prop :=
  ∀ name, Creates volume config frame sequence now files name →
    (¬ TooWide config frame ∧ cut volume (encoding encoders config frame) = none ∧
      String.utf8Len name ≤ 255) ∨
    ∃ left, Leaves encoders volume config frame left ∧ files name = some (.file left)

/-- The save, from the created file on. -/
def fill (config : ScreenshotConfig) (frame : CapturedFrame) (name : List Char) : Saving Unit := do
  match config.format with
  | .png =>
    let body := encoders.pngBody (mapPngCompression config.png.compressionLevel) frame.width
      frame.height frame.rgba
    writeAll volume name [] body
    tryCatch (writeAll volume name body encoders.pngEnd) fun _ => pure ()
  | .jpeg =>
    let rgb ← bail (rgbaToRgb frame.rgba)
    if frame.width > 65535 then throw "jpeg width exceeds u16"
    else if frame.height > 65535 then throw "jpeg height exceeds u16"
    else writeAll volume name [] (encoders.jpeg config.jpeg.quality rgb frame.width frame.height)

variable {encoders volume} {config : ScreenshotConfig} {frame : CapturedFrame} {sequence : Nat}
  {now : Option Nat} {files : SaveDir} {name : List Char} {bytes left : List UInt8}

theorem bail_bind {α β : Type} (a : α) (f : α → Saving β) : (bail (.ok a) >>= f) = f a := rfl

theorem setFile_setFile : setFile name left (setFile name bytes files) = setFile name left files :=
  Function.update_idem _ _ _

@[simp] theorem setFile_name : setFile name bytes files name = some (.file bytes) :=
  Function.update_self _ _ _

theorem setFile_eq_iff : setFile name bytes files = files ↔ files name = some (.file bytes) := by
  constructor
  · intro h
    rw [← h, setFile_name]
  · intro h
    unfold setFile
    rw [← h, Function.update_eq_self]

theorem createFile_run (volume : Volume) (name : List Char) (files : SaveDir) :
    createFile volume name files =
    if volume.nameMax < String.utf8Len name then .error "File name too long (os error 36)" files
    else if files name = some .directory then .error "Is a directory (os error 21)" files
    else match volume.create with
      | none => .ok () (setFile name [] files)
      | some e => .error e files := by
  unfold createFile
  rw [bind_get]
  split_ifs
  · rfl
  · rfl
  · cases volume.create <;> rfl

theorem writeAll_whole (name : List Char) (files : SaveDir) (written : List UInt8)
    (h : cut volume (written ++ bytes) = none) :
    writeAll volume name written bytes files = .ok () (setFile name (written ++ bytes) files) := by
  unfold writeAll
  cases hwrite : volume.write with
  | none => rfl
  | some fault =>
    have hlen : (written ++ bytes).length ≤ fault.1 := by
      by_contra hlong
      simp only [cut, hwrite, Option.bind_some, if_neg hlong] at h
      cases h
    simp only [if_pos hlen]
    rfl

theorem writeAll_cut (name : List Char) (files : SaveDir) (written : List UInt8)
    (h : cut volume (written ++ bytes) = some left) :
    ∃ e, writeAll volume name written bytes files = .error e (setFile name left files) := by
  unfold writeAll
  obtain ⟨fault, hwrite, hleft⟩ := Option.bind_eq_some_iff.mp h
  split_ifs at hleft with hlen
  injection hleft with hleft
  subst hleft
  rw [hwrite]
  refine ⟨fault.2, ?_⟩
  simp only [if_neg hlen]
  rfl

/-- A prefix of what is written whole is. -/
theorem cut_append (h : cut volume (bytes ++ rest) = none) : cut volume bytes = none := by
  unfold cut at h ⊢
  cases hwrite : volume.write with
  | none => rfl
  | some fault =>
    simp only [hwrite, Option.bind_some] at h ⊢
    split_ifs at h with hlong
    rw [List.length_append] at hlong
    rw [if_pos (by omega)]

theorem cut_length (h : cut volume bytes = some left) : left.length < bytes.length := by
  obtain ⟨fault, -, hleft⟩ := Option.bind_eq_some_iff.mp h
  split_ifs at hleft with hlen
  injection hleft with hleft
  rw [← hleft, List.length_take]
  omega

/-- Writing stops within the first piece, or the first piece is written whole. -/
theorem cut_first (h : cut volume (bytes ++ rest) = some left) :
    cut volume bytes = if left.length < bytes.length then some left else none := by
  obtain ⟨fault, hwrite, hleft⟩ := Option.bind_eq_some_iff.mp h
  split_ifs at hleft with hlong
  injection hleft with hleft
  rw [List.length_append] at hlong
  have hlimit : left.length = fault.1 := by
    rw [← hleft, List.length_take, List.length_append]
    omega
  rw [hlimit]
  simp only [cut, hwrite, Option.bind_some]
  by_cases hfirst : fault.1 < bytes.length
  · rw [if_neg (not_le.mpr hfirst), if_pos hfirst, ← hleft, List.take_append_of_le_length hfirst.le]
  · rw [if_pos (not_lt.mp hfirst), if_neg hfirst]

/-- Before the file is created, nothing is touched. -/
theorem saveCapturedFrame_cases (encoders : Encoders) (volume : Volume) (config : ScreenshotConfig)
    (frame : CapturedFrame) (sequence : Nat) (now : Option Nat) (files : SaveDir) :
    ((∀ name, ¬ Creates volume config frame sequence now files name) ∧
      ∃ e, saveCapturedFrame encoders volume config frame sequence now files = .error e files) ∨
    ∃ name, Creates volume config frame sequence now files name ∧
      saveCapturedFrame encoders volume config frame sequence now files =
        (fill encoders volume config frame name >>= fun _ => pure (joinName config.saveDir name))
          (setFile name [] files) := by
  cases hvalid : config.validate with
  | error e =>
    refine .inl ⟨fun name h => (by cases hvalid.symm.trans h.valid), e, ?_⟩
    rw [saveCapturedFrame, hvalid]
    rfl
  | ok u =>
  cases hsized : validateCapturedFrame frame with
  | error e =>
    refine .inl ⟨fun name h => (by cases hsized.symm.trans h.sized), e, ?_⟩
    rw [saveCapturedFrame, hvalid, hsized]
    rfl
  | ok u =>
  cases hdir : volume.createDirAll with
  | some e =>
    refine .inl ⟨fun name h => (by cases hdir.symm.trans h.makesDir), e, ?_⟩
    rw [saveCapturedFrame, hvalid, hsized, hdir]
    rfl
  | none =>
  cases hnamed : config.artifactFilename sequence now with
  | error e =>
    refine .inl ⟨fun name h => (by cases hnamed.symm.trans h.named), e, ?_⟩
    rw [saveCapturedFrame, hvalid, hsized, hdir, hnamed]
    rfl
  | ok name =>
  have hsave : saveCapturedFrame encoders volume config frame sequence now files =
      (createFile volume name >>= fun _ => fill encoders volume config frame name >>= fun _ =>
        pure (joinName config.saveDir name)) files := by
    rw [saveCapturedFrame, hvalid, hsized, hdir, hnamed]
    unfold fill
    cases hformat : config.format <;>
      simp only [encodeRgbaPng, encodeRgbaJpeg, hsized, bail_bind, orFault, pure_bind, bind_assoc]
  have hcreate := createFile_run volume name files
  by_cases hcreates : Creates volume config frame sequence now files name
  · rw [if_neg (not_lt.mpr hcreates.short), if_neg hcreates.notDirectory, hcreates.creates]
      at hcreate
    exact .inr ⟨name, hcreates, hsave.trans (bind_of_ok hcreate)⟩
  · refine .inl ⟨fun name' h => ?_, ?_⟩
    · cases hnamed.symm.trans h.named
      exact hcreates h
    · split_ifs at hcreate with hlong hdirectory
      · exact ⟨_, hsave.trans (bind_of_error hcreate)⟩
      · exact ⟨_, hsave.trans (bind_of_error hcreate)⟩
      · cases hfault : volume.create with
        | none =>
          exact absurd ⟨hvalid, hsized, hdir, hnamed, not_lt.mp hlong, hdirectory, hfault⟩ hcreates
        | some e =>
          rw [hfault] at hcreate
          exact ⟨e, hsave.trans (bind_of_error hcreate)⟩

/-- A validated frame is made of whole pixels. -/
theorem rgbaToRgb_sized (h : validateCapturedFrame frame = .ok ()) :
    rgbaToRgb frame.rgba = .ok (rgbOf frame.rgba) := by
  have hwhole : frame.rgba.length % 4 = 0 := by
    unfold validateCapturedFrame validateRgbaBufferSize at h
    split_ifs at h
    split at h
    · cases h
    · rename_i expected hexpected
      obtain ⟨pixels, -, hbytes⟩ := Option.bind_eq_some_iff.mp hexpected
      obtain ⟨-, rfl⟩ := u32Checked_eq_some.mp hbytes
      split_ifs at h with hlen
      rw [not_not] at hlen
      omega
  exact if_neg fun hne => hne hwhole

theorem fill_whole (name : List Char) (files : SaveDir)
    (hsized : validateCapturedFrame frame = .ok ())
    (hwide : ¬ TooWide config frame) (hcut : cut volume (encoding encoders config frame) = none) :
    fill encoders volume config frame name (setFile name [] files) =
      .ok () (setFile name (encoding encoders config frame) files) := by
  unfold fill encoding at *
  cases hformat : config.format with
  | png =>
    rw [hformat] at hcut
    simp only at hcut ⊢
    rw [bind_of_ok (writeAll_whole name _ [] (cut_append hcut)), setFile_setFile,
      List.nil_append]
    change EStateM.tryCatch _ _ _ = _
    unfold EStateM.tryCatch
    rw [writeAll_whole name _ _ hcut, setFile_setFile]
  | jpeg =>
    rw [hformat] at hcut
    have hsides : ¬ (frame.width > 65535 ∨ frame.height > 65535) := fun h => hwide ⟨hformat, h⟩
    rw [not_or] at hsides
    simp only [rgbaToRgb_sized hsized, bail_bind, if_neg hsides.1, if_neg hsides.2]
    rw [writeAll_whole name _ [] hcut, setFile_setFile,
      List.nil_append]

theorem fill_leaves (name : List Char) (files : SaveDir)
    (hsized : validateCapturedFrame frame = .ok ())
    (hleft : Leaves encoders volume config frame left) :
    ∃ e, fill encoders volume config frame name (setFile name [] files) =
      .error e (setFile name left files) := by
  unfold fill
  rcases hleft with ⟨⟨hformat, hsides⟩, rfl⟩ | ⟨hwide, hcut, hbody⟩
  · rw [hformat]
    simp only [rgbaToRgb_sized hsized, bail_bind]
    by_cases hwidth : frame.width > 65535
    · exact ⟨_, by rw [if_pos hwidth]; rfl⟩
    · exact ⟨_, by rw [if_neg hwidth, if_pos (hsides.resolve_left hwidth)]; rfl⟩
  · unfold encoding at hcut
    cases hformat : config.format with
    | png =>
      rw [hformat] at hcut
      have hfirst := cut_first hcut
      rw [if_pos (hbody hformat)] at hfirst
      obtain ⟨e, hwrite⟩ := writeAll_cut name (setFile name [] files) [] hfirst
      refine ⟨e, ?_⟩
      simp only
      rw [bind_of_error hwrite, setFile_setFile]
    | jpeg =>
      rw [hformat] at hcut
      have hsides : ¬ (frame.width > 65535 ∨ frame.height > 65535) := fun h => hwide ⟨hformat, h⟩
      rw [not_or] at hsides
      obtain ⟨e, hwrite⟩ := writeAll_cut name (setFile name [] files) [] hcut
      refine ⟨e, ?_⟩
      simp only [rgbaToRgb_sized hsized, bail_bind, if_neg hsides.1, if_neg hsides.2]
      rw [hwrite, setFile_setFile]

/-- A png without all of its last chunk is taken for a whole one. -/
theorem fill_unfinished (name : List Char) (files : SaveDir)
    (hwide : ¬ TooWide config frame)
    (hcut : cut volume (encoding encoders config frame) = some left)
    (hleft : ¬ Leaves encoders volume config frame left) :
    fill encoders volume config frame name (setFile name [] files) =
      .ok () (setFile name left files) ∧
      left ≠ encoding encoders config frame := by
  have hshort := cut_length hcut
  refine ⟨?_, fun heq => absurd hshort (by rw [heq]; exact lt_irrefl _)⟩
  unfold fill
  cases hformat : config.format with
  | jpeg => exact absurd (.inr ⟨hwide, hcut, fun hpng => by cases hformat.symm.trans hpng⟩) hleft
  | png =>
    have hbody : ¬ left.length < (encoders.pngBody (mapPngCompression config.png.compressionLevel)
        frame.width frame.height frame.rgba).length :=
      fun hlt => hleft (.inr ⟨hwide, hcut, fun _ => hlt⟩)
    unfold encoding at hcut
    rw [hformat] at hcut
    have hfirst := cut_first hcut
    rw [if_neg hbody] at hfirst
    obtain ⟨e, hend⟩ := writeAll_cut name
      (setFile name (encoders.pngBody (mapPngCompression config.png.compressionLevel) frame.width
        frame.height frame.rgba) files) _ hcut
    simp only
    rw [bind_of_ok (writeAll_whole name _ [] hfirst), setFile_setFile, List.nil_append]
    change EStateM.tryCatch _ _ _ = _
    unfold EStateM.tryCatch
    rw [hend, setFile_setFile]
    rfl

/-- The stem and its extension make the name of an entry. -/
theorem isFileName_artifactFilename (h : config.artifactFilename sequence now = .ok name) :
    IsFileName name := by
  obtain ⟨stem, hstem, hname⟩ := bind_eq_ok.mp h
  injection hname with hname
  obtain ⟨-, hrendered⟩ := check_eq_ok.mp hstem
  obtain ⟨hvalid, hrendered⟩ := check_eq_ok.mp hrendered
  injection hrendered with hrendered
  rw [hrendered] at hvalid
  unfold validateFilenameComponent at hvalid
  split_ifs at hvalid with hblank hdots habsolute hseparator
  simp only [List.any_eq_true, decide_eq_true_eq, not_exists, not_and, not_or] at hseparator
  have hextension : ∀ c ∈ '.' :: config.format.extension.toList, c ≠ '/' ∧ c ≠ '\x00' := by
    cases config.format <;> simp [ScreenshotFormat.extension]
  have hlong : 2 < ('.' :: config.format.extension.toList).length := by
    cases config.format <;> simp [ScreenshotFormat.extension]
  have hlength := congrArg List.length hname
  rw [List.length_append] at hlength
  refine ⟨fun hnil => ?_, fun hdot => ?_, fun hparent => ?_, fun hslash => ?_, fun hnul => ?_⟩
  · rw [hnil, List.length_nil] at hlength
    omega
  · rw [hdot, List.length_singleton] at hlength
    omega
  · rw [hparent] at hlength
    simp only [List.length_cons, List.length_nil] at hlength hlong
    omega
  · rw [← hname, List.mem_append] at hslash
    rcases hslash with hslash | hslash
    · exact (hseparator _ hslash).1 rfl
    · exact (hextension _ hslash).1 rfl
  · rw [← hname, List.mem_append] at hnul
    rcases hnul with hnul | hnul
    · exact (hseparator _ hnul).2.2 rfl
    · exact (hextension _ hnul).2 rfl

theorem joinName_inj {directory : PathBuf} {name name' : List Char}
    (h : joinName directory name = joinName directory name') : name = name' := by
  unfold joinName at h
  split_ifs at h
  · exact List.append_cancel_left h
  · exact List.tail_eq_of_cons_eq (List.append_cancel_left h)

theorem Leaves.unique {left' : List UInt8} (h : Leaves encoders volume config frame left)
    (h' : Leaves encoders volume config frame left') : left = left' := by
  rcases h with ⟨hwide, rfl⟩ | ⟨hwide, hcut, -⟩
  · rcases h' with ⟨-, rfl⟩ | ⟨hwide', -, -⟩
    · rfl
    · exact absurd hwide hwide'
  · rcases h' with ⟨hwide', -⟩ | ⟨-, hcut', -⟩
    · exact absurd hwide' hwide
    · exact Option.some.inj (hcut.symm.trans hcut')

/-- A save is all or nothing just when it writes the whole file once it has created it. -/
theorem saveCapturedFrame_allOrNothing_iff (encoders : Encoders) (volume : Volume)
    (config : ScreenshotConfig) (frame : CapturedFrame) (sequence : Nat) (now : Option Nat)
    (files : SaveDir) :
    AllOrNothing encoders config frame files
        (saveCapturedFrame encoders volume config frame sequence now files) ↔
      WritesWhole encoders volume config frame sequence now files := by
  rcases saveCapturedFrame_cases encoders volume config frame sequence now files with
    ⟨hnever, e, hrun⟩ | ⟨name, hcreates, hrun⟩
  · rw [hrun]
    exact ⟨fun _ name h => absurd h (hnever name), fun _ => rfl⟩
  · have honly : ∀ name', Creates volume config frame sequence now files name' → name' = name := by
      intro name' h
      cases hcreates.named.symm.trans h.named
      rfl
    have hfile : IsFileName name := isFileName_artifactFilename hcreates.named
    rw [hrun]
    by_cases hleaves : ∃ left, Leaves encoders volume config frame left
    · obtain ⟨left, hleft⟩ := hleaves
      obtain ⟨e, hfill⟩ := fill_leaves name files hcreates.sized hleft
      rw [bind_of_error hfill]
      change setFile name left files = files ↔ _
      rw [setFile_eq_iff]
      constructor
      · intro hsame name' hname'
        rw [honly name' hname']
        exact .inr ⟨left, hleft, hsame⟩
      · intro hwrites
        rcases hwrites name hcreates with ⟨hwide, hcut, -⟩ | ⟨left', hleft', hsame⟩
        · rcases hleft with ⟨hwide', -⟩ | ⟨-, hcut', -⟩
          · exact absurd hwide' hwide
          · cases hcut.symm.trans hcut'
        · rw [hleft.unique hleft']
          exact hsame
    · have hwide : ¬ TooWide config frame := fun hwide => hleaves ⟨[], .inl ⟨hwide, rfl⟩⟩
      cases hcut : cut volume (encoding encoders config frame) with
      | none =>
        rw [bind_of_ok (fill_whole name files hcreates.sized hwide hcut)]
        constructor
        · intro hall name' hname'
          rw [honly name' hname']
          obtain ⟨name'', -, hpath, hlong, -⟩ := hall
          rw [joinName_inj hpath]
          exact .inl ⟨hwide, hcut, hlong⟩
        · intro hwrites
          rcases hwrites name hcreates with ⟨-, -, hlong⟩ | ⟨left, hleft, -⟩
          · exact ⟨name, hfile, rfl, hlong, setFile_name⟩
          · exact absurd ⟨left, hleft⟩ hleaves
      | some left =>
        obtain ⟨hfill, hne⟩ := fill_unfinished name files hwide hcut
          fun hleft => hleaves ⟨left, hleft⟩
        rw [bind_of_ok hfill]
        constructor
        · intro hall
          obtain ⟨name', -, hpath, -, hwhole⟩ := hall
          rw [← joinName_inj hpath, setFile_name] at hwhole
          injection hwhole with hwhole
          injection hwhole with hwhole
          exact absurd hwhole hne
        · intro hwrites
          rcases hwrites name hcreates with ⟨-, hnone, -⟩ | ⟨left', hleft', -⟩
          · cases hnone.symm.trans hcut
          · exact absurd ⟨left', hleft'⟩ hleaves

/-- A strip of 65536 pixels, to be saved as a jpeg where an earlier picture is. -/
def wideFrame : CapturedFrame := ⟨65536, 1, List.replicate 262144 0⟩

def jpegConfig : ScreenshotConfig := { format := .jpeg, filenameTemplate := ⟨"shot".toList⟩ }

def savedShot : SaveDir := setFile "shot.jpg".toList [255, 216, 255, 217] fun _ => none

def rawEncoders : Encoders := ⟨fun _ _ _ rgba => rgba, [], fun _ rgb _ _ => rgb⟩

/-- The strip is refused, and the earlier picture is gone. -/
theorem wideFrame_empties : jpegConfig.validate = .ok () ∧
    savedShot "shot.jpg".toList = some (.file [255, 216, 255, 217]) ∧
    ∃ e files', saveCapturedFrame rawEncoders {} jpegConfig wideFrame 0 none savedShot =
        .error e files' ∧
      files' "shot.jpg".toList = some (.file []) ∧
      ¬ AllOrNothing rawEncoders jpegConfig wideFrame savedShot
        (saveCapturedFrame rawEncoders {} jpegConfig wideFrame 0 none savedShot) := by
  have hvalid : jpegConfig.validate = .ok () := by decide +kernel
  have hnamed : jpegConfig.artifactFilename 0 none = .ok "shot.jpg".toList := by decide +kernel
  have hsized : validateCapturedFrame wideFrame = .ok () := by
    have hlen : wideFrame.rgba.length = 262144 := List.length_replicate
    unfold validateCapturedFrame
    rw [hlen]
    decide +kernel
  have hbefore : savedShot "shot.jpg".toList = some (.file [255, 216, 255, 217]) := setFile_name
  have hcreates : Creates {} jpegConfig wideFrame 0 none savedShot "shot.jpg".toList :=
    ⟨hvalid, hsized, rfl, hnamed, by decide +kernel, by rw [hbefore]; decide, rfl⟩
  have hleaves : Leaves rawEncoders {} jpegConfig wideFrame [] :=
    .inl ⟨⟨rfl, .inl (by decide)⟩, rfl⟩
  obtain ⟨e, hfill⟩ := fill_leaves "shot.jpg".toList savedShot hsized hleaves
  rcases saveCapturedFrame_cases rawEncoders {} jpegConfig wideFrame 0 none savedShot with
    ⟨hnever, -⟩ | ⟨name, hname, hrun⟩
  · exact absurd hcreates (hnever _)
  · cases hnamed.symm.trans hname.named
    rw [bind_of_error hfill] at hrun
    refine ⟨hvalid, hbefore, e, _, hrun, setFile_name, ?_⟩
    rw [hrun]
    intro hall
    have hsame := setFile_eq_iff.mp hall
    rw [hbefore] at hsame
    cases hsame

end Save

end TuffXwin.Screenshot
