import TuffXwin.Common.ArtifactPath
import TuffXwin.Common.IpcJson
import TuffXwin.Lib.ByteStream
import TuffXwin.Lib.Fold

/-! The screenshot client's side of a capture. An announcement of displayd is checked and
becomes an artifact; its file is opened below the allowed root, one component after the
other, and has to be as long as the picture that was announced. -/

namespace TuffXwin.Screenshot
open Lib

variable {disk : Disk}

def displaydScreenshotFormatRgba8888 : String := "RGBA8888"
def maxScreenshotArtifactBytes : Nat := 256 * 1024 * 1024

/-- What displayd says of a capture; the rest of its messages are their debug texts. -/
inductive CaptureEvent
  | outputCaptured (output : String) (width height : Nat) (format artifactPath : String)
  | rejected (reason : String)
  | other (text : String)
  deriving DecidableEq, Repr

structure DisplaydCaptureArtifact where
  output : String
  width : Nat
  height : Nat
  format : String
  artifactPath : PathBuf
  deriving DecidableEq

variable {artifact : DisplaydCaptureArtifact}

structure CapturedFrame where
  width : Nat
  height : Nat
  rgba : List UInt8
  deriving DecidableEq

/-- `char::is_whitespace`. -/
def isWhitespace (c : Char) : Bool :=
  (9 ≤ c.toNat && c.toNat ≤ 13) || (0x2000 ≤ c.toNat && c.toNat ≤ 0x200A) ||
    [0x20, 0x85, 0xA0, 0x1680, 0x2028, 0x2029, 0x202F, 0x205F, 0x3000].contains c.toNat

/-- `text.trim().is_empty()`. -/
def isBlank (text : String) : Bool := text.toList.all isWhitespace

def validateDisplaydArtifactFormat (format : String) : Except String Unit :=
  if isBlank format then .error "displayd capture artifact format must not be empty"
  else if format ≠ displaydScreenshotFormatRgba8888 then
    .error ("displayd screenshot artifact format must be " ++ displaydScreenshotFormatRgba8888 ++
      ", got " ++ format)
  else .ok ()

def DisplaydCaptureArtifact.new (output : String) (width height : Nat) (format : String)
    (artifactPath : PathBuf) : Except String DisplaydCaptureArtifact :=
  if isBlank output then .error "displayd capture artifact output must not be empty"
  else if width = 0 ∨ height = 0 then
    .error "displayd capture artifact dimensions must be non-zero"
  else
    validateDisplaydArtifactFormat format >>= fun _ =>
    if artifactPath = [] then .error "displayd capture artifact path must not be empty"
    else .ok ⟨output, width, height, format, artifactPath⟩

def decodeCaptureResponse (sourceRole : ServiceRole) (envelope : IpcEnvelope CaptureEvent) :
    Except String DisplaydCaptureArtifact :=
  if envelope.source ≠ .displayd then
    .error ("unexpected response source from displayd transport: " ++ envelope.source.asStr)
  else if envelope.destination ≠ sourceRole then
    .error ("unexpected response destination from displayd transport: " ++
      envelope.destination.asStr)
  else
    match envelope.kind with
    | .other (.outputCaptured output width height format artifactPath) =>
      DisplaydCaptureArtifact.new output width height format artifactPath.toList
    | .other (.rejected reason) => .error ("displayd rejected capture request: " ++ reason)
    | .other (.other text) => .error ("unexpected displayd response kind: " ++ text)
    | .displayCommand _ => .error "unexpected displayd response kind: DisplayCommand"

def validateRgbaBufferSize (width height byteLen : Nat) : Except String Unit :=
  if width = 0 ∨ height = 0 then .error "rgba buffer dimensions must be non-zero"
  else
    match (u32Checked (width * height)).bind fun pixels => u32Checked (pixels * 4) with
    | none => .error "rgba buffer size overflow"
    | some expected =>
      if expected ≠ byteLen then
        .error ("rgba buffer size mismatch: expected " ++ toString expected ++ ", got " ++
          toString byteLen)
      else .ok ()

def CapturedFrame.new (width height : Nat) (rgba : List UInt8) : Except String CapturedFrame :=
  validateRgbaBufferSize width height rgba.length >>= fun _ => .ok ⟨width, height, rgba⟩

def runUser : List Component :=
  [.rootDir, .normal ['r', 'u', 'n'], .normal ['u', 's', 'e', 'r']]

structure ArtifactRoot where
  path : PathBuf

def ArtifactRoot.new (disk : Disk) (path : PathBuf) : Except String ArtifactRoot :=
  if path = [] then .error "artifact root must not be empty"
  else if isAbsolute path = false then .error "artifact root must be absolute"
  else if (components path).any fun part => part = .parentDir ∨ part = .curDir then
    .error "artifact root must not contain traversal segments"
  else if runUser <+: components path then
    .error "artifact root under /run/user is not permitted"
  else
    match disk.canonicalize path with
    | none => .error ("failed to inspect artifact root " ++ .ofList path)
    | some canonicalPath =>
      if runUser <+: components canonicalPath then
        .error "artifact root under /run/user is not permitted"
      else .ok ⟨canonicalPath⟩

/-- Writing a file changes no root. -/
theorem ArtifactRoot.new_congr {disk' : Disk} (h : disk'.canonicalize = disk.canonicalize)
    (path : PathBuf) : ArtifactRoot.new disk' path = ArtifactRoot.new disk path := by
  simp only [ArtifactRoot.new, h]

theorem ArtifactRoot.new_path {path : PathBuf} {root : ArtifactRoot}
    (h : ArtifactRoot.new disk path = .ok root) : disk.canonicalize path = some root.path := by
  unfold ArtifactRoot.new at h
  split_ifs at h
  split at h
  · cases h
  · rename_i hcanonical
    split_ifs at h
    injection h with h
    rw [hcanonical, ← h]

structure FileCaptureArtifactReader where
  allowedRoot : ArtifactRoot

namespace FileCaptureArtifactReader

def new (disk : Disk) (allowedRoot : PathBuf) : Except String FileCaptureArtifactReader :=
  ArtifactRoot.new disk allowedRoot >>= fun root => .ok ⟨root⟩

variable (reader : FileCaptureArtifactReader) (disk : Disk)

def validateRelativeArtifactPath (artifactPath : PathBuf) : Except String Unit :=
  if artifactPath = [] then .error "artifact path must not be empty"
  else if isAbsolute artifactPath then
    .error "absolute artifact paths are not permitted in Phase2-A"
  else if (components artifactPath).all fun part => part matches .normal _ then .ok ()
  else .error "artifact path must be a simple relative path without traversal segments"

def expectedRgbaByteLen (width height : Nat) : Except String Nat :=
  match (usizeChecked (width * height)).bind fun pixels => usizeChecked (pixels * 4) with
  | none => .error "rgba artifact size overflow"
  | some expected =>
    if expected > maxScreenshotArtifactBytes then
      .error ("rgba artifact size " ++ toString expected ++ " exceeds limit of " ++
        toString maxScreenshotArtifactBytes ++ " bytes")
    else .ok expected

/-- `openat`, component by component; `opened` leads to the directory that is open. -/
def openComponents (opened : List (List Char)) : List Component → Except String Entry
  | .normal name :: rest =>
    if '\x00' ∈ name then .error "path component contains an embedded NUL byte"
    else
      match disk.entry reader.allowedRoot.path (opened ++ [name]), rest with
      | none, [] => .error "failed to open artifact file"
      | some entry, [] => .ok entry
      | some .directory, rest => openComponents (opened ++ [name]) rest
      | _, _ => .error "failed to open artifact directory component"
  | _ => .ok .directory

def openArtifact (artifactPath : PathBuf) : Except String Entry :=
  validateRelativeArtifactPath artifactPath >>= fun _ =>
  openComponents reader disk [] (components artifactPath)

def readFrame (artifact : DisplaydCaptureArtifact) : Except String CapturedFrame :=
  validateDisplaydArtifactFormat artifact.format >>= fun _ =>
  if artifact.width = 0 ∨ artifact.height = 0 then
    .error "displayd artifact dimensions must be non-zero"
  else
    expectedRgbaByteLen artifact.width artifact.height >>= fun expectedLen =>
    openArtifact reader disk artifact.artifactPath >>= fun entry =>
    match entry with
    | .directory => .error "displayd artifact path must point to a file"
    | .file rgba =>
      if rgba.length ≠ expectedLen then
        .error ("displayd artifact size mismatch: expected " ++ toString expectedLen ++ ", got " ++
          toString rgba.length)
      else
        validateRgbaBufferSize artifact.width artifact.height rgba.length >>= fun _ =>
        CapturedFrame.new artifact.width artifact.height rgba

variable {reader disk}

/-- A file of the allowed root is opened by the name that displayd announces. -/
theorem openArtifact_session {sessionInstanceId artifactName : List Char} {entry : Entry}
    (hentry : disk.entry reader.allowedRoot.path
      [sessionArtifactName sessionInstanceId artifactName] = some entry) :
    openArtifact reader disk (sessionArtifactName sessionInstanceId artifactName) =
      .ok entry := by
  have hnul : '\x00' ∉ sessionArtifactName sessionInstanceId artifactName := fun h =>
    absurd (sessionArtifactName_chars h) (by decide)
  have hcomponents := components_sessionArtifactName sessionInstanceId artifactName
  have hvalid : validateRelativeArtifactPath
      (sessionArtifactName sessionInstanceId artifactName) = .ok () := by
    obtain ⟨tail, htail⟩ := sessionArtifactName_cons sessionInstanceId artifactName
    have hne : sessionArtifactName sessionInstanceId artifactName ≠ [] := by simp [htail]
    have hrelative : isAbsolute (sessionArtifactName sessionInstanceId artifactName) = false := by
      rw [htail]
      rfl
    unfold validateRelativeArtifactPath
    rw [if_neg hne, hrelative, hcomponents]
    rfl
  unfold openArtifact
  rw [hvalid, ok_bind, hcomponents]
  unfold openComponents
  rw [if_neg hnul, List.nil_append, hentry]

theorem readFrame_ok {rgba : List UInt8}
    (hformat : artifact.format = displaydScreenshotFormatRgba8888)
    (hopen : openArtifact reader disk artifact.artifactPath = .ok (.file rgba))
    (hlen : rgba.length = artifact.width * artifact.height * 4) :
    reader.readFrame disk artifact = .ok ⟨artifact.width, artifact.height, rgba⟩ ↔
      artifact.width ≠ 0 ∧ artifact.height ≠ 0 ∧
        artifact.width * artifact.height * 4 ≤ maxScreenshotArtifactBytes := by
  have hu64 : u64Max = 18446744073709551615 := rfl
  have hu32 : u32Max = 4294967295 := rfl
  have hmax : maxScreenshotArtifactBytes = 268435456 := rfl
  have hknown : validateDisplaydArtifactFormat artifact.format = .ok () := by
    rw [hformat]
    decide +kernel
  unfold readFrame
  rw [hknown, ok_bind, hopen]
  constructor
  · intro h
    split_ifs at h with hzero
    rw [not_or] at hzero
    refine ⟨hzero.1, hzero.2, ?_⟩
    by_contra hlarge
    obtain ⟨expected, hexpected, -⟩ := bind_eq_ok.mp h
    unfold expectedRgbaByteLen at hexpected
    split at hexpected
    · cases hexpected
    · rename_i size hsize
      obtain ⟨pixels, hpixels, hbytes⟩ := Option.bind_eq_some_iff.mp hsize
      obtain ⟨-, rfl⟩ := usizeChecked_eq_some.mp hpixels
      obtain ⟨-, rfl⟩ := usizeChecked_eq_some.mp hbytes
      rw [if_pos (by omega)] at hexpected
      cases hexpected
  · intro ⟨hwidth, hheight, hsize⟩
    have hzero : ¬ (artifact.width = 0 ∨ artifact.height = 0) := by omega
    have hpixels : usizeChecked (artifact.width * artifact.height) =
        some (artifact.width * artifact.height) := usizeChecked_eq_some.mpr ⟨by omega, rfl⟩
    have hbytes : usizeChecked (artifact.width * artifact.height * 4) =
        some (artifact.width * artifact.height * 4) := usizeChecked_eq_some.mpr ⟨by omega, rfl⟩
    have hexpected : expectedRgbaByteLen artifact.width artifact.height =
        .ok (artifact.width * artifact.height * 4) := by
      unfold expectedRgbaByteLen
      rw [hpixels, Option.bind_some, hbytes]
      exact if_neg (by omega)
    have hpixels32 : u32Checked (artifact.width * artifact.height) =
        some (artifact.width * artifact.height) := u32Checked_eq_some.mpr ⟨by omega, rfl⟩
    have hbytes32 : u32Checked (artifact.width * artifact.height * 4) =
        some (artifact.width * artifact.height * 4) := u32Checked_eq_some.mpr ⟨by omega, rfl⟩
    have hbuffer : validateRgbaBufferSize artifact.width artifact.height rgba.length =
        .ok () := by
      unfold validateRgbaBufferSize
      rw [if_neg hzero, hpixels32, Option.bind_some, hbytes32, hlen]
      exact if_neg (fun h => h rfl)
    rw [if_neg hzero, hexpected, ok_bind, ok_bind]
    simp only [hlen, ne_eq, not_true, if_false]
    rw [← hlen, hbuffer, ok_bind]
    unfold CapturedFrame.new
    rw [hbuffer, ok_bind]

end FileCaptureArtifactReader

theorem decodeCaptureResponse_ok {sourceRole : ServiceRole} {output artifactPath : String}
    {width height : Nat} (hpath : artifactPath.toList ≠ []) :
    decodeCaptureResponse sourceRole ⟨.displayd, sourceRole,
        .other (.outputCaptured output width height "RGBA8888" artifactPath)⟩ = .ok artifact ↔
      ⟨output, width, height, "RGBA8888", artifactPath.toList⟩ = artifact ∧
        isBlank output = false ∧ width ≠ 0 ∧ height ≠ 0 := by
  have hknown : validateDisplaydArtifactFormat "RGBA8888" = .ok () := by decide +kernel
  simp only [decodeCaptureResponse, DisplaydCaptureArtifact.new, hknown, ne_eq, not_true, if_false,
    ok_bind, if_neg hpath]
  by_cases hzero : width = 0 ∨ height = 0
  · have hnot : ¬ (width ≠ 0 ∧ height ≠ 0) := by omega
    cases isBlank output <;> simp [hzero, hnot]
  · have hboth : width ≠ 0 ∧ height ≠ 0 := by omega
    cases isBlank output <;> simp [hboth]

end TuffXwin.Screenshot
