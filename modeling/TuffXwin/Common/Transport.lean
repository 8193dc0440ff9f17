import Mathlib.Data.String.Basic
import TuffXwin.Common.IpcJson
import TuffXwin.Common.PixelTransport
import TuffXwin.Lib.ByteStream
import TuffXwin.Lib.LittleEndian

/-! The stream format of the services. A message is a line of JSON, or a binary frame
when it is a scene with pixel payloads: a marker byte, a fixed header, the attachment
lengths, the JSON of the scene without its pixels, and the pixels of each payload. -/

namespace TuffXwin
open Lib

def maxIpcJsonLineBytes : Nat := 64 * 1024
def maxIpcFrameMetadataBytes : Nat := 16 * 1024 * 1024
def maxIpcBinaryAttachments : Nat := 4096
def maxIpcBinaryAttachmentBytes : Nat := 64 * 1024 * 1024
def maxIpcBinaryTotalBytes : Nat := 256 * 1024 * 1024
def ipcFrameMarker : UInt8 := 0x1e
def ipcFrameMagic : List UInt8 := [0x58, 0x57, 0x33, 0x46]
def ipcFrameVersion : UInt8 := 1
def ipcFrameFixedHeaderBytes : Nat := 24

def newline : UInt8 := 10

def utf8 (text : String) : List UInt8 := text.toUTF8.data.toList

def fromUtf8 (bytes : List UInt8) : Option String := String.fromUTF8? ⟨bytes.toArray⟩

theorem fromUtf8_utf8 (text : String) : fromUtf8 (utf8 text) = some text := by
  have hbytes : (⟨(utf8 text).toArray⟩ : ByteArray) = text.toUTF8 := by simp [utf8]
  rw [fromUtf8, hbytes, String.fromUTF8?, dif_pos (by simpa using text.isValidUTF8)]
  rfl

variable {κ : Type}

def serializeJsonBounded (S : Serde κ) (message : IpcEnvelope κ) (limit : Nat) :
    Except String (List UInt8) :=
  if (utf8 (S.toText message)).length > limit then .error "failed to serialize IPC message"
  else .ok (utf8 (S.toText message))

def sendJsonLine (S : Serde κ) (message : IpcEnvelope κ) : Sending UInt8 Unit := do
  let encoded ← check (serializeJsonBounded S message maxIpcJsonLineBytes)
  writeAll encoded "failed to write IPC message"
  writeAll [newline] "failed to write IPC newline delimiter"
  writeAll [] "failed to flush IPC message"

/-- One turn of the loop for each piece that the source shows. -/
def readBoundedJsonLine (line : List UInt8) :
    List (List UInt8) → Except String (List UInt8 × List (List UInt8))
  | [] =>
    .error (if line = [] then "unexpected EOF while reading IPC message"
      else "unexpected EOF before IPC newline delimiter")
  | piece :: rest =>
    if piece = [] then readBoundedJsonLine line rest
    else
      let taken := piece.takeWhile (· ≠ newline)
      if line.length + taken.length > u64Max then .error "IPC message length overflow"
      else if line.length + taken.length > maxIpcJsonLineBytes then
        .error ("IPC message exceeds " ++ toString maxIpcJsonLineBytes ++ " bytes")
      else
        match piece.dropWhile (· ≠ newline) with
        | [] => readBoundedJsonLine (line ++ taken) rest
        | _ :: after => .ok (line ++ taken, after :: rest)

def readJsonLine (S : Serde κ) : Decoder UInt8 String (IpcEnvelope κ) := do
  let line ← (readBoundedJsonLine [] : Decoder UInt8 String (List UInt8))
  let text ← orBail (fromUtf8 line) "IPC message is not valid UTF-8"
  orBail (S.fromText text) "failed to decode IPC message"

def displayCommandPixelPayloads : DisplayCommand → Option (List PixelTransportPayload)
  | .commitScene scene => some scene.pixelPayloads
  | .reconcileScene _ scene => some scene.pixelPayloads
  | _ => none

def envelopePixelPayloads (envelope : IpcEnvelope κ) : Option (List PixelTransportPayload) :=
  match envelope.kind with
  | .displayCommand command => displayCommandPixelPayloads command
  | .other _ => none

/-- Writing through `display_command_pixel_payloads`. -/
def DisplayCommand.withPixelPayloads (payloads : List PixelTransportPayload) :
    DisplayCommand → DisplayCommand
  | .commitScene scene => .commitScene { scene with pixelPayloads := payloads }
  | .reconcileScene epoch scene => .reconcileScene epoch { scene with pixelPayloads := payloads }
  | command => command

/-- Writing through `envelope_pixel_payloads_mut`. -/
def IpcEnvelope.withPixelPayloads (envelope : IpcEnvelope κ)
    (payloads : List PixelTransportPayload) : IpcEnvelope κ :=
  match envelope.kind with
  | .displayCommand command =>
    { envelope with kind := .displayCommand (command.withPixelPayloads payloads) }
  | .other _ => envelope

def metadataOnlyPayload (payload : PixelTransportPayload) : PixelTransportPayload :=
  { payload with pixels := [] }

def displayCommandWithoutPixelBytes : DisplayCommand → DisplayCommand
  | .commitScene scene =>
    .commitScene { scene with pixelPayloads := scene.pixelPayloads.map metadataOnlyPayload }
  | .reconcileScene epoch scene =>
    .reconcileScene epoch
      { scene with pixelPayloads := scene.pixelPayloads.map metadataOnlyPayload }
  | command => command

def expectedPixelPayloadBytes (payload : PixelTransportPayload) : Except String Nat :=
  if payload.width = 0 ∨ payload.height = 0 then
    .error "framed PixelTransport payload dimensions must be non-zero"
  else if payload.width * 4 > u32Max then .error "framed PixelTransport stride overflow"
  else if payload.stride < payload.width * 4 then
    .error "framed PixelTransport stride is smaller than 32-bit pixel width"
  else if payload.stride * payload.height > u64Max then
    .error "framed PixelTransport byte length overflow"
  else if payload.stride * payload.height > maxIpcBinaryAttachmentBytes then
    .error ("framed PixelTransport attachment exceeds " ++ toString maxIpcBinaryAttachmentBytes ++
      " bytes")
  else .ok (payload.stride * payload.height)

/-- One turn of the sender's loop; the lengths so far and their sum. -/
def addAttachment (lengths : List Nat × Nat) (payload : PixelTransportPayload) :
    Except String (List Nat × Nat) := do
  let expected ← expectedPixelPayloadBytes payload
  bailIf (payload.pixels.length ≠ expected)
    ("framed PixelTransport payload byte length mismatch for " ++ payload.handle.surfaceId ++
      ": " ++ toString payload.pixels.length ++ " != " ++ toString expected)
  bailIf (lengths.2 + expected > u64Max) "IPC binary attachment byte accounting overflow"
  bailIf (lengths.2 + expected > maxIpcBinaryTotalBytes)
    ("IPC binary attachment bytes exceed " ++ toString maxIpcBinaryTotalBytes)
  pure (lengths.1 ++ [expected], lengths.2 + expected)

def frameHeader (metadataLen attachmentCount totalBytes : Nat) : List UInt8 :=
  ipcFrameMagic ++ [ipcFrameVersion, 0] ++ toLittleEndian 2 0 ++ toLittleEndian 4 metadataLen ++
    toLittleEndian 4 attachmentCount ++ toLittleEndian 8 totalBytes

def writeFramedSceneEnvelope (S : Serde κ) (metadata : IpcEnvelope κ)
    (payloads : List PixelTransportPayload) : Sending UInt8 Unit := do
  bailIf (payloads.length > maxIpcBinaryAttachments) (WriteError.rejected
    ("IPC binary attachment count exceeds " ++ toString maxIpcBinaryAttachments))
  let (attachmentLengths, totalBytes) ← check (payloads.foldlM addAttachment ([], 0))
  let metadataBytes ← check (serializeJsonBounded S metadata maxIpcFrameMetadataBytes)
  bailIf (metadataBytes.length > u32Max)
    (WriteError.rejected "IPC frame metadata length does not fit u32")
  bailIf (attachmentLengths.length > u32Max)
    (WriteError.rejected "IPC attachment count does not fit u32")
  writeAll [ipcFrameMarker] "failed to write IPC frame marker"
  writeAll (frameHeader metadataBytes.length attachmentLengths.length totalBytes)
    "failed to write IPC frame header"
  attachmentLengths.forM fun length =>
    writeAll (toLittleEndian 8 length) "failed to write IPC attachment length"
  writeAll metadataBytes "failed to write IPC frame metadata"
  payloads.forM fun payload => writeAll payload.pixels "failed to write IPC binary attachment"
  writeAll [] "failed to flush framed IPC message"

def sendIpcDisplayCommand (S : Serde κ) (source destination : ServiceRole)
    (command : DisplayCommand) : Sending UInt8 Unit :=
  match displayCommandPixelPayloads command with
  | none => sendJsonLine S ⟨source, destination, .displayCommand command⟩
  | some payloads =>
    writeFramedSceneEnvelope S
      ⟨source, destination, .displayCommand (displayCommandWithoutPixelBytes command)⟩ payloads

def sendIpcEnvelope (S : Serde κ) (message : IpcEnvelope κ) : Sending UInt8 Unit :=
  match message.kind with
  | .displayCommand command =>
    match displayCommandPixelPayloads command with
    | some payloads =>
      writeFramedSceneEnvelope S
        ⟨message.source, message.destination,
          .displayCommand (displayCommandWithoutPixelBytes command)⟩ payloads
    | none => sendJsonLine S message
  | .other _ => sendJsonLine S message

/-- The receiver's loop over the attachment lengths. -/
def readAttachmentLengths : Nat → List Nat → Nat → Decoder UInt8 String (List Nat × Nat)
  | 0, lengths, sum => pure (lengths, sum)
  | n + 1, lengths, sum => do
    let encoded ← readExact 8 "unexpected EOF while reading IPC attachment length"
    let length := ofLittleEndian encoded
    bailIf (length > maxIpcBinaryAttachmentBytes)
      ("IPC binary attachment exceeds " ++ toString maxIpcBinaryAttachmentBytes ++ " bytes")
    bailIf (sum + length > u64Max) "IPC binary attachment length overflow"
    bailIf (sum + length > maxIpcBinaryTotalBytes)
      ("IPC binary attachment bytes exceed " ++ toString maxIpcBinaryTotalBytes)
    readAttachmentLengths n (lengths ++ [length]) (sum + length)

def readFrameHeader : Decoder UInt8 String (Nat × List Nat × Nat) := do
  let header ← readExact ipcFrameFixedHeaderBytes "unexpected EOF while reading IPC frame header"
  bailIf (header.take 4 ≠ ipcFrameMagic) "invalid IPC frame magic"
  bailIf (header.getD 4 0 ≠ ipcFrameVersion)
    ("unsupported IPC frame version " ++ toString (header.getD 4 0))
  bailIf (header.getD 5 0 ≠ 0 ∨ header.getD 6 0 ≠ 0 ∨ header.getD 7 0 ≠ 0)
    "unsupported IPC frame flags"
  let metadataLen := ofLittleEndian ((header.drop 8).take 4)
  let attachmentCount := ofLittleEndian ((header.drop 12).take 4)
  let totalBytes := ofLittleEndian ((header.drop 16).take 8)
  bailIf (metadataLen > maxIpcFrameMetadataBytes)
    ("IPC frame metadata exceeds " ++ toString maxIpcFrameMetadataBytes ++ " bytes")
  bailIf (attachmentCount > maxIpcBinaryAttachments)
    ("IPC binary attachment count exceeds " ++ toString maxIpcBinaryAttachments)
  bailIf (totalBytes > maxIpcBinaryTotalBytes)
    ("IPC binary attachment bytes exceed " ++ toString maxIpcBinaryTotalBytes)
  let (lengths, sum) ← readAttachmentLengths attachmentCount [] 0
  bailIf (sum ≠ totalBytes) "IPC frame attachment total does not match declared total"
  pure (metadataLen, lengths, sum)

/-- The receiver's loop over the payloads, zipped with the declared lengths. -/
def readAttachments : List PixelTransportPayload → List Nat →
    Decoder UInt8 String (List PixelTransportPayload)
  | payload :: payloads, declaredLen :: lengths => do
    bailIf (payload.pixels ≠ []) "IPC frame metadata must not contain inline pixel bytes"
    let expected ← (liftM (expectedPixelPayloadBytes payload) : Decoder UInt8 String Nat)
    bailIf (declaredLen ≠ expected)
      ("IPC frame attachment length mismatch for " ++ payload.handle.surfaceId ++ ": " ++
        toString declaredLen ++ " != " ++ toString expected)
    let pixels ← readExact declaredLen
      ("unexpected EOF while reading IPC attachment for " ++ payload.handle.surfaceId)
    let others ← readAttachments payloads lengths
    pure ({ payload with pixels := pixels } :: others)
  | payloads, _ => pure payloads

def readFramedIpcEnvelope (S : Serde κ) : Decoder UInt8 String (IpcEnvelope κ) := do
  let (metadataLen, attachmentLengths, _) ← readFrameHeader
  let metadata ← readExact metadataLen "unexpected EOF while reading IPC frame metadata"
  let envelope ← orBail ((fromUtf8 metadata).bind S.fromText)
    "failed to decode IPC frame metadata"
  let payloads ← orBail (envelopePixelPayloads envelope) "IPC binary frame is not a scene command"
  bailIf (payloads.length ≠ attachmentLengths.length)
    ("IPC frame attachment count " ++ toString attachmentLengths.length ++
      " does not match scene payload count " ++ toString payloads.length)
  let payloads ← readAttachments payloads attachmentLengths
  pure (envelope.withPixelPayloads payloads)

def readIpcEnvelope (S : Serde κ) : Decoder UInt8 String (IpcEnvelope κ) := do
  let first ← peek "unexpected EOF while reading IPC message"
  if first ≠ ipcFrameMarker then readJsonLine S
  else do
    modify consumeOne
    readFramedIpcEnvelope S

end TuffXwin
