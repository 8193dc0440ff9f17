import TuffXwin.Common.Transport

/-! What the sender accepts and the bytes it writes for it: a message either fits its
encoding and is written whole, or is rejected before the first byte. -/

namespace TuffXwin
open Lib

variable {κ : Type}
variable {p : PixelTransportPayload} {limit : Nat}
variable {payloads : List PixelTransportPayload}
variable {S : Serde κ} {message : IpcEnvelope κ}

structure PixelTransportPayload.Attachable (p : PixelTransportPayload) : Prop where
  wellFormed : p.WellFormed
  bytes_le : p.pixels.length ≤ maxIpcBinaryAttachmentBytes

/-- Both ends derive the length of an attachment from the geometry alone. -/
theorem expectedPixelPayloadBytes_metadataOnly (p : PixelTransportPayload) :
    expectedPixelPayloadBytes (metadataOnlyPayload p) = expectedPixelPayloadBytes p := rfl

theorem expectedPixelPayloadBytes_ok {n : Nat} :
    (expectedPixelPayloadBytes p = .ok n ∧ p.pixels.length = n) ↔
      p.Attachable ∧ n = p.pixels.length := by
  constructor
  · rintro ⟨h, hlength⟩
    unfold expectedPixelPayloadBytes at h
    split_ifs at h with h0 h1 h2 h3 h4
    simp only [Except.ok.injEq] at h
    exact ⟨⟨⟨by omega, by omega, by omega, by omega, by omega, by omega⟩, by omega⟩, hlength.symm⟩
  · rintro ⟨⟨hformed, hle⟩, hlength⟩
    have hsize := hformed.length
    have hwidth := hformed.width_pos
    have hheight := hformed.height_pos
    have hbytes := hformed.width_le
    have hstride := hformed.stride
    have hmax := hformed.bytes_le
    refine ⟨?_, hlength.symm⟩
    rw [expectedPixelPayloadBytes, if_neg (by omega), if_neg (by omega), if_neg (by omega),
      if_neg (by omega), if_neg (by omega), hlength, hsize]

def attachmentSizes (payloads : List PixelTransportPayload) : List Nat :=
  payloads.map fun payload => payload.pixels.length

theorem addAttachment_ok {lengths lengths' : List Nat × Nat} :
    addAttachment lengths p = .ok lengths' ↔
      p.Attachable ∧ lengths.2 + p.pixels.length ≤ maxIpcBinaryTotalBytes ∧
        lengths' = (lengths.1 ++ [p.pixels.length], lengths.2 + p.pixels.length) := by
  have hmax : maxIpcBinaryTotalBytes ≤ u64Max := by decide
  unfold addAttachment
  cases hexpected : expectedPixelPayloadBytes p with
  | error reason =>
    constructor
    · intro h
      cases h
    · rintro ⟨hattachable, -, -⟩
      have hok := (expectedPixelPayloadBytes_ok.mpr ⟨hattachable, rfl⟩).1
      rw [hexpected] at hok
      cases hok
  | ok expected =>
    rw [ok_bind, bailIf_bind_ok, bailIf_bind_ok, bailIf_bind_ok]
    constructor
    · rintro ⟨hsize, -, htotal, h⟩
      obtain ⟨hattachable, rfl⟩ := expectedPixelPayloadBytes_ok.mp ⟨hexpected, not_not.mp hsize⟩
      exact ⟨hattachable, by omega, (Except.ok.inj h).symm⟩
    · rintro ⟨hattachable, htotal, rfl⟩
      have hok := (expectedPixelPayloadBytes_ok.mpr ⟨hattachable, rfl⟩).1
      rw [hexpected] at hok
      cases hok
      exact ⟨by simp, by omega, by omega, rfl⟩

theorem attachments_ok {lengths : List Nat} {total : Nat} {result : List Nat × Nat}
    (htotal : total ≤ maxIpcBinaryTotalBytes) :
    payloads.foldlM addAttachment (lengths, total) = .ok result ↔
      (∀ p ∈ payloads, p.Attachable) ∧
        total + (attachmentSizes payloads).sum ≤ maxIpcBinaryTotalBytes ∧
        result = (lengths ++ attachmentSizes payloads,
          total + (attachmentSizes payloads).sum) := by
  induction payloads generalizing lengths total with
  | nil =>
    simp only [List.foldlM_nil, attachmentSizes, List.map_nil, List.sum_nil, List.append_nil]
    constructor
    · intro h
      simp only [pure, Except.pure, Except.ok.injEq] at h
      exact ⟨by simp, by omega, h.symm⟩
    · rintro ⟨-, -, rfl⟩
      rfl
  | cons p payloads ih =>
    simp only [List.foldlM_cons, bind, Except.bind]
    cases hstep : addAttachment (lengths, total) p with
    | error reason =>
      constructor
      · intro h
        cases h
      · rintro ⟨hall, hsum, -⟩
        have hle : total + p.pixels.length ≤ maxIpcBinaryTotalBytes := by
          simp only [attachmentSizes, List.map_cons, List.sum_cons] at hsum
          omega
        have hstep' : addAttachment (lengths, total) p = .ok _ :=
          addAttachment_ok.mpr ⟨hall p (by simp), hle, rfl⟩
        rw [hstep] at hstep'
        cases hstep'
    | ok next =>
      obtain ⟨hattachable, hle, rfl⟩ := addAttachment_ok.mp hstep
      simp only
      rw [ih hle]
      simp only [attachmentSizes, List.map_cons, List.sum_cons, List.mem_cons, forall_eq_or_imp,
        List.append_assoc, List.cons_append, List.nil_append, Nat.add_assoc]
      exact ⟨fun h => ⟨⟨hattachable, h.1⟩, h.2⟩, fun h => ⟨h.1.2, h.2⟩⟩

structure FrameFits (S : Serde κ) (metadata : IpcEnvelope κ)
    (payloads : List PixelTransportPayload) : Prop where
  count : payloads.length ≤ maxIpcBinaryAttachments
  attachable : ∀ p ∈ payloads, p.Attachable
  total : (attachmentSizes payloads).sum ≤ maxIpcBinaryTotalBytes
  metadata : (utf8 (S.toText metadata)).length ≤ maxIpcFrameMetadataBytes

def frameBytes (S : Serde κ) (metadata : IpcEnvelope κ)
    (payloads : List PixelTransportPayload) : List UInt8 :=
  [ipcFrameMarker] ++
    (frameHeader (utf8 (S.toText metadata)).length payloads.length
        (attachmentSizes payloads).sum ++
      ((attachmentSizes payloads).flatMap (toLittleEndian 8) ++
        (utf8 (S.toText metadata) ++
          payloads.flatMap PixelTransportPayload.pixels)))

theorem serializeJsonBounded_fits (h : (utf8 (S.toText message)).length ≤ limit) :
    serializeJsonBounded S message limit = .ok (utf8 (S.toText message)) :=
  if_neg (Nat.not_lt.mpr h)

theorem serializeJsonBounded_exceeds (h : ¬(utf8 (S.toText message)).length ≤ limit) :
    serializeJsonBounded S message limit = .error "failed to serialize IPC message" :=
  if_pos (Nat.lt_of_not_le h)

theorem writeFramedSceneEnvelope_writes {metadata : IpcEnvelope κ}
    (h : FrameFits S metadata payloads) :
    Writes (writeFramedSceneEnvelope S metadata payloads) (frameBytes S metadata payloads) := by
  have hfold : payloads.foldlM addAttachment ([], 0) =
      .ok (attachmentSizes payloads, (attachmentSizes payloads).sum) := by
    rw [attachments_ok (Nat.zero_le _)]
    exact ⟨h.attachable, by have := h.total; omega, by simp⟩
  have hcount := h.count
  have hmetadata := h.metadata
  have hsizes : (attachmentSizes payloads).length = payloads.length := by simp [attachmentSizes]
  have hu32 : maxIpcFrameMetadataBytes ≤ u32Max ∧ maxIpcBinaryAttachments ≤ u32Max := by decide
  unfold writeFramedSceneEnvelope
  rw [hfold, serializeJsonBounded_fits hmetadata]
  simp only [check, pure_bind]
  rw [bailIf_neg (by omega), bailIf_neg (by omega), bailIf_neg (by omega)]
  simp only [pure_bind, hsizes]
  have hpixels := (Writes.forM (fun payload : PixelTransportPayload =>
    Writes.writeAll payload.pixels "failed to write IPC binary attachment") payloads).bind
      (Writes.writeAll [] "failed to flush framed IPC message")
  rw [List.append_nil] at hpixels
  exact (Writes.writeAll _ _).bind ((Writes.writeAll _ _).bind
    ((Writes.forM (fun length => Writes.writeAll (toLittleEndian 8 length) _) _).bind
      ((Writes.writeAll _ _).bind hpixels)))

theorem writeFramedSceneEnvelope_rejects {metadata : IpcEnvelope κ}
    (h : ¬FrameFits S metadata payloads) :
    ∃ reason, writeFramedSceneEnvelope S metadata payloads = throw (.rejected reason) := by
  unfold writeFramedSceneEnvelope
  by_cases hcount : payloads.length > maxIpcBinaryAttachments
  · rw [bailIf_pos hcount]
    exact ⟨_, rfl⟩
  rw [bailIf_neg hcount]
  simp only [pure_bind]
  cases hfold : payloads.foldlM addAttachment ([], 0) with
  | error reason => exact ⟨reason, rfl⟩
  | ok lengths =>
    obtain ⟨hattachable, htotal, -⟩ := (attachments_ok (Nat.zero_le _)).mp hfold
    by_cases hmetadata : (utf8 (S.toText metadata)).length ≤ maxIpcFrameMetadataBytes
    · exact absurd ⟨by omega, hattachable, by omega, hmetadata⟩ h
    · rw [serializeJsonBounded_exceeds hmetadata]
      exact ⟨_, rfl⟩

/-- The message as its JSON has it: a scene without its pixel bytes. -/
def IpcEnvelope.metadata (message : IpcEnvelope κ) : IpcEnvelope κ :=
  match message.kind with
  | .displayCommand command =>
    { message with kind := .displayCommand (displayCommandWithoutPixelBytes command) }
  | .other _ => message

def Sendable (S : Serde κ) (message : IpcEnvelope κ) : Prop :=
  match envelopePixelPayloads message with
  | some payloads => FrameFits S message.metadata payloads
  | none => (utf8 (S.toText message)).length ≤ maxIpcJsonLineBytes

def encoding (S : Serde κ) (message : IpcEnvelope κ) : List UInt8 :=
  match envelopePixelPayloads message with
  | some payloads => frameBytes S message.metadata payloads
  | none => utf8 (S.toText message) ++ [newline]

theorem sendJsonLine_writes (h : (utf8 (S.toText message)).length ≤ maxIpcJsonLineBytes) :
    Writes (sendJsonLine S message) (utf8 (S.toText message) ++ [newline]) := by
  rw [sendJsonLine, serializeJsonBounded_fits h]
  simp only [check, pure_bind]
  have hend := (Writes.writeAll [newline] "failed to write IPC newline delimiter").bind
    (Writes.writeAll [] "failed to flush IPC message")
  rw [List.append_nil] at hend
  exact (Writes.writeAll _ _).bind hend

theorem sendJsonLine_rejects (h : ¬(utf8 (S.toText message)).length ≤ maxIpcJsonLineBytes) :
    ∃ reason, sendJsonLine S message = throw (.rejected reason) := by
  rw [sendJsonLine, serializeJsonBounded_exceeds h]
  exact ⟨_, rfl⟩

/-- `send_ipc_envelope` frames exactly the messages that hold pixel payloads. -/
theorem sendIpcEnvelope_eq (S : Serde κ) (message : IpcEnvelope κ) :
    sendIpcEnvelope S message =
      match envelopePixelPayloads message with
      | some payloads => writeFramedSceneEnvelope S message.metadata payloads
      | none => sendJsonLine S message := by
  obtain ⟨source, destination, kind⟩ := message
  cases kind with
  | displayCommand command => cases command <;> rfl
  | other message => rfl

theorem sendIpcEnvelope_writes (h : Sendable S message) :
    Writes (sendIpcEnvelope S message) (encoding S message) := by
  rw [sendIpcEnvelope_eq]
  unfold Sendable at h
  unfold encoding
  cases hpayloads : envelopePixelPayloads message with
  | some payloads =>
    rw [hpayloads] at h
    exact writeFramedSceneEnvelope_writes h
  | none =>
    rw [hpayloads] at h
    exact sendJsonLine_writes h

theorem sendIpcEnvelope_rejects (h : ¬Sendable S message) :
    ∃ reason, sendIpcEnvelope S message = throw (.rejected reason) := by
  rw [sendIpcEnvelope_eq]
  unfold Sendable at h
  cases hpayloads : envelopePixelPayloads message with
  | some payloads =>
    rw [hpayloads] at h
    exact writeFramedSceneEnvelope_rejects h
  | none =>
    rw [hpayloads] at h
    exact sendJsonLine_rejects h

theorem sendIpcEnvelope_ok {sink after : Sink UInt8}
    (h : sendIpcEnvelope S message sink = .ok () after) :
    Sendable S message ∧ after.written = sink.written ++ encoding S message := by
  by_cases hfits : Sendable S message
  · have hwrites := (sendIpcEnvelope_writes hfits).run sink
    rw [h] at hwrites
    exact ⟨hfits, hwrites.1⟩
  · obtain ⟨reason, hreject⟩ := sendIpcEnvelope_rejects hfits
    rw [hreject] at h
    cases h

end TuffXwin
