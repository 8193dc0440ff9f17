import Mathlib.Data.List.TakeWhile
import TuffXwin.Common.Framing

/-! The receiver against the sender: the bytes written for a message are read back as
that message and nothing beyond them is taken, and no shorter piece of them is read as
a message at all. -/

namespace TuffXwin
open Lib

variable {κ : Type}
variable {pieces : List (List UInt8)} {line : List UInt8} {sizes : List Nat}
  {messages : List (IpcEnvelope κ)}
variable {message : IpcEnvelope κ} {S : Serde κ} {text : List UInt8}
  {payloads : List PixelTransportPayload}

theorem utf8_eq_flatMap (text : String) :
    utf8 text = text.toList.flatMap String.utf8EncodeChar := by
  rw [utf8, String.toUTF8_eq_toByteArray, ← String.utf8Encode_toList, List.utf8Encode]
  simp

theorem utf8_toText_length (S : Serde κ) (message : IpcEnvelope κ) :
    (utf8 (S.toText message)).length =
      ((message.toJson S).chars.flatMap String.utf8EncodeChar).length := by
  rw [utf8_eq_flatMap, Serde.toText, Json.compact, String.toList_ofList]

/-- A byte below 128 stands for the character itself. -/
theorem newline_mem_utf8EncodeChar {c : Char} (h : newline ∈ String.utf8EncodeChar c) :
    c = '\n' := by
  have hval : c.val.toNat < 1114112 := by
    have := c.valid
    rcases this with h | h <;> omega
  unfold newline at h
  simp only [String.utf8EncodeChar] at h
  have hc : c.val.toNat = 10 := by
    split_ifs at h with h1 h2 h3 <;>
      simp only [List.mem_cons, List.not_mem_nil, or_false, ← UInt8.toNat_inj,
        UInt8.toNat_ofNat'] at h <;>
      have h10 : (10 : UInt8).toNat = 10 := rfl <;> omega
  exact Char.ext (UInt32.toNat_inj.mp hc)

theorem newline_not_mem_utf8 {text : String} (h : '\n' ∉ text.toList) : newline ∉ utf8 text := by
  rw [utf8_eq_flatMap]
  intro hmem
  obtain ⟨c, hc, hbyte⟩ := List.mem_flatMap.mp hmem
  exact h (newline_mem_utf8EncodeChar hbyte ▸ hc)

theorem utf8_head {text : String} (h : text.toList.head? = some '\x7b') :
    ∃ bytes, utf8 text = 0x7b :: bytes := by
  rw [utf8_eq_flatMap]
  cases htext : text.toList with
  | nil => simp [htext] at h
  | cons c rest =>
    rw [htext, List.head?_cons, Option.some.injEq] at h
    subst h
    exact ⟨rest.flatMap String.utf8EncodeChar, rfl⟩

theorem before_newline (h : newline ∉ text) : ∀ byte ∈ text, decide (byte ≠ newline) = true := by
  intro byte hbyte
  simpa using ne_of_mem_of_not_mem hbyte h

theorem span_newline (rest : List UInt8) (h : newline ∉ text) :
    (text ++ newline :: rest).takeWhile (· ≠ newline) = text ∧
      (text ++ newline :: rest).dropWhile (· ≠ newline) = newline :: rest := by
  rw [List.takeWhile_append_of_pos (before_newline h),
    List.dropWhile_append_of_pos (before_newline h)]
  simp

theorem span_text (h : newline ∉ text) :
    text.takeWhile (· ≠ newline) = text ∧ text.dropWhile (· ≠ newline) = [] :=
  ⟨List.takeWhile_eq_self_iff.mpr (before_newline h),
    List.dropWhile_eq_nil_iff.mpr (before_newline h)⟩

theorem readBoundedJsonLine_reads {rest : List UInt8}
    (hpieces : pieces.flatten = text ++ newline :: rest) (htext : newline ∉ text)
    (hlength : line.length + text.length ≤ maxIpcJsonLineBytes) :
    ∃ left, readBoundedJsonLine line pieces = .ok (line ++ text, left) ∧
      left.flatten = rest := by
  induction pieces generalizing line text with
  | nil => simp at hpieces
  | cons piece pieces ih =>
    have hmax : maxIpcJsonLineBytes ≤ u64Max := by decide
    rw [List.flatten_cons] at hpieces
    unfold readBoundedJsonLine
    by_cases hnil : piece = []
    · subst hnil
      rw [if_pos rfl]
      exact ih (by simpa using hpieces) htext hlength
    rw [if_neg hnil]
    by_cases hmem : newline ∈ piece
    · obtain ⟨front, after, rfl, hfront⟩ := List.eq_append_cons_of_mem hmem
      rw [List.append_assoc, List.cons_append] at hpieces
      obtain ⟨htake, hdrop⟩ := span_newline after hfront
      have hfront' : front = text := by
        rw [← (span_newline _ hfront).1, hpieces, (span_newline _ htext).1]
      subst hfront'
      simp only [htake, hdrop]
      rw [if_neg (by omega), if_neg (by omega)]
      exact ⟨after :: pieces, rfl, by simpa using hpieces⟩
    · have hstart : ∃ text', text = piece ++ text' := by
        rcases List.append_eq_append_iff.mp hpieces with ⟨text', htext', -⟩ | ⟨gap, hpiece, hgap⟩
        · exact ⟨text', htext'⟩
        · cases gap with
          | nil => exact ⟨[], by simpa using hpiece.symm⟩
          | cons byte gap =>
            rw [List.cons_append, List.cons.injEq] at hgap
            exact absurd (by rw [hpiece, ← hgap.1]; simp) hmem
      obtain ⟨text', rfl⟩ := hstart
      obtain ⟨htake, hdrop⟩ := span_text hmem
      rw [List.append_assoc, List.append_cancel_left_eq] at hpieces
      rw [List.length_append] at hlength
      simp only [htake, hdrop]
      rw [if_neg (by omega), if_neg (by omega)]
      have hrest : (line ++ piece).length + text'.length ≤ maxIpcJsonLineBytes := by
        rw [List.length_append]
        omega
      obtain ⟨left, hread, hleft⟩ := ih hpieces (fun h => htext (by simp [h])) hrest
      exact ⟨left, by rw [hread, List.append_assoc], hleft⟩

theorem readBoundedJsonLine_unterminated (h : newline ∉ pieces.flatten) :
    ∃ reason, readBoundedJsonLine line pieces = .error reason := by
  induction pieces generalizing line with
  | nil => exact ⟨_, rfl⟩
  | cons piece pieces ih =>
    rw [List.flatten_cons, List.mem_append, not_or] at h
    unfold readBoundedJsonLine
    split_ifs with hnil
    · exact ih h.2
    · simp only [(span_text h.1).2]
      split_ifs
      · exact ⟨_, rfl⟩
      · exact ⟨_, rfl⟩
      · exact ih h.2

theorem readBoundedJsonLine_decodes (htext : newline ∉ text)
    (hlength : text.length ≤ maxIpcJsonLineBytes) :
    Decodes (readBoundedJsonLine [] : Decoder UInt8 String (List UInt8)) (text ++ [newline])
      text where
  reads pieces rest h := by
    rw [List.append_assoc] at h
    exact readBoundedJsonLine_reads h htext (by simpa using hlength)
  truncated pieces missing h hmissing := by
    refine readBoundedJsonLine_unterminated fun hmem => ?_
    have hlast := List.dropLast_append_getLast hmissing
    rw [← hlast, ← List.append_assoc] at h
    have hinit := (List.append_inj' h rfl).1
    exact htext (by rw [← hinit]; simp [hmem])

theorem readAttachmentLengths_decodes (lengths : List Nat) (sum : Nat)
    (hsizes : ∀ size ∈ sizes, size ≤ maxIpcBinaryAttachmentBytes)
    (hsum : sum + sizes.sum ≤ maxIpcBinaryTotalBytes) :
    Decodes (readAttachmentLengths sizes.length lengths sum) (sizes.flatMap (toLittleEndian 8))
      (lengths ++ sizes, sum + sizes.sum) := by
  induction sizes generalizing lengths sum with
  | nil =>
    simpa [readAttachmentLengths] using Decodes.pure (σ := UInt8) (ε := String) (lengths, sum)
  | cons size sizes ih =>
    have hsize := hsizes size (by simp)
    rw [List.sum_cons] at hsum
    have hmax : maxIpcBinaryTotalBytes ≤ u64Max ∧ maxIpcBinaryAttachmentBytes < 256 ^ 8 := by
      decide
    have hvalue : ofLittleEndian (toLittleEndian 8 size) = size :=
      ofLittleEndian_toLittleEndian (by omega)
    rw [List.length_cons, List.flatMap_cons, readAttachmentLengths]
    refine (Decodes.readExact (toLittleEndian 8 size) _ (by simp)).bind ?_
    simp only [hvalue]
    refine Decodes.skip (bailIf_neg (by omega)) (Decodes.skip (bailIf_neg (by omega))
      (Decodes.skip (bailIf_neg (by omega)) ?_))
    have hrest := ih (lengths ++ [size]) (sum + size)
      (fun other hother => hsizes other (by simp [hother])) (by omega)
    simpa [Nat.add_assoc] using hrest

section header

variable (metadataLen attachmentCount totalBytes : Nat)

theorem frameHeader_length :
    (frameHeader metadataLen attachmentCount totalBytes).length = ipcFrameFixedHeaderBytes := by
  simp [frameHeader, ipcFrameMagic, ipcFrameFixedHeaderBytes]

theorem frameHeader_ne_nil : frameHeader metadataLen attachmentCount totalBytes ≠ [] := by
  rw [← List.length_pos_iff, frameHeader_length]
  decide

theorem frameHeader_magic :
    (frameHeader metadataLen attachmentCount totalBytes).take 4 = ipcFrameMagic := rfl

theorem frameHeader_flags :
    (frameHeader metadataLen attachmentCount totalBytes).getD 5 0 = 0 ∧
      (frameHeader metadataLen attachmentCount totalBytes).getD 6 0 = 0 ∧
      (frameHeader metadataLen attachmentCount totalBytes).getD 7 0 = 0 := ⟨rfl, rfl, rfl⟩

theorem frameHeader_metadataLen :
    ((frameHeader metadataLen attachmentCount totalBytes).drop 8).take 4 =
      toLittleEndian 4 metadataLen := rfl

theorem frameHeader_attachmentCount :
    ((frameHeader metadataLen attachmentCount totalBytes).drop 12).take 4 =
      toLittleEndian 4 attachmentCount := rfl

theorem frameHeader_totalBytes :
    ((frameHeader metadataLen attachmentCount totalBytes).drop 16).take 8 =
      toLittleEndian 8 totalBytes := rfl

end header

theorem readFrameHeader_decodes {metadataLen : Nat}
    (hmetadata : metadataLen ≤ maxIpcFrameMetadataBytes)
    (hcount : sizes.length ≤ maxIpcBinaryAttachments)
    (hsizes : ∀ size ∈ sizes, size ≤ maxIpcBinaryAttachmentBytes)
    (hsum : sizes.sum ≤ maxIpcBinaryTotalBytes) :
    Decodes readFrameHeader
      (frameHeader metadataLen sizes.length sizes.sum ++ sizes.flatMap (toLittleEndian 8))
      (metadataLen, sizes, sizes.sum) := by
  have hmax : maxIpcFrameMetadataBytes < 256 ^ 4 ∧ maxIpcBinaryAttachments < 256 ^ 4 ∧
      maxIpcBinaryTotalBytes < 256 ^ 8 := by decide
  rw [← List.append_nil (sizes.flatMap _)]
  refine (Decodes.readExact _ _ (frameHeader_length ..).symm).bind ?_
  simp only [frameHeader_magic, frameHeader_metadataLen, frameHeader_attachmentCount,
    frameHeader_totalBytes, ofLittleEndian_toLittleEndian (by omega : metadataLen < 256 ^ 4),
    ofLittleEndian_toLittleEndian (by omega : sizes.length < 256 ^ 4),
    ofLittleEndian_toLittleEndian (by omega : sizes.sum < 256 ^ 8)]
  refine Decodes.skip (bailIf_neg (by simp)) (Decodes.skip (bailIf_neg (not_not.mpr rfl))
    (Decodes.skip (bailIf_neg (by have := frameHeader_flags metadataLen sizes.length sizes.sum; tauto)) ?_))
  refine Decodes.skip (bailIf_neg (by omega)) (Decodes.skip (bailIf_neg (by omega))
    (Decodes.skip (bailIf_neg (by omega)) ?_))
  have hlengths := readAttachmentLengths_decodes [] 0 hsizes (by omega)
  rw [List.nil_append, Nat.zero_add] at hlengths
  exact hlengths.bind (Decodes.skip (bailIf_neg (by simp)) (Decodes.pure _))

theorem readAttachments_decodes (h : ∀ p ∈ payloads, p.Attachable) :
    Decodes (readAttachments (payloads.map metadataOnlyPayload) (attachmentSizes payloads))
      (payloads.flatMap PixelTransportPayload.pixels) payloads := by
  induction payloads with
  | nil => exact Decodes.pure []
  | cons p payloads ih =>
    have hexpected := (expectedPixelPayloadBytes_ok.mpr ⟨h p (by simp), rfl⟩).1
    have hrest := ih fun other hother => h other (by simp [hother])
    have hmetadata : (liftM (expectedPixelPayloadBytes (metadataOnlyPayload p)) :
        Decoder UInt8 String Nat) = pure p.pixels.length := by
      rw [expectedPixelPayloadBytes_metadataOnly, hexpected]
      rfl
    simp only [attachmentSizes, List.map_cons, List.flatMap_cons, readAttachments]
    refine Decodes.skip (bailIf_neg (by simp [metadataOnlyPayload]))
      (Decodes.skip hmetadata (Decodes.skip (bailIf_neg (by simp)) ?_))
    refine (Decodes.readExact p.pixels _ rfl).bind ?_
    rw [← List.append_nil (payloads.flatMap _)]
    exact hrest.bind (Decodes.pure _)

/-- `serde_json` reads back the JSON that it wrote for the message. -/
def Serde.RoundTrips (S : Serde κ) (message : IpcEnvelope κ) : Prop :=
  S.fromText (S.toText message.metadata) = some message.metadata

theorem IpcEnvelope.metadata_of_none (h : envelopePixelPayloads message = none) :
    message.metadata = message := by
  obtain ⟨source, destination, kind⟩ := message
  cases kind with
  | displayCommand command => cases command <;> first | rfl | cases h
  | other message => rfl

theorem IpcEnvelope.metadata_payloads (h : envelopePixelPayloads message = some payloads) :
    envelopePixelPayloads message.metadata = some (payloads.map metadataOnlyPayload) ∧
      message.metadata.withPixelPayloads payloads = message := by
  obtain ⟨source, destination, kind⟩ := message
  cases kind with
  | displayCommand command => cases command <;> cases h <;> exact ⟨rfl, rfl⟩
  | other message => cases h

theorem readFramedIpcEnvelope_decodes (hS : S.RoundTrips message)
    (hpayloads : envelopePixelPayloads message = some payloads)
    (h : FrameFits S message.metadata payloads) :
    ∃ frame, frameBytes S message.metadata payloads = ipcFrameMarker :: frame ∧
      Decodes (readFramedIpcEnvelope S) frame message := by
  obtain ⟨hmetadata, hwritten⟩ := IpcEnvelope.metadata_payloads hpayloads
  have hsizes : (attachmentSizes payloads).length = payloads.length := by simp [attachmentSizes]
  have hheader := readFrameHeader_decodes h.metadata (hsizes ▸ h.count)
    (by
      intro size hsize
      obtain ⟨p, hp, rfl⟩ := List.mem_map.mp hsize
      exact (h.attachable p hp).bytes_le) h.total
  rw [hsizes] at hheader
  refine ⟨_, rfl, ?_⟩
  rw [← List.append_assoc]
  refine hheader.bind ((Decodes.readExact _ _ rfl).bind ?_)
  have hdecode : (fromUtf8 (utf8 (S.toText message.metadata))).bind S.fromText =
      some message.metadata := by
    rw [fromUtf8_utf8]
    exact hS
  refine Decodes.skip (congrArg (orBail · _) hdecode)
    (Decodes.skip (congrArg (orBail · _) hmetadata) (Decodes.skip (bailIf_neg (by simp [hsizes])) ?_))
  rw [← List.append_nil (payloads.flatMap _)]
  refine (readAttachments_decodes h.attachable).bind ?_
  rw [hwritten]
  exact Decodes.pure message

theorem readJsonLine_decodes (hS : S.RoundTrips message)
    (hpayloads : envelopePixelPayloads message = none)
    (h : (utf8 (S.toText message)).length ≤ maxIpcJsonLineBytes) :
    Decodes (readJsonLine S) (utf8 (S.toText message) ++ [newline]) message := by
  have hself := IpcEnvelope.metadata_of_none hpayloads
  have htext : newline ∉ utf8 (S.toText message) :=
    newline_not_mem_utf8 (Json.newline_not_mem_compact _)
  have hline := readBoundedJsonLine_decodes htext h
  rw [← List.append_nil (_ ++ [newline])]
  refine hline.bind (Decodes.skip (congrArg (orBail · _) (fromUtf8_utf8 _)) ?_)
  have hparse : S.fromText (S.toText message) = some message := hself ▸ hS
  rw [hparse]
  exact Decodes.pure message

/-- The first byte tells the two encodings apart. -/
theorem readIpcEnvelope_decodes (hS : S.RoundTrips message) (h : Sendable S message) :
    Decodes (readIpcEnvelope S) (encoding S message) message := by
  unfold Sendable at h
  unfold encoding
  cases hpayloads : envelopePixelPayloads message with
  | some payloads =>
    rw [hpayloads] at h
    obtain ⟨frame, hframe, hdecodes⟩ := readFramedIpcEnvelope_decodes hS hpayloads h
    simp only [hframe]
    exact Decodes.tagged (if_neg (by simp)) hdecodes
  | none =>
    rw [hpayloads] at h
    obtain ⟨bytes, hbytes⟩ : ∃ bytes, utf8 (S.toText message) = 0x7b :: bytes :=
      utf8_head (Json.compact_object_head _)
    have hline := readJsonLine_decodes hS hpayloads h
    simp only
    rw [hbytes, List.cons_append] at hline ⊢
    refine Decodes.peeked ?_
    rw [if_pos (by decide)]
    exact hline

theorem sendAll_ok {sink after : Sink UInt8}
    (h : messages.forM (sendIpcEnvelope S) sink = .ok () after) :
    (∀ message ∈ messages, Sendable S message) ∧
      after.written = sink.written ++ messages.flatMap (encoding S) := by
  induction messages generalizing sink with
  | nil =>
    cases h
    simp
  | cons message messages ih =>
    change EStateM.bind (sendIpcEnvelope S message)
      (fun _ => messages.forM (sendIpcEnvelope S)) sink = _ at h
    unfold EStateM.bind at h
    cases hfirst : sendIpcEnvelope S message sink with
    | error e middle =>
      rw [hfirst] at h
      cases h
    | ok u middle =>
      rw [hfirst] at h
      obtain ⟨hsendable, hwritten⟩ := sendIpcEnvelope_ok hfirst
      obtain ⟨hrest, hafter⟩ := ih h
      refine ⟨?_, ?_⟩
      · intro other hother
        rcases List.mem_cons.mp hother with rfl | hother
        · exact hsendable
        · exact hrest other hother
      · rw [hafter, hwritten, List.flatMap_cons, List.append_assoc]

theorem sendable_frame (h : envelopePixelPayloads message = some payloads)
    (hfits : FrameFits S message.metadata payloads) : Sendable S message := by
  simpa only [Sendable, h] using hfits

theorem sendable_line (h : envelopePixelPayloads message = none)
    (hfits : ((message.toJson S).chars.flatMap String.utf8EncodeChar).length ≤
      maxIpcJsonLineBytes) : Sendable S message := by
  simpa only [Sendable, h, utf8_toText_length] using hfits

theorem encoding_frame (h : envelopePixelPayloads message = some payloads) :
    ∃ frame, frame ≠ [] ∧ encoding S message = ipcFrameMarker :: frame := by
  simp only [encoding, h, frameBytes]
  exact ⟨_, by simp [frameHeader_ne_nil], rfl⟩

theorem sendAll_writes (h : ∀ message ∈ messages, Sendable S message) :
    Writes (messages.forM (sendIpcEnvelope S)) (messages.flatMap (encoding S)) := by
  induction messages with
  | nil => exact Writes.pure
  | cons message messages ih =>
    exact (sendIpcEnvelope_writes (h message (by simp))).bind
      (ih fun other hother => h other (by simp [hother]))

/-- What one end sends, the other receives: the same messages, and no byte is left. -/
theorem sent_received (S : Serde κ) (messages : List (IpcEnvelope κ))
    (hS : ∀ message ∈ messages, S.RoundTrips message) (sink after : Sink UInt8)
    (hsent : messages.forM (sendIpcEnvelope S) sink = .ok () after)
    (pieces : List (List UInt8)) (hpieces : after.written = sink.written ++ pieces.flatten) :
    ∃ left, repeated messages.length (readIpcEnvelope S) pieces = .ok (messages, left) ∧
      left.flatten = [] := by
  obtain ⟨hsendable, hwritten⟩ := sendAll_ok hsent
  have hbytes : pieces.flatten = messages.flatMap (encoding S) ++ [] := by
    rw [List.append_nil]
    exact List.append_cancel_left (hpieces.symm.trans hwritten)
  have hdecodes := Decodes.repeated fun message hmessage =>
    readIpcEnvelope_decodes (hS message hmessage) (hsendable message hmessage)
  rw [List.map_id'] at hdecodes
  exact hdecodes.reads pieces [] hbytes

section sample

def samplePayload (width : Nat) : PixelTransportPayload :=
  ⟨⟨1, "surface-1", 1, 1⟩, [1, 2, 3, 30], width, 1, 4, 0⟩

def sampleScene (payloads : List PixelTransportPayload) : DisplayCommand :=
  .commitScene
    { target := .output "headless-1"
      focus := .none
      selection := {}
      surfaces := payloads.map fun payload =>
        { id := payload.handle.surfaceId
          placement := ⟨0, 0, 1, 1, 0, true⟩
          pixelTransport := some payload.handle }
      pixelPayloads := payloads
      sceneEpoch := 1
      sceneGeneration := 1 }

def sampleFrame (width : Nat) : IpcEnvelope String :=
  ⟨.waylandd, .displayd, .displayCommand (sampleScene [samplePayload width])⟩

def sampleMessages : List (IpcEnvelope String) :=
  [⟨.waylandd, .displayd, .displayCommand .getReconciliation⟩, sampleFrame 1,
    ⟨.waylandd, .displayd, .displayCommand (sampleScene [])⟩,
    ⟨.displayd, .waylandd, .other "line\nbreak"⟩]

def sampleJson (reason : String) : String × Json :=
  ("rejected", .object [("reason", .text reason)])

/-- Reads the texts of the sample messages and no others. -/
def sampleSerde : Serde String where
  otherJson := sampleJson
  fromText text :=
    (sampleMessages.map IpcEnvelope.metadata).find? fun message =>
      (message.toJson ⟨sampleJson, fun _ => none⟩).chars = text.toList

theorem sampleMessages_roundTrips :
    ∀ message ∈ sampleMessages, sampleSerde.RoundTrips message := by
  simp only [Serde.RoundTrips, sampleSerde, Serde.toText, Json.compact, String.toList_ofList]
  decide +kernel

theorem samplePayload_attachable : (samplePayload 1).Attachable :=
  ⟨⟨by decide, by decide, by decide, by decide, by decide, by decide⟩, by decide⟩

theorem sampleFrame_sendable : Sendable sampleSerde (sampleFrame 1) := by
  refine sendable_frame rfl ⟨(by decide : 1 ≤ 4096), ?_, (by decide : 4 ≤ 256 * 1024 * 1024), ?_⟩
  · intro p hp
    rw [List.mem_singleton] at hp
    exact hp ▸ samplePayload_attachable
  · rw [utf8_toText_length]
    decide +kernel

theorem sampleMessages_sendable : ∀ message ∈ sampleMessages, Sendable sampleSerde message := by
  simp only [sampleMessages, List.forall_mem_cons, List.not_mem_nil, IsEmpty.forall_iff,
    implies_true, and_true]
  refine ⟨sendable_line rfl (by decide +kernel), sampleFrame_sendable,
    sendable_frame rfl ⟨(by decide : 0 ≤ 4096), by simp, (by decide : 0 ≤ 256 * 1024 * 1024), ?_⟩,
    sendable_line rfl (by decide +kernel)⟩
  rw [utf8_toText_length]
  decide +kernel

theorem sent_received_sample :
    ∃ left, repeated sampleMessages.length (readIpcEnvelope sampleSerde)
        [sampleMessages.flatMap (encoding sampleSerde)] = .ok (sampleMessages, left) ∧
      left.flatten = [] := by
  obtain ⟨after, hsent, hwritten⟩ := (sendAll_writes sampleMessages_sendable).accepted
    {} rfl
  have hpieces : after.written = ({} : Sink UInt8).written ++
      [sampleMessages.flatMap (encoding sampleSerde)].flatten := by
    rw [hwritten, List.flatten_singleton]
  exact sent_received sampleSerde sampleMessages sampleMessages_roundTrips {} after hsent _ hpieces

/-- A message cut short is not received, and one that is rejected leaves no byte behind. -/
theorem cut_short_unread (S : Serde κ) (message : IpcEnvelope κ) :
    (∀ (sink after : Sink UInt8) (pieces : List (List UInt8)) (missing : List UInt8),
      S.RoundTrips message → sendIpcEnvelope S message sink = .ok () after →
      after.written = sink.written ++ (pieces.flatten ++ missing) → missing ≠ [] →
      ∃ reason, readIpcEnvelope S pieces = .error reason) ∧
    ∀ (sink after : Sink UInt8) (reason : String),
      sendIpcEnvelope S message sink = .error (.rejected reason) after →
      after.written = sink.written := by
  constructor
  · intro sink after pieces missing hS hsent hwritten hmissing
    obtain ⟨hsendable, hbytes⟩ := sendIpcEnvelope_ok hsent
    have hstart : pieces.flatten ++ missing = encoding S message :=
      List.append_cancel_left (hwritten.symm.trans hbytes)
    exact (readIpcEnvelope_decodes hS hsendable).truncated pieces missing hstart hmissing
  · intro sink after reason hrejected
    by_cases hsendable : Sendable S message
    · have hwrites := (sendIpcEnvelope_writes hsendable).run sink
      rw [hrejected] at hwrites
      obtain ⟨⟨context, hcontext⟩, -⟩ := hwrites
      cases hcontext
    · obtain ⟨reason', hthrow⟩ := sendIpcEnvelope_rejects hsendable
      rw [hthrow] at hrejected
      cases hrejected
      rfl

theorem cut_short_unread_sample :
    (∃ reason, readIpcEnvelope sampleSerde [[ipcFrameMarker]] = .error reason) ∧
      ∃ reason, sendIpcEnvelope sampleSerde (sampleFrame 0) {} = .error (.rejected reason) {} ∧
        ({} : Sink UInt8).written = [] := by
  constructor
  · have hpayloads : envelopePixelPayloads (sampleFrame 1) = some [samplePayload 1] := rfl
    obtain ⟨frame, hne, hframe⟩ := encoding_frame (S := sampleSerde) hpayloads
    have hwrites := sendIpcEnvelope_writes sampleFrame_sendable
    obtain ⟨after, hsent, hwritten⟩ := hwrites.accepted {} rfl
    rw [hframe] at hwritten
    exact (cut_short_unread sampleSerde (sampleFrame 1)).1 {} after [[ipcFrameMarker]] frame
      (sampleMessages_roundTrips _ (by simp [sampleMessages])) hsent hwritten hne
  · exact ⟨_, rfl, (cut_short_unread sampleSerde (sampleFrame 0)).2 {} {} _ rfl⟩

end sample

end TuffXwin
