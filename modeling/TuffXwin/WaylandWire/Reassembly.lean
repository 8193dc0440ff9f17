import TuffXwin.Lib.Fold
import TuffXwin.WaylandWire.Wire
import Mathlib.Data.List.Infix

/-! The receive loops of the servers. What is read is appended to a buffer, from whose front
messages are decoded and dispatched until the rest is not a whole one. However a stream of
messages is cut into reads, they are dispatched in order, and the buffer stays within its
limit. -/

namespace TuffXwin.WaylandWire
open Lib

variable {message : WaylandMessage} {buffer tail : List UInt8} {stream : List WaylandMessage}

def maxWireMessageBytes : Nat := 64 * 1024

def maxReadBytes : Nat := 4096

def maxServerReceiveBytes : Nat := maxWireMessageBytes + 4096

def maxWaylandClientReceiveBytes : Nat := maxWireMessageBytes + 4096

def decodeHeader (bytes : List UInt8) : Except WireError WaylandHeader :=
  if bytes.length < 8 then .error .incomplete
  else
    let word1 := readU32 (bytes.drop 4)
    .ok { objectId := readU32 bytes, size := word1 / 65536, opcode := word1 % 65536 }

def decodeMessage (bytes : List UInt8) : Except WireError WaylandMessage :=
  match decodeHeader bytes with
  | .error error => .error error
  | .ok header =>
    if header.size < 8 ∨ header.size > maxWireMessageBytes then
      .error (.invalidSize header.size)
    else if bytes.length < header.size then .error .incomplete
    else .ok ⟨header, (bytes.take header.size).drop 8⟩

def encodeMessage (message : WaylandMessage) : List UInt8 :=
  writeU32 message.header.objectId ++
    (writeU32 (message.header.size * 65536 + message.header.opcode) ++ message.payload)

def encodeAll (messages : List WaylandMessage) : List UInt8 := messages.flatMap encodeMessage

/-- How a receive loop ends early. -/
inductive ReceiveError (ε : Type)
  | bufferExceeded
  | malformed (error : WireError)
  | dispatch (error : ε)
  deriving DecidableEq, Repr

section Loop

variable {σ ε : Type} (dispatch : σ → WaylandMessage → Except ε σ)

def dispatched (s : σ) (message : WaylandMessage) : Except (ReceiveError ε) σ :=
  match dispatch s message with
  | .ok s' => .ok s'
  | .error error => .error (.dispatch error)

theorem decodeMessage_size {bytes : List UInt8} (h : decodeMessage bytes = .ok message) :
    8 ≤ message.header.size ∧ message.header.size ≤ bytes.length := by
  unfold decodeMessage at h
  split at h
  · cases h
  · split_ifs at h with hsize hshort
    obtain rfl := Except.ok.inj h
    dsimp only
    omega

/-- The messages at the front of the buffer are dispatched; the rest of it is kept. -/
def drain (s : σ) (buffer : List UInt8) : Except (ReceiveError ε) (σ × List UInt8) :=
  if buffer.length < 8 then .ok (s, buffer)
  else
    match _h : decodeMessage buffer with
    | .ok message =>
      match dispatched dispatch s message with
      | .ok s' => drain s' (buffer.drop message.header.size)
      | .error error => .error error
    | .error .incomplete => .ok (s, buffer)
    | .error error => .error (.malformed error)
  termination_by buffer.length
  decreasing_by
    have hsize := decodeMessage_size _h
    rw [List.length_drop]
    omega

/-- One pass of a loop whose buffer is limited. -/
def received (limit : Nat) (state : σ × List UInt8) (read : List UInt8) :
    Except (ReceiveError ε) (σ × List UInt8) :=
  if (state.2 ++ read).length > limit then .error .bufferExceeded
  else drain dispatch state.1 (state.2 ++ read)

/-- A read of nothing is the end of the stream. -/
def receiveLoop (limit : Nat) (state : σ × List UInt8) :
    List (List UInt8) → Except (ReceiveError ε) (σ × List UInt8)
  | [] => .ok state
  | read :: rest =>
    if read = [] then .ok state
    else
      match received dispatch limit state read with
      | .ok state' => receiveLoop limit state' rest
      | .error error => .error error

/-- The loop of `WireServer::run_once`. -/
def runOnce (state : σ × List UInt8) (reads : List (List UInt8)) :
    Except (ReceiveError ε) (σ × List UInt8) :=
  receiveLoop dispatch maxServerReceiveBytes state reads

/-- The loop of `handle_production_client`. -/
def handleProductionClient (state : σ × List UInt8) (reads : List (List UInt8)) :
    Except (ReceiveError ε) (σ × List UInt8) :=
  receiveLoop dispatch maxWaylandClientReceiveBytes state reads

end Loop

/-- A message as clients may send it: the size is that of the whole message. -/
structure Sendable (message : WaylandMessage) : Prop where
  objectId : message.header.objectId ≤ u32Max
  opcode : message.header.opcode < 65536
  small : message.header.size ≤ 65535
  size : message.header.size = message.payload.length + 8

/-- The start of the next message, if there is a next one, but not all of it. -/
def Partial (tail : List UInt8) : List WaylandMessage → Prop
  | [] => tail = []
  | message :: _ => tail <+: encodeMessage message ∧ tail.length < (encodeMessage message).length

section Decoding

variable {message : WaylandMessage} {bytes rest : List UInt8}

theorem encodeMessage_length (message : WaylandMessage) :
    (encodeMessage message).length = message.payload.length + 8 := by
  simp [encodeMessage, writeU32]

/-- The header is there as soon as eight bytes are. -/
theorem decodeHeader_encode (h : Sendable message) (hlong : 8 ≤ bytes.length)
    (hstart : bytes <+: encodeMessage message ++ rest) :
    decodeHeader bytes = .ok message.header := by
  obtain ⟨more, hmore⟩ := hstart
  have hbytes : bytes.take 8 = writeU32 message.header.objectId ++
      writeU32 (message.header.size * 65536 + message.header.opcode) := by
    have htake := congrArg (List.take 8) hmore
    rwa [List.take_append_of_le_length hlong] at htake
  obtain ⟨others, hothers⟩ : ∃ others, bytes = writeU32 message.header.objectId ++
      (writeU32 (message.header.size * 65536 + message.header.opcode) ++ others) := by
    refine ⟨bytes.drop 8, ?_⟩
    rw [← List.append_assoc, ← hbytes, List.take_append_drop]
  have hid : readU32 bytes = message.header.objectId := by
    have hword := h.objectId
    rw [hothers, readU32_append]
    unfold u32Max at hword
    omega
  have hrest : readU32 (bytes.drop 4) = message.header.size * 65536 + message.header.opcode := by
    have hsmall := h.small
    have hopcode := h.opcode
    rw [hothers]
    change readU32 (writeU32 _ ++ others) = _
    rw [readU32_append]
    omega
  have hsplit : (message.header.size * 65536 + message.header.opcode) / 65536 =
      message.header.size ∧ (message.header.size * 65536 + message.header.opcode) % 65536 =
        message.header.opcode := by
    have hopcode := h.opcode
    omega
  unfold decodeHeader
  rw [if_neg (by omega)]
  dsimp only
  rw [hid, hrest, hsplit.1, hsplit.2]

theorem decodeMessage_encode (h : Sendable message) (rest : List UInt8) :
    decodeMessage (encodeMessage message ++ rest) = .ok message := by
  have hlength := encodeMessage_length message
  have hsize := h.size
  have hsmall := h.small
  have hheader : decodeHeader (encodeMessage message ++ rest) = .ok message.header :=
    decodeHeader_encode h (by rw [List.length_append]; omega) List.prefix_rfl
  have htake : (encodeMessage message ++ rest).take message.header.size =
      encodeMessage message := by
    rw [List.take_append_of_le_length (by omega), List.take_of_length_le (by omega)]
  unfold decodeMessage
  rw [hheader]
  dsimp only
  rw [if_neg (by unfold maxWireMessageBytes; omega), if_neg (by rw [List.length_append]; omega),
    htake]
  rfl

/-- The bytes of a message, whatever follows them, decode to it, and their number is the size
that its header declares. -/
def RoundTrips (message : WaylandMessage) : Prop :=
  (∀ suffix, decodeMessage (encodeMessage message ++ suffix) = .ok message) ∧
    message.header.size = (encodeMessage message).length

/-- The size is a 16-bit word, and encoding never fails, so the longest message that comes back
is of 65535 bytes. -/
theorem encodeMessage_roundTrips (objectId : UInt32) (opcode : UInt16) (payload : List UInt8) :
    RoundTrips (.new objectId.toNat opcode.toNat payload) ↔ payload.length + 8 ≤ 65535 := by
  have hid := objectId.toNat_lt
  have hopcode := opcode.toNat_lt
  constructor
  · rintro ⟨-, hsize⟩
    rw [encodeMessage_length] at hsize
    change (payload.length + 8) % 65536 = payload.length + 8 at hsize
    omega
  · intro hfits
    have hsend : Sendable (.new objectId.toNat opcode.toNat payload) := by
      refine ⟨?_, hopcode, ?_, ?_⟩
      · change objectId.toNat ≤ u32Max
        unfold u32Max
        omega
      · change (payload.length + 8) % 65536 ≤ 65535
        omega
      · change (payload.length + 8) % 65536 = payload.length + 8
        omega
    exact ⟨decodeMessage_encode hsend, hsend.size.trans (encodeMessage_length _).symm⟩

/-- One byte more, and the header declares a message of no bytes. -/
theorem long_payload_not_roundTrips :
    ¬ RoundTrips (.new 1 0 (List.replicate 65528 0)) := by
  rintro ⟨-, hsize⟩
  rw [encodeMessage_length] at hsize
  change ((List.replicate 65528 (0 : UInt8)).length + 8) % 65536 =
    (List.replicate 65528 (0 : UInt8)).length + 8 at hsize
  rw [List.length_replicate] at hsize
  omega

theorem decodeMessage_partial (h : Sendable message) (hlong : 8 ≤ bytes.length)
    (hstart : bytes <+: encodeMessage message)
    (hshort : bytes.length < (encodeMessage message).length) :
    decodeMessage bytes = .error .incomplete := by
  have hlength := encodeMessage_length message
  have hsize := h.size
  have hsmall := h.small
  have hwhole : bytes <+: encodeMessage message ++ [] := by rwa [List.append_nil]
  have hheader := decodeHeader_encode h hlong hwhole
  unfold decodeMessage
  rw [hheader]
  dsimp only
  rw [if_neg (by unfold maxWireMessageBytes; omega), if_pos (by omega)]

end Decoding

/-! Streams. -/

section Streams

variable {σ ε : Type} (dispatch : σ → WaylandMessage → Except ε σ)

@[simp] theorem encodeAll_cons (message : WaylandMessage) (messages : List WaylandMessage) :
    encodeAll (message :: messages) = encodeMessage message ++ encodeAll messages := rfl

@[simp] theorem encodeAll_append (messages more : List WaylandMessage) :
    encodeAll (messages ++ more) = encodeAll messages ++ encodeAll more := by
  simp [encodeAll]

/-- What the loops end with: the messages dispatched, and the tail that is kept. -/
def dispatchAll (s : σ) (messages : List WaylandMessage) (tail : List UInt8) :
    Except (ReceiveError ε) (σ × List UInt8) :=
  (messages.foldlM (dispatched dispatch) s).map fun s' => (s', tail)

theorem dispatchAll_cons (s : σ) (message : WaylandMessage) (messages : List WaylandMessage)
    (tail : List UInt8) : dispatchAll dispatch s (message :: messages) tail =
      match dispatched dispatch s message with
      | .ok s' => dispatchAll dispatch s' messages tail
      | .error error => .error error := by
  unfold dispatchAll
  rw [List.foldlM_cons]
  cases dispatched dispatch s message <;> rfl

theorem drain_short (s : σ) (h : buffer.length < 8) :
    drain dispatch s buffer = .ok (s, buffer) := by
  rw [drain, if_pos h]

theorem drain_message (h : Sendable message) (s : σ) (rest : List UInt8) :
    drain dispatch s (encodeMessage message ++ rest) =
      match dispatched dispatch s message with
      | .ok s' => drain dispatch s' rest
      | .error error => .error error := by
  have hlength := encodeMessage_length message
  have hsize := h.size
  have hlong : ¬ (encodeMessage message ++ rest).length < 8 := by
    rw [List.length_append]
    omega
  rw [drain, if_neg hlong]
  have hdrop : (encodeMessage message ++ rest).drop message.header.size = rest := by
    rw [List.drop_append_of_le_length (by omega), List.drop_of_length_le (by omega)]
    rfl
  split
  · rename_i found hfound
    rw [decodeMessage_encode h rest] at hfound
    obtain rfl := Except.ok.inj hfound
    rw [hdrop]
  · rename_i hfound
    rw [decodeMessage_encode h rest] at hfound
    cases hfound
  · rename_i hfound
    rw [decodeMessage_encode h rest] at hfound
    cases hfound

theorem drain_partial (h : Sendable message) (s : σ) (hstart : buffer <+: encodeMessage message)
    (hshort : buffer.length < (encodeMessage message).length) :
    drain dispatch s buffer = .ok (s, buffer) := by
  by_cases hlong : buffer.length < 8
  · exact drain_short dispatch s hlong
  · have hdecode := decodeMessage_partial h (by omega) hstart hshort
    rw [drain, if_neg hlong]
    split
    · rename_i hfound
      rw [hdecode] at hfound
      cases hfound
    · rfl
    · rename_i hnot hfound
      rw [hdecode] at hfound
      exact absurd (Except.error.inj hfound).symm hnot

/-- A buffer that starts the stream is decoded as far as its messages are whole. -/
theorem drain_prefix (hstream : ∀ m ∈ stream, Sendable m) (s : σ)
    (hstart : buffer <+: encodeAll stream) :
    ∃ done rest tail, stream = done ++ rest ∧ buffer = encodeAll done ++ tail ∧
      Partial tail rest ∧ drain dispatch s buffer = dispatchAll dispatch s done tail := by
  induction stream generalizing buffer s with
  | nil =>
    obtain rfl := List.prefix_nil.mp hstart
    exact ⟨[], [], [], rfl, rfl, rfl, drain_short dispatch s (by simp)⟩
  | cons message more ih =>
    have hmessage := hstream message List.mem_cons_self
    rw [encodeAll_cons] at hstart
    rcases List.prefix_or_prefix_of_prefix hstart (List.prefix_append _ _) with hless | hmore
    · by_cases hshort : buffer.length < (encodeMessage message).length
      · exact ⟨[], message :: more, buffer, rfl, rfl, ⟨hless, hshort⟩,
          drain_partial dispatch hmessage s hless hshort⟩
      · obtain rfl := hless.eq_of_length_le (by omega)
        refine ⟨[message], more, [], rfl, by simp [encodeAll], ?_, ?_⟩
        · cases more with
          | nil => rfl
          | cons next others =>
            refine ⟨List.nil_prefix, ?_⟩
            have hlength := encodeMessage_length next
            rw [List.length_nil]
            omega
        · have hdrain := drain_message dispatch hmessage s []
          rw [List.append_nil] at hdrain
          rw [hdrain, dispatchAll_cons]
          cases dispatched dispatch s message with
          | ok s' => exact drain_short dispatch s' (by simp)
          | error error => rfl
    · obtain ⟨rest, rfl⟩ := hmore
      have hrest : rest <+: encodeAll more := (List.prefix_append_right_inj _).mp hstart
      have hothers : ∀ m ∈ more, Sendable m := fun m hm => hstream m (List.mem_cons_of_mem _ hm)
      cases hdispatched : dispatched dispatch s message with
      | ok s' =>
        obtain ⟨done, left, tail, hsplit, hbuffer, hcut, hdrain⟩ := ih hothers s' hrest
        refine ⟨message :: done, left, tail, by rw [hsplit]; rfl, ?_, hcut, ?_⟩
        · rw [hbuffer, encodeAll_cons, List.append_assoc]
        · rw [drain_message dispatch hmessage, dispatchAll_cons, hdispatched]
          exact hdrain
      | error error =>
        obtain ⟨done, left, tail, hsplit, hbuffer, hcut, _⟩ := ih hothers s hrest
        refine ⟨message :: done, left, tail, by rw [hsplit]; rfl, ?_, hcut, ?_⟩
        · rw [hbuffer, encodeAll_cons, List.append_assoc]
        · rw [drain_message dispatch hmessage, dispatchAll_cons, hdispatched]

theorem dispatchAll_append (s : σ) (messages more : List WaylandMessage) (tail : List UInt8) :
    dispatchAll dispatch s (messages ++ more) tail =
      match messages.foldlM (dispatched dispatch) s with
      | .ok s' => dispatchAll dispatch s' more tail
      | .error error => .error error := by
  unfold dispatchAll
  rw [List.foldlM_append]
  cases messages.foldlM (dispatched dispatch) s <;> rfl

theorem Partial.length_lt (h : Partial tail stream) (hstream : ∀ m ∈ stream, Sendable m) :
    tail.length < maxWireMessageBytes := by
  cases stream with
  | nil =>
    obtain rfl : tail = [] := h
    decide
  | cons message more =>
    have hmessage := hstream message List.mem_cons_self
    have hlength := encodeMessage_length message
    have hshort := h.2
    have hsize := hmessage.size
    have hsmall := hmessage.small
    unfold maxWireMessageBytes
    omega

/-- From a tail on, the reads of the rest of a stream. -/
theorem receiveLoop_prefix {limit : Nat} (hlimit : maxWireMessageBytes + maxReadBytes ≤ limit)
    (reads : List (List UInt8)) (hreads : ∀ read ∈ reads, read ≠ [] ∧ read.length ≤ maxReadBytes)
    (hstream : ∀ m ∈ stream, Sendable m) (s : σ) (hcut : Partial tail stream)
    (hstart : tail ++ reads.flatten <+: encodeAll stream) :
    ∃ done rest tail', stream = done ++ rest ∧ tail ++ reads.flatten = encodeAll done ++ tail' ∧
      Partial tail' rest ∧
      receiveLoop dispatch limit (s, tail) reads = dispatchAll dispatch s done tail' := by
  induction reads generalizing stream s tail with
  | nil => exact ⟨[], stream, tail, rfl, by simp [encodeAll], hcut, rfl⟩
  | cons read more ih =>
    obtain ⟨hread, hsize⟩ := hreads read List.mem_cons_self
    have hmore := fun r hr => hreads r (List.mem_cons_of_mem _ hr)
    have htail := hcut.length_lt hstream
    have hfits : ¬ (tail ++ read).length > limit := by
      rw [List.length_append]
      omega
    rw [List.flatten_cons, ← List.append_assoc] at hstart ⊢
    obtain ⟨done, rest, left, hsplit, hbuffer, hleft, hdrain⟩ :=
      drain_prefix dispatch hstream s (List.IsPrefix.trans (List.prefix_append _ _) hstart)
    have hrest : ∀ m ∈ rest, Sendable m := by
      intro m hm
      refine hstream m ?_
      rw [hsplit]
      exact List.mem_append_right _ hm
    have hfollow : left ++ more.flatten <+: encodeAll rest := by
      rw [hbuffer, hsplit, encodeAll_append, List.append_assoc] at hstart
      exact (List.prefix_append_right_inj _).mp hstart
    have hreceived : received dispatch limit (s, tail) read = dispatchAll dispatch s done left := by
      unfold received
      rw [if_neg hfits]
      exact hdrain
    unfold receiveLoop
    rw [if_neg hread, hreceived, hbuffer]
    unfold dispatchAll
    cases hdone : done.foldlM (dispatched dispatch) s with
    | ok s' =>
      obtain ⟨done', rest', left', hsplit', hbuffer', hleft', hloop⟩ :=
        ih hmore hrest s' hleft hfollow
      refine ⟨done ++ done', rest', left', ?_, ?_, hleft', ?_⟩
      · rw [hsplit, hsplit', List.append_assoc]
      · rw [List.append_assoc, hbuffer', encodeAll_append, List.append_assoc]
      · change receiveLoop dispatch limit (s', left) more = dispatchAll dispatch s (done ++ done') left'
        rw [dispatchAll_append, hdone]
        exact hloop
    | error error =>
      obtain ⟨done', rest', left', hsplit', hbuffer', hleft', _⟩ := ih hmore hrest s hleft hfollow
      refine ⟨done ++ done', rest', left', ?_, ?_, hleft', ?_⟩
      · rw [hsplit, hsplit', List.append_assoc]
      · rw [List.append_assoc, hbuffer', encodeAll_append, List.append_assoc]
      · change _ = dispatchAll dispatch s (done ++ done') left'
        rw [dispatchAll_append, hdone]
        rfl

/-- Nothing is left over of a stream that was read to its end. -/
theorem partial_whole {done rest : List WaylandMessage} (hcut : Partial tail rest)
    (h : encodeAll (done ++ rest) = encodeAll done ++ tail) : rest = [] ∧ tail = [] := by
  rw [encodeAll_append, List.append_cancel_left_eq] at h
  cases rest with
  | nil => exact ⟨rfl, h.symm⟩
  | cons message more =>
    have hshort := hcut.2
    rw [← h, encodeAll_cons, List.length_append] at hshort
    omega

end Streams

/-- Both receive loops dispatch the messages of a stream that are whole, in order, and keep
the tail, however the stream is cut into reads. -/
theorem receiveLoops_chunks {σ ε : Type} (dispatch : σ → WaylandMessage → Except ε σ) (s : σ)
    (stream : List WaylandMessage) (reads : List (List UInt8))
    (hstream : ∀ m ∈ stream, Sendable m)
    (hreads : ∀ read ∈ reads, read ≠ [] ∧ read.length ≤ maxReadBytes)
    (hstart : reads.flatten <+: encodeAll stream) :
    ∃ done rest tail, stream = done ++ rest ∧ reads.flatten = encodeAll done ++ tail ∧
      Partial tail rest ∧
      (reads.flatten = encodeAll stream → done = stream ∧ tail = []) ∧
      runOnce dispatch (s, []) reads = dispatchAll dispatch s done tail ∧
      handleProductionClient dispatch (s, []) reads = dispatchAll dispatch s done tail := by
  have hnothing : Partial [] stream := by
    cases stream with
    | nil => rfl
    | cons message more =>
      refine ⟨List.nil_prefix, ?_⟩
      rw [encodeMessage_length, List.length_nil]
      omega
  obtain ⟨done, rest, tail, hsplit, hbuffer, hcut, hloop⟩ :=
    receiveLoop_prefix dispatch (Nat.le_refl maxServerReceiveBytes) reads hreads hstream s
      hnothing hstart
  refine ⟨done, rest, tail, hsplit, hbuffer, hcut, fun hwhole => ?_, hloop, hloop⟩
  have hbytes : reads.flatten = encodeAll done ++ tail := hbuffer
  rw [hwhole, hsplit] at hbytes
  obtain ⟨hrest, htail⟩ := partial_whole hcut hbytes
  rw [hsplit, hrest, List.append_nil]
  exact ⟨rfl, htail⟩

/-- A sync and a request for the registry, cut inside of both. -/
def sampleStream : List WaylandMessage := [.new 1 0 (writeU32 2), .new 1 1 (writeU32 3)]

def sampleReads : List (List UInt8) :=
  [(encodeAll sampleStream).take 5, ((encodeAll sampleStream).drop 5).take 10,
    (encodeAll sampleStream).drop 15]

theorem sampleStream_sendable : ∀ m ∈ sampleStream, Sendable m := by
  intro m hm
  rcases List.mem_cons.mp hm with rfl | hm
  · exact ⟨by decide, by decide, by decide, by decide⟩
  · obtain rfl := List.mem_singleton.mp hm
    exact ⟨by decide, by decide, by decide, by decide⟩

theorem sampleReads_chunks : ∃ done rest tail, sampleStream = done ++ rest ∧
    sampleReads.flatten = encodeAll done ++ tail ∧ Partial tail rest ∧
    (sampleReads.flatten = encodeAll sampleStream → done = sampleStream ∧ tail = []) ∧
    runOnce (fun seen m => Except.ok (ε := Unit) (seen ++ [m])) ([], []) sampleReads =
      dispatchAll (fun seen m => .ok (seen ++ [m])) [] done tail ∧
    handleProductionClient (fun seen m => Except.ok (ε := Unit) (seen ++ [m])) ([], [])
      sampleReads = dispatchAll (fun seen m => .ok (seen ++ [m])) [] done tail :=
  receiveLoops_chunks _ [] sampleStream sampleReads sampleStream_sendable (by decide +kernel)
    ⟨[], by decide +kernel⟩

end TuffXwin.WaylandWire
