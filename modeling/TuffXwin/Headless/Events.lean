import TuffXwin.Headless.Dispatch

/-! What a client makes of an event: it is declared for the interface of the object it is
for, and its payload decodes under that declaration with nothing left over. -/

namespace TuffXwin.Headless
open Lib
open WaylandWire (WireError WireArg WaylandMessage readU32 writeU32 writeI32 padding encodeArg
  encodeString encodeArray encodeEvent)

variable {fdCount total : Nat} {args : List WireArg}

def argType : WireArg → ArgType
  | .int _ => .int
  | .uint _ => .uint
  | .fixed _ => .fixed
  | .string _ => .string
  | .object _ => .object
  | .newId _ => .newId
  | .array _ => .array
  | .fd _ => .fd
  | .ancillaryFd => .fd

/-- The argument is no longer than a decoder takes. -/
def Fits : WireArg → Prop
  | .string text => text.toUTF8.toList.length ≤ maxWireStringBytes
  | .array bytes => bytes.length ≤ maxWireArrayBytes
  | _ => True

/-- The payload decodes completely, given a descriptor for each argument that is one. -/
def Decodes (payload : List UInt8) (args : List ArgType) : Prop :=
  ∃ decoded, decodeArgumentsFrom payload (some (args.count .fd)) args 0 0 =
    .ok (decoded, payload.length)

def WellFormed (event : WaylandMessage) (interface : Interface) : Prop :=
  ∃ spec, interface.event? event.header.opcode = some spec ∧ Decodes event.payload spec.args

theorem length_writeU32 (n : Nat) : (writeU32 n).length = 4 := rfl

theorem length_writeI32 (v : Int) : (writeI32 v).length = 4 := rfl

theorem length_padding (n : Nat) : (padding n).length = align4 n - n := by
  simp [padding, align4]

theorem le_align4 (n : Nat) : n ≤ align4 n := by
  unfold align4
  omega

theorem length_encodeString (s : String) :
    (encodeString s).length = 4 + align4 (s.toUTF8.toList.length + 1) := by
  have hle := le_align4 (s.toUTF8.toList.length + 1)
  simp only [encodeString, List.length_append, length_writeU32, length_padding,
    List.length_singleton]
  omega

theorem length_encodeArray (data : List UInt8) :
    (encodeArray data).length = 4 + align4 data.length := by
  have hle := le_align4 data.length
  simp only [encodeArray, List.length_append, length_writeU32, length_padding]
  omega

section Decode

variable {payload rest : List UInt8} {offset : Nat}

theorem decodeString_encode {s : String} (hdrop : payload.drop offset = encodeString s ++ rest)
    (hfits : s.toUTF8.toList.length ≤ maxWireStringBytes)
    (hlength : offset + (encodeString s).length ≤ payload.length) :
    ∃ text, decodeString payload offset = .ok (text, offset + (encodeString s).length) := by
  have hsize := length_encodeString s
  have hle := le_align4 (s.toUTF8.toList.length + 1)
  have hlen : readU32 (payload.drop offset) = s.toUTF8.toList.length + 1 := by
    rw [hdrop, encodeString]
    simp only [List.append_assoc]
    rw [WaylandWire.readU32_append]
    unfold maxWireStringBytes at hfits
    omega
  refine ⟨fromUtf8Lossy ((payload.drop (offset + 4)).take s.toUTF8.toList.length), ?_⟩
  simp only [decodeString, hlen]
  rw [if_neg (by omega), if_neg (by omega), if_neg (by omega), if_neg (by omega), hsize]
  simp only [Nat.add_sub_cancel, Nat.add_assoc]

theorem decodeArray_encode {data : List UInt8}
    (hdrop : payload.drop offset = encodeArray data ++ rest)
    (hfits : data.length ≤ maxWireArrayBytes)
    (hlength : offset + (encodeArray data).length ≤ payload.length) :
    ∃ bytes, decodeArray payload offset = .ok (bytes, offset + (encodeArray data).length) := by
  have hsize := length_encodeArray data
  have hle := le_align4 data.length
  have hlen : readU32 (payload.drop offset) = data.length := by
    rw [hdrop, encodeArray]
    simp only [List.append_assoc]
    rw [WaylandWire.readU32_append]
    unfold maxWireArrayBytes at hfits
    omega
  refine ⟨(payload.drop (offset + 4)).take data.length, ?_⟩
  simp only [decodeArray, hlen]
  rw [if_neg (by omega), if_neg (by omega), if_neg (by omega), hsize]
  simp only [Nat.add_assoc]

theorem decodeArg_encode {arg : WireArg} (hdrop : payload.drop offset = encodeArg arg ++ rest)
    (hfits : Fits arg) (hfd : argType arg = .fd → fdCount < total) :
    ∃ decoded, decodeArg payload (some total) offset fdCount (argType arg) =
      .ok (decoded, offset + (encodeArg arg).length) := by
  have hlength : encodeArg arg ≠ [] → offset + (encodeArg arg).length ≤ payload.length := by
    intro hne
    have hlen := congrArg List.length hdrop
    have hpos := List.length_pos_iff.mpr hne
    rw [List.length_drop, List.length_append] at hlen
    omega
  cases arg with
  | int v | uint v | fixed v | object v | newId v =>
    have hle := hlength (by simp [encodeArg, writeI32, writeU32])
    simp only [encodeArg, length_writeI32, length_writeU32] at hle
    simp only [argType, decodeArg, decodeWord, encodeArg, length_writeI32, length_writeU32]
    rw [if_neg (by omega)]
    exact ⟨_, rfl⟩
  | string s =>
    have hle := hlength (by simp [encodeArg, encodeString, writeU32])
    obtain ⟨text, htext⟩ := decodeString_encode hdrop hfits hle
    simp only [argType, decodeArg, htext, Except.map]
    exact ⟨_, rfl⟩
  | array data =>
    have hle := hlength (by simp [encodeArg, encodeArray, writeU32])
    obtain ⟨bytes, hbytes⟩ := decodeArray_encode hdrop hfits hle
    simp only [argType, decodeArg, hbytes, Except.map]
    exact ⟨_, rfl⟩
  | fd n =>
    simp only [argType, decodeArg, decodeFd, encodeArg, List.length_nil, Nat.add_zero]
    rw [if_neg (by have := hfd rfl; omega)]
    exact ⟨_, rfl⟩
  | ancillaryFd =>
    simp only [argType, decodeArg, decodeFd, encodeArg, List.length_nil, Nat.add_zero]
    rw [if_neg (by have := hfd rfl; omega)]
    exact ⟨_, rfl⟩

/-- Encoded arguments decode from any offset, whatever follows them. -/
theorem decodeArgumentsFrom_encode (hdrop : payload.drop offset = args.flatMap encodeArg ++ rest)
    (hfits : ∀ a ∈ args, Fits a) (hfd : fdCount + (args.map argType).count .fd ≤ total) :
    ∃ decoded, decodeArgumentsFrom payload (some total) (args.map argType) offset fdCount =
      .ok (decoded, offset + (args.flatMap encodeArg).length) := by
  induction args generalizing offset fdCount with
  | nil => exact ⟨[], rfl⟩
  | cons arg args ih =>
    simp only [List.flatMap_cons, List.append_assoc] at hdrop
    simp only [List.map_cons, List.count_cons] at hfd
    have hroom : argType arg = .fd → fdCount < total := by
      intro heq
      simp [heq] at hfd
      omega
    obtain ⟨first, hfirst⟩ := decodeArg_encode hdrop (hfits arg List.mem_cons_self) hroom
    have hnext : payload.drop (offset + (encodeArg arg).length) =
        args.flatMap encodeArg ++ rest := by
      rw [← List.drop_drop, hdrop, List.drop_left]
    have hleft : (if argType arg = .fd then fdCount + 1 else fdCount) +
        (args.map argType).count .fd ≤ total := by
      by_cases heq : argType arg = .fd
      · simp [heq] at hfd ⊢
        omega
      · simp [heq] at hfd ⊢
        exact hfd
    obtain ⟨others, hothers⟩ := ih hnext (fun a ha => hfits a (List.mem_cons_of_mem _ ha)) hleft
    refine ⟨first :: others, ?_⟩
    simp only [List.map_cons, decodeArgumentsFrom, hfirst, bind, Except.bind, hothers,
      List.flatMap_cons, List.length_append, Nat.add_assoc]

end Decode

/-- An event is well formed when its arguments are those of the declaration. -/
theorem wellFormed_encodeEvent {id opcode : Nat} {interface : Interface} {spec : MessageSpec}
    (hspec : interface.event? opcode = some spec) (htypes : spec.args = args.map argType)
    (hfits : ∀ a ∈ args, Fits a) : WellFormed (encodeEvent id opcode args) interface := by
  refine ⟨spec, hspec, ?_⟩
  rw [htypes]
  have hdrop : (args.flatMap encodeArg).drop 0 = args.flatMap encodeArg ++ [] := by simp
  have hroom : 0 + (args.map argType).count .fd ≤ (args.map argType).count .fd := by omega
  have hdecode := decodeArgumentsFrom_encode hdrop hfits hroom
  simp only [Nat.zero_add] at hdecode
  exact hdecode

end TuffXwin.Headless
