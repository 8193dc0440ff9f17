import TuffXwin.Common.Delivery
import TuffXwin.Headless.Events

/-! The argument codec. What is encoded is decoded again from any offset, argument by argument,
and what is decoded is of the declared types. A decoder replaces what is not UTF-8, so a string
comes back because its bytes are. -/

namespace TuffXwin.Headless
open Lib
open WaylandWire (WireError WireArg WaylandMessage readU32 writeU32 writeI32 padding encodeArg
  encodeString encodeArray encodeEvent)

variable {bits fdCount high low : Nat} {byte : UInt8} {arg : WireArg}
variable {data payload : List UInt8} {offset total : Nat} {args : List WireArg}
  {totalFds : Option Nat}

/-! Text. -/

theorem toList_loop (bytes : ByteArray) (index : Nat) (read : List UInt8) :
    ByteArray.toList.loop bytes index read = read.reverse ++ bytes.data.toList.drop index := by
  fun_induction ByteArray.toList.loop bytes index read with
  | case1 index read hlt ih =>
    have hlt' : index < bytes.data.toList.length := by simpa using hlt
    rw [ih, List.reverse_cons, List.append_assoc, List.drop_eq_getElem_cons hlt']
    have hget : bytes.get! index = bytes.data.toList[index] := by
      simp only [ByteArray.get!, Array.getElem_toList]
      exact getElem!_pos bytes.data index (by simpa using hlt)
    rw [hget]
    rfl
  | case2 index read hge =>
    have hge' : bytes.data.toList.length ≤ index := by simpa using hge
    rw [List.drop_eq_nil_of_le hge', List.append_nil]

theorem toUTF8_toList (s : String) : s.toUTF8.toList = s.toList.flatMap String.utf8EncodeChar := by
  rw [← utf8_eq_flatMap]
  exact toList_loop s.toUTF8 0 []

theorem lossyChars_lead {scalar : PartialScalar} (rest : List UInt8)
    (h : leadByte byte.toNat = .lead scalar) :
    lossyChars none (byte :: rest) = lossyChars (some scalar) rest := by
  rw [lossyChars, startScalar, h]

theorem lossyChars_more {missing : Nat} (rest : List UInt8) (hlow : low ≤ byte.toNat)
    (hhigh : byte.toNat ≤ high) :
    lossyChars (some ⟨bits, missing + 2, low, high⟩) (byte :: rest) =
      lossyChars (some ⟨bits * 64 + byte.toNat % 64, missing + 1, 128, 191⟩) rest := by
  rw [lossyChars, if_pos ⟨hlow, hhigh⟩]
  exact if_neg (by simp)

theorem lossyChars_last (rest : List UInt8) (hlow : low ≤ byte.toNat) (hhigh : byte.toNat ≤ high) :
    lossyChars (some ⟨bits, 1, low, high⟩) (byte :: rest) =
      Char.ofNat (bits * 64 + byte.toNat % 64) :: lossyChars none rest := by
  rw [lossyChars, if_pos ⟨hlow, hhigh⟩]
  exact if_pos rfl

/-- Two continuation bytes. -/
theorem lossyChars_two {v : Nat} (rest : List UInt8) (hlow : low ≤ v / 64 % 64 + 128)
    (hhigh : v / 64 % 64 + 128 ≤ high) (hbits : bits * 4096 + v % 4096 = v) :
    lossyChars (some ⟨bits, 2, low, high⟩)
        (UInt8.ofNat (v / 64 % 64 + 128) :: UInt8.ofNat (v % 64 + 128) :: rest) =
      Char.ofNat v :: lossyChars none rest := by
  have hfirst : (UInt8.ofNat (v / 64 % 64 + 128)).toNat = v / 64 % 64 + 128 := by
    rw [UInt8.toNat_ofNat']
    omega
  have hsecond : (UInt8.ofNat (v % 64 + 128)).toNat = v % 64 + 128 := by
    rw [UInt8.toNat_ofNat']
    omega
  rw [lossyChars_more _ (by rw [hfirst]; exact hlow) (by rw [hfirst]; exact hhigh),
    lossyChars_last _ (by rw [hsecond]; omega) (by rw [hsecond]; omega)]
  have hsum : (bits * 64 + (v / 64 % 64 + 128) % 64) * 64 + (v % 64 + 128) % 64 = v := by omega
  rw [hfirst, hsecond, hsum]

/-- The bytes of a character are read as that character. -/
theorem lossyChars_char (c : Char) (rest : List UInt8) :
    lossyChars none (String.utf8EncodeChar c ++ rest) = c :: lossyChars none rest := by
  have hvalid : c.val.toNat < 55296 ∨ 57343 < c.val.toNat ∧ c.val.toNat < 1114112 := c.valid
  have hc : Char.ofNat c.val.toNat = c := Char.ofNat_toNat c
  rw [String.utf8EncodeChar]
  generalize c.val.toNat = v at hvalid hc
  rw [← hc]
  by_cases h1 : v ≤ 127
  · have hbyte : (UInt8.ofNat v).toNat = v := by
      rw [UInt8.toNat_ofNat']
      omega
    rw [if_pos h1, List.cons_append, List.nil_append, lossyChars, startScalar, hbyte, leadByte,
      if_pos (by omega)]
  · by_cases h2 : v ≤ 2047
    · have hbyte : (UInt8.ofNat (v / 64 % 32 + 192)).toNat = v / 64 + 192 := by
        rw [UInt8.toNat_ofNat']
        omega
      have hnext : (UInt8.ofNat (v % 64 + 128)).toNat = v % 64 + 128 := by
        rw [UInt8.toNat_ofNat']
        omega
      have hlead : leadByte (v / 64 + 192) = .lead ⟨v / 64, 1, 128, 191⟩ := by
        rw [leadByte, if_neg (by omega), if_neg (by omega), if_pos (by omega),
          Nat.add_sub_cancel]
      rw [if_neg h1, if_pos h2]
      simp only [List.cons_append, List.nil_append]
      rw [lossyChars_lead _ (hbyte ▸ hlead),
        lossyChars_last _ (by rw [hnext]; omega) (by rw [hnext]; omega)]
      have hsum : v / 64 * 64 + (v % 64 + 128) % 64 = v := by omega
      rw [hnext, hsum]
    · by_cases h3 : v ≤ 65535
      · have hbyte : (UInt8.ofNat (v / 4096 % 16 + 224)).toNat = v / 4096 + 224 := by
          rw [UInt8.toNat_ofNat']
          omega
        rw [if_neg h1, if_neg h2, if_pos h3]
        simp only [List.cons_append, List.nil_append]
        -- The first range excludes overlong forms, the second one surrogates.
        by_cases hlow : v / 4096 = 0
        · have hlead : leadByte (v / 4096 + 224) = .lead ⟨0, 2, 160, 191⟩ := by
            rw [hlow]
            rfl
          rw [lossyChars_lead _ (hbyte ▸ hlead),
            lossyChars_two _ (by omega) (by omega) (by omega)]
        · by_cases hsurrogate : v / 4096 = 13
          · have hlead : leadByte (v / 4096 + 224) = .lead ⟨13, 2, 128, 159⟩ := by
              rw [hsurrogate]
              rfl
            rw [lossyChars_lead _ (hbyte ▸ hlead),
              lossyChars_two _ (by omega) (by omega) (by omega)]
          · have hlead : leadByte (v / 4096 + 224) = .lead ⟨v / 4096, 2, 128, 191⟩ := by
              rw [leadByte, if_neg (by omega), if_neg (by omega), if_neg (by omega),
                if_neg (by omega), if_neg (by omega), if_pos (by omega), Nat.add_sub_cancel]
            rw [lossyChars_lead _ (hbyte ▸ hlead),
              lossyChars_two _ (by omega) (by omega) (by omega)]
      · have hbyte : (UInt8.ofNat (v / 262144 % 8 + 240)).toNat = v / 262144 + 240 := by
          rw [UInt8.toNat_ofNat']
          omega
        have hnext : (UInt8.ofNat (v / 4096 % 64 + 128)).toNat = v / 4096 % 64 + 128 := by
          rw [UInt8.toNat_ofNat']
          omega
        rw [if_neg h1, if_neg h2, if_neg h3]
        simp only [List.cons_append, List.nil_append]
        by_cases hlow : v / 262144 = 0
        · have hlead : leadByte (v / 262144 + 240) = .lead ⟨0, 3, 144, 191⟩ := by
            rw [hlow]
            rfl
          rw [lossyChars_lead _ (hbyte ▸ hlead),
            lossyChars_more _ (by rw [hnext]; omega) (by rw [hnext]; omega),
            lossyChars_two _ (by omega) (by omega) (by rw [hnext]; omega)]
        · by_cases hhigh : v / 262144 = 4
          · have hlead : leadByte (v / 262144 + 240) = .lead ⟨4, 3, 128, 143⟩ := by
              rw [hhigh]
              rfl
            rw [lossyChars_lead _ (hbyte ▸ hlead),
              lossyChars_more _ (by rw [hnext]; omega) (by rw [hnext]; omega),
              lossyChars_two _ (by omega) (by omega) (by rw [hnext]; omega)]
          · have hlead : leadByte (v / 262144 + 240) = .lead ⟨v / 262144, 3, 128, 191⟩ := by
              rw [leadByte, if_neg (by omega), if_neg (by omega), if_neg (by omega),
                if_neg (by omega), if_neg (by omega), if_neg (by omega), if_neg (by omega),
                if_pos (by omega), Nat.add_sub_cancel]
            rw [lossyChars_lead _ (hbyte ▸ hlead),
              lossyChars_more _ (by rw [hnext]; omega) (by rw [hnext]; omega),
              lossyChars_two _ (by omega) (by omega) (by rw [hnext]; omega)]

theorem fromUtf8Lossy_toUTF8 (s : String) : fromUtf8Lossy s.toUTF8.toList = s := by
  have hchars : ∀ chars : List Char,
      lossyChars none (chars.flatMap String.utf8EncodeChar) = chars := by
    intro chars
    induction chars with
    | nil => rfl
    | cons c chars ih => rw [List.flatMap_cons, lossyChars_char, ih]
  rw [fromUtf8Lossy, toUTF8_toList, hchars, String.ofList_toList]

/-! Arguments. -/

/-- The words of an argument are words. -/
def Ranged : WireArg → Prop
  | .int v => i32Min ≤ v ∧ v ≤ i32Max
  | .fixed v => i32Min ≤ v ∧ v ≤ i32Max
  | .uint v => v ≤ u32Max
  | .object v => v ≤ u32Max
  | .newId v => v ≤ u32Max
  | _ => True

instance : DecidablePred Ranged
  | .int _ => inferInstanceAs (Decidable (_ ∧ _))
  | .fixed _ => inferInstanceAs (Decidable (_ ∧ _))
  | .uint _ => inferInstanceAs (Decidable (_ ≤ _))
  | .object _ => inferInstanceAs (Decidable (_ ≤ _))
  | .newId _ => inferInstanceAs (Decidable (_ ≤ _))
  | .string _ => inferInstanceAs (Decidable True)
  | .array _ => inferInstanceAs (Decidable True)
  | .fd _ => inferInstanceAs (Decidable True)
  | .ancillaryFd => inferInstanceAs (Decidable True)

instance : DecidablePred Fits
  | .string _ => inferInstanceAs (Decidable (_ ≤ _))
  | .array _ => inferInstanceAs (Decidable (_ ≤ _))
  | .int _ => inferInstanceAs (Decidable True)
  | .fixed _ => inferInstanceAs (Decidable True)
  | .uint _ => inferInstanceAs (Decidable True)
  | .object _ => inferInstanceAs (Decidable True)
  | .newId _ => inferInstanceAs (Decidable True)
  | .fd _ => inferInstanceAs (Decidable True)
  | .ancillaryFd => inferInstanceAs (Decidable True)

/-- An argument as it is received: a descriptor comes beside the payload. -/
def received : WireArg → WireArg
  | .fd _ => .ancillaryFd
  | arg => arg

theorem readI32_writeI32 {v : Int} (h : i32Min ≤ v ∧ v ≤ i32Max) (rest : List UInt8) :
    readI32 (writeI32 v ++ rest) = v := by
  unfold i32Min i32Max at h
  unfold readI32 writeI32 asI32
  rw [WaylandWire.readU32_append]
  split_ifs
  · omega
  · omega

theorem readU32_writeU32 {n : Nat} (h : n ≤ u32Max) (rest : List UInt8) :
    readU32 (writeU32 n ++ rest) = n := by
  unfold u32Max at h
  rw [WaylandWire.readU32_append]
  omega

section Decode

variable {payload rest : List UInt8} {offset : Nat}

/-- What is read behind a length word is what was written there. -/
theorem take_drop_encoded {length : Nat}
    (hdrop : payload.drop offset = writeU32 length ++ (data ++ rest)) :
    (payload.drop (offset + 4)).take data.length = data := by
  rw [← List.drop_drop, hdrop]
  change (data ++ rest).take data.length = data
  exact List.take_left

theorem decodeString_text {s : String} (hdrop : payload.drop offset = encodeString s ++ rest)
    (hfits : s.toUTF8.toList.length ≤ maxWireStringBytes)
    (hlength : offset + (encodeString s).length ≤ payload.length) :
    decodeString payload offset = .ok (s, offset + (encodeString s).length) := by
  have hsize := length_encodeString s
  have hle := le_align4 (s.toUTF8.toList.length + 1)
  have hbytes : payload.drop offset = writeU32 (s.toUTF8.toList.length + 1) ++
      (s.toUTF8.toList ++ ([0] ++ padding (s.toUTF8.toList.length + 1) ++ rest)) := by
    rw [hdrop, encodeString]
    simp only [List.append_assoc]
  have hlen : readU32 (payload.drop offset) = s.toUTF8.toList.length + 1 := by
    rw [hbytes, readU32_writeU32]
    unfold maxWireStringBytes at hfits
    unfold u32Max
    omega
  have hread := take_drop_encoded hbytes
  simp only [decodeString, hlen]
  rw [if_neg (by omega), if_neg (by omega), if_neg (by omega), if_neg (by omega),
    Nat.add_sub_cancel, hread, fromUtf8Lossy_toUTF8, hsize, Nat.add_assoc]

theorem decodeArray_data (hdrop : payload.drop offset = encodeArray data ++ rest)
    (hfits : data.length ≤ maxWireArrayBytes)
    (hlength : offset + (encodeArray data).length ≤ payload.length) :
    decodeArray payload offset = .ok (data, offset + (encodeArray data).length) := by
  have hsize := length_encodeArray data
  have hle := le_align4 data.length
  have hbytes : payload.drop offset = writeU32 data.length ++
      (data ++ (padding data.length ++ rest)) := by
    rw [hdrop, encodeArray]
    simp only [List.append_assoc]
  have hlen : readU32 (payload.drop offset) = data.length := by
    rw [hbytes, readU32_writeU32]
    unfold maxWireArrayBytes at hfits
    unfold u32Max
    omega
  have hread := take_drop_encoded hbytes
  simp only [decodeArray, hlen]
  rw [if_neg (by omega), if_neg (by omega), if_neg (by omega), hread, hsize, Nat.add_assoc]

theorem decodeArg_received (hdrop : payload.drop offset = encodeArg arg ++ rest) (hfits : Fits arg)
    (hranged : Ranged arg) (hfd : argType arg = .fd → fdCount < total) :
    decodeArg payload (some total) offset fdCount (argType arg) =
      .ok (received arg, offset + (encodeArg arg).length) := by
  have hlength : encodeArg arg ≠ [] → offset + (encodeArg arg).length ≤ payload.length := by
    intro hne
    have hlen := congrArg List.length hdrop
    have hpos := List.length_pos_iff.mpr hne
    rw [List.length_drop, List.length_append] at hlen
    omega
  cases arg with
  | int v =>
    have hle := hlength (by simp [encodeArg, writeI32, writeU32])
    rw [encodeArg, length_writeI32] at hle
    rw [encodeArg] at hdrop
    rw [argType, decodeArg, decodeWord, hdrop, readI32_writeI32 hranged, encodeArg,
      length_writeI32, if_neg (by omega), received]
    simp
  | fixed v =>
    have hle := hlength (by simp [encodeArg, writeI32, writeU32])
    rw [encodeArg, length_writeI32] at hle
    rw [encodeArg] at hdrop
    rw [argType, decodeArg, decodeWord, hdrop, readI32_writeI32 hranged, encodeArg,
      length_writeI32, if_neg (by omega), received]
    simp
  | uint v | object v | newId v =>
    have hle := hlength (by simp [encodeArg, writeU32])
    rw [encodeArg, length_writeU32] at hle
    rw [encodeArg] at hdrop
    rw [argType, decodeArg, decodeWord, hdrop, readU32_writeU32 hranged, encodeArg,
      length_writeU32, if_neg (by omega), received]
    simp
  | string s =>
    have hle := hlength (by simp [encodeArg, encodeString, writeU32])
    rw [argType, decodeArg, decodeString_text hdrop hfits hle]
    rfl
  | array data =>
    have hle := hlength (by simp [encodeArg, encodeArray, writeU32])
    rw [argType, decodeArg, decodeArray_data hdrop hfits hle]
    rfl
  | fd n =>
    have hroom := hfd rfl
    rw [argType, decodeArg, decodeFd, if_neg (by omega), encodeArg, List.length_nil, Nat.add_zero,
      received]
  | ancillaryFd =>
    have hroom := hfd rfl
    rw [argType, decodeArg, decodeFd, if_neg (by omega), encodeArg, List.length_nil, Nat.add_zero,
      received]
    simp

/-- Encoded arguments decode from any offset, whatever follows them. -/
theorem decodeArgumentsFrom_received (hdrop : payload.drop offset = args.flatMap encodeArg ++ rest)
    (hfits : ∀ a ∈ args, Fits a) (hranged : ∀ a ∈ args, Ranged a)
    (hfd : fdCount + (args.map argType).count .fd ≤ total) :
    decodeArgumentsFrom payload (some total) (args.map argType) offset fdCount =
      .ok (args.map received, offset + (args.flatMap encodeArg).length) := by
  induction args generalizing offset fdCount with
  | nil => rfl
  | cons arg args ih =>
    simp only [List.flatMap_cons, List.append_assoc] at hdrop
    simp only [List.map_cons, List.count_cons] at hfd
    have hroom : argType arg = .fd → fdCount < total := by
      intro heq
      simp [heq] at hfd
      omega
    have hfirst := decodeArg_received hdrop (hfits arg List.mem_cons_self)
      (hranged arg List.mem_cons_self) hroom
    have hnext : payload.drop (offset + (encodeArg arg).length) =
        args.flatMap encodeArg ++ rest := by
      rw [← List.drop_drop, hdrop, List.drop_left]
    have hleft : (if argType arg = .fd then fdCount + 1 else fdCount) +
        (args.map argType).count .fd ≤ total := by
      by_cases heq : argType arg = .fd
      · simp [heq] at hfd ⊢
        omega
      · simp [heq] at hfd ⊢
        exact hfd
    have hothers := ih hnext (fun a ha => hfits a (List.mem_cons_of_mem _ ha))
      (fun a ha => hranged a (List.mem_cons_of_mem _ ha)) hleft
    simp only [List.map_cons, decodeArgumentsFrom, hfirst, bind, Except.bind, hothers,
      List.flatMap_cons, List.length_append, Nat.add_assoc]

end Decode

/-! Types. -/

theorem argMatches_iff {type : ArgType} : argMatches type arg = true ↔ argType arg = type := by
  cases type <;> cases arg <;> simp [argMatches, argType]

/-- Arguments match a declaration when their types are those declared. -/
theorem validateArgs_iff {spec : MessageSpec} :
    validateArgs spec args = true ↔ args.map argType = spec.args := by
  unfold validateArgs
  generalize spec.args = types
  induction types generalizing args with
  | nil => cases args <;> simp
  | cons type types ih =>
    cases args with
    | nil => simp
    | cons arg args =>
      have hrest := @ih args
      simp only [decide_eq_true_eq, List.length_cons, Nat.add_right_cancel_iff, List.zip_cons_cons,
        List.all_cons, Bool.and_eq_true, argMatches_iff, List.map_cons, List.cons.injEq] at hrest ⊢
      rw [← hrest]
      tauto

/-- A decoded argument is of the type that was asked for. -/
theorem decodeArg_type {next : Nat} {type : ArgType}
    (h : decodeArg payload totalFds offset fdCount type = .ok (arg, next)) :
    argType arg = type := by
  cases type with
  | int | uint | object | newId | fixed =>
    unfold decodeArg decodeWord at h
    split_ifs at h
    obtain ⟨rfl, -⟩ := Prod.mk.inj (Except.ok.inj h)
    rfl
  | string =>
    rw [decodeArg] at h
    cases hread : decodeString payload offset with
    | error e =>
      rw [hread] at h
      cases h
    | ok read =>
      rw [hread] at h
      obtain ⟨rfl, -⟩ := Prod.mk.inj (Except.ok.inj h)
      rfl
  | array =>
    rw [decodeArg] at h
    cases hread : decodeArray payload offset with
    | error e =>
      rw [hread] at h
      cases h
    | ok read =>
      rw [hread] at h
      obtain ⟨rfl, -⟩ := Prod.mk.inj (Except.ok.inj h)
      rfl
  | fd =>
    unfold decodeArg decodeFd at h
    cases totalFds with
    | none => cases h
    | some total =>
      dsimp only at h
      split_ifs at h
      obtain ⟨rfl, -⟩ := Prod.mk.inj (Except.ok.inj h)
      rfl

theorem decodeArgumentsFrom_types {types : List ArgType} {decoded : List WireArg × Nat}
    (h : decodeArgumentsFrom payload totalFds types offset fdCount = .ok decoded) :
    decoded.1.map argType = types := by
  induction types generalizing offset fdCount decoded with
  | nil =>
    obtain rfl := Except.ok.inj h
    rfl
  | cons type types ih =>
    rw [decodeArgumentsFrom] at h
    obtain ⟨⟨arg, next⟩, hfirst, h⟩ := bind_eq_ok.mp h
    obtain ⟨others, hothers, h⟩ := bind_eq_ok.mp h
    obtain rfl := Except.ok.inj h
    rw [List.map_cons, decodeArg_type hfirst, ih hothers]

/-- The payload of an event decodes to its arguments and is used up, and whatever decodes is as
the declaration says. -/
theorem decodeArguments_encodeEvent (objectId opcode : Nat) (spec : MessageSpec)
    (args : List WireArg) (total : Nat) (hmatch : validateArgs spec args = true)
    (hranged : ∀ arg ∈ args, Ranged arg) (hfits : ∀ arg ∈ args, Fits arg)
    (hfds : spec.args.count .fd ≤ total) :
    decodeArguments (encodeEvent objectId opcode args).payload spec (some total) =
        .ok (args.map received) ∧
      decodeArgumentsFrom (encodeEvent objectId opcode args).payload (some total) spec.args 0 0 =
        .ok (args.map received, (encodeEvent objectId opcode args).payload.length) ∧
      ∀ (spec : MessageSpec) (payload : List UInt8) (totalFds : Option Nat)
        (decoded : List WireArg), decodeArguments payload spec totalFds = .ok decoded →
          validateArgs spec decoded = true := by
  have htypes := validateArgs_iff.mp hmatch
  have hdrop : (args.flatMap encodeArg).drop 0 = args.flatMap encodeArg ++ [] := by simp
  have hroom : 0 + (args.map argType).count .fd ≤ total := by
    rw [htypes]
    omega
  have hdecode := decodeArgumentsFrom_received hdrop hfits hranged hroom
  rw [htypes, Nat.zero_add] at hdecode
  refine ⟨?_, hdecode, fun spec payload totalFds decoded hdecoded => ?_⟩
  · unfold decodeArguments
    change (decodeArgumentsFrom (args.flatMap encodeArg) (some total) spec.args 0 0).map _ = _
    rw [hdecode]
    rfl
  · unfold decodeArguments at hdecoded
    cases hrun : decodeArgumentsFrom payload totalFds spec.args 0 0 with
    | error e =>
      rw [hrun] at hdecoded
      cases hdecoded
    | ok read =>
      rw [hrun] at hdecoded
      obtain rfl := Except.ok.inj hdecoded
      exact validateArgs_iff.mpr (decodeArgumentsFrom_types hrun)

/-- Empty and unaligned strings and arrays, with a descriptor and signed words between them. -/
theorem decodeArguments_encodeEvent_mixed :
    decodeArguments (encodeEvent 3 1 [.string "", .array [7, 8, 9], .fd 4, .int (-5),
        .string "né", .array [], .fixed 640, .newId 12]).payload
        ⟨"mixed", [.string, .array, .fd, .int, .string, .array, .fixed, .newId]⟩ (some 1) =
      .ok [.string "", .array [7, 8, 9], .ancillaryFd, .int (-5), .string "né", .array [],
        .fixed 640, .newId 12] := by
  exact (decodeArguments_encodeEvent 3 1 ⟨"mixed", _⟩ _ 1 rfl (by decide) (by decide +kernel)
    (by decide)).1

end TuffXwin.Headless
