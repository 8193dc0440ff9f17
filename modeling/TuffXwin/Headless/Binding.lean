import TuffXwin.Headless.Destruction
import TuffXwin.Headless.ObjectIds
import TuffXwin.Headless.RoundTrip

/-! The binding of a global. The handler reads its payload three times, and what passes is
exactly one layout: the name, the text of the interface, the version and the new id. The object
is there before the events of an output are, and one of them may not be representable. -/

namespace TuffXwin.Headless
open Lib
open WaylandWire (WireError WireArg WaylandMessage readU32 writeU32 padding displayId encodeEvent)

variable {byte : Nat} {scalar : PartialScalar}
variable {n : Nat} {interface : Interface}

/-! Interface names. -/

theorem interface_ascii (interface : Interface) :
    ∀ c ∈ interface.name.toList, c.toNat < 128 := by
  have hall : interface.name.toList.all (fun c => decide (c.toNat < 128)) = true := by
    cases interface <;> decide
  simpa only [List.all_eq_true, decide_eq_true_eq] using hall

theorem interface_short (interface : Interface) : interface.name.toList.length ≤ 64 := by
  cases interface <;> decide

/-- The bytes of an interface name. -/
def Interface.bytes (interface : Interface) : List UInt8 :=
  interface.name.toList.map fun c => UInt8.ofNat c.toNat

theorem toUTF8_name (interface : Interface) :
    interface.name.toUTF8.toList = interface.bytes := by
  have hchars : ∀ chars : List Char, (∀ c ∈ chars, c.toNat < 128) →
      chars.flatMap String.utf8EncodeChar = chars.map fun c => UInt8.ofNat c.toNat := by
    intro chars hascii
    induction chars with
    | nil => rfl
    | cons c chars ih =>
      have hc : c.val.toNat ≤ 127 := by
        have hlt := hascii c List.mem_cons_self
        change c.val.toNat < 128 at hlt
        omega
      rw [List.flatMap_cons, ih fun x hx => hascii x (List.mem_cons_of_mem c hx),
        String.utf8EncodeChar]
      rw [if_pos hc]
      rfl
  rw [toUTF8_toList, hchars _ (interface_ascii interface), Interface.bytes]

/-- Whatever the bytes that are missing, the scalar is a character outside of ASCII. -/
def WideFrom : Nat → Nat → Nat → Nat → Prop
  | 0, bits, _, _ => 128 ≤ bits ∧ bits.isValidChar
  | missing + 1, bits, low, high =>
    ∀ byte, low ≤ byte → byte ≤ high → WideFrom missing (bits * 64 + byte % 64) 128 191

structure PartialScalar.Wide (scalar : PartialScalar) : Prop where
  missing : scalar.missing ≠ 0
  from_bits : WideFrom scalar.missing scalar.bits scalar.low scalar.high

theorem leadByte_wide (h : leadByte byte = .lead scalar) : scalar.Wide := by
  unfold leadByte at h
  split_ifs at h
  all_goals
    obtain rfl := LeadByte.lead.inj h
    refine ⟨by simp, ?_⟩
    simp only [WideFrom, Nat.isValidChar]
    intros
    omega

theorem leadByte_scalar {c : Char} (h : leadByte byte = .scalar c) :
    byte < 128 ∧ c = Char.ofNat byte := by
  unfold leadByte at h
  split_ifs at h with hascii
  obtain rfl := LeadByte.scalar.inj h
  exact ⟨hascii, rfl⟩

theorem toNat_ofNat (h : n.isValidChar) : (Char.ofNat n).toNat = n := by
  unfold Char.ofNat
  rw [dif_pos h]
  rfl

theorem replacementCharacter_wide : 128 ≤ replacementCharacter.toNat := by decide

theorem PartialScalar.Wide.next (h : scalar.Wide) (hlow : scalar.low ≤ byte)
    (hhigh : byte ≤ scalar.high) :
    WideFrom (scalar.missing - 1) (scalar.bits * 64 + byte % 64) 128 191 := by
  obtain ⟨bits, missing, low, high⟩ := scalar
  cases missing with
  | zero => exact absurd rfl h.missing
  | succ missing => exact h.from_bits byte hlow hhigh

/-- Once a scalar of several bytes has begun, the next character is not ASCII. -/
theorem lossyChars_wide (h : scalar.Wide) (bytes : List UInt8) :
    ∃ c rest, lossyChars (some scalar) bytes = c :: rest ∧ 128 ≤ c.toNat := by
  induction bytes generalizing scalar with
  | nil => exact ⟨_, _, rfl, replacementCharacter_wide⟩
  | cons byte bytes ih =>
    rw [lossyChars]
    by_cases hrange : scalar.low ≤ byte.toNat ∧ byte.toNat ≤ scalar.high
    · rw [if_pos hrange]
      have hnext := h.next hrange.1 hrange.2
      by_cases hlast : scalar.missing = 1
      · rw [hlast] at hnext
        refine ⟨_, _, if_pos hlast, ?_⟩
        rw [toNat_ofNat hnext.2]
        exact hnext.1
      · dsimp only
        rw [if_neg hlast]
        have hmissing := h.missing
        exact ih ⟨by dsimp only; omega, hnext⟩
    · rw [if_neg hrange]
      exact ⟨_, _, rfl, replacementCharacter_wide⟩

/-- Only the bytes of an ASCII text are decoded to it. -/
theorem lossyChars_ascii {bytes : List UInt8} {chars : List Char}
    (h : lossyChars none bytes = chars) (hascii : ∀ c ∈ chars, c.toNat < 128) :
    bytes = chars.map fun c => UInt8.ofNat c.toNat := by
  induction bytes generalizing chars with
  | nil =>
    rw [← h]
    rfl
  | cons byte bytes ih =>
    rw [lossyChars, startScalar] at h
    cases hlead : leadByte byte.toNat with
    | scalar c =>
      obtain ⟨hlt, rfl⟩ := leadByte_scalar hlead
      rw [hlead] at h
      subst h
      have hvalid : Nat.isValidChar byte.toNat := by
        unfold Nat.isValidChar
        omega
      rw [List.map_cons, toNat_ofNat hvalid, UInt8.ofNat_toNat,
        ← ih rfl fun c hc => hascii c (List.mem_cons_of_mem _ hc)]
    | lead scalar =>
      obtain ⟨c, rest, hchars, hwide⟩ := lossyChars_wide (leadByte_wide hlead) bytes
      rw [hlead] at h
      change lossyChars (some scalar) bytes = chars at h
      have hc := hascii c (by rw [← h, hchars]; exact List.mem_cons_self)
      omega
    | invalid =>
      rw [hlead] at h
      subst h
      have hc := hascii replacementCharacter List.mem_cons_self
      have hwide := replacementCharacter_wide
      omega

theorem isUtf8_ascii {bytes : List UInt8} (h : ∀ byte ∈ bytes, byte.toNat < 128) :
    isUtf8 none bytes = true := by
  induction bytes with
  | nil => rfl
  | cons byte bytes ih =>
    have hbyte := h byte List.mem_cons_self
    rw [isUtf8, leadByte, if_pos hbyte]
    exact ih fun x hx => h x (List.mem_cons_of_mem byte hx)

/-! The layout of a bind. -/

/-- The bytes of a bind; those behind the text only fill its last word. -/
def bindRequest (name : Nat) (interface : Interface) (fill : List UInt8) (version newId : Nat) :
    List UInt8 :=
  writeU32 name ++ (writeU32 (interface.name.toUTF8.toList.length + 1) ++
    (interface.name.toUTF8.toList ++ ([0] ++ (fill ++ (writeU32 version ++ writeU32 newId)))))

/-- The display is live in every core. -/
def HeadlessWireCore.Taken (core : HeadlessWireCore) (id : Nat) : Prop :=
  id = displayId ∨ core.registry.objects.contains id = true ∨
    core.registry.retiredPendingDelete.contains id = true

/-- The payload binds the global under the new id. -/
structure Binds (core : HeadlessWireCore) (payload : List UInt8) (global : WireGlobal)
    (version newId : Nat) : Prop where
  words : global.name ≤ u32Max ∧ version ≤ u32Max ∧ newId ≤ u32Max
  layout : ∃ fill : List UInt8,
    fill.length = (padding (global.interface.name.toUTF8.toList.length + 1)).length ∧
      payload = bindRequest global.name global.interface fill version newId
  advertised : core.globals.find? (fun candidate => candidate.name = global.name) = some global
  version : 1 ≤ version ∧ version ≤ global.version
  free : ¬ core.Taken newId

/-- A bind of this payload does what it is for and nothing else: it registers the object that
the payload is a bind of, or fails and leaves the registry as it was. -/
structure BindsExactly (core : HeadlessWireCore) (payload : List UInt8) : Prop where
  accepts : ∀ global version newId, Binds core payload global version newId →
    ∃ core', handleRegistryBind payload core = .ok () core' ∧
      core'.registry = core.registry.registered newId ⟨global.interface, version⟩
  only : ∀ core', handleRegistryBind payload core = .ok () core' →
    ∃ global version newId, Binds core payload global version newId
  refuses : ∀ fault core', handleRegistryBind payload core = .error fault core' →
    core'.registry = core.registry

/-- The events of an output that has its refresh in millihertz fit their words. -/
def HeadlessWireCore.Announceable (core : HeadlessWireCore) (global : WireGlobal) : Prop :=
  global.interface = .wlOutput → ∀ output, core.outputOfGlobal global = some output →
    output.refreshNsec = 0 ∨ 466 ≤ output.refreshNsec

section Bind

variable {core : HeadlessWireCore} {payload : List UInt8} {global : WireGlobal}
  {version newId : Nat}

theorem available_iff {id : Nat} : core.registry.Available id ↔ ¬ core.Taken id := by
  unfold WireObjectRegistry.Available HeadlessWireCore.Taken
  simp only [not_or, Bool.not_eq_true]

theorem utf8_short (interface : Interface) : interface.name.toUTF8.toList.length ≤ 64 := by
  rw [toUTF8_name, Interface.bytes, List.length_map]
  exact interface_short interface

theorem utf8_valid (interface : Interface) : isUtf8 none interface.name.toUTF8.toList = true := by
  rw [toUTF8_name]
  refine isUtf8_ascii fun byte hbyte => ?_
  obtain ⟨c, hc, rfl⟩ := List.mem_map.mp hbyte
  have hlt := interface_ascii interface c hc
  rw [UInt8.toNat_ofNat']
  omega

section Read

variable (name : Nat) (interface : Interface) (fill : List UInt8) (version newId)

theorem bindRequest_length :
    (bindRequest name interface fill version newId).length =
      17 + interface.name.toUTF8.toList.length + fill.length := by
  simp only [bindRequest, List.length_append, length_writeU32, List.length_singleton]
  omega

variable {name} in
theorem bindRequest_name (h : name ≤ u32Max) :
    readU32 ((bindRequest name interface fill version newId).drop 0) = name :=
  readU32_writeU32 h _

theorem bindRequest_text_length :
    readU32 ((bindRequest name interface fill version newId).drop 4) =
      interface.name.toUTF8.toList.length + 1 := by
  have hshort := utf8_short interface
  exact readU32_writeU32 (by unfold u32Max; omega) _

theorem bindRequest_drop :
    (bindRequest name interface fill version newId).drop 8 =
      interface.name.toUTF8.toList ++
        ([0] ++ (fill ++ (writeU32 version ++ writeU32 newId))) := rfl

theorem bindRequest_text :
    ((bindRequest name interface fill version newId).drop 8).take
        interface.name.toUTF8.toList.length = interface.name.toUTF8.toList := by
  rw [bindRequest_drop, List.take_left]

theorem bindRequest_nul :
    (bindRequest name interface fill version newId)[8 + interface.name.toUTF8.toList.length]? =
      some 0 := by
  rw [← List.getElem?_drop, bindRequest_drop, List.getElem?_append_right le_rfl, Nat.sub_self]
  rfl

theorem bindRequest_words :
    (bindRequest name interface fill version newId).drop
        (9 + interface.name.toUTF8.toList.length + fill.length) =
      writeU32 version ++ writeU32 newId := by
  have hsplit : 9 + interface.name.toUTF8.toList.length + fill.length =
      8 + (interface.name.toUTF8.toList.length + (1 + fill.length)) := by omega
  rw [hsplit, ← List.drop_drop, bindRequest_drop, List.drop_length_add_append,
    ← List.drop_drop]
  exact List.drop_left

variable {fill} in
theorem length_fill (h : fill.length = (padding n).length) : n + fill.length = align4 n := by
  have hle := le_align4 n
  rw [h, length_padding]
  omega

variable {interface fill} in
theorem decodeString_bindRequest
    (hfill : fill.length = (padding (interface.name.toUTF8.toList.length + 1)).length) :
    decodeString (bindRequest name interface fill version newId) 4 =
      .ok (interface.name, 9 + interface.name.toUTF8.toList.length + fill.length) := by
  have hshort := utf8_short interface
  have hlength := bindRequest_length version newId name interface fill
  have halign := length_fill hfill
  simp only [decodeString, bindRequest_text_length]
  rw [if_neg (by omega), if_neg (by unfold maxWireStringBytes; omega), if_neg (by omega),
    if_neg (by omega), Nat.add_sub_cancel, bindRequest_text, fromUtf8Lossy_toUTF8, ← halign]
  have hoffset : 4 + 4 + (interface.name.toUTF8.toList.length + 1 + fill.length) =
      9 + interface.name.toUTF8.toList.length + fill.length := by omega
  rw [hoffset]

end Read

theorem requireLength_ok {length : Nat} (h : length ≤ payload.length) :
    requireLength payload length core = .ok () core := by
  unfold requireLength
  rw [if_neg (by omega)]
  rfl

theorem wordAt_ok {offset : Nat} (h : offset + 4 ≤ payload.length) :
    wordAt payload offset core = .ok (readU32 (payload.drop offset)) core := by
  unfold wordAt
  rw [if_neg (by omega)]
  rfl

theorem require_ok {check : Prop} [Decidable check] {reason : String} (h : check) :
    require check reason core = .ok () core := by
  unfold require
  rw [if_pos h]
  rfl

theorem checkInterface_bindRequest {name : Nat} {fill : List UInt8} :
    checkInterface (bindRequest name interface fill version newId) core = .ok () core := by
  have hlength := bindRequest_length version newId name interface fill
  have hnul := bindRequest_nul version newId name interface fill
  unfold checkInterface
  rw [bind_of_ok (wordAt_ok (by omega)), bindRequest_text_length,
    bind_of_ok (require_ok (by omega)), bind_of_ok (requireLength_ok (by omega)),
    bind_of_ok (require_ok (by rw [← hnul]; congr 1; omega))]
  rw [require_ok]
  rw [Nat.add_sub_cancel, bindRequest_text]
  exact utf8_valid interface

/-- Every check passes on a bind, and what remains is what follows the registration. -/
theorem Binds.handle (h : Binds core payload global version newId) :
    handleRegistryBind payload core =
      announceGlobal newId global (core.registered newId ⟨global.interface, version⟩) := by
  obtain ⟨fill, hfill, rfl⟩ := h.layout
  have hlength := bindRequest_length version newId global.name global.interface fill
  have hwords := bindRequest_words version newId global.name global.interface fill
  have hversion : readU32 ((bindRequest global.name global.interface fill version newId).drop
      (9 + global.interface.name.toUTF8.toList.length + fill.length)) = version := by
    rw [hwords, readU32_writeU32 h.words.2.1]
  have hid : readU32 ((bindRequest global.name global.interface fill version newId).drop
      (9 + global.interface.name.toUTF8.toList.length + fill.length + 4)) = newId := by
    rw [← List.drop_drop, hwords]
    exact readU32_writeU32 h.words.2.2 []
  have htext : textAt (bindRequest global.name global.interface fill version newId) 4 core =
      .ok (global.interface.name,
        9 + global.interface.name.toUTF8.toList.length + fill.length) core := by
    unfold textAt
    rw [decodeString_bindRequest _ _ _ hfill]
    rfl
  have hglobal : findGlobal global.name core = .ok global core := by
    unfold findGlobal
    rw [bind_get, h.advertised]
    rfl
  have hregister : registerClientObject newId global.interface version core =
      .ok () (core.registered newId ⟨global.interface, version⟩) := by
    have hregistry : core.registry.registerClientObject newId global.interface version =
        .ok (core.registry.registered newId ⟨global.interface, version⟩) :=
      if_pos (available_iff.mpr h.free)
    unfold registerClientObject
    rw [bind_of_ok (onPart_ok hregistry)]
    rfl
  unfold handleRegistryBind
  rw [bind_of_ok (requireLength_ok (by omega)), bind_of_ok (wordAt_ok (by omega)),
    bindRequest_name _ _ _ _ h.words.1, bind_of_ok checkInterface_bindRequest, bind_of_ok htext,
    bind_of_ok (requireLength_ok (by dsimp only; omega)),
    bind_of_ok (require_ok (by dsimp only; omega)), bind_of_ok (wordAt_ok (by dsimp only; omega)),
    bind_of_ok (wordAt_ok (by dsimp only; omega)), hversion, hid, bind_of_ok hglobal,
    bind_of_ok (require_ok rfl), bind_of_ok (require_ok (by have := h.version; omega)),
    bind_of_ok hregister]

/-! What passes the checks is a bind. -/

theorem writeU32_readU32 (a b c d : UInt8) (rest : List UInt8) :
    writeU32 (readU32 (a :: b :: c :: d :: rest)) = [a, b, c, d] := by
  have ha := a.toNat_lt
  have hb := b.toNat_lt
  have hc := c.toNat_lt
  have hd := d.toNat_lt
  simp only [readU32, writeU32, List.cons.injEq, and_true, ← UInt8.toNat_inj, UInt8.toNat_ofNat']
  omega

/-- A word and what is behind it. -/
theorem word_drop (bytes : List UInt8) (offset : Nat) (h : offset + 4 ≤ bytes.length) :
    writeU32 (readU32 (bytes.drop offset)) ++ bytes.drop (offset + 4) = bytes.drop offset := by
  rw [← List.drop_drop]
  have hlength : 4 ≤ (bytes.drop offset).length := by
    rw [List.length_drop]
    omega
  generalize bytes.drop offset = tail at hlength
  rcases tail with _ | ⟨a, _ | ⟨b, _ | ⟨c, _ | ⟨d, rest⟩⟩⟩⟩
  all_goals try simp only [List.length_cons, List.length_nil] at hlength; omega
  rw [writeU32_readU32]
  rfl

theorem take_drop_drop (bytes : List UInt8) (i j : Nat) :
    (bytes.drop i).take j ++ bytes.drop (i + j) = bytes.drop i := by
  rw [← List.drop_drop, List.take_append_drop]

/-- The payload is the layout of what was read from it. -/
theorem layout_of_read {text : String × Nat} (hpositive : readU32 (payload.drop 4) ≠ 0)
    (hnul : payload[7 + readU32 (payload.drop 4)]? = some 0)
    (htext : decodeString payload 4 = .ok text) (hname : text.1 = interface.name)
    (hlength : payload.length = text.2 + 8) :
    ∃ fill : List UInt8,
      fill.length = (padding (interface.name.toUTF8.toList.length + 1)).length ∧
        payload = bindRequest (readU32 payload) interface fill
          (readU32 (payload.drop text.2)) (readU32 (payload.drop (text.2 + 4))) := by
  simp only [decodeString] at htext
  split_ifs at htext with hshort hlong hroom
  generalize hlen : readU32 (payload.drop 4) = len at *
  obtain rfl := Except.ok.inj htext
  dsimp only at hname hlength ⊢
  -- The text is ASCII, so its bytes are the ones that were decoded.
  have hbytes : (payload.drop 8).take (len - 1) = interface.bytes := by
    refine lossyChars_ascii ?_ (interface_ascii interface)
    rw [← hname, fromUtf8Lossy, String.toList_ofList]
  have hutf8 : (payload.drop 8).take (len - 1) = interface.name.toUTF8.toList := by
    rw [hbytes, toUTF8_name]
  have hle := le_align4 len
  have hsize : interface.name.toUTF8.toList.length + 1 = len := by
    rw [← hutf8, List.length_take, List.length_drop]
    omega
  refine ⟨(payload.drop (8 + len)).take (align4 len - len), ?_, ?_⟩
  · rw [hsize, length_padding, List.length_take, List.length_drop]
    unfold align4 at hle hlength ⊢
    omega
  · have hzero : (payload.drop (7 + len)).take 1 = [0] := by
      rw [List.take_one, List.head?_drop, hnul]
      rfl
    have hversion := word_drop payload (8 + align4 len) (by omega)
    have hid := word_drop payload (8 + align4 len + 4) (by omega)
    have hnothing : payload.drop (8 + align4 len + 4 + 4) = [] :=
      List.drop_eq_nil_of_le (by omega)
    rw [hnothing, List.append_nil] at hid
    have hfill := take_drop_drop payload (8 + len) (align4 len - len)
    have hend := take_drop_drop payload (7 + len) 1
    have hbody := take_drop_drop payload 8 (len - 1)
    have hwords : writeU32 len ++ payload.drop 8 = payload.drop 4 := by
      rw [← hlen]
      exact word_drop payload 4 (by omega)
    have hfirst : writeU32 (readU32 payload) ++ payload.drop 4 = payload :=
      word_drop payload 0 (by omega)
    rw [show 8 + len + (align4 len - len) = 8 + align4 len by omega] at hfill
    rw [show 7 + len + 1 = 8 + len by omega] at hend
    rw [show 8 + (len - 1) = 7 + len by omega] at hbody
    change payload = bindRequest (readU32 payload) interface _
      (readU32 (payload.drop (8 + align4 len))) (readU32 (payload.drop (8 + align4 len + 4)))
    unfold bindRequest
    rw [hsize, ← hutf8, ← hzero, hid, hversion, hfill, hend, hbody, hwords, hfirst]

/-- A payload that is no bind changes nothing, and is refused without a panic. -/
theorem handleRegistryBind_refused {I : HeadlessWireCore → Prop} (hI : I core)
    (h : ∀ global version newId, ¬ Binds core payload global version newId) :
    Ends (Tolerated True I) (handleRegistryBind payload) core fun _ _ => False := by
  unfold handleRegistryBind checkInterface findGlobal
  simp only [ends_bind]
  refine (ends_requireLength hI).mpr fun hhead => ?_
  refine (ends_wordAt (by omega)).mpr ((ends_wordAt (by omega)).mpr ?_)
  refine (ends_require hI).mpr fun hpositive => (ends_requireLength hI).mpr fun _ => ?_
  refine (ends_require hI).mpr fun hnul => (ends_require hI).mpr fun _ => ?_
  refine (ends_textAt hI).mpr fun text htext => (ends_requireLength hI).mpr fun _ => ?_
  refine (ends_require hI).mpr fun hlength => ?_
  refine (ends_wordAt (by omega)).mpr ((ends_wordAt (by omega)).mpr ?_)
  refine ends_get.mpr ((ends_lift hI).mpr ⟨fun global hglobal => ?_, fun _ => ?_⟩)
  · rw [orInvalid_eq_ok] at hglobal
    refine (ends_require hI).mpr fun hname => (ends_require hI).mpr fun hversion => ?_
    refine (ends_registerClientObject hI).mpr fun havailable => ?_
    have hgname : global.name = readU32 payload :=
      of_decide_eq_true (List.find?_some hglobal :)
    obtain ⟨fill, hfill, hlayout⟩ := layout_of_read hpositive hnul htext hname hlength
    refine absurd ⟨⟨?_, WaylandWire.readU32_le _, WaylandWire.readU32_le _⟩,
      ⟨fill, hfill, hgname ▸ hlayout⟩, ?_, by omega, available_iff.mp havailable⟩
      (h global (readU32 (payload.drop text.2)) (readU32 (payload.drop (text.2 + 4))))
    · rw [hgname]
      exact WaylandWire.readU32_le _
    · rw [hgname]
      exact hglobal
  · exact calm_orInvalid _ _

/-! What follows the registration. -/

theorem refreshPeriodToMillihz_representable {refreshNs : Nat} :
    (∃ millihz, refreshPeriodToMillihz refreshNs = .ok millihz) ↔
      refreshNs = 0 ∨ 466 ≤ refreshNs := by
  unfold refreshPeriodToMillihz
  by_cases hzero : refreshNs = 0
  · rw [if_pos hzero]
    exact iff_of_true ⟨0, rfl⟩ (.inl hzero)
  · have hbound : (1000000000000 + refreshNs / 2) / refreshNs ≤ 2147483647 ↔
        466 ≤ refreshNs := by
      rw [← Nat.lt_succ_iff, Nat.div_lt_iff_lt_mul (by omega)]
      omega
    rw [if_neg hzero]
    dsimp only
    split_ifs with hfits
    · refine iff_of_true ⟨_, rfl⟩ (.inr (hbound.mp ?_))
      unfold i32Max at hfits
      omega
    · refine iff_of_false (by simp) ?_
      rintro (h | h)
      · exact hzero h
      · have hle := hbound.mpr h
        unfold i32Max at hfits
        omega

variable (global) in
/-- The events of a global are sent unless they are of an output and cannot be represented. -/
theorem announceGlobal_ends (hobject : ∃ object, core.object? newId = some object) :
    Ends (fun _ core' => ¬ core.Announceable global ∧ core'.registry = core.registry)
      (announceGlobal newId global) core
      fun _ core' => core.Announceable global ∧ core'.registry = core.registry := by
  have hother : global.interface ≠ .wlOutput → core.Announceable global :=
    fun hne hinterface => absurd hinterface hne
  unfold announceGlobal
  split
  case _ hinterface => exact ⟨hother (by simp [hinterface]), rfl⟩
  case _ hinterface => exact ⟨hother (by simp [hinterface]), rfl⟩
  case _ hinterface => exact ⟨hother (by simp [hinterface]), rfl⟩
  case _ hinterface =>
    unfold bindOutput
    simp only [ends_bind, ends_get]
    cases houtput : core.outputOfGlobal global with
    | none =>
      refine ⟨fun _ output hsome => ?_, rfl⟩
      rw [houtput] at hsome
      cases hsome
    | some output =>
      obtain ⟨object, hobject⟩ := hobject
      have hannounceable : core.Announceable global ↔
          ∃ millihz, refreshPeriodToMillihz output.refreshNsec = .ok millihz := by
        rw [refreshPeriodToMillihz_representable]
        refine ⟨fun h => h hinterface output houtput, fun h _ output' hsome => ?_⟩
        rw [houtput] at hsome
        obtain rfl := Option.some.inj hsome
        exact h
      have hget : getObject newId (core.withOutput newId output) =
          .ok object (core.withOutput newId output) := by
        change lift (orInvalid (core.object? newId) newId) _ = _
        rw [hobject]
        rfl
      dsimp only
      unfold sendOutputState
      simp only [ends_bind, ends_set]
      unfold Ends
      rw [hget]
      dsimp only
      cases hmillihz : refreshPeriodToMillihz output.refreshNsec with
      | ok millihz =>
        refine ⟨hannounceable.mpr ⟨millihz, hmillihz⟩, ?_⟩
        exact object?_foldl_pushed _ _
      | error fault =>
        refine ⟨fun h => ?_, rfl⟩
        obtain ⟨millihz, hok⟩ := hannounceable.mp h
        rw [hmillihz] at hok
        cases hok
  case _ hne => exact ⟨hother hne, rfl⟩

theorem registered_object (core : HeadlessWireCore) (id : Nat) (object : WireObject) :
    (core.registered id object).object? id = some object := by
  change (core.registry.objects.insert id object).get? id = _
  rw [OrdMap.get?_insert_self]

theorem Binds.ends (h : Binds core payload global version newId) :
    Ends (fun _ core' => ¬ core.Announceable global ∧
        core'.registry = core.registry.registered newId ⟨global.interface, version⟩)
      (handleRegistryBind payload) core
      fun _ core' => core.Announceable global ∧
        core'.registry = core.registry.registered newId ⟨global.interface, version⟩ := by
  have hends := announceGlobal_ends global
    ⟨_, registered_object core newId ⟨global.interface, version⟩⟩
  unfold Ends at hends ⊢
  rw [h.handle]
  exact hends

/-- The handler accepts its grammar and nothing else, and a failure registers nothing, unless
the payload is a bind of an output whose period is too short for its rate in millihertz. -/
theorem bindsExactly_iff (core : HeadlessWireCore) (payload : List UInt8) :
    BindsExactly core payload ↔ ∀ global version newId,
      Binds core payload global version newId → core.Announceable global := by
  constructor
  · intro h global version newId hbinds
    obtain ⟨core', hok, -⟩ := h.accepts global version newId hbinds
    exact (hbinds.ends.ok hok).1
  · intro h
    by_cases hbinds : ∃ global version newId, Binds core payload global version newId
    · refine ⟨fun global version newId hbind => ?_, fun _ _ => hbinds,
        fun fault core' herror => ?_⟩
      · have hends := hbind.ends
        unfold Ends at hends
        cases hresult : handleRegistryBind payload core with
        | ok _ core' =>
          rw [hresult] at hends
          exact ⟨core', rfl, hends.2⟩
        | error fault core' =>
          rw [hresult] at hends
          exact absurd (h global version newId hbind) hends.1
      · obtain ⟨global, version, newId, hbind⟩ := hbinds
        exact absurd (h global version newId hbind) (hbind.ends.error herror).1
    · have hnone : ∀ global version newId, ¬ Binds core payload global version newId :=
        fun global version newId hbind => hbinds ⟨global, version, newId, hbind⟩
      have hrefused := handleRegistryBind_refused
        (I := fun core' => core'.registry = core.registry) rfl hnone
      exact ⟨fun global version newId hbind => absurd hbind (hnone global version newId),
        fun core' hok => absurd (hrefused.ok hok) id, fun fault core' herror =>
          (hrefused.error herror).2⟩

end Bind

/-- An output at three million hertz. -/
def fastOutput : RealOutput := ⟨"eDP-1", 0, 0, 1920, 1080, 333, 1⟩

def fastClient : Client := clients.run { core := freshCore true true } [.addOutput fastOutput]

def bindFastOutput : List UInt8 := bindRequest 100 .wlOutput [0, 0] 4 3

/-- The core that a handler leaves. -/
def leftBehind {ε σ α : Type} : EStateM.Result ε σ α → σ
  | .ok _ core => core
  | .error _ core => core

/-- The bind of such an output fails, and its object stays. -/
theorem fastOutput_not_bindsExactly :
    clients.Reachable fastClient ∧ fastClient.fault = none ∧
      ¬ BindsExactly fastClient.core bindFastOutput := by
  have hinit : clients.Reachable { core := freshCore true true } := .init ⟨true, true, rfl⟩
  refine ⟨hinit.run _, by decide +kernel, fun h => ?_⟩
  have hfails : failed (handleRegistryBind bindFastOutput fastClient.core) = true := by
    decide +kernel
  have hleft : (leftBehind (handleRegistryBind bindFastOutput
      fastClient.core)).registry.objects.contains 3 = true := by decide +kernel
  have hbefore : fastClient.core.registry.objects.contains 3 = false := by decide +kernel
  cases hresult : handleRegistryBind bindFastOutput fastClient.core with
  | ok _ core' =>
    rw [hresult] at hfails
    cases hfails
  | error fault core' =>
    have hregistry := h.refuses fault core' hresult
    rw [hresult] at hleft
    change core'.registry.objects.contains 3 = true at hleft
    rw [hregistry, hbefore] at hleft
    cases hleft

end TuffXwin.Headless
