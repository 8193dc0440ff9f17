import TuffXwin.Headless.Interfaces
import TuffXwin.WaylandWire.Wire

/-! The arguments of Wayland messages as the core decodes them. A decoder returns the
offset behind what it read, which may lie behind the payload where padding is missing. -/

namespace TuffXwin.Headless
open Lib
open WaylandWire (WireError WireArg readU32)

def maxWireStringBytes : Nat := 65536
def maxWireArrayBytes : Nat := 262144

def align4 (n : Nat) : Nat := (n + 3) / 4 * 4

/-- `as i32` on a word. -/
def asI32 (n : Nat) : Int := if n < 2147483648 then n else (n : Int) - 4294967296

/-- `as u32` on a signed word. -/
def asU32 (v : Int) : Nat := (v % 4294967296).toNat

def readI32 (bytes : List UInt8) : Int := asI32 (readU32 bytes)

def replacementCharacter : Char := Char.ofNat 65533

/-- A scalar of which bytes are missing: its bits so far, and the range of the next byte. -/
structure PartialScalar where
  bits : Nat
  missing : Nat
  low : Nat
  high : Nat

inductive LeadByte
  | scalar (c : Char)
  | lead (rest : PartialScalar)
  | invalid

def leadByte (byte : Nat) : LeadByte :=
  if byte < 128 then .scalar (Char.ofNat byte)
  else if byte < 194 then .invalid
  else if byte < 224 then .lead ⟨byte - 192, 1, 128, 191⟩
  else if byte = 224 then .lead ⟨0, 2, 160, 191⟩
  else if byte = 237 then .lead ⟨13, 2, 128, 159⟩
  else if byte < 240 then .lead ⟨byte - 224, 2, 128, 191⟩
  else if byte = 240 then .lead ⟨0, 3, 144, 191⟩
  else if byte < 244 then .lead ⟨byte - 240, 3, 128, 191⟩
  else if byte = 244 then .lead ⟨4, 3, 128, 143⟩
  else .invalid

def startScalar (byte : Nat) (resume : Option PartialScalar → List Char) : List Char :=
  match leadByte byte with
  | .scalar c => c :: resume none
  | .lead rest => resume (some rest)
  | .invalid => replacementCharacter :: resume none

/-- Each longest prefix of a scalar that is not continued becomes one replacement. -/
def lossyChars : Option PartialScalar → List UInt8 → List Char
  | none, [] => []
  | some _, [] => [replacementCharacter]
  | none, byte :: rest => startScalar byte.toNat fun next => lossyChars next rest
  | some scalar, byte :: rest =>
    if scalar.low ≤ byte.toNat ∧ byte.toNat ≤ scalar.high then
      let bits := scalar.bits * 64 + byte.toNat % 64
      if scalar.missing = 1 then Char.ofNat bits :: lossyChars none rest
      else lossyChars (some ⟨bits, scalar.missing - 1, 128, 191⟩) rest
    else
      replacementCharacter :: startScalar byte.toNat fun next => lossyChars next rest

/-- `String::from_utf8_lossy`. -/
def fromUtf8Lossy (bytes : List UInt8) : String := String.ofList (lossyChars none bytes)

def decodeString (bytes : List UInt8) (offset : Nat) : Except WireError (String × Nat) :=
  if bytes.length < offset + 4 then .error .incomplete
  else
    let len := readU32 (bytes.drop offset)
    if len > maxWireStringBytes + 1 then
      .error (.protocolError ("wire string exceeds " ++ toString maxWireStringBytes ++ " bytes"))
    else if len = 0 then .ok ("", offset + 4)
    else if bytes.length < offset + 4 + len then .error .incomplete
    else .ok (fromUtf8Lossy ((bytes.drop (offset + 4)).take (len - 1)), offset + 4 + align4 len)

def decodeArray (bytes : List UInt8) (offset : Nat) : Except WireError (List UInt8 × Nat) :=
  if bytes.length < offset + 4 then .error .incomplete
  else
    let len := readU32 (bytes.drop offset)
    if len > maxWireArrayBytes then
      .error (.protocolError ("wire array exceeds " ++ toString maxWireArrayBytes ++ " bytes"))
    else if bytes.length < offset + 4 + len then .error .incomplete
    else .ok ((bytes.drop (offset + 4)).take len, offset + 4 + align4 len)

def decodeWord (payload : List UInt8) (offset : Nat) (arg : WireArg) :
    Except WireError (WireArg × Nat) :=
  if payload.length < offset + 4 then .error .incomplete else .ok (arg, offset + 4)

def decodeFd (totalFds : Option Nat) (fdCount offset : Nat) : Except WireError (WireArg × Nat) :=
  match totalFds with
  | none => .error (.protocolError "FD requested but none received")
  | some total =>
    if fdCount ≥ total then .error (.protocolError "missing FD in ancillary data")
    else .ok (.ancillaryFd, offset)

def decodeArg (payload : List UInt8) (totalFds : Option Nat) (offset fdCount : Nat) :
    ArgType → Except WireError (WireArg × Nat)
  | .int => decodeWord payload offset (.int (readI32 (payload.drop offset)))
  | .uint => decodeWord payload offset (.uint (readU32 (payload.drop offset)))
  | .object => decodeWord payload offset (.object (readU32 (payload.drop offset)))
  | .newId => decodeWord payload offset (.newId (readU32 (payload.drop offset)))
  | .fixed => decodeWord payload offset (.fixed (readI32 (payload.drop offset)))
  | .string => (decodeString payload offset).map fun read => (.string read.1, read.2)
  | .array => (decodeArray payload offset).map fun read => (.array read.1, read.2)
  | .fd => decodeFd totalFds fdCount offset

/-- The loop of `decode_arguments`, with the offset it ends at. -/
def decodeArgumentsFrom (payload : List UInt8) (totalFds : Option Nat) :
    List ArgType → Nat → Nat → Except WireError (List WireArg × Nat)
  | [], offset, _ => .ok ([], offset)
  | arg :: rest, offset, fdCount => do
    let decoded ← decodeArg payload totalFds offset fdCount arg
    let others ← decodeArgumentsFrom payload totalFds rest decoded.2
      (if arg = .fd then fdCount + 1 else fdCount)
    .ok (decoded.1 :: others.1, others.2)

def decodeArguments (payload : List UInt8) (spec : MessageSpec) (totalFds : Option Nat) :
    Except WireError (List WireArg) :=
  (decodeArgumentsFrom payload totalFds spec.args 0 0).map Prod.fst

def argMatches : ArgType → WireArg → Bool
  | .int, .int _ | .uint, .uint _ | .fixed, .fixed _ | .string, .string _ | .object, .object _
  | .newId, .newId _ | .array, .array _ | .fd, .fd _ | .fd, .ancillaryFd => true
  | _, _ => false

def validateArgs (spec : MessageSpec) (args : List WireArg) : Bool :=
  spec.args.length = args.length ∧ ((spec.args.zip args).all fun p => argMatches p.1 p.2)

end TuffXwin.Headless
