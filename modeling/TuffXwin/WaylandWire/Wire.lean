import TuffXwin.Lib.Machine

/-! Wayland messages as waylandd writes and reads them: little-endian words in a
payload of bytes. Object ids are words, so every id read from a payload is in range. -/

namespace TuffXwin.WaylandWire
open Lib

inductive WireError
  | incomplete
  | invalidSize (size : Nat)
  | invalidObjectId (id : Nat)
  | protocolError (reason : String)
  deriving DecidableEq, Repr

structure WaylandHeader where
  objectId : Nat
  size : Nat
  opcode : Nat
  deriving DecidableEq, Repr

structure WaylandMessage where
  header : WaylandHeader
  payload : List UInt8
  deriving DecidableEq, Repr

/-- The id of `wl_display`. -/
def displayId : Nat := 1

/-- Ids from here on are the server's. -/
def firstServerId : Nat := 4278190080

def WaylandMessage.new (objectId opcode : Nat) (payload : List UInt8) : WaylandMessage where
  header := { objectId := objectId, size := (payload.length + 8) % 65536, opcode := opcode }
  payload := payload

/-- `LittleEndian::write_u32`, also `to_le_bytes`. -/
def writeU32 (n : Nat) : List UInt8 :=
  [UInt8.ofNat n, UInt8.ofNat (n / 256), UInt8.ofNat (n / 65536), UInt8.ofNat (n / 16777216)]

/-- `LittleEndian::read_u32` of the first four bytes. -/
def readU32 : List UInt8 → Nat
  | a :: b :: c :: d :: _ =>
    a.toNat + 256 * b.toNat + 65536 * c.toNat + 16777216 * d.toNat
  | _ => 0

inductive WireArg
  | int (value : Int)
  | uint (value : Nat)
  | fixed (value : Int)
  | string (text : String)
  | object (id : Nat)
  | newId (id : Nat)
  | array (bytes : List UInt8)
  | fd (fd : Nat)
  | ancillaryFd

/-- A signed word, in two's complement. -/
def writeI32 (v : Int) : List UInt8 := writeU32 (v % 4294967296).toNat

/-- The padding to a multiple of four bytes. -/
def padding (n : Nat) : List UInt8 := List.replicate ((n + 3) / 4 * 4 - n) 0

def encodeString (s : String) : List UInt8 :=
  let bytes := s.toUTF8.toList
  writeU32 (bytes.length + 1) ++ bytes ++ [0] ++ padding (bytes.length + 1)

def encodeArray (data : List UInt8) : List UInt8 :=
  writeU32 data.length ++ data ++ padding data.length

def encodeArg : WireArg → List UInt8
  | .int v => writeI32 v
  | .uint v => writeU32 v
  | .fixed v => writeI32 v
  | .string s => encodeString s
  | .object v => writeU32 v
  | .newId v => writeU32 v
  | .array a => encodeArray a
  | .fd _ => []
  | .ancillaryFd => []

def encodeEvent (objectId opcode : Nat) (args : List WireArg) : WaylandMessage :=
  .new objectId opcode (args.flatMap encodeArg)

/-- The `delete_id` event of `wl_display`. -/
def deleteIdEvent (id : Nat) : WaylandMessage := .new displayId 1 (writeU32 id)

theorem readU32_append (n : Nat) (rest : List UInt8) :
    readU32 (writeU32 n ++ rest) = n % 4294967296 := by
  simp only [writeU32, List.cons_append, readU32, UInt8.toNat_ofNat']
  omega

theorem readU32_writeU32 (n : Nat) : readU32 (writeU32 n) = n % 4294967296 := by
  rw [← List.append_nil (writeU32 n)]
  exact readU32_append n []

theorem drop_writeU32 (n k : Nat) (rest : List UInt8) :
    (writeU32 n ++ rest).drop (4 + k) = rest.drop k := by
  rw [← List.drop_drop]
  rfl

theorem readU32_le (bytes : List UInt8) : readU32 bytes ≤ u32Max := by
  unfold readU32 u32Max
  split
  · rename_i a b c d rest
    have ha := a.toNat_lt
    have hb := b.toNat_lt
    have hc := c.toNat_lt
    have hd := d.toNat_lt
    omega
  · omega

end TuffXwin.WaylandWire
