import TuffXwin.Common.Transport

/-! Files of the runtime directory that are read as a whole. -/

namespace TuffXwin

variable {bytes : List UInt8}

inductive ErrorKind
  | notFound | invalidData
  deriving DecidableEq, Repr

/-- `fs::read_to_string`: the bytes of the file have to be a text. -/
def readToString : Option (List UInt8) → Except ErrorKind String
  | none => .error .notFound
  | some bytes =>
    match fromUtf8 bytes with
    | some raw => .ok raw
    | none => .error .invalidData

def ErrorKind.text : ErrorKind → String
  | .notFound => "No such file or directory (os error 2)"
  | .invalidData => "stream did not contain valid UTF-8"

theorem readToString_isText :
    (∃ raw, readToString (some bytes) = .ok raw) ↔ (fromUtf8 bytes).isSome := by
  cases hraw : fromUtf8 bytes <;> simp [readToString, hraw]

theorem readToString_invalid (h : (fromUtf8 bytes).isSome = false) :
    readToString (some bytes) = .error .invalidData := by
  rw [Option.isSome_eq_false_iff, Option.isNone_iff_eq_none] at h
  simp only [readToString, h]

end TuffXwin
