import Mathlib.Tactic.IntervalCases

/-! JSON values and the compact text of one: no blanks, control characters escaped. The
text of any value is a single line, and that of an object opens with a brace. -/

namespace Lib

inductive Json
  | null
  | bool (b : Bool)
  | number (n : Int)
  | text (s : String)
  | array (items : List Json)
  | object (fields : List (String × Json))

namespace Json

def nat (n : Nat) : Json := .number n

def option {α : Type} (toJson : α → Json) : Option α → Json
  | none => .null
  | some a => toJson a

def list {α : Type} (toJson : α → Json) (items : List α) : Json := .array (items.map toJson)

def hexDigit (n : Nat) : Char := if n < 10 then Char.ofNat (48 + n) else Char.ofNat (87 + n)

def escape (c : Char) : List Char :=
  if c = '"' then ['\\', '"']
  else if c = '\\' then ['\\', '\\']
  else if c.toNat = 8 then ['\\', 'b']
  else if c.toNat = 9 then ['\\', 't']
  else if c.toNat = 10 then ['\\', 'n']
  else if c.toNat = 12 then ['\\', 'f']
  else if c.toNat = 13 then ['\\', 'r']
  else if c.toNat < 32 then
    ['\\', 'u', '0', '0', hexDigit (c.toNat / 16), hexDigit (c.toNat % 16)]
  else [c]

def quoted (s : String) : List Char := '"' :: (s.toList.flatMap escape ++ ['"'])

def digits : Int → List Char
  | .ofNat n => Nat.toDigits 10 n
  | .negSucc n => '-' :: Nat.toDigits 10 (n + 1)

/-- What goes before an item: nothing before the first. -/
def comma (first : Bool) : List Char := if first then [] else [',']

mutual

def chars : Json → List Char
  | null => ['n', 'u', 'l', 'l']
  | bool true => ['t', 'r', 'u', 'e']
  | bool false => ['f', 'a', 'l', 's', 'e']
  | number n => digits n
  | text s => quoted s
  | array items => '[' :: (itemChars true items ++ [']'])
  | object fields => '\x7b' :: (fieldChars true fields ++ ['\x7d'])

def itemChars (first : Bool) : List Json → List Char
  | [] => []
  | item :: items => comma first ++ chars item ++ itemChars false items

def fieldChars (first : Bool) : List (String × Json) → List Char
  | [] => []
  | (name, value) :: fields =>
    comma first ++ quoted name ++ [':'] ++ chars value ++ fieldChars false fields

end

def compact (json : Json) : String := String.ofList json.chars

theorem compact_object_head (fields : List (String × Json)) :
    (object fields).compact.toList.head? = some '\x7b' := by
  rw [compact, String.toList_ofList, chars]
  rfl

theorem hexDigit_ne_newline (n : Nat) (h : n < 16) : hexDigit n ≠ '\n' := by
  interval_cases n <;> decide

theorem newline_not_mem_escape (c : Char) : '\n' ∉ escape c := by
  unfold escape
  split_ifs with h1 h2 h3 h4 h5 h6 h7 h8
  · decide
  · decide
  · decide
  · decide
  · decide
  · decide
  · decide
  · have hhigh := hexDigit_ne_newline (c.toNat / 16) (by omega)
    have hlow := hexDigit_ne_newline (c.toNat % 16) (by omega)
    simp [hhigh.symm, hlow.symm]
  · intro h
    rw [List.mem_singleton] at h
    exact h5 (h ▸ rfl)

theorem newline_not_mem_quoted (s : String) : '\n' ∉ quoted s := by
  intro h
  simp only [quoted, List.mem_cons, List.mem_append, List.mem_flatMap, List.not_mem_nil,
    or_false] at h
  rcases h with h | ⟨c, -, hc⟩ | h
  · cases h
  · exact newline_not_mem_escape c hc
  · cases h

theorem newline_not_mem_digits (n : Int) : '\n' ∉ digits n := by
  have hnat : ∀ m : Nat, '\n' ∉ Nat.toDigits 10 m := by
    intro m h
    have := Nat.isDigit_of_mem_toDigits (by decide) (by decide) h
    cases this
  cases n with
  | ofNat n => exact hnat n
  | negSucc n =>
    intro h
    rw [digits, List.mem_cons] at h
    rcases h with h | h
    · cases h
    · exact hnat _ h

theorem newline_not_mem_comma (first : Bool) : '\n' ∉ comma first := by
  cases first <;> decide

mutual

theorem newline_not_mem_chars : ∀ json : Json, '\n' ∉ chars json
  | null => by simp [chars]
  | bool true => by simp [chars]
  | bool false => by simp [chars]
  | number n => by
    rw [chars]
    exact newline_not_mem_digits n
  | text s => by
    rw [chars]
    exact newline_not_mem_quoted s
  | array items => by
    have := newline_not_mem_itemChars true items
    simp [chars, this]
  | object fields => by
    have := newline_not_mem_fieldChars true fields
    simp [chars, this]

theorem newline_not_mem_itemChars (first : Bool) :
    ∀ items : List Json, '\n' ∉ itemChars first items
  | [] => by simp [itemChars]
  | item :: items => by
    have hitem := newline_not_mem_chars item
    have hitems := newline_not_mem_itemChars false items
    have hcomma := newline_not_mem_comma first
    simp [itemChars, hitem, hitems, hcomma]

theorem newline_not_mem_fieldChars (first : Bool) :
    ∀ fields : List (String × Json), '\n' ∉ fieldChars first fields
  | [] => by simp [fieldChars]
  | (name, value) :: fields => by
    have hvalue := newline_not_mem_chars value
    have hfields := newline_not_mem_fieldChars false fields
    have hcomma := newline_not_mem_comma first
    have hname := newline_not_mem_quoted name
    simp [fieldChars, hvalue, hfields, hcomma, hname]

end

theorem newline_not_mem_compact (json : Json) : '\n' ∉ json.compact.toList := by
  rw [compact, String.toList_ofList]
  exact newline_not_mem_chars json

/-! Texts over several lines, and how quoted text and digits are read back. -/

def prettyField (field : String × Json) : List Char :=
  [' ', ' '] ++ quoted field.1 ++ [':', ' '] ++ chars field.2

/-- An object of values without fields of their own, one line each. -/
def pretty (fields : List (String × Json)) : String :=
  String.ofList (['\x7b', '\n'] ++ List.intercalate [',', '\n'] (fields.map prettyField) ++
    ['\n', '\x7d'])

def hexValue (c : Char) : Nat := if c.isDigit then c.toNat - 48 else c.toNat - 87

def unescapeChar (c : Char) : Char :=
  match c with
  | 'b' => Char.ofNat 8
  | 't' => Char.ofNat 9
  | 'n' => Char.ofNat 10
  | 'f' => Char.ofNat 12
  | 'r' => Char.ofNat 13
  | c => c

/-- The text up to the quote that ends it, and what is after the quote. -/
def unescape : List Char → Option (List Char × List Char)
  | [] => none
  | '"' :: rest => some ([], rest)
  | '\\' :: 'u' :: _ :: _ :: high :: low :: rest =>
    (unescape rest).map fun text =>
      (Char.ofNat (16 * hexValue high + hexValue low) :: text.1, text.2)
  | '\\' :: c :: rest => (unescape rest).map fun text => (unescapeChar c :: text.1, text.2)
  | c :: rest => (unescape rest).map fun text => (c :: text.1, text.2)

theorem unescape_escape (c : Char) (rest : List Char) :
    unescape (escape c ++ rest) = (unescape rest).map fun text => (c :: text.1, text.2) := by
  have hchar : c = Char.ofNat c.toNat := (Char.ofNat_toNat c).symm
  unfold escape
  split_ifs with h1 h2 h3 h4 h5 h6 h7 h8
  · rw [h1]
    rfl
  · rw [h2]
    rfl
  · rw [hchar, h3]
    rfl
  · rw [hchar, h4]
    rfl
  · rw [hchar, h5]
    rfl
  · rw [hchar, h6]
    rfl
  · rw [hchar, h7]
    rfl
  · generalize c.toNat = n at hchar h8
    rw [hchar]
    interval_cases n <;> rfl
  · rw [List.singleton_append, unescape]
    all_goals grind

theorem unescape_quoted (s : List Char) (rest : List Char) :
    unescape (s.flatMap escape ++ '"' :: rest) = some (s, rest) := by
  induction s with
  | nil => rfl
  | cons c s ih =>
    rw [List.flatMap_cons, List.append_assoc, unescape_escape, ih]
    rfl

/-- The number that the digits at the start stand for, and what is after them. -/
def readDigits (text : List Char) : Nat × List Char :=
  (Nat.ofDigitChars 10 (text.takeWhile Char.isDigit) 0, text.dropWhile Char.isDigit)

theorem readDigits_nat (n : Nat) {rest : List Char}
    (hrest : ∀ c ∈ rest.head?, c.isDigit = false) :
    readDigits (chars (nat n) ++ rest) = (n, rest) := by
  have hdigits : ∀ c ∈ Nat.toDigits 10 n, c.isDigit = true := fun c hc =>
    Nat.isDigit_of_mem_toDigits (by decide) (by decide) hc
  have htake : rest.takeWhile Char.isDigit = [] := by
    cases rest with
    | nil => rfl
    | cons c rest => simp [hrest c rfl]
  have hdrop : rest.dropWhile Char.isDigit = rest := by
    cases rest with
    | nil => rfl
    | cons c rest => simp [hrest c rfl]
  have hchars : chars (nat n) = Nat.toDigits 10 n := by
    rw [nat, chars]
    rfl
  rw [readDigits, hchars, List.takeWhile_append_of_pos hdigits,
    List.dropWhile_append_of_pos hdigits, htake, hdrop, List.append_nil,
    Nat.ofDigitChars_ten_toDigits]

theorem readDigits_before (n : Nat) (literal : String) (rest : List Char)
    (h : literal.toList.head?.map Char.isDigit = some false) :
    readDigits ((nat n).chars ++ (literal.toList ++ rest)) =
      (n, literal.toList ++ rest) := by
  apply readDigits_nat
  intro c hc
  cases hliteral : literal.toList with
  | nil => simp [hliteral] at h
  | cons first tail =>
    rw [hliteral] at h hc
    obtain rfl := Option.some.inj hc
    exact Option.some.inj h

/-- The text after a literal that it starts with. -/
def expect (literal : String) (text : List Char) : Option (List Char) :=
  if literal.toList.isPrefixOf text then some (text.drop literal.length) else none

theorem expect_append (literal : String) (rest : List Char) :
    expect literal (literal.toList ++ rest) = some rest := by
  rw [expect, if_pos (by simp), ← String.length_toList, List.drop_left]

end Json

end Lib
