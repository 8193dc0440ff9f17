import Mathlib.Data.Nat.Digits.Defs
import TuffXwin.Lib.Json

/-! How many bytes the compact text of a value takes. That of an object is bounded by the
sizes of its values and what its names take, which no value changes. -/

namespace Lib.Json

variable {α : Type}

/-- The bytes of the characters in UTF-8. -/
def width (text : List Char) : Nat := (text.flatMap String.utf8EncodeChar).length

def size (json : Json) : Nat := width json.chars

def quotedSize (text : String) : Nat := width (quoted text)

/-- What an object of these names takes besides its values. -/
def overhead (names : List String) : Nat := 2 + (names.map fun name => quotedSize name + 2).sum

theorem width_append (first second : List Char) :
    width (first ++ second) = width first + width second := by
  simp [width]

theorem width_cons (c : Char) (text : List Char) :
    width (c :: text) = width [c] + width text := width_append [c] text

theorem width_comma (first : Bool) : width (comma first) ≤ 1 := by
  cases first <;> decide

theorem width_digits (text : List Char) (h : ∀ c ∈ text, c.isDigit = true) :
    width text = text.length := by
  induction text with
  | nil => rfl
  | cons c text ih =>
    have hdigit := h c List.mem_cons_self
    have hone : width [c] = 1 := by
      have hval : c.toNat ≤ 127 := by
        simp only [Char.isDigit, Bool.and_eq_true, decide_eq_true_eq] at hdigit
        have := UInt32.le_iff_toNat_le.mp hdigit.2
        exact this.trans (by decide)
      simp [width, String.utf8EncodeChar, hval]
    rw [width_cons, hone, ih fun other hother => h other (List.mem_cons_of_mem _ hother),
      List.length_cons, Nat.add_comm]

theorem width_toDigits (n : Nat) {digits : Nat} (hpos : 0 < digits) (h : n < 10 ^ digits) :
    width (Nat.toDigits 10 n) ≤ digits := by
  rw [width_digits _ fun c hc => Nat.isDigit_of_mem_toDigits (by decide) (by decide) hc]
  exact Nat.toDigits_length 10 n digits hpos h

theorem size_number (v : Int) (digits : Nat) (hpos : 0 < digits) (h : v.natAbs < 10 ^ digits) :
    size (.number v) ≤ digits + 1 := by
  rw [size, chars]
  cases v with
  | ofNat n => exact (width_toDigits n hpos h).trans (Nat.le_succ _)
  | negSucc n =>
    rw [Json.digits, width_cons, Nat.add_comm]
    exact Nat.add_le_add (width_toDigits (n + 1) hpos h) (by decide)

theorem size_nat (n : Nat) (digits : Nat) (hpos : 0 < digits) (h : n < 10 ^ digits) :
    size (nat n) ≤ digits := by
  rw [size, nat, chars]
  exact width_toDigits n hpos h

theorem size_bool (b : Bool) : size (.bool b) ≤ 5 := by
  cases b <;> simp only [size, chars] <;> decide

theorem size_text (text : String) : size (.text text) = quotedSize text := by
  rw [size, chars, quotedSize]

theorem size_option (toJson : α → Json) (value : Option α) :
    size (option toJson value) ≤ 4 + (value.elim 0 fun a => size (toJson a)) := by
  cases value with
  | none => simp [option, size, chars, width, String.utf8EncodeChar]
  | some a => simp [option]

theorem width_itemChars (first : Bool) (items : List Json) :
    width (itemChars first items) ≤ (items.map fun item => size item + 1).sum := by
  induction items generalizing first with
  | nil => simp [itemChars, width]
  | cons item items ih =>
    have hcomma := width_comma first
    have hrest := ih false
    have hsize : size item = width item.chars := rfl
    rw [itemChars, width_append, width_append, List.map_cons, List.sum_cons]
    omega

theorem width_fieldChars (first : Bool) (fields : List (String × Json)) :
    width (fieldChars first fields) ≤
      (fields.map fun field => quotedSize field.1 + 2).sum +
        (fields.map fun field => size field.2).sum := by
  induction fields generalizing first with
  | nil => simp [fieldChars, width]
  | cons field fields ih =>
    have hcomma := width_comma first
    have hrest := ih false
    have hname : quotedSize field.1 = width (quoted field.1) := rfl
    have hvalue : size field.2 = width field.2.chars := rfl
    have hcolon : width [':'] = 1 := by decide
    rw [fieldChars, width_append, width_append, width_append, width_append, List.map_cons,
      List.sum_cons, List.map_cons, List.sum_cons]
    omega

theorem size_list (toJson : α → Json) (items : List α) :
    size (list toJson items) ≤ 2 + (items.map fun item => size (toJson item) + 1).sum := by
  have hitems := width_itemChars true (items.map toJson)
  have hends : width ['['] = 1 ∧ width [']'] = 1 := by decide
  rw [List.map_map] at hitems
  rw [size, list, chars, width_cons, width_append, hends.1, hends.2]
  simp only [Function.comp_def] at hitems
  omega

theorem size_object (fields : List (String × Json)) :
    size (.object fields) ≤
      overhead (fields.map Prod.fst) + (fields.map fun field => size field.2).sum := by
  have hfields := width_fieldChars true fields
  have hends : width ['\x7b'] = 1 ∧ width ['\x7d'] = 1 := by decide
  rw [size, chars, width_cons, width_append, hends.1, hends.2, overhead, List.map_map]
  simp only [Function.comp_def]
  omega

end Lib.Json
