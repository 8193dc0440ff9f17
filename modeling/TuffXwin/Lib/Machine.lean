import Mathlib.Data.Int.Order.Basic
import Mathlib.Tactic.Common

/-! Machine integers as `Nat` and `Int` with their bounds written out.
Saturating addition is the word operation on the word's range; beyond the range
it stays monotone, so order facts about it need no range hypotheses. -/

namespace Lib

variable {a m n : Nat} {v : Int}

def u32Max : Nat := 4294967295
def u64Max : Nat := 18446744073709551615
def i32Min : Int := -2147483648
def i32Max : Int := 2147483647

/-- `u64::saturating_add`. -/
def satAdd (a b : Nat) : Nat := max a (min (a + b) u64Max)

def u32Checked (n : Nat) : Option Nat := if n ≤ u32Max then some n else none

/-- A checked `usize` result on a 64-bit target. -/
def usizeChecked (n : Nat) : Option Nat := if n ≤ u64Max then some n else none

def i32Checked (v : Int) : Option Int := if i32Min ≤ v ∧ v ≤ i32Max then some v else none

/-- The low 32 bits as a signed word. -/
def wrapI32 (v : Int) : Int := v.bmod 4294967296

theorem le_satAdd (a b : Nat) : a ≤ satAdd a b := Nat.le_max_left _ _

theorem lt_satAdd_one (h : a < u64Max) : a < satAdd a 1 := by
  simp only [satAdd]
  omega

theorem satAdd_le_max {b : Nat} (h : a ≤ u64Max) : satAdd a b ≤ u64Max := by
  simp only [satAdd]
  omega

theorem u32Checked_eq_some : u32Checked n = some m ↔ n ≤ u32Max ∧ n = m := by
  simp [u32Checked]

theorem usizeChecked_eq_some : usizeChecked n = some m ↔ n ≤ u64Max ∧ n = m := by
  simp [usizeChecked]

theorem i32Checked_eq_some {w : Int} :
    i32Checked v = some w ↔ (i32Min ≤ v ∧ v ≤ i32Max) ∧ v = w := by
  simp [i32Checked]

theorem wrapI32_of_fits (h : i32Min ≤ v ∧ v ≤ i32Max) : wrapI32 v = v := by
  unfold i32Min i32Max at h
  exact Int.bmod_eq_of_le (by omega) (by omega)

end Lib
