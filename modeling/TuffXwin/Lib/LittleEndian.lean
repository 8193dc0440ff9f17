import Mathlib.Algebra.Order.Group.Nat
import Mathlib.Tactic.Common

/-! Numbers as bytes, the lowest first. -/

namespace Lib

/-- The `k` low bytes of `n`. -/
def toLittleEndian : Nat → Nat → List UInt8
  | 0, _ => []
  | k + 1, n => UInt8.ofNat n :: toLittleEndian k (n / 256)

def ofLittleEndian : List UInt8 → Nat
  | [] => 0
  | byte :: bytes => byte.toNat + 256 * ofLittleEndian bytes

@[simp] theorem toLittleEndian_length (k n : Nat) : (toLittleEndian k n).length = k := by
  induction k generalizing n with
  | zero => rfl
  | succ k ih => simp [toLittleEndian, ih]

theorem ofLittleEndian_toLittleEndian {k n : Nat} (h : n < 256 ^ k) :
    ofLittleEndian (toLittleEndian k n) = n := by
  induction k generalizing n with
  | zero =>
    rw [pow_zero] at h
    simp only [toLittleEndian, ofLittleEndian]
    omega
  | succ k ih =>
    have hquotient : n / 256 < 256 ^ k := by
      rw [pow_succ] at h
      omega
    simp only [toLittleEndian, ofLittleEndian, UInt8.toNat_ofNat', ih hquotient]
    omega

end Lib
