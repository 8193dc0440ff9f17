import Mathlib.Algebra.BigOperators.Group.Finset.Piecewise
import Mathlib.Algebra.GroupWithZero.Nat
import TuffXwin.Lib.Machine

/-! Sums over a list: in saturating steps, and class by class. -/

namespace Lib

variable {α κ : Type}

theorem foldl_satAdd (w : α → Nat) (l : List α) {total : Nat} (h : total ≤ u64Max) :
    l.foldl (fun total a => satAdd total (w a)) total = min (total + (l.map w).sum) u64Max := by
  induction l generalizing total with
  | nil =>
    rw [List.foldl_nil, List.map_nil, List.sum_nil, Nat.add_zero, Nat.min_eq_left h]
  | cons a l ih =>
    rw [List.foldl_cons, ih (satAdd_le_max h), List.map_cons, List.sum_cons]
    unfold satAdd
    omega

/-- A sum over a list, by the classes of its elements. -/
theorem sum_classes [DecidableEq κ] (w : α → Nat) (c : α → κ) (classes : Finset κ)
    {l : List α} (h : ∀ a ∈ l, c a ∈ classes) :
    (l.map w).sum = ∑ k ∈ classes, ((l.filter fun a => c a = k).map w).sum := by
  induction l with
  | nil => simp
  | cons a l ih =>
    have hrest := ih fun b hb => h b (List.mem_cons_of_mem a hb)
    have hhead : ∀ k, (((a :: l).filter fun b => c b = k).map w).sum =
        (if c a = k then w a else 0) + ((l.filter fun b => c b = k).map w).sum := by
      intro k
      by_cases hk : c a = k <;> simp [hk]
    rw [List.map_cons, List.sum_cons, hrest, Finset.sum_congr rfl fun k _ => hhead k,
      Finset.sum_add_distrib, Finset.sum_ite_eq, if_pos (h a List.mem_cons_self)]

theorem min_sum_min (f : κ → Nat) (bound : Nat) (s : Finset κ) :
    min (∑ k ∈ s, min (f k) bound) bound = min (∑ k ∈ s, f k) bound := by
  classical
  induction s using Finset.induction_on with
  | empty => rfl
  | insert k s hk ih =>
    rw [Finset.sum_insert hk, Finset.sum_insert hk]
    omega

end Lib
