import Mathlib.Data.UInt
import Mathlib.Tactic.IntervalCases

/-! Registers of bytes: words in memory order, and the byte shuffle that moves bytes inside
each half of a register of 32. -/

namespace Lib

/-- The bytes of a word in memory, the lowest first. -/
def leBytes (word : UInt32) : List UInt8 :=
  [word.toUInt8, (word >>> 8).toUInt8, (word >>> 16).toUInt8, (word >>> 24).toUInt8]

def ofLeBytes (b0 b1 b2 b3 : UInt8) : UInt32 :=
  b0.toUInt32 ||| (b1.toUInt32 <<< 8) ||| (b2.toUInt32 <<< 16) ||| (b3.toUInt32 <<< 24)

/-- `_mm256_loadu_si256` from a pointer to words. -/
def loadRegister (words : List UInt32) : List UInt8 := words.flatMap leBytes

/-- `_mm256_storeu_si256` to a pointer to words. -/
def storeRegister : List UInt8 → List UInt32
  | b0 :: b1 :: b2 :: b3 :: rest => ofLeBytes b0 b1 b2 b3 :: storeRegister rest
  | _ => []

/-- `_mm256_shuffle_epi8`: each byte is picked from the half of the register it is in, or
cleared where the top bit of the mask is set. -/
def shuffleBytes (data mask : List UInt8) : List UInt8 :=
  (List.range 32).map fun i =>
    if 128 ≤ mask.getD i 0 then 0
    else data.getD (16 * (i / 16) + (mask.getD i 0).toNat % 16) 0

/-- The word with its bytes 0 and 2 exchanged. -/
def swapWord (word : UInt32) : UInt32 :=
  ofLeBytes (word >>> 16).toUInt8 (word >>> 8).toUInt8 word.toUInt8 (word >>> 24).toUInt8

theorem leBytes_swapWord (word : UInt32) :
    leBytes (swapWord word) =
      [(word >>> 16).toUInt8, (word >>> 8).toUInt8, word.toUInt8, (word >>> 24).toUInt8] := by
  unfold leBytes swapWord ofLeBytes
  simp only [List.cons.injEq, and_true]
  refine ⟨?_, ?_, ?_, ?_⟩
  all_goals
    apply UInt8.toBitVec_inj.mp
    apply BitVec.eq_of_getLsbD_eq
    intro i hi
    interval_cases i <;> simp [-UInt32.toUInt32_toUInt8]

theorem swapWord_swapWord (word : UInt32) : swapWord (swapWord word) = word := by
  unfold swapWord ofLeBytes
  apply UInt32.toBitVec_inj.mp
  apply BitVec.eq_of_getLsbD_eq
  intro i hi
  interval_cases i <;> simp [-UInt32.toUInt32_toUInt8]

/-- Exchanging bytes 0 and 2 of each word, on bytes. -/
def swapMask : List UInt8 :=
  [2, 1, 0, 3, 6, 5, 4, 7, 10, 9, 8, 11, 14, 13, 12, 15, 2, 1, 0, 3, 6, 5, 4, 7, 10, 9, 8, 11,
    14, 13, 12, 15]

theorem shuffle_swapMask {words : List UInt32} (h : words.length = 8) :
    storeRegister (shuffleBytes (loadRegister words) swapMask) = words.map swapWord := by
  match words, h with
  | [w0, w1, w2, w3, w4, w5, w6, w7], _ => rfl

/-- Groups of eight while there are so many, and what is left. -/
def inGroups {α : Type} (full rest : List α → List α) (items : List α) : List α :=
  if 8 ≤ items.length then full (items.take 8) ++ inGroups full rest (items.drop 8)
  else if items = [] then []
  else rest items
termination_by items.length
decreasing_by
  rw [List.length_drop]
  omega

/-- A loop over groups is the loop over the items if both of its bodies are. -/
theorem inGroups_eq_map {α : Type} {full rest : List α → List α} {f : α → α}
    (hfull : ∀ group, group.length = 8 → full group = group.map f)
    (hrest : ∀ items, rest items = items.map f) (items : List α) :
    inGroups full rest items = items.map f := by
  induction items using inGroups.induct with
  | case1 items h ih =>
    have hgroup : (items.take 8).length = 8 := by
      rw [List.length_take]
      omega
    rw [inGroups, if_pos h, hfull _ hgroup, ih, ← List.map_append, List.take_append_drop]
  | case2 h =>
    rw [inGroups, if_neg h, if_pos rfl]
    rfl
  | case3 items h hnil => rw [inGroups, if_neg h, if_neg hnil, hrest]

end Lib
