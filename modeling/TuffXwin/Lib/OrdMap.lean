import Mathlib.Algebra.GroupWithZero.Nat
import Mathlib.Algebra.Order.BigOperators.Group.List
import Mathlib.Algebra.Order.Group.Nat
import Mathlib.Order.Basic
import Mathlib.Order.Defs.LinearOrder
import Mathlib.Data.List.Pairwise
import Mathlib.Tactic.Common

/-! Finite maps kept as key-sorted association lists. The strict ordering of
the keys is part of the structure, so iteration visits every key once and in
ascending order, and the first key is the least one. -/

namespace Lib

structure OrdMap (κ ν : Type) [LinearOrder κ] where
  entries : List (κ × ν)
  sorted : entries.Pairwise (fun a b => a.1 < b.1)

namespace OrdMap

variable {κ ν ν' : Type} [LinearOrder κ]
variable {m : OrdMap κ ν} {k k' : κ} {v : ν} {key : ν → κ} {l : List ν} {p : κ → ν → Bool}
  {m' : OrdMap κ ν'} {f : κ → ν → ν'} {w : ν → Nat} {u : ν' → Nat}

def lookupIn (k : κ) : List (κ × ν) → Option ν
  | [] => none
  | (k', v) :: rest => if k' = k then some v else lookupIn k rest

def insertIn (k : κ) (v : ν) : List (κ × ν) → List (κ × ν)
  | [] => [(k, v)]
  | (k', v') :: rest =>
    if k < k' then (k, v) :: (k', v') :: rest
    else if k = k' then (k, v) :: rest
    else (k', v') :: insertIn k v rest

theorem mem_insertIn {l : List (κ × ν)} {e : κ × ν} (h : e ∈ insertIn k v l) :
    e = (k, v) ∨ e ∈ l := by
  induction l with
  | nil => exact .inl (by simpa [insertIn] using h)
  | cons head rest ih =>
    obtain ⟨k', v'⟩ := head
    simp only [insertIn] at h
    split_ifs at h with hlt heq
    · simpa using h
    · rcases List.mem_cons.mp h with h | h
      · exact .inl h
      · exact .inr (List.mem_cons_of_mem _ h)
    · rcases List.mem_cons.mp h with h | h
      · exact .inr (by simp [h])
      · exact (ih h).imp_right (List.mem_cons_of_mem _)

theorem insertIn_sorted (k : κ) (v : ν) (l : List (κ × ν))
    (h : l.Pairwise (fun a b => a.1 < b.1)) :
    (insertIn k v l).Pairwise (fun a b => a.1 < b.1) := by
  induction l with
  | nil => simp [insertIn]
  | cons head rest ih =>
    obtain ⟨k', v'⟩ := head
    obtain ⟨hhead, hrest⟩ := List.pairwise_cons.mp h
    simp only [insertIn]
    split_ifs with hlt heq
    · refine List.pairwise_cons.mpr ⟨fun e he => ?_, h⟩
      rcases List.mem_cons.mp he with rfl | he
      · exact hlt
      · exact hlt.trans (hhead e he)
    · exact List.pairwise_cons.mpr ⟨fun e he => heq ▸ hhead e he, hrest⟩
    · refine List.pairwise_cons.mpr ⟨fun e he => ?_, ih hrest⟩
      rcases mem_insertIn he with rfl | he
      · exact lt_of_le_of_ne (not_lt.mp hlt) (Ne.symm heq)
      · exact hhead e he

def empty : OrdMap κ ν := ⟨[], List.Pairwise.nil⟩

instance : Inhabited (OrdMap κ ν) := ⟨empty⟩

def get? (m : OrdMap κ ν) (k : κ) : Option ν := lookupIn k m.entries

def contains (m : OrdMap κ ν) (k : κ) : Bool := (m.get? k).isSome

def insert (m : OrdMap κ ν) (k : κ) (v : ν) : OrdMap κ ν :=
  ⟨insertIn k v m.entries, insertIn_sorted k v _ m.sorted⟩

def filter (p : κ → ν → Bool) (m : OrdMap κ ν) : OrdMap κ ν :=
  ⟨m.entries.filter (fun e => p e.1 e.2), m.sorted.filter _⟩

def erase (m : OrdMap κ ν) (k : κ) : OrdMap κ ν := m.filter (fun k' _ => k' ≠ k)

def mapVals (f : κ → ν → ν') (m : OrdMap κ ν) : OrdMap κ ν' :=
  ⟨m.entries.map (fun e => (e.1, f e.1 e.2)), by
    rw [List.pairwise_map]
    exact m.sorted⟩

/-- Update the value stored under `k`, if there is one. -/
def modify (m : OrdMap κ ν) (k : κ) (f : ν → ν) : OrdMap κ ν :=
  m.mapVals (fun k' v => if k' = k then f v else v)

def keys (m : OrdMap κ ν) : List κ := m.entries.map Prod.fst

def values (m : OrdMap κ ν) : List ν := m.entries.map Prod.snd

def size (m : OrdMap κ ν) : Nat := m.entries.length

def isEmpty (m : OrdMap κ ν) : Bool := m.entries.isEmpty

def all (m : OrdMap κ ν) (p : κ → ν → Bool) : Bool := m.entries.all (fun e => p e.1 e.2)

theorem lookupIn_eq_none {l : List (κ × ν)} (h : ∀ e ∈ l, e.1 ≠ k) : lookupIn k l = none := by
  induction l with
  | nil => rfl
  | cons head rest ih =>
    simp only [List.mem_cons, forall_eq_or_imp] at h
    simp [lookupIn, h.1, ih h.2]

theorem mem_of_lookupIn {l : List (κ × ν)} (h : lookupIn k l = some v) : (k, v) ∈ l := by
  induction l with
  | nil => simp [lookupIn] at h
  | cons head rest ih =>
    simp only [lookupIn] at h
    split_ifs at h with heq
    · obtain rfl := heq
      obtain rfl := Option.some.inj h
      exact List.mem_cons_self
    · exact List.mem_cons_of_mem _ (ih h)

theorem mem_entries : (k, v) ∈ m.entries ↔ m.get? k = some v := by
  refine ⟨fun h => ?_, mem_of_lookupIn⟩
  obtain ⟨l, hl⟩ := m
  simp only [get?] at h ⊢
  induction l with
  | nil => simp at h
  | cons head rest ih =>
    obtain ⟨hhead, hrest⟩ := List.pairwise_cons.mp hl
    simp only [lookupIn]
    rcases List.mem_cons.mp h with rfl | h
    · simp
    · rw [if_neg (ne_of_lt (hhead _ h)), ih hrest h]

@[simp] theorem get?_empty (k : κ) : (empty : OrdMap κ ν).get? k = none := rfl

theorem get?_insert (m : OrdMap κ ν) (k k' : κ) (v : ν) :
    (m.insert k v).get? k' = if k' = k then some v else m.get? k' := by
  obtain ⟨l, hl⟩ := m
  simp only [insert, get?]
  clear hl
  induction l with
  | nil => simp [insertIn, lookupIn, eq_comm]
  | cons head rest ih =>
    obtain ⟨a, w⟩ := head
    by_cases hk : k' = k
    · subst hk
      simp only [insertIn]
      split_ifs with hlt heq
      · simp [lookupIn]
      · simp [lookupIn]
      · simp [lookupIn, Ne.symm heq, ih]
    · simp only [insertIn]
      split_ifs with hlt heq
      · simp [lookupIn, Ne.symm hk]
      · simp [lookupIn, Ne.symm hk, ← heq]
      · simp only [lookupIn, ih, if_neg hk]

@[simp] theorem get?_insert_self (m : OrdMap κ ν) (k : κ) (v : ν) :
    (m.insert k v).get? k = some v := by simp [get?_insert]

theorem get?_insert_ne (m : OrdMap κ ν) (v : ν) (h : k' ≠ k) :
    (m.insert k v).get? k' = m.get? k' := by simp [get?_insert, h]

theorem get?_filter (m : OrdMap κ ν) (p : κ → ν → Bool) (k : κ) :
    (m.filter p).get? k = (m.get? k).filter (p k) := by
  obtain ⟨l, hl⟩ := m
  simp only [filter, get?]
  induction l with
  | nil => rfl
  | cons head rest ih =>
    obtain ⟨a, w⟩ := head
    obtain ⟨hhead, hrest⟩ := List.pairwise_cons.mp hl
    by_cases hk : a = k
    · subst hk
      have hnone : lookupIn a (rest.filter (fun e => p e.1 e.2)) = none :=
        lookupIn_eq_none fun e he =>
          (ne_of_gt (hhead e (List.mem_filter.mp he).1))
      by_cases hp : p a w <;> simp [lookupIn, hp, hnone, Option.filter]
    · by_cases hp : p a w <;> simp [lookupIn, hp, hk, ih hrest]

theorem get?_filter_eq_some : (m.filter p).get? k = some v ↔ m.get? k = some v ∧ p k v = true := by
  rw [get?_filter, Option.filter_eq_some_iff]

theorem get?_erase (m : OrdMap κ ν) (k k' : κ) :
    (m.erase k).get? k' = if k' = k then none else m.get? k' := by
  rw [erase, get?_filter]
  by_cases h : k' = k <;> cases m.get? k' <;> simp [h, Option.filter]

theorem get?_mapVals (m : OrdMap κ ν) (f : κ → ν → ν') (k : κ) :
    (m.mapVals f).get? k = (m.get? k).map (f k) := by
  obtain ⟨l, hl⟩ := m
  simp only [mapVals, get?]
  clear hl
  induction l with
  | nil => rfl
  | cons head rest ih =>
    by_cases hk : head.1 = k
    · simp [lookupIn, hk]
    · simpa [lookupIn, hk] using ih

theorem get?_modify (m : OrdMap κ ν) (k k' : κ) (f : ν → ν) :
    (m.modify k f).get? k' = if k' = k then (m.get? k').map f else m.get? k' := by
  rw [modify, get?_mapVals]
  by_cases h : k' = k <;> cases m.get? k' <;> simp [h]

theorem get?_modify_self (m : OrdMap κ ν) (k : κ) (f : ν → ν) :
    (m.modify k f).get? k = (m.get? k).map f := by simp [get?_modify]

theorem get?_modify_ne (m : OrdMap κ ν) (f : ν → ν) (h : k' ≠ k) :
    (m.modify k f).get? k' = m.get? k' := by simp [get?_modify, h]

theorem all_iff : m.all p = true ↔ ∀ k v, m.get? k = some v → p k v = true := by
  simp only [all, List.all_eq_true, Prod.forall, mem_entries]

theorem mem_keys : k ∈ m.keys ↔ ∃ v, m.get? k = some v := by
  simp only [keys, List.mem_map, Prod.exists, mem_entries]
  constructor
  · rintro ⟨k', v, h, rfl⟩
    exact ⟨v, h⟩
  · rintro ⟨v, h⟩
    exact ⟨k, v, h, rfl⟩

/-- Two maps that agree at every key are the same map. -/
theorem ext_get? {n : OrdMap κ ν} (h : ∀ k, m.get? k = n.get? k) : m = n := by
  have hmem : ∀ e, e ∈ m.entries ↔ e ∈ n.entries := by
    rintro ⟨k, v⟩
    rw [mem_entries, mem_entries, h]
  have nodup : ∀ q : OrdMap κ ν, q.entries.Nodup := fun q =>
    q.sorted.imp fun hlt heq => absurd (heq ▸ hlt) (lt_irrefl _)
  have hperm := (List.perm_ext_iff_of_nodup (nodup m) (nodup n)).mpr hmem
  have hentries := hperm.eq_of_pairwise
    (fun a b _ _ hab hba => absurd (hab.trans hba) (lt_irrefl _)) m.sorted n.sorted
  cases m
  cases n
  simp_all

theorem mapVals_insert (m : OrdMap κ ν) (k : κ) (v : ν) (f : κ → ν → ν') :
    (m.insert k v).mapVals f = (m.mapVals f).insert k (f k v) := by
  refine ext_get? fun k' => ?_
  rw [get?_mapVals, get?_insert, get?_insert, get?_mapVals]
  by_cases h : k' = k <;> simp [h]

theorem mapVals_erase (m : OrdMap κ ν) (k : κ) (f : κ → ν → ν') :
    (m.erase k).mapVals f = (m.mapVals f).erase k := by
  refine ext_get? fun k' => ?_
  rw [get?_mapVals, get?_erase, get?_erase, get?_mapVals]
  by_cases h : k' = k <;> simp [h]

/-- A change that the function does not see. -/
theorem mapVals_modify (m : OrdMap κ ν) (k : κ) {g : ν → ν} (h : ∀ k v, f k (g v) = f k v) :
    (m.modify k g).mapVals f = m.mapVals f := by
  refine ext_get? fun k' => ?_
  rw [get?_mapVals, get?_modify, get?_mapVals]
  split_ifs
  · cases m.get? k' <;> simp [h]
  · rfl

theorem erase_eq_self (h : m.get? k = none) : m.erase k = m := by
  refine ext_get? fun k' => ?_
  rw [get?_erase]
  split_ifs with heq
  · rw [heq, h]
  · rfl

theorem contains_iff : m.contains k = true ↔ ∃ v, m.get? k = some v := by
  rw [contains, Option.isSome_iff_exists]

theorem contains_empty (k : κ) : (empty : OrdMap κ ν).contains k = false := rfl

theorem mem_values : v ∈ m.values ↔ ∃ k, m.get? k = some v := by
  simp only [values, List.mem_map, Prod.exists, mem_entries]
  constructor
  · intro h
    obtain ⟨k, v', hget, hv⟩ := h
    exact ⟨k, hv ▸ hget⟩
  · intro h
    obtain ⟨k, hget⟩ := h
    exact ⟨k, v, hget, rfl⟩

/-- Insert each value of a list under its key, later ones last. -/
def insertAll (key : ν → κ) (l : List ν) (m : OrdMap κ ν) : OrdMap κ ν :=
  l.foldl (fun m v => m.insert (key v) v) m

theorem get?_insertAll_source (h : (insertAll key l m).get? k = some v) :
    (v ∈ l ∧ key v = k) ∨ m.get? k = some v := by
  induction l generalizing m with
  | nil => exact .inr h
  | cons a l ih =>
    cases ih h with
    | inl hl => exact .inl ⟨List.mem_cons_of_mem _ hl.1, hl.2⟩
    | inr hm =>
      rw [get?_insert] at hm
      split_ifs at hm with hk
      · obtain rfl := Option.some.inj hm
        exact .inl ⟨List.mem_cons_self, hk.symm⟩
      · exact .inr hm

theorem get?_insertAll_keep (hm : m.get? k = some v) (hl : ∀ a ∈ l, key a = k → a = v) :
    (insertAll key l m).get? k = some v := by
  induction l generalizing m with
  | nil => exact hm
  | cons a l ih =>
    refine ih ?_ fun b hb => hl b (List.mem_cons_of_mem _ hb)
    rw [get?_insert]
    split_ifs with hk
    · rw [hl a List.mem_cons_self hk.symm]
    · exact hm

theorem get?_insertAll_mem (hv : v ∈ l) (hl : ∀ a ∈ l, key a = key v → a = v) :
    (insertAll key l m).get? (key v) = some v := by
  induction l generalizing m with
  | nil => simp at hv
  | cons a l ih =>
    have hrest : ∀ b ∈ l, key b = key v → b = v := fun b hb => hl b (List.mem_cons_of_mem _ hb)
    cases List.mem_cons.mp hv with
    | inl hva =>
      subst hva
      exact get?_insertAll_keep (m := m.insert (key v) v) (get?_insert_self m _ v) hrest
    | inr hmem => exact ih hmem hrest

theorem contains_insert : (m.insert k v).contains k' = true ↔ k' = k ∨ m.contains k' = true := by
  rw [contains, contains, get?_insert]
  by_cases h : k' = k <;> simp [h]

theorem contains_erase : (m.erase k).contains k' = true ↔ k' ≠ k ∧ m.contains k' = true := by
  rw [contains, contains, get?_erase]
  by_cases h : k' = k <;> simp [h]

@[simp] theorem contains_modify {f : ν → ν} : (m.modify k f).contains k' = m.contains k' := by
  rw [contains, contains, get?_modify]
  by_cases h : k' = k <;> simp [h]

@[simp] theorem contains_mapVals : (m.mapVals f).contains k = m.contains k := by
  rw [contains, contains, get?_mapVals, Option.isSome_map]

theorem contains_of_filter (h : (m.filter p).contains k = true) : m.contains k = true := by
  obtain ⟨v, hv⟩ := contains_iff.mp h
  exact contains_iff.mpr ⟨v, (get?_filter_eq_some.mp hv).1⟩

theorem contains_insertAll :
    (insertAll key l m).contains k = true ↔ (∃ v ∈ l, key v = k) ∨ m.contains k = true := by
  induction l generalizing m with
  | nil => simp [insertAll]
  | cons a l ih =>
    change (insertAll key l (m.insert (key a) a)).contains k = true ↔ _
    rw [ih, contains_insert, eq_comm (a := k)]
    simp only [List.mem_cons, exists_eq_or_imp]
    rw [or_assoc, or_left_comm]

theorem contains_filter_key {p : κ → Bool} :
    (m.filter fun k' _ => p k').contains k = true ↔ p k = true ∧ m.contains k = true := by
  simp only [contains_iff, get?_filter_eq_some]
  constructor
  · rintro ⟨v, hv, hp⟩
    exact ⟨hp, v, hv⟩
  · rintro ⟨hp, v, hv⟩
    exact ⟨v, hv, hp⟩

/-- The sum of a weight over the values. -/
def total (w : ν → Nat) (m : OrdMap κ ν) : Nat := (m.values.map w).sum

theorem nodup_entries (m : OrdMap κ ν) : m.entries.Nodup :=
  m.sorted.imp fun hlt heq => absurd (congrArg Prod.fst heq) (ne_of_lt hlt)

theorem nodup_keys (m : OrdMap κ ν) : m.keys.Nodup := by
  unfold keys
  exact List.Pairwise.map _ (fun a b h => h.ne) m.sorted

theorem insert_perm (m : OrdMap κ ν) (k : κ) (v : ν) :
    (m.insert k v).entries.Perm ((k, v) :: (m.filter fun k' _ => k' ≠ k).entries) := by
  have hnodup : ((k, v) :: (m.filter fun k' _ => k' ≠ k).entries).Nodup := by
    refine List.nodup_cons.mpr ⟨fun h => ?_, nodup_entries _⟩
    rw [mem_entries, get?_filter_eq_some] at h
    simp at h
  refine (List.perm_ext_iff_of_nodup (nodup_entries _) hnodup).mpr fun e => ?_
  obtain ⟨k', v'⟩ := e
  rw [mem_entries, List.mem_cons, mem_entries, get?_insert, get?_filter_eq_some, Prod.mk.injEq]
  split_ifs with hk
  · simp [hk, eq_comm]
  · simp [hk]

/-- A new key is one more entry. -/
theorem entries_insert (h : m.get? k = none) :
    (m.insert k v).entries.Perm ((k, v) :: m.entries) := by
  have hperm := m.insert_perm k v
  change (m.insert k v).entries.Perm ((k, v) :: (m.erase k).entries) at hperm
  rwa [erase_eq_self h] at hperm

/-- A known key is one entry. -/
theorem entries_erase (h : m.get? k = some v) : m.entries.Perm ((k, v) :: (m.erase k).entries) := by
  have hsame : m.insert k v = m := by
    refine ext_get? fun k' => ?_
    rw [get?_insert]
    split_ifs with heq
    · rw [heq, h]
    · rfl
  have hperm := m.insert_perm k v
  rwa [hsame] at hperm

theorem entries_modify {f : ν → ν} (h : m.get? k = some v) :
    (m.modify k f).entries.Perm ((k, f v) :: (m.erase k).entries) := by
  have hget : (m.modify k f).get? k = some (f v) := by
    rw [get?_modify_self, h]
    rfl
  have herase : (m.modify k f).erase k = m.erase k := by
    refine ext_get? fun k' => ?_
    rw [get?_erase, get?_erase]
    split_ifs with heq
    · rfl
    · rw [get?_modify_ne _ _ heq]
  rw [← herase]
  exact entries_erase hget

theorem size_insert_le (m : OrdMap κ ν) (k : κ) (v : ν) :
    (m.insert k v).size ≤ m.size + 1 := by
  have hperm := (m.insert_perm k v).length_eq
  have hfilter : (m.filter fun k' _ => k' ≠ k).entries.length ≤ m.entries.length :=
    List.length_filter_le _ _
  rw [List.length_cons] at hperm
  unfold size
  omega

theorem total_insert (w : ν → Nat) (m : OrdMap κ ν) (k : κ) (v : ν) :
    (m.insert k v).total w = w v + (m.filter fun k' _ => k' ≠ k).total w := by
  have hperm := ((m.insert_perm k v).map Prod.snd).map w
  exact hperm.sum_eq.trans List.sum_cons

/-- A map all of whose entries weigh what those of another do under the same keys. -/
theorem entries_subperm (h : ∀ k v', m'.get? k = some v' → ∃ v, m.get? k = some v ∧ u v' = w v) :
    (m'.entries.map fun e => (e.1, u e.2)).Subperm (m.entries.map fun e => (e.1, w e.2)) := by
  refine List.subperm_of_subset ?_ fun e he => ?_
  · refine List.pairwise_map.mpr (m'.sorted.imp fun hlt heq => ?_)
    exact absurd (congrArg Prod.fst heq) (ne_of_lt hlt)
  · obtain ⟨⟨k, v'⟩, hmem, rfl⟩ := List.mem_map.mp he
    obtain ⟨v, hv, hw⟩ := h k v' (mem_entries.mp hmem)
    exact List.mem_map.mpr ⟨(k, v), mem_entries.mpr hv, by rw [hw]⟩

theorem size_le_of (h : ∀ k v', m'.get? k = some v' → ∃ v, m.get? k = some v) :
    m'.size ≤ m.size := by
  have hsub := entries_subperm (w := fun _ => 0) (u := fun _ => 0) fun k v' hv' => by
    obtain ⟨v, hv⟩ := h k v' hv'
    exact ⟨v, hv, rfl⟩
  have hlen := hsub.length_le
  rw [List.length_map, List.length_map] at hlen
  exact hlen

theorem total_le_of (h : ∀ k v', m'.get? k = some v' → ∃ v, m.get? k = some v ∧ u v' = w v) :
    m'.total u ≤ m.total w := by
  obtain ⟨l, hperm, hsub⟩ := entries_subperm h
  have hsum := (hsub.map Prod.snd).sum_le_sum fun _ _ => Nat.zero_le _
  rw [(hperm.map Prod.snd).sum_eq, List.map_map, List.map_map] at hsum
  unfold total values
  rw [List.map_map, List.map_map]
  exact hsum

end OrdMap

/-- A finite set kept in ascending order. -/
abbrev OrdSet (κ : Type) [LinearOrder κ] := OrdMap κ Unit

namespace OrdSet

variable {κ : Type} [LinearOrder κ]
variable {k k' : κ} {a b s : OrdSet κ} {l : List κ}

def single (k : κ) : OrdSet κ := (OrdMap.empty : OrdSet κ).insert k ()

def ofList (l : List κ) : OrdSet κ := l.foldl (fun s k => s.insert k ()) OrdMap.empty

def subset (a b : OrdSet κ) : Bool := a.all fun k _ => b.contains k

def difference (a b : OrdSet κ) : List κ := (a.filter fun k _ => !b.contains k).keys

theorem contains_insert : (s.insert k ()).contains k' = true ↔ k' = k ∨ s.contains k' = true := by
  rw [OrdMap.contains_iff, OrdMap.contains_iff, OrdMap.get?_insert]
  by_cases h : k' = k <;> simp [h]

theorem contains_foldl_insert :
    (l.foldl (fun s k => s.insert k ()) s).contains k = true ↔ k ∈ l ∨ s.contains k = true := by
  induction l generalizing s with
  | nil => simp
  | cons a rest ih =>
    rw [List.foldl_cons, ih, contains_insert, List.mem_cons]
    tauto

theorem mem_difference : k ∈ a.difference b ↔ a.contains k = true ∧ b.contains k = false := by
  unfold difference
  rw [OrdMap.mem_keys, OrdMap.contains_iff]
  simp only [OrdMap.get?_filter_eq_some, Bool.not_eq_true']
  constructor
  · rintro ⟨u, hu, hb⟩
    exact ⟨⟨u, hu⟩, hb⟩
  · rintro ⟨⟨u, hu⟩, hb⟩
    exact ⟨u, hu, hb⟩

theorem contains_single : (single k).contains k' = true ↔ k' = k := by
  rw [single, contains_insert]
  simp [OrdMap.contains]

theorem contains_ofList : (ofList l).contains k = true ↔ k ∈ l := by
  rw [ofList, contains_foldl_insert]
  simp [OrdMap.contains]

theorem mem_keys_iff : k ∈ s.keys ↔ s.contains k = true := by
  rw [OrdMap.mem_keys, OrdMap.contains_iff]

theorem subset_iff : subset a b = true ↔ ∀ k, a.contains k = true → b.contains k = true := by
  rw [subset, OrdMap.all_iff]
  simp only [OrdMap.contains_iff, forall_exists_index]

theorem single_subset : subset (single k) b = true ↔ b.contains k = true := by
  rw [subset_iff]
  simp only [contains_single, forall_eq]

end OrdSet

end Lib
