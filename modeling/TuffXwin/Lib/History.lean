import TuffXwin.Lib.OrdMap

/-! A bounded map of results with the order in which they came. A new result makes room by
dropping the oldest ones; the order lists the keys of the map, each once. -/

namespace Lib.History

variable {κ ν : Type} [LinearOrder κ]

/-- Drop the oldest results until there is room for one more. -/
def evict (cap : Nat) : List κ → OrdMap κ ν → List κ × OrdMap κ ν
  | [], results => ([], results)
  | oldest :: rest, results =>
    if results.size < cap then (oldest :: rest, results)
    else evict cap rest (results.erase oldest)

def record (cap : Nat) (order : List κ) (results : OrdMap κ ν) (key : κ) (value : ν) :
    List κ × OrdMap κ ν :=
  if results.contains key then (order, results.insert key value)
  else
    let evicted := evict cap order results
    (evicted.1 ++ [key], evicted.2.insert key value)

def forget (order : List κ) (results : OrdMap κ ν) (key : κ) : List κ × OrdMap κ ν :=
  (order.filter (· ≠ key), results.erase key)

/-- The order lists the keys of the map, each once. -/
structure Listed (order : List κ) (results : OrdMap κ ν) : Prop where
  nodup : order.Nodup
  keys : ∀ key, key ∈ order ↔ results.contains key = true

variable {cap : Nat} {order : List κ} {results : OrdMap κ ν} {key : κ} {value : ν}

theorem Listed.perm (h : Listed order results) : order.Perm results.keys := by
  refine (List.perm_ext_iff_of_nodup h.nodup results.nodup_keys).mpr fun key => ?_
  rw [h.keys, OrdMap.mem_keys, OrdMap.contains_iff]

theorem Listed.size (h : Listed order results) : results.size = order.length := by
  rw [h.perm.length_eq, OrdMap.keys, List.length_map]
  rfl

theorem listed_empty : Listed ([] : List κ) (OrdMap.empty : OrdMap κ ν) :=
  ⟨List.nodup_nil, fun key => by simp [OrdMap.contains]⟩

theorem Listed.tail {oldest : κ} {rest : List κ} (h : Listed (oldest :: rest) results) :
    Listed rest (results.erase oldest) := by
  obtain ⟨hnew, hrest⟩ := List.nodup_cons.mp h.nodup
  refine ⟨hrest, fun key => ?_⟩
  rw [OrdMap.contains_erase, ← h.keys, List.mem_cons]
  constructor
  · intro hmem
    exact ⟨fun heq => hnew (heq ▸ hmem), .inr hmem⟩
  · rintro ⟨hne, rfl | hmem⟩
    · exact absurd rfl hne
    · exact hmem

theorem evict_listed (hcap : 0 < cap) (h : Listed order results) :
    Listed (evict cap order results).1 (evict cap order results).2 ∧
      (evict cap order results).1.length < cap := by
  induction order generalizing results with
  | nil => exact ⟨h, hcap⟩
  | cons oldest rest ih =>
    unfold evict
    split_ifs with hroom
    · exact ⟨h, by rwa [← h.size]⟩
    · exact ih h.tail

/-- Eviction adds nothing. -/
theorem get?_evict (h : (evict cap order results).2.get? key = some value) :
    results.get? key = some value := by
  induction order generalizing results with
  | nil => exact h
  | cons oldest rest ih =>
    unfold evict at h
    split_ifs at h with hroom
    · exact h
    · have hget := ih h
      rw [OrdMap.get?_erase] at hget
      split_ifs at hget with heq
      exact hget

theorem record_listed (hcap : 0 < cap) (h : Listed order results) (hbound : order.length ≤ cap) :
    Listed (record cap order results key value).1 (record cap order results key value).2 ∧
      (record cap order results key value).1.length ≤ cap := by
  unfold record
  split_ifs with hknown
  · refine ⟨⟨h.nodup, fun key' => ?_⟩, hbound⟩
    rw [h.keys, OrdMap.contains_insert]
    constructor
    · exact .inr
    · rintro (rfl | hother)
      · exact hknown
      · exact hother
  · obtain ⟨hlisted, hroom⟩ := evict_listed hcap h
    have hnew : key ∉ (evict cap order results).1 := by
      intro hmem
      obtain ⟨value', hvalue⟩ := OrdMap.contains_iff.mp ((hlisted.keys key).mp hmem)
      exact hknown (OrdMap.contains_iff.mpr ⟨value', get?_evict hvalue⟩)
    refine ⟨⟨?_, fun key' => ?_⟩, ?_⟩
    · exact List.nodup_append.mpr ⟨hlisted.nodup, List.pairwise_singleton _ key,
        fun key' hmem other hother => by
          rw [List.mem_singleton.mp hother]
          exact fun heq => hnew (heq ▸ hmem)⟩
    · rw [List.mem_append, hlisted.keys, OrdMap.contains_insert, List.mem_singleton, or_comm]
    · rw [List.length_append, List.length_singleton]
      exact hroom

theorem get?_record {other : κ} {value' : ν}
    (h : (record cap order results key value).2.get? other = some value') :
    (other = key ∧ value' = value) ∨ results.get? other = some value' := by
  unfold record at h
  split_ifs at h with hknown
  · rw [OrdMap.get?_insert] at h
    split_ifs at h with heq
    · exact .inl ⟨heq, (Option.some.inj h).symm⟩
    · exact .inr h
  · rw [OrdMap.get?_insert] at h
    split_ifs at h with heq
    · exact .inl ⟨heq, (Option.some.inj h).symm⟩
    · exact .inr (get?_evict h)

theorem forget_listed (h : Listed order results) :
    Listed (forget order results key).1 (forget order results key).2 := by
  refine ⟨h.nodup.filter _, fun key' => ?_⟩
  unfold forget
  rw [List.mem_filter, h.keys, OrdMap.contains_erase, decide_eq_true_eq, and_comm]

end Lib.History
