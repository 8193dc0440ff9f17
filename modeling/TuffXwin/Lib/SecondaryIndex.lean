import TuffXwin.Lib.OrdMap

/-! Indexes that are kept beside a table: the set of what its entries hold when no two hold the
same, the number of its entries for each value, and their keys listed by value. Each rule says
how an index follows one change of the table. -/

namespace Lib

/-- The list has what is held, and nothing is held twice. -/
structure HeldOnce {κ π : Type} (held : κ → Option π) (listed : List π) : Prop where
  mem : ∀ p, p ∈ listed ↔ ∃ k, held k = some p
  sole : ∀ k k' p, held k = some p → held k' = some p → k = k'

namespace HeldOnce

variable {κ π : Type} {held held' : κ → Option π} {listed listed' : List π}

theorem of_same (h : HeldOnce held listed) (hheld : ∀ k, held' k = held k)
    (hlisted : listed' = listed) : HeldOnce held' listed' := by
  rw [hlisted, funext hheld]
  exact h

theorem added (h : HeldOnce held listed) {k : κ} {p : π} (hfresh : held k = none)
    (hfree : p ∉ listed) (hk : held' k = some p) (hothers : ∀ k', k' ≠ k → held' k' = held k') :
    HeldOnce held' (p :: listed) := by
  have hcases (k' : κ) (q : π) : held' k' = some q ↔ (k' = k ∧ q = p) ∨ held k' = some q := by
    by_cases heq : k' = k
    · simp [heq, hk, hfresh, eq_comm]
    · simp [heq, hothers k' heq]
  refine ⟨fun q => ?_, fun k' k'' q hq hq' => ?_⟩
  · rw [List.mem_cons, h.mem]
    simp only [hcases, exists_or, exists_eq_left]
  · have hnew (k' : κ) : held k' ≠ some p := fun hk' => hfree ((h.mem p).mpr ⟨k', hk'⟩)
    rcases (hcases k' q).mp hq with ⟨rfl, rfl⟩ | hold
    · rcases (hcases k'' q).mp hq' with ⟨rfl, -⟩ | hold'
      · rfl
      · exact absurd hold' (hnew k'')
    · rcases (hcases k'' q).mp hq' with ⟨-, rfl⟩ | hold'
      · exact absurd hold (hnew k')
      · exact h.sole k' k'' q hold hold'

/-- What the entries that are gone have held goes from the list. -/
theorem removed (h : HeldOnce held listed) (gone : κ → Prop)
    (hheld : ∀ k p, held' k = some p ↔ held k = some p ∧ ¬ gone k)
    (hlisted : ∀ p, p ∈ listed' ↔ p ∈ listed ∧ ∀ k, gone k → held k ≠ some p) :
    HeldOnce held' listed' := by
  refine ⟨fun p => ?_, fun k k' p hk hk' => ?_⟩
  · rw [hlisted, h.mem]
    constructor
    · rintro ⟨⟨k, hk⟩, hkept⟩
      exact ⟨k, (hheld k p).mpr ⟨hk, fun hgone => hkept k hgone hk⟩⟩
    · rintro ⟨k, hk⟩
      obtain ⟨hk, hstays⟩ := (hheld k p).mp hk
      refine ⟨⟨k, hk⟩, fun k' hgone hk' => hstays ?_⟩
      rw [h.sole k k' p hk hk']
      exact hgone
  · exact h.sole k k' p ((hheld k p).mp hk).1 ((hheld k' p).mp hk').1

end HeldOnce

section Tables

variable {κ ν : Type} [LinearOrder κ]

theorem OrdMap.get?_foldl_erase (ks : List κ) (m : OrdMap κ ν) (k : κ) :
    (ks.foldl OrdMap.erase m).get? k = if k ∈ ks then none else m.get? k := by
  induction ks generalizing m with
  | nil => rfl
  | cons first rest ih =>
    rw [List.foldl_cons, ih, OrdMap.get?_erase]
    by_cases heq : k = first <;> simp [heq]

variable [LinearOrder ν] {m : OrdMap κ ν} {k : κ} {v : ν}

/-- How many keys have the value. -/
def OrdMap.holders (m : OrdMap κ ν) (v : ν) : Nat := m.values.count v

theorem OrdMap.holders_insert (hfresh : m.get? k = none) (w : ν) :
    (m.insert k v).holders w = m.holders w + if v = w then 1 else 0 := by
  have hperm : (m.insert k v).values.Perm (v :: m.values) :=
    (OrdMap.entries_insert hfresh).map Prod.snd
  simp [holders, hperm.count_eq, List.count_cons]

theorem OrdMap.holders_erase (hentry : m.get? k = some v) (w : ν) :
    m.holders w = (m.erase k).holders w + if v = w then 1 else 0 := by
  have hperm : m.values.Perm (v :: (m.erase k).values) :=
    (OrdMap.entries_erase hentry).map Prod.snd
  simp [holders, hperm.count_eq, List.count_cons]

theorem OrdMap.holders_without (m : OrdMap κ ν) (v w : ν) :
    (m.filter fun _ v' => v' ≠ v).holders w = if w = v then 0 else m.holders w := by
  have hvalues : (m.filter fun _ v' => v' ≠ v).values = m.values.filter (· ≠ v) := by
    simp only [values, filter, List.filter_map]
    rfl
  unfold holders
  rw [hvalues]
  split_ifs with heq
  · rw [List.count_eq_zero]
    simp [heq]
  · exact List.count_filter (by simpa using heq)

/-- The number of entries for each value that has any. -/
def Counted (m : OrdMap κ ν) (counts : OrdMap ν Nat) : Prop :=
  ∀ v, counts.get? v = if m.holders v = 0 then none else some (m.holders v)

namespace Counted

variable {counts counts' : OrdMap ν Nat}

theorem added (h : Counted m counts) (hfresh : m.get? k = none) :
    Counted (m.insert k v) (counts.insert v ((counts.get? v).getD 0 + 1)) := by
  intro w
  have hcount : (counts.get? v).getD 0 = m.holders v := by
    rw [h v]
    split_ifs with hnone
    · exact hnone.symm
    · rfl
  rw [OrdMap.get?_insert, OrdMap.holders_insert hfresh, hcount]
  by_cases heq : w = v
  · simp [heq]
  · simp [heq, Ne.symm heq, h w]

theorem removed (h : Counted m counts) (hentry : m.get? k = some v)
    (hv : counts'.get? v = if m.holders v - 1 = 0 then none else some (m.holders v - 1))
    (hothers : ∀ w, w ≠ v → counts'.get? w = counts.get? w) : Counted (m.erase k) counts' := by
  intro w
  have hholders := OrdMap.holders_erase hentry w
  by_cases heq : w = v
  · rw [heq, if_pos rfl] at hholders
    rw [heq, hv, hholders, Nat.add_sub_cancel]
  · rw [if_neg (Ne.symm heq), Nat.add_zero] at hholders
    rw [hothers w heq, h w, hholders]

/-- All entries for a value go. -/
theorem dropped (h : Counted m counts) (v : ν) :
    Counted (m.filter fun _ v' => v' ≠ v) (counts.erase v) := by
  intro w
  rw [OrdMap.get?_erase, OrdMap.holders_without]
  by_cases heq : w = v
  · simp [heq]
  · simp [heq, h w]

end Counted

/-- Each key is listed once, by its value, and no list is empty. -/
structure Bucketed (m : OrdMap κ ν) (lists : OrdMap ν (List κ)) : Prop where
  listed : ∀ k v, m.get? k = some v ↔ ∃ ks, lists.get? v = some ks ∧ k ∈ ks
  nodup : ∀ v ks, lists.get? v = some ks → ks.Nodup
  filled : ∀ v ks, lists.get? v = some ks → ks ≠ []

namespace Bucketed

variable {lists lists' : OrdMap ν (List κ)}

section

variable (h : Bucketed m lists)
include h

/-- The keys of the value, if there are any. -/
theorem mem_keys : k ∈ (lists.get? v).getD [] ↔ m.get? k = some v := by
  rw [h.listed]
  cases lists.get? v <;> simp

theorem nodup_keys : ((lists.get? v).getD []).Nodup := by
  cases hlist : lists.get? v with
  | none => exact List.nodup_nil
  | some ks => exact h.nodup v ks hlist

/-- The list of one value changes with the entries of its keys. -/
theorem changed {m' : OrdMap κ ν} {left : List κ} (hleft : left.Nodup)
    (hv : lists'.get? v = if left = [] then none else some left)
    (hothers : ∀ w, w ≠ v → lists'.get? w = lists.get? w)
    (hentries : ∀ k, m'.get? k = some v ↔ k ∈ left)
    (hkept : ∀ k w, w ≠ v → (m'.get? k = some w ↔ m.get? k = some w)) : Bucketed m' lists' := by
  have hlist (w : ν) (ks : List κ) (hks : lists'.get? w = some ks) :
      (w = v ∧ ks = left ∧ left ≠ []) ∨ (w ≠ v ∧ lists.get? w = some ks) := by
    by_cases heq : w = v
    · rw [heq, hv] at hks
      split_ifs at hks with hempty
      exact .inl ⟨heq, (Option.some.inj hks).symm, hempty⟩
    · exact .inr ⟨heq, (hothers w heq).symm.trans hks⟩
  refine ⟨fun k w => ?_, fun w ks hks => ?_, fun w ks hks => ?_⟩
  · by_cases heq : w = v
    · rw [heq, hentries, hv]
      split_ifs with hempty
      · simp [hempty]
      · simp
    · rw [hkept k w heq, hothers w heq]
      exact h.listed k w
  · rcases hlist w ks hks with ⟨-, rfl, -⟩ | ⟨-, hold⟩
    · exact hleft
    · exact h.nodup w ks hold
  · rcases hlist w ks hks with ⟨-, rfl, hfilled⟩ | ⟨-, hold⟩
    · exact hfilled
    · exact h.filled w ks hold

theorem added (hfresh : m.get? k = none) :
    Bucketed (m.insert k v) (lists.insert v ((lists.get? v).getD [] ++ [k])) := by
  have hunlisted : k ∉ (lists.get? v).getD [] := by
    rw [h.mem_keys, hfresh]
    simp
  have hleft : ((lists.get? v).getD [] ++ [k]).Nodup := by
    refine List.nodup_append.mpr ⟨h.nodup_keys, List.pairwise_singleton _ k, fun a ha b hb heq => ?_⟩
    rw [heq, List.mem_singleton.mp hb] at ha
    exact hunlisted ha
  refine h.changed hleft ?_ (fun w hw => OrdMap.get?_insert_ne _ _ hw) (fun k' => ?_)
    fun k' w hw => ?_
  · rw [OrdMap.get?_insert_self, if_neg (by simp)]
  · rw [List.mem_append, List.mem_singleton, h.mem_keys, OrdMap.get?_insert]
    split_ifs with heq
    · simp [heq]
    · simp [heq]
  · rw [OrdMap.get?_insert]
    split_ifs with heq
    · rw [heq, hfresh]
      simpa using Ne.symm hw
    · rfl

/-- The list of the value of the key that goes is `lists'.get? v`, unless it is empty. -/
theorem removed (hentry : m.get? k = some v)
    (hv : lists'.get? v = if ((lists.get? v).getD []).filter (· ≠ k) = [] then none
      else some (((lists.get? v).getD []).filter (· ≠ k)))
    (hothers : ∀ w, w ≠ v → lists'.get? w = lists.get? w) : Bucketed (m.erase k) lists' := by
  refine h.changed (h.nodup_keys.filter _) hv hothers (fun k' => ?_) fun k' w hw => ?_
  · rw [List.mem_filter, h.mem_keys, OrdMap.get?_erase]
    split_ifs with heq
    · simp [heq]
    · simp [heq]
  · rw [OrdMap.get?_erase]
    split_ifs with heq
    · rw [heq, hentry]
      simpa using Ne.symm hw
    · rfl

/-- All keys of a value go. -/
theorem dropped (v : ν) :
    Bucketed (((lists.get? v).getD []).foldl OrdMap.erase m) (lists.erase v) := by
  refine h.changed List.nodup_nil ?_ (fun w hw => (OrdMap.get?_erase _ _ _).trans (if_neg hw))
    (fun k' => ?_) fun k' w hw => ?_
  · rw [OrdMap.get?_erase, if_pos rfl, if_pos rfl]
  · rw [OrdMap.get?_foldl_erase]
    split_ifs with hlisted
    · simp
    · simpa using mt h.mem_keys.mpr hlisted
  · rw [OrdMap.get?_foldl_erase]
    split_ifs with hlisted
    · rw [h.mem_keys.mp hlisted]
      simpa using Ne.symm hw
    · rfl

end

end Bucketed

end Tables

end Lib
