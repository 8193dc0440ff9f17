import Mathlib.Data.List.Nodup
import TuffXwin.Lib.OrdMap

/-! The difference of two maps as a list of edits: what is gone, then what is new or has another
value. Each edit fits the map at its turn, no key is edited twice, and a key whose value is the
same is not edited; all edits together lead from one map to the other. -/

namespace Lib

inductive Edit (κ ν : Type)
  | remove (k : κ) (v : ν)
  | add (k : κ) (v : ν)
  | change (k : κ) (v : ν)

namespace Edit

variable {κ ν : Type}
variable {edits : List (Edit κ ν)}

def key : Edit κ ν → κ
  | .remove k _ | .add k _ | .change k _ => k

/-- The value that the edit leaves. -/
def after : Edit κ ν → Option ν
  | .remove _ _ => none
  | .add _ v | .change _ v => some v

def isAdd : Edit κ ν → Bool
  | .add _ _ => true
  | _ => false

variable [LinearOrder κ] {m : OrdMap κ ν} {e e' : Edit κ ν}

def apply (m : OrdMap κ ν) : Edit κ ν → OrdMap κ ν
  | .remove k _ => m.erase k
  | .add k v | .change k v => m.insert k v

/-- The edit says what it does to this map. -/
def Fits (m : OrdMap κ ν) : Edit κ ν → Prop
  | .remove k v => m.get? k = some v
  | .add k _ => m.get? k = none
  | .change k v => ∃ old, m.get? k = some old ∧ old ≠ v

theorem get?_apply (m : OrdMap κ ν) (e : Edit κ ν) (k : κ) :
    (e.apply m).get? k = if k = e.key then e.after else m.get? k := by
  cases e with
  | remove k' v => exact OrdMap.get?_erase m k' k
  | add k' v => exact OrdMap.get?_insert m k' k v
  | change k' v => exact OrdMap.get?_insert m k' k v

/-- An edit looks at its own key only. -/
theorem Fits.congr {m' : OrdMap κ ν} (h : e.Fits m) (hsame : m'.get? e.key = m.get? e.key) :
    e.Fits m' := by
  cases e with
  | remove k v => exact hsame.trans h
  | add k v => exact hsame.trans h
  | change k v =>
    obtain ⟨old, hold, hne⟩ := h
    exact ⟨old, hsame.trans hold, hne⟩

theorem Fits.apply_other (h : e.Fits m) (hne : e.key ≠ e'.key) : e.Fits (e'.apply m) := by
  refine h.congr ?_
  rw [get?_apply, if_neg hne]

theorem Fits.changes (h : e.Fits m) : m.get? e.key ≠ e.after := by
  cases e with
  | remove k v =>
    intro heq
    cases h.symm.trans heq
  | add k v =>
    intro heq
    cases h.symm.trans heq
  | change k v =>
    obtain ⟨old, hold, hne⟩ := h
    intro heq
    exact hne (Option.some.inj (hold.symm.trans heq))

theorem get?_foldl_other {k : κ} (h : ∀ e ∈ edits, e.key ≠ k) :
    (edits.foldl apply m).get? k = m.get? k := by
  induction edits generalizing m with
  | nil => rfl
  | cons e rest ih =>
    rw [List.foldl_cons, ih fun e' he' => h e' (List.mem_cons_of_mem _ he'), get?_apply,
      if_neg (h e List.mem_cons_self).symm]

theorem get?_foldl_mem (hnodup : (edits.map key).Nodup) (he : e ∈ edits) :
    (edits.foldl apply m).get? e.key = e.after := by
  induction edits generalizing m with
  | nil => cases he
  | cons e' rest ih =>
    obtain ⟨hfresh, hrest⟩ := List.nodup_cons.mp hnodup
    rw [List.foldl_cons]
    rcases List.mem_cons.mp he with rfl | hmem
    · rw [get?_foldl_other fun other hother heq => hfresh (List.mem_map.mpr ⟨other, hother, heq⟩),
        get?_apply, if_pos rfl]
    · exact ih hrest hmem

end Edit

section Diff

variable {κ ν : Type} [LinearOrder κ] [DecidableEq ν]
variable {entry : κ × ν}

def removalOf (next : OrdMap κ ν) (entry : κ × ν) : Option (Edit κ ν) :=
  if next.contains entry.1 then none else some (.remove entry.1 entry.2)

def changeOf (previous : OrdMap κ ν) (entry : κ × ν) : Option (Edit κ ν) :=
  match previous.get? entry.1 with
  | none => some (.add entry.1 entry.2)
  | some old => if old ≠ entry.2 then some (.change entry.1 entry.2) else none

def diff (previous next : OrdMap κ ν) : List (Edit κ ν) :=
  previous.entries.filterMap (removalOf next) ++ next.entries.filterMap (changeOf previous)

variable {previous next : OrdMap κ ν} {e : Edit κ ν}

omit [DecidableEq ν] in
theorem removalOf_eq_some :
    removalOf next entry = some e ↔ next.get? entry.1 = none ∧ e = .remove entry.1 entry.2 := by
  unfold removalOf OrdMap.contains
  cases next.get? entry.1 <;> simp [eq_comm]

theorem changeOf_eq_some :
    changeOf previous entry = some e ↔ e.Fits previous ∧ e.key = entry.1 ∧
      e.after = some entry.2 := by
  unfold changeOf
  constructor
  · intro h
    cases hold : previous.get? entry.1 with
    | none =>
      rw [hold] at h
      obtain rfl := Option.some.inj h
      exact ⟨hold, rfl, rfl⟩
    | some old =>
      rw [hold] at h
      dsimp only at h
      split_ifs at h with hne
      obtain rfl := Option.some.inj h
      exact ⟨⟨old, hold, hne⟩, rfl, rfl⟩
  · rintro ⟨hfits, hkey, hafter⟩
    cases e with
    | remove k v => cases hafter
    | add k v =>
      obtain rfl : k = entry.1 := hkey
      obtain rfl : v = entry.2 := Option.some.inj hafter
      rw [show previous.get? entry.1 = none from hfits]
    | change k v =>
      obtain rfl : k = entry.1 := hkey
      obtain rfl : v = entry.2 := Option.some.inj hafter
      obtain ⟨old, hold, hne⟩ := hfits
      rw [hold]
      exact if_pos hne

/-- The edits are those that fit the first map and leave what the second one has. -/
theorem mem_diff : e ∈ diff previous next ↔ e.Fits previous ∧ next.get? e.key = e.after := by
  rw [diff, List.mem_append, List.mem_filterMap, List.mem_filterMap]
  constructor
  · rintro (⟨entry, hentry, hremoval⟩ | ⟨entry, hentry, hchange⟩)
    · obtain ⟨hgone, rfl⟩ := removalOf_eq_some.mp hremoval
      exact ⟨OrdMap.mem_entries.mp hentry, hgone⟩
    · obtain ⟨hfits, hkey, hafter⟩ := changeOf_eq_some.mp hchange
      refine ⟨hfits, ?_⟩
      rw [hkey, hafter]
      exact OrdMap.mem_entries.mp hentry
  · rintro ⟨hfits, hnext⟩
    cases hafter : e.after with
    | none =>
      cases e with
      | remove k v =>
        refine .inl ⟨(k, v), OrdMap.mem_entries.mpr hfits, removalOf_eq_some.mpr ⟨hnext, rfl⟩⟩
      | add k v => cases hafter
      | change k v => cases hafter
    | some v =>
      refine .inr ⟨(e.key, v), ?_, changeOf_eq_some.mpr ⟨hfits, rfl, hafter⟩⟩
      exact OrdMap.mem_entries.mpr (hnext.trans hafter)

/-- A key whose value changes is edited. -/
theorem exists_edit {k : κ} (h : previous.get? k ≠ next.get? k) :
    ∃ e ∈ diff previous next, e.key = k := by
  cases hnext : next.get? k with
  | none =>
    rw [hnext] at h
    obtain ⟨v, hv⟩ := Option.ne_none_iff_exists'.mp h
    exact ⟨.remove k v, mem_diff.mpr ⟨hv, hnext⟩, rfl⟩
  | some v =>
    cases hprevious : previous.get? k with
    | none => exact ⟨.add k v, mem_diff.mpr ⟨hprevious, hnext⟩, rfl⟩
    | some old =>
      rw [hprevious, hnext] at h
      have hne : old ≠ v := fun heq => h (congrArg some heq)
      exact ⟨.change k v, mem_diff.mpr ⟨⟨old, hprevious, hne⟩, hnext⟩, rfl⟩

omit [LinearOrder κ] [DecidableEq ν] in
theorem keys_filterMap_sublist {f : κ × ν → Option (Edit κ ν)}
    (hf : ∀ entry e, f entry = some e → e.key = entry.1) (entries : List (κ × ν)) :
    ((entries.filterMap f).map Edit.key).Sublist (entries.map Prod.fst) := by
  induction entries with
  | nil => exact .slnil
  | cons entry rest ih =>
    rw [List.map_cons, List.filterMap_cons]
    cases hentry : f entry with
    | none => exact ih.cons _
    | some e =>
      rw [List.map_cons, hf entry e hentry]
      exact ih.cons_cons _

/-- No key is edited twice. -/
theorem diff_nodup (previous next : OrdMap κ ν) :
    ((diff previous next).map Edit.key).Nodup := by
  rw [diff, List.map_append]
  refine List.Nodup.append ?_ ?_ ?_
  · refine previous.nodup_keys.sublist (keys_filterMap_sublist (fun entry e he => ?_) _)
    rw [(removalOf_eq_some.mp he).2]
    rfl
  · refine next.nodup_keys.sublist (keys_filterMap_sublist (fun entry e he => ?_) _)
    exact (changeOf_eq_some.mp he).2.1
  · intro k hremoved hchanged
    obtain ⟨removal, hmem, rfl⟩ := List.mem_map.mp hremoved
    obtain ⟨gone, hgone, hremoval⟩ := List.mem_filterMap.mp hmem
    obtain ⟨hnone, rfl⟩ := removalOf_eq_some.mp hremoval
    obtain ⟨change, hmem', hkey⟩ := List.mem_map.mp hchanged
    obtain ⟨entry, hentry, hchange⟩ := List.mem_filterMap.mp hmem'
    obtain ⟨-, hkey', -⟩ := changeOf_eq_some.mp hchange
    have hpresent := OrdMap.mem_entries.mp hentry
    rw [← hkey', hkey] at hpresent
    cases hpresent.symm.trans hnone

theorem diff_apply (previous next : OrdMap κ ν) :
    (diff previous next).foldl Edit.apply previous = next := by
  refine OrdMap.ext_get? fun k => ?_
  by_cases hedited : ∃ e ∈ diff previous next, e.key = k
  · obtain ⟨e, he, rfl⟩ := hedited
    rw [Edit.get?_foldl_mem (diff_nodup previous next) he]
    exact (mem_diff.mp he).2.symm
  · rw [Edit.get?_foldl_other fun e he hkey => hedited ⟨e, he, hkey⟩]
    by_contra hne
    exact hedited (exists_edit hne)

end Diff

end Lib
