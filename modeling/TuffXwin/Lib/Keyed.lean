import Mathlib.Data.List.Nodup

/-! Lists whose items have keys, each key once. An item replaces the one of its key and goes
to the end without one; the order of the keys stays. -/

namespace Lib

variable {α κ : Type} [DecidableEq κ] (key : α → κ)
variable {items : List α} {item : α}

def upsert (items : List α) (item : α) : List α :=
  match items.findIdx? fun other => key other = key item with
  | some index => items.set index item
  | none => items ++ [item]

omit [DecidableEq κ] in
/-- The keys and the members determine the list. -/
theorem eq_of_keys {others : List α} (hkeys : items.map key = others.map key)
    (hnodup : (others.map key).Nodup) (hsub : ∀ item ∈ items, item ∈ others) : items = others := by
  have hlength : items.length = others.length := by
    have := congrArg List.length hkeys
    simpa using this
  refine List.ext_getElem hlength fun index hitems hothers => ?_
  obtain ⟨position, hposition, heq⟩ :=
    List.getElem_of_mem (hsub items[index] (List.getElem_mem hitems))
  have hposition' : position < (others.map key).length := by simpa using hposition
  have hothers' : index < (others.map key).length := by simpa using hothers
  have hitems' : index < (items.map key).length := by simpa using hitems
  have hsame : (others.map key)[position] = (others.map key)[index] := by
    have hat : (items.map key)[index] = (others.map key)[index] := by
      simp only [hkeys]
    rw [← hat, List.getElem_map, List.getElem_map, heq]
  have hindex := (List.Nodup.getElem_inj_iff hnodup).mp hsame
  subst hindex
  exact heq.symm

variable {key}

theorem upsert_known (h : key item ∈ items.map key) :
    ∃ index, ∃ hindex : index < items.length, key items[index] = key item ∧
      upsert key items item = items.set index item := by
  obtain ⟨other, hother, hkey⟩ := List.mem_map.mp h
  have hfound : (items.findIdx? fun other => key other = key item).isSome := by
    rw [List.findIdx?_isSome, List.any_eq_true]
    exact ⟨other, hother, by simp [hkey]⟩
  obtain ⟨index, hindex⟩ := Option.isSome_iff_exists.mp hfound
  obtain ⟨hlt, hat, -⟩ := List.findIdx?_eq_some_iff_getElem.mp hindex
  exact ⟨index, hlt, of_decide_eq_true hat, by rw [upsert, hindex]⟩

theorem upsert_keys (h : key item ∈ items.map key) :
    (upsert key items item).map key = items.map key := by
  obtain ⟨index, hindex, hkey, heq⟩ := upsert_known h
  rw [heq, List.map_set, ← hkey]
  refine List.ext_getElem (by simp) fun position hposition _ => ?_
  rw [List.getElem_set]
  split_ifs with hsame
  · subst hsame
    rw [List.getElem_map]
  · rfl

theorem mem_upsert {other : α} (hnodup : (items.map key).Nodup) (h : key item ∈ items.map key)
    (hother : other ∈ upsert key items item) :
    other = item ∨ (other ∈ items ∧ key other ≠ key item) := by
  obtain ⟨index, hindex, hkey, heq⟩ := upsert_known h
  rw [heq] at hother
  obtain ⟨position, hposition, hat⟩ := List.getElem_of_mem hother
  rw [List.getElem_set] at hat
  split_ifs at hat with hsame
  · exact .inl hat.symm
  · rw [List.length_set] at hposition
    refine .inr ⟨hat ▸ List.getElem_mem hposition, fun hcontra => hsame ?_⟩
    have hindex' : index < (items.map key).length := by simpa using hindex
    have hposition' : position < (items.map key).length := by simpa using hposition
    have hkeys : (items.map key)[index] = (items.map key)[position] := by
      rw [List.getElem_map, List.getElem_map, hkey, hat, hcontra]
    exact (List.Nodup.getElem_inj_iff hnodup).mp hkeys

/-- Items of known keys change what has their keys, and nothing else. -/
theorem foldl_upsert {changes : List α} (hnodup : (items.map key).Nodup)
    (hknown : ∀ change ∈ changes, key change ∈ items.map key) :
    (changes.foldl (upsert key) items).map key = items.map key ∧
      ∀ item ∈ changes.foldl (upsert key) items,
        item ∈ changes ∨ (item ∈ items ∧ key item ∉ changes.map key) := by
  induction changes generalizing items with
  | nil => exact ⟨rfl, fun item hitem => .inr ⟨hitem, by simp⟩⟩
  | cons change changes ih =>
    have hchange := hknown change List.mem_cons_self
    have hkeys := upsert_keys hchange
    have hrest : ∀ other ∈ changes, key other ∈ (upsert key items change).map key := by
      intro other hother
      rw [hkeys]
      exact hknown other (List.mem_cons_of_mem _ hother)
    obtain ⟨hfold, hmem⟩ := ih (hkeys ▸ hnodup) hrest
    refine ⟨hfold.trans hkeys, fun item hitem => ?_⟩
    rcases hmem item hitem with hlater | ⟨hbefore, hnone⟩
    · exact .inl (List.mem_cons_of_mem _ hlater)
    · rcases mem_upsert hnodup hchange hbefore with rfl | ⟨hold, hne⟩
      · exact .inl List.mem_cons_self
      · refine .inr ⟨hold, ?_⟩
        rw [List.map_cons, List.mem_cons, not_or]
        exact ⟨hne, hnone⟩

theorem upsert_fresh (h : key item ∉ items.map key) : upsert key items item = items ++ [item] := by
  have hnone : items.findIdx? (fun other => key other = key item) = none := by
    rw [List.findIdx?_eq_none_iff]
    exact fun other hother =>
      decide_eq_false fun hkey => h (List.mem_map.mpr ⟨other, hother, hkey⟩)
  rw [upsert, hnone]

/-- Whatever their keys, items leave each key once. -/
theorem foldl_upsert_single (changes : List α) (hnodup : (items.map key).Nodup) :
    ((changes.foldl (upsert key) items).map key).Nodup ∧
      ∀ item ∈ changes.foldl (upsert key) items, item ∈ changes ∨ item ∈ items := by
  induction changes generalizing items with
  | nil => exact ⟨hnodup, fun item hitem => .inr hitem⟩
  | cons change changes ih =>
    have hstep : ((upsert key items change).map key).Nodup ∧
        ∀ item ∈ upsert key items change, item = change ∨ item ∈ items := by
      by_cases h : key change ∈ items.map key
      · exact ⟨upsert_keys h ▸ hnodup, fun item hitem => (mem_upsert hnodup h hitem).imp id (·.1)⟩
      · rw [upsert_fresh h, List.map_append]
        exact ⟨List.concat_eq_append ▸ hnodup.concat h, by simp [or_comm]⟩
    refine ⟨(ih hstep.1).1, fun item hitem => ?_⟩
    rcases (ih hstep.1).2 item hitem with hlater | hbefore
    · exact .inl (List.mem_cons_of_mem _ hlater)
    · exact (hstep.2 item hbefore).imp (fun heq => List.mem_cons.mpr (.inl heq)) id

end Lib
