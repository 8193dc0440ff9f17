import Mathlib.Data.List.Basic
import TuffXwin.Lib.Fold

/-! Buffers updated by loops. A pass acts pointwise when it replaces every cell
by a partial function of the cell's index and old value, and fails only where
that function is undefined somewhere. Sequencing and loops keep this form, so a
nest of loops over a buffer is read one cell at a time. -/

namespace Lib

variable {α β ε : Type}
variable {start : Nat} {l : List β} {γ : Type}
variable {cells cells' row : List α} {p : β → Prop}

/-- Overwrite the slice of `row.length` cells from `start`; `none` out of range. -/
def writeSlice (cells : List α) (start : Nat) (row : List α) : Option (List α) :=
  if start + row.length ≤ cells.length then
    some (cells.take start ++ row ++ cells.drop (start + row.length))
  else none

theorem writeSlice_length (h : writeSlice cells start row = some cells') :
    cells'.length = cells.length := by
  simp only [writeSlice] at h
  split_ifs at h with hle
  obtain rfl := Option.some.inj h
  simp only [List.length_append, List.length_take, List.length_drop]
  omega

theorem writeSlice_getElem? (h : writeSlice cells start row = some cells') (i : Nat) :
    cells'[i]? = if start ≤ i ∧ i < start + row.length then row[i - start]? else cells[i]? := by
  simp only [writeSlice] at h
  split_ifs at h with hle
  obtain rfl := Option.some.inj h
  have htake : (cells.take start).length = start := by
    rw [List.length_take]
    omega
  rw [List.append_assoc]
  by_cases hlow : i < start
  · rw [List.getElem?_append_left (by omega), List.getElem?_take_of_lt hlow,
      if_neg (by omega)]
  · rw [List.getElem?_append_right (by omega), htake]
    by_cases hrow : i - start < row.length
    · rw [List.getElem?_append_left hrow, if_pos (by omega)]
    · rw [List.getElem?_append_right (by omega), List.getElem?_drop, if_neg (by omega)]
      congr 1
      omega

/-- On buffers of `n` cells, `step` replaces cell `i` holding `a` by `f i a`. -/
structure Acts (n : Nat) (step : List α → Except ε (List α)) (f : Nat → α → Option α) :
    Prop where
  length : ∀ l l', l.length = n → step l = .ok l' → l'.length = n
  cell : ∀ l l', l.length = n → step l = .ok l' → ∀ i a, l[i]? = some a →
    ∃ b, f i a = some b ∧ l'[i]? = some b
  total : ∀ l, l.length = n → (∀ i a, l[i]? = some a → ∃ b, f i a = some b) →
    ∃ l', step l = .ok l'

namespace Acts

variable {n : Nat} {step step' : List α → Except ε (List α)} {f g : Nat → α → Option α}

theorem ok : Acts n (fun l => (.ok l : Except ε (List α))) (fun _ a => some a) where
  length l l' hl h := by
    cases h
    exact hl
  cell l l' _ h i a ha := by
    cases h
    exact ⟨a, rfl, ha⟩
  total l _ _ := ⟨l, rfl⟩

theorem congr (h : Acts n step f) (hfg : ∀ i a, i < n → f i a = g i a) : Acts n step g where
  length := h.length
  cell l l' hl hs i a ha := by
    have hi : i < n := hl ▸ (List.getElem?_eq_some_iff.mp ha).1
    rw [← hfg i a hi]
    exact h.cell l l' hl hs i a ha
  total l hl hall := by
    refine h.total l hl fun i a ha => ?_
    have hi : i < n := hl ▸ (List.getElem?_eq_some_iff.mp ha).1
    rw [hfg i a hi]
    exact hall i a ha

theorem comp (h : Acts n step f) (h' : Acts n step' g) :
    Acts n (fun l => step l >>= step') (fun i a => (f i a).bind (g i)) where
  length l l' hl hs := by
    obtain ⟨m, hm, hr⟩ := bind_eq_ok.mp hs
    exact h'.length m l' (h.length l m hl hm) hr
  cell l l' hl hs i a ha := by
    obtain ⟨m, hm, hr⟩ := bind_eq_ok.mp hs
    obtain ⟨b, hb, hmb⟩ := h.cell l m hl hm i a ha
    obtain ⟨c, hc, hrc⟩ := h'.cell m l' (h.length l m hl hm) hr i b hmb
    exact ⟨c, by rw [hb, Option.bind_some, hc], hrc⟩
  total l hl hall := by
    have hf : ∀ i a, l[i]? = some a → ∃ b, f i a = some b := by
      intro i a ha
      obtain ⟨c, hc⟩ := hall i a ha
      obtain ⟨b, hb, _⟩ := Option.bind_eq_some_iff.mp hc
      exact ⟨b, hb⟩
    obtain ⟨m, hm⟩ := h.total l hl hf
    have hlen := h.length l m hl hm
    have hg : ∀ i b, m[i]? = some b → ∃ c, g i b = some c := by
      intro i b hb
      have hi : i < l.length := by
        rw [hl, ← hlen]
        exact (List.getElem?_eq_some_iff.mp hb).1
      obtain ⟨b', hb', hmb'⟩ := h.cell l m hl hm i l[i] (List.getElem?_eq_getElem hi)
      obtain ⟨c, hc⟩ := hall i l[i] (List.getElem?_eq_getElem hi)
      rw [hb', Option.bind_some] at hc
      have hbb : b' = b := Option.some.inj (hmb'.symm.trans hb)
      exact ⟨c, hbb ▸ hc⟩
    obtain ⟨r, hr⟩ := h'.total m hlen hg
    exact ⟨r, bind_eq_ok.mpr ⟨m, hm, hr⟩⟩

/-- A loop of pointwise passes runs, in each cell, the loop of that cell's functions. -/
theorem foldlM {pass : List α → β → Except ε (List α)} {f : β → Nat → α → Option α}
    (h : ∀ b ∈ l, Acts n (fun cells => pass cells b) (f b)) :
    Acts n (fun cells => l.foldlM pass cells)
      (fun i a => l.foldlM (fun a b => f b i a) a) := by
  induction l with
  | nil => exact ok
  | cons b l ih =>
    have hhead := h b List.mem_cons_self
    have htail := ih fun c hc => h c (List.mem_cons_of_mem _ hc)
    have hcomp := hhead.comp htail
    simp only [← List.foldlM_cons] at hcomp
    exact hcomp

/-- A pass that overwrites one slice. -/
theorem slice {r : List α} (hlen : start + r.length ≤ n)
    (hstep : ∀ l l', l.length = n → (step l = .ok l' ↔ writeSlice l start r = some l')) :
    Acts n step (fun i a =>
      if start ≤ i ∧ i < start + r.length then r[i - start]? else some a) where
  length l l' hl hs := by
    rw [writeSlice_length ((hstep l l' hl).mp hs), hl]
  cell l l' hl hs i a ha := by
    have hget := writeSlice_getElem? ((hstep l l' hl).mp hs) i
    by_cases hin : start ≤ i ∧ i < start + r.length
    · have hrow : i - start < r.length := by omega
      refine ⟨r[i - start], ?_, ?_⟩
      · rw [if_pos hin, List.getElem?_eq_getElem hrow]
      · rw [hget, if_pos hin, List.getElem?_eq_getElem hrow]
    · refine ⟨a, by rw [if_neg hin], ?_⟩
      rw [hget, if_neg hin, ha]
  total l hl _ :=
    ⟨l.take start ++ r ++ l.drop (start + r.length),
      (hstep l _ hl).mpr (by rw [writeSlice, if_pos (by omega)])⟩

/-- A pass that computes `v` and combines it into one cell. -/
theorem modifyCell {index : Nat} {v : Except ε γ} {g : γ → α → α} {e : ε} (hlen : index < n)
    (hstep : ∀ l, step l = v.bind fun c =>
      match l[index]? with
      | none => .error e
      | some a => .ok (l.set index (g c a))) :
    Acts n step (fun i a => if i = index then v.toOption.map (fun c => g c a) else some a) where
  length l l' hl hs := by
    rw [hstep] at hs
    obtain ⟨c, _, hr⟩ := bind_eq_ok.mp hs
    split at hr
    · simp at hr
    · rw [← Except.ok.inj hr, List.length_set, hl]
  cell l l' hl hs i a ha := by
    rw [hstep] at hs
    obtain ⟨c, hc, hr⟩ := bind_eq_ok.mp hs
    split at hr
    · simp at hr
    · rename_i old hold
      rw [← Except.ok.inj hr]
      by_cases hi : i = index
      · rw [hi, hold] at ha
        obtain rfl := Option.some.inj ha
        refine ⟨g c old, ?_, ?_⟩
        · rw [if_pos hi, hc]
          rfl
        · rw [hi, List.getElem?_set_self (by omega)]
      · refine ⟨a, by rw [if_neg hi], ?_⟩
        rw [List.getElem?_set_ne (Ne.symm hi), ha]
  total l hl hall := by
    have hget : l[index]? = some l[index] := List.getElem?_eq_getElem (by omega)
    obtain ⟨b, hb⟩ := hall index l[index] hget
    rw [hstep]
    cases hv : v with
    | error e =>
      rw [if_pos rfl, hv] at hb
      cases hb
    | ok c =>
      refine ⟨l.set index (g c l[index]), ?_⟩
      simp only [Except.bind, hget]

/-- Passes that act by one function agree wherever one of them succeeds. -/
theorem agree (h : Acts n step f) (h' : Acts n step' f) {l l' : List α} (hl : l.length = n)
    (hs : step l = .ok l') : step' l = .ok l' := by
  have hdefined : ∀ i a, l[i]? = some a → ∃ b, f i a = some b := by
    intro i a ha
    obtain ⟨b, hb, _⟩ := h.cell l l' hl hs i a ha
    exact ⟨b, hb⟩
  obtain ⟨m, hm⟩ := h'.total l hl hdefined
  have hlen := h.length l l' hl hs
  have hlen' := h'.length l m hl hm
  have heq : m = l' := by
    refine List.ext_getElem? fun i => ?_
    by_cases hi : i < n
    · have ha : l[i]? = some (l.get ⟨i, hl ▸ hi⟩) := List.getElem?_eq_getElem (hl ▸ hi)
      obtain ⟨b, hb, hget⟩ := h.cell l l' hl hs i _ ha
      obtain ⟨b', hb', hget'⟩ := h'.cell l m hl hm i _ ha
      rw [hget, hget', ← hb, ← hb']
    · rw [List.getElem?_eq_none (by omega), List.getElem?_eq_none (by omega)]
  rw [hm, heq]

end Acts

/-- On buffers of `n` cells, `step` keeps the length and fails only with faults in `P`. -/
structure FailsWith (n : Nat) (P : ε → Prop) (step : List α → Except ε (List α)) : Prop where
  length : ∀ l l', l.length = n → step l = .ok l' → l'.length = n
  fault : ∀ l e, l.length = n → step l = .error e → P e

namespace FailsWith

variable {n : Nat} {P : ε → Prop} {step step' : List α → Except ε (List α)}

theorem ok : FailsWith n P (fun l => (.ok l : Except ε (List α))) where
  length l l' hl h := by
    cases h
    exact hl
  fault l e _ h := by cases h

theorem comp (h : FailsWith n P step) (h' : FailsWith n P step') :
    FailsWith n P (fun l => step l >>= step') where
  length l l' hl hs := by
    obtain ⟨m, hm, hr⟩ := bind_eq_ok.mp hs
    exact h'.length m l' (h.length l m hl hm) hr
  fault l e hl hs := by
    cases hm : step l with
    | error e' =>
      rw [hm] at hs
      cases hs
      exact h.fault l e hl hm
    | ok m =>
      rw [hm] at hs
      exact h'.fault m e (h.length l m hl hm) hs

theorem foldlM {pass : List α → β → Except ε (List α)}
    (h : ∀ b ∈ l, FailsWith n P (fun cells => pass cells b)) :
    FailsWith n P (fun cells => l.foldlM pass cells) := by
  induction l with
  | nil => exact ok
  | cons b l ih =>
    have htail := ih fun c hc => h c (List.mem_cons_of_mem _ hc)
    have hcomp := (h b List.mem_cons_self).comp htail
    simp only [← List.foldlM_cons] at hcomp
    exact hcomp

/-- A pass that first computes a value. -/
theorem bind {x : Except ε γ} {f : γ → List α → Except ε (List α)} (hx : ∀ e, x = .error e → P e)
    (h : ∀ c, x = .ok c → FailsWith n P (f c)) : FailsWith n P (fun l => x >>= fun c => f c l) where
  length l l' hl hs := by
    obtain ⟨c, hc, hr⟩ := bind_eq_ok.mp hs
    exact (h c hc).length l l' hl hr
  fault l e hl hs := by
    cases bind_eq_error.mp hs with
    | inl he => exact hx e he
    | inr hr =>
      obtain ⟨c, hc, hr⟩ := hr
      exact (h c hc).fault l e hl hr

theorem slice {r : List α} (hok : ∀ l l', step l = .ok l' → writeSlice l start r = some l')
    (hfault : ∀ l e, step l = .error e → P e) : FailsWith n P step where
  length l l' hl hs := by
    rw [writeSlice_length (hok l l' hs), hl]
  fault l e _ hs := hfault l e hs

/-- A pass over one cell of the buffer faults only where its value does. -/
theorem modifyCell {index : Nat} {v : Except ε γ} {g : γ → α → α} {e : ε} (hlen : index < n)
    (hv : ∀ e, v = .error e → P e) (hstep : ∀ l, step l = v.bind fun c =>
      match l[index]? with
      | none => .error e
      | some a => .ok (l.set index (g c a))) : FailsWith n P step where
  length l l' hl hs := (Acts.modifyCell hlen hstep).length l l' hl hs
  fault l e' hl hs := by
    rw [hstep, List.getElem?_eq_getElem (by omega)] at hs
    cases bind_eq_error.mp hs with
    | inl he => exact hv e' he
    | inr hr =>
      obtain ⟨c, _, hr⟩ := hr
      cases hr

end FailsWith

/-- The cells of one row of a buffer whose rows are `pitch` cells apart. -/
theorem row_slice {pitch row len i : Nat} (hlen : start + len ≤ pitch) :
    (row * pitch + start ≤ i ∧ i < row * pitch + start + len) ↔
      i / pitch = row ∧ start ≤ i % pitch ∧ i % pitch < start + len := by
  have hdecompose := Nat.div_add_mod i pitch
  constructor
  · intro h
    have hdiv : i / pitch = row := by
      refine Nat.div_eq_of_lt_le (by omega) ?_
      rw [Nat.add_mul, Nat.one_mul]
      omega
    rw [hdiv, Nat.mul_comm] at hdecompose
    omega
  · intro h
    rw [h.1, Nat.mul_comm] at hdecompose
    omega

theorem foldlM_option_keep {f : α → β → Option α} {a : α} (h : ∀ b ∈ l, ∀ a, f a b = some a) :
    l.foldlM f a = some a := by
  induction l with
  | nil => rfl
  | cons b l ih =>
    rw [List.foldlM_cons, h b List.mem_cons_self]
    exact ih fun c hc => h c (List.mem_cons_of_mem _ hc)

/-- A loop that acts on a cell at most once. -/
theorem foldlM_option_once [DecidablePred p] {f : α → Option α}
    (hl : l.Pairwise (fun b c => p b → ¬ p c)) (a : α) :
    l.foldlM (fun a b => if p b then f a else some a) a =
      if ∃ b ∈ l, p b then f a else some a := by
  induction l generalizing a with
  | nil => simp
  | cons b l ih =>
    obtain ⟨hb, hrest⟩ := List.pairwise_cons.mp hl
    rw [List.foldlM_cons]
    by_cases hp : p b
    · have hnone : ∀ x, l.foldlM (fun a b => if p b then f a else some a) x = some x := by
        intro x
        rw [ih hrest, if_neg]
        intro h
        obtain ⟨c, hc, hpc⟩ := h
        exact hb c hc hp hpc
      rw [if_pos hp, if_pos ⟨b, List.mem_cons_self, hp⟩]
      cases hf : f a with
      | none => rfl
      | some x => exact hnone x
    · rw [if_neg hp]
      have hex : (∃ c ∈ b :: l, p c) ↔ ∃ c ∈ l, p c := by simp [hp]
      simp only [hex]
      exact ih hrest a

/-- A loop each of whose passes either sets the value to `v` or keeps it. -/
theorem foldlM_option_set [DecidablePred p] {v : Option α} (a : α) :
    l.foldlM (fun a b => if p b then v else some a) a =
      if ∃ b ∈ l, p b then v else some a := by
  induction l generalizing a with
  | nil => simp
  | cons b l ih =>
    rw [List.foldlM_cons]
    by_cases hp : p b
    · rw [if_pos hp, if_pos ⟨b, List.mem_cons_self, hp⟩]
      cases hv : v with
      | none => rfl
      | some x =>
        rw [hv] at ih
        simp only [Option.bind_eq_bind, Option.bind_some, ih]
        split_ifs <;> rfl
    · rw [if_neg hp]
      have hex : (∃ c ∈ b :: l, p c) ↔ ∃ c ∈ l, p c := by simp [hp]
      simp only [hex]
      exact ih a

end Lib
