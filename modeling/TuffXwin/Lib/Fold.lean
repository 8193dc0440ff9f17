import Mathlib.Data.List.Basic
import Mathlib.Data.List.Induction
import Mathlib.Order.Lattice
import Mathlib.Tactic.Common

/-! Loops that may stop with an error. A loop over a list is `List.foldlM` in
`Except`; its rules speak of the accumulator at each element, or of a guarded
step whose successful result is a plain function. -/

namespace Lib

variable {α ε σ τ : Type}
variable {ok : σ → α → Prop} {next : σ → α → σ}
variable {l : List α} {r s : σ} {f : σ → α → Except ε σ}

/-- How a fallible function of a service ends early: a returned error or a panic. -/
inductive Fault
  | error (reason : String)
  | panic (message : String)
  deriving DecidableEq, Repr

theorem bind_eq_ok {x : Except ε σ} {f : σ → Except ε τ} {r : τ} :
    (x >>= f) = .ok r ↔ ∃ a, x = .ok a ∧ f a = .ok r := by
  cases x with
  | error e => simp [bind, Except.bind]
  | ok a => simp [bind, Except.bind]

/-- A check and what comes after it. -/
theorem check_eq_ok {x : Except ε Unit} {f : Unit → Except ε τ} {r : τ} :
    (x >>= f) = .ok r ↔ x = .ok () ∧ f () = .ok r := by
  rw [bind_eq_ok]
  constructor
  · intro h
    obtain ⟨_, hx, hf⟩ := h
    exact ⟨hx, hf⟩
  · intro h
    exact ⟨(), h⟩

theorem bind_eq_error {x : Except ε σ} {f : σ → Except ε τ} {e : ε} :
    (x >>= f) = .error e ↔ x = .error e ∨ ∃ a, x = .ok a ∧ f a = .error e := by
  cases x with
  | error e' => simp [bind, Except.bind]
  | ok a => simp [bind, Except.bind]

theorem foldlM_cons_ok {a : α} :
    (a :: l).foldlM f s = .ok r ↔ ∃ m, f s a = .ok m ∧ l.foldlM f m = .ok r := by
  rw [List.foldlM_cons]
  exact bind_eq_ok

/-- What holds before the loop and is kept by every successful pass holds after it. -/
theorem foldlM_invariant (I : σ → Prop) (hstep : ∀ s a m, a ∈ l → I s → f s a = .ok m → I m)
    (hs : I s) (h : l.foldlM f s = .ok r) : I r := by
  induction l generalizing s with
  | nil =>
    cases h
    exact hs
  | cons a l ih =>
    obtain ⟨m, hm, hl⟩ := foldlM_cons_ok.mp h
    have hkeep := hstep s a m List.mem_cons_self hs hm
    exact ih (fun s b m hb => hstep s b m (List.mem_cons_of_mem _ hb)) hkeep hl

/-- Every pass of a loop that succeeded has succeeded. -/
theorem foldlM_ok_mem (h : l.foldlM f s = .ok r) :
    ∀ a ∈ l, ∃ before after, f before a = .ok after := by
  induction l generalizing s with
  | nil => simp
  | cons a l ih =>
    obtain ⟨m, hm, hl⟩ := foldlM_cons_ok.mp h
    intro b hb
    rcases List.mem_cons.mp hb with rfl | hb
    · exact ⟨s, m, hm⟩
    · exact ih hl b hb

/-- A loop whose invariant speaks of the elements already passed. -/
theorem foldlM_prefix (I : List α → σ → Prop)
    (hstep : ∀ done s a m, I done s → f s a = .ok m → I (done ++ [a]) m) (hs : I [] s)
    (h : l.foldlM f s = .ok r) : I l r := by
  have hgen : ∀ (l done : List α) (s : σ), I done s → l.foldlM f s = .ok r → I (done ++ l) r := by
    intro l
    induction l with
    | nil =>
      intro done s hI hr
      cases hr
      rwa [List.append_nil]
    | cons a l ih =>
      intro done s hI hr
      obtain ⟨m, hm, hl⟩ := foldlM_cons_ok.mp hr
      have hrest := ih (done ++ [a]) m (hstep done s a m hI hm) hl
      rwa [List.append_assoc, List.singleton_append] at hrest
  exact hgen l [] s hs h

theorem foldlM_prefix_total (I : List α → σ → Prop)
    (hstep : ∀ done s a m, I done s → f s a = .ok m → I (done ++ [a]) m)
    (htotal : ∀ done a rest s, l = done ++ a :: rest → I done s → ∃ m, f s a = .ok m)
    (hs : I [] s) : ∃ r, l.foldlM f s = .ok r := by
  have hgen : ∀ (rest done : List α) (s : σ), l = done ++ rest → I done s →
      ∃ r, rest.foldlM f s = .ok r := by
    intro rest
    induction rest with
    | nil => exact fun done s _ _ => ⟨s, rfl⟩
    | cons a rest ih =>
      intro done s hl hI
      obtain ⟨m, hm⟩ := htotal done a rest s hl hI
      obtain ⟨r, hr⟩ := ih (done ++ [a]) m (by rw [hl, List.append_assoc,
        List.singleton_append]) (hstep done s a m hI hm)
      exact ⟨r, foldlM_cons_ok.mpr ⟨m, hm, hr⟩⟩
  exact hgen l [] s rfl hs

/-- A loop of checks that stops at the first error. -/
def checkAll (check : α → Except ε Unit) : List α → Except ε Unit
  | [] => .ok ()
  | a :: l => check a >>= fun _ => checkAll check l

theorem checkAll_ok {check : α → Except ε Unit} :
    checkAll check l = .ok () ↔ ∀ a ∈ l, check a = .ok () := by
  induction l with
  | nil => simp [checkAll]
  | cons a l ih =>
    rw [checkAll, bind_eq_ok]
    simp only [List.forall_mem_cons, ih]
    constructor
    · intro h
      obtain ⟨_, ha, hl⟩ := h
      exact ⟨ha, hl⟩
    · intro h
      exact ⟨(), h⟩

/-- The guard holds at every element, with the state the loop has reached there. -/
def Guarded (ok : σ → α → Prop) (next : σ → α → σ) : σ → List α → Prop
  | _, [] => True
  | s, a :: l => ok s a ∧ Guarded ok next (next s a) l

theorem foldlM_guarded (hf : ∀ s a m, f s a = .ok m ↔ ok s a ∧ m = next s a) :
    l.foldlM f s = .ok r ↔ Guarded ok next s l ∧ r = l.foldl next s := by
  induction l generalizing s with
  | nil => simp [Guarded, pure, Except.pure, eq_comm]
  | cons a l ih =>
    rw [foldlM_cons_ok]
    simp only [hf, Guarded, List.foldl_cons, ih]
    constructor
    · intro h
      obtain ⟨m, ⟨hok, rfl⟩, hrest, hr⟩ := h
      exact ⟨⟨hok, hrest⟩, hr⟩
    · intro h
      exact ⟨_, ⟨h.1.1, rfl⟩, h.1.2, h.2⟩

theorem Guarded.append {l' : List α} :
    Guarded ok next s (l ++ l') ↔
      Guarded ok next s l ∧ Guarded ok next (l.foldl next s) l' := by
  induction l generalizing s with
  | nil => simp [Guarded]
  | cons a l ih => simp [Guarded, ih, and_assoc]

section MaxBy

variable {κ : Type} [LinearOrder κ]

/-- `Iterator::max_by_key`: the last element with the greatest key. -/
def maxByKey (key : α → κ) (l : List α) : Option α :=
  l.foldl (fun best a =>
    match best with
    | none => some a
    | some b => if key b ≤ key a then some a else some b) none

theorem maxByKey_concat (key : α → κ) (l : List α) (a : α) :
    maxByKey key (l ++ [a]) =
      match maxByKey key l with
      | none => some a
      | some b => if key b ≤ key a then some a else some b := by
  simp [maxByKey, List.foldl_append]

theorem maxByKey_eq_none {key : α → κ} : maxByKey key l = none ↔ l = [] := by
  constructor
  · intro h
    cases l using List.reverseRecOn with
    | nil => rfl
    | append_singleton l a =>
      rw [maxByKey_concat] at h
      split at h
      · simp at h
      · split_ifs at h
  · intro h
    rw [h]
    rfl

theorem maxByKey_mem {key : α → κ} {b : α} (h : maxByKey key l = some b) :
    b ∈ l ∧ ∀ a ∈ l, key a ≤ key b := by
  induction l using List.reverseRecOn generalizing b with
  | nil => simp [maxByKey] at h
  | append_singleton l a ih =>
    rw [maxByKey_concat] at h
    cases hprev : maxByKey key l with
    | none =>
      have hl : l = [] := maxByKey_eq_none.mp hprev
      simp only [hprev, Option.some.injEq] at h
      subst hl h
      simp
    | some c =>
      obtain ⟨hmem, hmax⟩ := ih hprev
      simp only [hprev] at h
      split_ifs at h with hle
      · obtain rfl := Option.some.inj h
        refine ⟨by simp, fun x hx => ?_⟩
        cases List.mem_append.mp hx with
        | inl hx => exact (hmax x hx).trans hle
        | inr hx => rw [List.mem_singleton.mp hx]
      · obtain rfl := Option.some.inj h
        refine ⟨List.mem_append_left _ hmem, fun x hx => ?_⟩
        cases List.mem_append.mp hx with
        | inl hx => exact hmax x hx
        | inr hx =>
          rw [List.mem_singleton.mp hx]
          exact (not_le.mp hle).le

end MaxBy

end Lib
