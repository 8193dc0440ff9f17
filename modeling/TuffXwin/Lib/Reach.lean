import Mathlib.Tactic.Common

/-! Reachability in a transition system whose every choice, including that of
its environment, is part of the input of a step. A predicate on a state and an
input restricts the runs that are looked at. -/

namespace Lib

structure System (σ ι : Type) where
  init : σ → Prop
  next : σ → ι → σ

namespace System

variable {σ ι : Type} (S : System σ ι) (good : σ → ι → Prop)
variable {s : σ} {I J : σ → Prop}

/-- The states reached by runs every step of which is `good`. -/
inductive Reach : σ → Prop
  | init {s : σ} : S.init s → Reach s
  | next {s : σ} (i : ι) : Reach s → good s i → Reach (S.next s i)

/-- All reachable states. -/
abbrev Reachable : σ → Prop := S.Reach (fun _ _ => True)

def run (s : σ) (inputs : List ι) : σ := inputs.foldl S.next s

variable {S good}

theorem Reach.invariant (hinit : ∀ s, S.init s → I s)
    (hnext : ∀ s i, I s → good s i → I (S.next s i)) (h : S.Reach good s) : I s := by
  induction h with
  | init h => exact hinit _ h
  | next i _ hg ih => exact hnext _ i ih hg

/-- An invariant may be proved with another one, already established, at hand. -/
theorem Reach.invariant_with (hJ : ∀ s, S.Reach good s → J s) (hinit : ∀ s, S.init s → I s)
    (hnext : ∀ s i, J s → I s → good s i → I (S.next s i)) (h : S.Reach good s) : I s := by
  induction h with
  | init h => exact hinit _ h
  | next i hr hg ih => exact hnext _ i (hJ _ hr) ih hg

theorem Reach.mono {good' : σ → ι → Prop} (hsub : ∀ s i, good s i → good' s i)
    (h : S.Reach good s) : S.Reach good' s := by
  induction h with
  | init h => exact .init h
  | next i _ hg ih => exact .next i ih (hsub _ _ hg)

theorem Reach.reachable (h : S.Reach good s) : S.Reachable s :=
  h.mono fun _ _ _ => trivial

theorem Reach.run (h : S.Reach good s) (inputs : List ι) (hgood : ∀ i ∈ inputs, ∀ s, good s i) :
    S.Reach good (S.run s inputs) := by
  induction inputs generalizing s with
  | nil => exact h
  | cons i rest ih =>
    have hstep : S.Reach good (S.next s i) := .next i h (hgood i List.mem_cons_self s)
    exact ih hstep fun j hj => hgood j (List.mem_cons_of_mem _ hj)

/-- Does every step of the run from here pass a test? -/
def passes (S : System σ ι) (test : σ → ι → Bool) : σ → List ι → Bool
  | _, [] => true
  | s, i :: rest => test s i && passes S test (S.next s i) rest

/-- A run whose steps pass a test for good steps. -/
theorem Reach.run_passes {test : σ → ι → Bool} (htest : ∀ s i, test s i = true → good s i)
    (h : S.Reach good s) {inputs : List ι} (hpass : S.passes test s inputs = true) :
    S.Reach good (S.run s inputs) := by
  induction inputs generalizing s with
  | nil => exact h
  | cons i rest ih =>
    obtain ⟨hi, hrest⟩ := Bool.and_eq_true_iff.mp hpass
    exact ih (.next i h (htest s i hi)) hrest

theorem Reachable.run (h : S.Reachable s) (inputs : List ι) :
    S.Reachable (S.run s inputs) := Reach.run h inputs fun _ _ _ => trivial

/-- Every step of the run from here is one that `P` allows. -/
def Throughout (S : System σ ι) (P : σ → ι → Prop) : σ → List ι → Prop
  | _, [] => True
  | s, i :: rest => P s i ∧ Throughout S P (S.next s i) rest

/-- A property that a step keeps just when it is good holds all along the runs of good steps
and along no others. Another one, kept by good steps, may be at hand. -/
theorem always_iff_throughout (hJ : ∀ s i, J s → I s → good s i → J (S.next s i))
    (hI : ∀ s i, J s → I s → (I (S.next s i) ↔ good s i)) (hj : J s) (hi : I s) (inputs : List ι) :
    (∀ done, done <+: inputs → I (S.run s done)) ↔ S.Throughout good s inputs := by
  induction inputs generalizing s with
  | nil =>
    refine iff_of_true (fun done hdone => ?_) trivial
    rw [List.prefix_nil.mp hdone]
    exact hi
  | cons i rest ih =>
    constructor
    · intro h
      have hfirst : I (S.next s i) := h [i] (List.cons_prefix_cons.mpr ⟨rfl, List.nil_prefix⟩)
      have hgood := (hI s i hj hi).mp hfirst
      refine ⟨hgood, (ih (hJ s i hj hi hgood) hfirst).mp fun done hdone => ?_⟩
      exact h (i :: done) (List.cons_prefix_cons.mpr ⟨rfl, hdone⟩)
    · rintro ⟨hgood, hrest⟩ done hdone
      cases done with
      | nil => exact hi
      | cons j done =>
        obtain ⟨rfl, hlater⟩ := List.cons_prefix_cons.mp hdone
        exact (ih (hJ s j hj hi hgood) ((hI s j hj hi).mpr hgood)).mpr hrest done hlater

end System

end Lib
