import Mathlib.Tactic.Common

/-! Rules for programs that change a state and may end early, keeping the state they
ended in. A triple bounds the states of both endings, so what was done before a
failure is accounted for as well. -/

namespace Lib

variable {ε σ τ α β : Type}
variable {R : PUnit → σ → Prop}
variable {m : EStateM ε σ α}

/-- From every state of `P` the program returns in a state of `Q`, or fails in one of `E`. -/
def Triple (P : σ → Prop) (m : EStateM ε σ α) (Q : α → σ → Prop) (E : σ → Prop) : Prop :=
  ∀ s, P s →
    match m s with
    | .ok a s' => Q a s'
    | .error _ s' => E s'

namespace Triple

variable {P P' : σ → Prop} {Q Q' : α → σ → Prop} {E E' : σ → Prop}

theorem pure {a : α} (h : ∀ s, P s → Q a s) :
    Triple (ε := ε) P (Pure.pure a) Q E := by
  intro s hs
  exact h s hs

theorem throw {e : ε} (h : ∀ s, P s → E s) :
    Triple P (MonadExcept.throw e : EStateM ε σ α) Q E := by
  intro s hs
  exact h s hs

theorem modify {f : σ → σ} (h : ∀ s, P s → R ⟨⟩ (f s)) :
    Triple P (modify f : EStateM ε σ PUnit) R E := by
  intro s hs
  exact h s hs

theorem set {t : σ} (h : R ⟨⟩ t) : Triple P (MonadStateOf.set t : EStateM ε σ PUnit) R E := by
  intro s _
  exact h

theorem bind {f : α → EStateM ε σ β} {R : β → σ → Prop} (hm : Triple P m Q E)
    (hf : ∀ a, Triple (Q a) (f a) R E) : Triple P (m >>= f) R E := by
  intro s hs
  have hresult := hm s hs
  change match EStateM.bind m f s with
    | .ok b s' => R b s'
    | .error _ s' => E s'
  unfold EStateM.bind
  cases hrun : m s with
  | ok a s' =>
    rw [hrun] at hresult
    exact hf a s' hresult
  | error e s' =>
    rw [hrun] at hresult
    exact hresult

/-- A program may look at the state it starts from. -/
theorem get_bind {f : σ → EStateM ε σ β} {R : β → σ → Prop}
    (h : ∀ s, P s → Triple (fun s' => s' = s) (f s) R E) :
    Triple P (MonadState.get >>= f) R E := by
  intro s hs
  exact h s hs s rfl

theorem weaken (h : Triple P m Q E) (hpre : ∀ s, P' s → P s) (hpost : ∀ a s, Q a s → Q' a s)
    (herror : ∀ s, E s → E' s) : Triple P' m Q' E' := by
  intro s hs
  have hresult := h s (hpre s hs)
  cases hrun : m s with
  | ok a s' =>
    rw [hrun] at hresult
    exact hpost a s' hresult
  | error e s' =>
    rw [hrun] at hresult
    exact herror s' hresult

theorem imp (h : Triple P m Q E) (hpost : ∀ a s, Q a s → Q' a s) (herror : ∀ s, E s → E' s) :
    Triple P m Q' E' :=
  h.weaken (fun _ hs => hs) hpost herror

theorem and (h : Triple P m Q E) (h' : Triple P m Q' E') :
    Triple P m (fun a s => Q a s ∧ Q' a s) fun s => E s ∧ E' s := by
  intro s hs
  have hresult := h s hs
  have hresult' := h' s hs
  cases hrun : m s with
  | ok a s' =>
    rw [hrun] at hresult hresult'
    exact ⟨hresult, hresult'⟩
  | error e s' =>
    rw [hrun] at hresult hresult'
    exact ⟨hresult, hresult'⟩

/-- A triple is proved from each of its first states. -/
theorem each (h : ∀ s, P s → Triple (fun s' => s' = s) m Q E) : Triple P m Q E := by
  intro s hs
  exact h s hs s rfl

theorem ite {c : Prop} [Decidable c] {m' : EStateM ε σ α} (hthen : c → Triple P m Q E)
    (helse : ¬ c → Triple P m' Q E) : Triple P (if c then m else m') Q E := by
  by_cases h : c
  · rw [if_pos h]
    exact hthen h
  · rw [if_neg h]
    exact helse h

/-- The invariant of a loop is indexed by the elements still to come. -/
theorem forM {l : List α} {f : α → EStateM ε σ PUnit} {I : List α → σ → Prop}
    (h : ∀ a rest, Triple (I (a :: rest)) (f a) (fun _ => I rest) E) :
    Triple (I l) (l.forM f) (fun _ => I []) E := by
  induction l with
  | nil => exact pure fun _ hs => hs
  | cons a rest ih => exact bind (h a rest) fun _ => ih

end Triple

end Lib
