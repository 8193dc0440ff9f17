import Mathlib.Tactic.Common

/-! How a program ends from one state: with a result and a state, or with a fault. The rules
run a program on states that are terms, one statement after the other. -/

namespace Lib

variable {ε σ α β : Type}
variable {Q' : α → σ → Prop}
variable {m : EStateM ε σ α} {e : ε} {f : α → EStateM ε σ β}

/-- From `s` the program returns what `Q` allows, or fails as `E` allows. -/
def Ends (E : ε → σ → Prop) (m : EStateM ε σ α) (s : σ) (Q : α → σ → Prop) : Prop :=
  match m s with
  | .ok a s' => Q a s'
  | .error e s' => E e s'

variable {E : ε → σ → Prop} {s : σ}

@[simp] theorem ends_pure {a : α} {Q : α → σ → Prop} : Ends E (pure a) s Q ↔ Q a s := Iff.rfl

@[simp] theorem ends_throw {Q : α → σ → Prop} : Ends E (throw e) s Q ↔ E e s := Iff.rfl

@[simp] theorem ends_get {Q : σ → σ → Prop} : Ends E get s Q ↔ Q s s := Iff.rfl

@[simp] theorem ends_set {t : σ} {Q : PUnit → σ → Prop} : Ends E (set t) s Q ↔ Q ⟨⟩ t := Iff.rfl

@[simp] theorem ends_modify {f : σ → σ} {Q : PUnit → σ → Prop} :
    Ends E (modify f) s Q ↔ Q ⟨⟩ (f s) := Iff.rfl

@[simp] theorem ends_bind {Q : β → σ → Prop} :
    Ends E (m >>= f) s Q ↔ Ends E m s fun a s' => Ends E (f a) s' Q := by
  change Ends E (EStateM.bind m f) s Q ↔ _
  unfold Ends EStateM.bind
  cases m s <;> rfl

@[simp] theorem ends_tryCatch {handler : ε → EStateM ε σ α} {Q : α → σ → Prop} :
    Ends E (tryCatch m handler) s Q ↔
      Ends (fun e s' => Ends E (handler e) s' Q) m s Q := by
  change Ends E (EStateM.tryCatch m handler) s Q ↔ _
  unfold Ends EStateM.tryCatch
  cases m s <;> rfl

theorem ends_congr {E' : ε → σ → Prop} {Q : α → σ → Prop} (h : ∀ e s', E e s' ↔ E' e s') :
    Ends E m s Q ↔ Ends E' m s Q := by
  unfold Ends
  cases m s with
  | ok => exact Iff.rfl
  | error e s' => exact h e s'

theorem ends_ite {c : Prop} [Decidable c] {m' : EStateM ε σ α} {Q : α → σ → Prop} :
    Ends E (if c then m else m') s Q ↔ (c → Ends E m s Q) ∧ (¬ c → Ends E m' s Q) := by
  by_cases h : c <;> simp [h]

theorem Ends.mono {Q : α → σ → Prop} (h : Ends E m s Q) (hQ : ∀ a s', Q a s' → Q' a s') :
    Ends E m s Q' := by
  unfold Ends at h ⊢
  cases hm : m s with
  | ok a s' =>
    rw [hm] at h
    exact hQ a s' h
  | error e s' =>
    rw [hm] at h
    exact h

theorem Ends.mono_error {E' : ε → σ → Prop} {Q : α → σ → Prop} (h : Ends E m s Q)
    (hE : ∀ e s', E e s' → E' e s') : Ends E' m s Q := by
  unfold Ends at h ⊢
  cases hm : m s with
  | ok a s' =>
    rw [hm] at h
    exact h
  | error e s' =>
    rw [hm] at h
    exact hE e s' h

/-- What holds at the end, whichever it is. -/
theorem Ends.anyway {P P' : σ → Prop} (h : Ends (fun _ => P) m s fun _ => P)
    (hP : ∀ s', P s' → P' s') : Ends (fun _ => P') m s fun _ => P' :=
  (h.mono_error fun _ => hP).mono fun _ => hP

/-- Nothing is asked of a program whose faults are all allowed. -/
theorem ends_any (hE : ∀ e s, E e s) : Ends E m s fun _ _ => True := by
  unfold Ends
  cases m s with
  | ok => trivial
  | error e s' => exact hE e s'

/-- What a program is followed by may rely on what it ends with. -/
theorem Ends.then {Q : α → σ → Prop} {R : β → σ → Prop} (h : Ends E m s Q)
    (hf : ∀ a s', Q a s' → Ends E (f a) s' R) : Ends E (m >>= f) s R :=
  ends_bind.mpr (h.mono hf)

theorem Ends.ok {Q : α → σ → Prop} (h : Ends E m s Q) {a : α} {s' : σ} (hm : m s = .ok a s') :
    Q a s' := by
  unfold Ends at h
  rw [hm] at h
  exact h

theorem Ends.error {Q : α → σ → Prop} (h : Ends E m s Q) {s' : σ} (hm : m s = .error e s') :
    E e s' := by
  unfold Ends at h
  rw [hm] at h
  exact h

theorem ends_of_ok {Q : α → σ → Prop} {a : α} {s' : σ} (hm : m s = .ok a s') :
    Ends E m s Q ↔ Q a s' := by
  unfold Ends
  rw [hm]

theorem ends_of_error {Q : α → σ → Prop} {s' : σ} (hm : m s = .error e s') :
    Ends E m s Q ↔ E e s' := by
  unfold Ends
  rw [hm]

/-- The result is that of the run. -/
theorem Ends.run {Q : α → σ → Prop} (h : Ends E m s Q) :
    Ends E m s fun a s' => m s = .ok a s' ∧ Q a s' := by
  unfold Ends at h ⊢
  cases hm : m s with
  | ok a s' =>
    rw [hm] at h
    exact ⟨rfl, h⟩
  | error e s' =>
    rw [hm] at h
    exact h

theorem bind_of_ok {a : α} {s' : σ} (hm : m s = .ok a s') : (m >>= f) s = f a s' := by
  change EStateM.bind m f s = _
  unfold EStateM.bind
  rw [hm]

theorem bind_of_error {s' : σ} (hm : m s = .error e s') : (m >>= f) s = .error e s' := by
  change EStateM.bind m f s = _
  unfold EStateM.bind
  rw [hm]

theorem bind_get {f : σ → EStateM ε σ β} : (get >>= f) s = f s s := rfl

/-- A program that never fails has a result. -/
theorem ends_never {Q : α → σ → Prop} :
    Ends (fun _ _ => False) m s Q ↔ ∃ a s', m s = .ok a s' ∧ Q a s' := by
  unfold Ends
  cases hm : m s with
  | ok a s' => simp
  | error e s' => simp

/-- What two specifications say of a result; the first one is kept for the faults. -/
theorem Ends.and {E' : ε → σ → Prop} {Q : α → σ → Prop} (h : Ends E m s Q) (h' : Ends E' m s Q') :
    Ends E m s fun a s' => Q a s' ∧ Q' a s' := by
  unfold Ends at h h' ⊢
  cases hm : m s with
  | ok a s' =>
    rw [hm] at h h'
    exact ⟨h, h'⟩
  | error e s' =>
    rw [hm] at h
    exact h

end Lib
