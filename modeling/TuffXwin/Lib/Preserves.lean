import TuffXwin.Lib.Outcome

/-! Programs that keep a predicate of the state, whichever way they end. A program keeps what
each of its statements keeps; a statement that writes what it has read is looked at from the
state it read. -/

namespace Lib

variable {ε σ α β : Type}
variable {t : σ}
variable {m : EStateM ε σ α} {f : σ → EStateM ε σ α}

/-- From `s` the program ends where `P` holds, with a result or with a fault. -/
def Stays (P : σ → Prop) (m : EStateM ε σ α) (s : σ) : Prop := Ends (fun _ => P) m s fun _ => P

def Preserves (P : σ → Prop) (m : EStateM ε σ α) : Prop := ∀ s, P s → Stays P m s

variable {P : σ → Prop} {s : σ}

theorem stays_get (h : Stays P (f s) s) : Stays P (get >>= f) s := h

theorem Stays.bind {f : α → EStateM ε σ β} (hm : Stays P m s) (hf : ∀ a, Preserves P (f a)) :
    Stays P (m >>= f) s :=
  Ends.then hm fun a s' hs' => hf a s' hs'

theorem preserves_pure (a : α) : Preserves P (pure a : EStateM ε σ α) := fun _ h => h

theorem preserves_throw (e : ε) : Preserves P (throw e : EStateM ε σ α) := fun _ h => h

theorem preserves_set (h : P t) : Preserves P (set t : EStateM ε σ PUnit) := fun _ _ => h

theorem preserves_modify {f : σ → σ} (h : ∀ s, P s → P (f s)) :
    Preserves P (modify f : EStateM ε σ PUnit) := h

/-- What is read from the state matters to the rest as a value only. -/
theorem preserves_get (h : ∀ t, Preserves P (f t)) : Preserves P (get >>= f) := fun s hs => h s s hs

/-- The rest writes what it has read. -/
theorem preserves_update (h : ∀ s, P s → Stays P (f s) s) : Preserves P (get >>= f) := h

theorem Preserves.bind {f : α → EStateM ε σ β} (hm : Preserves P m) (hf : ∀ a, Preserves P (f a)) :
    Preserves P (m >>= f) :=
  fun s hs => Stays.bind (hm s hs) hf

theorem preserves_ite {c : Prop} [Decidable c] {m' : EStateM ε σ α} (hm : Preserves P m)
    (hm' : Preserves P m') : Preserves P (if c then m else m') := by
  split_ifs
  · exact hm
  · exact hm'

end Lib
