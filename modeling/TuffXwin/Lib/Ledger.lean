import Mathlib.Data.List.Induction
import Mathlib.Data.List.Perm.Basic
import Mathlib.Tactic.Common

/-! Logs of a party that hands out resources. A resource is live from the event that creates
it to the one that destroys it. In a sound log every resource is created once and destroyed
while it is live, so a resource that was created is live or was destroyed exactly once. -/

namespace Lib.Ledger

variable {ε : Type}
variable {log : List ε}
variable {P : List ε → ε → Prop}

/-- Every event of a log is as `P` asks, given the events before it. -/
def Guarded (P : List ε → ε → Prop) (log : List ε) : Prop :=
  ∀ before event after, log = before ++ event :: after → P before event

theorem guarded_nil : Guarded P [] := by
  intro before event after h
  simp at h

theorem guarded_snoc {event : ε} : Guarded P (log ++ [event]) ↔ Guarded P log ∧ P log event := by
  constructor
  · intro h
    refine ⟨fun before event' after heq => ?_, h log event [] rfl⟩
    exact h before event' (after ++ [event]) (by rw [heq, List.append_assoc]; rfl)
  · rintro ⟨hlog, hevent⟩ before event' after heq
    rcases List.eq_nil_or_concat after with rfl | ⟨after', last, rfl⟩
    · obtain ⟨rfl, hlast⟩ := List.append_inj' heq rfl
      obtain rfl := List.singleton_inj.mp hlast
      exact hevent
    · rw [List.concat_eq_append, ← List.cons_append, ← List.append_assoc] at heq
      obtain ⟨rfl, -⟩ := List.append_inj' heq rfl
      exact hlog before event' after' rfl

theorem Guarded.mono {P' : List ε → ε → Prop} (h : Guarded P log)
    (hsub : ∀ before event, before ++ [event] <+: log → P before event → P' before event) :
    Guarded P' log := by
  intro before event after heq
  refine hsub before event ⟨after, ?_⟩ (h before event after heq)
  rw [heq, List.append_assoc]
  rfl

inductive Event (ω ε : Type)
  | create (resource : ω)
  | destroy (resource : ω)
  | other (event : ε)

variable {ω : Type} [DecidableEq ω]

def Event.creates (resource : ω) : Event ω ε → Bool
  | .create created => created = resource
  | _ => false

def Event.destroys (resource : ω) : Event ω ε → Bool
  | .destroy destroyed => destroyed = resource
  | _ => false

/-- The live resources after one more event. -/
def Event.apply (live : List ω) : Event ω ε → List ω
  | .create resource => resource :: live
  | .destroy resource => live.erase resource
  | .other _ => live

def live (log : List (Event ω ε)) : List ω := log.foldl Event.apply []

variable {log : List (Event ω ε)} {resource : ω}

@[simp] theorem live_snoc {event : Event ω ε} : live (log ++ [event]) = event.apply (live log) := by
  unfold live
  rw [List.foldl_append]
  rfl

/-- What an event may do: create what was never there before, destroy what is live. -/
def Permitted (before : List (Event ω ε)) : Event ω ε → Prop
  | .create resource => .create resource ∉ before
  | .destroy resource => resource ∈ live before
  | .other _ => True

abbrev Sound (log : List (Event ω ε)) : Prop := Guarded Permitted log

theorem created_iff : Event.create resource ∈ log ↔ 0 < log.countP (Event.creates resource) := by
  rw [List.countP_pos_iff]
  constructor
  · intro h
    exact ⟨_, h, by simp [Event.creates]⟩
  · rintro ⟨event, hevent, hcreates⟩
    cases event with
    | create created =>
      rw [Event.creates, decide_eq_true_eq] at hcreates
      exact hcreates ▸ hevent
    | destroy => cases hcreates
    | other => cases hcreates

/-- What was created is live or was destroyed, and all of it once. -/
theorem Sound.balance (h : Sound log) (resource : ω) :
    log.countP (Event.destroys resource) + (live log).count resource =
        log.countP (Event.creates resource) ∧
      log.countP (Event.creates resource) ≤ 1 := by
  induction log using List.reverseRecOn with
  | nil => simp [live]
  | append_singleton log event ih =>
    obtain ⟨hlog, hevent⟩ := guarded_snoc.mp h
    obtain ⟨hsum, hle⟩ := ih hlog
    rw [List.countP_append, List.countP_append, live_snoc]
    cases event with
    | create created =>
      have hnew : ¬ 0 < log.countP (Event.creates created) := fun hpos => hevent (created_iff.mpr hpos)
      by_cases heq : created = resource
      · subst heq
        simp only [List.countP_singleton, Event.creates, Event.destroys, Event.apply,
          List.count_cons_self, decide_true, if_true, Bool.false_eq_true, if_false]
        omega
      · simp only [List.countP_singleton, Event.creates, Event.destroys, Event.apply,
          List.count_cons_of_ne heq, decide_eq_true_eq, if_neg heq, Bool.false_eq_true, if_false]
        omega
    | destroy destroyed =>
      by_cases heq : destroyed = resource
      · subst heq
        have hpos : 0 < (live log).count destroyed := List.count_pos_iff.mpr hevent
        simp only [List.countP_singleton, Event.creates, Event.destroys, Event.apply,
          List.count_erase_self, decide_true, if_true, Bool.false_eq_true, if_false]
        omega
      · simp only [List.countP_singleton, Event.creates, Event.destroys, Event.apply,
          List.count_erase_of_ne (Ne.symm heq), decide_eq_true_eq, if_neg heq,
          Bool.false_eq_true, if_false]
        omega
    | other other =>
      simp only [List.countP_singleton, Event.creates, Event.destroys, Event.apply,
        Bool.false_eq_true, if_false]
      omega

theorem Sound.created_of_live (h : Sound log) (hlive : resource ∈ live log) :
    .create resource ∈ log := by
  have hbalance := (h.balance resource).1
  have hpos : 0 < (live log).count resource := List.count_pos_iff.mpr hlive
  exact created_iff.mpr (by omega)

theorem Sound.nodup_live (h : Sound log) : (live log).Nodup := by
  refine List.nodup_iff_count.mpr fun resource => ?_
  have hbalance := h.balance resource
  omega

/-- A created resource that is not live was destroyed once, a live one not yet. -/
theorem Sound.destroyed (h : Sound log) (hcreated : .create resource ∈ log) :
    log.countP (Event.destroys resource) = if resource ∈ live log then 0 else 1 := by
  have hbalance := h.balance resource
  have hpos := created_iff.mp hcreated
  split_ifs with hlive
  · have := List.count_pos_iff.mpr hlive
    omega
  · have := List.count_eq_zero.mpr hlive
    omega

/-- Live resources may be destroyed one after the other. -/
theorem Sound.destroyAll {resources rest : List ω} (h : Sound log)
    (hlive : (live log).Perm (resources ++ rest)) :
    Sound (log ++ resources.map .destroy) ∧
      (live (log ++ resources.map Event.destroy)).Perm rest := by
  induction resources generalizing log with
  | nil => simpa using ⟨h, hlive⟩
  | cons resource resources ih =>
    have hmem : resource ∈ live log := hlive.mem_iff.mpr (by simp)
    have hsound : Sound (log ++ [Event.destroy resource]) := guarded_snoc.mpr ⟨h, hmem⟩
    have hperm : (live (log ++ [Event.destroy resource])).Perm (resources ++ rest) := by
      rw [live_snoc]
      have herase := hlive.erase resource
      rwa [List.cons_append, List.erase_cons_head] at herase
    have hall := ih hsound hperm
    rwa [List.append_assoc] at hall

end Lib.Ledger
