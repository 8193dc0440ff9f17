import TuffXwin.Waylandd.Supervisor

/-! No delta is lost. The projection is always the adopted snapshot with the applied
deltas in order; a supervisor that streams has applied every newer delta it received, and
one that waits for a snapshot has a fetch or a reconnection under way. -/

namespace TuffXwin.Waylandd
open Lib

variable {w : Supervisor} {d : OutputTopologyDelta} {snapshot : TopologySnapshot}
  {registry : TopologyRegistry}
variable {epoch : Nat} {first last : Projection × Nat} {buffered deltas : List OutputTopologyDelta}
  {result : Projection × ClientCommand}

/-- From one projection and sequence to another by deltas of an epoch, each repeating the
sequence or following it. -/
inductive AppliedInOrder (epoch : Nat) (first : Projection × Nat) :
    List OutputTopologyDelta → Projection × Nat → Prop
  | nil : AppliedInOrder epoch first [] first
  | snoc {deltas : List OutputTopologyDelta} {last : Projection × Nat} {projection : Projection}
      {command : ClientCommand} {d : OutputTopologyDelta} :
      AppliedInOrder epoch first deltas last → d.epoch = epoch →
      d.topologySequence = last.2 ∨ d.topologySequence = last.2 + 1 →
      applyTopologyDelta last.1 d = some (projection, command) →
      AppliedInOrder epoch first (deltas ++ [d]) (projection, d.topologySequence)

namespace Supervisor

def InOrder (w : Supervisor) : Prop :=
  AppliedInOrder w.registry.epoch w.adopted w.applied (w.registry.projection, w.registry.sequence)

/-- What has been received for the registry's epoch and is newer than the adopted snapshot
has been applied. -/
def Settled (w : Supervisor) : Prop :=
  ∀ d ∈ w.received, d.epoch = w.registry.epoch → w.adopted.2 < d.topologySequence → d ∈ w.applied

/-- No received delta is newer than the snapshot. -/
def CoveredBy (w : Supervisor) (snapshot : TopologySnapshot) : Prop :=
  ∀ d ∈ w.received, d.epoch = snapshot.epoch → d.topologySequence ≤ snapshot.sequence

/-- What has been received beyond the snapshot is in the buffer, without a gap. -/
def Replayable (w : Supervisor) (snapshot : TopologySnapshot) : Prop :=
  ∀ d ∈ w.received, d.epoch = snapshot.epoch → snapshot.sequence < d.topologySequence →
    d ∈ w.buffered ∧ carries d ∧
    ∀ n, snapshot.sequence < n → n < d.topologySequence →
      ∃ e ∈ w.buffered, e.epoch = snapshot.epoch ∧ e.topologySequence = n

/-- A well-formed snapshot of another epoch, or one that is not behind the registry. -/
def Acceptable (w : Supervisor) (snapshot : TopologySnapshot) : Prop :=
  snapshotIsValid snapshot.outputs ∧
    ¬(snapshot.epoch = w.registry.epoch ∧ snapshot.sequence < w.registry.sequence)

/-- Where the supervisor takes an input without losing a delta. A failed fetch is left to
`lapsed`. -/
def Keeps (w : Supervisor) : TopologyInput → Prop
  | .subscriptionSnapshot snapshot => w.Acceptable snapshot → w.CoveredBy snapshot
  | .snapshotResult resyncGeneration (.ok snapshot) =>
    resyncGeneration = w.resyncGen → w.isPending →
      hasGap snapshot.epoch snapshot.sequence w.buffered ∨ w.Replayable snapshot
  | .event (.outputTopology epoch sequence outputs) =>
    w.state = .streaming → w.Acceptable ⟨epoch, sequence, outputs⟩ →
      w.CoveredBy ⟨epoch, sequence, outputs⟩
  | .event (.outputTopologyDelta delta) =>
    w.state = .streaming → ¬w.registry.OutOfStep delta → delta.transition ≠ .reset →
      delta.transition ≠ .snapshotRequired → w.adopted.2 < delta.topologySequence → carries delta
  | _ => True

structure Sound (w : Supervisor) : Prop where
  inOrder : w.InOrder
  settled : w.state = .streaming → w.lapsed = false → w.Settled
  buffered : ∀ d ∈ w.buffered, d ∈ w.received

section

variable (w) (reason : ResyncReason)

@[simp] theorem triggerResync_registry : (w.triggerResync reason).registry = w.registry := by
  unfold triggerResync startFetch
  split_ifs <;> rfl

@[simp] theorem triggerResync_adopted : (w.triggerResync reason).adopted = w.adopted := by
  unfold triggerResync startFetch
  split_ifs <;> rfl

@[simp] theorem triggerResync_applied : (w.triggerResync reason).applied = w.applied := by
  unfold triggerResync startFetch
  split_ifs <;> rfl

@[simp] theorem triggerResync_received : (w.triggerResync reason).received = w.received := by
  unfold triggerResync startFetch
  split_ifs <;> rfl

@[simp] theorem triggerResync_buffered : (w.triggerResync reason).buffered = w.buffered := by
  unfold triggerResync startFetch
  split_ifs <;> rfl

theorem triggerResync_pending : (w.triggerResync reason).isPending := by
  unfold triggerResync startFetch
  split_ifs with hpending hpriority
  · simpa [isPending] using hpending
  · exact hpending
  · simp [isPending]

end

theorem isPending_not_streaming (h : w.isPending) : w.state ≠ .streaming := by
  intro hstate
  simp [isPending, hstate] at h

/-- A supervisor that is not streaming has nothing to answer for but the order. -/
theorem Sound.of_not_streaming (horder : w.InOrder) (h : w.state ≠ .streaming)
    (hbuffered : ∀ d ∈ w.buffered, d ∈ w.received) : w.Sound :=
  ⟨horder, fun hstate => absurd hstate h, hbuffered⟩

theorem Sound.triggerResync (horder : w.InOrder) (hbuffered : ∀ d ∈ w.buffered, d ∈ w.received)
    (reason : ResyncReason) : (w.triggerResync reason).Sound := by
  refine Sound.of_not_streaming ?_ (isPending_not_streaming (w.triggerResync_pending reason)) ?_
  · simpa [InOrder] using horder
  · simpa using hbuffered

theorem not_outOfStep (h : ¬registry.OutOfStep d) : d.epoch = registry.epoch ∧
      (d.topologySequence = registry.sequence ∨ d.topologySequence = registry.sequence + 1) := by
  simp only [TopologyRegistry.OutOfStep, not_or, ne_eq, not_not] at h
  omega

theorem advance_inOrder (h : w.InOrder) (hstep : ¬w.registry.OutOfStep d)
    (happly : applyTopologyDelta w.registry.projection d = some result) :
    InOrder { w with
      registry := w.registry.advance d result
      applied := w.applied ++ [d] } := by
  obtain ⟨hepoch, hnext⟩ := not_outOfStep hstep
  have hsnoc := AppliedInOrder.snoc h hepoch hnext happly
  simpa [InOrder, TopologyRegistry.advance, TopologyRegistry.setTopology, hepoch] using hsnoc

theorem replayStep_applies (h : Applies w.registry d) :
    ∃ result, applyTopologyDelta w.registry.projection d = some result ∧
      w.replayStep d = { w with
        registry := w.registry.advance d result
        applied := w.applied ++ [d] } := by
  obtain ⟨result, hresult⟩ := Option.isSome_iff_exists.mp h.2
  refine ⟨result, hresult, ?_⟩
  unfold replayStep TopologyRegistry.replayDelta
  rw [if_neg h.1, if_pos h, hresult]

theorem replayStep_passes (h : ¬Applies w.registry d) : w.replayStep d = w := by
  unfold replayStep TopologyRegistry.replayDelta
  rw [if_neg h]
  by_cases hstep : w.registry.OutOfStep d
  · rw [if_pos hstep]
  · have hnone : applyTopologyDelta w.registry.projection d = none := by
      simpa [Applies, hstep] using h
    rw [if_neg hstep, hnone]

theorem replayStep_inOrder (h : w.InOrder) (d : OutputTopologyDelta) :
    (w.replayStep d).InOrder := by
  by_cases happlies : Applies w.registry d
  · obtain ⟨result, hresult, heq⟩ := replayStep_applies happlies
    rw [heq]
    exact advance_inOrder h happlies.1 hresult
  · rwa [replayStep_passes happlies]

/-- A replay changes the registry and the applied deltas only. -/
structure Replayed (w w' : Supervisor) : Prop where
  inOrder : w.InOrder → w'.InOrder
  epoch : w'.registry.epoch = w.registry.epoch
  adopted : w'.adopted = w.adopted
  received : w'.received = w.received
  resyncGen : w'.resyncGen = w.resyncGen
  fetches : w'.fetches = w.fetches
  applied : w.applied ⊆ w'.applied

theorem replayStep_replayed (w : Supervisor) (d : OutputTopologyDelta) :
    Replayed w (w.replayStep d) := by
  by_cases happlies : Applies w.registry d
  · obtain ⟨result, hresult, heq⟩ := replayStep_applies happlies
    have hepoch := (not_outOfStep happlies.1).1
    refine ⟨fun h => replayStep_inOrder h d, ?_, ?_, ?_, ?_, ?_, ?_⟩ <;> rw [heq]
    · exact hepoch
    · exact List.subset_append_left _ _
  · rw [replayStep_passes happlies]
    exact ⟨id, rfl, rfl, rfl, rfl, rfl, List.Subset.refl _⟩

theorem foldl_replayed (w : Supervisor) (deltas : List OutputTopologyDelta) :
    Replayed w (deltas.foldl replayStep w) := by
  induction deltas generalizing w with
  | nil => exact ⟨id, rfl, rfl, rfl, rfl, rfl, List.Subset.refl _⟩
  | cons d deltas ih =>
    have hhead := replayStep_replayed w d
    have htail := ih (w.replayStep d)
    exact ⟨fun h => htail.inOrder (hhead.inOrder h), htail.epoch.trans hhead.epoch,
      htail.adopted.trans hhead.adopted, htail.received.trans hhead.received,
      htail.resyncGen.trans hhead.resyncGen, htail.fetches.trans hhead.fetches,
      fun d hd => htail.applied (hhead.applied hd)⟩

/-- Sorted deltas that continue the registry's sequence without a gap; those up to the
bound need not apply. -/
structure Continues (bound : Nat) (deltas : List OutputTopologyDelta) (w : Supervisor) : Prop where
  sorted : deltas.Pairwise fun a b => a.topologySequence ≤ b.topologySequence
  bound_le : bound ≤ w.registry.sequence
  least : ∀ d ∈ deltas, d.epoch = w.registry.epoch → bound < d.topologySequence →
    w.registry.sequence ≤ d.topologySequence
  carries : ∀ d ∈ deltas, d.epoch = w.registry.epoch → bound < d.topologySequence → carries d
  dense : ∀ d ∈ deltas, d.epoch = w.registry.epoch → ∀ n, w.registry.sequence < n →
    n ≤ d.topologySequence → ∃ e ∈ deltas, e.epoch = w.registry.epoch ∧ e.topologySequence = n

variable {bound : Nat} {head : OutputTopologyDelta} {deltas : List OutputTopologyDelta}

section

variable (h : Continues bound (head :: deltas) w)
include h

theorem Continues.dense_tail (hd : d ∈ deltas) (hepoch : d.epoch = w.registry.epoch) {n : Nat}
    (hlow : w.registry.sequence < n) (hhigh : n ≤ d.topologySequence)
    (hne : head.epoch = w.registry.epoch → head.topologySequence ≠ n) :
    ∃ e ∈ deltas, e.epoch = w.registry.epoch ∧ e.topologySequence = n := by
  obtain ⟨e, he, heepoch, hen⟩ := h.dense d (List.mem_cons_of_mem _ hd) hepoch n hlow hhigh
  cases List.mem_cons.mp he with
  | inl heq =>
    subst heq
    exact absurd hen (hne heepoch)
  | inr hmem => exact ⟨e, hmem, heepoch, hen⟩

theorem Continues.replayStep (happlies : Applies w.registry head) :
    Continues bound deltas (w.replayStep head) := by
  obtain ⟨result, -, heq⟩ := replayStep_applies happlies
  obtain ⟨hepoch, hnext⟩ := not_outOfStep happlies.1
  obtain ⟨hhead, hsorted⟩ := List.pairwise_cons.mp h.sorted
  have hbound := h.bound_le
  have hepoch' : (w.replayStep head).registry.epoch = w.registry.epoch := by
    rw [heq]
    exact hepoch
  have hsequence' : (w.replayStep head).registry.sequence = head.topologySequence := by
    rw [heq]
    rfl
  refine ⟨hsorted, by omega, ?_, ?_, ?_⟩ <;> rw [hepoch'] <;> intro d hd hsame
  · intro hnew
    rw [hsequence']
    exact hhead d hd
  · exact h.carries d (List.mem_cons_of_mem _ hd) hsame
  · intro n hlow hhigh
    rw [hsequence'] at hlow
    exact h.dense_tail hd hsame (by omega) hhigh fun _ => by omega

/-- Only a delta up to the bound is passed over. -/
theorem Continues.passed_le (hpasses : ¬Applies w.registry head)
    (hepoch : head.epoch = w.registry.epoch) : head.topologySequence ≤ bound := by
  by_contra hnew
  have hlow := h.least head List.mem_cons_self hepoch (by omega)
  have hcarries := h.carries head List.mem_cons_self hepoch (by omega)
  refine hpasses ⟨?_, by rwa [applyTopologyDelta_isSome]⟩
  simp only [TopologyRegistry.OutOfStep, not_or]
  refine ⟨not_not.mpr hepoch, by omega, ?_⟩
  intro hbeyond
  obtain ⟨e, he, -, hen⟩ := h.dense head List.mem_cons_self hepoch (w.registry.sequence + 1)
    (by omega) (by omega)
  cases List.mem_cons.mp he with
  | inl heq =>
    subst heq
    omega
  | inr hmem =>
    have hle := (List.pairwise_cons.mp h.sorted).1 e hmem
    omega

theorem Continues.pass (hpasses : ¬Applies w.registry head) : Continues bound deltas w := by
  have hbound := h.bound_le
  refine ⟨(List.pairwise_cons.mp h.sorted).2, hbound, ?_, ?_, ?_⟩ <;> intro d hd hsame
  · exact h.least d (List.mem_cons_of_mem _ hd) hsame
  · exact h.carries d (List.mem_cons_of_mem _ hd) hsame
  · intro n hlow hhigh
    refine h.dense_tail hd hsame hlow hhigh fun hepoch => ?_
    have hle := h.passed_le hpasses hepoch
    omega

end

theorem Continues.applied (h : Continues bound deltas w) :
    ∀ d ∈ deltas, d.epoch = w.registry.epoch → bound < d.topologySequence →
      d ∈ (deltas.foldl Supervisor.replayStep w).applied := by
  induction deltas generalizing w with
  | nil => simp
  | cons head deltas ih =>
    intro d hd hepoch hnew
    by_cases happlies : Applies w.registry head
    · obtain ⟨result, -, heq⟩ := replayStep_applies happlies
      cases List.mem_cons.mp hd with
      | inl hhead =>
        refine (foldl_replayed _ deltas).applied ?_
        rw [heq, hhead]
        simp
      | inr hmem =>
        refine ih (h.replayStep happlies) d hmem ?_ hnew
        rw [heq]
        exact hepoch.trans (not_outOfStep happlies.1).1.symm
    · rw [List.foldl_cons, replayStep_passes happlies]
      cases List.mem_cons.mp hd with
      | inl hhead =>
        subst hhead
        have hle := h.passed_le happlies hepoch
        omega
      | inr hmem => exact ih (h.pass happlies) d hmem hepoch hnew

theorem Sound.resume (horder : w.InOrder) (hsettled : w.lapsed = false → w.Settled) :
    w.resume.Sound := ⟨horder, fun _ => hsettled, by simp [Supervisor.resume]⟩

end Supervisor
end TuffXwin.Waylandd
