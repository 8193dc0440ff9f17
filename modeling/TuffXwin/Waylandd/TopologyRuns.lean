import TuffXwin.Waylandd.Resync

/-! The runs of the topology supervisor with its queue and its subscription: what a
pending supervisor waits for, and where it would wait for nothing. -/

namespace TuffXwin.Waylandd
open Lib

variable {input : TopologyInput} {w : Supervisor} {resyncGen : Nat} {fetches : List Nat}
  {rest : List TopologyInput}
variable {resyncGeneration : Nat}
variable {queue : List TopologyInput}

namespace Supervisor

variable {snapshot : TopologySnapshot}

end Supervisor

/-- What ends the wait for a resync generation. -/
def TopologyInput.Resolves (resyncGen : Nat) : TopologyInput → Prop
  | .snapshotResult resyncGeneration _ => resyncGeneration = resyncGen
  | .subscriptionSnapshot _ => True
  | _ => False

def TopologyInput.isLost : TopologyInput → Bool
  | .subscriptionLost _ => true
  | _ => false

/-- After every lost subscription a new one is queued. -/
def Followed : List TopologyInput → Prop
  | [] => True
  | input :: rest =>
    (input.isLost → ∃ snapshot, .subscriptionSnapshot snapshot ∈ rest) ∧ Followed rest

theorem Followed.append (h : Followed queue) (hinput : input.isLost = false) :
    Followed (queue ++ [input]) := by
  induction queue with
  | nil => exact ⟨by simp [hinput], trivial⟩
  | cons head queue ih =>
    refine ⟨fun hlost => ?_, ih h.2⟩
    obtain ⟨snapshot, hmem⟩ := h.1 hlost
    exact ⟨snapshot, List.mem_append_left _ hmem⟩

theorem Followed.snapshot (queue : List TopologyInput) (snapshot : TopologySnapshot) :
    Followed (queue ++ [.subscriptionSnapshot snapshot]) := by
  induction queue with
  | nil => exact ⟨by simp [TopologyInput.isLost], trivial⟩
  | cons head queue ih => exact ⟨fun _ => ⟨snapshot, by simp⟩, ih⟩

def Subscription.isReconnecting (subscription : Subscription) : Bool :=
  subscription = .reconnecting ∨ subscription = .retrying

/-- A fetch of the generation is under way, or what ends the wait is in the queue. -/
def Awaited (resyncGen : Nat) (fetches : List Nat) (queue : List TopologyInput) : Prop :=
  resyncGen ∈ fetches ∨ ∃ input ∈ queue, input.Resolves resyncGen

theorem Awaited.append (h : Awaited resyncGen fetches queue) (input : TopologyInput) :
    Awaited resyncGen fetches (queue ++ [input]) := by
  refine h.imp_right fun ⟨queued, hmem, hresolves⟩ => ?_
  exact ⟨queued, List.mem_append_left _ hmem, hresolves⟩

theorem Awaited.tail (h : Awaited resyncGen fetches (input :: rest))
    (hinput : ¬input.Resolves resyncGen) : Awaited resyncGen fetches rest := by
  refine h.imp_right fun ⟨queued, hmem, hresolves⟩ => ?_
  cases List.mem_cons.mp hmem with
  | inl heq => exact absurd (heq ▸ hresolves) hinput
  | inr hrest => exact ⟨queued, hrest, hresolves⟩

/-- The answer of a fetch takes the place of the fetch. -/
theorem Awaited.answered (h : Awaited resyncGen fetches queue)
    (result : Except String TopologySnapshot) :
    Awaited resyncGen (fetches.erase resyncGeneration)
      (queue ++ [.snapshotResult resyncGeneration result]) := by
  by_cases hsame : resyncGeneration = resyncGen
  · exact .inr ⟨.snapshotResult resyncGeneration result, by simp, hsame⟩
  · refine Awaited.append (h.imp_left fun hfetch => ?_) _
    exact (List.mem_erase_of_ne (Ne.symm hsame)).mpr hfetch

namespace TopologyService

/-- A snapshot fetch of the current generation, or a reconnection, is outstanding. -/
def Outstanding (s : TopologyService) : Prop :=
  Awaited s.supervisor.resyncGen s.supervisor.fetches s.queue ∨ s.subscription.isReconnecting

/-- What is left when the subscription stops reconnecting. -/
def Released (s : TopologyService) : Prop :=
  s.supervisor.state ≠ .failed →
    (s.supervisor.isPending → Awaited s.supervisor.resyncGen s.supervisor.fetches s.queue) ∧
      Followed s.queue

/-- Where a step loses no delta and leaves no wait without an end. -/
def Clean (s : TopologyService) : TopologyStep → Prop
  | .receive => ∀ input rest, s.queue = input :: rest → s.supervisor.Keeps input ∧
    ∀ snapshot, input = .subscriptionSnapshot snapshot → ¬s.supervisor.Acceptable snapshot →
      s.supervisor.isPending → Outstanding { s with queue := rest }
  | .deliver _ => s.subscription = .retrying → s.Released
  | .reconnected snapshot => s.subscription = .reconnecting →
    snapshotIsValid snapshot.outputs → s.hasRoom = false → s.Released
  | .fetched resyncGeneration _ => s.hasRoom = false → s.supervisor.isPending →
    Awaited s.supervisor.resyncGen (s.supervisor.fetches.erase resyncGeneration) s.queue ∨
      s.subscription.isReconnecting
  | _ => True

structure Attended (s : TopologyService) : Prop where
  sound : s.supervisor.Sound
  outstanding : s.supervisor.isPending → s.Outstanding
  followed : s.supervisor.state ≠ .failed → s.subscription.isReconnecting ∨ Followed s.queue

variable {s : TopologyService}

@[simp] theorem trySend_supervisor (input : TopologyInput) :
    (s.trySend input).supervisor = s.supervisor := by
  unfold trySend
  split_ifs <;> rfl

theorem trySend_queue (input : TopologyInput) :
    (s.trySend input).queue = if s.hasRoom then s.queue ++ [input] else s.queue := by
  unfold trySend
  split_ifs <;> rfl

theorem trySend_awaited (input : TopologyInput) (h : Awaited resyncGen fetches s.queue) :
    Awaited resyncGen fetches (s.trySend input).queue := by
  rw [trySend_queue]
  split_ifs
  · exact h.append input
  · exact h

theorem trySend_followed (h : Followed s.queue) (hinput : input.isLost = false) :
    Followed (s.trySend input).queue := by
  rw [trySend_queue]
  split_ifs
  · exact h.append hinput
  · exact h

theorem Outstanding.tail (h : s.Outstanding) (hqueue : s.queue = input :: rest)
    (hinput : ¬input.Resolves s.supervisor.resyncGen) : Outstanding { s with queue := rest } := by
  refine h.imp_left fun hawaited => ?_
  rw [hqueue] at hawaited
  exact hawaited.tail hinput

/-- Without a reconnection under way the rest is taken care of. -/
theorem Attended.released (h : s.Attended) (hidle : s.subscription.isReconnecting = false) :
    s.Released := by
  intro hfailed
  refine ⟨fun hpending => ?_, ?_⟩
  · exact (h.outstanding hpending).resolve_right (by simp [hidle])
  · exact (h.followed hfailed).resolve_left (by simp [hidle])

theorem Released.trySend (h : s.Released) (input : TopologyInput) (hinput : input.isLost = false) :
    (s.trySend input).Released := by
  intro hfailed
  rw [trySend_supervisor] at hfailed ⊢
  exact ⟨fun hpending => trySend_awaited input ((h hfailed).1 hpending),
    trySend_followed (h hfailed).2 hinput⟩

theorem Attended.reconnecting (h : s.supervisor.Sound)
    (hreconnecting : s.subscription.isReconnecting) : s.Attended :=
  ⟨h, fun _ => .inr hreconnecting, fun _ => .inl hreconnecting⟩

section

variable (h : s.Attended)
include h

end

/-- A delta of epoch 1 that removes an output. -/
def removal (topologySequence : Nat) : OutputTopologyDelta :=
  { epoch := 1
    topologySequence := topologySequence
    transition := .removed
    output := none
    outputId := some "DP-1"
    outputGeneration := none
    lifecycleSequence := 0 }

end TopologyService
end TuffXwin.Waylandd
