import TuffXwin.Displayd.Clocks

/-! Presentation pacing of one output. Two drivers tick it: the `AdvancePresentation`
command and the feedback query, which takes the earliest time the output is eligible at
and the next tick number. The log of its ticks accounts for its clock. -/

namespace TuffXwin.Displayd
open Lib

variable {c : PacingClock} {now : Nat}

inductive TickDriver
  | command
  | feedback
  deriving DecidableEq

/-- A tick of an output, with the output as the tick found it and what came of it. -/
structure TickRecord where
  driver : TickDriver
  nowNs : Nat
  tickSequence : Nat
  runtime : OutputRuntime
  outcome : Except Fault Bool

variable {log : List TickRecord}

namespace TickRecord

def accepted (e : TickRecord) : Bool :=
  match e.outcome with
  | .ok _ => true
  | .error _ => false

def eligible (e : TickRecord) : Bool :=
  match e.outcome with
  | .ok eligible => eligible
  | .error _ => false

/-- An enabled output with pending damage and no outstanding submission, at or after the
time it is next eligible. -/
structure Due (e : TickRecord) : Prop where
  enabled : e.runtime.disabled = false
  damaged : e.runtime.pendingDamage ≠ []
  free : e.runtime.outstanding = none
  reached : e.runtime.scheduler.nextEligibleNs ≤ e.nowNs

/-- A tick of the command turned away though it is later than every tick the command has
made: only the ticks of the feedback driver are in its way. -/
structure RejectedForFeedback (e : TickRecord) (older : List TickRecord) : Prop where
  command : e.driver = .command
  rejected : e.accepted = false
  positive : 0 < e.tickSequence
  later : ∀ c ∈ older, c.driver = .command → c.accepted = true →
    c.nowNs ≤ e.nowNs ∧ c.tickSequence < e.tickSequence

end TickRecord

/-- What the log of an output with this cadence, newest tick first, has to look like. -/
structure Paced (periodNs : Nat) (log : List TickRecord) : Prop where
  spaced : (log.filter (·.eligible)).Pairwise fun newer older =>
    older.nowNs + periodNs ≤ newer.nowNs
  free : ∀ e ∈ log, e.eligible = true → e.runtime.outstanding = none
  prompt : ∀ e ∈ log, e.accepted = true → e.Due → e.eligible = true
  heard : ∀ newer e older, log = newer ++ e :: older → ¬ e.RejectedForFeedback older

theorem Paced.nil (periodNs : Nat) : Paced periodNs [] where
  spaced := .nil
  free _ he := absurd he List.not_mem_nil
  prompt _ he := absurd he List.not_mem_nil
  heard newer e older h := by simp at h

/-! One tick of one output. -/

/-- What a tick does to an output, and what it answers. -/
inductive Advanced (r : OutputRuntime) (now tick : Nat) :
    OutputRuntime × Except Fault Bool → Prop
  | disabled (r') (hdisabled : r.disabled = true)
      (hclock : r'.clock = { r.clock with lastTickNs := now, lastTickSequence := tick }) :
      Advanced r now tick (r', .ok false)
  | rejected (r' fault)
      (hlate : now < r.scheduler.lastTickNs ∨ tick ≤ r.scheduler.lastTickSequence)
      (hclock : r'.clock = r.clock) : Advanced r now tick (r', .error fault)
  | eligible (r') (hfree : r.outstanding = none)
      (hreached : r.scheduler.nextEligibleNs ≤ now)
      (hclock : r'.clock = { r.clock with
        lastTickNs := now
        lastTickSequence := tick
        nextEligibleNs := satAdd now r.clock.periodNs }) :
      Advanced r now tick (r', .ok true)
  | waiting (r')
      (hundue : ¬ (r.pendingDamage ≠ [] ∧ r.outstanding = none ∧
        r.scheduler.nextEligibleNs ≤ now))
      (hclock : r'.clock = { r.clock with lastTickNs := now, lastTickSequence := tick }) :
      Advanced r now tick (r', .ok false)

theorem refreshRetry_scheduler (r : OutputRuntime) :
    (refreshRetry r).clock = r.clock ∧
      (refreshRetry r).scheduler.nextEligibleNs = r.scheduler.nextEligibleNs ∧
      (refreshRetry r).scheduler.lastTickNs = r.scheduler.lastTickNs ∧
      (refreshRetry r).scheduler.lastTickSequence = r.scheduler.lastTickSequence := by
  unfold refreshRetry
  split
  · exact ⟨rfl, rfl, rfl, rfl⟩
  · split_ifs
    · exact ⟨rfl, rfl, rfl, rfl⟩
    · exact ⟨rfl, rfl, rfl, rfl⟩
    · exact ⟨rfl, rfl, rfl, rfl⟩

theorem advanceRuntime_advanced (r : OutputRuntime) (id : String) (now tick : Nat) :
    Advanced r now tick (advanceRuntime r id now tick) := by
  have hquiet := OutputRuntime.quiet_refreshRetry r
  obtain ⟨hclock, hnext, hlast, hsequence⟩ := refreshRetry_scheduler r
  have hticked : (tickRuntime (refreshRetry r) now tick).clock =
      { r.clock with lastTickNs := now, lastTickSequence := tick } := by
    rw [← hclock]
    rfl
  unfold advanceRuntime
  dsimp only
  split_ifs with hdisabled hbackwards hduplicate heligible hstanding
  · exact .disabled _ (hquiet.same.disabled ▸ hdisabled) hticked
  · exact .rejected _ _ (.inl (hlast ▸ hbackwards)) hclock
  · exact .rejected _ _ (.inr (hsequence ▸ hduplicate)) hclock
  · unfold tickEligible at heligible
    simp only [Bool.and_eq_true, decide_eq_true_eq, Option.isNone_iff_eq_none] at heligible
    obtain ⟨⟨hreached, hfree⟩, _⟩ := heligible
    refine .eligible _ (hquiet.outstanding ▸ hfree) (hnext ▸ hreached) ?_
    rw [← hclock]
    rfl
  · refine .waiting _ (fun hdue => ?_) (by rw [← hclock]; rfl)
    have hsome : r.outstanding.isSome = true := hquiet.outstanding ▸ hstanding
    rw [hdue.2.1] at hsome
    cases hsome
  · refine .waiting _ (fun hdue => heligible ?_) hticked
    unfold tickEligible
    have hdamage : (refreshRetry r).pendingDamage.isEmpty = false := by
      rw [hquiet.pendingDamage, List.isEmpty_eq_false_iff]
      exact hdue.1
    have hfree : (refreshRetry r).outstanding = none := hquiet.outstanding.trans hdue.2.1
    have hreached : (refreshRetry r).scheduler.nextEligibleNs ≤ now := hnext ▸ hdue.2.2
    simp [tickRuntime, hdamage, hfree, hreached]

def recordTick (r : OutputRuntime) (id : String) (driver : TickDriver) (now tick : Nat) :
    TickRecord :=
  ⟨driver, now, tick, r, (advanceRuntime r id now tick).2⟩

/-- What a tick must not be: a command that the feedback driver has overtaken, or a tick at
the end of time when the next eligible time was cut off there. -/
structure TimelyTick (r : OutputRuntime) (log : List TickRecord) (driver : TickDriver)
    (now tick : Nat) : Prop where
  beyond : driver = .command → ∀ f ∈ log, f.driver = .feedback → f.accepted = true →
    f.nowNs ≤ now ∧ f.tickSequence < tick
  inTime : now < u64Max ∨ ∀ e ∈ log, e.eligible = true → e.nowNs + r.clock.periodNs ≤ u64Max

/-- The clock of an output is where the last ticks of its log left it. -/
structure Clocked (c : PacingClock) (log : List TickRecord) : Prop where
  next : c.nextEligibleNs =
    ((log.find? (·.eligible)).map fun e => satAdd e.nowNs c.periodNs).getD 0
  lastNs : c.lastTickNs = ((log.find? (·.accepted)).map (·.nowNs)).getD 0
  lastSequence : c.lastTickSequence =
    ((log.find? (·.accepted)).map (·.tickSequence)).getD 0
  paced : Paced c.periodNs log

theorem Clocked.fresh (h : c.Fresh) : Clocked c [] where
  next := h.1
  lastNs := h.2.1
  lastSequence := h.2.2
  paced := .nil _

/-- A log grows by a tick whose record keeps to the rules. -/
theorem Paced.cons {periodNs : Nat} {e : TickRecord} (h : Paced periodNs log)
    (hspaced : e.eligible = true → ∀ o ∈ log, o.eligible = true →
      o.nowNs + periodNs ≤ e.nowNs) (hfree : e.eligible = true → e.runtime.outstanding = none)
    (hprompt : e.accepted = true → e.Due → e.eligible = true)
    (hheard : ¬ e.RejectedForFeedback log) : Paced periodNs (e :: log) where
  spaced := by
    rw [List.filter_cons]
    split_ifs with heligible
    · refine List.pairwise_cons.mpr ⟨fun o ho => ?_, h.spaced⟩
      obtain ⟨hmem, hold⟩ := List.mem_filter.mp ho
      exact hspaced heligible o hmem hold
    · exact h.spaced
  free o ho := by
    cases ho with
    | head => exact hfree
    | tail _ hmem => exact h.free o hmem
  prompt o ho := by
    cases ho with
    | head => exact hprompt
    | tail _ hmem => exact h.prompt o hmem
  heard newer o older heq := by
    cases newer with
    | nil =>
      obtain ⟨rfl, rfl⟩ := List.cons.inj heq
      exact hheard
    | cons e' newer =>
      obtain ⟨_, heq⟩ := List.cons.inj heq
      exact h.heard newer o older heq

/-- All eligible ticks were at most one period before the next eligible time, unless that
was cut off. -/
theorem Clocked.spaced (h : Clocked c log) (hreached : c.nextEligibleNs ≤ now)
    (htime : now < u64Max ∨ ∀ e ∈ log, e.eligible = true → e.nowNs + c.periodNs ≤ u64Max) :
    ∀ e ∈ log, e.eligible = true → e.nowNs + c.periodNs ≤ now := by
  intro e he heligible
  cases hfind : log.find? (·.eligible) with
  | none =>
    have hnone := List.find?_eq_none.mp hfind e he
    exact absurd heligible hnone
  | some last =>
    have hlast := List.find?_some hfind
    have hmem := List.mem_of_find?_eq_some hfind
    have hnext := h.next
    rw [hfind, Option.map_some, Option.getD_some] at hnext
    have hbound : last.nowNs + c.periodNs ≤ now := by
      have hcut : now < u64Max ∨ last.nowNs + c.periodNs ≤ u64Max :=
        htime.imp_right fun hall => hall last hmem hlast
      rw [hnext, satAdd] at hreached
      omega
    have hfilter := h.paced.spaced
    have hhead : log.filter (·.eligible) = last :: (log.filter (·.eligible)).tail := by
      have hhead? : (log.filter (·.eligible)).head? = some last := by
        rw [List.head?_filter]
        exact hfind
      exact (List.cons_head?_tail hhead?).symm
    have hin : e ∈ log.filter (·.eligible) := List.mem_filter.mpr ⟨he, heligible⟩
    rw [hhead] at hfilter hin
    cases hin with
    | head => exact hbound
    | tail _ htail =>
      have holder := (List.pairwise_cons.mp hfilter).1 e htail
      omega

theorem Clocked.beyond (h : Clocked c log) {tick : Nat} (hpositive : 0 < tick)
    (hbeyond : ∀ e ∈ log, e.accepted = true → e.nowNs ≤ now ∧ e.tickSequence < tick) :
    c.lastTickNs ≤ now ∧ c.lastTickSequence < tick := by
  rw [h.lastNs, h.lastSequence]
  cases hfind : log.find? (·.accepted) with
  | none => exact ⟨Nat.zero_le _, hpositive⟩
  | some last =>
    exact hbeyond last (List.mem_of_find?_eq_some hfind) (List.find?_some hfind)

/-- The log of an output goes on with the clock of the output. -/
theorem Clocked.tick {r : OutputRuntime} (h : Clocked r.clock log) {id : String}
    {driver : TickDriver} {tick : Nat} (htimely : TimelyTick r log driver now tick) :
    Clocked (advanceRuntime r id now tick).1.clock (recordTick r id driver now tick :: log) := by
  have hadvanced := advanceRuntime_advanced r id now tick
  unfold recordTick
  generalize advanceRuntime r id now tick = result at hadvanced
  cases hadvanced with
  | disabled r' hdisabled hclock =>
    rw [hclock]
    refine ⟨?_, rfl, rfl, h.paced.cons ?_ ?_ ?_ ?_⟩
    · exact h.next
    · intro heligible
      cases heligible
    · intro heligible
      cases heligible
    · intro _ hdue
      rw [hdue.enabled] at hdisabled
      cases hdisabled
    · intro hrejected
      cases hrejected.rejected
  | rejected r' fault hlate hclock =>
    rw [hclock]
    refine ⟨h.next, h.lastNs, h.lastSequence, h.paced.cons ?_ ?_ ?_ ?_⟩
    · intro heligible
      cases heligible
    · intro heligible
      cases heligible
    · intro haccepted
      cases haccepted
    · intro hrejected
      have hlast := h.beyond hrejected.positive fun e he haccepted => by
        cases hdriver : e.driver with
        | command => exact hrejected.later e he hdriver haccepted
        | feedback => exact htimely.beyond hrejected.command e he hdriver haccepted
      unfold OutputRuntime.clock at hlast
      dsimp only at hlast
      omega
  | eligible r' hfree hreached hclock =>
    rw [hclock]
    refine ⟨rfl, rfl, rfl, h.paced.cons ?_ ?_ ?_ ?_⟩
    · intro _
      exact h.spaced hreached htimely.inTime
    · intro _
      exact hfree
    · intro _ _
      rfl
    · intro hrejected
      cases hrejected.rejected
  | waiting r' hundue hclock =>
    rw [hclock]
    refine ⟨?_, rfl, rfl, h.paced.cons ?_ ?_ ?_ ?_⟩
    · exact h.next
    · intro heligible
      cases heligible
    · intro heligible
      cases heligible
    · intro _ hdue
      exact absurd ⟨hdue.damaged, hdue.free, hdue.reached⟩ hundue
    · intro hrejected
      cases hrejected.rejected

end TuffXwin.Displayd
