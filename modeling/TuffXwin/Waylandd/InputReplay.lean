import TuffXwin.Lib.ByteStream
import TuffXwin.Waylandd.InputRouting

/-! Physical input from several processes of the broker. A call looks the focus up, and other
calls run before it takes the authority to queue its event. The authority remembers one process
and its last sequence: what another process had queued before is forgotten. -/

namespace TuffXwin.Waylandd
open Lib
open Headless (PhysicalInputEvent)

variable {fault : RouteFault}

/-- A call of `route_physical_input` that has found the owner of the focus. -/
structure RoutedInput where
  event : PhysicalInputEvent
  pid : Nat
  clientId : Nat
  surfaceId : Nat
  deriving DecidableEq

/-- What tells one event from another. -/
def RoutedInput.key (call : RoutedInput) : Nat × Nat := (call.pid, call.event.sequence)

def InputTurn.isRoute : InputTurn → Bool
  | .route _ _ _ => true
  | _ => false

namespace InputService

/-- The call up to its endpoint. -/
def lookupFocus (service : InputService) (event : PhysicalInputEvent) (pid : Nat)
    (answer : Except String (Option CommittedSceneState)) : Except RouteFault RoutedInput :=
  match event.validate, answer with
  | .error fault, _ => .error (.invalid fault)
  | .ok (), .error reason => .error (.refused reason)
  | .ok (), .ok none =>
    .error (.refused "physical input rejected: no authoritative presented scene")
  | .ok (), .ok (some snapshot) =>
    match snapshot.focus with
    | .none => .error (.refused "physical input rejected: compositor has no focused surface")
    | .surface focusId =>
      if snapshot.surfaces.any fun surface => surface.id = focusId && surface.placement.visible then
        match focusOwner focusId service.scene.entries with
        | .error reason => .error (.refused reason)
        | .ok none => .error (.refused "physical input focus has no active Wayland client")
        | .ok (some owner) =>
          if service.clients.contains owner.1 then .ok ⟨event, pid, owner.1, owner.2⟩
          else .error (.refused "physical input focus client is disconnected")
      else .error (.refused "physical input focus is not a visible committed surface")

abbrev Committing := EStateM RouteFault InputService

/-- `try_send` of the endpoint. -/
def trySendInput (call : RoutedInput) : Committing Unit := do
  let service ← get
  match service.clients.get? call.clientId with
  | some routed =>
    if routed.queue.length < clientCommandCapacity then
      set { service with
        clients := service.clients.insert call.clientId
          { routed with
            queue := routed.queue ++ [QueuedCommand.physicalInput call.event call.surfaceId] } }
    else throw (.refused "physical input client queue is full or closed")
  | none => throw (.refused "physical input client queue is full or closed")

/-- The rest of the call, under the lock of the authority. -/
def commitInput (call : RoutedInput) : Committing Unit := do
  let service ← get
  if service.authority.any fun last => last.1 = call.pid && call.event.sequence ≤ last.2 then
    throw (.refused "physical input event sequence was replayed or reordered")
  else
    trySendInput call
    modify fun service => { service with authority := some call.key }

/-- The client of the call is connected, and its queue takes another command. -/
def HasRoom (service : InputService) (clientId : Nat) : Prop :=
  ∃ routed, service.clients.get? clientId = some routed ∧
    routed.queue.length < clientCommandCapacity

/-- The authority has a sequence of the process that is not older. -/
def Replays (service : InputService) (call : RoutedInput) : Prop :=
  ∃ last, service.authority = some (call.pid, last) ∧ call.event.sequence ≤ last

variable {service service' : InputService} {call : RoutedInput}

theorem replays_iff : (service.authority.any fun last =>
      last.1 = call.pid && call.event.sequence ≤ last.2) = true ↔ service.Replays call := by
  unfold Replays
  cases service.authority with
  | none => simp
  | some last =>
    obtain ⟨pid, sequence⟩ := last
    simp [Prod.ext_iff]

/-- An event is queued, and the authority remembers it. -/
theorem commitInput_ok (h : commitInput call service = .ok () service') :
    service.HasRoom call.clientId ∧ ¬ service.Replays call ∧
      service'.authority = some call.key := by
  unfold commitInput at h
  rw [bind_get] at h
  split_ifs at h with hreplay
  · cases h
  · rw [replays_iff] at hreplay
    unfold trySendInput at h
    cases hclient : service.clients.get? call.clientId with
    | none =>
      rw [bind_assoc, bind_get, hclient] at h
      cases h
    | some routed =>
      rw [bind_assoc, bind_get, hclient] at h
      dsimp only at h
      split_ifs at h with hroom
      · cases h
        exact ⟨⟨routed, hclient, hroom⟩, hreplay, rfl⟩
      · cases h

/-- A call that is refused leaves everything as it was. -/
theorem commitInput_error (h : commitInput call service = .error fault service') :
    service' = service := by
  unfold commitInput at h
  rw [bind_get] at h
  split_ifs at h with hreplay
  · cases h
    rfl
  · unfold trySendInput at h
    rw [bind_assoc, bind_get] at h
    split at h
    · split_ifs at h
      · cases h
      · cases h
        rfl
    · cases h
      rfl

theorem commitInput_accepts (hroom : service.HasRoom call.clientId)
    (hreplay : ¬ service.Replays call) :
    ∃ service', commitInput call service = .ok () service' := by
  obtain ⟨routed, hclient, hlength⟩ := hroom
  rw [← replays_iff] at hreplay
  unfold commitInput trySendInput
  rw [bind_get, if_neg hreplay, bind_assoc, bind_get, hclient]
  dsimp only
  rw [if_pos hlength]
  exact ⟨_, rfl⟩

/-- Every turn but a call leaves the authority alone. -/
theorem turn_authority (service : InputService) {turn : InputTurn}
    (h : turn.isRoute = false) :
    (service.turn turn).authority = service.authority := by
  cases turn with
  | route => cases h
  | connect | leave | publish | broadcast => rfl
  | request clientId operation =>
    simp only [InputService.turn, request]
    split
    · rfl
    · split <;> rfl
  | drain clientId environment =>
    simp only [InputService.turn, drain]
    split
    · rfl
    · split
      · rfl
      · split <;> rfl
  | reconcile clientId epoch sequence authoritative environment =>
    simp only [InputService.turn, reconcile]
    split
    · rfl
    · split <;> rfl

end InputService

/-! Interleaved calls. -/

/-- The calls that are past their lookups, and, for the proofs, the events in the order in
which they were queued. -/
structure InputRun where
  service : InputService := {}
  calls : List RoutedInput := []
  queued : List RoutedInput := []

inductive InputStep
  | other (turn : InputTurn) (h : turn.isRoute = false)
  | lookup (event : PhysicalInputEvent) (pid : Nat)
      (answer : Except String (Option CommittedSceneState))
  | commit (call : Nat)

namespace InputRun

def next (run : InputRun) : InputStep → InputRun
  | .other turn _ => { run with service := run.service.turn turn }
  | .lookup event pid answer =>
    match run.service.lookupFocus event pid answer with
    | .ok call => { run with calls := run.calls ++ [call] }
    | .error _ => run
  | .commit index =>
    match run.calls[index]? with
    | none => run
    | some call =>
      match InputService.commitInput call run.service with
      | .ok _ service =>
        ⟨service, run.calls.eraseIdx index, run.queued ++ [call]⟩
      | .error _ service => { run with service, calls := run.calls.eraseIdx index }

/-- What the call of a step is refused with. -/
def refusal (run : InputRun) : InputStep → Option RouteFault
  | .other _ _ => none
  | .lookup event pid answer =>
    match run.service.lookupFocus event pid answer with
    | .ok _ => none
    | .error fault => some fault
  | .commit index =>
    match run.calls[index]? with
    | none => none
    | some call =>
      match InputService.commitInput call run.service with
      | .ok _ _ => none
      | .error fault _ => some fault

def routing : System InputRun InputStep where
  init run := run = {}
  next := next

/-- No event is queued twice, and those of a process are queued in order. -/
structure Once (run : InputRun) : Prop where
  once : (run.queued.map RoutedInput.key).Nodup
  increasing : ∀ pid, ((run.queued.filter fun call => call.pid = pid).map
    fun call => call.event.sequence).Pairwise (· < ·)

/-- In the states of a run, and a call that is refused changes nothing. -/
structure DeliversOnce (steps : List InputStep) : Prop where
  once : ∀ before, before <+: steps → (routing.run {} before).Once
  refused : ∀ before step fault, before ++ [step] <+: steps →
    (routing.run {} before).refusal step = some fault →
      (routing.run {} (before ++ [step])).service = (routing.run {} before).service ∧
      (routing.run {} (before ++ [step])).queued = (routing.run {} before).queued

/-- The step queues an event of a process that has lost the authority, and that had queued this
event or a later one before. -/
def Forgets (run : InputRun) (step : InputStep) : Prop :=
  ∃ index call, step = .commit index ∧ run.calls[index]? = some call ∧
    run.service.HasRoom call.clientId ∧
    (∀ last, run.service.authority = some last → last.1 ≠ call.pid) ∧
    ∃ earlier ∈ run.queued, earlier.pid = call.pid ∧ call.event.sequence ≤ earlier.event.sequence

/-! One step. -/

variable {run : InputRun} {step : InputStep} {steps : List InputStep} {call : RoutedInput}

/-- The events of one process, pairwise. -/
def Ordered (queued : List RoutedInput) : Prop :=
  queued.Pairwise fun a b => a.pid = b.pid → a.event.sequence < b.event.sequence

theorem once_iff : run.Once ↔ Ordered run.queued := by
  constructor
  · intro h
    rw [Ordered, List.pairwise_iff_forall_sublist]
    intro a b hsub hpid
    have hfiltered := (hsub.filter fun call => call.pid = b.pid).map fun call => call.event.sequence
    have hpair := (h.increasing b.pid).sublist hfiltered
    simpa [hpid] using hpair
  · intro h
    refine ⟨?_, fun pid => ?_⟩
    · rw [List.nodup_iff_pairwise_ne, List.pairwise_map]
      refine h.imp fun {a b} hlt hkey => ?_
      obtain ⟨hpid, hsequence⟩ := Prod.ext_iff.mp hkey
      have hless := hlt hpid
      simp only [RoutedInput.key] at hsequence
      omega
    · rw [List.pairwise_map, List.pairwise_filter]
      refine h.imp fun {a b} hlt ha hb => hlt ?_
      simp only [decide_eq_true_eq] at ha hb
      rw [ha, hb]

/-- The authority is that of the event queued last. -/
def Remembers (run : InputRun) : Prop :=
  run.service.authority = run.queued.getLast?.map RoutedInput.key

/-- A step queues nothing, or the event of a call that is not a replay for the authority. -/
theorem next_cases (run : InputRun) (step : InputStep) :
    ((run.next step).queued = run.queued ∧
        (run.next step).service.authority = run.service.authority) ∨
      ∃ index call, step = .commit index ∧ run.calls[index]? = some call ∧
        run.service.HasRoom call.clientId ∧ ¬ run.service.Replays call ∧
        (run.next step).queued = run.queued ++ [call] ∧
        (run.next step).service.authority = some call.key := by
  cases step with
  | other turn h => exact .inl ⟨rfl, run.service.turn_authority h⟩
  | lookup event pid answer =>
    refine .inl ?_
    simp only [next]
    split <;> exact ⟨rfl, rfl⟩
  | commit index =>
    simp only [next]
    cases hcall : run.calls[index]? with
    | none => exact .inl ⟨rfl, rfl⟩
    | some call =>
      dsimp only
      cases hcommit : InputService.commitInput call run.service with
      | ok _ service =>
        obtain ⟨hroom, hreplay, hauthority⟩ := InputService.commitInput_ok hcommit
        exact .inr ⟨index, call, rfl, hcall, hroom, hreplay, rfl, hauthority⟩
      | error fault service =>
        refine .inl ⟨rfl, ?_⟩
        rw [InputService.commitInput_error hcommit]

theorem Remembers.next (h : run.Remembers) (step : InputStep) : (run.next step).Remembers := by
  unfold Remembers at *
  rcases next_cases run step with ⟨hqueued, hauthority⟩ | ⟨_, call, -, -, -, -, hqueued, hauthority⟩
  · rw [hqueued, hauthority, h]
  · rw [hqueued, hauthority]
    simp

theorem next_refused (h : run.refusal step = some fault) :
    (run.next step).service = run.service ∧ (run.next step).queued = run.queued := by
  cases step with
  | other turn hroute => cases h
  | lookup event pid answer =>
    simp only [next]
    split <;> exact ⟨rfl, rfl⟩
  | commit index =>
    simp only [next, refusal] at h ⊢
    cases hcall : run.calls[index]? with
    | none => exact ⟨rfl, rfl⟩
    | some call =>
      rw [hcall] at h
      dsimp only at h ⊢
      cases hcommit : InputService.commitInput call run.service with
      | ok _ service =>
        rw [hcommit] at h
        cases h
      | error fault service => exact ⟨InputService.commitInput_error hcommit, rfl⟩

/-- What the authority remembers is the newest event of its process. -/
theorem newer_than_queued (hremembers : run.Remembers) (hordered : Ordered run.queued)
    (hreplay : ¬ run.service.Replays call) {last : Nat × Nat}
    (hlast : run.service.authority = some last) (hpid : last.1 = call.pid) :
    ∀ earlier ∈ run.queued, earlier.pid = call.pid →
      earlier.event.sequence < call.event.sequence := by
  rw [Remembers, hlast, eq_comm, Option.map_eq_some_iff] at hremembers
  obtain ⟨newest, hnewest, rfl⟩ := hremembers
  have hnew : newest.event.sequence < call.event.sequence := by
    by_contra hold
    exact hreplay ⟨newest.event.sequence, by rw [hlast, ← hpid]; rfl, not_lt.mp hold⟩
  obtain ⟨before, hbefore⟩ := List.getLast?_eq_some_iff.mp hnewest
  rw [hbefore] at hordered ⊢
  intro earlier hearlier hsame
  rcases List.mem_append.mp hearlier with hearlier | hearlier
  · have hstep := (List.pairwise_append.mp hordered).2.2 earlier hearlier newest
      (List.mem_singleton_self newest) (hsame.trans hpid.symm)
    exact hstep.trans hnew
  · rw [List.mem_singleton.mp hearlier]
    exact hnew

/-- The events of a process stay in order just when the step forgets none. -/
theorem ordered_next (hremembers : run.Remembers) (hordered : Ordered run.queued) :
    Ordered (run.next step).queued ↔ ¬ run.Forgets step := by
  rcases next_cases run step with ⟨hqueued, -⟩ | ⟨index, call, rfl, hcall, hroom, hreplay, hqueued, -⟩
  · rw [hqueued]
    refine iff_of_true hordered ?_
    rintro ⟨index, call, rfl, hcall, hroom, hother, -⟩
    have hreplay : ¬ run.service.Replays call := by
      rintro ⟨last, hlast, -⟩
      exact hother _ hlast rfl
    obtain ⟨service, hcommit⟩ := InputService.commitInput_accepts hroom hreplay
    simp only [InputRun.next, hcall, hcommit] at hqueued
    simp at hqueued
  · rw [hqueued, Ordered, List.pairwise_append]
    constructor
    · intro h
      rintro ⟨index', call', hstep, hcall', -, -, earlier, hearlier, hpid, hle⟩
      cases hstep
      cases hcall.symm.trans hcall'
      have hlt := h.2.2 earlier hearlier call (List.mem_singleton_self call) hpid
      omega
    · intro hforgets
      refine ⟨hordered, List.pairwise_singleton _ _, fun earlier hearlier call' hcall' hpid => ?_⟩
      cases List.mem_singleton.mp hcall'
      by_cases hown : ∃ last, run.service.authority = some last ∧ last.1 = call.pid
      · obtain ⟨last, hlast, hpid'⟩ := hown
        exact newer_than_queued hremembers hordered hreplay hlast hpid' earlier hearlier hpid
      · by_contra hle
        exact hforgets ⟨index, call, rfl, hcall, hroom,
          fun last hlast hsame => hown ⟨last, hlast, hsame⟩, earlier, hearlier, hpid, not_lt.mp hle⟩

/-! Runs. -/

theorem run_remembers (steps : List InputStep) : (routing.run {} steps).Remembers :=
  (System.Reachable.run (.init rfl) steps).invariant (fun _ h => by rw [h]; rfl)
    fun _ step h _ => h.next step

theorem run_concat (steps : List InputStep) (step : InputStep) :
    routing.run {} (steps ++ [step]) = (routing.run {} steps).next step := by
  simp [System.run, routing]

theorem Ordered.of_next (h : Ordered (run.next step).queued) : Ordered run.queued := by
  rcases next_cases run step with ⟨hqueued, -⟩ | ⟨_, call, -, -, -, -, hqueued, -⟩
  · rwa [hqueued] at h
  · rw [hqueued] at h
    exact (List.pairwise_append.mp h).1

theorem run_ordered_iff (steps : List InputStep) :
    Ordered (routing.run {} steps).queued ↔
      ∀ before step, before ++ [step] <+: steps → ¬ (routing.run {} before).Forgets step := by
  induction steps using List.reverseRecOn with
  | nil =>
    refine iff_of_true List.Pairwise.nil fun before step h => ?_
    simp at h
  | append_singleton steps step ih =>
    rw [run_concat]
    constructor
    · intro hordered before step' hbefore
      have hearlier := hordered.of_next
      rcases List.prefix_concat_iff.mp hbefore with heq | hbefore
      · obtain ⟨rfl, hstep⟩ := List.append_inj' heq rfl
        injection hstep with hstep
        rw [hstep]
        exact (ordered_next (run_remembers before) hearlier).mp hordered
      · exact ih.mp hearlier before step' hbefore
    · intro h
      have hearlier := ih.mpr fun before step' hbefore =>
        h before step' (hbefore.trans (List.prefix_append _ _))
      exact (ordered_next (run_remembers steps) hearlier).mpr (h steps step (List.prefix_refl _))

/-- Over a run no event of a process is delivered twice or out of order just when no step queues
an event of a process that has lost the authority and that was not behind it before. -/
theorem deliversOnce_iff (steps : List InputStep) :
    DeliversOnce steps ↔
      ∀ before step, before ++ [step] <+: steps → ¬ (routing.run {} before).Forgets step := by
  constructor
  · intro h before step hbefore
    exact (run_ordered_iff _).mp (once_iff.mp (h.once _ hbefore)) before step (List.prefix_refl _)
  · intro h
    refine ⟨fun before hbefore => ?_, fun before step fault _ hrefused => ?_⟩
    · refine once_iff.mpr ((run_ordered_iff before).mpr fun before' step hstep => ?_)
      exact h before' step (hstep.trans hbefore)
    · rw [run_concat]
      exact next_refused hrefused

/-- A client with the focus takes its topology, and two processes of the broker route events to
it: the restarted one in between, and then the first one its event again. -/
def replayedEvent : List InputStep :=
  [.other (.connect 1 1 1 []) rfl, .other (.publish 1 [focusedWindow]) rfl,
    .lookup pointerMoved 40 (.ok (some presentedScene)), .commit 0,
    .lookup ⟨1, 8000, .relativeX 3⟩ 41 (.ok (some presentedScene)), .commit 0,
    .lookup pointerMoved 40 (.ok (some presentedScene)), .commit 0]

theorem replayedEvent_twice :
    (routing.run {} replayedEvent).queued.map RoutedInput.key = [(40, 7), (41, 1), (40, 7)] ∧
      ¬ DeliversOnce replayedEvent := by
  have hqueued : (routing.run {} replayedEvent).queued.map RoutedInput.key =
      [(40, 7), (41, 1), (40, 7)] := by decide +kernel
  refine ⟨hqueued, fun h => ?_⟩
  have honce := (h.once _ (List.prefix_refl _)).once
  rw [hqueued] at honce
  exact absurd honce (by decide)

end InputRun

end TuffXwin.Waylandd
