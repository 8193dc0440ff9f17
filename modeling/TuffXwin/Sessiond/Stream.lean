import TuffXwin.Sessiond.Supervisor
import TuffXwin.Watchdog.LaunchStates

/-! The stream of launch states to the watchdog. A delta names what changed since the last
state whose answer arrived, and is merged into the last state that the watchdog stored. The
two are the same state unless an answer was lost on its way back. -/

namespace TuffXwin.Sessiond
open Lib Watchdog

variable {state : SessionLaunchState} {server server' : WatchdogServer}
variable {components : List SessionLaunchComponentState} {component : SessionLaunchComponentState}

def deltaOf (state : SessionLaunchState) (replace : Bool)
    (components : List SessionLaunchComponentState) (now : Nat) : SessionLaunchDelta :=
  { profileId := state.profileId
    sessionInstanceId := state.sessionInstanceId
    displayName := state.displayName
    protocol := state.protocol
    brokerServices := state.brokerServices
    generation := state.generation
    sequence := state.sequence
    replace
    components
    unixTimestamp := now
    serviceComponentBindings := state.serviceComponentBindings
    serviceRecoveryExecutionPolicies := state.serviceRecoveryExecutionPolicies }

/-- The components that are not in the previous state as they are now. -/
def changedComponents (state previous : SessionLaunchState) :
    List SessionLaunchComponentState :=
  state.components.filter fun component =>
    previous.components.find? (·.id = component.id) ≠ some component

def watchdogStreamCommand (state : SessionLaunchState) (previous : Option SessionLaunchState)
    (now : Nat) : WatchdogCommand :=
  match previous with
  | none => .inspectLaunchState state
  | some previous =>
    if previous.profileId ≠ state.profileId ∨
        previous.sessionInstanceId ≠ state.sessionInstanceId ∨
        previous.generation ≠ state.generation ∨
        previous.components.length ≠ state.components.length then
      .updateLaunchState (deltaOf state true state.components now)
    else .updateLaunchState (deltaOf state false (changedComponents state previous) now)

/-- What becomes of a request: it does not arrive, its answer does not, or both do. -/
inductive Delivery
  | lostRequest | lostResponse | delivered
  deriving DecidableEq, Repr

/-- One request to the watchdog, which may have been restarted before it. -/
structure Exchange where
  restarted : Bool := false
  delivery : Delivery := .delivered
  inspection : Inspection := {}

def sendWatchdogCommand (config : Watchdog.Config) (exchange : Exchange)
    (command : WatchdogCommand) (server : WatchdogServer) :
    Except String WatchdogCommand × WatchdogServer :=
  let server := if exchange.restarted then {} else server
  match exchange.delivery with
  | .lostRequest => (.error "failed to connect to watchdog", server)
  | .lostResponse =>
    (.error "failed to read JSON line",
      (handleWatchdogCommand config exchange.inspection command server).2)
  | .delivered =>
    let answered := handleWatchdogCommand config exchange.inspection command server
    (.ok answered.1, answered.2)

/-- The whole state again, after the watchdog asked for it. -/
def resendLaunchState (config : Watchdog.Config) (exchange : Exchange)
    (state : SessionLaunchState) (server : WatchdogServer) :
    Except String SessionWatchdogReport × WatchdogServer :=
  let retry := sendWatchdogCommand config exchange (.inspectLaunchState state) server
  match retry.1 with
  | .error err => (.error err, retry.2)
  | .ok (.inspectionResult report) => (.ok report, retry.2)
  | .ok _ => (.error "watchdog returned unexpected resync response", retry.2)

def notifyWatchdog (config : Watchdog.Config) (first second : Exchange) (now : Nat)
    (state : SessionLaunchState) (previous : Option SessionLaunchState)
    (server : WatchdogServer) : Except String SessionWatchdogReport × WatchdogServer :=
  let response := sendWatchdogCommand config first (watchdogStreamCommand state previous now) server
  match response.1 with
  | .error err => (.error err, response.2)
  | .ok (.inspectionResult report) => (.ok report, response.2)
  | .ok (.resyncLaunchState profileId sessionInstanceId _) =>
    if profileId ≠ state.profileId then
      (.error ("watchdog requested resync for profile " ++ profileId ++ " while sessiond sent " ++
        state.profileId), response.2)
    else if sessionInstanceId ≠ state.sessionInstanceId then
      (.error ("watchdog requested resync for session instance " ++ sessionInstanceId ++
        " while sessiond sent " ++ state.sessionInstanceId), response.2)
    else resendLaunchState config second state response.2
  | .ok _ => (.error "watchdog returned unexpected response", response.2)

/-! The runs of the stream. -/

/-- What a process of a component can change of its state. -/
structure ComponentActivity where
  state : DesktopComponentState
  pid : Option Nat
  restartCount : Nat
  lastExitStatus : Option Int

def acting (activity : ComponentActivity) (component : SessionLaunchComponentState) :
    SessionLaunchComponentState :=
  { component with
    state := activity.state
    pid := activity.pid
    restartCount := activity.restartCount
    lastExitStatus := activity.lastExitStatus }

/-- Every component with a process of its own. -/
def doing (restartCount : Nat) : Nat → ComponentActivity := fun _ =>
  { state := .spawned, pid := some 7, restartCount, lastExitStatus := none }

/-- The supervisor and the watchdog that it streams to. -/
structure Streaming where
  supervisor : SessionSupervisor
  server : WatchdogServer

/-- What happens to a stream: the components act, a snapshot is streamed or not even sent, the
profile is switched, and the watchdog starts again with nothing cached. -/
inductive StreamEvent
  | acted (activity : Nat → ComponentActivity)
  | streamed (first second : Exchange) (now : Nat)
  | unsent
  | switched (profile : DesktopProfile) (resolve : DesktopComponent → Option String)
  | watchdogRestarted

def SessionSupervisor.acted (activity : Nat → ComponentActivity)
    (supervisor : SessionSupervisor) : SessionSupervisor :=
  { supervisor with
    components := supervisor.components.mapIdx fun index runtime =>
      { runtime with state := acting (activity index) runtime.state } }

/-- The supervisor with the number of its next snapshot. -/
def SessionSupervisor.numbered (supervisor : SessionSupervisor) : SessionSupervisor :=
  { supervisor with streamSequence := supervisor.streamSequence + 1 }

/-- A snapshot takes the next number, if there is one. -/
theorem snapshot_run (now : Nat) (supervisor : SessionSupervisor) :
    (supervisor.streamSequence < u64Max ∧
      snapshot now supervisor = .ok (supervisor.numbered.launchState now) supervisor.numbered) ∨
    (¬ supervisor.streamSequence < u64Max ∧ ∃ err, snapshot now supervisor = .error err supervisor) := by
  unfold snapshot
  rw [bind_get]
  by_cases hbound : supervisor.streamSequence < u64Max
  · have hchecked : usizeChecked (supervisor.streamSequence + 1) =
        some (supervisor.streamSequence + 1) := usizeChecked_eq_some.mpr ⟨hbound, rfl⟩
    rw [hchecked]
    exact .inl ⟨hbound, rfl⟩
  · have hchecked : usizeChecked (supervisor.streamSequence + 1) = none := by
      rw [usizeChecked, if_neg (by omega)]
    rw [hchecked]
    exact .inr ⟨hbound, _, rfl⟩

/-- The snapshot of a stream and what the watchdog makes of it. -/
def Streaming.notified (config : Watchdog.Config) (first second : Exchange) (now : Nat)
    (streaming : Streaming) : Except String SessionWatchdogReport × WatchdogServer :=
  notifyWatchdog config first second now (streaming.supervisor.numbered.launchState now)
    streaming.supervisor.lastStreamedState streaming.server

def streamed (config : Watchdog.Config) (first second : Exchange) (now : Nat)
    (streaming : Streaming) : Streaming :=
  let answered := streaming.notified config first second now
  match answered.1 with
  | .ok _ =>
    ⟨{ streaming.supervisor.numbered with
        lastStreamedState := some (streaming.supervisor.numbered.launchState now) }, answered.2⟩
  | .error _ => ⟨streaming.supervisor.numbered, answered.2⟩

def streamRuns (config : Watchdog.Config) : System Streaming StreamEvent where
  init streaming :=
    (∃ profile profiles sessionInstanceId streamGeneration resolve,
      streaming.supervisor = .new profile profiles sessionInstanceId streamGeneration resolve) ∧
    ∀ profileId state,
      streaming.server.cached profileId streaming.supervisor.sessionInstanceId = some state →
        state.generation < streaming.supervisor.streamGeneration
  next streaming event :=
    match event with
    | .acted activity => ⟨streaming.supervisor.acted activity, streaming.server⟩
    | .streamed first second now =>
      if streaming.supervisor.streamSequence < u64Max then
        streamed config first second now streaming
      else streaming
    | .unsent =>
      if streaming.supervisor.streamSequence < u64Max then
        ⟨streaming.supervisor.numbered, streaming.server⟩
      else streaming
    | .switched profile resolve =>
      if streaming.supervisor.streamGeneration < u64Max then
        ⟨.new profile streaming.supervisor.profiles streaming.supervisor.sessionInstanceId
          (streaming.supervisor.streamGeneration + 1) resolve, streaming.server⟩
      else streaming
    | .watchdogRestarted => ⟨streaming.supervisor, {}⟩

/-- The two states are the same but for their timestamps. -/
def SameState (state state' : SessionLaunchState) : Prop :=
  state = { state' with unixTimestamp := state.unixTimestamp }

/-- A notification that succeeds leaves the sent state with the watchdog and reports on it,
and none takes a cached state back. -/
structure StreamConverges (config : Watchdog.Config) (streaming : Streaming) : Prop where
  converges : ∀ first second now report,
    streaming.supervisor.streamSequence < u64Max →
    validateLaunchState (streaming.supervisor.numbered.launchState now) config = .ok () →
    (streaming.notified config first second now).1 = .ok report →
      ∃ state alive reportedAt,
        (streaming.notified config first second now).2.cached streaming.supervisor.profile.id
          streaming.supervisor.sessionInstanceId = some state ∧
        SameState state (streaming.supervisor.numbered.launchState now) ∧
        report = inspectLaunchState alive reportedAt state
  advances : ∀ inspection command,
    streaming.server.Advances (handleWatchdogCommand config inspection command streaming.server).2

/-- The components that are as they were in the last state whose answer arrived are so in the
state that the watchdog cached. -/
def Remembered (streaming : Streaming) : Prop :=
  ∀ previous current, streaming.supervisor.lastStreamedState = some previous →
    streaming.server.cached streaming.supervisor.profile.id
      streaming.supervisor.sessionInstanceId = some current →
    current.generation = streaming.supervisor.streamGeneration →
    current.sequence = streaming.supervisor.streamSequence →
      ∀ component ∈ streaming.supervisor.components.map (·.state),
        previous.components.find? (·.id = component.id) = some component →
          component ∈ current.components

/-! What a delta makes of the state that it is merged into. -/

theorem ids_of_identities {others : List SessionLaunchComponentState}
    (h : components.map stateIdentity = others.map stateIdentity) :
    components.map (·.id) = others.map (·.id) := by
  have hmapped := congrArg (List.map Prod.fst) h
  simpa only [List.map_map, Function.comp_def, stateIdentity] using hmapped

theorem mem_changedComponents {previous : SessionLaunchState} :
    component ∈ changedComponents state previous ↔ component ∈ state.components ∧
      previous.components.find? (·.id = component.id) ≠ some component := by
  rw [changedComponents, List.mem_filter, decide_eq_true_iff]

theorem eq_of_same_id {other : SessionLaunchComponentState} (hnodup : (components.map (·.id)).Nodup)
    (h : component ∈ components) (hother : other ∈ components) (hid : component.id = other.id) :
    component = other :=
  List.inj_on_of_nodup_map hnodup h hother hid

/-- The components after the delta: those of the state, as far as they are changed or were
there before. -/
theorem merged_components (previous : SessionLaunchState) {current : SessionLaunchState}
    (hnodup : (state.components.map (·.id)).Nodup)
    (hidentities : current.components.map stateIdentity =
      state.components.map stateIdentity) :
    ((changedComponents state previous).foldl WatchdogServer.mergeComponent
        current.components).map stateIdentity = state.components.map stateIdentity ∧
      ((changedComponents state previous).foldl WatchdogServer.mergeComponent
          current.components = state.components ↔
        ∀ component ∈ state.components,
          previous.components.find? (·.id = component.id) = some component →
            component ∈ current.components) := by
  have hids := ids_of_identities hidentities
  have hcurrent : (current.components.map (·.id)).Nodup := hids ▸ hnodup
  have hknown : ∀ change ∈ changedComponents state previous,
      change.id ∈ current.components.map (·.id) := by
    intro change hchange
    rw [hids]
    exact List.mem_map_of_mem (mem_changedComponents.mp hchange).1
  obtain ⟨hmergedIds, hmem⟩ := foldl_upsert hcurrent hknown
  change ((changedComponents state previous).foldl WatchdogServer.mergeComponent
    current.components).map (·.id) = _ at hmergedIds
  change ∀ item ∈ (changedComponents state previous).foldl WatchdogServer.mergeComponent
    current.components, _ at hmem
  have hidentity : ∀ component ∈ current.components, ∃ sent ∈ state.components,
      stateIdentity sent = stateIdentity component := by
    intro component hcomponent
    have := hidentities ▸ List.mem_map_of_mem (f := stateIdentity) hcomponent
    exact List.mem_map.mp this
  constructor
  · refine eq_of_keys Prod.fst ?_ ?_ ?_
    · rw [List.map_map, List.map_map]
      exact hmergedIds.trans hids
    · rw [List.map_map]
      exact hnodup
    · intro identity hmapped
      obtain ⟨component, hcomponent, rfl⟩ := List.mem_map.mp hmapped
      rcases hmem component hcomponent with hchanged | ⟨hold, -⟩
      · exact List.mem_map_of_mem (mem_changedComponents.mp hchanged).1
      · obtain ⟨sent, hsent, hsame⟩ := hidentity component hold
        exact hsame ▸ List.mem_map_of_mem hsent
  · constructor
    · intro heq component hcomponent hfound
      have hmerged := hmem component (heq ▸ hcomponent)
      rcases hmerged with hchanged | ⟨hold, -⟩
      · exact absurd hfound (mem_changedComponents.mp hchanged).2
      · exact hold
    · intro hremembered
      refine eq_of_keys (·.id) (hmergedIds.trans hids) hnodup fun component hcomponent => ?_
      rcases hmem component hcomponent with hchanged | ⟨hold, hunchanged⟩
      · exact (mem_changedComponents.mp hchanged).1
      · obtain ⟨sent, hsent, hsame⟩ := hidentity component hold
        have hid : sent.id = component.id := congrArg Prod.fst hsame
        have hfound : previous.components.find? (·.id = sent.id) = some sent := by
          by_contra hnot
          apply hunchanged
          rw [← hid]
          exact List.mem_map_of_mem (mem_changedComponents.mpr ⟨hsent, hnot⟩)
        have hthere := hremembered sent hsent hfound
        rw [eq_of_same_id hcurrent hold hthere hid.symm]
        exact hsent

/-! What is kept along a run. -/

def SessionSupervisor.identities (supervisor : SessionSupervisor) : List ComponentIdentity :=
  supervisor.components.map fun runtime => stateIdentity runtime.state

/-- A cached state of the current generation. -/
structure CachedOf (supervisor : SessionSupervisor) (state : SessionLaunchState) : Prop where
  generation : state.generation = supervisor.streamGeneration
  sequence : state.sequence ≤ supervisor.streamSequence
  profileId : state.profileId = supervisor.profile.id
  session : state.sessionInstanceId = supervisor.sessionInstanceId
  identities : state.components.map stateIdentity = supervisor.identities
  distinct : (state.components.map (·.id)).Nodup
  bounded : state.components.length ≤ maxComponentsPerState

/-- The last streamed state is one of the current generation. -/
structure LastOf (supervisor : SessionSupervisor) (previous : SessionLaunchState) : Prop where
  generation : previous.generation = supervisor.streamGeneration
  profileId : previous.profileId = supervisor.profile.id
  session : previous.sessionInstanceId = supervisor.sessionInstanceId
  length : previous.components.length = supervisor.components.length

structure StreamKept (streaming : Streaming) : Prop where
  cached : ∀ profileId state,
    streaming.server.cached profileId streaming.supervisor.sessionInstanceId = some state →
      state.generation < streaming.supervisor.streamGeneration ∨
        CachedOf streaming.supervisor state
  last : ∀ previous, streaming.supervisor.lastStreamedState = some previous →
    LastOf streaming.supervisor previous
  profile : streaming.supervisor.identities =
    streaming.supervisor.profile.sessionComponents.map componentIdentity

theorem StreamKept.precedes {streaming : Streaming} (h : StreamKept streaming) (now : Nat) :
    streaming.server.Precedes (streaming.supervisor.numbered.launchState now) := by
  intro current hcurrent
  rcases h.cached _ current hcurrent with hold | hof
  · exact .inl hold
  · exact .inr ⟨hof.generation, Nat.lt_succ_of_le hof.sequence⟩

theorem precedes_empty (state : SessionLaunchState) : ({} : WatchdogServer).Precedes state := by
  intro current hcurrent
  cases hcurrent

/-- The watchdog as it was, or started again. -/
def Reset (server server' : WatchdogServer) : Prop := server' = server ∨ server' = {}

theorem Reset.trans {server'' : WatchdogServer} (h : Reset server server')
    (h' : Reset server' server'') : Reset server server'' := by
  rcases h' with rfl | rfl
  · exact h
  · exact .inr rfl

theorem Reset.precedes (h : Reset server server') (hnewer : server.Precedes state) :
    server'.Precedes state := by
  rcases h with rfl | rfl
  · exact hnewer
  · exact precedes_empty state

theorem Reset.cached {profileId sessionInstanceId : String} (h : Reset server server')
    (hcached : server'.cached profileId sessionInstanceId = some state) :
    server.cached profileId sessionInstanceId = some state := by
  rcases h with rfl | rfl
  · exact hcached
  · cases hcached

/-- A request that may have stored one of some states, and an answer that reports on it. -/
inductive Settled (server : WatchdogServer) (state : SessionLaunchState)
    (storable : SessionLaunchState → Prop) : Except String WatchdogCommand × WatchdogServer → Prop
  | refused {answer : Except String WatchdogCommand} {server' : WatchdogServer}
      (hreset : Reset server server') (hrefused : ∀ report, answer ≠ .ok (.inspectionResult report)) :
      Settled server state storable (answer, server')
  | stored {answer : Except String WatchdogCommand} {base : WatchdogServer}
      {current : SessionLaunchState} (hreset : Reset server base) (hstorable : storable current)
      (hanswer : (∃ err, answer = .error err) ∨ ∃ alive reportedAt,
        answer = .ok (.inspectionResult (inspectLaunchState alive reportedAt current))) :
      Settled server state storable (answer,
        ⟨base.cachedStates.insert (cacheKey state.profileId state.sessionInstanceId) current⟩)

/-- A command that may have stored one of some states, and an answer that reports on it. -/
inductive Handled (base : WatchdogServer) (state : SessionLaunchState)
    (storable : SessionLaunchState → Prop) : WatchdogCommand × WatchdogServer → Prop
  | refused {answer : WatchdogCommand}
      (hrefused : ∀ report, answer ≠ .inspectionResult report) :
      Handled base state storable (answer, base)
  | stored {alive : Nat → Bool} {reportedAt : Nat} {current : SessionLaunchState}
      (hstorable : storable current) :
      Handled base state storable (.inspectionResult (inspectLaunchState alive reportedAt current),
        ⟨base.cachedStates.insert (cacheKey state.profileId state.sessionInstanceId) current⟩)

/-- Whatever is lost on the way, a request does what its command does or nothing. -/
theorem send_settled {config : Watchdog.Config} {exchange : Exchange} {command : WatchdogCommand}
    {storable : SessionLaunchState → Prop} (h : ∀ base, Reset server base →
      Handled base state storable (handleWatchdogCommand config exchange.inspection command base)) :
    Settled server state storable (sendWatchdogCommand config exchange command server) := by
  have hreset : Reset server (if exchange.restarted then {} else server) := by
    split_ifs
    · exact .inr rfl
    · exact .inl rfl
  have hhandled := h _ hreset
  unfold sendWatchdogCommand
  dsimp only
  cases exchange.delivery with
  | lostRequest => exact .refused hreset (by simp)
  | lostResponse =>
    dsimp only
    generalize handleWatchdogCommand config exchange.inspection command
      (if exchange.restarted then {} else server) = answered at hhandled
    cases hhandled with
    | refused hrefused => exact .refused hreset (by simp)
    | stored hstorable => exact .stored hreset hstorable (.inl ⟨_, rfl⟩)
  | delivered =>
    dsimp only
    generalize handleWatchdogCommand config exchange.inspection command
      (if exchange.restarted then {} else server) = answered at hhandled
    cases hhandled with
    | refused hrefused =>
      refine .refused hreset fun report heq => hrefused report (Except.ok.inj heq)
    | stored hstorable => exact .stored hreset hstorable (.inr ⟨_, _, rfl⟩)

theorem inspect_settled (config : Watchdog.Config) (exchange : Exchange)
    (hnewer : server.Precedes state) :
    Settled server state
      (fun stored => stored = state ∧ validateLaunchState state config = .ok ())
      (sendWatchdogCommand config exchange (.inspectLaunchState state) server) := by
  refine send_settled fun base hreset => ?_
  rcases inspect_spec config exchange.inspection (hreset.precedes hnewer) with
    ⟨hvalid, hspec⟩ | ⟨reason, hspec⟩
  · rw [hspec]
    exact .stored ⟨rfl, hvalid⟩
  · rw [hspec]
    exact .refused (by simp)

/-- What a delta over a previous state can leave with the watchdog. -/
def MergedOver (server : WatchdogServer) (state previous : SessionLaunchState) (now : Nat)
    (merged : SessionLaunchState) : Prop :=
  ∃ current mergedAt,
    server.cached state.profileId state.sessionInstanceId = some current ∧
    current.generation = state.generation ∧ current.sequence + 1 = state.sequence ∧
    merged = WatchdogServer.merge current
      (deltaOf state false (changedComponents state previous) now) mergedAt

theorem deltaOf_follows (state : SessionLaunchState)
    (components : List SessionLaunchComponentState) (now : Nat) :
    Follows (deltaOf state false components now) state :=
  ⟨rfl, rfl, rfl, rfl, rfl⟩

theorem update_settled (config : Watchdog.Config) (exchange : Exchange)
    (previous : SessionLaunchState) (now : Nat) (hnewer : server.Precedes state)
    (hbound : state.sequence ≤ u64Max) :
    Settled server state (MergedOver server state previous now)
      (sendWatchdogCommand config exchange
        (.updateLaunchState (deltaOf state false (changedComponents state previous) now))
        server) := by
  refine send_settled fun base hreset => ?_
  rcases update_spec config exchange.inspection
    (deltaOf_follows state (changedComponents state previous) now)
    (hreset.precedes hnewer) hbound with
    ⟨reason, hspec⟩ | ⟨reason, hspec⟩ | ⟨current, hcurrent, hgeneration, hsequence, hspec⟩
  · rw [hspec]
    exact .refused (by simp)
  · rw [hspec]
    exact .refused (by simp)
  · rw [hspec]
    exact .stored ⟨current, _, hreset.cached hcurrent, hgeneration, hsequence, rfl⟩

end TuffXwin.Sessiond
