import TuffXwin.Lib.Fold
import TuffXwin.Lib.Keyed
import TuffXwin.Lib.Machine
import TuffXwin.Lib.OrdMap
import TuffXwin.Lib.Reach
import TuffXwin.Watchdog.Inspection

/-! The launch states that the watchdog keeps, one for each profile and session. A full state
replaces an older one; a delta is merged into the state that it follows, and asks for the full
one where a state is missing between. No state is replaced by an older one. -/

namespace TuffXwin.Watchdog
open Lib

variable {state : SessionLaunchState} {components : List SessionLaunchComponentState}
  {sessionInstanceId : String}
variable {profileId : String} {delta : SessionLaunchDelta}

def maxCachedStates : Nat := 128
def maxComponentsPerState : Nat := 256
def maxProfileIdBytes : Nat := 128

structure Config where
  sessionInstanceId : Option String := none

variable {config : Config}

inductive WatchdogCommand
  | inspectLaunchState (state : SessionLaunchState)
  | updateLaunchState (delta : SessionLaunchDelta)
  | resyncLaunchState (profileId sessionInstanceId reason : String)
  | inspectionResult (report : SessionWatchdogReport)
  | escalate (level : Nat) (reason : String)
  deriving DecidableEq, Repr

def isSessionChar (c : Char) : Bool :=
  c.isAlphanum || c = '.' || c = '_' || c = '-'

def validateSessionInstanceId (id : String) : Bool :=
  !(id.isEmpty || decide (128 < id.utf8ByteSize)) && !(id = "." || id = "..") &&
    id.toList.all isSessionChar

/-- `char::is_control`. -/
def isControl (c : Char) : Bool := decide (c.toNat < 32) || (127 ≤ c.toNat && c.toNat ≤ 159)

def validProfileId (profileId : String) : Bool :=
  !profileId.isEmpty && decide (profileId.utf8ByteSize ≤ maxProfileIdBytes) &&
    !profileId.toList.any isControl

def validateSessionForConfig (sessionInstanceId : String) (config : Config) :
    Except String Unit :=
  if validateSessionInstanceId sessionInstanceId = false then
    .error "invalid session-instance-id"
  else
    match config.sessionInstanceId with
    | some expected =>
      if expected ≠ sessionInstanceId then
        .error "session-instance-id does not match watchdog configuration"
      else .ok ()
    | none => .ok ()

/-- The quoted id of a reason. -/
def quotedId (id : String) : String := "\"" ++ id ++ "\""

def validateComponentIds : List String → List SessionLaunchComponentState → Except String Unit
  | _, [] => .ok ()
  | ids, component :: components =>
    if component.id = "" ∨ component.id ∈ ids then
      .error ("component id is empty or duplicated: " ++ quotedId component.id)
    else validateComponentIds (component.id :: ids) components

def validateComponents (components : List SessionLaunchComponentState) : Except String Unit :=
  if maxComponentsPerState < components.length then
    .error ("component count " ++ toString components.length ++ " exceeds " ++
      toString maxComponentsPerState)
  else validateComponentIds [] components

/-- The checks that a state and a delta share. -/
def validateStream (profileId sessionInstanceId : String)
    (components : List SessionLaunchComponentState) (config : Config) : Except String Unit :=
  if validProfileId profileId = false then .error "invalid profile id"
  else do
    validateSessionForConfig sessionInstanceId config
    validateComponents components

def validateLaunchState (state : SessionLaunchState) (config : Config) : Except String Unit :=
  validateStream state.profileId state.sessionInstanceId state.components config

def validateDelta (delta : SessionLaunchDelta) (config : Config) : Except String Unit :=
  validateStream delta.profileId delta.sessionInstanceId delta.components config

abbrev LaunchStateCacheKey : Type := String ×ₗ String

def cacheKey (profileId sessionInstanceId : String) : LaunchStateCacheKey :=
  toLex (profileId, sessionInstanceId)

structure WatchdogServer where
  cachedStates : OrdMap LaunchStateCacheKey SessionLaunchState := OrdMap.empty

variable {server : WatchdogServer}

inductive StateUpdateOutcome
  | accepted (state : SessionLaunchState)
  | ignored (state : SessionLaunchState) (reason : String)
  | invalid (reason : String)
  | resync (profileId sessionInstanceId reason : String)

namespace WatchdogServer

def store (server : WatchdogServer) (state : SessionLaunchState) : WatchdogServer :=
  ⟨server.cachedStates.insert (cacheKey state.profileId state.sessionInstanceId) state⟩

def cached (server : WatchdogServer) (profileId sessionInstanceId : String) :
    Option SessionLaunchState :=
  server.cachedStates.get? (cacheKey profileId sessionInstanceId)

def cacheFullState (server : WatchdogServer) (state : SessionLaunchState) :
    StateUpdateOutcome × WatchdogServer :=
  match validateLaunchState state {} with
  | .error reason => (.invalid reason, server)
  | .ok () =>
    match server.cached state.profileId state.sessionInstanceId with
    | some current =>
      if state.generation < current.generation ∨
          (state.generation = current.generation ∧ state.sequence < current.sequence) then
        (.ignored current
          ("incoming full state generation=" ++ toString state.generation ++ " sequence=" ++
            toString state.sequence ++ " is older than cached generation=" ++
            toString current.generation ++ " sequence=" ++ toString current.sequence), server)
      else if state.generation = current.generation ∧ state.sequence = current.sequence then
        if state = current then (.ignored current "duplicate full state", server)
        else
          (.resync state.profileId state.sessionInstanceId
            "same generation and sequence carried different full state", server)
      else (.accepted state, server.store state)
    | none =>
      if maxCachedStates ≤ server.cachedStates.size then
        (.invalid ("watchdog cache capacity " ++ toString maxCachedStates ++ " reached"), server)
      else (.accepted state, server.store state)

/-- The components with one of them changed or added. -/
def mergeComponent : List SessionLaunchComponentState → SessionLaunchComponentState →
    List SessionLaunchComponentState :=
  upsert (·.id)

/-- The state that a delta makes of the current one. -/
def merge (current : SessionLaunchState) (delta : SessionLaunchDelta) (now : Nat) :
    SessionLaunchState :=
  { profileId := if delta.replace then delta.profileId else current.profileId
    sessionInstanceId :=
      if delta.replace then delta.sessionInstanceId else current.sessionInstanceId
    displayName := delta.displayName
    protocol := delta.protocol
    brokerServices := delta.brokerServices
    generation := delta.generation
    sequence := delta.sequence
    components :=
      if delta.replace then delta.components
      else delta.components.foldl mergeComponent current.components
    unixTimestamp := now
    serviceComponentBindings := delta.serviceComponentBindings
    serviceRecoveryExecutionPolicies := delta.serviceRecoveryExecutionPolicies }

/-- Why a newer delta cannot be merged into the current state. -/
def missedState (current : SessionLaunchState) (delta : SessionLaunchDelta) : Option String :=
  if current.generation < delta.generation then
    if delta.replace = false then
      some ("watchdog observed generation jump " ++ toString current.generation ++ " -> " ++
        toString delta.generation ++ " without full replace")
    else if delta.sequence ≠ 1 then
      some ("watchdog expected sequence 1 for new generation " ++ toString delta.generation ++
        " but got " ++ toString delta.sequence)
    else none
  else
    match usizeChecked (current.sequence + 1) with
    | none => some "watchdog sequence overflow requires full launch-state resend"
    | some expectedSequence =>
      if delta.sequence ≠ expectedSequence then
        some ("watchdog detected sequence gap: expected " ++ toString expectedSequence ++
          ", got " ++ toString delta.sequence)
      else none

def applyDelta (server : WatchdogServer) (delta : SessionLaunchDelta) (now : Nat) :
    StateUpdateOutcome × WatchdogServer :=
  match validateDelta delta {} with
  | .error reason => (.invalid reason, server)
  | .ok () =>
    match server.cached delta.profileId delta.sessionInstanceId with
    | none =>
      (.resync delta.profileId delta.sessionInstanceId
        "watchdog cache miss for profile; full launch-state resend required", server)
    | some current =>
      if delta.generation < current.generation ∨
          (delta.generation = current.generation ∧ delta.sequence ≤ current.sequence) then
        (.ignored current
          ("incoming delta generation=" ++ toString delta.generation ++ " sequence=" ++
            toString delta.sequence ++ " is not newer than cached generation=" ++
            toString current.generation ++ " sequence=" ++ toString current.sequence), server)
      else
        match missedState current delta with
        | some reason => (.resync delta.profileId delta.sessionInstanceId reason, server)
        | none =>
          let nextState := merge current delta now
          if maxComponentsPerState < nextState.components.length then
            (.invalid ("merged component count " ++ toString nextState.components.length ++
              " exceeds " ++ toString maxComponentsPerState), server)
          else
            (.accepted nextState,
              ⟨server.cachedStates.insert (cacheKey delta.profileId delta.sessionInstanceId)
                nextState⟩)

end WatchdogServer

/-- When and over which processes the watchdog looks at a command. -/
structure Inspection where
  alive : Nat → Bool := fun _ => true
  mergedAt : Nat := 0
  reportedAt : Nat := 0

def answerOutcome (inspection : Inspection) : StateUpdateOutcome → WatchdogCommand
  | .accepted state | .ignored state _ =>
    .inspectionResult (inspectLaunchState inspection.alive inspection.reportedAt state)
  | .invalid reason => .escalate 1 reason
  | .resync profileId sessionInstanceId reason =>
    .resyncLaunchState profileId sessionInstanceId reason

/-- The answer to a command of `sessiond`. -/
def handleWatchdogCommand (config : Config) (inspection : Inspection)
    (command : WatchdogCommand) (server : WatchdogServer) : WatchdogCommand × WatchdogServer :=
  match command with
  | .inspectLaunchState state =>
    match validateLaunchState state config with
    | .error reason => (.escalate 1 reason, server)
    | .ok () =>
      let updated := server.cacheFullState state
      (answerOutcome inspection updated.1, updated.2)
  | .updateLaunchState delta =>
    match validateDelta delta config with
    | .error reason => (.escalate 1 reason, server)
    | .ok () =>
      let updated := server.applyDelta delta inspection.mergedAt
      (answerOutcome inspection updated.1, updated.2)
  | _ => (.escalate 1 "watchdog IPC command is not accepted from a client", server)

/-! A cached state is replaced by newer ones only. -/

/-- The order of the versions of a stream. -/
def NotNewer (state state' : SessionLaunchState) : Prop :=
  state.generation < state'.generation ∨
    (state.generation = state'.generation ∧ state.sequence ≤ state'.sequence)

/-- Every cached state is still there, or a newer one of its profile and session. -/
def WatchdogServer.Advances (server server' : WatchdogServer) : Prop :=
  ∀ key state, server.cachedStates.get? key = some state →
    ∃ state', server'.cachedStates.get? key = some state' ∧ NotNewer state state'

namespace WatchdogServer.Advances

variable {server server' server'' : WatchdogServer}

theorem refl : server.Advances server := fun _ state h => ⟨state, h, .inr ⟨rfl, le_refl _⟩⟩

theorem insert {key : LaunchStateCacheKey}
    (h : ∀ current, server.cachedStates.get? key = some current → NotNewer current state) :
    server.Advances ⟨server.cachedStates.insert key state⟩ := by
  intro other current hcurrent
  by_cases hkey : other = key
  · exact ⟨state, by rw [hkey, OrdMap.get?_insert_self], h current (hkey ▸ hcurrent)⟩
  · exact ⟨current, by rw [OrdMap.get?_insert_ne _ _ hkey, hcurrent], .inr ⟨rfl, le_refl _⟩⟩

theorem trans (h : server.Advances server') (h' : server'.Advances server'') :
    server.Advances server'' := by
  intro key state hstate
  obtain ⟨between, hbetween, hfirst⟩ := h key state hstate
  obtain ⟨last, hlast, hsecond⟩ := h' key between hbetween
  refine ⟨last, hlast, ?_⟩
  unfold NotNewer at *
  omega

end WatchdogServer.Advances

theorem cacheFullState_advances (server : WatchdogServer) (state : SessionLaunchState) :
    server.Advances (server.cacheFullState state).2 := by
  unfold WatchdogServer.cacheFullState
  cases validateLaunchState state {} with
  | error reason => exact .refl
  | ok =>
    dsimp only
    cases hcached : server.cached state.profileId state.sessionInstanceId with
    | none =>
      dsimp only
      split_ifs
      · exact .refl
      · refine .insert fun current hcurrent => ?_
        rw [WatchdogServer.cached, hcurrent] at hcached
        cases hcached
    | some current =>
      dsimp only
      split_ifs with holder hsame
      · exact .refl
      · exact .refl
      · exact .refl
      · refine .insert fun other hother => ?_
        rw [WatchdogServer.cached, hother] at hcached
        obtain rfl := Option.some.inj hcached
        unfold NotNewer
        omega

theorem applyDelta_advances (server : WatchdogServer) (delta : SessionLaunchDelta) (now : Nat) :
    server.Advances (server.applyDelta delta now).2 := by
  unfold WatchdogServer.applyDelta
  cases validateDelta delta {} with
  | error reason => exact .refl
  | ok =>
    dsimp only
    cases hcached : server.cached delta.profileId delta.sessionInstanceId with
    | none => exact .refl
    | some current =>
      dsimp only
      by_cases holder : delta.generation < current.generation ∨
          (delta.generation = current.generation ∧ delta.sequence ≤ current.sequence)
      · rw [if_pos holder]
        exact .refl
      · rw [if_neg holder]
        cases WatchdogServer.missedState current delta with
        | some reason => exact .refl
        | none =>
          dsimp only
          split_ifs
          · exact .refl
          · refine .insert fun other hother => ?_
            rw [WatchdogServer.cached, hother] at hcached
            obtain rfl := Option.some.inj hcached
            unfold NotNewer
            change _ < delta.generation ∨ _ = delta.generation ∧ _ ≤ delta.sequence
            omega

theorem handleWatchdogCommand_advances (config : Config) (inspection : Inspection)
    (command : WatchdogCommand) (server : WatchdogServer) :
    server.Advances (handleWatchdogCommand config inspection command server).2 := by
  unfold handleWatchdogCommand
  cases command with
  | inspectLaunchState state =>
    dsimp only
    cases validateLaunchState state config with
    | error reason => exact .refl
    | ok => exact cacheFullState_advances server state
  | updateLaunchState delta =>
    dsimp only
    cases validateDelta delta config with
    | error reason => exact .refl
    | ok => exact applyDelta_advances server delta inspection.mergedAt
  | resyncLaunchState => exact .refl
  | inspectionResult => exact .refl
  | escalate => exact .refl

/-! What the checks accept. -/

theorem validateComponentIds_ok {ids : List String} :
    validateComponentIds ids components = .ok () ↔
      (components.map (·.id)).Nodup ∧
        ∀ component ∈ components, component.id ≠ "" ∧ component.id ∉ ids := by
  induction components generalizing ids with
  | nil => simp [validateComponentIds]
  | cons component components ih =>
    rw [validateComponentIds]
    split_ifs with hbad
    · simp only [false_iff]
      rintro ⟨-, hall⟩
      have hgood := hall component List.mem_cons_self
      rcases hbad with hempty | hseen
      · exact hgood.1 hempty
      · exact hgood.2 hseen
    · rw [not_or] at hbad
      rw [ih, List.map_cons, List.nodup_cons, List.forall_mem_cons]
      constructor
      · rintro ⟨hnodup, hall⟩
        refine ⟨⟨fun hmem => ?_, hnodup⟩, hbad, fun other hother => ?_⟩
        · obtain ⟨other, hother, hsame⟩ := List.mem_map.mp hmem
          exact (hall other hother).2 (by simp [hsame])
        · exact ⟨(hall other hother).1, fun h => (hall other hother).2 (List.mem_cons_of_mem _ h)⟩
      · rintro ⟨⟨hnew, hnodup⟩, -, hall⟩
        refine ⟨hnodup, fun other hother => ⟨(hall other hother).1, fun h => ?_⟩⟩
        rcases List.mem_cons.mp h with hsame | h
        · exact hnew (hsame ▸ List.mem_map_of_mem hother)
        · exact (hall other hother).2 h

theorem validateComponents_ok :
    validateComponents components = .ok () ↔
      components.length ≤ maxComponentsPerState ∧ (components.map (·.id)).Nodup ∧
        ∀ component ∈ components, component.id ≠ "" := by
  rw [validateComponents]
  split_ifs with hlong
  · simp only [false_iff]
    rintro ⟨hshort, -⟩
    omega
  · rw [validateComponentIds_ok]
    simp [not_lt.mp hlong]

theorem validateStream_ok :
    validateStream profileId sessionInstanceId components config = .ok () ↔
      validProfileId profileId = true ∧
        validateSessionForConfig sessionInstanceId config = .ok () ∧
        validateComponents components = .ok () := by
  rw [validateStream]
  split_ifs with hprofile
  · simp [hprofile]
  · rw [Bool.not_eq_false] at hprofile
    simp only [hprofile, true_and]
    constructor
    · intro h
      obtain ⟨_, hsession, hcomponents⟩ := bind_eq_ok.mp h
      exact ⟨hsession, hcomponents⟩
    · rintro ⟨hsession, hcomponents⟩
      exact bind_eq_ok.mpr ⟨(), hsession, hcomponents⟩

theorem validateSessionForConfig_default
    (h : validateSessionForConfig sessionInstanceId config = .ok ()) :
    validateSessionForConfig sessionInstanceId {} = .ok () := by
  unfold validateSessionForConfig at h ⊢
  split_ifs at h ⊢
  rfl

/-- Fewer components, and no configured session, pass the same checks. -/
theorem validateStream_sublist {fewer : List SessionLaunchComponentState}
    (h : validateStream profileId sessionInstanceId components config = .ok ())
    (hfewer : fewer.Sublist components) :
    validateStream profileId sessionInstanceId fewer config = .ok () ∧
      validateStream profileId sessionInstanceId fewer {} = .ok () := by
  rw [validateStream_ok] at h
  obtain ⟨hprofile, hsession, hcomponents⟩ := h
  rw [validateComponents_ok] at hcomponents
  have hvalid : validateComponents fewer = .ok () := by
    rw [validateComponents_ok]
    exact ⟨hfewer.length_le.trans hcomponents.1, (hfewer.map _).nodup hcomponents.2.1,
      fun component hmem => hcomponents.2.2 component (hfewer.subset hmem)⟩
  rw [validateStream_ok, validateStream_ok]
  exact ⟨⟨hprofile, hsession, hvalid⟩, hprofile, validateSessionForConfig_default hsession, hvalid⟩

/-! What the watchdog does with a valid state. -/

/-- What is cached for the profile and session of a state is older. -/
def WatchdogServer.Precedes (server : WatchdogServer) (state : SessionLaunchState) : Prop :=
  ∀ current, server.cached state.profileId state.sessionInstanceId = some current →
    current.generation < state.generation ∨
      (current.generation = state.generation ∧ current.sequence < state.sequence)

/-- A full state that is valid and newer is stored and reported on, if there is room for it. -/
theorem inspect_spec (config : Config) (inspection : Inspection) (hnewer : server.Precedes state) :
    (validateLaunchState state config = .ok () ∧
        handleWatchdogCommand config inspection (.inspectLaunchState state) server =
          (.inspectionResult (inspectLaunchState inspection.alive inspection.reportedAt state),
            server.store state)) ∨
      ∃ reason, handleWatchdogCommand config inspection (.inspectLaunchState state) server =
        (.escalate 1 reason, server) := by
  simp only [handleWatchdogCommand]
  cases hvalid : validateLaunchState state config with
  | error reason => exact .inr ⟨reason, rfl⟩
  | ok =>
    have hdefault : validateLaunchState state {} = .ok () :=
      (validateStream_sublist hvalid (List.Sublist.refl _)).2
    simp only [WatchdogServer.cacheFullState, hdefault, true_and]
    cases hcached : server.cached state.profileId state.sessionInstanceId with
    | none =>
      dsimp only
      split_ifs
      · exact .inr ⟨_, rfl⟩
      · exact .inl rfl
    | some current =>
      have hold := hnewer current hcached
      dsimp only
      rw [if_neg (by omega), if_neg (by omega)]
      exact .inl rfl

/-- The delta of a state that keeps the components it does not name. -/
structure Follows (delta : SessionLaunchDelta)
    (state : SessionLaunchState) : Prop where
  profileId : delta.profileId = state.profileId
  session : delta.sessionInstanceId = state.sessionInstanceId
  generation : delta.generation = state.generation
  sequence : delta.sequence = state.sequence
  replace : delta.replace = false

/-- A delta over the same generation is merged into the state just before it, or asks for the
full state. -/
theorem update_spec (config : Config) (inspection : Inspection) (hfollows : Follows delta state)
    (hnewer : server.Precedes state) (hbound : state.sequence ≤ u64Max) :
    (∃ reason, handleWatchdogCommand config inspection (.updateLaunchState delta) server =
        (.resyncLaunchState state.profileId state.sessionInstanceId reason, server)) ∨
      (∃ reason, handleWatchdogCommand config inspection (.updateLaunchState delta) server =
        (.escalate 1 reason, server)) ∨
      ∃ current, server.cached state.profileId state.sessionInstanceId = some current ∧
        current.generation = state.generation ∧ current.sequence + 1 = state.sequence ∧
        handleWatchdogCommand config inspection (.updateLaunchState delta) server =
          (.inspectionResult (inspectLaunchState inspection.alive inspection.reportedAt
              (WatchdogServer.merge current delta inspection.mergedAt)),
            ⟨server.cachedStates.insert (cacheKey state.profileId state.sessionInstanceId)
              (WatchdogServer.merge current delta inspection.mergedAt)⟩) := by
  obtain ⟨hprofile, hsession, hgeneration, hsequence, hreplace⟩ := hfollows
  simp only [handleWatchdogCommand]
  cases hvalid : validateDelta delta config with
  | error reason => exact .inr (.inl ⟨reason, rfl⟩)
  | ok =>
    have hdefault : validateDelta delta {} = .ok () :=
      (validateStream_sublist hvalid (List.Sublist.refl _)).2
    simp only [WatchdogServer.applyDelta, hdefault, hprofile, hsession]
    cases hcached : server.cached state.profileId state.sessionInstanceId with
    | none => exact .inl ⟨_, rfl⟩
    | some current =>
      have hold := hnewer current hcached
      dsimp only
      rw [if_neg (by omega)]
      cases hmissed : WatchdogServer.missedState current delta with
      | some reason => exact .inl ⟨reason, rfl⟩
      | none =>
        unfold WatchdogServer.missedState at hmissed
        split_ifs at hmissed with hjump
        have hchecked : usizeChecked (current.sequence + 1) = some (current.sequence + 1) := by
          rw [usizeChecked_eq_some]
          exact ⟨by omega, rfl⟩
        rw [hchecked] at hmissed
        dsimp only at hmissed
        split_ifs at hmissed with hgap
        dsimp only
        split_ifs
        · exact .inr (.inl ⟨_, rfl⟩)
        · exact .inr (.inr ⟨current, rfl, by omega, by omega, rfl⟩)

/-- A valid delta is merged into the state just before it, if the result is not too long. -/
theorem update_merges (config : Config) (inspection : Inspection) {current : SessionLaunchState}
    (hfollows : Follows delta state) (hvalid : validateDelta delta config = .ok ())
    (hcached : server.cached state.profileId state.sessionInstanceId = some current)
    (hgeneration : current.generation = state.generation)
    (hsequence : current.sequence + 1 = state.sequence) (hbound : state.sequence ≤ u64Max)
    (hlength : (WatchdogServer.merge current delta inspection.mergedAt).components.length ≤
      maxComponentsPerState) :
    handleWatchdogCommand config inspection (.updateLaunchState delta) server =
      (.inspectionResult (inspectLaunchState inspection.alive inspection.reportedAt
          (WatchdogServer.merge current delta inspection.mergedAt)),
        ⟨server.cachedStates.insert (cacheKey state.profileId state.sessionInstanceId)
          (WatchdogServer.merge current delta inspection.mergedAt)⟩) := by
  obtain ⟨hprofile, hsession, hsame, hnext, hreplace⟩ := hfollows
  have hdefault : validateDelta delta {} = .ok () :=
    (validateStream_sublist hvalid (List.Sublist.refl _)).2
  have hchecked : usizeChecked (current.sequence + 1) = some (current.sequence + 1) := by
    rw [usizeChecked_eq_some]
    exact ⟨by omega, rfl⟩
  have hmissed : WatchdogServer.missedState current delta = none := by
    unfold WatchdogServer.missedState
    rw [if_neg (by omega), hchecked]
    dsimp only
    rw [if_neg (by omega)]
  simp only [handleWatchdogCommand, hvalid, WatchdogServer.applyDelta, hdefault, hprofile,
    hsession, hcached]
  rw [if_neg (by omega), hmissed]
  dsimp only
  rw [if_neg (by omega)]
  rfl

/-! What the cache holds over every run of commands. -/

def watchdogs (config : Config) : System WatchdogServer (Inspection × WatchdogCommand) where
  init := (· = {})
  next server input := (handleWatchdogCommand config input.1 input.2 server).2

/-- A bounded cache of valid states, each kept for its own profile and session. -/
structure WatchdogServer.Sound (server : WatchdogServer) : Prop where
  few : server.cachedStates.size ≤ maxCachedStates
  kept : ∀ key state, server.cachedStates.get? key = some state →
    key = cacheKey state.profileId state.sessionInstanceId ∧ validateLaunchState state {} = .ok ()

namespace WatchdogServer

theorem Sound.store (h : server.Sound) (hvalid : validateLaunchState state {} = .ok ())
    (hroom : server.cached state.profileId state.sessionInstanceId = none →
      server.cachedStates.size < maxCachedStates) : (server.store state).Sound := by
  constructor
  · cases hcached : server.cached state.profileId state.sessionInstanceId with
    | none => exact (OrdMap.size_insert_le _ _ _).trans (hroom hcached)
    | some current =>
      refine (OrdMap.size_le_of fun key other hother => ?_).trans h.few
      rw [WatchdogServer.store, OrdMap.get?_insert] at hother
      split_ifs at hother with hkey
      · exact ⟨current, hkey ▸ hcached⟩
      · exact ⟨other, hother⟩
  · intro key other hother
    rw [WatchdogServer.store, OrdMap.get?_insert] at hother
    split_ifs at hother with hkey
    · exact Option.some.inj hother ▸ ⟨hkey, hvalid⟩
    · exact h.kept key other hother

theorem merge_valid {current : SessionLaunchState} {now : Nat}
    (hcurrent : validateLaunchState current {} = .ok ()) (hdelta : validateDelta delta {} = .ok ())
    (hlength : (merge current delta now).components.length ≤ maxComponentsPerState) :
    validateLaunchState (merge current delta now) {} = .ok () := by
  unfold validateLaunchState validateDelta at *
  rw [validateStream_ok, validateComponents_ok] at hcurrent hdelta ⊢
  cases hreplace : delta.replace with
  | true => simpa only [merge, hreplace, if_true] using hdelta
  | false =>
    simp only [merge, hreplace, Bool.false_eq_true, if_false] at hlength ⊢
    obtain ⟨hsingle, hmem⟩ := foldl_upsert_single delta.components hcurrent.2.2.2.1
    refine ⟨hcurrent.1, hcurrent.2.1, hlength, hsingle, fun component hcomponent => ?_⟩
    exact (hmem component hcomponent).elim (hdelta.2.2.2.2 _) (hcurrent.2.2.2.2 _)

theorem Sound.cacheFullState (h : server.Sound) : (server.cacheFullState state).2.Sound := by
  unfold WatchdogServer.cacheFullState
  cases hvalid : validateLaunchState state {} with
  | error reason => exact h
  | ok =>
    cases hcached : server.cached state.profileId state.sessionInstanceId with
    | none =>
      dsimp only
      split_ifs with hfull
      · exact h
      · exact h.store hvalid fun _ => not_le.mp hfull
    | some current =>
      dsimp only
      split_ifs
      iterate 3 exact h
      exact h.store hvalid fun hnone => by simp [hnone] at hcached

theorem Sound.applyDelta (h : server.Sound) (now : Nat) :
    (server.applyDelta delta now).2.Sound := by
  unfold WatchdogServer.applyDelta
  cases hvalid : validateDelta delta {} with
  | error reason => exact h
  | ok =>
    cases hcached : server.cached delta.profileId delta.sessionInstanceId with
    | none => exact h
    | some current =>
      obtain ⟨hkey, hcurrent⟩ := h.kept _ _ hcached
      have hsame : cacheKey (merge current delta now).profileId
          (merge current delta now).sessionInstanceId =
            cacheKey delta.profileId delta.sessionInstanceId := by
        unfold merge
        cases delta.replace with
        | true => rfl
        | false => exact hkey.symm
      dsimp only
      split_ifs with holder hlong
      · exact h
      · cases missedState current delta <;> exact h
      · cases missedState current delta with
        | some reason => exact h
        | none =>
          rw [← hsame]
          refine h.store (merge_valid hcurrent hvalid (not_lt.mp hlong)) fun hnone => ?_
          rw [cached, hsame] at hnone
          cases hnone.symm.trans hcached

end WatchdogServer

theorem run_advances (config : Config) (server : WatchdogServer)
    (inputs : List (Inspection × WatchdogCommand)) :
    server.Advances ((watchdogs config).run server inputs) := by
  induction inputs generalizing server with
  | nil => exact .refl
  | cons input inputs ih =>
    exact (handleWatchdogCommand_advances config input.1 input.2 server).trans (ih _)

/-- Whatever is sent to it, a watchdog keeps valid states only, each for its own profile and
session and no more of them than fit, and never goes back to an older one. -/
theorem cache_lawful (config : Config) (earlier later : List (Inspection × WatchdogCommand)) :
    ((watchdogs config).run {} earlier).Sound ∧
      ((watchdogs config).run {} earlier).Advances
        ((watchdogs config).run {} (earlier ++ later)) := by
  have hreach : (watchdogs config).Reachable ((watchdogs config).run {} earlier) :=
    System.Reachable.run (.init rfl) earlier
  refine ⟨hreach.invariant (fun server hfresh => ?_) ?_, ?_⟩
  · obtain rfl : server = {} := hfresh
    exact ⟨Nat.zero_le _, fun key state hcached => nomatch hcached⟩
  · rintro server ⟨inspection, command⟩ h -
    change (handleWatchdogCommand config inspection command server).2.Sound
    unfold handleWatchdogCommand
    cases command with
    | inspectLaunchState state =>
      dsimp only
      split
      · exact h
      · exact h.cacheFullState
    | updateLaunchState delta =>
      dsimp only
      split
      · exact h
      · exact h.applyDelta _
    | _ => exact h
  · rw [System.run, System.run, List.foldl_append]
    exact run_advances config _ later

end TuffXwin.Watchdog
