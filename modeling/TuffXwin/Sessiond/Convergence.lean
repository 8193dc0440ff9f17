import TuffXwin.Sessiond.Stream

/-! When the watchdog ends up with the streamed state. A notification stores the state itself
or a merge into the one just before it, and the merge is the state exactly when the components
that the delta leaves out are in the cache as they are now. -/

namespace TuffXwin.Sessiond
open Lib Watchdog

variable {now : Nat} {current previous : SessionLaunchState}
variable {components others : List SessionLaunchComponentState} {stored : SessionLaunchState}
  {supervisor supervisor' : SessionSupervisor} {profileId sessionInstanceId : String}
  {mergedAt : Nat}

/-- A notification that may have stored one of some states, and a report on it. -/
inductive Notified (server : WatchdogServer) (state : SessionLaunchState)
    (storable : SessionLaunchState → Prop) :
    Except String SessionWatchdogReport × WatchdogServer → Prop
  | failed {err : String} {server' : WatchdogServer} (hreset : Reset server server') :
      Notified server state storable (.error err, server')
  | stored {answer : Except String SessionWatchdogReport} {base : WatchdogServer}
      {current : SessionLaunchState} (hreset : Reset server base) (hstorable : storable current)
      (hreport : ∀ report, answer = .ok report →
        ∃ alive reportedAt, report = inspectLaunchState alive reportedAt current) :
      Notified server state storable (answer,
        ⟨base.cachedStates.insert (cacheKey state.profileId state.sessionInstanceId) current⟩)

variable {config : Watchdog.Config} {server : WatchdogServer} {state : SessionLaunchState}

theorem Notified.mono {storable storable' : SessionLaunchState → Prop} {server' : WatchdogServer}
    {answered : Except String SessionWatchdogReport × WatchdogServer}
    (h : Notified server' state storable answered) (hreset : Reset server server')
    (himp : ∀ stored, storable stored → storable' stored) :
    Notified server state storable' answered := by
  cases h with
  | failed hnext => exact .failed (hreset.trans hnext)
  | stored hnext hstorable hreport =>
    exact .stored (hreset.trans hnext) (himp _ hstorable) hreport

theorem resend_notified (exchange : Exchange) (hnewer : server.Precedes state) :
    Notified server state
      (fun stored => stored = state ∧ validateLaunchState state config = .ok ())
      (resendLaunchState config exchange state server) := by
  have hsettled := inspect_settled config exchange hnewer
  unfold resendLaunchState
  dsimp only
  generalize sendWatchdogCommand config exchange (.inspectLaunchState state) server = retry
    at hsettled ⊢
  cases hsettled with
  | @refused answer server' hreset hrefused =>
    cases answer with
    | error err => exact .failed hreset
    | ok command =>
      cases command with
      | inspectionResult report => exact absurd rfl (hrefused report)
      | inspectLaunchState => exact .failed hreset
      | updateLaunchState => exact .failed hreset
      | resyncLaunchState => exact .failed hreset
      | escalate => exact .failed hreset
  | stored hreset hstorable hanswer =>
    rcases hanswer with ⟨err, rfl⟩ | ⟨alive, reportedAt, rfl⟩
    · exact .stored hreset hstorable (by simp)
    · exact .stored hreset hstorable fun report heq => ⟨alive, reportedAt, by simpa using heq.symm⟩

theorem notify_notified (first second : Exchange) (now : Nat)
    (previous : Option SessionLaunchState) {storable : SessionLaunchState → Prop}
    (hnewer : server.Precedes state)
    (hfirst : Settled server state storable
      (sendWatchdogCommand config first (watchdogStreamCommand state previous now) server)) :
    Notified server state
      (fun stored => storable stored ∨
        (stored = state ∧ validateLaunchState state config = .ok ()))
      (notifyWatchdog config first second now state previous server) := by
  unfold notifyWatchdog
  dsimp only
  generalize sendWatchdogCommand config first (watchdogStreamCommand state previous now) server =
    response at hfirst ⊢
  cases hfirst with
  | @refused answer server' hreset hrefused =>
    cases answer with
    | error err => exact .failed hreset
    | ok command =>
      cases command with
      | inspectionResult report => exact absurd rfl (hrefused report)
      | inspectLaunchState => exact .failed hreset
      | updateLaunchState => exact .failed hreset
      | escalate => exact .failed hreset
      | resyncLaunchState profileId sessionInstanceId reason =>
        dsimp only
        split_ifs
        · exact .failed hreset
        · exact .failed hreset
        · exact (resend_notified second (hreset.precedes hnewer)).mono hreset fun _ => .inr
  | stored hreset hstorable hanswer =>
    rcases hanswer with ⟨err, rfl⟩ | ⟨alive, reportedAt, rfl⟩
    · exact .stored hreset (.inl hstorable) (by simp)
    · exact .stored hreset (.inl hstorable) fun report heq =>
        ⟨alive, reportedAt, by simpa using heq.symm⟩

/-! What a snapshot leaves with the watchdog. -/

/-- The state that is sent with the next snapshot. -/
def Streaming.sent (streaming : Streaming) (now : Nat) : SessionLaunchState :=
  streaming.supervisor.numbered.launchState now

/-- The sent state, or a merge of its delta. -/
def Storable (config : Watchdog.Config) (streaming : Streaming) (now : Nat)
    (stored : SessionLaunchState) : Prop :=
  (stored = streaming.sent now ∧ validateLaunchState (streaming.sent now) config = .ok ()) ∨
    ∃ previous, streaming.supervisor.lastStreamedState = some previous ∧
      MergedOver streaming.server (streaming.sent now) previous now stored

variable {streaming : Streaming}

/-- Within a generation nothing is sent but the full state, at first, and deltas. -/
theorem watchdogStreamCommand_last (now : Nat) (h : LastOf streaming.supervisor previous) :
    watchdogStreamCommand (streaming.sent now) (some previous) now =
      .updateLaunchState (deltaOf (streaming.sent now) false
        (changedComponents (streaming.sent now) previous) now) := by
  have hlength : previous.components.length = (streaming.sent now).components.length := by
    simp [h.length, Streaming.sent, SessionSupervisor.launchState, SessionSupervisor.numbered]
  unfold watchdogStreamCommand
  dsimp only
  rw [if_neg]
  rintro (hprofile | hsession | hgeneration | hcount)
  · exact hprofile h.profileId
  · exact hsession h.session
  · exact hgeneration h.generation
  · exact hcount hlength

theorem StreamKept.notified (config : Watchdog.Config) (h : StreamKept streaming) (first second : Exchange) (now : Nat)
    (hbound : streaming.supervisor.streamSequence < u64Max) :
    Notified streaming.server (streaming.sent now) (Storable config streaming now)
      (streaming.notified config first second now) := by
  have hnewer := h.precedes now
  unfold Streaming.notified
  cases hlast : streaming.supervisor.lastStreamedState with
  | none =>
    have hsettled := inspect_settled config first hnewer
    refine (notify_notified first second now none hnewer hsettled).mono (.inl rfl) ?_
    rintro stored (hstored | hstored)
    · exact .inl hstored
    · exact .inl hstored
  | some previous =>
    have hsettled := update_settled config first previous now hnewer hbound
    have hcommand := watchdogStreamCommand_last now (h.last previous hlast)
    rw [Streaming.sent] at hcommand
    rw [← hcommand] at hsettled
    refine (notify_notified first second now (some previous) hnewer hsettled).mono (.inl rfl) ?_
    rintro stored (hmerged | hstored)
    · exact .inr ⟨previous, hlast, hmerged⟩
    · exact .inl hstored

theorem sent_identities (streaming : Streaming) (now : Nat) :
    (streaming.sent now).components.map stateIdentity = streaming.supervisor.identities := by
  simp [Streaming.sent, SessionSupervisor.launchState, SessionSupervisor.numbered,
    SessionSupervisor.identities]

/-- The state that a delta is merged into is one of the current generation. -/
theorem StreamKept.cachedOf (h : StreamKept streaming)
    (hcached : streaming.server.cached (streaming.sent now).profileId
      (streaming.sent now).sessionInstanceId = some current)
    (hgeneration : current.generation = (streaming.sent now).generation) :
    CachedOf streaming.supervisor current := by
  rcases h.cached _ current hcached with hold | hof
  · exact absurd hgeneration (Nat.ne_of_lt hold)
  · exact hof

theorem distinct_of_identities (h : components.map stateIdentity = others.map stateIdentity)
    (hdistinct : (others.map (·.id)).Nodup) : (components.map (·.id)).Nodup := by
  rw [ids_of_identities h]
  exact hdistinct

theorem length_of_identities (h : components.map stateIdentity = others.map stateIdentity) :
    components.length = others.length := by
  simpa using congrArg List.length h

theorem StreamKept.storable (h : StreamKept streaming)
    (hstored : Storable config streaming now stored) :
    CachedOf streaming.supervisor.numbered stored := by
  rcases hstored with ⟨rfl, hvalid⟩ | ⟨previous, -, current, mergedAt, hcached, hgeneration, -, rfl⟩
  · have hcomponents := (validateStream_ok.mp hvalid).2.2
    obtain ⟨hshort, hdistinct, -⟩ := validateComponents_ok.mp hcomponents
    exact ⟨rfl, le_refl _, rfl, rfl, sent_identities streaming now, hdistinct, hshort⟩
  · have hof := h.cachedOf hcached hgeneration
    have hsame : current.components.map stateIdentity =
        (streaming.sent now).components.map stateIdentity :=
      hof.identities.trans (sent_identities streaming now).symm
    have hdistinct := distinct_of_identities hsame.symm hof.distinct
    have hmerged := (merged_components previous hdistinct hsame).1
    exact ⟨rfl, le_refl _, hof.profileId, hof.session,
      hmerged.trans (sent_identities streaming now), distinct_of_identities hmerged hdistinct,
      (length_of_identities (hmerged.trans hsame.symm)).trans_le hof.bounded⟩

/-! Every run keeps it. -/

theorem CachedOf.move (h : CachedOf supervisor state)
    (hgeneration : supervisor'.streamGeneration = supervisor.streamGeneration)
    (hsequence : supervisor.streamSequence ≤ supervisor'.streamSequence)
    (hprofile : supervisor'.profile = supervisor.profile)
    (hsession : supervisor'.sessionInstanceId = supervisor.sessionInstanceId)
    (hidentities : supervisor'.identities = supervisor.identities) : CachedOf supervisor' state :=
  ⟨hgeneration ▸ h.generation, h.sequence.trans hsequence, hprofile ▸ h.profileId,
    hsession ▸ h.session, hidentities ▸ h.identities, h.distinct, h.bounded⟩

theorem LastOf.move (h : LastOf supervisor previous)
    (hgeneration : supervisor'.streamGeneration = supervisor.streamGeneration)
    (hprofile : supervisor'.profile = supervisor.profile)
    (hsession : supervisor'.sessionInstanceId = supervisor.sessionInstanceId)
    (hlength : supervisor'.components.length = supervisor.components.length) :
    LastOf supervisor' previous :=
  ⟨hgeneration ▸ h.generation, hprofile ▸ h.profileId, hsession ▸ h.session,
    h.length.trans hlength.symm⟩

theorem acted_identities (activity : Nat → ComponentActivity) (supervisor : SessionSupervisor) :
    (supervisor.acted activity).identities = supervisor.identities := by
  unfold SessionSupervisor.identities SessionSupervisor.acted
  refine List.ext_getElem (by simp) fun index h h' => ?_
  simp [acting, stateIdentity]

theorem acted_kept (activity : Nat → ComponentActivity) (h : StreamKept streaming) :
    StreamKept ⟨streaming.supervisor.acted activity, streaming.server⟩ := by
  have hidentities := acted_identities activity streaming.supervisor
  constructor
  · intro profileId state hcached
    refine (h.cached profileId state hcached).imp_right fun hof => ?_
    exact hof.move rfl (le_refl _) rfl rfl hidentities
  · intro previous hlast
    exact (h.last previous hlast).move rfl rfl rfl (by simp [SessionSupervisor.acted])
  · exact hidentities.trans h.profile

theorem numbered_kept (h : StreamKept streaming) :
    StreamKept ⟨streaming.supervisor.numbered, streaming.server⟩ := by
  constructor
  · intro profileId state hcached
    refine (h.cached profileId state hcached).imp_right fun hof => ?_
    exact hof.move rfl (Nat.le_succ _) rfl rfl rfl
  · intro previous hlast
    exact (h.last previous hlast).move rfl rfl rfl rfl
  · exact h.profile

theorem cached_insert {profileId' : String}
    (h : (⟨server.cachedStates.insert (cacheKey profileId' sessionInstanceId) stored⟩ :
      WatchdogServer).cached profileId sessionInstanceId = some state) :
    state = stored ∨ server.cached profileId sessionInstanceId = some state := by
  unfold WatchdogServer.cached at h ⊢
  by_cases hkey : cacheKey profileId sessionInstanceId = cacheKey profileId' sessionInstanceId
  · rw [hkey, OrdMap.get?_insert_self] at h
    exact .inl (Option.some.inj h).symm
  · rw [OrdMap.get?_insert_ne _ _ hkey] at h
    exact .inr h

/-- After a notification the watchdog has states of older generations and of this one. -/
theorem StreamKept.notified_cached (h : StreamKept streaming) (first second : Exchange) (now : Nat)
    (hbound : streaming.supervisor.streamSequence < u64Max)
    (hcached : (streaming.notified config first second now).2.cached profileId
      streaming.supervisor.sessionInstanceId = some state) :
    state.generation < streaming.supervisor.streamGeneration ∨
      CachedOf streaming.supervisor.numbered state := by
  have hnotified := h.notified config first second now hbound
  generalize streaming.notified config first second now = answered at hnotified hcached
  cases hnotified with
  | failed hreset => exact (numbered_kept h).cached profileId state (hreset.cached hcached)
  | stored hreset hstorable =>
    rcases cached_insert hcached with rfl | hold
    · exact .inr (h.storable hstorable)
    · exact (numbered_kept h).cached profileId state (hreset.cached hold)

theorem streamed_kept (h : StreamKept streaming) (first second : Exchange) (now : Nat)
    (hbound : streaming.supervisor.streamSequence < u64Max) :
    StreamKept (streamed config first second now streaming) := by
  unfold streamed
  dsimp only
  cases (streaming.notified config first second now).1 with
  | error err =>
    constructor
    · intro profileId state hcached
      exact h.notified_cached first second now hbound hcached
    · exact (numbered_kept h).last
    · exact h.profile
  | ok report =>
    constructor
    · intro profileId state hcached
      refine (h.notified_cached first second now hbound hcached).imp_right fun hof => ?_
      exact hof.move rfl (le_refl _) rfl rfl rfl
    · intro previous hlast
      obtain rfl := Option.some.inj hlast
      exact ⟨rfl, rfl, rfl, by simp [SessionSupervisor.launchState]⟩
    · exact h.profile

theorem freshComponents_identities (profile : DesktopProfile)
    (resolve : DesktopComponent → Option String) :
    (freshComponents profile resolve).map (fun runtime => stateIdentity runtime.state) =
      profile.sessionComponents.map componentIdentity := by
  rw [freshComponents, List.map_map]
  rfl

/-- A supervisor of a newer generation than whatever is cached for its session. -/
theorem new_kept {profile : DesktopProfile} {profiles : List DesktopProfile}
    {streamGeneration : Nat} {resolve : DesktopComponent → Option String}
    (hcached : ∀ profileId state, server.cached profileId sessionInstanceId = some state →
      state.generation < streamGeneration) :
    StreamKept ⟨.new profile profiles sessionInstanceId streamGeneration resolve, server⟩ := by
  constructor
  · intro profileId state hstate
    exact .inl (hcached profileId state hstate)
  · intro previous hlast
    cases hlast
  · exact freshComponents_identities profile resolve

theorem streamRuns_kept (h : (streamRuns config).Reachable streaming) : StreamKept streaming := by
  refine h.invariant ?_ ?_
  · rintro ⟨supervisor, server⟩ ⟨⟨profile, profiles, session, generation, resolve, rfl⟩, hcached⟩
    exact new_kept hcached
  · intro streaming event hkept _
    cases event with
    | acted activity => exact acted_kept activity hkept
    | streamed first second now =>
      change StreamKept (if _ then _ else _)
      split_ifs with hbound
      · exact streamed_kept hkept first second now hbound
      · exact hkept
    | unsent =>
      change StreamKept (if _ then _ else _)
      split_ifs
      · exact numbered_kept hkept
      · exact hkept
    | switched profile resolve =>
      change StreamKept (if _ then _ else _)
      split_ifs
      · refine new_kept fun profileId state hcached => ?_
        rcases hkept.cached profileId state hcached with hold | hof
        · exact Nat.lt_succ_of_lt hold
        · rw [hof.generation]
          exact Nat.lt_succ_self _
      · exact hkept
    | watchdogRestarted =>
      refine ⟨fun profileId state hcached => ?_, hkept.last, hkept.profile⟩
      cases hcached

/-! The merge of a delta is the sent state, or it is not. -/

theorem merge_same {changes : List SessionLaunchComponentState}
    (hprofile : current.profileId = state.profileId)
    (hsession : current.sessionInstanceId = state.sessionInstanceId) :
    SameState (WatchdogServer.merge current (deltaOf state false changes now) mergedAt) state ↔
      changes.foldl WatchdogServer.mergeComponent current.components = state.components := by
  unfold SameState
  constructor
  · intro h
    exact congrArg SessionLaunchState.components h
  · intro h
    simp [WatchdogServer.merge, deltaOf, h, hprofile, hsession]

/-- A state that the next delta is merged into, and what comes of it. -/
theorem StreamKept.merged_same (h : StreamKept streaming) {now' : Nat}
    (hcached : streaming.server.cached (streaming.sent now).profileId
      (streaming.sent now).sessionInstanceId = some current)
    (hgeneration : current.generation = (streaming.sent now).generation) :
    SameState (WatchdogServer.merge current (deltaOf (streaming.sent now) false
        (changedComponents (streaming.sent now) previous) now') mergedAt) (streaming.sent now) ↔
      ∀ component ∈ streaming.supervisor.components.map (·.state),
        previous.components.find? (·.id = component.id) = some component →
          component ∈ current.components := by
  have hof := h.cachedOf hcached hgeneration
  have hsame : current.components.map stateIdentity =
      (streaming.sent now).components.map stateIdentity :=
    hof.identities.trans (sent_identities streaming now).symm
  have hdistinct := distinct_of_identities hsame.symm hof.distinct
  rw [merge_same hof.profileId hof.session]
  exact (merged_components previous hdistinct hsame).2

theorem StreamKept.converges (h : StreamKept streaming) {report : SessionWatchdogReport}
    (first second : Exchange) (hbound : streaming.supervisor.streamSequence < u64Max)
    (hremembered : Remembered streaming)
    (hok : (streaming.notified config first second now).1 = .ok report) :
    ∃ state alive reportedAt,
      (streaming.notified config first second now).2.cached streaming.supervisor.profile.id
        streaming.supervisor.sessionInstanceId = some state ∧
      SameState state (streaming.sent now) ∧ report = inspectLaunchState alive reportedAt state := by
  have hnotified := h.notified config first second now hbound
  generalize streaming.notified config first second now = answered at hnotified hok ⊢
  cases hnotified with
  | failed hreset => cases hok
  | @stored answer base current hreset hstorable hreport =>
    obtain ⟨alive, reportedAt, heq⟩ := hreport report hok
    refine ⟨current, alive, reportedAt, OrdMap.get?_insert_self .., ?_, heq⟩
    rcases hstorable with ⟨rfl, -⟩ | ⟨previous, hlast, before, mergedAt, hcached, hgen, hseq, rfl⟩
    · rfl
    · rw [h.merged_same hcached hgen]
      exact hremembered previous before hlast hcached hgen (Nat.succ.inj hseq)

/-- With nothing lost a delta is merged. -/
theorem StreamKept.delta_delivered (h : StreamKept streaming)
    (hbound : streaming.supervisor.streamSequence < u64Max)
    (hvalid : validateLaunchState (streaming.sent 0) config = .ok ())
    (hlast : streaming.supervisor.lastStreamedState = some previous)
    (hcached : streaming.server.cached (streaming.sent 0).profileId
      (streaming.sent 0).sessionInstanceId = some current)
    (hgeneration : current.generation = (streaming.sent 0).generation)
    (hsequence : current.sequence + 1 = (streaming.sent 0).sequence) :
    ∃ report, (streaming.notified config {} {} 0).1 = .ok report ∧
      (streaming.notified config {} {} 0).2.cached (streaming.sent 0).profileId
          (streaming.sent 0).sessionInstanceId =
        some (WatchdogServer.merge current (deltaOf (streaming.sent 0) false
          (changedComponents (streaming.sent 0) previous) 0) 0) := by
  have hof := h.cachedOf hcached hgeneration
  have hsame : current.components.map stateIdentity =
      (streaming.sent 0).components.map stateIdentity :=
    hof.identities.trans (sent_identities streaming 0).symm
  have hdistinct := distinct_of_identities hsame.symm hof.distinct
  have hmerged := (merged_components previous hdistinct hsame).1
  have hlength : (WatchdogServer.merge current (deltaOf (streaming.sent 0) false
      (changedComponents (streaming.sent 0) previous) 0) 0).components.length ≤
        maxComponentsPerState :=
    (length_of_identities (hmerged.trans hsame.symm)).trans_le hof.bounded
  have hdelta := (validateStream_sublist hvalid (List.filter_sublist :
    (changedComponents (streaming.sent 0) previous).Sublist (streaming.sent 0).components)).1
  have hmerges := update_merges config {} (deltaOf_follows (streaming.sent 0)
    (changedComponents (streaming.sent 0) previous) 0) hdelta hcached hgeneration hsequence
    hbound hlength
  have hsend := watchdogStreamCommand_last 0 (h.last previous hlast)
  have hanswered : sendWatchdogCommand config {}
      (watchdogStreamCommand (streaming.sent 0) (some previous) 0) streaming.server =
      (.ok (.inspectionResult (inspectLaunchState (fun _ => true) 0
          (WatchdogServer.merge current (deltaOf (streaming.sent 0) false
            (changedComponents (streaming.sent 0) previous) 0) 0))),
        ⟨streaming.server.cachedStates.insert
          (cacheKey (streaming.sent 0).profileId (streaming.sent 0).sessionInstanceId)
          (WatchdogServer.merge current (deltaOf (streaming.sent 0) false
            (changedComponents (streaming.sent 0) previous) 0) 0)⟩) := by
    rw [hsend]
    change (Except.ok (handleWatchdogCommand config {} _ streaming.server).1,
      (handleWatchdogCommand config {} _ streaming.server).2) = _
    rw [hmerges]
  rw [Streaming.sent] at hanswered
  unfold Streaming.notified notifyWatchdog
  rw [hlast]
  simp only [hanswered]
  exact ⟨_, rfl, OrdMap.get?_insert_self ..⟩

/-- Whatever is lost and restarted, the watchdog has the streamed state after an answer, and
what it had before was older; unless an answer was lost, after which a component is as it was
when the last one arrived. -/
theorem streamConverges_iff (h : (streamRuns config).Reachable streaming) :
    StreamConverges config streaming ↔
      (streaming.supervisor.streamSequence < u64Max →
        validateLaunchState (streaming.supervisor.numbered.launchState 0) config = .ok () →
          Remembered streaming) := by
  have hkept := streamRuns_kept h
  constructor
  · intro hconverges hbound hvalid previous current hlast hcached hgeneration hsequence
    have hnext : current.sequence + 1 = (streaming.sent 0).sequence := congrArg Nat.succ hsequence
    obtain ⟨report, hok, hstored⟩ := hkept.delta_delivered hbound hvalid hlast hcached
      hgeneration hnext
    obtain ⟨state, -, -, hstate, hsame, -⟩ := hconverges.converges {} {} 0 report hbound hvalid hok
    obtain rfl : _ = state := Option.some.inj (hstored.symm.trans hstate)
    exact (hkept.merged_same hcached hgeneration).mp hsame
  · intro hremembered
    constructor
    · intro first second now report hbound hvalid hok
      exact hkept.converges first second hbound (hremembered hbound hvalid) hok
    · exact fun inspection command => handleWatchdogCommand_advances config inspection command _

def freshStream : Streaming := ⟨.new soleProfile [soleProfile] "seat-0" 1 installed, {}⟩

/-- The stream after a change whose answer is lost, and another one. -/
def afterLoss (restartCount : Nat) : Streaming :=
  (streamRuns {}).run freshStream
    [.acted (doing 0), .streamed {} {} 0, .acted (doing 1),
      .streamed { delivery := .lostResponse } {} 0, .acted (doing restartCount)]

theorem freshStream_reachable : (streamRuns {}).Reachable freshStream := by
  refine .init ⟨⟨soleProfile, [soleProfile], "seat-0", 1, installed, rfl⟩, ?_⟩
  intro profileId state hcached
  cases hcached

theorem afterLoss_reachable (restartCount : Nat) :
    (streamRuns {}).Reachable (afterLoss restartCount) := freshStream_reachable.run _

theorem newChange_converges : StreamConverges {} (afterLoss 2) := by
  refine (streamConverges_iff (afterLoss_reachable 2)).mpr fun _ _ previous current hlast _ _ _ => ?_
  have hprevious : (afterLoss 2).supervisor.lastStreamedState.map (·.components) =
      some [acting (doing 0 0) (baseComponentState
        { id := "shell", role := .shell, command := ["shell"], critical := true }
        (some "/usr/bin/shell"))] := by
    decide +kernel
  rw [hlast] at hprevious
  have hcomponents : previous.components = _ := Option.some.inj hprevious
  have hchanged : ∀ component ∈ (afterLoss 2).supervisor.components.map (·.state),
      previous.components.find? (·.id = component.id) ≠ some component := by
    rw [hcomponents]
    decide +kernel
  exact fun component hmem hfound => absurd hfound (hchanged component hmem)

/-- The change whose answer was lost is taken back: nothing has changed since the last answer,
and the watchdog keeps what it had merged. -/
theorem returned_not_converges : ∃ streaming,
    (streamRuns {}).Reachable streaming ∧ ¬ StreamConverges {} streaming := by
  refine ⟨afterLoss 0, afterLoss_reachable 0, fun h => ?_⟩
  have hok : ((afterLoss 0).notified {} {} {} 0).1.isOk = true := by decide +kernel
  cases hanswer : ((afterLoss 0).notified {} {} {} 0).1 with
  | error err =>
    rw [hanswer] at hok
    cases hok
  | ok report =>
    obtain ⟨state, -, -, hstate, hsame, -⟩ :=
      h.converges {} {} 0 report (by decide +kernel) (by decide +kernel) hanswer
    have hkept : (((afterLoss 0).notified {} {} {} 0).2.cached (afterLoss 0).supervisor.profile.id
        (afterLoss 0).supervisor.sessionInstanceId).map (·.components) ≠
        some ((afterLoss 0).sent 0).components := by
      decide +kernel
    rw [hstate] at hkept
    unfold SameState at hsame
    have hcomponents := congrArg SessionLaunchState.components hsame
    exact hkept (congrArg some hcomponents)

/-! What the supervisor makes of it. -/

end TuffXwin.Sessiond
