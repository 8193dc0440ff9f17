import TuffXwin.Lib.Reach
import TuffXwin.Sessiond.Stream

/-! The numbers of the launch states of a session, over all the processes that serve it. A
process goes on with the generation after the one in the authority artifact, which is written
after the launch state. A launch state of a new generation and then no artifact: the next
process takes the generation once more. -/

namespace TuffXwin.Sessiond
open Lib Watchdog

variable {written : List SessionLaunchState} {supervisor : SessionSupervisor}
  {state : SessionLaunchState}
variable {path sessionInstanceId : String} {streamGeneration : Nat}

def sessionAuthorityArtifactVersion : UInt32 := 1

structure SessionAuthorityState where
  version : UInt32
  sessionInstanceId : String
  activeProfileId : String
  streamGeneration : UInt64
  streamSequence : UInt64
  unixTimestamp : UInt64
  deriving DecidableEq, Repr

/-- `serde_json::to_vec_pretty`. -/
def SessionAuthorityState.toText (state : SessionAuthorityState) : String :=
  Json.pretty [
    ("version", .nat state.version.toNat),
    ("session_instance_id", .text state.sessionInstanceId),
    ("active_profile_id", .text state.activeProfileId),
    ("stream_generation", .nat state.streamGeneration.toNat),
    ("stream_sequence", .nat state.streamSequence.toNat),
    ("unix_timestamp", .nat state.unixTimestamp.toNat)]

def SessionAuthorityState.bytes (state : SessionAuthorityState) : List UInt8 :=
  utf8 state.toText ++ [newline]

/-- `serde_json::from_str` for authority states. -/
abbrev AuthorityFromText := String → Except String SessionAuthorityState

inductive SessionAuthorityStartup
  | fresh
  | recovered (previousProfileId : String) (previousGeneration previousSequence : Nat)
  deriving DecidableEq, Repr

variable {startup : SessionAuthorityStartup}

def loadSessionAuthorityGeneration (fromText : AuthorityFromText) (path : String)
    (sessionInstanceId : String) (artifact : Option (List UInt8)) :
    Except String (Nat × SessionAuthorityStartup) :=
  match readToString artifact with
  | .error .notFound => .ok (1, .fresh)
  | .error kind => .error ("failed to read session authority state " ++ path ++ ": " ++ kind.text)
  | .ok raw =>
    match fromText raw with
    | .error err => .error ("failed to decode session authority state " ++ path ++ ": " ++ err)
    | .ok state =>
      if state.version ≠ sessionAuthorityArtifactVersion then
        .error ("unsupported session authority state version " ++ toString state.version ++
          " in " ++ path)
      else if state.sessionInstanceId ≠ sessionInstanceId then
        .error ("session authority state identity mismatch: expected " ++ sessionInstanceId ++
          ", found " ++ state.sessionInstanceId)
      else if state.streamGeneration = 0 then
        .error "session authority state has zero stream generation"
      else
        match usizeChecked (state.streamGeneration.toNat + 1) with
        | none => .error "session stream generation exhausted"
        | some nextGeneration =>
          .ok (nextGeneration, .recovered state.activeProfileId state.streamGeneration.toNat
            state.streamSequence.toNat)

/-- A write that replaces the artifact, if nothing fails. -/
def atomicWrite (fault : Option String) : Except String Unit :=
  match fault with
  | some err => .error err
  | none => .ok ()

def writeLaunchState (fault : Option String) (state : SessionLaunchState)
    (sessionInstanceId : String) : Except String Unit :=
  if state.sessionInstanceId ≠ sessionInstanceId then
    .error ("launch-state session identity mismatch: state=" ++ state.sessionInstanceId ++
      " artifact=" ++ sessionInstanceId)
  else atomicWrite fault

def persistSessionAuthorityState (fault : Option String) (state : SessionAuthorityState)
    (sessionInstanceId : String) (artifact : Option (List UInt8)) :
    Except String Unit × Option (List UInt8) :=
  if state.sessionInstanceId ≠ sessionInstanceId then
    (.error ("refusing to persist session authority state for mismatched session " ++
      state.sessionInstanceId ++ " as " ++ sessionInstanceId), artifact)
  else
    match atomicWrite fault with
    | .error err => (.error err, artifact)
    | .ok () => (.ok (), some state.bytes)

/-- The authority state of a launch state. -/
def authorityOf (state : SessionLaunchState) (sessionInstanceId : String) (now : UInt64) :
    SessionAuthorityState :=
  { version := sessionAuthorityArtifactVersion
    sessionInstanceId
    activeProfileId := state.profileId
    streamGeneration := .ofNat state.generation
    streamSequence := .ofNat state.sequence
    unixTimestamp := now }

/-- The launch state of a profile without a supervisor, over what its components became. -/
def launchStateForProfile (profile : DesktopProfile) (sessionInstanceId : String)
    (streamGeneration : Nat) (components : List SessionLaunchComponentState) (now : Nat) :
    SessionLaunchState :=
  { profileId := profile.id
    sessionInstanceId
    displayName := profile.displayName
    protocol := profile.protocol
    brokerServices := profile.brokerServices
    generation := streamGeneration
    sequence := 1
    components
    unixTimestamp := now
    serviceComponentBindings := profile.serviceComponentBindings
    serviceRecoveryExecutionPolicies := profile.serviceRecoveryExecutionPolicies }

/-! The processes of a session, one after the other. -/

/-- What the process of a session is in the middle of. A launch without a supervisor loads
its generation, writes the launch state and then the authority state; a supervisor does the
same with each snapshot, and may send it. -/
inductive Process
  | idle
  | launching (streamGeneration : Nat)
  | launched (state : SessionLaunchState)
  | managing (supervisor : SessionSupervisor)
  | snapshotWritten (supervisor : SessionSupervisor) (state : SessionLaunchState)
  | snapshotRecorded (supervisor : SessionSupervisor) (state : SessionLaunchState)

/-- The authority artifact and the process. The launch states that were written and those
that were sent are listed in their order, and read by nothing. -/
structure Session where
  authority : Option (List UInt8)
  process : Process := .idle
  written : List SessionLaunchState := []
  sent : List SessionLaunchState := []

variable {session : Session}

inductive SessionEvent
  | bootstrap (profile : DesktopProfile) (profiles : List DesktopProfile)
      (resolve : DesktopComponent → Option String)
  | loadGeneration
  | launch (profile : DesktopProfile) (components : List SessionLaunchComponentState)
      (fault : Option String) (now : Nat)
  | persistAuthority (fault : Option String) (now : UInt64)
  | act (activity : Nat → ComponentActivity)
  | writeSnapshot (fault : Option String) (now : Nat)
  | notify (acknowledged : Bool)
  | finishSnapshot
  | switchTo (stage : StageSurroundings) (profile : DesktopProfile)
  | crash

/-- The supervisor after a program of its own. -/
def afterwards {α : Type} : EStateM.Result String SessionSupervisor α → SessionSupervisor
  | .ok _ supervisor => supervisor
  | .error _ supervisor => supervisor

namespace Session

variable (fromText : AuthorityFromText) (path sessionInstanceId : String) (session : Session)

def load : Except String (Nat × SessionAuthorityStartup) :=
  loadSessionAuthorityGeneration fromText path sessionInstanceId session.authority

def bootstrap (profile : DesktopProfile) (profiles : List DesktopProfile)
    (resolve : DesktopComponent → Option String) : Session :=
  match session.load fromText path sessionInstanceId with
  | .error _ => { session with process := .idle }
  | .ok (streamGeneration, _) =>
    { session with
      process := .managing (.new profile profiles sessionInstanceId streamGeneration resolve) }

def loadGeneration : Session :=
  match session.load fromText path sessionInstanceId with
  | .error _ => { session with process := .idle }
  | .ok (streamGeneration, _) => { session with process := .launching streamGeneration }

def launch (state : SessionLaunchState) (fault : Option String) : Session :=
  match writeLaunchState fault state sessionInstanceId with
  | .error _ => { session with process := .idle }
  | .ok () =>
    { session with process := .launched state, written := session.written ++ [state] }

def persistLaunched (state : SessionLaunchState) (fault : Option String) (now : UInt64) :
    Session :=
  let persisted := persistSessionAuthorityState fault (authorityOf state sessionInstanceId now)
    sessionInstanceId session.authority
  { session with process := .idle, authority := persisted.2 }

def writeSnapshot (supervisor : SessionSupervisor) (fault : Option String) (now : Nat) :
    Session :=
  match snapshot now supervisor with
  | .error _ supervisor => { session with process := .managing supervisor }
  | .ok state supervisor =>
    match writeLaunchState fault state sessionInstanceId with
    | .error _ => { session with process := .managing supervisor }
    | .ok () =>
      { session with
        process := .snapshotWritten supervisor state
        written := session.written ++ [state] }

def persistSnapshot (supervisor : SessionSupervisor) (state : SessionLaunchState)
    (fault : Option String) (now : UInt64) : Session :=
  let persisted := persistSessionAuthorityState fault (authorityOf state sessionInstanceId now)
    sessionInstanceId session.authority
  match persisted.1 with
  | .error _ => { session with process := .managing supervisor, authority := persisted.2 }
  | .ok () =>
    { session with process := .snapshotRecorded supervisor state, authority := persisted.2 }

def notify (supervisor : SessionSupervisor) (state : SessionLaunchState)
    (acknowledged : Bool) : Session :=
  { session with
    process := .managing (if acknowledged then
      { supervisor with lastStreamedState := some state } else supervisor)
    sent := session.sent ++ [state] }

end Session

/-- The runs of a session. An event that the process is not at changes nothing. -/
def sessionRuns (fromText : AuthorityFromText) (path sessionInstanceId : String) :
    System Session SessionEvent where
  init session := session.process = .idle ∧ session.written = [] ∧ session.sent = []
  next session event :=
    match event, session.process with
    | .bootstrap profile profiles resolve, .idle =>
      session.bootstrap fromText path sessionInstanceId profile profiles resolve
    | .loadGeneration, .idle => session.loadGeneration fromText path sessionInstanceId
    | .launch profile components fault now, .launching streamGeneration =>
      session.launch sessionInstanceId
        (launchStateForProfile profile sessionInstanceId streamGeneration components now) fault
    | .persistAuthority fault now, .launched state =>
      session.persistLaunched sessionInstanceId state fault now
    | .act activity, .managing supervisor =>
      { session with process := .managing (supervisor.acted activity) }
    | .writeSnapshot fault now, .managing supervisor =>
      session.writeSnapshot sessionInstanceId supervisor fault now
    | .persistAuthority fault now, .snapshotWritten supervisor state =>
      session.persistSnapshot sessionInstanceId supervisor state fault now
    | .notify acknowledged, .snapshotRecorded supervisor state =>
      session.notify supervisor state acknowledged
    | .finishSnapshot, .snapshotRecorded supervisor _ =>
      { session with process := .managing supervisor }
    | .switchTo stage profile, .managing supervisor =>
      { session with
        process := .managing
          (afterwards (switchTo stage (pure ()) profile supervisor)) }
    | .crash, _ => { session with process := .idle }
    | _, _ => session

/-- The order of the versions. -/
def Earlier (state state' : SessionLaunchState) : Prop :=
  state.generation < state'.generation ∨
    (state.generation = state'.generation ∧ state.sequence < state'.sequence)

/-- No version is used twice, and those of the artifact grow. -/
structure Versioned (session : Session) : Prop where
  grow : session.written.Pairwise Earlier
  unique : ∀ state ∈ session.written ++ session.sent, ∀ state' ∈ session.written ++ session.sent,
    state.generation = state'.generation → state.sequence = state'.sequence → state = state'

/-- The authority artifact holds a generation that is not below that of the launch state. -/
def Recorded (fromText : AuthorityFromText) (authority : Option (List UInt8))
    (state : SessionLaunchState) : Prop :=
  ∃ raw record, readToString authority = .ok raw ∧ fromText raw = .ok record ∧
    state.generation ≤ record.streamGeneration.toNat

/-- A generation is loaded only when all the written launch states are recorded. -/
def LoadsRecorded (fromText : AuthorityFromText) (session : Session) (event : SessionEvent) :
    Prop :=
  (∃ profile profiles resolve, event = .bootstrap profile profiles resolve) ∨
      event = .loadGeneration →
    ∀ state ∈ session.written, Recorded fromText session.authority state

/-! Every load takes a generation that was not written. -/

theorem load_spec {fromText : AuthorityFromText} {artifact : Option (List UInt8)}
    (h : loadSessionAuthorityGeneration fromText path sessionInstanceId artifact =
      .ok (streamGeneration, startup)) :
    (readToString artifact = .error .notFound ∧ streamGeneration = 1) ∨
      ∃ raw record, readToString artifact = .ok raw ∧ fromText raw = .ok record ∧
        streamGeneration = record.streamGeneration.toNat + 1 ∧ streamGeneration ≤ u64Max := by
  unfold loadSessionAuthorityGeneration at h
  cases hraw : readToString artifact with
  | error kind =>
    rw [hraw] at h
    cases kind with
    | notFound =>
      obtain ⟨rfl, -⟩ := Prod.mk.inj (Except.ok.inj h)
      exact .inl ⟨rfl, rfl⟩
    | invalidData => cases h
  | ok raw =>
    rw [hraw] at h
    dsimp only at h
    cases hrecord : fromText raw with
    | error err => simp [hrecord] at h
    | ok record =>
      rw [hrecord] at h
      dsimp only at h
      split_ifs at h
      cases hnext : usizeChecked (record.streamGeneration.toNat + 1) with
      | none => simp [hnext] at h
      | some next =>
        rw [hnext] at h
        obtain ⟨rfl, -⟩ := Prod.mk.inj (Except.ok.inj h)
        obtain ⟨hbound, rfl⟩ := usizeChecked_eq_some.mp hnext
        exact .inr ⟨raw, record, rfl, hrecord, rfl, hbound⟩

/-- A generation that a process can go on with. -/
structure Unused (written : List SessionLaunchState) (streamGeneration : Nat) : Prop where
  positive : 0 < streamGeneration
  bounded : streamGeneration ≤ u64Max
  above : ∀ state ∈ written, state.generation < streamGeneration

theorem load_unused {fromText : AuthorityFromText}
    (hrecorded : ∀ state ∈ session.written, Recorded fromText session.authority state)
    (h : session.load fromText path sessionInstanceId = .ok (streamGeneration, startup)) :
    Unused session.written streamGeneration := by
  rcases load_spec h with ⟨habsent, rfl⟩ | ⟨raw, record, hraw, hrecord, rfl, hbound⟩
  · refine ⟨Nat.one_pos, (by decide), fun state hstate => ?_⟩
    obtain ⟨raw, record, hraw, -⟩ := hrecorded state hstate
    rw [habsent] at hraw
    cases hraw
  · refine ⟨Nat.succ_pos _, hbound, fun state hstate => ?_⟩
    obtain ⟨raw', record', hraw', hrecord', hle⟩ := hrecorded state hstate
    obtain rfl := Except.ok.inj (hraw.symm.trans hraw')
    obtain rfl := Except.ok.inj (hrecord.symm.trans hrecord')
    exact Nat.lt_succ_of_le hle

/-! What is kept while every load is recorded. -/

/-- The supervisor is ahead of everything written. -/
structure Leads (written : List SessionLaunchState) (supervisor : SessionSupervisor) : Prop where
  positive : 0 < supervisor.streamGeneration
  bounded : supervisor.streamGeneration ≤ u64Max
  upTo : ∀ state ∈ written, state.generation < supervisor.streamGeneration ∨
    (state.generation = supervisor.streamGeneration ∧
      state.sequence ≤ supervisor.streamSequence)

/-- The launch state that an authority artifact is about to be written for. -/
structure Newest (written : List SessionLaunchState) (state : SessionLaunchState) : Prop where
  mem : state ∈ written
  positive : 0 < state.generation
  bounded : state.generation ≤ u64Max
  newest : ∀ other ∈ written, other.generation ≤ state.generation

def Process.Ahead (written : List SessionLaunchState) : Process → Prop
  | .idle => True
  | .launching streamGeneration => Unused written streamGeneration
  | .launched state => Newest written state
  | .managing supervisor => Leads written supervisor
  | .snapshotWritten supervisor state => Leads written supervisor ∧ Newest written state
  | .snapshotRecorded supervisor state => Leads written supervisor ∧ Newest written state

structure SessionKept (session : Session) : Prop where
  grow : session.written.Pairwise Earlier
  sent : ∀ state ∈ session.sent, state ∈ session.written
  positive : ∀ state ∈ session.written, 0 < state.generation ∧ 0 < state.sequence
  ahead : session.process.Ahead session.written

section
variable {session : Session} {sessionInstanceId : String}
variable {fromText : AuthorityFromText}

theorem Leads.move {supervisor' : SessionSupervisor} (h : Leads written supervisor)
    (hgeneration : supervisor'.streamGeneration = supervisor.streamGeneration)
    (hsequence : supervisor.streamSequence ≤ supervisor'.streamSequence) :
    Leads written supervisor' := by
  refine ⟨hgeneration ▸ h.positive, hgeneration ▸ h.bounded, fun state hstate => ?_⟩
  have hup := h.upTo state hstate
  omega

theorem Unused.leads (h : Unused written supervisor.streamGeneration) : Leads written supervisor :=
  ⟨h.positive, h.bounded, fun state hstate => .inl (h.above state hstate)⟩

theorem grow_append (h : written.Pairwise Earlier) (hnew : ∀ other ∈ written, Earlier other state) :
    (written ++ [state]).Pairwise Earlier := by
  rw [List.pairwise_append]
  refine ⟨h, List.pairwise_singleton _ _, fun other hother last hlast => ?_⟩
  obtain rfl := List.mem_singleton.mp hlast
  exact hnew other hother

theorem newest_append (hpositive : 0 < state.generation) (hbounded : state.generation ≤ u64Max)
    (hnew : ∀ other ∈ written, Earlier other state) : Newest (written ++ [state]) state := by
  refine ⟨List.mem_append_right _ List.mem_cons_self, hpositive, hbounded, fun other hother => ?_⟩
  rcases List.mem_append.mp hother with hold | hlast
  · have := hnew other hold
    unfold Earlier at this
    omega
  · rw [List.mem_singleton.mp hlast]

theorem positive_append (h : ∀ other ∈ written, 0 < other.generation ∧ 0 < other.sequence)
    (hgeneration : 0 < state.generation) (hsequence : 0 < state.sequence) :
    ∀ other ∈ written ++ [state], 0 < other.generation ∧ 0 < other.sequence := by
  intro other hother
  rcases List.mem_append.mp hother with hold | hlast
  · exact h other hold
  · rw [List.mem_singleton.mp hlast]
    exact ⟨hgeneration, hsequence⟩

theorem SessionKept.to_idle (h : SessionKept session) (authority : Option (List UInt8)) :
    SessionKept { session with process := .idle, authority } :=
  ⟨h.grow, h.sent, h.positive, trivial⟩

theorem SessionKept.to_managing (h : SessionKept session)
    (hleads : Leads session.written supervisor) :
    SessionKept { session with process := .managing supervisor } :=
  ⟨h.grow, h.sent, h.positive, hleads⟩

theorem bootstrap_kept (path : String) (h : SessionKept session)
    (hrecorded : ∀ state ∈ session.written, Recorded fromText session.authority state)
    (profile : DesktopProfile) (profiles : List DesktopProfile)
    (resolve : DesktopComponent → Option String) :
    SessionKept (session.bootstrap fromText path sessionInstanceId profile profiles resolve) := by
  unfold Session.bootstrap
  cases hload : session.load fromText path sessionInstanceId with
  | error err => exact h.to_idle _
  | ok loaded => exact h.to_managing (load_unused hrecorded hload).leads

theorem loadGeneration_kept (path : String) (h : SessionKept session)
    (hrecorded : ∀ state ∈ session.written, Recorded fromText session.authority state) :
    SessionKept (session.loadGeneration fromText path sessionInstanceId) := by
  unfold Session.loadGeneration
  cases hload : session.load fromText path sessionInstanceId with
  | error err => exact h.to_idle _
  | ok loaded => exact ⟨h.grow, h.sent, h.positive, load_unused hrecorded hload⟩

theorem launch_kept (h : SessionKept session) (profile : DesktopProfile)
    (components : List SessionLaunchComponentState) (fault : Option String) (now : Nat)
    (hunused : Unused session.written streamGeneration) :
    SessionKept (session.launch sessionInstanceId
      (launchStateForProfile profile sessionInstanceId streamGeneration components now) fault) := by
  have hnew : ∀ other ∈ session.written, Earlier other
      (launchStateForProfile profile sessionInstanceId streamGeneration components now) :=
    fun other hother => .inl (hunused.above other hother)
  unfold Session.launch
  cases writeLaunchState fault _ sessionInstanceId with
  | error err => exact h.to_idle _
  | ok =>
    exact ⟨grow_append h.grow hnew, fun state hstate => List.mem_append_left _ (h.sent state hstate),
      positive_append h.positive hunused.positive Nat.one_pos,
      newest_append hunused.positive hunused.bounded hnew⟩

section

variable (h : SessionKept session) (hleads : Leads session.written supervisor)
include h hleads

theorem writeSnapshot_kept (fault : Option String) (now : Nat) :
    SessionKept (session.writeSnapshot sessionInstanceId supervisor fault now) := by
  unfold Session.writeSnapshot
  rcases snapshot_run now supervisor with ⟨hbound, hrun⟩ | ⟨-, err, hrun⟩
  · have hnumbered : Leads session.written supervisor.numbered := hleads.move rfl (Nat.le_succ _)
    have hnew : ∀ other ∈ session.written, Earlier other (supervisor.numbered.launchState now) := by
      intro other hother
      rcases hleads.upTo other hother with hold | ⟨hsame, hle⟩
      · exact .inl hold
      · exact .inr ⟨hsame, Nat.lt_succ_of_le hle⟩
    rw [hrun]
    dsimp only
    cases writeLaunchState fault (supervisor.numbered.launchState now) sessionInstanceId with
    | error err => exact h.to_managing hnumbered
    | ok =>
      refine ⟨grow_append h.grow hnew,
        fun state hstate => List.mem_append_left _ (h.sent state hstate),
        positive_append h.positive hleads.positive (Nat.succ_pos _),
        ⟨hleads.positive, hleads.bounded, fun state hstate => ?_⟩,
        newest_append hleads.positive hleads.bounded hnew⟩
      rcases List.mem_append.mp hstate with hold | hlast
      · exact hnumbered.upTo state hold
      · rw [List.mem_singleton.mp hlast]
        exact .inr ⟨rfl, le_refl _⟩
  · rw [hrun]
    exact h.to_managing hleads

theorem persistSnapshot_kept (hnewest : Newest session.written state) (fault : Option String)
    (now : UInt64) :
    SessionKept (session.persistSnapshot sessionInstanceId supervisor state fault now) := by
  unfold Session.persistSnapshot
  dsimp only
  cases (persistSessionAuthorityState fault (authorityOf state sessionInstanceId now)
    sessionInstanceId session.authority).1 with
  | error err => exact ⟨h.grow, h.sent, h.positive, hleads⟩
  | ok => exact ⟨h.grow, h.sent, h.positive, hleads, hnewest⟩

theorem notify_kept (hnewest : Newest session.written state) (acknowledged : Bool) :
    SessionKept (session.notify supervisor state acknowledged) := by
  refine ⟨h.grow, fun other hother => ?_, h.positive, ?_⟩
  · rcases List.mem_append.mp hother with hold | hlast
    · exact h.sent other hold
    · rw [List.mem_singleton.mp hlast]
      exact hnewest.mem
  · change Leads session.written (if acknowledged then _ else _)
    split_ifs
    · exact hleads.move rfl (le_refl _)
    · exact hleads

end

/-- A switch takes the next generation or leaves the numbers as they are. -/
theorem switchTo_leads (h : Leads written supervisor) (stage : StageSurroundings)
    (profile : DesktopProfile) :
    Leads written (afterwards (switchTo stage (pure ()) profile supervisor)) := by
  change Leads written (afterwards ((match usizeChecked (supervisor.streamGeneration + 1) with
    | none => _ | some nextGeneration => _ : SupervisorM Unit) _))
  cases hchecked : usizeChecked (supervisor.streamGeneration + 1) with
  | none => exact h.move rfl (le_refl _)
  | some next =>
    obtain ⟨hbound, rfl⟩ := usizeChecked_eq_some.mp hchecked
    refine ⟨Nat.succ_pos _, hbound, fun state hstate => .inl ?_⟩
    change state.generation < supervisor.streamGeneration + 1
    have hup := h.upTo state hstate
    omega

end

theorem sessionRuns_kept {fromText : AuthorityFromText}
    (h : (sessionRuns fromText path sessionInstanceId).Reach (LoadsRecorded fromText) session) :
    SessionKept session := by
  refine h.invariant ?_ ?_
  · rintro session ⟨hidle, hwritten, hsent⟩
    refine ⟨hwritten ▸ List.Pairwise.nil, fun state hstate => ?_, fun state hstate => ?_,
      hidle ▸ trivial⟩
    · rw [hsent] at hstate
      cases hstate
    · rw [hwritten] at hstate
      cases hstate
  · intro session event hkept hrecorded
    have hahead := hkept.ahead
    cases event with
    | bootstrap profile profiles resolve =>
      cases hprocess : session.process with
      | idle =>
        simp only [sessionRuns, hprocess]
        exact bootstrap_kept path hkept (hrecorded (.inl ⟨_, _, _, rfl⟩)) profile profiles resolve
      | _ =>
        simp only [sessionRuns, hprocess]
        exact hkept
    | loadGeneration =>
      cases hprocess : session.process with
      | idle =>
        simp only [sessionRuns, hprocess]
        exact loadGeneration_kept path hkept (hrecorded (.inr rfl))
      | _ =>
        simp only [sessionRuns, hprocess]
        exact hkept
    | launch profile components fault now =>
      cases hprocess : session.process with
      | launching streamGeneration =>
        simp only [sessionRuns, hprocess]
        rw [hprocess] at hahead
        exact launch_kept hkept profile components fault now hahead
      | _ =>
        simp only [sessionRuns, hprocess]
        exact hkept
    | persistAuthority fault now =>
      cases hprocess : session.process with
      | launched state =>
        simp only [sessionRuns, hprocess]
        exact hkept.to_idle _
      | snapshotWritten supervisor state =>
        simp only [sessionRuns, hprocess]
        rw [hprocess] at hahead
        exact persistSnapshot_kept hkept hahead.1 hahead.2 fault now
      | _ =>
        simp only [sessionRuns, hprocess]
        exact hkept
    | act activity =>
      cases hprocess : session.process with
      | managing supervisor =>
        simp only [sessionRuns, hprocess]
        rw [hprocess] at hahead
        exact hkept.to_managing (hahead.move rfl (le_refl _))
      | _ =>
        simp only [sessionRuns, hprocess]
        exact hkept
    | writeSnapshot fault now =>
      cases hprocess : session.process with
      | managing supervisor =>
        simp only [sessionRuns, hprocess]
        rw [hprocess] at hahead
        exact writeSnapshot_kept hkept hahead fault now
      | _ =>
        simp only [sessionRuns, hprocess]
        exact hkept
    | notify acknowledged =>
      cases hprocess : session.process with
      | snapshotRecorded supervisor state =>
        simp only [sessionRuns, hprocess]
        rw [hprocess] at hahead
        exact notify_kept hkept hahead.1 hahead.2 acknowledged
      | _ =>
        simp only [sessionRuns, hprocess]
        exact hkept
    | finishSnapshot =>
      cases hprocess : session.process with
      | snapshotRecorded supervisor state =>
        simp only [sessionRuns, hprocess]
        rw [hprocess] at hahead
        exact hkept.to_managing hahead.1
      | _ =>
        simp only [sessionRuns, hprocess]
        exact hkept
    | switchTo stage profile =>
      cases hprocess : session.process with
      | managing supervisor =>
        simp only [sessionRuns, hprocess]
        rw [hprocess] at hahead
        exact hkept.to_managing (switchTo_leads hahead stage profile)
      | _ =>
        simp only [sessionRuns, hprocess]
        exact hkept
    | crash => exact hkept.to_idle _

theorem SessionKept.versioned (h : SessionKept session) : Versioned session := by
  refine ⟨h.grow, fun state hstate state' hstate' hgeneration hsequence => ?_⟩
  have hall : ∀ other ∈ session.written ++ session.sent, other ∈ session.written := by
    intro other hother
    rcases List.mem_append.mp hother with hwritten | hsent
    · exact hwritten
    · exact h.sent other hsent
  have hpairs : session.written.Pairwise fun a b =>
      a.generation = b.generation → a.sequence = b.sequence → a = b :=
    h.grow.imp fun hearlier hgen hseq => by
      unfold Earlier at hearlier
      omega
  have hflip : session.written.Pairwise fun a b =>
      b.generation = a.generation → b.sequence = a.sequence → b = a :=
    hpairs.imp fun hab hgen hseq => (hab hgen.symm hseq.symm).symm
  exact hpairs.forall_of_forall_of_flip (fun _ _ _ _ => rfl) hflip (hall state hstate)
    (hall state' hstate') hgeneration hsequence

/-- Whatever fails and wherever a process ends, no version is used twice as long as a
generation is loaded only when the artifact holds those of all written launch states. -/
theorem sessionRuns_versioned {fromText : AuthorityFromText} {path sessionInstanceId : String}
    {session : Session}
    (h : (sessionRuns fromText path sessionInstanceId).Reach (LoadsRecorded fromText) session) :
    Versioned session :=
  (sessionRuns_kept h).versioned

/-! When the written launch states are recorded, and what happens when they are not. -/

/-- `serde_json` reads what it wrote. -/
def RoundTrips (fromText : AuthorityFromText) : Prop :=
  ∀ state : SessionAuthorityState, fromText (state.toText ++ "\n") = .ok state

theorem readToString_bytes (state : SessionAuthorityState) :
    readToString (some state.bytes) = .ok (state.toText ++ "\n") := by
  have happend : state.bytes = utf8 (state.toText ++ "\n") := by
    simp only [SessionAuthorityState.bytes, utf8, newline, String.toUTF8_eq_toByteArray,
      String.toByteArray_append, ByteArray.data_append, Array.toList_append]
    rfl
  simp only [readToString, happend, fromUtf8_utf8]

theorem authorityOf_recorded {fromText : AuthorityFromText} (hcodec : RoundTrips fromText)
    (h : Newest written state) (sessionInstanceId : String) (now : UInt64) :
    ∀ other ∈ written,
      Recorded fromText (some (authorityOf state sessionInstanceId now).bytes) other := by
  intro other hother
  refine ⟨_, _, readToString_bytes _, hcodec _, ?_⟩
  have hbounded := h.bounded
  have hmax : u64Max = 18446744073709551615 := rfl
  have hword : (UInt64.ofNat state.generation).toNat = state.generation := by
    rw [UInt64.toNat_ofNat']
    exact Nat.mod_eq_of_lt (by omega)
  change other.generation ≤ (UInt64.ofNat state.generation).toNat
  rw [hword]
  exact h.newest other hother

/-! A parser that reads what is written, for authority states on their own. -/

namespace AuthorityText

def readState (text : List Char) : Option SessionAuthorityState := do
  let text ← Json.expect "\x7b\n  \"version\": " text
  let version := Json.readDigits text
  let text ← Json.expect ",\n  \"session_instance_id\": \"" version.2
  let session ← Json.unescape text
  let text ← Json.expect ",\n  \"active_profile_id\": \"" session.2
  let profile ← Json.unescape text
  let text ← Json.expect ",\n  \"stream_generation\": " profile.2
  let generation := Json.readDigits text
  let text ← Json.expect ",\n  \"stream_sequence\": " generation.2
  let sequence := Json.readDigits text
  let text ← Json.expect ",\n  \"unix_timestamp\": " sequence.2
  let unixTimestamp := Json.readDigits text
  return {
    version := .ofNat version.1
    sessionInstanceId := String.ofList session.1
    activeProfileId := String.ofList profile.1
    streamGeneration := .ofNat generation.1
    streamSequence := .ofNat sequence.1
    unixTimestamp := .ofNat unixTimestamp.1 }

def fromText : AuthorityFromText := fun text =>
  match readState text.toList with
  | some state => .ok state
  | none => .error "expected value at line 1 column 1"

theorem toText_toList (state : SessionAuthorityState) :
    (state.toText ++ "\n").toList =
      "\x7b\n  \"version\": ".toList ++ ((Json.nat state.version.toNat).chars ++
      (",\n  \"session_instance_id\": \"".toList ++
        (state.sessionInstanceId.toList.flatMap Json.escape ++ '"' ::
      (",\n  \"active_profile_id\": \"".toList ++
        (state.activeProfileId.toList.flatMap Json.escape ++ '"' ::
      (",\n  \"stream_generation\": ".toList ++ ((Json.nat state.streamGeneration.toNat).chars ++
      (",\n  \"stream_sequence\": ".toList ++ ((Json.nat state.streamSequence.toNat).chars ++
      (",\n  \"unix_timestamp\": ".toList ++ ((Json.nat state.unixTimestamp.toNat).chars ++
        "\n\x7d\n".toList))))))))))) := by
  have hversion : Json.quoted "version" = "\"version\"".toList := by decide
  have hsession : Json.quoted "session_instance_id" = "\"session_instance_id\"".toList := by
    decide
  have hprofile : Json.quoted "active_profile_id" = "\"active_profile_id\"".toList := by
    decide
  have hgeneration : Json.quoted "stream_generation" = "\"stream_generation\"".toList := by
    decide
  have hsequence : Json.quoted "stream_sequence" = "\"stream_sequence\"".toList := by decide
  have htimestamp : Json.quoted "unix_timestamp" = "\"unix_timestamp\"".toList := by decide
  have htext : ∀ text : String, (Json.text text).chars =
      '"' :: (text.toList.flatMap Json.escape ++ ['"']) := by
    intro text
    rw [Json.chars]
    rfl
  simp [SessionAuthorityState.toText, Json.pretty, Json.prettyField, List.intercalate, hversion,
    hsession, hprofile, hgeneration, hsequence, htimestamp, htext]

theorem fromText_roundTrips : RoundTrips fromText := by
  intro state
  rw [fromText, toText_toList, readState]
  have hlast := Json.readDigits_before state.unixTimestamp.toNat "\n\x7d\n" [] (by decide)
  rw [List.append_nil] at hlast
  simp only [Json.expect_append, Option.bind_eq_bind, Option.bind_some,
    Json.readDigits_before state.version.toNat ",\n  \"session_instance_id\": \"" _ (by decide),
    Json.unescape_quoted,
    Json.readDigits_before state.streamGeneration.toNat ",\n  \"stream_sequence\": " _ (by decide),
    Json.readDigits_before state.streamSequence.toNat ",\n  \"unix_timestamp\": " _ (by decide),
    hlast]
  simp

end AuthorityText

/-- The runs of one session, from no artifact at all. -/
abbrev seatRuns : System Session SessionEvent :=
  sessionRuns AuthorityText.fromText "/run/user/1000/waybroker/sessiond-state-seat-0.json" "seat-0"

def started : SessionEvent := .bootstrap soleProfile [soleProfile] installed

/-- A snapshot from its start to its answer, and then the end of the process. -/
def wholeSnapshot : List SessionEvent :=
  [started, .writeSnapshot none 10, .persistAuthority none 10, .notify true, .crash]

theorem secondProcess_versioned : Versioned
    (seatRuns.next (seatRuns.next (seatRuns.run ⟨none, .idle, [], []⟩ wholeSnapshot) started)
      (.writeSnapshot none 20)) := by
  have hquiet : ∀ session : Session, session.written = [] →
      LoadsRecorded AuthorityText.fromText session started := by
    intro session hwritten _ state hstate
    rw [hwritten] at hstate
    cases hstate
  have hother : ∀ (session : Session) (event : SessionEvent),
      (∀ profile profiles resolve, event ≠ .bootstrap profile profiles resolve) →
      event ≠ .loadGeneration → LoadsRecorded AuthorityText.fromText session event := by
    rintro session event hnot hload (⟨profile, profiles, resolve, rfl⟩ | rfl)
    · exact absurd rfl (hnot profile profiles resolve)
    · exact absurd rfl hload
  have hreach : seatRuns.Reach (LoadsRecorded AuthorityText.fromText)
      (seatRuns.run ⟨none, .idle, [], []⟩ wholeSnapshot) :=
    (((((System.Reach.init (by exact ⟨rfl, rfl, rfl⟩)).next started (hquiet _ rfl)).next
      (.writeSnapshot none 10) (hother _ _ (by simp) (by simp))).next
      (.persistAuthority none 10) (hother _ _ (by simp) (by simp))).next
      (.notify true) (hother _ _ (by simp) (by simp))).next .crash
      (hother _ _ (by simp) (by simp))
  have hnewest : Newest (seatRuns.run ⟨none, .idle, [], []⟩ wholeSnapshot).written
      ((SessionSupervisor.new soleProfile [soleProfile] "seat-0" 1 installed).numbered.launchState
        10) :=
    ⟨List.mem_cons_self, (by decide), (by decide), (by decide +kernel)⟩
  have hauthority : (seatRuns.run ⟨none, .idle, [], []⟩ wholeSnapshot).authority =
      some (authorityOf ((SessionSupervisor.new soleProfile [soleProfile] "seat-0" 1
        installed).numbered.launchState 10) "seat-0" 10).bytes := by
    decide +kernel
  have hrecorded := authorityOf_recorded AuthorityText.fromText_roundTrips hnewest "seat-0" 10
  rw [← hauthority] at hrecorded
  have hloads : LoadsRecorded AuthorityText.fromText
      (seatRuns.run ⟨none, .idle, [], []⟩ wholeSnapshot) started := fun _ => hrecorded
  have hsecond := hreach.next started hloads
  have hthird := hsecond.next (.writeSnapshot none 20) (hother _ _ (by simp) (by simp))
  exact sessionRuns_versioned hthird

/-- The first process ends after its launch state and before its authority state; the second
one starts with the same generation. -/
theorem earlyCrash_not_versioned : ∃ session, seatRuns.Reachable session ∧ ¬ Versioned session := by
  have hinit : seatRuns.Reachable ⟨none, .idle, [], []⟩ := .init ⟨rfl, rfl, rfl⟩
  refine ⟨_, hinit.run [started, .act (doing 0), .writeSnapshot none 10, .crash, started,
    .act (doing 1), .writeSnapshot none 20], fun h => ?_⟩
  have hreused : ∃ state ∈ (seatRuns.run ⟨none, .idle, [], []⟩ [started, .act (doing 0),
      .writeSnapshot none 10, .crash, started, .act (doing 1), .writeSnapshot none 20]).written,
      ∃ state' ∈ (seatRuns.run ⟨none, .idle, [], []⟩ [started, .act (doing 0),
        .writeSnapshot none 10, .crash, started, .act (doing 1), .writeSnapshot none 20]).written,
      state.generation = state'.generation ∧ state.sequence = state'.sequence ∧
        state ≠ state' := by
    decide +kernel
  obtain ⟨state, hstate, state', hstate', hgeneration, hsequence, hne⟩ := hreused
  exact hne (h.unique state (List.mem_append_left _ hstate) state'
    (List.mem_append_left _ hstate') hgeneration hsequence)

end TuffXwin.Sessiond
