import TuffXwin.Common.Artifacts
import TuffXwin.Lib.Outcome
import TuffXwin.Lib.Reach

/-! The lock state and its record. The record is replaced by one rename, so a fault on the way
leaves the old one. A file that cannot be read as text ends the start instead of locking the
screen; every other file leads to a state whose record is on disk. -/

namespace TuffXwin.Lockd
open Lib

variable {message : String} {α : Type}

inductive LockState
  | locked | unlocked | blankOnly
  deriving DecidableEq, Repr

def LockState.toJson : LockState → Json
  | .locked => .text "locked"
  | .unlocked => .text "unlocked"
  | .blankOnly => .text "blank-only"

def lockStateArtifactVersion : UInt32 := 1

structure PersistedLockState where
  version : UInt32
  sessionInstanceId : String
  state : LockState
  generation : UInt64
  unixTimestamp : UInt64
  deriving DecidableEq, Repr

variable {record : PersistedLockState}

/-- `serde_json::to_vec_pretty`. -/
def PersistedLockState.toText (record : PersistedLockState) : String :=
  Json.pretty [
    ("version", .nat record.version.toNat),
    ("session_instance_id", .text record.sessionInstanceId),
    ("state", record.state.toJson),
    ("generation", .nat record.generation.toNat),
    ("unix_timestamp", .nat record.unixTimestamp.toNat)]

/-- What the file of a record holds. -/
def PersistedLockState.bytes (record : PersistedLockState) : List UInt8 :=
  utf8 record.toText ++ [newline]

/-- The file of the record, and the temporary file of the last attempt. -/
structure Disk where
  state : Option (List UInt8) := none
  temp : Option (List UInt8) := none
  deriving DecidableEq, Repr

variable {disk : Disk} {E : String → Disk → Prop} {Q : Unit → Disk → Prop}

def Disk.append (disk : Disk) (bytes : List UInt8) : Disk :=
  { disk with temp := disk.temp.map (· ++ bytes) }

structure StatePath where
  path : String
  parent : String

variable {place : StatePath}

inductive PersistStep
  | parent | parentExists | fileName | serialize | create | write | terminate | sync | rename
  deriving DecidableEq, Repr

variable {step : PersistStep}

/-- An attempt to persist: its time, where it writes, and the step that fails, with the bytes
written before that and whether the temporary file can be removed after it. -/
structure PersistAttempt where
  now : UInt64
  tempPath : String
  fault : Option PersistStep := none
  cause : String := ""
  written : Nat := 0
  removes : Bool := true
  deriving DecidableEq, Repr

variable {attempt : PersistAttempt}

abbrev LockM := EStateM String Disk

namespace PersistAttempt

variable (attempt : PersistAttempt)

def caused (context : String) : String := context ++ ": " ++ attempt.cause

def check (step : PersistStep) (message : String) : LockM Unit :=
  if attempt.fault = some step then throw message else pure ()

def writeAll (step : PersistStep) (bytes : List UInt8) (message : String) : LockM Unit := do
  modify fun disk =>
    disk.append (if attempt.fault = some step then bytes.take attempt.written else bytes)
  attempt.check step message

def removeTemp : LockM Unit :=
  modify fun disk => if attempt.removes then { disk with temp := none } else disk

def replaceState (place : StatePath) (encoded : List UInt8) : LockM Unit := do
  attempt.check .create (attempt.caused ("failed to create " ++ attempt.tempPath))
  modify fun disk => { disk with temp := some [] }
  attempt.writeAll .write encoded (attempt.caused ("failed to write " ++ attempt.tempPath))
  attempt.writeAll .terminate [newline]
    (attempt.caused ("failed to terminate " ++ attempt.tempPath))
  attempt.check .sync (attempt.caused ("failed to sync " ++ attempt.tempPath))
  attempt.check .rename
    (attempt.caused ("failed to atomically replace lock state " ++ place.path))
  modify fun disk => ⟨disk.temp, none⟩

end PersistAttempt

def persistLockState (place : StatePath) (attempt : PersistAttempt)
    (snapshot : PersistedLockState) : LockM Unit := do
  attempt.check .parent "lock state artifact has no parent directory"
  attempt.check .parentExists
    ("lock state artifact parent does not exist: " ++ place.parent)
  attempt.check .fileName "lock state artifact filename is not valid UTF-8"
  attempt.check .serialize (attempt.caused "failed to serialize persistent lock state")
  tryCatch (attempt.replaceState place (utf8 snapshot.toText)) fun err => do
    attempt.removeTemp
    throw err

structure LockRuntimeState where
  persisted : PersistedLockState
  deriving DecidableEq, Repr

namespace LockRuntimeState

def fresh (sessionInstanceId : String) (state : LockState) (now : UInt64) : LockRuntimeState :=
  ⟨{ version := lockStateArtifactVersion
     sessionInstanceId
     state
     generation := 1
     unixTimestamp := now }⟩

def state (runtime : LockRuntimeState) : LockState := runtime.persisted.state

def generation (runtime : LockRuntimeState) : UInt64 := runtime.persisted.generation

def sessionInstanceId (runtime : LockRuntimeState) : String :=
  runtime.persisted.sessionInstanceId

end LockRuntimeState

inductive StartupState
  | fresh | recovered | failClosed (reason : String)
  deriving DecidableEq, Repr

/-- `serde_json::from_str` for records: the record, or what is wrong with the text. -/
abbrev FromText := String → Except String PersistedLockState

def PersistedLockState.metadataReason (snapshot : PersistedLockState) : String :=
  "invalid persisted lock state metadata version=" ++ toString snapshot.version ++
    " session_instance_id=" ++ snapshot.sessionInstanceId ++
    " generation=" ++ toString snapshot.generation

def blankAndPersist (place : StatePath) (attempt : PersistAttempt) (sessionInstanceId : String)
    (reason : String) : LockM (LockRuntimeState × StartupState) := do
  let runtime := LockRuntimeState.fresh sessionInstanceId .blankOnly attempt.now
  persistLockState place attempt runtime.persisted
  return (runtime, .failClosed reason)

/-- The record is one of this version and session with a positive generation. -/
def PersistedLockState.Usable (snapshot : PersistedLockState) (sessionInstanceId : String) :
    Prop :=
  snapshot.version = lockStateArtifactVersion ∧
    snapshot.sessionInstanceId = sessionInstanceId ∧ 0 < snapshot.generation

instance (snapshot : PersistedLockState) (sessionInstanceId : String) :
    Decidable (snapshot.Usable sessionInstanceId) :=
  inferInstanceAs (Decidable (_ ∧ _ ∧ _))

def loadOrInitializeLockState (fromText : FromText) (place : StatePath)
    (attempt : PersistAttempt) (sessionInstanceId : String) :
    LockM (LockRuntimeState × StartupState) := do
  let disk ← get
  match readToString disk.state with
  | .ok raw =>
    match fromText raw with
    | .ok snapshot =>
      if snapshot.Usable sessionInstanceId then
        return (⟨snapshot⟩, .recovered)
      else
        blankAndPersist place attempt sessionInstanceId snapshot.metadataReason
    | .error err =>
      blankAndPersist place attempt sessionInstanceId
        ("failed to decode persisted lock state: " ++ err)
  | .error .notFound => do
    let runtime := LockRuntimeState.fresh sessionInstanceId .unlocked attempt.now
    persistLockState place attempt runtime.persisted
    return (runtime, .fresh)
  | .error .invalidData =>
    throw ("failed to read lock state " ++ place.path ++
      ": stream did not contain valid UTF-8")

inductive LockCommand
  | setLockState (state : LockState)
  | authPrompt (reason : String)
  | getState
  | state (state : LockState) (generation : UInt64) (sessionInstanceId : String)
  | rejected (reason : String)
  deriving DecidableEq, Repr

/-- Messages to other services are shown in a reason and nothing else. -/
inductive MessageKind
  | lockCommand (command : LockCommand)
  | other (debug : String)
  deriving DecidableEq, Repr

structure IpcEnvelope where
  source : ServiceRole
  destination : ServiceRole
  kind : MessageKind
  deriving DecidableEq, Repr

structure Config where
  failResume : Bool := false
  sessionInstanceId : String

variable {config : Config}

/-- The service between requests. -/
structure Service where
  runtime : LockRuntimeState
  disk : Disk
  deriving DecidableEq, Repr

variable {service : Service}

/-- `checked_add(1)` on a generation. -/
def nextGeneration (generation : UInt64) : Option UInt64 :=
  if generation.toNat < u64Max then some (generation + 1) else none

def onDisk {α : Type} (m : LockM α) : EStateM String Service α := fun service =>
  match m service.disk with
  | .ok a disk => .ok a { service with disk }
  | .error err disk => .error err { service with disk }

def transition (place : StatePath) (attempt : PersistAttempt) (state : LockState) :
    EStateM String Service Bool := do
  let service ← get
  if service.runtime.state = state then
    return false
  else
    match nextGeneration service.runtime.generation with
    | none => throw "lock state generation exhausted"
    | some generation => do
      let next : PersistedLockState :=
        { version := lockStateArtifactVersion
          sessionInstanceId := service.runtime.sessionInstanceId
          state
          generation
          unixTimestamp := attempt.now }
      onDisk (persistLockState place attempt next)
      modify fun service => { service with runtime := ⟨next⟩ }
      return true

def isControlSource (source : ServiceRole) : Bool := source = .sessiond

def isStatusSource (source : ServiceRole) : Bool := source = .sessiond ∨ source = .watchdog

def envelope (source : ServiceRole) (command : LockCommand) : IpcEnvelope :=
  ⟨.lockd, source, .lockCommand command⟩

def reject (source : ServiceRole) (reason : String) : IpcEnvelope :=
  envelope source (.rejected reason)

def setLockState (config : Config) (place : StatePath) (attempt : PersistAttempt)
    (source : ServiceRole) (state : LockState) (service : Service) : LockCommand × Service :=
  if isControlSource source = false then
    (.rejected (source.asStr ++ " is not authorized to change lock state"), service)
  else if config.failResume then
    (.rejected "fault injection", service)
  else
    match transition place attempt state service with
    | .ok _ service => (.setLockState state, service)
    | .error err service => (.rejected ("failed to persist lock state: " ++ err), service)

def authPrompt (config : Config) (source : ServiceRole) (reason : String)
    (runtime : LockRuntimeState) : LockCommand :=
  if isControlSource source = false then
    .rejected (source.asStr ++ " is not authorized to request auth UI")
  else if config.failResume then
    .rejected "fault injection"
  else if runtime.state = .unlocked then
    .rejected "auth prompt requires locked or blank-only state"
  else
    .authPrompt reason

def getState (source : ServiceRole) (runtime : LockRuntimeState) : LockCommand :=
  if isStatusSource source = false then
    .rejected (source.asStr ++ " is not authorized to query lock state")
  else
    .state runtime.state runtime.generation runtime.sessionInstanceId

def buildResponse (config : Config) (place : StatePath) (attempt : PersistAttempt)
    (request : IpcEnvelope) (service : Service) : IpcEnvelope × Service :=
  let source := request.source
  if request.destination ≠ .lockd then
    (reject source ("lockd received message addressed to " ++ request.destination.asStr), service)
  else
    match request.kind with
    | .lockCommand (.setLockState state) =>
      let answer := setLockState config place attempt source state service
      (envelope source answer.1, answer.2)
    | .lockCommand (.authPrompt reason) =>
      (envelope source (authPrompt config source reason service.runtime), service)
    | .lockCommand .getState => (envelope source (getState source service.runtime), service)
    | .lockCommand (.state _ _ _) | .lockCommand (.rejected _) =>
      (reject source "lockd does not accept response-only lock commands", service)
    | .other debug => (reject source ("lockd does not handle " ++ debug), service)

/-! What persisting does: the file of the record is replaced, or a step failed and the file
is the old one. -/

/-- A fault is one the attempt has, and leaves the file of the record. -/
def PersistAttempt.Leaves (attempt : PersistAttempt) (disk : Disk) (_ : String) (disk' : Disk) :
    Prop :=
  attempt.fault ≠ none ∧ disk'.state = disk.state

theorem PersistAttempt.ends_check :
    Ends E (attempt.check step message) disk Q ↔
      (attempt.fault = some step → E message disk) ∧
        (attempt.fault ≠ some step → Q () disk) := by
  rw [PersistAttempt.check, ends_ite, ends_throw, ends_pure]

theorem PersistAttempt.ends_writeAll {bytes : List UInt8} :
    Ends E (attempt.writeAll step bytes message) disk Q ↔
      (attempt.fault = some step → E message (disk.append (bytes.take attempt.written))) ∧
        (attempt.fault ≠ some step → Q () (disk.append bytes)) := by
  rw [PersistAttempt.writeAll, ends_bind, ends_modify, ends_check]
  constructor
  · rintro ⟨hfault, hdone⟩
    refine ⟨fun h => ?_, fun h => ?_⟩
    · simpa only [if_pos h] using hfault h
    · simpa only [if_neg h] using hdone h
  · rintro ⟨hfault, hdone⟩
    refine ⟨fun h => ?_, fun h => ?_⟩
    · simpa only [if_pos h] using hfault h
    · simpa only [if_neg h] using hdone h

theorem PersistAttempt.replaceState_ends (attempt : PersistAttempt) (place : StatePath)
    (encoded : List UInt8) (disk : Disk) :
    Ends (attempt.Leaves disk) (attempt.replaceState place encoded) disk fun _ disk' =>
      disk'.state = some (encoded ++ [newline]) := by
  simp only [PersistAttempt.replaceState, ends_bind, ends_check, ends_writeAll, ends_modify,
    PersistAttempt.Leaves, Disk.append, Option.map_some, List.nil_append]
  refine ⟨?_, fun _ => ⟨?_, fun _ => ⟨?_, fun _ => ⟨?_, fun _ => ⟨?_, fun _ => trivial⟩⟩⟩⟩⟩ <;>
    exact fun h => ⟨by simp [h], trivial⟩

theorem persistLockState_ends (place : StatePath) (attempt : PersistAttempt)
    (snapshot : PersistedLockState) (disk : Disk) :
    Ends (attempt.Leaves disk) (persistLockState place attempt snapshot) disk fun _ disk' =>
      disk'.state = some snapshot.bytes := by
  have hfails : ∀ {step : PersistStep}, attempt.fault = some step → attempt.fault ≠ none := by
    intro step h
    simp [h]
  simp only [persistLockState, ends_bind, PersistAttempt.ends_check, ends_tryCatch]
  refine ⟨fun h => ⟨hfails h, rfl⟩, fun _ => ⟨fun h => ⟨hfails h, rfl⟩, fun _ =>
    ⟨fun h => ⟨hfails h, rfl⟩, fun _ => ⟨fun h => ⟨hfails h, rfl⟩, fun _ => ?_⟩⟩⟩⟩
  refine (attempt.replaceState_ends place (utf8 snapshot.toText) disk).mono_error ?_
  rintro err disk' ⟨hfault, hstate⟩
  rw [PersistAttempt.removeTemp, ends_modify, ends_throw]
  refine ⟨hfault, ?_⟩
  split_ifs
  · exact hstate
  · exact hstate

/-! What a request does. -/

theorem onDisk_ends {E : String → Service → Prop} {m : LockM α} {Q : α → Service → Prop} :
    Ends E (onDisk m) service Q ↔
      Ends (fun err disk => E err { service with disk }) m service.disk
        fun a disk => Q a { service with disk } := by
  unfold Ends onDisk
  cases m service.disk <;> exact Iff.rfl

theorem nextGeneration_toNat {generation next : UInt64}
    (h : nextGeneration generation = some next) : next.toNat = generation.toNat + 1 := by
  unfold nextGeneration at h
  split_ifs at h with hlt
  have hmax : u64Max = 18446744073709551615 := rfl
  obtain rfl := Option.some.inj h
  rw [UInt64.toNat_add]
  have hone : (1 : UInt64).toNat = 1 := rfl
  omega

/-- The state and its record are what they were. -/
def Service.Unchanged (service service' : Service) : Prop :=
  service'.runtime = service.runtime ∧ service'.disk.state = service.disk.state

/-- The state is another one of the next generation, and so is the record. -/
structure Service.Moved (service : Service) (state : LockState) (service' : Service) : Prop where
  other : service.runtime.state ≠ state
  state : service'.runtime.state = state
  generation :
    service'.runtime.generation.toNat = service.runtime.generation.toNat + 1
  version : service'.runtime.persisted.version = lockStateArtifactVersion
  session : service'.runtime.sessionInstanceId = service.runtime.sessionInstanceId
  persisted : service'.disk.state = some service'.runtime.persisted.bytes

theorem transition_ends (place : StatePath) (attempt : PersistAttempt) (state : LockState)
    (service : Service) :
    Ends (fun _ service' => service.Unchanged service') (transition place attempt state) service
      fun changed service' =>
        if changed then service.Moved state service' else service' = service := by
  rw [transition, ends_bind, ends_get, ends_ite]
  refine ⟨fun _ => by simp, fun hother => ?_⟩
  cases hnext : nextGeneration service.runtime.generation with
  | none => exact ⟨rfl, rfl⟩
  | some generation =>
    rw [ends_bind, onDisk_ends]
    refine ((persistLockState_ends place attempt _ service.disk).mono_error
      fun err disk h => ?_).mono fun _ disk hdisk => ?_
    · exact ⟨rfl, h.2⟩
    · rw [ends_bind, ends_modify, ends_pure, if_pos rfl]
      exact
        { other := hother
          state := rfl
          generation := nextGeneration_toNat hnext
          version := rfl
          session := rfl
          persisted := hdisk }

/-- What a request may do: nothing, or the move that `sessiond` asked for. -/
theorem buildResponse_unchanged_or_moved (config : Config) (place : StatePath)
    (attempt : PersistAttempt) (request : IpcEnvelope) (service : Service) :
    service.Unchanged (buildResponse config place attempt request service).2 ∨
      ∃ state, request = ⟨.sessiond, .lockd, .lockCommand (.setLockState state)⟩ ∧
        (buildResponse config place attempt request service).1 =
          envelope .sessiond (.setLockState state) ∧
        service.Moved state (buildResponse config place attempt request service).2 := by
  obtain ⟨source, destination, kind⟩ := request
  have hsame : service.Unchanged service := ⟨rfl, rfl⟩
  unfold buildResponse
  dsimp only
  split_ifs with hdestination
  · exact .inl hsame
  have hlockd : destination = .lockd := not_not.mp hdestination
  cases kind with
  | other => exact .inl hsame
  | lockCommand command =>
    cases command with
    | authPrompt => exact .inl hsame
    | getState => exact .inl hsame
    | state => exact .inl hsame
    | rejected => exact .inl hsame
    | setLockState state =>
      dsimp only [setLockState]
      split_ifs with hsource hfail
      · exact .inl hsame
      · exact .inl hsame
      have hsessiond : source = .sessiond := by simpa [isControlSource] using hsource
      have hends := transition_ends place attempt state service
      cases hrun : transition place attempt state service with
      | error err service' => exact .inl (hends.error hrun)
      | ok changed service' =>
        have hdone := hends.ok hrun
        cases changed with
        | false =>
          rw [if_neg (by simp)] at hdone
          exact .inl (hdone ▸ hsame)
        | true =>
          rw [if_pos rfl] at hdone
          exact .inr ⟨state, by rw [hlockd, hsessiond], by rw [hsessiond], hdone⟩

/-! The record that a file holds, and the runs of the service from a file. -/

/-- `serde_json` reads what it wrote. -/
def RoundTrips (fromText : FromText) : Prop :=
  ∀ record : PersistedLockState, fromText (record.toText ++ "\n") = .ok record

/-! A parser that reads what is written, for records on their own. -/

namespace RecordText

def readState (name : List Char) : Option LockState :=
  if name = "locked".toList then some .locked
  else if name = "unlocked".toList then some .unlocked
  else if name = "blank-only".toList then some .blankOnly
  else none

def readRecord (text : List Char) : Option PersistedLockState := do
  let text ← Json.expect "\x7b\n  \"version\": " text
  let version := Json.readDigits text
  let text ← Json.expect ",\n  \"session_instance_id\": \"" version.2
  let session ← Json.unescape text
  let text ← Json.expect ",\n  \"state\": \"" session.2
  let name ← Json.unescape text
  let state ← readState name.1
  let text ← Json.expect ",\n  \"generation\": " name.2
  let generation := Json.readDigits text
  let text ← Json.expect ",\n  \"unix_timestamp\": " generation.2
  let unixTimestamp := Json.readDigits text
  return {
    version := .ofNat version.1
    sessionInstanceId := String.ofList session.1
    state
    generation := .ofNat generation.1
    unixTimestamp := .ofNat unixTimestamp.1 }

def fromText : FromText := fun text =>
  match readRecord text.toList with
  | some record => .ok record
  | none => .error "expected value at line 1 column 1"

def stateName : LockState → String
  | .locked => "locked"
  | .unlocked => "unlocked"
  | .blankOnly => "blank-only"

theorem state_chars (state : LockState) :
    state.toJson.chars = '"' :: ((stateName state).toList.flatMap Json.escape ++ ['"']) := by
  cases state <;> rfl

theorem readState_name (state : LockState) :
    readState (stateName state).toList = some state := by
  cases state <;> rfl

theorem toText_toList (record : PersistedLockState) :
    (record.toText ++ "\n").toList =
      "\x7b\n  \"version\": ".toList ++ ((Json.nat record.version.toNat).chars ++
      (",\n  \"session_instance_id\": \"".toList ++
        (record.sessionInstanceId.toList.flatMap Json.escape ++ '"' ::
      (",\n  \"state\": \"".toList ++
        ((stateName record.state).toList.flatMap Json.escape ++ '"' ::
      (",\n  \"generation\": ".toList ++ ((Json.nat record.generation.toNat).chars ++
      (",\n  \"unix_timestamp\": ".toList ++ ((Json.nat record.unixTimestamp.toNat).chars ++
        "\n\x7d\n".toList))))))))) := by
  have hversion : Json.quoted "version" = "\"version\"".toList := by decide
  have hsession : Json.quoted "session_instance_id" = "\"session_instance_id\"".toList := by
    decide
  have hstate : Json.quoted "state" = "\"state\"".toList := by decide
  have hgeneration : Json.quoted "generation" = "\"generation\"".toList := by decide
  have htimestamp : Json.quoted "unix_timestamp" = "\"unix_timestamp\"".toList := by decide
  have hid : (Json.text record.sessionInstanceId).chars =
      '"' :: (record.sessionInstanceId.toList.flatMap Json.escape ++ ['"']) := by
    rw [Json.chars]
    rfl
  simp [PersistedLockState.toText, Json.pretty, Json.prettyField, List.intercalate, hversion,
    hsession, hstate, hgeneration, htimestamp, state_chars, hid]

theorem fromText_roundTrips : RoundTrips fromText := by
  intro record
  rw [fromText, toText_toList, readRecord]
  have hlast := Json.readDigits_before record.unixTimestamp.toNat "\n\x7d\n" [] (by decide)
  rw [List.append_nil] at hlast
  simp only [Json.expect_append, Option.bind_eq_bind, Option.bind_some,
    Json.readDigits_before record.version.toNat ",\n  \"session_instance_id\": \"" _ (by decide),
    Json.unescape_quoted, readState_name,
    Json.readDigits_before record.generation.toNat ",\n  \"unix_timestamp\": " _ (by decide), hlast]
  simp

end RecordText

/-- The valid record for the session in a file. -/
def recorded (fromText : FromText) (sessionInstanceId : String) (state : Option (List UInt8)) :
    Option PersistedLockState :=
  match readToString state with
  | .ok raw =>
    match fromText raw with
    | .ok snapshot => if snapshot.Usable sessionInstanceId then some snapshot else none
    | .error _ => none
  | .error _ => none

theorem fromUtf8_bytes (record : PersistedLockState) :
    fromUtf8 record.bytes = some (record.toText ++ "\n") := by
  have happend : record.bytes = utf8 (record.toText ++ "\n") := by
    simp only [PersistedLockState.bytes, utf8, newline, String.toUTF8_eq_toByteArray,
      String.toByteArray_append, ByteArray.data_append, Array.toList_append]
    rfl
  rw [happend, fromUtf8_utf8]

theorem recorded_bytes {fromText : FromText} (hcodec : RoundTrips fromText)
    {sessionInstanceId : String} (h : record.Usable sessionInstanceId) :
    recorded fromText sessionInstanceId (some record.bytes) = some record := by
  simp only [recorded, readToString, fromUtf8_bytes, hcodec record, if_pos h]

theorem recorded_eq_some {fromText : FromText} {sessionInstanceId : String}
    {state : Option (List UInt8)} (h : recorded fromText sessionInstanceId state = some record) :
    record.Usable sessionInstanceId ∧
      ∃ raw, readToString state = .ok raw ∧ fromText raw = .ok record := by
  unfold recorded at h
  cases hraw : readToString state with
  | error kind => simp [hraw] at h
  | ok raw =>
    rw [hraw] at h
    dsimp only at h
    cases hrecord : fromText raw with
    | error err => simp [hrecord] at h
    | ok snapshot =>
      rw [hrecord] at h
      dsimp only at h
      split_ifs at h with husable
      obtain rfl := Option.some.inj h
      exact ⟨husable, raw, rfl, hrecord⟩

theorem fresh_usable (sessionInstanceId : String) (state : LockState) (now : UInt64) :
    (LockRuntimeState.fresh sessionInstanceId state now).persisted.Usable sessionInstanceId :=
  ⟨rfl, rfl, (by decide : (0 : UInt64) < 1)⟩

theorem blankAndPersist_ends (place : StatePath) (attempt : PersistAttempt)
    (sessionInstanceId reason : String) (disk : Disk) :
    Ends (attempt.Leaves disk) (blankAndPersist place attempt sessionInstanceId reason) disk
      fun started disk' =>
        started = (.fresh sessionInstanceId .blankOnly attempt.now, .failClosed reason) ∧
          disk'.state = some started.1.persisted.bytes := by
  rw [blankAndPersist, ends_bind]
  refine (persistLockState_ends place attempt _ disk).mono fun _ disk' hdisk => ?_
  rw [ends_pure]
  exact ⟨rfl, hdisk⟩

theorem loadOrInitialize_absent (fromText : FromText) (place : StatePath) (attempt : PersistAttempt)
    (sessionInstanceId : String) (h : disk.state = none) :
    Ends (attempt.Leaves disk)
      (loadOrInitializeLockState fromText place attempt sessionInstanceId) disk
      fun started disk' =>
        started = (.fresh sessionInstanceId .unlocked attempt.now, .fresh) ∧
          disk'.state = some started.1.persisted.bytes := by
  rw [loadOrInitializeLockState, ends_bind, ends_get, h]
  dsimp only [readToString]
  rw [ends_bind]
  refine (persistLockState_ends place attempt _ disk).mono fun _ disk' hdisk => ?_
  rw [ends_pure]
  exact ⟨rfl, hdisk⟩

theorem loadOrInitialize_recovered {fromText : FromText} (place : StatePath)
    (attempt : PersistAttempt) {sessionInstanceId : String}
    (h : recorded fromText sessionInstanceId disk.state = some record) :
    loadOrInitializeLockState fromText place attempt sessionInstanceId disk =
      .ok (⟨record⟩, .recovered) disk := by
  obtain ⟨husable, raw, hraw, hrecord⟩ := recorded_eq_some h
  rw [loadOrInitializeLockState, bind_get]
  simp only [hraw, hrecord, if_pos husable]
  rfl

theorem loadOrInitialize_locked {fromText : FromText} (place : StatePath) (attempt : PersistAttempt)
    {sessionInstanceId : String} {raw : String} (hraw : readToString disk.state = .ok raw)
    (h : recorded fromText sessionInstanceId disk.state = none) :
    Ends (attempt.Leaves disk)
      (loadOrInitializeLockState fromText place attempt sessionInstanceId) disk
      fun started disk' => ∃ reason,
        started = (.fresh sessionInstanceId .blankOnly attempt.now, .failClosed reason) ∧
          disk'.state = some started.1.persisted.bytes := by
  have hblank : ∀ reason, Ends (attempt.Leaves disk)
      (blankAndPersist place attempt sessionInstanceId reason) disk fun started disk' =>
        ∃ reason,
          started = (.fresh sessionInstanceId .blankOnly attempt.now, .failClosed reason) ∧
            disk'.state = some started.1.persisted.bytes := fun reason =>
    (blankAndPersist_ends place attempt sessionInstanceId reason disk).mono
      fun _ _ hdone => ⟨reason, hdone⟩
  rw [loadOrInitializeLockState, ends_bind, ends_get]
  simp only [recorded, hraw] at h ⊢
  cases hrecord : fromText raw with
  | error err => exact hblank _
  | ok snapshot =>
    have hunusable : ¬ snapshot.Usable sessionInstanceId := by
      intro husable
      simp [hrecord, husable] at h
    simp only [if_neg hunusable]
    exact hblank _

theorem loadOrInitialize_invalid (fromText : FromText) (place : StatePath)
    (attempt : PersistAttempt) (sessionInstanceId : String)
    (h : readToString disk.state = .error .invalidData) :
    loadOrInitializeLockState fromText place attempt sessionInstanceId disk =
      .error ("failed to read lock state " ++ place.path ++
        ": stream did not contain valid UTF-8") disk := by
  rw [loadOrInitializeLockState, bind_get]
  simp only [h]
  rfl

/-- The service from a start on a disk, under any requests and faults. -/
def runs (fromText : FromText) (config : Config) (place : StatePath) (disk : Disk) :
    System Service (PersistAttempt × IpcEnvelope) where
  init service := ∃ attempt startup,
    loadOrInitializeLockState fromText place attempt config.sessionInstanceId disk =
      .ok (service.runtime, startup) service.disk
  next service input := (buildResponse config place input.1 input.2 service).2

/-- The state is the recorded one. It moves as `sessiond` asks, and not when the answer is
a rejection. -/
structure Guarded (fromText : FromText) (config : Config) (place : StatePath)
    (service : Service) : Prop where
  held : recorded fromText config.sessionInstanceId service.disk.state =
    some service.runtime.persisted
  moved : ∀ attempt request,
    service.Unchanged (buildResponse config place attempt request service).2 ∨
      ∃ state, request = ⟨.sessiond, .lockd, .lockCommand (.setLockState state)⟩ ∧
        (buildResponse config place attempt request service).1 =
          envelope .sessiond (.setLockState state) ∧
        service.Moved state (buildResponse config place attempt request service).2
  rejected : ∀ attempt request reason,
    (buildResponse config place attempt request service).1.kind =
        .lockCommand (.rejected reason) →
      service.Unchanged (buildResponse config place attempt request service).2

/-- Every start leads to the recorded state or to a locked one, with its record on disk, and
the runs from it are guarded. -/
structure FailsClosed (fromText : FromText) (config : Config) (place : StatePath)
    (disk : Disk) : Prop where
  recovered : ∀ attempt record,
    recorded fromText config.sessionInstanceId disk.state = some record →
      loadOrInitializeLockState fromText place attempt config.sessionInstanceId disk =
        .ok (⟨record⟩, .recovered) disk
  absent : disk.state = none → ∀ attempt, attempt.fault = none →
    ∃ runtime disk', runtime = .fresh config.sessionInstanceId .unlocked attempt.now ∧
      loadOrInitializeLockState fromText place attempt config.sessionInstanceId disk =
        .ok (runtime, .fresh) disk' ∧
      recorded fromText config.sessionInstanceId disk'.state = some runtime.persisted
  locked : disk.state ≠ none →
    recorded fromText config.sessionInstanceId disk.state = none →
      ∀ attempt, attempt.fault = none →
        ∃ runtime reason disk',
          runtime = .fresh config.sessionInstanceId .blankOnly attempt.now ∧
          loadOrInitializeLockState fromText place attempt config.sessionInstanceId disk =
            .ok (runtime, .failClosed reason) disk' ∧
          recorded fromText config.sessionInstanceId disk'.state = some runtime.persisted
  unlocked : ∀ attempt runtime startup disk',
    loadOrInitializeLockState fromText place attempt config.sessionInstanceId disk =
        .ok (runtime, startup) disk' →
      runtime.state = .unlocked →
        disk.state = none ∨
          recorded fromText config.sessionInstanceId disk.state = some runtime.persisted
  guarded : ∀ service, (runs fromText config place disk).Reachable service →
    Guarded fromText config place service

theorem ok_of_sound {m : LockM α} {Q : α → Disk → Prop} (h : Ends (attempt.Leaves disk) m disk Q)
    (hsound : attempt.fault = none) : ∃ a disk', m disk = .ok a disk' ∧ Q a disk' := by
  rw [← ends_never]
  exact h.mono_error fun _ _ hleaves => hleaves.1 hsound

theorem guarded_of_held {fromText : FromText}
    (h : recorded fromText config.sessionInstanceId service.disk.state =
      some service.runtime.persisted) : Guarded fromText config place service := by
  refine ⟨h, fun attempt request =>
    buildResponse_unchanged_or_moved config place attempt request service, ?_⟩
  intro attempt request reason hrejected
  rcases buildResponse_unchanged_or_moved config place attempt request service with
    hsame | ⟨state, -, hanswer, -⟩
  · exact hsame
  · rw [hanswer] at hrejected
    simp [envelope] at hrejected

theorem held_next {fromText : FromText} (hcodec : RoundTrips fromText) (attempt : PersistAttempt)
    (request : IpcEnvelope) (h : recorded fromText config.sessionInstanceId service.disk.state =
      some service.runtime.persisted) :
    recorded fromText config.sessionInstanceId
        (buildResponse config place attempt request service).2.disk.state =
      some (buildResponse config place attempt request service).2.runtime.persisted := by
  rcases buildResponse_unchanged_or_moved config place attempt request service with
    hsame | ⟨state, -, -, hmoved⟩
  · rw [hsame.1, hsame.2, h]
  · have hsession := (recorded_eq_some h).1.2.1
    rw [hmoved.persisted]
    refine recorded_bytes hcodec ⟨hmoved.version, hmoved.session.trans hsession, ?_⟩
    have hgrown := hmoved.generation
    rw [LockRuntimeState.generation, LockRuntimeState.generation] at hgrown
    rw [UInt64.lt_iff_toNat_lt, hgrown]
    exact Nat.succ_pos _

theorem loadOrInitialize_held {fromText : FromText} (hcodec : RoundTrips fromText)
    {sessionInstanceId : String} {disk' : Disk} {runtime : LockRuntimeState}
    {startup : StartupState}
    (h : loadOrInitializeLockState fromText place attempt sessionInstanceId disk =
      .ok (runtime, startup) disk') :
    recorded fromText sessionInstanceId disk'.state = some runtime.persisted ∧
      (runtime.state = .unlocked → disk.state = none ∨
        recorded fromText sessionInstanceId disk.state = some runtime.persisted) := by
  cases hrecord : recorded fromText sessionInstanceId disk.state with
  | some record =>
    rw [loadOrInitialize_recovered place attempt hrecord] at h
    cases h
    exact ⟨hrecord, fun _ => .inr rfl⟩
  | none =>
    cases hread : readToString disk.state with
    | ok raw =>
      obtain ⟨reason, hstarted, hdisk⟩ :=
        (loadOrInitialize_locked place attempt hread hrecord).ok h
      cases hstarted
      rw [hdisk]
      exact ⟨recorded_bytes hcodec (fresh_usable ..), fun hstate => by cases hstate⟩
    | error kind =>
      cases kind with
      | notFound =>
        have habsent : disk.state = none := by
          unfold readToString at hread
          split at hread
          · assumption
          · split at hread <;> cases hread
        obtain ⟨hstarted, hdisk⟩ :=
          (loadOrInitialize_absent fromText place attempt sessionInstanceId habsent).ok h
        cases hstarted
        rw [hdisk]
        exact ⟨recorded_bytes hcodec (fresh_usable ..), fun _ => .inl habsent⟩
      | invalidData =>
        rw [loadOrInitialize_invalid fromText place attempt sessionInstanceId hread] at h
        cases h

theorem guarded_of_reachable {fromText : FromText} (hcodec : RoundTrips fromText)
    (h : (runs fromText config place disk).Reachable service) :
    Guarded fromText config place service := by
  refine h.invariant (fun start hstart => ?_) fun before input hguarded _ => ?_
  · obtain ⟨attempt, startup, hload⟩ := hstart
    exact guarded_of_held (loadOrInitialize_held hcodec hload).1
  · exact guarded_of_held (held_next hcodec input.1 input.2 hguarded.held)

theorem not_failsClosed_of_invalid (fromText : FromText) (config : Config) (place : StatePath)
    (hread : readToString disk.state = .error .invalidData) :
    ¬ FailsClosed fromText config place disk := by
  intro hcloses
  have hpresent : disk.state ≠ none := by
    intro habsent
    rw [habsent] at hread
    cases hread
  have hnone : recorded fromText config.sessionInstanceId disk.state = none := by
    simp only [recorded, hread]
  obtain ⟨runtime, reason, disk', -, hload, -⟩ :=
    hcloses.locked hpresent hnone ⟨0, "", none, "", 0, true⟩ rfl
  rw [loadOrInitialize_invalid fromText place _ config.sessionInstanceId hread] at hload
  cases hload

theorem failsClosed_iff {fromText : FromText} (hcodec : RoundTrips fromText) (config : Config)
    (place : StatePath) (disk : Disk) :
    FailsClosed fromText config place disk ↔
      ∀ bytes, disk.state = some bytes → (fromUtf8 bytes).isSome := by
  constructor
  · intro hcloses bytes hbytes
    by_contra hinvalid
    rw [Bool.not_eq_true] at hinvalid
    have hread : readToString disk.state = .error .invalidData :=
      hbytes ▸ readToString_invalid hinvalid
    exact not_failsClosed_of_invalid fromText config place hread hcloses
  · intro htext
    refine
      { recovered := fun attempt record h => loadOrInitialize_recovered place attempt h
        absent := fun habsent attempt hsound => ?_
        locked := fun hpresent hnone attempt hsound => ?_
        unlocked := fun attempt runtime startup disk' h hstate =>
          (loadOrInitialize_held hcodec h).2 hstate
        guarded := fun service h => guarded_of_reachable hcodec h }
    · obtain ⟨⟨runtime, startup⟩, disk', hload, hstarted, hdisk⟩ := ok_of_sound
        (loadOrInitialize_absent fromText place attempt config.sessionInstanceId habsent) hsound
      cases hstarted
      refine ⟨_, disk', rfl, hload, ?_⟩
      rw [hdisk]
      exact recorded_bytes hcodec (fresh_usable ..)
    · obtain ⟨bytes, hbytes⟩ := Option.ne_none_iff_exists'.mp hpresent
      obtain ⟨raw, hread⟩ := readToString_isText.mpr (htext bytes hbytes)
      rw [← hbytes] at hread
      obtain ⟨⟨runtime, startup⟩, disk', hload, ⟨reason, hstarted, hdisk⟩⟩ :=
        ok_of_sound (loadOrInitialize_locked place attempt hread hnone) hsound
      cases hstarted
      refine ⟨_, reason, disk', rfl, hload, ?_⟩
      rw [hdisk]
      exact recorded_bytes hcodec (fresh_usable ..)

def seatConfig : Config := { sessionInstanceId := "seat-0" }

def seatPath : StatePath :=
  ⟨"/run/user/1000/waybroker/session-seat-0-lockd-state.json", "/run/user/1000/waybroker"⟩

theorem truncatedRecord_failsClosed :
    FailsClosed RecordText.fromText seatConfig seatPath
      { state := some (utf8 "\x7b\n  \"version\": 1,") } :=
  (failsClosed_iff RecordText.fromText_roundTrips seatConfig seatPath _).mpr fun bytes h => by
    rw [← Option.some.inj h, fromUtf8_utf8]
    rfl

theorem invalidByte_not_failsClosed :
    ¬ FailsClosed RecordText.fromText seatConfig seatPath { state := some [0xff] } :=
  not_failsClosed_of_invalid _ _ _ (readToString_invalid (by decide +kernel))

end TuffXwin.Lockd
