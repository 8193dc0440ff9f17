import TuffXwin.Common.SessionArtifacts
import TuffXwin.Lib.Reach
import TuffXwin.Sessiond.Descent
import TuffXwin.Sessiond.Supervisor

/-! Recovery requests between the watchdog and sessiond. An accepted request replaces the file
of its role; sessiond looks for the file, reads it, executes what it read, writes the execution
artifact and removes the file by its name, whatever it holds by then. A request that comes
between the execution and the removal is lost; others are followed by an execution. -/

namespace TuffXwin.Watchdog
open Sessiond (WatchdogRecoveryArtifact)

variable {recovery : WatchdogRecoveryArtifact} {now : Nat}

def maxRestartReasonBytes : Nat := 1024

def validReason (reason : String) : Bool :=
  !reason.isEmpty && decide (reason.utf8ByteSize ≤ maxRestartReasonBytes) &&
    !reason.toList.any isControl

/-- `WatchdogCommand::Restart` and where it comes from. -/
structure RestartRequest where
  source : ServiceRole := .sessiond
  role : ServiceRole
  sessionInstanceId : String
  reason : String
  deriving DecidableEq, Repr

variable {request : RestartRequest}

/-- `validate_watchdog_request` of a restart: why it is refused. -/
def validateRestart (config : Config) (request : RestartRequest) : Option String :=
  if request.source ≠ .sessiond then
    some ("watchdog command source " ++ request.source.asStr ++ " is not authorized")
  else if request.role ≠ .compd ∧ request.role ≠ .lockd then
    some ("watchdog does not support restarting " ++ request.role.asStr)
  else if validateSessionInstanceId request.sessionInstanceId = false then
    some "invalid session-instance-id"
  else if config.sessionInstanceId.isSome ∧
      config.sessionInstanceId ≠ some request.sessionInstanceId then
    some "session-instance-id does not match watchdog configuration"
  else if validReason request.reason = false then
    some "restart reason must be 1-1024 UTF-8 bytes without control characters"
  else none

/-- What `handle_watchdog_command` has written for a restart, or the reason of the escalation. -/
def acceptRestart (config : Config) (request : RestartRequest) (now : Nat) :
    Except String WatchdogRecoveryArtifact :=
  match validateRestart config request with
  | some reason => .error reason
  | none =>
    .ok
      { role := request.role.asStr
        reason := request.reason
        requestedBy := request.source.asStr
        unixTimestamp := now
        action := "restart-request-accepted"
        status := "pending" }

theorem acceptRestart_ok {config : Config} (h : acceptRestart config request now = .ok recovery) :
    validateRestart config request = none ∧ (request.role = .compd ∨ request.role = .lockd) ∧
      validateSessionInstanceId request.sessionInstanceId = true ∧
        recovery.Accepted request.role := by
  unfold acceptRestart at h
  split at h
  · cases h
  · rename_i hvalid
    obtain rfl := Except.ok.inj h
    have hchecks := hvalid
    unfold validateRestart at hchecks
    split_ifs at hchecks with hsource hrole hsession hconfig hreason
    refine ⟨hvalid, ?_, by simpa using hsession, rfl, rfl, ?_, rfl⟩
    · by_contra hnot
      exact hrole (not_or.mp hnot)
    · exact congrArg ServiceRole.asStr (not_not.mp hsource)

end TuffXwin.Watchdog

namespace TuffXwin.Sessiond
open Lib Watchdog

variable {role : ServiceRole} {recovery : WatchdogRecoveryArtifact} {request : RestartRequest}
  {fault : Option String} {now : Nat} {surroundings : RecoverySurroundings}

/-- An id that has been validated. -/
structure SessionInstanceId where
  id : String
  valid : validateSessionInstanceId id = true

/-- `watchdog_recovery_artifact_path`. -/
def recoveryPath (runtimeDir : PathBuf) (sessionInstanceId : String) (role : ServiceRole) :
    PathBuf :=
  sessionArtifactPath runtimeDir sessionInstanceId (ServiceArtifact.watchdogRecovery role).name

/-- A recovery file: what the parser makes of its text, and which accepted request it is, none
for a file that was there before. The number is read by nothing. -/
structure RecoveryFile where
  content : Except String WatchdogRecoveryArtifact
  ticket : Option Nat := none

/-- What is next for the role. -/
inductive Stage
  | looking
  | found
  | read (file : RecoveryFile) (recovery : WatchdogRecoveryArtifact)
  | rejected
  | executed (execution : WatchdogExecutionArtifact)
  | written

variable {stage : Stage}

/-- The loop of `process_recovery_requests`: the role it is at, and the roles after it. -/
structure Pass where
  role : ServiceRole
  rest : List ServiceRole
  executedAny : Bool := false

variable {pass : Pass}

inductive Phase
  | idle
  | inside (stage : Stage) (pass : Pass)
  | returned (result : Except String Bool)

/-- What happens to the requests of the session. -/
inductive RecoveryEvent
  | accepted (role : ServiceRole) (ticket : Nat)
  | called
  | attempted (role : ServiceRole) (ticket : Option Nat)
  deriving DecidableEq, Repr

/-- Both processes and the files between them. `tickets` counts the accepted requests and `log`
lists what has happened, the latest first; both are read by nothing. -/
structure RecoveryExchange where
  runtimeDir : PathBuf
  session : SessionInstanceId
  watchdog : Watchdog.Config
  directory : PathBuf → Option RecoveryFile
  supervisor : SessionSupervisor
  phase : Phase := .idle
  tickets : Nat := 0
  log : List RecoveryEvent := []

namespace RecoveryExchange

variable (exchange : RecoveryExchange)

/-- The file of a role of this session. -/
def file (role : ServiceRole) : Option RecoveryFile :=
  exchange.directory (recoveryPath exchange.runtimeDir exchange.session.id role)

/-- The rename of `atomic_write_json`. -/
def replaceFile (path : PathBuf) (file : RecoveryFile) : RecoveryExchange :=
  { exchange with
    directory := fun path' => if path' = path then some file else exchange.directory path' }

/-- `let _ = fs::remove_file(..)`: a file that cannot be removed stays. -/
def removeFile (path : PathBuf) (fault : Option String) : RecoveryExchange :=
  match fault with
  | some _ => exchange
  | none =>
    { exchange with
      directory := fun path' => if path' = path then none else exchange.directory path' }

/-- A restart at the watchdog; `fault` is why the artifact cannot be written. -/
def restart (request : RestartRequest) (now : Nat) (fault : Option String) : RecoveryExchange :=
  match acceptRestart exchange.watchdog request now, fault with
  | .error _, _ => exchange
  | .ok _, some _ => exchange
  | .ok recovery, none =>
    let path := recoveryPath exchange.runtimeDir request.sessionInstanceId request.role
    let written := exchange.replaceFile path ⟨.ok recovery, some exchange.tickets⟩
    if request.sessionInstanceId = exchange.session.id then
      { written with
        tickets := exchange.tickets + 1
        log := .accepted request.role exchange.tickets :: exchange.log }
    else { written with tickets := exchange.tickets + 1 }

/-- The end of one role. -/
def goOn (pass : Pass) : RecoveryExchange :=
  match pass.rest with
  | [] => { exchange with phase := .returned (.ok pass.executedAny) }
  | role :: rest => { exchange with phase := .inside .looking { pass with role, rest } }

/-- A call, by a poll of the supervisor or by the first poll after a new start. -/
def call (supervisor : SessionSupervisor) : RecoveryExchange :=
  let begun :=
    { exchange with
      supervisor
      phase := .inside .looking ⟨.compd, [.lockd], false⟩
      log := .called :: exchange.log }
  match exchange.phase with
  | .inside _ _ => exchange
  | .idle => begun
  | .returned _ => begun

/-- The next step of a call; `fault` is the answer of a file system that fails. -/
def advance (surroundings : RecoverySurroundings) (fault : Option String) : RecoveryExchange :=
  match exchange.phase with
  | .idle => exchange
  | .returned _ => exchange
  | .inside stage pass =>
    let path := recoveryPath exchange.runtimeDir exchange.session.id pass.role
    match stage with
    | .looking =>
      -- a file that cannot be looked at counts as absent
      if (exchange.directory path).isSome ∧ fault = none then
        { exchange with phase := .inside .found pass }
      else exchange.goOn pass
    | .found =>
      match fault, exchange.directory path with
      | some err, _ => { exchange with phase := .returned (.error err) }
      | none, none =>
        { exchange with phase := .returned (.error "No such file or directory (os error 2)") }
      | none, some file =>
        match file.content with
        | .error _ => { exchange with phase := .inside .rejected pass }
        | .ok recovery =>
          if recovery.status ≠ "pending" then exchange.goOn pass
          else if recovery.role ≠ pass.role.asStr ∨
              recovery.requestedBy ≠ ServiceRole.sessiond.asStr ∨
              recovery.action ≠ "restart-request-accepted" then
            { exchange with phase := .inside .rejected pass }
          else { exchange with phase := .inside (.read file recovery) pass }
    | .read file recovery =>
      let log := .attempted pass.role file.ticket :: exchange.log
      match executeRecovery pass.role recovery surroundings exchange.supervisor with
      | .ok execution supervisor =>
        { exchange with supervisor, log, phase := .inside (.executed execution) pass }
      | .error err supervisor => { exchange with supervisor, log, phase := .returned (.error err) }
    | .rejected => (exchange.removeFile path fault).goOn pass
    | .executed _ =>
      match fault with
      | some err => { exchange with phase := .returned (.error err) }
      | none => { exchange with phase := .inside .written pass }
    | .written => (exchange.removeFile path fault).goOn { pass with executedAny := true }

end RecoveryExchange

/-- One step of either process. -/
inductive RecoveryStep
  | restart (request : RestartRequest) (now : Nat) (fault : Option String)
  | call (supervisor : SessionSupervisor)
  | advance (surroundings : RecoverySurroundings) (fault : Option String)

def RecoveryExchange.step (exchange : RecoveryExchange) : RecoveryStep → RecoveryExchange
  | .restart request now fault => exchange.restart request now fault
  | .call supervisor => exchange.call supervisor
  | .advance surroundings fault => exchange.advance surroundings fault

/-- At the start nothing is under way; the directory may hold files of earlier processes. -/
def recoveries : System RecoveryExchange RecoveryStep where
  init exchange := exchange.phase = .idle ∧ exchange.tickets = 0 ∧ exchange.log = [] ∧
    ∀ path file, exchange.directory path = some file → file.ticket = none
  next := RecoveryExchange.step

/-! What the requests ask for. -/

/-- A request was accepted and no execution for its role has started since. -/
def Unserved (role : ServiceRole) : List RecoveryEvent → Prop
  | [] => False
  | .accepted role' _ :: earlier => role' = role ∨ Unserved role earlier
  | .called :: earlier => Unserved role earlier
  | .attempted role' _ :: earlier => role' ≠ role ∧ Unserved role earlier

/-- A request was unserved at the latest call, and no execution has started since. -/
def Owed (role : ServiceRole) : List RecoveryEvent → Prop
  | [] => False
  | .accepted _ _ :: earlier => Owed role earlier
  | .called :: earlier => Unserved role earlier
  | .attempted role' _ :: earlier => role' ≠ role ∧ Owed role earlier

/-- The accepted requests whose files were executed. -/
def attempts (log : List RecoveryEvent) : List (ServiceRole × Nat) :=
  log.filterMap fun
    | .attempted role ticket => ticket.map (role, ·)
    | _ => none

theorem mem_attempts_attempted {role' : ServiceRole} {ticket : Nat} {ticket' : Option Nat}
    {earlier : List RecoveryEvent} :
    (role, ticket) ∈ attempts (.attempted role' ticket' :: earlier) ↔
      (role' = role ∧ ticket' = some ticket) ∨ (role, ticket) ∈ attempts earlier := by
  cases ticket' with
  | none => simp [attempts]
  | some number =>
    have hcons : attempts (.attempted role' (some number) :: earlier) =
        (role', number) :: attempts earlier := rfl
    rw [hcons, List.mem_cons, Prod.mk.injEq, Option.some.injEq, eq_comm (a := role),
      eq_comm (a := ticket)]

theorem Owed.unserved {log : List RecoveryEvent} (h : Owed role log) : Unserved role log := by
  induction log with
  | nil => exact h
  | cons event earlier ih =>
    cases event with
    | accepted role' ticket => exact .inr (ih h)
    | called => exact h
    | attempted role' ticket => exact ⟨h.1, ih h.2⟩

/-- A request that no execution has followed is still in its file, a call that has returned has
executed what was accepted before it, and no request is executed twice. -/
structure NoRequestLost (exchange : RecoveryExchange) : Prop where
  waiting : ∀ role, Unserved role exchange.log → ∃ file recovery,
    exchange.file role = some file ∧ file.content = .ok recovery ∧ recovery.Accepted role
  served : ∀ role executedAny, exchange.phase = .returned (.ok executedAny) →
    ¬Owed role exchange.log
  once : (attempts exchange.log).Nodup

/-- The file of the role is going to be removed. -/
def Stage.Closing : Stage → Prop
  | .rejected | .executed _ | .written => True
  | _ => False

/-- The file of the role has been executed. -/
def Stage.Finishing : Stage → Prop
  | .executed _ | .written => True
  | _ => False

def Phase.Closing (role : ServiceRole) : Phase → Prop
  | .inside stage pass => pass.role = role ∧ stage.Closing
  | _ => False

def Phase.Finishing (role : ServiceRole) : Phase → Prop
  | .inside stage pass => pass.role = role ∧ stage.Finishing
  | _ => False

/-- The call is still to read the file of the role, or has ended with an error. -/
def Phase.Ahead (role : ServiceRole) : Phase → Prop
  | .inside stage pass => role ∈ pass.rest ∨ pass.role = role ∧ ¬stage.Closing
  | .returned (.error _) => True
  | _ => False

/-- No request is accepted for a role whose file is going to be removed, and no operation of
sessiond on the files fails but for the reading. -/
def Undisturbed (exchange : RecoveryExchange) : RecoveryStep → Prop
  | .restart request _ fault =>
    validateRestart exchange.watchdog request = none → fault = none →
      request.sessionInstanceId = exchange.session.id → ¬exchange.phase.Closing request.role
  | .call _ => True
  | .advance surroundings fault =>
    match exchange.phase with
    | .inside (.read _ _) _ => surroundings.bindingFault = none
    | .inside .looking _ | .inside (.executed _) _ | .inside .written _ => fault = none
    | _ => True

/-! The files of different roles and sessions are different files. -/

theorem asStr_injective {role' : ServiceRole} (h : role.asStr = role'.asStr) : role = role' := by
  cases role <;> cases role' <;> first | rfl | exact absurd h (by decide)

theorem recoveryPath_inj {runtimeDir : PathBuf} {id id' : String}
    (hid : validateSessionInstanceId id = true) (hid' : validateSessionInstanceId id' = true)
    {role' : ServiceRole} :
    recoveryPath runtimeDir id role = recoveryPath runtimeDir id' role' ↔
      id = id' ∧ role = role' := by
  constructor
  · intro hpath
    have hcontrol : ∀ role, ¬(ServiceArtifact.watchdogRecovery role).OfOutput := fun _ h => h
    have hclear : ¬Confused id (ServiceArtifact.watchdogRecovery role).name id'
        (ServiceArtifact.watchdogRecovery role').name :=
      controlArtifacts_not_confused (hcontrol role) (hcontrol role') id id'
    obtain ⟨hsame, hname⟩ := (apart_iff hid hid' _ _).mpr hclear hpath
    exact ⟨hsame, asStr_injective (String.append_right_inj _ |>.mp hname)⟩
  · rintro ⟨rfl, rfl⟩
    rfl

namespace RecoveryExchange

variable {exchange : RecoveryExchange}

theorem file_replaceFile {id : String} (hid : validateSessionInstanceId id = true)
    (role role' : ServiceRole) (file : RecoveryFile) :
    (exchange.replaceFile (recoveryPath exchange.runtimeDir id role) file).file role' =
      if id = exchange.session.id ∧ role = role' then some file else exchange.file role' := by
  have hpath : recoveryPath exchange.runtimeDir exchange.session.id role' =
      recoveryPath exchange.runtimeDir id role ↔ id = exchange.session.id ∧ role = role' := by
    rw [eq_comm]
    exact recoveryPath_inj hid exchange.session.valid
  unfold replaceFile RecoveryExchange.file
  simp only [hpath]

theorem file_removeFile (role role' : ServiceRole) (fault : Option String) :
    (exchange.removeFile (recoveryPath exchange.runtimeDir exchange.session.id role)
        fault).file role' =
      if fault = none ∧ role = role' then none else exchange.file role' := by
  have hpath : recoveryPath exchange.runtimeDir exchange.session.id role' =
      recoveryPath exchange.runtimeDir exchange.session.id role ↔ role = role' := by
    rw [eq_comm, recoveryPath_inj exchange.session.valid exchange.session.valid]
    exact and_iff_right rfl
  cases fault with
  | some err => simp [removeFile]
  | none => simp only [removeFile, RecoveryExchange.file, hpath, true_and]

theorem removeFile_phase (path : PathBuf) (fault : Option String) :
    (exchange.removeFile path fault).phase = exchange.phase := by
  cases fault <;> rfl

theorem removeFile_log (path : PathBuf) (fault : Option String) :
    (exchange.removeFile path fault).log = exchange.log := by
  cases fault <;> rfl

/-- What undisturbed runs keep. A file that has been executed is about to be removed. -/
structure Kept (exchange : RecoveryExchange) : Prop where
  waiting : ∀ role, Unserved role exchange.log → ∃ file recovery,
    exchange.file role = some file ∧ file.content = .ok recovery ∧ recovery.Accepted role
  supported : ∀ role, Unserved role exchange.log → role = .compd ∨ role = .lockd
  closing : ∀ role, exchange.phase.Closing role → ¬Unserved role exchange.log
  owed : ∀ role, Owed role exchange.log → exchange.phase.Ahead role
  numbered : ∀ role ticket, (role, ticket) ∈ attempts exchange.log → ticket < exchange.tickets
  fresh : ∀ role file ticket, exchange.file role = some file → file.ticket = some ticket →
    ticket < exchange.tickets ∧
      ((role, ticket) ∈ attempts exchange.log → exchange.phase.Finishing role)
  reading : ∀ file recovery pass ticket, exchange.phase = .inside (.read file recovery) pass →
    file.ticket = some ticket →
      ticket < exchange.tickets ∧ (pass.role, ticket) ∉ attempts exchange.log
  once : (attempts exchange.log).Nodup

section

variable (h : Kept exchange)
include h

theorem Kept.noRequestLost : NoRequestLost exchange := by
  refine ⟨h.waiting, fun role executedAny hphase howed => ?_, h.once⟩
  have hahead := h.owed role howed
  rw [hphase] at hahead
  exact hahead

/-- The loop goes on, with nothing left to do for its role. -/
theorem Kept.goOn (howed : ∀ role, Owed role exchange.log → role ∈ pass.rest)
    (hfresh : ∀ role file ticket, exchange.file role = some file → file.ticket = some ticket →
      (role, ticket) ∉ attempts exchange.log) : Kept (exchange.goOn pass) := by
  unfold RecoveryExchange.goOn
  split
  · rename_i hrest
    refine ⟨h.waiting, h.supported, fun role hclosing => hclosing.elim, fun role hrole => ?_,
      h.numbered, fun role file ticket hfile hticket => ?_, fun _ _ _ _ hphase => ?_, h.once⟩
    · have hmem := howed role hrole
      rw [hrest] at hmem
      cases hmem
    · exact ⟨(h.fresh role file ticket hfile hticket).1,
        fun hattempted => absurd hattempted (hfresh role file ticket hfile hticket)⟩
    · cases hphase
  · rename_i next rest hrest
    refine ⟨h.waiting, h.supported, fun role hclosing => hclosing.2.elim, fun role hrole => ?_,
      h.numbered, fun role file ticket hfile hticket => ?_, fun _ _ _ _ hphase => ?_, h.once⟩
    · have hmem := howed role hrole
      rw [hrest] at hmem
      rcases List.mem_cons.mp hmem with rfl | hmem
      · exact .inr ⟨rfl, not_false⟩
      · exact .inl hmem
    · exact ⟨(h.fresh role file ticket hfile hticket).1,
        fun hattempted => absurd hattempted (hfresh role file ticket hfile hticket)⟩
    · cases hphase

/-- Only the phase changes. -/
theorem Kept.moved {phase : Phase}
    (hclosing : ∀ role, phase.Closing role → ¬Unserved role exchange.log)
    (howed : ∀ role, Owed role exchange.log → phase.Ahead role)
    (hfinishing : ∀ role, exchange.phase.Finishing role → phase.Finishing role)
    (hreading : ∀ file recovery pass ticket, phase = .inside (.read file recovery) pass →
      file.ticket = some ticket →
        ticket < exchange.tickets ∧ (pass.role, ticket) ∉ attempts exchange.log) :
    Kept { exchange with phase } := by
  refine ⟨h.waiting, h.supported, hclosing, howed, h.numbered,
    fun role file ticket hfile hticket => ?_, hreading, h.once⟩
  obtain ⟨hnumbered, hattempted⟩ := h.fresh role file ticket hfile hticket
  exact ⟨hnumbered, fun hmem => hfinishing role (hattempted hmem)⟩

/-- A request is accepted for this session: its file is the newest, and not yet executed. -/
theorem Kept.accepted (hrole : role = .compd ∨ role = .lockd) (haccepted : recovery.Accepted role)
    (hclosing : ¬exchange.phase.Closing role) :
    Kept { exchange.replaceFile
        (recoveryPath exchange.runtimeDir exchange.session.id role)
          ⟨.ok recovery, some exchange.tickets⟩ with
      tickets := exchange.tickets + 1
      log := .accepted role exchange.tickets :: exchange.log } := by
  have hfile := fun role' => exchange.file_replaceFile exchange.session.valid role role'
    ⟨.ok recovery, some exchange.tickets⟩
  have hnew := (hfile role).trans (if_pos ⟨rfl, rfl⟩)
  have hold : ∀ role', role ≠ role' → _ = exchange.file role' := fun role' hne =>
    (hfile role').trans (if_neg fun hboth => hne hboth.2)
  refine ⟨fun role' hunserved => ?_, fun role' hunserved => ?_, fun role' hphase hunserved => ?_,
    h.owed, fun role' ticket hmem => Nat.lt_succ_of_lt (h.numbered role' ticket hmem),
    fun role' file ticket hheld hticket => ?_, fun file held pass ticket hread hticket => ?_,
    h.once⟩
  · by_cases hsame : role = role'
    · subst hsame
      exact ⟨_, recovery, hnew, rfl, haccepted⟩
    · obtain ⟨file, held, hheld, hrest⟩ := h.waiting role' (hunserved.resolve_left hsame)
      exact ⟨file, held, (hold role' hsame).trans hheld, hrest⟩
  · rcases hunserved with rfl | hunserved
    · exact hrole
    · exact h.supported role' hunserved
  · rcases hunserved with rfl | hunserved
    · exact hclosing hphase
    · exact h.closing role' hphase hunserved
  · by_cases hsame : role = role'
    · subst hsame
      obtain rfl := Option.some.inj (hnew.symm.trans hheld)
      obtain rfl := Option.some.inj hticket
      exact ⟨Nat.lt_succ_self _, fun hmem => absurd (h.numbered role _ hmem) (lt_irrefl _)⟩
    · have hbefore := (hold role' hsame).symm.trans hheld
      obtain ⟨hlt, hattempted⟩ := h.fresh role' file ticket hbefore hticket
      exact ⟨Nat.lt_succ_of_lt hlt, hattempted⟩
  · obtain ⟨hlt, hnot⟩ := h.reading file held pass ticket hread hticket
    exact ⟨Nat.lt_succ_of_lt hlt, hnot⟩

/-- A request for another session leaves the files of this one. -/
theorem Kept.elsewhere {id : String} (hid : validateSessionInstanceId id = true)
    (hne : id ≠ exchange.session.id) (role : ServiceRole) (file : RecoveryFile) :
    Kept { exchange.replaceFile (recoveryPath exchange.runtimeDir id role) file with
      tickets := exchange.tickets + 1 } := by
  have hfile : ∀ role', _ = exchange.file role' := fun role' =>
    (exchange.file_replaceFile hid role role' file).trans (if_neg fun hboth => hne hboth.1)
  refine ⟨fun role' hunserved => ?_, h.supported, h.closing, h.owed,
    fun role' ticket hmem => Nat.lt_succ_of_lt (h.numbered role' ticket hmem),
    fun role' held ticket hheld hticket => ?_, fun held recovery pass ticket hread hticket => ?_,
    h.once⟩
  · obtain ⟨held, recovery, hheld, hrest⟩ := h.waiting role' hunserved
    exact ⟨held, recovery, (hfile role').trans hheld, hrest⟩
  · obtain ⟨hlt, hattempted⟩ := h.fresh role' held ticket ((hfile role').symm.trans hheld) hticket
    exact ⟨Nat.lt_succ_of_lt hlt, hattempted⟩
  · obtain ⟨hlt, hnot⟩ := h.reading held recovery pass ticket hread hticket
    exact ⟨Nat.lt_succ_of_lt hlt, hnot⟩

theorem Kept.restart (hgood : Undisturbed exchange (.restart request now fault)) :
    Kept (exchange.restart request now fault) := by
  unfold RecoveryExchange.restart
  split
  · exact h
  · exact h
  · rename_i recovery haccept
    obtain ⟨hvalidated, hrole, hvalid, haccepted⟩ := acceptRestart_ok haccept
    dsimp only
    split_ifs with hsession
    · rw [hsession]
      exact h.accepted hrole haccepted (hgood hvalidated rfl hsession)
    · exact h.elsewhere hvalid hsession request.role _

theorem Kept.begun (supervisor : SessionSupervisor)
    (hat : ∀ stage pass, exchange.phase ≠ .inside stage pass) :
    Kept { exchange with
      supervisor
      phase := .inside .looking ⟨.compd, [.lockd], false⟩
      log := .called :: exchange.log } := by
  refine ⟨h.waiting, h.supported, fun role hclosing => hclosing.2.elim, fun role howed => ?_,
    h.numbered, fun role file ticket hfile hticket => ?_, fun _ _ _ _ hread => ?_, h.once⟩
  · rcases h.supported role howed with rfl | rfl
    · exact .inr ⟨rfl, not_false⟩
    · exact .inl List.mem_cons_self
  · obtain ⟨hlt, hattempted⟩ := h.fresh role file ticket hfile hticket
    refine ⟨hlt, fun hmem => ?_⟩
    have hfinishing := hattempted hmem
    cases hphase : exchange.phase with
    | inside stage pass => exact absurd hphase (hat stage pass)
    | idle => exact (hphase ▸ hfinishing : Phase.Finishing role .idle).elim
    | returned result => exact (hphase ▸ hfinishing : Phase.Finishing role (.returned result)).elim
  · cases hread

theorem Kept.call (supervisor : SessionSupervisor) : Kept (exchange.call supervisor) := by
  unfold RecoveryExchange.call
  dsimp only
  split
  · exact h
  · rename_i hphase
    exact h.begun supervisor fun stage pass hat => by simp [hphase] at hat
  · rename_i hphase
    exact h.begun supervisor fun stage pass hat => by simp [hphase] at hat

/-- A file that is gone was executed or refused. -/
theorem Kept.removeFile (hphase : exchange.phase = .inside stage pass) (hclosing : stage.Closing)
    (fault : Option String) :
    Kept (exchange.removeFile
      (recoveryPath exchange.runtimeDir exchange.session.id pass.role) fault) := by
  have hserved : ¬Unserved pass.role exchange.log :=
    h.closing pass.role (hphase ▸ ⟨rfl, hclosing⟩)
  cases fault with
  | some err => exact h
  | none =>
    refine ⟨fun role hunserved => ?_, h.supported, h.closing, h.owed, h.numbered,
      fun role file ticket hfile hticket => ?_, h.reading, h.once⟩
    · have hne : pass.role ≠ role := fun hsame => hserved (hsame ▸ hunserved)
      rw [file_removeFile, if_neg fun hboth => hne hboth.2]
      exact h.waiting role hunserved
    · rw [file_removeFile] at hfile
      split_ifs at hfile
      exact h.fresh role file ticket hfile hticket

/-- The file is removed and the loop goes on; after an execution it is gone. -/
theorem Kept.closed (hphase : exchange.phase = .inside stage pass) (hclosing : stage.Closing)
    (hfault : stage.Finishing → fault = none) (executedAny : Bool) :
    Kept ((exchange.removeFile
      (recoveryPath exchange.runtimeDir exchange.session.id pass.role) fault).goOn
        { pass with executedAny }) := by
  refine (h.removeFile hphase hclosing fault).goOn (fun role howed => ?_)
    fun role file ticket hfile hticket hmem => ?_
  · rw [removeFile_log] at howed
    have hahead := h.owed role howed
    rw [hphase] at hahead
    exact hahead.resolve_right fun hrole => hrole.2 hclosing
  · obtain ⟨-, hattempted⟩ :=
      (h.removeFile hphase hclosing fault).fresh role file ticket hfile hticket
    have hfinishing := hattempted hmem
    rw [removeFile_phase, hphase] at hfinishing
    rw [file_removeFile, if_pos ⟨hfault hfinishing.2, hfinishing.1⟩] at hfile
    cases hfile

theorem Kept.executes {file : RecoveryFile}
    (hphase : exchange.phase = .inside (.read file recovery) pass) (supervisor : SessionSupervisor)
    (execution : WatchdogExecutionArtifact) :
    Kept { exchange with
      supervisor
      log := .attempted pass.role file.ticket :: exchange.log
      phase := .inside (.executed execution) pass } := by
  refine ⟨fun role hunserved => h.waiting role hunserved.2,
    fun role hunserved => h.supported role hunserved.2,
    fun role hclosing hunserved => hunserved.1 hclosing.1, fun role howed => ?_,
    fun role ticket hattempted => ?_, fun role held ticket hheld hticket => ?_,
    fun _ _ _ _ hread => ?_, ?_⟩
  · have hahead := h.owed role howed.2
    rw [hphase] at hahead
    exact .inl (hahead.resolve_right fun hrole => howed.1 hrole.1)
  · rcases mem_attempts_attempted.mp hattempted with ⟨-, hticket⟩ | hattempted
    · exact (h.reading file recovery pass ticket hphase hticket).1
    · exact h.numbered role ticket hattempted
  · obtain ⟨hlt, hold⟩ := h.fresh role held ticket hheld hticket
    refine ⟨hlt, fun hattempted => ?_⟩
    rcases mem_attempts_attempted.mp hattempted with ⟨hrole, -⟩ | hattempted
    · exact ⟨hrole, trivial⟩
    · have hfinishing := hold hattempted
      rw [hphase] at hfinishing
      exact hfinishing.2.elim
  · cases hread
  · have hread := h.reading file recovery pass
    cases hticket : file.ticket with
    | none => exact h.once
    | some ticket => exact List.nodup_cons.mpr ⟨(hread ticket hphase hticket).2, h.once⟩

theorem Kept.found (hphase : exchange.phase = .inside .found pass)
    (surroundings : RecoverySurroundings) : Kept (exchange.advance surroundings fault) := by
  have hunfinished : ∀ role, ¬exchange.phase.Finishing role := by
    intro role hfinishing
    rw [hphase] at hfinishing
    exact hfinishing.2
  have hahead : ∀ role, Owed role exchange.log → role ∈ pass.rest ∨ pass.role = role := by
    intro role howed
    have hahead := h.owed role howed
    rw [hphase] at hahead
    exact hahead.imp_right And.left
  -- a file that is not executed is not one of the watchdog's
  have hforeign : ∀ file, exchange.file pass.role = some file →
      (∀ recovery, file.content = .ok recovery → ¬recovery.Accepted pass.role) →
        ¬Unserved pass.role exchange.log := by
    intro file hfile hnot hunserved
    obtain ⟨file', recovery, hfile', hcontent, haccepted⟩ := h.waiting pass.role hunserved
    obtain rfl := Option.some.inj (hfile.symm.trans hfile')
    exact hnot recovery hcontent haccepted
  have hrefused : ∀ file, exchange.file pass.role = some file →
      (∀ recovery, file.content = .ok recovery → ¬recovery.Accepted pass.role) →
        Kept { exchange with phase := .inside .rejected pass } := by
    intro file hfile hnot
    have hserved := hforeign file hfile hnot
    refine h.moved (fun role hclosing => hclosing.1 ▸ hserved) (fun role howed => ?_)
      (fun role hfinishing => absurd hfinishing (hunfinished role)) fun _ _ _ _ hread => ?_
    · refine (hahead role howed).imp_right fun hrole => ?_
      exact absurd (hrole ▸ howed.unserved) hserved
    · cases hread
  unfold RecoveryExchange.advance
  simp only [hphase]
  split
  · exact h.moved (fun role hclosing => hclosing.elim) (fun role howed => trivial)
      (fun role hfinishing => absurd hfinishing (hunfinished role)) fun _ _ _ _ hread => by
        cases hread
  · exact h.moved (fun role hclosing => hclosing.elim) (fun role howed => trivial)
      (fun role hfinishing => absurd hfinishing (hunfinished role)) fun _ _ _ _ hread => by
        cases hread
  · rename_i file hfile
    split
    · rename_i err hcontent
      refine hrefused file hfile fun recovery hok => ?_
      rw [hcontent] at hok
      cases hok
    · rename_i recovery hcontent
      have hsame : ∀ recovery', file.content = .ok recovery' → recovery' = recovery := by
        intro recovery' hok
        rw [hcontent] at hok
        exact (Except.ok.inj hok).symm
      split_ifs with hpending hchecks
      · have hserved := hforeign file hfile fun recovery' hok haccepted =>
          hpending (hsame recovery' hok ▸ haccepted.1)
        refine h.goOn (fun role howed => ?_) fun role file ticket hheld hticket hmem =>
          hunfinished role ((h.fresh role file ticket hheld hticket).2 hmem)
        refine (hahead role howed).resolve_right fun hrole => ?_
        exact hserved (hrole ▸ howed.unserved)
      · refine hrefused file hfile fun recovery' hok haccepted => ?_
        obtain rfl := hsame recovery' hok
        obtain ⟨-, hrole, hsource, haction⟩ := haccepted
        rcases hchecks with hne | hne | hne
        · exact hne hrole
        · exact hne hsource
        · exact hne haction
      · refine h.moved (fun role hclosing => hclosing.2.elim) (fun role howed => ?_)
          (fun role hfinishing => absurd hfinishing (hunfinished role))
          fun file' recovery' pass' ticket hread hticket => ?_
        · exact (hahead role howed).imp_right fun hrole => ⟨hrole, not_false⟩
        · cases hread
          obtain ⟨hlt, hattempted⟩ := h.fresh pass.role file ticket hfile hticket
          exact ⟨hlt, fun hmem => hunfinished _ (hattempted hmem)⟩

end

theorem executeRecovery_ok {supervisor : SessionSupervisor} (h : surroundings.bindingFault = none) :
    ∃ execution supervisor',
      executeRecovery role recovery surroundings supervisor = .ok execution supervisor' := by
  -- the writing of the execution artifact is no part of it
  have hsame : executeRecovery role recovery surroundings supervisor =
      executeRecovery role recovery { surroundings with executionFault := none } supervisor := rfl
  have hends := executeRecovery_ends role recovery { surroundings with executionFault := none }
    supervisor
  rw [hsame]
  unfold Ends at hends
  split at hends
  · exact ⟨_, _, by assumption⟩
  · exact absurd hends.2 (by simp [RecoverySurroundings.Faulty, h])

theorem Kept.looked (h : Kept exchange) (hphase : exchange.phase = .inside .looking pass)
    (surroundings : RecoverySurroundings) : Kept (exchange.advance surroundings none) := by
  have hunfinished : ∀ role, ¬exchange.phase.Finishing role := by
    intro role hfinishing
    rw [hphase] at hfinishing
    exact hfinishing.2
  have hahead : ∀ role, Owed role exchange.log → role ∈ pass.rest ∨ pass.role = role := by
    intro role howed
    have hahead := h.owed role howed
    rw [hphase] at hahead
    exact hahead.imp_right And.left
  unfold RecoveryExchange.advance
  simp only [hphase]
  split_ifs with hthere
  · refine h.moved (fun role hclosing => hclosing.2.elim) (fun role howed => ?_)
      (fun role hfinishing => absurd hfinishing (hunfinished role)) fun _ _ _ _ hread => ?_
    · exact (hahead role howed).imp_right fun hrole => ⟨hrole, not_false⟩
    · cases hread
  · refine h.goOn (fun role howed => ?_) fun role file ticket hheld hticket hmem =>
      hunfinished role ((h.fresh role file ticket hheld hticket).2 hmem)
    refine (hahead role howed).resolve_right fun hrole => ?_
    obtain ⟨file, recovery, hfile, -⟩ := h.waiting role howed.unserved
    subst hrole
    have hsome : (exchange.file pass.role).isSome = true := by rw [hfile]; rfl
    exact hthere ⟨hsome, trivial⟩

theorem Kept.advance (h : Kept exchange)
    (hgood : Undisturbed exchange (.advance surroundings fault)) :
    Kept (exchange.advance surroundings fault) := by
  cases hphase : exchange.phase with
  | idle =>
    unfold RecoveryExchange.advance
    rw [hphase]
    exact h
  | returned result =>
    unfold RecoveryExchange.advance
    rw [hphase]
    exact h
  | inside stage pass =>
    unfold Undisturbed at hgood
    cases stage with
    | looking =>
      simp only [hphase] at hgood
      rw [hgood]
      exact h.looked hphase surroundings
    | found => exact h.found hphase surroundings
    | read file recovery =>
      simp only [hphase] at hgood
      obtain ⟨execution, supervisor, heq⟩ : ∃ execution supervisor', executeRecovery pass.role
          recovery surroundings exchange.supervisor = .ok execution supervisor' :=
        executeRecovery_ok hgood
      unfold RecoveryExchange.advance
      simp only [hphase, heq]
      exact h.executes hphase supervisor execution
    | rejected =>
      unfold RecoveryExchange.advance
      simp only [hphase]
      exact h.closed hphase trivial (fun hcontra => hcontra.elim) pass.executedAny
    | executed execution =>
      simp only [hphase] at hgood
      unfold RecoveryExchange.advance
      simp only [hphase, hgood]
      refine h.moved (fun role hclosing => ?_) (fun role howed => ?_) (fun role hfinishing => ?_)
        fun _ _ _ _ hread => ?_
      · exact h.closing role (hphase ▸ ⟨hclosing.1, trivial⟩)
      · have hahead := h.owed role howed
        rw [hphase] at hahead
        exact hahead.imp_right fun hrole => absurd trivial hrole.2
      · rw [hphase] at hfinishing
        exact ⟨hfinishing.1, trivial⟩
      · cases hread
    | written =>
      simp only [hphase] at hgood
      unfold RecoveryExchange.advance
      simp only [hphase]
      exact h.closed hphase trivial (fun _ => hgood) true

end RecoveryExchange

/-- In a run in which no request is accepted for a role between an execution for it and the
removal of its file, and sessiond's file operations succeed, no request is lost. -/
theorem no_request_lost {exchange : RecoveryExchange} (h : recoveries.Reach Undisturbed exchange) :
    NoRequestLost exchange := by
  refine RecoveryExchange.Kept.noRequestLost (h.invariant ?_ ?_)
  · rintro exchange ⟨hphase, htickets, hlog, hfiles⟩
    refine ⟨fun role hrole => ?_, fun role hrole => ?_, fun role hclosing => ?_,
      fun role howed => ?_, fun role ticket hmem => ?_, fun role file ticket hfile hticket => ?_,
      fun file recovery pass ticket hread => ?_, ?_⟩
    · rw [hlog] at hrole
      exact hrole.elim
    · rw [hlog] at hrole
      exact hrole.elim
    · rw [hphase] at hclosing
      exact hclosing.elim
    · rw [hlog] at howed
      exact howed.elim
    · rw [hlog] at hmem
      cases hmem
    · rw [hfiles _ file hfile] at hticket
      cases hticket
    · rw [hphase] at hread
      cases hread
    · rw [hlog]
      exact List.nodup_nil
  · intro exchange input hkept hgood
    cases input with
    | restart request now fault => exact hkept.restart hgood
    | call supervisor => exact hkept.call supervisor
    | advance surroundings fault => exact hkept.advance hgood

section sample

/-- The compositor is to be started again. -/
def compdRestart : RestartRequest where
  role := .compd
  sessionInstanceId := "session-a"
  reason := "heartbeat lost"

def idleExchange : RecoveryExchange where
  runtimeDir := "/run/waybroker".toList
  session := ⟨"session-a", by decide +kernel⟩
  watchdog := {}
  directory := fun _ => none
  supervisor := .new soleProfile [soleProfile] "session-a" 1 fun _ => none

theorem idleExchange_starts : recoveries.init idleExchange :=
  ⟨rfl, rfl, rfl, fun _ _ hfile => by cases hfile⟩

def quietSurroundings : RecoverySurroundings where
  parse := fun _ => .error "EOF while parsing a value"

def quietStep : RecoveryStep := .advance quietSurroundings none

/-- Requests come between the calls, and nothing fails. -/
def orderly (exchange : RecoveryExchange) : RecoveryStep → Bool
  | .restart .. => match exchange.phase with | .inside .. => false | _ => true
  | .call _ => true
  | .advance surroundings fault => surroundings.bindingFault.isNone && fault.isNone

theorem orderly_undisturbed (exchange : RecoveryExchange) (input : RecoveryStep)
    (h : orderly exchange input = true) : Undisturbed exchange input := by
  cases input with
  | restart request now fault =>
    intro _ _ _ hclosing
    cases hphase : exchange.phase with
    | inside stage pass => simp [orderly, hphase] at h
    | idle => exact (hphase ▸ hclosing : Phase.Closing request.role .idle)
    | returned result => exact (hphase ▸ hclosing : Phase.Closing request.role (.returned result))
  | call supervisor => trivial
  | advance surroundings fault =>
    obtain ⟨hbinding, hfault⟩ := Bool.and_eq_true_iff.mp h
    rw [Option.isNone_iff_eq_none] at hbinding hfault
    unfold Undisturbed
    dsimp only
    split <;> first | exact hbinding | exact hfault | trivial

/-- Two requests before a call: one execution is for both. -/
theorem no_request_lost_orderly :
    NoRequestLost (recoveries.run idleExchange
      ([.restart compdRestart 1 none, .restart compdRestart 2 none,
        .call idleExchange.supervisor] ++ List.replicate 6 quietStep)) := by
  have hstart : recoveries.Reach Undisturbed idleExchange := .init idleExchange_starts
  exact no_request_lost (hstart.run_passes orderly_undisturbed (by decide +kernel))

/-- The second request comes after the execution for the first one. -/
theorem late_request_lost :
    ¬∀ exchange, recoveries.Reachable exchange → NoRequestLost exchange := by
  intro hall
  have hkept := hall _ (System.Reachable.run (.init idleExchange_starts)
    ([.restart compdRestart 1 none, .call idleExchange.supervisor, quietStep, quietStep, quietStep,
      .restart compdRestart 2 none, quietStep, quietStep] : List RecoveryStep))
  have hwaiting := hkept.waiting .compd
  generalize hend : recoveries.run idleExchange _ = final at hwaiting
  have hlog : final.log = [.accepted .compd 1, .attempted .compd (some 0), .called,
      .accepted .compd 0] := by
    rw [← hend]
    decide +kernel
  have hfile : (final.file .compd).isNone = true := by
    rw [← hend]
    decide +kernel
  rw [hlog] at hwaiting
  obtain ⟨file, recovery, hheld, -⟩ := hwaiting (.inl rfl)
  rw [hheld] at hfile
  cases hfile

end sample

end TuffXwin.Sessiond
