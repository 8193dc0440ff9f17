import TuffXwin.Common.ArtifactPath
import TuffXwin.Common.IpcJson
import TuffXwin.Watchdog.LaunchStates

/-! The artifacts of the sessions that share a runtime directory. A hyphen joins a session to
the name of an artifact, and both may hold hyphens: the artifact of one session is found at the
path of another where the longer session id goes on as the other artifact's name begins. Only
the names that hold the name of an output begin like a second artifact. -/

namespace TuffXwin
open Watchdog (isSessionChar validateSessionInstanceId)

variable {session session' : String}
variable {α : Type} {fallback : List Char} {runtimeDir : PathBuf}

/-- `Path::join` with a name that is not absolute. -/
def joinName (directory : PathBuf) (name : List Char) : PathBuf :=
  if directory = [] ∨ directory.getLast? = some '/' then directory ++ name
  else directory ++ '/' :: name

def sessionArtifactPath (runtimeDir : PathBuf) (sessionInstanceId artifactName : String) :
    PathBuf :=
  joinName runtimeDir (sessionArtifactName sessionInstanceId.toList artifactName.toList)

inductive ResumeScenario
  | normal | displaydTrouble | compdTrouble | lockdTrouble
  deriving DecidableEq, Repr

def ResumeScenario.asStr : ResumeScenario → String
  | .normal => "normal"
  | .displaydTrouble => "displayd-trouble"
  | .compdTrouble => "compd-trouble"
  | .lockdTrouble => "lockd-trouble"

/-- What the services keep for a session: lockd, sessiond and the watchdog, displayd, waylandd. -/
inductive ServiceArtifact
  | lockdState
  | sessiondState | activeProfile | launchState | profileTransition | bindingCollisionReport
  | bindingResolution (service : ServiceRole)
  | watchdogActionExecution (role : ServiceRole)
  | lockUiPath (scenario : ResumeScenario)
  | resumeTrace (scenario : ResumeScenario)
  | watchdogReport
  | watchdogRecovery (role : ServiceRole)
  | sceneSnapshot
  | recording (output : String) (started : Nat)
  | screenshot (output : String) (unixTimestamp : Nat)
  | headlessScreenshot (output : String) (sceneGeneration frameId : Nat)
  | surfaceRegistry
  deriving DecidableEq, Repr

variable {artifact : ServiceArtifact} {artifact' : ServiceArtifact}

namespace ServiceArtifact

def sanitizedOutput (output : String) : String := .ofList (sanitizeArtifactFilename output.toList)

def name : ServiceArtifact → String
  | .lockdState => "lockd-state"
  | .sessiondState => "sessiond-state"
  | .activeProfile => "active-profile"
  | .launchState => "launch-state"
  | .profileTransition => "profile-transition"
  | .bindingCollisionReport => "binding-collision-report"
  | .bindingResolution service => "binding-resolution-" ++ service.asStr
  | .watchdogActionExecution role => "watchdog-action-execution-" ++ role.asStr
  | .lockUiPath scenario => "lock-ui-path-" ++ scenario.asStr
  | .resumeTrace scenario => "resume-trace-" ++ scenario.asStr
  | .watchdogReport => "watchdog-report"
  | .watchdogRecovery role => "watchdog-recovery-" ++ role.asStr
  | .sceneSnapshot => "scene-snapshot"
  | .recording output started =>
    "recording-" ++ output ++ "-" ++ ("rec-" ++ toString started) ++ ".mkv"
  | .screenshot output unixTimestamp =>
    "screenshot-" ++ sanitizedOutput output ++ "-" ++ toString unixTimestamp ++ ".raw"
  | .headlessScreenshot output sceneGeneration frameId =>
    "headless-screenshot-" ++ sanitizedOutput output ++ "-" ++ toString sceneGeneration ++ "-" ++
      toString frameId ++ ".raw"
  | .surfaceRegistry => "surface-registry"

/-- The artifacts whose names hold the name of an output. -/
def OfOutput : ServiceArtifact → Prop
  | .recording .. | .screenshot .. | .headlessScreenshot .. => True
  | _ => False

end ServiceArtifact

/-- The name as the path holds it. -/
def storedName (artifactName : String) : List Char := sanitizeArtifactFilename artifactName.toList

/-- The longer session id goes on as the other session's artifact begins. -/
def Continues (session artifact session' artifact' : String) : Prop :=
  ∃ text, session'.toList = session.toList ++ '-' :: text ∧
    storedName artifact = text ++ '-' :: storedName artifact'

/-- The artifacts share a path and are not the same. -/
def Confused (session artifact session' artifact' : String) : Prop :=
  (session = session' ∧ artifact ≠ artifact' ∧ storedName artifact = storedName artifact') ∨
    Continues session artifact session' artifact' ∨ Continues session' artifact' session artifact

/-- Two lists with a separator, which both parts may hold. -/
theorem append_cons_eq_iff {separator : α} {xs ys as bs : List α} :
    xs ++ separator :: as = ys ++ separator :: bs ↔
      (xs = ys ∧ as = bs) ∨
        (∃ text, ys = xs ++ separator :: text ∧ as = text ++ separator :: bs) ∨
        ∃ text, xs = ys ++ separator :: text ∧ bs = text ++ separator :: as := by
  rw [List.append_eq_append_iff]
  constructor
  · rintro (⟨between, hys, has⟩ | ⟨between, hxs, hbs⟩)
    · cases between with
      | nil => exact .inl ⟨by simpa using hys.symm, (List.cons.inj has).2⟩
      | cons head text =>
        obtain ⟨rfl, hrest⟩ := List.cons.inj has
        exact .inr (.inl ⟨text, hys, hrest⟩)
    · cases between with
      | nil => exact .inl ⟨by simpa using hxs, (List.cons.inj hbs).2.symm⟩
      | cons head text =>
        obtain ⟨rfl, hrest⟩ := List.cons.inj hbs
        exact .inr (.inr ⟨text, hxs, hrest⟩)
  · rintro (⟨rfl, rfl⟩ | ⟨text, rfl, rfl⟩ | ⟨text, rfl, rfl⟩)
    · exact .inl ⟨[], by simp⟩
    · exact .inl ⟨separator :: text, by simp⟩
    · exact .inr ⟨separator :: text, by simp⟩

/-! What sanitizing keeps. -/

/-- A list of characters that sanitizing leaves as it is. -/
structure Sanitary (name : List Char) : Prop where
  nonempty : name ≠ []
  short : name.length ≤ maxArtifactFilenameBytes
  noDots : ¬(name = ['.'] ∨ name = ['.', '.'])
  chars : ∀ c ∈ name, isArtifactChar c = true

theorem Sanitary.sanitizeName {name : List Char} (h : Sanitary name) :
    TuffXwin.sanitizeName fallback name = name := by
  have hmap : (name.map fun c => if isArtifactChar c then c else '_') = name := by
    rw [List.map_congr_left fun c hc => if_pos (h.chars c hc)]
    exact List.map_id' name
  unfold TuffXwin.sanitizeName
  simp only [hmap, if_neg h.nonempty, if_neg h.noDots]
  exact List.take_of_length_le h.short

theorem eq_of_take_eq {n : Nat} {xs ys : List α} (h : xs.take n = ys) (hlength : ys.length < n) :
    xs = ys := by
  have hxs : min n xs.length = ys.length := by rw [← List.length_take, h]
  rw [← h, List.take_of_length_le (by omega)]

theorem sanitizeName_sanitary {name : List Char} (hfallback : Sanitary fallback) :
    Sanitary (sanitizeName fallback name) := by
  have hchars : ∀ c ∈ sanitizeName fallback name, isArtifactChar c = true := fun c hc =>
    sanitizeName_chars (List.all_eq_true.mpr hfallback.chars) hc
  -- the text before it is cut
  have huncut : ∃ uncut : List Char, uncut ≠ [] ∧ ¬(uncut = ['.'] ∨ uncut = ['.', '.']) ∧
      sanitizeName fallback name = uncut.take maxArtifactFilenameBytes := by
    unfold sanitizeName
    dsimp only
    generalize (name.map fun c => if isArtifactChar c then c else '_') = written
    split_ifs with hnone hdots hdots
    · exact absurd hdots hfallback.noDots
    · exact ⟨fallback, hfallback.nonempty, hfallback.noDots, rfl⟩
    · exact ⟨'_' :: written, List.cons_ne_nil _ _, by simp, rfl⟩
    · exact ⟨written, hnone, hdots, rfl⟩
  obtain ⟨uncut, hne, hdots, heq⟩ := huncut
  refine ⟨fun h => ?_, ?_, ?_, hchars⟩
  · exact hne (eq_of_take_eq (heq ▸ h) (by decide))
  · rw [heq]
    exact List.length_take_le _ _
  · rintro (h | h)
    · exact hdots (.inl (eq_of_take_eq (heq ▸ h) (by decide)))
    · exact hdots (.inr (eq_of_take_eq (heq ▸ h) (by decide)))

theorem sanitizeSessionInstanceId_sanitary (id : List Char) :
    Sanitary (sanitizeSessionInstanceId id) :=
  sanitizeName_sanitary ⟨by decide +kernel, by decide +kernel, by decide +kernel,
    List.all_eq_true.mp (by decide +kernel)⟩

theorem utf8Size_of_artifactChar {c : Char} (h : isArtifactChar c = true) : c.utf8Size = 1 := by
  unfold isArtifactChar Char.isAlphanum Char.isAlpha Char.isUpper Char.isLower Char.isDigit at h
  simp only [Bool.or_eq_true, Bool.and_eq_true, decide_eq_true_eq] at h
  have hascii : c.val ≤ 0x7F := by
    rcases h with ((((⟨-, h⟩ | ⟨-, h⟩) | ⟨-, h⟩) | h) | h) | h
    · exact UInt32.le_trans h (by decide)
    · exact UInt32.le_trans h (by decide)
    · exact UInt32.le_trans h (by decide)
    all_goals
      subst h
      decide
  exact if_pos hascii

theorem utf8Len_of_artifactChars {name : List Char} (h : ∀ c ∈ name, isArtifactChar c = true) :
    String.utf8Len name = name.length := by
  induction name with
  | nil => rfl
  | cons c name ih =>
    have htail := ih fun d hd => h d (List.mem_cons_of_mem _ hd)
    rw [String.utf8Len_cons, htail, utf8Size_of_artifactChar (h c List.mem_cons_self),
      List.length_cons]

theorem validateSessionInstanceId_iff {id : String} :
    validateSessionInstanceId id = true ↔ Sanitary id.toList := by
  have hbytes : id.utf8ByteSize = String.utf8Len id.toList := by
    rw [← String.utf8ByteSize_ofList, String.ofList_toList]
  have hempty : id.isEmpty = false ↔ id.toList ≠ [] := by
    rw [Bool.eq_false_iff, ne_eq, String.isEmpty_iff, ne_eq, String.toList_eq_nil_iff]
  have hdot : id = "." ↔ id.toList = ['.'] := by rw [← String.toList_inj]; rfl
  have hdots : id = ".." ↔ id.toList = ['.', '.'] := by rw [← String.toList_inj]; rfl
  have hsame : isSessionChar = isArtifactChar := rfl
  unfold validateSessionInstanceId
  simp only [Bool.and_eq_true, Bool.not_eq_true', Bool.or_eq_false_iff, decide_eq_false_iff_not,
    List.all_eq_true, hbytes, hsame, hempty, hdot, hdots]
  constructor
  · rintro ⟨⟨⟨hne, hshort⟩, hdot, hdots⟩, hchars⟩
    rw [utf8Len_of_artifactChars hchars] at hshort
    exact ⟨hne, by unfold maxArtifactFilenameBytes; omega, not_or_intro hdot hdots, hchars⟩
  · intro h
    have hshort := h.short
    unfold maxArtifactFilenameBytes at hshort
    rw [utf8Len_of_artifactChars h.chars]
    exact ⟨⟨⟨h.nonempty, by omega⟩, not_or.mp h.noDots⟩, h.chars⟩

theorem sanitizeSessionInstanceId_valid (id : String) :
    validateSessionInstanceId (.ofList (sanitizeSessionInstanceId id.toList)) = true := by
  rw [validateSessionInstanceId_iff, String.toList_ofList]
  exact sanitizeSessionInstanceId_sanitary id.toList

theorem sanitizeSessionInstanceId_of_valid {id : String}
    (h : validateSessionInstanceId id = true) :
    sanitizeSessionInstanceId id.toList = id.toList :=
  (validateSessionInstanceId_iff.mp h).sanitizeName

/-! When two artifacts have one path. -/

theorem joinName_inj {directory : PathBuf} {name name' : List Char} :
    joinName directory name = joinName directory name' ↔ name = name' := by
  unfold joinName
  split_ifs
  · exact List.append_right_inj directory
  · rw [List.append_right_inj, List.cons.injEq]
    exact and_iff_right rfl

theorem sessionArtifactPath_eq_iff (hsession : validateSessionInstanceId session = true)
    (hsession' : validateSessionInstanceId session' = true) (artifact artifact' : String) :
    sessionArtifactPath runtimeDir session artifact =
        sessionArtifactPath runtimeDir session' artifact' ↔
      (session = session' ∧ storedName artifact = storedName artifact') ∨
        Continues session artifact session' artifact' ∨
          Continues session' artifact' session artifact := by
  unfold sessionArtifactPath sessionArtifactName
  rw [joinName_inj, sanitizeSessionInstanceId_of_valid hsession,
    sanitizeSessionInstanceId_of_valid hsession']
  simp only [List.append_assoc, List.cons_append]
  rw [List.append_cancel_left_eq, ← List.cons_append, ← List.cons_append, ← List.append_assoc,
    ← List.append_assoc, List.append_cancel_right_eq, append_cons_eq_iff, String.toList_inj]
  rfl

theorem Continues.ne {artifact artifact' : String}
    (h : Continues session artifact session' artifact') : session ≠ session' := by
  rintro rfl
  obtain ⟨text, hsession, -⟩ := h
  have hlength := congrArg List.length hsession
  rw [List.length_append, List.length_cons] at hlength
  omega

/-- Valid sessions that share a runtime directory find each other's artifacts exactly where the
artifacts are confused. -/
theorem apart_iff (hsession : validateSessionInstanceId session = true)
    (hsession' : validateSessionInstanceId session' = true) (artifact artifact' : String) :
    (sessionArtifactPath runtimeDir session artifact =
        sessionArtifactPath runtimeDir session' artifact' →
      session = session' ∧ artifact = artifact') ↔
      ¬Confused session artifact session' artifact' := by
  rw [sessionArtifactPath_eq_iff hsession hsession']
  constructor
  · rintro happart (⟨hsame, hartifact, hstored⟩ | hcontinues | hcontinues)
    · exact hartifact (happart (.inl ⟨hsame, hstored⟩)).2
    · exact hcontinues.ne (happart (.inr (.inl hcontinues))).1
    · exact hcontinues.ne (happart (.inr (.inr hcontinues))).1.symm
  · rintro hclear (⟨hsame, hstored⟩ | hcontinues | hcontinues)
    · refine ⟨hsame, ?_⟩
      by_contra hartifact
      exact hclear (.inl ⟨hsame, hartifact, hstored⟩)
    · exact absurd (.inr (.inl hcontinues)) hclear
    · exact absurd (.inr (.inr hcontinues)) hclear

/-- Sanitizing makes valid ids and leaves them; the artifacts of valid sessions are apart but
for confused ones. -/
theorem sessions_isolated_iff (id : String) (runtimeDir : PathBuf) (session session' : String)
    (artifact artifact' : ServiceArtifact) :
    (validateSessionInstanceId (.ofList (sanitizeSessionInstanceId id.toList)) = true ∧
      sanitizeSessionInstanceId (sanitizeSessionInstanceId id.toList) =
        sanitizeSessionInstanceId id.toList) ∧
      (validateSessionInstanceId session = true → validateSessionInstanceId session' = true →
        ((sessionArtifactPath runtimeDir session artifact.name =
            sessionArtifactPath runtimeDir session' artifact'.name →
          session = session' ∧ artifact.name = artifact'.name) ↔
          ¬Confused session artifact.name session' artifact'.name)) := by
  constructor
  · have hsanitary := sanitizeSessionInstanceId_sanitary id.toList
    exact ⟨sanitizeSessionInstanceId_valid id, hsanitary.sanitizeName⟩
  · intro hsession hsession'
    exact apart_iff hsession hsession' artifact.name artifact'.name

/-! The artifacts without the name of an output are never confused. -/

def serviceRoles : List ServiceRole :=
  [.displayd, .waylandd, .compd, .lockd, .sessiond, .watchdog, .x11Bridge]

def resumeScenarios : List ResumeScenario :=
  [.normal, .displaydTrouble, .compdTrouble, .lockdTrouble]

/-- Every artifact without the name of an output. -/
def controlArtifacts : List ServiceArtifact :=
  [.lockdState, .sessiondState, .activeProfile, .launchState, .profileTransition,
    .bindingCollisionReport, .watchdogReport, .sceneSnapshot, .surfaceRegistry] ++
  serviceRoles.map .bindingResolution ++ serviceRoles.map .watchdogActionExecution ++
  serviceRoles.map .watchdogRecovery ++ resumeScenarios.map .lockUiPath ++
  resumeScenarios.map .resumeTrace

theorem mem_controlArtifacts (h : ¬artifact.OfOutput) : artifact ∈ controlArtifacts := by
  cases artifact with
  | bindingResolution service => cases service <;> decide
  | watchdogActionExecution role => cases role <;> decide
  | watchdogRecovery role => cases role <;> decide
  | lockUiPath scenario => cases scenario <;> decide
  | resumeTrace scenario => cases scenario <;> decide
  | recording output started => exact absurd trivial h
  | screenshot output unixTimestamp => exact absurd trivial h
  | headlessScreenshot output sceneGeneration frameId => exact absurd trivial h
  | _ => decide

theorem controlArtifacts_stored :
    ∀ artifact ∈ controlArtifacts, storedName artifact.name = artifact.name.toList := by
  decide +kernel

theorem controlArtifacts_clear : ∀ artifact ∈ controlArtifacts, ∀ artifact' ∈ controlArtifacts,
    ('-' :: artifact'.name.toList).isSuffixOf artifact.name.toList = false := by
  decide +kernel

theorem controlArtifacts_not_continues (h : ¬artifact.OfOutput) (h' : ¬artifact'.OfOutput)
    (session session' : String) : ¬Continues session artifact.name session' artifact'.name := by
  have hmem := mem_controlArtifacts h
  have hmem' := mem_controlArtifacts h'
  rintro ⟨text, -, hname⟩
  rw [controlArtifacts_stored artifact hmem, controlArtifacts_stored artifact' hmem'] at hname
  have hsuffix : ('-' :: artifact'.name.toList).isSuffixOf artifact.name.toList = true :=
    List.isSuffixOf_iff_suffix.mpr ⟨text, hname.symm⟩
  rw [controlArtifacts_clear artifact hmem artifact' hmem'] at hsuffix
  cases hsuffix

/-- No two sessions share the path of an artifact that holds no output. -/
theorem controlArtifacts_not_confused (h : ¬artifact.OfOutput) (h' : ¬artifact'.OfOutput)
    (session session' : String) : ¬Confused session artifact.name session' artifact'.name := by
  rintro (⟨-, hne, hstored⟩ | hcontinues | hcontinues)
  · rw [controlArtifacts_stored artifact (mem_controlArtifacts h),
      controlArtifacts_stored artifact' (mem_controlArtifacts h'), String.toList_inj] at hstored
    exact hne hstored
  · exact controlArtifacts_not_continues h h' session session' hcontinues
  · exact controlArtifacts_not_continues h' h session' session hcontinues

/-- A picture of one session is the picture of another output in a second session. -/
theorem screenshots_confused :
    ¬∀ (runtimeDir : PathBuf) (session session' : String) (artifact artifact' : ServiceArtifact),
      validateSessionInstanceId session = true → validateSessionInstanceId session' = true →
      sessionArtifactPath runtimeDir session artifact.name =
        sessionArtifactPath runtimeDir session' artifact'.name →
      session = session' ∧ artifact.name = artifact'.name := by
  intro hisolated
  have hpath := hisolated "/run".toList "a" "a-headless" (.headlessScreenshot "HDMI-1" 7 2)
    (.screenshot "HDMI-1-7" 2) (by decide +kernel) (by decide +kernel) (by decide +kernel)
  exact absurd hpath.1 (by decide)

end TuffXwin
