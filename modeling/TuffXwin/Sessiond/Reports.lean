import TuffXwin.Lib.Fold
import TuffXwin.Lib.Machine
import TuffXwin.Watchdog.Inspection

/-! What a report of the watchdog makes of the active profile. A report has to name the
profile and its components; a report of the watchdog's own inspection does. -/

namespace TuffXwin.Sessiond
open Lib Watchdog

variable {activeProfile profile : DesktopProfile} {report : SessionWatchdogReport}
  {sessionInstanceId : String} {profiles : List DesktopProfile}
variable {target : DesktopProfile}

def roleDebug : DesktopComponentRole → String
  | .compatLayer => "CompatLayer"
  | .windowManager => "WindowManager"
  | .shell => "Shell"
  | .panel => "Panel"
  | .settingsDaemon => "SettingsDaemon"
  | .applet => "Applet"
  | .portal => "Portal"
  | .lockScreen => "LockScreen"

/-- The component checks, with the ids seen before. -/
def validateReportComponents (activeProfile : DesktopProfile) :
    List String → List SessionWatchdogComponentReport → Except String Unit
  | _, [] => .ok ()
  | seen, component :: components =>
    if component.id ∈ seen then
      .error ("watchdog report contains duplicate component " ++ component.id)
    else
      match activeProfile.sessionComponents.find? (·.id = component.id) with
      | none =>
        .error ("watchdog report references component " ++ component.id ++
          " outside active profile")
      | some expected =>
        if expected.role ≠ component.role then
          .error ("watchdog report role mismatch for " ++ component.id ++ ": expected " ++
            roleDebug expected.role ++ ", got " ++ roleDebug component.role)
        else if expected.critical ≠ component.critical then
          .error ("watchdog report criticality mismatch for " ++ component.id)
        else
          validateReportComponents activeProfile (component.id :: seen) components

def countsText (healthy unhealthy inactive : Nat) : String :=
  "(" ++ toString healthy ++ "," ++ toString unhealthy ++ "," ++ toString inactive ++ ")"

def validateReportCounts (report : SessionWatchdogReport) : Except String Unit :=
  match (usizeChecked (report.healthyComponents + report.unhealthyComponents)).bind
      fun sum => usizeChecked (sum + report.inactiveComponents) with
  | none => .error "watchdog report component count overflow"
  | some reportedTotal =>
    if reportedTotal ≠ report.components.length then
      .error ("watchdog report component counts do not match payload: counts=" ++
        toString reportedTotal ++ " payload=" ++ toString report.components.length)
    else if (report.healthyComponents, report.unhealthyComponents, report.inactiveComponents) ≠
        (countStatus .healthy report.components, countStatus .unhealthy report.components,
          countStatus .inactive report.components) then
      .error ("watchdog report status counts do not match component states: reported=" ++
        countsText report.healthyComponents report.unhealthyComponents
          report.inactiveComponents ++ " actual=" ++
        countsText (countStatus .healthy report.components)
          (countStatus .unhealthy report.components) (countStatus .inactive report.components))
    else
      .ok ()

def validateWatchdogReportIdentity (activeProfile : DesktopProfile)
    (report : SessionWatchdogReport) (sessionInstanceId : String) : Except String Unit :=
  if report.sessionInstanceId ≠ sessionInstanceId then
    .error ("watchdog report session instance " ++ report.sessionInstanceId ++
      " does not match active session " ++ sessionInstanceId)
  else if report.profileId ≠ activeProfile.id then
    .error ("watchdog report profile " ++ report.profileId ++
      " does not match active profile " ++ activeProfile.id)
  else if report.protocol ≠ activeProfile.protocol then
    .error "watchdog report protocol does not match active profile"
  else if report.displayName ≠ activeProfile.displayName then
    .error "watchdog report display name does not match active profile"
  else do
    validateReportCounts report
    validateReportComponents activeProfile [] report.components

inductive WatchdogApplyOutcome
  | transition (targetProfile : DesktopProfile) (transition : SessionProfileTransition)
  | unchanged (profileId reason : String)
  deriving DecidableEq, Repr

def degradedTriggerComponentIds (report : SessionWatchdogReport) : List String :=
  (report.components.filter fun component => component.action = .degradedProfile).map (·.id)

def profileTransition (activeProfile targetProfile : DesktopProfile)
    (triggerComponentIds : List String) (now : Nat) : SessionProfileTransition :=
  { sourceProfileId := activeProfile.id
    sourceDisplayName := activeProfile.displayName
    targetProfileId := targetProfile.id
    targetDisplayName := targetProfile.displayName
    reason := "watchdog requested degraded profile switch"
    triggerComponentIds
    unixTimestamp := now }

def applyWatchdogReport (activeProfile : DesktopProfile) (profiles : List DesktopProfile)
    (report : SessionWatchdogReport) (sessionInstanceId : String) (now : Nat) :
    Except String WatchdogApplyOutcome := do
  validateWatchdogReportIdentity activeProfile report sessionInstanceId
  if degradedTriggerComponentIds report = [] then
    return .unchanged activeProfile.id "watchdog report did not request degraded profile switch"
  else
    match activeProfile.degradedProfileId with
    | none =>
      return .unchanged activeProfile.id
        ("active profile " ++ activeProfile.id ++ " has no degraded fallback")
    | some targetProfileId =>
      if targetProfileId = activeProfile.id then
        throw ("active profile " ++ activeProfile.id ++ " cannot degrade to itself")
      else
        match profiles.find? (·.id = targetProfileId) with
        | none => throw ("unknown degraded profile id: " ++ targetProfileId)
        | some targetProfile =>
          return .transition targetProfile
            (profileTransition activeProfile targetProfile (degradedTriggerComponentIds report)
              now)

/-- The profile that a degraded profile id leads to. -/
def degradesTo (profiles : List DesktopProfile) (profile : DesktopProfile) :
    Option DesktopProfile :=
  match profile.degradedProfileId with
  | none => none
  | some targetProfileId =>
    if targetProfileId = profile.id then none else profiles.find? (·.id = targetProfileId)

theorem degradesTo_other (h : degradesTo profiles profile = some target) :
    target.id ≠ profile.id := by
  unfold degradesTo at h
  cases hid : profile.degradedProfileId with
  | none => simp [hid] at h
  | some id =>
    simp only [hid] at h
    split_ifs at h with hself
    have htarget : target.id = id := by simpa using List.find?_some h
    rw [htarget]
    exact hself

/-- A degraded profile id is that of another loaded profile. -/
def TargetKnown (profiles : List DesktopProfile) (profile : DesktopProfile) : Prop :=
  ∀ id, profile.degradedProfileId = some id →
    id ≠ profile.id ∧ ∃ target ∈ profiles, target.id = id

theorem degradesTo_of_known (h : TargetKnown profiles profile) {id : String}
    (hid : profile.degradedProfileId = some id) :
    ∃ target, profiles.find? (·.id = id) = some target ∧
      degradesTo profiles profile = some target := by
  obtain ⟨hother, target, hmem, htarget⟩ := h id hid
  have hfound : (profiles.find? (·.id = id)).isSome := by
    rw [List.find?_isSome]
    exact ⟨target, hmem, by simp [htarget]⟩
  obtain ⟨found, hfound⟩ := Option.isSome_iff_exists.mp hfound
  exact ⟨found, hfound, by simp [degradesTo, hid, hother, hfound]⟩

theorem targetKnown_of_degradesTo (h : degradesTo profiles profile = some target) :
    TargetKnown profiles profile := by
  intro id hid
  unfold degradesTo at h
  simp only [hid] at h
  split_ifs at h with hself
  have htarget := List.find?_some h
  exact ⟨hself, target, List.mem_of_find?_eq_some h, of_decide_eq_true htarget⟩

theorem applyWatchdogReport_transition {targetProfile : DesktopProfile} {now : Nat}
    {transition : SessionProfileTransition}
    (h : applyWatchdogReport activeProfile profiles report sessionInstanceId now =
      .ok (.transition targetProfile transition)) :
    validateWatchdogReportIdentity activeProfile report sessionInstanceId = .ok () ∧
      degradedTriggerComponentIds report ≠ [] ∧
      degradesTo profiles activeProfile = some targetProfile := by
  unfold applyWatchdogReport at h
  obtain ⟨_, hvalid, h⟩ := bind_eq_ok.mp h
  split_ifs at h with htriggers
  · cases h
  refine ⟨hvalid, htriggers, ?_⟩
  cases hid : activeProfile.degradedProfileId with
  | none =>
    rw [hid] at h
    cases h
  | some id =>
    rw [hid] at h
    dsimp only at h
    split_ifs at h with hself
    cases hfound : profiles.find? (·.id = id) with
    | none =>
      rw [hfound] at h
      cases h
    | some found =>
      rw [hfound] at h
      have hsame : found = targetProfile := by
        have hoks := Except.ok.inj h
        exact (WatchdogApplyOutcome.transition.inj hoks).1
      simp [degradesTo, hid, hself, hfound, hsame]

/-- What a valid report does. -/
theorem applyWatchdogReport_valid (profiles : List DesktopProfile) (now : Nat)
    (h : validateWatchdogReportIdentity activeProfile report sessionInstanceId = .ok ())
    (htriggers : degradedTriggerComponentIds report ≠ []) :
    (∀ target, degradesTo profiles activeProfile = some target →
      ∃ transition, applyWatchdogReport activeProfile profiles report sessionInstanceId now =
        .ok (.transition target transition)) ∧
    (degradesTo profiles activeProfile = none → activeProfile.degradedProfileId ≠ none →
      ∃ err, applyWatchdogReport activeProfile profiles report sessionInstanceId now =
        .error err) ∧
    (activeProfile.degradedProfileId = none →
      ∃ profileId reason,
        applyWatchdogReport activeProfile profiles report sessionInstanceId now =
          .ok (.unchanged profileId reason)) := by
  unfold applyWatchdogReport degradesTo
  rw [h]
  simp only [if_neg htriggers]
  cases activeProfile.degradedProfileId with
  | none =>
    refine ⟨fun target htarget => (by cases htarget), fun _ hnone => absurd rfl hnone, fun _ => ?_⟩
    exact ⟨_, _, rfl⟩
  | some id =>
    dsimp only
    refine ⟨fun target htarget => ?_, fun hnone _ => ?_, fun hnone => (by cases hnone)⟩
    · split_ifs at htarget with hself
      rw [if_neg hself, htarget]
      exact ⟨_, rfl⟩
    · split_ifs with hself
      · exact ⟨_, rfl⟩
      · rw [if_neg hself] at hnone
        rw [hnone]
        exact ⟨_, rfl⟩

theorem validateWatchdogReportIdentity_components
    (h : validateWatchdogReportIdentity activeProfile report sessionInstanceId = .ok ()) :
    validateReportComponents activeProfile [] report.components = .ok () := by
  unfold validateWatchdogReportIdentity at h
  split_ifs at h
  obtain ⟨_, -, hcomponents⟩ := bind_eq_ok.mp h
  exact hcomponents

/-- A report that asks for a switch names a component of the profile. -/
theorem components_of_triggered
    (h : validateWatchdogReportIdentity activeProfile report sessionInstanceId = .ok ())
    (htriggers : degradedTriggerComponentIds report ≠ []) :
    activeProfile.sessionComponents ≠ [] := by
  intro hempty
  have hcomponents := validateWatchdogReportIdentity_components h
  apply htriggers
  cases hreport : report.components with
  | nil => simp [degradedTriggerComponentIds, hreport]
  | cons component components =>
    rw [hreport, validateReportComponents, hempty] at hcomponents
    simp at hcomponents

/-! The reports of the watchdog's own inspection. -/

/-- What a state and a profile have to agree on about a component. -/
abbrev ComponentIdentity : Type := String × DesktopComponentRole × Bool

def componentIdentity (component : DesktopComponent) : ComponentIdentity :=
  (component.id, component.role, component.critical)

def stateIdentity (component : SessionLaunchComponentState) : ComponentIdentity :=
  (component.id, component.role, component.critical)

/-- A launch state of a profile in a session, whatever its components are doing. -/
structure StateOf (profile : DesktopProfile) (sessionInstanceId : String)
    (state : SessionLaunchState) : Prop where
  profileId : state.profileId = profile.id
  session : state.sessionInstanceId = sessionInstanceId
  displayName : state.displayName = profile.displayName
  protocol : state.protocol = profile.protocol
  components : state.components.map stateIdentity =
    profile.sessionComponents.map componentIdentity
  distinct : (state.components.map (·.id)).Nodup
  bounded : state.components.length ≤ u64Max

/-- A report that the watchdog computes for a launch state of the profile. -/
def ReportOf (profile : DesktopProfile) (sessionInstanceId : String)
    (report : SessionWatchdogReport) : Prop :=
  ∃ alive now state, StateOf profile sessionInstanceId state ∧
    report = inspectLaunchState alive now state

theorem validateReportCounts_inspect (alive : Nat → Bool) (now : Nat)
    {state : SessionLaunchState} (h : state.components.length ≤ u64Max) :
    validateReportCounts (inspectLaunchState alive now state) = .ok () := by
  have htotal := countStatus_total (state.components.map (inspectComponent alive))
  rw [List.length_map] at htotal
  have hfirst : usizeChecked
      (countStatus .healthy (state.components.map (inspectComponent alive)) +
        countStatus .unhealthy (state.components.map (inspectComponent alive))) =
      some (countStatus .healthy (state.components.map (inspectComponent alive)) +
        countStatus .unhealthy (state.components.map (inspectComponent alive))) := by
    rw [usizeChecked_eq_some]
    exact ⟨by omega, rfl⟩
  have hsum : usizeChecked state.components.length = some state.components.length := by
    rw [usizeChecked_eq_some]
    exact ⟨h, rfl⟩
  simp only [validateReportCounts, inspectLaunchState, hfirst, Option.bind_some, htotal, hsum,
    List.length_map]
  simp

theorem validateReportComponents_ok (hdistinct : (profile.sessionComponents.map (·.id)).Nodup)
    {seen : List String} {components : List SessionWatchdogComponentReport}
    (hnodup : (components.map (·.id)).Nodup) (hseen : ∀ component ∈ components, component.id ∉ seen)
    (hof : ∀ component ∈ components, ∃ expected ∈ profile.sessionComponents,
      componentIdentity expected = (component.id, component.role, component.critical)) :
    validateReportComponents profile seen components = .ok () := by
  induction components generalizing seen with
  | nil => rfl
  | cons component components ih =>
    rw [List.map_cons, List.nodup_cons] at hnodup
    obtain ⟨expected, hexpected, hidentity⟩ := hof component List.mem_cons_self
    rw [componentIdentity, Prod.mk.injEq, Prod.mk.injEq] at hidentity
    have hfound : profile.sessionComponents.find? (·.id = component.id) = some expected := by
      rw [List.find?_eq_some_iff_append]
      obtain ⟨before, after, hsplit⟩ := List.append_of_mem hexpected
      refine ⟨by simp [hidentity.1], before, after, hsplit, fun other hother => ?_⟩
      rw [hsplit, List.map_append, List.map_cons, List.nodup_append] at hdistinct
      have hne := hdistinct.2.2 other.id (List.mem_map_of_mem hother) expected.id
        List.mem_cons_self
      simpa [hidentity.1] using hne
    rw [validateReportComponents, if_neg (hseen component List.mem_cons_self), hfound]
    simp only [hidentity.2.1, hidentity.2.2, ne_eq, not_true_eq_false, if_false]
    refine ih hnodup.2 (fun other hother hmem => ?_) fun other hother =>
      hof other (List.mem_cons_of_mem _ hother)
    rcases List.mem_cons.mp hmem with hsame | hmem
    · exact hnodup.1 (hsame ▸ List.mem_map_of_mem hother)
    · exact hseen other (List.mem_cons_of_mem _ hother) hmem

theorem ReportOf.valid (h : ReportOf profile sessionInstanceId report) :
    validateWatchdogReportIdentity profile report sessionInstanceId = .ok () := by
  obtain ⟨alive, now, state, hstate, rfl⟩ := h
  have hids : state.components.map (·.id) = profile.sessionComponents.map (·.id) := by
    have hmapped := congrArg (List.map Prod.fst) hstate.components
    simpa only [List.map_map, Function.comp_def, stateIdentity, componentIdentity] using hmapped
  have hcomponents : validateReportComponents profile []
      (state.components.map (inspectComponent alive)) = .ok () := by
    refine validateReportComponents_ok (hids ▸ hstate.distinct) ?_ (by simp) ?_
    · rw [List.map_map]
      exact hstate.distinct
    · intro component hmem
      obtain ⟨before, hbefore, rfl⟩ := List.mem_map.mp hmem
      have hidentity : stateIdentity before ∈ profile.sessionComponents.map componentIdentity :=
        hstate.components ▸ List.mem_map_of_mem hbefore
      obtain ⟨expected, hexpected, hsame⟩ := List.mem_map.mp hidentity
      exact ⟨expected, hexpected, hsame⟩
  simp only [validateWatchdogReportIdentity, inspectLaunchState, hstate.session, hstate.profileId,
    hstate.protocol, hstate.displayName, ne_eq, not_true_eq_false, if_false]
  have hcounts := validateReportCounts_inspect alive now hstate.bounded
  rw [inspectLaunchState, hstate.session, hstate.profileId, hstate.protocol,
    hstate.displayName] at hcounts
  rw [hcounts, hcomponents]
  rfl

end TuffXwin.Sessiond
