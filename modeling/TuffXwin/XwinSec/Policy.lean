import Mathlib.Tactic.Common

/-! What clients may do. A decision looks for one grant at most; all that grants can change
follows from where it looks. The capture of a screen without a surface asks for a grant that
it never looks for. -/

namespace TuffXwin.XwinSec

structure ClientId where
  value : String
  deriving DecidableEq, Repr

structure SurfaceId where
  value : String
  deriving DecidableEq, Repr

structure AppId where
  value : String
  deriving DecidableEq, Repr

inductive ClientKind
  | browser | nativeApp | systemApp | unknown
  deriving DecidableEq, Repr

inductive ClientTrust
  | trustedSystem | userApp | hostile | unknown
  deriving DecidableEq, Repr

structure ClientProfile where
  clientId : ClientId
  appId : AppId
  primarySurface : Option SurfaceId := none
  kind : ClientKind
  trust : ClientTrust
  deriving DecidableEq, Repr

def ClientProfile.effectiveTrust (client : ClientProfile) : ClientTrust :=
  match client.kind with
  | .browser | .unknown => .hostile
  | .nativeApp | .systemApp => client.trust

inductive XwinCapability
  | readClipboard | writeClipboard | useFilePicker | receiveDroppedData | sendDroppedData
  | requestScreenCapture | readOwnSurface | readOtherSurface | receiveImeText
  | observeGlobalInput | useGpuBuffer | shareGpuBuffer | requestCompositorPrivilegedOperation
  deriving DecidableEq, Repr

variable {capability : XwinCapability}

inductive GrantScope
  | selectedHandle
  | surface (id : SurfaceId)
  | app (id : AppId)
  | visibleSurface (id : SurfaceId)
  | session
  | compositor
  deriving DecidableEq, Repr

variable {scope : GrantScope}

inductive GrantLifetime
  | oneShot | untilFocusChanges | untilSessionEnd | persisted
  deriving DecidableEq, Repr

structure CapabilityGrant where
  capability : XwinCapability
  scope : GrantScope
  lifetime : GrantLifetime
  deriving DecidableEq, Repr

inductive DecisionReason
  | browserHostileDefaultDeny | unknownClientDefaultDeny | crossSurfaceReadDenied
  | globalInputDenied | clipboardRequiresGrant | selectedHandleOnly
  | mediatedDragAndDropRequired | screenCaptureRequiresVisibleGrant | imeCrossWindowDenied
  | gpuBufferShareRequiresGrant | compositorPrivilegeDenied | grantMissing
  | unknownCapabilityDenied | noAmbientFilesystemAccess
  deriving DecidableEq, Repr

inductive SecurityDecision
  | allow
  | deny (reason : DecisionReason)
  | requireUserGrant (grant : CapabilityGrant) (reason : DecisionReason)
  | degrade (reason : DecisionReason)
  deriving DecidableEq, Repr

structure PolicyContext where
  client : ClientProfile
  sourceSurface : Option SurfaceId := none
  targetSurface : Option SurfaceId := none
  focusSurface : Option SurfaceId := none
  visibleSurface : Option SurfaceId := none
  grants : List CapabilityGrant := []
  deriving DecidableEq, Repr

variable {ctx : PolicyContext}

namespace PolicyContext

def withGrant (ctx : PolicyContext) (grant : CapabilityGrant) : PolicyContext :=
  { ctx with grants := ctx.grants ++ [grant] }

def hasGrant (ctx : PolicyContext) (capability : XwinCapability) (scope : GrantScope) : Bool :=
  ctx.grants.any fun grant => grant.capability = capability ∧ grant.scope = scope

theorem hasGrant_withGrant {grant : CapabilityGrant} :
    (ctx.withGrant grant).hasGrant capability scope = true ↔
      ctx.hasGrant capability scope = true ∨
        grant.capability = capability ∧ grant.scope = scope := by
  simp [hasGrant, withGrant]

end PolicyContext

/-! The policy. -/

namespace BrowserSecurityPolicy

def sameSurface (left right : Option SurfaceId) : Bool :=
  match left, right with
  | some a, some b => a = b
  | _, _ => false

/-- Allowed by a grant of the scope, which the user is asked for otherwise. -/
def promptedByGrant (ctx : PolicyContext) (capability : XwinCapability) (scope : GrantScope)
    (reason : DecisionReason) : SecurityDecision :=
  if ctx.hasGrant capability scope then .allow
  else .requireUserGrant ⟨capability, scope, .oneShot⟩ reason

/-- The surface that a capture of the screen is of. -/
def capturedSurface (ctx : PolicyContext) : Option SurfaceId :=
  ctx.visibleSurface <|> ctx.targetSurface <|> ctx.sourceSurface

def allowedForUserApp (ctx : PolicyContext) (capability : XwinCapability) : SecurityDecision :=
  match capability with
  | .readOwnSurface =>
    if sameSurface ctx.sourceSurface ctx.targetSurface then .allow
    else .deny .crossSurfaceReadDenied
  | .readOtherSurface =>
    match ctx.targetSurface with
    | some target =>
      if ctx.hasGrant capability (.surface target) then .allow else .deny .crossSurfaceReadDenied
    | none => .deny .crossSurfaceReadDenied
  | .observeGlobalInput => .deny .globalInputDenied
  | .readClipboard | .writeClipboard =>
    promptedByGrant ctx capability (.app ctx.client.appId) .clipboardRequiresGrant
  | .useFilePicker =>
    .requireUserGrant ⟨capability, .selectedHandle, .oneShot⟩ .selectedHandleOnly
  | .receiveDroppedData | .sendDroppedData =>
    promptedByGrant ctx capability (.app ctx.client.appId) .mediatedDragAndDropRequired
  | .requestScreenCapture =>
    match capturedSurface ctx with
    | some surface =>
      promptedByGrant ctx capability (.visibleSurface surface) .screenCaptureRequiresVisibleGrant
    | none =>
      .requireUserGrant ⟨capability, .session, .oneShot⟩ .screenCaptureRequiresVisibleGrant
  | .receiveImeText =>
    if sameSurface ctx.focusSurface ctx.sourceSurface then .allow
    else .deny .imeCrossWindowDenied
  | .useGpuBuffer => .allow
  | .shareGpuBuffer =>
    promptedByGrant ctx capability (.app ctx.client.appId) .gpuBufferShareRequiresGrant
  | .requestCompositorPrivilegedOperation => .deny .compositorPrivilegeDenied

def allowedForTrustedSystem (ctx : PolicyContext) (capability : XwinCapability) :
    SecurityDecision :=
  match capability with
  | .observeGlobalInput => .deny .globalInputDenied
  | .requestCompositorPrivilegedOperation =>
    promptedByGrant ctx capability .compositor .compositorPrivilegeDenied
  | .shareGpuBuffer =>
    promptedByGrant ctx capability (.app ctx.client.appId) .gpuBufferShareRequiresGrant
  | _ => allowedForUserApp ctx capability

def allowedForHostile (ctx : PolicyContext) (capability : XwinCapability) : SecurityDecision :=
  match capability with
  | .observeGlobalInput => .deny .globalInputDenied
  | .useGpuBuffer => .allow
  | .requestCompositorPrivilegedOperation => .deny .compositorPrivilegeDenied
  | _ => allowedForUserApp ctx capability

def decide (ctx : PolicyContext) (capability : XwinCapability) : SecurityDecision :=
  match ctx.client.kind, ctx.client.effectiveTrust with
  | .systemApp, .trustedSystem => allowedForTrustedSystem ctx capability
  | .nativeApp, .userApp => allowedForUserApp ctx capability
  | .browser, _ => allowedForHostile ctx capability
  | .unknown, _ => .deny .unknownClientDefaultDeny
  | _, _ => .deny .browserHostileDefaultDeny

/-! Where a decision looks for a grant. -/

def consultedForUserApp (ctx : PolicyContext) : XwinCapability → Option GrantScope
  | .readClipboard | .writeClipboard | .receiveDroppedData | .sendDroppedData | .shareGpuBuffer =>
    some (.app ctx.client.appId)
  | .readOtherSurface => ctx.targetSurface.map .surface
  | .requestScreenCapture => (capturedSurface ctx).map .visibleSurface
  | _ => none

/-- The scope of the only grant that the decision depends on. -/
def consulted (ctx : PolicyContext) (capability : XwinCapability) : Option GrantScope :=
  match ctx.client.kind, ctx.client.trust with
  | .systemApp, .trustedSystem =>
    if capability = .requestCompositorPrivilegedOperation then some .compositor
    else consultedForUserApp ctx capability
  | .nativeApp, .userApp | .browser, _ => consultedForUserApp ctx capability
  | _, _ => none

def ungranted (ctx : PolicyContext) : PolicyContext := { ctx with grants := [] }

/-- The decision where the grant of the scope is there, and where it is not. -/
def decidedBy (ctx : PolicyContext) (capability : XwinCapability) (scope : Option GrantScope)
    (otherwise : SecurityDecision) : SecurityDecision :=
  if scope.any (ctx.hasGrant capability) then .allow else otherwise

section Consulted

variable {ctx : PolicyContext} {capability : XwinCapability} {grant : CapabilityGrant}
  {scope : GrantScope} {reason : DecisionReason}

@[simp] theorem hasGrant_ungranted : (ungranted ctx).hasGrant capability scope = false := rfl

@[simp] theorem ungranted_client : (ungranted ctx).client = ctx.client := rfl

@[simp] theorem ungranted_targetSurface : (ungranted ctx).targetSurface = ctx.targetSurface := rfl

@[simp] theorem capturedSurface_ungranted :
    capturedSurface (ungranted ctx) = capturedSurface ctx := rfl

theorem allowedForUserApp_eq : allowedForUserApp ctx capability =
    decidedBy ctx capability (consultedForUserApp ctx capability)
      (allowedForUserApp (ungranted ctx) capability) := by
  cases capability
  case readOwnSurface => rfl
  case receiveImeText => rfl
  case readOtherSurface =>
    cases htarget : ctx.targetSurface <;>
      simp [allowedForUserApp, consultedForUserApp, decidedBy, htarget]
  case requestScreenCapture =>
    cases hsurface : capturedSurface ctx <;>
      simp [allowedForUserApp, consultedForUserApp, decidedBy, promptedByGrant, hsurface]
  all_goals simp [allowedForUserApp, consultedForUserApp, decidedBy, promptedByGrant]

theorem allowedForTrustedSystem_eq : allowedForTrustedSystem ctx capability =
    decidedBy ctx capability
      (if capability = .requestCompositorPrivilegedOperation then some .compositor
        else consultedForUserApp ctx capability)
      (allowedForTrustedSystem (ungranted ctx) capability) := by
  cases capability
  case observeGlobalInput => rfl
  case shareGpuBuffer => rfl
  case requestCompositorPrivilegedOperation => rfl
  all_goals
    rw [if_neg (by simp)]
    simp only [allowedForTrustedSystem]
    exact allowedForUserApp_eq

theorem allowedForHostile_eq : allowedForHostile ctx capability =
    decidedBy ctx capability (consultedForUserApp ctx capability)
      (allowedForHostile (ungranted ctx) capability) := by
  cases capability
  case observeGlobalInput => rfl
  case useGpuBuffer => rfl
  case requestCompositorPrivilegedOperation => rfl
  all_goals
    simp only [allowedForHostile]
    exact allowedForUserApp_eq

/-- All that the grants decide is whether the one that is consulted is among them. -/
theorem decide_eq (ctx : PolicyContext) (capability : XwinCapability) :
    decide ctx capability =
      decidedBy ctx capability (consulted ctx capability) (decide (ungranted ctx) capability) := by
  obtain ⟨⟨clientId, appId, primary, kind, trust⟩, source, target, focus, visible, grants⟩ := ctx
  cases kind
  case browser => exact allowedForHostile_eq
  case nativeApp =>
    cases trust
    case userApp => exact allowedForUserApp_eq
    all_goals rfl
  case systemApp =>
    cases trust
    case trustedSystem => exact allowedForTrustedSystem_eq
    all_goals rfl
  case unknown => rfl

theorem decidedBy_allow {scope : Option GrantScope} {otherwise : SecurityDecision} :
    decidedBy ctx capability scope otherwise = .allow ↔
      scope.any (ctx.hasGrant capability) = true ∨ otherwise = .allow := by
  unfold decidedBy
  split_ifs with h <;> simp [h]

/-- A grant counts where it has the capability and the scope that is consulted. -/
theorem any_withGrant {scope : Option GrantScope} :
    scope.any ((ctx.withGrant grant).hasGrant capability) = true ↔
      scope.any (ctx.hasGrant capability) = true ∨
        grant.capability = capability ∧ scope = some grant.scope := by
  cases scope with
  | none => simp
  | some scope =>
    rw [Option.any_some, Option.any_some, PolicyContext.hasGrant_withGrant, Option.some.injEq,
      eq_comm (a := scope)]

theorem decide_withGrant : decide (ctx.withGrant grant) capability =
    decidedBy (ctx.withGrant grant) capability (consulted ctx capability)
      (decide (ungranted ctx) capability) := decide_eq (ctx.withGrant grant) capability

/-- A grant that allows has the capability and the scope that is consulted. -/
theorem withGrant_allows (hbefore : decide ctx capability ≠ .allow)
    (hafter : decide (ctx.withGrant grant) capability = .allow) :
    grant.capability = capability ∧ consulted ctx capability = some grant.scope := by
  rw [decide_eq, Ne, decidedBy_allow, not_or] at hbefore
  rw [decide_withGrant, decidedBy_allow, any_withGrant] at hafter
  rcases hafter with (hheld | hnew) | hfixed
  · exact absurd hheld hbefore.1
  · exact hnew
  · exact absurd hfixed hbefore.2

theorem withGrant_keeps (hbefore : decide ctx capability = .allow) :
    decide (ctx.withGrant grant) capability = .allow := by
  rw [decide_eq, decidedBy_allow] at hbefore
  rw [decide_withGrant, decidedBy_allow, any_withGrant]
  exact hbefore.imp_left .inl

/-- Grants for one capability say nothing of another. -/
theorem withGrant_other (hne : grant.capability ≠ capability) :
    decide (ctx.withGrant grant) capability = decide ctx capability := by
  have hsame : ∀ scope : Option GrantScope,
      scope.any ((ctx.withGrant grant).hasGrant capability) =
        scope.any (ctx.hasGrant capability) := by
    intro scope
    rw [Bool.eq_iff_iff, any_withGrant]
    simp [hne]
  rw [decide_withGrant, decide_eq ctx capability]
  unfold decidedBy
  rw [hsame]

end Consulted

/-! What a grant is worth. -/

/-- The scope names the client's own app, a surface of the context, or, for a trusted app of the
system, the compositor. -/
def Confined (ctx : PolicyContext) (scope : GrantScope) : Prop :=
  scope = .app ctx.client.appId ∨
  (∃ surface, (scope = .surface surface ∨ scope = .visibleSurface surface) ∧
    (ctx.targetSurface = some surface ∨ ctx.visibleSurface = some surface ∨
      ctx.sourceSurface = some surface)) ∨
  scope = .compositor ∧ ctx.client.kind = .systemApp ∧ ctx.client.trust = .trustedSystem

/-- Grants are monotone, confined and adequate for the capability. -/
structure Sound (ctx : PolicyContext) (capability : XwinCapability) : Prop where
  keeps : ∀ grant, decide ctx capability = .allow →
    decide (ctx.withGrant grant) capability = .allow
  others : ∀ grant, grant.capability ≠ capability →
    decide (ctx.withGrant grant) capability = decide ctx capability
  confined : ∀ grant, decide ctx capability ≠ .allow →
    decide (ctx.withGrant grant) capability = .allow →
      grant.capability = capability ∧ Confined ctx grant.scope
  hostile : ctx.client.kind = .browser ∨ ctx.client.kind = .unknown →
    capability = .observeGlobalInput ∨ capability = .requestCompositorPrivilegedOperation →
      decide ctx capability ≠ .allow
  adequate : ∀ grant reason, capability ≠ .useFilePicker →
    decide ctx capability = .requireUserGrant grant reason →
      decide (ctx.withGrant grant) capability = .allow

/-- The client is of a kind that the policy asks the user about. -/
def Prompted (client : ClientProfile) : Prop :=
  client.kind = .browser ∨ client.kind = .nativeApp ∧ client.trust = .userApp ∨
    client.kind = .systemApp ∧ client.trust = .trustedSystem

section Sound

variable {ctx : PolicyContext} {capability : XwinCapability} {grant : CapabilityGrant}
  {scope : GrantScope} {reason : DecisionReason}

theorem capturedSurface_eq_some {surface : SurfaceId} (h : capturedSurface ctx = some surface) :
    ctx.targetSurface = some surface ∨ ctx.visibleSurface = some surface ∨
      ctx.sourceSurface = some surface := by
  unfold capturedSurface at h
  cases hvisible : ctx.visibleSurface <;> cases htarget : ctx.targetSurface <;> simp_all

theorem consultedForUserApp_confined (h : consultedForUserApp ctx capability = some scope) :
    Confined ctx scope := by
  cases capability
  case readOtherSurface =>
    obtain ⟨surface, htarget, rfl⟩ := Option.map_eq_some_iff.mp h
    exact .inr (.inl ⟨surface, .inl rfl, .inl htarget⟩)
  case requestScreenCapture =>
    obtain ⟨surface, hsurface, rfl⟩ := Option.map_eq_some_iff.mp h
    exact .inr (.inl ⟨surface, .inr rfl, capturedSurface_eq_some hsurface⟩)
  case useFilePicker => cases h
  case readOwnSurface => cases h
  case receiveImeText => cases h
  case observeGlobalInput => cases h
  case useGpuBuffer => cases h
  case requestCompositorPrivilegedOperation => cases h
  all_goals exact .inl (Option.some.inj h).symm

theorem consulted_confined (h : consulted ctx capability = some scope) : Confined ctx scope := by
  unfold consulted at h
  split at h
  · rename_i hkind htrust
    split_ifs at h
    · exact .inr (.inr ⟨(Option.some.inj h).symm, hkind, htrust⟩)
    · exact consultedForUserApp_confined h
  · exact consultedForUserApp_confined h
  · exact consultedForUserApp_confined h
  · cases h

section

variable (hpicker : capability ≠ .useFilePicker)
include hpicker

theorem asked_of_userApp
    (h : allowedForUserApp (ungranted ctx) capability = .requireUserGrant grant reason) :
    grant.capability = capability ∧ (consultedForUserApp ctx capability = some grant.scope ∨
      capability = .requestScreenCapture ∧ capturedSurface ctx = none) := by
  cases capability
  case useFilePicker => exact absurd rfl hpicker
  case readOwnSurface =>
    unfold allowedForUserApp at h
    split_ifs at h
  case receiveImeText =>
    unfold allowedForUserApp at h
    split_ifs at h
  case readOtherSurface =>
    cases htarget : ctx.targetSurface <;> simp [allowedForUserApp, htarget] at h
  case requestScreenCapture =>
    cases hsurface : capturedSurface ctx <;>
      simp [allowedForUserApp, promptedByGrant, hsurface] at h
    · exact ⟨by rw [← h.1], .inr ⟨rfl, rfl⟩⟩
    · refine ⟨by rw [← h.1], .inl ?_⟩
      rw [← h.1]
      simp [consultedForUserApp, hsurface]
  case observeGlobalInput => cases h
  case useGpuBuffer => cases h
  case requestCompositorPrivilegedOperation => cases h
  all_goals
    simp only [allowedForUserApp, promptedByGrant, hasGrant_ungranted, Bool.false_eq_true,
      if_false, ungranted_client, SecurityDecision.requireUserGrant.injEq] at h
    rw [← h.1]
    exact ⟨rfl, .inl rfl⟩

theorem asked_of_hostile
    (h : allowedForHostile (ungranted ctx) capability = .requireUserGrant grant reason) :
    grant.capability = capability ∧ (consultedForUserApp ctx capability = some grant.scope ∨
      capability = .requestScreenCapture ∧ capturedSurface ctx = none) := by
  cases capability
  case observeGlobalInput => cases h
  case useGpuBuffer => cases h
  case requestCompositorPrivilegedOperation => cases h
  all_goals exact asked_of_userApp hpicker h

theorem asked_of_trustedSystem
    (h : allowedForTrustedSystem (ungranted ctx) capability = .requireUserGrant grant reason) :
    grant.capability = capability ∧ ((if capability = .requestCompositorPrivilegedOperation then
        some .compositor else consultedForUserApp ctx capability) = some grant.scope ∨
      capability = .requestScreenCapture ∧ capturedSurface ctx = none) := by
  cases capability
  case observeGlobalInput => cases h
  case requestCompositorPrivilegedOperation =>
    obtain ⟨hgrant, _⟩ := SecurityDecision.requireUserGrant.inj h
    rw [← hgrant]
    exact ⟨rfl, .inl rfl⟩
  case shareGpuBuffer =>
    obtain ⟨hgrant, _⟩ := SecurityDecision.requireUserGrant.inj h
    rw [← hgrant]
    exact ⟨rfl, .inl rfl⟩
  all_goals
    rw [if_neg (by simp)]
    exact asked_of_userApp hpicker h

/-- What the user is asked for is what is consulted, but for a capture of no surface. -/
theorem asked (h : decide (ungranted ctx) capability = .requireUserGrant grant reason) :
    grant.capability = capability ∧ (consulted ctx capability = some grant.scope ∨
      capability = .requestScreenCapture ∧ capturedSurface ctx = none) := by
  obtain ⟨⟨clientId, appId, primary, kind, trust⟩, source, target, focus, visible, grants⟩ := ctx
  cases kind
  case browser => exact asked_of_hostile hpicker h
  case nativeApp =>
    cases trust
    case userApp => exact asked_of_userApp hpicker h
    all_goals cases h
  case systemApp =>
    cases trust
    case trustedSystem => exact asked_of_trustedSystem hpicker h
    all_goals cases h
  case unknown => cases h

end

/-- Where the user is asked for a capture of no surface no answer is enough. -/
theorem capture_unanswered (hclient : Prompted ctx.client) (hnone : capturedSurface ctx = none)
    (grants : List CapabilityGrant) :
    decide { ctx with grants := grants } .requestScreenCapture =
      .requireUserGrant ⟨.requestScreenCapture, .session, .oneShot⟩
        .screenCaptureRequiresVisibleGrant := by
  have huser : allowedForUserApp { ctx with grants := grants } .requestScreenCapture =
      .requireUserGrant ⟨.requestScreenCapture, .session, .oneShot⟩
        .screenCaptureRequiresVisibleGrant := by
    have hsame : capturedSurface { ctx with grants := grants } = none := hnone
    simp only [allowedForUserApp, hsame]
  obtain ⟨⟨clientId, appId, primary, kind, trust⟩, source, target, focus, visible, held⟩ := ctx
  rcases hclient with rfl | ⟨rfl, rfl⟩ | ⟨rfl, rfl⟩
  · exact huser
  · exact huser
  · exact huser

theorem unprompted_unasked (hclient : ¬ Prompted ctx.client) :
    decide ctx capability ≠ .requireUserGrant grant reason := by
  obtain ⟨⟨clientId, appId, primary, kind, trust⟩, source, target, focus, visible, held⟩ := ctx
  cases kind <;> cases trust <;> simp [Prompted] at hclient <;> exact fun h => by cases h

/-- Grants are sound exactly where no capture of the screen is asked of a client that the user is
prompted for without a surface to show. -/
theorem sound_iff (ctx : PolicyContext) (capability : XwinCapability) :
    Sound ctx capability ↔ ¬ (capability = .requestScreenCapture ∧ Prompted ctx.client ∧
      ctx.visibleSurface = none ∧ ctx.targetSurface = none ∧ ctx.sourceSurface = none) := by
  constructor
  · rintro hsound ⟨rfl, hclient, hvisible, htarget, hsource⟩
    have hnone : capturedSurface ctx = none := by
      simp [capturedSurface, hvisible, htarget, hsource]
    have hallowed := hsound.adequate _ _ (by simp) (capture_unanswered hclient hnone ctx.grants)
    have hasked := capture_unanswered hclient hnone
      (ctx.withGrant ⟨.requestScreenCapture, .session, .oneShot⟩).grants
    cases hallowed.symm.trans hasked
  · intro hsurface
    refine ⟨fun grant => withGrant_keeps, fun grant => withGrant_other, ?_, ?_, ?_⟩
    · intro grant hbefore hafter
      obtain ⟨hcapability, hscope⟩ := withGrant_allows hbefore hafter
      exact ⟨hcapability, consulted_confined hscope⟩
    · intro hkind hcapability
      obtain ⟨⟨clientId, appId, primary, kind, trust⟩, source, target, focus, visible, held⟩ := ctx
      rcases hkind with rfl | rfl <;> rcases hcapability with rfl | rfl <;> simp [decide,
        allowedForHostile]
    · intro grant reason hpicker hasked
      have hfixed : decide (ungranted ctx) capability = .requireUserGrant grant reason := by
        rw [decide_eq] at hasked
        unfold decidedBy at hasked
        split_ifs at hasked
        exact hasked
      obtain ⟨hcapability, hscope | ⟨hcapture, hnone⟩⟩ := asked hpicker hfixed
      · rw [decide_withGrant, decidedBy_allow, any_withGrant]
        exact .inl (.inr ⟨hcapability, hscope⟩)
      · refine absurd ⟨hcapture, ?_, ?_⟩ hsurface
        · by_contra hclient
          exact unprompted_unasked hclient hasked
        · simpa [capturedSurface] using hnone

end Sound

/-! A browser that asks for a capture, with a surface and without. -/

def browserContext (source : Option SurfaceId) : PolicyContext where
  client :=
    { clientId := ⟨"renderer-1"⟩
      appId := ⟨"org.example.browser"⟩
      kind := .browser
      trust := .hostile }
  sourceSurface := source

theorem browserContext_unsound : ¬ ∀ ctx capability, Sound ctx capability := by
  intro hsound
  have hallowed := (hsound (browserContext none) .requestScreenCapture).adequate
    ⟨.requestScreenCapture, .session, .oneShot⟩ .screenCaptureRequiresVisibleGrant (by simp)
    (by rfl)
  cases hallowed

end BrowserSecurityPolicy

end TuffXwin.XwinSec
