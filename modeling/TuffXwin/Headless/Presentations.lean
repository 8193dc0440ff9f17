import TuffXwin.Headless.Descriptors
import TuffXwin.Headless.ShmMirror

/-! The callbacks and feedbacks that wait for a presentation. Those of a surface are taken
together, whether they were requested before its latest commit or after it, so that a request
waits for the commit that follows it only where nothing is taken before. -/

namespace TuffXwin.Headless
open Lib
open WaylandWire (WireError WireArg WaylandMessage readU32 writeU32 displayId deleteIdEvent)

variable {interface : Interface}
variable {payload : List UInt8} {core' : HeadlessWireCore}

/-! Every live surface has its state. -/

def Surfaced (f : Frame) : Prop := Mirrors f.objects .wlSurface f.surfaces

section Surfaced

variable {f : Frame} {id : Nat}

theorem Surfaced.registered (h : Surfaced f) {object : WireObject}
    (havailable : f.registry.Available id) (hne : object.interface ≠ .wlSurface) :
    Surfaced (f.registered id object) :=
  Mirrors.registered h havailable.none hne

theorem Surfaced.retired (h : Surfaced f) (hlive : LiveAs f.objects interface id)
    (hne : interface ≠ .wlSurface) : Surfaced (f.retired id) := by
  obtain ⟨object, hobject, rfl⟩ := hlive
  exact Mirrors.retired h hobject hne

theorem surfaced_stable : Stable shmTerms Surfaced where
  sent := fun _ _ h _ => h
  registered := fun _ _ _ _ h havailable hplain =>
    h.registered havailable (Interface.plain_ne hplain rfl)
  retired := fun _ _ object h hobject hplain =>
    h.retired ⟨object, hobject, rfl⟩ (Interface.plain_ne hplain rfl)
  served := fun _ h _ => h
  announced := by
    intro f h
    obtain ⟨_, _, heq⟩ := f.announced_eq
    rw [heq]
    exact h
  surfaces := fun _ _ h hsame => Mirrors.of_contains h hsame
  outputs := fun _ _ h _ => h
  roles := fun _ _ h _ => h
  serials := fun _ _ h _ => h
  created := fun _ _ _ h havailable _ => Mirrors.added h havailable.none rfl _
  destroyed := fun _ _ h _ _ => Mirrors.removed h
  moved := by
    intro f id current h _ _ _
    obtain ⟨_, _, heq⟩ := f.moved_eq id current
    rw [heq]
    exact h
  bound := fun _ _ _ _ h _ _ => h
  outputEvent := fun _ _ _ _ _ _ hbanned => absurd hbanned.2 (by simp)
  method := fun _ _ _ _ h havailable => h.registered havailable (by simp)
  unmade := by
    rintro f id interface version _ h havailable (rfl | rfl | rfl)
    · exact h.registered havailable (by simp)
    · exact h.registered havailable (by simp)
    · exact h.registered havailable (by simp)
  pool := fun _ _ _ _ _ h havailable _ => h.registered havailable (by simp)
  poolResized := fun _ _ _ _ _ h _ => h
  poolGone := fun _ _ _ h hlive _ => h.retired hlive (by simp)
  buffer := fun _ _ _ _ _ _ _ _ _ _ h havailable _ => h.registered havailable (by simp)
  bufferGone := fun _ _ _ h hlive _ => h.retired hlive (by simp)
  undone := by
    intro f id object h havailable
    have hsame : (f.registry.objects.insert id object).erase id = f.registry.objects :=
      erase_insert havailable.none
    change Mirrors ((f.registry.objects.insert id object).erase id) .wlSurface f.surfaces
    rw [hsame]
    exact h
  seat := fun _ _ h => h
  pointer := fun _ _ _ _ _ h havailable _ _ => h.registered havailable (by simp)
  pointerGone := fun _ _ _ h hlive _ => h.retired hlive (by simp)
  keyboard := fun _ _ _ _ _ h havailable _ => h.registered havailable (by simp)

theorem surfaced_lasting : Lasting Surfaced where
  fresh := by
    intro deferCallbacks deferFeedback id
    refine ⟨fun hlive => ?_, fun hcontains => by cases hcontains⟩
    rcases LiveAs.of_registered hlive with ⟨_, heq⟩ | ⟨_, hobject, _⟩
    · cases heq
    · cases hobject
  readied := fun _ h => h
  topology := fun _ _ h => h
  acknowledged := by
    intro f id registry h hregistry
    change Mirrors registry.objects .wlSurface f.surfaces
    rw [acknowledgeDeleteId_objects hregistry]
    exact h

end Surfaced

/-! What a client asks of the presentation of its surfaces, apart by their latest commits. -/

structure Waiting where
  committed : Nat → List Nat := fun _ => []
  later : Nat → List Nat := fun _ => []

namespace Waiting

def requested (w : Waiting) (surfaceId id : Nat) : Waiting :=
  { w with later := Function.update w.later surfaceId (w.later surfaceId ++ [id]) }

def commit (w : Waiting) (surfaceId : Nat) : Waiting where
  committed := Function.update w.committed surfaceId
    (w.committed surfaceId ++ w.later surfaceId)
  later := Function.update w.later surfaceId []

def taken (w : Waiting) (surfaceId : Nat) : Waiting :=
  { w with committed := Function.update w.committed surfaceId [] }

/-- What waits on a surface, in the order of the requests. -/
def all (w : Waiting) (surfaceId : Nat) : List Nat := w.committed surfaceId ++ w.later surfaceId

theorem all_requested (w : Waiting) (surfaceId id other : Nat) :
    (w.requested surfaceId id).all other =
      if other = surfaceId then w.all other ++ [id] else w.all other := by
  unfold all requested
  by_cases heq : other = surfaceId <;> simp [Function.update, heq]

@[simp] theorem all_commit (w : Waiting) (surfaceId : Nat) : (w.commit surfaceId).all = w.all := by
  funext other
  unfold all commit
  by_cases heq : other = surfaceId <;> simp [Function.update, heq]

theorem all_taken (w : Waiting) (surfaceId other : Nat) (hlater : w.later surfaceId = []) :
    (w.taken surfaceId).all other = if other = surfaceId then [] else w.all other := by
  unfold all taken
  by_cases heq : other = surfaceId <;> simp [Function.update, heq, hlater]

end Waiting

inductive Occurrence
  | frame (surfaceId callback : Nat)
  | feedback (surfaceId feedback : Nat)
  | commit (surfaceId : Nat)
  | framesTaken (surfaceId : Nat) (callbacks : List Nat)
  | feedbacksTaken (surfaceId : Nat) (feedbacks : List Nat)
  | other
  deriving DecidableEq

variable {history : List Occurrence}

structure Requests where
  frames : Waiting := {}
  feedbacks : Waiting := {}

def Requests.after (r : Requests) : Occurrence → Requests
  | .frame surfaceId callback => { r with frames := r.frames.requested surfaceId callback }
  | .feedback surfaceId feedback => { r with feedbacks := r.feedbacks.requested surfaceId feedback }
  | .commit surfaceId => ⟨r.frames.commit surfaceId, r.feedbacks.commit surfaceId⟩
  | .framesTaken surfaceId _ => { r with frames := r.frames.taken surfaceId }
  | .feedbacksTaken surfaceId _ => { r with feedbacks := r.feedbacks.taken surfaceId }
  | .other => r

namespace Occurrence

/-- What is taken is what was requested before the latest commit and was not taken yet,
callbacks in the order of their requests. -/
def Due (r : Requests) : Occurrence → Prop
  | .framesTaken surfaceId callbacks => callbacks = r.frames.committed surfaceId
  | .feedbacksTaken surfaceId feedbacks => feedbacks.Perm (r.feedbacks.committed surfaceId)
  | _ => True

/-- Nothing was requested since the latest commit of a surface when it is taken. -/
def Settled (r : Requests) : Occurrence → Prop
  | .framesTaken surfaceId _ => r.frames.later surfaceId = []
  | .feedbacksTaken surfaceId _ => r.feedbacks.later surfaceId = []
  | _ => True

end Occurrence

/-- All occurrences of a history are as they should be after those before them. -/
def Always (P : Requests → Occurrence → Prop) : Requests → List Occurrence → Prop
  | _, [] => True
  | r, occurrence :: rest => P r occurrence ∧ Always P (r.after occurrence) rest

/-! Nothing is lost and nothing is taken twice where only what is due is taken. -/

/-! What the core keeps of this. -/

/-- What waits in a core, and whether it waits for the host. -/
structure Backlog where
  deferCallbacks : Bool
  deferFeedback : Bool
  callbacks : Nat → List Nat
  feedbacks : OrdMap Nat Nat

namespace HeadlessWireCore

def backlog (core : HeadlessWireCore) : Backlog where
  deferCallbacks := core.deferFrameCallbacks
  deferFeedback := core.deferPresentationFeedback
  callbacks := core.callbacksOf
  feedbacks := core.presentation.feedbacks

/-- What an operation asks of the presentation, if it succeeds. -/
def occurrence (core : HeadlessWireCore) : Operation → Occurrence
  | .dispatch message _ _ =>
    match (core.object? message.header.objectId).map WireObject.interface, message.header.opcode with
    | some .wlSurface, 3 => .frame message.header.objectId (readU32 message.payload)
    | some .wlSurface, 6 => .commit message.header.objectId
    | some .wpPresentation, 1 =>
      .feedback (readU32 message.payload) (readU32 (message.payload.drop 4))
    | _, _ => .other
  | _ => .other

end HeadlessWireCore

/-- The host deletes an object that it has answered. -/
def writeDeleteId (id : Nat) : Handler Unit := do
  destroyObject id
  acknowledgeEventDelivery (deleteIdEvent id)

/-- What may happen to a core: a request, the taking of what waits, the end of a callback or
feedback that was taken, and all that leaves what waits alone. -/
inductive Happens (core : HeadlessWireCore) : Occurrence → HeadlessWireCore → Prop
  | performed {operation : Operation} {core' : HeadlessWireCore}
    (hperform : operation.perform core = .ok () core')
    (hother : core.occurrence operation = .other → core'.backlog = core.backlog) :
    Happens core (core.occurrence operation) core'
  | framesTaken {surfaceId : Nat} {callbacks : List Nat} {core' : HeadlessWireCore}
    (htake : takeFrameCallbacks surfaceId core = .ok callbacks core') :
    Happens core (.framesTaken surfaceId callbacks) core'
  | feedbacksTaken {surfaceId : Nat} {feedbacks : List Nat} {core' : HeadlessWireCore}
    (htake : takePresentationFeedbacks surfaceId core = .ok feedbacks core') :
    Happens core (.feedbacksTaken surfaceId feedbacks) core'
  | answered {id : Nat} {interface : Interface} {core' : HeadlessWireCore}
    (hlive : LiveAs core.registry.objects interface id)
    (hkind : interface = .wlCallback ∨ interface = .wpPresentationFeedback)
    (hfree : ¬ core.anchors.keeps none interface id)
    (hdelete : writeDeleteId id core = .ok () core') : Happens core .other core'

inductive Happened : HeadlessWireCore → List Occurrence → HeadlessWireCore → Prop
  | nil (core : HeadlessWireCore) : Happened core [] core
  | cons {core core₁ core' : HeadlessWireCore} {occurrence : Occurrence}
    {rest : List Occurrence} (hfirst : Happens core occurrence core₁)
    (hrest : Happened core₁ rest core') : Happened core (occurrence :: rest) core'

section Effects

variable {core core' : HeadlessWireCore} {surfaceId id : Nat}

/-- A handler that succeeds leaves this behind. -/
def Backs {α : Type} (handler : Handler α) (core : HeadlessWireCore) (backlog : Backlog) : Prop :=
  Ends Anyhow handler core fun _ core' => core'.backlog = backlog

theorem withSurfaces_callbacks {f : SurfaceInstance → SurfaceInstance} {surface : SurfaceInstance}
    (hsurface : core.surfaces.surfaces.get? surfaceId = some surface) :
    (core.withSurfaces (core.surfaces.modifySurface surfaceId f)).callbacksOf =
      Function.update core.callbacksOf surfaceId (f surface).callbacks := by
  funext other
  unfold HeadlessWireCore.callbacksOf HeadlessWireCore.withSurfaces SurfaceManager.modifySurface
  dsimp only
  rw [OrdMap.get?_modify]
  by_cases heq : other = surfaceId
  · subst heq
    simp [hsurface]
  · simp [heq]

theorem handleSurfaceFrame_backs (hsurface : core.surfaces.surfaces.contains surfaceId = true) :
    Backs (handleSurfaceFrame surfaceId payload) core
      { core.backlog with
        callbacks := Function.update core.callbacksOf surfaceId
          (core.callbacksOf surfaceId ++ [readU32 payload]) } := by
  obtain ⟨surface, hsurface⟩ := OrdMap.contains_iff.mp hsurface
  refine ends_bind.mpr ((ends_requireLength trivial).mpr fun hlength => ends_bind.mpr ?_)
  refine (ends_wordAt (by omega)).mpr (ends_bind.mpr (ends_get.mpr (ends_bind.mpr ?_)))
  refine (ends_require trivial).mpr fun _ => ends_bind.mpr ?_
  refine (ends_registerClientObject trivial).mpr fun _ => ends_modify.mpr ?_
  have hold : core.callbacksOf surfaceId = surface.callbacks := by
    simp [HeadlessWireCore.callbacksOf, hsurface]
  rw [hold]
  have hregistered : (core.registered (readU32 payload) ⟨.wlCallback, 1⟩).surfaces.surfaces.get?
      surfaceId = some surface := hsurface
  unfold HeadlessWireCore.backlog
  congr 1
  exact withSurfaces_callbacks hregistered

theorem handlePresentationFeedback_backs (hlength : 8 ≤ payload.length) :
    Ends Anyhow (handlePresentationFeedback payload) core fun _ core' =>
      core.registry.Available (readU32 (payload.drop 4)) ∧
        core'.backlog = { core.backlog with
          feedbacks :=
            core.presentation.feedbacks.insert (readU32 (payload.drop 4)) (readU32 payload) } := by
  refine ends_bind.mpr ((ends_wordAt (by omega)).mpr (ends_bind.mpr ?_))
  refine (ends_wordAt (by omega)).mpr (ends_bind.mpr ?_)
  exact (ends_registerClientObject trivial).mpr fun havailable =>
    ends_modify.mpr ⟨havailable, rfl⟩

theorem backlog_foldl_pushed (events : List WaylandMessage) (core : HeadlessWireCore) :
    (events.foldl HeadlessWireCore.pushed core).backlog = core.backlog := by
  obtain ⟨_, _, heq⟩ := foldl_pushed events core
  rw [heq]
  rfl

theorem updateSurfaceOutputMembership_backs :
    Backs (updateSurfaceOutputMembership surfaceId) core core.backlog := by
  refine ends_bind.mpr (ends_get.mpr ?_)
  refine ends_bind.mpr ((ends_lift trivial).mpr ⟨fun surface _ => ?_, False.elim⟩)
  refine ends_bind.mpr ((ends_lift trivial).mpr ⟨fun current _ => ends_bind.mpr ?_, False.elim⟩)
  refine ends_sendEach.mpr (ends_bind.mpr (ends_sendEach.mpr (ends_modify.mpr ?_)))
  change (List.foldl HeadlessWireCore.pushed _ _).backlog = core.backlog
  rw [backlog_foldl_pushed, backlog_foldl_pushed]

theorem commit_callbacks : (core.withSurfaces (core.surfaces.commit surfaceId)).callbacksOf =
    core.callbacksOf := by
  funext other
  unfold HeadlessWireCore.callbacksOf HeadlessWireCore.withSurfaces SurfaceManager.commit
    SurfaceManager.modifySurface
  dsimp only
  rw [OrdMap.get?_modify]
  split_ifs
  · cases core.surfaces.surfaces.get? other <;> rfl
  · rfl

/-- In deferred mode a commit leaves what waits. -/
theorem handleSurfaceCommit_backs (hcallbacks : core.deferFrameCallbacks = true)
    (hfeedback : core.deferPresentationFeedback = true) {environment : Environment} :
    Backs (handleSurfaceCommit environment surfaceId) core core.backlog := by
  refine ends_bind.mpr (ends_modify.mpr ?_)
  have hcommitted : ({ core with
      surfaces := core.surfaces.commit surfaceId
      viewport := core.viewport.commit environment.visit surfaceId } : HeadlessWireCore).backlog =
        core.backlog := by
    unfold HeadlessWireCore.backlog
    congr 1
    exact commit_callbacks
  refine Ends.then updateSurfaceOutputMembership_backs fun _ core₁ h₁ => ?_
  rw [hcommitted] at h₁
  have hcallbacks₁ : core₁.deferFrameCallbacks = true :=
    (congrArg Backlog.deferCallbacks h₁).trans hcallbacks
  have hfeedback₁ : core₁.deferPresentationFeedback = true :=
    (congrArg Backlog.deferFeedback h₁).trans hfeedback
  refine ends_bind.mpr (ends_bind.mpr (ends_get.mpr ?_))
  rw [if_pos hcallbacks₁]
  refine ends_pure.mpr (ends_bind.mpr (ends_get.mpr ?_))
  rw [if_pos hfeedback₁]
  exact h₁

end Effects

/-! The requests of a history and the backlog of the core go together. -/

/-- In deferred mode what waits in the core is what was requested and not taken yet. -/
structure Waits (r : Requests) (core : HeadlessWireCore) : Prop where
  holds : Holds Surfaced none core
  deferCallbacks : core.deferFrameCallbacks = true
  deferFeedback : core.deferPresentationFeedback = true
  frames : ∀ surfaceId, core.callbacksOf surfaceId = r.frames.all surfaceId
  feedbacks : ∀ surfaceId, (core.feedbacksOf surfaceId).Perm (r.feedbacks.all surfaceId)

section Step

variable {r : Requests} {core core' : HeadlessWireCore} {surfaceId id : Nat}

theorem feedbacksOf_eq (core : HeadlessWireCore) (surfaceId : Nat) :
    core.feedbacksOf surfaceId =
      (core.backlog.feedbacks.filter fun _ surface => surface = surfaceId).keys := rfl

theorem Waits.of_backlog (h : Waits r core) (hholds : Holds Surfaced none core')
    (hbacklog : core'.backlog = core.backlog) : Waits r core' where
  holds := hholds
  deferCallbacks := (congrArg Backlog.deferCallbacks hbacklog).trans h.deferCallbacks
  deferFeedback := (congrArg Backlog.deferFeedback hbacklog).trans h.deferFeedback
  frames := fun surfaceId =>
    (congrFun (congrArg Backlog.callbacks hbacklog) surfaceId).trans (h.frames surfaceId)
  feedbacks := by
    intro surfaceId
    rw [feedbacksOf_eq, hbacklog]
    exact h.feedbacks surfaceId

theorem Waits.frame (h : Waits r core) (hholds : Holds Surfaced none core')
    (hbacklog : core'.backlog = { core.backlog with
      callbacks := Function.update core.callbacksOf surfaceId
        (core.callbacksOf surfaceId ++ [id]) }) :
    Waits (r.after (.frame surfaceId id)) core' where
  holds := hholds
  deferCallbacks := (congrArg Backlog.deferCallbacks hbacklog).trans h.deferCallbacks
  deferFeedback := (congrArg Backlog.deferFeedback hbacklog).trans h.deferFeedback
  frames := by
    intro other
    refine (congrFun (congrArg Backlog.callbacks hbacklog) other).trans ?_
    simp only [Requests.after, Waiting.all_requested, Function.update_apply]
    split_ifs with heq
    · rw [heq, h.frames]
    · exact h.frames other
  feedbacks := by
    intro other
    rw [feedbacksOf_eq, hbacklog]
    exact h.feedbacks other

/-- A feedback with a fresh id is one more of its surface. -/
theorem insert_feedback_perm {feedbacks : OrdMap Nat Nat} (hnone : feedbacks.get? id = none)
    (other : Nat) : ((feedbacks.insert id surfaceId).filter fun _ s => s = other).keys.Perm
      (if other = surfaceId then (feedbacks.filter fun _ s => s = other).keys ++ [id]
        else (feedbacks.filter fun _ s => s = other).keys) := by
  have hout : id ∉ (feedbacks.filter fun _ s => s = other).keys := by
    intro hmem
    obtain ⟨surface, hsurface⟩ := OrdMap.mem_keys.mp hmem
    rw [OrdMap.get?_filter_eq_some, hnone] at hsurface
    cases hsurface.1
  have hmem : ∀ found, found ∈ ((feedbacks.insert id surfaceId).filter fun _ s => s = other).keys ↔
      found = id ∧ other = surfaceId ∨ found ∈ (feedbacks.filter fun _ s => s = other).keys := by
    intro found
    simp only [OrdMap.mem_keys, OrdMap.get?_filter_eq_some, OrdMap.get?_insert]
    by_cases heq : found = id
    · subst heq
      simp [hnone, eq_comm]
    · simp [heq]
  split_ifs with hsurface
  · refine (List.perm_ext_iff_of_nodup (OrdMap.nodup_keys _) ?_).mpr fun found => ?_
    · refine List.nodup_append.mpr ⟨OrdMap.nodup_keys _, by simp, fun a ha b hb heq => ?_⟩
      rw [heq, List.mem_singleton.mp hb] at ha
      exact hout ha
    · rw [hmem found]
      simp [hsurface, or_comm]
  · refine (List.perm_ext_iff_of_nodup (OrdMap.nodup_keys _) (OrdMap.nodup_keys _)).mpr ?_
    intro found
    rw [hmem found]
    simp [hsurface]

theorem Waits.feedback (h : Waits r core) (hholds : Holds Surfaced none core')
    (havailable : core.registry.Available id)
    (hbacklog : core'.backlog = { core.backlog with
      feedbacks := core.presentation.feedbacks.insert id surfaceId }) :
    Waits (r.after (.feedback surfaceId id)) core' where
  holds := hholds
  deferCallbacks := (congrArg Backlog.deferCallbacks hbacklog).trans h.deferCallbacks
  deferFeedback := (congrArg Backlog.deferFeedback hbacklog).trans h.deferFeedback
  frames := fun other =>
    (congrFun (congrArg Backlog.callbacks hbacklog) other).trans (h.frames other)
  feedbacks := by
    intro other
    have hnone : core.presentation.feedbacks.get? id = none := by
      rw [Option.eq_none_iff_forall_not_mem]
      intro surface hsurface
      obtain ⟨object, hobject, _⟩ := h.holds.live .wpPresentationFeedback
        (OrdMap.contains_iff.mpr ⟨surface, hsurface⟩)
      rw [havailable.none] at hobject
      cases hobject
    rw [feedbacksOf_eq, hbacklog]
    refine (insert_feedback_perm hnone other).trans ?_
    simp only [Requests.after, Waiting.all_requested]
    split_ifs with heq
    · exact (h.feedbacks other).append_right [id]
    · exact h.feedbacks other

theorem Waits.commit (h : Waits r core) (hholds : Holds Surfaced none core')
    (hbacklog : core'.backlog = core.backlog) : Waits (r.after (.commit surfaceId)) core' := by
  have hsame := h.of_backlog hholds hbacklog
  refine ⟨hholds, hsame.deferCallbacks, hsame.deferFeedback, fun other => ?_, fun other => ?_⟩
  · simpa [Requests.after] using hsame.frames other
  · simpa [Requests.after] using hsame.feedbacks other

theorem take_callbacks (core : HeadlessWireCore) (surfaceId : Nat) :
    (core.withSurfaces (core.surfaces.modifySurface surfaceId fun surface =>
      { surface with callbacks := [] })).callbacksOf =
        Function.update core.callbacksOf surfaceId [] := by
  cases hsurface : core.surfaces.surfaces.get? surfaceId with
  | some surface => exact withSurfaces_callbacks hsurface
  | none =>
    funext other
    unfold HeadlessWireCore.callbacksOf HeadlessWireCore.withSurfaces SurfaceManager.modifySurface
    dsimp only
    rw [OrdMap.get?_modify]
    by_cases heq : other = surfaceId
    · simp [heq, hsurface]
    · simp [heq]

theorem Waits.framesTaken (h : Waits r core) {callbacks : List Nat}
    (htake : takeFrameCallbacks surfaceId core = .ok callbacks core') :
    callbacks = r.frames.all surfaceId ∧
      (r.frames.later surfaceId = [] →
        Waits (r.after (.framesTaken surfaceId callbacks)) core') := by
  obtain ⟨rfl, rfl⟩ := EStateM.Result.ok.inj htake
  refine ⟨h.frames surfaceId, fun hlater => ?_⟩
  have hretains : Retains core.surfaces.surfaces (core.surfaces.modifySurface surfaceId
      fun surface => { surface with callbacks := [] }).surfaces :=
    Retains.modify fun surface => List.nil_sublist surface.callbacks
  refine ⟨h.holds.withSurfaces surfaced_stable hretains (fun _ => OrdMap.contains_modify) rfl,
    h.deferCallbacks, h.deferFeedback, fun other => ?_, h.feedbacks⟩
  refine (congrFun (take_callbacks core surfaceId) other).trans ?_
  simp only [Requests.after, Waiting.all_taken _ _ _ hlater, Function.update_apply]
  split_ifs
  · rfl
  · exact h.frames other

theorem filter_feedbacks (feedbacks : OrdMap Nat Nat) (other : Nat) :
    ((feedbacks.filter fun _ s => s ≠ surfaceId).filter fun _ s => s = other).keys.Perm
      (if other = surfaceId then [] else (feedbacks.filter fun _ s => s = other).keys) := by
  split_ifs with heq
  · refine List.perm_nil.mpr (List.eq_nil_iff_forall_not_mem.mpr fun found hfound => ?_)
    obtain ⟨surface, hsurface⟩ := OrdMap.mem_keys.mp hfound
    simp only [OrdMap.get?_filter_eq_some, decide_eq_true_eq] at hsurface
    exact hsurface.1.2 (hsurface.2.trans heq)
  · refine (List.perm_ext_iff_of_nodup (OrdMap.nodup_keys _) (OrdMap.nodup_keys _)).mpr ?_
    intro found
    simp only [OrdMap.mem_keys, OrdMap.get?_filter_eq_some, decide_eq_true_eq]
    constructor
    · rintro ⟨surface, ⟨hfound, _⟩, hsurface⟩
      exact ⟨surface, hfound, hsurface⟩
    · rintro ⟨surface, hfound, hsurface⟩
      exact ⟨surface, ⟨hfound, fun hsame => heq (hsurface.symm.trans hsame)⟩, hsurface⟩

theorem Waits.feedbacksTaken (h : Waits r core) {feedbacks : List Nat}
    (htake : takePresentationFeedbacks surfaceId core = .ok feedbacks core') :
    feedbacks.Perm (r.feedbacks.all surfaceId) ∧
      (r.feedbacks.later surfaceId = [] →
        Waits (r.after (.feedbacksTaken surfaceId feedbacks)) core') := by
  obtain ⟨rfl, rfl⟩ := EStateM.Result.ok.inj htake
  refine ⟨h.feedbacks surfaceId, fun hlater => ?_⟩
  refine ⟨?_, h.deferCallbacks, h.deferFeedback, h.frames, fun other => ?_⟩
  · refine h.holds.of_keeps rfl rfl rfl fun interface id hkeeps => .inl ?_
    cases interface
    case wpPresentationFeedback => exact OrdMap.contains_of_filter hkeeps
    all_goals exact hkeeps
  · refine (filter_feedbacks core.presentation.feedbacks other).trans ?_
    simp only [Requests.after, Waiting.all_taken _ _ _ hlater]
    split_ifs
    · rfl
    · exact h.feedbacks other

end Step

/-! What an operation asks of the presentation it does. -/

section Performed

variable {r : Requests} {core core' : HeadlessWireCore} {surfaceId id : Nat}
  {operation : Operation}

theorem Waits.performed_holds (h : Waits r core) (hperform : operation.perform core = .ok () core') :
    Holds Surfaced none core' := by
  have hkept : Kept shmTerms Surfaced operation.perform core :=
    perform_kept surfaced_stable surfaced_lasting h.holds
      (shmTerms_unasked.admitted _ _ fun _ => trivial)
  exact (hkept h.holds).ok hperform

section Message

variable {message : WaylandMessage} {fds : List Nat} {environment : Environment} {version : Nat}

theorem performed_reaches {P : HeadlessWireCore → Prop}
    (hobject : core.object? message.header.objectId = some ⟨interface, version⟩)
    (hannounced : ∀ core' registry eventsOut log, P core' →
      P { core' with registry := registry, eventsOut := eventsOut, log := log })
    (h : ∀ spec args, Decoded interface (requestOf message args environment) spec →
      Ends Anyhow (handleRequest interface (requestOf message args environment))
        (core.readied fds) fun _ core' => P core')
    (hperform : (Operation.dispatch message fds environment).perform core = .ok () core') :
    P core' := by
  have hends : Ends Anyhow (Operation.dispatch message fds environment).perform core
      fun _ core' => P core' := by
    refine Ends.then (dispatchWithFds_reaches hobject hannounced fun spec args hspec hargs => ?_)
      fun _ _ hdone => ends_pure.mpr hdone
    obtain ⟨stop, hstop⟩ := decodeArguments_eq_ok (decodeRequest_eq_ok hargs)
    exact h spec args ⟨requestSpec_eq_ok hspec, _, stop, hstop⟩
  exact hends.ok hperform

theorem Waits.performed_frame (h : Waits r core)
    (hobject : core.object? message.header.objectId = some ⟨.wlSurface, version⟩)
    (hopcode : message.header.opcode = 3)
    (hperform : (Operation.dispatch message fds environment).perform core = .ok () core') :
    Waits (r.after (.frame message.header.objectId (readU32 message.payload))) core' := by
  refine h.frame (h.performed_holds hperform) ?_
  refine performed_reaches (P := fun core' => core'.backlog = _) hobject
    (fun _ _ _ _ hbacklog => hbacklog) (fun spec args _ => ?_) hperform
  have hsurface : (core.readied fds).surfaces.surfaces.contains message.header.objectId = true :=
    (h.holds.kept _).mp ⟨_, hobject, rfl⟩
  change Ends Anyhow (surfaceRequest _) _ _
  unfold surfaceRequest requestOf
  rw [hopcode]
  exact handleSurfaceFrame_backs hsurface

theorem Waits.performed_commit (h : Waits r core)
    (hobject : core.object? message.header.objectId = some ⟨.wlSurface, version⟩)
    (hopcode : message.header.opcode = 6)
    (hperform : (Operation.dispatch message fds environment).perform core = .ok () core') :
    Waits (r.after (.commit message.header.objectId)) core' := by
  refine h.commit (h.performed_holds hperform) ?_
  refine performed_reaches (P := fun core' => core'.backlog = _) hobject
    (fun _ _ _ _ hbacklog => hbacklog) (fun spec args _ => ?_) hperform
  change Ends Anyhow (surfaceRequest _) _ _
  unfold surfaceRequest requestOf
  rw [hopcode]
  have hcallbacks : (core.readied fds).deferFrameCallbacks = true := h.deferCallbacks
  exact handleSurfaceCommit_backs hcallbacks h.deferFeedback

theorem Waits.performed_feedback (h : Waits r core)
    (hobject : core.object? message.header.objectId = some ⟨.wpPresentation, version⟩)
    (hopcode : message.header.opcode = 1)
    (hperform : (Operation.dispatch message fds environment).perform core = .ok () core') :
    Waits (r.after (.feedback (readU32 message.payload) (readU32 (message.payload.drop 4))))
      core' := by
  have hdone : core.registry.Available (readU32 (message.payload.drop 4)) ∧
      core'.backlog = { core.backlog with
        feedbacks := core.presentation.feedbacks.insert (readU32 (message.payload.drop 4))
          (readU32 message.payload) } := by
    refine performed_reaches (P := fun core' => _ ∧ core'.backlog = _) hobject
      (fun _ _ _ _ hdone => hdone) (fun spec args hdecoded => ?_) hperform
    have hlength : 8 ≤ message.payload.length := hdecoded.words 1 hopcode rfl (by decide)
    change Ends Anyhow (managerRequest _ _ _ _) _ _
    unfold managerRequest requestOf
    rw [hopcode]
    exact handlePresentationFeedback_backs hlength
  exact h.feedback (h.performed_holds hperform) hdone.1 hdone.2

end Message

/-- An operation is one of the three requests, or asks for nothing. -/
theorem Waits.performed (h : Waits r core) (hperform : operation.perform core = .ok () core')
    (hother : core.occurrence operation = .other → core'.backlog = core.backlog) :
    Waits (r.after (core.occurrence operation)) core' := by
  have hnothing : core.occurrence operation = .other →
      Waits (r.after (core.occurrence operation)) core' := by
    intro hocc
    rw [hocc]
    exact h.of_backlog (h.performed_holds hperform) (hother hocc)
  cases operation with
  | dispatch message fds environment =>
    cases hobject : core.object? message.header.objectId with
    | none => exact hnothing (by simp [HeadlessWireCore.occurrence, hobject])
    | some object =>
      obtain ⟨interface, version⟩ := object
      by_cases hframe : interface = .wlSurface ∧ message.header.opcode = 3
      · obtain ⟨rfl, hopcode⟩ := hframe
        simpa [HeadlessWireCore.occurrence, hobject, hopcode] using
          h.performed_frame hobject hopcode hperform
      by_cases hcommit : interface = .wlSurface ∧ message.header.opcode = 6
      · obtain ⟨rfl, hopcode⟩ := hcommit
        simpa [HeadlessWireCore.occurrence, hobject, hopcode] using
          h.performed_commit hobject hopcode hperform
      by_cases hfeedback : interface = .wpPresentation ∧ message.header.opcode = 1
      · obtain ⟨rfl, hopcode⟩ := hfeedback
        simpa [HeadlessWireCore.occurrence, hobject, hopcode] using
          h.performed_feedback hobject hopcode hperform
      refine hnothing ?_
      dsimp only [HeadlessWireCore.occurrence]
      rw [hobject]
      split <;> simp_all
  | _ => exact hnothing rfl

end Performed

section History

variable {r : Requests} {core core' : HeadlessWireCore}

theorem Waits.answered (h : Waits r core) {id : Nat}
    (hlive : LiveAs core.registry.objects interface id)
    (hkind : interface = .wlCallback ∨ interface = .wpPresentationFeedback)
    (hfree : ¬ core.anchors.keeps none interface id)
    (hdelete : writeDeleteId id core = .ok () core') : Waits r core' := by
  obtain ⟨object, hobject, rfl⟩ := hlive
  have hplain : object.interface.plain = true := by
    rcases hkind with hkind | hkind <;> rw [hkind] <;> rfl
  have hends : Ends Anyhow (writeDeleteId id) core fun _ core' =>
      Holds Surfaced none core' ∧ core'.backlog = core.backlog := by
    refine ends_bind.mpr ((ends_destroyObject trivial).mpr fun _ _ => ?_)
    have hretired := h.holds.retired surfaced_stable hobject hplain hfree
    unfold acknowledgeEventDelivery
    refine ends_ite.mpr ⟨fun _ => ends_ite.mpr ⟨fun _ => ?_, fun _ => ?_⟩, fun _ => ?_⟩
    · exact ends_throw.mpr (tolerated_error trivial _)
    · refine (ends_onPart trivial).mpr ⟨fun registry hregistry => ⟨⟨?_, ?_⟩, rfl⟩, False.elim⟩
      · change Anchored none { (core.retired id).anchors with objects := registry.objects }
        rw [acknowledgeDeleteId_objects hregistry]
        exact hretired.anchored
      · exact surfaced_lasting.acknowledged _ _ registry hretired.kept hregistry
    · exact ends_pure.mpr ⟨hretired, rfl⟩
  obtain ⟨hholds, hbacklog⟩ := hends.ok hdelete
  exact h.of_backlog hholds hbacklog

/-- No operation takes anything. -/
theorem occurrence_takes_nothing (r : Requests) (core : HeadlessWireCore) (operation : Operation) :
    (core.occurrence operation).Due r ∧ (core.occurrence operation).Settled r := by
  cases operation with
  | dispatch =>
    dsimp only [HeadlessWireCore.occurrence]
    split <;> exact ⟨trivial, trivial⟩
  | _ => exact ⟨trivial, trivial⟩

/-- What is taken is due exactly if nothing was requested since the commit; and then the
requests go on with what waits. -/
theorem Happens.waits {occurrence : Occurrence} (h : Happens core occurrence core')
    (hwaits : Waits r core) : (occurrence.Due r ↔ occurrence.Settled r) ∧
      (occurrence.Settled r → Waits (r.after occurrence) core') := by
  cases h with
  | performed hperform hother =>
    obtain ⟨hdue, hsettled⟩ := occurrence_takes_nothing r core _
    exact ⟨⟨fun _ => hsettled, fun _ => hdue⟩, fun _ => hwaits.performed hperform hother⟩
  | framesTaken htake =>
    obtain ⟨hcallbacks, hnext⟩ := hwaits.framesTaken htake
    refine ⟨?_, hnext⟩
    dsimp only [Occurrence.Due, Occurrence.Settled]
    rw [hcallbacks, Waiting.all]
    simp
  | feedbacksTaken htake =>
    obtain ⟨hfeedbacks, hnext⟩ := hwaits.feedbacksTaken htake
    refine ⟨⟨fun hdue => ?_, fun hsettled => ?_⟩, hnext⟩
    · have hlength := (hfeedbacks.symm.trans hdue).length_eq
      rw [Waiting.all, List.length_append] at hlength
      exact List.length_eq_zero_iff.mp (by omega)
    · rw [Waiting.all, hsettled, List.append_nil] at hfeedbacks
      exact hfeedbacks
  | answered hlive hkind hfree hdelete =>
    exact ⟨Iff.rfl, fun _ => hwaits.answered hlive hkind hfree hdelete⟩

theorem Happened.due_iff (h : Happened core history core') (hwaits : Waits r core) :
    Always Occurrence.Due r history ↔ Always Occurrence.Settled r history := by
  induction h generalizing r with
  | nil => exact Iff.rfl
  | cons hfirst _ ih =>
    obtain ⟨hiff, hnext⟩ := hfirst.waits hwaits
    constructor
    · rintro ⟨hdue, hrest⟩
      have hsettled := hiff.mp hdue
      exact ⟨hsettled, (ih (hnext hsettled)).mp hrest⟩
    · rintro ⟨hsettled, hrest⟩
      exact ⟨hiff.mpr hsettled, (ih (hnext hsettled)).mpr hrest⟩

theorem freshCore_waits : Waits {} (freshCore true true) where
  holds := ⟨freshCore_anchored _ _, surfaced_lasting.fresh _ _⟩
  deferCallbacks := rfl
  deferFeedback := rfl
  frames := fun _ => rfl
  feedbacks := fun _ => List.Perm.refl _

/-- Whatever happens in deferred mode, callbacks and feedbacks are taken once each, after the
commit that follows their request, exactly if nothing was requested since the latest commit
of a surface whenever those of the surface are taken. -/
theorem takenDue_iff {history : List Occurrence} (h : Happened (freshCore true true) history core') :
    Always Occurrence.Due {} history ↔ Always Occurrence.Settled {} history :=
  h.due_iff freshCore_waits

end History

/-! A surface with one callback, which is requested after three requests that ask for nothing. -/

section Samples

variable {client : Client} {operation : Operation}

theorem Client.performed (hopen : client.fault = none)
    (hdone : (client.step operation).fault = none) :
    operation.perform client.core = .ok () (client.step operation).core := by
  unfold Client.step Client.after at hdone ⊢
  rw [hopen] at hdone ⊢
  cases hresult : operation.perform client.core with
  | ok _ core => rfl
  | error fault core =>
    rw [hresult] at hdone
    cases hdone

theorem Client.happens {occurrence : Occurrence} (hopen : client.fault = none)
    (hdone : (client.step operation).fault = none)
    (hocc : client.core.occurrence operation = occurrence) (hne : occurrence ≠ .other) :
    Happens client.core occurrence (client.step operation).core := by
  subst hocc
  exact .performed (Client.performed hopen hdone) fun heq => absurd heq hne

theorem happens_framesTaken (core : HeadlessWireCore) (surfaceId : Nat) (callbacks : List Nat)
    (hcallbacks : core.callbacksOf surfaceId = callbacks) :
    ∃ core', Happens core (.framesTaken surfaceId callbacks) core' := by
  subst hcallbacks
  exact ⟨_, .framesTaken rfl⟩

/-- Nothing waits, and what comes will wait. -/
def HeadlessWireCore.idle (core : HeadlessWireCore) : Bool :=
  core.deferFrameCallbacks && core.deferPresentationFeedback &&
    core.surfaces.surfaces.all (fun _ surface => surface.callbacks.isEmpty) &&
      core.presentation.feedbacks.entries.isEmpty

theorem HeadlessWireCore.idle.backlog {core : HeadlessWireCore} (h : core.idle = true) :
    core.backlog = (freshCore true true).backlog := by
  simp only [HeadlessWireCore.idle, Bool.and_eq_true, List.isEmpty_iff] at h
  obtain ⟨⟨⟨hcallbacks, hfeedback⟩, hsurfaces⟩, hfeedbacks⟩ := h
  have hempty : core.presentation.feedbacks = OrdMap.empty := by
    refine OrdMap.ext_get? fun id => ?_
    unfold OrdMap.get?
    rw [hfeedbacks]
    rfl
  have hnone : core.callbacksOf = (freshCore true true).callbacksOf := by
    funext surfaceId
    unfold HeadlessWireCore.callbacksOf
    cases hsurface : core.surfaces.surfaces.get? surfaceId with
    | none => rfl
    | some surface =>
      have hcallbacks := OrdMap.all_iff.mp hsurfaces surfaceId surface hsurface
      rw [List.isEmpty_iff] at hcallbacks
      exact hcallbacks
  unfold HeadlessWireCore.backlog
  rw [hcallbacks, hfeedback, hempty, hnone]
  rfl

def idleRun : Client → List Operation → Bool
  | client, [] => client.fault.isNone && client.core.idle
  | client, operation :: rest =>
    client.fault.isNone && client.core.idle &&
      decide (client.core.occurrence operation = .other) && idleRun (client.step operation) rest

theorem idleRun_happened (client : Client) {operations : List Operation}
    (hidle : idleRun client operations = true)
    (h : Happened (clients.run client operations).core history core') :
    Happened client.core (List.replicate operations.length .other ++ history) core' := by
  induction operations generalizing client with
  | nil => exact h
  | cons operation rest ih =>
    simp only [idleRun, Bool.and_eq_true, Option.isNone_iff_eq_none, decide_eq_true_eq] at hidle
    obtain ⟨⟨⟨hopen, hnow⟩, hocc⟩, hrest⟩ := hidle
    have hthen : (client.step operation).fault = none ∧ (client.step operation).core.idle = true := by
      cases rest with
      | nil => simpa [idleRun] using hrest
      | cons =>
        simp only [idleRun, Bool.and_eq_true, Option.isNone_iff_eq_none] at hrest
        exact hrest.1.1
    have hfirst : Happens client.core .other (client.step operation).core := by
      have hstep := Happens.performed (Client.performed hopen hthen.1) fun _ =>
        (HeadlessWireCore.idle.backlog hthen.2).trans (HeadlessWireCore.idle.backlog hnow).symm
      rwa [hocc] at hstep
    exact .cons hfirst (ih _ hrest h)

def requests (messages : List WaylandMessage) : List Operation :=
  messages.map fun message => .dispatch message [] stillEnvironment

/-- A client with a surface, which is object 4. -/
def surfaceClient : Client :=
  clients.run { core := freshCore true true }
    (requests [.new displayId 1 (writeU32 2), bindGlobal 1 3 4 .wlCompositor, .new 3 0 (writeU32 4)])

theorem surfaceClient_happened (h : Happened surfaceClient.core history core') :
    Happened (freshCore true true) (List.replicate 3 .other ++ history) core' :=
  idleRun_happened { core := freshCore true true } (by decide +kernel) h

def frameOperation : Operation := .dispatch (.new 4 3 (writeU32 5)) [] stillEnvironment

def commitOperation : Operation := .dispatch (.new 4 6 []) [] stillEnvironment

theorem frame_happens :
    Happens surfaceClient.core (.frame 4 5) (surfaceClient.step frameOperation).core :=
  Client.happens (by decide +kernel) (by decide +kernel) (by decide +kernel) (by decide)

theorem committedFrame_taken :
    ∃ core', (Happened (freshCore true true) (List.replicate 3 .other ++
      [.frame 4 5, .commit 4, .framesTaken 4 [5]]) core' ∧
        (Always Occurrence.Due {} (List.replicate 3 .other ++
          [.frame 4 5, .commit 4, .framesTaken 4 [5]]) ↔
        Always Occurrence.Settled {} (List.replicate 3 .other ++
          [.frame 4 5, .commit 4, .framesTaken 4 [5]]))) := by
  have hcommit : Happens (surfaceClient.step frameOperation).core (.commit 4)
      ((surfaceClient.step frameOperation).step commitOperation).core :=
    Client.happens (by decide +kernel) (by decide +kernel) (by decide +kernel) (by decide)
  obtain ⟨core', htaken⟩ := happens_framesTaken
    ((surfaceClient.step frameOperation).step commitOperation).core 4 [5] (by decide +kernel)
  have h := surfaceClient_happened (.cons frame_happens (.cons hcommit (.cons htaken (.nil _))))
  exact ⟨core', h, takenDue_iff h⟩

/-- A callback is taken although no commit followed its request. -/
theorem uncommittedFrame_taken :
    (∃ core', Happened (freshCore true true) (List.replicate 3 .other ++
      [.frame 4 5, .framesTaken 4 [5]]) core') ∧
        ¬ Always Occurrence.Due {} (List.replicate 3 .other ++
          [.frame 4 5, .framesTaken 4 [5]]) := by
  refine ⟨?_, fun h => ?_⟩
  · obtain ⟨core', htaken⟩ :=
      happens_framesTaken (surfaceClient.step frameOperation).core 4 [5] (by decide +kernel)
    exact ⟨core', surfaceClient_happened (.cons frame_happens (.cons htaken (.nil _)))⟩
  · have hdue : [5] = [] := h.2.2.2.2.1
    cases hdue

end Samples

end TuffXwin.Headless
