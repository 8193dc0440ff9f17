import TuffXwin.WaylandWire.Lifetimes

/-! What a request leaves of the objects that wait: those committed to waylandd keep
their lives, and those not yet committed are lost with their surface only. -/

namespace TuffXwin.WaylandWire
open Lib

variable {a b core core' : HeadlessWireCore} {gone gone' : Nat → Prop} {clean : Bool}
variable {ids : List Nat} {s : Nat}
variable {interface : String} {l : Life} {c : HeadlessWireCore} {object : WireObject}

/-- A life with nothing but its registration. -/
def Life.fresh (interface : String) : Life := { interface := interface }

/-- A life that waits for the frame of its commit. -/
def Life.pending (interface : String) (generation : Nat) (outputs : List String) : Life :=
  { interface := interface, committed := some (generation, outputs) }

/-- An object is alive, and this is its life. -/
structure Standing (core : HeadlessWireCore) (interface : String) (l : Life) (id : Nat) :
    Prop where
  object : ∃ object, core.registry.objects.get? id = some object ∧ object.interface = interface
  life : life id core.trace = some l

theorem Standing.unique {interface' : String} {l' : Life} {id : Nat}
    (h : Standing core interface l id) (h' : Standing core interface' l' id) :
    interface = interface' ∧ l = l' := by
  obtain ⟨object, hobject, hinterface⟩ := h.object
  obtain ⟨object', hobject', hinterface'⟩ := h'.object
  obtain rfl := Option.some.inj (hobject.symm.trans hobject')
  exact ⟨hinterface.symm.trans hinterface', Option.some.inj (h.life.symm.trans h'.life)⟩

theorem Standing.notDisplay {id : Nat} (h : Standing core interface l id)
    (hok : CoreOk clean core) : id ≠ displayId := by
  intro hid
  have hlife := h.life
  rw [hid, hok.unborn] at hlife
  cases hlife

/-- Objects stay as they are, but for those in `gone`. -/
def Keeps (gone : Nat → Prop) (core core' : HeadlessWireCore) : Prop :=
  ∀ interface l id, Followed interface → Standing core interface l id → ¬ gone id →
    Standing core' interface l id

theorem Keeps.refl (gone : Nat → Prop) (core : HeadlessWireCore) : Keeps gone core core :=
  fun _ _ _ _ h _ => h

theorem Keeps.trans (h : Keeps gone a b) (h' : Keeps gone' b c) :
    Keeps (fun id => gone id ∨ gone' id) a c := by
  intro interface l id hfollowed hstanding hgone
  simp only [not_or] at hgone
  exact h' interface l id hfollowed (h interface l id hfollowed hstanding hgone.1) hgone.2

theorem Keeps.mono (h : Keeps gone a b) (hsub : ∀ id, gone id → gone' id) : Keeps gone' a b :=
  fun interface l id hfollowed hstanding hgone =>
    h interface l id hfollowed hstanding fun hg => hgone (hsub id hg)

/-- Registry and life are the same at an id. -/
theorem Standing.of_same {id : Nat} (h : Standing core interface l id)
    (hobject : core'.registry.objects.get? id = core.registry.objects.get? id)
    (hlife : WaylandWire.life id core'.trace = WaylandWire.life id core.trace) :
    Standing core' interface l id where
  object := by
    rw [hobject]
    exact h.object
  life := hlife.trans h.life

theorem keeps_withObject {id : Nat} (hfree : FreeId core id) (interface : String) (version : Nat) :
    Keeps (fun _ => False) core (core.withObject id interface version) := by
  intro interface' l id' _ hstanding _
  have hid : id' ≠ id := by
    intro hid
    obtain ⟨object, hobject, _⟩ := hstanding.object
    rw [hid, hfree.dead] at hobject
    cases hobject
  have hother : ¬ Concerns id' (.registered id interface) := fun heq => hid heq.symm
  exact hstanding.of_same (OrdMap.get?_insert_ne _ _ hid) (life_other hother core.trace)

theorem keeps_withoutObject (core : HeadlessWireCore) (id : Nat) :
    Keeps (· = id) core (core.withoutObject id) := by
  intro interface' l id' _ hstanding hid
  have hother : ¬ Concerns id' (.destroyed id) := fun heq => hid heq.symm
  refine hstanding.of_same ?_ (life_other hother core.trace)
  change (core.registry.objects.erase id).get? id' = _
  rw [OrdMap.get?_erase, if_neg hid]

theorem standing_withObject (core : HeadlessWireCore) (id : Nat) (interface : String)
    (version : Nat) :
    Standing (core.withObject id interface version) interface (.fresh interface) id where
  object := ⟨_, OrdMap.get?_insert_self _ _ _, rfl⟩
  life := if_pos rfl

/-- The callbacks and feedbacks that wait for a commit. -/
structure Uncommitted (core : HeadlessWireCore) : Prop where
  nodup : ∀ s surface, core.surfaces.get? s = some surface → surface.callbacks.Nodup
  callbacks : ∀ s surface id, core.surfaces.get? s = some surface → id ∈ surface.callbacks →
    Standing core "wl_callback" (.fresh "wl_callback") id
  apart : ∀ s s' surface surface' id, core.surfaces.get? s = some surface →
    core.surfaces.get? s' = some surface' → id ∈ surface.callbacks → id ∈ surface'.callbacks →
    s = s'
  feedbacks : ∀ id s, core.feedbacks.get? id = some s →
    Standing core "wp_presentation_feedback" (.fresh "wp_presentation_feedback") id

theorem Uncommitted.keeps (h : Uncommitted core) (hkeeps : Keeps gone core core')
    (hsurfaces : ∀ s surface, core'.surfaces.get? s = some surface →
      core.surfaces.get? s = some surface ∨ surface.callbacks = [])
    (hfeedbacks : ∀ id s, core'.feedbacks.get? id = some s → core.feedbacks.get? id = some s)
    (hcallback : ∀ s surface id, core'.surfaces.get? s = some surface → id ∈ surface.callbacks →
      ¬ gone id) (hfeedback : ∀ id s, core'.feedbacks.get? id = some s → ¬ gone id) :
    Uncommitted core' where
  nodup s surface hget := by
    cases hsurfaces s surface hget with
    | inl hold => exact h.nodup s surface hold
    | inr hempty =>
      rw [hempty]
      exact List.nodup_nil
  callbacks s surface id hget hmem := by
    cases hsurfaces s surface hget with
    | inl hold =>
      exact hkeeps _ _ id (.inr (.inl rfl)) (h.callbacks s surface id hold hmem)
        (hcallback s surface id hget hmem)
    | inr hempty =>
      rw [hempty] at hmem
      cases hmem
  apart s s' surface surface' id hget hget' hmem hmem' := by
    cases hsurfaces s surface hget with
    | inl hold =>
      cases hsurfaces s' surface' hget' with
      | inl hold' => exact h.apart s s' surface surface' id hold hold' hmem hmem'
      | inr hempty =>
        rw [hempty] at hmem'
        cases hmem'
    | inr hempty =>
      rw [hempty] at hmem
      cases hmem
  feedbacks id s hget :=
    hkeeps _ _ id (.inr (.inr rfl)) (h.feedbacks id s (hfeedbacks id s hget))
      (hfeedback id s hget)

/-- Only the objects and the trace changed. -/
structure SameFrame (core core' : HeadlessWireCore) : Prop where
  surfaces : core'.surfaces = core.surfaces
  feedbacks : core'.feedbacks = core.feedbacks
  events : core'.eventsOut = core.eventsOut
  queued : core'.registry.queuedDeleteIds = core.registry.queuedDeleteIds

theorem SameFrame.refl (core : HeadlessWireCore) : SameFrame core core := ⟨rfl, rfl, rfl, rfl⟩

theorem SameFrame.trans (h : SameFrame a b) (h' : SameFrame b c) : SameFrame a c :=
  ⟨h'.surfaces.trans h.surfaces, h'.feedbacks.trans h.feedbacks, h'.events.trans h.events,
    h'.queued.trans h.queued⟩

/-- What the steps of a handler have kept so far. -/
structure Progress (clean : Bool) (gone : Nat → Prop) (core core' : HeadlessWireCore) :
    Prop where
  ok : CoreOk clean core'
  keeps : Keeps gone core core'
  frame : SameFrame core core'

theorem Progress.refl (h : CoreOk clean core) (gone : Nat → Prop) : Progress clean gone core core :=
  ⟨h, .refl gone core, .refl core⟩

theorem Progress.trans (h : Progress clean gone a b) (h' : Progress clean gone' b c) :
    Progress clean (fun id => gone id ∨ gone' id) a c :=
  ⟨h'.ok, h.keeps.trans h'.keeps, h.frame.trans h'.frame⟩

theorem Progress.mono (h : Progress clean gone a b) (hsub : ∀ id, gone id → gone' id) :
    Progress clean gone' a b :=
  ⟨h.ok, h.keeps.mono hsub, h.frame⟩

section Steps

variable {clean : Bool} {core : HeadlessWireCore}

section

variable (h : CoreOk clean core)
include h

theorem registerObject_progress {id : Nat} (hrange : id ≤ u32Max) (interface : String)
    (version : Nat) :
    Triple (fun c => c = core) (registerObject id interface version)
      (fun _ c => (FreeId core id ∧ c = core.withObject id interface version) ∧
        Progress clean (fun _ => False) core c)
      fun c => CoreOk clean c := by
  refine (registerObject_spec core id interface version).weaken (fun _ hc => hc)
    (fun _ c hc => ⟨hc, ?_⟩) (fun c hc => hc ▸ h)
  rw [hc.2]
  exact ⟨h.registered hc.1 hrange interface version, keeps_withObject hc.1 interface version,
    ⟨rfl, rfl, rfl, rfl⟩⟩

/-- An object that is not a callback or a feedback lives quietly. -/
theorem CoreOk.quiet_alive {id : Nat} (hobject : core.registry.objects.get? id = some object)
    (hid : id ≠ displayId) (hcallback : object.interface ≠ "wl_callback")
    (hfeedback : object.interface ≠ "wp_presentation_feedback") :
    ∀ l, life id core.trace = some l → l.Quiet := by
  intro l hl
  obtain ⟨l', hl', hinterface, _, _, _, hquiet⟩ := h.alive id object hobject hid
  obtain rfl := Option.some.inj (hl'.symm.trans hl)
  rw [hinterface] at hquiet
  exact hquiet (.inr ⟨hcallback, hfeedback⟩)

theorem destroyObject_progress {id : Nat} (hid : id ≠ displayId)
    (hquiet : ∀ l, life id core.trace = some l → l.Quiet)
    (hobject : core.registry.objects.get? id = some object) :
    Triple (fun c => c = core) (destroyObject id)
      (fun _ c => Progress clean (· = id) core c) fun c => CoreOk clean c := by
  refine (destroyObject_spec hobject).weaken (fun _ hc => hc) (fun _ c hc => ?_)
    (fun _ hc => hc.elim)
  rw [hc]
  exact ⟨h.destroyed hid hquiet, keeps_withoutObject core id, ⟨rfl, rfl, rfl, rfl⟩⟩

theorem makeOther_progress (entry : Nat × String × Nat) :
    Triple (fun c => c = core) (makeOther entry)
      (fun _ c => Progress clean (fun _ => False) core c) fun c => CoreOk clean c := by
  unfold makeOther
  refine Triple.ite (fun _ => Triple.throw fun c hc => hc ▸ h) fun hentry => ?_
  simp only [not_or, not_lt] at hentry
  exact (registerObject_progress h hentry.2 _ _).weaken (fun _ hc => hc) (fun _ _ hc => hc.2)
    fun _ hc => hc

theorem destroyOther_progress (id : Nat) :
    Triple (fun c => c = core) (destroyOther id)
      (fun _ c => Progress clean (fun _ => False) core c) fun c => CoreOk clean c := by
  refine Triple.get_bind fun c hc => ?_
  subst hc
  cases hobject : c.registry.objects.get? id with
  | none => exact Triple.throw fun s hs => hs ▸ h
  | some object =>
    refine Triple.ite (fun _ => Triple.throw fun s hs => hs ▸ h) fun hother => ?_
    simp only [Followed, not_or] at hother
    have hquiet := h.quiet_alive hobject hother.2 hother.1.2.1 hother.1.2.2
    refine (destroyObject_progress h hother.2 hquiet hobject).weaken (fun _ hs => hs)
      (fun _ s hs => ⟨hs.ok, fun interface l id' hfollowed hstanding _ => ?_, hs.frame⟩)
      fun _ hs => hs
    refine hs.keeps interface l id' hfollowed hstanding fun hid => ?_
    obtain ⟨object', hobject', hinterface⟩ := hstanding.object
    rw [hid, hobject] at hobject'
    obtain rfl := Option.some.inj hobject'
    rw [← hinterface] at hfollowed
    simp [Followed, hother.1] at hfollowed

/-- A loop whose every step makes progress. -/
theorem progress_forM {α : Type} {f : α → CoreM PUnit} (l : List α)
    (hf : ∀ a c, CoreOk clean c → Triple (fun s => s = c) (f a)
      (fun _ s => Progress clean (fun _ => False) c s) fun s => CoreOk clean s) :
    Triple (fun c => c = core) (l.forM f)
      (fun _ c => Progress clean (fun _ => False) core c) fun c => CoreOk clean c := by
  refine (Triple.forM (I := fun _ c => Progress clean (fun _ => False) core c)
    fun a rest => Triple.each fun c hc => ?_).weaken (fun c hc => ?_) (fun _ _ hc => hc)
      fun _ hc => hc
  · exact (hf a c hc.ok).imp
      (fun _ s hs => (hc.trans hs).mono fun id hid => hid.elim (fun h => h) fun h => h)
      fun _ hs => hs
  · rw [hc]
    exact .refl h _

theorem handleOther_progress (effect : OtherEffect) :
    Triple (fun c => c = core) (handleOther effect)
      (fun _ c => Progress clean (fun _ => False) core c) fun c => CoreOk clean c := by
  refine Triple.bind (progress_forM h effect.made fun entry c hc => makeOther_progress hc entry)
    fun _ => Triple.each fun c hc => ?_
  exact (progress_forM hc.ok effect.destroyed fun id s hs => destroyOther_progress hs id).imp
    (fun _ s hs => (hc.trans hs).mono fun id hid => hid.elim (fun h => h) fun h => h)
    fun _ hs => hs

/-- The callbacks of a surface are destroyed with it. -/
theorem destroyCallbacks_progress (hnodup : ids.Nodup)
    (hids : ∀ id ∈ ids, Standing core "wl_callback" (.fresh "wl_callback") id) :
    Triple (fun c => c = core) (ids.forM destroyObject)
      (fun _ c => Progress clean (· ∈ ids) core c) fun c => CoreOk clean c := by
  refine (Triple.forM (I := fun rest c => Progress clean (· ∈ ids) core c ∧ rest.Nodup ∧
      (∀ id ∈ rest, id ∈ ids) ∧
      ∀ id ∈ rest, Standing c "wl_callback" (.fresh "wl_callback") id)
    fun id rest => Triple.each fun c hc => ?_).weaken (fun c hc => ?_) (fun _ _ hc => hc.1)
      fun _ hc => hc
  · obtain ⟨hprogress, hrest, hmem, hstanding⟩ := hc
    obtain ⟨hnew, hrest⟩ := List.nodup_cons.mp hrest
    have hself := hstanding id List.mem_cons_self
    obtain ⟨object, hobject, _⟩ := hself.object
    have hquiet : ∀ l, life id c.trace = some l → l.Quiet := by
      intro l hl
      obtain rfl := Option.some.inj (hself.life.symm.trans hl)
      exact ⟨rfl, rfl⟩
    refine (destroyObject_progress hprogress.ok (hself.notDisplay hprogress.ok) hquiet
      hobject).imp (fun _ s hs => ⟨(hprogress.trans hs).mono fun id' hid => ?_, hrest,
        fun id' hid => hmem id' (List.mem_cons_of_mem _ hid), fun id' hid => ?_⟩) fun _ hs => hs
    · exact hid.elim (fun h => h) fun heq => heq ▸ hmem id List.mem_cons_self
    · refine hs.keeps _ _ id' (.inr (.inl rfl)) (hstanding id' (List.mem_cons_of_mem _ hid)) ?_
      intro heq
      exact hnew (heq ▸ hid)
  · rw [hc]
    exact ⟨.refl h _, hnodup, fun _ hid => hid, hids⟩

end

/-- What the discards of a destroyed surface leave. -/
structure Discarded (core : HeadlessWireCore) (ids : List Nat) (core' : HeadlessWireCore) :
    Prop where
  registry : core'.registry = core.registry
  surfaces : core'.surfaces = core.surfaces
  events : core'.eventsOut = core.eventsOut ++ ids.map fun id => encodeEvent id 2 []
  feedbacks : ∀ id s, core'.feedbacks.get? id = some s ↔
    id ∉ ids ∧ core.feedbacks.get? id = some s
  withdrawn : ∀ id ∈ ids, life id core'.trace =
    (life id core.trace).map fun l => { l with withdrawn := true }
  others : ∀ id, id ∉ ids → life id core'.trace = life id core.trace

def HeadlessWireCore.discarded (core : HeadlessWireCore) (id : Nat) : HeadlessWireCore :=
  { core with
    eventsOut := core.eventsOut ++ [encodeEvent id 2 []]
    feedbacks := core.feedbacks.erase id
    trace := .withdrawn id :: core.trace }

theorem CoreOk.discarded (h : CoreOk clean core) {id : Nat} (hid : id ≠ displayId) :
    CoreOk clean (core.discarded id) := by
  have hnoted := h.noted_withdrawn hid
  exact ⟨hnoted.defers, hnoted.display, hnoted.unborn, hnoted.range, hnoted.alive, hnoted.dead,
    hnoted.retired, hnoted.retiredRange, hnoted.justified⟩

theorem discardFeedbacks_spec (h : CoreOk clean core) (hnodup : ids.Nodup)
    (hids : ∀ id ∈ ids, id ≠ displayId) :
    Triple (fun c => c = core) (ids.forM discardFeedback)
      (fun _ c => CoreOk clean c ∧ Discarded core ids c) fun c => CoreOk clean c := by
  induction ids generalizing core with
  | nil =>
    refine Triple.pure fun c hc => ?_
    rw [hc]
    refine ⟨h, rfl, rfl, (List.append_nil _).symm, fun id s => ?_, fun id hid => ?_, fun _ _ => rfl⟩
    · simp
    · cases hid
  | cons id rest ih =>
    obtain ⟨hnew, hrest⟩ := List.nodup_cons.mp hnodup
    have hother : ∀ id', id' ≠ id → ¬ Concerns id' (.withdrawn id) :=
      fun id' hne heq => hne heq.symm
    refine Triple.bind (Q := fun _ c => c = core.discarded id)
      (Triple.modify fun c hc => hc ▸ rfl) fun _ => ?_
    refine (ih (h.discarded (hids id List.mem_cons_self)) hrest
      fun id' hid => hids id' (List.mem_cons_of_mem _ hid)).imp (fun _ c hc => ⟨hc.1, ?_⟩)
        fun _ hc => hc
    obtain ⟨hregistry, hsurfaces, hevents, hfeedbacks, hwithdrawn, hothers⟩ := hc.2
    refine ⟨hregistry, hsurfaces, ?_, fun id' s => ?_, fun id' hid => ?_, fun id' hid => ?_⟩
    · rw [hevents, List.map_cons]
      exact List.append_assoc _ _ _
    · rw [hfeedbacks]
      change id' ∉ rest ∧ (core.feedbacks.erase id).get? id' = some s ↔ _
      rw [OrdMap.get?_erase]
      by_cases heq : id' = id
      · simp [heq]
      · simp [heq]
    · by_cases heq : id' = id
      · subst heq
        rw [hothers id' hnew]
        exact life_withdrawn id' core.trace
      · rw [hwithdrawn id' ((List.mem_cons.mp hid).resolve_left heq)]
        exact congrArg (Option.map _) (life_other (hother id' heq) core.trace)
    · simp only [List.mem_cons, not_or] at hid
      rw [hothers id' hid.2]
      exact life_other (hother id' hid.1) core.trace

end Steps

/-- The life of a feedback that no frame can show. -/
def withdrawnFeedback : Life := { interface := "wp_presentation_feedback", withdrawn := true }

/-- The interfaces that wait for a frame. -/
def AwaitsFrame (interface : String) : Prop :=
  interface = "wl_callback" ∨ interface = "wp_presentation_feedback"

/-- Objects that wait for the frame of their commit are left alone. -/
def KeepsPending (core core' : HeadlessWireCore) : Prop :=
  ∀ interface generation outputs id, AwaitsFrame interface →
    Standing core interface (.pending interface generation outputs) id →
    Standing core' interface (.pending interface generation outputs) id

theorem Keeps.pending (h : Keeps gone core core')
    (hgone : ∀ interface generation outputs id, AwaitsFrame interface →
      Standing core interface (.pending interface generation outputs) id → ¬ gone id) :
    KeepsPending core core' :=
  fun interface generation outputs id hawaits hstanding =>
    h interface _ id (.inr hawaits) hstanding (hgone interface generation outputs id hawaits hstanding)

/-- What a handler leaves before its events are written; `destroys` is the surface that the
request destroys. -/
structure Handled (clean : Bool) (core : HeadlessWireCore) (destroys : Option Nat)
    (core' : HeadlessWireCore) : Prop where
  ok : CoreOk clean core'
  uncommitted : Uncommitted core'
  keeps : KeepsPending core core'
  queued : core'.registry.queuedDeleteIds = core.registry.queuedDeleteIds
  surfaces : ∀ s, core.surfaces.contains s = true → core'.surfaces.contains s = true ∨
    destroys = some s
  events : ∃ ids : List Nat, core'.eventsOut = ids.map (fun id => encodeEvent id 2 []) ∧
    ids.Nodup ∧ (clean = true → ids = []) ∧
    ∀ id ∈ ids, Standing core' "wp_presentation_feedback" withdrawnFeedback id

section Handlers

variable {clean : Bool} {core : HeadlessWireCore}

theorem CoreOk.congr (h : CoreOk clean core) (hregistry : core'.registry = core.registry)
    (htrace : core'.trace = core.trace)
    (hcallbacks : core'.deferFrameCallbacks = core.deferFrameCallbacks)
    (hfeedback : core'.deferPresentationFeedback = core.deferPresentationFeedback) :
    CoreOk clean core' := by
  refine ⟨⟨hcallbacks.trans h.defers.1, hfeedback.trans h.defers.2⟩, ?_, ?_, ?_, ?_, ?_, ?_, ?_, ?_⟩
  · rw [hregistry]
    exact h.display
  · rw [htrace]
    exact h.unborn
  · rw [hregistry]
    exact h.range
  · rw [hregistry, htrace]
    exact h.alive
  · rw [hregistry, htrace]
    exact h.dead
  · rw [hregistry, htrace]
    exact h.retired
  · rw [hregistry]
    exact h.retiredRange
  · rw [htrace]
    exact h.justified

/-- A handler that changes neither surfaces nor feedbacks. -/
theorem Handled.of_progress (hunc : Uncommitted core) (hevents : core.eventsOut = [])
    (h : Progress clean (fun _ => False) core core') : Handled clean core none core' where
  ok := h.ok
  uncommitted := by
    refine hunc.keeps h.keeps (fun s surface hget => .inl ?_) (fun id s hget => ?_)
      (fun _ _ _ _ _ hg => hg) fun _ _ _ hg => hg
    · rw [← h.frame.surfaces]
      exact hget
    · rw [← h.frame.feedbacks]
      exact hget
  keeps := h.keeps.pending fun _ _ _ _ _ _ hg => hg
  queued := h.frame.queued
  surfaces s hs := by
    rw [h.frame.surfaces]
    exact .inl hs
  events := ⟨[], h.frame.events.trans hevents, List.nodup_nil, fun _ => rfl, List.forall_mem_nil _⟩

section

variable (h : CoreOk clean core) (hunc : Uncommitted core) (hevents : core.eventsOut = [])
include h hunc hevents

theorem handleCreateSurface_spec (payload : List UInt8) :
    Triple (fun c => c = core) (handleCreateSurface payload)
      (fun _ c => Handled clean core none c) fun c => CoreOk clean c := by
  refine Triple.get_bind fun c hc => ?_
  subst hc
  refine Triple.ite (fun _ => Triple.throw fun s hs => hs ▸ h) fun _ => ?_
  refine Triple.ite (fun _ => Triple.throw fun s hs => hs ▸ h) fun _ => ?_
  refine Triple.bind (registerObject_progress h (readU32_le payload) "wl_surface" 4)
    fun _ => Triple.modify fun s hs => ?_
  have hprogress := hs.2
  have hkeeps : Keeps (fun _ => False) c
      { s with surfaces := s.surfaces.insert (readU32 payload) {} } :=
    fun i l id hfollowed hstanding hg =>
      (hprogress.keeps i l id hfollowed hstanding hg).of_same rfl rfl
  refine ⟨hprogress.ok.congr rfl rfl rfl rfl, ?_, hkeeps.pending fun _ _ _ _ _ _ hg => hg,
    hprogress.frame.queued, fun s' hs' => .inl ?_,
    ⟨[], hprogress.frame.events.trans hevents, List.nodup_nil, fun _ => rfl,
      List.forall_mem_nil _⟩⟩
  · refine hunc.keeps hkeeps (fun s' surface hget => ?_) (fun id s' hget => ?_)
      (fun _ _ _ _ _ hg => hg) fun _ _ _ hg => hg
    · change (s.surfaces.insert (readU32 payload) {}).get? s' = some surface at hget
      rw [OrdMap.get?_insert, hprogress.frame.surfaces] at hget
      split_ifs at hget with hself
      · obtain rfl := Option.some.inj hget
        exact .inr rfl
      · exact .inl hget
    · rw [← hprogress.frame.feedbacks]
      exact hget
  · change (s.surfaces.insert (readU32 payload) {}).contains s' = true
    rw [OrdMap.contains_iff, OrdMap.get?_insert, hprogress.frame.surfaces]
    split_ifs
    · exact ⟨_, rfl⟩
    · exact OrdMap.contains_iff.mp hs'

theorem handleSurfaceFrame_spec (surfaceId : Nat) (payload : List UInt8) :
    Triple (fun c => c = core) (handleSurfaceFrame surfaceId payload)
      (fun _ c => Handled clean core none c) fun c => CoreOk clean c := by
  refine Triple.get_bind fun c hc => ?_
  subst hc
  refine Triple.ite (fun _ => Triple.throw fun s hs => hs ▸ h) fun _ => ?_
  refine Triple.ite (fun _ => Triple.throw fun s hs => hs ▸ h) fun _ => ?_
  refine Triple.bind (registerObject_progress h (readU32_le payload) "wl_callback" 1)
    fun _ => Triple.modify fun s hs => ?_
  obtain ⟨⟨hfree, hs⟩, hprogress⟩ := hs
  generalize hid : readU32 payload = id at hfree hs
  have hnew : Standing s "wl_callback" (.fresh "wl_callback") id := by
    rw [hs]
    exact standing_withObject c id "wl_callback" 1
  have hold : ∀ s' surface, c.surfaces.get? s' = some surface → id ∉ surface.callbacks := by
    intro s' surface hget hmem
    obtain ⟨object, hobject, _⟩ := (hunc.callbacks s' surface id hget hmem).object
    rw [hfree.dead] at hobject
    cases hobject
  set c' : HeadlessWireCore := { s with
    surfaces := s.surfaces.modify surfaceId fun surface =>
      { surface with callbacks := surface.callbacks ++ [id] } } with hc'
  have hkeeps : Keeps (fun _ => False) c c' := fun i l id' hfollowed hstanding hg =>
    (hprogress.keeps i l id' hfollowed hstanding hg).of_same rfl rfl
  have hsplit : ∀ s' surface, c'.surfaces.get? s' = some surface →
      ∃ before, c.surfaces.get? s' = some before ∧
        ((s' ≠ surfaceId ∧ surface = before) ∨
          (s' = surfaceId ∧ surface.callbacks = before.callbacks ++ [id])) := by
    intro s' surface hget
    rw [hc', OrdMap.get?_modify, hprogress.frame.surfaces] at hget
    split_ifs at hget with hself
    · obtain ⟨before, hbefore, rfl⟩ := Option.map_eq_some_iff.mp hget
      exact ⟨before, hbefore, .inr ⟨hself, rfl⟩⟩
    · exact ⟨surface, hget, .inl ⟨hself, rfl⟩⟩
  have hmember : ∀ s' surface id', c'.surfaces.get? s' = some surface → id' ∈ surface.callbacks →
      (∃ before, c.surfaces.get? s' = some before ∧ id' ∈ before.callbacks) ∨
        (id' = id ∧ s' = surfaceId) := by
    intro s' surface id' hget hmem
    obtain ⟨before, hbefore, hcase⟩ := hsplit s' surface hget
    cases hcase with
    | inl hsame => exact .inl ⟨before, hbefore, hsame.2 ▸ hmem⟩
    | inr hadded =>
      rw [hadded.2, List.mem_append, List.mem_singleton] at hmem
      exact hmem.imp (fun hin => ⟨before, hbefore, hin⟩) fun heq => ⟨heq, hadded.1⟩
  refine ⟨hprogress.ok.congr rfl rfl rfl rfl, ⟨fun s' surface hget => ?_,
    fun s' surface id' hget hmem => ?_, fun s₁ s₂ surface₁ surface₂ id' hget₁ hget₂ h₁ h₂ => ?_,
    fun id' s' hget => ?_⟩, hkeeps.pending fun _ _ _ _ _ _ hg => hg, hprogress.frame.queued,
    fun s' hs' => .inl ?_, ⟨[], hprogress.frame.events.trans hevents, List.nodup_nil,
      fun _ => rfl, List.forall_mem_nil _⟩⟩
  · obtain ⟨before, hbefore, hcase⟩ := hsplit s' surface hget
    cases hcase with
    | inl hsame =>
      rw [hsame.2]
      exact hunc.nodup s' before hbefore
    | inr hadded =>
      rw [hadded.2, List.nodup_append]
      refine ⟨hunc.nodup s' before hbefore, by simp, fun a ha b hb hab => ?_⟩
      rw [List.mem_singleton.mp hb] at hab
      exact hold s' before hbefore (hab ▸ ha)
  · cases hmember s' surface id' hget hmem with
    | inl hin =>
      obtain ⟨before, hbefore, hin⟩ := hin
      exact hkeeps _ _ id' (.inr (.inl rfl)) (hunc.callbacks s' before id' hbefore hin) fun hg => hg
    | inr hself =>
      rw [hself.1]
      exact hnew.of_same rfl rfl
  · cases hmember s₁ surface₁ id' hget₁ h₁ with
    | inl hin₁ =>
      obtain ⟨before₁, hbefore₁, hin₁⟩ := hin₁
      cases hmember s₂ surface₂ id' hget₂ h₂ with
      | inl hin₂ =>
        obtain ⟨before₂, hbefore₂, hin₂⟩ := hin₂
        exact hunc.apart s₁ s₂ before₁ before₂ id' hbefore₁ hbefore₂ hin₁ hin₂
      | inr hself => exact absurd (hself.1 ▸ hin₁) (hold s₁ before₁ hbefore₁)
    | inr hself₁ =>
      cases hmember s₂ surface₂ id' hget₂ h₂ with
      | inl hin₂ =>
        obtain ⟨before₂, hbefore₂, hin₂⟩ := hin₂
        exact absurd (hself₁.1 ▸ hin₂) (hold s₂ before₂ hbefore₂)
      | inr hself₂ => exact hself₁.2.trans hself₂.2.symm
  · have hget' : c.feedbacks.get? id' = some s' := by
      rw [← hprogress.frame.feedbacks]
      exact hget
    exact hkeeps _ _ id' (.inr (.inr rfl)) (hunc.feedbacks id' s' hget') fun hg => hg
  · change (s.surfaces.modify surfaceId _).contains s' = true
    rw [OrdMap.contains_iff, OrdMap.get?_modify, hprogress.frame.surfaces]
    obtain ⟨surface, hget⟩ := OrdMap.contains_iff.mp hs'
    split_ifs
    · rw [hget]
      exact ⟨_, rfl⟩
    · exact ⟨surface, hget⟩

theorem handlePresentationFeedback_spec (payload : List UInt8) :
    Triple (fun c => c = core) (handlePresentationFeedback payload)
      (fun _ c => Handled clean core none c) fun c => CoreOk clean c := by
  unfold handlePresentationFeedback
  refine Triple.ite (fun _ => Triple.throw fun c hc => hc ▸ h) fun _ => ?_
  refine Triple.bind (registerObject_progress h (readU32_le (payload.drop 4))
    "wp_presentation_feedback" 1) fun _ => Triple.modify fun s hs => ?_
  obtain ⟨⟨hfree, hs⟩, hprogress⟩ := hs
  generalize readU32 (payload.drop 4) = id at hfree hs
  have hnew : Standing s "wp_presentation_feedback" (.fresh "wp_presentation_feedback") id := by
    rw [hs]
    exact standing_withObject core id "wp_presentation_feedback" 1
  have hkeeps : Keeps (fun _ => False) core
      { s with feedbacks := s.feedbacks.insert id (readU32 payload) } :=
    fun i l id' hfollowed hstanding hg =>
      (hprogress.keeps i l id' hfollowed hstanding hg).of_same rfl rfl
  have hsurfaces : ∀ s' surface, s.surfaces.get? s' = some surface →
      core.surfaces.get? s' = some surface := by
    intro s' surface hget
    rw [← hprogress.frame.surfaces]
    exact hget
  refine ⟨hprogress.ok.congr rfl rfl rfl rfl,
    ⟨fun s' surface hget => hunc.nodup s' surface (hsurfaces s' surface hget),
      fun s' surface id' hget hmem => ?_,
      fun s₁ s₂ surface₁ surface₂ id' hget₁ hget₂ => hunc.apart s₁ s₂ surface₁ surface₂ id'
        (hsurfaces s₁ surface₁ hget₁) (hsurfaces s₂ surface₂ hget₂),
      fun id' s' hget => ?_⟩, hkeeps.pending fun _ _ _ _ _ _ hg => hg, hprogress.frame.queued,
    fun s' hs' => .inl ?_, ⟨[], hprogress.frame.events.trans hevents, List.nodup_nil,
      fun _ => rfl, List.forall_mem_nil _⟩⟩
  · exact hkeeps _ _ id' (.inr (.inl rfl))
      (hunc.callbacks s' surface id' (hsurfaces s' surface hget) hmem) fun hg => hg
  · change (s.feedbacks.insert id (readU32 payload)).get? id' = some s' at hget
    rw [OrdMap.get?_insert, hprogress.frame.feedbacks] at hget
    split_ifs at hget with hself
    · rw [hself]
      exact hnew.of_same rfl rfl
    · exact hkeeps _ _ id' (.inr (.inr rfl)) (hunc.feedbacks id' s' hget) fun hg => hg
  · change s.surfaces.contains s' = true
    rw [hprogress.frame.surfaces]
    exact hs'

end

/-- Where presentation is waited for, a commit leaves the core alone. -/
theorem handleSurfaceCommit_same (h : CoreOk clean core) (surfaceId clockNow : Nat) :
    Triple (fun c => c = core) (handleSurfaceCommit surfaceId clockNow)
      (fun _ c => c = core) fun c => c = core := by
  refine Triple.get_bind fun c hc => ?_
  subst hc
  cases c.surfaces.get? surfaceId with
  | none => exact Triple.throw fun s hs => hs
  | some surface =>
    dsimp only
    rw [if_pos h.defers.1, if_pos h.defers.2]
    exact Triple.bind (Q := fun _ s => s = c) (Triple.pure fun s hs => hs) fun _ =>
      Triple.pure fun s hs => hs

theorem handleSurfaceCommit_spec (h : CoreOk clean core) (hunc : Uncommitted core)
    (hevents : core.eventsOut = []) (surfaceId clockNow : Nat) :
    Triple (fun c => c = core) (handleSurfaceCommit surfaceId clockNow)
      (fun _ c => Handled clean core none c) fun c => CoreOk clean c := by
  refine (handleSurfaceCommit_same h surfaceId clockNow).imp (fun _ s hs => ?_) fun s hs => ?_
  · rw [hs]
    exact .of_progress hunc hevents (.refl h _)
  · rw [hs]
    exact h

theorem mem_surfaceFeedbacks {id : Nat} :
    id ∈ core.surfaceFeedbacks s ↔ core.feedbacks.get? id = some s := by
  unfold HeadlessWireCore.surfaceFeedbacks
  rw [OrdMap.mem_keys]
  simp only [OrdMap.get?_filter_eq_some, decide_eq_true_eq]
  constructor
  · rintro ⟨s', hget, rfl⟩
    exact hget
  · intro hget
    exact ⟨s, hget, rfl⟩

theorem nodup_surfaceFeedbacks (s : Nat) : (core.surfaceFeedbacks s).Nodup :=
  OrdMap.nodup_keys _

theorem mem_surfaceCallbacks {id : Nat} (h : id ∈ core.surfaceCallbacks s) :
    ∃ surface, core.surfaces.get? s = some surface ∧ id ∈ surface.callbacks := by
  unfold HeadlessWireCore.surfaceCallbacks at h
  cases hget : core.surfaces.get? s with
  | none =>
    rw [hget] at h
    cases h
  | some surface =>
    rw [hget] at h
    exact ⟨surface, rfl, h⟩

theorem Uncommitted.nodup_surfaceCallbacks (hunc : Uncommitted core) (s : Nat) :
    (core.surfaceCallbacks s).Nodup := by
  unfold HeadlessWireCore.surfaceCallbacks
  cases hget : core.surfaces.get? s with
  | none => exact List.nodup_nil
  | some surface => exact hunc.nodup s surface hget

/-- The objects that go with a surface. -/
def GoneWith (core : HeadlessWireCore) (surfaceId id : Nat) : Prop :=
  core.feedbacks.get? id = some surfaceId ∨ id ∈ core.surfaceCallbacks surfaceId ∨
    id = surfaceId

theorem handleSurfaceDestroy_spec (h : CoreOk clean core) (hunc : Uncommitted core)
    (hevents : core.eventsOut = []) {surfaceId : Nat}
    (hobject : core.registry.objects.get? surfaceId = some object)
    (hsurface : object.interface = "wl_surface") (inhibitors : List Nat)
    (hclean : clean = true → ∀ id, core.feedbacks.get? id ≠ some surfaceId) :
    Triple (fun c => c = core) (handleSurfaceDestroy surfaceId inhibitors)
      (fun _ c => Handled clean core (some surfaceId) c) fun c => CoreOk clean c := by
  have hid : surfaceId ≠ displayId := by
    intro hid
    rw [hid] at hobject
    have hdisplay := h.display object hobject
    rw [hsurface] at hdisplay
    simp at hdisplay
  obtain ⟨l, hl, hvital⟩ := h.alive surfaceId object hobject hid
  have hself : Standing core "wl_surface" l surfaceId := ⟨⟨object, hobject, hsurface⟩, hl⟩
  have hfeedback : ∀ id ∈ core.surfaceFeedbacks surfaceId,
      Standing core "wp_presentation_feedback" (.fresh "wp_presentation_feedback") id :=
    fun id hmem => hunc.feedbacks id surfaceId (mem_surfaceFeedbacks.mp hmem)
  have hcallback : ∀ id ∈ core.surfaceCallbacks surfaceId,
      Standing core "wl_callback" (.fresh "wl_callback") id := by
    intro id hmem
    obtain ⟨surface, hget, hin⟩ := mem_surfaceCallbacks hmem
    exact hunc.callbacks surfaceId surface id hget hin
  refine Triple.get_bind fun c hc => ?_
  subst hc
  -- the feedbacks are discarded
  refine Triple.bind (discardFeedbacks_spec h (nodup_surfaceFeedbacks surfaceId)
    fun id hmem => (hfeedback id hmem).notDisplay h) fun _ => Triple.each fun c₁ h₁ => ?_
  obtain ⟨hok₁, hdiscarded⟩ := h₁
  have hkeeps₁ : Keeps (· ∈ c.surfaceFeedbacks surfaceId) c c₁ :=
    fun i l' id _ hstanding hgone => hstanding.of_same (by rw [hdiscarded.registry])
      (hdiscarded.others id hgone)
  have hwithdrawn : ∀ id ∈ c.surfaceFeedbacks surfaceId,
      Standing c₁ "wp_presentation_feedback" withdrawnFeedback id := by
    intro id hmem
    refine ⟨?_, ?_⟩
    · rw [hdiscarded.registry]
      exact (hfeedback id hmem).object
    · rw [hdiscarded.withdrawn id hmem, (hfeedback id hmem).life]
      rfl
  -- the callbacks are destroyed
  have hcallback₁ : ∀ id ∈ c.surfaceCallbacks surfaceId,
      Standing c₁ "wl_callback" (.fresh "wl_callback") id := by
    intro id hmem
    refine hkeeps₁ _ _ id (.inr (.inl rfl)) (hcallback id hmem) fun hgone => ?_
    have hboth := (hcallback id hmem).unique (hfeedback id hgone)
    simp at hboth
  refine Triple.bind (destroyCallbacks_progress hok₁ (hunc.nodup_surfaceCallbacks surfaceId)
    hcallback₁) fun _ => Triple.each fun c₂ h₂ => ?_
  -- the inhibitors are destroyed, then the surface itself
  refine Triple.bind (progress_forM h₂.ok inhibitors fun id s hs => destroyOther_progress hs id)
    fun _ => Triple.each fun c₃ h₃ => ?_
  have h₁₃ := h₂.trans h₃
  have hself₃ : Standing c₃ "wl_surface" l surfaceId := by
    have hself₁ : Standing c₁ "wl_surface" l surfaceId := by
      refine hkeeps₁ _ _ surfaceId (.inl rfl) hself fun hgone => ?_
      have hboth := hself.unique (hfeedback surfaceId hgone)
      simp at hboth
    refine h₁₃.keeps _ _ surfaceId (.inl rfl) hself₁ fun hgone => ?_
    cases hgone with
    | inl hgone =>
      have hboth := hself.unique (hcallback surfaceId hgone)
      simp at hboth
    | inr hgone => exact hgone
  refine Triple.bind (Q := fun _ s => s = { c₃ with surfaces := c₃.surfaces.erase surfaceId })
    (Triple.modify fun s hs => hs ▸ rfl) fun _ => ?_
  have hok₃ : CoreOk clean { c₃ with surfaces := c₃.surfaces.erase surfaceId } :=
    h₃.ok.congr rfl rfl rfl rfl
  obtain ⟨object₃, hobject₃, _⟩ := hself₃.object
  have hquiet : ∀ l', life surfaceId c₃.trace = some l' → l'.Quiet := by
    intro l' hl'
    obtain rfl := Option.some.inj (hself₃.life.symm.trans hl')
    refine hvital.2.2.2.2 (.inr ?_)
    rw [hvital.1, hsurface]
    decide
  refine (destroyObject_progress hok₃ hid hquiet hobject₃).imp (fun _ s h₄ => ?_) fun _ hs => hs
  have hkeeps₁₄ : Keeps (fun id => id ∈ c.surfaceCallbacks surfaceId ∨ id = surfaceId) c₁ s := by
    intro i l' id hfollowed hstanding hgone
    simp only [not_or] at hgone
    have hstanding₃ := h₁₃.keeps i l' id hfollowed hstanding
      fun hor => hor.elim hgone.1 fun hfalse => hfalse
    exact h₄.keeps i l' id hfollowed (hstanding₃.of_same rfl rfl) hgone.2
  have hkeeps : Keeps (GoneWith c surfaceId) c s := by
    intro i l' id hfollowed hstanding hgone
    simp only [GoneWith, not_or] at hgone
    refine hkeeps₁₄ i l' id hfollowed ?_ fun hor => hor.elim hgone.2.1 hgone.2.2
    exact hkeeps₁ i l' id hfollowed hstanding fun hmem => hgone.1 (mem_surfaceFeedbacks.mp hmem)
  have hsurfaces : s.surfaces = c.surfaces.erase surfaceId := by
    rw [h₄.frame.surfaces]
    change c₃.surfaces.erase surfaceId = _
    rw [h₁₃.frame.surfaces, hdiscarded.surfaces]
  have hfeedbacks : ∀ id s', s.feedbacks.get? id = some s' →
      s' ≠ surfaceId ∧ c.feedbacks.get? id = some s' := by
    intro id s' hget
    rw [h₄.frame.feedbacks] at hget
    change c₃.feedbacks.get? id = some s' at hget
    rw [h₁₃.frame.feedbacks, hdiscarded.feedbacks] at hget
    refine ⟨fun heq => hget.1 ?_, hget.2⟩
    rw [mem_surfaceFeedbacks, ← heq]
    exact hget.2
  have hsurfaceOf : ∀ s' surface, s.surfaces.get? s' = some surface →
      s' ≠ surfaceId ∧ c.surfaces.get? s' = some surface := by
    intro s' surface hget
    rw [hsurfaces, OrdMap.get?_erase] at hget
    split_ifs at hget with heq
    exact ⟨heq, hget⟩
  refine ⟨h₄.ok, ?_, hkeeps.pending ?_, ?_, fun s' hs' => ?_, ?_⟩
  · refine hunc.keeps hkeeps (fun s' surface hget => .inl (hsurfaceOf s' surface hget).2)
      (fun id s' hget => (hfeedbacks id s' hget).2) (fun s' surface id hget hmem hgone => ?_)
      fun id s' hget hgone => ?_
    · obtain ⟨hne, hbefore⟩ := hsurfaceOf s' surface hget
      have hstanding := hunc.callbacks s' surface id hbefore hmem
      rcases hgone with hgone | hgone | hgone
      · have hboth := hstanding.unique (hunc.feedbacks id surfaceId hgone)
        simp at hboth
      · obtain ⟨surface', hget', hmem'⟩ := mem_surfaceCallbacks hgone
        exact hne (hunc.apart s' surfaceId surface surface' id hbefore hget' hmem hmem')
      · rw [hgone] at hstanding
        have hboth := hstanding.unique hself
        simp at hboth
    · obtain ⟨hne, hbefore⟩ := hfeedbacks id s' hget
      have hstanding := hunc.feedbacks id s' hbefore
      rcases hgone with hgone | hgone | hgone
      · exact hne (Option.some.inj (hbefore.symm.trans hgone))
      · have hboth := hstanding.unique (hcallback id hgone)
        simp at hboth
      · rw [hgone] at hstanding
        have hboth := hstanding.unique hself
        simp at hboth
  · intro i generation outputs id hawaits hstanding hgone
    rcases hgone with hgone | hgone | hgone
    · have hboth := hstanding.unique (hunc.feedbacks id surfaceId hgone)
      simp [Life.pending, Life.fresh] at hboth
    · have hboth := hstanding.unique (hcallback id hgone)
      simp [Life.pending, Life.fresh] at hboth
    · rw [hgone] at hstanding
      have hinterface := (hstanding.unique hself).1
      simp [AwaitsFrame, hinterface] at hawaits
  · rw [h₄.frame.queued]
    change c₃.registry.queuedDeleteIds = _
    rw [h₁₃.frame.queued, hdiscarded.registry]
  · by_cases heq : s' = surfaceId
    · exact .inr (heq ▸ rfl)
    · refine .inl ?_
      rw [hsurfaces, OrdMap.contains_iff, OrdMap.get?_erase, if_neg heq]
      exact OrdMap.contains_iff.mp hs'
  · refine ⟨c.surfaceFeedbacks surfaceId, ?_, nodup_surfaceFeedbacks surfaceId, fun hc => ?_,
      fun id hmem => ?_⟩
    · rw [h₄.frame.events]
      change c₃.eventsOut = _
      rw [h₁₃.frame.events, hdiscarded.events, hevents, List.nil_append]
    · rw [List.eq_nil_iff_forall_not_mem]
      exact fun id hmem => hclean hc id (mem_surfaceFeedbacks.mp hmem)
    · refine hkeeps₁₄ _ _ id (.inr (.inr rfl)) (hwithdrawn id hmem) fun hgone => ?_
      rcases hgone with hgone | hgone
      · have hboth := (hcallback id hgone).unique (hfeedback id hmem)
        simp at hboth
      · have hboth := hself.unique (hgone ▸ hfeedback id hmem)
        simp at hboth

end Handlers

end TuffXwin.WaylandWire
