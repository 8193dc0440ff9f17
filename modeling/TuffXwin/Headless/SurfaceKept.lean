import TuffXwin.Headless.DisplayKept
import TuffXwin.Headless.LayerPlacement

/-! The requests of the compositor and of surfaces keep every stable invariant. A surface
that goes takes with it what was created for it: its feedbacks, its callbacks, its layer
surface, its inhibitors and its constraints. -/

namespace TuffXwin.Headless
open Lib
open WaylandWire (WireError WireArg WaylandMessage readU32 displayId encodeEvent)

variable {surfaceId : Nat} {environment : Environment} {E : Fault → HeadlessWireCore → Prop}
  {ids : List Nat}
variable {rest : Unit → Handler Unit} {entries : List (Nat × OutputState)} {safe : Prop}
variable {a : Anchors} {payload : List UInt8} {extent : SurfaceExtent} {current : OrdSet Nat}

section Surface

variable {terms : Terms} {J : Frame → Prop} {core : HeadlessWireCore} {r : Request}
  {spec : MessageSpec} {version : Nat}

/-! Creation. -/

theorem Anchored.created {id : Nat} (h : Anchored none a) (hnone : a.objects.get? id = none) :
    Anchored none { a with
      objects := a.objects.insert id ⟨.wlSurface, version⟩
      surfaces := a.surfaces.insert id {} } := by
  have hregistered : Anchored none { a with
      objects := a.objects.insert id ⟨.wlSurface, version⟩ } := h.registered hnone (by simp)
  have hnew : LiveAs (a.objects.insert id ⟨.wlSurface, version⟩) .wlSurface id :=
    ⟨_, OrdMap.get?_insert_self _ _ _, rfl⟩
  have hold : ∀ other surface cb, (a.surfaces.insert id {}).get? other = some surface →
      cb ∈ surface.callbacks → a.surfaces.get? other = some surface := by
    intro other surface cb hsurface hcb
    by_cases heq : other = id
    · rw [heq, OrdMap.get?_insert_self] at hsurface
      obtain rfl := Option.some.inj hsurface
      cases hcb
    · rwa [OrdMap.get?_insert_ne _ _ heq] at hsurface
  refine ⟨fun interface other hkeeps => ?_, ⟨?_, ?_⟩, h.globals, h.peers, hregistered.root,
    hregistered.display⟩
  · cases interface
    case wlSurface =>
      cases OrdMap.contains_insert.mp hkeeps with
      | inl heq => exact heq ▸ hnew
      | inr hcontains => exact hregistered.live .wlSurface other hcontains
    case wlCallback =>
      obtain ⟨surfaceId, surface, hdying, hsurface, hcb⟩ := hkeeps
      exact hregistered.live .wlCallback other
        ⟨surfaceId, surface, hdying, hold _ _ _ hsurface hcb, hcb⟩
    all_goals exact hregistered.live _ other hkeeps
  · intro x y surfaceX surfaceY cb hx hy hcbX hcbY
    exact h.sole.unique x y surfaceX surfaceY cb (hold _ _ _ hx hcbX) (hold _ _ _ hy hcbY)
      hcbX hcbY
  · intro other surface hsurface
    by_cases heq : other = id
    · rw [heq, OrdMap.get?_insert_self] at hsurface
      obtain rfl := Option.some.inj hsurface
      exact List.nodup_nil
    · rw [OrdMap.get?_insert_ne _ _ heq] at hsurface
      exact h.sole.nodup other surface hsurface

theorem compositorRequest_kept (hJ : Stable terms J) (h : Holds J none core)
    (hcreate : r.opcode = 0 → terms.mayCreate core.frame (readU32 r.payload)) :
    Kept terms J (compositorRequest r) core := by
  unfold compositorRequest
  split
  · rename_i hopcode
    refine kept_requireLength fun hlength => kept_word (by omega) (kept_get ?_)
    refine kept_require fun _ hcore => ends_bind.mpr ?_
    refine (ends_registerClientObject hcore.left).mpr fun havailable => ends_modify.mpr ?_
    exact ⟨h.anchored.created havailable.none,
      hJ.created core.frame _ 4 h.kept havailable (hcreate hopcode)⟩
  · refine kept_requireLength fun hlength => kept_word (by omega) (kept_get ?_)
    refine kept_require fun _ => kept_register_bind hJ h rfl fun core' h' _ _ _ _ => kept_modify ?_
    exact h'.of_same rfl rfl
  · exact kept_unhandled

/-! What is pending for a surface. -/

theorem requireBuffer_kept {bufferId : Nat} (h : Kept terms J (rest ()) core) :
    Kept terms J (requireBuffer bufferId >>= rest) core := by
  unfold requireBuffer
  split
  · exact h
  · refine fun hcore => ends_bind.mpr (ends_bind.mpr (ends_get.mpr (ends_bind.mpr ?_)))
    exact (ends_getObject hcore.left).mpr fun _ _ =>
      (ends_require hcore.left).mpr fun _ => h hcore

theorem setPending_kept (hJ : Stable terms J) (h : Holds J none core) {id : Nat}
    {f : SurfaceState → SurfaceState} : Kept terms J (setPending id f) core :=
  kept_modify (h.withSurfaces hJ (Retains.modify fun _ => List.Sublist.refl _)
    (fun _ => OrdMap.contains_modify) rfl)

theorem handleSurfaceAttach_kept (hJ : Stable terms J) (h : Holds J none core) {id : Nat} :
    Kept terms J (handleSurfaceAttach id payload) core := by
  refine kept_requireLength fun hlength => kept_word (by omega) (kept_int (by omega) ?_)
  exact kept_int (by omega) (requireBuffer_kept (setPending_kept hJ h))

theorem handleSurfaceDamage_kept (hJ : Stable terms J) (h : Holds J none core) {id : Nat} :
    Kept terms J (handleSurfaceDamage id payload) core := by
  refine kept_requireLength fun hlength => kept_int (by omega) (kept_int (by omega) ?_)
  refine kept_word (by omega) (kept_word (by omega) (kept_get (kept_require fun _ => ?_)))
  exact setPending_kept hJ h

/-- A new callback belongs to no surface yet. -/
theorem Anchored.callback {id : Nat} (h : Anchored none a) (hlive : LiveAs a.objects .wlCallback id)
    (hfree : ∀ other surface, a.surfaces.get? other = some surface → id ∉ surface.callbacks) :
    Anchored none { a with surfaces := a.surfaces.modify surfaceId fun surface =>
      { surface with callbacks := surface.callbacks ++ [id] } } := by
  have hold : ∀ other surface', (a.surfaces.modify surfaceId fun surface =>
      { surface with callbacks := surface.callbacks ++ [id] }).get? other = some surface' →
      ∃ surface, a.surfaces.get? other = some surface ∧
        (surface'.callbacks = surface.callbacks ∨
          other = surfaceId ∧ surface'.callbacks = surface.callbacks ++ [id]) := by
    intro other surface' hget
    rw [OrdMap.get?_modify] at hget
    split_ifs at hget with heq
    · obtain ⟨surface, hsurface, rfl⟩ := Option.map_eq_some_iff.mp hget
      exact ⟨surface, hsurface, .inr ⟨heq, rfl⟩⟩
    · exact ⟨surface', hget, .inl rfl⟩
  have hmem : ∀ other surface' cb, (a.surfaces.modify surfaceId fun surface =>
      { surface with callbacks := surface.callbacks ++ [id] }).get? other = some surface' →
      cb ∈ surface'.callbacks → cb = id ∧ other = surfaceId ∨
        ∃ surface, a.surfaces.get? other = some surface ∧ cb ∈ surface.callbacks := by
    intro other surface' cb hget hcb
    obtain ⟨surface, hsurface, hsame | ⟨heq, hmore⟩⟩ := hold other surface' hget
    · exact .inr ⟨surface, hsurface, hsame ▸ hcb⟩
    · rw [hmore] at hcb
      rcases List.mem_append.mp hcb with hin | hnew
      · exact .inr ⟨surface, hsurface, hin⟩
      · exact .inl ⟨List.mem_singleton.mp hnew, heq⟩
  refine ⟨fun interface other hkeeps => ?_, ⟨?_, ?_⟩, h.globals, h.peers, h.root, h.display⟩
  · cases interface
    case wlSurface =>
      refine h.live .wlSurface other ?_
      exact OrdMap.contains_modify.symm.trans hkeeps
    case wlCallback =>
      obtain ⟨owner, surface', hdying, hsurface', hcb⟩ := hkeeps
      rcases hmem owner surface' other hsurface' hcb with ⟨rfl, _⟩ | ⟨surface, hsurface, hin⟩
      · exact hlive
      · exact h.live .wlCallback other ⟨owner, surface, hdying, hsurface, hin⟩
    all_goals exact h.live _ other hkeeps
  · intro x y surfaceX surfaceY cb hx hy hcbX hcbY
    rcases hmem x surfaceX cb hx hcbX with ⟨rfl, hxs⟩ | ⟨oldX, holdX, hinX⟩
    · rcases hmem y surfaceY cb hy hcbY with ⟨_, hys⟩ | ⟨oldY, holdY, hinY⟩
      · rw [hxs, hys]
      · exact absurd hinY (hfree y oldY holdY)
    · rcases hmem y surfaceY cb hy hcbY with ⟨rfl, _⟩ | ⟨oldY, holdY, hinY⟩
      · exact absurd hinX (hfree x oldX holdX)
      · exact h.sole.unique x y oldX oldY cb holdX holdY hinX hinY
  · intro other surface' hget
    obtain ⟨surface, hsurface, hsame | ⟨_, hmore⟩⟩ := hold other surface' hget
    · rw [hsame]
      exact h.sole.nodup other surface hsurface
    · rw [hmore]
      refine List.nodup_append.mpr
        ⟨h.sole.nodup other surface hsurface, by simp, fun cb hcb new hnew heq => ?_⟩
      rw [heq, List.mem_singleton.mp hnew] at hcb
      exact hfree other surface hsurface hcb

theorem handleSurfaceFrame_kept (hJ : Stable terms J) (h : Holds J none core) {id : Nat} :
    Kept terms J (handleSurfaceFrame id payload) core := by
  refine kept_requireLength fun hlength => kept_word (by omega) (kept_get ?_)
  refine kept_require fun _ => kept_register_bind hJ h rfl fun core' h' hnew _ heq hnone => ?_
  refine kept_modify ⟨h'.anchored.callback ⟨_, hnew, rfl⟩ fun other surface hsurface hcb => ?_,
    hJ.surfaces core'.frame _ h'.kept fun _ => OrdMap.contains_modify⟩
  rw [heq] at hsurface
  exact h.fresh_free hnone .wlCallback ⟨other, surface, by simp, hsurface, hcb⟩

/-! The outputs of a surface. -/

/-- The far edges of an output are signed words. -/
def EdgesFit (output : OutputState) : Prop :=
  FitsI32 (output.x + output.width) ∧ FitsI32 (output.y + output.height)

def OutputEdgesFit (core : HeadlessWireCore) : Prop :=
  ∀ id output, core.output.outputs.get? id = some output → EdgesFit output

theorem calm_addI32 {a b : Int} (h : FitsI32 (a + b)) : Calm (addI32 a b) := by
  rw [addI32_eq_ok.mpr ⟨h, rfl⟩]
  exact calm_ok _

theorem intersects_calm {output : OutputState} (h : EdgesFit output) :
    Calm (extent.intersects output) := by
  refine (calm_addI32 h.1).bind fun right _ => ?_
  split_ifs
  · exact (calm_addI32 h.2).bind fun _ _ => calm_ok _
  · exact calm_ok _

theorem outputsIn_calm (h : ∀ entry ∈ entries, EdgesFit entry.2) :
    Calm (extent.outputsIn entries) := by
  induction entries with
  | nil => exact calm_ok _
  | cons entry rest ih =>
    refine (intersects_calm (h entry List.mem_cons_self)).bind fun hit _ => ?_
    exact (ih fun e he => h e (List.mem_cons_of_mem _ he)).bind fun others _ => calm_ok _

/-- The outputs that a surface is on are among those given. -/
theorem outputsIn_subset (h : extent.outputsIn entries = .ok current) {id : Nat}
    (hid : OrdMap.contains current id = true) : ∃ output, (id, output) ∈ entries := by
  induction entries generalizing current with
  | nil =>
    obtain rfl := Except.ok.inj h
    cases hid
  | cons entry rest ih =>
    obtain ⟨hit, _, h⟩ := bind_eq_ok.mp h
    obtain ⟨others, hothers, h⟩ := bind_eq_ok.mp h
    obtain rfl := Except.ok.inj h
    have hcases : id = entry.1 ∨ OrdMap.contains others id = true := by
      split_ifs at hid
      · exact OrdSet.contains_insert.mp hid
      · exact .inr hid
    cases hcases with
    | inl heq => exact ⟨entry.2, heq ▸ List.mem_cons_self⟩
    | inr hin =>
      obtain ⟨output, houtput⟩ := ih hothers hin
      exact ⟨output, List.mem_cons_of_mem _ houtput⟩

theorem frame_foldl_pushed (messages : List WaylandMessage) (core : HeadlessWireCore) :
    (messages.foldl HeadlessWireCore.pushed core).frame = messages.foldl Frame.sent core.frame := by
  induction messages generalizing core with
  | nil => rfl
  | cons event rest ih => exact ih (core.pushed event)

theorem anchors_foldl_pushed (messages : List WaylandMessage) (core : HeadlessWireCore) :
    (messages.foldl HeadlessWireCore.pushed core).anchors = core.anchors := by
  induction messages generalizing core with
  | nil => rfl
  | cons event rest ih => exact ih (core.pushed event)

/-- What a surface is told of its outputs, and the row that notes it. -/
def HeadlessWireCore.movedTo (core : HeadlessWireCore) (surfaceId : Nat) (current : OrdSet Nat) :
    HeadlessWireCore :=
  ((core.frame.moveEvents surfaceId current).foldl HeadlessWireCore.pushed core).withMembership
    surfaceId current

theorem membership_foldl_pushed (messages : List WaylandMessage) (core : HeadlessWireCore) :
    (messages.foldl HeadlessWireCore.pushed core).surfaceOutputMembership =
      core.surfaceOutputMembership :=
  (congrArg Frame.membership (frame_foldl_pushed messages core)).trans (by
    induction messages generalizing core with
    | nil => rfl
    | cons event rest ih => exact ih (core.pushed event))

theorem movedTo_output (core : HeadlessWireCore) (surfaceId : Nat) (current : OrdSet Nat) :
    (core.movedTo surfaceId current).output = core.output := by
  obtain ⟨eventsOut, log, heq⟩ := foldl_pushed (core.frame.moveEvents surfaceId current) core
  unfold HeadlessWireCore.movedTo
  rw [heq]
  rfl

theorem Holds.movedTo (hJ : Stable terms J) {dying : Option Nat} (h : Holds J dying core)
    (hsurface : core.surfaces.surfaces.contains surfaceId = true)
    (hcurrent : ∀ output, OrdMap.contains current output = true →
      core.output.outputs.contains output = true) :
    Holds J dying (core.movedTo surfaceId current) := by
  refine ⟨?_, ?_⟩
  · have hsame := anchors_foldl_pushed (core.frame.moveEvents surfaceId current) core
    change Anchored dying ((core.frame.moveEvents surfaceId current).foldl
      HeadlessWireCore.pushed core).anchors
    rw [hsame]
    exact h.anchored
  · have hframe := frame_foldl_pushed (core.frame.moveEvents surfaceId current) core
    have hrows := membership_foldl_pushed (core.frame.moveEvents surfaceId current) core
    have hmoved := hJ.moved core.frame surfaceId current h.kept hsurface
      (h.live .wlSurface hsurface) hcurrent
    have heq : (core.movedTo surfaceId current).frame = core.frame.moved surfaceId current := by
      change { ((core.frame.moveEvents surfaceId current).foldl
          HeadlessWireCore.pushed core).frame with
        membership := ((core.frame.moveEvents surfaceId current).foldl
          HeadlessWireCore.pushed core).surfaceOutputMembership.insert surfaceId current } = _
      rw [hframe, hrows]
      rfl
    rw [heq]
    exact hmoved

/-- What an update of the outputs of a surface does where no sum overflows. -/
structure Moves (core : HeadlessWireCore) (surfaceId : Nat) (current : OrdSet Nat) : Prop where
  surface : core.surfaces.surfaces.contains surfaceId = true
  outputs : ∃ surface, core.surfaces.surfaces.get? surfaceId = some surface ∧
    surface.current.extent.outputsIn core.output.outputs.entries = .ok current

theorem Moves.holds (hJ : Stable terms J) {dying : Option Nat} (h : Holds J dying core)
    (hmoves : Moves core surfaceId current) : Holds J dying (core.movedTo surfaceId current) := by
  obtain ⟨surface, _, hcurrent⟩ := hmoves.outputs
  refine h.movedTo hJ hmoves.surface fun output houtput => ?_
  obtain ⟨state, hstate⟩ := outputsIn_subset hcurrent houtput
  exact OrdMap.contains_iff.mpr ⟨state, OrdMap.mem_entries.mp hstate⟩

/-- What failed has done nothing. -/
def Untouched (core core' : HeadlessWireCore) : Prop := core' = core

theorem updateSurfaceOutputMembership_ends {Q : Unit → HeadlessWireCore → Prop}
    (hedges : safe → OutputEdgesFit core)
    (hQ : ∀ current, Moves core surfaceId current → Q () (core.movedTo surfaceId current)) :
    Ends (Tolerated safe (Untouched core)) (updateSurfaceOutputMembership surfaceId) core Q := by
  have hsame : Untouched core core := rfl
  refine ends_bind.mpr (ends_get.mpr (ends_bind.mpr ?_))
  refine (ends_lift hsame).mpr ⟨fun surface hsurface => ?_, fun _ => calm_orInvalid _ _⟩
  have hget := orInvalid_eq_ok.mp hsurface
  refine ends_bind.mpr ((ends_lift hsame).mpr ⟨fun current hcurrent => ?_, fun hsafe => ?_⟩)
  · have hmoves : Moves core surfaceId current :=
      ⟨OrdMap.contains_iff.mpr ⟨surface, hget⟩, surface, hget, hcurrent⟩
    have hdone := hQ current hmoves
    unfold HeadlessWireCore.movedTo Frame.moveEvents at hdone
    rw [List.foldl_append] at hdone
    exact ends_bind.mpr (ends_sendEach.mpr (ends_bind.mpr (ends_sendEach.mpr
      (ends_modify.mpr hdone))))
  · exact outputsIn_calm fun entry hentry =>
      hedges hsafe entry.1 entry.2 (OrdMap.mem_entries.mp hentry)

theorem Tolerated.same {I : HeadlessWireCore → Prop} {fault : Fault} {core' : HeadlessWireCore}
    (h : Tolerated safe (Untouched core) fault core') (hI : I core) :
    Tolerated safe I fault core' := by
  refine ⟨h.1, ?_⟩
  rw [h.2]
  exact hI

theorem updateSurfaceOutputMembership_kept (hJ : Stable terms J)
    (hedges : terms.safe → OutputEdgesFit core)
    (hrest : ∀ current, Holds J none (core.movedTo surfaceId current) →
      Kept terms J (rest ()) (core.movedTo surfaceId current)) :
    Kept terms J (updateSurfaceOutputMembership surfaceId >>= rest) core := by
  refine fun h => ends_bind.mpr (Ends.mono_error (updateSurfaceOutputMembership_ends hedges
    fun current hmoves => ?_) fun _ _ hfault => hfault.same h.left)
  exact hrest current (hmoves.holds hJ h) (hmoves.holds hJ h)

/-! Commits. -/

/-- Feedbacks end with an event of the declaration. -/
theorem endFeedbacks_holds (hJ : Stable terms J) {dying : Option Nat} {opcode : Nat}
    {args : List WireArg} (hevent : Interface.wpPresentationFeedback.reply? opcode = some spec)
    (htypes : spec.args = args.map argType) (hfits : ∀ a ∈ args, Fits a) (h : Holds J dying core)
    (hlive : ∀ id ∈ ids, LiveAs core.registry.objects .wpPresentationFeedback id) :
    Ends E (endFeedbacks opcode args ids) core fun _ core' =>
      Holds J dying core' ∧ ∃ presentation eventsOut log, core' = { core with
        presentation := presentation
        eventsOut := eventsOut
        log := log } := by
  induction ids generalizing core with
  | nil => exact ⟨h, _, _, _, rfl⟩
  | cons id rest ih =>
    have hsent : Holds J dying (core.pushed (encodeEvent id opcode args)) :=
      h.pushed hJ (fine_declared (hlive id List.mem_cons_self) hevent htypes hfits)
    have hforgotten : Holds J dying ((core.pushed (encodeEvent id opcode args)).withoutFeedback
        id) := hsent.presentation erase_kept
    refine Ends.mono (ih hforgotten fun other hother => hlive other
      (List.mem_cons_of_mem _ hother)) fun _ core' hcore' => ?_
    obtain ⟨h', presentation, eventsOut, log, heq⟩ := hcore'
    exact ⟨h', presentation, eventsOut, log, heq⟩

/-- The callbacks of a surface are objects, each of this surface alone. -/
theorem Holds.callback_live {dying : Option Nat} (h : Holds J dying core) {id : Nat}
    (hdying : dying ≠ some surfaceId) (hid : id ∈ core.callbacksOf surfaceId) :
    LiveAs core.registry.objects .wlCallback id := by
  unfold HeadlessWireCore.callbacksOf at hid
  cases hsurface : core.surfaces.surfaces.get? surfaceId with
  | none => simp [hsurface] at hid
  | some surface =>
    simp only [hsurface, Option.map_some, Option.getD_some] at hid
    exact h.live .wlCallback ⟨surfaceId, surface, hdying, hsurface, hid⟩

theorem Holds.callbacks_nodup {dying : Option Nat} (h : Holds J dying core) (surfaceId : Nat) :
    (core.callbacksOf surfaceId).Nodup := by
  unfold HeadlessWireCore.callbacksOf
  cases hsurface : core.surfaces.surfaces.get? surfaceId with
  | none => simp
  | some surface => exact h.anchored.sole.nodup surfaceId surface hsurface

theorem Holds.callback_owner {dying : Option Nat} (h : Holds J dying core) {other id : Nat}
    {surface : SurfaceInstance} (hid : id ∈ core.callbacksOf surfaceId)
    (hother : core.surfaces.surfaces.get? other = some surface) (hcb : id ∈ surface.callbacks) :
    other = surfaceId := by
  unfold HeadlessWireCore.callbacksOf at hid
  cases hsurface : core.surfaces.surfaces.get? surfaceId with
  | none => simp [hsurface] at hid
  | some mine =>
    simp only [hsurface, Option.map_some, Option.getD_some] at hid
    exact h.anchored.sole.unique other surfaceId surface mine id hother hsurface hcb hid

/-- The callbacks of a list are answered in turn, once no surface has them. -/
theorem answerCallbacks_kept (hJ : Stable terms J) (h : Holds J none core) (hnodup : ids.Nodup)
    (hlive : ∀ id ∈ ids, LiveAs core.registry.objects .wlCallback id)
    (hfree : ∀ id ∈ ids, ¬ core.anchors.keeps none .wlCallback id) :
    Kept terms J (answerCallbacks ids) core := by
  induction ids generalizing core with
  | nil => exact kept_pure h
  | cons id rest ih =>
    have hmine := hlive id List.mem_cons_self
    refine kept_send_bind hJ h (fine_declared hmine rfl rfl (by simp [Fits])) fun h₁ _ => ?_
    obtain ⟨object, hobject, hinterface⟩ := hmine
    have hplain : object.interface.plain = true := by rw [hinterface]; rfl
    have hunkept : ¬ core.anchors.keeps none object.interface id := by
      rw [hinterface]
      exact hfree id List.mem_cons_self
    refine ends_bind.mpr ((ends_destroyObject h₁.left).mpr fun _ _ => ?_)
    have h₂ := h₁.retired hJ hobject hplain hunkept
    refine ih h₂ hnodup.of_cons (fun other hother => ?_) (fun other hother => ?_) h₂
    · refine (hlive other (List.mem_cons_of_mem _ hother)).retired fun heq => ?_
      exact (List.nodup_cons.mp hnodup).1 (heq ▸ hother)
    · exact hfree other (List.mem_cons_of_mem _ hother)

theorem takeCallbacks_kept {α : Type} {rest : List Nat → Handler α} (hJ : Stable terms J)
    (hrest : ∀ core' ids, Holds J none core' → ids.Nodup →
      (∀ id ∈ ids, LiveAs core'.registry.objects .wlCallback id) →
      (∀ id ∈ ids, ¬ core'.anchors.keeps none .wlCallback id) →
      Kept terms J (rest ids) core') :
    Kept terms J (takeFrameCallbacks surfaceId >>= rest) core := by
  intro h
  have hretains : Retains core.surfaces.surfaces (core.surfaces.modifySurface surfaceId
      fun surface => { surface with callbacks := [] }).surfaces :=
    Retains.modify fun surface => List.nil_sublist surface.callbacks
  have h' := h.withSurfaces hJ hretains (fun _ => OrdMap.contains_modify) rfl
  refine ends_bind.mpr (ends_bind.mpr (ends_get.mpr (ends_bind.mpr (ends_set.mpr ?_))))
  refine hrest _ (core.callbacksOf surfaceId) h' (h.callbacks_nodup surfaceId)
    (fun id hid => h.callback_live (by simp) hid) (fun id hid hkeeps => ?_) h'
  obtain ⟨other, surface', _, hsurface', hcb⟩ := hkeeps
  obtain ⟨surface, hsurface, hsub⟩ := hretains other surface' hsurface'
  obtain rfl := h.callback_owner hid hsurface (hsub.subset hcb)
  have hnone : surface'.callbacks = [] := by
    change (core.surfaces.surfaces.modify other _).get? other = some surface' at hsurface'
    rw [OrdMap.get?_modify_self, hsurface] at hsurface'
    exact (congrArg SurfaceInstance.callbacks (Option.some.inj hsurface')).symm
  rw [hnone] at hcb
  cases hcb

theorem answerFrameCallbacks_kept (hJ : Stable terms J) (h : Holds J none core) :
    Kept terms J (answerFrameCallbacks surfaceId) core := by
  refine kept_get ?_
  split
  · exact kept_pure h
  · exact takeCallbacks_kept hJ fun core' ids h' hnodup hlive hfree =>
      answerCallbacks_kept hJ h' hnodup hlive hfree

theorem Holds.feedback_live {dying : Option Nat} (h : Holds J dying core) {id : Nat}
    (hid : id ∈ environment.visit (core.feedbacksOf surfaceId)) :
    LiveAs core.registry.objects .wpPresentationFeedback id := by
  have hkey := (environment.visit_perm _).mem_iff.mp hid
  obtain ⟨surface, hsurface⟩ := OrdMap.mem_keys.mp hkey
  refine h.live .wpPresentationFeedback (OrdMap.contains_iff.mpr ⟨surface, ?_⟩)
  exact (OrdMap.get?_filter_eq_some.mp hsurface).1

theorem handleSurfaceCommit_kept (hJ : Stable terms J) (h : Holds J none core)
    (hedges : terms.safe → OutputEdgesFit core) :
    Kept terms J (handleSurfaceCommit environment surfaceId) core := by
  have hcommit : Holds J none (core.withSurfaces (core.surfaces.commit surfaceId)) :=
    h.withSurfaces hJ (Retains.modify fun _ => List.Sublist.refl _)
      (fun _ => OrdMap.contains_modify) rfl
  refine kept_modify_bind (hcommit.of_same rfl rfl) fun _ => ?_
  refine updateSurfaceOutputMembership_kept hJ hedges fun _ h₂ => ?_
  refine kept_bind (answerFrameCallbacks_kept hJ h₂) fun _ core₃ h₃ => kept_get ?_
  split
  · exact kept_pure h₃
  · refine fun _ => Ends.mono (endFeedbacks_holds hJ rfl rfl (by simp [Fits, presentedArgs]) h₃
      fun id hid => h₃.feedback_live hid) fun _ _ hdone => hdone.1

/-! Destruction. -/

/-- As the surface is going its callbacks are no longer kept. -/
theorem Holds.dying (h : Holds J none core) (surfaceId : Nat) : Holds J (some surfaceId) core := by
  refine ⟨⟨fun interface id hkeeps => h.live interface ?_, h.anchored.sole, h.anchored.globals,
    h.anchored.peers, h.anchored.root, h.anchored.display⟩, h.kept⟩
  cases interface
  case wlCallback =>
    obtain ⟨other, surface, _, hsurface, hcb⟩ := hkeeps
    exact ⟨other, surface, by simp, hsurface, hcb⟩
  all_goals exact hkeeps

/-- Objects that nothing keeps are destroyed one after the other, with no failure. -/
theorem destroyObjects_holds (hJ : Stable terms J) {dying : Option Nat} {interface : Interface}
    (hplain : interface.plain = true) (h : Holds J dying core) (hnodup : ids.Nodup)
    (hlive : ∀ id ∈ ids, LiveAs core.registry.objects interface id)
    (hfree : ∀ id ∈ ids, ¬ core.anchors.keeps dying interface id) :
    Ends E (destroyObjects ids) core fun _ core' => Holds J dying core' ∧
      core'.input = core.input ∧ core'.roleTables = core.roleTables ∧
        ∀ other, other ∉ ids → core'.object? other = core.object? other := by
  induction ids generalizing core with
  | nil => exact ⟨h, rfl, rfl, fun _ _ => rfl⟩
  | cons id rest ih =>
    obtain ⟨object, hobject, hinterface⟩ := hlive id List.mem_cons_self
    have hcontains : core.registry.objects.contains id = true :=
      OrdMap.contains_iff.mpr ⟨object, hobject⟩
    have hretired : Holds J dying (core.retired id) := by
      refine h.retired hJ hobject (by rw [hinterface]; exact hplain) ?_
      rw [hinterface]
      exact hfree id List.mem_cons_self
    have hstep := ih hretired hnodup.of_cons (fun other hother =>
      (hlive other (List.mem_cons_of_mem _ hother)).retired fun heq =>
        (List.nodup_cons.mp hnodup).1 (heq ▸ hother))
      fun other hother => hfree other (List.mem_cons_of_mem _ hother)
    refine ends_bind.mpr ((ends_destroyLive hcontains).mpr (hstep.mono fun _ core' hcore' => ?_))
    obtain ⟨h', hinput, hroles, hothers⟩ := hcore'
    refine ⟨h', hinput, hroles, fun other hother => ?_⟩
    have hne : other ≠ id := by
      intro hsame
      rw [hsame] at hother
      exact hother List.mem_cons_self
    rw [hothers other fun hin => hother (List.mem_cons_of_mem _ hin)]
    exact (OrdMap.get?_erase _ _ _).trans (if_neg hne)

/-! While a surface is going an invariant looks at the roles as they were: its layer surface
is closed before its claim is given up. -/

/-- The invariant, of the roles as they were. -/
def Frozen (J : Frame → Prop) (roles : RoleTables) (f : Frame) : Prop :=
  J { f with roles := roles }

/-- What a surface that is going asks of the requests there are: none comes. -/
def Terms.frozen (terms : Terms) : Terms :=
  { level := terms.level
    mayCreate := fun _ _ => False
    mayDestroy := fun _ _ => False
    mayPoint := fun _ => False
    mayBind := False
    mayConfigure := False }

theorem Frame.foldl_sent_roles (messages : List WaylandMessage) (f : Frame) (roles : RoleTables) :
    { messages.foldl Frame.sent f with roles := roles } =
      messages.foldl Frame.sent { f with roles := roles } := by
  induction messages generalizing f with
  | nil => rfl
  | cons event rest ih => exact ih (f.sent event)

theorem Frame.announced_roles (f : Frame) (roles : RoleTables) :
    { f.announced with roles := roles } = ({ f with roles := roles } : Frame).announced :=
  Frame.foldl_sent_roles _ _ roles

theorem Frame.moved_roles (f : Frame) (id : Nat) (current : OrdSet Nat) (roles : RoleTables) :
    { f.moved id current with roles := roles } =
      ({ f with roles := roles } : Frame).moved id current := by
  have hsame := Frame.foldl_sent_roles (f.moveEvents id current) f roles
  unfold Frame.moved
  rw [show ({ f with roles := roles } : Frame).moveEvents id current = f.moveEvents id current
    from rfl, ← hsame]

theorem Stable.frozen (hJ : Stable terms J) (roles : RoleTables) :
    Stable terms.frozen (Frozen J roles) where
  sent := fun _ event h hfine => hJ.sent _ event h hfine
  registered := fun _ id interface version h => hJ.registered _ id interface version h
  retired := fun _ id object h => hJ.retired _ id object h
  served := fun _ h hleft => hJ.served _ h hleft
  announced := by
    intro f h
    unfold Frozen
    rw [Frame.announced_roles]
    exact hJ.announced _ h
  surfaces := fun _ surfaces h => hJ.surfaces _ surfaces h
  outputs := fun _ outputs h => hJ.outputs _ outputs h
  created := fun _ _ _ _ _ hmay => hmay.elim
  destroyed := fun _ _ _ _ hmay => hmay.elim
  roles := fun _ _ h _ => h
  serials := fun _ serials h hchange => hJ.serials _ serials h (hchange.imp_left False.elim)
  moved := by
    intro f id current h
    unfold Frozen
    rw [Frame.moved_roles]
    exact hJ.moved _ id current h
  bound := fun _ _ _ hmay => hmay.elim
  outputEvent := fun _ _ hmay => hmay.elim
  method := fun _ id version seat h => hJ.method _ id version seat h
  unmade := fun _ _ _ _ hlasting => hlasting.elim
  pool := fun _ id version size shm h => hJ.pool _ id version size shm h
  poolResized := fun _ id fileSize size shm h => hJ.poolResized _ id fileSize size shm h
  poolGone := fun _ id shm h => hJ.poolGone _ id shm h
  buffer := fun _ id version poolId offset width height stride format shm h =>
    hJ.buffer _ id version poolId offset width height stride format shm h
  bufferGone := fun _ id shm h => hJ.bufferGone _ id shm h
  undone := fun _ id object h => hJ.undone _ id object h
  seat := fun _ id h => hJ.seat _ id h
  pointer := fun _ _ _ _ _ _ _ hmay => hmay.elim
  pointerGone := fun _ id input h => hJ.pointerGone _ id input h
  keyboard := fun _ id version seat input h => hJ.keyboard _ id version seat input h

/-- On the way to its destruction a surface is an object still. -/
structure Going (J : Frame → Prop) (surfaceId : Nat) (input : SeatManager) (roles : RoleTables)
    (core : HeadlessWireCore) : Prop where
  holds : Holds J (some surfaceId) core
  live : LiveAs core.registry.objects .wlSurface surfaceId
  input : core.input = input
  roles : core.roleTables = roles

section Going

variable {surfaceId : Nat} {input : SeatManager} {roles : RoleTables}
  {E : Fault → HeadlessWireCore → Prop}

theorem Going.destroyObjects (hJ : Stable terms J) (h : Going J surfaceId input roles core)
    (interface : Interface) (hplain : interface.plain = true) (hnodup : ids.Nodup)
    (hlive : ∀ id ∈ ids, LiveAs core.registry.objects interface id)
    (hfree : ∀ id ∈ ids, ¬ core.anchors.keeps (some surfaceId) interface id) :
    Ends E (destroyObjects ids) core fun _ core' => Going J surfaceId input roles core' := by
  refine (destroyObjects_holds hJ hplain h.holds hnodup hlive hfree).mono fun _ core' hcore' => ?_
  obtain ⟨h', hinput, hroles, hothers⟩ := hcore'
  refine ⟨h', ?_, hinput.trans h.input, hroles.trans h.roles⟩
  have hother : surfaceId ∉ ids := by
    intro hin
    obtain ⟨object, hobject, hinterface⟩ := hlive surfaceId hin
    obtain ⟨surface, hsurface, hwl⟩ := h.live
    obtain rfl := Option.some.inj (hobject.symm.trans hsurface)
    exact Interface.plain_ne hplain rfl (hinterface.symm.trans hwl)
  obtain ⟨surface, hsurface, hwl⟩ := h.live
  exact ⟨surface, (hothers surfaceId hother).trans hsurface, hwl⟩

theorem surfaceDestroyed_surfaces (m : LayerShellState) (id : Nat) :
    (∀ other, (m.surfaceDestroyed id).2.surfaces.contains other = true →
        m.surfaces.contains other = true) ∧
      ∀ layerId, (m.surfaceDestroyed id).1 = some layerId → m.surfaces.contains layerId = true := by
  unfold LayerShellState.surfaceDestroyed
  cases m.surfaceBindings.get? id with
  | none => exact ⟨fun _ hcontains => hcontains, fun _ hnone => by cases hnone⟩
  | some layerId =>
    by_cases hlayer : m.surfaces.contains layerId = true
    · simp only [hlayer, if_true]
      refine ⟨fun _ hcontains => (OrdMap.contains_erase.mp hcontains).2, fun other hother => ?_⟩
      rw [← Option.some.inj hother]
      exact hlayer
    · simp only [hlayer]
      exact ⟨fun _ hcontains => hcontains, fun _ hnone => by cases hnone⟩

/-- The tables of roles once the layer surface of a surface is closed. -/
theorem surfaceDestroyed_roles (core : HeadlessWireCore) (id : Nat) :
    ({ core with layerShell := (core.layerShell.surfaceDestroyed id).2 } :
      HeadlessWireCore).roleTables = core.roleTables.layerClosed id := by
  unfold LayerShellState.surfaceDestroyed RoleTables.layerClosed HeadlessWireCore.roleTables
  dsimp only
  cases core.layerShell.surfaceBindings.get? id with
  | none => rfl
  | some layerId =>
    dsimp only
    by_cases hlayer : core.layerShell.surfaces.contains layerId = true
    · rw [if_pos hlayer]
      simp only [OrdMap.mapVals_erase]
    · rw [if_neg hlayer, ← OrdMap.mapVals_erase,
        OrdMap.erase_eq_self (get?_of_not_contains hlayer)]

theorem Going.closeLayerSurface (hJ : Stable terms J) {frozen : RoleTables}
    (h : Going (Frozen J frozen) surfaceId input roles core) :
    Ends E (closeLayerSurface surfaceId) core fun _ core' =>
      Going (Frozen J frozen) surfaceId input (roles.layerClosed surfaceId) core' := by
  obtain ⟨hless, hclosed⟩ := surfaceDestroyed_surfaces core.layerShell surfaceId
  have hset : Holds (Frozen J frozen) (some surfaceId)
      { core with layerShell := (core.layerShell.surfaceDestroyed surfaceId).2 } := by
    refine ⟨h.holds.anchored_of_keeps rfl rfl rfl rfl fun interface id hkeeps => .inl ?_,
      h.holds.kept⟩
    cases interface
    case zwlrLayerSurfaceV1 => exact hless id hkeeps
    all_goals exact hkeeps
  have hroles : ({ core with layerShell := (core.layerShell.surfaceDestroyed surfaceId).2 } :
      HeadlessWireCore).roleTables = roles.layerClosed surfaceId := by
    rw [surfaceDestroyed_roles, h.roles]
  refine ends_bind.mpr (ends_get.mpr (ends_bind.mpr (ends_set.mpr ?_)))
  cases hlayer : (core.layerShell.surfaceDestroyed surfaceId).1 with
  | none => exact ⟨hset, h.live, h.input, hroles⟩
  | some layerId =>
    have hlive := h.holds.live .zwlrLayerSurfaceV1 (hclosed layerId hlayer)
    exact ⟨hset.pushed (hJ.frozen frozen) (fine_declared hlive rfl rfl (by simp)), h.live,
      h.input, hroles⟩

theorem Going.removeInhibitors (hJ : Stable terms J) (h : Going J surfaceId input roles core) :
    Ends E (removeInhibitors environment surfaceId) core fun _ core' =>
      Going J surfaceId input roles core' := by
  have hset : Holds J (some surfaceId)
      { core with idleInhibit := (core.idleInhibit.surfaceDestroyed surfaceId).2 } :=
    h.holds.idleInhibit filter_kept
  have hmem : ∀ id, id ∈ environment.visit (core.idleInhibit.surfaceDestroyed surfaceId).1 →
      core.idleInhibit.inhibitors.get? id = some surfaceId := by
    intro id hid
    obtain ⟨surface, hsurface⟩ := OrdMap.mem_keys.mp ((environment.visit_perm _).mem_iff.mp hid)
    obtain ⟨hget, hsame⟩ := OrdMap.get?_filter_eq_some.mp hsurface
    rw [hget, of_decide_eq_true hsame]
  refine ends_bind.mpr (ends_get.mpr (ends_bind.mpr (ends_set.mpr ?_)))
  have hgoing : Going J surfaceId input roles
      { core with idleInhibit := (core.idleInhibit.surfaceDestroyed surfaceId).2 } :=
    ⟨hset, h.live, h.input, h.roles⟩
  refine hgoing.destroyObjects hJ .zwpIdleInhibitorV1 rfl ?_ ?_ ?_
  · exact ((environment.visit_perm _).nodup_iff).mpr (OrdMap.nodup_keys _)
  · exact fun id hid => h.holds.live .zwpIdleInhibitorV1
      (OrdMap.contains_iff.mpr ⟨surfaceId, hmem id hid⟩)
  · intro id hid hkeeps
    obtain ⟨surface, hsurface⟩ := OrdMap.contains_iff.mp hkeeps
    obtain ⟨hget, hne⟩ := OrdMap.get?_filter_eq_some.mp hsurface
    rw [hmem id hid] at hget
    exact of_decide_eq_true hne (Option.some.inj hget).symm

end Going

/-! Constraints that end with their surface or their pointer. -/

theorem removeWhere_tables (m : PointerConstraintsState) (environment : Environment)
    (chosen : PointerConstraintState → Bool) :
    (∀ id, (m.removeWhere environment.visit chosen).2.locked.contains id = true →
        m.locked.contains id = true) ∧
      (∀ id, (m.removeWhere environment.visit chosen).2.confined.contains id = true →
        m.confined.contains id = true) ∧
      ∀ id ∈ (m.removeWhere environment.visit chosen).1,
        m.locked.contains id = true ∨ m.confined.contains id = true := by
  refine ⟨fun _ => OrdMap.contains_of_filter, fun _ => OrdMap.contains_of_filter, fun id hid => ?_⟩
  have hkeys : ∀ (table : OrdMap Nat PointerConstraintState),
      id ∈ environment.visit (table.filter fun _ state => chosen state).keys →
      table.contains id = true := by
    intro table hin
    obtain ⟨state, hstate⟩ := OrdMap.mem_keys.mp ((environment.visit_perm _).mem_iff.mp hin)
    exact OrdMap.contains_iff.mpr ⟨state, (OrdMap.get?_filter_eq_some.mp hstate).1⟩
  exact (List.mem_append.mp hid).imp (hkeys m.locked) (hkeys m.confined)

theorem unlocked_fine {dying : Option Nat} (h : Holds J dying core) {level : Level} {id : Nat}
    (hid : core.pointerConstraints.locked.contains id = true ∨
      core.pointerConstraints.confined.contains id = true) :
    Fine level (encodeEvent id 1 []) (core.object? id) := by
  cases hid with
  | inl hlocked => exact fine_declared (h.live .zwpLockedPointerV1 hlocked) rfl rfl (by simp)
  | inr hconfined =>
    exact fine_declared (h.live .zwpConfinedPointerV1 hconfined) rfl rfl (by simp)

/-- Constraints that are chosen end with an event each. -/
theorem Holds.unlocked (hJ : Stable terms J) {dying : Option Nat} (h : Holds J dying core)
    (environment : Environment) (chosen : PointerConstraintState → Bool) :
    Holds J dying ((((core.pointerConstraints.removeWhere environment.visit chosen).1.map
      fun id => encodeEvent id 1 []).foldl HeadlessWireCore.pushed { core with
        pointerConstraints :=
          (core.pointerConstraints.removeWhere environment.visit chosen).2 })) := by
  obtain ⟨hlocked, hconfined, hids⟩ :=
    removeWhere_tables core.pointerConstraints environment chosen
  have hset : Holds J dying { core with pointerConstraints :=
      (core.pointerConstraints.removeWhere environment.visit chosen).2 } :=
    h.constraints (fun id hid => .inl (hlocked id hid)) fun id hid => .inl (hconfined id hid)
  refine hset.pushedAll hJ fun event hevent => ?_
  obtain ⟨id, hid, rfl⟩ := List.mem_map.mp hevent
  exact unlocked_fine h (hids id hid)

/-- What events do not change of the core. -/
theorem foldl_pushed_input (messages : List WaylandMessage) (core : HeadlessWireCore) :
    (messages.foldl HeadlessWireCore.pushed core).input = core.input ∧
      (messages.foldl HeadlessWireCore.pushed core).roleTables = core.roleTables := by
  obtain ⟨eventsOut, log, heq⟩ := foldl_pushed messages core
  rw [heq]
  exact ⟨rfl, rfl⟩

theorem Going.removeConstraints (hJ : Stable terms J) {input : SeatManager} {roles : RoleTables}
    (h : Going J surfaceId input roles core) :
    Ends E (removeSurfaceConstraints environment surfaceId) core fun _ core' =>
      Going J surfaceId input roles core' := by
  refine ends_bind.mpr (ends_get.mpr (ends_bind.mpr (ends_set.mpr ?_)))
  refine ends_modify.mpr ⟨h.holds.unlocked hJ environment _, ?_, ?_, ?_⟩
  · rw [object?_foldl_pushed]
    exact h.live
  · rw [(foldl_pushed_input _ _).1]
    exact h.input
  · rw [(foldl_pushed_input _ _).2]
    exact h.roles

/-- Once the surface is gone nothing counts as going. -/
theorem Anchored.destroyed (h : Anchored (some surfaceId) a)
    (hlive : LiveAs a.objects .wlSurface surfaceId) :
    Anchored none { a with
      objects := a.objects.erase surfaceId
      surfaces := a.surfaces.erase surfaceId } := by
  have hgone : Anchored none { a with surfaces := a.surfaces.erase surfaceId } := by
    refine ⟨fun interface id hkeeps => ?_, h.sole.retains Retains.erase, h.globals, h.peers,
      h.root, h.display⟩
    refine h.live interface id ?_
    cases interface
    case wlSurface => exact (OrdMap.contains_erase.mp hkeeps).2
    case wlCallback =>
      obtain ⟨owner, surface, _, hsurface, hcb⟩ := hkeeps
      rw [OrdMap.get?_erase] at hsurface
      split_ifs at hsurface with heq
      exact ⟨owner, surface, fun hsame => heq (Option.some.inj hsame).symm, hsurface, hcb⟩
    all_goals exact hkeeps
  obtain ⟨object, hobject, hinterface⟩ := hlive
  refine hgone.retired (hgone.unkept hobject ?_) (h.ne_display hobject (by simp [hinterface]))
  rw [hinterface]
  exact not_contains_erase

/-- What may be asked of a surface that is destroyed. -/
def MayDestroy (terms : Terms) (core : HeadlessWireCore) (surfaceId : Nat) : Prop :=
  ∀ f : Frame, f.input = core.input → f.roles = core.roleTables → terms.mayDestroy f surfaceId

/-- The destruction of a surface never fails, and nothing of the surface is left. -/
theorem handleSurfaceDestroy_ends (hJ : Stable terms J) (h : Holds J none core)
    (hlive : LiveAs core.registry.objects .wlSurface surfaceId)
    (hdestroy : MayDestroy terms core surfaceId) :
    Ends E (handleSurfaceDestroy environment surfaceId) core fun _ core' =>
      Holds J none core' ∧ core'.object? surfaceId = none ∧
        core'.surfaces.surfaces.contains surfaceId = false := by
  have hK := hJ.frozen core.roleTables
  have hfrozen : Holds (Frozen J core.roleTables) (some surfaceId) core :=
    ⟨(h.dying surfaceId).anchored, h.kept⟩
  refine ends_bind.mpr (ends_get.mpr ?_)
  refine Ends.then (endFeedbacks_holds hK rfl rfl (by simp) hfrozen
    fun id hid => h.feedback_live hid) fun _ core₁ hcore₁ => ?_
  obtain ⟨h₁, presentation, eventsOut, log, rfl⟩ := hcore₁
  have hgoing : Going (Frozen J core.roleTables) surfaceId core.input core.roleTables { core with
      presentation := presentation, eventsOut := eventsOut, log := log } :=
    ⟨h₁, hlive, rfl, rfl⟩
  refine Ends.then (hgoing.destroyObjects hK .wlCallback rfl
    (h.callbacks_nodup surfaceId) (fun id hid => h.callback_live (by simp) hid)
    fun id hid hkeeps => ?_) fun _ core₂ h₂ => ?_
  · obtain ⟨owner, surface, hdying, hsurface, hcb⟩ := hkeeps
    exact hdying (congrArg some (h.callback_owner hid hsurface hcb).symm)
  refine Ends.then (h₂.closeLayerSurface hJ) fun _ core₃ h₃ => ?_
  refine Ends.then (h₃.removeInhibitors hK) fun _ core₄ h₄ => ?_
  refine Ends.then (h₄.removeConstraints hK) fun _ core₅ h₅ => ?_
  refine ends_bind.mpr (ends_modify.mpr ?_)
  have hdone : Holds J none ((core₅.withSurfaces (core₅.surfaces.destroySurface
      surfaceId)).retired surfaceId) := by
    refine ⟨h₅.holds.anchored.destroyed h₅.live, ?_⟩
    have hkept := hJ.destroyed { core₅.frame with roles := core.roleTables } surfaceId
      h₅.holds.kept h₅.live (hdestroy _ h₅.input rfl)
    have hclaims : (core.roleTables.layerClosed surfaceId).claims = core.roleTables.claims := by
      unfold RoleTables.layerClosed
      cases core.roleTables.layerBindings.get? surfaceId <;> rfl
    have hgone : ((core₅.withSurfaces (core₅.surfaces.destroySurface surfaceId)).retired
        surfaceId).roleTables = core.roleTables.surfaceGone surfaceId := by
      unfold RoleTables.surfaceGone
      rw [← hclaims, ← h₅.roles]
      rfl
    unfold HeadlessWireCore.frame
    rw [hgone]
    exact hkept
  obtain ⟨object, hobject, _⟩ := h₅.live
  have hcontains : (core₅.withSurfaces (core₅.surfaces.destroySurface
      surfaceId)).registry.objects.contains surfaceId = true :=
    OrdMap.contains_iff.mpr ⟨object, hobject⟩
  refine (ends_destroyLive hcontains).mpr ⟨hdone, ?_, ?_⟩
  · exact (OrdMap.get?_erase _ _ _).trans (if_pos rfl)
  · exact Bool.eq_false_iff.mpr not_contains_erase

theorem handleSurfaceDestroy_kept (hJ : Stable terms J) (h : Holds J none core)
    (hlive : LiveAs core.registry.objects .wlSurface surfaceId)
    (hdestroy : MayDestroy terms core surfaceId) :
    Kept terms J (handleSurfaceDestroy environment surfaceId) core :=
  fun _ => (handleSurfaceDestroy_ends hJ h hlive hdestroy).mono fun _ _ hdone => hdone.1

/-- What the requests of a surface need. -/
structure SurfaceAdmitted (terms : Terms) (core : HeadlessWireCore) (r : Request) : Prop where
  destroy : r.opcode = 0 → MayDestroy terms core r.id
  edges : r.opcode = 6 → terms.safe → OutputEdgesFit core

theorem surfaceRequest_kept (hJ : Stable terms J) (h : Holds J none core)
    (hobject : core.object? r.id = some ⟨.wlSurface, version⟩)
    (hadmitted : SurfaceAdmitted terms core r) : Kept terms J (surfaceRequest r) core := by
  unfold surfaceRequest
  split
  · rename_i hopcode
    exact handleSurfaceDestroy_kept hJ h ⟨_, hobject, rfl⟩ (hadmitted.destroy hopcode)
  · exact handleSurfaceAttach_kept hJ h
  · exact handleSurfaceDamage_kept hJ h
  · exact handleSurfaceFrame_kept hJ h
  · rename_i hopcode
    exact handleSurfaceCommit_kept hJ h (hadmitted.edges hopcode)
  · exact handleSurfaceDamage_kept hJ h
  · exact kept_unhandled

end Surface

end TuffXwin.Headless
