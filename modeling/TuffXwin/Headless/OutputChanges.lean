import TuffXwin.Headless.Binding
import TuffXwin.Headless.Destruction

/-! What the operations of the topology change. One output of the core, its global and the
objects bound to it are added, removed or told of their new state; the other outputs and what
is bound to them stay as they are, and surfaces hear which outputs they entered and left. -/

namespace TuffXwin.Headless
open Lib
open WaylandWire (WireError WireArg WaylandMessage encodeEvent)

variable {output : RealOutput} {core : HeadlessWireCore} {environment : Environment}
variable {outputId : String}

/-- The events among these that an object is sent. -/
def eventsFor (id : Nat) (events : List WaylandMessage) : List WaylandMessage :=
  events.filter fun event => event.header.objectId = id

/-- Some objects were told something, and the outputs of surfaces were noted. -/
def Informs (ids : Nat → Prop) (core core' : HeadlessWireCore) : Prop :=
  ∃ membership events log, (∀ event ∈ events, ids event.header.objectId) ∧
    core' = { core with
      surfaceOutputMembership := membership
      eventsOut := core.eventsOut ++ events
      log := log }

/-- A fault is tolerated unless safety is asked for. -/
def Unless (safe : Prop) (_ : Fault) (_ : HeadlessWireCore) : Prop := ¬safe

namespace Informs

variable {core core' core'' : HeadlessWireCore} {ids ids' : Nat → Prop}

theorem refl (core : HeadlessWireCore) : Informs ids core core := by
  refine ⟨core.surfaceOutputMembership, [], core.log, fun event hevent => ?_, ?_⟩
  · cases hevent
  · rw [List.append_nil]

theorem trans (h : Informs ids core core') (h' : Informs ids core' core'') :
    Informs ids core core'' := by
  obtain ⟨_, events, _, hevents, rfl⟩ := h
  obtain ⟨membership, events', log, hevents', rfl⟩ := h'
  refine ⟨membership, events ++ events', log, fun event hevent => ?_, ?_⟩
  · rcases List.mem_append.mp hevent with hleft | hright
    · exact hevents event hleft
    · exact hevents' event hright
  · dsimp only
    rw [List.append_assoc]

theorem mono (h : Informs ids core core') (hsub : ∀ id, ids id → ids' id) :
    Informs ids' core core' := by
  obtain ⟨membership, events, log, hevents, heq⟩ := h
  exact ⟨membership, events, log, fun event hevent => hsub _ (hevents event hevent), heq⟩

theorem pushed {event : WaylandMessage} (h : ids event.header.objectId) :
    Informs ids core (core.pushed event) := by
  refine ⟨core.surfaceOutputMembership, [event], _, fun other hother => ?_, rfl⟩
  rw [List.mem_singleton.mp hother]
  exact h

theorem membership (current : OrdSet Nat) (id : Nat) :
    Informs ids core (core.withMembership id current) := by
  refine ⟨core.surfaceOutputMembership.insert id current, [], core.log, fun event hevent => ?_, ?_⟩
  · cases hevent
  · rw [List.append_nil]
    rfl

theorem pushedAll {messages : List WaylandMessage}
    (h : ∀ event ∈ messages, ids event.header.objectId) :
    Informs ids core (messages.foldl HeadlessWireCore.pushed core) := by
  induction messages generalizing core with
  | nil => exact refl core
  | cons event rest ih =>
    refine (pushed (h event List.mem_cons_self)).trans (ih fun other hother => ?_)
    exact h other (List.mem_cons_of_mem _ hother)

end Informs

section Surfaces

variable {core : HeadlessWireCore} {safe : Prop} {id : Nat}

theorem outputsIn_ok {extent : SurfaceExtent} {entries : List (Nat × OutputState)}
    (h : ∀ entry ∈ entries, EdgesFit entry.2) :
    ∃ current, extent.outputsIn entries = .ok current := by
  induction entries with
  | nil => exact ⟨_, rfl⟩
  | cons entry rest ih =>
    obtain ⟨hright, hbottom⟩ := h entry List.mem_cons_self
    obtain ⟨others, hothers⟩ := ih fun e he => h e (List.mem_cons_of_mem _ he)
    have hhit : ∃ hit, extent.intersects entry.2 = .ok hit := by
      unfold SurfaceExtent.intersects
      rw [addI32_eq_ok.mpr ⟨hright, rfl⟩, addI32_eq_ok.mpr ⟨hbottom, rfl⟩]
      simp only [bind, Except.bind]
      split_ifs
      · exact ⟨_, rfl⟩
      · exact ⟨_, rfl⟩
    obtain ⟨hit, hhit⟩ := hhit
    exact ⟨_, bind_eq_ok.mpr ⟨hit, hhit, bind_eq_ok.mpr ⟨others, hothers, rfl⟩⟩⟩

/-- A surface that is there hears of its outputs, where the edges of these are words. -/
theorem updateSurfaceOutputMembership_informs
    (hsurface : core.surfaces.surfaces.contains id = true) (hedges : safe → OutputEdgesFit core) :
    Ends (fun _ core' => ¬safe ∧ core' = core) (updateSurfaceOutputMembership id) core
      fun _ => Informs (· = id) core := by
  obtain ⟨surface, hget⟩ := OrdMap.contains_iff.mp hsurface
  have hfound : (lift (orInvalid (core.surfaces.surfaces.get? id) id) : Handler SurfaceInstance) =
      pure surface := by rw [hget]; rfl
  unfold updateSurfaceOutputMembership
  rw [ends_bind, ends_get, hfound, ends_bind, ends_pure]
  cases hcurrent : surface.current.extent.outputsIn core.output.outputs.entries with
  | ok current =>
    have henter (outputs : List Nat) (core' : HeadlessWireCore) : Informs (· = id) core'
        ((enterEvents id outputs).foldl HeadlessWireCore.pushed core') := by
      refine Informs.pushedAll fun event hevent => ?_
      obtain ⟨output, -, rfl⟩ := List.mem_map.mp hevent
      rfl
    have hleave (outputs : List Nat) (core' : HeadlessWireCore) : Informs (· = id) core'
        ((leaveEvents id outputs).foldl HeadlessWireCore.pushed core') := by
      refine Informs.pushedAll fun event hevent => ?_
      obtain ⟨output, -, rfl⟩ := List.mem_map.mp hevent
      rfl
    exact ((henter _ core).trans (hleave _ _)).trans (.membership current id)
  | error fault =>
    refine ⟨fun hsafe => ?_, rfl⟩
    obtain ⟨current, hok⟩ := outputsIn_ok fun entry hentry =>
      hedges hsafe entry.1 entry.2 (OrdMap.mem_entries.mp hentry)
    cases hok.symm.trans hcurrent

theorem Informs.keeps {core' : HeadlessWireCore} {ids : Nat → Prop}
    (h : Informs ids core core') : core'.surfaces = core.surfaces ∧ core'.output = core.output ∧
      core'.nextGlobalName = core.nextGlobalName ∧
      core'.runtimeGlobalNames = core.runtimeGlobalNames := by
  obtain ⟨membership, events, log, -, rfl⟩ := h
  exact ⟨rfl, rfl, rfl, rfl⟩

/-- The loop of a recalculation and that of a removal, which ignores errors. -/
theorem eachSurface_informs {update : Nat → Handler Unit} (loop : List Nat → Handler Unit)
    (hnil : loop [] = pure ())
    (hcons : ∀ id rest, loop (id :: rest) = update id >>= fun _ => loop rest)
    (hone : ∀ core id, core.surfaces.surfaces.contains id = true →
      (safe → OutputEdgesFit core) →
        Ends (Unless safe) (update id) core fun _ => Informs (· = id) core)
    (ids : List Nat) (hsurfaces : ∀ id ∈ ids, core.surfaces.surfaces.contains id = true)
    (hedges : safe → OutputEdgesFit core) :
    Ends (Unless safe) (loop ids) core fun _ => Informs (· ∈ ids) core := by
  induction ids generalizing core with
  | nil =>
    rw [hnil]
    exact Informs.refl core
  | cons id rest ih =>
    rw [hcons]
    refine Ends.then (hone core id (hsurfaces id List.mem_cons_self) hedges) fun _ core₁ htold => ?_
    obtain ⟨hsame, houtput, -⟩ := htold.keeps
    have hsurfaces₁ : ∀ other ∈ rest, core₁.surfaces.surfaces.contains other = true := by
      rw [hsame]
      exact fun other hother => hsurfaces other (List.mem_cons_of_mem _ hother)
    have hedges₁ : safe → OutputEdgesFit core₁ := by
      unfold OutputEdgesFit
      rw [houtput]
      exact hedges
    have hfirst : Informs (· ∈ id :: rest) core core₁ :=
      htold.mono fun other (heq : other = id) => heq ▸ List.mem_cons_self
    refine (ih hsurfaces₁ hedges₁).mono fun _ core₂ hrest => ?_
    exact hfirst.trans (hrest.mono fun other => List.mem_cons_of_mem id)

theorem visit_surfaces (h : id ∈ environment.visit core.surfaces.surfaces.keys) :
    core.surfaces.surfaces.contains id = true :=
  OrdMap.contains_iff.mpr (OrdMap.mem_keys.mp ((environment.visit_perm _).mem_iff.mp h))

theorem recalculateSurfaceMembership_informs (hedges : safe → OutputEdgesFit core) :
    Ends (Unless safe) (recalculateSurfaceMembership environment) core
      fun _ => Informs (core.surfaces.surfaces.contains · = true) core := by
  have hone (core' : HeadlessWireCore) (id : Nat)
      (hsurface : core'.surfaces.surfaces.contains id = true)
      (hedges' : safe → OutputEdgesFit core') : Ends (Unless safe)
        (updateSurfaceOutputMembership id) core' fun _ => Informs (· = id) core' :=
    Ends.mono_error (updateSurfaceOutputMembership_informs hsurface hedges') fun _ _ h => h.1
  have hloop := eachSurface_informs updateSurfaces rfl (fun _ _ => rfl) hone
    (environment.visit core.surfaces.surfaces.keys) (fun _ => visit_surfaces) hedges
  exact Ends.mono hloop fun _ _ htold => htold.mono fun _ => visit_surfaces

/-- An update that fails is skipped; it has done nothing. -/
theorem tryUpdateSurfaces_informs (environment : Environment)
    (hedges : safe → OutputEdgesFit core) :
    Ends (Unless safe) (tryUpdateSurfaces (environment.visit core.surfaces.surfaces.keys)) core
      fun _ => Informs (core.surfaces.surfaces.contains · = true) core := by
  have hone (core' : HeadlessWireCore) (id : Nat)
      (hsurface : core'.surfaces.surfaces.contains id = true)
      (hedges' : safe → OutputEdgesFit core') : Ends (Unless safe)
        (ignoreError (updateSurfaceOutputMembership id)) core' fun _ => Informs (· = id) core' := by
    refine ends_ignoreError.mpr (Ends.mono_error
      (updateSurfaceOutputMembership_informs hsurface hedges') fun fault core₁ hfault => ?_)
    cases fault with
    | error error =>
      change Informs (· = id) core' core₁
      rw [hfault.2]
      exact Informs.refl core'
    | panicked => exact hfault.1
  have hloop := eachSurface_informs tryUpdateSurfaces rfl (fun _ _ => rfl) hone
    (environment.visit core.surfaces.surfaces.keys) (fun _ => visit_surfaces) hedges
  exact Ends.mono hloop fun _ _ htold => htold.mono fun _ => visit_surfaces

end Surfaces

/-! One output and the others. -/

/-- The outputs of the core are those it has a global for, each under a name of its own. -/
structure Listed (core : HeadlessWireCore) : Prop where
  known : ∀ name, name ∈ core.realOutputs.map (·.name) ↔
    core.runtimeGlobalNames.contains name = true
  distinct : ∀ name other global, core.runtimeGlobalNames.get? name = some global →
    core.runtimeGlobalNames.get? other = some global → name = other
  below : ∀ name global, core.runtimeGlobalNames.get? name = some global →
    global < core.nextGlobalName

def HeadlessWireCore.outputOf (core : HeadlessWireCore) (name : String) : Option RealOutput :=
  core.realOutputs.find? fun entry => entry.name = name

theorem Listed.outputOf_some (h : Listed core) (hfound : core.outputOf outputId = some output) :
    core.runtimeGlobalNames.contains outputId = true := by
  obtain ⟨hname, hmem⟩ := And.intro (List.find?_some hfound) (List.mem_of_find?_eq_some hfound)
  exact (h.known outputId).mp (List.mem_map.mpr ⟨output, hmem, of_decide_eq_true hname⟩)

theorem Listed.outputOf_none (h : Listed core)
    (hgone : ¬core.runtimeGlobalNames.contains outputId = true) :
    core.outputOf outputId = none := by
  cases hfound : core.outputOf outputId with
  | none => rfl
  | some output => exact absurd (h.outputOf_some hfound) hgone

/-- The output, its global and the objects bound to it are as before, and these were told
nothing. -/
structure Unaffected (name : String) (core core' : HeadlessWireCore) : Prop where
  output : core'.outputOf name = core.outputOf name
  globalName : core'.runtimeGlobalNames.get? name = core.runtimeGlobalNames.get? name
  global : ∀ global ∈ core.globals, core.runtimeGlobalNames.get? name = some global.name →
    global ∈ core'.globals
  bound : core'.outputsNamed name = core.outputsNamed name
  silent : ∀ id ∈ (core.outputsNamed name).keys,
    eventsFor id core'.eventsOut = eventsFor id core.eventsOut

namespace Unaffected

variable {name : String} {core core' core'' : HeadlessWireCore}

theorem trans (h : Unaffected name core core') (h' : Unaffected name core' core'') :
    Unaffected name core core'' where
  output := h'.output.trans h.output
  globalName := h'.globalName.trans h.globalName
  global := fun global hglobal hname =>
    h'.global global (h.global global hglobal hname) (h.globalName.trans hname)
  bound := h'.bound.trans h.bound
  silent := by
    intro id hid
    have hid' : id ∈ (core'.outputsNamed name).keys := by
      rw [h.bound]
      exact hid
    exact (h'.silent id hid').trans (h.silent id hid)

end Unaffected

section Changes

variable {J : Frame → Prop} {core core' : HeadlessWireCore} {ids : Nat → Prop} {safe : Prop}
  {name : String}

theorem Informs.unaffected (h : Informs ids core core')
    (hapart : ∀ id ∈ (core.outputsNamed name).keys, ¬ids id) : Unaffected name core core' := by
  obtain ⟨membership, events, log, hevents, rfl⟩ := h
  refine ⟨rfl, rfl, fun _ hglobal _ => hglobal, rfl, fun id hid => ?_⟩
  have hnone : eventsFor id events = [] := by
    refine List.filter_eq_nil_iff.mpr fun event hevent hto => hapart id hid ?_
    exact of_decide_eq_true hto ▸ hevents event hevent
  change (core.eventsOut ++ events).filter _ = core.eventsOut.filter _
  rw [List.filter_append]
  change _ ++ eventsFor id events = _
  rw [hnone, List.append_nil]

theorem Informs.outputOf (h : Informs ids core core') (name : String) :
    core'.outputOf name = core.outputOf name := by
  obtain ⟨membership, events, log, -, rfl⟩ := h
  rfl

theorem Informs.listed (h : Informs ids core core') (hlisted : Listed core) : Listed core' := by
  obtain ⟨membership, events, log, -, rfl⟩ := h
  exact ⟨hlisted.known, hlisted.distinct, hlisted.below⟩

/-- An object of one interface is not one of another. -/
theorem Holds.apart (h : Holds J none core) {interface interface' : Interface}
    (hne : interface ≠ interface') {id : Nat} (hkeeps : core.anchors.keeps none interface id)
    (hkeeps' : core.anchors.keeps none interface' id) : False := by
  obtain ⟨object, hobject, hinterface⟩ := h.live interface hkeeps
  obtain ⟨object', hobject', hinterface'⟩ := h.live interface' hkeeps'
  obtain rfl := Option.some.inj (hobject.symm.trans hobject')
  exact hne (hinterface.symm.trans hinterface')

theorem outputsNamed_keeps {id : Nat} (hid : id ∈ (core.outputsNamed name).keys) :
    core.anchors.keeps none .wlOutput id := by
  obtain ⟨state, hstate⟩ := OrdMap.mem_keys.mp hid
  exact OrdMap.contains_iff.mpr ⟨state, (OrdMap.get?_filter_eq_some.mp hstate).1⟩

theorem Holds.output_not_registry (h : Holds J none core) {id : Nat}
    (hid : id ∈ (core.outputsNamed name).keys) : ¬core.registryObjects.contains id = true := by
  intro hregistry
  have hne : Interface.wlOutput ≠ .wlRegistry := by simp
  exact h.apart hne (outputsNamed_keeps hid) hregistry

theorem Holds.output_not_surface (h : Holds J none core) {id : Nat}
    (hid : id ∈ (core.outputsNamed name).keys) : ¬core.surfaces.surfaces.contains id = true := by
  intro hsurface
  have hne : Interface.wlOutput ≠ .wlSurface := by simp
  exact h.apart hne (outputsNamed_keeps hid) hsurface

/-- The core with one more output, before its global is announced. -/
def HeadlessWireCore.withListed (core : HeadlessWireCore) (output : RealOutput) :
    HeadlessWireCore :=
  { core with
    nextGlobalName := core.nextGlobalName + 1
    realOutputs := core.realOutputs ++ [output]
    runtimeGlobalNames := core.runtimeGlobalNames.insert output.name core.nextGlobalName
    globals := core.globals ++ [⟨core.nextGlobalName, .wlOutput, 4⟩] }

theorem Listed.added (h : Listed core) (output : RealOutput) :
    Listed (core.withListed output) := by
  have hcases (name : String) (global : Nat) (hget : (core.runtimeGlobalNames.insert output.name
      core.nextGlobalName).get? name = some global) :
      (name = output.name ∧ global = core.nextGlobalName) ∨
        (name ≠ output.name ∧ core.runtimeGlobalNames.get? name = some global) := by
    rw [OrdMap.get?_insert] at hget
    split_ifs at hget with hname
    · exact .inl ⟨hname, (Option.some.inj hget).symm⟩
    · exact .inr ⟨hname, hget⟩
  refine ⟨fun name => ?_, fun name other global hname hother => ?_, fun name global hname => ?_⟩
  · change name ∈ (core.realOutputs ++ [output]).map (·.name) ↔
      (core.runtimeGlobalNames.insert output.name core.nextGlobalName).contains name = true
    rw [List.map_append, List.mem_append, h.known, OrdMap.contains_insert]
    simp [or_comm]
  · rcases hcases name global hname with ⟨rfl, hglobal⟩ | ⟨-, hname⟩ <;>
      rcases hcases other global hother with ⟨rfl, hglobal'⟩ | ⟨-, hother⟩
    · rfl
    · have hlt := h.below other global hother
      omega
    · have hlt := h.below name global hname
      omega
    · exact h.distinct name other global hname hother
  · rcases hcases name global hname with ⟨-, rfl⟩ | ⟨-, hname⟩
    · exact Nat.lt_succ_self _
    · exact Nat.lt_succ_of_lt (h.below name global hname)

/-- An output that the core does not know yet is added after the others. -/
theorem addTopologyOutput_changes (h : Holds J none core) (hlisted : Listed core)
    (hnew : ¬core.runtimeGlobalNames.contains output.name = true)
    (hroom : safe → core.nextGlobalName < u32Max) :
    Ends (Unless safe) (addTopologyOutput output) core fun _ core' => Listed core' ∧
      core'.outputOf output.name = some output ∧
      core'.nextGlobalName = core.nextGlobalName + 1 ∧ core'.output = core.output ∧
      ∀ name, name ≠ output.name → Unaffected name core core' := by
  unfold addTopologyOutput
  rw [ends_bind, ends_get, if_neg hnew]
  split_ifs with hlt
  · rw [ends_bind, ends_set]
    have htold : Informs (core.registryObjects.contains · = true) (core.withListed output)
        ((core.registryObjects.keys.map fun registry =>
          globalEvent registry ⟨core.nextGlobalName, .wlOutput, 4⟩).foldl HeadlessWireCore.pushed
            (core.withListed output)) := by
      refine Informs.pushedAll fun event hevent => ?_
      obtain ⟨registry, hregistry, rfl⟩ := List.mem_map.mp hevent
      exact OrdSet.mem_keys_iff.mp hregistry
    obtain ⟨-, houtput, hnext, -⟩ := htold.keeps
    refine ⟨htold.listed (hlisted.added output), (htold.outputOf _).trans ?_, hnext, houtput,
      fun name hname => ?_⟩
    · have hnone : core.realOutputs.find? (fun entry => entry.name = output.name) = none := by
        refine List.find?_eq_none.mpr fun entry hentry heq => hnew ?_
        refine (hlisted.known _).mp (List.mem_map.mpr ⟨entry, hentry, of_decide_eq_true heq⟩)
      change (core.realOutputs ++ [output]).find? _ = _
      rw [List.find?_append, hnone]
      simp
    · refine Unaffected.trans ?_ (htold.unaffected fun id hid hregistry => ?_)
      · refine ⟨?_, OrdMap.get?_insert_ne _ _ hname,
          fun global hglobal _ => List.mem_append_left _ hglobal, rfl, fun _ _ => rfl⟩
        change (core.realOutputs ++ [output]).find? _ = core.realOutputs.find? _
        rw [List.find?_append]
        simp [hname.symm]
      · exact h.output_not_registry hid hregistry
  · exact fun hsafe => hlt (hroom hsafe)

/-- An output that the core knows is not added again. -/
theorem addTopologyOutput_known (h : core.runtimeGlobalNames.contains output.name = true) :
    addTopologyOutput output core = .ok () core := by
  unfold addTopologyOutput
  rw [bind_get, if_pos h]
  rfl

theorem addTopologyOutput_names (h : Holds J none core) (hlisted : Listed core)
    (output : RealOutput) :
    Ends (Unless False) (addTopologyOutput output) core fun _ core' => Listed core' ∧
      ∀ name, core'.runtimeGlobalNames.contains name = true ↔
        name = output.name ∨ core.runtimeGlobalNames.contains name = true := by
  by_cases hknown : core.runtimeGlobalNames.contains output.name = true
  · unfold Ends
    rw [addTopologyOutput_known hknown]
    refine ⟨hlisted, fun name => ⟨.inr, ?_⟩⟩
    rintro (rfl | hname)
    · exact hknown
    · exact hname
  · refine (addTopologyOutput_changes h hlisted hknown False.elim).mono ?_
    rintro _ core' ⟨hlisted', hfound, -, -, hothers⟩
    refine ⟨hlisted', fun name => ?_⟩
    by_cases hname : name = output.name
    · rw [hname]
      exact iff_of_true (hlisted'.outputOf_some hfound) (.inl rfl)
    · unfold OrdMap.contains
      rw [(hothers name hname).globalName]
      simp [hname]

theorem Listed.removed (h : Listed core) (name : String) : Listed (core.withoutOutput name) := by
  have hget (other : String) (global : Nat)
      (hother : (core.runtimeGlobalNames.erase name).get? other = some global) :
      core.runtimeGlobalNames.get? other = some global := by
    rw [OrdMap.get?_erase] at hother
    split_ifs at hother
    exact hother
  refine ⟨fun other => ?_, fun other another global hother hanother => ?_,
    fun other global hother => h.below other global (hget other global hother)⟩
  · change other ∈ (core.realOutputs.filter fun entry => entry.name ≠ name).map (·.name) ↔
      (core.runtimeGlobalNames.erase name).contains other = true
    rw [OrdMap.contains_erase, ← h.known, List.mem_map, List.mem_map]
    constructor
    · rintro ⟨entry, hentry, rfl⟩
      obtain ⟨hmem, hname⟩ := List.mem_filter.mp hentry
      exact ⟨of_decide_eq_true hname, entry, hmem, rfl⟩
    · rintro ⟨hname, entry, hmem, rfl⟩
      exact ⟨entry, List.mem_filter.mpr ⟨hmem, decide_eq_true hname⟩, rfl⟩
  · exact h.distinct other another global (hget other global hother) (hget another global hanother)

/-- Its global is no other's. -/
theorem withoutOutput_unaffected (h : Listed core) {other : String} (hother : other ≠ name) :
    Unaffected other core (core.withoutOutput name) := by
  refine ⟨?_, ?_, fun global hglobal hget => ?_, ?_, fun _ _ => rfl⟩
  · change (core.realOutputs.filter fun entry => entry.name ≠ name).find? _ =
      core.realOutputs.find? _
    rw [List.find?_filter]
    congr 1
    funext entry
    by_cases hentry : entry.name = other
    · simp [hentry, hother]
    · simp [hentry]
  · change (core.runtimeGlobalNames.erase name).get? other = _
    rw [OrdMap.get?_erase, if_neg hother]
  · unfold HeadlessWireCore.withoutOutput
    dsimp only
    cases hname : core.runtimeGlobalNames.get? name with
    | none => exact hglobal
    | some globalName =>
      refine List.mem_filter.mpr ⟨hglobal, decide_eq_true fun heq => hother ?_⟩
      exact h.distinct other name globalName (hget.trans (congrArg some heq)) hname
  · refine OrdMap.ext_get? fun id => ?_
    change ((core.output.outputs.filter fun _ output => output.name ≠ name).filter
      fun _ output => output.name = other).get? id =
        (core.output.outputs.filter fun _ output => output.name = other).get? id
    rw [OrdMap.get?_filter, OrdMap.get?_filter, OrdMap.get?_filter, Option.filter_filter]
    congr 1
    funext output
    by_cases houtput : output.name = other
    · simp [houtput, hother]
    · simp [houtput]

theorem removeTopologyOutput_changes (h : Holds J none core) (hlisted : Listed core)
    (hedges : safe → OutputEdgesFit core) :
    Ends (Unless safe) (removeTopologyOutput name environment) core fun _ core' => Listed core' ∧
      ¬core'.runtimeGlobalNames.contains name = true ∧
      core'.nextGlobalName = core.nextGlobalName ∧
      core'.output = (core.withoutOutput name).output ∧
      ∀ other, other ≠ name → Unaffected other core core' := by
  unfold removeTopologyOutput
  rw [ends_bind, ends_get, ends_bind, ends_set, ends_bind]
  have htold : Informs (core.registryObjects.contains · = true) (core.withoutOutput name)
      ((core.globalRemovals name).foldl HeadlessWireCore.pushed (core.withoutOutput name)) := by
    refine Informs.pushedAll fun event hevent => ?_
    unfold HeadlessWireCore.globalRemovals at hevent
    split at hevent
    · cases hevent
    · obtain ⟨registry, hregistry, rfl⟩ := List.mem_map.mp hevent
      exact OrdSet.mem_keys_iff.mp hregistry
  obtain ⟨hsurfaces, houtput, hnext, hnames⟩ := htold.keeps
  have hedges₁ : safe → OutputEdgesFit ((core.globalRemovals name).foldl
      HeadlessWireCore.pushed (core.withoutOutput name)) := by
    intro hsafe id state hstate
    rw [houtput] at hstate
    exact hedges hsafe id state (OrdMap.get?_filter_eq_some.mp hstate).1
  have hloop := tryUpdateSurfaces_informs environment hedges₁
  rw [hsurfaces] at hloop
  change Ends (Unless safe) (tryUpdateSurfaces _) ((core.globalRemovals name).foldl
    HeadlessWireCore.pushed (core.withoutOutput name)) _
  refine Ends.mono hloop fun _ core' htold' => ?_
  obtain ⟨-, houtput', hnext', hnames'⟩ := htold'.keeps
  refine ⟨htold'.listed (htold.listed (hlisted.removed name)), fun hcontains => ?_,
    hnext'.trans hnext, houtput'.trans houtput, fun other hother => ?_⟩
  · rw [hnames', hnames] at hcontains
    exact (OrdMap.contains_erase.mp hcontains).1 rfl
  · have hwithout := withoutOutput_unaffected hlisted hother
    have hspared := hwithout.trans (htold.unaffected fun id hid => ?_)
    · refine hspared.trans (htold'.unaffected fun id hid => ?_)
      rw [hspared.bound] at hid
      exact h.output_not_surface hid
    · rw [hwithout.bound] at hid
      exact h.output_not_registry hid

theorem names_replaceOutput (output : RealOutput) (entries : List RealOutput) :
    (replaceOutput output entries).map (·.name) = entries.map (·.name) := by
  induction entries with
  | nil => rfl
  | cons entry rest ih =>
    unfold replaceOutput
    split_ifs with hname
    · rw [List.map_cons, List.map_cons, hname]
    · rw [List.map_cons, List.map_cons, ih]

theorem find?_replaceOutput_other (hname : name ≠ output.name) (entries : List RealOutput) :
    (replaceOutput output entries).find? (fun entry => entry.name = name) =
      entries.find? fun entry => entry.name = name := by
  induction entries with
  | nil => rfl
  | cons entry rest ih =>
    unfold replaceOutput
    split_ifs with hentry
    · have hnot : ¬entry.name = name := fun heq => hname (heq.symm.trans hentry)
      simp [hname.symm, hnot]
    · rw [List.find?_cons, List.find?_cons, ih]

theorem find?_replaceOutput_self {entries : List RealOutput}
    (hmem : output.name ∈ entries.map (·.name)) :
    (replaceOutput output entries).find? (fun entry => entry.name = output.name) =
      some output := by
  induction entries with
  | nil => cases hmem
  | cons entry rest ih =>
    unfold replaceOutput
    split_ifs with hentry
    · simp
    · rw [List.map_cons, List.mem_cons] at hmem
      have hrest := hmem.resolve_left fun heq => hentry heq.symm
      rw [List.find?_cons, ih hrest]
      simp [hentry]

theorem Listed.reconfigured (h : Listed core) (output : RealOutput) :
    Listed (core.reconfigured output) := by
  refine ⟨fun name => ?_, h.distinct, h.below⟩
  change name ∈ (replaceOutput output core.realOutputs).map (·.name) ↔ _
  rw [names_replaceOutput]
  exact h.known name

theorem reconfigured_unaffected (core : HeadlessWireCore) (hname : name ≠ output.name) :
    Unaffected name core (core.reconfigured output) := by
  refine ⟨find?_replaceOutput_other hname _, rfl, fun _ hglobal _ => hglobal, ?_, fun _ _ => rfl⟩
  refine OrdMap.ext_get? fun id => ?_
  change ((core.output.outputs.mapVals fun _ state =>
    if state.name = output.name then state.reconfigured output else state).filter
      fun _ state => state.name = name).get? id = (core.outputsNamed name).get? id
  unfold HeadlessWireCore.outputsNamed
  rw [OrdMap.get?_filter, OrdMap.get?_mapVals, OrdMap.get?_filter]
  cases core.output.outputs.get? id with
  | none => rfl
  | some state =>
    rw [Option.map_some]
    split_ifs with hstate
    · have hnot : ¬state.name = name := fun heq => hname (heq.symm.trans hstate)
      simp [Option.filter_some, OutputState.reconfigured, hnot]
    · rfl

/-- Every object that is bound to the output is told of its state. -/
theorem sendOutputStates_informs {ids : List Nat}
    (hlive : ∀ id ∈ ids, ∃ object, core.object? id = some object)
    (hrate : safe → ids ≠ [] → ∃ millihz, refreshPeriodToMillihz output.refreshNsec = .ok millihz) :
    Ends (Unless safe) (sendOutputStates output ids) core fun _ => Informs (· ∈ ids) core := by
  induction ids generalizing core with
  | nil => exact Informs.refl core
  | cons id rest ih =>
    obtain ⟨object, hobject⟩ := hlive id List.mem_cons_self
    have hfound : (lift (orInvalid (core.object? id) id) : Handler WireObject) = pure object := by
      rw [hobject]
      rfl
    unfold sendOutputStates sendOutputState
    rw [ends_bind, ends_bind]
    change Ends (Unless safe) (lift (orInvalid (core.object? id) id)) core _
    rw [hfound, ends_pure, ends_bind]
    cases hmillihz : refreshPeriodToMillihz output.refreshNsec with
    | error fault =>
      intro hsafe
      obtain ⟨millihz, hok⟩ := hrate hsafe (List.cons_ne_nil _ _)
      cases hok.symm.trans hmillihz
    | ok millihz =>
      have htold : Informs (· ∈ id :: rest) core
          ((outputEvents id object.version output millihz).foldl HeadlessWireCore.pushed core) := by
        refine Informs.pushedAll fun event hevent => ?_
        rw [mem_outputEvents hevent]
        exact List.mem_cons_self
      have hlive₁ : ∀ other ∈ rest, ∃ found, ((outputEvents id object.version output
          millihz).foldl HeadlessWireCore.pushed core).object? other = some found := by
        intro other hother
        unfold HeadlessWireCore.object?
        rw [object?_foldl_pushed]
        exact hlive other (List.mem_cons_of_mem _ hother)
      refine (ih hlive₁ fun hsafe _ => hrate hsafe (List.cons_ne_nil _ _)).mono ?_
      exact fun _ core' hrest => htold.trans (hrest.mono fun other => List.mem_cons_of_mem id)

theorem reconfigureTopologyOutput_changes (h : Holds J none core) (hlisted : Listed core)
    (hknown : safe → core.runtimeGlobalNames.contains output.name = true)
    (hrate : safe → (core.outputsNamed output.name).keys ≠ [] →
      ∃ millihz, refreshPeriodToMillihz output.refreshNsec = .ok millihz)
    (hedges : safe → OutputEdgesFit (core.reconfigured output)) :
    Ends (Unless safe) (reconfigureTopologyOutput output environment) core fun _ core' =>
      Listed core' ∧ core'.outputOf output.name = some output ∧
      core'.nextGlobalName = core.nextGlobalName ∧
      core'.output = (core.reconfigured output).output ∧
      ∀ name, name ≠ output.name → Unaffected name core core' := by
  unfold reconfigureTopologyOutput
  rw [ends_bind, ends_get]
  have hany : (core.realOutputs.any fun entry => entry.name = output.name) = true ↔
      core.runtimeGlobalNames.contains output.name = true := by
    rw [← hlisted.known, List.any_eq_true, List.mem_map]
    simp
  split_ifs with hfound
  · have hmem := (hlisted.known _).mpr (hany.mp hfound)
    rw [ends_bind, ends_set, ends_bind]
    have hids (id : Nat) : id ∈ environment.visit (core.outputsNamed output.name).keys ↔
        id ∈ (core.outputsNamed output.name).keys := (environment.visit_perm _).mem_iff
    have hlive : ∀ id ∈ environment.visit (core.outputsNamed output.name).keys,
        ∃ object, (core.reconfigured output).object? id = some object := by
      intro id hid
      obtain ⟨object, hobject, -⟩ := h.live .wlOutput (outputsNamed_keeps ((hids id).mp hid))
      exact ⟨object, hobject⟩
    have hrate₁ : safe → environment.visit (core.outputsNamed output.name).keys ≠ [] →
        ∃ millihz, refreshPeriodToMillihz output.refreshNsec = .ok millihz := by
      intro hsafe hsome
      refine hrate hsafe fun hnone => hsome ?_
      rw [hnone]
      exact List.perm_nil.mp (environment.visit_perm [])
    refine Ends.mono (sendOutputStates_informs hlive hrate₁) fun _ core₁ htold => ?_
    obtain ⟨hsurfaces, houtput, hnext, -⟩ := htold.keeps
    have hedges₁ : safe → OutputEdgesFit core₁ := by
      unfold OutputEdgesFit
      rw [houtput]
      exact hedges
    refine Ends.mono (recalculateSurfaceMembership_informs hedges₁) fun _ core₂ htold' => ?_
    obtain ⟨-, houtput', hnext', -⟩ := htold'.keeps
    refine ⟨htold'.listed (htold.listed (hlisted.reconfigured output)), ?_,
      hnext'.trans hnext, houtput'.trans houtput, fun name hname => ?_⟩
    · exact ((htold'.outputOf _).trans (htold.outputOf _)).trans (find?_replaceOutput_self hmem)
    · have hfirst := reconfigured_unaffected core hname
      have hspared := hfirst.trans (htold.unaffected fun id hid htold => ?_)
      · refine hspared.trans (htold'.unaffected fun id hid => ?_)
        rw [hspared.bound] at hid
        rw [hsurfaces]
        exact h.output_not_surface hid
      · rw [hfirst.bound] at hid
        obtain ⟨state, hstate⟩ := OrdMap.mem_keys.mp hid
        obtain ⟨state', hstate'⟩ := OrdMap.mem_keys.mp ((hids id).mp htold)
        obtain ⟨hget, hnamed⟩ := OrdMap.get?_filter_eq_some.mp hstate
        obtain ⟨hget', hnamed'⟩ := OrdMap.get?_filter_eq_some.mp hstate'
        obtain rfl := Option.some.inj (hget.symm.trans hget')
        exact hname ((of_decide_eq_true hnamed).symm.trans (of_decide_eq_true hnamed'))
  · exact fun hsafe => hfound (hany.mpr (hknown hsafe))

end Changes

/-! What operations leave alone, and what events are sent from, through every operation. -/

section Anchored

/-- The serials and the topology, of which most moves know nothing. -/
theorem serials_stable {terms : Terms} (hlevel : terms.level = .off fun _ => false)
    (hlasting : ¬ terms.lasting) {P : Serials → Topology → Prop}
    (hP : ∀ before after topology, P before topology →
      terms.mayConfigure ∨ SerialsFrom before after → P after topology) :
    Stable terms fun f => P f.serials f.topology where
  sent := fun _ _ h _ => h
  registered := fun _ _ _ _ h _ _ => h
  retired := fun _ _ _ h _ _ => h
  served := fun _ h _ => h
  announced := by
    intro f h
    obtain ⟨_, _, heq⟩ := f.announced_eq
    rw [heq]
    exact h
  surfaces := fun _ _ h _ => h
  outputs := fun _ _ h _ => h
  roles := fun _ _ h _ => h
  serials := fun f serials h hchange => hP f.serials serials f.topology h hchange
  created := fun _ _ _ h _ _ => h
  destroyed := fun _ _ h _ _ => h
  moved := by
    intro f id current h _ _ _
    obtain ⟨_, _, heq⟩ := f.moved_eq id current
    rw [heq]
    exact h
  bound := fun _ _ _ _ h _ _ => h
  outputEvent := by
    intro event object _ _
    rw [hlevel]
    exact fun _ _ hbanned => absurd hbanned.2 (by simp)
  method := fun _ _ _ _ h _ => h
  unmade := fun _ _ _ _ hleft => absurd hleft hlasting
  pool := fun _ _ _ _ _ h _ _ => h
  poolResized := fun _ _ _ _ _ h _ => h
  poolGone := fun _ _ _ h _ _ => h
  buffer := fun _ _ _ _ _ _ _ _ _ _ h _ _ => h
  bufferGone := fun _ _ _ h _ _ => h
  undone := fun _ _ _ h _ => h
  seat := fun _ _ h => h
  pointer := fun _ _ _ _ _ h _ _ _ => h
  pointerGone := fun _ _ _ h _ _ => h
  keyboard := fun _ _ _ _ _ h _ _ => h

theorem anything_stable : Stable openTerms fun _ => True :=
  serials_stable (P := fun _ _ => True) rfl id fun _ _ _ _ _ => trivial

theorem anything_lasting : Lasting fun _ => True where
  fresh := fun _ _ => trivial
  readied := fun _ _ => trivial
  topology := fun _ _ _ => trivial
  acknowledged := fun _ _ _ _ _ => trivial

theorem Anchored.holds (h : Anchored none core.anchors) :
    Holds (fun _ => True) none core := ⟨h, trivial⟩

theorem perform_anchored (h : Anchored none core.anchors) (operation : Operation) :
    Ends (fun _ _ => True) operation.perform core
      fun _ core' => Anchored none core'.anchors := by
  have hkept := perform_kept anything_stable anything_lasting h.holds
    (openTerms_unasked.admitted core operation fun _ => trivial)
  exact Ends.mono_error ((hkept h.holds).mono fun _ _ hdone => hdone.anchored)
    fun _ _ _ => trivial

theorem serials_lasting (start : Serials) : Lasting fun f => SerialsFrom start f.serials where
  fresh := fun _ _ => ⟨fun _ _ hserial => (by cases hserial), fun _ => (show 1 ≤ u32Max by decide)⟩
  readied := fun _ h => h
  topology := fun _ _ h => h
  acknowledged := fun _ _ _ h _ => h

/-- Only requests of one kind give extended surfaces new serials. -/
theorem perform_serials (h : Anchored none core.anchors) {operation : Operation}
    (hsilent : ¬ operation.Configures core) :
    Ends (fun _ _ => True) operation.perform core fun _ core' =>
      SerialsFrom core.xdgShell.serials core'.xdgShell.serials := by
  let terms : Terms := { openTerms with mayConfigure := False }
  have hstable : Stable terms fun f => SerialsFrom core.xdgShell.serials f.serials :=
    serials_stable (P := fun serials _ => SerialsFrom core.xdgShell.serials serials) rfl id
      fun _ _ _ hbefore hchange => hbefore.trans (hchange.resolve_left id)
  have hunasked : terms.Unasked := ⟨rfl, id, trivial, fun _ _ => trivial, fun _ _ => trivial,
    fun _ _ => trivial, fun _ _ => trivial, fun _ => trivial⟩
  have hholds : Holds (fun f => SerialsFrom core.xdgShell.serials f.serials) none core :=
    ⟨h, .refl _⟩
  have hkept := perform_kept hstable (serials_lasting _) hholds
    (hunasked.admitted core operation hsilent)
  exact Ends.mono_error ((hkept hholds).mono fun _ _ hdone => hdone.kept) fun _ _ _ => trivial

/-- Requests leave the topology alone. -/
theorem dispatchWithFds_topology (h : Anchored none core.anchors) {message : WaylandMessage}
    {fds : List Nat} :
    Ends (fun _ _ => True) (dispatchWithFds message fds environment) core fun _ core' =>
      core'.topology = core.topology := by
  have hstable : Stable openTerms fun f => f.topology = core.topology :=
    serials_stable (P := fun _ topology => topology = core.topology) rfl id
      fun _ _ _ hbefore _ => hbefore
  have hready : Holds (fun f => f.topology = core.topology) none (core.readied fds) := ⟨h, rfl⟩
  have hleft : Left openTerms (fun f => f.topology = core.topology) core :=
    fun hlasting => hlasting.elim
  refine Ends.mono_error ((dispatchWithFds_ends hstable hleft hready fun _ _ _ => ?_).mono
    fun _ _ hdone => hdone.1.kept) fun _ _ _ => trivial
  exact openTerms_unasked.admits _ _ _ fun _ _ => trivial

end Anchored

end TuffXwin.Headless
