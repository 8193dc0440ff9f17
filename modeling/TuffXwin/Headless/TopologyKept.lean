import TuffXwin.Headless.SurfaceKept

/-! The operations of the topology keep every stable invariant: globals come and go, bound
outputs are told what has changed, and surfaces enter and leave outputs. -/

namespace TuffXwin.Headless
open Lib
open WaylandWire (WireError WireArg WaylandMessage readU32 displayId encodeEvent)

variable {output : RealOutput} {ids : List Nat} {environment : Environment}

section Topology

variable {terms : Terms} {J : Frame → Prop} {core : HeadlessWireCore}

theorem Holds.globals (h : Holds J none core) {globals : List WireGlobal}
    (hplain : ∀ global ∈ globals, global.interface.plain = true) :
    Holds J none { core with globals := globals } :=
  ⟨⟨fun interface id hkeeps => h.live interface (by cases interface <;> exact hkeeps),
    h.anchored.sole, hplain, h.anchored.peers, h.anchored.root, h.anchored.display⟩, h.kept⟩

/-- Outputs that stay were bound before. -/
theorem Holds.outputs (hJ : Stable terms J) (h : Holds J none core)
    {outputs : OrdMap Nat OutputState}
    (hless : ∀ id, outputs.contains id = true → core.output.outputs.contains id = true) :
    Holds J none { core with output := ⟨outputs⟩ } := by
  refine ⟨?_, hJ.outputs core.frame outputs h.kept hless⟩
  refine h.anchored.of_keeps rfl rfl rfl (fun _ hpeer => hpeer) fun interface id hkeeps => .inl ?_
  cases interface
  case wlOutput => exact hless id hkeeps
  all_goals exact hkeeps

theorem Holds.registry_live (h : Holds J none core) {id : Nat}
    (hid : id ∈ core.registryObjects.keys) : LiveAs core.registry.objects .wlRegistry id :=
  h.live .wlRegistry (OrdSet.mem_keys_iff.mp hid)

/-- What the core keeps of the topology changes, and is of no concern to the invariant. -/
theorem Holds.topology (htopology : ∀ f topology, J f → J { f with topology := topology })
    (h : Holds J none core) {realOutputs : List RealOutput}
    {runtimeGlobalNames : OrdMap String Nat} {nextGlobalName : Nat} :
    Holds J none { core with
      realOutputs := realOutputs
      runtimeGlobalNames := runtimeGlobalNames
      nextGlobalName := nextGlobalName } :=
  ⟨h.anchored, htopology core.frame _ h.kept⟩

section

variable (hJ : Stable terms J)
include hJ

theorem addTopologyOutput_kept (htopology : ∀ f topology, J f → J { f with topology := topology })
    (h : Holds J none core) (hname : terms.safe → core.nextGlobalName < u32Max) :
    Kept terms J (addTopologyOutput output) core := by
  refine kept_get ?_
  split_ifs with hknown hroom
  · exact kept_pure h
  · have hglobals : Holds J none { core with
        globals := core.globals ++ [⟨core.nextGlobalName, .wlOutput, 4⟩] } := by
      refine h.globals fun global hglobal => ?_
      rcases List.mem_append.mp hglobal with hold | hnew
      · exact h.anchored.globals global hold
      · rw [List.mem_singleton.mp hnew]
        rfl
    refine kept_set_bind (hglobals.topology htopology) fun h₁ => ?_
    refine kept_sendEach hJ h₁ fun event hevent => ?_
    obtain ⟨registry, hregistry, rfl⟩ := List.mem_map.mp hevent
    exact globalEvent_fine (h.registry_live hregistry)
  · exact fun hcore => ⟨fun hsafe _ => hroom (hname hsafe), hcore.left⟩

theorem sendOutputStates_ends (h : Holds J none core)
    (hlive : ∀ id ∈ ids, LiveAs core.registry.objects .wlOutput id)
    (hbind : ids ≠ [] → terms.mayBind) :
    Ends (Tolerated terms.safe (Left terms J)) (sendOutputStates output ids) core
      fun _ core' => Holds J none core' ∧ core'.output = core.output := by
  induction ids generalizing core with
  | nil => exact ⟨h, rfl⟩
  | cons id rest ih =>
    have hmay := hbind (List.cons_ne_nil _ _)
    refine ends_bind.mpr (ends_bind.mpr ((ends_getObject h.left).mpr fun object hobject => ?_))
    refine ends_bind.mpr ((ends_lift h.left).mpr ⟨fun millihz _ => ?_, fun _ => ?_⟩)
    · obtain ⟨eventsOut, log, heq⟩ :=
        foldl_pushed (outputEvents id object.version output millihz) core
      have h₁ : Holds J none ((outputEvents id object.version output millihz).foldl
          HeadlessWireCore.pushed core) :=
        h.pushedAll hJ (outputEvents_fine hJ hmay (hlive id List.mem_cons_self))
      rw [heq] at h₁
      refine ends_sendEach.mpr ?_
      rw [heq]
      exact ih h₁ (fun other hother => hlive other (List.mem_cons_of_mem _ hother)) fun _ => hmay
    · exact refreshPeriodToMillihz_calm _

theorem updateSurfaces_kept (h : Holds J none core) (hedges : terms.safe → OutputEdgesFit core) :
    Kept terms J (updateSurfaces ids) core := by
  induction ids generalizing core with
  | nil => exact kept_pure h
  | cons id rest ih =>
    refine updateSurfaceOutputMembership_kept hJ hedges fun current h' => ih h' fun hsafe => ?_
    unfold OutputEdgesFit
    rw [movedTo_output]
    exact hedges hsafe

theorem recalculateSurfaceMembership_kept (h : Holds J none core)
    (hedges : terms.safe → OutputEdgesFit core) :
    Kept terms J (recalculateSurfaceMembership environment) core :=
  kept_get (updateSurfaces_kept hJ h hedges)

theorem reconfigureTopologyOutput_kept
    (htopology : ∀ f topology, J f → J { f with topology := topology }) (h : Holds J none core)
    (hbind : (core.outputsNamed output.name).keys ≠ [] → terms.mayBind)
    (hedges : terms.safe → OutputEdgesFit (core.reconfigured output)) :
    Kept terms J (reconfigureTopologyOutput output environment) core := by
  refine kept_get ?_
  split
  · have h₁ : Holds J none (core.reconfigured output) := by
      have houtputs : Holds J none { core with output := (core.reconfigured output).output } :=
        h.outputs hJ fun id hid => OrdMap.contains_mapVals.symm.trans hid
      exact houtputs.topology htopology
    refine kept_set_bind h₁ fun _ _ => Ends.then (sendOutputStates_ends hJ h₁ ?_ ?_)
      fun _ core' hcore' => ?_
    · intro id hid
      obtain ⟨state, hstate⟩ := OrdMap.mem_keys.mp ((environment.visit_perm _).mem_iff.mp hid)
      exact h.live .wlOutput (OrdMap.contains_iff.mpr
        ⟨state, (OrdMap.get?_filter_eq_some.mp hstate).1⟩)
    · refine fun hids => hbind fun hnone => hids ?_
      rw [hnone]
      exact List.perm_nil.mp (environment.visit_perm [])
    · refine recalculateSurfaceMembership_kept hJ hcore'.1 (fun hsafe => ?_) hcore'.1
      unfold OutputEdgesFit
      rw [hcore'.2]
      exact hedges hsafe
  · exact kept_throw

theorem tryUpdateSurfaces_kept (h : Holds J none core) (hedges : terms.safe → OutputEdgesFit core) :
    Kept terms J (tryUpdateSurfaces ids) core := by
  induction ids generalizing core with
  | nil => exact kept_pure h
  | cons id rest ih =>
    refine fun _ => ends_bind.mpr (ends_ignoreError.mpr (Ends.mono_error
      (updateSurfaceOutputMembership_ends hedges fun current hmoves => ?_) fun fault core' hfault => ?_))
    · have h' := hmoves.holds hJ h
      refine ih h' (fun hsafe => ?_) h'
      unfold OutputEdgesFit
      rw [movedTo_output]
      exact hedges hsafe
    · cases fault with
      | error _ =>
        obtain rfl := hfault.2
        exact ih h hedges h
      | panicked => exact hfault.same h.left

theorem removeTopologyOutput_kept
    (htopology : ∀ f topology, J f → J { f with topology := topology }) (h : Holds J none core)
    {name : String} (hedges : terms.safe → OutputEdgesFit core) :
    Kept terms J (removeTopologyOutput name environment) core := by
  have houtputs : Holds J none { core with output := (core.withoutOutput name).output } :=
    h.outputs hJ fun id hid => OrdMap.contains_of_filter hid
  have hglobals : Holds J none { core with
      output := (core.withoutOutput name).output
      globals := (core.withoutOutput name).globals } := by
    refine houtputs.globals fun global hglobal => h.anchored.globals global ?_
    unfold HeadlessWireCore.withoutOutput at hglobal
    dsimp only at hglobal
    split at hglobal
    · exact hglobal
    · exact (List.mem_filter.mp hglobal).1
  have h₁ : Holds J none (core.withoutOutput name) := hglobals.topology htopology
  refine kept_get (kept_set_bind h₁ fun _ _ => ?_)
  have h₂ : Holds J none ((core.globalRemovals name).foldl HeadlessWireCore.pushed
      (core.withoutOutput name)) := by
    refine h₁.pushedAll hJ fun event hevent => ?_
    unfold HeadlessWireCore.globalRemovals at hevent
    split at hevent
    · cases hevent
    · obtain ⟨registry, hregistry, rfl⟩ := List.mem_map.mp hevent
      exact fine_declared (h.registry_live hregistry) rfl rfl (by simp [Fits])
  refine ends_bind.mpr (ends_sendEach.mpr (tryUpdateSurfaces_kept hJ h₂ (fun hsafe => ?_) h₂))
  obtain ⟨eventsOut, log, heq⟩ := foldl_pushed (core.globalRemovals name) (core.withoutOutput name)
  rw [heq]
  exact fun id state hstate => hedges hsafe id state (OrdMap.get?_filter_eq_some.mp hstate).1

end

end Topology

end TuffXwin.Headless
