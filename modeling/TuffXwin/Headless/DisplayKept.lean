import TuffXwin.Headless.Tables

/-! The requests of the display and the bindings of globals keep every stable invariant. What
a global stands for is announced as it is bound; an output is announced by events that only
some invariants allow. -/

namespace TuffXwin.Headless
open Lib
open WaylandWire (WireError WireArg WaylandMessage readU32 displayId encodeEvent)

variable {output : RealOutput} {global : WireGlobal}
variable {millihz : Int}

section Display

variable {terms : Terms} {J : Frame → Prop} {core : HeadlessWireCore} {r : Request}
  {spec : MessageSpec} {version : Nat}

theorem name_fits (interface : Interface) : Fits (.string interface.name) := by
  have h : interface.name.toUTF8.toList.length ≤ 64 := by cases interface <;> decide +kernel
  unfold Fits maxWireStringBytes
  omega

/-- No table keeps the id of an object that is not there. -/
theorem Holds.fresh_free {dying : Option Nat} {id : Nat} (h : Holds J dying core)
    (hnone : core.object? id = none) (interface : Interface) :
    ¬ core.anchors.keeps dying interface id := by
  intro hkeeps
  obtain ⟨object, hobject, _⟩ := h.live interface hkeeps
  rw [HeadlessWireCore.object?, hobject] at hnone
  cases hnone

theorem globalEvent_fine {level : Level} {registryId : Nat}
    (hlive : LiveAs core.registry.objects .wlRegistry registryId) :
    Fine level (globalEvent registryId global) (core.object? registryId) := by
  have hname := name_fits global.interface
  refine fine_declared hlive rfl rfl fun arg harg => ?_
  simp only [List.mem_cons, List.not_mem_nil, or_false] at harg
  rcases harg with rfl | rfl | rfl
  · trivial
  · exact hname
  · trivial

theorem displayRequest_kept (hJ : Stable terms J) (h : Holds J none core) :
    Kept terms J (displayRequest r) core := by
  unfold displayRequest
  split
  · refine kept_requireLength fun hlength => kept_word (by omega) ?_
    refine kept_register_bind hJ h rfl fun core' h' hnew _ heq hnone => ?_
    refine kept_send_bind hJ h' (fine_declared ⟨_, hnew, rfl⟩ rfl rfl (by simp [Fits])) fun h₁ => ?_
    refine kept_destroy hJ h₁ hnew rfl fun hkeeps => h.fresh_free hnone .wlCallback ?_
    rw [heq] at hkeeps
    exact hkeeps
  · refine kept_requireLength fun hlength => kept_word (by omega) ?_
    refine kept_register_bind hJ h rfl fun core' h' hnew _ heq hnone => ?_
    refine kept_modify_bind (h'.registries ⟨_, hnew, rfl⟩) fun h₁ => kept_get ?_
    refine kept_sendEach hJ h₁ fun event hevent => ?_
    obtain ⟨global, _, rfl⟩ := List.mem_map.mp hevent
    exact globalEvent_fine ⟨_, hnew, rfl⟩
  · exact kept_unhandled

/-! Bindings. -/

theorem checkInterface_kept {payload : List UInt8} {rest : Unit → Handler Unit}
    (hlength : 8 ≤ payload.length) (h : Kept terms J (rest ()) core) :
    Kept terms J (checkInterface payload >>= rest) core := by
  intro hcore
  refine ends_bind.mpr (ends_bind.mpr ((ends_wordAt (by omega)).mpr (ends_bind.mpr ?_)))
  refine (ends_require hcore.left).mpr fun _ => ends_bind.mpr ?_
  refine (ends_requireLength hcore.left).mpr fun _ => ends_bind.mpr ?_
  exact (ends_require hcore.left).mpr fun _ => (ends_require hcore.left).mpr fun _ => h hcore

theorem findGlobal_kept {name : Nat} {rest : WireGlobal → Handler Unit}
    (h : ∀ global, core.globals.find? (fun global => global.name = name) = some global →
      Kept terms J (rest global) core) : Kept terms J (findGlobal name >>= rest) core := by
  intro hcore
  refine ends_bind.mpr (ends_bind.mpr (ends_get.mpr ((ends_lift hcore.left).mpr ⟨?_, ?_⟩)))
  · exact fun global hglobal => h global (orInvalid_eq_ok.mp hglobal) hcore
  · exact fun _ => calm_orInvalid _ _

/-- An output stands behind the global that a bind names. -/
def OutputBehind (core : HeadlessWireCore) (r : Request) : Prop :=
  ∃ global output,
    core.globals.find? (fun global => global.name = readU32 r.payload) = some global ∧
      global.interface = .wlOutput ∧ core.outputOfGlobal global = some output

theorem withOutput_outputs (core : HeadlessWireCore) (id : Nat) (output : RealOutput) :
    ∃ state, (core.withOutput id output).output.outputs = core.output.outputs.insert id state := by
  refine ⟨⟨output.name, output.x, output.y, output.width, output.height, asI32 output.scale,
    output.refreshNsec⟩, OrdMap.ext_get? fun other => ?_⟩
  simp only [HeadlessWireCore.withOutput, OutputManager.setMode, OutputManager.modifyOutput,
    OutputManager.createOutput]
  by_cases heq : other = id
  · rw [heq, OrdMap.get?_modify_self, OrdMap.get?_modify_self, OrdMap.get?_insert_self,
      OrdMap.get?_insert_self]
    rfl
  · rw [OrdMap.get?_modify_ne _ _ heq, OrdMap.get?_modify_ne _ _ heq,
      OrdMap.get?_insert_ne _ _ heq, OrdMap.get?_insert_ne _ _ heq]

theorem Holds.withOutput (hJ : Stable terms J) (h : Holds J none core) (hbind : terms.mayBind)
    {id : Nat} (hid : id ≤ u32Max) (hlive : LiveAs core.registry.objects .wlOutput id) :
    Holds J none (core.withOutput id output) := by
  obtain ⟨state, hstate⟩ := withOutput_outputs core id output
  refine ⟨?_, ?_⟩
  · refine h.anchored.of_keeps rfl rfl rfl (fun _ hpeer => hpeer) fun interface other hkeeps => ?_
    cases interface
    case wlOutput =>
      change (core.withOutput id output).output.outputs.contains other = true at hkeeps
      rw [hstate] at hkeeps
      exact insert_kept hlive other hkeeps
    all_goals exact .inl hkeeps
  · have hbound := hJ.bound core.frame id state hbind h.kept hid hlive
    change J { core.frame with outputs := (core.withOutput id output).output.outputs }
    rw [hstate]
    exact hbound

theorem mem_outputEvents {id version : Nat} {event : WaylandMessage}
    (h : event ∈ outputEvents id version output millihz) : event.header.objectId = id := by
  unfold outputEvents at h
  simp only [List.mem_append, List.mem_cons, List.not_mem_nil, or_false] at h
  rcases h with ((((rfl | rfl) | h) | h) | h)
  · rfl
  · rfl
  · split_ifs at h
    · obtain rfl := List.mem_singleton.mp h
      rfl
    · cases h
  · split_ifs at h
    · simp only [List.mem_cons, List.not_mem_nil, or_false] at h
      rcases h with rfl | rfl
      · rfl
      · rfl
    · cases h
  · split_ifs at h
    · obtain rfl := List.mem_singleton.mp h
      rfl
    · cases h

theorem outputEvents_fine (hJ : Stable terms J) (hbind : terms.mayBind) {id version : Nat}
    (hlive : LiveAs core.registry.objects .wlOutput id) (event : WaylandMessage)
    (hevent : event ∈ outputEvents id version output millihz) :
    Fine terms.level event (core.object? event.header.objectId) := by
  obtain ⟨object, hobject, hinterface⟩ := hlive
  rw [mem_outputEvents hevent, HeadlessWireCore.object?, hobject]
  exact hJ.outputEvent event object hbind hinterface

section

variable (hJ : Stable terms J) (h : Holds J none core)
include hJ h

theorem sendOutputState_kept (hbind : terms.mayBind) {id : Nat}
    (hlive : LiveAs core.registry.objects .wlOutput id) :
    Kept terms J (sendOutputState id output) core := by
  refine kept_getObject fun object hobject => kept_lift (fun _ => refreshPeriodToMillihz_calm _) ?_
  exact fun millihz _ => kept_sendEach hJ h (outputEvents_fine hJ hbind hlive)

theorem bindOutput_kept {id : Nat} (hid : id ≤ u32Max)
    (hlive : LiveAs core.registry.objects .wlOutput id)
    (hbind : ∀ output, core.outputOfGlobal global = some output → terms.mayBind) :
    Kept terms J (bindOutput id global) core := by
  refine kept_get ?_
  cases houtput : core.outputOfGlobal global with
  | none => exact kept_pure h
  | some output =>
    have hmay := hbind output houtput
    refine kept_set_bind (h.withOutput hJ hmay hid hlive) fun h₁ => ?_
    exact sendOutputState_kept hJ h₁ hmay hlive

theorem announceGlobal_kept {id : Nat} (hid : id ≤ u32Max)
    (hlive : LiveAs core.registry.objects global.interface id)
    (hbind : global.interface = .wlOutput → ∀ output, core.outputOfGlobal global = some output →
      terms.mayBind) : Kept terms J (announceGlobal id global) core := by
  unfold announceGlobal
  split
  · rename_i hinterface
    rw [hinterface] at hlive
    refine kept_send_bind hJ h (fine_declared hlive rfl rfl (by simp [Fits])) fun h₁ => ?_
    exact kept_send hJ h₁ (fine_declared hlive rfl rfl (by simp [Fits]))
  · rename_i hinterface
    rw [hinterface] at hlive
    have hseat : Holds J none { core with input := core.input.createSeat id } :=
      ⟨h.anchored, hJ.seat core.frame id h.kept⟩
    refine kept_modify_bind hseat fun h₁ => kept_send hJ h₁ ?_
    exact fine_declared hlive rfl rfl (by simp [Fits])
  · rename_i hinterface
    refine kept_nextXdgSerial_bind hJ fun core' h' hregistry _ => kept_send hJ h' ?_
    rw [hinterface, ← hregistry] at hlive
    exact fine_declared hlive rfl rfl (by simp [Fits])
  · rename_i hinterface
    rw [hinterface] at hlive
    exact bindOutput_kept hJ h hid hlive (hbind hinterface)
  · exact kept_pure h

theorem registryRequest_kept (hbind : OutputBehind core r → terms.mayBind) :
    Kept terms J (onlyRequest .wlRegistry 0 (handleRegistryBind r.payload) r) core := by
  unfold onlyRequest
  split
  · refine kept_requireLength fun hlength => kept_word (by omega) (checkInterface_kept hlength ?_)
    refine kept_text fun text _ => kept_requireLength fun hrest => kept_require fun _ => ?_
    refine kept_word (by omega) (kept_word (by omega) (findGlobal_kept fun global hglobal => ?_))
    refine kept_require fun _ => kept_require fun _ => ?_
    have hplain := h.anchored.globals global (List.mem_of_find?_eq_some hglobal)
    refine kept_register_bind hJ h hplain fun core' h' hnew _ heq _ => ?_
    refine announceGlobal_kept hJ h' (WaylandWire.readU32_le _) ⟨_, hnew, rfl⟩ fun hinterface output houtput => ?_
    rw [heq] at houtput
    exact hbind ⟨global, output, hglobal, hinterface, houtput⟩
  · exact kept_unhandled

end

end Display

end TuffXwin.Headless
