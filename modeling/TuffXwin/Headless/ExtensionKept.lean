import TuffXwin.Headless.Tables

/-! The requests of the extensions keep every stable invariant. -/

namespace TuffXwin.Headless
open Lib
open WaylandWire (WireError WireArg WaylandMessage readU32 displayId encodeEvent)

variable {m m' : PointerConstraintsState}
variable {f : Unit → Handler Unit} {reason : String} {payload : List UInt8}

section Extensions

variable {terms : Terms} {J : Frame → Prop} {core : HeadlessWireCore}
  {r : Request} {spec : MessageSpec} {version : Nat}

/-! Viewports, scales and decorations. -/

section

variable (hJ : Stable terms J) (h : Holds J none core)
include hJ h

theorem viewporterRequest_kept (hobject : core.object? r.id = some ⟨.wpViewporter, version⟩)
    (hr : Decoded .wpViewporter r spec) :
    Kept terms J (managerRequest .wpViewporter handleViewporterDestroy handleGetViewport r)
      core := by
  unfold managerRequest
  split
  · exact destroyWith_kept hJ h hobject rfl rfl (by decide) id
  · rename_i hopcode
    have hlength := hr.words 1 hopcode rfl (by decide)
    refine kept_word (by omega) (kept_word (by omega) ?_)
    refine kept_register_bind hJ h (by decide) fun core' h' _ _ _ _ => ?_
    exact kept_part (fun _ => getViewport_calm _ _ _) fun _ _ => h'.of_same rfl rfl
  · exact kept_unhandled

theorem viewportRequest_kept (hobject : core.object? r.id = some ⟨.wpViewport, version⟩)
    (hr : Decoded .wpViewport r spec) : Kept terms J (viewportRequest r) core := by
  unfold viewportRequest
  split
  · exact destroyWith_kept hJ h hobject rfl rfl (by decide) id
  · rename_i hopcode
    have hlength := hr.words 3 hopcode rfl (by decide)
    refine kept_int (by omega) (kept_int (by omega) (kept_int (by omega) (kept_int (by omega) ?_)))
    exact kept_part (fun _ => setSource_calm _ _ _ _ _ _) fun _ _ => h.of_same rfl rfl
  · rename_i hopcode
    have hlength := hr.words 1 hopcode rfl (by decide)
    refine kept_int (by omega) (kept_int (by omega) ?_)
    exact kept_part (fun _ => setDestination_calm _ _ _ _) fun _ _ => h.of_same rfl rfl
  · exact kept_unhandled

theorem fractionalScaleManagerRequest_kept
    (hobject : core.object? r.id = some ⟨.wpFractionalScaleManagerV1, version⟩)
    (hr : Decoded .wpFractionalScaleManagerV1 r spec) :
    Kept terms J (managerRequest .wpFractionalScaleManagerV1 handleFractionalScaleManagerDestroy
      handleGetFractionalScale r) core := by
  unfold managerRequest
  split
  · exact destroyWith_kept hJ h hobject rfl rfl (by decide) id
  · rename_i hopcode
    have hlength := hr.words 1 hopcode rfl (by decide)
    refine kept_word (by omega) (kept_word (by omega) ?_)
    refine kept_register_bind hJ h (by decide) fun core' h' hnew _ _ _ => ?_
    refine kept_part_bind (fun _ => getFractionalScale_calm _ _ _) fun _ _ =>
      ⟨h'.of_same rfl rfl, fun h₁ => ?_⟩
    exact kept_send hJ h₁
      (fine_declared ⟨_, hnew, rfl⟩ rfl rfl (by simp [Fits]))
  · exact kept_unhandled

theorem fractionalScaleRequest_kept
    (hobject : core.object? r.id = some ⟨.wpFractionalScaleV1, version⟩) :
    Kept terms J (onlyRequest .wpFractionalScaleV1 0 (handleFractionalScaleDestroy r.id) r)
      core := by
  unfold onlyRequest
  split
  · exact destroyWith_kept hJ h hobject rfl rfl (by decide) id
  · exact kept_unhandled

theorem decorationManagerRequest_kept
    (hobject : core.object? r.id = some ⟨.zxdgDecorationManagerV1, version⟩)
    (hr : Decoded .zxdgDecorationManagerV1 r spec) :
    Kept terms J (managerRequest .zxdgDecorationManagerV1 handleXdgDecorationManagerDestroy
      handleGetToplevelDecoration r) core := by
  unfold managerRequest
  split
  · exact destroyWith_kept hJ h hobject rfl rfl (by decide) id
  · rename_i hopcode
    have hlength := hr.words 1 hopcode rfl (by decide)
    refine kept_word (by omega) (kept_word (by omega) ?_)
    refine kept_register_bind hJ h (by decide) fun core' h' hnew _ _ _ => ?_
    refine kept_part_bind (fun _ => getToplevelDecoration_calm _ _ _) fun _ _ =>
      ⟨h'.of_same rfl rfl, fun h₁ => ?_⟩
    exact kept_send hJ h₁
      (fine_declared ⟨_, hnew, rfl⟩ rfl rfl (by simp [Fits]))
  · exact kept_unhandled

theorem toplevelDecorationRequest_kept
    (hobject : core.object? r.id = some ⟨.zxdgToplevelDecorationV1, version⟩)
    (hr : Decoded .zxdgToplevelDecorationV1 r spec) :
    Kept terms J (toplevelDecorationRequest r) core := by
  unfold toplevelDecorationRequest
  split
  · exact destroyWith_kept hJ h hobject rfl rfl (by decide) id
  · rename_i hopcode
    have hlength := hr.words 0 hopcode rfl (by decide)
    refine kept_word (by omega) (kept_get (kept_lift (fun _ => setMode_calm _ _ _) fun _ _ => ?_))
    refine kept_set_bind (h.of_same rfl rfl) fun h₁ => kept_send hJ h₁ ?_
    exact fine_declared ⟨_, hobject, rfl⟩ rfl rfl (by simp [Fits])
  · refine kept_modify_bind (h.of_same rfl rfl) fun h₁ => kept_send hJ h₁ ?_
    exact fine_declared ⟨_, hobject, rfl⟩ rfl rfl (by simp [Fits])
  · exact kept_unhandled

end

/-! Presentation. -/

theorem presentationRequest_kept (hJ : Stable terms J) (h : Holds J none core)
    (hobject : core.object? r.id = some ⟨.wpPresentation, version⟩)
    (hr : Decoded .wpPresentation r spec) :
    Kept terms J (managerRequest .wpPresentation handlePresentationDestroy
      handlePresentationFeedback r) core := by
  unfold managerRequest
  split
  · exact destroyWith_kept hJ h hobject rfl rfl (by decide) id
  · rename_i hopcode
    have hlength := hr.words 1 hopcode rfl (by decide)
    refine kept_word (by omega) (kept_word (by omega) ?_)
    refine kept_register_bind hJ h (by decide) fun core' h' hnew _ _ _ => ?_
    exact kept_modify (h'.presentation (insert_kept ⟨_, hnew, rfl⟩))
  · exact kept_unhandled

theorem presentationFeedbackRequest_kept (h : Holds J none core) :
    Kept terms J (onlyRequest .wpPresentationFeedback 0 (pure ()) r) core := by
  unfold onlyRequest
  split
  · exact kept_pure h
  · exact kept_unhandled

/-! Outputs. -/

/-- The description of the output asked for is short enough to be sent. -/
def DescriptionFits (level : Level) (core : HeadlessWireCore) (outputId : Nat) : Prop :=
  ∀ output, core.output.outputs.get? outputId = some output → level = .declared →
    Fits (.string output.name) ∧ Fits (.string ("desc: " ++ output.name))

section

variable (hJ : Stable terms J) (h : Holds J none core)
include hJ h

theorem xdgOutputManagerRequest_kept
    (hobject : core.object? r.id = some ⟨.zxdgOutputManagerV1, version⟩)
    (hr : Decoded .zxdgOutputManagerV1 r spec)
    (hfits : DescriptionFits terms.level core (readU32 (r.payload.drop 4))) :
    Kept terms J (managerRequest .zxdgOutputManagerV1 handleXdgOutputManagerDestroy
      handleGetXdgOutput r) core := by
  unfold managerRequest
  split
  · exact destroyWith_kept hJ h hobject rfl rfl (by decide) id
  · rename_i hopcode
    have hlength := hr.words 1 hopcode rfl (by decide)
    refine kept_word (by omega) (kept_word (by omega) ?_)
    refine kept_register_bind hJ h (by decide) fun core' h' hnew _ heq _ => ?_
    refine kept_part_bind (fun _ => getXdgOutput_calm _ _ _) fun _ _ =>
      ⟨h'.of_same rfl rfl, fun h₀ => kept_get ?_⟩
    refine kept_lift (fun _ => calm_orInvalid _ _) fun output houtput => ?_
    have hold : core.output.outputs.get? (readU32 (r.payload.drop 4)) = some output := by
      have hget := orInvalid_eq_ok.mp houtput
      rw [heq] at hget
      exact hget
    have htexts := hfits output hold
    refine kept_send_bind hJ (h'.of_same rfl rfl)
      (fine_declared ⟨_, hnew, rfl⟩ rfl rfl (by simp [Fits])) fun h₁ => ?_
    refine kept_send_bind hJ h₁ (fine_declared ⟨_, hnew, rfl⟩ rfl rfl (by simp [Fits])) fun h₂ => ?_
    refine kept_send_bind hJ h₂ (fine_text ⟨_, hnew, rfl⟩ rfl rfl fun hlevel => by
      simpa using (htexts hlevel).1) fun h₃ => ?_
    refine kept_send_bind hJ h₃ (fine_text ⟨_, hnew, rfl⟩ rfl rfl fun hlevel => by
      simpa using (htexts hlevel).2) fun h₄ => ?_
    exact kept_send hJ h₄ (fine_declared ⟨_, hnew, rfl⟩ rfl rfl (by simp))
  · exact kept_unhandled

theorem xdgOutputRequest_kept (hobject : core.object? r.id = some ⟨.zxdgOutputV1, version⟩) :
    Kept terms J (onlyRequest .zxdgOutputV1 0 (handleXdgOutputDestroy r.id) r) core := by
  unfold onlyRequest
  split
  · exact destroyWith_kept hJ h hobject rfl rfl (by decide) id
  · exact kept_unhandled

theorem outputManagerRequest_kept (hr : Decoded .zwlrOutputManagerV1 r spec) :
    Kept terms J (outputManagerRequest r) core := by
  unfold outputManagerRequest
  split
  · rename_i hopcode
    have hlength := hr.words 1 hopcode rfl (by decide)
    refine kept_word (by omega) (kept_word (by omega) ?_)
    refine kept_register_bind hJ h (by decide) fun core' h' _ _ _ _ => ?_
    exact kept_modify (h'.of_same rfl rfl)
  · exact kept_pure h
  · exact kept_unhandled

theorem confirmConfiguration_kept {id : Nat}
    (hobject : core.object? id = some ⟨.zwlrOutputConfigurationV1, version⟩) :
    Kept terms J (confirmConfiguration id) core := by
  refine kept_get (kept_lift (fun _ => calm_orInvalid _ _) fun _ _ => kept_send hJ h ?_)
  exact fine_declared ⟨_, hobject, rfl⟩ rfl rfl (by simp)

theorem outputConfigurationRequest_kept
    (hobject : core.object? r.id = some ⟨.zwlrOutputConfigurationV1, version⟩)
    (hr : Decoded .zwlrOutputConfigurationV1 r spec) :
    Kept terms J (outputConfigurationRequest r) core := by
  unfold outputConfigurationRequest
  split
  · rename_i hopcode
    have hlength := hr.words 1 hopcode rfl (by decide)
    refine kept_word (by omega) (kept_word (by omega) ?_)
    refine kept_register_bind hJ h (by decide) fun core' h' _ _ _ _ => ?_
    exact kept_part (fun _ => enableHead_calm _ _ _ _) fun _ _ => h'.of_same rfl rfl
  · rename_i hopcode
    have hlength := hr.words 0 hopcode rfl (by decide)
    refine kept_word (by omega) (kept_get ?_)
    exact fun _ => (ends_lift h.left).mpr ⟨fun _ _ => h, fun _ => disableHead_calm _ _⟩
  · exact confirmConfiguration_kept hJ h hobject
  · exact confirmConfiguration_kept hJ h hobject
  · exact destroyWith_kept hJ h hobject rfl rfl (by decide) id
  · exact kept_unhandled

end

theorem configurationHeadRequest_kept (h : Holds J none core) :
    Kept terms J (configurationHeadRequest r) core := by
  unfold configurationHeadRequest
  split
  all_goals first
    | exact kept_pure h
    | exact kept_unhandled

/-! Capture. -/

theorem calm_mulI32 {a b : Int} (h : i32Checked (a * b) ≠ none) : Calm (mulI32 a b) := by
  unfold mulI32
  cases hproduct : i32Checked (a * b) with
  | none => exact absurd hproduct h
  | some product => exact calm_ok product

theorem sendFrameFormat_kept (hJ : Stable terms J) (h : Holds J none core)
    {id width height stride : Nat}
    (hlive : LiveAs core.registry.objects .zwlrScreencopyFrameV1 id) :
    Kept terms J (sendFrameFormat id width height stride) core := by
  refine kept_send_bind hJ h (fine_declared hlive rfl rfl (by simp [Fits])) fun h₁ => ?_
  exact kept_send hJ h₁ (fine_declared hlive rfl rfl (by simp [Fits]))

/-- The bytes of a row of the region are a signed word. -/
def RegionFits (r : Request) : Prop := i32Checked (readI32 (r.payload.drop 20) * 4) ≠ none

section

variable (hJ : Stable terms J) (h : Holds J none core)
include hJ h

theorem screencopyManagerRequest_kept
    (hobject : core.object? r.id = some ⟨.zwlrScreencopyManagerV1, version⟩)
    (hr : Decoded .zwlrScreencopyManagerV1 r spec)
    (hregion : terms.safe → r.opcode = 1 → RegionFits r) :
    Kept terms J (screencopyManagerRequest r) core := by
  unfold screencopyManagerRequest
  split
  · rename_i hopcode
    have hlength := hr.words 2 hopcode rfl (by decide)
    refine kept_word (by omega) (kept_word (by omega) (kept_word (by omega) ?_))
    refine kept_register_bind hJ h (by decide) fun core' h' hnew _ _ _ => ?_
    refine kept_modify_bind (h'.of_same rfl rfl) fun h₁ => sendFrameFormat_kept hJ h₁ ?_
    exact ⟨_, hnew, rfl⟩
  · rename_i hopcode
    have hlength := hr.words 6 hopcode rfl (by decide)
    refine kept_word (by omega) (kept_word (by omega) (kept_word (by omega) ?_))
    refine kept_int (by omega) (kept_int (by omega) (kept_int (by omega) (kept_int (by omega) ?_)))
    refine kept_register_bind hJ h (by decide) fun core' h' hnew _ _ _ => ?_
    refine kept_part_bind (fun _ => captureOutputRegion_calm _ _ _ _ _ _ _ _) fun _ _ =>
      ⟨h'.of_same rfl rfl, fun h₁ => ?_⟩
    refine kept_lift (fun hsafe => calm_mulI32 (hregion hsafe hopcode)) fun _ _ => ?_
    exact sendFrameFormat_kept hJ h₁ ⟨_, hnew, rfl⟩
  · exact destroyWith_kept hJ h hobject rfl rfl (by decide) id
  · exact kept_unhandled

theorem screencopyFrameRequest_kept
    (hobject : core.object? r.id = some ⟨.zwlrScreencopyFrameV1, version⟩)
    (hr : Decoded .zwlrScreencopyFrameV1 r spec) :
    Kept terms J (screencopyFrameRequest r) core := by
  unfold screencopyFrameRequest
  split
  · rename_i hopcode
    have hlength := hr.words 0 hopcode rfl (by decide)
    refine kept_word (by omega) ?_
    refine kept_part_bind (fun _ => copyFrame_calm _ _ _) fun _ _ =>
      ⟨h.of_same rfl rfl, fun h₁ => ?_⟩
    exact kept_send hJ h₁
      (fine_declared ⟨_, hobject, rfl⟩ rfl rfl (by simp [Fits, readyArgs]))
  · exact destroyWith_kept hJ h hobject rfl rfl (by decide) id
  · rename_i hopcode
    have hlength := hr.words 0 hopcode rfl (by decide)
    refine kept_word (by omega) ?_
    refine kept_part_bind (fun _ => copyFrame_calm _ _ _) fun _ _ =>
      ⟨h.of_same rfl rfl, fun h₀ => ?_⟩
    refine kept_send_bind hJ h₀
      (fine_declared ⟨_, hobject, rfl⟩ rfl rfl (by simp [Fits])) fun h₁ => ?_
    exact kept_send hJ h₁ (fine_declared ⟨_, hobject, rfl⟩ rfl rfl (by simp [Fits, readyArgs]))
  · exact kept_unhandled

theorem imageCopyCaptureManagerRequest_kept
    (hobject : core.object? r.id = some ⟨.extImageCopyCaptureManagerV1, version⟩)
    (hr : Decoded .extImageCopyCaptureManagerV1 r spec) :
    Kept terms J (managerRequest .extImageCopyCaptureManagerV1
      handleImageCopyCaptureManagerDestroy handleImageCopyCaptureCreateSession r) core := by
  unfold managerRequest
  split
  · exact destroyWith_kept hJ h hobject rfl rfl (by decide) id
  · rename_i hopcode
    have hlength := hr.words 2 hopcode rfl (by decide)
    refine kept_word (by omega) (kept_word (by omega) (kept_word (by omega) ?_))
    refine kept_register_bind hJ h (by decide) fun core' h' _ _ _ _ => ?_
    exact kept_modify (h'.of_same rfl rfl)
  · exact kept_unhandled

theorem imageCopyCaptureSessionRequest_kept
    (hobject : core.object? r.id = some ⟨.extImageCopyCaptureSessionV1, version⟩)
    (hr : Decoded .extImageCopyCaptureSessionV1 r spec) :
    Kept terms J (imageCopyCaptureSessionRequest r) core := by
  unfold imageCopyCaptureSessionRequest
  split
  · exact destroyWith_kept hJ h hobject rfl rfl (by decide) id
  · rename_i hopcode
    have hlength := hr.words 0 hopcode rfl (by decide)
    refine kept_word (by omega) (kept_get (kept_lift (fun _ => calm_orInvalid _ _) fun _ _ => ?_))
    refine kept_register_bind hJ h (by decide) fun core' h' hnew _ _ _ => ?_
    exact kept_modify_bind (h'.of_same rfl rfl) fun h₁ =>
      kept_send hJ h₁ (fine_declared ⟨_, hnew, rfl⟩ rfl rfl (by simp [Fits]))
  · exact kept_unhandled

theorem imageCopyCaptureFrameRequest_kept
    (hobject : core.object? r.id = some ⟨.extImageCopyCaptureFrameV1, version⟩) :
    Kept terms J (imageCopyCaptureFrameRequest r) core := by
  unfold imageCopyCaptureFrameRequest
  split
  · refine kept_get (kept_lift (fun _ => calm_orInvalid _ _) fun _ _ => kept_send hJ h ?_)
    exact fine_declared ⟨_, hobject, rfl⟩ rfl rfl (by simp)
  · exact destroyWith_kept hJ h hobject rfl rfl (by decide) id
  · exact kept_unhandled

end

/-! Idle inhibition and relative pointers. -/

theorem idleInhibitManagerRequest_kept (hJ : Stable terms J)
    (h : Holds J none core)
    (hobject : core.object? r.id = some ⟨.zwpIdleInhibitManagerV1, version⟩) :
    Kept terms J (idleInhibitManagerRequest r) core := by
  unfold idleInhibitManagerRequest
  split
  · refine kept_requireLength fun hlength => kept_word (by omega) (kept_word (by omega) ?_)
    refine kept_register_bind hJ h (by decide) fun core' h' hnew _ _ _ => ?_
    refine kept_getObject fun _ _ => kept_modify ?_
    exact h'.idleInhibit (insert_kept ⟨_, hnew, rfl⟩)
  · exact destroyWith_kept hJ h hobject rfl rfl (by decide) id
  · exact kept_unhandled

theorem destroyInhibitor_eq_ok {m m' : IdleInhibitState} {id : Nat}
    (h : m.destroyInhibitor id = .ok m') : m'.inhibitors = m.inhibitors.erase id := by
  obtain ⟨surfaceId, _, hrest⟩ := bind_eq_ok.mp h
  cases hrest
  rfl

theorem idleInhibitorRequest_kept (hJ : Stable terms J)
    (h : Holds J none core)
    (hobject : core.object? r.id = some ⟨.zwpIdleInhibitorV1, version⟩) :
    Kept terms J (onlyRequest .zwpIdleInhibitorV1 0 (handleIdleInhibitorDestroy r.id) r) core := by
  unfold onlyRequest
  split
  · refine kept_part_bind (fun _ => destroyInhibitor_calm _ _) fun idle hidle => ?_
    have hleft := destroyInhibitor_eq_ok hidle
    have h' : Holds J none { core with idleInhibit := idle } :=
      h.idleInhibit (by rw [hleft]; exact erase_kept)
    refine ⟨h', fun h' => kept_destroy hJ h' hobject rfl ?_⟩
    change ¬ idle.inhibitors.contains r.id = true
    rw [hleft]
    exact not_contains_erase
  · exact kept_unhandled

theorem relativePointerManagerRequest_kept (hJ : Stable terms J)
    (h : Holds J none core)
    (hobject : core.object? r.id = some ⟨.zwpRelativePointerManagerV1, version⟩) :
    Kept terms J (relativePointerManagerRequest r) core := by
  unfold relativePointerManagerRequest
  split
  · refine kept_requireLength fun hlength => kept_word (by omega) (kept_word (by omega) ?_)
    refine kept_register_bind hJ h (by decide) fun core' h' _ _ _ _ => kept_getObject fun _ _ => ?_
    exact kept_part (fun _ => createRelativePointer_calm _ _ _) fun _ _ => h'.of_same rfl rfl
  · exact destroyWith_kept hJ h hobject rfl rfl (by decide) id
  · exact kept_unhandled

theorem relativePointerRequest_kept (hJ : Stable terms J)
    (h : Holds J none core)
    (hobject : core.object? r.id = some ⟨.zwpRelativePointerV1, version⟩) :
    Kept terms J (onlyRequest .zwpRelativePointerV1 0 (handleRelativePointerDestroy r.id) r)
      core := by
  unfold onlyRequest
  split
  · refine kept_part_bind (fun _ => relativeDestroy_calm _ _) fun _ _ =>
      ⟨h.of_same rfl rfl, fun h₁ => ?_⟩
    exact kept_destroy hJ h₁ hobject rfl id
  · exact kept_unhandled

/-! Pointer constraints. -/

theorem requireRegion_kept {region : Nat} (h : Kept terms J (f ()) core) :
    Kept terms J (requireRegion region >>= f) core := by
  unfold requireRegion
  split
  · exact h
  · exact fun hcore => ends_bind.mpr (ends_bind.mpr
      ((ends_getObject hcore.left).mpr fun _ _ => h hcore))

theorem requireFocus_kept {pointerId surfaceId : Nat} (h : Kept terms J (f ()) core) :
    Kept terms J (requireFocus pointerId surfaceId reason >>= f) core := by
  intro hcore
  refine ends_bind.mpr (ends_bind.mpr (ends_get.mpr ?_))
  cases core.input.pointers.get? pointerId with
  | none => exact h hcore
  | some pointer => exact (ends_require hcore.left).mpr fun _ => h hcore

/-- The constraints after one more was created in either table. -/
def Creates (interface : Interface)
    (create : PointerConstraintsState → Nat → PointerConstraintState →
      Fallible PointerConstraintsState) : Prop :=
  ∀ m id state, Calm (create m id state) ∧ ∀ m', create m id state = .ok m' →
    ∀ other, (m'.locked.contains other = true → m.locked.contains other = true ∨
        other = id ∧ interface = .zwpLockedPointerV1) ∧
      (m'.confined.contains other = true → m.confined.contains other = true ∨
        other = id ∧ interface = .zwpConfinedPointerV1)

theorem createLocked_creates :
    Creates .zwpLockedPointerV1 PointerConstraintsState.createLocked := by
  intro m id state
  refine ⟨createLocked_calm _ _ _, fun m' hm' other => ?_⟩
  obtain ⟨_, _, hrest⟩ := bind_eq_ok.mp hm'
  cases hrest
  refine ⟨fun hcontains => ?_, .inl⟩
  cases OrdMap.contains_insert.mp hcontains with
  | inl heq => exact .inr ⟨heq, rfl⟩
  | inr hold => exact .inl hold

theorem createConfined_creates :
    Creates .zwpConfinedPointerV1 PointerConstraintsState.createConfined := by
  intro m id state
  refine ⟨createConfined_calm _ _ _, fun m' hm' other => ?_⟩
  obtain ⟨_, _, hrest⟩ := bind_eq_ok.mp hm'
  cases hrest
  refine ⟨.inl, fun hcontains => ?_⟩
  cases OrdMap.contains_insert.mp hcontains with
  | inl heq => exact .inr ⟨heq, rfl⟩
  | inr hold => exact .inl hold

theorem constrainPointer_kept (hJ : Stable terms J) (h : Holds J none core) {interface : Interface}
    {create : PointerConstraintsState → Nat → PointerConstraintState →
      Fallible PointerConstraintsState} (hcreate : Creates interface create)
    (hplain : interface.plain = true) (hevent : interface.reply? 0 = some spec)
    (hargs : spec.args = []) :
    Kept terms J (constrainPointer interface reason create payload) core := by
  refine kept_requireLength fun hlength => kept_word (by omega) (kept_word (by omega) ?_)
  refine kept_word (by omega) (kept_word (by omega) (kept_word (by omega) ?_))
  refine kept_lift (fun _ => fromRaw_calm _) fun lifetime _ => ?_
  refine kept_register_bind hJ h hplain fun core' h' hnew _ _ _ => ?_
  refine kept_getObject fun _ _ => kept_getObject fun _ _ => ?_
  refine requireFocus_kept (requireRegion_kept ?_)
  refine kept_part_bind (fun _ => (hcreate _ _ _).1) fun constraints hconstraints => ?_
  have htables := (hcreate _ _ _).2 constraints hconstraints
  refine ⟨h'.constraints ?_ ?_, fun h₁ =>
    kept_send hJ h₁ (fine_declared ⟨_, hnew, rfl⟩ hevent hargs (by simp))⟩
  · intro other hcontains
    refine ((htables other).1 hcontains).imp_right fun hother => ?_
    exact ⟨_, hother.1 ▸ hnew, hother.2⟩
  · intro other hcontains
    refine ((htables other).2 hcontains).imp_right fun hother => ?_
    exact ⟨_, hother.1 ▸ hnew, hother.2⟩

theorem pointerConstraintsRequest_kept (hJ : Stable terms J)
    (h : Holds J none core)
    (hobject : core.object? r.id = some ⟨.zwpPointerConstraintsV1, version⟩) :
    Kept terms J (pointerConstraintsRequest r) core := by
  unfold pointerConstraintsRequest
  split
  · exact constrainPointer_kept hJ h createLocked_creates (by decide) rfl rfl
  · exact constrainPointer_kept hJ h createConfined_creates (by decide) rfl rfl
  · exact destroyWith_kept hJ h hobject rfl rfl (by decide) id
  · exact kept_unhandled

theorem setCursorPositionHint_tables {id : Nat} {x y : Int}
    (h : m.setCursorPositionHint id x y = .ok m') (other : Nat) :
    m'.locked.contains other = m.locked.contains other ∧
      m'.confined.contains other = m.confined.contains other := by
  unfold PointerConstraintsState.setCursorPositionHint at h
  split_ifs at h
  cases h
  exact ⟨OrdMap.contains_modify, rfl⟩

theorem setRegion_tables {id : Nat} {region : Option Nat} (h : m.setRegion id region = .ok m')
    (other : Nat) :
    m'.locked.contains other = m.locked.contains other ∧
      m'.confined.contains other = m.confined.contains other := by
  unfold PointerConstraintsState.setRegion at h
  split_ifs at h
  · cases h
    exact ⟨OrdMap.contains_modify, rfl⟩
  · cases h
    exact ⟨rfl, OrdMap.contains_modify⟩

theorem setConstraintRegion_kept (h : Holds J none core) {id : Nat} :
    Kept terms J (setConstraintRegion id payload) core := by
  refine kept_requireLength fun hlength => kept_word (by omega) (requireRegion_kept ?_)
  refine kept_part (fun _ => setRegion_calm _ _ _) fun constraints hconstraints => ?_
  have htables := setRegion_tables hconstraints
  exact h.constraints (fun other hc => .inl ((htables other).1 ▸ hc))
    fun other hc => .inl ((htables other).2 ▸ hc)

theorem destroyLocked_eq_ok {id : Nat} (h : m.destroyLocked id = .ok m') :
    m'.locked = m.locked.erase id ∧ m'.confined = m.confined := by
  obtain ⟨state, _, hrest⟩ := bind_eq_ok.mp h
  cases hrest
  exact ⟨rfl, rfl⟩

theorem destroyConfined_eq_ok {id : Nat} (h : m.destroyConfined id = .ok m') :
    m'.locked = m.locked ∧ m'.confined = m.confined.erase id := by
  obtain ⟨state, _, hrest⟩ := bind_eq_ok.mp h
  cases hrest
  exact ⟨rfl, rfl⟩

theorem lockedPointerRequest_kept (hJ : Stable terms J)
    (h : Holds J none core)
    (hobject : core.object? r.id = some ⟨.zwpLockedPointerV1, version⟩) :
    Kept terms J (lockedPointerRequest r) core := by
  unfold lockedPointerRequest
  split
  · refine kept_requireLength fun hlength => kept_int (by omega) (kept_int (by omega) ?_)
    refine kept_part (fun _ => setCursorPositionHint_calm _ _ _ _) fun constraints hset => ?_
    have htables := setCursorPositionHint_tables hset
    exact h.constraints (fun other hc => .inl ((htables other).1 ▸ hc))
      fun other hc => .inl ((htables other).2 ▸ hc)
  · exact setConstraintRegion_kept h
  · refine kept_part_bind (fun _ => destroyLocked_calm _ _) fun constraints hdestroy => ?_
    obtain ⟨hlocked, hconfined⟩ := destroyLocked_eq_ok hdestroy
    have h' : Holds J none { core with pointerConstraints := constraints } :=
      h.constraints (by rw [hlocked]; exact erase_kept) (by rw [hconfined]; exact fun _ => .inl)
    refine ⟨h', fun h' => kept_send_bind hJ h'
      (fine_declared ⟨_, hobject, rfl⟩ rfl rfl (by simp)) fun h₁ => ?_⟩
    refine kept_destroy hJ h₁ hobject (by decide) ?_
    change ¬ constraints.locked.contains r.id = true
    rw [hlocked]
    exact not_contains_erase
  · exact kept_unhandled

theorem confinedPointerRequest_kept (hJ : Stable terms J)
    (h : Holds J none core)
    (hobject : core.object? r.id = some ⟨.zwpConfinedPointerV1, version⟩) :
    Kept terms J (confinedPointerRequest r) core := by
  unfold confinedPointerRequest
  split
  · exact setConstraintRegion_kept h
  · refine kept_part_bind (fun _ => destroyConfined_calm _ _) fun constraints hdestroy => ?_
    obtain ⟨hlocked, hconfined⟩ := destroyConfined_eq_ok hdestroy
    have h' : Holds J none { core with pointerConstraints := constraints } :=
      h.constraints (by rw [hlocked]; exact fun _ => .inl) (by rw [hconfined]; exact erase_kept)
    refine ⟨h', fun h' => kept_send_bind hJ h'
      (fine_declared ⟨_, hobject, rfl⟩ rfl rfl (by simp)) fun h₁ => ?_⟩
    refine kept_destroy hJ h₁ hobject (by decide) ?_
    change ¬ constraints.confined.contains r.id = true
    rw [hconfined]
    exact not_contains_erase
  · exact kept_unhandled

end Extensions

end TuffXwin.Headless
