import TuffXwin.Headless.Tables

/-! The requests of text inputs and input methods keep every stable invariant. Where the
declarations of the events are asked for, no input method may hear that a text input was
disabled or committed: the opcodes of these events are not declared. -/

namespace TuffXwin.Headless
open Lib
open WaylandWire (WireError WireArg WaylandMessage readU32 displayId encodeEvent)

variable {environment : Environment} {methodId seatId : Nat} {f : TextInputState → TextInputState}
variable {inputId : Nat} {m m' : TextInputManager}

section TextInput

variable {terms : Terms} {J : Frame → Prop} {core : HeadlessWireCore}
  {r : Request} {spec : MessageSpec} {version : Nat}

theorem inputMethodOf_seat (h : core.inputMethodOf environment seatId = some methodId) :
    core.inputMethod.methods.get? methodId = some seatId := by
  simpa using List.find?_some h

theorem inputMethodOf_live (h : Holds J none core)
    (hmethod : core.inputMethodOf environment seatId = some methodId) :
    LiveAs core.registry.objects .zwpInputMethodV2 methodId :=
  h.live .zwpInputMethodV2
    (OrdMap.contains_iff.mpr ⟨seatId, inputMethodOf_seat hmethod⟩)

theorem enabledInputOf_live (h : Holds J none core)
    (hinput : core.enabledInputOf environment seatId = some inputId) :
    LiveAs core.registry.objects .zwpTextInputV3 inputId := by
  have hfound := List.find?_some (Option.filter_eq_some_iff.mp hinput).1
  simp only [decide_eq_true_eq, Option.map_eq_some_iff] at hfound
  obtain ⟨input, hget, _⟩ := hfound
  exact h.live .zwpTextInputV3 (OrdMap.contains_iff.mpr ⟨input, hget⟩)

theorem modifyInput_tables {id : Nat} (h : m.modifyInput id f = .ok m') (other : Nat) :
    m'.inputs.contains other = m.inputs.contains other := by
  unfold TextInputManager.modifyInput at h
  split_ifs at h
  cases h
  exact OrdMap.contains_modify

/-- An operation on one text input, and what follows it. -/
theorem onTextInput_kept {α : Type} {id : Nat} {rest : Unit → Handler α} (h : Holds J none core)
    (hrest : ∀ textInput, core.textInput.modifyInput id f = .ok textInput →
      Holds J none (core.withTextInput textInput) →
      Kept terms J (rest ()) (core.withTextInput textInput)) :
    Kept terms J (onTextInput (fun m => m.modifyInput id f) >>= rest) core := by
  refine kept_part_bind (fun _ => modifyInput_calm _ _ _) fun textInput hmodify => ?_
  refine ⟨h.textInput fun other hc => .inl ?_, hrest textInput hmodify⟩
  rw [← modifyInput_tables hmodify other]
  exact hc

/-- The seat of a text input after an operation on it. -/
theorem modifyInput_seat {id : Nat} (h : m.modifyInput id f = .ok m')
    (hf : ∀ state, (f state).seatId = state.seatId) :
    ∃ input input', m.inputs.get? id = some input ∧ m'.inputs.get? id = some input' ∧
      input'.seatId = input.seatId := by
  unfold TextInputManager.modifyInput at h
  split_ifs at h with hcontains
  cases h
  obtain ⟨input, hinput⟩ := OrdMap.contains_iff.mp hcontains
  exact ⟨input, f input, hinput, by rw [OrdMap.get?_modify_self, hinput]; rfl, hf input⟩

theorem tellInputMethod_kept (hJ : Stable terms J) (h : Holds J none core)
    {events : List (Nat × List WireArg)}
    (hfine : ∀ methodId, core.inputMethodOf environment seatId = some methodId →
      ∀ event ∈ events, Fine terms.level (encodeEvent methodId event.1 event.2)
        (core.object? methodId)) :
    Kept terms J (tellInputMethod environment seatId events) core := by
  refine kept_get ?_
  cases hmethod : core.inputMethodOf environment seatId with
  | none => exact kept_pure h
  | some methodId =>
    refine kept_sendEach hJ h fun event hevent => ?_
    obtain ⟨pair, hpair, rfl⟩ := List.mem_map.mp hevent
    exact hfine methodId hmethod pair hpair

/-- No input method hears of a text input where the declarations are asked for. -/
def Unheard (level : Level) (core : HeadlessWireCore) (inputId : Nat) : Prop :=
  level = .declared → ∀ input, core.textInput.inputs.get? inputId = some input →
    ∀ methodId seatId, core.inputMethod.methods.get? methodId = some seatId →
      seatId ≠ input.seatId

/-- The method of the seat hears nothing where the declarations are asked for. -/
theorem unheard_fine {level : Level} (h : Holds J none core) (hunheard : Unheard level core inputId)
    {input : TextInputState} (hinput : core.textInput.inputs.get? inputId = some input)
    (hmethod : core.inputMethodOf environment input.seatId = some methodId) (opcode : Nat)
    (args : List WireArg) :
    Fine level (encodeEvent methodId opcode args) (core.object? methodId) := by
  refine fine_undeclared (fun hlevel => ?_) (inputMethodOf_live h hmethod) rfl
  exact hunheard hlevel input hinput methodId _ (inputMethodOf_seat hmethod) rfl

/-- Disabling and committing end by telling the input method of the seat. -/
theorem tellAfter_kept (hJ : Stable terms J) (h : Holds J none core) {id : Nat}
    (hf : ∀ state, (f state).seatId = state.seatId) (hunheard : Unheard terms.level core id)
    {textInput : TextInputManager} (hmodify : core.textInput.modifyInput id f = .ok textInput)
    (h' : Holds J none (core.withTextInput textInput)) (events : List (Nat × List WireArg)) :
    Kept terms J (do
      let input ← textInputAt id
      tellInputMethod environment input.seatId events) (core.withTextInput textInput) := by
  obtain ⟨input, input', hinput, hinput', hseat⟩ := modifyInput_seat hmodify hf
  have hget : (core.withTextInput textInput).textInput.inputs.get? id = some input' := hinput'
  refine fun hcore => ends_bind.mpr (ends_bind.mpr (ends_get.mpr ?_))
  simp only [hget]
  refine tellInputMethod_kept hJ h' (fun methodId hmethod event _ => ?_) hcore
  rw [hseat] at hmethod
  exact unheard_fine h hunheard hinput hmethod _ _

theorem setPending_holds (h : Holds J none core) {id : Nat} {f : TextInputData → TextInputData} :
    Holds J none (core.withTextInput (core.textInput.setPending id f)) := by
  refine h.textInput fun other hcontains => .inl ?_
  rw [TextInputManager.setPending, OrdMap.contains_modify] at hcontains
  exact hcontains

theorem setPendingInput_kept (h : Holds J none core) {id : Nat}
    {f : TextInputData → TextInputData} : Kept terms J (setPendingInput id f) core :=
  kept_modify (setPending_holds h)

theorem textInputManagerRequest_kept (hJ : Stable terms J)
    (h : Holds J none core) (hr : Decoded .zwpTextInputManagerV3 r spec) :
    Kept terms J (onlyRequest .zwpTextInputManagerV3 1
      (handleTextInputManagerGetTextInput r.payload) r) core := by
  unfold onlyRequest
  split
  · rename_i hopcode
    have hlength := hr.words 1 hopcode rfl (by decide)
    refine kept_word (by omega) (kept_word (by omega) ?_)
    refine kept_register_bind hJ h (by decide) fun core' h' hnew _ _ _ => kept_modify ?_
    exact h'.textInput (insert_kept ⟨_, hnew, rfl⟩)
  · exact kept_unhandled

theorem textInputRequest_kept (hJ : Stable terms J) (h : Holds J none core)
    (hobject : core.object? r.id = some ⟨.zwpTextInputV3, version⟩)
    (hr : Decoded .zwpTextInputV3 r spec)
    (hunheard : r.opcode = 2 ∨ r.opcode = 7 → Unheard terms.level core r.id) :
    Kept terms J (textInputRequest r) core := by
  unfold textInputRequest
  split
  · exact kept_destroyWith hJ (h.textInput erase_kept) hobject (by decide) not_contains_erase
  · refine kept_get (kept_lift (fun _ => calm_orInvalid _ _) fun input _ => ?_)
    refine onTextInput_kept h fun textInput _ h' => tellInputMethod_kept hJ h' ?_
    intro methodId hmethod event hevent
    rw [List.mem_singleton.mp hevent]
    exact fine_declared (inputMethodOf_live h' hmethod) rfl rfl (by simp)
  · rename_i hopcode
    refine onTextInput_kept h fun textInput hmodify h' => ?_
    refine tellAfter_kept hJ h ?_ (hunheard (.inl hopcode)) hmodify h' _
    exact fun _ => rfl
  · rename_i hopcode
    refine kept_text fun text htext => ?_
    have hlength := hr.wordsBehind 1 hopcode rfl rfl (by decide) htext
    refine kept_int (by omega) (kept_int (by omega) ?_)
    refine kept_modify_bind (setPending_holds h) fun h₁ => kept_modify ?_
    split
    · exact h₁.of_same rfl rfl
    · exact h₁
  · rename_i hopcode
    have hlength := hr.words 0 hopcode rfl (by decide)
    exact kept_word (by omega) (setPendingInput_kept h)
  · rename_i hopcode
    have hlength := hr.words 1 hopcode rfl (by decide)
    exact kept_word (by omega) (kept_word (by omega) (setPendingInput_kept h))
  · rename_i hopcode
    have hlength := hr.words 3 hopcode rfl (by decide)
    refine kept_int (by omega) (kept_int (by omega) (kept_int (by omega) (kept_int (by omega) ?_)))
    exact setPendingInput_kept h
  · rename_i hopcode
    refine onTextInput_kept h fun textInput hmodify h' => kept_get ?_
    refine tellAfter_kept hJ h ?_ (hunheard (.inr hopcode)) hmodify h' _
    exact fun _ => rfl
  · exact kept_unhandled

/-! Input methods. -/

theorem getInputMethod_eq_ok {m m' : InputMethodManager} {id : Nat}
    (h : m.getInputMethod id seatId = .ok m') : m'.methods = m.methods.insert id seatId := by
  unfold InputMethodManager.getInputMethod at h
  split_ifs at h
  cases h
  rfl

theorem Anchored.method {a : Anchors} {id : Nat} (h : Anchored none a)
    (hnone : a.objects.get? id = none) :
    Anchored none { a with
      objects := a.objects.insert id ⟨.zwpInputMethodV2, version⟩
      methods := a.methods.insert id seatId } := by
  have hregistered : Anchored none { a with
      objects := a.objects.insert id ⟨.zwpInputMethodV2, version⟩ } := h.registered hnone (by simp)
  refine hregistered.of_keeps rfl rfl rfl (fun _ hpeer => hpeer) fun interface other hkeeps => ?_
  cases interface
  case zwpInputMethodV2 =>
    cases OrdMap.contains_insert.mp hkeeps with
    | inl heq =>
      rw [heq]
      exact .inr ⟨_, OrdMap.get?_insert_self _ _ _, rfl⟩
    | inr hold => exact .inl hold
  all_goals exact .inl hkeeps

section

variable (hJ : Stable terms J) (h : Holds J none core)
include hJ h

theorem Holds.method {id : Nat} (havailable : core.registry.Available id)
    {inputMethod : InputMethodManager}
    (hmethods : inputMethod.methods = core.inputMethod.methods.insert id seatId) :
    Holds J none { core.registered id ⟨.zwpInputMethodV2, version⟩ with
      inputMethod := inputMethod } := by
  have hmoved := hJ.method core.frame id version seatId h.kept havailable
  refine ⟨?_, ?_⟩
  · change Anchored none { core.anchors with
      objects := core.registry.objects.insert id ⟨.zwpInputMethodV2, version⟩
      methods := inputMethod.methods }
    rw [hmethods]
    exact h.anchored.method havailable.none
  · change J { core.frame.registered id ⟨.zwpInputMethodV2, version⟩ with
      methods := inputMethod.methods }
    rw [hmethods]
    exact hmoved

theorem inputMethodManagerRequest_kept (hr : Decoded .zwpInputMethodManagerV2 r spec) :
    Kept terms J (onlyRequest .zwpInputMethodManagerV2 1
      (handleInputMethodManagerGetInputMethod r.payload) r) core := by
  unfold onlyRequest
  split
  · rename_i hopcode
    have hlength := hr.words 1 hopcode rfl (by decide)
    refine kept_word (by omega) (kept_word (by omega) ?_)
    refine fun hcore => ends_bind.mpr ?_
    refine (ends_registerClientObject hcore.left).mpr fun havailable => ?_
    refine (ends_onPart (h.unmade hJ havailable (.inl rfl))).mpr
      ⟨fun m hm => ?_, fun _ => getInputMethod_calm _ _ _⟩
    exact h.method hJ havailable (getInputMethod_eq_ok hm)
  · exact kept_unhandled

theorem tellTextInput_kept {opcode : Nat} {args : List WireArg}
    (hmethod : terms.safe → core.inputMethod.methods.contains methodId = true)
    (hevent : Interface.zwpTextInputV3.reply? opcode = some spec)
    (htypes : spec.args = args.map argType) (hfits : terms.level = .declared → ∀ a ∈ args, Fits a) :
    Kept terms J (tellTextInput environment methodId opcode args) core := by
  refine fun hcore => ends_bind.mpr (ends_bind.mpr (ends_get.mpr ?_))
  cases hget : core.inputMethod.methods.get? methodId with
  | none =>
    refine ⟨fun hsafe _ => ?_, hcore.left⟩
    have hcontains := hmethod hsafe
    rw [OrdMap.contains, hget] at hcontains
    cases hcontains
  | some seatId =>
    refine kept_get ?_ hcore
    cases hinput : core.enabledInputOf environment seatId with
    | none => exact kept_pure h
    | some inputId =>
      refine kept_send hJ h ?_
      exact fine_text (enabledInputOf_live h hinput) hevent htypes hfits

theorem inputMethodRequest_kept (hr : Decoded .zwpInputMethodV2 r spec)
    (hmethod : terms.safe → core.inputMethod.methods.contains r.id = true)
    (hfits : r.opcode = 1 ∨ r.opcode = 2 → TextFits terms.level r.payload 0) :
    Kept terms J (inputMethodRequest r) core := by
  unfold inputMethodRequest
  split
  · rename_i hopcode
    refine kept_text fun text htext => ?_
    refine tellTextInput_kept hJ h hmethod rfl rfl fun hlevel => ?_
    simpa using hfits (.inl hopcode) hlevel text htext
  · rename_i hopcode
    refine kept_text fun text htext => ?_
    have hlength := hr.wordsBehind 1 hopcode rfl rfl (by decide) htext
    refine kept_int (by omega) (kept_int (by omega) ?_)
    refine tellTextInput_kept hJ h hmethod rfl rfl fun hlevel => ?_
    have htextFits := hfits (.inr hopcode) hlevel text htext
    intro a ha
    simp only [List.mem_cons, List.not_mem_nil, or_false] at ha
    rcases ha with rfl | rfl | rfl
    · exact htextFits
    · trivial
    · trivial
  · rename_i hopcode
    have hlength := hr.words 1 hopcode rfl (by decide)
    refine kept_word (by omega) (kept_word (by omega) ?_)
    exact tellTextInput_kept hJ h hmethod rfl rfl fun _ => by simp [Fits]
  · rename_i hopcode
    have hlength := hr.words 0 hopcode rfl (by decide)
    refine kept_word (by omega) ?_
    exact tellTextInput_kept hJ h hmethod rfl rfl fun _ => by simp [Fits]
  · rename_i hopcode
    have hlength := hr.words 1 hopcode rfl (by decide)
    refine kept_word (by omega) (kept_word (by omega) ?_)
    refine kept_register_bind hJ h (by decide) fun core' h' _ _ _ _ => kept_modify ?_
    exact h'.of_same rfl rfl
  · exact kept_unhandled

theorem inputPopupSurfaceRequest_kept
    (hobject : core.object? r.id = some ⟨.zwpInputPopupSurfaceV2, version⟩) :
    Kept terms J (onlyRequest .zwpInputPopupSurfaceV2 0 (handleInputPopupSurfaceDestroy r.id) r)
      core := by
  unfold onlyRequest
  split
  · exact destroyWith_kept hJ h hobject rfl rfl (by decide) id
  · exact kept_unhandled

end

end TextInput

end TuffXwin.Headless
