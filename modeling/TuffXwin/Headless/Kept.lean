import TuffXwin.Headless.Rules
import TuffXwin.Lib.Fold

/-! Handlers that keep an invariant, composed of steps that do: one rule for each operation,
with what the rest of the handler may rely on. -/

namespace TuffXwin.Headless
open Lib
open WaylandWire (WireError WireArg WaylandMessage readU32 displayId encodeEvent)

variable {interface : Interface} {offset opcode version : Nat} {payload : List UInt8}
  {spec : MessageSpec} {args : List WireArg}
variable {f forget : HeadlessWireCore → HeadlessWireCore} {core' : HeadlessWireCore}
  {read : WireArg × Nat} {fds : Option Nat} {fdCount : Nat} {r : Request} {spec' : MessageSpec}

/-- What a request that fails leaves: the invariant still holds if runs go on. -/
def Left (terms : Terms) (J : Frame → Prop) (core : HeadlessWireCore) : Prop :=
  terms.lasting → Holds J none core

/-- A handler that ends with the invariant, or with a fault that is tolerated. -/
def Keeps {α : Type} (terms : Terms) (J : Frame → Prop) (handler : Handler α)
    (core : HeadlessWireCore) : Prop :=
  Ends (Tolerated terms.safe (Left terms J)) handler core fun _ core' => Holds J none core'

/-- From a core that holds the handler ends with one that does. -/
def Kept {α : Type} (terms : Terms) (J : Frame → Prop) (handler : Handler α)
    (core : HeadlessWireCore) : Prop :=
  Holds J none core → Keeps terms J handler core

theorem Holds.left {terms : Terms} {J : Frame → Prop} {core : HeadlessWireCore}
    (h : Holds J none core) : Left terms J core := fun _ => h

/-- The objects of one core are objects of the other. -/
def Objects (core core' : HeadlessWireCore) : Prop :=
  ∀ id object, core.object? id = some object → core'.object? id = some object

section Kept

variable {terms : Terms} {J : Frame → Prop} {core : HeadlessWireCore} {α β : Type} {id : Nat}
variable {rest : Unit → Handler α} {part : HeadlessWireCore → β}
  {put : HeadlessWireCore → β → HeadlessWireCore} {op : β → Fallible β}

theorem kept_pure {a : α} (h : Holds J none core) : Kept terms J (pure a) core := fun _ => h

theorem kept_throw {error : WireError} : Kept (α := α) terms J (throw (.error error)) core :=
  fun h => tolerated_error h.left error

theorem kept_unhandled : Kept terms J (unhandled interface opcode) core :=
  fun h => ends_unhandled h.left

theorem kept_bind {m : Handler β} {f : β → Handler α} (h : Kept terms J m core)
    (hf : ∀ b core', Holds J none core' → Kept terms J (f b) core') :
    Kept terms J (m >>= f) core :=
  fun hcore => (h hcore).then fun b core' h' => hf b core' h' h'

theorem kept_get {f : HeadlessWireCore → Handler α} (h : Kept terms J (f core) core) :
    Kept terms J (get >>= f) core :=
  fun hcore => ends_bind.mpr (h hcore)

theorem kept_modify (h : Holds J none (f core)) : Kept terms J (modify f) core := fun _ => h

theorem kept_modify_bind (hf : Holds J none (f core))
    (h : Holds J none (f core) → Kept terms J (rest ()) (f core)) :
    Kept terms J (modify f >>= rest) core :=
  fun _ => ends_bind.mpr (h hf hf)

theorem kept_set (h : Holds J none core') : Kept terms J (set core') core := fun _ => h

theorem kept_set_bind {rest : PUnit → Handler α} (h : Holds J none core')
    (hrest : Holds J none core' → Kept terms J (rest ⟨⟩) core') :
    Kept terms J (set core' >>= rest) core :=
  fun _ => ends_bind.mpr (hrest h h)

theorem kept_word {f : Nat → Handler α} (hlength : offset + 4 ≤ payload.length)
    (h : Kept terms J (f (readU32 (payload.drop offset))) core) :
    Kept terms J (wordAt payload offset >>= f) core :=
  fun hcore => ends_bind.mpr ((ends_wordAt hlength).mpr (h hcore))

theorem kept_int {f : Int → Handler α} (hlength : offset + 4 ≤ payload.length)
    (h : Kept terms J (f (readI32 (payload.drop offset))) core) :
    Kept terms J (intAt payload offset >>= f) core :=
  fun hcore => ends_bind.mpr ((ends_intAt hlength).mpr (h hcore))

theorem kept_text {f : String × Nat → Handler α}
    (h : ∀ text, decodeString payload offset = .ok text → Kept terms J (f text) core) :
    Kept terms J (textAt payload offset >>= f) core :=
  fun hcore => ends_bind.mpr ((ends_textAt hcore.left).mpr fun text htext => h text htext hcore)

theorem kept_requireLength {length : Nat} {f : Unit → Handler α}
    (h : length ≤ payload.length → Kept terms J (f ()) core) :
    Kept terms J (requireLength payload length >>= f) core :=
  fun hcore => ends_bind.mpr ((ends_requireLength hcore.left).mpr fun hlength => h hlength hcore)

theorem kept_require {check : Prop} [Decidable check] {reason : String} {f : Unit → Handler α}
    (h : check → Kept terms J (f ()) core) : Kept terms J (require check reason >>= f) core :=
  fun hcore => ends_bind.mpr ((ends_require hcore.left).mpr fun hcheck => h hcheck hcore)

theorem kept_lift {x : Fallible β} {f : β → Handler α} (hcalm : terms.safe → Calm x)
    (h : ∀ a, x = .ok a → Kept terms J (f a) core) : Kept terms J (lift x >>= f) core :=
  fun hcore => ends_bind.mpr ((ends_lift hcore.left).mpr ⟨fun a ha => h a ha hcore, hcalm⟩)

theorem kept_getObject {f : WireObject → Handler α}
    (h : ∀ object, core.object? id = some object → Kept terms J (f object) core) :
    Kept terms J (getObject id >>= f) core :=
  fun hcore => ends_bind.mpr ((ends_getObject hcore.left).mpr fun o ho => h o ho hcore)

theorem kept_part (hcalm : terms.safe → Calm (op (part core)))
    (h : ∀ b, op (part core) = .ok b → Holds J none (put core b)) :
    Kept terms J (onPart part put op) core :=
  fun hcore => (ends_onPart hcore.left).mpr ⟨h, hcalm⟩

theorem kept_part_bind (hcalm : terms.safe → Calm (op (part core)))
    (h : ∀ b, op (part core) = .ok b → Holds J none (put core b) ∧
      (Holds J none (put core b) → Kept terms J (rest ()) (put core b))) :
    Kept terms J (onPart part put op >>= rest) core :=
  fun hcore => ends_bind.mpr ((ends_onPart hcore.left).mpr
    ⟨fun b hb => (h b hb).2 (h b hb).1 (h b hb).1, hcalm⟩)

theorem SerialsFrom.next (shell : XdgShellManager) :
    SerialsFrom shell.serials shell.getNextSerial.2.serials := by
  refine ⟨fun _ _ hserial => .inr hserial, fun _ => ?_⟩
  have hword : (shell.nextSerial + 1) % 4294967296 < 4294967296 := Nat.mod_lt _ (by decide)
  exact Nat.le_of_lt_succ hword

section Stable

variable (hJ : Stable terms J)
variable {rest : Unit → Handler α}

include hJ

theorem kept_nextXdgSerial_bind {rest : Nat → Handler α}
    (h : ∀ core', Holds J none core' → core'.registry = core.registry →
      core'.dataDevice = core.dataDevice → Kept terms J (rest core.xdgShell.getNextSerial.1) core') :
    Kept terms J (nextXdgSerial >>= rest) core := by
  intro hcore
  have hnext : Holds J none { core with xdgShell := core.xdgShell.getNextSerial.2 } :=
    hcore.of_serials _ hJ (.inr (.next core.xdgShell)) rfl rfl rfl fun _ _ hkeeps => .inl hkeeps
  exact ends_bind.mpr (ends_nextXdgSerial.mpr (h _ hnext rfl rfl hnext))

section

variable (h : Holds J none core)
include h

/-- What follows a registration has the new object and all others. -/
theorem ends_register {Q : Unit → HeadlessWireCore → Prop} (hplain : interface.plain = true)
    (hQ : ∀ core', Holds J none core' → core'.object? id = some ⟨interface, version⟩ →
      Objects core core' → core' = core.registered id ⟨interface, version⟩ →
      core.object? id = none → Q () core') :
    Ends (Tolerated terms.safe (Left terms J)) (registerClientObject id interface version) core
      Q := by
  refine (ends_registerClientObject h.left).mpr fun havailable => ?_
  refine hQ _ (h.registered hJ havailable hplain) ?_ ?_ rfl havailable.none
  · exact OrdMap.get?_insert_self _ _ _
  · intro other object hobject
    have hne : other ≠ id := by
      intro heq
      rw [heq] at hobject
      rw [HeadlessWireCore.object?, havailable.none] at hobject
      cases hobject
    exact (OrdMap.get?_insert_ne _ _ hne).trans hobject

theorem kept_register_bind (hplain : interface.plain = true)
    (hrest : ∀ core', Holds J none core' → core'.object? id = some ⟨interface, version⟩ →
      Objects core core' → core' = core.registered id ⟨interface, version⟩ →
      core.object? id = none → Kept terms J (rest ()) core') :
    Kept terms J (registerClientObject id interface version >>= rest) core :=
  fun _ => ends_bind.mpr (ends_register hJ h hplain fun core' h' hnew hold heq hnone =>
    hrest core' h' hnew hold heq hnone h')

theorem kept_send (hfine : Fine terms.level (encodeEvent id opcode args) (core.object? id)) :
    Kept terms J (send id opcode args) core :=
  fun _ => h.pushed hJ hfine

theorem kept_send_bind (hfine : Fine terms.level (encodeEvent id opcode args) (core.object? id))
    (hrest : Holds J none (core.pushed (encodeEvent id opcode args)) →
      Kept terms J (rest ()) (core.pushed (encodeEvent id opcode args))) :
    Kept terms J (send id opcode args >>= rest) core :=
  fun _ => ends_bind.mpr (hrest (h.pushed hJ hfine) (h.pushed hJ hfine))

theorem kept_sendEach {messages : List WaylandMessage} (hfine : ∀ event ∈ messages,
      Fine terms.level event (core.object? event.header.objectId)) :
    Kept terms J (sendEach messages) core :=
  fun _ => h.pushedAll hJ hfine

/-- The object of a request goes, once the tables of its interface have forgotten it. -/
theorem kept_destroy (hobject : core.object? id = some ⟨interface, version⟩)
    (hplain : interface.plain = true) (hfree : ¬ core.anchors.keeps none interface id) :
    Kept terms J (destroyObject id) core :=
  fun hcore => (ends_destroyObject hcore.left).mpr fun _ _ => h.retired hJ hobject hplain hfree

end

theorem kept_destroyWith (h : Holds J none (forget core))
    (hobject : (forget core).object? id = some ⟨interface, version⟩)
    (hplain : interface.plain = true) (hfree : ¬ (forget core).anchors.keeps none interface id) :
    Kept terms J (destroyWith forget id) core :=
  kept_modify_bind h fun h => kept_destroy hJ h hobject hplain hfree

/-- A request that only destroys its object, of which no table of anchors keeps track. -/
theorem destroyWith_kept (h : Holds J none core)
    (hobject : core.object? id = some ⟨interface, version⟩)
    (hanchors : (forget core).anchors = core.anchors) (hframe : (forget core).frame = core.frame)
    (hplain : interface.plain = true) (hfree : ¬ core.anchors.keeps none interface id) :
    Kept terms J (destroyWith forget id) core := by
  have hobject' : (forget core).object? id = some ⟨interface, version⟩ := by
    have hobjects := congrArg Frame.objects hframe
    change (forget core).registry.objects = core.registry.objects at hobjects
    rw [HeadlessWireCore.object?, hobjects]
    exact hobject
  exact kept_destroyWith hJ (h.of_same hanchors hframe) hobject' hplain (by rwa [hanchors])

end Stable

variable {level : Level}

/-- What a request is answered with is an event of the interface. -/
theorem Interface.reply?_eq_some :
    interface.reply? opcode = some spec ↔
      interface.quiet = false ∧ interface.event? opcode = some spec := by
  unfold Interface.reply?
  cases interface.quiet <;> simp

/-- An event that the interface of its object declares with these arguments. -/
theorem fine_declared (hlive : LiveAs core.registry.objects interface id)
    (hspec : interface.reply? opcode = some spec) (htypes : spec.args = args.map argType)
    (hfits : ∀ a ∈ args, Fits a) : Fine level (encodeEvent id opcode args) (core.object? id) := by
  obtain ⟨object, hobject, hinterface⟩ := hlive
  obtain ⟨hquiet, hevent⟩ := Interface.reply?_eq_some.mp hspec
  rw [HeadlessWireCore.object?, hobject]
  rw [← hinterface] at hevent hquiet
  exact Fine.of_wellFormed (wellFormed_encodeEvent hevent htypes hfits) hquiet

/-- Where declarations are not asked for, an event of any object but a quiet one. -/
theorem fine_undeclared {event : WaylandMessage} (hlevel : level ≠ .declared)
    (hlive : LiveAs core.registry.objects interface event.header.objectId)
    (hquiet : interface.quiet = false) : Fine level event (core.object? event.header.objectId) := by
  obtain ⟨object, hobject, hinterface⟩ := hlive
  cases level with
  | off banned =>
    intro other hother hbanned
    obtain rfl := Option.some.inj (hobject.symm.trans hother)
    rw [← hinterface, hbanned.1] at hquiet
    cases hquiet
  | declared => exact absurd rfl hlevel

/-- As before, but the texts only have to fit where declarations are asked for. -/
theorem fine_text (hlive : LiveAs core.registry.objects interface id)
    (hspec : interface.reply? opcode = some spec) (htypes : spec.args = args.map argType)
    (hfits : level = .declared → ∀ a ∈ args, Fits a) :
    Fine level (encodeEvent id opcode args) (core.object? id) := by
  by_cases hlevel : level = .declared
  · exact fine_declared hlive hspec htypes (hfits hlevel)
  · exact fine_undeclared hlevel hlive (Interface.reply?_eq_some.mp hspec).1

end Kept

/-! What a decoded payload holds. -/

def ArgType.isWord : ArgType → Bool
  | .int | .uint | .object | .newId | .fixed => true
  | _ => false

/-- The words at the start of a payload. -/
def leadingWords : List ArgType → Nat
  | [] => 0
  | arg :: rest => if arg.isWord then leadingWords rest + 1 else 0

theorem decodeWord_length {arg : WireArg} (h : decodeWord payload offset arg = .ok read) :
    offset + 4 ≤ payload.length ∧ read.2 = offset + 4 := by
  unfold decodeWord at h
  split_ifs at h
  cases h
  exact ⟨by omega, rfl⟩

theorem decodeArg_word {arg : ArgType} (hword : arg.isWord = true)
    (h : decodeArg payload fds offset fdCount arg = .ok read) :
    offset + 4 ≤ payload.length ∧ read.2 = offset + 4 := by
  cases arg with
  | int | uint | object | newId | fixed => exact decodeWord_length h
  | string | array | fd => cases hword

theorem decode_length {args : List ArgType} {decoded : List WireArg × Nat}
    (h : decodeArgumentsFrom payload fds args offset fdCount = .ok decoded)
    (hpos : 0 < leadingWords args) : offset + 4 * leadingWords args ≤ payload.length := by
  induction args generalizing offset fdCount decoded with
  | nil => cases hpos
  | cons arg rest ih =>
    have hword : arg.isWord = true := by
      by_contra hnot
      simp [leadingWords, hnot] at hpos
    simp only [leadingWords, if_pos hword]
    obtain ⟨read, hread, hothers⟩ := bind_eq_ok.mp h
    obtain ⟨others, hrest, _⟩ := bind_eq_ok.mp hothers
    obtain ⟨hlength, hoffset⟩ := decodeArg_word hword hread
    by_cases hmore : 0 < leadingWords rest
    · have hle := ih hrest hmore
      omega
    · omega

/-- The request was decoded under the declaration of its opcode. -/
structure Decoded (interface : Interface) (r : Request) (spec : MessageSpec) : Prop where
  declared : interface.request? r.opcode = some spec
  decodes : ∃ fds stop, decodeArgumentsFrom r.payload fds spec.args 0 0 = .ok (r.args, stop)

theorem Decoded.words (h : Decoded interface r spec) (n : Nat) (hopcode : r.opcode = opcode)
    (hspec : interface.request? opcode = some spec') (hwords : n + 1 ≤ leadingWords spec'.args) :
    4 * (n + 1) ≤ r.payload.length := by
  obtain ⟨fds, stop, hdecode⟩ := h.decodes
  have hdeclared := h.declared
  rw [hopcode, hspec] at hdeclared
  obtain rfl := Option.some.inj hdeclared
  have hle := decode_length hdecode (by omega)
  omega

/-- The words behind a text at the start of a payload. -/
theorem Decoded.wordsBehind {rest : List ArgType} (h : Decoded interface r spec) (n : Nat)
    (hopcode : r.opcode = opcode) (hspec : interface.request? opcode = some spec')
    (hargs : spec'.args = .string :: rest) (hwords : n + 1 ≤ leadingWords rest)
    {text : String × Nat} (htext : decodeString r.payload 0 = .ok text) :
    text.2 + 4 * (n + 1) ≤ r.payload.length := by
  obtain ⟨fds, stop, hdecode⟩ := h.decodes
  have hdeclared := h.declared
  rw [hopcode, hspec] at hdeclared
  obtain rfl := Option.some.inj hdeclared
  rw [hargs] at hdecode
  obtain ⟨read, hread, hothers⟩ := bind_eq_ok.mp hdecode
  obtain ⟨others, hrest, _⟩ := bind_eq_ok.mp hothers
  simp only [decodeArg, htext, Except.map, Except.ok.injEq] at hread
  have hle := decode_length hrest (by omega)
  rw [← hread] at hle
  have hstop : text.2 + 4 * leadingWords rest ≤ r.payload.length := hle
  omega

end TuffXwin.Headless
