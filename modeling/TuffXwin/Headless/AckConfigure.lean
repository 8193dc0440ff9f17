import TuffXwin.Headless.OutputChanges

/-! The serials that configure events carry to the surfaces of the shell, and those that their
client acknowledges. A surface knows the last serial it was sent, and takes every serial up to
it, whichever surface that was sent to. -/

namespace TuffXwin.Headless
open Lib
open WaylandWire (WireError WireArg WaylandMessage readU32 writeU32 readU32_writeU32 displayId
  encodeEvent)

variable {α : Type} {core' : HeadlessWireCore}
variable {payload : List UInt8} {sent : List Nat} {handler : Handler α} {r : Request}
  {events : List WaylandMessage} {operation : Operation}

/-- The serials of the `xdg_surface.configure` events for an object. -/
def configuresTo (id : Nat) (events : List WaylandMessage) : List Nat :=
  events.filterMap fun event =>
    if event.header.objectId = id ∧ event.header.opcode = 0 then some (readU32 event.payload)
    else none

def HeadlessWireCore.interface? (core : HeadlessWireCore) (id : Nat) : Option Interface :=
  (core.object? id).map (·.interface)

/-- What a surface of the shell was sent, and what was acknowledged last. -/
structure ConfigureHistory where
  sent : List Nat := []
  acked : Option Nat := none

namespace ConfigureHistory

/-- The history after a request of the surface that was answered by these events. -/
def after (history : ConfigureHistory) (message : WaylandMessage)
    (events : List WaylandMessage) : ConfigureHistory where
  sent := history.sent ++ configuresTo message.header.objectId events
  acked := if message.header.opcode = 4 then some (readU32 message.payload) else history.acked

/-- The serial was sent to the surface, and none that was sent after it is the one that was
acknowledged last. -/
def Current (history : ConfigureHistory) (serial : Nat) : Prop :=
  ∃ older newer, history.sent = older ++ serial :: newer ∧ ∀ acked ∈ history.acked, acked ∉ newer

end ConfigureHistory

/-- A client and the histories of the surfaces of its shell, each kept as long as its object. -/
structure ShellClient where
  client : Client
  histories : OrdMap Nat ConfigureHistory := OrdMap.empty

namespace ShellClient

def historyOf (c : ShellClient) (id : Nat) : ConfigureHistory := (c.histories.get? id).getD {}

/-- The histories after an operation, which is noted if it is a request of a surface: no other
one configures it. -/
def noted (c : ShellClient) (events : List WaylandMessage) :
    Operation → OrdMap Nat ConfigureHistory
  | .dispatch message _ _ =>
    if c.client.core.interface? message.header.objectId = some .xdgSurface then
      c.histories.insert message.header.objectId
        ((c.historyOf message.header.objectId).after message events)
    else c.histories
  | _ => c.histories

def step (c : ShellClient) (operation : Operation) : ShellClient :=
  let next := c.client.step operation
  { client := next
    histories := (c.noted next.core.eventsOut operation).filter fun id _ =>
      decide (next.core.interface? id = some .xdgSurface) }

def system : System ShellClient Operation where
  init c := c.client.Fresh ∧ c.histories = OrdMap.empty
  next := step

end ShellClient

/-- The message is an `xdg_surface.ack_configure`. -/
def Acks (core : HeadlessWireCore) (message : WaylandMessage) : Prop :=
  message.header.opcode = 4 ∧
    ∃ version, core.object? message.header.objectId = some ⟨.xdgSurface, version⟩

def Accepted (core : HeadlessWireCore) (message : WaylandMessage) (fds : List Nat)
    (environment : Environment) : Prop :=
  ∃ events core', dispatchWithFds message fds environment core = .ok events core'

/-- The serial is below the last one that the surface was sent. -/
def AcksBelow (core : HeadlessWireCore) (message : WaylandMessage) : Prop :=
  4 ≤ message.payload.length ∧
    ∃ state, core.xdgShell.surfaces.get? message.header.objectId = some state ∧
      readU32 message.payload < state.configureSerial

section Accepting

variable {core : HeadlessWireCore} {message : WaylandMessage} {fds : List Nat}
  {environment : Environment}

/-- What the core takes for a valid serial. -/
def Acceptable (core : HeadlessWireCore) (message : WaylandMessage) : Prop :=
  4 ≤ message.payload.length ∧
    ∃ state, core.xdgShell.surfaces.get? message.header.objectId = some state ∧
      state.configureSerial ≠ 0 ∧ readU32 message.payload ≤ state.configureSerial

theorem ackConfigure_ok (shell : XdgShellManager) (id serial : Nat) :
    (∃ shell', shell.ackConfigure id serial = .ok shell') ↔
      ∃ state, shell.surfaces.get? id = some state ∧
        state.configureSerial ≠ 0 ∧ serial ≤ state.configureSerial := by
  constructor
  · rintro ⟨shell', hok⟩
    obtain ⟨state, hstate, hok⟩ := bind_eq_ok.mp hok
    split_ifs at hok with hzero habove
    exact ⟨state, orInvalid_eq_ok.mp hstate, hzero, not_lt.mp habove⟩
  · rintro ⟨state, hstate, hnonzero, hle⟩
    refine ⟨shell.modifySurface id fun state => { state with ackedSerial := serial },
      bind_eq_ok.mpr ⟨state, orInvalid_eq_ok.mpr hstate, ?_⟩⟩
    rw [if_neg hnonzero, if_neg (not_lt.mpr hle)]
    rfl

theorem ends_onPart_iff {part : HeadlessWireCore → α}
    {put : HeadlessWireCore → α → HeadlessWireCore} {op : α → Fallible α}
    {E : Fault → HeadlessWireCore → Prop} {Q : Unit → HeadlessWireCore → Prop} :
    Ends E (onPart part put op) core Q ↔ (∀ a, op (part core) = .ok a → Q () (put core a)) ∧
      ∀ fault, op (part core) = .error fault → E fault core := by
  cases hop : op (part core) <;> simp [onPart, lift, hop]

theorem decodeRequest_ack (h : 4 ≤ payload.length) :
    decodeRequest payload ⟨"ack_configure", [.uint]⟩ fds = .ok [.uint (readU32 payload)] := by
  have hword : ¬payload.length < 0 + 4 := by omega
  simp only [decodeRequest, decodeArguments, decodeArgumentsFrom, decodeArg, decodeWord,
    if_neg hword, Except.map, bind, Except.bind]
  rfl

theorem decodeRequest_short (h : ¬4 ≤ payload.length) :
    decodeRequest payload ⟨"ack_configure", [.uint]⟩ fds = .error (.error .incomplete) := by
  have hword : payload.length < 0 + 4 := by omega
  simp only [decodeRequest, decodeArguments, decodeArgumentsFrom, decodeArg, decodeWord,
    if_pos hword, Except.map, bind, Except.bind]

theorem getObject_ok {id : Nat} {object : WireObject} (h : core.object? id = some object) :
    getObject id core = .ok object core := by
  change lift (orInvalid (core.object? id) id) core = _
  rw [h]
  rfl

theorem ackRequest_ends (hopcode : message.header.opcode = 4)
    (hlength : 4 ≤ message.payload.length) {args : List WireArg} :
    Ends (fun _ _ => ¬Acceptable core message)
      (xdgSurfaceRequest (requestOf message args environment)) core
      fun _ _ => Acceptable core message := by
  have hrequest : xdgSurfaceRequest (requestOf message args environment) =
      handleXdgSurfaceAckConfigure message.header.objectId message.payload := by
    unfold xdgSurfaceRequest requestOf
    rw [hopcode]
    rfl
  have hacked := ackConfigure_ok core.xdgShell message.header.objectId (readU32 message.payload)
  rw [hrequest]
  unfold Ends handleXdgSurfaceAckConfigure
  rw [bind_of_ok (requireLength_ok hlength), bind_of_ok (wordAt_ok (by omega))]
  refine ends_onPart_iff.mpr ⟨fun shell' hok => ⟨hlength, hacked.mp ⟨shell', hok⟩⟩, ?_⟩
  rintro fault herror ⟨_, hstate⟩
  obtain ⟨shell', hok⟩ := hacked.mpr hstate
  rw [show core.xdgShell.ackConfigure message.header.objectId (readU32 message.payload) = _
    from herror] at hok
  cases hok

theorem accepted_iff (h : Acks core message) :
    Accepted core message fds environment ↔ Acceptable core message := by
  obtain ⟨hopcode, version, hobject⟩ := h
  have hspec : requestSpec .xdgSurface message.header.opcode =
      .ok ⟨"ack_configure", [.uint]⟩ := by
    rw [hopcode]
    rfl
  have hends : Ends (fun _ _ => ¬Acceptable core message)
      (dispatchWithFds message fds environment) core fun _ _ => Acceptable core message := by
    unfold Ends dispatchWithFds
    rw [bind_of_ok (getObject_ok hobject),
      bind_of_ok (show lift _ core = .ok _ core by rw [hspec]; rfl)]
    by_cases hlength : 4 ≤ message.payload.length
    · have hvalid : validateArgs ⟨"ack_configure", [.uint]⟩
          [.uint (readU32 message.payload)] = true := rfl
      rw [bind_of_ok (show lift _ core = .ok _ core by rw [decodeRequest_ack hlength]; rfl),
        bind_of_ok (require_ok hvalid)]
      have hhandled : Ends (fun _ _ => ¬Acceptable core message)
          (handleRequest .xdgSurface (requestOf message [.uint (readU32 message.payload)]
            environment)) (core.readied fds) fun _ _ => Acceptable core message :=
        ackRequest_ends hopcode hlength
      exact ends_bind.mpr (ends_modify.mpr (Ends.then hhandled fun _ _ h => h))
    · rw [bind_of_error (show lift _ core = .error _ core by rw [decodeRequest_short hlength]; rfl)]
      exact fun hacceptable => hlength hacceptable.1
  constructor
  · rintro ⟨events, core', hok⟩
    exact hends.ok hok
  · intro hacceptable
    cases hresult : dispatchWithFds message fds environment core with
    | ok events core' => exact ⟨events, core', hresult⟩
    | error fault core' => exact absurd hacceptable (hends.error hresult)

end Accepting

/-! What one operation sends to a surface. -/

section Sending

variable {core : HeadlessWireCore} {message : WaylandMessage} {fds : List Nat}
  {environment : Environment} {id version : Nat}

theorem configuresTo_append (id : Nat) (events : List WaylandMessage) (event : WaylandMessage) :
    configuresTo id (events ++ [event]) = configuresTo id events ++ configuresTo id [event] :=
  List.filterMap_append

/-- An event for another object, or another event. -/
theorem configuresTo_pushed {event : WaylandMessage} (h : configuresTo id core.eventsOut = sent)
    (hother : event.header.objectId ≠ id ∨ event.header.opcode ≠ 0) :
    configuresTo id (core.pushed event).eventsOut = sent := by
  have hnot : ¬(event.header.objectId = id ∧ event.header.opcode = 0) := by tauto
  have hnone : configuresTo id [event] = [] := by simp [configuresTo, hnot]
  have happend := configuresTo_append id core.eventsOut event
  rw [hnone, List.append_nil, h] at happend
  exact happend

theorem configuresTo_configured {serial : Nat} (h : configuresTo id core.eventsOut = sent)
    (hword : serial ≤ u32Max) :
    configuresTo id (core.pushed (encodeEvent id 0 [.uint serial])).eventsOut =
      sent ++ [serial] := by
  have hlt : serial < 4294967296 := Nat.lt_succ_of_le hword
  have hread : readU32 (encodeEvent id 0 [.uint serial]).payload = serial := by
    change readU32 (writeU32 serial ++ []) = serial
    rw [WaylandWire.readU32_append, Nat.mod_eq_of_lt hlt]
  have hevent : configuresTo id [encodeEvent id 0 [.uint serial]] = [serial] := by
    unfold configuresTo
    rw [List.filterMap_cons_some (b := serial) (by rw [if_pos ⟨rfl, rfl⟩, hread])]
    rfl
  have happend := configuresTo_append id core.eventsOut (encodeEvent id 0 [.uint serial])
  rw [hevent, h] at happend
  exact happend

/-- A live object is not one that is registered. -/
theorem registered_ne (hobject : core.object? id = some ⟨.xdgSurface, version⟩) {newId : Nat}
    (havailable : core.registry.Available newId) : newId ≠ id := by
  rintro rfl
  have hnone := havailable.none
  rw [show core.registry.objects.get? newId = some _ from hobject] at hnone
  cases hnone

/-- Before the rest, the handler only reads. -/
theorem ends_reading {β : Type} {rest : α → Handler β} {Q : β → HeadlessWireCore → Prop}
    (hreads : ∀ P, Preserves P handler) (h : ∀ a, Ends Anyhow (rest a) core Q) :
    Ends Anyhow (handler >>= rest) core Q := by
  have hsame : Ends Anyhow handler core fun _ core' => core' = core :=
    Ends.mono_error (hreads (· = core) core rfl) fun _ _ _ => ⟨False.elim, trivial⟩
  refine Ends.then hsame fun a core' heq => ?_
  rw [heq]
  exact h a

theorem ends_of_preserves {P : HeadlessWireCore → Prop} (h : Preserves P handler) (hcore : P core) :
    Ends Anyhow handler core fun _ => P :=
  Ends.mono_error (h core hcore) fun _ _ _ => ⟨False.elim, trivial⟩

/-- Only one request of a surface configures it. -/
theorem xdgSurfaceRequest_silent (hobject : core.object? r.id = some ⟨.xdgSurface, version⟩)
    (hopcode : r.opcode ≠ 1) (hsilent : configuresTo r.id core.eventsOut = []) :
    Ends Anyhow (xdgSurfaceRequest r) core fun _ core' =>
      configuresTo r.id core'.eventsOut = [] := by
  unfold xdgSurfaceRequest
  split
  · refine ends_bind.mpr (ends_modify.mpr ((ends_destroyObject trivial).mpr fun _ _ => ?_))
    change configuresTo r.id (core.withoutXdgSurface r.id).eventsOut = []
    unfold HeadlessWireCore.withoutXdgSurface
    split
    · exact hsilent
    · exact hsilent
  · rename_i hget
    exact absurd hget hopcode
  · unfold handleXdgSurfaceGetPopup
    refine ends_reading (fun _ => preserves_wordAt) fun newId => ?_
    refine ends_reading (fun _ => preserves_wordAt) fun parentId => ?_
    refine ends_reading (fun _ => preserves_wordAt) fun positionerId => ends_bind.mpr ?_
    refine (ends_registerClientObject trivial).mpr fun havailable => ends_bind.mpr ?_
    refine (ends_onPart trivial).mpr ⟨fun shell _ => ends_send.mpr ?_, False.elim⟩
    exact configuresTo_pushed hsilent (.inl (registered_ne hobject havailable))
  · unfold handleXdgSurfaceSetWindowGeometry
    refine ends_of_preserves (preserves_requireLength.bind fun _ => ?_) hsilent
    refine preserves_intAt.bind fun x => preserves_intAt.bind fun y => ?_
    refine preserves_intAt.bind fun width => preserves_intAt.bind fun height => ?_
    exact preserves_onPart fun _ _ _ h => h
  · unfold handleXdgSurfaceAckConfigure
    refine ends_of_preserves (preserves_requireLength.bind fun _ => ?_) hsilent
    exact preserves_wordAt.bind fun serial => preserves_onPart fun _ _ _ h => h
  · exact ends_unhandled trivial

theorem xdgSurfaceRequest_configures (hobject : core.object? r.id = some ⟨.xdgSurface, version⟩)
    (hopcode : r.opcode = 1) (hsilent : configuresTo r.id core.eventsOut = [])
    (hword : core.xdgShell.nextSerial ≤ u32Max) :
    Ends Anyhow (xdgSurfaceRequest r) core fun _ core' =>
      configuresTo r.id core'.eventsOut = [core.xdgShell.nextSerial] ∧
        core'.xdgShell = core.xdgShell.getNextSerial.2.modifySurface r.id fun state =>
          { state with configureSerial := core.xdgShell.nextSerial } := by
  have hrequest : xdgSurfaceRequest r = handleXdgSurfaceGetToplevel r.id r.payload := by
    unfold xdgSurfaceRequest
    rw [hopcode]
    rfl
  rw [hrequest]
  unfold handleXdgSurfaceGetToplevel
  refine ends_reading (fun _ => preserves_requireLength) fun _ => ?_
  refine ends_reading (fun _ => preserves_wordAt) fun newId => ends_bind.mpr ?_
  refine (ends_registerClientObject trivial).mpr fun havailable => ends_bind.mpr ?_
  refine ends_nextXdgSerial.mpr (ends_bind.mpr (ends_modify.mpr (ends_bind.mpr ?_)))
  refine ends_send.mpr (ends_send.mpr ⟨?_, rfl⟩)
  have hother : newId ≠ r.id := registered_ne hobject havailable
  exact configuresTo_configured (configuresTo_pushed hsilent (.inl hother)) hword

end Sending

/-! A surface of the shell was sent its serial last. -/

/-- The next serial is a word, and the histories end with the serials of the surfaces. -/
structure Latest (histories : OrdMap Nat ConfigureHistory) (shell : XdgShellManager) : Prop where
  word : shell.nextSerial ≤ u32Max
  last : ∀ id state, shell.surfaces.get? id = some state → state.configureSerial ≠ 0 →
    ((histories.get? id).getD {}).sent.getLast? = some state.configureSerial

namespace Latest

variable {histories : OrdMap Nat ConfigureHistory} {shell shell' : XdgShellManager}
  {message : WaylandMessage} {events : List WaylandMessage}

theorem from_serials (h : Latest histories shell)
    (hserials : SerialsFrom shell.serials shell'.serials) : Latest histories shell' := by
  refine ⟨hserials.2 h.word, fun id state' hstate' hnonzero => ?_⟩
  have hserial' : shell'.serials.configured.get? id = some state'.configureSerial :=
    (OrdMap.get?_mapVals _ _ _).trans (congrArg _ hstate')
  rcases hserials.1 id _ hserial' with hzero | hserial
  · exact absurd hzero hnonzero
  · obtain ⟨state, hstate, hsame⟩ :=
      Option.map_eq_some_iff.mp ((OrdMap.get?_mapVals _ _ _).symm.trans hserial)
    rw [← hsame] at hnonzero ⊢
    exact h.last id state hstate hnonzero

/-- The request was answered by no configure event. -/
theorem silent (h : Latest histories shell)
    (hsilent : configuresTo message.header.objectId events = []) :
    Latest (histories.insert message.header.objectId
      (((histories.get? message.header.objectId).getD {}).after message events)) shell := by
  refine ⟨h.word, fun id state hstate hnonzero => ?_⟩
  have hlast := h.last id state hstate hnonzero
  rw [OrdMap.get?_insert]
  split_ifs with hid
  · rw [hid] at hlast
    unfold ConfigureHistory.after
    rw [Option.getD_some, hsilent, List.append_nil]
    exact hlast
  · exact hlast

/-- And by one. -/
theorem configured (h : Latest histories shell)
    (hserial : configuresTo message.header.objectId events = [shell.nextSerial]) :
    Latest (histories.insert message.header.objectId
      (((histories.get? message.header.objectId).getD {}).after message events))
      (shell.getNextSerial.2.modifySurface message.header.objectId fun state =>
        { state with configureSerial := shell.nextSerial }) := by
  refine ⟨(SerialsFrom.next shell).2 h.word, fun id state' hstate' hnonzero => ?_⟩
  unfold XdgShellManager.modifySurface at hstate'
  rw [OrdMap.get?_modify] at hstate'
  rw [OrdMap.get?_insert]
  split_ifs at hstate' ⊢ with hid
  · obtain ⟨state, _, rfl⟩ := Option.map_eq_some_iff.mp hstate'
    unfold ConfigureHistory.after
    rw [Option.getD_some, hserial]
    exact List.getLast?_concat
  · exact h.last id state' hstate' hnonzero

end Latest

section Step

variable {c : ShellClient} {message : WaylandMessage} {fds : List Nat}
  {environment : Environment}

theorem dispatch_latest {version : Nat} (h : Latest c.histories c.client.core.xdgShell)
    (hopcode : message.header.opcode = 1)
    (hobject : c.client.core.object? message.header.objectId = some ⟨.xdgSurface, version⟩)
    (hok : dispatchWithFds message fds environment c.client.core = .ok events core') :
    Latest (c.noted core'.eventsOut (.dispatch message fds environment)) core'.xdgShell := by
  have hinterface : c.client.core.interface? message.header.objectId = some .xdgSurface := by
    unfold HeadlessWireCore.interface?
    rw [hobject]
    rfl
  have hends : Ends Anyhow (dispatchWithFds message fds environment) c.client.core
      fun _ core' => configuresTo message.header.objectId core'.eventsOut =
        [c.client.core.xdgShell.nextSerial] ∧ core'.xdgShell =
          c.client.core.xdgShell.getNextSerial.2.modifySurface message.header.objectId
            fun state => { state with configureSerial := c.client.core.xdgShell.nextSerial } :=
    dispatchWithFds_tells hobject (fun _ _ hcore => hcore)
      (fun core id hcore => ⟨configuresTo_pushed hcore.1 (.inr Nat.one_ne_zero), hcore.2⟩)
      fun _ _ _ _ => xdgSurfaceRequest_configures hobject hopcode rfl h.word
  obtain ⟨hserial, hshell⟩ := hends.ok hok
  unfold ShellClient.noted
  dsimp only
  rw [if_pos hinterface, hshell]
  exact h.configured hserial

/-- A request that does not configure its surface. -/
theorem silent_latest (h : Latest c.histories c.client.core.xdgShell)
    (hserials : SerialsFrom c.client.core.xdgShell.serials core'.xdgShell.serials)
    (hsilent : ¬ (Operation.dispatch message fds environment).Configures c.client.core)
    (hok : dispatchWithFds message fds environment c.client.core = .ok events core') :
    Latest (c.noted core'.eventsOut (.dispatch message fds environment)) core'.xdgShell := by
  unfold ShellClient.noted
  dsimp only
  split_ifs with hinterface
  · obtain ⟨⟨interface, version⟩, hobject, hsurface⟩ := Option.map_eq_some_iff.mp hinterface
    obtain rfl : interface = .xdgSurface := hsurface
    have hopcode : message.header.opcode ≠ 1 := fun hopcode => hsilent ⟨hopcode, version, hobject⟩
    have hends : Ends Anyhow (dispatchWithFds message fds environment) c.client.core
        fun _ core' => configuresTo message.header.objectId core'.eventsOut = [] :=
      dispatchWithFds_tells hobject (fun _ _ hcore => hcore)
        (fun core id hcore => configuresTo_pushed hcore (.inr Nat.one_ne_zero))
        fun _ _ _ _ => xdgSurfaceRequest_silent hobject hopcode rfl
    exact (h.silent (hends.ok hok)).from_serials hserials
  · exact h.from_serials hserials

theorem perform_latest (hanchored : Anchored none c.client.core.anchors)
    (h : Latest c.histories c.client.core.xdgShell)
    (hok : operation.perform c.client.core = .ok () core') :
    Latest (c.noted core'.eventsOut operation) core'.xdgShell := by
  have hserials (hsilent : ¬ operation.Configures c.client.core) :
      SerialsFrom c.client.core.xdgShell.serials core'.xdgShell.serials :=
    (perform_serials hanchored hsilent).ok hok
  cases operation with
  | dispatch message fds environment =>
    change (dispatchWithFds message fds environment >>= fun _ => pure ()) c.client.core = _ at hok
    cases hresult : dispatchWithFds message fds environment c.client.core with
    | ok events core =>
      rw [bind_of_ok hresult] at hok
      cases hok
      by_cases hconfigures : (Operation.dispatch message fds environment).Configures c.client.core
      · obtain ⟨hopcode, version, hobject⟩ := hconfigures
        exact dispatch_latest h hopcode hobject hresult
      · exact silent_latest h (hserials hconfigures) hconfigures hresult
    | error fault core =>
      rw [bind_of_error hresult] at hok
      cases hok
  | _ => exact h.from_serials (hserials id)

/-- The histories of objects that are gone may be dropped: the shell has no surface for these. -/
theorem step_latest
    (hlive : ∀ id state, (c.client.step operation).core.xdgShell.surfaces.get? id = some state →
      (c.client.step operation).core.interface? id = some .xdgSurface)
    (h : Latest (c.noted (c.client.step operation).core.eventsOut operation)
      (c.client.step operation).core.xdgShell) :
    Latest (c.step operation).histories (c.client.step operation).core.xdgShell := by
  refine ⟨h.word, fun id state hstate hnonzero => ?_⟩
  unfold ShellClient.step
  rw [OrdMap.get?_filter, decide_eq_true (hlive id state hstate)]
  have hkept := h.last id state hstate hnonzero
  cases hhistory : (c.noted (c.client.step operation).core.eventsOut operation).get? id with
  | none =>
    rw [hhistory] at hkept
    exact hkept
  | some history =>
    rw [hhistory] at hkept
    exact hkept

end Step

section Runs

variable {c : ShellClient}

theorem reachable_client (h : ShellClient.system.Reachable c) : clients.Reachable c.client := by
  induction h with
  | init hinit => exact .init hinit.1
  | next operation _ _ ih => exact .next operation ih trivial

/-- A surface that the shell keeps is a live object. -/
theorem reachable_live {client : Client} (h : clients.Reachable client)
    (hopen : client.fault = none) {id : Nat} {state : XdgSurfaceState}
    (hstate : client.core.xdgShell.surfaces.get? id = some state) :
    client.core.interface? id = some .xdgSurface := by
  have hkeeps : client.core.anchors.keeps none .xdgSurface id :=
    OrdMap.contains_iff.mpr ⟨state, hstate⟩
  obtain ⟨object, hobject, hinterface⟩ :=
    (reachable_furnished h hopen).surfaced.live .xdgSurface hkeeps
  unfold HeadlessWireCore.interface? HeadlessWireCore.object?
  rw [hobject, Option.map_some, hinterface]

theorem reachable_latest (h : ShellClient.system.Reachable c) (hopen : c.client.fault = none) :
    Latest c.histories c.client.core.xdgShell := by
  induction h with
  | init hinit =>
    obtain ⟨⟨deferCallbacks, deferFeedback, hclient⟩, -⟩ := hinit
    rw [hclient]
    have hword : 1 ≤ u32Max := by decide
    refine ⟨hword, fun id state hstate => ?_⟩
    cases hstate
  | @next c operation hreach _ ih =>
    have hclient := reachable_client (hreach.next operation trivial)
    change Latest (c.step operation).histories (c.client.step operation).core.xdgShell
    refine step_latest (fun id state hstate => reachable_live hclient hopen hstate) ?_
    change (c.client.after operation.perform).fault = none at hopen
    unfold Client.after at hopen
    unfold Client.step Client.after
    cases hfault : c.client.fault with
    | some fault =>
      rw [hfault] at hopen
      cases hfault.symm.trans hopen
    | none =>
      rw [hfault] at hopen
      cases hresult : operation.perform c.client.core with
      | ok _ core' =>
        have hanchored := (reachable_furnished (reachable_client hreach) hfault).surfaced.anchored
        exact perform_latest hanchored (ih hfault) hresult
      | error fault core' =>
        rw [hresult] at hopen
        cases hopen

/-- The core takes no serial that was not sent to the surface, or that is older than the last
one acknowledged, exactly if none below the last one sent is such a serial. -/
theorem ackConfigure_current_iff (hreach : ShellClient.system.Reachable c)
    (hopen : c.client.fault = none) {message : WaylandMessage}
    (hacks : Acks c.client.core message) (fds : List Nat) (environment : Environment) :
    (Accepted c.client.core message fds environment →
        (c.historyOf message.header.objectId).Current (readU32 message.payload)) ↔
      (AcksBelow c.client.core message →
        (c.historyOf message.header.objectId).Current (readU32 message.payload)) := by
  rw [accepted_iff hacks]
  constructor
  · rintro hcurrent ⟨hlength, state, hstate, hbelow⟩
    have hnonzero : state.configureSerial ≠ 0 := Nat.ne_zero_of_lt hbelow
    exact hcurrent ⟨hlength, state, hstate, hnonzero, hbelow.le⟩
  · rintro hcurrent ⟨hlength, state, hstate, hnonzero, hle⟩
    rcases hle.lt_or_eq with hbelow | heq
    · exact hcurrent ⟨hlength, state, hstate, hbelow⟩
    · have hlast := (reachable_latest hreach hopen).last _ state hstate hnonzero
      obtain ⟨older, hsent⟩ := List.getLast?_eq_some_iff.mp hlast
      refine ⟨older, [], ?_, fun _ _ => List.not_mem_nil⟩
      rw [heq]
      exact hsent

end Runs

/-! A client with two extended surfaces: 7 is sent the serial 2, and 8 the serial 3. -/

def twoToplevels : List Operation :=
  requests [.new displayId 1 (writeU32 2), bindGlobal 1 3 4 .wlCompositor,
    bindGlobal 4 4 6 .xdgWmBase, .new 3 0 (writeU32 5), .new 3 0 (writeU32 6),
    .new 4 2 (writeU32 7 ++ writeU32 5), .new 4 2 (writeU32 8 ++ writeU32 6),
    .new 7 1 (writeU32 9), .new 8 1 (writeU32 10)]

def twoToplevelClient : ShellClient :=
  ShellClient.system.run { client := { core := freshCore true true } } twoToplevels

theorem twoToplevelClient_reachable : ShellClient.system.Reachable twoToplevelClient := by
  have hinit : ShellClient.system.Reachable { client := { core := freshCore true true } } :=
    .init ⟨⟨true, true, rfl⟩, rfl⟩
  exact hinit.run twoToplevels

def ackMessage (id serial : Nat) : WaylandMessage := .new id 4 (writeU32 serial)

theorem acks_toplevel (serial : Nat) :
    Acks twoToplevelClient.client.core (ackMessage 8 serial) := by
  have hobject : twoToplevelClient.client.core.object? 8 = some ⟨.xdgSurface, 6⟩ := by
    decide +kernel
  exact ⟨rfl, 6, hobject⟩

theorem ownSerial_current :
    (Accepted twoToplevelClient.client.core (ackMessage 8 3) [] stillEnvironment →
        (twoToplevelClient.historyOf 8).Current 3) ↔
      (AcksBelow twoToplevelClient.client.core (ackMessage 8 3) →
        (twoToplevelClient.historyOf 8).Current 3) :=
  ackConfigure_current_iff twoToplevelClient_reachable (by decide +kernel) (acks_toplevel 3) []
    stillEnvironment

/-- The serial of the other surface is taken. -/
theorem foreignSerial_accepted :
    ShellClient.system.Reachable twoToplevelClient ∧ twoToplevelClient.client.fault = none ∧
      Acks twoToplevelClient.client.core (ackMessage 8 2) ∧
      Accepted twoToplevelClient.client.core (ackMessage 8 2) [] stillEnvironment ∧
      (twoToplevelClient.historyOf 7).sent = [2] ∧ (twoToplevelClient.historyOf 8).sent = [3] ∧
      ¬(twoToplevelClient.historyOf 8).Current 2 := by
  have hsent : (twoToplevelClient.historyOf 8).sent = [3] := by decide +kernel
  have hstate : (twoToplevelClient.client.core.xdgShell.surfaces.get? 8).map
      (·.configureSerial) = some 3 := by decide +kernel
  obtain ⟨state, hstate, hserial⟩ := Option.map_eq_some_iff.mp hstate
  refine ⟨twoToplevelClient_reachable, by decide +kernel, acks_toplevel 2, ?_,
    by decide +kernel, hsent, ?_⟩
  · refine (accepted_iff (acks_toplevel 2)).mpr ⟨by decide, state, hstate, ?_⟩
    rw [hserial]
    decide
  · rintro ⟨older, newer, hsplit, -⟩
    rw [hsent] at hsplit
    have hmem : 2 ∈ [3] := hsplit ▸ List.mem_append_right older List.mem_cons_self
    exact absurd hmem (by decide)

end TuffXwin.Headless
