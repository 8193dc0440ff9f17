import TuffXwin.Headless.Anchors
import TuffXwin.Waylandd.ClientCommands
import TuffXwin.Waylandd.Scene

/-! Physical input from the broker to the client that has the focus. The focus is looked up in
the published scene and the canonical scene, the event waits in the queue of the client, and by
the time it is applied its surface may be gone: the error then ends the client. -/

namespace TuffXwin.Headless
open Lib

variable {surfaceId : Nat} {event : PhysicalInputEvent}

section Injection

variable {core : HeadlessWireCore} {E : Fault → HeadlessWireCore → Prop}

theorem ends_sendEach_input {messages : List WaylandWire.WaylandMessage}
    {Q : HeadlessWireCore → Prop} (h : ∀ core', core'.input = core.input → Q core') :
    Ends E (sendEach messages) core fun _ => Q := by
  obtain ⟨eventsOut, log, heq⟩ := foldl_pushed messages core
  exact h _ (by dsimp only; rw [heq])

theorem injectPointer_done {serial id : Nat} {input : PointerInput}
    (h : core.input.pointers.contains id = true) :
    Ends E (injectPointer surfaceId serial input id) core fun _ core' =>
      ∀ other, core.input.pointers.contains other = true →
        core'.input.pointers.contains other = true := by
  obtain ⟨pointer, hpointer⟩ := OrdMap.contains_iff.mp h
  have hfound : (lift (orInvalid (some pointer) id) : Handler PointerState) = pure pointer := rfl
  unfold injectPointer
  rw [ends_bind, ends_get, hpointer, hfound, ends_bind, ends_pure, ends_bind, ends_set]
  refine ends_sendEach_input fun core' hinput other hother => ?_
  rw [hinput]
  exact OrdMap.contains_insert.mpr (.inr hother)

theorem injectKeyboard_done {code id : Nat} {pressed : Bool}
    (h : core.input.keyboards.contains id = true) :
    Ends E (injectKeyboard surfaceId event code pressed id) core fun _ core' =>
      ∀ other, core.input.keyboards.contains other = true →
        core'.input.keyboards.contains other = true := by
  obtain ⟨keyboard, hkeyboard⟩ := OrdMap.contains_iff.mp h
  have hfound : (lift (orInvalid (some keyboard) id) : Handler KeyboardState) = pure keyboard :=
    rfl
  unfold injectKeyboard
  rw [ends_bind, ends_get, hkeyboard, hfound, ends_bind, ends_pure, ends_bind, ends_set]
  refine ends_sendEach_input fun core' hinput other hother => ?_
  rw [hinput]
  exact OrdMap.contains_insert.mpr (.inr hother)

/-- Every device of the loop is still there when it is its turn. -/
theorem injectEach_done {inject : Nat → Handler Unit} {device : HeadlessWireCore → Nat → Prop}
    (hone : ∀ core id, device core id → Ends E (inject id) core fun _ core' =>
      ∀ other, device core other → device core' other)
    {ids : List Nat} (h : ∀ id ∈ ids, device core id) :
    Ends E (injectEach inject ids) core fun _ _ => True := by
  induction ids generalizing core with
  | nil => trivial
  | cons id rest ih =>
    refine Ends.then (hone core id (h id List.mem_cons_self)) fun _ core' hkept => ?_
    exact ih fun other hother => hkept other (h other (List.mem_cons_of_mem _ hother))

theorem contains_of_visit {ν : Type} {environment : Environment} {m : OrdMap Nat ν} {id : Nat}
    (h : id ∈ environment.visit m.keys) : m.contains id = true :=
  OrdMap.contains_iff.mpr (OrdMap.mem_keys.mp ((environment.visit_perm _).mem_iff.mp h))

/-- A valid event for a surface that is alive is delivered. -/
theorem injectPhysicalInput_done (environment : Environment) (hvalid : event.validate = .ok ())
    (hlive : core.surfaces.surfaces.contains surfaceId = true) :
    Ends E (injectPhysicalInput surfaceId event environment) core fun _ _ => True := by
  have hpassed : (lift event.validate : Handler Unit) = pure () := by rw [hvalid]; rfl
  unfold injectPhysicalInput
  rw [hpassed, pure_bind, ends_bind, ends_get]
  dsimp only
  rw [if_pos hlive]
  have hpointers : ∀ input, Ends E (injectEach (injectPointer surfaceId event.serial input)
      (environment.visit core.input.pointers.keys)) core fun _ _ => True := fun input =>
    injectEach_done (fun _ _ => injectPointer_done) fun _ => contains_of_visit
  split
  · exact hpointers _
  · exact hpointers _
  · exact hpointers _
  · exact injectEach_done (fun _ _ => injectKeyboard_done) fun _ => contains_of_visit

/-- An event for any other surface is an error. -/
theorem injectPhysicalInput_refused (environment : Environment) (hvalid : event.validate = .ok ())
    (hgone : ¬core.surfaces.surfaces.contains surfaceId = true) :
    injectPhysicalInput surfaceId event environment core =
      .error (invalidObject surfaceId) core := by
  have hpassed : (lift event.validate : Handler Unit) = pure () := by rw [hvalid]; rfl
  unfold injectPhysicalInput
  rw [hpassed, pure_bind, bind_get, if_neg hgone]
  rfl

end Injection

end TuffXwin.Headless

namespace TuffXwin.Waylandd
open Lib
open Headless (HeadlessWireCore Environment PhysicalInputEvent Operation injectPhysicalInput
  injectPhysicalInput_done injectPhysicalInput_refused)

variable {surfaceId : Nat} {event : PhysicalInputEvent}

/-! Which client and which of its surfaces has the focus. -/

def surfacesOf (clientId : Nat) : String := "client-" ++ toString clientId ++ "-surface-"

/-- `str::strip_prefix`. -/
def stripStart : (start text : List Char) → Option (List Char)
  | [], text => some text
  | _ :: _, [] => none
  | c :: start, d :: text => if c = d then stripStart start text else none

/-- `str::parse::<u32>`, which takes a leading plus sign. -/
def parseU32 (text : List Char) : Except String Nat :=
  let digits := match text with
    | '+' :: rest => rest
    | _ => text
  let value := digits.foldl (fun value digit => value * 10 + (digit.toNat - 48)) 0
  if text = [] then .error "cannot parse integer from empty string"
  else if digits = [] ∨ !digits.all Char.isDigit then .error "invalid digit found in string"
  else if u32Max < value then .error "number too large to fit in target type"
  else .ok value

/-- The first client with the visible surface, if its name is of that client. -/
def focusOwner (focusId : String) :
    List (Nat × List SurfaceSnapshot) → Except String (Option (Nat × Nat))
  | [] => .ok none
  | entry :: rest =>
    if entry.2.any fun surface => surface.id = focusId && surface.placement.visible then
      match stripStart (surfacesOf entry.1).toList focusId.toList with
      | some text => (parseU32 text).map fun surfaceId => some (entry.1, surfaceId)
      | none => focusOwner focusId rest
    else focusOwner focusId rest

/-- A client thread and its endpoint. -/
structure RoutedClient where
  client : CommandClient
  queue : List QueuedCommand := []
  resyncRequested : Bool := false

/-- The canonical scene by clients, the client threads, and the process and the sequence of the
last event that was routed. -/
structure InputService where
  scene : OrdMap Nat (List SurfaceSnapshot) := OrdMap.empty
  clients : OrdMap Nat RoutedClient := OrdMap.empty
  authority : Option (Nat × Nat) := none

inductive RouteFault
  | invalid (fault : Headless.Fault)
  | refused (reason : String)
  deriving DecidableEq, Repr

namespace InputService

variable (service : InputService)

/-- The end of `route_physical_input`: the event joins the queue of the client. -/
def enqueue (event : PhysicalInputEvent) (pid clientId surfaceId : Nat) :
    Except RouteFault InputService :=
  match service.clients.get? clientId with
  | none => .error (.refused "physical input focus client is disconnected")
  | some routed =>
    if service.authority.any fun last => last.1 = pid && event.sequence ≤ last.2 then
      .error (.refused "physical input event sequence was replayed or reordered")
    else if routed.queue.length < clientCommandCapacity then
      .ok { service with
        clients := service.clients.insert clientId
          { routed with queue := routed.queue ++ [.physicalInput event surfaceId] }
        authority := some (pid, event.sequence) }
    else .error (.refused "physical input client queue is full or closed")

/-- `answer` is the scene that displayd presents, or why there is no answer. -/
def routePhysicalInput (event : PhysicalInputEvent) (pid : Nat)
    (answer : Except String (Option CommittedSceneState)) : Except RouteFault InputService :=
  match event.validate, answer with
  | .error fault, _ => .error (.invalid fault)
  | .ok (), .error reason => .error (.refused reason)
  | .ok (), .ok none =>
    .error (.refused "physical input rejected: no authoritative presented scene")
  | .ok (), .ok (some snapshot) =>
    match snapshot.focus with
    | .none => .error (.refused "physical input rejected: compositor has no focused surface")
    | .surface focusId =>
      if snapshot.surfaces.any fun surface => surface.id = focusId && surface.placement.visible then
        match focusOwner focusId service.scene.entries with
        | .error reason => .error (.refused reason)
        | .ok none => .error (.refused "physical input focus has no active Wayland client")
        | .ok (some owner) => service.enqueue event pid owner.1 owner.2
      else .error (.refused "physical input focus is not a visible committed surface")

/-- A new thread has the topology in its queue. -/
def connect (clientId epoch sequence : Nat) (topology : List OutputTopologyEntry) :
    InputService :=
  { service with
    clients := service.clients.insert clientId
      { client := { core := Headless.freshCore true true, projection := projectionOf topology }
        queue := [.topology (.initialTopology epoch sequence topology)] } }

/-- A thread that ends takes its surfaces with it. -/
def leave (clientId : Nat) : InputService :=
  { service with
    scene := service.scene.erase clientId
    clients := service.clients.erase clientId }

def publish (clientId : Nat) (surfaces : List SurfaceSnapshot) : InputService :=
  { service with scene := service.scene.insert clientId surfaces }

/-- A full queue raises the resync flag; a flagged client hears of resets only. -/
def offered (command : ClientCommand) (routed : RoutedClient) : RoutedClient :=
  if routed.resyncRequested ∧ !command.isReset then routed
  else if routed.queue.length < clientCommandCapacity then
    { routed with queue := routed.queue ++ [.topology command] }
  else { routed with resyncRequested := true }

def broadcast (command : ClientCommand) : InputService :=
  { service with clients := service.clients.mapVals fun _ routed => offered command routed }

/-- What the thread does with its core between two commands, requests among it. -/
def request (clientId : Nat) (operation : Operation) : InputService :=
  match service.clients.get? clientId with
  | none => service
  | some routed =>
    match operation.perform routed.client.core with
    | .ok _ core =>
      { service with
        clients := service.clients.insert clientId
          { routed with client := { routed.client with core := core } } }
    | .error _ _ => service.leave clientId

/-- `try_recv` and the application: an error or a disconnection ends the thread. -/
def drain (clientId : Nat) (environment : Environment) : InputService :=
  match service.clients.get? clientId with
  | none => service
  | some routed =>
    match routed.queue with
    | [] => service
    | command :: queue =>
      match applyClientCommand environment command routed.client with
      | .ok false client =>
        { service with
          clients := service.clients.insert clientId { routed with client, queue } }
      | .ok true _ => service.leave clientId
      | .error _ _ => service.leave clientId

/-- The commands of a reconciliation, none of which waits in a queue. -/
def reconciliation (projection authoritative : Projection) (epoch sequence : Nat) :
    List ClientCommand :=
  .topologyReset epoch sequence ::
    (projection.keys.map fun outputId => .removeGlobal epoch sequence outputId 0) ++
    (authoritative.values.map fun output => .addGlobal epoch sequence output) ++
    [.recalculateMembership epoch sequence]

def applyAll (environment : Environment) : List ClientCommand → CommandM Unit
  | [] => pure ()
  | command :: commands => do
    let _ ← applyTopologyCommand environment command
    applyAll environment commands

/-- `reconcile_client_topology`: the queue is emptied, whatever it holds. -/
def reconcile (clientId epoch sequence : Nat) (authoritative : Projection)
    (environment : Environment) : InputService :=
  match service.clients.get? clientId with
  | none => service
  | some routed =>
    match applyAll environment
        (reconciliation routed.client.projection authoritative epoch sequence) routed.client with
    | .ok _ client => { service with clients := service.clients.insert clientId { client } }
    | .error _ _ => service.leave clientId

end InputService

inductive InputTurn
  | connect (clientId epoch sequence : Nat) (topology : List OutputTopologyEntry)
  | leave (clientId : Nat)
  | publish (clientId : Nat) (surfaces : List SurfaceSnapshot)
  | broadcast (command : ClientCommand)
  | request (clientId : Nat) (operation : Operation)
  | route (event : PhysicalInputEvent) (pid : Nat)
      (answer : Except String (Option CommittedSceneState))
  | drain (clientId : Nat) (environment : Environment)
  | reconcile (clientId epoch sequence : Nat) (authoritative : Projection)
      (environment : Environment)

namespace InputService

/-- An event that is refused changes nothing. -/
def turn (service : InputService) : InputTurn → InputService
  | .connect clientId epoch sequence topology => service.connect clientId epoch sequence topology
  | .leave clientId => service.leave clientId
  | .publish clientId surfaces => service.publish clientId surfaces
  | .broadcast command => service.broadcast command
  | .request clientId operation => service.request clientId operation
  | .route event pid answer =>
    match service.routePhysicalInput event pid answer with
    | .ok routed => routed
    | .error _ => service
  | .drain clientId environment => service.drain clientId environment
  | .reconcile clientId epoch sequence authoritative environment =>
    service.reconcile clientId epoch sequence authoritative environment

def turns : System InputService InputTurn where
  init service := service = {}
  next := turn

/-- The command that the client takes next is physical input for the surface. -/
def NextInput (service : InputService) (client : CommandClient) (event : PhysicalInputEvent)
    (surfaceId : Nat) : Prop :=
  ∃ clientId routed rest, service.clients.get? clientId = some routed ∧
    routed.client = client ∧ routed.queue = .physicalInput event surfaceId :: rest

/-- Events that wait have been validated. -/
def Validated (service : InputService) : Prop :=
  ∀ clientId routed event surfaceId, service.clients.get? clientId = some routed →
    .physicalInput event surfaceId ∈ routed.queue → event.validate = .ok ()

namespace Validated

variable {service : InputService}

section

variable (h : service.Validated)
include h

theorem put {clientId : Nat} {routed : RoutedClient} {scene : OrdMap Nat (List SurfaceSnapshot)}
    {authority : Option (Nat × Nat)}
    (hqueue : ∀ event surfaceId, .physicalInput event surfaceId ∈ routed.queue →
      event.validate = .ok ()) :
    Validated ⟨scene, service.clients.insert clientId routed, authority⟩ := by
  intro clientId' routed' event surfaceId hclient hmem
  have hcases : routed' = routed ∨ service.clients.get? clientId' = some routed' := by
    by_cases hsame : clientId' = clientId
    · subst hsame
      exact .inl (Option.some.inj (hclient.symm.trans (OrdMap.get?_insert_self _ _ _)))
    · exact .inr ((OrdMap.get?_insert_ne _ _ hsame).symm.trans hclient)
  rcases hcases with rfl | hold
  · exact hqueue event surfaceId hmem
  · exact h clientId' routed' event surfaceId hold hmem

theorem leave (clientId : Nat) : (service.leave clientId).Validated := by
  intro clientId' routed event surfaceId hclient hmem
  have hkept := hclient
  unfold InputService.leave at hkept
  rw [OrdMap.get?_erase] at hkept
  split_ifs at hkept
  exact h clientId' routed event surfaceId hkept hmem

theorem broadcast (command : ClientCommand) : (service.broadcast command).Validated := by
  intro clientId routed event surfaceId hclient hmem
  unfold InputService.broadcast at hclient
  rw [OrdMap.get?_mapVals] at hclient
  obtain ⟨routed', hold, rfl⟩ := Option.map_eq_some_iff.mp hclient
  refine h clientId routed' event surfaceId hold ?_
  unfold offered at hmem
  split_ifs at hmem
  · exact hmem
  · rcases List.mem_append.mp hmem with hmem | hnew
    · exact hmem
    · cases List.mem_singleton.mp hnew
  · exact hmem

theorem request (clientId : Nat) (operation : Operation) :
    (service.request clientId operation).Validated := by
  unfold InputService.request
  split
  · exact h
  · rename_i routed hclient
    split
    · exact h.put fun event surfaceId => h clientId routed event surfaceId hclient
    · exact h.leave clientId

theorem drain (clientId : Nat) (environment : Environment) :
    (service.drain clientId environment).Validated := by
  unfold InputService.drain
  split
  · exact h
  · rename_i routed hclient
    split
    · exact h
    · rename_i command queue hqueue
      have hrest : ∀ event surfaceId, .physicalInput event surfaceId ∈ queue →
          event.validate = .ok () := fun event surfaceId hmem =>
        h clientId routed event surfaceId hclient (hqueue ▸ List.mem_cons_of_mem _ hmem)
      split
      · exact h.put hrest
      · exact h.leave clientId
      · exact h.leave clientId

theorem reconcile (clientId epoch sequence : Nat) (authoritative : Projection)
    (environment : Environment) :
    (service.reconcile clientId epoch sequence authoritative environment).Validated := by
  unfold InputService.reconcile
  split
  · exact h
  · split
    · exact h.put fun event surfaceId hmem => by cases hmem
    · exact h.leave clientId

/-- An event is validated before it is routed. -/
theorem route {pid : Nat} {answer : Except String (Option CommittedSceneState)}
    {service' : InputService}
    (hrouted : service.routePhysicalInput event pid answer = .ok service') :
    service'.Validated := by
  unfold routePhysicalInput at hrouted
  split at hrouted
  · cases hrouted
  · cases hrouted
  · cases hrouted
  · rename_i hvalid
    split at hrouted
    · cases hrouted
    · split_ifs at hrouted
      split at hrouted
      · cases hrouted
      · cases hrouted
      · rename_i owner _
        unfold enqueue at hrouted
        split at hrouted
        · cases hrouted
        · rename_i routed hclient
          split_ifs at hrouted
          obtain rfl := Except.ok.inj hrouted
          refine h.put fun event' surfaceId hmem => ?_
          rcases List.mem_append.mp hmem with hmem | hnew
          · exact h owner.1 routed event' surfaceId hclient hmem
          · cases List.mem_singleton.mp hnew
            exact hvalid

theorem turn (input : InputTurn) : (service.turn input).Validated := by
  cases input with
  | connect clientId epoch sequence topology =>
    exact h.put fun event surfaceId hmem => by cases List.mem_singleton.mp hmem
  | leave clientId => exact h.leave clientId
  | publish clientId surfaces => exact h
  | broadcast command => exact h.broadcast command
  | request clientId operation => exact h.request clientId operation
  | route event pid answer =>
    unfold InputService.turn
    dsimp only
    split
    · rename_i routed hrouted
      exact h.route hrouted
    · exact h
  | drain clientId environment => exact h.drain clientId environment
  | reconcile clientId epoch sequence authoritative environment =>
    exact h.reconcile clientId epoch sequence authoritative environment

end

end Validated

theorem run_validated (inputs : List InputTurn) : (turns.run {} inputs).Validated := by
  refine (System.Reachable.run (.init rfl) inputs).invariant ?_ fun _ input h _ => h.turn input
  rintro _ rfl clientId routed event surfaceId hclient
  cases hclient

end InputService

theorem applyPhysicalInput_iff {client : CommandClient} (environment : Environment)
    (hvalid : event.validate = .ok ()) :
    (∃ client', applyClientCommand environment (.physicalInput event surfaceId) client =
        .ok false client') ↔ client.core.surfaces.surfaces.contains surfaceId = true := by
  have hcommand : applyClientCommand environment (.physicalInput event surfaceId) =
      (runCore (injectPhysicalInput surfaceId event environment) >>= fun _ => pure false) := rfl
  rw [hcommand]
  by_cases hlive : client.core.surfaces.surfaces.contains surfaceId = true
  · refine iff_of_true ?_ hlive
    have hdone : Ends (fun _ _ => False) (runCore (injectPhysicalInput surfaceId event environment))
        client fun _ _ => True :=
      ends_runCore.mpr (injectPhysicalInput_done environment hvalid hlive)
    obtain ⟨_, client', hinjected, -⟩ := ends_never.mp hdone
    exact ⟨client', bind_of_ok hinjected⟩
  · refine iff_of_false ?_ hlive
    rintro ⟨client', happlied⟩
    have hrefused : runCore (injectPhysicalInput surfaceId event environment) client =
        .error (.core (Headless.invalidObject surfaceId)) client := by
      unfold runCore
      rw [injectPhysicalInput_refused environment hvalid hlive]
    rw [bind_of_error hrefused] at happlied
    cases happlied

/-- In every run the next command of a client, if it is physical input, is applied exactly where
its surface is alive. -/
theorem physicalInput_applied_iff (inputs : List InputTurn) :
    ∀ client event surfaceId environment,
      (InputService.turns.run {} inputs).NextInput client event surfaceId →
        ((∃ client', applyClientCommand environment (.physicalInput event surfaceId) client =
            .ok false client') ↔ client.core.surfaces.surfaces.contains surfaceId = true) := by
  rintro client event surfaceId environment ⟨clientId, routed, rest, hclient, rfl, hqueue⟩
  refine applyPhysicalInput_iff environment ?_
  exact InputService.run_validated inputs clientId routed event surfaceId hclient
    (hqueue ▸ List.mem_cons_self)

section sample

open WaylandWire (displayId writeU32)
open Headless (bindGlobal stillEnvironment)

def sampleTurn (message : WaylandWire.WaylandMessage) : InputTurn :=
  .request 1 (.dispatch message [] stillEnvironment)

def focusedWindow : SurfaceSnapshot :=
  { id := "client-1-surface-5", placement := ⟨0, 0, 64, 64, 0, true⟩ }

def presentedScene : CommittedSceneState where
  source := .compd
  target := .output "HDMI-A-1"
  focus := .surface "client-1-surface-5"
  selection := {}
  surfaces := [focusedWindow]
  sceneEpoch := 1
  sceneGeneration := 1
  commitId := 1
  unixTimestamp := 0

def pointerMoved : PhysicalInputEvent := ⟨7, 7000, .relativeX 9⟩

/-- A client creates a surface and has it published, and an event is routed to it. -/
def routedFocus : List InputTurn :=
  [.connect 1 1 1 [], sampleTurn (.new displayId 1 (writeU32 2)),
    sampleTurn (bindGlobal 1 3 4 .wlCompositor), sampleTurn (.new 3 0 (writeU32 5)),
    .publish 1 [focusedWindow], .drain 1 stillEnvironment,
    .route pointerMoved 40 (.ok (some presentedScene))]

theorem routedFocus_applied :
    ∃ client, (InputService.turns.run {} routedFocus).NextInput client pointerMoved 5 ∧
      ∃ client', applyClientCommand stillEnvironment (.physicalInput pointerMoved 5) client =
        .ok false client' := by
  have hclient : ((InputService.turns.run {} routedFocus).clients.get? 1).any (fun routed =>
      routed.queue = [.physicalInput pointerMoved 5] ∧
        routed.client.core.surfaces.surfaces.contains 5 = true) = true := by decide +kernel
  obtain ⟨routed, hrouted, hqueued⟩ := (Option.any_eq_true _ _).mp hclient
  obtain ⟨hqueue, hlive⟩ := of_decide_eq_true hqueued
  have hnext : (InputService.turns.run {} routedFocus).NextInput routed.client pointerMoved 5 :=
    ⟨1, routed, [], hrouted, rfl, hqueue⟩
  exact ⟨routed.client, hnext, (physicalInput_applied_iff routedFocus routed.client pointerMoved 5
    stillEnvironment hnext).mpr hlive⟩

/-- And it destroys the surface before it takes the event. -/
def destroyedFocus : List InputTurn := routedFocus ++ [sampleTurn (.new 5 0 [])]

theorem destroyedFocus_terminates :
    ¬∀ (inputs : List InputTurn) client event surfaceId environment,
      (InputService.turns.run {} inputs).NextInput client event surfaceId →
        ∃ client', applyClientCommand environment (.physicalInput event surfaceId) client =
          .ok false client' := by
  intro happlies
  have hclient : ((InputService.turns.run {} destroyedFocus).clients.get? 1).any (fun routed =>
      routed.queue = [.physicalInput pointerMoved 5] ∧
        routed.client.core.surfaces.surfaces.contains 5 = false) = true := by decide +kernel
  cases hrouted : (InputService.turns.run {} destroyedFocus).clients.get? 1 with
  | none =>
    rw [hrouted] at hclient
    cases hclient
  | some routed =>
    rw [hrouted, Option.any_some, decide_eq_true_eq] at hclient
    obtain ⟨hqueue, hgone⟩ := hclient
    have happlied := happlies destroyedFocus routed.client pointerMoved 5 stillEnvironment
      ⟨1, routed, [], hrouted, rfl, hqueue⟩
    rw [applyPhysicalInput_iff stillEnvironment rfl, hgone] at happlied
    cases happlied

end sample

end TuffXwin.Waylandd
