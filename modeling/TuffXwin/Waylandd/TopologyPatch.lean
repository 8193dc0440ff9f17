import TuffXwin.Headless.OutputChanges
import TuffXwin.Lib.MapDiff
import TuffXwin.Waylandd.ClientCommands

/-! The commands for the difference of two projections, applied by a client. Each command is an
edit of the projection; the client's core follows it with one output, and the other outputs are
not touched. -/

namespace TuffXwin.Waylandd
open Lib
open Headless (HeadlessWireCore Environment RealOutput Operation Anchored Listed Unaffected Unless
  OutputEdgesFit EdgesFit FitsI32 Fault addTopologyOutput removeTopologyOutput
  reconfigureTopologyOutput recalculateSurfaceMembership)

variable {core : HeadlessWireCore} {output : OutputTopologyEntry}
  {outputs : List OutputTopologyEntry}
variable {outputId : String} {e : Edit String OutputTopologyEntry} {epoch sequence : Nat}

/-- The command that tells of an edit. -/
def commandOf (epoch sequence : Nat) : Edit String OutputTopologyEntry → ClientCommand
  | .remove outputId output =>
    .removeGlobal epoch sequence outputId output.geometry.outputGeneration
  | .add _ output => .addGlobal epoch sequence output
  | .change _ output => .reconfigureOutput epoch sequence output

theorem projectionDiffCommands_eq (previous next : Projection) (epoch sequence : Nat) :
    projectionDiffCommands previous next epoch sequence =
      (diff previous next).map (commandOf epoch sequence) ++
        [.recalculateMembership epoch sequence] := by
  have hremoved : removedCommands previous next epoch sequence =
      (previous.entries.filterMap (removalOf next)).map (commandOf epoch sequence) := by
    unfold removedCommands
    rw [List.map_filterMap]
    congr 1
    funext entry
    unfold removalOf
    split_ifs <;> rfl
  have hchanged : changedCommands previous next epoch sequence =
      (next.entries.filterMap (changeOf previous)).map (commandOf epoch sequence) := by
    unfold changedCommands
    rw [List.map_filterMap]
    congr 1
    funext entry
    unfold changeOf
    cases previous.get? entry.1 with
    | none => rfl
    | some old =>
      dsimp only
      split_ifs <;> rfl
  unfold projectionDiffCommands diff
  rw [hremoved, hchanged, List.map_append]

/-- The loop that empties the queue. It ends with the first failure, and where the client is to
be disconnected. -/
def applyInOrder (environments : Nat → Environment) : List ClientCommand → CommandM Bool
  | [] => pure false
  | command :: commands => do
    let disconnect ← applyClientCommand (environments commands.length) (.topology command)
    if disconnect then return true else applyInOrder environments commands

/-- The core knows the outputs of the projection. -/
structure InStep (client : CommandClient) : Prop where
  anchored : Anchored none client.core.anchors
  listed : Listed client.core
  projected : ∀ outputId, client.projection.contains outputId = true ↔
    client.core.runtimeGlobalNames.contains outputId = true

/-- What a bound output can be told: its edges are words, and so is its rate. -/
def Tellable (output : RealOutput) : Prop :=
  (FitsI32 (output.x + output.width) ∧ FitsI32 (output.y + output.height)) ∧
    (output.refreshNsec = 0 ∨ 466 ≤ output.refreshNsec)

/-- An output that has changed can be told to the objects that are bound to it. -/
def Fitting (core : HeadlessWireCore) (e : Edit String OutputTopologyEntry) : Prop :=
  ∀ output, e = .change e.key output → (core.outputsNamed e.key).keys ≠ [] →
    Tellable (realOutputOf output)

/-- What one edit leaves. -/
structure Patched (e : Edit String OutputTopologyEntry) (client client' : CommandClient) :
    Prop where
  inStep : InStep client'
  projection : client'.projection = e.apply client.projection
  epoch : client'.epoch = client.epoch
  sequence : client'.sequence = client.sequence
  output : client'.core.outputOf e.key = e.after.map realOutputOf
  next : client'.core.nextGlobalName = client.core.nextGlobalName + e.isAdd.toNat
  edges : OutputEdgesFit client.core → Fitting client.core e → OutputEdgesFit client'.core
  others : ∀ outputId, outputId ≠ e.key → Unaffected outputId client.core client'.core

section Edits

variable {client : CommandClient} {safe : Prop} {environment : Environment}

/-- An operation of the core, and the anchors that it keeps. -/
theorem runCore_anchored (operation : Operation) {Q : HeadlessWireCore → Prop}
    {Q' : CommandClient → Prop} (hanchored : Anchored none client.core.anchors)
    (h : Ends (Unless safe) operation.perform client.core fun _ => Q)
    (hdone : ∀ core, Anchored none core.anchors → Q core → Q' { client with core := core }) :
    Ends (fun _ _ => ¬safe) (runCore operation.perform) client fun _ => Q' := by
  have hboth := Ends.and h (Headless.perform_anchored hanchored operation)
  exact ends_runCore.mpr (hboth.mono fun _ core hcore => hdone core hcore.2 hcore.1)

/-- The projection and the core agree on the others. -/
theorem InStep.edited (h : InStep client) {projection : Projection}
    (hanchored : Anchored none core.anchors) (hlisted : Listed core)
    (hothers : ∀ other, other ≠ outputId → Unaffected other client.core core)
    (hsame : ∀ other, other ≠ outputId → projection.get? other = client.projection.get? other)
    (hself : projection.contains outputId = true ↔
      core.runtimeGlobalNames.contains outputId = true) :
    InStep { client with core := core, projection := projection } := by
  refine ⟨hanchored, hlisted, fun other => ?_⟩
  by_cases hother : other = outputId
  · rw [hother]
    exact hself
  · unfold OrdMap.contains
    dsimp only
    rw [hsame other hother, (hothers other hother).globalName]
    exact h.projected other

/-- A new output. -/
theorem addGlobal_patches (h : InStep client)
    (hnew : client.projection.get? output.geometry.outputId = none)
    (hroom : safe → client.core.nextGlobalName < u32Max) :
    Ends (fun _ _ => ¬safe) (addGlobal output) client
      fun _ => Patched (.add output.geometry.outputId output) client := by
  have hunknown : ¬client.core.runtimeGlobalNames.contains output.geometry.outputId = true := by
    rw [← h.projected, OrdMap.contains, hnew]
    simp
  refine ends_bind.mpr (ends_keepProjected.mpr ?_)
  refine runCore_anchored (.addOutput (realOutputOf output)) h.anchored
    (Headless.addTopologyOutput_changes h.anchored.holds h.listed hunknown hroom) ?_
  rintro core hanchored ⟨hlisted, hfound, hnext, houtput, hothers⟩
  refine ⟨h.edited hanchored hlisted hothers (fun _ => OrdMap.get?_insert_ne _ _) ?_, rfl, rfl, rfl,
    hfound, hnext, fun hedges _ => ?_, hothers⟩
  · exact iff_of_true (OrdMap.contains_insert.mpr (.inl rfl)) (hlisted.outputOf_some hfound)
  · unfold OutputEdgesFit
    dsimp only
    rw [houtput]
    exact hedges

/-- Whatever the projection had of the output. -/
theorem removeGlobal_patches (h : InStep client) (outputId : String)
    (hedges : safe → OutputEdgesFit client.core) :
    Ends (fun _ _ => ¬safe) (removeGlobal environment outputId) client fun _ client' =>
      InStep client' ∧ ∀ output, Patched (.remove outputId output) client client' := by
  refine ends_bind.mpr (ends_modify.mpr ?_)
  refine runCore_anchored (.removeOutput outputId environment) h.anchored
    (Headless.removeTopologyOutput_changes h.anchored.holds h.listed hedges) ?_
  rintro core hanchored ⟨hlisted, hgone, hnext, houtput, hothers⟩
  have hinStep : InStep { client with
      core := core, projection := client.projection.erase outputId } := by
    refine h.edited hanchored hlisted hothers (fun other hother => ?_) ?_
    · rw [OrdMap.get?_erase, if_neg hother]
    · refine iff_of_false (fun hcontains => ?_) hgone
      exact (OrdMap.contains_erase.mp hcontains).1 rfl
  refine ⟨hinStep, fun output => ⟨hinStep, rfl, rfl, rfl, hlisted.outputOf_none hgone, hnext,
    fun hedges _ => ?_, hothers⟩⟩
  intro id state hstate
  rw [houtput] at hstate
  exact hedges id state (OrdMap.get?_filter_eq_some.mp hstate).1

theorem reconfigured_edges {output : RealOutput} (hedges : OutputEdgesFit core)
    (hfits : (core.outputsNamed output.name).keys ≠ [] → Tellable output) :
    OutputEdgesFit (core.reconfigured output) := by
  intro id state hstate
  change (core.output.outputs.mapVals _).get? id = some state at hstate
  rw [OrdMap.get?_mapVals] at hstate
  obtain ⟨old, hold, rfl⟩ := Option.map_eq_some_iff.mp hstate
  split_ifs with hname
  · refine (hfits fun hnone => ?_).1
    have hmem : id ∈ (core.outputsNamed output.name).keys := OrdMap.mem_keys.mpr
      ⟨old, OrdMap.get?_filter_eq_some.mpr ⟨hold, decide_eq_true hname⟩⟩
    rw [hnone] at hmem
    cases hmem
  · exact hedges id old hold

theorem reconfigureOutput_patches (h : InStep client)
    (hknown : safe → client.projection.contains output.geometry.outputId = true)
    (hedges : safe → OutputEdgesFit client.core)
    (hfits : safe → (client.core.outputsNamed output.geometry.outputId).keys ≠ [] →
      Tellable (realOutputOf output)) :
    Ends (fun _ _ => ¬safe) (reconfigureOutput environment output) client
      fun _ => Patched (.change output.geometry.outputId output) client := by
  refine ends_bind.mpr (ends_keepProjected.mpr ?_)
  refine runCore_anchored (.reconfigureOutput (realOutputOf output) environment) h.anchored
    (Headless.reconfigureTopologyOutput_changes h.anchored.holds h.listed
      (fun hsafe => (h.projected _).mp (hknown hsafe))
      (fun hsafe hbound => Headless.refreshPeriodToMillihz_representable.mpr
        (hfits hsafe hbound).2)
      fun hsafe => reconfigured_edges (hedges hsafe) (hfits hsafe)) ?_
  rintro core hanchored ⟨hlisted, hfound, hnext, houtput, hothers⟩
  refine ⟨h.edited hanchored hlisted hothers (fun _ => OrdMap.get?_insert_ne _ _) ?_, rfl, rfl, rfl,
    hfound, hnext, fun hedges hfitting => ?_, hothers⟩
  · exact iff_of_true (OrdMap.contains_insert.mpr (.inl rfl)) (hlisted.outputOf_some hfound)
  · unfold OutputEdgesFit
    dsimp only
    rw [houtput]
    exact reconfigured_edges hedges (hfitting output rfl)

theorem InStep.stamped (h : InStep client) (epoch sequence : Nat) :
    InStep { client with epoch := epoch, sequence := sequence } :=
  ⟨h.anchored, h.listed, h.projected⟩

/-- The commands of one difference have the same epoch and sequence, and are not stopped. -/
structure Addressed (client : CommandClient) (epoch sequence : Nat) : Prop where
  epoch : client.epoch = 0 ∨ client.epoch = epoch
  sequence : client.sequence ≤ sequence

/-- The edit fits the client, and its output can be told. -/
structure Applicable (client : CommandClient) (e : Edit String OutputTopologyEntry) : Prop where
  fits : e.Fits client.projection
  keyed : ∀ output, e.after = some output → output.geometry.outputId = e.key
  fitting : Fitting client.core e

theorem applyEdit_patches (h : InStep client) (haddressed : Addressed client epoch sequence)
    (hedges : OutputEdgesFit client.core) (happlicable : Applicable client e)
    (hroom : e.isAdd = true → client.core.nextGlobalName < u32Max) :
    Ends (fun _ _ => ¬True)
      (applyClientCommand environment (.topology (commandOf epoch sequence e))) client
      fun disconnect client' => disconnect = false ∧
        Patched e { client with epoch := epoch, sequence := sequence } client' := by
  have hstamped := h.stamped epoch sequence
  obtain ⟨hepoch, hsequence⟩ := haddressed
  obtain ⟨hfits, hkeyed, hfitting⟩ := happlicable
  change Ends _ (applyTopologyCommand environment (commandOf epoch sequence e)) client _
  cases e with
  | remove outputId output =>
    refine (ends_applyTopologyCommand rfl hepoch hsequence).mpr (ends_bind.mpr ?_)
    refine (removeGlobal_patches hstamped outputId fun _ => hedges).mono ?_
    exact fun _ client' hpatched => ⟨rfl, hpatched.2 output⟩
  | add outputId output =>
    obtain rfl : output.geometry.outputId = outputId := hkeyed output rfl
    refine (ends_applyTopologyCommand rfl hepoch hsequence).mpr (ends_bind.mpr ?_)
    refine (addGlobal_patches hstamped hfits fun _ => hroom rfl).mono ?_
    exact fun _ client' hpatched => ⟨rfl, hpatched⟩
  | change outputId output =>
    obtain rfl : output.geometry.outputId = outputId := hkeyed output rfl
    obtain ⟨old, hold, -⟩ := hfits
    refine (ends_applyTopologyCommand rfl hepoch hsequence).mpr (ends_bind.mpr ?_)
    refine (reconfigureOutput_patches hstamped (fun _ => OrdMap.contains_iff.mpr ⟨old, hold⟩)
      (fun _ => hedges) fun _ => hfitting output rfl).mono ?_
    exact fun _ client' hpatched => ⟨rfl, hpatched⟩

/-- An edit of another output. -/
theorem Applicable.patched {client' : CommandClient} {e' : Edit String OutputTopologyEntry}
    (h : Applicable client e') (hpatched : Patched e client client') (hne : e'.key ≠ e.key) :
    Applicable client' e' := by
  refine ⟨?_, h.keyed, fun output heq hbound => h.fitting output heq ?_⟩
  · rw [hpatched.projection]
    exact h.fits.apply_other hne
  · rw [← (hpatched.others e'.key hne).bound]
    exact hbound

/-- The rest of a difference, as a client finds it. -/
structure Remaining (client : CommandClient) (edits : List (Edit String OutputTopologyEntry))
    (epoch sequence : Nat) : Prop where
  inStep : InStep client
  addressed : Addressed client epoch sequence
  edges : OutputEdgesFit client.core
  nodup : (edits.map Edit.key).Nodup
  room : client.core.nextGlobalName + (edits.filter Edit.isAdd).length ≤ u32Max
  applicable : ∀ e ∈ edits, Applicable client e

/-- What a difference leaves: the outputs that it names are as it says, and no other one is
touched. -/
structure PatchedBy (edits : List (Edit String OutputTopologyEntry)) (epoch sequence : Nat)
    (client client' : CommandClient) : Prop where
  inStep : InStep client'
  projection : client'.projection = edits.foldl Edit.apply client.projection
  epoch : client'.epoch = epoch
  sequence : client'.sequence = sequence
  outputs : ∀ e ∈ edits, client'.core.outputOf e.key = e.after.map realOutputOf
  others : ∀ outputId, (∀ e ∈ edits, e.key ≠ outputId) →
    Unaffected outputId client.core client'.core

variable {e : Edit String OutputTopologyEntry} {edits : List (Edit String OutputTopologyEntry)}
  {epoch sequence : Nat} {client' client'' : CommandClient}

theorem Remaining.tail (h : Remaining client (e :: edits) epoch sequence)
    (hpatched : Patched e { client with epoch := epoch, sequence := sequence } client') :
    Remaining client' edits epoch sequence where
  inStep := hpatched.inStep
  addressed := ⟨.inr hpatched.epoch, hpatched.sequence.le⟩
  edges := hpatched.edges h.edges (h.applicable e List.mem_cons_self).fitting
  nodup := (List.nodup_cons.mp h.nodup).2
  room := by
    have hroom := h.room
    rw [hpatched.next]
    cases hadd : e.isAdd with
    | false =>
      rw [List.filter_cons_of_neg (by simp [hadd])] at hroom
      exact hroom
    | true =>
      rw [List.filter_cons_of_pos hadd, List.length_cons] at hroom
      change client.core.nextGlobalName + 1 + _ ≤ _
      omega
  applicable := by
    intro e' he'
    have happlicable := h.applicable e' (List.mem_cons_of_mem _ he')
    have hstamped : Applicable { client with epoch := epoch, sequence := sequence } e' :=
      ⟨happlicable.fits, happlicable.keyed, happlicable.fitting⟩
    refine hstamped.patched hpatched fun heq => ?_
    exact (List.nodup_cons.mp h.nodup).1 (List.mem_map.mpr ⟨e', he', heq⟩)

theorem PatchedBy.cons (hnodup : ((e :: edits).map Edit.key).Nodup)
    (hpatched : Patched e { client with epoch := epoch, sequence := sequence } client')
    (hrest : PatchedBy edits epoch sequence client' client'') :
    PatchedBy (e :: edits) epoch sequence client client'' where
  inStep := hrest.inStep
  projection := by
    rw [hrest.projection, hpatched.projection]
    rfl
  epoch := hrest.epoch
  sequence := hrest.sequence
  outputs := by
    intro e' he'
    rcases List.mem_cons.mp he' with rfl | hmem
    · have hfresh := (List.nodup_cons.mp hnodup).1
      have hspared := hrest.others e'.key fun other hother heq =>
        hfresh (List.mem_map.mpr ⟨other, hother, heq⟩)
      exact hspared.output.trans hpatched.output
    · exact hrest.outputs e' hmem
  others := by
    intro outputId hothers
    have hfirst := hpatched.others outputId (hothers e List.mem_cons_self).symm
    refine hfirst.trans (hrest.others outputId fun e' he' => ?_)
    exact hothers e' (List.mem_cons_of_mem _ he')

theorem recalculate_patches (h : InStep client) (hedges : safe → OutputEdgesFit client.core) :
    Ends (fun _ _ => ¬safe) (runCore (recalculateSurfaceMembership environment)) client
      fun _ => PatchedBy [] client.epoch client.sequence client := by
  refine runCore_anchored (.recalculate environment) h.anchored
    (Headless.recalculateSurfaceMembership_informs hedges) fun core hanchored htold => ?_
  have hspared (outputId : String) : Unaffected outputId client.core core :=
    htold.unaffected fun _ => h.anchored.holds.output_not_surface
  refine ⟨⟨hanchored, htold.listed h.listed, fun outputId => ?_⟩, rfl, rfl, rfl,
    fun _ hmem => (by cases hmem), fun outputId _ => hspared outputId⟩
  unfold OrdMap.contains
  rw [(hspared outputId).globalName]
  exact h.projected outputId

theorem applyEdits_patches (environments : Nat → Environment)
    (h : Remaining client edits epoch sequence) :
    Ends (fun _ _ => ¬True)
      (applyInOrder environments (edits.map (commandOf epoch sequence) ++
        [.recalculateMembership epoch sequence])) client
      fun disconnect client' => disconnect = false ∧
        PatchedBy edits epoch sequence client client' := by
  induction edits generalizing client with
  | nil =>
    obtain ⟨hepoch, hsequence⟩ := h.addressed
    have hstamped := h.inStep.stamped epoch sequence
    refine ends_bind.mpr ((ends_applyTopologyCommand rfl hepoch hsequence).mpr (ends_bind.mpr ?_))
    refine (recalculate_patches hstamped fun _ => h.edges).mono fun _ client' hpatched => ?_
    exact ⟨rfl, hpatched.inStep, hpatched.projection, hpatched.epoch, hpatched.sequence,
      hpatched.outputs, hpatched.others⟩
  | cons e edits ih =>
    have hroom (hadd : e.isAdd = true) : client.core.nextGlobalName < u32Max := by
      have hroom := h.room
      rw [List.filter_cons_of_pos hadd, List.length_cons] at hroom
      omega
    refine Ends.then (applyEdit_patches h.inStep h.addressed h.edges
      (h.applicable e List.mem_cons_self) hroom) ?_
    rintro disconnect client' ⟨rfl, hpatched⟩
    refine (ih (h.tail hpatched)).mono fun disconnect client'' hdone => ⟨hdone.1, ?_⟩
    exact .cons h.nodup hpatched hdone.2

end Edits

/-! Every client is in step once it has taken the topology that it was given first. -/

/-- The runs of a client: what it first takes from its queue are the outputs that its projection
was made of; its requests, the deletions it has acknowledged and further commands follow. -/
inductive Connected : CommandClient → Prop
  | joined {deferCallbacks deferFeedback disconnect : Bool} {epoch sequence : Nat}
    {topology : List OutputTopologyEntry} {environment : Environment} {client : CommandClient}
    (hok : applyClientCommand environment (.topology (.initialTopology epoch sequence topology))
      { core := Headless.freshCore deferCallbacks deferFeedback
        projection := projectionOf topology } = .ok disconnect client) : Connected client
  | dispatched {client : CommandClient} {message : WaylandWire.WaylandMessage} {fds : List Nat}
    {environment : Environment} {events : List WaylandWire.WaylandMessage}
    {core : HeadlessWireCore} (h : Connected client)
    (hok : Headless.dispatchWithFds message fds environment client.core = .ok events core) :
    Connected { client with core := core }
  | acknowledged {client : CommandClient} {event : WaylandWire.WaylandMessage}
    {core : HeadlessWireCore} (h : Connected client)
    (hok : Headless.acknowledgeEventDelivery event client.core = .ok () core) :
    Connected { client with core := core }
  | commanded {client client' : CommandClient} {command : QueuedCommand} {disconnect : Bool}
    {environment : Environment} (h : Connected client)
    (hok : applyClientCommand environment command client = .ok disconnect client') :
    Connected client'

section Connected

variable {client : CommandClient} {environment : Environment}

/-- A client whose core has yet to be told of some outputs of the projection. -/
structure Behind (outputs : List OutputTopologyEntry) (client : CommandClient) : Prop where
  anchored : Anchored none client.core.anchors
  listed : Listed client.core
  projected : ∀ outputId, client.projection.contains outputId = true ↔
    client.core.runtimeGlobalNames.contains outputId = true ∨
      outputId ∈ outputs.map (·.geometry.outputId)

theorem InStep.behind (h : InStep client) : Behind [] client :=
  ⟨h.anchored, h.listed, fun outputId => by simp [h.projected]⟩

theorem Behind.inStep (h : Behind [] client) : InStep client :=
  ⟨h.anchored, h.listed, fun outputId => by simpa using h.projected outputId⟩

theorem addGlobal_behind (h : Behind outputs client) (output : OutputTopologyEntry) :
    Ends (fun _ _ => ¬False) (addGlobal output) client fun _ client' => Behind outputs client' ∧
      client'.core.runtimeGlobalNames.contains output.geometry.outputId = true := by
  refine ends_bind.mpr (ends_keepProjected.mpr ?_)
  refine runCore_anchored (.addOutput (realOutputOf output)) h.anchored
    (Headless.addTopologyOutput_names h.anchored.holds h.listed (realOutputOf output)) ?_
  rintro core hanchored ⟨hlisted, hnames⟩
  refine ⟨⟨hanchored, hlisted, fun outputId => ?_⟩, (hnames _).mpr (.inl rfl)⟩
  dsimp only
  rw [OrdMap.contains_insert, hnames, h.projected, or_assoc]
  rfl

theorem addGlobals_inStep (h : Behind outputs client) :
    Ends (fun _ _ => ¬False) (addGlobals outputs) client fun _ => InStep := by
  induction outputs generalizing client with
  | nil => exact h.inStep
  | cons output outputs ih =>
    refine Ends.then (addGlobal_behind h output) fun _ client' hadded => ih ?_
    obtain ⟨hbehind, hcontains⟩ := hadded
    refine ⟨hbehind.anchored, hbehind.listed, fun outputId => ?_⟩
    rw [hbehind.projected, List.map_cons, List.mem_cons]
    constructor
    · rintro (hknown | rfl | hmem)
      · exact .inl hknown
      · exact .inl hcontains
      · exact .inr hmem
    · rintro (hknown | hmem)
      · exact .inl hknown
      · exact .inr (.inr hmem)

/-- More outputs than the core knows may be added to a client in step. -/
theorem InStep.addGlobals (h : InStep client) (outputs : List OutputTopologyEntry) :
    Ends (fun _ _ => ¬False) (Waylandd.addGlobals outputs) client fun _ => InStep := by
  induction outputs generalizing client with
  | nil => exact h
  | cons output outputs ih =>
    refine Ends.then (addGlobal_behind h.behind output) fun _ client' hadded => ?_
    exact ih hadded.1.inStep

theorem performCommand_inStep (h : InStep client) (command : ClientCommand) :
    Ends (fun _ _ => ¬False) (performCommand environment command) client fun _ => InStep := by
  cases command with
  | initialTopology epoch sequence outputs =>
    exact Ends.then (h.addGlobals outputs) fun _ _ hdone => hdone
  | addGlobal epoch sequence output =>
    exact Ends.then (addGlobal_behind h.behind output) fun _ _ hdone => hdone.1.inStep
  | removeGlobal epoch sequence outputId generation =>
    exact Ends.then (removeGlobal_patches h outputId False.elim) fun _ _ hdone => hdone.1
  | reconfigureOutput epoch sequence output =>
    refine Ends.then (reconfigureOutput_patches h False.elim False.elim False.elim) ?_
    exact fun _ _ hpatched => hpatched.inStep
  | recalculateMembership epoch sequence =>
    exact Ends.then (recalculate_patches h False.elim) fun _ _ hdone => hdone.inStep
  | topologyReset epoch sequence => exact h
  | disconnect epoch sequence => exact h

theorem applyTopologyCommand_inStep (h : InStep client) (command : ClientCommand) :
    Ends (fun _ _ => ¬False) (applyTopologyCommand environment command) client
      fun _ => InStep := by
  refine ends_bind.mpr (ends_get.mpr ?_)
  split_ifs
  · exact h
  · exact h.stamped command.epoch command.sequence
  · exact h
  · exact id
  · exact h
  · exact performCommand_inStep (h.stamped command.epoch command.sequence) command

/-- Physical input changes the seat and sends events. -/
theorem injectPhysicalInput_preserves {P : HeadlessWireCore → Prop}
    (hinput : ∀ core input, P core → P { core with input := input })
    (hpushed : ∀ core event, P core → P (core.pushed event)) {surfaceId : Nat}
    {event : Headless.PhysicalInputEvent} :
    Preserves P (Headless.injectPhysicalInput surfaceId event environment) := by
  have heach {inject : Nat → Headless.Handler Unit} (hone : ∀ id, Preserves P (inject id))
      (ids : List Nat) : Preserves P (Headless.injectEach inject ids) := by
    induction ids with
    | nil => exact preserves_pure ()
    | cons id rest ih => exact (hone id).bind fun _ => ih
  have hpointer (input : Headless.PointerInput) (id : Nat) :
      Preserves P (Headless.injectPointer surfaceId event.serial input id) :=
    preserves_update fun core h => Stays.bind (Headless.preserves_lift core h) fun _ =>
      Preserves.bind (preserves_set (hinput core _ h)) fun _ =>
        Headless.preserves_sendEach hpushed
  have hkeyboard (code : Nat) (pressed : Bool) (id : Nat) :
      Preserves P (Headless.injectKeyboard surfaceId event code pressed id) :=
    preserves_update fun core h => Stays.bind (Headless.preserves_lift core h) fun _ =>
      Preserves.bind (preserves_set (hinput core _ h)) fun _ =>
        Headless.preserves_sendEach hpushed
  unfold Headless.injectPhysicalInput
  refine Headless.preserves_lift.bind fun _ => preserves_get fun core => ?_
  dsimp only
  split_ifs
  · cases event.kind with
    | relativeX delta => exact heach (hpointer _) _
    | relativeY delta => exact heach (hpointer _) _
    | button code pressed => exact heach (hpointer _) _
    | key code pressed => exact heach (hkeyboard code pressed) _
  · exact preserves_throw _

theorem InStep.kept (h : InStep client) (hanchored : Anchored none core.anchors)
    (htopology : core.topology = client.core.topology) : InStep { client with core := core } := by
  obtain ⟨hreal, hrest⟩ := Prod.mk.inj htopology
  obtain ⟨hnames, hnext⟩ := Prod.mk.inj hrest
  refine ⟨hanchored, ⟨fun name => ?_, fun name other global => ?_, fun name global => ?_⟩, ?_⟩
  · rw [hreal, hnames]
    exact h.listed.known name
  · rw [hnames]
    exact h.listed.distinct name other global
  · rw [hnames, hnext]
    exact h.listed.below name global
  · intro outputId
    rw [hnames]
    exact h.projected outputId

theorem joined_behind (deferCallbacks deferFeedback : Bool)
    (topology : List OutputTopologyEntry) :
    Behind topology { core := Headless.freshCore deferCallbacks deferFeedback
                      projection := projectionOf topology } := by
  refine ⟨Headless.freshCore_anchored _ _, ⟨fun name => ?_, fun name other global h => ?_,
    fun name global h => ?_⟩, fun outputId => ?_⟩
  · exact iff_of_false (by simp [Headless.freshCore]) (Bool.false_ne_true)
  · cases h
  · cases h
  · change (OrdMap.insertAll _ topology OrdMap.empty).contains outputId = true ↔ _
    rw [OrdMap.contains_insertAll, List.mem_map]
    exact or_comm

theorem connected_inStep (h : Connected client) : InStep client := by
  induction h with
  | @joined deferCallbacks deferFeedback _ epoch sequence topology environment client hok =>
    have hends : Ends (fun _ _ => ¬False) (applyClientCommand environment
        (.topology (.initialTopology epoch sequence topology)))
        { core := Headless.freshCore deferCallbacks deferFeedback
          projection := projectionOf topology } fun _ => InStep := by
      have hbehind := joined_behind deferCallbacks deferFeedback topology
      refine (ends_applyTopologyCommand rfl (.inl rfl) (Nat.zero_le _)).mpr (ends_bind.mpr ?_)
      exact addGlobals_inStep ⟨hbehind.anchored, hbehind.listed, hbehind.projected⟩
    exact hends.ok hok
  | @dispatched client message fds environment events core _ hok ih =>
    have hperformed : (Operation.dispatch message fds environment).perform client.core =
        .ok () core := by
      change (Headless.dispatchWithFds message fds environment >>= fun _ => pure ()) client.core = _
      rw [bind_of_ok hok]
      rfl
    have hanchored := (Headless.perform_anchored ih.anchored _).ok hperformed
    exact ih.kept hanchored (Ends.ok (Headless.dispatchWithFds_topology ih.anchored) hok)
  | @acknowledged client event core _ hok ih =>
    have hanchored := (Headless.perform_anchored ih.anchored (.acknowledge event)).ok hok
    have htopology : Preserves (fun core => core.topology = client.core.topology)
        (Headless.acknowledgeEventDelivery event) := by
      unfold Headless.acknowledgeEventDelivery
      split_ifs
      · exact preserves_throw _
      · exact Headless.preserves_onPart fun _ _ _ h => h
      · exact preserves_pure ()
    exact ih.kept hanchored (Ends.ok (htopology client.core rfl) hok)
  | @commanded client client' command disconnect environment _ hok ih =>
    cases command with
    | topology command => exact (applyTopologyCommand_inStep ih command).ok hok
    | physicalInput event surfaceId =>
      have hkept : Preserves (fun core : HeadlessWireCore =>
          core.anchors = client.core.anchors ∧ core.topology = client.core.topology)
          (Headless.injectPhysicalInput surfaceId event environment) :=
        injectPhysicalInput_preserves (fun _ _ h => h) fun _ _ h => h
      have hends : Ends (fun _ _ => True) (applyClientCommand environment
          (.physicalInput event surfaceId)) client fun _ => InStep := by
        have hstays : Ends (fun _ _ => True)
            (Headless.injectPhysicalInput surfaceId event environment) client.core fun _ core =>
              core.anchors = client.core.anchors ∧ core.topology = client.core.topology :=
          Ends.mono_error (hkept client.core ⟨rfl, rfl⟩) fun _ _ _ => trivial
        refine ends_bind.mpr (ends_runCore.mpr (hstays.mono fun _ core hcore => ?_))
        refine ih.kept ?_ hcore.2
        rw [hcore.1]
        exact ih.anchored
      exact hends.ok hok

end Connected

/-! The difference of two projections. -/

/-- What a client needs for the commands of a difference: it is in step, the commands are of its
epoch and not older, the names of globals last, and what is bound to an output that has changed
can be told of it. -/
structure Patchable (client : CommandClient) (next : Projection) (epoch sequence : Nat) :
    Prop where
  inStep : InStep client
  addressed : Addressed client epoch sequence
  keyed : ∀ outputId output, next.get? outputId = some output →
    output.geometry.outputId = outputId
  room : client.core.nextGlobalName +
    ((diff client.projection next).filter Edit.isAdd).length ≤ u32Max
  edges : OutputEdgesFit client.core
  fitting : ∀ e ∈ diff client.projection next, Fitting client.core e

theorem Patchable.remaining {client : CommandClient} {next : Projection}
    (h : Patchable client next epoch sequence) :
    Remaining client (diff client.projection next) epoch sequence where
  inStep := h.inStep
  addressed := h.addressed
  edges := h.edges
  nodup := diff_nodup client.projection next
  room := h.room
  applicable := by
    intro e he
    obtain ⟨hfits, hnext⟩ := mem_diff.mp he
    refine ⟨hfits, fun output hafter => ?_, h.fitting e he⟩
    exact h.keyed e.key output (hnext.trans hafter)

/-- The commands of a difference never fail and lead to the other projection. What is the same
in both is not touched, and what is not is as the other one has it. -/
theorem projectionDiffCommands_patch {client : CommandClient} {next : Projection}
    {epoch sequence : Nat} (h : Patchable client next epoch sequence)
    (environments : Nat → Environment) :
    ∃ client', applyInOrder environments
        (projectionDiffCommands client.projection next epoch sequence) client =
          .ok false client' ∧
      client'.projection = next ∧ InStep client' ∧
      client'.epoch = epoch ∧ client'.sequence = sequence ∧
      (∀ outputId, next.get? outputId = client.projection.get? outputId →
        Unaffected outputId client.core client'.core) ∧
      ∀ outputId, next.get? outputId ≠ client.projection.get? outputId →
        client'.core.outputOf outputId = (next.get? outputId).map realOutputOf := by
  have hends := applyEdits_patches environments h.remaining
  rw [← projectionDiffCommands_eq] at hends
  have hnever := Ends.mono_error hends fun _ _ hfault => hfault trivial
  obtain ⟨disconnect, client', hok, rfl, hpatched⟩ := ends_never.mp hnever
  refine ⟨client', hok, ?_, hpatched.inStep, hpatched.epoch, hpatched.sequence, ?_, ?_⟩
  · rw [hpatched.projection]
    exact diff_apply client.projection next
  · refine fun outputId hsame => hpatched.others outputId fun e he hkey => ?_
    obtain ⟨hfits, hnext⟩ := mem_diff.mp he
    rw [hkey] at hnext
    refine hfits.changes ?_
    rw [hkey]
    exact hsame.symm.trans hnext
  · intro outputId hdiffers
    obtain ⟨e, he, rfl⟩ := exists_edit hdiffers.symm
    rw [(mem_diff.mp he).2]
    exact hpatched.outputs e he

/-! Clients that joined under the epoch 1. -/

def outputNamed (name : String) (width : Nat) : OutputTopologyEntry where
  geometry := ⟨name, width, 1080, width * 4, 0, 0, 0, 1⟩
  refreshHz := 60
  scale := 1
  transform := 0
  enabled := true
  name := name
  description := name

def leftBy : EStateM.Result CommandFault CommandClient Bool → CommandClient
  | .ok _ client | .error _ client => client

def joining (topology : List OutputTopologyEntry) :
    EStateM.Result CommandFault CommandClient Bool :=
  applyClientCommand Headless.stillEnvironment (.topology (.initialTopology 1 0 topology))
    { core := Headless.freshCore true true, projection := projectionOf topology }

theorem joining_connected {topology : List OutputTopologyEntry}
    (h : Headless.failed (joining topology) = false) : Connected (leftBy (joining topology)) := by
  cases hresult : joining topology with
  | ok disconnect client => exact .joined hresult
  | error fault client =>
    rw [hresult] at h
    cases h

theorem projectionOf_keyed (h : (projectionOf outputs).get? outputId = some output) :
    output.geometry.outputId = outputId := by
  rcases OrdMap.get?_insertAll_source h with ⟨-, hkey⟩ | hnone
  · exact hkey
  · cases hnone

def twoOutputs : List OutputTopologyEntry := [outputNamed "DP-1" 1920, outputNamed "DP-2" 800]

def otherOutputs : List OutputTopologyEntry := [outputNamed "DP-1" 2560, outputNamed "DP-3" 640]

/-- An output changes, one goes and one comes. -/
theorem twoOutputs_patch :
    ∃ client', applyInOrder (fun _ => Headless.stillEnvironment)
        (projectionDiffCommands (leftBy (joining twoOutputs)).projection
          (projectionOf otherOutputs) 1 4) (leftBy (joining twoOutputs)) = .ok false client' ∧
      client'.projection = projectionOf otherOutputs ∧ InStep client' ∧
      client'.epoch = 1 ∧ client'.sequence = 4 ∧
      (∀ outputId, (projectionOf otherOutputs).get? outputId =
        (leftBy (joining twoOutputs)).projection.get? outputId →
          Unaffected outputId (leftBy (joining twoOutputs)).core client'.core) ∧
      ∀ outputId, (projectionOf otherOutputs).get? outputId ≠
        (leftBy (joining twoOutputs)).projection.get? outputId →
          client'.core.outputOf outputId =
            ((projectionOf otherOutputs).get? outputId).map realOutputOf := by
  have hconnected : Connected (leftBy (joining twoOutputs)) :=
    joining_connected (by decide +kernel)
  have hunbound : (leftBy (joining twoOutputs)).core.output.outputs.entries = [] := by
    decide +kernel
  have hget (id : Nat) : (leftBy (joining twoOutputs)).core.output.outputs.get? id = none := by
    unfold OrdMap.get?
    rw [hunbound]
    rfl
  refine projectionDiffCommands_patch ⟨connected_inStep hconnected, ⟨.inr ?_, ?_⟩,
    fun _ _ => projectionOf_keyed, ?_, fun id output houtput => ?_,
    fun e he output heq hbound => absurd ?_ hbound⟩ _
  · decide +kernel
  · decide +kernel
  · decide +kernel
  · rw [hget] at houtput
    cases houtput
  · refine List.eq_nil_iff_forall_not_mem.mpr fun id hid => ?_
    obtain ⟨state, hstate⟩ := OrdMap.mem_keys.mp hid
    cases (hget id).symm.trans (OrdMap.get?_filter_eq_some.mp hstate).1

def refused : EStateM.Result CommandFault CommandClient Bool → Bool
  | .error .epochMismatch _ => true
  | _ => false

theorem refused_eq {result : EStateM.Result CommandFault CommandClient Bool}
    (h : refused result = true) : ∃ client, result = .error .epochMismatch client := by
  unfold refused at h
  split at h
  · exact ⟨_, rfl⟩
  · cases h

/-- A newer epoch is an error, even where nothing is different. -/
theorem newerEpoch_refused :
    Connected (leftBy (joining [])) ∧ (leftBy (joining [])).epoch = 1 ∧
      (leftBy (joining [])).sequence = 0 ∧
      ∃ client', applyInOrder (fun _ => Headless.stillEnvironment)
        (projectionDiffCommands (leftBy (joining [])).projection
          (leftBy (joining [])).projection 2 0) (leftBy (joining [])) =
            .error .epochMismatch client' :=
  ⟨joining_connected (by decide +kernel), by decide +kernel, by decide +kernel,
    refused_eq (by decide +kernel)⟩

end TuffXwin.Waylandd
