import TuffXwin.Displayd.Backends
import TuffXwin.Displayd.Runtimes

/-! Topology subscriptions. A subscriber replays the deltas sent to it over the
snapshot its subscription was answered with; the registry's own view is what the
snapshot of the moment would hold. -/

namespace TuffXwin.Displayd
open Lib

variable {s s' : DisplayState} {event : BackendOutputEvent} {i : Nat} {r : OutputRuntime}
  {fault : Fault}
variable {generation : Nat} {m : OrdMap String OutputTopologyEntry}
variable {e : OutputTopologyEntry} {accepting : Nat → Bool}

/-- The topology as a subscriber holds it. -/
structure TopologyView where
  sequence : Nat
  outputs : OrdMap String OutputTopologyEntry

namespace TopologyView

def ofSnapshot (sequence : Nat) (outputs : List OutputTopologyEntry) : TopologyView where
  sequence := sequence
  outputs := OrdMap.insertAll (fun e => e.geometry.outputId) outputs OrdMap.empty

/-- Add or replace the entry, remove it, or clear on reset. -/
def applyDelta (v : TopologyView) (delta : OutputTopologyDelta) : TopologyView where
  sequence := delta.topologySequence
  outputs :=
    match delta.transition, delta.outputId, delta.output with
    | .reset, _, _ => OrdMap.empty
    | _, some id, some entry => v.outputs.insert id entry
    | _, some id, none => v.outputs.erase id
    | _, none, _ => v.outputs

end TopologyView

def TopologySubscriber.view (sub : TopologySubscriber) : TopologyView :=
  sub.deltas.foldl TopologyView.applyDelta (.ofSnapshot sub.sequence sub.outputs)

/-- The entries of the enabled outputs, by registry key. -/
def enabledEntries (s : DisplayState) : OrdMap String OutputTopologyEntry :=
  (s.outputs.filter fun _ r => !r.disabled).mapVals fun _ r => topologyEntry r

theorem enabledEntries_get? {id : String} :
    (enabledEntries s).get? id = some e ↔
      ∃ r, s.outputs.get? id = some r ∧ r.disabled = false ∧ topologyEntry r = e := by
  unfold enabledEntries
  rw [OrdMap.get?_mapVals, Option.map_eq_some_iff]
  constructor
  · intro h
    obtain ⟨r, hr, he⟩ := h
    obtain ⟨hr, henabled⟩ := OrdMap.get?_filter_eq_some.mp hr
    exact ⟨r, hr, by simpa using henabled, he⟩
  · intro h
    obtain ⟨r, hr, hdisabled, he⟩ := h
    exact ⟨r, OrdMap.get?_filter_eq_some.mpr ⟨hr, by simp [hdisabled]⟩, he⟩

/-- Every output is registered under its own id. -/
def OutputKeys (s : DisplayState) : Prop :=
  ∀ id r, s.outputs.get? id = some r → r.state.outputId = id

theorem enabledEntries_id (h : OutputKeys s) {id : String}
    (he : (enabledEntries s).get? id = some e) : e.geometry.outputId = id := by
  obtain ⟨r, hr, _, rfl⟩ := enabledEntries_get?.mp he
  exact h id r hr

theorem topologyOutputs_eq (h : OutputKeys s) : topologyOutputs s = (enabledEntries s).values := by
  have hvalues : (s.outputs.values.filter fun r => !r.disabled).map topologyEntry =
      (enabledEntries s).values := by
    simp only [enabledEntries, OrdMap.values, OrdMap.mapVals, OrdMap.filter, List.map_map,
      List.filter_map]
    rfl
  unfold topologyOutputs
  rw [hvalues]
  refine List.Pairwise.insertionSort_eq ?_
  unfold OrdMap.values
  rw [List.pairwise_map]
  refine (enabledEntries s).sorted.imp_of_mem fun {a b} ha hb hlt => ?_
  rw [enabledEntries_id h (OrdMap.mem_entries.mp ha), enabledEntries_id h (OrdMap.mem_entries.mp hb)]
  exact hlt.le

/-- A snapshot gives a subscriber exactly the enabled outputs. -/
theorem ofSnapshot_topologyOutputs (h : OutputKeys s) (sequence : Nat) :
    TopologyView.ofSnapshot sequence (topologyOutputs s) = ⟨sequence, enabledEntries s⟩ := by
  unfold TopologyView.ofSnapshot
  rw [topologyOutputs_eq h]
  congr 1
  have hmem : ∀ e, e ∈ (enabledEntries s).values ↔
      (enabledEntries s).get? e.geometry.outputId = some e := by
    intro e
    rw [OrdMap.mem_values]
    constructor
    · intro he
      obtain ⟨id, hid⟩ := he
      rw [enabledEntries_id h hid]
      exact hid
    · exact fun he => ⟨_, he⟩
  have hunique : ∀ a ∈ (enabledEntries s).values, ∀ b ∈ (enabledEntries s).values,
      a.geometry.outputId = b.geometry.outputId → a = b := by
    intro a ha b hb heq
    have hb' := (hmem b).mp hb
    rw [← heq, (hmem a).mp ha] at hb'
    exact Option.some.inj hb'
  refine OrdMap.ext_get? fun id => ?_
  cases hid : (enabledEntries s).get? id with
  | some e =>
    obtain rfl := enabledEntries_id h hid
    have he := (hmem e).mpr hid
    exact OrdMap.get?_insertAll_mem he fun a ha heq => hunique a ha e he heq
  | none =>
    by_contra hne
    obtain ⟨e, he⟩ := Option.ne_none_iff_exists'.mp hne
    cases OrdMap.get?_insertAll_source he with
    | inl hsource =>
      obtain ⟨he', rfl⟩ := hsource
      rw [(hmem e).mp he'] at hid
      cases hid
    | inr hempty => cases hempty

theorem OutputKeys.of_outputs (h : OutputKeys s) (hs : s'.outputs = s.outputs) :
    OutputKeys s' := fun id r hr => h id r (hs ▸ hr)

theorem enabledEntries_congr (h : s'.outputs = s.outputs) :
    enabledEntries s' = enabledEntries s := by
  unfold enabledEntries
  rw [h]

theorem enabledEntries_insert {id : String} (h : s'.outputs = s.outputs.insert id r)
    (henabled : r.disabled = false) :
    enabledEntries s' = (enabledEntries s).insert id (topologyEntry r) := by
  refine OrdMap.ext_get? fun id' => Option.ext fun e => ?_
  rw [enabledEntries_get?, h, OrdMap.get?_insert, OrdMap.get?_insert]
  split_ifs
  · simp [henabled]
  · exact enabledEntries_get?.symm

theorem enabledEntries_erase {id : String}
    (h : ∀ id' r, (s'.outputs.get? id' = some r ∧ r.disabled = false) ↔
      id' ≠ id ∧ s.outputs.get? id' = some r ∧ r.disabled = false) :
    enabledEntries s' = (enabledEntries s).erase id := by
  refine OrdMap.ext_get? fun id' => Option.ext fun e => ?_
  rw [enabledEntries_get?, OrdMap.get?_erase]
  constructor
  · intro he
    obtain ⟨r, hr, henabled, he⟩ := he
    obtain ⟨hne, hr, henabled⟩ := (h id' r).mp ⟨hr, henabled⟩
    rw [if_neg hne]
    exact enabledEntries_get?.mpr ⟨r, hr, henabled, he⟩
  · intro he
    split_ifs at he with hid
    obtain ⟨r, hr, henabled, he⟩ := enabledEntries_get?.mp he
    obtain ⟨hr, henabled⟩ := (h id' r).mpr ⟨hid, hr, henabled⟩
    exact ⟨r, hr, henabled, he⟩

/-- The entry a connected output gets: the event's, under the rebased generation. -/
def registeredEntry (instanceId displayEpoch : Nat) (id : String) (geometry : OutputGeometry)
    (cadence : PresentationCadence) : OutputTopologyEntry :=
  eventEntry id
    { geometry with
      outputGeneration := rebasedGeneration instanceId geometry.outputGeneration displayEpoch }
    cadence

/-- What an accepted event does to the enabled outputs. -/
def EventEffect (s : DisplayState) (event : BackendOutputEvent) (s' : DisplayState) : Prop :=
  OutputKeys s' ∧
    match event with
    | .connected i id _ geometry cadence =>
      enabledEntries s' =
        (enabledEntries s).insert id (registeredEntry i s.displayEpoch id geometry cadence)
    | .reconfigured i id _ geometry cadence =>
      enabledEntries s' =
        (enabledEntries s).insert id (registeredEntry i s.displayEpoch id geometry cadence)
    | .disabled _ id _ _ => enabledEntries s' = (enabledEntries s).erase id
    | .disconnected _ id _ _ => enabledEntries s' = (enabledEntries s).erase id
    | .backendReset i _ =>
      (∀ id r, s.outputs.get? id = some r → r.disabled = false → r.backendInstanceId = i) →
        enabledEntries s' = OrdMap.empty

variable {β : Type} [DisplayBackend β]

theorem connectOutput_cases (d : Display β) (i : Nat) (id : String) (geometry : OutputGeometry)
    (cadence : PresentationCadence) :
    ((∃ fault, (d.connectOutput i id geometry cadence).2 = .error fault) ∧
        (d.connectOutput i id geometry cadence).1.state = d.state) ∨
      ∃ runtime : OutputRuntime,
        (d.connectOutput i id geometry cadence).1.state.outputs =
            d.state.outputs.insert id runtime ∧
          runtime.disabled = false ∧ runtime.state.outputId = id ∧
          topologyEntry runtime = registeredEntry i d.state.displayEpoch id geometry cadence := by
  unfold Display.connectOutput
  split
  · exact .inl ⟨⟨_, rfl⟩, rfl⟩
  · rename_i nextState hcheck
    split
    · exact .inl ⟨⟨_, rfl⟩, rfl⟩
    · split
      · exact .inl ⟨⟨_, rfl⟩, rfl⟩
      · rename_i bounds hb
        obtain ⟨hid, _, hgeometry⟩ := checkConnected_ok hcheck
        have hname : nextState.outputId = id := by
          rw [hgeometry]
          exact hid
        refine .inr ⟨_, registerOutput_outputs _ _ _, rfl, hname, ?_⟩
        unfold topologyEntry registeredEntry eventEntry connectedRuntime
        dsimp only
        rw [hname, hgeometry]

theorem outputKeys_insert {id : String} (hkeys : OutputKeys s)
    (h : s'.outputs = s.outputs.insert id r) (hid : r.state.outputId = id) : OutputKeys s' := by
  intro id' r' hr'
  rw [h, OrdMap.get?_insert] at hr'
  split_ifs at hr' with hself
  · obtain rfl := Option.some.inj hr'
    exact hid.trans hself.symm
  · exact hkeys id' r' hr'

theorem connectOutput_effect {d d' : Display β} {id : String} {geometry : OutputGeometry}
    {cadence : PresentationCadence} (hkeys : OutputKeys d.state)
    (h : d.connectOutput i id geometry cadence = (d', .ok ())) :
    OutputKeys d'.state ∧ enabledEntries d'.state =
      (enabledEntries d.state).insert id
        (registeredEntry i d.state.displayEpoch id geometry cadence) := by
  cases connectOutput_cases d i id geometry cadence with
  | inl herror =>
    obtain ⟨fault, hfault⟩ := herror.1
    rw [h] at hfault
    cases hfault
  | inr hok =>
    obtain ⟨runtime, houtputs, henabled, hid, hentry⟩ := hok
    rw [h] at houtputs
    exact ⟨outputKeys_insert hkeys houtputs hid,
      hentry ▸ enabledEntries_insert houtputs henabled⟩

theorem outputKeys_modify {id : String} {f : OutputRuntime → OutputRuntime} (hkeys : OutputKeys s)
    (hf : ∀ r, (f r).state = r.state) : OutputKeys (s.modifyOutput id f) := by
  intro id' r' hr'
  cases DisplayState.modifyOutput_origin hr' with
  | inl hother => exact hkeys id' r' hother.2
  | inr hself =>
    obtain ⟨rfl, r, hr, rfl⟩ := hself
    rw [hf r]
    exact hkeys id' r hr

theorem outputKeys_erase (hkeys : OutputKeys s) (id : String) :
    OutputKeys { s with outputs := s.outputs.erase id } := by
  intro id' r hr
  rw [OrdMap.get?_erase] at hr
  split_ifs at hr
  exact hkeys id' r hr

theorem disableOutput_effect {d d' : Display β} {id : String} (hkeys : OutputKeys d.state)
    (h : d.disableOutput i id generation = (d', .ok ())) :
    OutputKeys d'.state ∧ enabledEntries d'.state = (enabledEntries d.state).erase id := by
  unfold Display.disableOutput at h
  split at h
  · cases h
  · rename_i r hr
    split at h
    · cases h
    · obtain rfl := congrArg Prod.fst h
      refine ⟨outputKeys_modify hkeys fun _ => rfl, enabledEntries_erase fun id' r' => ?_⟩
      dsimp only
      rw [DisplayState.modifyOutput_get?]
      split_ifs with hid
      · subst hid
        rw [hr]
        constructor
        · intro h'
          obtain ⟨hr', henabled⟩ := h'
          obtain rfl := Option.some.inj hr'
          cases henabled
        · exact fun h' => absurd rfl h'.1
      · exact ⟨fun h' => ⟨hid, h'⟩, fun h' => h'.2⟩

theorem disconnectOutput_effect {d d' : Display β} {id : String} (hkeys : OutputKeys d.state)
    (h : d.disconnectOutput i id generation = (d', .ok ())) :
    OutputKeys d'.state ∧ enabledEntries d'.state = (enabledEntries d.state).erase id := by
  unfold Display.disconnectOutput at h
  split at h
  · cases h
  · split at h
    · cases h
    · obtain rfl := congrArg Prod.fst h
      refine ⟨outputKeys_erase hkeys id, enabledEntries_erase fun id' r' => ?_⟩
      dsimp only [Display.dropOutput]
      rw [OrdMap.get?_erase]
      split_ifs with hid
      · exact ⟨fun h' => absurd h'.1 (by simp), fun h' => absurd hid h'.1⟩
      · exact ⟨fun h' => ⟨hid, h'⟩, fun h' => h'.2⟩

theorem foldl_dropOutput_outputs (l : List (String × OutputRuntime)) (d : Display β)
    (id : String) :
    (l.foldl (fun d e => Display.dropOutput d e.1 e.2) d).state.outputs.get? id =
      if id ∈ l.map Prod.fst then none else d.state.outputs.get? id := by
  induction l generalizing d with
  | nil => rfl
  | cons e l ih =>
    rw [List.foldl_cons, ih]
    simp only [Display.dropOutput, OrdMap.get?_erase, List.map_cons, List.mem_cons]
    by_cases hl : id ∈ l.map Prod.fst
    · simp [hl]
    · by_cases he : id = e.1 <;> simp [hl, he]

/-- A reset takes away the outputs of its backend, and no others. -/
theorem resetBackend_outputs {d : Display β} {id : String} :
    (d.resetBackend i).state.outputs.get? id = some r ↔
      d.state.outputs.get? id = some r ∧ r.backendInstanceId ≠ i := by
  unfold Display.resetBackend
  rw [foldl_dropOutput_outputs]
  have hmem : id ∈ (d.state.outputs.filter fun _ r => r.backendInstanceId = i).entries.map
      Prod.fst ↔ ∃ r, d.state.outputs.get? id = some r ∧ r.backendInstanceId = i := by
    rw [show (d.state.outputs.filter fun _ r => r.backendInstanceId = i).entries.map Prod.fst =
      (d.state.outputs.filter fun _ r => r.backendInstanceId = i).keys from rfl, OrdMap.mem_keys]
    simp only [OrdMap.get?_filter_eq_some, decide_eq_true_eq]
  constructor
  · intro h
    split_ifs at h with hl
    refine ⟨h, fun hi => hl (hmem.mpr ⟨r, h, hi⟩)⟩
  · intro h
    rw [if_neg, h.1]
    intro hl
    obtain ⟨r', hr', hi⟩ := hmem.mp hl
    obtain rfl := Option.some.inj (h.1.symm.trans hr')
    exact h.2 hi

theorem applyLifecycle_effect {d d' : Display β} (hkeys : OutputKeys d.state)
    (h : d.applyLifecycle event = (d', .ok ())) : EventEffect d.state event d'.state := by
  cases event with
  | connected i id q geometry cadence => exact connectOutput_effect hkeys h
  | reconfigured i id q geometry cadence => exact connectOutput_effect hkeys h
  | disabled i id q generation => exact disableOutput_effect hkeys h
  | disconnected i id q generation => exact disconnectOutput_effect hkeys h
  | backendReset i q =>
    obtain rfl := congrArg Prod.fst h
    refine ⟨fun id r hr => hkeys id r (resetBackend_outputs.mp hr).1, fun hall => ?_⟩
    refine OrdMap.ext_get? fun id => Option.ext fun e => ?_
    rw [enabledEntries_get?]
    constructor
    · intro he
      obtain ⟨r, hr, henabled, _⟩ := he
      obtain ⟨hr, hne⟩ := resetBackend_outputs.mp hr
      exact absurd (hall id r hr henabled) hne
    · intro he
      cases he

theorem applyLifecycle_error {d d' : Display β} (h : d.applyLifecycle event = (d', .error fault)) :
    d'.state = d.state := by
  have hconnect : ∀ i id geometry cadence, d.connectOutput i id geometry cadence =
      (d', .error fault) → d'.state = d.state := by
    intro i id geometry cadence h
    unfold Display.connectOutput at h
    split at h
    · exact (congrArg (·.1.state) h).symm
    · split at h
      · exact (congrArg (·.1.state) h).symm
      · split at h
        · exact (congrArg (·.1.state) h).symm
        · cases h
  cases event with
  | connected i id q geometry cadence => exact hconnect i id geometry cadence h
  | reconfigured i id q geometry cadence => exact hconnect i id geometry cadence h
  | disabled i id q generation =>
    simp only [Display.applyLifecycle, Display.disableOutput] at h
    split at h
    · exact (congrArg (·.1.state) h).symm
    · split at h
      · exact (congrArg (·.1.state) h).symm
      · cases h
  | disconnected i id q generation =>
    simp only [Display.applyLifecycle, Display.disconnectOutput] at h
    split at h
    · exact (congrArg (·.1.state) h).symm
    · split at h
      · exact (congrArg (·.1.state) h).symm
      · cases h
  | backendReset i q => cases h

/-- Is this the event the backend sent last? It is then skipped, but published again. -/
def duplicateEvent (s : DisplayState) (event : BackendOutputEvent) : Prop :=
  s.backendSequences.get? (eventInstanceId event) = some (eventSequence event)

/-- The registry is already as the event announces it. -/
def Announced (s : DisplayState) : BackendOutputEvent → Prop
  | .connected _ id _ geometry cadence =>
    (enabledEntries s).get? id = some (eventEntry id geometry cadence)
  | .reconfigured _ id _ geometry cadence =>
    (enabledEntries s).get? id = some (eventEntry id geometry cadence)
  | .disabled _ id _ _ => (enabledEntries s).get? id = none
  | .disconnected _ id _ _ => (enabledEntries s).get? id = none
  | .backendReset _ _ => enabledEntries s = OrdMap.empty

/-- The registry will be as the event announces it: no generation is rebased, and a
reset takes every enabled output. -/
def TakenLiterally (s : DisplayState) : BackendOutputEvent → Prop
  | .connected i _ _ geometry _ =>
    rebasedGeneration i geometry.outputGeneration s.displayEpoch = geometry.outputGeneration
  | .reconfigured i _ _ geometry _ =>
    rebasedGeneration i geometry.outputGeneration s.displayEpoch = geometry.outputGeneration
  | .backendReset i _ =>
    ∀ id r, s.outputs.get? id = some r → r.disabled = false → r.backendInstanceId = i
  | _ => True

/-- The state whose epoch an event is judged by. -/
def adopted (s : DisplayState) (event : BackendOutputEvent) : DisplayState :=
  (adoptEpoch s (eventInstanceId event)).getD s

def EventAgrees (s : DisplayState) (event : BackendOutputEvent) : Prop :=
  (duplicateEvent s event → Announced s event) ∧
    (¬ duplicateEvent s event → TakenLiterally (adopted s event) event)

theorem adoptEpoch_frame (h : adoptEpoch s i = some s') :
    s'.outputs = s.outputs ∧ s'.backendSequences = s.backendSequences := by
  unfold adoptEpoch at h
  split_ifs at h
  · obtain rfl := Option.some.inj h
    exact ⟨rfl, rfl⟩
  · obtain rfl := Option.some.inj h
    exact ⟨rfl, rfl⟩

theorem insert_announced {id : String} (h : m.get? id = some e) : m.insert id e = m := by
  refine OrdMap.ext_get? fun id' => ?_
  rw [OrdMap.get?_insert]
  split_ifs with hid
  · rw [hid, h]
  · rfl

theorem erase_absent {id : String} (h : m.get? id = none) : m.erase id = m := by
  refine OrdMap.ext_get? fun id' => ?_
  rw [OrdMap.get?_erase]
  split_ifs with hid
  · rw [hid, h]
  · rfl

/-- The delta of an event, replayed over the entries before it, gives those after it. -/
def Follows (s : DisplayState) (event : BackendOutputEvent) (s' : DisplayState) : Prop :=
  ∀ epoch sequence sequence',
    TopologyView.applyDelta ⟨sequence, enabledEntries s⟩ (topologyDelta epoch sequence' event) =
      ⟨sequence', enabledEntries s'⟩

theorem follows_of_effect (h : EventEffect s event s') (hl : TakenLiterally s event) :
    Follows s event s' := by
  intro epoch sequence sequence'
  obtain ⟨_, hentries⟩ := h
  cases event with
  | connected i id q geometry cadence =>
    dsimp only [TakenLiterally] at hl
    dsimp only at hentries
    rw [hentries, registeredEntry, hl]
    rfl
  | reconfigured i id q geometry cadence =>
    dsimp only [TakenLiterally] at hl
    dsimp only at hentries
    rw [hentries, registeredEntry, hl]
    rfl
  | disabled i id q generation =>
    dsimp only at hentries
    rw [hentries]
    rfl
  | disconnected i id q generation =>
    dsimp only at hentries
    rw [hentries]
    rfl
  | backendReset i q =>
    rw [hentries hl]
    rfl

theorem follows_of_announced (h : Announced s event) : Follows s event s := by
  intro epoch sequence sequence'
  cases event with
  | connected i id q geometry cadence => exact congrArg _ (insert_announced h)
  | reconfigured i id q geometry cadence => exact congrArg _ (insert_announced h)
  | disabled i id q generation => exact congrArg _ (erase_absent h)
  | disconnected i id q generation => exact congrArg _ (erase_absent h)
  | backendReset i q => exact congrArg _ (Eq.symm h)

theorem applyInSequence_effect {d d' : Display β} (hkeys : OutputKeys d.state)
    (h : d.applyInSequence event = (d', .ok ())) : EventEffect d.state event d'.state := by
  unfold Display.applyInSequence at h
  split at h
  · cases h
  · rename_i d₁ _ hlife
    obtain rfl := congrArg Prod.fst h
    have heffect := applyLifecycle_effect hkeys hlife
    refine ⟨heffect.1.of_outputs rfl, ?_⟩
    have hentries : enabledEntries (Display.noteSequence d₁.state event) = enabledEntries d₁.state :=
      enabledEntries_congr rfl
    cases event with
    | connected => exact hentries.trans heffect.2
    | reconfigured => exact hentries.trans heffect.2
    | disabled => exact hentries.trans heffect.2
    | disconnected => exact hentries.trans heffect.2
    | backendReset => exact fun hall => hentries.trans (heffect.2 hall)

theorem applyInSequence_error {d d' : Display β}
    (h : d.applyInSequence event = (d', .error fault)) : d'.state = d.state := by
  unfold Display.applyInSequence at h
  split at h
  · rename_i hlife
    obtain rfl := congrArg Prod.fst h
    exact applyLifecycle_error hlife
  · cases h

/-- An accepted event takes the registry where its delta says, when they agree. -/
theorem applyBackendOutputEvent_follows {d d' : Display β} (hkeys : OutputKeys d.state)
    (h : d.applyBackendOutputEvent event = (d', .ok ())) :
    OutputKeys d'.state ∧ (EventAgrees d.state event → Follows d.state event d'.state) ∧
      (duplicateEvent d.state event → d'.state.outputs = d.state.outputs) := by
  unfold Display.applyBackendOutputEvent at h
  split at h
  · cases h
  · rename_i s hs
    obtain ⟨houtputs, hsequences⟩ := adoptEpoch_frame hs
    have hkeys' : OutputKeys s := hkeys.of_outputs houtputs
    have hentries : enabledEntries s = enabledEntries d.state := enabledEntries_congr houtputs
    have hadopted : adopted d.state event = s := by
      rw [adopted, hs]
      rfl
    have hfresh : ¬ duplicateEvent d.state event →
        (⟨s, d.backend⟩ : Display β).applyInSequence event = (d', .ok ()) →
        OutputKeys d'.state ∧ (EventAgrees d.state event → Follows d.state event d'.state) ∧
          (duplicateEvent d.state event → d'.state.outputs = d.state.outputs) := by
      intro hnew happly
      have heffect := applyInSequence_effect hkeys' happly
      refine ⟨heffect.1, fun hagrees => ?_, fun hdup => absurd hdup hnew⟩
      have hfollows := follows_of_effect heffect (hadopted ▸ hagrees.2 hnew)
      unfold Follows at hfollows ⊢
      rw [← hentries]
      exact hfollows
    dsimp only at h
    split at h
    · rename_i hnone
      refine hfresh (fun hdup => ?_) h
      rw [duplicateEvent, ← hsequences, hnone] at hdup
      cases hdup
    · rename_i previous hprevious
      split_ifs at h with hequal hless
      · obtain rfl := congrArg Prod.fst h
        have hdup : duplicateEvent d.state event := by
          rw [duplicateEvent, ← hsequences, hprevious, hequal]
        refine ⟨hkeys', fun hagrees => ?_, fun _ => houtputs⟩
        have hfollows := follows_of_announced (hagrees.1 hdup)
        unfold Follows at hfollows ⊢
        rw [hentries]
        exact hfollows
      · cases h
      · refine hfresh (fun hdup => ?_) h
        rw [duplicateEvent, ← hsequences, hprevious] at hdup
        exact hequal (Option.some.inj hdup).symm

theorem applyBackendOutputEvent_error {d d' : Display β}
    (h : d.applyBackendOutputEvent event = (d', .error fault)) :
    d'.state.outputs = d.state.outputs := by
  unfold Display.applyBackendOutputEvent at h
  split at h
  · obtain rfl := congrArg Prod.fst h
    rfl
  · rename_i s hs
    have houtputs := (adoptEpoch_frame hs).1
    dsimp only at h
    split at h
    · rw [applyInSequence_error h]
      exact houtputs
    · split_ifs at h
      · cases h
      · obtain rfl := congrArg Prod.fst h
        exact houtputs
      · rw [applyInSequence_error h]
        exact houtputs

theorem outputKeys_load (epoch : Nat) (keeps : Bool) (lastScene : Option CommittedSceneState)
    (history : List DisplayEffect) :
    OutputKeys (DisplayState.load epoch (startOutputs keeps) lastScene history) := by
  intro id r hr
  obtain ⟨rfl, rfl⟩ := startOutputs_get? hr
  rfl

theorem OutputKeys.move {P : MovePolicy} (h : OutputKeys s) (hm : Move P s s') : OutputKeys s' := by
  cases hm with
  | refuse _ _ => exact h.of_outputs (by rw [reboundFor, rebind_frame])
  | accept _ _ hr =>
    intro id r hr'
    rw [(accept_committed _ hr).outputs, OrdMap.get?_mapVals, Option.map_eq_some_iff] at hr'
    obtain ⟨r₀, hr₀, rfl⟩ := hr'
    rw [(damageOutput_same _ _ _ _ _).state]
    exact h id r₀ hr₀
  | hydrate _ _ =>
    intro id r hr'
    rw [(hydrate_committed _ _ _ _ _).outputs, OrdMap.get?_mapVals, Option.map_eq_some_iff] at hr'
    obtain ⟨r₀, hr₀, rfl⟩ := hr'
    rw [(damageOutput_same _ _ _ _ _).state]
    exact h id r₀ hr₀
  | quiet hq =>
    intro id r' hr'
    cases DisplayState.modifyOutput_origin hr' with
    | inl hother => exact h id r' hother.2
    | inr hself =>
      obtain ⟨rfl, r, hr, rfl⟩ := hself
      rw [(hq r hr).same.state]
      exact h id r hr
  | submitFailed _ _ _ => exact outputKeys_modify h fun _ => rfl
  | submit _ => exact outputKeys_modify (f := submittedRuntime _ _) h fun _ => rfl
  | present _ _ =>
    obtain ⟨_, _, _, _, _, houtputs⟩ := presentOutput_frame s _ _ _
    exact (outputKeys_modify h fun r => (presentRuntime_same _ r).state).of_outputs houtputs
  | fail _ _ => exact outputKeys_modify h fun r => (failRuntime_same _ r).state
  | connect _ hid => exact outputKeys_insert h (registerOutput_outputs _ _ _) hid
  | disable _ => exact outputKeys_modify h fun _ => rfl
  | drop _ => exact outputKeys_erase h _
  | retireAll =>
    intro id r hr'
    rw [OrdMap.get?_mapVals, Option.map_eq_some_iff] at hr'
    obtain ⟨r₀, hr₀, rfl⟩ := hr'
    exact h id r₀ hr₀
  | clearFeedbacks => exact h
  | clearOutputs _ =>
    intro id r hr
    cases hr
  | bookkeeping hc => exact h.of_outputs hc.outputs
  | restart _ => exact outputKeys_load _ _ _ _

theorem outline_eq {r' : OutputRuntime} (h : r.SameOutput r') :
    r'.disabled = r.disabled ∧ topologyEntry r' = topologyEntry r := by
  refine ⟨h.disabled, ?_⟩
  unfold topologyEntry
  rw [h.state, h.cadence]

/-- The topology is that of the registered outputs. -/
theorem enabledEntries_of_same (h : SameOutputs s s') : enabledEntries s' = enabledEntries s := by
  refine OrdMap.ext_get? fun id => Option.ext fun e => ?_
  obtain ⟨f, hf, hsame⟩ := h id
  rw [enabledEntries_get?, enabledEntries_get?, hf]
  cases hr : s.outputs.get? id with
  | none => simp
  | some r =>
    obtain ⟨hdisabled, hentry⟩ := outline_eq (hsame r hr)
    simp only [Option.map_some, Option.some.injEq, exists_eq_left', hdisabled, hentry]

/-- Scenes and frames leave the topology alone. -/
theorem enabledEntries_move (hm : Move (freely False) s s') :
    enabledEntries s' = enabledEntries s := enabledEntries_of_same (.move hm)

/-- An event that no delta announces must change nothing. -/
def EventUnseen (d : Display β) (event : BackendOutputEvent) : Prop :=
  ∀ d', d.applyBackendOutputEvent event = (d', .ok ()) →
    duplicateEvent d.state event ∨ Announced d.state event

theorem eventUnseen_entries {d : Display β} (hkeys : OutputKeys d.state)
    (h0 : eventInstanceId event = 0) (hreset : ∀ i q, event ≠ .backendReset i q)
    (h : EventUnseen d event) :
    enabledEntries (d.applyBackendOutputEvent event).1.state = enabledEntries d.state := by
  cases happly : d.applyBackendOutputEvent event with
  | mk d' result =>
    cases result with
    | error fault => exact enabledEntries_congr (applyBackendOutputEvent_error happly)
    | ok u =>
      obtain ⟨_, hfollows, hdup⟩ := applyBackendOutputEvent_follows hkeys happly
      cases h d' happly with
      | inl hd => exact enabledEntries_congr (hdup hd)
      | inr ha =>
        have hliteral : TakenLiterally (adopted d.state event) event := by
          cases event with
          | backendReset i q => exact absurd rfl (hreset i q)
          | connected i id q geometry cadence =>
            dsimp only [eventInstanceId] at h0
            subst h0
            rfl
          | reconfigured i id q geometry cadence =>
            dsimp only [eventInstanceId] at h0
            subst h0
            rfl
          | _ => trivial
        have h₁ := hfollows ⟨fun _ => ha, fun _ => hliteral⟩ 0 0 0
        have h₂ := follows_of_announced ha 0 0 0
        exact congrArg TopologyView.outputs (h₁.symm.trans h₂)

/-- What the topology condition asks of a command while there are subscribers. -/
def CommandAgrees (d : Display β) : DisplayCommand → Prop
  | .configureOutput geometry =>
    EventUnseen d (.reconfigured 0 geometry.outputId (Display.commandSequence d.state)
      geometry ⟨16666667⟩)
  | .removeOutput id generation =>
    EventUnseen d (.disconnected 0 id (Display.commandSequence d.state) generation)
  | .beginReconciliation epoch =>
    d.state.displayEpoch < epoch → enabledEntries d.state = OrdMap.empty
  | _ => True

theorem outputCommand_state (d : Display β) (event : BackendOutputEvent) (done : DisplayEvent) :
    (d.outputCommand event done).1 = (d.applyBackendOutputEvent event).1 := by
  unfold Display.outputCommand
  split
  · rename_i hd
    rw [hd]
  · rename_i hd
    rw [hd]
  · rename_i hd
    rw [hd]

theorem beginReconciliation_entries {d : Display β} {epoch : Nat}
    (h : d.state.displayEpoch < epoch → enabledEntries d.state = OrdMap.empty) :
    enabledEntries (d.beginReconciliation epoch).1.state = enabledEntries d.state := by
  have hretired : enabledEntries d.retireAllRuntimeSubmissions.state = enabledEntries d.state :=
    enabledEntries_move .retireAll
  unfold Display.beginReconciliation
  dsimp only
  split
  · exact hretired
  · rename_i s hs
    unfold beginRestart at hs
    split_ifs at hs with hless hequal
    · obtain rfl := Except.ok.inj hs
      exact hretired
    · obtain rfl := Except.ok.inj hs
      have hepoch : d.state.displayEpoch < epoch :=
        lt_of_le_of_ne (not_lt.mp hless) fun heq => hequal heq.symm
      exact (h hepoch).symm

theorem handleDisplayCommand_entries {d : Display β} (env : Env) (source : ServiceRole)
    (topologySequence : Nat) {command : DisplayCommand} (hone : SingleOutput d.state)
    (hkeys : OutputKeys d.state) (h : CommandAgrees d command) :
    enabledEntries (d.handleDisplayCommand env source topologySequence command).1.state =
      enabledEntries d.state := by
  have hfree : ¬ ChangesRegistry command →
      enabledEntries (d.handleDisplayCommand env source topologySequence command).1.state =
        enabledEntries d.state := fun hno =>
    (handleDisplayCommand_moves d env source topologySequence command hone
      (commandAllowed_freely fun hyes => hno hyes)).invariant
      (fun _ _ heq hm => (enabledEntries_move hm).trans heq) rfl
  cases command with
  | configureOutput geometry =>
    dsimp only [Display.handleDisplayCommand, Display.configureOutput]
    rw [outputCommand_state]
    exact eventUnseen_entries hkeys rfl (fun _ _ => by simp) h
  | removeOutput id generation =>
    dsimp only [Display.handleDisplayCommand, Display.removeOutputCommand]
    rw [outputCommand_state]
    exact eventUnseen_entries hkeys rfl (fun _ _ => by simp) h
  | beginReconciliation epoch => exact beginReconciliation_entries h
  | _ => exact hfree fun hyes => hyes

namespace Server

variable {srv srv' : Server β}

/-- Every subscriber holds the registry's view. -/
def SubscribersAgree (srv : Server β) : Prop :=
  ∀ sub ∈ srv.subscribers,
    sub.view = ⟨srv.topologySequence, enabledEntries srv.display.state⟩

/-- What the topology condition asks of the events of a connection: what is delivered
to a subscriber describes the registry, and the sequence does not wrap. -/
def EventsAgree (accepting : Nat → Bool) : Server β → List BackendOutputEvent → Prop
  | _, [] => True
  | srv, event :: rest =>
    ∀ d, srv.display.applyBackendOutputEvent event = (d, .ok ()) →
      ((∃ sub ∈ srv.subscribers, accepting sub.id = true) →
          srv.topologySequence < u64Max ∧ EventAgrees srv.display.state event) ∧
        ∀ srv', publishTopologyDelta { srv with display := d } accepting event = (srv', .ok ()) →
          EventsAgree accepting srv' rest

theorem view_push (sub : TopologySubscriber) (delta : OutputTopologyDelta) :
    ({ sub with deltas := sub.deltas ++ [delta] } : TopologySubscriber).view =
      sub.view.applyDelta delta := by
  unfold TopologySubscriber.view
  rw [List.foldl_append]
  rfl

omit [DisplayBackend β] in
theorem publish_error (h : publishTopologyDelta srv accepting event = (srv', .error fault)) :
    ∃ message, fault = .panic message := by
  unfold publishTopologyDelta at h
  dsimp only at h
  split at h
  · exact ⟨_, (Except.error.inj (congrArg Prod.snd h)).symm⟩
  · cases h

omit [DisplayBackend β] in
theorem publish_agrees {d : Display β} (hsubs : SubscribersAgree srv)
    (hfollows : (∃ sub ∈ srv.subscribers, accepting sub.id = true) →
      srv.topologySequence < u64Max ∧ Follows srv.display.state event d.state)
    (h : publishTopologyDelta { srv with display := d } accepting event = (srv', .ok ())) :
    SubscribersAgree srv' ∧ srv'.display = d := by
  unfold publishTopologyDelta at h
  dsimp only at h
  split at h
  · cases h
  · obtain rfl := congrArg Prod.fst h
    refine ⟨fun sub hsub => ?_, rfl⟩
    obtain ⟨sub₀, hsub₀, rfl⟩ := List.mem_map.mp hsub
    obtain ⟨hmem, haccept⟩ := List.mem_filter.mp hsub₀
    obtain ⟨hseq, hfollow⟩ := hfollows ⟨sub₀, hmem, haccept⟩
    rw [view_push, hsubs sub₀ hmem, hfollow]
    dsimp only
    rw [if_neg (by omega), min_eq_left (by omega)]

/-- Events keep the subscribers in step, unless the process dies of one. -/
theorem applyEvents_agrees {events : List BackendOutputEvent} {result : Except Fault Unit}
    (hkeys : OutputKeys srv.display.state) (hsubs : SubscribersAgree srv)
    (hagree : EventsAgree accepting srv events)
    (h : applyEvents accepting srv events = (srv', result)) (halive : isPanic result = false) :
    SubscribersAgree srv' := by
  induction events generalizing srv with
  | nil =>
    obtain rfl := congrArg Prod.fst h
    exact hsubs
  | cons event rest ih =>
    unfold applyEvents at h
    split at h
    · rename_i d fault happly
      obtain rfl := congrArg Prod.fst h
      intro sub hsub
      rw [hsubs sub hsub, enabledEntries_congr (applyBackendOutputEvent_error happly)]
    · rename_i d _ happly
      obtain ⟨hevent, hrest⟩ := hagree d happly
      obtain ⟨hkeys', hfollows, _⟩ := applyBackendOutputEvent_follows hkeys happly
      split at h
      · rename_i hpublish
        obtain ⟨message, rfl⟩ := publish_error hpublish
        obtain rfl := congrArg Prod.snd h
        cases halive
      · rename_i srv₁ _ hpublish
        obtain ⟨hsubs₁, hdisplay⟩ := publish_agrees hsubs (fun hsome =>
          ⟨(hevent hsome).1, hfollows (hevent hsome).2⟩) hpublish
        exact ih (hdisplay ▸ hkeys') hsubs₁ (hrest srv₁ hpublish) h

/-- The steps under which deltas describe the registry. -/
def TopologyStep (srv : Server β) : Input β → Prop
  | .client conn =>
    EventsAgree conn.accepting srv.polled.1 srv.polled.2 ∧
      ∀ srv' command, applyEvents conn.accepting srv.polled.1 srv.polled.2 = (srv', .ok ()) →
        conn.request = some (.command command) → srv'.subscribers ≠ [] →
        CommandAgrees srv'.display command
  | .restart .. => True

omit [DisplayBackend β] in
theorem subscribe_agrees (hkeys : OutputKeys srv.display.state) (h : SubscribersAgree srv)
    (epoch sequence : Nat) : SubscribersAgree (srv.subscribe epoch sequence).1 := by
  unfold subscribe
  dsimp only
  split_ifs
  · exact h
  · exact h
  · intro sub hsub
    cases List.mem_append.mp hsub with
    | inl hold => exact h sub hold
    | inr hnew =>
      obtain rfl := List.mem_singleton.mp hnew
      exact ofSnapshot_topologyOutputs hkeys _

theorem handleClient_agrees {conn : Connection} (hone : SingleOutput srv.display.state)
    (hkeys : OutputKeys srv.display.state) (h : SubscribersAgree srv)
    (hstep : TopologyStep srv (.client conn)) (halive : isPanic (srv.handleClient conn).2 = false) :
    SubscribersAgree (srv.handleClient conn).1 := by
  have hmoves := applyEvents_moves (P := anyMove) trivial conn.accepting srv.polled.1 srv.polled.2
  obtain ⟨hevents, hcommand⟩ := hstep
  have hkeysPolled : OutputKeys srv.polled.1.display.state := hkeys
  have hpolled : SubscribersAgree srv.polled.1 := h
  unfold handleClient at halive ⊢
  dsimp only at halive ⊢
  split
  · rename_i srv' fault he
    rw [he] at halive
    have hfault : isPanic (.error fault : Except Fault Unit) = false := by
      cases fault with
      | error reason => rfl
      | panic message => cases halive
    exact applyEvents_agrees hkeysPolled hpolled hevents he hfault
  · rename_i srv' _ he
    rw [he] at hmoves halive
    have hkeys' : OutputKeys srv'.display.state := hmoves.invariant (fun _ _ h hm => h.move hm) hkeys
    have hone' : SingleOutput srv'.display.state := hmoves.invariant (fun _ _ h hm => h.move hm) hone
    have hdone : isPanic (.ok () : Except Fault Unit) = false := rfl
    have hagree' : SubscribersAgree srv' :=
      applyEvents_agrees hkeysPolled hpolled hevents he hdone
    split
    · exact hagree'
    · rename_i request hrequest
      cases request with
      | subscribe epoch sequence => exact subscribe_agrees hkeys' hagree' epoch sequence
      | command command =>
        intro sub hsub
        replace hsub : sub ∈ srv'.subscribers := hsub
        have hsome : srv'.subscribers ≠ [] := List.ne_nil_of_mem hsub
        have hentries := handleDisplayCommand_entries conn.env conn.source srv'.topologySequence
          hone' hkeys' (hcommand srv' command he hrequest hsome)
        rw [hagree' sub hsub, ← hentries]
        rfl

theorem topology_run (h : (system β).Reach TopologyStep srv) :
    OutputKeys srv.display.state ∧ (srv.halted = false → SubscribersAgree srv) := by
  have hbase : ∀ srv : Server β, (system β).Reach TopologyStep srv →
      SingleOutput srv.display.state ∧ OutputKeys srv.display.state := by
    intro srv h
    have hany := Run.any h.reachable
    exact ⟨singleOutput_run (P := anyMove) trivial hany, hany.invariant trivial
      (fun epoch keeps => outputKeys_load epoch keeps none []) fun _ _ _ hk hm => hk.move hm⟩
  refine ⟨(hbase srv h).2, ?_⟩
  refine System.Reach.invariant_with (I := fun srv => srv.halted = false → SubscribersAgree srv)
    hbase ?_ ?_ h
  · rintro _ ⟨epoch, keeps, backend, rfl⟩ _ sub hsub
    cases hsub
  · intro srv input hJ hI hstep halive
    cases input with
    | restart epoch keeps backend =>
      intro sub hsub
      cases hsub
    | client conn =>
      dsimp only [system, step] at halive ⊢
      split_ifs at halive ⊢ with hhalted
      · rw [hhalted] at halive
        cases halive
      · exact handleClient_agrees hJ.1 hJ.2 (hI ((Bool.not_eq_true _).mp hhalted)) hstep halive

/-- A subscriber holds the topology that would be answered, with its sequence. -/
theorem topology_law (srv : Server β) (h : (system β).Reach TopologyStep srv)
    (halive : srv.halted = false) (sub : TopologySubscriber) (hsub : sub ∈ srv.subscribers) :
    sub.view.outputs.values = topologyOutputs srv.display.state ∧
      sub.view.sequence = srv.topologySequence := by
  obtain ⟨hkeys, hagree⟩ := topology_run h
  rw [hagree halive sub hsub, topologyOutputs_eq hkeys]
  exact ⟨rfl, rfl⟩

/-- A monitor connected after the subscription. -/
theorem topology_law_connected :
    (⟨1, 1, 0, [], [topologyDelta 1 1 (pixelConnected 0)]⟩ : TopologySubscriber).view.outputs.values =
      topologyOutputs (serve (β := MockDisplayBackend) { outputEvents := [[], [pixelConnected 0]] }
        [.subscribe 1 0, .command .getOutputTopology]).display.state := by
  have hinit : (system MockDisplayBackend).Reach TopologyStep
      (serve { outputEvents := [[], [pixelConnected 0]] } []) := .init ⟨1, false, _, rfl⟩
  have hsubscribed := hinit.next (.client { request := some (.subscribe 1 0) }) <| by
    refine ⟨trivial, fun srv' command _ hrequest => ?_⟩
    cases hrequest
  have hconnected := hsubscribed.next (.client { request := some (.command .getOutputTopology) }) <| by
    refine ⟨fun d hd => ⟨fun _ => ⟨by decide, fun hdup => ?_, fun _ => rfl⟩, fun _ _ => trivial⟩,
      fun srv' command _ hrequest _ => ?_⟩
    · cases hdup
    · cases hrequest
      trivial
  exact (topology_law _ hconnected rfl _ (List.mem_singleton.mpr rfl)).1

/-- Configuring an output for a subscriber publishes nothing. -/
theorem topology_diverges : ¬ ∀ srv : Server MockDisplayBackend, (system _).Reachable srv →
    srv.halted = false → ∀ sub ∈ srv.subscribers,
      sub.view.outputs.values = topologyOutputs srv.display.state ∧
        sub.view.sequence = srv.topologySequence := by
  intro h
  have hreach := serve_reachable MockDisplayBackend.production
    [.subscribe 1 0, .command (.configureOutput pixelGeometry)]
  have hdiffers := (h _ hreach rfl ⟨1, 1, 0, [], []⟩ (List.mem_singleton.mpr rfl)).1
  cases hdiffers

end Server

end TuffXwin.Displayd
