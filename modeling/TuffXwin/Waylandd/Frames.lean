import TuffXwin.Waylandd.Resolution

/-! Presented frames: which callbacks are done, which feedbacks are presented or
discarded, and what the client reads as the time of the frame. -/

namespace TuffXwin.Waylandd
open Lib WaylandWire

variable {key : Nat ×ₗ Nat} {object : PendingObject}
variable {a b : ProductionClient}

/-- The seconds carry the nanoseconds: the time that is read is right at zero only. -/
theorem presentedTimestamp_presented (id refreshNs seq flags : Nat) {timestamp : Nat}
    (h : timestamp ≤ u64Max) :
    presentedTimestamp (encodeEvent id 1 (presentedArgs timestamp refreshNs seq flags)).payload =
      timestamp * 1000000000 + timestamp % 1000000000 := by
  have hpayload : (encodeEvent id 1 (presentedArgs timestamp refreshNs seq flags)).payload =
      writeU32 (timestamp / 4294967296) ++ (writeU32 (timestamp % 4294967296) ++
        (writeU32 (timestamp % 1000000000) ++ ([.uint refreshNs, .uint (seq / 4294967296),
          .uint (seq % 4294967296), .uint flags] : List WireArg).flatMap encodeArg)) := rfl
  have hmax : u64Max = 18446744073709551615 := rfl
  unfold presentedTimestamp
  rw [hpayload, drop_writeU32 _ 0, drop_writeU32 _ 4, List.drop_zero, drop_writeU32 _ 0,
    List.drop_zero, readU32_append, readU32_append, readU32_append]
  omega

def ProductionClient.withCallbacks (client : ProductionClient) (table : PendingObjects) :
    ProductionClient :=
  { client with pendingCallbacks := table }

def ProductionClient.withFeedbacks (client : ProductionClient) (table : PendingObjects) :
    ProductionClient :=
  { client with pendingFeedbacks := table }

section Tables

variable {clean : Bool} {client : ProductionClient} {interface : String} {table : PendingObjects}

theorem TableOk.filter (h : TableOk client interface table) (p : PendingObject → Bool) :
    TableOk client interface (table.filter fun _ object => p object) :=
  fun key object hget => h key object (OrdMap.get?_filter_eq_some.mp hget).1

theorem mem_objectIds {id : Nat} :
    id ∈ table.objectIds ↔ ∃ key object, table.get? key = some object ∧ object.objectId = id := by
  unfold PendingObjects.objectIds
  simp only [List.mem_map, OrdMap.mem_values]
  constructor
  · rintro ⟨object, ⟨key, hget⟩, hid⟩
    exact ⟨key, object, hget, hid⟩
  · rintro ⟨key, object, hget, hid⟩
    exact ⟨object, ⟨key, hget⟩, hid⟩

theorem TableOk.key_eq (h : TableOk client interface table) {key' : Nat ×ₗ Nat}
    {object' : PendingObject} (hget : table.get? key = some object)
    (hget' : table.get? key' = some object') (hid : object.objectId = object'.objectId) :
    key = key' := by
  rw [(h key object hget).1, (h key' object' hget').1, hid]

theorem TableOk.nodup_objectIds (h : TableOk client interface table) :
    table.objectIds.Nodup := by
  unfold PendingObjects.objectIds OrdMap.values
  rw [List.map_map]
  refine List.Nodup.map_on (fun e he e' he' hid => ?_) (OrdMap.nodup_entries table)
  have hget := OrdMap.mem_entries.mp he
  have hget' := OrdMap.mem_entries.mp he'
  have hkey := h.key_eq hget hget' hid
  rw [hkey, hget'] at hget
  exact Prod.ext hkey (Option.some.inj hget).symm

/-- An object taken out of the table of callbacks is in no other place. -/
theorem ClientOk.loose_callback (h : ClientOk clean client)
    (hget : client.pendingCallbacks.get? key = some object)
    (hout : ∀ key' object', table.get? key' = some object' →
      client.pendingCallbacks.get? key' = some object' ∧ key' ≠ key) :
    Loose (client.withCallbacks table) object.objectId := by
  have hstanding := (h.callbacks key object hget).2.2
  refine ⟨fun s surface hsurface hmem => ?_, fun s hfeedback => ?_, fun key' object' hget' hid => ?_,
    fun key' object' hget' hid => ?_⟩
  · have hboth := hstanding.unique (h.uncommitted.callbacks s surface _ hsurface hmem)
    simp [Life.pending, Life.fresh] at hboth
  · have hboth := hstanding.unique (h.uncommitted.feedbacks _ s hfeedback)
    simp at hboth
  · obtain ⟨hbefore, hne⟩ := hout key' object' hget'
    exact hne (h.callbacks.key_eq hbefore hget hid)
  · have hother := (h.feedbacks key' object' hget').2.2
    rw [hid] at hother
    have hboth := hstanding.unique hother
    simp at hboth

theorem ClientOk.loose_feedback (h : ClientOk clean client)
    (hget : client.pendingFeedbacks.get? key = some object)
    (hout : ∀ key' object', table.get? key' = some object' →
      client.pendingFeedbacks.get? key' = some object' ∧ key' ≠ key) :
    Loose (client.withFeedbacks table) object.objectId := by
  have hstanding := (h.feedbacks key object hget).2.2
  refine ⟨fun s surface hsurface hmem => ?_, fun s hfeedback => ?_, fun key' object' hget' hid => ?_,
    fun key' object' hget' hid => ?_⟩
  · have hboth := hstanding.unique (h.uncommitted.callbacks s surface _ hsurface hmem)
    simp at hboth
  · have hboth := hstanding.unique (h.uncommitted.feedbacks _ s hfeedback)
    simp [Life.pending, Life.fresh] at hboth
  · have hother := (h.callbacks key' object' hget').2.2
    rw [hid] at hother
    have hboth := hstanding.unique hother
    simp at hboth
  · obtain ⟨hbefore, hne⟩ := hout key' object' hget'
    exact hne (h.feedbacks.key_eq hbefore hget hid)

/-- The callbacks that satisfy `p` are taken in hand. -/
theorem ClientOk.take_callbacks (h : ClientOk clean client) (p : PendingObject → Bool) :
    ClientOk clean
      (client.withCallbacks (client.pendingCallbacks.filter fun _ object => !p object)) ∧
    InHand (client.withCallbacks (client.pendingCallbacks.filter fun _ object => !p object))
      "wl_callback"
      (fun l => ∃ key object, client.pendingCallbacks.get? key = some object ∧ p object = true ∧
        l = .pending "wl_callback" object.sceneGeneration object.intersectingOutputs)
      (PendingObjects.objectIds (client.pendingCallbacks.filter fun _ object => p object)) := by
  have hout : ∀ key object, client.pendingCallbacks.get? key = some object → p object = true →
      ∀ key' object',
        (client.pendingCallbacks.filter fun _ object => !p object).get? key' = some object' →
        client.pendingCallbacks.get? key' = some object' ∧ key' ≠ key := by
    intro key object hget hp key' object' hget'
    obtain ⟨hbefore, hnot⟩ := OrdMap.get?_filter_eq_some.mp hget'
    refine ⟨hbefore, fun heq => ?_⟩
    rw [heq, hget] at hbefore
    obtain rfl := Option.some.inj hbefore
    simp [hp] at hnot
  refine ⟨⟨h.ok, h.settled, h.uncommitted, h.callbacks.filter _, h.feedbacks,
    fun hclean key object hget => h.anchored hclean key object
      (OrdMap.get?_filter_eq_some.mp hget).1⟩, ⟨(h.callbacks.filter p).nodup_objectIds,
    fun id hid => ?_, fun id hid => ?_⟩⟩
  · obtain ⟨key, object, hget, rfl⟩ := mem_objectIds.mp hid
    obtain ⟨hbefore, hp⟩ := OrdMap.get?_filter_eq_some.mp hget
    exact h.loose_callback hbefore (hout key object hbefore hp)
  · obtain ⟨key, object, hget, rfl⟩ := mem_objectIds.mp hid
    obtain ⟨hbefore, hp⟩ := OrdMap.get?_filter_eq_some.mp hget
    exact ⟨_, (h.callbacks key object hbefore).2.2, key, object, hbefore, hp, rfl⟩

/-- Of the feedbacks that satisfy `p`, those that also satisfy `q` are taken in hand. -/
theorem ClientOk.take_feedbacks (h : ClientOk clean client) (p q : PendingObject → Bool) :
    ClientOk clean
      (client.withFeedbacks (client.pendingFeedbacks.filter fun _ object => !p object)) ∧
    InHand (client.withFeedbacks (client.pendingFeedbacks.filter fun _ object => !p object))
      "wp_presentation_feedback"
      (fun l => ∃ key object, client.pendingFeedbacks.get? key = some object ∧
        (p object && q object) = true ∧
        l = .pending "wp_presentation_feedback" object.sceneGeneration object.intersectingOutputs)
      (PendingObjects.objectIds
        (client.pendingFeedbacks.filter fun _ object => p object && q object)) := by
  have hout : ∀ key object, client.pendingFeedbacks.get? key = some object →
      (p object && q object) = true → ∀ key' object',
        (client.pendingFeedbacks.filter fun _ object => !p object).get? key' = some object' →
        client.pendingFeedbacks.get? key' = some object' ∧ key' ≠ key := by
    intro key object hget hp key' object' hget'
    obtain ⟨hbefore, hnot⟩ := OrdMap.get?_filter_eq_some.mp hget'
    refine ⟨hbefore, fun heq => ?_⟩
    rw [heq, hget] at hbefore
    obtain rfl := Option.some.inj hbefore
    simp only [Bool.and_eq_true] at hp
    simp [hp.1] at hnot
  refine ⟨⟨h.ok, h.settled, h.uncommitted, h.callbacks, h.feedbacks.filter _, h.anchored⟩,
    ⟨(h.feedbacks.filter fun object => p object && q object).nodup_objectIds,
    fun id hid => ?_, fun id hid => ?_⟩⟩
  · obtain ⟨key, object, hget, rfl⟩ := mem_objectIds.mp hid
    obtain ⟨hbefore, hp⟩ := OrdMap.get?_filter_eq_some.mp hget
    exact h.loose_feedback hbefore (hout key object hbefore hp)
  · obtain ⟨key, object, hget, rfl⟩ := mem_objectIds.mp hid
    obtain ⟨hbefore, hp⟩ := OrdMap.get?_filter_eq_some.mp hget
    exact ⟨_, (h.feedbacks key object hbefore).2.2, key, object, hbefore, hp, rfl⟩

end Tables

/-- What a client keeps while a frame is reported to it. -/
structure SameClient (client client' : ProductionClient) : Prop where
  clientId : client'.clientId = client.clientId
  projection : client'.liveProjection = client.liveProjection
  observed : client'.lastObservedPresentationGeneration =
    client.lastObservedPresentationGeneration

theorem SameClient.trans {c : ProductionClient} (h : SameClient a b) (h' : SameClient b c) :
    SameClient a c :=
  ⟨h'.clientId.trans h.clientId, h'.projection.trans h.projection,
    h'.observed.trans h.observed⟩

theorem Advanced.sameClient {clean : Bool} {gone : Nat → Prop} (h : Advanced clean gone a b) :
    SameClient a b := by
  rw [h.same]
  exact ⟨rfl, rfl, rfl⟩

/-- The event reports a presented frame, and its time. -/
def Reports (event : DisplayEvent) (timestamp : Nat) : Prop :=
  ∃ commitId refreshNs seq flags,
    event = .framePresented commitId timestamp refreshNs seq flags

/-- The frame that is reported finds no feedback that would be discarded, and none to
present unless its time is zero. -/
def QuietFrame (client : ProductionClient) (generation : Nat) (outputId : String)
    (timestamp : Nat) : Prop :=
  ∀ key object, client.pendingFeedbacks.get? key = some object →
    ¬ object.sceneGeneration < generation ∧
      (object.sceneGeneration = generation → object.intersects outputId = true → timestamp = 0)

/-- The client after it was told of a presented frame. -/
def ProductionClient.told (client : ProductionClient) (generation : Nat) (outputId : String)
    (timestamp : Nat) : ProductionClient :=
  { client with core := client.core.noted (.notified generation outputId timestamp) }

section Release

variable {clean : Bool} {client : ProductionClient}

section

variable (h : ClientOk clean client) (generation : Nat)
include h

theorem notify_step (outputId : String) (timestamp : Nat) :
    Triple (fun w => w = client) (onCore (note (.notified generation outputId timestamp)))
      (fun _ w => w = client.told generation outputId timestamp ∧ ClientOk clean w)
      fun _ => False := by
  refine onCore_triple (Triple.modify fun core hcore => ?_)
  subst hcore
  have hother : ∀ id, ¬ Concerns id (.notified generation outputId timestamp) := fun _ hno => hno
  have hkeeps : Keeps (fun _ => False) client.core
      (client.core.noted (.notified generation outputId timestamp)) :=
    fun _ _ id _ hstanding _ => hstanding.of_same rfl
      (life_other (hother id) _)
  exact ⟨rfl, h.withCore (fun _ hg => hg.elim) (h.ok.noted_notified _ _ _)
    ⟨h.settled.retired, h.settled.queued⟩ hkeeps rfl rfl⟩

theorem releasePresentedCallbacks_spec (presentation : DisplayEvent) (outputId : String) :
    Triple (fun w => w = client) (releasePresentedCallbacks generation presentation outputId)
      (fun _ w => ClientOk clean w ∧ SameClient client w ∧
        w.pendingFeedbacks = client.pendingFeedbacks)
      fun w => TraceLaw clean w.core.trace := by
  cases presentation with
  | framePresented commitId timestamp refreshNs seq flags =>
    refine Triple.bind ((notify_step h generation outputId timestamp).imp (fun _ _ hw => hw)
      fun _ hw => hw.elim) fun _ => Triple.get_bind fun w hw => ?_
    obtain ⟨hw, hok⟩ := hw
    obtain ⟨htaken, hin⟩ :=
      hok.take_callbacks (PendingFrameCallbacks.isDue w.clientId generation outputId)
    refine Triple.bind (Q := fun _ s => s = w.withCallbacks (w.pendingCallbacks.filter
      fun _ object => !PendingFrameCallbacks.isDue w.clientId generation outputId object))
      (Triple.set rfl) fun _ => ?_
    refine (advance_forM htaken (.inr (.inl rfl)) hin fun id w' l hok' hloose hstanding hP
      hnotified => ?_).imp (fun _ s hs => ⟨hs.ok, ?_, ?_⟩) fun _ hs => hs
    · obtain ⟨key, object, hget, hdue, rfl⟩ := hP
      simp only [PendingFrameCallbacks.isDue, decide_eq_true_eq] at hdue
      refine deliver_step hok' (.new id 0 (writeU32 0)) hloose hstanding rfl
        (.inl ⟨rfl, rfl⟩) ⟨generation, outputId, timestamp, object.sceneGeneration,
          object.intersectingOutputs, ?_, rfl, hdue.2.1, ?_, trivial⟩
      · rw [hnotified, hw]
        rfl
      · simpa [PendingObject.intersects] using hdue.2.2
    · refine SameClient.trans ?_ hs.sameClient
      rw [hw]
      exact ⟨rfl, rfl, rfl⟩
    · rw [hs.same]
      change w.pendingFeedbacks = _
      rw [hw]
      rfl
  | _ => exact Triple.pure fun w hw => by rw [hw]; exact ⟨h, ⟨rfl, rfl, rfl⟩, rfl⟩

theorem releasePresentationFeedbacks_spec (presentation : DisplayEvent) (outputId : String)
    (hquiet : clean = true → ∀ timestamp, Reports presentation timestamp →
      QuietFrame client generation outputId timestamp) :
    Triple (fun w => w = client) (releasePresentationFeedbacks generation presentation outputId)
      (fun _ w => ClientOk clean w ∧ SameClient client w) fun w => TraceLaw clean w.core.trace := by
  cases presentation with
  | framePresented commitId timestamp refreshNs seq flags =>
    refine Triple.bind ((notify_step h generation outputId timestamp).imp (fun _ _ hw => hw)
      fun _ hw => hw.elim) fun _ => Triple.get_bind fun w hw => ?_
    obtain ⟨hw, hok⟩ := hw
    have hquiet' : clean = true → QuietFrame w generation outputId timestamp := by
      intro hclean
      rw [hw]
      exact hquiet hclean timestamp ⟨commitId, refreshNs, seq, flags, rfl⟩
    set due := PendingPresentationFeedbacks.isDue w.clientId generation outputId with hdue
    set shown := PendingPresentationFeedbacks.isPresented generation outputId with hshown
    obtain ⟨htaken, hpresented⟩ := hok.take_feedbacks due shown
    obtain ⟨_, hdiscarded⟩ := hok.take_feedbacks due fun object => !shown object
    refine Triple.bind (Q := fun _ s => s = w.withFeedbacks
      (w.pendingFeedbacks.filter fun _ object => !due object)) (Triple.set rfl) fun _ => ?_
    refine Triple.bind (advance_forM htaken (.inr (.inr rfl)) hpresented
      fun id w' l hok' hloose hstanding hP hnotified => ?_) fun _ => Triple.each fun w₁ h₁ => ?_
    · obtain ⟨key, object, hget, hboth, rfl⟩ := hP
      simp only [hdue, hshown, PendingPresentationFeedbacks.isDue,
        PendingPresentationFeedbacks.isPresented, Bool.and_eq_true, decide_eq_true_eq] at hboth
      refine deliver_step hok' (encodeEvent id 1 (presentedArgs timestamp refreshNs seq flags))
        hloose hstanding rfl (.inr ⟨rfl, .inl rfl⟩) ⟨generation, outputId, timestamp,
          object.sceneGeneration, object.intersectingOutputs, ?_, rfl, hboth.2.1, ?_, ?_⟩
      · rw [hnotified, hw]
        rfl
      · simpa [PendingObject.intersects] using hboth.2.2
      · intro hclean
        have hzero := (hquiet' hclean key object hget).2 hboth.2.1 hboth.2.2
        subst hzero
        exact presentedTimestamp_presented id refreshNs seq flags (Nat.zero_le _)
    · have hsame : SameClient client w₁ := by
        refine SameClient.trans ?_ h₁.sameClient
        rw [hw]
        exact ⟨rfl, rfl, rfl⟩
      have hdisjoint : ∀ id ∈ PendingObjects.objectIds
          (w.pendingFeedbacks.filter fun _ object => due object && !shown object),
          id ∉ PendingObjects.objectIds
            (w.pendingFeedbacks.filter fun _ object => due object && shown object) := by
        intro id hid hid'
        obtain ⟨key, object, hget, rfl⟩ := mem_objectIds.mp hid
        obtain ⟨key', object', hget', heq⟩ := mem_objectIds.mp hid'
        obtain ⟨hbefore, hnot⟩ := OrdMap.get?_filter_eq_some.mp hget
        obtain ⟨hbefore', hyes⟩ := OrdMap.get?_filter_eq_some.mp hget'
        rw [hok.feedbacks.key_eq hbefore' hbefore heq, hbefore] at hbefore'
        obtain rfl := Option.some.inj hbefore'
        simp only [Bool.and_eq_true, Bool.not_eq_true'] at hnot hyes
        rw [hyes.2] at hnot
        cases hnot.2
      have hdiscarded₁ := hdiscarded.advanced (.inr (.inr rfl)) h₁ hdisjoint
      cases clean with
      | true =>
        have hnone : PendingObjects.objectIds
            (w.pendingFeedbacks.filter fun _ object => due object && !shown object) = [] := by
          rw [List.eq_nil_iff_forall_not_mem]
          intro id hid
          obtain ⟨key, object, hget, rfl⟩ := mem_objectIds.mp hid
          obtain ⟨hbefore, hboth⟩ := OrdMap.get?_filter_eq_some.mp hget
          have hframe := (hquiet' rfl key object hbefore).1
          simp only [hdue, hshown, PendingPresentationFeedbacks.isDue,
            PendingPresentationFeedbacks.isPresented, Bool.and_eq_true, Bool.not_eq_true',
            decide_eq_true_eq, decide_eq_false_iff_not] at hboth
          exact hboth.2 (hboth.1.2.resolve_left hframe)
        change Triple _ ((PendingObjects.objectIds
          (w.pendingFeedbacks.filter fun _ object => due object && !shown object)).forM _) _ _
        rw [hnone]
        exact Triple.pure fun s hs => by rw [hs]; exact ⟨h₁.ok, hsame⟩
      | false =>
        refine (advance_forM h₁.ok (.inr (.inr rfl)) hdiscarded₁
          fun id w' l hok' hloose hstanding hP hnotified => ?_).imp
            (fun _ s hs => ⟨hs.ok, hsame.trans hs.sameClient⟩) fun _ hs => hs
        obtain ⟨key, object, hget, hboth, rfl⟩ := hP
        simp only [hdue, hshown, PendingPresentationFeedbacks.isDue,
          PendingPresentationFeedbacks.isPresented, Bool.and_eq_true, Bool.not_eq_true',
          decide_eq_true_eq, decide_eq_false_iff_not] at hboth
        refine (leak_step hok' (encodeEvent id 2 []) hloose hstanding rfl
          (.inr ⟨rfl, .inr rfl⟩) (.inr ⟨generation, outputId, timestamp, object.sceneGeneration,
            object.intersectingOutputs, ?_, rfl, ?_⟩)).imp (fun _ _ hs => hs) fun _ hs => hs.elim
        · rw [hnotified, h₁.notification, hw]
          rfl
        · simpa [PendingObject.intersects] using hboth.2
  | _ => exact Triple.pure fun w hw => by rw [hw]; exact ⟨h, rfl, rfl, rfl⟩

theorem releasePresented_spec (presentation : DisplayEvent)
    (hquiet : clean = true → ∀ timestamp, Reports presentation timestamp →
      QuietFrame client generation client.output timestamp) :
    Triple (fun w => w = client) (releasePresented generation presentation)
      (fun _ w => ClientOk clean w ∧ SameClient client w) fun w => TraceLaw clean w.core.trace := by
  refine Triple.get_bind fun w hw => ?_
  subst hw
  refine Triple.bind (releasePresentedCallbacks_spec h generation presentation w.output)
    fun _ => Triple.each fun s hs => ?_
  obtain ⟨hok, hsame, hfeedbacks⟩ := hs
  refine (releasePresentationFeedbacks_spec hok generation presentation w.output
    fun hclean timestamp hreports => ?_).imp
      (fun _ s' hs' => ⟨hs'.1, hsame.trans hs'.2⟩) fun _ hs' => hs'
  have hframe := hquiet hclean timestamp hreports
  unfold QuietFrame at hframe ⊢
  rw [hfeedbacks]
  exact hframe

end

end Release

end TuffXwin.Waylandd
