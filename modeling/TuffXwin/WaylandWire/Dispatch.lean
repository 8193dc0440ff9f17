import TuffXwin.WaylandWire.Requests

/-! A request from its dispatch to the last of its events. Every id that the request
retired gets its `delete_id` before the next request. -/

namespace TuffXwin.WaylandWire
open Lib

variable {base core' : HeadlessWireCore} {event : WaylandMessage}
variable {object : WireObject} {message : WaylandMessage} {d e : Nat} {deletes : List Nat}

section Dispatch

variable {clean : Bool} {core : HeadlessWireCore}

theorem Handled.mono (h : Handled clean core none core') (destroys : Option Nat) :
    Handled clean core destroys core' :=
  ⟨h.ok, h.uncommitted, h.keeps, h.queued,
    fun s hs => (h.surfaces s hs).imp_right fun heq => (by cases heq), h.events⟩

/-- The surface that a request destroys. -/
def destroyedSurface (object : WireObject) (message : WaylandMessage) : Option Nat :=
  if object.interface = "wl_surface" ∧ message.header.opcode = 0 then
    some message.header.objectId
  else none

theorem handleRequest_spec (h : CoreOk clean core) (hunc : Uncommitted core)
    (hevents : core.eventsOut = [])
    (hobject : core.registry.objects.get? message.header.objectId = some object)
    (effect : OtherEffect) (clockNow : Nat)
    (hclean : clean = true → ∀ id s, core.feedbacks.get? id = some s →
      destroyedSurface object message ≠ some s) :
    Triple (fun c => c = core) (handleRequest object message effect clockNow)
      (fun _ c => Handled clean core (destroyedSurface object message) c)
      fun c => CoreOk clean c := by
  unfold handleRequest
  refine Triple.ite (fun _ => Triple.throw fun c hc => hc ▸ h) fun _ => ?_
  refine Triple.ite (fun _ => (handleCreateSurface_spec h hunc hevents _).imp
    (fun _ _ hc => hc.mono _) fun _ hc => hc) fun _ => ?_
  refine Triple.ite (fun hdestroy => ?_) fun _ => ?_
  · have hdestroyed : destroyedSurface object message = some message.header.objectId :=
      if_pos hdestroy
    rw [hdestroyed]
    refine handleSurfaceDestroy_spec h hunc hevents hobject hdestroy.1 effect.destroyed
      fun hc id hget => ?_
    exact hclean hc id _ hget hdestroyed
  refine Triple.ite (fun _ => (handleSurfaceFrame_spec h hunc hevents _ _).imp
    (fun _ _ hc => hc.mono _) fun _ hc => hc) fun _ => ?_
  refine Triple.ite (fun _ => (handleSurfaceCommit_spec h hunc hevents _ _).imp
    (fun _ _ hc => hc.mono _) fun _ hc => hc) fun _ => ?_
  refine Triple.ite (fun _ => (handlePresentationFeedback_spec h hunc hevents _).imp
    (fun _ _ hc => hc.mono _) fun _ hc => hc) fun _ => ?_
  exact (handleOther_progress h effect).imp
    (fun _ _ hc => (Handled.of_progress hunc hevents hc).mono _) fun _ hc => hc

/-- Events that wait to be written: discards of withdrawn feedbacks, then `delete_id`s of
objects that are gone. -/
structure Flushable (clean : Bool) (core : HeadlessWireCore) (events : List WaylandMessage) :
    Prop where
  split : ∃ discards deletes : List Nat,
    events = discards.map (fun id => encodeEvent id 2 []) ++ deletes.map deleteIdEvent ∧
    discards.Nodup ∧ (clean = true → discards = []) ∧
    (∀ id ∈ discards, Standing core "wp_presentation_feedback" withdrawnFeedback id) ∧
    deletes.Nodup ∧
    (∀ id ∈ deletes, core.registry.objects.get? id = none ∧
      (∀ l, life id core.trace = some l → l.Quiet) ∧ id ≤ u32Max ∧ id ≠ displayId) ∧
    ∀ id, core.registry.retiredPendingDelete.contains id = true → id ∈ deletes
  queued : ∀ id, core.registry.queuedDeleteIds.contains id = true →
    core.registry.retiredPendingDelete.contains id = true

theorem queueDeleteIds_spec {destroys : Option Nat} (h : Handled clean base destroys core)
    (hqueued : ∀ id, base.registry.queuedDeleteIds.contains id = false) :
    Triple (fun c => c = core) queueDeleteIds
      (fun _ c => Flushable clean c c.eventsOut ∧ CoreOk clean c ∧ Uncommitted c ∧
        KeepsPending base c ∧ c.surfaces = core.surfaces) fun c => CoreOk clean c := by
  refine Triple.modify fun c hc => ?_
  subst hc
  have hnone : ∀ id, c.registry.queuedDeleteIds.contains id = false := by
    rw [h.queued]
    exact hqueued
  set ids := c.registry.retiredPendingDelete.difference c.registry.queuedDeleteIds with hids
  have hmem : ∀ id, id ∈ ids ↔ c.registry.retiredPendingDelete.contains id = true := by
    intro id
    rw [hids, OrdSet.mem_difference]
    simp [hnone]
  obtain ⟨discards, hevents, hnodup, hclean, hstanding⟩ := h.events
  refine ⟨⟨⟨discards, ids, ?_, hnodup, hclean, ?_, OrdMap.nodup_keys _, ?_, ?_⟩, ?_⟩,
    ?_, ?_, ?_, rfl⟩
  · change c.eventsOut ++ ids.map deleteIdEvent = _
    rw [hevents]
  · exact fun id hid => (hstanding id hid).of_same rfl rfl
  · intro id hid
    have hretired := (hmem id).mp hid
    have hdead := h.ok.retired id hretired
    exact ⟨hdead.1, hdead.2, h.ok.retiredRange id hretired⟩
  · exact fun id hretired => (hmem id).mpr hretired
  · intro id hid
    change (ids.foldl (fun s id => s.insert id ()) c.registry.queuedDeleteIds).contains id = true
      at hid
    rw [OrdSet.contains_foldl_insert, hnone] at hid
    exact (hmem id).mp (hid.resolve_right fun hfalse => by cases hfalse)
  · exact ⟨h.ok.defers, h.ok.display, h.ok.unborn, h.ok.range, h.ok.alive, h.ok.dead,
      h.ok.retired, h.ok.retiredRange, h.ok.justified⟩
  · exact ⟨h.uncommitted.nodup,
      fun s surface id hget hin => (h.uncommitted.callbacks s surface id hget hin).of_same rfl rfl,
      h.uncommitted.apart,
      fun id s hget => (h.uncommitted.feedbacks id s hget).of_same rfl rfl⟩
  · exact fun i generation outputs id hawaits hbase =>
      (h.keeps i generation outputs id hawaits hbase).of_same rfl rfl

/-- What the events written so far have kept. -/
structure Flushing (clean : Bool) (base core : HeadlessWireCore) (events : List WaylandMessage) :
    Prop where
  ok : CoreOk clean core
  keeps : Keeps (Standing base "wp_presentation_feedback" withdrawnFeedback) base core
  surfaces : core.surfaces = base.surfaces
  feedbacks : core.feedbacks = base.feedbacks
  flushable : Flushable clean core events
  withdrawn : ∀ id, Standing core "wp_presentation_feedback" withdrawnFeedback id →
    Standing base "wp_presentation_feedback" withdrawnFeedback id

theorem deliverDiscard_spec (hd : d ≠ displayId) :
    Triple (fun c => c = core) (deliverEvent (encodeEvent d 2 []))
      (fun _ c => c = core.noted (.sent (encodeEvent d 2 []))) fun _ => False := by
  refine Triple.bind (Q := fun _ c => c = core.noted (.sent (encodeEvent d 2 [])))
    (Triple.modify fun c hc => hc ▸ rfl) fun _ => ?_
  unfold acknowledgeEventDelivery
  exact Triple.ite (fun hdelete => absurd hdelete.1 hd) fun _ => Triple.pure fun _ hc => hc

theorem Flushing.discard {discards : List Nat}
    (h : Flushing clean base core ((d :: discards).map (fun id => encodeEvent id 2 []) ++
      deletes.map deleteIdEvent)) (hnodup : (d :: discards).Nodup)
    (hclean : clean = true → d :: discards = []) (hstanding : ∀ id ∈ d :: discards,
      Standing core "wp_presentation_feedback" withdrawnFeedback id) (hdeletes : deletes.Nodup)
    (hdead : ∀ id ∈ deletes, core.registry.objects.get? id = none ∧
      (∀ l, life id core.trace = some l → l.Quiet) ∧ id ≤ u32Max ∧ id ≠ displayId)
    (hretired : ∀ id, core.registry.retiredPendingDelete.contains id = true → id ∈ deletes) :
    Flushing clean base (core.noted (.sent (encodeEvent d 2 [])))
      (discards.map (fun id => encodeEvent id 2 []) ++ deletes.map deleteIdEvent) := by
  have hself := hstanding d List.mem_cons_self
  have hdisplay := hself.notDisplay h.ok
  obtain ⟨object, hobject, _⟩ := hself.object
  have hfalse : clean = false := by
    cases clean with
    | false => rfl
    | true => exact absurd (hclean rfl) (List.cons_ne_nil _ _)
  subst hfalse
  have hother : ∀ id, id ≠ d →
      life id (.sent (encodeEvent d 2 []) :: core.trace) = life id core.trace := by
    intro id hid
    have hconcerns : ¬ Concerns id (.sent (encodeEvent d 2 [])) := by
      have hdeleted : deletedId (encodeEvent d 2 []) = none := deletedId_terminal hdisplay
      simp only [Concerns, hdeleted, reduceCtorEq, or_false]
      exact fun heq => hid heq.symm
    exact life_other hconcerns core.trace
  have hkeep : ∀ i l id, id ≠ d → Standing core i l id →
      Standing (core.noted (.sent (encodeEvent d 2 []))) i l id :=
    fun i l id hid hs => hs.of_same rfl (hother id hid)
  obtain ⟨hnew, hrest⟩ := List.nodup_cons.mp hnodup
  have hok : CoreOk false (core.noted (.sent (encodeEvent d 2 []))) :=
    h.ok.leaked hobject hdisplay hself.life rfl (.inr ⟨rfl, .inr rfl⟩) (.inl rfl)
  refine ⟨hok, fun i l id hfollowed hbase hgone => ?_, h.surfaces, h.feedbacks, ⟨⟨discards,
    deletes, rfl, hrest, fun hc => (by cases hc), fun id hid => ?_, hdeletes, fun id hid => ?_,
    hretired⟩, h.flushable.queued⟩, fun id hid => ?_⟩
  · have hcore := h.keeps i l id hfollowed hbase hgone
    refine hkeep i l id (fun heq => hgone ?_) hcore
    rw [heq]
    exact h.withdrawn d hself
  · refine hkeep _ _ id (fun heq => hnew (heq ▸ hid)) (hstanding id (List.mem_cons_of_mem _ hid))
  · obtain ⟨hgone, hquiet, hrange⟩ := hdead id hid
    have hne : id ≠ d := by
      intro heq
      rw [heq, hobject] at hgone
      cases hgone
    exact ⟨hgone, fun l hl => hquiet l ((hother id hne).symm.trans hl), hrange⟩
  · have hne : id ≠ d := by
      intro heq
      have hlife := hid.life
      rw [heq] at hlife
      have hsent : life (encodeEvent d 2 []).header.objectId
          (.sent (encodeEvent d 2 []) :: core.trace) =
            some { withdrawnFeedback with terminals := 1 } :=
        life_terminal hself.life hdisplay (.inr ⟨rfl, .inr rfl⟩)
      have hterminals := hsent.symm.trans hlife
      simp [withdrawnFeedback] at hterminals
    exact h.withdrawn id (hid.of_same rfl (hother id hne).symm)

theorem life_otherDeleted {id : Nat} {trace : List WireAction} (hrange : e ≤ u32Max) (hid : id ≠ e)
    (hdisplay : id ≠ displayId) : life id (.sent (deleteIdEvent e) :: trace) = life id trace := by
  have hconcerns : ¬ Concerns id (.sent (deleteIdEvent e)) := by
    simp only [Concerns, deletedId_deleteIdEvent hrange, Option.some.injEq, not_or]
    exact ⟨Ne.symm hdisplay, Ne.symm hid⟩
  exact life_other hconcerns trace

theorem Flushing.delete (h : Flushing clean base core ((e :: deletes).map deleteIdEvent))
    (hdeletes : (e :: deletes).Nodup)
    (hdead : ∀ id ∈ e :: deletes, core.registry.objects.get? id = none ∧
      (∀ l, life id core.trace = some l → l.Quiet) ∧ id ≤ u32Max ∧ id ≠ displayId)
    (hretired : ∀ id, core.registry.retiredPendingDelete.contains id = true →
      id ∈ e :: deletes) :
    CoreOk clean (core.noted (.sent (deleteIdEvent e))) ∧
      Flushing clean base (core.acknowledged e) (deletes.map deleteIdEvent) := by
  obtain ⟨hgone, hquiet, hrange, hdisplay⟩ := hdead e List.mem_cons_self
  obtain ⟨hnew, hrest⟩ := List.nodup_cons.mp hdeletes
  have hok := h.ok.noted_deleted hrange hdisplay hgone hquiet
  have hne : ∀ i l id, Standing core i l id → id ≠ e := by
    intro i l id hs heq
    obtain ⟨object, hobject, _⟩ := hs.object
    rw [heq, hgone] at hobject
    cases hobject
  refine ⟨hok, hok.acknowledged, fun i l id hfollowed hbase hg => ?_, h.surfaces, h.feedbacks,
    ⟨⟨[], deletes, rfl, List.nodup_nil, fun _ => rfl, List.forall_mem_nil _, hrest,
      fun id hid => ?_, fun id hid => ?_⟩, fun id hid => ?_⟩, fun id hid => ?_⟩
  · have hcore := h.keeps i l id hfollowed hbase hg
    exact hcore.of_same rfl
      (life_otherDeleted hrange (hne i l id hcore) (hcore.notDisplay h.ok))
  · obtain ⟨hgone', hquiet', hrange', hdisplay'⟩ := hdead id (List.mem_cons_of_mem _ hid)
    have hother : life id (.sent (deleteIdEvent e) :: core.trace) = life id core.trace :=
      life_otherDeleted hrange (fun heq => hnew (heq ▸ hid)) hdisplay'
    exact ⟨hgone', fun l hl => hquiet' l (hother.symm.trans hl), hrange', hdisplay'⟩
  · obtain ⟨hself, hbefore⟩ := acknowledged_retired hid
    exact (List.mem_cons.mp (hretired id hbefore)).resolve_left hself
  · obtain ⟨u, hu⟩ := OrdMap.contains_iff.mp hid
    change (core.registry.queuedDeleteIds.erase e).get? id = some u at hu
    rw [OrdMap.get?_erase] at hu
    split_ifs at hu with hself
    obtain ⟨v, hv⟩ := OrdMap.contains_iff.mp
      (h.flushable.queued id (OrdMap.contains_iff.mpr ⟨u, hu⟩))
    refine OrdMap.contains_iff.mpr ⟨v, ?_⟩
    change (core.registry.retiredPendingDelete.erase e).get? id = some v
    rw [OrdMap.get?_erase, if_neg hself]
    exact hv
  · have hdisplay' := hid.notDisplay hok.acknowledged
    have hself : id ≠ e := by
      intro heq
      obtain ⟨object, hobject, _⟩ := hid.object
      change core.registry.objects.get? id = some object at hobject
      rw [heq, hgone] at hobject
      cases hobject
    exact h.withdrawn id (hid.of_same rfl (life_otherDeleted hrange hself hdisplay').symm)

theorem deliverEvent_flushing {rest : List WaylandMessage}
    (h : Flushing clean base core (event :: rest)) :
    Triple (fun c => c = core) (deliverEvent event)
      (fun _ c => Flushing clean base c rest) fun c => CoreOk clean c := by
  obtain ⟨discards, deletes, hsplit, hnodup, hclean, hstanding, hdeletes, hdead, hretired⟩ :=
    h.flushable.split
  cases discards with
  | cons d discards =>
    obtain ⟨rfl, rfl⟩ := List.cons.inj hsplit
    have hdisplay := (hstanding d List.mem_cons_self).notDisplay h.ok
    refine (deliverDiscard_spec hdisplay).imp (fun _ c hc => ?_) fun _ hc => hc.elim
    rw [hc]
    exact h.discard hnodup hclean hstanding hdeletes hdead hretired
  | nil =>
    cases deletes with
    | nil => cases hsplit
    | cons e deletes =>
      obtain ⟨rfl, rfl⟩ := List.cons.inj hsplit
      obtain ⟨hok, hnext⟩ := h.delete hdeletes hdead hretired
      refine (deliverDeleteId_spec core (hdead e List.mem_cons_self).2.2.1).imp
        (fun _ c hc => ?_) fun c hc => ?_
      · rw [hc]
        exact hnext
      · rw [hc.2]
        exact hok

theorem flushEvents_spec (h : CoreOk clean core) (hflush : Flushable clean core core.eventsOut) :
    Triple (fun c => c = core) flushEvents
      (fun _ c => Flushing clean core c [] ∧ Settled c) fun c => CoreOk clean c := by
  refine Triple.get_bind fun c hc => ?_
  subst hc
  refine Triple.bind (Q := fun _ s => Flushing clean c s c.eventsOut) ?_ fun _ => ?_
  · intro s hs
    subst hs
    obtain ⟨discards, deletes, hsplit, hnodup, hclean, hstanding, hdeletes, hdead, hretired⟩ :=
      hflush.split
    exact ⟨h.congr rfl rfl rfl rfl,
      fun i l id _ hbase _ => hbase.of_same rfl rfl, rfl, rfl,
      ⟨⟨discards, deletes, hsplit, hnodup, hclean,
        fun id hid => (hstanding id hid).of_same rfl rfl, hdeletes, hdead, hretired⟩,
        hflush.queued⟩, fun id hid => hid.of_same rfl rfl⟩
  · refine (Triple.forM (I := fun rest s => Flushing clean c s rest) fun event rest =>
      Triple.each fun s hs => deliverEvent_flushing hs).imp (fun _ s hs => ⟨hs, ?_⟩) fun _ hs => hs
    obtain ⟨discards, deletes, hsplit, _, _, _, _, _, hretired⟩ := hs.flushable.split
    have hempty : deletes = [] := by
      have happend := List.append_eq_nil_iff.mp hsplit.symm
      exact List.map_eq_nil_iff.mp happend.2
    have hnone : ∀ id, s.registry.retiredPendingDelete.contains id = false := by
      intro id
      rw [← Bool.not_eq_true]
      intro hcontains
      have hmem := hretired id hcontains
      rw [hempty] at hmem
      cases hmem
    refine ⟨hnone, fun id => ?_⟩
    rw [← Bool.not_eq_true]
    intro hcontains
    have hretired' := hs.flushable.queued id hcontains
    rw [hnone] at hretired'
    cases hretired'

/-- A request was handled, and its events wait to be written. -/
structure Dispatched (clean : Bool) (core : HeadlessWireCore) (message : WaylandMessage)
    (core' : HeadlessWireCore) : Prop where
  ok : CoreOk clean core'
  uncommitted : Uncommitted core'
  keeps : KeepsPending core core'
  surfaces : ∀ s, core.surfaces.contains s = true → core'.surfaces.contains s = true ∨
    ∃ object, core.registry.objects.get? message.header.objectId = some object ∧
      destroyedSurface object message = some s
  flushable : Flushable clean core' core'.eventsOut

theorem dispatch_spec (h : CoreOk clean core) (hsettled : Settled core)
    (hunc : Uncommitted core) (message : WaylandMessage) (effect : OtherEffect) (clockNow : Nat)
    (hclean : clean = true → ∀ object id s,
      core.registry.objects.get? message.header.objectId = some object →
      core.feedbacks.get? id = some s → destroyedSurface object message ≠ some s) :
    Triple (fun c => c = core) (dispatch message effect clockNow)
      (fun _ c => Dispatched clean core message c) fun c => CoreOk clean c := by
  refine Triple.get_bind fun c hc => ?_
  subst hc
  unfold WireObjectRegistry.getObject
  cases hobject : c.registry.objects.get? message.header.objectId with
  | none => exact Triple.throw fun s hs => hs ▸ h
  | some object =>
    refine Triple.bind (Q := fun _ s => s = { c with eventsOut := [] })
      (Triple.modify fun s hs => hs ▸ rfl) fun _ => ?_
    have hok : CoreOk clean { c with eventsOut := [] } := h.congr rfl rfl rfl rfl
    have hunc' : Uncommitted { c with eventsOut := [] } :=
      ⟨hunc.nodup, fun s surface id hget hin => (hunc.callbacks s surface id hget hin).of_same
        rfl rfl, hunc.apart, fun id s hget => (hunc.feedbacks id s hget).of_same rfl rfl⟩
    refine Triple.bind (handleRequest_spec hok hunc' rfl hobject effect clockNow
      fun hc id s hget => hclean hc object id s hobject hget) fun _ => Triple.each fun s hs => ?_
    refine (queueDeleteIds_spec hs hsettled.queued).imp (fun _ s' hs' => ?_) fun _ hs' => hs'
    obtain ⟨hflushable, hok', huncommitted, hkeeps, hsurfaces⟩ := hs'
    refine ⟨hok', huncommitted, fun i generation outputs id hawaits hstanding =>
      hkeeps i generation outputs id hawaits (hstanding.of_same rfl rfl), fun s'' hs'' => ?_,
      hflushable⟩
    rw [hsurfaces]
    exact (hs.surfaces s'' hs'').imp_right fun hdestroyed => ⟨object, hobject, hdestroyed⟩

/-- A commit leaves the uncommitted feedbacks to waylandd. -/
theorem dispatch_commit_feedbacks (h : CoreOk clean core)
    (hobject : core.registry.objects.get? message.header.objectId = some object)
    (hsurface : object.interface = "wl_surface") (hcommit : message.header.opcode = 6)
    (effect : OtherEffect) (clockNow : Nat) :
    Triple (fun c => c = core) (dispatch message effect clockNow)
      (fun _ c => c.feedbacks = core.feedbacks) fun _ => True := by
  refine Triple.get_bind fun c hc => ?_
  subst hc
  unfold WireObjectRegistry.getObject
  rw [hobject]
  refine Triple.bind (Q := fun _ s => s = { c with eventsOut := [] })
    (Triple.modify fun s hs => hs ▸ rfl) fun _ => ?_
  have hrequest : handleRequest object message effect clockNow =
      handleSurfaceCommit message.header.objectId clockNow := by
    simp [handleRequest, hsurface, hcommit]
  rw [hrequest]
  have hok : CoreOk clean { c with eventsOut := [] } := h.congr rfl rfl rfl rfl
  refine Triple.bind ((handleSurfaceCommit_same hok message.header.objectId clockNow).imp
    (fun _ _ hs => hs) fun _ _ => trivial) fun _ => Triple.modify fun s hs => ?_
  rw [hs]

theorem Flushing.uncommitted (h : Flushing clean base core []) (hunc : Uncommitted base) :
    Uncommitted core := by
  refine hunc.keeps h.keeps (fun s surface hget => .inl ?_) (fun id s hget => ?_)
    (fun s surface id hget hmem hgone => ?_) fun id s hget hgone => ?_
  · rw [← h.surfaces]
    exact hget
  · rw [← h.feedbacks]
    exact hget
  · rw [h.surfaces] at hget
    have hboth := (hunc.callbacks s surface id hget hmem).unique hgone
    simp at hboth
  · rw [h.feedbacks] at hget
    have hboth := (hunc.feedbacks id s hget).unique hgone
    simp [Life.fresh, withdrawnFeedback] at hboth

theorem Flushing.pending (h : Flushing clean base core []) : KeepsPending base core := by
  refine h.keeps.pending fun i generation outputs id _ hstanding hgone => ?_
  have hboth := hstanding.unique hgone
  simp [Life.pending, withdrawnFeedback] at hboth

theorem Delivered.notification {core : HeadlessWireCore} (h : Delivered core event core') :
    latestNotification core'.trace = latestNotification core.trace := by
  rw [h.trace]
  rfl

theorem Delivered.settled {core : HeadlessWireCore} (h : Delivered core event core')
    (hsettled : Settled core) : Settled core' := by
  refine ⟨fun id => ?_, fun id => ?_⟩
  · rw [← Bool.not_eq_true]
    intro hcontains
    have hbefore := h.retired id hcontains
    rw [hsettled.retired] at hbefore
    cases hbefore
  · rw [← Bool.not_eq_true]
    intro hcontains
    have hbefore := h.queued id hcontains
    rw [hsettled.queued] at hbefore
    cases hbefore

theorem Delivered.keeps {core : HeadlessWireCore} (h : Delivered core event core')
    (hok : CoreOk clean core) (hrange : event.header.objectId ≤ u32Max)
    (hdisplay : event.header.objectId ≠ displayId) :
    Keeps (· = event.header.objectId) core core' := by
  intro i l id _ hstanding hid
  refine hstanding.of_same ?_ (h.life_other hok.unborn hrange hdisplay hid)
  rw [h.objects, OrdMap.get?_erase, if_neg hid]

end Dispatch

end TuffXwin.WaylandWire
