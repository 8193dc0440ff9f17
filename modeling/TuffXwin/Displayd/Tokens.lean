import TuffXwin.Displayd.Headless
import TuffXwin.Displayd.Joint
import TuffXwin.Displayd.Resident

/-! Presentation tokens with the shared-memory backend. The submissions pending in
the backend are the outstanding frames of the outputs, under the same tokens, in
every state of every run. A sequence number below the largest is handed out once, so
no such token is completed twice, and the frame captured of an output is that of the
last submission completed for it, until the output's region goes away. -/

namespace TuffXwin.Displayd
open Lib

variable {b b' : HeadlessShmDisplayBackend} {token : PresentationToken} {frame : FramePublication}
variable {a c : HeadlessShmDisplayBackend} {answer : Except String Unit} {reason : String}
  {o : OutstandingPresentation} {r : OutputRuntime} {s : DisplayState}
  {srv : Server HeadlessShmDisplayBackend}

namespace HeadlessShmDisplayBackend

/-- What an operation that completes nothing does to the rest of the backend. -/
structure Kept (b b' : HeadlessShmDisplayBackend) : Prop where
  nextSequence : b.nextSequence ≤ b'.nextSequence
  completed : b'.completed = b.completed
  captured : ∀ id, b'.capturePublished id = b.capturePublished id ∨ b'.capturePublished id = none

theorem Kept.refl (b : HeadlessShmDisplayBackend) : Kept b b := ⟨le_rfl, rfl, fun _ => .inl rfl⟩

theorem Kept.trans (h : Kept a b) (h' : Kept b c) : Kept a c where
  nextSequence := h.nextSequence.trans h'.nextSequence
  completed := h'.completed.trans h.completed
  captured id := by
    cases h'.captured id with
    | inl hsame => exact hsame ▸ h.captured id
    | inr hnone => exact .inr hnone

theorem Kept.of_eq (hsequence : b'.nextSequence = b.nextSequence)
    (hcompleted : b'.completed = b.completed) (houtputs : b'.outputs = b.outputs) : Kept b b' :=
  ⟨hsequence.ge, hcompleted, fun id => .inl (by simp only [capturePublished, houtputs])⟩

/-- Regions may only go away. -/
theorem Kept.of_filter {p : String → HeadlessShmOutput → Bool}
    (hsequence : b'.nextSequence = b.nextSequence) (hcompleted : b'.completed = b.completed)
    (houtputs : b'.outputs = b.outputs.filter p) : Kept b b' := by
  refine ⟨hsequence.ge, hcompleted, fun id => ?_⟩
  unfold capturePublished
  rw [houtputs, OrdMap.get?_filter]
  cases b.outputs.get? id with
  | none => exact .inl rfl
  | some output =>
    rw [Option.filter_some]
    split_ifs
    · exact .inl rfl
    · exact .inr rfl

/-- An accepted submission: a new token for the frame, pending with it. -/
structure Submitted (b : HeadlessShmDisplayBackend) (frame : FramePublication)
    (b' : HeadlessShmDisplayBackend) (token : PresentationToken) : Prop where
  kept : Kept b b'
  nextSequence : b'.nextSequence = satAdd b.nextSequence 1
  pending : b'.pending = b.pending.insert token frame
  token : token = b'.token frame

theorem publishSlot_captured (b : HeadlessShmDisplayBackend) (frame : FramePublication)
    (id : String) : (b.publishSlot frame).capturePublished id = b.capturePublished id := by
  unfold capturePublished publishSlot
  dsimp only
  rw [OrdMap.get?_modify]
  split_ifs with hid
  · rw [hid]
    cases b.outputs.get? frame.outputId with
    | none => rfl
    | some output => rfl
  · rfl

/-- A new region starts without frames. -/
theorem allocateRegion_kept {slotLen : Nat} (h : b.allocateRegion frame slotLen = (b', answer)) :
    Kept b b' ∧ b'.nextSequence = b.nextSequence ∧ b'.pending = b.pending := by
  unfold allocateRegion at h
  split at h
  · cases h
    exact ⟨.refl b, rfl, rfl⟩
  · split at h
    · cases h
      exact ⟨.of_eq rfl rfl rfl, rfl, rfl⟩
    · cases h
      refine ⟨⟨le_rfl, rfl, fun id => ?_⟩, rfl, rfl⟩
      unfold capturePublished
      dsimp only
      rw [OrdMap.get?_insert]
      split_ifs
      · exact .inr rfl
      · exact .inl rfl

theorem publishSlot_kept (b : HeadlessShmDisplayBackend) (frame : FramePublication) :
    Kept b (b.publishSlot frame) :=
  ⟨le_satAdd _ _, rfl, fun id => .inl (publishSlot_captured b frame id)⟩

theorem publishAtomic_kept (h : b.publishAtomic frame = (b', answer)) :
    Kept b b' ∧ b'.pending = b.pending ∧
      (answer = .ok () → b'.nextSequence = satAdd b.nextSequence 1) := by
  unfold publishAtomic at h
  split at h
  · cases h
    exact ⟨.refl b, rfl, fun hok => by cases hok⟩
  · split at h
    · cases h
      exact ⟨.refl b, rfl, fun hok => by cases hok⟩
    · split_ifs at h
      · split at h
        · rename_i hregion
          cases h
          obtain ⟨hkept, _, hpending⟩ := allocateRegion_kept hregion
          exact ⟨hkept, hpending, fun hok => by cases hok⟩
        · rename_i hregion
          cases h
          obtain ⟨hkept, hsequence, hpending⟩ := allocateRegion_kept hregion
          refine ⟨hkept.trans (publishSlot_kept _ frame), hpending, fun _ => ?_⟩
          rw [← hsequence]
          rfl
      · cases h
        exact ⟨publishSlot_kept b frame, rfl, fun _ => rfl⟩

theorem submitFrame_error (h : b.submitFrame frame = (b', .error reason)) :
    Kept b b' ∧ b'.pending = b.pending := by
  unfold submitFrame at h
  split_ifs at h
  · cases h
    exact ⟨.refl b, rfl⟩
  · split at h
    · cases h
      exact ⟨.refl b, rfl⟩
    · split_ifs at h
      · cases h
        exact ⟨.refl b, rfl⟩
      · split at h
        · rename_i hpublish
          cases h
          exact ⟨(publishAtomic_kept hpublish).1, (publishAtomic_kept hpublish).2.1⟩
        · cases h

theorem submitFrame_ok (h : b.submitFrame frame = (b', .ok token)) :
    Submitted b frame b' token := by
  unfold submitFrame at h
  split_ifs at h
  · cases h
  · split at h
    · cases h
    · split_ifs at h
      · cases h
      · split at h
        · cases h
        · rename_i published _ hpublish
          cases h
          obtain ⟨hkept, hpending, hsequence⟩ := publishAtomic_kept hpublish
          refine ⟨hkept.trans (.of_eq rfl rfl rfl), hsequence rfl, ?_, rfl⟩
          rw [← hpending]
          rfl

/-- The tokens of the backend are well formed. -/
theorem Submitted.valid (h : Submitted b frame b' token) (hid : frame.outputId ≠ "")
    (hframe : frame.frameId ≠ 0) : token.validate = .ok () := by
  have hinstance : b'.instanceId ≠ 0 := by
    have hle : headlessShmBackendInstanceId ≤ b'.instanceId := le_max_right _ _
    have htwo : headlessShmBackendInstanceId = 2 := rfl
    omega
  have hsequence : b'.nextSequence ≠ 0 := by
    rw [h.nextSequence]
    unfold satAdd
    have hu64 : u64Max = 18446744073709551615 := rfl
    omega
  rw [h.token]
  simp [PresentationToken.validate, HeadlessShmDisplayBackend.token, hinstance, hsequence, hid,
    hframe]

theorem retireSubmission_kept (b : HeadlessShmDisplayBackend) (token : PresentationToken) :
    Kept b (b.retireSubmission token) := .of_eq rfl rfl rfl

theorem reconfigureOutput_kept (b : HeadlessShmDisplayBackend) (id : String) (generation : Nat) :
    Kept b (b.reconfigureOutput id generation) := .of_filter rfl rfl rfl

theorem removeOutput_kept (b : HeadlessShmDisplayBackend) (id : String) :
    Kept b (b.removeOutput id) := .of_filter (p := fun id' _ => id' ≠ id) rfl rfl rfl

/-- A completion that goes through: the pending frame of the token becomes the capture. -/
structure Completed (b : HeadlessShmDisplayBackend) (token : PresentationToken)
    (frame : FramePublication) (b' : HeadlessShmDisplayBackend) : Prop where
  pending : b.pending.get? token = some frame
  nextSequence : b'.nextSequence = b.nextSequence
  completed : b'.completed = (token, frame) :: b.completed
  retired : b'.pending = b.pending.erase token
  captured : ∀ id, b'.capturePublished id =
    if id = token.outputId then some frame else b.capturePublished id

theorem completeSubmission_ok (h : b.completeSubmission token = (b', .ok ())) :
    ∃ frame, Completed b token frame b' := by
  unfold completeSubmission at h
  split at h
  · cases h
  · rename_i frame hpending
    split at h
    · cases h
    · rename_i output houtput
      cases h
      refine ⟨frame, hpending, rfl, rfl, rfl, fun id => ?_⟩
      unfold capturePublished present retireSubmission
      dsimp only
      rw [OrdMap.get?_modify]
      split_ifs with hid
      · rw [hid, houtput]
        rfl
      · rfl

theorem completeSubmission_error (h : b.completeSubmission token = (b', .error reason)) :
    Kept b b' ∧ b'.pending.erase token = b.pending.erase token := by
  unfold completeSubmission at h
  split at h
  · cases h
    exact ⟨.refl b, rfl⟩
  · split at h
    · cases h
      refine ⟨retireSubmission_kept b token, OrdMap.ext_get? fun k => ?_⟩
      unfold retireSubmission
      dsimp only
      rw [OrdMap.get?_erase, OrdMap.get?_erase]
      split_ifs <;> rfl
    · cases h

end HeadlessShmDisplayBackend

open HeadlessShmDisplayBackend

abbrev HeadlessDisplay := Display HeadlessShmDisplayBackend

variable {d' : HeadlessDisplay}

/-- The submissions pending in the backend are the outstanding frames of the outputs. -/
structure Tracks (d : HeadlessDisplay) : Prop where
  pending : ∀ token frame, d.backend.pending.get? token = some frame ↔
    ∃ id, d.state.outstandingOf id = some ⟨token, frame⟩
  named : ∀ id o, d.state.outstandingOf id = some o → o.token.outputId = id
  frameIds : AllOutputs (fun _ r => r.nextFrameId ≠ 0) d.state

namespace Tracks

variable {d : HeadlessDisplay}

theorem outstanding (h : Tracks d) :
    d.backend.pending.get? token = some frame ↔
      d.state.outstandingOf token.outputId = some ⟨token, frame⟩ := by
  rw [h.pending]
  constructor
  · intro hex
    obtain ⟨id, ho⟩ := hex
    rwa [← h.named id _ ho] at ho
  · intro ho
    exact ⟨_, ho⟩

/-- The outputs `gone` has no outstanding frame any more, nor has the backend one of theirs. -/
theorem settle (h : Tracks d) (gone : String → Prop) [DecidablePred gone]
    (hstate : ∀ id, d'.state.outstandingOf id =
      if gone id then none else d.state.outstandingOf id)
    (hbackend : ∀ token frame, d'.backend.pending.get? token = some frame ↔
      d.backend.pending.get? token = some frame ∧ ¬ gone token.outputId)
    (hframes : AllOutputs (fun _ r => r.nextFrameId ≠ 0) d'.state) : Tracks d' where
  pending token frame := by
    rw [hbackend]
    constructor
    · intro hp
      exact ⟨token.outputId, by rw [hstate, if_neg hp.2]; exact h.outstanding.mp hp.1⟩
    · intro hex
      obtain ⟨id, ho⟩ := hex
      rw [hstate] at ho
      split_ifs at ho with hgone
      have hid := h.named id _ ho
      exact ⟨(h.pending token frame).mpr ⟨id, ho⟩, hid ▸ hgone⟩
  named id o ho := by
    rw [hstate] at ho
    split_ifs at ho
    exact h.named id o ho
  frameIds := hframes

theorem same (h : Tracks d) (hstate : SameOutstanding d.state d'.state)
    (hbackend : d'.backend.pending = d.backend.pending)
    (hframes : AllOutputs (fun _ r => r.nextFrameId ≠ 0) d'.state) : Tracks d' :=
  h.settle (fun _ => False) (fun id => by simp [hstate id])
    (fun token frame => by simp [hbackend]) hframes

/-- Retiring the outstanding submission of an output leaves it without any. -/
theorem erase_outstanding (h : Tracks d) (ho : d.state.outstandingOf o.token.outputId = some o)
    (token : PresentationToken) (frame : FramePublication) :
    (d.backend.pending.erase o.token).get? token = some frame ↔
      d.backend.pending.get? token = some frame ∧ ¬ token.outputId = o.token.outputId := by
  rw [OrdMap.get?_erase]
  split_ifs with htoken
  · simp [htoken]
  · refine ⟨fun hp => ⟨hp, fun hid => ?_⟩, fun hp => hp.1⟩
    have hstanding := h.outstanding.mp hp
    rw [hid, ho] at hstanding
    exact htoken (congrArg OutstandingPresentation.token (Option.some.inj hstanding)).symm

theorem retireOutstanding_pending (h : Tracks d) {id : String}
    (hr : d.state.outputs.get? id = some r) (token : PresentationToken) (frame : FramePublication) :
    (retireOutstanding d.backend r).pending.get? token = some frame ↔
      d.backend.pending.get? token = some frame ∧ ¬ token.outputId = id := by
  have hof : d.state.outstandingOf id = r.outstanding := by
    rw [DisplayState.outstandingOf, hr]
    rfl
  unfold retireOutstanding
  cases ho : r.outstanding with
  | none =>
    refine ⟨fun hp => ⟨hp, fun hid => ?_⟩, fun hp => hp.1⟩
    have hstanding := h.outstanding.mp hp
    rw [hid, hof, ho] at hstanding
    cases hstanding
  | some o =>
    have hname := h.named id o (hof.trans ho)
    have herased := h.erase_outstanding (o := o) (by rw [hname, hof, ho]) token frame
    rw [hname] at herased
    exact herased

end Tracks

theorem retireOutstanding_kept (b : HeadlessShmDisplayBackend) (r : OutputRuntime) :
    Kept b (retireOutstanding b r) := by
  unfold retireOutstanding
  cases r.outstanding with
  | none => exact .refl b
  | some o => exact retireSubmission_kept b o.token

theorem retireAll_kept (b : HeadlessShmDisplayBackend) (l : List OutputRuntime) :
    Kept b (l.foldl retireOutstanding b) := by
  induction l generalizing b with
  | nil => exact .refl b
  | cons r l ih =>
    rw [List.foldl_cons]
    exact (retireOutstanding_kept b r).trans (ih _)

theorem retireOutstanding_subset (h : (retireOutstanding b r).pending.get? token = some frame) :
    b.pending.get? token = some frame ∧ ∀ o, r.outstanding = some o → token ≠ o.token := by
  unfold retireOutstanding at h
  cases ho : r.outstanding with
  | none =>
    rw [ho] at h
    exact ⟨h, fun o ho' => by cases ho'⟩
  | some o =>
    rw [ho] at h
    change (b.pending.erase o.token).get? token = some frame at h
    rw [OrdMap.get?_erase] at h
    split_ifs at h with htoken
    exact ⟨h, fun o' ho' => Option.some.inj ho' ▸ htoken⟩

theorem retireAll_subset {l : List OutputRuntime}
    (h : (l.foldl retireOutstanding b).pending.get? token = some frame) :
    b.pending.get? token = some frame ∧
      ∀ r ∈ l, ∀ o, r.outstanding = some o → token ≠ o.token := by
  induction l generalizing b with
  | nil => exact ⟨h, fun r hr => absurd hr List.not_mem_nil⟩
  | cons r l ih =>
    rw [List.foldl_cons] at h
    obtain ⟨hretired, hrest⟩ := ih h
    obtain ⟨hpending, hhead⟩ := retireOutstanding_subset hretired
    exact ⟨hpending, List.forall_mem_cons.mpr ⟨hhead, hrest⟩⟩

/-- What one joint move does to the backend. -/
inductive BackendEffect (b b' : HeadlessShmDisplayBackend) : Prop
  | kept (h : Kept b b')
      (hpending : ∀ token frame, b'.pending.get? token = some frame →
        b.pending.get? token = some frame)
  | submitted (frame : FramePublication) (token : PresentationToken)
      (h : Submitted b frame b' token)
  | completed (token : PresentationToken) (frame : FramePublication)
      (h : Completed b token frame b')

theorem HeadlessShmDisplayBackend.Completed.retire (h : Completed b token frame b') :
    Completed b token frame (b'.retireSubmission token) where
  pending := h.pending
  nextSequence := h.nextSequence
  completed := h.completed
  retired := by
    refine OrdMap.ext_get? fun k => ?_
    unfold HeadlessShmDisplayBackend.retireSubmission
    dsimp only
    rw [h.retired, OrdMap.get?_erase]
    split_ifs with hk
    · rw [OrdMap.get?_erase, if_pos hk]
    · rfl
  captured := h.captured

theorem frameIds_invariant : OutputInvariant fun _ r => r.nextFrameId ≠ 0 where
  start := by decide
  quiet h hq := hq.nextFrameId ▸ h
  damaged _ _ _ h _ _ := h
  submitFailed h _ _ := h
  submitted {_ _ r _ _ _} h _ := by
    have hle : r.nextFrameId ≤ satAdd r.nextFrameId 1 := le_satAdd _ _
    change satAdd r.nextFrameId 1 ≠ 0
    omega
  presented {_ r o} h _ := by
    unfold presentRuntime
    dsimp only
    split_ifs <;> exact h
  failed {_ r o} h _ := by
    unfold failRuntime
    dsimp only
    split_ifs <;> exact h
  connected _ := by
    change 1 ≠ 0
    decide
  disabled h := h
  retired h := h

section Move

variable {d d' : HeadlessDisplay}

theorem erase_subset {m : OrdMap PresentationToken FramePublication} {key : PresentationToken}
    (h : (m.erase key).get? token = some frame) : m.get? token = some frame := by
  rw [OrdMap.get?_erase] at h
  split_ifs at h
  exact h

theorem JointMove.backend (ht : Tracks d) (h : JointMove d d') :
    BackendEffect d.backend d'.backend := by
  cases h with
  | quiet _ _ => exact .kept (.refl _) fun _ _ hp => hp
  | poll => exact .kept (.of_eq rfl rfl rfl) fun _ _ hp => hp
  | submitFailed _ _ _ hsub =>
    obtain ⟨hkept, hpending⟩ := submitFrame_error hsub
    exact .kept hkept fun _ _ hp => hpending ▸ hp
  | malformed hr hid hsub htoken =>
    exact absurd ((submitFrame_ok hsub).valid hid (ht.frameIds _ _ hr)) htoken
  | mismatched hr hsub hmismatch =>
    have htoken := (submitFrame_ok hsub).token
    rw [htoken] at hmismatch
    simp [HeadlessShmDisplayBackend.token, composedFrame] at hmismatch
  | submit _ hsub => exact .submitted _ _ (submitFrame_ok hsub)
  | present _ hc =>
    obtain ⟨frame, hcompleted⟩ := completeSubmission_ok hc
    exact .completed _ _ hcompleted.retire
  | completeFailed _ hc =>
    obtain ⟨hkept, hpending⟩ := completeSubmission_error hc
    refine .kept (hkept.trans (retireSubmission_kept _ _)) fun token frame hp => ?_
    change (OrdMap.erase _ _).get? token = some frame at hp
    rw [hpending] at hp
    exact erase_subset hp
  | fail _ =>
    refine .kept (retireSubmission_kept _ _) fun token frame hp => ?_
    exact erase_subset hp
  | connect _ _ => exact .kept (.refl _) fun _ _ hp => hp
  | replace hprevious _ _ hrec =>
    cases hrec
    refine .kept ((retireOutstanding_kept _ _).trans (reconfigureOutput_kept _ _ _))
      fun token frame hp => ?_
    exact (retireOutstanding_subset (OrdMap.get?_filter_eq_some.mp hp).1).1
  | unreconfigured _ hrec => cases hrec
  | disable _ =>
    refine .kept ((retireOutstanding_kept _ _).trans (removeOutput_kept _ _))
      fun token frame hp => ?_
    exact (retireOutstanding_subset (OrdMap.get?_filter_eq_some.mp hp).1).1
  | drop _ =>
    refine .kept ((retireOutstanding_kept _ _).trans (removeOutput_kept _ _))
      fun token frame hp => ?_
    exact (retireOutstanding_subset (OrdMap.get?_filter_eq_some.mp hp).1).1
  | retireAll => exact .kept (retireAll_kept _ _) fun _ _ hp => (retireAll_subset hp).1
  | clearOutputs _ => exact .kept (.refl _) fun _ _ hp => hp

theorem Tracks.move (ht : Tracks d) (h : JointMove d d') : Tracks d' := by
  have hframes : AllOutputs (fun _ r => r.nextFrameId ≠ 0) d'.state :=
    h.state.invariant (fun _ _ hi hm => frameIds_invariant.move hi hm) ht.frameIds
  cases h with
  | quiet _ hsame => exact ht.same hsame rfl hframes
  | poll => exact ht.same (fun _ => rfl) rfl hframes
  | submitFailed _ _ _ hsub =>
    exact ht.same (sameOutstanding_modify fun _ _ => rfl) (submitFrame_error hsub).2 hframes
  | malformed hr hid hsub htoken =>
    exact absurd ((submitFrame_ok hsub).valid hid (ht.frameIds _ _ hr)) htoken
  | mismatched hr hsub hmismatch =>
    have htoken := (submitFrame_ok hsub).token
    rw [htoken] at hmismatch
    simp [HeadlessShmDisplayBackend.token, composedFrame] at hmismatch
  | @submit s b b' id r scene pixels token hs hsub =>
    have hsubmitted := submitFrame_ok hsub
    have hof : ∀ id', (submitState s id (composedFrame r id scene pixels) token
        scene.commitId).outstandingOf id' =
        if id' = id then some ⟨token, composedFrame r id scene pixels⟩
        else s.outstandingOf id' := by
      intro id'
      refine (DisplayState.outstandingOf_modify s id id' _).trans ?_
      rw [hs.output]
      rfl
    have hfree : s.outstandingOf id = none := by
      rw [DisplayState.outstandingOf, hs.output]
      exact hs.free
    refine ⟨fun token' frame => ?_, fun id' o ho => ?_, hframes⟩
    · dsimp only
      rw [hsubmitted.pending, OrdMap.get?_insert]
      simp only [hof]
      split_ifs with htoken
      · rw [htoken]
        constructor
        · intro heq
          obtain rfl := Option.some.inj heq
          exact ⟨id, by rw [if_pos rfl]⟩
        · intro hex
          obtain ⟨id', ho⟩ := hex
          split_ifs at ho with hid
          · exact congrArg (some ∘ OutstandingPresentation.frame) (Option.some.inj ho)
          · have hname := ht.named id' _ ho
            exact absurd (hname.symm.trans hs.tokenOutput) hid
      · rw [ht.pending token' frame]
        constructor
        · intro hex
          obtain ⟨id', ho⟩ := hex
          refine ⟨id', ?_⟩
          rw [if_neg]
          · exact ho
          · rintro rfl
            rw [hfree] at ho
            cases ho
        · intro hex
          obtain ⟨id', ho⟩ := hex
          split_ifs at ho with hid
          · exact absurd (congrArg OutstandingPresentation.token (Option.some.inj ho)).symm htoken
          · exact ⟨id', ho⟩
    · rw [hof] at ho
      split_ifs at ho with hid
      · obtain rfl := Option.some.inj ho
        exact hs.tokenOutput.trans hid.symm
      · exact ht.named id' o ho
  | @present s b b' r o env hflight hc =>
    obtain ⟨frame, hcompleted⟩ := completeSubmission_ok hc
    have ho : s.outstandingOf o.token.outputId = some o :=
      DisplayState.outstandingOf_eq_some.mpr ⟨r, hflight.output, hflight.outstanding⟩
    refine ht.settle (fun id => id = o.token.outputId) (fun id => ?_) (fun token frame => ?_)
      hframes
    · have hout := (presentOutput_frame s env o o.token.outputId).2.2.2.2.2
      rw [DisplayState.outstandingOf, hout]
      exact DisplayState.outstandingOf_clear (fun r => presentRuntime_outstanding o r) id
    · rw [← ht.erase_outstanding ho]
      exact iff_of_eq (congrArg (fun m => OrdMap.get? m token = some frame)
        hcompleted.retire.retired)
  | @completeFailed s b b' r o reason hflight hc =>
    have ho : s.outstandingOf o.token.outputId = some o :=
      DisplayState.outstandingOf_eq_some.mpr ⟨r, hflight.output, hflight.outstanding⟩
    refine ht.settle (fun id => id = o.token.outputId)
      (DisplayState.outstandingOf_clear fun r => failRuntime_outstanding o r)
      (fun token frame => ?_) hframes
    rw [← ht.erase_outstanding ho]
    exact iff_of_eq (congrArg (fun m => OrdMap.get? m token = some frame)
      (completeSubmission_error hc).2)
  | @fail s b r o hflight =>
    have ho : s.outstandingOf o.token.outputId = some o :=
      DisplayState.outstandingOf_eq_some.mpr ⟨r, hflight.output, hflight.outstanding⟩
    refine ht.settle (fun id => id = o.token.outputId)
      (DisplayState.outstandingOf_clear fun r => failRuntime_outstanding o r)
      (fun token frame => ?_) hframes
    rw [← ht.erase_outstanding ho]
    rfl
  | @connect s b id state bounds hb instanceId cadence hnone _ =>
    have hfree : s.outstandingOf id = none := by
      rw [DisplayState.outstandingOf, hnone]
      rfl
    refine ht.same (fun id' => ?_) rfl hframes
    dsimp only
    rw [DisplayState.outstandingOf_insert s id rfl]
    split_ifs with hid
    · rw [hid, hfree]
    · rfl
  | @replace s b b' id previous state bounds hb instanceId cadence hprevious _ _ hrec =>
    cases hrec
    refine ht.settle (fun id' => id' = id)
      (DisplayState.outstandingOf_insert s id rfl) (fun token frame => ?_) hframes
    rw [← ht.retireOutstanding_pending hprevious]
    refine OrdMap.get?_filter_eq_some.trans ⟨fun hp => hp.1, fun hp => ⟨hp, ?_⟩⟩
    have hother := ((ht.retireOutstanding_pending hprevious token frame).mp hp).2
    simp [hother]
  | unreconfigured _ hrec => cases hrec
  | @disable s b id r hr =>
    refine ht.settle (fun id' => id' = id)
      (DisplayState.outstandingOf_clear fun _ => rfl) (fun token frame => ?_) hframes
    rw [← ht.retireOutstanding_pending hr]
    refine OrdMap.get?_filter_eq_some.trans ⟨fun hp => hp.1, fun hp => ⟨hp, ?_⟩⟩
    have hother := ((ht.retireOutstanding_pending hr token frame).mp hp).2
    simp [hother]
  | @drop d id r hr =>
    refine ht.settle (fun id' => id' = id) (fun id' => ?_) (fun token frame => ?_) hframes
    · unfold Display.dropOutput DisplayState.outstandingOf
      dsimp only
      rw [OrdMap.get?_erase]
      split_ifs
      · rfl
      · rfl
    · rw [← ht.retireOutstanding_pending hr]
      refine OrdMap.get?_filter_eq_some.trans ⟨fun hp => hp.1, fun hp => ⟨hp, ?_⟩⟩
      have hother := ((ht.retireOutstanding_pending hr token frame).mp hp).2
      simp [hother]
  | retireAll =>
    refine ht.settle (fun _ => True) (fun id => ?_) (fun token frame => ?_) hframes
    · rw [if_pos trivial]
      exact outstandingOf_retireAll d id
    · rw [not_true, and_false, iff_false]
      intro hp
      obtain ⟨hpending, hretired⟩ := retireAll_subset hp
      obtain ⟨r, hr, ho⟩ := DisplayState.outstandingOf_eq_some.mp (ht.outstanding.mp hpending)
      exact hretired r (OrdMap.mem_values.mpr ⟨_, hr⟩) _ ho rfl
  | clearOutputs hclear =>
    refine ht.same (fun id => ?_) rfl hframes
    rw [hclear id]
    rfl

end Move

/-- What the sequence numbers and the completed submissions have to do with each other. -/
structure Numbered (b : HeadlessShmDisplayBackend) : Prop where
  pending : ∀ token frame, b.pending.get? token = some frame → token.sequence ≤ b.nextSequence
  completed : ∀ e ∈ b.completed, e.1.sequence ≤ b.nextSequence
  fresh : ∀ e ∈ b.completed, e.1.sequence < u64Max → b.pending.get? e.1 = none
  once : ∀ token, token.sequence < u64Max → (b.completed.map Prod.fst).count token ≤ 1
  latest : ∀ id frame, b.capturePublished id = some frame →
    ∃ token, b.completed.find? (fun e => e.1.outputId = id) = some (token, frame)

namespace Numbered

variable {b b' : HeadlessShmDisplayBackend}

theorem of_fresh (h : b.Fresh) : Numbered b where
  pending token frame hp := by
    rw [h.pending] at hp
    cases hp
  completed e he := by
    rw [h.completed] at he
    cases he
  fresh e he := by
    rw [h.completed] at he
    cases he
  once token _ := by
    rw [h.completed]
    exact Nat.zero_le _
  latest id frame hf := by
    rw [capturePublished, h.outputs] at hf
    cases hf

theorem captured_kept (h : Numbered b) (hkept : Kept b b') (id : String)
    (frame : FramePublication) (hf : b'.capturePublished id = some frame) :
    ∃ token, b'.completed.find? (fun e => e.1.outputId = id) = some (token, frame) := by
  rw [hkept.completed]
  cases hkept.captured id with
  | inl hsame => exact h.latest id frame (hsame ▸ hf)
  | inr hnone =>
    rw [hnone] at hf
    cases hf

theorem kept (h : Numbered b) (hkept : Kept b b')
    (hpending : ∀ token frame, b'.pending.get? token = some frame →
      b.pending.get? token = some frame) : Numbered b' where
  pending token frame hp := (h.pending token frame (hpending _ _ hp)).trans hkept.nextSequence
  completed e he := (h.completed e (hkept.completed ▸ he)).trans hkept.nextSequence
  fresh e he hsmall := by
    rw [hkept.completed] at he
    rw [Option.eq_none_iff_forall_ne_some]
    intro frame hp
    have hnone := h.fresh e he hsmall
    rw [hpending _ _ hp] at hnone
    cases hnone
  once token hsmall := by
    rw [hkept.completed]
    exact h.once token hsmall
  latest := h.captured_kept hkept

theorem submitted (h : Numbered b) (hs : Submitted b frame b' token) : Numbered b' := by
  have hsequence : token.sequence = b'.nextSequence := congrArg PresentationToken.sequence hs.token
  refine ⟨fun token' frame' hp => ?_, fun e he => ?_, fun e he hsmall => ?_, fun token' hsmall => ?_,
    h.captured_kept hs.kept⟩
  · rw [hs.pending, OrdMap.get?_insert] at hp
    split_ifs at hp with htoken
    · rw [htoken, hsequence]
    · exact (h.pending token' frame' hp).trans hs.kept.nextSequence
  · exact (h.completed e (hs.kept.completed ▸ he)).trans hs.kept.nextSequence
  · rw [hs.kept.completed] at he
    rw [hs.pending, OrdMap.get?_insert, if_neg, h.fresh e he hsmall]
    intro htoken
    have hle := h.completed e he
    rw [htoken, hsequence, hs.nextSequence] at hsmall hle
    unfold satAdd at hsmall hle
    omega
  · rw [hs.kept.completed]
    exact h.once token' hsmall

theorem present (h : Numbered b) (hc : Completed b token frame b') : Numbered b' := by
  refine ⟨fun token' frame' hp => ?_, fun e he => ?_, fun e he hsmall => ?_, fun token' hsmall => ?_,
    fun id frame' hf => ?_⟩
  · rw [hc.retired] at hp
    rw [hc.nextSequence]
    exact h.pending token' frame' (erase_subset hp)
  · rw [hc.completed] at he
    rw [hc.nextSequence]
    cases List.mem_cons.mp he with
    | inl heq => exact heq ▸ h.pending token frame hc.pending
    | inr hold => exact h.completed e hold
  · rw [hc.retired, OrdMap.get?_erase]
    split_ifs with htoken
    · rfl
    · rw [hc.completed] at he
      cases List.mem_cons.mp he with
      | inl heq => exact absurd (heq ▸ rfl) htoken
      | inr hold => exact h.fresh e hold hsmall
  · rw [hc.completed, List.map_cons, List.count_cons]
    split_ifs with htoken
    · have heq : token = token' := beq_iff_eq.mp htoken
      have habsent : (b.completed.map Prod.fst).count token' = 0 := by
        rw [List.count_eq_zero]
        intro hmem
        obtain ⟨e, he, heq'⟩ := List.mem_map.mp hmem
        have hnone := h.fresh e he (heq' ▸ hsmall)
        rw [heq', ← heq, hc.pending] at hnone
        cases hnone
      omega
    · exact h.once token' hsmall
  · rw [hc.captured] at hf
    rw [hc.completed, List.find?_cons]
    split_ifs at hf with hid
    · obtain rfl := Option.some.inj hf
      refine ⟨token, ?_⟩
      simp [hid]
    · obtain ⟨token', hfind⟩ := h.latest id frame' hf
      refine ⟨token', ?_⟩
      simp [Ne.symm hid, hfind]

theorem effect (h : Numbered b) (he : BackendEffect b b') : Numbered b' := by
  cases he with
  | kept hkept hpending => exact h.kept hkept hpending
  | submitted frame token hs => exact h.submitted hs
  | completed token frame hc => exact h.present hc

end Numbered

/-- Between the two backends an output's capture only went away or became the frame of a
submission completed since. -/
def CapturesFrom (b b' : HeadlessShmDisplayBackend) : Prop :=
  ∃ since, b'.completed = since ++ b.completed ∧
    ∀ id, b'.capturePublished id = b.capturePublished id ∨ b'.capturePublished id = none ∨
      ∃ e ∈ since, e.1.outputId = id ∧ b'.capturePublished id = some e.2

theorem CapturesFrom.refl (b : HeadlessShmDisplayBackend) : CapturesFrom b b :=
  ⟨[], rfl, fun _ => .inl rfl⟩

theorem CapturesFrom.trans (h : CapturesFrom a b) (h' : CapturesFrom b c) : CapturesFrom a c := by
  obtain ⟨since, hcompleted, hcaptured⟩ := h
  obtain ⟨since', hcompleted', hcaptured'⟩ := h'
  refine ⟨since' ++ since, by rw [hcompleted', hcompleted, List.append_assoc], fun id => ?_⟩
  rcases hcaptured' id with hsame | hnone | ⟨e, he, hid, hframe⟩
  · rw [hsame]
    rcases hcaptured id with hsame | hnone | ⟨e, he, hid, hframe⟩
    · exact .inl hsame
    · exact .inr (.inl hnone)
    · exact .inr (.inr ⟨e, List.mem_append_right _ he, hid, hframe⟩)
  · exact .inr (.inl hnone)
  · exact .inr (.inr ⟨e, List.mem_append_left _ he, hid, hframe⟩)

theorem CapturesFrom.of_kept (h : Kept b b') : CapturesFrom b b' := by
  refine ⟨[], h.completed, fun id => ?_⟩
  cases h.captured id with
  | inl hsame => exact .inl hsame
  | inr hnone => exact .inr (.inl hnone)

theorem CapturesFrom.of_effect (h : BackendEffect b b') : CapturesFrom b b' := by
  cases h with
  | kept hkept _ => exact .of_kept hkept
  | submitted frame token hs => exact .of_kept hs.kept
  | completed token frame hc =>
    refine ⟨[(token, frame)], hc.completed, fun id => ?_⟩
    rw [hc.captured]
    split_ifs with hid
    · exact .inr (.inr ⟨_, List.mem_singleton.mpr rfl, hid.symm, rfl⟩)
    · exact .inl rfl

/-- The token of the frame an output of that generation has outstanding. -/
def Current (s : DisplayState) (token : PresentationToken) : Prop :=
  ∃ r o, s.outputs.get? token.outputId = some r ∧
    r.state.outputGeneration = token.outputGeneration ∧ r.outstanding = some o ∧ o.token = token

theorem preflight_ok (h : preflightPresentationToken s token = .ok o) : Current s token := by
  unfold preflightPresentationToken at h
  split at h
  · cases h
  · split at h
    · cases h
    · rename_i r hr
      split_ifs at h with hgeneration
      split at h
      · cases h
      · rename_i o' ho
        split_ifs at h with htoken
        exact ⟨r, o', hr, not_not.mp hgeneration, ho, not_not.mp htoken⟩

theorem preflight_error {result : PresentationCompletion}
    (h : preflightPresentationToken s token = .error result) : result ≠ .presented := by
  rintro rfl
  unfold preflightPresentationToken at h
  split at h
  · cases h
  · split at h
    · cases h
    · split_ifs at h
      · cases h
      · cases h
      · split at h
        · cases h
        · split_ifs at h
          cases h

/-- A completion that names no current token is answered and otherwise ignored. -/
theorem stray_completion {β : Type} [DisplayBackend β] {d : Display β} {env : Env}
    {outcome : PresentationCompletion} (h : ¬ Current d.state token) :
    (d.finishBackendCompletion env token outcome).1 = d := by
  unfold Display.finishBackendCompletion
  cases hpre : preflightPresentationToken d.state token with
  | error result => rfl
  | ok o => exact absurd (preflight_ok hpre) h

/-- The answer to a completion is Presented exactly when the backend completes the token. -/
theorem presented_answer (d : HeadlessDisplay) (env : Env) (token : PresentationToken)
    (outcome : PresentationCompletion) :
    let result := d.finishBackendCompletion env token outcome
    (result.2 = .presented ∧
        ∃ frame, result.1.backend.completed = (token, frame) :: d.backend.completed) ∨
      (result.2 ≠ .presented ∧ result.1.backend.completed = d.backend.completed) := by
  dsimp only
  unfold Display.finishBackendCompletion
  cases hpre : preflightPresentationToken d.state token with
  | error result => exact .inr ⟨preflight_error hpre, rfl⟩
  | ok o =>
    dsimp only
    split_ifs with houtcome
    · split
      · rename_i hc
        refine .inr ⟨?_, (completeSubmission_error hc).1.completed⟩
        simp [completePresentation, hpre]
      · rename_i hc
        obtain ⟨frame, hcompleted⟩ := completeSubmission_ok hc
        refine .inl ⟨?_, frame, hcompleted.completed⟩
        simp [completePresentation, hpre]
    · refine .inr ⟨?_, rfl⟩
      simpa [completePresentation, hpre] using houtcome

/-- Displayd on the shared-memory backend, whose processes start with a fresh backend. -/
def headlessSystem : System (Server HeadlessShmDisplayBackend) (Input HeadlessShmDisplayBackend) where
  init srv := ∃ epoch keeps backend, Fresh backend ∧
    srv = Server.start epoch keeps backend none []
  next := Server.step

def FreshRestart (_ : Server HeadlessShmDisplayBackend) : Input HeadlessShmDisplayBackend → Prop
  | .client _ => True
  | .restart _ _ backend => Fresh backend

namespace Server

theorem headless_reachable (h : headlessSystem.Reach FreshRestart srv) :
    (system HeadlessShmDisplayBackend).Reachable srv := by
  induction h with
  | init hinit =>
    obtain ⟨epoch, keeps, backend, _, hsrv⟩ := hinit
    exact .init ⟨epoch, keeps, backend, hsrv⟩
  | next input _ _ ih => exact .next input ih trivial

theorem tracks_start (epoch : Nat) (keeps : Bool) {backend : HeadlessShmDisplayBackend}
    (h : Fresh backend) (lastScene : Option CommittedSceneState)
    (history : List DisplayEffect) :
    Tracks (start epoch keeps backend lastScene history).display := by
  have hfree : ∀ id, (start epoch keeps backend lastScene history).display.state.outstandingOf
      id = none := by
    intro id
    unfold DisplayState.outstandingOf
    cases hr : (start epoch keeps backend lastScene history).display.state.outputs.get? id with
    | none => rfl
    | some r =>
      obtain ⟨_, rfl⟩ := startOutputs_get? hr
      rfl
  refine ⟨fun token frame => ?_, fun id o ho => ?_, fun id r hr => ?_⟩
  · have hnone : (start epoch keeps backend lastScene history).display.backend.pending.get?
        token = none := by
      change backend.pending.get? token = none
      rw [h.pending]
      rfl
    simp [hnone, hfree]
  · rw [hfree] at ho
    cases ho
  · obtain ⟨_, rfl⟩ := startOutputs_get? hr
    decide

/-- As long as the process runs, its outputs and its backend agree. -/
theorem tracked (h : headlessSystem.Reach FreshRestart srv) (hrunning : srv.halted = false) :
    Tracks srv.display ∧ Numbered srv.display.backend := by
  refine System.Reach.invariant_with
    (I := fun srv : Server HeadlessShmDisplayBackend => srv.halted = false →
      Tracks srv.display ∧ Numbered srv.display.backend)
    (fun _ => headless_reachable) ?_ ?_ h hrunning
  · intro srv hinit _
    obtain ⟨epoch, keeps, backend, hfresh, rfl⟩ := hinit
    exact ⟨tracks_start epoch keeps hfresh _ _, .of_fresh hfresh⟩
  · intro srv input hreach hI hgood hrunning
    cases input with
    | restart epoch keeps backend => exact ⟨tracks_start epoch keeps hgood _ _, .of_fresh hgood⟩
    | client conn =>
      have hbefore : srv.halted = false := by
        by_contra hhalted
        rw [Bool.not_eq_false] at hhalted
        have hstuck : (srv.step (.client conn)).halted = true := by
          simp only [step, hhalted, if_true]
        exact absurd (hstuck.symm.trans hrunning) (by decide)
      refine JointMoves.invariant (I := fun d : HeadlessDisplay => Tracks d ∧ Numbered d.backend)
        (fun d d' hd hm => ⟨hd.1.move hm, hd.2.effect (hm.backend hd.1)⟩)
        (client_joint hreach hrunning) (hI hbefore)

/-- What presentation tokens are good for, in every state of every run of displayd on the
shared-memory backend. -/
structure TokenLaw (srv : Server HeadlessShmDisplayBackend) : Prop where
  pending : ∀ token frame, srv.display.backend.pending.get? token = some frame ↔
    ∃ r, srv.display.state.outputs.get? token.outputId = some r ∧
      r.outstanding = some ⟨token, frame⟩
  named : ∀ id r o, srv.display.state.outputs.get? id = some r → r.outstanding = some o →
    o.token.outputId = id
  single : ∀ token token' frame frame', srv.display.backend.pending.get? token = some frame →
    srv.display.backend.pending.get? token' = some frame' →
    token.outputId = token'.outputId → token = token'
  once : ∀ token, token.sequence < u64Max →
    (srv.display.backend.completed.map Prod.fst).count token ≤ 1
  answer : ∀ env token outcome,
    let result := srv.display.finishBackendCompletion env token outcome;
    (result.2 = .presented ∧ ∃ frame,
        result.1.backend.completed = (token, frame) :: srv.display.backend.completed) ∨
      (result.2 ≠ .presented ∧
        result.1.backend.completed = srv.display.backend.completed)
  stray : ∀ env source topologySequence token outcome, ¬ Current srv.display.state token →
    (srv.display.handleDisplayCommand env source topologySequence
      (.completePresentation token outcome)).1 = srv.display
  latest : ∀ id frame, srv.display.backend.capturePublished id = some frame →
    ∃ token, srv.display.backend.completed.find? (fun e => e.1.outputId = id) =
      some (token, frame)
  captures : ∀ conn, (srv.step (.client conn)).halted = false →
    CapturesFrom srv.display.backend (srv.step (.client conn)).display.backend

theorem token_law {srv : Server HeadlessShmDisplayBackend}
    (h : headlessSystem.Reach FreshRestart srv) (hrunning : srv.halted = false) :
    TokenLaw srv := by
  obtain ⟨htracks, hnumbered⟩ := tracked h hrunning
  refine ⟨fun token frame => ?_, fun id r o hr ho => ?_, fun token token' frame frame' hp hp' hid => ?_,
    hnumbered.once, fun env token outcome => presented_answer _ env token outcome,
    fun env source sequence token outcome hstray => stray_completion hstray,
    hnumbered.latest, fun conn hnext => ?_⟩
  · exact htracks.outstanding.trans DisplayState.outstandingOf_eq_some
  · exact htracks.named id o (DisplayState.outstandingOf_eq_some.mpr ⟨r, hr, ho⟩)
  · have ho := htracks.outstanding.mp hp
    rw [hid, htracks.outstanding.mp hp'] at ho
    exact (congrArg OutstandingPresentation.token (Option.some.inj ho)).symm
  · have hboth := JointMoves.invariant
      (I := fun d : HeadlessDisplay => Tracks d ∧ CapturesFrom srv.display.backend d.backend)
      (fun d d' hd hm => ⟨hd.1.move hm, hd.2.trans (.of_effect (hm.backend hd.1))⟩)
      (client_joint (headless_reachable h) hnext) ⟨htracks, .refl _⟩
    exact hboth.2

theorem headless_serve (requests : List Request) :
    headlessSystem.Reach FreshRestart (serve {} requests) := by
  have hinit : headlessSystem.init (start 1 false ({} : HeadlessShmDisplayBackend) none []) :=
    ⟨1, false, {}, ⟨rfl, rfl, rfl, rfl⟩, rfl⟩
  refine System.Reach.run (S := headlessSystem) (.init hinit) _ fun input hinput srv => ?_
  obtain ⟨request, _, rfl⟩ := List.mem_map.mp hinput
  trivial

/-- A frame presented on an output of one pixel. -/
def presentedServer : Server HeadlessShmDisplayBackend :=
  serve {} [.command (.configureOutput pixelGeometry), .command (.commitScene (drawnScene 1 1)),
    .command (.advancePresentation "eDP-1" 1 1 1)]

theorem token_law_presented :
    headlessSystem.Reach FreshRestart presentedServer ∧ presentedServer.halted = false ∧
      TokenLaw presentedServer :=
  ⟨headless_serve _, by decide, token_law (headless_serve _) (by decide)⟩

def pixelFrame : FramePublication where
  frameId := 1
  commitId := 1
  outputId := "eDP-1"
  outputGeneration := 1
  sceneEpoch := 1
  sceneGeneration := 1
  geometry := pixelGeometry
  format := wlShmFormatXrgb8888
  stride := 4
  pixels := [0]
  damage := []

/-- Removing the output takes its captured frame away, and nothing is presented. Once the
sequence numbers are used up, a completed token is handed out again. -/
theorem removal_clears_capture :
    let srv := presentedServer.step
      (.client { request := some (.command (.removeOutput "eDP-1" 1)) });
    let worn : HeadlessShmDisplayBackend := { nextSequence := u64Max };
    headlessSystem.Reach FreshRestart presentedServer ∧
      (presentedServer.display.backend.capturePublished "eDP-1").isSome = true ∧
      srv.halted = false ∧
      srv.display.backend.completed = presentedServer.display.backend.completed ∧
      srv.display.backend.capturePublished "eDP-1" = none ∧
      ∃ token, (worn.submitFrame pixelFrame).2 = .ok token ∧
        ((worn.submitFrame pixelFrame).1.completeSubmission token).2 = .ok () ∧
        (((worn.submitFrame pixelFrame).1.completeSubmission token).1.submitFrame
          pixelFrame).2 = .ok token :=
  ⟨headless_serve _, by decide, by decide, rfl, by decide, _, rfl, rfl, rfl⟩

end Server

end TuffXwin.Displayd
