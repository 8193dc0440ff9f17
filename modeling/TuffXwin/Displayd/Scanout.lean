import TuffXwin.Displayd.Backends
import TuffXwin.Displayd.DrmKms
import TuffXwin.Lib.Reach

/-! Which buffer a scanout may write to. While every flip is read before its scanout gives up,
no flip is left over between two scanouts, the active slot is what its CRTC shows, and the
other one is free. A flip that is left over makes the other one its target. -/

namespace TuffXwin.Displayd
open Lib

variable {kernel : Kernel} {output : KmsOutput} {frame : FramePublication}
  {answers : ScanoutAnswers} {backend : DrmKmsBackend} {flip : PageFlip}
variable {target : ScanoutTarget} {encoders : List (List Nat)} {crtcId : Nat} {found : Discovery}
variable {kernel' : Kernel} {after : DrmKmsBackend} {flipId : Nat}

/-- The buffer is neither shown nor about to be. -/
def Copy.Free (copy : Copy) : Prop :=
  copy.displaying ≠ some copy.framebufferId ∧ copy.framebufferId ∉ copy.targets

instance (copy : Copy) : Decidable copy.Free := inferInstanceAs (Decidable (_ ∧ _))

/-- No copy went into a live buffer, the active slots are what is shown, and the scanouts
whose event arrived have returned. -/
structure ScanoutSound (backend : DrmKmsBackend) : Prop where
  copies : ∀ copy ∈ backend.copies, copy.Free
  active : ∀ id output, backend.outputs.get? id = some output →
    backend.kernel.displaying output.crtcId = output.activeFramebuffer
  returned : ∀ flipId ∈ backend.arrived, flipId ∈ backend.finished

/-- Whether the event of a flip is read in one of the turns, before one of them fails. -/
def arrives (flipId : Nat) : Kernel → List Turn → Bool
  | _, [] => false
  | kernel, turn :: turns =>
    let completed := kernel.complete turn.completes
    match turn.poll with
    | .interrupted => arrives flipId completed turns
    | .handled delivered =>
      decide (flipId ∈ completed.deliverable delivered) ||
        arrives flipId (completed.deliver delivered) turns
    | _ => false

/-- A flip that the kernel takes gets a new id, and its event is read. -/
def Punctual (answers : ScanoutAnswers) (frame : FramePublication) (backend : DrmKmsBackend) :
    Prop :=
  ∀ target prepared, prepareFrame answers frame backend = .ok target prepared →
    target.firstModeset = false → prepared.nextFlipId ≠ 0 → answers.pageFlip = true →
      prepared.lastFlipId ≠ prepared.nextFlipId ∧
        arrives prepared.nextFlipId
          (prepared.kernel.flip ⟨prepared.nextFlipId, target.crtcId, target.framebufferId⟩)
          answers.turns = true

/-- The same as a computation. -/
def punctual (answers : ScanoutAnswers) (frame : FramePublication) (backend : DrmKmsBackend) :
    Bool :=
  match prepareFrame answers frame backend with
  | .error _ _ => true
  | .ok target prepared =>
    target.firstModeset || decide (prepared.nextFlipId = 0) || !answers.pageFlip ||
      (decide (prepared.lastFlipId ≠ prepared.nextFlipId) &&
        arrives prepared.nextFlipId
          (prepared.kernel.flip ⟨prepared.nextFlipId, target.crtcId, target.framebufferId⟩)
          answers.turns)

theorem punctual_iff : punctual answers frame backend = true ↔ Punctual answers frame backend := by
  unfold punctual Punctual
  cases hrun : prepareFrame answers frame backend with
  | error err after => simp
  | ok target prepared =>
    dsimp only
    constructor
    · rintro h target' prepared' heq hfirst hzero hflip
      obtain ⟨rfl, rfl⟩ := EStateM.Result.ok.inj heq
      simpa [hfirst, hzero, hflip] using h
    · intro h
      have hthis := h target prepared rfl
      by_cases hfirst : target.firstModeset = true
      · simp [hfirst]
      · by_cases hzero : prepared.nextFlipId = 0
        · simp [hzero]
        · by_cases hflip : answers.pageFlip = true
          · simpa [hfirst, hzero, hflip] using hthis (by simpa using hfirst) hzero hflip
          · simp [hflip]

instance (answers : ScanoutAnswers) (frame : FramePublication) (backend : DrmKmsBackend) :
    Decidable (Punctual answers frame backend) := decidable_of_iff _ punctual_iff

inductive DrmEvent
  | publish (answers : ScanoutAnswers) (frame : FramePublication)
  | submit (answers : ScanoutAnswers) (frame : FramePublication)
  | reconfigure (outputId : String)
  | remove (outputId : String)
  | complete (flipIds : List Nat)

/-- The backend after a program, however it ended. -/
def resulting {α : Type} : EStateM.Result String DrmKmsBackend α → DrmKmsBackend
  | .ok _ backend => backend
  | .error _ backend => backend

/-- The runs of a backend over the outputs that it discovered. -/
def drmRuns : System DrmKmsBackend DrmEvent where
  init backend := ∃ epoch connectors nextFramebuffer,
    backend =
      { outputs := (discover epoch connectors).outputs
        outputEvents := (discover epoch connectors).events
        backendInstanceId := epoch
        kernel := { nextFramebuffer } }
  next backend event :=
    match event with
    | .publish answers frame => resulting (drmPublishFrame answers frame backend)
    | .submit answers frame => resulting (drmSubmitFrame answers frame backend)
    | .reconfigure outputId => resulting (drmReconfigureOutput outputId backend)
    | .remove outputId => backend.removeOutput outputId
    | .complete flipIds => { backend with kernel := backend.kernel.complete flipIds }

/-- The flips of an event are read in time. -/
def InTime (backend : DrmKmsBackend) : DrmEvent → Prop
  | .publish answers frame => Punctual answers frame backend
  | .submit answers frame =>
    (backend.token frame).validate = .ok () → Punctual answers frame backend
  | _ => True

/-! What holds between two scanouts. -/

/-- The CRTC of the output shows its active slot; its buffers are two. -/
structure KmsOutput.Shown (kernel : Kernel) (output : KmsOutput) : Prop where
  displayed : kernel.displaying output.crtcId = output.activeFramebuffer
  buffered : ∀ slot, output.activeSlot = some slot → (output.buffers slot).isSome
  known : ∀ slot buffer, output.buffers slot = some buffer →
    buffer.framebufferId < kernel.nextFramebuffer
  distinct : ∀ slot slot' buffer buffer', output.buffers slot = some buffer →
    output.buffers slot' = some buffer' → buffer.framebufferId = buffer'.framebufferId →
      slot = slot'

structure DrmKept (backend : DrmKmsBackend) : Prop where
  settled : backend.kernel.pending = []
  read : backend.kernel.events = []
  outputs : ∀ id output, backend.outputs.get? id = some output → output.Shown backend.kernel
  apart : ∀ id id' output output', backend.outputs.get? id = some output →
    backend.outputs.get? id' = some output' → output.crtcId = output'.crtcId → id = id'
  copies : ∀ copy ∈ backend.copies, copy.Free
  returned : ∀ flipId ∈ backend.arrived, flipId ∈ backend.finished

theorem DrmKept.sound (h : DrmKept backend) : ScanoutSound backend :=
  ⟨h.copies, fun id output hget => (h.outputs id output hget).displayed, h.returned⟩

theorem KmsOutput.Shown.mono (h : output.Shown kernel)
    (hdisplaying : kernel'.displaying output.crtcId = kernel.displaying output.crtcId)
    (hnext : kernel.nextFramebuffer ≤ kernel'.nextFramebuffer) : output.Shown kernel' :=
  ⟨hdisplaying.trans h.displayed, h.buffered,
    fun slot buffer hslot => (h.known slot buffer hslot).trans_le hnext, h.distinct⟩

/-- One output and what its CRTC shows may change. -/
theorem DrmKept.replace {id : String} {output' : KmsOutput} (h : DrmKept backend)
    (hget : backend.outputs.get? id = some output) (hself : after.outputs.get? id = some output')
    (hothers : ∀ id', id' ≠ id → after.outputs.get? id' = backend.outputs.get? id')
    (hcrtc : output'.crtcId = output.crtcId) (hsettled : after.kernel.pending = [])
    (hread : after.kernel.events = [])
    (hnext : backend.kernel.nextFramebuffer ≤ after.kernel.nextFramebuffer)
    (hdisplaying : ∀ crtcId, crtcId ≠ output.crtcId →
      after.kernel.displaying crtcId = backend.kernel.displaying crtcId)
    (hshown : output'.Shown after.kernel) (hcopies : ∀ copy ∈ after.copies, copy.Free)
    (hreturned : ∀ flipId ∈ after.arrived, flipId ∈ after.finished) : DrmKept after := by
  have hfound : ∀ id' other, after.outputs.get? id' = some other →
      (id' = id ∧ other = output') ∨ (id' ≠ id ∧ backend.outputs.get? id' = some other) := by
    intro id' other hother
    by_cases hid : id' = id
    · rw [hid, hself] at hother
      exact .inl ⟨hid, (Option.some.inj hother).symm⟩
    · rw [hothers id' hid] at hother
      exact .inr ⟨hid, hother⟩
  refine ⟨hsettled, hread, fun id' other hother => ?_, fun id' id'' other other' hother hother'
    hsame => ?_, hcopies, hreturned⟩
  · rcases hfound id' other hother with ⟨-, rfl⟩ | ⟨hne, hold⟩
    · exact hshown
    · refine (h.outputs id' other hold).mono (hdisplaying _ fun heq => ?_) hnext
      exact hne (h.apart id' id other output hold hget heq)
  · rcases hfound id' other hother with ⟨rfl, rfl⟩ | ⟨hne, hold⟩
    · rcases hfound id'' other' hother' with ⟨rfl, rfl⟩ | ⟨hne', hold'⟩
      · rfl
      · exact absurd (h.apart id'' id' other' output hold' hget (hsame.symm.trans hcrtc)) hne'
    · rcases hfound id'' other' hother' with ⟨rfl, rfl⟩ | ⟨hne', hold'⟩
      · exact absurd (h.apart id' id'' other output hold hget (hsame.trans hcrtc)) hne
      · exact h.apart id' id'' other other' hold hold' hsame

/-- Whatever else changes, the kernel and the outputs decide. -/
theorem DrmKept.move (h : DrmKept backend) (houtputs : after.outputs = backend.outputs)
    (hkernel : after.kernel = backend.kernel) (hcopies : after.copies = backend.copies)
    (harrived : after.arrived = backend.arrived) (hfinished : after.finished = backend.finished) :
    DrmKept after := by
  refine ⟨?_, ?_, ?_, ?_, ?_, ?_⟩
  · rw [hkernel]
    exact h.settled
  · rw [hkernel]
    exact h.read
  · rw [houtputs, hkernel]
    exact h.outputs
  · rw [houtputs]
    exact h.apart
  · rw [hcopies]
    exact h.copies
  · rw [harrived, hfinished]
    exact h.returned

variable {backend : DrmKmsBackend}

/-! The buffer that is written. -/

theorem KmsOutput.nextSlot_ne {slot : Fin 2} (h : output.activeSlot = some slot) :
    output.nextSlot ≠ slot := by
  have hother : ∀ slot : Fin 2, 1 - slot ≠ slot := by decide
  rw [KmsOutput.nextSlot, h]
  exact hother slot

/-- A new framebuffer in the slot that is not active. -/
theorem KmsOutput.Shown.setBuffer {buffer : ScanoutBuffer} (h : output.Shown kernel)
    (hnew : buffer.framebufferId < kernel.nextFramebuffer)
    (hfresh : ∀ slot buffer', slot ≠ output.nextSlot → output.buffers slot = some buffer' →
      buffer'.framebufferId ≠ buffer.framebufferId) :
    (output.setBuffer output.nextSlot buffer).Shown kernel := by
  have hbuffers : ∀ slot, slot ≠ output.nextSlot →
      (output.setBuffer output.nextSlot buffer).buffers slot = output.buffers slot := by
    intro slot hslot
    exact Function.update_of_ne hslot _ _
  have hnext : (output.setBuffer output.nextSlot buffer).buffers output.nextSlot = some buffer :=
    Function.update_self ..
  have hactive : ∀ slot, output.activeSlot = some slot →
      (output.setBuffer output.nextSlot buffer).buffers slot = output.buffers slot :=
    fun slot hslot => hbuffers slot (KmsOutput.nextSlot_ne hslot).symm
  constructor
  · change kernel.displaying output.crtcId = _
    rw [h.displayed]
    unfold KmsOutput.activeFramebuffer
    change _ = output.activeSlot.bind _
    cases hslot : output.activeSlot with
    | none => rfl
    | some slot =>
      simp only [Option.bind_some]
      rw [hactive slot hslot]
  · intro slot hslot
    rw [hactive slot hslot]
    exact h.buffered slot hslot
  · intro slot other hother
    by_cases hslot : slot = output.nextSlot
    · rw [hslot, hnext] at hother
      obtain rfl := Option.some.inj hother
      exact hnew
    · rw [hbuffers slot hslot] at hother
      exact h.known slot other hother
  · intro slot slot' other other' hother hother' hsame
    by_cases hslot : slot = output.nextSlot
    · by_cases hslot' : slot' = output.nextSlot
      · exact hslot.trans hslot'.symm
      · rw [hslot, hnext] at hother
        obtain rfl := Option.some.inj hother
        rw [hbuffers slot' hslot'] at hother'
        exact absurd hsame.symm (hfresh slot' other' hslot' hother')
    · by_cases hslot' : slot' = output.nextSlot
      · rw [hslot', hnext] at hother'
        obtain rfl := Option.some.inj hother'
        rw [hbuffers slot hslot] at hother
        exact absurd hsame (hfresh slot other hslot hother)
      · rw [hbuffers slot hslot] at hother
        rw [hbuffers slot' hslot'] at hother'
        exact h.distinct slot slot' other other' hother hother' hsame

theorem createBuffer_ends (answers : ScanoutAnswers) (output : KmsOutput) (h : DrmKept backend) :
    Ends (fun _ => DrmKept) (createBuffer answers output) backend fun buffer after =>
      DrmKept after ∧ after.outputs = backend.outputs ∧
        buffer.framebufferId = backend.kernel.nextFramebuffer ∧
        after.kernel.nextFramebuffer = backend.kernel.nextFramebuffer + 1 := by
  have hkept : DrmKept { backend with
      kernel := { backend.kernel with
        nextFramebuffer := backend.kernel.nextFramebuffer + 1 } } :=
    ⟨h.settled, h.read, fun id other hget => (h.outputs id other hget).mono rfl (Nat.le_succ _),
      h.apart, h.copies, h.returned⟩
  unfold createBuffer
  cases answers.createDumb with
  | error err => exact h
  | ok dumb =>
    dsimp only
    cases u32Checked (output.mode.hdisplay * 4) with
    | none => exact h
    | some row =>
      dsimp only
      split_ifs
      · exact h
      · rw [ends_bind, ends_get, ends_bind, ends_set]
        cases answers.register with
        | error err => exact hkept
        | ok => exact ⟨hkept, rfl, rfl, rfl⟩

/-- The output of a frame, with a buffer in its next slot. -/
def Allocated (backend : DrmKmsBackend) (outputId : String) : Prop :=
  ∃ output buffer, backend.outputs.get? outputId = some output ∧
    output.buffers output.nextSlot = some buffer

theorem allocateBuffer_ends (answers : ScanoutAnswers) {outputId : String} (h : DrmKept backend)
    (hget : backend.outputs.get? outputId = some output) :
    Ends (fun _ => DrmKept) (allocateBuffer answers outputId output) backend fun _ after =>
      DrmKept after ∧ Allocated after outputId := by
  unfold allocateBuffer
  cases hbuffer : output.buffers output.nextSlot with
  | some buffer => exact ⟨h, output, buffer, hget, hbuffer⟩
  | none =>
    rw [ends_bind]
    refine (createBuffer_ends answers output h).mono ?_
    rintro buffer after ⟨hafter, houtputs, hid, hnext⟩
    rw [ends_modify]
    have hget' : after.outputs.get? outputId = some output := houtputs ▸ hget
    have hmodified : (after.outputs.modify outputId fun output =>
        output.setBuffer output.nextSlot buffer).get? outputId =
        some (output.setBuffer output.nextSlot buffer) := by
      rw [OrdMap.get?_modify_self, hget']
      rfl
    have hshown : (output.setBuffer output.nextSlot buffer).Shown after.kernel := by
      refine (hafter.outputs outputId output hget').setBuffer (by omega) ?_
      intro slot buffer' _ hslot
      have hknown := (h.outputs outputId output hget).known slot buffer' hslot
      omega
    refine ⟨hafter.replace hget' hmodified (fun id' hne => OrdMap.get?_modify_ne _ _ hne) rfl
      hafter.settled hafter.read (le_refl _) (fun _ _ => rfl) hshown hafter.copies
      hafter.returned, _, buffer, hmodified, ?_⟩
    exact Function.update_self ..

/-- What a copy was made for. -/
structure Targeted (backend : DrmKmsBackend) (outputId : String) (target : ScanoutTarget)
    (output : KmsOutput) : Prop where
  get : backend.outputs.get? outputId = some output
  first : target.firstModeset = output.activeSlot.isNone
  crtc : target.crtcId = output.crtcId
  slot : target.slot = output.nextSlot
  buffer : (output.buffers target.slot).map (·.framebufferId) = some target.framebufferId

/-- The slot that is not active is not shown, and no flip is on its way. -/
theorem copyFrame_ends (h : DrmKept backend) (hallocated : Allocated backend frame.outputId) :
    Ends (fun _ => DrmKept) (copyFrame frame) backend fun target after =>
      DrmKept after ∧ ∃ output, Targeted after frame.outputId target output := by
  obtain ⟨output, buffer, hget, hbuffer⟩ := hallocated
  have hshown := h.outputs frame.outputId output hget
  rw [copyFrame, ends_bind, ends_get, hget]
  dsimp only
  rw [hbuffer]
  dsimp only
  cases usizeChecked (buffer.pitch * output.geometry.height) with
  | none => exact h
  | some required =>
    dsimp only
    split_ifs
    · exact h
    · rw [ends_bind, ends_set, ends_pure]
      have hself : (backend.copied frame output buffer).outputs.get? frame.outputId =
          some (output.setBuffer output.nextSlot { buffer with pixels := frame.pixels }) :=
        OrdMap.get?_insert_self ..
      have hset : (output.setBuffer output.nextSlot { buffer with pixels := frame.pixels }).Shown
          backend.kernel := by
        refine hshown.setBuffer (hshown.known _ buffer hbuffer) ?_
        intro slot buffer' hslot hother hsame
        exact hslot (hshown.distinct slot output.nextSlot buffer' buffer hother hbuffer hsame)
      have hfree : Copy.Free
          { framebufferId := buffer.framebufferId
            displaying := backend.kernel.displaying output.crtcId
            targets := backend.kernel.pending.map (·.framebufferId) } := by
        constructor
        · change backend.kernel.displaying output.crtcId ≠ some buffer.framebufferId
          rw [hshown.displayed, KmsOutput.activeFramebuffer]
          cases hslot : output.activeSlot with
          | none => simp
          | some slot =>
            obtain ⟨active, hactive⟩ := Option.isSome_iff_exists.mp (hshown.buffered slot hslot)
            simp only [Option.bind_some, hactive, Option.map_some, ne_eq, Option.some.injEq]
            intro hsame
            exact KmsOutput.nextSlot_ne hslot
              (hshown.distinct slot output.nextSlot active buffer hactive hbuffer hsame).symm
        · simp [h.settled]
      refine ⟨h.replace hget hself (fun id' hne => OrdMap.get?_insert_ne _ _ hne) rfl h.settled
        h.read (le_refl _) (fun _ _ => rfl) hset ?_ h.returned, _, hself, rfl, rfl, rfl, ?_⟩
      · intro copy hcopy
        rcases List.mem_append.mp hcopy with hold | hlast
        · exact h.copies copy hold
        · rw [List.mem_singleton.mp hlast]
          exact hfree
      · have hnext : (output.setBuffer output.nextSlot
            { buffer with pixels := frame.pixels }).buffers output.nextSlot =
            some { buffer with pixels := frame.pixels } := Function.update_self ..
        simp only [hnext, Option.map_some]

theorem prepareFrame_ends (answers : ScanoutAnswers) (frame : FramePublication)
    (h : DrmKept backend) :
    Ends (fun _ => DrmKept) (prepareFrame answers frame) backend fun target after =>
      DrmKept after ∧ ∃ output, Targeted after frame.outputId target output := by
  rw [prepareFrame, ends_bind, ends_get]
  cases hget : backend.outputs.get? frame.outputId with
  | none => exact h
  | some output =>
    dsimp only
    cases output.validateFrame frame with
    | error err => exact h
    | ok size =>
      dsimp only
      rw [ends_bind]
      exact (allocateBuffer_ends answers h hget).mono fun _ after hafter =>
        copyFrame_ends hafter.1 hafter.2

/-! The wait for a flip. -/

/-- The kernel with the only flip on its way, or finished and not read. -/
inductive Flight (kernel : Kernel) (flip : PageFlip) : Kernel → Prop
  | pending : Flight kernel flip (kernel.flip flip)
  | finished : Flight kernel flip (kernel.finishFlip flip)

theorem Flight.complete (hsettled : kernel.pending = []) (h : Flight kernel flip kernel')
    (ids : List Nat) : Flight kernel flip (kernel'.complete ids) := by
  cases h with
  | pending =>
    by_cases hid : flip.flipId ∈ ids
    · have hfinished : (kernel.flip flip).complete ids = kernel.finishFlip flip := by
        simp [Kernel.complete, Kernel.flip, hsettled, hid, Kernel.finishFlip, Kernel.display]
      rw [hfinished]
      exact .finished
    · have hpending : (kernel.flip flip).complete ids = kernel.flip flip := by
        simp [Kernel.complete, Kernel.flip, hsettled, hid]
      rw [hpending]
      exact .pending
  | finished =>
    have hsame : (kernel.finishFlip flip).complete ids = kernel.finishFlip flip := by
      simp [Kernel.complete, Kernel.finishFlip, Kernel.display, hsettled]
    rw [hsame]
    exact .finished

/-- The backend once its flip is read. -/
def DrmKmsBackend.flipped (flip : PageFlip) (backend : DrmKmsBackend) (kernel : Kernel) :
    DrmKmsBackend :=
  { backend with
    kernel := kernel.display flip.crtcId flip.framebufferId
    lastFlipId := flip.flipId
    arrived := backend.arrived ++ [flip.flipId] }

theorem Flight.eq_or (h : Flight kernel flip kernel') :
    kernel' = kernel.flip flip ∨ kernel' = kernel.finishFlip flip := by
  cases h with
  | pending => exact .inl rfl
  | finished => exact .inr rfl

/-- The last of some events that are all the same. -/
theorem getLast?_of_same {read : List Nat} (hmem : flipId ∈ read)
    (hsame : ∀ id ∈ read, id = flipId) : read.getLast? = some flipId := by
  have hne : read ≠ [] := List.ne_nil_of_mem hmem
  rw [List.getLast?_eq_some_getLast hne, hsame _ (List.getLast_mem hne)]

theorem handleEvents_unread {delivered : List Nat}
    (h : ∀ id ∈ backend.kernel.events, id ∉ delivered) :
    flipId ∉ backend.kernel.deliverable delivered ∧
      backend.handleEvents flipId delivered = backend := by
  have hnone : backend.kernel.deliverable delivered = [] := by
    rw [Kernel.deliverable, List.filter_eq_nil_iff]
    intro id hid hevent
    exact h id (of_decide_eq_true hevent) hid
  have hsame : backend.kernel.deliver delivered = backend.kernel := by
    have hevents : backend.kernel.events.filter (· ∉ delivered) = backend.kernel.events := by
      rw [List.filter_eq_self]
      intro id hid
      exact decide_eq_true (h id hid)
    rw [Kernel.deliver, hevents]
  refine ⟨by simp [hnone], ?_⟩
  unfold DrmKmsBackend.handleEvents
  rw [hnone, hsame]
  simp

theorem handleEvents_flight (backend : DrmKmsBackend) (hread : kernel.events = [])
    (h : Flight kernel flip backend.kernel) (delivered : List Nat) :
    (flip.flipId ∉ backend.kernel.deliverable delivered ∧
        backend.handleEvents flip.flipId delivered = backend) ∨
      (flip.flipId ∈ backend.kernel.deliverable delivered ∧
        backend.handleEvents flip.flipId delivered = backend.flipped flip kernel) := by
  rcases h.eq_or with hkernel | hkernel
  · refine .inl (handleEvents_unread fun id hid => ?_)
    rw [hkernel] at hid
    simp [Kernel.flip, hread] at hid
  · have hevents : backend.kernel.events = [flip.flipId] := by
      rw [hkernel]
      simp [Kernel.finishFlip, hread]
    by_cases hid : flip.flipId ∈ delivered
    · have hmem : flip.flipId ∈ backend.kernel.deliverable delivered := by
        rw [Kernel.deliverable, List.mem_filter, hevents]
        exact ⟨hid, by simp⟩
      have hsame : ∀ id ∈ backend.kernel.deliverable delivered, id = flip.flipId := by
        intro id hdelivered
        rw [Kernel.deliverable, List.mem_filter, hevents] at hdelivered
        simpa using hdelivered.2
      have hdeliver : backend.kernel.deliver delivered =
          kernel.display flip.crtcId flip.framebufferId := by
        rw [Kernel.deliver, hevents, hkernel]
        simp [hid, Kernel.finishFlip, Kernel.display, hread]
      refine .inr ⟨hmem, ?_⟩
      unfold DrmKmsBackend.handleEvents DrmKmsBackend.flipped
      dsimp only
      rw [hdeliver, getLast?_of_same hmem hsame, if_pos hmem]
      rfl
    · refine .inl (handleEvents_unread fun id hevent => ?_)
      rw [hevents, List.mem_singleton] at hevent
      rw [hevent]
      exact hid

theorem awaitFlip_done {osError : String} (turns : List Turn) (h : backend.lastFlipId = flipId) :
    Ends (fun _ _ => False) (awaitFlip osError flipId turns) backend fun _ after =>
      after = backend := by
  cases turns with
  | nil =>
    rw [awaitFlip, ends_bind, ends_get, if_pos h]
    rfl
  | cons turn turns =>
    rw [awaitFlip, ends_bind, ends_get, if_pos h]
    rfl

theorem awaitFlip_ends (backend : DrmKmsBackend) (osError : String) {turns : List Turn}
    (hsettled : kernel.pending = []) (hread : kernel.events = [])
    (hflight : Flight kernel flip backend.kernel) (hlast : backend.lastFlipId ≠ flip.flipId)
    (harrives : arrives flip.flipId backend.kernel turns = true) :
    Ends (fun _ _ => False) (awaitFlip osError flip.flipId turns) backend fun _ after =>
      after = backend.flipped flip kernel := by
  induction turns generalizing backend with
  | nil => cases harrives
  | cons turn turns ih =>
    have hcompleted := hflight.complete hsettled turn.completes
    rw [arrives] at harrives
    rw [awaitFlip, ends_bind, ends_get, if_neg hlast, ends_bind, ends_modify]
    cases hpoll : turn.poll with
    | interrupted =>
      rw [hpoll] at harrives
      exact ih _ hcompleted hlast harrives
    | handled delivered =>
      rw [hpoll] at harrives
      dsimp only at harrives ⊢
      rw [ends_bind, ends_modify]
      have hhandled := handleEvents_flight
        { backend with kernel := backend.kernel.complete turn.completes } hread hcompleted
        delivered
      rcases hhandled with ⟨hnot, hsame⟩ | ⟨-, hflipped⟩
      · rw [hsame]
        rw [decide_eq_false hnot, Bool.false_or] at harrives
        have hkernel := congrArg DrmKmsBackend.kernel hsame
        rw [DrmKmsBackend.handleEvents] at hkernel
        dsimp only at hkernel
        rw [hkernel] at harrives
        exact ih _ hcompleted hlast harrives
      · rw [hflipped]
        exact awaitFlip_done turns rfl
    | failed =>
      rw [hpoll] at harrives
      cases harrives
    | timedOut =>
      rw [hpoll] at harrives
      cases harrives
    | deviceError =>
      rw [hpoll] at harrives
      cases harrives
    | handlerFailed =>
      rw [hpoll] at harrives
      cases harrives

/-! A whole scanout. -/

/-- The written buffer becomes the active one once the kernel shows it. -/
theorem finish_kept (h : DrmKept backend) (htarget : Targeted backend frame.outputId target output)
    (houtputs : after.outputs = backend.outputs.modify frame.outputId fun output =>
      { output with activeSlot := some target.slot, lastFrame := some frame })
    (hkernel : after.kernel = backend.kernel.display target.crtcId target.framebufferId)
    (hcopies : after.copies = backend.copies)
    (hreturned : ∀ flipId ∈ after.arrived, flipId ∈ after.finished) : DrmKept after := by
  have hshown := h.outputs frame.outputId output htarget.get
  have hself : after.outputs.get? frame.outputId =
      some { output with activeSlot := some target.slot, lastFrame := some frame } := by
    rw [houtputs, OrdMap.get?_modify_self, htarget.get]
    rfl
  refine h.replace htarget.get hself (fun id' hne => ?_) rfl ?_ ?_ ?_ (fun crtcId hne => ?_) ?_
    ?_ hreturned
  · rw [houtputs]
    exact OrdMap.get?_modify_ne _ _ hne
  · rw [hkernel]
    exact h.settled
  · rw [hkernel]
    exact h.read
  · rw [hkernel]
    exact le_refl _
  · rw [hkernel]
    exact Function.update_of_ne (htarget.crtc ▸ hne) _ _
  · rw [hkernel]
    refine ⟨?_, fun slot hslot => ?_, hshown.known, hshown.distinct⟩
    · change Function.update backend.kernel.displaying target.crtcId _ output.crtcId = _
      rw [htarget.crtc, Function.update_self]
      exact htarget.buffer.symm
    · obtain rfl := Option.some.inj hslot
      obtain ⟨buffer, hbuffer, -⟩ := Option.map_eq_some_iff.mp htarget.buffer
      exact Option.isSome_iff_exists.mpr ⟨buffer, hbuffer⟩
  · rw [hcopies]
    exact h.copies

theorem flipPage_ends (h : DrmKept backend)
    (hpunctual : backend.nextFlipId ≠ 0 → answers.pageFlip = true →
      backend.lastFlipId ≠ backend.nextFlipId ∧
        arrives backend.nextFlipId
          (backend.kernel.flip ⟨backend.nextFlipId, target.crtcId, target.framebufferId⟩)
          answers.turns = true) :
    Ends (fun _ => DrmKept) (flipPage answers target) backend fun flipId after =>
      after = { backend with nextFlipId := (backend.nextFlipId + 1) % (u64Max + 1) }.flipped
        ⟨flipId, target.crtcId, target.framebufferId⟩ backend.kernel := by
  have hkept : DrmKept { backend with nextFlipId := (backend.nextFlipId + 1) % (u64Max + 1) } :=
    h.move rfl rfl rfl rfl rfl
  rw [flipPage, ends_bind, takeFlipId, ends_bind, ends_get, ends_bind, ends_set, ends_pure]
  split_ifs with hzero hflip
  · exact hkept
  · exact hkept
  · rw [Bool.not_eq_false] at hflip
    obtain ⟨hlast, harrives⟩ := hpunctual hzero hflip
    rw [ends_bind, ends_modify, ends_bind]
    have hawait := awaitFlip_ends
      { backend with
        nextFlipId := (backend.nextFlipId + 1) % (u64Max + 1)
        kernel := backend.kernel.flip
          ⟨backend.nextFlipId, target.crtcId, target.framebufferId⟩ }
      answers.osError h.settled h.read .pending hlast harrives
    refine (hawait.mono_error fun _ _ hfalse => hfalse.elim).mono fun _ after hafter => ?_
    rw [ends_pure, hafter]
    rfl

theorem scanout_kept (h : DrmKept backend) (hpunctual : Punctual answers frame backend) :
    Ends (fun _ => DrmKept) (scanout answers frame) backend fun _ => DrmKept := by
  rw [scanout, ends_bind]
  refine (prepareFrame_ends answers frame h).run.mono ?_
  rintro target prepared ⟨hrun, hprepared, output, htarget⟩
  cases hfirst : target.firstModeset with
  | true =>
    rw [if_pos rfl, ends_bind, setCrtc]
    split_ifs
    · rw [ends_modify, finishScanout, ends_modify]
      refine finish_kept hprepared htarget rfl rfl rfl fun flipId hmem => ?_
      exact List.mem_append_left _ (hprepared.returned flipId hmem)
    · exact hprepared
  | false =>
    rw [if_neg (by simp), ends_bind]
    refine (flipPage_ends hprepared (hpunctual target prepared hrun hfirst)).mono ?_
    rintro flipId after rfl
    rw [finishScanout, ends_modify]
    refine finish_kept hprepared htarget rfl rfl rfl fun other hmem => ?_
    rcases List.mem_append.mp hmem with hold | hnew
    · exact List.mem_append_left _ (hprepared.returned other hold)
    · exact List.mem_append_right _ hnew

theorem resulting_kept {α : Type} {m : DrmM α}
    (h : Ends (fun _ => DrmKept) m backend fun _ => DrmKept) : DrmKept (resulting (m backend)) := by
  unfold Ends at h
  cases hrun : m backend with
  | ok a after =>
    rw [hrun] at h
    exact h
  | error err after =>
    rw [hrun] at h
    exact h

theorem submitFrame_kept (h : DrmKept backend)
    (hpunctual : (backend.token frame).validate = .ok () → Punctual answers frame backend) :
    Ends (fun _ => DrmKept) (drmSubmitFrame answers frame) backend fun _ => DrmKept := by
  rw [drmSubmitFrame, ends_bind, ends_get]
  cases hvalid : (backend.token frame).validate with
  | error err => exact h
  | ok =>
    dsimp only
    rw [ends_bind]
    refine (scanout_kept h (hpunctual hvalid)).mono fun _ after hafter => ?_
    rw [ends_bind, ends_modify, ends_pure]
    exact hafter.move rfl rfl rfl rfl rfl

theorem complete_settled (h : kernel.pending = []) (flipIds : List Nat) :
    kernel.complete flipIds = kernel := by
  cases kernel
  dsimp only at h
  subst h
  rfl

theorem drmRemoveOutput_kept (h : DrmKept backend) (outputId : String) :
    DrmKept (backend.removeOutput outputId) := by
  cases hget : backend.outputs.get? outputId with
  | none =>
    have hsame : (backend.removeOutput outputId).outputs = backend.outputs := by
      refine OrdMap.ext_get? fun id => ?_
      change (backend.outputs.modify outputId _).get? id = _
      by_cases hid : id = outputId
      · rw [hid, OrdMap.get?_modify_self, hget]
        rfl
      · exact OrdMap.get?_modify_ne _ _ hid
    exact h.move hsame rfl rfl rfl rfl
  | some output =>
    have hshown := h.outputs outputId output hget
    have hself : (backend.removeOutput outputId).outputs.get? outputId =
        some { output with lastFrame := none } := by
      change (backend.outputs.modify outputId _).get? outputId = _
      rw [OrdMap.get?_modify_self, hget]
      rfl
    exact h.replace hget hself (fun id' hne => OrdMap.get?_modify_ne _ _ hne) rfl h.settled h.read
      (le_refl _) (fun _ _ => rfl)
      ⟨hshown.displayed, hshown.buffered, hshown.known, hshown.distinct⟩ h.copies h.returned

/-! The outputs that are discovered. -/

/-- Every CRTC is used once, and nothing is shown yet. -/
structure Discovered (found : Discovery) : Prop where
  used : ∀ id output, found.outputs.get? id = some output → output.crtcId ∈ found.usedCrtcs
  apart : ∀ id id' output output', found.outputs.get? id = some output →
    found.outputs.get? id' = some output' → output.crtcId = output'.crtcId → id = id'
  blank : ∀ id output, found.outputs.get? id = some output →
    output.activeSlot = none ∧ ∀ slot, output.buffers slot = none

theorem selectCrtc_unused {usedCrtcs : List Nat} (h : selectCrtc usedCrtcs encoders = some crtcId) :
    crtcId ∉ usedCrtcs := by
  obtain ⟨crtcs, -, hfound⟩ := List.exists_of_findSome?_eq_some h
  have hselected := List.find?_some hfound
  exact of_decide_eq_true hselected

/-- One more output, on a CRTC that no other has. -/
theorem Discovered.insert {after : Discovery} (h : Discovered found)
    (hselect : selectCrtc found.usedCrtcs encoders = some crtcId) (outputId : String)
    (hcrtc : output.crtcId = crtcId)
    (hblank : output.activeSlot = none ∧ ∀ slot, output.buffers slot = none)
    (houtputs : after.outputs = found.outputs.insert outputId output)
    (hused : after.usedCrtcs = crtcId :: found.usedCrtcs) : Discovered after := by
  have hunused := selectCrtc_unused hselect
  have hfound : ∀ id other, after.outputs.get? id = some other →
      (id = outputId ∧ other = output) ∨ found.outputs.get? id = some other := by
    intro id other hother
    rw [houtputs] at hother
    by_cases hid : id = outputId
    · rw [hid, OrdMap.get?_insert_self] at hother
      exact .inl ⟨hid, (Option.some.inj hother).symm⟩
    · rw [OrdMap.get?_insert_ne _ _ hid] at hother
      exact .inr hother
  constructor
  · intro id other hother
    rw [hused]
    rcases hfound id other hother with ⟨-, rfl⟩ | hold
    · rw [hcrtc]
      exact List.mem_cons_self
    · exact List.mem_cons_of_mem _ (h.used id other hold)
  · intro id id' other other' hother hother' hsame
    rcases hfound id other hother with ⟨rfl, rfl⟩ | hold
    · rcases hfound id' other' hother' with ⟨rfl, -⟩ | hold'
      · rfl
      · have hmem := h.used id' other' hold'
        rw [← hsame, hcrtc] at hmem
        exact absurd hmem hunused
    · rcases hfound id' other' hother' with ⟨rfl, rfl⟩ | hold'
      · have hmem := h.used id other hold
        rw [hsame, hcrtc] at hmem
        exact absurd hmem hunused
      · exact h.apart id id' other other' hold hold' hsame
  · intro id other hother
    rcases hfound id other hother with ⟨-, rfl⟩ | hold
    · exact hblank
    · exact h.blank id other hold

theorem add_discovered (epoch : Nat) (connector : Connector) (h : Discovered found) :
    Discovered (found.add epoch connector) := by
  unfold Discovery.add
  split_ifs
  · exact h
  · cases connector.mode with
    | none => exact h
    | some mode =>
      cases hselect : selectCrtc found.usedCrtcs connector.encoders with
      | none => exact h
      | some crtcId =>
        dsimp only
        cases u32Checked (mode.hdisplay * 4) with
        | none => exact h
        | some stride =>
          dsimp only
          split_ifs
          · exact h
          · exact h.insert hselect _ rfl ⟨rfl, fun _ => rfl⟩ rfl rfl

theorem discover_discovered (epoch : Nat) (connectors : List Connector) :
    Discovered (discover epoch connectors) := by
  have hall : ∀ found, Discovered found →
      Discovered (connectors.foldl (Discovery.add epoch) found) := by
    induction connectors with
    | nil => exact fun found h => h
    | cons connector connectors ih => exact fun found h => ih _ (add_discovered epoch connector h)
  refine hall {} ⟨?_, ?_, ?_⟩
  · intro id output hget
    cases hget
  · intro id id' output output' hget
    cases hget
  · intro id output hget
    cases hget

theorem drmRuns_kept (h : drmRuns.Reach InTime backend) : DrmKept backend := by
  refine h.invariant ?_ ?_
  · rintro backend ⟨epoch, connectors, nextFramebuffer, rfl⟩
    have hfound := discover_discovered epoch connectors
    refine ⟨rfl, rfl, fun id output hget => ?_, hfound.apart, by simp, by simp⟩
    obtain ⟨hinactive, hempty⟩ := hfound.blank id output hget
    refine ⟨?_, fun slot hslot => ?_, fun slot buffer hbuffer => ?_,
      fun slot slot' buffer buffer' hbuffer => ?_⟩
    · rw [KmsOutput.activeFramebuffer, hinactive]
      rfl
    · rw [hinactive] at hslot
      cases hslot
    · rw [hempty] at hbuffer
      cases hbuffer
    · rw [hempty] at hbuffer
      cases hbuffer
  · intro backend event hkept hintime
    cases event with
    | publish answers frame => exact resulting_kept (scanout_kept hkept hintime)
    | submit answers frame => exact resulting_kept (submitFrame_kept hkept hintime)
    | reconfigure outputId =>
      refine resulting_kept ?_
      rw [drmReconfigureOutput, ends_bind, ends_get]
      split_ifs
      · exact hkept
      · exact hkept
    | remove outputId => exact drmRemoveOutput_kept hkept outputId
    | complete flipIds =>
      exact hkept.move rfl (complete_settled hkept.settled flipIds) rfl rfl rfl

/-- With every flip read in time no live buffer is written, the active slots are shown, and a
scanout whose event arrives returns. -/
theorem drmRuns_sound (h : drmRuns.Reach InTime backend) : ScanoutSound backend :=
  (drmRuns_kept h).sound

/-! One monitor of one pixel. -/

def soleConnector : Connector := ⟨1, some ⟨1, 1, 60⟩, [[7]]⟩

def soleDrm : DrmKmsBackend :=
  { outputs := (discover 5 [soleConnector]).outputs
    outputEvents := (discover 5 [soleConnector]).events
    backendInstanceId := 5 }

def soleFrame (frameId : Nat) : FramePublication where
  frameId
  commitId := frameId
  outputId := "drm-connector-1"
  outputGeneration := 1
  sceneEpoch := 1
  sceneGeneration := frameId
  geometry := { pixelGeometry with outputId := "drm-connector-1" }
  format := wlShmFormatXrgb8888
  stride := 4
  pixels := [0xFF112233]
  damage := []

def accepting (turns : List Turn) : ScanoutAnswers := { createDumb := .ok (4, 4), turns }

/-- A frame whose flip is read in the first turn, or not at all. -/
def frameRead (frameId flipId : Nat) : DrmEvent :=
  .publish (accepting [⟨[flipId], .handled [flipId]⟩]) (soleFrame frameId)

def frameMissed (frameId : Nat) : DrmEvent :=
  .publish (accepting [⟨[], .timedOut⟩]) (soleFrame frameId)

theorem soleDrm_init : drmRuns.init soleDrm := ⟨5, [soleConnector], 1, rfl⟩

theorem threeFrames_sound :
    ScanoutSound (drmRuns.run soleDrm [frameMissed 1, frameRead 2 1, frameRead 3 2]) := by
  have hstart : drmRuns.Reach InTime soleDrm := .init soleDrm_init
  have hfirst := hstart.next (frameMissed 1)
    (by change Punctual _ _ _; decide +kernel)
  have hsecond := hfirst.next (frameRead 2 1)
    (by change Punctual _ _ _; decide +kernel)
  have hthird := hsecond.next (frameRead 3 2)
    (by change Punctual _ _ _; decide +kernel)
  exact drmRuns_sound hthird

/-- The second flip is finished after its scanout has given up; the third frame is copied into
the buffer that the CRTC shows. -/
theorem lateFlip_not_sound : ∃ backend, drmRuns.Reachable backend ∧ ¬ ScanoutSound backend := by
  have hinit : drmRuns.Reachable soleDrm := .init soleDrm_init
  refine ⟨_, hinit.run [frameMissed 1, frameMissed 2, .complete [1], frameRead 3 2],
    fun h => ?_⟩
  have hlive : ¬ ∀ copy ∈ (drmRuns.run soleDrm
      [frameMissed 1, frameMissed 2, .complete [1], frameRead 3 2]).copies, copy.Free := by
    decide +kernel
  exact hlive h.copies

end TuffXwin.Displayd
