import TuffXwin.Displayd.Drawing

/-! Faults that are answered or logged, and faults that take the process down.
Composition writes inside the buffer of an output whose damage lies on it, so on
the outputs displayd keeps it never indexes out of bounds, and neither scenes,
ticks nor completions do. -/

namespace TuffXwin.Displayd
open Lib

variable {α : Type} {o : OutputState} {r : RendererRect}
variable {y : Int}
variable {γ : Type}

def Reported : Fault → Prop
  | .error _ => True
  | .panic _ => False

/-- A computation that does not panic. -/
def Reports {α : Type} (x : Except Fault α) : Prop := ∀ e, x = .error e → Reported e

theorem reports_ok (a : α) : Reports (.ok a) := by
  intro e h
  cases h

theorem reports_error (reason : String) : Reports (.error (.error reason) : Except Fault α) := by
  intro e h
  cases h
  trivial

/-- A fault passed on. -/
theorem Reports.fault {e : Fault} (h : Reports (.error e : Except Fault α)) :
    Reports (.error e : Except Fault γ) := by
  intro e' he
  cases he
  exact h e rfl

theorem Reports.bind {x : Except Fault α} {f : α → Except Fault γ} (hx : Reports x)
    (hf : ∀ a, x = .ok a → Reports (f a)) : Reports (x >>= f) := by
  intro e h
  cases bind_eq_error.mp h with
  | inl he => exact hx e he
  | inr hr =>
    obtain ⟨a, ha, he⟩ := hr
    exact hf a ha e he

theorem Reports.map {x : Except Fault α} (hx : Reports x) (f : α → γ) : Reports (x.map f) := by
  intro e h
  cases x with
  | error e' => exact hx e (congrArg Except.error (Except.error.inj h))
  | ok a => cases h

theorem reports_checked (reason : String) (x : Option α) : Reports (checked reason x) := by
  cases x with
  | none => exact reports_error reason
  | some a => exact reports_ok a

theorem reports_returned (x : Except String α) : Reports (returned x) := by
  cases x with
  | error reason => exact reports_error reason
  | ok a => exact reports_ok a

theorem reports_framebufferOffset (o : OutputState) (x y : Int) :
    Reports (framebufferOffsetForOutput o x y) := by
  unfold framebufferOffsetForOutput
  refine (reports_checked _ _).bind fun localX _ => (reports_checked _ _).bind fun localY _ => ?_
  split_ifs
  · exact reports_error _
  · exact reports_checked _ _

abbrev Draws (o : OutputState) : (List UInt32 → Except Fault (List UInt32)) → Prop :=
  FailsWith o.framebufferWords Reported

theorem draws_write (reason : String) (start : Nat) (row : List UInt32) :
    Draws o (fun fb => checked reason (writeSlice fb start row)) := by
  have hok : ∀ l l', checked reason (writeSlice l start row) = .ok l' →
      writeSlice l start row = some l' := by
    intro l l' h
    cases hw : writeSlice l start row with
    | none =>
      rw [hw] at h
      cases h
    | some fb =>
      rw [hw] at h
      exact congrArg some (Except.ok.inj h)
  exact FailsWith.slice hok fun l e h => reports_checked _ _ e h

theorem draws_fillRow (o : OutputState) (r : RendererRect) (pixel : UInt32) (y : Int) :
    Draws o (fun fb => fillRow o r pixel fb y) :=
  FailsWith.bind (reports_framebufferOffset o r.x0 y) fun _ _ =>
    FailsWith.bind (reports_checked _ _) fun _ _ => draws_write _ _ _

theorem draws_copyXrgbRow (o : OutputState) (payload : PixelTransportPayload)
    (surface : SurfaceSnapshot) (r : RendererRect) (localX0 : Nat) (y : Int) :
    Draws o (fun fb => copyXrgbRow o payload surface r localX0 fb y) :=
  FailsWith.bind (reports_checked _ _) fun _ _ => FailsWith.bind (reports_checked _ _) fun _ _ =>
    FailsWith.bind (reports_checked _ _) fun _ _ => FailsWith.bind (reports_checked _ _) fun _ _ =>
      FailsWith.bind (reports_framebufferOffset o r.x0 y) fun _ _ =>
        FailsWith.bind (reports_checked _ _) fun _ _ => draws_write _ _ _

section

variable (h : OnOutput o r) (store : DisplayPixelTransportStore) (surface : SurfaceSnapshot)
  (fallback : UInt32)
include h

theorem draws_blendPixel {x : Int} (hx : x ∈ r.columns) (hy : y ∈ r.rows) :
    Draws o (fun fb => blendPixel o store surface fallback
      ((y - o.originY).toNat * o.pitch) y fb x) := by
  have hcell := (h.cell hx hy 0).1
  have hm := h.mem_area hx hy
  unfold RendererRect.Mem OutputState.area at hm
  dsimp only at hm
  have hlocal : asUsize (x - o.originX) = (x - o.originX).toNat := by
    rw [asUsize, if_neg (by omega)]
  refine FailsWith.modifyCell (v := returned (pixelForSurface store surface x y))
    (g := fun src a => composeSourceOver (src.getD (.opaquePixel fallback)) a)
    (e := .panic "index out of bounds") hcell (reports_returned _) fun l => ?_
  rw [blendPixel, hlocal, words_checked hcell.le, checked_bind]
  cases returned (pixelForSurface store surface x y) with
  | error fault => rfl
  | ok src =>
    cases l[(y - o.originY).toNat * o.pitch + (x - o.originX).toNat]? with
    | none => rfl
    | some dst => rfl

theorem draws_blendRow (hy : y ∈ r.rows) :
    Draws o (fun fb => blendRow o store surface r fallback fb y) := by
  have hm : o.area.Mem o.originX y := by
    have hin := h.within
    have hwidth := o.valid.width_pos
    have hrow := RendererRect.mem_rows.mp hy
    unfold RendererRect.Within OutputState.area at hin
    unfold RendererRect.Mem OutputState.area
    dsimp only at hin ⊢
    omega
  have hoffset := framebufferOffset_ok hm
  rw [Int.sub_self, Int.toNat_zero, Nat.add_zero] at hoffset
  simp only [blendRow, hoffset, ok_bind]
  exact FailsWith.foldlM fun x hx => draws_blendPixel h store surface fallback hx hy

theorem draws_blendSurfaceRect :
    Draws o (fun fb => blendSurfaceRect fb o store surface r fallback) :=
  FailsWith.foldlM fun _ hy => draws_blendRow h store surface fallback hy

theorem draws_copySurfaceRect :
    Draws o (fun fb => copySurfaceRect fb o store surface r fallback) := by
  have hblend := draws_blendSurfaceRect h store surface fallback
  unfold copySurfaceRect
  cases surface.pixelTransport with
  | none => exact hblend
  | some handle =>
    refine FailsWith.bind (reports_checked _ _) fun payload _ =>
      FailsWith.bind (reports_returned _) fun policy _ => ?_
    split_ifs
    · refine FailsWith.bind (reports_checked _ _) fun localX0 _ => ?_
      exact FailsWith.foldlM fun y _ => draws_copyXrgbRow o payload surface r _ y
    · exact hblend

end

theorem draws_paintSurface {damage : RendererRect} (h : OnOutput o damage)
    (store : DisplayPixelTransportStore) (surface : SurfaceSnapshot) :
    Draws o (fun fb => paintSurface o store damage fb surface) := by
  unfold paintSurface
  cases hr : surfaceOnDamage surface damage with
  | none =>
    unfold surfaceOnDamage at hr
    simp only [hr]
    exact FailsWith.ok
  | some r =>
    have hspec := surfaceOnDamage_spec hr
    unfold surfaceOnDamage at hr
    simp only [hr]
    exact draws_copySurfaceRect ⟨hspec.nonempty, hspec.within.trans h.within⟩ store surface _

/-- Composition on damage that lies on the output does not panic. -/
theorem draws_composeDamageRects {damage : List RendererRect} (h : ∀ r ∈ damage, OnOutput o r)
    (store : DisplayPixelTransportStore) (surfaces : List SurfaceSnapshot) :
    Draws o (fun fb => composeDamageRects fb o store surfaces damage) :=
  FailsWith.foldlM fun r hr =>
    (FailsWith.foldlM fun y _ => draws_fillRow o r backgroundPixel y).comp
      (FailsWith.foldlM fun surface _ => draws_paintSurface (h r hr) store surface)

theorem reports_composeDamageRects {id : String} {r : OutputRuntime} (h : DamageOnOutput id r)
    (store : DisplayPixelTransportStore) (surfaces : List SurfaceSnapshot) :
    Reports (composeDamageRects (scratchFramebuffer r) r.state store surfaces
      (publicationDamage r)) := fun e he =>
  (draws_composeDamageRects (onOutput_normalize h.pending) store surfaces).fault _ e
    (scratchFramebuffer_length r) he

theorem reports_commitPrepared (s : DisplayState) (c : SceneCommit) (source : ServiceRole)
    (env : Env) (replay : Option Nat) (store : DisplayPixelTransportStore)
    (damage : OrdMap String (List RendererRect)) :
    Reports (commitPrepared s c source env replay store damage).2 := by
  have hrecord : ∀ (s : DisplayState) scene, Reports (s.recordCommit scene env) := by
    intro s scene
    unfold DisplayState.recordCommit
    split
    · exact reports_error _
    · exact reports_ok _
  unfold commitPrepared
  dsimp only
  split_ifs
  · exact reports_ok _
  · split
    · rename_i hrecorded
      have hreports := hrecord (reboundFor s c damage)
        (committedScene c source (replay.getD s.nextCommitId) env)
      rw [reboundFor, requiredFor, hrecorded] at hreports
      exact hreports.fault
    · exact reports_ok _
  · exact reports_ok _

theorem reports_acceptCanonical (s : DisplayState) (c : SceneCommit) (source : ServiceRole)
    (env : Env) : Reports (acceptCanonical s c source env).2 := by
  unfold acceptCanonical
  split
  · exact reports_ok _
  · split_ifs
    · exact reports_ok _
    · split
      · exact reports_ok _
      · split
        · exact reports_ok _
        · exact reports_commitPrepared _ _ _ _ _ _ _

theorem reports_advancePresentation (s : DisplayState) (id : String)
    (generation now tick : Nat) : Reports (advancePresentation s id generation now tick).2 := by
  unfold advancePresentation advanceRuntime
  split
  · exact reports_error _
  · dsimp only
    split_ifs
    · exact reports_error _
    · exact reports_ok _
    · exact reports_error _
    · exact reports_error _
    · exact reports_ok _
    · exact reports_ok _
    · exact reports_ok _

namespace Display

variable {β : Type} [DisplayBackend β]
variable {d : Display β}

theorem reports_submitComposed (d : Display β) (env : Env) (id : String)
    (frame : FramePublication) (sceneCommitId : Nat) :
    Reports (d.submitComposed env id frame sceneCommitId).2 := by
  unfold submitComposed finishSubmitted advanced
  split
  · exact reports_ok _
  · split
    · exact reports_error _
    · dsimp only
      split_ifs
      · exact reports_ok _
      · exact reports_ok _
      · exact reports_ok _
      · exact reports_ok _

theorem reports_handleMultiOutputCommit (h : AllOutputs DamageOnOutput d.state) (env : Env)
    (scene : CommittedSceneState) (id : String) :
    Reports (d.handleMultiOutputCommit env scene id).2 := by
  unfold handleMultiOutputCommit
  split_ifs
  · exact reports_error _
  · dsimp only
    split
    · exact reports_error _
    · rename_i r hr
      split_ifs
      · exact reports_ok _
      · exact reports_ok _
      · exact reports_ok _
      · split
        · exact reports_ok _
        · split
          · rename_i fault hfault
            have hreports := reports_composeDamageRects (h id r hr) d.state.pixelTransport
              (canonicalizeSurfaces scene.surfaces)
            rw [hfault] at hreports
            exact hreports.fault
          · exact reports_submitComposed _ _ _ _ _

theorem damage_advancePresentation {s : DisplayState} (h : AllOutputs DamageOnOutput s)
    (id : String) (generation now tick : Nat) :
    AllOutputs DamageOnOutput (advancePresentation s id generation now tick).1 :=
  (advancePresentation_moves (P := anyMove) s id generation now tick).invariant
    (fun _ _ hi hm => damageOnOutput_invariant.move hi hm) h

theorem reports_advanceAndPublish (h : AllOutputs DamageOnOutput d.state) (env : Env) (id : String)
    (generation now tick : Nat) : Reports (d.advanceAndPublish env id generation now tick).2 := by
  have htick := reports_advancePresentation d.state id generation now tick
  have hdamage := damage_advancePresentation h id generation now tick
  unfold advanceAndPublish
  dsimp only
  split
  · rename_i hfault
    rw [hfault] at htick
    exact htick.fault
  · exact reports_ok _
  · split
    · exact reports_ok _
    · exact (reports_handleMultiOutputCommit hdamage env _ id).map _

theorem reports_driveOutput (h : AllOutputs DamageOnOutput d.state) (env : Env)
    (scene : CommittedSceneState) (id : String) (r : OutputRuntime) :
    Reports (d.driveOutput env scene id r).2 := by
  unfold driveOutput
  dsimp only
  generalize driveClock env r = now
  generalize satAdd r.scheduler.lastTickSequence 1 = tick
  generalize r.state.outputGeneration = generation
  have htick := reports_advancePresentation d.state id generation now tick
  have hdamage := damage_advancePresentation h id generation now tick
  split
  · rename_i hfault
    rw [hfault] at htick
    exact htick.fault
  · exact reports_ok _
  · exact (reports_handleMultiOutputCommit hdamage env scene id).map _

theorem reports_getPresentationFeedback (h : AllOutputs DamageOnOutput d.state)
    (hone : SingleOutput d.state) (env : Env) (commitId : Nat) :
    Reports (d.getPresentationFeedback env commitId).2 := by
  have hdrive : Reports (d.drivePresentationForFeedback env commitId).2 := by
    unfold drivePresentationForFeedback
    split_ifs
    · exact reports_ok _
    · split
      · exact reports_ok _
      · rename_i o ho
        split
        · exact reports_ok _
        · rename_i scene _
          obtain ⟨id, hid, hpresented⟩ := hone commitId o ho
          have hdiff : OrdSet.difference o.requiredOutputs o.presentedOutputs = [id] := by
            rw [hid, hpresented]
            rfl
          rw [hdiff]
          unfold driveOutputs
          split
          · exact reports_ok _
          · rename_i r _
            have hreports := reports_driveOutput h env scene id r
            dsimp only
            split
            · rename_i hfault
              rw [hfault] at hreports
              exact hreports
            · split_ifs
              · exact reports_ok _
              · exact reports_ok _
  unfold getPresentationFeedback
  split
  · exact reports_ok _
  · dsimp only
    split
    · rename_i hfault
      rw [hfault] at hdrive
      exact hdrive.fault
    · split
      · exact reports_ok _
      · split_ifs
        · exact reports_ok _
        · exact reports_ok _

end Display

end TuffXwin.Displayd
