import TuffXwin.Displayd.ComposePixels
import TuffXwin.Displayd.Resident

/-! When the last scene can be composed. Admission and acceptance look at sizes,
identities and the damage of the moment; composition also reads the format of
every payload on the damage and, of an ARGB payload, every pixel. -/

namespace TuffXwin.Displayd
open Lib

variable {store : DisplayPixelTransportStore} {surfaces : List SurfaceSnapshot}
variable {y : Int}
variable {surface : SurfaceSnapshot} {r : RendererRect} {damage : List RendererRect}

theorem fromWireFormat_ok {format : Nat} :
    (∃ policy, PixelFormatPolicy.fromWireFormat format = .ok policy) ↔
      format = wlShmFormatArgb8888 ∨ format = wlShmFormatXrgb8888 := by
  unfold PixelFormatPolicy.fromWireFormat
  split_ifs with hargb hxrgb
  · simp [hargb]
  · simp [hxrgb]
  · simp [hargb, hxrgb]

theorem validateSurfacePixelRect_ok (hstore : StoredPayloads store) {damage : RendererRect}
    (hr : OnDamage surface damage r) :
    validateSurfacePixelRect store surface r = .ok () ↔ PayloadCovers store surface r := by
  unfold validateSurfacePixelRect PayloadCovers
  cases hhandle : surface.pixelTransport with
  | none => simp
  | some handle =>
    simp only [Option.some.injEq, forall_eq']
    cases hlookup : store.lookup handle with
    | none => simp
    | some payload =>
      simp only [Option.some.injEq, exists_eq_left']
      have hp := hstore handle payload hlookup
      rw [bind_eq_ok]
      have hw := hp.wellFormed.width_pos
      have hh := hp.wellFormed.height_pos
      have hwide := hp.wellFormed.width_le
      have hstride := hp.wellFormed.stride
      have hlen := hp.length_le
      obtain ⟨_, hheight⟩ := hp.small
      have hleft := hr.left
      have htop := hr.top
      have hne := hr.nonempty
      unfold RendererRect.Nonempty at hne
      constructor
      · intro h
        obtain ⟨policy, hpolicy, h⟩ := h
        split_ifs at h
        split at h
        · cases h
        · cases h
        · cases h
        · cases h
        · rename_i hx1 hy1
          obtain ⟨_, rfl⟩ := i32Checked_eq_some.mp hx1
          obtain ⟨_, rfl⟩ := i32Checked_eq_some.mp hy1
          split_ifs at h
          exact ⟨⟨policy, hpolicy⟩, hleft, htop, by omega, by omega⟩
      · intro h
        obtain ⟨⟨policy, hpolicy⟩, hon⟩ := h
        have hright := hon.right
        have hbottom := hon.bottom
        have hbytes : maxSinglePixelPayloadBytes = 67108864 := rfl
        have hu32 : u32Max = 4294967295 := rfl
        have hu64 : u64Max = 18446744073709551615 := rfl
        have hmin : i32Min = -2147483648 := rfl
        have hmax : i32Max = 2147483647 := rfl
        have hextent := (hon.readable hp ⟨le_rfl, hne.1, le_rfl, hne.2⟩).stop
        have hrow : (r.y1 - 1 - surface.placement.y).toNat =
            (r.y1 - surface.placement.y).toNat - 1 := by omega
        unfold pixelOffset at hextent
        rw [hrow] at hextent
        refine ⟨policy, hpolicy, ?_⟩
        rw [if_neg (by omega), if_neg (by omega), i32Checked, if_pos (by omega), i32Checked,
          if_pos (by omega), i32Checked, if_pos (by omega), i32Checked, if_pos (by omega)]
        dsimp only
        rw [if_neg (by omega), if_neg (by omega), if_neg (by omega), if_neg (by omega),
          if_neg (by omega)]

theorem validateSurfacePixelsForDamage_ok (hstore : StoredPayloads store) :
    validateSurfacePixelsForDamage store surfaces damage = .ok () ↔
      ∀ r ∈ damage, DamageCovered store surfaces r := by
  unfold validateSurfacePixelsForDamage DamageCovered
  simp only [checkAll_ok]
  refine forall₄_congr fun r _ surface _ => ?_
  unfold validateSurfaceForDamage
  cases hr : surfaceOnDamage surface r with
  | none =>
    unfold surfaceOnDamage at hr
    simp [hr]
  | some copyRect =>
    have hspec := surfaceOnDamage_spec hr
    unfold surfaceOnDamage at hr
    simp only [hr, Option.some.injEq, forall_eq']
    exact validateSurfacePixelRect_ok hstore hspec

/-- The colours of a premultiplied word do not exceed its alpha. -/
def Premultiplied (word : UInt32) : Prop :=
  ((word >>> 16) &&& 0xFF).toUInt8 ≤ ((word >>> 24) &&& 0xFF).toUInt8 ∧
    ((word >>> 8) &&& 0xFF).toUInt8 ≤ ((word >>> 24) &&& 0xFF).toUInt8 ∧
    (word &&& 0xFF).toUInt8 ≤ ((word >>> 24) &&& 0xFF).toUInt8

theorem decodeSourcePixel_premultiplied {word : UInt32} :
    (∃ src, decodeSourcePixel word .premultipliedArgb8888 = .ok src) ↔ Premultiplied word := by
  unfold decodeSourcePixel Premultiplied
  dsimp only
  generalize ((word >>> 24) &&& 0xFF).toUInt8 = a
  generalize ((word >>> 16) &&& 0xFF).toUInt8 = r
  generalize ((word >>> 8) &&& 0xFF).toUInt8 = g
  generalize (word &&& 0xFF).toUInt8 = b
  simp only [← UInt8.not_lt, ← not_or]
  split_ifs with h
  · simp [h]
  · simp [h]

/-- A surface's rectangle has all that composition reads: a payload, in a format it knows,
that reaches over the rectangle and, in ARGB, is premultiplied there. -/
structure Drawable (surface : SurfaceSnapshot) (payload : PixelTransportPayload)
    (r : RendererRect) : Prop where
  format : payload.format = wlShmFormatArgb8888 ∨ payload.format = wlShmFormatXrgb8888
  right : r.x1 - surface.placement.x ≤ payload.width
  bottom : r.y1 - surface.placement.y ≤ payload.height
  premultiplied : payload.format = wlShmFormatArgb8888 → ∀ x y, r.Mem x y →
    Premultiplied (surfaceWord surface payload x y)

/-- Every surface is drawable on the damage. -/
def DrawableOn (store : DisplayPixelTransportStore) (surfaces : List SurfaceSnapshot)
    (damage : List RendererRect) : Prop :=
  ∀ rect ∈ damage, ∀ surface ∈ surfaces, ∀ r, surfaceOnDamage surface rect = some r →
    ∀ handle, surface.pixelTransport = some handle →
      ∃ payload, store.lookup handle = some payload ∧ Drawable surface payload r

theorem DrawableOn.covered (h : DrawableOn store surfaces damage) :
    ∀ r ∈ damage, DamageCovered store surfaces r := by
  intro rect hrect surface hsurface r hr handle hhandle
  obtain ⟨payload, hlookup, hdraw⟩ := h rect hrect surface hsurface r hr handle hhandle
  have hspec := surfaceOnDamage_spec hr
  exact ⟨payload, hlookup, fromWireFormat_ok.mpr hdraw.format,
    ⟨hspec.left, hspec.top, hdraw.right, hdraw.bottom⟩⟩

/-- With its payload at hand, a pixel can be read unless it is ARGB and not premultiplied. -/
theorem pixelForSurface_ok {handle : PixelTransportHandle} {payload : PixelTransportPayload}
    (hhandle : surface.pixelTransport = some handle) (hlookup : store.lookup handle = some payload)
    (hp : StoredPayload payload) (h : OnPayload surface payload r)
    (hformat : payload.format = wlShmFormatArgb8888 ∨ payload.format = wlShmFormatXrgb8888)
    {x : Int} (hm : r.Mem x y) :
    (∃ src, pixelForSurface store surface x y = .ok src) ↔
      (payload.format = wlShmFormatArgb8888 →
        Premultiplied (surfaceWord surface payload x y)) := by
  rw [pixelForSurface_payload hhandle hlookup (h.readable hp hm) hm]
  cases hformat with
  | inl hargb =>
    have hpolicy : PixelFormatPolicy.fromWireFormat payload.format =
        .ok .premultipliedArgb8888 := by
      rw [PixelFormatPolicy.fromWireFormat, if_pos hargb]
    rw [hpolicy, ok_bind, ← decodeSourcePixel_premultiplied]
    cases decodeSourcePixel (surfaceWord surface payload x y) .premultipliedArgb8888 with
    | error reason => simp [Except.map, hargb]
    | ok src => simp [Except.map, hargb]
  | inr hxrgb =>
    have hother : wlShmFormatXrgb8888 ≠ wlShmFormatArgb8888 := by decide
    have hpolicy : PixelFormatPolicy.fromWireFormat payload.format = .ok .opaqueXrgb8888 := by
      rw [PixelFormatPolicy.fromWireFormat, hxrgb, if_neg hother, if_pos rfl]
    rw [hpolicy, ok_bind, hxrgb]
    simp [Except.map, decodeSourcePixel, hother]

theorem paintCell_some (store : DisplayPixelTransportStore) (surface : SurfaceSnapshot)
    (x y : Int) (a : UInt32) :
    (∃ b, paintCell store surface x y a = some b) ↔
      ∃ src, pixelForSurface store surface x y = .ok src := by
  unfold paintCell
  cases pixelForSurface store surface x y with
  | error reason => simp [Except.toOption]
  | ok src => simp [Except.toOption]

/-- The surfaces over a cell can be painted when each of their pixels there can be read. -/
theorem paintStack_some {ordered : List SurfaceSnapshot} {x : Int} :
    (∃ b, paintStack store ordered x y = some b) ↔
      ∀ surface ∈ ordered, Shows surface x y →
        ∃ src, pixelForSurface store surface x y = .ok src := by
  unfold paintStack
  generalize backgroundPixel = a
  induction ordered generalizing a with
  | nil => simp
  | cons surface ordered ih =>
    rw [List.foldlM_cons, List.forall_mem_cons]
    by_cases hshows : Shows surface x y
    · rw [if_pos hshows]
      have hcell := paintCell_some store surface x y a
      cases hpaint : paintCell store surface x y a with
      | none =>
        rw [hpaint] at hcell
        have hnone : ¬ ∃ src, pixelForSurface store surface x y = .ok src := by
          rw [← hcell]
          simp
        simp [hshows, hnone]
      | some b =>
        rw [hpaint] at hcell
        have hsome := hcell.mp ⟨b, rfl⟩
        rw [Option.bind_eq_bind, Option.bind_some, ih b]
        simp [hsome]
    · rw [if_neg hshows, Option.bind_eq_bind, Option.bind_some, ih a]
      simp [hshows]

theorem mem_canonicalizeSurfaces : surface ∈ canonicalizeSurfaces surfaces ↔ surface ∈ surfaces :=
  List.mem_insertionSort _

theorem DamageCovered.canonical (h : DamageCovered store surfaces r) :
    DamageCovered store (canonicalizeSurfaces surfaces) r :=
  fun surface hsurface => h surface (mem_canonicalizeSurfaces.mp hsurface)

section Composes

variable {o : OutputState} {store : DisplayPixelTransportStore}
  {surfaces : List SurfaceSnapshot} {damage : List RendererRect} {framebuffer : List UInt32}
  (hlen : framebuffer.length = o.framebufferWords) (hdamage : ∀ r ∈ damage, OnOutput o r)
  (hstore : StoredPayloads store)

include hlen hdamage hstore

theorem composes_of_drawable (h : DrawableOn store surfaces damage) :
    ∃ pixels, composeDamageRects framebuffer o store surfaces damage = .ok pixels := by
  refine (composeDamageRects_acts hdamage fun r hr =>
    (h.covered r hr).canonical.readable hstore).total framebuffer hlen fun i a _ => ?_
  by_cases hcovered : Covers damage (o.cellX i) (o.cellY i)
  · rw [if_pos hcovered, paintStack_some]
    intro surface hsurface hshows
    obtain ⟨rect, hrect, hm⟩ := hcovered
    cases hr : surfaceOnDamage surface rect with
    | none => exact absurd hm (surfaceOnDamage_none hr hshows)
    | some r =>
      have hspec := surfaceOnDamage_spec hr
      have hmem := (hspec.mem _ _).mpr ⟨hshows, hm⟩
      cases hhandle : surface.pixelTransport with
      | none => exact ⟨none, by simp only [pixelForSurface, hhandle]⟩
      | some handle =>
        obtain ⟨payload, hlookup, hdraw⟩ :=
          h rect hrect surface (mem_canonicalizeSurfaces.mp hsurface) r hr handle hhandle
        exact (pixelForSurface_ok hhandle hlookup (hstore handle payload hlookup)
          ⟨hspec.left, hspec.top, hdraw.right, hdraw.bottom⟩ hdraw.format hmem).mpr
            fun hargb => hdraw.premultiplied hargb _ _ hmem
  · exact ⟨a, if_neg hcovered⟩

theorem drawable_of_composes (hcovers : ∀ r ∈ damage, DamageCovered store surfaces r)
    {pixels : List UInt32}
    (h : composeDamageRects framebuffer o store surfaces damage = .ok pixels) :
    DrawableOn store surfaces damage := by
  intro rect hrect surface hsurface r hr handle hhandle
  have hspec := surfaceOnDamage_spec hr
  obtain ⟨payload, hlookup, hpolicy, hon⟩ := hcovers rect hrect surface hsurface r hr handle
    hhandle
  have hformat := fromWireFormat_ok.mp hpolicy
  refine ⟨payload, hlookup, hformat, hon.right, hon.bottom, ?_⟩
  intro hargb x y hm
  have hdamaged := (hspec.mem x y).mp hm
  have hcolumn : x ∈ rect.columns := RendererRect.mem_columns.mpr ⟨hdamaged.2.1, hdamaged.2.2.1⟩
  have hrow : y ∈ rect.rows := RendererRect.mem_rows.mpr hdamaged.2.2.2
  have hcell := (hdamage rect hrect).cell hcolumn hrow
    ((y - o.originY).toNat * o.pitch + (x - o.originX).toNat)
  obtain ⟨hy, hx⟩ := hcell.2.mp rfl
  have hindex : ∃ a, framebuffer[(y - o.originY).toNat * o.pitch + (x - o.originX).toNat]? =
      some a := ⟨_, List.getElem?_eq_getElem (hlen ▸ hcell.1)⟩
  obtain ⟨a, ha⟩ := hindex
  obtain ⟨b, hb, _⟩ := (composeDamageRects_acts hdamage fun r hr =>
    (hcovers r hr).canonical.readable hstore).cell framebuffer pixels hlen h _ _ ha
  rw [hx, hy, if_pos ⟨rect, hrect, hdamaged.2⟩] at hb
  have hread := paintStack_some.mp ⟨b, hb⟩ surface (mem_canonicalizeSurfaces.mpr hsurface)
    hdamaged.1
  exact (pixelForSurface_ok hhandle hlookup (hstore handle payload hlookup) hon hformat
    hm).mp hread hargb

/-- The two passes over the damage succeed exactly on drawable surfaces. -/
theorem composes_iff :
    (validateSurfacePixelsForDamage store surfaces damage = .ok () ∧
      ∃ pixels, composeDamageRects framebuffer o store surfaces damage = .ok pixels) ↔
      DrawableOn store surfaces damage := by
  rw [validateSurfacePixelsForDamage_ok hstore]
  constructor
  · intro h
    obtain ⟨hcovers, pixels, hpixels⟩ := h
    exact drawable_of_composes hlen hdamage hstore hcovers hpixels
  · intro h
    exact ⟨h.covered, composes_of_drawable hlen hdamage hstore h⟩

end Composes

/-- The damage an output waits with, and that of its frame in flight, lie on it. -/
structure DamageOnOutput (id : String) (r : OutputRuntime) : Prop where
  pending : ∀ d ∈ r.pendingDamage, OnOutput r.state d
  flying : ∀ o, r.outstanding = some o → ∀ d ∈ o.frame.damage, OnOutput r.state d

theorem OutputRuntime.onOutput_bounds (r : OutputRuntime) : OnOutput r.state r.bounds where
  nonempty := r.bounds_nonempty
  within := by
    rw [r.bounds_spec]
    exact RendererRect.Within.refl _

theorem onOutput_normalize {r : OutputRuntime} (h : ∀ d ∈ damage, OnOutput r.state d) :
    ∀ d ∈ normalizeDamage r.bounds damage, OnOutput r.state d := by
  intro d hd
  cases mem_normalizeDamage hd with
  | inl heq => exact heq ▸ r.onOutput_bounds
  | inr hmem => exact h d hmem

theorem onOutput_outputDamage {r : OutputRuntime} (previous : Option CommittedSceneState)
    (surfaces : List SurfaceSnapshot) (h : ∀ d ∈ r.pendingDamage, OnOutput r.state d) :
    ∀ d ∈ outputDamage previous surfaces r, OnOutput r.state d := by
  unfold outputDamage
  refine onOutput_normalize fun d hd => ?_
  rw [List.mem_append] at hd
  cases hd with
  | inr hpending => exact h d hpending
  | inl hnew =>
    split_ifs at hnew
    · cases hnew
    · obtain ⟨hne, hin⟩ := effectiveDamageRects_within r.bounds_nonempty hnew
      exact ⟨hne, hin.trans r.onOutput_bounds.within⟩

theorem damageOnOutput_invariant : OutputInvariant DamageOnOutput where
  start := ⟨fun d hd => absurd hd List.not_mem_nil, fun o ho => by cases ho⟩
  quiet h hq := by
    refine ⟨fun d hd => ?_, fun o ho d hd => ?_⟩
    · rw [hq.same.state]
      exact h.pending d (hq.pendingDamage ▸ hd)
    · rw [hq.same.state]
      exact h.flying o (hq.outstanding ▸ ho) d hd
  damaged previous c _ h _ _ :=
    ⟨onOutput_outputDamage previous c.surfaces h.pending, h.flying⟩
  submitFailed h _ hf := by
    refine ⟨fun d hd => ?_, h.flying⟩
    dsimp only [submitFailedRuntime] at hd
    rw [hf] at hd
    exact onOutput_normalize h.pending d hd
  submitted h _ := by
    refine ⟨h.pending, fun o ho d hd => ?_⟩
    obtain rfl := Option.some.inj ho
    exact onOutput_normalize h.pending d hd
  presented h _ := by
    rename_i id r o _
    refine ⟨fun d hd => ?_, fun o' ho' => ?_⟩
    · rw [(presentRuntime_same o r).state]
      unfold presentRuntime at hd
      dsimp only at hd
      split_ifs at hd
      · cases hd
      · exact h.pending d hd
    · rw [presentRuntime_outstanding] at ho'
      cases ho'
  failed h ho := by
    rename_i id r o
    refine ⟨fun d hd => ?_, fun o' ho' => ?_⟩
    · rw [(failRuntime_same o r).state]
      unfold failRuntime at hd
      dsimp only at hd
      split_ifs at hd
      · exact h.flying o ho d hd
      · exact h.pending d hd
    · rw [failRuntime_outstanding] at ho'
      cases ho'
  connected _ := by
    refine ⟨fun d hd => ?_, fun o ho => by cases ho⟩
    rw [List.mem_singleton.mp hd]
    exact OutputRuntime.onOutput_bounds _
  disabled _ := ⟨fun d hd => absurd hd List.not_mem_nil, fun o ho => by cases ho⟩
  retired h := ⟨h.pending, fun o ho => by cases ho⟩

theorem scratchFramebuffer_length (r : OutputRuntime) :
    (scratchFramebuffer r).length = r.state.framebufferWords := by
  unfold scratchFramebuffer
  split_ifs with hready
  · exact beq_iff_eq.mp hready
  · exact List.length_replicate

/-- The passes of `handle_multi_output_commit` over the pending damage of an output. -/
def Composable (s : DisplayState) (scene : CommittedSceneState) (r : OutputRuntime) : Prop :=
  validateSurfacePixelsForDamage s.pixelTransport (canonicalizeSurfaces scene.surfaces)
      (publicationDamage r) = .ok () ∧
    ∃ pixels, composeDamageRects (scratchFramebuffer r) r.state s.pixelTransport
      (canonicalizeSurfaces scene.surfaces) (publicationDamage r) = .ok pixels

namespace Server

variable {β : Type} [DisplayBackend β]

/-- In every state of every run an output composes a scene exactly when every surface of
the scene is drawable on its pending damage. -/
theorem composition_law {srv : Server β} (h : (system β).Reachable srv) {id : String}
    {r : OutputRuntime} (hr : srv.display.state.outputs.get? id = some r)
    (scene : CommittedSceneState) :
    Composable srv.display.state scene r ↔
      DrawableOn srv.display.state.pixelTransport scene.surfaces (publicationDamage r) := by
  have hdamage := damageOnOutput_invariant.reachable h id r hr
  have hstored := storedPayloads_reachable h
  have hsame : DrawableOn srv.display.state.pixelTransport (canonicalizeSurfaces scene.surfaces)
      (publicationDamage r) ↔
      DrawableOn srv.display.state.pixelTransport scene.surfaces (publicationDamage r) := by
    unfold DrawableOn
    simp only [mem_canonicalizeSurfaces]
  exact (composes_iff (scratchFramebuffer_length r) (onOutput_normalize hdamage.pending)
    hstored).trans hsame

def monitoredServer (c : SceneCommit) : Server MockDisplayBackend :=
  serve MockDisplayBackend.production.withMonitor [.command (.commitScene c)]

theorem composition_law_drawn :
    ∃ (scene : CommittedSceneState) (r : OutputRuntime),
      (monitoredServer (drawnScene 1 1)).display.state.lastScene = some scene ∧
      (monitoredServer (drawnScene 1 1)).display.state.outputs.get? "eDP-1" = some r ∧
      DrawableOn (monitoredServer (drawnScene 1 1)).display.state.pixelTransport
        scene.surfaces (publicationDamage r) := by
  have hr : (system MockDisplayBackend).Reachable (monitoredServer (drawnScene 1 1)) :=
    serve_reachable _ _
  have hout : ∃ (scene : CommittedSceneState) (r : OutputRuntime),
      (monitoredServer (drawnScene 1 1)).display.state.lastScene = some scene ∧
      (monitoredServer (drawnScene 1 1)).display.state.outputs.get? "eDP-1" = some r ∧
      Composable (monitoredServer (drawnScene 1 1)).display.state scene r :=
    ⟨_, _, rfl, rfl, rfl, _, rfl⟩
  obtain ⟨scene, r, hlast, hget, hcomposable⟩ := hout
  exact ⟨scene, r, hlast, hget, (composition_law hr hget scene).mp hcomposable⟩

/-- One transparent pixel with a colour. -/
def glowingScene : SceneCommit :=
  { drawnScene 1 1 with
    pixelPayloads := [{
      pixelPayload 1 with pixels := [255, 0, 0, 0], format := wlShmFormatArgb8888 }] }

/-- A scene accepted with its payloads that an enabled output cannot compose. -/
theorem accepted_scene_not_composable :
    let srv := monitoredServer glowingScene;
    (system MockDisplayBackend).Reachable srv ∧
      srv.display.state.reconciliationState ≠ .recovering ∧
      ∃ (scene : CommittedSceneState) (r : OutputRuntime),
        srv.display.state.lastScene = some scene ∧
        scene.surfaces = glowingScene.surfaces ∧
        srv.display.state.outputs.get? "eDP-1" = some r ∧ r.disabled = false ∧
        ¬ Composable srv.display.state scene r := by
  have hr : (system MockDisplayBackend).Reachable (monitoredServer glowingScene) :=
    serve_reachable _ _
  refine ⟨hr, by decide, _, _, rfl, rfl, rfl, rfl, ?_⟩
  intro hcomposable
  obtain ⟨_, pixels, hpixels⟩ := hcomposable
  cases hpixels

end Server

end TuffXwin.Displayd
