import TuffXwin.Displayd.DamageCover

/-! Whether the damage between two scenes covers what changed. Where every surface over a
pixel is kept with its place and its buffer, the composition there can still change in
three ways the damage does not look at: declared damage with a corner outside `i32`, pixels
that come, go or change format, and an order that changes by class or creation sequence. -/

namespace TuffXwin.Displayd
open Lib

variable {x y : Int} {surfaces : List SurfaceSnapshot}
variable {newStore oldStore store : DisplayPixelTransportStore} {s : SurfaceSnapshot}
  {news olds : List SurfaceSnapshot}

/-- The bytes a surface has for a pixel of the output, and their format. -/
def payloadPixel (store : DisplayPixelTransportStore) (surface : SurfaceSnapshot)
    (x y : Int) : Option (UInt32 × Nat) :=
  (surface.pixelTransport.bind store.lookup).bind fun payload =>
    if (x - surface.placement.x).toNat < payload.width ∧
        (y - surface.placement.y).toNat < payload.height then
      (wordAt payload.pixels (pixelOffset surface payload x y)).map (·, payload.format)
    else none

/-- What a surface paints of its bytes for a pixel. -/
def decodePayloadPixel : Option (UInt32 × Nat) → Except String (Option SourcePixel)
  | none => .ok none
  | some (word, format) =>
    PixelFormatPolicy.fromWireFormat format >>= fun policy =>
      (decodeSourcePixel word policy).map some

theorem wrapI32_toNat {v : Int} (h : 0 ≤ v) (hlt : v < 4294967296) :
    (wrapI32 v).toNat = if v ≤ i32Max then v.toNat else 0 := by
  have hmin : i32Min = -2147483648 := rfl
  have hmax : i32Max = 2147483647 := rfl
  split_ifs with hfits
  · rw [wrapI32_of_fits ⟨by omega, hfits⟩]
  · have hwrapped : wrapI32 v = v - 4294967296 := by
      have hmod : v % ((4294967296 : Nat) : Int) = v := Int.emod_eq_of_lt h hlt
      rw [wrapI32, Int.bmod_def, hmod]
      split_ifs <;> omega
    omega

/-- A pixel that can be read is what its bytes decode to. -/
theorem pixelForSurface_payloadPixel {surface : SurfaceSnapshot} (hplaced : PlacedInRange surface)
    (hc : Contains surface x y) {src : Option SourcePixel}
    (h : pixelForSurface store surface x y = .ok src) :
    decodePayloadPixel (payloadPixel store surface x y) = .ok src := by
  have hx := hplaced.x
  have hy := hplaced.y
  obtain ⟨hextentX, hextentY⟩ := hplaced.extent
  obtain ⟨x1, hx1⟩ := Option.isSome_iff_exists.mp hextentX
  obtain ⟨y1, hy1⟩ := Option.isSome_iff_exists.mp hextentY
  obtain ⟨hinx, _⟩ := i32Checked_eq_some.mp hx1
  obtain ⟨hiny, _⟩ := i32Checked_eq_some.mp hy1
  have hmin : i32Min = -2147483648 := rfl
  have hmax : i32Max = 2147483647 := rfl
  unfold Contains at hc
  have hwrapX := wrapI32_toNat (v := x - surface.placement.x) (by omega) (by omega)
  have hwrapY := wrapI32_toNat (v := y - surface.placement.y) (by omega) (by omega)
  unfold pixelForSurface at h
  unfold payloadPixel
  cases hhandle : surface.pixelTransport with
  | none =>
    simp only [hhandle] at h
    exact h
  | some handle =>
    simp only [hhandle] at h
    cases hlookup : store.lookup handle with
    | none =>
      rw [hlookup] at h
      cases h
    | some payload =>
      simp only [hlookup] at h
      simp only [Option.bind_some, hlookup]
      by_cases hout : (wrapI32 (x - surface.placement.x)).toNat ≥ payload.width ∨
          (wrapI32 (y - surface.placement.y)).toNat ≥ payload.height
      · rw [if_pos hout] at h
        have hbeyond : ¬ ((x - surface.placement.x).toNat < payload.width ∧
            (y - surface.placement.y).toNat < payload.height) := by
          rw [hwrapX, hwrapY] at hout
          split_ifs at hout <;> omega
        rw [if_neg hbeyond]
        exact h
      · rw [if_neg hout] at h
        obtain ⟨offset, hoffset, h⟩ := bind_eq_ok.mp h
        unfold sourcePixelOffset at hoffset
        split at hoffset
        · cases hoffset
        · cases hoffset
        · rename_i localX localY hlocalX hlocalY
          obtain ⟨_, rfl⟩ := i32Checked_eq_some.mp hlocalX
          obtain ⟨_, rfl⟩ := i32Checked_eq_some.mp hlocalY
          rw [hwrapX, hwrapY, if_pos (by omega), if_pos (by omega)] at hout
          rw [if_pos (by omega)]
          split_ifs at hoffset
          obtain rfl := Except.ok.inj hoffset
          have hstart : (y - surface.placement.y).toNat * payload.stride +
              (x - surface.placement.x).toNat * 4 = pixelOffset surface payload x y := rfl
          rw [hstart] at h
          cases hword : wordAt payload.pixels (pixelOffset surface payload x y) with
          | none =>
            rw [hword] at h
            cases h
          | some word =>
            rw [hword] at h
            exact h

/-- Kept surfaces whose bytes for a pixel agree paint it alike. -/
theorem paintCell_kept {old new : SurfaceSnapshot} (hkept : KeptInPlace old new)
    (hold : PlacedInRange old) (hnew : PlacedInRange new) (hc : Contains new x y)
    (hpixel : payloadPixel oldStore old x y = payloadPixel newStore new x y)
    (hreadOld : ∃ src, pixelForSurface oldStore old x y = .ok src)
    (hreadNew : ∃ src, pixelForSurface newStore new x y = .ok src) (a : UInt32) :
    paintCell oldStore old x y a = paintCell newStore new x y a := by
  obtain ⟨src, hsrc⟩ := hreadOld
  obtain ⟨src', hsrc'⟩ := hreadNew
  have hdecoded := pixelForSurface_payloadPixel hold ((hkept.contains x y).mpr hc) hsrc
  have hdecoded' := pixelForSurface_payloadPixel hnew hc hsrc'
  rw [hpixel] at hdecoded
  have hsame : src = src' := Except.ok.inj (hdecoded.symm.trans hdecoded')
  have hfallback : fallbackSurfacePixel old = fallbackSurfacePixel new := by
    unfold fallbackSurfacePixel
    rw [hkept.id]
  rw [paintCell, paintCell, hsrc, hsrc', hsame, hfallback]

/-- The surfaces over a pixel, bottom to top. -/
def stackAt (surfaces : List SurfaceSnapshot) (x y : Int) : List SurfaceSnapshot :=
  (canonicalizeSurfaces surfaces).filter fun s => decide (Contains s x y)

theorem mem_stackAt : s ∈ stackAt surfaces x y ↔ s ∈ surfaces ∧ Contains s x y := by
  rw [stackAt, List.mem_filter, mem_canonicalizeSurfaces, decide_eq_true_eq]

theorem referencePixel_stackAt (store : DisplayPixelTransportStore)
    (surfaces : List SurfaceSnapshot) (x y : Int) :
    referencePixel store surfaces x y =
      (stackAt surfaces x y).foldlM (fun a s => paintCell store s x y a) backgroundPixel := by
  unfold referencePixel stackAt
  rw [List.foldlM_filter]
  simp only [decide_eq_true_eq]
  rfl

theorem stackAt_sorted (surfaces : List SurfaceSnapshot) (x y : Int) :
    (stackAt surfaces x y).Pairwise fun s t => surfaceKey s ≤ surfaceKey t :=
  (List.pairwise_insertionSort _ _).filter _

theorem stackAt_nodup (h : SceneSurfaces surfaces) (x y : Int) : (stackAt surfaces x y).Nodup :=
  ((List.perm_insertionSort _ surfaces).nodup_iff.mpr (List.Nodup.of_map _ h.nodup)).filter _

/-- Two kept surfaces over a pixel have changed their order. -/
def Restacked (olds news : List SurfaceSnapshot) (x y : Int) : Prop :=
  ∃ old ∈ olds, ∃ old' ∈ olds, ∃ new ∈ news, ∃ new' ∈ news,
    KeptInPlace old new ∧ KeptInPlace old' new' ∧ Contains new x y ∧ Contains new' x y ∧
      surfaceKey new < surfaceKey new' ∧ surfaceKey old' < surfaceKey old

theorem surfaceKey_id {t : SurfaceSnapshot} (h : surfaceKey s = surfaceKey t) : s.id = t.id := by
  unfold surfaceKey at h
  simp only [EmbeddingLike.apply_eq_iff_eq, Prod.mk.injEq] at h
  exact h.2.2.2

/-- Over a settled pixel the stack is the former one, surface by surface. -/
theorem stackAt_kept (holds : SceneSurfaces olds) (hnews : SceneSurfaces news)
    (hsettled : Settled olds news x y) (horder : ¬ Restacked olds news x y) :
    ∃ former : SurfaceSnapshot → SurfaceSnapshot,
      stackAt olds x y = (stackAt news x y).map former ∧
        ∀ s ∈ stackAt news x y, former s ∈ olds ∧ KeptInPlace (former s) s := by
  let former := fun s : SurfaceSnapshot => (surfaceById olds s.id).getD s
  have hformer : ∀ {old s}, old ∈ olds → KeptInPlace old s → former s = old := by
    intro old s hold hkept
    have hid := holds.surfaceById_eq hold
    rw [hkept.id] at hid
    change (surfaceById olds s.id).getD s = old
    rw [hid, Option.getD_some]
  have hkept : ∀ s ∈ stackAt news x y, former s ∈ olds ∧ KeptInPlace (former s) s := by
    intro s hs
    obtain ⟨hmem, hc⟩ := mem_stackAt.mp hs
    obtain ⟨old, hold, hk⟩ := hsettled.new s hmem hc
    rw [hformer hold hk]
    exact ⟨hold, hk⟩
  have hinjective : ∀ s ∈ stackAt news x y, ∀ t ∈ stackAt news x y,
      former s = former t → s = t := by
    intro s hs t ht heq
    refine hnews.unique (mem_stackAt.mp hs).1 (mem_stackAt.mp ht).1 ?_
    rw [← (hkept s hs).2.id, ← (hkept t ht).2.id, heq]
  have hperm : (stackAt olds x y).Perm ((stackAt news x y).map former) := by
    refine (List.perm_ext_iff_of_nodup (stackAt_nodup holds x y)
      (List.Nodup.map_on hinjective (stackAt_nodup hnews x y))).mpr fun old => ?_
    rw [List.mem_map, mem_stackAt]
    constructor
    · intro hold
      obtain ⟨new, hnew, hk⟩ := hsettled.old old hold.1 hold.2
      exact ⟨new, mem_stackAt.mpr ⟨hnew, (hk.contains x y).mp hold.2⟩, hformer hold.1 hk⟩
    · intro hex
      obtain ⟨s, hs, rfl⟩ := hex
      obtain ⟨hmem, hk⟩ := hkept s hs
      exact ⟨hmem, (hk.contains x y).mpr (mem_stackAt.mp hs).2⟩
  have hsorted : ((stackAt news x y).map former).Pairwise
      fun s t => surfaceKey s ≤ surfaceKey t := by
    rw [List.pairwise_map]
    refine (stackAt_sorted news x y).imp_of_mem fun {s t} hs ht hle => ?_
    obtain ⟨hmem, hk⟩ := hkept s hs
    obtain ⟨hmem', hk'⟩ := hkept t ht
    obtain ⟨hs', hc⟩ := mem_stackAt.mp hs
    obtain ⟨ht', hc'⟩ := mem_stackAt.mp ht
    rcases hle.lt_or_eq with hlt | heq
    · by_contra hnot
      exact horder ⟨_, hmem, _, hmem', s, hs', t, ht', hk, hk', hc, hc', hlt,
        lt_of_not_ge hnot⟩
    · rw [hnews.unique hs' ht' (surfaceKey_id heq)]
  refine ⟨former, List.Perm.eq_of_pairwise ?_ (stackAt_sorted olds x y) hsorted hperm, hkept⟩
  intro a b ha hb hab hba
  have hb' := hperm.mem_iff.mpr hb
  exact holds.unique (mem_stackAt.mp ha).1 (mem_stackAt.mp hb').1
    (surfaceKey_id (le_antisymm hab hba))

/-- A pixel of a surface kept in place has come or gone, or has another format. -/
def Repixeled (oldStore newStore : DisplayPixelTransportStore)
    (olds news : List SurfaceSnapshot) (x y : Int) : Prop :=
  ∃ old ∈ olds, ∃ new ∈ news, KeptInPlace old new ∧ Contains new x y ∧
    (payloadPixel oldStore old x y).map Prod.snd ≠ (payloadPixel newStore new x y).map Prod.snd

/-- Damage declared over the pixel of which no rectangle can be formed. -/
def DamageDropped (surfaces : List SurfaceSnapshot) (x y : Int) : Prop :=
  ∃ s ∈ surfaces, Contains s x y ∧ ∃ d ∈ s.damageRects, DamageAt s d x y ∧ ¬ Representable s d

/-- What the damage between two scenes does not look at, at a pixel. -/
def Overlooked (oldStore newStore : DisplayPixelTransportStore)
    (olds news : List SurfaceSnapshot) (x y : Int) : Prop :=
  DamageDropped news x y ∨ Repixeled oldStore newStore olds news x y ∨ Restacked olds news x y

/-- Outside its declared damage a surface kept in place has the bytes it had. -/
def ChangesDeclared (oldStore newStore : DisplayPixelTransportStore)
    (olds news : List SurfaceSnapshot) : Prop :=
  ∀ old ∈ olds, ∀ new ∈ news, KeptInPlace old new → ∀ x y, Contains new x y →
    (∀ d ∈ new.damageRects, ¬ DamageAt new d x y) →
      ∀ word word' format format', payloadPixel oldStore old x y = some (word, format) →
        payloadPixel newStore new x y = some (word', format') → word = word'

theorem foldlM_congr_mem {α β : Type} {f g : α → β → Option α} {l : List β}
    (h : ∀ b ∈ l, ∀ a, f a b = g a b) (a : α) : l.foldlM f a = l.foldlM g a := by
  induction l generalizing a with
  | nil => rfl
  | cons b l ih =>
    rw [List.foldlM_cons, List.foldlM_cons, h b List.mem_cons_self]
    congr 1
    funext a'
    exact ih (fun c hc => h c (List.mem_cons_of_mem _ hc)) a'

/-- A settled pixel without declared damage, and without what is overlooked, is unchanged. -/
theorem referencePixel_settled (holds : SceneSurfaces olds) (hnews : SceneSurfaces news)
    (hdeclared : ChangesDeclared oldStore newStore olds news)
    (hreadOld : ∃ b, referencePixel oldStore olds x y = some b)
    (hreadNew : ∃ b, referencePixel newStore news x y = some b) (hsettled : Settled olds news x y)
    (hcarried : ¬ DamageCarried news x y) (hlooked : ¬ Overlooked oldStore newStore olds news x y) :
    referencePixel oldStore olds x y = referencePixel newStore news x y := by
  have hdropped : ¬ DamageDropped news x y := fun hc => hlooked (.inl hc)
  have hpixels : ¬ Repixeled oldStore newStore olds news x y := fun hc => hlooked (.inr (.inl hc))
  have horder : ¬ Restacked olds news x y := fun hc => hlooked (.inr (.inr hc))
  rw [← paintStack_reference fun s hs => (holds.placed s hs).extent, paintStack_some] at hreadOld
  rw [← paintStack_reference fun s hs => (hnews.placed s hs).extent, paintStack_some] at hreadNew
  obtain ⟨former, hstack, hformer⟩ := stackAt_kept holds hnews hsettled horder
  rw [referencePixel_stackAt, referencePixel_stackAt, hstack, List.foldlM_map]
  refine foldlM_congr_mem (fun s hs a => ?_) _
  obtain ⟨hmem, hkept⟩ := hformer s hs
  obtain ⟨hs', hc⟩ := mem_stackAt.mp hs
  have hold := holds.placed _ hmem
  have hnew := hnews.placed s hs'
  have hundamaged : ∀ d ∈ s.damageRects, ¬ DamageAt s d x y := by
    intro d hd hat
    by_cases hformed : Representable s d
    · exact hcarried ⟨s, hs', hc, d, hd, hformed, hat⟩
    · exact hdropped ⟨s, hs', hc, d, hd, hat, hformed⟩
  have hformat : (payloadPixel oldStore (former s) x y).map Prod.snd =
      (payloadPixel newStore s x y).map Prod.snd := by
    by_contra hne
    exact hpixels ⟨former s, hmem, s, hs', hkept, hc, hne⟩
  have hpixel : payloadPixel oldStore (former s) x y = payloadPixel newStore s x y := by
    cases hword : payloadPixel oldStore (former s) x y with
    | none =>
      rw [hword] at hformat
      exact (Option.map_eq_none_iff.mp hformat.symm).symm
    | some pixel =>
      cases hword' : payloadPixel newStore s x y with
      | none =>
        rw [hword, hword'] at hformat
        cases hformat
      | some pixel' =>
        rw [hword, hword'] at hformat
        have hsame := hdeclared _ hmem s hs' hkept x y hc hundamaged pixel.1 pixel'.1 pixel.2
          pixel'.2 hword hword'
        exact congrArg some (Prod.ext hsame (Option.some.inj hformat))
  refine paintCell_kept hkept hold hnew hc hpixel ?_ ?_ a
  · exact hreadOld _ (mem_canonicalizeSurfaces.mpr hmem)
      ((shows_iff_contains hold.extent x y).mpr ((hkept.contains x y).mpr hc))
  · exact hreadNew s (mem_canonicalizeSurfaces.mpr hs') ((shows_iff_contains hnew.extent x y).mpr hc)

/-- The composition of a whole output, after the check that precedes one. -/
structure FullComposition (o : OutputState) (store : DisplayPixelTransportStore)
    (surfaces : List SurfaceSnapshot) (framebuffer pixels : List UInt32) : Prop where
  length : framebuffer.length = o.framebufferWords
  validated : validateSurfacePixelsForDamage store surfaces [o.area] = .ok ()
  composed : composeDamageRects framebuffer o store surfaces [o.area] = .ok pixels

/-- The word of a framebuffer for a pixel of its output. -/
def pixelAt (o : OutputState) (pixels : List UInt32) (x y : Int) : Option UInt32 :=
  pixels[(y - o.originY).toNat * o.pitch + (x - o.originX).toNat]?

theorem OutputState.onOutput_area (o : OutputState) : OnOutput o o.area where
  nonempty := by
    have hwidth := o.valid.width_pos
    have hheight := o.valid.height_pos
    unfold RendererRect.Nonempty area
    dsimp only
    omega
  within := RendererRect.Within.refl _

theorem FullComposition.pixelAt_eq {o : OutputState} {framebuffer pixels : List UInt32}
    (h : FullComposition o store surfaces framebuffer pixels) (hs : SceneSurfaces surfaces)
    (hm : o.area.Mem x y) :
    pixelAt o pixels x y = referencePixel store surfaces x y ∧
      ∃ b, referencePixel store surfaces x y = some b := by
  have hdamage : ∀ rect ∈ [o.area], OnOutput o rect := by
    intro rect hr
    rw [List.mem_singleton.mp hr]
    exact o.onOutput_area
  have hcolumn : x ∈ o.area.columns := RendererRect.mem_columns.mpr ⟨hm.1, hm.2.1⟩
  have hrow : y ∈ o.area.rows := RendererRect.mem_rows.mpr hm.2.2
  have hcell := o.onOutput_area.cell hcolumn hrow
    ((y - o.originY).toNat * o.pitch + (x - o.originX).toNat)
  obtain ⟨hy, hx⟩ := hcell.2.mp rfl
  have hindex : (y - o.originY).toNat * o.pitch + (x - o.originX).toNat < framebuffer.length :=
    h.length ▸ hcell.1
  have hrows := RowsValidated.of_validated h.validated
  have hget := composed_cell hdamage hrows h.composed h.length
    (fun s hmem => (hs.placed s hmem).extent) (List.getElem?_eq_getElem hindex)
  have hcovers : Covers [o.area] x y := ⟨o.area, List.mem_singleton_self _, hm⟩
  rw [hx, hy, if_pos hcovers] at hget
  have hlength := (composeDamageRects_acts hdamage
    (damageReadable_of_composed hrows h.composed)).length framebuffer pixels h.length h.composed
  have hword : pixels[(y - o.originY).toNat * o.pitch + (x - o.originX).toNat]? = some _ :=
    List.getElem?_eq_getElem (hlength ▸ hcell.1)
  exact ⟨hget, _, hget.symm.trans hword⟩

/-- Every pixel at which two compositions of an output differ is under the damage between
their scenes. -/
def DamageConservative (o : OutputState) (previous : CommittedSceneState)
    (surfaces : List SurfaceSnapshot) (oldPixels newPixels : List UInt32) : Prop :=
  ∀ x y, o.area.Mem x y → pixelAt o oldPixels x y ≠ pixelAt o newPixels x y →
    Covers (effectiveDamageRects (some previous) surfaces true o.area) x y

theorem AdmissibleScene.sceneSurfaces {c : SceneCommit} (h : AdmissibleScene c)
    (hcorners : ∀ s ∈ c.surfaces, i32Min ≤ s.placement.x ∧ i32Min ≤ s.placement.y) :
    SceneSurfaces (canonicalizeSurfaces c.surfaces) where
  nodup := ((List.perm_insertionSort _ c.surfaces).map _).nodup_iff.mpr h.nodup
  placed s hs := by
    have hmem := mem_canonicalizeSurfaces.mp hs
    have hadmissible := h.surfaces s hmem
    exact ⟨(hcorners s hmem).1, (hcorners s hmem).2, hadmissible.extentX, hadmissible.extentY⟩

/-- For scenes displayd admits, whose payloads change in declared damage only where surfaces
are kept: the damage is conservative exactly when the whole output is damaged, or nothing
overlooked shows at the pixels whose surfaces are kept without damage that is carried. -/
theorem damageConservative_iff {o : OutputState} {old new : SceneCommit}
    {previous : CommittedSceneState} {oldStore newStore : DisplayPixelTransportStore}
    {oldBuffer newBuffer oldPixels newPixels : List UInt32} (hold : AdmissibleScene old)
    (hnew : AdmissibleScene new)
    (hcorners : ∀ s ∈ old.surfaces ++ new.surfaces,
      i32Min ≤ s.placement.x ∧ i32Min ≤ s.placement.y)
    (hprevious : previous.surfaces = canonicalizeSurfaces old.surfaces)
    (hdeclared : ChangesDeclared oldStore newStore previous.surfaces
      (canonicalizeSurfaces new.surfaces))
    (hoz : FullComposition o oldStore previous.surfaces oldBuffer oldPixels)
    (hnz : FullComposition o newStore (canonicalizeSurfaces new.surfaces) newBuffer newPixels) :
    DamageConservative o previous (canonicalizeSurfaces new.surfaces) oldPixels newPixels ↔
      Collapsed previous (canonicalizeSurfaces new.surfaces) o.area ∨
        ∀ x y, o.area.Mem x y → Settled previous.surfaces (canonicalizeSurfaces new.surfaces) x y →
          ¬ DamageCarried (canonicalizeSurfaces new.surfaces) x y →
          Overlooked oldStore newStore previous.surfaces (canonicalizeSurfaces new.surfaces) x y →
            pixelAt o oldPixels x y = pixelAt o newPixels x y := by
  have holds : SceneSurfaces previous.surfaces := by
    rw [hprevious]
    exact hold.sceneSurfaces fun s hs => hcorners s (List.mem_append_left _ hs)
  have hnews := hnew.sceneSurfaces fun s hs => hcorners s (List.mem_append_right _ hs)
  constructor
  · intro hconservative
    by_cases hall : Collapsed previous (canonicalizeSurfaces new.surfaces) o.area
    · exact .inl hall
    · refine .inr fun x y hm hsettled hcarried _ => ?_
      by_contra hdiffer
      have hcovers := hconservative x y hm hdiffer
      rcases (covers_effectiveDamageRects holds hnews hm).mp hcovers with hc | hc | hc
      · exact hall hc
      · exact hc hsettled
      · exact hcarried hc
  · intro hcondition x y hm hdiffer
    refine (covers_effectiveDamageRects holds hnews hm).mpr ?_
    rcases hcondition with hall | hquiet
    · exact .inl hall
    · by_contra hnone
      rw [not_or, not_or, not_not] at hnone
      obtain ⟨_, hsettled, hcarried⟩ := hnone
      by_cases hlooked : Overlooked oldStore newStore previous.surfaces
          (canonicalizeSurfaces new.surfaces) x y
      · exact hdiffer (hquiet x y hm hsettled hcarried hlooked)
      · obtain ⟨hatOld, hreadOld⟩ := hoz.pixelAt_eq holds hm
        obtain ⟨hatNew, hreadNew⟩ := hnz.pixelAt_eq hnews hm
        rw [hatOld, hatNew] at hdiffer
        exact hdiffer (referencePixel_settled holds hnews hdeclared hreadOld hreadNew hsettled
          hcarried hlooked)

/-- A row of two pixels, the second of which differs from one payload to another. -/
def rowPayload (generation : Nat) (second : UInt8) : PixelTransportPayload where
  handle := ⟨1, "surface-1", 1, generation⟩
  pixels := [1, 2, 3, 0, second, 5, 6, 0]
  width := 2
  height := 1
  stride := 8
  format := wlShmFormatXrgb8888

def rowStore (generation : Nat) (second : UInt8) : DisplayPixelTransportStore where
  inner := ⟨OrdMap.empty.insert (rowPayload generation second).handle
    (rowPayload generation second)⟩

def rowSurface (generation : Nat) (damage : List Rect) : SurfaceSnapshot where
  id := "surface-1"
  placement := ⟨0, 0, 2, 1, 0, true⟩
  bufferGeneration := 1
  damageRects := damage
  pixelTransport := some (rowPayload generation 0).handle

def rowScene (generation : Nat) (second : UInt8) (damage : List Rect) : SceneCommit :=
  { pixelScene 1 generation with
    surfaces := [rowSurface generation damage]
    pixelPayloads := [rowPayload generation second] }

def committedFrom (c : SceneCommit) : CommittedSceneState where
  source := .compd
  target := c.target
  focus := c.focus
  selection := c.selection
  surfaces := canonicalizeSurfaces c.surfaces
  sceneEpoch := c.sceneEpoch
  sceneGeneration := c.sceneGeneration
  commitId := 1
  unixTimestamp := 0

theorem stripOutput_pixels (hm : stripOutput.area.Mem x y) : y = 0 ∧ (x = 0 ∨ x = 1) := by
  obtain ⟨hx0, hx1, hy0, hy1⟩ := hm
  change (0 : Int) ≤ x at hx0
  change x < 0 + 2 at hx1
  change (0 : Int) ≤ y at hy0
  change y < 0 + 1 at hy1
  omega

theorem rowScene_declared (first second : UInt8) {d : Rect} {damage : List Rect}
    (hd : d ∈ damage) (hat : DamageAt (rowSurface 2 damage) d 1 0) :
    ChangesDeclared (rowStore 1 first) (rowStore 2 second)
      (canonicalizeSurfaces (rowScene 1 first []).surfaces)
      (canonicalizeSurfaces (rowScene 2 second damage).surfaces) := by
  intro old hold new hnew _ x y hc hundamaged word word' format format' hword hword'
  obtain rfl := List.mem_singleton.mp (mem_canonicalizeSurfaces.mp hold)
  obtain rfl := List.mem_singleton.mp (mem_canonicalizeSurfaces.mp hnew)
  obtain ⟨rfl, hx⟩ := stripOutput_pixels hc.2
  rcases hx with rfl | rfl
  · have hfirst : payloadPixel (rowStore 1 first) (rowSurface 1 []) 0 0 =
        some (wordFromLeBytes 1 2 3 0, wlShmFormatXrgb8888) := rfl
    have hfirst' : payloadPixel (rowStore 2 second) (rowSurface 2 damage) 0 0 =
        some (wordFromLeBytes 1 2 3 0, wlShmFormatXrgb8888) := rfl
    have h := Option.some.inj (hword.symm.trans hfirst)
    have h' := Option.some.inj (hword'.symm.trans hfirst')
    exact congrArg Prod.fst (h.trans h'.symm)
  · exact absurd hat (hundamaged d hd)

theorem damageConservative_row :
    DamageConservative stripOutput (committedFrom (rowScene 1 4 []))
      (canonicalizeSurfaces (rowScene 2 9 [⟨1, 0, 1, 1⟩]).surfaces)
      [0xFF030201, 0xFF060504] [0xFF030201, 0xFF060509] := by
  have hold : AdmissibleScene (rowScene 1 4 []) := validateSceneAdmission_ok.mp ⟨_, rfl⟩
  have hnew : AdmissibleScene (rowScene 2 9 [⟨1, 0, 1, 1⟩]) :=
    validateSceneAdmission_ok.mp ⟨_, rfl⟩
  have hcorners : ∀ s ∈ (rowScene 1 4 []).surfaces ++
      (rowScene 2 9 [⟨1, 0, 1, 1⟩]).surfaces,
      i32Min ≤ s.placement.x ∧ i32Min ≤ s.placement.y := by decide
  have hbefore : FullComposition stripOutput (rowStore 1 4)
      (committedFrom (rowScene 1 4 [])).surfaces [0, 0] [0xFF030201, 0xFF060504] :=
    ⟨rfl, by decide +kernel, by decide +kernel⟩
  have hafter : FullComposition stripOutput (rowStore 2 9)
      (canonicalizeSurfaces (rowScene 2 9 [⟨1, 0, 1, 1⟩]).surfaces) [0, 0]
      [0xFF030201, 0xFF060509] := ⟨rfl, by decide +kernel, by decide +kernel⟩
  refine (damageConservative_iff hold hnew hcorners rfl (rowScene_declared 4 9
    (List.mem_singleton_self _) (by decide)) hbefore hafter).mpr
      (.inr fun x y hm _ hcarried _ => ?_)
  obtain ⟨rfl, hx⟩ := stripOutput_pixels hm
  rcases hx with rfl | rfl
  · rfl
  · refine absurd ⟨rowSurface 2 [⟨1, 0, 1, 1⟩], ?_, ?_, ⟨1, 0, 1, 1⟩, ?_, ?_⟩ hcarried
    · exact mem_canonicalizeSurfaces.mpr (List.mem_singleton_self _)
    · decide
    · exact List.mem_singleton_self _
    · decide

/-- Two surfaces over one place, in the order of their classes. -/
def layeredScene (generation panelClass windowClass : Nat) : SceneCommit :=
  { pixelScene 1 generation with
    surfaces := [
      { id := "panel-1", placement := ⟨0, 0, 2, 1, 0, true⟩, layerClass := panelClass },
      { id := "window-1", placement := ⟨0, 0, 2, 1, 0, true⟩, layerClass := windowClass }] }

/-- Scenes as the law takes them, whose damage misses a pixel that changed. -/
structure MissesChange (o : OutputState) (old new : SceneCommit)
    (oldStore newStore : DisplayPixelTransportStore) (oldPixels newPixels : List UInt32) :
    Prop where
  admittedOld : AdmissibleScene old
  admittedNew : AdmissibleScene new
  declared : ChangesDeclared oldStore newStore (committedFrom old).surfaces
    (canonicalizeSurfaces new.surfaces)
  before : FullComposition o oldStore (committedFrom old).surfaces [0, 0] oldPixels
  after : FullComposition o newStore (canonicalizeSurfaces new.surfaces) [0, 0] newPixels
  missed : ¬ DamageConservative o (committedFrom old) (canonicalizeSurfaces new.surfaces)
    oldPixels newPixels

/-- A second pixel redrawn under damage one past `i32`, and two surfaces whose classes are
exchanged: neither scene damages anything. -/
theorem damage_misses_change :
    MissesChange stripOutput (rowScene 1 4 []) (rowScene 2 9 [⟨1, 0, 2147483647, 1⟩])
        (rowStore 1 4) (rowStore 2 9) [0xFF030201, 0xFF060504] [0xFF030201, 0xFF060509] ∧
      MissesChange stripOutput (layeredScene 1 0 1) (layeredScene 2 1 0) {} {}
        [0xFFFF0000, 0xFFFF0000] [0xFF0000FF, 0xFF0000FF] := by
  have hrow : ¬ Covers (effectiveDamageRects (some (committedFrom (rowScene 1 4 [])))
      (canonicalizeSurfaces (rowScene 2 9 [⟨1, 0, 2147483647, 1⟩]).surfaces) true
      stripOutput.area) 1 0 := by decide +kernel
  have hlayers : ¬ Covers (effectiveDamageRects (some (committedFrom (layeredScene 1 0 1)))
      (canonicalizeSurfaces (layeredScene 2 1 0).surfaces) true stripOutput.area) 0 0 := by
    decide +kernel
  refine ⟨⟨validateSceneAdmission_ok.mp ⟨_, rfl⟩, validateSceneAdmission_ok.mp ⟨_, rfl⟩,
    rowScene_declared 4 9 (d := ⟨1, 0, 2147483647, 1⟩) (.head _) (by decide),
    ⟨rfl, by decide +kernel, by decide +kernel⟩, ⟨rfl, by decide +kernel, by decide +kernel⟩,
    fun h => hrow (h 1 0 (by decide) (by decide))⟩,
    ⟨validateSceneAdmission_ok.mp ⟨_, rfl⟩, validateSceneAdmission_ok.mp ⟨_, rfl⟩, ?_,
    ⟨rfl, by decide +kernel, by decide +kernel⟩, ⟨rfl, by decide +kernel, by decide +kernel⟩,
    fun h => hlayers (h 0 0 (by decide) (by decide))⟩⟩
  intro old hold new _ _ x y _ _ word _ format _ hword _
  have hbare : old.pixelTransport = none := by
    have hall : ∀ s ∈ (layeredScene 1 0 1).surfaces, s.pixelTransport = none := by decide
    exact hall old (mem_canonicalizeSurfaces.mp hold)
  rw [payloadPixel, hbare] at hword
  cases hword

end TuffXwin.Displayd
