import TuffXwin.Displayd.Drawing

/-! The compositor against a reference for each pixel. Whatever the order of the damage
and of the surfaces, a damaged pixel is the fold of source-over from the background over
the surfaces that contain it; rows copied at once, by words or by vectors, have the
pixels of the blend. -/

namespace TuffXwin.Displayd
open Lib

variable {store : DisplayPixelTransportStore} {surfaces : List SurfaceSnapshot}
  {damage : List RendererRect}
variable {handle : PixelTransportHandle} {payload : PixelTransportPayload} {r : RendererRect}
  {o : OutputState} {composed framebuffer : List UInt32} {damage' : List RendererRect}
variable {surface : SurfaceSnapshot}

/-- The little-endian words a load takes from a run of bytes. -/
def loadWords : List UInt8 → List UInt32
  | b0 :: b1 :: b2 :: b3 :: rest => wordFromLeBytes b0 b1 b2 b3 :: loadWords rest
  | _ => []

/-- Blocks of eight words with their alpha set, then the words left over. -/
def avx2Blocks : Nat → List UInt8 → List UInt32
  | 0, src => xrgbRow src
  | blocks + 1, src =>
    (loadWords (src.take 32)).map (fun value => value ||| 0xFF000000) ++
      avx2Blocks blocks (src.drop 32)

def copyXrgbRowAvx2 (dst : List UInt32) (src : List UInt8) : List UInt32 :=
  avx2Blocks (dst.length / 8) src

/-- `copy_xrgb_row` on a machine with or without AVX2. -/
def copyXrgbRowInto (avx2Available : Bool) (dst : List UInt32) (src : List UInt8) :
    Except String (List UInt32) :=
  if src.length ≠ min (dst.length * 4) u64Max then .error "XRGB row byte length mismatch"
  else if dst.length ≥ simdXrgbMinPixels ∧ avx2Available = true then
    .ok (copyXrgbRowAvx2 dst src)
  else .ok (xrgbRow src)

/-- The body of the row loop of `copy_surface_rect`, with the row it writes as detected. -/
def copyXrgbRowDetected (avx2Available : Bool) (output : OutputState)
    (payload : PixelTransportPayload) (surface : SurfaceSnapshot) (rect : RendererRect)
    (localX0 : Nat) (framebuffer : List UInt32) (y : Int) : Except Fault (List UInt32) :=
  checked "source y offset overflow" (i32Checked (y - surface.placement.y)) >>= fun localY =>
  checked "source row range overflow"
    ((usizeChecked (asUsize localY * payload.stride)).bind fun row =>
      usizeChecked (row + min (localX0 * 4) u64Max)) >>= fun srcStart =>
  checked "source row end overflow" (usizeChecked (srcStart + rect.width * 4)) >>= fun srcEnd =>
  checked ("pixel payload is too short for surface " ++ surface.id)
    (sliceOf payload.pixels srcStart srcEnd) >>= fun src =>
  framebufferOffsetForOutput output rect.x0 y >>= fun dstStart =>
  checked "framebuffer row end overflow" (usizeChecked (dstStart + rect.width)) >>=
    fun dstEnd =>
  checked "framebuffer row out of bounds" (sliceOf framebuffer dstStart dstEnd) >>= fun dst =>
  returned (copyXrgbRowInto avx2Available dst src) >>= fun row =>
  checked "framebuffer row out of bounds" (writeSlice framebuffer dstStart row)

theorem xrgbRow_eq_map (src : List UInt8) : xrgbRow src = (loadWords src).map opaqueWord := by
  fun_induction xrgbRow src with
  | case1 b0 b1 b2 b3 rest ih => rw [loadWords, List.map_cons, ih]
  | case2 src hshape =>
    unfold loadWords
    split
    · rename_i b0 b1 b2 b3 rest
      exact absurd rfl (hshape b0 b1 b2 b3 rest)
    · rfl

/-- Words can be taken from a row in two parts, cut between words. -/
theorem loadWords_split (words : Nat) (src : List UInt8) :
    loadWords src = loadWords (src.take (4 * words)) ++ loadWords (src.drop (4 * words)) := by
  induction words generalizing src with
  | zero => rfl
  | succ words ih =>
    have hfour : 4 * (words + 1) = 4 * words + 4 := rfl
    rw [hfour]
    match src with
    | [] => rfl
    | [_] => rfl
    | [_, _] => rfl
    | [_, _, _] => rfl
    | b0 :: b1 :: b2 :: b3 :: rest =>
      simp only [List.take_succ_cons, List.drop_succ_cons, loadWords, List.cons_append]
      rw [ih rest]

/-- Setting the alpha bits of a word makes it opaque. -/
theorem or_alpha (value : UInt32) : value ||| 0xFF000000 = opaqueWord value := by
  apply UInt32.eq_of_toBitVec_eq
  unfold opaqueWord
  simp only [UInt32.toBitVec_or, UInt32.toBitVec_and]
  ext i hi
  simp only [BitVec.getElem_or, BitVec.getElem_and]
  have hmask : (UInt32.toBitVec 0x00FFFFFF) = ~~~ (UInt32.toBitVec 0xFF000000) := by decide
  rw [hmask, BitVec.getElem_not]
  cases (UInt32.toBitVec 0xFF000000)[i] <;> simp

theorem avx2Blocks_eq (blocks : Nat) (src : List UInt8) : avx2Blocks blocks src = xrgbRow src := by
  induction blocks generalizing src with
  | zero => rfl
  | succ blocks ih =>
    have hwords := loadWords_split 8 src
    have halpha : (fun value : UInt32 => value ||| 0xFF000000) = opaqueWord := funext or_alpha
    rw [avx2Blocks, ih, halpha, xrgbRow_eq_map src, hwords, List.map_append,
      ← xrgbRow_eq_map (src.drop _)]

/-- Vectors copy a row as words do, and the row as long as its destination. -/
theorem copyXrgbRowInto_ok (avx2Available : Bool) {dst : List UInt32} {src : List UInt8}
    (h : src.length = dst.length * 4) (hle : src.length ≤ u64Max) :
    copyXrgbRowInto avx2Available dst src = .ok (xrgbRow src) := by
  unfold copyXrgbRowInto copyXrgbRowAvx2
  rw [if_neg (by omega), avx2Blocks_eq, ite_self]

theorem sliceOf_length {α : Type} {l part : List α} {start stop : Nat}
    (h : sliceOf l start stop = some part) :
    part.length = stop - start ∧ start ≤ stop ∧ stop ≤ l.length := by
  unfold sliceOf at h
  split_ifs at h with hin
  obtain rfl := Option.some.inj h
  refine ⟨?_, hin⟩
  rw [List.length_take, List.length_drop]
  omega

/-- What is detected changes no row. -/
theorem copyXrgbRowDetected_eq (avx2Available : Bool) (output : OutputState)
    (payload : PixelTransportPayload) (surface : SurfaceSnapshot) (rect : RendererRect)
    (localX0 : Nat) (framebuffer : List UInt32) (y : Int) :
    copyXrgbRowDetected avx2Available output payload surface rect localX0 framebuffer y =
      copyXrgbRow output payload surface rect localX0 framebuffer y := by
  unfold copyXrgbRowDetected copyXrgbRow
  congr 1
  funext localY
  congr 1
  funext srcStart
  cases hend : usizeChecked (srcStart + rect.width * 4) with
  | none => rfl
  | some srcEnd =>
    obtain ⟨hle, rfl⟩ := usizeChecked_eq_some.mp hend
    rw [checked_bind, checked_bind]
    cases hsrc : sliceOf payload.pixels srcStart (srcStart + rect.width * 4) with
    | none => rfl
    | some src =>
      have hsrclen := (sliceOf_length hsrc).1
      rw [checked_bind, checked_bind]
      congr 1
      funext dstStart
      cases hdstEnd : usizeChecked (dstStart + rect.width) with
      | none => rfl
      | some dstEnd =>
        obtain ⟨_, rfl⟩ := usizeChecked_eq_some.mp hdstEnd
        rw [checked_bind, checked_bind]
        cases hdst : sliceOf framebuffer dstStart (dstStart + rect.width) with
        | none =>
          have hshort : ¬ dstStart + rect.width ≤ framebuffer.length := by
            intro hfits
            rw [sliceOf, if_pos ⟨by omega, hfits⟩] at hdst
            cases hdst
          have hrow : (xrgbRow src).length = rect.width := by
            rw [xrgbRow_length]
            omega
          rw [writeSlice, hrow, if_neg hshort]
          rfl
        | some dst =>
          have hdstlen := (sliceOf_length hdst).1
          rw [checked_bind, copyXrgbRowInto_ok avx2Available (by omega) (by omega)]
          rfl

/-- The surface is visible and its rectangle, over the integers, holds the pixel. -/
def Contains (surface : SurfaceSnapshot) (x y : Int) : Prop :=
  surface.placement.visible = true ∧
    surface.placement.x ≤ x ∧ x < surface.placement.x + surface.placement.width ∧
    surface.placement.y ≤ y ∧ y < surface.placement.y + surface.placement.height

instance (surface : SurfaceSnapshot) (x y : Int) : Decidable (Contains surface x y) := by
  unfold Contains
  infer_instance

/-- The extents of a surface, as scene admission checks them. -/
def ExtentFits (surface : SurfaceSnapshot) : Prop :=
  (checkedAddI32U32 surface.placement.x surface.placement.width).isSome ∧
    (checkedAddI32U32 surface.placement.y surface.placement.height).isSome

theorem shows_iff_contains (h : ExtentFits surface) (x y : Int) :
    Shows surface x y ↔ Contains surface x y := by
  obtain ⟨hx, hy⟩ := h
  obtain ⟨x1, hx1⟩ := Option.isSome_iff_exists.mp hx
  obtain ⟨y1, hy1⟩ := Option.isSome_iff_exists.mp hy
  obtain ⟨hinx, rfl⟩ := i32Checked_eq_some.mp hx1
  obtain ⟨hiny, rfl⟩ := i32Checked_eq_some.mp hy1
  constructor
  · intro hs
    obtain ⟨r, hr, hm⟩ := hs
    obtain ⟨hvisible, rfl⟩ := surfaceOutputBounds_eq hr
    exact ⟨hvisible, hm⟩
  · intro hc
    obtain ⟨hvisible, hm⟩ := hc
    have hbounds : surfaceOutputBounds surface = some
        ⟨surface.placement.x, surface.placement.y,
          surface.placement.x + surface.placement.width,
          surface.placement.y + surface.placement.height⟩ := by
      rw [surfaceOutputBounds, hvisible]
      exact RendererRect.fromOriginSize_eq_some.mpr ⟨by omega, by omega, hinx, hiny, rfl⟩
    exact ⟨_, hbounds, hm⟩

/-- A pixel of a composed scene: the surfaces that contain it, bottom to top, over the
background; none where one of them cannot be read. -/
def referencePixel (store : DisplayPixelTransportStore) (surfaces : List SurfaceSnapshot)
    (x y : Int) : Option UInt32 :=
  (canonicalizeSurfaces surfaces).foldlM (fun a surface =>
    if Contains surface x y then paintCell store surface x y a else some a) backgroundPixel

theorem paintStack_reference (h : ∀ surface ∈ surfaces, ExtentFits surface) (x y : Int) :
    paintStack store (canonicalizeSurfaces surfaces) x y = referencePixel store surfaces x y := by
  have hfits : ∀ surface ∈ canonicalizeSurfaces surfaces, ExtentFits surface :=
    fun surface hs => h surface (mem_canonicalizeSurfaces.mp hs)
  unfold paintStack referencePixel
  generalize backgroundPixel = a
  generalize canonicalizeSurfaces surfaces = ordered at hfits
  induction ordered generalizing a with
  | nil => rfl
  | cons surface ordered ih =>
    have hhead := shows_iff_contains (hfits surface List.mem_cons_self) x y
    have hrest : ∀ s ∈ ordered, ExtentFits s := fun s hs => hfits s (List.mem_cons_of_mem _ hs)
    rw [List.foldlM_cons, List.foldlM_cons]
    simp only [hhead]
    congr 1
    funext b
    exact ih b hrest

/-- The XRGB surfaces on the damage have passed the check made before composition. -/
def RowsValidated (store : DisplayPixelTransportStore) (surfaces : List SurfaceSnapshot)
    (damage : List RendererRect) : Prop :=
  ∀ rect ∈ damage, ∀ surface ∈ surfaces, ∀ r, surfaceOnDamage surface rect = some r →
    ∀ handle payload, surface.pixelTransport = some handle →
      store.lookup handle = some payload → payload.format = wlShmFormatXrgb8888 →
        validateSurfacePixelRect store surface r = .ok ()

theorem RowsValidated.of_validated
    (h : validateSurfacePixelsForDamage store surfaces damage = .ok ()) :
    RowsValidated store surfaces damage := by
  intro rect hrect surface hsurface r hr _ _ _ _ _
  have hsurfaces := checkAll_ok.mp (checkAll_ok.mp h rect hrect) surface hsurface
  unfold validateSurfaceForDamage at hsurfaces
  unfold surfaceOnDamage at hr
  simpa only [hr] using hsurfaces

/-- The check reads all that a copy by rows will. -/
theorem readable_of_validated {damage : RendererRect} (hr : OnDamage surface damage r)
    (hhandle : surface.pixelTransport = some handle) (hlookup : store.lookup handle = some payload)
    (h : validateSurfacePixelRect store surface r = .ok ()) : Readable surface payload r := by
  unfold validateSurfacePixelRect at h
  simp only [hhandle, hlookup] at h
  obtain ⟨_, _, h⟩ := bind_eq_ok.mp h
  have hleft := hr.left
  have htop := hr.top
  have hne := hr.nonempty
  unfold RendererRect.Nonempty at hne
  split_ifs at h
  split at h
  · cases h
  · cases h
  · cases h
  · cases h
  · rename_i hx1 hy1
    obtain ⟨hinx, rfl⟩ := i32Checked_eq_some.mp hx1
    obtain ⟨hiny, rfl⟩ := i32Checked_eq_some.mp hy1
    split_ifs at h
    have hrow : (r.y1 - 1 - surface.placement.y).toNat =
        (r.y1 - surface.placement.y).toNat - 1 := by omega
    refine ⟨⟨hleft, htop, by omega, by omega⟩, hinx.2, hiny.2, ?_, ?_⟩
    · unfold pixelOffset
      rw [hrow]
      omega
    · unfold pixelOffset
      rw [hrow]
      omega

/-- Composition reads the payload of every surface on the damage, and its format. -/
theorem formats_of_composed
    (h : composeDamageRects framebuffer o store surfaces damage = .ok composed) :
    ∀ rect ∈ damage, ∀ surface ∈ surfaces, ∀ r, surfaceOnDamage surface rect = some r →
      ∀ handle, surface.pixelTransport = some handle →
        ∃ payload policy, store.lookup handle = some payload ∧
          PixelFormatPolicy.fromWireFormat payload.format = .ok policy := by
  intro rect hrect surface hsurface r hr handle hhandle
  obtain ⟨before, after, hpass⟩ := foldlM_ok_mem h rect hrect
  obtain ⟨filled, _, hpaint⟩ := bind_eq_ok.mp hpass
  obtain ⟨cells, painted, hsurfacePass⟩ :=
    foldlM_ok_mem hpaint surface (mem_canonicalizeSurfaces.mpr hsurface)
  unfold surfaceOnDamage at hr
  simp only [paintSurface, hr, copySurfaceRect, hhandle] at hsurfacePass
  obtain ⟨payload, hpayload, hrest⟩ := bind_eq_ok.mp hsurfacePass
  obtain ⟨policy, hpolicy, _⟩ := bind_eq_ok.mp hrest
  refine ⟨payload, policy, ?_, ?_⟩
  · cases hlookup : store.lookup handle with
    | none =>
      rw [hlookup] at hpayload
      cases hpayload
    | some found =>
      rw [hlookup] at hpayload
      cases hpayload
      rfl
  · cases hformat : PixelFormatPolicy.fromWireFormat payload.format with
    | error reason =>
      rw [hformat] at hpolicy
      cases hpolicy
    | ok found =>
      rw [hformat] at hpolicy
      cases hpolicy
      rfl

theorem opaque_format {format : Nat}
    (h : PixelFormatPolicy.fromWireFormat format = .ok .opaqueXrgb8888) :
    format = wlShmFormatXrgb8888 := by
  unfold PixelFormatPolicy.fromWireFormat at h
  split_ifs at h with hargb hxrgb
  · cases h
  · exact hxrgb

theorem damageReadable_of_composed (hrows : RowsValidated store surfaces damage)
    (h : composeDamageRects framebuffer o store surfaces damage = .ok composed) :
    ∀ rect ∈ damage, DamageReadable store (canonicalizeSurfaces surfaces) rect := by
  intro rect hrect surface hsurface r hr handle hhandle
  have hmem := mem_canonicalizeSurfaces.mp hsurface
  obtain ⟨payload, policy, hlookup, hpolicy⟩ :=
    formats_of_composed h rect hrect surface hmem r hr handle hhandle
  refine ⟨payload, policy, hlookup, hpolicy, fun hnoalpha => ?_⟩
  have hformat := opaque_format (hnoalpha ▸ hpolicy)
  exact readable_of_validated (surfaceOnDamage_spec hr) hhandle hlookup
    (hrows rect hrect surface hmem r hr handle payload hhandle hlookup hformat)

/-- The order of a list does not show in its canonical order, unless it holds different
surfaces under one key. -/
theorem canonicalizeSurfaces_perm {surfaces' : List SurfaceSnapshot}
    (hperm : surfaces'.Perm surfaces)
    (hkeys : ∀ a ∈ surfaces, ∀ b ∈ surfaces, surfaceKey a = surfaceKey b → a = b) :
    canonicalizeSurfaces surfaces' = canonicalizeSurfaces surfaces := by
  have hsorted := fun l : List SurfaceSnapshot =>
    List.pairwise_insertionSort (fun left right => surfaceKey left ≤ surfaceKey right) l
  refine List.Perm.eq_of_pairwise ?_ (hsorted surfaces') (hsorted surfaces) ?_
  · intro a b ha hb hab hba
    have ha' := hperm.mem_iff.mp (mem_canonicalizeSurfaces.mp ha)
    exact hkeys a ha' b (mem_canonicalizeSurfaces.mp hb) (le_antisymm hab hba)
  · exact (List.perm_insertionSort _ _).trans (hperm.trans (List.perm_insertionSort _ _).symm)

structure CompositionStats where
  damagedPixels : Nat
  copiedBytes : Nat
  deriving DecidableEq, Repr

/-- What `compose_damage_rects` reports of the damage it was given. -/
def compositionStats (damage : List RendererRect) : CompositionStats :=
  let damagedPixels :=
    damage.foldl (fun pixels rect => min (pixels + rect.width * rect.height) u64Max) 0
  { damagedPixels := damagedPixels, copiedBytes := min (damagedPixels * 4) u64Max }

theorem compositionStats_perm (hperm : damage'.Perm damage) :
    compositionStats damage' = compositionStats damage := by
  unfold compositionStats
  rw [hperm.foldl_eq' fun _ _ _ _ pixels => by omega]

section Reference

variable {o : OutputState} {store : DisplayPixelTransportStore}
  {surfaces : List SurfaceSnapshot} {damage : List RendererRect}
  (hdamage : ∀ rect ∈ damage, OnOutput o rect) (hrows : RowsValidated store surfaces damage)
  {framebuffer composed : List UInt32}
  (h : composeDamageRects framebuffer o store surfaces damage = .ok composed)

include hdamage hrows h

theorem composed_cell (hlen : framebuffer.length = o.framebufferWords)
    (hextent : ∀ surface ∈ surfaces, ExtentFits surface) {i : Nat} {a : UInt32}
    (ha : framebuffer[i]? = some a) :
    composed[i]? =
      if Covers damage (o.cellX i) (o.cellY i) then
        referencePixel store surfaces (o.cellX i) (o.cellY i)
      else some a := by
  have hacts := composeDamageRects_acts hdamage (damageReadable_of_composed hrows h)
  obtain ⟨b, hb, hcell⟩ := hacts.cell framebuffer composed hlen h i a ha
  rw [paintStack_reference hextent] at hb
  rw [hcell, hb]

/-- Rectangles composed in another order give the same buffer. -/
theorem composed_damage_perm (hlen : framebuffer.length = o.framebufferWords)
    (hperm : damage'.Perm damage) :
    composeDamageRects framebuffer o store surfaces damage' = .ok composed := by
  have hreads := damageReadable_of_composed hrows h
  have hacts := composeDamageRects_acts hdamage hreads
  have hdamage' : ∀ rect ∈ damage', OnOutput o rect :=
    fun rect hr => hdamage rect (hperm.mem_iff.mp hr)
  have hacts' := composeDamageRects_acts hdamage'
    fun rect hr => hreads rect (hperm.mem_iff.mp hr)
  have hcovers : ∀ x y, Covers damage' x y ↔ Covers damage x y := fun x y =>
    exists_congr fun rect => and_congr_left fun _ => hperm.mem_iff
  simp only [hcovers] at hacts'
  exact hacts.agree hacts' hlen h

/-- The rows of an opaque payload, copied or blended pixel by pixel. -/
theorem copied_rows_eq_blended {rect : RendererRect} (hrect : rect ∈ damage)
    (hsurface : surface ∈ surfaces) (hr : surfaceOnDamage surface rect = some r)
    (hhandle : surface.pixelTransport = some handle) (hlookup : store.lookup handle = some payload)
    (hformat : payload.format = wlShmFormatXrgb8888) {cells : List UInt32}
    (hcells : cells.length = o.framebufferWords) :
    ∃ copied, copySurfaceRect cells o store surface r (fallbackSurfacePixel surface) =
        .ok copied ∧
      blendSurfaceRect cells o store surface r (fallbackSurfacePixel surface) = .ok copied := by
  have hspec := surfaceOnDamage_spec hr
  have hon : OnOutput o r := ⟨hspec.nonempty, hspec.within.trans (hdamage rect hrect).within⟩
  have hreads := damageReadable_of_composed hrows h rect hrect surface
    (mem_canonicalizeSurfaces.mpr hsurface) r hr
  have hread := readable_of_validated hspec hhandle hlookup
    (hrows rect hrect surface hsurface r hr handle payload hhandle hlookup hformat)
  have hpolicy : PixelFormatPolicy.fromWireFormat payload.format = .ok .opaqueXrgb8888 := by
    rw [hformat]
    rfl
  have hcopy := copySurfaceRect_acts hon hreads
  have hblend := blendSurfaceRect_acts hon store surface
  have hdefined : ∀ i a, cells[i]? = some a → ∃ b,
      (if r.Mem (o.cellX i) (o.cellY i) then
        paintCell store surface (o.cellX i) (o.cellY i) a
      else some a) = some b := by
    intro i a _
    by_cases hm : r.Mem (o.cellX i) (o.cellY i)
    · rw [if_pos hm, paintCell_opaque hhandle hlookup hread hpolicy hm]
      exact ⟨_, rfl⟩
    · exact ⟨a, if_neg hm⟩
  obtain ⟨copied, hcopied⟩ := hcopy.total cells hcells hdefined
  exact ⟨copied, hcopied, hcopy.agree hblend hcells hcopied⟩

end Reference

/-- A composition that succeeds over surfaces whose extents are in range, with the XRGB ones
checked on the damage, is the reference in each damaged pixel and changes no other; the
order of rectangles and surfaces does not show, nor which path copied a row. -/
theorem composition_reference {o : OutputState} {store : DisplayPixelTransportStore}
    {surfaces : List SurfaceSnapshot} {damage : List RendererRect}
    {framebuffer composed : List UInt32} (hlen : framebuffer.length = o.framebufferWords)
    (hdamage : ∀ rect ∈ damage, OnOutput o rect)
    (hextent : ∀ surface ∈ surfaces, ExtentFits surface)
    (hrows : RowsValidated store surfaces damage)
    (h : composeDamageRects framebuffer o store surfaces damage = .ok composed) :
    composed.length = framebuffer.length ∧
      (∀ i a, framebuffer[i]? = some a → composed[i]? =
        if Covers damage (o.cellX i) (o.cellY i) then
          referencePixel store surfaces (o.cellX i) (o.cellY i)
        else some a) ∧
      (∀ damage' : List RendererRect, damage'.Perm damage →
        composeDamageRects framebuffer o store surfaces damage' = .ok composed ∧
          compositionStats damage' = compositionStats damage) ∧
      ((∀ a ∈ surfaces, ∀ b ∈ surfaces, surfaceKey a = surfaceKey b → a = b) →
        ∀ surfaces' : List SurfaceSnapshot, surfaces'.Perm surfaces →
          composeDamageRects framebuffer o store surfaces' damage = .ok composed) ∧
      (∀ rect ∈ damage, ∀ surface ∈ surfaces, ∀ r, surfaceOnDamage surface rect = some r →
        ∀ handle payload, surface.pixelTransport = some handle →
          store.lookup handle = some payload → payload.format = wlShmFormatXrgb8888 →
            ∀ cells : List UInt32, cells.length = o.framebufferWords →
              ∃ copied,
                copySurfaceRect cells o store surface r (fallbackSurfacePixel surface) =
                  .ok copied ∧
                blendSurfaceRect cells o store surface r (fallbackSurfacePixel surface) =
                  .ok copied) ∧
      ∀ avx2Available payload surface rect localX0 cells y,
        copyXrgbRowDetected avx2Available o payload surface rect localX0 cells y =
          copyXrgbRow o payload surface rect localX0 cells y := by
  have hacts := composeDamageRects_acts hdamage (damageReadable_of_composed hrows h)
  refine ⟨?_, ?_, ?_, ?_, ?_, ?_⟩
  · exact (hacts.length framebuffer composed hlen h).trans hlen.symm
  · exact fun i a ha => composed_cell hdamage hrows h hlen hextent ha
  · exact fun damage' hperm =>
      ⟨composed_damage_perm hdamage hrows h hlen hperm, compositionStats_perm hperm⟩
  · intro hkeys surfaces' hperm
    unfold composeDamageRects at h ⊢
    rw [canonicalizeSurfaces_perm hperm hkeys]
    exact h
  · intro rect hrect surface hsurface r hr handle payload hhandle hlookup hformat cells hcells
    exact copied_rows_eq_blended hdamage hrows h hrect hsurface hr hhandle hlookup hformat
      hcells
  · exact fun avx2Available payload surface rect localX0 cells y =>
      copyXrgbRowDetected_eq avx2Available o payload surface rect localX0 cells y

/-- An output of two pixels. -/
def stripOutput : OutputState where
  outputId := "strip"
  width := 2
  height := 1
  stride := 8
  format := wlShmFormatXrgb8888
  originX := 0
  originY := 0
  outputGeneration := 1
  valid := by constructor <;> decide

def stripHandle : PixelTransportHandle := ⟨1, "surface-1", 1, 1⟩

/-- A store of one XRGB payload whose rows of eight bytes hold `width` pixels. -/
def stripStore (width : Nat) : DisplayPixelTransportStore where
  inner := ⟨OrdMap.empty.insert stripHandle
    ⟨stripHandle, [1, 2, 3, 0, 4, 5, 6, 0], width, 1, 8, wlShmFormatXrgb8888⟩⟩

def stripSurface (width : Nat) (handle : Option PixelTransportHandle) : SurfaceSnapshot where
  id := "surface-1"
  placement := ⟨0, 0, width, 1, 0, true⟩
  pixelTransport := handle

theorem composition_reference_strip :
    composeDamageRects [7, 7] stripOutput (stripStore 2) [stripSurface 2 (some stripHandle)]
        [⟨1, 0, 2, 1⟩, ⟨0, 0, 2, 1⟩] = .ok [0xFF030201, 0xFF060504] ∧
      composeDamageRects [7, 7] stripOutput (stripStore 2) [stripSurface 2 (some stripHandle)]
        [⟨0, 0, 2, 1⟩, ⟨1, 0, 2, 1⟩] = .ok [0xFF030201, 0xFF060504] := by
  have h : composeDamageRects [7, 7] stripOutput (stripStore 2)
      [stripSurface 2 (some stripHandle)] [⟨1, 0, 2, 1⟩, ⟨0, 0, 2, 1⟩] =
        .ok [0xFF030201, 0xFF060504] := by decide +kernel
  have hdamage : ∀ rect ∈ [(⟨1, 0, 2, 1⟩ : RendererRect), ⟨0, 0, 2, 1⟩],
      OnOutput stripOutput rect := by
    have hone : ∀ rect ∈ [(⟨1, 0, 2, 1⟩ : RendererRect), ⟨0, 0, 2, 1⟩],
        (rect.x0 < rect.x1 ∧ rect.y0 < rect.y1) ∧
          stripOutput.area.x0 ≤ rect.x0 ∧ rect.x1 ≤ stripOutput.area.x1 ∧
            stripOutput.area.y0 ≤ rect.y0 ∧ rect.y1 ≤ stripOutput.area.y1 := by decide
    exact fun rect hr => ⟨(hone rect hr).1, (hone rect hr).2⟩
  have hextent : ∀ surface ∈ [stripSurface 2 (some stripHandle)], ExtentFits surface := by
    intro surface hs
    rw [List.mem_singleton.mp hs]
    exact ⟨rfl, rfl⟩
  have hvalidated : validateSurfacePixelsForDamage (stripStore 2)
      [stripSurface 2 (some stripHandle)] [⟨1, 0, 2, 1⟩, ⟨0, 0, 2, 1⟩] = .ok () := by
    decide +kernel
  have hperm : List.Perm [(⟨0, 0, 2, 1⟩ : RendererRect), ⟨1, 0, 2, 1⟩]
      [⟨1, 0, 2, 1⟩, ⟨0, 0, 2, 1⟩] := .swap _ _ _
  exact ⟨h, ((composition_reference rfl hdamage hextent (.of_validated hvalidated) h).2.2.1 _
    hperm).1⟩

/-- Compositions that succeed off the reference: a row copied past the width of its payload,
where the pixel path has the colour of a surface without pixels; a surface whose extent
overflows and is not drawn; two surfaces of one key, in either order. -/
theorem composition_leaves_reference :
    (composeDamageRects [7, 7] stripOutput (stripStore 1) [stripSurface 2 (some stripHandle)]
        [⟨0, 0, 2, 1⟩] = .ok [0xFF030201, 0xFF060504] ∧
      blendSurfaceRect [7, 7] stripOutput (stripStore 1) (stripSurface 2 (some stripHandle))
        ⟨0, 0, 2, 1⟩ (fallbackSurfacePixel (stripSurface 2 (some stripHandle))) =
          .ok [0xFF030201, 0xFFFF0000] ∧
      referencePixel (stripStore 1) [stripSurface 2 (some stripHandle)] 1 0 =
        some 0xFFFF0000) ∧
      (composeDamageRects [7, 7] stripOutput (stripStore 2) [stripSurface 4294967295 none]
        [⟨0, 0, 2, 1⟩] = .ok [0xFF000000, 0xFF000000] ∧
        referencePixel (stripStore 2) [stripSurface 4294967295 none] 0 0 =
          some 0xFFFF0000) ∧
      composeDamageRects [7, 7] stripOutput (stripStore 2)
        [stripSurface 2 none, stripSurface 2 (some stripHandle)] [⟨0, 0, 2, 1⟩] =
          .ok [0xFF030201, 0xFF060504] ∧
      composeDamageRects [7, 7] stripOutput (stripStore 2)
        [stripSurface 2 (some stripHandle), stripSurface 2 none] [⟨0, 0, 2, 1⟩] =
          .ok [0xFFFF0000, 0xFFFF0000] := by
  decide +kernel

end TuffXwin.Displayd
