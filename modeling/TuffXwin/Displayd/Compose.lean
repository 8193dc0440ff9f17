import TuffXwin.Displayd.PixelStore
import TuffXwin.Lib.Pointwise
import Mathlib.Data.List.Infix

/-! The CPU compositor. Damage rectangles are filled with the background and
then painted with the surfaces that meet them, bottom to top; opaque sources are
copied by rows, the others blended pixel by pixel. -/

namespace TuffXwin.Displayd
open Lib

def backgroundPixel : UInt32 := 0xFF000000

/-- Rows shorter than this are not worth a vector copy. -/
def simdXrgbMinPixels : Nat := 64

inductive PixelFormatPolicy
  | premultipliedArgb8888
  | opaqueXrgb8888
  deriving DecidableEq, Repr

def PixelFormatPolicy.fromWireFormat (format : Nat) : Except String PixelFormatPolicy :=
  if format = wlShmFormatArgb8888 then .ok .premultipliedArgb8888
  else if format = wlShmFormatXrgb8888 then .ok .opaqueXrgb8888
  else .error ("unsupported pixel format " ++ toString format)

inductive SourcePixel
  | opaquePixel (pixel : UInt32)
  | premultiplied (a r g b : UInt8)
  deriving DecidableEq, Repr

/-- `as usize` of a signed value on a 64-bit target. -/
def asUsize (v : Int) : Nat := if v < 0 then (v + 18446744073709551616).toNat else v.toNat

def checked {α : Type} (reason : String) : Option α → Except Fault α
  | none => .error (.error reason)
  | some a => .ok a

def returned {α : Type} (result : Except String α) : Except Fault α := result.mapError .error

def surfaceKey (s : SurfaceSnapshot) : Nat ×ₗ Int ×ₗ Nat ×ₗ String :=
  toLex (s.layerClass, toLex (s.placement.z, toLex (s.creationSequence, s.id)))

def canonicalizeSurfaces (surfaces : List SurfaceSnapshot) : List SurfaceSnapshot :=
  surfaces.insertionSort fun left right => surfaceKey left ≤ surfaceKey right

def fallbackSurfacePixel (surface : SurfaceSnapshot) : UInt32 :=
  if "panel".toList <:+: surface.id.toList then 0xFF0000FF else 0xFFFF0000

def framebufferOffsetForOutput (output : OutputState) (x y : Int) : Except Fault Nat :=
  checked "x translation overflow" (i32Checked (x - output.originX)) >>= fun localX =>
  checked "y translation overflow" (i32Checked (y - output.originY)) >>= fun localY =>
  if localX < 0 ∨ localY < 0 ∨ localX.toNat ≥ output.width ∨ localY.toNat ≥ output.height then
    .error (.error "framebuffer coordinate out of bounds")
  else
    checked "framebuffer offset overflow"
      ((usizeChecked (localY.toNat * (output.stride / 4))).bind fun offset =>
        usizeChecked (offset + localX.toNat))

/-- The integers from `start`, `count` of them. -/
def intRange (start : Int) : Nat → List Int
  | 0 => []
  | count + 1 => start :: intRange (start + 1) count

def RendererRect.rows (r : RendererRect) : List Int := intRange r.y0 r.height

def RendererRect.columns (r : RendererRect) : List Int := intRange r.x0 r.width

def fillRow (output : OutputState) (rect : RendererRect) (pixel : UInt32)
    (framebuffer : List UInt32) (y : Int) : Except Fault (List UInt32) :=
  framebufferOffsetForOutput output rect.x0 y >>= fun start =>
  checked "framebuffer fill extent overflow" (usizeChecked (start + rect.width)) >>= fun _ =>
  checked "framebuffer fill out of bounds"
    (writeSlice framebuffer start (List.replicate rect.width pixel))

def fillFramebufferRect (framebuffer : List UInt32) (output : OutputState)
    (rect : RendererRect) (pixel : UInt32) : Except Fault (List UInt32) :=
  rect.rows.foldlM (fillRow output rect pixel) framebuffer

def wordFromLeBytes (b0 b1 b2 b3 : UInt8) : UInt32 :=
  b0.toUInt32 ||| (b1.toUInt32 <<< 8) ||| (b2.toUInt32 <<< 16) ||| (b3.toUInt32 <<< 24)

def opaqueWord (word : UInt32) : UInt32 := 0xFF000000 ||| (word &&& 0x00FFFFFF)

/-- `chunks_exact(4)` of a row, each chunk made an opaque word. -/
def xrgbRow : List UInt8 → List UInt32
  | b0 :: b1 :: b2 :: b3 :: rest => opaqueWord (wordFromLeBytes b0 b1 b2 b3) :: xrgbRow rest
  | _ => []

def sliceOf {α : Type} (l : List α) (start stop : Nat) : Option (List α) :=
  if start ≤ stop ∧ stop ≤ l.length then some ((l.drop start).take (stop - start)) else none

/-- One row of an opaque source: `copy_xrgb_row` into the checked destination row. -/
def copyXrgbRow (output : OutputState) (payload : PixelTransportPayload)
    (surface : SurfaceSnapshot) (rect : RendererRect) (localX0 : Nat)
    (framebuffer : List UInt32) (y : Int) : Except Fault (List UInt32) :=
  checked "source y offset overflow" (i32Checked (y - surface.placement.y)) >>= fun localY =>
  checked "source row range overflow"
    ((usizeChecked (asUsize localY * payload.stride)).bind fun row =>
      usizeChecked (row + min (localX0 * 4) u64Max)) >>= fun srcStart =>
  checked "source row end overflow" (usizeChecked (srcStart + rect.width * 4)) >>= fun srcEnd =>
  checked ("pixel payload is too short for surface " ++ surface.id)
    (sliceOf payload.pixels srcStart srcEnd) >>= fun src =>
  framebufferOffsetForOutput output rect.x0 y >>= fun dstStart =>
  checked "framebuffer row end overflow" (usizeChecked (dstStart + rect.width)) >>= fun _ =>
  checked "framebuffer row out of bounds" (writeSlice framebuffer dstStart (xrgbRow src))

def sourcePixelOffset (payload : PixelTransportPayload) (surface : SurfaceSnapshot)
    (x y : Int) : Except String Nat :=
  match i32Checked (x - surface.placement.x), i32Checked (y - surface.placement.y) with
  | none, _ => .error "source x offset overflow"
  | some _, none => .error "source y offset overflow"
  | some localX, some localY =>
    if localX < 0 ∨ localY < 0 then
      .error ("source coordinate outside surface " ++ surface.id)
    else if localX.toNat ≥ payload.width ∨ localY.toNat ≥ payload.height then
      .error ("source coordinate outside payload " ++ surface.id)
    else if localY.toNat * payload.stride > u64Max then .error "source row offset overflow"
    else if localX.toNat * 4 > u64Max then .error "source column offset overflow"
    else if localY.toNat * payload.stride + localX.toNat * 4 > u64Max then
      .error "source pixel offset overflow"
    else if localY.toNat * payload.stride + localX.toNat * 4 + 4 > u64Max then
      .error "source pixel end overflow"
    else if localY.toNat * payload.stride + localX.toNat * 4 + 4 > payload.pixels.length then
      .error ("pixel payload is too short for surface " ++ surface.id)
    else .ok (localY.toNat * payload.stride + localX.toNat * 4)

def wordAt (pixels : List UInt8) (offset : Nat) : Option UInt32 :=
  match (pixels.drop offset).take 4 with
  | [b0, b1, b2, b3] => some (wordFromLeBytes b0 b1 b2 b3)
  | _ => none

def decodeSourcePixel (word : UInt32) : PixelFormatPolicy → Except String SourcePixel
  | .opaqueXrgb8888 => .ok (.opaquePixel (opaqueWord word))
  | .premultipliedArgb8888 =>
    let a := ((word >>> 24) &&& 0xFF).toUInt8
    let r := ((word >>> 16) &&& 0xFF).toUInt8
    let g := ((word >>> 8) &&& 0xFF).toUInt8
    let b := (word &&& 0xFF).toUInt8
    if r > a ∨ g > a ∨ b > a then
      .error ("non-premultiplied ARGB8888 pixel r=" ++ toString r.toNat ++ " g=" ++
        toString g.toNat ++ " b=" ++ toString b.toNat ++ " a=" ++ toString a.toNat)
    else .ok (.premultiplied a r g b)

/-- `none` where the surface has no payload or the pixel lies beyond it. -/
def pixelForSurface (store : DisplayPixelTransportStore) (surface : SurfaceSnapshot)
    (x y : Int) : Except String (Option SourcePixel) :=
  match surface.pixelTransport with
  | none => .ok none
  | some handle =>
    match store.lookup handle with
    | none => .error (missingPayloadReason handle)
    | some payload =>
      if (wrapI32 (x - surface.placement.x)).toNat ≥ payload.width ∨
          (wrapI32 (y - surface.placement.y)).toNat ≥ payload.height then .ok none
      else
        sourcePixelOffset payload surface x y >>= fun offset =>
        match wordAt payload.pixels offset with
        | none => .error ("pixel payload is too short for surface " ++ surface.id)
        | some word =>
          PixelFormatPolicy.fromWireFormat payload.format >>= fun policy =>
          (decodeSourcePixel word policy).map some

def div255Rounded (value : UInt32) : UInt32 := (value + 127) / 255

def composeSourceOver (src : SourcePixel) (dst : UInt32) : UInt32 :=
  match src with
  | .opaquePixel pixel => opaqueWord pixel
  | .premultiplied a r g b =>
    if a = 0 then dst
    else if a = 255 then
      (0xFF000000 : UInt32) ||| (r.toUInt32 <<< 16) ||| (g.toUInt32 <<< 8) ||| b.toUInt32
    else
      let inv := 255 - a.toUInt32
      let outR := r.toUInt32 + div255Rounded (((dst >>> 16) &&& 0xFF) * inv)
      let outG := g.toUInt32 + div255Rounded (((dst >>> 8) &&& 0xFF) * inv)
      let outB := b.toUInt32 + div255Rounded ((dst &&& 0xFF) * inv)
      (0xFF000000 : UInt32) ||| (min outR 255 <<< 16) ||| (min outG 255 <<< 8) ||| min outB 255

def blendPixel (output : OutputState) (store : DisplayPixelTransportStore)
    (surface : SurfaceSnapshot) (fallbackPixel : UInt32) (rowStart : Nat) (y : Int)
    (framebuffer : List UInt32) (x : Int) : Except Fault (List UInt32) :=
  checked "framebuffer offset overflow"
    (usizeChecked (rowStart + asUsize (x - output.originX))) >>= fun index =>
  returned (pixelForSurface store surface x y) >>= fun src =>
  match framebuffer[index]? with
  | none => .error (.panic "index out of bounds")
  | some dst =>
    .ok (framebuffer.set index
      (composeSourceOver (src.getD (.opaquePixel fallbackPixel)) dst))

def blendRow (output : OutputState) (store : DisplayPixelTransportStore)
    (surface : SurfaceSnapshot) (rect : RendererRect) (fallbackPixel : UInt32)
    (framebuffer : List UInt32) (y : Int) : Except Fault (List UInt32) :=
  framebufferOffsetForOutput output output.originX y >>= fun rowStart =>
  rect.columns.foldlM (blendPixel output store surface fallbackPixel rowStart y) framebuffer

def blendSurfaceRect (framebuffer : List UInt32) (output : OutputState)
    (store : DisplayPixelTransportStore) (surface : SurfaceSnapshot) (rect : RendererRect)
    (fallbackPixel : UInt32) : Except Fault (List UInt32) :=
  rect.rows.foldlM (blendRow output store surface rect fallbackPixel) framebuffer

def copySurfaceRect (framebuffer : List UInt32) (output : OutputState)
    (store : DisplayPixelTransportStore) (surface : SurfaceSnapshot) (rect : RendererRect)
    (fallbackPixel : UInt32) : Except Fault (List UInt32) :=
  match surface.pixelTransport with
  | none => blendSurfaceRect framebuffer output store surface rect fallbackPixel
  | some handle =>
    checked (missingPayloadReason handle) (store.lookup handle) >>= fun payload =>
    returned (PixelFormatPolicy.fromWireFormat payload.format) >>= fun policy =>
    if policy = .opaqueXrgb8888 then
      checked "source x offset overflow" (i32Checked (rect.x0 - surface.placement.x)) >>=
        fun localX0 =>
      rect.rows.foldlM (copyXrgbRow output payload surface rect (asUsize localX0)) framebuffer
    else blendSurfaceRect framebuffer output store surface rect fallbackPixel

def paintSurface (output : OutputState) (store : DisplayPixelTransportStore)
    (damage : RendererRect) (framebuffer : List UInt32) (surface : SurfaceSnapshot) :
    Except Fault (List UInt32) :=
  match (surfaceOutputBounds surface).bind fun bounds => bounds.intersect damage with
  | none => .ok framebuffer
  | some copyRect =>
    copySurfaceRect framebuffer output store surface copyRect (fallbackSurfacePixel surface)

def composeDamageRect (output : OutputState) (store : DisplayPixelTransportStore)
    (ordered : List SurfaceSnapshot) (framebuffer : List UInt32) (damage : RendererRect) :
    Except Fault (List UInt32) :=
  fillFramebufferRect framebuffer output damage backgroundPixel >>= fun framebuffer =>
  ordered.foldlM (paintSurface output store damage) framebuffer

def composeDamageRects (framebuffer : List UInt32) (output : OutputState)
    (store : DisplayPixelTransportStore) (surfaces : List SurfaceSnapshot)
    (damageRects : List RendererRect) : Except Fault (List UInt32) :=
  damageRects.foldlM (composeDamageRect output store (canonicalizeSurfaces surfaces))
    framebuffer

def validateSurfacePixelRect (store : DisplayPixelTransportStore) (surface : SurfaceSnapshot)
    (rect : RendererRect) : Except String Unit :=
  match surface.pixelTransport with
  | none => .ok ()
  | some handle =>
    match store.lookup handle with
    | none => .error (missingPayloadReason handle)
    | some payload =>
      PixelFormatPolicy.fromWireFormat payload.format >>= fun _ =>
      if payload.width = 0 ∨ payload.height = 0 then
        .error ("invalid zero-sized pixel payload for surface " ++ surface.id)
      else if payload.stride < min (payload.width * 4) u32Max then
        .error ("invalid stride " ++ toString payload.stride ++ " for surface " ++ surface.id)
      else
        match i32Checked (rect.x0 - surface.placement.x),
          i32Checked (rect.y0 - surface.placement.y),
          i32Checked (rect.x1 - surface.placement.x),
          i32Checked (rect.y1 - surface.placement.y) with
        | none, _, _, _ => .error "source x offset overflow"
        | some _, none, _, _ => .error "source y offset overflow"
        | some _, some _, none, _ => .error "source x extent overflow"
        | some _, some _, some _, none => .error "source y extent overflow"
        | some localX0, some localY0, some localX1, some localY1 =>
          if localX0 < 0 ∨ localY0 < 0 ∨ localX1 ≤ localX0 ∨ localY1 ≤ localY0 ∨
              localX1.toNat > payload.width ∨ localY1.toNat > payload.height then
            .error ("pixel payload bounds mismatch for surface " ++ surface.id)
          else if (localY1.toNat - 1) * payload.stride > u64Max then
            .error "source row offset overflow"
          else if localX1.toNat * 4 > u64Max then .error "source column offset overflow"
          else if (localY1.toNat - 1) * payload.stride + localX1.toNat * 4 > u64Max then
            .error "source payload extent overflow"
          else if (localY1.toNat - 1) * payload.stride + localX1.toNat * 4 >
              payload.pixels.length then
            .error ("pixel payload is too short for surface " ++ surface.id)
          else .ok ()

def validateSurfaceForDamage (store : DisplayPixelTransportStore) (damage : RendererRect)
    (surface : SurfaceSnapshot) : Except String Unit :=
  match (surfaceOutputBounds surface).bind fun bounds => bounds.intersect damage with
  | none => .ok ()
  | some copyRect => validateSurfacePixelRect store surface copyRect

def validateSurfacePixelsForDamage (store : DisplayPixelTransportStore)
    (surfaces : List SurfaceSnapshot) (damageRects : List RendererRect) : Except String Unit :=
  checkAll (fun damage => checkAll (validateSurfaceForDamage store damage) surfaces) damageRects

def verifyPixelPayloadsAvailable (store : DisplayPixelTransportStore)
    (surfaces : List SurfaceSnapshot) : Except String Unit :=
  checkAll (fun surface =>
    match surface.pixelTransport with
    | none => .ok ()
    | some handle =>
      match store.lookup handle with
      | none => .error (missingPayloadReason handle)
      | some _ => .ok ()) surfaces

end TuffXwin.Displayd
