import TuffXwin.Common.Ipc
import TuffXwin.Lib.Fold
import TuffXwin.Lib.OrdMap

/-! The pixel transport store shared by the services: payloads by handle, where
a surface's newer payload supersedes its older ones and a client's payloads are
replaced together. -/

namespace TuffXwin
open Lib

variable {payload : PixelTransportPayload}

inductive PixelTransportError
  | staleGeneration (current incoming : PixelTransportHandle)
  | invalidPayload (reason : String)
  deriving DecidableEq, Repr

def expectedPayloadLen (payload : PixelTransportPayload) : Except PixelTransportError Nat :=
  if payload.width = 0 ∨ payload.height = 0 then
    .error (.invalidPayload "payload dimensions must be non-zero")
  else if payload.width * 4 > u32Max then
    .error (.invalidPayload "payload stride calculation overflow")
  else if payload.stride < payload.width * 4 then
    .error (.invalidPayload "payload stride is smaller than 32-bit pixel width")
  else if payload.stride * payload.height > u64Max then
    .error (.invalidPayload "payload byte length overflow")
  else .ok (payload.stride * payload.height)

def validatePayload (payload : PixelTransportPayload) : Except PixelTransportError Unit :=
  (expectedPayloadLen payload).bind fun required =>
    if payload.pixels.length ≠ required then
      .error (.invalidPayload "payload byte length must equal stride * height")
    else .ok ()

/-- What both `validate_payload` and scene admission require of one payload. -/
structure PixelTransportPayload.WellFormed (p : PixelTransportPayload) : Prop where
  width_pos : 0 < p.width
  height_pos : 0 < p.height
  width_le : p.width * 4 ≤ u32Max
  stride : p.width * 4 ≤ p.stride
  bytes_le : p.stride * p.height ≤ u64Max
  length : p.pixels.length = p.stride * p.height

def generationKey (h : PixelTransportHandle) : Nat ×ₗ Nat :=
  toLex (h.sceneGeneration, h.bufferGeneration)

def isNewerHandle (left right : PixelTransportHandle) : Bool :=
  generationKey right < generationKey left

structure PixelTransportStore where
  payloads : OrdMap PixelTransportHandle PixelTransportPayload := OrdMap.empty

variable {store store' : PixelTransportStore}

namespace PixelTransportStore

instance : Inhabited PixelTransportStore := ⟨{}⟩

def lookup (store : PixelTransportStore) (handle : PixelTransportHandle) :
    Option PixelTransportPayload :=
  store.payloads.get? handle

def latestHandleForSurface (store : PixelTransportStore) (clientId : Nat)
    (surfaceId : String) : Option PixelTransportHandle :=
  maxByKey generationKey
    (store.payloads.keys.filter fun h => h.clientId = clientId ∧ h.surfaceId = surfaceId)

def submit (store : PixelTransportStore) (payload : PixelTransportPayload) :
    Except PixelTransportError PixelTransportStore :=
  (validatePayload payload).bind fun _ =>
    let handle := payload.handle
    let retained := store.payloads.filter fun existing _ =>
      !(existing.clientId = handle.clientId ∧ existing.surfaceId = handle.surfaceId ∧
        !isNewerHandle existing handle)
    match store.latestHandleForSurface handle.clientId handle.surfaceId with
    | some current =>
      if isNewerHandle current handle then .error (.staleGeneration current handle)
      else .ok ⟨retained.insert handle payload⟩
    | none => .ok ⟨retained.insert handle payload⟩

def invalidateClient (store : PixelTransportStore) (clientId : Nat) : PixelTransportStore :=
  ⟨store.payloads.filter fun h _ => h.clientId ≠ clientId⟩

/-- The checks of `replace_client`; the accumulator holds the surfaces seen. -/
def checkReplacement (clientId : Nat) (surfaceIds : List String)
    (payload : PixelTransportPayload) : Except PixelTransportError (List String) :=
  (validatePayload payload).bind fun _ =>
    if payload.handle.clientId ≠ clientId then
      .error (.invalidPayload "replacement payload client identity mismatch")
    else if payload.handle.surfaceId ∈ surfaceIds then
      .error (.invalidPayload
        ("duplicate replacement payload for surface " ++ payload.handle.surfaceId))
    else .ok (payload.handle.surfaceId :: surfaceIds)

def insertAll (store : PixelTransportStore) (payloads : List PixelTransportPayload) :
    PixelTransportStore :=
  ⟨payloads.foldl (fun m p => m.insert p.handle p) store.payloads⟩

def replaceClient (store : PixelTransportStore) (clientId : Nat)
    (payloads : List PixelTransportPayload) :
    Except PixelTransportError PixelTransportStore :=
  (payloads.foldlM (checkReplacement clientId) []).bind fun _ =>
    .ok ((store.invalidateClient clientId).insertAll payloads)

def len (store : PixelTransportStore) : Nat := store.payloads.size

def lenForClient (store : PixelTransportStore) (clientId : Nat) : Nat :=
  (store.payloads.keys.filter fun h => h.clientId = clientId).length

def totalBytes (store : PixelTransportStore) : Nat :=
  store.payloads.values.foldl (fun total p => satAdd total p.pixels.length) 0

def bytesForClient (store : PixelTransportStore) (clientId : Nat) : Nat :=
  (store.payloads.filter fun h _ => h.clientId = clientId).values.foldl
    (fun total p => satAdd total p.pixels.length) 0

theorem submit_eq (h : store.submit payload = .ok store') :
    store' = ⟨(store.payloads.filter fun existing _ =>
      !(existing.clientId = payload.handle.clientId ∧
        existing.surfaceId = payload.handle.surfaceId ∧
        !isNewerHandle existing payload.handle)).insert payload.handle payload⟩ := by
  simp only [submit] at h
  cases hv : validatePayload payload with
  | error e => simp [hv, Except.bind] at h
  | ok u =>
    simp only [hv, Except.bind] at h
    split at h
    · split_ifs at h
      exact (Except.ok.inj h).symm
    · exact (Except.ok.inj h).symm

theorem lookup_submit_source (h : store.submit payload = .ok store') {handle : PixelTransportHandle}
    {p : PixelTransportPayload} (hp : store'.lookup handle = some p) :
    (handle = payload.handle ∧ p = payload) ∨ store.lookup handle = some p := by
  rw [submit_eq h, lookup, OrdMap.get?_insert] at hp
  split_ifs at hp with heq
  · exact .inl ⟨heq, (Option.some.inj hp).symm⟩
  · exact .inr (OrdMap.get?_filter_eq_some.mp hp).1

/-- Submitting a payload of a surface the store has nothing of only adds it. -/
theorem lookup_submit_fresh (h : store.submit payload = .ok store')
    (hfresh : ∀ handle p, store.lookup handle = some p →
      ¬ (handle.clientId = payload.handle.clientId ∧
        handle.surfaceId = payload.handle.surfaceId)) (handle : PixelTransportHandle) :
    store'.lookup handle = if handle = payload.handle then some payload
      else store.lookup handle := by
  rw [submit_eq h]
  simp only [lookup, OrdMap.get?_insert, OrdMap.get?_filter]
  split_ifs with heq
  · rfl
  · cases hget : store.payloads.get? handle with
    | none => rfl
    | some p =>
      have hne := hfresh handle p hget
      simp only [Option.filter, Bool.not_eq_true', decide_eq_false_iff_not, ite_eq_left_iff]
      intro hdrop
      exact absurd (fun hall => hne ⟨hall.1, hall.2.1⟩) hdrop

end PixelTransportStore

end TuffXwin
