import TuffXwin.Common.PixelTransport
import TuffXwin.Lib.Outcome
import TuffXwin.Lib.Reach
import TuffXwin.Lib.Sums

/-! Runs of a pixel transport store. The calls change the store in place, in the order of the
source; whatever their sequence, a surface has one payload, clients do not touch each other's,
and the bytes of the clients add up. -/

namespace TuffXwin
open Lib

variable {handle : PixelTransportHandle}
variable {p : PixelTransportPayload}

namespace PixelTransportStore

/-! The calls. -/

abbrev Storing := EStateM PixelTransportError PixelTransportStore

def orReturn : Except PixelTransportError Unit → Storing Unit
  | .ok _ => pure ()
  | .error error => throw error

def retain (keep : PixelTransportHandle → Bool) : Storing Unit :=
  modify fun store => ⟨store.payloads.filter fun handle _ => keep handle⟩

def put (payload : PixelTransportPayload) : Storing Unit :=
  modify fun store => ⟨store.payloads.insert payload.handle payload⟩

def refuseStale (handle : PixelTransportHandle) : Option PixelTransportHandle → Storing Unit
  | some current =>
    if isNewerHandle current handle then throw (.staleGeneration current handle) else pure ()
  | none => pure ()

def submitting (payload : PixelTransportPayload) : Storing Unit := do
  orReturn (validatePayload payload)
  let store ← get
  refuseStale payload.handle
    (store.latestHandleForSurface payload.handle.clientId payload.handle.surfaceId)
  retain fun existing =>
    !(existing.clientId = payload.handle.clientId ∧
      existing.surfaceId = payload.handle.surfaceId ∧ !isNewerHandle existing payload.handle)
  put payload

def invalidating (clientId : Nat) : Storing Unit :=
  retain fun handle => handle.clientId ≠ clientId

def replacing (clientId : Nat) (payloads : List PixelTransportPayload) : Storing Unit := do
  orReturn ((payloads.foldlM (checkReplacement clientId) []).map fun _ => ())
  invalidating clientId
  payloads.forM put

inductive Call
  | submit (payload : PixelTransportPayload)
  | replaceClient (clientId : Nat) (payloads : List PixelTransportPayload)
  | invalidateClient (clientId : Nat)

namespace Call

def perform : Call → Storing Unit
  | .submit payload => submitting payload
  | .replaceClient clientId payloads => replacing clientId payloads
  | .invalidateClient clientId => invalidating clientId

/-- The client a call is for. -/
def client : Call → Nat
  | .submit payload => payload.handle.clientId
  | .replaceClient clientId _ => clientId
  | .invalidateClient clientId => clientId

/-- The store after a call, which may have failed. -/
def after (call : Call) (store : PixelTransportStore) : PixelTransportStore :=
  match call.perform store with
  | .ok _ store => store
  | .error _ store => store

end Call

def calls : System PixelTransportStore Call where
  init := fun store => store = {}
  next := fun store call => call.after store

/-! What a call does. -/

section Calls

variable {store store' : PixelTransportStore} {payload : PixelTransportPayload} {clientId : Nat}
  {payloads : List PixelTransportPayload}

/-- The store changes after the checks, all at once. -/
theorem submitting_run : submitting payload store =
    match store.submit payload with
    | .ok store' => .ok () store'
    | .error error => .error error store := by
  unfold submitting submit
  cases validatePayload payload with
  | error error => rfl
  | ok u =>
    rw [bind_of_ok (show orReturn (.ok u) store = .ok () store from rfl), bind_get]
    dsimp only [Except.bind]
    cases store.latestHandleForSurface payload.handle.clientId payload.handle.surfaceId with
    | none => rfl
    | some current =>
      dsimp only
      split_ifs with hnewer
      · have hstale : refuseStale payload.handle (some current) store =
            .error (.staleGeneration current payload.handle) store := congrFun (if_pos hnewer) store
        rw [bind_of_error hstale]
      · have hfresh : refuseStale payload.handle (some current) store = .ok () store :=
          congrFun (if_neg hnewer) store
        rw [bind_of_ok hfresh]
        rfl

theorem forM_put (payloads : List PixelTransportPayload) (store : PixelTransportStore) :
    payloads.forM put store = .ok () (store.insertAll payloads) := by
  induction payloads generalizing store with
  | nil => rfl
  | cons payload payloads ih => exact ih _

theorem replacing_run : replacing clientId payloads store =
    match store.replaceClient clientId payloads with
    | .ok store' => .ok () store'
    | .error error => .error error store := by
  unfold replacing replaceClient
  cases payloads.foldlM (checkReplacement clientId) [] with
  | error error => rfl
  | ok surfaceIds => exact forM_put payloads (store.invalidateClient clientId)

/-- A refused call leaves the store as it was. -/
theorem refused_unchanged {call : Call} {error : PixelTransportError}
    (h : call.perform store = .error error store') : store' = store := by
  cases call with
  | submit payload =>
    rw [Call.perform, submitting_run] at h
    split at h
    · cases h
    · cases h
      rfl
  | replaceClient clientId payloads =>
    rw [Call.perform, replacing_run] at h
    split at h
    · cases h
    · cases h
      rfl
  | invalidateClient clientId => cases h

theorem submit_valid (h : store.submit payload = .ok store') :
    validatePayload payload = .ok () := by
  obtain ⟨u, hvalid, -⟩ := bind_eq_ok.mp h
  exact hvalid

/-- Nothing the store has of the surface is newer than what was accepted for it. -/
theorem submit_latest (h : store.submit payload = .ok store') {held : PixelTransportHandle}
    (hheld : store.payloads.contains held = true)
    (hclient : held.clientId = payload.handle.clientId)
    (hsurface : held.surfaceId = payload.handle.surfaceId) :
    generationKey held ≤ generationKey payload.handle := by
  obtain ⟨u, -, hrest⟩ := bind_eq_ok.mp h
  obtain ⟨p, hp⟩ := OrdMap.contains_iff.mp hheld
  have hmem : held ∈ store.payloads.keys.filter fun h =>
      h.clientId = payload.handle.clientId ∧ h.surfaceId = payload.handle.surfaceId := by
    rw [List.mem_filter]
    exact ⟨OrdMap.mem_keys.mpr ⟨p, hp⟩, decide_eq_true ⟨hclient, hsurface⟩⟩
  dsimp only at hrest
  cases hlatest : store.latestHandleForSurface payload.handle.clientId payload.handle.surfaceId with
  | none =>
    rw [latestHandleForSurface, maxByKey_eq_none] at hlatest
    rw [hlatest] at hmem
    cases hmem
  | some current =>
    rw [hlatest] at hrest
    dsimp only at hrest
    split_ifs at hrest with hnewer
    have hle : generationKey current ≤ generationKey payload.handle := by
      unfold isNewerHandle at hnewer
      rw [decide_eq_true_eq, not_lt] at hnewer
      exact hnewer
    exact ((maxByKey_mem hlatest).2 held hmem).trans hle

/-- After an accepted payload its handle is the only one of its surface. -/
theorem contains_submit (h : store.submit payload = .ok store') :
    store'.payloads.contains handle = true ↔ handle = payload.handle ∨
      store.payloads.contains handle = true ∧
        ¬ (handle.clientId = payload.handle.clientId ∧
          handle.surfaceId = payload.handle.surfaceId) := by
  have hstore := submit_eq h
  subst hstore
  rw [OrdMap.contains_insert, OrdMap.contains_filter_key
    (p := fun existing : PixelTransportHandle => !decide (existing.clientId =
      payload.handle.clientId ∧ existing.surfaceId = payload.handle.surfaceId ∧
        (!isNewerHandle existing payload.handle) = true))]
  refine or_congr_right ?_
  constructor
  · rintro ⟨hkeep, hold⟩
    refine ⟨hold, fun hsame => ?_⟩
    have hle := submit_latest h hold hsame.1 hsame.2
    have hnot : isNewerHandle handle payload.handle = false := decide_eq_false (not_lt.mpr hle)
    simp [hsame.1, hsame.2, hnot] at hkeep
  · rintro ⟨hold, hother⟩
    refine ⟨?_, hold⟩
    rw [Bool.not_eq_true', decide_eq_false_iff_not]
    exact fun hall => hother ⟨hall.1, hall.2.1⟩

/-- What the checks of a replacement have seen. -/
structure Checked (clientId : Nat) (done : List PixelTransportPayload)
    (surfaceIds : List String) : Prop where
  valid : ∀ p ∈ done, validatePayload p = .ok () ∧ p.handle.clientId = clientId
  seen : ∀ p ∈ done, p.handle.surfaceId ∈ surfaceIds
  sole : (done.map fun p => p.handle.surfaceId).Nodup

theorem Checked.step {done : List PixelTransportPayload} {surfaceIds surfaceIds' : List String}
    (h : Checked clientId done surfaceIds)
    (hcheck : checkReplacement clientId surfaceIds payload = .ok surfaceIds') :
    Checked clientId (done ++ [payload]) surfaceIds' := by
  obtain ⟨u, hvalid, hrest⟩ := bind_eq_ok.mp hcheck
  split_ifs at hrest with howner hseen
  obtain rfl := Except.ok.inj hrest
  refine ⟨fun p hp => ?_, fun p hp => ?_, ?_⟩
  · cases List.mem_append.mp hp with
    | inl hold => exact h.valid p hold
    | inr hnew =>
      obtain rfl := List.mem_singleton.mp hnew
      exact ⟨hvalid, not_not.mp howner⟩
  · cases List.mem_append.mp hp with
    | inl hold => exact List.mem_cons_of_mem _ (h.seen p hold)
    | inr hnew =>
      obtain rfl := List.mem_singleton.mp hnew
      exact List.mem_cons_self
  · rw [List.map_append, List.nodup_append]
    refine ⟨h.sole, List.nodup_singleton _, fun a ha b hb heq => ?_⟩
    obtain ⟨p, hp, rfl⟩ := List.mem_map.mp ha
    rw [List.map_singleton, List.mem_singleton] at hb
    have hsame : p.handle.surfaceId = payload.handle.surfaceId := heq.trans hb
    exact hseen (hsame ▸ h.seen p hp)

theorem replaceClient_checked (h : store.replaceClient clientId payloads = .ok store') :
    (∃ surfaceIds, Checked clientId payloads surfaceIds) ∧
      store' = (store.invalidateClient clientId).insertAll payloads := by
  obtain ⟨surfaceIds, hcheck, hrest⟩ := bind_eq_ok.mp h
  refine ⟨⟨surfaceIds, ?_⟩, (Except.ok.inj hrest).symm⟩
  exact foldlM_prefix (Checked clientId) (fun _ _ _ _ hdone hstep => hdone.step hstep)
    ⟨by simp, by simp, List.nodup_nil⟩ hcheck

/-! The store in every run. -/

/-- Payloads under their own handles, all of them valid, one for a surface of a client. -/
structure Sound (store : PixelTransportStore) : Prop where
  keyed : ∀ handle payload, store.lookup handle = some payload → payload.handle = handle
  valid : ∀ handle payload, store.lookup handle = some payload →
    validatePayload payload = .ok ()
  sole : ∀ left right, store.payloads.contains left = true →
    store.payloads.contains right = true → left.clientId = right.clientId →
      left.surfaceId = right.surfaceId → left = right

theorem Sound.submit (hstore : store.Sound) (h : store.submit payload = .ok store') :
    store'.Sound := by
  refine ⟨fun handle p hp => ?_, fun handle p hp => ?_,
    fun left right hl hr hclient hsurface => ?_⟩
  · rcases lookup_submit_source h hp with ⟨rfl, rfl⟩ | hold
    · rfl
    · exact hstore.keyed handle p hold
  · rcases lookup_submit_source h hp with ⟨-, rfl⟩ | hold
    · exact submit_valid h
    · exact hstore.valid handle p hold
  · rcases (contains_submit h).mp hl with rfl | ⟨hleft, hother⟩
    · rcases (contains_submit h).mp hr with rfl | ⟨-, hother⟩
      · rfl
      · exact absurd ⟨hclient.symm, hsurface.symm⟩ hother
    · rcases (contains_submit h).mp hr with rfl | ⟨hright, -⟩
      · exact absurd ⟨hclient, hsurface⟩ hother
      · exact hstore.sole left right hleft hright hclient hsurface

theorem lookup_invalidateClient :
    (store.invalidateClient clientId).lookup handle = some p ↔
      store.lookup handle = some p ∧ handle.clientId ≠ clientId := by
  unfold lookup invalidateClient
  rw [OrdMap.get?_filter_eq_some, decide_eq_true_eq]

theorem Sound.invalidateClient (hstore : store.Sound) (clientId : Nat) :
    (store.invalidateClient clientId).Sound := by
  have hkept : ∀ handle, (store.invalidateClient clientId).payloads.contains handle = true →
      store.payloads.contains handle = true := by
    intro handle hcontains
    obtain ⟨p, hp⟩ := OrdMap.contains_iff.mp hcontains
    exact OrdMap.contains_iff.mpr ⟨p, (lookup_invalidateClient.mp hp).1⟩
  exact ⟨fun handle p hp => hstore.keyed handle p (lookup_invalidateClient.mp hp).1,
    fun handle p hp => hstore.valid handle p (lookup_invalidateClient.mp hp).1,
    fun left right hl hr => hstore.sole left right (hkept left hl) (hkept right hr)⟩

/-- What a replaced client has is what it was given. -/
theorem lookup_replaced
    (h : ((store.invalidateClient clientId).insertAll payloads).lookup handle = some p) :
    (p ∈ payloads ∧ p.handle = handle) ∨
      store.lookup handle = some p ∧ handle.clientId ≠ clientId :=
  (OrdMap.get?_insertAll_source h).imp_right lookup_invalidateClient.mp

theorem Sound.replaceClient (hstore : store.Sound)
    (h : store.replaceClient clientId payloads = .ok store') : store'.Sound := by
  obtain ⟨⟨surfaceIds, hchecked⟩, rfl⟩ := replaceClient_checked h
  refine ⟨fun handle p hp => ?_, fun handle p hp => ?_,
    fun left right hl hr hclient hsurface => ?_⟩
  · rcases lookup_replaced hp with ⟨-, heq⟩ | ⟨hold, -⟩
    · exact heq
    · exact hstore.keyed handle p hold
  · rcases lookup_replaced hp with ⟨hmem, -⟩ | ⟨hold, -⟩
    · exact (hchecked.valid p hmem).1
    · exact hstore.valid handle p hold
  · obtain ⟨p, hp⟩ := OrdMap.contains_iff.mp hl
    obtain ⟨q, hq⟩ := OrdMap.contains_iff.mp hr
    rcases lookup_replaced hp with ⟨hpmem, rfl⟩ | ⟨hleft, hother⟩
    · rcases lookup_replaced hq with ⟨hqmem, rfl⟩ | ⟨-, hother⟩
      · exact congrArg _ (List.inj_on_of_nodup_map hchecked.sole hpmem hqmem hsurface)
      · exact absurd (hclient.symm.trans (hchecked.valid p hpmem).2) hother
    · rcases lookup_replaced hq with ⟨hqmem, rfl⟩ | ⟨hright, -⟩
      · exact absurd (hclient.trans (hchecked.valid q hqmem).2) hother
      · exact hstore.sole left right (OrdMap.contains_iff.mpr ⟨p, hleft⟩)
          (OrdMap.contains_iff.mpr ⟨q, hright⟩) hclient hsurface

/-- What one call preserves. -/
theorem Sound.after (hstore : store.Sound) (call : Call) : (call.after store).Sound := by
  unfold Call.after
  cases call with
  | submit payload =>
    rw [Call.perform, submitting_run]
    cases hsubmit : store.submit payload with
    | ok store' => exact hstore.submit hsubmit
    | error error => exact hstore
  | replaceClient clientId payloads =>
    rw [Call.perform, replacing_run]
    cases hreplace : store.replaceClient clientId payloads with
    | ok store' => exact hstore.replaceClient hreplace
    | error error => exact hstore
  | invalidateClient clientId => exact hstore.invalidateClient clientId

theorem reachable_sound (h : calls.Reachable store) : store.Sound := by
  refine h.invariant ?_ fun store call hstore _ => hstore.after call
  rintro store rfl
  refine ⟨fun _ _ hp => ?_, fun _ _ hp => ?_, fun _ _ hl => ?_⟩
  · cases hp
  · cases hp
  · cases hl

/-! The bytes. -/

/-- The bytes of the store are those of its clients, in the saturating sums of the source. -/
theorem totalBytes_eq (store : PixelTransportStore) (clients : Finset Nat)
    (h : ∀ handle, store.payloads.contains handle = true → handle.clientId ∈ clients) :
    store.totalBytes = min (∑ clientId ∈ clients, store.bytesForClient clientId) u64Max := by
  have hclient : ∀ clientId, store.bytesForClient clientId = min
      (((store.payloads.entries.filter fun e => e.1.clientId = clientId).map
        fun e => e.2.pixels.length).sum) u64Max := by
    intro clientId
    unfold bytesForClient
    rw [foldl_satAdd _ _ (Nat.zero_le _), Nat.zero_add, OrdMap.values, List.map_map]
    rfl
  have hentries : ∀ e ∈ store.payloads.entries, e.1.clientId ∈ clients := fun e he =>
    h e.1 (OrdMap.contains_iff.mpr ⟨e.2, OrdMap.mem_entries.mp he⟩)
  unfold totalBytes
  rw [foldl_satAdd _ _ (Nat.zero_le _), Nat.zero_add, OrdMap.values, List.map_map,
    Finset.sum_congr rfl fun clientId _ => hclient clientId, min_sum_min]
  congr 1
  exact sum_classes (fun e : PixelTransportHandle × PixelTransportPayload => e.2.pixels.length)
    (fun e => e.1.clientId) clients hentries

/-! What a call may do, from whatever store a run has reached. -/

/-- The handles of a client's surface. -/
def HasOf (store : PixelTransportStore) (clientId : Nat) (surfaceId : String)
    (handle : PixelTransportHandle) : Prop :=
  store.payloads.contains handle = true ∧ handle.clientId = clientId ∧
    handle.surfaceId = surfaceId

/-- An accepted payload is held for its surface and no older than what was held; a refused call
changes nothing; and the other clients are left alone. -/
structure Fair (store : PixelTransportStore) (call : Call) : Prop where
  newer : ∀ payload store', call = .submit payload → call.perform store = .ok () store' →
    HasOf store' payload.handle.clientId payload.handle.surfaceId payload.handle ∧
      ∀ held held', HasOf store payload.handle.clientId payload.handle.surfaceId held →
        HasOf store' payload.handle.clientId payload.handle.surfaceId held' →
        generationKey held ≤ generationKey held'
  refused : ∀ error store', call.perform store = .error error store' → store' = store
  apart : ∀ handle : PixelTransportHandle, handle.clientId ≠ call.client →
    (call.after store).lookup handle = store.lookup handle

theorem newer_submit (h : store.submit payload = .ok store') :
    HasOf store' payload.handle.clientId payload.handle.surfaceId payload.handle ∧
      ∀ held held', HasOf store payload.handle.clientId payload.handle.surfaceId held →
        HasOf store' payload.handle.clientId payload.handle.surfaceId held' →
        generationKey held ≤ generationKey held' := by
  refine ⟨⟨(contains_submit h).mpr (.inl rfl), rfl, rfl⟩, fun held held' hheld hheld' => ?_⟩
  rcases (contains_submit h).mp hheld'.1 with rfl | ⟨-, hother⟩
  · exact submit_latest h hheld.1 hheld.2.1 hheld.2.2
  · exact absurd hheld'.2 hother

theorem apart_submit (h : store.submit payload = .ok store')
    (hclient : handle.clientId ≠ payload.handle.clientId) :
    store'.lookup handle = store.lookup handle := by
  have hne : handle ≠ payload.handle := fun heq => hclient (congrArg _ heq)
  rw [submit_eq h, lookup, OrdMap.get?_insert_ne _ _ hne, OrdMap.get?_filter]
  have hkeep : (!decide (handle.clientId = payload.handle.clientId ∧
      handle.surfaceId = payload.handle.surfaceId ∧
        (!isNewerHandle handle payload.handle) = true)) = true := by
    rw [Bool.not_eq_true', decide_eq_false_iff_not]
    exact fun hall => hclient hall.1
  unfold lookup
  cases store.payloads.get? handle with
  | none => rfl
  | some p => rw [Option.filter_some, if_pos hkeep]

theorem apart_invalidateClient (h : handle.clientId ≠ clientId) :
    (store.invalidateClient clientId).lookup handle = store.lookup handle := by
  refine Option.ext fun p => lookup_invalidateClient.trans ?_
  exact ⟨fun hp => hp.1, fun hp => ⟨hp, h⟩⟩

theorem apart_replaceClient (h : store.replaceClient clientId payloads = .ok store')
    (hclient : handle.clientId ≠ clientId) : store'.lookup handle = store.lookup handle := by
  obtain ⟨⟨surfaceIds, hchecked⟩, rfl⟩ := replaceClient_checked h
  have hforeign : ∀ p ∈ payloads, p.handle ≠ handle := fun p hp heq =>
    hclient ((congrArg _ heq.symm).trans (hchecked.valid p hp).2)
  refine Option.ext fun p => ⟨fun hp => ?_, fun hp => ?_⟩
  · rcases lookup_replaced hp with ⟨hmem, heq⟩ | ⟨hold, -⟩
    · exact absurd heq (hforeign p hmem)
    · exact hold
  · refine OrdMap.get?_insertAll_keep (lookup_invalidateClient.mpr ⟨hp, hclient⟩)
      fun q hq heq => ?_
    exact absurd heq (hforeign q hq)

theorem fair (store : PixelTransportStore) (call : Call) : Fair store call := by
  refine ⟨fun payload store' hcall hok => ?_, fun error store' => refused_unchanged,
    fun handle hclient => ?_⟩
  · subst hcall
    rw [Call.perform, submitting_run] at hok
    cases hsubmit : store.submit payload with
    | error error =>
      rw [hsubmit] at hok
      cases hok
    | ok submitted =>
      rw [hsubmit] at hok
      cases hok
      exact newer_submit hsubmit
  · unfold Call.after
    cases call with
    | submit payload =>
      rw [Call.perform, submitting_run]
      cases hsubmit : store.submit payload with
      | ok store' => exact apart_submit hsubmit hclient
      | error error => rfl
    | replaceClient clientId payloads =>
      rw [Call.perform, replacing_run]
      cases hreplace : store.replaceClient clientId payloads with
      | ok store' => exact apart_replaceClient hreplace hclient
      | error error => rfl
    | invalidateClient clientId => exact apart_invalidateClient hclient

end Calls

/-- After any sequence of calls, successful or not, the store has one valid payload for a
surface, every further call is fair, and the bytes of the clients add up to those of the
store. -/
theorem calls_accounted (sequence : List Call) :
    let store := calls.run {} sequence
    store.Sound ∧ (∀ call, Fair store call) ∧
      ∀ clients : Finset Nat,
        (∀ handle, store.payloads.contains handle = true → handle.clientId ∈ clients) →
          store.totalBytes =
            min (∑ clientId ∈ clients, store.bytesForClient clientId) u64Max := by
  have hreach : calls.Reachable (calls.run {} sequence) := (System.Reachable.run (.init rfl)) _
  exact ⟨reachable_sound hreach, fun call => fair _ call, totalBytes_eq _⟩

end PixelTransportStore

end TuffXwin
