import TuffXwin.Common.PixelTransport
import TuffXwin.Displayd.Geometry

/-! The pixel payloads displayd keeps for its canonical scene. A scene is
prepared against the payloads of its predecessor: what it still references is
kept, what it brings is added, the rest is dropped. -/

namespace TuffXwin.Displayd
open Lib

variable {surfaces : List SurfaceSnapshot} {p : PixelTransportPayload}
variable {inner inner' : PixelTransportStore} {payloads : List PixelTransportPayload}
  {m : OrdMap PixelTransportHandle PixelTransportPayload} {total : Nat}
variable {h : PixelTransportHandle} {incoming : List PixelTransportPayload} {allowMissing : Bool}

def missingPayloadReason (handle : PixelTransportHandle) : String :=
  "missing pixel payload for client " ++ toString handle.clientId ++ " surface " ++
    handle.surfaceId ++ " buffer " ++ toString handle.bufferGeneration ++ " scene " ++
    toString handle.sceneGeneration

/-- The escapes of Rust's string `Debug` for printable text. -/
def debugString (s : String) : String :=
  "\"" ++ String.join (s.toList.map fun c =>
    if c = '"' then "\\\"" else if c = '\\' then "\\\\" else if c = '\n' then "\\n"
    else if c = '\t' then "\\t" else if c = '\r' then "\\r" else c.toString) ++ "\""

def debugHandle (h : PixelTransportHandle) : String :=
  "PixelTransportHandle \x7b client_id: " ++ toString h.clientId ++ ", surface_id: " ++
    debugString h.surfaceId ++ ", buffer_generation: " ++ toString h.bufferGeneration ++
    ", scene_generation: " ++ toString h.sceneGeneration ++ " \x7d"

def debugTransportError : PixelTransportError → String
  | .staleGeneration current incoming =>
    "StaleGeneration \x7b current: " ++ debugHandle current ++ ", incoming: " ++
      debugHandle incoming ++ " \x7d"
  | .invalidPayload reason => "InvalidPayload \x7b reason: " ++ debugString reason ++ " \x7d"

structure DisplayPixelTransportStore where
  inner : PixelTransportStore := {}
  payloads : OrdMap PixelTransportHandle PixelTransportPayload := OrdMap.empty
  totalBytes : Nat := 0

variable {store store' : DisplayPixelTransportStore}

namespace DisplayPixelTransportStore

def lookup (store : DisplayPixelTransportStore) (handle : PixelTransportHandle) :
    Option PixelTransportPayload :=
  store.inner.lookup handle

def referenced (surfaces : List SurfaceSnapshot) : OrdSet PixelTransportHandle :=
  OrdSet.ofList (surfaces.filterMap (·.pixelTransport))

def checkNotStale (payloads : OrdMap PixelTransportHandle PixelTransportPayload)
    (handle : PixelTransportHandle) : Except String Unit :=
  match maxByKey generationKey (payloads.keys.filter fun existing =>
      existing.clientId = handle.clientId ∧ existing.surfaceId = handle.surfaceId) with
  | none => .ok ()
  | some current =>
    if generationKey current > generationKey handle then
      .error ("stale PixelTransport handle for " ++ handle.surfaceId)
    else .ok ()

def addIncoming (referenced : OrdSet PixelTransportHandle)
    (payloads : OrdMap PixelTransportHandle PixelTransportPayload)
    (payload : PixelTransportPayload) :
    Except String (OrdMap PixelTransportHandle PixelTransportPayload) :=
  if !referenced.contains payload.handle then
    .error ("orphan PixelTransport payload for " ++ payload.handle.surfaceId)
  else .ok (payloads.insert payload.handle payload)

def checkPresent (payloads : OrdMap PixelTransportHandle PixelTransportPayload)
    (handle : PixelTransportHandle) : Except String Unit :=
  if !payloads.contains handle then .error (missingPayloadReason handle) else .ok ()

def addBytes (total : Nat) (payload : PixelTransportPayload) : Except String Nat :=
  match usizeChecked (total + payload.pixels.length) with
  | none => .error "PixelTransport byte accounting overflow"
  | some total => .ok total

def submitInner (inner : PixelTransportStore) (payload : PixelTransportPayload) :
    Except String PixelTransportStore :=
  (inner.submit payload).mapError debugTransportError

def preparedForSceneWithPolicy (store : DisplayPixelTransportStore)
    (surfaces : List SurfaceSnapshot) (incoming : List PixelTransportPayload)
    (allowMissing : Bool) : Except String DisplayPixelTransportStore :=
  checkAll (checkNotStale store.payloads) (referenced surfaces).keys >>= fun _ =>
  incoming.foldlM (addIncoming (referenced surfaces))
    (store.payloads.filter fun handle _ => (referenced surfaces).contains handle) >>=
    fun payloads =>
  (if !allowMissing then checkAll (checkPresent payloads) (referenced surfaces).keys
    else .ok ()) >>= fun _ =>
  payloads.values.foldlM addBytes 0 >>= fun totalBytes =>
  if payloads.size > maxScenePixelPayloads then .error "PixelTransport payload budget exceeded"
  else if totalBytes > maxScenePixelBytes then .error "PixelTransport byte budget exceeded"
  else
    payloads.values.foldlM submitInner {} >>= fun inner => .ok ⟨inner, payloads, totalBytes⟩

end DisplayPixelTransportStore

/-- The surfaces of an admitted scene: distinct ids, and handles named by them. -/
structure NamedSurfaces (surfaces : List SurfaceSnapshot) : Prop where
  nodup : (surfaces.map (·.id)).Nodup
  named : ∀ s ∈ surfaces, ∀ h, s.pixelTransport = some h → h.surfaceId = s.id

theorem NamedSurfaces.handle_unique (hs : NamedSurfaces surfaces) {s s' : SurfaceSnapshot}
    (hmem : s ∈ surfaces) (hmem' : s' ∈ surfaces) {h' : PixelTransportHandle}
    (hh : s.pixelTransport = some h) (hh' : s'.pixelTransport = some h')
    (heq : h.surfaceId = h'.surfaceId) : h = h' := by
  have hid : s.id = s'.id := by rw [← hs.named s hmem h hh, ← hs.named s' hmem' h' hh', heq]
  have hss : s = s' := List.inj_on_of_nodup_map hs.nodup hmem hmem' hid
  rw [hss, hh'] at hh
  exact (Option.some.inj hh).symm

/-- A payload that scene admission lets in. -/
structure StoredPayload (p : PixelTransportPayload) : Prop where
  wellFormed : p.WellFormed
  length_le : p.pixels.length ≤ maxSinglePixelPayloadBytes

def StoredPayloads (store : DisplayPixelTransportStore) : Prop :=
  ∀ handle payload, store.lookup handle = some payload → StoredPayload payload

namespace DisplayPixelTransportStore

/-- The lookup table and the payload map hold the same payloads, under their handles. -/
structure Consistent (store : DisplayPixelTransportStore) : Prop where
  lookup : ∀ h, store.lookup h = store.payloads.get? h
  keyed : ∀ h p, store.payloads.get? h = some p → p.handle = h

theorem Consistent.default : Consistent {} where
  lookup _ := rfl
  keyed _ _ h := by simp at h

theorem contains_referenced :
    (referenced surfaces).contains h = true ↔ ∃ s ∈ surfaces, s.pixelTransport = some h := by
  rw [referenced, OrdSet.contains_ofList, List.mem_filterMap]

theorem submitInner_submit (h : submitInner inner p = .ok inner') :
    inner.submit p = .ok inner' := by
  simp only [submitInner, Except.mapError] at h
  split at h
  · simp at h
  · rename_i m hm
    rw [hm, Except.ok.inj h]

private theorem submitInner_lookup
    (hdistinct : payloads.Pairwise fun p q => p.handle.surfaceId ≠ q.handle.surfaceId)
    (hfresh : ∀ p ∈ payloads, ∀ h q, inner.lookup h = some q → h.surfaceId ≠ p.handle.surfaceId)
    (h : payloads.foldlM submitInner inner = .ok inner') (handle : PixelTransportHandle)
    (q : PixelTransportPayload) :
    inner'.lookup handle = some q ↔
      inner.lookup handle = some q ∨ (q ∈ payloads ∧ q.handle = handle) := by
  induction payloads generalizing inner with
  | nil =>
    cases h
    simp
  | cons p rest ih =>
    obtain ⟨mid, hmid, hrest⟩ := foldlM_cons_ok.mp h
    obtain ⟨hp, hpw⟩ := List.pairwise_cons.mp hdistinct
    have hsubmit := submitInner_submit hmid
    have hlookup := PixelTransportStore.lookup_submit_fresh hsubmit
      (fun h' q' hq' hc => hfresh p List.mem_cons_self h' q' hq' hc.2)
    have hfresh' : ∀ r ∈ rest, ∀ h' q', mid.lookup h' = some q' →
        h'.surfaceId ≠ r.handle.surfaceId := by
      intro r hr h' q' hq'
      rw [hlookup] at hq'
      split_ifs at hq' with heq
      · rw [heq]
        exact hp r hr
      · exact hfresh r (List.mem_cons_of_mem _ hr) h' q' hq'
    rw [ih hpw hfresh' hrest, hlookup]
    by_cases heq : handle = p.handle
    · rw [if_pos heq]
      have hnone : inner.lookup handle = none := by
        cases hget : inner.lookup handle with
        | none => rfl
        | some q' =>
          have hne := hfresh p List.mem_cons_self handle q' hget
          exact absurd (congrArg PixelTransportHandle.surfaceId heq) hne
      simp only [hnone, Option.some.injEq, List.mem_cons, reduceCtorEq, false_or]
      constructor
      · intro hq
        cases hq with
        | inl hq => exact ⟨.inl hq.symm, by rw [← hq, heq]⟩
        | inr hq => exact ⟨.inr hq.1, hq.2⟩
      · intro hq
        cases hq.1 with
        | inl hqp => exact .inl hqp.symm
        | inr hqr => exact .inr ⟨hqr, hq.2⟩
    · rw [if_neg heq]
      simp only [List.mem_cons]
      constructor
      · intro hq
        cases hq with
        | inl hq => exact .inl hq
        | inr hq => exact .inr ⟨.inr hq.1, hq.2⟩
      · intro hq
        cases hq with
        | inl hq => exact .inl hq
        | inr hq =>
          cases hq.1 with
          | inl hqp => exact absurd (by rw [← hq.2, hqp]) heq
          | inr hqr => exact .inr ⟨hqr, hq.2⟩

/-- What a prepared store holds for a scene with named surfaces. -/
structure Prepared (store : DisplayPixelTransportStore) (surfaces : List SurfaceSnapshot)
    (incoming : List PixelTransportPayload) (allowMissing : Bool)
    (store' : DisplayPixelTransportStore) : Prop where
  consistent : Consistent store'
  source : ∀ h p, store'.lookup h = some p →
    (p ∈ incoming ∧ p.handle = h) ∨ store.lookup h = some p
  keep : ∀ h p, store.lookup h = some p → (∃ s ∈ surfaces, s.pixelTransport = some h) →
    (∀ q ∈ incoming, q.handle = h → q = p) → store'.lookup h = some p
  present : allowMissing = false → ∀ s ∈ surfaces, ∀ h, s.pixelTransport = some h →
    ∃ p, store'.lookup h = some p

private theorem addIncoming_ok {r : OrdSet PixelTransportHandle}
    {m' : OrdMap PixelTransportHandle PixelTransportPayload} :
    addIncoming r m p = .ok m' ↔ r.contains p.handle = true ∧ m' = m.insert p.handle p := by
  simp only [addIncoming, Bool.not_eq_true']
  cases hc : r.contains p.handle <;> simp [eq_comm]

private theorem pairwise_surfaceId (hs : NamedSurfaces surfaces)
    (hkeyed : ∀ h p, m.get? h = some p → p.handle = h)
    (href : ∀ h p, m.get? h = some p → ∃ s ∈ surfaces, s.pixelTransport = some h) :
    m.values.Pairwise fun p q => p.handle.surfaceId ≠ q.handle.surfaceId := by
  rw [OrdMap.values, List.pairwise_map]
  refine m.sorted.imp_of_mem ?_
  intro a b ha hb hlt heq
  have hga := OrdMap.mem_entries.mp ha
  have hgb := OrdMap.mem_entries.mp hb
  obtain ⟨s, hs₁, hs₂⟩ := href a.1 a.2 hga
  obtain ⟨t, ht₁, ht₂⟩ := href b.1 b.2 hgb
  rw [hkeyed a.1 a.2 hga, hkeyed b.1 b.2 hgb] at heq
  exact absurd (hs.handle_unique hs₁ ht₁ hs₂ ht₂ heq) (ne_of_lt hlt)

theorem prepared_spec (hc : Consistent store) (hs : NamedSurfaces surfaces)
    (h : store.preparedForSceneWithPolicy surfaces incoming allowMissing = .ok store') :
    Prepared store surfaces incoming allowMissing store' := by
  rw [preparedForSceneWithPolicy] at h
  obtain ⟨_, _, h⟩ := bind_eq_ok.mp h
  obtain ⟨payloads, hadd, h⟩ := bind_eq_ok.mp h
  obtain ⟨_, hpresent, h⟩ := bind_eq_ok.mp h
  obtain ⟨total, _, h⟩ := bind_eq_ok.mp h
  split_ifs at h
  obtain ⟨inner, hinner, h⟩ := bind_eq_ok.mp h
  obtain rfl := Except.ok.inj h
  have hfold := (foldlM_guarded (fun m p m' => addIncoming_ok (r := referenced surfaces))).mp hadd
  have hpayloads : payloads = OrdMap.insertAll (·.handle) incoming
      (store.payloads.filter fun handle _ => (referenced surfaces).contains handle) := hfold.2
  have hsource : ∀ h p, payloads.get? h = some p → (p ∈ incoming ∧ p.handle = h) ∨
      (store.payloads.get? h = some p ∧ (referenced surfaces).contains h = true) := by
    intro h p hget
    rw [hpayloads] at hget
    exact (OrdMap.get?_insertAll_source hget).imp_right OrdMap.get?_filter_eq_some.mp
  have hkeyed : ∀ h p, payloads.get? h = some p → p.handle = h := by
    intro h p hget
    cases hsource h p hget with
    | inl hin => exact hin.2
    | inr hold => exact hc.keyed h p hold.1
  have hguard : ∀ p ∈ incoming, (referenced surfaces).contains p.handle = true := by
    intro p hp
    obtain ⟨l₁, l₂, rfl⟩ := List.append_of_mem hp
    exact (Guarded.append.mp hfold.1).2.1
  have href : ∀ h p, payloads.get? h = some p → ∃ s ∈ surfaces, s.pixelTransport = some h := by
    intro h p hget
    rw [← contains_referenced]
    cases hsource h p hget with
    | inl hin => exact hin.2 ▸ hguard p hin.1
    | inr hold => exact hold.2
  have hlookup : ∀ h p, inner.lookup h = some p ↔ payloads.get? h = some p := by
    intro h p
    rw [submitInner_lookup (pairwise_surfaceId hs hkeyed href)
      (fun _ _ _ _ hq => by simp [PixelTransportStore.lookup] at hq) hinner]
    simp only [PixelTransportStore.lookup, OrdMap.get?_empty, reduceCtorEq, false_or,
      OrdMap.mem_values]
    constructor
    · intro hp
      obtain ⟨⟨k, hk⟩, hhandle⟩ := hp
      rw [← hhandle, hkeyed k p hk]
      exact hk
    · intro hp
      exact ⟨⟨h, hp⟩, hkeyed h p hp⟩
  have hsome : ∀ h p, (⟨inner, payloads, total⟩ : DisplayPixelTransportStore).lookup h = some p ↔
      payloads.get? h = some p := hlookup
  refine ⟨⟨fun h => Option.ext fun p => hsome h p, hkeyed⟩, ?_, ?_, ?_⟩
  · intro h p hp
    refine (hsource h p ((hsome h p).mp hp)).imp_right fun hold => ?_
    rw [hc.lookup]
    exact hold.1
  · intro h p hp hreferenced hcompat
    rw [hsome, hpayloads]
    refine OrdMap.get?_insertAll_keep (OrdMap.get?_filter_eq_some.mpr ⟨?_, ?_⟩) hcompat
    · rw [← hc.lookup]
      exact hp
    · exact contains_referenced.mpr hreferenced
  · intro hallow s hmem handle hh
    subst hallow
    have hall := checkAll_ok.mp hpresent handle
      (OrdSet.mem_keys_iff.mpr (contains_referenced.mpr ⟨s, hmem, hh⟩))
    have hcontains : payloads.contains handle = true := by
      simp only [checkPresent, Bool.not_eq_true'] at hall
      cases hp : payloads.contains handle with
      | true => rfl
      | false => simp [hp] at hall
    obtain ⟨p, hp⟩ := OrdMap.contains_iff.mp hcontains
    exact ⟨p, (hsome handle p).mpr hp⟩

/-- What a prepared store owes to the loop and the budgets of its preparation. -/
structure Accounted (store : DisplayPixelTransportStore) (surfaces : List SurfaceSnapshot)
    (store' : DisplayPixelTransportStore) : Prop where
  referenced : ∀ h p, store'.payloads.get? h = some p →
    ∃ s ∈ surfaces, s.pixelTransport = some h
  bytes : store'.totalBytes = (store'.payloads.values.map (·.pixels.length)).sum
  count : store'.payloads.size ≤ maxScenePixelPayloads
  budget : store'.totalBytes ≤ maxScenePixelBytes
  newest : ∀ s ∈ surfaces, ∀ h, s.pixelTransport = some h → ∀ old p,
    store.payloads.get? old = some p → old.clientId = h.clientId → old.surfaceId = h.surfaceId →
    generationKey old ≤ generationKey h

private theorem addBytes_ok {total' : Nat} :
    addBytes total p = .ok total' ↔
      total + p.pixels.length ≤ u64Max ∧ total' = total + p.pixels.length := by
  unfold addBytes usizeChecked
  split_ifs with h
  · simp [h, eq_comm]
  · simp [h]

theorem addBytes_sum (h : payloads.foldlM addBytes 0 = .ok total) :
    total = (payloads.map (·.pixels.length)).sum := by
  have hgen : ∀ (l : List PixelTransportPayload) (n : Nat),
      l.foldl (fun total p => total + p.pixels.length) n =
        n + (l.map (·.pixels.length)).sum := by
    intro l
    induction l with
    | nil => exact fun n => rfl
    | cons p l ih =>
      intro n
      rw [List.foldl_cons, ih, List.map_cons, List.sum_cons, Nat.add_assoc]
  have hfold := ((foldlM_guarded fun _ _ _ => addBytes_ok).mp h).2
  rw [hfold, hgen, Nat.zero_add]

theorem checkNotStale_newest {payloads : OrdMap PixelTransportHandle PixelTransportPayload}
    {old : PixelTransportHandle} (hcheck : checkNotStale payloads h = .ok ())
    (hget : payloads.get? old = some p) (hclient : old.clientId = h.clientId)
    (hsurface : old.surfaceId = h.surfaceId) : generationKey old ≤ generationKey h := by
  have hmem : old ∈ payloads.keys.filter fun existing =>
      existing.clientId = h.clientId ∧ existing.surfaceId = h.surfaceId :=
    List.mem_filter.mpr ⟨OrdMap.mem_keys.mpr ⟨p, hget⟩, decide_eq_true ⟨hclient, hsurface⟩⟩
  unfold checkNotStale at hcheck
  split at hcheck
  · rename_i hnone
    rw [maxByKey_eq_none.mp hnone] at hmem
    cases hmem
  · rename_i current hcurrent
    split_ifs at hcheck with hle
    exact ((maxByKey_mem hcurrent).2 old hmem).trans (not_lt.mp hle)

/-- Every payload of a prepared store is under its own handle. -/
theorem prepared_keyed
    (h : store.preparedForSceneWithPolicy surfaces incoming allowMissing = .ok store')
    {handle : PixelTransportHandle} (hp : store'.lookup handle = some p) : p.handle = handle := by
  rw [preparedForSceneWithPolicy] at h
  obtain ⟨_, _, h⟩ := bind_eq_ok.mp h
  obtain ⟨payloads, _, h⟩ := bind_eq_ok.mp h
  obtain ⟨_, _, h⟩ := bind_eq_ok.mp h
  obtain ⟨total, _, h⟩ := bind_eq_ok.mp h
  split_ifs at h
  obtain ⟨inner, hinner, h⟩ := bind_eq_ok.mp h
  obtain rfl := Except.ok.inj h
  refine foldlM_invariant (fun inner : PixelTransportStore =>
    ∀ handle p, inner.lookup handle = some p → p.handle = handle) ?_ ?_ hinner handle p hp
  · intro m payload m' _ hm hstep handle p hp
    cases PixelTransportStore.lookup_submit_source (submitInner_submit hstep) hp with
    | inl hnew => rw [hnew.1, hnew.2]
    | inr hold => exact hm handle p hold
  · intro handle p hp
    simp [PixelTransportStore.lookup] at hp

theorem prepared_accounted
    (h : store.preparedForSceneWithPolicy surfaces incoming allowMissing = .ok store') :
    Accounted store surfaces store' := by
  rw [preparedForSceneWithPolicy] at h
  obtain ⟨_, hfresh, h⟩ := bind_eq_ok.mp h
  obtain ⟨payloads, hadd, h⟩ := bind_eq_ok.mp h
  obtain ⟨_, _, h⟩ := bind_eq_ok.mp h
  obtain ⟨total, htotal, h⟩ := bind_eq_ok.mp h
  split_ifs at h with hcount hbudget
  obtain ⟨inner, _, h⟩ := bind_eq_ok.mp h
  obtain rfl := Except.ok.inj h
  refine ⟨?_, addBytes_sum htotal, not_lt.mp hcount, not_lt.mp hbudget, ?_⟩
  · refine foldlM_invariant (fun m : OrdMap PixelTransportHandle PixelTransportPayload =>
      ∀ h p, m.get? h = some p → ∃ s ∈ surfaces, s.pixelTransport = some h) ?_ ?_ hadd
    · intro m p m' _ hm hstep h q hget
      obtain ⟨hreferenced, rfl⟩ := addIncoming_ok.mp hstep
      rw [OrdMap.get?_insert] at hget
      split_ifs at hget with hh
      · exact hh ▸ contains_referenced.mp hreferenced
      · exact hm h q hget
    · intro h p hget
      exact contains_referenced.mp (OrdMap.get?_filter_eq_some.mp hget).2
  · intro s hs h hh old p hget hclient hsurface
    have hcheck := checkAll_ok.mp hfresh h
      (OrdSet.mem_keys_iff.mpr (contains_referenced.mpr ⟨s, hs, hh⟩))
    exact checkNotStale_newest hcheck hget hclient hsurface

end DisplayPixelTransportStore

end TuffXwin.Displayd
