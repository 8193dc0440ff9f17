import TuffXwin.Headless.Runs

/-! The descriptors that requests take from the queue. A new pool takes the one that waits
longest, and the receiver of an offer the one that came last, so that a receiver gets its own
only when no other waits behind it. -/

namespace TuffXwin.Headless
open Lib
open WaylandWire (WireError WireArg WaylandMessage readU32 writeU32 displayId encodeEvent)

variable {fd version : Nat} {interface : Interface} {payload : List UInt8}
variable {P : HeadlessWireCore → Prop} {later : List Nat}

/-- Any fault is tolerated. -/
abbrev Anyhow : Fault → HeadlessWireCore → Prop := Tolerated False fun _ => True

section Queue

variable {core : HeadlessWireCore} {left fds : List Nat} {message : WaylandMessage}
  {environment : Environment}

/-- What a handler that succeeds leaves in the queue. -/
def Leaves {α : Type} (left : List Nat) (handler : Handler α) (core : HeadlessWireCore) : Prop :=
  Ends Anyhow handler core fun _ core' => core'.fdQueue = left

section

variable (hobject : core.object? message.header.objectId = some ⟨interface, version⟩)
include hobject

/-- What a handler that succeeds leaves, the announcement of deleted ids leaves as well. -/
theorem dispatchWithFds_tells
    (hregistry : ∀ core' registry, P core' → P (core'.withRegistry registry))
    (hdeleted : ∀ core' id, P core' → P (core'.pushed (WaylandWire.deleteIdEvent id)))
    (h : ∀ spec args, requestSpec interface message.header.opcode = .ok spec →
      decodeRequest message.payload spec fds = .ok args →
      Ends Anyhow (handleRequest interface (requestOf message args environment))
        (core.readied fds) fun _ core' => P core') :
    Ends Anyhow (dispatchWithFds message fds environment) core fun _ core' => P core' := by
  refine ends_bind.mpr ((ends_getObject trivial).mpr fun object hfound => ends_bind.mpr ?_)
  obtain rfl := Option.some.inj (hobject.symm.trans hfound)
  refine (ends_lift trivial).mpr ⟨fun spec hspec => ends_bind.mpr ?_, False.elim⟩
  refine (ends_lift trivial).mpr ⟨fun args hargs => ends_bind.mpr ?_, False.elim⟩
  refine (ends_require trivial).mpr fun _ => ends_bind.mpr (ends_modify.mpr ?_)
  refine Ends.then (h spec args hspec hargs) fun _ core₁ h₁ => ?_
  refine ends_bind.mpr (ends_bind.mpr (ends_get.mpr (ends_bind.mpr (ends_set.mpr ?_))))
  refine ends_modify.mpr (ends_bind.mpr (ends_get.mpr (ends_pure.mpr ?_)))
  have hpushed : ∀ (ids : List Nat) core', P core' →
      P ((ids.map WaylandWire.deleteIdEvent).foldl HeadlessWireCore.pushed core') := by
    intro ids
    induction ids with
    | nil => exact fun _ hcore => hcore
    | cons id rest ih => exact fun core' hcore => ih _ (hdeleted core' id hcore)
  exact hpushed _ _ (hregistry core₁ _ h₁)

/-- And all of it that speaks of neither the registry nor events. -/
theorem dispatchWithFds_reaches (hannounced : ∀ core' registry eventsOut log, P core' →
      P { core' with registry := registry, eventsOut := eventsOut, log := log })
    (h : ∀ spec args, requestSpec interface message.header.opcode = .ok spec →
      decodeRequest message.payload spec fds = .ok args →
      Ends Anyhow (handleRequest interface (requestOf message args environment))
        (core.readied fds) fun _ core' => P core') :
    Ends Anyhow (dispatchWithFds message fds environment) core fun _ core' => P core' :=
  dispatchWithFds_tells hobject (fun core' registry => hannounced core' registry _ _)
    (fun core' _ => hannounced core' _ _ _) h

theorem dispatchWithFds_leaves
    (h : ∀ spec args, requestSpec interface message.header.opcode = .ok spec →
      decodeRequest message.payload spec fds = .ok args →
      Leaves left (handleRequest interface (requestOf message args environment))
        (core.readied fds)) : Leaves left (dispatchWithFds message fds environment) core :=
  dispatchWithFds_reaches (P := fun core' => core'.fdQueue = left) hobject
    (fun _ _ _ _ hleft => hleft) h

end

theorem decodeFd_eq_ok {total : Option Nat} {count offset : Nat} {read : WireArg × Nat}
    (h : decodeFd total count offset = .ok read) : read.1 = .ancillaryFd := by
  unfold decodeFd at h
  split at h
  · cases h
  · split_ifs at h
    obtain rfl := Except.ok.inj h
    rfl

/-- The arguments of `create_pool`; the descriptor stands for one of the queue. -/
theorem decodeRequest_createPool {args : List WireArg}
    (h : decodeRequest payload ⟨"create_pool", [.newId, .fd, .int]⟩ fds = .ok args) :
    fds ≠ [] ∧ ∃ id size, args = [.newId id, .ancillaryFd, .int size] := by
  obtain ⟨_, hdecode⟩ := decodeArguments_eq_ok (decodeRequest_eq_ok h)
  obtain ⟨first, hfirst, hothers⟩ := bind_eq_ok.mp hdecode
  obtain ⟨others, hrest, hargs⟩ := bind_eq_ok.mp hothers
  obtain ⟨second, hsecond, hthird⟩ := bind_eq_ok.mp hrest
  obtain ⟨third, hlast, hseconds⟩ := bind_eq_ok.mp hthird
  obtain ⟨last, hint, hend⟩ := bind_eq_ok.mp hlast
  obtain ⟨stop, hstop, hlasts⟩ := bind_eq_ok.mp hend
  cases fds with
  | nil => cases hsecond
  | cons fd rest =>
    refine ⟨by simp, ?_⟩
    have hword : ∃ id, first.1 = .newId id := by
      simp only [decodeArg, decodeWord] at hfirst
      split_ifs at hfirst
      obtain rfl := Except.ok.inj hfirst
      exact ⟨_, rfl⟩
    have hfd : second.1 = .ancillaryFd := by
      simp only [decodeArg] at hsecond
      exact decodeFd_eq_ok hsecond
    have hsize : ∃ size, last.1 = .int size := by
      simp only [decodeArg, decodeWord] at hint
      split_ifs at hint
      obtain rfl := Except.ok.inj hint
      exact ⟨_, rfl⟩
    obtain ⟨id, hid⟩ := hword
    obtain ⟨size, hsize⟩ := hsize
    obtain rfl := Except.ok.inj hstop
    obtain rfl := Except.ok.inj hlasts
    obtain rfl := Except.ok.inj hseconds
    obtain ⟨rfl, _⟩ := Prod.mk.inj (Except.ok.inj hargs)
    exact ⟨id, size, by rw [hid, hfd, hsize]⟩

theorem createPool_leaves {id size other : Nat} {length : Int} {fds : List Nat}
    (hqueue : core.fdQueue = fd :: fds) :
    Leaves fds (createPool id size [.newId other, .ancillaryFd, .int length]) core := by
  refine ends_bind.mpr (ends_get.mpr ?_)
  rw [hqueue]
  refine ends_bind.mpr (ends_set.mpr ((ends_onPart trivial).mpr ⟨fun _ _ => rfl, False.elim⟩))

theorem handleShmCreatePool_leaves {id : Nat} {size : Int} (hqueue : core.fdQueue = fd :: fds) :
    Leaves fds (handleShmCreatePool payload [.newId id, .ancillaryFd, .int size]) core := by
  refine ends_bind.mpr ((ends_requireLength trivial).mpr fun hlength => ends_bind.mpr ?_)
  refine (ends_wordAt (by omega)).mpr (ends_bind.mpr ((ends_wordAt (by omega)).mpr ?_))
  refine ends_bind.mpr ((ends_registerClientObject trivial).mpr fun _ => ?_)
  refine ends_tryCatch.mpr (Ends.mono_error (createPool_leaves hqueue) fun fault core' _ => ?_)
  cases fault with
  | panicked => exact ⟨False.elim, trivial⟩
  | error error =>
    refine Ends.then (ends_any fun _ _ => ⟨False.elim, trivial⟩) fun _ _ _ => ?_
    exact ends_throw.mpr (tolerated_error trivial error)

theorem handleDataOfferReceive_leaves {offerId : Nat} :
    Leaves core.fdQueue.dropLast (handleDataOfferReceive offerId payload) core := by
  refine ends_bind.mpr ((ends_textAt trivial).mpr fun text _ => ends_bind.mpr (ends_bind.mpr ?_))
  refine ends_get.mpr (ends_bind.mpr ((ends_require trivial).mpr fun _ => ends_set.mpr ?_))
  refine ends_bind.mpr (ends_get.mpr (ends_bind.mpr ((ends_require trivial).mpr fun _ => ?_)))
  refine ends_bind.mpr (ends_get.mpr ?_)
  split
  · exact rfl
  · exact rfl

end Queue

/-! Requests that were sent with a descriptor. -/

/-- A request, the core as it finds it, its own descriptor, and those that arrive before it. -/
structure Sent where
  core : HeadlessWireCore
  message : WaylandMessage
  environment : Environment
  fd : Nat
  arriving : List Nat

namespace Sent

/-- The queue that a request leaves if it succeeds. -/
def dispatched (s : Sent) (queue : List Nat) : Option (List Nat) :=
  match dispatchWithFds s.message (queue ++ s.arriving) s.environment s.core with
  | .ok _ core => some core.fdQueue
  | .error _ _ => none

/-- The request is `wl_shm.create_pool`. -/
def CreatesPool (s : Sent) : Prop :=
  s.message.header.opcode = 0 ∧
    ∃ version, s.core.object? s.message.header.objectId = some ⟨.wlShm, version⟩

/-- The request is `wl_data_offer.receive`. -/
def Receives (s : Sent) : Prop :=
  s.message.header.opcode = 1 ∧
    ∃ version, s.core.object? s.message.header.objectId = some ⟨.wlDataOffer, version⟩

end Sent

/-- The descriptors arrive in the order of the requests, each no later than its own: once the
earlier ones are taken, it is the first of the queue. -/
def InOrder : List Nat → List Sent → Prop
  | _, [] => True
  | queue, s :: rest => ∃ later, queue ++ s.arriving = s.fd :: later ∧ InOrder later rest

/-- What is left of a queue when this descriptor is taken. -/
def Taken (queue : List Nat) (fd : Nat) (left : List Nat) : Prop :=
  ∃ ahead behind, queue = ahead ++ fd :: behind ∧ left = ahead ++ behind

/-- Every request takes its own descriptor, until one fails. -/
def TakesOwn : List Nat → List Sent → Prop
  | _, [] => True
  | queue, s :: rest => ∀ left ∈ s.dispatched queue,
    Taken (queue ++ s.arriving) s.fd left ∧ TakesOwn left rest

/-- Every receiver finds no other descriptor in the queue, until a request fails. -/
def AloneAtReceive : List Nat → List Sent → Prop
  | _, [] => True
  | queue, s :: rest => ∀ left ∈ s.dispatched queue,
    (s.Receives → (queue ++ s.arriving).length = 1) ∧ AloneAtReceive left rest

section Requests

variable {s : Sent} {queue left : List Nat}

theorem dispatched_eq (h : left ∈ s.dispatched queue) {expected : List Nat}
    (hleaves : Leaves expected (dispatchWithFds s.message (queue ++ s.arriving) s.environment)
      s.core) : left = expected := by
  unfold Sent.dispatched at h
  cases hresult : dispatchWithFds s.message (queue ++ s.arriving) s.environment s.core with
  | ok events core =>
    rw [hresult] at h
    obtain rfl := Option.some.inj h
    exact hleaves.ok hresult
  | error fault core =>
    rw [hresult] at h
    cases h

theorem Sent.CreatesPool.leaves (h : s.CreatesPool) (hleft : left ∈ s.dispatched queue)
    (hqueue : queue ++ s.arriving = fd :: later) : left = later := by
  obtain ⟨hopcode, version, hobject⟩ := h
  refine dispatched_eq hleft (dispatchWithFds_leaves hobject fun spec args hspec hargs => ?_)
  rw [hopcode] at hspec
  obtain rfl : _ = spec := Except.ok.inj hspec
  obtain ⟨_, id, size, rfl⟩ := decodeRequest_createPool hargs
  change Leaves later (onlyRequest .wlShm 0 _ _) _
  dsimp only [onlyRequest, requestOf]
  rw [if_pos hopcode]
  exact handleShmCreatePool_leaves hqueue

theorem Sent.Receives.leaves (h : s.Receives) (hleft : left ∈ s.dispatched queue) :
    left = (queue ++ s.arriving).dropLast := by
  obtain ⟨hopcode, version, hobject⟩ := h
  refine dispatched_eq hleft (dispatchWithFds_leaves hobject fun spec args _ _ => ?_)
  change Leaves _ (dataOfferRequest (requestOf s.message args s.environment)) _
  unfold dataOfferRequest requestOf
  rw [hopcode]
  exact handleDataOfferReceive_leaves

/-- The last of several descriptors is not the first. -/
theorem not_taken_last {next : Nat} (hnodup : (fd :: next :: later).Nodup) :
    ¬ Taken (fd :: next :: later) fd (fd :: next :: later).dropLast := by
  rintro ⟨ahead, behind, hqueue, hleft⟩
  have hfresh : fd ∉ next :: later := (List.nodup_cons.mp hnodup).1
  cases ahead with
  | nil =>
    rw [List.nil_append] at hleft
    obtain ⟨_, hbehind⟩ := List.cons.inj hqueue
    rw [List.dropLast_cons_cons, ← hbehind] at hleft
    have hmem : fd ∈ next :: later := hleft ▸ List.mem_cons_self
    exact hfresh hmem
  | cons first ahead =>
    obtain ⟨_, hrest⟩ := List.cons.inj hqueue
    refine hfresh ?_
    rw [hrest]
    exact List.mem_append_right _ List.mem_cons_self

end Requests

/-- Requests for pools and receivers of offers take the descriptors that were sent with them
exactly if every receiver finds its own alone. -/
theorem takesOwn_iff (queue : List Nat) (steps : List Sent)
    (hkinds : ∀ s ∈ steps, s.CreatesPool ∨ s.Receives) (horder : InOrder queue steps)
    (hdistinct : (queue ++ steps.flatMap Sent.arriving).Nodup) :
    TakesOwn queue steps ↔ AloneAtReceive queue steps := by
  induction steps generalizing queue with
  | nil => exact Iff.rfl
  | cons s rest ih =>
    obtain ⟨later, hqueue, hlater⟩ := horder
    have hrest := fun t ht => hkinds t (List.mem_cons_of_mem _ ht)
    rw [List.flatMap_cons, ← List.append_assoc, hqueue, List.cons_append] at hdistinct
    have hnodup : (later ++ rest.flatMap Sent.arriving).Nodup := (List.nodup_cons.mp hdistinct).2
    have hown : Taken (queue ++ s.arriving) s.fd later := ⟨[], later, hqueue, rfl⟩
    refine forall_congr' fun left => forall_congr' fun hleft => ?_
    rcases hkinds s List.mem_cons_self with hcreates | hreceives
    · obtain rfl := hcreates.leaves hleft hqueue
      have hnot : ¬ s.Receives := by
        intro hreceives
        have hopcode := hcreates.1.symm.trans hreceives.1
        cases hopcode
      rw [ih left hrest hlater hnodup]
      exact ⟨fun h => ⟨fun hreceives => absurd hreceives hnot, h.2⟩, fun h => ⟨hown, h.2⟩⟩
    · have hdropped := hreceives.leaves hleft
      rw [hqueue] at hdropped ⊢
      cases later with
      | nil =>
        obtain rfl : left = [] := hdropped
        rw [ih [] hrest hlater hnodup]
        exact ⟨fun h => ⟨fun _ => rfl, h.2⟩, fun h => ⟨⟨[], [], rfl, rfl⟩, h.2⟩⟩
      | cons next later =>
        have hpair : (s.fd :: next :: later).Nodup :=
          hdistinct.sublist (List.Sublist.cons_cons _ (List.sublist_append_left _ _))
        rw [hdropped]
        constructor
        · exact fun h => absurd h.1 (not_taken_last hpair)
        · intro h
          have hlength := h.1 hreceives
          simp at hlength

/-! A client with an offer of its own selection. -/

/-- It binds `wl_shm` as 3, and the offer is the first object of the server. -/
def offeredCore : HeadlessWireCore :=
  (clients.run { core := freshCore false false }
    ([.new displayId 1 (writeU32 2), bindGlobal 2 3 1 .wlShm, bindGlobal 3 4 7 .wlSeat,
      bindGlobal 5 5 3 .wlDataDeviceManager, .new 5 0 (writeU32 6),
      .new 5 1 (writeU32 7 ++ writeU32 4), .new 6 0 (WaylandWire.encodeString "text/plain"),
      .new 7 1 (writeU32 6 ++ writeU32 1)].map
        fun message => .dispatch message [] stillEnvironment)).core

def receiveSent (fd : Nat) (arriving : List Nat) : Sent where
  core := offeredCore
  message := .new WaylandWire.firstServerId 1 (WaylandWire.encodeString "text/plain")
  environment := stillEnvironment
  fd := fd
  arriving := arriving

def createPoolSent (fd : Nat) (arriving : List Nat) : Sent where
  core := offeredCore
  message := .new 3 0 (writeU32 8 ++ writeU32 4096)
  environment := stillEnvironment
  fd := fd
  arriving := arriving

/-- A pool whose descriptor is followed by that of a receiver. -/
theorem poolFirst_takesOwn :
    TakesOwn [] [createPoolSent 10 [10, 11], receiveSent 11 []] ↔
      AloneAtReceive [] [createPoolSent 10 [10, 11], receiveSent 11 []] := by
  refine takesOwn_iff [] _ (fun s hs => ?_) ⟨[11], rfl, [], rfl, trivial⟩ (by decide)
  rcases List.mem_cons.mp hs with rfl | hs
  · exact .inl ⟨rfl, 1, by decide +kernel⟩
  · obtain rfl := List.mem_singleton.mp hs
    exact .inr ⟨rfl, 3, by decide +kernel⟩

/-- A receiver whose descriptor is followed by that of a pool takes the one of the pool. -/
theorem receiveFirst_takesOther :
    InOrder [] [receiveSent 10 [10, 11], createPoolSent 11 []] ∧
      ¬ TakesOwn [] [receiveSent 10 [10, 11], createPoolSent 11 []] := by
  refine ⟨⟨[11], rfl, [], rfl, trivial⟩, fun h => ?_⟩
  have hleft : (receiveSent 10 [10, 11]).dispatched [] = some [10] := by decide +kernel
  exact not_taken_last (by decide) (h [10] hleft).1

end TuffXwin.Headless
