import TuffXwin.Headless.Managers
import TuffXwin.Headless.Rules
import TuffXwin.Lib.Fold
import Mathlib.Algebra.BigOperators.Group.Finset.Basic
import Mathlib.Algebra.Order.BigOperators.Group.Finset

/-! Shared memory over whole runs of the manager. A backing outlives its pool in the buffers
that were made of it; whatever fails leaves the manager as it was. -/

namespace TuffXwin.Headless
open Lib

variable {size : Nat} {m m' : ShmManager} {pool : ShmPool} {fileSize : Nat → Option Nat}
variable {backing fd format poolId : Nat} {height offset requested stride width : Int}
  {buffer : ShmBuffer}

/-- A call of the manager, with the types the arguments have. -/
inductive ShmCall
  | createPoolFromFake (id : Nat) (size : UInt32)
  | createPoolFromFd (id fd : Nat) (size : UInt32)
  | destroyPool (id : Nat)
  | resizePool (fileSize : Nat → Option Nat) (id : Nat) (requestedSize : Int32)
  | createBuffer (id poolId : Nat) (offset width height stride : Int32) (format : UInt32)
  | destroyBuffer (id : Nat)

variable {call : ShmCall}

def ShmCall.apply (call : ShmCall) (m : ShmManager) : Fallible ShmManager :=
  match call with
  | createPoolFromFake id size => m.createPoolFromFake id size.toNat
  | createPoolFromFd id fd size => m.createPoolFromFd id fd size.toNat
  | destroyPool id => m.destroyPool id
  | resizePool fileSize id requestedSize => m.resizePool fileSize id requestedSize.toInt
  | createBuffer id poolId offset width height stride format =>
    m.createBuffer id poolId offset.toInt width.toInt height.toInt stride.toInt format.toNat
  | destroyBuffer id => m.destroyBuffer id

def ShmCall.after (m : ShmManager) (call : ShmCall) : ShmManager :=
  match call.apply m with
  | .ok m' => m'
  | .error _ => m

def runShm (calls : List ShmCall) : ShmManager := calls.foldl ShmCall.after {}

namespace ShmBuffer

/-- The first byte behind the buffer. -/
def stop (buffer : ShmBuffer) : Int := buffer.offset + buffer.stride * buffer.height

end ShmBuffer

namespace ShmManager

/-- The backings that a pool or a buffer refers to. -/
def used (m : ShmManager) : Finset Nat :=
  (m.pools.values.map (·.backing) ++ m.buffers.values.map (·.backing)).toFinset

def bytesOf (m : ShmManager) (backing : Nat) : Nat :=
  ((m.backings.get? backing).map storageBytes).getD 0

theorem fakeBackingBytes_eq (m : ShmManager) :
    m.fakeBackingBytes = ∑ backing ∈ m.used, m.bytesOf backing := by
  have hkeys : m.used = (OrdSet.ofList
      (m.pools.values.map (·.backing) ++ m.buffers.values.map (·.backing))).keys.toFinset := by
    ext backing
    rw [used, List.mem_toFinset, List.mem_toFinset, OrdSet.mem_keys_iff, OrdSet.contains_ofList]
  rw [hkeys, List.sum_toFinset _ (OrdMap.nodup_keys _)]
  rfl

theorem mem_used :
    backing ∈ m.used ↔ (∃ id pool, m.pools.get? id = some pool ∧ pool.backing = backing) ∨
      ∃ id buffer, m.buffers.get? id = some buffer ∧ buffer.backing = backing := by
  simp only [used, List.mem_toFinset, List.mem_append, List.mem_map, OrdMap.mem_values]
  constructor
  · rintro (⟨pool, ⟨id, hid⟩, hpool⟩ | ⟨buffer, ⟨id, hid⟩, hbuffer⟩)
    · exact .inl ⟨id, pool, hid, hpool⟩
    · exact .inr ⟨id, buffer, hid, hbuffer⟩
  · rintro (⟨id, pool, hid, hpool⟩ | ⟨id, buffer, hid, hbuffer⟩)
    · exact .inl ⟨pool, ⟨id, hid⟩, hpool⟩
    · exact .inr ⟨buffer, ⟨id, hid⟩, hbuffer⟩

/-- The backing is there, and a fake one has so many bytes as `bytes` allows. -/
def Backed (m : ShmManager) (backing : Nat) (bytes : Nat → Prop) : Prop :=
  backing < m.nextBacking ∧ ∃ storage, m.backings.get? backing = some storage ∧
    ∀ length, storage = .fakeMemory length → bytes length

structure Sound (m : ShmManager) : Prop where
  pools : ∀ id pool, m.pools.get? id = some pool → m.Backed pool.backing (· = pool.size)
  distinct : ∀ id id' pool pool', m.pools.get? id = some pool → m.pools.get? id' = some pool' →
    pool.backing = pool'.backing → id = id'
  shapes : ∀ id buffer, m.buffers.get? id = some buffer →
    0 < buffer.width ∧ 0 < buffer.height ∧ 0 < buffer.stride ∧ 0 ≤ buffer.offset
  buffers : ∀ id buffer, m.buffers.get? id = some buffer →
    m.Backed buffer.backing fun bytes => buffer.stop ≤ bytes
  bytes : m.fakeBackingBytes ≤ maxFakeShmTotalBytes
  poolCount : m.pools.size ≤ maxShmPools
  bufferCount : m.buffers.size ≤ maxShmBuffers

theorem Sound.empty : Sound {} := by
  refine ⟨fun _ _ h => ?_, fun _ _ _ _ h => ?_, fun _ _ h => ?_, fun _ _ h => ?_, ?_, ?_, ?_⟩
  · cases h
  · cases h
  · cases h
  · cases h
  · decide
  · decide
  · decide

section Calls

variable {m m' : ShmManager} {id : Nat}

theorem Backed.of_insert {bytes : Nat → Prop} (h : m.Backed backing bytes) (size : Nat)
    (storage : ShmPoolStorage) : (m.insertPool id size storage).Backed backing bytes := by
  obtain ⟨hlt, old, hold, hbytes⟩ := h
  refine ⟨Nat.lt_succ_of_lt hlt, old, ?_, hbytes⟩
  exact (OrdMap.get?_insert_ne _ _ (Nat.ne_of_lt hlt)).trans hold

/-- The bytes of the backings after a pool was added: those of its own come on top. -/
theorem insertPool_bytes (h : Sound m) (hfree : m.pools.contains id = false) (size : Nat)
    (storage : ShmPoolStorage) :
    (m.insertPool id size storage).fakeBackingBytes =
      storageBytes storage + m.fakeBackingBytes := by
  have hnone : m.pools.get? id = none := by simpa [OrdMap.contains] using hfree
  have hlt : ∀ backing ∈ m.used, backing < m.nextBacking := by
    intro backing hmem
    rcases mem_used.mp hmem with ⟨_, pool, hpool, rfl⟩ | ⟨_, buffer, hbuffer, rfl⟩
    · exact (h.pools _ pool hpool).1
    · exact (h.buffers _ buffer hbuffer).1
  have hused : (m.insertPool id size storage).used = insert m.nextBacking m.used := by
    ext backing
    rw [Finset.mem_insert, mem_used, mem_used]
    constructor
    · rintro (⟨other, pool, hpool, rfl⟩ | hbuffer)
      · by_cases heq : other = id
        · rw [heq] at hpool
          have hself := (OrdMap.get?_insert_self _ _ _).symm.trans hpool
          rw [← Option.some.inj hself]
          exact .inl rfl
        · exact .inr (.inl ⟨other, pool, (OrdMap.get?_insert_ne _ _ heq).symm.trans hpool, rfl⟩)
      · exact .inr (.inr hbuffer)
    · rintro (rfl | ⟨other, pool, hpool, rfl⟩ | hbuffer)
      · exact .inl ⟨id, _, OrdMap.get?_insert_self _ _ _, rfl⟩
      · have hne : other ≠ id := by
          intro heq
          rw [heq, hnone] at hpool
          cases hpool
        exact .inl ⟨other, pool, (OrdMap.get?_insert_ne _ _ hne).trans hpool, rfl⟩
      · exact .inr hbuffer
  have hnew : m.nextBacking ∉ m.used := fun hmem => Nat.lt_irrefl _ (hlt _ hmem)
  rw [fakeBackingBytes_eq, fakeBackingBytes_eq, hused, Finset.sum_insert hnew]
  congr 1
  · unfold bytesOf insertPool
    rw [OrdMap.get?_insert_self]
    rfl
  · refine Finset.sum_congr rfl fun backing hmem => ?_
    unfold bytesOf insertPool
    rw [OrdMap.get?_insert_ne _ _ (Nat.ne_of_lt (hlt backing hmem))]

theorem Sound.insertPool (h : Sound m) {storage : ShmPoolStorage}
    (hvalid : m.validateNewPool id size = .ok ())
    (hstorage : ∀ length, storage = .fakeMemory length → length = size)
    (hbytes : storageBytes storage + m.fakeBackingBytes ≤ maxFakeShmTotalBytes) :
    Sound (m.insertPool id size storage) := by
  unfold validateNewPool at hvalid
  split_ifs at hvalid with _ hcontains hcount
  have hfree : m.pools.contains id = false := by simpa using hcontains
  have hcases : ∀ other pool, (m.insertPool id size storage).pools.get? other = some pool →
      other = id ∧ pool = ⟨m.nextBacking, size⟩ ∨ m.pools.get? other = some pool := by
    intro other pool hpool
    by_cases heq : other = id
    · rw [heq] at hpool
      have hself := (OrdMap.get?_insert_self _ _ _).symm.trans hpool
      exact .inl ⟨heq, (Option.some.inj hself).symm⟩
    · exact .inr ((OrdMap.get?_insert_ne _ _ heq).symm.trans hpool)
  refine ⟨fun other pool hpool => ?_, fun a b poolA poolB ha hb hsame => ?_, h.shapes,
    fun other buffer hbuffer => ?_, ?_, ?_, h.bufferCount⟩
  · rcases hcases other pool hpool with ⟨_, rfl⟩ | hold
    · exact ⟨Nat.lt_succ_self _, storage, OrdMap.get?_insert_self _ _ _, hstorage⟩
    · exact (h.pools other pool hold).of_insert size storage
  · rcases hcases a poolA ha with ⟨rfl, rfl⟩ | holdA
    · rcases hcases b poolB hb with ⟨rfl, _⟩ | holdB
      · rfl
      · exact absurd hsame.symm (Nat.ne_of_lt (h.pools b poolB holdB).1)
    · rcases hcases b poolB hb with ⟨_, rfl⟩ | holdB
      · exact absurd hsame (Nat.ne_of_lt (h.pools a poolA holdA).1)
      · exact h.distinct a b poolA poolB holdA holdB hsame
  · exact (h.buffers other buffer hbuffer).of_insert size storage
  · rw [insertPool_bytes h hfree]
    exact hbytes
  · have hle := OrdMap.size_insert_le m.pools id ⟨m.nextBacking, size⟩
    unfold ShmManager.insertPool
    dsimp only
    omega

/-- What refers to no more backings than before has no more bytes. -/
theorem Sound.bytes_le (h : Sound m) (hbackings : m'.backings = m.backings)
    (hused : m'.used ⊆ m.used) : m'.fakeBackingBytes ≤ maxFakeShmTotalBytes := by
  have hle : m'.fakeBackingBytes ≤ m.fakeBackingBytes := by
    rw [fakeBackingBytes_eq, fakeBackingBytes_eq]
    unfold bytesOf
    rw [hbackings]
    exact Finset.sum_le_sum_of_subset hused
  exact hle.trans h.bytes

theorem Sound.destroyPool (h : Sound m) (hok : m.destroyPool id = .ok m') : Sound m' := by
  unfold ShmManager.destroyPool at hok
  split_ifs at hok with hcontains
  cases hok
  have hold : ∀ other pool, (m.pools.erase id).get? other = some pool →
      m.pools.get? other = some pool := by
    intro other pool hpool
    rw [OrdMap.get?_erase] at hpool
    split_ifs at hpool
    exact hpool
  refine ⟨fun other pool hpool => h.pools other pool (hold other pool hpool),
    fun a b poolA poolB ha hb => h.distinct a b poolA poolB (hold a poolA ha) (hold b poolB hb),
    h.shapes, h.buffers, h.bytes_le rfl fun backing hmem => ?_, ?_, h.bufferCount⟩
  · rw [mem_used] at hmem ⊢
    rcases hmem with ⟨other, pool, hpool, rfl⟩ | hbuffer
    · exact .inl ⟨other, pool, hold other pool hpool, rfl⟩
    · exact .inr hbuffer
  · exact (OrdMap.size_le_of fun k v hv => ⟨v, hold k v hv⟩).trans h.poolCount

theorem Sound.destroyBuffer (h : Sound m) (hok : m.destroyBuffer id = .ok m') : Sound m' := by
  unfold ShmManager.destroyBuffer at hok
  split_ifs at hok with hcontains
  cases hok
  have hold : ∀ other buffer, (m.buffers.erase id).get? other = some buffer →
      m.buffers.get? other = some buffer := by
    intro other buffer hbuffer
    rw [OrdMap.get?_erase] at hbuffer
    split_ifs at hbuffer
    exact hbuffer
  refine ⟨h.pools, h.distinct, fun other buffer hbuffer => h.shapes _ _ (hold _ _ hbuffer),
    fun other buffer hbuffer => h.buffers _ _ (hold _ _ hbuffer),
    h.bytes_le rfl fun backing hmem => ?_, h.poolCount, ?_⟩
  · rw [mem_used] at hmem ⊢
    rcases hmem with hpool | ⟨other, buffer, hbuffer, rfl⟩
    · exact .inl hpool
    · exact .inr ⟨other, buffer, hold other buffer hbuffer, rfl⟩
  · exact (OrdMap.size_le_of fun k v hv => ⟨v, hold k v hv⟩).trans h.bufferCount

/-- What an accepted buffer is and where it lies in its pool. -/
theorem createBuffer_eq_ok
    (hok : m.createBuffer id poolId offset width height stride format = .ok m') :
    ∃ pool, m.pools.get? poolId = some pool ∧
      (0 < width ∧ 0 < height ∧ 0 < stride ∧ 0 ≤ offset) ∧
      m.buffers.size < maxShmBuffers ∧ offset + stride * height ≤ pool.size ∧
      m' = { m with
        buffers :=
          m.buffers.insert id ⟨poolId, pool.backing, offset, width, height, stride, format⟩ } := by
  obtain ⟨pool, hpool, hrest⟩ := bind_eq_ok.mp hok
  split_ifs at hrest with hshape hduplicate hcount hstride hbytes hstop
  refine ⟨pool, orInvalid_eq_ok.mp hpool, by omega, by omega, by omega, ?_⟩
  exact (Except.ok.inj hrest).symm

theorem Sound.createBuffer (h : Sound m)
    (hok : m.createBuffer id poolId offset width height stride format = .ok m') : Sound m' := by
  obtain ⟨pool, hpool, hshape, hcount, hstop, rfl⟩ := createBuffer_eq_ok hok
  have hcases : ∀ other buffer,
      (m.buffers.insert id ⟨poolId, pool.backing, offset, width, height, stride, format⟩).get?
        other = some buffer →
      buffer = ⟨poolId, pool.backing, offset, width, height, stride, format⟩ ∨
        m.buffers.get? other = some buffer := by
    intro other buffer hbuffer
    rw [OrdMap.get?_insert] at hbuffer
    split_ifs at hbuffer
    · exact .inl (Option.some.inj hbuffer).symm
    · exact .inr hbuffer
  refine ⟨h.pools, h.distinct, fun other buffer hbuffer => ?_, fun other buffer hbuffer => ?_,
    h.bytes_le rfl fun backing hmem => ?_, h.poolCount, ?_⟩
  · rcases hcases other buffer hbuffer with rfl | hold
    · exact hshape
    · exact h.shapes other buffer hold
  · rcases hcases other buffer hbuffer with rfl | hold
    · obtain ⟨hlt, storage, hstorage, hlength⟩ := h.pools poolId pool hpool
      refine ⟨hlt, storage, hstorage, fun length hfake => ?_⟩
      rw [hlength length hfake]
      exact hstop
    · exact h.buffers other buffer hold
  · rw [mem_used] at hmem ⊢
    rcases hmem with hpools | ⟨other, buffer, hbuffer, rfl⟩
    · exact .inl hpools
    · rcases hcases other buffer hbuffer with rfl | hold
      · exact .inl ⟨poolId, pool, hpool, rfl⟩
      · exact .inr ⟨other, buffer, hold, rfl⟩
  · have hle := OrdMap.size_insert_le m.buffers id
      ⟨poolId, pool.backing, offset, width, height, stride, format⟩
    dsimp only
    omega

theorem createPoolFromFake_eq_ok (hok : m.createPoolFromFake id size = .ok m') :
    m.validateNewPool id size = .ok () ∧ m.fakeBackingBytes + size ≤ maxFakeShmTotalBytes ∧
      m' = m.insertPool id size (.fakeMemory size) := by
  obtain ⟨_, hvalid, hrest⟩ := bind_eq_ok.mp hok
  split_ifs at hrest with hsize hsum htotal
  exact ⟨hvalid, by omega, (Except.ok.inj hrest).symm⟩

theorem createPoolFromFd_eq_ok (hok : m.createPoolFromFd id fd size = .ok m') :
    m.validateNewPool id size = .ok () ∧ m' = m.insertPool id size (.receivedFd fd) := by
  obtain ⟨_, hvalid, hrest⟩ := bind_eq_ok.mp hok
  exact ⟨hvalid, (Except.ok.inj hrest).symm⟩

def withPoolSize (m : ShmManager) (id size : Nat) : ShmManager :=
  { m with pools := m.pools.modify id fun pool => { pool with size := size } }

theorem resizeBacking_eq_ok (hok : m.resizeBacking fileSize pool size = .ok m') :
    (∃ fd, m.backings.get? pool.backing = some (.receivedFd fd)) ∧ m' = m ∨
      (∀ fd, m.backings.get? pool.backing ≠ some (.receivedFd fd)) ∧
        pool.size ≤ m.fakeBackingBytes ∧
        m.fakeBackingBytes - pool.size + size ≤ maxFakeShmTotalBytes ∧
        m' = { m with backings := m.backings.insert pool.backing (.fakeMemory size) } := by
  unfold resizeBacking at hok
  dsimp only at hok
  split at hok
  · rename_i fd hfd
    split at hok
    · cases hok
    · split_ifs at hok
      cases hok
      exact .inl ⟨⟨fd, hfd⟩, rfl⟩
  · rename_i hfake
    split_ifs at hok with hsub htotal
    cases hok
    exact .inr ⟨hfake, by omega, by omega, rfl⟩

theorem resizePool_eq_ok (hok : m.resizePool fileSize id requested = .ok m') :
    ∃ pool resized, m.pools.get? id = some pool ∧ pool.size < requested.toNat ∧
      m.resizeBacking fileSize pool requested.toNat = .ok resized ∧
      m' = resized.withPoolSize id requested.toNat := by
  obtain ⟨pool, hpool, hrest⟩ := bind_eq_ok.mp hok
  split_ifs at hrest with hsize hlimit
  obtain ⟨resized, hresized, hrest⟩ := bind_eq_ok.mp hrest
  split_ifs at hrest with hcontains
  exact ⟨pool, resized, orInvalid_eq_ok.mp hpool, by omega, hresized, (Except.ok.inj hrest).symm⟩

theorem withPoolSize_pools {other : Nat}
    (h : (m.withPoolSize id size).pools.get? other = some pool) :
    ∃ old, m.pools.get? other = some old ∧ pool.backing = old.backing ∧
      pool.size = if other = id then size else old.size := by
  unfold withPoolSize at h
  rw [OrdMap.get?_modify] at h
  split_ifs at h with heq
  · obtain ⟨old, hold, rfl⟩ := Option.map_eq_some_iff.mp h
    exact ⟨old, hold, rfl, by rw [if_pos heq]⟩
  · exact ⟨pool, h, rfl, by rw [if_neg heq]⟩

theorem withPoolSize_used (m : ShmManager) : (m.withPoolSize id size).used = m.used := by
  ext backing
  rw [mem_used, mem_used]
  constructor
  · rintro (⟨other, pool, hpool, rfl⟩ | hbuffer)
    · obtain ⟨old, hold, hbacking, _⟩ := withPoolSize_pools hpool
      exact .inl ⟨other, old, hold, hbacking.symm⟩
    · exact .inr hbuffer
  · rintro (⟨other, pool, hpool, rfl⟩ | hbuffer)
    · refine .inl ⟨other, if other = id then { pool with size := size } else pool, ?_, ?_⟩
      · unfold withPoolSize
        rw [OrdMap.get?_modify, hpool]
        split_ifs <;> rfl
      · split_ifs <;> rfl
    · exact .inr hbuffer

theorem withPoolSize_bytes (m : ShmManager) :
    (m.withPoolSize id size).fakeBackingBytes = m.fakeBackingBytes := by
  rw [fakeBackingBytes_eq, fakeBackingBytes_eq, withPoolSize_used]
  rfl

section

variable (h : Sound m) (hpool : m.pools.get? id = some pool)
include h hpool

/-- The bytes of a pool are among those that are counted. -/
theorem Sound.pool_bytes (hfake : ∀ fd, m.backings.get? pool.backing ≠ some (.receivedFd fd)) :
    m.bytesOf pool.backing = pool.size := by
  obtain ⟨_, storage, hstorage, hlength⟩ := h.pools id pool hpool
  unfold bytesOf
  rw [hstorage]
  cases storage with
  | fakeMemory bytes => exact hlength bytes rfl
  | receivedFd fd => exact absurd hstorage (hfake fd)

theorem resized_bytes (hfake : ∀ fd, m.backings.get? pool.backing ≠ some (.receivedFd fd))
    (size : Nat) : ({ m with backings := m.backings.insert pool.backing (.fakeMemory size) } :
      ShmManager).fakeBackingBytes = m.fakeBackingBytes - pool.size + size := by
  have hmem : pool.backing ∈ m.used := mem_used.mpr (.inl ⟨id, pool, hpool, rfl⟩)
  have hbefore := Finset.add_sum_erase _ m.bytesOf hmem
  have hafter := Finset.add_sum_erase m.used
    (bytesOf { m with backings := m.backings.insert pool.backing (.fakeMemory size) }) hmem
  have hrest : ∑ backing ∈ m.used.erase pool.backing,
      bytesOf { m with backings := m.backings.insert pool.backing (.fakeMemory size) } backing =
        ∑ backing ∈ m.used.erase pool.backing, m.bytesOf backing := by
    refine Finset.sum_congr rfl fun backing hbacking => ?_
    unfold bytesOf
    rw [OrdMap.get?_insert_ne _ _ (Finset.ne_of_mem_erase hbacking)]
  have hself : bytesOf { m with backings := m.backings.insert pool.backing (.fakeMemory size) }
      pool.backing = size := by
    unfold bytesOf
    rw [OrdMap.get?_insert_self]
    rfl
  have hpoolBytes := h.pool_bytes hpool hfake
  rw [fakeBackingBytes_eq, fakeBackingBytes_eq]
  change ∑ backing ∈ m.used, _ = _
  omega

/-- A resize through a descriptor changes the recorded size alone. -/
theorem Sound.resizedFd (hfd : m.backings.get? pool.backing = some (.receivedFd fd)) :
    Sound (m.withPoolSize id size) := by
  refine ⟨fun other pool' hpool' => ?_, fun a b poolA poolB ha hb hsame => ?_, h.shapes, h.buffers,
    ?_, ?_, h.bufferCount⟩
  · obtain ⟨old, hold, hbacking, hsize⟩ := withPoolSize_pools hpool'
    obtain ⟨hlt, storage, hstorage, hlength⟩ := h.pools other old hold
    rw [hbacking]
    refine ⟨hlt, storage, hstorage, fun length hfake => ?_⟩
    have hne : other ≠ id := by
      intro heq
      rw [heq, hpool] at hold
      obtain rfl := Option.some.inj hold
      rw [hfd] at hstorage
      rw [← Option.some.inj hstorage] at hfake
      cases hfake
    rw [hsize, if_neg hne]
    exact hlength length hfake
  · obtain ⟨oldA, holdA, hbackingA, _⟩ := withPoolSize_pools ha
    obtain ⟨oldB, holdB, hbackingB, _⟩ := withPoolSize_pools hb
    exact h.distinct a b oldA oldB holdA holdB (by rw [← hbackingA, ← hbackingB, hsame])
  · rw [withPoolSize_bytes]
    exact h.bytes
  · refine (OrdMap.size_le_of fun k v hv => ?_).trans h.poolCount
    obtain ⟨old, hold, _⟩ := withPoolSize_pools hv
    exact ⟨old, hold⟩

/-- A fake backing grows with its pool; the buffers of it stay within. -/
theorem Sound.resizedFake (hfake : ∀ fd, m.backings.get? pool.backing ≠ some (.receivedFd fd))
    (hgrows : pool.size < size)
    (hbytes : m.fakeBackingBytes - pool.size + size ≤ maxFakeShmTotalBytes) :
    Sound (({ m with backings := m.backings.insert pool.backing (.fakeMemory size) } :
      ShmManager).withPoolSize id size) := by
  obtain ⟨hpoolLt, _⟩ := h.pools id pool hpool
  have hold : ∀ backing, backing ≠ pool.backing → ∀ bytes : Nat → Prop, m.Backed backing bytes →
      Backed (withPoolSize { m with
        backings := m.backings.insert pool.backing (.fakeMemory size) } id size) backing bytes := by
    intro backing hne bytes hbacked
    obtain ⟨hlt, storage, hstorage, hlength⟩ := hbacked
    exact ⟨hlt, storage, (OrdMap.get?_insert_ne _ _ hne).trans hstorage, hlength⟩
  have hnew : ∀ bytes : Nat → Prop, bytes size →
      Backed (withPoolSize { m with
        backings := m.backings.insert pool.backing (.fakeMemory size) } id size)
        pool.backing bytes := by
    intro bytes hsize
    refine ⟨hpoolLt, _, OrdMap.get?_insert_self _ _ _, fun length hlength => ?_⟩
    cases hlength
    exact hsize
  refine ⟨fun other pool' hpool' => ?_, fun a b poolA poolB ha hb hsame => ?_, h.shapes,
    fun other buffer hbuffer => ?_, ?_, ?_, h.bufferCount⟩
  · obtain ⟨old, hbefore, hbacking, hsize⟩ := withPoolSize_pools hpool'
    rw [hbacking]
    by_cases heq : other = id
    · rw [heq, hpool] at hbefore
      obtain rfl := Option.some.inj hbefore
      refine hnew _ ?_
      rw [hsize, if_pos heq]
    · rw [hsize, if_neg heq]
      refine hold _ (fun hsame => heq ?_) _ (h.pools other old hbefore)
      exact h.distinct other id old pool hbefore hpool hsame
  · obtain ⟨oldA, holdA, hbackingA, _⟩ := withPoolSize_pools ha
    obtain ⟨oldB, holdB, hbackingB, _⟩ := withPoolSize_pools hb
    exact h.distinct a b oldA oldB holdA holdB (by rw [← hbackingA, ← hbackingB, hsame])
  · have hbacked := h.buffers other buffer hbuffer
    by_cases heq : buffer.backing = pool.backing
    · rw [heq]
      refine hnew _ ?_
      obtain ⟨_, storage, hstorage, hlength⟩ := hbacked
      rw [heq] at hstorage
      cases storage with
      | fakeMemory bytes =>
        have hpoolBytes := h.pool_bytes hpool hfake
        unfold bytesOf at hpoolBytes
        rw [hstorage] at hpoolBytes
        have hstop : buffer.stop ≤ bytes := hlength bytes rfl
        have hsize : bytes = pool.size := hpoolBytes
        omega
      | receivedFd fd => exact absurd hstorage (hfake fd)
    · exact hold _ heq _ hbacked
  · rw [withPoolSize_bytes, resized_bytes h hpool hfake]
    exact hbytes
  · refine (OrdMap.size_le_of fun k v hv => ?_).trans h.poolCount
    obtain ⟨old, hbefore, _⟩ := withPoolSize_pools hv
    exact ⟨old, hbefore⟩

end

theorem Sound.resizePool (h : Sound m) (hok : m.resizePool fileSize id requested = .ok m') :
    Sound m' := by
  obtain ⟨pool, resized, hpool, hgrows, hresized, rfl⟩ := resizePool_eq_ok hok
  rcases resizeBacking_eq_ok hresized with ⟨⟨fd, hfd⟩, rfl⟩ | ⟨hfake, _, hbytes, rfl⟩
  · exact h.resizedFd hpool hfd
  · exact h.resizedFake hpool hfake hgrows hbytes

end Calls

end ShmManager

open ShmManager

theorem ShmManager.Sound.apply (h : Sound m) (hok : call.apply m = .ok m') : Sound m' := by
  cases call with
  | createPoolFromFake id size =>
    obtain ⟨hvalid, hbytes, rfl⟩ := createPoolFromFake_eq_ok hok
    refine h.insertPool hvalid (fun length hlength => ?_) ?_
    · cases hlength
      rfl
    · rw [Nat.add_comm]
      exact hbytes
  | createPoolFromFd id fd size =>
    obtain ⟨hvalid, rfl⟩ := createPoolFromFd_eq_ok hok
    refine h.insertPool hvalid (fun length hlength => ?_) ?_
    · cases hlength
    · rw [storageBytes, Nat.zero_add]
      exact h.bytes
  | destroyPool id => exact h.destroyPool hok
  | resizePool fileSize id requestedSize => exact h.resizePool hok
  | createBuffer id poolId offset width height stride format => exact h.createBuffer hok
  | destroyBuffer id => exact h.destroyBuffer hok

theorem ShmManager.Sound.after (h : Sound m) (call : ShmCall) : Sound (call.after m) := by
  unfold ShmCall.after
  cases hok : call.apply m with
  | ok m' => exact h.apply hok
  | error fault => exact h

theorem runShm_sound (calls : List ShmCall) : Sound (runShm calls) := by
  induction calls using List.reverseRecOn with
  | nil => exact Sound.empty
  | append_singleton calls call ih =>
    unfold runShm at ih ⊢
    rw [List.foldl_append]
    exact ih.after call

theorem runShm_append (calls : List ShmCall) (call : ShmCall) :
    runShm (calls ++ [call]) = call.after (runShm calls) := by
  unfold runShm
  rw [List.foldl_append]
  rfl

theorem ShmCall.after_eq (h : call.after m = m') : call.apply m = .ok m' ∨ m' = m := by
  unfold ShmCall.after at h
  cases hok : call.apply m with
  | ok next =>
    rw [hok] at h
    exact .inl (congrArg Except.ok h)
  | error fault =>
    rw [hok] at h
    exact .inr h.symm

theorem resizeBacking_buffers (h : m.resizeBacking fileSize pool size = .ok m') :
    m'.buffers = m.buffers ∧ m'.pools = m.pools := by
  rcases resizeBacking_eq_ok h with ⟨_, rfl⟩ | ⟨_, _, _, rfl⟩
  · exact ⟨rfl, rfl⟩
  · exact ⟨rfl, rfl⟩

/-- A buffer that a call adds lies within its pool as it is then recorded. -/
theorem apply_buffers {id : Nat} (hok : call.apply m = .ok m')
    (hbuffer : m'.buffers.get? id = some buffer) :
    m.buffers.get? id = some buffer ∨ ∃ pool, m.pools.get? buffer.poolId = some pool ∧
      pool.backing = buffer.backing ∧ buffer.stop ≤ pool.size := by
  cases call with
  | createPoolFromFake other size =>
    obtain ⟨_, _, rfl⟩ := createPoolFromFake_eq_ok hok
    exact .inl hbuffer
  | createPoolFromFd other fd size =>
    obtain ⟨_, rfl⟩ := createPoolFromFd_eq_ok hok
    exact .inl hbuffer
  | destroyPool other =>
    simp only [ShmCall.apply, destroyPool] at hok
    split_ifs at hok
    cases hok
    exact .inl hbuffer
  | resizePool fileSize other requested =>
    obtain ⟨pool, resized, _, _, hresized, rfl⟩ := resizePool_eq_ok hok
    have hbuffers : resized.buffers.get? id = some buffer := hbuffer
    rw [(resizeBacking_buffers hresized).1] at hbuffers
    exact .inl hbuffers
  | createBuffer other poolId offset width height stride format =>
    obtain ⟨pool, hpool, _, _, hstop, rfl⟩ := createBuffer_eq_ok hok
    rw [OrdMap.get?_insert] at hbuffer
    split_ifs at hbuffer
    · obtain rfl := Option.some.inj hbuffer
      exact .inr ⟨pool, hpool, rfl, hstop⟩
    · exact .inl hbuffer
  | destroyBuffer other =>
    simp only [ShmCall.apply, destroyBuffer] at hok
    split_ifs at hok
    cases hok
    rw [OrdMap.get?_erase] at hbuffer
    split_ifs at hbuffer
    exact .inl hbuffer

/-- A pool that is still there after a call has its backing and no smaller size. -/
theorem apply_pools {id : Nat} {pool' : ShmPool} (hok : call.apply m = .ok m')
    (hpool : m.pools.get? id = some pool) (hpool' : m'.pools.get? id = some pool') :
    pool'.backing = pool.backing ∧ pool.size ≤ pool'.size := by
  have hkept : ∀ {other size : Nat} {storage : ShmPoolStorage},
      m.validateNewPool other size = .ok () →
      (m.insertPool other size storage).pools.get? id = some pool' → pool' = pool := by
    intro other size storage hvalid hinserted
    unfold validateNewPool at hvalid
    split_ifs at hvalid with _ hcontains
    have hne : id ≠ other := by
      intro heq
      rw [← heq] at hcontains
      exact hcontains (OrdMap.contains_iff.mpr ⟨pool, hpool⟩)
    have hsame := (OrdMap.get?_insert_ne _ _ hne).symm.trans hinserted
    exact Option.some.inj (hsame.symm.trans hpool)
  cases call with
  | createPoolFromFake other size =>
    obtain ⟨hvalid, _, rfl⟩ := createPoolFromFake_eq_ok hok
    obtain rfl := hkept hvalid hpool'
    exact ⟨rfl, le_rfl⟩
  | createPoolFromFd other fd size =>
    obtain ⟨hvalid, rfl⟩ := createPoolFromFd_eq_ok hok
    obtain rfl := hkept hvalid hpool'
    exact ⟨rfl, le_rfl⟩
  | destroyPool other =>
    simp only [ShmCall.apply, destroyPool] at hok
    split_ifs at hok
    cases hok
    rw [OrdMap.get?_erase] at hpool'
    split_ifs at hpool'
    obtain rfl := Option.some.inj (hpool'.symm.trans hpool)
    exact ⟨rfl, le_rfl⟩
  | resizePool fileSize other requested =>
    obtain ⟨old, resized, hold, hgrows, hresized, rfl⟩ := resizePool_eq_ok hok
    obtain ⟨before, hbefore, hbacking, hsize⟩ := withPoolSize_pools hpool'
    rw [(resizeBacking_buffers hresized).2] at hbefore
    obtain rfl := Option.some.inj (hbefore.symm.trans hpool)
    refine ⟨hbacking, ?_⟩
    rw [hsize]
    split_ifs with heq
    · rw [heq] at hpool
      obtain rfl := Option.some.inj (hold.symm.trans hpool)
      exact Nat.le_of_lt hgrows
    · exact le_rfl
  | createBuffer other poolId offset width height stride format =>
    obtain ⟨_, _, _, _, _, rfl⟩ := createBuffer_eq_ok hok
    obtain rfl := Option.some.inj (hpool'.symm.trans hpool)
    exact ⟨rfl, le_rfl⟩
  | destroyBuffer other =>
    simp only [ShmCall.apply, destroyBuffer] at hok
    split_ifs at hok
    cases hok
    obtain rfl := Option.some.inj (hpool'.symm.trans hpool)
    exact ⟨rfl, le_rfl⟩

/-- The sums and products that a call forms of its arguments and of what is counted. -/
def ShmCall.InRange (m : ShmManager) : ShmCall → Prop
  | createPoolFromFake _ size => m.fakeBackingBytes + size.toNat ≤ u64Max
  | resizePool _ id requestedSize => ∀ pool, m.pools.get? id = some pool →
    (∀ fd, m.backings.get? pool.backing ≠ some (.receivedFd fd)) →
      pool.size ≤ m.fakeBackingBytes ∧
        m.fakeBackingBytes - pool.size + requestedSize.toInt.toNat ≤ u64Max
  | createBuffer _ _ offset width height stride _ =>
    0 ≤ offset.toInt → 0 < width.toInt → 0 < height.toInt → 0 < stride.toInt →
      width.toInt * 4 ≤ u64Max ∧ stride.toInt * height.toInt ≤ u64Max ∧
        offset.toInt + stride.toInt * height.toInt ≤ u64Max
  | _ => True

theorem ShmManager.Sound.inRange (h : Sound m) (call : ShmCall) : call.InRange m := by
  have hmax : u64Max = 18446744073709551615 := rfl
  have hbytes : m.fakeBackingBytes ≤ 268435456 := h.bytes
  cases call with
  | createPoolFromFake id size =>
    have hsize := size.toNat_lt
    simp only [ShmCall.InRange]
    omega
  | resizePool fileSize id requestedSize =>
    intro pool hpool hfake
    have hsize := requestedSize.toInt_lt
    have hmem : pool.backing ∈ m.used := mem_used.mpr (.inl ⟨id, pool, hpool, rfl⟩)
    have hsum := Finset.single_le_sum (f := m.bytesOf) (fun _ _ => Nat.zero_le _) hmem
    rw [← fakeBackingBytes_eq, h.pool_bytes hpool hfake] at hsum
    omega
  | createBuffer id poolId offset width height stride format =>
    intro hoffset hwidth hheight hstride
    have hoffsetLt := offset.toInt_lt
    have hwidthLt := width.toInt_lt
    have hheightLt := height.toInt_lt
    have hstrideLt := stride.toInt_lt
    have hproduct : stride.toInt * height.toInt ≤ 2 ^ 31 * 2 ^ 31 :=
      Int.mul_le_mul hstrideLt.le hheightLt.le hheight.le (by decide)
    omega
  | createPoolFromFd id fd size => trivial
  | destroyPool id => trivial
  | destroyBuffer id => trivial

theorem apply_calm (m : ShmManager) (call : ShmCall) : Calm (call.apply m) := by
  cases call with
  | createPoolFromFake id size => exact createPoolFromFake_calm _ _ _
  | createPoolFromFd id fd size => exact createPoolFromFd_calm _ _ _ _
  | destroyPool id => exact destroyPool_calm _ _
  | resizePool fileSize id requestedSize => exact resizePool_calm _ _ _ _
  | createBuffer id poolId offset width height stride format =>
    exact createBuffer_calm _ _ _ _ _ _ _ _
  | destroyBuffer id => exact destroyBuffer_calm _ _

/-- A buffer as the calls have left it: within its pool as it was recorded when the buffer
was made, and within its backing as it is now if that is fake. -/
structure BufferSafe (calls : List ShmCall) (buffer : ShmBuffer) : Prop where
  width : 0 < buffer.width
  height : 0 < buffer.height
  offset : 0 ≤ buffer.offset
  recorded : ∃ before pool, before <+: calls ∧
    (runShm before).pools.get? buffer.poolId = some pool ∧ pool.backing = buffer.backing ∧
      buffer.stop ≤ pool.size
  backed : ∀ bytes, (runShm calls).backings.get? buffer.backing = some (.fakeMemory bytes) →
    buffer.stop ≤ bytes

theorem recorded_pool (calls : List ShmCall) {id : Nat}
    (h : (runShm calls).buffers.get? id = some buffer) :
    ∃ before pool, before <+: calls ∧ (runShm before).pools.get? buffer.poolId = some pool ∧
      pool.backing = buffer.backing ∧ buffer.stop ≤ pool.size := by
  induction calls using List.reverseRecOn with
  | nil => cases h
  | append_singleton calls call ih =>
    have hold : (runShm calls).buffers.get? id = some buffer ∨
        ∃ pool, (runShm calls).pools.get? buffer.poolId = some pool ∧
          pool.backing = buffer.backing ∧ buffer.stop ≤ pool.size := by
      rw [runShm_append] at h
      rcases ShmCall.after_eq rfl with hok | hsame
      · exact apply_buffers hok h
      · rw [hsame] at h
        exact .inl h
    rcases hold with hold | ⟨pool, hpool, hbacking, hstop⟩
    · obtain ⟨before, pool, hstart, hrest⟩ := ih hold
      exact ⟨before, pool, hstart.trans (List.prefix_append _ _), hrest⟩
    · exact ⟨calls, pool, List.prefix_append _ _, hpool, hbacking, hstop⟩

/-- Whatever calls the manager has had, successful or failing: its buffers are safe, its
counts and bytes are within the budgets, no pool shrinks by a further call, and no further
call overflows or panics. -/
theorem runShm_safe (calls : List ShmCall) :
    (∀ id buffer, (runShm calls).buffers.get? id = some buffer → BufferSafe calls buffer) ∧
      (runShm calls).fakeBackingBytes ≤ maxFakeShmTotalBytes ∧
      (runShm calls).pools.size ≤ maxShmPools ∧ (runShm calls).buffers.size ≤ maxShmBuffers ∧
      ∀ call, (∀ id pool pool', (runShm calls).pools.get? id = some pool →
          (runShm (calls ++ [call])).pools.get? id = some pool' → pool.size ≤ pool'.size) ∧
        call.InRange (runShm calls) ∧ Calm (call.apply (runShm calls)) := by
  have hsound := runShm_sound calls
  refine ⟨fun id buffer hbuffer => ?_, hsound.bytes, hsound.poolCount, hsound.bufferCount,
    fun call => ⟨fun id pool pool' hpool hpool' => ?_, hsound.inRange call, apply_calm _ _⟩⟩
  · obtain ⟨hwidth, hheight, _, hoffset⟩ := hsound.shapes id buffer hbuffer
    refine ⟨hwidth, hheight, hoffset, recorded_pool calls hbuffer, fun bytes hbytes => ?_⟩
    obtain ⟨_, storage, hstorage, hlength⟩ := hsound.buffers id buffer hbuffer
    rw [hstorage] at hbytes
    exact hlength bytes (Option.some.inj hbytes)
  · rw [runShm_append] at hpool'
    rcases ShmCall.after_eq rfl with hok | hsame
    · exact (apply_pools hok hpool hpool').2
    · rw [hsame] at hpool'
      obtain rfl := Option.some.inj (hpool'.symm.trans hpool)
      exact le_rfl

end TuffXwin.Headless
