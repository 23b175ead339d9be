import DyunGu.Core.Buffer
import DyunGu.Core.PoolOrder

namespace DyunGu
namespace Core

/-!
# What a pooled allocation returns

A hit returns what some earlier caller gave back.  The pool looks at the
domain, at the number of handles and at the size before it keeps a buffer, and
its rows are apart in size and alignment.  It asks neither for the device nor
whether the bytes can be read on the host.
-/

namespace MemoryPool

open PoolCache

/-- A call on a pool of real buffers.  The allocator below answers at some
moment. -/
inductive PoolCall where
  | allocate (desc : BufferDesc) (moment : Nat)
  | deallocate (stored : StoredBuffer) (answers : Nat -> Except BufferError Unit)

def PoolCall.call (allocator : Allocator) : PoolCall -> Call Backing BufferError
  | .allocate desc moment => .allocate desc ((allocator.allocate moment desc).map (·.buffer))
  | .deallocate stored answers => .deallocate stored.buffer answers

/-- The cache after some calls on a new pool. -/
def cacheAfter (config : MemoryPoolConfig) (allocator : Allocator) (calls : List PoolCall) :
    PoolCache Backing :=
  (machine config).after new (calls.map (PoolCall.call allocator))

def allocate (allocator : Allocator) (cache : PoolCache Backing) (desc : BufferDesc)
    (moment : Nat) : Except (MemoryError BufferError) (Buffer Backing) :=
  (cache.allocate desc ((allocator.allocate moment desc).map (·.buffer))).2

/-- A buffer like those of the allocator, as far as the pool does not ask. -/
structure Alike (allocator : Allocator) (buffer : Buffer Backing) : Prop where
  device : buffer.storage.device = allocator.device
  domain : buffer.domain = allocator.domain
  readable : buffer.isHostReadable = true

section Reuse

variable {config : MemoryPoolConfig} {allocator : Allocator} {calls : List PoolCall}

/-- What is in the cache was given back, and the pool may keep it. -/
theorem cached_given_back {key : CacheKey} {buffer : Buffer Backing}
    (cached : buffer ∈ (cacheAfter config allocator calls).byKey.slot key) :
    buffer.desc.key = key ∧ Kept config buffer ∧
      Exists fun stored => Exists fun answers =>
        PoolCall.deallocate stored answers ∈ calls ∧ stored.buffer = buffer := by
  rcases run_ordered config (calls.map (PoolCall.call allocator)) with
    ⟨plain, marked, items, runs, _, same, ordered⟩
  have isPlain : cacheAfter config allocator calls = plain := by
    unfold cacheAfter Machine.after
    rw [runs]
    rfl
  rw [isPlain, same.rows] at cached
  rcases List.mem_map.mp cached with ⟨item, inRow, isBuffer⟩
  rcases ordered.queue.mem.mp inRow with ⟨inItems, isKey⟩
  rcases ordered.returned item inItems with ⟨answers, isCall⟩
  have kept := ordered.kept item inItems
  rw [isBuffer] at kept isCall
  refine ⟨?_, kept, ?_⟩
  · rw [← isBuffer]
    exact isKey
  · rcases List.mem_map.mp (List.mem_of_getElem? isCall) with ⟨call, member, lowered⟩
    cases call with
    | allocate desc moment => cases lowered
    | deallocate stored given =>
        cases lowered
        exact ⟨stored, answers, member, rfl⟩

theorem desc_of_key {first second : BufferDesc} (same : first.key = second.key) :
    first = second := by
  cases first
  cases second
  cases same
  rfl

/-- A hit is some buffer of the description that was given back. -/
theorem hit_given_back {desc : BufferDesc} {taken : PoolCache Backing} {buffer : Buffer Backing}
    (hit : (cacheAfter config allocator calls).takeCached desc = (taken, some buffer)) :
    buffer.desc = desc ∧ Kept config buffer ∧
      Exists fun stored => Exists fun answers =>
        PoolCall.deallocate stored answers ∈ calls ∧ stored.buffer = buffer := by
  have inRow : buffer ∈ (cacheAfter config allocator calls).byKey.slot desc.key := by
    unfold takeCached at hit
    split at hit
    · cases hit
    · rename_i last isLast
      cases hit
      exact List.mem_of_getLast? isLast
  rcases cached_given_back inRow with ⟨isKey, returned⟩
  exact ⟨desc_of_key isKey, returned⟩

/-- A hit serves the caller if everything of a non-zero alignment that the pool
was offered and may keep is like what its allocator makes. -/
theorem hit_serves {desc : BufferDesc} {taken : PoolCache Backing} {buffer : Buffer Backing}
    (alike : forall stored answers, PoolCall.deallocate stored answers ∈ calls ->
      Kept config stored.buffer -> stored.buffer.desc.align ≠ 0 -> Alike allocator stored.buffer)
    (aligned : desc.align ≠ 0)
    (hit : (cacheAfter config allocator calls).takeCached desc = (taken, some buffer)) :
    Serves allocator.device allocator.domain desc buffer := by
  rcases hit_given_back hit with ⟨isDesc, kept, stored, answers, member, isStored⟩
  rw [← isStored] at kept isDesc ⊢
  have like := alike stored answers member kept (isDesc ▸ aligned)
  have length := stored.length_of_readable like.readable
  rw [isDesc] at length
  exact ⟨isDesc, like.device, like.domain, like.readable, length⟩

/-- What is allocated is a hit or comes from the allocator. -/
theorem allocate_source {cache : PoolCache Backing} {desc : BufferDesc} {moment : Nat}
    {buffer : Buffer Backing} (allocated : allocate allocator cache desc moment = .ok buffer) :
    desc.align ≠ 0 ∧
      ((Exists fun taken => cache.takeCached desc = (taken, some buffer)) ∨
        Exists fun stored => allocator.allocate moment desc = .ok stored ∧
          stored.buffer = buffer) := by
  unfold allocate PoolCache.allocate at allocated
  split at allocated
  · cases allocated
  · rename_i aligned
    refine ⟨aligned, ?_⟩
    split at allocated
    · rename_i taken found hit
      cases allocated
      exact Or.inl ⟨taken, hit⟩
    · cases fresh : allocator.allocate moment desc with
      | error error =>
          rw [fresh] at allocated
          cases allocated
      | ok stored =>
          rw [fresh] at allocated
          cases allocated
          exact Or.inr ⟨stored, rfl, rfl⟩

/-- Whatever the pool was offered, what it allocates has the description that
was asked for. -/
theorem allocate_desc {desc : BufferDesc} {moment : Nat} {buffer : Buffer Backing}
    (allocated : allocate allocator (cacheAfter config allocator calls) desc moment = .ok buffer) :
    buffer.desc = desc := by
  rcases (allocate_source allocated).2 with ⟨taken, hit⟩ | ⟨stored, fresh, rfl⟩
  · exact (hit_given_back hit).1
  · exact (allocator.produces moment desc stored fresh).isDesc

end Reuse

/-- In every run in which the buffers that the pool is offered, and whose
domain, handles, size and alignment let it keep and reuse them, are like those
of its allocator, an allocation fails or is as good as a fresh one. -/
theorem pooled_as_fresh (config : MemoryPoolConfig) (allocator : Allocator)
    (calls : List PoolCall)
    (alike : forall stored answers, PoolCall.deallocate stored answers ∈ calls ->
      Kept config stored.buffer -> stored.buffer.desc.align ≠ 0 -> Alike allocator stored.buffer)
    (desc : BufferDesc) (moment : Nat) (buffer : Buffer Backing)
    (allocated : allocate allocator (cacheAfter config allocator calls) desc moment = .ok buffer) :
    Serves allocator.device allocator.domain desc buffer := by
  rcases allocate_source allocated with ⟨aligned, ⟨taken, hit⟩ | ⟨stored, fresh, rfl⟩⟩
  · exact hit_serves alike aligned hit
  · exact allocator.produces moment desc stored fresh

/-- Host memory of a graphics device. -/
def gpuBuffer : StoredBuffer := StoredBuffer.ofHost .intelGpu ⟨8, 1⟩ (List.replicate 8 0) rfl

/-- Memory of somebody else that is declared to be host memory. -/
def foreignBuffer : StoredBuffer := StoredBuffer.fromExternal .cpu .host ⟨8, 1⟩ (.fromRaw 1)

def cpuBuffer : StoredBuffer := StoredBuffer.ofHost .cpu ⟨8, 1⟩ (List.replicate 8 0) rfl

def plenty : Allocator := cpuAllocator fun _ => true

def returns (stored : StoredBuffer) : PoolCall := .deallocate stored fun _ => .ok ()

/-- The pool of the processor hands out a buffer of another device, and one
without bytes. -/
theorem foreign_buffers_reused :
    (Exists fun buffer =>
      allocate plenty (cacheAfter MemoryPoolConfig.default plenty [returns gpuBuffer]) ⟨8, 1⟩ 0 =
        .ok buffer ∧ ¬ Serves plenty.device plenty.domain ⟨8, 1⟩ buffer) ∧
    Exists fun buffer =>
      allocate plenty (cacheAfter MemoryPoolConfig.default plenty [returns foreignBuffer])
        ⟨8, 1⟩ 0 = .ok buffer ∧ ¬ Serves plenty.device plenty.domain ⟨8, 1⟩ buffer := by
  refine ⟨⟨gpuBuffer.buffer, by decide +kernel, ?_⟩, foreignBuffer.buffer, by decide +kernel, ?_⟩
  · intro serves
    exact absurd serves.isDevice (by decide)
  · intro serves
    exact absurd serves.readable (by decide)

/-- A buffer of the processor is kept and comes back as good as new. -/
theorem cpuBuffer_reused :
    Exists fun buffer =>
      allocate plenty (cacheAfter MemoryPoolConfig.default plenty [returns cpuBuffer]) ⟨8, 1⟩ 0 =
        .ok buffer ∧ Serves .cpu .host ⟨8, 1⟩ buffer := by
  refine ⟨cpuBuffer.buffer, by decide +kernel, ?_⟩
  refine pooled_as_fresh MemoryPoolConfig.default plenty [returns cpuBuffer] ?_ _ 0 _
    (by decide +kernel)
  intro stored answers member _ _
  cases List.mem_singleton.mp member
  exact ⟨rfl, rfl, rfl⟩

end MemoryPool
end Core
end DyunGu
