import DyunGu.Lib.Machine
import DyunGu.Lib.Slots
import Mathlib.Algebra.Order.BigOperators.Group.List
import Mathlib.Algebra.Order.Ring.Nat

namespace DyunGu
namespace Core

/-!
# The memory pool

A cache of host buffers that were given back, in one row for each size and
alignment, with a list of keys in the order in which their buffers came in and
two running totals.  One call holds the lock of the cache throughout, so calls
are steps.  The allocator below the pool is part of the environment: its
answers are arguments.
-/

def usizeMax : Nat := UInt64.size - 1

def saturatingAdd (first second : Nat) : Nat := min (first + second) usizeMax

structure BufferDesc where
  sizeBytes : Nat
  align : Nat
deriving DecidableEq, Repr

inductive MemoryDomain where
  | host
  | dmaBuf
  | drmPrime
  | vaapiSurface
  | cudaDevice
  | mppBuffer
  | sophonDevice
  | opaqueDomain
deriving DecidableEq, Repr

/-- A buffer with what the pool looks at; its storage and its device are of
type `S`. -/
structure Buffer (S : Type) where
  domain : MemoryDomain
  desc : BufferDesc
  refCount : Nat
  storage : S
deriving DecidableEq, Repr

/-- Size and alignment. -/
abbrev CacheKey := Nat × Nat

def BufferDesc.key (desc : BufferDesc) : CacheKey := (desc.sizeBytes, desc.align)

/-- An error of the pool itself, or one of the allocator below it. -/
inductive MemoryError (E : Type) where
  | invalidArgument (message : String)
  | allocator (error : E)
deriving DecidableEq, Repr

structure MemoryPoolConfig where
  maxCachedBytes : Nat
  maxCachedEntries : Nat
  maxPerDescriptor : Nat
deriving DecidableEq, Repr

namespace MemoryPoolConfig

def default : MemoryPoolConfig := ⟨256 * 1024 * 1024, 256, 16⟩

def validate (config : MemoryPoolConfig) : Except (MemoryError Empty) Unit :=
  if config.maxCachedBytes = 0 then
    .error (.invalidArgument "max_cached_bytes must be > 0")
  else if config.maxCachedEntries = 0 then
    .error (.invalidArgument "max_cached_entries must be > 0")
  else if config.maxPerDescriptor = 0 then
    .error (.invalidArgument "max_per_descriptor must be > 0")
  else .ok ()

example : default.validate = .ok () := rfl

end MemoryPoolConfig

/-- The first key of `lru` belongs to the buffer that came in first. -/
structure PoolCache (S : Type) where
  byKey : Slots CacheKey (Buffer S)
  lru : List CacheKey
  totalEntries : Nat
  totalBytes : Nat

/-- What comes of the loop that makes room. -/
inductive Room (E : Type) where
  | free
  | nothingLeft (calls : Nat)
  | failed (error : E)
deriving DecidableEq, Repr

namespace PoolCache

variable {S E : Type}

def new : PoolCache S := ⟨∅, [], 0, 0⟩

/-- The list without the last occurrence of a key. -/
def eraseLast (key : CacheKey) (lru : List CacheKey) : List CacheKey :=
  (lru.reverse.erase key).reverse

/-- The youngest buffer of the description. -/
def takeCached (cache : PoolCache S) (desc : BufferDesc) : PoolCache S × Option (Buffer S) :=
  match (cache.byKey.slot desc.key).getLast? with
  | none => (cache, none)
  | some buffer =>
      ({ byKey := cache.byKey.setSlot desc.key (cache.byKey.slot desc.key).dropLast
         lru := eraseLast desc.key cache.lru
         totalEntries := cache.totalEntries - 1
         totalBytes := cache.totalBytes - desc.sizeBytes }, some buffer)

/-- The bound of one row: its oldest buffers go, as often as the row would
overflow. -/
def evictKey (key : CacheKey) : Nat -> PoolCache S -> PoolCache S
  | 0, cache => cache
  | count + 1, cache =>
      match cache.byKey.slot key with
      | [] => cache
      | evicted :: others =>
          evictKey key count
            { byKey := cache.byKey.setSlot key others
              lru := cache.lru.erase key
              totalEntries := cache.totalEntries - 1
              totalBytes := cache.totalBytes - evicted.desc.sizeBytes }

def full (config : MemoryPoolConfig) (size : Nat) (cache : PoolCache S) : Bool :=
  decide (config.maxCachedEntries <= cache.totalEntries) ||
    decide (config.maxCachedBytes < saturatingAdd cache.totalBytes size)

/-- Evict from the front of the list of keys until there is room.  The
recursion is on that list; a key without a buffer is passed over. -/
def makeRoom (config : MemoryPoolConfig) (size : Nat) (answers : Nat -> Except E Unit) :
    List CacheKey -> Nat -> PoolCache S -> PoolCache S × Room E
  | [], calls, cache =>
      if full config size cache then (cache, .nothingLeft calls) else (cache, .free)
  | key :: lru, calls, cache =>
      if full config size cache then
        match cache.byKey.slot key with
        | [] =>
            makeRoom config size answers lru calls
              { cache with byKey := cache.byKey.erase key, lru := lru }
        | evicted :: others =>
            let next : PoolCache S :=
              { byKey := cache.byKey.setSlot key others
                lru := lru
                totalEntries := cache.totalEntries - 1
                totalBytes := cache.totalBytes - evicted.desc.sizeBytes }
            match answers calls with
            | .error error => (next, .failed error)
            | .ok () => makeRoom config size answers lru (calls + 1) next
      else (cache, .free)

def give (cache : PoolCache S) (buffer : Buffer S) : PoolCache S where
  byKey := cache.byKey.setSlot buffer.desc.key (cache.byKey.slot buffer.desc.key ++ [buffer])
  lru := cache.lru ++ [buffer.desc.key]
  totalEntries := cache.totalEntries + 1
  totalBytes := saturatingAdd cache.totalBytes buffer.desc.sizeBytes

/-- How many buffers of the row of a key have to go before one more comes in. -/
def overflow (config : MemoryPoolConfig) (cache : PoolCache S) (key : CacheKey) : Nat :=
  (cache.byKey.slot key).length + 1 - config.maxPerDescriptor

/-- Give a buffer back.  `answers` are what the allocator says to the calls
whose result is looked at. -/
def pushCached (config : MemoryPoolConfig) (cache : PoolCache S) (buffer : Buffer S)
    (answers : Nat -> Except E Unit) : PoolCache S × Except E Unit :=
  if config.maxCachedBytes < buffer.desc.sizeBytes then (cache, answers 0)
  else
    let trimmed := evictKey buffer.desc.key (overflow config cache buffer.desc.key) cache
    match makeRoom config buffer.desc.sizeBytes answers trimmed.lru 0 trimmed with
    | (roomy, .free) => (roomy.give buffer, .ok ())
    | (emptied, .nothingLeft calls) => (emptied, answers calls)
    | (stopped, .failed error) => (stopped, .error error)

def allocate (cache : PoolCache S) (desc : BufferDesc) (answer : Except E (Buffer S)) :
    PoolCache S × Except (MemoryError E) (Buffer S) :=
  if desc.align = 0 then
    (cache, .error (.invalidArgument "buffer alignment must be non-zero"))
  else
    match cache.takeCached desc with
    | (taken, some buffer) => (taken, .ok buffer)
    | (same, none) => (same, answer.mapError .allocator)

/-- Only host buffers that nobody else holds are kept. -/
def deallocate (config : MemoryPoolConfig) (cache : PoolCache S) (buffer : Buffer S)
    (answers : Nat -> Except E Unit) : PoolCache S × Except E Unit :=
  if buffer.domain ≠ .host ∨ buffer.refCount ≠ 1 then (cache, answers 0)
  else cache.pushCached config buffer answers

/-- One call on the pool. -/
inductive Call (S E : Type) where
  | allocate (desc : BufferDesc) (answer : Except E (Buffer S))
  | deallocate (buffer : Buffer S) (answers : Nat -> Except E Unit)

def machine (config : MemoryPoolConfig) : Machine (PoolCache S) (Call S E) where
  step
    | cache, .allocate desc answer => some (cache.allocate desc answer).1
    | cache, .deallocate buffer answers => some (cache.deallocate config buffer answers).1

/-! ## Consistency -/

/-- The list of keys and the totals are those of the buffers in the rows. -/
structure Consistent (cache : PoolCache S) : Prop where
  keyed : forall key buffer, buffer ∈ cache.byKey.slot key -> buffer.desc.key = key
  order : cache.lru.Perm (cache.byKey.all.map fun buffer => buffer.desc.key)
  entries : cache.totalEntries = cache.byKey.all.length
  bytes : cache.totalBytes = (cache.byKey.all.map fun buffer => buffer.desc.sizeBytes).sum

/-- The limits of the configuration. -/
structure Within (config : MemoryPoolConfig) (cache : PoolCache S) : Prop where
  entries : cache.totalEntries <= config.maxCachedEntries
  bytes : cache.totalBytes <= config.maxCachedBytes
  perDescriptor : forall key, (cache.byKey.slot key).length <= config.maxPerDescriptor

theorem Consistent.new : Consistent (new : PoolCache S) where
  keyed := fun _ _ impossible => by cases impossible
  order := List.Perm.refl _
  entries := rfl
  bytes := rfl

theorem Within.new (config : MemoryPoolConfig) : Within config (new : PoolCache S) where
  entries := Nat.zero_le _
  bytes := Nat.zero_le _
  perDescriptor := fun _ => Nat.zero_le _

section Take

variable {cache : PoolCache S} {key : CacheKey} {buffer : Buffer S} {items : List (Buffer S)}
  {lru : List CacheKey}

/-- The cache without one buffer of a row. -/
def without (cache : PoolCache S) (key : CacheKey) (items : List (Buffer S))
    (lru : List CacheKey) (size : Nat) : PoolCache S where
  byKey := cache.byKey.setSlot key items
  lru := lru
  totalEntries := cache.totalEntries - 1
  totalBytes := cache.totalBytes - size

theorem Consistent.key_eq (consistent : Consistent cache)
    (row : (cache.byKey.slot key).Perm (buffer :: items)) : buffer.desc.key = key :=
  consistent.keyed key buffer (row.mem_iff.mpr List.mem_cons_self)

/-- Taking one buffer, whichever way its key leaves the list. -/
theorem Consistent.without (consistent : Consistent cache)
    (row : (cache.byKey.slot key).Perm (buffer :: items)) (leaves : cache.lru.Perm (key :: lru)) :
    Consistent (cache.without key items lru buffer.desc.sizeBytes) := by
  have isKey := consistent.key_eq row
  have whole := Slots.all_take row
  constructor
  · intro other kept member
    show kept.desc.key = other
    change kept ∈ Slots.slot other (cache.byKey.setSlot key items) at member
    rw [Slots.slot_setSlot] at member
    split at member
    · rename_i same
      exact same ▸ consistent.keyed key kept (row.mem_iff.mpr (List.mem_cons_of_mem _ member))
    · exact consistent.keyed other kept member
  · have mapped := whole.map fun buffer => buffer.desc.key
    rw [List.map_cons, isKey] at mapped
    exact (leaves.symm.trans (consistent.order.trans mapped)).cons_inv
  · show cache.totalEntries - 1 = _
    rw [consistent.entries, whole.length_eq, List.length_cons, Nat.add_sub_cancel]
    rfl
  · show cache.totalBytes - buffer.desc.sizeBytes = _
    have mapped := whole.map fun buffer => buffer.desc.sizeBytes
    rw [consistent.bytes, mapped.sum_eq, List.map_cons, List.sum_cons, Nat.add_sub_cancel_left]
    rfl

theorem Within.without {config : MemoryPoolConfig} (within : Within config cache)
    (row : (cache.byKey.slot key).Perm (buffer :: items)) (lru : List CacheKey) (size : Nat) :
    Within config (cache.without key items lru size) := by
  constructor
  · exact (Nat.sub_le _ _).trans within.entries
  · exact (Nat.sub_le _ _).trans within.bytes
  · intro other
    show (Slots.slot other (cache.byKey.setSlot key items)).length <= _
    rw [Slots.slot_setSlot]
    split
    · have length := row.length_eq
      have bound := within.perDescriptor key
      rw [List.length_cons] at length
      omega
    · exact within.perDescriptor other

/-- A key in the list has a buffer in its row. -/
theorem Consistent.slot_of_mem (consistent : Consistent cache) (member : key ∈ cache.lru) :
    cache.byKey.slot key ≠ [] := by
  intro empty
  rcases List.mem_map.mp (consistent.order.mem_iff.mp member) with ⟨buffer, isCached, isKey⟩
  rcases Slots.mem_all.mp isCached with ⟨other, inRow⟩
  have same := consistent.keyed other buffer inRow
  rw [isKey] at same
  rw [← same, empty] at inRow
  cases inRow

theorem Consistent.mem_lru (consistent : Consistent cache)
    (row : (cache.byKey.slot key).Perm (buffer :: items)) : key ∈ cache.lru := by
  apply consistent.order.mem_iff.mpr
  refine List.mem_map.mpr ⟨buffer, ?_, consistent.key_eq row⟩
  exact Slots.mem_all.mpr ⟨key, row.mem_iff.mpr List.mem_cons_self⟩

end Take

theorem eraseLast_perm {key : CacheKey} {lru : List CacheKey} (member : key ∈ lru) :
    lru.Perm (key :: eraseLast key lru) := by
  have inReverse : key ∈ lru.reverse := List.mem_reverse.mpr member
  have erased := List.perm_cons_erase inReverse
  have turned := (lru.reverse.erase key).reverse_perm
  exact (lru.reverse_perm.symm.trans erased).trans (turned.symm.cons key)

/-! ## What each part of a call does -/

/-- No row and no total has grown. -/
structure Shrinks (before after : PoolCache S) : Prop where
  bytes : after.totalBytes <= before.totalBytes
  rows : forall key, (after.byKey.slot key).length <= (before.byKey.slot key).length

theorem Shrinks.refl (cache : PoolCache S) : Shrinks cache cache :=
  ⟨Nat.le_refl _, fun _ => Nat.le_refl _⟩

theorem Shrinks.trans {first second third : PoolCache S} (early : Shrinks first second)
    (late : Shrinks second third) : Shrinks first third :=
  ⟨late.bytes.trans early.bytes, fun key => (late.rows key).trans (early.rows key)⟩

theorem Shrinks.without {cache : PoolCache S} {key : CacheKey} {buffer : Buffer S}
    {items : List (Buffer S)} (row : (cache.byKey.slot key).Perm (buffer :: items))
    (lru : List CacheKey) (size : Nat) : Shrinks cache (cache.without key items lru size) := by
  refine ⟨Nat.sub_le _ _, fun other => ?_⟩
  show (Slots.slot other (cache.byKey.setSlot key items)).length <= _
  rw [Slots.slot_setSlot]
  split
  · rename_i same
    rw [← same, row.length_eq, List.length_cons]
    exact Nat.le_succ _
  · exact Nat.le_refl _

/-- The invariant of a pool. -/
def Sound (config : MemoryPoolConfig) (cache : PoolCache S) : Prop :=
  Consistent cache ∧ Within config cache

theorem takeCached_sound {config : MemoryPoolConfig} {cache : PoolCache S}
    (sound : Sound config cache) (desc : BufferDesc) :
    Sound config (cache.takeCached desc).1 := by
  unfold takeCached
  split
  · exact sound
  · rename_i buffer last
    have isLast := List.dropLast_append_getLast? buffer last
    have row : (cache.byKey.slot desc.key).Perm
        (buffer :: (cache.byKey.slot desc.key).dropLast) := by
      rw [← isLast, List.dropLast_concat]
      exact List.perm_append_singleton buffer _
    have size : buffer.desc.sizeBytes = desc.sizeBytes :=
      congrArg Prod.fst (sound.1.key_eq row)
    rw [← size]
    exact ⟨sound.1.without row (eraseLast_perm (sound.1.mem_lru row)), sound.2.without row _ _⟩

/-- The bound of one row. -/
theorem evictKey_spec {config : MemoryPoolConfig} {cache : PoolCache S}
    (sound : Sound config cache) (key : CacheKey) (count : Nat) :
    Sound config (evictKey key count cache) ∧ Shrinks cache (evictKey key count cache) ∧
      ((evictKey key count cache).byKey.slot key).length =
        (cache.byKey.slot key).length - count := by
  induction count generalizing cache with
  | zero => exact ⟨sound, Shrinks.refl cache, rfl⟩
  | succ count ih =>
      unfold evictKey
      split
      · rename_i empty
        refine ⟨sound, Shrinks.refl cache, ?_⟩
        rw [empty, List.length_nil, Nat.zero_sub]
      · rename_i evicted others isRow
        have row : (cache.byKey.slot key).Perm (evicted :: others) := isRow ▸ List.Perm.refl _
        have leaves := List.perm_cons_erase (sound.1.mem_lru row)
        have next : Sound config
            (cache.without key others (cache.lru.erase key) evicted.desc.sizeBytes) :=
          ⟨sound.1.without row leaves, sound.2.without row _ _⟩
        rcases ih next with ⟨later, shrinks, length⟩
        refine ⟨later, (Shrinks.without row _ _).trans shrinks, length.trans ?_⟩
        show (Slots.slot key (cache.byKey.setSlot key others)).length - count = _
        rw [Slots.slot_setSlot, if_pos rfl, isRow, List.length_cons, Nat.add_sub_add_right]

/-- The loop that makes room ends, and when it ends well there is room. -/
theorem makeRoom_spec {config : MemoryPoolConfig} (size : Nat) (answers : Nat -> Except E Unit)
    {lru : List CacheKey} (calls : Nat) {cache : PoolCache S} (isLru : cache.lru = lru)
    (sound : Sound config cache) :
    Sound config (makeRoom config size answers lru calls cache).1 ∧
      Shrinks cache (makeRoom config size answers lru calls cache).1 ∧
      ((makeRoom config size answers lru calls cache).2 = .free ->
        full config size (makeRoom config size answers lru calls cache).1 = false) := by
  induction lru generalizing calls cache with
  | nil =>
      unfold makeRoom
      split
      · exact ⟨sound, Shrinks.refl cache, fun impossible => by cases impossible⟩
      · rename_i room
        exact ⟨sound, Shrinks.refl cache, fun _ => Bool.not_eq_true _ ▸ room⟩
  | cons key lru ih =>
      unfold makeRoom
      split
      · split
        · rename_i empty
          refine absurd empty (sound.1.slot_of_mem ?_)
          rw [isLru]
          exact List.mem_cons_self
        · rename_i evicted others isRow
          have row : (cache.byKey.slot key).Perm (evicted :: others) := isRow ▸ List.Perm.refl _
          have leaves : cache.lru.Perm (key :: lru) := isLru ▸ List.Perm.refl _
          have next : Sound config (cache.without key others lru evicted.desc.sizeBytes) :=
            ⟨sound.1.without row leaves, sound.2.without row _ _⟩
          have smaller := Shrinks.without row lru evicted.desc.sizeBytes
          dsimp only
          split
          · exact ⟨next, smaller, fun impossible => by cases impossible⟩
          · rcases ih (calls + 1) rfl next with ⟨later, shrinks, room⟩
            exact ⟨later, smaller.trans shrinks, room⟩
      · rename_i room
        exact ⟨sound, Shrinks.refl cache, fun _ => Bool.not_eq_true _ ▸ room⟩

theorem give_sound {config : MemoryPoolConfig} {cache : PoolCache S} {buffer : Buffer S}
    (sound : Sound config cache) (entries : cache.totalEntries < config.maxCachedEntries)
    (exact_ : saturatingAdd cache.totalBytes buffer.desc.sizeBytes =
      cache.totalBytes + buffer.desc.sizeBytes)
    (bytes : cache.totalBytes + buffer.desc.sizeBytes <= config.maxCachedBytes)
    (row : (cache.byKey.slot buffer.desc.key).length < config.maxPerDescriptor) :
    Sound config (cache.give buffer) := by
  have whole := Slots.all_give buffer.desc.key buffer cache.byKey
  constructor
  · constructor
    · intro key kept member
      change kept ∈ Slots.slot key (cache.byKey.setSlot buffer.desc.key _) at member
      rw [Slots.slot_setSlot] at member
      split at member
      · rename_i same
        rcases List.mem_append.mp member with old | isBuffer
        · exact same ▸ sound.1.keyed _ kept old
        · rw [List.mem_singleton.mp isBuffer]
          exact same
      · exact sound.1.keyed key kept member
    · have mapped := whole.map fun buffer => buffer.desc.key
      have moved := List.perm_append_singleton buffer.desc.key cache.lru
      exact moved.trans ((sound.1.order.cons _).trans mapped.symm)
    · show cache.totalEntries + 1 = _
      rw [sound.1.entries, ← List.length_cons, ← whole.length_eq]
      rfl
    · show saturatingAdd cache.totalBytes buffer.desc.sizeBytes = _
      have mapped := whole.map fun buffer => buffer.desc.sizeBytes
      rw [exact_, sound.1.bytes, Nat.add_comm]
      exact mapped.sum_eq.symm
  · constructor
    · exact entries
    · show saturatingAdd cache.totalBytes buffer.desc.sizeBytes <= _
      rw [exact_]
      exact bytes
    · intro key
      show (Slots.slot key (cache.byKey.setSlot buffer.desc.key _)).length <= _
      rw [Slots.slot_setSlot]
      split
      · rw [List.length_append, List.length_singleton]
        exact row
      · exact sound.2.perDescriptor key

/-! ## Runs -/

/-- The sum of the cached bytes and of a buffer that is given back can be
represented, or is told from the limit when it cannot. -/
def Representable (config : MemoryPoolConfig) (cache : PoolCache S) : Call S E -> Prop
  | .allocate _ _ => True
  | .deallocate buffer _ =>
      config.maxCachedBytes < usizeMax ∨
        cache.totalBytes + buffer.desc.sizeBytes <= usizeMax

instance (config : MemoryPoolConfig) (cache : PoolCache S) (call : Call S E) :
    Decidable (Representable config cache call) :=
  match call with
  | .allocate _ _ => isTrue trivial
  | .deallocate _ _ => inferInstanceAs (Decidable (_ ∨ _))

theorem saturatingAdd_eq {config : MemoryPoolConfig} {before cache : PoolCache S} {size : Nat}
    (representable : config.maxCachedBytes < usizeMax ∨ before.totalBytes + size <= usizeMax)
    (shrinks : Shrinks before cache)
    (fits : saturatingAdd cache.totalBytes size <= config.maxCachedBytes) :
    saturatingAdd cache.totalBytes size = cache.totalBytes + size := by
  have smaller := shrinks.bytes
  unfold saturatingAdd at fits ⊢
  omega

theorem pushCached_sound {config : MemoryPoolConfig} (perDescriptor : 0 < config.maxPerDescriptor)
    {cache : PoolCache S} (sound : Sound config cache) (buffer : Buffer S)
    (answers : Nat -> Except E Unit)
    (representable : config.maxCachedBytes < usizeMax ∨
      cache.totalBytes + buffer.desc.sizeBytes <= usizeMax) :
    Sound config (cache.pushCached config buffer answers).1 := by
  unfold pushCached
  split
  · exact sound
  · rcases evictKey_spec sound buffer.desc.key (overflow config cache buffer.desc.key) with
      ⟨trimmed, shrinks, length⟩
    dsimp only
    generalize evictKey buffer.desc.key (overflow config cache buffer.desc.key) cache = short
      at trimmed shrinks length ⊢
    have spec := makeRoom_spec buffer.desc.sizeBytes answers 0 rfl trimmed
    split
    · rename_i roomy made
      rw [made] at spec
      rcases spec with ⟨later, shrinksMore, room⟩
      have isFree := room rfl
      unfold full at isFree
      rw [Bool.or_eq_false_iff, decide_eq_false_iff_not, decide_eq_false_iff_not, Nat.not_le,
        Nat.not_lt] at isFree
      have shrunk := shrinks.trans shrinksMore
      have sum := saturatingAdd_eq representable shrunk isFree.2
      have row : (roomy.byKey.slot buffer.desc.key).length <=
          (short.byKey.slot buffer.desc.key).length := shrinksMore.rows buffer.desc.key
      unfold overflow at length
      refine give_sound later isFree.1 sum (sum ▸ isFree.2) ?_
      omega
    · rename_i emptied calls made
      rw [made] at spec
      exact spec.1
    · rename_i stopped error made
      rw [made] at spec
      exact spec.1

theorem step_sound {config : MemoryPoolConfig} (perDescriptor : 0 < config.maxPerDescriptor)
    {cache next : PoolCache S} {call : Call S E} (sound : Sound config cache)
    (representable : Representable config cache call)
    (stepped : (machine config).step cache call = some next) : Sound config next := by
  cases call with
  | allocate desc answer =>
      cases stepped
      have taken := takeCached_sound sound desc
      unfold allocate
      split
      · exact sound
      · split
        · rename_i rest buffer found
          rw [found] at taken
          exact taken
        · rename_i rest found
          rw [found] at taken
          exact taken
  | deallocate buffer answers =>
      cases stepped
      unfold deallocate
      split
      · exact sound
      · exact pushCached_sound perDescriptor sound buffer answers representable

/-- In every run of a pool with room for one buffer in a row, the totals and
the list of keys are those of the cached buffers, and the limits hold. -/
theorem run_sound {config : MemoryPoolConfig} (perDescriptor : 0 < config.maxPerDescriptor)
    {calls : List (Call S E)} {cache : PoolCache S}
    (representable : (machine config).Meets (Representable config) new calls)
    (reached : (machine config).run new calls = some cache) :
    cache.totalEntries = cache.byKey.all.length ∧
    cache.totalBytes = (cache.byKey.all.map fun buffer => buffer.desc.sizeBytes).sum ∧
    cache.lru.Perm (cache.byKey.all.map fun buffer => buffer.desc.key) ∧
    cache.totalEntries <= config.maxCachedEntries ∧
    cache.totalBytes <= config.maxCachedBytes ∧
    forall key, (cache.byKey.slot key).length <= config.maxPerDescriptor ∧
      forall buffer, buffer ∈ cache.byKey.slot key -> buffer.desc.key = key := by
  have sound : Sound config cache :=
    (machine config).run_invariant_of_meets (Sound config)
      (fun _ _ _ sound representable stepped =>
        step_sound perDescriptor sound representable stepped)
      ⟨Consistent.new, Within.new config⟩ representable reached
  exact ⟨sound.1.entries, sound.1.bytes, sound.1.order, sound.2.entries, sound.2.bytes,
    fun key => ⟨sound.2.perDescriptor key, sound.1.keyed key⟩⟩

/-- A host buffer that nobody else holds. -/
def hostBuffer (size : Nat) : Buffer Unit := ⟨.host, ⟨size, 1⟩, 1, ()⟩

def giveBack (size : Nat) : Call Unit Empty := .deallocate (hostBuffer size) fun _ => .ok ()

def narrow : MemoryPoolConfig := ⟨100, 2, 1⟩

/-- Two buffers of one size, one of another that has no room beside them, and
a use of it. -/
def mixedCalls : List (Call Unit Empty) :=
  [giveBack 40, giveBack 40, giveBack 70, .allocate ⟨70, 1⟩ (.ok (hostBuffer 70)), giveBack 8]

theorem mixedCalls_sound :
    Exists fun cache =>
      (machine narrow).run new mixedCalls = some cache ∧ cache.totalBytes = 8 ∧
      cache.totalBytes = (cache.byKey.all.map fun buffer => buffer.desc.sizeBytes).sum ∧
      cache.lru.Perm (cache.byKey.all.map fun buffer => buffer.desc.key) := by
  have representable : (machine narrow).Meets (Representable narrow) new mixedCalls := by
    decide +kernel
  have sound := run_sound (by decide) representable rfl
  exact ⟨_, rfl, rfl, sound.2.1, sound.2.2.1⟩

/-- A row keeps one buffer where the configuration admits none, and the total
stops at the largest number while the buffers do not. -/
theorem limits_exceeded :
    (Exists fun cache => (machine ⟨100, 2, 0⟩).run new [giveBack 40] = some cache ∧
      ¬ (cache.byKey.slot (40, 1)).length <= 0) ∧
    Exists fun cache =>
      (machine ⟨usizeMax, 2, 2⟩).run new [giveBack (2 ^ 63), giveBack (2 ^ 63)] = some cache ∧
        cache.totalBytes ≠ (cache.byKey.all.map fun buffer => buffer.desc.sizeBytes).sum := by
  refine ⟨⟨_, rfl, ?_⟩, _, rfl, ?_⟩
  · decide
  · decide

end PoolCache
end Core
end DyunGu
