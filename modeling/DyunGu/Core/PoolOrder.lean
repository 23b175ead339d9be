import DyunGu.Core.Memory
import DyunGu.Lib.Arrivals
import Mathlib.Data.List.Induction

namespace DyunGu
namespace Core
namespace PoolCache

/-!
# The order in which the pool lets go

The pool keeps its buffers in rows and only their keys in order of arrival.  To
say which of two buffers came in first, every buffer is marked with the number
of the call that gives it back.  The pool never looks at the mark, so a run of
the marked calls is the run of the calls themselves with the marks added.
-/

variable {S E : Type}

/-! ## Marks -/

def mark (number : Nat) (buffer : Buffer S) : Buffer (Nat × S) :=
  ⟨buffer.domain, buffer.desc, buffer.refCount, (number, buffer.storage)⟩

def unmark (buffer : Buffer (Nat × S)) : Buffer S :=
  ⟨buffer.domain, buffer.desc, buffer.refCount, buffer.storage.2⟩

/-- The number of the call that gave the buffer back. -/
def stamp (buffer : Buffer (Nat × S)) : Nat := buffer.storage.1

@[simp] theorem unmark_mark (number : Nat) (buffer : Buffer S) :
    unmark (mark number buffer) = buffer := rfl

@[simp] theorem stamp_mark (number : Nat) (buffer : Buffer S) :
    stamp (mark number buffer) = number := rfl

@[simp] theorem mark_domain (number : Nat) (buffer : Buffer S) :
    (mark number buffer).domain = buffer.domain := rfl

@[simp] theorem mark_refCount (number : Nat) (buffer : Buffer S) :
    (mark number buffer).refCount = buffer.refCount := rfl

@[simp] theorem unmark_desc (buffer : Buffer (Nat × S)) : (unmark buffer).desc = buffer.desc := rfl

def markCall (number : Nat) : Call S E -> Call (Nat × S) E
  | .allocate desc answer => .allocate desc (answer.map (mark number))
  | .deallocate buffer answers => .deallocate (mark number buffer) answers

/-- The same cache without the marks. -/
structure Unmarks (marked : PoolCache (Nat × S)) (plain : PoolCache S) : Prop where
  rows : forall key, plain.byKey.slot key = (marked.byKey.slot key).map unmark
  lru : plain.lru = marked.lru
  entries : plain.totalEntries = marked.totalEntries
  bytes : plain.totalBytes = marked.totalBytes

/-- The buffers that the loop that makes room takes, in its order. -/
def evictions (config : MemoryPoolConfig) (size : Nat) (answers : Nat -> Except E Unit) :
    List CacheKey -> Nat -> PoolCache S -> List (Buffer S)
  | [], _, _ => []
  | key :: lru, calls, cache =>
      if full config size cache then
        match cache.byKey.slot key with
        | [] =>
            evictions config size answers lru calls
              { cache with byKey := cache.byKey.erase key, lru := lru }
        | evicted :: others =>
            evicted :: match answers calls with
              | .error _ => []
              | .ok () =>
                  evictions config size answers lru (calls + 1)
                    (cache.without key others lru evicted.desc.sizeBytes)
      else []

/-- The cache after the bound of the row of a key was enforced for one more
buffer. -/
def trimmed (config : MemoryPoolConfig) (cache : PoolCache S) (key : CacheKey) : PoolCache S :=
  evictKey key (overflow config cache key) cache

/-! ## The pool does not look at the marks -/

section Unmarks

variable {marked : PoolCache (Nat × S)} {plain : PoolCache S}

theorem Unmarks.new : Unmarks (new : PoolCache (Nat × S)) (new : PoolCache S) :=
  ⟨fun _ => rfl, rfl, rfl, rfl⟩

theorem Unmarks.without (same : Unmarks marked plain) (key : CacheKey)
    (items : List (Buffer (Nat × S))) (lru : List CacheKey) (size : Nat) :
    Unmarks (marked.without key items lru size)
      (plain.without key (items.map unmark) lru size) := by
  constructor
  · intro other
    show Slots.slot other (plain.byKey.setSlot key (items.map unmark)) =
      (Slots.slot other (marked.byKey.setSlot key items)).map unmark
    rw [Slots.slot_setSlot, Slots.slot_setSlot, same.rows]
    split <;> rfl
  · rfl
  · exact congrArg (· - 1) same.entries
  · exact congrArg (· - size) same.bytes

theorem Unmarks.full_eq (same : Unmarks marked plain) (config : MemoryPoolConfig) (size : Nat) :
    full config size plain = full config size marked := by
  unfold full
  rw [same.entries, same.bytes]

theorem Unmarks.takeCached (same : Unmarks marked plain) (desc : BufferDesc) :
    Unmarks (marked.takeCached desc).1 (plain.takeCached desc).1 ∧
      (plain.takeCached desc).2 = (marked.takeCached desc).2.map unmark := by
  unfold PoolCache.takeCached
  rw [same.rows, List.getLast?_map]
  cases last : (marked.byKey.slot desc.key).getLast? with
  | none => exact ⟨same, rfl⟩
  | some buffer =>
      refine ⟨?_, rfl⟩
      have less := same.without desc.key (marked.byKey.slot desc.key).dropLast
        (eraseLast desc.key marked.lru) desc.sizeBytes
      rw [List.map_dropLast] at less
      rw [same.lru]
      exact less

theorem Unmarks.evictKey (same : Unmarks marked plain) (key : CacheKey) (count : Nat) :
    Unmarks (evictKey key count marked) (evictKey key count plain) := by
  induction count generalizing marked plain with
  | zero => exact same
  | succ count ih =>
      unfold PoolCache.evictKey
      rw [same.rows]
      cases row : marked.byKey.slot key with
      | nil => exact same
      | cons evicted others =>
          rw [same.lru]
          exact ih (same.without key others (marked.lru.erase key) evicted.desc.sizeBytes)

theorem Unmarks.trimmed (same : Unmarks marked plain) (config : MemoryPoolConfig)
    (key : CacheKey) : Unmarks (marked.trimmed config key) (plain.trimmed config key) := by
  unfold PoolCache.trimmed overflow
  rw [same.rows, List.length_map]
  exact same.evictKey key _

theorem Unmarks.skip (same : Unmarks marked plain) (key : CacheKey) (lru : List CacheKey) :
    Unmarks { marked with byKey := marked.byKey.erase key, lru := lru }
      { plain with byKey := plain.byKey.erase key, lru := lru } := by
  exact ⟨(same.without key [] lru 0).rows, rfl, same.entries, same.bytes⟩

theorem Unmarks.makeRoom (same : Unmarks marked plain) (config : MemoryPoolConfig) (size : Nat)
    (answers : Nat -> Except E Unit) (lru : List CacheKey) (calls : Nat) :
    Unmarks (makeRoom config size answers lru calls marked).1
        (makeRoom config size answers lru calls plain).1 ∧
      (makeRoom config size answers lru calls plain).2 =
        (makeRoom config size answers lru calls marked).2 ∧
      evictions config size answers lru calls plain =
        (evictions config size answers lru calls marked).map unmark := by
  induction lru generalizing calls marked plain with
  | nil =>
      unfold PoolCache.makeRoom evictions
      rw [same.full_eq]
      split
      · exact ⟨same, rfl, rfl⟩
      · exact ⟨same, rfl, rfl⟩
  | cons key lru ih =>
      unfold PoolCache.makeRoom evictions
      rw [same.full_eq, same.rows]
      split
      · cases row : marked.byKey.slot key with
        | nil => exact ih (same.skip key lru) calls
        | cons evicted others =>
            have less := same.without key others lru evicted.desc.sizeBytes
            cases answer : answers calls with
            | error error => exact ⟨less, rfl, rfl⟩
            | ok done =>
                rcases ih less (calls + 1) with ⟨later, room, gone⟩
                exact ⟨later, room, congrArg (unmark evicted :: ·) gone⟩
      · exact ⟨same, rfl, rfl⟩

theorem Unmarks.give (same : Unmarks marked plain) (buffer : Buffer (Nat × S)) :
    Unmarks (marked.give buffer) (plain.give (unmark buffer)) := by
  constructor
  · intro other
    show Slots.slot other (plain.byKey.setSlot buffer.desc.key _) =
      (Slots.slot other (marked.byKey.setSlot buffer.desc.key _)).map unmark
    rw [Slots.slot_setSlot, Slots.slot_setSlot, same.rows, unmark_desc, same.rows]
    split
    · rw [List.map_append]
      rfl
    · rfl
  · show plain.lru ++ [buffer.desc.key] = marked.lru ++ [buffer.desc.key]
    rw [same.lru]
  · exact congrArg (· + 1) same.entries
  · exact congrArg (saturatingAdd · buffer.desc.sizeBytes) same.bytes

theorem pushCached_eq (config : MemoryPoolConfig) (cache : PoolCache S) (buffer : Buffer S)
    (answers : Nat -> Except E Unit) (fits : ¬ config.maxCachedBytes < buffer.desc.sizeBytes) :
    cache.pushCached config buffer answers =
      match PoolCache.makeRoom config buffer.desc.sizeBytes answers
        (cache.trimmed config buffer.desc.key).lru 0 (cache.trimmed config buffer.desc.key) with
      | (roomy, .free) => (roomy.give buffer, .ok ())
      | (emptied, .nothingLeft calls) => (emptied, answers calls)
      | (stopped, .failed error) => (stopped, .error error) := by
  rw [pushCached, if_neg fits]
  rfl

theorem Unmarks.pushCached (same : Unmarks marked plain) (config : MemoryPoolConfig)
    (buffer : Buffer (Nat × S)) (answers : Nat -> Except E Unit) :
    Unmarks (marked.pushCached config buffer answers).1
      (plain.pushCached config (unmark buffer) answers).1 := by
  by_cases large : config.maxCachedBytes < buffer.desc.sizeBytes
  · rw [PoolCache.pushCached, PoolCache.pushCached, unmark_desc, if_pos large, if_pos large]
    exact same
  · have short := same.trimmed config buffer.desc.key
    rcases short.makeRoom config buffer.desc.sizeBytes answers
      (marked.trimmed config buffer.desc.key).lru 0 with ⟨later, room, _⟩
    rw [pushCached_eq config marked buffer answers large,
      pushCached_eq config plain (unmark buffer) answers large, unmark_desc, short.lru]
    generalize PoolCache.makeRoom config buffer.desc.sizeBytes answers
      (marked.trimmed config buffer.desc.key).lru 0 (marked.trimmed config buffer.desc.key) = left
      at later room
    generalize PoolCache.makeRoom config buffer.desc.sizeBytes answers
      (marked.trimmed config buffer.desc.key).lru 0 (plain.trimmed config buffer.desc.key) = right
      at later room
    rcases left with ⟨left, made⟩
    rcases right with ⟨right, rightMade⟩
    cases room
    cases made with
    | free => exact later.give buffer
    | nothingLeft calls => exact later
    | failed error => exact later

theorem allocate_of_cached {cache : PoolCache S} {desc : BufferDesc}
    (answer : Except E (Buffer S)) (aligned : desc.align ≠ 0) {buffer : Buffer S}
    (cached : (cache.takeCached desc).2 = some buffer) :
    cache.allocate desc answer = ((cache.takeCached desc).1, .ok buffer) := by
  unfold allocate
  rw [if_neg aligned]
  split
  · rename_i rest found isTaken
    rw [isTaken] at cached ⊢
    cases cached
    rfl
  · rename_i rest isTaken
    rw [isTaken] at cached
    cases cached

theorem allocate_fst (cache : PoolCache S) (desc : BufferDesc) (answer : Except E (Buffer S)) :
    (cache.allocate desc answer).1 =
      if desc.align = 0 then cache else (cache.takeCached desc).1 := by
  unfold allocate
  split
  · rfl
  · split
    · rename_i taken buffer isTaken
      rw [isTaken]
    · rename_i taken isTaken
      rw [isTaken]

theorem Unmarks.step (same : Unmarks marked plain) (config : MemoryPoolConfig) (number : Nat)
    (call : Call S E) {next : PoolCache (Nat × S)}
    (stepped : (machine config).step marked (markCall number call) = some next) :
    Exists fun after => (machine config).step plain call = some after ∧ Unmarks next after := by
  cases call with
  | allocate desc answer =>
      cases stepped
      refine ⟨_, rfl, ?_⟩
      rw [allocate_fst, allocate_fst]
      split
      · exact same
      · exact (same.takeCached desc).1
  | deallocate buffer answers =>
      cases stepped
      refine ⟨_, rfl, ?_⟩
      by_cases refused : buffer.domain ≠ .host ∨ buffer.refCount ≠ 1
      · rw [deallocate, deallocate, mark_domain, mark_refCount, if_pos refused, if_pos refused]
        exact same
      · rw [deallocate, deallocate, mark_domain, mark_refCount, if_neg refused, if_neg refused]
        exact same.pushCached config (mark number buffer) answers

end Unmarks

/-! ## Rows and arrivals -/

/-- A buffer that the pool may keep. -/
structure Kept (config : MemoryPoolConfig) (buffer : Buffer S) : Prop where
  host : buffer.domain = .host
  unshared : buffer.refCount = 1
  fits : buffer.desc.sizeBytes <= config.maxCachedBytes

/-- The cached buffers in the order in which they were given back. -/
structure Ordered (config : MemoryPoolConfig) (calls : List (Call S E))
    (items : List (Buffer (Nat × S))) (cache : PoolCache (Nat × S)) : Prop where
  queue : Arrivals.Represents (fun buffer => buffer.desc.key) items
    (fun key => cache.byKey.slot key) cache.lru
  stamps : items.Pairwise fun early late => stamp early < stamp late
  returned : forall buffer, buffer ∈ items ->
    Exists fun answers => calls[stamp buffer]? = some (.deallocate (unmark buffer) answers)
  kept : forall buffer, buffer ∈ items -> Kept config (unmark buffer)

section Ordered

variable {config : MemoryPoolConfig} {calls : List (Call S E)} {items : List (Buffer (Nat × S))}
  {cache : PoolCache (Nat × S)}

theorem Ordered.new : Ordered config ([] : List (Call S E)) [] (new : PoolCache (Nat × S)) where
  queue := Arrivals.Represents.nil
  stamps := List.Pairwise.nil
  returned := fun _ impossible => by cases impossible
  kept := fun _ impossible => by cases impossible

theorem Ordered.mem_all (ordered : Ordered config calls items cache) (buffer : Buffer (Nat × S)) :
    buffer ∈ cache.byKey.all <-> buffer ∈ items := by
  rw [Slots.mem_all]
  constructor
  · rintro ⟨key, member⟩
    exact (ordered.queue.mem.mp member).1
  · intro member
    exact ⟨buffer.desc.key, ordered.queue.mem.mpr ⟨member, rfl⟩⟩

/-- A cached buffer came in by one of the calls so far. -/
theorem Ordered.stamp_lt (ordered : Ordered config calls items cache) {buffer : Buffer (Nat × S)}
    (member : buffer ∈ items) : stamp buffer < calls.length := by
  rcases ordered.returned buffer member with ⟨answers, isCall⟩
  exact (List.getElem?_eq_some_iff.mp isCall).1

/-- Buffers may leave as long as the rows and the list of keys stay in step. -/
theorem Ordered.fewer (ordered : Ordered config calls items cache) {left : List (Buffer (Nat × S))}
    {next : PoolCache (Nat × S)} (sub : left.Sublist items)
    (queue : Arrivals.Represents (fun buffer => buffer.desc.key) left
      (fun key => next.byKey.slot key) next.lru) : Ordered config calls left next where
  queue := queue
  stamps := ordered.stamps.sublist sub
  returned := fun buffer member => ordered.returned buffer (sub.subset member)
  kept := fun buffer member => ordered.kept buffer (sub.subset member)

theorem Ordered.more (ordered : Ordered config calls items cache) (call : Call S E) :
    Ordered config (calls ++ [call]) items cache where
  queue := ordered.queue
  stamps := ordered.stamps
  returned := by
    intro buffer member
    rcases ordered.returned buffer member with ⟨answers, isCall⟩
    refine ⟨answers, ?_⟩
    rw [List.getElem?_append_left (ordered.stamp_lt member)]
    exact isCall
  kept := ordered.kept

/-- The youngest buffer of a row leaves. -/
theorem Ordered.takeCached (ordered : Ordered config calls items cache) (desc : BufferDesc) :
    Exists fun left => Ordered config calls left (cache.takeCached desc).1 := by
  unfold PoolCache.takeCached
  split
  · exact ⟨items, ordered⟩
  · rename_i buffer last
    have isLast := (List.dropLast_append_getLast? buffer last).symm
    rcases ordered.queue.takeLast isLast (fun other => Slots.slot_setSlot _ other _ _) with
      ⟨before, later, split, _, queue⟩
    refine ⟨before ++ later, ordered.fewer ?_ queue⟩
    rw [split]
    exact (List.sublist_cons_self buffer later).append_left before

/-- In a row the last buffer is the youngest. -/
theorem Ordered.youngest (ordered : Ordered config calls items cache) {key : CacheKey}
    {others : List (Buffer (Nat × S))} {buffer : Buffer (Nat × S)}
    (row : cache.byKey.slot key = others ++ [buffer]) (other : Buffer (Nat × S))
    (member : other ∈ others) : stamp other < stamp buffer := by
  have sub : (cache.byKey.slot key).Sublist items := by
    rw [show cache.byKey.slot key = _ from ordered.queue.rows key]
    exact List.filter_sublist
  rw [row] at sub
  exact (List.pairwise_append.mp (ordered.stamps.sublist sub)).2.2 other member buffer
    List.mem_cons_self

/-- The oldest buffers of a row leave. -/
theorem Ordered.evictKey (ordered : Ordered config calls items cache) (key : CacheKey)
    (count : Nat) :
    Exists fun left => Ordered config calls left (evictKey key count cache) := by
  induction count generalizing items cache with
  | zero => exact ⟨items, ordered⟩
  | succ count ih =>
      unfold PoolCache.evictKey
      split
      · exact ⟨items, ordered⟩
      · rename_i evicted others row
        rcases ordered.queue.takeFirst row (fun other => Slots.slot_setSlot _ other _ _) with
          ⟨before, later, split, _, queue⟩
        refine @ih (before ++ later) _ (ordered.fewer ?_ queue)
        rw [split]
        exact (List.sublist_cons_self evicted later).append_left before

/-- The buffers that make room are the oldest of all, in their order, and what
stays was given back after each of them. -/
theorem Ordered.makeRoom (ordered : Ordered config calls items cache) (size : Nat)
    (answers : Nat -> Except E Unit) {lru : List CacheKey} (isLru : cache.lru = lru) (count : Nat) :
    Exists fun left =>
      items = evictions config size answers lru count cache ++ left ∧
        Ordered config calls left (makeRoom config size answers lru count cache).1 ∧
        cache.byKey.all.Perm (evictions config size answers lru count cache ++
          (makeRoom config size answers lru count cache).1.byKey.all) := by
  induction lru generalizing items cache count with
  | nil =>
      unfold PoolCache.makeRoom evictions
      split
      · exact ⟨items, rfl, ordered, List.Perm.refl _⟩
      · exact ⟨items, rfl, ordered, List.Perm.refl _⟩
  | cons key lru ih =>
      rcases ordered.queue.takeFront isLru with ⟨oldest, others, later, split, row, queue⟩
      have left : Ordered config calls later
          (cache.without key others lru oldest.desc.sizeBytes) := by
        refine ordered.fewer ?_ (queue _ fun other => Slots.slot_setSlot _ other _ _)
        rw [split]
        exact List.sublist_cons_self oldest later
      have whole : cache.byKey.all.Perm
          (oldest :: (cache.without key others lru oldest.desc.sizeBytes).byKey.all) := by
        apply Slots.all_take
        rw [show cache.byKey.slot key = _ from row]
      unfold PoolCache.makeRoom evictions
      rw [show cache.byKey.slot key = _ from row]
      split
      · cases answer : answers count with
        | error error => exact ⟨later, split, left, whole⟩
        | ok done =>
            rcases ih left rfl (count + 1) with ⟨rest, isRest, orderedRest, wholeRest⟩
            refine ⟨rest, ?_, orderedRest, whole.trans (wholeRest.cons oldest)⟩
            rw [split, isRest]
            rfl
      · exact ⟨items, rfl, ordered, List.Perm.refl _⟩

/-- A buffer that is given back by the present call comes last. -/
theorem Ordered.give (ordered : Ordered config calls items cache) {buffer : Buffer S}
    (kept : Kept config buffer) (answers : Nat -> Except E Unit) :
    Ordered config (calls ++ [.deallocate buffer answers]) (items ++ [mark calls.length buffer])
      (cache.give (mark calls.length buffer)) where
  queue := ordered.queue.push (mark calls.length buffer) fun other => Slots.slot_setSlot _ other _ _
  stamps := by
    refine List.pairwise_append.mpr ⟨ordered.stamps, List.pairwise_singleton _ _, ?_⟩
    intro early member late isLate
    rw [List.mem_singleton.mp isLate, stamp_mark]
    exact ordered.stamp_lt member
  returned := by
    intro kept member
    rcases List.mem_append.mp member with old | new
    · exact (ordered.more (.deallocate buffer answers)).returned kept old
    · rw [List.mem_singleton.mp new, stamp_mark, unmark_mark, List.getElem?_concat_length]
      exact ⟨answers, rfl⟩
  kept := by
    intro old member
    rcases List.mem_append.mp member with inItems | new
    · exact ordered.kept old inItems
    · rw [List.mem_singleton.mp new, unmark_mark]
      exact kept

theorem Ordered.pushCached (ordered : Ordered config calls items cache) {buffer : Buffer S}
    (host : buffer.domain = .host) (unshared : buffer.refCount = 1)
    (answers : Nat -> Except E Unit) :
    Exists fun left => Ordered config (calls ++ [.deallocate buffer answers]) left
      (cache.pushCached config (mark calls.length buffer) answers).1 := by
  by_cases large : config.maxCachedBytes < (mark calls.length buffer).desc.sizeBytes
  · rw [PoolCache.pushCached, if_pos large]
    exact ⟨items, ordered.more _⟩
  · rcases ordered.evictKey buffer.desc.key (overflow config cache buffer.desc.key) with
      ⟨kept, short⟩
    rcases short.makeRoom buffer.desc.sizeBytes answers rfl 0 with ⟨left, _, later, _⟩
    rw [pushCached_eq config cache _ answers large]
    split
    · rename_i roomy made
      have isRoomy := congrArg Prod.fst made
      have kept : Kept config buffer := ⟨host, unshared, Nat.le_of_not_lt large⟩
      exact ⟨left ++ [_], isRoomy ▸ later.give kept answers⟩
    · rename_i emptied count made
      have isEmptied := congrArg Prod.fst made
      exact ⟨left, isEmptied ▸ later.more _⟩
    · rename_i stopped error made
      have isStopped := congrArg Prod.fst made
      exact ⟨left, isStopped ▸ later.more _⟩

theorem Ordered.step (ordered : Ordered config calls items cache) (call : Call S E) :
    Exists fun next => (machine config).step cache (markCall calls.length call) = some next ∧
      Exists fun left => Ordered config (calls ++ [call]) left next := by
  cases call with
  | allocate desc answer =>
      refine ⟨_, rfl, ?_⟩
      show Exists fun left => Ordered config _ left (cache.allocate desc _).1
      rw [allocate_fst]
      split
      · exact ⟨items, ordered.more _⟩
      · rcases ordered.takeCached desc with ⟨left, later⟩
        exact ⟨left, later.more _⟩
  | deallocate buffer answers =>
      refine ⟨_, rfl, ?_⟩
      show Exists fun left =>
        Ordered config _ left (cache.deallocate config (mark calls.length buffer) answers).1
      unfold deallocate
      split
      · exact ⟨items, ordered.more _⟩
      · rename_i keeps
        rw [not_or, not_not, not_not] at keeps
        exact ordered.pushCached keeps.1 keeps.2 answers

end Ordered

/-- Every sequence of calls can be marked; the marks change nothing, and the
marked cache is in order. -/
theorem run_ordered (config : MemoryPoolConfig) (calls : List (Call S E)) :
    Exists fun plain => Exists fun marked => Exists fun items =>
      (machine config).run new calls = some plain ∧
      (machine config).run new (calls.mapIdx markCall) = some marked ∧
      Unmarks marked plain ∧ Ordered config calls items marked := by
  induction calls using List.reverseRecOn with
  | nil => exact ⟨new, new, [], rfl, rfl, Unmarks.new, Ordered.new⟩
  | append_singleton calls call ih =>
      rcases ih with ⟨plain, marked, items, runs, runsMarked, same, ordered⟩
      rcases ordered.step call with ⟨next, stepped, left, later⟩
      rcases same.step config calls.length call stepped with ⟨after, plainStepped, nextSame⟩
      refine ⟨after, next, left, ?_, ?_, nextSame, later⟩
      · rw [(machine config).run_append runs, Machine.run, plainStepped]
        rfl
      · rw [List.mapIdx_concat, (machine config).run_append runsMarked, Machine.run, stepped]
        rfl

/-- For every sequence of calls there is a marked run of the same pool in which
each cached buffer bears the number of the call that gave it back.  A hit
returns the buffer of its row with the greatest number, and each buffer that is
evicted to make room has a smaller number than all that are still cached. -/
theorem oldest_evicted_youngest_taken (config : MemoryPoolConfig) (calls : List (Call S E)) :
    Exists fun plain => Exists fun marked =>
      (machine config).run new calls = some plain ∧
      (machine config).run new (calls.mapIdx markCall) = some marked ∧
      Unmarks marked plain ∧
      (forall buffer, buffer ∈ marked.byKey.all ->
        Exists fun answers => calls[stamp buffer]? = some (.deallocate (unmark buffer) answers)) ∧
      (forall (desc : BufferDesc) (answer : Except E (Buffer S)),
        desc.align ≠ 0 -> plain.byKey.slot desc.key ≠ [] ->
        Exists fun others => Exists fun youngest =>
          marked.byKey.slot desc.key = others ++ [youngest] ∧
          (plain.allocate desc answer).2 = .ok (unmark youngest) ∧
          forall other, other ∈ others -> stamp other < stamp youngest) ∧
      forall (key : CacheKey) (size : Nat) (answers : Nat -> Except E Unit),
        Exists fun evicted => Exists fun left =>
          evicted.map unmark = evictions config size answers (plain.trimmed config key).lru 0
            (plain.trimmed config key) ∧
          Unmarks left (makeRoom config size answers (plain.trimmed config key).lru 0
            (plain.trimmed config key)).1 ∧
          (marked.trimmed config key).byKey.all.Perm (evicted ++ left.byKey.all) ∧
          (evicted.Pairwise fun early late => stamp early < stamp late) ∧
          forall oldest other, oldest ∈ evicted -> other ∈ left.byKey.all ->
            stamp oldest < stamp other := by
  rcases run_ordered config calls with ⟨plain, marked, items, runs, runsMarked, same, ordered⟩
  refine ⟨plain, marked, runs, runsMarked, same, ?_, ?_, ?_⟩
  · intro buffer member
    exact ordered.returned buffer ((ordered.mem_all buffer).mp member)
  · intro desc answer aligned cached
    rw [same.rows] at cached
    have nonempty : marked.byKey.slot desc.key ≠ [] := fun empty => cached (by rw [empty]; rfl)
    have row := (List.dropLast_append_getLast nonempty).symm
    refine ⟨_, _, row, ?_, ordered.youngest row⟩
    have taken : (plain.takeCached desc).2 =
        some (unmark ((marked.byKey.slot desc.key).getLast nonempty)) := by
      rw [(same.takeCached desc).2]
      unfold takeCached
      rw [List.getLast?_eq_some_getLast nonempty]
      rfl
    rw [allocate_of_cached answer aligned taken]
  · intro key size answers
    have short := same.trimmed config key
    rcases ordered.evictKey key (overflow config marked key) with ⟨kept, orderedKept⟩
    rcases orderedKept.makeRoom size answers rfl 0 with ⟨left, split, later, whole⟩
    rcases short.makeRoom config size answers (marked.trimmed config key).lru 0 with
      ⟨sameLater, _, gone⟩
    rw [← short.lru] at gone sameLater
    have stamps := orderedKept.stamps
    rw [split, List.pairwise_append] at stamps
    refine ⟨_, _, gone.symm, sameLater, ?_, ?_, ?_⟩
    · rw [short.lru]
      exact whole
    · rw [short.lru]
      exact stamps.1
    · intro oldest other member inLeft
      rw [short.lru] at member inLeft
      exact stamps.2.2 oldest member other ((later.mem_all other).mp inLeft)

end PoolCache
end Core
end DyunGu
