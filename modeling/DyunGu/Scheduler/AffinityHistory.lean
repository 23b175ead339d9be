import DyunGu.Scheduler.Affinity
import Mathlib.Data.List.Nodup

namespace DyunGu
namespace Scheduler

variable {T : Type}

/-!
# The affinity table over whole histories

The reference for the table is a map from keys to what became of them: a key
was never inserted, or it is live with its most recent value and the time of
its last use, or it has expired, or it was removed, or it was evicted.  The
reference follows the operations without any table, except that it is told
which key an insertion evicted.  The table agrees with it after every history,
and what it evicts is a live key that was used least recently.
-/

namespace BoundedAffinityTable

/-- One call on the table, with the time of the call and, for an insertion,
the entry that the hash map would meet first. -/
inductive Op (T : Type) where
  | get (key : String) (now : Nat)
  | insert (key : String) (value : T) (now : Nat) (tie : String)
  | remove (key : String)
deriving DecidableEq, Repr

def apply (table : BoundedAffinityTable T) : Op T -> BoundedAffinityTable T
  | .get key now => (table.get key now).1
  | .insert key value now tie => table.insert key value now tie
  | .remove key => table.remove key

/-- The key that a call evicts. -/
def evicts (table : BoundedAffinityTable T) : Op T -> Option String
  | .insert key _ _ tie => table.victim key tie
  | .get _ _ | .remove _ => none

/-! ## The reference -/

/-- What became of a key. -/
inductive Fate (T : Type) where
  | absent
  | live (value : T) (lastUsed : Nat)
  | expired
  | removed
  | evicted
deriving DecidableEq, Repr

namespace Fate

/-- What a look-up at this time returns. -/
def read (ttl : Nat) (now : Nat) : Fate T -> Option T
  | .live value lastUsed => if ttl < now - lastUsed then none else some value
  | .absent | .expired | .removed | .evicted => none

/-- A look-up is a use of a live entry, and finds out that it has expired. -/
def looked (ttl : Nat) (now : Nat) : Fate T -> Fate T
  | .live value lastUsed => if ttl < now - lastUsed then .expired else .live value now
  | .absent => .absent
  | .expired => .expired
  | .removed => .removed
  | .evicted => .evicted

def taken : Fate T -> Fate T
  | .live _ _ => .removed
  | .absent => .absent
  | .expired => .expired
  | .removed => .removed
  | .evicted => .evicted

/-- The fate of a key after a call that evicted a key or none. -/
def after (ttl : Nat) (evicted : Option String) (key : String) (fate : Fate T) :
    Op T -> Fate T
  | .get other now => if other = key then fate.looked ttl now else fate
  | .insert other value now _ =>
      if other = key then .live value now
      else if evicted = some key then .evicted else fate
  | .remove other => if other = key then fate.taken else fate

end Fate

/-- A table beside the reference. -/
structure Tracked (T : Type) where
  table : BoundedAffinityTable T
  fates : String -> Fate T

def Tracked.step (tracked : Tracked T) (op : Op T) : Tracked T where
  table := tracked.table.apply op
  fates key := Fate.after tracked.table.ttl (tracked.table.evicts op) key (tracked.fates key) op

/-- A history from the empty table. -/
def track (capacity ttl : Nat) (history : List (Op T)) : Tracked T :=
  history.foldl Tracked.step ⟨new capacity ttl, fun _ => .absent⟩

/-! ## Entries -/

def Distinct (table : BoundedAffinityTable T) : Prop := (table.entries.map Prod.fst).Nodup

theorem mem_of_find {table : BoundedAffinityTable T} {key : String} {entry : AffinityEntry T}
    (found : table.find key = some entry) : (key, entry) ∈ table.entries := by
  unfold find at found
  rcases Option.map_eq_some_iff.mp found with ⟨pair, isPair, rfl⟩
  have isKey := List.find?_some isPair
  simp only [decide_eq_true_eq] at isKey
  have member := List.mem_of_find?_eq_some isPair
  rw [← isKey]
  exact member

theorem find_of_mem {table : BoundedAffinityTable T} (distinct : table.Distinct) {key : String}
    {entry : AffinityEntry T} (member : (key, entry) ∈ table.entries) :
    table.find key = some entry := by
  have present : (table.find key).isSome = true := by
    unfold find
    rw [Option.isSome_map, List.find?_isSome]
    exact ⟨(key, entry), member, by simp⟩
  rcases Option.isSome_iff_exists.mp present with ⟨other, found⟩
  have same : (key, other) = (key, entry) :=
    List.inj_on_of_nodup_map distinct (mem_of_find found) member rfl
  cases same
  exact found

theorem Distinct.remove {table : BoundedAffinityTable T} (distinct : table.Distinct)
    (key : String) : (table.remove key).Distinct :=
  distinct.sublist (List.Sublist.map Prod.fst List.filter_sublist)

theorem Distinct.put {table : BoundedAffinityTable T} (distinct : table.Distinct) (key : String)
    (value : T) (now : Nat) : (table.put key value now).Distinct := by
  have kept := distinct.remove key
  unfold Distinct BoundedAffinityTable.put at *
  rw [List.map_append, List.nodup_append]
  refine ⟨kept, List.nodup_singleton _, ?_⟩
  rintro other member _ isKey rfl
  rw [List.map_singleton, List.mem_singleton] at isKey
  rcases List.mem_map.mp member with ⟨entry, isEntry, rfl⟩
  have differs := (List.mem_filter.mp isEntry).2
  simp only [ne_eq, decide_not, Bool.not_eq_eq_eq_not, Bool.not_true, decide_eq_false_iff_not]
    at differs
  exact differs isKey

theorem length_remove_le (table : BoundedAffinityTable T) (key : String) :
    (table.remove key).entries.length <= table.entries.length :=
  List.length_filter_le _ _

theorem length_remove_lt {table : BoundedAffinityTable T} {key : String}
    {entry : AffinityEntry T} (member : (key, entry) ∈ table.entries) :
    (table.remove key).entries.length < table.entries.length := by
  unfold remove
  rw [List.length_filter_lt_length_iff_exists]
  exact ⟨(key, entry), member, by simp⟩

theorem length_put (table : BoundedAffinityTable T) (key : String) (value : T) (now : Nat) :
    (table.put key value now).entries.length = (table.remove key).entries.length + 1 := by
  unfold put
  rw [List.length_append, List.length_singleton]

/-! ## Eviction -/

theorem oldest_mem {table : BoundedAffinityTable T} {tie old : String}
    (isOldest : table.oldest tie = some old) :
    Exists fun entry => (old, entry) ∈ table.entries ∧
      forall other, other ∈ table.entries -> entry.lastUsed <= other.2.lastUsed := by
  unfold oldest at isOldest
  rcases Option.map_eq_some_iff.mp isOldest with ⟨⟨_, entry⟩, isLeast, rfl⟩
  refine ⟨entry, ?_, fun other member => ?_⟩
  · rcases List.mem_append.mp (List.argmin_mem isLeast) with preferred | member
    · exact (List.mem_filter.mp preferred).1
    · exact member
  · have among := List.mem_append_right (table.entries.filter fun entry => decide (entry.1 = tie))
      member
    exact List.le_of_mem_argmin (f := fun entry => entry.2.lastUsed) among isLeast

theorem oldest_of_nonempty {table : BoundedAffinityTable T} (tie : String)
    (nonempty : table.entries ≠ []) : (table.oldest tie).isSome = true := by
  unfold oldest
  rw [Option.isSome_map, ← Option.ne_none_iff_isSome]
  intro none
  rw [List.argmin_eq_none, List.append_eq_nil_iff] at none
  exact nonempty none.2

/-- A full table makes room for a key that it does not have, by one of the
entries used least recently. -/
theorem victim_eq_some {table : BoundedAffinityTable T} {key tie old : String}
    (room : table.victim key tie = some old) :
    table.find key = none ∧ table.capacity <= table.entries.length ∧
      Exists fun entry => (old, entry) ∈ table.entries ∧
        forall other, other ∈ table.entries -> entry.lastUsed <= other.2.lastUsed := by
  unfold victim at room
  split at room
  · rename_i full
    exact ⟨Option.isNone_iff_eq_none.mp full.1, full.2, oldest_mem room⟩
  · cases room

theorem victim_eq_none {table : BoundedAffinityTable T} {key tie : String}
    (capacity : 0 < table.capacity) (room : table.victim key tie = none) :
    (table.find key).isSome = true ∨ table.entries.length < table.capacity := by
  unfold victim at room
  split at room
  · rename_i full
    have nonempty : table.entries ≠ [] := by
      intro empty
      rw [empty] at full
      exact absurd (capacity.trans_le full.2) (Nat.lt_irrefl 0)
    have isSome := oldest_of_nonempty tie nonempty
    rw [room] at isSome
    cases isSome
  · rename_i free
    by_cases known : (table.find key).isSome = true
    · exact Or.inl known
    · right
      rw [Bool.not_eq_true, Option.isSome_eq_false_iff] at known
      exact Nat.lt_of_not_le fun full => free ⟨known, full⟩

/-! ## Agreement with the reference -/

/-- What the reference says of a key is what the table has under it. -/
def Agrees (entry : Option (AffinityEntry T)) (fate : Fate T) : Prop :=
  forall value lastUsed, fate = .live value lastUsed <-> entry = some ⟨value, lastUsed⟩

theorem Agrees.none_iff {entry : Option (AffinityEntry T)} {fate : Fate T}
    (agrees : Agrees entry fate) :
    entry = none <-> forall value lastUsed, fate ≠ .live value lastUsed := by
  constructor
  · intro absent value lastUsed isLive
    have present := (agrees value lastUsed).mp isLive
    rw [absent] at present
    cases present
  · intro notLive
    cases entry with
    | none => rfl
    | some entry => exact absurd ((agrees entry.value entry.lastUsed).mpr rfl) (notLive _ _)

theorem Agrees.of_none {fate : Fate T}
    (notLive : forall value lastUsed, fate ≠ .live value lastUsed) : Agrees none fate := by
  intro value lastUsed
  exact ⟨fun isLive => absurd isLive (notLive value lastUsed), fun impossible => by
    cases impossible⟩

theorem Agrees.of_live (value : T) (lastUsed : Nat) :
    Agrees (some ⟨value, lastUsed⟩) (.live value lastUsed) := by
  intro other time
  constructor
  · intro same
    cases same
    rfl
  · intro same
    cases same
    rfl

theorem find_get (table : BoundedAffinityTable T) (key other : String) (now : Nat) :
    (table.get key now).1.find other =
      if key = other then
        (table.find key).bind fun entry =>
          if table.isExpired entry now then none else some ⟨entry.value, now⟩
      else table.find other := by
  unfold get
  cases found : table.find key with
  | none =>
      by_cases same : key = other
      · rw [if_pos same, ← same]
        exact found
      · rw [if_neg same]
  | some entry =>
      dsimp only [Option.bind_some]
      by_cases expired : table.isExpired entry now = true
      · rw [if_pos expired, if_pos expired]
        exact find_remove table key other
      · rw [if_neg expired, if_neg expired]
        exact find_put table key other entry.value now

theorem find_insert (table : BoundedAffinityTable T) (key other : String) (value : T)
    (now : Nat) (tie : String) :
    (table.insert key value now tie).find other =
      if key = other then some ⟨value, now⟩
      else if table.victim key tie = some other then none else table.find other := by
  unfold insert
  cases room : table.victim key tie with
  | none => simp [find_put]
  | some old =>
      dsimp only
      rw [find_put]
      by_cases same : key = other
      · rw [if_pos same, if_pos same]
      · rw [if_neg same, if_neg same]
        simp only [Option.some.injEq]
        exact find_remove table old other

/-! ## Each operation keeps the agreement -/

theorem Agrees.looked {table : BoundedAffinityTable T} {entry : Option (AffinityEntry T)}
    {fate : Fate T} (agrees : Agrees entry fate) (now : Nat) :
    Agrees (entry.bind fun entry =>
      if table.isExpired entry now then none else some ⟨entry.value, now⟩)
      (fate.looked table.ttl now) := by
  cases entry with
  | none =>
      have notLive := agrees.none_iff.mp rfl
      apply Agrees.of_none
      cases fate with
      | live value lastUsed => exact absurd rfl (notLive value lastUsed)
      | _ => intro _ _ impossible; cases impossible
  | some entry =>
      have isLive := (agrees entry.value entry.lastUsed).mpr rfl
      rw [isLive, Option.bind_some]
      unfold isExpired Fate.looked
      by_cases expired : table.ttl < now - entry.lastUsed
      · simp only [expired, decide_true, if_true]
        apply Agrees.of_none
        intro _ _ impossible
        cases impossible
      · simp only [expired, decide_false, Bool.false_eq_true, if_false]
        exact Agrees.of_live entry.value now

theorem agrees_taken (fate : Fate T) : Agrees none fate.taken := by
  apply Agrees.of_none
  cases fate with
  | _ => intro _ _ impossible; cases impossible

theorem agrees_step {tracked : Tracked T}
    (agrees : forall key, Agrees (tracked.table.find key) (tracked.fates key)) (op : Op T)
    (key : String) :
    Agrees ((tracked.step op).table.find key) ((tracked.step op).fates key) := by
  cases op with
  | get other now =>
      show Agrees ((tracked.table.get other now).1.find key)
        (if other = key then (tracked.fates key).looked tracked.table.ttl now
          else tracked.fates key)
      rw [find_get]
      by_cases same : other = key
      · rw [if_pos same, if_pos same, same]
        exact (agrees key).looked now
      · rw [if_neg same, if_neg same]
        exact agrees key
  | insert other value now tie =>
      show Agrees ((tracked.table.insert other value now tie).find key)
        (if other = key then .live value now
          else if tracked.table.victim other tie = some key then .evicted else tracked.fates key)
      rw [find_insert]
      by_cases same : other = key
      · rw [if_pos same, if_pos same]
        exact Agrees.of_live value now
      · rw [if_neg same, if_neg same]
        by_cases evicted : tracked.table.victim other tie = some key
        · rw [if_pos evicted, if_pos evicted]
          apply Agrees.of_none
          intro _ _ impossible
          cases impossible
        · rw [if_neg evicted, if_neg evicted]
          exact agrees key
  | remove other =>
      show Agrees ((tracked.table.remove other).find key)
        (if other = key then (tracked.fates key).taken else tracked.fates key)
      rw [find_remove]
      by_cases same : other = key
      · rw [if_pos same, if_pos same]
        exact agrees_taken (tracked.fates key)
      · rw [if_neg same, if_neg same]
        exact agrees key

theorem Distinct.apply {table : BoundedAffinityTable T} (distinct : table.Distinct) (op : Op T) :
    (table.apply op).Distinct := by
  cases op with
  | get key now =>
      show (table.get key now).1.Distinct
      unfold BoundedAffinityTable.get
      split
      · split
        · exact distinct.remove key
        · exact distinct.put key _ now
      · exact distinct
  | insert key value now tie =>
      show (table.insert key value now tie).Distinct
      unfold BoundedAffinityTable.insert
      split
      · rename_i old _
        exact Distinct.put (distinct.remove old) key value now
      · exact distinct.put key value now
  | remove key => exact distinct.remove key

theorem apply_capacity (table : BoundedAffinityTable T) (op : Op T) :
    (table.apply op).capacity = table.capacity ∧ (table.apply op).ttl = table.ttl := by
  cases op with
  | get key now =>
      show (table.get key now).1.capacity = _ ∧ (table.get key now).1.ttl = _
      unfold get
      split
      · split <;> exact ⟨rfl, rfl⟩
      · exact ⟨rfl, rfl⟩
  | insert key value now tie =>
      show (table.insert key value now tie).capacity = _ ∧
        (table.insert key value now tie).ttl = _
      unfold insert
      split <;> exact ⟨rfl, rfl⟩
  | remove key => exact ⟨rfl, rfl⟩

theorem length_put_of_find {table : BoundedAffinityTable T} {key : String}
    (known : (table.find key).isSome = true) (value : T) (now : Nat) :
    (table.put key value now).entries.length <= table.entries.length := by
  rcases Option.isSome_iff_exists.mp known with ⟨entry, found⟩
  rw [length_put]
  exact length_remove_lt (mem_of_find found)

/-- No call makes a table larger than its capacity. -/
theorem length_apply {table : BoundedAffinityTable T} (capacity : 0 < table.capacity)
    (within : table.entries.length <= table.capacity) (op : Op T) :
    (table.apply op).entries.length <= table.capacity := by
  cases op with
  | get key now =>
      show (table.get key now).1.entries.length <= _
      unfold get
      split
      · rename_i entry found
        split
        · exact (length_remove_le table key).trans within
        · refine (length_put_of_find ?_ entry.value now).trans within
          rw [found]
          rfl
      · exact within
  | insert key value now tie =>
      show (table.insert key value now tie).entries.length <= _
      unfold insert
      split
      · rename_i old room
        rcases victim_eq_some room with ⟨_, _, entry, member, _⟩
        rw [length_put]
        have smaller := length_remove_lt member
        have again := length_remove_le
          { table.remove old with evictions := table.evictions + 1 } key
        exact (Nat.succ_le_of_lt (again.trans_lt smaller)).trans within
      · rename_i room
        rcases victim_eq_none capacity room with known | free
        · exact (length_put_of_find known value now).trans within
        · rw [length_put]
          exact (Nat.succ_le_succ (length_remove_le table key)).trans free
  | remove key => exact (length_remove_le table key).trans within

/-! ## Whole histories -/

/-- The invariant of every history. -/
structure Tracks (capacity ttl : Nat) (tracked : Tracked T) : Prop where
  capacity_eq : tracked.table.capacity = max capacity 1
  ttl_eq : tracked.table.ttl = ttl
  distinct : tracked.table.Distinct
  within : tracked.table.entries.length <= max capacity 1
  agrees : forall key, Agrees (tracked.table.find key) (tracked.fates key)

theorem Tracks.step {capacity ttl : Nat} {tracked : Tracked T}
    (tracks : Tracks capacity ttl tracked) (op : Op T) : Tracks capacity ttl (tracked.step op) := by
  have kept := apply_capacity tracked.table op
  have positive : 0 < tracked.table.capacity := by
    rw [tracks.capacity_eq]
    exact Nat.lt_of_lt_of_le Nat.one_pos (Nat.le_max_right capacity 1)
  have within := tracks.within
  rw [← tracks.capacity_eq] at within
  constructor
  · exact kept.1.trans tracks.capacity_eq
  · exact kept.2.trans tracks.ttl_eq
  · exact tracks.distinct.apply op
  · rw [← tracks.capacity_eq]
    exact length_apply positive within op
  · exact agrees_step tracks.agrees op

theorem track_tracks (capacity ttl : Nat) (history : List (Op T)) :
    Tracks capacity ttl (track capacity ttl history) := by
  have start : Tracks capacity ttl
      (⟨new capacity ttl, fun _ => .absent⟩ : Tracked T) := by
    constructor
    · rfl
    · rfl
    · exact List.nodup_nil
    · exact Nat.zero_le _
    · intro key
      apply Agrees.of_none
      intro _ _ impossible
      cases impossible
  unfold track
  generalize (⟨new capacity ttl, fun _ => .absent⟩ : Tracked T) = tracked at start ⊢
  induction history generalizing tracked with
  | nil => exact start
  | cons op history ih => exact ih _ (start.step op)

/-- After every history the table is a bounded map with expiry: it stays
within its capacity, a look-up returns what the reference says, and an
insertion that evicts does so in a full table, for a key that is not live, and
takes a live key that no other live key was used before. -/
theorem history_agrees (capacity ttl : Nat) (history : List (Op T)) :
    (track capacity ttl history).table.entries.length <= max capacity 1 ∧
    (forall key now, ((track capacity ttl history).table.get key now).2 =
      ((track capacity ttl history).fates key).read ttl now) ∧
    forall key value now tie old,
      (track capacity ttl history).table.evicts (.insert key value now tie) = some old ->
      (track capacity ttl history).table.entries.length = max capacity 1 ∧
      (forall other lastUsed, (track capacity ttl history).fates key ≠ .live other lastUsed) ∧
      Exists fun kept => Exists fun lastUsed =>
        (track capacity ttl history).fates old = .live kept lastUsed ∧
        forall other stored time,
          (track capacity ttl history).fates other = .live stored time -> lastUsed <= time := by
  have tracks := track_tracks capacity ttl history
  generalize track capacity ttl history = tracked at tracks ⊢
  refine ⟨tracks.within, ?_, ?_⟩
  · intro key now
    have agrees := tracks.agrees key
    show tracked.table.live key now = _
    rw [live_eq]
    cases found : tracked.table.find key with
    | none =>
        rw [found] at agrees
        have notLive := agrees.none_iff.mp rfl
        cases fate : tracked.fates key with
        | live value lastUsed => exact absurd fate (notLive value lastUsed)
        | _ => rfl
    | some entry =>
        rw [found] at agrees
        rw [(agrees entry.value entry.lastUsed).mpr rfl]
        unfold isExpired Fate.read
        rw [tracks.ttl_eq]
        by_cases expired : ttl < now - entry.lastUsed
        · simp only [Option.filter_some, expired, decide_true, Bool.not_true, Bool.false_eq_true,
            if_false, if_true, Option.map_none]
        · simp only [Option.filter_some, expired, decide_false, Bool.not_false, if_true, if_false,
            Option.map_some]
  · intro key value now tie old room
    rcases victim_eq_some room with ⟨absent, full, entry, member, least⟩
    rw [tracks.capacity_eq] at full
    have isLive := (tracks.agrees old entry.value entry.lastUsed).mpr
      (find_of_mem tracks.distinct member)
    refine ⟨Nat.le_antisymm tracks.within full, (tracks.agrees key).none_iff.mp absent,
      entry.value, entry.lastUsed, isLive, ?_⟩
    intro other stored time otherLive
    have found := (tracks.agrees other stored time).mp otherLive
    exact least (other, ⟨stored, time⟩) (mem_of_find found)

end BoundedAffinityTable
end Scheduler
end DyunGu
