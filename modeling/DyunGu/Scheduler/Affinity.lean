import Mathlib.Data.List.Basic
import Mathlib.Data.List.MinMax

namespace DyunGu
namespace Scheduler

variable {T : Type}

/-!
# The bounded affinity table

A table of values under string keys, with a time to live and eviction of the
entry that was used least recently.  The source keeps it in a hash map, so
the order in which equally old entries are met is not fixed: the environment
names the entry that it would meet first.
-/

structure AffinityEntry (T : Type) where
  value : T
  lastUsed : Nat
deriving DecidableEq, Repr

/-- The keys of the entries are distinct in every table that the operations
build. -/
structure BoundedAffinityTable (T : Type) where
  capacity : Nat
  ttl : Nat
  entries : List (String × AffinityEntry T)
  evictions : Nat
  expired : Nat
deriving DecidableEq, Repr

namespace BoundedAffinityTable

def new (capacity ttl : Nat) : BoundedAffinityTable T where
  capacity := max capacity 1
  ttl := ttl
  entries := []
  evictions := 0
  expired := 0

def find (table : BoundedAffinityTable T) (key : String) : Option (AffinityEntry T) :=
  (table.entries.find? fun entry => decide (entry.1 = key)).map Prod.snd

def remove (table : BoundedAffinityTable T) (key : String) : BoundedAffinityTable T :=
  { table with entries := table.entries.filter fun entry => decide (entry.1 ≠ key) }

/-- The assignment of the hash map: it replaces the entry of the key. -/
def put (table : BoundedAffinityTable T) (key : String) (value : T) (now : Nat) :
    BoundedAffinityTable T :=
  { table with entries := (table.remove key).entries ++ [(key, ⟨value, now⟩)] }

/-- The entry of a key is not returned any more once it has been unused for
longer than the time to live. -/
def isExpired (table : BoundedAffinityTable T) (entry : AffinityEntry T) (now : Nat) : Bool :=
  decide (table.ttl < now - entry.lastUsed)

def get (table : BoundedAffinityTable T) (key : String) (now : Nat) :
    BoundedAffinityTable T × Option T :=
  match table.find key with
  | some entry =>
      if table.isExpired entry now then
        ({ table.remove key with expired := table.expired + 1 }, none)
      else (table.put key entry.value now, some entry.value)
  | none => (table, none)

/-- The key of an entry that was used least recently: `tie` if it is one, and
else the first of them. -/
def oldest (table : BoundedAffinityTable T) (tie : String) : Option String :=
  let preferred := table.entries.filter fun entry => decide (entry.1 = tie)
  ((preferred ++ table.entries).argmin fun entry => entry.2.lastUsed).map Prod.fst

/-- The entry that has to go before a new one is put: a full table makes room
for a key that it does not have. -/
def victim (table : BoundedAffinityTable T) (key tie : String) : Option String :=
  if (table.find key).isNone ∧ table.capacity <= table.entries.length then table.oldest tie
  else none

def insert (table : BoundedAffinityTable T) (key : String) (value : T) (now : Nat)
    (tie : String) : BoundedAffinityTable T :=
  match table.victim key tie with
  | some old => ({ table.remove old with evictions := table.evictions + 1 }).put key value now
  | none => table.put key value now

/-! ## The value under a key after each operation -/

/-- The value that the table keeps under a key, expired or not. -/
def valueOf (table : BoundedAffinityTable T) (key : String) : Option T :=
  (table.find key).map AffinityEntry.value

/-- The value that a look-up at this time returns. -/
def live (table : BoundedAffinityTable T) (key : String) (now : Nat) : Option T :=
  (table.get key now).2

theorem find_remove (table : BoundedAffinityTable T) (key other : String) :
    (table.remove key).find other = if key = other then none else table.find other := by
  unfold find remove
  by_cases same : key = other
  · rw [if_pos same, Option.map_eq_none_iff, List.find?_eq_none]
    intro entry member
    simp only [List.mem_filter, decide_eq_true_eq] at member
    simp only [decide_eq_true_eq]
    exact fun isKey => member.2 (isKey.trans same.symm)
  · rw [if_neg same, List.find?_filter]
    congr 2
    funext entry
    by_cases isOther : entry.1 = other
    · simp [isOther, Ne.symm same]
    · simp [isOther]

theorem find_put (table : BoundedAffinityTable T) (key other : String) (value : T) (now : Nat) :
    (table.put key value now).find other =
      if key = other then some ⟨value, now⟩ else table.find other := by
  have removed := find_remove table key other
  unfold find at removed ⊢
  unfold put
  rw [List.find?_append]
  by_cases same : key = other
  · rw [if_pos same] at removed ⊢
    rw [Option.map_eq_none_iff] at removed
    rw [removed]
    simp [same]
  · rw [if_neg same] at removed ⊢
    rw [List.find?_cons_of_neg (by simp [same]), List.find?_nil, Option.or_none]
    exact removed

@[simp] theorem valueOf_new (capacity ttl : Nat) (key : String) :
    (new capacity ttl : BoundedAffinityTable T).valueOf key = none := rfl

theorem valueOf_remove (table : BoundedAffinityTable T) (key other : String) :
    (table.remove key).valueOf other = if key = other then none else table.valueOf other := by
  rw [valueOf, find_remove]
  split <;> rfl

theorem valueOf_put (table : BoundedAffinityTable T) (key other : String) (value : T)
    (now : Nat) : (table.put key value now).valueOf other =
      if key = other then some value else table.valueOf other := by
  rw [valueOf, find_put]
  split <;> rfl

/-- A look-up returns what the table keeps, unless that has expired. -/
theorem live_eq (table : BoundedAffinityTable T) (key : String) (now : Nat) :
    table.live key now =
      ((table.find key).filter fun entry => !table.isExpired entry now).map
        AffinityEntry.value := by
  unfold live get
  cases table.find key with
  | none => rfl
  | some entry => cases expired : table.isExpired entry now <;> simp [expired]

theorem valueOf_of_live {table : BoundedAffinityTable T} {key : String} {now : Nat} {value : T}
    (found : table.live key now = some value) : table.valueOf key = some value := by
  rw [live_eq] at found
  unfold valueOf
  cases kept : table.find key with
  | none =>
      rw [kept] at found
      cases found
  | some entry =>
      rw [kept, Option.map_eq_some_iff] at found
      rcases found with ⟨other, passes, isValue⟩
      rw [Option.filter_eq_some_iff] at passes
      rw [passes.1]
      exact congrArg some isValue

/-- A look-up drops an expired entry and keeps the value of every other one. -/
theorem valueOf_get (table : BoundedAffinityTable T) (key other : String) (now : Nat) :
    (table.get key now).1.valueOf other =
      if key = other then table.live key now else table.valueOf other := by
  unfold live get
  cases found : table.find key with
  | none =>
      by_cases same : key = other
      · rw [if_pos same, ← same]
        simp [valueOf, found]
      · rw [if_neg same]
  | some entry =>
      dsimp only
      cases expired : table.isExpired entry now with
      | true =>
          rw [if_pos rfl]
          exact valueOf_remove table key other
      | false =>
          rw [if_neg Bool.false_ne_true]
          exact valueOf_put table key other entry.value now

theorem valueOf_insert (table : BoundedAffinityTable T) (key other : String) (value : T)
    (now : Nat) (tie : String) :
    (table.insert key value now tie).valueOf other =
      if key = other then some value
      else if table.victim key tie = some other then none else table.valueOf other := by
  unfold insert
  cases room : table.victim key tie with
  | none => simp [valueOf_put]
  | some old =>
      dsimp only
      rw [valueOf_put]
      by_cases same : key = other
      · rw [if_pos same, if_pos same]
      · rw [if_neg same, if_neg same]
        simp only [Option.some.injEq]
        exact valueOf_remove table old other

/-- Every value the table keeps has the property. -/
def All (property : T -> Prop) (table : BoundedAffinityTable T) : Prop :=
  forall key value, table.valueOf key = some value -> property value

theorem All.new (property : T -> Prop) (capacity ttl : Nat) :
    All property (new capacity ttl) := by
  intro key value impossible
  cases impossible

theorem All.remove {property : T -> Prop} {table : BoundedAffinityTable T}
    (all : All property table) (key : String) : All property (table.remove key) := by
  intro other value found
  rw [valueOf_remove] at found
  split at found
  · cases found
  · exact all other value found

theorem All.get {property : T -> Prop} {table : BoundedAffinityTable T}
    (all : All property table) (key : String) (now : Nat) :
    All property (table.get key now).1 := by
  intro other value found
  rw [valueOf_get] at found
  split at found
  · exact all key value (valueOf_of_live found)
  · exact all other value found

theorem All.insert {property : T -> Prop} {table : BoundedAffinityTable T}
    (all : All property table) {value : T} (holds : property value) (key : String) (now : Nat)
    (tie : String) : All property (table.insert key value now tie) := by
  intro other kept found
  rw [valueOf_insert] at found
  split at found
  · cases found
    exact holds
  · split at found
    · cases found
    · exact all other kept found

end BoundedAffinityTable
end Scheduler
end DyunGu
