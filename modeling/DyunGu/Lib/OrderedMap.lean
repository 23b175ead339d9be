import Mathlib.Data.List.Flatten
import Mathlib.Data.List.Nodup
import Mathlib.Data.List.Sort

namespace DyunGu
namespace OrderedMap

open Std

variable {Key Value Source : Type} {cmp : Key -> Key -> Ordering} [TransCmp cmp]

/-!
# Ordered maps

The lookups of an ordered map after an update, for maps whose comparison is
equality of keys, and the map that a loop of insertions builds.
-/

theorem mem_iff (map : TreeMap Key Value cmp) (key : Key) :
    key ∈ map <-> Exists fun value => map[key]? = some value := by
  rw [TreeMap.mem_iff_isSome_getElem?, Option.isSome_iff_exists]

variable [LawfulEqCmp cmp]

theorem getElem?_insert [DecidableEq Key] (map : TreeMap Key Value cmp) (key other : Key)
    (value : Value) :
    (map.insert key value)[other]? = if key = other then some value else map[other]? := by
  rw [TreeMap.getElem?_insert]
  by_cases same : key = other
  · rw [if_pos same, if_pos (LawfulEqCmp.compare_eq_iff_eq.mpr same)]
  · rw [if_neg same, if_neg (mt LawfulEqCmp.compare_eq_iff_eq.mp same)]

theorem getElem?_erase [DecidableEq Key] (map : TreeMap Key Value cmp) (key other : Key) :
    (map.erase key)[other]? = if key = other then none else map[other]? := by
  rw [TreeMap.getElem?_erase]
  by_cases same : key = other
  · rw [if_pos same, if_pos (LawfulEqCmp.compare_eq_iff_eq.mpr same)]
  · rw [if_neg same, if_neg (mt LawfulEqCmp.compare_eq_iff_eq.mp same)]

theorem mem_insert (map : TreeMap Key Value cmp) (key other : Key) (value : Value) :
    other ∈ map.insert key value <-> key = other ∨ other ∈ map := by
  rw [TreeMap.mem_insert, LawfulEqCmp.compare_eq_iff_eq]

theorem mem_erase (map : TreeMap Key Value cmp) (key other : Key) :
    other ∈ map.erase key <-> key ≠ other ∧ other ∈ map := by
  rw [TreeMap.mem_erase, Ne, Ne, LawfulEqCmp.compare_eq_iff_eq]

/-- A loop that inserts one entry per element: looking a key up finds an
element with that key or what was there before. -/
theorem getElem?_foldl_insert [DecidableEq Key] (key : Source -> Key) (value : Source -> Value)
    (sources : List Source) (map : TreeMap Key Value cmp) (distinct : (sources.map key).Nodup)
    (wanted : Key) (result : Value) :
    (sources.foldl (fun map source => map.insert (key source) (value source)) map)[wanted]? =
        some result <->
      (Exists fun source => source ∈ sources ∧ key source = wanted ∧ value source = result) ∨
        ((forall source, source ∈ sources -> key source ≠ wanted) ∧
          map[wanted]? = some result) := by
  induction sources generalizing map with
  | nil =>
      constructor
      · intro found
        exact Or.inr ⟨fun _ impossible => (by cases impossible), found⟩
      · rintro (⟨_, impossible, _⟩ | ⟨_, found⟩)
        · cases impossible
        · exact found
  | cons source sources ih =>
      rw [List.map_cons, List.nodup_cons] at distinct
      rw [List.foldl_cons, ih _ distinct.2, getElem?_insert]
      constructor
      · rintro (⟨other, member, isKey, isValue⟩ | ⟨absent, found⟩)
        · exact Or.inl ⟨other, List.mem_cons_of_mem _ member, isKey, isValue⟩
        · by_cases same : key source = wanted
          · rw [if_pos same, Option.some.injEq] at found
            exact Or.inl ⟨source, List.mem_cons_self, same, found⟩
          · rw [if_neg same] at found
            refine Or.inr ⟨fun other member => ?_, found⟩
            rcases List.mem_cons.mp member with rfl | member
            · exact same
            · exact absent other member
      · rintro (⟨other, member, isKey, isValue⟩ | ⟨absent, found⟩)
        · rcases List.mem_cons.mp member with rfl | member
          · refine Or.inr ⟨fun later inLater twice => ?_, ?_⟩
            · exact distinct.1 (List.mem_map.mpr ⟨later, inLater, twice.trans isKey.symm⟩)
            · rw [if_pos isKey, isValue]
          · exact Or.inl ⟨other, member, isKey, isValue⟩
        · refine Or.inr ⟨fun other member => absent other (List.mem_cons_of_mem _ member), ?_⟩
          rw [if_neg (absent source List.mem_cons_self)]
          exact found

/-- A loop that inserts one entry per element has the keys of all. -/
theorem mem_foldl_insert (key : Source -> Key) (value : Source -> Value) (sources : List Source)
    (map : TreeMap Key Value cmp) (wanted : Key) :
    wanted ∈ sources.foldl (fun map source => map.insert (key source) (value source)) map <->
      wanted ∈ sources.map key ∨ wanted ∈ map := by
  induction sources generalizing map with
  | nil => simp only [List.foldl_nil, List.map_nil, List.not_mem_nil, false_or]
  | cons source sources ih =>
      rw [List.foldl_cons, ih, mem_insert, List.map_cons, List.mem_cons, or_left_comm, or_assoc,
        eq_comm]

omit [TransCmp cmp] [LawfulEqCmp cmp] in
/-- A loop that drops no key has the keys that some element enters. -/
theorem mem_foldl_of_enters {step : TreeMap Key Value cmp -> Source -> TreeMap Key Value cmp}
    {wanted : Key} (grows : forall map source, wanted ∈ map -> wanted ∈ step map source)
    {source : Source} (enters : forall map, wanted ∈ step map source) {sources : List Source}
    (member : source ∈ sources) (map : TreeMap Key Value cmp) :
    wanted ∈ sources.foldl step map := by
  have stays : forall (later : List Source) (map : TreeMap Key Value cmp), wanted ∈ map ->
      wanted ∈ later.foldl step map := by
    intro later
    induction later with
    | nil => exact fun _ there => there
    | cons first rest ih => exact fun map there => ih _ (grows map first there)
  induction sources generalizing map with
  | nil => cases member
  | cons first rest ih =>
      rcases List.mem_cons.mp member with rfl | later
      · exact stays rest _ (enters map)
      · exact ih later _

/-- A loop that erases the keys of a kind. -/
theorem getElem?_foldl_erase [DecidableEq Key] (kind : Key -> Prop) [DecidablePred kind]
    (keys : List Key) (map : TreeMap Key Value cmp) (wanted : Key) :
    (keys.foldl (fun map key => if kind key then map.erase key else map) map)[wanted]? =
      if wanted ∈ keys ∧ kind wanted then none else map[wanted]? := by
  induction keys generalizing map with
  | nil =>
      rw [if_neg fun both => List.not_mem_nil both.1]
      rfl
  | cons key keys ih =>
      rw [List.foldl_cons, ih]
      by_cases gone : wanted ∈ keys ∧ kind wanted
      · rw [if_pos gone, if_pos ⟨List.mem_cons_of_mem _ gone.1, gone.2⟩]
      · rw [if_neg gone]
        by_cases here : key = wanted ∧ kind key
        · rw [if_pos here.2, getElem?_erase, if_pos here.1,
            if_pos ⟨here.1 ▸ List.mem_cons_self, here.1 ▸ here.2⟩]
        · have later : ¬ (wanted ∈ key :: keys ∧ kind wanted) := by
            rintro ⟨member, isKind⟩
            rcases List.mem_cons.mp member with rfl | member
            · exact here ⟨rfl, isKind⟩
            · exact gone ⟨member, isKind⟩
          rw [if_neg later]
          split
          · rename_i isKind
            rw [getElem?_erase, if_neg fun same => here ⟨same, isKind⟩]
          · rfl

/-- The entries of a map have distinct keys. -/
theorem nodup_toList_keys (map : TreeMap Key Value cmp) :
    (map.toList.map Prod.fst).Nodup := by
  rw [List.Nodup, List.pairwise_map]
  apply map.distinct_keys_toList.imp
  intro first second differ same
  exact differ (LawfulEqCmp.compare_eq_iff_eq.mpr same)

theorem nodup_keys (map : TreeMap Key Value cmp) : map.keys.Nodup := by
  rw [← TreeMap.map_fst_toList_eq_keys]
  exact nodup_toList_keys map

/-- No two keys come before each other. -/
instance antisymm_lt : Std.Antisymm fun early late => cmp early late = .lt where
  antisymm early late less greater := by
    have wrong := OrientedCmp.gt_of_lt greater
    rw [less] at wrong
    cases wrong

/-- The map of a sorted list of entries has these entries in this order. -/
theorem toList_ofList {entries : List (Key × Value)}
    (sorted : entries.Pairwise fun first second => cmp first.1 second.1 = .lt) :
    (TreeMap.ofList entries cmp).toList = entries := by
  have distinct : entries.Pairwise fun first second => ¬ cmp first.1 second.1 = .eq :=
    sorted.imp fun less same => by
      rw [less] at same
      cases same
  have nodup : forall {list : List (Key × Value)},
      (list.Pairwise fun first second => cmp first.1 second.1 = .lt) -> list.Nodup := by
    intro list isSorted
    refine isSorted.imp ?_
    rintro first second less rfl
    have same : cmp first.1 first.1 = .eq := ReflCmp.compare_self
    rw [same] at less
    cases less
  have perm : (TreeMap.ofList entries cmp).toList.Perm entries := by
    refine (List.perm_ext_iff_of_nodup (nodup TreeMap.ordered_keys_toList) (nodup sorted)).mpr ?_
    rintro ⟨key, value⟩
    rw [TreeMap.mem_toList_iff_getElem?_eq_some]
    constructor
    · intro found
      have member : key ∈ TreeMap.ofList entries cmp := (mem_iff _ key).mpr ⟨value, found⟩
      classical
      rw [TreeMap.mem_ofList, List.contains_iff_mem] at member
      rcases List.mem_map.mp member with ⟨⟨_, other⟩, isEntry, rfl⟩
      rw [TreeMap.getElem?_ofList_of_mem ReflCmp.compare_self distinct isEntry] at found
      cases found
      exact isEntry
    · exact TreeMap.getElem?_ofList_of_mem ReflCmp.compare_self distinct
  refine perm.eq_of_pairwise ?_ TreeMap.ordered_keys_toList sorted
  intro first second _ _ less greater
  have wrong := OrientedCmp.gt_of_lt greater
  rw [less] at wrong
  cases wrong

/-- A map that has all keys of another one, and reads at least as much under
each of them, reads at least as much in all. -/
theorem flatMap_sublist {Item : Type} {first second : TreeMap Key Value cmp}
    (read : Value -> List Item)
    (covers : forall (key : Key) (value : Value), first[key]? = some value ->
      Exists fun other => second[key]? = some other ∧ (read value).Sublist (read other)) :
    (first.toList.flatMap fun entry => read entry.2).Sublist
      (second.toList.flatMap fun entry => read entry.2) := by
  have byKeys : forall map : TreeMap Key Value cmp,
      (map.toList.flatMap fun entry => read entry.2) =
        (map.toList.map Prod.fst).flatMap fun key => (map[key]?.map read).getD [] := by
    intro map
    rw [List.flatMap_map]
    refine List.flatMap_congr fun entry member => ?_
    rw [TreeMap.mem_toList_iff_getElem?_eq_some.mp member]
    rfl
  have keys : (first.toList.map Prod.fst).Sublist (second.toList.map Prod.fst) := by
    have sorted : forall map : TreeMap Key Value cmp,
        (map.toList.map Prod.fst).Pairwise fun early late => cmp early late = .lt :=
      fun map => List.pairwise_map.mpr TreeMap.ordered_keys_toList
    refine List.sublist_of_subperm_of_pairwise (r := fun early late => cmp early late = .lt) ?_
      (sorted first) (sorted second)
    refine List.subperm_of_subset (nodup_toList_keys first) fun key member => ?_
    rcases List.mem_map.mp member with ⟨⟨_, value⟩, isEntry, rfl⟩
    rcases covers _ value (TreeMap.mem_toList_iff_getElem?_eq_some.mp isEntry) with
      ⟨other, found, _⟩
    exact List.mem_map.mpr ⟨_, TreeMap.mem_toList_iff_getElem?_eq_some.mpr found, rfl⟩
  rw [byKeys first, byKeys second]
  refine (List.Sublist.flatMap_right _ fun key member => ?_).trans (keys.flatMap _)
  rcases List.mem_map.mp member with ⟨⟨_, value⟩, isEntry, rfl⟩
  have here := TreeMap.mem_toList_iff_getElem?_eq_some.mp isEntry
  rcases covers _ value here with ⟨other, found, more⟩
  rw [here, found]
  exact more

/-- The entries under one key. -/
theorem toList_filter_key [DecidableEq Key] (map : TreeMap Key Value cmp) (key : Key) :
    (map.toList.filter fun entry => decide (entry.1 = key)) =
      (map[key]?).toList.map fun value => (key, value) := by
  have member : forall entry, entry ∈ (map.toList.filter fun entry => decide (entry.1 = key)) ->
      entry.1 = key ∧ map[key]? = some entry.2 := by
    rintro ⟨other, value⟩ inList
    rcases List.mem_filter.mp inList with ⟨inMap, isKey⟩
    rw [decide_eq_true_eq] at isKey
    exact ⟨isKey, isKey ▸ TreeMap.mem_toList_iff_getElem?_eq_some.mp inMap⟩
  have distinct := (nodup_toList_keys map).sublist
    ((List.filter_sublist (p := fun entry => decide (entry.1 = key))).map Prod.fst)
  cases entries : map.toList.filter fun entry => decide (entry.1 = key) with
  | nil =>
      cases found : map[key]? with
      | none => rfl
      | some value =>
          have inList : (key, value) ∈
              map.toList.filter fun entry => decide (entry.1 = key) :=
            List.mem_filter.mpr
              ⟨TreeMap.mem_toList_iff_getElem?_eq_some.mpr found, decide_eq_true rfl⟩
          rw [entries] at inList
          cases inList
  | cons first rest =>
      rw [entries] at member distinct
      have isFirst := member first List.mem_cons_self
      rw [List.map_cons, List.nodup_cons] at distinct
      cases rest with
      | nil =>
          rw [isFirst.2, Option.toList_some, List.map_singleton, ← isFirst.1]
      | cons second others =>
          have isSecond := member second (List.mem_cons_of_mem _ List.mem_cons_self)
          refine absurd ?_ distinct.1
          rw [isFirst.1, ← isSecond.1]
          exact List.mem_cons_self

/-- A map that has at most one key. -/
theorem toList_of_only [DecidableEq Key] {map : TreeMap Key Value cmp} {only : Key}
    (isOnly : forall key, key ∈ map -> key = only) :
    map.toList = (map[only]?).toList.map fun value => (only, value) := by
  rw [← toList_filter_key, List.filter_eq_self.mpr]
  rintro ⟨key, value⟩ inList
  have found := TreeMap.mem_toList_iff_getElem?_eq_some.mp inList
  exact decide_eq_true (isOnly key ((mem_iff map key).mpr ⟨value, found⟩))

/-- Where every item tells the key it is stored under, the items of one key
are those that tell it. -/
theorem filter_flatMap [DecidableEq Key] {Item : Type} (map : TreeMap Key Value cmp)
    (read : Value -> List Item) (keyOf : Item -> Key)
    (own : forall (key : Key) (value : Value), map[key]? = some value ->
      forall item, item ∈ read value -> keyOf item = key) (key : Key) :
    ((map.toList.flatMap fun entry => read entry.2).filter fun item => decide (keyOf item = key)) =
      (map[key]?.map read).getD [] := by
  have loop : forall entries : List (Key × Value),
      (forall entry, entry ∈ entries -> forall item, item ∈ read entry.2 ->
        keyOf item = entry.1) ->
      ((entries.flatMap fun entry => read entry.2).filter
          fun item => decide (keyOf item = key)) =
        (entries.filter fun entry => decide (entry.1 = key)).flatMap
          fun entry => read entry.2 := by
    intro entries
    induction entries with
    | nil => exact fun _ => rfl
    | cons entry entries ih =>
        intro told
        have here := told entry List.mem_cons_self
        rw [List.flatMap_cons, List.filter_append,
          ih fun other member => told other (List.mem_cons_of_mem _ member), List.filter_cons]
        by_cases isKey : entry.1 = key
        · rw [if_pos (decide_eq_true isKey), List.flatMap_cons, List.filter_eq_self.mpr]
          intro item member
          exact decide_eq_true ((here item member).trans isKey)
        · rw [if_neg (by rw [decide_eq_true_eq]; exact isKey), List.filter_eq_nil_iff.mpr]
          · rfl
          · intro item member isItem
            rw [decide_eq_true_eq] at isItem
            exact isKey ((here item member).symm.trans isItem)
  rw [loop, toList_filter_key]
  · cases map[key]? with
    | none => rfl
    | some value => simp only [Option.toList_some, List.map_singleton, List.flatMap_singleton,
        Option.map_some, Option.getD_some]
  · rintro ⟨other, value⟩ inList
    exact own other value (TreeMap.mem_toList_iff_getElem?_eq_some.mp inList)

end OrderedMap
end DyunGu
