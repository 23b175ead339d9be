import DyunGu.Graph.Validate
import DyunGu.Lib.Digraph
import DyunGu.Lib.OrderedMap

namespace DyunGu
namespace Graph
namespace GraphSpec

open Relation
open Digraph (Cyclic Settled)

/-!
# The search for cycles

The validator rejects a cycle that it finds by a depth-first search in three
colors.  Nodes that the search has entered and not left are gray, and each of
them leads to the node it is at.  The black nodes are settled.
-/

variable {table : Std.TreeMap String (List String)}

/-! ## Runs of the search -/

/-- What a call of the search or its loop over neighbors still has to do. -/
inductive Task where
  | node (name : String)
  | rest (neighbors : List String)

/-- The recursion with no bound on its depth.  A derivation is a call that
ends, with what it answers. -/
inductive Search (table : Std.TreeMap String (List String)) :
    Task -> Colors -> Bool × Colors -> Prop where
  | found {name : String} {colors next : Colors}
      (loop : Search table (.rest (table.getD name [])) (colors.insert name .gray) (true, next)) :
      Search table (.node name) colors (true, next)
  | left {name : String} {colors next : Colors}
      (loop : Search table (.rest (table.getD name [])) (colors.insert name .gray) (false, next)) :
      Search table (.node name) colors (false, next.insert name .black)
  | nil {colors : Colors} : Search table (.rest []) colors (false, colors)
  | gray {name : String} {names : List String} {colors : Colors}
      (color : colors.getD name .white = .gray) :
      Search table (.rest (name :: names)) colors (true, colors)
  | black {name : String} {names : List String} {colors : Colors} {answer : Bool × Colors}
      (color : colors.getD name .white = .black)
      (later : Search table (.rest names) colors answer) :
      Search table (.rest (name :: names)) colors answer
  | inside {name : String} {names : List String} {colors next : Colors}
      (color : colors.getD name .white = .white)
      (call : Search table (.node name) colors (true, next)) :
      Search table (.rest (name :: names)) colors (true, next)
  | white {name : String} {names : List String} {colors next : Colors} {answer : Bool × Colors}
      (color : colors.getD name .white = .white)
      (call : Search table (.node name) colors (false, next))
      (later : Search table (.rest names) next answer) :
      Search table (.rest (name :: names)) colors answer

/-- The loop over all nodes, which searches from those that are still white. -/
inductive SearchAll (table : Std.TreeMap String (List String)) :
    List String -> Colors -> Bool -> Prop where
  | nil {colors : Colors} : SearchAll table [] colors false
  | passed {name : String} {names : List String} {colors : Colors} {answer : Bool}
      (color : colors.getD name .white ≠ .white)
      (later : SearchAll table names colors answer) : SearchAll table (name :: names) colors answer
  | found {name : String} {names : List String} {colors next : Colors}
      (color : colors.getD name .white = .white)
      (call : Search table (.node name) colors (true, next)) :
      SearchAll table (name :: names) colors true
  | searched {name : String} {names : List String} {colors next : Colors} {answer : Bool}
      (color : colors.getD name .white = .white)
      (call : Search table (.node name) colors (false, next))
      (later : SearchAll table names next answer) : SearchAll table (name :: names) colors answer

/-! ## What a run finds -/

def colored (colors : Colors) (color : Color) : Set String :=
  {name | colors.getD name .white = color}

theorem getD_insert (colors : Colors) (name other : String) (color : Color) :
    (colors.insert name color).getD other .white =
      if name = other then color else colors.getD other .white := by
  rw [Std.TreeMap.getD_eq_getD_getElem?, OrderedMap.getElem?_insert,
    Std.TreeMap.getD_eq_getD_getElem?]
  split <;> rfl

/-- A run leaves the gray nodes and may turn white ones black. -/
structure Explores (colors next : Colors) : Prop where
  gray : colored next .gray = colored colors .gray
  black : colored colors .black ⊆ colored next .black

theorem Explores.refl (colors : Colors) : Explores colors colors := ⟨rfl, fun _ member => member⟩

theorem Explores.trans {colors middle next : Colors} (first : Explores colors middle)
    (second : Explores middle next) : Explores colors next :=
  ⟨second.gray.trans first.gray, fun _ member => second.black (first.black member)⟩

theorem Explores.white {colors next : Colors} (explores : Explores colors next) {name : String}
    (color : next.getD name .white = .white) : colors.getD name .white = .white := by
  cases before : colors.getD name .white with
  | white => rfl
  | gray =>
      have still : name ∈ colored next .gray := explores.gray ▸ before
      exact absurd (color.symm.trans still) (by decide)
  | black => exact absurd (color.symm.trans (explores.black before)) (by decide)

/-- The table's edges. -/
def Adjacent (table : Std.TreeMap String (List String)) (first second : String) : Prop :=
  second ∈ table.getD first []

/-- Every gray node leads to the node that the search is at. -/
def Leads (table : Std.TreeMap String (List String)) (colors : Colors) (name : String) : Prop :=
  forall early, early ∈ colored colors .gray -> ReflTransGen (Adjacent table) early name

def Task.Starts (table : Std.TreeMap String (List String)) (colors : Colors) : Task -> Prop
  | .node name => colors.getD name .white = .white ∧ Leads table colors name
  | .rest names => Exists fun name =>
      (forall next, next ∈ names -> Adjacent table name next) ∧ Leads table colors name

def Task.Ends (next : Colors) : Task -> Prop
  | .node name => next.getD name .white = .black
  | .rest names => forall name, name ∈ names -> next.getD name .white = .black

/-- What an answer says about the graph. -/
structure Answers (table : Std.TreeMap String (List String)) (task : Task) (colors next : Colors) :
    Prop where
  settled : Settled (Adjacent table) (colored next .black)
  explores : Explores colors next
  ends : task.Ends next

private theorem colored_enter {colors : Colors} {name : String}
    (color : colors.getD name .white = .white) :
    colored (colors.insert name .gray) .black = colored colors .black ∧
      colored (colors.insert name .gray) .gray = insert name (colored colors .gray) := by
  constructor
  · ext other
    simp only [colored, Set.mem_ofPred_eq, getD_insert]
    by_cases same : name = other
    · simp [← same, color]
    · rw [if_neg same]
  · ext other
    simp only [colored, Set.mem_ofPred_eq, getD_insert, Set.mem_insert_iff, @eq_comm _ other]
    by_cases same : name = other
    · simp [same]
    · simp [same]

private theorem colored_leave {colors next : Colors} {name : String}
    (color : colors.getD name .white = .white)
    (explores : Explores (colors.insert name .gray) next) :
    colored (next.insert name .black) .black = insert name (colored next .black) ∧
      Explores colors (next.insert name .black) := by
  have black : colored (next.insert name .black) .black = insert name (colored next .black) := by
    ext other
    simp only [colored, Set.mem_ofPred_eq, getD_insert, Set.mem_insert_iff, @eq_comm _ other]
    by_cases same : name = other
    · simp [same]
    · simp [same]
  refine ⟨black, ?_, ?_⟩
  · ext other
    have gray := Set.ext_iff.mp explores.gray other
    rw [(colored_enter color).2] at gray
    simp only [colored, Set.mem_ofPred_eq, getD_insert, Set.mem_insert_iff] at gray ⊢
    by_cases same : name = other
    · simp [← same, color]
    · rw [if_neg same, gray]
      simp [Ne.symm same]
  · rw [black]
    exact fun other member =>
      Set.mem_insert_of_mem _ (explores.black ((colored_enter color).1.symm ▸ member))

/-- The rule of the search, by the run it is about. -/
theorem Search.spec {task : Task} {colors : Colors} {answer : Bool × Colors}
    (search : Search table task colors answer)
    (settled : Settled (Adjacent table) (colored colors .black))
    (starts : task.Starts table colors) :
    (answer.1 = true -> Cyclic (Adjacent table)) ∧
      (answer.1 = false -> Answers table task colors answer.2) := by
  induction search with
  | @found name colors next loop ih =>
      rcases starts with ⟨color, leads⟩
      refine ⟨fun _ => ?_, nofun⟩
      refine (ih ((colored_enter color).1 ▸ settled) ⟨name, fun _ member => member, ?_⟩).1 rfl
      intro early member
      rw [(colored_enter color).2] at member
      rcases Set.mem_insert_iff.mp member with rfl | member
      · exact ReflTransGen.refl
      · exact leads early member
  | @left name colors next loop ih =>
      rcases starts with ⟨color, leads⟩
      refine ⟨nofun, fun _ => ?_⟩
      have inner : Answers table (.rest (table.getD name [])) (colors.insert name .gray) next := by
        refine (ih ((colored_enter color).1 ▸ settled) ⟨name, fun _ member => member, ?_⟩).2 rfl
        intro early member
        rw [(colored_enter color).2] at member
        rcases Set.mem_insert_iff.mp member with rfl | member
        · exact ReflTransGen.refl
        · exact leads early member
      rcases colored_leave color inner.explores with ⟨black, explores⟩
      have stillGray : name ∈ colored next .gray := by
        rw [inner.explores.gray, (colored_enter color).2]
        exact Set.mem_insert _ _
      refine ⟨?_, explores, ?_⟩
      · rw [black]
        refine inner.settled.insert inner.ends fun isBlack => ?_
        exact absurd (stillGray.symm.trans isBlack) (by decide)
      · change (next.insert name .black).getD name .white = .black
        rw [getD_insert, if_pos rfl]
  | nil =>
      refine ⟨nofun, fun _ => ⟨settled, Explores.refl _, ?_⟩⟩
      exact fun _ impossible => (List.not_mem_nil impossible).elim
  | @gray name names colors color =>
      rcases starts with ⟨current, adjacent, leads⟩
      refine ⟨fun _ => ?_, nofun⟩
      exact Digraph.cyclic_of_back_edge (leads name color) (adjacent name List.mem_cons_self)
  | @black name names colors answer color later ih =>
      rcases starts with ⟨current, adjacent, leads⟩
      have rest := ih settled
        ⟨current, fun next member => adjacent next (List.mem_cons_of_mem _ member), leads⟩
      refine ⟨rest.1, fun fails => ?_⟩
      have answers := rest.2 fails
      refine ⟨answers.settled, answers.explores, List.forall_mem_cons.mpr ⟨?_, answers.ends⟩⟩
      exact answers.explores.black color
  | @inside name names colors next color call ih =>
      rcases starts with ⟨current, adjacent, leads⟩
      refine ⟨fun _ => (ih settled ⟨color, fun early member => ?_⟩).1 rfl,
        nofun⟩
      exact (leads early member).tail (adjacent name List.mem_cons_self)
  | @white name names colors next answer color call later ihCall ihLater =>
      rcases starts with ⟨current, adjacent, leads⟩
      have first : Answers table (.node name) colors next := by
        refine (ihCall settled ⟨color, fun early member => ?_⟩).2 rfl
        exact (leads early member).tail (adjacent name List.mem_cons_self)
      have rest := ihLater first.settled
        ⟨current, fun other member => adjacent other (List.mem_cons_of_mem _ member),
          fun early member => leads early (first.explores.gray ▸ member)⟩
      refine ⟨rest.1, fun fails => ?_⟩
      have answers := rest.2 fails
      refine ⟨answers.settled, first.explores.trans answers.explores,
        List.forall_mem_cons.mpr ⟨?_, answers.ends⟩⟩
      exact answers.explores.black first.ends

/-- No call is open. -/
def Idle (colors : Colors) : Prop :=
  forall name, colors.getD name .white ≠ .gray

theorem Idle.leads {colors : Colors} (idle : Idle colors) (name : String) :
    Leads table colors name :=
  fun early member => absurd member (idle early)

theorem SearchAll.spec {names : List String} {colors : Colors} {answer : Bool}
    (search : SearchAll table names colors answer)
    (settled : Settled (Adjacent table) (colored colors .black)) (idle : Idle colors) :
    (answer = true -> Cyclic (Adjacent table)) ∧
      (answer = false -> Exists fun nodes : Set String => Settled (Adjacent table) nodes ∧
        colored colors .black ⊆ nodes ∧ forall name, name ∈ names -> name ∈ nodes) := by
  induction search with
  | nil =>
      refine ⟨nofun, fun _ => ⟨_, settled, fun _ member => member, ?_⟩⟩
      exact fun _ impossible => (List.not_mem_nil impossible).elim
  | @passed name names colors answer color later ih =>
      refine ⟨(ih settled idle).1, fun fails => ?_⟩
      rcases (ih settled idle).2 fails with ⟨nodes, closed, black, rest⟩
      refine ⟨nodes, closed, black, List.forall_mem_cons.mpr ⟨black ?_, rest⟩⟩
      change colors.getD name .white = .black
      cases known : colors.getD name .white with
      | white => exact absurd known color
      | gray => exact absurd known (idle name)
      | black => rfl
  | @found name names colors next color call =>
      exact ⟨fun _ => (call.spec settled ⟨color, idle.leads name⟩).1 rfl, nofun⟩
  | @searched name names colors next answer color call later ih =>
      have first := (call.spec settled ⟨color, idle.leads name⟩).2 rfl
      have idleNext : Idle next := fun other gray =>
        idle other (Set.ext_iff.mp first.explores.gray other |>.mp gray)
      refine ⟨(ih first.settled idleNext).1, fun fails => ?_⟩
      rcases (ih first.settled idleNext).2 fails with ⟨nodes, closed, black, rest⟩
      exact ⟨nodes, closed, fun _ member => black (first.explores.black member),
        List.forall_mem_cons.mpr ⟨black first.ends, rest⟩⟩

/-! ## The bound on the depth -/

/-- The nodes that the search has not entered. -/
def whites (table : Std.TreeMap String (List String)) (colors : Colors) : Nat :=
  table.keys.countP fun name => decide (colors.getD name .white = .white)

theorem Search.white_before {task : Task} {colors : Colors} {answer : Bool × Colors}
    (search : Search table task colors answer) (name : String)
    (color : answer.2.getD name .white = .white) : colors.getD name .white = .white := by
  induction search with
  | @found current colors next loop ih =>
      have inner := ih color
      rw [getD_insert] at inner
      split at inner
      · cases inner
      · exact inner
  | @left current colors next loop ih =>
      rw [getD_insert] at color
      split at color
      · cases color
      · rename_i other
        have inner := ih color
        rwa [getD_insert, if_neg other] at inner
  | nil => exact color
  | gray known => exact color
  | black known later ih => exact ih color
  | inside known call ih => exact ih color
  | white known call later ihCall ihLater => exact ihCall (ihLater color)

theorem whites_le {colors next : Colors}
    (before : forall name, next.getD name .white = .white -> colors.getD name .white = .white) :
    whites table next ≤ whites table colors := by
  refine List.countP_mono_left fun name _ color => ?_
  exact decide_eq_true (before name (of_decide_eq_true color))

/-- Entering a node of the table leaves one white node less. -/
theorem whites_enter {colors : Colors} {name : String} (key : name ∈ table)
    (color : colors.getD name .white = .white) :
    whites table (colors.insert name .gray) + 1 = whites table colors := by
  have shape : table.keys.Perm (name :: table.keys.erase name) :=
    List.perm_cons_erase (Std.TreeMap.mem_keys.mpr key)
  have absent : name ∉ table.keys.erase name := (OrderedMap.nodup_keys table).not_mem_erase
  have rest : (table.keys.erase name).countP (fun other =>
        decide ((colors.insert name .gray).getD other .white = .white)) =
      (table.keys.erase name).countP fun other => decide (colors.getD other .white = .white) := by
    refine List.countP_congr fun other member => ?_
    have differs : name ≠ other := fun same => absent (same ▸ member)
    rw [getD_insert, if_neg differs]
  unfold whites
  rw [shape.countP_eq, shape.countP_eq, List.countP_cons, List.countP_cons, rest, getD_insert]
  simp [color]

private def visit (table : Std.TreeMap String (List String)) (depth : Nat)
    (state : Bool × Colors) (neighbor : String) : Bool × Colors :=
  if state.1 then state
  else
    match state.2.getD neighbor .white with
    | .gray => (true, state.2)
    | .white => dfs table depth neighbor state.2
    | .black => state

private theorem foldl_found {State Item : Type} {step : Bool × State -> Item -> Bool × State}
    (stops : forall state item, state.1 = true -> step state item = state) (items : List Item)
    (state : Bool × State) (found : state.1 = true) : items.foldl step state = state := by
  induction items with
  | nil => rfl
  | cons item items ih => rw [List.foldl_cons, stops state item found, ih]

private theorem visit_found (depth : Nat) (state : Bool × Colors) (neighbor : String)
    (found : state.1 = true) : visit table depth state neighbor = state :=
  if_pos found

private theorem search_loop {depth : Nat}
    (call : forall name colors, colors.getD name .white = .white ->
      whites table colors < depth -> Search table (.node name) colors (dfs table depth name colors))
    (names : List String) (colors : Colors) (enough : whites table colors < depth) :
    Search table (.rest names) colors (names.foldl (visit table depth) (false, colors)) := by
  induction names generalizing colors with
  | nil => exact .nil
  | cons name names ih =>
      rw [List.foldl_cons]
      cases color : colors.getD name .white with
      | gray =>
          have step : visit table depth (false, colors) name = (true, colors) := by
            simp [visit, color]
          rw [step, foldl_found (visit_found depth) names _ rfl]
          exact .gray color
      | black =>
          have step : visit table depth (false, colors) name = (false, colors) := by
            simp [visit, color]
          rw [step]
          exact .black color (ih colors enough)
      | white =>
          have step : visit table depth (false, colors) name = dfs table depth name colors := by
            simp [visit, color]
          rw [step]
          have inner := call name colors color enough
          generalize dfs table depth name colors = answer at inner
          rcases answer with ⟨found, next⟩
          cases found with
          | true =>
              rw [foldl_found (visit_found depth) names _ rfl]
              exact .inside color inner
          | false =>
              have fewer : whites table next ≤ whites table colors :=
                whites_le fun other => inner.white_before other
              exact .white color inner (ih next (by omega))

private theorem dfs_succ (depth : Nat) (name : String) (colors : Colors) :
    dfs table (depth + 1) name colors =
      let searched :=
        (table.getD name []).foldl (visit table depth) (false, colors.insert name .gray)
      if searched.1 then searched else (false, searched.2.insert name .black) := rfl

/-- With more depth than white nodes the bound is never met. -/
theorem search_dfs (depth : Nat) (name : String) (colors : Colors)
    (color : colors.getD name .white = .white) (enough : whites table colors < depth) :
    Search table (.node name) colors (dfs table depth name colors) := by
  induction depth generalizing name colors with
  | zero => omega
  | succ depth ih =>
      have loop : Search table (.rest (table.getD name [])) (colors.insert name .gray)
          ((table.getD name []).foldl (visit table depth) (false, colors.insert name .gray)) := by
        by_cases key : name ∈ table
        · have fewer := whites_enter key color
          exact search_loop ih _ _ (by omega)
        · rw [Std.TreeMap.getD_eq_fallback key]
          exact .nil
      rw [dfs_succ]
      generalize (table.getD name []).foldl (visit table depth) (false, colors.insert name .gray)
        = answer at loop
      rcases answer with ⟨found, next⟩
      cases found with
      | true => exact .found loop
      | false => exact .left loop

private def visitAll (table : Std.TreeMap String (List String)) (state : Bool × Colors)
    (node : String) : Bool × Colors :=
  if state.1 then state
  else if state.2.getD node .white = .white then dfs table (table.size + 1) node state.2
  else state

private theorem visitAll_found (state : Bool × Colors) (node : String) (found : state.1 = true) :
    visitAll table state node = state :=
  if_pos found

theorem searchAll_foldl (names : List String) (colors : Colors) :
    SearchAll table names colors (names.foldl (visitAll table) (false, colors)).1 := by
  induction names generalizing colors with
  | nil => exact .nil
  | cons name names ih =>
      rw [List.foldl_cons]
      by_cases color : colors.getD name .white = .white
      · have step : visitAll table (false, colors) name =
            dfs table (table.size + 1) name colors := by
          simp [visitAll, color]
        have bound : whites table colors < table.size + 1 :=
          Nat.lt_succ_of_le (Std.TreeMap.length_keys (t := table) ▸ List.countP_le_length)
        have inner := search_dfs (table.size + 1) name colors color bound
        rw [step]
        generalize dfs table (table.size + 1) name colors = answer at inner
        rcases answer with ⟨found, next⟩
        cases found with
        | true =>
            rw [foldl_found visitAll_found names _ rfl]
            exact .found color inner
        | false => exact .searched color inner (ih next)
      · have step : visitAll table (false, colors) name = (false, colors) := by
          simp [visitAll, color]
        rw [step]
        exact .passed color (ih colors)

/-! ## The search is exact -/

theorem Search.unique {task : Task} {colors : Colors} {first second : Bool × Colors}
    (one : Search table task colors first) (other : Search table task colors second) :
    first = second := by
  induction one generalizing second with
  | found loop ih =>
      cases other with
      | found loop' => exact ih loop'
      | left loop' => cases ih loop'
  | left loop ih =>
      cases other with
      | found loop' => cases ih loop'
      | left loop' => cases ih loop'; rfl
  | nil => cases other; rfl
  | gray color =>
      cases other with
      | gray => rfl
      | black color' => cases color.symm.trans color'
      | inside color' => cases color.symm.trans color'
      | white color' => cases color.symm.trans color'
  | black color later ih =>
      cases other with
      | gray color' => cases color.symm.trans color'
      | black color' later' => exact ih later'
      | inside color' => cases color.symm.trans color'
      | white color' => cases color.symm.trans color'
  | inside color call ih =>
      cases other with
      | gray color' => cases color.symm.trans color'
      | black color' => cases color.symm.trans color'
      | inside color' call' => exact ih call'
      | white color' call' => cases ih call'
  | white color call later ihCall ihLater =>
      cases other with
      | gray color' => cases color.symm.trans color'
      | black color' => cases color.symm.trans color'
      | inside color' call' => cases ihCall call'
      | white color' call' later' =>
          cases ihCall call'
          exact ihLater later'

theorem SearchAll.unique {names : List String} {colors : Colors} {first second : Bool}
    (one : SearchAll table names colors first) (other : SearchAll table names colors second) :
    first = second := by
  induction one generalizing second with
  | nil => cases other; rfl
  | passed color later ih =>
      cases other with
      | passed _ later' => exact ih later'
      | found color' => exact absurd color' color
      | searched color' => exact absurd color' color
  | found color call =>
      cases other with
      | passed color' => exact absurd color color'
      | found => rfl
      | searched _ call' => cases call.unique call'
  | searched color call later ih =>
      cases other with
      | passed color' => exact absurd color color'
      | found _ call' => cases call.unique call'
      | searched _ call' later' =>
          cases call.unique call'
          exact ih later'

private theorem getD_step (table : Std.TreeMap String (List String)) (edge : String × String)
    (name : String) :
    (table.insert edge.1 (table.getD edge.1 [] ++ [edge.2])).getD name [] =
      if edge.1 = name then table.getD name [] ++ [edge.2] else table.getD name [] := by
  rw [Std.TreeMap.getD_eq_getD_getElem?, OrderedMap.getElem?_insert]
  split
  · rename_i same
    rw [same]
    rfl
  · rw [Std.TreeMap.getD_eq_getD_getElem?]

private theorem getD_nodes (nodes : List NodeSpec) (table : Std.TreeMap String (List String))
    (name : String) :
    (nodes.foldl (fun table node => table.insertIfNew node.name []) table).getD name [] =
      table.getD name [] := by
  induction nodes generalizing table with
  | nil => rfl
  | cons node nodes ih =>
      rw [List.foldl_cons, ih, Std.TreeMap.getD_insertIfNew]
      split
      · rename_i entered
        rw [Std.LawfulEqCmp.compare_eq_iff_eq] at entered
        rw [Std.TreeMap.getD_eq_fallback (entered.1 ▸ entered.2)]
      · rfl

/-- An edge is listed under its source, whether that is a node or not. -/
theorem mem_adjacency (nodes : List NodeSpec) (edges : List (String × String))
    (first second : String) :
    Adjacent (adjacency nodes edges) first second <-> (first, second) ∈ edges := by
  have listed : forall (edges : List (String × String)) (table : Std.TreeMap String (List String)),
      second ∈ (edges.foldl (fun table edge =>
          table.insert edge.1 (table.getD edge.1 [] ++ [edge.2])) table).getD first [] <->
        second ∈ table.getD first [] ∨ (first, second) ∈ edges := by
    intro edges
    induction edges with
    | nil => simp
    | cons edge edges ih =>
        intro table
        rcases edge with ⟨source, target⟩
        rw [List.foldl_cons, ih, getD_step]
        by_cases same : source = first
        · simp [same, or_assoc, List.mem_append]
        · simp [same, Ne.symm same]
  have start : (nodes.foldl (fun table node => table.insertIfNew node.name [])
      ({} : Std.TreeMap String (List String))).getD first [] = [] := by
    rw [getD_nodes]
    rfl
  unfold Adjacent adjacency
  rw [listed, start]
  simp

/-- The search with no bound on its depth ends with exactly one answer, which
is that of `hasCycle`, and it is whether the edges have a cycle. -/
theorem hasCycle_exact (nodes : List NodeSpec) (edges : List (String × String)) :
    (forall answer, SearchAll (adjacency nodes edges) (adjacency nodes edges).keys {} answer <->
        answer = hasCycle nodes edges) ∧
      (hasCycle nodes edges = true <-> Cyclic fun first second => (first, second) ∈ edges) := by
  have run : SearchAll (adjacency nodes edges) (adjacency nodes edges).keys {}
      (hasCycle nodes edges) := searchAll_foldl _ _
  have colors : forall color, color ≠ Color.white -> colored {} color = ∅ := by
    intro color other
    refine Set.eq_empty_iff_forall_notMem.mpr fun name member => other ?_
    exact Eq.symm (member : Color.white = color)
  have spec := run.spec (by rw [colors .black (by decide)]; exact Digraph.settled_empty)
    (fun name gray => (by decide : Color.white ≠ .gray) gray)
  have same : Adjacent (adjacency nodes edges) = fun first second => (first, second) ∈ edges := by
    funext first second
    exact propext (mem_adjacency nodes edges first second)
  refine ⟨fun answer => ⟨fun other => other.unique run, fun agrees => agrees ▸ run⟩, ?_⟩
  rw [← same]
  refine ⟨spec.1, fun cyclic => ?_⟩
  by_contra misses
  rcases spec.2 (Bool.not_eq_true _ ▸ misses) with ⟨settled, closed, -, all⟩
  rcases cyclic with ⟨node, cycle⟩
  rcases TransGen.head'_iff.mp cycle with ⟨next, step, -⟩
  have key : node ∈ adjacency nodes edges := by
    by_contra absent
    unfold Adjacent at step
    rw [Std.TreeMap.getD_eq_fallback absent] at step
    cases step
  exact closed.acyclic node (all node (Std.TreeMap.mem_keys.mpr key)) cycle

end GraphSpec
end Graph
end DyunGu
