import DyunGu.Graph.Spec
import DyunGu.Lib.OrderedMap

namespace DyunGu
namespace Graph

/-!
# Differences between two specifications

A diff lists the nodes and connections by which one specification differs
from another.  `diff` computes one, `merge_for_diff` applies one.
-/

structure GraphDiff where
  addedNodes : List NodeSpec
  removedNodes : List String
  updatedNodes : List NodeSpec
  addedConnections : List String
  removedConnections : List String
deriving DecidableEq

def GraphDiff.isEmpty (diff : GraphDiff) : Bool :=
  diff.addedNodes.isEmpty && diff.removedNodes.isEmpty && diff.updatedNodes.isEmpty &&
    diff.addedConnections.isEmpty && diff.removedConnections.isEmpty

namespace GraphSpec

def nodeMap (spec : GraphSpec) : Std.TreeMap String NodeSpec :=
  spec.nodes.foldl (fun nodes node => nodes.insert node.name node) {}

def connectionSet (spec : GraphSpec) : Std.TreeMap String Unit :=
  spec.connections.foldl (fun connections connection => connections.insert connection ()) {}

/-- The keys of one ordered set that another one lacks, in order. -/
def difference (first second : Std.TreeMap String Unit) : List String :=
  first.keys.filter fun key => decide (key ∉ second)

def diff (old new : GraphSpec) : GraphDiff where
  addedNodes := new.nodeMap.toList.filterMap fun entry =>
    match old.nodeMap[entry.1]? with
    | none => some entry.2
    | some _ => none
  removedNodes := old.nodeMap.keys.filter fun name => decide (name ∉ new.nodeMap)
  updatedNodes := new.nodeMap.toList.filterMap fun entry =>
    match old.nodeMap[entry.1]? with
    | none => none
    | some existing => if existing ≠ entry.2 then some entry.2 else none
  addedConnections := difference new.connectionSet old.connectionSet
  removedConnections := difference old.connectionSet new.connectionSet

def without (nodes : List NodeSpec) (name : String) : List NodeSpec :=
  nodes.filter fun existing => decide (existing.name ≠ name)

def mergeForDiff (spec : GraphSpec) (diff : GraphDiff) : GraphSpec :=
  if diff.isEmpty then spec
  else
    { spec with
      nodes := diff.updatedNodes.foldl (fun nodes node => without nodes node.name ++ [node])
        (diff.removedNodes.foldl without spec.nodes ++ diff.addedNodes)
      connections := diff.removedConnections.foldl
        (fun connections removed => connections.filter fun existing => decide (existing ≠ removed))
        spec.connections ++ diff.addedConnections }

/-! ## Connections that a diff keeps -/

/-- A diff covers a new specification if every connection that was not there
before is listed as added. -/
def Covers (old new : GraphSpec) (diff : GraphDiff) : Prop :=
  forall connection, connection ∈ new.connections ->
    connection ∈ old.connections ∨ connection ∈ diff.addedConnections

private theorem mem_connectionSet (spec : GraphSpec) (connection : String) :
    connection ∈ spec.connectionSet <-> connection ∈ spec.connections := by
  apply (OrderedMap.mem_foldl_insert id (fun _ => ()) spec.connections {} connection).trans
  simp

theorem diff_covers (old new : GraphSpec) : Covers old new (diff old new) := by
  intro connection member
  by_cases before : connection ∈ old.connections
  · exact Or.inl before
  · refine Or.inr (List.mem_filter.mpr ⟨?_, decide_eq_true ?_⟩)
    · rw [Std.TreeMap.mem_keys, mem_connectionSet]
      exact member
    · rw [mem_connectionSet]
      exact before

theorem mergeForDiff_covers (spec : GraphSpec) (diff : GraphDiff) :
    Covers spec (spec.mergeForDiff diff) diff := by
  have loop : forall (removed kept : List String),
      removed.foldl (fun connections removed =>
        connections.filter fun existing => decide (existing ≠ removed)) kept ⊆ kept := by
    intro removed
    induction removed with
    | nil => exact fun kept => List.Subset.refl kept
    | cons first rest ih =>
        intro kept
        exact List.Subset.trans (ih _) List.filter_sublist.subset
  intro connection member
  unfold mergeForDiff at member
  split at member
  · exact Or.inl member
  · rcases List.mem_append.mp member with kept | added
    · exact Or.inl (loop _ _ kept)
    · exact Or.inr added

/-! ## Nodes that a diff keeps -/

/-- A diff names every node that a new specification lacks as removed. -/
def KeepsNames (old new : GraphSpec) (diff : GraphDiff) : Prop :=
  forall name, name ∈ old.nodes.map NodeSpec.name ->
    name ∈ new.nodes.map NodeSpec.name ∨ name ∈ diff.removedNodes

private theorem mem_nodeMap (spec : GraphSpec) (name : String) :
    name ∈ spec.nodeMap <-> name ∈ spec.nodes.map NodeSpec.name := by
  apply (OrderedMap.mem_foldl_insert NodeSpec.name id spec.nodes {} name).trans
  simp

theorem diff_keepsNames (old new : GraphSpec) : KeepsNames old new (diff old new) := by
  intro name member
  by_cases kept : name ∈ new.nodes.map NodeSpec.name
  · exact Or.inl kept
  · refine Or.inr (List.mem_filter.mpr ⟨?_, decide_eq_true ?_⟩)
    · rw [Std.TreeMap.mem_keys, mem_nodeMap]
      exact member
    · rw [mem_nodeMap]
      exact kept

private theorem mem_without {nodes : List NodeSpec} {name removed : String}
    (member : name ∈ nodes.map NodeSpec.name) (differ : name ≠ removed) :
    name ∈ (without nodes removed).map NodeSpec.name := by
  rcases List.mem_map.mp member with ⟨node, inNodes, rfl⟩
  exact List.mem_map_of_mem (List.mem_filter.mpr ⟨inNodes, decide_eq_true differ⟩)

theorem mergeForDiff_keepsNames (spec : GraphSpec) (diff : GraphDiff) :
    KeepsNames spec (spec.mergeForDiff diff) diff := by
  intro name member
  by_cases gone : name ∈ diff.removedNodes
  · exact Or.inr gone
  left
  have afterRemoved : forall (removed : List String) (nodes : List NodeSpec),
      name ∉ removed -> name ∈ nodes.map NodeSpec.name ->
        name ∈ (removed.foldl without nodes).map NodeSpec.name := by
    intro removed
    induction removed with
    | nil => exact fun nodes _ inNodes => inNodes
    | cons first rest ih =>
        intro nodes outside inNodes
        rw [List.mem_cons, not_or] at outside
        exact ih _ outside.2 (mem_without inNodes outside.1)
  have afterUpdated : forall (updated nodes : List NodeSpec), name ∈ nodes.map NodeSpec.name ->
      name ∈ (updated.foldl (fun nodes node => without nodes node.name ++ [node]) nodes).map
        NodeSpec.name := by
    intro updated
    induction updated with
    | nil => exact fun nodes inNodes => inNodes
    | cons node rest ih =>
        intro nodes inNodes
        apply ih _
        rw [List.map_append, List.mem_append]
        by_cases same : name = node.name
        · right
          rw [same]
          exact List.mem_map_of_mem List.mem_cons_self
        · exact Or.inl (mem_without inNodes same)
  unfold mergeForDiff
  split
  · exact member
  · apply afterUpdated _ _
    rw [List.map_append, List.mem_append]
    exact Or.inl (afterRemoved _ _ gone member)

/-! ## Round trip

A diff that was computed and then applied leads from the first specification
to the second one, up to the order of nodes and connections. -/

/-- With unique names the map from names is the list of nodes. -/
theorem getElem?_nodeMap {spec : GraphSpec} (unique : (spec.nodes.map NodeSpec.name).Nodup)
    (name : String) (node : NodeSpec) :
    spec.nodeMap[name]? = some node <-> node ∈ spec.nodes ∧ node.name = name := by
  apply (OrderedMap.getElem?_foldl_insert NodeSpec.name id spec.nodes {} unique name node).trans
  simp [and_comm]

private theorem getElem?_nodeMap_none {spec : GraphSpec} (name : String) :
    spec.nodeMap[name]? = none <-> name ∉ spec.nodes.map NodeSpec.name := by
  rw [← mem_nodeMap, Std.TreeMap.mem_iff_isSome_getElem?]
  simp

theorem mem_nodeMap_toList {spec : GraphSpec} (unique : (spec.nodes.map NodeSpec.name).Nodup)
    {name : String} {entry : NodeSpec} :
    (name, entry) ∈ spec.nodeMap.toList <-> entry ∈ spec.nodes ∧ entry.name = name := by
  rw [Std.TreeMap.mem_toList_iff_getElem?_eq_some, getElem?_nodeMap unique]

private theorem eq_of_name {nodes : List NodeSpec} (unique : (nodes.map NodeSpec.name).Nodup)
    {first second : NodeSpec} (inFirst : first ∈ nodes) (inSecond : second ∈ nodes)
    (same : first.name = second.name) : first = second :=
  List.inj_on_of_nodup_map unique inFirst inSecond same

section Computed

variable {old new : GraphSpec}

private theorem mem_addedNodes (uniqueNew : (new.nodes.map NodeSpec.name).Nodup)
    (node : NodeSpec) :
    node ∈ (diff old new).addedNodes <->
      node ∈ new.nodes ∧ node.name ∉ old.nodes.map NodeSpec.name := by
  constructor
  · intro member
    rcases List.mem_filterMap.mp member with ⟨⟨name, entry⟩, listed, kept⟩
    rcases (mem_nodeMap_toList uniqueNew).mp listed with ⟨inNew, rfl⟩
    split at kept
    · rename_i missing
      cases kept
      exact ⟨inNew, (getElem?_nodeMap_none _).mp missing⟩
    · cases kept
  · rintro ⟨inNew, missing⟩
    refine List.mem_filterMap.mpr
      ⟨(node.name, node), (mem_nodeMap_toList uniqueNew).mpr ⟨inNew, rfl⟩, ?_⟩
    rw [(getElem?_nodeMap_none node.name).mpr missing]

private theorem mem_updatedNodes (uniqueOld : (old.nodes.map NodeSpec.name).Nodup)
    (uniqueNew : (new.nodes.map NodeSpec.name).Nodup) (node : NodeSpec) :
    node ∈ (diff old new).updatedNodes <->
      node ∈ new.nodes ∧ Exists fun existing =>
        existing ∈ old.nodes ∧ existing.name = node.name ∧ existing ≠ node := by
  constructor
  · intro member
    rcases List.mem_filterMap.mp member with ⟨⟨name, entry⟩, listed, kept⟩
    rcases (mem_nodeMap_toList uniqueNew).mp listed with ⟨inNew, rfl⟩
    split at kept
    · cases kept
    · rename_i existing found
      rw [getElem?_nodeMap uniqueOld] at found
      split at kept
      · rename_i differs
        cases kept
        exact ⟨inNew, existing, found.1, found.2, differs⟩
      · cases kept
  · rintro ⟨inNew, existing, inOld, same, differs⟩
    refine List.mem_filterMap.mpr
      ⟨(node.name, node), (mem_nodeMap_toList uniqueNew).mpr ⟨inNew, rfl⟩, ?_⟩
    rw [(getElem?_nodeMap uniqueOld node.name existing).mpr ⟨inOld, same⟩]
    exact if_pos differs

private theorem mem_removedNodes (name : String) :
    name ∈ (diff old new).removedNodes <->
      name ∈ old.nodes.map NodeSpec.name ∧ name ∉ new.nodes.map NodeSpec.name := by
  unfold diff
  rw [List.mem_filter, Std.TreeMap.mem_keys, decide_eq_true_iff, mem_nodeMap, mem_nodeMap]

private theorem mem_difference (first second : GraphSpec) (connection : String) :
    connection ∈ difference first.connectionSet second.connectionSet <->
      connection ∈ first.connections ∧ connection ∉ second.connections := by
  unfold difference
  rw [List.mem_filter, Std.TreeMap.mem_keys, decide_eq_true_iff, mem_connectionSet,
    mem_connectionSet]

private theorem nodup_selected {spec : GraphSpec}
    (unique : (spec.nodes.map NodeSpec.name).Nodup)
    (select : String × NodeSpec -> Option NodeSpec)
    (selects : forall entry node, select entry = some node -> node = entry.2) :
    ((spec.nodeMap.toList.filterMap select).map NodeSpec.name).Nodup := by
  have distinct : spec.nodeMap.toList.Pairwise fun first second =>
      first.2.name ≠ second.2.name := by
    refine (List.pairwise_map.mp (OrderedMap.nodup_toList_keys spec.nodeMap)).imp_of_mem ?_
    intro first second inFirst inSecond differ
    rw [Std.TreeMap.mem_toList_iff_getElem?_eq_some, getElem?_nodeMap unique] at inFirst inSecond
    rwa [inFirst.2, inSecond.2]
  refine List.pairwise_map.mpr (distinct.filterMap select ?_)
  intro first second differ node isFirst other isSecond
  rwa [selects first node isFirst, selects second other isSecond]

private theorem nodup_addedNodes (unique : (new.nodes.map NodeSpec.name).Nodup) :
    ((diff old new).addedNodes.map NodeSpec.name).Nodup := by
  refine nodup_selected unique _ fun entry node selected => ?_
  split at selected
  · cases selected
    rfl
  · cases selected

private theorem nodup_updatedNodes (unique : (new.nodes.map NodeSpec.name).Nodup) :
    ((diff old new).updatedNodes.map NodeSpec.name).Nodup := by
  refine nodup_selected unique _ fun entry node selected => ?_
  split at selected
  · cases selected
  · split at selected
    · cases selected
      rfl
    · cases selected

end Computed

/-! ### What the loops of a merge keep -/

private theorem mem_foldl_without (names : List String) (nodes : List NodeSpec) (node : NodeSpec) :
    node ∈ names.foldl without nodes <-> node ∈ nodes ∧ node.name ∉ names := by
  induction names generalizing nodes with
  | nil => simp
  | cons name names ih =>
      rw [List.foldl_cons, ih, without, List.mem_filter, decide_eq_true_iff, List.mem_cons, not_or,
        and_assoc]

private theorem foldl_without_sublist (names : List String) (nodes : List NodeSpec) :
    (names.foldl without nodes).Sublist nodes := by
  induction names generalizing nodes with
  | nil => exact List.Sublist.refl nodes
  | cons name names ih => exact (ih _).trans List.filter_sublist

private theorem mem_foldl_replace {updated : List NodeSpec}
    (unique : (updated.map NodeSpec.name).Nodup) (nodes : List NodeSpec) (node : NodeSpec) :
    node ∈ updated.foldl (fun nodes node => without nodes node.name ++ [node]) nodes <->
      node ∈ updated ∨ node ∈ nodes ∧ node.name ∉ updated.map NodeSpec.name := by
  induction updated generalizing nodes with
  | nil => simp
  | cons first rest ih =>
      rw [List.map_cons, List.nodup_cons] at unique
      rw [List.foldl_cons, ih unique.2, without, List.mem_append, List.mem_filter,
        decide_eq_true_iff, List.mem_singleton, List.map_cons, List.mem_cons, List.mem_cons,
        not_or]
      constructor
      · rintro (inRest | ⟨⟨inNodes, differs⟩ | rfl, later⟩)
        · exact Or.inl (Or.inr inRest)
        · exact Or.inr ⟨inNodes, differs, later⟩
        · exact Or.inl (Or.inl rfl)
      · rintro ((rfl | inRest) | ⟨inNodes, differs, later⟩)
        · exact Or.inr ⟨Or.inr rfl, unique.1⟩
        · exact Or.inl inRest
        · exact Or.inr ⟨Or.inl ⟨inNodes, differs⟩, later⟩

private theorem nodup_foldl_replace (updated : List NodeSpec) {nodes : List NodeSpec}
    (unique : (nodes.map NodeSpec.name).Nodup) :
    ((updated.foldl (fun nodes node => without nodes node.name ++ [node]) nodes).map
      NodeSpec.name).Nodup := by
  induction updated generalizing nodes with
  | nil => exact unique
  | cons first rest ih =>
      apply ih
      rw [List.map_append, List.nodup_append]
      refine ⟨unique.sublist (List.filter_sublist.map _), List.nodup_singleton _, ?_⟩
      intro name inKept other isFirst same
      rcases List.mem_map.mp inKept with ⟨node, kept, rfl⟩
      rw [List.map_singleton, List.mem_singleton] at isFirst
      exact of_decide_eq_true (List.mem_filter.mp kept).2 (same.trans isFirst)

private theorem mem_foldl_removed (removed connections : List String) (connection : String) :
    connection ∈ removed.foldl
        (fun connections removed => connections.filter fun existing => decide (existing ≠ removed))
        connections <->
      connection ∈ connections ∧ connection ∉ removed := by
  induction removed generalizing connections with
  | nil => simp
  | cons first rest ih =>
      rw [List.foldl_cons, ih, List.mem_filter, decide_eq_true_iff, List.mem_cons, not_or,
        and_assoc]

/-- An empty diff is no special case. -/
private theorem mergeForDiff_eq (spec : GraphSpec) (diff : GraphDiff) :
    spec.mergeForDiff diff =
      { spec with
        nodes := diff.updatedNodes.foldl (fun nodes node => without nodes node.name ++ [node])
          (diff.removedNodes.foldl without spec.nodes ++ diff.addedNodes)
        connections := diff.removedConnections.foldl
          (fun connections removed =>
            connections.filter fun existing => decide (existing ≠ removed))
          spec.connections ++ diff.addedConnections } := by
  unfold mergeForDiff
  split
  · rename_i empty
    simp only [GraphDiff.isEmpty, Bool.and_eq_true, List.isEmpty_iff] at empty
    rcases empty with ⟨⟨⟨⟨added, removed⟩, updated⟩, addedEdges⟩, removedEdges⟩
    rw [added, removed, updated, addedEdges, removedEdges]
    simp
  · rfl

section Merged

variable {old new : GraphSpec}
variable (uniqueOld : (old.nodes.map NodeSpec.name).Nodup)
variable (uniqueNew : (new.nodes.map NodeSpec.name).Nodup)

include uniqueOld uniqueNew

private theorem mem_merged (node : NodeSpec) :
    node ∈ (old.mergeForDiff (diff old new)).nodes <-> node ∈ new.nodes := by
  rw [mergeForDiff_eq, mem_foldl_replace (nodup_updatedNodes uniqueNew), List.mem_append,
    mem_foldl_without, mem_addedNodes uniqueNew, mem_updatedNodes uniqueOld uniqueNew,
    mem_removedNodes]
  constructor
  · rintro (⟨inNew, -⟩ | ⟨⟨inOld, kept⟩ | ⟨inNew, -⟩, unchanged⟩)
    · exact inNew
    · have named : node.name ∈ new.nodes.map NodeSpec.name := by
        by_contra missing
        exact kept ⟨List.mem_map_of_mem inOld, missing⟩
      rcases List.mem_map.mp named with ⟨other, inNew, same⟩
      by_cases equal : node = other
      · exact equal ▸ inNew
      · refine absurd (List.mem_map.mpr ⟨other, ?_, same⟩) unchanged
        exact (mem_updatedNodes uniqueOld uniqueNew other).mpr
          ⟨inNew, node, inOld, same.symm, equal⟩
    · exact inNew
  · intro inNew
    by_cases changed : Exists fun existing =>
        existing ∈ old.nodes ∧ existing.name = node.name ∧ existing ≠ node
    · exact Or.inl ⟨inNew, changed⟩
    · refine Or.inr ⟨?_, fun updated => ?_⟩
      · by_cases named : node.name ∈ old.nodes.map NodeSpec.name
        · rcases List.mem_map.mp named with ⟨existing, inOld, same⟩
          have equal : existing = node := by
            by_contra differs
            exact changed ⟨existing, inOld, same, differs⟩
          exact Or.inl ⟨equal ▸ inOld, fun gone => gone.2 (List.mem_map_of_mem inNew)⟩
        · exact Or.inr ⟨inNew, named⟩
      · rcases List.mem_map.mp updated with ⟨other, isUpdated, same⟩
        rcases (mem_updatedNodes uniqueOld uniqueNew other).mp isUpdated with ⟨otherNew, found⟩
        exact changed (eq_of_name uniqueNew otherNew inNew same ▸ found)

private theorem nodup_merged :
    ((old.mergeForDiff (diff old new)).nodes.map NodeSpec.name).Nodup := by
  rw [mergeForDiff_eq]
  apply nodup_foldl_replace
  rw [List.map_append, List.nodup_append]
  refine ⟨uniqueOld.sublist ((foldl_without_sublist _ _).map _), nodup_addedNodes uniqueNew, ?_⟩
  intro name inKept other inAdded same
  rcases List.mem_map.mp inKept with ⟨node, kept, rfl⟩
  rcases List.mem_map.mp inAdded with ⟨added, isAdded, rfl⟩
  refine ((mem_addedNodes uniqueNew added).mp isAdded).2 (same ▸ List.mem_map_of_mem ?_)
  exact ((mem_foldl_without _ _ node).mp kept).1

end Merged

private theorem mem_merged_connections (old new : GraphSpec) (connection : String) :
    connection ∈ (old.mergeForDiff (diff old new)).connections <->
      connection ∈ new.connections := by
  rw [mergeForDiff_eq, List.mem_append, mem_foldl_removed]
  unfold diff
  rw [mem_difference, mem_difference]
  by_cases before : connection ∈ old.connections
  · simp [before]
  · simp [before]

/-- Merging a diff into the old specification gives the nodes of the new one
under their names, each once, and its connections. -/
theorem diff_mergeForDiff (old new : GraphSpec) (uniqueOld : (old.nodes.map NodeSpec.name).Nodup)
    (uniqueNew : (new.nodes.map NodeSpec.name).Nodup) :
    ((old.mergeForDiff (diff old new)).nodes.map NodeSpec.name).Nodup ∧
      (forall name : String,
        (old.mergeForDiff (diff old new)).nodeMap[name]? = new.nodeMap[name]?) ∧
      forall connection, connection ∈ (old.mergeForDiff (diff old new)).connections <->
        connection ∈ new.connections := by
  have nodup := nodup_merged uniqueOld uniqueNew
  refine ⟨nodup, fun name => Option.ext fun node => ?_, mem_merged_connections old new⟩
  rw [getElem?_nodeMap nodup, getElem?_nodeMap uniqueNew, mem_merged uniqueOld uniqueNew]

def swapNode (name kind : String) : NodeSpec :=
  ⟨name, kind, none, false, none, none, none, none, .null⟩

def beforeSwap : GraphSpec :=
  { GraphSpec.default with
    nodes := [swapNode "camera" "source", swapNode "view" "sink"]
    connections := ["camera.out -> view.in"] }

def afterSwap : GraphSpec :=
  { GraphSpec.default with
    nodes := [swapNode "file" "sink", swapNode "camera" "decoder"]
    connections := ["camera.out -> file.in"] }

theorem diff_mergeForDiff_swap :
    ((beforeSwap.mergeForDiff (diff beforeSwap afterSwap)).nodes.map NodeSpec.name).Nodup ∧
      (forall name : String,
        (beforeSwap.mergeForDiff (diff beforeSwap afterSwap)).nodeMap[name]? =
          afterSwap.nodeMap[name]?) ∧
      forall connection,
        connection ∈ (beforeSwap.mergeForDiff (diff beforeSwap afterSwap)).connections <->
          connection ∈ afterSwap.connections :=
  diff_mergeForDiff beforeSwap afterSwap (by decide) (by decide)

end GraphSpec
end Graph
end DyunGu
