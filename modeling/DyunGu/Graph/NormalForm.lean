import DyunGu.Graph.Idempotent

namespace DyunGu
namespace Graph

open DyunGu.Core (ResourcePolicy)

/-!
# Specifications with nothing to normalize

Normalization only adds to the parameters of a node before it replaces
references, so what it adds cannot be taken back.  A specification is its own
normal form if nothing in it refers to a variable and templates, settings and
defaults add nothing to its nodes.
-/

namespace Value

/-- The first value with fields added at any depth.  Where it is no object it
stays, except that absent parameters may become one. -/
inductive Extends : Value -> Value -> Prop where
  | same (value : Value) : Extends value value
  | absent (fields : List (String × Value)) : Extends .null (.object fields)
  | fields (own whole : List (String × Value))
      (keys : forall key value, KeyedList.find key own = some value ->
        (KeyedList.find key whole).isSome = true)
      (each : forall key value found, KeyedList.find key own = some value ->
        KeyedList.find key whole = some found -> Extends value found) :
      Extends (.object own) (.object whole)

/-- Substitution takes no field away. -/
theorem Extends.eq_of_substituted {own whole : Value} (extends_ : Extends own whole)
    (formed : own.WellFormed) (formedToo : whole.WellFormed) {render : Value -> String}
    {variableValues : List (String × Value)}
    (back : whole.substituteVariables render variableValues = own) : whole = own := by
  induction extends_ with
  | same value => rfl
  | absent fields => cases back
  | fields own whole keys each ih =>
      simp only [WellFormed, wellFormedFields_iff] at formed formedToo
      rw [substituteVariables, substituteFields_eq, Value.object.injEq] at back
      have unchanged : forall entry, entry ∈ whole ->
          (entry.1, entry.2.substituteVariables render variableValues) = entry := by
        rintro ⟨key, found⟩ member
        have isOwn : (key, found.substituteVariables render variableValues) ∈ own := by
          rw [← back]
          exact List.mem_map.mpr ⟨(key, found), member, rfl⟩
        have result := ih key _ found (KeyedList.find_of_mem formed.1 isOwn)
          (KeyedList.find_of_mem formedToo.1 member) (formed.2 _ isOwn) (formedToo.2 _ member) rfl
        exact Prod.ext rfl result.symm
      rw [← back, List.map_congr_left unchanged, List.map_id']

theorem extends_mergeValues (base overlay : Value) (formed : overlay.WellFormed) :
    Extends overlay (mergeValues base overlay) := by
  induction overlay using Value.induction generalizing base with
  | object overlay ih =>
      cases base with
      | object base =>
          simp only [WellFormed, wellFormedFields_iff] at formed
          rw [mergeValues]
          refine Extends.fields _ _ ?_ ?_
          · intro key value found
            rw [find_mergeFields formed.1, found]
            rfl
          · intro key value merged found isMerged
            rw [find_mergeFields formed.1, found] at isMerged
            have member := KeyedList.mem_of_find found
            cases existing : KeyedList.find key base with
            | none =>
                rw [existing] at isMerged
                cases isMerged
                exact Extends.same _
            | some old =>
                rw [existing] at isMerged
                cases isMerged
                exact ih _ member old (formed.2 _ member)
      | _ => exact Extends.same _
  | _ => cases base <;> exact Extends.same _

/-- Filling in settings that are not there keeps the fields that are. -/
theorem Extends.fillIn {own params : Value} (extends_ : Extends own params)
    {fill : List (String × Value) -> List (String × Value)}
    (keeps : forall fields key value, key ∈ own.keys -> KeyedList.find key fields = some value ->
      KeyedList.find key (fill fields) = some value) : Extends own (params.fillIn fill) := by
  have isKey : forall (fields : List (String × Value)) (key : String) (value : Value),
      KeyedList.find key fields = some value -> key ∈ (Value.object fields).keys :=
    fun fields key value found => List.mem_map_of_mem (KeyedList.mem_of_find found)
  cases extends_ with
  | same value =>
      cases own with
      | null => exact Extends.absent _
      | object fields =>
          refine Extends.fields _ _ ?_ ?_
          · intro key value found
            rw [keeps fields key value (isKey fields key value found) found]
            rfl
          · intro key value filled found isFilled
            rw [keeps fields key value (isKey fields key value found) found] at isFilled
            cases isFilled
            exact Extends.same _
      | _ => exact Extends.same _
  | absent fields => exact Extends.absent _
  | fields ownFields whole keys each =>
      refine Extends.fields _ _ ?_ ?_
      · intro key value found
        rcases Option.isSome_iff_exists.mp (keys key value found) with ⟨old, isOld⟩
        rw [keeps whole key old (isKey ownFields key value found) isOld]
        rfl
      · intro key value filled found isFilled
        rcases Option.isSome_iff_exists.mp (keys key value found) with ⟨old, isOld⟩
        rw [keeps whole key old (isKey ownFields key value found) isOld] at isFilled
        cases isFilled
        exact each key value _ found isOld

end Value

namespace GraphSpec

/-- A setting that is kept out leaves the field under its name. -/
theorem find_fillAll {descriptor : ElementDescriptor}
    {kept : List (String × Value) -> String -> Bool} {key : String} {value : Value}
    (keeps : forall fields, KeyedList.find key fields = some value -> kept fields key = true)
    (given : List (String × Option String)) {fields : List (String × Value)}
    (found : KeyedList.find key fields = some value) :
    KeyedList.find key (fillAll descriptor kept given fields) = some value := by
  induction given generalizing fields with
  | nil => exact found
  | cons setting given ih =>
      refine ih ?_
      show KeyedList.find key (fillSetting descriptor (kept fields) fields setting) = some value
      unfold fillSetting
      split
      · exact found
      · split
        · rename_i fills
          rw [KeyedList.find_insert, if_neg]
          · exact found
          · intro same
            rw [Bool.and_eq_true, same, keeps fields found] at fills
            cases fills.2
        · exact found

theorem extends_fillPass {registry : Registry} {own : Value}
    {kept : List (String × Value) -> String -> Bool} {given : List (String × Option String)}
    {node : NodeSpec} (extends_ : Value.Extends own node.params)
    (keeps : forall key value fields, key ∈ own.keys -> KeyedList.find key fields = some value ->
      kept fields key = true) :
    Value.Extends own (fillPass registry kept given node).params := by
  unfold fillPass
  split
  · exact extends_
  · split
    · refine extends_.fillIn fun fields key value isOwn found => ?_
      exact find_fillAll (fun later isLater => keeps key value later isOwn isLater) given found
    · exact extends_

section Node

variable {registry : Registry} {render : Value -> String} {spec : GraphSpec} {node : NodeSpec}

/-- Working in template, settings and defaults adds to the parameters. -/
theorem extends_worked (formed : spec.WellFormed) (member : node ∈ spec.nodes)
    (known : Exists fun result => applyTemplate spec.templates node = .ok result) :
    Value.Extends node.params (worked registry spec node).params := by
  unfold worked
  rw [applyDefault_eq, applyNodeOverride_eq]
  refine extends_fillPass (extends_fillPass ?_ ?_) ?_
  · rcases templated_cases known with ⟨_, isNode⟩ | ⟨name, template, _, found, isNode⟩
    · rw [isNode]
      exact Value.Extends.same _
    · rw [isNode]
      exact Value.extends_mergeValues _ _ (formed.nodeParams node member)
  · intro key value fields isOwn _
    exact decide_eq_true isOwn
  · intro key value fields _ found
    rw [found]
    rfl

/-- A node that normalization leaves as it is has nothing to be worked in. -/
theorem worked_of_normal (formed : spec.WellFormed) (member : node ∈ spec.nodes)
    (known : Exists fun result => applyTemplate spec.templates node = .ok result)
    (normal : normalNode registry render spec node = node) :
    worked registry spec node = node := by
  have params := congrArg NodeSpec.params normal
  have settled := (extends_worked formed member known).eq_of_substituted
    (formed.nodeParams node member) (worked_wellFormed formed member known) params
  have rebuilt : normalNode registry render spec node =
      { worked registry spec node with params := node.params } := by
    unfold normalNode
    rw [show (worked registry spec node).params.substituteVariables render spec.variableValues =
      node.params from params]
  rw [rebuilt, ← settled] at normal
  exact normal

end Node

/-- Nothing is left to do for normalization, and the specification is valid
within its own limits. -/
structure Finished (registry : Registry) (spec : GraphSpec) : Prop where
  header : spec.checkHeader = .ok ()
  templates : forall node, node ∈ spec.nodes ->
    Exists fun result => applyTemplate spec.templates node = .ok result
  worked : forall node, node ∈ spec.nodes -> GraphSpec.worked registry spec node = node
  plain : validateReferences spec = .ok ()
  within : validateWithPolicy registry spec spec.limits = .ok ()

theorem normalForm_finished {registry : Registry} {render : Value -> String} {spec : GraphSpec}
    (noIncludes : spec.includes = []) (finished : Finished registry spec) :
    normalForm registry render spec = spec := by
  rcases validateReferences_iff.mp finished.plain with ⟨nodes, templates, connections⟩
  have sameNodes : spec.nodes.map (normalNode registry render spec) = spec.nodes := by
    rw [List.map_congr_left, List.map_id']
    intro node member
    unfold normalNode
    rw [finished.worked node member, Value.substituteVariables_plain render _ _ (nodes node member)]
  have sameTemplates : (spec.templates.map fun entry =>
      (entry.1, { entry.2 with
        params := entry.2.params.substituteVariables render spec.variableValues })) =
        spec.templates := by
    rw [List.map_congr_left, List.map_id']
    intro entry member
    rw [Value.substituteVariables_plain render _ _ (templates entry member)]
  have sameConnections : spec.connections.map
      (Value.substituteString render spec.variableValues) = spec.connections := by
    rw [List.map_congr_left, List.map_id']
    intro connection member
    exact Value.substituteString_plain render _ (connections _ member)
  unfold normalForm
  rw [sameNodes, sameTemplates, sameConnections, ← noIncludes]

/-- Normalization under the limits of a specification gives it back exactly if
it is finished. -/
theorem finish_self_iff (registry : Registry) (render : Value -> String) {spec : GraphSpec}
    (formed : spec.WellFormed) (noIncludes : spec.includes = []) :
    (spec.checkHeader = .ok () ∧
      finish registry render (mergeIncluded GraphSpec.default spec) spec.limits = .ok spec) <->
      Finished registry spec := by
  have merged : mergeIncluded GraphSpec.default spec = spec := by
    rw [mergeIncluded_default formed.variableValues formed.templates, ← noIncludes]
  rw [merged, finish_iff]
  constructor
  · rintro ⟨header, known, isNormal, references, valid⟩
    refine ⟨header, known, fun node member => ?_, references, valid⟩
    have nodes : spec.nodes.map (normalNode registry render spec) = spec.nodes.map id := by
      rw [List.map_id]
      exact (congrArg GraphSpec.nodes isNormal).symm
    exact worked_of_normal formed member (known node member)
      (List.map_inj_left.mp nodes node member)
  · intro settled
    exact ⟨settled.header, settled.templates, (normalForm_finished noIncludes settled).symm,
      settled.plain, settled.within⟩

end GraphSpec
end Graph
end DyunGu
