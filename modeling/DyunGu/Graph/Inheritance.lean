import DyunGu.Graph.Idempotent

namespace DyunGu
namespace Graph

open DyunGu.Core (ResourcePolicy)

/-!
# What a node inherits from its template

A node takes over every parameter of its template that it does not set itself.
Parameters that are left out are read as null, and a null that is merged over
the parameters of a template takes their place: such a node loses them all.
-/

namespace Value

/-! ## Paths into parameters -/

/-- The value at a path of keys. -/
def lookup : List String -> Value -> Option Value
  | [], value => some value
  | key :: path, .object fields => (KeyedList.find key fields).bind (lookup path)
  | _ :: _, _ => none

/-- An object on the way does not have the next key.  Any other value on the
way stands for everything below it. -/
def Lacks : List String -> Value -> Prop
  | key :: path, .object fields =>
      match KeyedList.find key fields with
      | some value => Lacks path value
      | none => True
  | _, _ => False

theorem not_lacks_string (path : List String) (text : String) : ¬ Lacks path (.string text) := by
  cases path with
  | nil => exact id
  | cons _ _ => exact id

def entries : Value -> List (String × Value)
  | .object fields => fields
  | _ => []

theorem lookup_cons (key : String) (path : List String) (value : Value) :
    lookup (key :: path) value = (KeyedList.find key value.entries).bind (lookup path) := by
  cases value <;> rfl

theorem lookup_mergeValues_of_lacks {path : List String} {base overlay value : Value}
    (formed : overlay.WellFormed) (found : lookup path base = some value)
    (lacks : Lacks path overlay) : lookup path (mergeValues base overlay) = some value := by
  induction path generalizing base overlay with
  | nil => exact lacks.elim
  | cons key path ih =>
      cases overlay with
      | object overlay =>
          cases base with
          | object base =>
              rw [lookup, Option.bind_eq_some_iff] at found
              rcases found with ⟨inner, atKey, below⟩
              rw [mergeValues, lookup, find_mergeFields formed.1, atKey]
              unfold Lacks at lacks
              cases above : KeyedList.find key overlay with
              | none => exact below
              | some own =>
                  rw [above] at lacks
                  have ownFormed := wellFormedFields_iff.mp formed.2 _ (KeyedList.mem_of_find above)
                  exact ih ownFormed below lacks
          | _ => cases found
      | _ => exact lacks.elim

/-- What the overlay has is kept, unless two objects meet there. -/
theorem lookup_mergeValues_of_own {path : List String} {base overlay value : Value}
    (formed : overlay.WellFormed) (found : lookup path overlay = some value)
    (alone : (forall fields, value ≠ .object fields) ∨
      forall fields, lookup path base ≠ some (.object fields)) :
    lookup path (mergeValues base overlay) = some value := by
  induction path generalizing base overlay with
  | nil =>
      cases found
      cases value with
      | object fields =>
          cases base with
          | object base =>
              rcases alone with none | none
              · exact absurd rfl (none fields)
              · exact absurd rfl (none base)
          | _ => rfl
      | _ => cases base <;> rfl
  | cons key path ih =>
      cases overlay with
      | object overlay =>
          rw [lookup, Option.bind_eq_some_iff] at found
          rcases found with ⟨inner, atKey, below⟩
          cases base with
          | object base =>
              rw [mergeValues, lookup, find_mergeFields formed.1, atKey]
              have innerFormed := wellFormedFields_iff.mp formed.2 _ (KeyedList.mem_of_find atKey)
              cases under : KeyedList.find key base with
              | none => exact below
              | some existing =>
                  refine ih innerFormed below (alone.imp_right fun other fields isObject => ?_)
                  exact other fields (by rw [lookup, under]; exact isObject)
          | _ =>
              rw [mergeValues, lookup, atKey]
              · exact below
              · simp
      | _ => cases found

section Substitution

variable (render : Value -> String) (variableValues : List (String × Value))

theorem find_substituted {value : Value} {fields : List (String × Value)}
    (isObject : value = .object fields) (key : String) :
    KeyedList.find key (value.substituteVariables render variableValues).entries =
      (KeyedList.find key fields).map (substituteVariables render variableValues) := by
  rw [isObject, substituteVariables, substituteFields_eq]
  exact KeyedList.find_map _ key fields

theorem lookup_substituted {path : List String} {value inner : Value}
    (found : lookup path value = some inner) :
    lookup path (value.substituteVariables render variableValues) =
      some (inner.substituteVariables render variableValues) := by
  induction path generalizing value with
  | nil =>
      cases found
      rfl
  | cons key path ih =>
      cases value with
      | object fields =>
          rw [lookup, Option.bind_eq_some_iff] at found
          rcases found with ⟨next, atKey, below⟩
          rw [lookup_cons, find_substituted render variableValues rfl, atKey]
          exact ih below
      | _ => cases found

end Substitution
end Value

namespace GraphSpec

/-! ## Settings and defaults under their names -/

/-- The setting that a pass fills in under a key. -/
def chosen (descriptor : ElementDescriptor) (kept : String -> Bool)
    (given : List (String × Option String)) (key : String) : Option String :=
  if decide (key ∈ descriptor.params) && !kept key then
    (given.find? fun setting => decide (setting.1 = key)).bind Prod.snd
  else none

section Chosen

variable {descriptor : ElementDescriptor} {kept : String -> Bool} {name key : String}
  {value : Option String} {given : List (String × Option String)}

private theorem chosen_nil : chosen descriptor kept [] key = none := by
  unfold chosen
  split <;> rfl

private theorem chosen_absent (absent : key ∉ given.map Prod.fst) :
    chosen descriptor kept given key = none := by
  unfold chosen
  split
  · rw [List.find?_eq_none.mpr]
    · rfl
    · intro setting member isKey
      exact absent (List.mem_map.mpr ⟨setting, member, of_decide_eq_true isKey⟩)
  · rfl

private theorem chosen_cons_same :
    chosen descriptor kept ((name, value) :: given) name =
      if decide (name ∈ descriptor.params) && !kept name then value else none := by
  unfold chosen
  rw [List.find?_cons_of_pos (by simp)]
  rfl

private theorem chosen_cons_other (other : name ≠ key) :
    chosen descriptor kept ((name, value) :: given) key = chosen descriptor kept given key := by
  unfold chosen
  rw [List.find?_cons_of_neg (by simp [other])]

private theorem find_fillSetting (fields : List (String × Value)) :
    KeyedList.find key (fillSetting descriptor kept fields (name, value)) =
      if name = key then
        ((chosen descriptor kept [(name, value)] key).map Value.string).or
          (KeyedList.find key fields)
      else KeyedList.find key fields := by
  unfold fillSetting chosen
  by_cases same : name = key
  · subst same
    cases value with
    | none => simp
    | some text =>
        by_cases taken : (decide (name ∈ descriptor.params) && !kept name) = true
        · simp [taken, KeyedList.find_insert]
        · simp [taken]
  · rw [if_neg same]
    cases value with
    | none => rfl
    | some text =>
        dsimp only
        split
        · rw [KeyedList.find_insert, if_neg same]
        · rfl

/-- Settings that go before what is there. -/
private theorem find_fillAll_before (distinct : (given.map Prod.fst).Nodup)
    (fields : List (String × Value)) :
    KeyedList.find key (fillAll descriptor (fun _ => kept) given fields) =
      ((chosen descriptor kept given key).map Value.string).or (KeyedList.find key fields) := by
  unfold fillAll
  induction given generalizing fields with
  | nil => rw [chosen_nil]; rfl
  | cons setting given ih =>
      rcases setting with ⟨name, value⟩
      rw [List.map_cons, List.nodup_cons] at distinct
      rw [List.foldl_cons, ih distinct.2, find_fillSetting]
      by_cases same : name = key
      · subst same
        rw [if_pos rfl, chosen_absent distinct.1, chosen_cons_same, chosen_cons_same]
        rfl
      · rw [if_neg same, chosen_cons_other same]

/-- Defaults that go behind what is there. -/
private theorem find_fillAll_behind (distinct : (given.map Prod.fst).Nodup)
    (fields : List (String × Value)) :
    KeyedList.find key (fillAll descriptor
        (fun fields name => (KeyedList.find name fields).isSome) given fields) =
      (KeyedList.find key fields).or
        ((chosen descriptor (fun _ => false) given key).map Value.string) := by
  unfold fillAll
  induction given generalizing fields with
  | nil =>
      rw [chosen_nil]
      exact (Option.or_none).symm
  | cons setting given ih =>
      rcases setting with ⟨name, value⟩
      rw [List.map_cons, List.nodup_cons] at distinct
      rw [List.foldl_cons, ih distinct.2, find_fillSetting]
      by_cases same : name = key
      · subst same
        rw [if_pos rfl, chosen_absent distinct.1, chosen_cons_same, chosen_cons_same]
        cases there : KeyedList.find name fields with
        | none => simp [there]
        | some existing => simp [there]
      · rw [if_neg same, chosen_cons_other same]

end Chosen

variable (registry : Registry)

/-- The setting of a node that stands for one of its parameters. -/
def ownSetting (kind : String) (node : NodeSpec) (key : String) : Option String :=
  (registry.findElement kind).bind fun descriptor =>
    chosen descriptor (fun name => decide (name ∈ node.params.keys)) (nodeSettings node) key

/-- The default of the graph for a parameter. -/
def defaultSetting (kind : String) (defaults : DefaultsSpec) (key : String) : Option String :=
  (registry.findElement kind).bind fun descriptor =>
    chosen descriptor (fun _ => false) (defaultSettings defaults) key

/-- What a node states itself: its parameters, and its settings under their
names where its parameters do not state them.  Parameters that are left out
state nothing. -/
def stated (template : NodeTemplate) (node : NodeSpec) : Value :=
  let own :=
    (applyNodeOverride registry node.params.keys { node with kind := template.kind }).params
  if own = .null then .object [] else own

variable {registry}

private theorem chosen_none {descriptor : ElementDescriptor} {kept : String -> Bool}
    {given : List (String × Option String)}
    (nothing : ¬ (given.any fun setting => setting.2.isSome) = true) (key : String) :
    chosen descriptor kept given key = none := by
  unfold chosen
  split
  · cases first : given.find? fun setting => decide (setting.1 = key) with
    | none => rfl
    | some setting =>
        cases value : setting.2 with
        | none => exact value
        | some text =>
            refine absurd (List.any_eq_true.mpr ⟨setting, List.mem_of_find?_eq_some first, ?_⟩)
              nothing
            rw [value]
            rfl
  · rfl

/-- What a pass does to one key, and that it keeps parameters open. -/
private theorem fillPass_entries {kept : List (String × Value) -> String -> Bool}
    {given : List (String × Option String)} {node : NodeSpec} (isOpen : Open node.params)
    {picked : ElementDescriptor -> Option String} {key : String}
    {join : Option Value -> Option Value -> Option Value}
    (none : forall found, join Option.none found = found)
    (nothing : ¬ (given.any fun setting => setting.2.isSome) = true ->
      forall descriptor, picked descriptor = Option.none)
    (filled : forall descriptor fields, KeyedList.find key (fillAll descriptor kept given fields) =
      join ((picked descriptor).map Value.string) (KeyedList.find key fields)) :
    Open (fillPass registry kept given node).params ∧
      KeyedList.find key (fillPass registry kept given node).params.entries =
        join (((registry.findElement node.kind).bind picked).map Value.string)
          (KeyedList.find key node.params.entries) := by
  unfold fillPass
  cases registry.findElement node.kind with
  | none => exact ⟨isOpen, (none _).symm⟩
  | some descriptor =>
      dsimp only
      split
      · rcases isOpen with isNull | ⟨fields, isObject⟩
        · rw [isNull]
          exact ⟨Or.inr ⟨_, rfl⟩, filled descriptor []⟩
        · rw [isObject]
          exact ⟨Or.inr ⟨_, rfl⟩, filled descriptor fields⟩
      · rename_i absent
        refine ⟨isOpen, ?_⟩
        rw [Option.bind_some, nothing absent descriptor]
        exact (none _).symm

private theorem override_entries {node : NodeSpec} {explicitKeys : List String}
    (isOpen : Open node.params) (key : String) :
    Open (applyNodeOverride registry explicitKeys node).params ∧
      KeyedList.find key (applyNodeOverride registry explicitKeys node).params.entries =
        (((registry.findElement node.kind).bind fun descriptor =>
            chosen descriptor (fun name => decide (name ∈ explicitKeys)) (nodeSettings node)
              key).map Value.string).or
          (KeyedList.find key node.params.entries) := by
  rw [applyNodeOverride_eq]
  refine fillPass_entries isOpen (fun _ => rfl) (fun absent _ => chosen_none absent key) ?_
  exact fun descriptor fields =>
    find_fillAll_before (by simp [nodeSettings]) fields

private theorem default_entries {node : NodeSpec} (defaults : DefaultsSpec)
    (isOpen : Open node.params) (key : String) :
    Open (applyDefault registry defaults node).params ∧
      KeyedList.find key (applyDefault registry defaults node).params.entries =
        (KeyedList.find key node.params.entries).or
          ((defaultSetting registry node.kind defaults key).map Value.string) := by
  rw [applyDefault_eq]
  refine @fillPass_entries registry _ _ _ isOpen _ key (fun picked found => found.or picked)
    (fun _ => Option.or_none) (fun absent _ => chosen_none absent key) ?_
  exact fun descriptor fields =>
    find_fillAll_behind (by simp [defaultSettings]) fields

/-! ## One node -/

section Node

variable {render : Value -> String} {spec : GraphSpec} {template : NodeTemplate} {node : NodeSpec}

private theorem stated_open (isOpen : Open node.params) :
    Exists fun fields => stated registry template node = .object fields ∧
      forall key, KeyedList.find key fields =
        ((ownSetting registry template.kind node key).map Value.string).or
          (KeyedList.find key node.params.entries) := by
  have pass : forall key, _ := fun key =>
    @override_entries registry { node with kind := template.kind } node.params.keys isOpen key
  have isStated : stated registry template node =
      let own :=
        (applyNodeOverride registry node.params.keys { node with kind := template.kind }).params
      if own = .null then .object [] else own := rfl
  rcases (pass "").1 with isNull | ⟨fields, isObject⟩
  · refine ⟨[], by rw [isStated]; exact if_pos isNull, fun key => ?_⟩
    have entries := (pass key).2
    rw [isNull] at entries
    exact entries
  · refine ⟨fields, ?_, fun key => ?_⟩
    · rw [isStated]
      simp [isObject]
    · have entries := (pass key).2
      rw [isObject] at entries
      exact entries

private theorem stated_closed (closed : ¬ Open node.params) :
    stated registry template node = node.params := by
  have present : node.params ≠ .null := fun isNull => closed (Or.inl isNull)
  have pass : applyNodeOverride registry node.params.keys { node with kind := template.kind } =
      { node with kind := template.kind } := by
    rw [applyNodeOverride_eq]
    exact fillPass_closed closed
  unfold stated
  rw [pass]
  exact if_neg present

private theorem mergeValues_open (base : Value) {overlay : Value} (isOpen : Open overlay) :
    Open (Value.mergeValues base overlay) := by
  rcases isOpen with rfl | ⟨fields, rfl⟩
  · cases base <;> exact Or.inl rfl
  · cases base <;> exact Or.inr ⟨_, rfl⟩

private theorem mergeValues_closed (base : Value) {overlay : Value} (closed : ¬ Open overlay) :
    Value.mergeValues base overlay = overlay := by
  cases overlay with
  | object fields => exact absurd (Or.inr ⟨fields, rfl⟩) closed
  | _ => cases base <;> rfl

section Templated

variable (isTemplated : templated spec.templates node =
  { node with
    kind := template.kind
    params := Value.mergeValues template.params node.params })

include isTemplated

private theorem normalNode_entries (isOpen : Open node.params) (key : String) :
    KeyedList.find key (normalNode registry render spec node).params.entries =
      ((((ownSetting registry template.kind node key).map Value.string).or
          (KeyedList.find key (Value.mergeValues template.params node.params).entries)).or
        ((defaultSetting registry template.kind spec.defaults key).map Value.string)).map
          (Value.substituteVariables render spec.variableValues) := by
  have first := @override_entries registry (templated spec.templates node) node.params.keys
    (by rw [isTemplated]; exact mergeValues_open _ isOpen) key
  have kind : (applyNodeOverride registry node.params.keys
      (templated spec.templates node)).kind = template.kind := by
    rw [applyNodeOverride_eq, fillPass_params, isTemplated]
  have second := @default_entries registry _ spec.defaults first.1 key
  rw [kind, first.2] at second
  rw [isTemplated] at second
  have entries : KeyedList.find key (normalNode registry render spec node).params.entries =
      (KeyedList.find key (worked registry spec node).params.entries).map
        (Value.substituteVariables render spec.variableValues) := by
    have params : (normalNode registry render spec node).params =
        (worked registry spec node).params.substituteVariables render spec.variableValues := rfl
    have stays : Open (worked registry spec node).params := by
      unfold worked
      rw [isTemplated]
      exact second.1
    rw [params]
    rcases stays with isNull | ⟨fields, isObject⟩
    · rw [isNull]
      rfl
    · rw [Value.find_substituted render spec.variableValues isObject, isObject]
      rfl
  rw [entries]
  unfold worked
  rw [isTemplated, second.2]
  rfl

private theorem normalNode_closed (closed : ¬ Open node.params) :
    (normalNode registry render spec node).params =
      node.params.substituteVariables render spec.variableValues := by
  have params : (normalNode registry render spec node).params =
      (worked registry spec node).params.substituteVariables render spec.variableValues := rfl
  have still : ¬ Open (templated spec.templates node).params := by
    rw [isTemplated, mergeValues_closed _ closed]
    exact closed
  have unchanged : worked registry spec node = templated spec.templates node := by
    unfold worked
    rw [applyNodeOverride_eq, fillPass_closed still, applyDefault_eq, fillPass_closed still]
  rw [params, unchanged, isTemplated, mergeValues_closed _ closed]

end Templated
end Node

/-! ## Inheritance -/

/-- Every path of the template that the node does not set has the value of the
template, and every path that the node sets has its own, with references
replaced.  Where two objects meet, their paths are compared instead. -/
structure Inherits (render : Value -> String) (variableValues : List (String × Value))
    (template own result : Value) : Prop where
  inherited : forall path value, Value.lookup path template = some value ->
    Value.Lacks path own -> Value.lookup path result =
      some (value.substituteVariables render variableValues)
  kept : forall path value, Value.lookup path own = some value ->
    ((forall fields, value ≠ .object fields) ∨
      path ≠ [] ∧ forall fields, Value.lookup path template ≠ some (.object fields)) ->
    Value.lookup path result = some (value.substituteVariables render variableValues)

/-- Parameters as a whole may meet those of the template. -/
private theorem not_alone (own : List (String × Value)) {apart : Prop} :
    ¬ ((forall fields, Value.object own ≠ .object fields) ∨ ([] : List String) ≠ [] ∧ apart) := by
  rintro (none | ⟨nonempty, -⟩)
  · exact none own rfl
  · exact nonempty rfl

/-- A node that leaves its parameters out has each parameter of the template as
a setting of its own or as a default of the same value. -/
def Supplied (registry : Registry) (render : Value -> String) (spec : GraphSpec)
    (template : NodeTemplate) (node : NodeSpec) : Prop :=
  forall key value, Value.lookup [key] template.params = some value ->
    (Exists fun text => ownSetting registry template.kind node key = some text) ∨
      Exists fun text => defaultSetting registry template.kind spec.defaults key = some text ∧
        (Value.string text).substituteVariables render spec.variableValues =
          value.substituteVariables render spec.variableValues

section Inherits

variable {render : Value -> String} {spec : GraphSpec} {template : NodeTemplate} {node : NodeSpec}
variable (isTemplated : templated spec.templates node =
  { node with
    kind := template.kind
    params := Value.mergeValues template.params node.params })

include isTemplated

private theorem lookup_normalNode (isOpen : Open node.params) (key : String)
    (path : List String) :
    Value.lookup (key :: path) (normalNode registry render spec node).params =
      (((((ownSetting registry template.kind node key).map Value.string).or
          (KeyedList.find key (Value.mergeValues template.params node.params).entries)).or
        ((defaultSetting registry template.kind spec.defaults key).map Value.string)).map
          (Value.substituteVariables render spec.variableValues)).bind (Value.lookup path) := by
  rw [Value.lookup_cons, normalNode_entries isTemplated isOpen]

private theorem lookup_of_setting (isOpen : Open node.params) {key text : String}
    (isSetting : ownSetting registry template.kind node key = some text) {path : List String}
    {value : Value} (found : Value.lookup path (.string text) = some value) :
    Value.lookup (key :: path) (normalNode registry render spec node).params =
      some (value.substituteVariables render spec.variableValues) := by
  rw [lookup_normalNode isTemplated isOpen, isSetting]
  exact Value.lookup_substituted render spec.variableValues found

private theorem lookup_of_merged (isOpen : Open node.params) {key : String}
    (noSetting : ownSetting registry template.kind node key = none) {path : List String}
    {value : Value}
    (found : Value.lookup (key :: path) (Value.mergeValues template.params node.params) =
      some value) :
    Value.lookup (key :: path) (normalNode registry render spec node).params =
      some (value.substituteVariables render spec.variableValues) := by
  rw [Value.lookup_cons, Option.bind_eq_some_iff] at found
  rcases found with ⟨inner, atKey, below⟩
  rw [lookup_normalNode isTemplated isOpen, noSetting, atKey]
  exact Value.lookup_substituted render spec.variableValues below

/-- Parameters that are not left out keep what the template says. -/
private theorem inherits_object {fields : List (String × Value)}
    (isObject : node.params = .object fields) (formed : node.params.WellFormed) :
    Inherits render spec.variableValues template.params (stated registry template node)
      (normalNode registry render spec node).params := by
  have isOpen : Open node.params := Or.inr ⟨fields, isObject⟩
  rcases @stated_open registry template node isOpen with
    ⟨own, isStated, entries⟩
  rw [isStated]
  constructor
  · intro path value found lacks
    cases path with
    | nil => exact lacks.elim
    | cons key path =>
        unfold Value.Lacks at lacks
        cases setting : ownSetting registry template.kind node key with
        | some text =>
            rw [entries, setting] at lacks
            exact absurd lacks (Value.not_lacks_string path text)
        | none =>
            apply lookup_of_merged isTemplated isOpen setting
            apply Value.lookup_mergeValues_of_lacks formed found
            rw [entries, setting, isObject] at lacks
            rw [isObject]
            exact lacks
  · intro path value found alone
    cases path with
    | nil =>
        cases found
        exact absurd alone (not_alone own)
    | cons key path =>
        rw [Value.lookup, entries] at found
        cases setting : ownSetting registry template.kind node key with
        | some text =>
            rw [setting] at found
            exact lookup_of_setting isTemplated isOpen setting found
        | none =>
            rw [setting] at found
            apply lookup_of_merged isTemplated isOpen setting
            apply Value.lookup_mergeValues_of_own formed _ (alone.imp_right And.right)
            rw [Value.lookup_cons]
            exact found

private theorem inherits_closed (closed : ¬ Open node.params) :
    Inherits render spec.variableValues template.params (stated registry template node)
      (normalNode registry render spec node).params := by
  rw [stated_closed closed, normalNode_closed isTemplated closed]
  constructor
  · intro path value _ lacks
    cases path with
    | nil => exact lacks.elim
    | cons key path =>
        cases isParams : node.params with
        | object fields => exact absurd (Or.inr ⟨fields, isParams⟩) closed
        | _ =>
            rw [isParams] at lacks
            exact lacks.elim
  · intro path value found _
    exact Value.lookup_substituted render spec.variableValues found

/-- Parameters that are left out take over nothing. -/
private theorem inherits_null (isNull : node.params = .null) :
    Inherits render spec.variableValues template.params (stated registry template node)
        (normalNode registry render spec node).params <->
      Supplied registry render spec template node := by
  have isOpen : Open node.params := Or.inl isNull
  rcases @stated_open registry template node isOpen with
    ⟨own, isStated, entries⟩
  have missing : (Value.mergeValues template.params node.params).entries = [] := by
    rw [isNull]
    cases template.params <;> rfl
  rw [isStated]
  constructor
  · intro inherits key value found
    cases setting : ownSetting registry template.kind node key with
    | some text => exact Or.inl ⟨text, rfl⟩
    | none =>
        right
        have lacks : Value.Lacks [key] (.object own) := by
          unfold Value.Lacks
          rw [entries, setting, isNull]
          trivial
        have kept := inherits.inherited [key] value found lacks
        rw [lookup_normalNode isTemplated isOpen, setting, missing] at kept
        cases isDefault : defaultSetting registry template.kind spec.defaults key with
        | none =>
            rw [isDefault] at kept
            cases kept
        | some text =>
            rw [isDefault] at kept
            exact ⟨text, rfl, Option.some.inj kept⟩
  · intro supplied
    constructor
    · intro path value found lacks
      cases path with
      | nil => exact lacks.elim
      | cons key path =>
          rw [Value.lookup_cons, Option.bind_eq_some_iff] at found
          rcases found with ⟨inner, atKey, below⟩
          unfold Value.Lacks at lacks
          rcases supplied key inner (by rw [Value.lookup_cons, atKey]; rfl) with
            ⟨text, setting⟩ | ⟨text, isDefault, same⟩
          · rw [entries, setting] at lacks
            exact absurd lacks (Value.not_lacks_string path text)
          · cases setting : ownSetting registry template.kind node key with
            | some text =>
                rw [entries, setting] at lacks
                exact absurd lacks (Value.not_lacks_string path text)
            | none =>
                rw [lookup_normalNode isTemplated isOpen, setting, missing, isDefault]
                change Value.lookup path (Value.substituteVariables render spec.variableValues
                  (.string text)) = _
                rw [same]
                exact Value.lookup_substituted render spec.variableValues below
    · intro path value found alone
      cases path with
      | nil =>
          cases found
          exact absurd alone (not_alone own)
      | cons key path =>
          rw [Value.lookup, entries, isNull] at found
          cases setting : ownSetting registry template.kind node key with
          | some text =>
              rw [setting] at found
              exact lookup_of_setting isTemplated isOpen setting found
          | none =>
              rw [setting] at found
              cases found

end Inherits

/-- A node that normalization accepts inherits from its template exactly when
it has parameters of its own or its settings and the defaults supply all that
the template says. -/
theorem template_inherits_iff {registry : Registry} {render : Value -> String}
    {merged normalized : GraphSpec} {policy : ResourcePolicy} (formed : merged.WellFormed)
    (finished : finish registry render merged policy = .ok normalized) {index : Nat}
    {node : NodeSpec} (atIndex : merged.nodes[index]? = some node) {name : String}
    (named : node.template = some name) {template : NodeTemplate}
    (found : KeyedList.find name merged.templates = some template) :
    Exists fun after => normalized.nodes[index]? = some after ∧
      (Inherits render merged.variableValues template.params (stated registry template node)
          after.params <->
        (node.params ≠ .null ∨ Supplied registry render merged template node)) := by
  rcases finish_iff.mp finished with ⟨known, rfl, -, -⟩
  have member : node ∈ merged.nodes := List.mem_of_getElem? atIndex
  have isTemplated : templated merged.templates node =
      { node with
        kind := template.kind
        params := Value.mergeValues template.params node.params } := by
    rcases templated_cases (known node member) with ⟨none, -⟩ | ⟨other, same, isName, isThat, step⟩
    · cases none.symm.trans named
    · cases isName.symm.trans named
      cases isThat.symm.trans found
      exact step
  refine ⟨normalNode registry render merged node, ?_, ?_⟩
  · change (merged.nodes.map (normalNode registry render merged))[index]? = _
    rw [List.getElem?_map, atIndex]
    rfl
  · by_cases isNull : node.params = .null
    · rw [inherits_null isTemplated isNull]
      exact ⟨Or.inr, fun either => either.resolve_left fun present => present isNull⟩
    · refine ⟨fun _ => Or.inl isNull, fun _ => ?_⟩
      by_cases isOpen : Open node.params
      · rcases isOpen with isNull' | ⟨fields, isObject⟩
        · exact absurd isNull' isNull
        · exact inherits_object isTemplated isObject (formed.nodeParams node member)
      · exact inherits_closed isTemplated isOpen

/-- One node with one template, which says what model to load. -/
def modelSpec (own : Value) : GraphSpec :=
  { GraphSpec.default with
    templates := [("t", ⟨"probe", none, .object [("model", .string "m")]⟩)]
    nodes := [⟨"n", "", none, false, none, none, none, some "t", own⟩] }

theorem modelSpec_inherits :
    Exists fun after =>
      (normalForm probeRegistry (fun _ => "")
        (modelSpec (.object [("own", .null)]))).nodes[0]? = some after ∧
      (Inherits (fun _ => "") [] (.object [("model", .string "m")])
          (stated probeRegistry ⟨"probe", none, .object [("model", .string "m")]⟩
            ⟨"n", "", none, false, none, none, none, some "t", .object [("own", .null)]⟩)
          after.params <->
        (Value.object [("own", .null)] ≠ .null ∨
          Supplied probeRegistry (fun _ => "") (modelSpec (.object [("own", .null)]))
            ⟨"probe", none, .object [("model", .string "m")]⟩
            ⟨"n", "", none, false, none, none, none, some "t", .object [("own", .null)]⟩)) := by
  have formed : (modelSpec (.object [("own", .null)])).WellFormed := by
    constructor
    · decide
    · decide
    · simp [modelSpec, Value.WellFormed, Value.WellFormedFields, KeyedList.Ordered]
    · simp [modelSpec, Value.WellFormed, Value.WellFormedFields, KeyedList.Ordered]
  have finished : finish probeRegistry (fun _ => "") (modelSpec (.object [("own", .null)]))
      ResourcePolicy.default =
        .ok (normalForm probeRegistry (fun _ => "") (modelSpec (.object [("own", .null)]))) := by
    decide +kernel
  exact @template_inherits_iff probeRegistry (fun _ => "") _ _ _ formed finished 0 _ rfl "t" rfl _
    rfl

/-- The node that leaves its parameters out has no model any more. -/
theorem modelSpec_loses :
    Exists fun normalized => Exists fun after =>
      normalize probeRegistry (fun _ => "") (modelSpec .null) = .ok normalized ∧
      normalized.nodes[0]? = some after ∧
      ¬ Inherits (fun _ => "") [] (.object [("model", .string "m")])
        (stated probeRegistry ⟨"probe", none, .object [("model", .string "m")]⟩
          ⟨"n", "", none, false, none, none, none, some "t", .null⟩) after.params := by
  refine ⟨normalForm probeRegistry (fun _ => "") (modelSpec .null), _, by decide +kernel, rfl, ?_⟩
  intro inherits
  have lost := inherits.inherited ["model"] (.string "m") rfl trivial
  revert lost
  decide +kernel

end GraphSpec
end Graph
end DyunGu
