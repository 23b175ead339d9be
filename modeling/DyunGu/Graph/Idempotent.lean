import DyunGu.Graph.Values

namespace DyunGu
namespace Graph

open DyunGu.Core (ResourcePolicy)

/-!
# Normalizing a normal form

A normalized specification still names its templates, settings and defaults,
so a second normalization works them in once more.  It changes nothing as long
as the template of a node adds nothing to the parameters it is already in, and
the settings are there already.  Both can fail where a reference is replaced
by an object after templates and settings have been worked in.
-/

namespace GraphSpec

/-! ## Normalization of one node -/

section Node

variable (registry : Registry) (render : Value -> String)

/-- The node with its template worked in, if there is one. -/
def templated (templates : List (String × NodeTemplate)) (node : NodeSpec) : NodeSpec :=
  (applyTemplate templates node).toOption.getD node

/-- The node with its template, its settings and the defaults worked in. -/
def worked (spec : GraphSpec) (node : NodeSpec) : NodeSpec :=
  applyDefault registry spec.defaults
    (applyNodeOverride registry node.params.keys (templated spec.templates node))

def normalNode (spec : GraphSpec) (node : NodeSpec) : NodeSpec :=
  { worked registry spec node with
    params := (worked registry spec node).params.substituteVariables render spec.variableValues }

/-- What normalization makes of a specification that it accepts. -/
def normalForm (spec : GraphSpec) : GraphSpec :=
  { spec with
    includes := []
    nodes := spec.nodes.map (normalNode registry render spec)
    templates := spec.templates.map fun entry =>
      (entry.1, { entry.2 with
        params := entry.2.params.substituteVariables render spec.variableValues })
    connections := spec.connections.map (Value.substituteString render spec.variableValues) }

end Node

private theorem mapM_applyTemplate {templates : List (String × NodeTemplate)}
    {nodes : List NodeSpec} (known : forall node, node ∈ nodes -> Exists fun result =>
      applyTemplate templates node = .ok result) :
    nodes.mapM (applyTemplate templates) = .ok (nodes.map (templated templates)) := by
  apply Outcome.mapM_ok
  intro node member
  rcases known node member with ⟨result, applied⟩
  simp [templated, applied, Except.toOption]

private theorem known_of_mapM {templates : List (String × NodeTemplate)}
    {nodes results : List NodeSpec}
    (applied : nodes.mapM (applyTemplate templates) = .ok results) :
    forall node, node ∈ nodes ->
      Exists fun result => applyTemplate templates node = .ok result := by
  induction nodes generalizing results with
  | nil =>
      intro node member
      cases member
  | cons first nodes ih =>
      rw [List.mapM_cons] at applied
      rcases Outcome.bind_ok applied with ⟨result, head, applied⟩
      rcases Outcome.bind_ok applied with ⟨tail, rest, _⟩
      intro node member
      rcases List.mem_cons.mp member with rfl | later
      · exact ⟨result, head⟩
      · exact ih rest node later

/-- Normalization succeeds when the templates are known and its result passes
the checks. -/
theorem finish_iff {registry : Registry} {render : Value -> String} {merged result : GraphSpec}
    {policy : ResourcePolicy} :
    finish registry render merged policy = .ok result <->
      (forall node, node ∈ merged.nodes -> Exists fun templated =>
        applyTemplate merged.templates node = .ok templated) ∧
      result = normalForm registry render merged ∧ validateReferences result = .ok () ∧
      validateWithPolicy registry result policy = .ok () := by
  have assembled : applyVariables render (applyDefaults registry (applyNodeOverrides registry
      { merged with
        includes := []
        nodes := merged.nodes.map (templated merged.templates) }
      (merged.nodes.map fun node => node.params.keys))) = normalForm registry render merged := by
    unfold applyVariables applyDefaults applyNodeOverrides normalForm
    dsimp only
    rw [List.zipWith_map, List.zipWith_self, List.map_map, List.map_map]
    rfl
  constructor
  · intro finished
    rcases Outcome.bind_ok finished with ⟨templatedSpec, applied, finished⟩
    rcases Outcome.bind_ok applied with ⟨nodes, each, built⟩
    cases built
    have known := known_of_mapM each
    have templates := mapM_applyTemplate known
    dsimp only at each templates
    rw [templates] at each
    cases each
    rw [assembled] at finished
    rcases Outcome.bind_ok finished with ⟨_, references, finished⟩
    rcases Outcome.bind_ok finished with ⟨_, valid, finished⟩
    cases finished
    exact ⟨known, rfl, references, valid⟩
  · rintro ⟨known, rfl, references, valid⟩
    have applied : applyTemplates { merged with includes := [] } =
        .ok { merged with
          includes := []
          nodes := merged.nodes.map (templated merged.templates) } :=
      Outcome.bind_eq_ok (mapM_applyTemplate known) rfl
    refine Outcome.bind_eq_ok applied ?_
    dsimp only
    rw [assembled]
    exact Outcome.bind_eq_ok references (Outcome.bind_eq_ok valid rfl)

/-! ## Settings that are there already -/

/-- What a node is given besides its parameters: its own settings, then the
defaults. -/
def settings (defaults : DefaultsSpec) (node : NodeSpec) : List (String × Option String) :=
  nodeSettings node ++ defaultSettings defaults

private theorem foldl_unchanged {State Item : Type} {step : State -> Item -> State}
    {state : State} {items : List Item}
    (unchanged : forall item, item ∈ items -> step state item = state) :
    items.foldl step state = state := by
  induction items with
  | nil => rfl
  | cons item items ih =>
      rw [List.foldl_cons, unchanged item List.mem_cons_self]
      exact ih fun other member => unchanged other (List.mem_cons_of_mem _ member)

private theorem fillIn_unchanged {fill : List (String × Value) -> List (String × Value)}
    {params : Value} (present : params ≠ .null)
    (unchanged : forall fields, params = .object fields -> fill fields = fields) :
    params.fillIn fill = params := by
  cases params with
  | null => exact absurd rfl present
  | object fields => rw [Value.fillIn, unchanged fields rfl]
  | _ => rfl

private theorem some_given {given : List (String × Option String)}
    (any : (given.any fun setting => setting.2.isSome) = true) :
    Exists fun name => Exists fun text => (name, some text) ∈ given := by
  rcases List.any_eq_true.mp any with ⟨⟨name, value⟩, member, stated⟩
  cases value with
  | none => cases stated
  | some text => exact ⟨name, text, member⟩

private theorem fillSetting_unchanged {descriptor : ElementDescriptor} {kept : String -> Bool}
    {fields : List (String × Value)} {setting : String × Option String}
    (there : forall text, setting.2 = some text -> setting.1 ∈ descriptor.params ->
      kept setting.1 = true) :
    fillSetting descriptor kept fields setting = fields := by
  unfold fillSetting
  split
  · rfl
  · rename_i text stated
    rw [if_neg]
    intro fills
    rw [Bool.and_eq_true, decide_eq_true_iff] at fills
    rw [there text stated fills.1] at fills
    cases fills.2

/-- Settings as one pass fills them in: what keeps a setting out may depend on
the fields so far. -/
def fillAll (descriptor : ElementDescriptor)
    (kept : List (String × Value) -> String -> Bool) (given : List (String × Option String))
    (fields : List (String × Value)) : List (String × Value) :=
  given.foldl (fun fields setting => fillSetting descriptor (kept fields) fields setting) fields

section Fill

variable {descriptor : ElementDescriptor} {kept : List (String × Value) -> String -> Bool}
  {given : List (String × Option String)}

private theorem fillAll_unchanged {params : Value}
    (any : (given.any fun setting => setting.2.isSome) = true)
    (keeps : forall fields, params = .object fields -> forall name, name ∈ fields.map Prod.fst ->
      kept fields name = true)
    (own : forall name text, (name, some text) ∈ given -> params ≠ .null ∧
      forall fields, params = .object fields -> name ∈ descriptor.params ->
        name ∈ fields.map Prod.fst) :
    params.fillIn (fillAll descriptor kept given) = params := by
  rcases some_given any with ⟨name, text, member⟩
  apply fillIn_unchanged (own name text member).1
  intro fields isObject
  apply foldl_unchanged
  intro setting isGiven
  apply fillSetting_unchanged
  intro stated isStated taken
  apply keeps fields isObject
  refine (own setting.1 stated ?_).2 fields isObject taken
  rw [← isStated]
  exact isGiven

private theorem fillSetting_keys {fields : List (String × Value)}
    {setting : String × Option String} {keep : String -> Bool} {name : String}
    (present : name ∈ fields.map Prod.fst) :
    name ∈ (fillSetting descriptor keep fields setting).map Prod.fst := by
  unfold fillSetting
  split
  · exact present
  · split
    · rw [← KeyedList.find_isSome] at present ⊢
      rw [KeyedList.find_insert]
      split
      · rfl
      · exact present
    · exact present

private theorem fillAll_keys {fields : List (String × Value)} {name : String}
    (present : name ∈ fields.map Prod.fst) :
    name ∈ (fillAll descriptor kept given fields).map Prod.fst := by
  unfold fillAll
  induction given generalizing fields with
  | nil => exact present
  | cons setting given ih => exact ih (fillSetting_keys present)

/-- Every setting that is given and taken is there in the end. -/
private theorem fillAll_fills {fields : List (String × Value)} {name text : String}
    (member : (name, some text) ∈ given) (taken : name ∈ descriptor.params)
    (keeps : forall later : List (String × Value),
      (forall other, other ∈ fields.map Prod.fst -> other ∈ later.map Prod.fst) ->
      kept later name = true -> name ∈ later.map Prod.fst) :
    name ∈ (fillAll descriptor kept given fields).map Prod.fst := by
  induction given generalizing fields with
  | nil => cases member
  | cons setting given ih =>
      rcases List.mem_cons.mp member with rfl | later
      · have filled : name ∈ (fillSetting descriptor (kept fields) fields
            (name, some text)).map Prod.fst := by
          unfold fillSetting
          dsimp only
          split
          · rw [← KeyedList.find_isSome, KeyedList.find_insert, if_pos rfl]
            rfl
          · rename_i out
            apply keeps fields fun other present => present
            simpa [taken] using out
        exact @fillAll_keys descriptor kept given _ name filled
      · exact ih later fun further more =>
          keeps further fun other present => more other (fillSetting_keys present)

/-- Parameters that settings can be filled into. -/
def Open (params : Value) : Prop := params = .null ∨ Exists fun fields => params = .object fields

private theorem fillIn_open {params : Value} (isOpen : Open params)
    (fill : List (String × Value) -> List (String × Value)) :
    Exists fun fields => params.fillIn fill = .object (fill fields) ∧
      params.keys = fields.map Prod.fst := by
  rcases isOpen with rfl | ⟨fields, rfl⟩
  · exact ⟨[], rfl, rfl⟩
  · exact ⟨fields, rfl, rfl⟩

end Fill

/-- The pass over one node that the settings of the node and the defaults of
the graph have in common. -/
def fillPass (registry : Registry) (kept : List (String × Value) -> String -> Bool)
    (given : List (String × Option String)) (node : NodeSpec) : NodeSpec :=
  match registry.findElement node.kind with
  | none => node
  | some descriptor =>
      if given.any fun setting => setting.2.isSome then
        { node with params := node.params.fillIn (fillAll descriptor kept given) }
      else node

theorem applyNodeOverride_eq (registry : Registry) (explicitKeys : List String)
    (node : NodeSpec) :
    applyNodeOverride registry explicitKeys node =
      fillPass registry (fun _ name => decide (name ∈ explicitKeys)) (nodeSettings node) node :=
  rfl

theorem applyDefault_eq (registry : Registry) (defaults : DefaultsSpec) (node : NodeSpec) :
    applyDefault registry defaults node =
      fillPass registry (fun fields name => (KeyedList.find name fields).isSome)
        (defaultSettings defaults) node :=
  rfl

/-- Parameters in which settings have nothing to fill in. -/
def Filled (registry : Registry) (given : List (String × Option String)) (node : NodeSpec)
    (params : Value) : Prop :=
  forall descriptor, registry.findElement node.kind = some descriptor ->
    forall name text, (name, some text) ∈ given ->
      params ≠ .null ∧ (forall fields, params = .object fields -> name ∈ descriptor.params ->
        name ∈ fields.map Prod.fst)

section Pass

variable {registry : Registry} {kept : List (String × Value) -> String -> Bool}
  {given : List (String × Option String)} {node : NodeSpec}

theorem fillPass_unchanged (filled : Filled registry given node node.params)
    (keeps : forall fields, node.params = .object fields ->
      forall name, name ∈ fields.map Prod.fst -> kept fields name = true) :
    fillPass registry kept given node = node := by
  unfold fillPass
  split
  · rfl
  · rename_i descriptor known
    split
    · rename_i any
      rw [fillAll_unchanged any keeps (filled descriptor known)]
    · rfl

theorem fillPass_closed (closed : ¬ Open node.params) :
    fillPass registry kept given node = node := by
  unfold fillPass
  split
  · rfl
  · split
    · rw [fillIn_unchanged fun isNull => closed (Or.inl isNull)]
      intro fields isObject
      exact absurd (Or.inr ⟨fields, isObject⟩) closed
    · rfl

/-- A pass leaves parameters that can be filled so, takes nothing out, and
leaves nothing to fill in. -/
theorem fillPass_open (isOpen : Open node.params)
    (keeps : forall later : List (String × Value),
      (forall name, name ∈ node.params.keys -> name ∈ later.map Prod.fst) ->
      forall name, kept later name = true -> name ∈ later.map Prod.fst) :
    Open (fillPass registry kept given node).params ∧
      (node.params ≠ .null -> (fillPass registry kept given node).params ≠ .null) ∧
      (forall name, name ∈ node.params.keys ->
        name ∈ (fillPass registry kept given node).params.keys) ∧
      Filled registry given node (fillPass registry kept given node).params := by
  unfold fillPass
  split
  · rename_i unknown
    refine ⟨isOpen, fun present => present, fun _ present => present, ?_⟩
    intro descriptor known
    rw [unknown] at known
    cases known
  · rename_i descriptor known
    split
    · rcases fillIn_open isOpen (fillAll descriptor kept given) with ⟨fields, filled, keys⟩
      dsimp only
      rw [filled]
      rw [keys] at keeps ⊢
      refine ⟨Or.inr ⟨_, rfl⟩, fun _ => by simp, fun _ => fillAll_keys, ?_⟩
      intro other knownToo name text member
      rw [known] at knownToo
      cases knownToo
      refine ⟨by simp, ?_⟩
      intro found isObject taken
      cases isObject
      exact fillAll_fills member taken fun later more => keeps later more name
    · rename_i nothing
      refine ⟨isOpen, fun present => present, fun _ present => present, ?_⟩
      intro other _ name text member
      exact absurd (List.any_eq_true.mpr ⟨_, member, rfl⟩) nothing

/-- A pass only touches the parameters. -/
theorem fillPass_params :
    fillPass registry kept given node =
      { node with params := (fillPass registry kept given node).params } := by
  unfold fillPass
  split
  · rfl
  · split
    · rfl
    · rfl

end Pass

section Worked

variable {registry : Registry} {defaults : DefaultsSpec} {node : NodeSpec}

private theorem Filled.of_keys {given : List (String × Option String)} {params later : Value}
    (filled : Filled registry given node params) (isOpen : Open params)
    (present : params ≠ .null -> later ≠ .null)
    (keys : forall name, name ∈ params.keys -> name ∈ later.keys) :
    Filled registry given node later := by
  intro descriptor known name text member
  rcases filled descriptor known name text member with ⟨there, taken⟩
  refine ⟨present there, ?_⟩
  intro fields isObject takes
  rcases isOpen with isNull | ⟨earlier, isEarlier⟩
  · exact absurd isNull there
  · have has := keys name (by rw [isEarlier]; exact taken earlier isEarlier takes)
    rw [isObject] at has
    exact has

/-- After both passes, nothing is left to fill in. -/
theorem passes_filled {explicitKeys : List String} (isOpen : Open node.params)
    (explicit : forall name, name ∈ explicitKeys -> name ∈ node.params.keys) :
    Open (applyDefault registry defaults (applyNodeOverride registry explicitKeys node)).params ∧
      Filled registry (settings defaults node) node
        (applyDefault registry defaults (applyNodeOverride registry explicitKeys node)).params := by
  rw [applyNodeOverride_eq]
  rcases @fillPass_open registry (fun _ name => decide (name ∈ explicitKeys)) (nodeSettings node)
    node isOpen (fun later more name isExplicit =>
      more name (explicit name (of_decide_eq_true isExplicit))) with
    ⟨openFirst, _, _, filledFirst⟩
  rw [fillPass_params, applyDefault_eq]
  rcases @fillPass_open registry (fun fields name => (KeyedList.find name fields).isSome)
    (defaultSettings defaults) { node with params := (fillPass registry
      (fun _ name => decide (name ∈ explicitKeys)) (nodeSettings node) node).params } openFirst
    (fun later _ name there => KeyedList.find_isSome.mp there) with
    ⟨openLast, present, keys, filledLast⟩
  refine ⟨openLast, ?_⟩
  intro descriptor known name text member
  rcases List.mem_append.mp member with own | default
  · exact filledFirst.of_keys openFirst present keys descriptor known name text own
  · exact filledLast descriptor known name text default

private theorem substituteVariables_keys (render : Value -> String)
    (variableValues : List (String × Value)) {params : Value} (isOpen : Open params) :
    (params ≠ .null -> params.substituteVariables render variableValues ≠ .null) ∧
      (params.substituteVariables render variableValues).keys = params.keys := by
  rcases isOpen with rfl | ⟨fields, rfl⟩
  · exact ⟨id, rfl⟩
  · refine ⟨fun _ => by simp [Value.substituteVariables], ?_⟩
    simp [Value.substituteVariables, Value.substituteFields_eq, Value.keys]

/-- When the parameters as a whole are no reference, nothing is left to fill in
after the substitution either. -/
theorem substituted_filled (render : Value -> String) (variableValues : List (String × Value))
    {explicitKeys : List String}
    (explicit : forall name, name ∈ explicitKeys -> name ∈ node.params.keys)
    (whole : forall text, node.params = .string text ->
      Filled registry (settings defaults node) node
        ((Value.string text).substituteVariables render variableValues)) :
    Filled registry (settings defaults node) node
      ((applyDefault registry defaults
        (applyNodeOverride registry explicitKeys node)).params.substituteVariables render
          variableValues) := by
  by_cases isOpen : Open node.params
  · rcases @passes_filled registry defaults node explicitKeys isOpen explicit with
      ⟨openLast, filled⟩
    rcases substituteVariables_keys render variableValues openLast with ⟨present, keys⟩
    exact filled.of_keys openLast present fun name member => keys ▸ member
  · rw [applyNodeOverride_eq, fillPass_closed isOpen, applyDefault_eq, fillPass_closed isOpen]
    cases isParams : node.params with
    | string text => exact whole text isParams
    | null => exact absurd (Or.inl isParams) isOpen
    | object fields => exact absurd (Or.inr ⟨fields, isParams⟩) isOpen
    | _ =>
        intro descriptor known name text member
        simp [Value.substituteVariables]

end Worked

/-! ## Templates that add nothing -/

section Meets

variable (render : Value -> String) (variableValues : List (String × Value))

mutual

/-- A template adds nothing to parameters that it has been worked into: every
key of an object is there, and where values meet that are not both objects as
they are written, replacing references leaves nothing to merge. -/
def Meets : Value -> Value -> Prop
  | .object template, .object params => MeetsFields template params
  | template, params =>
      Value.mergeValues (template.substituteVariables render variableValues)
        (params.substituteVariables render variableValues) =
          params.substituteVariables render variableValues

def MeetsFields : List (String × Value) -> List (String × Value) -> Prop
  | [], _ => True
  | (key, value) :: template, params =>
      (Exists fun own => KeyedList.find key params = some own ∧ Meets value own) ∧
        MeetsFields template params

end

theorem meetsFields_iff {template params : List (String × Value)} :
    MeetsFields render variableValues template params <->
      forall entry, entry ∈ template -> Exists fun own =>
        KeyedList.find entry.1 params = some own ∧ Meets render variableValues entry.2 own := by
  induction template with
  | nil => simp [MeetsFields]
  | cons entry template ih => simp [MeetsFields, ih]

theorem mergeValues_of_meets
    (template params : Value) (formed : template.WellFormed) (formedToo : params.WellFormed)
    (meets : Meets render variableValues template params) :
    Value.mergeValues (template.substituteVariables render variableValues)
        (params.substituteVariables render variableValues) =
      params.substituteVariables render variableValues := by
  induction template using Value.induction generalizing params with
  | object template ih =>
      cases params with
      | object params =>
          simp only [Meets, meetsFields_iff] at meets
          simp only [Value.WellFormed, Value.wellFormedFields_iff] at formed formedToo
          simp only [Value.substituteVariables, Value.substituteFields_eq, Value.mergeValues]
          have ordered := KeyedList.ordered_map formed.1
            (Value.substituteVariables render variableValues)
          have orderedToo := KeyedList.ordered_map formedToo.1
            (Value.substituteVariables render variableValues)
          congr 1
          apply KeyedList.ext_of_find (Value.ordered_mergeFields ordered _) orderedToo
          intro key
          rw [Value.find_mergeFields orderedToo, KeyedList.find_map, KeyedList.find_map]
          cases below : KeyedList.find key template with
          | none =>
              cases KeyedList.find key params with
              | none => rfl
              | some own => rfl
          | some value =>
              have ofTemplate := KeyedList.mem_of_find below
              rcases meets _ ofTemplate with ⟨own, found, meetsOwn⟩
              rw [found]
              exact congrArg some (ih _ ofTemplate own (formed.2 _ ofTemplate)
                (formedToo.2 _ (KeyedList.mem_of_find found)) meetsOwn)
      | _ => exact meets
  | _ => cases params <;> exact meets

end Meets

/-! ## Normalizing again -/

/-- The maps of a specification are in key order, as those of the source
are. -/
structure WellFormed (spec : GraphSpec) : Prop where
  variableValues : KeyedList.Ordered spec.variableValues
  templates : KeyedList.Ordered spec.templates
  templateParams : forall entry, entry ∈ spec.templates -> entry.2.params.WellFormed
  nodeParams : forall node, node ∈ spec.nodes -> node.params.WellFormed

/-- A node whose template and settings have nothing left to do once its
references are replaced. -/
structure Steady (registry : Registry) (render : Value -> String) (spec : GraphSpec)
    (node : NodeSpec) : Prop where
  template : forall name template, node.template = some name ->
    KeyedList.find name spec.templates = some template ->
      Meets render spec.variableValues template.params (worked registry spec node).params
  whole : forall text, (templated spec.templates node).params = .string text ->
    Filled registry (settings spec.defaults node) (templated spec.templates node)
      ((Value.string text).substituteVariables render spec.variableValues)

private theorem fillSetting_wellFormed {descriptor : ElementDescriptor} {kept : String -> Bool}
    {fields : List (String × Value)} {setting : String × Option String}
    (formed : (Value.object fields).WellFormed) :
    (Value.object (fillSetting descriptor kept fields setting)).WellFormed := by
  unfold fillSetting
  split
  · exact formed
  · split
    · simp only [Value.WellFormed, Value.wellFormedFields_iff] at formed ⊢
      refine ⟨KeyedList.ordered_insert formed.1 _ _, ?_⟩
      intro entry member
      rcases KeyedList.mem_insert member with rfl | old
      · simp [Value.WellFormed]
      · exact formed.2 entry old
    · exact formed

private theorem fillAll_wellFormed {descriptor : ElementDescriptor}
    {kept : List (String × Value) -> String -> Bool} {given : List (String × Option String)}
    {fields : List (String × Value)} (formed : (Value.object fields).WellFormed) :
    (Value.object (fillAll descriptor kept given fields)).WellFormed := by
  unfold fillAll
  induction given generalizing fields with
  | nil => exact formed
  | cons setting given ih => exact ih (fillSetting_wellFormed formed)

private theorem fillPass_wellFormed {registry : Registry}
    {kept : List (String × Value) -> String -> Bool} {given : List (String × Option String)}
    {node : NodeSpec} (formed : node.params.WellFormed) :
    (fillPass registry kept given node).params.WellFormed := by
  unfold fillPass
  split
  · exact formed
  · split
    · dsimp only
      cases isParams : node.params with
      | null =>
          exact fillAll_wellFormed ⟨List.Pairwise.nil, trivial⟩
      | object fields =>
          rw [isParams] at formed
          exact fillAll_wellFormed formed
      | _ =>
          rw [isParams] at formed
          exact formed
    · exact formed

/-- The cases of working a template in. -/
theorem templated_cases {templates : List (String × NodeTemplate)} {node : NodeSpec}
    (known : Exists fun result => applyTemplate templates node = .ok result) :
    (node.template = none ∧ templated templates node = node) ∨
      Exists fun name => Exists fun template =>
        node.template = some name ∧ KeyedList.find name templates = some template ∧
        templated templates node =
          { node with
            kind := template.kind
            params := Value.mergeValues template.params node.params } := by
  rcases known with ⟨result, applied⟩
  have isTemplated : templated templates node = result := by
    simp [templated, applied, Except.toOption]
  rw [isTemplated]
  unfold applyTemplate at applied
  split at applied
  · rename_i noTemplate
    cases applied
    exact Or.inl ⟨noTemplate, rfl⟩
  · rename_i name named
    split at applied
    · cases applied
    · rename_i template found
      cases applied
      exact Or.inr ⟨name, template, named, found, rfl⟩

theorem worked_wellFormed {registry : Registry} {spec : GraphSpec} {node : NodeSpec}
    (formed : spec.WellFormed) (member : node ∈ spec.nodes)
    (known : Exists fun result => applyTemplate spec.templates node = .ok result) :
    (worked registry spec node).params.WellFormed := by
  unfold worked
  rw [applyDefault_eq, applyNodeOverride_eq]
  apply fillPass_wellFormed
  apply fillPass_wellFormed
  rcases templated_cases known with ⟨_, isNode⟩ | ⟨name, template, _, found, isNode⟩
  · rw [isNode]
    exact formed.nodeParams node member
  · rw [isNode]
    exact Value.mergeValues_wellFormed _ _
      (formed.templateParams _ (KeyedList.mem_of_find found)) (formed.nodeParams node member)

private theorem rejectPlaceholder_ok {path : String} {found : Option (List Char)} :
    rejectPlaceholder path found = .ok () <-> found = none := by
  cases found with
  | none => simp [rejectPlaceholder]
  | some placeholder => simp [rejectPlaceholder]

/-- Nothing is left to replace in a specification whose references are
valid. -/
theorem validateReferences_iff {spec : GraphSpec} :
    validateReferences spec = .ok () <->
      (forall node, node ∈ spec.nodes -> node.params.findUnresolvedPlaceholder = none) ∧
      (forall entry, entry ∈ spec.templates ->
        entry.2.params.findUnresolvedPlaceholder = none) ∧
      forall connection, connection ∈ spec.connections -> Text.Plain connection.toList := by
  have connections : (spec.connections.zipIdx.forM fun entry =>
      rejectPlaceholder ("connections[" ++ toString entry.2 ++ "]")
        (Text.findPlaceholder entry.1.toList)) = .ok () <->
      forall connection, connection ∈ spec.connections -> Text.Plain connection.toList := by
    simp only [Outcome.forM_ok, rejectPlaceholder_ok]
    constructor
    · intro plain connection member
      rw [← List.zipIdx_map_fst 0 spec.connections] at member
      rcases List.mem_map.mp member with ⟨entry, isIndexed, rfl⟩
      exact plain entry isIndexed
    · intro plain entry isIndexed
      exact plain entry.1 (List.fst_mem_of_mem_zipIdx isIndexed)
  unfold validateReferences
  rw [← connections]
  constructor
  · intro valid
    rcases Outcome.bind_ok valid with ⟨_, nodes, valid⟩
    rcases Outcome.bind_ok valid with ⟨_, templates, valid⟩
    exact ⟨fun node member => rejectPlaceholder_ok.mp (Outcome.forM_ok.mp nodes node member),
      fun entry member => rejectPlaceholder_ok.mp (Outcome.forM_ok.mp templates entry member),
      valid⟩
  · rintro ⟨nodes, templates, valid⟩
    exact Outcome.bind_eq_ok
      (Outcome.forM_ok.mpr fun node member => rejectPlaceholder_ok.mpr (nodes node member))
      (Outcome.bind_eq_ok
        (Outcome.forM_ok.mpr fun entry member =>
          rejectPlaceholder_ok.mpr (templates entry member)) valid)

private theorem mergeValues_keys {base overlay : Value} (formed : overlay.WellFormed)
    {name : String} (present : name ∈ overlay.keys) :
    name ∈ (Value.mergeValues base overlay).keys := by
  cases overlay with
  | object overlay =>
      cases base with
      | object base =>
          simp only [Value.WellFormed] at formed
          simp only [Value.keys, Value.mergeValues] at present ⊢
          rw [← KeyedList.find_isSome] at present ⊢
          rw [Value.find_mergeFields formed.1]
          cases found : KeyedList.find name overlay with
          | none =>
              rw [found] at present
              cases present
          | some value => rfl
      | _ => exact present
  | _ => cases present

theorem worked_params {registry : Registry} {spec : GraphSpec} {node : NodeSpec} :
    worked registry spec node =
      { templated spec.templates node with params := (worked registry spec node).params } := by
  have inner : applyNodeOverride registry node.params.keys (templated spec.templates node) =
      { templated spec.templates node with
        params := (applyNodeOverride registry node.params.keys
          (templated spec.templates node)).params } :=
    fillPass_params
  have outer : worked registry spec node =
      { applyNodeOverride registry node.params.keys (templated spec.templates node) with
        params := (worked registry spec node).params } :=
    fillPass_params
  rw [inner] at outer
  exact outer

section Again

variable {registry : Registry} {render : Value -> String} {spec : GraphSpec} {node : NodeSpec}
  (formed : spec.WellFormed) (member : node ∈ spec.nodes)
  (known : Exists fun result => applyTemplate spec.templates node = .ok result)
  (steady : Steady registry render spec node)

include formed member known steady

theorem normalNode_filled :
    Filled registry (settings spec.defaults (normalNode registry render spec node))
      (normalNode registry render spec node) (normalNode registry render spec node).params := by
  have explicit : forall name, name ∈ node.params.keys ->
      name ∈ (templated spec.templates node).params.keys := by
    intro name present
    rcases templated_cases known with ⟨_, isNode⟩ | ⟨_, template, _, _, isNode⟩
    · rw [isNode]
      exact present
    · rw [isNode]
      exact mergeValues_keys (formed.nodeParams node member) present
  have sameSettings : settings spec.defaults (templated spec.templates node) =
      settings spec.defaults node := by
    rcases templated_cases known with ⟨_, isNode⟩ | ⟨_, template, _, _, isNode⟩
    · rw [isNode]
    · rw [isNode]
      rfl
  have filled := @substituted_filled registry spec.defaults (templated spec.templates node) render
    spec.variableValues node.params.keys explicit (sameSettings.symm ▸ steady.whole)
  unfold normalNode
  rw [worked_params]
  exact filled

theorem normalNode_templated :
    applyTemplate (normalForm registry render spec).templates
      (normalNode registry render spec node) = .ok (normalNode registry render spec node) := by
  have same : normalNode registry render spec node =
      { templated spec.templates node with
        params := (normalNode registry render spec node).params } := by
    unfold normalNode
    rw [worked_params]
  rcases templated_cases known with ⟨noTemplate, isNode⟩ | ⟨name, template, named, found, isNode⟩
  · have stillNone : (normalNode registry render spec node).template = none := by
      rw [same, isNode]
      exact noTemplate
    simp [applyTemplate, stillNone]
  · have stillNamed : (normalNode registry render spec node).template = some name := by
      rw [same, isNode]
      exact named
    have foundToo : KeyedList.find name (normalForm registry render spec).templates =
        some { template with
          params := template.params.substituteVariables render spec.variableValues } := by
      have mapped := KeyedList.find_map (fun template : NodeTemplate => { template with
        params := template.params.substituteVariables render spec.variableValues }) name
          spec.templates
      rw [found] at mapped
      exact mapped
    have merged := mergeValues_of_meets render spec.variableValues template.params
      (worked registry spec node).params
      (formed.templateParams _ (KeyedList.mem_of_find found))
      (worked_wellFormed formed member known) (steady.template name template named found)
    have kind : (normalNode registry render spec node).kind = template.kind := by
      rw [same, isNode]
    unfold applyTemplate
    rw [stillNamed]
    dsimp only
    rw [foundToo]
    show Except.ok { normalNode registry render spec node with
        kind := template.kind
        template := some name
        params := Value.mergeValues
          (template.params.substituteVariables render spec.variableValues)
          ((worked registry spec node).params.substituteVariables render spec.variableValues) } =
      Except.ok (normalNode registry render spec node)
    rw [merged, ← kind, ← stillNamed]
    rfl

/-- Normalizing a node again changes nothing. -/
theorem normalNode_again
    (plain : (normalNode registry render spec node).params.findUnresolvedPlaceholder = none) :
    normalNode registry render (normalForm registry render spec)
      (normalNode registry render spec node) = normalNode registry render spec node := by
  have filled := normalNode_filled formed member known steady
  have stays : worked registry (normalForm registry render spec)
      (normalNode registry render spec node) = normalNode registry render spec node := by
    have same : templated (normalForm registry render spec).templates
        (normalNode registry render spec node) = normalNode registry render spec node := by
      unfold templated
      rw [normalNode_templated formed member known steady]
      rfl
    unfold worked
    rw [same, applyNodeOverride_eq, fillPass_unchanged, applyDefault_eq, fillPass_unchanged]
    · exact fun descriptor found name text given =>
        filled descriptor found name text (List.mem_append_right _ given)
    · exact fun fields _ name present => KeyedList.find_isSome.mpr present
    · exact fun descriptor found name text given =>
        filled descriptor found name text (List.mem_append_left _ given)
    · intro fields isObject name present
      rw [decide_eq_true_iff, isObject]
      exact present
  show { worked registry (normalForm registry render spec)
      (normalNode registry render spec node) with
    params := (worked registry (normalForm registry render spec)
      (normalNode registry render spec node)).params.substituteVariables render
        spec.variableValues } = normalNode registry render spec node
  rw [stays, Value.substituteVariables_plain render spec.variableValues _ plain]

end Again

/-- The normal form of a normal form is the same. -/
private theorem normalForm_again {registry : Registry} {render : Value -> String}
    {spec : GraphSpec} (formed : spec.WellFormed)
    (known : forall node, node ∈ spec.nodes -> Exists fun result =>
      applyTemplate spec.templates node = .ok result)
    (steady : forall node, node ∈ spec.nodes -> Steady registry render spec node)
    (references : validateReferences (normalForm registry render spec) = .ok ()) :
    normalForm registry render (normalForm registry render spec) =
      normalForm registry render spec := by
  rcases validateReferences_iff.mp references with ⟨nodes, templates, connections⟩
  have sameNodes : (normalForm registry render spec).nodes.map
      (normalNode registry render (normalForm registry render spec)) =
        (normalForm registry render spec).nodes := by
    rw [List.map_congr_left, List.map_id']
    intro node member
    rcases List.mem_map.mp member with ⟨original, isNode, rfl⟩
    exact normalNode_again formed isNode (known original isNode) (steady original isNode)
      (nodes _ member)
  have sameTemplates : ((normalForm registry render spec).templates.map fun entry =>
      (entry.1, { entry.2 with
        params := entry.2.params.substituteVariables render spec.variableValues })) =
        (normalForm registry render spec).templates := by
    rw [List.map_congr_left, List.map_id']
    intro entry member
    rw [Value.substituteVariables_plain render spec.variableValues _ (templates entry member)]
  have sameConnections : (normalForm registry render spec).connections.map
      (Value.substituteString render spec.variableValues) =
        (normalForm registry render spec).connections := by
    rw [List.map_congr_left, List.map_id']
    intro connection member
    exact Value.substituteString_plain render spec.variableValues (connections _ member)
  show { normalForm registry render spec with
      includes := []
      nodes := (normalForm registry render spec).nodes.map
        (normalNode registry render (normalForm registry render spec))
      templates := (normalForm registry render spec).templates.map fun entry =>
        (entry.1, { entry.2 with
          params := entry.2.params.substituteVariables render spec.variableValues })
      connections := (normalForm registry render spec).connections.map
        (Value.substituteString render spec.variableValues) } = normalForm registry render spec
  rw [sameNodes, sameTemplates, sameConnections]
  rfl

theorem mergeIncluded_default {spec : GraphSpec}
    (variableValues : KeyedList.Ordered spec.variableValues)
    (templates : KeyedList.Ordered spec.templates) :
    mergeIncluded GraphSpec.default spec = { spec with includes := [] } := by
  unfold mergeIncluded GraphSpec.default
  dsimp only
  rw [KeyedList.extend_nil variableValues, KeyedList.extend_nil templates]
  simp

/-- When normalization succeeds, and with what. -/
theorem normalize_iff {registry : Registry} {render : Value -> String} {spec result : GraphSpec}
    (variableValues : KeyedList.Ordered spec.variableValues)
    (templates : KeyedList.Ordered spec.templates) :
    normalize registry render spec = .ok result <->
      spec.checkHeader = .ok () ∧ spec.includes = [] ∧
      (forall node, node ∈ spec.nodes -> Exists fun templated =>
        applyTemplate spec.templates node = .ok templated) ∧
      result = normalForm registry render spec ∧ validateReferences result = .ok () ∧
      validateWithPolicy registry result ResourcePolicy.default = .ok () := by
  have merged (none_ : spec.includes = []) : mergeIncluded GraphSpec.default spec = spec := by
    rw [mergeIncluded_default variableValues templates, ← none_]
  constructor
  · intro normalized
    rcases Outcome.bind_ok normalized with ⟨_, header, normalized⟩
    rcases Outcome.bind_ok normalized with ⟨_, noIncludes, normalized⟩
    have none_ : spec.includes = [] := not_not.mp (reject_iff.mp noIncludes)
    rw [merged none_] at normalized
    exact ⟨header, none_, finish_iff.mp normalized⟩
  · rintro ⟨header, none_, finished⟩
    refine Outcome.bind_eq_ok header
      (Outcome.bind_iff.mpr ⟨(), reject_iff.mpr (not_not.mpr none_), ?_⟩)
    rw [merged none_]
    exact finish_iff.mpr finished

/-- Where templates and settings have nothing left to do, normalization is
idempotent. -/
theorem normalize_again {registry : Registry} {render : Value -> String}
    {spec result : GraphSpec} (formed : spec.WellFormed)
    (steady : forall node, node ∈ spec.nodes -> Steady registry render spec node)
    (normalized : normalize registry render spec = .ok result) :
    normalize registry render result = .ok result := by
  rcases (normalize_iff formed.variableValues formed.templates).mp normalized with
    ⟨header, _, known, rfl, references, valid⟩
  have ordered : KeyedList.Ordered (normalForm registry render spec).templates :=
    KeyedList.ordered_map formed.templates fun template : NodeTemplate => ({ template with
      params := template.params.substituteVariables render spec.variableValues } : NodeTemplate)
  have again := normalForm_again formed known steady references
  have orderedValues : KeyedList.Ordered (normalForm registry render spec).variableValues :=
    formed.variableValues
  have sameHeader : (normalForm registry render spec).checkHeader = .ok () := header
  refine (normalize_iff orderedValues ordered).mpr
    ⟨sameHeader, rfl, ?_, again.symm, references, valid⟩
  intro node member
  rcases List.mem_map.mp member with ⟨original, isNode, rfl⟩
  exact ⟨_, normalNode_templated formed isNode (known original isNode) (steady original isNode)⟩

/-- One kind of element, which takes a backend. -/
def probeRegistry : Registry where
  elements := [⟨"probe", [], [], ["backend"], none⟩]
  modelSourceSize _ := .ok 0
  sourceOutputTensorBytes _ := .ok 0
  mockInferenceOutputTensorBytes _ := .ok 0

/-- A node with a template and with one parameter of its own, and a variable. -/
def probeSpec (templateParams own variableValue : Value) : GraphSpec :=
  { GraphSpec.default with
    variableValues := [("v", variableValue)]
    templates := [("t", ⟨"probe", none, templateParams⟩)]
    nodes := [⟨"n", "", none, false, some "cpu", none, none, some "t", .object [("own", own)]⟩] }

/-- The template brings a parameter, the node a setting and a reference. -/
def steadySpec : GraphSpec :=
  probeSpec (.object [("other", .null)]) (.string "${v}") (.string "x")

theorem steadySpec_again :
    normalize probeRegistry (fun _ => "") steadySpec =
        .ok (normalForm probeRegistry (fun _ => "") steadySpec) ∧
      normalize probeRegistry (fun _ => "") (normalForm probeRegistry (fun _ => "") steadySpec) =
        .ok (normalForm probeRegistry (fun _ => "") steadySpec) := by
  have normalized : normalize probeRegistry (fun _ => "") steadySpec =
      .ok (normalForm probeRegistry (fun _ => "") steadySpec) := by
    decide +kernel
  have formed : steadySpec.WellFormed := by
    constructor
    · decide
    · decide
    · simp [steadySpec, probeSpec, Value.WellFormed, Value.WellFormedFields, KeyedList.Ordered]
    · simp [steadySpec, probeSpec, Value.WellFormed, Value.WellFormedFields, KeyedList.Ordered]
  refine ⟨normalized, normalize_again formed ?_ normalized⟩
  intro node member
  have isNode := List.mem_singleton.mp member
  have isWorked : (worked probeRegistry steadySpec node).params =
      .object [("backend", .string "cpu"), ("other", .null), ("own", .string "${v}")] := by
    rw [isNode]
    decide +kernel
  have isTemplated : (templated steadySpec.templates node).params =
      .object [("other", .null), ("own", .string "${v}")] := by
    rw [isNode]
    decide +kernel
  constructor
  · intro name template named found
    rw [isNode] at named
    cases named
    cases found
    rw [isWorked]
    exact ⟨⟨.null, rfl, rfl⟩, trivial⟩
  · intro text isText
    rw [isTemplated] at isText
    cases isText

/-- The template holds an object where the node refers to one. -/
theorem probeSpec_changes :
    Exists fun result => Exists fun again =>
      normalize probeRegistry (fun _ => "")
        (probeSpec (.object [("own", .object [("a", .null)])]) (.string "${v}")
          (.object [("b", .null)])) = .ok result ∧
      normalize probeRegistry (fun _ => "") result = .ok again ∧ again ≠ result := by
  refine ⟨_, _, rfl, rfl, ?_⟩
  decide +kernel

end GraphSpec
end Graph
end DyunGu
