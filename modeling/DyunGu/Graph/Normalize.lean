import DyunGu.Graph.Validate
import DyunGu.Lib.KeyedList

namespace DyunGu
namespace Graph

open DyunGu.Core (ResourcePolicy)

/-!
# Normalization of a graph specification

A specification is written with templates, settings of single nodes, defaults
and variables.  Normalization works them into the parameters of the nodes: the
template of a node is merged under its own parameters, then the settings and
the defaults are filled in, then references to variables are replaced, and
last the result is validated.

Texts are searched as lists of characters.  How a JSON value that is not a
string is written out is given by `render`.
-/

/-! ## References in texts -/

namespace Text

/-- The text of a reference to a variable. -/
def needle (name : String) : List Char := '$' :: '{' :: name.toList ++ ['}']

/-- Replace every occurrence of a text that is not empty, from left to right.
The first argument counts the characters of an occurrence that are still to be
passed over. -/
def replaceFrom (needle replacement : List Char) : Nat -> List Char -> List Char
  | _, [] => []
  | skip + 1, _ :: rest => replaceFrom needle replacement skip rest
  | 0, c :: rest =>
      if needle.isPrefixOf (c :: rest) then
        replacement ++ replaceFrom needle replacement (needle.length - 1) rest
      else c :: replaceFrom needle replacement 0 rest

def replace (needle replacement text : List Char) : List Char :=
  replaceFrom needle replacement 0 text

/-- Drop the opening of a reference as often as the text starts with it. -/
def trimOpenings : List Char -> List Char
  | '$' :: '{' :: rest => trimOpenings rest
  | text => text

def trimClosings (text : List Char) : List Char :=
  (text.reverse.dropWhile fun c => decide (c = '}')).reverse

def countOpenings : List Char -> Nat
  | '$' :: '{' :: rest => countOpenings rest + 1
  | _ :: rest => countOpenings rest
  | [] => 0

/-- The name that a text which is one reference refers to. -/
def referenceName (text : List Char) : String :=
  String.ofList (trimClosings (trimOpenings (ConnectionSpec.trim text)))

def isReference (text : List Char) : Bool :=
  ['$', '{'].isPrefixOf text && ['}'].isSuffixOf text && decide (countOpenings text = 1)

/-- The first placeholder in a text, up to its end or the end of the text. -/
def findPlaceholder : List Char -> Option (List Char)
  | [] => none
  | c :: rest =>
      if ['$', '{'].isPrefixOf (c :: rest) then
        some ('$' :: '{' :: ((rest.drop 1).takeWhile (fun c => decide (c ≠ '}')) ++
          ((rest.drop 1).dropWhile fun c => decide (c ≠ '}')).take 1))
      else findPlaceholder rest

example : replace (needle "a") ['x'] "${a}-${b}${a}".toList = "x-${b}x".toList ∧
    findPlaceholder "x-${b}".toList = some "${b}".toList ∧
    isReference "${a}\x7d".toList = true ∧ referenceName "${a}\x7d".toList = "a" := by
  decide +kernel

end Text

/-! ## Values -/

namespace Value

mutual

def mergeValues : Value -> Value -> Value
  | .object base, .object overlay => .object (mergeFields base overlay)
  | _, overlay => overlay

def mergeFields : List (String × Value) -> List (String × Value) -> List (String × Value)
  | base, [] => base
  | base, (key, value) :: overlay =>
      let merged :=
        match KeyedList.find key base with
        | some existing => mergeValues existing value
        | none => value
      mergeFields (KeyedList.insert key merged base) overlay

end

section Substitution

variable (render : Value -> String)

/-- The text that a variable stands for inside a longer text. -/
def replacementText : Value -> List Char
  | .string text => text.toList
  | other => (render other).toList

/-- The variables are replaced one after the other, in the order of their
names. -/
def substituteChars (variableValues : List (String × Value)) (text : List Char) : List Char :=
  variableValues.foldl
    (fun text entry => Text.replace (Text.needle entry.1) (replacementText render entry.2) text)
    text

def substituteString (variableValues : List (String × Value)) (text : String) : String :=
  String.ofList (substituteChars render variableValues text.toList)

/-- A text that is one reference takes the value of the variable as it is. -/
def substituteText (variableValues : List (String × Value)) (text : String) : Value :=
  match KeyedList.find (Text.referenceName text.toList) variableValues with
  | some replacement =>
      if Text.isReference text.toList then replacement
      else .string (substituteString render variableValues text)
  | none => .string (substituteString render variableValues text)

mutual

def substituteVariables (variableValues : List (String × Value)) : Value -> Value
  | .string text => substituteText render variableValues text
  | .array values => .array (substituteAll variableValues values)
  | .object fields => .object (substituteFields variableValues fields)
  | .null => .null
  | .bool value => .bool value
  | .number value => .number value

def substituteAll (variableValues : List (String × Value)) : List Value -> List Value
  | [] => []
  | value :: values =>
      substituteVariables variableValues value :: substituteAll variableValues values

def substituteFields (variableValues : List (String × Value)) :
    List (String × Value) -> List (String × Value)
  | [] => []
  | (key, value) :: fields =>
      (key, substituteVariables variableValues value) :: substituteFields variableValues fields

end

end Substitution

mutual

def findUnresolvedPlaceholder : Value -> Option (List Char)
  | .string text => Text.findPlaceholder text.toList
  | .array values => findUnresolvedIn values
  | .object fields => findUnresolvedAmong fields
  | .null | .bool _ | .number _ => none

def findUnresolvedIn : List Value -> Option (List Char)
  | [] => none
  | value :: values => (findUnresolvedPlaceholder value).or (findUnresolvedIn values)

def findUnresolvedAmong : List (String × Value) -> Option (List Char)
  | [] => none
  | (_, value) :: fields => (findUnresolvedPlaceholder value).or (findUnresolvedAmong fields)

end

/-- Absent parameters become an object when settings are filled in; values
other than objects take none. -/
def fillIn (fill : List (String × Value) -> List (String × Value)) : Value -> Value
  | .null => .object (fill [])
  | .object fields => .object (fill fields)
  | other => other

def keys : Value -> List String
  | .object fields => fields.map Prod.fst
  | _ => []

end Value

/-! ## The passes -/

namespace GraphSpec

def mergeIncluded (spec other : GraphSpec) : GraphSpec :=
  { spec with
    variableValues := KeyedList.extend spec.variableValues other.variableValues
    defaults :=
      { backend := other.defaults.backend.or spec.defaults.backend
        device := other.defaults.device.or spec.defaults.device
        precision := other.defaults.precision.or spec.defaults.precision }
    templates := KeyedList.extend spec.templates other.templates
    nodes := spec.nodes ++ other.nodes
    connections := spec.connections ++ other.connections
    allowCycles := spec.allowCycles || other.allowCycles
    execution := other.execution
    limits := other.limits
    apiVersion := other.apiVersion
    kind := other.kind }

def applyTemplate (templates : List (String × NodeTemplate)) (node : NodeSpec) :
    Except Error NodeSpec :=
  match node.template with
  | none => .ok node
  | some name =>
      match KeyedList.find name templates with
      | none => .error (.validation ("nodes[" ++ node.name ++ "].template")
          ("unknown template `" ++ name ++ "`"))
      | some template =>
          .ok { node with
            kind := template.kind
            params := Value.mergeValues template.params node.params }

def applyTemplates (spec : GraphSpec) : Except Error GraphSpec := do
  let nodes <- spec.nodes.mapM (applyTemplate spec.templates)
  .ok { spec with nodes := nodes }

/-- Fill in one setting under its name, if the element knows it and nothing
keeps it out. -/
def fillSetting (descriptor : ElementDescriptor) (kept : String -> Bool)
    (fields : List (String × Value)) (setting : String × Option String) :
    List (String × Value) :=
  match setting.2 with
  | none => fields
  | some value =>
      if decide (setting.1 ∈ descriptor.params) && !kept setting.1 then
        KeyedList.insert setting.1 (.string value) fields
      else fields

def nodeSettings (node : NodeSpec) : List (String × Option String) :=
  [("backend", node.backend), ("device", node.device), ("precision", node.precision)]

/-- The settings of a node go before what its template says, but not before
the parameters that the node states itself. -/
def applyNodeOverride (registry : Registry) (explicitKeys : List String) (node : NodeSpec) :
    NodeSpec :=
  match registry.findElement node.kind with
  | none => node
  | some descriptor =>
      if (nodeSettings node).any fun setting => setting.2.isSome then
        { node with
          params := node.params.fillIn fun fields =>
            (nodeSettings node).foldl
              (fillSetting descriptor fun name => decide (name ∈ explicitKeys)) fields }
      else node

def applyNodeOverrides (registry : Registry) (spec : GraphSpec)
    (explicitParamKeys : List (List String)) : GraphSpec :=
  { spec with nodes := List.zipWith (applyNodeOverride registry) explicitParamKeys spec.nodes }

def namedDevice : DeviceDefault -> Option String
  | .named name => some name
  | .detailed _ _ => none

/-- A device given in detail is no default of a parameter. -/
def defaultSettings (defaults : DefaultsSpec) : List (String × Option String) :=
  [("backend", defaults.backend), ("precision", defaults.precision),
    ("device", defaults.device.bind namedDevice)]

/-- The defaults of the graph go behind everything else. -/
def applyDefault (registry : Registry) (defaults : DefaultsSpec) (node : NodeSpec) : NodeSpec :=
  match registry.findElement node.kind with
  | none => node
  | some descriptor =>
      if (defaultSettings defaults).any fun setting => setting.2.isSome then
        { node with
          params := node.params.fillIn fun fields =>
            (defaultSettings defaults).foldl
              (fun fields setting =>
                fillSetting descriptor (fun name => (KeyedList.find name fields).isSome) fields
                  setting)
              fields }
      else node

def applyDefaults (registry : Registry) (spec : GraphSpec) : GraphSpec :=
  { spec with nodes := spec.nodes.map (applyDefault registry spec.defaults) }

def applyVariables (render : Value -> String) (spec : GraphSpec) : GraphSpec :=
  { spec with
    nodes := spec.nodes.map fun node =>
      { node with params := node.params.substituteVariables render spec.variableValues }
    templates := spec.templates.map fun entry =>
      (entry.1, { entry.2 with
        params := entry.2.params.substituteVariables render spec.variableValues })
    connections := spec.connections.map
      (Value.substituteString render spec.variableValues) }

def unresolved (placeholder : List Char) : String :=
  "unresolved variable placeholder `" ++ String.ofList placeholder ++ "`"

def rejectPlaceholder (path : String) : Option (List Char) -> Except Error Unit
  | none => .ok ()
  | some placeholder => .error (.validation path (unresolved placeholder))

def validateReferences (spec : GraphSpec) : Except Error Unit := do
  spec.nodes.forM fun node =>
    rejectPlaceholder ("nodes[" ++ node.name ++ "].params") node.params.findUnresolvedPlaceholder
  spec.templates.forM fun entry =>
    rejectPlaceholder ("templates[" ++ entry.1 ++ "].params")
      entry.2.params.findUnresolvedPlaceholder
  spec.connections.zipIdx.forM fun entry =>
    rejectPlaceholder ("connections[" ++ toString entry.2 ++ "]")
      (Text.findPlaceholder entry.1.toList)

/-- What is done with a specification once its includes are merged. -/
def finish (registry : Registry) (render : Value -> String) (merged : GraphSpec)
    (policy : ResourcePolicy) : Except Error GraphSpec := do
  let explicitParamKeys := merged.nodes.map fun node => node.params.keys
  let merged <- applyTemplates { merged with includes := [] }
  let merged := applyVariables render
    (applyDefaults registry (applyNodeOverrides registry merged explicitParamKeys))
  validateReferences merged
  validateWithPolicy registry merged policy
  .ok merged

def checkHeader (spec : GraphSpec) : Except Error Unit := do
  reject (¬ (spec.apiVersion = "dg/v1" ∨ spec.apiVersion = "v1"))
    (.validation "apiVersion" ("unsupported apiVersion: " ++ spec.apiVersion))
  reject (spec.kind ≠ "Graph") (.validation "kind" ("unsupported kind: " ++ spec.kind))

/-- Normalization without a base directory admits no includes. -/
def normalize (registry : Registry) (render : Value -> String) (spec : GraphSpec) :
    Except Error GraphSpec := do
  spec.checkHeader
  reject (spec.includes ≠ []) (.validation "includes"
    "includes require loading from a file path with a base directory")
  finish registry render (mergeIncluded GraphSpec.default spec) ResourcePolicy.default

end GraphSpec
end Graph
end DyunGu
