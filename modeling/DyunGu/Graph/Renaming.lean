import DyunGu.Graph.Idempotent
import DyunGu.Graph.References
import Mathlib.Logic.Function.Basic

namespace DyunGu
namespace Graph

open DyunGu.Core (ResourcePolicy)

/-!
# Renaming the variables of a specification

A renaming changes the names in the table of variables and in every reference.
Variables are replaced one after the other in the order of their names, so a
reference that comes in with the value of a variable is replaced or left
depending on how the names sort.  Where nothing that is put in brings up a
reference to a variable of the table, the names do not matter.
-/

/-! ## Renaming -/

def renameString (renamed : String -> String) (text : String) : String :=
  String.ofList (Text.rename renamed text.toList)

namespace Value

mutual

def rename (renamed : String -> String) : Value -> Value
  | .string text => .string (renameString renamed text)
  | .array values => .array (renameAll renamed values)
  | .object fields => .object (renameFields renamed fields)
  | .null => .null
  | .bool value => .bool value
  | .number value => .number value

def renameAll (renamed : String -> String) : List Value -> List Value
  | [] => []
  | value :: values => rename renamed value :: renameAll renamed values

def renameFields (renamed : String -> String) : List (String × Value) -> List (String × Value)
  | [] => []
  | (key, value) :: fields => (key, rename renamed value) :: renameFields renamed fields

end

end Value

namespace GraphSpec

variable (renamed : String -> String)

def renameSetting (setting : Option String) : Option String := setting.map (renameString renamed)

def renameNode (node : NodeSpec) : NodeSpec :=
  { node with
    backend := renameSetting renamed node.backend
    device := renameSetting renamed node.device
    precision := renameSetting renamed node.precision
    params := node.params.rename renamed }

def renameDevice : DeviceDefault -> DeviceDefault
  | .named name => .named (renameString renamed name)
  | .detailed kind id => .detailed kind id

def renameDefaults (defaults : DefaultsSpec) : DefaultsSpec where
  backend := renameSetting renamed defaults.backend
  device := defaults.device.map (renameDevice renamed)
  precision := renameSetting renamed defaults.precision

def renameTable (table : List (String × Value)) : List (String × Value) :=
  KeyedList.extend [] (table.map fun entry => (renamed entry.1, entry.2.rename renamed))

def renameTemplate (template : NodeTemplate) : NodeTemplate :=
  { template with params := template.params.rename renamed }

/-- The table of variables and every reference to a variable are renamed. -/
def rename (spec : GraphSpec) : GraphSpec :=
  { spec with
    variableValues := renameTable renamed spec.variableValues
    defaults := renameDefaults renamed spec.defaults
    templates := spec.templates.map fun entry => (entry.1, renameTemplate renamed entry.2)
    nodes := spec.nodes.map (renameNode renamed)
    connections := spec.connections.map (renameString renamed) }

end GraphSpec

/-! ## Values -/

namespace Value

section Rename

variable (renamed : String -> String)

theorem renameAll_eq (values : List Value) :
    renameAll renamed values = values.map (rename renamed) := by
  induction values with
  | nil => rfl
  | cons value values ih => rw [renameAll, ih, List.map_cons]

theorem renameFields_eq (fields : List (String × Value)) :
    renameFields renamed fields = fields.map fun entry => (entry.1, rename renamed entry.2) := by
  induction fields with
  | nil => rfl
  | cons entry fields ih => rw [renameFields, ih, List.map_cons]

private theorem mergeFields_rename {base overlay : List (String × Value)}
    (each : forall entry, entry ∈ overlay -> forall base : Value,
      mergeValues (base.rename renamed) (entry.2.rename renamed) =
        (mergeValues base entry.2).rename renamed) :
    mergeFields (renameFields renamed base) (renameFields renamed overlay) =
      renameFields renamed (mergeFields base overlay) := by
  induction overlay generalizing base with
  | nil => rfl
  | cons entry overlay ih =>
      rcases entry with ⟨key, value⟩
      rw [List.forall_mem_cons] at each
      have found : KeyedList.find key (renameFields renamed base) =
          (KeyedList.find key base).map (rename renamed) := by
        rw [renameFields_eq, KeyedList.find_map]
      have inserted (merged : Value) :
          KeyedList.insert key (merged.rename renamed) (renameFields renamed base) =
            renameFields renamed (KeyedList.insert key merged base) := by
        rw [renameFields_eq, renameFields_eq, KeyedList.insert_map]
      rw [renameFields, mergeFields, mergeFields, ← ih each.2, found]
      cases KeyedList.find key base with
      | none => simp only [Option.map_none, inserted]
      | some existing => simp only [Option.map_some, each.1, inserted]

/-- Merging does not look at references. -/
theorem mergeValues_rename (base overlay : Value) :
    mergeValues (base.rename renamed) (overlay.rename renamed) =
      (mergeValues base overlay).rename renamed := by
  induction overlay using Value.induction generalizing base with
  | object overlay ih =>
      cases base with
      | object base =>
          simp only [rename, mergeValues]
          rw [mergeFields_rename renamed ih]
      | _ => rfl
  | _ => cases base <;> rfl

theorem keys_rename (value : Value) : (value.rename renamed).keys = value.keys := by
  cases value with
  | object fields => simp [rename, renameFields_eq, keys]
  | _ => rfl

theorem keys_find (fields : List (String × Value)) (key : String) :
    (KeyedList.find key (renameFields renamed fields)).isSome =
      (KeyedList.find key fields).isSome := by
  rw [renameFields_eq, KeyedList.find_map, Option.isSome_map]

/-- A value that holds no placeholder, before or after, is not changed. -/
theorem rename_eq (names : forall name, Text.Name name -> Text.Name (renamed name))
    (value : Value)
    (plain : value.findUnresolvedPlaceholder = none ∨
      (value.rename renamed).findUnresolvedPlaceholder = none) :
    value.rename renamed = value := by
  induction value using Value.induction with
  | null => rfl
  | bool value => rfl
  | number value => rfl
  | string text =>
      simp only [rename, findUnresolvedPlaceholder, renameString, String.toList_ofList] at plain ⊢
      have same : Text.rename renamed text.toList = text.toList := by
        rcases plain with plain | plain
        · exact Text.rename_plain plain
        · exact Text.rename_of_plain names plain
      rw [same, String.ofList_toList]
  | array values ih =>
      simp only [rename, renameAll_eq, findUnresolvedPlaceholder, findUnresolvedIn_none,
        List.forall_mem_map] at plain ⊢
      have each : values.map (rename renamed) = values.map id :=
        List.map_congr_left fun value member =>
          ih value member (plain.imp (fun all => all value member) fun all => all value member)
      rw [each, List.map_id]
  | object fields ih =>
      simp only [rename, renameFields_eq, findUnresolvedPlaceholder, findUnresolvedAmong_none,
        List.forall_mem_map] at plain ⊢
      have each : (fields.map fun entry => (entry.1, rename renamed entry.2)) = fields.map id :=
        List.map_congr_left fun entry member => Prod.ext rfl
          (ih entry member (plain.imp (fun all => all entry member) fun all => all entry member))
      rw [each, List.map_id]

end Rename

/-! ## Texts in values -/

mutual

/-- A property of every text in a value. -/
def AllTexts (holds : String -> Prop) : Value -> Prop
  | .string text => holds text
  | .array values => AllTextsIn holds values
  | .object fields => AllTextsAmong holds fields
  | .null | .bool _ | .number _ => True

def AllTextsIn (holds : String -> Prop) : List Value -> Prop
  | [] => True
  | value :: values => AllTexts holds value ∧ AllTextsIn holds values

def AllTextsAmong (holds : String -> Prop) : List (String × Value) -> Prop
  | [] => True
  | (_, value) :: fields => AllTexts holds value ∧ AllTextsAmong holds fields

end

theorem allTextsIn_iff {holds : String -> Prop} {values : List Value} :
    AllTextsIn holds values <-> forall value, value ∈ values -> AllTexts holds value := by
  induction values with
  | nil => simp [AllTextsIn]
  | cons value values ih => simp [AllTextsIn, ih]

theorem allTextsAmong_iff {holds : String -> Prop} {fields : List (String × Value)} :
    AllTextsAmong holds fields <-> forall entry, entry ∈ fields -> AllTexts holds entry.2 := by
  induction fields with
  | nil => simp [AllTextsAmong]
  | cons entry fields ih => simp [AllTextsAmong, ih]

end Value

/-! ## The table of variables -/

namespace GraphSpec

section Table

variable {renamed : String -> String} (injective : Function.Injective renamed)

private theorem find_renamed (injective : Function.Injective renamed)
    (table : List (String × Value)) (name : String) :
    KeyedList.find (renamed name)
        (table.map fun entry => (renamed entry.1, entry.2.rename renamed)) =
      (KeyedList.find name table).map (Value.rename renamed) := by
  induction table with
  | nil => rfl
  | cons entry table ih =>
      simp only [List.map_cons, KeyedList.find, injective.eq_iff]
      split
      · rfl
      · exact ih

private theorem find_renameTable_eq (injective : Function.Injective renamed)
    {table : List (String × Value)} (ordered : KeyedList.Ordered table) (name : String) :
    KeyedList.find name (renameTable renamed table) =
      KeyedList.find name (table.map fun entry => (renamed entry.1, entry.2.rename renamed)) := by
  have distinct : (table.map fun entry => (renamed entry.1, entry.2.rename renamed)).Pairwise
      fun first second => first.1 ≠ second.1 := by
    rw [List.pairwise_map]
    exact ordered.distinct.imp fun differ same => differ (injective same)
  rw [renameTable, KeyedList.find_extend distinct]
  exact Option.or_none

variable {table : List (String × Value)} (ordered : KeyedList.Ordered table)

include injective ordered

/-- A variable is found under its new name. -/
theorem find_renameTable (name : String) :
    KeyedList.find (renamed name) (renameTable renamed table) =
      (KeyedList.find name table).map (Value.rename renamed) := by
  rw [find_renameTable_eq injective ordered, find_renamed injective]

theorem renameTable_find {name : String} {value : Value}
    (found : KeyedList.find name (renameTable renamed table) = some value) :
    Exists fun original => renamed original = name ∧ original ∈ table.map Prod.fst := by
  rw [find_renameTable_eq injective ordered] at found
  rcases List.mem_map.mp (KeyedList.mem_of_find found) with ⟨entry, member, same⟩
  cases same
  exact ⟨entry.1, rfl, List.mem_map_of_mem member⟩

end Table

/-! ## Texts -/

section Texts

variable (render : Value -> String)

/-- The texts that the variables of a table stand for. -/
def texts (table : List (String × Value)) : List (String × List Char) :=
  table.map fun entry => (entry.1, Value.replacementText render entry.2)

/-- Replacing the variables at once leaves no reference to one of them. -/
def Settles (table : List (String × Value)) (text : List Char) : Prop :=
  Text.Free (texts render table)
    (Text.expand (Text.putAll (texts render table)) (Text.scan text))

instance (table : List (String × Value)) (text : List Char) :
    Decidable (Settles render table text) :=
  inferInstanceAs (Decidable (Text.Free _ _))

/-- The text is one reference, to a variable of the table. -/
def Whole (table : List (String × Value)) (text : List Char) : Prop :=
  Text.isReference text = true ∧
    (KeyedList.find (Text.referenceName text) table).isSome = true

instance (table : List (String × Value)) (text : List Char) : Decidable (Whole table text) :=
  inferInstanceAs (Decidable (_ ∧ _))

theorem substituteText_whole {table : List (String × Value)} {text : String} {value : Value}
    (reference : Text.isReference text.toList = true)
    (found : KeyedList.find (Text.referenceName text.toList) table = some value) :
    Value.substituteText render table text = value := by
  unfold Value.substituteText
  rw [found]
  dsimp only
  rw [if_pos reference]

theorem substituteText_other {table : List (String × Value)} {text : String}
    (other : ¬ Whole table text.toList) :
    Value.substituteText render table text =
      .string (Value.substituteString render table text) := by
  unfold Value.substituteText
  split
  · rename_i value found
    rw [if_neg]
    intro reference
    exact other ⟨reference, by rw [found]; rfl⟩
  · rfl

theorem substituteChars_eq (table : List (String × Value)) (text : List Char) :
    Value.substituteChars render table text = Text.replaceEach (texts render table) text := by
  unfold Value.substituteChars Text.replaceEach texts
  rw [List.foldl_map]

/-- The names of a table can be written in references. -/
def Named (table : List (String × Value)) : Prop :=
  forall entry, entry ∈ table -> Text.Name entry.1

theorem substituteChars_settles {table : List (String × Value)} (names : Named table)
    {text : List Char} (settles : Settles render table text) :
    Value.substituteChars render table text =
      Text.expand (Text.putAll (texts render table)) (Text.scan text) := by
  rw [substituteChars_eq]
  apply Text.replaceEach_eq_expand _ settles
  intro entry member
  rcases List.mem_map.mp member with ⟨original, isEntry, rfl⟩
  exact names original isEntry

theorem whole_iff_scan {table : List (String × Value)} (names : Named table) {text : List Char} :
    Whole table text <-> Exists fun name => Exists fun count =>
      (KeyedList.find name table).isSome = true ∧
        Text.scan text = .ref name :: List.replicate count (.char '}') := by
  have isName {name : String} (found : (KeyedList.find name table).isSome = true) :
      Text.Name name := by
    rcases List.mem_map.mp (KeyedList.find_isSome.mp found) with ⟨entry, member, rfl⟩
    exact names entry member
  constructor
  · rintro ⟨reference, found⟩
    rcases (Text.whole_iff (isName found)).mp ⟨reference, rfl⟩ with ⟨count, scanned⟩
    exact ⟨_, count, found, scanned⟩
  · rintro ⟨name, count, found, scanned⟩
    rcases (Text.whole_iff (isName found)).mpr ⟨count, scanned⟩ with ⟨reference, rfl⟩
    exact ⟨reference, found⟩

section Renamed

variable {render} {renamed : String -> String} (injective : Function.Injective renamed)
  (renamesNames : forall name, Text.Name name -> Text.Name (renamed name))
  {table : List (String × Value)} (ordered : KeyedList.Ordered table) (names : Named table)

include injective renamesNames ordered names

theorem named_renameTable : Named (renameTable renamed table) := by
  intro entry member
  have found := KeyedList.find_of_mem (KeyedList.ordered_extend List.Pairwise.nil _) member
  rcases renameTable_find injective ordered found with ⟨original, isName, isOriginal⟩
  rcases List.mem_map.mp isOriginal with ⟨old, isOld, rfl⟩
  rw [← isName]
  exact renamesNames _ (names old isOld)

/-- A text that is one reference is so under the new names. -/
theorem whole_rename {text : List Char} :
    Whole (renameTable renamed table) (Text.rename renamed text) <-> Whole table text := by
  rw [whole_iff_scan names,
    whole_iff_scan (named_renameTable injective renamesNames ordered names),
    Text.scan_rename renamesNames]
  constructor
  · rintro ⟨name, count, found, scanned⟩
    rcases List.map_eq_cons_iff.mp scanned with ⟨token, tokens, isScan, isRef, isRest⟩
    cases token with
    | char c => cases isRef
    | ref original =>
        cases isRef
        refine ⟨original, count, ?_, ?_⟩
        · rw [find_renameTable injective ordered, Option.isSome_map] at found
          exact found
        · rw [isScan, ← isRest]
          have unchanged : tokens.map (Text.Token.rename renamed) = tokens.map id := by
            apply List.map_congr_left
            intro token member
            have isBrace : Text.Token.rename renamed token = .char '}' := by
              apply List.eq_of_mem_replicate (n := count)
              rw [← isRest]
              exact List.mem_map_of_mem member
            cases token with
            | char c => rfl
            | ref other => cases isBrace
          rw [unchanged, List.map_id]
  · rintro ⟨name, count, found, scanned⟩
    refine ⟨renamed name, count, ?_, ?_⟩
    · rw [find_renameTable injective ordered, Option.isSome_map]
      exact found
    · rw [scanned, List.map_cons, List.map_replicate]
      rfl

omit names in
/-- What a variable stands for is the same under its new name, where it holds
no placeholder. -/
private theorem putAll_rename
    (renders : forall value, Text.Plain (render value).toList ->
      value.findUnresolvedPlaceholder = none) (name : String)
    (plain : Text.Plain (Text.putAll (texts render table) name) ∨
      Text.Plain (Text.putAll (texts render (renameTable renamed table)) (renamed name))) :
    Text.putAll (texts render table) name =
      Text.putAll (texts render (renameTable renamed table)) (renamed name) := by
  have standsFor {value : Value} (isPlain : Text.Plain (Value.replacementText render value)) :
      value.findUnresolvedPlaceholder = none := by
    cases value with
    | string text => exact isPlain
    | _ => exact renders _ isPlain
  unfold Text.putAll texts at plain ⊢
  rw [KeyedList.find_map, KeyedList.find_map, find_renameTable injective ordered] at plain ⊢
  cases found : KeyedList.find name table with
  | none =>
      rw [found] at plain
      exact absurd plain (not_or.mpr ⟨Text.needle_not_plain _, Text.needle_not_plain _⟩)
  | some value =>
      rw [found] at plain
      have same := Value.rename_eq renamed renamesNames value
        (plain.imp (fun isPlain => standsFor isPlain) fun isPlain => standsFor isPlain)
      simp only [Option.map_some, same]

/-- Where one of two texts holds no placeholder after the variables are
replaced, the other one is the same. -/
theorem substituteString_rename
    (renders : forall value, Text.Plain (render value).toList ->
      value.findUnresolvedPlaceholder = none)
    {text : String} (settles : Settles render table text.toList)
    (settlesToo : Settles render (renameTable renamed table)
      (renameString renamed text).toList)
    (plain : Text.Plain (Value.substituteString render table text).toList ∨
      Text.Plain (Value.substituteString render (renameTable renamed table)
        (renameString renamed text)).toList) :
    Value.substituteString render table text =
      Value.substituteString render (renameTable renamed table) (renameString renamed text) := by
  unfold Value.substituteString at plain ⊢
  rw [String.toList_ofList, String.toList_ofList] at plain
  rw [substituteChars_settles render names settles, substituteChars_settles render
    (named_renameTable injective renamesNames ordered names) settlesToo] at plain ⊢
  unfold renameString at plain ⊢
  rw [String.toList_ofList, Text.scan_rename renamesNames, Text.expand_map] at plain ⊢
  apply congrArg String.ofList
  exact Text.expand_agree
    (fun name _ => putAll_rename injective renamesNames ordered renders name) plain

/-- What a reference as a whole refers to, and what it refers to under the new
names. -/
private theorem whole_values {text : List Char} (whole : Whole table text) :
    Exists fun value => KeyedList.find (Text.referenceName text) table = some value ∧
      KeyedList.find (Text.referenceName (Text.rename renamed text))
        (renameTable renamed table) = some (value.rename renamed) := by
  rcases whole with ⟨reference, found⟩
  rcases Option.isSome_iff_exists.mp found with ⟨value, isValue⟩
  have isName : Text.Name (Text.referenceName text) :=
    names (Text.referenceName text, value) (KeyedList.mem_of_find isValue)
  rcases (Text.whole_iff isName).mp ⟨reference, rfl⟩ with ⟨count, scanned⟩
  have scannedToo : Text.scan (Text.rename renamed text) =
      .ref (renamed (Text.referenceName text)) :: List.replicate count (.char '}') := by
    rw [Text.scan_rename renamesNames, scanned, List.map_cons, List.map_replicate]
    rfl
  have named := ((Text.whole_iff (renamesNames _ isName)).mpr ⟨count, scannedToo⟩).2
  refine ⟨value, isValue, ?_⟩
  rw [named, find_renameTable injective ordered, isValue, Option.map_some]

/-- The texts of a value settle, or are references as a whole. -/
def TextsSettle (render : Value -> String) (table : List (String × Value)) (value : Value) :
    Prop :=
  value.AllTexts fun text => Whole table text.toList ∨ Settles render table text.toList

/-- The same for values. -/
theorem substituteVariables_rename
    (renders : forall value, Text.Plain (render value).toList ->
      value.findUnresolvedPlaceholder = none)
    (value : Value) (settles : TextsSettle render table value)
    (settlesToo : TextsSettle render (renameTable renamed table) (value.rename renamed))
    (plain : (value.substituteVariables render table).findUnresolvedPlaceholder = none ∨
      ((value.rename renamed).substituteVariables render
        (renameTable renamed table)).findUnresolvedPlaceholder = none) :
    value.substituteVariables render table =
      (value.rename renamed).substituteVariables render (renameTable renamed table) := by
  induction value using Value.induction with
  | null => rfl
  | bool value => rfl
  | number value => rfl
  | string text =>
      simp only [TextsSettle, Value.rename, Value.AllTexts] at settles settlesToo
      simp only [Value.rename, Value.substituteVariables] at plain ⊢
      have isRenamed : (renameString renamed text).toList = Text.rename renamed text.toList :=
        String.toList_ofList
      have iff := @whole_rename _ injective renamesNames _ ordered names text.toList
      by_cases whole : Whole table text.toList
      · rcases whole_values injective renamesNames ordered names whole with ⟨value, found, foundToo⟩
        rw [← isRenamed] at foundToo iff
        rw [substituteText_whole render whole.1 found,
          substituteText_whole render (iff.mpr whole).1 foundToo] at plain ⊢
        exact (Value.rename_eq renamed renamesNames value plain).symm
      · rw [← isRenamed] at iff
        have other := fun isWhole => whole (iff.mp isWhole)
        rw [substituteText_other render whole, substituteText_other render other] at plain ⊢
        apply congrArg Value.string
        exact substituteString_rename injective renamesNames ordered names renders
          (settles.resolve_left whole) (settlesToo.resolve_left other) plain
  | array values ih =>
      simp only [TextsSettle, Value.rename, Value.AllTexts, Value.allTextsIn_iff,
        Value.renameAll_eq, List.forall_mem_map] at settles settlesToo
      simp only [Value.rename, Value.substituteVariables, Value.substituteAll_eq,
        Value.renameAll_eq, Value.findUnresolvedPlaceholder, Value.findUnresolvedIn_none,
        List.forall_mem_map, List.map_map] at plain ⊢
      apply congrArg Value.array
      apply List.map_congr_left
      intro value member
      exact ih value member (settles value member) (settlesToo value member)
        (plain.imp (fun all => all value member) fun all => all value member)
  | object fields ih =>
      simp only [TextsSettle, Value.rename, Value.AllTexts, Value.allTextsAmong_iff,
        Value.renameFields_eq, List.forall_mem_map] at settles settlesToo
      simp only [Value.rename, Value.substituteVariables, Value.substituteFields_eq,
        Value.renameFields_eq, Value.findUnresolvedPlaceholder, Value.findUnresolvedAmong_none,
        List.forall_mem_map, List.map_map] at plain ⊢
      apply congrArg Value.object
      apply List.map_congr_left
      intro entry member
      exact Prod.ext rfl (ih entry member (settles entry member) (settlesToo entry member)
        (plain.imp (fun all => all entry member) fun all => all entry member))

end Renamed

end Texts

/-! ## Templates, settings and defaults -/

section Passes

variable (renamed : String -> String)

def renameSettings (given : List (String × Option String)) : List (String × Option String) :=
  given.map fun setting => (setting.1, renameSetting renamed setting.2)

private theorem fillSetting_rename (descriptor : ElementDescriptor) (kept : String -> Bool)
    (fields : List (String × Value)) (setting : String × Option String) :
    fillSetting descriptor kept (Value.renameFields renamed fields)
        (setting.1, renameSetting renamed setting.2) =
      Value.renameFields renamed (fillSetting descriptor kept fields setting) := by
  unfold fillSetting
  cases setting.2 with
  | none => rfl
  | some text =>
      dsimp only [renameSetting, Option.map_some]
      split
      · rw [Value.renameFields_eq, Value.renameFields_eq, ← KeyedList.insert_map]
        rfl
      · rfl

private theorem fillAll_rename {kept : List (String × Value) -> String -> Bool}
    (keeps : forall fields, kept (Value.renameFields renamed fields) = kept fields)
    (descriptor : ElementDescriptor) (given : List (String × Option String))
    (fields : List (String × Value)) :
    fillAll descriptor kept (renameSettings renamed given) (Value.renameFields renamed fields) =
      Value.renameFields renamed (fillAll descriptor kept given fields) := by
  unfold fillAll renameSettings
  induction given generalizing fields with
  | nil => rfl
  | cons setting given ih =>
      rw [List.map_cons, List.foldl_cons, List.foldl_cons, keeps, fillSetting_rename, ih]

private theorem fillIn_rename {fill other : List (String × Value) -> List (String × Value)}
    (same : forall fields,
      other (Value.renameFields renamed fields) = Value.renameFields renamed (fill fields))
    (params : Value) :
    (params.rename renamed).fillIn other = (params.fillIn fill).rename renamed := by
  cases params with
  | null => exact congrArg Value.object (same [])
  | object fields => exact congrArg Value.object (same fields)
  | _ => rfl

private theorem fillPass_rename {kept : List (String × Value) -> String -> Bool}
    (keeps : forall fields, kept (Value.renameFields renamed fields) = kept fields)
    (registry : Registry) (given : List (String × Option String)) (node : NodeSpec) :
    fillPass registry kept (renameSettings renamed given) (renameNode renamed node) =
      renameNode renamed (fillPass registry kept given node) := by
  have any : ((renameSettings renamed given).any fun setting => setting.2.isSome) =
      given.any fun setting => setting.2.isSome := by
    unfold renameSettings
    rw [List.any_map]
    congr 1
    funext setting
    exact Option.isSome_map
  unfold fillPass
  rw [any]
  have sameKind : (renameNode renamed node).kind = node.kind := rfl
  rw [sameKind]
  cases registry.findElement node.kind with
  | none => rfl
  | some descriptor =>
      have filled := fillIn_rename renamed (fillAll_rename renamed keeps descriptor given)
        node.params
      dsimp only
      split
      · show { renameNode renamed node with
          params := (node.params.rename renamed).fillIn
            (fillAll descriptor kept (renameSettings renamed given)) } = _
        rw [filled]
        rfl
      · rfl

private theorem defaultSettings_rename (defaults : DefaultsSpec) :
    defaultSettings (renameDefaults renamed defaults) =
      renameSettings renamed (defaultSettings defaults) := by
  rcases defaults with ⟨backend, device, precision⟩
  cases device with
  | none => rfl
  | some device => cases device <;> rfl

theorem applyTemplate_rename (templates : List (String × NodeTemplate)) (node : NodeSpec) :
    applyTemplate (templates.map fun entry => (entry.1, renameTemplate renamed entry.2))
        (renameNode renamed node) =
      (applyTemplate templates node).map (renameNode renamed) := by
  unfold applyTemplate
  have sameTemplate : (renameNode renamed node).template = node.template := rfl
  rw [sameTemplate]
  cases node.template with
  | none => rfl
  | some name =>
      dsimp only
      rw [KeyedList.find_map]
      cases KeyedList.find name templates with
      | none => rfl
      | some template =>
          have merged := Value.mergeValues_rename renamed template.params node.params
          dsimp only [Option.map_some]
          show Except.ok { renameNode renamed node with
            kind := template.kind
            template := some name
            params := Value.mergeValues (template.params.rename renamed)
              (node.params.rename renamed) } = _
          rw [merged]
          rfl

private theorem templated_rename (templates : List (String × NodeTemplate)) (node : NodeSpec) :
    templated (templates.map fun entry => (entry.1, renameTemplate renamed entry.2))
        (renameNode renamed node) = renameNode renamed (templated templates node) := by
  unfold templated
  rw [applyTemplate_rename]
  cases applyTemplate templates node with
  | error error => rfl
  | ok result => rfl

/-- What is worked into a node does not depend on the names of variables. -/
theorem worked_rename (registry : Registry) (spec : GraphSpec) (node : NodeSpec) :
    worked registry (rename renamed spec) (renameNode renamed node) =
      renameNode renamed (worked registry spec node) := by
  have keys : (renameNode renamed node).params.keys = node.params.keys :=
    Value.keys_rename renamed node.params
  have templates : templated (rename renamed spec).templates (renameNode renamed node) =
      renameNode renamed (templated spec.templates node) :=
    templated_rename renamed spec.templates node
  have defaults := defaultSettings_rename renamed spec.defaults
  unfold worked
  rw [templates, keys, applyDefault_eq, applyNodeOverride_eq, applyDefault_eq,
    applyNodeOverride_eq]
  show fillPass registry _ (defaultSettings (renameDefaults renamed spec.defaults))
    (fillPass registry _ (renameSettings renamed (nodeSettings (templated spec.templates node)))
      (renameNode renamed (templated spec.templates node))) = _
  rw [defaults, fillPass_rename renamed (fun _ => rfl), fillPass_rename renamed]
  intro fields
  funext name
  exact Value.keys_find renamed fields name

end Passes

/-! ## Normalization under new names -/

/-- Nothing that is put in for a reference brings up a reference to a variable
of the table: in the parameters of nodes, with templates, settings and defaults
worked in, in the parameters of templates, and in connections. -/
structure Settled (registry : Registry) (render : Value -> String) (spec : GraphSpec) :
    Prop where
  nodes : forall node, node ∈ spec.nodes ->
    TextsSettle render spec.variableValues (worked registry spec node).params
  templates : forall entry, entry ∈ spec.templates ->
    TextsSettle render spec.variableValues entry.2.params
  connections : forall connection, connection ∈ spec.connections ->
    Settles render spec.variableValues connection.toList

private theorem nodeSettings_worked (registry : Registry) (spec : GraphSpec) (node : NodeSpec) :
    nodeSettings (worked registry spec node) = nodeSettings node := by
  have ofTemplate : nodeSettings (templated spec.templates node) = nodeSettings node := by
    unfold templated applyTemplate
    split
    · rfl
    · split
      · rfl
      · rfl
  rw [worked_params]
  exact ofTemplate

private theorem renameNode_params {renamed : String -> String} {node : NodeSpec}
    (fixed : forall name text, (name, some text) ∈ nodeSettings node ->
      renameString renamed text = text) (params : Value) :
    { renameNode renamed node with params := params } = { node with params := params } := by
  have same (name : String) {setting : Option String}
      (member : (name, setting) ∈ nodeSettings node) : renameSetting renamed setting = setting := by
    cases setting with
    | none => rfl
    | some text => exact congrArg some (fixed name text member)
  have backend : renameSetting renamed node.backend = node.backend :=
    same "backend" (by simp [nodeSettings])
  have device : renameSetting renamed node.device = node.device :=
    same "device" (by simp [nodeSettings])
  have precision : renameSetting renamed node.precision = node.precision :=
    same "precision" (by simp [nodeSettings])
  unfold renameNode
  rw [backend, device, precision]

/-- The checks at the end look at nodes, templates and connections, at how the
graph is executed and at whether it may have cycles. -/
private theorem checks_congr {registry : Registry} {first second : GraphSpec}
    (agree : first.nodes = second.nodes ∧ first.templates = second.templates ∧
      first.connections = second.connections) (execution : first.execution = second.execution)
    (cycles : first.allowCycles = second.allowCycles) :
    validateReferences first = validateReferences second ∧
      validateWithPolicy registry first ResourcePolicy.default =
        validateWithPolicy registry second ResourcePolicy.default := by
  rcases agree with ⟨nodes, templates, connections⟩
  constructor
  · unfold validateReferences
    rw [nodes, templates, connections]
  · unfold validateWithPolicy validateCounts
    rw [nodes, connections, execution, cycles]

private theorem templates_rename (renamed : String -> String) (spec : GraphSpec) :
    (forall node, node ∈ (rename renamed spec).nodes -> Exists fun templated =>
        applyTemplate (rename renamed spec).templates node = .ok templated) <->
      forall node, node ∈ spec.nodes -> Exists fun templated =>
        applyTemplate spec.templates node = .ok templated := by
  show (forall node, node ∈ spec.nodes.map (renameNode renamed) -> Exists fun templated =>
    applyTemplate (spec.templates.map fun entry => (entry.1, renameTemplate renamed entry.2))
      node = .ok templated) <-> _
  rw [List.forall_mem_map]
  refine forall₂_congr fun node _ => ?_
  rw [applyTemplate_rename]
  cases applyTemplate spec.templates node with
  | error error => simp [Except.map]
  | ok result => simp [Except.map]

section Agreement

variable {registry : Registry} {render : Value -> String} {renamed : String -> String}
  {spec : GraphSpec} (injective : Function.Injective renamed)
  (renamesNames : forall name, Text.Name name -> Text.Name (renamed name))
  (renders : forall value, Text.Plain (render value).toList ->
    value.findUnresolvedPlaceholder = none)
  (ordered : KeyedList.Ordered spec.variableValues) (names : Named spec.variableValues)
  (settled : Settled registry render spec)
  (settledToo : Settled registry render (rename renamed spec))
  (settings : forall node, node ∈ spec.nodes -> forall name text,
    (name, some text) ∈ nodeSettings node -> renameString renamed text = text)

include injective renamesNames renders ordered names settled settledToo settings

/-- When one of two normal forms holds no placeholder, they have the same
nodes, templates and connections. -/
theorem normalForm_rename
    (references : validateReferences (normalForm registry render spec) = .ok () ∨
      validateReferences (normalForm registry render (rename renamed spec)) = .ok ()) :
    (normalForm registry render spec).nodes =
        (normalForm registry render (rename renamed spec)).nodes ∧
      (normalForm registry render spec).templates =
        (normalForm registry render (rename renamed spec)).templates ∧
      (normalForm registry render spec).connections =
        (normalForm registry render (rename renamed spec)).connections := by
  rw [validateReferences_iff, validateReferences_iff] at references
  refine ⟨?_, ?_, ?_⟩
  · have plain := references.imp And.left And.left
    show spec.nodes.map (normalNode registry render spec) =
      (spec.nodes.map (renameNode renamed)).map (normalNode registry render (rename renamed spec))
    rw [List.map_map]
    apply List.map_congr_left
    intro node member
    have isWorked := worked_rename renamed registry spec node
    have settles := settledToo.nodes _ (List.mem_map_of_mem member)
    have either := plain.imp
      (fun all => all (normalNode registry render spec node) (List.mem_map_of_mem member))
      (fun all => all (normalNode registry render (rename renamed spec) (renameNode renamed node))
        (List.mem_map_of_mem (List.mem_map_of_mem member)))
    show normalNode registry render spec node =
      normalNode registry render (rename renamed spec) (renameNode renamed node)
    unfold normalNode at either ⊢
    rw [isWorked] at settles either ⊢
    have same := substituteVariables_rename injective renamesNames ordered names renders
      (worked registry spec node).params (settled.nodes node member) settles either
    have fixed := settings node member
    rw [← nodeSettings_worked registry spec node] at fixed
    rw [renameNode_params fixed, same]
    rfl
  · have plain := references.imp (fun all => all.2.1) (fun all => all.2.1)
    show (spec.templates.map fun entry => (entry.1, { entry.2 with
        params := entry.2.params.substituteVariables render spec.variableValues })) =
      (spec.templates.map fun entry => (entry.1, renameTemplate renamed entry.2)).map
        fun entry => (entry.1, { entry.2 with
          params := entry.2.params.substituteVariables render
            (renameTable renamed spec.variableValues) })
    rw [List.map_map]
    apply List.map_congr_left
    intro entry member
    have memberToo : (entry.1, renameTemplate renamed entry.2) ∈ (rename renamed spec).templates :=
      List.mem_map_of_mem (f := fun entry => (entry.1, renameTemplate renamed entry.2)) member
    have same := substituteVariables_rename injective renamesNames ordered names renders
      entry.2.params (settled.templates entry member) (settledToo.templates _ memberToo)
      (plain.imp
        (fun all => all (entry.1, ({ entry.2 with
          params := entry.2.params.substituteVariables render spec.variableValues } :
            NodeTemplate)) (List.mem_map.mpr ⟨entry, member, rfl⟩))
        (fun all => all (entry.1, ({ renameTemplate renamed entry.2 with
          params := (entry.2.params.rename renamed).substituteVariables render
            (renameTable renamed spec.variableValues) } : NodeTemplate))
          (List.mem_map.mpr ⟨_, memberToo, rfl⟩)))
    rw [same]
    rfl
  · have plain := references.imp (fun all => all.2.2) (fun all => all.2.2)
    show spec.connections.map (Value.substituteString render spec.variableValues) =
      (spec.connections.map (renameString renamed)).map
        (Value.substituteString render (renameTable renamed spec.variableValues))
    rw [List.map_map]
    apply List.map_congr_left
    intro connection member
    exact substituteString_rename injective renamesNames ordered names renders
      (settled.connections connection member)
      (settledToo.connections _ (List.mem_map_of_mem member))
      (plain.imp (fun all => all _ (List.mem_map_of_mem member))
        (fun all => all _ (List.mem_map_of_mem (List.mem_map_of_mem member))))

/-- Where nothing that is put in brings up a reference to a variable, under the
old names and the new ones, and the settings of the nodes are not renamed,
normalization does not depend on the names. -/
theorem normalize_rename (templates : KeyedList.Ordered spec.templates) :
    ((Exists fun result => normalize registry render spec = .ok result) <->
      Exists fun result => normalize registry render (rename renamed spec) = .ok result) ∧
    forall result other, normalize registry render spec = .ok result ->
      normalize registry render (rename renamed spec) = .ok other ->
        result.nodes = other.nodes ∧ result.connections = other.connections := by
  have orderedToo : KeyedList.Ordered (rename renamed spec).variableValues :=
    KeyedList.ordered_extend List.Pairwise.nil _
  have templatesToo : KeyedList.Ordered (rename renamed spec).templates :=
    KeyedList.ordered_map templates (renameTemplate renamed)
  have known := templates_rename renamed spec
  have agree := normalForm_rename injective renamesNames renders ordered names settled settledToo
    settings
  constructor
  · constructor
    · rintro ⟨result, normalized⟩
      rcases (normalize_iff ordered templates).mp normalized with
        ⟨header, noIncludes, each, rfl, references, valid⟩
      rcases checks_congr (agree (.inl references)) rfl rfl with ⟨sameReferences, sameValid⟩
      exact ⟨_, (normalize_iff orderedToo templatesToo).mpr ⟨header, noIncludes, known.mpr each,
        rfl, sameReferences.symm.trans references, sameValid.symm.trans valid⟩⟩
    · rintro ⟨result, normalized⟩
      rcases (normalize_iff orderedToo templatesToo).mp normalized with
        ⟨header, noIncludes, each, rfl, references, valid⟩
      rcases checks_congr (agree (.inr references)) rfl rfl with ⟨sameReferences, sameValid⟩
      exact ⟨_, (normalize_iff ordered templates).mpr ⟨header, noIncludes, known.mp each,
        rfl, sameReferences.trans references, sameValid.trans valid⟩⟩
  · intro result other normalized normalizedToo
    rcases (normalize_iff ordered templates).mp normalized with ⟨_, _, _, rfl, references, _⟩
    rcases (normalize_iff orderedToo templatesToo).mp normalizedToo with ⟨_, _, _, rfl, _, _⟩
    rcases agree (.inl references) with ⟨nodes, _, connections⟩
    exact ⟨nodes, connections⟩

end Agreement

/-- Two names change places. -/
def swapped (name : String) : String :=
  if name = "a" then "c" else if name = "c" then "a" else name

private theorem swapped_injective : Function.Injective swapped := by
  intro first second same
  unfold swapped at same
  grind

private theorem swapped_name (name : String) (isName : Text.Name name) :
    Text.Name (swapped name) := by
  unfold swapped
  split
  · decide
  · split
    · decide
    · exact isName

/-- Two variables, and one node with one text and perhaps a setting. -/
def letterSpec (first own : String) (backend : Option String) : GraphSpec :=
  { GraphSpec.default with
    variableValues := [("a", .string first), ("b", .string "x")]
    nodes := [⟨"n", "probe", none, false, backend, none, none, none,
      .object [("own", .string own)]⟩] }

/-- What stands for a value tells whether it holds a placeholder. -/
def placeholderText (value : Value) : String :=
  match value.findUnresolvedPlaceholder with
  | some _ => "$\x7b"
  | none => ""

private theorem placeholderText_plain (value : Value)
    (plain : Text.Plain (placeholderText value).toList) :
    value.findUnresolvedPlaceholder = none := by
  unfold placeholderText at plain
  split at plain
  · cases plain
  · assumption

private theorem settled_of_node {registry : Registry} {render : Value -> String}
    {spec : GraphSpec} {node : NodeSpec} (nodes : spec.nodes = [node])
    (templates : spec.templates = []) (connections : spec.connections = [])
    (settles : TextsSettle render spec.variableValues (worked registry spec node).params) :
    Settled registry render spec := by
  constructor
  · rw [nodes]
    intro other member
    rw [List.mem_singleton.mp member]
    exact settles
  · rw [templates]
    exact List.forall_mem_nil _
  · rw [connections]
    exact List.forall_mem_nil _

/-- A text with a reference in it, under the old names and the new ones. -/
theorem letterSpec_renamed :
    Exists fun result => Exists fun other =>
      normalize probeRegistry placeholderText (letterSpec "1" "n-${a}" none) = .ok result ∧
      normalize probeRegistry placeholderText
        (rename swapped (letterSpec "1" "n-${a}" none)) = .ok other ∧
      result.nodes = other.nodes ∧ result.connections = other.connections := by
  have settled : Settled probeRegistry placeholderText (letterSpec "1" "n-${a}" none) :=
    settled_of_node rfl rfl rfl ⟨.inr (by decide +kernel), trivial⟩
  have settledToo : Settled probeRegistry placeholderText
      (rename swapped (letterSpec "1" "n-${a}" none)) :=
    settled_of_node rfl rfl rfl ⟨.inr (by decide +kernel), trivial⟩
  refine ⟨_, _, rfl, rfl, (normalize_rename swapped_injective swapped_name placeholderText_plain
    ?_ ?_ settled settledToo ?_ List.Pairwise.nil).2 _ _ rfl rfl⟩
  · decide
  · intro entry member
    simp only [letterSpec, List.mem_cons, List.not_mem_nil, or_false] at member
    rcases member with rfl | rfl
    · decide
    · decide
  · intro node member name text isSetting
    rw [List.mem_singleton.mp member] at isSetting
    simp [nodeSettings] at isSetting

/-- The value of one variable refers to another, which comes after it under the
old name only; and the setting of a node keeps its reference. -/
theorem letterSpec_names :
    Function.Injective swapped ∧
    (Exists fun result => normalize probeRegistry placeholderText
      (letterSpec "${b}" "n-${a}" none) = .ok result) ∧
    (Exists fun error => normalize probeRegistry placeholderText
      (rename swapped (letterSpec "${b}" "n-${a}" none)) = .error error) ∧
    Exists fun result => Exists fun other =>
      normalize probeRegistry placeholderText (letterSpec "1" "n" (some "${a}")) = .ok result ∧
      normalize probeRegistry placeholderText
        (rename swapped (letterSpec "1" "n" (some "${a}"))) = .ok other ∧
      result.nodes ≠ other.nodes := by
  refine ⟨swapped_injective, ⟨_, rfl⟩, ⟨_, rfl⟩, _, _, rfl, rfl, ?_⟩
  decide +kernel

end GraphSpec
end Graph
end DyunGu
