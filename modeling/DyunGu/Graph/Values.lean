import DyunGu.Graph.Normalize

namespace DyunGu
namespace Graph

/-!
# Values under merging and substitution

What normalization does to a value, as equations on whole values.  The fields
of an object are in key order, and merging and substitution keep them so.  A
value without placeholders is not changed by a substitution.
-/

/-! ## Texts without placeholders -/

namespace Text

/-- Nothing in the text opens a reference. -/
def Plain (text : List Char) : Prop := findPlaceholder text = none

theorem plain_cons {c : Char} {rest : List Char} :
    Plain (c :: rest) <-> ['$', '{'].isPrefixOf (c :: rest) = false ∧ Plain rest := by
  unfold Plain
  rw [findPlaceholder]
  cases opens : ['$', '{'].isPrefixOf (c :: rest) with
  | true => simp
  | false => simp

private theorem needle_opens {name : String} {text : List Char}
    (occurs : (needle name).isPrefixOf text = true) : ['$', '{'].isPrefixOf text = true := by
  rw [List.isPrefixOf_iff_prefix] at occurs ⊢
  have opening : ['$', '{'] <+: needle name := ⟨name.toList ++ ['}'], rfl⟩
  exact opening.trans occurs

theorem replace_plain {text : List Char} (plain : Plain text) (name : String)
    (replacement : List Char) : replace (needle name) replacement text = text := by
  unfold replace
  induction text with
  | nil => rfl
  | cons c rest ih =>
      rcases plain_cons.mp plain with ⟨closed, plainRest⟩
      unfold replaceFrom
      rw [if_neg, ih plainRest]
      intro occurs
      rw [needle_opens occurs] at closed
      cases closed

theorem isReference_plain {text : List Char} (plain : Plain text) : isReference text = false := by
  cases text with
  | nil => rfl
  | cons c rest =>
      unfold isReference
      rw [(plain_cons.mp plain).1]
      rfl

end Text

namespace Value

/-! ## Induction -/

/-- What holds of a value when it holds of the values in it, holds of every
value. -/
theorem induction {motive : Value -> Prop} (null : motive .null)
    (bool : forall value, motive (.bool value)) (number : forall value, motive (.number value))
    (string : forall text, motive (.string text))
    (array : forall values, (forall value, value ∈ values -> motive value) ->
      motive (.array values))
    (object : forall fields : List (String × Value),
      (forall entry, entry ∈ fields -> motive entry.2) -> motive (.object fields))
    (value : Value) : motive value := by
  refine @Value.rec motive (fun values => forall value, value ∈ values -> motive value)
    (fun fields => forall entry, entry ∈ fields -> motive entry.2) (fun entry => motive entry.2)
    null bool number string array object ?_ ?_ ?_ ?_ ?_ value
  · intro value member
    cases member
  · intro first values holds holdsAll value member
    rcases List.mem_cons.mp member with rfl | later
    · exact holds
    · exact holdsAll value later
  · intro entry member
    cases member
  · intro first fields holds holdsAll entry member
    rcases List.mem_cons.mp member with rfl | later
    · exact holds
    · exact holdsAll entry later
  · intro key value holds
    exact holds

/-! ## The fields of an object -/

mutual

/-- The fields of every object in a value are in key order. -/
def WellFormed : Value -> Prop
  | .array values => WellFormedAll values
  | .object fields => KeyedList.Ordered fields ∧ WellFormedFields fields
  | .null | .bool _ | .number _ | .string _ => True

def WellFormedAll : List Value -> Prop
  | [] => True
  | value :: values => WellFormed value ∧ WellFormedAll values

def WellFormedFields : List (String × Value) -> Prop
  | [] => True
  | (_, value) :: fields => WellFormed value ∧ WellFormedFields fields

end

theorem wellFormedFields_iff {fields : List (String × Value)} :
    WellFormedFields fields <-> forall entry, entry ∈ fields -> entry.2.WellFormed := by
  induction fields with
  | nil => simp [WellFormedFields]
  | cons entry fields ih => simp [WellFormedFields, ih]

section Substitution

variable (render : Value -> String) (variableValues : List (String × Value))

theorem substituteAll_eq (values : List Value) :
    substituteAll render variableValues values =
      values.map (substituteVariables render variableValues) := by
  induction values with
  | nil => rfl
  | cons value values ih => rw [substituteAll, ih, List.map_cons]

theorem substituteFields_eq (fields : List (String × Value)) :
    substituteFields render variableValues fields =
      fields.map fun entry => (entry.1, substituteVariables render variableValues entry.2) := by
  induction fields with
  | nil => rfl
  | cons entry fields ih => rw [substituteFields, ih, List.map_cons]

end Substitution

/-! ## Merging -/

theorem find_mergeFields {overlay : List (String × Value)} (ordered : KeyedList.Ordered overlay)
    (base : List (String × Value)) (key : String) :
    KeyedList.find key (mergeFields base overlay) =
      match KeyedList.find key overlay with
      | some value =>
          some (match KeyedList.find key base with
            | some existing => mergeValues existing value
            | none => value)
      | none => KeyedList.find key base := by
  induction overlay generalizing base with
  | nil => simp [mergeFields, KeyedList.find]
  | cons entry overlay ih =>
      rcases entry with ⟨name, value⟩
      unfold KeyedList.Ordered at ordered
      rw [List.pairwise_cons] at ordered
      rw [mergeFields, ih ordered.2, KeyedList.find_insert, KeyedList.find]
      by_cases isKey : name = key
      · subst isKey
        have absent := KeyedList.find_of_before ordered.1
        cases KeyedList.find name base with
        | none => simp [absent]
        | some existing => simp [absent]
      · rw [if_neg isKey, if_neg isKey]

theorem ordered_mergeFields {base : List (String × Value)} (ordered : KeyedList.Ordered base)
    (overlay : List (String × Value)) : KeyedList.Ordered (mergeFields base overlay) := by
  induction overlay generalizing base with
  | nil => exact ordered
  | cons entry overlay ih =>
      rw [mergeFields]
      exact ih (KeyedList.ordered_insert ordered _ _)

theorem mergeValues_wellFormed (base overlay : Value) (formed : base.WellFormed)
    (formedToo : overlay.WellFormed) : (mergeValues base overlay).WellFormed := by
  induction overlay using Value.induction generalizing base with
  | object overlay ih =>
      cases base with
      | object base =>
          simp only [mergeValues, WellFormed, wellFormedFields_iff] at formed formedToo ⊢
          refine ⟨ordered_mergeFields formed.1 overlay, ?_⟩
          intro entry member
          have found := KeyedList.find_of_mem (ordered_mergeFields formed.1 overlay) member
          rw [find_mergeFields formedToo.1] at found
          cases above : KeyedList.find entry.1 overlay with
          | none =>
              rw [above] at found
              exact formed.2 _ (KeyedList.mem_of_find found)
          | some value =>
              rw [above] at found
              have ofOverlay := KeyedList.mem_of_find above
              rw [← Option.some.inj found]
              cases below : KeyedList.find entry.1 base with
              | none => exact formedToo.2 _ ofOverlay
              | some existing =>
                  exact ih _ ofOverlay _ (formed.2 _ (KeyedList.mem_of_find below))
                    (formedToo.2 _ ofOverlay)
      | _ => exact formedToo
  | _ => cases base <;> exact formedToo

/-! ## Values without placeholders -/

theorem findUnresolvedIn_none {values : List Value} :
    findUnresolvedIn values = none <->
      forall value, value ∈ values -> findUnresolvedPlaceholder value = none := by
  induction values with
  | nil => simp [findUnresolvedIn]
  | cons value values ih => simp [findUnresolvedIn, ih]

theorem findUnresolvedAmong_none {fields : List (String × Value)} :
    findUnresolvedAmong fields = none <->
      forall entry, entry ∈ fields -> findUnresolvedPlaceholder entry.2 = none := by
  induction fields with
  | nil => simp [findUnresolvedAmong]
  | cons entry fields ih => simp [findUnresolvedAmong, ih]

section Plain

variable (render : Value -> String) (variableValues : List (String × Value))

theorem substituteChars_plain {text : List Char} (plain : Text.Plain text) :
    substituteChars render variableValues text = text := by
  unfold substituteChars
  induction variableValues with
  | nil => rfl
  | cons entry variableValues ih => rw [List.foldl_cons, Text.replace_plain plain, ih]

theorem substituteString_plain {text : String} (plain : Text.Plain text.toList) :
    substituteString render variableValues text = text := by
  unfold substituteString
  rw [substituteChars_plain render variableValues plain, String.ofList_toList]

/-- Where nothing is left to replace, a substitution changes nothing. -/
theorem substituteVariables_plain (value : Value)
    (plain : findUnresolvedPlaceholder value = none) :
    substituteVariables render variableValues value = value := by
  induction value using Value.induction with
  | null => rfl
  | bool value => rfl
  | number value => rfl
  | string text =>
      simp only [findUnresolvedPlaceholder] at plain
      simp only [substituteVariables, substituteText, substituteString_plain _ _ plain]
      split
      · simp [Text.isReference_plain plain]
      · rfl
  | array values ih =>
      simp only [findUnresolvedPlaceholder, findUnresolvedIn_none] at plain
      have each : values.map (substituteVariables render variableValues) = values.map id :=
        List.map_congr_left fun value member => ih value member (plain value member)
      rw [substituteVariables, substituteAll_eq, each, List.map_id]
  | object fields ih =>
      simp only [findUnresolvedPlaceholder, findUnresolvedAmong_none] at plain
      have each : (fields.map fun entry =>
          (entry.1, substituteVariables render variableValues entry.2)) = fields.map id :=
        List.map_congr_left fun entry member =>
          Prod.ext rfl (ih entry member (plain entry member))
      rw [substituteVariables, substituteFields_eq, each, List.map_id]

end Plain

end Value
end Graph
end DyunGu
