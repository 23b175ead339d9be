import DyunGu.Graph.Spec
import Mathlib.Data.List.DropRight
import Mathlib.Data.List.Infix

namespace DyunGu
namespace Graph
namespace ConnectionSpec

/-!
# Connections as texts

A connection is printed with one dot in each endpoint and an arrow between two
spaces.  Its names come from a text that was split at the first arrow and at
the first dot of each side.  So neither an arrow nor, in the name of a node, a
dot stands before the printed ones, and reading what was printed splits at
these.
-/

/-! ## Splitting at the first separator -/

section Splitting

variable {separator text before after : List Char}

private theorem splitOnce_first (isText : separator ≠ [])
    (split : splitOnce separator text = some (before, after)) :
    text = before ++ separator ++ after ∧ ¬ separator <:+: before ++ separator.dropLast := by
  induction text generalizing before with
  | nil => cases split
  | cons c text ih =>
      unfold splitOnce at split
      split at split
      · rename_i isPrefix
        rcases List.isPrefixOf_iff_prefix.mp isPrefix with ⟨rest, whole⟩
        rw [← whole, List.drop_left] at split
        cases split
        refine ⟨whole.symm, fun occurs => ?_⟩
        have shorter := occurs.length_le
        have positive := List.length_pos_iff.mpr isText
        rw [List.nil_append, List.length_dropLast] at shorter
        omega
      · rename_i notPrefix
        rcases Option.map_eq_some_iff.mp split with ⟨⟨found, rest⟩, later, same⟩
        cases same
        rcases ih later with ⟨rfl, absent⟩
        refine ⟨rfl, fun occurs => ?_⟩
        rw [List.cons_append, List.infix_cons_iff] at occurs
        rcases occurs with here | within
        · apply notPrefix
          apply List.isPrefixOf_iff_prefix.mpr
          apply here.trans
          rw [← List.cons_append, List.append_assoc, ← List.cons_append]
          apply (List.prefix_append_right_inj _).mpr
          exact (List.dropLast_prefix separator).trans (List.prefix_append _ _)
        · exact absent within

private theorem splitOnce_at (isText : separator ≠ [])
    (absent : ¬ separator <:+: before ++ separator.dropLast) :
    splitOnce separator (before ++ separator ++ after) = some (before, after) := by
  induction before with
  | nil =>
      cases separator with
      | nil => exact absurd rfl isText
      | cons c separator =>
          have isPrefix : (c :: separator).isPrefixOf (c :: (separator ++ after)) = true :=
            List.isPrefixOf_iff_prefix.mpr (List.prefix_append (c :: separator) after)
          rw [List.nil_append, List.cons_append, splitOnce, if_pos isPrefix, ← List.cons_append,
            List.drop_left]
  | cons c before ih =>
      rw [List.cons_append, List.infix_cons_iff, not_or] at absent
      have notPrefix : ¬ separator.isPrefixOf (c :: (before ++ separator ++ after)) = true := by
        rw [List.isPrefixOf_iff_prefix]
        intro here
        apply absent.1
        -- The separator ends before the last character of the one that is split at.
        apply List.prefix_of_prefix_length_le here
        · rw [← List.cons_append, ← List.cons_append, ← List.cons_append, List.append_assoc]
          apply (List.prefix_append_right_inj _).mpr
          exact (List.dropLast_prefix separator).trans (List.prefix_append _ _)
        · rw [List.length_cons, List.length_append, List.length_dropLast]
          omega
      rw [List.cons_append, List.cons_append, splitOnce, if_neg notPrefix, ih absent.2]
      rfl

/-- A text is split where the separator occurs first, so that it occurs
neither in what is before it nor across the border. -/
theorem splitOnce_eq_some (isText : separator ≠ []) :
    splitOnce separator text = some (before, after) <->
      text = before ++ separator ++ after ∧
        ¬ separator <:+: before ++ separator.dropLast := by
  constructor
  · exact splitOnce_first isText
  · rintro ⟨rfl, absent⟩
    exact splitOnce_at isText absent

theorem splitOnce_char_eq_some {c : Char} :
    splitOnce [c] text = some (before, after) <-> text = before ++ c :: after ∧ c ∉ before := by
  rw [splitOnce_eq_some (by simp)]
  simp [List.singleton_infix_iff]

/-- The last character of an arrow begins none, so that no arrow lies across
the border of another one. -/
theorem splitOnce_arrow :
    splitOnce ['-', '>'] text = some (before, after) <->
      text = before ++ '-' :: '>' :: after ∧ ¬ ['-', '>'] <:+: before := by
  have notLast : ¬ ['-', '>'] <:+ before ++ ['-'] := by
    rintro ⟨start, same⟩
    have last := congrArg List.getLast? same
    simp at last
  rw [splitOnce_eq_some (by simp)]
  simp [List.infix_concat_iff, notLast]

end Splitting

/-! ## Trimming -/

/-- A text that begins and ends with something other than whitespace. -/
structure Trimmed (text : List Char) : Prop where
  head : forall c, text.head? = some c -> isWhitespace c = false
  last : forall c, text.getLast? = some c -> isWhitespace c = false

section Trimming

variable {text : List Char}

theorem trim_eq (text : List Char) :
    trim text = (text.dropWhile isWhitespace).rdropWhile isWhitespace :=
  rfl

theorem trim_within (text : List Char) : trim text <:+: text := by
  rw [trim_eq]
  apply (List.rdropWhile_prefix isWhitespace _).isInfix.trans
  exact (List.dropWhile_suffix isWhitespace).isInfix

theorem trimmed_trim (text : List Char) : Trimmed (trim text) where
  head c isHead := by
    have isFirst : (text.dropWhile isWhitespace).head? = some c := by
      rcases List.rdropWhile_prefix isWhitespace (text.dropWhile isWhitespace) with
        ⟨rest, whole⟩
      rw [← whole, List.head?_append, ← trim_eq, isHead]
      rfl
    have notDropped := List.head?_dropWhile_not isWhitespace text
    rw [isFirst] at notDropped
    exact notDropped
  last c isLast := by
    rcases List.getLast?_eq_some_iff.mp isLast with ⟨init, whole⟩
    rw [trim_eq] at whole
    have notDropped := List.rdropWhile_last_not isWhitespace (text.dropWhile isWhitespace)
      (by simp [whole])
    simpa [whole] using notDropped

theorem Trimmed.trim_eq (trimmed : Trimmed text) : trim text = text := by
  rw [ConnectionSpec.trim_eq]
  have first : text.dropWhile isWhitespace = text := by
    cases text with
    | nil => rfl
    | cons c rest => exact List.dropWhile_cons_of_neg (by simp [trimmed.head c rfl])
  rw [first, List.rdropWhile_eq_self_iff]
  intro nonempty
  simp [trimmed.last _ (List.getLast?_eq_some_getLast nonempty)]

theorem trim_space_cons (text : List Char) : trim (' ' :: text) = trim text := by
  have isSpace : isWhitespace ' ' = true := by decide
  rw [trim_eq, trim_eq, List.dropWhile_cons_of_pos isSpace]

theorem trim_concat_space (text : List Char) : trim (text ++ [' ']) = trim text := by
  have isSpace : isWhitespace ' ' = true := by decide
  rw [trim_eq, trim_eq, List.dropWhile_append]
  split
  · rename_i isEmpty
    rw [List.isEmpty_iff.mp isEmpty, List.dropWhile_cons_of_pos isSpace, List.dropWhile_nil]
  · exact List.rdropWhile_concat_pos isWhitespace _ _ isSpace

/-- Two names with a dot between them are trimmed as they are. -/
theorem Trimmed.endpoint {node port : List Char} (nodeTrimmed : Trimmed node)
    (portTrimmed : Trimmed port) : Trimmed (node ++ '.' :: port) where
  head c isHead := by
    cases node with
    | nil =>
        cases isHead
        decide
    | cons d node => exact nodeTrimmed.head c isHead
  last c isLast := by
    rw [List.getLast?_append, List.getLast?_cons] at isLast
    cases isPort : port.getLast? with
    | none =>
        rw [isPort] at isLast
        cases isLast
        decide
    | some d =>
        rw [isPort] at isLast
        cases isLast
        exact portTrimmed.last d isPort

end Trimming

/-! ## Endpoints -/

/-- The text names a port of a node, as one side of a connection does. -/
def Names (text : List Char) (node port : String) : Prop :=
  Exists fun nodePart => Exists fun portPart =>
    splitOnce ['.'] (trim text) = some (nodePart, portPart) ∧
      node = String.ofList (trim nodePart) ∧ port = String.ofList (trim portPart)

theorem parse_eq_ok {spec : String} {connection : ConnectionSpec} :
    parse spec = .ok connection <->
      Exists fun source => Exists fun target =>
        splitOnce ['-', '>'] spec.toList = some (source, target) ∧
          Names source connection.fromNode connection.fromPort ∧
          Names target connection.toNode connection.toPort := by
  constructor
  · intro parsed
    unfold parse at parsed
    split at parsed
    · cases parsed
    · rename_i source target isSplit
      split at parsed
      · cases parsed
      · rename_i fromNode fromPort isSource
        split at parsed
        · cases parsed
        · rename_i toNode toPort isTarget
          cases parsed
          exact ⟨source, target, isSplit, ⟨fromNode, fromPort, isSource, rfl, rfl⟩,
            ⟨toNode, toPort, isTarget, rfl, rfl⟩⟩
  · rcases connection with ⟨fromNode, fromPort, toNode, toPort⟩
    rintro ⟨source, target, isSplit, ⟨_, _, isSource, rfl, rfl⟩, ⟨_, _, isTarget, rfl, rfl⟩⟩
    unfold parse
    rw [isSplit]
    dsimp only
    rw [isSource]
    dsimp only
    rw [isTarget]

/-- What the names of an endpoint are: they are trimmed, the node has no dot,
and both occur in the text. -/
structure Endpoint (text : List Char) (node port : String) : Prop where
  nodeTrimmed : Trimmed node.toList
  portTrimmed : Trimmed port.toList
  noDot : '.' ∉ node.toList
  nodeWithin : node.toList <:+: text
  portWithin : port.toList <:+: text

theorem Names.endpoint {text : List Char} {node port : String} (names : Names text node port) :
    Endpoint text node port := by
  rcases names with ⟨nodePart, portPart, isSplit, rfl, rfl⟩
  rcases splitOnce_char_eq_some.mp isSplit with ⟨whole, noDot⟩
  have nodePartWithin : nodePart <:+: text := by
    apply List.IsInfix.trans _ (trim_within text)
    rw [whole]
    exact List.infix_append_left
  have portPartWithin : portPart <:+: text := by
    apply List.IsInfix.trans _ (trim_within text)
    rw [whole]
    exact List.infix_append_of_infix_right (List.suffix_cons _ _).isInfix
  refine ⟨?_, ?_, ?_, ?_, ?_⟩ <;> rw [String.toList_ofList]
  · exact trimmed_trim nodePart
  · exact trimmed_trim portPart
  · exact fun isDot => noDot ((trim_within nodePart).subset isDot)
  · exact (trim_within nodePart).trans nodePartWithin
  · exact (trim_within portPart).trans portPartWithin

/-- The names of an endpoint are read back from the text that joins them. -/
theorem Endpoint.names {text printed : List Char} {node port : String}
    (endpoint : Endpoint text node port)
    (isPrinted : trim printed = trim (node.toList ++ '.' :: port.toList)) :
    Names printed node port := by
  rw [(endpoint.nodeTrimmed.endpoint endpoint.portTrimmed).trim_eq] at isPrinted
  refine ⟨node.toList, port.toList, ?_, ?_, ?_⟩
  · rw [isPrinted]
    exact splitOnce_char_eq_some.mpr ⟨rfl, endpoint.noDot⟩
  · rw [endpoint.nodeTrimmed.trim_eq, String.ofList_toList]
  · rw [endpoint.portTrimmed.trim_eq, String.ofList_toList]

/-- A separator lies on one side of a character that it does not have. -/
theorem infix_beside {separator before after : List Char} {c : Char} (other : c ∉ separator)
    (occurs : separator <:+: before ++ c :: after) :
    separator <:+: before ∨ separator <:+: after := by
  have empty {part : List Char} (isPart : part ⊆ separator) (starts : part <+: c :: after) :
      part = [] := by
    cases part with
    | nil => rfl
    | cons d part =>
        rcases List.cons_prefix_cons.mp starts with ⟨rfl, -⟩
        exact absurd (isPart List.mem_cons_self) other
  rcases List.infix_append_iff.mp occurs with within | later | ⟨first, second, rfl, ends, starts⟩
  · exact Or.inl within
  · rcases List.infix_cons_iff.mp later with starts | within
    · rw [empty (List.Subset.refl _) starts]
      exact Or.inl List.nil_infix
    · exact Or.inr within
  · rw [empty (List.subset_append_right first second) starts, List.append_nil]
    exact Or.inl ends.isInfix

theorem Endpoint.no_arrow {text : List Char} {node port : String}
    (endpoint : Endpoint text node port) (absent : ¬ ['-', '>'] <:+: text) :
    ¬ ['-', '>'] <:+: node.toList ++ '.' :: port.toList ++ [' '] := by
  intro occurs
  rcases infix_beside (by decide) occurs with inEndpoint | inSpace
  · rcases infix_beside (by decide) inEndpoint with inNode | inPort
    · exact absent (inNode.trans endpoint.nodeWithin)
    · exact absent (inPort.trans endpoint.portWithin)
  · cases List.infix_nil.mp inSpace

/-! ## Reading what was printed -/

theorem toText_toList (connection : ConnectionSpec) :
    connection.toText.toList =
      (connection.fromNode.toList ++ '.' :: connection.fromPort.toList ++ [' ']) ++
        '-' :: '>' ::
          ' ' :: (connection.toNode.toList ++ '.' :: connection.toPort.toList) := by
  simp [toText, String.toList_append]

/-- Reading the text of a connection that was read before gives the same
connection. -/
theorem parse_toText {spec : String} {connection : ConnectionSpec}
    (parsed : parse spec = .ok connection) :
    parse connection.toText = .ok connection := by
  rcases parse_eq_ok.mp parsed with ⟨source, target, isSplit, fromNames, toNames⟩
  have noArrow := (splitOnce_arrow.mp isSplit).2
  apply parse_eq_ok.mpr
  refine ⟨_, _, splitOnce_arrow.mpr ⟨toText_toList connection, ?_⟩, ?_, ?_⟩
  · exact fromNames.endpoint.no_arrow noArrow
  · exact fromNames.endpoint.names (trim_concat_space _)
  · exact toNames.endpoint.names (trim_space_cons _)

/-- A port may have dots, dashes and arrows in its name, and a node none. -/
theorem parse_toText_ports :
    parse (toText ⟨"a", "b.-", "", ">c. -> d"⟩) = .ok ⟨"a", "b.-", "", ">c. -> d"⟩ := by
  have parsed : parse "  a. b.- -> . >c. -> d " = .ok ⟨"a", "b.-", "", ">c. -> d"⟩ := by
    decide +kernel
  exact parse_toText parsed

end ConnectionSpec
end Graph
end DyunGu
