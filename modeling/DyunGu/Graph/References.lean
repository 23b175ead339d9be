import DyunGu.Graph.Values

namespace DyunGu
namespace Graph
namespace Text

/-!
# References as tokens

A text with references is a list of characters and of references by name.
Replacing the references to one variable is an expansion of these tokens.
Variables that are replaced one after the other are replaced as if at once,
when nothing that is put in brings up a reference to one of them.

A name holds none of the three characters that references are written with.
-/

inductive Token where
  | char (c : Char)
  | ref (name : String)
deriving DecidableEq

/-- A character that can stand in the name of a variable. -/
def plainChar (c : Char) : Prop := c ≠ '$' ∧ c ≠ '{' ∧ c ≠ '}'

instance (c : Char) : Decidable (plainChar c) := inferInstanceAs (Decidable (_ ∧ _ ∧ _))

def Name (name : String) : Prop := forall c, c ∈ name.toList -> plainChar c

instance (name : String) : Decidable (Name name) := List.decidableBAll plainChar name.toList

/-- The name up to the end of a reference, and what follows it. -/
def closing : List Token -> Option (List Char × List Token)
  | .char c :: tokens =>
      if c = '}' then some ([], tokens)
      else if plainChar c then (closing tokens).map fun found => (c :: found.1, found.2)
      else none
  | _ => none

/-- A character before a text that is scanned: it may open a reference. -/
def push (c : Char) (tokens : List Token) : List Token :=
  match tokens with
  | .char d :: rest =>
      if c = '$' ∧ d = '{' then
        match closing rest with
        | some (name, rest) => .ref (String.ofList name) :: rest
        | none => .char c :: tokens
      else .char c :: tokens
  | _ => .char c :: tokens

def scan : List Char -> List Token
  | [] => []
  | c :: text => push c (scan text)

/-- A text with something put in for each reference. -/
def expand (put : String -> List Char) : List Token -> List Char
  | [] => []
  | .char c :: tokens => c :: expand put tokens
  | .ref name :: tokens => put name ++ expand put tokens

example : scan "a${b}$\x7bc".toList =
    [.char 'a', .ref "b", .char '$', .char '{', .char 'c'] := by
  decide +kernel

/-! ## Scanning -/

theorem closing_some {tokens rest : List Token} {name : List Char}
    (closes : closing tokens = some (name, rest)) :
    tokens = name.map Token.char ++ .char '}' :: rest ∧ forall c, c ∈ name -> plainChar c := by
  induction tokens generalizing name with
  | nil => cases closes
  | cons token tokens ih =>
      cases token with
      | ref other => cases closes
      | char c =>
          unfold closing at closes
          split at closes
          · rename_i isEnd
            cases closes
            exact ⟨by rw [isEnd]; rfl, by simp⟩
          · split at closes
            · rename_i isPlain
              rcases Option.map_eq_some_iff.mp closes with ⟨⟨inner, after⟩, found, same⟩
              cases same
              rcases ih found with ⟨rfl, plain⟩
              exact ⟨rfl, List.forall_mem_cons.mpr ⟨isPlain, plain⟩⟩
            · cases closes

theorem closing_name {name : List Char} (plain : forall c, c ∈ name -> plainChar c)
    (rest : List Token) :
    closing (name.map Token.char ++ .char '}' :: rest) = some (name, rest) := by
  induction name with
  | nil => simp [closing]
  | cons c name ih =>
      rw [List.forall_mem_cons] at plain
      rw [List.map_cons, List.cons_append, closing, if_neg plain.1.2.2, if_pos plain.1,
        ih plain.2]
      rfl

/-- What a character does before a text that is scanned. -/
theorem push_cases (c : Char) (tokens : List Token) :
    push c tokens = .char c :: tokens ∨
      Exists fun name => Exists fun rest =>
        c = '$' ∧ Name name ∧ push c tokens = .ref name :: rest ∧
        tokens = .char '{' :: name.toList.map Token.char ++ .char '}' :: rest := by
  unfold push
  split
  · rename_i d rest
    split
    · rename_i opens
      split
      · rename_i name after closes
        rcases closing_some closes with ⟨rfl, plain⟩
        refine Or.inr ⟨String.ofList name, after, opens.1, ?_, rfl, ?_⟩
        · simpa [Name] using plain
        · rw [opens.2, String.toList_ofList]
          rfl
      · exact Or.inl rfl
    · exact Or.inl rfl
  · exact Or.inl rfl

theorem push_plain {c : Char} (other : c ≠ '$') (tokens : List Token) :
    push c tokens = .char c :: tokens := by
  rcases push_cases c tokens with same | ⟨_, _, isDollar, _⟩
  · exact same
  · exact absurd isDollar other

theorem expand_chars (put : String -> List Char) (text : List Char) (tokens : List Token) :
    expand put (text.map Token.char ++ tokens) = text ++ expand put tokens := by
  induction text with
  | nil => rfl
  | cons c text ih => rw [List.map_cons, List.cons_append, expand, ih, List.cons_append]

/-- Putting each reference back gives the text again. -/
theorem expand_scan (text : List Char) : expand needle (scan text) = text := by
  induction text with
  | nil => rfl
  | cons c text ih =>
      rw [scan]
      rcases push_cases c (scan text) with same | ⟨name, rest, rfl, _, isRef, isText⟩
      · rw [same, expand, ih]
      · rw [isText] at ih
        rw [isRef, expand]
        rw [List.cons_append, expand, expand_chars] at ih
        simp only [expand] at ih
        rw [← ih]
        simp [needle]

theorem scan_chars {text : List Char} (plain : forall c, c ∈ text -> c ≠ '$')
    (rest : List Char) : scan (text ++ rest) = text.map Token.char ++ scan rest := by
  induction text with
  | nil => rfl
  | cons c text ih =>
      rw [List.forall_mem_cons] at plain
      rw [List.cons_append, scan, ih plain.2, push_plain plain.1]
      rfl

private theorem inner_plain {name : String} (isName : Name name) :
    forall c, c ∈ '{' :: name.toList ++ ['}'] -> c ≠ '$' := by
  intro c member
  rcases List.mem_append.mp member with inner | isEnd
  · rcases List.mem_cons.mp inner with rfl | inName
    · decide
    · exact (isName c inName).1
  · rw [List.mem_singleton.mp isEnd]
    decide

theorem scan_needle {name : String} (isName : Name name) (rest : List Char) :
    scan (needle name ++ rest) = .ref name :: scan rest := by
  have split : needle name ++ rest = '$' :: (('{' :: name.toList ++ ['}']) ++ rest) := by
    simp [needle]
  rw [split, scan, scan_chars (inner_plain isName)]
  have closes := closing_name isName (scan rest)
  simp [push, closes]

/-! ## Replacing one variable -/

private theorem replaceFrom_skip (needle replacement : List Char) (count : Nat)
    (text : List Char) :
    replaceFrom needle replacement count text =
      replaceFrom needle replacement 0 (text.drop count) := by
  induction count generalizing text with
  | zero => rfl
  | succ count ih =>
      cases text with
      | nil => rfl
      | cons c text =>
          rw [replaceFrom, List.drop_succ_cons]
          exact ih text

/-- What stands for a reference when one variable is replaced. -/
def putOne (name : String) (replacement : List Char) (other : String) : List Char :=
  if other = name then replacement else needle other

/-- The occurrences of a reference are the tokens that refer to it. -/
theorem replace_eq_expand {name : String} (isName : Name name) (replacement : List Char)
    (text : List Char) :
    replace (needle name) replacement text = expand (putOne name replacement) (scan text) := by
  unfold replace
  induction h : text.length using Nat.strong_induction_on generalizing text with
  | _ length ih =>
      cases text with
      | nil => rfl
      | cons c text =>
          subst h
          rw [replaceFrom]
          split
          · rename_i occurs
            rcases List.isPrefixOf_iff_prefix.mp occurs with ⟨rest, isText⟩
            have isRest : text.drop ((needle name).length - 1) = rest := by
              have dropped := congrArg (List.drop (needle name).length) isText
              rw [List.drop_left] at dropped
              exact dropped.symm
            have shorter : rest.length < (c :: text).length := by
              rw [← isText, List.length_append]
              simp [needle]
            rw [replaceFrom_skip, isRest, ih rest.length shorter rest rfl, ← isText,
              scan_needle isName, expand, putOne, if_pos rfl]
          · rename_i absent
            have shorter := ih text.length (by simp) text rfl
            rw [shorter, scan]
            rcases push_cases c (scan text) with same | ⟨other, rest, rfl, _, isRef, isTokens⟩
            · rw [same, expand]
            · have differs : other ≠ name := by
                rintro rfl
                have whole := expand_scan text
                rw [isTokens, List.cons_append, expand, expand_chars] at whole
                apply absent
                rw [List.isPrefixOf_iff_prefix, ← whole]
                exact ⟨expand needle rest, by simp [needle, expand]⟩
              rw [isRef, isTokens, expand, putOne, if_neg differs]
              rw [List.cons_append, expand, expand_chars]
              simp [expand, needle]

/-! ## Replacing all variables -/

/-- What stands for a reference when the variables of a table are replaced at
once. -/
def putAll (table : List (String × List Char)) (name : String) : List Char :=
  match KeyedList.find name table with
  | some replacement => replacement
  | none => needle name

/-- The variables of a table are replaced one after the other. -/
def replaceEach (table : List (String × List Char)) (text : List Char) : List Char :=
  table.foldl (fun text entry => replace (needle entry.1) entry.2 text) text

/-- No reference to a variable of a table occurs in a text. -/
def Free (table : List (String × List Char)) (text : List Char) : Prop :=
  forall entry, entry ∈ table -> ¬ needle entry.1 <:+: text

instance (table : List (String × List Char)) (text : List Char) : Decidable (Free table text) :=
  inferInstanceAs (Decidable (forall entry, entry ∈ table -> ¬ needle entry.1 <:+: text))

theorem Free.of_suffix {table : List (String × List Char)} (first : List Char)
    {second : List Char} (free : Free table (first ++ second)) : Free table second :=
  fun entry member occurs =>
    free entry member (occurs.trans (List.suffix_append first second).isInfix)

/-- A text in front brings up no reference to a variable of the table. -/
private theorem expand_prepend {table : List (String × List Char)} {text after : List Char}
    (scanned : expand (putAll table) (scan text) = after) (before : List Char)
    (free : Free table (before ++ after)) :
    expand (putAll table) (scan (before ++ text)) = before ++ after := by
  induction before with
  | nil => exact scanned
  | cons c before ih =>
      have inner := ih (Free.of_suffix [c] free)
      rw [List.cons_append, scan, List.cons_append]
      rcases push_cases c (scan (before ++ text)) with same | ⟨name, rest, rfl, _, isRef, isTokens⟩
      · rw [same, expand, inner]
      · rw [isTokens, List.cons_append, expand, expand_chars] at inner
        have here : needle name ++ expand (putAll table) rest = '$' :: (before ++ after) := by
          rw [← inner]
          simp [needle, expand]
        rw [isRef, expand]
        cases found : KeyedList.find name table with
        | none =>
            rw [putAll, found]
            exact here
        | some replacement =>
            exfalso
            apply free _ (KeyedList.mem_of_find found)
            rw [List.cons_append, ← here]
            exact (List.prefix_append _ _).isInfix

/-- The first variable of a table can be replaced before the others. -/
private theorem expand_first {name : String} {replacement : List Char}
    {table : List (String × List Char)} {tokens : List Token}
    (names : forall other, Token.ref other ∈ tokens -> Name other)
    (free : Free table (expand (putAll ((name, replacement) :: table)) tokens)) :
    expand (putAll table) (scan (expand (putOne name replacement) tokens)) =
      expand (putAll ((name, replacement) :: table)) tokens := by
  induction tokens with
  | nil => rfl
  | cons token tokens ih =>
      cases token with
      | char c =>
          have inner := ih (fun other member => names other (List.mem_cons_of_mem _ member))
            (Free.of_suffix [c] free)
          exact expand_prepend inner [c] free
      | ref other =>
          have inner := ih (fun other member => names other (List.mem_cons_of_mem _ member))
            (Free.of_suffix _ free)
          by_cases same : other = name
          · have first : putAll ((name, replacement) :: table) other = replacement := by
              simp [putAll, KeyedList.find, same]
            rw [expand, first] at free
            rw [expand, expand, first, putOne, if_pos same]
            exact expand_prepend inner replacement free
          · have later : putAll ((name, replacement) :: table) other = putAll table other := by
              simp [putAll, KeyedList.find, Ne.symm same]
            rw [expand, expand, putOne, if_neg same, scan_needle (names other List.mem_cons_self),
              expand, inner, later]

theorem name_of_scan {text : List Char} {name : String} (member : Token.ref name ∈ scan text) :
    Name name := by
  induction text with
  | nil => cases member
  | cons c text ih =>
      rw [scan] at member
      rcases push_cases c (scan text) with same | ⟨other, rest, _, isName, isRef, isTokens⟩
      · rw [same] at member
        rcases List.mem_cons.mp member with isChar | later
        · cases isChar
        · exact ih later
      · rw [isRef] at member
        rcases List.mem_cons.mp member with isOther | later
        · cases isOther
          exact isName
        · apply ih
          rw [isTokens]
          exact List.mem_append_right _ (List.mem_cons_of_mem _ later)

/-- When replacing the variables at once leaves no reference to any of them,
replacing them one after the other gives the same, in whatever order. -/
theorem replaceEach_eq_expand {table : List (String × List Char)}
    (names : forall entry, entry ∈ table -> Name entry.1)
    {text : List Char} (free : Free table (expand (putAll table) (scan text))) :
    replaceEach table text = expand (putAll table) (scan text) := by
  induction table generalizing text with
  | nil =>
      have back : putAll [] = needle := funext fun _ => rfl
      rw [back, expand_scan]
      rfl
  | cons entry table ih =>
      rcases entry with ⟨name, replacement⟩
      rw [List.forall_mem_cons] at names
      have first := replace_eq_expand names.1 replacement text
      have freeRest : Free table (expand (putAll ((name, replacement) :: table)) (scan text)) :=
        fun entry member => free entry (List.mem_cons_of_mem _ member)
      have rest := expand_first (fun other member => name_of_scan member) freeRest
      rw [← first] at rest
      rw [← rest] at freeRest ⊢
      exact ih names.2 freeRest

/-! ## Renaming -/

def Token.rename (renamed : String -> String) : Token -> Token
  | .char c => .char c
  | .ref name => .ref (renamed name)

/-- A text with every reference renamed. -/
def rename (renamed : String -> String) (text : List Char) : List Char :=
  expand needle ((scan text).map (Token.rename renamed))

section Rename

variable {renamed : String -> String}

private theorem closing_map (tokens : List Token) :
    closing (tokens.map (Token.rename renamed)) =
      (closing tokens).map fun found => (found.1, found.2.map (Token.rename renamed)) := by
  induction tokens with
  | nil => rfl
  | cons token tokens ih =>
      cases token with
      | ref name => rfl
      | char c =>
          rw [List.map_cons, Token.rename, closing, closing, ih]
          split
          · rfl
          · split
            · simp only [Option.map_map]
              rfl
            · rfl

private theorem push_map {c : Char} {tokens : List Token}
    (same : push c tokens = .char c :: tokens) :
    push c (tokens.map (Token.rename renamed)) =
      .char c :: tokens.map (Token.rename renamed) := by
  cases tokens with
  | nil => rfl
  | cons token tokens =>
      cases token with
      | ref name => rfl
      | char d =>
          unfold push at same ⊢
          rw [List.map_cons, Token.rename]
          dsimp only at same ⊢
          split at same
          · rename_i opens
            rw [if_pos opens, closing_map]
            split at same
            · cases same
            · rename_i open_
              rw [open_]
              rfl
          · rename_i other
            rw [if_neg other]

/-- Renaming a text renames its references and nothing else. -/
theorem scan_rename (names : forall name, Name name -> Name (renamed name)) (text : List Char) :
    scan (rename renamed text) = (scan text).map (Token.rename renamed) := by
  unfold rename
  induction text with
  | nil => rfl
  | cons c text ih =>
      rw [scan]
      rcases push_cases c (scan text) with same | ⟨name, rest, rfl, isName, isRef, isTokens⟩
      · rw [same, List.map_cons, Token.rename, expand, scan, ih, push_map same]
      · have isSplit : scan text = ('{' :: name.toList ++ ['}']).map Token.char ++ rest := by
          rw [isTokens]
          simp
        have renamedChars : (('{' :: name.toList ++ ['}']).map Token.char).map
            (Token.rename renamed) = ('{' :: name.toList ++ ['}']).map Token.char := by
          simp [Token.rename, Function.comp_def]
        rw [isSplit, List.map_append, renamedChars, expand_chars, scan_chars (inner_plain isName),
          List.append_cancel_left_eq] at ih
        rw [isRef, List.map_cons, Token.rename, expand, scan_needle (names name isName), ih]

theorem expand_map (put : String -> List Char) (tokens : List Token) :
    expand put (tokens.map (Token.rename renamed)) =
      expand (fun name => put (renamed name)) tokens := by
  induction tokens with
  | nil => rfl
  | cons token tokens ih =>
      cases token with
      | char c => rw [List.map_cons, Token.rename, expand, ih, expand]
      | ref name => rw [List.map_cons, Token.rename, expand, ih, expand]

end Rename

/-! ## Texts without references -/

theorem plain_iff {text : List Char} : Plain text <-> ¬ ['$', '{'] <:+: text := by
  induction text with
  | nil => simp [Plain, findPlaceholder]
  | cons c text ih =>
      rw [plain_cons, ih, List.infix_cons_iff, not_or, ← List.isPrefixOf_iff_prefix,
        Bool.not_eq_true]

theorem infix_expand {put : String -> List Char} {tokens : List Token} {name : String}
    (member : Token.ref name ∈ tokens) : put name <:+: expand put tokens := by
  induction tokens with
  | nil => cases member
  | cons token tokens ih =>
      rcases List.mem_cons.mp member with rfl | later
      · exact (List.prefix_append _ _).isInfix
      · cases token with
        | char c => exact (ih later).trans (List.suffix_cons _ _).isInfix
        | ref other => exact (ih later).trans (List.suffix_append _ _).isInfix

theorem Plain.of_infix {inner text : List Char} (plain : Plain text) (occurs : inner <:+: text) :
    Plain inner :=
  plain_iff.mpr fun opens => plain_iff.mp plain (opens.trans occurs)

theorem needle_not_plain (name : String) : ¬ Plain (needle name) := by
  rw [plain_iff, not_not]
  exact (List.prefix_append ['$', '{'] (name.toList ++ ['}'])).isInfix

/-- A text without placeholders holds no reference. -/
theorem no_ref_of_plain {text : List Char} (plain : Plain text) (name : String) :
    Token.ref name ∉ scan text := by
  intro member
  have occurs : needle name <:+: expand needle (scan text) := infix_expand member
  rw [expand_scan] at occurs
  exact needle_not_plain name (plain.of_infix occurs)

section Rename

variable {renamed : String -> String}

private theorem rename_of_no_ref {text : List Char}
    (none_ : forall name, Token.ref name ∉ scan text) : rename renamed text = text := by
  have same : (scan text).map (Token.rename renamed) = scan text := by
    rw [List.map_congr_left, List.map_id']
    intro token member
    cases token with
    | char c => rfl
    | ref name => exact absurd member (none_ name)
  rw [rename, same, expand_scan]

theorem rename_plain {text : List Char} (plain : Plain text) : rename renamed text = text :=
  rename_of_no_ref (no_ref_of_plain plain)

theorem rename_of_plain (names : forall name, Name name -> Name (renamed name))
    {text : List Char} (plain : Plain (rename renamed text)) : rename renamed text = text := by
  apply rename_of_no_ref
  intro name member
  apply no_ref_of_plain plain (renamed name)
  rw [scan_rename names]
  exact List.mem_map_of_mem member

end Rename

/-- Two ways to replace references that agree where one of them leaves no
placeholder agree as a whole where one of them does. -/
theorem expand_agree {first second : String -> List Char} {tokens : List Token}
    (agree : forall name, Token.ref name ∈ tokens -> Plain (first name) ∨ Plain (second name) ->
      first name = second name)
    (plain : Plain (expand first tokens) ∨ Plain (expand second tokens)) :
    expand first tokens = expand second tokens := by
  have each : forall name, Token.ref name ∈ tokens -> first name = second name := by
    intro name member
    apply agree name member
    rcases plain with plain | plain
    · exact Or.inl (plain.of_infix (infix_expand member))
    · exact Or.inr (plain.of_infix (infix_expand member))
  clear plain agree
  induction tokens with
  | nil => rfl
  | cons token tokens ih =>
      have rest := ih fun name member => each name (List.mem_cons_of_mem _ member)
      cases token with
      | char c => rw [expand, expand, rest]
      | ref name => rw [expand, expand, rest, each name List.mem_cons_self]

/-! ## Texts that are one reference -/

private theorem countOpenings_plain {text : List Char} (plain : forall c, c ∈ text -> c ≠ '$') :
    countOpenings text = 0 := by
  induction text with
  | nil => rfl
  | cons c text ih =>
      rw [List.forall_mem_cons] at plain
      unfold countOpenings
      split
      · rename_i isText
        cases isText
        exact absurd rfl plain.1
      · rename_i isText
        cases isText
        exact ih plain.2
      · rfl

private theorem trimOpenings_of_count {text : List Char} (none_ : countOpenings text = 0) :
    trimOpenings text = text := by
  unfold trimOpenings
  split
  · rw [countOpenings] at none_
    cases none_
  · rfl

private theorem trim_braces (inner : List Char) :
    ConnectionSpec.trim ('$' :: inner ++ ['}']) = '$' :: inner ++ ['}'] := by
  have opens : ConnectionSpec.isWhitespace '$' = false := by decide
  have closes : ConnectionSpec.isWhitespace '}' = false := by decide
  unfold ConnectionSpec.trim
  rw [List.cons_append, List.dropWhile_cons_of_neg (by simp [opens]), ← List.cons_append,
    List.reverse_append, List.reverse_singleton, List.singleton_append,
    List.dropWhile_cons_of_neg (by simp [closes])]
  simp

private theorem trimClosings_split (text : List Char) :
    Exists fun count => text = trimClosings text ++ List.replicate count '}' := by
  let ends := text.reverse.takeWhile fun c => decide (c = '}')
  have same : ends = List.replicate ends.length '}' :=
    List.eq_replicate_of_mem fun c member =>
      of_decide_eq_true (List.all_eq_true.mp List.all_takeWhile c member)
  refine ⟨ends.length, ?_⟩
  have parts : ends ++ text.reverse.dropWhile (fun c => decide (c = '}')) = text.reverse :=
    List.takeWhile_append_dropWhile
  rw [same] at parts
  rw [trimClosings, ← List.reverse_replicate, ← List.reverse_append, parts, List.reverse_reverse]

private theorem trimClosings_name {name : List Char} (plain : forall c, c ∈ name -> c ≠ '}')
    (count : Nat) : trimClosings (name ++ List.replicate count '}') = name := by
  have drops : (List.replicate count '}' ++ name.reverse).dropWhile (fun c => decide (c = '}')) =
      name.reverse := by
    rw [List.dropWhile_append_of_pos]
    · cases isReverse : name.reverse with
      | nil => rfl
      | cons c rest =>
          have member : c ∈ name := by
            rw [← List.mem_reverse, isReverse]
            exact List.mem_cons_self
          rw [List.dropWhile_cons_of_neg (by simp [plain c member])]
    · intro c member
      simp [List.eq_of_mem_replicate member]
  rw [trimClosings, List.reverse_append, List.reverse_replicate, drops, List.reverse_reverse]

private theorem needle_braces (name : String) (count : Nat) :
    needle name ++ List.replicate count '}' =
      '$' :: ('{' :: name.toList ++ List.replicate count '}') ++ ['}'] := by
  have turn : '}' :: List.replicate count '}' = List.replicate count '}' ++ ['}'] := by
    rw [← List.replicate_succ, List.replicate_succ']
  simp [needle, turn]

/-- A text that is one reference may close with more braces than it opens. -/
private theorem isReference_needle {name : String} (isName : Name name) (count : Nat) :
    isReference (needle name ++ List.replicate count '}') = true ∧
      referenceName (needle name ++ List.replicate count '}') = name := by
  have noDollar : forall c, c ∈ name.toList ++ List.replicate (count + 1) '}' -> c ≠ '$' := by
    intro c member
    rcases List.mem_append.mp member with inName | isEnd
    · exact (isName c inName).1
    · rw [List.eq_of_mem_replicate isEnd]
      decide
  have none_ := countOpenings_plain noDollar
  have split : needle name ++ List.replicate count '}' =
      '$' :: '{' :: (name.toList ++ List.replicate (count + 1) '}') := by
    simp [needle, List.replicate_succ]
  constructor
  · unfold isReference
    rw [Bool.and_eq_true, Bool.and_eq_true, decide_eq_true_iff, List.isPrefixOf_iff_prefix,
      List.isSuffixOf_iff_suffix]
    refine ⟨⟨?_, ?_⟩, ?_⟩
    · rw [split]
      exact ⟨_, rfl⟩
    · rw [needle_braces]
      exact List.suffix_append _ _
    · rw [split, countOpenings, none_]
  · unfold referenceName
    rw [needle_braces, trim_braces, ← needle_braces, split, trimOpenings,
      trimOpenings_of_count none_, trimClosings_name fun c inName => (isName c inName).2.2,
      String.ofList_toList]

private theorem needle_of_isReference {text : List Char} (whole : isReference text = true)
    (isName : Name (referenceName text)) :
    Exists fun count => text = needle (referenceName text) ++ List.replicate count '}' := by
  unfold isReference at whole
  rw [Bool.and_eq_true, Bool.and_eq_true, decide_eq_true_iff, List.isPrefixOf_iff_prefix,
    List.isSuffixOf_iff_suffix] at whole
  rcases whole with ⟨⟨⟨rest, isText⟩, ⟨init, isEnd⟩⟩, once⟩
  have ends : Exists fun inner => rest = inner ++ ['}'] := by
    rw [← isText] at isEnd
    match init, isEnd with
    | [_], isEnd => simp at isEnd
    | _ :: _ :: inner, isEnd =>
        simp only [List.cons_append, List.nil_append, List.cons.injEq] at isEnd
        exact ⟨inner, isEnd.2.2.symm⟩
  rcases ends with ⟨inner, isRest⟩
  have named : referenceName text = String.ofList (trimClosings rest) := by
    have braces : text = '$' :: ('{' :: inner) ++ ['}'] := by
      rw [← isText, isRest]
      simp
    have none_ : countOpenings rest = 0 := by
      rw [← isText, List.cons_append, List.cons_append, List.nil_append, countOpenings] at once
      omega
    unfold referenceName
    rw [braces, trim_braces, ← braces, ← isText]
    simp only [List.cons_append, List.nil_append, trimOpenings]
    rw [trimOpenings_of_count none_]
  rw [named] at isName ⊢
  rcases trimClosings_split rest with ⟨count, split⟩
  cases count with
  | zero =>
      rw [List.replicate_zero, List.append_nil] at split
      have closing : '}' ∈ (String.ofList (trimClosings rest)).toList := by
        rw [String.toList_ofList, ← split, isRest]
        simp
      exact absurd rfl (isName '}' closing).2.2
  | succ count =>
      refine ⟨count, ?_⟩
      rw [← isText]
      simp only [needle, String.toList_ofList]
      conv_lhs => rw [split]
      simp [List.replicate_succ]

theorem whole_iff {name : String} (isName : Name name) {text : List Char} :
    isReference text = true ∧ referenceName text = name <->
      Exists fun count => scan text = .ref name :: List.replicate count (.char '}') := by
  have braces (count : Nat) : scan (needle name ++ List.replicate count '}') =
      .ref name :: List.replicate count (.char '}') := by
    have isBrace : forall c, c ∈ List.replicate count '}' -> c ≠ '$' := by
      intro c member
      rw [List.eq_of_mem_replicate member]
      decide
    have closing := scan_chars isBrace []
    rw [List.append_nil, List.map_replicate, scan, List.append_nil] at closing
    rw [scan_needle isName, closing]
  constructor
  · rintro ⟨whole, rfl⟩
    rcases needle_of_isReference whole isName with ⟨count, isText⟩
    refine ⟨count, ?_⟩
    rw [← braces, ← isText]
  · rintro ⟨count, scanned⟩
    have isText : text = needle name ++ List.replicate count '}' := by
      rw [← expand_scan text, scanned, ← braces, expand_scan]
    rw [isText]
    exact isReference_needle isName count

end Text
end Graph
end DyunGu
