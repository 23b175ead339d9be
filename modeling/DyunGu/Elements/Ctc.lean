import DyunGu.Graph.Error
import DyunGu.Lib.LastMax
import DyunGu.Lib.Outcome
import Mathlib.Data.List.Destutter

namespace DyunGu
namespace Elements

open LastMax

/-!
# Greedy decoding of text

Each row of logits has one score for each character of the alphabet and one for
the blank, which stands somewhere among the characters.  The decoder takes the
best class of each row, drops one that repeats the class of the row before, and
drops the blanks.  Scores appear with the order of `total_cmp`.
-/

def maxOcrRows : Nat := 100000

variable {Score : Type} [LinearOrder Score]

/-- The class with the best score, and of several the last one. -/
def argmax (row : List Score) : Option Nat :=
  (lastMax (fun entry : Score × Nat => entry.1) row.zipIdx).map fun entry => entry.2

/-- One row, with the text so far and the class of the row before. -/
def decodeRow (alphabet : List Char) (blank : Nat) (state : String × Option Nat)
    (row : List Score) : Except Graph.Error (String × Option Nat) :=
  if row = [] then .ok state
  else
    match argmax row with
    | none => .error (.runtime "empty CTC row")
    | some index =>
        if index ≠ blank ∧ some index ≠ state.2 then
          match alphabet[if index < blank then index else index - 1]? with
          | none => .error (.runtime "CTC class exceeds alphabet")
          | some character => .ok (state.1.push character, some index)
        else .ok (state.1, some index)

def ctcGreedyDecode (rows : List (List Score)) (alphabet : List Char) (blank : Nat) :
    Except Graph.Error String :=
  if rows.length > maxOcrRows then
    .error (.resourceLimit "ctc rows" rows.length maxOcrRows)
  else do
    let (output, _) <- rows.foldlM (decodeRow alphabet blank) ("", none)
    return output

/-! ## The definition -/

/-- A score that is as large as any other one, and larger than those after it. -/
def IsArgmax (row : List Score) (index : Nat) : Prop :=
  Exists fun best => row[index]? = some best ∧
    (forall score, score ∈ row.take index -> score <= best) ∧
    forall score, score ∈ row.drop (index + 1) -> score < best

/-- What the classes stand for: the characters with the blank among them. -/
def classTable (alphabet : List Char) (blank : Nat) : List (Option Char) :=
  (alphabet.map some).insertIdx blank none

/-- The text has the characters of the classes when repetitions are collapsed
and then blanks removed. -/
def Spells (alphabet : List Char) (blank : Nat) (classes : List Nat) (text : List Char) : Prop :=
  List.Forall₂ (fun index character => (classTable alphabet blank)[index]? = some (some character))
    ((classes.destutter (· ≠ ·)).filter (· ≠ blank)) text

/-- The classes without those that repeat the one before, the first of which may
have one before it too. -/
def collapse : Option Nat -> List Nat -> List Nat
  | _, [] => []
  | previous, index :: classes =>
      if some index = previous then collapse previous classes
      else index :: collapse (some index) classes

theorem collapse_some (previous : Nat) (classes : List Nat) :
    classes.destutter' (· ≠ ·) previous = previous :: collapse (some previous) classes := by
  induction classes generalizing previous with
  | nil => rfl
  | cons index classes ih =>
      rw [List.destutter'_cons, collapse]
      by_cases repeated : previous = index
      · subst repeated
        rw [if_neg (not_not.mpr rfl), if_pos rfl, ih]
      · rw [if_pos repeated, if_neg (fun same => repeated (Option.some.inj same).symm), ih]

theorem collapse_none (classes : List Nat) : collapse none classes = classes.destutter (· ≠ ·) := by
  cases classes with
  | nil => rfl
  | cons index classes =>
      rw [List.destutter_cons', collapse_some]
      rfl

/-! ## One row and all rows -/

theorem argmax_eq_some {row : List Score} {index : Nat} (found : argmax row = some index) :
    IsArgmax row index := by
  rcases Option.map_eq_some_iff.mp found with ⟨⟨best, _⟩, isMax, rfl⟩
  rcases lastMax_eq_some isMax with ⟨_, _, split, early, late⟩
  rcases List.zipIdx_eq_append_iff.mp split with ⟨before, others, rfl, rfl, isRest⟩
  cases others with
  | nil => cases isRest
  | cons score after =>
      rw [List.zipIdx_cons] at isRest
      injection isRest with same isAfter
      injection same with isScore isIndex
      subst isScore isIndex isAfter
      dsimp only
      rw [Nat.zero_add]
      refine ⟨best, by simp, ?_, ?_⟩
      · intro score member
        rw [List.take_left] at member
        rw [← List.zipIdx_map_fst 0 before] at member
        rcases List.mem_map.mp member with ⟨entry, isEntry, rfl⟩
        exact early entry isEntry
      · intro score member
        rw [← List.drop_drop, List.drop_left, List.drop_one, List.tail_cons,
          ← List.zipIdx_map_fst (0 + before.length + 1) after] at member
        rcases List.mem_map.mp member with ⟨entry, isEntry, rfl⟩
        exact late entry isEntry

theorem argmax_of_ne_nil {row : List Score} (nonempty : row ≠ []) :
    Exists fun index => argmax row = some index := by
  rcases lastMax_of_ne_nil (fun entry : Score × Nat => entry.1)
    (mt List.zipIdx_eq_nil_iff.mp nonempty) with ⟨best, isMax⟩
  exact ⟨best.2, by rw [argmax, isMax]; rfl⟩

theorem IsArgmax.lt {row : List Score} {index : Nat} (isArgmax : IsArgmax row index) :
    index < row.length := by
  rcases isArgmax with ⟨best, isAt, _⟩
  exact (List.getElem?_eq_some_iff.mp isAt).1

/-- A class other than the blank stands for the character that the decoder looks
up. -/
theorem classTable_of_ne {alphabet : List Char} {blank index : Nat}
    (isClass : index < alphabet.length + 1) (valid : blank <= alphabet.length)
    (visible : index ≠ blank) : Exists fun character =>
      alphabet[if index < blank then index else index - 1]? = some character ∧
        (classTable alphabet blank)[index]? = some (some character) := by
  rw [classTable]
  by_cases early : index < blank
  · have bound : index < alphabet.length := early.trans_le valid
    refine ⟨alphabet[index], ?_, ?_⟩
    · rw [if_pos early]
      exact List.getElem?_eq_getElem bound
    · rw [List.getElem?_insertIdx_of_lt early, List.getElem?_map, List.getElem?_eq_getElem bound]
      rfl
  · have late : blank < index := Nat.lt_of_le_of_ne (Nat.le_of_not_lt early) (Ne.symm visible)
    have bound : index - 1 < alphabet.length := by omega
    refine ⟨alphabet[index - 1], ?_, ?_⟩
    · rw [if_neg early]
      exact List.getElem?_eq_getElem bound
    · rw [List.getElem?_insertIdx_of_gt late, List.getElem?_map, List.getElem?_eq_getElem bound]
      rfl

/-- A row adds the character of its class, unless that is a blank or a
repetition. -/
inductive RowRead (alphabet : List Char) (blank : Nat) (state : String × Option Nat)
    (row : List Score) (index : Nat) : Prop where
  | skipped (silent : index = blank ∨ some index = state.2)
      (read : decodeRow alphabet blank state row = .ok (state.1, some index))
  | added (character : Char) (visible : index ≠ blank) (fresh : some index ≠ state.2)
      (stands : (classTable alphabet blank)[index]? = some (some character))
      (read : decodeRow alphabet blank state row = .ok (state.1.push character, some index))

theorem row_read {alphabet : List Char} {blank : Nat} (valid : blank <= alphabet.length)
    (state : String × Option Nat) {row : List Score} (wide : row.length = alphabet.length + 1) :
    Exists fun index => IsArgmax row index ∧ RowRead alphabet blank state row index := by
  have nonempty : row ≠ [] := List.ne_nil_of_length_eq_add_one wide
  rcases argmax_of_ne_nil nonempty with ⟨index, found⟩
  have isArgmax := argmax_eq_some found
  refine ⟨index, isArgmax, ?_⟩
  by_cases counts : index ≠ blank ∧ some index ≠ state.2
  · rcases classTable_of_ne (wide ▸ isArgmax.lt) valid counts.1 with ⟨character, isAt, stands⟩
    refine .added character counts.1 counts.2 stands ?_
    rw [decodeRow, if_neg nonempty, found]
    simp only [if_pos counts, isAt]
  · refine .skipped ?_ ?_
    · by_contra neither
      exact counts (not_or.mp neither)
    · rw [decodeRow, if_neg nonempty, found]
      simp only [if_neg counts]

/-- The rows add what their classes spell, behind the class of the row before. -/
theorem rows_read {alphabet : List Char} {blank : Nat} (valid : blank <= alphabet.length)
    {rows : List (List Score)} (wide : forall row, row ∈ rows -> row.length = alphabet.length + 1)
    (state : String × Option Nat) : Exists fun final => Exists fun classes => Exists fun added =>
      rows.foldlM (decodeRow alphabet blank) state = .ok final ∧
      List.Forall₂ IsArgmax rows classes ∧ final.1.toList = state.1.toList ++ added ∧
      List.Forall₂
        (fun index character => (classTable alphabet blank)[index]? = some (some character))
        ((collapse state.2 classes).filter (· ≠ blank)) added := by
  induction rows generalizing state with
  | nil => exact ⟨state, [], [], rfl, List.Forall₂.nil, (List.append_nil _).symm, List.Forall₂.nil⟩
  | cons row rows ih =>
      rcases List.forall_mem_cons.mp wide with ⟨isWide, others⟩
      rcases row_read valid state isWide with ⟨index, isArgmax, read⟩
      cases read with
      | skipped silent read =>
          rcases ih others (state.1, some index) with ⟨final, classes, added, run, best, text, spells⟩
          refine ⟨final, index :: classes, added, ?_, List.Forall₂.cons isArgmax best, text, ?_⟩
          · rw [List.foldlM_cons, read]
            exact run
          · rw [collapse]
            by_cases repeated : some index = state.2
            · rw [if_pos repeated, ← repeated]
              exact spells
            · have isBlank := silent.resolve_right repeated
              rw [if_neg repeated, List.filter_cons_of_neg (by simp [isBlank])]
              exact spells
      | added character visible fresh stands read =>
          rcases ih others (state.1.push character, some index)
            with ⟨final, classes, added, run, best, text, spells⟩
          refine ⟨final, index :: classes, character :: added, ?_, List.Forall₂.cons isArgmax best,
            ?_, ?_⟩
          · rw [List.foldlM_cons, read]
            exact run
          · rw [text, String.toList_push, List.append_assoc, List.singleton_append]
          · rw [collapse, if_neg fresh, List.filter_cons_of_pos (by simp [visible])]
            exact List.Forall₂.cons stands spells

/-- Every matrix of at most `maxOcrRows` rows over the alphabet and the blank is
decoded, and the text is what the best classes of its rows spell. -/
theorem ctc_spells {alphabet : List Char} {blank : Nat} (valid : blank <= alphabet.length)
    {rows : List (List Score)} (limited : rows.length <= maxOcrRows)
    (wide : forall row, row ∈ rows -> row.length = alphabet.length + 1) :
    Exists fun text => Exists fun classes => ctcGreedyDecode rows alphabet blank = .ok text ∧
      List.Forall₂ IsArgmax rows classes ∧ Spells alphabet blank classes text.toList := by
  rcases rows_read valid wide ("", none) with ⟨final, classes, added, run, best, text, spells⟩
  refine ⟨final.1, classes, ?_, best, ?_⟩
  · rw [ctcGreedyDecode, if_neg (Nat.not_lt.mpr limited), run]
    rfl
  · rw [text, Spells, ← collapse_none]
    exact spells

/-- One character before a blank and once more behind it, each of them twice. -/
def repeatedRows : List (List Nat) :=
  [[9, 0, 0], [8, 0, 1], [0, 7, 0], [6, 0, 5], [5, 4, 1], [0, 0, 3], [1, 2, 2]]

theorem repeatedRows_spelled : Exists fun text => Exists fun classes =>
    ctcGreedyDecode repeatedRows ['a', 'b'] 1 = .ok text ∧
      List.Forall₂ IsArgmax repeatedRows classes ∧ Spells ['a', 'b'] 1 classes text.toList :=
  ctc_spells (by decide) (by decide) (by decide)

/-- More rows are refused, whatever is in them. -/
theorem ctc_refuses_long :
    (forall row, row ∈ List.replicate (maxOcrRows + 1) [1, 0] -> row.length = ['a'].length + 1) ∧
    ctcGreedyDecode (List.replicate (maxOcrRows + 1) [1, 0]) ['a'] 1 =
      .error (.resourceLimit "ctc rows" (maxOcrRows + 1) maxOcrRows) := by
  constructor
  · intro row member
    rw [List.eq_of_mem_replicate member]
    rfl
  · rw [ctcGreedyDecode, List.length_replicate]
    exact if_pos (Nat.lt_succ_self maxOcrRows)

end Elements
end DyunGu
