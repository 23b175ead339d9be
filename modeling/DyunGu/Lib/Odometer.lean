import DyunGu.Lib.Raster
import DyunGu.Lib.Strided
import Mathlib.Data.List.Nodup

namespace DyunGu
namespace Odometer

open Strided

/-!
# Counting through an index space

An index is advanced at its last coordinate that is not the last one of its
extent, and the coordinates after it start again from zero.  From the first
index on this enumerates all indices in row-major order, and then it ends.
-/

section Enumeration

variable {Item State Failure : Type}

/-- The items that follow from one on, up to one that has no next one. -/
inductive Enumerates (next : Item -> Option Item) : Item -> List Item -> Prop where
  | last {item : Item} : next item = none -> Enumerates next item [item]
  | more {item following : Item} {items : List Item} : next item = some following ->
      Enumerates next following items -> Enumerates next item (item :: items)

/-- A loop that visits an item and goes on to the next one.  It is cut off after
`fuel` rounds. -/
def iterate (visit : State -> Item -> Except Failure State)
    (advance : Item -> Except Failure (Option Item)) :
    Nat -> Item -> State -> Option (Except Failure State)
  | 0, _, _ => none
  | fuel + 1, item, state =>
      match visit state item with
      | .error failure => some (.error failure)
      | .ok visited =>
          match advance item with
          | .error failure => some (.error failure)
          | .ok none => some (.ok visited)
          | .ok (some following) => iterate visit advance fuel following visited

/-- The loop visits the items that are enumerated, in their order, and ends. -/
theorem iterate_eq {visit : State -> Item -> Except Failure State}
    {advance : Item -> Except Failure (Option Item)} {next : Item -> Option Item} {item : Item}
    {items : List Item} (enumerated : Enumerates next item items)
    (advances : forall item, item ∈ items -> advance item = .ok (next item)) {fuel : Nat}
    (enough : items.length <= fuel) (state : State) :
    iterate visit advance fuel item state = some (items.foldlM visit state) := by
  induction enumerated generalizing fuel state with
  | last ends =>
      cases fuel with
      | zero => exact absurd enough (Nat.not_succ_le_zero _)
      | succ fuel =>
          have isLast := advances _ List.mem_cons_self
          rw [iterate, List.foldlM_cons, isLast, ends]
          cases visit state _ with
          | error failure => rfl
          | ok visited => rfl
  | more continues _ ih =>
      cases fuel with
      | zero => exact absurd enough (Nat.not_succ_le_zero _)
      | succ fuel =>
          rcases List.forall_mem_cons.mp advances with ⟨isNext, others⟩
          rw [iterate, List.foldlM_cons, isNext, continues]
          cases visit state _ with
          | error failure => rfl
          | ok visited => exact ih others (Nat.le_of_succ_le_succ enough) visited

end Enumeration

/-! ## The indices in row-major order -/

/-- All indices; the last coordinate changes first. -/
def indices : List Nat -> List (List Nat)
  | [] => [[]]
  | extent :: extents =>
      (List.range extent).flatMap fun coordinate => (indices extents).map (coordinate :: ·)

theorem mem_indices {extents index : List Nat} :
    index ∈ indices extents <-> InBounds index extents := by
  induction extents generalizing index with
  | nil =>
      rw [indices, List.mem_singleton]
      exact List.forall₂_nil_right_iff.symm
  | cons extent extents ih =>
      simp only [indices, List.mem_flatMap, List.mem_range, List.mem_map]
      constructor
      · rintro ⟨coordinate, below, others, member, rfl⟩
        exact List.Forall₂.cons below (ih.mp member)
      · intro inBounds
        cases inBounds with
        | cons below others => exact ⟨_, below, _, ih.mpr others, rfl⟩

/-- Each index is at the position that it has in row-major order. -/
theorem indices_offset (extents : List Nat) :
    (indices extents).map (offset · (rowMajor extents)) = List.range extents.prod := by
  induction extents with
  | nil => rfl
  | cons extent extents ih =>
      have block (coordinate : Nat) :
          ((indices extents).map (coordinate :: ·)).map
              (offset · (rowMajor (extent :: extents))) =
            (List.range extents.prod).map (coordinate * extents.prod + ·) := by
        rw [List.map_map, ← ih, List.map_map]
        refine List.map_congr_left fun index _ => ?_
        exact offset_cons coordinate extents.prod index (rowMajor extents)
      rw [indices, List.map_flatMap, List.prod_cons, ← Slices.range_mul]
      simp only [block]

theorem indices_length (extents : List Nat) : (indices extents).length = extents.prod := by
  rw [← List.length_range (n := extents.prod), ← indices_offset, List.length_map]

theorem indices_nodup (extents : List Nat) : (indices extents).Nodup := by
  refine List.Nodup.of_map (offset · (rowMajor extents)) ?_
  rw [indices_offset]
  exact List.nodup_range

/-- All indices, each once, in row-major order. -/
structure RowMajorOrder (extents : List Nat) (items : List (List Nat)) : Prop where
  all : forall index, index ∈ items <-> InBounds index extents
  once : items.Nodup
  order : items.map (offset · (rowMajor extents)) = List.range extents.prod

theorem indices_rowMajor (extents : List Nat) : RowMajorOrder extents (indices extents) :=
  ⟨fun _ => mem_indices, indices_nodup extents, indices_offset extents⟩

theorem offset_rowMajor_lt {extents index : List Nat} (inBounds : InBounds index extents) :
    offset index (rowMajor extents) < extents.prod := by
  rw [← List.mem_range, ← indices_offset]
  exact List.mem_map_of_mem (mem_indices.mpr inBounds)

/-! ## Advancing an index -/

def zeros (extents : List Nat) : List Nat := extents.map fun _ => 0

/-- The next index, if there is one. -/
def advance : List Nat -> List Nat -> Option (List Nat)
  | extent :: extents, coordinate :: index =>
      match advance extents index with
      | some next => some (coordinate :: next)
      | none =>
          if coordinate + 1 < extent then some ((coordinate + 1) :: zeros extents) else none
  | _, _ => none

/-- The indices that begin with one coordinate are enumerated before those that
begin with the next one. -/
theorem enumerates_block {extent coordinate : Nat} {extents index : List Nat}
    {block rest : List (List Nat)} (enumerated : Enumerates (advance extents) index block)
    (continues : if coordinate + 1 < extent then
        Enumerates (advance (extent :: extents)) ((coordinate + 1) :: zeros extents) rest
      else rest = []) :
    Enumerates (advance (extent :: extents)) (coordinate :: index)
      (block.map (coordinate :: ·) ++ rest) := by
  induction enumerated with
  | last ends =>
      split at continues
      · rename_i below
        refine Enumerates.more ?_ continues
        rw [advance, ends]
        exact if_pos below
      · rename_i isLast
        cases continues
        refine Enumerates.last ?_
        rw [advance, ends]
        exact if_neg isLast
  | more isNext _ ih =>
      refine Enumerates.more ?_ ih
      rw [advance, isNext]

/-- From zeros on all indices are enumerated in row-major order. -/
theorem enumerates_indices {extents : List Nat} (nonzero : 0 ∉ extents) :
    Enumerates (advance extents) (zeros extents) (indices extents) := by
  induction extents with
  | nil => exact Enumerates.last rfl
  | cons extent extents ih =>
      rcases not_or.mp (mt List.mem_cons.mpr nonzero) with ⟨isNonzero, others⟩
      have starting : forall left coordinate, coordinate + left + 1 = extent ->
          Enumerates (advance (extent :: extents)) (coordinate :: zeros extents)
            ((List.range' coordinate (left + 1)).flatMap fun coordinate =>
              (indices extents).map (coordinate :: ·)) := by
        intro left
        induction left with
        | zero =>
            intro coordinate isLast
            refine enumerates_block (ih others) ?_
            rw [if_neg (by omega)]
            rfl
        | succ left rest =>
            intro coordinate isBefore
            refine enumerates_block (ih others) ?_
            rw [if_pos (by omega)]
            exact rest (coordinate + 1) (by omega)
      have all := starting (extent - 1) 0 (by omega)
      rw [Nat.sub_add_cancel (Nat.pos_of_ne_zero (Ne.symm isNonzero)), ← List.range_eq_range'] at all
      exact all

/-- A carry into the last coordinate. -/
theorem advance_append {init extents : List Nat} (same : init.length = extents.length)
    (extent coordinate : Nat) :
    advance (extents ++ [extent]) (init ++ [coordinate]) =
      if coordinate + 1 < extent then some (init ++ [coordinate + 1])
      else (advance extents init).map (· ++ [0]) := by
  induction init generalizing extents with
  | nil =>
      cases List.length_eq_zero_iff.mp same.symm
      rfl
  | cons first init ih =>
      cases extents with
      | nil => cases same
      | cons other extents =>
          have rest := ih (Nat.succ_inj.mp same)
          rw [List.cons_append, List.cons_append, advance, rest, advance]
          by_cases below : coordinate + 1 < extent
          · rw [if_pos below, if_pos below]
            rfl
          · rw [if_neg below, if_neg below]
            cases advance extents init with
            | some next => rfl
            | none =>
                by_cases carries : first + 1 < other
                · simp [carries, zeros]
                · simp [carries]

/-! ## Rows with padding -/

theorem rowMajor_separates (extents : List Nat) : Separates (rowMajor extents) extents := by
  intro first second inFirst inSecond same
  have nodup : ((indices extents).map (offset · (rowMajor extents))).Nodup := by
    rw [indices_offset]
    exact List.nodup_range
  exact List.inj_on_of_nodup_map nodup (mem_indices.mpr inFirst) (mem_indices.mpr inSecond) same

theorem exists_offset {extents : List Nat} {position : Nat} (below : position < extents.prod) :
    Exists fun index => InBounds index extents ∧ offset index (rowMajor extents) = position := by
  rw [← List.mem_range, ← indices_offset] at below
  rcases List.mem_map.mp below with ⟨index, member, isOffset⟩
  exact ⟨index, mem_indices.mp member, isOffset⟩

theorem place_eq {base first second low high : Nat} (isLow : low < base) (isHigh : high < base)
    (same : first * base + low = second * base + high) : first = second ∧ low = high := by
  have isFirst := Raster.place_inj isLow isHigh same
  subst isFirst
  exact ⟨rfl, Nat.add_left_cancel same⟩

section Padding

variable {extents values : List Nat}

theorem offset_block (sameRank : extents.length = values.length) {index : List Nat}
    (inBounds : InBounds index extents) (size coordinate : Nat) :
    offset (index ++ [coordinate]) (values.map (· * size) ++ [1]) =
      offset index values * size + coordinate := by
  rw [offset_append ((inBounds.length_eq.trans sameRank).trans (List.length_map _).symm),
    offset_scale, Nat.mul_one]

/-- Elements of more than one item are as separate as their first items. -/
theorem separates_block (sameRank : extents.length = values.length) {size : Nat}
    (positive : 0 < size) :
    Separates (values.map (· * size) ++ [1]) (extents ++ [size]) <-> Separates values extents := by
  constructor
  · intro separates first second inFirst inSecond same
    refine List.append_inj_left' (separates (first ++ [0]) (second ++ [0])
      (inBounds_append inFirst positive) (inBounds_append inSecond positive) ?_) rfl
    rw [offset_block sameRank inFirst, offset_block sameRank inSecond, same]
  · intro separates first second inFirst inSecond same
    rcases inFirst.append_exists with ⟨firstRow, low, rfl, isFirst, isLow⟩
    rcases inSecond.append_exists with ⟨secondRow, high, rfl, isSecond, isHigh⟩
    rw [offset_block sameRank isFirst, offset_block sameRank isSecond] at same
    rcases place_eq isLow isHigh same with ⟨sameOffset, rfl⟩
    rw [separates firstRow secondRow isFirst isSecond sameOffset]

/-- Rows with a stride are separate exactly if it is no smaller than the width or
there is one row. -/
theorem separates_rows {stride width : Nat} (positive : 0 < stride) (nonzero : 0 ∉ extents) :
    Separates ((rowMajor extents).map (· * stride) ++ [1]) (extents ++ [width]) <->
      width <= stride ∨ extents.prod = 1 := by
  have sameRank := (rowMajor_length extents).symm
  constructor
  · intro separates
    by_contra narrow
    rcases not_or.mp narrow with ⟨wide, several⟩
    have isProduct := prod_pos nonzero
    rcases exists_offset (show 0 < extents.prod by omega) with ⟨first, inFirst, isFirst⟩
    rcases exists_offset (show 1 < extents.prod by omega) with ⟨second, inSecond, isSecond⟩
    have same := separates (first ++ [stride]) (second ++ [0])
      (inBounds_append inFirst (by omega)) (inBounds_append inSecond (by omega)) (by
        rw [offset_block sameRank inFirst, offset_block sameRank inSecond, isFirst, isSecond]
        omega)
    have isZero : [stride] = [0] := List.append_inj_right' same rfl
    cases isZero
    exact absurd positive (Nat.lt_irrefl 0)
  · intro wide first second inFirst inSecond same
    rcases inFirst.append_exists with ⟨firstRow, low, rfl, isFirst, isLow⟩
    rcases inSecond.append_exists with ⟨secondRow, high, rfl, isSecond, isHigh⟩
    rw [offset_block sameRank isFirst, offset_block sameRank isSecond] at same
    have split : offset firstRow (rowMajor extents) = offset secondRow (rowMajor extents) ∧
        low = high := by
      rcases wide with wide | single
      · exact place_eq (by omega) (by omega) same
      · have firstZero := offset_rowMajor_lt isFirst
        have secondZero := offset_rowMajor_lt isSecond
        rw [single, Nat.lt_one_iff] at firstZero secondZero
        rw [firstZero, secondZero] at same ⊢
        exact ⟨rfl, Nat.add_left_cancel same⟩
    rcases split with ⟨sameRow, rfl⟩
    rw [rowMajor_separates extents firstRow secondRow isFirst isSecond sameRow]

end Padding

end Odometer
end DyunGu
