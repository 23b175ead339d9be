import DyunGu.Elements.TensorValues
import DyunGu.Lib.Flood
import Mathlib.Order.Bounds.Basic

namespace DyunGu
namespace Elements

open Core Outcome Raster Flood Relation

/-!
# Regions of text

A map has the probability of text for each pixel.  The pixels at or above a
threshold form regions, each of which is filled from its first pixel and reported
with its bounding box.
-/

def maxOcrPixels : Nat := 10000000

def maxOcrRegions : Nat := 10000

def maxOcrRegionPixels : Nat := 1000000

/-- Floating-point operations with their comparisons, of which the two that are
used for one another agree on numbers. -/
structure RegionArith (F : Type) extends SampleArith F where
  one : F
  lt : F -> F -> Bool
  le : F -> F -> Bool
  ge : F -> F -> Bool
  sum : List F -> F
  /-- Whether there is memory for the points of the region that starts at a cell. -/
  pointsRoom : Nat -> Bool
  ge_eq_not_lt : forall first second, isFinite first = true -> isFinite second = true ->
    ge first second = !lt first second

structure BBox (F : Type) where
  x : F
  y : F
  w : F
  h : F
deriving DecidableEq, Repr

structure OcrText (F : Type) where
  text : String
  score : F
  bbox : Option (BBox F)
deriving DecidableEq, Repr

variable {F : Type}

/-- The digits of a whole number are always read as a number. -/
def usizeF32 (arith : FloatArith F) (value : Nat) : F := arith.ofNat value

def ocrDims (desc : TensorDesc) : Option (Nat × Nat) :=
  match desc.shape.dims with
  | [1, 1, height, width] => some (height, width)
  | [1, height, width] => some (height, width)
  | _ => none

/-- A map that has passed the checks of `detect_text_regions`. -/
structure OcrMap (arith : RegionArith F) where
  height : Nat
  width : Nat
  values : List F
  threshold : F
  sized : values.length = height * width
  small : height * width <= maxOcrPixels
  finite : forall value, value ∈ values -> arith.isFinite value = true
  bounded : arith.isFinite threshold = true

/-- Values that are read are numbers. -/
theorem f32Values_finite {arith : SampleArith F} {tensor : BackedTensor} {values : List F}
    (read : f32Values arith tensor = .ok values) :
    forall value, value ∈ values -> arith.isFinite value = true := by
  rcases bind_ok read with ⟨_, _, read⟩
  rcases bind_ok read with ⟨bytes, _, read⟩
  split at read
  · cases read
  · split at read
    · cases read
    · dsimp only at read
      split at read
      · cases read
      · rename_i finite
        cases read
        exact List.all_eq_true.mp (Bool.eq_true_of_not_eq_false finite)

/-- `detect_text_regions` up to its loop. -/
def ocrMap (arith : RegionArith F) (tensor : BackedTensor) (threshold : F) :
    Except AlgorithmError (OcrMap arith) :=
  match ocrDims tensor.desc with
  | none => .error (.graph (.config "ppocr det expects [1,1,H,W] or [1,H,W]"))
  | some (height, width) =>
      match read : f32Values arith.toSampleArith tensor with
      | .error error => .error error
      | .ok values =>
          if improper : arith.isFinite threshold = false ∨
              (arith.le arith.zero threshold && arith.le threshold arith.one) = false then
            .error (.graph (.config "ppocr det threshold must be a probability"))
          else
            match size : checkedMul height width with
            | none => .error (.graph (.runtime "ocr map dimensions overflow"))
            | some expected =>
                if large : expected > maxOcrPixels then
                  .error (.graph (.resourceLimit "ppocr_det input pixels" expected maxOcrPixels))
                else if mismatch : values.length ≠ expected then
                  .error (.graph (.runtime "ocr map size mismatch"))
                else if arith.room expected = false then
                  .error (.graph (.runtime ("ppocr_det visited allocation failed for " ++
                    toString expected ++ " pixels")))
                else if arith.room maxOcrRegions = false then
                  .error (.graph (.runtime "ppocr_det output allocation failed"))
                else
                  have isSize : expected = height * width := (checkedMul_eq_some.mp size).1
                  .ok
                    { height := height
                      width := width
                      values := values
                      threshold := threshold
                      sized := (not_not.mp mismatch).trans isSize
                      small := isSize ▸ Nat.le_of_not_lt large
                      finite := f32Values_finite read
                      bounded := Bool.eq_true_of_not_eq_false (not_or.mp improper).1 }

namespace OcrMap

variable {arith : RegionArith F} (map : OcrMap arith)

/-- The column and the row of a cell; there are none without columns. -/
def position (width index : Nat) : Option (Nat × Nat) :=
  if width = 0 then none else some (index % width, index / width)

/-- `next_y * width + next_x`, where an overflow is a panic. -/
def cellIndex (width x y : Nat) : Option Nat := do
  let row <- checkedMul y width
  checkedAdd row x

/-- The cells around a cell, which is among them at the border. -/
def around (x y : Nat) : List (Nat × Nat) :=
  [(x - 1, y), (saturatingAdd x 1, y), (x, y - 1), (x, saturatingAdd y 1)]

/-- One cell that is looked at, with the visited cells and the queue. -/
def lookAt (state : List Bool × List Nat) (next : Nat × Nat) :
    Except (Fault AlgorithmError) (List Bool × List Nat) :=
  if next.1 >= map.width ∨ next.2 >= map.height then .ok state
  else do
    let index <- orPanic (cellIndex map.width next.1 next.2)
    let seen <- orPanic state.1[index]?
    if seen = true then .ok state
    else do
      let value <- orPanic map.values[index]?
      if arith.ge value map.threshold = true then
        .ok (state.1.set index true, state.2 ++ [index])
      else .ok state

def pointsError (requested : Nat) : AlgorithmError :=
  .graph (.resourceLimit "ppocr_det connected component pixels" requested maxOcrRegionPixels)

/-- The loop over the queue, which gives the visited cells and the points. -/
def flood (visited : List Bool) (queue points : List Nat) :
    Except (Fault AlgorithmError) (List Bool × List Nat) :=
  match queue with
  | [] => .ok (visited, points)
  | index :: queue =>
      if _large : (points ++ [index]).length > maxOcrRegionPixels then
        .error (.error (pointsError (points ++ [index]).length))
      else do
        let (x, y) <- orPanic (position map.width index)
        let (visited, queue) <- (around x y).foldlM map.lookAt (visited, queue)
        flood visited queue (points ++ [index])
termination_by maxOcrRegionPixels - points.length
decreasing_by
  rw [List.length_append, List.length_singleton] at *
  omega

/-- The least and the greatest column and row. -/
structure Extent where
  minX : Nat
  maxX : Nat
  minY : Nat
  maxY : Nat
deriving DecidableEq, Repr

def growExtent (width : Nat) (extent : Extent) (index : Nat) : Option Extent := do
  let (x, y) <- position width index
  some ⟨min extent.minX x, max extent.maxX x, min extent.minY y, max extent.maxY y⟩

def extentOf (width : Nat) (points : List Nat) : Option Extent :=
  match points with
  | [] => none
  | first :: others => do
      let (x, y) <- position width first
      others.foldlM (growExtent width) ⟨x, x, y, y⟩

/-- The box of an extent, relative to the size of the map. -/
def bboxOf (extent : Extent) : BBox F :=
  let widthF := usizeF32 arith.toFloatArith map.width
  let heightF := usizeF32 arith.toFloatArith map.height
  let relative := fun value size => arith.div (usizeF32 arith.toFloatArith value) size
  { x := relative extent.minX widthF
    y := relative extent.minY heightF
    w := relative (saturatingAdd (extent.maxX - extent.minX) 1) widthF
    h := relative (saturatingAdd (extent.maxY - extent.minY) 1) heightF }

def textRegion (points : List Nat) : Except (Fault AlgorithmError) (OcrText F) := do
  let extent <- orPanic (extentOf map.width points)
  let samples <- orPanic (points.mapM fun index => map.values[index]?)
  return {
    text := ""
    score := arith.div (arith.sum samples) (usizeF32 arith.toFloatArith points.length)
    bbox := some (map.bboxOf extent) }

/-- The loop over the cells that a region may start with. -/
def scan : List Nat -> List Bool -> List (OcrText F) ->
    Except (Fault AlgorithmError) (List (OcrText F))
  | [], _, output => .ok output
  | start :: starts, visited, output => do
      let seen <- orPanic visited[start]?
      if seen = true then scan starts visited output
      else do
        let value <- orPanic map.values[start]?
        if arith.lt value map.threshold = true then scan starts visited output
        else if arith.pointsRoom start = false then
          .error (.error (.graph (.runtime "ppocr_det points allocation failed")))
        else do
          let (visited, points) <- map.flood (visited.set start true) [start] []
          let region <- map.textRegion points
          if (output ++ [region]).length >= maxOcrRegions then .ok (output ++ [region])
          else scan starts visited (output ++ [region])

end OcrMap

def detectTextRegions (arith : RegionArith F) (tensor : BackedTensor) (threshold : F) :
    Except (Fault AlgorithmError) (List (OcrText F)) := do
  let map <- orFail (ocrMap arith tensor threshold)
  map.scan (List.range (map.height * map.width))
    (List.replicate (map.height * map.width) false) []

/-! ## The grid of cells -/

/-- Numbers one of which follows the other. -/
def OneApart (first second : Nat) : Prop := first + 1 = second ∨ second + 1 = first

/-- Cells next to each other in a row or in a column. -/
def Beside (width first second : Nat) : Prop :=
  (first / width = second / width ∧ OneApart (first % width) (second % width)) ∨
    (first % width = second % width ∧ OneApart (first / width) (second / width))

theorem Beside.symm {width first second : Nat} (beside : Beside width first second) :
    Beside width second first := by
  rcases beside with ⟨row, apart⟩ | ⟨column, apart⟩
  · exact Or.inl ⟨row.symm, Or.symm apart⟩
  · exact Or.inr ⟨column.symm, Or.symm apart⟩

namespace OcrMap

/-- The cell of a column and a row. -/
def cellAt (width : Nat) (next : Nat × Nat) : Nat := next.2 * width + next.1

variable {arith : RegionArith F} (map : OcrMap arith)

/-- A column and a row of the map. -/
def InMap (next : Nat × Nat) : Prop := next.1 < map.width ∧ next.2 < map.height

variable {map}

theorem InMap.lt {next : Nat × Nat} (inMap : map.InMap next) :
    cellAt map.width next < map.height * map.width := pixel_lt inMap.2 inMap.1

theorem InMap.column {next : Nat × Nat} (inMap : map.InMap next) :
    cellAt map.width next % map.width = next.1 := Nat.mul_add_mod_of_lt inMap.1

theorem InMap.row {next : Nat × Nat} (inMap : map.InMap next) :
    cellAt map.width next / map.width = next.2 := by
  rw [cellAt, Nat.mul_comm, Nat.mul_add_div (Nat.zero_lt_of_lt inMap.1),
    Nat.div_eq_of_lt inMap.1, Nat.add_zero]

theorem size_le (map : OcrMap arith) : map.height * map.width <= usizeMax :=
  map.small.trans (by decide)

/-- The column and the row of a cell have a successor each. -/
theorem saturatingAdd_one {cell part : Nat} (isCell : cell < map.height * map.width)
    (isPart : part <= cell) : saturatingAdd part 1 = part + 1 :=
  Nat.min_eq_left ((Nat.succ_le_of_lt (isPart.trans_lt isCell)).trans map.size_le)

theorem mem_around {cell : Nat} (isCell : cell < map.height * map.width) {next : Nat × Nat} :
    next ∈ around (cell % map.width) (cell / map.width) <->
      next = (cell % map.width - 1, cell / map.width) ∨
      next = (cell % map.width + 1, cell / map.width) ∨
      next = (cell % map.width, cell / map.width - 1) ∨
      next = (cell % map.width, cell / map.width + 1) := by
  rw [around, saturatingAdd_one isCell (Nat.mod_le cell map.width),
    saturatingAdd_one isCell (Nat.div_le_self cell map.width)]
  simp only [List.mem_cons, List.not_mem_nil, or_false]

/-- A cell that is looked at is the one in the middle or one beside it. -/
theorem beside_of_around {cell : Nat} (isCell : cell < map.height * map.width) {next : Nat × Nat}
    (member : next ∈ around (cell % map.width) (cell / map.width)) (inMap : map.InMap next) :
    cellAt map.width next = cell ∨ Beside map.width cell (cellAt map.width next) := by
  by_cases same : next = (cell % map.width, cell / map.width)
  · rw [same, cellAt, Nat.mul_comm]
    exact Or.inl (Nat.div_add_mod cell map.width)
  · refine Or.inr ?_
    rw [Beside, inMap.column, inMap.row]
    rcases (mem_around isCell).mp member with rfl | rfl | rfl | rfl
    · have positive : 0 < cell % map.width := by
        refine Nat.pos_of_ne_zero fun border => same ?_
        rw [border]
      exact Or.inl ⟨rfl, Or.inr (Nat.sub_add_cancel positive)⟩
    · exact Or.inl ⟨rfl, Or.inl rfl⟩
    · have positive : 0 < cell / map.width := by
        refine Nat.pos_of_ne_zero fun border => same ?_
        rw [border]
      exact Or.inr ⟨rfl, Or.inr (Nat.sub_add_cancel positive)⟩
    · exact Or.inr ⟨rfl, Or.inl rfl⟩

/-- A cell beside another one is looked at. -/
theorem around_of_beside {cell other : Nat} (isCell : cell < map.height * map.width)
    (isOther : other < map.height * map.width) (beside : Beside map.width cell other) :
    Exists fun next => next ∈ around (cell % map.width) (cell / map.width) ∧ map.InMap next ∧
      cellAt map.width next = other := by
  have wide : 0 < map.width := Nat.pos_of_mul_pos_left (Nat.zero_lt_of_lt isCell)
  refine ⟨(other % map.width, other / map.width), (mem_around isCell).mpr ?_,
    ⟨Nat.mod_lt other wide, Nat.div_lt_of_lt_mul ?_⟩, ?_⟩
  · rcases beside with ⟨row, right | left⟩ | ⟨column, below | above⟩
    · rw [← row, ← right]
      exact Or.inr (Or.inl rfl)
    · rw [← row, ← left, Nat.add_sub_cancel]
      exact Or.inl rfl
    · rw [← column, ← below]
      exact Or.inr (Or.inr (Or.inr rfl))
    · rw [← column, ← above, Nat.add_sub_cancel]
      exact Or.inr (Or.inr (Or.inl rfl))
  · rw [Nat.mul_comm]
    exact isOther
  · rw [cellAt, Nat.mul_comm]
    exact Nat.div_add_mod other map.width

/-! ## The components -/

/-- A cell at or above the threshold. -/
def Inside (map : OcrMap arith) (cell : Nat) : Prop :=
  Exists fun value => map.values[cell]? = some value ∧ arith.ge value map.threshold = true

/-- Cells at or above the threshold that are next to each other. -/
def Adj (map : OcrMap arith) (first second : Nat) : Prop :=
  map.Inside first ∧ map.Inside second ∧ Beside map.width first second

/-- The smallest cells of the components, in order. -/
noncomputable def leaders (map : OcrMap arith) : List Nat :=
  Flood.leaders map.Inside map.Adj (map.height * map.width)

noncomputable def component (map : OcrMap arith) (leader : Nat) : List Nat :=
  Flood.component map.Adj (map.height * map.width) leader

theorem Inside.lt {cell : Nat} (inside : map.Inside cell) : cell < map.height * map.width := by
  rcases inside with ⟨value, isValue, _⟩
  rw [← map.sized]
  exact (List.getElem?_eq_some_iff.mp isValue).1

theorem adj_symm (first second : Nat) (adjacent : map.Adj first second) : map.Adj second first :=
  ⟨adjacent.2.1, adjacent.1, adjacent.2.2.symm⟩

theorem adj_inside (first second : Nat) (adjacent : map.Adj first second) (_ : map.Inside first) :
    map.Inside second := adjacent.2.1

/-- The comparison of the outer loop is the one of the flood. -/
theorem inside_iff {cell : Nat} {value : F} (isValue : map.values[cell]? = some value) :
    map.Inside cell <-> arith.lt value map.threshold = false := by
  have agree := arith.ge_eq_not_lt value map.threshold
    (map.finite value (List.mem_of_getElem? isValue)) map.bounded
  constructor
  · rintro ⟨other, isOther, isGe⟩
    rw [isValue] at isOther
    cases isOther
    rw [agree] at isGe
    exact Bool.not_eq_true' _ ▸ isGe
  · intro notLt
    refine ⟨value, isValue, ?_⟩
    rw [agree, notLt]
    rfl

theorem value_of_lt {cell : Nat} (isCell : cell < map.height * map.width) :
    Exists fun value => map.values[cell]? = some value := by
  rw [← map.sized] at isCell
  exact ⟨map.values[cell], List.getElem?_eq_getElem isCell⟩

theorem mark_of_lt {visited : List Bool} (sized : visited.length = map.height * map.width)
    {cell : Nat} (isCell : cell < map.height * map.width) :
    Exists fun seen => visited[cell]? = some seen := by
  rw [← sized] at isCell
  exact ⟨visited[cell], List.getElem?_eq_getElem isCell⟩

/-! ## The flood -/

/-- The state of the flood from a leader: the visited cells are those of earlier
components and those that it has found. -/
structure Filling (map : OcrMap arith) (start : Nat) (visited : List Bool)
    (queue points : List Nat) (owed : Nat -> Prop) : Prop where
  sized : visited.length = map.height * map.width
  marked : forall cell, visited[cell]? = some true <->
    Earlier map.Inside map.Adj start cell ∨ cell ∈ points ++ queue
  frontier : Frontier map.Adj start queue points owed

/-- What is at or above the threshold among cells that are to be looked at. -/
def Owed (map : OcrMap arith) (targets : List (Nat × Nat)) (cell : Nat) : Prop :=
  map.Inside cell ∧
    Exists fun next => next ∈ targets ∧ map.InMap next ∧ cellAt map.width next = cell

theorem cellIndex_eq {next : Nat × Nat} (inMap : map.InMap next) :
    cellIndex map.width next.1 next.2 = some (cellAt map.width next) := by
  have small : cellAt map.width next <= usizeMax := inMap.lt.le.trans map.size_le
  rw [cellIndex, checkedMul_eq_some.mpr ⟨rfl, (Nat.le_add_right _ next.1).trans small⟩]
  exact checkedAdd_eq_some.mpr ⟨rfl, small⟩

section Flooding

variable {start : Nat} {visited : List Bool} {queue points : List Nat} {owed : Nat -> Prop}

/-- Once a cell is known to be found or below the threshold it is not owed. -/
theorem Filling.settle {next : Nat × Nat} {others : List (Nat × Nat)}
    (filling : Filling map start visited queue points (map.Owed (next :: others)))
    (settled : map.InMap next -> ReflTransGen map.Adj start (cellAt map.width next) ->
      map.Inside (cellAt map.width next) -> cellAt map.width next ∈ points ++ queue) :
    Filling map start visited queue points (map.Owed others) := by
  refine ⟨filling.sized, filling.marked, filling.frontier.look ?_⟩
  rintro cell joined ⟨inside, target, member, inMap, rfl⟩
  rcases List.mem_cons.mp member with rfl | later
  · exact Or.inl (settled inMap joined inside)
  · exact Or.inr ⟨inside, target, later, inMap, rfl⟩

/-- A new cell of the component is marked and put into the queue. -/
theorem Filling.enqueue {cell : Nat} (filling : Filling map start visited queue points owed)
    (isUnmarked : visited[cell]? = some false) (joined : ReflTransGen map.Adj start cell) :
    Filling map start (visited.set cell true) (queue ++ [cell]) points owed := by
  have fresh : cell ∉ points ++ queue := by
    intro found
    have marked := (filling.marked cell).mpr (Or.inr found)
    rw [isUnmarked] at marked
    cases marked
  refine ⟨?_, ?_, filling.frontier.push fresh joined⟩
  · rw [List.length_set, filling.sized]
  · intro other
    rw [← List.append_assoc, List.mem_append, List.mem_singleton, ← or_assoc,
      ← filling.marked other]
    by_cases same : cell = other
    · subst same
      rw [List.getElem?_set_self (List.getElem?_eq_some_iff.mp isUnmarked).1]
      exact ⟨fun _ => Or.inr rfl, fun _ => rfl⟩
    · rw [List.getElem?_set_ne same]
      exact ⟨Or.inl, fun found => found.resolve_right (Ne.symm same)⟩

/-- A cell beside a point is put into the queue, unless it has been visited or is
below the threshold. -/
theorem lookAt_filling (isLeader : IsLeader map.Inside map.Adj start) {cell : Nat}
    (isPoint : cell ∈ points) {next : Nat × Nat} {others : List (Nat × Nat)}
    (near : map.InMap next ->
      cellAt map.width next = cell ∨ Beside map.width cell (cellAt map.width next))
    (filling : Filling map start visited queue points (map.Owed (next :: others))) :
    Exists fun after => map.lookAt (visited, queue) next = .ok after ∧
      Filling map start after.1 after.2 points (map.Owed others) := by
  by_cases inMap : map.InMap next
  · have inside : ¬(next.1 >= map.width ∨ next.2 >= map.height) :=
      not_or.mpr ⟨Nat.not_le.mpr inMap.1, Nat.not_le.mpr inMap.2⟩
    rcases mark_of_lt filling.sized inMap.lt with ⟨seen, isMark⟩
    rw [lookAt, if_neg inside, cellIndex_eq inMap]
    show Exists fun after => (orPanic visited[cellAt map.width next]? >>= _) = _ ∧ _
    cases seen with
    | true =>
        rw [isMark]
        refine ⟨(visited, queue), rfl, filling.settle fun _ joined _ => ?_⟩
        exact ((filling.marked _).mp isMark).resolve_left (isLeader.apart adj_symm joined)
    | false =>
        rcases value_of_lt inMap.lt with ⟨value, isValue⟩
        rw [isMark]
        show Exists fun after => (orPanic map.values[cellAt map.width next]? >>= _) = _ ∧ _
        rw [isValue]
        by_cases isGe : arith.ge value map.threshold = true
        · refine ⟨(visited.set (cellAt map.width next) true, queue ++ [cellAt map.width next]),
            if_pos isGe, ?_⟩
          have isIn : map.Inside (cellAt map.width next) := ⟨value, isValue, isGe⟩
          have other : cellAt map.width next ≠ cell := by
            intro same
            have marked := (filling.marked cell).mpr (Or.inr (List.mem_append_left queue isPoint))
            rw [← same, isMark] at marked
            cases marked
          have joined := filling.frontier.reached cell (List.mem_append_left queue isPoint)
          have adjacent : map.Adj cell (cellAt map.width next) :=
            ⟨Joined.keep adj_inside joined isLeader.1, isIn, (near inMap).resolve_left other⟩
          refine (filling.enqueue isMark (joined.tail adjacent)).settle fun _ _ _ => ?_
          exact List.mem_append_right points
            (List.mem_append_right queue (List.mem_singleton_self _))
        · refine ⟨(visited, queue), if_neg isGe, filling.settle fun _ _ isIn => ?_⟩
          rcases isIn with ⟨other, isOther, isAbove⟩
          rw [isValue] at isOther
          cases isOther
          exact absurd isAbove isGe
  · refine ⟨(visited, queue), if_pos ?_, filling.settle fun isIn => absurd isIn inMap⟩
    by_contra neither
    rcases not_or.mp neither with ⟨column, row⟩
    exact inMap ⟨Nat.lt_of_not_le column, Nat.lt_of_not_le row⟩

theorem lookAround_filling (isLeader : IsLeader map.Inside map.Adj start) {cell : Nat}
    (isPoint : cell ∈ points) {targets : List (Nat × Nat)}
    (near : forall next, next ∈ targets -> map.InMap next ->
      cellAt map.width next = cell ∨ Beside map.width cell (cellAt map.width next))
    (filling : Filling map start visited queue points (map.Owed targets)) :
    Exists fun after => targets.foldlM map.lookAt (visited, queue) = .ok after ∧
      Filling map start after.1 after.2 points fun _ => False := by
  induction targets generalizing visited queue with
  | nil =>
      refine ⟨(visited, queue), rfl, filling.sized, filling.marked, filling.frontier.look ?_⟩
      rintro next _ ⟨_, target, member, _⟩
      cases member
  | cons next others ih =>
      rcases List.forall_mem_cons.mp near with ⟨isNear, othersNear⟩
      rcases lookAt_filling isLeader isPoint isNear filling with ⟨after, looked, filled⟩
      rcases ih othersNear filled with ⟨last, run, settled⟩
      refine ⟨last, ?_, settled⟩
      rw [List.foldlM_cons, looked]
      exact run

/-- What is beside a cell that is taken up is looked at. -/
theorem Filling.take {cell : Nat}
    (filling : Filling map start visited (cell :: queue) points fun _ => False) :
    Filling map start visited queue (points ++ [cell])
      (map.Owed (around (cell % map.width) (cell / map.width))) := by
  refine ⟨filling.sized, ?_, ?_⟩
  · rw [List.append_assoc]
    exact filling.marked
  · refine (filling.frontier.pop fun _ => id).look ?_
    rintro next _ ⟨isCell, isNext, beside⟩
    exact Or.inr ⟨isNext, around_of_beside isCell.lt isNext.lt beside⟩

/-- How the flood from a leader ends. -/
inductive Flooded (map : OcrMap arith) (start : Nat) :
    Except (Fault AlgorithmError) (List Bool × List Nat) -> Prop where
  | filled (visited : List Bool) (points : List Nat)
      (filling : Filling map start visited [] points fun _ => False)
      (fits : points.length <= maxOcrRegionPixels) : Flooded map start (.ok (visited, points))
  | tooLarge (large : maxOcrRegionPixels < (map.component start).length) :
      Flooded map start (.error (.error (pointsError (maxOcrRegionPixels + 1))))

theorem joined_lt (isLeader : IsLeader map.Inside map.Adj start) (cell : Nat)
    (joined : Joined map.Adj start cell) : cell < map.height * map.width :=
  (joined.keep adj_inside isLeader.1).lt

theorem flood_nil (map : OcrMap arith) (visited : List Bool) (points : List Nat) :
    map.flood visited [] points = .ok (visited, points) := by
  rw [flood]

/-- One round of the flood, as long as there is room for its point. -/
theorem flood_round (isLeader : IsLeader map.Inside map.Adj start) {cell : Nat}
    (room : points.length < maxOcrRegionPixels)
    (filling : Filling map start visited (cell :: queue) points fun _ => False) :
    Exists fun after : List Bool × List Nat => map.flood visited (cell :: queue) points =
        map.flood after.1 after.2 (points ++ [cell]) ∧
      Filling map start after.1 after.2 (points ++ [cell]) fun _ => False := by
  have isCell : cell < map.height * map.width :=
    joined_lt isLeader cell (filling.frontier.reached cell
      (List.mem_append_right points (List.mem_cons_self ..)))
  have wide : map.width ≠ 0 :=
    Nat.ne_of_gt (Nat.pos_of_mul_pos_left (Nat.zero_lt_of_lt isCell))
  have small : ¬(points ++ [cell]).length > maxOcrRegionPixels := by
    rw [List.length_append, List.length_singleton]
    exact Nat.not_lt.mpr room
  rcases lookAround_filling isLeader (List.mem_append_right points (List.mem_singleton_self cell))
    (fun next member inMap => beside_of_around isCell member inMap) filling.take
    with ⟨after, looked, filled⟩
  refine ⟨after, ?_, filled⟩
  rw [flood, dif_neg small, position, if_neg wide]
  show ((around (cell % map.width) (cell / map.width)).foldlM map.lookAt (visited, queue) >>= _) = _
  rw [looked]
  rfl

/-- The flood ends after at most as many rounds as a region may have points. -/
theorem flood_flooded (isLeader : IsLeader map.Inside map.Adj start) {left : Nat}
    (room : points.length + left = maxOcrRegionPixels)
    (filling : Filling map start visited queue points fun _ => False) :
    Flooded map start (map.flood visited queue points) := by
  induction left generalizing visited queue points with
  | zero =>
      cases queue with
      | nil =>
          rw [flood_nil]
          exact .filled visited points filling (Nat.le_of_eq room)
      | cons cell queue =>
          have length : (points ++ [cell]).length = maxOcrRegionPixels + 1 := by
            rw [List.length_append, List.length_singleton, ← room]
          have large : (points ++ [cell]).length > maxOcrRegionPixels :=
            length ▸ Nat.lt_succ_self maxOcrRegionPixels
          rw [flood, dif_pos large, length]
          exact .tooLarge (large.trans_le (filling.take.frontier.length_le (joined_lt isLeader)))
  | succ left ih =>
      cases queue with
      | nil =>
          rw [flood_nil]
          exact .filled visited points filling (room ▸ Nat.le_add_right points.length (left + 1))
      | cons cell queue =>
          have less : points.length < maxOcrRegionPixels := by
            rw [← room]
            exact Nat.lt_add_of_pos_right (Nat.succ_pos left)
          rcases flood_round isLeader less filling with ⟨after, same, filled⟩
          rw [same]
          refine ih ?_ filled
          rw [List.length_append, List.length_singleton, ← room]
          omega

end Flooding

/-! ## The bounding box -/

/-- The columns and rows of some cells lie in the extent and reach its sides. -/
structure Tight (width : Nat) (cells : Set Nat) (extent : Extent) : Prop where
  minX : IsLeast (Set.image (· % width) cells) extent.minX
  maxX : IsGreatest (Set.image (· % width) cells) extent.maxX
  minY : IsLeast (Set.image (· / width) cells) extent.minY
  maxY : IsGreatest (Set.image (· / width) cells) extent.maxY

theorem growExtent_tight {width : Nat} (wide : width ≠ 0) {cells : Set Nat} {extent : Extent}
    (tight : Tight width cells extent) (index : Nat) : Exists fun grown =>
      growExtent width extent index = some grown ∧ Tight width (cells ∪ {index}) grown := by
  refine ⟨⟨min extent.minX (index % width), max extent.maxX (index % width),
    min extent.minY (index / width), max extent.maxY (index / width)⟩, ?_, ?_, ?_, ?_, ?_⟩
  · rw [growExtent, position, if_neg wide]
    rfl
  · rw [Set.image_union, Set.image_singleton]
    exact tight.minX.union isLeast_singleton
  · rw [Set.image_union, Set.image_singleton]
    exact tight.maxX.union isGreatest_singleton
  · rw [Set.image_union, Set.image_singleton]
    exact tight.minY.union isLeast_singleton
  · rw [Set.image_union, Set.image_singleton]
    exact tight.maxY.union isGreatest_singleton

theorem growAll_tight {width : Nat} (wide : width ≠ 0) {cells : Set Nat} {extent : Extent}
    (tight : Tight width cells extent) (indices : List Nat) : Exists fun grown =>
      indices.foldlM (growExtent width) extent = some grown ∧
        Tight width (cells ∪ {cell | cell ∈ indices}) grown := by
  induction indices generalizing cells extent with
  | nil =>
      refine ⟨extent, rfl, ?_⟩
      simpa only [List.not_mem_nil, Set.ofPred_false, Set.union_empty] using tight
  | cons index indices ih =>
      rcases growExtent_tight wide tight index with ⟨next, isNext, nextTight⟩
      rcases ih nextTight with ⟨grown, run, grownTight⟩
      refine ⟨grown, ?_, ?_⟩
      · rw [List.foldlM_cons, isNext]
        exact run
      · rw [Set.union_assoc] at grownTight
        simpa only [List.mem_cons, Set.ofPred_or, Set.ofPred_eq_eq_singleton] using grownTight

theorem extentOf_tight {width : Nat} (wide : width ≠ 0) {points : List Nat}
    (nonempty : points ≠ []) : Exists fun extent => extentOf width points = some extent ∧
      Tight width {cell | cell ∈ points} extent := by
  cases points with
  | nil => exact absurd rfl nonempty
  | cons first others =>
      have single : Tight width {first}
          ⟨first % width, first % width, first / width, first / width⟩ := by
        refine ⟨?_, ?_, ?_, ?_⟩
        · rw [Set.image_singleton]
          exact isLeast_singleton
        · rw [Set.image_singleton]
          exact isGreatest_singleton
        · rw [Set.image_singleton]
          exact isLeast_singleton
        · rw [Set.image_singleton]
          exact isGreatest_singleton
      rcases growAll_tight wide single others with ⟨extent, run, tight⟩
      refine ⟨extent, ?_, ?_⟩
      · rw [extentOf, position, if_neg wide]
        exact run
      · simpa only [List.mem_cons, Set.ofPred_or, Set.ofPred_eq_eq_singleton] using tight

example : extentOf 3 [4, 1, 5] = some ⟨1, 2, 0, 1⟩ := by decide

/-- A region has the tight bounding box of the component of its leader, and the
mean of the values there as its score. -/
def Describes (map : OcrMap arith) (leader : Nat) (region : OcrText F) : Prop :=
  Exists fun points => Exists fun samples => Exists fun extent : Extent =>
    points.Perm (map.component leader) ∧
    List.Forall₂ (fun cell sample => map.values[cell]? = some sample) points samples ∧
    Tight map.width {cell | cell ∈ map.component leader} extent ∧
    region =
      { text := ""
        score := arith.div (arith.sum samples) (arith.ofNat points.length)
        bbox := some
          { x := arith.div (arith.ofNat extent.minX) (arith.ofNat map.width)
            y := arith.div (arith.ofNat extent.minY) (arith.ofNat map.height)
            w := arith.div (arith.ofNat (extent.maxX - extent.minX + 1)) (arith.ofNat map.width)
            h := arith.div (arith.ofNat (extent.maxY - extent.minY + 1))
              (arith.ofNat map.height) } }

theorem samples_some {points : List Nat}
    (bounded : forall cell, cell ∈ points -> cell < map.height * map.width) :
    Exists fun samples => points.mapM (fun cell => map.values[cell]?) = some samples ∧
      List.Forall₂ (fun cell sample => map.values[cell]? = some sample) points samples := by
  induction points with
  | nil => exact ⟨[], rfl, List.Forall₂.nil⟩
  | cons cell points ih =>
      rcases List.forall_mem_cons.mp bounded with ⟨isCell, others⟩
      rcases value_of_lt isCell with ⟨value, isValue⟩
      rcases ih others with ⟨samples, run, found⟩
      refine ⟨value :: samples, ?_, List.Forall₂.cons isValue found⟩
      rw [List.mapM_cons, isValue, run]
      rfl

theorem textRegion_describes {leader : Nat} (isLeader : IsLeader map.Inside map.Adj leader)
    {points : List Nat} (perm : points.Perm (map.component leader)) :
    Exists fun region => map.textRegion points = .ok region ∧ map.Describes leader region := by
  have isPoint : leader ∈ points :=
    perm.mem_iff.mpr (mem_component.mpr ⟨isLeader.1.lt, ReflTransGen.refl⟩)
  have bounded : forall cell, cell ∈ points -> cell < map.height * map.width :=
    fun cell member => (mem_component.mp (perm.mem_iff.mp member)).1
  have wide : map.width ≠ 0 :=
    Nat.ne_of_gt (Nat.pos_of_mul_pos_left (Nat.zero_lt_of_lt isLeader.1.lt))
  rcases extentOf_tight wide (List.ne_nil_of_mem isPoint) with ⟨extent, isExtent, tight⟩
  rcases samples_some bounded with ⟨samples, isSamples, found⟩
  rcases tight.maxX.1 with ⟨right, isRight, isMaxX⟩
  rcases tight.maxY.1 with ⟨bottom, isBottom, isMaxY⟩
  have columns : saturatingAdd (extent.maxX - extent.minX) 1 = extent.maxX - extent.minX + 1 :=
    saturatingAdd_one (bounded right isRight)
      ((Nat.sub_le _ _).trans (isMaxX ▸ Nat.mod_le right map.width))
  have rows : saturatingAdd (extent.maxY - extent.minY) 1 = extent.maxY - extent.minY + 1 :=
    saturatingAdd_one (bounded bottom isBottom)
      ((Nat.sub_le _ _).trans (isMaxY ▸ Nat.div_le_self bottom map.width))
  have same : {cell | cell ∈ points} = {cell | cell ∈ map.component leader} :=
    Set.ext fun cell => perm.mem_iff
  refine ⟨_, ?_, points, samples, extent, perm, found, same ▸ tight, rfl⟩
  rw [textRegion, isExtent, isSamples, ← columns, ← rows]
  rfl

/-! ## The outer loop -/

/-- The leaders whose regions are reported. -/
noncomputable def found (map : OcrMap arith) : List Nat := map.leaders.take maxOcrRegions

/-- A component that has as many points as a region may have. -/
def Fits (map : OcrMap arith) (leader : Nat) : Prop :=
  arith.pointsRoom leader = true ∧ (map.component leader).length <= maxOcrRegionPixels

/-- The regions of the components in order, or the failure of the first one that
does not fit. -/
inductive Finds (map : OcrMap arith) :
    Except (Fault AlgorithmError) (List (OcrText F)) -> Prop where
  | regions (regions : List (OcrText F))
      (fits : forall leader, leader ∈ map.found -> map.Fits leader)
      (described : List.Forall₂ map.Describes map.found regions) : Finds map (.ok regions)
  | noRoom (leader : Nat) (isFound : leader ∈ map.found)
      (first : forall other, other ∈ map.found -> other < leader -> map.Fits other)
      (full : arith.pointsRoom leader = false) :
      Finds map (.error (.error (.graph (.runtime "ppocr_det points allocation failed"))))
  | tooLarge (leader : Nat) (isFound : leader ∈ map.found)
      (first : forall other, other ∈ map.found -> other < leader -> map.Fits other)
      (room : arith.pointsRoom leader = true)
      (large : maxOcrRegionPixels < (map.component leader).length) :
      Finds map (.error (.error (pointsError (maxOcrRegionPixels + 1))))

/-- The state of the outer loop when the cells below a bound have been gone through. -/
structure Scanned (map : OcrMap arith) (bound : Nat) (visited : List Bool)
    (output : List (OcrText F)) : Prop where
  sized : visited.length = map.height * map.width
  marked : forall cell, visited[cell]? = some true <-> Earlier map.Inside map.Adj bound cell
  fits : forall leader, leader ∈ Flood.leaders map.Inside map.Adj bound -> map.Fits leader
  described : List.Forall₂ map.Describes (Flood.leaders map.Inside map.Adj bound) output

section Scanning

variable {bound : Nat} {visited : List Bool} {output : List (OcrText F)}

theorem scanned_nil (map : OcrMap arith) :
    Scanned map 0 (List.replicate (map.height * map.width) false) [] := by
  refine ⟨List.length_replicate, ?_, ?_, List.Forall₂.nil⟩
  · intro cell
    constructor
    · intro marked
      exact nomatch (List.mem_replicate.mp (List.mem_of_getElem? marked)).2
    · rintro ⟨leader, below, _⟩
      exact absurd below (Nat.not_lt_zero leader)
  · intro leader member
    cases member

/-- A cell that starts no region is passed over. -/
theorem Scanned.pass (scanned : Scanned map bound visited output)
    (other : ¬IsLeader map.Inside map.Adj bound) : Scanned map (bound + 1) visited output := by
  refine ⟨scanned.sized, fun cell => ?_, ?_, ?_⟩
  · rw [earlier_succ_of_not other]
    exact scanned.marked cell
  · rw [leaders_succ_of_not other]
    exact scanned.fits
  · rw [leaders_succ_of_not other]
    exact scanned.described

/-- The leaders gone through are among those that are reported, as long as these
are not all. -/
theorem mem_found {leader : Nat} (below : bound <= map.height * map.width)
    (few : (Flood.leaders map.Inside map.Adj bound).length <= maxOcrRegions)
    (member : leader ∈ Flood.leaders map.Inside map.Adj bound) : leader ∈ map.found := by
  have early : Flood.leaders map.Inside map.Adj bound <+: map.leaders := leaders_prefix below
  rcases early with ⟨later, split⟩
  rw [found, ← split, List.take_append, List.take_of_length_le few]
  exact List.mem_append_left _ member

theorem found_eq (below : bound <= map.height * map.width)
    (all : (Flood.leaders map.Inside map.Adj bound).length = maxOcrRegions) :
    map.found = Flood.leaders map.Inside map.Adj bound := by
  have early : Flood.leaders map.Inside map.Adj bound <+: map.leaders := leaders_prefix below
  rcases early with ⟨later, split⟩
  rw [found, ← split]
  exact List.take_left' all

theorem Scanned.first (scanned : Scanned map bound visited output) (other : Nat)
    (member : other ∈ map.found) (below : other < bound) : map.Fits other :=
  scanned.fits other (mem_leaders.mpr ⟨below, (mem_leaders.mp (List.mem_of_mem_take member)).2⟩)

/-- A leader is marked and its flood begins. -/
theorem Scanned.begin (scanned : Scanned map bound visited output)
    (isLeader : IsLeader map.Inside map.Adj bound) :
    Filling map bound (visited.set bound true) [bound] [] fun _ => False := by
  refine ⟨?_, ?_, Frontier.begin map.Adj bound⟩
  · rw [List.length_set, scanned.sized]
  · intro cell
    rw [List.nil_append, List.mem_singleton, ← scanned.marked cell]
    by_cases same : bound = cell
    · subst same
      rw [List.getElem?_set_self (scanned.sized.symm ▸ isLeader.1.lt)]
      exact ⟨fun _ => Or.inr rfl, fun _ => rfl⟩
    · rw [List.getElem?_set_ne same]
      exact ⟨Or.inl, fun found => found.resolve_right (Ne.symm same)⟩

/-- A component that has been filled adds its region. -/
theorem Scanned.add (scanned : Scanned map bound visited output)
    (isLeader : IsLeader map.Inside map.Adj bound) (room : arith.pointsRoom bound = true)
    {marks : List Bool} {points : List Nat}
    (filling : Filling map bound marks [] points fun _ => False)
    (fits : points.length <= maxOcrRegionPixels) : Exists fun region =>
      map.textRegion points = .ok region ∧
        Scanned map (bound + 1) marks (output ++ [region]) := by
  have perm : points.Perm (map.component bound) :=
    filling.frontier.component (fun _ => id) (joined_lt isLeader)
  rcases textRegion_describes isLeader perm with ⟨region, isRegion, describes⟩
  refine ⟨region, isRegion, filling.sized, fun cell => ?_, ?_, ?_⟩
  · rw [filling.marked cell, earlier_succ_of_leader isLeader, List.append_nil,
      filling.frontier.done fun _ => id]
    rfl
  · rw [leaders_succ_of_leader isLeader]
    intro leader member
    rcases List.mem_append.mp member with old | new
    · exact scanned.fits leader old
    · rw [List.mem_singleton.mp new]
      exact ⟨room, perm.length_eq ▸ fits⟩
  · rw [leaders_succ_of_leader isLeader]
    exact List.rel_append scanned.described (List.Forall₂.cons describes List.Forall₂.nil)

theorem scan_pass (isCell : bound < map.height * map.width)
    (scanned : Scanned map bound visited output) (other : ¬IsLeader map.Inside map.Adj bound)
    (starts : List Nat) :
    map.scan (bound :: starts) visited output = map.scan starts visited output := by
  rcases mark_of_lt scanned.sized isCell with ⟨seen, isMark⟩
  rw [scan, isMark]
  cases seen with
  | true => rfl
  | false =>
      rcases value_of_lt isCell with ⟨value, isValue⟩
      have outside : ¬map.Inside bound := by
        intro inside
        refine other ((isLeader_iff adj_symm adj_inside).mpr ⟨inside, fun earlier => ?_⟩)
        have marked := (scanned.marked bound).mpr earlier
        rw [isMark] at marked
        cases marked
      rw [inside_iff isValue, Bool.not_eq_false] at outside
      rw [isValue]
      exact if_pos outside

/-- A leader is flooded and its region is described. -/
theorem scan_leader (scanned : Scanned map bound visited output)
    (isLeader : IsLeader map.Inside map.Adj bound) (starts : List Nat) :
    map.scan (bound :: starts) visited output =
      if arith.pointsRoom bound = false then
        .error (.error (.graph (.runtime "ppocr_det points allocation failed")))
      else
        map.flood (visited.set bound true) [bound] [] >>= fun filled =>
          map.textRegion filled.2 >>= fun region =>
            if (output ++ [region]).length >= maxOcrRegions then .ok (output ++ [region])
            else map.scan starts filled.1 (output ++ [region]) := by
  rcases mark_of_lt scanned.sized isLeader.1.lt with ⟨seen, isMark⟩
  rcases value_of_lt isLeader.1.lt with ⟨value, isValue⟩
  have above := (inside_iff isValue).mp isLeader.1
  rw [scan, isMark]
  cases seen with
  | true =>
      exact absurd ((scanned.marked bound).mp isMark) (isLeader.apart adj_symm ReflTransGen.refl)
  | false =>
      rw [isValue]
      exact if_neg (Bool.eq_false_iff.mp above)

/-- The loop over the cells from a bound on. -/
theorem scan_finds {left : Nat} (rest : bound + left = map.height * map.width)
    (few : output.length < maxOcrRegions) (scanned : Scanned map bound visited output) :
    map.Finds (map.scan (List.range' bound left) visited output) := by
  induction left generalizing bound visited output with
  | zero =>
      have all : map.found = Flood.leaders map.Inside map.Adj bound := by
        rw [found, leaders, ← rest]
        exact List.take_of_length_le (scanned.described.length_eq.trans_le few.le)
      exact .regions output (fun leader member => scanned.fits leader (all ▸ member))
        (all ▸ scanned.described)
  | succ left ih =>
      have isCell : bound < map.height * map.width := by omega
      have others : bound + 1 + left = map.height * map.width := by omega
      rw [List.range'_succ]
      by_cases isLeader : IsLeader map.Inside map.Adj bound
      · have counted :
            (Flood.leaders map.Inside map.Adj (bound + 1)).length = output.length + 1 := by
          rw [leaders_succ_of_leader isLeader, List.length_append, scanned.described.length_eq,
            List.length_singleton]
        have isFound : bound ∈ map.found := by
          refine mem_found (Nat.succ_le_of_lt isCell) (counted.trans_le few) ?_
          exact mem_leaders.mpr ⟨Nat.lt_succ_self bound, isLeader⟩
        rw [scan_leader scanned isLeader]
        cases room : arith.pointsRoom bound with
        | false => exact .noRoom bound isFound scanned.first room
        | true =>
            have flooded := flood_flooded isLeader (Nat.zero_add maxOcrRegionPixels)
              (scanned.begin isLeader)
            rw [if_neg (Bool.eq_false_iff.mp · rfl)]
            generalize map.flood (visited.set bound true) [bound] [] = result at flooded
            cases flooded with
            | tooLarge large => exact .tooLarge bound isFound scanned.first room large
            | filled marks points filling fits =>
                rcases scanned.add isLeader room filling fits with ⟨region, isRegion, next⟩
                have grown : (output ++ [region]).length = output.length + 1 := by
                  rw [List.length_append, List.length_singleton]
                show map.Finds (map.textRegion points >>= _)
                rw [isRegion]
                by_cases last : (output ++ [region]).length >= maxOcrRegions
                · have all := found_eq (Nat.succ_le_of_lt isCell)
                    (Nat.le_antisymm (counted.trans_le few) (counted ▸ grown ▸ last))
                  show map.Finds (if _ then _ else _)
                  rw [if_pos last]
                  exact .regions _ (fun leader member => next.fits leader (all ▸ member))
                    (all ▸ next.described)
                · show map.Finds (if _ then _ else _)
                  rw [if_neg last]
                  exact ih others (Nat.lt_of_not_le last) next
      · rw [scan_pass isCell scanned isLeader]
        exact ih others few (scanned.pass isLeader)

end Scanning

/-- No component has too many points, and there are not too many components. -/
structure WithinLimits (map : OcrMap arith) : Prop where
  few : map.leaders.length <= maxOcrRegions
  fits : forall leader, leader ∈ map.leaders -> map.Fits leader

theorem WithinLimits.found_eq (limits : map.WithinLimits) : map.found = map.leaders :=
  List.take_of_length_le limits.few

/-- Within the limits the search does not fail, and all components are reported. -/
theorem Finds.within {result : Except (Fault AlgorithmError) (List (OcrText F))}
    (finds : map.Finds result) (limits : map.WithinLimits) : Exists fun regions =>
      result = .ok regions ∧ List.Forall₂ map.Describes map.leaders regions := by
  cases finds with
  | regions regions _ described => exact ⟨regions, rfl, limits.found_eq ▸ described⟩
  | noRoom leader isFound _ full =>
      have room := (limits.fits leader (limits.found_eq ▸ isFound)).1
      rw [full] at room
      cases room
  | tooLarge leader isFound _ _ large =>
      exact absurd large (Nat.not_lt.mpr (limits.fits leader (limits.found_eq ▸ isFound)).2)

/-- Each cell at or above the threshold is in the component of one leader. -/
theorem leader_of_inside {cell : Nat} (inside : map.Inside cell) :
    ExistsUnique fun leader => leader ∈ map.leaders ∧ cell ∈ map.component leader := by
  rcases exists_leader adj_symm adj_inside inside with ⟨leader, isLeader, joined, _⟩
  refine ⟨leader, ⟨mem_leaders.mpr ⟨isLeader.1.lt, isLeader⟩,
    mem_component.mpr ⟨inside.lt, joined⟩⟩, ?_⟩
  rintro other ⟨isOther, isIn⟩
  exact leader_unique adj_symm (mem_leaders.mp isOther).2 isLeader (mem_component.mp isIn).2 joined

end OcrMap

end Elements
end DyunGu
