import DyunGu.Rknn.Io
import Mathlib.Algebra.BigOperators.Group.List.Lemmas
import Mathlib.Data.List.Induction

namespace DyunGu
namespace Rknn

open Core Outcome Slices Strided Odometer

/-!
# What padding does

A run is the innermost dimension, whose stride is one.  The loop over the runs
takes the outer indices in row-major order.  The last run ends where the padded
buffer ends, so that all runs lie inside both buffers.
-/

/-- The dimensions and strides that pass the validation. -/
structure Layout (shape : Shape) (strides : Strides) where
  outer : List Nat
  width : Nat
  outerStrides : List Nat
  isShape : shape.dims = outer ++ [width]
  isStrides : strides.values = outerStrides ++ [1]
  same : outer.length = outerStrides.length
  nonzero : 0 ∉ shape.dims

variable {shape : Shape} {strides : Strides} {elemBytes : Nat}

theorem orBackend_ok {Value : Type} {result : Option Value} {message : String} {value : Value}
    (succeeds : orBackend result message = .ok value) : result = some value := by
  cases result with
  | none => cases succeeds
  | some other =>
      cases succeeds
      rfl

theorem orBackend_safe {Value : Type} (result : Option Value) (message : String) :
    Safe (orBackend result message) := by
  cases result with
  | none => exact safe_error _
  | some value => exact safe_ok value

/-! ## The checks -/

theorem validatedLayout_ok {dims values : List Nat}
    (valid : validatedLayout shape strides = .ok (dims, values)) :
    dims = shape.dims ∧ values = strides.values ∧ Nonempty (Layout shape strides) := by
  rw [validatedLayout] at valid
  split at valid
  · cases valid
  · rename_i ranks
    split at valid
    · cases valid
    · rename_i nonzero
      rcases bind_ok valid with ⟨innermost, isInnermost, valid⟩
      have isInnermost := orPanic_ok isInnermost
      split at valid
      · cases valid
      · rename_i isOne
        cases valid
        rcases not_or.mp ranks with ⟨nonempty, sameRank⟩
        have sameRank := not_not.mp sameRank
        cases not_not.mp isOne
        have isLast : strides.values.getLast? = some 1 := by
          rw [List.getLast?_eq_getElem?, ← sameRank]
          exact isInnermost
        have isShape := List.dropLast_append_getLast nonempty
        have isStrides := List.dropLast_append_getLast? 1 isLast
        refine ⟨rfl, rfl, ⟨⟨shape.dims.dropLast, shape.dims.getLast nonempty,
          strides.values.dropLast, isShape.symm, isStrides.symm, ?_, nonzero⟩⟩⟩
        rw [List.length_dropLast, List.length_dropLast, sameRank]

theorem validatedLayout_safe (shape : Shape) (strides : Strides) :
    Safe (validatedLayout shape strides) := by
  rw [validatedLayout]
  split
  · exact safe_error _
  · rename_i ranks
    split
    · exact safe_error _
    · rcases not_or.mp ranks with ⟨nonempty, sameRank⟩
      have positive := List.length_pos_iff.mpr nonempty
      have isInnermost := List.getElem?_eq_getElem
        (show shape.dims.length - 1 < strides.values.length by omega)
      refine safe_bind (safe_orPanic isInnermost) fun innermost _ => ?_
      split
      · exact safe_error _
      · exact safe_ok _

theorem lastOffset_ok {dims values : List Nat} {acc last : Nat}
    (summed : (dims.zip values).foldlM (fun acc pair => do
      let dimMinusOne <- orBackend (checkedSub pair.1 1) "padded_byte_len: dimension underflow"
      orBackend ((checkedMul dimMinusOne pair.2).bind (checkedAdd acc ·))
        "padded_byte_len: element offset overflow") acc = .ok last) :
    last = acc + offset (corner dims) values := by
  induction dims generalizing values acc with
  | nil =>
      cases summed
      rfl
  | cons dim dims ih =>
      cases values with
      | nil =>
          cases summed
          rw [offset_nil_strides]
          rfl
      | cons stride values =>
          rw [List.zip_cons_cons, List.foldlM_cons] at summed
          rcases bind_ok summed with ⟨next, isNext, rest⟩
          rcases bind_ok isNext with ⟨dimMinusOne, isDim, isNext⟩
          rcases Option.bind_eq_some_iff.mp (orBackend_ok isNext) with ⟨product, isProduct, isSum⟩
          have isDim := orBackend_ok isDim
          rw [checkedSub] at isDim
          split at isDim
          · cases isDim
            rcases checkedMul_eq_some.mp isProduct with ⟨rfl, _⟩
            rcases checkedAdd_eq_some.mp isSum with ⟨rfl, _⟩
            rw [ih rest, corner_cons, offset_cons, Nat.add_assoc]
          · cases isDim

/-- The length of a padded buffer: it ends with the element of the last index. -/
theorem paddedByteLen_ok {len : Nat} (isLen : paddedByteLen shape strides elemBytes = .ok len) :
    Nonempty (Layout shape strides) ∧
      len = (offset (corner shape.dims) strides.values + 1) * elemBytes ∧
      offset (corner shape.dims) strides.values + 1 <= usizeMax ∧ len <= usizeMax := by
  rcases bind_ok isLen with ⟨⟨dims, values⟩, valid, isLen⟩
  rcases validatedLayout_ok valid with ⟨rfl, rfl, layout⟩
  rcases bind_ok isLen with ⟨last, summed, isLen⟩
  have isLast := lastOffset_ok summed
  rw [Nat.zero_add] at isLast
  subst isLast
  rcases Option.bind_eq_some_iff.mp (orBackend_ok isLen) with ⟨elements, isElements, isBytes⟩
  rcases checkedAdd_eq_some.mp isElements with ⟨rfl, elementsFit⟩
  rcases checkedMul_eq_some.mp isBytes with ⟨rfl, bytesFit⟩
  exact ⟨layout, rfl, elementsFit, bytesFit⟩

theorem paddedByteLen_safe (shape : Shape) (strides : Strides) (elemBytes : Nat) :
    Safe (paddedByteLen shape strides elemBytes) := by
  refine safe_bind (validatedLayout_safe shape strides) fun layout _ => ?_
  refine safe_bind (safe_foldlM (fun _ _ => ?_) _ _) fun _ _ => orBackend_safe _ _
  exact safe_bind (orBackend_safe _ _) fun _ _ => orBackend_safe _ _

theorem tryZeroedVec_safe (room : Nat -> Bool) (len : Nat) : Safe (tryZeroedVec room len) := by
  rw [tryZeroedVec]
  split
  · exact safe_error _
  · exact safe_ok _

theorem tryZeroedVec_ok {room : Nat -> Bool} {len : Nat} {bytes : List UInt8}
    (allocated : tryZeroedVec room len = .ok bytes) : bytes = List.replicate len 0 := by
  rw [tryZeroedVec] at allocated
  split at allocated
  · cases allocated
  · cases allocated
    rfl

theorem logicalBytes_ok {logical : Nat} {message : String} (nonzero : 0 ∉ shape.dims)
    (isLogical : logicalBytes shape elemBytes message = .ok logical) :
    logical = shape.dims.prod * elemBytes ∧ logical <= usizeMax ∧ shape.dims.prod <= usizeMax := by
  rcases bind_ok isLogical with ⟨elements, counted, isLogical⟩
  have counted := mapError_ok (orFail_ok counted)
  cases Shape.elementCount_of_ok counted
  rcases checkedMul_eq_some.mp (orBackend_ok isLogical) with ⟨rfl, fits⟩
  refine ⟨rfl, fits, ?_⟩
  rw [Shape.elementCount_of_nonzero nonzero, Shape.trueCount] at counted
  split at counted
  · rename_i countFits
    exact countFits
  · cases counted

theorem logicalBytes_safe (shape : Shape) (elemBytes : Nat) (message : String) :
    Safe (logicalBytes shape elemBytes message) :=
  safe_bind (safe_orFail _) fun _ _ => orBackend_safe _ _

/-! ## One round -/

theorem padOffset_from {values index : List Nat} {acc : Nat}
    (elements : offset index values <= usizeMax)
    (bytes : acc + offset index values * elemBytes <= usizeMax) :
    (index.zip values).foldlM (fun acc pair => do
        let term <- orBackend ((checkedMul pair.1 pair.2).bind (checkedMul · elemBytes))
          "for_each_run: padded offset term overflow"
        orBackend (checkedAdd acc term) "for_each_run: padded offset accumulation overflow") acc =
      .ok (acc + offset index values * elemBytes) := by
  induction index generalizing values acc with
  | nil => rw [offset_nil, Nat.zero_mul]; rfl
  | cons coordinate index ih =>
      cases values with
      | nil => rw [offset_nil_strides, Nat.zero_mul]; rfl
      | cons stride values =>
          rw [offset_cons] at elements
          rw [offset_cons, Nat.add_mul] at bytes
          have product := checkedMul_eq_some.mpr
            ⟨rfl, show coordinate * stride <= usizeMax by omega⟩
          have term := checkedMul_eq_some.mpr
            ⟨rfl, show coordinate * stride * elemBytes <= usizeMax by omega⟩
          have sum := checkedAdd_eq_some.mpr
            ⟨rfl, show acc + coordinate * stride * elemBytes <= usizeMax by omega⟩
          have rest := ih (show offset index values <= usizeMax by omega)
            (show acc + coordinate * stride * elemBytes + offset index values * elemBytes <=
              usizeMax by omega)
          rw [List.zip_cons_cons, List.foldlM_cons, product, Option.bind_some, term]
          show (orBackend (checkedAdd acc (coordinate * stride * elemBytes)) _ >>= _) = _
          rw [sum]
          refine rest.trans ?_
          rw [offset_cons, Nat.add_mul, Nat.add_assoc]

theorem padOffset_eq {values index : List Nat} (elements : offset index values <= usizeMax)
    (bytes : offset index values * elemBytes <= usizeMax) :
    padOffset values elemBytes index = .ok (offset index values * elemBytes) := by
  have all := padOffset_from elements (show 0 + offset index values * elemBytes <= usizeMax by omega)
  rw [Nat.zero_add] at all
  exact all

/-- The loop over the axes is the carry of an index. -/
theorem carry_eq {init outer : List Nat} (inBounds : InBounds init outer)
    (small : forall extent, extent ∈ outer -> extent <= usizeMax) (others rest : List Nat) :
    carry (outer ++ others) init.length (init ++ rest) =
      some ((advance outer init).map (· ++ rest)) := by
  induction outer using List.reverseRecOn generalizing init others rest with
  | nil =>
      cases inBounds
      rfl
  | append_singleton outer extent ih =>
      rcases inBounds.append_exists with ⟨init, coordinate, rfl, initInBounds, below⟩
      have isSmall := small extent (List.mem_append_right _ List.mem_cons_self)
      have isNext : checkedAdd coordinate 1 = some (coordinate + 1) :=
        checkedAdd_eq_some.mpr ⟨rfl, by omega⟩
      have sameLength := initInBounds.length_eq
      have isCoordinate : (init ++ [coordinate] ++ rest)[init.length]? = some coordinate := by
        simp
      have isExtent : (outer ++ [extent] ++ others)[init.length]? = some extent := by
        simp [sameLength]
      have isSet (value : Nat) : (init ++ [coordinate] ++ rest).set init.length value =
          init ++ [value] ++ rest := by
        simp
      rw [List.length_append, List.length_singleton, carry, isCoordinate]
      show (checkedAdd coordinate 1 >>= _) = _
      rw [isNext]
      show ((outer ++ [extent] ++ others)[init.length]? >>= _) = _
      rw [isExtent]
      show (if coordinate + 1 < extent then _ else _) = _
      rw [advance_append sameLength, isSet, isSet]
      split
      · rfl
      · rw [List.append_assoc init, List.append_assoc outer]
        rw [ih initInBounds (fun extent member => small extent (List.mem_append_left _ member)),
          Option.map_map]
        congr 2
        funext next
        simp

/-! ## The loop over the runs -/

/-- The outer dimensions. -/
def outerDims (shape : Shape) : List Nat := shape.dims.dropLast

theorem Layout.outer_eq (layout : Layout shape strides) : layout.outer = outerDims shape := by
  rw [outerDims, layout.isShape, List.dropLast_concat]

/-- The bytes of a run. -/
def runBytes (shape : Shape) (elemBytes : Nat) : Nat := shape.dims.getLastD 0 * elemBytes

theorem Layout.width_eq (layout : Layout shape strides) : layout.width = shape.dims.getLastD 0 := by
  rw [layout.isShape, List.getLastD_eq_getLast?, List.getLast?_concat]
  rfl

theorem runPlan_ok {room : Nat -> Bool} {contiguousLen : Nat} {plan : RunPlan}
    (planned : runPlan room shape strides elemBytes contiguousLen = .ok plan) :
    plan = ⟨outerDims shape, strides.values, runBytes shape elemBytes⟩ ∧
      contiguousLen = shape.dims.prod * elemBytes ∧ contiguousLen <= usizeMax ∧
      shape.dims.prod <= usizeMax := by
  rcases bind_ok planned with ⟨⟨dims, values⟩, valid, planned⟩
  rcases validatedLayout_ok valid with ⟨rfl, rfl, ⟨layout⟩⟩
  rcases bind_ok planned with ⟨logical, isLogical, planned⟩
  rcases logicalBytes_ok layout.nonzero isLogical with ⟨rfl, fits, countFits⟩
  split at planned
  · cases planned
  · rename_i sameLength
    rcases bind_ok planned with ⟨innermost, isInnermost, planned⟩
    rcases bind_ok planned with ⟨run, isRun, planned⟩
    rcases checkedMul_eq_some.mp (orBackend_ok isRun) with ⟨rfl, _⟩
    have isInnermost := orPanic_ok isInnermost
    rw [← List.getLast?_eq_getElem?] at isInnermost
    dsimp only at planned
    split at planned
    · cases planned
    · cases planned
      cases not_not.mp sameLength
      refine ⟨?_, rfl, fits, countFits⟩
      rw [outerDims, List.dropLast_eq_take, runBytes, List.getLastD_eq_getLast?, isInnermost]
      rfl

namespace Layout

variable (layout : Layout shape strides)

include layout

theorem outer_nonzero : 0 ∉ outerDims shape := by
  rw [← layout.outer_eq]
  intro member
  apply layout.nonzero
  rw [layout.isShape]
  exact List.mem_append_left _ member

theorem offset_outer {index : List Nat} (inBounds : InBounds index (outerDims shape)) :
    offset index strides.values = offset index layout.outerStrides := by
  rw [← layout.outer_eq] at inBounds
  rw [layout.isStrides, offset_append_stride (inBounds.length_eq.trans layout.same)]

/-- Where the elements of a run are. -/
theorem offset_element {index : List Nat} (inBounds : InBounds index (outerDims shape))
    (column : Nat) :
    offset (index ++ [column]) strides.values = offset index strides.values + column := by
  have same := inBounds.length_eq
  rw [← layout.outer_eq] at same
  rw [layout.offset_outer inBounds, layout.isStrides, offset_append (same.trans layout.same),
    Nat.mul_one]

theorem element_inBounds {index : List Nat} (inBounds : InBounds index (outerDims shape))
    {column : Nat} (below : column < shape.dims.getLastD 0) :
    InBounds (index ++ [column]) shape.dims := by
  rw [layout.isShape]
  rw [← layout.outer_eq] at inBounds
  rw [← layout.width_eq] at below
  exact inBounds_append inBounds below

theorem width_pos : 0 < shape.dims.getLastD 0 := by
  rw [← layout.width_eq]
  apply Nat.pos_of_ne_zero
  rintro isZero
  apply layout.nonzero
  rw [layout.isShape, isZero]
  exact List.mem_append_right _ List.mem_cons_self

/-- A run ends at the latest with the element of the last index. -/
theorem run_le {index : List Nat} (inBounds : InBounds index (outerDims shape)) :
    offset index strides.values + shape.dims.getLastD 0 <=
      offset (corner shape.dims) strides.values + 1 := by
  have positive := layout.width_pos
  have last := offset_le_corner strides.values
    (layout.element_inBounds inBounds (Nat.sub_one_lt positive.ne'))
  rw [layout.offset_element inBounds] at last
  omega

theorem run_stop_le (elemBytes : Nat) {index : List Nat} (inBounds : InBounds index (outerDims shape)) :
    offset index strides.values * elemBytes + runBytes shape elemBytes <=
      (offset (corner shape.dims) strides.values + 1) * elemBytes := by
  rw [runBytes, ← Nat.add_mul]
  exact Nat.mul_le_mul_right elemBytes (layout.run_le inBounds)

theorem prod_eq : shape.dims.prod = (outerDims shape).prod * shape.dims.getLastD 0 := by
  rw [← layout.outer_eq, ← layout.width_eq]
  conv_lhs => rw [layout.isShape]
  rw [List.prod_append, List.prod_singleton]

/-- All runs together are all bytes. -/
theorem runs_eq : shape.dims.prod * elemBytes = (outerDims shape).prod * runBytes shape elemBytes := by
  rw [layout.prod_eq, runBytes, Nat.mul_assoc]

theorem outer_small (small : shape.dims.prod <= usizeMax) {extent : Nat}
    (member : extent ∈ outerDims shape) : extent <= usizeMax := by
  rw [← layout.outer_eq] at member
  have isFactor : extent ∣ shape.dims.prod := by
    apply List.dvd_prod
    rw [layout.isShape]
    exact List.mem_append_left _ member
  exact (Nat.le_of_dvd (prod_pos layout.nonzero) isFactor).trans small

end Layout

/-- Rounds in the order of their positions. -/
theorem visitRun_fold {State : Type} (plan : RunPlan)
    (visit : Nat -> Nat -> Nat -> State -> Option State) {items : List (List Nat)}
    {position : List Nat -> Nat} {base : Nat}
    (inOrder : items.map position = List.range' base items.length)
    (pads : forall index, index ∈ items ->
      padOffset plan.values elemBytes index = .ok (offset index plan.values * elemBytes))
    (fits : (base + items.length) * plan.run <= usizeMax) (state : State) :
    items.foldlM (visitRun plan elemBytes visit) (base * plan.run, state) =
      (orPanic (items.foldlM (fun state index => visit (offset index plan.values * elemBytes)
        (position index * plan.run) plan.run state) state)).map
          fun final => ((base + items.length) * plan.run, final) := by
  induction items generalizing base state with
  | nil => rfl
  | cons index items ih =>
      rw [List.map_cons, List.length_cons, List.range'_succ, List.cons.injEq] at inOrder
      rcases inOrder with ⟨isBase, inOrder⟩
      rcases List.forall_mem_cons.mp pads with ⟨pad, otherPads⟩
      have sameCount : base + (items.length + 1) = base + 1 + items.length := by omega
      rw [List.length_cons, sameCount] at fits
      rw [List.foldlM_cons, List.foldlM_cons, List.length_cons, sameCount, isBase]
      cases visited : visit (offset index plan.values * elemBytes) (base * plan.run) plan.run state with
      | none =>
          rw [visitRun, pad]
          show (orPanic (visit _ (base * plan.run) plan.run state) >>= _) >>= _ = _
          rw [visited]
          rfl
      | some next =>
          have isNext : checkedAdd (base * plan.run) plan.run = some ((base + 1) * plan.run) := by
            rw [Nat.add_mul base, Nat.one_mul]
            refine checkedAdd_eq_some.mpr ⟨rfl, ?_⟩
            rw [← Nat.succ_mul]
            exact (Nat.mul_le_mul_right _ (by omega)).trans fits
          have isRound : visitRun plan elemBytes visit (base * plan.run, state) index =
              .ok ((base + 1) * plan.run, next) := by
            rw [visitRun, pad]
            show (orPanic (visit _ (base * plan.run) plan.run state) >>= _) = _
            rw [visited]
            show (orBackend (checkedAdd (base * plan.run) plan.run) _ >>= _) = _
            rw [isNext]
            rfl
          rw [isRound]
          exact ih inOrder otherPads fits next

theorem map_orPanic {Failure First Second : Type} (change : First -> Second)
    (result : Option First) :
    (orPanic result : Except (Fault Failure) First).map change = orPanic (result.map change) := by
  cases result <;> rfl

variable {room : Nat -> Bool} {fuel : Nat}

/-- The visits of the runs, in row-major order of the outer indices. -/
def visitRuns {State : Type} (shape : Shape) (strides : Strides) (elemBytes : Nat)
    (visit : Nat -> Nat -> Nat -> State -> Option State) (state : State) : Option State :=
  (indices (outerDims shape)).foldlM (fun state index =>
    visit (offset index strides.values * elemBytes)
      (offset index (rowMajor (outerDims shape)) * runBytes shape elemBytes)
      (runBytes shape elemBytes) state) state

/-- The loop visits each run once, in order, and ends. -/
theorem forEachRun_eq {State : Type} {contiguousLen : Nat} {plan : RunPlan}
    {visit : Nat -> Nat -> Nat -> State -> Option State} (layout : Layout shape strides)
    (planned : runPlan room shape strides elemBytes contiguousLen = .ok plan)
    (elements : offset (corner shape.dims) strides.values + 1 <= usizeMax)
    (bytes : (offset (corner shape.dims) strides.values + 1) * elemBytes <= usizeMax)
    (enough : (outerDims shape).prod <= fuel) (state : State) :
    forEachRun room fuel shape strides elemBytes contiguousLen visit state =
      some (orPanic (visitRuns shape strides elemBytes visit state)) := by
  rcases runPlan_ok planned with ⟨rfl, isLength, fits, countFits⟩
  have enumerated := enumerates_indices layout.outer_nonzero
  have pads : forall index, index ∈ indices (outerDims shape) ->
      padOffset strides.values elemBytes index = .ok (offset index strides.values * elemBytes) := by
    intro index member
    have inBounds := mem_indices.mp member
    have elementStop := layout.run_le inBounds
    have byteStop := layout.run_stop_le elemBytes inBounds
    exact padOffset_eq (by omega) (by omega)
  have advances : forall index, index ∈ indices (outerDims shape) ->
      (orPanic (carry (outerDims shape) (outerDims shape).length index) :
        Except (Fault IoError) (Option (List Nat))) = .ok (advance (outerDims shape) index) := by
    intro index member
    have inBounds := mem_indices.mp member
    have carried := carry_eq inBounds (fun _ => layout.outer_small countFits) [] []
    rw [List.append_nil, List.append_nil, inBounds.length_eq] at carried
    rw [carried]
    simp [orPanic]
  have inOrder : (indices (outerDims shape)).map (offset · (rowMajor (outerDims shape))) =
      List.range' 0 (indices (outerDims shape)).length := by
    rw [indices_offset, indices_length, List.range_eq_range']
  have allFit : (0 + (indices (outerDims shape)).length) * runBytes shape elemBytes <= usizeMax := by
    rw [Nat.zero_add, indices_length, ← layout.runs_eq, ← isLength]
    exact fits
  have isStart : List.replicate (outerDims shape).length 0 = zeros (outerDims shape) := by
    rw [zeros, List.map_const']
  have visited := visitRun_fold ⟨outerDims shape, strides.values, runBytes shape elemBytes⟩ visit
    inOrder pads allFit state
  rw [Nat.zero_mul] at visited
  rw [forEachRun, planned]
  dsimp only
  rw [isStart, iterate_eq enumerated advances ((indices_length _).trans_le enough), visited,
    map_orPanic, Option.map_some, map_orPanic, Option.map_map]
  rw [visitRuns]
  congr 2
  exact Option.map_id'

theorem runPlan_safe (room : Nat -> Bool) (shape : Shape) (strides : Strides)
    (elemBytes contiguousLen : Nat) :
    Safe (runPlan room shape strides elemBytes contiguousLen) := by
  refine safe_bind (validatedLayout_safe shape strides) fun pair isPair => ?_
  rcases pair with ⟨dims, values⟩
  rcases validatedLayout_ok isPair with ⟨rfl, rfl, ⟨layout⟩⟩
  refine safe_bind (logicalBytes_safe _ _ _) fun logical _ => ?_
  dsimp only
  split
  · exact safe_error _
  · have isInnermost : shape.dims[shape.dims.length - 1]? = some layout.width := by
      rw [← List.getLast?_eq_getElem?, layout.isShape, List.getLast?_concat]
    refine safe_bind (safe_orPanic isInnermost) fun innermost _ => ?_
    refine safe_bind (orBackend_safe _ _) fun run _ => ?_
    split
    · exact safe_error _
    · exact safe_ok _

/-! ## Padding -/

/-- The bytes of a run. -/
def runOf (shape : Shape) (elemBytes : Nat) (contiguous : List UInt8) (index : List Nat) :
    List UInt8 :=
  (contiguous.drop (offset index (rowMajor (outerDims shape)) * runBytes shape elemBytes)).take
    (runBytes shape elemBytes)

/-- The writes into the padded buffer. -/
def padWrites (shape : Shape) (strides : Strides) (elemBytes : Nat) (contiguous : List UInt8) :
    List (Write UInt8) :=
  (indices (outerDims shape)).map fun index =>
    ⟨offset index strides.values * elemBytes, runOf shape elemBytes contiguous index⟩

/-- The padded buffer holds the runs and zeros. -/
structure PaddedBy (shape : Shape) (strides : Strides) (elemBytes : Nat)
    (contiguous padded : List UInt8) : Prop where
  length : padded.length = (offset (corner shape.dims) strides.values + 1) * elemBytes
  written : Written (List.replicate padded.length 0) (padWrites shape strides elemBytes contiguous)
    padded

namespace Layout

variable (layout : Layout shape strides) {contiguous : List UInt8}

include layout

theorem run_fits (isLength : contiguous.length = shape.dims.prod * elemBytes) {index : List Nat}
    (inBounds : InBounds index (outerDims shape)) :
    offset index (rowMajor (outerDims shape)) * runBytes shape elemBytes +
      runBytes shape elemBytes <= contiguous.length := by
  rw [isLength, layout.runs_eq, ← Nat.succ_mul]
  exact Nat.mul_le_mul_right _ (offset_rowMajor_lt inBounds)

theorem runOf_length (isLength : contiguous.length = shape.dims.prod * elemBytes) {index : List Nat}
    (inBounds : InBounds index (outerDims shape)) :
    (runOf shape elemBytes contiguous index).length = runBytes shape elemBytes :=
  slice_length (layout.run_fits isLength inBounds)

/-- The visits of the padding are its writes. -/
theorem padRuns_eq (isLength : contiguous.length = shape.dims.prod * elemBytes)
    (padded : List UInt8) :
    visitRuns shape strides elemBytes (fun pad contig run padded => do
        let piece <- slice contiguous contig run
        splice padded pad piece) padded =
      performAll padded (padWrites shape strides elemBytes contiguous) := by
  rw [visitRuns, performAll, padWrites, List.foldlM_map]
  refine foldlM_congr (fun index member padded => ?_) padded
  rw [slice_of_le (layout.run_fits isLength (mem_indices.mp member))]
  rfl

end Layout

/-- Padding ends, with a failure or with all runs in place. -/
theorem padBytes_cases (room : Nat -> Bool) (contiguous : List UInt8) (shape : Shape)
    (strides : Strides) (elemBytes : Nat) (enough : (outerDims shape).prod <= fuel) :
    (Exists fun error => padBytes room fuel contiguous shape strides elemBytes =
      some (.error (.error error))) ∨
    Exists fun padded => Exists fun len => Exists fun plan =>
      padBytes room fuel contiguous shape strides elemBytes = some (.ok padded) ∧
      paddedByteLen shape strides elemBytes = .ok len ∧
      runPlan room shape strides elemBytes contiguous.length = .ok plan ∧
      PaddedBy shape strides elemBytes contiguous padded := by
  rw [padBytes]
  have allocationSafe : Safe (paddedByteLen shape strides elemBytes >>= tryZeroedVec room) :=
    safe_bind (paddedByteLen_safe _ _ _) fun _ _ => tryZeroedVec_safe _ _
  rcases safe_cases allocationSafe with ⟨error, fails⟩ | ⟨padded, allocated⟩
  · rw [fails]
    exact Or.inl ⟨error, rfl⟩
  · rw [allocated]
    rcases bind_ok allocated with ⟨len, isLen, isZeros⟩
    cases tryZeroedVec_ok isZeros
    rcases paddedByteLen_ok isLen with ⟨⟨layout⟩, rfl, elements, bytes⟩
    rcases safe_cases (runPlan_safe room shape strides elemBytes contiguous.length) with
      ⟨error, fails⟩ | ⟨plan, planned⟩
    · refine Or.inl ⟨error, ?_⟩
      dsimp only
      rw [forEachRun, fails]
    · rcases runPlan_ok planned with ⟨_, isLength, _, _⟩
      have stops : forall write, write ∈ padWrites shape strides elemBytes contiguous ->
          write.stop <= (List.replicate
            ((offset (corner shape.dims) strides.values + 1) * elemBytes) (0 : UInt8)).length := by
        intro write member
        rcases List.mem_map.mp member with ⟨index, isIndex, rfl⟩
        have inBounds := mem_indices.mp isIndex
        rw [Write.stop, layout.runOf_length isLength inBounds, List.length_replicate]
        exact layout.run_stop_le elemBytes inBounds
      rcases performAll_written stops with ⟨result, performed, written⟩
      have length := written.length
      rw [List.length_replicate] at length
      refine Or.inr ⟨result, _, plan, ?_, isLen, planned, length, ?_⟩
      · dsimp only
        rw [forEachRun_eq layout planned elements bytes enough, layout.padRuns_eq isLength, performed]
        rfl
      · rw [length]
        exact written

/-! ## Taking the padding away -/

/-- The runs that are read from a padded buffer. -/
def depadPieces (shape : Shape) (strides : Strides) (elemBytes : Nat) (padded : List UInt8) :
    List (List UInt8) :=
  (indices (outerDims shape)).map fun index =>
    (padded.drop (offset index strides.values * elemBytes)).take (runBytes shape elemBytes)

/-- All runs are read, and they are written next to each other. -/
theorem Layout.depadRuns_eq (layout : Layout shape strides) {padded contiguous : List UInt8}
    (isLength : contiguous.length = shape.dims.prod * elemBytes)
    (needed : (offset (corner shape.dims) strides.values + 1) * elemBytes <= padded.length) :
    visitRuns shape strides elemBytes (fun pad contig run contiguous => do
        let piece <- slice padded pad run
        splice contiguous contig piece) contiguous =
      some (depadPieces shape strides elemBytes padded).flatten := by
  have fits : forall index, index ∈ indices (outerDims shape) ->
      offset index strides.values * elemBytes + runBytes shape elemBytes <= padded.length :=
    fun index member => (layout.run_stop_le elemBytes (mem_indices.mp member)).trans needed
  have inOrder : (indices (outerDims shape)).map (offset · (rowMajor (outerDims shape))) =
      List.range' 0 (indices (outerDims shape)).length := by
    rw [indices_offset, indices_length, List.range_eq_range']
  rcases adjacent_map inOrder (fun index member => slice_length (fits index member)) with
    ⟨isAdjacent, allLength⟩
  rw [Nat.zero_mul] at isAdjacent
  rw [indices_length, ← layout.runs_eq, ← isLength] at allLength
  have filled := performAll_adjacent [] (Nat.le_of_eq allLength)
  rw [allLength, List.drop_length, List.append_nil, List.nil_append, List.nil_append,
    List.length_nil, isAdjacent, performAll, List.foldlM_map] at filled
  rw [visitRuns, depadPieces, ← filled]
  refine foldlM_congr (fun index member contiguous => ?_) contiguous
  rw [slice_of_le (fits index member)]
  rfl

/-- Taking the padding away ends, with a failure or with all runs. -/
theorem depadBytes_cases (room : Nat -> Bool) (padded : List UInt8) (shape : Shape)
    (strides : Strides) (elemBytes : Nat) (enough : (outerDims shape).prod <= fuel) :
    (Exists fun error => depadBytes room fuel padded shape strides elemBytes =
      some (.error (.error error))) ∨
    Exists fun len => Exists fun plan =>
      depadBytes room fuel padded shape strides elemBytes =
        some (.ok (depadPieces shape strides elemBytes padded).flatten) ∧
      paddedByteLen shape strides elemBytes = .ok len ∧
      runPlan room shape strides elemBytes (shape.dims.prod * elemBytes) = .ok plan := by
  have targetSafe : Safe (depadTarget room padded shape strides elemBytes) := by
    refine safe_bind (paddedByteLen_safe _ _ _) fun needed _ => ?_
    split
    · exact safe_error _
    · refine safe_bind (logicalBytes_safe _ _ _) fun logical _ => ?_
      exact safe_bind (tryZeroedVec_safe _ _) fun contiguous _ => safe_ok _
  rw [depadBytes]
  rcases safe_cases targetSafe with ⟨error, fails⟩ | ⟨⟨logical, contiguous⟩, isTarget⟩
  · rw [fails]
    exact Or.inl ⟨error, rfl⟩
  · rw [isTarget]
    rcases bind_ok isTarget with ⟨needed, isNeeded, isTarget⟩
    rcases paddedByteLen_ok isNeeded with ⟨⟨layout⟩, rfl, elements, bytes⟩
    split at isTarget
    · cases isTarget
    · rename_i large
      rcases bind_ok isTarget with ⟨logical, isLogical, isTarget⟩
      rcases bind_ok isTarget with ⟨contiguous, isZeros, isTarget⟩
      cases isTarget
      cases tryZeroedVec_ok isZeros
      rcases logicalBytes_ok layout.nonzero isLogical with ⟨rfl, _, _⟩
      dsimp only
      rcases safe_cases (runPlan_safe room shape strides elemBytes
        (shape.dims.prod * elemBytes)) with ⟨error, fails⟩ | ⟨plan, planned⟩
      · refine Or.inl ⟨error, ?_⟩
        rw [forEachRun, fails]
      · refine Or.inr ⟨_, plan, ?_, isNeeded, planned⟩
        rw [forEachRun_eq layout planned elements bytes enough,
          layout.depadRuns_eq List.length_replicate (Nat.le_of_not_lt large)]
        rfl

/-! ## The round trip -/

section Separation

variable {contiguous padded : List UInt8}

/-- An element of a run, by the position of a byte of it. -/
theorem Layout.covered_element (layout : Layout shape strides)
    (isLength : contiguous.length = shape.dims.prod * elemBytes) {index : List Nat}
    (inBounds : InBounds index (outerDims shape)) {position : Nat}
    (covers : Write.Covers ⟨offset index strides.values * elemBytes,
      runOf shape elemBytes contiguous index⟩ position) : Exists fun column =>
    column < shape.dims.getLastD 0 ∧
      position / elemBytes = offset (index ++ [column]) strides.values ∧
      offset (index ++ [column]) strides.values * elemBytes <= position ∧
      position < offset (index ++ [column]) strides.values * elemBytes + elemBytes := by
  rcases covers with ⟨after, before⟩
  rw [Write.stop, layout.runOf_length isLength inBounds, runBytes] at before
  dsimp only at after before
  have positive : 0 < elemBytes := by
    apply Nat.pos_of_ne_zero
    rintro rfl
    omega
  rw [← Nat.add_mul] at before
  have low := (Nat.le_div_iff_mul_le positive).mpr after
  have high := (Nat.div_lt_iff_lt_mul positive).mpr before
  have isElement : offset (index ++ [position / elemBytes - offset index strides.values])
      strides.values = position / elemBytes := by
    rw [layout.offset_element inBounds]
    omega
  refine ⟨position / elemBytes - offset index strides.values, by omega, isElement.symm, ?_, ?_⟩
  · rw [isElement]
    exact Nat.div_mul_le_self position elemBytes
  · rw [isElement, ← Nat.succ_mul]
    exact Nat.lt_mul_of_div_lt (Nat.lt_succ_self _) positive

/-- With separate offsets no two runs touch each other. -/
theorem Layout.runs_apart (layout : Layout shape strides)
    (separates : Separates strides.values shape.dims)
    (isLength : contiguous.length = shape.dims.prod * elemBytes) :
    (padWrites shape strides elemBytes contiguous).Pairwise Write.Apart := by
  rw [padWrites, List.pairwise_map]
  refine List.Pairwise.imp_of_mem ?_ (indices_nodup (outerDims shape))
  intro first second isFirst isSecond different position covers otherCovers
  have firstInBounds := mem_indices.mp isFirst
  have secondInBounds := mem_indices.mp isSecond
  rcases layout.covered_element isLength firstInBounds covers with ⟨column, below, isAt, _⟩
  rcases layout.covered_element isLength secondInBounds otherCovers with
    ⟨otherColumn, otherBelow, isOtherAt, _⟩
  have same := separates _ _ (layout.element_inBounds firstInBounds below)
    (layout.element_inBounds secondInBounds otherBelow) (isAt.symm.trans isOtherAt)
  exact different (List.append_inj_left' same rfl)

/-- Pieces of one size that follow one another are the whole. -/
theorem flatten_chunks (size count : Nat) (items : List UInt8) :
    ((List.range count).map fun position => (items.drop (position * size)).take size).flatten =
      items.take (count * size) := by
  induction count with
  | zero => simp
  | succ count ih =>
      rw [List.range_succ, List.map_append, List.flatten_append, ih, Nat.succ_mul, List.take_add]
      simp

/-- The padding that was added is taken away again. -/
theorem PaddedBy.depad (layout : Layout shape strides)
    (paddedBy : PaddedBy shape strides elemBytes contiguous padded)
    (separates : Separates strides.values shape.dims)
    (isLength : contiguous.length = shape.dims.prod * elemBytes) :
    (depadPieces shape strides elemBytes padded).flatten = contiguous := by
  have restored : depadPieces shape strides elemBytes padded =
      (indices (outerDims shape)).map (runOf shape elemBytes contiguous) := by
    refine List.map_congr_left fun index member => ?_
    have inBounds := mem_indices.mp member
    have runLength := layout.runOf_length isLength inBounds
    have stop := layout.run_stop_le elemBytes inBounds
    rw [← paddedBy.length] at stop
    refine List.ext_getElem? fun column => ?_
    by_cases inside : column < runBytes shape elemBytes
    · rw [slice_getElem? _ _ inside]
      have isWritten : ⟨offset index strides.values * elemBytes,
          runOf shape elemBytes contiguous index⟩ ∈ padWrites shape strides elemBytes contiguous :=
        List.mem_map_of_mem member
      have covers : Write.Covers ⟨offset index strides.values * elemBytes,
          runOf shape elemBytes contiguous index⟩
          (offset index strides.values * elemBytes + column) := by
        refine ⟨Nat.le_add_right _ _, ?_⟩
        rw [Write.stop, runLength]
        exact Nat.add_lt_add_left inside _
      have value := paddedBy.written.apart (layout.runs_apart separates isLength) isWritten covers
      rw [Nat.add_sub_cancel_left] at value
      exact value
    · rw [List.getElem?_eq_none ((slice_length stop).trans_le (Nat.le_of_not_lt inside)),
        List.getElem?_eq_none (runLength.trans_le (Nat.le_of_not_lt inside))]
  have chunks : (indices (outerDims shape)).map (runOf shape elemBytes contiguous) =
      (List.range (outerDims shape).prod).map fun position =>
        (contiguous.drop (position * runBytes shape elemBytes)).take (runBytes shape elemBytes) := by
    rw [← indices_offset, List.map_map]
    rfl
  rw [restored, chunks, flatten_chunks, ← layout.runs_eq, ← isLength, List.take_length]

/-- A byte that belongs to no element is zero. -/
theorem PaddedBy.zero (layout : Layout shape strides)
    (paddedBy : PaddedBy shape strides elemBytes contiguous padded)
    (isLength : contiguous.length = shape.dims.prod * elemBytes) {position : Nat}
    (inside : position < padded.length)
    (outside : forall index, InBounds index shape.dims ->
      ¬ (offset index strides.values * elemBytes <= position ∧
        position < offset index strides.values * elemBytes + elemBytes)) :
    padded[position]? = some 0 := by
  have isZero : (List.replicate padded.length (0 : UInt8))[position]? = some 0 := by
    rw [List.getElem?_replicate, if_pos inside]
  rw [← isZero]
  refine paddedBy.written.uncovered position fun write member covers => ?_
  rcases List.mem_map.mp member with ⟨index, isIndex, rfl⟩
  have inBounds := mem_indices.mp isIndex
  rcases layout.covered_element isLength inBounds covers with ⟨column, below, _, after, before⟩
  exact outside _ (layout.element_inBounds inBounds below) ⟨after, before⟩

theorem logicalBytes_congr {logical : Nat} {message : String}
    (isLogical : logicalBytes shape elemBytes message = .ok logical) (other : String) :
    logicalBytes shape elemBytes other = .ok logical := by
  rcases bind_ok isLogical with ⟨elements, counted, isLogical⟩
  refine bind_eq_ok counted ?_
  rw [orBackend_ok isLogical]
  rfl

/-- What was padded is restored if there is memory for it. -/
theorem PaddedBy.depadBytes_eq (layout : Layout shape strides)
    (paddedBy : PaddedBy shape strides elemBytes contiguous padded) {len : Nat} {plan : RunPlan}
    (isLen : paddedByteLen shape strides elemBytes = .ok len)
    (planned : runPlan room shape strides elemBytes contiguous.length = .ok plan)
    (separates : Separates strides.values shape.dims) (enough : (outerDims shape).prod <= fuel) :
    depadBytes room fuel padded shape strides elemBytes =
      some ((tryZeroedVec room contiguous.length).map fun _ => contiguous) := by
  rcases paddedByteLen_ok isLen with ⟨_, rfl, elements, bytes⟩
  rcases runPlan_ok planned with ⟨_, isLength, _, _⟩
  have isLogical : logicalBytes shape elemBytes "depad_bytes: logical byte count overflow" =
      .ok contiguous.length := by
    rcases bind_ok planned with ⟨⟨dims, values⟩, _, rest⟩
    rcases bind_ok rest with ⟨logical, isLogical, _⟩
    rcases logicalBytes_ok layout.nonzero isLogical with ⟨rfl, _, _⟩
    rw [isLength]
    exact logicalBytes_congr isLogical _
  have isTarget : depadTarget room padded shape strides elemBytes =
      (tryZeroedVec room contiguous.length).map fun zeros => (contiguous.length, zeros) := by
    rw [depadTarget, isLen]
    show (if padded.length < _ then _ else logicalBytes shape elemBytes _ >>= _) = _
    rw [if_neg (Nat.not_lt.mpr paddedBy.length.ge), isLogical]
    show (tryZeroedVec room contiguous.length >>= _) = _
    cases tryZeroedVec room contiguous.length <;> rfl
  rw [depadBytes, isTarget]
  cases allocated : tryZeroedVec room contiguous.length with
  | error fault => rfl
  | ok zeros =>
      cases tryZeroedVec_ok allocated
      show forEachRun room fuel shape strides elemBytes contiguous.length _
        (List.replicate contiguous.length 0) = _
      rw [forEachRun_eq layout planned elements bytes enough,
        layout.depadRuns_eq (List.length_replicate.trans isLength) paddedBy.length.ge,
        paddedBy.depad layout separates isLength]
      rfl

/-- The computation ends, and it does not panic. -/
def Returns {Value : Type} (result : Option (Except (Fault IoError) Value)) : Prop :=
  Exists fun outcome => result = some outcome ∧ Safe outcome

/-- The rounds are those of the outer indices in row-major order. -/
def RunsInOrder (room : Nat -> Bool) (fuel : Nat) (shape : Shape) (strides : Strides)
    (elemBytes contiguousLen : Nat) : Prop :=
  forall (State : Type) (visit : Nat -> Nat -> Nat -> State -> Option State) (state : State),
    forEachRun room fuel shape strides elemBytes contiguousLen visit state =
      some (orPanic ((indices (outerDims shape)).foldlM (fun state index =>
        visit (offset index strides.values * elemBytes)
          (offset index (rowMajor (outerDims shape)) * runBytes shape elemBytes)
          (runBytes shape elemBytes) state) state))

theorem runsInOrder_of_planned {contiguousLen len : Nat} {plan : RunPlan}
    (isLen : paddedByteLen shape strides elemBytes = .ok len)
    (planned : runPlan room shape strides elemBytes contiguousLen = .ok plan)
    (enough : (outerDims shape).prod <= fuel) :
    RunsInOrder room fuel shape strides elemBytes contiguousLen := by
  rcases paddedByteLen_ok isLen with ⟨⟨layout⟩, rfl, elements, bytes⟩
  intro State visit state
  exact forEachRun_eq layout planned elements bytes enough state

/-- What holds once bytes have been padded. -/
theorem padBytes_ok (isPadded : padBytes room fuel contiguous shape strides elemBytes =
      some (.ok padded)) (enough : (outerDims shape).prod <= fuel) :
    Exists fun len => Exists fun plan => paddedByteLen shape strides elemBytes = .ok len ∧
      runPlan room shape strides elemBytes contiguous.length = .ok plan ∧
      PaddedBy shape strides elemBytes contiguous padded := by
  rcases padBytes_cases room contiguous shape strides elemBytes enough with
    ⟨error, fails⟩ | ⟨result, len, plan, succeeds, isLen, planned, paddedBy⟩
  · cases fails.symm.trans isPadded
  · cases succeeds.symm.trans isPadded
    exact ⟨len, plan, isLen, planned, paddedBy⟩

theorem padBytes_restored (isPadded : padBytes room fuel contiguous shape strides elemBytes =
      some (.ok padded)) (separates : Separates strides.values shape.dims)
    (enough : (outerDims shape).prod <= fuel) :
    depadBytes room fuel padded shape strides elemBytes =
      some ((tryZeroedVec room contiguous.length).map fun _ => contiguous) := by
  rcases padBytes_ok isPadded enough with ⟨len, plan, isLen, planned, paddedBy⟩
  rcases paddedByteLen_ok isLen with ⟨⟨layout⟩, _, _, _⟩
  exact paddedBy.depadBytes_eq layout isLen planned separates enough

end Separation

/-- Both directions end without an overflow and inside both buffers, and their
rounds go through the outer indices in row-major order.  The padding that is
added is zero, and if offsets are separate it can be taken away again. -/
theorem padded_round_trip (room : Nat -> Bool) (fuel : Nat) (shape : Shape) (strides : Strides)
    (elemBytes : Nat) (enough : (outerDims shape).prod <= fuel) :
    (forall bytes, Returns (padBytes room fuel bytes shape strides elemBytes) ∧
      Returns (depadBytes room fuel bytes shape strides elemBytes)) ∧
    RowMajorOrder (outerDims shape) (indices (outerDims shape)) ∧
    (forall contiguous padded,
      padBytes room fuel contiguous shape strides elemBytes = some (.ok padded) ->
        RunsInOrder room fuel shape strides elemBytes contiguous.length ∧
        (forall position, position < padded.length ->
          (forall index, InBounds index shape.dims ->
            ¬ (offset index strides.values * elemBytes <= position ∧
              position < offset index strides.values * elemBytes + elemBytes)) ->
            padded[position]? = some 0) ∧
        (Separates strides.values shape.dims ->
          depadBytes room fuel padded shape strides elemBytes =
            some ((tryZeroedVec room contiguous.length).map fun _ => contiguous))) ∧
    (forall padded restored,
      depadBytes room fuel padded shape strides elemBytes = some (.ok restored) ->
        RunsInOrder room fuel shape strides elemBytes (shape.dims.prod * elemBytes)) := by
  refine ⟨fun bytes => ⟨?_, ?_⟩, indices_rowMajor _, ?_, ?_⟩
  · rcases padBytes_cases room bytes shape strides elemBytes enough with
      ⟨error, fails⟩ | ⟨result, _, _, succeeds, _⟩
    · exact ⟨_, fails, safe_error error⟩
    · exact ⟨_, succeeds, safe_ok result⟩
  · rcases depadBytes_cases room bytes shape strides elemBytes enough with
      ⟨error, fails⟩ | ⟨_, _, succeeds, _⟩
    · exact ⟨_, fails, safe_error error⟩
    · exact ⟨_, succeeds, safe_ok _⟩
  · intro contiguous padded isPadded
    rcases padBytes_ok isPadded enough with ⟨len, plan, isLen, planned, paddedBy⟩
    rcases paddedByteLen_ok isLen with ⟨⟨layout⟩, _, _, _⟩
    rcases runPlan_ok planned with ⟨_, isLength, _, _⟩
    exact ⟨runsInOrder_of_planned isLen planned enough,
      fun position inside outside => paddedBy.zero layout isLength inside outside,
      fun separates => padBytes_restored isPadded separates enough⟩
  · intro padded restored isRestored
    rcases depadBytes_cases room padded shape strides elemBytes enough with
      ⟨error, fails⟩ | ⟨len, plan, _, isLen, planned⟩
    · cases fails.symm.trans isRestored
    · exact runsInOrder_of_planned isLen planned enough

theorem twoRows_separate : Separates [4, 1] [2, 3] := by
  intro first second inFirst inSecond same
  cases inFirst with
  | cons firstRow firstRest =>
      cases firstRest with
      | cons firstColumn firstEnd =>
          cases firstEnd
          cases inSecond with
          | cons secondRow secondRest =>
              cases secondRest with
              | cons secondColumn secondEnd =>
                  cases secondEnd
                  simp only [offset_cons, offset_nil] at same
                  simp only [List.cons.injEq, and_true]
                  omega

/-- Two rows of three bytes with a fourth byte of padding between them. -/
theorem twoRows_round_trip :
    padBytes (fun _ => true) 2 [1, 2, 3, 4, 5, 6] ⟨[2, 3]⟩ ⟨[4, 1]⟩ 1 =
        some (.ok [1, 2, 3, 0, 4, 5, 6]) ∧
      depadBytes (fun _ => true) 2 [1, 2, 3, 0, 4, 5, 6] ⟨[2, 3]⟩ ⟨[4, 1]⟩ 1 =
        some (.ok [1, 2, 3, 4, 5, 6]) := by
  have padded : padBytes (fun _ => true) 2 [1, 2, 3, 4, 5, 6] ⟨[2, 3]⟩ ⟨[4, 1]⟩ 1 =
      some (.ok [1, 2, 3, 0, 4, 5, 6]) := by decide
  rcases padded_round_trip (fun _ => true) 2 ⟨[2, 3]⟩ ⟨[4, 1]⟩ 1 (by decide) with ⟨_, _, kept, _⟩
  exact ⟨padded, (kept _ _ padded).2.2 twoRows_separate⟩

end Rknn
end DyunGu
