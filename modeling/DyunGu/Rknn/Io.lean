import DyunGu.Core.Strides
import DyunGu.Lib.Odometer
import DyunGu.Lib.Slices

namespace DyunGu
namespace Rknn

open Core Outcome Slices

/-!
# Padded tensors of the device

The device wants rows that are longer than the width.  The bytes of a tensor are
copied row by row between a buffer without padding and one with it.  Allocations
fail if `room` says so, and an index that is too large is a panic.
-/

inductive IoError where
  | backend (message : String)
  | tensor (error : TensorError)
deriving DecidableEq, Repr

/-- A failure of the backend in place of a missing value. -/
def orBackend {Value : Type} (result : Option Value) (message : String) :
    Except (Fault IoError) Value :=
  match result with
  | none => .error (.error (.backend message))
  | some value => .ok value

def checkedSub (first second : Nat) : Option Nat :=
  if second <= first then some (first - second) else none

def stridesFromWStride (shape : Shape) (layout : DataFormat) (wStride : Nat) :
    Except (Fault IoError) (Option Strides) :=
  if wStride = 0 ∨ shape.dims.length ≠ 4 then .ok none
  else
    match layout with
    | .nchw => do
        let c <- orPanic shape.dims[1]?
        let h <- orPanic shape.dims[2]?
        let w <- orPanic shape.dims[3]?
        if wStride = w then .ok none
        else do
          let ch <- orBackend (checkedMul c h)
            "NCHW outer stride overflow in strides_from_w_stride"
          let chw <- orBackend (checkedMul ch wStride)
            "NCHW outer stride overflow in strides_from_w_stride"
          let hw <- orBackend (checkedMul h wStride)
            "NCHW inner stride overflow in strides_from_w_stride"
          .ok (some ⟨[chw, hw, wStride, 1]⟩)
    | .nhwc => do
        let h <- orPanic shape.dims[1]?
        let w <- orPanic shape.dims[2]?
        let c <- orPanic shape.dims[3]?
        if wStride = w then .ok none
        else do
          let wc <- orBackend (checkedMul wStride c)
            "NHWC inner stride overflow in strides_from_w_stride"
          let hwc <- orBackend (checkedMul h wc)
            "NHWC outer stride overflow in strides_from_w_stride"
          .ok (some ⟨[hwc, wc, c, 1]⟩)
    | _ => .ok none

def validatedLayout (shape : Shape) (strides : Strides) :
    Except (Fault IoError) (List Nat × List Nat) :=
  if shape.dims = [] ∨ shape.dims.length ≠ strides.values.length then
    .error (.error (.backend (s!"stride rank {strides.values.length} does not match shape rank " ++
      toString shape.dims.length)))
  else if 0 ∈ shape.dims then .error (.error (.backend "padded layout with empty shape"))
  else do
    let innermost <- orPanic strides.values[shape.dims.length - 1]?
    if innermost ≠ 1 then
      .error (.error (.backend s!"unsupported innermost stride: {innermost}"))
    else .ok (shape.dims, strides.values)

def paddedByteLen (shape : Shape) (strides : Strides) (elemBytes : Nat) :
    Except (Fault IoError) Nat := do
  let (dims, values) <- validatedLayout shape strides
  let lastOffset <- (dims.zip values).foldlM (fun acc pair => do
    let dimMinusOne <- orBackend (checkedSub pair.1 1) "padded_byte_len: dimension underflow"
    orBackend ((checkedMul dimMinusOne pair.2).bind (checkedAdd acc ·))
      "padded_byte_len: element offset overflow") 0
  orBackend ((checkedAdd lastOffset 1).bind (checkedMul · elemBytes))
    "padded_byte_len: byte size overflow"

variable (room : Nat -> Bool)

def tryZeroedVec (len : Nat) : Except (Fault IoError) (List UInt8) :=
  if room len = false then
    .error (.error (.backend s!"rknn io buffer allocation failed for {len} bytes"))
  else .ok (List.replicate len 0)

/-- The outer dimensions, all strides and the bytes of a run. -/
structure RunPlan where
  outer : List Nat
  values : List Nat
  run : Nat
deriving DecidableEq, Repr

def logicalBytes (shape : Shape) (elemBytes : Nat) (message : String) :
    Except (Fault IoError) Nat := do
  let elements <- orFail (shape.elementCount.mapError .tensor)
  orBackend (checkedMul elements elemBytes) message

/-- What is checked before the first run. -/
def runPlan (shape : Shape) (strides : Strides) (elemBytes contiguousLen : Nat) :
    Except (Fault IoError) RunPlan := do
  let (dims, values) <- validatedLayout shape strides
  let logical <- logicalBytes shape elemBytes "for_each_run: logical byte count overflow"
  if contiguousLen ≠ logical then
    .error (.error (.backend s!"contiguous buffer size mismatch: {contiguousLen} != {logical}"))
  else do
    let innermost <- orPanic dims[dims.length - 1]?
    let run <- orBackend (checkedMul innermost elemBytes) "for_each_run: run length overflow"
    let outer := dims.take (dims.length - 1)
    if room outer.length = false then
      .error (.error (.backend "rknn for_each_run index allocation failed"))
    else .ok ⟨outer, values, run⟩

/-- The bytes before a run in the padded buffer. -/
def padOffset (values : List Nat) (elemBytes : Nat) (index : List Nat) :
    Except (Fault IoError) Nat :=
  (index.zip values).foldlM (fun acc pair => do
    let term <- orBackend ((checkedMul pair.1 pair.2).bind (checkedMul · elemBytes))
      "for_each_run: padded offset term overflow"
    orBackend (checkedAdd acc term) "for_each_run: padded offset accumulation overflow") 0

variable {State : Type}

/-- One run is visited. -/
def visitRun (plan : RunPlan) (elemBytes : Nat)
    (visit : Nat -> Nat -> Nat -> State -> Option State) (progress : Nat × State)
    (index : List Nat) : Except (Fault IoError) (Nat × State) := do
  let pad <- padOffset plan.values elemBytes index
  let visited <- orPanic (visit pad progress.1 plan.run progress.2)
  let contig <- orBackend (checkedAdd progress.1 plan.run)
    "for_each_run: contiguous offset overflow"
  return (contig, visited)

/-- The loop over the axes before `axis`, from the last of them on; without a
next index it returns. -/
def carry (outer : List Nat) : Nat -> List Nat -> Option (Option (List Nat))
  | 0, _ => some none
  | axis + 1, index => do
      let coordinate <- index[axis]?
      let next <- checkedAdd coordinate 1
      let extent <- outer[axis]?
      if next < extent then some (some (index.set axis next))
      else carry outer axis (index.set axis 0)

/-- The loop over the runs, cut off after `fuel` rounds. -/
def forEachRun (fuel : Nat) (shape : Shape) (strides : Strides) (elemBytes contiguousLen : Nat)
    (visit : Nat -> Nat -> Nat -> State -> Option State) (state : State) :
    Option (Except (Fault IoError) State) :=
  match runPlan room shape strides elemBytes contiguousLen with
  | .error fault => some (.error fault)
  | .ok plan =>
      (Odometer.iterate (visitRun plan elemBytes visit)
        (fun index => orPanic (carry plan.outer plan.outer.length index)) fuel
        (List.replicate plan.outer.length 0) (0, state)).map (Except.map Prod.snd)

def padBytes (fuel : Nat) (contiguous : List UInt8) (shape : Shape) (strides : Strides)
    (elemBytes : Nat) : Option (Except (Fault IoError) (List UInt8)) :=
  match paddedByteLen shape strides elemBytes >>= tryZeroedVec room with
  | .error fault => some (.error fault)
  | .ok padded =>
      forEachRun room fuel shape strides elemBytes contiguous.length
        (fun pad contig run padded => do
          let piece <- slice contiguous contig run
          splice padded pad piece) padded

/-- The number of the bytes without padding and the buffer for them. -/
def depadTarget (padded : List UInt8) (shape : Shape) (strides : Strides) (elemBytes : Nat) :
    Except (Fault IoError) (Nat × List UInt8) := do
  let needed <- paddedByteLen shape strides elemBytes
  if padded.length < needed then
    .error (.error (.backend s!"padded buffer too small: {padded.length} < {needed}"))
  else do
    let logical <- logicalBytes shape elemBytes "depad_bytes: logical byte count overflow"
    let contiguous <- tryZeroedVec room logical
    return (logical, contiguous)

def depadBytes (fuel : Nat) (padded : List UInt8) (shape : Shape) (strides : Strides)
    (elemBytes : Nat) : Option (Except (Fault IoError) (List UInt8)) :=
  match depadTarget room padded shape strides elemBytes with
  | .error fault => some (.error fault)
  | .ok (logical, contiguous) =>
      forEachRun room fuel shape strides elemBytes logical
        (fun pad contig run contiguous => do
          let piece <- slice padded pad run
          splice contiguous contig piece) contiguous

end Rknn
end DyunGu
