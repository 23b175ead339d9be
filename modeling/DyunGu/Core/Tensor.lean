import DyunGu.Core.DataType
import DyunGu.Core.Device
import DyunGu.Core.Memory

namespace DyunGu
namespace Core

/-!
# Tensor descriptions and their sizes

The number of bytes that a tensor takes follows from its shape, its strides and
its data type.  Sizes are machine words, and every product and sum is checked.
-/

/-- Of the error categories of the core crate, those that a tensor raises. -/
inductive TensorError where
  | invalidArgument (message : String)
  | shape (message : String)
  | tensor (message : String)
deriving DecidableEq, Repr

def TensorError.toText : TensorError -> String
  | .invalidArgument message => "invalid argument: " ++ message
  | .shape message => "shape error: " ++ message
  | .tensor message => "tensor error: " ++ message

def checkedMul (first second : Nat) : Option Nat :=
  if first * second <= usizeMax then some (first * second) else none

def checkedAdd (first second : Nat) : Option Nat :=
  if first + second <= usizeMax then some (first + second) else none

theorem checkedAdd_eq_some {first second sum : Nat} :
    checkedAdd first second = some sum <-> sum = first + second ∧ first + second <= usizeMax := by
  unfold checkedAdd
  split
  · rename_i fits
    exact ⟨fun same => ⟨(Option.some.inj same).symm, fits⟩, fun same => congrArg some same.1.symm⟩
  · rename_i large
    exact ⟨nofun, fun same => absurd same.2 large⟩

theorem checkedMul_eq_some {first second product : Nat} :
    checkedMul first second = some product <->
      product = first * second ∧ first * second <= usizeMax := by
  unfold checkedMul
  split
  · rename_i fits
    exact ⟨fun same => ⟨(Option.some.inj same).symm, fits⟩, fun same => congrArg some same.1.symm⟩
  · rename_i large
    exact ⟨nofun, fun same => absurd same.2 large⟩

/-- An error in place of a missing number. -/
def orElseError {R : Type} (result : Option R) (error : TensorError) : Except TensorError R :=
  match result with
  | none => .error error
  | some value => .ok value

namespace DataType

def sizeInBits (dtype : DataType) : Nat := dtype.bits.toNat * dtype.lanes.toNat

def storageBytesForElements (dtype : DataType) (elements : Nat) : Except TensorError Nat := do
  let totalBits <- orElseError (checkedMul dtype.sizeInBits elements)
    (.invalidArgument "datatype size overflow")
  return (totalBits + 7) / 8

end DataType

/-- Semantic tensor layout tags. -/
inductive DataFormat where
  | auto
  | n
  | nc
  | nchw
  | nhwc
  | nc4hw
  | nc8hw
  | ncdhw
  | oihw
deriving DecidableEq, Repr

structure Shape where
  dims : List Nat
deriving DecidableEq, Repr

def Shape.elementCount (shape : Shape) : Except TensorError Nat :=
  shape.dims.foldlM (fun total dim =>
    orElseError (checkedMul total dim) (.shape "shape element count overflow")) 1

structure Strides where
  values : List Nat
deriving DecidableEq, Repr

/-- One more than the largest offset of an element. -/
def Strides.physicalElementCount (strides : Strides) (shape : Shape) : Except TensorError Nat := do
  if strides.values.length ≠ shape.dims.length then
    throw (.shape "stride rank does not match shape rank")
  if 0 ∈ shape.dims then
    return 0
  if shape.dims = [] then
    return 1
  let maxIndex <- (shape.dims.zip strides.values).foldlM (fun maxIndex pair => do
    if pair.2 = 0 then
      throw (.shape "stride must be non-zero")
    let offset <- orElseError (checkedMul (pair.1 - 1) pair.2)
      (.shape "stride physical offset overflow")
    orElseError (checkedAdd maxIndex offset) (.shape "physical element count overflow")) 0
  orElseError (checkedAdd maxIndex 1) (.shape "physical element count overflow")

/-- A description without its name and its quantization. -/
structure TensorDesc where
  shape : Shape
  strides : Option Strides
  dtype : DataType
  format : DataFormat
  device : DeviceKind
deriving DecidableEq, Repr

namespace TensorDesc

def new (shape : Shape) (dtype : DataType) (format : DataFormat) (device : DeviceKind) :
    TensorDesc := ⟨shape, none, dtype, format, device⟩

def storageBytes (desc : TensorDesc) : Except TensorError Nat := do
  let physicalElements <- match desc.strides with
    | some strides => strides.physicalElementCount desc.shape
    | none => desc.shape.elementCount
  desc.dtype.storageBytesForElements physicalElements

/-- How many elements are stored. -/
def physicalElements (desc : TensorDesc) : Except TensorError Nat :=
  match desc.strides with
  | some strides => strides.physicalElementCount desc.shape
  | none => desc.shape.elementCount

theorem storageBytes_eq (desc : TensorDesc) :
    desc.storageBytes = desc.physicalElements >>= desc.dtype.storageBytesForElements := by
  unfold storageBytes physicalElements
  cases desc.strides <;> rfl

-- nine elements of four bits take five bytes
example : (new ⟨[3, 3]⟩ ⟨.int, 4, 1⟩ .auto .cpu).storageBytes = .ok 5 := by
  decide

end TensorDesc
end Core
end DyunGu
