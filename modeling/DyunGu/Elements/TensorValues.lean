import DyunGu.Core.Reshape
import DyunGu.Elements.Letterbox

namespace DyunGu
namespace Elements

open Core Outcome

/-!
# The values of a tensor

The algorithm elements read all bytes of the buffer of a tensor as numbers.  How
many these are follows from the physical size of the tensor, and not from its
shape alone.
-/

/-- The floating-point operations that the algorithm elements need. -/
structure SampleArith (F : Type) extends FloatArith F where
  zero : F
  ofByte : UInt8 -> F
  /-- A number of the four bytes that represent it. -/
  ofBytes : List UInt8 -> F
  toBytes : F -> List UInt8

/-- What an algorithm element fails with. -/
inductive AlgorithmError where
  | graph (error : Graph.Error)
  | storage (error : StorageError)
  | buffer (error : BufferError)
deriving DecidableEq, Repr

def u8 : DataType := ⟨.uint, 8, 1⟩

def f32 : DataType := ⟨.float, 32, 1⟩

def typeCodeName : TypeCode -> String
  | .uint => "Uint"
  | .int => "Int"
  | .float => "Float"
  | .bfloat => "Bfloat"
  | .float8 => "Float8"
  | .float4 => "Float4"
  | .opaqueHandle => "OpaqueHandle"

def dtypeText (dtype : DataType) : String :=
  "DataType \x7b code: " ++ typeCodeName dtype.code ++ ", bits: " ++ toString dtype.bits ++
    ", lanes: " ++ toString dtype.lanes ++ " \x7d"

def chunksExact {Item : Type} (size : Nat) (items : List Item) : List (List Item) :=
  (List.range (items.length / size)).map fun index => (items.drop (index * size)).take size

variable {F : Type}

def checkHostReadable (tensor : BackedTensor) : Except AlgorithmError Unit :=
  if tensor.buffer.isHostReadable = false then
    .error (.graph (.core
      "unsupported: tensor buffer is not host-readable; staging required"))
  else .ok ()

def readBuffer (arith : SampleArith F) (tensor : BackedTensor) :
    Except AlgorithmError (List UInt8) :=
  (tensor.buffer.readBytes (arith.room tensor.buffer.len)).mapError .buffer

def f32Values (arith : SampleArith F) (tensor : BackedTensor) : Except AlgorithmError (List F) := do
  checkHostReadable tensor
  let bytes <- readBuffer arith tensor
  if bytes.length % 4 ≠ 0 then .error (.graph (.runtime "f32 tensor has partial element"))
  else if arith.room (bytes.length / 4) = false then
    .error (.graph (.runtime "extras f32_values allocation failed"))
  else
    let values := (chunksExact 4 bytes).map arith.ofBytes
    if values.all arith.isFinite = false then
      .error (.graph (.badFrame "algorithm"
        "tensor contains non-finite floating point values"))
    else .ok values

def tensorValues (arith : SampleArith F) (tensor : BackedTensor) :
    Except AlgorithmError (List F) := do
  checkHostReadable tensor
  if tensor.desc.dtype = u8 then do
    let bytes <- readBuffer arith tensor
    if arith.room bytes.length = false then
      .error (.graph (.runtime "extras tensor_values u8 allocation failed"))
    else .ok (bytes.map arith.ofByte)
  else if tensor.desc.dtype = f32 then f32Values arith tensor
  else
    .error (.graph (.config ("algorithm elements support only u8/f32 tensors, got " ++
      dtypeText tensor.desc.dtype)))

/-! ## How many values there are -/

/-- A buffer is read as it is stored. -/
theorem readBuffer_length {arith : SampleArith F} {tensor : BackedTensor} {stored : StoredBuffer}
    {bytes : List UInt8} (same : stored.buffer = tensor.buffer)
    (read : readBuffer arith tensor = .ok bytes) : bytes.length = tensor.buffer.len := by
  have read := mapError_ok read
  rw [Buffer.readBytes, BufferStorage.tryReadBytes] at read
  split at read
  · cases read
  · rename_i held isHeld
    split at read
    · cases read
      rw [← same] at isHeld ⊢
      exact stored.sized bytes isHeld
    · cases read

theorem f32Values_length {arith : SampleArith F} {tensor : BackedTensor} {values : List F}
    (read : f32Values arith tensor = .ok values) : Exists fun bytes =>
      readBuffer arith tensor = .ok bytes ∧ bytes.length % 4 = 0 ∧
        values.length = bytes.length / 4 := by
  rcases bind_ok read with ⟨_, _, read⟩
  rcases bind_ok read with ⟨bytes, isBytes, read⟩
  split at read
  · cases read
  · rename_i whole
    split at read
    · cases read
    · dsimp only at read
      split at read
      · cases read
      · cases read
        refine ⟨bytes, isBytes, not_not.mp whole, ?_⟩
        rw [List.length_map, chunksExact, List.length_map, List.length_range]

theorem storageBytes_ok {dtype : DataType} {count size : Nat}
    (isSize : dtype.storageBytesForElements count = .ok size) :
    dtype.sizeInBits * count <= usizeMax ∧ size = (dtype.sizeInBits * count + 7) / 8 := by
  rcases bind_ok isSize with ⟨bits, isBits, isSize⟩
  cases isSize
  by_cases fits : dtype.sizeInBits * count <= usizeMax
  · rw [checkedMul_of_le fits] at isBits
    cases isBits
    exact ⟨fits, rfl⟩
  · rw [checkedMul_of_lt (Nat.lt_of_not_le fits)] at isBits
    cases isBits

/-- A tensor that is read has as many values as elements are stored. -/
theorem tensorValues_length {arith : SampleArith F} {tensor : BackedTensor} {stored : StoredBuffer}
    {values : List F} (built : tensor.Stored) (same : stored.buffer = tensor.buffer)
    (read : tensorValues arith tensor = .ok values) :
    tensor.desc.physicalElements = .ok values.length ∧ values.length <= usizeMax := by
  rw [BackedTensor.Stored, TensorDesc.storageBytes_eq] at built
  rcases bind_ok built with ⟨count, isCount, isSize⟩
  rcases bind_ok read with ⟨_, _, read⟩
  rcases storageBytes_ok isSize with ⟨fits, isLen⟩
  have counted : values.length = count ∧ count <= usizeMax := by
    split at read
    · rename_i isU8
      rcases bind_ok read with ⟨bytes, isBytes, read⟩
      split at read
      · cases read
      · cases read
        have bits : tensor.desc.dtype.sizeInBits = 8 := congrArg DataType.sizeInBits isU8
        rw [bits] at fits isLen
        rw [List.length_map, readBuffer_length same isBytes, isLen]
        omega
    · split at read
      · rename_i isF32
        rcases f32Values_length read with ⟨bytes, isBytes, _, length⟩
        have bits : tensor.desc.dtype.sizeInBits = 32 := congrArg DataType.sizeInBits isF32
        rw [bits] at fits isLen
        rw [length, readBuffer_length same isBytes, isLen]
        omega
      · cases read
  rw [counted.1]
  exact ⟨isCount, counted.2⟩

end Elements
end DyunGu
