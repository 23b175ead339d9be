import DyunGu.Core.PoolReuse
import DyunGu.Core.Resource
import DyunGu.Core.Strides
import DyunGu.Lib.Machine

namespace DyunGu
namespace Core

/-!
# Tensors and their reshaping

A tensor is a buffer with a description.  The constructors compare the size of
the buffer with that of the description, and a reshape changes the description
only, which it does in place.
-/

open Strided

/-- What the construction of a tensor can fail with. -/
inductive StorageError where
  | tensor (error : TensorError)
  | memory (error : MemoryError BufferError)
  | limit (error : Error)
deriving DecidableEq, Repr

/-- A device at some moment.  A buffer that it allocates has the size that was
asked for. -/
structure Device where
  alloc : BufferDesc -> Except (MemoryError BufferError) (Buffer Backing)
  sized : forall desc buffer, alloc desc = .ok buffer -> buffer.desc.sizeBytes = desc.sizeBytes

/-- A device whose pool has been used for some calls, such as `CpuDevice`. -/
def Device.pooled (config : MemoryPoolConfig) (allocator : Allocator)
    (calls : List MemoryPool.PoolCall) (moment : Nat) : Device where
  alloc := fun desc =>
    MemoryPool.allocate allocator (MemoryPool.cacheAfter config allocator calls) desc moment
  sized := fun _ _ allocated => congrArg BufferDesc.sizeBytes (MemoryPool.allocate_desc allocated)

def Buffer.len (buffer : Buffer Backing) : Nat := buffer.desc.sizeBytes

/-- A tensor, with its buffer as it is to the pool. -/
structure BackedTensor where
  desc : TensorDesc
  buffer : Buffer Backing
deriving DecidableEq, Repr

namespace BackedTensor

def allocate (device : Device) (desc : TensorDesc) : Except StorageError BackedTensor := do
  let sizeBytes <- desc.storageBytes.mapError .tensor
  let buffer <- (device.alloc ⟨sizeBytes, 1⟩).mapError .memory
  if buffer.storage.device ≠ desc.device then
    .error (.tensor (.tensor "allocated buffer device does not match tensor device"))
  else .ok ⟨desc, buffer⟩

/-- The limit is looked at before the device is asked. -/
def allocateWithPolicy (device : Device) (desc : TensorDesc) (policy : ResourcePolicy) :
    Except StorageError BackedTensor := do
  let bytes <- desc.storageBytes.mapError .tensor
  (policy.checkTensorBytes bytes).mapError .limit
  allocate device desc

def fromBuffer (desc : TensorDesc) (buffer : Buffer Backing) : Except StorageError BackedTensor := do
  let sizeBytes <- desc.storageBytes.mapError .tensor
  if buffer.len ≠ sizeBytes then
    .error (.tensor (.tensor "buffer size does not match tensor descriptor"))
  else if buffer.storage.device ≠ desc.device then
    .error (.tensor (.tensor "buffer device does not match tensor descriptor"))
  else .ok ⟨desc, buffer⟩

/-- What is checked before the description changes. -/
def reshapeChecks (tensor : BackedTensor) (shape : Shape) : Except TensorError Unit := do
  let oldElements <- tensor.desc.shape.elementCount
  let newElements <- shape.elementCount
  if oldElements ≠ newElements then
    .error (.shape "reshape must preserve logical element count")
  else
    match tensor.desc.strides with
    | none => .ok ()
    | some strides => do
        let contiguous <- strides.isContiguousFor tensor.desc.shape
        if contiguous then .ok ()
        else .error (.shape "cannot reshape a tensor with non-contiguous strides")

/-- The shape is written before the strides are computed. -/
def reshape (tensor : BackedTensor) (shape : Shape) : BackedTensor × Except TensorError Unit :=
  match tensor.reshapeChecks shape with
  | .error error => (tensor, .error error)
  | .ok () =>
      let shaped := { tensor with desc := { tensor.desc with shape := shape } }
      match shape.contiguousStrides with
      | .error error => (shaped, .error error)
      | .ok strides =>
          ({ shaped with desc := { shaped.desc with strides := some strides } }, .ok ())

/-- Reshapes that succeed. -/
def reshaping : Machine BackedTensor Shape where
  step := fun tensor shape =>
    match tensor.reshape shape with
    | (reshaped, .ok ()) => some reshaped
    | (_, .error _) => none

/-! ## What the constructors and a reshape do -/

/-- The buffer has the size of the description. -/
def Stored (tensor : BackedTensor) : Prop := tensor.desc.storageBytes = .ok tensor.buffer.len

/-- One of the constructors returned the tensor. -/
inductive Built (tensor : BackedTensor) : Prop where
  | allocated (device : Device) (desc : TensorDesc) (made : allocate device desc = .ok tensor)
  | limited (device : Device) (desc : TensorDesc) (policy : ResourcePolicy)
      (made : allocateWithPolicy device desc policy = .ok tensor)
  | given (desc : TensorDesc) (buffer : Buffer Backing)
      (made : fromBuffer desc buffer = .ok tensor)

theorem allocate_stored {device : Device} {desc : TensorDesc} {tensor : BackedTensor}
    (made : allocate device desc = .ok tensor) : tensor.Stored := by
  rcases Outcome.bind_iff.mp made with ⟨sizeBytes, isSize, made⟩
  rcases Outcome.bind_iff.mp made with ⟨buffer, allocated, made⟩
  split at made
  · cases made
  · cases made
    have isLen := device.sized _ _ (Outcome.mapError_ok allocated)
    exact (Outcome.mapError_ok isSize).trans (congrArg Except.ok isLen.symm)

theorem fromBuffer_stored {desc : TensorDesc} {buffer : Buffer Backing} {tensor : BackedTensor}
    (made : fromBuffer desc buffer = .ok tensor) : tensor.Stored := by
  rcases Outcome.bind_iff.mp made with ⟨sizeBytes, isSize, made⟩
  split at made
  · cases made
  · rename_i same
    split at made
    · cases made
    · cases made
      exact (Outcome.mapError_ok isSize).trans (congrArg Except.ok (not_not.mp same).symm)

theorem Built.stored {tensor : BackedTensor} (built : Built tensor) : tensor.Stored := by
  cases built with
  | allocated device desc made => exact allocate_stored made
  | limited device desc policy made =>
      rcases Outcome.bind_iff.mp made with ⟨_, _, made⟩
      rcases Outcome.bind_iff.mp made with ⟨_, _, made⟩
      exact allocate_stored made
  | given desc buffer made => exact fromBuffer_stored made

/-- The counts agree, and explicit strides are contiguous. -/
structure Reshapable (tensor : BackedTensor) (shape : Shape) : Prop where
  counts : Exists fun count =>
    tensor.desc.shape.elementCount = .ok count ∧ shape.elementCount = .ok count
  contiguous : forall strides, tensor.desc.strides = some strides ->
    strides.isContiguousFor tensor.desc.shape = .ok true

theorem reshapeChecks_eq_ok {tensor : BackedTensor} {shape : Shape} :
    tensor.reshapeChecks shape = .ok () <-> tensor.Reshapable shape := by
  constructor
  · intro passed
    rcases Outcome.bind_iff.mp passed with ⟨oldElements, isOld, passed⟩
    rcases Outcome.bind_iff.mp passed with ⟨newElements, isNew, passed⟩
    split at passed
    · cases passed
    · rename_i same
      rw [← not_not.mp same] at isNew
      refine ⟨⟨oldElements, isOld, isNew⟩, ?_⟩
      intro strides isStrided
      rw [isStrided] at passed
      rcases Outcome.bind_iff.mp passed with ⟨contiguous, isContiguous, passed⟩
      cases contiguous with
      | false => cases passed
      | true => exact isContiguous
  · rintro ⟨⟨count, isOld, isNew⟩, contiguous⟩
    refine Outcome.bind_eq_ok isOld (Outcome.bind_eq_ok isNew ?_)
    rw [if_neg (not_not.mpr rfl)]
    cases isStrided : tensor.desc.strides with
    | none => rfl
    | some strides => exact Outcome.bind_eq_ok (contiguous strides isStrided) rfl

/-- What a reshape does to a tensor that passes its checks. -/
theorem reshape_of_reshapable {tensor : BackedTensor} {shape : Shape}
    (reshapable : tensor.Reshapable shape) :
    tensor.reshape shape =
      match shape.contiguousStrides with
      | .error error => ({ tensor with desc := { tensor.desc with shape := shape } }, .error error)
      | .ok strides =>
          ({ tensor with desc := { tensor.desc with shape := shape, strides := some strides } },
            .ok ()) := by
  unfold reshape
  rw [reshapeChecks_eq_ok.mpr reshapable]

theorem reshape_of_not_reshapable {tensor : BackedTensor} {shape : Shape}
    (refused : ¬ tensor.Reshapable shape) :
    Exists fun error => tensor.reshape shape = (tensor, .error error) := by
  unfold reshape
  cases checked : tensor.reshapeChecks shape with
  | error error => exact ⟨error, rfl⟩
  | ok passed => exact absurd (reshapeChecks_eq_ok.mp checked) refused

theorem reshape_of_fit {tensor : BackedTensor} {shape : Shape}
    (reshapable : tensor.Reshapable shape) (fit : TrailingFit shape.dims) :
    tensor.reshape shape =
      ({ tensor with
        desc := { tensor.desc with shape := shape, strides := some ⟨rowMajor shape.dims⟩ } },
        .ok ()) := by
  rw [reshape_of_reshapable reshapable, Shape.contiguousStrides, Strides.contiguousFor_of_fit fit]

theorem reshape_of_not_fit {tensor : BackedTensor} {shape : Shape}
    (reshapable : tensor.Reshapable shape) (overflows : ¬ TrailingFit shape.dims) :
    tensor.reshape shape =
      ({ tensor with desc := { tensor.desc with shape := shape } },
        .error (.shape "contiguous stride overflow")) := by
  rw [reshape_of_reshapable reshapable, Shape.contiguousStrides,
    Strides.contiguousFor_of_not_fit overflows]

/-- A step of the machine passes the checks, and the trailing products of its
shape fit. -/
theorem reshaping_step {tensor next : BackedTensor} {shape : Shape}
    (stepped : reshaping.step tensor shape = some next) :
    tensor.Reshapable shape ∧
      next = { tensor with
        desc := { tensor.desc with shape := shape, strides := some ⟨rowMajor shape.dims⟩ } } := by
  change (match tensor.reshape shape with
    | (reshaped, .ok ()) => some reshaped
    | (_, .error _) => none) = some next at stepped
  by_cases reshapable : tensor.Reshapable shape
  · by_cases fit : TrailingFit shape.dims
    · rw [reshape_of_fit reshapable fit] at stepped
      exact ⟨reshapable, (Option.some.inj stepped).symm⟩
    · rw [reshape_of_not_fit reshapable fit] at stepped
      cases stepped
  · rcases reshape_of_not_reshapable reshapable with ⟨error, refused⟩
    rw [refused] at stepped
    cases stepped

/-! ## The storage stays that of the description -/

/-- Contiguous strides, explicit or not, store as many elements as there
are. -/
theorem storageBytes_of_contiguous {desc : TensorDesc} {count : Nat}
    (counted : desc.shape.elementCount = .ok count)
    (contiguous : forall strides, desc.strides = some strides ->
      strides = ⟨rowMajor desc.shape.dims⟩) :
    desc.storageBytes = desc.dtype.storageBytesForElements count := by
  unfold TensorDesc.storageBytes
  cases isStrided : desc.strides with
  | none =>
      show (desc.shape.elementCount >>= _) = _
      rw [counted]
      rfl
  | some strides =>
      rw [contiguous strides isStrided]
      show (Strides.physicalElementCount _ desc.shape >>= _) = _
      rw [Strides.physicalElementCount_rowMajor counted]
      rfl

theorem Reshapable.rowMajor {tensor : BackedTensor} {shape : Shape}
    (reshapable : tensor.Reshapable shape) (strides : Strides)
    (isStrided : tensor.desc.strides = some strides) :
    strides = ⟨Strided.rowMajor tensor.desc.shape.dims⟩ := by
  rcases Outcome.bind_iff.mp (reshapable.contiguous strides isStrided) with
    ⟨contiguous, computed, same⟩
  rcases Strides.contiguousFor_eq_ok.mp computed with ⟨_, rfl⟩
  cases strides
  exact congrArg Strides.mk (of_decide_eq_true (Except.ok.inj same))

/-- A reshape keeps the size of the storage and the number of the elements. -/
theorem reshaping_stored {tensor next : BackedTensor} {shape : Shape} (stored : tensor.Stored)
    (stepped : reshaping.step tensor shape = some next) :
    next.Stored ∧ next.desc.shape.elementCount = tensor.desc.shape.elementCount := by
  rcases reshaping_step stepped with ⟨reshapable, rfl⟩
  rcases reshapable.counts with ⟨count, isOld, isNew⟩
  have before := storageBytes_of_contiguous isOld reshapable.rowMajor
  constructor
  · refine (storageBytes_of_contiguous isNew ?_).trans (before.symm.trans stored)
    intro strides isStrided
    exact (Option.some.inj isStrided).symm
  · exact isNew.trans isOld.symm

/-- A tensor has the storage of its description, from its construction on and
through any reshapes that succeed, which also keep the number of its
elements. -/
theorem built_reshaped_stored (tensor final : BackedTensor) (shapes : List Shape)
    (built : Built tensor) (reshaped : reshaping.run tensor shapes = some final) :
    final.desc.storageBytes = .ok final.buffer.len ∧
      final.desc.shape.elementCount = tensor.desc.shape.elementCount := by
  refine reshaping.run_invariant
    (fun state => state.Stored ∧
      state.desc.shape.elementCount = tensor.desc.shape.elementCount) ?_
    ⟨built.stored, rfl⟩ ⟨shapes, reshaped⟩
  rintro state shape next ⟨stored, sameCount⟩ stepped
  rcases reshaping_stored stored stepped with ⟨nextStored, nextCount⟩
  exact ⟨nextStored, nextCount.trans sameCount⟩

def hostBuffer (sizeBytes : Nat) : Buffer Backing :=
  (StoredBuffer.ofHost .cpu ⟨sizeBytes, 1⟩ (List.replicate sizeBytes 0) List.length_replicate).buffer

/-- Nine elements of four bits in five bytes. -/
def nineNibbles : BackedTensor :=
  ⟨TensorDesc.new ⟨[3, 3]⟩ ⟨.int, 4, 1⟩ .auto .cpu, hostBuffer 5⟩

theorem nineNibbles_reshaped :
    Exists fun final => reshaping.run nineNibbles [⟨[9]⟩, ⟨[1, 9, 1]⟩] = some final ∧
      final.desc.storageBytes = .ok final.buffer.len ∧
        final.desc.shape.elementCount = nineNibbles.desc.shape.elementCount := by
  let final : BackedTensor := ⟨⟨⟨[1, 9, 1]⟩, some ⟨[9, 1, 1]⟩, ⟨.int, 4, 1⟩, .auto, .cpu⟩, hostBuffer 5⟩
  have reshaped : reshaping.run nineNibbles [⟨[9]⟩, ⟨[1, 9, 1]⟩] = some final := by decide
  refine ⟨final, reshaped, ?_⟩
  refine built_reshaped_stored nineNibbles final [⟨[9]⟩, ⟨[1, 9, 1]⟩] ?_ reshaped
  exact Built.allocated
    (Device.pooled MemoryPoolConfig.default MemoryPool.plenty [] 0) nineNibbles.desc (by decide)

/-! ## A reshape that fails -/

/-- A failed reshape leaves the tensor as it was exactly if it fails in its
checks, or the strides of the shape can be computed, or the shape is the one
that the tensor has. -/
theorem reshape_atomic (tensor : BackedTensor) (shape : Shape) :
    (forall error, (tensor.reshape shape).2 = .error error -> (tensor.reshape shape).1 = tensor) <->
      ¬ tensor.Reshapable shape ∨ TrailingFit shape.dims ∨ shape = tensor.desc.shape := by
  by_cases reshapable : tensor.Reshapable shape
  · by_cases fit : TrailingFit shape.dims
    · rw [reshape_of_fit reshapable fit]
      constructor
      · intro _
        exact Or.inr (Or.inl fit)
      · rintro _ error ⟨⟩
    · rw [reshape_of_not_fit reshapable fit]
      constructor
      · intro unchanged
        refine Or.inr (Or.inr ?_)
        exact congrArg (fun tensor => tensor.desc.shape) (unchanged _ rfl)
      · intro either error _
        rw [(either.resolve_left (not_not.mpr reshapable)).resolve_left fit]
  · rcases reshape_of_not_reshapable reshapable with ⟨error, refused⟩
    rw [refused]
    exact ⟨fun _ => Or.inl reshapable, fun _ _ _ => rfl⟩

def emptyTensor : BackedTensor := ⟨TensorDesc.new ⟨[0]⟩ ⟨.uint, 8, 1⟩ .auto .cpu, hostBuffer 0⟩

/-- The empty tensor gets the shape of a reshape that fails. -/
theorem emptyTensor_reshape :
    fromBuffer emptyTensor.desc emptyTensor.buffer = .ok emptyTensor ∧
    (emptyTensor.reshape ⟨[0, 2 ^ 63, 4]⟩).2 = .error (.shape "contiguous stride overflow") ∧
    (emptyTensor.reshape ⟨[0, 2 ^ 63, 4]⟩).1.desc.shape = ⟨[0, 2 ^ 63, 4]⟩ ∧
    (emptyTensor.reshape ⟨[0, 2 ^ 63, 4]⟩).1 ≠ emptyTensor := by
  decide

end BackedTensor
end Core
end DyunGu
