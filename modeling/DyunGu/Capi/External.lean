import DyunGu.Core.Ownership
import DyunGu.Core.Resource
import DyunGu.Lib.Outcome
import DyunGu.Lib.Machine

namespace DyunGu

open Core

/-!
# Memory that comes in through the C interface

A caller hands in a descriptor of its memory and gets a tensor or a buffer that
refers to it.  The memory is the caller's until the call has succeeded, and
then the guard's: an error that comes after the guard is made would release
memory that the caller believes to be its own.

The handles that a caller has, the calls that use them, and the tensors and
buffers that the engine keeps refer to the same storage.  What the engine does
with its tensors is left open: it may clone, convert and drop them, or hand
them out, in any order.
-/

namespace Capi

inductive DgStatus where
  | ok
  | again
  | endOfStream
  | busy
  | invalidArgument
  | nullPointer
  | invalidHandle
  | parseError
  | notBuilt
  | runtimeError
  | unsupported
  | panic
  | internalError
deriving DecidableEq, Repr

abbrev Failure := DgStatus × String

/-- The descriptor as the caller fills it in.  Addresses are words, and a
missing callback is a null function pointer. -/
structure DgExternalMemoryV2 where
  structSize : Nat
  structVersion : Nat
  fd : Int
  raw : UInt64
  domain : Int
  device : Int
  sizeBytes : Nat
  release : Option UInt64
  userData : UInt64
deriving DecidableEq, Repr

/-- The bytes of the descriptor where addresses have eight. -/
def sizeOfExternalMemory : Nat := 56

def maxShapeRank : Nat := 8

/-- An early return. -/
def refuseIf (condition : Prop) [Decidable condition] (failure : Failure) : Except Failure Unit :=
  if condition then .error failure else .ok ()

theorem not_of_refuseIf {condition : Prop} [Decidable condition] {failure : Failure}
    {result : Unit} (passed : refuseIf condition failure = .ok result) : ¬ condition := by
  intro holds
  unfold refuseIf at passed
  rw [if_pos holds] at passed
  cases passed

/-- What is found at the address of the extents, unless that is null. -/
structure DgShapeView where
  dims : Option (Nat -> Nat)
  rank : Nat

def DgShapeView.asDims (view : DgShapeView) : Except Failure (List Nat) :=
  if maxShapeRank < view.rank then
    .error (.invalidArgument, "shape rank " ++ toString view.rank ++
      " exceeds the C ABI limit of " ++ toString maxShapeRank)
  else if view.rank = 0 then .ok []
  else
    match view.dims with
    | none => .error (.nullPointer, "shape view dims is null")
    | some dims => .ok ((List.range view.rank).map dims)

def checkStructVersion (name : String) (structSize structVersion expectedSize : Nat) :
    Except Failure Unit :=
  if structVersion ≠ 0 then
    .error (.invalidArgument, name ++ ".struct_version " ++ toString structVersion ++
      " is not supported")
  else if u32Max < expectedSize then
    .error (.internalError, name ++ " expected struct size " ++ toString expectedSize ++
      " exceeds u32")
  else if structSize ≠ expectedSize then
    .error (.invalidArgument, name ++ ".struct_size mismatch: got " ++ toString structSize ++
      ", expected " ++ toString expectedSize)
  else .ok ()

/-! ## Enumerations of the interface

Their values are numbered from zero. -/

def fromDiscriminant {A : Type} (what : String) (values : List A) (value : Int) :
    Except Failure A :=
  match if 0 <= value then values[value.toNat]? else none with
  | some found => .ok found
  | none => .error (.invalidArgument, "unknown " ++ what ++ " discriminant " ++ toString value)

def dataTypeFromC : Int -> Except Failure DataType :=
  fromDiscriminant "data type"
    [⟨.uint, 8, 1⟩, ⟨.uint, 16, 1⟩, ⟨.int, 4, 1⟩, ⟨.int, 8, 1⟩, ⟨.int, 16, 1⟩, ⟨.float4, 4, 1⟩,
      ⟨.float8, 8, 1⟩, ⟨.float, 16, 1⟩, ⟨.bfloat, 16, 1⟩, ⟨.float, 32, 1⟩, ⟨.float, 64, 1⟩,
      ⟨.uint, 32, 1⟩, ⟨.int, 32, 1⟩, ⟨.uint, 64, 1⟩, ⟨.int, 64, 1⟩]

def formatFromCEnum : Int -> Except Failure DataFormat :=
  fromDiscriminant "data format"
    [.auto, .n, .nc, .nchw, .nhwc, .nc4hw, .nc8hw, .ncdhw, .oihw]

def deviceFromC : Int -> Except Failure DeviceKind :=
  fromDiscriminant "device kind" [.cpu, .intelGpu, .intelNpu, .cudaGpu, .rknnNpu, .sophonTpu]

def domainFromC : Int -> Except Failure MemoryDomain :=
  fromDiscriminant "memory domain"
    [.host, .dmaBuf, .drmPrime, .vaapiSurface, .cudaDevice, .mppBuffer, .sophonDevice,
      .opaqueDomain]

def mapCoreError : Error -> DgStatus
  | .config _ => .invalidArgument

/-! ## From a descriptor to a guard -/

/-- A descriptor that was checked. -/
structure ExternalMemory where
  device : DeviceKind
  domain : MemoryDomain
  sizeBytes : Nat
  fd : Int
  raw : UInt64
  release : Option UInt64
  userData : UInt64
deriving DecidableEq, Repr

def parseExternalMemoryDescriptor (desc : Option DgExternalMemoryV2) :
    Except Failure ExternalMemory :=
  match desc with
  | none => .error (.nullPointer, "external memory descriptor is null")
  | some desc => do
      checkStructVersion "DgExternalMemoryV2" desc.structSize desc.structVersion
        sizeOfExternalMemory
      refuseIf (0 <= desc.fd ∧ desc.raw ≠ 0) (.invalidArgument,
        "external memory descriptor has both fd and raw set; exactly one must be valid")
      refuseIf (¬ 0 <= desc.fd ∧ desc.raw = 0) (.invalidArgument,
        "external memory descriptor has neither fd nor raw set")
      let domain <- domainFromC desc.domain
      let device <- deviceFromC desc.device
      refuseIf (desc.sizeBytes = 0) (.invalidArgument, "external memory size must be non-zero")
      return ⟨device, domain, desc.sizeBytes, desc.fd, desc.raw, desc.release, desc.userData⟩

/-- What the operating system answers to a duplication. -/
structure Dup where
  answer : Int
  lastOsError : String
deriving DecidableEq, Repr

def buildExternalHandle (dup : Dup) (fd : Int) (raw : UInt64) (release : Option UInt64)
    (userData : UInt64) (guards : Guards) :
    Except Failure (ExternalHandle × ExternalDropGuard) × Guards :=
  if (0 <= fd ∧ raw ≠ 0) ∨ (¬ 0 <= fd ∧ raw = 0) then
    (.error (.invalidArgument, "external memory descriptor has invalid fd/raw combination"),
      guards)
  else if 0 <= fd then
    if dup.answer < 0 then
      (.error (.invalidArgument, "failed to duplicate external fd: " ++ dup.lastOsError), guards)
    else (.ok (.fromFd dup.answer, .new (.close dup.answer)), guards.opened dup.answer)
  else
    match release with
    | none =>
        (.error (.invalidArgument, "raw external memory requires a release callback"), guards)
    | some release => (.ok (.fromRaw raw, .new (.callback release userData)), guards)

/-- What the memory of a descriptor is owed in the end. -/
def owed (dup : Dup) (fd : Int) (release : Option UInt64) (userData : UInt64) : Option Release :=
  if 0 <= fd then if dup.answer < 0 then none else some (.close dup.answer)
  else release.map fun release => .callback release userData

/-- Either nothing has happened, or there is a guard for what is owed. -/
theorem buildExternalHandle_cases (dup : Dup) (fd : Int) (raw : UInt64)
    (release : Option UInt64) (userData : UInt64) (guards : Guards) :
    (Exists fun failure =>
      buildExternalHandle dup fd raw release userData guards = (.error failure, guards)) ∨
    Exists fun handle => Exists fun due => Exists fun duplicates =>
      buildExternalHandle dup fd raw release userData guards =
        (.ok (handle, .new due), { guards with duplicates := duplicates }) ∧
      owed dup fd release userData = some due ∧
      duplicates.Perm (due.fd?.toList ++ guards.duplicates) := by
  unfold buildExternalHandle owed
  by_cases mixed : (0 <= fd ∧ raw ≠ 0) ∨ (¬ 0 <= fd ∧ raw = 0)
  · exact Or.inl ⟨_, if_pos mixed⟩
  · rw [if_neg mixed]
    by_cases hasFd : 0 <= fd
    · rw [if_pos hasFd, if_pos hasFd]
      by_cases refused : dup.answer < 0
      · exact Or.inl ⟨_, if_pos refused⟩
      · rw [if_neg refused, if_neg refused]
        exact Or.inr ⟨_, _, _, rfl, rfl, List.Perm.refl _⟩
    · rw [if_neg hasFd, if_neg hasFd]
      cases release with
      | none => exact Or.inl ⟨_, rfl⟩
      | some release => exact Or.inr ⟨_, _, guards.duplicates, rfl, rfl, List.Perm.refl _⟩

theorem parse_fields {desc : Option DgExternalMemoryV2} {external : ExternalMemory}
    (parsed : parseExternalMemoryDescriptor desc = .ok external) :
    Exists fun given => desc = some given ∧ external.fd = given.fd ∧
      external.release = given.release ∧ external.userData = given.userData := by
  cases desc with
  | none => cases parsed
  | some given =>
      rcases Outcome.bind_ok parsed with ⟨_, _, onVersion⟩
      rcases Outcome.bind_ok onVersion with ⟨_, _, notBoth⟩
      rcases Outcome.bind_ok notBoth with ⟨_, _, one⟩
      rcases Outcome.bind_ok one with ⟨_, _, onDomain⟩
      rcases Outcome.bind_ok onDomain with ⟨_, _, onDevice⟩
      rcases Outcome.bind_ok onDevice with ⟨_, _, onSize⟩
      cases onSize
      exact ⟨given, rfl, rfl, rfl, rfl⟩

/-- The checks of a tensor, before its memory is taken over. -/
def describeTensor (policy : ResourcePolicy) (desc : Option DgExternalMemoryV2)
    (shape : DgShapeView) (dtype format : Int) : Except Failure (ExternalMemory × TensorDesc) := do
  let external <- parseExternalMemoryDescriptor desc
  let dims <- shape.asDims
  let dtype <- dataTypeFromC dtype
  let format <- formatFromCEnum format
  let tensorDesc := TensorDesc.new ⟨dims⟩ dtype format external.device
  let expected <- tensorDesc.storageBytes.mapError fun error => (.invalidArgument, error.toText)
  (policy.checkTensorBytes expected).mapError fun error => (mapCoreError error, error.toText)
  refuseIf (expected ≠ external.sizeBytes) (.invalidArgument,
    "external size " ++ toString external.sizeBytes ++ " does not match tensor size " ++
      toString expected)
  return (external, tensorDesc)

/-- The description is of a tensor of the size and the device of the memory. -/
theorem describeTensor_fits {policy : ResourcePolicy} {desc : Option DgExternalMemoryV2}
    {shape : DgShapeView} {dtype format : Int} {external : ExternalMemory}
    {tensorDesc : TensorDesc}
    (described : describeTensor policy desc shape dtype format = .ok (external, tensorDesc)) :
    parseExternalMemoryDescriptor desc = .ok external ∧
      tensorDesc.storageBytes = .ok external.sizeBytes ∧ external.device = tensorDesc.device := by
  rcases Outcome.bind_ok described with ⟨parsed, isParsed, onShape⟩
  rcases Outcome.bind_ok onShape with ⟨dims, _, onType⟩
  rcases Outcome.bind_ok onType with ⟨type, _, onFormat⟩
  rcases Outcome.bind_ok onFormat with ⟨layout, _, onBytes⟩
  rcases Outcome.bind_ok onBytes with ⟨expected, isExpected, onPolicy⟩
  rcases Outcome.bind_ok onPolicy with ⟨_, _, onSize⟩
  rcases Outcome.bind_ok onSize with ⟨_, passed, returned⟩
  cases returned
  have same : expected = external.sizeBytes := not_not.mp (not_of_refuseIf passed)
  rw [same] at isExpected
  exact ⟨isParsed, Outcome.mapError_ok isExpected, rfl⟩

/-! ## The two calls -/

/-- The handle is built, and a buffer is made of it. -/
def takeExternal (dup : Dup) (external : ExternalMemory) (storages : Storages) :
    Except Failure SharedBuffer × Storages :=
  match buildExternalHandle dup external.fd external.raw external.release external.userData
      storages.guards with
  | (.error failure, guards) => (.error failure, { storages with guards := guards })
  | (.ok (handle, guard), guards) =>
      let made := { storages with guards := guards }.fromExternal external.device external.domain
        ⟨external.sizeBytes, 1⟩ handle guard
      (.ok made.1, made.2)

/-- What is behind a handle of the caller, and what the engine keeps. -/
inductive Owned where
  | tensor (tensor : Tensor)
  | buffer (buffer : SharedBuffer)
deriving DecidableEq, Repr

def Owned.storage : Owned -> Nat
  | .tensor kept => kept.buffer.storage
  | .buffer kept => kept.storage

/-- Handles are shared between the caller, who has a pointer to them until it
frees it, and the calls that are running.  The engine keeps tensors and
buffers of its own. -/
structure Memory where
  handles : List (Shared Owned)
  pointers : List Nat
  calls : List Nat
  values : List Owned
  storages : Storages
deriving DecidableEq, Repr

namespace Memory

def empty : Memory := ⟨[], [], [], [], [], [], [], []⟩

/-- A new handle, with a pointer for the caller. -/
def intoRaw (memory : Memory) (owned : Owned) : Memory :=
  { memory with
    handles := memory.handles ++ [⟨1, owned⟩]
    pointers := memory.handles.length :: memory.pointers }

end Memory

/-- Arguments of a call, the installed policy and the answer of the operating
system; `out` says whether there is a place for the result. -/
structure ExternalCall where
  policy : ResourcePolicy
  dup : Dup
  out : Bool
  desc : Option DgExternalMemoryV2

namespace ExternalCall

def ffiResultWithOut (call : ExternalCall) (memory : Memory)
    (operation : Except Failure Nat × Memory) : Except Failure Nat × Memory :=
  if call.out then operation
  else (.error (.nullPointer, "output pointer is null"), memory)

/-- `Tensor.fromBuffer` consumes the buffer, which is dropped where it fails. -/
def dgTensorCreateExternal (call : ExternalCall) (shape : DgShapeView) (dtype format : Int)
    (memory : Memory) : Except Failure Nat × Memory :=
  call.ffiResultWithOut memory
    (match describeTensor call.policy call.desc shape dtype format with
    | .error failure => (.error failure, memory)
    | .ok (external, tensorDesc) =>
        match takeExternal call.dup external memory.storages with
        | (.error failure, storages) => (.error failure, { memory with storages := storages })
        | (.ok buffer, storages) =>
            match Tensor.fromBuffer tensorDesc buffer with
            | .error error =>
                (.error (.runtimeError, error.toText),
                  { memory with storages := storages.drop buffer.storage })
            | .ok tensor =>
                (.ok memory.handles.length,
                  { memory with storages := storages }.intoRaw (.tensor tensor)))

def dgBufferImportExternal (call : ExternalCall) (memory : Memory) : Except Failure Nat × Memory :=
  call.ffiResultWithOut memory
    (match parseExternalMemoryDescriptor call.desc with
    | .error failure => (.error failure, memory)
    | .ok external =>
        match call.policy.checkBufferBytes external.sizeBytes with
        | .error error => (.error (mapCoreError error, error.toText), memory)
        | .ok () =>
            match takeExternal call.dup external memory.storages with
            | (.error failure, storages) => (.error failure, { memory with storages := storages })
            | (.ok buffer, storages) =>
                (.ok memory.handles.length,
                  { memory with storages := storages }.intoRaw (.buffer buffer)))

/-- What the memory of the call is owed in the end. -/
def owed (call : ExternalCall) : Option Release :=
  call.desc.bind fun desc => Capi.owed call.dup desc.fd desc.release desc.userData

/-- A call has failed and nothing has happened, or it has succeeded and its
handle is the only reference to a new guard for what is owed. -/
inductive Outcome (call : ExternalCall) (memory : Memory) : Except Failure Nat × Memory -> Prop
  | failed (failure : Failure) : Outcome call memory (.error failure, memory)
  | taken (release : Release) (duplicates : List Int) (owned : Owned) (device : DeviceKind)
      (domain : MemoryDomain) (desc : BufferDesc) (external : ExternalHandle)
      (isOwed : call.owed = some release)
      (isOpen : duplicates.Perm (release.fd?.toList ++ memory.storages.guards.duplicates))
      (isStorage : owned.storage = memory.storages.cells.length) :
      Outcome call memory (.ok memory.handles.length,
        { memory with storages :=
            ({ memory.storages with
                guards := { memory.storages.guards with duplicates := duplicates } }.fromExternal
              device domain desc external (.new release)).2 }.intoRaw owned)

theorem takeExternal_cases (dup : Dup) (external : ExternalMemory) (storages : Storages) :
    (Exists fun failure => takeExternal dup external storages = (.error failure, storages)) ∨
    Exists fun release => Exists fun duplicates => Exists fun handle =>
      Capi.owed dup external.fd external.release external.userData = some release ∧
      duplicates.Perm (release.fd?.toList ++ storages.guards.duplicates) ∧
      takeExternal dup external storages =
        (.ok ⟨external.device, external.domain, ⟨external.sizeBytes, 1⟩, handle,
            storages.cells.length⟩,
          ({ storages with
              guards := { storages.guards with duplicates := duplicates } }.fromExternal
            external.device external.domain ⟨external.sizeBytes, 1⟩ handle (.new release)).2) := by
  unfold takeExternal
  rcases buildExternalHandle_cases dup external.fd external.raw external.release external.userData
    storages.guards with ⟨failure, failed⟩ | ⟨handle, release, duplicates, built, isOwed, isOpen⟩
  · rw [failed]
    exact Or.inl ⟨failure, rfl⟩
  · rw [built]
    exact Or.inr ⟨release, duplicates, handle, isOwed, isOpen, rfl⟩

theorem owed_of_parsed {call : ExternalCall} {external : ExternalMemory}
    (parsed : parseExternalMemoryDescriptor call.desc = .ok external) :
    call.owed = Capi.owed call.dup external.fd external.release external.userData := by
  rcases parse_fields parsed with ⟨given, isGiven, fd, release, userData⟩
  unfold owed
  rw [isGiven, fd, release, userData]
  rfl

theorem outcome_tensor (call : ExternalCall) (shape : DgShapeView) (dtype format : Int)
    (memory : Memory) :
    Outcome call memory (call.dgTensorCreateExternal shape dtype format memory) := by
  unfold dgTensorCreateExternal ffiResultWithOut
  split
  · split
    · exact .failed _
    · rename_i external tensorDesc described
      rcases describeTensor_fits described with ⟨parsed, size, device⟩
      rcases takeExternal_cases call.dup external memory.storages with
        ⟨failure, failed⟩ | ⟨release, duplicates, handle, isOwed, isOpen, taken⟩
      · rw [failed]
        exact .failed _
      · rw [taken]
        have fits : Tensor.fromBuffer tensorDesc ⟨external.device, external.domain,
            ⟨external.sizeBytes, 1⟩, handle, memory.storages.cells.length⟩ = .ok ⟨tensorDesc, _⟩ :=
          Tensor.fromBuffer_ok size device
        dsimp only
        rw [fits]
        exact .taken release duplicates _ _ _ _ handle
          ((owed_of_parsed parsed).trans isOwed) isOpen rfl
  · exact .failed _

theorem outcome_buffer (call : ExternalCall) (memory : Memory) :
    Outcome call memory (call.dgBufferImportExternal memory) := by
  unfold dgBufferImportExternal ffiResultWithOut
  split
  · split
    · exact .failed _
    · rename_i external parsed
      split
      · exact .failed _
      · rcases takeExternal_cases call.dup external memory.storages with
          ⟨failure, failed⟩ | ⟨release, duplicates, handle, isOwed, isOpen, taken⟩
        · rw [failed]
          exact .failed _
        · rw [taken]
          exact .taken release duplicates _ _ _ _ handle
            ((owed_of_parsed parsed).trans isOwed) isOpen rfl
  · exact .failed _

end ExternalCall

/-- One of the two calls, with all its arguments. -/
inductive Import where
  | tensor (call : ExternalCall) (shape : DgShapeView) (dtype format : Int)
  | buffer (call : ExternalCall)

namespace Import

def call : Import -> ExternalCall
  | tensor call _ _ _ => call
  | buffer call => call

def perform (entry : Import) (memory : Memory) : Except Failure Nat × Memory :=
  match entry with
  | tensor call shape dtype format => call.dgTensorCreateExternal shape dtype format memory
  | buffer call => call.dgBufferImportExternal memory

theorem outcome (entry : Import) (memory : Memory) :
    entry.call.Outcome memory (entry.perform memory) := by
  cases entry with
  | tensor call shape dtype format => exact call.outcome_tensor shape dtype format memory
  | buffer call => exact call.outcome_buffer memory

end Import

/-! ## What happens to the references

A call on a handle first adds a reference to it and drops it at its end, so a
handle can be freed while a call uses it.  A caller frees a pointer once. -/

inductive Act where
  | imports (entry : Import)
  | enter (pointer : Nat)
  | push (handle : Nat)
  | leave (handle : Nat)
  | free (pointer : Nat)
  | clone (i : Nat)
  | discard (i : Nat)
  | intoBuffer (i : Nat)
  | fromBuffer (i : Nat) (desc : TensorDesc)
  | tryIntoHostBytes (i : Nat)
  | poll (i : Nat)

namespace Memory

def dropStorage (memory : Memory) (owned : Owned) : Memory :=
  { memory with storages := memory.storages.drop owned.storage }

/-- The end of a handle drops the tensor or buffer in it. -/
def dropHandle (memory : Memory) (id : Nat) : Memory :=
  match (Shared.drop memory.handles id).2 with
  | none => { memory with handles := (Shared.drop memory.handles id).1 }
  | some owned => { memory with handles := (Shared.drop memory.handles id).1 }.dropStorage owned

def cloneStorage (memory : Memory) (owned : Owned) : Memory :=
  { memory with
    storages := memory.storages.clone owned.storage
    values := owned :: memory.values }

def take (memory : Memory) (i : Nat) : Memory :=
  { memory with values := memory.values.eraseIdx i }

def step (memory : Memory) : Act -> Option Memory
  | .imports entry => some (entry.perform memory).2
  | .enter pointer =>
      if pointer ∈ memory.pointers then
        some
          { memory with
            handles := Shared.clone memory.handles pointer
            calls := pointer :: memory.calls }
      else none
  | .push handle =>
      if handle ∈ memory.calls then
        match Shared.valueAt memory.handles handle with
        | some (.tensor tensor) => some (memory.cloneStorage (.tensor tensor))
        | _ => none
      else none
  | .leave handle =>
      if handle ∈ memory.calls then
        some ({ memory with calls := memory.calls.erase handle }.dropHandle handle)
      else none
  | .free pointer =>
      if pointer ∈ memory.pointers then
        some ({ memory with pointers := memory.pointers.erase pointer }.dropHandle pointer)
      else none
  | .clone i => memory.values[i]?.map memory.cloneStorage
  | .discard i => memory.values[i]?.map (memory.take i).dropStorage
  | .intoBuffer i =>
      match memory.values[i]? with
      | some (.tensor tensor) =>
          some { memory with values := memory.values.set i (.buffer tensor.buffer) }
      | _ => none
  | .fromBuffer i desc =>
      match memory.values[i]? with
      | some (.buffer buffer) =>
          match Tensor.fromBuffer desc buffer with
          | .ok tensor => some { memory with values := memory.values.set i (.tensor tensor) }
          | .error _ => some ((memory.take i).dropStorage (.buffer buffer))
      | _ => none
  -- the bytes are copied or moved out, and the storage is dropped
  | .tryIntoHostBytes i =>
      match memory.values[i]? with
      | some (.buffer buffer) => some ((memory.take i).dropStorage (.buffer buffer))
      | _ => none
  | .poll i =>
      match memory.values[i]? with
      | some (.tensor tensor) => some ((memory.take i).intoRaw (.tensor tensor))
      | _ => none

def machine : Machine Memory Act := ⟨step⟩

/-- The storages that tensors and buffers refer to. -/
def owners (memory : Memory) : List Nat :=
  (Shared.living memory.handles ++ memory.values).map Owned.storage

/-- All counts are right where there are some more references to handles and to
storages. -/
structure Balanced (memory : Memory) (handles storages : List Nat) : Prop where
  handles : Shared.Balanced memory.handles (handles ++ (memory.pointers ++ memory.calls))
  storages : memory.storages.Sound (storages ++ memory.owners)

def Sound (memory : Memory) : Prop := memory.Balanced [] []

theorem sound_empty : empty.Sound :=
  ⟨fun _ => rfl, fun _ => rfl, fun _ => rfl, fun _ => rfl, List.Perm.refl _⟩

namespace Balanced

variable {memory : Memory} {owned : Owned} {id i : Nat}

theorem dropStorage (balanced : memory.Balanced [] [owned.storage]) :
    (memory.dropStorage owned).Sound :=
  ⟨balanced.handles, balanced.storages.drop⟩

theorem dropHandle (balanced : memory.Balanced [id] []) : (memory.dropHandle id).Sound := by
  unfold Memory.dropHandle
  cases last : (Shared.drop memory.handles id).2 with
  | none =>
      refine ⟨balanced.handles.drop, ?_⟩
      unfold owners
      show memory.storages.Sound ((Shared.living (Shared.drop memory.handles id).1 ++ _).map _)
      rw [Shared.living_drop_none balanced.handles last]
      exact balanced.storages
  | some owned =>
      refine dropStorage ⟨balanced.handles.drop, ?_⟩
      exact balanced.storages.perm
        (((Shared.living_drop_some last).append_right memory.values).map Owned.storage)

theorem intoRaw (balanced : memory.Balanced [] [owned.storage]) : (memory.intoRaw owned).Sound := by
  refine ⟨balanced.handles.create owned, ?_⟩
  refine balanced.storages.perm ?_
  unfold owners
  show List.Perm _ ((Shared.living (memory.handles ++ [_]) ++ memory.values).map Owned.storage)
  rw [Shared.living_create, List.append_assoc]
  exact (List.perm_middle (a := owned)).symm.map Owned.storage

theorem cloneStorage (sound : memory.Sound) (owner : owned.storage ∈ memory.owners) :
    (memory.cloneStorage owned).Sound := by
  refine ⟨sound.handles, (sound.storages.clone owner).perm ?_⟩
  exact (List.perm_middle (a := owned)).symm.map Owned.storage

/-- A value that is taken out keeps its reference. -/
theorem take (sound : memory.Sound) (found : memory.values[i]? = some owned) :
    (memory.take i).Balanced [] [owned.storage] := by
  have bound := Records.length_of_found found
  have cut := List.getElem_cons_eraseIdx_perm bound
  rw [(List.getElem?_eq_some_iff.mp found).2] at cut
  refine ⟨sound.handles, sound.storages.perm ?_⟩
  unfold owners
  refine ((cut.symm.append_left (Shared.living memory.handles)).map Owned.storage).trans ?_
  exact List.perm_middle.map Owned.storage

/-- A value can be replaced by another one with its storage. -/
theorem replace {new : Owned} (sound : memory.Sound) (found : memory.values[i]? = some owned)
    (same : new.storage = owned.storage) :
    Sound { memory with values := memory.values.set i new } := by
  have storages : (memory.values.set i new).map Owned.storage =
      memory.values.map Owned.storage := by
    apply List.ext_getElem?
    intro j
    rw [List.getElem?_map, List.getElem?_map, Records.find_set found]
    by_cases here : i = j
    · rw [if_pos here, ← here, found, Option.map_some, Option.map_some, same]
    · rw [if_neg here]
  refine ⟨sound.handles, ?_⟩
  unfold owners
  rw [List.map_append, storages, ← List.map_append]
  exact sound.storages

end Balanced

/-- The value of a handle in use is alive. -/
theorem Sound.mem_owners {memory : Memory} {owned : Owned} {id : Nat} (sound : memory.Sound)
    (used : id ∈ memory.pointers ++ memory.calls)
    (value : Shared.valueAt memory.handles id = some owned) : owned.storage ∈ memory.owners := by
  rcases sound.handles.found used with ⟨cell, isFound, positive⟩
  unfold Shared.valueAt at value
  rw [isFound] at value
  apply List.mem_map_of_mem
  apply List.mem_append_left
  exact Shared.mem_living.mpr ⟨id, cell, isFound, positive, Option.some.inj value⟩

theorem Sound.perform {memory : Memory} (sound : memory.Sound) (entry : Import) :
    (entry.perform memory).2.Sound := by
  have outcome := entry.outcome memory
  generalize entry.perform memory = result at outcome
  cases outcome with
  | failed failure => exact sound
  | taken release duplicates owned device domain desc external isOwed isOpen isStorage =>
      apply Balanced.intoRaw
      refine ⟨sound.handles, ?_⟩
      rw [isStorage]
      exact sound.storages.fromExternal release isOpen device domain desc external

/-- What a step can do. -/
inductive Moves (memory : Memory) : Memory -> Prop
  | imports (entry : Import) : Moves memory (entry.perform memory).2
  | enter (pointer : Nat) (known : pointer ∈ memory.pointers) :
      Moves memory
        { memory with
          handles := Shared.clone memory.handles pointer
          calls := pointer :: memory.calls }
  | push (handle : Nat) (owned : Owned) (used : handle ∈ memory.calls)
      (value : Shared.valueAt memory.handles handle = some owned) :
      Moves memory (memory.cloneStorage owned)
  | leave (handle : Nat) (used : handle ∈ memory.calls) :
      Moves memory ({ memory with calls := memory.calls.erase handle }.dropHandle handle)
  | free (pointer : Nat) (known : pointer ∈ memory.pointers) :
      Moves memory ({ memory with pointers := memory.pointers.erase pointer }.dropHandle pointer)
  | clone (i : Nat) (owned : Owned) (found : memory.values[i]? = some owned) :
      Moves memory (memory.cloneStorage owned)
  | discard (i : Nat) (owned : Owned) (found : memory.values[i]? = some owned) :
      Moves memory ((memory.take i).dropStorage owned)
  | convert (i : Nat) (owned new : Owned) (found : memory.values[i]? = some owned)
      (same : new.storage = owned.storage) :
      Moves memory { memory with values := memory.values.set i new }
  | poll (i : Nat) (owned : Owned) (found : memory.values[i]? = some owned) :
      Moves memory ((memory.take i).intoRaw owned)

theorem moves_of_step {memory next : Memory} {act : Act} (stepped : memory.step act = some next) :
    Moves memory next := by
  cases act with
  | imports entry =>
      cases stepped
      exact .imports entry
  | enter pointer =>
      simp only [step] at stepped
      split at stepped
      · rename_i known
        cases stepped
        exact .enter pointer known
      · cases stepped
  | push handle =>
      simp only [step] at stepped
      split at stepped
      · rename_i used
        split at stepped
        · rename_i value
          cases stepped
          exact .push handle _ used value
        · cases stepped
      · cases stepped
  | leave handle =>
      simp only [step] at stepped
      split at stepped
      · rename_i used
        cases stepped
        exact .leave handle used
      · cases stepped
  | free pointer =>
      simp only [step] at stepped
      split at stepped
      · rename_i known
        cases stepped
        exact .free pointer known
      · cases stepped
  | clone i =>
      rcases Option.map_eq_some_iff.mp stepped with ⟨owned, found, rfl⟩
      exact .clone i owned found
  | discard i =>
      rcases Option.map_eq_some_iff.mp stepped with ⟨owned, found, rfl⟩
      exact .discard i owned found
  | intoBuffer i =>
      simp only [step] at stepped
      split at stepped
      · rename_i found
        cases stepped
        exact .convert i _ _ found rfl
      · cases stepped
  | fromBuffer i desc =>
      simp only [step] at stepped
      split at stepped
      · rename_i found
        split at stepped
        · rename_i made
          cases stepped
          exact .convert i _ _ found (congrArg SharedBuffer.storage (Tensor.fromBuffer_buffer made))
        · cases stepped
          exact .discard i _ found
      · cases stepped
  | tryIntoHostBytes i =>
      simp only [step] at stepped
      split at stepped
      · rename_i found
        cases stepped
        exact .discard i _ found
      · cases stepped
  | poll i =>
      simp only [step] at stepped
      split at stepped
      · rename_i found
        cases stepped
        exact .poll i _ found
      · cases stepped

theorem Sound.moves {memory next : Memory} (sound : memory.Sound) (moves : Moves memory next) :
    next.Sound := by
  cases moves with
  | imports entry => exact sound.perform entry
  | enter pointer known =>
      have used : pointer ∈ memory.pointers ++ memory.calls := List.mem_append_left _ known
      rcases sound.handles.found used with ⟨cell, isFound, positive⟩
      have middle : (pointer :: (memory.pointers ++ memory.calls)).Perm
          (memory.pointers ++ pointer :: memory.calls) := List.perm_middle.symm
      refine ⟨(sound.handles.clone used).perm middle, ?_⟩
      unfold owners
      show memory.storages.Sound ((Shared.living (Shared.clone memory.handles pointer) ++ _).map _)
      rw [Shared.living_clone isFound positive]
      exact sound.storages
  | push handle owned used value =>
      exact Balanced.cloneStorage sound (sound.mem_owners (List.mem_append_right _ used) value)
  | leave handle used =>
      apply Balanced.dropHandle
      refine ⟨sound.handles.perm ?_, sound.storages⟩
      exact ((List.perm_cons_erase used).append_left memory.pointers).trans List.perm_middle
  | free pointer known =>
      apply Balanced.dropHandle
      refine ⟨sound.handles.perm ?_, sound.storages⟩
      exact (List.perm_cons_erase known).append_right memory.calls
  | clone i owned found =>
      apply Balanced.cloneStorage sound
      exact List.mem_map_of_mem (List.mem_append_right _ (Records.mem_of_found found))
  | discard i owned found => exact (Balanced.take sound found).dropStorage
  | convert i owned new found same => exact Balanced.replace sound found same
  | poll i owned found => exact (Balanced.take sound found).intoRaw

/-- A guard keeps its number and its function. -/
theorem Moves.guard {memory next : Memory} {id : Nat} {guard : ExternalDropGuard}
    (moves : Moves memory next)
    (known : Shared.valueAt memory.storages.guards.cells id = some guard) :
    Shared.valueAt next.storages.guards.cells id = some guard := by
  have dropped : forall (other : Memory) handle, other.storages = memory.storages ->
      Shared.valueAt (other.dropHandle handle).storages.guards.cells id = some guard := by
    intro other handle same
    unfold dropHandle
    cases (Shared.drop other.handles handle).2 with
    | none =>
        show Shared.valueAt other.storages.guards.cells id = _
        rw [same]
        exact known
    | some owned =>
        show Shared.valueAt (other.storages.drop owned.storage).guards.cells id = _
        rw [Storages.valueAt_drop, same]
        exact known
  cases moves with
  | imports entry =>
      have outcome := entry.outcome memory
      generalize entry.perform memory = result at outcome
      cases outcome with
      | failed failure => exact known
      | taken => exact Shared.valueAt_create _ known
  | enter pointer isKnown => exact known
  | push handle owned used value => exact known
  | leave handle used => exact dropped _ handle rfl
  | free pointer isKnown => exact dropped _ pointer rfl
  | clone i owned found => exact known
  | discard i owned found => exact (Storages.valueAt_drop _ _ _).trans known
  | convert i owned new found same => exact known
  | poll i owned found => exact known

/-! ## Who holds the memory -/

/-- The tensors and buffers that a pointer, a call or the engine refers to. -/
def holders (memory : Memory) : List Owned :=
  (memory.pointers ++ memory.calls).filterMap (Shared.valueAt memory.handles) ++ memory.values

/-- One of them is of the storage with this guard. -/
def Holds (memory : Memory) (id : Nat) : Prop :=
  Exists fun owned => owned ∈ memory.holders ∧
    (Shared.valueAt memory.storages.cells owned.storage).map GuardedStorage.guard = some id

instance (memory : Memory) (id : Nat) : Decidable (memory.Holds id) :=
  inferInstanceAs (Decidable (Exists fun owned => owned ∈ memory.holders ∧ _ = some id))

theorem Sound.holds_iff {memory : Memory} {id : Nat} (sound : memory.Sound) :
    memory.Holds id <-> id ∈ memory.storages.guarded := by
  constructor
  · rintro ⟨owned, member, isGuard⟩
    have owner : owned.storage ∈ memory.owners := by
      rcases List.mem_append.mp member with member | member
      · rcases List.mem_filterMap.mp member with ⟨handle, used, value⟩
        exact sound.mem_owners used value
      · exact List.mem_map_of_mem (List.mem_append_right _ member)
    rcases sound.storages.balanced.found owner with ⟨cell, isFound, positive⟩
    unfold Shared.valueAt at isGuard
    rw [isFound] at isGuard
    refine List.mem_map.mpr ⟨cell.value, ?_, Option.some.inj isGuard⟩
    exact Shared.mem_living.mpr ⟨owned.storage, cell, isFound, positive, rfl⟩
  · intro member
    rcases List.mem_map.mp member with ⟨storage, alive, isGuard⟩
    rcases Shared.mem_living.mp alive with ⟨at_, cell, isFound, positive, isStorage⟩
    rcases List.mem_map.mp (sound.storages.balanced.owner_of_found isFound positive) with
      ⟨owned, isOwned, same⟩
    refine ⟨owned, ?_, ?_⟩
    · rcases List.mem_append.mp isOwned with isOwned | isOwned
      · rcases Shared.mem_living.mp isOwned with ⟨handle, shared, isHandle, used, isValue⟩
        apply List.mem_append_left
        refine List.mem_filterMap.mpr
          ⟨handle, sound.handles.owner_of_found isHandle used, ?_⟩
        unfold Shared.valueAt
        rw [isHandle, ← isValue]
        rfl
      · exact List.mem_append_right _ isOwned
    · unfold Shared.valueAt
      rw [same, isFound, ← isGuard, ← isStorage]
      rfl

theorem Sound.reachable {memory : Memory} (reachable : machine.Reachable empty memory) :
    memory.Sound :=
  machine.run_invariant Sound
    (fun _ _ _ sound stepped => sound.moves (moves_of_step stepped)) sound_empty reachable

/-- A guard that is there has run exactly if nobody holds it, in every state
that follows. -/
theorem releases_of_run {memory final : Memory} {later : List Act} {id : Nat} {release : Release}
    (sound : memory.Sound)
    (known : Shared.valueAt memory.storages.guards.cells id = some (.new release))
    (reached : machine.run memory later = some final) :
    final.storages.guards.releases id = if final.Holds id then [] else [release] := by
  have kept : final.Sound ∧
      Shared.valueAt final.storages.guards.cells id = some (.new release) :=
    machine.run_invariant
      (fun state => state.Sound ∧
        Shared.valueAt state.storages.guards.cells id = some (.new release))
      (fun _ _ _ both stepped =>
        ⟨both.1.moves (moves_of_step stepped), (moves_of_step stepped).guard both.2⟩)
      ⟨sound, known⟩ ⟨later, reached⟩
  rw [kept.1.storages.guards.releases_eq kept.2]
  by_cases held : final.Holds id
  · rw [if_pos held, if_pos (kept.1.holds_iff.mp held)]
  · rw [if_neg held, if_neg fun member => held (kept.1.holds_iff.mpr member)]
    rfl

/-- A duplicate is open for somebody who holds its guard. -/
theorem Sound.duplicate_held {memory : Memory} {fd : Int} (sound : memory.Sound)
    (isOpen : fd ∈ memory.storages.guards.duplicates) :
    Exists fun id => memory.Holds id ∧
      Shared.valueAt memory.storages.guards.cells id = some (.new (.close fd)) := by
  have closing := sound.storages.guards.closes.subset isOpen
  rcases List.mem_filterMap.mp closing with ⟨guard, alive, closes⟩
  rcases Shared.mem_living.mp alive with ⟨id, cell, isFound, positive, isGuard⟩
  have member := sound.storages.guards.balanced.owner_of_found isFound positive
  refine ⟨id, sound.holds_iff.mpr member, ?_⟩
  rcases Option.bind_eq_some_iff.mp closes with ⟨release, isRelease, isFd⟩
  have same : release = .close fd := by
    cases release with
    | callback release userData => cases isFd
    | close other =>
        cases isFd
        rfl
  unfold Shared.valueAt
  rw [isFound, Option.map_some, isGuard]
  cases guard
  rw [ExternalDropGuard.new, ← same]
  exact congrArg (fun callback => some (ExternalDropGuard.mk callback)) isRelease

/-- A call that fails has done nothing: no callback has been called and no
descriptor has been left open.  After a call that succeeds the memory is
released once, when the last pointer, call or tensor that refers to it is
gone, and not before.  A duplicated descriptor is open only as long as
somebody holds it. -/
theorem external_released_once (memory : Memory) (reachable : machine.Reachable empty memory)
    (entry : Import) :
    (forall failure, (entry.perform memory).1 = .error failure ->
      (entry.perform memory).2 = memory) ∧
    (forall pointer, (entry.perform memory).1 = .ok pointer ->
      Exists fun release => entry.call.owed = some release ∧
        (entry.perform memory).2.Holds memory.storages.guards.cells.length ∧
        forall later final, machine.run (entry.perform memory).2 later = some final ->
          final.storages.guards.releases memory.storages.guards.cells.length =
            if final.Holds memory.storages.guards.cells.length then [] else [release]) ∧
    (forall fd, fd ∈ memory.storages.guards.duplicates ->
      Exists fun id => memory.Holds id ∧
        Shared.valueAt memory.storages.guards.cells id = some (.new (.close fd))) := by
  have sound := Sound.reachable reachable
  have after := sound.perform entry
  have outcome := entry.outcome memory
  generalize entry.perform memory = result at after outcome ⊢
  cases outcome with
  | failed failure =>
      exact ⟨fun _ _ => rfl, fun _ impossible => (by cases impossible),
        fun _ isOpen => sound.duplicate_held isOpen⟩
  | taken release duplicates owned device domain desc external isOwed isOpen isStorage =>
      refine ⟨fun _ impossible => (by cases impossible), fun pointer _ => ?_,
        fun _ isOpen => sound.duplicate_held isOpen⟩
      refine ⟨release, isOwed, after.holds_iff.mpr ?_, fun later final reached => ?_⟩
      · unfold Storages.guarded
        show _ ∈ (Shared.living (memory.storages.cells ++ [_])).map GuardedStorage.guard
        rw [Shared.living_create]
        exact List.mem_map_of_mem (List.mem_append_right _ (List.mem_singleton_self _))
      · exact releases_of_run after (Shared.valueAt_created _ _) reached

/-- Memory of a graphics card, with a callback. -/
def cudaMemory : DgExternalMemoryV2 := ⟨56, 0, -1, 0x1234, 4, 3, 16, some 7, 9⟩

def cudaImport : Import :=
  .tensor ⟨ResourcePolicy.default, ⟨-1, ""⟩, true, some cudaMemory⟩ ⟨some fun _ => 2, 2⟩ 9 1

/-- The handle is pushed and freed during the call; the engine drops its tensor
last. -/
theorem cuda_released_once :
    ((machine.run (cudaImport.perform empty).2
        [.enter 0, .push 0, .free 0, .leave 0, .clone 0, .intoBuffer 0, .discard 1]).map
          fun memory => memory.storages.guards.releases 0) = some [] ∧
      ((machine.run (cudaImport.perform empty).2
        [.enter 0, .push 0, .free 0, .leave 0, .clone 0, .intoBuffer 0, .discard 1, .discard 0]).map
          fun memory => memory.storages.guards.releases 0) = some [.callback 7 9] ∧
      Exists fun release => cudaImport.call.owed = some release ∧
        (cudaImport.perform empty).2.Holds 0 ∧
        forall later final, machine.run (cudaImport.perform empty).2 later = some final ->
          final.storages.guards.releases 0 = if final.Holds 0 then [] else [release] :=
  ⟨by decide +kernel, by decide +kernel,
    (external_released_once empty (Machine.Reachable.refl machine empty) cudaImport).2.1 0
      (by decide +kernel)⟩

end Memory
end Capi
end DyunGu
