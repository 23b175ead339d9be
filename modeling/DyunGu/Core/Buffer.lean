import DyunGu.Core.Device
import DyunGu.Core.Memory

namespace DyunGu
namespace Core

/-!
# Buffers and what backs them

A buffer has a device, a memory domain, a description and a storage, which is
either host memory or memory of somebody else, with or without a copy in host
memory.  The fields are private to the constructors, each of which compares the
number of its bytes with the description, and a write keeps that number.
-/

inductive BufferError where
  | invalidArgument (message : String)
  | buffer (message : String)
  | resourceExhausted (message : String)
deriving DecidableEq, Repr

structure ExternalHandle where
  fd : Option Int
  raw : UInt64
deriving DecidableEq, Repr

namespace ExternalHandle

def none : ExternalHandle := ⟨.none, 0⟩

def fromFd (fd : Int) : ExternalHandle := ⟨some fd, 0⟩

def fromRaw (raw : UInt64) : ExternalHandle := ⟨.none, raw⟩

end ExternalHandle

inductive BufferStorage where
  | host (bytes : List UInt8)
  | external (bytes : Option (List UInt8))
deriving DecidableEq, Repr

namespace BufferStorage

/-- The bytes that can be read without staging. -/
def bytes? : BufferStorage -> Option (List UInt8)
  | host bytes => some bytes
  | external bytes => bytes

def tryReadBytes (storage : BufferStorage) (reserved : Bool) : Except BufferError (List UInt8) :=
  match storage.bytes? with
  | none =>
      .error (.buffer "external buffer is not host-mapped; call map or stage explicitly")
  | some bytes =>
      if reserved then .ok bytes else .error (.buffer "failed to allocate buffer read copy")

def writeFromSlice (storage : BufferStorage) (src : List UInt8) :
    Except BufferError BufferStorage :=
  match storage with
  | host bytes =>
      if bytes.length ≠ src.length then .error (.buffer "source and destination size differ")
      else .ok (host src)
  | external (some bytes) =>
      if bytes.length ≠ src.length then .error (.buffer "source and destination size differ")
      else .ok (external (some src))
  | external none =>
      .error (.buffer "external buffer is not host-mapped; call map or stage explicitly")

end BufferStorage

/-- What a buffer has besides that which the pool looks at. -/
structure Backing where
  device : DeviceKind
  external : ExternalHandle
  storage : BufferStorage
deriving DecidableEq, Repr

def Buffer.isHostReadable (buffer : Buffer Backing) : Bool :=
  match buffer.storage.storage with
  | .external none => false
  | _ => true

/-- `reserved` says whether there is memory for the copy. -/
def Buffer.readBytes (buffer : Buffer Backing) (reserved : Bool) :
    Except BufferError (List UInt8) := buffer.storage.storage.tryReadBytes reserved

/-- A buffer whose readable bytes are as many as its description says. -/
structure StoredBuffer where
  buffer : Buffer Backing
  sized : forall bytes, buffer.storage.storage.bytes? = some bytes ->
    bytes.length = buffer.desc.sizeBytes

namespace StoredBuffer

def len (stored : StoredBuffer) : Nat := stored.buffer.desc.sizeBytes

def device (stored : StoredBuffer) : DeviceKind := stored.buffer.storage.device

def domain (stored : StoredBuffer) : MemoryDomain := stored.buffer.domain

def ofHost (device : DeviceKind) (desc : BufferDesc) (bytes : List UInt8)
    (length : bytes.length = desc.sizeBytes) : StoredBuffer where
  buffer := ⟨.host, desc, 1, device, ExternalHandle.none, .host bytes⟩
  sized := by
    intro read isRead
    cases isRead
    exact length

def tryNewHost (device : DeviceKind) (desc : BufferDesc) (reserved : Bool) :
    Except BufferError StoredBuffer :=
  if desc.align = 0 then
    .error (.invalidArgument "buffer alignment must be non-zero")
  else if reserved = false then
    .error (.resourceExhausted s!"host allocation failed for {desc.sizeBytes} bytes")
  else .ok (ofHost device desc (List.replicate desc.sizeBytes 0) List.length_replicate)

def allocateHost (device : DeviceKind) (sizeBytes : Nat) (reserved : Bool) :
    Except BufferError StoredBuffer := tryNewHost device ⟨sizeBytes, 1⟩ reserved

def fromHostBytes (device : DeviceKind) (desc : BufferDesc) (bytes : List UInt8) :
    Except BufferError StoredBuffer :=
  if same : bytes.length = desc.sizeBytes then .ok (ofHost device desc bytes same)
  else .error (.buffer "host bytes do not match descriptor size")

def fromExternalWithHostBytes (device : DeviceKind) (domain : MemoryDomain) (desc : BufferDesc)
    (external : ExternalHandle) (bytes : List UInt8) : Except BufferError StoredBuffer :=
  if same : bytes.length = desc.sizeBytes then
    .ok
      { buffer := ⟨domain, desc, 1, device, external, .external (some bytes)⟩
        sized := by
          intro read isRead
          cases isRead
          exact same }
  else .error (.buffer "external bytes do not match descriptor size")

/-- No host memory is asked for, and nothing is checked. -/
def fromExternal (device : DeviceKind) (domain : MemoryDomain) (desc : BufferDesc)
    (external : ExternalHandle) : StoredBuffer where
  buffer := ⟨domain, desc, 1, device, external, .external none⟩
  sized := by
    intro read isRead
    cases isRead

/-- The buffer as one of `count` handles of its storage. -/
def shared (stored : StoredBuffer) (count : Nat) : StoredBuffer where
  buffer := { stored.buffer with refCount := count }
  sized := stored.sized

theorem written_length {storage after : BufferStorage} {src bytes : List UInt8}
    (written : storage.writeFromSlice src = .ok after) (isRead : after.bytes? = some bytes) :
    bytes = src := by
  unfold BufferStorage.writeFromSlice at written
  split at written
  · split at written
    · cases written
    · cases written
      exact (Option.some.inj isRead).symm
  · split at written
    · cases written
    · cases written
      exact (Option.some.inj isRead).symm
  · cases written

def writeFromSlice (stored : StoredBuffer) (src : List UInt8) : Except BufferError StoredBuffer :=
  if same : src.length = stored.buffer.desc.sizeBytes then
    match written : stored.buffer.storage.storage.writeFromSlice src with
    | .error error => .error error
    | .ok after =>
        .ok
          { buffer :=
              { stored.buffer with storage := { stored.buffer.storage with storage := after } }
            sized := by
              intro bytes isRead
              rw [written_length written isRead]
              exact same }
  else .error (.buffer "source and destination size differ")

/-- What can be read has the described length. -/
theorem length_of_readable (stored : StoredBuffer)
    (readable : stored.buffer.isHostReadable = true) :
    Exists fun bytes => stored.buffer.readBytes true = .ok bytes ∧
      bytes.length = stored.buffer.desc.sizeBytes := by
  have sized := stored.sized
  unfold Buffer.isHostReadable at readable
  unfold Buffer.readBytes BufferStorage.tryReadBytes
  cases storage : stored.buffer.storage.storage with
  | host bytes => exact ⟨bytes, rfl, sized bytes (by rw [storage]; rfl)⟩
  | external mapped =>
      cases mapped with
      | none =>
          rw [storage] at readable
          cases readable
      | some bytes => exact ⟨bytes, rfl, sized bytes (by rw [storage]; rfl)⟩

end StoredBuffer

/-- A buffer that does what a caller asks of an allocation. -/
structure Serves (device : DeviceKind) (domain : MemoryDomain) (desc : BufferDesc)
    (buffer : Buffer Backing) : Prop where
  isDesc : buffer.desc = desc
  isDevice : buffer.storage.device = device
  isDomain : buffer.domain = domain
  readable : buffer.isHostReadable = true
  length : Exists fun bytes => buffer.readBytes true = .ok bytes ∧ bytes.length = desc.sizeBytes

/-- An allocator has one device and one domain, and its answers are buffers of
these that a caller can read and write.  `allocate` is asked at some moment,
since its answers may change with the memory that is left. -/
structure Allocator where
  device : DeviceKind
  domain : MemoryDomain
  allocate : Nat -> BufferDesc -> Except BufferError StoredBuffer
  produces : forall moment desc stored, allocate moment desc = .ok stored ->
    Serves device domain desc stored.buffer

/-- `CpuAllocator`; `reserved` says when there is memory. -/
def cpuAllocator (reserved : Nat -> Bool) : Allocator where
  device := .cpu
  domain := .host
  allocate := fun moment desc =>
    if desc.align = 0 then .error (.invalidArgument "buffer alignment must be non-zero")
    else StoredBuffer.tryNewHost .cpu desc (reserved moment)
  produces := by
    intro moment desc stored made
    unfold StoredBuffer.tryNewHost at made
    split at made
    · cases made
    · split at made
      · cases made
      · cases made
        exact ⟨rfl, rfl, rfl, rfl, _, rfl, List.length_replicate⟩

end Core
end DyunGu
