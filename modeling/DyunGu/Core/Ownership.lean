import DyunGu.Core.Buffer
import DyunGu.Core.Tensor
import DyunGu.Lib.Shared

namespace DyunGu
namespace Core

/-!
# Who owns imported memory

An imported buffer refers to a shared storage, the storage to a shared guard,
and the guard has what is to be done when nobody refers to it any more: a call
of the function that came with the memory, or the close of the descriptor that
was duplicated for it.  Dropping a reference destroys what it was the last
reference to, and this drops the references that the destroyed value had.
-/

/-- What a guard does at its end.  Functions and what is passed to them are
addresses. -/
inductive Release where
  | callback (release userData : UInt64)
  | close (fd : Int)
deriving DecidableEq, Repr

def Release.fd? : Release -> Option Int
  | .callback _ _ => none
  | .close fd => some fd

structure ExternalDropGuard where
  callback : Option Release
deriving DecidableEq, Repr

def ExternalDropGuard.new (release : Release) : ExternalDropGuard := ⟨some release⟩

/-- The guards, the duplicated descriptors that are open, and what the guards
have done so far, each with its number. -/
structure Guards where
  cells : List (Shared ExternalDropGuard)
  duplicates : List Int
  released : List (Nat × Release)
deriving DecidableEq, Repr

namespace Guards

/-- A descriptor was duplicated. -/
def opened (guards : Guards) (fd : Int) : Guards :=
  { guards with duplicates := fd :: guards.duplicates }

def create (guards : Guards) (guard : ExternalDropGuard) : Guards :=
  { guards with cells := guards.cells ++ [⟨1, guard⟩] }

def perform (guards : Guards) (id : Nat) : Release -> Guards
  | .callback release userData =>
      { guards with released := guards.released ++ [(id, .callback release userData)] }
  | .close fd =>
      { guards with
        duplicates := guards.duplicates.erase fd
        released := guards.released ++ [(id, .close fd)] }

/-- The end of a guard takes its function and runs it. -/
def destroy (guards : Guards) (id : Nat) (guard : ExternalDropGuard) : Guards :=
  match guard.callback with
  | none => guards
  | some release => guards.perform id release

def drop (guards : Guards) (id : Nat) : Guards :=
  match (Shared.drop guards.cells id).2 with
  | none => { guards with cells := (Shared.drop guards.cells id).1 }
  | some guard => { guards with cells := (Shared.drop guards.cells id).1 }.destroy id guard

/-- What one guard has done. -/
def releases (guards : Guards) (id : Nat) : List Release :=
  (guards.released.filter fun entry => decide (entry.1 = id)).map Prod.snd

/-- What a guard must have done by now. -/
def due (guards : Guards) (id : Nat) : List Release :=
  match guards.cells[id]? with
  | none => []
  | some cell => if 0 < cell.strong then [] else cell.value.callback.toList

/-- The descriptors that living guards will close. -/
def closing (guards : Guards) : List Int :=
  (Shared.living guards.cells).filterMap fun guard => guard.callback.bind Release.fd?

/-- Every guard has done what it must, and no more; every duplicate is open as
long as its guard lives. -/
structure Sound (guards : Guards) (owners : List Nat) : Prop where
  balanced : Shared.Balanced guards.cells owners
  once : forall id, guards.releases id = guards.due id
  closes : guards.duplicates.Perm guards.closing

theorem destroy_cells (guards : Guards) (id : Nat) (guard : ExternalDropGuard) :
    (guards.destroy id guard).cells = guards.cells := by
  unfold destroy
  cases guard.callback with
  | none => rfl
  | some release => cases release <;> rfl

theorem destroy_releases (guards : Guards) (id other : Nat) (guard : ExternalDropGuard) :
    (guards.destroy id guard).releases other =
      guards.releases other ++ if id = other then guard.callback.toList else [] := by
  unfold destroy
  cases guard.callback with
  | none => simp
  | some release =>
      have logged : (guards.perform id release).released = guards.released ++ [(id, release)] := by
        cases release <;> rfl
      unfold releases
      rw [logged, List.filter_append, List.map_append]
      by_cases same : id = other <;> simp [same]

theorem destroy_duplicates {guards : Guards} {id : Nat} {guard : ExternalDropGuard}
    {others : List Int}
    (before : guards.duplicates.Perm ((guard.callback.bind Release.fd?).toList ++ others)) :
    (guards.destroy id guard).duplicates.Perm others := by
  unfold destroy
  cases isRelease : guard.callback with
  | none =>
      rw [isRelease] at before
      exact before
  | some release =>
      rw [isRelease] at before
      cases release with
      | callback release userData => exact before
      | close fd => exact (List.cons_perm_iff_perm_erase.mp before.symm).2.symm

theorem valueAt_drop (guards : Guards) (id other : Nat) :
    Shared.valueAt (guards.drop id).cells other = Shared.valueAt guards.cells other := by
  unfold drop
  cases (Shared.drop guards.cells id).2 with
  | none => exact Shared.valueAt_drop _ _ _
  | some guard =>
      rw [destroy_cells]
      exact Shared.valueAt_drop _ _ _

namespace Sound

variable {guards : Guards} {owners : List Nat} {id : Nat}

theorem perm {others : List Nat} (sound : guards.Sound owners) (same : owners.Perm others) :
    guards.Sound others :=
  ⟨sound.balanced.perm same, sound.once, sound.closes⟩

/-- A new guard, with the descriptor it is to close already open. -/
theorem create {others : List Int} (sound : guards.Sound owners) (release : Release)
    (isOpen : others.Perm (release.fd?.toList ++ guards.duplicates)) :
    ({ guards with duplicates := others }.create (.new release)).Sound
      (guards.cells.length :: owners) := by
  refine ⟨sound.balanced.create _, fun id => ?_, ?_⟩
  · have before := sound.once id
    unfold due at before ⊢
    show guards.releases id = match (guards.cells ++ [_])[id]? with | none => _ | some cell => _
    rw [Records.find_concat, before]
    by_cases same : guards.cells.length = id
    · rw [if_pos same, ← same, List.getElem?_eq_none (Nat.le_refl _)]
      rfl
    · rw [if_neg same]
  · refine isOpen.trans ?_
    unfold closing
    show List.Perm _ ((Shared.living (guards.cells ++ [_])).filterMap _)
    rw [Shared.living_create, List.filterMap_append]
    refine List.perm_append_comm.trans (sound.closes.append ?_)
    cases release <;> exact List.Perm.refl _

/-- A drop that leaves a reference behind does nothing else. -/
theorem drop_kept (sound : guards.Sound (id :: owners))
    (kept : (Shared.drop guards.cells id).2 = none) : (guards.drop id).Sound owners := by
  rcases sound.balanced.found List.mem_cons_self with ⟨cell, isFound, positive⟩
  have more : cell.strong ≠ 1 := by
    intro one
    rw [Shared.drop_found isFound] at kept
    rw [if_pos one] at kept
    cases kept
  unfold Guards.drop
  rw [kept]
  refine ⟨sound.balanced.drop, fun other => ?_, ?_⟩
  · have before := sound.once other
    unfold due at before ⊢
    show guards.releases other = match (Shared.drop guards.cells id).1[other]? with
      | none => _ | some cell => _
    rw [before, Shared.drop_found isFound, Records.find_set isFound]
    by_cases same : id = other
    · rw [if_pos same, ← same, isFound]
      show (if 0 < cell.strong then _ else _) = if 0 < cell.strong - 1 then _ else _
      rw [if_pos positive, if_pos (by omega)]
    · rw [if_neg same]
  · unfold closing
    show guards.duplicates.Perm ((Shared.living (Shared.drop guards.cells id).1).filterMap _)
    rw [Shared.living_drop_none sound.balanced kept]
    exact sound.closes

/-- The drop of the last reference does what is to be done. -/
theorem drop_last {guard : ExternalDropGuard} (sound : guards.Sound (id :: owners))
    (last : (Shared.drop guards.cells id).2 = some guard) : (guards.drop id).Sound owners := by
  rcases Shared.drop_value last with ⟨cell, isFound, one, isGuard⟩
  unfold Guards.drop
  rw [last]
  refine ⟨?_, fun other => ?_, ?_⟩
  · rw [destroy_cells]
    exact sound.balanced.drop
  · have before := sound.once other
    unfold due at before ⊢
    rw [destroy_releases, destroy_cells]
    show guards.releases other ++ _ = match (Shared.drop guards.cells id).1[other]? with
      | none => _ | some cell => _
    rw [before, Shared.drop_found isFound, Records.find_set isFound]
    by_cases same : id = other
    · rw [if_pos same, if_pos same, ← same, isFound, ← isGuard]
      show (if 0 < cell.strong then _ else _) ++ _ = if 0 < cell.strong - 1 then _ else _
      rw [one]
      rfl
    · rw [if_neg same, if_neg same, List.append_nil]
  · refine destroy_duplicates (sound.closes.trans ?_)
    unfold closing
    rw [destroy_cells]
    refine ((Shared.living_drop_some last).filterMap _).trans ?_
    rw [List.filterMap_cons]
    cases guard.callback.bind Release.fd? <;> exact List.Perm.refl _

theorem drop (sound : guards.Sound (id :: owners)) : (guards.drop id).Sound owners := by
  cases last : (Shared.drop guards.cells id).2 with
  | none => exact sound.drop_kept last
  | some guard => exact sound.drop_last last

/-- A guard has run exactly if nobody owns it. -/
theorem releases_eq {guard : ExternalDropGuard} (sound : guards.Sound owners)
    (known : Shared.valueAt guards.cells id = some guard) :
    guards.releases id = if id ∈ owners then [] else guard.callback.toList := by
  rw [sound.once id]
  unfold due
  unfold Shared.valueAt at known
  cases isFound : guards.cells[id]? with
  | none =>
      rw [isFound] at known
      cases known
  | some cell =>
      rw [isFound] at known
      have isGuard : cell.value = guard := Option.some.inj known
      by_cases owner : id ∈ owners
      · rcases sound.balanced.found owner with ⟨same, isSame, positive⟩
        rw [isFound] at isSame
        cases isSame
        rw [if_pos owner]
        exact if_pos positive
      · have none : ¬ 0 < cell.strong := fun positive =>
          owner (sound.balanced.owner_of_found isFound positive)
        rw [if_neg owner, ← isGuard]
        exact if_neg none

end Sound
end Guards

/-- The storage of an imported buffer. -/
structure GuardedStorage where
  storage : BufferStorage
  guard : Nat
deriving DecidableEq, Repr

structure Storages where
  cells : List (Shared GuardedStorage)
  guards : Guards
deriving DecidableEq, Repr

/-- A buffer with the number of its storage. -/
structure SharedBuffer where
  device : DeviceKind
  domain : MemoryDomain
  desc : BufferDesc
  external : ExternalHandle
  storage : Nat
deriving DecidableEq, Repr

/-- A tensor of an imported buffer. -/
structure Tensor where
  desc : TensorDesc
  buffer : SharedBuffer
deriving DecidableEq, Repr

/-- The buffer is consumed; a caller that gets an error has lost it. -/
def Tensor.fromBuffer (desc : TensorDesc) (buffer : SharedBuffer) : Except TensorError Tensor :=
  match desc.storageBytes with
  | .error error => .error error
  | .ok bytes =>
      if buffer.desc.sizeBytes ≠ bytes then
        .error (.tensor "buffer size does not match tensor descriptor")
      else if buffer.device ≠ desc.device then
        .error (.tensor "buffer device does not match tensor descriptor")
      else .ok ⟨desc, buffer⟩

theorem Tensor.fromBuffer_buffer {desc : TensorDesc} {buffer : SharedBuffer} {tensor : Tensor}
    (made : Tensor.fromBuffer desc buffer = .ok tensor) : tensor.buffer = buffer := by
  unfold Tensor.fromBuffer at made
  split at made
  · cases made
  · split at made
    · cases made
    · split at made
      · cases made
      · cases made
        rfl

/-- A buffer of the described size and device makes a tensor. -/
theorem Tensor.fromBuffer_ok {desc : TensorDesc} {buffer : SharedBuffer}
    (size : desc.storageBytes = .ok buffer.desc.sizeBytes) (device : buffer.device = desc.device) :
    Tensor.fromBuffer desc buffer = .ok ⟨desc, buffer⟩ := by
  unfold Tensor.fromBuffer
  rw [size]
  show (if buffer.desc.sizeBytes ≠ buffer.desc.sizeBytes then _ else _) = _
  rw [if_neg (not_not_intro rfl), if_neg (not_not_intro device)]

namespace Storages

def clone (storages : Storages) (id : Nat) : Storages :=
  { storages with cells := Shared.clone storages.cells id }

/-- The end of a storage drops its guard. -/
def drop (storages : Storages) (id : Nat) : Storages :=
  match (Shared.drop storages.cells id).2 with
  | none => { storages with cells := (Shared.drop storages.cells id).1 }
  | some storage => ⟨(Shared.drop storages.cells id).1, storages.guards.drop storage.guard⟩

/-- `Buffer::from_external`, which never fails. -/
def fromExternal (storages : Storages) (device : DeviceKind) (domain : MemoryDomain)
    (desc : BufferDesc) (external : ExternalHandle) (guard : ExternalDropGuard) :
    SharedBuffer × Storages :=
  (⟨device, domain, desc, external, storages.cells.length⟩,
    ⟨storages.cells ++ [⟨1, .external none, storages.guards.cells.length⟩],
      storages.guards.create guard⟩)

/-- The guards that have an owner. -/
def guarded (storages : Storages) : List Nat :=
  (Shared.living storages.cells).map GuardedStorage.guard

structure Sound (storages : Storages) (owners : List Nat) : Prop where
  balanced : Shared.Balanced storages.cells owners
  guards : storages.guards.Sound storages.guarded

namespace Sound

variable {storages : Storages} {owners : List Nat} {id : Nat}

theorem perm {others : List Nat} (sound : storages.Sound owners) (same : owners.Perm others) :
    storages.Sound others :=
  ⟨sound.balanced.perm same, sound.guards⟩

theorem clone (sound : storages.Sound owners) (owner : id ∈ owners) :
    (storages.clone id).Sound (id :: owners) := by
  rcases sound.balanced.found owner with ⟨cell, isFound, positive⟩
  refine ⟨sound.balanced.clone owner, ?_⟩
  unfold guarded Storages.clone
  show storages.guards.Sound ((Shared.living (Shared.clone storages.cells id)).map _)
  rw [Shared.living_clone isFound positive]
  exact sound.guards

/-- A new buffer owns its storage, and this its guard. -/
theorem fromExternal {others : List Int} (sound : storages.Sound owners) (release : Release)
    (isOpen : others.Perm (release.fd?.toList ++ storages.guards.duplicates))
    (device : DeviceKind) (domain : MemoryDomain) (desc : BufferDesc) (external : ExternalHandle) :
    ({ storages with guards := { storages.guards with duplicates := others } }.fromExternal
      device domain desc external (.new release)).2.Sound (storages.cells.length :: owners) := by
  refine ⟨sound.balanced.create _, ?_⟩
  unfold guarded Storages.fromExternal
  show Guards.Sound _ ((Shared.living (storages.cells ++ [_])).map _)
  rw [Shared.living_create, List.map_append]
  exact (sound.guards.create release isOpen).perm (List.perm_append_singleton _ _).symm

theorem drop (sound : storages.Sound (id :: owners)) : (storages.drop id).Sound owners := by
  unfold Storages.drop
  cases last : (Shared.drop storages.cells id).2 with
  | none =>
      refine ⟨sound.balanced.drop, ?_⟩
      unfold guarded
      show storages.guards.Sound ((Shared.living (Shared.drop storages.cells id).1).map _)
      rw [Shared.living_drop_none sound.balanced last]
      exact sound.guards
  | some storage =>
      refine ⟨sound.balanced.drop, Guards.Sound.drop ?_⟩
      exact sound.guards.perm ((Shared.living_drop_some last).map GuardedStorage.guard)

end Sound

/-- The guards keep their numbers and functions. -/
theorem valueAt_drop (storages : Storages) (id other : Nat) :
    Shared.valueAt (storages.drop id).guards.cells other =
      Shared.valueAt storages.guards.cells other := by
  unfold drop
  cases (Shared.drop storages.cells id).2 with
  | none => rfl
  | some storage => exact storages.guards.valueAt_drop _ _

end Storages
end Core
end DyunGu
