import Mathlib.Data.Nat.Basic

namespace DyunGu
namespace Core

/-!
# Devices and their cores

The kinds of device the runtime knows, and the selection of cores that a
request may carry.
-/

inductive DeviceKind where
  | cpu
  | intelGpu
  | intelNpu
  | cudaGpu
  | rknnNpu
  | sophonTpu
deriving DecidableEq, Repr

/-- A selection of one or more cores of a device. -/
inductive CoreSelection where
  | auto
  | single (core : Nat)
  | mask (bits : BitVec 32)
  | all
deriving DecidableEq, Repr

namespace CoreSelection

/-- Whether the selection includes the core.  A mask has no bit for a core
beyond its width. -/
def contains (selection : CoreSelection) (core : Nat) : Bool :=
  match selection with
  | .auto | .all => true
  | .single selected => decide (selected = core)
  | .mask bits => decide (core < 32) && decide (bits &&& (1#32 <<< core) ≠ 0#32)

/-- Whether the selection names cores.  `all` counts as naming them. -/
def isExplicit (selection : CoreSelection) : Bool :=
  match selection with
  | .auto => false
  | .single _ | .mask _ | .all => true

example : (mask 0b101#32).contains 2 = true ∧ (mask 0b101#32).contains 40 = false := by
  decide

end CoreSelection
end Core
end DyunGu
