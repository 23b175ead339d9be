import Mathlib.Data.Nat.Basic

namespace DyunGu
namespace Core

/-!
# Data types

The logical description of tensor elements, as ports declare it.
-/

/-- Storage kind for tensor elements. -/
inductive TypeCode where
  | uint
  | int
  | float
  | bfloat
  | float8
  | float4
  | opaqueHandle
deriving DecidableEq, Repr

structure DataType where
  code : TypeCode
  bits : UInt8
  lanes : UInt8
deriving DecidableEq, Repr

end Core
end DyunGu
