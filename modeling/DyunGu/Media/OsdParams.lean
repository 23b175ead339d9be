import DyunGu.Graph.Validate
import DyunGu.Lib.KeyedList
import DyunGu.Media.Ops

namespace DyunGu
namespace Media

open Core (usizeMax checkedAdd checkedAdd_eq_some)
open Graph (Error NodeSpec Value okOr reject)
open Graph.GraphSpec (okOr_ok reject_iff)

/-!
# The parameters of an on-screen display

A node gives the boxes, their color and the thickness of their borders.  The
parser refuses a box whose far corner has no coordinates, and a color or a
thickness that the core would refuse.
-/

/-- The fields of an object. -/
abbrev Fields := List (String × Value)

/-! ## Reading values -/

def asObject : Value -> Option Fields
  | .object fields => some fields
  | _ => none

def asArray : Value -> Option (List Value)
  | .array values => some values
  | _ => none

def asU64 : Value -> Option Nat
  | .number (.posInt value) => if value < UInt64.size then some value else none
  | _ => none

def paramsObject (node : NodeSpec) : Except Error Fields :=
  okOr (asObject node.params) (.config s!"node {node.name} params must be an object")

def unknownField (allowed : List String) (key : String) : String :=
  if allowed = [] then s!"unknown field `{key}`; no parameters are supported"
  else s!"unknown field `{key}`; expected one of " ++ String.intercalate ", " allowed

def rejectUnknownFields (params : Fields) (allowed : List String) : Except Error Unit :=
  params.forM fun entry =>
    reject (entry.1 ∉ allowed) (.config (unknownField allowed entry.1))

def readUsize (params : Fields) (key : String) : Except Error (Option Nat) :=
  match KeyedList.find key params with
  | none => .ok none
  | some value => do
      let value <- okOr (asU64 value) (.config s!"field {key} must be a non-negative integer")
      reject (value > usizeMax) (.config s!"field {key} overflow")
      return some value

def ensureNonzero (value : Nat) (key : String) : Except Error Nat :=
  if value = 0 then .error (.config s!"field {key} must be non-zero") else .ok value

def readU8 (key : String) (value : Value) : Except Error UInt8 := do
  let value <- okOr (asU64 value) (.config s!"field {key} must contain integers")
  reject (value >= UInt8.size) (.config s!"field {key} overflow")
  return UInt8.ofNat value

def readU8Array (params : Fields) (key : String) : Except Error (Option (List UInt8)) :=
  match KeyedList.find key params with
  | none => .ok none
  | some value => do
      let array <- okOr (asArray value) (.config s!"field {key} must be an array")
      let values <- array.mapM (readU8 key)
      return some values

/-! ## Boxes -/

def osdBoxFields : List String := ["x", "y", "width", "height"]

/-- A refused box says which one it is. -/
def inBox (node : String) (index : Nat) : Error -> Error
  | .config message => .config (s!"node {node}: field boxes[{index}]: " ++ message)
  | other => other

def readBox (node : String) (entry : Value × Nat) : Except Error OsdBox := do
  let object <- okOr (asObject entry.1) (.config s!"node {node}: each box must be an object")
  (rejectUnknownFields object osdBoxFields).mapError (inBox node entry.2)
  let field (key : String) : Except Error Nat := do
    okOr (<- readUsize object key) (.config s!"node {node}: box field {key} is required")
  let x <- field "x"
  let y <- field "y"
  let width <- ensureNonzero (<- field "width") "boxes[].width"
  let height <- ensureNonzero (<- field "height") "boxes[].height"
  let _ <- okOr (checkedAdd x width) (.config "box horizontal extent overflow")
  let _ <- okOr (checkedAdd y height) (.config "box vertical extent overflow")
  return ⟨x, y, width, height⟩

def readBoxes (params : Fields) (node : String) : Except Error (List OsdBox) :=
  match KeyedList.find "boxes" params with
  | none => .ok []
  | some value => do
      let array <- okOr (asArray value) (.config s!"node {node}: field boxes must be an array")
      array.zipIdx.mapM (readBox node)

/-! ## The display -/

def maxOsdBoxes : Nat := 1000

def maxOsdColorLen : Nat := 4

def maxOsdThickness : Nat := 1000

def osdParamFields : List String := ["boxes", "color", "thickness"]

/-- What a display draws. -/
structure OsdParams where
  boxes : List OsdBox
  color : List UInt8
  thickness : Nat
deriving DecidableEq, Repr

def parseOsd (node : NodeSpec) : Except Error OsdParams := do
  let params <- paramsObject node
  rejectUnknownFields params osdParamFields
  let boxes <- readBoxes params node.name
  reject (boxes.length > maxOsdBoxes)
    (.config (s!"node {node.name}: boxes count {boxes.length} exceeds limit " ++
      s!"{maxOsdBoxes}"))
  let color := (<- readU8Array params "color").getD [255, 0, 0]
  reject (color = []) (.config s!"node {node.name}: field color must not be empty")
  reject (color.length > maxOsdColorLen)
    (.config (s!"node {node.name}: field color must have at most {maxOsdColorLen} " ++
      "components"))
  let thickness := (<- readUsize params "thickness").getD 1
  reject (thickness = 0) (.config s!"node {node.name}: field thickness must be non-zero")
  reject (thickness > maxOsdThickness)
    (.config s!"node {node.name}: field thickness exceeds {maxOsdThickness}")
  return ⟨boxes, color, thickness⟩

/-! ## What is accepted -/

/-- The far corner of a box has coordinates. -/
structure OsdBox.Valid (box : OsdBox) : Prop where
  nonempty : 0 < box.width ∧ 0 < box.height
  columns : box.x + box.width <= usizeMax
  rows : box.y + box.height <= usizeMax

/-- What the core relies on. -/
structure OsdParams.Valid (params : OsdParams) : Prop where
  count : params.boxes.length <= maxOsdBoxes
  boxes : forall box, box ∈ params.boxes -> box.Valid
  color : 0 < params.color.length ∧ params.color.length <= maxOsdColorLen
  thickness : 0 < params.thickness ∧ params.thickness <= maxOsdThickness

theorem ensureNonzero_ok {value result : Nat} {key : String}
    (accepted : ensureNonzero value key = .ok result) : result = value ∧ 0 < result := by
  rw [ensureNonzero] at accepted
  split at accepted
  · cases accepted
  · rename_i nonzero
    cases accepted
    exact ⟨rfl, Nat.pos_of_ne_zero nonzero⟩

theorem readBox_valid {node : String} {entry : Value × Nat} {box : OsdBox}
    (accepted : readBox node entry = .ok box) : box.Valid := by
  rcases Outcome.bind_ok accepted with ⟨object, _, accepted⟩
  rcases Outcome.bind_ok accepted with ⟨_, _, accepted⟩
  rcases Outcome.bind_ok accepted with ⟨x, _, accepted⟩
  rcases Outcome.bind_ok accepted with ⟨y, _, accepted⟩
  rcases Outcome.bind_ok accepted with ⟨givenWidth, _, accepted⟩
  rcases Outcome.bind_ok accepted with ⟨width, isWidth, accepted⟩
  rcases Outcome.bind_ok accepted with ⟨givenHeight, _, accepted⟩
  rcases Outcome.bind_ok accepted with ⟨height, isHeight, accepted⟩
  rcases Outcome.bind_ok accepted with ⟨right, isRight, accepted⟩
  rcases Outcome.bind_ok accepted with ⟨bottom, isBottom, accepted⟩
  cases accepted
  exact ⟨⟨(ensureNonzero_ok isWidth).2, (ensureNonzero_ok isHeight).2⟩,
    (checkedAdd_eq_some.mp (okOr_ok isRight)).2, (checkedAdd_eq_some.mp (okOr_ok isBottom)).2⟩

theorem readBoxes_valid {params : Fields} {node : String} {boxes : List OsdBox}
    (accepted : readBoxes params node = .ok boxes) : forall box, box ∈ boxes -> box.Valid := by
  intro box member
  rw [readBoxes] at accepted
  split at accepted
  · cases accepted
    cases member
  · rcases Outcome.bind_ok accepted with ⟨array, _, computed⟩
    rcases Outcome.mapM_mem computed member with ⟨entry, _, isBox⟩
    exact readBox_valid isBox

theorem parseOsd_valid {node : NodeSpec} {params : OsdParams}
    (accepted : parseOsd node = .ok params) : params.Valid := by
  rcases Outcome.bind_ok accepted with ⟨fields, _, accepted⟩
  rcases Outcome.bind_ok accepted with ⟨_, _, accepted⟩
  rcases Outcome.bind_ok accepted with ⟨boxes, isBoxes, accepted⟩
  rcases Outcome.bind_ok accepted with ⟨_, few, accepted⟩
  rcases Outcome.bind_ok accepted with ⟨given, _, accepted⟩
  rcases Outcome.bind_ok accepted with ⟨_, nonempty, accepted⟩
  rcases Outcome.bind_ok accepted with ⟨_, short, accepted⟩
  rcases Outcome.bind_ok accepted with ⟨givenThickness, _, accepted⟩
  rcases Outcome.bind_ok accepted with ⟨_, nonzero, accepted⟩
  rcases Outcome.bind_ok accepted with ⟨_, thin, accepted⟩
  cases accepted
  exact ⟨Nat.le_of_not_lt (reject_iff.mp few), readBoxes_valid isBoxes,
    ⟨List.length_pos_iff.mpr (reject_iff.mp nonempty), Nat.le_of_not_lt (reject_iff.mp short)⟩,
    Nat.pos_of_ne_zero (reject_iff.mp nonzero), Nat.le_of_not_lt (reject_iff.mp thin)⟩

/-- Without parameters there are no boxes, and all defaults are accepted. -/
theorem parseOsd_default {node : NodeSpec} (isEmpty : node.params = .object []) :
    parseOsd node = .ok ⟨[], [255, 0, 0], 1⟩ := by
  rw [parseOsd, paramsObject, isEmpty]
  rfl

end Media
end DyunGu
