import Mathlib.Data.Nat.Basic
import Mathlib.Order.MinMax

namespace DyunGu
namespace Core

/-!
# Resource policies

A policy is created by a trusted bootstrap path and gives the hard limits of
a process.  A graph may only tighten them: `effective_for` takes the minimum
of the hard and the requested limit in every field, and it fails with the
field, the requested value and the hard limit where a request is larger.
-/

/-- Of the error categories of the core crate, the one a policy raises. -/
inductive Error where
  | config (message : String)
deriving DecidableEq, Repr

def Error.toText : Error -> String
  | .config message => "config error: " ++ message

def u32Max : Nat := UInt32.size - 1

structure ResourcePolicy where
  maxConfigBytes : Nat
  maxIncludeDepth : Nat
  maxIncludeCount : Nat
  maxNodes : Nat
  maxConnections : Nat
  maxTensorBytes : Nat
  maxFrameBytes : Nat
  maxModelBytes : Nat
  maxBufferPackets : Nat
  maxBufferBytes : Nat
deriving DecidableEq, Repr

namespace ResourcePolicy

/-- The published defaults of `dg/v1`. -/
def default : ResourcePolicy where
  maxConfigBytes := 8 * 1024 * 1024
  maxIncludeDepth := 16
  maxIncludeCount := 64
  maxNodes := 1024
  maxConnections := 8192
  maxTensorBytes := 512 * 1024 * 1024
  maxFrameBytes := 512 * 1024 * 1024
  maxModelBytes := 2 * 1024 * 1024 * 1024
  maxBufferPackets := 10000
  maxBufferBytes := 1024 * 1024 * 1024

def checkExceeded (name : String) (requested hard : Nat) : List String :=
  if hard < requested then
    [name ++ " requested " ++ toString requested ++ " exceeds hard limit " ++ toString hard]
  else []

def checkNonzero (value : Nat) (name : String) : Except Error Unit :=
  if value = 0 then .error (.config (name ++ " must be > 0")) else .ok ()

def checkRepresentable (value : Nat) (name : String) : Except Error Unit :=
  if u32Max < value then
    .error (.config (name ++ " " ++ toString value ++ " exceeds 32-bit representable maximum " ++
      toString u32Max))
  else .ok ()

/-- The buffer limits are checked last, after the other limits have been
found representable. -/
def validate (policy : ResourcePolicy) : Except Error Unit := do
  checkNonzero policy.maxConfigBytes "max_config_bytes"
  checkNonzero policy.maxIncludeDepth "max_include_depth"
  checkNonzero policy.maxIncludeCount "max_include_count"
  checkNonzero policy.maxNodes "max_nodes"
  checkNonzero policy.maxConnections "max_connections"
  checkNonzero policy.maxTensorBytes "max_tensor_bytes"
  checkNonzero policy.maxFrameBytes "max_frame_bytes"
  checkNonzero policy.maxModelBytes "max_model_bytes"
  checkRepresentable policy.maxConfigBytes "max_config_bytes"
  checkRepresentable policy.maxIncludeDepth "max_include_depth"
  checkRepresentable policy.maxIncludeCount "max_include_count"
  checkRepresentable policy.maxNodes "max_nodes"
  checkRepresentable policy.maxConnections "max_connections"
  checkRepresentable policy.maxTensorBytes "max_tensor_bytes"
  checkRepresentable policy.maxFrameBytes "max_frame_bytes"
  checkRepresentable policy.maxModelBytes "max_model_bytes"
  checkNonzero policy.maxBufferPackets "max_buffer_packets"
  checkRepresentable policy.maxBufferPackets "max_buffer_packets"
  checkNonzero policy.maxBufferBytes "max_buffer_bytes"
  checkRepresentable policy.maxBufferBytes "max_buffer_bytes"

/-- The smaller of two limits in every field. -/
def meet (hard requested : ResourcePolicy) : ResourcePolicy where
  maxConfigBytes := min hard.maxConfigBytes requested.maxConfigBytes
  maxIncludeDepth := min hard.maxIncludeDepth requested.maxIncludeDepth
  maxIncludeCount := min hard.maxIncludeCount requested.maxIncludeCount
  maxNodes := min hard.maxNodes requested.maxNodes
  maxConnections := min hard.maxConnections requested.maxConnections
  maxTensorBytes := min hard.maxTensorBytes requested.maxTensorBytes
  maxFrameBytes := min hard.maxFrameBytes requested.maxFrameBytes
  maxModelBytes := min hard.maxModelBytes requested.maxModelBytes
  maxBufferPackets := min hard.maxBufferPackets requested.maxBufferPackets
  maxBufferBytes := min hard.maxBufferBytes requested.maxBufferBytes

def exceeded (hard requested : ResourcePolicy) : List String :=
  checkExceeded "max_config_bytes" requested.maxConfigBytes hard.maxConfigBytes ++
  checkExceeded "max_include_depth" requested.maxIncludeDepth hard.maxIncludeDepth ++
  checkExceeded "max_include_count" requested.maxIncludeCount hard.maxIncludeCount ++
  checkExceeded "max_nodes" requested.maxNodes hard.maxNodes ++
  checkExceeded "max_connections" requested.maxConnections hard.maxConnections ++
  checkExceeded "max_tensor_bytes" requested.maxTensorBytes hard.maxTensorBytes ++
  checkExceeded "max_frame_bytes" requested.maxFrameBytes hard.maxFrameBytes ++
  checkExceeded "max_model_bytes" requested.maxModelBytes hard.maxModelBytes ++
  checkExceeded "max_buffer_packets" requested.maxBufferPackets hard.maxBufferPackets ++
  checkExceeded "max_buffer_bytes" requested.maxBufferBytes hard.maxBufferBytes

def effectiveFor (hard requested : ResourcePolicy) : Except Error ResourcePolicy :=
  if exceeded hard requested ≠ [] then
    .error (.config (String.intercalate "; " (exceeded hard requested)))
  else
    match validate (meet hard requested) with
    | .error error => .error error
    | .ok () => .ok (meet hard requested)

def checkLimit (what : String) (value limit : Nat) : Except Error Unit :=
  if limit < value then
    .error (.config (what ++ " " ++ toString value ++ " exceeds limit " ++ toString limit))
  else .ok ()

def checkTensorBytes (policy : ResourcePolicy) (bytes : Nat) : Except Error Unit :=
  checkLimit "tensor bytes" bytes policy.maxTensorBytes

def checkModelBytes (policy : ResourcePolicy) (bytes : Nat) : Except Error Unit :=
  checkLimit "model bytes" bytes policy.maxModelBytes

def checkBufferPackets (policy : ResourcePolicy) (packets : Nat) : Except Error Unit :=
  checkLimit "buffer packet count" packets policy.maxBufferPackets

def checkBufferBytes (policy : ResourcePolicy) (bytes : Nat) : Except Error Unit :=
  checkLimit "buffer bytes" bytes policy.maxBufferBytes

private theorem checkExceeded_nil {name : String} {requested hard : Nat} :
    checkExceeded name requested hard = [] <-> requested <= hard := by
  unfold checkExceeded
  split
  · rename_i above
    constructor
    · intro impossible
      cases impossible
    · omega
  · rename_i within
    exact ⟨fun _ => Nat.le_of_not_lt within, fun _ => rfl⟩

/-- No limit of a policy is above the same limit of another. -/
structure AtMost (requested hard : ResourcePolicy) : Prop where
  configBytes : requested.maxConfigBytes <= hard.maxConfigBytes
  includeDepth : requested.maxIncludeDepth <= hard.maxIncludeDepth
  includeCount : requested.maxIncludeCount <= hard.maxIncludeCount
  nodes : requested.maxNodes <= hard.maxNodes
  connections : requested.maxConnections <= hard.maxConnections
  tensorBytes : requested.maxTensorBytes <= hard.maxTensorBytes
  frameBytes : requested.maxFrameBytes <= hard.maxFrameBytes
  modelBytes : requested.maxModelBytes <= hard.maxModelBytes
  bufferPackets : requested.maxBufferPackets <= hard.maxBufferPackets
  bufferBytes : requested.maxBufferBytes <= hard.maxBufferBytes

theorem AtMost.refl (policy : ResourcePolicy) : policy.AtMost policy where
  configBytes := le_rfl
  includeDepth := le_rfl
  includeCount := le_rfl
  nodes := le_rfl
  connections := le_rfl
  tensorBytes := le_rfl
  frameBytes := le_rfl
  modelBytes := le_rfl
  bufferPackets := le_rfl
  bufferBytes := le_rfl

theorem AtMost.trans {first second third : ResourcePolicy} (below : first.AtMost second)
    (above : second.AtMost third) : first.AtMost third where
  configBytes := below.configBytes.trans above.configBytes
  includeDepth := below.includeDepth.trans above.includeDepth
  includeCount := below.includeCount.trans above.includeCount
  nodes := below.nodes.trans above.nodes
  connections := below.connections.trans above.connections
  tensorBytes := below.tensorBytes.trans above.tensorBytes
  frameBytes := below.frameBytes.trans above.frameBytes
  modelBytes := below.modelBytes.trans above.modelBytes
  bufferPackets := below.bufferPackets.trans above.bufferPackets
  bufferBytes := below.bufferBytes.trans above.bufferBytes

private theorem exceeded_nil {hard requested : ResourcePolicy} :
    exceeded hard requested = [] <-> requested.AtMost hard := by
  simp only [exceeded, List.append_eq_nil_iff, checkExceeded_nil, and_assoc]
  constructor
  · rintro ⟨a, b, c, d, e, f, g, h, i, j⟩
    exact ⟨a, b, c, d, e, f, g, h, i, j⟩
  · rintro ⟨a, b, c, d, e, f, g, h, i, j⟩
    exact ⟨a, b, c, d, e, f, g, h, i, j⟩

private theorem meet_eq {hard requested : ResourcePolicy} (within : requested.AtMost hard) :
    meet hard requested = requested := by
  rcases requested with ⟨_, _, _, _, _, _, _, _, _, _⟩
  rcases within with ⟨a, b, c, d, e, f, g, h, i, j⟩
  simp only [meet, mk.injEq, min_eq_right_iff]
  exact ⟨a, b, c, d, e, f, g, h, i, j⟩

/-- A request is granted as it stands, if it is valid and within the hard
limits, or not at all. -/
theorem effectiveFor_iff {hard requested effective : ResourcePolicy} :
    hard.effectiveFor requested = .ok effective <->
      effective = requested ∧ requested.AtMost hard ∧ requested.validate = .ok () := by
  unfold effectiveFor
  by_cases within : requested.AtMost hard
  · rw [if_neg (not_not.mpr (exceeded_nil.mpr within)), meet_eq within]
    cases valid : requested.validate with
    | error error => simp
    | ok value => simp [within, eq_comm]
  · rw [if_pos fun nothing => within (exceeded_nil.mp nothing)]
    simp [within]

private theorem checkNonzero_ok {value : Nat} {name : String} :
    checkNonzero value name = .ok () <-> 0 < value := by
  unfold checkNonzero
  split
  · rename_i zero
    simp [zero]
  · rename_i nonzero
    simp [Nat.pos_of_ne_zero nonzero]

private theorem checkRepresentable_ok {value : Nat} {name : String} :
    checkRepresentable value name = .ok () <-> value <= u32Max := by
  unfold checkRepresentable
  split
  · rename_i above
    simp [Nat.not_le.mpr above]
  · rename_i within
    simp [Nat.le_of_not_lt within]

private theorem andThen_ok {first : Except Error Unit} {second : Unit -> Except Error Unit} :
    (first >>= second) = .ok () <-> first = .ok () ∧ second () = .ok () := by
  cases first with
  | error error => simp [bind, Except.bind]
  | ok value => simp [bind, Except.bind]

theorem validate_iff {policy : ResourcePolicy} :
    policy.validate = .ok () <->
      ResourcePolicy.AtMost ⟨1, 1, 1, 1, 1, 1, 1, 1, 1, 1⟩ policy ∧
        policy.AtMost ⟨u32Max, u32Max, u32Max, u32Max, u32Max, u32Max, u32Max, u32Max, u32Max,
          u32Max⟩ := by
  simp only [validate, andThen_ok, checkNonzero_ok, checkRepresentable_ok]
  constructor
  · rintro ⟨a, b, c, d, e, f, g, h, a', b', c', d', e', f', g', h', i, i', j, j'⟩
    exact ⟨⟨a, b, c, d, e, f, g, h, i, j⟩, ⟨a', b', c', d', e', f', g', h', i', j'⟩⟩
  · rintro ⟨⟨a, b, c, d, e, f, g, h, i, j⟩, ⟨a', b', c', d', e', f', g', h', i', j'⟩⟩
    exact ⟨a, b, c, d, e, f, g, h, a', b', c', d', e', f', g', h', i, i', j, j'⟩

example : ResourcePolicy.default.effectiveFor ResourcePolicy.default =
    .ok ResourcePolicy.default := by
  decide +kernel

end ResourcePolicy
end Core
end DyunGu
