import DyunGu.Core.Tensor
import DyunGu.Lib.Outcome

namespace DyunGu
namespace Core

/-!
# Values of four bits

Two values share a byte, the first of them in its low half.  A list of odd
length leaves the high half of the last byte empty, so whoever unpacks says how
many values there are.
-/

def lowNibble (byte : UInt8) : UInt8 := byte &&& 0x0f

def highNibble (byte : UInt8) : UInt8 := (byte >>> (4 : UInt8)) &&& 0x0f

def packPair (low high : UInt8) : UInt8 := (low &&& 0x0f) ||| ((high &&& 0x0f) <<< (4 : UInt8))

/-- There is memory for the bytes, here and below. -/
def packNibbles : List UInt8 -> List UInt8
  | [] => []
  | [low] => [packPair low 0]
  | low :: high :: values => packPair low high :: packNibbles values

/-- The loop over the bytes, with the values so far.  The count is looked at
after each value. -/
def unpackFrom (count : Nat) (values : List UInt8) : List UInt8 -> List UInt8
  | [] => values
  | byte :: bytes =>
      let first := values ++ [lowNibble byte]
      if first.length = count then first
      else
        let second := first ++ [highNibble byte]
        if second.length = count then second else unpackFrom count second bytes

def unpackNibbles (bytes : List UInt8) (count : Nat) : List UInt8 := unpackFrom count [] bytes

/-- Two's complement in four bits. -/
def int4Nibble (value : Int8) : Except TensorError UInt8 :=
  if -8 <= value ∧ value <= 7 then .ok (value.toUInt8 &&& 0x0f)
  else .error (.invalidArgument "int4 out of range")

def packInt4 (values : List Int8) : Except TensorError (List UInt8) := do
  let raw <- values.mapM int4Nibble
  return packNibbles raw

def signExtend (nibble : UInt8) : Int8 :=
  if nibble &&& 0x08 ≠ 0 then nibble.toInt8 - 16 else nibble.toInt8

def unpackInt4 (bytes : List UInt8) (count : Nat) : List Int8 :=
  (unpackNibbles bytes count).map signExtend

def packFloat4 (values : List UInt8) : Except TensorError (List UInt8) :=
  if values.any fun value => decide (0x0f < value) then
    .error (.invalidArgument "float4 out of range")
  else .ok (packNibbles values)

def unpackFloat4 (bytes : List UInt8) (count : Nat) : List UInt8 := unpackNibbles bytes count

/-! ## One byte -/

theorem forall_nibble {P : UInt8 -> Prop} (checked : forall number : Fin 16, P (.ofNat number)) :
    forall nibble : UInt8, nibble <= 0x0f -> P nibble := by
  intro nibble small
  have below : nibble.toNat < 16 := Nat.lt_succ_of_le (UInt8.le_iff_toNat_le.mp small)
  simpa using checked ⟨nibble.toNat, below⟩

theorem forall_nibbles {P : UInt8 -> UInt8 -> Prop}
    (checked : forall low high : Fin 16, P (.ofNat low) (.ofNat high)) :
    forall low, low <= 0x0f -> forall high, high <= 0x0f -> P low high :=
  forall_nibble fun low => forall_nibble (checked low)

theorem forall_byte {P : UInt8 -> Prop} (checked : forall number : Fin 256, P (.ofNat number)) :
    forall byte : UInt8, P byte := by
  intro byte
  simpa using checked ⟨byte.toNat, byte.toNat_lt⟩

theorem lowNibble_small : forall byte, lowNibble byte <= 0x0f :=
  forall_byte (by decide +kernel)

theorem highNibble_small : forall byte, highNibble byte <= 0x0f :=
  forall_byte (by decide +kernel)

theorem packPair_halves : forall byte, packPair (lowNibble byte) (highNibble byte) = byte :=
  forall_byte (by decide +kernel)

theorem low_packPair : forall low, low <= 0x0f -> forall high, high <= 0x0f ->
    lowNibble (packPair low high) = low :=
  forall_nibbles (by decide +kernel)

theorem high_packPair : forall low, low <= 0x0f -> forall high, high <= 0x0f ->
    highNibble (packPair low high) = high :=
  forall_nibbles (by decide +kernel)

/-- A value in range is found again in its four bits. -/
theorem signExtend_int4Nibble (value : Int8) (above : -8 <= value) (below : value <= 7) :
    signExtend (value.toUInt8 &&& 0x0f) = value := by
  have all : forall byte : UInt8, -8 <= byte.toInt8 -> byte.toInt8 <= 7 ->
      signExtend (byte &&& 0x0f) = byte.toInt8 :=
    forall_byte (by decide +kernel)
  exact all value.toUInt8 above below

theorem int4Nibble_signExtend : forall nibble, nibble <= 0x0f ->
    int4Nibble (signExtend nibble) = .ok nibble :=
  forall_nibble (by decide +kernel)

/-! ## Lists -/

/-- The halves of all bytes in turn. -/
def nibbles (bytes : List UInt8) : List UInt8 :=
  bytes.flatMap fun byte => [lowNibble byte, highNibble byte]

@[simp] theorem nibbles_cons (byte : UInt8) (bytes : List UInt8) :
    nibbles (byte :: bytes) = lowNibble byte :: highNibble byte :: nibbles bytes := rfl

@[simp] theorem nibbles_length (bytes : List UInt8) :
    (nibbles bytes).length = 2 * bytes.length := by
  induction bytes with
  | nil => rfl
  | cons byte bytes ih =>
      rw [nibbles_cons, List.length_cons, List.length_cons, List.length_cons, ih]
      omega

theorem nibbles_small {bytes : List UInt8} {nibble : UInt8} (member : nibble ∈ nibbles bytes) :
    nibble <= 0x0f := by
  rcases List.mem_flatMap.mp member with ⟨byte, _, isHalf⟩
  rcases List.mem_pair.mp isHalf with rfl | rfl
  · exact lowNibble_small byte
  · exact highNibble_small byte

/-- A loop that is not yet past its count stops there. -/
theorem unpackFrom_of_lt {count : Nat} {values : List UInt8} (bytes : List UInt8)
    (short : values.length < count) :
    unpackFrom count values bytes = values ++ (nibbles bytes).take (count - values.length) := by
  induction bytes generalizing values with
  | nil => simp [unpackFrom, nibbles]
  | cons byte bytes ih =>
      rw [unpackFrom, nibbles_cons]
      simp only [List.length_append, List.length_singleton]
      split
      · rename_i stops
        have one : count - values.length = 1 := by omega
        rw [one]
        rfl
      · split
        · rename_i stops
          have two : count - values.length = 2 := by omega
          rw [two, List.append_assoc]
          rfl
        · have more : count - values.length = count - (values.length + 1 + 1) + 1 + 1 := by omega
          rw [ih (by simp only [List.length_append, List.length_singleton]; omega), more]
          simp

/-- A loop that is past its count goes on to the end. -/
theorem unpackFrom_of_le {count : Nat} {values : List UInt8} (bytes : List UInt8)
    (past : count <= values.length) :
    unpackFrom count values bytes = values ++ nibbles bytes := by
  induction bytes generalizing values with
  | nil => simp [unpackFrom, nibbles]
  | cons byte bytes ih =>
      rw [unpackFrom, nibbles_cons]
      simp only [List.length_append, List.length_singleton]
      rw [if_neg (by omega), if_neg (by omega),
        ih (by simp only [List.length_append, List.length_singleton]; omega)]
      simp

theorem unpackNibbles_eq {bytes : List UInt8} {count : Nat} (asked : count ≠ 0 ∨ bytes = []) :
    unpackNibbles bytes count = (nibbles bytes).take count := by
  rcases asked with nonzero | rfl
  · exact unpackFrom_of_lt bytes (Nat.pos_of_ne_zero nonzero)
  · exact List.take_nil.symm

theorem unpackNibbles_zero (bytes : List UInt8) : unpackNibbles bytes 0 = nibbles bytes :=
  unpackFrom_of_le bytes (Nat.le_refl _)

/-- With a count that is large enough, all halves are unpacked. -/
theorem unpackNibbles_full {bytes : List UInt8} {count : Nat} (all : 2 * bytes.length <= count) :
    unpackNibbles bytes count = nibbles bytes := by
  have asked : count ≠ 0 ∨ bytes = [] := by
    by_cases isEmpty : bytes = []
    · exact Or.inr isEmpty
    · have long := List.length_pos_iff.mpr isEmpty
      exact Or.inl (by omega)
  rw [unpackNibbles_eq asked, List.take_of_length_le]
  rwa [nibbles_length]

theorem packNibbles_nibbles (bytes : List UInt8) : packNibbles (nibbles bytes) = bytes := by
  induction bytes with
  | nil => rfl
  | cons byte bytes ih => rw [nibbles_cons, packNibbles, packPair_halves, ih]

/-- Behind the packed values there is at most the empty half of the last
byte. -/
theorem nibbles_packNibbles (values : List UInt8)
    (small : forall value, value ∈ values -> value <= 0x0f) :
    (nibbles (packNibbles values)).take values.length = values := by
  induction values using packNibbles.induct with
  | case1 => rfl
  | case2 low =>
      have isLow := low_packPair low (small low List.mem_cons_self) 0 (by decide)
      simp [packNibbles, isLow]
  | case3 low high values ih =>
      rcases List.forall_mem_cons.mp small with ⟨lowSmall, small⟩
      rcases List.forall_mem_cons.mp small with ⟨highSmall, small⟩
      rw [packNibbles, nibbles_cons, low_packPair low lowSmall high highSmall,
        high_packPair low lowSmall high highSmall, List.length_cons, List.length_cons,
        List.take_succ_cons, List.take_succ_cons, ih small]

theorem packNibbles_eq_nil {values : List UInt8} (isEmpty : values.length = 0) :
    packNibbles values = [] := by
  rw [List.length_eq_zero_iff.mp isEmpty]
  rfl

theorem unpackNibbles_packNibbles (values : List UInt8)
    (small : forall value, value ∈ values -> value <= 0x0f) :
    unpackNibbles (packNibbles values) values.length = values := by
  have asked : values.length ≠ 0 ∨ packNibbles values = [] := by
    by_cases isEmpty : values.length = 0
    · exact Or.inr (packNibbles_eq_nil isEmpty)
    · exact Or.inl isEmpty
  rw [unpackNibbles_eq asked, nibbles_packNibbles values small]

/-! ## Round trips -/

theorem mask_small : forall byte : UInt8, byte &&& 0x0f <= 0x0f := lowNibble_small

theorem packInt4_eq {values : List Int8}
    (inRange : forall value, value ∈ values -> -8 <= value ∧ value <= 7) :
    packInt4 values = .ok (packNibbles (values.map fun value => value.toUInt8 &&& 0x0f)) := by
  refine Outcome.bind_eq_ok (Outcome.mapM_ok ?_) rfl
  intro value member
  exact if_pos (inRange value member)

theorem packInt4_signExtend {raw : List UInt8}
    (small : forall nibble, nibble ∈ raw -> nibble <= 0x0f) :
    packInt4 (raw.map signExtend) = .ok (packNibbles raw) := by
  have packed : (raw.map signExtend).mapM int4Nibble = .ok raw := by
    rw [List.mapM_map]
    refine (Outcome.mapM_ok ?_).trans (congrArg Except.ok raw.map_id)
    exact fun nibble member => int4Nibble_signExtend nibble (small nibble member)
  exact Outcome.bind_eq_ok packed rfl

theorem packFloat4_eq {values : List UInt8}
    (small : forall value, value ∈ values -> value <= 0x0f) :
    packFloat4 values = .ok (packNibbles values) := by
  apply if_neg
  intro large
  rcases List.any_eq_true.mp large with ⟨value, member, exceeds⟩
  exact absurd (of_decide_eq_true exceeds) (UInt8.not_lt.mpr (small value member))

/-- What is packed is unpacked again with the original count, and what is fully
unpacked is packed again. -/
theorem nibbles_round_trip :
    (forall values : List Int8, (forall value, value ∈ values -> -8 <= value ∧ value <= 7) ->
      Exists fun bytes => packInt4 values = .ok bytes ∧
        unpackInt4 bytes values.length = values) ∧
    (forall values : List UInt8, (forall value, value ∈ values -> value <= 0x0f) ->
      Exists fun bytes => packFloat4 values = .ok bytes ∧
        unpackFloat4 bytes values.length = values) ∧
    forall (bytes : List UInt8) (count : Nat), 2 * bytes.length <= count ->
      packNibbles (unpackNibbles bytes count) = bytes ∧
        packInt4 (unpackInt4 bytes count) = .ok bytes ∧
        packFloat4 (unpackFloat4 bytes count) = .ok bytes := by
  refine ⟨?_, ?_, ?_⟩
  · intro values inRange
    refine ⟨_, packInt4_eq inRange, ?_⟩
    have unpacked := unpackNibbles_packNibbles
      (values.map fun value => value.toUInt8 &&& 0x0f) (by
        intro nibble member
        rcases List.mem_map.mp member with ⟨value, _, rfl⟩
        exact mask_small _)
    rw [List.length_map] at unpacked
    rw [unpackInt4, unpacked, List.map_map]
    refine (List.map_congr_left ?_).trans values.map_id
    intro value member
    exact signExtend_int4Nibble value (inRange value member).1 (inRange value member).2
  · intro values small
    exact ⟨_, packFloat4_eq small, unpackNibbles_packNibbles values small⟩
  · intro bytes count all
    rw [unpackInt4, unpackFloat4, unpackNibbles_full all,
      packInt4_signExtend fun _ member => nibbles_small member,
      packFloat4_eq fun _ member => nibbles_small member, packNibbles_nibbles]
    exact ⟨rfl, rfl, rfl⟩

theorem threeNibbles_round_trip :
    (Exists fun bytes => packInt4 [-8, 7, -1] = .ok bytes ∧ unpackInt4 bytes 3 = [-8, 7, -1]) ∧
    (Exists fun bytes => packFloat4 [1, 0, 15] = .ok bytes ∧ unpackFloat4 bytes 3 = [1, 0, 15]) ∧
    packNibbles (unpackNibbles [0x21, 0xf3] 4) = [0x21, 0xf3] :=
  ⟨nibbles_round_trip.1 [-8, 7, -1] (by simp), nibbles_round_trip.2.1 [1, 0, 15] (by simp),
    (nibbles_round_trip.2.2 [0x21, 0xf3] 4 (by decide)).1⟩

/-! ## The count -/

/-- As many values as asked for, or as many as there are, from the first on. -/
def UnpacksPrefix {V : Type} (unpack : List UInt8 -> Nat -> List V) (bytes : List UInt8)
    (count : Nat) : Prop :=
  (unpack bytes count).length = min count (2 * bytes.length) ∧
    unpack bytes count <+: unpack bytes (2 * bytes.length)

/-- However a half is decoded, the loop stops where it should unless it is asked
for nothing. -/
theorem decoded_prefix {V : Type} (decode : UInt8 -> V) (bytes : List UInt8) (count : Nat) :
    UnpacksPrefix (fun bytes count => (unpackNibbles bytes count).map decode) bytes count <->
      count ≠ 0 ∨ bytes = [] := by
  constructor
  · rintro ⟨length, _⟩
    by_cases isZero : count = 0
    · subst isZero
      rw [List.length_map, unpackNibbles_zero, nibbles_length, Nat.zero_min] at length
      exact Or.inr (List.length_eq_zero_iff.mp (by omega))
    · exact Or.inl isZero
  · intro asked
    constructor
    · rw [List.length_map, unpackNibbles_eq asked, List.length_take, nibbles_length]
    · have first : unpackNibbles bytes count <+: unpackNibbles bytes (2 * bytes.length) := by
        rw [unpackNibbles_eq asked, unpackNibbles_full (Nat.le_refl _)]
        exact List.take_prefix count _
      exact first.map decode

/-- All three return the first values that are asked for exactly if some are
asked for or there are no bytes. -/
theorem unpack_prefix (bytes : List UInt8) (count : Nat) :
    (UnpacksPrefix unpackNibbles bytes count <-> count ≠ 0 ∨ bytes = []) ∧
    (UnpacksPrefix unpackInt4 bytes count <-> count ≠ 0 ∨ bytes = []) ∧
    (UnpacksPrefix unpackFloat4 bytes count <-> count ≠ 0 ∨ bytes = []) := by
  have plain := decoded_prefix id bytes count
  simp only [List.map_id] at plain
  exact ⟨plain, decoded_prefix signExtend bytes count, plain⟩

/-- Who asks for nothing gets everything. -/
theorem unpack_nothing :
    unpackNibbles [0x21] 0 = [1, 2] ∧ ¬ UnpacksPrefix unpackNibbles [0x21] 0 ∧
    unpackInt4 [0x21] 0 = [1, 2] ∧ ¬ UnpacksPrefix unpackInt4 [0x21] 0 ∧
    unpackFloat4 [0x21] 0 = [1, 2] ∧ ¬ UnpacksPrefix unpackFloat4 [0x21] 0 := by
  unfold UnpacksPrefix
  decide

end Core
end DyunGu
