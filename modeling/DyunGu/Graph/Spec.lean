import DyunGu.Core.Resource
import DyunGu.Graph.Error
import Mathlib.Data.Rat.Init

namespace DyunGu
namespace Graph

/-!
# Graph specifications

The configuration model of `dg/v1`: nodes with JSON parameters, execution
settings, limits, and connections written as strings.  An ordered map of the
source is kept as the list of its entries in key order.
-/

/-- A JSON number.  A number with a fraction is finite, so its value is a
rational one. -/
inductive Number where
  | posInt (value : Nat)
  | negInt (value : Int)
  | float (value : Rat)
deriving DecidableEq, Repr

inductive Value where
  | null
  | bool (value : Bool)
  | number (value : Number)
  | string (value : String)
  | array (values : List Value)
  | object (fields : List (String × Value))

namespace Value

mutual

def decEq : (first second : Value) -> Decidable (first = second)
  | .null, .null => isTrue rfl
  | .bool first, .bool second => decidable_of_iff (first = second) (by simp)
  | .number first, .number second => decidable_of_iff (first = second) (by simp)
  | .string first, .string second => decidable_of_iff (first = second) (by simp)
  | .array first, .array second =>
      @decidable_of_iff _ (first = second) (by simp) (decEqValues first second)
  | .object first, .object second =>
      @decidable_of_iff _ (first = second) (by simp) (decEqFields first second)
  | .null, .bool _ | .null, .number _ | .null, .string _ | .null, .array _ | .null, .object _
  | .bool _, .null | .bool _, .number _ | .bool _, .string _ | .bool _, .array _
  | .bool _, .object _ | .number _, .null | .number _, .bool _ | .number _, .string _
  | .number _, .array _ | .number _, .object _ | .string _, .null | .string _, .bool _
  | .string _, .number _ | .string _, .array _ | .string _, .object _ | .array _, .null
  | .array _, .bool _ | .array _, .number _ | .array _, .string _ | .array _, .object _
  | .object _, .null | .object _, .bool _ | .object _, .number _ | .object _, .string _
  | .object _, .array _ => isFalse (fun impossible => by cases impossible)

def decEqValues : (first second : List Value) -> Decidable (first = second)
  | [], [] => isTrue rfl
  | [], _ :: _ | _ :: _, [] => isFalse (fun impossible => by cases impossible)
  | first :: firsts, second :: seconds =>
      match decEq first second, decEqValues firsts seconds with
      | isTrue head, isTrue tail => isTrue (by rw [head, tail])
      | isFalse differ, _ => isFalse (fun same => differ (List.cons.inj same).1)
      | _, isFalse differ => isFalse (fun same => differ (List.cons.inj same).2)

def decEqFields : (first second : List (String × Value)) -> Decidable (first = second)
  | [], [] => isTrue rfl
  | [], _ :: _ | _ :: _, [] => isFalse (fun impossible => by cases impossible)
  | (key, first) :: firsts, (other, second) :: seconds =>
      match (inferInstance : Decidable (key = other)), decEq first second,
        decEqFields firsts seconds with
      | isTrue name, isTrue head, isTrue tail => isTrue (by rw [name, head, tail])
      | isFalse differ, _, _ =>
          isFalse (fun same => differ (Prod.mk.inj (List.cons.inj same).1).1)
      | _, isFalse differ, _ =>
          isFalse (fun same => differ (Prod.mk.inj (List.cons.inj same).1).2)
      | _, _, isFalse differ => isFalse (fun same => differ (List.cons.inj same).2)

end

instance : DecidableEq Value := decEq

end Value

/-- How graph elements are scheduled onto threads. -/
inductive ParallelType where
  | sequential
  | task
  | pipeline
deriving DecidableEq, Repr

def defaultQueueCapacity : Nat := 20

structure ExecutionSpec where
  parallel : ParallelType
  queueCapacity : Nat
  workers : Option Nat
deriving DecidableEq, Repr

def ExecutionSpec.default : ExecutionSpec where
  parallel := .pipeline
  queueCapacity := defaultQueueCapacity
  workers := none

structure NodeTemplate where
  kind : String
  template : Option String
  params : Value
deriving DecidableEq

inductive DeviceDefault where
  | named (name : String)
  | detailed (kind : String) (id : Nat)
deriving DecidableEq, Repr

structure DefaultsSpec where
  backend : Option String
  device : Option DeviceDefault
  precision : Option String
deriving DecidableEq, Repr

structure NodeSpec where
  name : String
  kind : String
  threads : Option Nat
  sink : Bool
  backend : Option String
  device : Option String
  precision : Option String
  template : Option String
  params : Value
deriving DecidableEq

/-- The limits a graph asks for have the fields of a policy, and are read as
one. -/
abbrev ResourceLimits := Core.ResourcePolicy

structure GraphSpec where
  apiVersion : String
  kind : String
  includes : List String
  variableValues : List (String × Value)
  defaults : DefaultsSpec
  templates : List (String × NodeTemplate)
  allowCycles : Bool
  execution : ExecutionSpec
  nodes : List NodeSpec
  connections : List String
  limits : ResourceLimits
deriving DecidableEq

def GraphSpec.default : GraphSpec where
  apiVersion := "dg/v1"
  kind := "Graph"
  includes := []
  variableValues := []
  defaults := ⟨none, none, none⟩
  templates := []
  allowCycles := false
  execution := ExecutionSpec.default
  nodes := []
  connections := []
  limits := Core.ResourcePolicy.default

/-! ## Connections -/

structure ConnectionSpec where
  fromNode : String
  fromPort : String
  toNode : String
  toPort : String
deriving DecidableEq, Repr

namespace ConnectionSpec

/-- The characters that trimming removes: those with the Unicode property
`White_Space`. -/
def isWhitespace (c : Char) : Bool :=
  (9 <= c.toNat && c.toNat <= 13) || c.toNat == 32 || c.toNat == 0x85 || c.toNat == 0xA0 ||
    c.toNat == 0x1680 || (0x2000 <= c.toNat && c.toNat <= 0x200A) || c.toNat == 0x2028 ||
    c.toNat == 0x2029 || c.toNat == 0x202F || c.toNat == 0x205F || c.toNat == 0x3000

def trim (text : List Char) : List Char :=
  ((text.dropWhile isWhitespace).reverse.dropWhile isWhitespace).reverse

/-- The parts before and after the first occurrence of a separator. -/
def splitOnce (separator : List Char) : List Char -> Option (List Char × List Char)
  | [] => none
  | c :: rest =>
      if separator.isPrefixOf (c :: rest) then some ([], (c :: rest).drop separator.length)
      else (splitOnce separator rest).map fun parts => (c :: parts.1, parts.2)

def parse (spec : String) : Except Error ConnectionSpec :=
  match splitOnce ['-', '>'] spec.toList with
  | none => .error (.config ("invalid connection: " ++ spec))
  | some (source, target) =>
      match splitOnce ['.'] (trim source) with
      | none => .error (.config ("invalid source endpoint: " ++ String.ofList (trim source)))
      | some (fromNode, fromPort) =>
          match splitOnce ['.'] (trim target) with
          | none =>
              .error (.config ("invalid destination endpoint: " ++ String.ofList (trim target)))
          | some (toNode, toPort) =>
              .ok
                { fromNode := String.ofList (trim fromNode)
                  fromPort := String.ofList (trim fromPort)
                  toNode := String.ofList (trim toNode)
                  toPort := String.ofList (trim toPort) }

/-- The connection a text parses to, with the error forgotten. -/
def parseOk (spec : String) : Option ConnectionSpec := (parse spec).toOption

def toText (connection : ConnectionSpec) : String :=
  connection.fromNode ++ "." ++ connection.fromPort ++ " -> " ++ connection.toNode ++ "." ++
    connection.toPort

/-- The output port a connection leaves from, and the input port it enters. -/
def output (connection : ConnectionSpec) : String × String :=
  (connection.fromNode, connection.fromPort)

def input (connection : ConnectionSpec) : String × String :=
  (connection.toNode, connection.toPort)

example : parse " camera.out->  infer.in " = .ok ⟨"camera", "out", "infer", "in"⟩ := by
  decide +kernel

end ConnectionSpec
end Graph
end DyunGu
