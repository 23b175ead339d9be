import DyunGu.Core.Tensor
import DyunGu.Lib.Outcome

namespace DyunGu
namespace Openvino

open Core

/-!
# The requests of the OpenVINO backend

A compiled model makes infer requests.  A submission takes one that is free,
gives it the input tensors and starts it; a poll takes the first one that does
not have to wait, copies its outputs and puts it back.

What the SDK answers is an argument of each operation, and the calls on the
requests that an operation makes are part of its outcome.  Requests and compiled
models are named in the order in which they are made.
-/

inductive Error where
  | backend (message : String)
  | backendUnavailable (message : String)
  | invalidOption (message : String)
  | unsupportedPrecision (dtype : DataType)
  | core (message : String)
deriving DecidableEq, Repr

/-! ## Tensors -/

/-- The element types of the SDK that have a data type. -/
inductive ElementType where
  | f32
  | f16
  | bf16
  | u8
  | i8
  | u16
  | i16
  | i32
  | u32
  | i64
  | u64
deriving DecidableEq, Repr

def mapDataType : ElementType -> DataType
  | .f32 => ⟨.float, 32, 1⟩
  | .f16 => ⟨.float, 16, 1⟩
  | .bf16 => ⟨.bfloat, 16, 1⟩
  | .u8 => ⟨.uint, 8, 1⟩
  | .i8 => ⟨.int, 8, 1⟩
  | .u16 => ⟨.uint, 16, 1⟩
  | .i16 => ⟨.int, 16, 1⟩
  | .i32 => ⟨.int, 32, 1⟩
  | .u32 => ⟨.uint, 32, 1⟩
  | .i64 => ⟨.int, 64, 1⟩
  | .u64 => ⟨.uint, 64, 1⟩

def mapElementType (dtype : DataType) : Except Error ElementType :=
  if dtype = ⟨.float, 32, 1⟩ then .ok .f32
  else if dtype = ⟨.float, 16, 1⟩ then .ok .f16
  else if dtype = ⟨.bfloat, 16, 1⟩ then .ok .bf16
  else if dtype = ⟨.uint, 8, 1⟩ then .ok .u8
  else if dtype = ⟨.int, 8, 1⟩ then .ok .i8
  else if dtype = ⟨.uint, 16, 1⟩ then .ok .u16
  else if dtype = ⟨.int, 16, 1⟩ then .ok .i16
  else if dtype = ⟨.int, 32, 1⟩ then .ok .i32
  else if dtype = ⟨.uint, 32, 1⟩ then .ok .u32
  else if dtype = ⟨.int, 64, 1⟩ then .ok .i64
  else if dtype = ⟨.uint, 64, 1⟩ then .ok .u64
  else .error (.unsupportedPrecision dtype)

/-- A data type that a port is described by can be submitted. -/
theorem mapElementType_mapDataType (elementType : ElementType) :
    mapElementType (mapDataType elementType) = .ok elementType := by
  cases elementType <;> rfl

/-- What the backend keeps of a port of its model. -/
structure TensorInfo where
  name : Option String
  shape : Shape
  dtype : DataType
  layout : Option DataFormat
  device : DeviceKind
deriving DecidableEq, Repr

/-- A tensor in the memory of the SDK. -/
structure OvTensor where
  elementType : ElementType
  dims : List Nat
  bytes : List UInt8
deriving DecidableEq, Repr

def i64Max : Nat := 2 ^ 63 - 1

def checkDims (dims : List Nat) : Except Error Unit :=
  if dims.any fun dim => decide (i64Max < dim) then
    .error (.invalidOption "shape dimension overflow")
  else .ok ()

/-- A call of the SDK that gives nothing back fails with a text or succeeds. -/
def called (answer : Option String) (error : String -> Error) : Except Error Unit :=
  match answer with
  | some text => .error (error text)
  | none => .ok ()

/-- What the SDK says to a new tensor: of its shape, and of its size in bytes. -/
structure TensorAnswer where
  shape : Option String
  size : Except String Nat

/-- An input is what reading its buffer gives. -/
abbrev Input := Except String (List UInt8)

def fillInputTensor (answer : TensorAnswer) (info : TensorInfo) (input : Input) :
    Except Error OvTensor := do
  checkDims info.shape.dims
  called answer.shape .backend
  let elementType <- mapElementType info.dtype
  let size <- answer.size.mapError .backend
  let bytes <- input.mapError .core
  if bytes.length ≠ size then
    .error (.backend s!"OpenVINO input size mismatch: expected {size}, got {bytes.length}")
  else .ok ⟨elementType, info.shape.dims, bytes⟩

def fillInputTensors (answers : Nat -> TensorAnswer) :
    Nat -> List TensorInfo -> List Input -> Except Error (List OvTensor)
  | index, info :: infos, input :: inputs => do
      let tensor <- fillInputTensor (answers index) info input
      let tensors <- fillInputTensors answers (index + 1) infos inputs
      return tensor :: tensors
  | _, _, _ => .ok []

/-! ## Requests -/

/-- A request and the compiled model that made it. -/
structure Request where
  handle : Nat
  model : Nat
deriving DecidableEq, Repr

structure InFlightRequest where
  request : Request
  inputs : List OvTensor
  sequence : UInt64
deriving DecidableEq, Repr

/-- A result that is not ready and a request that is busy are told from other
failures. -/
inductive Wait where
  | finished
  | notReady
  | failed
deriving DecidableEq, Repr

/-- A call on a request that has an effect. -/
inductive Call where
  | create (model : Nat)
  | set (index : Nat) (tensor : OvTensor)
  | start (accepted : Bool)
  | wait (answer : Wait)
  | read (index : Nat) (bytes : List UInt8)
  | cancel (done : Bool)
  | release
deriving DecidableEq, Repr

abbrev Calls := List (Nat × Call)

/-- Calls on one request. -/
def Request.calls (request : Request) (calls : List Call) : Calls :=
  calls.map fun call => (request.handle, call)

/-- The free request that was put back last is the first.  `made` and
`compilations` name what the SDK makes next. -/
structure Backend where
  inputInfos : List TensorInfo
  outputInfos : List TensorInfo
  compiledModel : Option Nat
  freeRequests : List Request
  inFlight : List InFlightRequest
  maxInFlight : Nat
  made : Nat
  compilations : Nat
deriving DecidableEq, Repr

structure Outcome (Reply : Type) where
  backend : Backend
  calls : Calls
  reply : Except Error Reply

namespace Backend

def new : Backend where
  inputInfos := []
  outputInfos := []
  compiledModel := none
  freeRequests := []
  inFlight := []
  maxInFlight := 2
  made := 0
  compilations := 0

/-- Requests are made until one fails. -/
def makeRequests (answer : Nat -> Option String) (model : Nat) :
    Nat -> Backend -> Outcome Unit
  | 0, backend => ⟨backend, [], .ok ()⟩
  | count + 1, backend =>
      match answer count with
      | some text => ⟨backend, [], .error (.backendUnavailable text)⟩
      | none =>
          let request : Request := ⟨backend.made, model⟩
          let rest := makeRequests answer model count
            { backend with
              freeRequests := request :: backend.freeRequests, made := backend.made + 1 }
          ⟨rest.backend, request.calls [.create model] ++ rest.calls, rest.reply⟩

def maxIoCount : Nat := 1024

/-- What the SDK says to the initialization: `contract` is the outcome of the checks
before the limit is read, and `opened` that of all checks and calls from there
until the ports of the model are described. -/
structure InitAnswers where
  contract : Except Error Unit
  opened : Except Error Unit
  inputInfos : List TensorInfo
  outputInfos : List TensorInfo
  described : Except Error Unit
  made : Nat -> Option String

def checkCounts (inputs outputs : Nat) : Except Error Unit :=
  if maxIoCount < inputs then
    .error (.backend s!"openvino model declares {inputs} inputs, limit is {maxIoCount}")
  else if maxIoCount < outputs then
    .error (.backend s!"openvino model declares {outputs} outputs, limit is {maxIoCount}")
  else .ok ()

/-- Everything of the initialization that may fail before requests are made. -/
def InitAnswers.prepared (answers : InitAnswers) : Except Error Unit := do
  answers.opened
  checkCounts answers.inputInfos.length answers.outputInfos.length
  answers.described

def init (options : Nat) (answers : InitAnswers) (backend : Backend) : Outcome Unit :=
  match answers.contract with
  | .error error => ⟨backend, [], .error error⟩
  | .ok () =>
      let limited := { backend with maxInFlight := max 1 (min options 64) }
      match answers.prepared with
      | .error error => ⟨limited, [], .error error⟩
      | .ok () =>
          let model := backend.compilations
          let outcome := makeRequests answers.made model limited.maxInFlight
            { limited with compilations := model + 1 }
          match outcome.reply with
          | .error error => ⟨outcome.backend, outcome.calls, .error error⟩
          | .ok () =>
              ⟨{ outcome.backend with
                  compiledModel := some model
                  inputInfos := answers.inputInfos
                  outputInfos := answers.outputInfos }, outcome.calls, .ok ()⟩

/-! ## Submissions -/

def takeFreeRequest (answer : Option String) (backend : Backend) : Outcome Request :=
  match backend.freeRequests with
  | request :: rest => ⟨{ backend with freeRequests := rest }, [], .ok request⟩
  | [] =>
      if backend.maxInFlight <= backend.freeRequests.length + backend.inFlight.length then
        ⟨backend, [], .error (.backend "OpenVINO request pool exhausted")⟩
      else
        match backend.compiledModel with
        | none => ⟨backend, [], .error (.backend "compiled model missing")⟩
        | some model =>
            match answer with
            | some text => ⟨backend, [], .error (.backendUnavailable text)⟩
            | none =>
                let request : Request := ⟨backend.made, model⟩
                ⟨{ backend with made := backend.made + 1 }, request.calls [.create model],
                  .ok request⟩

/-- Input tensors are set until one is refused. -/
def setInputs (answers : Nat -> Option String) :
    Nat -> List OvTensor -> List Call × Except Error Unit
  | _, [] => ([], .ok ())
  | index, tensor :: tensors =>
      match answers index with
      | some text => ([], .error (.backend text))
      | none =>
          let rest := setInputs answers (index + 1) tensors
          (.set index tensor :: rest.1, rest.2)

structure SubmitAnswers where
  tensors : Nat -> TensorAnswer
  created : Option String
  set : Nat -> Option String
  started : Option String

/-- A request that could not be started is given up. -/
def submit (inputs : List Input) (sequence : UInt64) (answers : SubmitAnswers)
    (backend : Backend) : Outcome Unit :=
  if inputs.length ≠ backend.inputInfos.length then
    ⟨backend, [], .error (.invalidOption "input count must match model inputs")⟩
  else
    match fillInputTensors answers.tensors 0 backend.inputInfos inputs with
    | .error error => ⟨backend, [], .error error⟩
    | .ok tensors =>
        let taken := takeFreeRequest answers.created backend
        match taken.reply with
        | .error error => ⟨taken.backend, taken.calls, .error error⟩
        | .ok request =>
            match setInputs answers.set 0 tensors with
            | (sets, .error error) =>
                ⟨taken.backend, taken.calls ++ request.calls (sets ++ [.release]), .error error⟩
            | (sets, .ok ()) =>
                match answers.started with
                | some text =>
                    ⟨taken.backend,
                      taken.calls ++ request.calls (sets ++ [.start false, .release]),
                      .error (.backend text)⟩
                | none =>
                    ⟨{ taken.backend with
                        inFlight := taken.backend.inFlight ++ [⟨request, tensors, sequence⟩] },
                      taken.calls ++ request.calls (sets ++ [.start true]), .ok ()⟩

/-! ## Polls -/

inductive InferPoll where
  | pending
  | ready (outputs : List (List UInt8)) (sequence : UInt64)
deriving DecidableEq, Repr

/-- The calls on the requests in flight up to the first that need not wait, and
that one with those that stay. -/
def takeReady (answers : Nat -> Wait) :
    Nat -> List InFlightRequest -> Calls × Option (InFlightRequest × List InFlightRequest)
  | _, [] => ([], none)
  | index, entry :: entries =>
      match answers index with
      | .notReady =>
          let rest := takeReady answers (index + 1) entries
          (entry.request.calls [.wait .notReady] ++ rest.1,
            rest.2.map fun found => (found.1, entry :: found.2))
      | answer => (entry.request.calls [.wait answer], some (entry, entries))

/-- What the SDK and the host say to the copy of an output. -/
structure OutputAnswer where
  tensor : Option String
  allocated : Option String
  raw : Except String (List UInt8)

def outputBytes (info : TensorInfo) : Except TensorError Nat :=
  (TensorDesc.new info.shape info.dtype (info.layout.getD .auto) .cpu).storageBytes

/-- The length that an output must have, if there is memory for it. -/
def OutputAnswer.expected (answer : OutputAnswer) (info : TensorInfo) : Except Error Nat := do
  called answer.tensor .backend
  let length <- (outputBytes info).mapError fun error => .core error.toText
  called answer.allocated .core
  return length

def copyOutputTensors (answers : Nat -> OutputAnswer) :
    Nat -> List TensorInfo -> List Call × Except Error (List (List UInt8))
  | _, [] => ([], .ok [])
  | index, info :: infos =>
      match (answers index).expected info with
      | .error error => ([], .error error)
      | .ok length =>
          match (answers index).raw with
          | .error text => ([], .error (.backend text))
          | .ok bytes =>
              if bytes.length ≠ length then
                ([.read index bytes], .error (.backend
                  s!"OpenVINO output size mismatch: expected {length}, got {bytes.length}"))
              else
                let rest := copyOutputTensors answers (index + 1) infos
                (.read index bytes :: rest.1, rest.2.map fun outputs => bytes :: outputs)

structure PollAnswers where
  waits : Nat -> Wait
  first : Option String
  outputs : Nat -> OutputAnswer

/-- A request whose outputs cannot be copied is given up. -/
def poll (answers : PollAnswers) (backend : Backend) : Outcome InferPoll :=
  match takeReady answers.waits 0 backend.inFlight with
  | (waits, none) => ⟨backend, waits, .ok .pending⟩
  | (waits, some (entry, entries)) =>
      let removed := { backend with inFlight := entries }
      let returned := { removed with freeRequests := entry.request :: removed.freeRequests }
      match answers.first with
      | some text =>
          ⟨returned, waits, .error (.backend
            (s!"OpenVINO async inference failed for sequence {entry.sequence}: " ++ text))⟩
      | none =>
          match copyOutputTensors answers.outputs 0 backend.outputInfos with
          | (reads, .error error) =>
              ⟨removed, waits ++ entry.request.calls (reads ++ [.release]), .error error⟩
          | (reads, .ok outputs) =>
              ⟨returned, waits ++ entry.request.calls reads,
                .ok (.ready outputs entry.sequence)⟩

/-! ## Cancellation -/

structure CancelReport where
  requested : Nat
  completed : Nat
  abandoned : Nat
  failed : Nat
  unsupported : Nat
deriving DecidableEq, Repr

/-- All requests in flight are given up. -/
def cancelAll (answers : Nat -> Bool) : Nat -> List InFlightRequest -> Calls
  | _, [] => []
  | index, entry :: entries =>
      entry.request.calls [.cancel (answers index), .release] ++
        cancelAll answers (index + 1) entries

def cancel (answers : Nat -> Bool) (backend : Backend) : Outcome CancelReport :=
  let requested := backend.inFlight.length
  let completed := ((List.range requested).filter answers).length
  ⟨{ backend with inFlight := [] }, cancelAll answers 0 backend.inFlight,
    .ok ⟨requested, completed, 0, requested - completed, 0⟩⟩

/-! ## Other shapes -/

structure ReshapeAnswers where
  ports : Nat -> Option String
  reshaped : Option String
  compiled : Option String
  made : Nat -> Option String
  outputCount : Except Error Nat
  outputInfos : Except Error (List TensorInfo)

def checkPorts (answers : Nat -> Option String) : Nat -> List Shape -> Except Error Unit
  | _, [] => .ok ()
  | index, shape :: shapes => do
      checkDims shape.dims
      called (answers index) .backend
      checkPorts answers (index + 1) shapes

/-- The description of an input keeps its name, its data type and its layout. -/
def reshapedInfo (info : TensorInfo) (shape : Shape) : TensorInfo where
  name := info.name
  shape := shape
  dtype := info.dtype
  layout := some (info.layout.getD .auto)
  device := .cpu

def describeOutputs (answers : ReshapeAnswers) : Except Error (List TensorInfo) := do
  let count <- answers.outputCount
  if maxIoCount < count then
    .error (.backend s!"openvino reshaped model declares {count} outputs, limit is {maxIoCount}")
  else answers.outputInfos

/-- What is checked before a request is given up. -/
def reshapeChecks (shapes : List Shape) (answers : ReshapeAnswers) (backend : Backend) :
    Except Error Unit := do
  if backend.inFlight ≠ [] then
    throw (.backend "cannot reshape OpenVINO model while requests are in flight")
  if backend.compiledModel = none then throw (.invalidOption "backend not initialized")
  if shapes.length ≠ backend.inputInfos.length then
    throw (.invalidOption "reshape shape count must match model inputs")
  checkPorts answers.ports 0 shapes
  called answers.reshaped .backend

/-- The requests are made again, by the model that is compiled for the shapes. -/
def reshape (shapes : List Shape) (answers : ReshapeAnswers) (backend : Backend) :
    Outcome Unit :=
  match reshapeChecks shapes answers backend with
  | .error error => ⟨backend, [], .error error⟩
  | .ok () =>
      let releases := backend.freeRequests.flatMap fun request => request.calls [.release]
      let cleared := { backend with freeRequests := [] }
      match answers.compiled with
      | some text => ⟨cleared, releases, .error (.backendUnavailable text)⟩
      | none =>
          let model := backend.compilations
          let outcome := makeRequests answers.made model backend.maxInFlight
            { cleared with compilations := model + 1 }
          match outcome.reply with
          | .error error => ⟨outcome.backend, releases ++ outcome.calls, .error error⟩
          | .ok () =>
              let compiled := { outcome.backend with
                compiledModel := some model
                inputInfos := (backend.inputInfos.zip shapes).map fun pair =>
                  reshapedInfo pair.1 pair.2 }
              match describeOutputs answers with
              | .error error => ⟨compiled, releases ++ outcome.calls, .error error⟩
              | .ok infos =>
                  ⟨{ compiled with outputInfos := infos }, releases ++ outcome.calls, .ok ()⟩

/-! ## A synchronous run -/

/-- A submission and polls until one of them is not pending.  `none` is a run
that polls on. -/
def runPolls : List PollAnswers -> Backend -> Calls -> Option (Outcome (List (List UInt8)))
  | [], _, _ => none
  | answers :: later, backend, calls =>
      let polled := poll answers backend
      match polled.reply with
      | .error error => some ⟨polled.backend, calls ++ polled.calls, .error error⟩
      | .ok (.ready outputs _) => some ⟨polled.backend, calls ++ polled.calls, .ok outputs⟩
      | .ok .pending => runPolls later polled.backend (calls ++ polled.calls)

def run (inputs : List Input) (submitted : SubmitAnswers) (polls : List PollAnswers)
    (backend : Backend) : Option (Outcome (List (List UInt8))) :=
  let outcome := submit inputs 0 submitted backend
  match outcome.reply with
  | .error error => some ⟨outcome.backend, outcome.calls, .error error⟩
  | .ok () => runPolls polls outcome.backend outcome.calls

end Backend
end Openvino
end DyunGu
