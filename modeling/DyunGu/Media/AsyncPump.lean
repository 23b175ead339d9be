import DyunGu.Backend.Metrics
import Mathlib.Data.List.Basic

namespace DyunGu
namespace Media

open DyunGu.Backend (u64Max)

/-!
# The pump of an asynchronous media core

A media core sits on a backend that does not block: a value that is submitted
or a flush that is sent may be refused for now, and finished frames are polled
for.  The pump keeps one input at a time, tries it until it is accepted, and
queues what the backend has ready.

What the backend answers is not known.  Its errors are only asked for their
kind and for the error they are reported as.
-/

/-- Errors of the core crate: those that the pump makes itself, and the texts
of all others. -/
inductive MediaError where
  | media (message : String)
  | other (text : String)
deriving DecidableEq, Repr

inductive AvErrorKind where
  | again
  | endOfStream
  | other
deriving DecidableEq, Repr

/-- What is used of the errors of the codec library. -/
structure AvErrors (A : Type) where
  kind : A -> AvErrorKind
  mapAvError : A -> MediaError

inductive CoreState where
  | accepting
  | flushing
  | ended
  | failed
deriving DecidableEq, Repr

inductive PumpStep where
  | pending
  | outputReady
  | endOfStream
deriving DecidableEq, Repr

inductive SubmitResult (V A : Type) where
  | accepted
  | again (value : V)
  | error (error : A)
deriving DecidableEq, Repr

inductive Poll (F : Type) where
  | ready (frame : F)
  | pending
  | endOfStream
deriving DecidableEq, Repr

/-- The operations of a backend with states in `S`, which takes values in `V`
made from frames in `F`. -/
structure BackendOps (S F V A : Type) where
  convertInput : S -> F -> Except MediaError V × S
  submitValue : S -> V -> SubmitResult V A × S
  pollOutput : S -> Except A (Poll F) × S
  flushBackend : S -> Except A Unit × S
  resetBackend : S -> Except A Unit × S
  flushRequired : S -> Bool

/-- Of the counters of a session, those that the pump keeps. -/
structure MediaSessionStats where
  submitted : Nat
  accepted : Nat
  outputFrames : Nat
  againCount : Nat
  pendingCount : Nat
  flushCalls : Nat
  flushPolls : Nat
deriving DecidableEq, Repr

def MediaSessionStats.new : MediaSessionStats := ⟨0, 0, 0, 0, 0, 0, 0⟩

def bump (count : Nat) : Nat := min (count + 1) u64Max

def maxOutputQueue : Nat := 8

structure AsyncPump (F V : Type) where
  state : CoreState
  pendingMediaInput : Option F
  pendingBackendValue : Option V
  outputQueue : List F
  flushSent : Bool
  eosFromBackend : Bool
  error : Option MediaError
  stats : MediaSessionStats
deriving DecidableEq

namespace AsyncPump

variable {S F V A : Type}

def new : AsyncPump F V where
  state := .accepting
  pendingMediaInput := none
  pendingBackendValue := none
  outputQueue := []
  flushSent := false
  eosFromBackend := false
  error := none
  stats := .new

def canAcceptInput (pump : AsyncPump F V) : Bool :=
  decide (pump.state = .accepting) && pump.pendingMediaInput.isNone &&
    pump.pendingBackendValue.isNone

def hasInFlight (pump : AsyncPump F V) : Bool :=
  (decide (pump.state = .accepting) || decide (pump.state = .flushing)) &&
    (pump.pendingMediaInput.isSome || pump.pendingBackendValue.isSome ||
      !pump.outputQueue.isEmpty ||
      (decide (pump.state = .flushing) && !pump.eosFromBackend))

def isFlushing (pump : AsyncPump F V) : Bool := decide (pump.state = .flushing)

def popOutput (pump : AsyncPump F V) : Option F × AsyncPump F V :=
  match pump.outputQueue with
  | [] => (none, pump)
  | frame :: rest => (some frame, { pump with outputQueue := rest })

def submitInput (pump : AsyncPump F V) (frame : F) : Except MediaError Unit × AsyncPump F V :=
  if pump.state = .failed then
    (.error (pump.error.getD (.media "avcodec core is in failed state")), pump)
  else if pump.state = .ended then
    (.error (.media "avcodec core: input submitted after end of stream"), pump)
  else if pump.canAcceptInput then
    (.ok (), { pump with
      pendingMediaInput := some frame
      stats := { pump.stats with submitted := bump pump.stats.submitted } })
  else
    (.error (.media "avcodec core: cannot accept input while another input is pending"), pump)

/-- A frame is refused, or it is the only input of a pump that accepts. -/
theorem submitInput_cases (pump : AsyncPump F V) (frame : F) :
    (Exists fun error => pump.submitInput frame = (.error error, pump)) ∨
      (pump.state = .accepting ∧ pump.pendingMediaInput = none ∧
        pump.pendingBackendValue = none) ∧
      pump.submitInput frame = (.ok (), { pump with
        pendingMediaInput := some frame
        stats := { pump.stats with submitted := bump pump.stats.submitted } }) := by
  unfold submitInput
  split
  · exact Or.inl ⟨_, rfl⟩
  · split
    · exact Or.inl ⟨_, rfl⟩
    · split
      · rename_i accepts
        simp only [canAcceptInput, Bool.and_eq_true, decide_eq_true_eq,
          Option.isNone_iff_eq_none] at accepts
        exact Or.inr ⟨⟨accepts.1.1, accepts.1.2, accepts.2⟩, rfl⟩
      · exact Or.inl ⟨_, rfl⟩

def beginFlush (pump : AsyncPump F V) : AsyncPump F V :=
  if pump.state = .accepting then { pump with state := .flushing } else pump

/-- The answer of a step with the pump and the backend after it. -/
abbrev Stepped (S F V : Type) := Except MediaError PumpStep × AsyncPump F V × S

def fail (pump : AsyncPump F V) (error : MediaError) (backend : S) : Stepped S F V :=
  (.error error, { pump with error := some error, state := .failed }, backend)

def pendingAgain (pump : AsyncPump F V) : AsyncPump F V :=
  { pump with stats := { pump.stats with
      againCount := bump pump.stats.againCount
      pendingCount := bump pump.stats.pendingCount } }

def pending (pump : AsyncPump F V) : AsyncPump F V :=
  { pump with stats := { pump.stats with pendingCount := bump pump.stats.pendingCount } }

/-- Polls are counted once a flush has begun. -/
def countPoll (pump : AsyncPump F V) : AsyncPump F V :=
  if pump.state = .flushing then
    { pump with stats := { pump.stats with flushPolls := bump pump.stats.flushPolls } }
  else pump

theorem countPoll_eq (pump : AsyncPump F V) :
    pump.countPoll = { pump with stats := pump.countPoll.stats } := by
  unfold countPoll
  split
  · rfl
  · rfl

section Step

variable (errors : AvErrors A) (ops : BackendOps S F V A)

/-- The backend says that its stream has ended. -/
def endOfStream (pump : AsyncPump F V) (backend : S) : Stepped S F V :=
  let pump := { pump with eosFromBackend := true }
  if pump.outputQueue = [] then (.ok .endOfStream, { pump with state := .ended }, backend)
  else (.ok .pending, pump.pending, backend)

/-- The end of a step: ask the backend for one output. -/
def pollStage (pump : AsyncPump F V) (backend : S) : Stepped S F V :=
  let pump := pump.countPoll
  match ops.pollOutput backend with
  | (.ok (.ready frame), backend) =>
      if maxOutputQueue <= pump.outputQueue.length then
        pump.fail (.media ("avcodec core output queue exceeded maximum " ++
          toString maxOutputQueue)) backend
      else
        (.ok .outputReady, { pump with
          outputQueue := pump.outputQueue ++ [frame]
          stats := { pump.stats with outputFrames := bump pump.stats.outputFrames } }, backend)
  | (.ok .pending, backend) => (.ok .pending, pump.pending, backend)
  | (.ok .endOfStream, backend) => pump.endOfStream backend
  | (.error error, backend) =>
      match errors.kind error with
      | .again => (.ok .pending, pump.pendingAgain, backend)
      | .endOfStream => pump.endOfStream backend
      | .other => pump.fail (errors.mapAvError error) backend

/-- A flush is due once the input is through. -/
def flushDue (pump : AsyncPump F V) : Bool :=
  decide (pump.state = .flushing) && !pump.flushSent && pump.pendingMediaInput.isNone &&
    pump.pendingBackendValue.isNone

def afterSubmit (pump : AsyncPump F V) (backend : S) : Stepped S F V :=
  if pump.flushDue then
    if ops.flushRequired backend then
      let pump := { pump with
        stats := { pump.stats with flushCalls := bump pump.stats.flushCalls } }
      match ops.flushBackend backend with
      | (.ok (), backend) => pollStage errors ops { pump with flushSent := true } backend
      | (.error error, backend) =>
          match errors.kind error with
          | .again => (.ok .pending, pump.pendingAgain, backend)
          | .endOfStream => pollStage errors ops { pump with flushSent := true } backend
          | .other => pump.fail (errors.mapAvError error) backend
    else pollStage errors ops { pump with flushSent := true, eosFromBackend := true } backend
  else pollStage errors ops pump backend

/-- Submit a value that is no longer held: a refused one is held again. -/
def submit (pump : AsyncPump F V) (backend : S) (value : V) : Stepped S F V :=
  match ops.submitValue backend value with
  | (.accepted, backend) =>
      afterSubmit errors ops
        { pump with stats := { pump.stats with accepted := bump pump.stats.accepted } } backend
  | (.again value, backend) =>
      (.ok .pending, { pump.pendingAgain with pendingBackendValue := some value }, backend)
  | (.error error, backend) =>
      match errors.kind error with
      | .endOfStream => pump.fail
          (.media "avcodec backend returned end-of-stream during submit before flush") backend
      | .again | .other => pump.fail (errors.mapAvError error) backend

/-- A value that is held goes before a frame that waits. -/
def inputStage (pump : AsyncPump F V) (backend : S) : Stepped S F V :=
  match pump.pendingBackendValue, pump.pendingMediaInput with
  | some value, _ => submit errors ops { pump with pendingBackendValue := none } backend value
  | none, some frame =>
      match ops.convertInput backend frame with
      | (.ok value, backend) =>
          submit errors ops { pump with pendingMediaInput := none } backend value
      | (.error error, backend) => { pump with pendingMediaInput := none }.fail error backend
  | none, none => afterSubmit errors ops pump backend

def pumpStep (pump : AsyncPump F V) (backend : S) : Stepped S F V :=
  match pump.error with
  | some error => (.error error, { pump with error := none, state := .failed }, backend)
  | none =>
      match pump.state with
      | .ended => (.ok .endOfStream, pump, backend)
      | .failed => (.error (.media "avcodec core is in failed state"), pump, backend)
      | .accepting | .flushing => inputStage errors ops pump backend

/-- Whatever the pump was, a reset makes it a new one. -/
def reset (backend : S) : Except MediaError Unit × AsyncPump F V × S :=
  let (answer, backend) := ops.resetBackend backend
  (answer.mapError errors.mapAvError, new, backend)

end Step
end AsyncPump
end Media
end DyunGu
