import DyunGu.Lib.Machine
import DyunGu.Graph.Error
import DyunGu.Stream.Hub

namespace DyunGu
namespace Stream

/-!
# Stream elements and their reconnections

The element that pulls a stream and the one that pushes it share a loop: they
open the endpoint, retrying, go round with it until it fails, and open it
again.  The two differ in what one round does.

A step of the loop ends where it asks its surroundings for something: the
connector, the stream, the graph, the clock, or whether to stop.  What these
answer is the label of the step.
-/

structure RetryConfig where
  initialBackoffMs : Nat
  maxBackoffMs : Nat
  multiplier : Nat
  jitterPercent : Nat
  maxAttempts : Nat
deriving DecidableEq, Repr

/-- No limit is written as zero. -/
def RetryConfig.shouldRetry (retry : RetryConfig) (attempt : Nat) : Bool :=
  decide (retry.maxAttempts = 0) || decide (attempt <= retry.maxAttempts)

def streamToGraphError : Error -> Graph.Error
  | .invalidArgument message => .config message
  | other => .runtime other.redacted

/-- What an attempt to open the endpoint comes to.  One that opens may still
have tracks that the element cannot use. -/
inductive Opening where
  | opened
  | unusable (error : Graph.Error)
  | failed (error : Error)
deriving DecidableEq, Repr

/-- What one round with an open endpoint comes to.  A failed or rejected round
may upset the graph before the element can reconnect. -/
inductive Verdict (Body : Type) where
  | again (body : Body)
  | transferred (body : Body) (resets : Bool)
  | failed (error : Error) (upset : Option Graph.Error)
  | rejected (upset : Option Graph.Error)
  | done (result : Except Graph.Error Unit)

/-- The parts in which the elements differ: what they keep between rounds, at
first and after a reconnection, and the round itself. -/
structure Loop (Body Input : Type) where
  retry : RetryConfig
  fresh : Body
  resumed : Body
  round : Body -> Input -> Verdict Body

/-- Where the element is: before an attempt to open the endpoint, in the pause
after a failed one, with an open endpoint, in the pause after that failed, at
the head of the loop without an endpoint, or done. -/
inductive Phase where
  | opening (attempt : Nat)
  | backingOff (attempt : Nat)
  | streaming
  | pausing
  | returning
  | finished (result : Except Graph.Error Unit)

/-- What has happened since a frame was last transferred: attempts to open the
endpoint other than the first of all, failures after which the element went on,
and those of them that were failures of an open endpoint. -/
structure Ledger where
  begun : Bool
  attempts : Nat
  failures : Nat
  losses : Nat
deriving DecidableEq, Repr

namespace Ledger

def empty : Ledger := ⟨false, 0, 0, 0⟩

def attempt (ledger : Ledger) : Ledger :=
  if ledger.begun then { ledger with attempts := ledger.attempts + 1 }
  else { ledger with begun := true }

def fail (ledger : Ledger) : Ledger := { ledger with failures := ledger.failures + 1 }

def lose (ledger : Ledger) : Ledger := { ledger.fail with losses := ledger.losses + 1 }

def transfer (ledger : Ledger) : Ledger := ⟨ledger.begun, 0, 0, 0⟩

end Ledger

structure Running (Body : Type) where
  phase : Phase
  started : Bool
  reconnectAttempt : Nat
  body : Body
  ledger : Ledger

inductive Answer (Input : Type) where
  | stop
  | connect (outcome : Opening)
  | wake
  | proceed
  | input (input : Input)

namespace Loop

variable {Body Input : Type} (loop : Loop Body Input)

def start : Running Body := ⟨.opening 0, false, 0, loop.fresh, Ledger.empty⟩

def finish (running : Running Body) (result : Except Graph.Error Unit) : Running Body :=
  { running with phase := .finished result }

/-- One round of opening with retries, and what the element does when it is
over. -/
def openWithRetry (running : Running Body) (attempt : Nat) : Opening -> Running Body
  | .opened =>
      if running.started then
        { running with phase := .streaming, reconnectAttempt := 0, body := loop.resumed }
      else { running with phase := .streaming, started := true }
  | .unusable error => finish running (.error error)
  | .failed error =>
      if error.retryable && loop.retry.shouldRetry (attempt + 1) then
        { running with phase := .backingOff (attempt + 1), ledger := running.ledger.fail }
      else finish running (.error (streamToGraphError error))

/-- The endpoint is given up for a new one. -/
def reconnect (running : Running Body) : Option Graph.Error -> Running Body
  | none =>
      { running with
        phase := .pausing
        reconnectAttempt := running.reconnectAttempt + 1
        ledger := running.ledger.lose }
  | some error => finish running (.error error)

def conclude (running : Running Body) : Verdict Body -> Running Body
  | .again body => { running with body := body }
  | .transferred body resets =>
      { running with
        body := body
        reconnectAttempt := if resets then 0 else running.reconnectAttempt
        ledger := running.ledger.transfer }
  | .failed error upset =>
      if error.retryable && loop.retry.shouldRetry (running.reconnectAttempt + 1) then
        reconnect running upset
      else finish running (.error (streamToGraphError error))
  | .rejected upset =>
      if loop.retry.shouldRetry (running.reconnectAttempt + 1) then reconnect running upset
      else finish running (.error (.runtime "publisher rejected frame: stream closed"))
  | .done result => finish running result

def step (running : Running Body) : Answer Input -> Option (Running Body)
  | .stop =>
      match running.phase with
      | .opening _ | .backingOff _ | .pausing =>
          some (finish running (.error (streamToGraphError .closed)))
      | .streaming | .returning => some (finish running (.error .notRunning))
      | .finished _ => none
  | .connect outcome =>
      match running.phase with
      | .opening attempt =>
          some (loop.openWithRetry { running with ledger := running.ledger.attempt } attempt
            outcome)
      | _ => none
  | .wake =>
      match running.phase with
      | .backingOff attempt => some { running with phase := .opening attempt }
      | .pausing => some { running with phase := .returning }
      | _ => none
  | .proceed =>
      match running.phase with
      | .returning => some { running with phase := .opening 0 }
      | _ => none
  | .input input =>
      match running.phase with
      | .streaming => some (loop.conclude running (loop.round running.body input))
      | _ => none

def machine : Machine (Running Body) (Answer Input) := ⟨loop.step⟩

end Loop

/-! ## The pull element -/

/-- What becomes of a frame in the graph. -/
inductive Fate where
  | oversized (requested limit : Nat)
  | unconvertible
  | unsent (error : Graph.Error)
  | sent
deriving DecidableEq, Repr

/-- What the source gives: the end, as a frame or not, and how it was passed
on, a frame, nothing in time, or a failure. -/
inductive PullInput where
  | ended (broadcast : Except Graph.Error Unit)
  | frame (isKeyframe : Bool) (fate : Fate)
  | timedOut
  | failed (error : Error)

/-- Frames before the first keyframe after a reconnection are passed over. -/
def pullRound (needsKeyframe : Bool) : PullInput -> Verdict Bool
  | .ended broadcast => .done broadcast
  | .frame isKeyframe fate =>
      if needsKeyframe && !isKeyframe then .again needsKeyframe
      else
        match fate with
        | .oversized requested limit =>
            .done (.error (.resourceLimit "frame_bytes" requested limit))
        | .unconvertible => .again false
        | .unsent error => .done (.error error)
        | .sent => .transferred false false
  | .timedOut => .again needsKeyframe
  | .failed error => .failed error none

def pull (retry : RetryConfig) : Loop Bool PullInput := ⟨retry, false, true, pullRound⟩

/-! ## The push element -/

/-- What comes from the graph, and what the sink makes of it.  A packet that
was pushed is settled with the graph afterwards. -/
inductive PushInput where
  | nothing
  | unreceived (error : Graph.Error)
  | ended (closed : Except Error Unit)
  | unconvertible (error : Graph.Error)
  | pushed (result : Except Error DispatchResult) (upset : Option Graph.Error)

def pushRound (_ : Unit) : PushInput -> Verdict Unit
  | .nothing => .again ()
  | .unreceived error => .done (.error error)
  | .ended (.ok _) => .done (.ok ())
  | .ended (.error error) =>
      .done (.error (.runtime ("publisher close failed: " ++ error.toText)))
  | .unconvertible error => .done (.error error)
  | .pushed (.ok .accepted) none => .transferred () true
  | .pushed (.ok .accepted) (some error) => .done (.error error)
  | .pushed (.ok .droppedByPolicy) none => .again ()
  | .pushed (.ok .droppedByPolicy) (some error) => .done (.error error)
  | .pushed (.ok .rejectedClosed) upset => .rejected upset
  | .pushed (.error error) upset => .failed error upset

def push (retry : RetryConfig) : Loop Unit PushInput := ⟨retry, (), (), pushRound⟩

end Stream
end DyunGu
