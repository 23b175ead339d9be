import DyunGu.Graph.Error
import DyunGu.Graph.Packet

namespace DyunGu
namespace Graph

/-!
# The element context

`ElementIo` is what an element sees of the graph: ports to receive from and
send to, two stop flags, the end-of-stream state of its node, and the queue
of start times of packets that were received and not yet completed.

A receive is split at the point where the receiver lock is released.  What
the pipe answered under the lock is an argument of `recv`; everything the
function does afterwards is its body.  The same holds for a send: how the
retry loop over the senders ended is an argument, and the bookkeeping that
follows is the body.  The protocol modules supply the answers from explicit
pipes.  Metrics counters are written here and read by nobody, so they are
left out, as are the poisoned-lock branches, which need a panic under a lock.
-/

/-- The two ways in which a receive on a pipe ends without a packet. -/
inductive RecvTimeoutError where
  | timeout
  | disconnected
deriving DecidableEq, Repr

/-- End-of-stream state shared by all instances of one node. -/
structure EosState where
  seen : Bool
  broadcasts : Nat
  instances : Nat
deriving DecidableEq, Repr

namespace EosState

/-- The state a freshly built node with this many instances starts from. -/
def fresh (instances : Nat) : EosState where
  seen := false
  broadcasts := 0
  instances := instances

/-- The counting half of `broadcast_eos`: the caller may send the marker
only when it is the last instance to arrive. -/
def arrive (state : EosState) : EosState × Bool :=
  let arrived := { state with broadcasts := state.broadcasts + 1 }
  (arrived, decide (arrived.broadcasts = arrived.instances))

end EosState

/-- How the loop of `send` over the senders of a port ended. -/
inductive SendEnd where
  | delivered
  | stopped
  | disconnected
deriving DecidableEq, Repr

structure ElementIo where
  name : String
  inputs : List String
  outputs : List String
  stop : Bool
  controlStop : Bool
  eos : EosState
  packetStarts : List Nat
  maxPacketStarts : Nat
deriving DecidableEq, Repr

namespace ElementIo

variable {T R M : Type}

/-- The context that the builder gives to each instance of a node.  The
start queue is bounded by the queue capacity of the execution settings. -/
def built (name : String) (inputs outputs : List String) (instances queueCapacity : Nat) :
    ElementIo where
  name := name
  inputs := inputs
  outputs := outputs
  stop := false
  controlStop := false
  eos := EosState.fresh instances
  packetStarts := []
  maxPacketStarts := max queueCapacity 1

def shouldStop (io : ElementIo) : Bool :=
  io.stop || io.controlStop

/-- The error of a start queue that grew past its bound. -/
def packetStartsLimit (io : ElementIo) : Error :=
  .resourceLimit (io.name ++ "/packet_starts") io.packetStarts.length io.maxPacketStarts

/-- Receiving a data packet queues its start time and then checks the bound. -/
def startPacket (io : ElementIo) (now : Nat) : ElementIo :=
  { io with packetStarts := io.packetStarts ++ [now] }

def recv (io : ElementIo) (port : String)
    (answer : Except RecvTimeoutError (Packet T R M)) (now : Nat) :
    ElementIo × Except Error (Option (Packet T R M)) :=
  if port ∉ io.inputs then (io, .error (.unknownPort io.name port))
  else
    match answer with
    | .ok packet =>
        if packet.isEos then
          ({ io with eos := { io.eos with seen := true } }, .ok (some packet))
        else
          let started := io.startPacket now
          if started.maxPacketStarts < started.packetStarts.length then
            (started, .error started.packetStartsLimit)
          else (started, .ok (some packet))
    | .error .timeout =>
        if io.shouldStop then (io, .error .notRunning)
        else if io.eos.seen then (io, .ok (some Packet.eos)) else (io, .ok none)
    | .error .disconnected =>
        if io.shouldStop then (io, .error .notRunning)
        else if io.eos.seen then (io, .ok (some Packet.eos))
        else (io, .error (.runtime ("receive failed on " ++ port ++ ": disconnected")))

/-- Complete the oldest packet that is still being processed, if any. -/
def completePacket (io : ElementIo) : ElementIo :=
  { io with packetStarts := io.packetStarts.tail }

def finishPacket (io : ElementIo) : ElementIo :=
  io.completePacket

def dropPacket (io : ElementIo) : ElementIo :=
  io.completePacket

/-- A delivered data packet completes a received one, except in a source.
A disconnected downstream also completes it before the error is returned. -/
def send (io : ElementIo) (port : String) (packet : Packet T R M)
    (ending : SendEnd) : ElementIo × Except Error Unit :=
  if port ∉ io.outputs then (io, .error (.unknownPort io.name port))
  else
    match ending with
    | .stopped => (io, .error .notRunning)
    | .disconnected =>
        (io.completePacket,
          .error (.runtime (io.name ++ " downstream disconnected on " ++ port)))
    | .delivered =>
        if packet.isEos then (io, .ok ())
        else if io.inputs = [] then (io, .ok ())
        else (io.completePacket, .ok ())

/-- Frame-local errors that are not cancellations become dropped frames. -/
def absorbFrameResult {Output : Type} (result : Except Error Output) :
    Except Error (Option Output) :=
  match result with
  | .ok value => .ok (some value)
  | .error error =>
      if error.scope = .frameLocal && !error.isCancellation then .ok none else .error error

/-! ## What the operations do to the start queue -/

@[simp] theorem completePacket_name (io : ElementIo) : io.completePacket.name = io.name := rfl

@[simp] theorem completePacket_maxPacketStarts (io : ElementIo) :
    io.completePacket.maxPacketStarts = io.maxPacketStarts := rfl

@[simp] theorem completePacket_length (io : ElementIo) :
    io.completePacket.packetStarts.length = io.packetStarts.length - 1 :=
  List.length_tail

@[simp] theorem startPacket_maxPacketStarts (io : ElementIo) (now : Nat) :
    (io.startPacket now).maxPacketStarts = io.maxPacketStarts := rfl

@[simp] theorem startPacket_length (io : ElementIo) (now : Nat) :
    (io.startPacket now).packetStarts.length = io.packetStarts.length + 1 := by
  simp [startPacket]

/-- A data packet is accepted exactly when the queue had room for its start. -/
theorem recv_data (io : ElementIo) {port : String} (known : port ∈ io.inputs)
    {packet : Packet T R M} (data : packet.isEos = false) (now : Nat) :
    io.recv port (.ok packet) now =
      if io.packetStarts.length < io.maxPacketStarts then
        (io.startPacket now, .ok (some packet))
      else (io.startPacket now, .error (io.startPacket now).packetStartsLimit) := by
  simp only [recv, known, not_true, if_false, data, Bool.false_eq_true,
    startPacket_maxPacketStarts, startPacket_length]
  by_cases room : io.packetStarts.length < io.maxPacketStarts
  · rw [if_neg (by omega), if_pos room]
  · rw [if_pos (by omega), if_neg room]

theorem recv_eos (io : ElementIo) {port : String} (known : port ∈ io.inputs)
    {packet : Packet T R M} (marker : packet.isEos = true) (now : Nat) :
    io.recv port (.ok packet) now =
      ({ io with eos := { io.eos with seen := true } }, .ok (some packet)) := by
  simp only [recv, known, not_true, if_false, marker, if_true]

/-- A timeout answers with a synthetic end marker once any port of the node
has seen one, and with nothing before that. -/
theorem recv_timeout (io : ElementIo) {port : String} (known : port ∈ io.inputs)
    (live : io.shouldStop = false) (now : Nat) :
    io.recv port (.error .timeout : Except _ (Packet T R M)) now =
      (io, .ok (if io.eos.seen then some Packet.eos else none)) := by
  simp only [recv, known, not_true, if_false, live, Bool.false_eq_true]
  split <;> rfl

/-- A closed pipe is an end marker once one has been seen, else an error. -/
theorem recv_disconnected (io : ElementIo) {port : String} (known : port ∈ io.inputs)
    (live : io.shouldStop = false) (now : Nat) :
    io.recv port (.error .disconnected : Except _ (Packet T R M)) now =
      (io, if io.eos.seen then .ok (some Packet.eos)
        else .error (.runtime ("receive failed on " ++ port ++ ": disconnected"))) := by
  simp only [recv, known, not_true, if_false, live, Bool.false_eq_true]
  split <;> rfl

theorem send_delivered (io : ElementIo) {port : String} (known : port ∈ io.outputs)
    (inner : io.inputs ≠ []) {packet : Packet T R M}
    (data : packet.isEos = false) :
    io.send port packet .delivered = (io.completePacket, .ok ()) := by
  simp only [send, known, not_true, if_false, data, Bool.false_eq_true, inner]

end ElementIo
end Graph
end DyunGu
