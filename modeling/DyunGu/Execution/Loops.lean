import DyunGu.Elements.OneAtATime
import DyunGu.Graph.Build
import DyunGu.Graph.SinkBudget
import DyunGu.Lib.Network

namespace DyunGu
namespace Execution

open DyunGu.Graph
open DyunGu.Elements (FilterMode)

/-!
# The run loops of elements

Between two receives a run loop does a stretch of sends and ends, or comes back
to receive.  The stretch is computed from what was received, and is then worked
off one pipe at a time, since a send waits where a pipe is full.

The same stretches can be worked off with nobody waiting.  This gives the plain
run of an element over a list of packets, which knows of no pipes and no
interleaving.

What a source computes for an index, what a mock runtime answers and how a
sink measures a packet are arguments.  Start times are only measured, so all
are zero here.  Nobody asks the workers to stop.
-/

inductive DistributionStrategy where
  | roundRobin
  | broadcast
deriving DecidableEq, Repr

/-- What distinguishes the elements, with the state of their loops. -/
inductive Element (T R M : Type) where
  | source (count : Nat) (make : Nat -> Except Error T)
  | input (queue : List T)
  | filter (mode : FilterMode)
  | distributor (strategy : DistributionStrategy) (next : Nat)
  | mockInference (run : T -> Except Error (List T))
  | sink (layout : PayloadLayout T) (collector : MeteredCollector T R)

inductive Op (T R M : Type) where
  | send (port : String) (packet : Packet T R M)
  | finish
  | arrive

/-- What a loop does before it next receives, and with what it returns after
that, if it does. -/
structure Stretch (T R M : Type) where
  element : Element T R M
  ops : List (Op T R M)
  result : Option (Except Error Unit)

variable {T R M : Type}

/-! ## Ports of a distributor -/

/-- `str::parse::<usize>`. -/
def parseUsize (text : List Char) : Option Nat :=
  let digits := match text with
    | '+' :: rest => rest
    | _ => text
  if digits.isEmpty || digits.any (fun c => !c.isDigit) then none
  else
    let value := digits.foldl (fun value c => value * 10 + (c.toNat - '0'.toNat)) 0
    if value <= Core.usizeMax then some value else none

def branchIndex (name : String) : Option Nat :=
  match name.toList with
  | 'o' :: 'u' :: 't' :: rest => parseUsize rest
  | _ => none

/-- The indices of the connected ports, in the order of the port table. -/
def outputPorts (io : ElementIo) : List Nat :=
  io.outputs.filterMap branchIndex

def branchPort (index : Nat) : String := "out" ++ toString index

/-! ## The loops -/

/-- `broadcast_eos`: only the last instance to arrive sends the markers, so
what follows the arrival is left out for the others. -/
def broadcastEos (io : ElementIo) : List (Op T R M) :=
  .arrive :: io.outputs.map fun port => .send port Packet.eos

/-- The loop of a source from an index on. -/
def sourceOps (io : ElementIo) (make : Nat -> Except Error T) :
    Nat -> Nat -> List (Op T R M) × Except Error Unit
  | 0, _ => (broadcastEos io, .ok ())
  | count + 1, index =>
      if io.shouldStop then ([], .error .notRunning)
      else
        match make index with
        | .error error => ([], .error error)
        | .ok tensor =>
            let later := sourceOps io make count (index + 1)
            (.send "out" (Packet.tensor tensor) :: later.1, later.2)

namespace Element

/-- What an element does before it first receives. -/
def opening (io : ElementIo) (element : Element T R M) : Stretch T R M :=
  match element with
  | .source count make =>
      let sends := sourceOps io make count 0
      ⟨element, sends.1, some sends.2⟩
  | .input queue =>
      ⟨.input [], (queue.map fun tensor => .send "out" (Packet.tensor tensor)) ++ broadcastEos io,
        some (.ok ())⟩
  | .distributor _ _ =>
      if (outputPorts io).isEmpty then
        ⟨element, [], some (.error (.config "distributor requires at least one output"))⟩
      else ⟨element, [], none⟩
  | .filter _ | .mockInference _ | .sink _ _ => ⟨element, [], none⟩

/-- What an element does with a packet that is not the end marker. -/
def handle (io : ElementIo) (element : Element T R M) (packet : Packet T R M) : Stretch T R M :=
  match element with
  | .source _ _ | .input _ => ⟨element, [], none⟩
  | .filter .pass => ⟨element, [.send "out" packet], none⟩
  | .filter .drop => ⟨element, [], none⟩
  | .distributor .broadcast next =>
      ⟨.distributor .broadcast next,
        (outputPorts io).map fun index => .send (branchPort index) packet, none⟩
  | .distributor .roundRobin next =>
      let ports := outputPorts io
      ⟨.distributor .roundRobin ((next + 1) % 2 ^ 64),
        [.send (branchPort (ports.getD (next % ports.length) 0)) packet], none⟩
  | .mockInference run =>
      match packet.tensorRef with
      | none => ⟨element, [], some (.error (.runtime "expected tensor payload"))⟩
      | some tensor =>
          match run tensor with
          | .error error => ⟨element, [], some (.error error)⟩
          | .ok outputs =>
              ⟨element,
                outputs.map fun output =>
                  .send "out" ((Packet.tensor output).withMeta packet.metadata),
                none⟩
  | .sink layout collector =>
      match collector.tryPush layout packet with
      | (.error error, collector) => ⟨.sink layout collector, [], some (.error error)⟩
      | (.ok (), collector) => ⟨.sink layout collector, [.finish], none⟩

/-- What an element does with the end marker. -/
def ending (io : ElementIo) (element : Element T R M) : Stretch T R M :=
  match element with
  | .sink _ _ => ⟨element, [], some (.ok ())⟩
  | .source _ _ | .input _ | .filter _ | .distributor _ _ | .mockInference _ =>
      ⟨element, broadcastEos io, some (.ok ())⟩

/-- The loop body, from the packet on. -/
def react (io : ElementIo) (element : Element T R M) (packet : Packet T R M) : Stretch T R M :=
  if packet.isEos then element.ending io else element.handle io packet

end Element

/-! ## Workers -/

inductive Phase (T R M : Type) where
  | receiving
  | sending (port : String) (packet : Packet T R M) (served : Nat) (ops : List (Op T R M))
      (result : Option (Except Error Unit))
  | returned (result : Except Error Unit)

/-- An element on its thread. -/
structure Worker (T R M : Type) where
  io : ElementIo
  element : Element T R M
  phase : Phase T R M

/-- The senders behind each port of a worker, in the order they were entered. -/
abbrev Senders := String -> List Pipe

namespace Worker

/-- Return, or go back to the head of the loop, where a worker without an input
port fails. -/
def settle (worker : Worker T R M) (result : Option (Except Error Unit)) : Worker T R M :=
  match result with
  | some result => { worker with phase := .returned result }
  | none =>
      if "in" ∈ worker.io.inputs then { worker with phase := .receiving }
      else { worker with phase := .returned (.error (.unknownPort worker.io.name "in")) }

def completed (worker : Worker T R M) (port : String) (packet : Packet T R M) : Worker T R M :=
  { worker with io := (worker.io.send port packet .delivered).1 }

def arrived (worker : Worker T R M) : Worker T R M :=
  { worker with io := { worker.io with eos := worker.io.eos.arrive.1 } }

/-- Work off a stretch up to the next pipe. -/
def proceed (senders : Senders) (worker : Worker T R M) (result : Option (Except Error Unit)) :
    List (Op T R M) -> Worker T R M
  | [] => worker.settle result
  | .finish :: ops =>
      proceed senders { worker with io := worker.io.finishPacket } result ops
  | .arrive :: ops =>
      if worker.io.eos.arrive.2 then proceed senders worker.arrived result ops
      else worker.arrived.settle result
  | .send port packet :: ops =>
      if port ∈ worker.io.outputs then
        if (senders port).isEmpty then proceed senders (worker.completed port packet) result ops
        else { worker with phase := .sending port packet 0 ops result }
      else { worker with phase := .returned (.error (.unknownPort worker.io.name port)) }

/-- One more sender of a port has taken the packet. -/
def delivered (senders : Senders) (worker : Worker T R M) (port : String) (packet : Packet T R M)
    (served : Nat) (ops : List (Op T R M)) (result : Option (Except Error Unit)) :
    Worker T R M :=
  if served < (senders port).length then
    { worker with phase := .sending port packet served ops result }
  else proceed senders (worker.completed port packet) result ops

/-- The rest of the loop body once the pipe has answered.  Some loops look at the
stop flags when nothing came; `recv` has just done so. -/
def answered (senders : Senders) (worker : Worker T R M)
    (answer : Except RecvTimeoutError (Packet T R M)) : Worker T R M :=
  match worker.io.recv "in" answer 0 with
  | (io, .error error) => { worker with io := io, phase := .returned (.error error) }
  | (io, .ok none) => { worker with io := io, phase := .receiving }
  | (io, .ok (some packet)) =>
      let stretch := worker.element.react io packet
      proceed senders ⟨io, stretch.element, .receiving⟩ stretch.result stretch.ops

/-- The next thing a worker does with a pipe. -/
def act (senders : Senders) (worker : Worker T R M) :
    Action Pipe (Packet T R M) (Worker T R M) :=
  match worker.phase with
  | .receiving => .read fun packet => worker.answered senders (.ok packet)
  | .sending port packet served ops result =>
      match (senders port)[served]? with
      | some pipe =>
          .write pipe packet (worker.delivered senders port packet (served + 1) ops result)
      | none => .halt
  | .returned _ => .halt

/-- The worker as its thread begins. -/
def start (senders : Senders) (io : ElementIo) (element : Element T R M) : Worker T R M :=
  let stretch := element.opening io
  proceed senders ⟨io, stretch.element, .receiving⟩ stretch.result stretch.ops

end Worker

/-! ## The plain run -/

/-- A settled worker, what it sent on which ports so far, and the packets it
did not receive. -/
structure Plain (T R M : Type) where
  worker : Worker T R M
  sent : List (String × Packet T R M)
  left : List (Packet T R M)

namespace Worker

/-- Work off a whole stretch. -/
def finish (worker : Worker T R M) (result : Option (Except Error Unit)) :
    List (Op T R M) -> Worker T R M × List (String × Packet T R M)
  | [] => (worker.settle result, [])
  | .finish :: ops => finish { worker with io := worker.io.finishPacket } result ops
  | .arrive :: ops =>
      if worker.io.eos.arrive.2 then finish worker.arrived result ops
      else (worker.arrived.settle result, [])
  | .send port packet :: ops =>
      if port ∈ worker.io.outputs then
        let later := finish (worker.completed port packet) result ops
        (later.1, (port, packet) :: later.2)
      else
        ({ worker with phase := .returned (.error (.unknownPort worker.io.name port)) }, [])

/-- Receive one packet and work off what follows. -/
def take (worker : Worker T R M) (packet : Packet T R M) :
    Worker T R M × List (String × Packet T R M) :=
  match worker.io.recv "in" (.ok packet) 0 with
  | (io, .error error) => ({ worker with io := io, phase := .returned (.error error) }, [])
  | (io, .ok none) => ({ worker with io := io, phase := .receiving }, [])
  | (io, .ok (some packet)) =>
      let stretch := worker.element.react io packet
      finish ⟨io, stretch.element, .receiving⟩ stretch.result stretch.ops

/-- Receive these packets one after another until the worker returns. -/
def plain (worker : Worker T R M) : List (Packet T R M) -> Plain T R M
  | [] => ⟨worker, [], []⟩
  | packet :: packets =>
      match worker.phase with
      | .receiving =>
          let first := worker.take packet
          let later := plain first.1 packets
          { later with sent := first.2 ++ later.sent }
      | .sending _ _ _ _ _ | .returned _ => ⟨worker, [], packet :: packets⟩

/-- The plain run of an element from the beginning of its thread. -/
def plainRun (io : ElementIo) (element : Element T R M) (packets : List (Packet T R M)) :
    Plain T R M :=
  let stretch := element.opening io
  let first := finish ⟨io, stretch.element, .receiving⟩ stretch.result stretch.ops
  let later := first.1.plain packets
  { later with sent := first.2 ++ later.sent }

end Worker
end Execution
end DyunGu
