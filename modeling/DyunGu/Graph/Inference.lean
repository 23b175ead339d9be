import DyunGu.Graph.Element
import DyunGu.Graph.InferencePool
import Mathlib.Data.List.Perm.Subperm

namespace DyunGu
namespace Graph
namespace Inference

open Backend

variable {n : Nat} {T R M : Type}

/-!
# The inference element

The element's loop drains completed outputs, forwards the end of the stream
once nothing is pending, and otherwise accepts one more input while the
execution reports capacity.  A submission is remembered in `pending` under
its runtime and sequence, and its completion is paired with it by that key.

One turn of the loop is one step.  Its label carries everything the
environment decides in that turn: what each backend answers when polled, when
the turn happens, which instance is checked out and what the backend answers
to the submission.  The input pipe is explicit; the output pipe always takes
what is sent, since waiting for room is waiting for this step.
-/

/-- One inference that has been submitted but not yet emitted downstream. -/
structure PendingInference (n : Nat) (M : Type) where
  runtimeIndex : Fin n
  sequence : Nat
  metadata : PacketMeta M

/-- `out` is everything sent on the output port except the end marker, which
is `eosSent`.  `returned` is the result of the run method, once it has one. -/
structure State (n : Nat) (T R M : Type) where
  io : ElementIo
  execution : InferenceExecution n T
  pending : List (PendingInference n M)
  eos : Bool
  upstream : List (Packet T R M)
  queue : List (Packet T R M)
  out : List (Packet T R M)
  eosSent : Bool
  returned : Option (Except Error Unit)

/-- What the environment decides in one turn of the loop. -/
structure Round (n : Nat) (T : Type) where
  answers : Fin n -> Completion T
  now : Nat
  checkout : Except String (Fin n)
  answer : List T -> Except Backend.Error (List T)

/-- The loop of `poll_ready`: each instance is asked once, beginning at the
cursor, until one has an output. -/
def pollLoop (answers : Fin n -> Completion T) : Nat -> InferenceExecution n T ->
    InferenceExecution n T × Except Backend.Error (Option (Fin n × Nat × List T))
  | 0, execution => (execution, .ok none)
  | count + 1, execution =>
      if nonempty : 0 < n then
        let index : Fin n := ⟨execution.pollCursor % n, Nat.mod_lt _ nonempty⟩
        let moved := { execution with pollCursor := (execution.pollCursor + 1) % max n 1 }
        match moved.pollAt index (answers index) with
        | (next, .error error) => (next, .error error)
        | (next, .ok (.ready outputs sequence)) => (next, .ok (some (index, sequence, outputs)))
        | (next, .ok .pending) => pollLoop answers count next
        | (next, .ok .endOfStream) => pollLoop answers count next
      else (execution, .ok none)

def pollReady (execution : InferenceExecution n T) (answers : Fin n -> Completion T) :
    InferenceExecution n T × Except Backend.Error (Option (Fin n × Nat × List T)) :=
  pollLoop answers n execution

/-- The packets of one completion, all with the metadata of its input. -/
def outputPackets (metadata : PacketMeta M) (outputs : List T) : List (Packet T R M) :=
  outputs.map fun output => (Packet.tensor output).withMeta metadata

/-- Send the packets of one completion in order, stopping at an error. -/
def sendAll (io : ElementIo) : List (Packet T R M) ->
    ElementIo × List (Packet T R M) × Except Error Unit
  | [] => (io, [], .ok ())
  | packet :: rest =>
      match io.send "out" packet .delivered with
      | (io, .error error) => (io, [], .error error)
      | (io, .ok ()) =>
          let (io, sent, result) := sendAll io rest
          (io, packet :: sent, result)

def unknownSequence (index sequence : Nat) : Error :=
  .runtime ("inference returned unknown sequence " ++ toString sequence ++ " from runtime " ++
    toString index)

/-- Pair a completion with its submission and emit its outputs. -/
def emit (state : State n T R M) (index : Fin n) (sequence : Nat) (outputs : List T) :
    State n T R M :=
  match state.pending.find? fun pending =>
      decide (pending.runtimeIndex = index ∧ pending.sequence = sequence) with
  | none => { state with returned := some (.error (unknownSequence index sequence)) }
  | some pending =>
      let (io, sent, result) := sendAll state.io (outputPackets pending.metadata outputs)
      { state with
        io := io
        pending := state.pending.eraseP fun pending =>
          decide (pending.runtimeIndex = index ∧ pending.sequence = sequence)
        out := state.out ++ sent
        returned :=
          match result with
          | .ok () => none
          | .error error => some (.error error) }

/-- Submit one received packet and remember it. -/
def accept (state : State n T R M) (packet : Packet T R M) (round : Round n T) :
    State n T R M :=
  match packet.tensorRef with
  | none =>
      { state with returned := some (.error (.runtime "inference expects a tensor payload")) }
  | some input =>
      match round.checkout with
      | .error reason =>
          { state with
            returned := some (.error (.runtime ("inference pool checkout failed: " ++ reason))) }
      | .ok index =>
          match state.execution.submit index [input] (round.answer [input]) with
          | (execution, .error error) =>
              { state with
                execution := execution
                returned := some (.error (.runtimeBackend error.toText)) }
          | (execution, .ok sequence) =>
              { state with
                execution := execution
                pending := state.pending ++ [⟨index, sequence, packet.metadata⟩] }

/-- Receive on the input port, in a turn that takes another input. -/
def receive (state : State n T R M) (round : Round n T) : State n T R M :=
  match state.queue with
  | packet :: rest =>
      match state.io.recv "in" (.ok packet) round.now with
      | (io, .error error) =>
          { state with io := io, queue := rest, returned := some (.error error) }
      | (io, .ok none) => { state with io := io, queue := rest }
      | (io, .ok (some packet)) =>
          if packet.isEos then { state with io := io, queue := rest, eos := true }
          else accept { state with io := io, queue := rest } packet round
  | [] =>
      match (state.io.recv "in" (.error .timeout) round.now :
          ElementIo × Except Error (Option (Packet T R M))) with
      | (io, .error error) => { state with io := io, returned := some (.error error) }
      | (io, .ok none) => { state with io := io }
      | (io, .ok (some packet)) =>
          if packet.isEos then { state with io := io, eos := true }
          else accept { state with io := io } packet round

/-- One turn of the loop. -/
def turn (state : State n T R M) (round : Round n T) : State n T R M :=
  match pollReady state.execution round.answers with
  | (execution, .error error) =>
      { state with
        execution := execution
        returned := some (.error (.runtimeBackend error.toText)) }
  | (execution, .ok (some (index, sequence, outputs))) =>
      emit { state with execution := execution } index sequence outputs
  | (execution, .ok none) =>
      if state.eos && state.pending.isEmpty then
        { state with
          execution := execution
          io := { state.io with eos := state.io.eos.arrive.1 }
          eosSent := state.io.eos.arrive.2
          returned := some (.ok ()) }
      else if state.io.shouldStop then
        if state.pending.isEmpty then
          { state with execution := execution, returned := some (.error .notRunning) }
        else { state with execution := execution }
      else if state.eos || !execution.hasCapacity then { state with execution := execution }
      else receive { state with execution := execution } round

inductive Label (n : Nat) (T : Type) where
  | push
  | turn (round : Round n T)

def step (pipeCapacity : Option Nat) (state : State n T R M) :
    Label n T -> Option (State n T R M)
  | .push =>
      match state.upstream with
      | [] => none
      | packet :: rest =>
          if pipeCapacity.elim true fun bound => decide (state.queue.length < bound) then
            some { state with upstream := rest, queue := state.queue ++ [packet] }
          else none
  | .turn round =>
      match state.returned with
      | some _ => none
      | none => some (turn state round)

/-- An inference node as validation accepts it: at least one instance, all
over the same backend options, and a queue that holds at least one packet. -/
structure Config (n : Nat) where
  name : String
  isAsync : Bool
  backendMax : Nat
  usize : backendMax <= u64Max
  queueCapacity : Nat
  pipeCapacity : Option Nat
  room : pipeCapacity ≠ some 0
  nonempty : 0 < n

def machine (config : Config n) : Machine (State n T R M) (Label n T) where
  step := step config.pipeCapacity

/-- While the element runs, each of its turns is a step. -/
theorem step_turn (config : Config n) (state : State n T R M) (running : state.returned = none)
    (round : Round n T) : (machine config).step state (.turn round) = some (turn state round) := by
  simp only [machine, step, running]

/-- A freshly created element whose upstream will send the given packets. -/
def initial (config : Config n) (stream : List (Packet T R M)) : State n T R M where
  io := ElementIo.built config.name ["in"] ["out"] 1 config.queueCapacity
  execution := InferenceExecution.fresh config.isAsync fun _ => config.backendMax
  pending := []
  eos := false
  upstream := stream
  queue := []
  out := []
  eosSent := false
  returned := none

/-- The in-flight bound of each runtime and the bound of the start queue. -/
def Config.maxInFlight (config : Config n) : Nat := max config.backendMax 1

def Config.maxStarts (config : Config n) : Nat := max config.queueCapacity 1

/-- Every completion carries at least one output, as a model with outputs
gives it. -/
def Productive (state : State n T R M) : Label n T -> Prop
  | .push => True
  | .turn round =>
      (forall i outputs sequence, (state.execution.runtimes i).isAsync = true ->
        round.answers i = .ready outputs sequence -> outputs ≠ []) ∧
      forall inputs outputs, round.answer inputs = .ok outputs -> outputs ≠ []

/-- The failure of the start queue of the element's context. -/
def StartsOverrun (config : Config n) (state : State n T R M) : Prop :=
  Exists fun requested => Exists fun limit => state.returned =
    some (.error (.resourceLimit (config.name ++ "/packet_starts") requested limit))

/-! ## What a poll of the pool does -/

/-- A runtime after one of its submissions has been returned. -/
def completed (runtime : Runtime T) (sequence : Nat) : Runtime T :=
  if runtime.isAsync then runtime.release sequence else { runtime with syncResult := none }

/-- A runtime that has no output to return now. -/
def Quiet (runtime : Runtime T) (answer : Completion T) : Prop :=
  if runtime.isAsync then answer = .pending ∨ answer = .endOfStream
  else runtime.syncResult = none

/-- A runtime that returns these outputs for this sequence now. -/
def Returns (runtime : Runtime T) (answer : Completion T) (sequence : Nat)
    (outputs : List T) : Prop :=
  if runtime.isAsync then answer = .ready outputs sequence
  else runtime.syncResult = some (sequence, outputs)

@[simp] theorem completed_isAsync (runtime : Runtime T) (sequence : Nat) :
    (completed runtime sequence).isAsync = runtime.isAsync := by
  unfold completed
  split <;> rfl

@[simp] theorem completed_maxInFlight (runtime : Runtime T) (sequence : Nat) :
    (completed runtime sequence).maxInFlight = runtime.maxInFlight := by
  unfold completed
  split <;> rfl

@[simp] theorem completed_nextSequence (runtime : Runtime T) (sequence : Nat) :
    (completed runtime sequence).nextSequence = runtime.nextSequence := by
  unfold completed
  split <;> rfl

private theorem pollAt_cases (execution : InferenceExecution n T) (index : Fin n)
    (answer : Completion T) :
    (Quiet (execution.runtimes index) answer ∧
      ((execution.pollAt index answer).2 = .ok .pending ∨
        (execution.pollAt index answer).2 = .ok .endOfStream) ∧
      (execution.pollAt index answer).1.runtimes = execution.runtimes ∧
      (execution.pollAt index answer).1.metrics.inFlight = execution.metrics.inFlight) ∨
    (Exists fun sequence => Exists fun outputs =>
      Returns (execution.runtimes index) answer sequence outputs ∧
      (execution.pollAt index answer).2 = .ok (.ready outputs sequence) ∧
      (execution.pollAt index answer).1.runtimes = Function.update execution.runtimes index
        (completed (execution.runtimes index) sequence) ∧
      (execution.pollAt index answer).1.metrics.inFlight = execution.metrics.inFlight - 1) ∨
    (Exists fun sequence => Exists fun error =>
      (execution.runtimes index).isAsync = true ∧ answer = .failed sequence error ∧
      (execution.pollAt index answer).2 = .error error) := by
  simp only [InferenceExecution.pollAt, Runtime.poll, Quiet, Returns, completed]
  cases mode : (execution.runtimes index).isAsync with
  | true =>
      simp only [if_true]
      cases answer with
      | pending =>
          refine Or.inl ⟨Or.inl rfl, Or.inl rfl, ?_, rfl⟩
          exact Function.update_eq_self _ _
      | endOfStream =>
          refine Or.inl ⟨Or.inr rfl, Or.inr rfl, ?_, rfl⟩
          exact Function.update_eq_self _ _
      | ready outputs sequence =>
          exact Or.inr (Or.inl ⟨sequence, outputs, rfl, rfl, rfl,
            BackendMetrics.finishInFlight_inFlight _⟩)
      | failed sequence error => exact Or.inr (Or.inr ⟨sequence, error, trivial, rfl, rfl⟩)
  | false =>
      simp only [Bool.false_eq_true, if_false]
      cases slot : (execution.runtimes index).syncResult with
      | none =>
          refine Or.inl ⟨rfl, Or.inl rfl, ?_, rfl⟩
          exact Function.update_eq_self _ _
      | some result =>
          rcases result with ⟨sequence, outputs⟩
          exact Or.inr (Or.inl ⟨sequence, outputs, rfl, rfl, rfl,
            BackendMetrics.finishInFlight_inFlight _⟩)

/-- The three ways in which `poll_ready` ends: every instance it asked is
quiet and nothing changed, or the first instance that was not quiet returned
its outputs, or a backend failed. -/
private theorem pollLoop_cases (answers : Fin n -> Completion T) (count : Nat)
    (execution : InferenceExecution n T) (within : execution.pollCursor < n) :
    ((pollLoop answers count execution).2 = .ok none ∧
      (pollLoop answers count execution).1.runtimes = execution.runtimes ∧
      (pollLoop answers count execution).1.metrics.inFlight = execution.metrics.inFlight ∧
      (pollLoop answers count execution).1.pollCursor < n ∧
      forall offset, offset < count -> forall i : Fin n,
        i.val = (execution.pollCursor + offset) % n ->
        Quiet (execution.runtimes i) (answers i)) ∨
    (Exists fun index => Exists fun sequence => Exists fun outputs =>
      Returns (execution.runtimes index) (answers index) sequence outputs ∧
      (pollLoop answers count execution).2 = .ok (some (index, sequence, outputs)) ∧
      (pollLoop answers count execution).1.runtimes = Function.update execution.runtimes index
        (completed (execution.runtimes index) sequence) ∧
      (pollLoop answers count execution).1.metrics.inFlight = execution.metrics.inFlight - 1 ∧
      (pollLoop answers count execution).1.pollCursor < n) ∨
    (Exists fun index => Exists fun sequence => Exists fun error =>
      (execution.runtimes index).isAsync = true ∧ answers index = .failed sequence error ∧
      (pollLoop answers count execution).2 = .error error) := by
  induction count generalizing execution with
  | zero =>
      exact Or.inl ⟨rfl, rfl, rfl, within, fun _ impossible => by omega⟩
  | succ count ih =>
      have nonempty : 0 < n := by omega
      have one : max n 1 = n := by omega
      have advanced : (execution.pollCursor + 1) % n < n := Nat.mod_lt _ nonempty
      let index : Fin n := ⟨execution.pollCursor % n, Nat.mod_lt _ nonempty⟩
      let moved : InferenceExecution n T :=
        { execution with pollCursor := (execution.pollCursor + 1) % n }
      have unfolded : pollLoop answers (count + 1) execution =
          match moved.pollAt index (answers index) with
          | (next, .error error) => (next, .error error)
          | (next, .ok (.ready outputs sequence)) =>
              (next, .ok (some (index, sequence, outputs)))
          | (next, .ok .pending) => pollLoop answers count next
          | (next, .ok .endOfStream) => pollLoop answers count next := by
        simp only [pollLoop, nonempty, dif_pos, one]
        rfl
      have cursor : (moved.pollAt index (answers index)).1.pollCursor =
          (execution.pollCursor + 1) % n := rfl
      cases polled : moved.pollAt index (answers index) with
      | mk next result =>
          rw [polled] at unfolded cursor
          have facts := pollAt_cases moved index (answers index)
          rw [polled] at facts
          rw [unfolded]
          rcases facts with
            ⟨quiet, stays, runtimes, counter⟩ | ⟨sequence, outputs, returns, gives, rest⟩ |
              ⟨sequence, error, isAsync, answered, fails⟩
          · have later : (match (next, result) with
                | (next, .error error) => (next, .error error)
                | (next, .ok (.ready outputs sequence)) =>
                    (next, .ok (some (index, sequence, outputs)))
                | (next, .ok .pending) => pollLoop answers count next
                | (next, .ok .endOfStream) => pollLoop answers count next) =
                pollLoop answers count next := by
              rcases stays with stays | stays
              · cases stays
                rfl
              · cases stays
                rfl
            have stands : next.runtimes = execution.runtimes := runtimes
            have same : next.metrics.inFlight = execution.metrics.inFlight := counter
            rw [later]
            rcases ih next (by rw [cursor]; exact advanced) with
              ⟨none_, runtimesNext, counterNext, cursorNext, others⟩ |
                ⟨chosen, sequence, outputs, returns, gives, runtimesNext, counterNext, cursorNext⟩ |
                ⟨chosen, sequence, error, isAsync, answered, fails⟩
            · refine Or.inl ⟨none_, runtimesNext.trans stands, counterNext.trans same,
                cursorNext, ?_⟩
              intro offset below i atOffset
              cases offset with
              | zero =>
                  have isIndex : i = index := Fin.ext atOffset
                  rw [isIndex]
                  exact quiet
              | succ offset =>
                  have shifted := others offset (by omega) i (by
                    rw [atOffset, cursor, Nat.mod_add_mod]
                    congr 1
                    omega)
                  rw [stands] at shifted
                  exact shifted
            · refine Or.inr (Or.inl ⟨chosen, sequence, outputs, ?_, gives, ?_, ?_, cursorNext⟩)
              · rw [← stands]
                exact returns
              · rw [runtimesNext, stands]
              · rw [counterNext, same]
            · refine Or.inr (Or.inr ⟨chosen, sequence, error, ?_, answered, fails⟩)
              rw [← stands]
              exact isAsync
          · cases gives
            exact Or.inr (Or.inl ⟨index, sequence, outputs, returns, rfl, rest.1, rest.2,
              by rw [cursor]; exact advanced⟩)
          · cases fails
            exact Or.inr (Or.inr ⟨index, sequence, error, isAsync, answered, rfl⟩)

/-- The turn over `n` instances asks every one of them. -/
theorem pollReady_cases (execution : InferenceExecution n T) (answers : Fin n -> Completion T)
    (within : execution.pollCursor < n) :
    ((pollReady execution answers).2 = .ok none ∧
      (pollReady execution answers).1.runtimes = execution.runtimes ∧
      (pollReady execution answers).1.metrics.inFlight = execution.metrics.inFlight ∧
      (pollReady execution answers).1.pollCursor < n ∧
      forall i, Quiet (execution.runtimes i) (answers i)) ∨
    (Exists fun index => Exists fun sequence => Exists fun outputs =>
      Returns (execution.runtimes index) (answers index) sequence outputs ∧
      (pollReady execution answers).2 = .ok (some (index, sequence, outputs)) ∧
      (pollReady execution answers).1.runtimes = Function.update execution.runtimes index
        (completed (execution.runtimes index) sequence) ∧
      (pollReady execution answers).1.metrics.inFlight = execution.metrics.inFlight - 1 ∧
      (pollReady execution answers).1.pollCursor < n) ∨
    (Exists fun index => Exists fun sequence => Exists fun error =>
      (execution.runtimes index).isAsync = true ∧ answers index = .failed sequence error ∧
      (pollReady execution answers).2 = .error error) := by
  rcases pollLoop_cases answers n execution within with
    ⟨none_, runtimes, counter, cursor, quiet⟩ | returned | failed
  · refine Or.inl ⟨none_, runtimes, counter, cursor, ?_⟩
    intro i
    have bound := i.isLt
    by_cases ahead : execution.pollCursor <= i.val
    · apply quiet (i.val - execution.pollCursor) (by omega) i
      rw [Nat.add_sub_cancel' ahead, Nat.mod_eq_of_lt bound]
    · apply quiet (i.val + n - execution.pollCursor) (by omega) i
      rw [Nat.add_sub_cancel' (by omega), Nat.add_mod_right, Nat.mod_eq_of_lt bound]
  · exact Or.inr (Or.inl returned)
  · exact Or.inr (Or.inr failed)

/-! ## The parts of a turn -/

section Turn

variable {state : State n T R M} {round : Round n T}

theorem turn_failed {error : Backend.Error}
    (failed : (pollReady state.execution round.answers).2 = .error error) :
    turn state round = { state with
      execution := (pollReady state.execution round.answers).1
      returned := some (.error (.runtimeBackend error.toText)) } := by
  unfold turn
  cases polled : pollReady state.execution round.answers with
  | mk execution result =>
      rw [polled] at failed
      cases failed
      rfl

theorem turn_emits {index : Fin n} {sequence : Nat} {outputs : List T}
    (gives : (pollReady state.execution round.answers).2 = .ok (some (index, sequence, outputs))) :
    turn state round = emit { state with
      execution := (pollReady state.execution round.answers).1 } index sequence outputs := by
  unfold turn
  cases polled : pollReady state.execution round.answers with
  | mk execution result =>
      rw [polled] at gives
      cases gives
      rfl

/-- A turn in which no instance had an output, in a graph that runs. -/
theorem turn_quiet (live : state.io.shouldStop = false)
    (none_ : (pollReady state.execution round.answers).2 = .ok none) :
    turn state round =
      if state.eos && state.pending.isEmpty then
        { state with
          execution := (pollReady state.execution round.answers).1
          io := { state.io with eos := state.io.eos.arrive.1 }
          eosSent := state.io.eos.arrive.2
          returned := some (.ok ()) }
      else if state.eos || !(pollReady state.execution round.answers).1.hasCapacity then
        { state with execution := (pollReady state.execution round.answers).1 }
      else
        receive { state with execution := (pollReady state.execution round.answers).1 }
          round := by
  unfold turn
  cases polled : pollReady state.execution round.answers with
  | mk execution result =>
      rw [polled] at none_
      cases none_
      simp only [live, Bool.false_eq_true, if_false]

/-- A completed send takes one start per packet off the queue. -/
private theorem sendAll_delivered (packets : List (Packet T R M)) (io : ElementIo)
    (known : "out" ∈ io.outputs) (inner : io.inputs ≠ [])
    (data : forall packet, packet ∈ packets -> packet.isEos = false) :
    sendAll io packets =
      ({ io with packetStarts := io.packetStarts.drop packets.length }, packets, .ok ()) := by
  induction packets generalizing io with
  | nil => rfl
  | cons packet packets ih =>
      have sent := io.send_delivered known inner (data packet List.mem_cons_self)
      have rest := ih io.completePacket known inner
        fun other member => data other (List.mem_cons_of_mem _ member)
      simp only [sendAll, sent, rest]
      simp only [ElementIo.completePacket, List.length_cons, List.drop_tail]

theorem outputPackets_isEos {metadata : PacketMeta M} {outputs : List T} {packet : Packet T R M}
    (member : packet ∈ outputPackets metadata outputs) : packet.isEos = false := by
  rcases List.mem_map.mp member with ⟨output, _, rfl⟩
  rfl

/-- The key under which a completion finds its submission. -/
def hasKey (index : Fin n) (sequence : Nat) (pending : PendingInference n M) : Bool :=
  decide (pending.runtimeIndex = index ∧ pending.sequence = sequence)

theorem emit_cases (known : "out" ∈ state.io.outputs) (inner : state.io.inputs ≠ [])
    (running : state.returned = none) (index : Fin n) (sequence : Nat) (outputs : List T) :
    (state.pending.find? (hasKey index sequence) = none ∧
      emit state index sequence outputs =
        { state with returned := some (.error (unknownSequence index sequence)) }) ∨
    (Exists fun found => state.pending.find? (hasKey index sequence) = some found ∧
      emit state index sequence outputs =
        { state with
          io := { state.io with packetStarts := state.io.packetStarts.drop outputs.length }
          pending := state.pending.eraseP (hasKey index sequence)
          out := state.out ++ outputPackets found.metadata outputs }) := by
  cases search : state.pending.find? (hasKey index sequence) with
  | none =>
      refine Or.inl ⟨rfl, ?_⟩
      unfold hasKey at search
      simp only [emit, search]
  | some found =>
      refine Or.inr ⟨found, rfl, ?_⟩
      have sent := sendAll_delivered (R := R) (outputPackets found.metadata outputs) state.io
        known inner fun _ member => outputPackets_isEos member
      have size : (outputPackets found.metadata outputs : List (Packet T R M)).length =
          outputs.length := List.length_map _
      rw [size] at sent
      unfold hasKey at search
      simp only [emit, search, sent]
      rw [running]
      rfl

end Turn

/-! ## The start queue against the in-flight bound -/

/-- What holds while the element runs, if completions carry outputs.  The
counter the capacity test reads is the number of pending submissions, and no
more starts are queued than submissions are pending.  A synchronous backend
has at most one submission pending, and it is waiting in a slot. -/
structure Bookkept (config : Config n) (state : State n T R M) : Prop where
  name : state.io.name = config.name
  inputs : state.io.inputs = ["in"]
  outputs : state.io.outputs = ["out"]
  live : state.io.shouldStop = false
  bound : state.io.maxPacketStarts = config.maxStarts
  cursor : state.execution.pollCursor < n
  modes : forall i, (state.execution.runtimes i).isAsync = config.isAsync
  maxima : forall i, (state.execution.runtimes i).maxInFlight = config.maxInFlight
  productive : forall i sequence outputs,
    (state.execution.runtimes i).syncResult = some (sequence, outputs) -> outputs ≠ []
  counted : state.execution.metrics.inFlight = state.pending.length
  starts : state.io.packetStarts.length <= state.pending.length
  single : config.isAsync = false -> state.pending.length <= 1
  slotted : config.isAsync = false -> state.pending ≠ [] ->
    Exists fun i => (state.execution.runtimes i).syncResult ≠ none

/-- There is capacity exactly while fewer packets are pending than one instance
takes. -/
theorem Bookkept.hasCapacity_iff {config : Config n} {state : State n T R M}
    (kept : Bookkept config state) :
    state.execution.hasCapacity = true <-> state.pending.length < config.maxInFlight := by
  rw [InferenceExecution.hasCapacity_iff]
  simp only [kept.counted, kept.maxima]
  exact ⟨fun ⟨_, below⟩ => below, fun below => ⟨⟨0, config.nonempty⟩, below⟩⟩

/-- What `submit` changes in the runtime that was checked out. -/
def submitted (runtime : Runtime T) (inputs outputs : List T) : Runtime T :=
  if runtime.isAsync then
    { runtime with
      nextSequence := runtime.nextSequence + 1
      held := runtime.held ++ [(runtime.nextSequence, inputs)] }
  else
    { runtime with
      nextSequence := runtime.nextSequence + 1
      syncResult := some (runtime.nextSequence, outputs) }

@[simp] theorem submitted_isAsync (runtime : Runtime T) (inputs outputs : List T) :
    (submitted runtime inputs outputs).isAsync = runtime.isAsync := by
  unfold submitted
  split <;> rfl

@[simp] theorem submitted_maxInFlight (runtime : Runtime T) (inputs outputs : List T) :
    (submitted runtime inputs outputs).maxInFlight = runtime.maxInFlight := by
  unfold submitted
  split <;> rfl

@[simp] theorem submitted_nextSequence (runtime : Runtime T) (inputs outputs : List T) :
    (submitted runtime inputs outputs).nextSequence = runtime.nextSequence + 1 := by
  unfold submitted
  split <;> rfl

/-- A submission is refused, for the in-flight limit, for the sequence space
or by the backend, or it is entered under the next sequence. -/
theorem submit_cases (execution : InferenceExecution n T) (index : Fin n)
    (inputs : List T) (answer : Except Backend.Error (List T)) :
    (Exists fun error => (execution.submit index inputs answer).2 = .error error ∧
      ((execution.runtimes index).maxInFlight <= (execution.runtimes index).currentInFlight ∨
        u64Max < (execution.runtimes index).nextSequence + 1 ∨ answer = .error error)) ∨
    (Exists fun outputs => answer = .ok outputs ∧
      execution.submit index inputs answer =
        ({ execution with
            runtimes := Function.update execution.runtimes index
              (submitted (execution.runtimes index) inputs outputs)
            metrics := execution.metrics.recordSubmission },
          .ok (execution.runtimes index).nextSequence)) := by
  unfold InferenceExecution.submit Runtime.submit submitted
  by_cases full : (execution.runtimes index).maxInFlight <=
      (execution.runtimes index).currentInFlight
  · refine Or.inl ⟨Backend.Error.inFlightLimit, ?_, Or.inl full⟩
    simp only [full, if_true]
  by_cases exhausted : u64Max < (execution.runtimes index).nextSequence + 1
  · refine Or.inl ⟨.sequenceExhausted, ?_, Or.inr (Or.inl exhausted)⟩
    simp only [full, exhausted, if_true, if_false]
  cases answer with
  | error error =>
      exact Or.inl ⟨error, by simp only [full, exhausted, if_false], Or.inr (Or.inr rfl)⟩
  | ok outputs =>
      refine Or.inr ⟨outputs, rfl, ?_⟩
      simp only [full, exhausted, if_false]
      cases (execution.runtimes index).isAsync <;> rfl

/-- A field that a move leaves alone in the moving runtime, it leaves alone
in all of them. -/
theorem field_update {Value : Type} (field : Runtime T -> Value)
    (runtimes : Fin n -> Runtime T) {index : Fin n} {runtime : Runtime T}
    (same : field runtime = field (runtimes index)) (i : Fin n) :
    field (Function.update runtimes index runtime i) = field (runtimes i) := by
  by_cases isIndex : i = index
  · rw [isIndex, Function.update_self, same]
  · rw [Function.update_of_ne isIndex]

section Bookkeeping

variable {config : Config n} {state : State n T R M} {round : Round n T}

theorem initial_bookkept (config : Config n) (stream : List (Packet T R M)) :
    Bookkept config (initial config stream) where
  name := rfl
  inputs := rfl
  outputs := rfl
  live := rfl
  bound := rfl
  cursor := config.nonempty
  modes := fun _ => rfl
  maxima := fun _ => rfl
  productive := fun _ _ _ impossible => by cases impossible
  counted := rfl
  starts := Nat.le_refl _
  single := fun _ => Nat.zero_le _
  slotted := fun _ impossible => absurd rfl impossible

theorem Bookkept.connected (kept : Bookkept config state) :
    "in" ∈ state.io.inputs ∧ "out" ∈ state.io.outputs ∧ state.io.inputs ≠ [] := by
  rw [kept.inputs, kept.outputs]
  exact ⟨List.mem_singleton_self _, List.mem_singleton_self _, List.cons_ne_nil _ _⟩

/-- A quiet poll of synchronous instances has found every slot empty, so
nothing is pending. -/
theorem pending_nil_of_quiet (kept : Bookkept config state)
    (isSync : config.isAsync = false)
    (quiet : forall i, Quiet (state.execution.runtimes i) (round.answers i)) :
    state.pending = [] := by
  by_contra waiting
  rcases kept.slotted isSync waiting with ⟨i, occupied⟩
  have empty := quiet i
  unfold Quiet at empty
  rw [kept.modes i, isSync] at empty
  exact occupied empty

private theorem length_eraseP_found {found : PendingInference n M} {index : Fin n}
    {sequence : Nat} {pending : List (PendingInference n M)}
    (search : pending.find? (hasKey index sequence) = some found) :
    (pending.eraseP (hasKey index sequence)).length + 1 = pending.length := by
  have member := List.mem_of_find?_eq_some search
  rw [List.length_eraseP_of_mem member (List.find?_some search)]
  exact Nat.sub_add_cancel (List.length_pos_of_mem member)

/-- A completion that was paired takes one submission and at least one start. -/
private theorem emit_bookkept (kept : Bookkept config state) (running : state.returned = none)
    {index : Fin n} {sequence : Nat} {outputs : List T}
    {execution : InferenceExecution n T} (some_ : outputs ≠ [])
    (cursor : execution.pollCursor < n)
    (runtimes : execution.runtimes = Function.update state.execution.runtimes index
      (completed (state.execution.runtimes index) sequence))
    (counter : execution.metrics.inFlight = state.execution.metrics.inFlight - 1)
    (goesOn : (emit { state with execution := execution } index sequence outputs).returned =
      none) :
    Bookkept config (emit { state with execution := execution } index sequence outputs) := by
  rcases @emit_cases n T R M { state with execution := execution } kept.connected.2.1
    kept.connected.2.2 running index sequence outputs with
    ⟨_, unknown⟩ | ⟨found, search, paired⟩
  · rw [unknown] at goesOn
    cases goesOn
  · have shorter : (state.pending.eraseP (hasKey index sequence)).length + 1 =
        state.pending.length := length_eraseP_found search
    have counted := kept.counted
    have starts := kept.starts
    have positive : 0 < outputs.length := List.length_pos_iff.mpr some_
    rw [paired]
    refine
      { name := kept.name, inputs := kept.inputs, outputs := kept.outputs, live := kept.live
        bound := kept.bound, cursor := cursor, modes := fun i => ?_, maxima := fun i => ?_
        productive := ?_, counted := ?_, starts := ?_, single := fun isSync => ?_
        slotted := fun isSync waiting => ?_ }
    · dsimp only
      rw [runtimes, field_update Runtime.isAsync _ (completed_isAsync _ _)]
      exact kept.modes i
    · dsimp only
      rw [runtimes, field_update Runtime.maxInFlight _ (completed_maxInFlight _ _)]
      exact kept.maxima i
    · intro i other stored occupied
      dsimp only at occupied
      rw [runtimes] at occupied
      by_cases same : i = index
      · rw [same, Function.update_self] at occupied
        unfold completed at occupied
        split at occupied
        · exact kept.productive index other stored occupied
        · cases occupied
      · rw [Function.update_of_ne same] at occupied
        exact kept.productive i other stored occupied
    · change execution.metrics.inFlight = (state.pending.eraseP _).length
      omega
    · change (state.io.packetStarts.drop outputs.length).length <= (state.pending.eraseP _).length
      rw [List.length_drop]
      omega
    · have one := kept.single isSync
      change (state.pending.eraseP _).length <= 1
      omega
    · have one := kept.single isSync
      have empty : (state.pending.eraseP (hasKey index sequence)).length = 0 := by omega
      exact absurd (List.eq_nil_of_length_eq_zero empty) waiting

/-- Accepting a received packet, in a turn whose poll was quiet. -/
private theorem accept_bookkept (kept : Bookkept config state)
    (room : state.execution.hasCapacity = true)
    (idle : config.isAsync = false -> state.pending = [])
    (productive : forall inputs outputs, round.answer inputs = .ok outputs -> outputs ≠ [])
    (packet : Packet T R M) (rest : List (Packet T R M)) (now : Nat)
    (goesOn : (accept { state with io := state.io.startPacket now, queue := rest } packet
      round).returned = none) :
    Bookkept config (accept { state with io := state.io.startPacket now, queue := rest } packet
      round) := by
  unfold accept at goesOn ⊢
  cases payload : packet.tensorRef with
  | none =>
      rw [payload] at goesOn
      cases goesOn
  | some input =>
      cases chosen : round.checkout with
      | error reason =>
          rw [payload, chosen] at goesOn
          cases goesOn
      | ok index =>
          rw [payload, chosen] at goesOn
          dsimp only at goesOn ⊢
          rcases submit_cases state.execution index [input] (round.answer [input]) with
            ⟨error, refused, _⟩ | ⟨outputs, answered, entered⟩
          · cases result : state.execution.submit index [input] (round.answer [input]) with
            | mk execution outcome =>
                rw [result] at refused goesOn
                cases refused
                cases goesOn
          · have counted := kept.counted
            have starts := kept.starts
            have below : state.execution.metrics.inFlight < u64Max := by
              have below := kept.hasCapacity_iff.mp room
              have usize := config.usize
              have limit : 1 <= u64Max := by decide
              rw [Config.maxInFlight] at below
              omega
            rw [entered]
            refine
              { name := kept.name, inputs := kept.inputs, outputs := kept.outputs
                live := kept.live, bound := kept.bound, cursor := kept.cursor
                modes := fun i => ?_, maxima := fun i => ?_, productive := ?_, counted := ?_
                starts := ?_, single := fun isSync => ?_
                slotted := fun isSync _ => ⟨index, ?_⟩ }
            · exact (field_update Runtime.isAsync _ (submitted_isAsync _ _ _) i).trans
                (kept.modes i)
            · exact (field_update Runtime.maxInFlight _ (submitted_maxInFlight _ _ _) i).trans
                (kept.maxima i)
            · intro i sequence stored occupied
              dsimp only at occupied
              by_cases same : i = index
              · rw [same, Function.update_self] at occupied
                unfold submitted at occupied
                split at occupied
                · exact kept.productive index sequence stored occupied
                · cases occupied
                  exact productive [input] _ answered
              · rw [Function.update_of_ne same] at occupied
                exact kept.productive i sequence stored occupied
            · change state.execution.metrics.recordSubmission.inFlight =
                (state.pending ++ [_]).length
              rw [BackendMetrics.recordSubmission_inFlight _ below, counted, List.length_append,
                List.length_singleton]
            · change (state.io.startPacket now).packetStarts.length <=
                (state.pending ++ [_]).length
              rw [ElementIo.startPacket_length, List.length_append, List.length_singleton]
              omega
            · change (state.pending ++ [_]).length <= 1
              rw [idle isSync]
              exact Nat.le_refl _
            · dsimp only
              rw [Function.update_self, submitted, kept.modes index, isSync]
              intro impossible
              cases impossible

/-- What a receive does, by what the pipe holds and whether the start of a
data packet fits its queue. -/
theorem receive_cases (kept : Bookkept config state) (round : Round n T) :
    (state.queue = [] ∧ (receive state round = state ∨
      (state.io.eos.seen = true ∧ receive state round = { state with eos := true }))) ∨
    (Exists fun packet => Exists fun rest => state.queue = packet :: rest ∧
      packet.isEos = true ∧
      receive state round = { state with
        io := { state.io with eos := { state.io.eos with seen := true } }
        queue := rest
        eos := true }) ∨
    (Exists fun packet => Exists fun rest => state.queue = packet :: rest ∧
      packet.isEos = false ∧
      ((state.io.packetStarts.length < config.maxStarts ∧
          receive state round = accept { state with
            io := state.io.startPacket round.now
            queue := rest } packet round) ∨
        (config.maxStarts <= state.io.packetStarts.length ∧
          receive state round = { state with
            io := state.io.startPacket round.now
            queue := rest
            returned := some (.error (state.io.startPacket round.now).packetStartsLimit) }))) := by
  have known := kept.connected.1
  cases filled : state.queue with
  | nil =>
      refine Or.inl ⟨rfl, ?_⟩
      simp only [receive, filled, state.io.recv_timeout known kept.live round.now]
      cases seen : state.io.eos.seen with
      | true =>
          refine Or.inr ⟨rfl, ?_⟩
          simp only [if_true, Packet.isEos_eos]
      | false =>
          apply Or.inl
          simp only [Bool.false_eq_true, if_false, ← filled]
  | cons packet rest =>
      cases marker : packet.isEos with
      | true =>
          refine Or.inr (Or.inl ⟨packet, rest, rfl, marker, ?_⟩)
          simp only [receive, filled, state.io.recv_eos known marker round.now, marker, if_true]
      | false =>
          refine Or.inr (Or.inr ⟨packet, rest, rfl, marker, ?_⟩)
          simp only [receive, filled, state.io.recv_data known marker round.now, kept.bound]
          by_cases fits : state.io.packetStarts.length < config.maxStarts
          · refine Or.inl ⟨fits, ?_⟩
            simp only [fits, if_true, marker, Bool.false_eq_true, if_false]
          · refine Or.inr ⟨Nat.le_of_not_lt fits, ?_⟩
            simp only [fits, if_false]

/-- The state at which a quiet turn goes on. -/
theorem quiet_bookkept (kept : Bookkept config state)
    {execution : InferenceExecution n T} (cursor : execution.pollCursor < n)
    (runtimes : execution.runtimes = state.execution.runtimes)
    (counter : execution.metrics.inFlight = state.execution.metrics.inFlight) :
    Bookkept config { state with execution := execution } where
  name := kept.name
  inputs := kept.inputs
  outputs := kept.outputs
  live := kept.live
  bound := kept.bound
  cursor := cursor
  modes := by rw [runtimes]; exact kept.modes
  maxima := by rw [runtimes]; exact kept.maxima
  productive := by rw [runtimes]; exact kept.productive
  counted := counter.trans kept.counted
  starts := kept.starts
  single := kept.single
  slotted := by rw [runtimes]; exact kept.slotted

private theorem outputs_of_returns (kept : Bookkept config state)
    (productive : Productive state (.turn round)) {index : Fin n} {sequence : Nat}
    {outputs : List T}
    (returns : Returns (state.execution.runtimes index) (round.answers index) sequence outputs) :
    outputs ≠ [] := by
  unfold Returns at returns
  split at returns
  · rename_i isAsync
    exact productive.1 index outputs sequence isAsync returns
  · exact kept.productive index sequence outputs returns

/-- A turn keeps the books while the element goes on running. -/
theorem turn_bookkept (kept : Bookkept config state) (running : state.returned = none)
    (productive : Productive state (.turn round))
    (goesOn : (turn state round).returned = none) : Bookkept config (turn state round) := by
  rcases pollReady_cases state.execution round.answers kept.cursor with
    ⟨none_, runtimes, counter, cursor, quiet⟩ |
      ⟨index, sequence, outputs, returns, gives, runtimes, counter, cursor⟩ |
      ⟨_, _, error, _, _, failed⟩
  · have stays := quiet_bookkept kept cursor runtimes counter
    rw [turn_quiet kept.live none_] at goesOn ⊢
    split at goesOn
    · cases goesOn
    · rename_i notDone
      rw [if_neg notDone]
      split at goesOn
      · rename_i waits
        rw [if_pos waits]
        exact stays
      · rename_i receives
        rw [if_neg receives]
        have room : (pollReady state.execution round.answers).1.hasCapacity = true := by
          simp only [Bool.or_eq_true, not_or, Bool.not_eq_true', Bool.not_eq_true,
            Bool.not_eq_false] at receives
          exact receives.2
        have idle := fun isSync => pending_nil_of_quiet kept isSync quiet
        rcases receive_cases stays round with
          ⟨_, same | ⟨_, same⟩⟩ | ⟨packet, rest, _, _, same⟩ |
            ⟨packet, rest, _, _, ⟨_, same⟩ | ⟨_, same⟩⟩
        · rw [same]
          exact stays
        · rw [same]
          exact { stays with }
        · rw [same]
          exact { stays with }
        · rw [same] at goesOn ⊢
          exact accept_bookkept stays room idle productive.2 packet rest round.now goesOn
        · rw [same] at goesOn
          cases goesOn
  · rw [turn_emits gives] at goesOn ⊢
    exact emit_bookkept kept running (outputs_of_returns kept productive returns) cursor runtimes
      counter goesOn
  · rw [turn_failed failed] at goesOn
    cases goesOn

private theorem accept_not_overrun (state : State n T R M) (running : state.returned = none)
    (packet : Packet T R M) : ¬ StartsOverrun config (accept state packet round) := by
  rintro ⟨requested, limit, overrun⟩
  unfold accept at overrun
  split at overrun
  · cases overrun
  · split at overrun
    · cases overrun
    · split at overrun
      · cases overrun
      · change state.returned = _ at overrun
        rw [running] at overrun
        cases overrun

/-- The start queue is overrun only by a turn of an asynchronous execution
whose in-flight bound exceeds the bound of the queue. -/
theorem overrun_bounds (kept : Bookkept config state) (running : state.returned = none)
    (overrun : StartsOverrun config (turn state round)) :
    config.isAsync = true ∧ config.maxStarts < config.maxInFlight := by
  rcases pollReady_cases state.execution round.answers kept.cursor with
    ⟨none_, runtimes, counter, cursor, quiet⟩ |
      ⟨index, sequence, outputs, returns, gives, runtimes, counter, cursor⟩ |
      ⟨_, _, error, _, _, failed⟩
  · have stays := quiet_bookkept kept cursor runtimes counter
    rw [turn_quiet kept.live none_] at overrun
    split at overrun
    · rcases overrun with ⟨_, _, impossible⟩
      cases impossible
    · split at overrun
      · rcases overrun with ⟨_, _, impossible⟩
        change state.returned = _ at impossible
        rw [running] at impossible
        cases impossible
      · rename_i receives
        have room : (pollReady state.execution round.answers).1.hasCapacity = true := by
          simp only [Bool.or_eq_true, not_or, Bool.not_eq_true', Bool.not_eq_true,
            Bool.not_eq_false] at receives
          exact receives.2
        have going : forall {later : State n T R M}, later.returned = state.returned ->
            ¬ StartsOverrun config later := by
          rintro later same ⟨_, _, impossible⟩
          rw [same, running] at impossible
          cases impossible
        rcases receive_cases stays round with
          ⟨_, same | ⟨_, same⟩⟩ | ⟨packet, rest, _, _, same⟩ |
            ⟨packet, rest, _, _, ⟨_, same⟩ | ⟨full, same⟩⟩
        · rw [same] at overrun
          exact absurd overrun (going rfl)
        · rw [same] at overrun
          exact absurd overrun (going rfl)
        · rw [same] at overrun
          exact absurd overrun (going rfl)
        · rw [same] at overrun
          refine absurd overrun (accept_not_overrun _ ?_ packet)
          exact running
        · change config.maxStarts <= state.io.packetStarts.length at full
          have starts := kept.starts
          have positive : 1 <= config.maxStarts := Nat.le_max_right _ _
          cases mode : config.isAsync with
          | false =>
              rw [pending_nil_of_quiet kept mode quiet, List.length_nil] at starts
              omega
          | true =>
              refine ⟨rfl, ?_⟩
              have below := stays.hasCapacity_iff.mp room
              dsimp only at below
              omega
  · rw [turn_emits gives] at overrun
    rcases @emit_cases n T R M
      { state with execution := (pollReady state.execution round.answers).1 }
      kept.connected.2.1 kept.connected.2.2 running index sequence outputs with
      ⟨_, unknown⟩ | ⟨found, _, paired⟩
    · rw [unknown] at overrun
      rcases overrun with ⟨_, _, impossible⟩
      cases impossible
    · rw [paired] at overrun
      rcases overrun with ⟨_, _, impossible⟩
      change state.returned = _ at impossible
      rw [running] at impossible
      cases impossible
  · rw [turn_failed failed] at overrun
    rcases overrun with ⟨_, _, impossible⟩
    cases impossible

/-- While the element runs its books are in order, and it has stopped with an
overrun start queue only if the bounds allow it. -/
private def Safe (config : Config n) (state : State n T R M) : Prop :=
  (state.returned = none -> Bookkept config state) ∧
    (StartsOverrun config state -> config.isAsync = true ∧ config.maxStarts < config.maxInFlight)

private theorem safe_step {label : Label n T} {next : State n T R M}
    (safe : Safe config state) (productive : Productive state label)
    (stepped : (machine config).step state label = some next) : Safe config next := by
  cases label with
  | push =>
      simp only [machine, step] at stepped
      split at stepped
      · cases stepped
      · split at stepped
        · cases stepped
          exact ⟨fun running => { safe.1 running with }, safe.2⟩
        · cases stepped
  | turn round =>
      simp only [machine, step] at stepped
      split at stepped
      · cases stepped
      · rename_i running
        cases stepped
        have kept := safe.1 running
        exact ⟨turn_bookkept kept running productive, overrun_bounds kept running⟩

end Bookkeeping

/-! ## Obliging backends -/

/-- What a loaded model computes: some outputs for each submission, which may
depend on the instance and on the sequence number. -/
structure Model (n : Nat) (T : Type) where
  infer : Fin n -> Nat -> List T -> List T
  productive : forall i sequence inputs, infer i sequence inputs ≠ []

/-- A turn in which every instance that answers returns a submission it holds
with the model's outputs for it, and in which a submission is accepted. -/
def Obliging (model : Model n T) (state : State n T R M) : Label n T -> Prop
  | .push => True
  | .turn round =>
      (forall i, (state.execution.runtimes i).isAsync = true ->
        round.answers i = .pending ∨ Exists fun sequence => Exists fun inputs =>
          (sequence, inputs) ∈ (state.execution.runtimes i).held ∧
            round.answers i = .ready (model.infer i sequence inputs) sequence) ∧
      Exists fun index => round.checkout = .ok index ∧ forall inputs,
        round.answer inputs = .ok
          (model.infer index (state.execution.runtimes index).nextSequence inputs)

theorem productive_of_obliging {model : Model n T} {state : State n T R M} {label : Label n T}
    (obliging : Obliging model state label) : Productive state label := by
  cases label with
  | push => trivial
  | turn round =>
      rcases obliging with ⟨answers, index, _, accepts⟩
      constructor
      · intro i outputs sequence isAsync gives
        rcases answers i isAsync with waits | ⟨held, inputs, _, returns⟩
        · rw [waits] at gives
          cases gives
        · rw [returns] at gives
          cases gives
          exact model.productive i sequence inputs
      · intro inputs outputs accepted
        rw [accepts inputs] at accepted
        cases accepted
        exact model.productive index _ inputs

/-- A turn in which no asynchronous instance completes anything. -/
def feed (model : Model n T) (state : State n T R M) (index : Fin n) : Round n T where
  answers := fun _ => .pending
  now := 0
  checkout := .ok index
  answer := fun inputs =>
    .ok (model.infer index (state.execution.runtimes index).nextSequence inputs)

theorem feed_obliging (model : Model n T) (state : State n T R M) (index : Fin n) :
    Obliging model state (.turn (feed model state index)) :=
  ⟨fun _ _ => Or.inl rfl, index, rfl, fun _ => rfl⟩

section Feeding

variable {config : Config n} {model : Model n T} {state : State n T R M}

/-- Nothing is ready in a turn without completions when no slot is filled. -/
theorem feed_quiet (kept : Bookkept config state) (index : Fin n)
    (slots : config.isAsync = false ->
      forall i, (state.execution.runtimes i).syncResult = none) :
    (pollReady state.execution (feed model state index).answers).2 = .ok none ∧
      (pollReady state.execution (feed model state index).answers).1.runtimes =
        state.execution.runtimes ∧
      (pollReady state.execution (feed model state index).answers).1.metrics.inFlight =
        state.execution.metrics.inFlight ∧
      (pollReady state.execution (feed model state index).answers).1.pollCursor < n := by
  have noReturn : forall i sequence outputs, ¬ Returns (state.execution.runtimes i)
      ((feed model state index).answers i) sequence outputs := by
    intro i sequence outputs returns
    unfold Returns at returns
    split at returns
    · cases returns
    · rename_i isSync
      rw [kept.modes i, Bool.not_eq_true] at isSync
      rw [slots isSync i] at returns
      cases returns
  rcases pollReady_cases state.execution (feed model state index).answers kept.cursor with
    ⟨none_, runtimes, counter, cursor, _⟩ | ⟨i, sequence, outputs, returns, _⟩ |
      ⟨_, _, _, _, fails, _⟩
  · exact ⟨none_, runtimes, counter, cursor⟩
  · exact absurd returns (noReturn i sequence outputs)
  · cases fails

theorem accept_submits {packet : Packet T R M} {round : Round n T} {input : T}
    {index : Fin n} (payload : packet.tensorRef = some input)
    (chosen : round.checkout = .ok index) :
    accept state packet round =
      match state.execution.submit index [input] (round.answer [input]) with
      | (execution, .error error) =>
          { state with
            execution := execution
            returned := some (.error (.runtimeBackend error.toText)) }
      | (execution, .ok sequence) =>
          { state with
            execution := execution
            pending := state.pending ++ [⟨index, sequence, packet.metadata⟩] } := by
  unfold accept
  rw [payload, chosen]

/-- A turn that receives a data packet while there is room everywhere: the
packet is submitted and remembered, unless its start overruns the queue. -/
theorem turn_feed (model : Model n T) (kept : Bookkept config state)
    (notEnded : state.eos = false) (index : Fin n)
    (slots : config.isAsync = false ->
      forall i, (state.execution.runtimes i).syncResult = none)
    (capacity : state.pending.length < config.maxInFlight)
    {packet : Packet T R M} {input : T} {rest : List (Packet T R M)}
    (filled : state.queue = packet :: rest) (payload : packet.tensorRef = some input)
    (isData : packet.isEos = false) :
    (config.maxStarts <= state.io.packetStarts.length ->
      StartsOverrun config (turn state (feed model state index))) ∧
    (state.io.packetStarts.length < config.maxStarts ->
      (state.execution.runtimes index).currentInFlight < config.maxInFlight ->
      (u64Max < (state.execution.runtimes index).nextSequence + 1 ->
        (turn state (feed model state index)).returned =
          some (.error (.runtimeBackend Backend.Error.sequenceExhausted.toText))) ∧
      ((state.execution.runtimes index).nextSequence + 1 <= u64Max ->
        Exists fun execution => execution.runtimes = Function.update state.execution.runtimes
            index (submitted (state.execution.runtimes index) [input]
              (model.infer index (state.execution.runtimes index).nextSequence [input])) ∧
          turn state (feed model state index) =
            { state with
              execution := execution
              io := state.io.startPacket 0
              queue := rest
              pending := state.pending ++
                [⟨index, (state.execution.runtimes index).nextSequence, packet.metadata⟩] })) := by
  rcases feed_quiet kept index slots with ⟨none_, runtimes, counter, cursor⟩
  have stays := quiet_bookkept kept cursor runtimes counter
  have room : (pollReady state.execution (feed model state index).answers).1.hasCapacity =
      true := stays.hasCapacity_iff.mpr capacity
  have receives : turn state (feed model state index) = receive { state with
      execution := (pollReady state.execution (feed model state index).answers).1 }
      (feed model state index) := by
    rw [turn_quiet kept.live none_, notEnded, room]
    rfl
  rcases receive_cases stays (feed model state index) with
    ⟨empty, _⟩ | ⟨other, others, head, marker, _⟩ | ⟨other, others, head, _, outcome⟩
  · change state.queue = [] at empty
    rw [filled] at empty
    cases empty
  · change state.queue = _ at head
    rw [filled] at head
    cases head
    rw [isData] at marker
    cases marker
  · change state.queue = _ at head
    rw [filled] at head
    cases head
    constructor
    · intro full
      rcases outcome with ⟨fits, _⟩ | ⟨_, same⟩
      · change state.io.packetStarts.length < _ at fits
        omega
      · rw [receives, same]
        refine ⟨state.io.packetStarts.length + 1, config.maxStarts, ?_⟩
        dsimp only
        rw [ElementIo.packetStartsLimit, ElementIo.startPacket_length,
          ElementIo.startPacket_maxPacketStarts, kept.bound]
        change some (Except.error (Error.resourceLimit (state.io.name ++ "/packet_starts") _ _)) =
          _
        rw [kept.name]
    · intro fits admits
      rcases outcome with ⟨_, same⟩ | ⟨full, _⟩
      · have turned : turn state (feed model state index) = accept { state with
            execution := (pollReady state.execution (feed model state index).answers).1
            io := state.io.startPacket 0
            queue := rest } packet (feed model state index) := receives.trans same
        rw [turned, accept_submits payload (rfl : (feed model state index).checkout = .ok index)]
        constructor
        · intro exhausted
          unfold InferenceExecution.submit Runtime.submit
          rw [runtimes, kept.maxima index, if_neg (Nat.not_le_of_lt admits), if_pos exhausted]
        · intro left
          rcases submit_cases (pollReady state.execution (feed model state index).answers).1 index
            [input] ((feed model state index).answer [input]) with
            ⟨error, refused, full | exhausted | answered⟩ | ⟨outputs, answered, entered⟩
          · rw [runtimes, kept.maxima index] at full
            omega
          · rw [runtimes] at exhausted
            omega
          · cases answered
          · cases answered
            rw [runtimes] at entered
            exact ⟨_, rfl, by rw [entered]⟩
      · change config.maxStarts <= state.io.packetStarts.length at full
        omega

/-- The packet that carries one input tensor with its metadata. -/
def inputPacket (item : PacketMeta M × T) : Packet T R M :=
  (Packet.tensor item.2).withMeta item.1

/-- The stream of an upstream that sends these inputs and then ends. -/
def inputStream (data : List (PacketMeta M × T)) : List (Packet T R M) :=
  data.map inputPacket ++ [Packet.eos]

/-- The upstream can place its next packet whenever the pipe is empty. -/
theorem push_empty (config : Config n) {packet : Packet T R M} {rest : List (Packet T R M)}
    (empty : state.queue = []) (sending : state.upstream = packet :: rest) :
    (machine config).step state .push =
      some { state with upstream := rest, queue := [packet] } := by
  have room : (config.pipeCapacity.elim true fun bound => decide (0 < bound)) = true := by
    cases bound : config.pipeCapacity with
    | none => rfl
    | some limit =>
        have positive : limit ≠ 0 := fun zero => config.room (by rw [bound, zero])
        exact decide_eq_true (Nat.pos_of_ne_zero positive)
  simp only [machine, step, sending, empty, List.length_nil, room, if_true, List.nil_append]

/-- A run that submits the first inputs to one asynchronous instance and
completes none of them. -/
private theorem fill (model : Model n T) (mode : config.isAsync = true)
    (data : List (PacketMeta M × T)) (count : Nat) (available : count <= data.length)
    (fits : count <= config.maxStarts) (admitted : count <= config.maxInFlight) :
    Exists fun state : State n T R M =>
      (machine config).Leads (Obliging model) (initial config (inputStream data)) state ∧
        Bookkept config state ∧ state.returned = none ∧ state.eos = false ∧
        state.queue = [] ∧ state.upstream = inputStream (data.drop count) ∧
        state.pending.length = count ∧ state.io.packetStarts.length = count ∧
        (state.execution.runtimes ⟨0, config.nonempty⟩).nextSequence = count ∧
        (state.execution.runtimes ⟨0, config.nonempty⟩).held.length = count := by
  induction count with
  | zero =>
      exact ⟨initial config (inputStream data), Machine.Leads.refl _ _ _,
        initial_bookkept config _, rfl, rfl, rfl, rfl, rfl, rfl, rfl, rfl⟩
  | succ count ih =>
      rcases ih (by omega) (by omega) (by omega) with
        ⟨state, leads, kept, running, notEnded, empty, sending, pending, starts, sequence, held⟩
      have below : count < data.length := by omega
      rw [inputStream, List.drop_eq_getElem_cons below, List.map_cons, List.cons_append]
        at sending
      have pushed := push_empty config empty sending
      let filled : State n T R M :=
        { state with
          upstream := inputStream (data.drop (count + 1))
          queue := [inputPacket data[count]] }
      have keptFilled : Bookkept config filled := { kept with }
      have usize := config.usize
      have limit : 1 <= u64Max := by decide
      have bound : config.maxInFlight <= u64Max := by
        unfold Config.maxInFlight
        omega
      have asyncMode := kept.modes ⟨0, config.nonempty⟩
      rw [mode] at asyncMode
      have current : (filled.execution.runtimes ⟨0, config.nonempty⟩).currentInFlight <
          config.maxInFlight := by
        change (state.execution.runtimes _).currentInFlight < _
        rw [Runtime.currentInFlight, asyncMode, if_pos rfl, held]
        omega
      rcases ((turn_feed model keptFilled notEnded ⟨0, config.nonempty⟩
        (fun isSync => by rw [mode] at isSync; cases isSync)
        (by change state.pending.length < _; omega) rfl rfl rfl).2
        (by change state.io.packetStarts.length < _; omega) current).2
        (by change (state.execution.runtimes _).nextSequence + 1 <= _; omega) with
        ⟨execution, runtimes, turned⟩
      have stepped := step_turn config filled running
        (feed model filled ⟨0, config.nonempty⟩)
      have obliging := feed_obliging model filled ⟨0, config.nonempty⟩
      have goesOn : (turn filled (feed model filled ⟨0, config.nonempty⟩)).returned = none := by
        rw [turned]
        exact running
      have keptNext := turn_bookkept keptFilled running (productive_of_obliging obliging) goesOn
      have pushes : Obliging model state .push := trivial
      refine ⟨_, Machine.Leads.step _ (Machine.Leads.step _ leads pushes pushed) obliging stepped,
        keptNext, goesOn, ?_⟩
      rw [turned]
      refine ⟨notEnded, rfl, rfl, ?_, ?_, ?_, ?_⟩
      · change (state.pending ++ [_]).length = _
        rw [List.length_append, List.length_singleton, pending]
      · change (state.io.startPacket 0).packetStarts.length = _
        rw [ElementIo.startPacket_length, starts]
      · dsimp only
        rw [runtimes, Function.update_self, submitted_nextSequence]
        change (state.execution.runtimes _).nextSequence + 1 = _
        rw [sequence]
      · dsimp only
        rw [runtimes, Function.update_self, submitted]
        change (if (state.execution.runtimes _).isAsync = true then _ else _ :
          Runtime T).held.length = _
        rw [asyncMode, if_pos rfl]
        change ((state.execution.runtimes _).held ++ [_]).length = _
        rw [List.length_append, List.length_singleton, held]

/-- An asynchronous execution that admits more submissions than starts fit
the queue is stopped by the input after them. -/
theorem overrun_reachable (model : Model n T) (mode : config.isAsync = true)
    (exceeds : config.maxStarts < config.maxInFlight) (data : List (PacketMeta M × T))
    (long : config.maxStarts < data.length) :
    Exists fun state : State n T R M =>
      (machine config).Leads (Obliging model) (initial config (inputStream data)) state ∧
        StartsOverrun config state := by
  rcases fill (R := R) model mode data config.maxStarts (by omega) (Nat.le_refl _)
    (by omega) with
    ⟨state, leads, kept, running, notEnded, empty, sending, pending, starts, _, _⟩
  rw [inputStream, List.drop_eq_getElem_cons long, List.map_cons, List.cons_append] at sending
  have pushed := push_empty config empty sending
  let filled : State n T R M :=
    { state with
      upstream := inputStream (data.drop (config.maxStarts + 1))
      queue := [inputPacket data[config.maxStarts]] }
  have keptFilled : Bookkept config filled := { kept with }
  have overrun := (turn_feed model keptFilled notEnded ⟨0, config.nonempty⟩
    (fun isSync => by rw [mode] at isSync; cases isSync)
    (by change state.pending.length < _; omega) rfl rfl rfl).1
    (by change _ <= state.io.packetStarts.length; omega)
  have stepped := step_turn config filled running
    (feed model filled ⟨0, config.nonempty⟩)
  have pushes : Obliging model state .push := trivial
  exact ⟨_, Machine.Leads.step _ (Machine.Leads.step _ leads pushes pushed)
    (feed_obliging model filled _) stepped, overrun⟩

end Feeding

/-! ## When the start queue can be overrun -/

/-- The inference element never overruns its start queue, whatever the stream
and whatever its backends do, exactly when they are synchronous or its
in-flight bound is at most the bound of the queue. -/
theorem never_overrun_iff [Inhabited T] (config : Config n) :
    (forall (stream : List (Packet T R M)) (labels : List (Label n T)) (final : State n T R M),
      (machine config).Meets Productive (initial config stream) labels ->
      (machine config).run (initial config stream) labels = some final ->
      ¬ StartsOverrun config final) <->
    (config.isAsync = false ∨ config.maxInFlight <= config.maxStarts) := by
  constructor
  · intro never
    by_contra outside
    rw [not_or, Bool.not_eq_false, Nat.not_le] at outside
    let model : Model n T := ⟨fun _ _ _ => [default], fun _ _ _ => List.cons_ne_nil _ _⟩
    rcases overrun_reachable (R := R) (M := M) model outside.1 outside.2
      (List.replicate (config.maxStarts + 1) (PacketMeta.empty M, default))
      (by rw [List.length_replicate]; exact Nat.lt_succ_self _) with
      ⟨final, ⟨labels, meets, reached⟩, overrun⟩
    refine never _ labels final ?_ reached overrun
    exact Machine.Meets.mono _ (fun _ _ obliging => productive_of_obliging obliging) meets
  · intro bounds stream labels final meets reached overrun
    have start : Safe config (initial config stream) := by
      refine ⟨fun _ => initial_bookkept config stream, ?_⟩
      rintro ⟨_, _, impossible⟩
      cases impossible
    have safe := (machine config).run_invariant_of_meets (Safe config)
      (fun _ _ _ holds productive stepped => safe_step holds productive stepped) start meets reached
    rcases safe.2 overrun with ⟨mode, exceeds⟩
    rcases bounds with isSync | within
    · rw [mode] at isSync
      cases isSync
    · omega

/-- One asynchronous instance that admits two submissions, over a queue that
holds the start of one packet. -/
def oneOfTwo : Config 1 where
  name := "infer"
  isAsync := true
  backendMax := 2
  usize := by decide
  queueCapacity := 1
  pipeCapacity := some 1
  room := by decide
  nonempty := by decide

def oneOfTwoStart : State 1 Nat Unit Unit :=
  initial oneOfTwo (inputStream [(PacketMeta.empty Unit, 1), (PacketMeta.empty Unit, 2)])

/-- A turn of that instance in which its backend is still busy. -/
def busyRound : Round 1 Nat where
  answers := fun _ => .pending
  now := 0
  checkout := .ok 0
  answer := fun _ => .ok [0]

/-- The second input arrives while the first is in flight, and its start
overruns the queue although the backend had room for it. -/
theorem inference_overruns_starts :
    ¬ forall (labels : List (Label 1 Nat)) (final : State 1 Nat Unit Unit),
        (machine oneOfTwo).Meets Productive oneOfTwoStart labels ->
        (machine oneOfTwo).run oneOfTwoStart labels = some final ->
        ¬ StartsOverrun oneOfTwo final := by
  intro never
  have stops : ((machine oneOfTwo).run oneOfTwoStart
      [.push, .turn busyRound, .push, .turn busyRound]).map State.returned =
      some (some (.error (.resourceLimit "infer/packet_starts" 2 1))) := by
    decide +kernel
  rcases Option.map_eq_some_iff.mp stops with ⟨final, reached, returned⟩
  have productive : forall state : State 1 Nat Unit Unit,
      Productive state (.turn busyRound) := by
    intro state
    constructor
    · intro i outputs sequence _ impossible
      cases impossible
    · intro inputs outputs answered
      cases answered
      exact List.cons_ne_nil _ _
  have pushes : forall state : State 1 Nat Unit Unit, Productive state .push :=
    fun _ => trivial
  refine never _ final ?_ reached ⟨2, 1, returned⟩
  exact ⟨pushes _, fun _ _ => ⟨productive _, fun _ _ => ⟨pushes _, fun _ _ =>
    ⟨productive _, fun _ _ => trivial⟩⟩⟩⟩

end Inference
end Graph
end DyunGu
