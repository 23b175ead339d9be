import DyunGu.Lib.Indexed
import DyunGu.Lib.Machine
import DyunGu.Graph.Element
import Mathlib.Data.List.Perm.Basic

namespace DyunGu
namespace Graph
namespace MultiInstance

open Indexed

variable {T R M : Type} {k : Nat}

/-!
# The end-of-stream protocol of a node with several instances

The instances of a node share one input receiver and one end-of-stream state.
One of them takes the real marker off the pipe, the others learn of it from
the shared flag after a timeout, and only the last instance to arrive at the
broadcast may put the marker on the outgoing edges.

Every access to a shared object is a step of its own: taking an answer from
the receiver, reading or writing the flag, placing one packet on one edge,
and counting an arrival.  What an element does between receives is left open:
it may send any data on any of its ports and complete packets as it likes.
The steps in which an element call fails are absent, so the runs of the
machine are the runs without an element error or a stop request.
-/

/-- A node with `k` instances and one input port.  Each instance iterates
over its own hash map of output ports, so the order of the senders may differ
between instances, but all of them hold the same edges. -/
structure Node (k : Nat) where
  name : String
  input : String
  outputs : Fin k -> List (String × List String)
  edges : List String
  queueCapacity : Nat
  capacity : Option Nat
  distinct : edges.Nodup
  covers : forall instance_, ((outputs instance_).flatMap Prod.snd).Perm edges
  room : capacity ≠ some 0

/-- The program point of one instance.  `answered` stands between the release
of the receiver lock and the rest of `recv`, `sending` and `broadcasting` hold
the senders that are still to be served. -/
inductive Point (T R M : Type) where
  | ready
  | answered (answer : Except RecvTimeoutError (Packet T R M))
  | sending (port : String) (packet : Packet T R M) (rest : List String) (ending : Bool)
  | ending
  | broadcasting (rest : List String)
  | finished
deriving DecidableEq

/-- The shared state, the program points and what every pipe has carried.
`received` records which instance took which packet, `log` everything placed
on an edge, and `taken` how much of it the downstream has consumed. -/
structure State (k : Nat) (T R M : Type) where
  eos : EosState
  upstream : List (Packet T R M)
  queue : List (Packet T R M)
  received : List (Fin k × Packet T R M)
  point : Fin k -> Point T R M
  starts : Fin k -> List Nat
  log : String -> List (Fin k × Packet T R M)
  taken : String -> Nat

/-- The element context of one instance over the shared state. -/
def context (node : Node k) (state : State k T R M) (i : Fin k) : ElementIo where
  name := node.name
  inputs := [node.input]
  outputs := (node.outputs i).map Prod.fst
  stop := false
  controlStop := false
  eos := state.eos
  packetStarts := state.starts i
  maxPacketStarts := max node.queueCapacity 1

inductive Label (k : Nat) (T R M : Type) where
  | push
  | take (i : Fin k)
  | resume (i : Fin k) (now : Nat)
  | send (i : Fin k) (port : String) (packet : Packet T R M)
  | put (i : Fin k)
  | sent (i : Fin k)
  | finish (i : Fin k)
  | arrive (i : Fin k)
  | drain (edge : String)

def hasRoom (node : Node k) (depth : Nat) : Bool :=
  match node.capacity with
  | none => true
  | some bound => decide (depth < bound)

/-- Place one packet on one edge and move the instance on. -/
def place (node : Node k) (state : State k T R M) (i : Fin k) (edge : String)
    (packet : Packet T R M) (next : Point T R M) : Option (State k T R M) :=
  if hasRoom node ((state.log edge).length - state.taken edge) then
    some { state with
      log := Function.update state.log edge (state.log edge ++ [(i, packet)])
      point := Function.update state.point i next }
  else none

/-- The rest of `recv` after the receiver lock has been released. -/
def resume (node : Node k) (state : State k T R M) (i : Fin k)
    (answer : Except RecvTimeoutError (Packet T R M)) (now : Nat) : Option (State k T R M) :=
  match (context node state i).recv node.input answer now with
  | (_, .error _) => none
  | (io, .ok result) =>
      some { state with
        eos := io.eos
        starts := Function.update state.starts i io.packetStarts
        point := Function.update state.point i
          (match result with
          | some packet => if packet.isEos then .ending else .ready
          | none => .ready) }

def step (node : Node k) (state : State k T R M) : Label k T R M -> Option (State k T R M)
  | .push =>
      match state.upstream with
      | [] => none
      | packet :: rest =>
          if hasRoom node state.queue.length then
            some { state with upstream := rest, queue := state.queue ++ [packet] }
          else none
  | .take i =>
      match state.point i with
      | .ready =>
          match state.queue with
          | [] =>
              some { state with
                point := Function.update state.point i (.answered (.error .timeout)) }
          | packet :: rest =>
              some { state with
                queue := rest
                received := state.received ++ [(i, packet)]
                point := Function.update state.point i (.answered (.ok packet)) }
      | _ => none
  | .resume i now =>
      match state.point i with
      | .answered answer => resume node state i answer now
      | _ => none
  | .send i port packet =>
      if packet.isEos then none
      else
        match state.point i, (node.outputs i).lookup port with
        | .ready, some senders =>
            some { state with
              point := Function.update state.point i (.sending port packet senders false) }
        | .ending, some senders =>
            some { state with
              point := Function.update state.point i (.sending port packet senders true) }
        | _, _ => none
  | .put i =>
      match state.point i with
      | .sending port packet (edge :: rest) ending =>
          place node state i edge packet (.sending port packet rest ending)
      | .broadcasting (edge :: rest) =>
          place node state i edge Packet.eos (.broadcasting rest)
      | _ => none
  | .sent i =>
      match state.point i with
      | .sending port packet [] ending =>
          match (context node state i).send port packet .delivered with
          | (io, .ok ()) =>
              some { state with
                starts := Function.update state.starts i io.packetStarts
                point := Function.update state.point i (if ending then .ending else .ready) }
          | (_, .error _) => none
      | .broadcasting [] => some { state with point := Function.update state.point i .finished }
      | _ => none
  | .finish i =>
      match state.point i with
      | .ready | .ending =>
          some { state with
            starts := Function.update state.starts i
              (context node state i).completePacket.packetStarts }
      | _ => none
  | .arrive i =>
      match state.point i with
      | .ending =>
          some { state with
            eos := state.eos.arrive.1
            point := Function.update state.point i
              (if state.eos.arrive.2 then .broadcasting ((node.outputs i).flatMap Prod.snd)
              else .finished) }
      | _ => none
  | .drain edge =>
      if state.taken edge < (state.log edge).length then
        some { state with taken := Function.update state.taken edge (state.taken edge + 1) }
      else none

def machine (node : Node k) : Machine (State k T R M) (Label k T R M) where
  step := step node

/-- A freshly built node whose upstream will send the data and one marker. -/
def initial (k : Nat) (data : List (Packet T R M)) : State k T R M where
  eos := EosState.fresh k
  upstream := data ++ [Packet.eos]
  queue := []
  received := []
  point := fun _ => .ready
  starts := fun _ => []
  log := fun _ => []
  taken := fun _ => 0

/-! ## What one step does

Every step but the two on the upstream and downstream ends moves exactly one
instance.  The lemma for each label states its guard and its effect, and the
invariants below are derived from these lemmas alone. -/

section Steps

variable {node : Node k} {state next : State k T R M}

theorem step_push (stepped : step node state .push = some next) :
    Exists fun packet => Exists fun rest => state.upstream = packet :: rest ∧
      next = { state with upstream := rest, queue := state.queue ++ [packet] } := by
  simp only [step] at stepped
  split at stepped
  · cases stepped
  · rename_i packet rest sending
    split at stepped
    · cases stepped
      exact ⟨packet, rest, sending, rfl⟩
    · cases stepped

theorem step_take {i : Fin k} (stepped : step node state (.take i) = some next) :
    state.point i = .ready ∧
      ((state.queue = [] ∧ next = { state with
          point := Function.update state.point i (.answered (.error .timeout)) }) ∨
        Exists fun packet => Exists fun rest => state.queue = packet :: rest ∧
          next = { state with
            queue := rest
            received := state.received ++ [(i, packet)]
            point := Function.update state.point i (.answered (.ok packet)) }) := by
  simp only [step] at stepped
  split at stepped
  · rename_i atReady
    refine ⟨atReady, ?_⟩
    split at stepped
    · rename_i empty
      cases stepped
      exact Or.inl ⟨empty, rfl⟩
    · rename_i packet rest filled
      cases stepped
      exact Or.inr ⟨packet, rest, filled, rfl⟩
  · cases stepped

/-- The three ways in which a receive comes back without an error. -/
theorem step_resume {i : Fin k} {now : Nat}
    (stepped : step node state (.resume i now) = some next) :
    (Exists fun packet => state.point i = .answered (.ok packet) ∧ packet.isEos = false ∧
      next = { state with
        starts := Function.update state.starts i (state.starts i ++ [now])
        point := Function.update state.point i .ready }) ∨
    (Exists fun packet => state.point i = .answered (.ok packet) ∧ packet.isEos = true ∧
      next = { state with
        eos := { state.eos with seen := true }
        point := Function.update state.point i .ending }) ∨
    (Exists fun error => state.point i = .answered (.error error) ∧
      next = { state with
        point := Function.update state.point i (if state.eos.seen then .ending else .ready) }) := by
  have known : node.input ∈ (context node state i).inputs := List.mem_singleton_self _
  have same : Function.update state.starts i (state.starts i) = state.starts :=
    Function.update_eq_self _ _
  simp only [step] at stepped
  split at stepped
  · rename_i answer atAnswer
    cases answer with
    | ok packet =>
        cases marker : packet.isEos with
        | false =>
            refine Or.inl ⟨packet, atAnswer, marker, ?_⟩
            simp only [resume, (context node state i).recv_data known marker now] at stepped
            by_cases fits : (context node state i).packetStarts.length <
                (context node state i).maxPacketStarts
            · simp only [fits, if_true, marker, Bool.false_eq_true, if_false] at stepped
              cases stepped
              rfl
            · simp only [fits, if_false] at stepped
              cases stepped
        | true =>
            refine Or.inr (Or.inl ⟨packet, atAnswer, marker, ?_⟩)
            simp only [resume, (context node state i).recv_eos known marker now, marker,
              if_true] at stepped
            cases stepped
            simp only [context, same]
    | error error =>
        refine Or.inr (Or.inr ⟨error, atAnswer, ?_⟩)
        cases error with
        | timeout =>
            simp only [resume, (context node state i).recv_timeout known rfl now] at stepped
            cases stepped
            cases seen : state.eos.seen <;> simp [context, seen]
        | disconnected =>
            simp only [resume, (context node state i).recv_disconnected known rfl now] at stepped
            cases seen : (context node state i).eos.seen with
            | true =>
                simp only [seen, if_true, Packet.isEos_eos] at stepped
                cases stepped
                change state.eos.seen = true at seen
                simp [context, seen]
            | false =>
                simp only [seen, Bool.false_eq_true, if_false] at stepped
                cases stepped
  · cases stepped

theorem step_send {i : Fin k} {port : String} {packet : Packet T R M}
    (stepped : step node state (.send i port packet) = some next) :
    packet.isEos = false ∧ Exists fun senders => (node.outputs i).lookup port = some senders ∧
      Exists fun ending : Bool => state.point i = (if ending then .ending else .ready) ∧
        next = { state with
          point := Function.update state.point i (.sending port packet senders ending) } := by
  simp only [step] at stepped
  split at stepped
  · cases stepped
  · rename_i isData
    refine ⟨by simpa using isData, ?_⟩
    split at stepped
    · rename_i senders atReady found
      cases stepped
      exact ⟨senders, found, false, atReady, rfl⟩
    · rename_i senders atEnding found
      cases stepped
      exact ⟨senders, found, true, atEnding, rfl⟩
    · cases stepped

theorem step_put {i : Fin k} (stepped : step node state (.put i) = some next) :
    Exists fun edge => Exists fun packet => Exists fun after =>
      next = { state with
        log := Function.update state.log edge (state.log edge ++ [(i, packet)])
        point := Function.update state.point i after } ∧
      ((Exists fun port => Exists fun rest => Exists fun ending =>
          state.point i = .sending port packet (edge :: rest) ending ∧
            after = .sending port packet rest ending) ∨
        Exists fun rest => state.point i = .broadcasting (edge :: rest) ∧
          packet = Packet.eos ∧ after = .broadcasting rest) := by
  simp only [step, place] at stepped
  split at stepped
  · rename_i port packet edge rest ending atSending
    split at stepped
    · cases stepped
      exact ⟨edge, packet, _, rfl, Or.inl ⟨port, rest, ending, atSending, rfl⟩⟩
    · cases stepped
  · rename_i edge rest atBroadcast
    split at stepped
    · cases stepped
      exact ⟨edge, _, _, rfl, Or.inr ⟨rest, atBroadcast, rfl, rfl⟩⟩
    · cases stepped
  · cases stepped

theorem step_sent {i : Fin k} (stepped : step node state (.sent i) = some next) :
    (Exists fun port => Exists fun packet => Exists fun ending => Exists fun starts =>
      state.point i = .sending port packet [] ending ∧
        next = { state with
          starts := Function.update state.starts i starts
          point := Function.update state.point i (if ending then .ending else .ready) }) ∨
      (state.point i = .broadcasting [] ∧
        next = { state with point := Function.update state.point i .finished }) := by
  simp only [step] at stepped
  split at stepped
  · rename_i port packet ending atSending
    split at stepped
    · rename_i io done
      cases stepped
      exact Or.inl ⟨port, packet, ending, io.packetStarts, atSending, rfl⟩
    · cases stepped
  · rename_i atBroadcast
    cases stepped
    exact Or.inr ⟨atBroadcast, rfl⟩
  · cases stepped

theorem step_finish {i : Fin k} (stepped : step node state (.finish i) = some next) :
    next = { state with
      starts := Function.update state.starts i (state.starts i).tail } := by
  simp only [step] at stepped
  split at stepped
  · cases stepped
    rfl
  · cases stepped
    rfl
  · cases stepped

theorem step_arrive {i : Fin k} (stepped : step node state (.arrive i) = some next) :
    state.point i = .ending ∧
      next = { state with
        eos := state.eos.arrive.1
        point := Function.update state.point i
          (if state.eos.arrive.2 then .broadcasting ((node.outputs i).flatMap Prod.snd)
          else .finished) } := by
  simp only [step] at stepped
  split at stepped
  · rename_i atEnding
    cases stepped
    exact ⟨atEnding, rfl⟩
  · cases stepped

theorem step_drain {edge : String} (stepped : step node state (.drain edge) = some next) :
    next = { state with
      taken := Function.update state.taken edge (state.taken edge + 1) } := by
  simp only [step] at stepped
  split at stepped
  · cases stepped
    rfl
  · cases stepped

end Steps

/-! ## The input side: every packet is taken once, and the marker last -/

/-- The points of an instance whose last receive answered with a marker. -/
def Point.isOver : Point T R M -> Bool
  | .ready | .answered _ => false
  | .sending _ _ _ marked => marked
  | .ending | .broadcasting _ | .finished => true

/-- Where the packets of the input stream are, and what the shared flag and
the program points say about the marker. -/
structure Stream (data : List (Packet T R M)) (state : State k T R M) : Prop where
  account : state.received.map Prod.snd ++ (state.queue ++ state.upstream) =
    data ++ [Packet.eos]
  popped : forall i packet, state.point i = .answered (.ok packet) ->
    packet ∈ state.received.map Prod.snd
  seen : state.eos.seen = true ->
    Exists fun packet => packet ∈ state.received.map Prod.snd ∧ packet.isEos = true
  known : forall packet, packet ∈ state.received.map Prod.snd -> packet.isEos = true ->
    state.eos.seen = true ∨
      Exists fun i => Exists fun marker => state.point i = .answered (.ok marker) ∧
        marker.isEos = true
  isOver : forall i, (state.point i).isOver = true -> state.eos.seen = true
  timeouts : forall i error, state.point i = .answered (.error error) -> error = .timeout

namespace Stream

variable {data : List (Packet T R M)} {node : Node k} {state next : State k T R M}

/-- A move of one instance that leaves the stream and the flag alone. -/
theorem move (stream : Stream data state) {i : Fin k} {after : Point T R M}
    (leaves : forall packet, state.point i = .answered (.ok packet) -> packet.isEos = false)
    (enters : forall answer, after = .answered answer -> answer = .error .timeout)
    (ends : after.isOver = true -> state.eos.seen = true)
    (point : next.point = Function.update state.point i after)
    (received : next.received = state.received) (queue : next.queue = state.queue)
    (upstream : next.upstream = state.upstream) (flag : next.eos.seen = state.eos.seen) :
    Stream data next := by
  refine { account := ?_, popped := ?_, seen := ?_, known := ?_, isOver := ?_, timeouts := ?_ }
  · rw [received, queue, upstream]
    exact stream.account
  · intro j packet atAnswer
    rw [point] at atAnswer
    rcases update_cases atAnswer with ⟨_, entered⟩ | ⟨_, before⟩
    · cases enters _ entered
    · rw [received]
      exact stream.popped j packet before
  · rw [flag, received]
    exact stream.seen
  · rw [flag, received, point]
    intro packet member isMarker
    rcases stream.known packet member isMarker with flagged | ⟨j, marker, atAnswer, isEos⟩
    · exact Or.inl flagged
    · refine Or.inr ⟨j, marker, ?_, isEos⟩
      have different : j ≠ i := by
        intro same
        rw [same] at atAnswer
        rw [leaves marker atAnswer] at isEos
        cases isEos
      rw [Function.update_of_ne different]
      exact atAnswer
  · rw [flag, point]
    intro j
    by_cases same : j = i
    · rw [same, Function.update_self]
      exact ends
    · rw [Function.update_of_ne same]
      exact stream.isOver j
  · intro j error atAnswer
    rw [point] at atAnswer
    rcases update_cases atAnswer with ⟨_, entered⟩ | ⟨_, before⟩
    · cases enters _ entered
      rfl
    · exact stream.timeouts j error before

theorem init (k : Nat) (data : List (Packet T R M)) : Stream data (initial k data) :=
  { account := rfl
    popped := fun _ _ impossible => by cases impossible
    seen := fun impossible => by cases impossible
    known := fun _ impossible => by cases impossible
    isOver := fun _ impossible => by cases impossible
    timeouts := fun _ _ impossible => by cases impossible }

private theorem take_filled (stream : Stream data state) {i : Fin k} {packet : Packet T R M}
    {rest : List (Packet T R M)} (atReady : state.point i = .ready)
    (filled : state.queue = packet :: rest) :
    Stream data { state with
      queue := rest
      received := state.received ++ [(i, packet)]
      point := Function.update state.point i (.answered (.ok packet)) } := by
  refine { account := ?_, popped := ?_, seen := ?_, known := ?_, isOver := ?_, timeouts := ?_ }
  · have account := stream.account
    rw [filled] at account
    rw [List.map_append, List.append_assoc]
    exact account
  · intro j other atAnswer
    rw [List.map_append]
    rcases update_cases atAnswer with ⟨rfl, taken⟩ | ⟨_, before⟩
    · cases taken
      exact List.mem_append_right _ (List.mem_singleton_self _)
    · exact List.mem_append_left _ (stream.popped j other before)
  · intro flagged
    rcases stream.seen flagged with ⟨marker, member, isMarker⟩
    refine ⟨marker, ?_, isMarker⟩
    rw [List.map_append]
    exact List.mem_append_left _ member
  · intro marker member isMarker
    rw [List.map_append] at member
    rcases List.mem_append.mp member with before | last
    · rcases stream.known marker before isMarker with flagged | ⟨j, held, atAnswer, isEos⟩
      · exact Or.inl flagged
      · refine Or.inr ⟨j, held, ?_, isEos⟩
        have different : j ≠ i := by
          intro same
          rw [same, atReady] at atAnswer
          cases atAnswer
        simp only [Function.update_of_ne different]
        exact atAnswer
    · rw [List.map_singleton, List.mem_singleton] at last
      subst last
      exact Or.inr ⟨i, marker, Function.update_self _ _ _, isMarker⟩
  · intro j ended
    by_cases same : j = i
    · rw [same] at ended
      simp only [Function.update_self] at ended
      cases ended
    · simp only [Function.update_of_ne same] at ended
      exact stream.isOver j ended
  · intro j error atAnswer
    rcases update_cases atAnswer with ⟨_, impossible⟩ | ⟨_, before⟩
    · cases impossible
    · exact stream.timeouts j error before

private theorem resume_marker (stream : Stream data state) {i : Fin k} {packet : Packet T R M}
    (atAnswer : state.point i = .answered (.ok packet)) (isMarker : packet.isEos = true) :
    Stream data { state with
      eos := { state.eos with seen := true }
      point := Function.update state.point i .ending } := by
  refine
    { account := stream.account, popped := ?_, seen := ?_, known := ?_, isOver := ?_
      timeouts := ?_ }
  · intro j other atOther
    rcases update_cases atOther with ⟨_, impossible⟩ | ⟨_, before⟩
    · cases impossible
    · exact stream.popped j other before
  · intro _
    exact ⟨packet, stream.popped i packet atAnswer, isMarker⟩
  · intro _ _ _
    exact Or.inl rfl
  · intro _ _
    rfl
  · intro j error atOther
    rcases update_cases atOther with ⟨_, impossible⟩ | ⟨_, before⟩
    · cases impossible
    · exact stream.timeouts j error before

theorem step (stream : Stream data state) {label : Label k T R M}
    (stepped : MultiInstance.step node state label = some next) : Stream data next := by
  cases label with
  | push =>
      rcases step_push stepped with ⟨packet, rest, sending, rfl⟩
      refine { stream with account := ?_ }
      have account := stream.account
      rw [sending] at account
      change _ ++ (state.queue ++ [packet] ++ rest) = _
      rw [List.append_assoc, List.singleton_append]
      exact account
  | take i =>
      rcases step_take stepped with ⟨atReady, ⟨_, rfl⟩ | ⟨packet, rest, filled, rfl⟩⟩
      · exact stream.move (fun _ impossible => by rw [atReady] at impossible; cases impossible)
          (fun _ same => by cases same; rfl) (fun impossible => by cases impossible)
          rfl rfl rfl rfl rfl
      · exact take_filled stream atReady filled
  | resume i now =>
      rcases step_resume stepped with
        ⟨packet, atAnswer, isData, rfl⟩ | ⟨packet, atAnswer, isMarker, rfl⟩ |
          ⟨error, atAnswer, rfl⟩
      · refine stream.move (fun other same => ?_) (fun _ impossible => by cases impossible)
          (fun impossible => by cases impossible) rfl rfl rfl rfl rfl
        rw [atAnswer] at same
        cases same
        exact isData
      · exact resume_marker stream atAnswer isMarker
      · refine stream.move (fun other same => ?_) (fun other impossible => ?_) (fun ended => ?_)
          rfl rfl rfl rfl rfl
        · rw [atAnswer] at same
          cases same
        · split at impossible <;> cases impossible
        · cases flagged : state.eos.seen with
          | true => rfl
          | false =>
              rw [flagged] at ended
              cases ended
  | send i port packet =>
      rcases step_send stepped with ⟨_, senders, _, ending, atPoint, rfl⟩
      refine stream.move (fun other same => ?_) (fun other impossible => by cases impossible)
        (fun ended => stream.isOver i ?_) rfl rfl rfl rfl rfl
      · rw [atPoint] at same
        split at same <;> cases same
      · cases ending with
        | true => rw [atPoint]; rfl
        | false => cases ended
  | put i =>
      rcases step_put stepped with
        ⟨edge, packet, after, rfl, ⟨port, rest, ending, atSending, rfl⟩ |
          ⟨rest, atBroadcast, _, rfl⟩⟩
      · exact stream.move (fun other same => by rw [atSending] at same; cases same)
          (fun other impossible => by cases impossible)
          (fun ended => stream.isOver i (by rw [atSending]; exact ended)) rfl rfl rfl rfl rfl
      · exact stream.move (fun other same => by rw [atBroadcast] at same; cases same)
          (fun other impossible => by cases impossible)
          (fun _ => stream.isOver i (by rw [atBroadcast]; rfl)) rfl rfl rfl rfl rfl
  | sent i =>
      rcases step_sent stepped with
        ⟨port, packet, ending, starts, atSending, rfl⟩ | ⟨atBroadcast, rfl⟩
      · refine stream.move (fun other same => by rw [atSending] at same; cases same)
          (fun other impossible => ?_) (fun ended => stream.isOver i ?_) rfl rfl rfl rfl rfl
        · split at impossible <;> cases impossible
        · rw [atSending]
          cases ending with
          | true => rfl
          | false => cases ended
      · exact stream.move (fun other same => by rw [atBroadcast] at same; cases same)
          (fun other impossible => by cases impossible)
          (fun _ => stream.isOver i (by rw [atBroadcast]; rfl)) rfl rfl rfl rfl rfl
  | finish i =>
      rw [step_finish stepped]
      exact { stream with }
  | arrive i =>
      rcases step_arrive stepped with ⟨atEnding, rfl⟩
      refine stream.move (fun other same => by rw [atEnding] at same; cases same)
        (fun other impossible => ?_) (fun _ => stream.isOver i (by rw [atEnding]; rfl))
        rfl rfl rfl rfl rfl
      split at impossible <;> cases impossible
  | drain edge =>
      rw [step_drain stepped]
      exact { stream with }

end Stream

/-! ## The output side: one broadcaster, and only after every other instance -/

def Point.arrivals : Point T R M -> Nat
  | .broadcasting _ | .finished => 1
  | .ready | .answered _ | .sending _ _ _ _ | .ending => 0

/-- An edge that carries data and then exactly one marker. -/
def Closed (log : List (Fin k × Packet T R M)) : Prop :=
  Exists fun body => Exists fun marker => log = body ++ [marker] ∧ marker.2.isEos = true ∧
    forall entry, entry ∈ body -> entry.2.isEos = false

/-- The broadcast counter counts the instances that have arrived; `pending`
are the edges on which the marker is still missing.  The marker is on its way
only while the last instance to arrive walks over its senders. -/
structure Closing (node : Node k) (pending : List String) (state : State k T R M) : Prop where
  instances : state.eos.instances = k
  counted : state.eos.broadcasts = ∑ i, (state.point i).arrivals
  early : state.eos.broadcasts < k -> forall edge, edge ∈ node.edges -> edge ∈ pending
  current : forall i rest, state.point i = .broadcasting rest ->
    rest = pending ∧ state.eos.broadcasts = k
  late : state.eos.broadcasts = k -> (forall i rest, state.point i ≠ .broadcasting rest) ->
    pending = []
  sole : forall i j rest rest', state.point i = .broadcasting rest ->
    state.point j = .broadcasting rest' -> i = j
  nodup : pending.Nodup
  within : forall edge, edge ∈ pending -> edge ∈ node.edges
  targets : forall i port packet rest ending, state.point i = .sending port packet rest ending ->
    packet.isEos = false ∧ port ∈ (node.outputs i).map Prod.fst ∧
      forall edge, edge ∈ rest -> edge ∈ node.edges
  opened : forall edge, edge ∈ pending -> forall entry, entry ∈ state.log edge ->
    entry.2.isEos = false
  closed : forall edge, edge ∈ node.edges -> edge ∉ pending -> Closed (state.log edge)

private theorem arrivals_le_one (point : Point T R M) : point.arrivals <= 1 := by
  cases point <;> simp [Point.arrivals]

namespace Closing

variable {node : Node k} {pending : List String} {state next : State k T R M}

/-- While some instance has not arrived, the counter is below its goal. -/
theorem broadcasts_lt (closing : Closing node pending state) {i : Fin k}
    (working : (state.point i).arrivals = 0) : state.eos.broadcasts < k := by
  have fewer : ∑ j, (state.point j).arrivals < ∑ _j : Fin k, 1 :=
    Finset.sum_lt_sum (fun j _ => arrivals_le_one _)
      ⟨i, Finset.mem_univ i, by rw [working]; exact Nat.one_pos⟩
  rw [closing.counted]
  simpa using fewer

theorem no_broadcaster (closing : Closing node pending state)
    (early : state.eos.broadcasts < k) (i : Fin k) (rest : List String) :
    state.point i ≠ .broadcasting rest := by
  intro atBroadcast
  have full := (closing.current i rest atBroadcast).2
  omega

/-- A move of an instance that has not arrived and does not arrive by it,
which puts at most data on the edges. -/
theorem move (closing : Closing node pending state) {i : Fin k} {after : Point T R M}
    (working : (state.point i).arrivals = 0) (remains : after.arrivals = 0)
    (targets : forall port packet rest ending, after = .sending port packet rest ending ->
      packet.isEos = false ∧ port ∈ (node.outputs i).map Prod.fst ∧
        forall edge, edge ∈ rest -> edge ∈ node.edges)
    (point : next.point = Function.update state.point i after)
    (instances : next.eos.instances = state.eos.instances)
    (broadcasts : next.eos.broadcasts = state.eos.broadcasts)
    (log : forall edge, edge ∈ pending -> forall entry, entry ∈ next.log edge ->
      entry ∈ state.log edge ∨ entry.2.isEos = false) :
    Closing node pending next := by
  have early := closing.broadcasts_lt working
  have noNext : forall j rest, next.point j ≠ .broadcasting rest := by
    intro j rest
    rw [point]
    intro atBroadcast
    rcases update_cases atBroadcast with ⟨_, broadcasting⟩ | ⟨_, before⟩
    · rw [broadcasting] at remains
      cases remains
    · exact closing.no_broadcaster early j rest before
  refine
    { instances := instances.trans closing.instances, counted := ?_
      early := fun _ => closing.early early
      current := fun j rest atBroadcast => absurd atBroadcast (noNext j rest)
      late := fun full _ => by omega
      sole := fun j _ rest _ atBroadcast => absurd atBroadcast (noNext j rest)
      nodup := closing.nodup, within := closing.within, targets := ?_, opened := ?_
      closed := fun edge member missing => absurd (closing.early early edge member) missing }
  · have total := sum_update Point.arrivals state.point i after
    rw [broadcasts, closing.counted, point]
    omega
  · intro j port packet rest ending atSending
    rw [point] at atSending
    rcases update_cases atSending with ⟨rfl, sending⟩ | ⟨_, before⟩
    · exact targets port packet rest ending sending
    · exact closing.targets j port packet rest ending before
  · intro edge member entry placed
    rcases log edge member entry placed with before | isData
    · exact closing.opened edge member entry before
    · exact isData

theorem init (node : Node k) (some_ : 0 < k) (data : List (Packet T R M)) :
    Closing node node.edges (initial k data) where
  instances := rfl
  counted := by simp [initial, EosState.fresh, Point.arrivals]
  early := fun _ _ member => member
  current := fun _ _ impossible => by cases impossible
  late := fun full => by
    change 0 = k at full
    omega
  sole := fun _ _ _ _ impossible => by cases impossible
  nodup := node.distinct
  within := fun _ member => member
  targets := fun _ _ _ _ _ impossible => by cases impossible
  opened := fun _ _ _ impossible => by cases impossible
  closed := fun _ member missing => absurd member missing

/-- An instance that moves on without sending leaves the targets of the others. -/
private theorem targets_of_other (closing : Closing node pending state) {i : Fin k}
    {after : Point T R M}
    (quiet : forall port packet rest ending, after ≠ .sending port packet rest ending) :
    forall j port packet rest ending,
      Function.update state.point i after j = .sending port packet rest ending ->
      packet.isEos = false ∧ port ∈ (node.outputs j).map Prod.fst ∧
        forall edge, edge ∈ rest -> edge ∈ node.edges := by
  intro j port packet rest ending atSending
  rcases update_cases atSending with ⟨_, sending⟩ | ⟨_, before⟩
  · exact absurd sending (quiet port packet rest ending)
  · exact closing.targets j port packet rest ending before

private theorem put_marker (closing : Closing node pending state) {i : Fin k} {edge : String}
    {rest : List String} (atBroadcast : state.point i = .broadcasting (edge :: rest)) :
    Closing node rest { state with
      log := Function.update state.log edge (state.log edge ++ [(i, Packet.eos)])
      point := Function.update state.point i (.broadcasting rest) } := by
  rcases closing.current i _ atBroadcast with ⟨split, full⟩
  have nodup := closing.nodup
  rw [← split] at nodup
  have others : forall j, j ≠ i -> forall left, state.point j ≠ .broadcasting left :=
    fun j different left atOther => different (closing.sole j i left _ atOther atBroadcast)
  have only : forall j left, Function.update state.point i (.broadcasting rest) j =
      .broadcasting left -> j = i ∧ left = rest := by
    intro j left atOther
    rcases update_cases atOther with ⟨same, broadcasting⟩ | ⟨different, before⟩
    · cases broadcasting
      exact ⟨same, rfl⟩
    · exact absurd before (others j different left)
  refine
    { instances := closing.instances, counted := ?_
      early := fun early => by
        change state.eos.broadcasts < k at early
        omega
      current := fun j left atOther => ⟨(only j left atOther).2, full⟩
      late := fun _ none_ => absurd (Function.update_self _ _ _) (none_ i rest)
      sole := fun j l left left' atJ atL => (only j left atJ).1.trans (only l left' atL).1.symm
      nodup := (List.nodup_cons.mp nodup).2
      within := fun other member => closing.within other
        (by rw [← split]; exact List.mem_cons_of_mem _ member)
      targets := ?_, opened := ?_, closed := ?_ }
  · have total := sum_update Point.arrivals state.point i (.broadcasting rest)
    rw [atBroadcast] at total
    change _ + 1 = _ + 1 at total
    change state.eos.broadcasts =
      ∑ j, (Function.update state.point i (.broadcasting rest) j).arrivals
    rw [closing.counted]
    omega
  · exact closing.targets_of_other fun _ _ _ _ impossible => by cases impossible
  · intro other member
    have different : other ≠ edge := by
      intro same
      rw [same] at member
      exact (List.nodup_cons.mp nodup).1 member
    simp only [Function.update_of_ne different]
    exact closing.opened other (by rw [← split]; exact List.mem_cons_of_mem _ member)
  · intro other member missing
    by_cases same : other = edge
    · refine ⟨state.log edge, (i, Packet.eos), ?_, rfl, ?_⟩
      · simp only [same, Function.update_self]
      · exact closing.opened edge (by rw [← split]; exact List.mem_cons_self)
    · simp only [Function.update_of_ne same]
      apply closing.closed other member
      rw [← split]
      intro found
      rcases List.mem_cons.mp found with atHead | inRest
      · exact same atHead
      · exact missing inRest

private theorem end_broadcast (closing : Closing node pending state) {i : Fin k}
    (atBroadcast : state.point i = .broadcasting []) :
    Closing node pending { state with point := Function.update state.point i .finished } := by
  rcases closing.current i _ atBroadcast with ⟨split, full⟩
  have none_ : forall j left, Function.update state.point i .finished j ≠ .broadcasting left := by
    intro j left atOther
    rcases update_cases atOther with ⟨_, impossible⟩ | ⟨different, before⟩
    · cases impossible
    · exact different (closing.sole j i left _ before atBroadcast)
  refine
    { closing with
      counted := ?_
      current := fun j left atOther => absurd atOther (none_ j left)
      late := fun _ _ => split.symm
      sole := fun j _ left _ atOther => absurd atOther (none_ j left)
      targets := ?_ }
  · have total := sum_update Point.arrivals state.point i .finished
    rw [atBroadcast] at total
    change _ + 1 = _ + 1 at total
    change state.eos.broadcasts = ∑ j, (Function.update state.point i .finished j).arrivals
    rw [closing.counted]
    omega
  · exact closing.targets_of_other fun _ _ _ _ impossible => by cases impossible

/-- The last instance to arrive becomes the broadcaster. -/
private theorem arrive (closing : Closing node pending state) {i : Fin k}
    (atEnding : state.point i = .ending) :
    Exists fun pending' => Closing node pending' { state with
      eos := state.eos.arrive.1
      point := Function.update state.point i
        (if state.eos.arrive.2 then .broadcasting ((node.outputs i).flatMap Prod.snd)
        else .finished) } := by
  have early := closing.broadcasts_lt (by rw [atEnding]; rfl)
  have everywhere := closing.early early
  have total := fun after => sum_update Point.arrivals state.point i after
  simp only [atEnding] at total
  by_cases last : state.eos.broadcasts + 1 = k
  · have isLast : state.eos.arrive.2 = true := by
      simp only [EosState.arrive, closing.instances, decide_eq_true_eq]
      exact last
    have only : forall j left, Function.update state.point i
        (.broadcasting ((node.outputs i).flatMap Prod.snd)) j = .broadcasting left ->
        j = i ∧ left = (node.outputs i).flatMap Prod.snd := by
      intro j left atOther
      rcases update_cases atOther with ⟨same, broadcasting⟩ | ⟨_, before⟩
      · cases broadcasting
        exact ⟨same, rfl⟩
      · exact absurd before (closing.no_broadcaster early j left)
    have perm := node.covers i
    refine ⟨(node.outputs i).flatMap Prod.snd, ?_⟩
    rw [isLast, if_pos rfl]
    exact
      { instances := closing.instances
        counted := by
          have count := total (.broadcasting ((node.outputs i).flatMap Prod.snd))
          have before := closing.counted
          simp only [Point.arrivals, EosState.arrive] at count before ⊢
          omega
        early := fun still => by
          change state.eos.broadcasts + 1 < k at still
          omega
        current := fun j left atOther => ⟨(only j left atOther).2, last⟩
        late := fun _ none_ => absurd (Function.update_self _ _ _) (none_ i _)
        sole := fun j l left left' atJ atL =>
          (only j left atJ).1.trans (only l left' atL).1.symm
        nodup := perm.nodup_iff.mpr node.distinct
        within := fun edge member => perm.mem_iff.mp member
        targets := closing.targets_of_other fun _ _ _ _ impossible => by cases impossible
        opened := fun edge member => closing.opened edge (everywhere edge (perm.mem_iff.mp member))
        closed := fun edge member missing => absurd (perm.mem_iff.mpr member) missing }
  · have notLast : state.eos.arrive.2 = false := by
      simp only [EosState.arrive, closing.instances, decide_eq_false_iff_not]
      exact last
    have none_ : forall j left,
        Function.update state.point i .finished j ≠ .broadcasting left := by
      intro j left atOther
      rcases update_cases atOther with ⟨_, impossible⟩ | ⟨_, before⟩
      · cases impossible
      · exact closing.no_broadcaster early j left before
    refine ⟨pending, ?_⟩
    rw [notLast, if_neg (by decide)]
    exact
      { instances := closing.instances
        counted := by
          have count := total .finished
          have before := closing.counted
          simp only [Point.arrivals, EosState.arrive] at count before ⊢
          omega
        early := fun _ => everywhere
        current := fun j left atOther => absurd atOther (none_ j left)
        late := fun full _ => by
          change state.eos.broadcasts + 1 = k at full
          omega
        sole := fun j _ left _ atOther => absurd atOther (none_ j left)
        nodup := closing.nodup, within := closing.within
        targets := closing.targets_of_other fun _ _ _ _ impossible => by cases impossible
        opened := closing.opened, closed := closing.closed }

/-- The senders of a port are among the edges of the node. -/
private theorem lookup_mem_edges {i : Fin k} {port : String} {senders : List String}
    (found : (node.outputs i).lookup port = some senders) :
    port ∈ (node.outputs i).map Prod.fst ∧
      forall edge, edge ∈ senders -> edge ∈ node.edges := by
  rcases List.lookup_eq_some_iff.mp found with ⟨before, after, split, _⟩
  have entry : (port, senders) ∈ node.outputs i := by
    rw [split]
    exact List.mem_append_right _ List.mem_cons_self
  refine ⟨List.mem_map.mpr ⟨_, entry, rfl⟩, ?_⟩
  intro edge member
  exact (node.covers i).mem_iff.mp (List.mem_flatMap.mpr ⟨(port, senders), entry, member⟩)

theorem step (closing : Closing node pending state) {label : Label k T R M}
    (stepped : MultiInstance.step node state label = some next) :
    Exists fun pending' => Closing node pending' next := by
  have keeps : forall edge, edge ∈ pending -> forall entry, entry ∈ state.log edge ->
      entry ∈ state.log edge ∨ entry.2.isEos = false := fun _ _ _ before => Or.inl before
  cases label with
  | push =>
      rcases step_push stepped with ⟨packet, rest, _, rfl⟩
      exact ⟨pending, { closing with }⟩
  | take i =>
      rcases step_take stepped with ⟨atReady, ⟨_, rfl⟩ | ⟨packet, rest, _, rfl⟩⟩
      · exact ⟨pending, closing.move (by rw [atReady]; rfl) rfl
          (fun _ _ _ _ impossible => by cases impossible) rfl rfl rfl keeps⟩
      · exact ⟨pending, closing.move (by rw [atReady]; rfl) rfl
          (fun _ _ _ _ impossible => by cases impossible) rfl rfl rfl keeps⟩
  | resume i now =>
      rcases step_resume stepped with
        ⟨packet, atAnswer, _, rfl⟩ | ⟨packet, atAnswer, _, rfl⟩ | ⟨error, atAnswer, rfl⟩
      · exact ⟨pending, closing.move (by rw [atAnswer]; rfl) rfl
          (fun _ _ _ _ impossible => by cases impossible) rfl rfl rfl keeps⟩
      · exact ⟨pending, closing.move (by rw [atAnswer]; rfl) rfl
          (fun _ _ _ _ impossible => by cases impossible) rfl rfl rfl keeps⟩
      · refine ⟨pending, closing.move (by rw [atAnswer]; rfl) ?_
          (fun _ _ _ _ impossible => ?_) rfl rfl rfl keeps⟩
        · split <;> rfl
        · split at impossible <;> cases impossible
  | send i port packet =>
      rcases step_send stepped with ⟨isData, senders, found, ending, atPoint, rfl⟩
      refine ⟨pending, closing.move ?_ rfl (fun _ _ _ _ same => ?_) rfl rfl rfl keeps⟩
      · rw [atPoint]
        split <;> rfl
      · cases same
        exact ⟨isData, lookup_mem_edges found⟩
  | put i =>
      rcases step_put stepped with
        ⟨edge, packet, after, rfl, ⟨port, rest, ending, atSending, rfl⟩ |
          ⟨rest, atBroadcast, rfl, rfl⟩⟩
      · have target := closing.targets i port packet _ ending atSending
        refine ⟨pending, closing.move (by rw [atSending]; rfl) rfl (fun _ _ _ _ same => ?_)
          rfl rfl rfl ?_⟩
        · cases same
          exact ⟨target.1, target.2.1,
            fun other member => target.2.2 other (List.mem_cons_of_mem _ member)⟩
        · intro other _ entry placed
          by_cases same : other = edge
          · rw [same] at placed ⊢
            simp only [Function.update_self] at placed
            rcases List.mem_append.mp placed with before | last
            · exact Or.inl before
            · rw [List.mem_singleton.mp last]
              exact Or.inr target.1
          · simp only [Function.update_of_ne same] at placed
            exact Or.inl placed
      · exact ⟨rest, put_marker closing atBroadcast⟩
  | sent i =>
      rcases step_sent stepped with
        ⟨port, packet, ending, starts, atSending, rfl⟩ | ⟨atBroadcast, rfl⟩
      · refine ⟨pending, closing.move (by rw [atSending]; rfl) ?_
          (fun _ _ _ _ impossible => ?_) rfl rfl rfl keeps⟩
        · split <;> rfl
        · split at impossible <;> cases impossible
      · exact ⟨pending, end_broadcast closing atBroadcast⟩
  | finish i =>
      rw [step_finish stepped]
      exact ⟨pending, { closing with }⟩
  | arrive i =>
      rcases step_arrive stepped with ⟨atEnding, rfl⟩
      exact arrive closing atEnding
  | drain edge =>
      rw [step_drain stepped]
      exact ⟨pending, { closing with }⟩

end Closing

/-! ## Every run can be completed -/

/-- No instance holds a data packet whose start does not fit its queue. -/
def Fits (node : Node k) (state : State k T R M) : Prop :=
  forall i packet, state.point i = .answered (.ok packet) -> packet.isEos = false ->
    (state.starts i).length < max node.queueCapacity 1

/-- An upper bound on the steps an instance still has to make by itself. -/
def Point.weight (edges : Nat) : Point T R M -> Nat
  | .finished => 0
  | .broadcasting rest => 1 + rest.length
  | .ending => 2 + edges
  | .ready => 3 + edges
  | .sending _ _ rest marked => rest.length + 1 + (if marked then 2 + edges else 3 + edges)
  | .answered _ => 5 + edges

def potential (node : Node k) (state : State k T R M) : Nat :=
  ∑ i, (state.point i).weight node.edges.length + ∑ i, (state.starts i).length +
    3 * state.queue.length + 4 * state.upstream.length

section Progress

variable {node : Node k} {data : List (Packet T R M)} {pending : List String}
  {state next : State k T R M}

/-- A move of one instance to a point outside `recv` keeps the start queues
of the others in bounds. -/
private theorem Fits.move (fits : Fits node state) {i : Fin k} {after : Point T R M}
    {starts : List Nat} (outside : forall packet, after ≠ .answered (.ok packet))
    (point : next.point = Function.update state.point i after)
    (queues : next.starts = Function.update state.starts i starts) : Fits node next := by
  intro j packet atAnswer isData
  rw [point] at atAnswer
  rw [queues]
  rcases update_cases atAnswer with ⟨_, answered⟩ | ⟨different, before⟩
  · exact absurd answered (outside packet)
  · rw [Function.update_of_ne different]
    exact fits j packet before isData

/-- A move of one instance that leaves the input alone lowers the potential
when it lowers the weight of the instance and its start queue together. -/
private theorem potential_lt {i : Fin k} {after : Point T R M} {starts : List Nat}
    (point : next.point = Function.update state.point i after)
    (queues : next.starts = Function.update state.starts i starts)
    (queue : next.queue = state.queue) (upstream : next.upstream = state.upstream)
    (less : after.weight node.edges.length + starts.length <
      (state.point i).weight node.edges.length + (state.starts i).length) :
    potential node next < potential node state := by
  have points := sum_update (Point.weight node.edges.length) state.point i after
  have lengths := sum_update List.length state.starts i starts
  unfold potential
  rw [point, queues, queue, upstream]
  omega

private theorem update_same_starts (state : State k T R M) (i : Fin k) :
    state.starts = Function.update state.starts i (state.starts i) :=
  (Function.update_eq_self _ _).symm

private theorem resume_enabled (stream : Stream data state) (fits : Fits node state) {i : Fin k}
    {answer : Except RecvTimeoutError (Packet T R M)}
    (atAnswer : state.point i = .answered answer) :
    Exists fun next => step node state (.resume i 0) = some next := by
  have known : node.input ∈ (context node state i).inputs := List.mem_singleton_self _
  simp only [step, atAnswer, resume]
  cases answer with
  | ok packet =>
      cases marker : packet.isEos with
      | true =>
          simp only [(context node state i).recv_eos known marker 0]
          exact ⟨_, rfl⟩
      | false =>
          have room : (context node state i).packetStarts.length <
              (context node state i).maxPacketStarts := fits i packet atAnswer marker
          simp only [(context node state i).recv_data known marker 0, room, if_true]
          exact ⟨_, rfl⟩
  | error error =>
      rw [stream.timeouts i error atAnswer]
      simp only [(context node state i).recv_timeout known rfl 0]
      exact ⟨_, rfl⟩

/-- The downstream can always empty an edge. -/
private theorem drain_edge (state : State k T R M) (edge : String) :
    Exists fun taken => (machine node).Reachable state { state with taken := taken } ∧
      (state.log edge).length <= taken edge := by
  induction left : (state.log edge).length - state.taken edge generalizing state with
  | zero => exact ⟨state.taken, Machine.Reachable.refl _ _, by omega⟩
  | succ left ih =>
      have stepped : step node state (.drain edge) = some { state with
          taken := Function.update state.taken edge (state.taken edge + 1) } := by
        simp only [step]
        rw [if_pos (by omega)]
      rcases ih { state with taken := Function.update state.taken edge (state.taken edge + 1) }
        (by simp only [Function.update_self]; omega) with ⟨taken, ⟨labels, reached⟩, emptied⟩
      refine ⟨taken, ⟨.drain edge :: labels, ?_⟩, emptied⟩
      exact (machine node).run_cons_iff.mpr ⟨_, stepped, reached⟩

private theorem hasRoom_zero (node : Node k) : hasRoom node 0 = true := by
  unfold hasRoom
  cases bound : node.capacity with
  | none => rfl
  | some limit =>
      have positive : limit ≠ 0 := fun zero => node.room (by rw [bound, zero])
      exact decide_eq_true (Nat.pos_of_ne_zero positive)

/-- Waiting for the downstream, an instance can always place its packet. -/
private theorem place_enabled (state : State k T R M) (i : Fin k) (edge : String)
    (packet : Packet T R M) (after : Point T R M)
    (puts : forall taken, step node { state with taken := taken } (.put i) =
      place node { state with taken := taken } i edge packet after) :
    Exists fun next => (machine node).Reachable state next ∧
      next.point = Function.update state.point i after ∧ next.starts = state.starts ∧
      next.queue = state.queue ∧ next.upstream = state.upstream := by
  rcases drain_edge state edge with ⟨taken, drained, emptied⟩
  have room : hasRoom node ((state.log edge).length - taken edge) = true := by
    rw [Nat.sub_eq_zero_of_le emptied]
    exact hasRoom_zero node
  have stepped : (machine node).step { state with taken := taken } (.put i) =
      some { state with
        taken := taken
        log := Function.update state.log edge (state.log edge ++ [(i, packet)])
        point := Function.update state.point i after } := by
    apply (puts taken).trans
    simp only [place, room, if_true]
  exact ⟨_, Machine.Reachable.step _ drained stepped, rfl, rfl, rfl, rfl⟩

/-- An instance that places a packet lowers the potential with its weight. -/
private theorem place_advances (fits : Fits node state) {i : Fin k} {edge : String}
    {packet : Packet T R M} {after : Point T R M}
    (outside : forall packet, after ≠ .answered (.ok packet))
    (puts : forall taken, step node { state with taken := taken } (.put i) =
      place node { state with taken := taken } i edge packet after)
    (lighter : after.weight node.edges.length < (state.point i).weight node.edges.length) :
    Exists fun next => (machine node).Reachable state next ∧
      potential node next < potential node state ∧ Fits node next := by
  rcases place_enabled state i edge packet after puts with
    ⟨next, reached, point, starts, queue, upstream⟩
  have starts := starts.trans (update_same_starts state i)
  exact ⟨next, reached,
    potential_lt point starts queue upstream (Nat.add_lt_add_right lighter _),
    fits.move outside point starts⟩

/-- An instance that is inside a call can finish that part of it. -/
private theorem advance (stream : Stream data state) (closing : Closing node pending state)
    (fits : Fits node state) {i : Fin k} (notReady : state.point i ≠ .ready)
    (notFinished : state.point i ≠ .finished) :
    Exists fun next => (machine node).Reachable state next ∧
      potential node next < potential node state ∧ Fits node next := by
  have once : forall {label next}, step node state label = some next ->
      (machine node).Reachable state next :=
    fun stepped => Machine.Reachable.step _ (Machine.Reachable.refl _ _) stepped
  cases atPoint : state.point i with
  | ready => exact absurd atPoint notReady
  | finished => exact absurd atPoint notFinished
  | answered answer =>
      rcases resume_enabled stream fits atPoint with ⟨next, stepped⟩
      refine ⟨next, once stepped, ?_⟩
      rcases step_resume stepped with
        ⟨packet, _, _, rfl⟩ | ⟨packet, _, _, rfl⟩ | ⟨error, _, rfl⟩
      · refine ⟨potential_lt rfl rfl rfl rfl ?_,
          fits.move (fun _ impossible => by cases impossible) rfl rfl⟩
        rw [atPoint]
        simp only [Point.weight, List.length_append, List.length_singleton]
        omega
      · refine ⟨potential_lt rfl (update_same_starts state i) rfl rfl ?_,
          fits.move (fun _ impossible => by cases impossible) rfl (update_same_starts state i)⟩
        rw [atPoint]
        simp only [Point.weight]
        omega
      · refine ⟨potential_lt rfl (update_same_starts state i) rfl rfl ?_,
          fits.move (fun _ impossible => ?_) rfl (update_same_starts state i)⟩
        · rw [atPoint]
          split <;> simp only [Point.weight] <;> omega
        · split at impossible <;> cases impossible
  | sending port packet rest marked =>
      have target := closing.targets i port packet rest marked atPoint
      cases rest with
      | cons edge rest =>
          have puts : forall taken, step node { state with taken := taken } (.put i) =
              place node { state with taken := taken } i edge packet
                (.sending port packet rest marked) := by
            intro taken
            simp only [step, atPoint]
          refine place_advances fits (fun _ impossible => by cases impossible) puts ?_
          rw [atPoint]
          simp only [Point.weight, List.length_cons]
          omega
      | nil =>
          have delivered := (context node state i).send_delivered target.2.1
            (List.cons_ne_nil _ _) target.1
          have stepped : step node state (.sent i) = some { state with
              starts := Function.update state.starts i
                (context node state i).completePacket.packetStarts
              point := Function.update state.point i (if marked then .ending else .ready) } := by
            simp only [step, atPoint, delivered]
          refine ⟨_, once stepped, potential_lt rfl rfl rfl rfl ?_,
            fits.move (fun _ impossible => ?_) rfl rfl⟩
          · have shorter : (context node state i).completePacket.packetStarts.length <=
                (state.starts i).length := by
              rw [ElementIo.completePacket_length]
              exact Nat.sub_le _ _
            rw [atPoint]
            cases marked <;> simp only [Point.weight, if_true, Bool.false_eq_true, if_false,
              List.length_nil] <;> omega
          · split at impossible <;> cases impossible
  | ending =>
      have stepped : step node state (.arrive i) = some { state with
          eos := state.eos.arrive.1
          point := Function.update state.point i
            (if state.eos.arrive.2 then .broadcasting ((node.outputs i).flatMap Prod.snd)
            else .finished) } := by
        simp only [step, atPoint]
      refine ⟨_, once stepped, potential_lt rfl (update_same_starts state i) rfl rfl ?_,
        fits.move (fun _ impossible => ?_) rfl (update_same_starts state i)⟩
      · have size := (node.covers i).length_eq
        rw [atPoint]
        split <;> simp only [Point.weight] <;> omega
      · split at impossible <;> cases impossible
  | broadcasting rest =>
      cases rest with
      | cons edge rest =>
          have puts : forall taken, step node { state with taken := taken } (.put i) =
              place node { state with taken := taken } i edge Packet.eos (.broadcasting rest) := by
            intro taken
            simp only [step, atPoint]
          refine place_advances fits (fun _ impossible => by cases impossible) puts ?_
          rw [atPoint]
          simp only [Point.weight, List.length_cons]
          omega
      | nil =>
          have stepped : step node state (.sent i) =
              some { state with point := Function.update state.point i .finished } := by
            simp only [step, atPoint]
          refine ⟨_, once stepped, potential_lt rfl (update_same_starts state i) rfl rfl ?_,
            fits.move (fun _ impossible => by cases impossible) rfl (update_same_starts state i)⟩
          rw [atPoint]
          simp only [Point.weight, List.length_nil]
          omega

/-- An instance between two calls can take its next packet, or learn that
the stream has ended, once no instance is inside a call. -/
private theorem advance_ready (stream : Stream data state) (fits : Fits node state)
    (resting : forall i, state.point i = .ready ∨ state.point i = .finished) {i : Fin k}
    (atReady : state.point i = .ready) :
    Exists fun next => (machine node).Reachable state next ∧
      potential node next < potential node state ∧ Fits node next := by
  have once : forall {label next}, step node state label = some next ->
      (machine node).Reachable state next :=
    fun stepped => Machine.Reachable.step _ (Machine.Reachable.refl _ _) stepped
  cases owed : state.starts i with
  | cons start rest =>
      have stepped : step node state (.finish i) = some { state with
          starts := Function.update state.starts i rest } := by
        simp only [step, atReady, context, ElementIo.completePacket, owed, List.tail_cons]
      have same : state.point = Function.update state.point i .ready := by
        rw [← atReady, Function.update_eq_self]
      refine ⟨_, once stepped, potential_lt same rfl rfl rfl ?_,
        fits.move (fun _ impossible => by cases impossible) same rfl⟩
      rw [atReady, owed, List.length_cons]
      omega
  | nil =>
      cases filled : state.queue with
      | cons packet rest =>
          have stepped : step node state (.take i) = some { state with
              queue := rest
              received := state.received ++ [(i, packet)]
              point := Function.update state.point i (.answered (.ok packet)) } := by
            simp only [step, atReady, filled]
          refine ⟨_, once stepped, ?_, ?_⟩
          · have points := sum_update (Point.weight node.edges.length) state.point i
              (.answered (.ok packet))
            rw [atReady] at points
            change _ + (3 + node.edges.length) = _ + (5 + node.edges.length) at points
            unfold potential
            rw [filled, List.length_cons]
            dsimp only
            omega
          · intro j other atAnswer isData
            by_cases same : j = i
            · rw [same]
              change (state.starts i).length < _
              rw [owed, List.length_nil]
              exact Nat.lt_of_lt_of_le Nat.one_pos (Nat.le_max_right _ _)
            · simp only [Function.update_of_ne same] at atAnswer
              exact fits j other atAnswer isData
      | nil =>
          cases sending : state.upstream with
          | cons packet rest =>
              have stepped : step node state .push = some { state with
                  upstream := rest
                  queue := state.queue ++ [packet] } := by
                have room : hasRoom node state.queue.length = true := by
                  rw [filled]
                  exact hasRoom_zero node
                simp only [step, sending, room, if_true]
              refine ⟨_, once stepped, ?_, fits⟩
              unfold potential
              simp only [sending, List.length_append, List.length_cons, List.length_nil]
              omega
          | nil =>
              have account := stream.account
              rw [filled, sending, List.append_nil, List.append_nil] at account
              have flagged : state.eos.seen = true := by
                rcases stream.known Packet.eos
                  (by rw [account]; exact List.mem_append_right _ (List.mem_singleton_self _)) rfl
                  with flagged | ⟨j, marker, atAnswer, _⟩
                · exact flagged
                · rcases resting j with atReady | atFinished
                  · rw [atReady] at atAnswer
                    cases atAnswer
                  · rw [atFinished] at atAnswer
                    cases atAnswer
              let waited : State k T R M := { state with
                point := Function.update state.point i (.answered (.error .timeout)) }
              have took : step node state (.take i) = some waited := by
                simp only [step, atReady]
                split
                · rfl
                · rename_i packet rest impossible
                  rw [filled] at impossible
                  cases impossible
              have atTimeout : waited.point i = .answered (.error .timeout) :=
                Function.update_self _ _ _
              have fitsWaited : Fits node waited :=
                fits.move (fun _ impossible => by cases impossible) rfl (update_same_starts state i)
              rcases resume_enabled (stream.step took) fitsWaited atTimeout with ⟨next, stepped⟩
              have both : (machine node).Reachable state next := by
                refine ⟨[.take i, .resume i 0], ?_⟩
                exact (machine node).run_cons_iff.mpr ⟨waited, took,
                  (machine node).run_cons_iff.mpr ⟨next, stepped, rfl⟩⟩
              refine ⟨next, both, ?_⟩
              rcases step_resume stepped with
                ⟨packet, impossible, _⟩ | ⟨packet, impossible, _⟩ | ⟨error, _, rfl⟩
              · rw [atTimeout] at impossible
                cases impossible
              · rw [atTimeout] at impossible
                cases impossible
              · have collapsed : Function.update waited.point i
                    (if waited.eos.seen then Point.ending else .ready) =
                    Function.update state.point i .ending := by
                  change Function.update (Function.update state.point i _) i
                    (if state.eos.seen then Point.ending else .ready) = _
                  rw [Function.update_idem, flagged, if_pos rfl]
                refine ⟨potential_lt collapsed (update_same_starts state i) rfl rfl ?_,
                  fits.move (fun _ impossible => by cases impossible) collapsed
                    (update_same_starts state i)⟩
                rw [atReady]
                simp only [Point.weight]
                omega

/-- By induction on the potential: from every state in which no start queue
is overrun, the node can run until every instance has returned. -/
theorem completes (stream : Stream data state)
    (closing : Exists fun pending => Closing node pending state) (fits : Fits node state) :
    Exists fun final => (machine node).Reachable state final ∧
      forall i, final.point i = .finished := by
  induction size : potential node state using Nat.strong_induction_on generalizing state with
  | _ size ih =>
      rcases closing with ⟨pending, closing⟩
      have goesOn : (Exists fun next => (machine node).Reachable state next ∧
          potential node next < potential node state ∧ Fits node next) ->
          Exists fun final => (machine node).Reachable state final ∧
            forall i, final.point i = .finished := by
        rintro ⟨next, ⟨labels, reached⟩, smaller, fitsNext⟩
        have streamNext := (machine node).run_invariant (Stream data)
          (fun _ _ _ holds stepped => holds.step stepped) stream ⟨labels, reached⟩
        have closingNext := (machine node).run_invariant
          (fun state => Exists fun pending => Closing node pending state)
          (fun _ _ _ holds stepped => by
            rcases holds with ⟨pending, holds⟩
            exact holds.step stepped) ⟨pending, closing⟩ ⟨labels, reached⟩
        rcases ih _ (by omega) streamNext closingNext fitsNext rfl with ⟨final, later, done⟩
        rcases later with ⟨more, reachedFinal⟩
        exact ⟨final, ⟨labels ++ more, ((machine node).run_append reached).trans reachedFinal⟩,
          done⟩
      by_cases done : forall i, state.point i = .finished
      · exact ⟨state, Machine.Reachable.refl _ _, done⟩
      · by_cases resting : forall i, state.point i = .ready ∨ state.point i = .finished
        · simp only [not_forall] at done
          rcases done with ⟨i, unfinished⟩
          exact goesOn
            (advance_ready stream fits resting ((resting i).resolve_right unfinished))
        · simp only [not_forall, not_or] at resting
          rcases resting with ⟨i, notReady, notFinished⟩
          exact goesOn (advance stream closing fits notReady notFinished)

end Progress

/-! ## The protocol -/

private theorem received_all {data : List (Packet T R M)} {state : State k T R M}
    (allData : AllData data) (stream : Stream data state) {i : Fin k}
    (ended : (state.point i).isOver = true) :
    state.received.map Prod.snd = data ++ [Packet.eos] := by
  rcases stream.seen (stream.isOver i ended) with ⟨marker, member, isMarker⟩
  have front : state.received.map Prod.snd <+: data ++ [Packet.eos] := by
    rw [← stream.account]
    exact List.prefix_append _ _
  rcases List.prefix_concat_iff.mp front with whole | within
  · exact whole
  · have isData := allData marker (within.subset member)
    rw [isMarker] at isData
    cases isData

/-- In every state of every interleaving the instances have taken the packets
of the stream once each and in order, and on every edge the marker comes at
most once and after all data.  When every instance has returned, the whole
stream has been taken and every edge has its marker.  Unless an instance has
overrun its start queue, the node can always come to that end. -/
theorem multiInstance_marker_once_last (node : Node k) (some_ : 0 < k)
    {data : List (Packet T R M)} (allData : AllData data) {state : State k T R M}
    (reachable : (machine node).Reachable (initial k data) state) :
    state.received.map Prod.snd <+: data ++ [Packet.eos] ∧
    (forall edge, edge ∈ node.edges ->
      (forall entry, entry ∈ state.log edge -> entry.2.isEos = false) ∨
        Closed (state.log edge)) ∧
    ((forall i, state.point i = .finished) ->
      state.received.map Prod.snd = data ++ [Packet.eos] ∧
        forall edge, edge ∈ node.edges -> Closed (state.log edge)) ∧
    (Fits node state -> Exists fun final => (machine node).Reachable state final ∧
      forall i, final.point i = .finished) := by
  have stream : Stream data state := (machine node).run_invariant (Stream data)
    (fun _ _ _ holds stepped => holds.step stepped) (Stream.init k data) reachable
  have closing : Exists fun pending => Closing node pending state :=
    (machine node).run_invariant (fun state => Exists fun pending => Closing node pending state)
      (fun _ _ _ holds stepped => by
        rcases holds with ⟨pending, holds⟩
        exact holds.step stepped)
      ⟨node.edges, Closing.init node some_ data⟩ reachable
  rcases closing with ⟨pending, closing⟩
  refine ⟨?_, ?_, ?_, completes stream ⟨pending, closing⟩⟩
  · rw [← stream.account]
    exact List.prefix_append _ _
  · intro edge member
    by_cases waits : edge ∈ pending
    · exact Or.inl (closing.opened edge waits)
    · exact Or.inr (closing.closed edge member waits)
  · intro done
    have isOver : (state.point ⟨0, some_⟩).isOver = true := by
      rw [done]
      rfl
    refine ⟨received_all allData stream isOver, ?_⟩
    have full : state.eos.broadcasts = k := by
      rw [closing.counted]
      simp [done, Point.arrivals]
    have none_ : pending = [] := closing.late full fun i rest atBroadcast => by
      rw [done i] at atBroadcast
      cases atBroadcast
    intro edge member
    exact closing.closed edge member (by rw [none_]; exact List.not_mem_nil)

private theorem twoEdges_distinct : ["a", "b"].Nodup := by
  decide

/-- Two instances, one port with two edges: the second instance learns of the
end from the flag, and the first to return leaves the broadcast to the other. -/
def twoInstances : Node 2 where
  name := "threaded"
  input := "in"
  outputs := fun _ => [("out", ["a", "b"])]
  edges := ["a", "b"]
  queueCapacity := 1
  capacity := some 1
  distinct := twoEdges_distinct
  covers := fun _ => List.Perm.refl _
  room := fun impossible => by cases impossible

def twoInstancesSchedule : List (Label 2 Nat Unit Unit) :=
  [.push, .take 0, .take 1, .resume 0 1, .push, .resume 1 2, .send 0 "out" (Packet.tensor 7),
    .take 1, .put 0, .resume 1 3, .put 0, .sent 0, .arrive 1, .take 0, .resume 0 4, .arrive 0,
    .drain "a", .put 0, .drain "b", .put 0, .sent 0]

theorem twoInstances_complete :
    Exists fun final =>
      (machine twoInstances).run (initial 2 [Packet.tensor 7]) twoInstancesSchedule =
          some final ∧
        final.received.map Prod.snd = [Packet.tensor 7, Packet.eos] ∧
        Closed (final.log "a") ∧ Closed (final.log "b") := by
  have ends : ((machine twoInstances).run (initial 2 [Packet.tensor 7])
      twoInstancesSchedule).map (fun state => decide (forall i, state.point i = .finished)) =
        some true := by
    decide +kernel
  rcases Option.map_eq_some_iff.mp ends with ⟨final, reached, done⟩
  have result := (multiInstance_marker_once_last twoInstances (by decide)
    (fun packet member => by rw [List.mem_singleton.mp member]; rfl) ⟨_, reached⟩).2.2.1
    (of_decide_eq_true done)
  exact ⟨final, reached, result.1, result.2 "a" (by decide), result.2 "b" (by decide)⟩

end MultiInstance
end Graph
end DyunGu
