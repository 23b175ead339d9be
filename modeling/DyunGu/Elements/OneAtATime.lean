import DyunGu.Graph.Element

namespace DyunGu
namespace Elements

open DyunGu.Graph

variable {T R M : Type}

/-!
# Elements that handle one packet at a time

Most elements share one loop: receive a packet, return on the end marker,
handle the packet, repeat.  The loop is written once below with the handling
of a single data packet as a parameter; the filter, the HTTP push element and
the model post-processing elements supply their own.

`recv` queues a start time for every data packet, and only a delivered send
or an explicit `finish_packet` or `drop_packet` takes one out again.  The
three elements do none of these for a packet they discard, so their discarded
packets stay queued for the rest of the run.  The main result says exactly
how many discarded packets a run survives.
-/

/-- What an input pipe answers over time: a packet, or nothing before the
receive timed out, together with the time at which it answered. -/
abbrev Answers (T R M : Type) :=
  List (Option (Packet T R M) × Nat)

/-- The answer of the pipe as `recv` sees it. -/
def pipeAnswer : Option (Packet T R M) ->
    Except RecvTimeoutError (Packet T R M)
  | some packet => .ok packet
  | none => .error .timeout

/-- How an element loop stands after the answers it was given. -/
inductive LoopEnd where
  | running
  | ended
  | failed (error : Error)
deriving DecidableEq, Repr

/-- Handle one data packet, possibly sending, and report its outcome. -/
abbrev Handle (T R M : Type) :=
  ElementIo -> Packet T R M -> ElementIo × Except Error Unit

/-- The shared element loop on its single input port. -/
def oneAtATime (handle : Handle T R M) :
    ElementIo -> Answers T R M -> ElementIo × LoopEnd
  | io, [] => (io, .running)
  | io, (answer, now) :: answers =>
      match io.recv "in" (pipeAnswer answer) now with
      | (io, .error error) => (io, .failed error)
      | (io, .ok none) => oneAtATime handle io answers
      | (io, .ok (some packet)) =>
          if packet.isEos then (io, .ended)
          else
            match handle io packet with
            | (io, .error error) => (io, .failed error)
            | (io, .ok ()) => oneAtATime handle io answers

/-! ## The elements -/

inductive FilterMode where
  | pass
  | drop
deriving DecidableEq, Repr

/-- `Filter`: forward in pass mode, and do nothing at all in drop mode. -/
def filterHandle (mode : FilterMode) (ending : Packet T R M -> SendEnd) :
    Handle T R M :=
  fun io packet =>
    match mode with
    | .pass => io.send "out" packet (ending packet)
    | .drop => (io, .ok ())

/-- `HttpPush`: hand the packet to the installed driver.  A post that
succeeds leaves the element context as it was. -/
def httpPushHandle (redacted : String)
    (driver : Option (Packet T R M -> Except Error Unit)) :
    Handle T R M :=
  fun io packet =>
    match driver with
    | none =>
        (io, .error (.runtime
          ("http_push node " ++ io.name ++ " has no installed driver for " ++ redacted)))
    | some post =>
        match post packet with
        | .error error =>
            (io, .error (.runtime ("http_push node " ++ io.name ++ " failed posting to " ++
              redacted ++ ": " ++ error.toText)))
        | .ok () => (io, .ok ())

/-- The post-processing elements: a frame-local error of the frame function
skips the frame, any other result is sent on or returned. -/
def modelHandle
    (process : Packet T R M -> Except Error (Packet T R M))
    (ending : Packet T R M -> SendEnd) : Handle T R M :=
  fun io packet =>
    match ElementIo.absorbFrameResult (process packet) with
    | .error error => (io, .error error)
    | .ok none => (io, .ok ())
    | .ok (some output) => io.send "out" output (ending output)

/-! ## Healthy handling -/

/-- The context with another start queue; a loop changes nothing else. -/
def withStarts (io : ElementIo) (starts : List Nat) : ElementIo :=
  { io with packetStarts := starts }

@[simp] theorem withStarts_self (io : ElementIo) : withStarts io io.packetStarts = io := rfl

@[simp] theorem withStarts_startPacket (io : ElementIo) (starts : List Nat) (now : Nat) :
    (withStarts io starts).startPacket now = withStarts io (starts ++ [now]) := rfl

@[simp] theorem withStarts_completePacket (io : ElementIo) (starts : List Nat) :
    (withStarts io starts).completePacket = withStarts io starts.tail := rfl

/-- A healthy element handles every data packet without an error: it either
discards the packet, leaving the context alone, or completes it once. -/
def Handles (handle : Handle T R M) (io : ElementIo)
    (dropped : Packet T R M -> Bool) : Prop :=
  forall starts packet, packet.isEos = false ->
    handle (withStarts io starts) packet =
      (if dropped packet then withStarts io starts else (withStarts io starts).completePacket,
        .ok ())

theorem filter_handles (mode : FilterMode) (io : ElementIo) (connected : "out" ∈ io.outputs)
    (inner : io.inputs ≠ []) :
    Handles (filterHandle (T := T) (R := R) (M := M) mode
      (fun _ => .delivered)) io (fun _ => decide (mode = .drop)) := by
  intro starts packet data
  cases mode with
  | pass => exact (withStarts io starts).send_delivered connected inner data
  | drop => rfl

/-- Every packet the HTTP push element posts is a discarded one. -/
theorem httpPush_handles (redacted : String) (io : ElementIo) :
    Handles (httpPushHandle (T := T) (R := R) (M := M)
      redacted (some fun _ => .ok ())) io (fun _ => true) := by
  intro starts packet _data
  rfl

/-- A post-processing element discards exactly the frames whose function
reports a bad frame. -/
theorem model_handles (io : ElementIo) (connected : "out" ∈ io.outputs) (inner : io.inputs ≠ [])
    (process : Packet T R M -> Except Error (Packet T R M))
    (bad : Packet T R M -> Bool)
    (reports : forall packet, packet.isEos = false ->
      if bad packet then Exists fun message => process packet = .error (.badFrame io.name message)
      else Exists fun output => process packet = .ok output ∧ output.isEos = false) :
    Handles (modelHandle process (fun _ => .delivered)) io bad := by
  intro starts packet data
  have report := reports packet data
  cases isBad : bad packet with
  | true =>
      rw [isBad, if_pos rfl] at report
      rcases report with ⟨message, failed⟩
      simp only [modelHandle, failed, ElementIo.absorbFrameResult, if_true]
      rfl
  | false =>
      rw [isBad, if_neg Bool.false_ne_true] at report
      rcases report with ⟨output, produced, outputData⟩
      simp only [modelHandle, produced, ElementIo.absorbFrameResult, Bool.false_eq_true, if_false]
      exact (withStarts io starts).send_delivered connected inner outputData

/-! ## Exactly when the start queue overflows -/

/-- The data packets an element receives: those before the first end marker. -/
def dataBeforeEos : Answers T R M -> List (Packet T R M)
  | [] => []
  | (none, _) :: answers => dataBeforeEos answers
  | (some packet, _) :: answers =>
      if packet.isEos then [] else packet :: dataBeforeEos answers

/-- Whether some packet finds the queue full, given how many packets were
discarded before it.  Forwarded packets leave no trace in the count. -/
def overflows (dropped : Packet T R M -> Bool) (limit : Nat) :
    Nat -> List (Packet T R M) -> Bool
  | _, [] => false
  | pending, packet :: packets =>
      if pending < limit then
        overflows dropped limit (if dropped packet then pending + 1 else pending) packets
      else true

theorem overflows_eq_false_iff (dropped : Packet T R M -> Bool)
    (limit pending : Nat) (room : pending < limit)
    (packets : List (Packet T R M)) :
    overflows dropped limit pending packets = false <->
      pending + packets.dropLast.countP dropped < limit := by
  induction packets generalizing pending with
  | nil => simpa [overflows] using room
  | cons packet packets ih =>
      rw [overflows, if_pos room]
      cases packets with
      | nil => simpa [overflows] using room
      | cons next rest =>
          rw [List.dropLast_cons_cons, List.countP_cons]
          cases isDropped : dropped packet with
          | false =>
              rw [if_neg Bool.false_ne_true, if_neg Bool.false_ne_true]
              exact ih pending room
          | true =>
              rw [if_pos rfl, if_pos rfl]
              by_cases fits : pending + 1 < limit
              · rw [ih (pending + 1) fits]
                omega
              · rw [overflows, if_neg fits]
                constructor
                · intro impossible
                  cases impossible
                · intro bound
                  omega

/-- A context that has not started, stopped or seen an end marker. -/
structure Fresh (io : ElementIo) : Prop where
  input : "in" ∈ io.inputs
  live : io.shouldStop = false
  unseen : io.eos.seen = false

/-- The loop fails exactly when its queue overflows, and only with the error
of the start queue.  The induction carries the current queue; a forwarded
packet adds one start and takes the oldest out again. -/
theorem oneAtATime_result {handle : Handle T R M} {io : ElementIo}
    {dropped : Packet T R M -> Bool}
    (handles : Handles handle io dropped) (fresh : Fresh io)
    (answers : Answers T R M) (starts : List Nat) :
    if overflows dropped io.maxPacketStarts starts.length (dataBeforeEos answers) then
      Exists fun requested => (oneAtATime handle (withStarts io starts) answers).2 =
        .failed (.resourceLimit (io.name ++ "/packet_starts") requested io.maxPacketStarts)
    else
      (oneAtATime handle (withStarts io starts) answers).2 = .running ∨
        (oneAtATime handle (withStarts io starts) answers).2 = .ended := by
  induction answers generalizing starts with
  | nil => exact Or.inl rfl
  | cons entry answers ih =>
      rcases entry with ⟨answer, now⟩
      cases answer with
      | none =>
          have silent : (withStarts io starts).recv "in"
              (pipeAnswer (none : Option (Packet T R M))) now =
              (withStarts io starts, .ok none) := by
            rw [pipeAnswer, (withStarts io starts).recv_timeout fresh.input fresh.live]
            simp only [withStarts, fresh.unseen, Bool.false_eq_true, if_false]
          rw [dataBeforeEos, oneAtATime, silent]
          exact ih starts
      | some packet =>
          cases marker : packet.isEos with
          | true =>
              have ended := ElementIo.recv_eos (withStarts io starts) fresh.input marker now
              simp only [dataBeforeEos, marker, if_true, overflows, Bool.false_eq_true, if_false,
                oneAtATime, pipeAnswer, ended, or_true]
          | false =>
              have received := ElementIo.recv_data (withStarts io starts) fresh.input marker now
              rw [withStarts_startPacket] at received
              simp only [dataBeforeEos, marker, Bool.false_eq_true, if_false, overflows,
                oneAtATime, pipeAnswer, received]
              by_cases room : starts.length < io.maxPacketStarts
              · have accepted : (withStarts io starts).packetStarts.length <
                    (withStarts io starts).maxPacketStarts := room
                simp only [if_pos accepted, if_pos room, marker, Bool.false_eq_true, if_false,
                  handles (starts ++ [now]) packet marker]
                cases isDropped : dropped packet with
                | true =>
                    simpa only [if_true, List.length_append, List.length_singleton] using
                      ih (starts ++ [now])
                | false =>
                    have shorter : (starts ++ [now]).tail.length = starts.length := by simp
                    simpa only [Bool.false_eq_true, if_false, withStarts_completePacket, shorter]
                      using ih (starts ++ [now]).tail
              · have refused : ¬ (withStarts io starts).packetStarts.length <
                    (withStarts io starts).maxPacketStarts := room
                simp only [if_neg refused, if_neg room, if_true]
                exact ⟨_, rfl⟩

/-- A run of a healthy element never hits the bound of the start queue if
and only if fewer than `queue_capacity` of the packets before its last one
are discarded.  Packets that are forwarded do not count. -/
theorem packetStarts_within_bound_iff {handle : Handle T R M} {io : ElementIo}
    {dropped : Packet T R M -> Bool} {queueCapacity : Nat}
    (handles : Handles handle io dropped) (fresh : Fresh io) (empty : io.packetStarts = [])
    (bound : io.maxPacketStarts = max queueCapacity 1) (positive : 1 <= queueCapacity)
    (answers : Answers T R M) :
    (forall requested limit, (oneAtATime handle io answers).2 ≠
        .failed (.resourceLimit (io.name ++ "/packet_starts") requested limit)) <->
      (dataBeforeEos answers).dropLast.countP dropped < queueCapacity := by
  have capacity : io.maxPacketStarts = queueCapacity := by omega
  have result := oneAtATime_result handles fresh answers []
  have start : withStarts io [] = io := by rw [← empty, withStarts_self]
  rw [start, List.length_nil, capacity] at result
  have condition := overflows_eq_false_iff dropped queueCapacity 0 positive (dataBeforeEos answers)
  rw [Nat.zero_add] at condition
  rw [← condition]
  cases overflow : overflows dropped queueCapacity 0 (dataBeforeEos answers) with
  | true =>
      rw [overflow, if_pos rfl] at result
      rcases result with ⟨requested, failed⟩
      constructor
      · intro never
        exact absurd failed (never requested queueCapacity)
      · intro impossible
        cases impossible
  | false =>
      rw [overflow, if_neg Bool.false_ne_true] at result
      constructor
      · intro _
        rfl
      · intro _ requested limit failed
        rcases result with running | ended
        · rw [running] at failed
          cases failed
        · rw [ended] at failed
          cases failed

/-- Two packets through a dropping filter with room for two starts. -/
theorem filter_drop_two_within_bound :
    (ElementIo.built "filter" ["in"] ["out"] 1 2).maxPacketStarts = 2 ∧
      forall requested limit,
        (oneAtATime (filterHandle .drop fun _ => .delivered)
          (ElementIo.built "filter" ["in"] ["out"] 1 2)
          [(some (Packet.tensor 0 : Packet Nat Unit Unit), 10), (some (Packet.tensor 1), 20)]).2 ≠
        .failed (.resourceLimit "filter/packet_starts" requested limit) :=
  ⟨rfl, (packetStarts_within_bound_iff
    (filter_handles .drop (ElementIo.built "filter" ["in"] ["out"] 1 2) (by decide) (by decide))
    ⟨by decide, rfl, rfl⟩ rfl rfl (by decide) _).mpr (by decide)⟩

/-- With `queue_capacity = 1` the second discarded packet kills the filter. -/
theorem filter_drop_exceeds_bound :
    (oneAtATime (filterHandle .drop fun _ => .delivered)
      (ElementIo.built "filter" ["in"] ["out"] 1 1)
      [(some (Packet.tensor 0 : Packet Nat Unit Unit), 10), (some (Packet.tensor 1), 20)]).2 =
    .failed (.resourceLimit "filter/packet_starts" 2 1) := by
  decide

end Elements
end DyunGu
