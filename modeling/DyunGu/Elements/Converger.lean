import DyunGu.Lib.Machine
import DyunGu.Graph.Element
import Mathlib.Algebra.Order.BigOperators.Group.List
import Mathlib.Algebra.Order.Ring.Nat
import Mathlib.Data.List.Nodup
import Mathlib.Logic.Function.Basic

namespace DyunGu
namespace Elements
namespace Converger

open DyunGu.Graph

variable {T R M : Type}

/-!
# The converger

The converger merges its input ports into one output.  It works in passes:
each pass polls every port that has not finished, forwards a data packet at
once, and marks a port finished when `recv` answers with an end marker.  When
every port is finished it broadcasts its own end marker.

`recv` answers with an end marker in two cases: the marker really arrived on
the polled port, or the poll timed out while the *node* has seen a marker on
any port.  The second case confuses a slow port with a finished one.  The
model keeps the upstream of every port explicit, so the packets that such a
port still had to deliver are not forgotten by the state, and the main result
says exactly which polls lose data.
-/

/-- Where the run loop stands: which ports the current pass has still to
poll and whether it received anything, or which packet it is sending. -/
inductive Phase (T R M : Type) where
  | poll (ports : List String) (received : Bool)
  | send (port : String) (packet : Packet T R M) (ports : List String)
  | broadcast
  | returned (result : Except Error Unit)

/-- One converger with the pipes of its ports.  `out` records each forwarded
packet with the port it came from, and `eosSent` the converger's own marker. -/
structure State (T R M : Type) where
  io : ElementIo
  capacity : Option Nat
  upstream : String -> List (Packet T R M)
  queue : String -> List (Packet T R M)
  finished : String -> Bool
  phase : Phase T R M
  out : List (String × Packet T R M)
  eosSent : Bool

/-- The next pass over the unfinished ports, or the exit of the loop. -/
def startPass (ports : List String) (finished : String -> Bool) : Phase T R M :=
  match ports.filter (fun port => !finished port) with
  | [] => .broadcast
  | port :: rest => .poll (port :: rest) false

/-- The moves of the upstream senders and of the converger. -/
inductive Label where
  | push (port : String)
  | poll (now : Nat)
  | deliver
  | turn
  | broadcast
deriving DecidableEq, Repr

def hasRoom (capacity : Option Nat) (queue : List (Packet T R M)) : Bool :=
  match capacity with
  | none => true
  | some bound => decide (queue.length < bound)

/-- What the loop body does with the answer of `recv` on one port. -/
def afterRecv (state : State T R M) (port : String) (ports : List String) (received : Bool) :
    ElementIo × Except Error (Option (Packet T R M)) -> State T R M
  | (io, .error error) => { state with io := io, phase := .returned (.error error) }
  | (io, .ok none) => { state with io := io, phase := .poll ports received }
  | (io, .ok (some packet)) =>
      if packet.isEos then
        { state with
          io := io
          finished := Function.update state.finished port true
          phase := .poll ports true }
      else { state with io := io, phase := .send port packet ports }

/-- Poll one port: the pipe answers with its oldest packet, and the receive
times out only when the pipe is empty. -/
def pollPort (state : State T R M) (port : String) (ports : List String) (received : Bool)
    (now : Nat) : State T R M :=
  match state.queue port with
  | packet :: rest =>
      afterRecv { state with queue := Function.update state.queue port rest } port ports received
        (state.io.recv port (.ok packet) now)
  | [] => afterRecv state port ports received (state.io.recv port (.error .timeout) now)

def step (state : State T R M) : Label -> Option (State T R M)
  | .push port =>
      match state.upstream port with
      | [] => none
      | packet :: rest =>
          if hasRoom state.capacity (state.queue port) then
            some { state with
              upstream := Function.update state.upstream port rest
              queue := Function.update state.queue port (state.queue port ++ [packet]) }
          else none
  | .poll now =>
      match state.phase with
      | .poll (port :: ports) received => some (pollPort state port ports received now)
      | _ => none
  | .deliver =>
      match state.phase with
      | .send port packet ports =>
          match state.io.send "out" packet .delivered with
          | (io, .ok ()) =>
              some { state with
                io := io
                phase := .poll ports true
                out := state.out ++ [(port, packet)] }
          | (io, .error error) => some { state with io := io, phase := .returned (.error error) }
      | _ => none
  | .turn =>
      match state.phase with
      | .poll [] received =>
          if !received && state.io.shouldStop then
            some { state with phase := .returned (.error .notRunning) }
          else some { state with phase := startPass state.io.inputs state.finished }
      | _ => none
  | .broadcast =>
      match state.phase with
      | .broadcast =>
          some { state with
            io := { state.io with eos := state.io.eos.arrive.1 }
            phase := .returned (.ok ())
            eosSent := state.io.eos.arrive.2 }
      | _ => none

def machine : Machine (State T R M) Label where
  step := step

/-- A converger on these ports whose upstreams will send the given data and
then one end marker each. -/
def initial (ports : List String) (data : String -> List (Packet T R M)) (capacity : Option Nat)
    (queueCapacity : Nat) : State T R M where
  io := ElementIo.built "converger" ports ["out"] 1 queueCapacity
  capacity := capacity
  upstream := fun port => data port ++ [Packet.eos]
  queue := fun _ => []
  finished := fun _ => false
  phase :=
    if ports.isEmpty then
      .returned (.error (.config "converger requires at least one input"))
    else startPass ports fun _ => false
  out := []
  eosSent := false

/-! ## The property and the polls that break it -/

/-- The packets forwarded from one port, in output order. -/
def forwarded (state : State T R M) (port : String) : List (Packet T R M) :=
  (state.out.filter fun entry => decide (entry.1 = port)).map Prod.snd

/-- Each port's packets come out in order and at most once, and all of them
before the converger's own end marker. -/
def LosesNothing (ports : List String) (data : String -> List (Packet T R M))
    (state : State T R M) : Prop :=
  (forall port, port ∈ ports -> forwarded state port <+: data port) ∧
    (state.eosSent = true -> forall port, port ∈ ports -> forwarded state port = data port)

/-- A step that does not mistake a slow port for a finished one: a poll
that finds an empty pipe after some port has ended polls a port whose
upstream has no data packet left to send. -/
def Patient (state : State T R M) : Label -> Prop
  | .poll _ =>
      match state.phase with
      | .poll (port :: _) _ => (state.queue port).isEmpty = true -> state.io.eos.seen = true ->
          forall packet, packet ∈ state.upstream port -> packet.isEos = true
      | _ => True
  | _ => True

instance (state : State T R M) (label : Label) : Decidable (Patient state label) := by
  unfold Patient
  split
  · split <;> infer_instance
  · infer_instance

/-! ## The invariant of a run -/

/-- The packet that has been received from a port and not yet sent on. -/
def hand (state : State T R M) (port : String) : List (Packet T R M) :=
  match state.phase with
  | .send sender packet _ => if sender = port then [packet] else []
  | _ => []

/-- The ports that the current pass has still to deal with. -/
def passPorts (state : State T R M) : List String :=
  match state.phase with
  | .poll ports _ => ports
  | .send port _ ports => port :: ports
  | _ => []

/-- What holds of every reachable state.  The account of a port says where
each of its packets is; a finished port either delivered everything or was
given up with its remaining packets still upstream. -/
structure Inv (ports : List String) (data : String -> List (Packet T R M))
    (state : State T R M) : Prop where
  inputs : state.io.inputs = ports
  outputs : state.io.outputs = ["out"]
  live : state.io.shouldStop = false
  bound : 1 <= state.io.maxPacketStarts
  single : state.io.eos.instances = 1
  silent : (forall result, state.phase ≠ .returned result) -> state.io.eos.broadcasts = 0
  healthy : ports ≠ [] -> forall result, state.phase = .returned result ->
    result = .ok () ∧ state.eosSent = true
  idle : (forall port packet rest, state.phase ≠ .send port packet rest) ->
    state.io.packetStarts = []
  busy : forall port packet rest, state.phase = .send port packet rest ->
    packet.isEos = false ∧ state.io.packetStarts.length = 1
  passMem : forall port, port ∈ passPorts state -> port ∈ ports ∧ state.finished port = false
  passNodup : (passPorts state).Nodup
  complete : (state.phase = .broadcast ∨ state.eosSent = true) ->
    forall port, port ∈ ports -> state.finished port = true
  marker : state.eosSent = true -> Exists fun result => state.phase = .returned result
  outData : forall entry, entry ∈ state.out -> entry.2.isEos = false
  account : forall port, port ∈ ports ->
    forwarded state port ++ hand state port ++ (state.queue port ++ state.upstream port) =
        data port ++ [Packet.eos] ∨
      (state.finished port = true ∧ forwarded state port = data port)

/-! ### Reading the phases -/

private theorem passPorts_startPass (state : State T R M) (ports : List String)
    (finished : String -> Bool) (starts : state.phase = startPass ports finished) :
    passPorts state = ports.filter fun port => !finished port := by
  unfold passPorts
  rw [starts, startPass]
  cases ports.filter (fun port => !finished port) <;> rfl

private theorem startPass_ne_send (ports : List String) (finished : String -> Bool)
    (port : String) (packet : Packet T R M) (rest : List String) :
    startPass ports finished ≠ .send port packet rest := by
  unfold startPass
  cases ports.filter (fun port => !finished port) <;> intro impossible <;> cases impossible

private theorem startPass_ne_returned (ports : List String) (finished : String -> Bool)
    (result : Except Error Unit) :
    (startPass ports finished : Phase T R M) ≠ .returned result := by
  unfold startPass
  cases ports.filter (fun port => !finished port) <;> intro impossible <;> cases impossible

private theorem finished_of_startPass_broadcast {ports : List String}
    {finished : String -> Bool}
    (exits : (startPass ports finished : Phase T R M) = .broadcast) :
    forall port, port ∈ ports -> finished port = true := by
  intro port member
  unfold startPass at exits
  cases remaining : ports.filter (fun port => !finished port) with
  | nil =>
      have kept := List.filter_eq_nil_iff.mp remaining port member
      simpa using kept
  | cons head tail =>
      rw [remaining] at exits
      cases exits

private theorem hand_of_not_send {state : State T R M}
    (other : forall port packet rest, state.phase ≠ .send port packet rest) (port : String) :
    hand state port = [] := by
  unfold hand
  cases atPhase : state.phase with
  | send sender packet rest => exact absurd atPhase (other sender packet rest)
  | poll ports received => rfl
  | broadcast => rfl
  | returned result => rfl

/-- The first end marker of a stream that has exactly one at its end stands
right after all of the data. -/
private theorem eq_data_of_marker {front back data : List (Packet T R M)}
    {marker : Packet T R M} (isMarker : marker.isEos = true) (allData : AllData data)
    (split : front ++ marker :: back = data ++ [Packet.eos]) : front = data := by
  induction front generalizing data with
  | nil =>
      cases data with
      | nil => rfl
      | cons head tail =>
          rw [List.nil_append, List.cons_append] at split
          injection split with same _
          have headData := allData head List.mem_cons_self
          rw [← same, isMarker] at headData
          cases headData
  | cons first front ih =>
      cases data with
      | nil =>
          rw [List.cons_append, List.nil_append] at split
          injection split with _ rest
          exact absurd rest (by simp)
      | cons head tail =>
          rw [List.cons_append, List.cons_append] at split
          injection split with same rest
          rw [same, ih (fun packet member => allData packet (List.mem_cons_of_mem _ member)) rest]

/-! ### Each step keeps the invariant -/

variable {ports : List String} {data : String -> List (Packet T R M)} {state : State T R M}

theorem initial_inv (data : String -> List (Packet T R M)) (nodup : ports.Nodup)
    (capacity : Option Nat) (queueCapacity : Nat) :
    Inv ports data (initial ports data capacity queueCapacity) := by
  have noSend : forall port packet rest,
      (initial ports data capacity queueCapacity).phase ≠ .send port packet rest := by
    intro port packet rest
    unfold initial
    dsimp only
    split
    · intro impossible
      cases impossible
    · exact startPass_ne_send ports _ port packet rest
  have pass : forall port, port ∈ passPorts (initial ports data capacity queueCapacity) ->
      port ∈ ports := by
    cases ports with
    | nil => intro port member; cases member
    | cons head tail =>
        intro port member
        rw [passPorts_startPass _ (head :: tail) (fun _ => false) rfl] at member
        exact (List.mem_filter.mp member).1
  refine
    { inputs := rfl, outputs := rfl, live := rfl, bound := Nat.le_max_right _ _
      single := rfl, silent := fun _ => rfl
      healthy := ?_
      idle := fun _ => rfl
      busy := fun port packet rest sending => absurd sending (noSend port packet rest)
      passMem := fun port member => ⟨pass port member, rfl⟩
      passNodup := ?_, complete := ?_
      marker := fun impossible => by cases impossible
      outData := fun entry member => by cases member
      account := fun port _ => Or.inl ?_ }
  · intro nonempty result returned
    cases ports with
    | nil => exact absurd rfl nonempty
    | cons head tail =>
        exact absurd returned (startPass_ne_returned (head :: tail) (fun _ => false) result)
  · cases ports with
    | nil => exact List.nodup_nil
    | cons head tail =>
        rw [passPorts_startPass _ (head :: tail) (fun _ => false) rfl]
        exact nodup.filter _
  · rintro (exits | impossible)
    · cases ports with
      | nil => intro port member; cases member
      | cons head tail => exact finished_of_startPass_broadcast exits
    · cases impossible
  · rw [hand_of_not_send noSend]
    rfl

theorem push_inv (inv : Inv ports data state) {port : String} {next : State T R M}
    (stepped : step state (.push port) = some next) : Inv ports data next := by
  simp only [step] at stepped
  cases sending : state.upstream port with
  | nil =>
      rw [sending] at stepped
      cases stepped
  | cons packet rest =>
      rw [sending] at stepped
      dsimp only at stepped
      split at stepped
      · cases stepped
        refine { inv with account := ?_ }
        intro other member
        have moved : Function.update state.queue port (state.queue port ++ [packet]) other ++
            Function.update state.upstream port rest other =
            state.queue other ++ state.upstream other := by
          by_cases same : other = port
          · subst other
            rw [Function.update_self, Function.update_self, sending, List.append_assoc,
              List.singleton_append]
          · rw [Function.update_of_ne same, Function.update_of_ne same]
        have account := inv.account other member
        rw [← moved] at account
        exact account
      · cases stepped

theorem deliver_inv (inv : Inv ports data state) {next : State T R M}
    (stepped : step state .deliver = some next) :
    Inv ports data next ∧
      (forall port, state.finished port = true -> forwarded next port = forwarded state port) := by
  simp only [step] at stepped
  cases sending : state.phase with
  | poll _ _ | broadcast | returned _ =>
      rw [sending] at stepped
      cases stepped
  | send port packet rest =>
      have busy := inv.busy port packet rest sending
      have pass : passPorts state = port :: rest := by
        unfold passPorts
        rw [sending]
      have source := inv.passMem port (by rw [pass]; exact List.mem_cons_self)
      have inner : state.io.inputs ≠ [] := by
        rw [inv.inputs]
        exact List.ne_nil_of_mem source.1
      have known : "out" ∈ state.io.outputs := by
        rw [inv.outputs]
        exact List.mem_singleton_self _
      have sent := state.io.send_delivered known inner busy.1
      rw [sending] at stepped
      simp only [sent] at stepped
      cases stepped
      have extended : forall other,
          forwarded { state with
              io := state.io.completePacket
              phase := .poll rest true
              out := state.out ++ [(port, packet)] } other =
            forwarded state other ++ hand state other := by
        intro other
        unfold forwarded hand
        rw [sending, List.filter_append, List.map_append]
        by_cases same : port = other
        · simp [same]
        · simp [same]
      constructor
      · refine
          { inputs := inv.inputs, outputs := inv.outputs, live := inv.live, bound := inv.bound
            single := inv.single
            silent := fun _ => inv.silent
              (by rw [sending]; intro _ impossible; cases impossible)
            healthy := fun _ _ impossible => by cases impossible
            idle := fun _ => ?_, busy := fun _ _ _ impossible => by cases impossible
            passMem := ?_, passNodup := ?_, complete := ?_, marker := ?_, outData := ?_
            account := ?_ }
        · have single := busy.2
          exact List.eq_nil_of_length_eq_zero (by simp [single])
        · intro other member
          exact inv.passMem other (by rw [pass]; exact List.mem_cons_of_mem _ member)
        · have nodup := inv.passNodup
          rw [pass] at nodup
          exact (List.nodup_cons.mp nodup).2
        · rintro (impossible | ended)
          · cases impossible
          · exact inv.complete (Or.inr ended)
        · intro ended
          rcases inv.marker ended with ⟨result, returned⟩
          rw [sending] at returned
          cases returned
        · intro entry member
          rcases List.mem_append.mp member with before | last
          · exact inv.outData entry before
          · rw [List.mem_singleton.mp last]
            exact busy.1
        · intro other member
          rw [extended other]
          rcases inv.account other member with open_ | closed
          · apply Or.inl
            change forwarded state other ++ hand state other ++ [] ++
              (state.queue other ++ state.upstream other) = _
            rw [List.append_nil]
            exact open_
          · refine Or.inr ⟨closed.1, ?_⟩
            have different : port ≠ other := by
              intro same
              subst other
              rw [source.2] at closed
              cases closed.1
            unfold hand
            rw [sending]
            simp only [different, if_false, List.append_nil]
            exact closed.2
      · intro other finished
        rw [extended other]
        have different : port ≠ other := by
          intro same
          subst other
          rw [source.2] at finished
          cases finished
        unfold hand
        rw [sending]
        simp only [different, if_false, List.append_nil]

theorem turn_inv (nodup : ports.Nodup) (inv : Inv ports data state) {next : State T R M}
    (stepped : step state .turn = some next) : Inv ports data next := by
  simp only [step] at stepped
  cases polling : state.phase with
  | send _ _ _ | broadcast | returned _ =>
      rw [polling] at stepped
      cases stepped
  | poll remaining received =>
      rw [polling] at stepped
      cases remaining with
      | cons port rest => cases stepped
      | nil =>
          simp only [inv.live, Bool.and_false, Bool.false_eq_true, if_false] at stepped
          cases stepped
          have idle := inv.idle (by rw [polling]; intro _ _ _ impossible; cases impossible)
          refine
            { inv with
              silent := fun _ => inv.silent
                (by rw [polling]; intro _ impossible; cases impossible)
              healthy := fun _ result returned =>
                absurd returned (startPass_ne_returned _ _ result)
              idle := fun _ => idle
              busy := fun port packet rest sending =>
                absurd sending (startPass_ne_send _ _ port packet rest)
              passMem := ?_, passNodup := ?_, complete := ?_, marker := ?_, account := ?_ }
          · intro port member
            rw [passPorts_startPass _ state.io.inputs state.finished rfl] at member
            have parts := List.mem_filter.mp member
            exact ⟨inv.inputs ▸ parts.1, by simpa using parts.2⟩
          · rw [passPorts_startPass _ state.io.inputs state.finished rfl, inv.inputs]
            exact nodup.filter _
          · rintro (exits | ended)
            · rw [← inv.inputs]
              exact finished_of_startPass_broadcast exits
            · exact inv.complete (Or.inr ended)
          · intro ended
            rcases inv.marker ended with ⟨result, returned⟩
            rw [polling] at returned
            cases returned
          · intro port member
            rw [hand_of_not_send (fun _ _ _ => startPass_ne_send _ _ _ _ _)]
            have account := inv.account port member
            rw [hand_of_not_send (by rw [polling]; intro _ _ _ impossible; cases impossible)]
              at account
            exact account

theorem broadcast_inv (inv : Inv ports data state) {next : State T R M}
    (stepped : step state .broadcast = some next) : Inv ports data next := by
  simp only [step] at stepped
  cases leaving : state.phase with
  | send _ _ _ | poll _ _ | returned _ =>
      rw [leaving] at stepped
      cases stepped
  | broadcast =>
      rw [leaving] at stepped
      cases stepped
      have idle := inv.idle (by rw [leaving]; intro _ _ _ impossible; cases impossible)
      have arrives : state.io.eos.arrive.2 = true := by
        have silent := inv.silent (by rw [leaving]; intro _ impossible; cases impossible)
        unfold EosState.arrive
        rw [silent, inv.single]
        rfl
      refine
        { inv with
          silent := fun impossible => absurd rfl (impossible _)
          healthy := fun _ result returned => by cases returned; exact ⟨rfl, arrives⟩
          idle := fun _ => idle
          busy := fun _ _ _ impossible => by cases impossible
          passMem := fun _ member => by cases member
          passNodup := List.nodup_nil
          complete := fun _ => inv.complete (Or.inl leaving)
          marker := fun _ => ⟨_, rfl⟩
          account := ?_ }
      intro port member
      have account := inv.account port member
      rw [hand_of_not_send (by rw [leaving]; intro _ _ _ impossible; cases impossible)] at account
      exact account

private theorem passPorts_of_poll {remaining : List String} {received : Bool}
    (polling : state.phase = .poll remaining received) : passPorts state = remaining := by
  unfold passPorts
  rw [polling]

/-- The marker is sent by the broadcast, after the last poll. -/
private theorem eosSent_of_poll (inv : Inv ports data state) {remaining : List String}
    {received : Bool} (polling : state.phase = .poll remaining received) :
    state.eosSent = false := by
  cases ended : state.eosSent with
  | false => rfl
  | true =>
      rcases inv.marker ended with ⟨result, returned⟩
      rw [polling] at returned
      cases returned

private theorem hand_of_poll {remaining : List String} {received : Bool}
    (polling : state.phase = .poll remaining received) (port : String) : hand state port = [] :=
  hand_of_not_send (by rw [polling]; intro _ _ _ impossible; cases impossible) port

/-- Only a pass that has ports left is polled. -/
private theorem polling_of_step {now : Nat} {next : State T R M}
    (stepped : step state (.poll now) = some next) :
    Exists fun port => Exists fun rest => Exists fun received =>
      state.phase = .poll (port :: rest) received := by
  cases polling : state.phase with
  | send _ _ _ | broadcast | returned _ =>
      simp only [step, polling] at stepped
      cases stepped
  | poll remaining received =>
      cases remaining with
      | nil =>
          simp only [step, polling] at stepped
          cases stepped
      | cons port rest => exact ⟨port, rest, received, rfl⟩

/-- Of a port in the current pass nothing is lost and its marker is ahead. -/
private theorem pending_of_poll (inv : Inv ports data state) {port : String} {rest : List String}
    {received : Bool} (polling : state.phase = .poll (port :: rest) received) :
    port ∈ ports ∧ forwarded state port ++ (state.queue port ++ state.upstream port) =
      data port ++ [Packet.eos] := by
  have source := inv.passMem port (by rw [passPorts_of_poll polling]; exact List.mem_cons_self)
  refine ⟨source.1, ?_⟩
  rcases inv.account port source.1 with open_ | closed
  · rw [hand_of_poll polling, List.append_nil] at open_
    exact open_
  · rw [source.2] at closed
    cases closed.1

/-- What one poll does, by what the port's pipe held. -/
theorem poll_cases (inv : Inv ports data state) {port : String} {rest : List String}
    {received : Bool} {now : Nat} {next : State T R M}
    (polling : state.phase = .poll (port :: rest) received)
    (stepped : step state (.poll now) = some next) :
    (Exists fun packet => Exists fun tail => state.queue port = packet :: tail ∧
      packet.isEos = false ∧
      next = { state with
        io := state.io.startPacket now
        queue := Function.update state.queue port tail
        phase := .send port packet rest }) ∨
    (Exists fun packet => Exists fun tail => state.queue port = packet :: tail ∧
      packet.isEos = true ∧
      next = { state with
        io := { state.io with eos := { state.io.eos with seen := true } }
        queue := Function.update state.queue port tail
        finished := Function.update state.finished port true
        phase := .poll rest true }) ∨
    (state.queue port = [] ∧ state.io.eos.seen = true ∧
      next = { state with
        finished := Function.update state.finished port true
        phase := .poll rest true }) ∨
    (state.queue port = [] ∧ state.io.eos.seen = false ∧
      next = { state with phase := .poll rest received }) := by
  have idle := inv.idle (by rw [polling]; intro _ _ _ impossible; cases impossible)
  have pass := passPorts_of_poll polling
  have known : port ∈ state.io.inputs := by
    rw [inv.inputs]
    exact (inv.passMem port (by rw [pass]; exact List.mem_cons_self)).1
  simp only [step, polling] at stepped
  cases stepped
  cases found : state.queue port with
  | cons packet tail =>
      cases marker : packet.isEos with
      | false =>
          refine Or.inl ⟨packet, tail, rfl, marker, ?_⟩
          have room : state.io.packetStarts.length < state.io.maxPacketStarts := by
            rw [idle]
            exact inv.bound
          simp only [pollPort, found, state.io.recv_data known marker now, if_pos room, afterRecv,
            marker, Bool.false_eq_true, if_false]
      | true =>
          refine Or.inr (Or.inl ⟨packet, tail, rfl, marker, ?_⟩)
          simp only [pollPort, found, state.io.recv_eos known marker now, afterRecv, marker,
            if_true]
  | nil =>
      refine Or.inr (Or.inr ?_)
      cases seen : state.io.eos.seen with
      | true =>
          refine Or.inl ⟨rfl, rfl, ?_⟩
          simp only [pollPort, found, state.io.recv_timeout known inv.live now, seen, if_true,
            afterRecv, Packet.isEos_eos]
      | false =>
          refine Or.inr ⟨rfl, rfl, ?_⟩
          simp only [pollPort, found, state.io.recv_timeout known inv.live now, seen,
            Bool.false_eq_true, if_false, afterRecv]

/-- The part of the invariant that a poll re-establishes in the same way
whatever the pipe held: the pass goes on with its remaining ports. -/
private theorem inv_of_pollRest (inv : Inv ports data state) {port : String}
    {rest : List String} {received : Bool}
    (polling : state.phase = .poll (port :: rest) received) {next : State T R M} {again : Bool}
    (goesOn : next.phase = .poll rest again) (inputs : next.io.inputs = state.io.inputs)
    (outputs : next.io.outputs = state.io.outputs)
    (live : next.io.shouldStop = state.io.shouldStop)
    (bound : next.io.maxPacketStarts = state.io.maxPacketStarts)
    (single : next.io.eos.instances = state.io.eos.instances)
    (silent : next.io.eos.broadcasts = state.io.eos.broadcasts)
    (starts : next.io.packetStarts = state.io.packetStarts)
    (open_ : forall other, other ≠ port -> next.finished other = state.finished other)
    (out : next.out = state.out) (eosSent : next.eosSent = state.eosSent)
    (account : forall other, other ∈ ports ->
      forwarded state other ++ (next.queue other ++ next.upstream other) =
          data other ++ [Packet.eos] ∨
        (next.finished other = true ∧ forwarded state other = data other)) :
    Inv ports data next := by
  have pass := passPorts_of_poll polling
  have passNext := passPorts_of_poll goesOn
  have nodup := inv.passNodup
  rw [pass] at nodup
  have notSend : forall sender packet tail, next.phase ≠ .send sender packet tail := by
    rw [goesOn]
    intro _ _ _ impossible
    cases impossible
  have notEnded := eosSent_of_poll inv polling
  refine
    { inputs := inputs.trans inv.inputs, outputs := outputs.trans inv.outputs
      live := live.trans inv.live, bound := bound ▸ inv.bound, single := single.trans inv.single
      silent := fun _ => silent.trans
        (inv.silent (by rw [polling]; intro _ impossible; cases impossible))
      healthy := fun _ result returned => by rw [goesOn] at returned; cases returned
      idle := fun _ => starts.trans
        (inv.idle (by rw [polling]; intro _ _ _ impossible; cases impossible))
      busy := fun sender packet tail sending => absurd sending (notSend sender packet tail)
      passMem := ?_, passNodup := ?_, complete := ?_, marker := ?_
      outData := out ▸ inv.outData, account := ?_ }
  · intro other member
    rw [passNext] at member
    have source := inv.passMem other (by rw [pass]; exact List.mem_cons_of_mem _ member)
    have different : other ≠ port := by
      intro same
      subst other
      exact (List.nodup_cons.mp nodup).1 member
    exact ⟨source.1, (open_ other different).trans source.2⟩
  · rw [passNext]
    exact (List.nodup_cons.mp nodup).2
  · rintro (exits | ended)
    · rw [goesOn] at exits
      cases exits
    · rw [eosSent, notEnded] at ended
      cases ended
  · intro ended
    rw [eosSent, notEnded] at ended
    cases ended
  · intro other member
    have same : forwarded next other = forwarded state other := by
      unfold forwarded
      rw [out]
    rw [same, hand_of_not_send notSend, List.append_nil]
    exact account other member

/-- A data packet leaves the pipe of its port and is in the converger's hand. -/
private theorem inv_of_data (inv : Inv ports data state) {port : String}
    {rest : List String} {received : Bool}
    (polling : state.phase = .poll (port :: rest) received) {packet : Packet T R M}
    {tail : List (Packet T R M)} (found : state.queue port = packet :: tail)
    (isData : packet.isEos = false) (now : Nat)
    (pending : forwarded state port ++ (state.queue port ++ state.upstream port) =
      data port ++ [Packet.eos])
    (account : forall other, other ∈ ports ->
      forwarded state other ++ (state.queue other ++ state.upstream other) =
          data other ++ [Packet.eos] ∨
        (state.finished other = true ∧ forwarded state other = data other)) :
    Inv ports data { state with
      io := state.io.startPacket now
      queue := Function.update state.queue port tail
      phase := .send port packet rest } := by
  have pass := passPorts_of_poll polling
  have nodup : (port :: rest).Nodup := pass ▸ inv.passNodup
  have idle := inv.idle (by rw [polling]; intro _ _ _ impossible; cases impossible)
  have notEnded := eosSent_of_poll inv polling
  refine
    { inputs := inv.inputs, outputs := inv.outputs, live := inv.live
      bound := inv.bound, single := inv.single
      silent := fun _ => inv.silent
        (by rw [polling]; intro _ impossible; cases impossible)
      healthy := fun _ _ impossible => by cases impossible
      idle := fun other => absurd rfl (other port packet rest)
      busy := ?_
      passMem := fun other member => inv.passMem other (pass ▸ member)
      passNodup := nodup
      complete := ?_
      marker := fun ended => by rw [notEnded] at ended; cases ended
      outData := inv.outData
      account := ?_ }
  · intro sender sent tail sending
    injection sending with _ same _
    rw [← same]
    refine ⟨isData, ?_⟩
    rw [ElementIo.startPacket_length, idle]
    rfl
  · rintro (impossible | ended)
    · cases impossible
    · rw [notEnded] at ended
      cases ended
  · intro other member
    change forwarded state other ++ (if port = other then [packet] else []) ++
      (Function.update state.queue port tail other ++ state.upstream other) = _ ∨ _
    by_cases same : port = other
    · subst other
      apply Or.inl
      rw [if_pos rfl, Function.update_self, ← pending, found]
      simp only [List.append_assoc, List.cons_append, List.nil_append]
    · rw [if_neg same, List.append_nil,
        Function.update_of_ne (fun equal => same equal.symm)]
      exact account other member

private theorem still_finished {before : String -> Bool} {port other : String}
    (finished : before other = true) : Function.update before port true other = true := by
  by_cases same : other = port
  · rw [same, Function.update_self]
  · rw [Function.update_of_ne same]
    exact finished

theorem poll_inv (allData : forall port, port ∈ ports -> AllData (data port))
    (inv : Inv ports data state) {now : Nat} {next : State T R M}
    (stepped : step state (.poll now) = some next) : Inv ports data next := by
  rcases polling_of_step stepped with ⟨port, rest, received, polling⟩
  have pending := (pending_of_poll inv polling).2
  have account : forall other, other ∈ ports ->
      forwarded state other ++ (state.queue other ++ state.upstream other) =
          data other ++ [Packet.eos] ∨
        (state.finished other = true ∧ forwarded state other = data other) := by
    intro other member
    have before := inv.account other member
    rw [hand_of_poll polling, List.append_nil] at before
    exact before
  rcases poll_cases inv polling stepped with
    ⟨packet, tail, found, isData, rfl⟩ | ⟨packet, tail, found, isMarker, rfl⟩ |
      ⟨empty, seen, rfl⟩ | ⟨empty, unseen, rfl⟩
  · exact inv_of_data inv polling found isData now pending account
  · refine inv_of_pollRest inv polling rfl rfl rfl rfl rfl rfl rfl rfl ?_ rfl rfl ?_
    · intro other different
      exact Function.update_of_ne different _ _
    · intro other member
      by_cases same : other = port
      · subst other
        refine Or.inr ⟨Function.update_self _ _ _, ?_⟩
        rw [found, List.cons_append] at pending
        exact eq_data_of_marker isMarker (allData _ member) pending
      · change forwarded state other ++
          (Function.update state.queue port tail other ++ state.upstream other) = _ ∨
            (Function.update state.finished port true other = true ∧ _)
        rw [Function.update_of_ne same, Function.update_of_ne same]
        exact account other member
  · refine inv_of_pollRest inv polling rfl rfl rfl rfl rfl rfl rfl rfl ?_ rfl rfl ?_
    · intro other different
      exact Function.update_of_ne different _ _
    · intro other member
      rcases account other member with open_ | closed
      · exact Or.inl open_
      · exact Or.inr ⟨still_finished closed.1, closed.2⟩
  · exact inv_of_pollRest inv polling rfl rfl rfl rfl rfl rfl rfl rfl
      (fun _ _ => rfl) rfl rfl account

theorem step_inv (nodup : ports.Nodup)
    (allData : forall port, port ∈ ports -> AllData (data port)) (inv : Inv ports data state)
    {label : Label} {next : State T R M} (stepped : step state label = some next) :
    Inv ports data next := by
  cases label with
  | push port => exact push_inv inv stepped
  | poll now => exact poll_inv allData inv stepped
  | deliver => exact (deliver_inv inv stepped).1
  | turn => exact turn_inv nodup inv stepped
  | broadcast => exact broadcast_inv inv stepped

theorem run_inv (nodup : ports.Nodup)
    (allData : forall port, port ∈ ports -> AllData (data port)) (inv : Inv ports data state)
    {final : State T R M} (reachable : machine.Reachable state final) : Inv ports data final :=
  machine.run_invariant (Inv ports data)
    (fun _ _ _ holds stepped => step_inv nodup allData holds stepped) inv reachable

/-! ## Finished ports -/

private theorem afterRecv_finished (state : State T R M) {port : String} {rest : List String}
    {received : Bool} (answer : ElementIo × Except Error (Option (Packet T R M)))
    {other : String} (finished : state.finished other = true) :
    (afterRecv state port rest received answer).finished other = true ∧
      (afterRecv state port rest received answer).out = state.out := by
  rcases answer with ⟨io, error | none | packet⟩
  · exact ⟨finished, rfl⟩
  · exact ⟨finished, rfl⟩
  · simp only [afterRecv]
    split
    · exact ⟨still_finished finished, rfl⟩
    · exact ⟨finished, rfl⟩

private theorem pollPort_finished (state : State T R M) (port : String) (rest : List String)
    (received : Bool) (now : Nat) {other : String} (finished : state.finished other = true) :
    (pollPort state port rest received now).finished other = true ∧
      (pollPort state port rest received now).out = state.out := by
  unfold pollPort
  split
  · exact afterRecv_finished _ _ finished
  · exact afterRecv_finished state _ finished

/-- Nothing is forwarded from a port once it is finished, and it stays so. -/
theorem finished_step (inv : Inv ports data state) {label : Label} {next : State T R M}
    (stepped : step state label = some next) {port : String}
    (finished : state.finished port = true) :
    next.finished port = true ∧ forwarded next port = forwarded state port := by
  cases label with
  | deliver =>
      refine ⟨?_, (deliver_inv inv stepped).2 port finished⟩
      simp only [step] at stepped
      split at stepped
      · split at stepped <;> cases stepped <;> exact finished
      · cases stepped
  | push _ | turn | broadcast =>
      simp only [step] at stepped
      repeat' split at stepped
      all_goals first | cases stepped; exact ⟨finished, rfl⟩ | cases stepped
  | poll now =>
      simp only [step] at stepped
      split at stepped
      · rename_i polled rest received _
        cases stepped
        have kept := pollPort_finished state polled rest received now finished
        refine ⟨kept.1, ?_⟩
        unfold forwarded
        rw [kept.2]
      · cases stepped

/-- Every finished port has delivered all of its data. -/
def Clean (ports : List String) (data : String -> List (Packet T R M))
    (state : State T R M) : Prop :=
  forall port, port ∈ ports -> state.finished port = true -> forwarded state port = data port

/-- Some port was closed before its data came through. -/
def Lost (ports : List String) (data : String -> List (Packet T R M))
    (state : State T R M) : Prop :=
  Exists fun port => port ∈ ports ∧ state.finished port = true ∧ forwarded state port ≠ data port

private theorem eos_not_mem_forwarded (inv : Inv ports data state) {port : String}
    {packet : Packet T R M} (member : packet ∈ forwarded state port) : packet.isEos = false := by
  rcases List.mem_map.mp member with ⟨entry, kept, rfl⟩
  exact inv.outData entry (List.mem_filter.mp kept).1

/-- A port in the current pass that finds its pipe empty has all of its
outstanding packets upstream. -/
private theorem upstream_of_empty (inv : Inv ports data state) {port : String}
    {rest : List String} {received : Bool}
    (polling : state.phase = .poll (port :: rest) received) (empty : state.queue port = []) :
    port ∈ ports ∧ forwarded state port ++ state.upstream port = data port ++ [Packet.eos] := by
  have pending := pending_of_poll inv polling
  rw [empty, List.nil_append] at pending
  exact pending

/-- Such a port has something upstream, at least its marker. -/
private theorem upstream_cons_of_empty (inv : Inv ports data state) {port : String}
    {rest : List String} {received : Bool}
    (polling : state.phase = .poll (port :: rest) received) (empty : state.queue port = []) :
    Exists fun packet => Exists fun tail => state.upstream port = packet :: tail := by
  have rests := (upstream_of_empty inv polling empty).2
  cases sending : state.upstream port with
  | nil =>
      rw [sending, List.append_nil] at rests
      have present : Packet.eos ∈ forwarded state port := by
        rw [rests]
        exact List.mem_append_right _ (List.mem_singleton_self _)
      cases eos_not_mem_forwarded inv present
  | cons packet tail => exact ⟨packet, tail, rfl⟩

/-- The finished ports after a poll are those before it and, when a marker
was answered, the polled port. -/
private theorem finished_after {before : String -> Bool} {port other : String}
    (finished : Function.update before port true other = true) :
    other = port ∨ before other = true := by
  by_cases same : other = port
  · exact Or.inl same
  · rw [Function.update_of_ne same] at finished
    exact Or.inr finished

/-- A patient step closes a port only after all of its data. -/
theorem clean_step (allData : forall port, port ∈ ports -> AllData (data port))
    (inv : Inv ports data state) (clean : Clean ports data state) {label : Label}
    {next : State T R M} (patient : Patient state label)
    (stepped : step state label = some next) : Clean ports data next := by
  intro other member finishedNext
  by_cases already : state.finished other = true
  · rw [(finished_step inv stepped already).2]
    exact clean other member already
  cases label with
  | push _ | turn | broadcast =>
      refine absurd ?_ already
      simp only [step] at stepped
      repeat' split at stepped
      all_goals first | cases stepped; exact finishedNext | cases stepped
  | deliver =>
      refine absurd ?_ already
      simp only [step] at stepped
      repeat' split at stepped
      all_goals first | cases stepped; exact finishedNext | cases stepped
  | poll now =>
      rcases polling_of_step stepped with ⟨port, rest, received, polling⟩
      rcases poll_cases inv polling stepped with
        ⟨packet, tail, found, isData, rfl⟩ | ⟨packet, tail, found, isMarker, rfl⟩ |
          ⟨empty, seen, rfl⟩ | ⟨empty, unseen, rfl⟩
      · exact absurd finishedNext already
      · have same := (finished_after finishedNext).resolve_right already
        subst other
        have pending := (pending_of_poll inv polling).2
        rw [found, List.cons_append] at pending
        exact eq_data_of_marker isMarker (allData port member) pending
      · have same := (finished_after finishedNext).resolve_right already
        subst other
        have rests := (upstream_of_empty inv polling empty).2
        rcases upstream_cons_of_empty inv polling empty with ⟨packet, tail, sending⟩
        simp only [Patient, polling, empty, seen, List.isEmpty_nil, forall_const] at patient
        have isMarker := patient packet (by rw [sending]; exact List.mem_cons_self)
        rw [sending] at rests
        exact eq_data_of_marker isMarker (allData port member) rests
      · exact absurd finishedNext already

/-- A step that is not patient closes a port that still has data upstream. -/
theorem lost_of_impatient (inv : Inv ports data state) {label : Label} {next : State T R M}
    (impatient : ¬ Patient state label) (stepped : step state label = some next) :
    Lost ports data next := by
  cases label with
  | push _ | deliver | turn | broadcast => exact absurd trivial impatient
  | poll now =>
      simp only [Patient] at impatient
      split at impatient
      case h_2 => exact absurd trivial impatient
      rename_i port rest received polling
      simp only [not_forall, List.isEmpty_iff] at impatient
      rcases impatient with ⟨empty, seen, packet, pending, isData⟩
      have source := upstream_of_empty inv polling empty
      rcases poll_cases inv polling stepped with
        ⟨_, _, found, _⟩ | ⟨_, _, found, _⟩ | ⟨_, _, rfl⟩ | ⟨_, unseen, _⟩
      · rw [empty] at found
        cases found
      · rw [empty] at found
        cases found
      · refine ⟨port, source.1, Function.update_self _ _ _, ?_⟩
        intro same
        change forwarded state port = data port at same
        have only := source.2
        rw [same] at only
        have sole := List.append_cancel_left only
        rw [sole] at pending
        rw [List.mem_singleton.mp pending] at isData
        exact isData rfl
      · rw [seen] at unseen
        cases unseen

theorem lost_step (inv : Inv ports data state) {label : Label} {next : State T R M}
    (lost : Lost ports data state) (stepped : step state label = some next) :
    Lost ports data next := by
  rcases lost with ⟨port, member, finished, missing⟩
  have kept := finished_step inv stepped finished
  exact ⟨port, member, kept.1, by rw [kept.2]; exact missing⟩

/-! ## The converger can always finish -/

/-- The packets that have not been received yet, over all ports. -/
def outstanding (ports : List String) (state : State T R M) : Nat :=
  (ports.map fun port => (state.queue port).length + (state.upstream port).length).sum

private theorem outstanding_lt {next : State T R M} {port : String} (member : port ∈ ports)
    (fewer : (next.queue port).length + (next.upstream port).length <
      (state.queue port).length + (state.upstream port).length)
    (others : forall other, other ≠ port ->
      next.queue other = state.queue other ∧ next.upstream other = state.upstream other) :
    outstanding ports next < outstanding ports state := by
  refine List.sum_lt_sum _ _ ?_ ⟨port, member, fewer⟩
  intro other _
  by_cases same : other = port
  · rw [same]
    exact Nat.le_of_lt fewer
  · rw [(others other same).1, (others other same).2]

/-- A poll of a filled pipe receives its oldest packet. -/
private theorem poll_filled (inv : Inv ports data state) {port : String} {rest : List String}
    {received : Bool} (polling : state.phase = .poll (port :: rest) received)
    {packet : Packet T R M} {tail : List (Packet T R M)}
    (filled : state.queue port = packet :: tail) :
    Patient state (.poll 0) ∧ Exists fun next => step state (.poll 0) = some next ∧
      next.queue = Function.update state.queue port tail ∧ next.upstream = state.upstream ∧
      next.capacity = state.capacity := by
  constructor
  · simp only [Patient, polling, filled]
    intro empty
    cases empty
  · have stepped : step state (.poll 0) = some (pollPort state port rest received 0) := by
      simp only [step, polling]
    rcases poll_cases inv polling stepped with
      ⟨_, _, found, _, isNext⟩ | ⟨_, _, found, _, isNext⟩ | ⟨empty, _⟩ | ⟨empty, _⟩
    · rw [filled] at found
      cases found
      exact ⟨_, stepped, by rw [isNext], by rw [isNext], by rw [isNext]⟩
    · rw [filled] at found
      cases found
      exact ⟨_, stepped, by rw [isNext], by rw [isNext], by rw [isNext]⟩
    · rw [filled] at empty
      cases empty
    · rw [filled] at empty
      cases empty

/-- While a port is to be polled, waiting for its next packet is possible
and brings one packet through. -/
private theorem receive_one (room : state.capacity ≠ some 0) (inv : Inv ports data state)
    {port : String} {rest : List String} {received : Bool}
    (polling : state.phase = .poll (port :: rest) received) :
    Exists fun next => outstanding ports next < outstanding ports state ∧
      next.capacity = state.capacity ∧
      forall final, (machine : Machine (State T R M) Label).Leads Patient next final ->
        machine.Leads Patient state final := by
  have source := inv.passMem port (by unfold passPorts; rw [polling]; exact List.mem_cons_self)
  cases filled : state.queue port with
  | cons packet tail =>
      rcases poll_filled inv polling filled with ⟨patient, next, stepped, queue, upstream, same⟩
      refine ⟨next, outstanding_lt source.1 ?_ ?_, same,
        fun final later => Machine.Leads.head _ patient stepped later⟩
      · rw [queue, upstream, Function.update_self, filled, List.length_cons]
        omega
      · intro other different
        rw [queue, upstream, Function.update_of_ne different]
        exact ⟨rfl, rfl⟩
  | nil =>
      rcases upstream_cons_of_empty inv polling filled with ⟨packet, tail, sending⟩
      have fits : hasRoom state.capacity (state.queue port) = true := by
        unfold hasRoom
        rw [filled]
        cases bound : state.capacity with
        | none => rfl
        | some limit =>
            have positive : limit ≠ 0 := fun zero => room (by rw [bound, zero])
            exact decide_eq_true (Nat.pos_of_ne_zero positive)
      let pushed : State T R M :=
        { state with
          upstream := Function.update state.upstream port tail
          queue := Function.update state.queue port (state.queue port ++ [packet]) }
      have push : step state (.push port) = some pushed := by
        simp only [step, sending, fits, if_true]
        rfl
      have filledNow : pushed.queue port = packet :: [] := by
        change Function.update state.queue port (state.queue port ++ [packet]) port = _
        rw [Function.update_self, filled, List.nil_append]
      have pushes : Patient state (.push port) := trivial
      rcases poll_filled (push_inv inv push) polling filledNow with
        ⟨patient, next, stepped, queue, upstream, same⟩
      refine ⟨next, outstanding_lt source.1 ?_ ?_, same, fun final later =>
        Machine.Leads.head _ pushes push (Machine.Leads.head _ patient stepped later)⟩
      · rw [queue, upstream, Function.update_self]
        change _ + (Function.update state.upstream port tail port).length < _
        rw [Function.update_self, filled, sending, List.length_cons]
        simp only [List.length_nil]
        omega
      · intro other different
        rw [queue, upstream, Function.update_of_ne different]
        exact ⟨Function.update_of_ne different _ _, Function.update_of_ne different _ _⟩

/-- From every state the converger can forward what it holds and come to its
next poll, or leave its loop and send its own end marker. -/
private theorem settle (nodup : ports.Nodup) (nonempty : ports ≠ [])
    (inv : Inv ports data state) :
    (Exists fun final => machine.Leads Patient state final ∧ final.eosSent = true) ∨
      Exists fun next => Inv ports data next ∧ outstanding ports next = outstanding ports state ∧
        next.capacity = state.capacity ∧
        (Exists fun port => Exists fun rest => Exists fun received =>
          next.phase = .poll (port :: rest) received) ∧
        forall final, (machine : Machine (State T R M) Label).Leads Patient next final ->
          machine.Leads Patient state final := by
  have leaves : forall {now : State T R M}, Inv ports data now -> now.phase = .broadcast ->
      Exists fun final => machine.Leads Patient now final ∧ final.eosSent = true := by
    intro now invNow leaving
    have stepped : step now .broadcast = some { now with
        io := { now.io with eos := now.io.eos.arrive.1 }
        phase := .returned (.ok ())
        eosSent := now.io.eos.arrive.2 } := by
      simp only [step, leaving]
    have final := (broadcast_inv invNow stepped).healthy nonempty _ rfl
    have admitted : Patient now .broadcast := trivial
    exact ⟨_, Machine.Leads.head _ admitted stepped (Machine.Leads.refl _ _ _), final.2⟩
  have turns : forall {now : State T R M}, Inv ports data now -> forall received,
      now.phase = .poll [] received ->
      (Exists fun final => machine.Leads Patient now final ∧ final.eosSent = true) ∨
        Exists fun next => Inv ports data next ∧
          outstanding ports next = outstanding ports now ∧ next.capacity = now.capacity ∧
          (Exists fun port => Exists fun rest => Exists fun again =>
            next.phase = .poll (port :: rest) again) ∧
          forall final, (machine : Machine (State T R M) Label).Leads Patient next final ->
            machine.Leads Patient now final := by
    intro now invNow received polling
    have stepped : step now .turn =
        some { now with phase := startPass now.io.inputs now.finished } := by
      simp only [step, polling, invNow.live, Bool.and_false, Bool.false_eq_true, if_false]
    have admitted : Patient now .turn := trivial
    have invNext := turn_inv nodup invNow stepped
    cases remaining : now.io.inputs.filter (fun port => !now.finished port) with
    | nil =>
        apply Or.inl
        rcases leaves invNext (by simp only [startPass, remaining]) with ⟨final, later, ended⟩
        exact ⟨final, Machine.Leads.head _ admitted stepped later, ended⟩
    | cons port rest =>
        exact Or.inr ⟨_, invNext, rfl, rfl,
          ⟨port, rest, false, by simp only [startPass, remaining]⟩,
          fun final later => Machine.Leads.head _ admitted stepped later⟩
  cases atPhase : state.phase with
  | returned result =>
      exact Or.inl ⟨state, Machine.Leads.refl _ _ _, (inv.healthy nonempty result atPhase).2⟩
  | broadcast => exact Or.inl (leaves inv atPhase)
  | poll remaining received =>
      cases remaining with
      | nil => exact turns inv received atPhase
      | cons port rest =>
          exact Or.inr ⟨state, inv, rfl, rfl, ⟨port, rest, received, atPhase⟩, fun _ later => later⟩
  | send port packet rest =>
      have busy := inv.busy port packet rest atPhase
      have source := inv.passMem port
        (by unfold passPorts; rw [atPhase]; exact List.mem_cons_self)
      have inner : state.io.inputs ≠ [] := by
        rw [inv.inputs]
        exact nonempty
      have known : "out" ∈ state.io.outputs := by
        rw [inv.outputs]
        exact List.mem_singleton_self _
      have stepped : step state .deliver = some { state with
          io := state.io.completePacket
          phase := .poll rest true
          out := state.out ++ [(port, packet)] } := by
        simp only [step, atPhase, state.io.send_delivered known inner busy.1]
      have admitted : Patient state .deliver := trivial
      have invNext := (deliver_inv inv stepped).1
      cases rest with
      | nil =>
          rcases turns invNext true rfl with
            ⟨final, later, ended⟩ | ⟨next, settled, same, bound, polls, back⟩
          · exact Or.inl ⟨final, Machine.Leads.head _ admitted stepped later, ended⟩
          · exact Or.inr ⟨next, settled, same, bound, polls, fun final later =>
              Machine.Leads.head _ admitted stepped (back final later)⟩
      | cons other others =>
          exact Or.inr ⟨_, invNext, rfl, rfl, ⟨other, others, true, rfl⟩,
            fun final later => Machine.Leads.head _ admitted stepped later⟩

/-- By induction on the packets still outstanding: the converger can finish
from every reachable state without closing a port early. -/
theorem leads_to_marker (nodup : ports.Nodup) (nonempty : ports ≠ [])
    (allData : forall port, port ∈ ports -> AllData (data port))
    (room : state.capacity ≠ some 0) (inv : Inv ports data state) :
    Exists fun final => machine.Leads Patient state final ∧ final.eosSent = true := by
  induction size : outstanding ports state using Nat.strong_induction_on generalizing state with
  | _ size ih =>
      rcases settle nodup nonempty inv with
        done | ⟨settled, invSettled, sameSize, sameRoom, ⟨port, rest, received, polling⟩, back⟩
      · exact done
      · have roomSettled : settled.capacity ≠ some 0 := by
          rw [sameRoom]
          exact room
        rcases receive_one roomSettled invSettled polling with
          ⟨next, smaller, sameNext, backNext⟩
        have reachesNext := backNext next (Machine.Leads.refl _ _ _)
        have invNext : Inv ports data next := by
          rcases reachesNext with ⟨labels, _, reached⟩
          exact run_inv nodup allData invSettled ⟨labels, reached⟩
        have roomNext : next.capacity ≠ some 0 := by
          rw [sameNext]
          exact roomSettled
        rcases ih (outstanding ports next) (by omega) roomNext invNext rfl with
          ⟨final, later, ended⟩
        exact ⟨final, back final (backNext final later), ended⟩

/-! ## The main result -/

private theorem prefix_of_account
    (inv : Inv ports data state) {port : String} (member : port ∈ ports) :
    forwarded state port <+: data port := by
  rcases inv.account port member with open_ | closed
  · have whole : forwarded state port <+: data port ++ [Packet.eos] := by
      rw [← open_, List.append_assoc]
      exact List.prefix_append _ _
    rcases List.prefix_concat_iff.mp whole with all | within
    · have present : Packet.eos ∈ forwarded state port := by
        rw [all]
        exact List.mem_append_right _ (List.mem_singleton_self _)
      cases eos_not_mem_forwarded inv present
    · exact within
  · refine ⟨[], ?_⟩
    rw [closed.2, List.append_nil]

private theorem step_capacity {label : Label} {next : State T R M}
    (stepped : step state label = some next) : next.capacity = state.capacity := by
  cases label with
  | poll now =>
      simp only [step] at stepped
      split at stepped
      · cases stepped
        unfold pollPort
        split <;> (unfold afterRecv; split <;> (try split) <;> rfl)
      · cases stepped
  | push _ | deliver | turn | broadcast =>
      simp only [step] at stepped
      repeat' split at stepped
      all_goals first | cases stepped; rfl | cases stepped

/-- A run whose polls are all patient forwards every port in order, can
always be completed, and sends the converger's own end marker only after
every packet of every port.  A completed run with an impatient poll has lost
a packet. -/
theorem losesNothing_iff_patient (nodup : ports.Nodup) (nonempty : ports ≠ [])
    (allData : forall port, port ∈ ports -> AllData (data port)) (capacity : Option Nat)
    (room : capacity ≠ some 0) (queueCapacity : Nat) (labels : List Label)
    (final : State T R M)
    (reached : machine.run (initial ports data capacity queueCapacity) labels = some final) :
    (machine.Meets Patient (initial ports data capacity queueCapacity) labels ->
      LosesNothing ports data final ∧
        Exists fun done => machine.Leads Patient final done ∧ done.eosSent = true) ∧
    (final.eosSent = true -> LosesNothing ports data final ->
      machine.Meets Patient (initial ports data capacity queueCapacity) labels) := by
  have start := initial_inv data nodup capacity queueCapacity
  have inv : Inv ports data final :=
    run_inv nodup allData start ⟨labels, reached⟩
  constructor
  · intro meets
    have clean : Inv ports data final ∧ Clean ports data final := by
      refine machine.run_invariant_of_meets
        (fun state => Inv ports data state ∧ Clean ports data state) ?_
        ⟨start, fun _ _ impossible => by cases impossible⟩ meets reached
      intro before label next holds patient stepped
      exact ⟨step_inv nodup allData holds.1 stepped,
        clean_step allData holds.1 holds.2 patient stepped⟩
    have sameRoom : final.capacity = capacity :=
      machine.run_invariant (fun state => state.capacity = capacity)
        (fun _ _ _ same stepped => (step_capacity stepped).trans same) rfl ⟨labels, reached⟩
    refine ⟨⟨fun port member => prefix_of_account inv member, ?_⟩, ?_⟩
    · intro ended port member
      exact clean.2 port member (inv.complete (Or.inr ended) port member)
    · exact leads_to_marker nodup nonempty allData (by rw [sameRoom]; exact room) inv
  · intro ended loses
    by_contra broken
    rcases machine.exists_violation reached broken with
      ⟨before, label, after, middle, next, _, atMiddle, impatient, stepped, rest⟩
    have invMiddle : Inv ports data middle :=
      run_inv nodup allData start ⟨before, atMiddle⟩
    have lost : Inv ports data final ∧ Lost ports data final := by
      refine machine.run_invariant
        (fun state => Inv ports data state ∧ Lost ports data state) ?_
        ⟨step_inv nodup allData invMiddle stepped, lost_of_impatient invMiddle impatient stepped⟩
        ⟨after, rest⟩
      intro state label next holds stepped
      exact ⟨step_inv nodup allData holds.1 stepped, lost_step holds.1 holds.2 stepped⟩
    rcases lost.2 with ⟨port, member, _, missing⟩
    exact missing (loses.2 ended port member)

/-- Two ports with one packet each, polled only when their pipes are filled. -/
theorem converger_two_ports_complete :
    Exists fun final : State Unit Unit Unit =>
      machine.run (initial ["in0", "in1"] (fun _ => [Packet.tensor ()]) (some 1) 1)
          [.push "in0", .push "in1", .poll 0, .deliver, .poll 1, .deliver, .turn, .push "in0",
            .push "in1", .poll 2, .poll 3, .turn, .broadcast] = some final ∧
        final.eosSent = true ∧
        LosesNothing ["in0", "in1"] (fun _ => [Packet.tensor ()]) final := by
  have ends : (machine.run
      (initial ["in0", "in1"] (fun _ => [Packet.tensor ()]) (some 1) 1 : State Unit Unit Unit)
      [.push "in0", .push "in1", .poll 0, .deliver, .poll 1, .deliver, .turn, .push "in0",
        .push "in1", .poll 2, .poll 3, .turn, .broadcast]).map State.eosSent = some true := by
    decide +kernel
  rcases Option.map_eq_some_iff.mp ends with ⟨final, reached, ended⟩
  refine ⟨final, reached, ended, ?_⟩
  exact ((losesNothing_iff_patient (by decide) (by decide)
    (fun _ _ packet member => by rw [List.mem_singleton.mp member]; rfl) (some 1) (by decide) 1
    _ final reached).1 (by decide +kernel)).1

/-- The first port ends before the second has sent anything.  The timeout on
the second port is answered with an end marker, and its packet is lost. -/
theorem converger_closes_slow_port :
    ¬ forall (labels : List Label) (final : State Unit Unit Unit),
        machine.run (initial ["in0", "in1"]
          (fun port => if port = "in1" then [Packet.tensor ()] else []) (some 1) 1) labels =
            some final ->
          LosesNothing ["in0", "in1"]
            (fun port => if port = "in1" then [Packet.tensor ()] else []) final := by
  intro always
  have lost : (machine.run
      (initial ["in0", "in1"] (fun port => if port = "in1" then [Packet.tensor ()] else [])
        (some 1) 1 : State Unit Unit Unit)
      [.push "in0", .poll 0, .poll 1, .turn, .broadcast]).map
        (fun state => (state.eosSent, forwarded state "in1")) = some (true, []) := by
    decide +kernel
  rcases Option.map_eq_some_iff.mp lost with ⟨final, reached, facts⟩
  injection facts with ended nothing
  have complete := (always _ final reached).2 ended "in1" (by decide)
  rw [nothing] at complete
  cases complete

end Converger
end Elements
end DyunGu
