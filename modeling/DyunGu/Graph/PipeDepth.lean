import DyunGu.Core.Memory
import DyunGu.Lib.Indexed
import DyunGu.Lib.Machine

namespace DyunGu
namespace Graph

open Core (usizeMax)

/-!
# The depth of a pipe

A pipe is a channel with a counter beside it.  A send adds one to the counter,
then tries the channel, and takes the one off again if the channel refuses.  A
receive takes one off after the channel has given it a packet.  Each of these is
a step of its own, and the steps of any number of parties interleave.

Every packet that is counted is in the channel or in the hands of a party in
the middle of an operation.  So the counter is never zero when one is taken off.
-/

/-- The counter of a pipe is a machine word, and wraps around. -/
def fetchAdd (depth : Nat) : Nat := (depth + 1) % (usizeMax + 1)

def fetchSub (depth : Nat) : Nat := (depth + usizeMax) % (usizeMax + 1)

/-- A pipe with a capacity or without one.  `room` is the number of packets that
there is memory for.  A packet is larger than a byte, so that it is at most half
the number of addresses. -/
structure DataPipe where
  capacity : Option Nat
  room : Nat
  small : 2 * room <= usizeMax

/-- Where a party is in its operation. -/
inductive PipePhase (Packet : Type) where
  | idle
  /-- The send has been counted. -/
  | announced (packet : Packet)
  /-- The channel has refused the packet. -/
  | refused (packet : Packet)
  | receiving
  /-- The channel has given the packet. -/
  | taken (packet : Packet)
deriving DecidableEq, Repr

namespace PipePhase

variable {Packet : Type}

/-- The packets that are counted for the party. -/
def held : PipePhase Packet -> Nat
  | .idle | .receiving => 0
  | .announced _ | .refused _ | .taken _ => 1

/-- The party holds the receiver. -/
def receives : PipePhase Packet -> Bool
  | .receiving | .taken _ => true
  | .idle | .announced _ | .refused _ => false

end PipePhase

namespace DataPipe

variable {k : Nat} {Packet : Type}

/-- `discarded` counts the packets that were in the channel when the receiver was
dropped. -/
structure State (k : Nat) (Packet : Type) where
  depth : Nat
  queue : List Packet
  connected : Bool
  discarded : Nat
  phase : Fin k -> PipePhase Packet

namespace State

def start : State k Packet := ⟨0, [], true, 0, fun _ => .idle⟩

def held (state : State k Packet) : Nat := ∑ party, (state.phase party).held

/-- The packets that there are. -/
def packets (state : State k Packet) : Nat := state.queue.length + state.held

/-- No operation is in progress. -/
def Quiet (state : State k Packet) : Prop := forall party, state.phase party = .idle

end State

inductive Label (k : Nat) (Packet : Type) where
  | announce (party : Fin k) (packet : Packet)
  | offer (party : Fin k)
  /-- Without capacity, a packet goes from hand to hand. -/
  | handOver (sender receiver : Fin k)
  | retract (party : Fin k)
  | receive (party : Fin k)
  | pop (party : Fin k)
  /-- The channel is empty, or the time is over. -/
  | giveUp (party : Fin k)
  | release (party : Fin k)
  | dropReceiver

/-- The label takes one off the counter. -/
def Label.subtracts : Label k Packet -> Bool
  | .retract _ | .release _ => true
  | _ => false

def hasSpace (pipe : DataPipe) (queue : List Packet) : Bool :=
  pipe.capacity.all fun capacity => decide (queue.length < capacity)

def step (pipe : DataPipe) (state : State k Packet) : Label k Packet -> Option (State k Packet)
  | .announce party packet =>
      match state.phase party with
      | .idle =>
          if state.packets < pipe.room then
            some { state with
              depth := fetchAdd state.depth
              phase := Function.update state.phase party (.announced packet) }
          else none
      | _ => none
  | .offer party =>
      match state.phase party with
      | .announced packet =>
          if state.connected && pipe.hasSpace state.queue then
            some { state with
              queue := state.queue ++ [packet]
              phase := Function.update state.phase party .idle }
          else some { state with phase := Function.update state.phase party (.refused packet) }
      | _ => none
  | .handOver sender receiver =>
      match state.phase sender, state.phase receiver with
      | .announced packet, .receiving =>
          if pipe.capacity = some 0 then
            some { state with
              phase := Function.update (Function.update state.phase sender .idle) receiver
                (.taken packet) }
          else none
      | _, _ => none
  | .retract party =>
      match state.phase party with
      | .refused _ =>
          some { state with
            depth := fetchSub state.depth
            phase := Function.update state.phase party .idle }
      | _ => none
  | .receive party =>
      match state.phase party with
      | .idle =>
          if state.connected then
            some { state with phase := Function.update state.phase party .receiving }
          else none
      | _ => none
  | .pop party =>
      match state.phase party, state.queue with
      | .receiving, packet :: queue =>
          some { state with
            queue := queue
            phase := Function.update state.phase party (.taken packet) }
      | _, _ => none
  | .giveUp party =>
      match state.phase party with
      | .receiving => some { state with phase := Function.update state.phase party .idle }
      | _ => none
  | .release party =>
      match state.phase party with
      | .taken _ =>
          some { state with
            depth := fetchSub state.depth
            phase := Function.update state.phase party .idle }
      | _ => none
  | .dropReceiver =>
      if state.connected = true ∧ forall party, (state.phase party).receives = false then
        some { state with queue := [], connected := false, discarded := state.queue.length }
      else none

def machine (pipe : DataPipe) : Machine (State k Packet) (Label k Packet) where
  step := pipe.step

/-- `PipeSender::depth`. -/
def senderDepth (pipe : DataPipe) (state : State k Packet) : Nat :=
  match pipe.capacity with
  | none => state.depth
  | some capacity => min state.depth capacity

/-! ## What a step does -/

theorem fetchAdd_of_lt {depth : Nat} (small : depth < usizeMax) : fetchAdd depth = depth + 1 :=
  Nat.mod_eq_of_lt (Nat.succ_lt_succ small)

theorem fetchSub_of_pos {depth : Nat} (positive : 0 < depth) (small : depth <= usizeMax) :
    fetchSub depth = depth - 1 := by
  have isSum : depth + usizeMax = depth - 1 + (usizeMax + 1) := by omega
  rw [fetchSub, isSum, Nat.add_mod_right]
  exact Nat.mod_eq_of_lt (by omega)

/-- What a step does to the counter and to the number of packets. -/
inductive Effect (pipe : DataPipe) (state next : State k Packet) : Bool -> Prop where
  | adds (depth : next.depth = fetchAdd state.depth) (room : state.packets < pipe.room)
      (packets : next.packets = state.packets + 1) (queue : next.queue = state.queue)
      (connected : next.connected = state.connected)
      (discarded : next.discarded = state.discarded) : Effect pipe state next false
  | subtracts (depth : next.depth = fetchSub state.depth)
      (packets : next.packets + 1 = state.packets) (queue : next.queue = state.queue)
      (connected : next.connected = state.connected)
      (discarded : next.discarded = state.discarded) : Effect pipe state next true
  | keeps (depth : next.depth = state.depth) (packets : next.packets = state.packets)
      (queue : next.queue.length <= state.queue.length ∨
        forall capacity, pipe.capacity = some capacity -> next.queue.length <= capacity)
      (connected : next.connected = state.connected)
      (discarded : next.discarded = state.discarded) : Effect pipe state next false
  | drops (depth : next.depth = state.depth) (wasConnected : state.connected = true)
      (queue : next.queue = []) (packets : next.packets + state.queue.length = state.packets)
      (connected : next.connected = false) (discarded : next.discarded = state.queue.length) :
      Effect pipe state next false

section Effects

variable {pipe : DataPipe} {state next : State k Packet} {party : Fin k}
    {before after : PipePhase Packet}

theorem held_update (next : State k Packet) (was : state.phase party = before)
    (phase : next.phase = Function.update state.phase party after) :
    next.held + before.held = state.held + after.held := by
  have replaced := Indexed.sum_update PipePhase.held state.phase party after
  rw [was, ← phase] at replaced
  exact replaced

/-- A party that passes a packet on, or none. -/
theorem keeps_of_phase (was : state.phase party = before)
    (phase : next.phase = Function.update state.phase party after)
    (balance : next.queue.length + after.held = state.queue.length + before.held)
    (queue : next.queue.length <= state.queue.length ∨
      forall capacity, pipe.capacity = some capacity -> next.queue.length <= capacity)
    (depth : next.depth = state.depth) (connected : next.connected = state.connected)
    (discarded : next.discarded = state.discarded) : Effect pipe state next false := by
  have held := held_update next was phase
  refine .keeps depth ?_ queue connected discarded
  rw [State.packets, State.packets]
  omega

/-- A party that is done with a packet. -/
theorem subtracts_of_phase (was : state.phase party = before) (holds : before.held = 1)
    (isNext : { state with
      depth := fetchSub state.depth
      phase := Function.update state.phase party .idle } = next) :
    Effect pipe state next true := by
  have phase : next.phase = Function.update state.phase party .idle := by rw [← isNext]
  have held := held_update next was phase
  rw [holds] at held
  subst isNext
  exact .subtracts rfl (congrArg (state.queue.length + ·) held) rfl rfl rfl

theorem offer_effect (stepped : pipe.step state (.offer party) = some next) :
    Effect pipe state next false := by
  simp only [step] at stepped
  split at stepped
  · rename_i packet was
    split at stepped
    · rename_i accepts
      cases stepped
      refine keeps_of_phase was rfl (by simp [PipePhase.held]) (Or.inr ?_) rfl rfl rfl
      intro capacity isCapacity
      simp only [hasSpace, isCapacity, Option.all_some, Bool.and_eq_true,
        decide_eq_true_eq] at accepts
      rw [List.length_append, List.length_singleton]
      exact accepts.2
    · cases stepped
      exact keeps_of_phase was rfl rfl (Or.inl (Nat.le_refl _)) rfl rfl rfl
  · cases stepped

/-- What the sender gives, the receiver has. -/
theorem handOver_effect {sender receiver : Fin k}
    (stepped : pipe.step state (.handOver sender receiver) = some next) :
    Effect pipe state next false := by
  simp only [step] at stepped
  split at stepped
  · rename_i packet wasSender wasReceiver
    split at stepped
    · cases stepped
      have apart : receiver ≠ sender := by
        intro same
        rw [same, wasSender] at wasReceiver
        cases wasReceiver
      let given : State k Packet :=
        { state with phase := Function.update state.phase sender .idle }
      have waits : given.phase receiver = .receiving := by
        rw [← wasReceiver]
        exact Function.update_of_ne apart _ _
      have gives : given.held + 1 = state.held := held_update given wasSender rfl
      let taken : State k Packet :=
        { given with phase := Function.update given.phase receiver (.taken packet) }
      have takes : taken.held = given.held + 1 := held_update taken waits rfl
      refine .keeps rfl ?_ (Or.inl (Nat.le_refl _)) rfl rfl
      exact congrArg (state.queue.length + ·) (takes.trans gives)
    · cases stepped
  · cases stepped

theorem step_effect {label : Label k Packet} (stepped : pipe.step state label = some next) :
    Effect pipe state next label.subtracts := by
  cases label with
  | announce party packet =>
      simp only [step] at stepped
      split at stepped
      · rename_i was
        split at stepped
        · rename_i room
          have phase : next.phase = Function.update state.phase party (.announced packet) := by
            rw [← Option.some.inj stepped]
          have held := held_update next was phase
          cases stepped
          exact .adds rfl room (congrArg (state.queue.length + ·) held) rfl rfl rfl
        · cases stepped
      · cases stepped
  | offer party => exact offer_effect stepped
  | handOver sender receiver => exact handOver_effect stepped
  | retract party =>
      simp only [step] at stepped
      split at stepped
      · rename_i was
        exact subtracts_of_phase was rfl (Option.some.inj stepped)
      · cases stepped
  | receive party =>
      simp only [step] at stepped
      split at stepped
      · rename_i was
        split at stepped
        · cases stepped
          exact keeps_of_phase was rfl rfl (Or.inl (Nat.le_refl _)) rfl rfl rfl
        · cases stepped
      · cases stepped
  | pop party =>
      simp only [step] at stepped
      split at stepped
      · rename_i was isQueue
        cases stepped
        refine keeps_of_phase was rfl ?_ (Or.inl ?_) rfl rfl rfl
        · simp [PipePhase.held, isQueue]
        · simp [isQueue]
      · cases stepped
  | giveUp party =>
      simp only [step] at stepped
      split at stepped
      · rename_i was
        cases stepped
        exact keeps_of_phase was rfl rfl (Or.inl (Nat.le_refl _)) rfl rfl rfl
      · cases stepped
  | release party =>
      simp only [step] at stepped
      split at stepped
      · rename_i was
        exact subtracts_of_phase was rfl (Option.some.inj stepped)
      · cases stepped
  | dropReceiver =>
      simp only [step] at stepped
      split at stepped
      · rename_i mayDrop
        cases stepped
        exact .drops rfl mayDrop.1 rfl (by simp [State.packets, State.held, Nat.add_comm]) rfl rfl
      · cases stepped

end Effects

/-! ## What is counted -/

/-- The counter counts the packets that there are and those that were discarded. -/
structure Counts (pipe : DataPipe) (state : State k Packet) : Prop where
  depth : state.depth = state.packets + state.discarded
  room : state.packets <= pipe.room
  discarded : state.discarded <= pipe.room
  connected : state.connected = true -> state.discarded = 0
  capacity : forall capacity, pipe.capacity = some capacity -> state.queue.length <= capacity

theorem Counts.start (pipe : DataPipe) : Counts pipe (State.start : State k Packet) where
  depth := by simp [State.start, State.packets, State.held, PipePhase.held]
  room := by simp [State.start, State.packets, State.held, PipePhase.held]
  discarded := Nat.zero_le _
  connected _ := rfl
  capacity _ _ := Nat.zero_le _

/-- One is added without an overflow, and taken off a counter that is not zero. -/
theorem Counts.exact {pipe : DataPipe} {state : State k Packet} (counts : Counts pipe state) :
    (state.packets < pipe.room -> fetchAdd state.depth = state.depth + 1) ∧
      (0 < state.packets -> 0 < state.depth ∧ fetchSub state.depth = state.depth - 1) := by
  have isDepth := counts.depth
  have room := counts.room
  have discarded := counts.discarded
  have small := pipe.small
  constructor
  · intro isRoom
    exact fetchAdd_of_lt (by omega)
  · intro isPacket
    have positive : 0 < state.depth := by omega
    exact ⟨positive, fetchSub_of_pos positive (by omega)⟩

theorem Counts.step {pipe : DataPipe} {state next : State k Packet} {label : Label k Packet}
    (counts : Counts pipe state) (stepped : pipe.step state label = some next) :
    Counts pipe next := by
  have isDepth := counts.depth
  have effect := step_effect stepped
  generalize label.subtracts = subtracts at effect
  cases effect with
  | adds depth room packets queue connected discarded =>
      refine ⟨?_, by omega, discarded ▸ counts.discarded, ?_, queue ▸ counts.capacity⟩
      · rw [depth, counts.exact.1 room, packets, discarded]
        omega
      · rw [connected, discarded]
        exact counts.connected
  | subtracts depth packets queue connected discarded =>
      have room := counts.room
      refine ⟨?_, by omega, discarded ▸ counts.discarded, ?_, queue ▸ counts.capacity⟩
      · rw [depth, (counts.exact.2 (by omega)).2, discarded]
        omega
      · rw [connected, discarded]
        exact counts.connected
  | keeps depth packets queue connected discarded =>
      refine ⟨?_, packets ▸ counts.room, discarded ▸ counts.discarded, ?_, ?_⟩
      · rw [depth, packets, discarded]
        exact isDepth
      · rw [connected, discarded]
        exact counts.connected
      · intro capacity isCapacity
        rcases queue with shorter | fits
        · exact shorter.trans (counts.capacity capacity isCapacity)
        · exact fits capacity isCapacity
  | drops depth wasConnected queue packets connected discarded =>
      have room := counts.room
      have none_ := counts.connected wasConnected
      refine ⟨by omega, by omega, by omega, ?_, ?_⟩
      · intro isConnected
        rw [connected] at isConnected
        cases isConnected
      · intro capacity _
        rw [queue]
        exact Nat.zero_le _

theorem Counts.of_reachable {pipe : DataPipe} {state : State k Packet}
    (reachable : pipe.machine.Reachable State.start state) : Counts pipe state :=
  pipe.machine.run_invariant (Counts pipe) (fun _ _ _ counts stepped => counts.step stepped)
    (Counts.start pipe) reachable

theorem held_of_quiet {state : State k Packet} (quiet : state.Quiet) : state.held = 0 := by
  apply Finset.sum_eq_zero
  intro party _
  rw [quiet party]
  rfl

/-- In no interleaving of sends and receives is one taken off a counter that is
zero.  When no operation is in progress the counter is the length of the queue,
and so is the depth that a sender sees. -/
theorem depth_counts {pipe : DataPipe} {state : State k Packet}
    (reachable : pipe.machine.Reachable State.start state) :
    (forall label next, pipe.machine.step state label = some next -> label.subtracts = true ->
      0 < state.depth ∧ next.depth = state.depth - 1) ∧
      (state.Quiet -> state.connected = true ->
        state.depth = state.queue.length ∧ pipe.senderDepth state = state.queue.length) := by
  have counts := Counts.of_reachable reachable
  constructor
  · intro label next stepped subtracts
    have effect := step_effect stepped
    rw [subtracts] at effect
    cases effect with
    | subtracts depth packets _ _ _ =>
        rw [depth]
        exact counts.exact.2 (by omega)
  · intro quiet isConnected
    have isDepth := counts.depth
    rw [State.packets, held_of_quiet quiet, counts.connected isConnected] at isDepth
    refine ⟨isDepth, ?_⟩
    rw [senderDepth]
    split
    · exact isDepth
    · rename_i capacity isCapacity
      rw [isDepth]
      exact Nat.min_eq_left (counts.capacity capacity isCapacity)

def twoSlots : DataPipe := ⟨some 2, 8, by decide⟩

/-- The second send is counted before the first packet has been taken off. -/
def overtaking : List (Label 2 Nat) :=
  let sender : Fin 2 := ⟨0, Nat.two_pos⟩
  let receiver : Fin 2 := ⟨1, Nat.one_lt_two⟩
  [.announce sender 7, .receive receiver, .offer sender, .pop receiver, .announce sender 8,
    .release receiver, .offer sender]

theorem overtaking_counts :
    (twoSlots.machine.after State.start overtaking).depth = [8].length ∧
      twoSlots.senderDepth (twoSlots.machine.after State.start overtaking) = [8].length := by
  have reachable : twoSlots.machine.Reachable State.start
      (twoSlots.machine.after State.start overtaking) :=
    ⟨overtaking, twoSlots.machine.run_after rfl⟩
  have quiet : (twoSlots.machine.after State.start overtaking).Quiet := by
    unfold State.Quiet
    decide
  exact (depth_counts reachable).2 quiet rfl

end DataPipe
end Graph
end DyunGu
