import DyunGu.Execution.Steady
import Mathlib.Algebra.Order.Ring.Nat

namespace DyunGu
namespace Execution

open DyunGu.Graph
open DyunGu.Elements (FilterMode withStarts)

variable {T R M : Type}

/-!
# What a distributor sends where

The branches are the connected ports in the order of the port table.  Round
robin deals the packets out to them, and broadcast gives all of them to each.
The counter of round robin is a machine word: with a number of branches that
does not divide its range the turn is lost when it wraps.
-/

/-- The names of `OUTPUT_PORTS`. -/
def outputPortNames : List String :=
  ["out0", "out1", "out2", "out3", "out4", "out5", "out6", "out7"]

theorem branch_declared {name : String} (declared : name ∈ outputPortNames) :
    (branchIndex name).map branchPort = some name := by
  have all : forall name, name ∈ outputPortNames ->
      (branchIndex name).map branchPort = some name := by decide
  exact all name declared

theorem branches_of {ports : List String}
    (declared : forall port, port ∈ ports -> port ∈ outputPortNames) :
    (ports.filterMap branchIndex).map branchPort = ports := by
  induction ports with
  | nil => rfl
  | cons port ports ih =>
      have first := branch_declared (declared port List.mem_cons_self)
      rcases Option.map_eq_some_iff.mp first with ⟨index, isIndex, isPort⟩
      rw [List.filterMap_cons_some isIndex, List.map_cons, isPort,
        ih fun other member => declared other (List.mem_cons_of_mem _ member)]

/-- The branches are the ports themselves. -/
theorem branches {io : ElementIo} (declared : forall port, port ∈ io.outputs ->
      port ∈ outputPortNames) : (outputPorts io).map branchPort = io.outputs :=
  branches_of declared

/-- What a distributor relies on: it is built in the usual way, and the
validator has let only declared ports be connected. -/
structure Distributes (io : ElementIo) : Prop where
  inner : "in" ∈ io.inputs
  room : 0 < io.maxPacketStarts
  alone : io.eos = EosState.fresh 1
  empty : io.packetStarts = []
  declared : forall port, port ∈ io.outputs -> port ∈ outputPortNames
  distinct : io.outputs.Nodup
  connected : io.outputs ≠ []

namespace Distributes

variable {io : ElementIo}

theorem ports_length (distributes : Distributes io) :
    (outputPorts io).length = io.outputs.length := by
  rw [← branches distributes.declared, List.length_map]

/-- The branch whose turn it is. -/
def turn (io : ElementIo) (next : Nat) : String :=
  io.outputs.getD (next % io.outputs.length) ""

theorem branchPort_turn (distributes : Distributes io) (next : Nat) :
    branchPort ((outputPorts io).getD (next % (outputPorts io).length) 0) = turn io next := by
  have positive : 0 < io.outputs.length := List.length_pos_of_ne_nil distributes.connected
  have low : next % io.outputs.length < (outputPorts io).length := by
    rw [distributes.ports_length]
    exact Nat.mod_lt _ positive
  have lowPort : next % io.outputs.length < io.outputs.length := Nat.mod_lt _ positive
  have named : ((outputPorts io).map branchPort)[next % io.outputs.length]? =
      io.outputs[next % io.outputs.length]? := by
    rw [branches distributes.declared]
  rw [List.getElem?_map, List.getElem?_eq_getElem low, List.getElem?_eq_getElem lowPort,
    Option.map_some, Option.some.injEq] at named
  rw [turn, distributes.ports_length, List.getD_eq_getElem?_getD, List.getElem?_eq_getElem low,
    List.getD_eq_getElem?_getD, List.getElem?_eq_getElem lowPort]
  exact named

theorem turn_mem (distributes : Distributes io) (next : Nat) : turn io next ∈ io.outputs := by
  have positive : 0 < io.outputs.length := List.length_pos_of_ne_nil distributes.connected
  rw [turn, List.getD_eq_getElem?_getD,
    List.getElem?_eq_getElem (Nat.mod_lt next positive), Option.getD_some]
  exact List.getElem_mem _

theorem steady_roundRobin (distributes : Distributes io) :
    Steady io (fun next => (.distributor .roundRobin next : Element T R M))
      (fun next _ => (next + 1) % 2 ^ 64) (fun next packet => [(turn io next, packet)]) where
  inner := distributes.inner
  room := distributes.room
  alone := distributes.alone
  handles := by
    intro next packet starts _
    unfold Element.handle
    have branch := distributes.branchPort_turn next
    have samePorts : outputPorts (withStarts io starts) = outputPorts io := rfl
    dsimp only
    rw [samePorts, branch]
    rfl
  ends := fun _ _ => rfl
  answers := fun _ _ _ => List.cons_ne_nil _ _
  known := by
    intro next packet entry member data
    rw [List.mem_singleton.mp member]
    exact ⟨distributes.turn_mem next, data⟩

theorem steady_broadcast (distributes : Distributes io) :
    Steady io (fun next => (.distributor .broadcast next : Element T R M))
      (fun next _ => next) (fun _ packet => io.outputs.map fun port => (port, packet)) where
  inner := distributes.inner
  room := distributes.room
  alone := distributes.alone
  handles := by
    intro next packet starts _
    unfold Element.handle sendOps
    have samePorts : outputPorts (withStarts io starts) = outputPorts io := rfl
    dsimp only
    rw [samePorts]
    have ports := branches distributes.declared
    generalize io.outputs = names at ports
    subst ports
    rw [List.map_map, List.map_map]
    rfl
  ends := fun _ _ => rfl
  answers := fun _ _ _ none_ => distributes.connected (List.map_eq_nil_iff.mp none_)
  known := by
    intro next packet entry member data
    rcases List.mem_map.mp member with ⟨port, isPort, rfl⟩
    exact ⟨isPort, data⟩

/-- A distributor opens its loop at once. -/
theorem plainRun_eq (distributes : Distributes io) (strategy : DistributionStrategy)
    (packets : List (Packet T R M)) :
    Worker.plainRun io (.distributor strategy 0) packets =
      Worker.plain ⟨withStarts io [], .distributor strategy 0, .receiving⟩ packets := by
  have some_ : ¬ (outputPorts io).isEmpty = true := by
    rw [List.isEmpty_iff_length_eq_zero, distributes.ports_length]
    exact fun none_ => distributes.connected (List.length_eq_zero_iff.mp none_)
  unfold Worker.plainRun Element.opening
  dsimp only
  rw [if_neg some_]
  have start : withStarts io [] = io := by
    rw [← distributes.empty]
    rfl
  rw [start]
  unfold Worker.finish Worker.settle
  dsimp only
  rw [if_pos distributes.inner]
  rfl

/-- The packets that were sent on a port. -/
def onPort (sent : List (String × Packet T R M)) (port : String) : List (Packet T R M) :=
  (sent.filter fun entry => decide (entry.1 = port)).map Prod.snd

theorem onPort_append (first second : List (String × Packet T R M)) (port : String) :
    onPort (first ++ second) port = onPort first port ++ onPort second port := by
  simp [onPort]

/-- A packet that goes to all ports goes to each of them once. -/
theorem onPort_all {ports : List String} (distinct : ports.Nodup) {port : String}
    (isPort : port ∈ ports) (packet : Packet T R M) :
    onPort (ports.map fun port => (port, packet)) port = [packet] := by
  unfold onPort
  induction ports with
  | nil => cases isPort
  | cons first ports ih =>
      rw [List.nodup_cons] at distinct
      by_cases same : first = port
      · subst same
        have others : (ports.map fun port => (port, packet)).filter
            (fun entry => decide (entry.1 = first)) = [] := by
          rw [List.filter_eq_nil_iff]
          intro entry member
          rcases List.mem_map.mp member with ⟨other, isOther, rfl⟩
          intro isFirst
          have equal : other = first := of_decide_eq_true isFirst
          exact distinct.1 (equal ▸ isOther)
        rw [List.map_cons, List.filter_cons_of_pos (by simp), others]
        rfl
      · rw [List.map_cons, List.filter_cons_of_neg (by simpa using same)]
        exact ih distinct.2 ((List.mem_cons.mp isPort).resolve_left (Ne.symm same))

/-- How long a branch waits for its turn. -/
def waits (hands turn branch : Nat) : Nat :=
  if turn <= branch then branch - turn else branch + hands - turn

theorem succ_mod {hands : Nat} (some_ : 0 < hands) (count : Nat) :
    (count + 1) % hands = if count % hands + 1 = hands then 0 else count % hands + 1 := by
  have low := Nat.mod_lt count some_
  rw [Nat.add_mod]
  by_cases one : hands = 1
  · subst one
    simp [Nat.mod_one]
  · rw [Nat.mod_eq_of_lt (by omega : 1 < hands)]
    split
    · rename_i last
      rw [last, Nat.mod_self]
    · exact Nat.mod_eq_of_lt (by omega)

/-- Counting turns deals the packets out. -/
theorem onPort_roundRobin (distributes : Distributes io) {branch : Nat}
    (isBranch : branch < io.outputs.length) (packets : List (Packet T R M)) (count : Nat)
    (turns : forall later, later < packets.length ->
      (count + later) % 2 ^ 64 % io.outputs.length = (count + later) % io.outputs.length) :
    onPort (answersTo (fun next _ => (next + 1) % 2 ^ 64)
      (fun next packet => [(turn io next, packet)]) (count % 2 ^ 64) packets)
      io.outputs[branch] =
      Deal.hand io.outputs.length (waits io.outputs.length (count % io.outputs.length) branch)
        packets := by
  have positive : 0 < io.outputs.length := by omega
  induction packets generalizing count with
  | nil => rfl
  | cons packet packets ih =>
      have isTurn := turns 0 (by rw [List.length_cons]; omega)
      rw [Nat.add_zero] at isTurn
      have later := ih (count + 1) (by
        intro more isMore
        have now := turns (more + 1) (by rw [List.length_cons]; omega)
        have same : count + (more + 1) = count + 1 + more := by omega
        rw [same] at now
        exact now)
      have next : (count % 2 ^ 64 + 1) % 2 ^ 64 = (count + 1) % 2 ^ 64 := by
        rw [Nat.mod_add_mod]
      have low := Nat.mod_lt count positive
      have port : turn io (count % 2 ^ 64) = io.outputs[count % io.outputs.length] := by
        rw [turn, isTurn, List.getD_eq_getElem?_getD, List.getElem?_eq_getElem low]
        rfl
      rw [answersTo, next, onPort_append, later, succ_mod positive, port]
      by_cases here : count % io.outputs.length = branch
      · have now : waits io.outputs.length (count % io.outputs.length) branch = 0 := by
          unfold waits
          rw [if_pos (by omega)]
          omega
        have wait : waits io.outputs.length
            (if count % io.outputs.length + 1 = io.outputs.length then 0
              else count % io.outputs.length + 1) branch = io.outputs.length - 1 := by
          unfold waits
          split <;> split <;> omega
        rw [now, wait, Deal.hand]
        have mine : onPort [(io.outputs[count % io.outputs.length], packet)]
            io.outputs[branch] = [packet] := by
          simp [onPort, here]
        rw [mine]
        rfl
      · have other : io.outputs[count % io.outputs.length] ≠ io.outputs[branch] := fun equal =>
          here ((distributes.distinct.getElem_inj_iff).mp equal)
        have wait : waits io.outputs.length (count % io.outputs.length) branch =
            waits io.outputs.length
              (if count % io.outputs.length + 1 = io.outputs.length then 0
                else count % io.outputs.length + 1) branch + 1 := by
          unfold waits
          split <;> split <;> split <;> omega
        rw [wait, Deal.hand]
        have none_ : onPort [(io.outputs[count % io.outputs.length], packet)]
            io.outputs[branch] = [] := by
          simp [onPort, other]
        rw [none_]
        rfl

/-- Broadcast gives every packet to every branch. -/
theorem onPort_broadcast (distributes : Distributes io) {port : String}
    (isPort : port ∈ io.outputs) (next : Nat) (packets : List (Packet T R M)) :
    onPort (answersTo (fun next _ => next)
      (fun _ packet => io.outputs.map fun port => (port, packet)) next packets) port =
      packets := by
  induction packets with
  | nil => rfl
  | cons packet packets ih =>
      rw [answersTo, onPort_append, ih, onPort_all distributes.distinct isPort,
        List.singleton_append]

end Distributes

/-- A distributor takes in the whole of its stream without an error, and every
branch ends with the marker.  Broadcast has sent every packet on every branch.
Round robin has sent packet `j + n * q` as packet `q` of branch `j`, for as long
as the wrapping counter does not lose its turn. -/
theorem distributor_distributes {io : ElementIo} (distributes : Distributes io)
    (strategy : DistributionStrategy) {packets : List (Packet T R M)} (data : AllData packets)
    (turns : strategy = .roundRobin ->
      io.outputs.length ∣ 2 ^ 64 ∨ packets.length <= 2 ^ 64) :
    (Worker.plainRun io (.distributor strategy 0) (packets ++ [Packet.eos])).worker.phase =
        .returned (.ok ()) ∧
      (Worker.plainRun io (.distributor strategy 0) (packets ++ [Packet.eos])).left = [] ∧
      forall branch, (isBranch : branch < io.outputs.length) ->
        Exists fun received =>
          Distributes.onPort (Worker.plainRun io (.distributor strategy 0)
            (packets ++ [Packet.eos])).sent io.outputs[branch] = received ++ [Packet.eos] ∧
          match strategy with
          | .broadcast => received = packets
          | .roundRobin => forall turn,
              received[turn]? = packets[branch + io.outputs.length * turn]? := by
  rw [distributes.plainRun_eq]
  cases strategy with
  | broadcast =>
      rw [distributes.steady_broadcast.plain 0 data]
      refine ⟨rfl, rfl, fun branch isBranch => ⟨packets, ?_, rfl⟩⟩
      have isPort : io.outputs[branch] ∈ io.outputs := List.getElem_mem _
      dsimp only
      rw [Distributes.onPort_append, distributes.onPort_broadcast isPort, markers,
        Distributes.onPort_all distributes.distinct isPort]
  | roundRobin =>
      rw [distributes.steady_roundRobin.plain 0 data]
      refine ⟨rfl, rfl, fun branch isBranch =>
        ⟨Deal.hand io.outputs.length branch packets, ?_, ?_⟩⟩
      · have isPort : io.outputs[branch] ∈ io.outputs := List.getElem_mem _
        have keeps : forall later, later < packets.length ->
            (0 + later) % 2 ^ 64 % io.outputs.length = (0 + later) % io.outputs.length := by
          intro later isLater
          rcases turns rfl with divides | short
          · exact Nat.mod_mod_of_dvd _ divides
          · rw [Nat.mod_eq_of_lt (by omega : 0 + later < 2 ^ 64)]
        have dealt := distributes.onPort_roundRobin isBranch packets 0 keeps
        have wait : Distributes.waits io.outputs.length (0 % io.outputs.length) branch =
            branch := by
          rw [Nat.zero_mod]
          rfl
        rw [wait, Nat.zero_mod] at dealt
        dsimp only
        rw [Distributes.onPort_append, dealt, markers,
          Distributes.onPort_all distributes.distinct isPort]
      · exact Deal.getElem?_hand (by omega) branch packets

/-- Three packets over two branches. -/
theorem distributor_two_branches :
    Exists fun received =>
      Distributes.onPort (Worker.plainRun (ElementIo.built "split" ["in"] ["out0", "out1"] 1 4)
        (.distributor .roundRobin 0)
        ([Packet.tensor 7, Packet.tensor 8, Packet.tensor 9] ++
          [(Packet.eos : Packet Nat Nat Nat)])).sent "out0" = received ++ [Packet.eos] ∧
      forall turn, received[turn]? =
        ([Packet.tensor 7, Packet.tensor 8, Packet.tensor 9] : List (Packet Nat Nat Nat))[
          0 + 2 * turn]? := by
  have distributes : Distributes (ElementIo.built "split" ["in"] ["out0", "out1"] 1 4) :=
    { inner := by decide
      room := by decide
      alone := rfl
      empty := rfl
      declared := by decide
      distinct := by decide
      connected := by decide }
  have data : AllData ([Packet.tensor 7, Packet.tensor 8, Packet.tensor 9] :
      List (Packet Nat Nat Nat)) := by
    intro packet member
    simp only [List.mem_cons, List.not_mem_nil, or_false] at member
    rcases member with rfl | rfl | rfl <;> rfl
  exact (distributor_distributes distributes .roundRobin data
    fun _ => Or.inl (by decide)).2.2 0 (by decide)

end Execution
end DyunGu
