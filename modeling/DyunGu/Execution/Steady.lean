import DyunGu.Execution.Loops
import DyunGu.Lib.Deal

namespace DyunGu
namespace Execution

open DyunGu.Graph
open DyunGu.Elements (FilterMode withStarts)

variable {T R M : Type}

/-!
# Elements that send something for every packet

A filter that passes, a distributor and an inference element answer each data
packet with at least one send.  Their start queue never holds more than the
packet at hand, and their plain run over a stream of data packets and an end
marker sends the answers in order and then the markers.
-/

def sendOps (sends : List (String × Packet T R M)) : List (Op T R M) :=
  sends.map fun entry => .send entry.1 entry.2

/-- The markers that the only instance of a node sends. -/
def markers (io : ElementIo) : List (String × Packet T R M) :=
  io.outputs.map fun port => (port, Packet.eos)

/-- A loop with some state that is worked off in this way. -/
structure Steady {State : Type} (io : ElementIo) (element : State -> Element T R M)
    (next : State -> Packet T R M -> State)
    (out : State -> Packet T R M -> List (String × Packet T R M)) : Prop where
  inner : "in" ∈ io.inputs
  room : 0 < io.maxPacketStarts
  alone : io.eos = EosState.fresh 1
  handles : forall state packet starts, packet.isEos = false ->
    (element state).handle (withStarts io starts) packet =
      ⟨element (next state packet), sendOps (out state packet), none⟩
  ends : forall state other, (element state).ending other =
    ⟨element state, broadcastEos other, some (.ok ())⟩
  answers : forall state packet, packet.isEos = false -> out state packet ≠ []
  known : forall state packet entry, entry ∈ out state packet -> packet.isEos = false ->
    entry.1 ∈ io.outputs ∧ entry.2.isEos = false

/-- All that a steady loop sends for these packets. -/
def answersTo {State : Type} (next : State -> Packet T R M -> State)
    (out : State -> Packet T R M -> List (String × Packet T R M)) :
    State -> List (Packet T R M) -> List (String × Packet T R M)
  | _, [] => []
  | state, packet :: packets => out state packet ++ answersTo next out (next state packet) packets

/-! ## Working off sends -/

/-- Data packets that go to known ports are sent, each of them completing a
packet. -/
theorem finish_data {io : ElementIo} (inner : io.inputs ≠ []) (element : Element T R M)
    (phase : Phase T R M) (result : Option (Except Error Unit))
    (sends : List (String × Packet T R M)) (starts : List Nat)
    (known : forall entry, entry ∈ sends -> entry.1 ∈ io.outputs ∧ entry.2.isEos = false) :
    Worker.finish ⟨withStarts io starts, element, phase⟩ result (sendOps sends) =
      (Worker.settle ⟨withStarts io (starts.drop sends.length), element, phase⟩ result,
        sends) := by
  induction sends generalizing starts with
  | nil => rfl
  | cons entry sends ih =>
      rcases entry with ⟨port, packet⟩
      rcases known (port, packet) List.mem_cons_self with ⟨isPort, data⟩
      have sent : Worker.completed ⟨withStarts io starts, element, phase⟩ port packet =
          ⟨withStarts io starts.tail, element, phase⟩ := by
        unfold Worker.completed
        rw [ElementIo.send_delivered (withStarts io starts) isPort inner data]
        rfl
      have later := ih starts.tail fun other member => known other (List.mem_cons_of_mem _ member)
      have isKnown : port ∈ (withStarts io starts).outputs := isPort
      change Worker.finish _ _ (.send port packet :: sendOps sends) = _
      unfold Worker.finish
      dsimp only
      rw [if_pos isKnown, sent, later, List.length_cons, ← List.drop_one, List.drop_drop,
        Nat.add_comm]

/-- The markers go to ports that are there, and complete nothing. -/
theorem finish_markers (worker : Worker T R M) (result : Option (Except Error Unit))
    (ports : List String) (known : forall port, port ∈ ports -> port ∈ worker.io.outputs) :
    worker.finish result (ports.map fun port => .send port Packet.eos) =
      (worker.settle result, ports.map fun port => (port, Packet.eos)) := by
  induction ports with
  | nil => rfl
  | cons port ports ih =>
      have isPort := known port List.mem_cons_self
      have kept : worker.completed port Packet.eos = worker := by
        unfold Worker.completed ElementIo.send
        rw [if_neg (not_not.mpr isPort)]
        rfl
      rw [List.map_cons, Worker.finish, if_pos isPort, kept,
        ih fun other member => known other (List.mem_cons_of_mem _ member)]
      rfl

/-- The only instance of a node sends a marker on every port. -/
theorem finish_broadcast (worker : Worker T R M) (result : Except Error Unit)
    (last : worker.io.eos.arrive.2 = true) :
    worker.finish (some result) (broadcastEos worker.io) =
      ({ worker.arrived with phase := .returned result }, markers worker.io) := by
  unfold broadcastEos Worker.finish
  rw [if_pos last]
  exact finish_markers worker.arrived (some result) worker.io.outputs fun _ member => member

/-! ## The plain run -/

/-- The context once the loop has returned. -/
def ended (io : ElementIo) : ElementIo :=
  { io with eos := { seen := true, broadcasts := 1, instances := 1 }, packetStarts := [] }

/-- A steady loop answers every packet of its stream, and then ends. -/
theorem Steady.plain {State : Type} {io : ElementIo} {element : State -> Element T R M}
    {next : State -> Packet T R M -> State}
    {out : State -> Packet T R M -> List (String × Packet T R M)}
    (steady : Steady io element next out) (state : State) {packets : List (Packet T R M)}
    (data : AllData packets) :
    Worker.plain ⟨withStarts io [], element state, .receiving⟩ (packets ++ [Packet.eos]) =
      ⟨⟨ended io, element (packets.foldl next state), .returned (.ok ())⟩,
        answersTo next out state packets ++ markers io, []⟩ := by
  have inner : io.inputs ≠ [] := fun none_ => by
    have impossible := steady.inner
    rw [none_] at impossible
    cases impossible
  induction packets generalizing state with
  | nil =>
      have taken : Worker.take ⟨withStarts io [], element state, .receiving⟩
          (Packet.eos : Packet T R M) =
          (⟨ended io, element state, .returned (.ok ())⟩, markers io) := by
        unfold Worker.take
        rw [ElementIo.recv_eos (withStarts io []) steady.inner Packet.isEos_eos 0]
        dsimp only
        rw [Element.react, if_pos Packet.isEos_eos, steady.ends]
        dsimp only
        rw [finish_broadcast]
        · unfold Worker.arrived ended withStarts
          simp [steady.alone, EosState.arrive, EosState.fresh, markers]
        · simp [withStarts, steady.alone, EosState.arrive, EosState.fresh]
      rw [List.nil_append, Worker.plain]
      dsimp only
      rw [taken]
      simp only [Worker.plain, answersTo, List.append_nil, List.nil_append, List.foldl_nil]
  | cons packet packets ih =>
      have isData := data packet List.mem_cons_self
      have taken : Worker.take ⟨withStarts io [], element state, .receiving⟩ packet =
          (⟨withStarts io [], element (next state packet), .receiving⟩, out state packet) := by
        unfold Worker.take
        rw [ElementIo.recv_data (withStarts io []) steady.inner isData 0]
        have room : (withStarts io []).packetStarts.length <
            (withStarts io []).maxPacketStarts := steady.room
        rw [if_pos room]
        dsimp only
        rw [Element.react, if_neg (Bool.eq_false_iff.mp isData),
          Elements.withStarts_startPacket, List.nil_append, steady.handles _ _ _ isData]
        dsimp only
        rw [finish_data inner _ _ _ _ _ fun entry member => steady.known _ _ entry member isData]
        have all : List.drop (out state packet).length [0] = [] := by
          apply List.drop_eq_nil_of_le
          rw [List.length_singleton]
          exact List.length_pos_of_ne_nil (steady.answers state packet isData)
        have known : "in" ∈ (withStarts io []).inputs := steady.inner
        unfold Worker.settle
        rw [all]
        dsimp only
        rw [if_pos known]
      rw [List.cons_append, Worker.plain]
      dsimp only
      rw [taken]
      dsimp only
      rw [ih (next state packet) fun other member => data other (List.mem_cons_of_mem _ member)]
      simp only [answersTo, List.append_assoc, List.foldl_cons]

end Execution
end DyunGu
