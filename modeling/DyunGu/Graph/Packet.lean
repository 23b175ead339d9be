import Mathlib.Data.List.Basic

namespace DyunGu
namespace Graph

/-!
# Packets

A packet carries its metadata and one payload.  Tensors, structured results
and media descriptions are never inspected by the graph engine, so their
types stay parameters.  The engine's own decisions depend on a single bit of
a packet: whether it is the end-of-stream marker.
-/

/-- Metadata that travels with a packet through every element. -/
structure PacketMeta (M : Type) where
  sequence : Nat
  streamId : Option String
  tags : List (String × String)
  mediaInfo : Option M
deriving DecidableEq, Repr

/-- The metadata of a packet built without any, `PacketMeta::default()`. -/
def PacketMeta.empty (M : Type) : PacketMeta M where
  sequence := 0
  streamId := none
  tags := []
  mediaInfo := none

inductive PacketPayload (T R : Type) where
  | tensor (value : T)
  | detections (values : List R)
  | classifications (values : List R)
  | faces (values : List R)
  | tracks (values : List R)
  | ocr (values : List R)
  | endOfStream
deriving DecidableEq, Repr

structure Packet (T R M : Type) where
  metadata : PacketMeta M
  payload : PacketPayload T R
deriving DecidableEq, Repr

namespace Packet

variable {T R M : Type}

def tensor (value : T) : Packet T R M :=
  ⟨PacketMeta.empty M, .tensor value⟩

def eos : Packet T R M :=
  ⟨PacketMeta.empty M, .endOfStream⟩

def isEos (packet : Packet T R M) : Bool :=
  match packet.payload with
  | .endOfStream => true
  | _ => false

def tensorRef (packet : Packet T R M) : Option T :=
  match packet.payload with
  | .tensor value => some value
  | _ => none

def withMeta (packet : Packet T R M) (metadata : PacketMeta M) :
    Packet T R M :=
  { packet with metadata := metadata }

@[simp] theorem isEos_eos : (eos : Packet T R M).isEos = true := rfl

@[simp] theorem isEos_tensor (value : T) :
    (tensor value : Packet T R M).isEos = false := rfl

@[simp] theorem isEos_withMeta (packet : Packet T R M)
    (metadata : PacketMeta M) : (packet.withMeta metadata).isEos = packet.isEos := rfl

end Packet

/-- A finite stream of data packets, none of which is the end marker.  What
an upstream sends on an edge is such a stream followed by one end marker. -/
def AllData {T R M : Type}
    (packets : List (Packet T R M)) : Prop :=
  forall packet, packet ∈ packets -> packet.isEos = false

end Graph
end DyunGu
