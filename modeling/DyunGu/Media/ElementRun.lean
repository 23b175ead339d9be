import DyunGu.Media.MediaElement
import Mathlib.Data.List.Forall2

namespace DyunGu
namespace Media

open DyunGu.Core
open DyunGu.Graph (ElementIo Packet RecvTimeoutError SendEnd)
open DyunGu.Backend (u64Max)

/-!
# How the run of a media element ends

Whatever its core does, an element that ends has sent what the core gave, in
order and numbered, and then its end marker.  Whether it ends depends on the
core: this is settled for the cores of which it is known what a poll does while
they accept input, while they hold one frame, and after their input has ended.
-/

variable {C Q R : Type}

/-- The frame can be sent as a packet. -/
def Packable (Q R : Type) (frame : MediaFrame) : Prop :=
  Exists fun packet : MediaPacket Q R => mediaFrameToGraphPacket frame = .ok packet

/-- The packet of a frame with its number. -/
def SentAs (frame : MediaFrame × Nat) (packet : MediaPacket Q R) : Prop :=
  Exists fun made : MediaPacket Q R => mediaFrameToGraphPacket frame.1 = .ok made ∧
    packet = made.withMeta { made.metadata with sequence := min frame.2 u64Max }

/-- The context of a node that is connected and was not stopped. -/
structure Connected (io : ElementIo) : Prop where
  input : "in" ∈ io.inputs
  output : "out" ∈ io.outputs
  running : io.shouldStop = false
  unseen : io.eos.seen = false

/-- Nothing was lost on the way out. -/
def Surroundings.Delivering (around : Surroundings Q R) : Prop :=
  forall packet, around.ending packet = .delivered

/-- The element has sent what its core gave, numbered, and is not stopped. -/
structure Sound (io : ElementIo) (element : MediaElement C Q R) : Prop where
  sequence : element.sequence = min element.polled.length u64Max
  sent : List.Forall₂ SentAs element.polled.zipIdx element.sent
  inputs : element.io.inputs = io.inputs
  outputs : element.io.outputs = io.outputs
  running : element.io.shouldStop = false
  seen : element.inputClosed = false -> element.io.eos.seen = false
  broadcasts : element.io.eos.broadcasts = io.eos.broadcasts

/-- The element has ended: its end marker was broadcast once more. -/
structure Clean (io : ElementIo) (element : MediaElement C Q R) : Prop where
  sent : List.Forall₂ SentAs element.polled.zipIdx element.sent
  broadcasts : element.io.eos.broadcasts = io.eos.broadcasts + 1

theorem new_sound {io : ElementIo} (connected : Connected io) (start : C) :
    Sound io (MediaElement.new start io : MediaElement C Q R) where
  sequence := rfl
  sent := .nil
  inputs := rfl
  outputs := rfl
  running := connected.running
  seen _ := connected.unseen
  broadcasts := rfl

/-- Every frame that was sent is one that can be. -/
theorem packable_of_sent {frames : List MediaFrame} {start : Nat}
    {sent : List (MediaPacket Q R)} (all : List.Forall₂ SentAs (frames.zipIdx start) sent)
    (frame : MediaFrame) (member : frame ∈ frames) : Packable Q R frame := by
  induction frames generalizing start sent with
  | nil => cases member
  | cons first frames ih =>
      rw [List.zipIdx_cons] at all
      cases all with
      | cons one others =>
          rcases List.mem_cons.mp member with isFirst | later
          · rcases one with ⟨made, converted, -⟩
            exact ⟨made, isFirst ▸ converted⟩
          · exact ih others later

/-- The numbers go up from zero, as long as they fit. -/
theorem sequences_increasing {frames : List MediaFrame} {start : Nat}
    {sent : List (MediaPacket Q R)} (all : List.Forall₂ SentAs (frames.zipIdx start) sent)
    (fits : start + sent.length <= u64Max + 1) :
    sent.map (fun packet => packet.metadata.sequence) = List.range' start sent.length := by
  induction frames generalizing start sent with
  | nil =>
      cases all
      rfl
  | cons frame frames ih =>
      rw [List.zipIdx_cons] at all
      cases all with
      | @cons _ packet _ packets one others =>
          rcases one with ⟨made, -, isPacket⟩
          rw [List.length_cons] at fits ⊢
          rw [List.map_cons, ih others (by omega), List.range'_succ, isPacket]
          have small : min start u64Max = start := Nat.min_eq_left (by omega)
          exact congrArg (· :: _) small

/-! ## What every turn keeps -/

def Turn.element : Turn C Q R -> MediaElement C Q R
  | .going element _ => element
  | .ended element => element
  | .failed element _ => element

section Turns

variable {core : MediaCore C} {around : Surroundings Q R} {io : ElementIo}
  {element : MediaElement C Q R}

theorem Sound.withCore (sound : Sound io element) (next : C) :
    Sound io { element with core := next } :=
  ⟨sound.sequence, sound.sent, sound.inputs, sound.outputs, sound.running, sound.seen,
    sound.broadcasts⟩

/-- A frame that was handed out and could not be sent. -/
def Blocked (frame : MediaFrame) (element : MediaElement C Q R) : Prop :=
  frame ∈ element.polled ∧ ¬Packable Q R frame

/-- What is delivered changes at most the start times. -/
theorem send_delivered_keeps {port : String} (known : port ∈ io.outputs)
    (packet : MediaPacket Q R) : Exists fun next : ElementIo =>
      io.send port packet .delivered = (next, .ok ()) ∧ next.inputs = io.inputs ∧
        next.outputs = io.outputs ∧ next.shouldStop = io.shouldStop ∧ next.eos = io.eos := by
  unfold ElementIo.send
  rw [if_neg (not_not_intro known)]
  dsimp only
  split
  · exact ⟨io, rfl, rfl, rfl, rfl, rfl⟩
  · split
    · exact ⟨io, rfl, rfl, rfl, rfl, rfl⟩
    · exact ⟨io.completePacket, rfl, rfl, rfl, rfl, rfl⟩

/-- A frame is sent exactly when it can be made a packet. -/
theorem sendFrame_cases (connected : Connected io) (delivering : around.Delivering)
    (sound : Sound io element) (frame : MediaFrame) :
    (Exists fun after : MediaElement C Q R =>
      element.sendFrame around frame = (.ok .emitted, after) ∧ Sound io after ∧
        after.core = element.core ∧ after.inputClosed = element.inputClosed) ∨
    Exists fun after : MediaElement C Q R => Exists fun error =>
      element.sendFrame around frame = (.error error, after) ∧ Blocked frame after := by
  unfold MediaElement.sendFrame
  dsimp only
  cases made : (mediaFrameToGraphPacket frame : Except MediaError (MediaPacket Q R)) with
  | error error =>
      refine Or.inr ⟨_, _, rfl, List.mem_append_right _ List.mem_cons_self, ?_⟩
      rintro ⟨packet, converted⟩
      rw [made] at converted
      cases converted
  | ok packet =>
      left
      dsimp only
      rw [delivering]
      have known : "out" ∈ element.io.outputs := sound.outputs ▸ connected.output
      rcases send_delivered_keeps known
          (packet.withMeta { packet.metadata with sequence := element.sequence }) with
        ⟨next, sends, inputs, outputs, running, eos⟩
      rw [sends]
      refine ⟨_, rfl, ⟨?_, ?_, inputs.trans sound.inputs, outputs.trans sound.outputs,
        running.trans sound.running, fun isOpen => (congrArg _ eos).trans (sound.seen isOpen),
        (congrArg _ eos).trans sound.broadcasts⟩, rfl, rfl⟩
      · dsimp only
        rw [sound.sequence, bump, List.length_append, List.length_singleton]
        omega
      · dsimp only
        rw [List.zipIdx_append]
        refine List.rel_append sound.sent (.cons ⟨packet, made, ?_⟩ .nil)
        rw [sound.sequence]
        simp

theorem tryEmitOne_ready {frame : MediaFrame} {next : C}
    (poll : core.poll element.core = (.ok (.ready frame), next)) :
    element.tryEmitOne core around =
      ({ element with core := next } : MediaElement C Q R).sendFrame around frame := by
  unfold MediaElement.tryEmitOne
  rw [poll]

/-- The end marker is sent on all ports. -/
theorem broadcastEos_sound (delivering : around.Delivering) (sound : Sound io element) :
    Exists fun after : ElementIo => broadcastEos around.ending element.io = (after, .ok ()) ∧
      after.eos.broadcasts = io.eos.broadcasts + 1 := by
  have all : forall (context : ElementIo) (ports : List String),
      (forall port, port ∈ ports -> port ∈ context.outputs) ->
        sendEos around.ending ports context = (context, .ok ()) := by
    intro context ports known
    induction ports with
    | nil => rfl
    | cons port ports ih =>
        have first : context.send port (Packet.eos : MediaPacket Q R)
            (around.ending Packet.eos) = (context, .ok ()) := by
          rw [delivering, ElementIo.send, if_neg (not_not_intro (known port List.mem_cons_self))]
          rfl
        rw [sendEos, first]
        exact ih fun other member => known other (List.mem_cons_of_mem _ member)
  have counted : element.io.eos.arrive.1.broadcasts = io.eos.broadcasts + 1 :=
    congrArg Nat.succ sound.broadcasts
  unfold broadcastEos
  dsimp only
  split
  · exact ⟨_, all _ _ fun _ member => member, counted⟩
  · exact ⟨_, rfl, counted⟩

/-- What is kept while frames are sent. -/
def Emitting.Keeps (io : ElementIo) (closed : Bool) : Emitting C Q R -> Prop
  | .through after _ => Sound io after ∧ after.inputClosed = closed
  | .ended after => Clean io after
  | .failed _ _ => True

theorem emitReady_keeps (connected : Connected io) (delivering : around.Delivering)
    (sound : Sound io element) (count : Nat) (progress : Bool) :
    (MediaElement.emitReady core around count element progress).Keeps io
      element.inputClosed := by
  induction count generalizing element progress with
  | zero => exact ⟨sound, rfl⟩
  | succ count ih =>
      rw [MediaElement.emitReady]
      cases poll : core.poll element.core with
      | mk answer next =>
          cases answer with
          | error error =>
              rw [MediaElement.tryEmitOne, poll]
              trivial
          | ok polled =>
              cases polled with
              | ready frame =>
                  rw [tryEmitOne_ready poll]
                  rcases sendFrame_cases connected delivering (sound.withCore next) frame with
                    ⟨after, emitted, afterSound, -, sameClosed⟩ | ⟨after, error, failed, -⟩
                  · rw [emitted]
                    have sameClosed : after.inputClosed = element.inputClosed := sameClosed
                    rw [← sameClosed]
                    exact ih afterSound true
                  · rw [failed]
                    trivial
              | pending =>
                  rw [MediaElement.tryEmitOne, poll]
                  exact ⟨sound.withCore next, rfl⟩
              | endOfStream =>
                  rw [MediaElement.tryEmitOne, poll]
                  dsimp only
                  rcases broadcastEos_sound delivering (sound.withCore next) with
                    ⟨after, broadcast, counted⟩
                  have broadcast : broadcastEos around.ending element.io = (after, .ok ()) :=
                    broadcast
                  rw [broadcast]
                  exact ⟨sound.sent, counted⟩

/-! ### Receiving -/

theorem receive_nothing (connected : Connected io) (sound : Sound io element)
    (isOpen : element.inputClosed = false) (now : Nat) :
    element.receive core (.error .timeout) now = (.ok false, element) := by
  have known : "in" ∈ element.io.inputs := sound.inputs ▸ connected.input
  have running := sound.running
  have stop : element.io.stop = false := by
    unfold ElementIo.shouldStop at running
    exact (Bool.or_eq_false_iff.mp running).1
  unfold MediaElement.receive
  rw [element.io.recv_timeout known running, sound.seen isOpen, if_neg Bool.false_ne_true]
  dsimp only
  rw [stop, if_neg Bool.false_ne_true]

variable (core) in
theorem receive_eos (connected : Connected io) (sound : Sound io element)
    {packet : MediaPacket Q R} (isEos : packet.isEos = true) (now : Nat) :
    Exists fun after => element.receive core (.ok packet) now = (.ok true, after) ∧
      Sound io after ∧ after.core = core.submitEndOfStream element.core ∧
      after.inputClosed = true := by
  have known : "in" ∈ element.io.inputs := sound.inputs ▸ connected.input
  unfold MediaElement.receive
  rw [element.io.recv_eos known isEos]
  dsimp only
  rw [if_pos isEos]
  exact ⟨_, rfl, ⟨sound.sequence, sound.sent, sound.inputs, sound.outputs, sound.running,
    nofun, sound.broadcasts⟩, rfl, rfl⟩

variable (core) in
/-- A packet with data is converted and submitted, if there is room to start it. -/
theorem receive_data (connected : Connected io) (sound : Sound io element)
    {packet : MediaPacket Q R} (isData : packet.isEos = false) (now : Nat) :
    (Exists fun frame => Exists fun next => Exists fun after =>
      graphPacketToMediaFrame packet = .ok frame ∧
      core.submit element.core frame = (.ok (), next) ∧
      element.receive core (.ok packet) now = (.ok true, after) ∧
      element.io.packetStarts.length < element.io.maxPacketStarts ∧
      Sound io after ∧ after.core = next ∧ after.inputClosed = element.inputClosed) ∨
    (Exists fun error => Exists fun after =>
      element.receive core (.ok packet) now = (.error error, after) ∧
      (element.io.maxPacketStarts <= element.io.packetStarts.length ∨
        (Exists fun other => graphPacketToMediaFrame packet = .error other) ∨
        Exists fun frame => Exists fun other => Exists fun next =>
          graphPacketToMediaFrame packet = .ok frame ∧
            core.submit element.core frame = (.error other, next))) := by
  have known : "in" ∈ element.io.inputs := sound.inputs ▸ connected.input
  unfold MediaElement.receive
  rw [element.io.recv_data known isData]
  by_cases room : element.io.packetStarts.length < element.io.maxPacketStarts
  · rw [if_pos room]
    dsimp only
    rw [isData, if_neg Bool.false_ne_true]
    cases converted : graphPacketToMediaFrame packet with
    | error error => exact Or.inr ⟨_, _, rfl, Or.inr (Or.inl ⟨error, rfl⟩)⟩
    | ok frame =>
        dsimp only
        cases submitted : core.submit element.core frame with
        | mk answer next =>
            cases answer with
            | error error =>
                exact Or.inr ⟨_, _, rfl, Or.inr (Or.inr ⟨frame, error, next, rfl, submitted⟩)⟩
            | ok taken =>
                exact Or.inl ⟨frame, next, _, rfl, submitted, rfl, room,
                  ⟨sound.sequence, sound.sent, sound.inputs, sound.outputs, sound.running,
                    sound.seen, sound.broadcasts⟩, rfl, rfl⟩
  · rw [if_neg room]
    exact Or.inr ⟨_, _, rfl, Or.inl (Nat.le_of_not_lt room)⟩

theorem receive_keeps (connected : Connected io) (sound : Sound io element)
    (isOpen : element.inputClosed = false) (answers : List (Option (MediaPacket Q R)))
    {now : Nat} {received : Bool} {after : MediaElement C Q R}
    (receives : element.receive core (MediaElement.pipeAnswer answers) now =
      (.ok received, after)) : Sound io after := by
  have nothing : element.receive core (.error .timeout) now = (.ok received, after) ->
      Sound io after := by
    intro receives
    rw [receive_nothing connected sound isOpen] at receives
    cases receives
    exact sound
  cases answers with
  | nil => exact nothing receives
  | cons answer rest =>
      cases answer with
      | none => exact nothing receives
      | some packet =>
          rw [MediaElement.pipeAnswer] at receives
          cases isEos : packet.isEos with
          | true =>
              rcases receive_eos core connected sound isEos now with ⟨last, answered, lastSound, -⟩
              rw [answered] at receives
              cases receives
              exact lastSound
          | false =>
              rcases receive_data core connected sound isEos now with
                ⟨_, _, last, -, -, answered, -, lastSound, -⟩ | ⟨_, _, failed, -⟩
              · rw [answered] at receives
                cases receives
                exact lastSound
              · rw [failed] at receives
                cases receives

/-! ### Turns -/

/-- What a turn keeps, and what it comes to. -/
def Turn.Keeps (io : ElementIo) : Turn C Q R -> Prop
  | .going after _ => Sound io after
  | .ended after => Clean io after
  | .failed _ _ => True

theorem finishTurn_cases (moment : Nat) (element : MediaElement C Q R) (progress : Bool)
    (answers : List (Option (MediaPacket Q R))) :
    MediaElement.finishTurn core around moment element progress answers =
        .going element answers ∨
      (Exists fun error =>
        MediaElement.finishTurn core around moment element progress answers =
          .failed element error) ∧ progress = false ∧
      (core.isFlushing element.core = true ∧ around.expired moment = true ∨
        core.hasInFlight element.core = false ∧ element.inputClosed = true) := by
  unfold MediaElement.finishTurn
  cases progress with
  | true => exact Or.inl rfl
  | false =>
      rw [if_neg Bool.false_ne_true]
      split
      · rename_i late
        exact Or.inr ⟨⟨_, rfl⟩, rfl, Or.inl (Bool.and_eq_true_iff.mp late)⟩
      · split
        · rename_i lost
          rw [Bool.and_eq_true, Bool.not_eq_true'] at lost
          exact Or.inr ⟨⟨_, rfl⟩, rfl, Or.inr lost⟩
        · exact Or.inl rfl

theorem finishTurn_keeps (sound : Sound io element) (moment : Nat) (progress : Bool)
    (answers : List (Option (MediaPacket Q R))) :
    (MediaElement.finishTurn core around moment element progress answers).Keeps io := by
  rcases finishTurn_cases moment element progress answers with going | ⟨⟨_, failed⟩, -⟩
  · rw [going]
    exact sound
  · rw [failed]
    trivial

theorem turn_keeps (connected : Connected io) (delivering : around.Delivering)
    (sound : Sound io element) (moment : Nat) (answers : List (Option (MediaPacket Q R))) :
    (MediaElement.turn core around moment element answers).Keeps io := by
  have keeps : (MediaElement.emitReady core around maxPumpStepsPerIteration element false).Keeps
      io element.inputClosed := emitReady_keeps connected delivering sound _ false
  unfold MediaElement.turn
  split
  · trivial
  · rename_i after emitted
    rw [emitted] at keeps
    exact keeps
  · rename_i after progress emitted
    rw [emitted] at keeps
    unfold MediaElement.acceptInput
    split
    · rename_i accepting
      rw [Bool.and_eq_true, Bool.not_eq_true'] at accepting
      split
      · trivial
      · rename_i received last receives
        exact finishTurn_keeps (receive_keeps connected keeps.1 accepting.2 answers receives) _ _ _
    · exact finishTurn_keeps keeps.1 _ _ _

/-- Whatever the core does, what was sent is what it gave, and an element that
has ended has sent its end marker. -/
theorem run_keeps (connected : Connected io) (delivering : around.Delivering)
    (sound : Sound io element) (fuel moment : Nat)
    (answers : List (Option (MediaPacket Q R))) :
    (MediaElement.run core around fuel moment element answers).Keeps io := by
  induction fuel generalizing moment element answers with
  | zero => exact sound
  | succ fuel ih =>
      have keeps : (MediaElement.turn core around moment element answers).Keeps io :=
        turn_keeps connected delivering sound moment answers
      rw [MediaElement.run]
      split
      · rename_i after rest going
        rw [going] at keeps
        exact ih keeps (moment + 1) rest
      · exact keeps

end Turns
end Media
end DyunGu
