import DyunGu.Graph.HotUpdate
import DyunGu.Graph.Packet
import DyunGu.Lib.Indexed
import DyunGu.Lib.Machine
import Mathlib.Data.List.Infix

namespace DyunGu
namespace Graph
namespace RouteSwitch

variable {T R M : Type} {k : Nat}

/-!
# One edge during a hot update

An update that affects the consumer of an edge gives it a new pipe.  The
senders are switched and the new consumers are spawned before the old pipe is
drained into the new one, so the upstream, the drainer and the new consumers
work at the same time, and a packet that is sent after the switch may reach
the new pipe before one that was sent earlier.

A send reads the table of senders once, at its beginning, and keeps the
sender it found there until it returns.  Every access to a pipe or to the
table is a step of its own.  Steps in which an element or the update itself
fails are absent, so the runs of the machine are those of updates that
succeed.
-/

/-- What an update does to one edge that it keeps: whether its consumer is
affected, so that the pipe is replaced, and whether its upstream is. -/
structure Edge where
  replaced : Bool
  upstreamJoined : Bool
  oldCapacity : Option Nat
  newCapacity : Option Nat

inductive Side where
  | old
  | new
deriving DecidableEq

/-- An instance of the upstream outside a send, before it has placed the
packet on this edge, and after that. -/
inductive Point (T R M : Type) where
  | idle
  | sending (side : Side) (packet : Packet T R M)
  | placed (side : Side)

/-- How far the update has come. -/
inductive Phase where
  | running
  | quiescing
  | switched
  | draining
  | drained
  | done
deriving DecidableEq

/-- Both pipes, the packet that the drainer carries from one to the other,
and what was sent and received on the edge so far. -/
structure State (k : Nat) (T R M : Type) where
  phase : Phase
  upstreamLive : Bool
  consumerLive : Bool
  point : Fin k -> Point T R M
  old : List (Packet T R M)
  new : List (Packet T R M)
  hand : Option (Packet T R M)
  sent : List (Packet T R M)
  received : List (Packet T R M)

inductive Label (k : Nat) (T R M : Type) where
  | send (i : Fin k) (packet : Packet T R M)
  | place (i : Fin k)
  | release (i : Fin k)
  | abort (i : Fin k)
  | take
  | quiesce
  | joinUpstream
  | joinConsumer
  | switch
  | spawnUpstream
  | spawnConsumer
  | drainRoute
  | drainTake
  | drainPut
  | drainEnd
  | finish

def Point.isIdle : Point T R M -> Bool
  | .idle => true
  | .sending _ _ | .placed _ => false

/-- Whether the instance has a sender of this pipe. -/
def Point.holds (side : Side) : Point T R M -> Bool
  | .idle => false
  | .sending other _ | .placed other => decide (other = side)

/-- Whether the tables hold the routes of the candidate. -/
def Phase.isSwitched : Phase -> Bool
  | .running | .quiescing => false
  | .switched | .draining | .drained | .done => true

def hasRoom (capacity : Option Nat) (depth : Nat) : Bool :=
  match capacity with
  | none => true
  | some bound => decide (depth < bound)

/-- The pipe of the edge in the tables. -/
def routed (edge : Edge) (state : State k T R M) : Side :=
  if edge.replaced && state.phase.isSwitched then .new else .old

/-- The stop flag of the upstream is raised, and its workers are not joined. -/
def upstreamStops (edge : Edge) (state : State k T R M) : Bool :=
  edge.upstreamJoined && decide (state.phase = .quiescing)

/-- All affected nodes have their new workers. -/
def allSpawned (state : State k T R M) : Bool :=
  state.upstreamLive && state.consumerLive

/-- When the drainer finds the old pipe empty, it stops if the upstream was
joined, and else only if no sender of the pipe is left. -/
def drainStops (edge : Edge) (state : State k T R M) : Bool :=
  edge.upstreamJoined || decide (forall i, (state.point i).holds .old = false)

def step (edge : Edge) (state : State k T R M) : Label k T R M -> Option (State k T R M)
  | .send i packet =>
      if state.upstreamLive && (state.point i).isIdle then
        some { state with
          point := Function.update state.point i (.sending (routed edge state) packet) }
      else none
  | .place i =>
      match state.point i with
      | .sending .old packet =>
          if hasRoom edge.oldCapacity state.old.length then
            some { state with
              point := Function.update state.point i (.placed .old)
              old := state.old ++ [packet]
              sent := state.sent ++ [packet] }
          else none
      | .sending .new packet =>
          if hasRoom edge.newCapacity state.new.length then
            some { state with
              point := Function.update state.point i (.placed .new)
              new := state.new ++ [packet]
              sent := state.sent ++ [packet] }
          else none
      | .idle | .placed _ => none
  | .release i =>
      match state.point i with
      | .placed _ => some { state with point := Function.update state.point i .idle }
      | .idle | .sending _ _ => none
  | .abort i =>
      if upstreamStops edge state then
        some { state with point := Function.update state.point i .idle }
      else none
  | .take =>
      if state.consumerLive then
        match routed edge state, state.old, state.new with
        | .old, packet :: rest, _ =>
            some { state with old := rest, received := state.received ++ [packet] }
        | .new, _, packet :: rest =>
            some { state with new := rest, received := state.received ++ [packet] }
        | _, _, _ => none
      else none
  | .quiesce =>
      if state.phase = .running then some { state with phase := .quiescing } else none
  | .joinUpstream =>
      if upstreamStops edge state && decide (forall i, (state.point i).isIdle = true) then
        some { state with upstreamLive := false }
      else none
  | .joinConsumer =>
      if edge.replaced && decide (state.phase = .quiescing) then
        some { state with consumerLive := false }
      else none
  | .switch =>
      if decide (state.phase = .quiescing) && (!edge.upstreamJoined || !state.upstreamLive) &&
          (!edge.replaced || !state.consumerLive) then
        some { state with phase := .switched }
      else none
  | .spawnUpstream =>
      if edge.upstreamJoined && decide (state.phase = .switched) then
        some { state with upstreamLive := true }
      else none
  | .spawnConsumer =>
      if edge.replaced && decide (state.phase = .switched) then
        some { state with consumerLive := true }
      else none
  | .drainRoute =>
      if edge.replaced && decide (state.phase = .switched) && allSpawned state then
        some { state with phase := .draining }
      else none
  | .drainTake =>
      match state.phase, state.hand, state.old with
      | .draining, none, packet :: rest =>
          some { state with hand := some packet, old := rest }
      | _, _, _ => none
  | .drainPut =>
      match state.phase, state.hand with
      | .draining, some packet =>
          if hasRoom edge.newCapacity state.new.length then
            some { state with
              phase := if packet.isEos then .drained else .draining
              hand := none
              new := state.new ++ [packet] }
          else none
      | _, _ => none
  | .drainEnd =>
      match state.phase, state.hand, state.old with
      | .draining, none, [] =>
          if drainStops edge state then some { state with phase := .drained } else none
      | _, _, _ => none
  | .finish =>
      if state.phase = .drained ∨
          (edge.replaced = false ∧ state.phase = .switched ∧ allSpawned state = true) then
        some { state with phase := .done }
      else none

/-- The updates of an edge whose upstream has at most `k` instances. -/
def update (edge : Edge) : Machine (State k T R M) (Label k T R M) where
  step := step edge

/-! ## What is to hold -/

/-- Nothing follows an end marker. -/
def EosLast (packets : List (Packet T R M)) : Prop :=
  forall before packet after, packets = before ++ packet :: after -> packet.isEos = true ->
    after = []

/-- The packets arrive in the order in which they were sent, each of them
once.  When the update has returned, all that were not received yet wait in
the pipe that the consumer reads. -/
structure Delivered (edge : Edge) (state : State k T R M) : Prop where
  order : state.received <+: state.sent
  complete : state.phase = .done ->
    state.sent = state.received ++
      match routed edge state with
      | .old => state.old
      | .new => state.new
  last : EosLast state.received

/-- An edge of a running graph before an update begins. -/
structure Steady (state : State k T R M) : Prop where
  phase : state.phase = .running
  upstreamLive : state.upstreamLive = true
  consumerLive : state.consumerLive = true
  senders : forall i, (state.point i).holds .new = false
  new : state.new = []
  hand : state.hand = none
  flow : state.sent = state.received ++ state.old
  last : EosLast state.sent

/-- Nothing is sent after an end marker, and nothing is sent into the new pipe
before the drainer has emptied the old one. -/
def Orderly (state : State k T R M) : Label k T R M -> Prop
  | .place i =>
      AllData state.sent ∧
        ((state.point i).holds .new = true -> state.old = [] ∧ state.hand = none)
  | _ => True

instance (state : State k T R M) (label : Label k T R M) : Decidable (Orderly state label) :=
  match label with
  | .place i =>
      inferInstanceAs (Decidable ((forall packet, packet ∈ state.sent -> packet.isEos = false) ∧
        ((state.point i).holds .new = true -> state.old = [] ∧ state.hand = none)))
  | .send _ _ | .release _ | .abort _ | .take | .quiesce | .joinUpstream | .joinConsumer
  | .switch | .spawnUpstream | .spawnConsumer | .drainRoute | .drainTake | .drainPut
  | .drainEnd | .finish => isTrue trivial

/-! ## The invariant -/

/-- What has been received, followed by what is still on its way in the order
in which it arrives, is what was sent. -/
structure Ordered (edge : Edge) (state : State k T R M) : Prop where
  flow : state.sent = state.received ++ (state.new ++ (state.hand.toList ++ state.old))
  last : EosLast state.sent
  unswitched : routed edge state = .old -> state.new = [] ∧ state.hand = none ∧
    forall i, (state.point i).holds .new = false
  draining : state.phase = .draining -> edge.replaced = true
  carried : state.phase ≠ .draining -> state.hand = none
  joined : edge.upstreamJoined = true -> state.phase.isSwitched = true -> edge.replaced = true ->
    forall i, (state.point i).holds .old = false
  stopped : edge.upstreamJoined = true -> state.upstreamLive = false ->
    forall i, (state.point i).isIdle = true
  drained : edge.replaced = true -> state.phase = .drained ∨ state.phase = .done ->
    state.old = [] ∧ ((forall i, (state.point i).holds .old = false) ∨ ¬ AllData state.sent)

/-- Only the drainer carries a packet. -/
private theorem Ordered.empty_hand {edge : Edge} {state : State k T R M}
    (ordered : Ordered edge state) {phase : Phase} (isPhase : state.phase = phase)
    (other : phase ≠ .draining) : state.hand = none := by
  apply ordered.carried
  rw [isPhase]
  exact other

private theorem holds_update {point : Fin k -> Point T R M} {side : Side} (i : Fin k)
    {next : Point T R M} (others : forall j, (point j).holds side = false)
    (here : next.holds side = false) :
    forall j, (Function.update point i next j).holds side = false := by
  intro j
  by_cases same : j = i
  · rw [same, Function.update_self]
    exact here
  · rw [Function.update_of_ne same]
    exact others j

private theorem eosLast_snoc {packets : List (Packet T R M)} (data : AllData packets)
    (packet : Packet T R M) : EosLast (packets ++ [packet]) := by
  intro before marker after split isEos
  rcases List.append_eq_append_iff.mp split with ⟨rest, isBefore, isEnd⟩ | ⟨rest, isPackets, isEnd⟩
  · cases rest with
    | nil =>
        rw [List.nil_append] at isEnd
        exact (List.cons.inj isEnd).2.symm
    | cons first rest =>
        have impossible := (List.cons.inj isEnd).2
        cases rest <;> cases impossible
  · cases rest with
    | nil =>
        rw [List.nil_append] at isEnd
        exact (List.cons.inj isEnd).2
    | cons first rest =>
        have isFirst := (List.cons.inj isEnd).1
        have inPackets : marker ∈ packets := by
          rw [isPackets, isFirst]
          exact List.mem_append_right _ List.mem_cons_self
        rw [data marker inPackets] at isEos
        cases isEos

private theorem EosLast.left {packets rest : List (Packet T R M)}
    (last : EosLast (packets ++ rest)) : EosLast packets := by
  intro before marker after split isEos
  have whole : packets ++ rest = before ++ marker :: (after ++ rest) := by
    rw [split, List.append_assoc, List.cons_append]
  exact List.append_eq_nil_iff.mp (last before marker (after ++ rest) whole isEos) |>.1

theorem ordered_of_steady (edge : Edge) {state : State k T R M} (steady : Steady state) :
    Ordered edge state where
  flow := by
    rw [steady.new, steady.hand]
    exact steady.flow
  last := steady.last
  unswitched := fun _ => ⟨steady.new, steady.hand, steady.senders⟩
  draining := fun draining => by
    rw [steady.phase] at draining
    cases draining
  carried := fun _ => steady.hand
  joined := fun _ switched => by
    rw [steady.phase] at switched
    cases switched
  stopped := fun _ dead => by
    rw [steady.upstreamLive] at dead
    cases dead
  drained := fun _ late => by
    rw [steady.phase] at late
    rcases late with impossible | impossible
    · cases impossible
    · cases impossible

/-! ## The upstream and the consumer -/

private theorem routed_eq_new {edge : Edge} {state : State k T R M}
    (replaced : edge.replaced = true) (switched : state.phase.isSwitched = true) :
    routed edge state = .new := by
  rw [routed, replaced, switched]
  rfl

/-- An instance of the upstream begins a send, or ends one. -/
private theorem ordered_point {edge : Edge} {state : State k T R M}
    (ordered : Ordered edge state) (i : Fin k) {next : Point T R M}
    (unswitched : routed edge state = .old -> next.holds .new = false)
    (switched : routed edge state = .new -> next.holds .old = false)
    (live : state.upstreamLive = true ∨ next.isIdle = true) :
    Ordered edge { state with point := Function.update state.point i next } where
  flow := ordered.flow
  last := ordered.last
  unswitched := by
    intro isOld
    rcases ordered.unswitched isOld with ⟨new, hand, senders⟩
    exact ⟨new, hand, holds_update i senders (unswitched isOld)⟩
  draining := ordered.draining
  carried := ordered.carried
  joined := by
    intro upstream isSwitched replaced
    exact holds_update i (ordered.joined upstream isSwitched replaced)
      (switched (routed_eq_new replaced isSwitched))
  stopped := by
    intro upstream dead j
    rcases live with alive | isIdle
    · rw [show state.upstreamLive = false from dead] at alive
      cases alive
    · by_cases same : j = i
      · change (Function.update state.point i next j).isIdle = true
        rw [same, Function.update_self]
        exact isIdle
      · change (Function.update state.point i next j).isIdle = true
        rw [Function.update_of_ne same]
        exact ordered.stopped upstream dead j
  drained := by
    intro replaced late
    have isSwitched : state.phase.isSwitched = true := by
      rcases late with late | late
      · rw [show state.phase = .drained from late]
        rfl
      · rw [show state.phase = .done from late]
        rfl
    rcases ordered.drained replaced late with ⟨old, nobody | ended⟩
    · exact ⟨old, Or.inl (holds_update i nobody
        (switched (routed_eq_new replaced isSwitched)))⟩
    · exact ⟨old, Or.inr ended⟩

/-- A packet is placed on the old pipe. -/
private theorem ordered_place_old {edge : Edge} {state : State k T R M}
    (ordered : Ordered edge state) {i : Fin k} {packet : Packet T R M}
    (sending : state.point i = .sending .old packet) (data : AllData state.sent) :
    Ordered edge { state with
      point := Function.update state.point i (.placed .old)
      old := state.old ++ [packet]
      sent := state.sent ++ [packet] } where
  flow := by
    change state.sent ++ [packet] =
      state.received ++ (state.new ++ (state.hand.toList ++ (state.old ++ [packet])))
    rw [ordered.flow]
    simp only [List.append_assoc]
  last := eosLast_snoc data packet
  unswitched := by
    intro isOld
    rcases ordered.unswitched isOld with ⟨new, hand, senders⟩
    exact ⟨new, hand, holds_update i senders rfl⟩
  draining := ordered.draining
  carried := ordered.carried
  joined := by
    intro upstream isSwitched replaced
    have free := ordered.joined upstream isSwitched replaced i
    rw [sending] at free
    cases free
  stopped := by
    intro upstream dead
    have idle := ordered.stopped upstream dead i
    rw [sending] at idle
    cases idle
  drained := by
    intro replaced late
    rcases ordered.drained replaced late with ⟨_, nobody | ended⟩
    · have free := nobody i
      rw [sending] at free
      cases free
    · exact absurd data ended

/-- A packet is placed on the new pipe, behind all that was sent before. -/
private theorem ordered_place_new {edge : Edge} {state : State k T R M}
    (ordered : Ordered edge state) {i : Fin k} {packet : Packet T R M}
    (sending : state.point i = .sending .new packet) (data : AllData state.sent)
    (old : state.old = []) (hand : state.hand = none) :
    Ordered edge { state with
      point := Function.update state.point i (.placed .new)
      new := state.new ++ [packet]
      sent := state.sent ++ [packet] } where
  flow := by
    have flow := ordered.flow
    rw [old, hand, Option.toList_none, List.nil_append, List.append_nil] at flow
    change state.sent ++ [packet] =
      state.received ++ (state.new ++ [packet] ++ (state.hand.toList ++ state.old))
    rw [old, hand, Option.toList_none, List.nil_append, List.append_nil, flow, List.append_assoc]
  last := eosLast_snoc data packet
  unswitched := by
    intro isOld
    have free := (ordered.unswitched isOld).2.2 i
    rw [sending] at free
    cases free
  draining := ordered.draining
  carried := ordered.carried
  joined := by
    intro upstream isSwitched replaced
    exact holds_update i (ordered.joined upstream isSwitched replaced) rfl
  stopped := by
    intro upstream dead
    have idle := ordered.stopped upstream dead i
    rw [sending] at idle
    cases idle
  drained := by
    intro replaced late
    rcases ordered.drained replaced late with ⟨_, nobody | ended⟩
    · exact ⟨old, Or.inl (holds_update i nobody rfl)⟩
    · exact absurd data ended

/-- The consumer takes a packet from the pipe in the tables. -/
private theorem ordered_take_old {edge : Edge} {state : State k T R M}
    (ordered : Ordered edge state) (isOld : routed edge state = .old) {packet : Packet T R M}
    {rest : List (Packet T R M)} (first : state.old = packet :: rest) :
    Ordered edge { state with old := rest, received := state.received ++ [packet] } where
  flow := by
    rcases ordered.unswitched isOld with ⟨new, hand, _⟩
    have flow := ordered.flow
    rw [new, hand, first] at flow
    change state.sent = state.received ++ [packet] ++ (state.new ++ (state.hand.toList ++ rest))
    rw [flow, new, hand, List.append_assoc]
    rfl
  last := ordered.last
  unswitched := ordered.unswitched
  draining := ordered.draining
  carried := ordered.carried
  joined := ordered.joined
  stopped := ordered.stopped
  drained := by
    intro replaced late
    have empty := (ordered.drained replaced late).1
    rw [first] at empty
    cases empty

private theorem ordered_take_new {edge : Edge} {state : State k T R M}
    (ordered : Ordered edge state) (isNew : routed edge state = .new) {packet : Packet T R M}
    {rest : List (Packet T R M)} (first : state.new = packet :: rest) :
    Ordered edge { state with new := rest, received := state.received ++ [packet] } where
  flow := by
    have flow := ordered.flow
    rw [first] at flow
    change state.sent = state.received ++ [packet] ++ (rest ++ (state.hand.toList ++ state.old))
    rw [flow, List.append_assoc]
    rfl
  last := ordered.last
  unswitched := by
    intro isOld
    change routed edge state = .old at isOld
    rw [isNew] at isOld
    cases isOld
  draining := ordered.draining
  carried := ordered.carried
  joined := ordered.joined
  stopped := ordered.stopped
  drained := ordered.drained

/-! ## The update -/

/-- A join or a spawn. -/
private theorem ordered_workers {edge : Edge} {state : State k T R M}
    (ordered : Ordered edge state) (upstreamLive consumerLive : Bool)
    (stopped : edge.upstreamJoined = true -> upstreamLive = false ->
      forall i, (state.point i).isIdle = true) :
    Ordered edge { state with upstreamLive := upstreamLive, consumerLive := consumerLive } where
  flow := ordered.flow
  last := ordered.last
  unswitched := ordered.unswitched
  draining := ordered.draining
  carried := ordered.carried
  joined := ordered.joined
  stopped := stopped
  drained := ordered.drained

private theorem idle_holds {point : Point T R M} (idle : point.isIdle = true) (side : Side) :
    point.holds side = false := by
  cases point with
  | idle => rfl
  | sending _ _ => cases idle
  | placed _ => cases idle

private theorem ordered_quiesce {edge : Edge} {state : State k T R M}
    (ordered : Ordered edge state) (running : state.phase = .running) :
    Ordered edge { state with phase := .quiescing } where
  flow := ordered.flow
  last := ordered.last
  unswitched := by
    intro _
    apply ordered.unswitched
    rw [routed, running, Phase.isSwitched, Bool.and_false]
    rfl
  draining := fun impossible => by cases impossible
  carried := fun _ => ordered.empty_hand running Phase.noConfusion
  joined := fun _ impossible => by cases impossible
  stopped := ordered.stopped
  drained := by
    intro _ late
    rcases late with impossible | impossible
    · cases impossible
    · cases impossible

/-- The new sender enters the table when the upstream is joined, or while it
goes on sending. -/
private theorem ordered_switch {edge : Edge} {state : State k T R M}
    (ordered : Ordered edge state) (quiescing : state.phase = .quiescing)
    (joined : edge.upstreamJoined = true -> state.upstreamLive = false) :
    Ordered edge { state with phase := .switched } where
  flow := ordered.flow
  last := ordered.last
  unswitched := by
    intro _
    apply ordered.unswitched
    rw [routed, quiescing, Phase.isSwitched, Bool.and_false]
    rfl
  draining := fun impossible => by cases impossible
  carried := fun _ => ordered.empty_hand quiescing Phase.noConfusion
  joined := by
    intro upstream _ _ i
    exact idle_holds (ordered.stopped upstream (joined upstream) i) .old
  stopped := ordered.stopped
  drained := by
    intro _ late
    rcases late with impossible | impossible
    · cases impossible
    · cases impossible

/-- A phase after the switch follows another one. -/
private theorem ordered_later {edge : Edge} {state : State k T R M}
    (ordered : Ordered edge state) {phase : Phase} (before : state.phase.isSwitched = true)
    (after : phase.isSwitched = true) (hand : state.hand = none)
    (draining : phase = .draining -> edge.replaced = true)
    (drained : edge.replaced = true -> phase = .drained ∨ phase = .done ->
      state.old = [] ∧ ((forall i, (state.point i).holds .old = false) ∨ ¬ AllData state.sent)) :
    Ordered edge { state with phase := phase } where
  flow := ordered.flow
  last := ordered.last
  unswitched := by
    intro isOld
    change (if edge.replaced && phase.isSwitched then Side.new else .old) = .old at isOld
    rw [after] at isOld
    apply ordered.unswitched
    rw [routed, before]
    exact isOld
  draining := draining
  carried := fun _ => hand
  joined := fun upstream _ => ordered.joined upstream before
  stopped := ordered.stopped
  drained := drained

private theorem ordered_drainTake {edge : Edge} {state : State k T R M}
    (ordered : Ordered edge state) (draining : state.phase = .draining) (hand : state.hand = none)
    {packet : Packet T R M} {rest : List (Packet T R M)} (first : state.old = packet :: rest) :
    Ordered edge { state with hand := some packet, old := rest } where
  flow := by
    have flow := ordered.flow
    rw [hand, first] at flow
    exact flow
  last := ordered.last
  unswitched := by
    intro isOld
    have isNew : routed edge state = .new :=
      routed_eq_new (ordered.draining draining) (by rw [draining]; rfl)
    change routed edge state = .old at isOld
    rw [isNew] at isOld
    cases isOld
  draining := ordered.draining
  carried := fun other => absurd draining other
  joined := ordered.joined
  stopped := ordered.stopped
  drained := by
    intro _ late
    change state.phase = .drained ∨ state.phase = .done at late
    rw [draining] at late
    rcases late with impossible | impossible
    · cases impossible
    · cases impossible

/-- The drainer places its packet.  Behind an end marker the old pipe has
nothing left. -/
private theorem ordered_drainPut {edge : Edge} {state : State k T R M}
    (ordered : Ordered edge state) (draining : state.phase = .draining)
    {packet : Packet T R M} (hand : state.hand = some packet) :
    Ordered edge { state with
      phase := if packet.isEos then .drained else .draining
      hand := none
      new := state.new ++ [packet] } := by
  have replaced := ordered.draining draining
  have flow := ordered.flow
  rw [hand] at flow
  have switched : (if packet.isEos then Phase.drained else Phase.draining).isSwitched = true := by
    split <;> rfl
  exact
    { flow := by
        change state.sent = state.received ++ (state.new ++ [packet] ++ ([] ++ state.old))
        rw [flow, List.append_assoc]
        rfl
      last := ordered.last
      unswitched := by
        intro isOld
        have isNew : routed edge { state with
            phase := if packet.isEos then Phase.drained else .draining
            hand := none
            new := state.new ++ [packet] } = .new := routed_eq_new replaced switched
        rw [isNew] at isOld
        cases isOld
      draining := fun _ => replaced
      carried := fun _ => rfl
      joined := fun upstream _ => ordered.joined upstream (by rw [draining]; rfl)
      stopped := ordered.stopped
      drained := by
        intro _ late
        cases marker : packet.isEos with
        | false =>
            change (if packet.isEos then Phase.drained else Phase.draining) = _ ∨
              (if packet.isEos then Phase.drained else Phase.draining) = _ at late
            rw [marker] at late
            rcases late with impossible | impossible
            · cases impossible
            · cases impossible
        | true =>
            constructor
            · refine ordered.last (state.received ++ state.new) packet state.old ?_ marker
              rw [flow, List.append_assoc]
              rfl
            · right
              intro data
              have inSent : packet ∈ state.sent := by
                rw [flow]
                simp
              rw [data packet inSent] at marker
              cases marker }

/-! ## One step and whole runs -/

/-- Every step that is orderly keeps the order. -/
theorem ordered_step {edge : Edge} {state next : State k T R M} {label : Label k T R M}
    (ordered : Ordered edge state) (orderly : Orderly state label)
    (stepped : step edge state label = some next) : Ordered edge next := by
  cases label with
  | send i packet =>
      dsimp only [step] at stepped
      split at stepped
      · rename_i ready
        rw [Bool.and_eq_true] at ready
        cases stepped
        refine ordered_point ordered i (fun isOld => ?_) (fun isNew => ?_) (Or.inl ready.1)
        · rw [isOld]
          rfl
        · rw [isNew]
          rfl
      · cases stepped
  | place i =>
      rcases orderly with ⟨data, behind⟩
      dsimp only [step] at stepped
      split at stepped
      · rename_i packet sending
        split at stepped
        · cases stepped
          exact ordered_place_old ordered sending data
        · cases stepped
      · rename_i packet sending
        split at stepped
        · cases stepped
          rcases behind (by rw [sending]; rfl) with ⟨old, hand⟩
          exact ordered_place_new ordered sending data old hand
        · cases stepped
      · cases stepped
      · cases stepped
  | release i =>
      dsimp only [step] at stepped
      split at stepped
      · cases stepped
        exact ordered_point ordered i (fun _ => rfl) (fun _ => rfl) (Or.inr rfl)
      · cases stepped
      · cases stepped
  | abort i =>
      dsimp only [step] at stepped
      split at stepped
      · cases stepped
        exact ordered_point ordered i (fun _ => rfl) (fun _ => rfl) (Or.inr rfl)
      · cases stepped
  | take =>
      dsimp only [step] at stepped
      split at stepped
      · split at stepped
        · rename_i isOld first
          cases stepped
          exact ordered_take_old ordered isOld first
        · rename_i isNew first
          cases stepped
          exact ordered_take_new ordered isNew first
        · cases stepped
      · cases stepped
  | quiesce =>
      dsimp only [step] at stepped
      split at stepped
      · rename_i running
        cases stepped
        exact ordered_quiesce ordered running
      · cases stepped
  | joinUpstream =>
      dsimp only [step] at stepped
      split at stepped
      · rename_i ready
        rw [Bool.and_eq_true, decide_eq_true_eq] at ready
        cases stepped
        exact ordered_workers ordered false state.consumerLive fun _ _ => ready.2
      · cases stepped
  | joinConsumer =>
      dsimp only [step] at stepped
      split at stepped
      · cases stepped
        exact ordered_workers ordered state.upstreamLive false ordered.stopped
      · cases stepped
  | switch =>
      dsimp only [step] at stepped
      split at stepped
      · rename_i ready
        rw [Bool.and_eq_true, Bool.and_eq_true, decide_eq_true_eq] at ready
        cases stepped
        refine ordered_switch ordered ready.1.1 fun upstream => ?_
        have joined := ready.1.2
        rw [upstream, Bool.not_true, Bool.false_or, Bool.not_eq_true'] at joined
        exact joined
      · cases stepped
  | spawnUpstream =>
      dsimp only [step] at stepped
      split at stepped
      · cases stepped
        exact ordered_workers ordered true state.consumerLive fun _ impossible => by
          cases impossible
      · cases stepped
  | spawnConsumer =>
      dsimp only [step] at stepped
      split at stepped
      · cases stepped
        exact ordered_workers ordered state.upstreamLive true ordered.stopped
      · cases stepped
  | drainRoute =>
      dsimp only [step] at stepped
      split at stepped
      · rename_i ready
        rw [Bool.and_eq_true, Bool.and_eq_true, decide_eq_true_eq] at ready
        cases stepped
        have switched := ready.1.2
        refine ordered_later ordered (by rw [switched]; rfl) rfl
          (ordered.empty_hand switched Phase.noConfusion) (fun _ => ready.1.1) ?_
        intro _ late
        rcases late with impossible | impossible
        · cases impossible
        · cases impossible
      · cases stepped
  | drainTake =>
      dsimp only [step] at stepped
      split at stepped
      · rename_i draining hand first
        cases stepped
        exact ordered_drainTake ordered draining hand first
      · cases stepped
  | drainPut =>
      dsimp only [step] at stepped
      split at stepped
      · rename_i draining hand
        split at stepped
        · cases stepped
          exact ordered_drainPut ordered draining hand
        · cases stepped
      · cases stepped
  | drainEnd =>
      dsimp only [step] at stepped
      split at stepped
      · rename_i draining hand empty
        split at stepped
        · rename_i stops
          cases stepped
          have isSwitched : state.phase.isSwitched = true := by
            rw [draining]
            rfl
          refine ordered_later ordered isSwitched rfl hand (fun impossible => by cases impossible)
            fun replaced _ => ⟨empty, Or.inl ?_⟩
          rw [drainStops, Bool.or_eq_true, decide_eq_true_eq] at stops
          rcases stops with upstream | nobody
          · exact ordered.joined upstream isSwitched replaced
          · exact nobody
        · cases stepped
      · cases stepped
  | finish =>
      dsimp only [step] at stepped
      split at stepped
      · rename_i ready
        cases stepped
        rcases ready with drained | ⟨kept, switched, _⟩
        · exact ordered_later ordered (by rw [drained]; rfl) rfl
            (ordered.empty_hand drained Phase.noConfusion) (fun impossible => by cases impossible)
            fun replaced _ => ordered.drained replaced (Or.inl drained)
        · refine ordered_later ordered (by rw [switched]; rfl) rfl
            (ordered.empty_hand switched Phase.noConfusion) (fun impossible => by cases impossible)
            fun replaced _ => ?_
          rw [kept] at replaced
          cases replaced
      · cases stepped

/-- The invariant says that the edge has delivered. -/
theorem delivered_of_ordered {edge : Edge} {state : State k T R M}
    (ordered : Ordered edge state) : Delivered edge state := by
  have received : state.received <+: state.sent :=
    ⟨state.new ++ (state.hand.toList ++ state.old), ordered.flow.symm⟩
  refine ⟨received, fun done => ?_, ?_⟩
  · have flow := ordered.flow
    cases side : routed edge state with
    | old =>
        rcases ordered.unswitched side with ⟨new, hand, _⟩
        rw [new, hand] at flow
        exact flow
    | new =>
        have replaced : edge.replaced = true := by
          cases replaced : edge.replaced with
          | true => rfl
          | false =>
              rw [routed, replaced] at side
              cases side
        have hand : state.hand = none := by
          apply ordered.carried
          rw [done]
          exact fun impossible => by cases impossible
        rw [hand, (ordered.drained replaced (Or.inr done)).1, Option.toList_none, List.nil_append,
          List.append_nil] at flow
        exact flow
  · have last := ordered.last
    rw [ordered.flow] at last
    exact last.left

/-- In every run in which nothing is sent after an end marker, and nothing
into the new pipe before the old one is drained, the edge delivers what was
sent on it, whatever the interleaving of senders, consumers, drainer and
update. -/
theorem orderly_delivers (edge : Edge) {start final : State k T R M} (steady : Steady start)
    {labels : List (Label k T R M)} (meets : (update edge).Meets Orderly start labels)
    (reached : (update edge).run start labels = some final) : Delivered edge final := by
  apply delivered_of_ordered
  refine Machine.run_invariant_of_meets _ (Ordered edge) ?_ (ordered_of_steady edge steady) meets
    reached
  intro state label next ordered orderly stepped
  exact ordered_step ordered orderly stepped

/-! ## A consumer that is replaced -/

/-- An edge on which nothing has been sent yet. -/
def fresh : State k T R M where
  phase := .running
  upstreamLive := true
  consumerLive := true
  point := fun _ => .idle
  old := []
  new := []
  hand := none
  sent := []
  received := []

private theorem fresh_steady : Steady (fresh : State k T R M) where
  phase := rfl
  upstreamLive := rfl
  consumerLive := rfl
  senders := fun _ => rfl
  new := rfl
  hand := rfl
  flow := rfl
  last := by
    intro before packet after split
    cases before <;> cases split

/-- Only the consumer is affected. -/
def consumerReplaced : Edge where
  replaced := true
  upstreamJoined := false
  oldCapacity := some 20
  newCapacity := some 20

/-- The only instance of the upstream. -/
def only : Fin 1 := ⟨0, Nat.one_pos⟩

/-- One packet is sent, and still waits when the consumer is joined, the
routes are switched and the new consumer is spawned. -/
def leftBehind : List (Label 1 Nat Unit Unit) :=
  [.send only (.tensor 1), .place only, .release only, .quiesce, .joinConsumer, .switch,
    .spawnConsumer]

/-- The old pipe is drained before the upstream sends again. -/
def drainedFirst : List (Label 1 Nat Unit Unit) :=
  leftBehind ++
    [.drainRoute, .drainTake, .drainPut, .drainEnd, .finish, .send only (.tensor 2), .place only,
      .take, .take]

/-- The upstream sends again before the drainer comes. -/
def drainedLate : List (Label 1 Nat Unit Unit) :=
  leftBehind ++
    [.send only (.tensor 2), .place only, .release only, .take, .drainRoute, .drainTake,
      .drainPut, .drainEnd, .finish, .take]

/-- Both packets are received in order. -/
theorem drained_first_delivers :
    Exists fun final => (update consumerReplaced).run fresh drainedFirst = some final ∧
      final.received = [.tensor 1, .tensor 2] ∧ Delivered consumerReplaced final := by
  have outcome : ((update consumerReplaced).run fresh drainedFirst).map State.received =
      some [.tensor 1, .tensor 2] := by
    decide
  have meets : (update consumerReplaced).Meets Orderly fresh drainedFirst := by
    decide
  rcases Option.map_eq_some_iff.mp outcome with ⟨final, reached, received⟩
  exact ⟨final, reached, received, orderly_delivers consumerReplaced fresh_steady meets reached⟩

/-- The second packet is placed on the new pipe before the first one, and is
received before it. -/
theorem later_packet_overtakes :
    Exists fun final => (update consumerReplaced).run fresh drainedLate = some final ∧
      final.phase = .done ∧ ¬ Delivered consumerReplaced final := by
  have outcome : ((update consumerReplaced).run fresh drainedLate).map
      (fun final => (final.phase, final.sent, final.received)) =
        some (.done, [.tensor 1, .tensor 2], [.tensor 2, .tensor 1]) := by
    decide
  rcases Option.map_eq_some_iff.mp outcome with ⟨final, reached, result⟩
  rw [Prod.mk.injEq, Prod.mk.injEq] at result
  rcases result with ⟨done, sent, received⟩
  refine ⟨final, reached, done, fun delivered => ?_⟩
  have order := delivered.order
  rw [sent, received] at order
  revert order
  decide

/-! ## The edges of an update -/

/-- The edge of a connection whose route an update exchanges for another. -/
def Edge.ofRoutes (affected : RunningGraph.NameSet) (connection : ConnectionSpec)
    (before after : EdgeRoute) : Edge where
  replaced := decide (connection.toNode ∈ affected)
  upstreamJoined := decide (connection.fromNode ∈ affected)
  oldCapacity := before.receiver.capacity
  newCapacity := after.sender.capacity

/-- What the update does with the routes is what the machine of the edge
assumes: the route stays unless the consumer is affected, and else there is a
new pipe into which the old one is to be drained. -/
def Edge.Follows (edge : Edge) (before after : EdgeRoute) (firstPipe : Nat)
    (drains : List RunningGraph.Drain) : Prop :=
  (edge.replaced = false -> after = before) ∧
    (edge.replaced = true -> after.sender = after.receiver ∧ firstPipe <= after.receiver.id ∧
      ⟨before.receiver, after.sender, !edge.upstreamJoined⟩ ∈ drains)

open RunningGraph (NameSet Switch switchEdges)

/-- The loop does not come back to a connection, and forgets no drain. -/
private theorem switchEdges_frame {execution : ExecutionSpec} {affected : NameSet}
    {connections : List String} {switch final : Switch}
    (switches : switchEdges execution affected switch connections = (final, .ok ())) :
    (forall connection : String, connection ∉ connections ->
      final.edges[connection]? = switch.edges[connection]?) ∧
      switch.drains ⊆ final.drains := by
  induction connections generalizing switch with
  | nil =>
      cases switches
      exact ⟨fun _ _ => rfl, List.Subset.refl _⟩
  | cons first rest ih =>
      unfold switchEdges at switches
      split at switches
      · cases switches
      · dsimp only at switches
        split at switches
        · rcases ih switches with ⟨edges, drains⟩
          constructor
          · intro connection outside
            rw [List.mem_cons, not_or] at outside
            rw [edges connection outside.2]
            dsimp only
            rw [OrderedMap.getElem?_insert, if_neg fun same => outside.1 same.symm]
          · refine List.Subset.trans ?_ drains
            dsimp only
            split
            · exact List.subset_append_left _ _
            · exact List.Subset.refl _
        · split at switches
          · cases switches
          · rcases ih switches with ⟨edges, drains⟩
            refine ⟨fun connection outside => ?_, drains⟩
            rw [List.mem_cons, not_or] at outside
            rw [edges connection outside.2]
            dsimp only
            rw [OrderedMap.getElem?_insert, if_neg fun same => outside.1 same.symm]

/-- The loop over the connections treats each edge that was there before as
its machine says. -/
theorem switchEdges_follows {execution : ExecutionSpec} {affected : NameSet}
    {connections : List String} (distinct : connections.Nodup) {switch final : Switch}
    (switches : switchEdges execution affected switch connections = (final, .ok ()))
    {connection : String} (member : connection ∈ connections) {parsed : ConnectionSpec}
    (parses : ConnectionSpec.parse connection = .ok parsed) {before : EdgeRoute}
    (was : switch.left[connection]? = some before) :
    Exists fun after => final.edges[connection]? = some after ∧
      (Edge.ofRoutes affected parsed before after).Follows before after switch.nextPipe
        final.drains := by
  induction connections generalizing switch with
  | nil => cases member
  | cons first rest ih =>
      rw [List.nodup_cons] at distinct
      have stillThere : first ≠ connection ->
          (switch.left.erase first)[connection]? = some before := by
        intro differ
        rw [OrderedMap.getElem?_erase, if_neg differ]
        exact was
      unfold switchEdges at switches
      split at switches
      · cases switches
      · rename_i edge parsesFirst
        dsimp only at switches
        split at switches
        · rename_i inside
          rcases List.mem_cons.mp member with rfl | later
          · rw [parses] at parsesFirst
            cases parsesFirst
            rcases switchEdges_frame switches with ⟨edges, drains⟩
            refine ⟨⟨execution.pipe switch.nextPipe, execution.pipe switch.nextPipe⟩, ?_, ?_, ?_⟩
            · rw [edges connection distinct.1]
              dsimp only
              rw [OrderedMap.getElem?_insert, if_pos rfl]
            · intro kept
              exact absurd inside (of_decide_eq_false kept)
            · intro _
              refine ⟨rfl, ?_, drains ?_⟩
              · rw [ExecutionSpec.pipe_id]
              · rw [was]
                refine List.mem_append_right _ (List.mem_singleton.mpr ?_)
                rw [Edge.ofRoutes, decide_not]
          · have differ : first ≠ connection := fun same => distinct.1 (same ▸ later)
            rcases ih distinct.2 switches later (stillThere differ) with
              ⟨after, found, kept, replaced⟩
            refine ⟨after, found, kept, fun isReplaced => ?_⟩
            rcases replaced isReplaced with ⟨joined, fresh, drains⟩
            exact ⟨joined, Nat.le_of_succ_le fresh, drains⟩
        · rename_i outside
          split at switches
          · cases switches
          · rename_i old found
            rcases List.mem_cons.mp member with rfl | later
            · rw [parses] at parsesFirst
              cases parsesFirst
              rw [was] at found
              cases found
              rcases switchEdges_frame switches with ⟨edges, _⟩
              refine ⟨before, ?_, fun _ => rfl, fun replaced => ?_⟩
              · rw [edges connection distinct.1]
                dsimp only
                rw [OrderedMap.getElem?_insert, if_pos rfl]
              · exact absurd (of_decide_eq_true replaced) outside
            · have differ : first ≠ connection := fun same => distinct.1 (same ▸ later)
              have followed := ih distinct.2 switches later (stillThere differ)
              exact followed

end RouteSwitch
end Graph
end DyunGu
