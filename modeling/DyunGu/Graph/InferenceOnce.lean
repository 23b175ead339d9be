import DyunGu.Graph.Inference

namespace DyunGu
namespace Graph
namespace Inference

open Backend

variable {n : Nat} {T R M : Type}

/-!
# Every input is inferred once

With backends that return each submission once, in any order and after any
number of empty polls, the inference element emits exactly one set of outputs
for each input, under that input's metadata, and ends its stream only after
the last of them.

The invariant splits the submissions into those that are done and those that
are waiting.  Backends, slots and the pending list are three views of the
waiting ones, and what ties them together is that no two submissions share an
instance and a sequence number.
-/

/-- A submission: its instance, its sequence number and its input. -/
abbrev Entry (n : Nat) (M T : Type) := Fin n × Nat × (PacketMeta M × T)

def key (entry : Entry n M T) : Fin n × Nat := (entry.1, entry.2.1)

def item (entry : Entry n M T) : PacketMeta M × T := entry.2.2

def toPending (entry : Entry n M T) : PendingInference n M :=
  ⟨entry.1, entry.2.1, entry.2.2.1⟩

def toHeld (entry : Entry n M T) : Nat × List T := (entry.2.1, [entry.2.2.2])

def onInstance (i : Fin n) (entry : Entry n M T) : Bool := decide (entry.1 = i)

/-- The outputs of one submission, under the metadata of its input. -/
def block (model : Model n T) (entry : Entry n M T) : List (Packet T R M) :=
  outputPackets entry.2.2.1 (model.infer entry.1 entry.2.1 [entry.2.2.2])

/-- What the element owes its stream: it has not failed, what it has sent are
the blocks of distinct inputs, and it has ended the stream only after the
blocks of all of them. -/
structure ExactlyOnce (model : Model n T) (data : List (PacketMeta M × T))
    (state : State n T R M) : Prop where
  alive : forall error, state.returned ≠ some (.error error)
  served : Exists fun done : List (Entry n M T) =>
    (done.map key).Nodup ∧ state.out = done.flatMap (block model) ∧
      List.Subperm (done.map item) data ∧
      (state.eosSent = true -> (done.map item).Perm data)
  drained : state.eosSent = true -> state.pending = []

/-! ## The invariant of a running element -/

structure Served (model : Model n T) (config : Config n) (data : List (PacketMeta M × T))
    (done waiting : List (Entry n M T)) (state : State n T R M) : Prop where
  kept : Bookkept config state
  running : state.returned = none
  silent : state.eosSent = false
  instances : state.io.eos.instances = 1
  broadcasts : state.io.eos.broadcasts = 0
  seen : state.io.eos.seen = true -> state.eos = true
  keys : ((done ++ waiting).map key).Nodup
  issued : forall entry, entry ∈ done ++ waiting ->
    entry.2.1 < (state.execution.runtimes entry.1).nextSequence
  sequences : forall i, (state.execution.runtimes i).nextSequence <= (done ++ waiting).length
  pending : state.pending = waiting.map toPending
  held : config.isAsync = true -> forall i, (state.execution.runtimes i).held =
    (waiting.filter (onInstance i)).map toHeld
  slots : config.isAsync = false -> forall i sequence outputs,
    (state.execution.runtimes i).syncResult = some (sequence, outputs) ->
      Exists fun input => (i, sequence, input) ∈ waiting ∧
        outputs = model.infer i sequence [input.2]
  out : state.out = done.flatMap (block model)
  taken : Exists fun consumed => Exists fun rest => data = consumed ++ rest ∧
    ((done ++ waiting).map item).Perm consumed ∧
    (state.eos = false -> state.queue ++ state.upstream = inputStream rest) ∧
    (state.eos = true -> rest = [])

/-- The element has returned after serving the whole stream. -/
structure Finished (model : Model n T) (data : List (PacketMeta M × T))
    (state : State n T R M) : Prop where
  returned : state.returned = some (.ok ())
  ended : state.eosSent = true
  empty : state.pending = []
  all : Exists fun done : List (Entry n M T) => (done.map key).Nodup ∧
    state.out = done.flatMap (block model) ∧ (done.map item).Perm data

section Preservation

variable {model : Model n T} {config : Config n} {data : List (PacketMeta M × T)}
  {done waiting : List (Entry n M T)} {state : State n T R M} {round : Round n T}

theorem initial_served (model : Model n T) (config : Config n)
    (data : List (PacketMeta M × T)) :
    Served model config data [] [] (initial config (inputStream data) : State n T R M) where
  kept := initial_bookkept config _
  running := rfl
  silent := rfl
  instances := rfl
  broadcasts := rfl
  seen := fun impossible => by cases impossible
  keys := List.nodup_nil
  issued := fun _ impossible => by cases impossible
  sequences := fun _ => Nat.le_refl _
  pending := rfl
  held := fun _ _ => rfl
  slots := fun _ _ _ _ impossible => by cases impossible
  out := rfl
  taken := ⟨[], data, rfl, List.Perm.refl _, fun _ => rfl, fun impossible => by cases impossible⟩

theorem exactlyOnce_of_served (served : Served model config data done waiting state) :
    ExactlyOnce model data state where
  alive := fun error failed => by
    rw [served.running] at failed
    cases failed
  served := by
    refine ⟨done, ?_, served.out, ?_, fun ended => ?_⟩
    · have keys := served.keys
      rw [List.map_append] at keys
      exact (List.nodup_append.mp keys).1
    · rcases served.taken with ⟨consumed, rest, split, perm, _⟩
      rw [split]
      refine List.Subperm.trans ?_ (List.sublist_append_left consumed rest).subperm
      refine List.Subperm.trans ?_ perm.subperm
      rw [List.map_append]
      exact (List.sublist_append_left _ _).subperm
    · rw [served.silent] at ended
      cases ended
  drained := fun ended => by
    rw [served.silent] at ended
    cases ended

theorem exactlyOnce_of_finished (finished : Finished model data state) :
    ExactlyOnce model data state where
  alive := fun error failed => by
    rw [finished.returned] at failed
    cases failed
  served := by
    rcases finished.all with ⟨done, keys, out, perm⟩
    exact ⟨done, keys, out, perm.subperm, fun _ => perm⟩
  drained := fun _ => finished.empty

/-- A turn that changes nothing but the poll counters. -/
private theorem Served.idle (served : Served model config data done waiting state)
    {execution : InferenceExecution n T} (cursor : execution.pollCursor < n)
    (runtimes : execution.runtimes = state.execution.runtimes)
    (counter : execution.metrics.inFlight = state.execution.metrics.inFlight) :
    Served model config data done waiting { state with execution := execution } :=
  { served with
    kept := quiet_bookkept served.kept cursor runtimes counter
    issued := by
      dsimp only
      rw [runtimes]
      exact served.issued
    sequences := by
      dsimp only
      rw [runtimes]
      exact served.sequences
    held := by
      dsimp only
      rw [runtimes]
      exact served.held
    slots := by
      dsimp only
      rw [runtimes]
      exact served.slots }

/-- A backend under contract returns a waiting submission with its outputs. -/
private theorem waiting_of_returns (served : Served model config data done waiting state)
    (obliging : Obliging model state (.turn round)) {index : Fin n} {sequence : Nat}
    {outputs : List T}
    (returns : Returns (state.execution.runtimes index) (round.answers index) sequence outputs) :
    Exists fun input => (index, sequence, input) ∈ waiting ∧
      outputs = model.infer index sequence [input.2] := by
  have mode := served.kept.modes index
  unfold Returns at returns
  split at returns
  · rename_i isAsync
    rcases obliging.1 index isAsync with waits | ⟨held, inputs, member, answered⟩
    · rw [waits] at returns
      cases returns
    · rw [answered] at returns
      cases returns
      rw [mode] at isAsync
      rw [served.held isAsync index] at member
      rcases List.mem_map.mp member with ⟨entry, kept, same⟩
      rcases List.mem_filter.mp kept with ⟨waits, isIndex⟩
      cases same
      have here : entry.1 = index := of_decide_eq_true isIndex
      refine ⟨entry.2.2, ?_, rfl⟩
      rw [← here]
      exact waits
  · rename_i isSync
    rw [mode, Bool.not_eq_true] at isSync
    exact served.slots isSync index sequence outputs returns

/-- The waiting entries around the one with a given key. -/
private theorem split_waiting (served : Served model config data done waiting state)
    {index : Fin n} {sequence : Nat} {input : PacketMeta M × T}
    (waits : (index, sequence, input) ∈ waiting) :
    Exists fun before => Exists fun after =>
      waiting = before ++ (index, sequence, input) :: after ∧
        forall entry, entry ∈ before -> ¬ (entry.1 = index ∧ entry.2.1 = sequence) := by
  rcases List.append_of_mem waits with ⟨before, after, split⟩
  refine ⟨before, after, split, ?_⟩
  rintro entry member ⟨sameIndex, sameSequence⟩
  have keys := served.keys
  rw [split, ← List.append_assoc, List.map_append, List.map_cons] at keys
  have apart := (List.nodup_append.mp keys).2.2 (key entry)
    (List.mem_map.mpr ⟨entry, List.mem_append_right _ member, rfl⟩) (key (index, sequence, input))
    List.mem_cons_self
  apply apart
  unfold key
  rw [sameIndex, sameSequence]

/-- The turn that returns a waiting submission pairs it with its own pending
input, the first one under its key. -/
private theorem turn_completes (served : Served model config data done waiting state)
    {index : Fin n} {sequence : Nat} {input : PacketMeta M × T} {outputs : List T}
    {before after : List (Entry n M T)}
    (split : waiting = before ++ (index, sequence, input) :: after)
    (others : forall entry, entry ∈ before -> ¬ (entry.1 = index ∧ entry.2.1 = sequence))
    (gives : (pollReady state.execution round.answers).2 =
      .ok (some (index, sequence, outputs))) :
    turn state round = { state with
      execution := (pollReady state.execution round.answers).1
      io := { state.io with packetStarts := state.io.packetStarts.drop outputs.length }
      pending := (before ++ after).map toPending
      out := state.out ++ outputPackets input.1 outputs } := by
  have isKey : forall entry : Entry n M T, hasKey index sequence (toPending entry) =
      decide (entry.1 = index ∧ entry.2.1 = sequence) := fun _ => rfl
  have skips : forall pending, pending ∈ before.map (toPending (n := n) (M := M) (T := T)) ->
      ¬ hasKey index sequence pending = true := by
    intro pending member
    rcases List.mem_map.mp member with ⟨entry, inBefore, rfl⟩
    rw [isKey, decide_eq_true_eq]
    exact others entry inBefore
  have hit : hasKey index sequence (toPending ((index, sequence, input) : Entry n M T)) = true :=
    decide_eq_true ⟨rfl, rfl⟩
  have pending := served.pending
  rw [split, List.map_append, List.map_cons] at pending
  have found : state.pending.find? (hasKey index sequence) =
      some (toPending ((index, sequence, input) : Entry n M T)) := by
    rw [pending, List.find?_append, List.find?_eq_none.mpr skips, Option.none_or,
      List.find?_cons_of_pos hit]
  have erased : state.pending.eraseP (hasKey index sequence) =
      (before ++ after).map toPending := by
    rw [pending, List.eraseP_append_right _ skips, List.eraseP_cons_of_pos hit, List.map_append]
  rw [turn_emits gives]
  rcases @emit_cases n T R M
    { state with execution := (pollReady state.execution round.answers).1 }
    served.kept.connected.2.1 served.kept.connected.2.2 served.running index sequence outputs
    with ⟨missing, _⟩ | ⟨other, search, paired⟩
  · change state.pending.find? _ = none at missing
    rw [found] at missing
    cases missing
  · change state.pending.find? _ = some other at search
    rw [found] at search
    cases search
    rw [paired]
    change { state with
      execution := (pollReady state.execution round.answers).1
      io := { state.io with packetStarts := state.io.packetStarts.drop outputs.length }
      pending := state.pending.eraseP (hasKey index sequence)
      out := state.out ++ outputPackets input.1 outputs } = _
    rw [erased]

/-- A completion releases its submission from the backend that held it. -/
private theorem held_completed (served : Served model config data done waiting state)
    {index : Fin n} {sequence : Nat} {input : PacketMeta M × T}
    {before after : List (Entry n M T)}
    (split : waiting = before ++ (index, sequence, input) :: after)
    (others : forall entry, entry ∈ before -> ¬ (entry.1 = index ∧ entry.2.1 = sequence))
    (isAsync : config.isAsync = true) (i : Fin n) :
    (Function.update state.execution.runtimes index
      (completed (state.execution.runtimes index) sequence) i).held =
        ((before ++ after).filter (onInstance i)).map toHeld := by
  have held := served.held isAsync i
  rw [split, List.filter_append] at held
  by_cases same : i = index
  · rw [same] at held ⊢
    rw [Function.update_self, completed, served.kept.modes index, isAsync, if_pos rfl,
      Runtime.release]
    dsimp only
    have here : onInstance index ((index, sequence, input) : Entry n M T) = true :=
      decide_eq_true rfl
    rw [held, List.filter_cons_of_pos here, List.map_append,
      List.map_cons, List.eraseP_append_right, List.eraseP_cons_of_pos, List.filter_append,
      List.map_append]
    · exact decide_eq_true rfl
    · intro entry member
      rcases List.mem_map.mp member with ⟨source, kept, rfl⟩
      rcases List.mem_filter.mp kept with ⟨inBefore, isIndex⟩
      rw [decide_eq_true_eq]
      intro sameSequence
      exact others source inBefore ⟨of_decide_eq_true isIndex, sameSequence⟩
  · rw [Function.update_of_ne same, held, List.filter_append, List.filter_cons_of_neg]
    rw [onInstance, decide_eq_true_eq]
    exact fun equal => same equal.symm

/-- A completion empties the slot of its instance and leaves the other slots. -/
private theorem slots_completed (served : Served model config data done waiting state)
    {index : Fin n} {sequence : Nat} {input : PacketMeta M × T}
    {before after : List (Entry n M T)}
    (split : waiting = before ++ (index, sequence, input) :: after)
    (isSync : config.isAsync = false) {i : Fin n} {other : Nat} {stored : List T}
    (occupied : (Function.update state.execution.runtimes index
      (completed (state.execution.runtimes index) sequence) i).syncResult = some (other, stored)) :
    Exists fun input => (i, other, input) ∈ before ++ after ∧
      stored = model.infer i other [input.2] := by
  by_cases same : i = index
  · rw [same, Function.update_self, completed, served.kept.modes index, isSync] at occupied
    cases occupied
  · rw [Function.update_of_ne same] at occupied
    rcases served.slots isSync i other stored occupied with ⟨item, inWaiting, outs⟩
    refine ⟨item, ?_, outs⟩
    rw [split] at inWaiting
    rcases List.mem_append.mp inWaiting with inBefore | inRest
    · exact List.mem_append_left _ inBefore
    · rcases List.mem_cons.mp inRest with isEntry | inAfter
      · cases isEntry
        exact absurd rfl same
      · exact List.mem_append_right _ inAfter

/-- A completion moves its submission from the waiting to the done ones and
emits its block. -/
theorem served_emit (served : Served model config data done waiting state)
    (obliging : Obliging model state (.turn round)) {index : Fin n} {sequence : Nat}
    {outputs : List T}
    (returns : Returns (state.execution.runtimes index) (round.answers index) sequence outputs)
    (gives : (pollReady state.execution round.answers).2 = .ok (some (index, sequence, outputs)))
    (runtimes : (pollReady state.execution round.answers).1.runtimes =
      Function.update state.execution.runtimes index
        (completed (state.execution.runtimes index) sequence)) :
    Exists fun entry => Exists fun before => Exists fun after =>
      waiting = before ++ entry :: after ∧
        Served model config data (done ++ [entry]) (before ++ after) (turn state round) ∧
        (turn state round).queue = state.queue ∧ (turn state round).upstream = state.upstream ∧
        (turn state round).eos = state.eos ∧
        (turn state round).pending.length + 1 = state.pending.length ∧
        forall i, ((turn state round).execution.runtimes i).nextSequence =
          (state.execution.runtimes i).nextSequence := by
  rcases waiting_of_returns served obliging returns with ⟨input, waits, isOutputs⟩
  rcases split_waiting served waits with ⟨before, after, split, others⟩
  have turned := turn_completes served split others gives
  have goesOn : (turn state round).returned = none := by
    rw [turned]
    exact served.running
  have keptNext := turn_bookkept served.kept served.running (productive_of_obliging obliging) goesOn
  have moves : ((done ++ [(index, sequence, input)]) ++ (before ++ after)).Perm
      (done ++ waiting) := by
    rw [split, List.append_assoc]
    apply List.Perm.append_left done
    rw [List.singleton_append]
    exact List.perm_middle.symm
  have sequencesSame : forall i, ((pollReady state.execution round.answers).1.runtimes
      i).nextSequence = (state.execution.runtimes i).nextSequence := by
    intro i
    rw [runtimes]
    exact field_update Runtime.nextSequence _ (completed_nextSequence _ _) i
  refine ⟨(index, sequence, input), before, after, split, ?_, ?_⟩
  · rw [turned] at keptNext ⊢
    refine
      { kept := keptNext, running := served.running, silent := served.silent
        instances := served.instances, broadcasts := served.broadcasts, seen := served.seen
        keys := ((moves.map key).nodup_iff).mpr served.keys
        issued := fun entry member => ?_, sequences := fun i => ?_, pending := rfl
        held := fun isAsync i => ?_, slots := fun isSync i other stored occupied => ?_
        out := ?_, taken := ?_ }
    · dsimp only
      rw [sequencesSame]
      exact served.issued entry (moves.mem_iff.mp member)
    · dsimp only
      rw [sequencesSame, moves.length_eq]
      exact served.sequences i
    · dsimp only
      rw [runtimes]
      exact held_completed served split others isAsync i
    · dsimp only at occupied
      rw [runtimes] at occupied
      exact slots_completed served split isSync occupied
    · dsimp only
      rw [served.out, List.flatMap_append, isOutputs]
      simp only [List.flatMap_cons, List.flatMap_nil, List.append_nil]
      rfl
    · rcases served.taken with ⟨consumed, rest, whole, perm, open_, closed⟩
      exact ⟨consumed, rest, whole, (moves.map item).trans perm, open_, closed⟩
  · rw [turned]
    refine ⟨rfl, rfl, rfl, ?_, sequencesSame⟩
    dsimp only
    rw [served.pending, split, List.length_map, List.length_map]
    simp only [List.length_append, List.length_cons]
    omega

/-- A push moves the next packet of the stream into the pipe. -/
theorem served_push (served : Served model config data done waiting state)
    {next : State n T R M} (stepped : (machine config).step state .push = some next) :
    Served model config data done waiting next := by
  simp only [machine, step] at stepped
  split at stepped
  · cases stepped
  · rename_i packet upstream sending
    split at stepped
    · cases stepped
      rcases served.taken with ⟨consumed, rest, whole, perm, open_, closed⟩
      refine { served with kept := { served.kept with }, taken := ?_ }
      refine ⟨consumed, rest, whole, perm, fun notEnded => ?_, closed⟩
      rw [← open_ notEnded, sending]
      exact List.append_assoc _ _ _
    · cases stepped

/-- The first packet of the stream that is left, by what is left of the data. -/
private theorem head_of_stream {packet : Packet T R M} {queue upstream : List (Packet T R M)}
    {rest : List (PacketMeta M × T)}
    (stream : (packet :: queue) ++ upstream = inputStream rest) :
    (rest = [] ∧ packet.isEos = true ∧ queue = [] ∧ upstream = []) ∨
    (Exists fun input => Exists fun others => rest = input :: others ∧
      packet = inputPacket input ∧ queue ++ upstream = inputStream others) := by
  unfold inputStream at stream
  cases rest with
  | nil =>
      rw [List.map_nil, List.nil_append, List.cons_append, List.cons.injEq,
        List.append_eq_nil_iff] at stream
      refine Or.inl ⟨rfl, ?_, stream.2.1, stream.2.2⟩
      rw [stream.1]
      rfl
  | cons input others =>
      rw [List.map_cons, List.cons_append, List.cons_append, List.cons.injEq] at stream
      exact Or.inr ⟨input, others, rfl, stream.1, stream.2⟩

/-- Fewer inputs than there are sequence numbers, and no more of them in
flight at once than starts fit the queue. -/
structure Config.Serves (config : Config n) (count : Nat) : Prop where
  numbered : count <= u64Max
  fits : config.isAsync = false ∨ config.maxInFlight <= config.maxStarts ∨
    count <= config.maxStarts

theorem Config.Serves.mono {config : Config n} {count total : Nat}
    (serves : config.Serves total) (below : count < total) : config.Serves (count + 1) where
  numbered := Nat.le_trans below serves.numbered
  fits := serves.fits.imp_right (Or.imp_right (Nat.le_trans below))

/-- The next sequence of an instance is on no submission. -/
private theorem keys_submitted (served : Served model config data done waiting state)
    (index : Fin n) (input : PacketMeta M × T) :
    ((done ++ (waiting ++ [(index, (state.execution.runtimes index).nextSequence, input)])).map
      key).Nodup := by
  rw [← List.append_assoc, List.map_append, List.map_singleton]
  refine List.nodup_append.mpr ⟨served.keys, List.nodup_singleton _, ?_⟩
  intro first inFirst second inSecond same
  rw [List.mem_singleton.mp inSecond] at same
  rcases List.mem_map.mp inFirst with ⟨entry, member, rfl⟩
  have below := served.issued entry member
  have sameIndex : entry.1 = index := congrArg Prod.fst same
  have sameSequence : entry.2.1 = (state.execution.runtimes index).nextSequence :=
    congrArg Prod.snd same
  rw [sameIndex] at below
  omega

private theorem issued_submitted (served : Served model config data done waiting state)
    (index : Fin n) (input : PacketMeta M × T) (inputs outputs : List T) {entry : Entry n M T}
    (member : entry ∈
      done ++ (waiting ++ [(index, (state.execution.runtimes index).nextSequence, input)])) :
    entry.2.1 < (Function.update state.execution.runtimes index
      (submitted (state.execution.runtimes index) inputs outputs) entry.1).nextSequence := by
  rw [← List.append_assoc] at member
  rcases List.mem_append.mp member with old | new
  · have below := served.issued entry old
    by_cases same : entry.1 = index
    · rw [same, Function.update_self, submitted_nextSequence]
      rw [same] at below
      omega
    · rw [Function.update_of_ne same]
      exact below
  · rw [List.mem_singleton.mp new]
    dsimp only
    rw [Function.update_self, submitted_nextSequence]
    exact Nat.lt_succ_self _

private theorem sequences_submitted (served : Served model config data done waiting state)
    (index : Fin n) (inputs outputs : List T) (entry : Entry n M T) (i : Fin n) :
    (Function.update state.execution.runtimes index
      (submitted (state.execution.runtimes index) inputs outputs) i).nextSequence <=
        (done ++ (waiting ++ [entry])).length := by
  have before := served.sequences i
  rw [← List.append_assoc, List.length_append, List.length_singleton]
  by_cases same : i = index
  · rw [same] at before
    rw [same, Function.update_self, submitted_nextSequence]
    omega
  · rw [Function.update_of_ne same]
    omega

private theorem held_submitted (served : Served model config data done waiting state)
    (index : Fin n) (input : PacketMeta M × T) (outputs : List T)
    (isAsync : config.isAsync = true) (i : Fin n) :
    (Function.update state.execution.runtimes index
      (submitted (state.execution.runtimes index) [input.2] outputs) i).held =
        ((waiting ++ [(index, (state.execution.runtimes index).nextSequence, input)]).filter
          (onInstance i)).map toHeld := by
  rw [List.filter_append, List.map_append, ← served.held isAsync i]
  by_cases same : i = index
  · have here : onInstance index
        ((index, (state.execution.runtimes index).nextSequence, input) : Entry n M T) =
        true := decide_eq_true rfl
    rw [same, Function.update_self, submitted, served.kept.modes index, isAsync,
      if_pos rfl, List.filter_cons_of_pos here, List.filter_nil, List.map_singleton]
    rfl
  · rw [Function.update_of_ne same, List.filter_cons_of_neg, List.filter_nil,
      List.map_nil, List.append_nil]
    rw [onInstance, decide_eq_true_eq]
    exact fun equal => same equal.symm

private theorem slots_submitted (served : Served model config data done waiting state)
    (isSync : config.isAsync = false)
    (empty : forall i, (state.execution.runtimes i).syncResult = none)
    {index : Fin n} {input : PacketMeta M × T} {i : Fin n} {sequence : Nat} {stored : List T}
    (occupied : (Function.update state.execution.runtimes index
      (submitted (state.execution.runtimes index) [input.2]
        (model.infer index (state.execution.runtimes index).nextSequence [input.2]))
      i).syncResult = some (sequence, stored)) :
    Exists fun other => (i, sequence, other) ∈
        waiting ++ [(index, (state.execution.runtimes index).nextSequence, input)] ∧
      stored = model.infer i sequence [other.2] := by
  by_cases same : i = index
  · rw [same, Function.update_self, submitted, served.kept.modes index, isSync] at occupied
    cases occupied
    refine ⟨input, ?_, ?_⟩
    · rw [same]
      exact List.mem_append_right _ (List.mem_singleton_self _)
    · rw [same]
  · rw [Function.update_of_ne same, empty i] at occupied
    cases occupied

/-- No instance has more in flight than the element has pending. -/
private theorem currentInFlight_lt (served : Served model config data done waiting state)
    (capacity : state.pending.length < config.maxInFlight)
    (empty : config.isAsync = false -> forall i, (state.execution.runtimes i).syncResult = none)
    (index : Fin n) :
    (state.execution.runtimes index).currentInFlight < config.maxInFlight := by
  unfold Runtime.currentInFlight
  rw [served.kept.modes index]
  cases mode : config.isAsync with
  | true =>
      rw [if_pos rfl, served.held mode index, List.length_map]
      have part := List.length_filter_le (onInstance index) waiting
      rw [served.pending, List.length_map] at capacity
      omega
  | false =>
      rw [if_neg Bool.false_ne_true, empty mode index]
      exact Nat.lt_of_lt_of_le Nat.one_pos (Nat.le_max_right _ _)

/-- A submission that the capacity test admitted is entered, and joins the
waiting ones. -/
private theorem served_accept (served : Served model config data done waiting state)
    (serves : config.Serves ((done ++ waiting).length + 1))
    (obliging : Obliging model state (.turn round))
    (capacity : state.pending.length < config.maxInFlight)
    (runtimes : (pollReady state.execution round.answers).1.runtimes = state.execution.runtimes)
    (quiet : forall i, Quiet (state.execution.runtimes i) (round.answers i))
    {input : PacketMeta M × T} {consumed others : List (PacketMeta M × T)}
    {queue : List (Packet T R M)} (whole : data = consumed ++ input :: others)
    (perm : ((done ++ waiting).map item).Perm consumed)
    (stream : queue ++ state.upstream = inputStream others) (notEnded : state.eos = false)
    (turned : turn state round = accept { state with
      execution := (pollReady state.execution round.answers).1
      io := state.io.startPacket round.now
      queue := queue } (inputPacket input) round) :
    (Exists fun entry => Served model config data done (waiting ++ [entry]) (turn state round)) ∧
      (turn state round).queue = queue ∧ (turn state round).upstream = state.upstream ∧
      (turn state round).pending.length = state.pending.length + 1 := by
  rcases obliging with ⟨answers, index, chosen, answered⟩
  have numbered := serves.numbered
  have next := served.sequences index
  have empties : config.isAsync = false ->
      forall i, (state.execution.runtimes i).syncResult = none := by
    intro isSync i
    have empty := quiet i
    unfold Quiet at empty
    rw [served.kept.modes i, isSync] at empty
    exact empty
  have admits := currentInFlight_lt served capacity empties index
  rw [accept_submits (rfl : (inputPacket input).tensorRef = some input.2) chosen] at turned
  rcases submit_cases (pollReady state.execution round.answers).1 index [input.2]
    (round.answer [input.2]) with
    ⟨error, refused, full | exhausted | failed⟩ | ⟨outputs, gives, entered⟩
  · rw [runtimes, served.kept.maxima index] at full
    omega
  · rw [runtimes] at exhausted
    omega
  · rw [answered] at failed
    cases failed
  · rw [answered] at gives
    cases gives
    dsimp only at turned
    rw [entered, runtimes] at turned
    dsimp only at turned
    have goesOn : (turn state round).returned = none := by
      rw [turned]
      exact served.running
    have keptNext := turn_bookkept served.kept served.running
      (productive_of_obliging ⟨answers, index, chosen, answered⟩) goesOn
    refine ⟨⟨(index, (state.execution.runtimes index).nextSequence, input), ?_⟩, ?_⟩
    · rw [turned] at keptNext ⊢
      refine
        { kept := keptNext, running := served.running, silent := served.silent
          instances := served.instances, broadcasts := served.broadcasts, seen := served.seen
          keys := ?_, issued := fun entry member => ?_, sequences := fun i => ?_, pending := ?_
          held := fun isAsync i => ?_, slots := fun isSync i sequence stored occupied => ?_
          out := served.out, taken := ?_ }
      · exact keys_submitted served index input
      · exact issued_submitted served index input _ _ member
      · exact sequences_submitted served index _ _ _ i
      · dsimp only
        rw [served.pending, List.map_append, List.map_singleton]
        rfl
      · exact held_submitted served index input _ isAsync i
      · exact slots_submitted served isSync (empties isSync) occupied
      · refine ⟨consumed ++ [input], others, ?_, ?_, fun _ => stream, fun ended => ?_⟩
        · rw [whole, List.append_assoc, List.singleton_append]
        · rw [← List.append_assoc, List.map_append]
          exact List.Perm.append_right _ perm
        · dsimp only at ended
          rw [notEnded] at ended
          cases ended
    · rw [turned]
      refine ⟨rfl, rfl, ?_⟩
      change (state.pending ++ [_]).length = _
      rw [List.length_append, List.length_singleton]

/-- The work that is left before the stream ends. -/
def remaining (state : State n T R M) : Nat :=
  3 * state.upstream.length + 2 * state.queue.length + state.pending.length

/-- The last turn: the stream has ended and nothing is waiting. -/
private theorem finished_of_drained (served : Served model config data done waiting state)
    (ended : state.eos = true) (drained : state.pending = [])
    (execution : InferenceExecution n T) :
    Finished model data { state with
      execution := execution
      io := { state.io with eos := state.io.eos.arrive.1 }
      eosSent := state.io.eos.arrive.2
      returned := some (.ok ()) } where
  returned := rfl
  ended := by
    dsimp only
    rw [EosState.arrive, served.broadcasts, served.instances]
    rfl
  empty := drained
  all := by
    have none_ : waiting = [] := by
      have pending := served.pending
      rw [drained] at pending
      exact List.map_eq_nil_iff.mp pending.symm
    rcases served.taken with ⟨consumed, rest, whole, perm, _, closed⟩
    have keys := served.keys
    rw [none_, List.append_nil] at keys perm
    rw [closed ended, List.append_nil] at whole
    refine ⟨done, keys, served.out, ?_⟩
    rw [whole]
    exact perm

/-- The turns in which every instance is quiet: the element ends its stream,
or has nothing to take, or takes one packet off its pipe. -/
theorem served_quiet (served : Served model config data done waiting state)
    (serves : (done ++ waiting).length < data.length ->
      config.Serves ((done ++ waiting).length + 1)) (obliging : Obliging model state (.turn round))
    (none_ : (pollReady state.execution round.answers).2 = .ok none)
    (runtimes : (pollReady state.execution round.answers).1.runtimes = state.execution.runtimes)
    (counter : (pollReady state.execution round.answers).1.metrics.inFlight =
      state.execution.metrics.inFlight)
    (cursor : (pollReady state.execution round.answers).1.pollCursor < n)
    (quiet : forall i, Quiet (state.execution.runtimes i) (round.answers i)) :
    Finished model data (turn state round) ∨
    (Served model config data done waiting (turn state round) ∧
      (waiting ≠ [] ∨ (state.eos = false ∧ state.queue = []))) ∨
    (Exists fun waiting' => Served model config data done waiting' (turn state round) ∧
      remaining (turn state round) < remaining state) := by
  have idle := served.idle cursor runtimes counter
  rw [turn_quiet served.kept.live none_]
  split
  · rename_i drained
    rw [Bool.and_eq_true, List.isEmpty_iff] at drained
    exact Or.inl (finished_of_drained served drained.1 drained.2 _)
  · rename_i goesOn
    split
    · rename_i waits
      refine Or.inr (Or.inl ⟨idle, Or.inl ?_⟩)
      rintro rfl
      have empty : state.pending = [] := served.pending
      rw [empty, List.isEmpty_nil, Bool.and_true] at goesOn
      rw [Bool.not_eq_true] at goesOn
      have room : (pollReady state.execution round.answers).1.hasCapacity = true := by
        apply idle.kept.hasCapacity_iff.mpr
        rw [empty]
        exact Nat.lt_of_lt_of_le Nat.one_pos (Nat.le_max_right _ _)
      rw [goesOn, room] at waits
      cases waits
    · rename_i receives
      have turned := turn_quiet served.kept.live none_
      rw [if_neg goesOn, if_neg receives] at turned
      simp only [Bool.or_eq_true, not_or, Bool.not_eq_true', Bool.not_eq_true,
        Bool.not_eq_false] at receives
      have capacity : state.pending.length < config.maxInFlight :=
        idle.kept.hasCapacity_iff.mp receives.2
      rcases served.taken with ⟨consumed, rest, whole, perm, open_, closed⟩
      have stream := open_ receives.1
      rcases receive_cases idle.kept round with
        ⟨empty, same | ⟨seen, _⟩⟩ | ⟨packet, queue, filled, marker, same⟩ |
          ⟨packet, queue, filled, isData, outcome⟩
      · rw [same]
        exact Or.inr (Or.inl ⟨idle, Or.inr ⟨receives.1, empty⟩⟩)
      · have ended := served.seen seen
        rw [receives.1] at ended
        cases ended
      · change state.queue = _ at filled
        rw [filled] at stream
        rcases head_of_stream stream with ⟨left, _, _, _⟩ | ⟨input, others, _, isInput, _⟩
        · refine Or.inr (Or.inr ⟨waiting, ?_, ?_⟩)
          · rw [same]
            refine { idle with kept := { idle.kept with }, seen := fun _ => rfl, taken := ?_ }
            exact ⟨consumed, rest, whole, perm, fun impossible => (by cases impossible),
              fun _ => left⟩
          · rw [same]
            simp only [remaining, filled, List.length_cons]
            omega
        · rw [isInput] at marker
          cases marker
      · change state.queue = _ at filled
        rw [filled] at stream
        rcases head_of_stream stream with ⟨_, marker, _, _⟩ | ⟨input, others, left, isInput, later⟩
        · rw [isData] at marker
          cases marker
        · rw [left] at whole
          have size := perm.length_eq
          rw [List.length_map] at size
          have serves := serves (by rw [size, whole, List.length_append, List.length_cons]; omega)
          rcases outcome with ⟨fits, same⟩ | ⟨full, _⟩
          · have accepted : turn state round = accept { state with
                execution := (pollReady state.execution round.answers).1
                io := state.io.startPacket round.now
                queue := queue } (inputPacket input) round := by
              rw [turned, ← isInput]
              exact same
            rcases served_accept served serves obliging capacity runtimes quiet whole perm later
              receives.1 accepted with ⟨⟨entry, next⟩, queued, sending, pending⟩
            rw [← turned]
            refine Or.inr (Or.inr ⟨waiting ++ [entry], next, ?_⟩)
            simp only [remaining, queued, sending, pending, filled, List.length_cons]
            omega
          · exfalso
            change config.maxStarts <= state.io.packetStarts.length at full
            have starts := served.kept.starts
            have positive : 1 <= config.maxStarts := Nat.le_max_right _ _
            rcases serves.fits with isSync | bounded | short
            · rw [pending_nil_of_quiet served.kept isSync quiet, List.length_nil] at starts
              omega
            · omega
            · rw [List.length_append] at short
              rw [served.pending, List.length_map] at starts
              omega

/-- A turn of an obliging environment ends the stream, or finds nothing to
do, or does a part of the work that is left. -/
theorem served_turn (served : Served model config data done waiting state)
    (serves : (done ++ waiting).length < data.length ->
      config.Serves ((done ++ waiting).length + 1))
    (obliging : Obliging model state (.turn round)) :
    Finished model data (turn state round) ∨
    (Served model config data done waiting (turn state round) ∧
      (forall i, Quiet (state.execution.runtimes i) (round.answers i)) ∧
      (waiting ≠ [] ∨ (state.eos = false ∧ state.queue = []))) ∨
    (Exists fun done' => Exists fun waiting' =>
      Served model config data done' waiting' (turn state round) ∧
        remaining (turn state round) < remaining state) := by
  rcases pollReady_cases state.execution round.answers served.kept.cursor with
    ⟨none_, runtimes, counter, cursor, quiet⟩ |
      ⟨index, sequence, outputs, returns, gives, runtimes, counter, cursor⟩ |
      ⟨index, sequence, error, isAsync, failed, _⟩
  · rcases served_quiet served serves obliging none_ runtimes counter cursor quiet with
      finished | ⟨next, stuck⟩ | ⟨waiting', next, less⟩
    · exact Or.inl finished
    · exact Or.inr (Or.inl ⟨next, quiet, stuck⟩)
    · exact Or.inr (Or.inr ⟨done, waiting', next, less⟩)
  · rcases served_emit served obliging returns gives runtimes with
      ⟨entry, before, after, _, next, queued, sending, _, pending, _⟩
    refine Or.inr (Or.inr ⟨done ++ [entry], before ++ after, next, ?_⟩)
    rw [remaining, remaining, queued, sending]
    omega
  · rcases obliging.1 index isAsync with waits | ⟨_, _, _, answered⟩
    · rw [waits] at failed
      cases failed
    · rw [answered] at failed
      cases failed

/-- A step of an obliging environment keeps the element serving its stream,
or ends it. -/
theorem served_step (served : Served model config data done waiting state)
    (serves : config.Serves data.length) {label : Label n T} {next : State n T R M}
    (obliging : Obliging model state label)
    (stepped : (machine config).step state label = some next) :
    (Exists fun done' => Exists fun waiting' => Served model config data done' waiting' next) ∨
      Finished model data next := by
  cases label with
  | push => exact Or.inl ⟨done, waiting, served_push served stepped⟩
  | turn round =>
      simp only [machine, step, served.running, Option.some.injEq] at stepped
      subst stepped
      rcases served_turn served serves.mono obliging with
        finished | ⟨next, _⟩ | ⟨done', waiting', next, _⟩
      · exact Or.inr finished
      · exact Or.inl ⟨done, waiting, next⟩
      · exact Or.inl ⟨done', waiting', next⟩

theorem finished_step (finished : Finished model data state) {label : Label n T}
    {next : State n T R M} (stepped : (machine config).step state label = some next) :
    Finished model data next := by
  cases label with
  | push =>
      simp only [machine, step] at stepped
      split at stepped
      · cases stepped
      · split at stepped
        · cases stepped
          exact { finished with }
        · cases stepped
  | turn round =>
      simp only [machine, step, finished.returned] at stepped
      cases stepped

end Preservation

/-! ## The stream can always be brought to its end -/

/-- A turn in which the given submission is completed, if it can be. -/
def finish (model : Model n T) (state : State n T R M) (entry : Entry n M T) : Round n T where
  answers := fun i =>
    if i = entry.1 then .ready (model.infer entry.1 entry.2.1 [entry.2.2.2]) entry.2.1
    else .pending
  now := 0
  checkout := .ok entry.1
  answer := fun inputs =>
    .ok (model.infer entry.1 (state.execution.runtimes entry.1).nextSequence inputs)

section Progress

variable {model : Model n T} {config : Config n} {data : List (PacketMeta M × T)}
  {done waiting : List (Entry n M T)} {state : State n T R M}

theorem finish_obliging (served : Served model config data done waiting state)
    {entry : Entry n M T} (waits : entry ∈ waiting) :
    Obliging model state (.turn (finish model state entry)) := by
  refine ⟨fun i isAsync => ?_, entry.1, rfl, fun _ => rfl⟩
  by_cases same : i = entry.1
  · subst same
    refine Or.inr ⟨entry.2.1, [entry.2.2.2], ?_, if_pos rfl⟩
    rw [served.kept.modes] at isAsync
    rw [served.held isAsync]
    exact List.mem_map.mpr ⟨entry, List.mem_filter.mpr ⟨waits, decide_eq_true rfl⟩, rfl⟩
  · exact Or.inl (if_neg same)

theorem finish_not_quiet (served : Served model config data done waiting state)
    {entry : Entry n M T} (waits : entry ∈ waiting) :
    ¬ forall i, Quiet (state.execution.runtimes i) ((finish model state entry).answers i) := by
  intro quiet
  cases mode : config.isAsync with
  | true =>
      have silent := quiet entry.1
      unfold Quiet finish at silent
      rw [served.kept.modes, mode, if_pos rfl] at silent
      dsimp only at silent
      rw [if_pos rfl] at silent
      rcases silent with impossible | impossible <;> cases impossible
  | false =>
      have empty := pending_nil_of_quiet served.kept mode quiet
      rw [served.pending, List.map_eq_nil_iff] at empty
      rw [empty] at waits
      cases waits

/-- From every state that serves the stream, an obliging environment can
bring it to its end. -/
theorem served_leads (served : Served model config data done waiting state)
    (serves : config.Serves data.length) :
    Exists fun final => (machine config).Leads (Obliging model) state final ∧
      Finished model data final := by
  have stepped : forall {done waiting : List (Entry n M T)} {state : State n T R M},
      Served model config data done waiting state -> forall round,
      (machine config).step state (.turn round) = some (turn state round) := by
    intro done waiting state served round
    simp only [machine, step, served.running]
  induction work : remaining state using Nat.strong_induction_on generalizing done waiting state
    with
  | _ work_ ih =>
      have onward : forall round, Obliging model state (.turn round) ->
          (waiting ≠ [] ->
            ¬ forall i, Quiet (state.execution.runtimes i) (round.answers i)) ->
          ¬ (state.eos = false ∧ state.queue = []) ∨ waiting ≠ [] ->
          Exists fun final => (machine config).Leads (Obliging model) state final ∧
            Finished model data final := by
        intro round obliging busy free
        rcases served_turn served serves.mono obliging with
          finished | ⟨_, quiet, stuck⟩ | ⟨done', waiting', next, less⟩
        · exact ⟨_, Machine.Leads.step _ (Machine.Leads.refl _ _ _) obliging
            (stepped served round), finished⟩
        · exfalso
          rcases stuck with waits | stuck
          · exact busy waits quiet
          · rcases free with free | waits
            · exact free stuck
            · exact busy waits quiet
        · rcases ih _ (by omega) next rfl with ⟨final, later, finished⟩
          exact ⟨final, Machine.Leads.head _ obliging (stepped served round) later, finished⟩
      cases waiting with
      | cons entry others =>
          have member : entry ∈ entry :: others := List.mem_cons_self
          exact onward _ (finish_obliging served member) (fun _ => finish_not_quiet served member)
            (Or.inr (List.cons_ne_nil _ _))
      | nil =>
          by_cases dry : state.eos = false ∧ state.queue = []
          · rcases served.taken with ⟨consumed, rest, _, _, open_, _⟩
            have stream := open_ dry.1
            rw [dry.2, List.nil_append] at stream
            cases sending : state.upstream with
            | nil =>
                rw [sending] at stream
                exact absurd stream.symm
                  (List.append_ne_nil_of_right_ne_nil _ (List.cons_ne_nil _ _))
            | cons packet later =>
                have pushed := push_empty config dry.2 sending
                have pushes : Obliging model state .push := trivial
                rcases ih _ (by
                  rw [← work]
                  simp only [remaining, sending, dry.2, List.length_cons, List.length_nil]
                  omega) (served_push served pushed) rfl with ⟨final, rest, finished⟩
                exact ⟨final, Machine.Leads.head _ pushes pushed rest, finished⟩
          · exact onward _ (feed_obliging model state ⟨0, config.nonempty⟩)
              (fun impossible => absurd rfl impossible) (Or.inl dry)

end Progress

/-! ## Longer streams use up the sequence numbers -/

section Exhaustion

variable {model : Model n T} {config : Config n} {data : List (PacketMeta M × T)}
  {done waiting : List (Entry n M T)} {state : State n T R M}

/-- What has been submitted and what is left make up the stream. -/
private theorem Served.lengths (served : Served model config data done waiting state)
    (notEnded : state.eos = false) :
    (done ++ waiting).length + (state.queue ++ state.upstream).length = data.length + 1 := by
  rcases served.taken with ⟨consumed, rest, whole, perm, open_, _⟩
  have size := perm.length_eq
  rw [List.length_map] at size
  rw [open_ notEnded, size, whole, inputStream, List.length_append, List.length_append,
    List.length_map, List.length_singleton]
  omega

/-- What a served state with nothing waiting offers to a feeding turn. -/
private theorem Served.rested (served : Served model config data done [] state) :
    (config.isAsync = false -> forall i, (state.execution.runtimes i).syncResult = none) ∧
      state.pending = [] ∧ state.io.packetStarts.length < config.maxStarts ∧
      forall i, (state.execution.runtimes i).currentInFlight < config.maxInFlight := by
  have empties : config.isAsync = false ->
      forall i, (state.execution.runtimes i).syncResult = none := by
    intro isSync i
    cases slot : (state.execution.runtimes i).syncResult with
    | none => rfl
    | some result =>
        rcases served.slots isSync i result.1 result.2 slot with ⟨_, impossible, _⟩
        cases impossible
  have empty : state.pending = [] := served.pending
  have starts := served.kept.starts
  rw [empty, List.length_nil] at starts
  refine ⟨empties, empty, ?_, fun i => ?_⟩
  · exact Nat.lt_of_le_of_lt starts (Nat.lt_of_lt_of_le Nat.one_pos (Nat.le_max_right _ _))
  · refine Nat.lt_of_le_of_lt (m := 0) ?_
      (Nat.lt_of_lt_of_le Nat.one_pos (Nat.le_max_right _ _))
    unfold Runtime.currentInFlight
    rw [served.kept.modes]
    cases mode : config.isAsync with
    | true =>
        rw [if_pos rfl, served.held mode i]
        exact Nat.le_refl _
    | false =>
        rw [if_neg Bool.false_ne_true, empties mode i]
        exact Nat.le_refl _

/-- With the pipe empty and input left, the upstream can send its next input. -/
private theorem served_next (served : Served model config data done waiting state)
    (notEnded : state.eos = false) (dry : state.queue = [])
    (left : (done ++ waiting).length < data.length) :
    Exists fun input => Exists fun next =>
      (machine config).Leads (Obliging model) state next ∧
        Served model config data done waiting next ∧ next.eos = false ∧
        next.queue = [inputPacket input] ∧ next.execution = state.execution := by
  have lengths := served.lengths notEnded
  rcases served.taken with ⟨consumed, rest, _, _, open_, _⟩
  have stream := open_ notEnded
  rw [dry, List.nil_append] at stream lengths
  cases rest with
  | nil =>
      rw [stream] at lengths
      change _ + 1 = _ at lengths
      omega
  | cons input others =>
      have pushed := push_empty config dry stream
      have pushes : Obliging model state .push := trivial
      exact ⟨input, _, Machine.Leads.step _ (Machine.Leads.refl _ _ _) pushes pushed,
        served_push served pushed, notEnded, rfl, rfl⟩

/-- One more input submitted to the first instance and completed. -/
private theorem serve_one (served : Served model config data done [] state)
    (serves : config.Serves (done.length + 1)) (notEnded : state.eos = false)
    (dry : state.queue = []) (left : done.length < data.length)
    (aligned : (state.execution.runtimes ⟨0, config.nonempty⟩).nextSequence = done.length) :
    Exists fun next => Exists fun done' =>
      (machine config).Leads (Obliging model) state next ∧
        Served model config data done' [] next ∧ next.eos = false ∧ next.queue = [] ∧
        done'.length = done.length + 1 ∧
        (next.execution.runtimes ⟨0, config.nonempty⟩).nextSequence = done.length + 1 := by
  rcases served_next served notEnded dry (by rw [List.append_nil]; exact left) with
    ⟨input, filled, pushed, servedFilled, openFilled, queued, sameExecution⟩
  rcases servedFilled.rested with ⟨slots, empty, fits, admits⟩
  have numbered := serves.numbered
  have aligned' : (filled.execution.runtimes ⟨0, config.nonempty⟩).nextSequence =
      done.length := by
    rw [sameExecution]
    exact aligned
  rcases ((turn_feed model servedFilled.kept openFilled ⟨0, config.nonempty⟩ slots
    (by rw [empty]; exact Nat.lt_of_lt_of_le Nat.one_pos (Nat.le_max_right _ _)) queued
    (rfl : (inputPacket input).tensorRef = some input.2) rfl).2 fits (admits _)).2
    (by rw [aligned']; exact numbered) with ⟨execution, runtimes, turned⟩
  have obliging := feed_obliging model filled ⟨0, config.nonempty⟩
  have fed : (machine config).step filled (.turn (feed model filled ⟨0, config.nonempty⟩)) =
      some (turn filled (feed model filled ⟨0, config.nonempty⟩)) := by
    simp only [machine, step, servedFilled.running]
  rcases served_turn servedFilled (fun _ => by rw [List.append_nil]; exact serves) obliging with
    finished | ⟨_, _, impossible | ⟨_, stuck⟩⟩ | ⟨done₁, waiting₁, servedFed, _⟩
  · have returned := finished.returned
    rw [turned] at returned
    change filled.returned = _ at returned
    rw [servedFilled.running] at returned
    cases returned
  · exact absurd rfl impossible
  · rw [queued] at stuck
    cases stuck
  · generalize fedState : turn filled (feed model filled ⟨0, config.nonempty⟩) = fedNext at *
    have openFed : fedNext.eos = false := by
      rw [turned]
      exact openFilled
    have dryFed : fedNext.queue = [] := by
      rw [turned]
    have one : waiting₁.length = 1 := by
      have pending := congrArg List.length servedFed.pending
      rw [turned, List.length_map] at pending
      change (filled.pending ++ [_]).length = _ at pending
      rw [empty] at pending
      exact pending.symm
    have sequence : (fedNext.execution.runtimes ⟨0, config.nonempty⟩).nextSequence =
        done.length + 1 := by
      rw [turned]
      dsimp only
      rw [runtimes, Function.update_self, submitted_nextSequence, aligned']
    have upstreamFed : fedNext.upstream = filled.upstream := by
      rw [turned]
    have lengths := servedFilled.lengths openFilled
    have lengthsFed := servedFed.lengths openFed
    rw [queued, List.append_nil] at lengths
    rw [dryFed, upstreamFed] at lengthsFed
    simp only [List.length_append, List.length_singleton, List.length_nil, one]
      at lengths lengthsFed
    rcases List.length_eq_one_iff.mp one with ⟨entry, rfl⟩
    have member : entry ∈ [entry] := List.mem_singleton_self _
    have finishes := finish_obliging servedFed member
    have completes : (machine config).step fedNext (.turn (finish model fedNext entry)) =
        some (turn fedNext (finish model fedNext entry)) := by
      simp only [machine, step, servedFed.running]
    rcases pollReady_cases fedNext.execution (finish model fedNext entry).answers
      servedFed.kept.cursor with
      ⟨_, _, _, _, quiet⟩ | ⟨index, found, outputs, returns, gives, changed, _, _⟩ |
        ⟨index, _, _, isAsync, failed, _⟩
    · exact absurd quiet (finish_not_quiet servedFed member)
    · rcases served_emit servedFed finishes returns gives changed with
        ⟨other, before, after, split, next, queuedNext, _, openNext, _, sequences⟩
      have sizes := congrArg List.length split
      simp only [List.length_append, List.length_cons, List.length_nil] at sizes
      have noneBefore : before = [] := List.eq_nil_of_length_eq_zero (by omega)
      have noneAfter : after = [] := List.eq_nil_of_length_eq_zero (by omega)
      rw [noneBefore, noneAfter, List.append_nil] at next
      refine ⟨_, done₁ ++ [other], ?_, next, openNext.trans openFed, queuedNext.trans dryFed, ?_,
        ?_⟩
      · exact Machine.Leads.step _ (Machine.Leads.step _ pushed obliging fed) finishes completes
      · rw [List.length_append, List.length_singleton]
        omega
      · rw [sequences]
        exact sequence
    · rcases finishes.1 index isAsync with waits | ⟨_, _, _, answered⟩
      · rw [waits] at failed
        cases failed
      · rw [answered] at failed
        cases failed

/-- A run that serves the first inputs one at a time. -/
private theorem serve_many (model : Model n T) (config : Config n)
    (data : List (PacketMeta M × T)) (count : Nat) (available : count <= data.length)
    (serves : config.Serves count) :
    Exists fun state : State n T R M => Exists fun done =>
      (machine config).Leads (Obliging model) (initial config (inputStream data)) state ∧
        Served model config data done [] state ∧ state.eos = false ∧ state.queue = [] ∧
        done.length = count ∧
        (state.execution.runtimes ⟨0, config.nonempty⟩).nextSequence = count := by
  induction count with
  | zero =>
      exact ⟨_, [], Machine.Leads.refl _ _ _, initial_served model config data, rfl, rfl, rfl, rfl⟩
  | succ count ih =>
      have fewer : config.Serves count :=
        { numbered := Nat.le_of_succ_le serves.numbered
          fits := serves.fits.imp_right (Or.imp_right Nat.le_of_succ_le) }
      rcases ih (by omega) fewer with
        ⟨state, done, leads, served, notEnded, dry, size, aligned⟩
      rw [← size] at serves aligned
      rcases serve_one served serves notEnded dry (by omega) aligned with
        ⟨next, done', later, servedNext, openNext, dryNext, sizeNext, alignedNext⟩
      refine ⟨next, done', Machine.Leads.trans _ leads later, servedNext, openNext, dryNext, ?_, ?_⟩
      · rw [sizeNext, size]
      · rw [alignedNext, size]

/-- A stream with more inputs than sequence numbers stops the element. -/
private theorem exhausted_reachable (model : Model n T)
    (fits : config.isAsync = false ∨ config.maxInFlight <= config.maxStarts ∨
      data.length <= config.maxStarts) (long : u64Max < data.length) :
    Exists fun state : State n T R M =>
      (machine config).Leads (Obliging model) (initial config (inputStream data)) state ∧
        state.returned = some (.error (.runtimeBackend
          Backend.Error.sequenceExhausted.toText)) := by
  have serves : config.Serves u64Max :=
    { numbered := Nat.le_refl _
      fits := fits.imp_right (Or.imp_right (Nat.le_trans (Nat.le_of_lt long))) }
  rcases serve_many (R := R) model config data u64Max (Nat.le_of_lt long) serves with
    ⟨state, done, leads, served, notEnded, dry, size, aligned⟩
  rcases served_next served notEnded dry (by rw [List.append_nil, size]; exact long) with
    ⟨input, filled, pushed, servedFilled, openFilled, queued, sameExecution⟩
  rcases servedFilled.rested with ⟨slots, empty, starts, admits⟩
  have stops := ((turn_feed model servedFilled.kept openFilled ⟨0, config.nonempty⟩ slots
    (by rw [empty]; exact Nat.lt_of_lt_of_le Nat.one_pos (Nat.le_max_right _ _)) queued
    (rfl : (inputPacket input).tensorRef = some input.2) rfl).2 starts (admits _)).1
    (by rw [sameExecution, aligned]; exact Nat.lt_succ_self _)
  have fed : (machine config).step filled (.turn (feed model filled ⟨0, config.nonempty⟩)) =
      some (turn filled (feed model filled ⟨0, config.nonempty⟩)) := by
    simp only [machine, step, servedFilled.running]
  exact ⟨_, Machine.Leads.step _ (Machine.Leads.trans _ leads pushed)
    (feed_obliging model filled _) fed, stops⟩

end Exhaustion

/-! ## When every input is inferred once -/

/-- The inference element serves each input exactly once and can always end
its stream, whatever its backends' order of completion, exactly when there
are fewer than 2^64 inputs and the start queue has room for as many of them
as can be in flight. -/
theorem exactlyOnce_iff (model : Model n T) (config : Config n)
    (data : List (PacketMeta M × T)) :
    (forall (labels : List (Label n T)) (final : State n T R M),
      (machine config).Meets (Obliging model)
        (initial config (inputStream data) : State n T R M) labels ->
      (machine config).run (initial config (inputStream data)) labels = some final ->
      ExactlyOnce model data final ∧
        Exists fun last => (machine config).Leads (Obliging model) final last ∧
          last.eosSent = true) <->
    data.length <= u64Max ∧ (config.isAsync = false ∨
      config.maxInFlight <= config.maxStarts ∨ data.length <= config.maxStarts) := by
  constructor
  · intro always
    have fits : config.isAsync = false ∨ config.maxInFlight <= config.maxStarts ∨
        data.length <= config.maxStarts := by
      by_contra outside
      rw [not_or, not_or, Bool.not_eq_false, Nat.not_le, Nat.not_le] at outside
      rcases overrun_reachable (R := R) model outside.1 outside.2.1 data outside.2.2 with
        ⟨final, ⟨labels, meets, reached⟩, requested, limit, overrun⟩
      exact (always labels final meets reached).1.alive _ overrun
    refine ⟨?_, fits⟩
    by_contra long
    rcases exhausted_reachable (R := R) model fits (Nat.lt_of_not_le long) with
      ⟨final, ⟨labels, meets, reached⟩, stopped⟩
    exact (always labels final meets reached).1.alive _ stopped
  · rintro ⟨numbered, fits⟩ labels final meets reached
    have serves : config.Serves data.length := ⟨numbered, fits⟩
    have inv := (machine config).run_invariant_of_meets
      (fun state : State n T R M =>
        (Exists fun done => Exists fun waiting => Served model config data done waiting state) ∨
          Finished model data state)
      (fun state label next holds obliging stepped => by
        rcases holds with ⟨done, waiting, served⟩ | finished
        · exact served_step served serves obliging stepped
        · exact Or.inr (finished_step finished stepped))
      (Or.inl ⟨[], [], initial_served model config data⟩) meets reached
    rcases inv with ⟨done, waiting, served⟩ | finished
    · rcases served_leads served serves with ⟨last, leads, finished⟩
      exact ⟨exactlyOnce_of_served served, last, leads, finished.ended⟩
    · exact ⟨exactlyOnce_of_finished finished, final, Machine.Leads.refl _ _ _, finished.ended⟩

/-- A model with one output, the same for every input. -/
def constant : Model 1 Nat where
  infer := fun _ _ _ => [0]
  productive := fun _ _ _ => List.cons_ne_nil _ _

/-- With one asynchronous instance that admits two submissions over a queue
for one start, the second input stops the element before any output. -/
theorem second_input_not_served :
    ¬ forall (labels : List (Label 1 Nat)) (final : State 1 Nat Unit Unit),
        (machine oneOfTwo).Meets (Obliging constant) oneOfTwoStart labels ->
        (machine oneOfTwo).run oneOfTwoStart labels = some final ->
        ExactlyOnce constant [(PacketMeta.empty Unit, 1), (PacketMeta.empty Unit, 2)] final ∧
          Exists fun last => (machine oneOfTwo).Leads (Obliging constant) final last ∧
            last.eosSent = true := by
  intro always
  have stops : ((machine oneOfTwo).run oneOfTwoStart
      [.push, .turn busyRound, .push, .turn busyRound]).map State.returned =
      some (some (.error (.resourceLimit "infer/packet_starts" 2 1))) := by
    decide +kernel
  rcases Option.map_eq_some_iff.mp stops with ⟨final, reached, returned⟩
  have obliging : forall state : State 1 Nat Unit Unit,
      Obliging constant state (.turn busyRound) := by
    intro state
    exact ⟨fun _ _ => Or.inl rfl, 0, rfl, fun _ => rfl⟩
  have pushes : forall state : State 1 Nat Unit Unit, Obliging constant state .push :=
    fun _ => trivial
  refine (always _ final ?_ reached).1.alive _ returned
  exact ⟨pushes _, fun _ _ => ⟨obliging _, fun _ _ => ⟨pushes _, fun _ _ =>
    ⟨obliging _, fun _ _ => trivial⟩⟩⟩⟩

end Inference
end Graph
end DyunGu
