import DyunGu.Lib.Indexed
import DyunGu.Lib.Machine

namespace DyunGu

/-!
# Networks of sequential processes

Processes run beside each other and are joined by queues.  A process does one
thing at a time: it takes the oldest message of its one input, blocking while
that is empty, or it puts a message on a channel, blocking while that is full.
A channel has one writer and at most one reader.

A process can also be run alone, on the whole list of what it will ever be
sent.  If one family of streams fits together for all processes, so that what
each is sent is what the others write, then it decides every interleaving: it
fixes where each process ends and how many moves are left.
-/

/-- What a process does next. -/
inductive Action (Chan Msg Local : Type) where
  | read (resume : Msg -> Local)
  | write (chan : Chan) (message : Msg) (next : Local)
  | halt

structure Network (k : Nat) (Chan Msg Local : Type) where
  act : Fin k -> Local -> Action Chan Msg Local
  input : Fin k -> Option Chan
  writer : Chan -> Option (Fin k)
  capacity : Chan -> Option Nat
  writes : forall {node own chan message next}, act node own = .write chan message next ->
    writer chan = some node
  readOnce : forall {first second chan}, input first = some chan -> input second = some chan ->
    first = second

namespace Network

structure State (k : Nat) (Chan Msg Local : Type) where
  own : Fin k -> Local
  queue : Chan -> List Msg

/-- What came of a process that was run alone, with the messages it did not
read. -/
structure Outcome (Chan Msg Local : Type) where
  final : Local
  writes : Chan -> List Msg
  left : List Msg

variable {k : Nat} {Chan Msg Local : Type} [DecidableEq Chan]

/-- One more message before all others on a channel. -/
def Outcome.precede (outcome : Outcome Chan Msg Local) (chan : Chan) (message : Msg) :
    Outcome Chan Msg Local :=
  { outcome with writes := Function.update outcome.writes chan (message :: outcome.writes chan) }

variable (network : Network k Chan Msg Local)

def hasRoom (chan : Chan) (held : List Msg) : Bool :=
  (network.capacity chan).all fun bound => decide (held.length < bound)

def step (state : State k Chan Msg Local) (node : Fin k) : Option (State k Chan Msg Local) :=
  match network.act node (state.own node) with
  | .read resume =>
      match network.input node with
      | none => none
      | some chan =>
          match state.queue chan with
          | [] => none
          | message :: rest =>
              some
                { own := Function.update state.own node (resume message)
                  queue := Function.update state.queue chan rest }
  | .write chan message next =>
      if network.hasRoom chan (state.queue chan) then
        some
          { own := Function.update state.own node next
            queue := Function.update state.queue chan (state.queue chan ++ [message]) }
      else none
  | .halt => none

def machine : Machine (State k Chan Msg Local) (Fin k) where
  step := network.step

/-- Run a process alone until it halts, which it does after exactly this many
moves or not at all. -/
def alone (node : Fin k) : Nat -> Local -> List Msg -> Option (Outcome Chan Msg Local)
  | 0, own, inputs =>
      match network.act node own with
      | .halt => some ⟨own, fun _ => [], inputs⟩
      | .read _ | .write _ _ _ => none
  | moves + 1, own, inputs =>
      match network.act node own with
      | .halt => none
      | .read resume =>
          match inputs with
          | [] => none
          | message :: rest => alone node moves (resume message) rest
      | .write chan message next =>
          (alone node moves next inputs).map fun outcome => outcome.precede chan message

/-- What a process reads, given what travels on every channel. -/
def incoming (stream : Chan -> List Msg) (node : Fin k) : List Msg :=
  match network.input node with
  | some chan => stream chan
  | none => []

/-- What is written on a channel, given what came of every process. -/
def written (plan : Fin k -> Outcome Chan Msg Local) (chan : Chan) : List Msg :=
  match network.writer chan with
  | some node => (plan node).writes chan
  | none => []

/-! ## One process alone -/

section Alone

variable {network} {node : Fin k} {own : Local} {inputs : List Msg} {moves : Nat}
  {outcome : Outcome Chan Msg Local}

theorem alone_halt (halts : network.act node own = .halt)
    (comes : network.alone node moves own inputs = some outcome) :
    moves = 0 ∧ outcome = ⟨own, fun _ => [], inputs⟩ := by
  cases moves with
  | zero =>
      rw [alone, halts] at comes
      exact ⟨rfl, (Option.some.inj comes).symm⟩
  | succ moves =>
      rw [alone, halts] at comes
      cases comes

theorem alone_read {resume : Msg -> Local} (reads : network.act node own = .read resume)
    (comes : network.alone node moves own inputs = some outcome) :
    Exists fun fewer => Exists fun message => Exists fun rest =>
      moves = fewer + 1 ∧ inputs = message :: rest ∧
        network.alone node fewer (resume message) rest = some outcome := by
  cases moves with
  | zero =>
      rw [alone, reads] at comes
      cases comes
  | succ moves =>
      rw [alone, reads] at comes
      cases inputs with
      | nil => cases comes
      | cons message rest => exact ⟨moves, message, rest, rfl, rfl, comes⟩

theorem alone_write {chan : Chan} {message : Msg} {next : Local}
    (writes : network.act node own = .write chan message next)
    (comes : network.alone node moves own inputs = some outcome) :
    Exists fun fewer => Exists fun later =>
      moves = fewer + 1 ∧ network.alone node fewer next inputs = some later ∧
        outcome = later.precede chan message := by
  cases moves with
  | zero =>
      rw [alone, writes] at comes
      cases comes
  | succ moves =>
      rw [alone, writes] at comes
      rcases Option.map_eq_some_iff.mp comes with ⟨later, laterComes, isOutcome⟩
      exact ⟨moves, later, rfl, laterComes, isOutcome.symm⟩

end Alone

/-! ## What a step does -/

section Steps

variable {network} {state next : State k Chan Msg Local} {node : Fin k}

/-- A step takes the oldest message of the input or adds the newest one of a
channel with room. -/
theorem step_cases (stepped : network.step state node = some next) :
    (Exists fun resume => Exists fun chan => Exists fun message => Exists fun rest =>
      network.act node (state.own node) = .read resume ∧ network.input node = some chan ∧
        state.queue chan = message :: rest ∧
        next =
          { own := Function.update state.own node (resume message)
            queue := Function.update state.queue chan rest }) ∨
    (Exists fun chan => Exists fun message => Exists fun after =>
      network.act node (state.own node) = .write chan message after ∧
        network.hasRoom chan (state.queue chan) = true ∧
        next =
          { own := Function.update state.own node after
            queue := Function.update state.queue chan (state.queue chan ++ [message]) }) := by
  unfold step at stepped
  split at stepped
  · rename_i resume reads
    split at stepped
    · cases stepped
    · rename_i chan isInput
      split at stepped
      · cases stepped
      · rename_i message rest held
        exact Or.inl ⟨resume, chan, message, rest, reads, isInput, held,
          (Option.some.inj stepped).symm⟩
  · rename_i chan message after writes
    split at stepped
    · rename_i room
      exact Or.inr ⟨chan, message, after, writes, room, (Option.some.inj stepped).symm⟩
    · cases stepped
  · cases stepped

/-- A process that can move is not done, and one that cannot is done, waits for
a message, or waits for room. -/
theorem step_none (stuck : network.step state node = none) :
    network.act node (state.own node) = .halt ∨
    (Exists fun resume => network.act node (state.own node) = .read resume ∧
      forall chan, network.input node = some chan -> state.queue chan = []) ∨
    (Exists fun chan => Exists fun message => Exists fun after =>
      network.act node (state.own node) = .write chan message after ∧
        network.hasRoom chan (state.queue chan) = false) := by
  unfold step at stuck
  split at stuck
  · rename_i resume reads
    refine Or.inr (Or.inl ⟨resume, reads, ?_⟩)
    intro chan isInput
    rw [isInput] at stuck
    cases held : state.queue chan with
    | nil => rfl
    | cons message rest =>
        dsimp only at stuck
        rw [held] at stuck
        cases stuck
  · rename_i chan message after writes
    split at stuck
    · cases stuck
    · rename_i full
      exact Or.inr (Or.inr ⟨chan, message, after, writes, Bool.not_eq_true _ ▸ full⟩)
  · rename_i halts
    exact Or.inl halts

end Steps

/-! ## Plans -/

/-- What is still to travel on every channel, what will come of every process
that is sent it, and in how many moves. -/
structure Plan (state : State k Chan Msg Local) (stream : Chan -> List Msg)
    (plan : Fin k -> Outcome Chan Msg Local) (moves : Fin k -> Nat) : Prop where
  alone : forall node, network.alone node (moves node) (state.own node)
    (network.incoming stream node) = some (plan node)
  consumed : forall node, (plan node).left = []
  flows : forall chan, stream chan = state.queue chan ++ network.written plan chan

/-- Every process is going to end here, after so many moves of all together. -/
def Predicts (state : State k Chan Msg Local) (final : Fin k -> Local) (remaining : Nat) : Prop :=
  Exists fun stream => Exists fun plan => Exists fun moves =>
    network.Plan state stream plan moves ∧ (forall node, (plan node).final = final node) ∧
      ∑ node, moves node = remaining

section Plans

variable {network} {state next : State k Chan Msg Local} {final : Fin k -> Local}
  {remaining : Nat}

/-- One process has one move less to make. -/
theorem sum_moves {moves : Fin k -> Nat} {node : Fin k} {fewer : Nat}
    (isMoves : moves node = fewer + 1) :
    ∑ other, moves other = ∑ other, Function.update moves node fewer other + 1 := by
  have replaced := Indexed.sum_update id moves node fewer
  simp only [id_eq, isMoves] at replaced
  omega

/-- Reading a message takes it off the stream of the one channel that this
process reads. -/
theorem Plan.read {stream : Chan -> List Msg} {plan : Fin k -> Outcome Chan Msg Local}
    {moves : Fin k -> Nat} (planned : network.Plan state stream plan moves) {node : Fin k}
    {resume : Msg -> Local} {chan : Chan} {message : Msg} {rest : List Msg}
    (reads : network.act node (state.own node) = .read resume)
    (isInput : network.input node = some chan) (held : state.queue chan = message :: rest) :
    Exists fun fewer => moves node = fewer + 1 ∧
      network.Plan
        { own := Function.update state.own node (resume message)
          queue := Function.update state.queue chan rest }
        (Function.update stream chan (rest ++ network.written plan chan)) plan
        (Function.update moves node fewer) := by
  have comes := planned.alone node
  have isStream : network.incoming stream node =
      message :: (rest ++ network.written plan chan) := by
    rw [incoming, isInput]
    dsimp only
    rw [planned.flows chan, held, List.cons_append]
  rcases alone_read reads comes with ⟨fewer, first, others, isMoves, split, later⟩
  rw [isStream] at split
  cases split
  refine ⟨fewer, isMoves, ?_, planned.consumed, ?_⟩
  · intro other
    by_cases same : other = node
    · subst same
      simp only [Function.update_self]
      have now : network.incoming
          (Function.update stream chan (rest ++ network.written plan chan)) other =
          rest ++ network.written plan chan := by
        rw [incoming, isInput]
        exact Function.update_self _ _ _
      rw [now]
      exact later
    · have apart : network.incoming
          (Function.update stream chan (rest ++ network.written plan chan)) other =
          network.incoming stream other := by
        unfold incoming
        split
        · rename_i read isRead
          have differ : read ≠ chan := fun equal =>
            same (network.readOnce (equal ▸ isRead) isInput)
          rw [Function.update_of_ne differ]
        · rfl
      simp only [Function.update_of_ne same, apart]
      exact planned.alone other
  · intro other
    by_cases same : other = chan
    · subst same
      simp only [Function.update_self]
    · simp only [Function.update_of_ne same]
      exact planned.flows other

/-- Writing a message moves it from what is still to be written into the queue. -/
theorem Plan.write {stream : Chan -> List Msg} {plan : Fin k -> Outcome Chan Msg Local}
    {moves : Fin k -> Nat} (planned : network.Plan state stream plan moves) {node : Fin k}
    {chan : Chan} {message : Msg} {after : Local}
    (writes : network.act node (state.own node) = .write chan message after) :
    Exists fun fewer => Exists fun later => moves node = fewer + 1 ∧
      later.final = (plan node).final ∧
      network.Plan
        { own := Function.update state.own node after
          queue := Function.update state.queue chan (state.queue chan ++ [message]) }
        stream (Function.update plan node later) (Function.update moves node fewer) := by
  have isWriter := network.writes writes
  rcases alone_write writes (planned.alone node) with ⟨fewer, later, isMoves, comes, isPlan⟩
  refine ⟨fewer, later, isMoves, by rw [isPlan]; rfl, ?_, ?_, ?_⟩
  · intro other
    by_cases same : other = node
    · subst same
      simp only [Function.update_self]
      exact comes
    · simp only [Function.update_of_ne same]
      exact planned.alone other
  · intro other
    by_cases same : other = node
    · subst same
      rw [Function.update_self]
      have whole := planned.consumed other
      rw [isPlan] at whole
      exact whole
    · rw [Function.update_of_ne same]
      exact planned.consumed other
  · intro other
    rw [planned.flows other]
    by_cases same : other = chan
    · subst same
      simp only [written, isWriter, Function.update_self, isPlan, Outcome.precede,
        List.append_assoc, List.singleton_append]
    · simp only [Function.update_of_ne same]
      congr 1
      unfold written
      split
      · rename_i writer _
        by_cases isNode : writer = node
        · subst isNode
          rw [Function.update_self, isPlan]
          exact Function.update_of_ne same _ _
        · rw [Function.update_of_ne isNode]
      · rfl

/-- One step leaves every prediction as it is, and one move less. -/
theorem Predicts.step {node : Fin k} (predicts : network.Predicts state final remaining)
    (stepped : network.step state node = some next) :
    Exists fun fewer => remaining = fewer + 1 ∧ network.Predicts next final fewer := by
  rcases predicts with ⟨stream, plan, moves, planned, ends, total⟩
  rcases step_cases stepped with
    ⟨resume, chan, message, rest, reads, isInput, held, rfl⟩ |
    ⟨chan, message, after, writes, room, rfl⟩
  · rcases planned.read reads isInput held with ⟨fewer, isMoves, now⟩
    refine ⟨∑ other, Function.update moves node fewer other, ?_, _, _, _, now, ends, rfl⟩
    rw [← total, sum_moves isMoves]
  · rcases planned.write writes with ⟨fewer, later, isMoves, same, now⟩
    refine ⟨∑ other, Function.update moves node fewer other, ?_, _, _, _, now, ?_, rfl⟩
    · rw [← total, sum_moves isMoves]
    · intro other
      by_cases isNode : other = node
      · subst isNode
        rw [Function.update_self, same]
        exact ends other
      · rw [Function.update_of_ne isNode]
        exact ends other

/-- A run makes as many moves of the predicted ones as it has steps. -/
theorem Predicts.run {labels : List (Fin k)} (predicts : network.Predicts state final remaining)
    (reached : network.machine.run state labels = some next) :
    Exists fun fewer => remaining = labels.length + fewer ∧
      network.Predicts next final fewer := by
  induction labels generalizing state remaining with
  | nil =>
      rw [Machine.run_nil] at reached
      cases reached
      exact ⟨remaining, by rw [List.length_nil, Nat.zero_add], predicts⟩
  | cons label labels ih =>
      rcases network.machine.run_cons_iff.mp reached with ⟨middle, stepped, rest⟩
      rcases predicts.step stepped with ⟨fewer, isFewer, later⟩
      rcases ih later rest with ⟨left, isLeft, atEnd⟩
      refine ⟨left, ?_, atEnd⟩
      rw [isFewer, isLeft, List.length_cons]
      omega

/-- With no move left, every process is where it was predicted to end, and
whatever somebody reads is empty. -/
theorem Predicts.ended (predicts : network.Predicts state final 0) :
    state.own = final ∧
      (forall node, network.act node (state.own node) = .halt) ∧
      forall node chan, network.input node = some chan -> state.queue chan = [] := by
  rcases predicts with ⟨stream, plan, moves, planned, ends, total⟩
  have still : forall node, moves node = 0 := fun node =>
    Finset.sum_eq_zero_iff.mp total node (Finset.mem_univ node)
  have outcomes : forall node, network.act node (state.own node) = .halt ∧
      plan node = ⟨state.own node, fun _ => [], network.incoming stream node⟩ := by
    intro node
    have comes := planned.alone node
    rw [still node] at comes
    cases acts : network.act node (state.own node) with
    | halt => exact ⟨rfl, (alone_halt acts comes).2⟩
    | read resume =>
        rw [Network.alone, acts] at comes
        cases comes
    | write chan message after =>
        rw [Network.alone, acts] at comes
        cases comes
  refine ⟨funext fun node => ?_, fun node => (outcomes node).1, ?_⟩
  · have isFinal := ends node
    rw [(outcomes node).2] at isFinal
    exact isFinal
  · intro node chan isInput
    have whole := planned.consumed node
    rw [(outcomes node).2] at whole
    dsimp only at whole
    rw [incoming, isInput] at whole
    dsimp only at whole
    rw [planned.flows chan] at whole
    exact (List.append_eq_nil_iff.mp whole).1

/-- With no move left, no process can move. -/
theorem Predicts.stuck (predicts : network.Predicts state final 0) (node : Fin k) :
    network.step state node = none := by
  have halts := predicts.ended.2.1 node
  unfold Network.step
  rw [halts]

end Plans

/-! ## Networks without cycles -/

/-- Messages go to processes of a higher rank only, and every channel that is
written has a reader and room for a message. -/
structure Layered (rank : Fin k -> Nat) : Prop where
  rises : forall {chan node}, network.writer chan = some node ->
    Exists fun reader => network.input reader = some chan ∧ rank node < rank reader
  roomy : forall {chan node}, network.writer chan = some node -> network.capacity chan ≠ some 0

section Progress

variable {network} {rank : Fin k -> Nat} {state : State k Chan Msg Local}
  {final : Fin k -> Local} {remaining : Nat} {stream : Chan -> List Msg}
  {plan : Fin k -> Outcome Chan Msg Local} {moves : Fin k -> Nat}

/-- If nobody can move then nobody waits for room.  The writer of highest rank
that did would wait for a reader that has a message to read. -/
theorem Layered.no_full (layered : network.Layered rank)
    (planned : network.Plan state stream plan moves)
    (stuck : forall node, network.step state node = none) (node : Fin k) {chan : Chan}
    {message : Msg} {after : Local}
    (writes : network.act node (state.own node) = .write chan message after) : False := by
  classical
  let waiting := Finset.univ.filter fun node => Exists fun chan => Exists fun message =>
    Exists fun after => network.act node (state.own node) = .write chan message after
  have waits : waiting.Nonempty :=
    ⟨node, Finset.mem_filter.mpr ⟨Finset.mem_univ node, chan, message, after, writes⟩⟩
  rcases Finset.exists_max_image waiting rank waits with ⟨highest, isWaiting, highestRank⟩
  rcases (Finset.mem_filter.mp isWaiting).2 with ⟨full, packet, next, isWrite⟩
  rcases layered.rises (network.writes isWrite) with ⟨reader, isInput, above⟩
  have held : state.queue full ≠ [] := by
    rcases step_none (stuck highest) with halts | ⟨resume, reads, _⟩ |
      ⟨other, otherMessage, otherNext, otherWrites, noRoom⟩
    · rw [isWrite] at halts
      cases halts
    · rw [isWrite] at reads
      cases reads
    · rw [isWrite] at otherWrites
      cases otherWrites
      intro empty
      have positive := layered.roomy (network.writes isWrite)
      rw [hasRoom, empty] at noRoom
      cases bound : network.capacity full with
      | none =>
          rw [bound] at noRoom
          cases noRoom
      | some bound' =>
          rw [bound] at noRoom positive
          simp only [Option.all_some, List.length_nil, decide_eq_false_iff_not, not_lt,
            Nat.le_zero] at noRoom
          exact positive (congrArg some noRoom)
  have isStream : network.incoming stream reader =
      state.queue full ++ network.written plan full := by
    rw [incoming, isInput]
    exact planned.flows full
  rcases step_none (stuck reader) with halts | ⟨resume, _, empty⟩ |
    ⟨other, otherMessage, otherNext, otherWrites, _⟩
  · have outcome := (alone_halt halts (planned.alone reader)).2
    have whole := planned.consumed reader
    rw [outcome] at whole
    dsimp only at whole
    rw [isStream] at whole
    exact held (List.append_eq_nil_iff.mp whole).1
  · exact held (empty full isInput)
  · have lower := highestRank reader (Finset.mem_filter.mpr
      ⟨Finset.mem_univ reader, other, otherMessage, otherNext, otherWrites⟩)
    omega

/-- If nobody can move then everybody is done.  The process of lowest rank that
is not would wait for a message that a lower one has still to write. -/
theorem Layered.progress (layered : network.Layered rank)
    (predicts : network.Predicts state final remaining)
    (stuck : forall node, network.step state node = none) : remaining = 0 := by
  rcases predicts with ⟨stream, plan, moves, planned, _, total⟩
  by_contra positive
  let unfinished := Finset.univ.filter fun node => moves node ≠ 0
  have some_ : unfinished.Nonempty := by
    by_contra none_
    rw [Finset.not_nonempty_iff_eq_empty] at none_
    apply positive
    rw [← total]
    apply Finset.sum_eq_zero
    intro node _
    by_contra isMoves
    have member : node ∈ unfinished := Finset.mem_filter.mpr ⟨Finset.mem_univ node, isMoves⟩
    rw [none_] at member
    exact absurd member (Finset.notMem_empty node)
  rcases Finset.exists_min_image unfinished rank some_ with ⟨lowest, isUnfinished, lowestRank⟩
  have isMoves := (Finset.mem_filter.mp isUnfinished).2
  rcases step_none (stuck lowest) with halts | ⟨resume, reads, empty⟩ |
    ⟨chan, message, after, writes, _⟩
  · exact isMoves (alone_halt halts (planned.alone lowest)).1
  · rcases alone_read reads (planned.alone lowest) with ⟨_, message, rest, _, split, _⟩
    cases isInput : network.input lowest with
    | none =>
        rw [incoming, isInput] at split
        cases split
    | some chan =>
        rw [incoming, isInput] at split
        dsimp only at split
        rw [planned.flows chan, empty chan isInput, List.nil_append] at split
        cases isWriter : network.writer chan with
        | none =>
            rw [written, isWriter] at split
            cases split
        | some writer =>
            rcases layered.rises isWriter with ⟨reader, readsChan, below⟩
            have isReader := network.readOnce readsChan isInput
            subst isReader
            have active : moves writer ≠ 0 := by
              intro done
              have comes := planned.alone writer
              rw [done] at comes
              cases acts : network.act writer (state.own writer) with
              | halt =>
                  rw [written, isWriter] at split
                  dsimp only at split
                  rw [(alone_halt acts comes).2] at split
                  cases split
              | read other =>
                  rw [Network.alone, acts] at comes
                  cases comes
              | write other otherMessage otherNext =>
                  rw [Network.alone, acts] at comes
                  cases comes
            have higher := lowestRank writer
              (Finset.mem_filter.mpr ⟨Finset.mem_univ writer, active⟩)
            omega
  · exact layered.no_full planned stuck lowest writes

/-- Nobody can move exactly when no move is left. -/
theorem Layered.stuck_iff (layered : network.Layered rank)
    (predicts : network.Predicts state final remaining) :
    (forall node, network.step state node = none) <-> remaining = 0 := by
  refine ⟨layered.progress predicts, ?_⟩
  intro done node
  exact Predicts.stuck (done ▸ predicts) node

/-- Every run can be carried on to its end. -/
theorem Layered.completes (layered : network.Layered rank)
    (predicts : network.Predicts state final remaining) :
    Exists fun labels => Exists fun last =>
      network.machine.run state labels = some last ∧ labels.length = remaining ∧
        network.Predicts last final 0 := by
  induction remaining generalizing state with
  | zero => exact ⟨[], state, rfl, rfl, predicts⟩
  | succ remaining ih =>
      have moves : Exists fun node => Exists fun next =>
          network.step state node = some next := by
        by_contra none_
        have stuck : forall node, network.step state node = none := by
          intro node
          cases stepped : network.step state node with
          | none => rfl
          | some next => exact absurd ⟨node, next, stepped⟩ none_
        have done := layered.progress predicts stuck
        omega
      rcases moves with ⟨node, next, stepped⟩
      rcases predicts.step stepped with ⟨fewer, isFewer, later⟩
      have isRemaining : fewer = remaining := by omega
      subst isRemaining
      rcases ih later with ⟨labels, last, reached, isLength, atEnd⟩
      refine ⟨node :: labels, last, ?_, by rw [List.length_cons, isLength], atEnd⟩
      exact network.machine.run_cons_iff.mpr ⟨next, stepped, reached⟩

end Progress

/-! ## Solving for the streams -/

section Flow

variable (respond : Fin k -> List Msg -> Chan -> List Msg)

/-- What travels on every channel, after this many rounds in each of which
every process answers the whole of what it is sent. -/
def flow : Nat -> Chan -> List Msg
  | 0, _ => []
  | rounds + 1, chan =>
      match network.writer chan with
      | some node => respond node (network.incoming (flow rounds) node) chan
      | none => []

variable {network} {rank : Fin k -> Nat}

omit [DecidableEq Chan] in
/-- A round more changes nothing for processes of a low rank. -/
theorem Layered.flow_stable (layered : network.Layered rank) {rounds : Nat} {chan : Chan}
    {node : Fin k} (isWriter : network.writer chan = some node) (low : rank node < rounds) :
    network.flow respond rounds chan = network.flow respond (rounds + 1) chan := by
  induction rounds generalizing chan node with
  | zero => omega
  | succ rounds ih =>
      have same : network.incoming (network.flow respond rounds) node =
          network.incoming (network.flow respond (rounds + 1)) node := by
        unfold incoming
        split
        · rename_i read isRead
          cases isSource : network.writer read with
          | none =>
              rw [flow, isSource]
              cases rounds with
              | zero => rfl
              | succ rounds =>
                  rw [flow, isSource]
          | some source =>
              rcases layered.rises isSource with ⟨reader, readsChan, below⟩
              have isReader := network.readOnce readsChan isRead
              subst isReader
              exact ih isSource (by omega)
        · rfl
      rw [flow, flow, isWriter]
      dsimp only
      rw [same]

/-- Once there were as many rounds as ranks, what everybody is sent and what
everybody answers fit together. -/
theorem Layered.predicts_flow (layered : network.Layered rank) {rounds : Nat}
    (enough : forall node, rank node < rounds) {start : Fin k -> Local}
    {plan : Fin k -> Outcome Chan Msg Local} {moves : Fin k -> Nat}
    (comes : forall node, network.alone node (moves node) (start node)
      (network.incoming (network.flow respond rounds) node) = some (plan node))
    (consumed : forall node, (plan node).left = [])
    (responds : forall node chan, network.writer chan = some node ->
      (plan node).writes chan =
        respond node (network.incoming (network.flow respond rounds) node) chan) :
    network.Predicts ⟨start, fun _ => []⟩ (fun node => (plan node).final)
      (∑ node, moves node) := by
  refine ⟨network.flow respond rounds, plan, moves, ⟨comes, consumed, ?_⟩, fun _ => rfl, rfl⟩
  intro chan
  rw [List.nil_append, written]
  cases isWriter : network.writer chan with
  | none =>
      cases rounds with
      | zero => rfl
      | succ rounds => rw [flow, isWriter]
  | some node =>
      dsimp only
      rw [responds node chan isWriter, layered.flow_stable respond isWriter (enough node), flow,
        isWriter]

end Flow

end Network
end DyunGu
