import DyunGu.Execution.Loops

namespace DyunGu
namespace Execution

open DyunGu.Graph

variable {T R M : Type}

/-!
# Workers joined by pipes

Every worker of a deployment has one input pipe at most and the senders of its
ports, and no two workers hold the same end of a pipe.  They run beside each
other with bounded or unbounded pipes.  A worker whose pipe is empty or full
waits, and looks again after the backoff.

Such a run, whatever the interleaving, ends as the plain runs of the elements
do, each of them run alone over the whole list of packets it is sent.
-/

/-- The pipes that packets sent on ports get onto, in order. -/
def onPipe (senders : Senders) (sent : List (String × Packet T R M)) (pipe : Pipe) :
    List (Packet T R M) :=
  sent.flatMap fun entry =>
    ((senders entry.1).filter fun sender => decide (sender = pipe)).map fun _ => entry.2

@[simp] theorem onPipe_nil (senders : Senders) (pipe : Pipe) :
    onPipe senders ([] : List (String × Packet T R M)) pipe = [] := rfl

theorem onPipe_append (senders : Senders) (first second : List (String × Packet T R M))
    (pipe : Pipe) :
    onPipe senders (first ++ second) pipe =
      onPipe senders first pipe ++ onPipe senders second pipe :=
  List.flatMap_append

theorem onPipe_cons (senders : Senders) (port : String) (packet : Packet T R M)
    (sent : List (String × Packet T R M)) (pipe : Pipe) :
    onPipe senders ((port, packet) :: sent) pipe =
      (((senders port).filter fun sender => decide (sender = pipe)).map fun _ => packet) ++
        onPipe senders sent pipe :=
  List.flatMap_cons

/-- Workers with the pipes at their ports. -/
structure Deployment (k : Nat) (T R M : Type) where
  io : Fin k -> ElementIo
  element : Fin k -> Element T R M
  input : Fin k -> Option Pipe
  outputs : Fin k -> Std.TreeMap String (List Pipe)
  readOnce : forall {first second pipe}, input first = some pipe -> input second = some pipe ->
    first = second
  writeOnce : forall {first second : Fin k} {port other : String} {pipe : Pipe},
    pipe ∈ (outputs first).getD port [] -> pipe ∈ (outputs second).getD other [] ->
    first = second
  unstopped : forall node, (io node).shouldStop = false
  unseen : forall node, (io node).eos.seen = false

namespace Deployment

variable {k : Nat} (deployment : Deployment k T R M)

def senders (node : Fin k) : Senders := fun port => (deployment.outputs node).getD port []

/-- The worker that holds the sending end of a pipe. -/
def writer (pipe : Pipe) : Option (Fin k) :=
  (List.finRange k).find? fun node =>
    (deployment.outputs node).toList.any fun entry => decide (pipe ∈ entry.2)

variable {deployment}

theorem writer_eq_some {node : Fin k} {pipe : Pipe} :
    deployment.writer pipe = some node <->
      Exists fun port => pipe ∈ deployment.senders node port := by
  have holds : forall other : Fin k,
      ((deployment.outputs other).toList.any fun entry => decide (pipe ∈ entry.2)) = true <->
        Exists fun port => pipe ∈ deployment.senders other port := by
    intro other
    rw [List.any_eq_true]
    constructor
    · rintro ⟨⟨port, pipes⟩, inTable, isIn⟩
      have found := Std.TreeMap.mem_toList_iff_getElem?_eq_some.mp inTable
      refine ⟨port, ?_⟩
      rw [senders, Std.TreeMap.getD_eq_getD_getElem?, found]
      exact of_decide_eq_true isIn
    · rintro ⟨port, member⟩
      rw [senders, Std.TreeMap.getD_eq_getD_getElem?] at member
      cases found : (deployment.outputs other)[port]? with
      | none =>
          rw [found] at member
          cases member
      | some pipes =>
          rw [found] at member
          exact ⟨(port, pipes), Std.TreeMap.mem_toList_iff_getElem?_eq_some.mpr found,
            decide_eq_true member⟩
  rw [writer]
  constructor
  · intro found
    have here := List.find?_some found
    exact (holds node).mp here
  · rintro ⟨port, member⟩
    cases found : (List.finRange k).find? fun node =>
        (deployment.outputs node).toList.any fun entry => decide (pipe ∈ entry.2) with
    | none =>
        rw [List.find?_eq_none] at found
        exact absurd ((holds node).mpr ⟨port, member⟩) (found node (List.mem_finRange node))
    | some other =>
        have here := List.find?_some found
        rcases (holds other).mp here with ⟨otherPort, otherMember⟩
        rw [deployment.writeOnce otherMember member]

variable (deployment)

def network : Network k Pipe (Packet T R M) (Worker T R M) where
  act := fun node worker => worker.act (deployment.senders node)
  input := deployment.input
  writer := deployment.writer
  capacity := Pipe.capacity
  writes := by
    intro node worker pipe packet next acts
    rw [Worker.act] at acts
    split at acts
    · cases acts
    · split at acts
      · rename_i found
        cases acts
        exact writer_eq_some.mpr ⟨_, List.mem_of_getElem? found⟩
      · cases acts
    · cases acts
  readOnce := deployment.readOnce

theorem network_act (node : Fin k) (worker : Worker T R M) :
    deployment.network.act node worker = worker.act (deployment.senders node) := rfl

/-- The workers as their threads begin, on empty pipes. -/
def initial : Network.State k Pipe (Packet T R M) (Worker T R M) where
  own := fun node =>
    Worker.start (deployment.senders node) (deployment.io node) (deployment.element node)
  queue := fun _ => []

end Deployment

/-! ## A stretch with waiting, and one without -/

section Stretches

variable {k : Nat} (deployment : Deployment k T R M) (node : Fin k)

/-- What a phase that will be left anyway says does not matter. -/
theorem proceed_phase (senders : Senders) (worker : Worker T R M) (phase : Phase T R M)
    (result : Option (Except Error Unit)) (ops : List (Op T R M)) :
    Worker.proceed senders { worker with phase := phase } result ops =
      Worker.proceed senders worker result ops := by
  induction ops generalizing worker with
  | nil =>
      cases result with
      | some result => rfl
      | none =>
          unfold Worker.proceed Worker.settle
          rfl
  | cons op ops ih =>
      cases op with
      | finish => exact ih { worker with io := worker.io.finishPacket }
      | arrive =>
          unfold Worker.proceed
          dsimp only
          split
          · exact ih worker.arrived
          · cases result with
            | some result => rfl
            | none =>
                unfold Worker.settle Worker.arrived
                rfl
      | send port packet =>
          unfold Worker.proceed
          dsimp only
          split
          · split
            · exact ih (worker.completed port packet)
            · rfl
          · rfl

/-- Running on after more was written on some pipes. -/
def prepend (written : Pipe -> List (Packet T R M))
    (outcome : Network.Outcome Pipe (Packet T R M) (Worker T R M)) :
    Network.Outcome Pipe (Packet T R M) (Worker T R M) :=
  { outcome with writes := fun pipe => written pipe ++ outcome.writes pipe }

/-- The senders of a port that are still to be served take the packet one by
one, and then the stretch goes on. -/
theorem alone_delivered {worker : Worker T R M} {port : String} {packet : Packet T R M}
    {served : Nat} {ops : List (Op T R M)} {result : Option (Except Error Unit)}
    {moves : Nat} {inputs : List (Packet T R M)}
    {outcome : Network.Outcome Pipe (Packet T R M) (Worker T R M)}
    (later : deployment.network.alone node moves
      (Worker.proceed (deployment.senders node) (worker.completed port packet) result ops)
      inputs = some outcome) :
    Exists fun more => deployment.network.alone node more
      (worker.delivered (deployment.senders node) port packet served ops result) inputs =
        some (prepend (fun pipe => (((deployment.senders node port).drop served).filter
          fun sender => decide (sender = pipe)).map fun _ => packet) outcome) := by
  induction remaining : (deployment.senders node port).length - served generalizing served worker
    with
  | zero =>
      have all : (deployment.senders node port).length <= served := by omega
      refine ⟨moves, ?_⟩
      rw [Worker.delivered, if_neg (Nat.not_lt.mpr all), later, List.drop_eq_nil_of_le all]
      rfl
  | succ remaining ih =>
      have isServed : served < (deployment.senders node port).length := by omega
      have again : deployment.network.alone node moves
          (Worker.proceed (deployment.senders node)
            (Worker.completed { worker with phase := .sending port packet served ops result } port
              packet) result ops) inputs = some outcome := by
        rw [← later]
        exact congrArg (fun w => deployment.network.alone node moves w inputs)
          (proceed_phase _ (worker.completed port packet)
            (.sending port packet served ops result) result ops)
      rcases @ih _ (served + 1) again (by omega) with ⟨more, comes⟩
      refine ⟨more + 1, ?_⟩
      have acts : deployment.network.act node
          { worker with phase := .sending port packet served ops result } =
          .write ((deployment.senders node port)[served]) packet
            (Worker.delivered (deployment.senders node)
              { worker with phase := .sending port packet served ops result } port packet
              (served + 1) ops result) := by
        rw [deployment.network_act, Worker.act]
        dsimp only
        rw [List.getElem?_eq_getElem isServed]
      rw [Worker.delivered, if_pos isServed, Network.alone, acts]
      dsimp only
      rw [comes, Option.map_some, Option.some.injEq, Network.Outcome.precede, prepend, prepend]
      congr 1
      funext pipe
      rw [List.drop_eq_getElem_cons isServed]
      by_cases same : pipe = (deployment.senders node port)[served]
      · subst same
        rw [Function.update_self, List.filter_cons_of_pos (by simp)]
        rfl
      · rw [Function.update_of_ne same, List.filter_cons_of_neg (by simpa using Ne.symm same)]

/-- Pipe by pipe a stretch does what it does at once. -/
theorem alone_finish {worker : Worker T R M} {ops : List (Op T R M)}
    {result : Option (Except Error Unit)} {moves : Nat} {inputs : List (Packet T R M)}
    {outcome : Network.Outcome Pipe (Packet T R M) (Worker T R M)}
    (later : deployment.network.alone node moves (worker.finish result ops).1 inputs =
      some outcome) :
    Exists fun more => deployment.network.alone node more
      (Worker.proceed (deployment.senders node) worker result ops) inputs =
        some (prepend (onPipe (deployment.senders node) (worker.finish result ops).2)
          outcome) := by
  induction ops generalizing worker moves outcome with
  | nil => exact ⟨moves, later⟩
  | cons op ops ih =>
      cases op with
      | finish => exact @ih { worker with io := worker.io.finishPacket } _ _ later
      | arrive =>
          unfold Worker.finish at later ⊢
          unfold Worker.proceed
          split
          · rename_i last
            rw [if_pos last] at later
            exact ih later
          · rename_i others
            rw [if_neg others] at later
            exact ⟨moves, later⟩
      | send port packet =>
          unfold Worker.finish at later ⊢
          unfold Worker.proceed
          split
          · rename_i known
            rw [if_pos known] at later
            rcases ih later with ⟨between, comes⟩
            rcases @alone_delivered _ _ _ _ deployment node _ _ _ 0 _ _ _ _ _ comes with ⟨more, whole⟩
            rw [List.drop_zero] at whole
            have written : (prepend (onPipe (deployment.senders node)
                  ((port, packet) :: ((worker.completed port packet).finish result ops).2))
                outcome) =
                prepend (fun pipe => ((deployment.senders node port).filter
                  fun sender => decide (sender = pipe)).map fun _ => packet)
                  (prepend (onPipe (deployment.senders node)
                    ((worker.completed port packet).finish result ops).2) outcome) := by
              unfold prepend
              congr 1
              funext pipe
              rw [onPipe_cons, List.append_assoc]
            rw [written]
            split
            · rename_i nobody
              have none_ := List.isEmpty_iff.mp nobody
              refine ⟨between, ?_⟩
              rw [comes, none_]
              rfl
            · rename_i somebody
              refine ⟨more, ?_⟩
              rw [← whole, Worker.delivered, if_pos]
              rw [List.length_pos_iff]
              exact fun nobody => somebody (List.isEmpty_iff.mpr nobody)
          · rename_i unknown
            rw [if_neg unknown] at later
            exact ⟨moves, later⟩

/-- A worker that is about to receive, or has returned. -/
def Settled (worker : Worker T R M) : Prop :=
  worker.phase = .receiving ∨ Exists fun result => worker.phase = .returned result

theorem settled_settle (worker : Worker T R M) (result : Option (Except Error Unit)) :
    Settled (worker.settle result) := by
  unfold Worker.settle
  split
  · exact Or.inr ⟨_, rfl⟩
  · split
    · exact Or.inl rfl
    · exact Or.inr ⟨_, rfl⟩

theorem settled_finish (worker : Worker T R M) (result : Option (Except Error Unit))
    (ops : List (Op T R M)) : Settled (worker.finish result ops).1 := by
  induction ops generalizing worker with
  | nil => exact settled_settle worker result
  | cons op ops ih =>
      cases op with
      | finish => exact ih { worker with io := worker.io.finishPacket }
      | arrive =>
          unfold Worker.finish
          split
          · exact ih worker.arrived
          · exact settled_settle worker.arrived result
      | send port packet =>
          unfold Worker.finish
          split
          · exact ih (worker.completed port packet)
          · exact Or.inr ⟨_, rfl⟩

theorem settled_take (worker : Worker T R M) (packet : Packet T R M) :
    Settled (worker.take packet).1 := by
  unfold Worker.take
  split
  · exact Or.inr ⟨_, rfl⟩
  · exact Or.inl rfl
  · exact settled_finish _ _ _

/-- A plain run that returns is what the worker does alone. -/
theorem alone_plain {worker : Worker T R M} (settled : Settled worker)
    (inputs : List (Packet T R M)) {result : Except Error Unit}
    (returns : (worker.plain inputs).worker.phase = .returned result) :
    Exists fun moves => deployment.network.alone node moves worker inputs =
      some ⟨(worker.plain inputs).worker,
        onPipe (deployment.senders node) (worker.plain inputs).sent,
        (worker.plain inputs).left⟩ := by
  induction inputs generalizing worker with
  | nil =>
      refine ⟨0, ?_⟩
      rw [Worker.plain] at returns ⊢
      dsimp only at returns
      rw [Network.alone, deployment.network_act, Worker.act, returns]
      rfl
  | cons packet packets ih =>
      rcases settled with receives | ⟨other, isReturned⟩
      · unfold Worker.plain at returns ⊢
        rw [receives] at returns ⊢
        dsimp only at returns ⊢
        rcases ih (settled_take worker packet) returns with ⟨moves, comes⟩
        have reads : deployment.network.act node worker =
            .read fun packet => worker.answered (deployment.senders node) (.ok packet) := by
          rw [deployment.network_act, Worker.act, receives]
        have step : Exists fun more => deployment.network.alone node more
            (worker.answered (deployment.senders node) (.ok packet)) packets =
            some (prepend (onPipe (deployment.senders node) (worker.take packet).2)
              ⟨((worker.take packet).1.plain packets).worker,
                onPipe (deployment.senders node) ((worker.take packet).1.plain packets).sent,
                ((worker.take packet).1.plain packets).left⟩) := by
          unfold Worker.take at comes ⊢
          unfold Worker.answered
          split at comes
          · exact ⟨moves, comes⟩
          · exact ⟨moves, comes⟩
          · exact alone_finish deployment node comes
        rcases step with ⟨more, later⟩
        refine ⟨more + 1, ?_⟩
        rw [Network.alone, reads]
        dsimp only
        rw [later, prepend, Option.some.injEq]
        congr 1
        funext pipe
        rw [onPipe_append]
      · refine ⟨0, ?_⟩
        unfold Worker.plain
        rw [isReturned]
        rw [Network.alone, deployment.network_act, Worker.act, isReturned]
        rfl

/-- The plain run of an element is what its worker does alone. -/
theorem alone_plainRun (io : ElementIo) (element : Element T R M)
    (inputs : List (Packet T R M)) {result : Except Error Unit}
    (returns : (Worker.plainRun io element inputs).worker.phase = .returned result) :
    Exists fun moves => deployment.network.alone node moves
      (Worker.start (deployment.senders node) io element) inputs =
        some ⟨(Worker.plainRun io element inputs).worker,
          onPipe (deployment.senders node) (Worker.plainRun io element inputs).sent,
          (Worker.plainRun io element inputs).left⟩ := by
  unfold Worker.plainRun at returns ⊢
  dsimp only at returns ⊢
  rcases alone_plain deployment node (settled_finish _ _ _) inputs returns with ⟨moves, comes⟩
  rcases alone_finish deployment node comes with ⟨more, whole⟩
  refine ⟨more, ?_⟩
  unfold Worker.start
  rw [whole, prepend, Option.some.injEq]
  congr 1
  funext pipe
  rw [onPipe_append]

end Stretches

/-- The worker has returned without an error, and has received everything. -/
def Plain.complete (run : Plain T R M) : Bool :=
  match run.worker.phase, run.left with
  | .returned (.ok ()), [] => true
  | _, _ => false

theorem Plain.complete_iff {run : Plain T R M} :
    run.complete = true <-> run.worker.phase = .returned (.ok ()) ∧ run.left = [] := by
  unfold Plain.complete
  split
  · rename_i returns empty
    exact ⟨fun _ => ⟨returns, empty⟩, fun _ => rfl⟩
  · rename_i other
    constructor
    · intro impossible
      cases impossible
    · rintro ⟨returns, empty⟩
      exact absurd empty (other returns)

/-! ## Looking again -/

/-- A worker that is not done with its loop has seen no end marker. -/
structure Unseen (worker : Worker T R M) : Prop where
  unstopped : worker.io.shouldStop = false
  receives : worker.phase = .receiving -> "in" ∈ worker.io.inputs ∧ worker.io.eos.seen = false
  sends : forall port packet served ops,
    worker.phase = .sending port packet served ops none -> worker.io.eos.seen = false

section Unseen

variable {senders : Senders} {worker : Worker T R M} {result : Option (Except Error Unit)}

theorem unseen_returned {last : Except Error Unit} (unstopped : worker.io.shouldStop = false)
    (returns : worker.phase = .returned last) : Unseen worker := by
  refine ⟨unstopped, fun receives => ?_, fun _ _ _ _ sends => ?_⟩
  · rw [returns] at receives
    cases receives
  · rw [returns] at sends
    cases sends

theorem unseen_settle (unstopped : worker.io.shouldStop = false)
    (unseen : result = none -> worker.io.eos.seen = false) : Unseen (worker.settle result) := by
  unfold Worker.settle
  split
  · exact unseen_returned unstopped rfl
  · split
    · rename_i known
      refine ⟨unstopped, fun _ => ⟨known, unseen rfl⟩, fun _ _ _ _ sends => ?_⟩
      cases sends
    · exact unseen_returned unstopped rfl

/-- A send changes neither the flags nor what was seen. -/
theorem completed_keeps (worker : Worker T R M) (port : String) (packet : Packet T R M) :
    (worker.completed port packet).io.shouldStop = worker.io.shouldStop ∧
      (worker.completed port packet).io.eos = worker.io.eos := by
  unfold Worker.completed ElementIo.send
  split
  · exact ⟨rfl, rfl⟩
  · dsimp only
    split
    · exact ⟨rfl, rfl⟩
    · split
      · exact ⟨rfl, rfl⟩
      · exact ⟨rfl, rfl⟩

theorem unseen_proceed (ops : List (Op T R M)) (unstopped : worker.io.shouldStop = false)
    (unseen : result = none -> worker.io.eos.seen = false) :
    Unseen (worker.proceed senders result ops) := by
  induction ops generalizing worker with
  | nil => exact unseen_settle unstopped unseen
  | cons op ops ih =>
      cases op with
      | finish => exact @ih { worker with io := worker.io.finishPacket } unstopped unseen
      | arrive =>
          unfold Worker.proceed
          split
          · exact @ih worker.arrived unstopped unseen
          · exact @unseen_settle _ _ _ worker.arrived _ unstopped unseen
      | send port packet =>
          unfold Worker.proceed
          split
          · split
            · rcases completed_keeps worker port packet with ⟨flags, eos⟩
              exact ih (flags ▸ unstopped) (eos ▸ unseen)
            · refine ⟨unstopped, fun receives => ?_, fun _ _ _ _ isPhase => ?_⟩
              · cases receives
              · cases isPhase
                exact unseen rfl
          · exact unseen_returned unstopped rfl

theorem unseen_delivered {port : String} {packet : Packet T R M} {served : Nat}
    {ops : List (Op T R M)} (unseen : Unseen worker)
    (sends : worker.phase = .sending port packet served ops result) :
    Unseen (worker.delivered senders port packet (served + 1) ops result) := by
  have clear : result = none -> worker.io.eos.seen = false := fun isNone =>
    unseen.sends _ _ _ _ (isNone ▸ sends)
  unfold Worker.delivered
  split
  · refine ⟨unseen.unstopped, fun receives => ?_, fun _ _ _ _ isPhase => ?_⟩
    · cases receives
    · cases isPhase
      exact clear rfl
  · rcases completed_keeps worker port packet with ⟨flags, eos⟩
    exact unseen_proceed ops (flags ▸ unseen.unstopped) (eos ▸ clear)

/-- No loop goes on after the end marker. -/
theorem ending_returns (io : ElementIo) (element : Element T R M) :
    (element.ending io).result ≠ none := by
  cases element <;> exact Option.some_ne_none _

theorem unseen_answered (packet : Packet T R M) (unseen : Unseen worker)
    (receives : worker.phase = .receiving) :
    Unseen (worker.answered senders (.ok packet)) := by
  rcases unseen.receives receives with ⟨known, clear⟩
  have flags := unseen.unstopped
  unfold Worker.answered
  cases marker : packet.isEos with
  | true =>
      rw [ElementIo.recv_eos worker.io known marker 0]
      dsimp only
      apply unseen_proceed
      · exact flags
      · intro isNone
        rw [Element.react, if_pos marker] at isNone
        exact absurd isNone (ending_returns _ _)
  | false =>
      rw [ElementIo.recv_data worker.io known marker 0]
      split
      · rename_i failed
        split at failed
        · cases failed
        · cases failed
          exact unseen_returned flags rfl
      · rename_i nothing
        split at nothing <;> cases nothing
      · rename_i received
        split at received
        · cases received
          exact unseen_proceed _ flags fun _ => clear
        · cases received

/-- A worker that nothing came for is where it was. -/
theorem answered_timeout (unseen : Unseen worker) (receives : worker.phase = .receiving) :
    worker.answered senders (.error .timeout) = worker := by
  rcases unseen.receives receives with ⟨known, clear⟩
  unfold Worker.answered
  rw [worker.io.recv_timeout known unseen.unstopped 0, clear]
  simp only [Bool.false_eq_true, if_false]
  rw [← receives]

end Unseen

namespace Deployment

variable {k : Nat} (deployment : Deployment k T R M)

inductive Label (k : Nat) where
  | moves (node : Fin k)
  | waits (node : Fin k)
deriving DecidableEq, Repr

def Label.moved : Label k -> Option (Fin k)
  | .moves node => some node
  | .waits _ => none

abbrev RunState (k : Nat) (T R M : Type) := Network.State k Pipe (Packet T R M) (Worker T R M)

/-- A receive that times out on an empty pipe, or a full pipe that is left for
later. -/
def wait (state : RunState k T R M) (node : Fin k) : Option (RunState k T R M) :=
  match (state.own node).phase with
  | .receiving =>
      if (deployment.input node).all fun pipe => (state.queue pipe).isEmpty then
        some { state with
          own := Function.update state.own node
            ((state.own node).answered (deployment.senders node) (.error .timeout)) }
      else none
  | .sending port _ served _ _ =>
      if (deployment.senders node port)[served]?.all fun pipe =>
          !deployment.network.hasRoom pipe (state.queue pipe) then
        some state
      else none
  | .returned _ => none

def step (state : RunState k T R M) : Label k -> Option (RunState k T R M)
  | .moves node => deployment.network.step state node
  | .waits node => deployment.wait state node

def machine : Machine (RunState k T R M) (Label k) where
  step := deployment.step

variable {deployment} {state next : RunState k T R M}

theorem unseen_initial (node : Fin k) : Unseen (deployment.initial.own node) :=
  unseen_proceed _ (deployment.unstopped node) fun _ => deployment.unseen node

theorem unseen_move (unseen : forall node, Unseen (state.own node)) {node : Fin k}
    (stepped : deployment.network.step state node = some next) :
    forall other, Unseen (next.own other) := by
  intro other
  by_cases same : other = node
  · subst same
    rcases Network.step_cases stepped with
      ⟨resume, chan, message, rest, reads, _, _, rfl⟩ | ⟨chan, message, after, writes, _, rfl⟩
    · dsimp only
      rw [Function.update_self]
      rw [network_act, Worker.act] at reads
      split at reads
      · rename_i receives
        cases reads
        exact unseen_answered message (unseen other) receives
      · split at reads <;> cases reads
      · cases reads
    · dsimp only
      rw [Function.update_self]
      rw [network_act, Worker.act] at writes
      split at writes
      · cases writes
      · rename_i sends
        split at writes
        · cases writes
          exact unseen_delivered (unseen other) sends
        · cases writes
      · cases writes
  · have kept : next.own other = state.own other := by
      rcases Network.step_cases stepped with
        ⟨resume, chan, message, rest, _, _, _, rfl⟩ | ⟨chan, message, after, _, _, rfl⟩
      · exact Function.update_of_ne same _ _
      · exact Function.update_of_ne same _ _
    rw [kept]
    exact unseen other

/-- Waiting changes nothing. -/
theorem wait_stutters (unseen : forall node, Unseen (state.own node)) {node : Fin k}
    (waits : deployment.wait state node = some next) : next = state := by
  unfold wait at waits
  split at waits
  · rename_i receives
    split at waits
    · cases waits
      rw [answered_timeout (unseen node) receives, Function.update_eq_self]
    · cases waits
  · split at waits
    · exact (Option.some.inj waits).symm
    · cases waits
  · cases waits

/-- A run with its waiting left out is a run of the network. -/
theorem run_moves {labels : List (Label k)} (unseen : forall node, Unseen (state.own node))
    (reached : deployment.machine.run state labels = some next) :
    deployment.network.machine.run state (labels.filterMap Label.moved) = some next := by
  induction labels generalizing state with
  | nil => exact reached
  | cons label labels ih =>
      rcases deployment.machine.run_cons_iff.mp reached with ⟨middle, stepped, rest⟩
      cases label with
      | moves node =>
          rw [List.filterMap_cons_some (f := Label.moved) (b := node) rfl]
          exact deployment.network.machine.run_cons_iff.mpr
            ⟨middle, stepped, ih (unseen_move unseen stepped) rest⟩
      | waits node =>
          rw [List.filterMap_cons_none (f := Label.moved) rfl]
          have same := wait_stutters unseen stepped
          subst same
          exact ih unseen rest

/-! ## Every interleaving ends as the plain runs -/

variable (deployment)

/-- What an element sends over each pipe in its plain run. -/
def respond (node : Fin k) (inputs : List (Packet T R M)) (pipe : Pipe) : List (Packet T R M) :=
  onPipe (deployment.senders node)
    (Worker.plainRun (deployment.io node) (deployment.element node) inputs).sent pipe

/-- What travels over every pipe when the elements are run one after another,
each over the whole of what it is sent. -/
def flow : Pipe -> List (Packet T R M) :=
  deployment.network.flow deployment.respond k

/-- The plain run of an element in its place. -/
def plan (node : Fin k) : Plain T R M :=
  Worker.plainRun (deployment.io node) (deployment.element node)
    (deployment.network.incoming deployment.flow node)

/-- In the plain runs nobody fails and nothing is left over. -/
structure Succeeds : Prop where
  returns : forall node, (deployment.plan node).worker.phase = .returned (.ok ())
  consumes : forall node, (deployment.plan node).left = []

variable {deployment} {rank : Fin k -> Nat}

instance : Decidable deployment.Succeeds :=
  decidable_of_iff (forall node, (deployment.plan node).complete = true)
    ⟨fun complete => ⟨fun node => (Plain.complete_iff.mp (complete node)).1,
      fun node => (Plain.complete_iff.mp (complete node)).2⟩,
      fun succeeds node => Plain.complete_iff.mpr ⟨succeeds.returns node, succeeds.consumes node⟩⟩

theorem Succeeds.predicts (succeeds : deployment.Succeeds)
    (layered : deployment.network.Layered rank) (low : forall node, rank node < k) :
    Exists fun total => deployment.network.Predicts deployment.initial
      (fun node => (deployment.plan node).worker) total := by
  have comes : forall node, Exists fun moves => deployment.network.alone node moves
      (deployment.initial.own node)
      (deployment.network.incoming deployment.flow node) =
        some ⟨(deployment.plan node).worker,
          onPipe (deployment.senders node) (deployment.plan node).sent,
          (deployment.plan node).left⟩ :=
    fun node => alone_plainRun deployment node _ _ _ (succeeds.returns node)
  choose moves isAlone using comes
  exact ⟨_, layered.predicts_flow deployment.respond low isAlone succeeds.consumes
    fun _ _ _ => rfl⟩

/-- What can be said of every state that some interleaving leads to.  The
elements still make the moves that their plain runs make, and one of them can
always move until all have returned. -/
structure Refines (deployment : Deployment k T R M) (total : Nat) (moved : Nat) (state : RunState k T R M) : Prop where
  bounded : moved <= total
  healthy : forall node error, (state.own node).phase ≠ .returned (.error error)
  ended : (forall node, deployment.network.step state node = none) <-> moved = total
  agrees : moved = total -> forall node, state.own node = (deployment.plan node).worker ∧
    forall pipe, deployment.input node = some pipe -> state.queue pipe = []
  goesOn : Exists fun labels => Exists fun last =>
    deployment.machine.run state labels = some last ∧
      moved + (labels.filterMap Label.moved).length = total

/-- A worker that is predicted to return well has not failed. -/
theorem healthy_of_predicts (succeeds : deployment.Succeeds) {remaining : Nat}
    (predicts : deployment.network.Predicts state
      (fun node => (deployment.plan node).worker) remaining) (node : Fin k) (error : Error) :
    (state.own node).phase ≠ .returned (.error error) := by
  intro failed
  rcases predicts with ⟨stream, plan, moves, planned, ends, _⟩
  have halts : deployment.network.act node (state.own node) = .halt := by
    rw [network_act, Worker.act, failed]
  have outcome := (Network.alone_halt halts (planned.alone node)).2
  have isFinal := ends node
  rw [outcome] at isFinal
  dsimp only at isFinal
  have returns := succeeds.returns node
  rw [← isFinal, failed] at returns
  cases returns

theorem run_of_moves {nodes : List (Fin k)}
    (reached : deployment.network.machine.run state nodes = some next) :
    deployment.machine.run state (nodes.map Label.moves) = some next := by
  induction nodes generalizing state with
  | nil => exact reached
  | cons node nodes ih =>
      rcases deployment.network.machine.run_cons_iff.mp reached with ⟨middle, stepped, rest⟩
      rw [List.map_cons]
      exact deployment.machine.run_cons_iff.mpr ⟨middle, stepped, ih rest⟩

/-- Without cycles, and where the plain runs succeed, there is a number of
moves after which every interleaving has done exactly what the plain runs do. -/
theorem refines_plain (succeeds : deployment.Succeeds)
    (layered : deployment.network.Layered rank) (low : forall node, rank node < k) :
    Exists fun total => forall labels state,
      deployment.machine.run deployment.initial labels = some state ->
        deployment.Refines total (labels.filterMap Label.moved).length state := by
  rcases succeeds.predicts layered low with ⟨total, predicts⟩
  refine ⟨total, fun labels state reached => ?_⟩
  have moves := run_moves unseen_initial reached
  rcases predicts.run moves with ⟨remaining, isTotal, now⟩
  refine
    { bounded := by omega
      healthy := healthy_of_predicts succeeds now
      ended := ?_
      agrees := ?_
      goesOn := ?_ }
  · rw [layered.stuck_iff now]
    omega
  · intro all node
    have done : remaining = 0 := by omega
    subst done
    rcases now.ended with ⟨isFinal, _, empty⟩
    exact ⟨congrFun isFinal node, fun pipe => empty node pipe⟩
  · rcases layered.completes now with ⟨nodes, last, runsOn, isLength, _⟩
    refine ⟨nodes.map Label.moves, last, run_of_moves runsOn, ?_⟩
    have kept : (nodes.map Label.moves).filterMap Label.moved = nodes := by
      rw [List.filterMap_map]
      exact List.filterMap_some
    rw [kept, isLength, isTotal]

end Deployment
end Execution
end DyunGu
