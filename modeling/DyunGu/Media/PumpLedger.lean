import DyunGu.Lib.Machine
import DyunGu.Media.AsyncPump
import Mathlib.Data.List.Forall2

namespace DyunGu
namespace Media

/-!
# What a pump hands to its backend and takes from it

Every call of the backend is written down with its answer.  The record shows
that each submitted frame is converted once and accepted at most once, in
order, that nothing follows a flush, and that outputs come out in order.

A backend hands a value that it refuses back to the pump.  Values are compared
by a relation that this keeps, which is equality if the backend hands the value
back as it was.
-/

variable {S F V A : Type}

/-- A call of the backend, with what it answered. -/
inductive Event (F V A : Type) where
  | converted (frame : F) (result : Except MediaError V)
  | submitted (value : V) (answer : SubmitResult V A)
  | polled (answer : Except A (Poll F))
  | flushed (answer : Except A Unit)

/-- The backend, writing down its calls. -/
def BackendOps.logged (ops : BackendOps S F V A) :
    BackendOps (S × List (Event F V A)) F V A where
  convertInput backend frame :=
    let (result, next) := ops.convertInput backend.1 frame
    (result, next, backend.2 ++ [.converted frame result])
  submitValue backend value :=
    let (answer, next) := ops.submitValue backend.1 value
    (answer, next, backend.2 ++ [.submitted value answer])
  pollOutput backend :=
    let (answer, next) := ops.pollOutput backend.1
    (answer, next, backend.2 ++ [.polled answer])
  flushBackend backend :=
    let (answer, next) := ops.flushBackend backend.1
    (answer, next, backend.2 ++ [.flushed answer])
  resetBackend backend :=
    let (answer, next) := ops.resetBackend backend.1
    (answer, next, backend.2)
  flushRequired backend := ops.flushRequired backend.1

section Logged

variable {ops : BackendOps S F V A} {backend next : S} {log : List (Event F V A)}

theorem logged_convertInput {frame : F} {result : Except MediaError V}
    (converted : ops.convertInput backend frame = (result, next)) :
    ops.logged.convertInput (backend, log) frame =
      (result, next, log ++ [.converted frame result]) := by
  simp [BackendOps.logged, converted]

theorem logged_submitValue {value : V} {answer : SubmitResult V A}
    (submitted : ops.submitValue backend value = (answer, next)) :
    ops.logged.submitValue (backend, log) value =
      (answer, next, log ++ [.submitted value answer]) := by
  simp [BackendOps.logged, submitted]

theorem logged_pollOutput {answer : Except A (Poll F)}
    (polled : ops.pollOutput backend = (answer, next)) :
    ops.logged.pollOutput (backend, log) = (answer, next, log ++ [.polled answer]) := by
  simp [BackendOps.logged, polled]

theorem logged_flushBackend {answer : Except A Unit}
    (flushed : ops.flushBackend backend = (answer, next)) :
    ops.logged.flushBackend (backend, log) = (answer, next, log ++ [.flushed answer]) := by
  simp [BackendOps.logged, flushed]

end Logged

namespace Event

def conversion? : Event F V A -> Option (F × V)
  | .converted frame (.ok value) => some (frame, value)
  | _ => none

def accepted? : Event F V A -> Option V
  | .submitted value .accepted => some value
  | _ => none

def ready? : Event F V A -> Option F
  | .polled (.ok (.ready frame)) => some frame
  | _ => none

def isPoll : Event F V A -> Bool
  | .polled _ => true
  | _ => false

/-- A flush that the backend took, also by saying that its stream has ended. -/
def isFlush (errors : AvErrors A) : Event F V A -> Bool
  | .flushed (.ok ()) => true
  | .flushed (.error error) => decide (errors.kind error = .endOfStream)
  | _ => false

end Event

/-- The frames that were converted, with their values. -/
def conversions (log : List (Event F V A)) : List (F × V) := log.filterMap Event.conversion?

def acceptedValues (log : List (Event F V A)) : List V := log.filterMap Event.accepted?

def readyFrames (log : List (Event F V A)) : List F := log.filterMap Event.ready?

/-- A pump in use: the frames that were submitted to it and popped from it. -/
structure Session (S F V A : Type) where
  pump : AsyncPump F V
  backend : S
  log : List (Event F V A)
  submitted : List F
  popped : List F

inductive Call (F : Type) where
  | submitInput (frame : F)
  | beginFlush
  | pumpStep
  | popOutput
deriving DecidableEq

namespace Session

def start (backend : S) : Session S F V A := ⟨.new, backend, [], [], []⟩

variable (errors : AvErrors A) (ops : BackendOps S F V A)

def call (session : Session S F V A) : Call F -> Session S F V A
  | .submitInput frame =>
      let (answer, pump) := session.pump.submitInput frame
      match answer with
      | .ok () => { session with pump := pump, submitted := session.submitted ++ [frame] }
      | .error _ => { session with pump := pump }
  | .beginFlush => { session with pump := session.pump.beginFlush }
  | .pumpStep =>
      let (_, pump, backend, log) :=
        session.pump.pumpStep errors ops.logged (session.backend, session.log)
      { session with pump := pump, backend := backend, log := log }
  | .popOutput =>
      let (frame, pump) := session.pump.popOutput
      { session with pump := pump, popped := session.popped ++ frame.toList }

def machine : Machine (Session S F V A) (Call F) where
  step session label := some (session.call errors ops label)

end Session

/-! ## The invariant -/

/-- Every submitted frame is converted or waits, and every value is accepted or
held.  When the pump has failed, some may be lost. -/
structure Handing (same : V -> V -> Prop) (state : CoreState) (pending : Option F)
    (held : Option V) (log : List (Event F V A)) (submitted : List F) : Prop where
  frames : Exists fun later => submitted = (conversions log).map Prod.fst ++ later ∧
    (state ≠ .failed -> later = pending.toList)
  values : Exists fun later =>
    List.Forall₂ same ((conversions log).map Prod.snd) (acceptedValues log ++ later) ∧
      (state ≠ .failed -> later = held.toList)

/-- Only polls follow a flush, and it comes after all inputs. -/
structure Sent (errors : AvErrors A) (state : CoreState) (flushSent : Bool) (pending : Option F)
    (held : Option V) (log : List (Event F V A)) (submitted : List F) : Prop where
  order : log.Pairwise fun earlier later => earlier.isFlush errors = true -> later.isPoll = true
  unsent : flushSent = false -> forall event, event ∈ log -> event.isFlush errors = false
  sent : flushSent = true -> state ≠ .accepting ∧ pending = none ∧ held = none
  all : (Exists fun event => event ∈ log ∧ event.isFlush errors = true) ->
    (acceptedValues log).length = submitted.length

/-- What was ready is popped or queued, but for the one that found no room. -/
structure Queued (full : Prop) (state : CoreState) (queue : List F) (log : List (Event F V A))
    (popped : List F) : Prop where
  ready : readyFrames log = popped ++ queue ∨
    (state = .failed ∧ full) ∧
      Exists fun frame => readyFrames log = popped ++ queue ++ [frame]
  bounded : queue.length <= maxOutputQueue

structure Standing (pump : AsyncPump F V) : Prop where
  ended : pump.state = .ended ->
    pump.outputQueue = [] ∧ pump.pendingMediaInput = none ∧ pump.pendingBackendValue = none
  error : pump.error ≠ none -> pump.state = .failed
  one : pump.pendingMediaInput = none ∨ pump.pendingBackendValue = none

structure Ledger (errors : AvErrors A) (same : V -> V -> Prop) (full : Prop) (pump : AsyncPump F V)
    (log : List (Event F V A)) (submitted popped : List F) : Prop where
  handing : Handing same pump.state pump.pendingMediaInput pump.pendingBackendValue log submitted
  sent : Sent errors pump.state pump.flushSent pump.pendingMediaInput pump.pendingBackendValue log
    submitted
  queued : Queued full pump.state pump.outputQueue log popped
  standing : Standing pump

/-! ### What one event adds -/

section Events

variable {errors : AvErrors A} {same : V -> V -> Prop} {state later : CoreState}
  {flushSent : Bool} {pending : Option F} {held : Option V} {log : List (Event F V A)}
  {submitted popped queue : List F} {full : Prop} {event : Event F V A}

/-- An event that is neither a conversion nor an acceptance. -/
def Event.Calm (event : Event F V A) : Prop :=
  event.conversion? = none ∧ event.accepted? = none

theorem conversions_calm (calm : event.Calm) : conversions (log ++ [event]) = conversions log := by
  simp [conversions, calm.1]

theorem acceptedValues_calm (calm : event.Calm) :
    acceptedValues (log ++ [event]) = acceptedValues log := by
  simp [acceptedValues, calm.2]

theorem Handing.calm (handing : Handing same state pending held log submitted)
    (calm : event.Calm) : Handing same state pending held (log ++ [event]) submitted := by
  refine ⟨?_, ?_⟩
  · rw [conversions_calm calm]
    exact handing.frames
  · rw [conversions_calm calm, acceptedValues_calm calm]
    exact handing.values

theorem Handing.failed (handing : Handing same state pending held log submitted)
    (waiting : Option F) (value : Option V) :
    Handing same .failed waiting value log submitted := by
  rcases handing.frames with ⟨rest, whole, -⟩
  rcases handing.values with ⟨more, paired, -⟩
  exact ⟨⟨rest, whole, fun fine => absurd rfl fine⟩, ⟨more, paired, fun fine => absurd rfl fine⟩⟩

theorem Handing.live (handing : Handing same state pending held log submitted)
    (fine : state ≠ .failed) : Handing same later pending held log submitted := by
  rcases handing.frames with ⟨rest, whole, isRest⟩
  rcases handing.values with ⟨more, paired, isMore⟩
  exact ⟨⟨rest, whole, fun _ => isRest fine⟩, ⟨more, paired, fun _ => isMore fine⟩⟩

theorem conversions_converted (frame : F) (value : V) :
    conversions (log ++ [.converted frame (.ok value)]) = conversions log ++ [(frame, value)] := by
  simp [conversions, Event.conversion?]

theorem acceptedValues_accepted (value : V) :
    acceptedValues (log ++ [.submitted value .accepted]) = acceptedValues log ++ [value] := by
  simp [acceptedValues, Event.accepted?]

/-- A frame is taken from the waiting place and converted to a value that is
held. -/
theorem Handing.converted {frame : F} {value : V} (refl : same value value)
    (handing : Handing same state (some frame) none log submitted) (fine : state ≠ .failed) :
    Handing same state none (some value) (log ++ [.converted frame (.ok value)]) submitted := by
  rcases handing.frames with ⟨rest, whole, isRest⟩
  rcases handing.values with ⟨more, paired, isMore⟩
  cases isRest fine
  cases isMore fine
  have acceptedSame : acceptedValues (log ++ [.converted frame (.ok value)]) =
      acceptedValues log := by
    simp [acceptedValues, Event.accepted?]
  refine ⟨⟨[], ?_, fun _ => rfl⟩, ⟨[value], ?_, fun _ => rfl⟩⟩
  · rw [conversions_converted, whole]
    simp
  · rw [Option.toList_none, List.append_nil] at paired
    rw [conversions_converted, acceptedSame, List.map_append]
    exact List.rel_append paired (List.Forall₂.cons refl List.Forall₂.nil)

/-- The value that is held is accepted. -/
theorem Handing.accepted {value : V}
    (handing : Handing same state pending (some value) log submitted) (fine : state ≠ .failed) :
    Handing same state pending none (log ++ [.submitted value .accepted]) submitted := by
  rcases handing.frames with ⟨rest, whole, isRest⟩
  rcases handing.values with ⟨more, paired, isMore⟩
  cases isMore fine
  have conversionsSame : conversions (log ++ [.submitted value .accepted]) = conversions log := by
    simp [conversions, Event.conversion?]
  refine ⟨⟨rest, ?_, isRest⟩, ⟨[], ?_, fun _ => rfl⟩⟩
  · rw [conversionsSame]
    exact whole
  · rw [conversionsSame, acceptedValues_accepted, List.append_nil]
    exact paired

private theorem forall₂_last {first second : List V} {value back : V}
    (weaker : forall other, same other value -> same other back)
    (paired : List.Forall₂ same first (second ++ [value])) :
    List.Forall₂ same first (second ++ [back]) := by
  induction second generalizing first with
  | nil =>
      cases paired with
      | cons one rest => exact .cons (weaker _ one) rest
  | cons other second ih =>
      cases paired with
      | cons one rest => exact .cons one (ih rest)

/-- A value that is held is replaced by what the backend hands back. -/
theorem Handing.again {value back : V} (weaker : forall other, same other value -> same other back)
    (handing : Handing same state pending (some value) log submitted) (fine : state ≠ .failed) :
    Handing same state pending (some back) (log ++ [.submitted value (.again back)])
      submitted := by
  rcases handing.frames with ⟨rest, whole, isRest⟩
  rcases handing.values with ⟨more, paired, isMore⟩
  cases isMore fine
  have calm : Event.Calm (.submitted value (.again back) : Event F V A) := ⟨rfl, rfl⟩
  refine ⟨⟨rest, ?_, isRest⟩, ⟨[back], ?_, fun _ => rfl⟩⟩
  · rw [conversions_calm calm]
    exact whole
  · rw [conversions_calm calm, acceptedValues_calm calm]
    exact forall₂_last weaker paired

theorem Sent.polled (sent : Sent errors state flushSent pending held log submitted)
    (answer : Except A (Poll F)) :
    Sent errors state flushSent pending held (log ++ [.polled answer]) submitted := by
  have calm : Event.Calm (.polled answer : Event F V A) := ⟨rfl, rfl⟩
  refine ⟨?_, ?_, sent.sent, ?_⟩
  · refine List.pairwise_append.mpr ⟨sent.order, List.pairwise_singleton _ _, ?_⟩
    intro earlier _ later isLater _
    rw [List.mem_singleton.mp isLater]
    rfl
  · intro notSent event member
    rcases List.mem_append.mp member with before | added
    · exact sent.unsent notSent event before
    · rw [List.mem_singleton.mp added]
      rfl
  · rintro ⟨event, member, isFlush⟩
    rw [acceptedValues_calm calm]
    rcases List.mem_append.mp member with before | added
    · exact sent.all ⟨event, before, isFlush⟩
    · rw [List.mem_singleton.mp added] at isFlush
      cases isFlush

/-- Before the flush, any event that is no flush may follow. -/
theorem Sent.unflushed (sent : Sent errors state false pending held log submitted)
    (other : event.isFlush errors = false) (waiting : Option F) (value : Option V) :
    Sent errors later false waiting value (log ++ [event]) submitted := by
  have none : forall earlier, earlier ∈ log ++ [event] -> earlier.isFlush errors = false := by
    intro earlier member
    rcases List.mem_append.mp member with before | added
    · exact sent.unsent rfl earlier before
    · rw [List.mem_singleton.mp added]
      exact other
  refine ⟨?_, fun _ => none, nofun, ?_⟩
  · refine List.pairwise_append.mpr ⟨sent.order, List.pairwise_singleton _ _, ?_⟩
    intro earlier member _ _ isFlush
    rw [sent.unsent rfl earlier member] at isFlush
    cases isFlush
  · rintro ⟨earlier, member, isFlush⟩
    rw [none earlier member] at isFlush
    cases isFlush

/-- The flush is sent when every input is through. -/
theorem Sent.flushed (sent : Sent errors state false none none log submitted)
    (flushing : state ≠ .accepting) (handing : Handing same state none none log submitted)
    (fine : state ≠ .failed) (calm : event.Calm) :
    Sent errors state true none none (log ++ [event]) submitted := by
  rcases handing.frames with ⟨rest, whole, isRest⟩
  rcases handing.values with ⟨more, paired, isMore⟩
  cases isRest fine
  cases isMore fine
  refine ⟨?_, nofun, fun _ => ⟨flushing, rfl, rfl⟩, fun _ => ?_⟩
  · refine List.pairwise_append.mpr ⟨sent.order, List.pairwise_singleton _ _, ?_⟩
    intro earlier member _ _ isFlush
    rw [sent.unsent rfl earlier member] at isFlush
    cases isFlush
  · have lengths := paired.length_eq
    rw [acceptedValues_calm calm, whole]
    simp at lengths ⊢
    exact lengths.symm

/-- The pump fails or ends: nothing more is asked of it. -/
theorem Sent.stopped (sent : Sent errors state flushSent pending held log submitted)
    (stopped : later ≠ .accepting) (waiting : Option F) (value : Option V)
    (empty : waiting = none ∧ value = none) :
    Sent errors later flushSent waiting value log submitted :=
  ⟨sent.order, sent.unsent, fun _ => ⟨stopped, empty⟩, sent.all⟩

theorem Queued.quiet (queued : Queued full state queue log popped) (quiet : event.ready? = none)
    (fine : state ≠ .failed) : Queued full later queue (log ++ [event]) popped := by
  have same : readyFrames (log ++ [event]) = readyFrames log := by
    simp [readyFrames, quiet]
  refine ⟨?_, queued.bounded⟩
  rw [same]
  exact Or.inl (queued.ready.resolve_right fun lost => fine lost.1.1)

end Events

/-! ### The stages of a step -/

section Stages

variable {errors : AvErrors A} {ops : BackendOps S F V A} {same : V -> V -> Prop}
  {full : Prop} {pump : AsyncPump F V} {log : List (Event F V A)} {submitted popped : List F}

/-- The pump is neither ended nor failed. -/
def Live (pump : AsyncPump F V) : Prop :=
  (pump.state = .accepting ∨ pump.state = .flushing) ∧ pump.error = none

theorem Live.fine (live : Live pump) : pump.state ≠ .failed := by
  rcases live.1 with is | is
  · rw [is]
    decide
  · rw [is]
    decide

theorem Live.standing (live : Live pump)
    (one : pump.pendingMediaInput = none ∨ pump.pendingBackendValue = none) : Standing pump := by
  refine ⟨fun ended => ?_, fun error => absurd live.2 error, one⟩
  rcases live.1 with is | is
  · rw [ended] at is
    cases is
  · rw [ended] at is
    cases is

/-- The counters are no part of the invariant. -/
theorem Ledger.counted (ledger : Ledger errors same full pump log submitted popped)
    (stats : MediaSessionStats) :
    Ledger errors same full { pump with stats := stats } log submitted popped :=
  ⟨ledger.handing, ledger.sent, ledger.queued,
    ⟨ledger.standing.ended, ledger.standing.error, ledger.standing.one⟩⟩

/-- The invariant of what a step leaves behind. -/
def After (errors : AvErrors A) (same : V -> V -> Prop) (full : Prop) (submitted popped : List F)
    (stepped : AsyncPump.Stepped (S × List (Event F V A)) F V) : Prop :=
  Ledger errors same full stepped.2.1 stepped.2.2.2 submitted popped

/-- No input waits, and no value is held. -/
def Empty (pump : AsyncPump F V) : Prop :=
  pump.pendingMediaInput = none ∧ pump.pendingBackendValue = none

/-- A pump that fails while nothing waits. -/
theorem Ledger.fail (empty : Empty pump) (handing : Handing same pump.state none none log submitted)
    (sent : Sent errors pump.state pump.flushSent none none log submitted)
    (queued : Queued full .failed pump.outputQueue log popped) (error : MediaError) (backend : S) :
    After errors same full submitted popped (pump.fail error (backend, log)) := by
  have stopped : CoreState.failed ≠ .accepting := by decide
  exact ⟨handing.failed _ _, sent.stopped stopped _ _ empty, queued,
    ⟨nofun, fun _ => rfl, Or.inl empty.1⟩⟩

/-- A poll that brings no frame. -/
theorem Ledger.polled (ledger : Ledger errors same full pump log submitted popped)
    (live : Live pump) (answer : Except A (Poll F)) (noFrame : (Event.polled answer : Event F V A).ready? = none) :
    Ledger errors same full pump (log ++ [.polled answer]) submitted popped :=
  ⟨ledger.handing.calm ⟨rfl, rfl⟩, ledger.sent.polled answer,
    ledger.queued.quiet noFrame live.fine, ledger.standing⟩

/-- With nothing held, the books are those of no input. -/
theorem Ledger.emptied (ledger : Ledger errors same full pump log submitted popped)
    (empty : Empty pump) : Handing same pump.state none none log submitted ∧
      Sent errors pump.state pump.flushSent none none log submitted := by
  have handing := ledger.handing
  have sent := ledger.sent
  rw [empty.1, empty.2] at handing sent
  exact ⟨handing, sent⟩

theorem Ledger.polled_failed (ledger : Ledger errors same full pump log submitted popped)
    (live : Live pump) (empty : Empty pump) (answer : Except A (Poll F))
    (noFrame : (Event.polled answer : Event F V A).ready? = none) (error : MediaError)
    (backend : S) :
    After errors same full submitted popped
      (pump.fail error (backend, log ++ [.polled answer])) := by
  have emptied := (ledger.polled live answer noFrame).emptied empty
  exact Ledger.fail empty emptied.1 emptied.2 (ledger.queued.quiet noFrame live.fine) error backend

theorem endOfStream_ledger (ledger : Ledger errors same full pump log submitted popped)
    (live : Live pump) (empty : Empty pump) (backend : S) :
    After errors same full submitted popped (pump.endOfStream (backend, log)) := by
  have stopped : CoreState.ended ≠ .accepting := by decide
  unfold AsyncPump.endOfStream
  dsimp only
  split
  · rename_i noOutput
    refine ⟨ledger.handing.live live.fine, ?_, ⟨?_, ledger.queued.bounded⟩,
      ⟨fun _ => ⟨noOutput, empty⟩, fun error => absurd live.2 error, Or.inl empty.1⟩⟩
    · exact ledger.sent.stopped stopped _ _ empty
    · exact Or.inl (ledger.queued.ready.resolve_right fun lost => live.fine lost.1.1)
  · exact ⟨ledger.handing, ledger.sent, ledger.queued,
      ⟨ledger.standing.ended, ledger.standing.error, ledger.standing.one⟩⟩

theorem pollStage_ledger (ledger : Ledger errors same full pump log submitted popped)
    (filled : maxOutputQueue <= pump.outputQueue.length -> full) (live : Live pump)
    (empty : Empty pump) (backend : S) :
    After errors same full submitted popped (pump.pollStage errors ops.logged (backend, log)) := by
  unfold AsyncPump.pollStage
  rw [AsyncPump.countPoll_eq]
  generalize pump.countPoll.stats = stats
  replace ledger := ledger.counted stats
  have liveToo : Live { pump with stats := stats } := live
  have emptyToo : Empty { pump with stats := stats } := empty
  rcases polled : ops.pollOutput backend with ⟨answer, next⟩
  rw [logged_pollOutput polled]
  cases answer with
  | ok poll =>
      cases poll with
      | ready frame =>
          dsimp only
          have readyNow : readyFrames (log ++ [.polled (.ok (.ready frame))]) =
              readyFrames log ++ [frame] := by
            simp [readyFrames, Event.ready?]
          have ready := ledger.queued.ready.resolve_right fun lost => live.fine lost.1.1
          split
          · -- the queue is full and the frame is dropped
            rename_i isFull
            have emptied := ledger.emptied emptyToo
            refine Ledger.fail emptyToo (emptied.1.calm ⟨rfl, rfl⟩) (emptied.2.polled _)
              ⟨?_, ledger.queued.bounded⟩ _ _
            rw [readyNow, ready]
            exact Or.inr ⟨⟨rfl, filled isFull⟩, frame, rfl⟩
          · rename_i room
            refine ⟨ledger.handing.calm ⟨rfl, rfl⟩, ledger.sent.polled _, ⟨?_, ?_⟩,
              Live.standing live (Or.inl empty.1)⟩
            · rw [readyNow, ready]
              exact Or.inl (List.append_assoc _ _ _)
            · rw [List.length_append, List.length_singleton]
              exact Nat.lt_of_not_le room
      | pending =>
          exact (ledger.polled liveToo (.ok .pending) rfl).counted _
      | endOfStream =>
          exact endOfStream_ledger (ledger.polled liveToo (.ok .endOfStream) rfl) liveToo emptyToo
            next
  | error error =>
      dsimp only
      split
      · exact (ledger.polled liveToo (.error error) rfl).counted _
      · exact endOfStream_ledger (ledger.polled liveToo (.error error) rfl) liveToo emptyToo next
      · exact ledger.polled_failed liveToo emptyToo (.error error) rfl _ _

theorem afterSubmit_ledger (ledger : Ledger errors same full pump log submitted popped)
    (filled : maxOutputQueue <= pump.outputQueue.length -> full) (live : Live pump)
    (empty : Empty pump) (backend : S) :
    After errors same full submitted popped
      (pump.afterSubmit errors ops.logged (backend, log)) := by
  unfold AsyncPump.afterSubmit
  split
  · rename_i due
    simp only [AsyncPump.flushDue, Bool.and_eq_true, decide_eq_true_eq, Bool.not_eq_true'] at due
    rcases due with ⟨⟨⟨flushing, unsent⟩, -⟩, -⟩
    have begun : pump.state ≠ .accepting := by
      rw [flushing]
      decide
    rcases ledger.emptied empty with ⟨handing, sent⟩
    rw [unsent] at sent
    split
    · -- the flush is sent, and counted whatever comes of it
      dsimp only
      generalize { pump.stats with flushCalls := bump pump.stats.flushCalls } = stats
      rcases flushed : ops.flushBackend backend with ⟨answer, next⟩
      rw [logged_flushBackend flushed]
      have calm : Event.Calm (.flushed answer : Event F V A) := ⟨rfl, rfl⟩
      have taken : Ledger errors same full { pump with flushSent := true, stats := stats }
          (log ++ [.flushed answer]) submitted popped := by
        refine ⟨ledger.handing.calm calm, ?_, ledger.queued.quiet rfl live.fine,
          Live.standing live (Or.inl empty.1)⟩
        dsimp only
        rw [empty.1, empty.2]
        exact sent.flushed begun handing live.fine calm
      cases answer with
      | ok value => exact pollStage_ledger taken filled live empty next
      | error error =>
          dsimp only
          split
          · rename_i isAgain
            have noFlush : (Event.flushed (.error error) : Event F V A).isFlush errors = false := by
              simp [Event.isFlush, isAgain]
            refine ⟨ledger.handing.calm calm, ?_, ledger.queued.quiet rfl live.fine,
              Live.standing live (Or.inl empty.1)⟩
            dsimp only [AsyncPump.pendingAgain]
            rw [unsent]
            exact sent.unflushed noFlush _ _
          · exact pollStage_ledger taken filled live empty next
          · rename_i isOther
            have noFlush : (Event.flushed (.error error) : Event F V A).isFlush errors = false := by
              simp [Event.isFlush, isOther]
            have emptyToo : Empty { pump with stats := stats } := empty
            refine Ledger.fail emptyToo (handing.calm calm) ?_
              (ledger.queued.quiet rfl live.fine) _ next
            dsimp only
            rw [unsent]
            exact sent.unflushed noFlush _ _
    · -- there is nothing to flush
      have passed : Ledger errors same full
          { pump with flushSent := true, eosFromBackend := true } log submitted popped := by
        refine ⟨ledger.handing, ⟨sent.order, nofun, fun _ => ⟨begun, empty⟩, ?_⟩, ledger.queued,
          Live.standing live (Or.inl empty.1)⟩
        rintro ⟨event, member, isFlush⟩
        rw [sent.unsent rfl event member] at isFlush
        cases isFlush
      exact pollStage_ledger passed filled live empty backend
  · exact pollStage_ledger ledger filled live empty backend

theorem submit_ledger {value : V}
    (weaker : forall value back, Exists (fun backend => Exists fun next =>
      ops.submitValue backend value = (.again back, next)) ->
        forall first, same first value -> same first back)
    (filled : maxOutputQueue <= pump.outputQueue.length -> full) (live : Live pump)
    (empty : Empty pump) (unsent : pump.flushSent = false)
    (handing : Handing same pump.state none (some value) log submitted) {waiting : Option F}
    {held : Option V} (sent : Sent errors pump.state false waiting held log submitted)
    (queued : Queued full pump.state pump.outputQueue log popped) (backend : S) :
    After errors same full submitted popped
      (pump.submit errors ops.logged (backend, log) value) := by
  unfold AsyncPump.submit
  rcases answered : ops.submitValue backend value with ⟨answer, next⟩
  rw [logged_submitValue answered]
  have unflushed : forall waiting held, Sent errors pump.state pump.flushSent waiting held
      (log ++ [.submitted value answer]) submitted := by
    intro waiting held
    rw [unsent]
    exact sent.unflushed rfl waiting held
  have quiet : Queued full pump.state pump.outputQueue (log ++ [.submitted value answer]) popped :=
    queued.quiet rfl live.fine
  cases answer with
  | accepted =>
      have handed : Ledger errors same full
          { pump with stats := { pump.stats with accepted := bump pump.stats.accepted } }
          (log ++ [.submitted value .accepted]) submitted popped := by
        refine ⟨?_, unflushed _ _, quiet, Live.standing live (Or.inl empty.1)⟩
        dsimp only
        rw [empty.1, empty.2]
        exact handing.accepted live.fine
      exact afterSubmit_ledger handed filled live empty next
  | again back =>
      have handed := handing.again (weaker value back ⟨backend, next, answered⟩) live.fine
      refine ⟨?_, unflushed _ _, quiet, Live.standing live (Or.inl empty.1)⟩
      dsimp only [AsyncPump.pendingAgain]
      rw [empty.1]
      exact handed
  | error error =>
      have lost : Handing same .failed none none (log ++ [.submitted value (.error error)])
          submitted := (handing.calm ⟨rfl, rfl⟩).failed none none
      have failed : forall reported, After errors same full submitted popped
          (pump.fail reported (next, log ++ [.submitted value (.error error)])) := by
        intro reported
        have stopped : CoreState.failed ≠ .accepting := by decide
        refine ⟨?_, ?_, queued.quiet rfl live.fine, ⟨nofun, fun _ => rfl, Or.inl empty.1⟩⟩
        · exact lost.failed _ _
        · exact (unflushed none none).stopped stopped _ _ empty
      dsimp only
      split
      · exact failed _
      · exact failed _
      · exact failed _

/-- What the backend hands back when it refuses a value stands in for it. -/
def HandsBack (ops : BackendOps S F V A) (same : V -> V -> Prop) : Prop :=
  forall backend value back next, ops.submitValue backend value = (.again back, next) ->
    same value back

section Step

variable (refl : forall value, same value value)
  (trans : forall first second third, same first second -> same second third -> same first third)
  (handsBack : HandsBack ops same)

include refl trans handsBack

theorem inputStage_ledger (ledger : Ledger errors same full pump log submitted popped)
    (filled : maxOutputQueue <= pump.outputQueue.length -> full) (live : Live pump) (backend : S) :
    After errors same full submitted popped (pump.inputStage errors ops.logged (backend, log)) := by
  have weaker : forall value back, Exists (fun backend => Exists fun next =>
      ops.submitValue backend value = (.again back, next)) ->
        forall first, same first value -> same first back := by
    rintro value back ⟨state, next, answered⟩ first paired
    exact trans first value back paired (handsBack state value back next answered)
  have unsent : Empty pump ∨ pump.flushSent = false := by
    cases isSent : pump.flushSent with
    | true => exact Or.inl (ledger.sent.sent isSent).2
    | false => exact Or.inr rfl
  have handing := ledger.handing
  have sent := ledger.sent
  unfold AsyncPump.inputStage
  cases held : pump.pendingBackendValue with
  | some value =>
      rw [held] at handing sent
      have noInput : pump.pendingMediaInput = none :=
        ledger.standing.one.resolve_right fun none => by
          rw [held] at none
          cases none
      have notSent : pump.flushSent = false := unsent.resolve_left fun empty => by
        rw [empty.2] at held
        cases held
      rw [noInput] at handing
      rw [notSent] at sent
      have emptied : Empty ({ pump with pendingBackendValue := none } : AsyncPump F V) :=
        ⟨noInput, rfl⟩
      have liveToo : Live ({ pump with pendingBackendValue := none } : AsyncPump F V) := live
      exact @submit_ledger S F V A errors ops same full
        ({ pump with pendingBackendValue := none } : AsyncPump F V) _ _ _ value weaker filled
        liveToo emptied notSent handing _ _ sent ledger.queued backend
  | none =>
      cases waits : pump.pendingMediaInput with
      | none => exact afterSubmit_ledger ledger filled live ⟨waits, held⟩ backend
      | some frame =>
          rw [held, waits] at handing
          have notSent : pump.flushSent = false := unsent.resolve_left fun empty => by
            rw [empty.1] at waits
            cases waits
          rw [notSent] at sent
          have emptied : Empty ({ pump with pendingMediaInput := none } : AsyncPump F V) :=
            ⟨rfl, held⟩
          have liveToo : Live ({ pump with pendingMediaInput := none } : AsyncPump F V) := live
          rcases converted : ops.convertInput backend frame with ⟨result, next⟩
          dsimp only
          rw [logged_convertInput converted]
          have unflushed : forall later waiting value, Sent errors later false waiting value
              (log ++ [.converted frame result]) submitted :=
            fun later => sent.unflushed rfl
          have quiet : forall later, Queued full later pump.outputQueue
              (log ++ [.converted frame result]) popped :=
            fun later => ledger.queued.quiet rfl live.fine
          cases result with
          | ok value =>
              have handed := handing.converted (refl value) live.fine
              have step := @submit_ledger S F V A errors ops same full
                ({ pump with pendingMediaInput := none } : AsyncPump F V) _ _ _ value weaker filled
                liveToo emptied notSent handed none none (unflushed _ none none) (quiet _) next
              rw [held] at step
              exact step
          | error error =>
              have lost := (handing.calm ⟨rfl, rfl⟩ : Handing same pump.state (some frame) none
                (log ++ [.converted frame (.error error)]) submitted).failed none none
              refine ⟨lost.failed _ _, ?_, quiet _, ⟨nofun, fun _ => rfl, Or.inl rfl⟩⟩
              dsimp only [AsyncPump.fail]
              rw [notSent]
              exact unflushed _ _ _

theorem pumpStep_ledger (ledger : Ledger errors same full pump log submitted popped)
    (filled : maxOutputQueue <= pump.outputQueue.length -> full) (backend : S) :
    After errors same full submitted popped (pump.pumpStep errors ops.logged (backend, log)) := by
  unfold AsyncPump.pumpStep
  cases isError : pump.error with
  | some error =>
      have failed := ledger.standing.error (by rw [isError]; exact nofun)
      have same : { pump with error := none, state := CoreState.failed } =
          { pump with error := none } := by
        rw [← failed]
      dsimp only
      rw [same]
      exact ⟨ledger.handing, ledger.sent, ledger.queued,
        ⟨ledger.standing.ended, nofun, ledger.standing.one⟩⟩
  | none =>
      dsimp only
      split
      · exact ledger
      · exact ledger
      · rename_i accepting
        exact inputStage_ledger refl trans handsBack ledger filled ⟨Or.inl accepting, isError⟩
          backend
      · rename_i flushing
        exact inputStage_ledger refl trans handsBack ledger filled ⟨Or.inr flushing, isError⟩
          backend

end Step
end Stages

/-! ### Runs -/

namespace Session

variable {errors : AvErrors A} {ops : BackendOps S F V A} {same : V -> V -> Prop} {full : Prop}
  {session next : Session S F V A}

def Kept (errors : AvErrors A) (same : V -> V -> Prop) (full : Prop)
    (session : Session S F V A) : Prop :=
  Ledger errors same full session.pump session.log session.submitted session.popped

theorem start_kept (backend : S) : Kept errors same full (start backend : Session S F V A) where
  handing := ⟨⟨[], rfl, fun _ => rfl⟩, ⟨[], .nil, fun _ => rfl⟩⟩
  sent := by
    refine ⟨.nil, ?_, nofun, ?_⟩
    · exact fun _ _ impossible => (List.not_mem_nil impossible).elim
    · rintro ⟨_, impossible, _⟩
      cases impossible
  queued := ⟨Or.inl rfl, Nat.zero_le _⟩
  standing := ⟨nofun, fun error => absurd rfl error, Or.inl rfl⟩

/-- The frame is taken in only by a pump that accepts and where none waits. -/
theorem submitInput_kept (kept : Kept errors same full session) (frame : F) :
    Kept errors same full (session.call errors ops (.submitInput frame)) := by
  rw [call]
  rcases session.pump.submitInput_cases frame with
    ⟨error, refused⟩ | ⟨⟨accepting, noInput, noValue⟩, taken⟩
  · rw [refused]
    exact kept
  · rw [taken]
    have fine : session.pump.state ≠ .failed := by
      rw [accepting]
      decide
    have unsent : session.pump.flushSent = false := by
      cases isSent : session.pump.flushSent with
      | true => exact absurd accepting (kept.sent.sent isSent).1
      | false => rfl
    rcases kept.handing.frames with ⟨rest, whole, isRest⟩
    refine ⟨⟨⟨[frame], ?_, fun _ => rfl⟩, kept.handing.values⟩, ?_, kept.queued,
      ⟨fun ended => ?_, kept.standing.error, Or.inr noValue⟩⟩
    · dsimp only
      rw [whole, isRest fine, noInput]
      simp
    · refine ⟨kept.sent.order, kept.sent.unsent, fun isSent => ?_, ?_⟩
      · exact absurd (unsent.symm.trans isSent) Bool.false_ne_true
      · rintro ⟨event, member, isFlush⟩
        rw [kept.sent.unsent unsent event member] at isFlush
        cases isFlush
    · exact absurd (accepting.symm.trans ended) (by decide)

theorem beginFlush_kept (kept : Kept errors same full session) :
    Kept errors same full (session.call errors ops .beginFlush) := by
  unfold call AsyncPump.beginFlush
  dsimp only
  split
  · rename_i accepting
    have fine : session.pump.state ≠ .failed := by
      rw [accepting]
      decide
    refine ⟨kept.handing.live fine, ⟨kept.sent.order, kept.sent.unsent, fun isSent => ?_,
      kept.sent.all⟩, ⟨Or.inl ?_, kept.queued.bounded⟩, ⟨nofun, fun error => ?_,
        kept.standing.one⟩⟩
    · exact ⟨nofun, (kept.sent.sent isSent).2⟩
    · exact kept.queued.ready.resolve_right fun lost => fine lost.1.1
    · exact absurd (kept.standing.error error) fine
  · exact kept

theorem popOutput_kept (kept : Kept errors same full session) :
    Kept errors same full (session.call errors ops .popOutput) := by
  unfold call AsyncPump.popOutput
  dsimp only
  split
  · rename_i empty
    dsimp only
    refine ⟨kept.handing, kept.sent, ?_, kept.standing⟩
    rw [Option.toList_none, List.append_nil]
    exact kept.queued
  · rename_i frame rest queue
    have ready := kept.queued.ready
    have bounded := kept.queued.bounded
    rw [queue] at ready bounded
    refine ⟨kept.handing, kept.sent, ⟨?_, ?_⟩, ⟨fun ended => ?_, kept.standing.error,
      kept.standing.one⟩⟩
    · dsimp only
      simpa using ready
    · exact Nat.le_of_succ_le bounded
    · have empty := (kept.standing.ended ended).1
      rw [queue] at empty
      cases empty

section Calls

variable (refl : forall value, same value value)
  (trans : forall first second third, same first second -> same second third -> same first third)
  (handsBack : HandsBack ops same)

include refl trans handsBack

theorem call_kept (kept : Kept errors same full session) (label : Call F)
    (filled : label = .pumpStep -> maxOutputQueue <= session.pump.outputQueue.length -> full) :
    Kept errors same full (session.call errors ops label) := by
  cases label with
  | submitInput frame => exact submitInput_kept kept frame
  | beginFlush => exact beginFlush_kept kept
  | pumpStep => exact pumpStep_ledger refl trans handsBack kept (filled rfl) session.backend
  | popOutput => exact popOutput_kept kept

theorem reached_kept {backend : S} {calls : List (Call F)}
    (reached : (machine errors ops).run (start backend) calls = some session) :
    Kept errors same True session := by
  refine (machine errors ops).run_invariant (Kept errors same True) ?_ (start_kept backend)
    ⟨calls, reached⟩
  intro state label next kept stepped
  cases stepped
  exact call_kept refl trans handsBack kept label fun _ _ => trivial

/-- No step is taken while the queue of outputs is full. -/
def Roomy (session : Session S F V A) (label : Call F) : Prop :=
  label = .pumpStep -> session.pump.outputQueue.length < maxOutputQueue

theorem reached_roomy {backend : S} {calls : List (Call F)}
    (roomy : (machine errors ops).Meets Roomy (start backend) calls)
    (reached : (machine errors ops).run (start backend) calls = some session) :
    Kept errors same False session := by
  refine (machine errors ops).run_invariant_of_meets (Kept errors same False) ?_
    (start_kept backend) roomy reached
  intro state label next kept room stepped
  cases stepped
  exact call_kept refl trans handsBack kept label fun isStep isFull =>
    absurd (room isStep) (Nat.not_lt_of_le isFull)

end Calls

/-- A pump that has ended or failed stays so. -/
theorem call_stopped (kept : Kept errors same full session)
    (stopped : session.pump.state = .ended ∨ session.pump.state = .failed) (label : Call F) :
    (session.call errors ops label).pump.state = session.pump.state := by
  cases label with
  | submitInput frame =>
      rw [call]
      rcases session.pump.submitInput_cases frame with ⟨error, refused⟩ | ⟨⟨accepting, -⟩, -⟩
      · rw [refused]
      · rw [accepting] at stopped
        rcases stopped with impossible | impossible
        · cases impossible
        · cases impossible
  | beginFlush =>
      rw [call, AsyncPump.beginFlush, if_neg]
      intro accepting
      rw [accepting] at stopped
      rcases stopped with impossible | impossible
      · cases impossible
      · cases impossible
  | pumpStep =>
      rw [call]
      unfold AsyncPump.pumpStep
      cases isError : session.pump.error with
      | some error =>
          exact (kept.standing.error (by rw [isError]; exact nofun)).symm
      | none =>
          rcases stopped with is | is
          · rw [is]
            exact is
          · rw [is]
            exact is
  | popOutput =>
      change session.pump.popOutput.2.state = session.pump.state
      unfold AsyncPump.popOutput
      split
      · rfl
      · rfl

/-- Nothing is submitted or flushed behind a flush, so all was accepted before. -/
private theorem flush_last {log before after : List (Event F V A)} {event : Event F V A}
    {submitted : List F}
    (order : log.Pairwise fun earlier later =>
      earlier.isFlush errors = true -> later.isPoll = true)
    (all : (acceptedValues log).length = submitted.length)
    (whole : log = before ++ event :: after) (isFlush : event.isFlush errors = true) :
    (acceptedValues before).length = submitted.length ∧
      forall later, later ∈ after -> later.isPoll = true := by
  subst whole
  rw [List.pairwise_append, List.pairwise_cons] at order
  have polls : forall later, later ∈ after -> later.isPoll = true :=
    fun later member => order.2.1.1 later member isFlush
  have noEvent : event.accepted? = none := by
    cases event with
    | submitted value answer => cases isFlush
    | _ => rfl
  have noneAfter : after.filterMap Event.accepted? = [] := by
    refine List.filterMap_eq_nil_iff.mpr fun later member => ?_
    have isPoll := polls later member
    cases later with
    | polled answer => rfl
    | _ => cases isPoll
  refine ⟨?_, polls⟩
  rw [acceptedValues, List.filterMap_append, List.filterMap_cons, noEvent] at all
  simpa [acceptedValues, noneAfter] using all

/-- For every backend and every sequence of calls: what is accepted are the
conversions of the first submitted frames, each once and in order, and all of
them when nothing waits; a flush comes after all of them and once; all outputs
are popped or queued in order, but for one that a failing pump may drop when it
steps with a full queue; and a pump that has ended or failed stays so. -/
theorem pump_exactly_once (errors : AvErrors A) (ops : BackendOps S F V A) (same : V -> V -> Prop)
    (refl : forall value, same value value)
    (trans : forall first second third, same first second -> same second third ->
      same first third) (handsBack : HandsBack ops same) {backend : S} {calls : List (Call F)}
    {session : Session S F V A}
    (reached : (machine errors ops).run (start backend) calls = some session) :
    ((conversions session.log).map Prod.fst <+: session.submitted ∧
      (Exists fun rest => List.Forall₂ same ((conversions session.log).map Prod.snd)
        (acceptedValues session.log ++ rest)) ∧
      (session.pump.pendingMediaInput = none -> session.pump.pendingBackendValue = none ->
        session.pump.state ≠ .failed ->
          (conversions session.log).map Prod.fst = session.submitted ∧
          List.Forall₂ same ((conversions session.log).map Prod.snd)
            (acceptedValues session.log))) ∧
    (forall before event after, session.log = before ++ event :: after ->
      event.isFlush errors = true ->
        (acceptedValues before).length = session.submitted.length ∧
          forall later, later ∈ after -> later.isPoll = true) ∧
    ((readyFrames session.log = session.popped ++ session.pump.outputQueue ∨
        session.pump.state = .failed ∧ Exists fun frame => readyFrames session.log =
          session.popped ++ session.pump.outputQueue ++ [frame]) ∧
      ((machine errors ops).Meets Roomy (start backend) calls ->
        readyFrames session.log = session.popped ++ session.pump.outputQueue)) ∧
    (session.pump.state = .ended -> session.pump.outputQueue = [] ∧
      session.pump.pendingMediaInput = none ∧ session.pump.pendingBackendValue = none) ∧
    (session.pump.state = .ended ∨ session.pump.state = .failed ->
      forall label, (session.call errors ops label).pump.state = session.pump.state) := by
  have kept : Kept errors same True session := reached_kept refl trans handsBack reached
  refine ⟨⟨?_, ?_, ?_⟩, ?_, ⟨?_, ?_⟩, kept.standing.ended, call_stopped kept⟩
  · rcases kept.handing.frames with ⟨rest, whole, -⟩
    exact ⟨rest, whole.symm⟩
  · rcases kept.handing.values with ⟨rest, paired, -⟩
    exact ⟨rest, paired⟩
  · intro noInput noValue fine
    rcases kept.handing.frames with ⟨rest, whole, isRest⟩
    rcases kept.handing.values with ⟨more, paired, isMore⟩
    rw [isRest fine, noInput, Option.toList_none, List.append_nil] at whole
    rw [isMore fine, noValue, Option.toList_none, List.append_nil] at paired
    exact ⟨whole.symm, paired⟩
  · intro before event after whole isFlush
    have member : event ∈ session.log := by
      rw [whole]
      exact List.mem_append_right _ List.mem_cons_self
    exact flush_last kept.sent.order (kept.sent.all ⟨event, member, isFlush⟩) whole isFlush
  · exact kept.queued.ready.imp_right fun lost => ⟨lost.1.1, lost.2⟩
  · intro roomy
    have keptToo : Kept errors same False session :=
      reached_roomy refl trans handsBack roomy reached
    exact keptToo.queued.ready.resolve_right fun lost => lost.1.2

/-- No error of this backend is one to try again after, or an end. -/
def plainErrors : AvErrors Unit where
  kind _ := .other
  mapAvError _ := .other "backend"

/-- A backend that gives back what it accepts, and ends once it is flushed and
empty. -/
def echo : BackendOps (List Nat × Bool) Nat Nat Unit where
  convertInput backend frame := (.ok frame, backend)
  submitValue backend value := (.accepted, (backend.1 ++ [value], backend.2))
  pollOutput backend :=
    match backend.1 with
    | [] => (.ok (if backend.2 then .endOfStream else .pending), backend)
    | frame :: rest => (.ok (.ready frame), (rest, backend.2))
  flushBackend backend := (.ok (), (backend.1, true))
  resetBackend _ := (.ok (), ([], false))
  flushRequired _ := true

def echoCalls : List (Call Nat) :=
  [.submitInput 3, .pumpStep, .submitInput 4, .beginFlush, .pumpStep, .popOutput, .popOutput,
    .pumpStep, .pumpStep]

theorem echo_exactly_once :
    Exists fun session =>
      (machine plainErrors echo).run (start ([], false)) echoCalls = some session ∧
      ((conversions session.log).map Prod.fst <+: session.submitted ∧
        (Exists fun rest => List.Forall₂ Eq ((conversions session.log).map Prod.snd)
          (acceptedValues session.log ++ rest)) ∧
        (session.pump.pendingMediaInput = none -> session.pump.pendingBackendValue = none ->
          session.pump.state ≠ .failed ->
            (conversions session.log).map Prod.fst = session.submitted ∧
            List.Forall₂ Eq ((conversions session.log).map Prod.snd)
              (acceptedValues session.log))) ∧
      (forall before event after, session.log = before ++ event :: after ->
        event.isFlush plainErrors = true ->
          (acceptedValues before).length = session.submitted.length ∧
            forall later, later ∈ after -> later.isPoll = true) ∧
      ((readyFrames session.log = session.popped ++ session.pump.outputQueue ∨
          session.pump.state = .failed ∧ Exists fun frame => readyFrames session.log =
            session.popped ++ session.pump.outputQueue ++ [frame]) ∧
        ((machine plainErrors echo).Meets Roomy (start ([], false)) echoCalls ->
          readyFrames session.log = session.popped ++ session.pump.outputQueue)) ∧
      (session.pump.state = .ended -> session.pump.outputQueue = [] ∧
        session.pump.pendingMediaInput = none ∧ session.pump.pendingBackendValue = none) ∧
      (session.pump.state = .ended ∨ session.pump.state = .failed ->
        forall label,
          (session.call plainErrors echo label).pump.state = session.pump.state) := by
  have handsBack : HandsBack echo Eq := by
    intro backend value back next answered
    cases answered
  exact ⟨_, rfl, pump_exactly_once plainErrors echo Eq (fun _ => rfl)
    (fun _ _ _ first second => first.trans second) handsBack rfl⟩

/-- A backend that always has an output ready fills the queue, and the ninth
output is dropped when none was popped. -/
def fountain : BackendOps Unit Nat Nat Unit where
  convertInput _ frame := (.ok frame, ())
  submitValue _ _ := (.accepted, ())
  pollOutput _ := (.ok (.ready 7), ())
  flushBackend _ := (.ok (), ())
  resetBackend _ := (.ok (), ())
  flushRequired _ := true

theorem fountain_drops :
    Exists fun session =>
      (machine plainErrors fountain).run (start ()) (List.replicate 9 .pumpStep) =
        some session ∧
      session.pump.state = .failed ∧
      readyFrames session.log ≠ session.popped ++ session.pump.outputQueue := by
  refine ⟨_, rfl, rfl, ?_⟩
  decide +kernel

end Session
end Media
end DyunGu
