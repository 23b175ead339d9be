import DyunGu.Media.PumpLedger
import DyunGu.Media.StreamEnd

namespace DyunGu
namespace Media

open DyunGu.Core
open DyunGu.Graph (ElementIo Packet)
open DyunGu.Backend (u64Max)

/-!
# Media elements end cleanly

Every media core takes a stream: those without a codec because each of their
frames is made at once, those with a pump if the session behind it accepts its
inputs and ends after a flush.  So their elements end on every stream, but not
on one without data whose core opens its session with its first frame: the pump
is told that the backend has ended, and asks the backend all the same.
-/

/-! ## Obliging sessions -/

section Sessions

variable {D V A : Type}

/-- A poll as the pump understands it: errors to try again and of the end of the
stream are no errors. -/
def pollAnswer (errors : AvErrors A) : Except A (Poll MediaFrame) -> Option (Poll MediaFrame)
  | .ok poll => some poll
  | .error error =>
      match errors.kind error with
      | .again => some .pending
      | .endOfStream => some .endOfStream
      | .other => none

/-- The answer to a flush: whether it was taken. -/
def flushAnswer (errors : AvErrors A) : Except A Unit -> Option Bool
  | .ok () => some true
  | .error error =>
      match errors.kind error with
      | .again => some false
      | .endOfStream => some true
      | .other => none

/-- The value is accepted at last, when it is only tried again and again. -/
inductive Takes (session : SessionOps D V A) (Open : D -> Prop) : D -> V -> Prop where
  | accepted {opened next : D} {value : V}
      (submit : session.submit opened value = (.accepted, next)) (isOpen : Open next) :
      Takes session Open opened value
  | again {opened next : D} {value back : V}
      (submit : session.submit opened value = (.again back, next))
      (rest : Takes session Open next back) : Takes session Open opened value

/-- The session polls to the end of its stream. -/
inductive Finishing (errors : AvErrors A) (session : SessionOps D V A)
    (check : MediaFrame -> Except MediaError Unit) : D -> Prop where
  | ended {opened : D}
      (poll : pollAnswer errors (session.poll opened).1 = some .endOfStream) :
      Finishing errors session check opened
  | ready {opened : D} {frame : MediaFrame}
      (poll : pollAnswer errors (session.poll opened).1 = some (.ready frame))
      (passes : check frame = .ok ())
      (rest : Finishing errors session check (session.poll opened).2) :
      Finishing errors session check opened
  | pending {opened : D} (poll : pollAnswer errors (session.poll opened).1 = some .pending)
      (rest : Finishing errors session check (session.poll opened).2) :
      Finishing errors session check opened

/-- The session takes a flush at last, and then it finishes. -/
inductive Flushing (errors : AvErrors A) (session : SessionOps D V A)
    (check : MediaFrame -> Except MediaError Unit) : D -> Prop where
  | flushed {opened : D} (flush : flushAnswer errors (session.flush opened).1 = some true)
      (rest : Finishing errors session check (session.flush opened).2) :
      Flushing errors session check opened
  | again {opened : D} (flush : flushAnswer errors (session.flush opened).1 = some false)
      (rest : Flushing errors session check (session.flush opened).2) :
      Flushing errors session check opened

/-- A session that, once opened, accepts its inputs and ends after a flush.  The
frames it hands out pass the check of its core. -/
structure Obliging (errors : AvErrors A) (session : SessionOps D V A)
    (check : MediaFrame -> Except MediaError Unit) (accepts : MediaFrame -> Prop)
    (Open : D -> Prop) : Prop where
  opens : forall frame, accepts frame ->
    Exists fun opened => session.openSession frame = .ok opened ∧ Open opened
  invariants : forall opened frame, Open opened -> accepts frame ->
    session.checkInvariants opened frame = .ok ()
  takes : forall opened frame, Open opened -> accepts frame ->
    Exists fun value => session.convert opened frame = .ok value ∧
      Takes session Open opened value
  polls : forall opened, Open opened -> Open (session.poll opened).2 ∧
    ((Exists fun frame => pollAnswer errors (session.poll opened).1 = some (.ready frame) ∧
      check frame = .ok ()) ∨ pollAnswer errors (session.poll opened).1 = some .pending)
  flushes : forall opened, Open opened -> Flushing errors session check opened

/-! ## One step of the pump -/

variable {S : Type} {errors : AvErrors A} {ops : BackendOps S MediaFrame V A}
  {missing : String} {check : MediaFrame -> Except MediaError Unit}

/-- A pump with an empty queue and without an error. -/
def stillPump (state : CoreState) (input : Option MediaFrame) (value : Option V)
    (flushed ended : Bool) (stats : MediaSessionStats) : AsyncPump MediaFrame V :=
  ⟨state, input, value, [], flushed, ended, none, stats⟩

variable {state : CoreState} {input : Option MediaFrame} {value : Option V}
  {flushed ended : Bool} {stats : MediaSessionStats}

theorem countPoll_still (state : CoreState) (input : Option MediaFrame) (value : Option V)
    (flushed ended : Bool) (stats : MediaSessionStats) : Exists fun after =>
    (stillPump state input value flushed ended stats : AsyncPump MediaFrame V).countPoll =
      stillPump state input value flushed ended after :=
  ⟨_, AsyncPump.countPoll_eq _⟩

/-- What is asked of the backend at the end of a step. -/
theorem pollStage_still {backend : S} {poll : Poll MediaFrame}
    (answer : pollAnswer errors (ops.pollOutput backend).1 = some poll) :
    Exists fun after =>
      (stillPump state input value flushed ended stats).pollStage errors ops backend =
        match poll with
        | .ready frame => (.ok .outputReady,
            { stillPump state input value flushed ended after with outputQueue := [frame] },
            (ops.pollOutput backend).2)
        | .pending => (.ok .pending, stillPump state input value flushed ended after,
            (ops.pollOutput backend).2)
        | .endOfStream => (.ok .endOfStream, stillPump .ended input value flushed true after,
            (ops.pollOutput backend).2) := by
  rcases countPoll_still state input value flushed ended stats with ⟨after, counted⟩
  unfold AsyncPump.pollStage
  rw [counted]
  generalize ops.pollOutput backend = polled at answer ⊢
  rcases polled with ⟨error | polled, next⟩
  · unfold pollAnswer at answer
    dsimp only at answer ⊢
    generalize errors.kind error = kind at answer ⊢
    cases kind with
    | again =>
        cases answer
        exact ⟨_, rfl⟩
    | endOfStream =>
        cases answer
        exact ⟨_, rfl⟩
    | other => cases answer
  · cases answer
    cases poll with
    | ready frame =>
        have free : ¬maxOutputQueue <= ([] : List MediaFrame).length := Nat.not_succ_le_zero 7
        exact ⟨{ after with outputFrames := bump after.outputFrames }, if_neg free⟩
    | pending => exact ⟨_, rfl⟩
    | endOfStream => exact ⟨_, rfl⟩

/-- A poll of a core whose pump comes to ask the backend. -/
theorem poll_still (start : AsyncPump MediaFrame V × S) {backend : S} {poll : Poll MediaFrame}
    (empty : start.1.outputQueue = [])
    (step : start.1.pumpStep errors ops start.2 =
      (stillPump state input value flushed ended stats).pollStage errors ops backend)
    (answer : pollAnswer errors (ops.pollOutput backend).1 = some poll) :
    Exists fun after => (pumpCore errors ops missing check).poll start =
      match poll with
      | .ready frame => checkedFrame check frame
          (stillPump state input value flushed ended after, (ops.pollOutput backend).2)
      | .pending => (.ok .pending, stillPump state input value flushed ended after,
          (ops.pollOutput backend).2)
      | .endOfStream => (.ok .endOfStream, stillPump .ended input value flushed true after,
          (ops.pollOutput backend).2) := by
  rcases pollStage_still answer with ⟨after, staged⟩
  refine ⟨after, ?_⟩
  unfold pumpCore AsyncPump.popOutput
  dsimp only
  rw [empty]
  dsimp only
  rw [step, staged]
  cases poll with
  | ready frame => rfl
  | pending => rfl
  | endOfStream => rfl

/-! ## The situations of a core -/

variable {session : SessionOps D V A} {notInitialized : A}
  {unopened : Except A (Poll MediaFrame)} {accepts : MediaFrame -> Prop} {Open : D -> Prop}

/-- The core of a session. -/
abbrev sessionCore (errors : AvErrors A) (session : SessionOps D V A) (notInitialized : A)
    (unopened : Except A (Poll MediaFrame)) (missing : String)
    (check : MediaFrame -> Except MediaError Unit) :
    MediaCore (AsyncPump MediaFrame V × Option D) :=
  pumpCore errors (sessionBackend session notInitialized unopened) missing check

/-- A poll of a core whose pump comes to ask an open session. -/
theorem poll_session {start : AsyncPump MediaFrame V × Option D} {opened : D}
    {poll : Poll MediaFrame} (empty : start.1.outputQueue = [])
    (step : start.1.pumpStep errors (sessionBackend session notInitialized unopened) start.2 =
      (stillPump state input value flushed ended stats).pollStage errors
        (sessionBackend session notInitialized unopened) (some opened))
    (answer : pollAnswer errors (session.poll opened).1 = some poll) :
    Exists fun after => (sessionCore errors session notInitialized unopened missing check).poll
        start = match poll with
      | .ready frame => checkedFrame check frame
          (stillPump state input value flushed ended after, some (session.poll opened).2)
      | .pending => (.ok .pending, stillPump state input value flushed ended after,
          some (session.poll opened).2)
      | .endOfStream => (.ok .endOfStream, stillPump .ended input value flushed true after,
          some (session.poll opened).2) :=
  poll_still start empty step answer

theorem checkedFrame_passes {P : Type} {frame : MediaFrame} (passes : check frame = .ok ())
    (rest : P) : checkedFrame check frame rest = (.ok (.ready frame), rest) := by
  rw [checkedFrame, passes]

/-- The core accepts; it was fed when its session is open. -/
structure Idle (unopened : Except A (Poll MediaFrame)) (Open : D -> Prop) (fed : Bool)
    (core : AsyncPump MediaFrame V × Option D) : Prop where
  pump : Exists fun stats => core.1 = stillPump .accepting none none false false stats
  backend : (fed = true ∧ Exists fun opened => core.2 = some opened ∧ Open opened) ∨
    fed = false ∧ core.2 = none ∧ unopened = .ok .pending

theorem idle_open {opened : D} (isOpen : Open opened) (stats : MediaSessionStats) :
    Idle unopened Open true
      ((stillPump .accepting none none false false stats : AsyncPump MediaFrame V),
        some opened) where
  pump := ⟨stats, rfl⟩
  backend := Or.inl ⟨rfl, opened, rfl, isOpen⟩

/-- The input has ended before any session was opened. -/
structure Abandoned (unopened : Except A (Poll MediaFrame))
    (core : AsyncPump MediaFrame V × Option D) : Prop where
  pump : Exists fun stats => Exists fun flushed =>
    core.1 = stillPump .flushing none none flushed flushed stats
  backend : core.2 = none
  pending : unopened = .ok .pending

/-- An accepting core asks its open session and accepts again. -/
theorem open_polls (obliging : Obliging errors session check accepts Open)
    {start : AsyncPump MediaFrame V × Option D} {opened : D} (isOpen : Open opened)
    (empty : start.1.outputQueue = [])
    (step : start.1.pumpStep errors (sessionBackend session notInitialized unopened) start.2 =
      (stillPump .accepting none none false false stats).pollStage errors
        (sessionBackend session notInitialized unopened) (some opened)) :
    Exists fun next => Idle unopened Open true next ∧
      ((Exists fun frame => (sessionCore errors session notInitialized unopened missing
          check).poll start = (.ok (.ready frame), next)) ∨
        (sessionCore errors session notInitialized unopened missing check).poll start =
          (.ok .pending, next)) := by
  rcases obliging.polls opened isOpen with ⟨stillOpen, ⟨frame, answer, passes⟩ | answer⟩
  · rcases poll_session empty step answer with ⟨after, polled⟩
    exact ⟨_, idle_open stillOpen after, Or.inl ⟨frame, polled.trans
      (checkedFrame_passes passes _)⟩⟩
  · rcases poll_session empty step answer with ⟨after, polled⟩
    exact ⟨_, idle_open stillOpen after, Or.inr polled⟩

theorem idle_polls (obliging : Obliging errors session check accepts Open) (fed : Bool)
    (core : AsyncPump MediaFrame V × Option D) (idle : Idle unopened Open fed core) :
    Exists fun next => Idle unopened Open fed next ∧
      ((Exists fun frame => (sessionCore errors session notInitialized unopened missing
          check).poll core = (.ok (.ready frame), next)) ∨
        (sessionCore errors session notInitialized unopened missing check).poll core =
          (.ok .pending, next)) := by
  rcases core with ⟨pump, backend⟩
  rcases idle with ⟨⟨stats, isPump⟩, ⟨isFed, opened, isBackend, isOpen⟩ |
    ⟨isFed, isBackend, isPending⟩⟩
  · cases isPump
    cases isBackend
    cases isFed
    exact open_polls obliging isOpen rfl rfl
  · cases isPump
    cases isBackend
    cases isFed
    have answer : pollAnswer errors ((sessionBackend session notInitialized unopened).pollOutput
        none).1 = some .pending := congrArg (pollAnswer errors) isPending
    rcases poll_still (stillPump .accepting none none false false stats, none)
      rfl rfl answer with ⟨after, polled⟩
    exact ⟨_, ⟨⟨after, rfl⟩, Or.inr ⟨rfl, rfl, isPending⟩⟩, Or.inr polled⟩

theorem poll_step_pending {start : AsyncPump MediaFrame V × S} {next : AsyncPump MediaFrame V}
    {backend : S} (empty : start.1.outputQueue = [])
    (step : start.1.pumpStep errors ops start.2 = (.ok .pending, next, backend)) :
    (pumpCore errors ops missing check).poll start = (.ok .pending, next, backend) := by
  unfold pumpCore AsyncPump.popOutput
  dsimp only
  rw [empty]
  dsimp only
  rw [step]

/-- A core that comes to submit a value to its open session is through with it
when the session takes it. -/
theorem takes_taking (obliging : Obliging errors session check accepts Open) {opened : D}
    {value : V} (takes : Takes session Open opened value)
    {start : AsyncPump MediaFrame V × Option D} (empty : start.1.outputQueue = [])
    (step : start.1.pumpStep errors (sessionBackend session notInitialized unopened) start.2 =
      (stillPump .accepting none none false false stats).submit errors
        (sessionBackend session notInitialized unopened) (some opened) value) :
    Taking (sessionCore errors session notInitialized unopened missing check)
      (Idle unopened Open true) start := by
  induction takes generalizing start stats with
  | @accepted opened next value submit isOpen =>
      have taken : (sessionBackend session notInitialized unopened).submitValue (some opened)
          value = (.accepted, some next) :=
        congrArg (fun answer => (answer.1, some answer.2)) submit
      have staged : start.1.pumpStep errors (sessionBackend session notInitialized unopened)
          start.2 = (stillPump .accepting none none false false
            { stats with accepted := bump stats.accepted }).pollStage errors
            (sessionBackend session notInitialized unopened) (some next) := by
        rw [step, AsyncPump.submit, taken]
        rfl
      rcases open_polls obliging isOpen empty staged with
        ⟨after, idle, ⟨frame, poll⟩ | poll⟩
      · exact .ready poll idle
      · exact .pending poll idle
  | @again opened next value back submit rest ih =>
      have refused : (sessionBackend session notInitialized unopened).submitValue (some opened)
          value = (.again back, some next) :=
        congrArg (fun answer => (answer.1, some answer.2)) submit
      have held : start.1.pumpStep errors (sessionBackend session notInitialized unopened)
          start.2 = (.ok .pending, stillPump .accepting none (some back) false false
            { stats with
              againCount := bump stats.againCount
              pendingCount := bump stats.pendingCount }, some next) := by
        rw [step, AsyncPump.submit, refused]
        rfl
      exact .again (poll_step_pending empty held) rfl rfl (ih rfl rfl)

/-- A frame that waits is converted and submitted. -/
theorem pumpStep_frame {frame : MediaFrame} {backend next : S} {made : V}
    (converted : ops.convertInput backend frame = (.ok made, next)) :
    (stillPump .accepting (some frame) none false false stats).pumpStep errors ops backend =
      (stillPump .accepting none none false false stats).submit errors ops next made := by
  simp only [AsyncPump.pumpStep, AsyncPump.inputStage, stillPump, converted]

theorem idle_submits (obliging : Obliging errors session check accepts Open) (fed : Bool)
    (core : AsyncPump MediaFrame V × Option D) (frame : MediaFrame)
    (idle : Idle unopened Open fed core) (accepted : accepts frame) :
    Exists fun next => (sessionCore errors session notInitialized unopened missing check).submit
        core frame = (.ok (), next) ∧
      Taking (sessionCore errors session notInitialized unopened missing check)
        (Idle unopened Open true) next := by
  rcases core with ⟨pump, backend⟩
  rcases idle with ⟨⟨stats, isPump⟩, situation⟩
  cases isPump
  have converts : Exists fun opened => Exists fun value =>
      (sessionBackend session notInitialized unopened).convertInput backend frame =
        (.ok value, some opened) ∧ Takes session Open opened value := by
    rcases situation with ⟨-, opened, isBackend, isOpen⟩ | ⟨-, isBackend, -⟩
    · cases isBackend
      rcases obliging.takes opened frame isOpen accepted with ⟨value, converted, takes⟩
      refine ⟨opened, value, ?_, takes⟩
      rw [sessionBackend]
      dsimp only
      rw [obliging.invariants opened frame isOpen accepted, converted]
    · cases isBackend
      rcases obliging.opens frame accepted with ⟨opened, opens, isOpen⟩
      rcases obliging.takes opened frame isOpen accepted with ⟨value, converted, takes⟩
      refine ⟨opened, value, ?_, takes⟩
      rw [sessionBackend]
      dsimp only
      rw [opens]
      dsimp only
      rw [converted]
  rcases converts with ⟨opened, value, converted, takes⟩
  exact ⟨_, rfl, takes_taking obliging takes rfl (pumpStep_frame converted)⟩

/-! ### After the input has ended -/

/-- A core that comes to ask a session that finishes drains. -/
theorem finishing_drains {opened : D} (finishing : Finishing errors session check opened)
    {start : AsyncPump MediaFrame V × Option D} (empty : start.1.outputQueue = [])
    (step : start.1.pumpStep errors (sessionBackend session notInitialized unopened) start.2 =
      (stillPump .flushing none none true false stats).pollStage errors
        (sessionBackend session notInitialized unopened) (some opened)) :
    Exists fun count =>
      Drains (sessionCore errors session notInitialized unopened missing check) count start := by
  induction finishing generalizing start stats with
  | @ended opened answer =>
      rcases poll_session empty step answer with ⟨after, polled⟩
      exact ⟨0, .ended polled⟩
  | @ready opened frame answer passes rest ih =>
      rcases poll_session empty step answer with ⟨after, polled⟩
      have drains : Exists fun count =>
          Drains (sessionCore errors session notInitialized unopened missing check) count
            (stillPump .flushing none none true false after, some (session.poll opened).2) :=
        ih rfl rfl
      rcases drains with ⟨count, drains⟩
      exact ⟨count + 1, .ready (polled.trans (checkedFrame_passes passes _)) drains⟩
  | @pending opened answer rest ih =>
      rcases poll_session empty step answer with ⟨after, polled⟩
      have drains : Exists fun count =>
          Drains (sessionCore errors session notInitialized unopened missing check) count
            (stillPump .flushing none none true false after, some (session.poll opened).2) :=
        ih rfl rfl
      rcases drains with ⟨count, drains⟩
      exact ⟨count + 1, .pending polled rfl drains⟩

/-- A flush that is due is sent to an open session. -/
theorem pumpStep_flush {opened : D} {taken : Bool}
    (flush : flushAnswer errors (session.flush opened).1 = some taken)
    (stats : MediaSessionStats) :
    Exists fun after => (stillPump .flushing none none false false stats).pumpStep errors
        (sessionBackend session notInitialized unopened) (some opened) =
      match taken with
      | true => (stillPump .flushing none none true false after).pollStage errors
          (sessionBackend session notInitialized unopened) (some (session.flush opened).2)
      | false => (.ok .pending, stillPump .flushing none none false false after,
          some (session.flush opened).2) := by
  have due : (stillPump .flushing none none false false stats).pumpStep errors
      (sessionBackend session notInitialized unopened) (some opened) =
        (stillPump .flushing none none false false stats).afterSubmit errors
          (sessionBackend session notInitialized unopened) (some opened) := rfl
  have isDue : (stillPump .flushing none none false false stats :
      AsyncPump MediaFrame V).flushDue = true := rfl
  have required : (sessionBackend session notInitialized unopened).flushRequired
      (some opened) = true := rfl
  have sent : (sessionBackend session notInitialized unopened).flushBackend (some opened) =
      ((session.flush opened).1, some (session.flush opened).2) := rfl
  rw [due]
  unfold AsyncPump.afterSubmit
  rw [if_pos isDue, if_pos required, sent]
  dsimp only
  generalize (session.flush opened).1 = answer at flush
  cases answer with
  | ok flushed =>
      cases flush
      exact ⟨_, rfl⟩
  | error error =>
      unfold flushAnswer at flush
      dsimp only at flush ⊢
      generalize errors.kind error = kind at flush ⊢
      cases kind with
      | again =>
          cases flush
          exact ⟨_, rfl⟩
      | endOfStream =>
          cases flush
          exact ⟨_, rfl⟩
      | other => cases flush

theorem flushing_drains {opened : D} (flushing : Flushing errors session check opened)
    (stats : MediaSessionStats) : Exists fun count =>
      Drains (sessionCore errors session notInitialized unopened missing check) count
        (stillPump .flushing none none false false stats, some opened) := by
  induction flushing generalizing stats with
  | @flushed opened flush rest =>
      rcases pumpStep_flush flush stats with ⟨after, step⟩
      exact finishing_drains rest rfl step
  | @again opened flush rest ih =>
      rcases pumpStep_flush flush stats with ⟨after, step⟩
      rcases ih after with ⟨count, drains⟩
      exact ⟨count + 1, .pending (poll_step_pending rfl step) rfl drains⟩

/-- Nothing comes of a core whose session was never opened. -/
theorem abandoned_polls (core : AsyncPump MediaFrame V × Option D)
    (abandoned : Abandoned unopened core) :
    Exists fun next => (sessionCore errors session notInitialized unopened missing check).poll
        core = (.ok .pending, next) ∧ Abandoned unopened next ∧
      (sessionCore errors session notInitialized unopened missing check).hasInFlight next =
        false := by
  rcases core with ⟨pump, backend⟩
  rcases abandoned with ⟨⟨stats, flushed, isPump⟩, isBackend, isPending⟩
  cases isPump
  cases isBackend
  have answer : pollAnswer errors ((sessionBackend session notInitialized unopened).pollOutput
      none).1 = some .pending := congrArg (pollAnswer errors) isPending
  have step : (stillPump .flushing none none flushed flushed stats).pumpStep errors
      (sessionBackend session notInitialized unopened) none =
        (stillPump .flushing none none true true stats).pollStage errors
          (sessionBackend session notInitialized unopened) none := by
    cases flushed with
    | true => rfl
    | false => rfl
  rcases poll_still (stillPump .flushing none none flushed flushed stats, none)
    rfl step answer with ⟨after, polled⟩
  exact ⟨_, polled, ⟨⟨after, true, rfl⟩, rfl, isPending⟩, rfl⟩

/-- The core of an obliging session takes a stream. -/
theorem session_streaming (obliging : Obliging errors session check accepts Open) :
    Streaming (sessionCore errors session notInitialized unopened missing check) accepts
      (Idle unopened Open) (Abandoned unopened) where
  takesInput fed core idle := by
    rcases core with ⟨pump, backend⟩
    rcases idle with ⟨⟨stats, isPump⟩, -⟩
    cases isPump
    exact ⟨rfl, rfl⟩
  polls := idle_polls obliging
  submits fed core frame idle accepted := idle_submits obliging fed core frame idle accepted
  drains core idle := by
    rcases core with ⟨pump, backend⟩
    rcases idle with ⟨⟨stats, isPump⟩, ⟨-, opened, isBackend, isOpen⟩ | ⟨absurdity, -⟩⟩
    · cases isPump
      cases isBackend
      exact flushing_drains (obliging.flushes opened isOpen) stats
    · cases absurdity
  stuck core idle := by
    rcases core with ⟨pump, backend⟩
    rcases idle with ⟨⟨stats, isPump⟩, ⟨absurdity, -⟩ | ⟨-, isBackend, isPending⟩⟩
    · cases absurdity
    · cases isPump
      cases isBackend
      exact ⟨⟨stats, false, rfl⟩, rfl, isPending⟩
  pollsStuck := abandoned_polls

/-! ## Cores without a codec -/

/-- A frame of which such a core makes another. -/
def Processed (process : MediaFrame -> Except MediaError MediaFrame) (frame : MediaFrame) : Prop :=
  frame.isEndOfStream = false ∧ Exists fun made => process frame = .ok made

theorem opsCore_drains {late : String} {process : MediaFrame -> Except MediaError MediaFrame}
    (frames : List MediaFrame) :
    Drains (opsCore late process) frames.length ⟨frames, true⟩ := by
  induction frames with
  | nil => exact .ended rfl
  | cons frame frames ih => exact .ready rfl ih

theorem opsCore_streaming (late : String)
    (process : MediaFrame -> Except MediaError MediaFrame) :
    Streaming (opsCore late process) (Processed process)
      (fun fed core => fed = true ∧ core.eos = false) fun _ => False where
  takesInput fed core accepting := ⟨rfl, rfl⟩
  polls fed core accepting := by
    rcases core with ⟨frames, eos⟩
    rcases accepting with ⟨isFed, isOpen⟩
    cases isOpen
    cases frames with
    | nil => exact ⟨_, ⟨isFed, rfl⟩, Or.inr rfl⟩
    | cons frame frames => exact ⟨_, ⟨isFed, rfl⟩, Or.inl ⟨frame, rfl⟩⟩
  submits fed core frame accepting processed := by
    rcases core with ⟨frames, eos⟩
    rcases accepting with ⟨-, isOpen⟩
    rcases processed with ⟨isData, made, processes⟩
    cases isOpen
    refine ⟨⟨frames ++ [made], false⟩, ?_, ?_⟩
    · unfold opsCore OpsCore.submit
      dsimp only
      rw [if_neg Bool.false_ne_true, isData, if_neg Bool.false_ne_true, processes]
    · cases frames with
      | nil => exact .ready rfl ⟨rfl, rfl⟩
      | cons first frames => exact .ready rfl ⟨rfl, rfl⟩
  drains core accepting := ⟨_, opsCore_drains core.ready⟩
  stuck core accepting := absurd accepting.1 Bool.false_ne_true
  pollsStuck core absurdity := absurdity.elim

/-! ## All media elements -/

/-- A media core as it is made, with the frames that it accepts, and whether it
has its session from the start or needs none. -/
inductive Made (errors : AvErrors A) (session : SessionOps D V A) (notInitialized : A)
    (accepts : MediaFrame -> Prop) (Open : D -> Prop) :
    (C : Type) -> MediaCore C -> (MediaFrame -> Prop) -> Bool -> C -> Prop where
  | decode (configured : Option (Nat × Nat × Nat))
      (obliging : Obliging errors session (validateOutputGeometry configured) accepts Open) :
      Made errors session notInitialized accepts Open _
        (decodeCore errors session notInitialized configured) accepts false (.new, none)
  | encode (obliging : Obliging errors session (fun _ => .ok ()) accepts Open) :
      Made errors session notInitialized accepts Open _
        (encodeCore errors session notInitialized) accepts false (.new, none)
  | transcode (obliging : Obliging errors session (fun _ => .ok ()) accepts Open) :
      Made errors session notInitialized accepts Open _
        (transcodeCore errors session notInitialized) accepts false (.new, none)
  | resize (opened : D) (isOpen : Open opened)
      (obliging : Obliging errors session (fun _ => .ok ()) accepts Open) :
      Made errors session notInitialized accepts Open _
        (resizeCore errors session notInitialized) accepts true (.new, some opened)
  | decodeOps (width height channels : Nat) :
      Made errors session notInitialized accepts Open _ (decodeOps width height channels)
        (Processed (decodeFrame width height channels)) true .new
  | encodeOps :
      Made errors session notInitialized accepts Open _ encodeOps
        (Processed fun frame => .ok (encodeFrame frame)) true .new
  | resizeOps (room : Nat -> Bool) (width height : Nat) :
      Made errors session notInitialized accepts Open _ (resizeOps room width height)
        (Processed (resizeFrame room width height)) true .new
  | osdOps (room : Nat -> Bool) (boxes : List OsdBox) (color : List UInt8) (thickness : Nat) :
      Made errors session notInitialized accepts Open _ (osdOps room boxes color thickness)
        (Processed (osdFrame room boxes color thickness)) true .new

/-- Every media core takes a stream. -/
theorem Made.streaming {C : Type} {core : MediaCore C} {takes : MediaFrame -> Prop}
    {opened : Bool} {start : C}
    (made : Made errors session notInitialized accepts Open C core takes opened start) :
    Exists fun Accepting => Exists fun Stuck =>
      Streaming core takes Accepting Stuck ∧ Accepting opened start := by
  have unopened : Idle (.ok .pending) Open false
      ((.new, none) : AsyncPump MediaFrame V × Option D) :=
    ⟨⟨.new, rfl⟩, Or.inr ⟨rfl, rfl, (rfl : (.ok .pending : Except A (Poll MediaFrame)) = _)⟩⟩
  cases made with
  | decode configured obliging => exact ⟨_, _, session_streaming obliging, unopened⟩
  | encode obliging => exact ⟨_, _, session_streaming obliging, unopened⟩
  | transcode obliging => exact ⟨_, _, session_streaming obliging, unopened⟩
  | resize opened isOpen obliging =>
      exact ⟨_, _, session_streaming obliging, idle_open isOpen .new⟩
  | decodeOps width height channels => exact ⟨_, _, opsCore_streaming _ _, rfl, rfl⟩
  | encodeOps => exact ⟨_, _, opsCore_streaming _ _, rfl, rfl⟩
  | resizeOps room width height => exact ⟨_, _, opsCore_streaming _ _, rfl, rfl⟩
  | osdOps room boxes color thickness => exact ⟨_, _, opsCore_streaming _ _, rfl, rfl⟩

/-- A media element sends all outputs of its core in order, numbered from zero, and
then its end marker, exactly when there is data or a session from the start, and
nothing stops it. -/
theorem element_ends_clean_iff {C Q R : Type} {core : MediaCore C}
    {takes : MediaFrame -> Prop} {opened : Bool} {start : C}
    (made : Made errors session notInitialized accepts Open C core takes opened start)
    {around : Surroundings Q R} {io : ElementIo} (connected : Connected io)
    (delivering : around.Delivering) {answers : List (Option (MediaPacket Q R))}
    (stream : Stream takes answers) :
    (Exists fun fuel => Exists fun final =>
      MediaElement.run core around fuel 0 (MediaElement.new start io) answers = .ended final ∧
        Clean io final ∧
        (final.sent.length <= u64Max + 1 ->
          final.sent.map (fun packet => packet.metadata.sequence) =
            List.range final.sent.length)) <->
      (opened = true ∨ dataPackets answers ≠ []) ∧
        Unhindered core around 0 (MediaElement.new start io) answers := by
  rcases made.streaming with ⟨Accepting, Stuck, streaming, accepting⟩
  have sound : Sound io (MediaElement.new start io : MediaElement C Q R) :=
    new_sound connected start
  rw [← stream.ends_iff connected delivering streaming sound rfl accepting]
  constructor
  · rintro ⟨fuel, final, ended, -⟩
    exact ⟨fuel, final, ended⟩
  · rintro ⟨fuel, final, ended⟩
    have keeps : (MediaElement.run core around fuel 0 (MediaElement.new start io)
        answers).Keeps io := run_keeps connected delivering sound fuel 0 answers
    rw [ended] at keeps
    refine ⟨fuel, final, ended, keeps, fun fits => ?_⟩
    rw [List.range_eq_range']
    exact sequences_increasing keeps.sent (by omega)

end Sessions

/-- A session that gives back what it accepts, and ends once it is flushed and
empty. -/
def mirror : SessionOps (List MediaFrame × Bool) MediaFrame Unit where
  openSession _ := .ok ([], false)
  checkInvariants _ _ := .ok ()
  convert _ frame := .ok frame
  submit opened frame := (.accepted, (opened.1 ++ [frame], opened.2))
  poll opened :=
    match opened.1 with
    | [] => (.ok (if opened.2 then .endOfStream else .pending), opened)
    | frame :: rest => (.ok (.ready frame), (rest, opened.2))
  flush opened := (.ok (), (opened.1, true))
  reset _ := (.ok (), none)

theorem mirror_finishing (frames : List MediaFrame) :
    Finishing Session.plainErrors mirror (fun _ => .ok ()) (frames, true) := by
  induction frames with
  | nil => exact .ended rfl
  | cons frame frames ih => exact .ready rfl rfl ih

theorem mirror_obliging : Obliging Session.plainErrors mirror (fun _ => .ok ()) (fun _ => True)
    fun opened => opened.2 = false where
  opens _ _ := ⟨_, rfl, rfl⟩
  invariants _ _ _ _ := rfl
  takes _ _ isOpen _ := ⟨_, rfl, .accepted rfl isOpen⟩
  polls opened isOpen := by
    rcases opened with ⟨frames, flushed⟩
    cases isOpen
    cases frames with
    | nil => exact ⟨rfl, Or.inr rfl⟩
    | cons frame frames => exact ⟨rfl, Or.inl ⟨frame, rfl, rfl⟩⟩
  flushes opened _ := .flushed rfl (mirror_finishing opened.1)

def mirrorCore : MediaCore (AsyncPump MediaFrame MediaFrame × Option (List MediaFrame × Bool)) :=
  encodeCore Session.plainErrors mirror ()

def mirrorElement : MediaElement
    (AsyncPump MediaFrame MediaFrame × Option (List MediaFrame × Bool)) Nat Unit :=
  .new (.new, none) (.built "encode" ["in"] ["out"] 1 4)

def calm : Surroundings Nat Unit := ⟨fun _ => .delivered, fun _ => false, 1000⟩

def smallTensor : StoredTensor Nat where
  desc := { TensorDesc.new ⟨[2, 2]⟩ u8 .auto .cpu with
    strides := none, name := none, quant := .none }
  buffer := .ofHost .cpu ⟨4, 1⟩ [1, 2, 3, 4] rfl
  sized := by decide
  onDevice := rfl

theorem built_connected : Connected (.built "encode" ["in"] ["out"] 1 4) :=
  ⟨List.mem_cons_self, List.mem_cons_self, rfl, rfl⟩

theorem mirror_ends_clean :
    (false = true ∨
      dataPackets [some (Packet.tensor smallTensor : MediaPacket Nat Unit), some .eos] ≠ []) ∧
      Unhindered mirrorCore calm 0 mirrorElement
        [some (Packet.tensor smallTensor), some .eos] :=
  (element_ends_clean_iff (.encode mirror_obliging) built_connected (fun _ => rfl)
    (.data rfl rfl trivial (.eos rfl))).mp
      ⟨3, _, rfl, ⟨.cons ⟨_, rfl, rfl⟩ .nil, rfl⟩, fun _ => rfl⟩

/-- The input ends before anything was encoded, and the element fails. -/
theorem mirror_empty_fails :
    Obliging Session.plainErrors mirror (fun _ => .ok ()) (fun _ => True)
      (fun opened => opened.2 = false) ∧
    Stream (fun _ => True) [some (Packet.eos : MediaPacket Nat Unit)] ∧
    (forall fuel, Exists fun element =>
      MediaElement.run mirrorCore calm (fuel + 2) 0 mirrorElement [some .eos] =
        .failed element (.runtime
          "media element \x60encode\x60 did not reach end of stream after input eos")) ∧
    forall fuel final,
      MediaElement.run mirrorCore calm fuel 0 mirrorElement [some .eos] ≠ .ended final := by
  refine ⟨mirror_obliging, .eos rfl, fun _ => ⟨_, rfl⟩, ?_⟩
  intro fuel final ended
  rcases fuel with _ | _ | fuel
  · cases ended
  · cases ended
  · cases ended

end Media
end DyunGu
