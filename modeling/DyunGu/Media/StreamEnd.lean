import DyunGu.Media.ElementRun

namespace DyunGu
namespace Media

open DyunGu.Core
open DyunGu.Graph (ElementIo)

/-!
# Elements on a finite stream

A core that takes a stream of frames is described by what its polls do in each
of its situations: it accepts a frame, it holds one, its input has ended and it
drains, or its input has ended and nothing more comes.  The last one is the end
of a stream that had no frame for a core that was never fed.
-/

variable {C Q R : Type}

/-! ## Runs -/

section Runs

variable {core : MediaCore C} {around : Surroundings Q R} {io : ElementIo}
  {element : MediaElement C Q R} {moment : Nat} {answers : List (Option (MediaPacket Q R))}

theorem run_going {later : MediaElement C Q R} {rest : List (Option (MediaPacket Q R))}
    (going : MediaElement.turn core around moment element answers = .going later rest)
    (fuel : Nat) :
    MediaElement.run core around (fuel + 1) moment element answers =
      MediaElement.run core around fuel (moment + 1) later rest := by
  rw [MediaElement.run, going]

theorem run_failed {after : MediaElement C Q R} {error : Graph.Error}
    (failed : MediaElement.turn core around moment element answers = .failed after error)
    (fuel : Nat) :
    MediaElement.run core around (fuel + 1) moment element answers = .failed after error := by
  rw [MediaElement.run, failed]

theorem turn_through {ready : MediaElement C Q R} {progress : Bool}
    (emitted : MediaElement.emitReady core around maxPumpStepsPerIteration element false =
      .through ready progress) :
    MediaElement.turn core around moment element answers =
      MediaElement.acceptInput core around moment ready progress answers := by
  rw [MediaElement.turn, emitted]

theorem acceptInput_open (canAccept : core.canAcceptInput element.core = true)
    (isOpen : element.inputClosed = false) (progress : Bool) :
    MediaElement.acceptInput core around moment element progress answers =
      match element.receive core (MediaElement.pipeAnswer answers) moment with
      | (.error error, after) => .failed after error
      | (.ok received, after) => MediaElement.finishTurn core around moment after
          (progress || received) answers.tail := by
  rw [MediaElement.acceptInput, canAccept, isOpen]
  rfl

theorem acceptInput_waiting
    (waiting : core.canAcceptInput element.core = false ∨ element.inputClosed = true)
    (progress : Bool) :
    MediaElement.acceptInput core around moment element progress answers =
      MediaElement.finishTurn core around moment element progress answers := by
  have closed : (core.canAcceptInput element.core && !element.inputClosed) = false := by
    rcases waiting with full | isClosed
    · rw [full, Bool.false_and]
    · rw [isClosed, Bool.not_true, Bool.and_false]
  rw [MediaElement.acceptInput, closed, if_neg Bool.false_ne_true]

/-- A run goes on where a shorter one got. -/
theorem run_add (count more : Nat) :
    MediaElement.run core around (count + more) moment element answers =
      match MediaElement.run core around count moment element answers with
      | .going later rest => MediaElement.run core around more (moment + count) later rest
      | stopped => stopped := by
  induction count generalizing moment element answers with
  | zero =>
      rw [Nat.zero_add]
      rfl
  | succ count ih =>
      rw [Nat.succ_add_eq_add_succ, Nat.add_succ, MediaElement.run, MediaElement.run]
      cases MediaElement.turn core around moment element answers with
      | going later rest =>
          dsimp only
          rw [ih, Nat.add_right_comm, Nat.add_assoc moment count 1]
      | ended after => rfl
      | failed after error => rfl

variable (core around) in
/-- The element ends without an error. -/
def Ends (moment : Nat) (element : MediaElement C Q R)
    (answers : List (Option (MediaPacket Q R))) : Prop :=
  Exists fun fuel => Exists fun final =>
    MediaElement.run core around fuel moment element answers = .ended final

theorem Ends.of_turn {later : MediaElement C Q R} {rest : List (Option (MediaPacket Q R))}
    (going : MediaElement.turn core around moment element answers = .going later rest)
    (ends : Ends core around (moment + 1) later rest) :
    Ends core around moment element answers := by
  rcases ends with ⟨fuel, final, ended⟩
  exact ⟨fuel + 1, final, (run_going going fuel).trans ended⟩

theorem Ends.next (ends : Ends core around moment element answers)
    {later : MediaElement C Q R} {rest : List (Option (MediaPacket Q R))}
    (going : MediaElement.turn core around moment element answers = .going later rest) :
    Ends core around (moment + 1) later rest := by
  rcases ends with ⟨_ | fuel, final, ended⟩
  · cases ended
  · exact ⟨fuel, final, (run_going going fuel).symm.trans ended⟩

theorem Ends.not_failed (ends : Ends core around moment element answers)
    (after : MediaElement C Q R) (error : Graph.Error) :
    MediaElement.turn core around moment element answers ≠ .failed after error := by
  intro failed
  rcases ends with ⟨_ | fuel, final, ended⟩
  · cases ended
  · rw [run_failed failed] at ended
    cases ended

/-- An element that ends is going until it has ended. -/
theorem run_of_ended {fuel : Nat} {final : MediaElement C Q R}
    (ended : MediaElement.run core around fuel moment element answers = .ended final)
    (count : Nat) :
    (Exists fun later => Exists fun rest =>
      MediaElement.run core around count moment element answers = .going later rest) ∨
    MediaElement.run core around count moment element answers = .ended final := by
  rcases Nat.le_total count fuel with before | after
  · rcases Nat.exists_eq_add_of_le before with ⟨more, isFuel⟩
    rw [isFuel, run_add] at ended
    cases reached : MediaElement.run core around count moment element answers with
    | going later rest => exact Or.inl ⟨later, rest, rfl⟩
    | ended other =>
        rw [reached] at ended
        exact Or.inr ended
    | failed other error =>
        rw [reached] at ended
        cases ended
  · rcases Nat.exists_eq_add_of_le after with ⟨more, isCount⟩
    rw [isCount, run_add, ended]
    exact Or.inr rfl

/-! ## What can stop an element -/

variable (core around) in
/-- The packet that comes can be started, and the time to drain is not over. -/
structure Fits (moment : Nat) (element : MediaElement C Q R)
    (answers : List (Option (MediaPacket Q R))) : Prop where
  room : forall ready progress packet,
    MediaElement.emitReady core around maxPumpStepsPerIteration element false =
      .through ready progress ->
    core.canAcceptInput ready.core = true -> ready.inputClosed = false ->
    answers.head? = some (some packet) -> packet.isEos = false ->
      ready.io.packetStarts.length < ready.io.maxPacketStarts
  inTime : forall ready,
    MediaElement.emitReady core around maxPumpStepsPerIteration element false =
      .through ready false ->
    ready.inputClosed = true -> core.isFlushing ready.core = true ->
      around.expired moment = false

variable (core around) in
/-- Nothing stops the element: all it was handed can be sent, and what it needs
it has at every turn. -/
structure Unhindered (moment : Nat) (element : MediaElement C Q R)
    (answers : List (Option (MediaPacket Q R))) : Prop where
  packs : forall count frame,
    frame ∈ (MediaElement.run core around count moment element answers).element.polled ->
      Packable Q R frame
  fits : forall count later rest,
    MediaElement.run core around count moment element answers = .going later rest ->
      Fits core around (moment + count) later rest

theorem Unhindered.next (unhindered : Unhindered core around moment element answers)
    {later : MediaElement C Q R} {rest : List (Option (MediaPacket Q R))}
    (going : MediaElement.turn core around moment element answers = .going later rest) :
    Unhindered core around (moment + 1) later rest where
  packs count := by
    rw [← run_going going]
    exact unhindered.packs (count + 1)
  fits count := by
    rw [← run_going going, Nat.add_assoc, Nat.add_comm 1]
    exact unhindered.fits (count + 1)

theorem Unhindered.now (unhindered : Unhindered core around moment element answers) :
    Fits core around moment element answers := unhindered.fits 0 element answers rfl

/-- A turn that does not fail has what it needs. -/
theorem fits_of_turn (connected : Connected io) (delivering : around.Delivering)
    (sound : Sound io element)
    (works : forall after error,
      MediaElement.turn core around moment element answers ≠ .failed after error) :
    Fits core around moment element answers where
  room ready progress packet emitted canAccept isOpen comes isData := by
    by_contra full
    have keeps : (MediaElement.emitReady core around maxPumpStepsPerIteration element
        false).Keeps io element.inputClosed := emitReady_keeps connected delivering sound _ false
    rw [emitted] at keeps
    rw [turn_through emitted, acceptInput_open canAccept isOpen] at works
    cases answers with
    | nil => cases comes
    | cons answer rest =>
        cases comes
        rcases receive_data core connected keeps.1 isData moment with
          ⟨_, _, _, -, -, -, room, -⟩ | ⟨error, after, failed, -⟩
        · exact full room
        · rw [MediaElement.pipeAnswer, failed] at works
          exact works after error rfl
  inTime ready emitted isClosed flushing := by
    rw [← Bool.not_eq_true]
    intro late
    rw [turn_through emitted, acceptInput_waiting (Or.inr isClosed)] at works
    have both : (core.isFlushing ready.core && around.expired moment) = true :=
      Bool.and_eq_true_iff.mpr ⟨flushing, late⟩
    unfold MediaElement.finishTurn at works
    rw [if_neg Bool.false_ne_true, if_pos both] at works
    exact works _ _ rfl

/-- Of an element that ends, nothing stopped it. -/
theorem Ends.unhindered (connected : Connected io) (delivering : around.Delivering)
    (sound : Sound io element) (ends : Ends core around moment element answers) :
    Unhindered core around moment element answers := by
  rcases ends with ⟨fuel, final, ended⟩
  constructor
  · intro count frame member
    have keeps : (MediaElement.run core around count moment element answers).Keeps io :=
      run_keeps connected delivering sound count moment answers
    rcases run_of_ended ended count with ⟨later, rest, going⟩ | atEnd
    · rw [going] at keeps member
      exact packable_of_sent keeps.sent frame member
    · rw [atEnd] at keeps member
      exact packable_of_sent keeps.sent frame member
  · intro count later rest going
    have keeps : (MediaElement.run core around count moment element answers).Keeps io :=
      run_keeps connected delivering sound count moment answers
    rw [going] at keeps
    apply fits_of_turn connected delivering keeps
    intro after error failed
    have next : MediaElement.run core around (count + 1) moment element answers =
        .failed after error := by
      rw [run_add, going]
      exact run_failed failed 0
    rcases run_of_ended ended (count + 1) with ⟨_, _, going⟩ | atEnd
    · rw [next] at going
      cases going
    · rw [next] at atEnd
      cases atEnd

end Runs

/-! ## What a core does -/

/-- So many polls after the input has ended, the core ends. -/
inductive Drains (core : MediaCore C) : Nat -> C -> Prop where
  | ended {count : Nat} {state next : C} (poll : core.poll state = (.ok .endOfStream, next)) :
      Drains core count state
  | ready {count : Nat} {state next : C} {frame : MediaFrame}
      (poll : core.poll state = (.ok (.ready frame), next)) (rest : Drains core count next) :
      Drains core (count + 1) state
  | pending {count : Nat} {state next : C} (poll : core.poll state = (.ok .pending, next))
      (inFlight : core.hasInFlight next = true) (rest : Drains core count next) :
      Drains core (count + 1) state

/-- The core has a frame and comes to accept the next. -/
inductive Taking (core : MediaCore C) (Accepting : C -> Prop) : C -> Prop where
  | ready {state next : C} {frame : MediaFrame}
      (poll : core.poll state = (.ok (.ready frame), next)) (accepting : Accepting next) :
      Taking core Accepting state
  | pending {state next : C} (poll : core.poll state = (.ok .pending, next))
      (accepting : Accepting next) : Taking core Accepting state
  | again {state next : C} (poll : core.poll state = (.ok .pending, next))
      (full : core.canAcceptInput next = false) (quiet : core.isFlushing next = false)
      (rest : Taking core Accepting next) : Taking core Accepting state

/-- A core that takes frames.  Whether it was fed decides how it ends. -/
structure Streaming (core : MediaCore C) (accepts : MediaFrame -> Prop)
    (Accepting : Bool -> C -> Prop) (Stuck : C -> Prop) : Prop where
  takesInput : forall fed state, Accepting fed state ->
    core.canAcceptInput state = true ∧ core.isFlushing state = false
  polls : forall fed state, Accepting fed state -> Exists fun next => Accepting fed next ∧
    ((Exists fun frame => core.poll state = (.ok (.ready frame), next)) ∨
      core.poll state = (.ok .pending, next))
  submits : forall fed state frame, Accepting fed state -> accepts frame ->
    Exists fun next => core.submit state frame = (.ok (), next) ∧
      Taking core (Accepting true) next
  drains : forall state, Accepting true state ->
    Exists fun count => Drains core count (core.submitEndOfStream state)
  stuck : forall state, Accepting false state -> Stuck (core.submitEndOfStream state)
  pollsStuck : forall state, Stuck state -> Exists fun next =>
    core.poll state = (.ok .pending, next) ∧ Stuck next ∧ core.hasInFlight next = false

/-- An input stream, with the moments at which nothing came: data that the core
accepts and then an end marker. -/
inductive Stream (accepts : MediaFrame -> Prop) : List (Option (MediaPacket Q R)) -> Prop where
  | nothing {rest : List (Option (MediaPacket Q R))} (stream : Stream accepts rest) :
      Stream accepts (none :: rest)
  | data {packet : MediaPacket Q R} {frame : MediaFrame}
      {rest : List (Option (MediaPacket Q R))} (isData : packet.isEos = false)
      (converted : graphPacketToMediaFrame packet = .ok frame) (accepted : accepts frame)
      (stream : Stream accepts rest) : Stream accepts (some packet :: rest)
  | eos {packet : MediaPacket Q R} {rest : List (Option (MediaPacket Q R))}
      (isEos : packet.isEos = true) : Stream accepts (some packet :: rest)

/-- The packets before the end marker. -/
def dataPackets : List (Option (MediaPacket Q R)) -> List (MediaPacket Q R)
  | [] => []
  | none :: rest => dataPackets rest
  | some packet :: rest => if packet.isEos then [] else packet :: dataPackets rest

/-! ## The ends of a stream -/

section Streams

variable {core : MediaCore C} {around : Surroundings Q R} {io : ElementIo}
  {element : MediaElement C Q R} {moment : Nat} {answers : List (Option (MediaPacket Q R))}
  {accepts : MediaFrame -> Prop} {Accepting : Bool -> C -> Prop} {Stuck : C -> Prop} {fed : Bool}

theorem emitReady_pending {next : C} (poll : core.poll element.core = (.ok .pending, next))
    (count : Nat) (progress : Bool) :
    MediaElement.emitReady core around (count + 1) element progress =
      .through { element with core := next } progress := by
  rw [MediaElement.emitReady, MediaElement.tryEmitOne, poll]

/-- A frame is sent and the element goes on, or the frame was blocked. -/
theorem emitReady_ready (connected : Connected io) (delivering : around.Delivering)
    (sound : Sound io element) {frame : MediaFrame} {next : C}
    (poll : core.poll element.core = (.ok (.ready frame), next)) (count : Nat)
    (progress : Bool) :
    (Exists fun after => Sound io after ∧ after.core = next ∧
      after.inputClosed = element.inputClosed ∧
      MediaElement.emitReady core around (count + 1) element progress =
        MediaElement.emitReady core around count after true) ∨
    Exists fun after => Exists fun error =>
      MediaElement.emitReady core around (count + 1) element progress = .failed after error ∧
        Blocked frame after := by
  rw [MediaElement.emitReady, tryEmitOne_ready poll]
  rcases sendFrame_cases connected delivering (sound.withCore next) frame with
    ⟨after, emitted, afterSound, isCore, isClosed⟩ | ⟨after, error, failed, blocked⟩
  · rw [emitted]
    exact Or.inl ⟨after, afterSound, isCore, isClosed, rfl⟩
  · rw [failed]
    exact Or.inr ⟨after, error, rfl, blocked⟩

/-- Nothing is blocked in an element that is not hindered. -/
theorem Unhindered.unblocked (unhindered : Unhindered core around moment element answers)
    {after : MediaElement C Q R} {error : Graph.Error} {frame : MediaFrame}
    (failed : MediaElement.emitReady core around maxPumpStepsPerIteration element false =
      .failed after error) : ¬Blocked frame after := by
  rintro ⟨member, blocked⟩
  have fails : MediaElement.turn core around moment element answers = .failed after error := by
    rw [MediaElement.turn, failed]
  have packs := unhindered.packs 1 frame
  rw [run_failed fails] at packs
  exact blocked (packs member)

/-- What was sent stays progress. -/
theorem emitReady_progress {count : Nat} {after : MediaElement C Q R} {progress : Bool}
    (through : MediaElement.emitReady core around count element true = .through after progress) :
    progress = true := by
  induction count generalizing element with
  | zero =>
      cases through
      rfl
  | succ count ih =>
      rw [MediaElement.emitReady] at through
      split at through
      · cases through
      · exact ih through
      · cases through
        rfl
      · split at through
        · cases through
        · cases through

/-- A core that accepts does so after its frames are sent. -/
theorem emitReady_accepting (connected : Connected io) (delivering : around.Delivering)
    (streaming : Streaming core accepts Accepting Stuck) (sound : Sound io element)
    (accepting : Accepting fed element.core) (count : Nat) (progress : Bool) :
    (Exists fun after => Exists fun made =>
      MediaElement.emitReady core around count element progress = .through after made ∧
      Sound io after ∧ Accepting fed after.core ∧ after.inputClosed = element.inputClosed) ∨
    Exists fun after => Exists fun error => Exists fun frame =>
      MediaElement.emitReady core around count element progress = .failed after error ∧
        Blocked frame after := by
  induction count generalizing element progress with
  | zero => exact Or.inl ⟨element, progress, rfl, sound, accepting, rfl⟩
  | succ count ih =>
      rcases streaming.polls fed _ accepting with ⟨next, nextAccepting, ⟨frame, poll⟩ | poll⟩
      · rcases emitReady_ready connected delivering sound poll count progress with
          ⟨after, afterSound, isCore, isClosed, emitted⟩ | ⟨after, error, failed, blocked⟩
        · rw [emitted, ← isClosed]
          exact ih afterSound (isCore ▸ nextAccepting) true
        · exact Or.inr ⟨after, error, frame, failed, blocked⟩
      · rw [emitReady_pending poll]
        exact Or.inl ⟨_, _, rfl, sound.withCore next, nextAccepting, rfl⟩

/-- A core that drains ends, or has fewer polls to go. -/
theorem emitReady_drains (connected : Connected io) (delivering : around.Delivering)
    (sound : Sound io element) {polls : Nat} (drains : Drains core polls element.core)
    (count : Nat) (progress : Bool) :
    (Exists fun after =>
      MediaElement.emitReady core around count element progress = .ended after) ∨
    (Exists fun after => Exists fun made => Exists fun fewer =>
      MediaElement.emitReady core around count element progress = .through after made ∧
      Sound io after ∧ after.inputClosed = element.inputClosed ∧
      Drains core fewer after.core ∧ fewer <= polls ∧
      (count ≠ 0 -> fewer < polls ∧ (made = true ∨ core.hasInFlight after.core = true))) ∨
    Exists fun after => Exists fun error => Exists fun frame =>
      MediaElement.emitReady core around count element progress = .failed after error ∧
        Blocked frame after := by
  induction count generalizing element progress polls with
  | zero =>
      exact Or.inr (Or.inl ⟨element, progress, polls, rfl, sound, rfl, drains, Nat.le_refl _,
        fun absurdity => absurd rfl absurdity⟩)
  | succ count ih =>
      cases drains with
      | @ended _ _ next poll =>
          left
          rcases broadcastEos_sound delivering (sound.withCore next) with ⟨after, broadcast, -⟩
          have broadcast : broadcastEos around.ending element.io = (after, .ok ()) := broadcast
          refine ⟨{ element with core := next, io := after }, ?_⟩
          rw [MediaElement.emitReady, MediaElement.tryEmitOne, poll]
          dsimp only
          rw [broadcast]
      | @ready fewer _ next frame poll rest =>
          rcases emitReady_ready connected delivering sound poll count progress with
            ⟨after, afterSound, isCore, isClosed, emitted⟩ | ⟨after, error, failed, blocked⟩
          · rw [emitted, ← isClosed]
            rcases ih afterSound (isCore ▸ rest) true with
              ended | ⟨last, made, left, through, lastSound, sameClosed, drains, within, -⟩ | failed
            · exact Or.inl ended
            · exact Or.inr (Or.inl ⟨last, made, left, through, lastSound, sameClosed, drains,
                Nat.le_succ_of_le within,
                fun _ => ⟨Nat.lt_succ_of_le within, Or.inl (emitReady_progress through)⟩⟩)
            · exact Or.inr (Or.inr failed)
          · exact Or.inr (Or.inr ⟨after, error, frame, failed, blocked⟩)
      | @pending fewer _ next poll inFlight rest =>
          right
          left
          rw [emitReady_pending poll]
          exact ⟨_, progress, fewer, rfl, sound.withCore next, rfl, rest, Nat.le_succ _,
            fun _ => ⟨Nat.lt_succ_self _, Or.inr inFlight⟩⟩

/-- A core that drains comes to its end. -/
theorem drains_ends (connected : Connected io) (delivering : around.Delivering)
    (sound : Sound io element) (isClosed : element.inputClosed = true) {polls : Nat}
    (drains : Drains core polls element.core)
    (unhindered : Unhindered core around moment element answers) :
    Ends core around moment element answers := by
  induction polls using Nat.strong_induction_on generalizing element moment with
  | _ polls ih =>
      rcases emitReady_drains connected delivering sound drains maxPumpStepsPerIteration false with
        ⟨after, ended⟩ | ⟨after, made, fewer, through, afterSound, sameClosed, rest, -, moves⟩ |
        ⟨after, error, frame, failed, blocked⟩
      · refine ⟨1, after, ?_⟩
        rw [MediaElement.run, MediaElement.turn, ended]
      · rcases moves (Nat.succ_ne_zero 63) with ⟨less, lively⟩
        have afterClosed : after.inputClosed = true := sameClosed.trans isClosed
        have goes : MediaElement.turn core around moment element answers =
            .going after answers := by
          rw [turn_through through, acceptInput_waiting (Or.inr afterClosed)]
          rcases finishTurn_cases moment after made answers with
            going | ⟨-, idle, ⟨flushing, late⟩ | ⟨quiet, -⟩⟩
          · exact going
          · rw [idle] at through
            rw [unhindered.now.inTime after through afterClosed flushing] at late
            cases late
          · rw [idle, quiet] at lively
            rcases lively with absurdity | absurdity
            · cases absurdity
            · cases absurdity
        exact .of_turn goes (ih fewer less afterSound afterClosed rest (unhindered.next goes))
      · exact absurd blocked (unhindered.unblocked failed)

/-- The packet that comes can be started. -/
def Room (element : MediaElement C Q R) (answers : List (Option (MediaPacket Q R))) : Prop :=
  forall packet, answers.head? = some (some packet) -> packet.isEos = false ->
    element.io.packetStarts.length < element.io.maxPacketStarts

variable (core around io Accepting) in
/-- From the second half of a turn on, the stream brings the element to its end. -/
def Settles (answers : List (Option (MediaPacket Q R))) : Prop :=
  forall (moment : Nat) (element : MediaElement C Q R) (fed progress : Bool),
    Sound io element -> element.inputClosed = false -> Accepting fed element.core ->
    (fed = true ∨ dataPackets answers ≠ []) -> Room element answers ->
    (forall later rest,
      MediaElement.acceptInput core around moment element progress answers =
        .going later rest -> Unhindered core around (moment + 1) later rest) ->
    Exists fun later => Exists fun rest =>
      MediaElement.acceptInput core around moment element progress answers =
        .going later rest ∧ Ends core around (moment + 1) later rest

theorem Settles.ends (settles : Settles core around io Accepting answers)
    (streaming : Streaming core accepts Accepting Stuck)
    (unhindered : Unhindered core around moment element answers) {ready : MediaElement C Q R}
    {made : Bool} (through : MediaElement.emitReady core around maxPumpStepsPerIteration element
      false = .through ready made) (sound : Sound io ready) (isOpen : ready.inputClosed = false)
    (accepting : Accepting fed ready.core) (feeds : fed = true ∨ dataPackets answers ≠ []) :
    Ends core around moment element answers := by
  have turns : MediaElement.turn core around moment element answers =
      MediaElement.acceptInput core around moment ready made answers := turn_through through
  have room : Room ready answers := fun packet =>
    unhindered.now.room ready made packet through (streaming.takesInput _ _ accepting).1 isOpen
  rcases settles moment ready fed made sound isOpen accepting feeds room
      (fun later rest going => unhindered.next (turns.trans going)) with
    ⟨later, rest, going, ends⟩
  exact .of_turn (turns.trans going) ends

/-- An element whose core accepts. -/
theorem accepting_ends (connected : Connected io) (delivering : around.Delivering)
    (streaming : Streaming core accepts Accepting Stuck)
    (settles : Settles core around io Accepting answers) (sound : Sound io element)
    (isOpen : element.inputClosed = false) (accepting : Accepting fed element.core)
    (feeds : fed = true ∨ dataPackets answers ≠ [])
    (unhindered : Unhindered core around moment element answers) :
    Ends core around moment element answers := by
  rcases emitReady_accepting connected delivering streaming sound accepting
      maxPumpStepsPerIteration false with
    ⟨ready, made, through, readySound, readyAccepting, sameClosed⟩ |
    ⟨after, error, frame, failed, blocked⟩
  · exact settles.ends streaming unhindered through readySound (sameClosed.trans isOpen)
      readyAccepting feeds
  · exact absurd blocked (unhindered.unblocked failed)

/-- A turn in which something was received goes on. -/
theorem finishTurn_received (element : MediaElement C Q R) (progress : Bool) :
    MediaElement.finishTurn core around moment element (progress || true) answers =
      .going element answers := by
  rw [MediaElement.finishTurn, Bool.or_true, if_pos rfl]

/-- An open element that receives a packet goes on with what follows. -/
theorem acceptInput_received (around : Surroundings Q R) {packet : MediaPacket Q R}
    (canAccept : core.canAcceptInput element.core = true) (isOpen : element.inputClosed = false)
    {after : MediaElement C Q R}
    (received : element.receive core (.ok packet) moment = (.ok true, after)) (progress : Bool)
    (rest : List (Option (MediaPacket Q R))) :
    MediaElement.acceptInput core around moment element progress (some packet :: rest) =
      .going after rest := by
  rw [acceptInput_open canAccept isOpen, MediaElement.pipeAnswer, received]
  exact finishTurn_received after progress

/-- A turn in which nothing was received goes on too, while the input is open. -/
theorem finishTurn_open (element : MediaElement C Q R)
    (quiet : core.isFlushing element.core = false) (isOpen : element.inputClosed = false)
    (progress : Bool) :
    MediaElement.finishTurn core around moment element progress answers =
      .going element answers := by
  rcases finishTurn_cases moment element progress answers with
    going | ⟨-, -, ⟨flushing, -⟩ | ⟨-, isClosed⟩⟩
  · exact going
  · rw [quiet] at flushing
    cases flushing
  · rw [isOpen] at isClosed
    cases isClosed

/-- An element whose core has a frame. -/
theorem taking_ends (connected : Connected io) (delivering : around.Delivering)
    (streaming : Streaming core accepts Accepting Stuck)
    (settles : Settles core around io Accepting answers) (sound : Sound io element)
    (isOpen : element.inputClosed = false) (taking : Taking core (Accepting true) element.core)
    (unhindered : Unhindered core around moment element answers) :
    Ends core around moment element answers := by
  generalize isState : element.core = state at taking
  induction taking generalizing element moment with
  | @ready state next frame poll accepting =>
      rcases emitReady_ready connected delivering sound (isState ▸ poll) 63 false with
        ⟨after, afterSound, isCore, sameClosed, emitted⟩ | ⟨after, error, failed, blocked⟩
      · rcases emitReady_accepting connected delivering streaming afterSound
            (isCore ▸ accepting) 63 true with
          ⟨last, made, through, lastSound, lastAccepting, stillClosed⟩ |
          ⟨last, error, frame, failed, blocked⟩
        · exact settles.ends streaming unhindered (emitted.trans through) lastSound
            ((stillClosed.trans sameClosed).trans isOpen) lastAccepting (Or.inl rfl)
        · exact absurd blocked (unhindered.unblocked (emitted.trans failed))
      · exact absurd blocked (unhindered.unblocked failed)
  | @pending state next poll accepting =>
      exact settles.ends streaming unhindered (emitReady_pending (isState ▸ poll) 63 false)
        (sound.withCore next) isOpen accepting (Or.inl rfl)
  | @again state next poll full quiet rest ih =>
      have goes : MediaElement.turn core around moment element answers =
          .going { element with core := next } answers := by
        rw [turn_through (emitReady_pending (isState ▸ poll) 63 false),
          acceptInput_waiting (Or.inl full)]
        exact finishTurn_open { element with core := next } quiet isOpen false
      exact .of_turn goes (ih (sound.withCore next) isOpen (unhindered.next goes) rfl)

/-- Every stream brings an element to its end whose core is fed at last. -/
theorem Stream.settles (connected : Connected io) (delivering : around.Delivering)
    (streaming : Streaming core accepts Accepting Stuck) (stream : Stream accepts answers) :
    Settles core around io Accepting answers := by
  induction stream with
  | @nothing rest stream ih =>
      intro moment element fed progress sound isOpen accepting feeds room unhindered
      have takes := streaming.takesInput _ _ accepting
      have goes : MediaElement.acceptInput core around moment element progress (none :: rest) =
          .going element rest := by
        rw [acceptInput_open takes.1 isOpen, MediaElement.pipeAnswer,
          receive_nothing connected sound isOpen]
        exact finishTurn_open element takes.2 isOpen _
      exact ⟨element, rest, goes, accepting_ends connected delivering streaming ih sound isOpen
        accepting feeds (unhindered _ _ goes)⟩
  | @data packet frame rest isData converted accepted stream ih =>
      intro moment element fed progress sound isOpen accepting feeds room unhindered
      rcases streaming.submits _ _ _ accepting accepted with ⟨next, submitted, taking⟩
      rcases receive_data core connected sound isData moment with
        ⟨other, state, after, same, submits, received, -, afterSound, isCore, sameClosed⟩ |
        ⟨error, after, -, full | ⟨_, unconverted⟩ | ⟨_, _, _, same, refused⟩⟩
      · rw [converted] at same
        cases same
        rw [submitted] at submits
        cases submits
        have goes := acceptInput_received around
          (streaming.takesInput _ _ accepting).1 isOpen received progress rest
        exact ⟨after, rest, goes, taking_ends connected delivering streaming ih afterSound
          (sameClosed.trans isOpen) (isCore ▸ taking) (unhindered _ _ goes)⟩
      · exact absurd (room packet rfl isData) (Nat.not_lt_of_le full)
      · rw [converted] at unconverted
        cases unconverted
      · rw [converted] at same
        cases same
        rw [submitted] at refused
        cases refused
  | @eos packet rest isEos =>
      intro moment element fed progress sound isOpen accepting feeds room unhindered
      rcases receive_eos core connected sound isEos moment with
        ⟨after, received, afterSound, isCore, isClosed⟩
      have isFed : fed = true := by
        rcases feeds with isFed | some
        · exact isFed
        · rw [dataPackets, if_pos isEos] at some
          exact absurd rfl some
      have goes := acceptInput_received around
        (streaming.takesInput _ _ accepting).1 isOpen received progress rest
      rcases streaming.drains _ (isFed ▸ accepting) with ⟨polls, drains⟩
      exact ⟨after, rest, goes, drains_ends connected delivering afterSound isClosed
        (isCore ▸ drains) (unhindered _ _ goes)⟩

/-- An element that has nothing and waits for nothing fails. -/
theorem finishTurn_nothing (element : MediaElement C Q R)
    (nothing : core.hasInFlight element.core = false) (isClosed : element.inputClosed = true) :
    Exists fun error =>
      MediaElement.finishTurn core around moment element false answers =
        .failed element error := by
  unfold MediaElement.finishTurn
  rw [if_neg Bool.false_ne_true, nothing, isClosed]
  split
  · exact ⟨_, rfl⟩
  · exact ⟨_, rfl⟩

/-- A core that was never fed has nothing to give and nothing to wait for. -/
theorem stuck_not_ends (streaming : Streaming core accepts Accepting Stuck)
    (isClosed : element.inputClosed = true) (stuck : Stuck element.core) :
    ¬Ends core around moment element answers := by
  intro ends
  rcases streaming.pollsStuck _ stuck with ⟨next, poll, -, nothing⟩
  have stillClosed : ({ element with core := next } : MediaElement C Q R).inputClosed = true :=
    isClosed
  have fails : Exists fun error => MediaElement.turn core around moment element answers =
      .failed { element with core := next } error := by
    rw [turn_through (emitReady_pending poll 63 false), acceptInput_waiting (Or.inr stillClosed)]
    exact finishTurn_nothing _ nothing stillClosed
  rcases fails with ⟨error, failed⟩
  exact ends.not_failed _ error failed

/-- An element whose core accepts comes to receive, if it ends. -/
theorem Ends.receives (connected : Connected io) (delivering : around.Delivering)
    (streaming : Streaming core accepts Accepting Stuck) (sound : Sound io element)
    (isOpen : element.inputClosed = false) (accepting : Accepting fed element.core)
    (ends : Ends core around moment element answers) :
    Exists fun ready => Exists fun made => Sound io ready ∧ ready.inputClosed = false ∧
      Accepting fed ready.core ∧
      MediaElement.turn core around moment element answers =
        match ready.receive core (MediaElement.pipeAnswer answers) moment with
        | (.error error, after) => .failed after error
        | (.ok received, after) => MediaElement.finishTurn core around moment after
            (made || received) answers.tail := by
  rcases emitReady_accepting connected delivering streaming sound accepting
      maxPumpStepsPerIteration false with
    ⟨ready, made, through, readySound, readyAccepting, sameClosed⟩ |
    ⟨after, error, frame, failed, -⟩
  · have readyOpen : ready.inputClosed = false := sameClosed.trans isOpen
    exact ⟨ready, made, readySound, readyOpen, readyAccepting, (turn_through through).trans
      (acceptInput_open (streaming.takesInput _ _ readyAccepting).1 readyOpen made)⟩
  · refine absurd ?_ (ends.not_failed after error)
    rw [MediaElement.turn, failed]

/-- On a stream without data the element of such a core does not end. -/
theorem Stream.unfed_not_ends (connected : Connected io) (delivering : around.Delivering)
    (streaming : Streaming core accepts Accepting Stuck) (stream : Stream accepts answers)
    (empty : dataPackets answers = []) (sound : Sound io element)
    (isOpen : element.inputClosed = false) (accepting : Accepting false element.core) :
    ¬Ends core around moment element answers := by
  induction stream generalizing element moment with
  | @nothing rest stream ih =>
      intro ends
      rcases ends.receives connected delivering streaming sound isOpen accepting with
        ⟨ready, made, readySound, readyOpen, readyAccepting, turns⟩
      rw [MediaElement.pipeAnswer, receive_nothing connected readySound readyOpen] at turns
      dsimp only at turns
      rw [finishTurn_open ready (streaming.takesInput _ _ readyAccepting).2 readyOpen] at turns
      exact ih empty readySound readyOpen readyAccepting (ends.next turns)
  | @data packet frame rest isData converted accepted stream ih =>
      rw [dataPackets, if_neg (Bool.eq_false_iff.mp isData)] at empty
      cases empty
  | @eos packet rest isEos =>
      intro ends
      rcases ends.receives connected delivering streaming sound isOpen accepting with
        ⟨ready, made, readySound, readyOpen, readyAccepting, turns⟩
      rcases receive_eos core connected readySound isEos moment with
        ⟨after, received, -, isCore, isClosed⟩
      rw [MediaElement.pipeAnswer, received] at turns
      dsimp only at turns
      rw [finishTurn_received] at turns
      exact stuck_not_ends streaming isClosed (isCore ▸ streaming.stuck _ readyAccepting)
        (ends.next turns)

/-- An element ends on a stream exactly when its core is fed at last and nothing
stops it. -/
theorem Stream.ends_iff (connected : Connected io) (delivering : around.Delivering)
    (streaming : Streaming core accepts Accepting Stuck) (stream : Stream accepts answers)
    (sound : Sound io element) (isOpen : element.inputClosed = false)
    (accepting : Accepting fed element.core) :
    Ends core around moment element answers <->
      (fed = true ∨ dataPackets answers ≠ []) ∧ Unhindered core around moment element answers := by
  constructor
  · intro ends
    refine ⟨?_, ends.unhindered connected delivering sound⟩
    cases fed with
    | true => exact Or.inl rfl
    | false =>
        right
        intro empty
        exact stream.unfed_not_ends connected delivering streaming empty sound isOpen accepting ends
  · rintro ⟨feeds, unhindered⟩
    exact accepting_ends connected delivering streaming
      (stream.settles connected delivering streaming) sound isOpen accepting feeds unhindered

end Streams
end Media
end DyunGu
