import DyunGu.Stream.Reconnect

namespace DyunGu
namespace Stream

/-!
# The budget of reconnections

The number of attempts that an element may make without transferring a frame is
counted anew for each series of openings, and a failure of an open endpoint
starts a new series.  So the budget is honoured as long as there is no such
failure, or few enough failures of both kinds together.
-/

/-- The round failed in a way that the element tries to mend. -/
def Verdict.lost {Body : Type} : Verdict Body -> Bool
  | .failed error none => error.retryable
  | .rejected none => true
  | _ => false

namespace Loop

variable {Body Input : Type} {loop : Loop Body Input} {running next : Running Body}
  {answer : Answer Input}

/-! ## What is counted -/

/-- In a series of openings, some failed before.  Without a failure of an open
endpoint they are all the failures there are. -/
structure Series (ledger : Ledger) (limit attempt : Nat) : Prop where
  within : attempt <= limit
  first : ledger.begun = false -> ledger = Ledger.empty ∧ attempt = 0
  due : ledger.begun = true -> ledger.failures = ledger.attempts + 1
  only : ledger.losses = 0 -> ledger.failures = attempt
  more : 0 < ledger.losses -> attempt < ledger.failures

/-- How the counts stand in each phase. -/
def Tallied (limit : Nat) (running : Running Body) : Prop :=
  match running.phase with
  | .opening attempt | .backingOff attempt =>
      Series running.ledger limit attempt ∧
        (running.started = false -> running.reconnectAttempt = 0)
  | .streaming =>
      running.ledger.begun = true ∧ running.ledger.failures = running.ledger.attempts ∧
        running.started = true ∧ running.reconnectAttempt = 0
  | .pausing | .returning =>
      running.ledger.begun = true ∧ running.ledger.failures = running.ledger.attempts + 1 ∧
        running.started = true ∧ 0 < running.ledger.losses
  | .finished _ => True

/-- No more attempts than the limit were made, and fewer where one more is
due. -/
def Honoured (limit : Nat) (running : Running Body) : Prop :=
  match running.phase with
  | .streaming | .finished _ => running.ledger.attempts <= limit
  | .opening _ | .backingOff _ | .pausing | .returning => running.ledger.attempts < limit

theorem tallied_start (loop : Loop Body Input) : Tallied loop.retry.maxAttempts loop.start := by
  refine ⟨⟨Nat.zero_le _, fun _ => ⟨rfl, rfl⟩, fun impossible => ?_, fun _ => rfl,
    fun impossible => ?_⟩, fun _ => rfl⟩
  · cases impossible
  · exact absurd impossible (Nat.lt_irrefl 0)

theorem shouldRetry_iff {retry : RetryConfig} (positive : 0 < retry.maxAttempts) {attempt : Nat} :
    retry.shouldRetry attempt = true <-> attempt <= retry.maxAttempts := by
  simp [RetryConfig.shouldRetry]
  omega

/-- An attempt in a series, with the number of failures before it. -/
theorem Series.attempt {ledger : Ledger} {limit attempt : Nat}
    (series : Series ledger limit attempt) :
    ledger.attempt.begun = true ∧ ledger.attempt.attempts = ledger.failures ∧
      ledger.attempt.failures = ledger.failures ∧ ledger.attempt.losses = ledger.losses := by
  unfold Ledger.attempt
  by_cases begun : ledger.begun = true
  · rw [if_pos begun]
    exact ⟨begun, (series.due begun).symm, rfl, rfl⟩
  · rw [if_neg begun]
    have empty := (series.first (Bool.eq_false_iff.mpr begun)).1
    rw [empty]
    exact ⟨rfl, rfl, rfl, rfl⟩

/-- What an attempt comes to: the endpoint is open, the series goes on, or the
element is done. -/
inductive Tried (loop : Loop Body Input) (running : Running Body) (attempt : Nat) :
    Opening -> Running Body -> Prop where
  | opened (next : Running Body) (phase : next.phase = .streaming) (started : next.started = true)
      (ledger : next.ledger = running.ledger)
      (reset : (running.started = false -> running.reconnectAttempt = 0) ->
        next.reconnectAttempt = 0) : Tried loop running attempt .opened next
  | retried (error : Error) (retryable : error.retryable = true)
      (within : attempt + 1 <= loop.retry.maxAttempts) :
      Tried loop running attempt (.failed error)
        { running with phase := .backingOff (attempt + 1), ledger := running.ledger.fail }
  | gaveUp (outcome : Opening) (error : Graph.Error)
      (spent : forall failure, outcome = .failed failure -> failure.retryable = true ->
        loop.retry.maxAttempts < attempt + 1) :
      Tried loop running attempt outcome (finish running (.error error))

theorem openWithRetry_tried (positive : 0 < loop.retry.maxAttempts) (running : Running Body)
    (attempt : Nat) (outcome : Opening) :
    Tried loop running attempt outcome (loop.openWithRetry running attempt outcome) := by
  cases outcome with
  | opened =>
      dsimp only [openWithRetry]
      split
      · rename_i started
        exact .opened _ rfl started rfl fun _ => rfl
      · rename_i notStarted
        exact .opened _ rfl rfl rfl fun zero => zero (Bool.eq_false_iff.mpr notStarted)
  | unusable error =>
      refine .gaveUp _ error fun failure impossible => ?_
      cases impossible
  | failed error =>
      dsimp only [openWithRetry]
      split
      · rename_i both
        rw [Bool.and_eq_true, shouldRetry_iff positive] at both
        exact .retried error both.1 both.2
      · rename_i neither
        refine .gaveUp _ (streamToGraphError error) fun failure same retryable => ?_
        cases same
        rw [Bool.and_eq_true, shouldRetry_iff positive, not_and] at neither
        exact Nat.lt_of_not_le (neither retryable)

/-- What a round comes to, in a phase in which nothing was lost yet: a failure
of an open endpoint is always followed by a reconnection. -/
inductive Rounded (running : Running Body) : Verdict Body -> Running Body -> Prop where
  | again (body : Body) : Rounded running (.again body) { running with body := body }
  | transferred (body : Body) (resets : Bool) :
      Rounded running (.transferred body resets)
        { running with body := body, reconnectAttempt := 0, ledger := running.ledger.transfer }
  | lost (verdict : Verdict Body) (lost : verdict.lost = true) :
      Rounded running verdict
        { running with phase := .pausing, reconnectAttempt := 1, ledger := running.ledger.lose }
  | failed (verdict : Verdict Body) (error : Graph.Error) (kept : verdict.lost = false) :
      Rounded running verdict (finish running (.error error))
  | done (result : Except Graph.Error Unit) :
      Rounded running (.done result) (finish running result)

theorem conclude_rounded (positive : 0 < loop.retry.maxAttempts)
    (zero : running.reconnectAttempt = 0) (verdict : Verdict Body) :
    Rounded running verdict (loop.conclude running verdict) := by
  have allowed : loop.retry.shouldRetry (running.reconnectAttempt + 1) = true := by
    rw [shouldRetry_iff positive, zero]
    exact positive
  have mends (failing : Verdict Body) (lost : failing.lost = true) :
      Rounded running failing (reconnect running none) := by
    unfold reconnect
    rw [zero]
    exact .lost failing lost
  cases verdict with
  | again body => exact .again body
  | transferred body resets =>
      have same : (if resets then 0 else running.reconnectAttempt) = 0 := by
        rw [zero, ite_self]
      dsimp only [conclude]
      rw [same]
      exact .transferred body resets
  | failed error upset =>
      dsimp only [conclude]
      rw [allowed, Bool.and_true]
      split
      · rename_i retryable
        cases upset with
        | none => exact mends _ retryable
        | some trouble => exact .failed _ trouble rfl
      · rename_i final
        refine .failed _ (streamToGraphError error) ?_
        cases upset with
        | none => exact Bool.eq_false_iff.mpr final
        | some trouble => rfl
  | rejected upset =>
      dsimp only [conclude]
      rw [allowed, if_pos rfl]
      cases upset with
      | none => exact mends _ rfl
      | some trouble => exact .failed _ trouble rfl
  | done result => exact .done result

/-! ## Steps -/

inductive Stepped (loop : Loop Body Input) (running : Running Body) :
    Answer Input -> Running Body -> Prop where
  | stopped (error : Graph.Error) : Stepped loop running .stop (finish running (.error error))
  | tried {attempt : Nat} {outcome : Opening} {next : Running Body}
      (phase : running.phase = .opening attempt)
      (tried : Tried loop { running with ledger := running.ledger.attempt } attempt outcome next) :
      Stepped loop running (.connect outcome) next
  | woken {attempt : Nat} (phase : running.phase = .backingOff attempt) :
      Stepped loop running .wake { running with phase := .opening attempt }
  | rested (phase : running.phase = .pausing) :
      Stepped loop running .wake { running with phase := .returning }
  | proceeded (phase : running.phase = .returning) :
      Stepped loop running .proceed { running with phase := .opening 0 }
  | rounded {input : Input} {next : Running Body} (phase : running.phase = .streaming)
      (rounded : Rounded running (loop.round running.body input) next) :
      Stepped loop running (.input input) next

theorem Tallied.opening {limit attempt : Nat} (tallied : Tallied limit running)
    (phase : running.phase = .opening attempt) :
    Series running.ledger limit attempt ∧
      (running.started = false -> running.reconnectAttempt = 0) := by
  unfold Tallied at tallied
  rw [phase] at tallied
  exact tallied

theorem Tallied.streaming {limit : Nat} (tallied : Tallied limit running)
    (phase : running.phase = .streaming) :
    running.ledger.begun = true ∧ running.ledger.failures = running.ledger.attempts ∧
      running.started = true ∧ running.reconnectAttempt = 0 := by
  unfold Tallied at tallied
  rw [phase] at tallied
  exact tallied

theorem step_stepped (positive : 0 < loop.retry.maxAttempts)
    (tallied : Tallied loop.retry.maxAttempts running)
    (stepped : loop.step running answer = some next) : Stepped loop running answer next := by
  cases answer with
  | stop =>
      dsimp only [step] at stepped
      split at stepped <;> cases stepped <;> exact .stopped _
  | connect outcome =>
      dsimp only [step] at stepped
      split at stepped
      · rename_i attempt phase
        cases stepped
        exact .tried phase (openWithRetry_tried positive _ attempt outcome)
      · cases stepped
  | wake =>
      dsimp only [step] at stepped
      split at stepped
      · rename_i attempt phase
        cases stepped
        exact .woken phase
      · rename_i phase
        cases stepped
        exact .rested phase
      · cases stepped
  | proceed =>
      dsimp only [step] at stepped
      split at stepped
      · rename_i phase
        cases stepped
        exact .proceeded phase
      · cases stepped
  | input input =>
      dsimp only [step] at stepped
      split at stepped
      · rename_i phase
        cases stepped
        exact .rounded phase (conclude_rounded positive (tallied.streaming phase).2.2.2 _)
      · cases stepped

theorem tallied_step (positive : 0 < loop.retry.maxAttempts)
    (tallied : Tallied loop.retry.maxAttempts running)
    (stepped : loop.step running answer = some next) : Tallied loop.retry.maxAttempts next := by
  cases step_stepped positive tallied stepped with
  | stopped error => trivial
  | @tried attempt outcome next phase tried =>
      rcases tallied.opening phase with ⟨series, zero⟩
      rcases series.attempt with ⟨begun, attempts, failures, losses⟩
      cases tried with
      | opened next isStreaming started ledger reset =>
          unfold Tallied
          rw [isStreaming, ledger]
          exact ⟨begun, failures.trans attempts.symm, started, reset zero⟩
      | retried error retryable within =>
          refine ⟨⟨within, fun impossible => ?_, fun _ => ?_, fun none => ?_, fun some => ?_⟩, zero⟩
          · change running.ledger.attempt.begun = false at impossible
            rw [begun] at impossible
            cases impossible
          · show running.ledger.attempt.failures + 1 = running.ledger.attempt.attempts + 1
            rw [failures, attempts]
          · show running.ledger.attempt.failures + 1 = attempt + 1
            rw [failures, series.only (losses.symm.trans none)]
          · show attempt + 1 < running.ledger.attempt.failures + 1
            rw [failures]
            exact Nat.succ_lt_succ (series.more (losses ▸ some))
      | gaveUp outcome error spent => trivial
  | @woken attempt phase =>
      unfold Tallied at tallied
      rw [phase] at tallied
      exact tallied
  | rested phase =>
      unfold Tallied at tallied
      rw [phase] at tallied
      exact tallied
  | proceeded phase =>
      unfold Tallied at tallied
      rw [phase] at tallied
      rcases tallied with ⟨begun, failures, started, losses⟩
      refine ⟨⟨Nat.zero_le _, fun impossible => ?_, fun _ => failures, fun none => ?_, fun _ => ?_⟩,
        fun notStarted => ?_⟩
      · exact absurd begun (Bool.eq_false_iff.mp impossible)
      · exact absurd none (Nat.ne_of_gt losses)
      · exact failures ▸ Nat.succ_pos _
      · exact absurd started (Bool.eq_false_iff.mp notStarted)
  | @rounded input next phase rounded =>
      rcases tallied.streaming phase with ⟨begun, failures, started, zero⟩
      generalize loop.round running.body input = verdict at rounded
      cases rounded with
      | again body =>
          unfold Tallied
          rw [phase]
          exact ⟨begun, failures, started, zero⟩
      | transferred body resets =>
          unfold Tallied
          rw [phase]
          exact ⟨begun, rfl, started, rfl⟩
      | lost verdict lost =>
          refine ⟨begun, ?_, started, Nat.succ_pos _⟩
          show running.ledger.failures + 1 = running.ledger.attempts + 1
          rw [failures]
      | failed verdict error kept => trivial
      | done result => trivial

/-! ## The budget -/

/-- The answer is a failure, of an attempt or of an open endpoint. -/
def Fails (loop : Loop Body Input) (running : Running Body) : Answer Input -> Prop
  | .connect (.failed _) => True
  | .input input =>
      match loop.round running.body input with
      | .failed _ _ | .rejected _ => True
      | _ => False
  | _ => False

/-- The step keeps within the budget: after it no more attempts were made than
the limit, fewer where one more is due, and a failure that is not followed by a
further attempt ends the element with an error. -/
def Honours (loop : Loop Body Input) (running : Running Body) (answer : Answer Input) : Prop :=
  forall next, loop.step running answer = some next ->
    Honoured loop.retry.maxAttempts next ∧
      (loop.Fails running answer -> next.phase = .pausing ∨
        (Exists fun attempt => next.phase = .backingOff attempt) ∨
        Exists fun error => next.phase = .finished (.error error))

/-- A failure that the element would mend, and that is one of an open endpoint
or comes after one, with no frame transferred in between. -/
def costly (loop : Loop Body Input) (running : Running Body) : Answer Input -> Bool
  | .connect (.failed error) =>
      match running.phase with
      | .opening _ => error.retryable && decide (0 < running.ledger.losses)
      | _ => false
  | .input input =>
      match running.phase with
      | .streaming => (loop.round running.body input).lost
      | _ => false
  | _ => false

/-- Such a failure comes only while there were fewer failures than the limit
since a frame was transferred. -/
def Affordable (loop : Loop Body Input) (running : Running Body) (answer : Answer Input) : Prop :=
  loop.costly running answer = true -> running.ledger.failures < loop.retry.maxAttempts

instance (loop : Loop Body Input) (running : Running Body) (answer : Answer Input) :
    Decidable (loop.Affordable running answer) :=
  inferInstanceAs (Decidable (_ = true -> _ < _))

theorem costly_connect {attempt : Nat} {error : Error}
    (phase : running.phase = .opening attempt) :
    loop.costly running (.connect (.failed error)) = true <->
      error.retryable = true ∧ 0 < running.ledger.losses := by
  simp [costly, phase]

theorem costly_input {input : Input} (phase : running.phase = .streaming) :
    loop.costly running (.input input) = (loop.round running.body input).lost := by
  simp [costly, phase]

theorem Honoured.le {limit : Nat} (honoured : Honoured limit running) :
    running.ledger.attempts <= limit := by
  unfold Honoured at honoured
  split at honoured
  · exact honoured
  · exact honoured
  · exact Nat.le_of_lt honoured
  · exact Nat.le_of_lt honoured
  · exact Nat.le_of_lt honoured
  · exact Nat.le_of_lt honoured

theorem Honoured.due {limit : Nat} (honoured : Honoured limit running)
    (streaming : running.phase ≠ .streaming)
    (live : forall result, running.phase ≠ .finished result) :
    running.ledger.attempts < limit := by
  unfold Honoured at honoured
  split at honoured
  · exact absurd (by assumption) streaming
  · exact absurd (by assumption) (live _)
  · exact honoured
  · exact honoured
  · exact honoured
  · exact honoured

/-- The next attempt of a series is within the limit. -/
theorem Series.failures_le {limit attempt : Nat} (series : Series running.ledger limit attempt)
    (due : running.ledger.attempts < limit) : running.ledger.failures <= limit := by
  by_cases begun : running.ledger.begun = true
  · rw [series.due begun]
    exact due
  · rw [(series.first (Bool.eq_false_iff.mpr begun)).1]
    exact Nat.zero_le limit

theorem tried_honoured_iff {attempt : Nat} {outcome : Opening}
    (series : Series running.ledger loop.retry.maxAttempts attempt)
    (due : running.ledger.attempts < loop.retry.maxAttempts)
    (phase : running.phase = .opening attempt)
    (tried : Tried loop { running with ledger := running.ledger.attempt } attempt outcome next) :
    Honoured loop.retry.maxAttempts next <-> loop.Affordable running (.connect outcome) := by
  have failures_le := series.failures_le due
  have attempts := series.attempt.2.1
  have kept : running.ledger.attempt.attempts <= loop.retry.maxAttempts := by
    rw [attempts]
    exact failures_le
  cases tried with
  | opened next isStreaming started ledger reset =>
      refine iff_of_true ?_ fun impossible => ?_
      · unfold Honoured
        rw [isStreaming, ledger]
        exact kept
      · cases impossible
  | retried error retryable within =>
      show running.ledger.attempt.attempts < loop.retry.maxAttempts <-> _
      rw [attempts]
      refine ⟨fun few _ => few, fun affordable => ?_⟩
      by_cases none : running.ledger.losses = 0
      · rw [series.only none]
        exact within
      · exact affordable ((costly_connect phase).mpr ⟨retryable, Nat.pos_of_ne_zero none⟩)
  | gaveUp outcome error spent =>
      refine iff_of_true kept fun costly => ?_
      cases outcome with
      | opened => cases costly
      | unusable error => cases costly
      | failed failure =>
          -- a series as long as the limit, and more failures than it
          have both := (costly_connect phase).mp costly
          have long := spent failure rfl both.1
          have more := series.more both.2
          omega

theorem rounded_honoured_iff {verdict : Verdict Body}
    (failures : running.ledger.failures = running.ledger.attempts)
    (honoured : running.ledger.attempts <= loop.retry.maxAttempts)
    (phase : running.phase = .streaming) (rounded : Rounded running verdict next) :
    Honoured loop.retry.maxAttempts next <->
      (verdict.lost = true -> running.ledger.failures < loop.retry.maxAttempts) := by
  cases rounded with
  | again body =>
      refine iff_of_true ?_ fun impossible => ?_
      · unfold Honoured
        rw [phase]
        exact honoured
      · cases impossible
  | transferred body resets =>
      refine iff_of_true ?_ fun impossible => ?_
      · unfold Honoured
        rw [phase]
        exact Nat.zero_le _
      · cases impossible
  | lost verdict lost =>
      rw [failures]
      exact ⟨fun few _ => few, fun affordable => affordable lost⟩
  | failed verdict error kept =>
      refine iff_of_true honoured fun impossible => ?_
      rw [kept] at impossible
      cases impossible
  | done result =>
      refine iff_of_true honoured fun impossible => ?_
      cases impossible

theorem honoured_iff (positive : 0 < loop.retry.maxAttempts)
    (tallied : Tallied loop.retry.maxAttempts running)
    (honoured : Honoured loop.retry.maxAttempts running)
    (stepped : loop.step running answer = some next) :
    Honoured loop.retry.maxAttempts next <-> loop.Affordable running answer := by
  have due (phase : Phase) (isPhase : running.phase = phase) (notStreaming : phase ≠ .streaming)
      (live : forall result, phase ≠ .finished result) :
      running.ledger.attempts < loop.retry.maxAttempts :=
    honoured.due (isPhase ▸ notStreaming) (isPhase ▸ live)
  cases step_stepped positive tallied stepped with
  | stopped error => exact iff_of_true honoured.le fun impossible => nomatch impossible
  | @tried attempt outcome next phase tried =>
      exact tried_honoured_iff (tallied.opening phase).1
        (due _ phase Phase.noConfusion fun _ => Phase.noConfusion) phase tried
  | woken phase =>
      exact iff_of_true (due _ phase Phase.noConfusion fun _ => Phase.noConfusion)
        fun impossible => nomatch impossible
  | rested phase =>
      exact iff_of_true (due _ phase Phase.noConfusion fun _ => Phase.noConfusion)
        fun impossible => nomatch impossible
  | proceeded phase =>
      exact iff_of_true (due _ phase Phase.noConfusion fun _ => Phase.noConfusion)
        fun impossible => nomatch impossible
  | @rounded input next phase rounded =>
      unfold Affordable
      rw [costly_input phase]
      exact rounded_honoured_iff (tallied.streaming phase).2.1 honoured.le phase rounded

/-- A failure is followed by a further attempt or ends the element with an
error. -/
theorem fails_ends (positive : 0 < loop.retry.maxAttempts)
    (tallied : Tallied loop.retry.maxAttempts running)
    (stepped : loop.step running answer = some next) (fails : loop.Fails running answer) :
    next.phase = .pausing ∨ (Exists fun attempt => next.phase = .backingOff attempt) ∨
      Exists fun error => next.phase = .finished (.error error) := by
  cases step_stepped positive tallied stepped with
  | tried phase tried =>
      cases tried with
      | opened => exact absurd fails id
      | retried => exact Or.inr (Or.inl ⟨_, rfl⟩)
      | gaveUp outcome error spent => exact Or.inr (Or.inr ⟨error, rfl⟩)
  | rounded phase rounded =>
      unfold Fails at fails
      dsimp only at fails
      generalize loop.round running.body _ = verdict at rounded fails
      cases rounded with
      | again | transferred => exact absurd fails id
      | lost => exact Or.inl rfl
      | failed verdict error kept => exact Or.inr (Or.inr ⟨error, rfl⟩)
      | done => exact absurd fails id
  | stopped | woken | rested | proceeded => exact absurd fails id

theorem affordable_of_stuck (stuck : loop.step running answer = none) :
    loop.Affordable running answer := by
  intro costly
  unfold Loop.costly at costly
  split at costly
  · split at costly
    · rename_i phase
      dsimp only [step] at stuck
      rw [phase] at stuck
      cases stuck
    · cases costly
  · split at costly
    · rename_i phase
      dsimp only [step] at stuck
      rw [phase] at stuck
      cases stuck
    · cases costly
  · cases costly

theorem step_honours_iff (positive : 0 < loop.retry.maxAttempts)
    (tallied : Tallied loop.retry.maxAttempts running)
    (honoured : Honoured loop.retry.maxAttempts running) (answer : Answer Input) :
    loop.Honours running answer <-> loop.Affordable running answer := by
  cases stepped : loop.step running answer with
  | none =>
      refine iff_of_true (fun next impossible => ?_) (affordable_of_stuck stepped)
      rw [stepped] at impossible
      cases impossible
  | some next =>
      have same := honoured_iff positive tallied honoured stepped
      constructor
      · exact fun honours => same.mp (honours next stepped).1
      · intro affordable other isOther
        rw [stepped] at isOther
        cases isOther
        exact ⟨same.mpr affordable, fails_ends positive tallied stepped⟩

/-- A whole run keeps within the budget just if all its failures are
affordable. -/
theorem run_honours_iff (loop : Loop Body Input) (positive : 0 < loop.retry.maxAttempts)
    (answers : List (Answer Input)) :
    loop.machine.Meets loop.Honours loop.start answers <->
      loop.machine.Meets loop.Affordable loop.start answers := by
  apply loop.machine.meets_congr (fun running =>
    Tallied loop.retry.maxAttempts running ∧ Honoured loop.retry.maxAttempts running)
  · rintro running answer next ⟨tallied, honoured⟩ honours stepped
    exact ⟨tallied_step positive tallied stepped, (honours next stepped).1⟩
  · rintro running answer ⟨tallied, honoured⟩
    exact step_honours_iff positive tallied honoured answer
  · exact ⟨tallied_start loop, positive⟩

/-- In every state of such a run the attempts are within the limit. -/
theorem run_honoured {answers : List (Answer Input)} (positive : 0 < loop.retry.maxAttempts)
    (meets : loop.machine.Meets loop.Honours loop.start answers)
    (reached : loop.machine.run loop.start answers = some running) :
    Honoured loop.retry.maxAttempts running :=
  loop.machine.run_invariant_of_meets (Honoured loop.retry.maxAttempts)
    (fun _ _ next _ honours stepped => (honours next stepped).1)
    (show Honoured loop.retry.maxAttempts loop.start from positive) meets reached

end Loop

/-- The pull element and the push element keep within the budget of their retry
configuration in just those runs in which all failures are affordable. -/
theorem reconnect_budget (retry : RetryConfig) (positive : 0 < retry.maxAttempts) :
    (forall answers, (pull retry).machine.Meets (pull retry).Honours (pull retry).start answers <->
      (pull retry).machine.Meets (pull retry).Affordable (pull retry).start answers) ∧
    (forall answers, (push retry).machine.Meets (push retry).Honours (push retry).start answers <->
      (push retry).machine.Meets (push retry).Affordable (push retry).start answers) :=
  ⟨(pull retry).run_honours_iff positive, (push retry).run_honours_iff positive⟩

/-- One attempt is allowed. -/
def single : RetryConfig := ⟨250, 30000, 2, 20, 1⟩

def reset : Error :=
  .connector ⟨"rtsp", "stream", true, .pull, none, "connection reset by peer"⟩

/-- The endpoint fails once, and a frame comes after the reconnection. -/
def recovering : List (Answer PullInput) :=
  [.connect .opened, .input (.frame true .sent), .input (.failed reset), .wake, .proceed,
    .connect .opened, .input (.frame true .sent)]

theorem recovering_honours :
    (pull single).machine.Meets (pull single).Honours (pull single).start recovering :=
  ((reconnect_budget single (by decide)).1 recovering).mpr (by decide)

/-- The endpoint opens and fails at once, again and again. -/
def flapping : List (Answer PullInput) :=
  [.connect .opened, .input (.failed reset), .wake, .proceed,
    .connect .opened, .input (.failed reset), .wake, .proceed, .connect .opened]

def flappingPush : List (Answer PushInput) :=
  [.connect .opened, .input (.pushed (.error reset) none), .wake, .proceed,
    .connect .opened, .input (.pushed (.ok .rejectedClosed) none), .wake, .proceed,
    .connect .opened]

/-- Both elements make two attempts where one is allowed. -/
theorem flapping_exceeds :
    ((pull single).machine.after (pull single).start flapping).ledger.attempts = 2 ∧
    ¬ (pull single).machine.Meets (pull single).Honours (pull single).start flapping ∧
    ((push single).machine.after (push single).start flappingPush).ledger.attempts = 2 ∧
    ¬ (push single).machine.Meets (push single).Honours (push single).start flappingPush := by
  refine ⟨rfl, fun meets => ?_, rfl, fun meets => ?_⟩
  · have honoured := Loop.run_honoured (by decide) meets ((pull single).machine.run_after rfl)
    exact absurd honoured.le (by decide)
  · have honoured := Loop.run_honoured (by decide) meets ((push single).machine.run_after rfl)
    exact absurd honoured.le (by decide)

end Stream
end DyunGu
