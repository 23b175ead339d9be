import DyunGu.Media.PumpLedger

namespace DyunGu
namespace Media

/-!
# Whether a pump gets on

A step that finds its input or its flush refused ends without a poll.  A
backend that waits for its outputs to be taken is therefore asked again and
again and never drained: the pump gets on exactly when the backend comes to
accept without being polled.
-/

variable {S F V A : Type}

namespace BackendOps

variable (errors : AvErrors A) (ops : BackendOps S F V A)

/-- A value is accepted within so many tries with nothing in between. -/
def takenWithin : Nat -> S -> V -> Bool
  | 0, _, _ => false
  | tries + 1, backend, value =>
      match ops.submitValue backend value with
      | (.accepted, _) => true
      | (.again back, next) => takenWithin tries next back
      | (.error _, _) => false

/-- The flush is taken within so many tries, or there is none to send. -/
def flushedWithin : Nat -> S -> Bool
  | 0, _ => false
  | tries + 1, backend =>
      if ops.flushRequired backend then
        match ops.flushBackend backend with
        | (.ok (), _) => true
        | (.error error, next) =>
            match errors.kind error with
            | .again => flushedWithin tries next
            | .endOfStream => true
            | .other => false
      else true

end BackendOps

namespace AsyncPump

variable (errors : AvErrors A) (ops : BackendOps S F V A)

/-- The pump is at work and has an input or a flush to hand over. -/
def Waiting (pump : AsyncPump F V) : Prop :=
  (pump.state = .accepting ∨ pump.state = .flushing) ∧
    (pump.pendingMediaInput ≠ none ∨ pump.pendingBackendValue ≠ none ∨
      pump.state = .flushing ∧ pump.flushSent = false)

/-- What the pump waits to hand over is accepted within so many tries if the
backend is not polled. -/
def acceptedUnpolled (tries : Nat) (pump : AsyncPump F V) (backend : S) : Bool :=
  match pump.pendingBackendValue, pump.pendingMediaInput with
  | some value, _ => ops.takenWithin tries backend value
  | none, some frame =>
      match ops.convertInput backend frame with
      | (.ok value, next) => ops.takenWithin tries next value
      | (.error _, _) => false
  | none, none => ops.flushedWithin errors tries backend

end AsyncPump

namespace Session

variable (errors : AvErrors A) (ops : BackendOps S F V A)

/-- Every output that is queued is popped. -/
def popAll (session : Session S F V A) : Session S F V A :=
  { session with
    pump := { session.pump with outputQueue := [] }
    popped := session.popped ++ session.pump.outputQueue }

/-- One step, after which every output is popped. -/
def round (session : Session S F V A) : Session S F V A :=
  (session.call errors ops .pumpStep).popAll

def rounds (session : Session S F V A) : Nat -> Session S F V A
  | 0 => session
  | count + 1 => rounds (session.round errors ops) count

/-- One more value is accepted, or the flush is sent. -/
def Moved (before after : Session S F V A) : Prop :=
  (acceptedValues before.log).length < (acceptedValues after.log).length ∨
    before.pump.flushSent = false ∧ after.pump.flushSent = true

/-- Popping all outputs is popping one after the other. -/
theorem popAll_eq (session : Session S F V A) :
    (machine errors ops).run session
        (List.replicate session.pump.outputQueue.length .popOutput) = some session.popAll := by
  rcases session with ⟨pump, backend, log, submitted, popped⟩
  rcases pump with ⟨state, input, value, queue, flushSent, eos, error, stats⟩
  induction queue generalizing popped with
  | nil => simp [popAll]
  | cons frame queue ih =>
      rw [List.length_cons, List.replicate_succ, Machine.run_cons_iff]
      refine ⟨_, rfl, ?_⟩
      have rest := ih (popped ++ [frame])
      simpa [call, AsyncPump.popOutput, popAll] using rest

end Session

/-! ## What a step adds to the record -/

section Grown

variable {errors : AvErrors A} {ops : BackendOps S F V A} {pump : AsyncPump F V} {backend : S}
  {log : List (Event F V A)}

/-- A stage only adds to the record, and does not take a flush back. -/
def Grown (pump : AsyncPump F V) (log : List (Event F V A))
    (stepped : AsyncPump.Stepped (S × List (Event F V A)) F V) : Prop :=
  log <+: stepped.2.2.2 ∧ (pump.flushSent = true -> stepped.2.1.flushSent = true)

theorem pollStage_log :
    (pump.pollStage errors ops.logged (backend, log)).2.2.2 =
        log ++ [.polled (ops.pollOutput backend).1] ∧
      (pump.pollStage errors ops.logged (backend, log)).2.1.flushSent = pump.flushSent := by
  unfold AsyncPump.pollStage
  rw [AsyncPump.countPoll_eq]
  rcases polled : ops.pollOutput backend with ⟨answer, next⟩
  rw [logged_pollOutput polled]
  have ends : forall pump : AsyncPump F V,
      (pump.endOfStream (next, log ++ [.polled answer])).2.2.2 = log ++ [.polled answer] ∧
        (pump.endOfStream (next, log ++ [.polled answer])).2.1.flushSent = pump.flushSent := by
    intro pump
    unfold AsyncPump.endOfStream
    dsimp only
    split
    · exact ⟨rfl, rfl⟩
    · exact ⟨rfl, rfl⟩
  cases answer with
  | ok poll =>
      cases poll with
      | ready frame =>
          dsimp only
          split
          · exact ⟨rfl, rfl⟩
          · exact ⟨rfl, rfl⟩
      | pending => exact ⟨rfl, rfl⟩
      | endOfStream => exact ends _
  | error error =>
      dsimp only
      split
      · exact ⟨rfl, rfl⟩
      · exact ends _
      · exact ⟨rfl, rfl⟩

/-- The flush comes to nothing, it is to be tried again, or it is through. -/
theorem afterSubmit_flush (due : pump.flushDue = true) :
    (ops.flushedWithin errors 1 backend = true ∧
      (pump.afterSubmit errors ops.logged (backend, log)).2.1.flushSent = true ∧
      log <+: (pump.afterSubmit errors ops.logged (backend, log)).2.2.2) ∨
    (Exists fun error => Exists fun next =>
      ops.flushRequired backend = true ∧ ops.flushBackend backend = (.error error, next) ∧
      errors.kind error = .again ∧ Exists fun stats =>
        pump.afterSubmit errors ops.logged (backend, log) =
          (.ok .pending, { pump with stats := stats }, next,
            log ++ [.flushed (.error error)])) ∨
    Exists fun error => Exists fun next =>
      ops.flushRequired backend = true ∧ ops.flushBackend backend = (.error error, next) ∧
      errors.kind error = .other ∧ Exists fun stats =>
        pump.afterSubmit errors ops.logged (backend, log) =
          ({ pump with stats := stats }).fail (errors.mapAvError error)
            (next, log ++ [Event.flushed (.error error)]) := by
  unfold AsyncPump.afterSubmit
  rw [if_pos due]
  cases required : ops.flushRequired backend with
  | false =>
      left
      have loggedRequired : ops.logged.flushRequired (backend, log) = false := required
      rw [loggedRequired, if_neg Bool.false_ne_true]
      refine ⟨by simp [BackendOps.flushedWithin, required], ?_, ?_⟩
      · rw [pollStage_log.2]
      · rw [pollStage_log.1]
        exact List.prefix_append _ _
  | true =>
      have loggedRequired : ops.logged.flushRequired (backend, log) = true := required
      rw [loggedRequired, if_pos rfl]
      rcases flushed : ops.flushBackend backend with ⟨answer, next⟩
      rw [logged_flushBackend flushed]
      have through : forall pump : AsyncPump F V, pump.flushSent = true ->
          (pump.pollStage errors ops.logged (next, log ++ [.flushed answer])).2.1.flushSent =
              true ∧
            log <+: (pump.pollStage errors ops.logged
              (next, log ++ [.flushed answer])).2.2.2 := by
        intro pump sent
        rw [pollStage_log.1, pollStage_log.2, List.append_assoc]
        exact ⟨sent, List.prefix_append _ _⟩
      cases answer with
      | ok value =>
          left
          exact ⟨by simp [BackendOps.flushedWithin, required, flushed], through _ rfl⟩
      | error error =>
          dsimp only
          cases kind : errors.kind error with
          | again => exact Or.inr (Or.inl ⟨error, next, rfl, rfl, kind, _, rfl⟩)
          | endOfStream =>
              left
              exact ⟨by simp [BackendOps.flushedWithin, required, flushed, kind], through _ rfl⟩
          | other => exact Or.inr (Or.inr ⟨error, next, rfl, rfl, kind, _, rfl⟩)

theorem afterSubmit_grown :
    Grown pump log (pump.afterSubmit errors ops.logged (backend, log)) := by
  cases due : pump.flushDue with
  | true =>
      rcases @afterSubmit_flush S F V A errors ops pump backend log due with
        ⟨_, sent, grown⟩ | ⟨error, next, _, _, _, stats, result⟩ |
          ⟨error, next, _, _, _, stats, result⟩
      · exact ⟨grown, fun _ => sent⟩
      · rw [result]
        exact ⟨List.prefix_append _ _, id⟩
      · rw [result]
        exact ⟨List.prefix_append _ _, id⟩
  | false =>
      unfold AsyncPump.afterSubmit
      rw [due, if_neg Bool.false_ne_true]
      refine ⟨?_, fun sent => ?_⟩
      · rw [pollStage_log.1]
        exact List.prefix_append _ _
      · rw [pollStage_log.2]
        exact sent

/-- A value is accepted, handed back, or refused for good. -/
theorem submit_cases (value : V) :
    (Exists fun next => ops.submitValue backend value = (.accepted, next) ∧
      Grown pump (log ++ [.submitted value .accepted])
        (pump.submit errors ops.logged (backend, log) value)) ∨
    (Exists fun back => Exists fun next =>
      ops.submitValue backend value = (.again back, next) ∧ Exists fun stats =>
        pump.submit errors ops.logged (backend, log) value =
          (.ok .pending, { pump with pendingBackendValue := some back, stats := stats }, next,
            log ++ [.submitted value (.again back)])) ∨
    Exists fun error => Exists fun next =>
      ops.submitValue backend value = (.error error, next) ∧ Exists fun reported =>
        pump.submit errors ops.logged (backend, log) value =
          pump.fail reported (next, log ++ [.submitted value (.error error)]) := by
  unfold AsyncPump.submit
  rcases answered : ops.submitValue backend value with ⟨answer, next⟩
  rw [logged_submitValue answered]
  cases answer with
  | accepted =>
      refine Or.inl ⟨next, rfl, ?_⟩
      exact @afterSubmit_grown S F V A errors ops
        { pump with stats := { pump.stats with accepted := bump pump.stats.accepted } } next
        (log ++ [.submitted value .accepted])
  | again back => exact Or.inr (Or.inl ⟨back, next, rfl, _, rfl⟩)
  | error error =>
      refine Or.inr (Or.inr ⟨error, next, rfl, ?_⟩)
      dsimp only
      split
      · exact ⟨_, rfl⟩
      · exact ⟨_, rfl⟩
      · exact ⟨_, rfl⟩

end Grown

/-! ## Rounds -/

namespace Session

variable {errors : AvErrors A} {ops : BackendOps S F V A} {session : Session S F V A}

/-- Nothing more is accepted, and the flush is sent or not as before. -/
def Still (before after : Session S F V A) : Prop :=
  acceptedValues after.log = acceptedValues before.log ∧
    after.pump.flushSent = before.pump.flushSent

theorem Still.moved_iff {before middle after : Session S F V A} (still : Still before middle) :
    Moved before after <-> Moved middle after := by
  unfold Moved
  rw [still.1, still.2]

/-- A session whose step had this result, with its outputs popped. -/
def stepped (session : Session S F V A)
    (result : AsyncPump.Stepped (S × List (Event F V A)) F V) : Session S F V A :=
  ({ session with pump := result.2.1, backend := result.2.2.1, log := result.2.2.2 }).popAll

theorem round_eq (session : Session S F V A) :
    session.round errors ops = session.stepped
      (session.pump.pumpStep errors ops.logged (session.backend, session.log)) := rfl

theorem round_working (working : session.pump.state = .accepting ∨ session.pump.state = .flushing)
    (clean : session.pump.error = none) :
    session.round errors ops = session.stepped
      (session.pump.inputStage errors ops.logged (session.backend, session.log)) := by
  rw [round_eq, AsyncPump.pumpStep, clean]
  rcases working with is | is
  · rw [is]
  · rw [is]

/-- What a pump comes to in a round in which it has something to hand over. -/
inductive Outcome (errors : AvErrors A) (ops : BackendOps S F V A)
    (session after : Session S F V A) : Prop where
  | moved
      (taken : session.pump.acceptedUnpolled errors ops 1 session.backend = true)
      (moved : Moved session after)
  | again
      (waiting : after.pump.Waiting) (clean : after.pump.error = none)
      (still : Still session after)
      (later : forall tries,
        session.pump.acceptedUnpolled errors ops (tries + 1) session.backend =
          after.pump.acceptedUnpolled errors ops tries after.backend)
  | failed
      (failed : after.pump.state = .failed) (still : Still session after)
      (never : forall tries,
        session.pump.acceptedUnpolled errors ops tries session.backend = false)

theorem failed_still (failed : session.pump.state = .failed) :
    (session.round errors ops).pump.state = .failed ∧
      Still session (session.round errors ops) := by
  rw [round_eq, AsyncPump.pumpStep]
  cases session.pump.error with
  | some error => exact ⟨rfl, rfl, rfl⟩
  | none =>
      rw [failed]
      exact ⟨failed, rfl, rfl⟩

theorem failed_rounds (failed : session.pump.state = .failed) (count : Nat) :
    Still session (session.rounds errors ops count) := by
  induction count generalizing session with
  | zero => exact ⟨rfl, rfl⟩
  | succ count ih =>
      have once : (session.round errors ops).pump.state = .failed ∧
          Still session (session.round errors ops) := failed_still failed
      have rest := ih once.1
      exact ⟨rest.1.trans once.2.1, rest.2.trans once.2.2⟩

/-- A value is handed over that the pump held, or had just converted. -/
theorem submit_outcome {held : AsyncPump F V} {next : S} {log : List (Event F V A)} {value : V}
    (working : held.state = .accepting ∨ held.state = .flushing) (clean : held.error = none)
    (flushSent : held.flushSent = session.pump.flushSent)
    (values : acceptedValues log = acceptedValues session.log)
    (whole : forall tries, session.pump.acceptedUnpolled errors ops tries session.backend =
      ops.takenWithin tries next value) :
    Outcome errors ops session
      (session.stepped (held.submit errors ops.logged (next, log) value)) := by
  rcases @submit_cases S F V A errors ops held next log value with
    ⟨later, answered, grown⟩ | ⟨back, later, answered, stats, result⟩ |
      ⟨error, later, answered, reported, result⟩
  · refine .moved ?_ (Or.inl ?_)
    · rw [whole, BackendOps.takenWithin, answered]
    · rcases grown.1 with ⟨rest, whole⟩
      change (acceptedValues session.log).length < (acceptedValues
        (held.submit errors ops.logged (next, log) value).2.2.2).length
      rw [← whole, ← values]
      simp [acceptedValues, Event.accepted?]
  · rw [result]
    refine .again ⟨working, Or.inr (Or.inl (Option.some_ne_none back))⟩ clean ⟨?_, flushSent⟩ ?_
    · change acceptedValues (log ++ [.submitted value (.again back)]) = _
      rw [acceptedValues_calm ⟨rfl, rfl⟩, values]
    · intro tries
      rw [whole, BackendOps.takenWithin, answered]
      rfl
  · rw [result]
    refine .failed rfl ⟨?_, flushSent⟩ ?_
    · change acceptedValues (log ++ [.submitted value (.error error)]) = _
      rw [acceptedValues_calm ⟨rfl, rfl⟩, values]
    · intro tries
      rw [whole]
      cases tries with
      | zero => rfl
      | succ tries => rw [BackendOps.takenWithin, answered]

/-- The flush is sent. -/
theorem flush_outcome (flushing : session.pump.state = .flushing)
    (unsent : session.pump.flushSent = false) (noInput : session.pump.pendingMediaInput = none)
    (noValue : session.pump.pendingBackendValue = none) (clean : session.pump.error = none) :
    Outcome errors ops session (session.stepped
      (session.pump.afterSubmit errors ops.logged (session.backend, session.log))) := by
  have due : session.pump.flushDue = true := by
    simp [AsyncPump.flushDue, flushing, unsent, noInput, noValue]
  have whole : forall tries,
      session.pump.acceptedUnpolled errors ops tries session.backend =
        ops.flushedWithin errors tries session.backend := by
    intro tries
    rw [AsyncPump.acceptedUnpolled, noValue, noInput]
  rcases @afterSubmit_flush S F V A errors ops session.pump session.backend session.log due with
    ⟨taken, sent, -⟩ | ⟨error, next, required, flushed, kind, stats, result⟩ |
      ⟨error, next, required, flushed, kind, stats, result⟩
  · exact .moved ((whole 1).trans taken) (Or.inr ⟨unsent, sent⟩)
  · rw [result]
    refine .again ⟨Or.inr flushing, Or.inr (Or.inr ⟨flushing, unsent⟩)⟩ clean ⟨?_, rfl⟩ ?_
    · exact acceptedValues_calm ⟨rfl, rfl⟩
    · intro tries
      rw [whole, BackendOps.flushedWithin, if_pos required, flushed]
      dsimp only
      rw [kind]
      simp [AsyncPump.acceptedUnpolled, stepped, popAll, noInput, noValue]
  · rw [result]
    refine .failed rfl ⟨acceptedValues_calm ⟨rfl, rfl⟩, rfl⟩ ?_
    intro tries
    rw [whole]
    cases tries with
    | zero => rfl
    | succ tries =>
        rw [BackendOps.flushedWithin, if_pos required, flushed]
        dsimp only
        rw [kind]

theorem round_outcome (waiting : session.pump.Waiting) (clean : session.pump.error = none) :
    Outcome errors ops session (session.round errors ops) := by
  rw [round_working waiting.1 clean, AsyncPump.inputStage]
  cases isValue : session.pump.pendingBackendValue with
  | some value =>
      refine submit_outcome waiting.1 clean rfl rfl fun tries => ?_
      rw [AsyncPump.acceptedUnpolled, isValue]
  | none =>
      cases isInput : session.pump.pendingMediaInput with
      | none =>
          have flush := waiting.2.resolve_left (fun input => input isInput)
          have unsent := flush.resolve_left (fun value => value isValue)
          exact flush_outcome unsent.1 unsent.2 isInput isValue clean
      | some frame =>
          rcases converted : ops.convertInput session.backend frame with ⟨result, next⟩
          dsimp only
          rw [logged_convertInput converted]
          cases result with
          | ok value =>
              refine submit_outcome waiting.1 clean rfl ?_ fun tries => ?_
              · simp [acceptedValues, Event.accepted?]
              · rw [AsyncPump.acceptedUnpolled, isValue, isInput]
                dsimp only
                rw [converted]
          | error error =>
              refine .failed rfl ⟨?_, rfl⟩ fun tries => ?_
              · exact acceptedValues_calm ⟨rfl, rfl⟩
              · rw [AsyncPump.acceptedUnpolled, isValue, isInput]
                dsimp only
                rw [converted]

theorem Still.not_moved {before after : Session S F V A} (still : Still before after) :
    ¬ Moved before after := by
  rintro (more | ⟨unsent, sent⟩)
  · rw [still.1] at more
    exact Nat.lt_irrefl _ more
  · rw [still.2, unsent] at sent
    cases sent

theorem acceptedUnpolled_zero (pump : AsyncPump F V) (backend : S) :
    pump.acceptedUnpolled errors ops 0 backend = false := by
  unfold AsyncPump.acceptedUnpolled
  split
  · rfl
  · split
    · rfl
    · rfl
  · rfl

/-- The pump gets on exactly when what it waits to hand over comes to be
accepted without a poll. -/
theorem moved_rounds_iff (waiting : session.pump.Waiting) (clean : session.pump.error = none) :
    (Exists fun count => Moved session (session.rounds errors ops count)) <->
      Exists fun tries =>
        session.pump.acceptedUnpolled errors ops tries session.backend = true := by
  constructor
  · rintro ⟨count, moved⟩
    induction count generalizing session with
    | zero => exact absurd moved (Still.not_moved ⟨rfl, rfl⟩)
    | succ count ih =>
        cases @round_outcome S F V A errors ops session waiting clean with
        | moved taken => exact ⟨1, taken⟩
        | again laterWaiting laterClean still later =>
            rcases ih laterWaiting laterClean (still.moved_iff.mp moved) with ⟨tries, taken⟩
            exact ⟨tries + 1, (later tries).trans taken⟩
        | failed failed still =>
            have rest : Still (session.round errors ops)
                ((session.round errors ops).rounds errors ops count) :=
              failed_rounds failed count
            exact absurd (still.moved_iff.mp moved) rest.not_moved
  · rintro ⟨tries, taken⟩
    induction tries generalizing session with
    | zero =>
        rw [acceptedUnpolled_zero] at taken
        cases taken
    | succ tries ih =>
        cases @round_outcome S F V A errors ops session waiting clean with
        | moved _ moved => exact ⟨1, moved⟩
        | again laterWaiting laterClean still later =>
            rcases ih laterWaiting laterClean ((later tries).symm.trans taken) with ⟨count, moved⟩
            exact ⟨count + 1, still.moved_iff.mpr moved⟩
        | failed _ _ never =>
            rw [never] at taken
            cases taken

/-- In every state that a session reaches with something to hand over, steps
and pops lead on if and only if the backend would accept it, by some try, without
being polled. -/
theorem gets_on_iff (errors : AvErrors A) (ops : BackendOps S F V A) {backend : S}
    {calls : List (Call F)} {session : Session S F V A}
    (reached : (machine errors ops).run (start backend) calls = some session)
    (waiting : session.pump.Waiting) :
    (Exists fun count => Moved session (session.rounds errors ops count)) <->
      Exists fun tries =>
        session.pump.acceptedUnpolled errors ops tries session.backend = true := by
  have kept : Kept errors (fun _ _ => True) True session :=
    reached_kept (fun _ => trivial) (fun _ _ _ _ _ => trivial) (fun _ _ _ _ _ => trivial) reached
  have clean : session.pump.error = none := by
    by_contra isError
    have failed := kept.standing.error isError
    rcases waiting.1 with is | is
    · exact absurd (is.symm.trans failed) (by decide)
    · exact absurd (is.symm.trans failed) (by decide)
  exact moved_rounds_iff waiting clean

theorem echo_gets_on :
    Exists fun session =>
      (machine plainErrors echo).run (start ([], false)) [.submitInput 3] = some session ∧
      session.pump.Waiting ∧
      Exists fun count => Moved session (session.rounds plainErrors echo count) := by
  have reached : (machine plainErrors echo).run (start ([], false)) [.submitInput 3] =
      some ((start ([], false)).call plainErrors echo (.submitInput 3)) := rfl
  have waiting : ((start ([], false)).call plainErrors echo (.submitInput 3)).pump.Waiting :=
    ⟨Or.inl rfl, Or.inl nofun⟩
  exact ⟨_, reached, waiting, (gets_on_iff plainErrors echo reached waiting).mpr ⟨1, rfl⟩⟩

/-! ### Backends that wait to be polled -/

/-- The backend refuses a value or a flush for now only while it holds outputs,
of which there are so many, and a poll takes one. -/
structure Backpressure (errors : AvErrors A) (ops : BackendOps S F V A) (held : S -> Nat) :
    Prop where
  submit : forall backend value back next,
    ops.submitValue backend value = (.again back, next) -> 0 < held backend
  flush : forall backend error next, ops.flushBackend backend = (.error error, next) ->
    errors.kind error = .again -> 0 < held backend
  poll : forall backend, 0 < held backend -> Exists fun frame => Exists fun next =>
    ops.pollOutput backend = (.ok (.ready frame), next) ∧ held next < held backend

/-- To refuse leaves all as it was. -/
structure Steady (errors : AvErrors A) (ops : BackendOps S F V A) : Prop where
  submit : forall backend value back next,
    ops.submitValue backend value = (.again back, next) -> back = value ∧ next = backend
  flush : forall backend error next, ops.flushBackend backend = (.error error, next) ->
    errors.kind error = .again -> next = backend

theorem Steady.takenWithin (steady : Steady errors ops) (tries : Nat) (backend : S) (value : V) :
    ops.takenWithin (tries + 1) backend value = ops.takenWithin 1 backend value := by
  induction tries with
  | zero => rfl
  | succ tries ih =>
      rw [BackendOps.takenWithin, BackendOps.takenWithin]
      rcases answered : ops.submitValue backend value with ⟨answer, next⟩
      cases answer with
      | accepted => rfl
      | again back =>
          rcases steady.submit backend value back next answered with ⟨rfl, rfl⟩
          dsimp only
          rw [ih]
          simp [BackendOps.takenWithin, answered]
      | error error => rfl

theorem Steady.flushedWithin (steady : Steady errors ops) (tries : Nat) (backend : S) :
    ops.flushedWithin errors (tries + 1) backend = ops.flushedWithin errors 1 backend := by
  induction tries with
  | zero => rfl
  | succ tries ih =>
      rw [BackendOps.flushedWithin, BackendOps.flushedWithin]
      split
      · rename_i required
        rcases flushed : ops.flushBackend backend with ⟨answer, next⟩
        cases answer with
        | ok value => rfl
        | error error =>
            dsimp only
            cases kind : errors.kind error with
            | again =>
                cases steady.flush backend error next flushed kind
                dsimp only
                rw [ih]
                simp [BackendOps.flushedWithin, required, flushed, kind]
            | endOfStream => rfl
            | other => rfl
      · rfl

theorem Steady.acceptedUnpolled (steady : Steady errors ops) (tries : Nat)
    (pump : AsyncPump F V) (backend : S) :
    pump.acceptedUnpolled errors ops (tries + 1) backend =
      pump.acceptedUnpolled errors ops 1 backend := by
  unfold AsyncPump.acceptedUnpolled
  split
  · exact steady.takenWithin tries backend _
  · split
    · exact steady.takenWithin tries _ _
    · rfl
  · exact steady.flushedWithin tries backend

/-- Such a backend must accept at once. -/
theorem Steady.taken_at_once_iff (steady : Steady errors ops) (waiting : session.pump.Waiting)
    (clean : session.pump.error = none) :
    (Exists fun count => Moved session (session.rounds errors ops count)) <->
      session.pump.acceptedUnpolled errors ops 1 session.backend = true := by
  rw [moved_rounds_iff waiting clean]
  constructor
  · rintro ⟨tries, taken⟩
    cases tries with
    | zero =>
        rw [acceptedUnpolled_zero] at taken
        cases taken
    | succ tries => exact (steady.acceptedUnpolled tries _ _).symm.trans taken
  · exact fun taken => ⟨1, taken⟩

def againErrors : AvErrors Unit where
  kind _ := .again
  mapAvError _ := .other "avcodec: operation needs polling"

/-- A backend with room for one input, which makes two outputs of it. -/
def basin : BackendOps Nat Nat Nat Unit where
  convertInput held frame := (.ok frame, held)
  submitValue held value := if held = 0 then (.accepted, 2) else (.again value, held)
  pollOutput held :=
    match held with
    | 0 => (.ok .pending, 0)
    | held + 1 => (.ok (.ready held), held)
  flushBackend held := if held = 0 then (.ok (), 0) else (.error (), held)
  resetBackend _ := (.ok (), 0)
  flushRequired _ := true

theorem basin_stuck :
    Backpressure againErrors basin id ∧
    Exists fun session =>
      (machine againErrors basin).run (start 0)
        [.submitInput 1, .pumpStep, .popOutput, .submitInput 2] = some session ∧
      session.pump.Waiting ∧
      forall count, ¬ Moved session (session.rounds againErrors basin count) := by
  have steady : Steady againErrors basin := by
    refine ⟨fun backend value back next answered => ?_, fun backend error next flushed _ => ?_⟩
    · unfold basin at answered
      dsimp only at answered
      split at answered
      · cases answered
      · cases answered
        exact ⟨rfl, rfl⟩
    · unfold basin at flushed
      dsimp only at flushed
      split at flushed
      · cases flushed
      · cases flushed
        rfl
  refine ⟨⟨fun backend value back next answered => ?_, fun backend error next flushed _ => ?_,
    fun backend some => ?_⟩, _, rfl, ⟨Or.inl rfl, Or.inl nofun⟩, fun count moved => ?_⟩
  · unfold basin at answered
    dsimp only at answered
    split at answered
    · cases answered
    · exact Nat.pos_of_ne_zero ‹_›
  · unfold basin at flushed
    dsimp only at flushed
    split at flushed
    · cases flushed
    · exact Nat.pos_of_ne_zero ‹_›
  · cases backend with
    | zero => cases some
    | succ held => exact ⟨held, held, rfl, Nat.lt_succ_self held⟩
  · refine absurd ((steady.taken_at_once_iff ?_ ?_).mp ⟨count, moved⟩) (by decide)
    · exact ⟨Or.inl rfl, Or.inl nofun⟩
    · rfl

end Session
end Media
end DyunGu
