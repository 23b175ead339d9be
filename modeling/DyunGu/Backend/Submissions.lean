import DyunGu.Backend.Runtime
import DyunGu.Lib.Machine

namespace DyunGu
namespace Backend

variable {T : Type}

/-!
# The submissions of one runtime

A session is a runtime with its own metrics and a record of what its caller
has seen: the sequences that submit has accepted, that a poll has returned or
reported as failed, and that a cancel has released.  The backend answers as
its contract demands and is otherwise free.

The counter of the metrics is the number of outstanding submissions in every
session.  No submission is lost in exactly the sessions that never submit to a
synchronous backend whose last result is still in the slot: the admission
check lets such a submission pass when more than one may be in flight, and it
overwrites the slot.
-/

namespace Runtime

/-- The submissions whose results the runtime or its backend still has. -/
def kept (runtime : Runtime T) : List Nat :=
  if runtime.isAsync then runtime.held.map Prod.fst
  else (runtime.syncResult.map Prod.fst).toList

end Runtime

structure Session (T : Type) where
  runtime : Runtime T
  metrics : BackendMetrics
  accepted : List Nat
  returned : List Nat
  failed : List Nat
  cancelled : List Nat

namespace Session

inductive Label (T : Type) where
  | submit (inputs : List T) (answer : Except Error (List T))
  | poll (answer : Completion T)
  | cancel (answer : Except Error Cancellation)

/-- The sequence that a poll has returned. -/
def readyOf : Except Error (InferPoll T) -> List Nat
  | .ok (.ready _ sequence) => [sequence]
  | .ok .pending | .ok .endOfStream | .error _ => []

/-- The sequence that a poll has reported an error for. -/
def failedOf (answer : Completion T) : Except Error (InferPoll T) -> List Nat
  | .ok _ => []
  | .error _ =>
      match answer with
      | .failed sequence _ => [sequence]
      | .pending | .ready _ _ | .endOfStream => []

def acceptedOf : Except Error Nat -> List Nat
  | .ok sequence => [sequence]
  | .error _ => []

/-- One operation of the caller, with an answer the backend may give under its
contract. -/
def step (session : Session T) : Label T -> Option (Session T)
  | .submit inputs answer =>
      let (runtime, metrics, result) := session.runtime.submit session.metrics inputs answer
      some { session with
        runtime := runtime
        metrics := metrics
        accepted := session.accepted ++ acceptedOf result }
  | .poll answer =>
      if session.runtime.Answers answer then
        let (runtime, metrics, result) := session.runtime.poll session.metrics answer
        some { session with
          runtime := runtime
          metrics := metrics
          returned := session.returned ++ readyOf result
          failed := session.failed ++ failedOf answer result }
      else none
  | .cancel answer =>
      if session.runtime.Reports answer then
        let (runtime, metrics, _) := session.runtime.cancel session.metrics answer
        some { session with
          runtime := runtime
          metrics := metrics
          cancelled := session.cancelled ++
            session.runtime.kept.filter fun sequence => decide (sequence ∉ runtime.kept) }
      else none

def machine : Machine (Session T) (Label T) where
  step := step

/-- A session over a freshly initialised backend. -/
def start (isAsync : Bool) (backendMax : Nat) : Session T where
  runtime := Runtime.fresh isAsync backendMax
  metrics := BackendMetrics.fresh
  accepted := []
  returned := []
  failed := []
  cancelled := []

/-- The submission has been returned, reported or cancelled. -/
def Settled (session : Session T) (sequence : Nat) : Prop :=
  sequence ∈ session.returned ∨ sequence ∈ session.failed ∨ sequence ∈ session.cancelled

instance (session : Session T) (sequence : Nat) : Decidable (session.Settled sequence) :=
  inferInstanceAs (Decidable (_ ∨ _ ∨ _))

/-- The submissions that were accepted and are not settled. -/
def outstanding (session : Session T) : List Nat :=
  session.accepted.filter fun sequence => decide (¬ session.Settled sequence)

/-- Every submission that was accepted, and neither reported as failed nor
cancelled, has been returned by exactly one poll, or its result is still there
and no poll has returned it. -/
def Lossless (session : Session T) : Prop :=
  forall sequence, sequence ∈ session.accepted -> sequence ∉ session.failed ->
    sequence ∉ session.cancelled ->
    session.returned.count sequence = 1 ∨
      (sequence ∈ session.runtime.kept ∧ session.returned.count sequence = 0)

/-- The step submits to a synchronous backend while the slot is occupied, and
the admission check lets it. -/
def Overwrites (session : Session T) : Label T -> Prop
  | .submit _ answer => session.runtime.isAsync = false ∧
      session.runtime.syncResult.isSome = true ∧ 1 < session.runtime.maxInFlight ∧
      session.runtime.nextSequence < u64Max ∧ answer.isOk = true
  | .poll _ | .cancel _ => False

instance (session : Session T) : forall label, Decidable (session.Overwrites label)
  | .submit _ _ => inferInstanceAs (Decidable (_ ∧ _ ∧ _ ∧ _ ∧ _))
  | .poll _ => isFalse id
  | .cancel _ => isFalse id

/-! ## What one operation does -/

/-- What holds of every session: the books agree with the record, and nothing
is recorded twice. -/
structure Inv (session : Session T) : Prop where
  books : session.runtime.Books session.outstanding
  counted : session.metrics.inFlight = session.outstanding.length
  underflow : session.metrics.underflow = 0
  acceptedOnce : session.accepted.Nodup
  issued : forall sequence, sequence ∈ session.accepted ->
    sequence < session.runtime.nextSequence
  settled : forall sequence, session.Settled sequence -> sequence ∈ session.accepted
  returnedOnce : session.returned.Nodup

/-- All that a step does to what is outstanding and to what is kept. -/
inductive Moves (session : Session T) : Label T -> Session T -> Prop
  | idle {label : Label T} {next : Session T}
      (outstanding : next.outstanding = session.outstanding)
      (kept : next.runtime.kept = session.runtime.kept) : Moves session label next
  | enters {inputs outputs : List T} {next : Session T}
      (outstanding : next.outstanding =
        session.outstanding ++ [session.runtime.nextSequence])
      (kept : next.runtime.kept =
        if session.runtime.isAsync then session.runtime.kept ++ [session.runtime.nextSequence]
        else [session.runtime.nextSequence])
      (admitted : session.runtime.currentInFlight < session.runtime.maxInFlight)
      (room : session.runtime.nextSequence < u64Max) :
      Moves session (.submit inputs (.ok outputs)) next
  | releases {label : Label T} {next : Session T} (gone : List Nat)
      (member : forall sequence, sequence ∈ gone -> sequence ∈ session.runtime.kept)
      (outstanding : next.outstanding =
        session.outstanding.filter fun sequence => decide (sequence ∉ gone))
      (kept : next.runtime.kept =
        session.runtime.kept.filter fun sequence => decide (sequence ∉ gone)) :
      Moves session label next

theorem mem_outstanding {session : Session T} {sequence : Nat} :
    sequence ∈ session.outstanding <->
      sequence ∈ session.accepted ∧ ¬ session.Settled sequence := by
  rw [outstanding, List.mem_filter, decide_eq_true_eq]

theorem start_inv (isAsync : Bool) (backendMax : Nat) :
    Inv (start isAsync backendMax : Session T) where
  books := Runtime.fresh_books isAsync backendMax
  counted := rfl
  underflow := rfl
  acceptedOnce := List.nodup_nil
  issued := fun _ impossible => by cases impossible
  settled := fun _ impossible => by
    rcases impossible with impossible | impossible | impossible <;> cases impossible
  returnedOnce := List.nodup_nil

/-- What is kept is outstanding. -/
theorem Inv.kept_outstanding {session : Session T} (inv : Inv session) {sequence : Nat}
    (member : sequence ∈ session.runtime.kept) : sequence ∈ session.outstanding := by
  unfold Runtime.kept at member
  split at member
  · rename_i isAsync
    rw [inv.books.held isAsync] at member
    exact member
  · rename_i isSync
    rw [Option.mem_toList, Option.map_eq_some_iff] at member
    rcases member with ⟨⟨other, outputs⟩, slot, rfl⟩
    exact inv.books.slot (by simpa using isSync) other outputs slot

/-- Some of what is kept is taken out and settled. -/
theorem Inv.release {session next : Session T} (inv : Inv session) {gone ready : List Nat}
    (member : forall sequence, sequence ∈ gone -> sequence ∈ session.runtime.kept)
    (accepted : next.accepted = session.accepted)
    (sequences : next.runtime.nextSequence = session.runtime.nextSequence)
    (settles : forall sequence, next.Settled sequence <->
      session.Settled sequence ∨ sequence ∈ gone)
    (returned : next.returned = session.returned ++ ready) (once : ready.Nodup)
    (among : forall sequence, sequence ∈ ready -> sequence ∈ gone)
    (books : next.runtime.Books
      (session.outstanding.filter fun sequence => decide (sequence ∉ gone)))
    (counted : next.metrics.inFlight =
      (session.outstanding.filter fun sequence => decide (sequence ∉ gone)).length)
    (underflow : next.metrics.underflow = 0) :
    Inv next ∧ next.outstanding =
      session.outstanding.filter fun sequence => decide (sequence ∉ gone) := by
  have same : next.outstanding =
      session.outstanding.filter fun sequence => decide (sequence ∉ gone) := by
    unfold outstanding
    rw [List.filter_filter, accepted]
    apply List.filter_congr
    intro sequence _
    rw [← Bool.decide_and, decide_eq_decide, settles, not_or]
    exact And.comm
  refine ⟨?_, same⟩
  exact
    { books := by rw [same]; exact books
      counted := by rw [same]; exact counted
      underflow := underflow
      acceptedOnce := by rw [accepted]; exact inv.acceptedOnce
      issued := by rw [accepted, sequences]; exact inv.issued
      settled := by
        intro sequence isSettled
        rw [accepted]
        rcases (settles sequence).mp isSettled with before | isGone
        · exact inv.settled sequence before
        · exact (mem_outstanding.mp (inv.kept_outstanding (member sequence isGone))).1
      returnedOnce := by
        rw [returned, List.nodup_append]
        refine ⟨inv.returnedOnce, once, ?_⟩
        intro left inLeft right inRight same
        have kept := inv.kept_outstanding (member right (among right inRight))
        exact (mem_outstanding.mp kept).2 (Or.inl (same ▸ inLeft)) }

end Session

/-! ## The operations one by one -/

namespace Runtime

theorem Books.kept_nodup {runtime : Runtime T} {ledger : List Nat} (books : Books runtime ledger) :
    runtime.kept.Nodup := by
  unfold kept
  split
  · rename_i isAsync
    rw [books.held isAsync]
    exact books.nodup
  · cases runtime.syncResult with
    | none => exact List.nodup_nil
    | some result => exact List.nodup_singleton _

/-- What a poll takes out. -/
def polled (runtime : Runtime T) (answer : Completion T) : List Nat :=
  if runtime.isAsync then
    match answer with
    | .ready _ sequence | .failed sequence _ => [sequence]
    | .pending | .endOfStream => []
  else (runtime.syncResult.map Prod.fst).toList

private theorem erase_eq_filter {ledger : List Nat} (nodup : ledger.Nodup) (sequence : Nat) :
    ledger.erase sequence = ledger.filter fun other => decide (other ∉ [sequence]) := by
  rw [nodup.erase_eq_filter]
  apply List.filter_congr
  intro other _
  rw [Bool.eq_iff_iff]
  simp

private theorem filter_nil_eq (ledger : List Nat) :
    ledger.filter (fun other => decide (other ∉ ([] : List Nat))) = ledger := by
  simp

theorem ledgerAfterPoll_eq (runtime : Runtime T) {ledger : List Nat} (nodup : ledger.Nodup)
    (answer : Completion T) :
    runtime.ledgerAfterPoll ledger answer =
      ledger.filter fun sequence => decide (sequence ∉ runtime.polled answer) := by
  unfold ledgerAfterPoll polled
  split
  · cases answer with
    | pending => exact (filter_nil_eq ledger).symm
    | endOfStream => exact (filter_nil_eq ledger).symm
    | ready outputs sequence => exact erase_eq_filter nodup sequence
    | failed sequence error => exact erase_eq_filter nodup sequence
  · cases runtime.syncResult with
    | none => exact (filter_nil_eq ledger).symm
    | some result => exact erase_eq_filter nodup result.1

theorem polled_mem {runtime : Runtime T} {answer : Completion T} (obeys : runtime.Answers answer)
    {sequence : Nat} (member : sequence ∈ runtime.polled answer) : sequence ∈ runtime.kept := by
  unfold polled at member
  unfold kept
  split at member
  · rename_i isAsync
    rw [if_pos isAsync]
    cases answer with
    | pending => cases member
    | endOfStream => cases member
    | ready outputs other =>
        rw [List.mem_singleton.mp member]
        exact obeys isAsync
    | failed other error =>
        rw [List.mem_singleton.mp member]
        exact obeys isAsync
  · rename_i isSync
    rw [if_neg isSync]
    exact member

/-- What a poll takes out is what it returns or reports. -/
theorem poll_record (runtime : Runtime T) (metrics : BackendMetrics) (answer : Completion T) :
    Session.readyOf (runtime.poll metrics answer).2.2 ++
        Session.failedOf answer (runtime.poll metrics answer).2.2 =
      runtime.polled answer := by
  unfold poll polled
  split
  · cases answer <;> rfl
  · cases runtime.syncResult <;> rfl

theorem poll_kept {runtime : Runtime T} (nodup : runtime.kept.Nodup) (metrics : BackendMetrics)
    (answer : Completion T) :
    (runtime.poll metrics answer).1.kept =
      runtime.kept.filter fun sequence => decide (sequence ∉ runtime.polled answer) := by
  unfold poll polled
  cases mode : runtime.isAsync with
  | true =>
      have released : forall sequence, (runtime.release sequence).kept =
          runtime.kept.filter fun other => decide (other ∉ [sequence]) := by
        intro sequence
        rw [← erase_eq_filter nodup]
        unfold kept release
        simp only [mode, if_true]
        exact map_eraseP_held runtime.held sequence
      cases answer with
      | pending => exact (filter_nil_eq runtime.kept).symm
      | endOfStream => exact (filter_nil_eq runtime.kept).symm
      | ready outputs sequence => exact released sequence
      | failed sequence error => exact released sequence
  | false =>
      cases slot : runtime.syncResult with
      | none =>
          simp [kept, mode, slot]
      | some result =>
          simp [kept, mode, slot]

theorem poll_underflow {runtime : Runtime T} {metrics : BackendMetrics} {answer : Completion T}
    (counted : runtime.polled answer ≠ [] -> 0 < metrics.inFlight) :
    (runtime.poll metrics answer).2.1.underflow = metrics.underflow := by
  unfold polled at counted
  unfold poll
  cases mode : runtime.isAsync with
  | true =>
      rw [mode] at counted
      cases answer with
      | pending => rfl
      | endOfStream => rfl
      | ready outputs sequence =>
          exact BackendMetrics.finishInFlight_underflow (counted (List.cons_ne_nil _ _))
      | failed sequence error =>
          exact BackendMetrics.finishInFlight_underflow (counted (List.cons_ne_nil _ _))
  | false =>
      rw [mode] at counted
      cases slot : runtime.syncResult with
      | none => rfl
      | some result =>
          rw [slot] at counted
          exact BackendMetrics.finishInFlight_underflow (counted (List.cons_ne_nil _ _))

/-- What a cancel takes out. -/
def dropped (runtime : Runtime T) (metrics : BackendMetrics)
    (answer : Except Error Cancellation) : List Nat :=
  runtime.kept.filter fun sequence => decide (sequence ∉ (runtime.cancel metrics answer).1.kept)

/-- A cancel leaves a part of what was kept. -/
theorem cancel_kept (runtime : Runtime T) (metrics : BackendMetrics)
    (answer : Except Error Cancellation) :
    (runtime.cancel metrics answer).1.kept =
      runtime.kept.filter fun sequence => decide (sequence ∉ runtime.dropped metrics answer) := by
  have part : Exists fun keeps : Nat -> Bool =>
      (runtime.cancel metrics answer).1.kept = runtime.kept.filter keeps := by
    unfold cancel
    cases mode : runtime.isAsync with
    | true =>
        cases answer with
        | error error => exact ⟨fun _ => true, (List.filter_eq_self.mpr fun _ _ => rfl).symm⟩
        | ok cancellation =>
            rcases cancellation with ⟨report, left⟩
            refine ⟨fun sequence => decide (sequence ∈ left), ?_⟩
            simp only [if_true, kept, mode]
            rw [List.filter_map]
            rfl
    | false =>
        cases slot : runtime.syncResult with
        | none => exact ⟨fun _ => true, (List.filter_eq_self.mpr fun _ _ => rfl).symm⟩
        | some result =>
            refine ⟨fun _ => false, ?_⟩
            simp [kept, mode]
  rcases part with ⟨keeps, same⟩
  rw [dropped, same]
  apply List.filter_congr
  intro sequence member
  rw [Bool.eq_iff_iff, decide_eq_true_eq]
  simp [member]

theorem ledgerAfterCancel_eq {runtime : Runtime T} {ledger : List Nat}
    (books : Books runtime ledger) (metrics : BackendMetrics)
    (answer : Except Error Cancellation) :
    runtime.ledgerAfterCancel ledger answer =
      ledger.filter fun sequence => decide (sequence ∉ runtime.dropped metrics answer) := by
  cases mode : runtime.isAsync with
  | true =>
      -- an asynchronous backend keeps exactly the ledger
      have same := runtime.cancel_kept metrics answer
      have held : runtime.kept = ledger := by
        rw [kept, if_pos mode]
        exact books.held mode
      rw [held] at same
      rw [← same]
      unfold ledgerAfterCancel cancel kept
      rw [if_pos mode, if_pos mode]
      cases answer with
      | error error =>
          dsimp only
          rw [if_pos mode, books.held mode]
      | ok cancellation =>
          dsimp only
          rw [if_pos mode, ← books.held mode, List.filter_map]
          rfl
  | false =>
      unfold ledgerAfterCancel dropped cancel kept
      simp only [mode, Bool.false_eq_true, if_false]
      cases slot : runtime.syncResult with
      | none => simp
      | some result =>
          dsimp only
          rw [erase_eq_filter books.nodup]
          simp

theorem cancel_underflow {runtime : Runtime T} {ledger : List Nat} (books : Books runtime ledger)
    {metrics : BackendMetrics} (counted : metrics.inFlight = ledger.length)
    {answer : Except Error Cancellation} (obeys : runtime.Reports answer) :
    (runtime.cancel metrics answer).2.1.underflow = metrics.underflow := by
  cases mode : runtime.isAsync with
  | true =>
      cases answer with
      | error error =>
          unfold cancel
          rw [if_pos mode]
      | ok cancellation =>
          rcases cancellation with ⟨report, left⟩
          have few : report.released <= metrics.inFlight := by
            have whole := obeys mode
            have size : (runtime.held.countP fun entry => decide (entry.1 ∉ left)) <=
                runtime.held.length := List.countP_le_length
            have length : runtime.held.length = ledger.length := by
              rw [← books.held mode, List.length_map]
            unfold CancelReport.released
            omega
          unfold cancel
          rw [if_pos mode]
          change (BackendMetrics.times report.failed BackendMetrics.recordBackendError
            (BackendMetrics.times report.released BackendMetrics.finishInFlight
              metrics)).underflow = _
          rw [BackendMetrics.times_recordBackendError_underflow,
            BackendMetrics.times_finishInFlight_underflow few]
  | false =>
      unfold cancel
      rw [mode, if_neg Bool.false_ne_true]
      cases slot : runtime.syncResult with
      | none => rfl
      | some result =>
          have positive := List.length_pos_of_mem (books.slot mode result.1 result.2 slot)
          exact BackendMetrics.finishInFlight_underflow (by omega)

theorem submit_kept (runtime : Runtime T) (metrics : BackendMetrics) (inputs : List T)
    (answer : Except Error (List T)) :
    ((Exists fun error => (runtime.submit metrics inputs answer).2.2 = .error error) ∧
        (runtime.submit metrics inputs answer).1.kept = runtime.kept) ∨
      ((runtime.submit metrics inputs answer).2.2 = .ok runtime.nextSequence ∧
        (runtime.submit metrics inputs answer).1.kept =
          (if runtime.isAsync then runtime.kept ++ [runtime.nextSequence]
            else [runtime.nextSequence]) ∧
        runtime.currentInFlight < runtime.maxInFlight ∧ runtime.nextSequence < u64Max ∧
        Exists fun outputs => answer = .ok outputs) := by
  unfold submit
  by_cases full : runtime.maxInFlight <= runtime.currentInFlight
  · rw [if_pos full]
    exact Or.inl ⟨⟨_, rfl⟩, rfl⟩
  rw [if_neg full]
  by_cases exhausted : u64Max < runtime.nextSequence + 1
  · rw [if_pos exhausted]
    exact Or.inl ⟨⟨_, rfl⟩, rfl⟩
  rw [if_neg exhausted]
  cases answer with
  | error error => exact Or.inl ⟨⟨_, rfl⟩, rfl⟩
  | ok outputs =>
      refine Or.inr ?_
      cases mode : runtime.isAsync with
      | true =>
          refine ⟨rfl, ?_, by omega, by omega, outputs, rfl⟩
          simp [kept, mode]
      | false =>
          refine ⟨rfl, ?_, by omega, by omega, outputs, rfl⟩
          simp [kept]

end Runtime

namespace Session

section Step

variable {session next : Session T}

theorem readyOf_nodup (result : Except Error (InferPoll T)) : (readyOf result).Nodup := by
  unfold readyOf
  split
  · exact List.nodup_singleton _
  · exact List.nodup_nil
  · exact List.nodup_nil
  · exact List.nodup_nil

theorem poll_moves (inv : Inv session) {answer : Completion T}
    (stepped : step session (.poll answer) = some next) :
    Inv next ∧ Moves session (.poll answer) next := by
  simp only [step] at stepped
  split at stepped
  · rename_i obeys
    have isNext := Option.some.inj stepped
    have runtime : next.runtime = (session.runtime.poll session.metrics answer).1 := by
      rw [← isNext]
    have metrics : next.metrics = (session.runtime.poll session.metrics answer).2.1 := by
      rw [← isNext]
    rcases Runtime.poll_books inv.books session.metrics obeys with ⟨books, _, sequences, effect⟩
    rw [session.runtime.ledgerAfterPoll_eq inv.books.nodup, ← runtime] at books
    rw [session.runtime.ledgerAfterPoll_eq inv.books.nodup, ← metrics] at effect
    rw [← runtime] at sequences
    have member : forall sequence, sequence ∈ session.runtime.polled answer ->
        sequence ∈ session.runtime.kept := fun _ => Runtime.polled_mem obeys
    have record := session.runtime.poll_record session.metrics answer
    have returned : next.returned =
        session.returned ++ readyOf (session.runtime.poll session.metrics answer).2.2 := by
      rw [← isNext]
    have among : forall sequence,
        sequence ∈ readyOf (session.runtime.poll session.metrics answer).2.2 ->
          sequence ∈ session.runtime.polled answer := by
      intro sequence ready
      rw [← record]
      exact List.mem_append_left _ ready
    have settles : forall sequence, next.Settled sequence <->
        session.Settled sequence ∨ sequence ∈ session.runtime.polled answer := by
      intro sequence
      rw [← record, ← isNext]
      simp only [Settled, List.mem_append]
      tauto
    have counted : session.runtime.polled answer ≠ [] -> 0 < session.metrics.inFlight := by
      intro some_
      rcases List.exists_mem_of_ne_nil _ some_ with ⟨sequence, isPolled⟩
      rw [inv.counted]
      exact List.length_pos_of_mem (inv.kept_outstanding (member sequence isPolled))
    have released := inv.release member (by rw [← isNext]) sequences settles returned
      (readyOf_nodup _) among books ?_ ?_
    · refine ⟨released.1, .releases _ member released.2 ?_⟩
      rw [runtime]
      exact Runtime.poll_kept inv.books.kept_nodup session.metrics answer
    · rcases effect with ⟨same, unchanged⟩ | ⟨sequence, isLedger, same, unchanged⟩
      · rw [unchanged, same]
        exact inv.counted
      · rw [unchanged, same, List.length_erase_of_mem isLedger, inv.counted]
    · rw [metrics, Runtime.poll_underflow counted]
      exact inv.underflow
  · cases stepped

theorem cancel_moves (inv : Inv session) {answer : Except Error Cancellation}
    (stepped : step session (.cancel answer) = some next) :
    Inv next ∧ Moves session (.cancel answer) next := by
  simp only [step] at stepped
  split at stepped
  · rename_i obeys
    have isNext := Option.some.inj stepped
    have runtime : next.runtime = (session.runtime.cancel session.metrics answer).1 := by
      rw [← isNext]
    have metrics : next.metrics = (session.runtime.cancel session.metrics answer).2.1 := by
      rw [← isNext]
    rcases Runtime.cancel_books inv.books session.metrics obeys with
      ⟨books, _, sequences, shorter, unchanged⟩
    rw [Runtime.ledgerAfterCancel_eq inv.books session.metrics answer, ← runtime] at books
    rw [Runtime.ledgerAfterCancel_eq inv.books session.metrics answer] at shorter
    rw [Runtime.ledgerAfterCancel_eq inv.books session.metrics answer, ← metrics] at unchanged
    rw [← runtime] at sequences
    have member : forall sequence, sequence ∈ session.runtime.dropped session.metrics answer ->
        sequence ∈ session.runtime.kept := fun _ => List.mem_of_mem_filter
    have settles : forall sequence, next.Settled sequence <->
        session.Settled sequence ∨ sequence ∈ session.runtime.dropped session.metrics answer := by
      intro sequence
      rw [← isNext]
      simp only [Settled, List.mem_append]
      rw [Runtime.dropped]
      tauto
    have returned : next.returned = session.returned ++ [] := by
      rw [← isNext, List.append_nil]
    have released := inv.release member (by rw [← isNext]) sequences settles returned
      List.nodup_nil (fun _ impossible => by cases impossible) books ?_ ?_
    · refine ⟨released.1, .releases _ member released.2 ?_⟩
      rw [runtime]
      exact session.runtime.cancel_kept session.metrics answer
    · rw [unchanged, inv.counted]
      omega
    · rw [metrics, Runtime.cancel_underflow inv.books inv.counted obeys]
      exact inv.underflow
  · cases stepped

theorem submit_moves (inv : Inv session) {inputs : List T} {answer : Except Error (List T)}
    (stepped : step session (.submit inputs answer) = some next) :
    Inv next ∧ Moves session (.submit inputs answer) next := by
  simp only [step] at stepped
  have isNext := Option.some.inj stepped
  have runtime : next.runtime = (session.runtime.submit session.metrics inputs answer).1 := by
    rw [← isNext]
  have metrics : next.metrics = (session.runtime.submit session.metrics inputs answer).2.1 := by
    rw [← isNext]
  have accepted : next.accepted = session.accepted ++
      acceptedOf (session.runtime.submit session.metrics inputs answer).2.2 := by
    rw [← isNext]
  have returned : next.returned = session.returned := by
    rw [← isNext]
  have settled : next.Settled = session.Settled := by
    rw [← isNext]
    rfl
  rcases Runtime.submit_books inv.books session.metrics inputs answer with ⟨books, _, effect⟩
  rw [← runtime] at books
  rw [← runtime, ← metrics] at effect
  rcases session.runtime.submit_kept session.metrics inputs answer with
    ⟨⟨error, refused⟩, kept⟩ | ⟨taken, kept, admitted, room, outputs, rfl⟩
  · rw [refused, acceptedOf, List.append_nil] at accepted
    rw [refused] at books effect
    have outstanding : next.outstanding = session.outstanding := by
      unfold Session.outstanding
      simp only [accepted, settled]
    rw [← runtime] at kept
    rcases effect with ⟨unchanged, later, _⟩ | ⟨_, _, impossible⟩
    · refine ⟨?_, .idle outstanding kept⟩
      exact
        { books := by rw [outstanding]; exact books
          counted := by rw [outstanding, unchanged]; exact inv.counted
          underflow := by rw [unchanged]; exact inv.underflow
          acceptedOnce := by rw [accepted]; exact inv.acceptedOnce
          issued := by
            rw [accepted]
            exact fun sequence member => Nat.lt_of_lt_of_le (inv.issued sequence member) later
          settled := by rw [accepted, settled]; exact inv.settled
          returnedOnce := by rw [returned]; exact inv.returnedOnce }
    · cases impossible
  · rw [taken, acceptedOf] at accepted
    rw [taken] at books effect
    have unsettled : ¬ session.Settled session.runtime.nextSequence := by
      intro isSettled
      exact Nat.lt_irrefl _ (inv.issued _ (inv.settled _ isSettled))
    have outstanding : next.outstanding =
        session.outstanding ++ [session.runtime.nextSequence] := by
      unfold Session.outstanding
      simp only [accepted, settled, List.filter_append]
      simp [unsettled]
    rw [← runtime] at kept
    rcases effect with ⟨_, _, _, impossible⟩ | ⟨recorded, later, _⟩
    · cases impossible
    · refine ⟨?_, .enters outstanding kept admitted room⟩
      have bounded : session.metrics.inFlight < u64Max := by
        rw [inv.counted]
        exact Nat.lt_of_le_of_lt inv.books.short room
      exact
        { books := by rw [outstanding]; exact books
          counted := by
            rw [outstanding, recorded, BackendMetrics.recordSubmission_inFlight _ bounded,
              inv.counted, List.length_append, List.length_singleton]
          underflow := by
            rw [recorded]
            exact inv.underflow
          acceptedOnce := by
            rw [accepted, List.nodup_append]
            refine ⟨inv.acceptedOnce, List.nodup_singleton _, ?_⟩
            intro left inLeft right inRight same
            have before := inv.issued left inLeft
            rw [same, List.mem_singleton.mp inRight] at before
            exact Nat.lt_irrefl _ before
          issued := by
            intro sequence member
            rw [accepted] at member
            rw [later]
            rcases List.mem_append.mp member with before | isNew
            · exact Nat.lt_succ_of_lt (inv.issued sequence before)
            · rw [List.mem_singleton.mp isNew]
              exact Nat.lt_succ_self _
          settled := by
            rw [accepted, settled]
            exact fun sequence isSettled => List.mem_append_left _ (inv.settled sequence isSettled)
          returnedOnce := by rw [returned]; exact inv.returnedOnce }

/-- All that one operation of the caller does. -/
theorem step_moves (inv : Inv session) {label : Label T}
    (stepped : step session label = some next) :
    Inv next ∧ Moves session label next := by
  cases label with
  | submit inputs answer => exact submit_moves inv stepped
  | poll answer => exact poll_moves inv stepped
  | cancel answer => exact cancel_moves inv stepped

end Step

/-! ## In-flight accounting -/

/-- After every run of submissions, polls and cancels over a backend that
keeps its contract, the in-flight counter is the number of outstanding
submissions, and it has never underflowed. -/
theorem inFlight_eq_outstanding (isAsync : Bool) (backendMax : Nat) {labels : List (Label T)}
    {final : Session T} (reached : machine.run (start isAsync backendMax) labels = some final) :
    final.metrics.inFlight = final.outstanding.length ∧ final.metrics.underflow = 0 := by
  have inv := machine.run_invariant Inv (fun _ _ _ holds stepped => (step_moves holds stepped).1)
    (start_inv isAsync backendMax) ⟨labels, reached⟩
  exact ⟨inv.counted, inv.underflow⟩

/-! ## When nothing is lost -/

/-- Nothing is lost exactly if all that is outstanding is still kept. -/
theorem Inv.lossless_iff_kept {session : Session T} (inv : Inv session) :
    session.Lossless <->
      forall sequence, sequence ∈ session.outstanding -> sequence ∈ session.runtime.kept := by
  constructor
  · intro lossless sequence member
    rcases mem_outstanding.mp member with ⟨isAccepted, unsettled⟩
    have unreturned : sequence ∉ session.returned := fun returned => unsettled (Or.inl returned)
    rcases lossless sequence isAccepted (fun failed => unsettled (Or.inr (Or.inl failed)))
      (fun cancelled => unsettled (Or.inr (Or.inr cancelled))) with once | ⟨isKept, _⟩
    · rw [List.count_eq_zero_of_not_mem unreturned] at once
      cases once
    · exact isKept
  · intro keeps sequence isAccepted unfailed uncancelled
    by_cases returned : sequence ∈ session.returned
    · exact Or.inl (List.count_eq_one_of_mem inv.returnedOnce returned)
    · refine Or.inr ⟨keeps sequence (mem_outstanding.mpr ⟨isAccepted, ?_⟩),
        List.count_eq_zero_of_not_mem returned⟩
      rintro (isReturned | isFailed | isCancelled)
      · exact returned isReturned
      · exact unfailed isFailed
      · exact uncancelled isCancelled

/-- What is lost once stays lost. -/
theorem lost_moves {session next : Session T} (inv : Inv session) {label : Label T}
    (moves : Moves session label next) {sequence : Nat} (member : sequence ∈ session.outstanding)
    (lost : sequence ∉ session.runtime.kept) :
    sequence ∈ next.outstanding ∧ sequence ∉ next.runtime.kept := by
  cases moves with
  | idle outstanding kept =>
      rw [outstanding, kept]
      exact ⟨member, lost⟩
  | enters outstanding kept admitted room =>
      rw [outstanding, kept]
      have old : sequence ≠ session.runtime.nextSequence :=
        Nat.ne_of_lt (inv.issued sequence (mem_outstanding.mp member).1)
      refine ⟨List.mem_append_left _ member, ?_⟩
      split
      · rw [List.mem_append, List.mem_singleton]
        exact not_or.mpr ⟨lost, old⟩
      · rw [List.mem_singleton]
        exact old
  | releases gone among outstanding kept =>
      rw [outstanding, kept]
      refine ⟨List.mem_filter.mpr ⟨member, decide_eq_true fun isGone => lost (among _ isGone)⟩, ?_⟩
      exact fun isKept => lost (List.mem_of_mem_filter isKept)

/-- A step that overwrites the slot loses what was in it. -/
theorem overwrites_loses {session next : Session T} (inv : Inv session) {label : Label T}
    (overwrites : session.Overwrites label) (stepped : step session label = some next) :
    Exists fun sequence => sequence ∈ next.outstanding ∧ sequence ∉ next.runtime.kept := by
  cases label with
  | poll answer => exact overwrites.elim
  | cancel answer => exact overwrites.elim
  | submit inputs answer =>
      rcases overwrites with ⟨isSync, occupied, several, room, isOk⟩
      rcases Option.isSome_iff_exists.mp occupied with ⟨⟨sequence, results⟩, slot⟩
      cases answer with
      | error error => cases isOk
      | ok outputs =>
          have count : session.runtime.currentInFlight = 1 := by
            simp [Runtime.currentInFlight, isSync, slot]
          have taken := Runtime.submit_ok (count ▸ several) session.metrics inputs outputs
          rw [if_neg (by omega)] at taken
          rcases session.runtime.submit_kept session.metrics inputs (.ok outputs) with
            ⟨⟨error, refused⟩, _⟩ | ⟨_, kept, _⟩
          · rw [taken] at refused
            cases refused
          rw [isSync, if_neg Bool.false_ne_true] at kept
          simp only [step] at stepped
          have isNext := Option.some.inj stepped
          have member := inv.books.slot isSync sequence results slot
          refine ⟨sequence, ?_, ?_⟩
          · rcases mem_outstanding.mp member with ⟨isAccepted, unsettled⟩
            rw [← isNext, mem_outstanding]
            exact ⟨List.mem_append_left _ isAccepted, unsettled⟩
          · rw [← isNext]
            dsimp only
            rw [kept, List.mem_singleton]
            exact Nat.ne_of_lt (inv.books.issued sequence member)

/-- A step that does not overwrite the slot loses nothing. -/
theorem spared_keeps {session next : Session T} {label : Label T}
    (spared : ¬ session.Overwrites label) (moves : Moves session label next)
    (keeps : forall sequence, sequence ∈ session.outstanding -> sequence ∈ session.runtime.kept) :
    forall sequence, sequence ∈ next.outstanding -> sequence ∈ next.runtime.kept := by
  cases moves with
  | idle outstanding kept =>
      rw [outstanding, kept]
      exact keeps
  | enters outstanding kept admitted room =>
      rw [outstanding, kept]
      intro sequence member
      cases mode : session.runtime.isAsync with
      | true =>
          rw [if_pos rfl]
          rcases List.mem_append.mp member with before | isNew
          · exact List.mem_append_left _ (keeps sequence before)
          · exact List.mem_append_right _ isNew
      | false =>
          rw [if_neg Bool.false_ne_true]
          rcases List.mem_append.mp member with before | isNew
          · -- the slot was empty, so nothing was outstanding
            have isKept := keeps sequence before
            simp only [Runtime.kept, mode, Bool.false_eq_true, if_false,
              Option.mem_toList] at isKept
            rcases Option.map_eq_some_iff.mp isKept with ⟨result, slot, _⟩
            simp only [Runtime.currentInFlight, mode, slot, Bool.false_eq_true, if_false,
              Option.isSome_some, if_true] at admitted
            exact absurd ⟨mode, by rw [slot]; rfl, admitted, room, rfl⟩ spared
          · exact isNew
  | releases gone among outstanding kept =>
      rw [outstanding, kept]
      intro sequence member
      rcases List.mem_filter.mp member with ⟨before, stays⟩
      exact List.mem_filter.mpr ⟨keeps sequence before, stays⟩

/-- No submission is lost in a run exactly if no step of it submits to a
synchronous backend over an occupied slot. -/
theorem lossless_iff_spared (isAsync : Bool) (backendMax : Nat) {labels : List (Label T)}
    {final : Session T} (reached : machine.run (start isAsync backendMax) labels = some final) :
    final.Lossless <->
      machine.Meets (fun session label => ¬ session.Overwrites label)
        (start isAsync backendMax) labels := by
  have holds : forall {labels : List (Label T)} {session : Session T},
      machine.run (start isAsync backendMax) labels = some session -> Inv session :=
    fun run => machine.run_invariant Inv
      (fun _ _ _ inv stepped => (step_moves inv stepped).1) (start_inv isAsync backendMax) ⟨_, run⟩
  rw [(holds reached).lossless_iff_kept]
  constructor
  · intro keeps
    by_contra broken
    rcases machine.exists_violation reached broken with
      ⟨before, label, after, middle, next, rfl, atMiddle, overwrites, stepped, rest⟩
    rw [not_not] at overwrites
    have inv := holds atMiddle
    rcases overwrites_loses inv overwrites stepped with ⟨sequence, member, lost⟩
    have final_ := machine.run_invariant
      (fun session => Inv session ∧ sequence ∈ session.outstanding ∧
        sequence ∉ session.runtime.kept)
      (fun _ _ _ both step => ⟨(step_moves both.1 step).1,
        lost_moves both.1 (step_moves both.1 step).2 both.2.1 both.2.2⟩)
      ⟨(step_moves inv stepped).1, member, lost⟩ ⟨after, rest⟩
    exact final_.2.2 (keeps sequence final_.2.1)
  · intro spared
    have final_ := machine.run_invariant_of_meets
      (fun session => Inv session ∧ forall sequence, sequence ∈ session.outstanding ->
        sequence ∈ session.runtime.kept)
      (fun _ _ _ both admitted step => ⟨(step_moves both.1 step).1,
        spared_keeps admitted (step_moves both.1 step).2 both.2⟩)
      ⟨start_inv isAsync backendMax, fun _ impossible => by cases impossible⟩ spared reached
    exact final_.2

/-! ## Two sessions -/

/-- An asynchronous session with a result out of order, an error, a refused
submission and a cancel that leaves one submission running. -/
def mixedSession : List (Label Nat) :=
  [.submit [10] (.ok []), .submit [11] (.ok []), .submit [12] (.error (.other "busy")),
    .submit [13] (.ok []), .poll (.ready [1] 1), .poll .pending,
    .poll (.failed 0 (.other "device")), .submit [14] (.ok []), .submit [15] (.ok []),
    .cancel (.ok ⟨⟨3, 1, 1, 0, 1⟩, [4]⟩), .poll (.ready [4] 4)]

theorem mixedSession_counted :
    Exists fun final => machine.run (start true 3) mixedSession = some final ∧
      final.accepted = [0, 1, 3, 4, 5] ∧
      final.metrics.inFlight = final.outstanding.length ∧ final.metrics.underflow = 0 := by
  have facts : (machine.run (start true 3) mixedSession).map Session.accepted =
      some [0, 1, 3, 4, 5] := by
    decide
  rcases Option.map_eq_some_iff.mp facts with ⟨final, reached, accepted⟩
  exact ⟨final, reached, accepted, inFlight_eq_outstanding true 3 reached⟩

theorem mixedSession_lossless :
    Exists fun final => machine.run (start true 3) mixedSession = some final ∧
      final.Lossless := by
  have facts : (machine.run (start true 3) mixedSession).isSome = true := by
    decide
  rcases Option.isSome_iff_exists.mp facts with ⟨final, reached⟩
  exact ⟨final, reached, (lossless_iff_spared true 3 reached).mpr (by decide)⟩

/-- Two submissions to a synchronous backend that admits two at a time. -/
def overwritten : List (Label Nat) :=
  [.submit [10] (.ok [20]), .submit [11] (.ok [21]), .poll .pending, .poll .pending]

theorem first_submission_lost :
    Exists fun final => machine.run (start false 2) overwritten = some final ∧
      final.accepted = [0, 1] ∧ final.returned = [1] ∧ ¬ final.Lossless := by
  have facts : (machine.run (start false 2) overwritten).map (fun final =>
      (final.accepted, final.returned, final.failed, final.cancelled, final.runtime.kept)) =
      some ([0, 1], [1], [], [], []) := by
    decide
  rcases Option.map_eq_some_iff.mp facts with ⟨final, reached, record⟩
  simp only [Prod.mk.injEq] at record
  rcases record with ⟨accepted, returned, failed, cancelled, kept⟩
  refine ⟨final, reached, accepted, returned, ?_⟩
  intro lossless
  have first := lossless 0 (by rw [accepted]; exact List.mem_cons_self)
    (by rw [failed]; exact List.not_mem_nil) (by rw [cancelled]; exact List.not_mem_nil)
  rw [returned, kept] at first
  revert first
  decide

end Session
end Backend
end DyunGu
