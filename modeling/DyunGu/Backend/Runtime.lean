import DyunGu.Backend.Metrics
import Mathlib.Data.List.Nodup

namespace DyunGu
namespace Backend

variable {T : Type}

/-!
# The runtime over one backend

A `Runtime` wraps a backend behind submit, poll and cancel.  An asynchronous
backend keeps the submissions itself; a synchronous one computes at once, and
the runtime keeps the one result in a slot until it is polled.

What the backend answers is an argument of each operation, so every backend
is covered.  An answer names the sequence it speaks about, and the runtime
passes it on without looking; that a backend answers only for submissions it
holds is its contract, which is stated where it is needed.
-/

inductive Error where
  | backend (message : String)
  | sequenceExhausted
  | other (message : String)
deriving DecidableEq, Repr

namespace Error

def toText : Error -> String
  | .backend message => "backend error: " ++ message
  | .sequenceExhausted => "sequence number space exhausted while in-flight requests remain"
  | .other message => message

/-- The refusal of a submission that exceeds the runtime's own bound. -/
def inFlightLimit : Error :=
  .backend "inference in-flight limit reached"

end Error

/-- `held` is what the backend has in flight, with the inputs of each
submission; `syncResult` is the slot of a synchronous backend. -/
structure Runtime (T : Type) where
  isAsync : Bool
  held : List (Nat × List T)
  maxInFlight : Nat
  nextSequence : Nat
  syncResult : Option (Nat × List T)
deriving DecidableEq, Repr

inductive InferPoll (T : Type) where
  | pending
  | ready (outputs : List T) (sequence : Nat)
  | endOfStream
deriving DecidableEq, Repr

/-- What `poll` of an asynchronous backend answers.  A failed submission is
released by the backend like a completed one. -/
inductive Completion (T : Type) where
  | pending
  | ready (outputs : List T) (sequence : Nat)
  | endOfStream
  | failed (sequence : Nat) (error : Error)
deriving DecidableEq, Repr

structure CancelReport where
  requested : Nat
  completed : Nat
  abandoned : Nat
  failed : Nat
  unsupported : Nat
deriving DecidableEq, Repr

namespace CancelReport

def none : CancelReport where
  requested := 0
  completed := 0
  abandoned := 0
  failed := 0
  unsupported := 0

def released (report : CancelReport) : Nat :=
  min (report.completed + report.abandoned) u64Max

end CancelReport

/-- What `cancel` of an asynchronous backend answers: its report, and the
submissions that it goes on with. -/
structure Cancellation where
  report : CancelReport
  kept : List Nat
deriving DecidableEq, Repr

namespace Runtime

/-- A runtime over a freshly initialised backend. -/
def fresh (isAsync : Bool) (backendMax : Nat) : Runtime T where
  isAsync := isAsync
  held := []
  maxInFlight := max backendMax 1
  nextSequence := 0
  syncResult := none

/-- What the admission check of `submit` counts. -/
def currentInFlight (runtime : Runtime T) : Nat :=
  if runtime.isAsync then runtime.held.length
  else if runtime.syncResult.isSome then 1 else 0

/-- `answer` is the outcome of the backend's own submit, or the outputs of a
synchronous run.  A refused submission has used up its sequence number. -/
def submit (runtime : Runtime T) (metrics : BackendMetrics) (inputs : List T)
    (answer : Except Error (List T)) : Runtime T × BackendMetrics × Except Error Nat :=
  if runtime.maxInFlight <= runtime.currentInFlight then
    (runtime, metrics, .error Error.inFlightLimit)
  else if u64Max < runtime.nextSequence + 1 then (runtime, metrics, .error .sequenceExhausted)
  else
    let sequence := runtime.nextSequence
    let counted := { runtime with nextSequence := sequence + 1 }
    match answer with
    | .error error => (counted, metrics, .error error)
    | .ok outputs =>
        if runtime.isAsync then
          ({ counted with held := runtime.held ++ [(sequence, inputs)] },
            metrics.recordSubmission, .ok sequence)
        else
          ({ counted with syncResult := some (sequence, outputs) },
            metrics.recordSubmission, .ok sequence)

/-- The backend's side of releasing one submission. -/
def release (runtime : Runtime T) (sequence : Nat) : Runtime T :=
  { runtime with held := runtime.held.eraseP fun entry => decide (entry.1 = sequence) }

def poll (runtime : Runtime T) (metrics : BackendMetrics) (answer : Completion T) :
    Runtime T × BackendMetrics × Except Error (InferPoll T) :=
  if runtime.isAsync then
    match answer with
    | .pending => (runtime, metrics.recordPollPending, .ok .pending)
    | .ready outputs sequence =>
        (runtime.release sequence, metrics.finishInFlight, .ok (.ready outputs sequence))
    | .endOfStream => (runtime, metrics, .ok .endOfStream)
    | .failed sequence error =>
        (runtime.release sequence, metrics.finishInFlight.recordBackendError, .error error)
  else
    match runtime.syncResult with
    | some (sequence, outputs) =>
        ({ runtime with syncResult := none }, metrics.finishInFlight,
          .ok (.ready outputs sequence))
    | none => (runtime, metrics, .ok .pending)

def cancel (runtime : Runtime T) (metrics : BackendMetrics)
    (answer : Except Error Cancellation) :
    Runtime T × BackendMetrics × Except Error CancelReport :=
  if runtime.isAsync then
    match answer with
    | .error error => (runtime, metrics, .error error)
    | .ok ⟨report, kept⟩ =>
        ({ runtime with held := runtime.held.filter fun entry => decide (entry.1 ∈ kept) },
          (BackendMetrics.times report.failed BackendMetrics.recordBackendError
            (BackendMetrics.times report.released BackendMetrics.finishInFlight
              metrics)).recordCancel,
          .ok report)
  else
    match runtime.syncResult with
    | some _ =>
        ({ runtime with syncResult := none }, metrics.finishInFlight.recordCancel,
          .ok { CancelReport.none with requested := 1, unsupported := 1 })
    | none => (runtime, metrics, .ok CancelReport.none)

/-! ## The backend's contract and the ledger of a runtime -/

/-- A backend completes or fails only submissions that it holds. -/
def Answers (runtime : Runtime T) : Completion T -> Prop
  | .ready _ sequence | .failed sequence _ =>
      runtime.isAsync = true -> sequence ∈ runtime.held.map Prod.fst
  | .pending | .endOfStream => True

instance (runtime : Runtime T) (answer : Completion T) :
    Decidable (runtime.Answers answer) := by
  cases answer <;> unfold Answers <;> infer_instance

/-- A backend reports as completed or abandoned what a cancel releases. -/
def Reports (runtime : Runtime T) : Except Error Cancellation -> Prop
  | .ok ⟨report, kept⟩ => runtime.isAsync = true ->
      report.completed + report.abandoned =
        runtime.held.countP fun entry => decide (entry.1 ∉ kept)
  | .error _ => True

instance (runtime : Runtime T) (answer : Except Error Cancellation) :
    Decidable (runtime.Reports answer) := by
  cases answer <;> unfold Reports <;> infer_instance

/-- The ledger holds the sequences that were accepted and neither returned
nor cancelled.  These functions say what each operation does to it. -/
def ledgerAfterSubmit (ledger : List Nat) : Except Error Nat -> List Nat
  | .ok sequence => ledger ++ [sequence]
  | .error _ => ledger

def ledgerAfterPoll (runtime : Runtime T) (ledger : List Nat) (answer : Completion T) :
    List Nat :=
  if runtime.isAsync then
    match answer with
    | .ready _ sequence | .failed sequence _ => ledger.erase sequence
    | .pending | .endOfStream => ledger
  else
    match runtime.syncResult with
    | some (sequence, _) => ledger.erase sequence
    | none => ledger

def ledgerAfterCancel (runtime : Runtime T) (ledger : List Nat)
    (answer : Except Error Cancellation) : List Nat :=
  if runtime.isAsync then
    match answer with
    | .ok ⟨_, kept⟩ => ledger.filter fun sequence => decide (sequence ∈ kept)
    | .error _ => ledger
  else
    match runtime.syncResult with
    | some (sequence, _) => ledger.erase sequence
    | none => ledger

/-- How the ledger and the state of a runtime fit together.  An asynchronous
backend holds exactly the ledger; the slot of a synchronous one is only one
of its entries, since a second submission overwrites the slot. -/
structure Books (runtime : Runtime T) (ledger : List Nat) : Prop where
  held : runtime.isAsync = true -> runtime.held.map Prod.fst = ledger
  slot : runtime.isAsync = false -> forall sequence outputs,
    runtime.syncResult = some (sequence, outputs) -> sequence ∈ ledger
  issued : forall sequence, sequence ∈ ledger -> sequence < runtime.nextSequence
  nodup : ledger.Nodup
  short : ledger.length <= runtime.nextSequence
  sequences : runtime.nextSequence <= u64Max

theorem fresh_books (isAsync : Bool) (backendMax : Nat) :
    Books (fresh isAsync backendMax : Runtime T) [] where
  held := fun _ => rfl
  slot := fun _ _ _ impossible => by cases impossible
  issued := fun _ impossible => by cases impossible
  nodup := List.nodup_nil
  short := Nat.le_refl _
  sequences := Nat.zero_le _

theorem map_eraseP_held (held : List (Nat × List T)) (sequence : Nat) :
    (held.eraseP fun entry => decide (entry.1 = sequence)).map Prod.fst =
      (held.map Prod.fst).erase sequence := by
  induction held with
  | nil => rfl
  | cons entry held ih =>
      by_cases same : entry.1 = sequence
      · simp [same]
      · simp [same, ih]

theorem Books.erase {runtime : Runtime T} {ledger : List Nat} (books : Books runtime ledger)
    {next : Runtime T} (sequence : Nat)
    (held : next.isAsync = true -> next.held.map Prod.fst = ledger.erase sequence)
    (slot : next.isAsync = false -> next.syncResult = none)
    (issued : next.nextSequence = runtime.nextSequence) :
    Books next (ledger.erase sequence) where
  held := held
  slot := fun isSync _ _ occupied => by
    rw [slot isSync] at occupied
    cases occupied
  issued := fun other member => by
    rw [issued]
    exact books.issued other (List.mem_of_mem_erase member)
  nodup := books.nodup.erase sequence
  short := by
    rw [issued]
    exact Nat.le_trans List.length_erase_le books.short
  sequences := by
    rw [issued]
    exact books.sequences

/-- What a submission does: it is refused with nothing changed but perhaps
the sequence counter, or it is entered under the next sequence. -/
theorem submit_books {runtime : Runtime T} {ledger : List Nat} (books : Books runtime ledger)
    (metrics : BackendMetrics) (inputs : List T) (answer : Except Error (List T)) :
    Books (runtime.submit metrics inputs answer).1
        (ledgerAfterSubmit ledger (runtime.submit metrics inputs answer).2.2) ∧
      (runtime.submit metrics inputs answer).1.maxInFlight = runtime.maxInFlight ∧
      (((runtime.submit metrics inputs answer).2.1 = metrics ∧
          runtime.nextSequence <= (runtime.submit metrics inputs answer).1.nextSequence ∧
          Exists fun error => (runtime.submit metrics inputs answer).2.2 = .error error) ∨
        ((runtime.submit metrics inputs answer).2.1 = metrics.recordSubmission ∧
          (runtime.submit metrics inputs answer).1.nextSequence = runtime.nextSequence + 1 ∧
          (runtime.submit metrics inputs answer).2.2 = .ok runtime.nextSequence)) := by
  have fresh_ : runtime.nextSequence ∉ ledger := by
    intro member
    exact Nat.lt_irrefl _ (books.issued _ member)
  have appended : (ledger ++ [runtime.nextSequence]).Nodup := by
    rw [List.nodup_append]
    refine ⟨books.nodup, List.nodup_singleton _, ?_⟩
    intro first member last only same
    rw [List.mem_singleton.mp only] at same
    exact fresh_ (same ▸ member)
  unfold submit
  by_cases full : runtime.maxInFlight <= runtime.currentInFlight
  · rw [if_pos full]
    exact ⟨books, rfl, Or.inl ⟨rfl, Nat.le_refl _, _, rfl⟩⟩
  rw [if_neg full]
  by_cases exhausted : u64Max < runtime.nextSequence + 1
  · rw [if_pos exhausted]
    exact ⟨books, rfl, Or.inl ⟨rfl, Nat.le_refl _, _, rfl⟩⟩
  rw [if_neg exhausted]
  cases answer with
  | error error =>
      refine ⟨?_, rfl, Or.inl ⟨rfl, Nat.le_succ _, _, rfl⟩⟩
      exact
        { held := books.held, slot := books.slot
          issued := fun sequence member => Nat.lt_succ_of_lt (books.issued sequence member)
          nodup := books.nodup, short := Nat.le_trans books.short (Nat.le_succ _)
          sequences := Nat.le_of_not_lt exhausted }
  | ok outputs =>
      have entered : forall sequence, sequence ∈ ledger ++ [runtime.nextSequence] ->
          sequence < runtime.nextSequence + 1 := by
        intro sequence member
        rcases List.mem_append.mp member with before | last
        · exact Nat.lt_succ_of_lt (books.issued sequence before)
        · rw [List.mem_singleton.mp last]
          exact Nat.lt_succ_self _
      have longer : (ledger ++ [runtime.nextSequence]).length <= runtime.nextSequence + 1 := by
        rw [List.length_append, List.length_singleton]
        exact Nat.succ_le_succ books.short
      cases mode : runtime.isAsync with
      | true =>
          simp only [if_true]
          refine ⟨?_, trivial, Or.inr ⟨trivial, trivial, trivial⟩⟩
          exact
            { held := fun _ => by
                simp only [List.map_append, List.map_singleton]
                rw [books.held mode]
                rfl
              slot := fun impossible => by cases impossible
              issued := entered, nodup := appended, short := longer
              sequences := Nat.le_of_not_lt exhausted }
      | false =>
          simp only [Bool.false_eq_true, if_false]
          refine ⟨?_, trivial, Or.inr ⟨trivial, trivial, trivial⟩⟩
          exact
            { held := fun impossible => by cases impossible
              slot := fun _ sequence _ occupied => by
                cases occupied
                exact List.mem_append_right _ (List.mem_singleton_self _)
              issued := entered, nodup := appended, short := longer
              sequences := Nat.le_of_not_lt exhausted }

/-- The admission check never counts more than the ledger holds. -/
theorem Books.currentInFlight_le {runtime : Runtime T} {ledger : List Nat}
    (books : Books runtime ledger) : runtime.currentInFlight <= ledger.length := by
  unfold currentInFlight
  cases mode : runtime.isAsync with
  | true =>
      rw [if_pos rfl, ← books.held mode, List.length_map]
  | false =>
      simp only [Bool.false_eq_true, if_false]
      cases slot : runtime.syncResult with
      | none => exact Nat.zero_le _
      | some result =>
          exact List.length_pos_of_mem (books.slot mode result.1 result.2 slot)

/-- With room under the bound a submission is accepted, unless the sequence
numbers have run out. -/
theorem submit_ok {runtime : Runtime T} (room : runtime.currentInFlight < runtime.maxInFlight)
    (metrics : BackendMetrics) (inputs outputs : List T) :
    (runtime.submit metrics inputs (.ok outputs)).2.2 =
      if u64Max < runtime.nextSequence + 1 then .error .sequenceExhausted
      else .ok runtime.nextSequence := by
  unfold submit
  rw [if_neg (Nat.not_le_of_lt room)]
  by_cases exhausted : u64Max < runtime.nextSequence + 1
  · rw [if_pos exhausted, if_pos exhausted]
  · rw [if_neg exhausted, if_neg exhausted]
    cases runtime.isAsync <;> rfl

/-- A poll under the contract either changes neither the ledger nor the
in-flight counter, or takes one entry off both. -/
theorem poll_books {runtime : Runtime T} {ledger : List Nat} (books : Books runtime ledger)
    (metrics : BackendMetrics) {answer : Completion T} (obeys : runtime.Answers answer) :
    Books (runtime.poll metrics answer).1 (runtime.ledgerAfterPoll ledger answer) ∧
      (runtime.poll metrics answer).1.maxInFlight = runtime.maxInFlight ∧
      (runtime.poll metrics answer).1.nextSequence = runtime.nextSequence ∧
      ((runtime.ledgerAfterPoll ledger answer = ledger ∧
          (runtime.poll metrics answer).2.1.inFlight = metrics.inFlight) ∨
        (Exists fun sequence => sequence ∈ ledger ∧
          runtime.ledgerAfterPoll ledger answer = ledger.erase sequence ∧
          (runtime.poll metrics answer).2.1.inFlight = metrics.inFlight - 1)) := by
  cases mode : runtime.isAsync with
  | true =>
      have released : forall sequence,
          Books (runtime.release sequence) (ledger.erase sequence) := by
        intro sequence
        refine books.erase sequence (fun _ => ?_) (fun impossible => ?_) rfl
        · rw [release, map_eraseP_held, books.held mode]
        · change runtime.isAsync = false at impossible
          rw [mode] at impossible
          cases impossible
      have held := books.held mode
      cases answer with
      | pending =>
          simp only [poll, ledgerAfterPoll, mode, if_true]
          exact ⟨books, trivial, trivial, Or.inl ⟨trivial, rfl⟩⟩
      | endOfStream =>
          simp only [poll, ledgerAfterPoll, mode, if_true]
          exact ⟨books, trivial, trivial, Or.inl ⟨trivial, trivial⟩⟩
      | ready outputs sequence =>
          have member := obeys mode
          rw [held] at member
          simp only [poll, ledgerAfterPoll, mode, if_true]
          exact ⟨released sequence, rfl, rfl, Or.inr ⟨sequence, member, rfl,
            BackendMetrics.finishInFlight_inFlight metrics⟩⟩
      | failed sequence error =>
          have member := obeys mode
          rw [held] at member
          simp only [poll, ledgerAfterPoll, mode, if_true]
          exact ⟨released sequence, rfl, rfl, Or.inr ⟨sequence, member, rfl,
            BackendMetrics.finishInFlight_inFlight metrics⟩⟩
  | false =>
      cases slot : runtime.syncResult with
      | none =>
          simp only [poll, ledgerAfterPoll, mode, slot, Bool.false_eq_true, if_false]
          exact ⟨books, trivial, trivial, Or.inl ⟨trivial, trivial⟩⟩
      | some result =>
          rcases result with ⟨sequence, outputs⟩
          have member := books.slot mode sequence outputs slot
          simp only [poll, ledgerAfterPoll, mode, slot, Bool.false_eq_true, if_false]
          refine ⟨books.erase sequence (fun impossible => ?_) (fun _ => rfl) rfl, trivial, trivial,
            Or.inr ⟨sequence, member, rfl, BackendMetrics.finishInFlight_inFlight metrics⟩⟩
          cases impossible

/-- A cancel under the contract takes off the in-flight counter as many
submissions as it takes off the ledger. -/
theorem cancel_books {runtime : Runtime T} {ledger : List Nat} (books : Books runtime ledger)
    (metrics : BackendMetrics) {answer : Except Error Cancellation}
    (obeys : runtime.Reports answer) :
    Books (runtime.cancel metrics answer).1 (runtime.ledgerAfterCancel ledger answer) ∧
      (runtime.cancel metrics answer).1.maxInFlight = runtime.maxInFlight ∧
      (runtime.cancel metrics answer).1.nextSequence = runtime.nextSequence ∧
      (runtime.ledgerAfterCancel ledger answer).length <= ledger.length ∧
      (runtime.cancel metrics answer).2.1.inFlight =
        metrics.inFlight - (ledger.length - (runtime.ledgerAfterCancel ledger answer).length) := by
  cases mode : runtime.isAsync with
  | true =>
      cases answer with
      | error error =>
          simp only [cancel, ledgerAfterCancel, mode, if_true, Nat.sub_self, Nat.sub_zero]
          exact ⟨books, trivial, trivial, Nat.le_refl _, trivial⟩
      | ok cancellation =>
          rcases cancellation with ⟨report, kept⟩
          have held := books.held mode
          have bounded : ledger.length <= u64Max := Nat.le_trans books.short books.sequences
          have parts := List.length_eq_countP_add_countP (l := ledger)
            fun sequence => decide (sequence ∈ kept)
          rw [List.countP_eq_length_filter] at parts
          have gone : (runtime.held.countP fun entry => decide (entry.1 ∉ kept)) =
              ledger.countP fun sequence => decide ¬ (decide (sequence ∈ kept) = true) := by
            rw [← held, List.countP_map]
            congr 1
            funext entry
            simp
          have released : report.released =
              ledger.length - (ledger.filter fun sequence => decide (sequence ∈ kept)).length := by
            have whole := obeys mode
            rw [gone] at whole
            unfold CancelReport.released
            omega
          simp only [cancel, ledgerAfterCancel, mode, if_true,
            BackendMetrics.recordCancel_inFlight,
            BackendMetrics.times_recordBackendError_inFlight,
            BackendMetrics.times_finishInFlight_inFlight, released]
          refine ⟨?_, trivial, trivial, List.length_filter_le _ _, trivial⟩
          exact
            { held := fun _ => by
                rw [← held, List.filter_map]
                rfl
              slot := fun impossible => by cases impossible
              issued := fun sequence member => books.issued sequence (List.mem_of_mem_filter member)
              nodup := books.nodup.filter _
              short := Nat.le_trans (List.length_filter_le _ _) books.short
              sequences := books.sequences }
  | false =>
      cases slot : runtime.syncResult with
      | none =>
          simp only [cancel, ledgerAfterCancel, mode, slot, Bool.false_eq_true, if_false,
            Nat.sub_self, Nat.sub_zero]
          exact ⟨books, trivial, trivial, Nat.le_refl _, trivial⟩
      | some result =>
          rcases result with ⟨sequence, outputs⟩
          have member := books.slot mode sequence outputs slot
          have positive : 0 < ledger.length := List.length_pos_of_mem member
          simp only [cancel, ledgerAfterCancel, mode, slot, Bool.false_eq_true, if_false,
            BackendMetrics.recordCancel_inFlight, BackendMetrics.finishInFlight_inFlight,
            List.length_erase_of_mem member]
          refine ⟨books.erase sequence (fun impossible => ?_) (fun _ => rfl) rfl, trivial, trivial,
            by omega, by omega⟩
          cases impossible

end Runtime
end Backend
end DyunGu
