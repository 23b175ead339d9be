import DyunGu.Lib.Indexed
import DyunGu.Lib.Machine
import DyunGu.Backend.Runtime
import DyunGu.Graph.Error
import Mathlib.Data.Fintype.Lattice

namespace DyunGu
namespace Graph

open Backend Indexed

variable {n : Nat} {T : Type}

/-!
# The execution of an inference element

An inference element runs on one runtime or on a pool of them.  The runtimes
of a pool share one metrics value, and `has_capacity` compares its in-flight
counter, which counts the whole pool, with the bound of each single runtime.

A single runtime is the pool of one: its own metrics are the shared ones.
Which instance the scheduler checks out for a submission is an argument.
-/

structure InferenceExecution (n : Nat) (T : Type) where
  runtimes : Fin n -> Runtime T
  metrics : BackendMetrics
  pollCursor : Nat

namespace InferenceExecution

/-- Runtimes over the given backend bounds, sharing fresh metrics. -/
def fresh (isAsync : Bool) (backendMax : Fin n -> Nat) : InferenceExecution n T where
  runtimes := fun i => Runtime.fresh isAsync (backendMax i)
  metrics := BackendMetrics.fresh
  pollCursor := 0

def hasCapacity (execution : InferenceExecution n T) : Bool :=
  (List.finRange n).any fun i =>
    decide (execution.metrics.inFlight < (execution.runtimes i).maxInFlight)

/-- Submit one input on the instance that was checked out. -/
def submit (execution : InferenceExecution n T) (index : Fin n) (inputs : List T)
    (answer : Except Backend.Error (List T)) :
    InferenceExecution n T × Except Backend.Error Nat :=
  let result := (execution.runtimes index).submit execution.metrics inputs answer
  ({ execution with
      runtimes := Function.update execution.runtimes index result.1
      metrics := result.2.1 }, result.2.2)

/-- Poll one instance. -/
def pollAt (execution : InferenceExecution n T) (index : Fin n) (answer : Completion T) :
    InferenceExecution n T × Except Backend.Error (InferPoll T) :=
  let result := (execution.runtimes index).poll execution.metrics answer
  ({ execution with
      runtimes := Function.update execution.runtimes index result.1
      metrics := result.2.1 }, result.2.2)

def cancelAt (execution : InferenceExecution n T) (index : Fin n)
    (answer : Except Backend.Error Cancellation) :
    InferenceExecution n T × Except Backend.Error CancelReport :=
  let result := (execution.runtimes index).cancel execution.metrics answer
  ({ execution with
      runtimes := Function.update execution.runtimes index result.1
      metrics := result.2.1 }, result.2.2)

theorem hasCapacity_iff (execution : InferenceExecution n T) :
    execution.hasCapacity = true <->
      Exists fun i => execution.metrics.inFlight < (execution.runtimes i).maxInFlight := by
  unfold hasCapacity
  rw [List.any_eq_true]
  constructor
  · rintro ⟨i, _, room⟩
    exact ⟨i, of_decide_eq_true room⟩
  · rintro ⟨i, room⟩
    exact ⟨i, List.mem_finRange i, decide_eq_true room⟩

end InferenceExecution

/-! ## Runs of a pool -/

namespace InferencePool

/-- An execution with the ledger of every instance: the submissions it has
accepted and neither returned nor cancelled. -/
structure State (n : Nat) (T : Type) where
  execution : InferenceExecution n T
  ledger : Fin n -> List Nat

inductive Label (n : Nat) (T : Type) where
  | submit (index : Fin n) (inputs : List T) (answer : Except Backend.Error (List T))
  | poll (index : Fin n) (answer : Completion T)
  | cancel (index : Fin n) (answer : Except Backend.Error Cancellation)

/-- Any operation on any instance, with any answer its backend may give
under its contract. -/
def step (state : State n T) : Label n T -> Option (State n T)
  | .submit index inputs answer =>
      let result := state.execution.submit index inputs answer
      some
        { execution := result.1
          ledger := Function.update state.ledger index
            (Runtime.ledgerAfterSubmit (state.ledger index) result.2) }
  | .poll index answer =>
      if (state.execution.runtimes index).Answers answer then
        some
          { execution := (state.execution.pollAt index answer).1
            ledger := Function.update state.ledger index
              ((state.execution.runtimes index).ledgerAfterPoll (state.ledger index) answer) }
      else none
  | .cancel index answer =>
      if (state.execution.runtimes index).Reports answer then
        some
          { execution := (state.execution.cancelAt index answer).1
            ledger := Function.update state.ledger index
              ((state.execution.runtimes index).ledgerAfterCancel (state.ledger index) answer) }
      else none

def machine : Machine (State n T) (Label n T) where
  step := step

/-- The bounds that the backends of a pool declare, as `usize` values. -/
structure Bounds (n : Nat) where
  backendMax : Fin n -> Nat
  usize : forall i, backendMax i <= u64Max

def initial (isAsync : Bool) (bounds : Bounds n) : State n T where
  execution := InferenceExecution.fresh isAsync bounds.backendMax
  ledger := fun _ => []

/-- What the callers of `has_capacity` rely on: it says whether some instance
has room, the pool can be filled up to the sum of the bounds, and a submission
made after it answered yes is not refused for the in-flight limit. -/
structure Accounts (state : State n T) : Prop where
  capacity : state.execution.hasCapacity = true <->
    Exists fun i => (state.ledger i).length < (state.execution.runtimes i).maxInFlight
  fillable : ∑ i, (state.ledger i).length < ∑ i, (state.execution.runtimes i).maxInFlight ->
    state.execution.hasCapacity = true
  admitted : state.execution.hasCapacity = true -> forall i inputs outputs,
    (state.execution.submit i inputs (.ok outputs)).2 ≠ .error Backend.Error.inFlightLimit

/-! ## The shared counter counts the whole pool -/

/-- The ledger of every instance is in order, and as long as the sequence
numbers together fit the counter, the counter is the size of all ledgers. -/
structure Inv (bounds : Bounds n) (state : State n T) : Prop where
  books : forall i, (state.execution.runtimes i).Books (state.ledger i)
  maxima : forall i,
    (state.execution.runtimes i).maxInFlight = max (bounds.backendMax i) 1
  counted : ∑ i, (state.execution.runtimes i).nextSequence <= u64Max ->
    state.execution.metrics.inFlight = ∑ i, (state.ledger i).length

section Invariant

variable {bounds : Bounds n} {state next : State n T}

theorem initial_inv (isAsync : Bool) (bounds : Bounds n) :
    Inv bounds (initial isAsync bounds : State n T) where
  books := fun i => Runtime.fresh_books isAsync (bounds.backendMax i)
  maxima := fun _ => rfl
  counted := fun _ => by simp [initial, InferenceExecution.fresh, BackendMetrics.fresh]

/-- One instance moves; the others keep their books. -/
private theorem Inv.move (inv : Inv bounds state) {index : Fin n} {runtime : Runtime T}
    {ledger : List Nat} (books : runtime.Books ledger)
    (maxima : runtime.maxInFlight = (state.execution.runtimes index).maxInFlight)
    (runtimes : next.execution.runtimes =
      Function.update state.execution.runtimes index runtime)
    (ledgers : next.ledger = Function.update state.ledger index ledger)
    (grows : (state.execution.runtimes index).nextSequence <= runtime.nextSequence)
    (counted : ∑ i, (next.execution.runtimes i).nextSequence <= u64Max ->
      state.execution.metrics.inFlight = ∑ i, (state.ledger i).length ->
      next.execution.metrics.inFlight = ∑ i, (next.ledger i).length) : Inv bounds next := by
  refine { books := ?_, maxima := ?_, counted := ?_ }
  · intro i
    rw [runtimes, ledgers]
    by_cases same : i = index
    · rw [same, Function.update_self, Function.update_self]
      exact books
    · rw [Function.update_of_ne same, Function.update_of_ne same]
      exact inv.books i
  · intro i
    rw [runtimes]
    by_cases same : i = index
    · rw [same, Function.update_self, maxima]
      exact inv.maxima index
    · rw [Function.update_of_ne same]
      exact inv.maxima i
  · intro fits
    refine counted fits (inv.counted ?_)
    have total := sum_update Runtime.nextSequence state.execution.runtimes index runtime
    rw [← runtimes] at total
    omega

theorem step_inv (inv : Inv bounds state) {label : Label n T}
    (stepped : step state label = some next) : Inv bounds next := by
  cases label with
  | submit index inputs answer =>
      simp only [step, Option.some.injEq] at stepped
      subst stepped
      rcases Runtime.submit_books (inv.books index) state.execution.metrics inputs answer with
        ⟨books, maxima, ⟨unchanged, grows, error, refused⟩ | ⟨recorded, grows, accepted⟩⟩
      · apply inv.move books maxima rfl rfl grows
        intro _ before
        change ((state.execution.runtimes index).submit state.execution.metrics inputs
          answer).2.1.inFlight = ∑ i, (Function.update state.ledger index
            (Runtime.ledgerAfterSubmit (state.ledger index) ((state.execution.runtimes
              index).submit state.execution.metrics inputs answer).2.2) i).length
        rw [unchanged, refused, Runtime.ledgerAfterSubmit, Function.update_eq_self]
        exact before
      · apply inv.move books maxima rfl rfl (by omega)
        intro fits before
        have short : ∑ i, (state.ledger i).length <=
            ∑ i, (state.execution.runtimes i).nextSequence :=
          Finset.sum_le_sum fun i _ => (inv.books i).short
        have sequences := sum_update Runtime.nextSequence state.execution.runtimes index
          ((state.execution.runtimes index).submit state.execution.metrics inputs answer).1
        have ledgers := sum_update List.length state.ledger index
          (state.ledger index ++ [(state.execution.runtimes index).nextSequence])
        change ∑ i, (Function.update state.execution.runtimes index _ i).nextSequence <= u64Max
          at fits
        change ((state.execution.runtimes index).submit state.execution.metrics inputs
          answer).2.1.inFlight = ∑ i, (Function.update state.ledger index
            (Runtime.ledgerAfterSubmit (state.ledger index) ((state.execution.runtimes
              index).submit state.execution.metrics inputs answer).2.2) i).length
        rw [recorded, accepted, Runtime.ledgerAfterSubmit,
          BackendMetrics.recordSubmission_inFlight _ (by omega)]
        rw [List.length_append, List.length_singleton] at ledgers
        omega
  | poll index answer =>
      simp only [step] at stepped
      split at stepped
      · rename_i obeys
        cases stepped
        rcases Runtime.poll_books (inv.books index) state.execution.metrics obeys with
          ⟨books, maxima, sequences, ⟨kept, unchanged⟩ | ⟨sequence, member, erased, released⟩⟩
        · apply inv.move books maxima rfl rfl (by omega)
          intro _ before
          change ((state.execution.runtimes index).poll state.execution.metrics
            answer).2.1.inFlight = ∑ i, (Function.update state.ledger index
              ((state.execution.runtimes index).ledgerAfterPoll (state.ledger index) answer)
              i).length
          rw [unchanged, kept, Function.update_eq_self]
          exact before
        · apply inv.move books maxima rfl rfl (by omega)
          intro _ before
          have ledgers := sum_update List.length state.ledger index
            ((state.ledger index).erase sequence)
          have positive : 0 < (state.ledger index).length := List.length_pos_of_mem member
          have part := le_sum (fun i => (state.ledger i).length) index
          rw [List.length_erase_of_mem member] at ledgers
          change ((state.execution.runtimes index).poll state.execution.metrics
            answer).2.1.inFlight = ∑ i, (Function.update state.ledger index
              ((state.execution.runtimes index).ledgerAfterPoll (state.ledger index) answer)
              i).length
          rw [released, erased]
          omega
      · cases stepped
  | cancel index answer =>
      simp only [step] at stepped
      split at stepped
      · rename_i obeys
        cases stepped
        rcases Runtime.cancel_books (inv.books index) state.execution.metrics obeys with
          ⟨books, maxima, sequences, shorter, released⟩
        apply inv.move books maxima rfl rfl (by omega)
        intro _ before
        have ledgers := sum_update List.length state.ledger index
          ((state.execution.runtimes index).ledgerAfterCancel (state.ledger index) answer)
        have part := le_sum (fun i => (state.ledger i).length) index
        change ((state.execution.runtimes index).cancel state.execution.metrics
          answer).2.1.inFlight = ∑ i, (Function.update state.ledger index
            ((state.execution.runtimes index).ledgerAfterCancel (state.ledger index) answer)
            i).length
        rw [released]
        omega
      · cases stepped

theorem run_inv (inv : Inv bounds state) {final : State n T}
    (reachable : machine.Reachable state final) : Inv bounds final :=
  machine.run_invariant (Inv bounds) (fun _ _ _ holds stepped => step_inv holds stepped) inv
    reachable

end Invariant

/-! ## Which pools account for their capacity -/

section Accounting

variable {bounds : Bounds n} {state : State n T}

/-- With one instance the shared counter is that instance's own ledger. -/
theorem accounts_of_single (single : n <= 1) (inv : Inv bounds state) : Accounts state := by
  have only : Subsingleton (Fin n) := Fin.subsingleton_iff_le_one.mpr single
  have counted : forall i, state.execution.metrics.inFlight = (state.ledger i).length := by
    intro i
    rw [inv.counted (by
      rw [Fintype.sum_subsingleton _ i]
      exact (inv.books i).sequences)]
    exact Fintype.sum_subsingleton _ i
  have capacity : state.execution.hasCapacity = true <->
      Exists fun i => (state.ledger i).length < (state.execution.runtimes i).maxInFlight := by
    rw [InferenceExecution.hasCapacity_iff]
    constructor
    · rintro ⟨i, room⟩
      exact ⟨i, by rw [← counted i]; exact room⟩
    · rintro ⟨i, room⟩
      exact ⟨i, by rw [counted i]; exact room⟩
  refine { capacity := capacity, fillable := ?_, admitted := ?_ }
  · intro room
    rcases Finset.exists_lt_of_sum_lt room with ⟨i, _, below⟩
    exact capacity.mpr ⟨i, below⟩
  · intro answered i inputs outputs refused
    rcases capacity.mp answered with ⟨j, below⟩
    rw [only.elim j i] at below
    have room := Nat.lt_of_le_of_lt (inv.books i).currentInFlight_le below
    change ((state.execution.runtimes i).submit _ _ _).2.2 = _ at refused
    rw [Runtime.submit_ok room] at refused
    split at refused <;> cases refused

/-- Filling one instance and leaving the others idle. -/
private theorem fill_one (isAsync : Bool) (bounds : Bounds n) (index : Fin n) (count : Nat)
    (within : count <= max (bounds.backendMax index) 1) :
    Exists fun state : State n T =>
      machine.Reachable (initial isAsync bounds) state ∧
        (state.ledger index).length = count ∧
        (forall i, i ≠ index -> state.ledger i = []) ∧
        ∑ i, (state.ledger i).length = count ∧
        ∑ i, (state.execution.runtimes i).nextSequence = count ∧
        (state.execution.runtimes index).nextSequence = count := by
  induction count with
  | zero =>
      refine ⟨initial isAsync bounds, Machine.Reachable.refl _ _, rfl, fun _ _ => rfl, ?_, ?_, rfl⟩
      · simp [initial]
      · simp [initial, InferenceExecution.fresh, Runtime.fresh]
  | succ count ih =>
      rcases ih (by omega) with ⟨state, reachable, size, idle, total, sequences, next⟩
      have inv : Inv bounds state := run_inv (initial_inv isAsync bounds) reachable
      have usize := bounds.usize index
      have limit : 1 <= u64Max := by decide
      have room : (state.execution.runtimes index).currentInFlight <
          (state.execution.runtimes index).maxInFlight := by
        have below := (inv.books index).currentInFlight_le
        rw [inv.maxima index]
        omega
      have accepted := Runtime.submit_ok room state.execution.metrics [] []
      rw [if_neg (by omega)] at accepted
      rcases Runtime.submit_books (inv.books index) state.execution.metrics [] (.ok []) with
        ⟨_, _, ⟨_, _, error, refused⟩ | ⟨_, counted, _⟩⟩
      · rw [accepted] at refused
        cases refused
      have stepped : machine.step state (.submit index [] (.ok [])) = some
          { execution := (state.execution.submit index [] (.ok [])).1
            ledger := Function.update state.ledger index
              (state.ledger index ++ [(state.execution.runtimes index).nextSequence]) } := by
        simp only [machine, step, InferenceExecution.submit, accepted,
          Runtime.ledgerAfterSubmit]
      have ledgers := sum_update List.length state.ledger index
        (state.ledger index ++ [(state.execution.runtimes index).nextSequence])
      have issued := sum_update Runtime.nextSequence state.execution.runtimes index
        ((state.execution.runtimes index).submit state.execution.metrics [] (.ok [])).1
      rw [List.length_append, List.length_singleton] at ledgers
      refine ⟨_, Machine.Reachable.step _ reachable stepped, ?_, ?_, ?_, ?_, ?_⟩
      · change (Function.update state.ledger index _ index).length = _
        rw [Function.update_self, List.length_append, List.length_singleton, size]
      · intro i different
        change Function.update state.ledger index _ i = []
        rw [Function.update_of_ne different]
        exact idle i different
      · change ∑ i, (Function.update state.ledger index _ i).length = _
        omega
      · change ∑ i, (Function.update state.execution.runtimes index _ i).nextSequence = _
        omega
      · change (Function.update state.execution.runtimes index _ index).nextSequence = _
        rw [Function.update_self, counted, next]

/-- Two instances are enough to break the accounting: when the instance with
the largest bound is full, the shared counter hides that another is idle. -/
theorem not_accounts_of_two (several : 2 <= n) (isAsync : Bool) (bounds : Bounds n) :
    Exists fun state : State n T =>
      machine.Reachable (initial isAsync bounds) state ∧ ¬ Accounts state := by
  have nonempty : Nonempty (Fin n) := ⟨⟨0, by omega⟩⟩
  have nontrivial : Nontrivial (Fin n) := Fin.nontrivial_iff_two_le.mpr several
  rcases Finite.exists_max (fun i => max (bounds.backendMax i) 1) with ⟨full, largest⟩
  rcases exists_ne full with ⟨idle, different⟩
  rcases fill_one (T := T) isAsync bounds full (max (bounds.backendMax full) 1) (Nat.le_refl _) with
    ⟨state, reachable, _, empty, total, sequences, _⟩
  have inv : Inv bounds state := run_inv (initial_inv isAsync bounds) reachable
  refine ⟨state, reachable, ?_⟩
  intro accounts
  have room : Exists fun i =>
      (state.ledger i).length < (state.execution.runtimes i).maxInFlight := by
    refine ⟨idle, ?_⟩
    rw [empty idle different, inv.maxima idle]
    exact Nat.lt_of_lt_of_le Nat.one_pos (Nat.le_max_right _ _)
  rcases (InferenceExecution.hasCapacity_iff _).mp (accounts.capacity.mpr room) with ⟨i, below⟩
  have usize := bounds.usize full
  have limit : 1 <= u64Max := by decide
  have counted := inv.counted (by omega)
  have bound := largest i
  rw [inv.maxima i] at below
  omega

end Accounting

/-- The capacity accounting of a pool is right in all of its reachable states
exactly when the pool has at most one instance. -/
theorem accounts_iff_single (isAsync : Bool) (bounds : Bounds n) :
    (forall state : State n T, machine.Reachable (initial isAsync bounds) state ->
      Accounts state) <-> n <= 1 := by
  constructor
  · intro always
    by_contra several
    have two : 2 <= n := by omega
    rcases not_accounts_of_two (T := T) two isAsync bounds with ⟨state, reachable, broken⟩
    exact broken (always state reachable)
  · intro single state reachable
    exact accounts_of_single single (run_inv (initial_inv isAsync bounds) reachable)

def twoOfOne : Bounds 2 where
  backendMax := fun _ => 1
  usize := fun _ => by decide

/-- One submission on the first of two instances, each with `max_in_flight`
one: the second is idle, but the pool reports no capacity. -/
theorem pool_of_two_hides_idle_instance :
    ¬ forall state : State 2 Nat, machine.Reachable (initial true twoOfOne) state ->
      (state.execution.hasCapacity = true <->
        Exists fun i => (state.ledger i).length < (state.execution.runtimes i).maxInFlight) := by
  intro always
  have hidden : (machine.run (initial true twoOfOne : State 2 Nat)
      [.submit 0 [7] (.ok [])]).map (fun state => (state.execution.hasCapacity,
        decide ((state.ledger 1).length < (state.execution.runtimes 1).maxInFlight))) =
      some (false, true) := by
    decide +kernel
  rcases Option.map_eq_some_iff.mp hidden with ⟨state, reached, facts⟩
  injection facts with none_ idle
  have capacity := (always state ⟨_, reached⟩).mpr ⟨1, of_decide_eq_true idle⟩
  rw [none_] at capacity
  cases capacity

end InferencePool
end Graph
end DyunGu
