import Mathlib.Data.List.Basic

namespace DyunGu
namespace Outcome

/-!
# Computations that end in a value or a failure

A sequence of computations succeeds exactly if each of them does, and the first
one that fails gives the failure of the whole.  These rules take a sequence
apart at its binds.
-/

variable {Failure First Second : Type} {first : Except Failure First}
    {second : First -> Except Failure Second}

theorem bind_ok {result : Second} (succeeds : (first >>= second) = .ok result) :
    Exists fun value => first = .ok value ∧ second value = .ok result := by
  cases first with
  | error error => cases succeeds
  | ok value => exact ⟨value, rfl, succeeds⟩

theorem bind_eq_ok {value : First} {result : Second} (succeeds : first = .ok value)
    (continues : second value = .ok result) : (first >>= second) = .ok result := by
  rw [succeeds]
  exact continues

theorem bind_iff {result : Second} : (first >>= second) = .ok result <->
    Exists fun value => first = .ok value ∧ second value = .ok result := by
  constructor
  · exact bind_ok
  · rintro ⟨value, succeeds, continues⟩
    exact bind_eq_ok succeeds continues

theorem bind_error {error : Failure} (fails : (first >>= second) = .error error) :
    first = .error error ∨
      Exists fun value => first = .ok value ∧ second value = .error error := by
  cases first with
  | error other =>
      cases fails
      exact Or.inl rfl
  | ok value => exact Or.inr ⟨value, rfl, fails⟩

/-- A change of the failure leaves a success. -/
theorem mapError_ok {Other : Type} {change : Failure -> Other} {result : First}
    (succeeds : first.mapError change = .ok result) : first = .ok result := by
  cases first with
  | error error => cases succeeds
  | ok value =>
      cases succeeds
      rfl

theorem mapError_error {Other : Type} {change : Failure -> Other} {error : Other}
    (fails : first.mapError change = .error error) :
    Exists fun original => error = change original := by
  cases first with
  | error original =>
      cases fails
      exact ⟨original, rfl⟩
  | ok value => cases fails

/-- Two computations that agree up to their failures both fail or have one result. -/
theorem toOption_cases {other : Except Failure First} (same : first.toOption = other.toOption) :
    (Exists fun error => Exists fun otherError =>
      first = .error error ∧ other = .error otherError) ∨
      Exists fun value => first = .ok value ∧ other = .ok value := by
  cases first with
  | error error =>
      cases other with
      | error otherError => exact Or.inl ⟨error, otherError, rfl, rfl⟩
      | ok value => cases same
  | ok value =>
      cases other with
      | error otherError => cases same
      | ok result =>
          cases same
          exact Or.inr ⟨value, rfl, rfl⟩

/-- All items pass a check in turn exactly if each of them does. -/
theorem forM_ok {Item : Type} {check : Item -> Except Failure Unit} {items : List Item} :
    items.forM check = .ok () <-> forall item, item ∈ items -> check item = .ok () := by
  induction items with
  | nil => simp [pure, Except.pure]
  | cons item items ih =>
      rw [List.forM, List.forall_mem_cons, ← ih]
      constructor
      · intro all
        rcases bind_ok all with ⟨_, passes, rest⟩
        exact ⟨passes, rest⟩
      · rintro ⟨passes, rest⟩
        exact bind_eq_ok passes rest

/-- If each item has a result then all items have theirs. -/
theorem mapM_ok {Item Result : Type} {compute : Item -> Except Failure Result}
    {result : Item -> Result} {items : List Item}
    (each : forall item, item ∈ items -> compute item = .ok (result item)) :
    items.mapM compute = .ok (items.map result) := by
  induction items with
  | nil => rfl
  | cons item items ih =>
      rcases List.forall_mem_cons.mp each with ⟨first, others⟩
      rw [List.mapM_cons]
      exact bind_eq_ok first (bind_eq_ok (ih others) rfl)

/-- Each of the results is that of an item. -/
theorem mapM_mem {Item Result : Type} {compute : Item -> Except Failure Result}
    {items : List Item} {results : List Result} (computed : items.mapM compute = .ok results)
    {result : Result} (member : result ∈ results) :
    Exists fun item => item ∈ items ∧ compute item = .ok result := by
  induction items generalizing results with
  | nil =>
      cases computed
      cases member
  | cons item items ih =>
      rw [List.mapM_cons] at computed
      rcases bind_ok computed with ⟨first, isFirst, computed⟩
      rcases bind_ok computed with ⟨others, isOthers, computed⟩
      cases computed
      rcases List.mem_cons.mp member with rfl | later
      · exact ⟨item, List.mem_cons_self, isFirst⟩
      · rcases ih isOthers later with ⟨other, isItem, isResult⟩
        exact ⟨other, List.mem_cons_of_mem _ isItem, isResult⟩

/-! ## Computations that may panic -/

/-- A failure that is returned, or a panic. -/
inductive Fault (Failure : Type) where
  | error (error : Failure)
  | panic
deriving DecidableEq, Repr

def Fault.map {Other : Type} (change : Failure -> Other) : Fault Failure -> Fault Other
  | .error failure => .error (change failure)
  | .panic => .panic

/-- What is missing makes the computation panic. -/
def orPanic {Value : Type} (result : Option Value) : Except (Fault Failure) Value :=
  match result with
  | none => .error .panic
  | some value => .ok value

/-- A failure of a computation that does not panic. -/
def orFail {Value : Type} (result : Except Failure Value) : Except (Fault Failure) Value :=
  result.mapError .error

/-- A loop all of whose rounds may panic. -/
theorem foldlM_orPanic {State Item : Type} (step : State -> Item -> Option State)
    (items : List Item) (state : State) :
    items.foldlM (fun state item => (orPanic (step state item) : Except (Fault Failure) State))
      state = orPanic (items.foldlM step state) := by
  induction items generalizing state with
  | nil => rfl
  | cons item items ih =>
      rw [List.foldlM_cons, List.foldlM_cons]
      cases step state item with
      | none => rfl
      | some next => exact ih next

/-- A computation that returns, with a value or with a failure. -/
def Safe {Value : Type} (result : Except (Fault Failure) Value) : Prop := result ≠ .error .panic

section Safety

variable {Start Value : Type} {start : Except (Fault Failure) Start}
    {next : Start -> Except (Fault Failure) Value}

theorem safe_ok (value : Value) : Safe (.ok value : Except (Fault Failure) Value) :=
  fun panics => nomatch panics

theorem safe_error (error : Failure) : Safe (.error (.error error) : Except (Fault Failure) Value) :=
  fun panics => nomatch panics

theorem safe_cases {result : Except (Fault Failure) Value} (safe : Safe result) :
    (Exists fun error => result = .error (.error error)) ∨ Exists fun value => result = .ok value := by
  cases result with
  | error fault =>
      cases fault with
      | error error => exact Or.inl ⟨error, rfl⟩
      | panic => exact absurd rfl safe
  | ok value => exact Or.inr ⟨value, rfl⟩

theorem safe_orFail (result : Except Failure Value) : Safe (orFail result) := by
  cases result with
  | error error => exact safe_error error
  | ok value => exact safe_ok value

theorem safe_orPanic {result : Option Value} {value : Value} (isValue : result = some value) :
    Safe (orPanic result : Except (Fault Failure) Value) := by
  rw [isValue]
  exact safe_ok value

/-- A sequence is safe if each computation that is reached is. -/
theorem safe_bind (first : Safe start) (rest : forall value, start = .ok value -> Safe (next value)) :
    Safe (start >>= next) := by
  cases start with
  | error fault =>
      intro panics
      cases panics
      exact first rfl
  | ok value => exact rest value rfl

/-- A loop is safe if each round is, whatever the state. -/
theorem safe_foldlM {State Item : Type} {step : State -> Item -> Except (Fault Failure) State}
    (each : forall state item, Safe (step state item)) (items : List Item) (state : State) :
    Safe (items.foldlM step state) := by
  induction items generalizing state with
  | nil => exact safe_ok state
  | cons item items ih =>
      rw [List.foldlM_cons]
      exact safe_bind (each state item) fun next _ => ih next

theorem bind_panic (value : Start) (succeeds : start = .ok value)
    (panics : next value = .error .panic) : (start >>= next) = .error .panic := by
  rw [succeeds]
  exact panics

theorem orFail_ok {result : Except Failure Value} {value : Value}
    (succeeds : orFail result = .ok value) : result = .ok value := mapError_ok succeeds

theorem orPanic_ok {result : Option Value} {value : Value}
    (succeeds : (orPanic result : Except (Fault Failure) Value) = .ok value) :
    result = some value := by
  cases result with
  | none => cases succeeds
  | some other =>
      cases succeeds
      rfl

end Safety

end Outcome
end DyunGu
