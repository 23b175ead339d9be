import Mathlib.Data.List.Basic
import Mathlib.Data.List.Induction

namespace DyunGu

universe u v

/-!
# Machines whose labels resolve every scheduling choice

A concurrent component is modelled by one partial step function.  The label
of a step names the party that moves and everything the environment decides
for that move, so a list of labels is one interleaving and a quantifier over
label lists is a quantifier over all interleavings.  A label that is not
enabled in a state has no step.

The two induction rules below are the only ones the protocol modules use:
an invariant kept by every step holds after every run, and an invariant kept
by every step that meets a guard holds after every run whose steps all meet
that guard.
-/

/-- One partial step function over explicit states. -/
structure Machine (State : Type u) (Label : Type v) where
  step : State -> Label -> Option State

namespace Machine

variable {State : Type u} {Label : Type v} (machine : Machine State Label)

/-- Perform the labels in order, failing at the first one that is disabled. -/
def run : State -> List Label -> Option State
  | state, [] => some state
  | state, label :: labels =>
      (machine.step state label).bind fun next => run next labels

/-- The states that some interleaving leads to. -/
def Reachable (start state : State) : Prop :=
  Exists fun labels => machine.run start labels = some state

/-- Every step of the run is taken in a state where the guard admits it. -/
def Meets (guard : State -> Label -> Prop) : State -> List Label -> Prop
  | _, [] => True
  | state, label :: labels =>
      guard state label ∧
        forall next, machine.step state label = some next -> Meets guard next labels

instance decidableMeets (guard : State -> Label -> Prop)
    [forall state label, Decidable (guard state label)] :
    forall state labels, Decidable (machine.Meets guard state labels)
  | _, [] => isTrue trivial
  | state, label :: labels =>
      match stepped : machine.step state label with
      | none =>
          decidable_of_iff (guard state label)
            ⟨fun admitted => ⟨admitted, fun next impossible => by
              rw [stepped] at impossible
              cases impossible⟩, fun meets => meets.1⟩
      | some next =>
          have later := decidableMeets guard next labels
          decidable_of_iff (guard state label ∧ machine.Meets guard next labels)
            ⟨fun both => ⟨both.1, fun other otherStep => by
              rw [stepped] at otherStep
              cases otherStep
              exact both.2⟩, fun meets => ⟨meets.1, meets.2 next stepped⟩⟩

@[simp] theorem run_nil (state : State) : machine.run state [] = some state := rfl

/-- The first step of a run, and the run that follows it. -/
theorem run_cons_iff {state final : State} {label : Label} {labels : List Label} :
    machine.run state (label :: labels) = some final <->
      Exists fun next => machine.step state label = some next ∧
        machine.run next labels = some final := by
  rw [run, Option.bind_eq_some_iff]

theorem run_append {state middle : State} {first second : List Label}
    (reached : machine.run state first = some middle) :
    machine.run state (first ++ second) = machine.run middle second := by
  induction first generalizing state with
  | nil =>
      rw [run_nil] at reached
      cases reached
      rfl
  | cons label labels ih =>
      rcases machine.run_cons_iff.mp reached with ⟨next, stepped, rest⟩
      rw [List.cons_append, run, stepped, Option.bind_some]
      exact ih rest

theorem run_append_iff {state final : State} {first second : List Label} :
    machine.run state (first ++ second) = some final <->
      Exists fun middle => machine.run state first = some middle ∧
        machine.run middle second = some final := by
  induction first generalizing state with
  | nil => exact ⟨fun reached => ⟨state, rfl, reached⟩, fun ⟨_, rfl, reached⟩ => reached⟩
  | cons label labels ih =>
      rw [List.cons_append, run_cons_iff]
      constructor
      · rintro ⟨next, stepped, rest⟩
        rcases ih.mp rest with ⟨middle, early, late⟩
        exact ⟨middle, machine.run_cons_iff.mpr ⟨next, stepped, early⟩, late⟩
      · rintro ⟨middle, early, late⟩
        rcases machine.run_cons_iff.mp early with ⟨next, stepped, rest⟩
        exact ⟨next, stepped, ih.mpr ⟨middle, rest, late⟩⟩

/-- The last step of a run, and the run before it. -/
theorem run_concat_iff {state final : State} {label : Label} {labels : List Label} :
    machine.run state (labels ++ [label]) = some final <->
      Exists fun last => machine.run state labels = some last ∧
        machine.step last label = some final := by
  rw [run_append_iff]
  constructor
  · rintro ⟨last, early, late⟩
    rcases machine.run_cons_iff.mp late with ⟨next, stepped, rest⟩
    cases rest
    exact ⟨last, early, stepped⟩
  · rintro ⟨last, early, stepped⟩
    exact ⟨last, early, machine.run_cons_iff.mpr ⟨final, stepped, rfl⟩⟩

/-- The induction rule for what a state says of the run that led to it. -/
theorem run_history {start : State} (inv : List Label -> State -> Prop)
    (preserved : forall labels label state next, machine.run start labels = some state ->
      inv labels state -> machine.step state label = some next -> inv (labels ++ [label]) next)
    (initial : inv [] start) {final : State} {labels : List Label}
    (reached : machine.run start labels = some final) : inv labels final := by
  induction labels using List.reverseRecOn generalizing final with
  | nil =>
      cases reached
      exact initial
  | append_singleton labels label ih =>
      rcases machine.run_concat_iff.mp reached with ⟨last, early, stepped⟩
      exact preserved labels label last final early (ih early) stepped

theorem Reachable.refl (start : State) : machine.Reachable start start :=
  ⟨[], rfl⟩

theorem Reachable.step {start state next : State} {label : Label}
    (reachable : machine.Reachable start state)
    (stepped : machine.step state label = some next) : machine.Reachable start next := by
  rcases reachable with ⟨labels, reached⟩
  refine ⟨labels ++ [label], ?_⟩
  rw [machine.run_append reached, run, stepped]
  rfl

theorem Reachable.run {start state final : State} {labels : List Label}
    (reachable : machine.Reachable start state)
    (reached : machine.run state labels = some final) : machine.Reachable start final := by
  rcases reachable with ⟨before, atState⟩
  exact ⟨before ++ labels, (machine.run_append atState).trans reached⟩

/-- The state after a run, and the start where the run fails. -/
def after (start : State) (labels : List Label) : State := (machine.run start labels).getD start

theorem run_after {start : State} {labels : List Label}
    (runs : (machine.run start labels).isSome = true) :
    machine.run start labels = some (machine.after start labels) := by
  rcases Option.isSome_iff_exists.mp runs with ⟨state, reached⟩
  unfold after
  rw [reached]
  rfl

theorem run_after_append {start : State} {labels more : List Label}
    (runs : (machine.run start labels).isSome = true)
    (runsOn : (machine.run start (labels ++ more)).isSome = true) :
    machine.run (machine.after start labels) more =
      some (machine.after start (labels ++ more)) := by
  rw [← machine.run_append (machine.run_after runs)]
  exact machine.run_after runsOn

/-- The guarded induction rule: each step may use the guard it was taken
under, so only the steps that the guard admits have to keep the invariant. -/
theorem run_invariant_of_meets {guard : State -> Label -> Prop} (inv : State -> Prop)
    (preserved : forall state label next, inv state -> guard state label ->
      machine.step state label = some next -> inv next)
    {state final : State} {labels : List Label} (initial : inv state)
    (meets : machine.Meets guard state labels)
    (reached : machine.run state labels = some final) : inv final := by
  induction labels generalizing state with
  | nil =>
      rw [run_nil] at reached
      cases reached
      exact initial
  | cons label labels ih =>
      rcases machine.run_cons_iff.mp reached with ⟨next, stepped, rest⟩
      exact ih (preserved state label next initial meets.1 stepped) (meets.2 next stepped) rest

/-- A completed run that does not meet the guard has a first step outside
it, with the run that leads there and the run that follows. -/
theorem exists_violation {guard : State -> Label -> Prop} {state final : State}
    {labels : List Label} (reached : machine.run state labels = some final)
    (broken : ¬ machine.Meets guard state labels) :
    Exists fun before => Exists fun label => Exists fun after =>
      Exists fun middle => Exists fun next =>
        labels = before ++ label :: after ∧ machine.run state before = some middle ∧
          ¬ guard middle label ∧ machine.step middle label = some next ∧
          machine.run next after = some final := by
  induction labels generalizing state with
  | nil => exact absurd trivial broken
  | cons label labels ih =>
      rcases machine.run_cons_iff.mp reached with ⟨next, stepped, rest⟩
      by_cases admitted : guard state label
      · have later : ¬ machine.Meets guard next labels := by
          intro meets
          apply broken
          refine ⟨admitted, ?_⟩
          intro other otherStep
          rw [stepped] at otherStep
          cases otherStep
          exact meets
        rcases ih rest later with
          ⟨before, bad, after, middle, found, split, reachedMiddle, outside, step, tail⟩
        refine ⟨label :: before, bad, after, middle, found, ?_, ?_, outside, step, tail⟩
        · rw [split, List.cons_append]
        · rw [run, stepped]
          exact reachedMiddle
      · exact ⟨[], label, labels, state, next, rfl, rfl, admitted, stepped, rest⟩

/-- The unguarded induction rule, over every interleaving. -/
theorem run_invariant (inv : State -> Prop)
    (preserved : forall state label next, inv state ->
      machine.step state label = some next -> inv next)
    {state final : State} (initial : inv state)
    (reachable : machine.Reachable state final) : inv final := by
  rcases reachable with ⟨labels, reached⟩
  induction labels generalizing state with
  | nil =>
      rw [run_nil] at reached
      cases reached
      exact initial
  | cons label labels ih =>
      rcases machine.run_cons_iff.mp reached with ⟨next, stepped, rest⟩
      exact ih (preserved state label next initial stepped) rest

/-! ## What a run can still lead to -/

/-- Some run whose steps all meet the guard leads from one state to another. -/
def Leads (guard : State -> Label -> Prop) (state final : State) : Prop :=
  Exists fun labels => machine.Meets guard state labels ∧ machine.run state labels = some final

theorem Leads.refl (guard : State -> Label -> Prop) (state : State) :
    machine.Leads guard state state :=
  ⟨[], trivial, rfl⟩

theorem Leads.head {guard : State -> Label -> Prop} {state next final : State} {label : Label}
    (admitted : guard state label) (stepped : machine.step state label = some next)
    (later : machine.Leads guard next final) : machine.Leads guard state final := by
  rcases later with ⟨labels, meets, reached⟩
  refine ⟨label :: labels, ⟨admitted, ?_⟩, machine.run_cons_iff.mpr ⟨next, stepped, reached⟩⟩
  intro other otherStep
  rw [stepped] at otherStep
  cases otherStep
  exact meets

theorem Leads.trans {guard : State -> Label -> Prop} {state middle final : State}
    (first : machine.Leads guard state middle) (second : machine.Leads guard middle final) :
    machine.Leads guard state final := by
  rcases first with ⟨labels, meets, reached⟩
  induction labels generalizing state with
  | nil =>
      rw [run_nil] at reached
      cases reached
      exact second
  | cons label labels ih =>
      rcases machine.run_cons_iff.mp reached with ⟨next, stepped, rest⟩
      exact Leads.head machine meets.1 stepped (ih (meets.2 next stepped) rest)

theorem Leads.step {guard : State -> Label -> Prop} {state middle final : State} {label : Label}
    (first : machine.Leads guard state middle) (admitted : guard middle label)
    (stepped : machine.step middle label = some final) : machine.Leads guard state final :=
  Leads.trans machine first (Leads.head machine admitted stepped (Leads.refl machine guard final))

/-- The first steps of a guarded run are guarded, and so is what is left of it
after them. -/
theorem Meets.first {guard : State -> Label -> Prop} {state : State}
    {first second : List Label} (meets : machine.Meets guard state (first ++ second)) :
    machine.Meets guard state first := by
  induction first generalizing state with
  | nil => trivial
  | cons label labels ih =>
      exact ⟨meets.1, fun next stepped => ih (meets.2 next stepped)⟩

theorem Meets.rest {guard : State -> Label -> Prop} {state middle : State}
    {first second : List Label} (meets : machine.Meets guard state (first ++ second))
    (reached : machine.run state first = some middle) : machine.Meets guard middle second := by
  induction first generalizing state with
  | nil =>
      rw [run_nil] at reached
      cases reached
      exact meets
  | cons label labels ih =>
      rcases machine.run_cons_iff.mp reached with ⟨next, stepped, rest⟩
      exact ih (meets.2 next stepped) rest

/-- A run that meets a guard meets every weaker one. -/
theorem Meets.mono {guard weaker : State -> Label -> Prop}
    (implies : forall state label, guard state label -> weaker state label)
    {state : State} {labels : List Label} (meets : machine.Meets guard state labels) :
    machine.Meets weaker state labels := by
  induction labels generalizing state with
  | nil => trivial
  | cons label labels ih =>
      exact ⟨implies state label meets.1, fun next stepped => ih (meets.2 next stepped)⟩

/-- Two guards that admit the same steps in all states that the first one leads
to admit the same runs. -/
theorem meets_congr {first second : State -> Label -> Prop} (inv : State -> Prop)
    (preserved : forall state label next, inv state -> first state label ->
      machine.step state label = some next -> inv next)
    (agree : forall state label, inv state -> (first state label <-> second state label))
    {state : State} (labels : List Label) (initial : inv state) :
    machine.Meets first state labels <-> machine.Meets second state labels := by
  induction labels generalizing state with
  | nil => exact Iff.rfl
  | cons label labels ih =>
      have same := agree state label initial
      constructor
      · intro meets
        refine ⟨same.mp meets.1, fun next stepped => ?_⟩
        exact (ih (preserved state label next initial meets.1 stepped)).mp (meets.2 next stepped)
      · intro meets
        have admitted := same.mpr meets.1
        refine ⟨admitted, fun next stepped => ?_⟩
        exact (ih (preserved state label next initial admitted stepped)).mpr
          (meets.2 next stepped)

/-- The guarded induction rule, for a state some guarded run leads to. -/
theorem Leads.invariant {guard : State -> Label -> Prop} (inv : State -> Prop)
    (preserved : forall state label next, inv state -> guard state label ->
      machine.step state label = some next -> inv next)
    {state final : State} (initial : inv state) (leads : machine.Leads guard state final) :
    inv final := by
  rcases leads with ⟨labels, meets, reached⟩
  exact machine.run_invariant_of_meets inv preserved initial meets reached

end Machine
end DyunGu
