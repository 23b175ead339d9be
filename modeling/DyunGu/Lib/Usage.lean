import Mathlib.Data.List.Basic
import Mathlib.Logic.Function.Basic

namespace DyunGu

universe u v w

/-!
# How objects may be used

Many objects are used by one party, and each of them allows certain calls in
certain phases only.  A log of calls respects the usage if every call is allowed
in the phase its object is in.  Objects do not interfere: a log respects the
usage exactly if the calls on each object do, one object at a time.
-/

/-- The calls that an object allows, and what becomes of it. -/
structure Usage (Phase : Type u) (Call : Type v) where
  next : Phase -> Call -> Option Phase

namespace Usage

variable {Phase : Type u} {Call : Type v} {Object : Type w} (usage : Usage Phase Call)

/-- The phase of one object after its calls. -/
def after : Phase -> List Call -> Option Phase
  | phase, [] => some phase
  | phase, call :: calls => (usage.next phase call).bind fun next => after next calls

theorem after_append {phase : Phase} {first second : List Call} :
    usage.after phase (first ++ second) =
      (usage.after phase first).bind fun middle => usage.after middle second := by
  induction first generalizing phase with
  | nil => rfl
  | cons call calls ih =>
      rw [List.cons_append, after, after]
      cases usage.next phase call with
      | none => rfl
      | some next => exact ih

theorem after_of_append {phase middle final : Phase} {first second : List Call}
    (early : usage.after phase first = some middle)
    (late : usage.after middle second = some final) :
    usage.after phase (first ++ second) = some final := by
  rw [after_append, early]
  exact late

/-! ## Many objects -/

variable [DecidableEq Object]

/-- The calls on one of the objects. -/
def callsOn (object : Object) : List (Object × Call) -> List Call
  | [] => []
  | (other, call) :: log => if other = object then call :: callsOn object log else
      callsOn object log

theorem callsOn_append {object : Object} {first second : List (Object × Call)} :
    callsOn object (first ++ second) = callsOn object first ++ callsOn object second := by
  induction first with
  | nil => rfl
  | cons entry log ih =>
      rcases entry with ⟨other, call⟩
      rw [List.cons_append, callsOn, callsOn]
      by_cases same : other = object
      · rw [if_pos same, if_pos same, ih]
        rfl
      · rw [if_neg same, if_neg same, ih]

@[simp] theorem callsOn_self {object : Object} {calls : List Call} :
    callsOn object (calls.map fun call => (object, call)) = calls := by
  induction calls with
  | nil => rfl
  | cons call calls ih => rw [List.map_cons, callsOn, if_pos rfl, ih]

theorem callsOn_other {object other : Object} {calls : List Call} (differs : other ≠ object) :
    callsOn object (calls.map fun call => (other, call)) = [] := by
  induction calls with
  | nil => rfl
  | cons call calls ih => rw [List.map_cons, callsOn, if_neg differs, ih]

/-- The phases of all objects after a log. -/
def perform : (Object -> Phase) -> List (Object × Call) -> Option (Object -> Phase)
  | phases, [] => some phases
  | phases, (object, call) :: log =>
      (usage.next (phases object) call).bind fun next =>
        perform (Function.update phases object next) log

/-- A log is respected exactly if it is respected on every object. -/
theorem perform_iff {phases final : Object -> Phase} {log : List (Object × Call)} :
    usage.perform phases log = some final <->
      forall object, usage.after (phases object) (callsOn object log) = some (final object) := by
  induction log generalizing phases with
  | nil =>
      constructor
      · intro same
        cases same
        exact fun _ => rfl
      · intro same
        rw [perform]
        exact congrArg some (funext fun object => Option.some.inj (same object))
  | cons entry log ih =>
      rcases entry with ⟨changed, call⟩
      rw [perform]
      cases allowed : usage.next (phases changed) call with
      | none =>
          constructor
          · intro impossible
            cases impossible
          · intro all
            have impossible := all changed
            rw [callsOn, if_pos rfl, after, allowed] at impossible
            cases impossible
      | some next =>
          rw [Option.bind_some, ih]
          refine forall_congr' fun object => ?_
          rw [callsOn]
          by_cases same : changed = object
          · cases same
            rw [if_pos rfl, after, allowed, Function.update_self]
            rfl
          · rw [if_neg same, Function.update_of_ne (Ne.symm same)]

theorem perform_append {phases middle final : Object -> Phase}
    {first second : List (Object × Call)} (early : usage.perform phases first = some middle)
    (late : usage.perform middle second = some final) :
    usage.perform phases (first ++ second) = some final := by
  rw [perform_iff] at early late ⊢
  intro object
  rw [callsOn_append]
  exact usage.after_of_append (early object) (late object)

/-- The calls on one object change its phase only. -/
theorem perform_one {phases : Object -> Phase} {object : Object} {calls : List Call}
    {next : Phase} (respected : usage.after (phases object) calls = some next) :
    usage.perform phases (calls.map fun call => (object, call)) =
      some (Function.update phases object next) := by
  rw [perform_iff]
  intro other
  by_cases same : other = object
  · cases same
    rw [callsOn_self, Function.update_self]
    exact respected
  · rw [callsOn_other (Ne.symm same), Function.update_of_ne same]
    rfl

end Usage
end DyunGu
