import DyunGu.Graph.Diff
import DyunGu.Graph.Tracked
import DyunGu.Lib.Machine

namespace DyunGu
namespace Graph

open DyunGu.Core (ResourcePolicy)

/-!
# Watching a graph file

A thread loads a graph, remembers what the files of the load look like from the
outside, and looks again every now and then.  When one of them looks different
it waits a little, loads the graph again, and reports it with the difference to
the graph before.

Files change at any time.  A load sees one state of the file system; the states
of the files are read one after the other, after the load.  How much time has
passed is an answer of the environment.
-/

structure FileState where
  modified : Nat
  len : Nat
  ino : Nat
deriving DecidableEq, Repr

/-- The files, and what their metadata are. -/
structure World (Path : Type) where
  fs : FileSystem Path
  metadata : Path -> Option FileState

structure Watch (Path : Type) where
  main : Path
  registry : Registry
  render : Value -> String
  depth : Nat

namespace Watch

variable {Path : Type}

inductive Phase (Path : Type) where
  | loading
  /-- The states of the files of a load are read, and then it is reported. -/
  | statting (rest : List Path) (report : Option (GraphSpec × GraphDiff))
  | waiting (pending : Bool)
  | scanning (rest : List Path) (next : Path -> Option (Option FileState)) (changed : Bool)
  | stopped

structure State (Path : Type) where
  world : World Path
  phase : Phase Path
  previous : Option GraphSpec
  tracked : List Path
  states : Path -> Option (Option FileState)
  reports : List (Except (LoadError Path) (GraphSpec × GraphDiff))

inductive Label (Path : Type) where
  | change (world : World Path)
  /-- The next step of the thread, and whether a pending change is old enough. -/
  | step (elapsed : Bool)
  | stop

def start (world : World Path) : State Path where
  world := world
  phase := .loading
  previous := none
  tracked := []
  states := fun _ => none
  reports := []

/-- What a reload is reported as. -/
def report (previous : Option GraphSpec) (spec : GraphSpec) : GraphSpec × GraphDiff :=
  (spec, GraphSpec.diff (previous.getD GraphSpec.default) spec)

variable [DecidableEq Path] (watch : Watch Path)

/-- `load_from_path_with_includes`. -/
def load (fs : FileSystem Path) : Option (Except (LoadError Path) (GraphSpec × List Path)) :=
  (fs.loadFromPath watch.registry watch.render watch.depth ResourcePolicy.default watch.main).map
    (Except.map fun loaded => (loaded.1, loaded.2.included))

def threadStep (state : State Path) (elapsed : Bool) : Option (State Path) :=
  match state.phase with
  | .loading =>
      (watch.load state.world.fs).map fun
        | .error error => { state with phase := .stopped, reports := [.error error] }
        | .ok (spec, tracked) =>
            { state with
              phase := .statting tracked none, previous := some spec, tracked := tracked
              states := fun _ => none }
  | .statting [] report =>
      some { state with
        phase := .waiting false
        reports := state.reports ++ report.toList.map .ok }
  | .statting (path :: rest) report =>
      some { state with
        phase := .statting rest report
        states := Function.update state.states path (some (state.world.metadata path)) }
  | .waiting false => some { state with phase := .scanning state.tracked (fun _ => none) false }
  | .waiting true =>
      if elapsed then
        (watch.load state.world.fs).map fun
          | .error error =>
              { state with phase := .waiting false, reports := state.reports ++ [.error error] }
          | .ok (spec, tracked) =>
              { state with
                phase := .statting tracked (some (Watch.report state.previous spec))
                previous := some spec, tracked := tracked, states := fun _ => none }
      else some state
  | .scanning (path :: rest) next changed =>
      let now := state.world.metadata path
      some { state with
        phase := .scanning rest (Function.update next path (some now))
          (changed || decide (state.states path ≠ some now)) }
  | .scanning [] next changed => some { state with phase := .waiting changed, states := next }
  | .stopped => none

def step (state : State Path) : Label Path -> Option (State Path)
  | .change world => some { state with world := world }
  | .step elapsed => watch.threadStep state elapsed
  | .stop =>
      match state.phase with
      | .waiting _ => some { state with phase := .stopped }
      | _ => none

def machine : Machine (State Path) (Label Path) where
  step := watch.step

/-! ## Runs in which nothing changes unseen -/

section Faith

variable (contents : Path -> Option FileState -> Except Error (List UInt8))

/-- What a file looks like from the outside tells what is in it. -/
def Tells (world : World Path) : Prop :=
  forall path, world.fs.open_ path = contents path (world.metadata path)

/-- Paths keep their meaning, files that look the same are the same, and no file
of a load changes between the load and the reading of its state. -/
def Seen (state : State Path) : Label Path -> Prop
  | .change world =>
      FileSystem.SameNames state.world.fs world.fs ∧ Tells contents world ∧
        forall rest report, state.phase = .statting rest report -> forall path, path ∈ rest ->
          world.metadata path = state.world.metadata path
  | .step _ | .stop => True

/-- The last attempt to load the graph again did not fail. -/
def Succeeded (reports : List (Except (LoadError Path) (GraphSpec × GraphDiff))) : Prop :=
  forall error, reports.getLast? ≠ some (.error error)

/-- The recorded state of a file is one of its contents at the last load. -/
def Recorded (fs : FileSystem Path) (states : Path -> Option (Option FileState)) (path : Path) :
    Prop :=
  Exists fun seen => states path = some seen ∧ contents path seen = fs.open_ path

/-- What is known of the recorded states in each phase, with the files as they
were at the last load. -/
def Holds (state : State Path) (fs : FileSystem Path) : Prop :=
  match state.phase with
  | .statting rest _ => forall path, path ∈ state.tracked ->
      (path ∈ rest -> state.world.fs.open_ path = fs.open_ path) ∧
        (path ∉ rest -> Recorded contents fs state.states path)
  | .waiting false => Succeeded state.reports ->
      forall path, path ∈ state.tracked -> Recorded contents fs state.states path
  | .scanning rest next changed => Succeeded state.reports ->
      forall path, path ∈ state.tracked -> Recorded contents fs state.states path ∧
        (changed = false -> path ∉ rest -> next path = state.states path)
  | .loading | .waiting true | .stopped => True

structure Kept (state : State Path) : Prop where
  tells : Tells contents state.world
  started : state.phase ≠ .loading -> state.phase ≠ .stopped -> state.previous ≠ none
  loaded : forall spec, state.previous = some spec ->
    Exists fun fs => FileSystem.SameNames fs state.world.fs ∧
      watch.load fs = some (.ok (spec, state.tracked)) ∧ Holds contents state fs

variable {contents} {watch}

theorem Kept.start {world : World Path} (tells : Tells contents world) :
    Kept watch contents (Watch.start world) where
  tells := tells
  started := fun loads => absurd rfl loads
  loaded := by
    intro spec isPrevious
    cases isPrevious

/-- A load that has just succeeded. -/
theorem Kept.reloaded {state : State Path} {spec : GraphSpec} {tracked : List Path}
    {report : Option (GraphSpec × GraphDiff)} {states : Path -> Option (Option FileState)}
    (tells : Tells contents state.world)
    (loads : watch.load state.world.fs = some (.ok (spec, tracked))) :
    Kept watch contents
      { state with
        phase := .statting tracked report, previous := some spec, tracked := tracked
        states := states } where
  tells := tells
  started := fun _ _ => Option.some_ne_none _
  loaded := by
    intro other isPrevious
    cases isPrevious
    exact ⟨state.world.fs, FileSystem.SameNames.refl _, loads, fun path member =>
      ⟨fun _ => rfl, fun absent => absurd member absent⟩⟩

/-- A step that loads nothing. -/
theorem Kept.goesOn {state next : State Path} (kept : Kept watch contents state)
    (world : next.world = state.world) (previous : next.previous = state.previous)
    (tracked : next.tracked = state.tracked) (running : state.phase ≠ .loading)
    (alive : state.phase ≠ .stopped)
    (holds : forall fs, FileSystem.SameNames fs state.world.fs -> Holds contents state fs ->
      Holds contents next fs) : Kept watch contents next where
  tells := world ▸ kept.tells
  started := fun _ _ => previous ▸ kept.started running alive
  loaded := by
    intro spec isPrevious
    rcases kept.loaded spec (previous ▸ isPrevious) with ⟨fs, names, loads, before⟩
    exact ⟨fs, world ▸ names, tracked ▸ loads, holds fs names before⟩

omit [DecidableEq Path] in
theorem succeeded_append {reports : List (Except (LoadError Path) (GraphSpec × GraphDiff))}
    {error : LoadError Path} : ¬ Succeeded (reports ++ [.error error]) := by
  intro succeeded
  exact succeeded error List.getLast?_concat

/-- A change that is seen keeps what is known. -/
theorem Kept.change {state : State Path} {world : World Path}
    (kept : Kept watch contents state) (seen : Seen contents state (.change world)) :
    Kept watch contents { state with world := world } where
  tells := seen.2.1
  started := kept.started
  loaded := by
    intro spec isPrevious
    rcases kept.loaded spec isPrevious with ⟨fs, names, loads, holds⟩
    refine ⟨fs, names.trans seen.1, loads, ?_⟩
    unfold Holds at holds ⊢
    dsimp only
    cases phase : state.phase with
    | statting rest report =>
        rw [phase] at holds
        dsimp only at holds ⊢
        intro path member
        refine ⟨fun waits => ?_, (holds path member).2⟩
        have same := seen.2.2 rest report phase path waits
        rw [seen.2.1 path, same, ← kept.tells path]
        exact (holds path member).1 waits
    | waiting pending =>
        rw [phase] at holds
        cases pending <;> exact holds
    | _ =>
        rw [phase] at holds
        exact holds

theorem Kept.thread {state next : State Path} (kept : Kept watch contents state) {elapsed : Bool}
    (stepped : watch.threadStep state elapsed = some next) : Kept watch contents next := by
  unfold threadStep at stepped
  split at stepped
  · rename_i phase
    rcases Option.map_eq_some_iff.mp stepped with ⟨result, loads, isNext⟩
    cases result with
    | error error =>
        cases isNext
        refine ⟨kept.tells, fun _ alive => absurd rfl alive, fun spec isPrevious => ?_⟩
        rcases kept.loaded spec isPrevious with ⟨fs, names, before, _⟩
        exact ⟨fs, names, before, trivial⟩
    | ok loaded =>
        cases isNext
        exact Kept.reloaded kept.tells loads
  · rename_i report phase
    cases stepped
    refine kept.goesOn rfl rfl rfl (by simp [phase]) (by simp [phase]) fun fs names holds => ?_
    unfold Holds at holds ⊢
    rw [phase] at holds
    exact fun _ path member => (holds path member).2 List.not_mem_nil
  · rename_i path rest report phase
    cases stepped
    refine kept.goesOn rfl rfl rfl (by simp [phase]) (by simp [phase]) fun fs names holds => ?_
    unfold Holds at holds ⊢
    rw [phase] at holds
    dsimp only at holds ⊢
    intro other member
    rcases holds other member with ⟨waits, recorded⟩
    refine ⟨fun later => waits (List.mem_cons_of_mem _ later), fun absent => ?_⟩
    by_cases same : other = path
    · subst same
      refine ⟨state.world.metadata other, Function.update_self _ _ _, ?_⟩
      rw [← kept.tells other]
      exact waits List.mem_cons_self
    · rcases recorded (fun inside => (List.mem_cons.mp inside).elim same absent) with
        ⟨seen, isSeen, same'⟩
      exact ⟨seen, (Function.update_of_ne same _ _).trans isSeen, same'⟩
  · rename_i phase
    cases stepped
    refine kept.goesOn rfl rfl rfl (by simp [phase]) (by simp [phase]) fun fs names holds => ?_
    unfold Holds at holds ⊢
    rw [phase] at holds
    exact fun succeeded path member =>
      ⟨holds succeeded path member, fun _ absent => absurd member absent⟩
  · rename_i phase
    split at stepped
    · rcases Option.map_eq_some_iff.mp stepped with ⟨result, loads, isNext⟩
      cases result with
      | error error =>
          cases isNext
          refine kept.goesOn rfl rfl rfl (by simp [phase]) (by simp [phase]) fun fs names _ => ?_
          exact fun succeeded => absurd succeeded succeeded_append
      | ok loaded =>
          cases isNext
          exact Kept.reloaded kept.tells loads
    · cases stepped
      exact kept
  · rename_i path rest read changed phase
    cases stepped
    refine kept.goesOn rfl rfl rfl (by simp [phase]) (by simp [phase]) fun fs names holds => ?_
    unfold Holds at holds ⊢
    rw [phase] at holds
    dsimp only at holds ⊢
    intro succeeded other member
    rcases holds succeeded other member with ⟨recorded, same⟩
    refine ⟨recorded, fun quiet absent => ?_⟩
    rw [Bool.or_eq_false_iff, decide_eq_false_iff_not, not_not] at quiet
    by_cases isPath : other = path
    · subst isPath
      rw [Function.update_self]
      exact quiet.2.symm
    · rw [Function.update_of_ne isPath]
      exact same quiet.1 fun inside => (List.mem_cons.mp inside).elim isPath absent
  · rename_i read changed phase
    cases stepped
    refine kept.goesOn rfl rfl rfl (by simp [phase]) (by simp [phase]) fun fs names holds => ?_
    unfold Holds at holds ⊢
    rw [phase] at holds
    dsimp only at holds ⊢
    cases changed with
    | true => trivial
    | false =>
        intro succeeded path member
        rcases holds succeeded path member with ⟨⟨seen, isSeen, same⟩, kept⟩
        exact ⟨seen, (kept rfl List.not_mem_nil).trans isSeen, same⟩
  · cases stepped

theorem Kept.step {state next : State Path} (kept : Kept watch contents state)
    {label : Label Path} (seen : Seen contents state label)
    (stepped : watch.step state label = some next) : Kept watch contents next := by
  cases label with
  | change world =>
      cases stepped
      exact kept.change seen
  | step elapsed => exact kept.thread stepped
  | stop =>
      simp only [Watch.step] at stepped
      split at stepped
      · cases stepped
        refine ⟨kept.tells, fun _ alive => absurd rfl alive, fun spec isPrevious => ?_⟩
        rcases kept.loaded spec isPrevious with ⟨fs, names, loads, _⟩
        exact ⟨fs, names, loads, trivial⟩
      · cases stepped

theorem Kept.run {world : World Path} (tells : Tells contents world) {labels : List (Label Path)}
    {state : State Path}
    (seen : watch.machine.Meets (Seen contents) (Watch.start world) labels)
    (reached : watch.machine.run (Watch.start world) labels = some state) :
    Kept watch contents state :=
  watch.machine.run_invariant_of_meets (Kept watch contents)
    (fun _ _ _ kept seen stepped => kept.step seen stepped) (Kept.start tells) seen reached

/-- A load would find what it found before, or a file looks different. -/
theorem Kept.current {state : State Path} (kept : Kept watch contents state)
    (idle : state.phase = .waiting false) (succeeded : Succeeded state.reports) :
    Exists fun spec => state.previous = some spec ∧
      (watch.load state.world.fs = some (.ok (spec, state.tracked)) ∨
        Exists fun path => path ∈ state.tracked ∧
          state.states path ≠ some (state.world.metadata path)) := by
  have known := kept.started (by simp [idle]) (by simp [idle])
  rcases Option.ne_none_iff_exists'.mp known with ⟨spec, isPrevious⟩
  refine ⟨spec, isPrevious, ?_⟩
  by_cases looks : forall path, path ∈ state.tracked ->
      state.states path = some (state.world.metadata path)
  · rcases kept.loaded spec isPrevious with ⟨fs, names, loads, holds⟩
    unfold Holds at holds
    rw [idle] at holds
    refine Or.inl ?_
    unfold load at loads ⊢
    rcases Option.map_eq_some_iff.mp loads with ⟨result, loaded, isResult⟩
    cases result with
    | error error => cases isResult
    | ok loaded' =>
        rcases loaded' with ⟨spec', after⟩
        have parts : spec' = spec ∧ after.included = state.tracked := by
          simpa [Except.map] using isResult
        rcases parts with ⟨rfl, isTracked⟩
        rw [FileSystem.load_reads_tracked names loaded fun file member => ?_, ← isTracked]
        · rfl
        · rw [isTracked] at member
          rcases holds succeeded file member with ⟨seen, isSeen, same⟩
          have isNow := looks file member
          rw [isSeen, Option.some.injEq] at isNow
          rw [kept.tells file, ← isNow, same]
  · simp only [not_forall] at looks
    rcases looks with ⟨path, member, differs⟩
    exact Or.inr ⟨path, member, differs⟩

end Faith

/-! ## What a change leads to -/

section Notice

variable {watch}

/-- Steps of the thread, with a wait that is long enough. -/
def steps (count : Nat) : List (Label Path) := List.replicate count (.step true)

theorem run_steps {state next final : State Path} {count : Nat}
    (stepped : watch.threadStep state true = some next)
    (rest : watch.machine.run next (steps count) = some final) :
    watch.machine.run state (steps (count + 1)) = some final :=
  watch.machine.run_cons_iff.mpr ⟨next, stepped, rest⟩

theorem run_steps_append {state middle final : State Path} {first second : Nat}
    (reached : watch.machine.run state (steps first) = some middle)
    (rest : watch.machine.run middle (steps second) = some final) :
    watch.machine.run state (steps (first + second)) = some final := by
  unfold steps at reached rest ⊢
  rw [List.replicate_add, watch.machine.run_append reached, rest]

/-- A scan looks at all files that are left, and remembers a difference. -/
theorem run_scan {state : State Path} {rest : List Path}
    {read : Path -> Option (Option FileState)} {changed : Bool}
    (phase : state.phase = .scanning rest read changed)
    (differs : changed = true ∨ Exists fun path => path ∈ rest ∧
      state.states path ≠ some (state.world.metadata path)) :
    Exists fun states => watch.machine.run state (steps (rest.length + 1)) =
      some { state with phase := .waiting true, states := states } := by
  induction rest generalizing state read changed with
  | nil =>
      have isChanged : changed = true := by
        rcases differs with known | ⟨path, member, _⟩
        · exact known
        · cases member
      refine ⟨read, run_steps ?_ rfl⟩
      unfold threadStep
      rw [phase, isChanged]
  | cons path rest ih =>
      have later : (changed || decide (state.states path ≠ some (state.world.metadata path))) =
          true ∨ Exists fun other => other ∈ rest ∧
            state.states other ≠ some (state.world.metadata other) := by
        rcases differs with known | ⟨other, member, looks⟩
        · exact Or.inl (by rw [known, Bool.true_or])
        · rcases List.mem_cons.mp member with rfl | inRest
          · exact Or.inl (by rw [decide_eq_true looks, Bool.or_true])
          · exact Or.inr ⟨other, inRest, looks⟩
      rcases @ih { state with
          phase := .scanning rest (Function.update read path (some (state.world.metadata path)))
            (changed || decide (state.states path ≠ some (state.world.metadata path))) }
        _ _ rfl later with ⟨states, reached⟩
      refine ⟨states, run_steps ?_ reached⟩
      unfold threadStep
      rw [phase]

/-- After a load the states of all files are read, and it is reported. -/
theorem run_stat {state : State Path} {rest : List Path} {made : Option (GraphSpec × GraphDiff)}
    (phase : state.phase = .statting rest made) :
    Exists fun states => watch.machine.run state (steps (rest.length + 1)) =
      some { state with
        phase := .waiting false, states := states
        reports := state.reports ++ made.toList.map .ok } := by
  induction rest generalizing state with
  | nil =>
      refine ⟨state.states, @run_steps _ _ watch state { state with
        phase := .waiting false
        reports := state.reports ++ made.toList.map .ok } _ 0 ?_ rfl⟩
      unfold threadStep
      rw [phase]
  | cons path rest ih =>
      rcases @ih { state with
        phase := .statting rest made
        states := Function.update state.states path (some (state.world.metadata path)) } rfl with
        ⟨states, reached⟩
      refine ⟨states, run_steps ?_ reached⟩
      unfold threadStep
      rw [phase]

/-- What the thread makes of a load. -/
def outcome (previous : Option GraphSpec)
    (result : Except (LoadError Path) (GraphSpec × List Path)) :
    Except (LoadError Path) (GraphSpec × GraphDiff) :=
  result.map fun loaded => Watch.report previous loaded.1

/-- When a file looks different and the files stay as they are, the thread loads
the graph again and reports what came of it. -/
theorem notices {state : State Path} (idle : state.phase = .waiting false) {path : Path}
    (member : path ∈ state.tracked)
    (differs : state.states path ≠ some (state.world.metadata path))
    {result : Except (LoadError Path) (GraphSpec × List Path)}
    (loads : watch.load state.world.fs = some result) :
    Exists fun count => Exists fun final =>
      watch.machine.run state (steps count) = some final ∧ final.phase = .waiting false ∧
        final.reports = state.reports ++ [outcome state.previous result] := by
  have begins : watch.machine.run state (steps 1) =
      some { state with phase := .scanning state.tracked (fun _ => none) false } := by
    refine run_steps ?_ rfl
    unfold threadStep
    rw [idle]
  rcases @run_scan _ _ watch
    { state with phase := .scanning state.tracked (fun _ => none) false } _ _ _ rfl
    (Or.inr ⟨path, member, differs⟩) with ⟨states, scanned⟩
  have changed := run_steps_append begins scanned
  dsimp only at changed
  cases result with
  | error error =>
      have reloads : watch.machine.run { state with phase := .waiting true, states := states }
          (steps 1) = some { state with
            phase := .waiting false, states := states
            reports := state.reports ++ [.error error] } := by
        refine run_steps ?_ rfl
        simp only [threadStep, if_true, loads, Option.map_some]
      exact ⟨_, _, run_steps_append changed reloads, rfl, rfl⟩
  | ok loaded =>
      have reloads : watch.machine.run { state with phase := .waiting true, states := states }
          (steps 1) = some { state with
            phase := .statting loaded.2 (some (Watch.report state.previous loaded.1))
            previous := some loaded.1, tracked := loaded.2, states := fun _ => none } := by
        refine run_steps ?_ rfl
        simp only [threadStep, if_true, loads, Option.map_some]
      rcases @run_stat _ _ watch { state with
        phase := .statting loaded.2 (some (Watch.report state.previous loaded.1))
        previous := some loaded.1, tracked := loaded.2, states := fun _ => none } _ _ rfl with
        ⟨read, reported⟩
      exact ⟨_, _, run_steps_append (run_steps_append changed reloads) reported, rfl, rfl⟩

end Notice

/-- A desk whose files say these letters and look like these numbers. -/
def deskWorld (mainText partText : UInt8) : World String where
  fs := FileSystem.desk mainText partText
  metadata := fun path =>
    if path = "/g" then none
    else if path = "/g/main.json" then some ⟨mainText.toNat, 1, 1⟩
    else some ⟨partText.toNat, 1, 2⟩

def deskContents (path : String) (seen : Option FileState) : Except Error (List UInt8) :=
  match seen with
  | none => .error (.io "Is a directory")
  | some state => .ok [UInt8.ofNat state.modified]

theorem desk_tells (mainText partText : UInt8) :
    Tells deskContents (deskWorld mainText partText) := by
  intro path
  unfold deskWorld FileSystem.desk deskContents
  dsimp only
  split
  · rfl
  · split <;> simp

def deskWatch : Watch String where
  main := "/g/main.json"
  registry := FileSystem.noElements
  render := fun _ => ""
  depth := 3

/-- A graph that was loaded, and is then given an include. -/
def includeAdded : List (Label String) := steps 3 ++ [.change (deskWorld 102 112)]

/-- The include is not readable at first, and is put right after the reload. -/
def includeFixed : List (Label String) :=
  steps 3 ++ .change (deskWorld 102 255) :: steps 4 ++ [.change (deskWorld 102 112)]

theorem desk_names (mainText partText otherMain otherPart : UInt8) :
    FileSystem.SameNames (deskWorld mainText partText).fs (deskWorld otherMain otherPart).fs :=
  ⟨rfl, rfl, rfl, rfl, rfl, rfl⟩

theorem includeAdded_seen :
    deskWatch.machine.Meets (Seen deskContents) (Watch.start (deskWorld 120 112))
      includeAdded := by
  refine ⟨trivial, fun first loads => ⟨trivial, fun second stats => ⟨trivial,
    fun third reports => ⟨?_, fun _ _ => trivial⟩⟩⟩⟩
  cases loads
  cases stats
  cases reports
  refine ⟨desk_names 120 112 102 112, desk_tells 102 112, fun rest report phase => ?_⟩
  cases phase

/-- After a reload that failed, a watcher does not look at the files that this
reload was the first to open.  It waits with the old graph while all that it
looks at is as it was, and a load would succeed. -/
example :
    let state := deskWatch.machine.after (Watch.start (deskWorld 120 112)) includeFixed
    (deskWatch.machine.run (Watch.start (deskWorld 120 112)) includeFixed).isSome = true ∧
      (forall path, path ∈ state.tracked -> state.states path = some (state.world.metadata path)) ∧
      state.previous = some GraphSpec.default ∧
      deskWatch.load state.world.fs =
        some (.ok ({ GraphSpec.default with limits := FileSystem.fewNodes },
          ["/g/main.json", "/g/part.json"])) := by
  refine ⟨by decide +kernel, ?_, by decide +kernel, by decide +kernel⟩
  have tracked : (deskWatch.machine.after (Watch.start (deskWorld 120 112)) includeFixed).tracked =
      ["/g/main.json"] := by
    decide +kernel
  intro path member
  rw [tracked, List.mem_singleton] at member
  subst member
  decide +kernel

end Watch
end Graph
end DyunGu
