import DyunGu.Graph.Rollback

namespace DyunGu
namespace Graph

open DyunGu.Core (ResourcePolicy)

variable {E T : Type}

/-!
# What failed updates leave of collected results

A running graph keeps one collector for each sink and one metrics entry for
each node.  While it joins the affected nodes, an update erases the entries of
those that are removed, one after another.  If the update fails before the
routes are switched, the nodes that were joined are created again, and with
them new collectors.
-/

/-- Take the collected tensors. -/
def SinkCollector.drainTensors (collector : SinkCollector T) : SinkCollector T × List T :=
  ({ collector with tensors := [] }, collector.tensors)

namespace RunningGraph

def drainSinks (graph : RunningGraph T) : RunningGraph T × List T :=
  ({ graph with sinks := graph.sinks.map fun _ collector => collector.drainTensors.1 },
    graph.sinks.toList.flatMap fun entry => entry.2.drainTensors.2)

/-- A sink collects one more tensor. -/
def collect (graph : RunningGraph T) (name : String) (tensor : T) : RunningGraph T :=
  match graph.sinks[name]? with
  | none => graph
  | some collector =>
      { graph with
        sinks := graph.sinks.insert name
          { collector with tensors := collector.tensors ++ [tensor] } }

/-- All that was collected and measured is still there. -/
structure Survives (before after : RunningGraph T) : Prop where
  collected : forall (name : String) (collector : SinkCollector T),
    before.sinks[name]? = some collector ->
      Exists fun kept => after.sinks[name]? = some kept ∧ collector.tensors <+: kept.tensors
  drained : before.drainSinks.2.Sublist after.drainSinks.2
  measured : forall name : String, name ∈ before.metrics -> name ∈ after.metrics

/-- The update ends before the routes are switched: it is refused, an affected
node ends badly, or the fault after joining is injected. -/
def EndsBeforeSwitch (env : UpdateEnv E T) (graph : RunningGraph T) : Course E T -> Prop
  | .idle => False
  | .refused => True
  | .planned plan =>
      (Exists fun name => name ∈ plan.affected.keys ∧
        endsCleanly env graph.workers name = false) ∨ env.afterQuiesce = true

/-! ## The condition -/

/-- The nodes that are spawned again, up to the first one that cannot be. -/
def spawnedAgain (registry : Registry) (env : UpdateEnv E T) (graph : RunningGraph T) :
    List String -> List (String × PreparedNode E T)
  | [] => []
  | name :: names =>
      match findNode graph.spec name with
      | none => spawnedAgain registry env graph names
      | some node =>
          match PreparedNode.new registry env.restore node with
          | .error _ => []
          | .ok prepared =>
              if (checkRoutes graph.routes name graph.spec.connections).isOk &&
                  (env.restoreSpawn name prepared.elements.length).isNone then
                (name, prepared) :: spawnedAgain registry env graph names
              else []

/-- The nodes that an interrupted update spawns again. -/
def restoredNodes (registry : Registry) (env : UpdateEnv E T) (graph : RunningGraph T)
    (affected : List String) : List (String × PreparedNode E T) :=
  match effectiveLimits graph.policy graph.spec with
  | .error _ => []
  | .ok _ => spawnedAgain registry env graph (joinedFirst env graph.workers affected)

/-- The node is removed, and the update has gone past it. -/
def Erased (env : UpdateEnv E T) (graph : RunningGraph T) (affected removed : List String)
    (name : String) : Prop :=
  name ∈ affected.takeWhile (endsCleanly env graph.workers) ∧ name ∈ removed

instance (env : UpdateEnv E T) (graph : RunningGraph T) (affected removed : List String)
    (name : String) : Decidable (Erased env graph affected removed name) :=
  inferInstanceAs (Decidable (_ ∧ _))

/-- A sink that is created again has nothing to lose, and a removed node whose
entries are erased is created again. -/
structure Keeps (registry : Registry) (env : UpdateEnv E T) (graph : RunningGraph T)
    (affected removed : List String) : Prop where
  replaced : forall (name : String) (collector fresh : SinkCollector T)
      (prepared : PreparedNode E T),
    graph.sinks[name]? = some collector ->
    (name, prepared) ∈ restoredNodes registry env graph affected ->
    prepared.handle = .sink fresh -> collector.tensors <+: fresh.tensors
  sinks : forall name : String, name ∈ graph.sinks -> Erased env graph affected removed name ->
    Exists fun prepared => Exists fun fresh =>
      (name, prepared) ∈ restoredNodes registry env graph affected ∧ prepared.handle = .sink fresh
  metrics : forall name : String, name ∈ graph.metrics ->
    Erased env graph affected removed name ->
    Exists fun prepared => (name, prepared) ∈ restoredNodes registry env graph affected

/-! ## Joining -/

/-- The records without those of some removed nodes. -/
def eraseRecords (removed : List String) (records : NodeRecords T) (names : List String) :
    NodeRecords T :=
  names.foldl (fun records name => if name ∈ removed then records.remove name else records) records

theorem eraseRecords_eq (removed names : List String) (records : NodeRecords T) :
    eraseRecords removed records names =
      ⟨names.foldl (fun sinks name => if name ∈ removed then sinks.erase name else sinks)
          records.sinks,
        names.foldl (fun metrics name => if name ∈ removed then metrics.erase name else metrics)
          records.metrics⟩ := by
  induction names generalizing records with
  | nil => rfl
  | cons name names ih =>
      show eraseRecords removed (if name ∈ removed then records.remove name else records) names = _
      rw [ih, List.foldl_cons, List.foldl_cons]
      by_cases isRemoved : name ∈ removed
      · simp only [if_pos isRemoved]
        rfl
      · simp only [if_neg isRemoved]

theorem eraseRecords_sinks (removed names : List String) (records : NodeRecords T)
    (name : String) :
    (eraseRecords removed records names).sinks[name]? =
      if name ∈ names ∧ name ∈ removed then none else records.sinks[name]? := by
  rw [eraseRecords_eq]
  exact OrderedMap.getElem?_foldl_erase (· ∈ removed) names records.sinks name

theorem eraseRecords_metrics (removed names : List String) (records : NodeRecords T)
    (name : String) :
    (eraseRecords removed records names).metrics[name]? =
      if name ∈ names ∧ name ∈ removed then none else records.metrics[name]? := by
  rw [eraseRecords_eq]
  exact OrderedMap.getElem?_foldl_erase (· ∈ removed) names records.metrics name

/-- The loop that joins the affected nodes erases the removed ones up to the
first node that ends badly. -/
theorem joinAffected_records (env : UpdateEnv E T) (removed : List String)
    (whole : Std.TreeMap String LiveNode) {names : List String} (distinct : names.Nodup)
    (workers : Std.TreeMap String LiveNode) (records : NodeRecords T) (joined : List String)
    (ahead : forall name : String, name ∈ names -> workers[name]? = whole[name]?) :
    (joinAffected env.ends removed workers records joined names).2.1 =
      eraseRecords removed records (names.takeWhile (endsCleanly env whole)) := by
  induction names generalizing workers records joined with
  | nil => rfl
  | cons name names ih =>
      rw [List.nodup_cons] at distinct
      have here := ahead name List.mem_cons_self
      unfold joinAffected
      cases found : workers[name]? with
      | none =>
          have clean : endsCleanly env whole name = true := by
            rw [endsCleanly, ← here, found]
          rw [List.takeWhile_cons_of_pos clean]
          exact ih distinct.2 workers _ joined
            fun other member => ahead other (List.mem_cons_of_mem _ member)
      | some node =>
          have isClean : endsCleanly env whole name =
              (joinWorkers true name env.ends node.workers).isOk := by
            rw [endsCleanly, ← here, found]
          dsimp only
          cases ended : joinWorkers true name env.ends node.workers with
          | error error =>
              rw [ended] at isClean
              rw [List.takeWhile_cons, isClean]
              rfl
          | ok done =>
              rw [ended] at isClean
              rw [List.takeWhile_cons, isClean]
              refine ih distinct.2 (workers.erase name) _ (joined ++ [name]) fun other member => ?_
              have apart : name ≠ other := fun same => distinct.1 (same ▸ member)
              rw [OrderedMap.getElem?_erase, if_neg apart]
              exact ahead other (List.mem_cons_of_mem _ member)

/-! ## Spawning again -/

/-- The collectors with those of the nodes that were spawned. -/
def insertSinks (policy : ResourcePolicy) (sinks : Std.TreeMap String (SinkCollector T))
    (nodes : List (String × PreparedNode E T)) : Std.TreeMap String (SinkCollector T) :=
  nodes.foldl
    (fun sinks node =>
      match node.2.handle with
      | .sink collector =>
          sinks.insert node.1 (collector.setBudget policy.maxBufferPackets policy.maxBufferBytes)
      | .none | .input _ => sinks) sinks

def insertMetrics (metrics : Std.TreeMap String Unit) (nodes : List (String × PreparedNode E T)) :
    Std.TreeMap String Unit :=
  nodes.foldl (fun metrics node => metrics.insert node.1 ()) metrics

/-- What spawning the joined nodes again does to the records. -/
theorem respawnNodes_records (registry : Registry) (env : UpdateEnv E T) (policy : ResourcePolicy)
    {names : List String} (distinct : names.Nodup) {graph current : RunningGraph T}
    (routes : current.routes = graph.routes)
    (absent : forall name : String, name ∈ names -> name ∉ current.workers) :
    (respawnNodes registry env policy graph.spec current names).1.sinks =
        insertSinks policy current.sinks (spawnedAgain registry env graph names) ∧
      (respawnNodes registry env policy graph.spec current names).1.metrics =
        insertMetrics current.metrics (spawnedAgain registry env graph names) := by
  induction names generalizing current with
  | nil => exact ⟨rfl, rfl⟩
  | cons name names ih =>
      rw [List.nodup_cons] at distinct
      have later : forall other : String, other ∈ names -> other ∉ current.workers :=
        fun other member => absent other (List.mem_cons_of_mem _ member)
      unfold respawnNodes spawnedAgain
      cases found : findNode graph.spec name with
      | none => exact ih distinct.2 routes later
      | some node =>
          have isName := (findNode_some found).2
          dsimp only
          rw [if_neg (absent name List.mem_cons_self)]
          cases prepares : PreparedNode.new registry env.restore node with
          | error error => exact ⟨rfl, rfl⟩
          | ok prepared =>
              dsimp only
              rw [isName]
              unfold launch
              rw [routes]
              cases checked : checkRoutes graph.routes name graph.spec.connections with
              | error error => exact ⟨rfl, rfl⟩
              | ok done =>
                  dsimp only
                  cases spawned : env.restoreSpawn name prepared.elements.length with
                  | some reason => exact ⟨rfl, rfl⟩
                  | none =>
                      refine ih distinct.2 rfl fun other member inWorkers => ?_
                      rcases (OrderedMap.mem_insert _ _ _ _).mp inWorkers with same | old
                      · exact distinct.1 (same ▸ member)
                      · exact later other member old

theorem rollBack_records (registry : Registry) (env : UpdateEnv E T)
    (graph quiesced : RunningGraph T) {affected : List String} (distinct : affected.Nodup)
    (spec : quiesced.spec = graph.spec) (policy : quiesced.policy = graph.policy)
    (routes : quiesced.routes = graph.routes)
    (absent : forall name : String, name ∈ joinedFirst env graph.workers affected ->
      name ∉ quiesced.workers) (error unrestored : Error) :
    (Exists fun raised => (rollBack registry env quiesced
      (joinedFirst env graph.workers affected) error unrestored).2 = .error raised) ∧
    Exists fun limits =>
      (rollBack registry env quiesced (joinedFirst env graph.workers affected) error
          unrestored).1.sinks =
        insertSinks limits quiesced.sinks (restoredNodes registry env graph affected) ∧
      (rollBack registry env quiesced (joinedFirst env graph.workers affected) error
          unrestored).1.metrics =
        insertMetrics quiesced.metrics (restoredNodes registry env graph affected) := by
  unfold rollBack respawnNodesFromSpec restoredNodes
  rw [policy, spec]
  cases effectiveLimits graph.policy graph.spec with
  | error error => exact ⟨⟨_, rfl⟩, graph.policy, rfl, rfl⟩
  | ok effective =>
      have records := respawnNodes_records registry env effective
        (joinedFirst_nodup env graph.workers distinct) routes absent
      dsimp only
      rcases respawned : respawnNodes registry env effective graph.spec quiesced
        (joinedFirst env graph.workers affected) with ⟨after, failed | ok⟩
      · rw [respawned] at records
        exact ⟨⟨_, rfl⟩, effective, records⟩
      · rw [respawned] at records
        exact ⟨⟨_, rfl⟩, effective, records⟩

theorem mem_insertMetrics (metrics : Std.TreeMap String Unit)
    (nodes : List (String × PreparedNode E T)) (name : String) :
    name ∈ insertMetrics metrics nodes <->
      (Exists fun prepared => (name, prepared) ∈ nodes) ∨ name ∈ metrics := by
  have named : name ∈ nodes.map Prod.fst <-> Exists fun prepared => (name, prepared) ∈ nodes := by
    rw [List.mem_map]
    constructor
    · rintro ⟨⟨_, prepared⟩, member, rfl⟩
      exact ⟨prepared, member⟩
    · rintro ⟨prepared, member⟩
      exact ⟨(name, prepared), member, rfl⟩
  rw [← named]
  exact OrderedMap.mem_foldl_insert Prod.fst (fun _ => ()) nodes metrics name

/-- A name that no new collector has keeps its old one. -/
theorem insertSinks_other (policy : ResourcePolicy) (sinks : Std.TreeMap String (SinkCollector T))
    {nodes : List (String × PreparedNode E T)} {name : String}
    (other : forall prepared collector, (name, prepared) ∈ nodes ->
      prepared.handle ≠ .sink collector) :
    (insertSinks policy sinks nodes)[name]? = sinks[name]? := by
  induction nodes generalizing sinks with
  | nil => rfl
  | cons node nodes ih =>
      have later := fun prepared collector member =>
        other prepared collector (List.mem_cons_of_mem _ member)
      rcases node with ⟨key, prepared⟩
      show (insertSinks policy _ nodes)[name]? = _
      rw [ih _ later]
      dsimp only
      split
      · rename_i collector isSink
        rw [OrderedMap.getElem?_insert, if_neg]
        rintro rfl
        exact other prepared collector List.mem_cons_self isSink
      · rfl
      · rfl

theorem insertSinks_sink (policy : ResourcePolicy) (sinks : Std.TreeMap String (SinkCollector T))
    {nodes : List (String × PreparedNode E T)} (distinct : (nodes.map Prod.fst).Nodup)
    {name : String} {prepared : PreparedNode E T} {collector : SinkCollector T}
    (member : (name, prepared) ∈ nodes) (isSink : prepared.handle = .sink collector) :
    (insertSinks policy sinks nodes)[name]? =
      some (collector.setBudget policy.maxBufferPackets policy.maxBufferBytes) := by
  induction nodes generalizing sinks with
  | nil => cases member
  | cons node nodes ih =>
      rw [List.map_cons, List.nodup_cons] at distinct
      rcases List.mem_cons.mp member with isNode | later
      · cases isNode
        have others : forall other collector, (name, other) ∈ nodes ->
            other.handle ≠ .sink collector :=
          fun other _ inNodes => absurd (List.mem_map.mpr ⟨_, inNodes, rfl⟩) distinct.1
        show (insertSinks policy _ nodes)[name]? = _
        rw [insertSinks_other policy _ others]
        dsimp only
        rw [isSink]
        exact Std.TreeMap.getElem?_insert_self
      · exact ih _ distinct.2 later

theorem spawnedAgain_names (registry : Registry) (env : UpdateEnv E T) (graph : RunningGraph T)
    (names : List String) :
    ((spawnedAgain registry env graph names).map Prod.fst).Sublist names := by
  induction names with
  | nil => exact List.Sublist.refl _
  | cons name names ih =>
      unfold spawnedAgain
      split
      · exact ih.cons name
      · split
        · exact List.nil_sublist _
        · split
          · exact ih.cons_cons name
          · exact List.nil_sublist _

theorem restoredNodes_distinct (registry : Registry) (env : UpdateEnv E T)
    (graph : RunningGraph T) {affected : List String} (distinct : affected.Nodup) :
    ((restoredNodes registry env graph affected).map Prod.fst).Nodup := by
  unfold restoredNodes
  split
  · exact List.nodup_nil
  · exact (joinedFirst_nodup env graph.workers distinct).sublist (spawnedAgain_names _ _ _ _)

/-! ## Interrupted updates -/

/-- The records after an update that was interrupted: the removed nodes that
it has gone past are erased, and the restored ones are entered anew. -/
structure Interrupted (registry : Registry) (env : UpdateEnv E T) (graph : RunningGraph T)
    (affected removed : List String) (after : RunningGraph T) : Prop where
  sinks : Exists fun limits => after.sinks =
    insertSinks limits (eraseRecords removed graph.records
      (affected.takeWhile (endsCleanly env graph.workers))).sinks
      (restoredNodes registry env graph affected)
  metrics : after.metrics =
    insertMetrics (eraseRecords removed graph.records
      (affected.takeWhile (endsCleanly env graph.workers))).metrics
      (restoredNodes registry env graph affected)

theorem candidate_interrupted {registry : Registry} {env : UpdateEnv E T}
    {graph : RunningGraph T} {diff : GraphDiff} {candidate : GraphSpec} {plan : Plan E T}
    (planned : RunningGraph.plan registry env graph diff candidate = .ok plan)
    (ends : EndsBeforeSwitch env graph (.planned plan)) :
    Exists fun after => Exists fun error =>
      applyHotUpdateCandidate registry env (graph.setStatus .reloading) diff candidate =
        (after, .error error) ∧
      Interrupted registry env graph plan.affected.keys diff.removedNodes after := by
  have distinct : plan.affected.keys.Nodup := OrderedMap.nodup_keys plan.affected
  have reloading : RunningGraph.plan registry env (graph.setStatus .reloading) diff candidate =
      .ok plan := planned
  have joins := joinRaised_outcome env diff.removedNodes graph distinct
  have records := joinAffected_records env diff.removedNodes
    (plan.affected.keys.foldl raiseStop graph.workers) distinct
    (plan.affected.keys.foldl raiseStop graph.workers) graph.records [] fun _ _ => rfl
  rw [endsCleanly_raised] at records
  have rolled : forall (left : Std.TreeMap String LiveNode) (kept : NodeRecords T)
      (error unrestored : Error),
      (forall name : String, name ∈ joinedFirst env graph.workers plan.affected.keys ->
        name ∉ left) ->
      kept = eraseRecords diff.removedNodes graph.records
        (plan.affected.keys.takeWhile (endsCleanly env graph.workers)) ->
      Exists fun after => Exists fun raised =>
        rollBack registry env ((graph.setStatus .reloading).quiesced left kept)
          (joinedFirst env graph.workers plan.affected.keys) error unrestored =
            (after, .error raised) ∧
        Interrupted registry env graph plan.affected.keys diff.removedNodes after := by
    intro left kept error unrestored absent isKept
    have records := rollBack_records registry env graph
      ((graph.setStatus .reloading).quiesced left kept) distinct rfl rfl rfl absent error unrestored
    rcases rolledBack : rollBack registry env ((graph.setStatus .reloading).quiesced left kept)
      (joinedFirst env graph.workers plan.affected.keys) error unrestored with ⟨after, answer⟩
    rw [rolledBack] at records
    rcases records with ⟨⟨raised, fails⟩, limits, sinks, metrics⟩
    refine ⟨after, raised, Prod.ext rfl fails, ⟨limits, ?_⟩, ?_⟩
    · rw [← isKept]
      exact sinks
    · rw [← isKept]
      exact metrics
  unfold applyHotUpdateCandidate
  rw [reloading, show (graph.setStatus .reloading).records = graph.records from rfl]
  dsimp only
  rw [show (graph.setStatus .reloading).workers = graph.workers from rfl]
  rcases joins with ⟨left, kept, error, bad, joins, failed⟩ | ⟨left, kept, joins, all⟩
  · rw [joins] at records
    have cleared := failed.cleared
    rw [endsCleanly_raised] at cleared
    have absent : forall name : String,
        name ∈ joinedFirst env graph.workers plan.affected.keys -> name ∉ left :=
      fun name member => cleared name (mem_joinedFirst.mp member).1
    rw [joins]
    exact rolled left kept error error absent records
  · rw [joins] at records
    have clean := all.clean
    rw [endsCleanly_raised] at clean
    have absent : forall name : String,
        name ∈ joinedFirst env graph.workers plan.affected.keys -> name ∉ left := by
      intro name member inLeft
      have inAffected := (List.takeWhile_sublist _).subset (mem_joinedFirst.mp member).1
      rw [Std.TreeMap.mem_iff_isSome_getElem?, all.lookup, if_pos inAffected] at inLeft
      cases inLeft
    have fault : env.afterQuiesce = true := by
      rcases ends with ⟨name, member, dirty⟩ | fault
      · rw [clean name member] at dirty
        cases dirty
      · exact fault
    rw [joins]
    dsimp only
    rw [if_pos fault]
    exact rolled left kept _ _ absent records

namespace Interrupted

variable {registry : Registry} {env : UpdateEnv E T} {graph after : RunningGraph T}
variable {affected removed : List String}

/-- A sink that is restored collects from its fresh collector on. -/
theorem sink_replaced (interrupted : Interrupted registry env graph affected removed after)
    (distinct : affected.Nodup) {name : String} {fresh : SinkCollector T}
    {prepared : PreparedNode E T}
    (member : (name, prepared) ∈ restoredNodes registry env graph affected)
    (isSink : prepared.handle = .sink fresh) :
    Exists fun left => after.sinks[name]? = some left ∧ left.tensors = fresh.tensors := by
  rcases interrupted.sinks with ⟨limits, sinks⟩
  have names := restoredNodes_distinct registry env graph distinct
  refine ⟨fresh.setBudget limits.maxBufferPackets limits.maxBufferBytes, ?_, rfl⟩
  rw [sinks]
  exact insertSinks_sink limits _ names member isSink

theorem sink_kept (interrupted : Interrupted registry env graph affected removed after)
    {name : String}
    (other : forall prepared fresh, (name, prepared) ∈ restoredNodes registry env graph affected ->
      prepared.handle ≠ .sink fresh) :
    after.sinks[name]? =
      if Erased env graph affected removed name then none else graph.sinks[name]? := by
  rcases interrupted.sinks with ⟨limits, sinks⟩
  rw [sinks, insertSinks_other limits _ other]
  exact eraseRecords_sinks removed _ graph.records name

theorem mem_metrics (interrupted : Interrupted registry env graph affected removed after)
    (name : String) :
    name ∈ after.metrics <->
      (Exists fun prepared => (name, prepared) ∈ restoredNodes registry env graph affected) ∨
        (¬ Erased env graph affected removed name ∧ name ∈ graph.metrics) := by
  rw [interrupted.metrics, mem_insertMetrics]
  refine or_congr_right ?_
  rw [Std.TreeMap.mem_iff_isSome_getElem?, eraseRecords_metrics,
    Std.TreeMap.mem_iff_isSome_getElem?]
  change (if Erased env graph affected removed name then none
    else graph.metrics[name]?).isSome = true <-> _
  by_cases erased : Erased env graph affected removed name
  · rw [if_pos erased]
    exact ⟨fun impossible => (by cases impossible), fun both => absurd erased both.1⟩
  · rw [if_neg erased]
    exact ⟨fun found => ⟨erased, found⟩, fun both => both.2⟩

theorem keeps_of_survives (interrupted : Interrupted registry env graph affected removed after)
    (distinct : affected.Nodup) (survives : Survives graph after) :
    Keeps registry env graph affected removed := by
  refine ⟨?_, ?_, ?_⟩
  · intro name collector fresh prepared found member isSink
    rcases survives.collected name collector found with ⟨left, isLeft, more⟩
    rcases interrupted.sink_replaced distinct member isSink with ⟨entered, isEntered, tensors⟩
    rw [isEntered] at isLeft
    cases isLeft
    exact tensors ▸ more
  · intro name inSinks erased
    by_contra none_
    rcases (OrderedMap.mem_iff graph.sinks name).mp inSinks with ⟨collector, found⟩
    rcases survives.collected name collector found with ⟨left, isLeft, _⟩
    rw [interrupted.sink_kept fun prepared fresh member isSink =>
      none_ ⟨prepared, fresh, member, isSink⟩, if_pos erased] at isLeft
    cases isLeft
  · intro name inMetrics erased
    rcases (interrupted.mem_metrics name).mp (survives.measured name inMetrics) with
      again | ⟨stays, _⟩
    · exact again
    · exact absurd erased stays

theorem survives_of_keeps (interrupted : Interrupted registry env graph affected removed after)
    (distinct : affected.Nodup) (keeps : Keeps registry env graph affected removed) :
    Survives graph after := by
  have collected : forall (name : String) (collector : SinkCollector T),
      graph.sinks[name]? = some collector -> Exists fun left =>
        after.sinks[name]? = some left ∧ collector.tensors <+: left.tensors := by
    intro name collector found
    by_cases again : Exists fun prepared => Exists fun fresh =>
      (name, prepared) ∈ restoredNodes registry env graph affected ∧ prepared.handle = .sink fresh
    · rcases again with ⟨prepared, fresh, member, isSink⟩
      rcases interrupted.sink_replaced distinct member isSink with ⟨left, isLeft, tensors⟩
      refine ⟨left, isLeft, ?_⟩
      rw [tensors]
      exact keeps.replaced name collector fresh prepared found member isSink
    · have stays : ¬ Erased env graph affected removed name := by
        intro erased
        exact again (keeps.sinks name ((OrderedMap.mem_iff _ _).mpr ⟨collector, found⟩) erased)
      refine ⟨collector, ?_, List.prefix_refl _⟩
      rw [interrupted.sink_kept fun prepared fresh member isSink =>
        again ⟨prepared, fresh, member, isSink⟩, if_neg stays, found]
  refine ⟨collected, ?_, ?_⟩
  · refine OrderedMap.flatMap_sublist (fun collector : SinkCollector T =>
      collector.drainTensors.2) fun name collector found => ?_
    rcases collected name collector found with ⟨left, isLeft, more⟩
    exact ⟨left, isLeft, more.sublist⟩
  · intro name inMetrics
    by_cases erased : Erased env graph affected removed name
    · exact (interrupted.mem_metrics name).mpr (Or.inl (keeps.metrics name inMetrics erased))
    · exact (interrupted.mem_metrics name).mpr (Or.inr ⟨erased, inMetrics⟩)

/-- What is left of the collected results exactly meets the condition. -/
theorem survives_iff (distinct : affected.Nodup)
    (interrupted : Interrupted registry env graph affected removed after) :
    Survives graph after <-> Keeps registry env graph affected removed :=
  ⟨interrupted.keeps_of_survives distinct, interrupted.survives_of_keeps distinct⟩

end Interrupted

/-- The status of a graph has no part in what was collected. -/
theorem survives_setStatus {before after : RunningGraph T} (status : GraphStatus) :
    Survives before (after.setStatus status) <-> Survives before after :=
  ⟨fun survives => ⟨survives.collected, survives.drained, survives.measured⟩,
    fun survives => ⟨survives.collected, survives.drained, survives.measured⟩⟩

theorem Survives.refl (graph : RunningGraph T) : Survives graph graph where
  collected := fun _ collector found => ⟨collector, found, List.prefix_refl _⟩
  drained := List.Sublist.refl _
  measured := fun _ member => member

/-- The condition on the course of an update. -/
def KeepsAll (registry : Registry) (env : UpdateEnv E T) (graph : RunningGraph T)
    (removed : List String) : Course E T -> Prop
  | .idle | .refused => True
  | .planned plan =>
      EndsBeforeSwitch env graph (.planned plan) ->
        Keeps registry env graph plan.affected.keys removed

/-- A failed update that does not switch the routes loses nothing exactly if
the sinks that it creates again have collected nothing, and all removed nodes
that it has gone past are created again. -/
theorem loses_nothing_iff (registry : Registry) (env : UpdateEnv E T) (graph : RunningGraph T)
    (request : Request) :
    ((Exists fun error => (graph.hotUpdate registry env request).2 = .error error) ->
        EndsBeforeSwitch env graph (course registry env graph request) ->
        Survives graph (graph.hotUpdate registry env request).1) <->
      KeepsAll registry env graph (request.toDiff graph.spec).removedNodes
        (course registry env graph request) := by
  cases decided : course registry env graph request with
  | idle => exact ⟨fun _ => trivial, fun _ _ impossible => impossible.elim⟩
  | refused =>
      refine ⟨fun _ => trivial, fun _ _ _ => ?_⟩
      rcases hotUpdate_refused decided with ⟨error, status, _, refuses⟩
      rw [refuses]
      exact (survives_setStatus status).mpr (Survives.refl graph)
  | planned plan =>
      have distinct : plan.affected.keys.Nodup := OrderedMap.nodup_keys plan.affected
      rcases planned_of_course decided with ⟨planned, goes⟩
      have result : forall ends : EndsBeforeSwitch env graph (.planned plan),
          (Exists fun error => (graph.hotUpdate registry env request).2 = .error error) ∧
          (Survives graph (graph.hotUpdate registry env request).1 <->
            Keeps registry env graph plan.affected.keys
              (request.toDiff graph.spec).removedNodes) := by
        intro ends
        rcases candidate_interrupted planned ends with ⟨after, error, applied, interrupted⟩
        rw [hotUpdate_of_reloads env goes, reload, applied]
        dsimp only
        by_cases failed : after.status = .failed
        · rw [if_pos failed]
          exact ⟨⟨error, rfl⟩, interrupted.survives_iff distinct⟩
        · rw [if_neg failed]
          exact ⟨⟨error, rfl⟩,
            (survives_setStatus _).trans (interrupted.survives_iff distinct)⟩
      constructor
      · intro loses ends
        exact (result ends).2.mp (loses (result ends).1 ends)
      · intro keeps _ ends
        exact (result ends).2.mpr (keeps ends)

/-! ## The camera graph -/

/-- The store gets new parameters. -/
def storeChange : GraphDiff where
  addedNodes := []
  removedNodes := []
  updatedNodes := [⟨"store", "sink", some 1, true, none, none, none, none, .bool true⟩]
  addedConnections := []
  removedConnections := []

/-- The store is created again after a fault, and what it had collected is
lost. -/
theorem collected_tensor_lost :
    Exists fun graph => cameraStarted = .ok graph ∧
      EndsBeforeSwitch (cameraEnv .ok true) (graph.collect "store" 7)
        (course RuntimeGraph.cameraRegistry (cameraEnv .ok true) (graph.collect "store" 7)
          (.changes storeChange)) ∧
      (Exists fun error => ((graph.collect "store" 7).hotUpdate RuntimeGraph.cameraRegistry
        (cameraEnv .ok true) (.changes storeChange)).2 = .error error) ∧
      ¬ Survives (graph.collect "store" 7) ((graph.collect "store" 7).hotUpdate
        RuntimeGraph.cameraRegistry (cameraEnv .ok true) (.changes storeChange)).1 := by
  have outcome : cameraStarted.toOption.map (fun graph =>
      let filled := graph.collect "store" 7
      let after := filled.hotUpdate RuntimeGraph.cameraRegistry (cameraEnv .ok true)
        (.changes storeChange)
      (match course RuntimeGraph.cameraRegistry (cameraEnv .ok true) filled
          (.changes storeChange) with
        | .planned _ => true
        | .idle | .refused => false,
        filled.drainSinks.2, after.1.drainSinks.2, after.2)) =
        some (true, [7], [], .error (injectedFault "AfterQuiesce")) := by
    decide +kernel
  rcases camera_starts with ⟨graph, starts, _⟩
  refine ⟨graph, starts, ?_⟩
  rw [starts] at outcome
  simp only [Except.toOption, Option.map_some, Option.some.injEq, Prod.mk.injEq] at outcome
  generalize graph.collect "store" 7 = filled at outcome ⊢
  rcases outcome with ⟨planned, before, after, fails⟩
  refine ⟨?_, ⟨_, fails⟩, fun survives => ?_⟩
  · cases decided : course RuntimeGraph.cameraRegistry (cameraEnv .ok true) filled
        (.changes storeChange) with
    | planned plan => exact Or.inr rfl
    | idle =>
        rw [decided] at planned
        cases planned
    | refused =>
        rw [decided] at planned
        cases planned
  · have lost := survives.drained
    rw [before, after] at lost
    cases lost

end RunningGraph
end Graph
end DyunGu
