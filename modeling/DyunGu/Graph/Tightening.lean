import DyunGu.Graph.Includes

namespace DyunGu
namespace Graph

open DyunGu.Backend (u64Max)
open DyunGu.Core (ResourcePolicy u32Max)

/-!
# Tighter limits

The limits of a main file are the policy for what it includes.  When they are
replaced by smaller ones, the load still succeeds with the same graph, if the
graph and the sizes of the files fit the smaller limits and the files that are
included directly ask for no more than these.  A file that states no limits
asks for the defaults, and is rejected where they are above the limits of the
including file.
-/

/-! ## Validation -/

namespace GraphSpec

/-- What the validator compares with a policy is within it. -/
structure WithinPolicy (registry : Registry) (policy : ResourcePolicy) (spec : GraphSpec) :
    Prop where
  nodes : spec.nodes.length <= policy.maxNodes
  connections : spec.connections.length <= policy.maxConnections
  totalWorkers : totalWorkers spec.nodes <= policy.maxNodes
  capacity : spec.execution.queueCapacity <= policy.maxConnections
  workers : forall workers, spec.execution.workers = some workers -> workers <= policy.maxNodes
  threads : forall node, node ∈ spec.nodes -> forall threads, node.threads = some threads ->
    threads <= policy.maxNodes
  models : forall node, node ∈ spec.nodes -> node.kind = "inference" -> forall size,
    registry.modelSourceSize node.params = .ok size -> size <= policy.maxModelBytes
  sources : forall node, node ∈ spec.nodes -> node.kind = "source" -> forall bytes,
    registry.sourceOutputTensorBytes node = .ok bytes -> bytes <= policy.maxTensorBytes
  mocks : forall node, node ∈ spec.nodes -> node.kind = "mock_inference" -> forall bytes,
    registry.mockInferenceOutputTensorBytes node = .ok bytes -> bytes <= policy.maxTensorBytes

section Tighter

variable {registry : Registry} {policy tighter : ResourcePolicy} {spec : GraphSpec}

private theorem validateCounts_tighter (within : spec.WithinPolicy registry tighter)
    (valid : spec.validateCounts policy = .ok ()) : spec.validateCounts tighter = .ok () := by
  unfold validateCounts at valid ⊢
  simp only [Outcome.bind_iff, reject_iff] at valid ⊢
  rcases valid with ⟨_, _, _, _, _, _, _, nonzero, _⟩
  exact ⟨(), Nat.not_lt.mpr within.nodes, (), Nat.not_lt.mpr within.connections, (),
    Nat.not_lt.mpr within.totalWorkers, (), nonzero, Nat.not_lt.mpr within.capacity⟩

private theorem validateWorkers_tighter (within : spec.WithinPolicy registry tighter)
    (valid : validateWorkers spec.execution policy = .ok ()) :
    validateWorkers spec.execution tighter = .ok () := by
  unfold validateWorkers at valid ⊢
  split at valid
  · cases valid
  · cases valid
  · cases valid
  · rename_i workers _ _ states
    exact reject_iff.mpr (Nat.not_lt.mpr (within.workers workers states))
  · rfl

private theorem checkLimit_tighter {what : String} {value limit : Nat} (within : value <= limit) :
    ResourcePolicy.checkLimit what value limit = .ok () := by
  unfold ResourcePolicy.checkLimit
  rw [if_neg (Nat.not_lt.mpr within)]

private theorem checkModelBytes_tighter {node : NodeSpec}
    (within : forall size, registry.modelSourceSize node.params = .ok size ->
      size <= tighter.maxModelBytes)
    (valid : (registry.checkModelBytes node.params policy).mapError (atParams node) = .ok ()) :
    (registry.checkModelBytes node.params tighter).mapError (atParams node) = .ok () := by
  unfold Registry.checkModelBytes at valid ⊢
  cases computed : registry.modelSourceSize node.params with
  | error error =>
      rw [computed] at valid
      cases valid
  | ok size =>
      simp only [bind, Except.bind, ResourcePolicy.checkModelBytes,
        checkLimit_tighter (within size computed)]
      rfl

private theorem validateNode_tighter {parallel : ParallelType} {seen : List String}
    {node : NodeSpec} (within : spec.WithinPolicy registry tighter) (member : node ∈ spec.nodes)
    (valid : validateNode registry policy parallel seen node = .ok ()) :
    validateNode registry tighter parallel seen node = .ok () := by
  unfold validateNode at valid ⊢
  simp only [Outcome.bind_iff, reject_iff] at valid ⊢
  rcases valid with
    ⟨_, fresh, _, some, _, _, _, pipeline, ports, known, checked, accepted, model⟩
  refine ⟨(), fresh, (), some, (), ?_, (), pipeline, ports, known, checked, accepted, ?_⟩
  · cases stated : node.threads with
    | none => simp
    | some threads => simp [within.threads node member threads stated]
  · split at model
    · rename_i isInference
      rw [if_pos isInference]
      exact checkModelBytes_tighter (within.models node member isInference) model
    · rename_i isOther
      rw [if_neg isOther]

private theorem validateNodes_tighter {parallel : ParallelType} {seen : List String}
    {nodes : List NodeSpec} (within : spec.WithinPolicy registry tighter)
    (members : nodes ⊆ spec.nodes)
    (valid : validateNodes registry policy parallel seen nodes = .ok ()) :
    validateNodes registry tighter parallel seen nodes = .ok () := by
  induction nodes generalizing seen with
  | nil => rfl
  | cons node nodes ih =>
      rcases Outcome.bind_ok valid with ⟨_, first, rest⟩
      rcases List.cons_subset.mp members with ⟨member, members⟩
      exact Outcome.bind_eq_ok (validateNode_tighter within member first) (ih members rest)

private theorem validateOutputs_tighter {nodes : List NodeSpec}
    (within : spec.WithinPolicy registry tighter) (members : nodes ⊆ spec.nodes)
    (valid : validateOutputs registry policy nodes = .ok ()) :
    validateOutputs registry tighter nodes = .ok () := by
  induction nodes with
  | nil => rfl
  | cons node nodes ih =>
      rcases List.cons_subset.mp members with ⟨member, members⟩
      unfold validateOutputs at valid ⊢
      dsimp only at valid ⊢
      split at valid
      · exact ih members valid
      · rename_i computed asked
        rcases Outcome.bind_ok valid with ⟨bytes, known, checked⟩
        rcases Outcome.bind_ok checked with ⟨_, _, rest⟩
        have fits : bytes <= tighter.maxTensorBytes := by
          split at asked
          · rename_i isSource
            cases asked
            exact within.sources node member isSource bytes (Outcome.mapError_ok known)
          · split at asked
            · rename_i isMock
              cases asked
              exact within.mocks node member isMock bytes (Outcome.mapError_ok known)
            · cases asked
        refine Outcome.bind_eq_ok known ?_
        unfold ResourcePolicy.checkTensorBytes
        rw [checkLimit_tighter fits]
        exact ih members rest

/-- A specification that is valid under a policy is valid under a tighter one
that it is within. -/
theorem validateWithPolicy_tighter (within : spec.WithinPolicy registry tighter)
    (valid : validateWithPolicy registry spec policy = .ok ()) :
    validateWithPolicy registry spec tighter = .ok () := by
  rcases Outcome.bind_ok valid with ⟨_, counts, valid⟩
  rcases Outcome.bind_ok valid with ⟨_, workers, valid⟩
  rcases Outcome.bind_ok valid with ⟨_, nodes, valid⟩
  rcases Outcome.bind_ok valid with ⟨_, outputs, valid⟩
  exact Outcome.bind_eq_ok (validateCounts_tighter within counts)
    (Outcome.bind_eq_ok (validateWorkers_tighter within workers)
      (Outcome.bind_eq_ok (validateNodes_tighter within (List.Subset.refl _) nodes)
        (Outcome.bind_eq_ok (validateOutputs_tighter within (List.Subset.refl _) outputs) valid)))

end Tighter

private theorem applyTemplates_limits {spec result : GraphSpec} (limits : ResourceLimits)
    (applied : applyTemplates spec = .ok result) :
    applyTemplates { spec with limits := limits } = .ok { result with limits := limits } := by
  rcases Outcome.bind_ok applied with ⟨nodes, each, built⟩
  cases built
  exact Outcome.bind_eq_ok each rfl

/-- Normalization only passes limits on. -/
theorem finish_tighter {registry : Registry} {render : Value -> String}
    {policy tighter : ResourcePolicy} {merged result : GraphSpec}
    (finished : finish registry render merged policy = .ok result)
    (within : result.WithinPolicy registry tighter) :
    finish registry render { merged with limits := tighter } tighter =
      .ok { result with limits := tighter } := by
  rcases Outcome.bind_ok finished with ⟨templated, applied, finished⟩
  rcases Outcome.bind_ok finished with ⟨_, references, finished⟩
  rcases Outcome.bind_ok finished with ⟨_, valid, finished⟩
  cases finished
  have validToo := validateWithPolicy_tighter within valid
  exact Outcome.bind_eq_ok (applyTemplates_limits tighter applied)
    (Outcome.bind_eq_ok references (Outcome.bind_eq_ok validToo rfl))

end GraphSpec

/-! ## Another text of the main file -/

namespace FileSystem

variable {Path : Type}

/-- The bytes read up to each file are within the limit it is loaded under:
for an included file, that of the file that includes it. -/
def Forest.Fits : Nat -> Nat -> Forest Path -> Prop
  | _, _, .empty => True
  | limit, read, .file _ spec size includes rest =>
      read + size <= limit ∧ includes.Fits spec.limits.maxConfigBytes (read + size) ∧
        rest.Fits limit (read + size + includes.bytes)

/-- Two file systems that differ only in the text of one file. -/
structure SameBut (file : Path) (fs other : FileSystem Path) : Prop where
  canonicalize : other.canonicalize = fs.canonicalize
  open_ : forall path, path ≠ file -> other.open_ path = fs.open_ path
  parse : other.parse = fs.parse
  extension : other.extension = fs.extension
  parent : other.parent = fs.parent
  join : other.join = fs.join
  startsWith : other.startsWith = fs.startsWith

theorem opened_parts {fs : FileSystem Path} {path file : Path} {spec : GraphSpec} {size : Nat}
    (opens : fs.opened path = some (file, spec, size)) :
    Exists fun format => Exists fun bytes => Exists fun content =>
      fs.canonicalize path = .ok file ∧ fs.formatFromPath path = .ok format ∧
      fs.open_ file = .ok bytes ∧ String.fromUTF8? ⟨bytes.toArray⟩ = some content ∧
      fs.parse format content = .ok spec ∧ bytes.length = size := by
  have toOption {Failure Result : Type} {computed : Except Failure Result} {result : Result} :
      computed.toOption = some result <-> computed = .ok result := by
    cases computed <;> simp [Except.toOption]
  simp only [opened, Option.bind_eq_bind, Option.bind_eq_some_iff, toOption, Option.some.injEq,
    Prod.mk.injEq] at opens
  rcases opens with
    ⟨_, canonical, format, known, bytes, opens, content, decodes, _, parses, rfl, rfl, rfl⟩
  exact ⟨format, bytes, content, canonical, known, opens, decodes, parses, rfl⟩

theorem SameBut.opened {file path other : Path} {fs next : FileSystem Path} {spec : GraphSpec}
    {size : Nat} (same : SameBut file fs next)
    (opens : fs.opened path = some (other, spec, size)) (differs : other ≠ file) :
    next.opened path = some (other, spec, size) := by
  rcases opened_parts opens with
    ⟨format, bytes, content, canonical, known, reads, decodes, parses, rfl⟩
  refine opened_eq (same.canonicalize ▸ canonical) ?_ (same.open_ other differs ▸ reads) decodes
    (same.parse ▸ parses)
  unfold formatFromPath at known ⊢
  rw [same.extension]
  exact known

/-- A file is read when it fits the policy and its own limits. -/
theorem readSpec_of {fs : FileSystem Path} {path file : Path} {policy : ResourcePolicy}
    {state : LoadState Path} {spec : GraphSpec} {size : Nat}
    (opens : fs.opened path = some (file, spec, size))
    (granted : policy.effectiveFor spec.limits = .ok spec.limits)
    (fits : size <= spec.limits.maxConfigBytes)
    (totalFits : state.totalConfigBytes + size <= policy.maxConfigBytes)
    (counted : state.totalConfigBytes + size <= u64Max)
    (shallow : state.resolving.length <= spec.limits.maxIncludeDepth + 1) :
    fs.readSpec path file policy state =
      .ok (spec, spec.limits,
        { state with totalConfigBytes := state.totalConfigBytes + size }) := by
  rcases opened_parts opens with
    ⟨format, bytes, content, _, known, reads, decodes, parses, rfl⟩
  have size := decoded_size decodes
  have within := (ResourcePolicy.effectiveFor_iff.mp granted).2.1.configBytes
  have limited : fs.readLimited file (saturatingAdd policy.maxConfigBytes 1) = .ok content := by
    unfold readLimited
    rw [reads]
    have whole : bytes.take (saturatingAdd policy.maxConfigBytes 1) = bytes := by
      apply List.take_of_length_le
      unfold saturatingAdd
      omega
    simp [bind, Except.bind, Except.mapError, whole, decodes]
  have accepted : fs.fromStrWithPolicy content format policy = .ok spec := by
    unfold fromStrWithPolicy
    rw [if_neg (by omega), parses]
    simp only [bind, Except.bind, Except.mapError, grant, granted]
    rw [if_neg (by omega)]
  unfold readSpec
  rw [known]
  simp only [bind, Except.bind, limited]
  have exactly : saturatingAdd state.totalConfigBytes content.utf8ByteSize =
      state.totalConfigBytes + bytes.length := by
    unfold saturatingAdd
    omega
  have representable : spec.limits.maxIncludeDepth <= u32Max :=
    (ResourcePolicy.validate_iff.mp (ResourcePolicy.effectiveFor_iff.mp granted).2.2).2.includeDepth
  have shallowToo : ¬ saturatingAdd spec.limits.maxIncludeDepth 1 < state.resolving.length := by
    rw [saturatingAdd_one representable]
    omega
  rw [if_neg (by omega), exactly, if_neg (by omega), accepted]
  simp only [grant, granted, Except.mapError]
  rw [if_neg shallowToo]

variable [DecidableEq Path]

/-- Loading never takes a file back from those that were met. -/
def Grows (load : Path -> LoadState Path -> Outcome Path) : Prop :=
  forall path before spec after, load path before = some (.ok (spec, after)) ->
    before.included.length <= after.included.length

private theorem meet_grows (base file : Path) (state : LoadState Path) :
    state.included.length <= (meet base file state).included.length := by
  unfold meet
  split
  · exact le_rfl
  · simp

private theorem loadIncludes_grows {fs : FileSystem Path} {base : Path} {policy : ResourcePolicy}
    {load : Path -> LoadState Path -> Outcome Path} (grows : Grows load)
    {merged spec : GraphSpec} {before after : LoadState Path} {includes : List String}
    (loaded : fs.loadIncludes load base policy merged before includes = some (.ok (spec, after))) :
    before.included.length <= after.included.length := by
  induction includes generalizing merged before with
  | nil =>
      cases loaded
      exact le_rfl
  | cons include_ includes ih =>
      rcases loadIncludes_ok loaded with ⟨file, included, state, _, _, _, first, rest⟩
      exact (meet_grows base file before).trans ((grows _ _ _ _ first).trans (ih rest))

private theorem tracked_grows (fs : FileSystem Path) (registry : Registry)
    (render : Value -> String) (depth : Nat) (policy : ResourcePolicy) :
    Grows (fs.loadFromPathTracked registry render depth policy) := by
  induction depth generalizing policy with
  | zero =>
      intro path before spec after loaded
      cases loaded
  | succ depth ih =>
      intro path before spec after loaded
      rcases tracked_ok loaded with
        ⟨rest, file, parsed, effective, read, state, more, _, _, reads, normalized, rfl⟩
      cases more
      rcases readSpec_parts reads with ⟨_, _, _, _, _, _, _, _, _, _, rfl⟩
      rcases normalizeTracked_ok normalized with
        ⟨_, _, _, ⟨_, _, _, rfl⟩ | ⟨_, _, _, _, included⟩⟩
      · exact le_rfl
      · have grown := loadIncludes_grows (ih effective) included
        exact grown

theorem normalizeTracked_of {fs : FileSystem Path} {registry : Registry}
    {render : Value -> String} {load : ResourcePolicy -> Path -> LoadState Path -> Outcome Path}
    {parsed merged spec : GraphSpec} {file : Path} {effective : ResourcePolicy}
    {read state : LoadState Path} (header : parsed.checkHeader = .ok ())
    (finished : GraphSpec.finish registry render (merged.mergeIncluded parsed) effective =
      .ok spec)
    (included :
      (fs.parent file = none ∧ parsed.includes = [] ∧ merged = GraphSpec.default ∧ state = read) ∨
        Exists fun dir => Exists fun base =>
          fs.parent file = some dir ∧ fs.canonicalize dir = .ok base ∧
          fs.loadIncludes (load effective) base effective GraphSpec.default read parsed.includes =
            some (.ok (merged, state))) :
    normalizeTracked fs registry render load parsed (fs.parent file) effective read =
      some (.ok (spec, state)) := by
  unfold normalizeTracked
  rw [header]
  rcases included with ⟨noParent, none_, rfl, rfl⟩ | ⟨dir, base, parent, directory, loaded⟩
  · simp [noParent, none_, finishFile, finished]
  · simp [parent, directory, loaded, finishFile, finished]

theorem tracked_of {fs : FileSystem Path} {registry : Registry} {render : Value -> String}
    {depth : Nat} {policy effective : ResourcePolicy} {path file : Path}
    {before read : LoadState Path} {parsed spec : GraphSpec} (state : LoadState Path)
    (canonical : fs.canonicalize path = .ok file) (fresh : file ∉ before.resolving)
    (reads : fs.readSpec path file policy { before with resolving := file :: before.resolving } =
      .ok (parsed, effective, read))
    (normalized : normalizeTracked fs registry render
      (fs.loadFromPathTracked registry render depth) parsed (fs.parent file) effective read =
        some (.ok (spec, state))) :
    fs.loadFromPathTracked registry render (depth + 1) policy path before =
      some (.ok (spec, { state with resolving := state.resolving.erase file })) := by
  unfold loadFromPathTracked
  rw [canonical]
  dsimp only
  rw [if_neg fresh, reads]
  dsimp only
  rw [normalized]
  rfl

/-- When a file is loaded, the files that it includes are others, and ask for
no more than it does. -/
theorem tracked_asks {fs : FileSystem Path} {registry : Registry} {render : Value -> String}
    {depth : Nat} {policy : ResourcePolicy} {path file included includedFile : Path}
    {state : LoadState Path} {outcome : GraphSpec × LoadState Path} {spec inner : GraphSpec}
    {size innerSize : Nat}
    (loaded : fs.loadFromPathTracked registry render depth policy path state = some (.ok outcome))
    (opens : fs.opened path = some (file, spec, size))
    (member : included ∈ fs.includePaths file spec)
    (opensIncluded : fs.opened included = some (includedFile, inner, innerSize)) :
    inner.limits.AtMost spec.limits ∧ includedFile ≠ file := by
  rcases tracked_each loaded opens member with
    ⟨_, effective, inside, _, granted, chain, loadedIncluded⟩
  rcases tracked_ok loadedIncluded with ⟨_, _, _, _, _, _, _, canonical, fresh, reads, _, _⟩
  rcases readSpec_ok canonical reads with ⟨_, opensToo, grantedIncluded, _⟩
  rw [opensIncluded] at opensToo
  cases opensToo
  rcases ResourcePolicy.effectiveFor_iff.mp granted with ⟨rfl, _, _⟩
  refine ⟨(ResourcePolicy.effectiveFor_iff.mp grantedIncluded).2.1, ?_⟩
  rintro rfl
  exact fresh (chain ▸ List.mem_cons_self)

section Same

variable {main : Path} {fs other : FileSystem Path} (same : SameBut main fs other)
include same

/-- The loop over the includes does the same under another policy, if each
load does. -/
theorem loadIncludes_same {load next : Path -> LoadState Path -> Outcome Path} {base : Path}
    {policy tighter : ResourcePolicy} (keeps : Keeps load) (grows : Grows load)
    (step : forall path before spec after file parsed size inner read,
      main ∈ before.resolving -> load path before = some (.ok (spec, after)) ->
      fs.opened path = some (file, parsed, size) ->
      fs.Unfolds (fs.includePaths file parsed) inner -> parsed.limits.AtMost tighter ->
      read + size <= tighter.maxConfigBytes ->
      inner.Fits parsed.limits.maxConfigBytes (read + size) ->
      next path { before with totalConfigBytes := read } =
        some (.ok (spec, { after with totalConfigBytes := read + size + inner.bytes })))
    {includes : List String} {forest : Forest Path} {merged result : GraphSpec}
    {before after : LoadState Path} {read : Nat} (current : main ∈ before.resolving)
    (loaded : fs.loadIncludes load base policy merged before includes = some (.ok (result, after)))
    (few : forall count, count <= after.included.length ->
      count <= saturatingAdd policy.maxIncludeCount 1 ->
      count <= saturatingAdd tighter.maxIncludeCount 1)
    (unfolds : fs.Unfolds (includes.map (fs.join base)) forest)
    (fits : forest.Fits tighter.maxConfigBytes read)
    (asked : forall path, path ∈ includes.map (fs.join base) -> forall file parsed size,
      fs.opened path = some (file, parsed, size) -> parsed.limits.AtMost tighter) :
    other.loadIncludes next base tighter merged { before with totalConfigBytes := read } includes =
      some (.ok (result, { after with totalConfigBytes := read + forest.bytes })) := by
  induction includes generalizing forest merged before read with
  | nil =>
      cases loaded
      cases unfolds
      rfl
  | cons include_ includes ih =>
      rcases loadIncludes_ok loaded with
        ⟨file, included, state, canonical, inside, fewer, first, rest⟩
      cases unfolds with
      | file opens inner others =>
          rcases fits with ⟨fits, fitsInner, fitsRest⟩
          have entered : meet base file { before with totalConfigBytes := read } =
              { meet base file before with totalConfigBytes := read } := by
            unfold meet
            split <;> rfl
          have firstToo := step _ _ _ _ _ _ _ _ read
            (by rw [meet_resolving]; exact current) first opens inner
            (asked _ List.mem_cons_self _ _ _ opens) fits fitsInner
          have kept : state.resolving = before.resolving := by
            rw [keeps _ _ _ _ first, meet_resolving]
          have restToo := ih (by rw [kept]; exact current) rest others fitsRest
            (fun path member => asked path (List.mem_cons_of_mem _ member))
          have fewToo := few _ ((grows _ _ _ _ first).trans (loadIncludes_grows grows rest)) fewer
          unfold loadIncludes
          rw [same.canonicalize, same.join, canonical]
          dsimp only
          rw [same.startsWith, inside, if_neg (by simp), entered, if_neg (Nat.not_lt.mpr fewToo),
            firstToo]
          dsimp only
          rw [restToo, Forest.bytes]
          simp only [Nat.add_assoc]

theorem tracked_same {registry : Registry} {render : Value -> String} {depth : Nat}
    {policy tighter : ResourcePolicy} (small : tighter.maxConfigBytes <= u32Max) {path file : Path}
    {before after : LoadState Path} {spec parsed : GraphSpec} {size read : Nat}
    {inner : Forest Path} (current : main ∈ before.resolving)
    (loaded : fs.loadFromPathTracked registry render depth policy path before =
      some (.ok (spec, after)))
    (opens : fs.opened path = some (file, parsed, size))
    (unfolds : fs.Unfolds (fs.includePaths file parsed) inner)
    (below : parsed.limits.AtMost tighter) (fits : read + size <= tighter.maxConfigBytes)
    (fitsInner : inner.Fits parsed.limits.maxConfigBytes (read + size)) :
    other.loadFromPathTracked registry render depth tighter path
        { before with totalConfigBytes := read } =
      some (.ok (spec, { after with totalConfigBytes := read + size + inner.bytes })) := by
  induction depth generalizing policy tighter path file before after spec parsed size read inner
    with
  | zero => cases loaded
  | succ depth ih =>
      rcases tracked_ok loaded with
        ⟨rest, found, _, effective, _, state, more, canonical, fresh, reads, normalized, rfl⟩
      cases more
      rcases readSpec_ok canonical reads with
        ⟨_, opensToo, granted, effectiveSmall, ownFits, shallow, _, rfl⟩
      rw [opens] at opensToo
      cases opensToo
      rcases ResourcePolicy.effectiveFor_iff.mp granted with ⟨rfl, _, valid⟩
      have differs : file ≠ main := fun isMain => fresh (isMain ▸ current)
      have grantedToo : tighter.effectiveFor parsed.limits = .ok parsed.limits :=
        ResourcePolicy.effectiveFor_iff.mpr ⟨rfl, below, valid⟩
      have readsToo : other.readSpec path file tighter ⟨file :: before.resolving, before.included,
          read⟩ = .ok (parsed, parsed.limits, ⟨file :: before.resolving, before.included,
            read + size⟩) :=
        readSpec_of (same.opened opens differs) grantedToo ownFits fits
          (by have room := word_fits; dsimp only; omega) shallow
      rcases normalizeTracked_ok normalized with ⟨merged, header, finished, included⟩
      refine tracked_of { state with totalConfigBytes := read + size + inner.bytes }
        (same.canonicalize ▸ canonical) fresh readsToo (normalizeTracked_of header finished ?_)
      rcases included with ⟨noParent, none_, rfl, rfl⟩ | ⟨dir, base, parent, directory, loop⟩
      · refine Or.inl ⟨same.parent ▸ noParent, none_, rfl, ?_⟩
        simp only [includePaths, noParent] at unfolds
        cases unfolds
        rfl
      · refine Or.inr ⟨dir, base, same.parent ▸ parent, same.canonicalize ▸ directory, ?_⟩
        simp only [includePaths, parent, directory] at unfolds
        have each : forall path, path ∈ parsed.includes.map (fs.join base) ->
            forall file included size, fs.opened path = some (file, included, size) ->
              included.limits.AtMost parsed.limits := by
          intro path member file included size opensIncluded
          exact (tracked_asks loaded opens (mem_includePaths parent directory member)
            opensIncluded).1
        exact loadIncludes_same same (tracked_keeps _ _ _ _ _) (tracked_grows _ _ _ _ _)
          (fun _ _ _ _ _ _ _ _ _ => ih effectiveSmall) (List.mem_cons_of_mem _ current) loop
          (fun _ _ few => few) unfolds fitsInner each

end Same

omit [DecidableEq Path] in
theorem Unfolds.unique {fs : FileSystem Path} {paths : List Path} {forest other : Forest Path}
    (unfolds : fs.Unfolds paths forest) (unfoldsToo : fs.Unfolds paths other) :
    forest = other := by
  induction unfolds generalizing other with
  | empty =>
      cases unfoldsToo
      rfl
  | file opens _ _ ihIncludes ihRest =>
      cases unfoldsToo with
      | file opensToo includes rest =>
          rw [opens] at opensToo
          cases opensToo
          rw [ihIncludes includes, ihRest rest]

/-- The number of files that were met is the number of includes and one. -/
private theorem main_count {fs : FileSystem Path} {registry : Registry}
    {render : Value -> String} {depth : Nat} {effective : ResourcePolicy} {file : Path}
    {parsed spec : GraphSpec} {size : Nat} {includes : Forest Path} {state : LoadState Path}
    (small : effective.maxConfigBytes <= u32Max) (fits : size <= effective.maxConfigBytes)
    (unfolds : fs.Unfolds (fs.includePaths file parsed) includes)
    (normalized : normalizeTracked fs registry render
      (fs.loadFromPathTracked registry render depth) parsed (fs.parent file) effective
      ⟨[file], [file], size⟩ = some (.ok (spec, state))) :
    state.included.length = 1 + includes.count := by
  rcases normalizeTracked_books (tracked_books fs registry render depth)
    (fun _ _ _ _ _ _ => tracked_unreadable) small (fits.trans small) normalized with
    ⟨forest, unfoldsToo, books⟩
  rw [unfolds.unique unfoldsToo]
  exact books.count

private theorem tightened_loads {fs other : FileSystem Path} {registry : Registry}
    {render : Value -> String} {depth : Nat} {policy tighter : ResourcePolicy} {main file : Path}
    {parsed spec : GraphSpec} {state : LoadState Path} {size resized : Nat}
    {includes : Forest Path}
    (loaded : fs.loadFromPathTracked registry render depth policy main ⟨[], [file], 0⟩ =
      some (.ok (spec, state)))
    (opens : fs.opened main = some (file, parsed, size))
    (unfolds : fs.Unfolds (fs.includePaths file parsed) includes)
    (below : tighter.AtMost parsed.limits)
    (nonzero : ResourcePolicy.AtMost ⟨1, 1, 1, 1, 1, 1, 1, 1, 1, 1⟩ tighter)
    (same : SameBut file fs other)
    (replaced : other.opened main = some (file, { parsed with limits := tighter }, resized))
    (bytes : resized <= tighter.maxConfigBytes ∧ includes.Fits tighter.maxConfigBytes resized)
    (count : includes.count <= tighter.maxIncludeCount)
    (within : spec.WithinPolicy registry tighter)
    (asked : forall path, path ∈ fs.includePaths file parsed ->
      forall includedFile included includedSize,
        fs.opened path = some (includedFile, included, includedSize) ->
          included.limits.AtMost tighter) :
    Exists fun after => other.loadFromPathTracked registry render depth policy main
      ⟨[], [file], 0⟩ = some (.ok ({ spec with limits := tighter }, after)) := by
  rcases tracked_ok loaded with
    ⟨rest, found, _, effective, _, after, rfl, canonical, fresh, reads, normalized, rfl⟩
  rcases readSpec_ok canonical reads with
    ⟨_, opensToo, granted, effectiveSmall, ownFits, _, _, rfl⟩
  rw [opens] at opensToo
  cases opensToo
  rcases ResourcePolicy.effectiveFor_iff.mp granted with ⟨rfl, belowPolicy, valid⟩
  have counted : saturatingAdd 0 size = 0 + size :=
    saturatingAdd_eq (Nat.zero_le _) (ownFits.trans effectiveSmall)
  dsimp only at normalized
  rw [counted, Nat.zero_add] at normalized
  have met := main_count effectiveSmall ownFits unfolds normalized
  have representable := below.trans (ResourcePolicy.validate_iff.mp valid).2
  have smallBytes : tighter.maxConfigBytes <= u32Max := representable.configBytes
  have smallCount : tighter.maxIncludeCount <= u32Max := representable.includeCount
  have grantedToo : policy.effectiveFor tighter = .ok tighter :=
    ResourcePolicy.effectiveFor_iff.mpr
      ⟨rfl, below.trans belowPolicy, ResourcePolicy.validate_iff.mpr ⟨nonzero, representable⟩⟩
  have fitsPolicy := bytes.1.trans (below.trans belowPolicy).configBytes
  have readsToo : other.readSpec main file policy ⟨[file], [file], 0⟩ =
      .ok ({ parsed with limits := tighter }, tighter, ⟨[file], [file], 0 + resized⟩) :=
    readSpec_of replaced grantedToo bytes.1 (by dsimp only; omega)
      (by have room := word_fits; dsimp only; omega) (by simp)
  rw [Nat.zero_add] at readsToo
  rcases normalizeTracked_ok normalized with ⟨merged, header, finished, included⟩
  have finishedToo := GraphSpec.finish_tighter finished within
  rcases included with ⟨noParent, none_, rfl, rfl⟩ | ⟨dir, base, parent, directory, loop⟩
  · exact ⟨_, tracked_of _ (same.canonicalize ▸ canonical) fresh readsToo
      (normalizeTracked_of header finishedToo
        (Or.inl ⟨same.parent ▸ noParent, none_, rfl, rfl⟩))⟩
  · simp only [includePaths, parent, directory] at unfolds asked
    have loopToo := loadIncludes_same same (tracked_keeps _ _ _ _ _) (tracked_grows _ _ _ _ _)
      (fun _ _ _ _ _ _ _ _ _ => tracked_same same smallBytes) List.mem_cons_self loop
      (fun count' few _ => by
        rw [saturatingAdd_one smallCount]
        omega)
      unfolds bytes.2 asked
    exact ⟨_, tracked_of _ (same.canonicalize ▸ canonical) fresh readsToo
      (normalizeTracked_of header finishedToo
        (Or.inr ⟨dir, base, same.parent ▸ parent, same.canonicalize ▸ directory, loopToo⟩))⟩

/-- With smaller limits in the main file that the graph and the sizes of the
files fit, the load succeeds with the same graph exactly when the files that
are included directly ask for no more than these limits. -/
theorem tightened_iff {fs other : FileSystem Path} {registry : Registry}
    {render : Value -> String} {depth : Nat} {policy tighter : ResourcePolicy} {main file : Path}
    {parsed spec : GraphSpec} {state : LoadState Path} {size resized : Nat}
    {includes : Forest Path}
    (loaded : fs.loadFromPath registry render depth policy main = some (.ok (spec, state)))
    (unfolds : fs.Unfolds [main] (.file file parsed size includes .empty))
    (below : tighter.AtMost parsed.limits)
    (nonzero : ResourcePolicy.AtMost ⟨1, 1, 1, 1, 1, 1, 1, 1, 1, 1⟩ tighter)
    (same : SameBut file fs other)
    (replaced : other.opened main = some (file, { parsed with limits := tighter }, resized))
    (bytes : resized <= tighter.maxConfigBytes ∧ includes.Fits tighter.maxConfigBytes resized)
    (count : includes.count <= tighter.maxIncludeCount)
    (within : spec.WithinPolicy registry tighter) :
    (Exists fun after => other.loadFromPath registry render depth policy main =
      some (.ok ({ spec with limits := tighter }, after))) <->
      forall path, path ∈ fs.includePaths file parsed ->
        forall includedFile included includedSize,
          fs.opened path = some (includedFile, included, includedSize) ->
            included.limits.AtMost tighter := by
  unfold loadFromPath at loaded ⊢
  cases canonical : fs.canonicalize main with
  | error error =>
      rw [canonical] at loaded
      cases loaded
  | ok found =>
      rw [canonical] at loaded
      rw [same.canonicalize, canonical]
      dsimp only at loaded ⊢
      cases unfolds with
      | file opens inner rest =>
          constructor
          · rintro ⟨after, loadedToo⟩ path member includedFile included includedSize opensIncluded
            have differs := (tracked_asks loaded opens member opensIncluded).2
            refine (tracked_asks loadedToo replaced ?_ (same.opened opensIncluded differs)).1
            unfold includePaths
            rw [same.parent, same.canonicalize, same.join]
            exact member
          · intro asked
            have isFile : found = file := by
              rcases opened_parts opens with ⟨_, _, _, canonicalToo, _⟩
              rw [canonical] at canonicalToo
              cases canonicalToo
              rfl
            rw [isFile] at loaded ⊢
            exact tightened_loads loaded opens inner below nonzero same replaced bytes count within
              asked

/-! ## A file that states no limits -/

def fewNodes : ResourceLimits := { ResourcePolicy.default with maxNodes := 8 }

/-- What the files of a desk say.  The letters stand for a main file, one with
few nodes, and included files with few nodes and without limits. -/
def deskSpec (content : String) : GraphSpec :=
  if content = "m" then { GraphSpec.default with includes := ["part.json"] }
  else if content = "f" then
    { GraphSpec.default with includes := ["part.json"], limits := fewNodes }
  else if content = "p" then { GraphSpec.default with limits := fewNodes }
  else GraphSpec.default

/-- A directory with a main file and an included one. -/
def desk (mainText partText : UInt8) : FileSystem String where
  canonicalize path :=
    if path ∈ ["/g", "/g/main.json", "/g/part.json"] then .ok path
    else .error (.io "No such file or directory")
  open_ path :=
    if path = "/g" then .error (.io "Is a directory")
    else if path = "/g/main.json" then .ok [mainText] else .ok [partText]
  parse _ content := .ok (deskSpec content)
  extension _ := some "json"
  parent _ := some "/g"
  join base include_ := base ++ "/" ++ include_
  startsWith path base := base.toList.isPrefixOf path.toList
  display path := path
  directory := by
    intro file dir base parent canonical
    cases parent
    cases canonical
    exact ⟨_, rfl⟩

theorem desk_same (first second part : UInt8) :
    SameBut "/g/main.json" (desk first part) (desk second part) where
  canonicalize := rfl
  open_ := by
    intro path differs
    unfold desk
    dsimp only
    rw [if_neg differs, if_neg differs]
  parse := rfl
  extension := rfl
  parent := rfl
  join := rfl
  startsWith := rfl

theorem fewNodes_below : fewNodes.AtMost ResourcePolicy.default := by
  constructor <;> decide

/-- The included file asks for few nodes too. -/
theorem desk_tightened :
    Exists fun after => (desk 102 112).loadFromPath noElements (fun _ => "") 3
      ResourcePolicy.default "/g/main.json" =
        some (.ok ({ GraphSpec.default with limits := fewNodes }, after)) := by
  have loaded : (desk 109 112).loadFromPath noElements (fun _ => "") 3 ResourcePolicy.default
      "/g/main.json" = some (.ok (GraphSpec.default,
        ⟨[], ["/g/main.json", "/g/part.json"], 2⟩)) := by
    decide +kernel
  have part : (desk 109 112).opened "/g/part.json" =
      some ("/g/part.json", deskSpec "p", 1) := by
    decide +kernel
  have unfolds : (desk 109 112).Unfolds ["/g/main.json"] (.file "/g/main.json" (deskSpec "m") 1
      (.file "/g/part.json" (deskSpec "p") 1 .empty .empty) .empty) :=
    .file (by decide +kernel) (.file part .empty .empty) .empty
  have replaced : (desk 102 112).opened "/g/main.json" =
      some ("/g/main.json", { deskSpec "m" with limits := fewNodes }, 1) := by
    decide +kernel
  have within : GraphSpec.default.WithinPolicy noElements fewNodes := by
    constructor <;> simp [GraphSpec.default, ExecutionSpec.default, fewNodes,
      GraphSpec.totalWorkers, defaultQueueCapacity, ResourcePolicy.default]
  refine (tightened_iff loaded unfolds fewNodes_below (by constructor <;> decide)
    (desk_same 109 102 112) replaced ⟨by decide, by decide, by trivial, by trivial⟩ (by decide)
    within).mpr ?_
  intro path member includedFile included includedSize opens
  have isPart : path = "/g/part.json" := by
    simpa [includePaths, desk, deskSpec, GraphSpec.default] using member
  rw [isPart, part] at opens
  cases opens
  exact ResourcePolicy.AtMost.refl fewNodes

/-- The included file states no limits, so it asks for the defaults, which are
above the few nodes of the main file. -/
theorem desk_rejected :
    deskSpec "n" = GraphSpec.default ∧ fewNodes.AtMost (deskSpec "m").limits ∧
      (desk 109 110).opened "/g/part.json" = some ("/g/part.json", deskSpec "n", 1) ∧
      SameBut "/g/main.json" (desk 109 110) (desk 102 110) ∧
      (desk 102 110).opened "/g/main.json" =
        some ("/g/main.json", { deskSpec "m" with limits := fewNodes }, 1) ∧
      (desk 109 110).loadFromPath noElements (fun _ => "") 3 ResourcePolicy.default
        "/g/main.json" =
          some (.ok (GraphSpec.default, ⟨[], ["/g/main.json", "/g/part.json"], 2⟩)) ∧
      (desk 102 110).loadFromPath noElements (fun _ => "") 3 ResourcePolicy.default
        "/g/main.json" =
          some (.error (.limits (.config "max_nodes requested 1024 exceeds hard limit 8"))) := by
  have loads : (desk 109 110).loadFromPath noElements (fun _ => "") 3 ResourcePolicy.default
        "/g/main.json" =
          some (.ok (GraphSpec.default, ⟨[], ["/g/main.json", "/g/part.json"], 2⟩)) ∧
      (desk 102 110).loadFromPath noElements (fun _ => "") 3 ResourcePolicy.default
        "/g/main.json" =
          some (.error (.limits (.config "max_nodes requested 1024 exceeds hard limit 8"))) := by
    decide +kernel
  exact ⟨by decide, fewNodes_below, by decide +kernel, desk_same 109 102 110, by decide +kernel,
    loads⟩

end FileSystem

end Graph
end DyunGu
