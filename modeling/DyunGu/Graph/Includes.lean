import DyunGu.Graph.Load

namespace DyunGu
namespace Graph

open DyunGu.Backend (u64Max)
open DyunGu.Core (ResourcePolicy u32Max)

/-!
# The include graph

The files and what they include make a graph, which may have cycles.  The
loader walks it along include chains.  It ends whatever the graph is, because
the files of a chain differ; it reports a cycle where a chain comes back to one
of its own files; and when it succeeds, what it has read is the finite forest
that the graph unfolds to, and fits the limits of the first file.
-/

namespace FileSystem

variable {Path : Type}

/-- A file as it stands: where it is, what it says, and its size. -/
def opened (fs : FileSystem Path) (path : Path) : Option (Path × GraphSpec × Nat) := do
  let file <- (fs.canonicalize path).toOption
  let format <- (fs.formatFromPath path).toOption
  let bytes <- (fs.open_ file).toOption
  let content <- String.fromUTF8? ⟨bytes.toArray⟩
  let spec <- (fs.parse format content).toOption
  some (file, spec, bytes.length)

/-- The paths that a file includes, from the directory that it is in. -/
def includePaths (fs : FileSystem Path) (file : Path) (spec : GraphSpec) : List Path :=
  match fs.parent file with
  | none => []
  | some dir =>
      match fs.canonicalize dir with
      | .error _ => []
      | .ok base => spec.includes.map (fs.join base)

/-- An include chain from a main file: a path that is come to, and the files
on the way to it. -/
inductive Approach (fs : FileSystem Path) (main : Path) : Path -> List Path -> Prop where
  | main : Approach fs main main []
  | step {path included file : Path} {chain : List Path} {spec : GraphSpec} {size : Nat} :
      Approach fs main path chain -> fs.opened path = some (file, spec, size) ->
      included ∈ fs.includePaths file spec -> Approach fs main included (file :: chain)

/-- An include chain that comes back to a file that is already on it. -/
def ReachedAgain (fs : FileSystem Path) (main path : Path) : Prop :=
  Exists fun chain => Exists fun file =>
    fs.Approach main path chain ∧ fs.canonicalize path = .ok file ∧ file ∈ chain

/-- The files that a list of paths brings in, each with what it includes
itself. -/
inductive Forest (Path : Type) where
  | empty
  | file (file : Path) (spec : GraphSpec) (size : Nat) (includes rest : Forest Path)

namespace Forest

def count : Forest Path -> Nat
  | .empty => 0
  | .file _ _ _ includes rest => 1 + includes.count + rest.count

def bytes : Forest Path -> Nat
  | .empty => 0
  | .file _ _ size includes rest => size + includes.bytes + rest.bytes

end Forest

inductive Unfolds (fs : FileSystem Path) : List Path -> Forest Path -> Prop where
  | empty : Unfolds fs [] .empty
  | file {path file : Path} {paths : List Path} {spec : GraphSpec} {size : Nat}
      {includes rest : Forest Path} :
      fs.opened path = some (file, spec, size) ->
      Unfolds fs (fs.includePaths file spec) includes -> Unfolds fs paths rest ->
      Unfolds fs (path :: paths) (.file file spec size includes rest)

/-! ## One file -/

theorem word_fits : u32Max + u32Max <= u64Max ∧ 1 <= u32Max := by
  decide

/-- Limits that are valid are far below the point where sums saturate. -/
theorem saturatingAdd_eq {first second : Nat} (small : first <= u32Max)
    (smallToo : second <= u32Max) : saturatingAdd first second = first + second := by
  have fits := word_fits.1
  unfold saturatingAdd
  omega

theorem saturatingAdd_one {limit : Nat} (small : limit <= u32Max) :
    saturatingAdd limit 1 = limit + 1 :=
  saturatingAdd_eq small word_fits.2

theorem lt_saturatingAdd {size limit : Nat} (fits : size <= limit) (small : size <= u32Max) :
    size < saturatingAdd limit 1 := by
  have room := word_fits
  unfold saturatingAdd
  omega

theorem decoded_size {bytes : List UInt8} {content : String}
    (decodes : String.fromUTF8? ⟨bytes.toArray⟩ = some content) :
    content.utf8ByteSize = bytes.length := by
  unfold String.fromUTF8? at decodes
  split at decodes
  · cases decodes
    rfl
  · cases decodes

/-- A text that is read below the limit is the whole file. -/
private theorem readLimited_ok {fs : FileSystem Path} {file : Path} {limit : Nat}
    {content : String} (read : fs.readLimited file limit = .ok content)
    (short : content.utf8ByteSize < limit) :
    Exists fun bytes => fs.open_ file = .ok bytes ∧
      String.fromUTF8? ⟨bytes.toArray⟩ = some content ∧
        content.utf8ByteSize = bytes.length := by
  rcases Outcome.bind_ok read with ⟨bytes, opens, decoded⟩
  refine ⟨bytes, Outcome.mapError_ok opens, ?_⟩
  split at decoded
  · rename_i text decodes
    cases decoded
    have size := decoded_size decodes
    rw [List.length_take] at size
    have whole : bytes.take limit = bytes := List.take_of_length_le (by omega)
    rw [whole] at decodes
    exact ⟨decodes, by omega⟩
  · cases decoded

theorem opened_eq {fs : FileSystem Path} {path file : Path} {format : GraphFormat}
    {bytes : List UInt8} {content : String} {spec : GraphSpec}
    (canonical : fs.canonicalize path = .ok file) (known : fs.formatFromPath path = .ok format)
    (opens : fs.open_ file = .ok bytes)
    (decodes : String.fromUTF8? ⟨bytes.toArray⟩ = some content)
    (parses : fs.parse format content = .ok spec) :
    fs.opened path = some (file, spec, bytes.length) := by
  simp [opened, canonical, known, opens, decodes, parses, Except.toOption]

theorem fromStrWithPolicy_ok {fs : FileSystem Path} {input : String}
    {format : GraphFormat} {policy : ResourcePolicy} {spec : GraphSpec}
    (succeeds : fs.fromStrWithPolicy input format policy = .ok spec) :
    fs.parse format input = .ok spec ∧ Exists fun effective =>
      policy.effectiveFor spec.limits = .ok effective ∧
        input.utf8ByteSize <= effective.maxConfigBytes := by
  unfold fromStrWithPolicy at succeeds
  split at succeeds
  · cases succeeds
  · rcases Outcome.bind_ok succeeds with ⟨parsed, parses, succeeds⟩
    rcases Outcome.bind_ok succeeds with ⟨effective, granted, succeeds⟩
    split at succeeds
    · cases succeeds
    · rename_i fits
      cases succeeds
      exact ⟨Outcome.mapError_ok parses, effective, Outcome.mapError_ok granted,
        Nat.le_of_not_lt fits⟩

/-- What reading one file has gone through. -/
theorem readSpec_parts {fs : FileSystem Path} {path file : Path}
    {policy effective : ResourcePolicy} {state read : LoadState Path} {spec : GraphSpec}
    (reads : fs.readSpec path file policy state = .ok (spec, effective, read)) :
    Exists fun format => Exists fun content =>
      fs.formatFromPath path = .ok format ∧
      fs.readLimited file (saturatingAdd policy.maxConfigBytes 1) = .ok content ∧
      content.utf8ByteSize <= policy.maxConfigBytes ∧
      saturatingAdd state.totalConfigBytes content.utf8ByteSize <= policy.maxConfigBytes ∧
      fs.parse format content = .ok spec ∧
      policy.effectiveFor spec.limits = .ok effective ∧
      content.utf8ByteSize <= effective.maxConfigBytes ∧
      state.resolving.length <= saturatingAdd effective.maxIncludeDepth 1 ∧
      read = { state with
        totalConfigBytes := saturatingAdd state.totalConfigBytes content.utf8ByteSize } := by
  rcases Outcome.bind_ok reads with ⟨format, known, reads⟩
  rcases Outcome.bind_ok reads with ⟨content, limited, reads⟩
  split at reads
  · cases reads
  · rename_i fits
    dsimp only at reads
    split at reads
    · cases reads
    · rename_i totalFits
      rcases Outcome.bind_ok reads with ⟨parsed, accepted, reads⟩
      rcases Outcome.bind_ok reads with ⟨own, granted, reads⟩
      split at reads
      · cases reads
      · rename_i shallow
        cases reads
        have granted := Outcome.mapError_ok granted
        rcases fromStrWithPolicy_ok accepted with ⟨parses, other, grantedToo, ownFits⟩
        rw [granted] at grantedToo
        cases grantedToo
        exact ⟨format, content, known, limited, Nat.le_of_not_lt fits, Nat.le_of_not_lt totalFits,
          parses, granted, ownFits, Nat.le_of_not_lt shallow, rfl⟩

/-- A file that is read is read whole, and its limits are granted. -/
theorem readSpec_ok {fs : FileSystem Path} {path file : Path} {policy effective : ResourcePolicy}
    {state read : LoadState Path} {spec : GraphSpec}
    (canonical : fs.canonicalize path = .ok file)
    (reads : fs.readSpec path file policy state = .ok (spec, effective, read)) :
    Exists fun size => fs.opened path = some (file, spec, size) ∧
      policy.effectiveFor spec.limits = .ok effective ∧
      effective.maxConfigBytes <= u32Max ∧
      size <= effective.maxConfigBytes ∧
      state.resolving.length <= effective.maxIncludeDepth + 1 ∧
      saturatingAdd state.totalConfigBytes size <= policy.maxConfigBytes ∧
      read = { state with totalConfigBytes := saturatingAdd state.totalConfigBytes size } := by
  rcases readSpec_parts reads with ⟨format, content, known, limited, fits, totalFits, parses,
    granted, ownFits, shallow, read⟩
  rcases ResourcePolicy.effectiveFor_iff.mp granted with ⟨rfl, _, valid⟩
  have representable := (ResourcePolicy.validate_iff.mp valid).2
  have bytesSmall : spec.limits.maxConfigBytes <= u32Max := representable.configBytes
  have depthSmall : spec.limits.maxIncludeDepth <= u32Max := representable.includeDepth
  rcases readLimited_ok limited (lt_saturatingAdd fits (ownFits.trans bytesSmall)) with
    ⟨bytes, opens, decodes, size⟩
  rw [size] at totalFits ownFits read
  rw [saturatingAdd_one depthSmall] at shallow
  exact ⟨bytes.length, opened_eq canonical known opens decodes parses, granted, bytesSmall,
    ownFits, shallow, totalFits, read⟩

private theorem fromStrWithPolicy_error {fs : FileSystem Path} {input : String}
    {format : GraphFormat} {policy : ResourcePolicy} {again : Path} :
    fs.fromStrWithPolicy input format policy ≠ .error (.includeCycle again) := by
  intro fails
  unfold fromStrWithPolicy at fails
  split at fails
  · cases fails
  · rcases Outcome.bind_error fails with parse | ⟨_, _, fails⟩
    · rcases Outcome.mapError_error parse with ⟨_, impossible⟩
      cases impossible
    · rcases Outcome.bind_error fails with grant | ⟨_, _, fails⟩
      · rcases Outcome.mapError_error grant with ⟨_, impossible⟩
        cases impossible
      · split at fails
        · cases fails
        · cases fails

private theorem readSpec_error {fs : FileSystem Path} {path file again : Path}
    {policy : ResourcePolicy} {state : LoadState Path} :
    fs.readSpec path file policy state ≠ .error (.includeCycle again) := by
  intro fails
  rcases Outcome.bind_error fails with format | ⟨format, _, fails⟩
  · unfold formatFromPath at format
    split at format <;> cases format
  · rcases Outcome.bind_error fails with content | ⟨content, _, fails⟩
    · rcases Outcome.bind_error content with opens | ⟨bytes, _, decodes⟩
      · rcases Outcome.mapError_error opens with ⟨_, impossible⟩
        cases impossible
      · split at decodes <;> cases decodes
    · split at fails
      · cases fails
      · dsimp only at fails
        split at fails
        · cases fails
        · rcases Outcome.bind_error fails with parse | ⟨_, _, fails⟩
          · exact fromStrWithPolicy_error parse
          · rcases Outcome.bind_error fails with grant | ⟨_, _, fails⟩
            · rcases Outcome.mapError_error grant with ⟨_, impossible⟩
              cases impossible
            · split at fails
              · cases fails
              · cases fails

theorem mem_includePaths {fs : FileSystem Path} {file dir base included : Path}
    {spec : GraphSpec} (parent : fs.parent file = some dir)
    (canonical : fs.canonicalize dir = .ok base)
    (member : included ∈ spec.includes.map (fs.join base)) :
    included ∈ fs.includePaths file spec := by
  unfold includePaths
  rw [parent]
  dsimp only
  rw [canonical]
  exact member

theorem finishFile_ok {registry : Registry} {render : Value -> String}
    {spec merged result : GraphSpec} {policy : ResourcePolicy} {state after : LoadState Path}
    (finished : finishFile registry render spec merged policy state = .ok (result, after)) :
    GraphSpec.finish registry render (merged.mergeIncluded spec) policy = .ok result ∧
      after = state := by
  unfold finishFile at finished
  split at finished
  · cases finished
  · rename_i succeeds
    cases finished
    exact ⟨succeeds, rfl⟩

private theorem finishFile_error {registry : Registry} {render : Value -> String}
    {spec merged : GraphSpec} {policy : ResourcePolicy} {state : LoadState Path} {again : Path} :
    finishFile registry render spec merged policy state ≠ .error (.includeCycle again) := by
  intro fails
  unfold finishFile at fails
  split at fails <;> cases fails

variable [DecidableEq Path]

/-- What a load that succeeds has gone through. -/
theorem tracked_ok {fs : FileSystem Path} {registry : Registry} {render : Value -> String}
    {depth : Nat} {policy : ResourcePolicy} {path : Path} {before after : LoadState Path}
    {spec : GraphSpec}
    (loaded : fs.loadFromPathTracked registry render depth policy path before =
      some (.ok (spec, after))) :
    Exists fun rest => Exists fun file => Exists fun parsed => Exists fun effective =>
    Exists fun read => Exists fun state =>
      depth = rest + 1 ∧ fs.canonicalize path = .ok file ∧ file ∉ before.resolving ∧
      fs.readSpec path file policy { before with resolving := file :: before.resolving } =
        .ok (parsed, effective, read) ∧
      normalizeTracked fs registry render (fs.loadFromPathTracked registry render rest) parsed
        (fs.parent file) effective read = some (.ok (spec, state)) ∧
      after = { state with resolving := state.resolving.erase file } := by
  cases depth with
  | zero => cases loaded
  | succ rest =>
      unfold loadFromPathTracked at loaded
      split at loaded
      · cases loaded
      · rename_i file canonical
        split at loaded
        · cases loaded
        · rename_i fresh
          split at loaded
          · cases loaded
          · rename_i parsed effective read reads
            rcases Option.map_eq_some_iff.mp loaded with ⟨result, normalized, outcome⟩
            cases result with
            | error error => cases outcome
            | ok result =>
                cases outcome
                exact ⟨rest, file, parsed, effective, read, result.2, rfl, canonical, fresh,
                  reads, normalized, rfl⟩

/-- The includes of a file have been loaded, one after the other. -/
theorem normalizeTracked_ok {fs : FileSystem Path} {registry : Registry}
    {render : Value -> String} {load : ResourcePolicy -> Path -> LoadState Path -> Outcome Path}
    {parsed spec : GraphSpec} {file : Path} {effective : ResourcePolicy}
    {read state : LoadState Path}
    (normalized : normalizeTracked fs registry render load parsed (fs.parent file) effective read =
      some (.ok (spec, state))) :
    Exists fun merged =>
      parsed.checkHeader = .ok () ∧
      GraphSpec.finish registry render (GraphSpec.mergeIncluded merged parsed) effective =
        .ok spec ∧
      ((fs.parent file = none ∧ parsed.includes = [] ∧ merged = GraphSpec.default ∧ state = read) ∨
        Exists fun dir => Exists fun base =>
          fs.parent file = some dir ∧ fs.canonicalize dir = .ok base ∧
          fs.loadIncludes (load effective) base effective GraphSpec.default read parsed.includes =
            some (.ok (merged, state))) := by
  unfold normalizeTracked at normalized
  split at normalized
  · cases normalized
  · rename_i header
    split at normalized
    · rename_i noParent
      split at normalized
      · cases normalized
      · rename_i noIncludes
        rcases finishFile_ok (Option.some.inj normalized) with ⟨finished, rfl⟩
        exact ⟨_, header, finished, Or.inl ⟨noParent, not_not.mp noIncludes, rfl, rfl⟩⟩
    · rename_i dir hasParent
      split at normalized
      · cases normalized
      · rename_i base canonical
        split at normalized
        · cases normalized
        · cases normalized
        · rename_i merged state included
          rcases finishFile_ok (Option.some.inj normalized) with ⟨finished, rfl⟩
          exact ⟨merged, header, finished, Or.inr ⟨dir, base, hasParent, canonical, included⟩⟩

/-! ## The loop over the includes -/

section Loop

variable {fs : FileSystem Path} {load : Path -> LoadState Path -> Outcome Path} {base : Path}
  {policy : ResourcePolicy}

theorem loadIncludes_ok {merged : GraphSpec} {before : LoadState Path} {include_ : String}
    {includes : List String} {outcome : GraphSpec × LoadState Path}
    (loaded : fs.loadIncludes load base policy merged before (include_ :: includes) =
      some (.ok outcome)) :
    Exists fun file => Exists fun included => Exists fun state =>
      fs.canonicalize (fs.join base include_) = .ok file ∧
      fs.startsWith file base = true ∧
      (meet base file before).included.length <= saturatingAdd policy.maxIncludeCount 1 ∧
      load (fs.join base include_) (meet base file before) = some (.ok (included, state)) ∧
      fs.loadIncludes load base policy (merged.mergeIncluded included) state includes =
        some (.ok outcome) := by
  unfold loadIncludes at loaded
  split at loaded
  · cases loaded
  · rename_i file canonical
    split at loaded
    · cases loaded
    · rename_i inside
      split at loaded
      · cases loaded
      · rename_i few
        split at loaded
        · cases loaded
        · cases loaded
        · rename_i included state first
          exact ⟨file, included, state, canonical, eq_true_of_ne_false inside,
            Nat.le_of_not_lt few, first, loaded⟩

omit [DecidableEq Path] in
theorem meet_resolving [DecidableEq Path] (base file : Path) (state : LoadState Path) :
    (meet base file state).resolving = state.resolving := by
  unfold meet
  split <;> rfl

/-- A load that succeeds leaves the files being resolved as they were. -/
def Keeps (load : Path -> LoadState Path -> Outcome Path) : Prop :=
  forall path before spec after, load path before = some (.ok (spec, after)) ->
    after.resolving = before.resolving

theorem loadIncludes_resolving (keeps : Keeps load) {merged spec : GraphSpec}
    {before after : LoadState Path} {includes : List String}
    (loaded : fs.loadIncludes load base policy merged before includes = some (.ok (spec, after))) :
    after.resolving = before.resolving := by
  induction includes generalizing merged before with
  | nil =>
      cases loaded
      rfl
  | cons include_ includes ih =>
      rcases loadIncludes_ok loaded with ⟨file, included, state, _, _, _, first, rest⟩
      rw [ih rest, keeps _ _ _ _ first, meet_resolving]

end Loop

theorem tracked_keeps (fs : FileSystem Path) (registry : Registry) (render : Value -> String)
    (depth : Nat) (policy : ResourcePolicy) :
    Keeps (fs.loadFromPathTracked registry render depth policy) := by
  induction depth generalizing policy with
  | zero =>
      intro path before spec after loaded
      cases loaded
  | succ depth ih =>
      intro path before spec after loaded
      rcases tracked_ok loaded with
        ⟨rest, file, parsed, effective, read, state, more, _, _, reads, normalized, rfl⟩
      cases more
      have kept : state.resolving = read.resolving := by
        rcases normalizeTracked_ok normalized with
          ⟨_, _, _, ⟨_, _, _, same⟩ | ⟨_, _, _, _, included⟩⟩
        · rw [same]
        · exact loadIncludes_resolving (ih effective) included
      rcases readSpec_parts reads with ⟨_, _, _, _, _, _, _, _, _, _, rfl⟩
      show state.resolving.erase file = before.resolving
      rw [kept]
      exact List.erase_cons_head file before.resolving

/-! ## Termination -/

section Depth

variable {fs : FileSystem Path} {base : Path} {policy : ResourcePolicy}

theorem loadIncludes_mono {load more : Path -> LoadState Path -> Outcome Path}
    (extends_ : forall path state result, load path state = some result ->
      more path state = some result)
    {merged : GraphSpec} {state : LoadState Path} {includes : List String}
    {result : Except (LoadError Path) (GraphSpec × LoadState Path)}
    (loaded : fs.loadIncludes load base policy merged state includes = some result) :
    fs.loadIncludes more base policy merged state includes = some result := by
  induction includes generalizing merged state with
  | nil => exact loaded
  | cons include_ includes ih =>
      unfold loadIncludes at loaded ⊢
      split at loaded
      · exact loaded
      · split at loaded
        · rename_i outside
          rw [if_pos outside]
          exact loaded
        · rename_i inside
          rw [if_neg inside]
          split at loaded
          · rename_i many
            rw [if_pos many]
            exact loaded
          · rename_i few
            rw [if_neg few]
            split at loaded
            · cases loaded
            · rename_i first
              rw [extends_ _ _ _ first]
              exact loaded
            · rename_i first
              rw [extends_ _ _ _ first]
              exact ih loaded

theorem loadIncludes_ends {load : Path -> LoadState Path -> Outcome Path} (keeps : Keeps load)
    {resolving : List Path}
    (ends : forall path state, state.resolving = resolving -> load path state ≠ none)
    (merged : GraphSpec) {state : LoadState Path} (current : state.resolving = resolving)
    (includes : List String) :
    fs.loadIncludes load base policy merged state includes ≠ none := by
  induction includes generalizing merged state with
  | nil => simp [loadIncludes]
  | cons include_ includes ih =>
      unfold loadIncludes
      split
      · simp
      · split
        · simp
        · split
          · simp
          · split
            · rename_i stuck
              exact absurd stuck (ends _ _ (by rw [meet_resolving, current]))
            · simp
            · rename_i first
              apply ih
              rw [keeps _ _ _ _ first, meet_resolving, current]

end Depth

theorem normalizeTracked_mono {fs : FileSystem Path} {registry : Registry}
    {render : Value -> String}
    {load more : ResourcePolicy -> Path -> LoadState Path -> Outcome Path}
    (extends_ : forall policy path state result, load policy path state = some result ->
      more policy path state = some result)
    {spec : GraphSpec} {baseDir : Option Path} {policy : ResourcePolicy} {state : LoadState Path}
    {result : Except (LoadError Path) (GraphSpec × LoadState Path)}
    (loaded : normalizeTracked fs registry render load spec baseDir policy state = some result) :
    normalizeTracked fs registry render more spec baseDir policy state = some result := by
  unfold normalizeTracked at loaded ⊢
  split at loaded
  · exact loaded
  · split at loaded
    · exact loaded
    · split at loaded
      · exact loaded
      · split at loaded
        · cases loaded
        · rename_i included
          rw [loadIncludes_mono (extends_ policy) included]
          exact loaded
        · rename_i included
          rw [loadIncludes_mono (extends_ policy) included]
          exact loaded

/-- A bound on the depth that is large enough stays so. -/
theorem tracked_mono {fs : FileSystem Path} {registry : Registry} {render : Value -> String}
    {depth more : Nat} (deeper : depth <= more) {policy : ResourcePolicy} {path : Path}
    {state : LoadState Path} {result : Except (LoadError Path) (GraphSpec × LoadState Path)}
    (loaded : fs.loadFromPathTracked registry render depth policy path state = some result) :
    fs.loadFromPathTracked registry render more policy path state = some result := by
  induction depth generalizing more policy path state result with
  | zero => cases loaded
  | succ depth ih =>
      cases more with
      | zero => exact absurd deeper (Nat.not_succ_le_zero depth)
      | succ more =>
          unfold loadFromPathTracked at loaded ⊢
          split at loaded
          · exact loaded
          · split at loaded
            · rename_i again
              rw [if_pos again]
              exact loaded
            · rename_i fresh
              rw [if_neg fresh]
              split at loaded
              · exact loaded
              · rcases Option.map_eq_some_iff.mp loaded with ⟨inner, normalized, outcome⟩
                rw [normalizeTracked_mono
                  (fun _ _ _ _ => ih (Nat.le_of_succ_le_succ deeper)) normalized]
                exact congrArg some outcome

theorem normalizeTracked_ends {fs : FileSystem Path} {registry : Registry}
    {render : Value -> String} {load : ResourcePolicy -> Path -> LoadState Path -> Outcome Path}
    {policy : ResourcePolicy} (keeps : Keeps (load policy)) {resolving : List Path}
    (ends : forall path state, state.resolving = resolving -> load policy path state ≠ none)
    {spec : GraphSpec} {baseDir : Option Path} {state : LoadState Path}
    (current : state.resolving = resolving) :
    normalizeTracked fs registry render load spec baseDir policy state ≠ none := by
  unfold normalizeTracked
  split
  · simp
  · split
    · split <;> simp
    · split
      · simp
      · split
        · rename_i stuck
          exact absurd stuck (loadIncludes_ends keeps ends _ current _)
        · simp
        · simp

/-- The files of a chain differ, so a chain is at most as long as there are
files. -/
theorem tracked_ends {fs : FileSystem Path} {registry : Registry} {render : Value -> String}
    {files : List Path}
    (finite : forall path file, fs.canonicalize path = .ok file -> file ∈ files)
    {depth : Nat} {policy : ResourcePolicy} {path : Path} {state : LoadState Path}
    (differ : state.resolving.Nodup) (known : state.resolving ⊆ files)
    (deep : files.length < depth + state.resolving.length) :
    fs.loadFromPathTracked registry render depth policy path state ≠ none := by
  induction depth generalizing policy path state with
  | zero =>
      have few := List.Nodup.length_le_of_subset differ known
      omega
  | succ depth ih =>
      unfold loadFromPathTracked
      split
      · simp
      · rename_i file canonical
        split
        · simp
        · rename_i fresh
          split
          · simp
          · rename_i spec effective read reads
            rcases readSpec_parts reads with ⟨_, _, _, _, _, _, _, _, _, _, rfl⟩
            have inner : forall path inside, inside.resolving = file :: state.resolving ->
                fs.loadFromPathTracked registry render depth effective path inside ≠ none := by
              intro path inside chain
              apply ih
              · rw [chain]
                exact List.nodup_cons.mpr ⟨fresh, differ⟩
              · rw [chain]
                exact List.cons_subset.mpr ⟨finite _ _ canonical, known⟩
              · rw [chain, List.length_cons]
                omega
            intro stuck
            exact normalizeTracked_ends (tracked_keeps fs registry render depth effective) inner
              rfl (Option.map_eq_none_iff.mp stuck)

/-! ## Cycles -/

theorem loadIncludes_cycle {fs : FileSystem Path} {base : Path} {policy : ResourcePolicy}
    {load : Path -> LoadState Path -> Outcome Path} (keeps : Keeps load) {merged : GraphSpec}
    {state : LoadState Path} {includes : List String} {path : Path}
    (failed : fs.loadIncludes load base policy merged state includes =
      some (.error (.includeCycle path))) :
    Exists fun included => Exists fun inside =>
      included ∈ includes.map (fs.join base) ∧ inside.resolving = state.resolving ∧
        load included inside = some (.error (.includeCycle path)) := by
  induction includes generalizing merged state with
  | nil => cases failed
  | cons include_ includes ih =>
      unfold loadIncludes at failed
      split at failed
      · cases failed
      · split at failed
        · cases failed
        · split at failed
          · cases failed
          · split at failed
            · cases failed
            · rename_i first
              cases failed
              exact ⟨_, _, List.mem_cons_self, meet_resolving _ _ _, first⟩
            · rename_i first
              rcases ih failed with ⟨included, inside, member, chain, cycle⟩
              refine ⟨included, inside, List.mem_cons_of_mem _ member, ?_, cycle⟩
              rw [chain, keeps _ _ _ _ first, meet_resolving]

theorem normalizeTracked_cycle {fs : FileSystem Path} {registry : Registry}
    {render : Value -> String} {load : ResourcePolicy -> Path -> LoadState Path -> Outcome Path}
    {parsed : GraphSpec} {file again : Path} {policy : ResourcePolicy} {state : LoadState Path}
    (keeps : Keeps (load policy))
    (failed : normalizeTracked fs registry render load parsed (fs.parent file) policy state =
      some (.error (.includeCycle again))) :
    Exists fun included => Exists fun inside =>
      included ∈ fs.includePaths file parsed ∧ inside.resolving = state.resolving ∧
        load policy included inside = some (.error (.includeCycle again)) := by
  unfold normalizeTracked at failed
  split at failed
  · cases failed
  · split at failed
    · split at failed
      · cases failed
      · exact absurd (Option.some.inj failed) finishFile_error
    · rename_i dir parent
      split at failed
      · cases failed
      · rename_i base canonical
        split at failed
        · cases failed
        · rename_i fails
          cases failed
          rcases loadIncludes_cycle keeps fails with ⟨included, inside, member, chain, cycle⟩
          exact ⟨included, inside, mem_includePaths parent canonical member, chain, cycle⟩
        · exact absurd (Option.some.inj failed) finishFile_error

/-- A cycle is reported where a chain comes back to one of its files. -/
theorem tracked_cycle {fs : FileSystem Path} {registry : Registry} {render : Value -> String}
    {depth : Nat} {policy : ResourcePolicy} {main path again : Path} {state : LoadState Path}
    (chain : fs.Approach main path state.resolving)
    (failed : fs.loadFromPathTracked registry render depth policy path state =
      some (.error (.includeCycle again))) : fs.ReachedAgain main again := by
  induction depth generalizing policy path state with
  | zero => cases failed
  | succ depth ih =>
      unfold loadFromPathTracked at failed
      split at failed
      · cases failed
      · rename_i file canonical
        split at failed
        · rename_i met
          cases failed
          exact ⟨state.resolving, file, chain, canonical, met⟩
        · split at failed
          · rename_i fails
            cases failed
            exact absurd fails readSpec_error
          · rename_i spec effective read reads
            rcases Option.map_eq_some_iff.mp failed with ⟨result, normalized, outcome⟩
            cases result with
            | ok result => cases outcome
            | error error =>
                cases outcome
                rcases readSpec_ok canonical reads with ⟨_, opens, _, _, _, _, _, rfl⟩
                rcases normalizeTracked_cycle (tracked_keeps fs registry render depth effective)
                  normalized with ⟨included, inside, member, inner, cycle⟩
                apply ih _ cycle
                rw [inner]
                exact Approach.step chain opens member

/-! ## Successful loads -/

theorem loadIncludes_each {fs : FileSystem Path} {base : Path} {policy : ResourcePolicy}
    {load : Path -> LoadState Path -> Outcome Path} (keeps : Keeps load) {merged : GraphSpec}
    {state : LoadState Path} {includes : List String} {outcome : GraphSpec × LoadState Path}
    (loaded : fs.loadIncludes load base policy merged state includes = some (.ok outcome))
    {included : Path} (member : included ∈ includes.map (fs.join base)) :
    Exists fun inside => Exists fun result =>
      inside.resolving = state.resolving ∧ load included inside = some (.ok result) := by
  induction includes generalizing merged state with
  | nil => cases member
  | cons include_ includes ih =>
      rcases loadIncludes_ok loaded with ⟨file, spec, next, _, _, _, first, rest⟩
      rcases List.mem_cons.mp member with rfl | later
      · exact ⟨_, _, meet_resolving _ _ _, first⟩
      · rcases ih rest later with ⟨inside, result, chain, succeeds⟩
        refine ⟨inside, result, ?_, succeeds⟩
        rw [chain, keeps _ _ _ _ first, meet_resolving]

/-- When a file is loaded, so is everything that it includes. -/
theorem tracked_each {fs : FileSystem Path} {registry : Registry} {render : Value -> String}
    {depth : Nat} {policy : ResourcePolicy} {path file included : Path} {state : LoadState Path}
    {outcome : GraphSpec × LoadState Path} {spec : GraphSpec} {size : Nat}
    (loaded : fs.loadFromPathTracked registry render depth policy path state = some (.ok outcome))
    (opens : fs.opened path = some (file, spec, size))
    (member : included ∈ fs.includePaths file spec) :
    Exists fun rest => Exists fun effective => Exists fun inside => Exists fun result =>
      policy.effectiveFor spec.limits = .ok effective ∧
      inside.resolving = file :: state.resolving ∧
      fs.loadFromPathTracked registry render rest effective included inside =
        some (.ok result) := by
  rcases tracked_ok loaded with
    ⟨rest, same, parsed, effective, read, _, _, canonical, _, reads, normalized, _⟩
  rcases readSpec_ok canonical reads with ⟨_, opensToo, granted, _, _, _, _, rfl⟩
  rw [opens] at opensToo
  cases opensToo
  rcases normalizeTracked_ok normalized with
    ⟨_, _, _, ⟨noParent, _, _, _⟩ | ⟨dir, base, parent, directory, includes⟩⟩
  · simp [includePaths, noParent] at member
  · simp only [includePaths, parent, directory] at member
    rcases loadIncludes_each (tracked_keeps fs registry render rest effective) includes member with
      ⟨inside, result, chain, succeeds⟩
    exact ⟨rest, effective, inside, result, granted, chain, succeeds⟩

/-- When a main file is loaded, so is every path that a chain comes to, with
that chain being resolved, and with at most the limits of the main file. -/
theorem approach_loaded {fs : FileSystem Path} {registry : Registry} {render : Value -> String}
    {depth : Nat} {policy effective : ResourcePolicy} {main path file : Path}
    {state : LoadState Path} {chain : List Path} {outcome : GraphSpec × LoadState Path}
    {spec : GraphSpec} {size : Nat}
    (loaded : fs.loadFromPathTracked registry render depth policy main state = some (.ok outcome))
    (fresh : state.resolving = []) (opens : fs.opened main = some (file, spec, size))
    (granted : policy.effectiveFor spec.limits = .ok effective)
    (approach : fs.Approach main path chain) :
    Exists fun rest => Exists fun own => Exists fun inside => Exists fun result =>
      inside.resolving = chain ∧
      fs.loadFromPathTracked registry render rest own path inside = some (.ok result) ∧
      forall file spec size granted, fs.opened path = some (file, spec, size) ->
        own.effectiveFor spec.limits = .ok granted -> granted.AtMost effective := by
  induction approach with
  | main =>
      refine ⟨depth, policy, state, outcome, fresh, loaded, ?_⟩
      intro sameFile sameSpec sameSize same opensToo grantedToo
      rw [opens] at opensToo
      cases opensToo
      rw [granted] at grantedToo
      cases grantedToo
      exact ResourcePolicy.AtMost.refl effective
  | step before opensBefore member ih =>
      rcases ih with ⟨rest, own, inside, result, chain, succeeds, below⟩
      rcases tracked_each succeeds opensBefore member with
        ⟨less, next, further, loadedToo, grantedBefore, longer, included⟩
      refine ⟨less, next, further, loadedToo, ?_, included, ?_⟩
      · rw [longer, chain]
      · intro innerFile innerSpec innerSize inner _ grantedInner
        rcases ResourcePolicy.effectiveFor_iff.mp grantedInner with ⟨rfl, within, _⟩
        exact within.trans (below _ _ _ _ opensBefore grantedBefore)

/-! ## What has been read -/

/-- The state after files have been loaded under a policy: so many were
entered, with so many bytes. -/
structure Books (policy : ResourcePolicy) (before after : LoadState Path) (count bytes : Nat) :
    Prop where
  resolving : after.resolving = before.resolving
  count : after.included.length = before.included.length + count
  bytes : after.totalConfigBytes = before.totalConfigBytes + bytes
  fewer : after.included.length <= max before.included.length (policy.maxIncludeCount + 1)
  smaller : after.totalConfigBytes <= max before.totalConfigBytes policy.maxConfigBytes

omit [DecidableEq Path] in
theorem Books.trans {policy : ResourcePolicy} {before middle after : LoadState Path}
    {count more bytes others : Nat} (first : Books policy before middle count bytes)
    (second : Books policy middle after more others) :
    Books policy before after (count + more) (bytes + others) where
  resolving := second.resolving.trans first.resolving
  count := by
    rw [second.count, first.count, Nat.add_assoc]
  bytes := by
    rw [second.bytes, first.bytes, Nat.add_assoc]
  fewer := second.fewer.trans (max_le first.fewer (le_max_right _ _))
  smaller := second.smaller.trans (max_le first.smaller (le_max_right _ _))

/-- A loader that succeeds has read the forest below the path it is given. -/
def Accounts (fs : FileSystem Path)
    (load : ResourcePolicy -> Path -> LoadState Path -> Outcome Path) : Prop :=
  forall policy path before result after,
    policy.maxConfigBytes <= u32Max -> before.totalConfigBytes <= u32Max ->
    load policy path before = some (.ok (result, after)) ->
    Exists fun file => Exists fun spec => Exists fun size => Exists fun includes =>
      fs.opened path = some (file, spec, size) ∧
      fs.Unfolds (fs.includePaths file spec) includes ∧
      Books policy before after includes.count (size + includes.bytes)

/-- The directory of the including file is not loaded, so every include is
entered. -/
theorem loadIncludes_books {fs : FileSystem Path} {base : Path} {policy : ResourcePolicy}
    {load : ResourcePolicy -> Path -> LoadState Path -> Outcome Path}
    (accounts : fs.Accounts load)
    (notBase : forall path before result, fs.canonicalize path = .ok base ->
      load policy path before ≠ some (.ok result))
    (bytesSmall : policy.maxConfigBytes <= u32Max)
    {merged result : GraphSpec} {before after : LoadState Path} {includes : List String}
    (readSmall : before.totalConfigBytes <= u32Max)
    (loaded : fs.loadIncludes (load policy) base policy merged before includes =
      some (.ok (result, after))) :
    Exists fun forest => fs.Unfolds (includes.map (fs.join base)) forest ∧
      Books policy before after forest.count forest.bytes := by
  induction includes generalizing merged before with
  | nil =>
      cases loaded
      exact ⟨.empty, Unfolds.empty, rfl, rfl, rfl, le_max_left _ _, le_max_left _ _⟩
  | cons include_ includes ih =>
      rcases loadIncludes_ok loaded with ⟨file, included, state, canonical, _, few, first, rest⟩
      have entered : meet base file before =
          { before with included := before.included ++ [file] } := by
        unfold meet
        rw [if_neg]
        rintro rfl
        exact notBase _ _ _ canonical first
      rw [entered] at few first
      have enters : Books policy before { before with included := before.included ++ [file] } 1 0 :=
        ⟨rfl, List.length_append, rfl, le_max_of_le_right (few.trans (min_le_left _ _)),
          le_max_left _ _⟩
      rcases accounts policy _ _ _ _ bytesSmall (by exact readSmall) first with
        ⟨file, spec, size, inner, opens, unfolds, books⟩
      have both := enters.trans books
      have smaller := both.smaller
      rcases ih (by omega) rest with ⟨forest, unfoldsRest, booksRest⟩
      refine ⟨.file file spec size inner forest, Unfolds.file opens unfolds unfoldsRest, ?_⟩
      have all := both.trans booksRest
      rw [Nat.zero_add] at all
      exact all

theorem normalizeTracked_books {fs : FileSystem Path} {registry : Registry}
    {render : Value -> String} {load : ResourcePolicy -> Path -> LoadState Path -> Outcome Path}
    (accounts : fs.Accounts load)
    (unreadable : forall policy path file before result error,
      fs.canonicalize path = .ok file -> fs.open_ file = .error error ->
      load policy path before ≠ some (.ok result))
    {parsed spec : GraphSpec} {file : Path} {policy : ResourcePolicy}
    {before after : LoadState Path} (bytesSmall : policy.maxConfigBytes <= u32Max)
    (readSmall : before.totalConfigBytes <= u32Max)
    (normalized : normalizeTracked fs registry render load parsed (fs.parent file) policy before =
      some (.ok (spec, after))) :
    Exists fun forest => fs.Unfolds (fs.includePaths file parsed) forest ∧
      Books policy before after forest.count forest.bytes := by
  rcases normalizeTracked_ok normalized with
    ⟨_, _, _, ⟨noParent, _, _, rfl⟩ | ⟨dir, base, parent, directory, includes⟩⟩
  · simp only [includePaths, noParent]
    exact ⟨.empty, Unfolds.empty, rfl, rfl, rfl, le_max_left _ _, le_max_left _ _⟩
  · simp only [includePaths, parent, directory]
    apply loadIncludes_books accounts _ bytesSmall readSmall includes
    intro path state result canonical
    rcases fs.directory file dir base parent directory with ⟨error, closed⟩
    exact unreadable policy path base state result error canonical closed

theorem tracked_unreadable {fs : FileSystem Path} {registry : Registry}
    {render : Value -> String} {depth : Nat} {policy : ResourcePolicy} {path file : Path}
    {before : LoadState Path} {result : GraphSpec × LoadState Path} {error : Error}
    (canonical : fs.canonicalize path = .ok file) (closed : fs.open_ file = .error error) :
    fs.loadFromPathTracked registry render depth policy path before ≠ some (.ok result) := by
  intro loaded
  rcases tracked_ok loaded with ⟨_, same, _, _, _, _, _, canonicalToo, _, reads, _, _⟩
  rw [canonical] at canonicalToo
  cases canonicalToo
  rcases readSpec_parts reads with ⟨_, _, _, limited, _⟩
  simp [readLimited, closed, Except.mapError, bind, Except.bind] at limited

theorem tracked_books (fs : FileSystem Path) (registry : Registry) (render : Value -> String)
    (depth : Nat) : fs.Accounts (fs.loadFromPathTracked registry render depth) := by
  induction depth with
  | zero =>
      intro policy path before result after _ _ loaded
      cases loaded
  | succ depth ih =>
      intro policy path before result after bytesSmall readSmall loaded
      rcases tracked_ok loaded with
        ⟨rest, file, parsed, effective, read, state, more, canonical, _, reads, normalized, rfl⟩
      cases more
      rcases readSpec_ok canonical reads with
        ⟨size, opens, granted, effectiveSmall, fits, _, totalFits, rfl⟩
      have exactly : saturatingAdd before.totalConfigBytes size =
          before.totalConfigBytes + size :=
        saturatingAdd_eq readSmall (fits.trans effectiveSmall)
      dsimp only at normalized totalFits
      rw [exactly] at normalized totalFits
      rcases normalizeTracked_books ih (fun _ _ _ _ _ _ => tracked_unreadable) effectiveSmall
        (by dsimp only; omega) normalized with ⟨forest, unfolds, books⟩
      refine ⟨file, parsed, size, forest, opens, unfolds, ?_⟩
      rcases ResourcePolicy.effectiveFor_iff.mp granted with ⟨rfl, within, _⟩
      have fewer := books.fewer
      have smaller := books.smaller
      have lowerCount := within.includeCount
      have lowerBytes := within.configBytes
      have bytes := books.bytes
      dsimp only at fewer smaller bytes
      refine ⟨?_, books.count, ?_, ?_, ?_⟩
      · show state.resolving.erase file = before.resolving
        rw [books.resolving]
        exact List.erase_cons_head file before.resolving
      · dsimp only
        omega
      · dsimp only
        omega
      · dsimp only
        omega

/-! ## Loading -/

/-- The include forest of a main file is finite and within the limits that
this file is granted, and nothing is being resolved any more. -/
def WithinLimits (fs : FileSystem Path) (policy : ResourcePolicy) (main : Path)
    (state : LoadState Path) : Prop :=
  Exists fun file => Exists fun parsed => Exists fun size => Exists fun includes =>
  Exists fun effective =>
    fs.opened main = some (file, parsed, size) ∧
    policy.effectiveFor parsed.limits = .ok effective ∧
    fs.Unfolds [main] (.file file parsed size includes .empty) ∧
    includes.count <= effective.maxIncludeCount ∧
    size + includes.bytes <= effective.maxConfigBytes ∧
    (forall path chain, fs.Approach main path chain ->
      chain.length <= effective.maxIncludeDepth) ∧
    state.resolving = []

theorem loadFromPath_ok {fs : FileSystem Path} {registry : Registry} {render : Value -> String}
    {depth : Nat} {policy : ResourcePolicy} {main : Path} {spec : GraphSpec}
    {state : LoadState Path}
    (loaded : fs.loadFromPath registry render depth policy main = some (.ok (spec, state))) :
    fs.WithinLimits policy main state := by
  unfold loadFromPath at loaded
  split at loaded
  · cases loaded
  · rename_i file _
    have kept := tracked_keeps _ _ _ _ _ _ _ _ _ loaded
    rcases tracked_ok loaded with
      ⟨rest, same, parsed, effective, read, after, _, canonical, _, reads, normalized, _⟩
    rcases readSpec_ok canonical reads with
      ⟨size, opens, granted, bytesSmall, fits, _, _, rfl⟩
    have exactly : saturatingAdd 0 size = 0 + size :=
      saturatingAdd_eq (Nat.zero_le _) (fits.trans bytesSmall)
    dsimp only at normalized
    rw [exactly, Nat.zero_add] at normalized
    rcases normalizeTracked_books (tracked_books fs registry render rest)
      (fun _ _ _ _ _ _ => tracked_unreadable) bytesSmall (by dsimp only; omega)
      normalized with ⟨includes, unfolds, books⟩
    have count := books.count
    have fewer := books.fewer
    have bytes := books.bytes
    have smaller := books.smaller
    dsimp only [List.length_singleton] at count fewer bytes smaller
    refine ⟨same, parsed, size, includes, effective, opens, granted,
      Unfolds.file opens unfolds Unfolds.empty, by omega, by omega, ?_, kept⟩
    intro path chain approach
    rcases approach_loaded loaded rfl opens granted approach with
      ⟨_, own, inside, result, current, succeeds, below⟩
    rcases tracked_ok succeeds with ⟨_, _, _, _, _, _, _, canonicalInner, _, readsInner, _, _⟩
    rcases readSpec_ok canonicalInner readsInner with
      ⟨_, opensInner, grantedInner, _, _, shallow, _, _⟩
    have lower := (below _ _ _ _ opensInner grantedInner).includeDepth
    dsimp only at shallow
    rw [current, List.length_cons] at shallow
    omega

/-- Loading ends on every include graph over finitely many files.  A cycle is
reported only where an include chain comes back to a file on it, and then the
load does not succeed.  When it succeeds, what has been read fits the limits
of the main file and nothing is left being resolved. -/
theorem load_total_bounded (fs : FileSystem Path) (registry : Registry)
    (render : Value -> String) (policy : ResourcePolicy) (main : Path) (files : List Path)
    (finite : forall path file, fs.canonicalize path = .ok file -> file ∈ files) :
    Exists fun result =>
      (forall depth, files.length < depth ->
        fs.loadFromPath registry render depth policy main = some result) ∧
      (forall path, result = .error (.includeCycle path) -> fs.ReachedAgain main path) ∧
      (forall path, fs.ReachedAgain main path -> forall outcome, result ≠ .ok outcome) ∧
      (forall spec state, result = .ok (spec, state) ->
        fs.WithinLimits policy main state) := by
  cases computed : fs.loadFromPath registry render (files.length + 1) policy main with
  | none =>
      exfalso
      unfold loadFromPath at computed
      split at computed
      · cases computed
      · exact tracked_ends finite List.nodup_nil (List.nil_subset files) (by simp) computed
  | some result =>
      refine ⟨result, ?_, ?_, ?_, ?_⟩
      · intro depth deep
        unfold loadFromPath at computed ⊢
        split at computed
        · exact computed
        · exact tracked_mono deep computed
      · rintro path rfl
        unfold loadFromPath at computed
        split at computed
        · cases computed
        · exact tracked_cycle Approach.main computed
      · rintro path ⟨chain, file, approach, canonical, again⟩ outcome rfl
        unfold loadFromPath at computed
        split at computed
        · cases computed
        · rcases tracked_ok computed with ⟨_, _, _, _, _, _, _, canonicalMain, _, reads, _, _⟩
          rcases readSpec_ok canonicalMain reads with ⟨_, opens, granted, _⟩
          rcases approach_loaded computed rfl opens granted approach with
            ⟨_, own, inside, result, current, succeeds, _⟩
          rcases tracked_ok succeeds with ⟨_, same, _, _, _, _, _, canonicalToo, fresh, _⟩
          rw [canonical] at canonicalToo
          cases canonicalToo
          exact fresh (current ▸ again)
      · rintro spec state rfl
        exact loadFromPath_ok computed

/-- A directory with a file that includes two others, which both include a
fourth.  A file consists of one letter. -/
def shelf : FileSystem String where
  canonicalize path :=
    if path ∈ ["/g", "/g/main.json", "/g/left.json", "/g/right.json", "/g/both.json"] then .ok path
    else .error (.io "No such file or directory")
  open_ path :=
    if path = "/g" then .error (.io "Is a directory")
    else if path = "/g/main.json" then .ok [109]
    else if path = "/g/both.json" then .ok [98]
    else .ok [115]
  parse _ content :=
    .ok { GraphSpec.default with
      includes :=
        if content = "m" then ["left.json", "right.json"]
        else if content = "b" then [] else ["both.json"] }
  extension _ := some "json"
  parent _ := some "/g"
  join base include_ := base ++ "/" ++ include_
  startsWith path base := base.toList.isPrefixOf path.toList
  display path := path
  directory := by
    intro file dir base parent canonical
    cases parent
    cases canonical
    exact ⟨_, rfl⟩

def noElements : Registry where
  elements := []
  modelSourceSize _ := .ok 0
  sourceOutputTensorBytes _ := .ok 0
  mockInferenceOutputTensorBytes _ := .ok 0

/-- The fourth file is read twice, and this is no cycle. -/
theorem shelf_bounded :
    (forall path, ¬ shelf.ReachedAgain "/g/main.json" path) ∧
      shelf.WithinLimits ResourcePolicy.default "/g/main.json"
        ⟨[], ["/g/main.json", "/g/left.json", "/g/both.json", "/g/right.json", "/g/both.json"],
          5⟩ := by
  have known : forall path file, shelf.canonicalize path = .ok file ->
      file ∈ ["/g", "/g/main.json", "/g/left.json", "/g/right.json", "/g/both.json"] := by
    intro path file canonical
    unfold shelf at canonical
    dsimp only at canonical
    split at canonical
    · rename_i member
      cases canonical
      exact member
    · cases canonical
  rcases load_total_bounded shelf noElements (fun _ => "") ResourcePolicy.default "/g/main.json" _
    known with ⟨result, ends, _, noCycle, within⟩
  have computed : ((shelf.loadFromPath noElements (fun _ => "") 6 ResourcePolicy.default
      "/g/main.json").map fun result => result.map Prod.snd) = some (.ok ⟨[], ["/g/main.json",
        "/g/left.json", "/g/both.json", "/g/right.json", "/g/both.json"], 5⟩) := by
    decide +kernel
  rw [ends 6 (by decide)] at computed
  cases result with
  | error error => cases computed
  | ok outcome =>
      rcases outcome with ⟨spec, state⟩
      cases computed
      exact ⟨fun path again => noCycle path again _ rfl, within spec _ rfl⟩

end FileSystem
end Graph
end DyunGu
