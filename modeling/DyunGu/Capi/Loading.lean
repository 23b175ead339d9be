import DyunGu.Capi.Engine
import DyunGu.Graph.Includes
import DyunGu.Graph.NormalForm

namespace DyunGu

open Core (ResourcePolicy)
open Graph

variable {E T Path : Type}

/-!
# Specifications from texts and from files

A specification can be loaded, reloaded and compared from a text and from a
file.  A file is normalized when it is read.  A text is parsed and no more, so
the two differ where there is something to normalize.
-/

namespace Graph.FileSystem

variable {fs : FileSystem Path} {path file : Path} {format : GraphFormat} {text : String}

/-- The bytes of a text are the text again. -/
theorem fromUTF8_text (text : String) :
    String.fromUTF8? ⟨text.toUTF8.data.toList.toArray⟩ = some text := by
  unfold String.fromUTF8?
  rw [Array.toArray_toList, String.toUTF8_eq_toByteArray, dif_pos text.isValidUTF8]
  rfl

theorem readLimited_stored (opens : fs.open_ file = .ok text.toUTF8.data.toList) {limit : Nat}
    (short : text.utf8ByteSize <= limit) : fs.readLimited file limit = .ok text := by
  have size := decoded_size (fromUTF8_text text)
  refine Outcome.bind_eq_ok (by rw [opens]; rfl) ?_
  rw [List.take_of_length_le (by omega), fromUTF8_text]

/-- Of a longer file so many bytes are read. -/
theorem readLimited_long (opens : fs.open_ file = .ok text.toUTF8.data.toList) {limit : Nat}
    (long : limit <= text.utf8ByteSize) {content : String}
    (reads : fs.readLimited file limit = .ok content) : content.utf8ByteSize = limit := by
  have size := decoded_size (fromUTF8_text text)
  rcases Outcome.bind_ok reads with ⟨bytes, opened, decoded⟩
  rw [opens] at opened
  cases opened
  split at decoded
  · rename_i found decodes
    cases decoded
    rw [decoded_size decodes, List.length_take]
    omega
  · cases decoded

/-- The first file that is read holds the text of a specification that is
accepted as a text. -/
theorem readSpec_stored (known : fs.formatFromPath path = .ok format)
    (opens : fs.open_ file = .ok text.toUTF8.data.toList) {included : List Path}
    {result : GraphSpec × ResourcePolicy × LoadState Path} :
    fs.readSpec path file ResourcePolicy.default ⟨[file], included, 0⟩ = .ok result <->
      Exists fun spec =>
        fs.fromStrWithPolicy text format ResourcePolicy.default = .ok spec ∧
          result = (spec, spec.limits, ⟨[file], included, text.utf8ByteSize⟩) := by
  have bound : ResourcePolicy.default.maxConfigBytes <= Core.u32Max := by decide
  have more := saturatingAdd_one bound
  unfold readSpec
  rw [known]
  dsimp only [bind, Except.bind]
  by_cases short : text.utf8ByteSize <= ResourcePolicy.default.maxConfigBytes
  · have total : saturatingAdd 0 text.utf8ByteSize = text.utf8ByteSize := by
      rw [saturatingAdd_eq (Nat.zero_le _) (short.trans bound), Nat.zero_add]
    rw [readLimited_stored opens (by omega)]
    dsimp only
    rw [if_neg (Nat.not_lt.mpr short), total, if_neg (Nat.not_lt.mpr short)]
    cases accepted : fs.fromStrWithPolicy text format ResourcePolicy.default with
    | error error =>
        constructor
        · intro impossible
          cases impossible
        · rintro ⟨spec, impossible, _⟩
          cases impossible
    | ok spec =>
        rcases fromStrWithPolicy_ok accepted with ⟨_, effective, granted, _⟩
        have isOwn := (ResourcePolicy.effectiveFor_iff.mp granted).1
        have grants : (grant ResourcePolicy.default spec : Except (LoadError Path) _) =
            .ok spec.limits := by
          unfold grant
          rw [granted, isOwn]
          rfl
        have shallow : ¬ saturatingAdd spec.limits.maxIncludeDepth 1 < [file].length := by
          unfold saturatingAdd
          rw [List.length_singleton]
          have large : 1 <= Backend.u64Max := by decide
          omega
        dsimp only
        rw [grants]
        dsimp only
        rw [if_neg shallow]
        constructor
        · intro isResult
          exact ⟨spec, rfl, (Except.ok.inj isResult).symm⟩
        · rintro ⟨same, isSame, rfl⟩
          cases isSame
          rfl
  · constructor
    · intro reads
      cases limited : fs.readLimited file
          (saturatingAdd ResourcePolicy.default.maxConfigBytes 1) with
      | error error =>
          rw [limited] at reads
          cases reads
      | ok content =>
          have size := readLimited_long opens (by omega) limited
          rw [limited] at reads
          dsimp only at reads
          rw [if_pos (by omega)] at reads
          cases reads
    · rintro ⟨spec, accepted, _⟩
      unfold fromStrWithPolicy at accepted
      rw [if_pos (by omega)] at accepted
      cases accepted

end Graph.FileSystem

namespace Capi

/-! ## The entry points -/

section Sources

variable [DecidableEq Path] (fs : FileSystem Path)

/-- A specification is read from a text under the published limits. -/
def fromString (text : String) (format : GraphFormat) : Except Error GraphSpec :=
  (fs.fromStrWithPolicy text format ResourcePolicy.default).mapError (LoadError.toError fs.display)

/-- A specification is read from a file under the limits of the process. -/
def fromFile (registry : Registry) (render : Value -> String) (depth : Nat)
    (installed : ResourcePolicy) (path : Path) : Option (Except Error GraphSpec) :=
  (fs.loadFromPath registry render depth installed path).map fun result =>
    (result.map Prod.fst).mapError (LoadError.toError fs.display)

/-- A file in a directory that holds a text, named for a format. -/
structure Stores (path : Path) (format : GraphFormat) (text : String) : Prop where
  known : fs.formatFromPath path = .ok format
  stored : Exists fun file => Exists fun dir => Exists fun base =>
    fs.canonicalize path = .ok file ∧ fs.open_ file = .ok text.toUTF8.data.toList ∧
      fs.parent file = some dir ∧ fs.canonicalize dir = .ok base

end Sources

structure DiffCounts where
  addedNodes : Nat
  removedNodes : Nat
  updatedNodes : Nat
  addedConnections : Nat
  removedConnections : Nat
deriving DecidableEq, Repr

namespace Engine

/-- `dg_engine_diff_string` and `dg_engine_diff_file`. -/
def diffFrom (registry : Registry) (engine : Engine T) (parsed : Except Error GraphSpec) :
    Except Error DiffCounts := do
  let spec <- checked registry parsed
  let diff := GraphSpec.diff engine.spec spec
  .ok ⟨diff.addedNodes.length, diff.removedNodes.length, diff.updatedNodes.length,
    diff.addedConnections.length, diff.removedConnections.length⟩

/-- Both calls fail, or both leave the same specification. -/
def SameOutcome {Failure Answer : Type} (first second : Engine T × Except Failure Answer) : Prop :=
  first.2.isOk = second.2.isOk ∧ (first.2.isOk = true -> first.1.spec = second.1.spec)

/-- All entry points treat two specifications that were read alike. -/
structure Agree (E T : Type) (registry : Registry) (first second : Except Error GraphSpec) :
    Prop where
  load : forall engine : Engine T,
    SameOutcome (engine.load registry first) (engine.load registry second)
  reload : forall (engine : Engine T) (installed : ResourcePolicy)
    (env : RunningGraph.UpdateEnv E T),
    SameOutcome (engine.reloadFrom registry installed env first)
      (engine.reloadFrom registry installed env second)
  diff : forall engine : Engine T,
    (engine.diffFrom registry first).toOption = (engine.diffFrom registry second).toOption

theorem agree_iff {registry : Registry} {first second : Except Error GraphSpec} :
    Agree E T registry first second <->
      (checked registry first).toOption = (checked registry second).toOption := by
  constructor
  · intro agree
    have loads := agree.load new
    unfold load SameOutcome at loads
    cases one : checked registry first with
    | error error =>
        rw [one] at loads
        cases two : checked registry second with
        | error other => rfl
        | ok spec =>
            rw [two] at loads
            cases loads.1
    | ok spec =>
        rw [one] at loads
        cases two : checked registry second with
        | error other =>
            rw [two] at loads
            cases loads.1
        | ok other =>
            rw [two] at loads
            exact congrArg some (loads.2 rfl)
  · intro same
    have both := Outcome.toOption_cases same
    constructor
    · intro engine
      unfold load
      rcases both with ⟨_, _, one, two⟩ | ⟨_, one, two⟩
      · rw [one, two]
        exact ⟨rfl, fun _ => rfl⟩
      · rw [one, two]
        exact ⟨rfl, fun _ => rfl⟩
    · intro engine installed env
      unfold reloadFrom
      rcases both with ⟨_, _, one, two⟩ | ⟨_, one, two⟩
      · rw [one, two]
        exact ⟨rfl, fun _ => rfl⟩
      · rw [one, two]
        exact ⟨rfl, fun _ => rfl⟩
    · intro engine
      unfold diffFrom
      rcases both with ⟨_, _, one, two⟩ | ⟨_, one, two⟩
      · rw [one, two]
        rfl
      · rw [one, two]

end Engine

/-! ## What a file gives -/

section Files

variable [DecidableEq Path] {fs : FileSystem Path} {registry : Registry} {path : Path}
  {format : GraphFormat} {text : String}

/-- Reading a file without includes ends, and it gives the normal form of the
text. -/
theorem fromFile_stored (registry : Registry) (render : Value -> String)
    (stores : Stores fs path format text)
    (noIncludes : forall spec, fs.parse format text = .ok spec -> spec.includes = [])
    (depth : Nat) :
    Exists fun parsed =>
      fromFile fs registry render (depth + 1) ResourcePolicy.default path = some parsed ∧
        forall normal, parsed = .ok normal <->
          Exists fun spec =>
            fs.fromStrWithPolicy text format ResourcePolicy.default = .ok spec ∧
              spec.checkHeader = .ok () ∧
              GraphSpec.finish registry render (GraphSpec.mergeIncluded GraphSpec.default spec)
                spec.limits = .ok normal := by
  rcases stores.stored with ⟨file, dir, base, canonical, opens, parent, canonicalDir⟩
  have read := @FileSystem.readSpec_stored Path fs path file format text stores.known opens [file]
  unfold fromFile FileSystem.loadFromPath
  rw [canonical]
  dsimp only
  unfold FileSystem.loadFromPathTracked
  rw [canonical]
  dsimp only
  rw [if_neg List.not_mem_nil]
  cases reads : fs.readSpec path file ResourcePolicy.default ⟨[file], [file], 0⟩ with
  | error error =>
      refine ⟨_, rfl, fun normal => ⟨fun impossible => (by cases impossible), ?_⟩⟩
      rintro ⟨spec, accepted, _⟩
      have succeeds := read.mpr ⟨spec, accepted, rfl⟩
      rw [reads] at succeeds
      cases succeeds
  | ok result =>
      rcases read.mp reads with ⟨spec, accepted, rfl⟩
      have bare := noIncludes spec (FileSystem.fromStrWithPolicy_ok accepted).1
      dsimp only
      rw [parent]
      unfold FileSystem.normalizeTracked
      have only : forall {other : GraphSpec},
          fs.fromStrWithPolicy text format ResourcePolicy.default = .ok other -> other = spec := by
        intro other isOther
        rw [accepted] at isOther
        exact (Except.ok.inj isOther).symm
      cases header : spec.checkHeader with
      | error error =>
          refine ⟨_, rfl, fun normal => ⟨fun impossible => (by cases impossible), ?_⟩⟩
          rintro ⟨other, isOther, supported, _⟩
          rw [only isOther, header] at supported
          cases supported
      | ok done =>
          dsimp only
          rw [canonicalDir, bare]
          dsimp only [FileSystem.loadIncludes]
          unfold FileSystem.finishFile
          cases finished : GraphSpec.finish registry render
              (GraphSpec.mergeIncluded GraphSpec.default spec) spec.limits with
          | error error =>
              refine ⟨_, rfl, fun normal => ⟨fun impossible => (by cases impossible), ?_⟩⟩
              rintro ⟨other, isOther, _, succeeds⟩
              rw [only isOther, finished] at succeeds
              cases succeeds
          | ok result =>
              refine ⟨_, rfl, fun normal => ⟨fun isNormal => ?_, ?_⟩⟩
              · cases isNormal
                exact ⟨spec, accepted, header, finished⟩
              · rintro ⟨other, isOther, _, succeeds⟩
                rw [only isOther, finished] at succeeds
                cases succeeds
                rfl

/-- Normalization under its own limits accepts a specification, and the normal
form is valid. -/
structure Completes (registry : Registry) (render : Value -> String) (spec : GraphSpec) :
    Prop where
  header : spec.checkHeader = .ok ()
  templates : forall node, node ∈ spec.nodes ->
    Exists fun result => GraphSpec.applyTemplate spec.templates node = .ok result
  plain : GraphSpec.validateReferences (spec.normalForm registry render) = .ok ()
  within : (spec.normalForm registry render).validateWithPolicy registry spec.limits = .ok ()
  valid : (spec.normalForm registry render).validate registry = .ok ()

/-- A specification that is valid as it is has nothing to normalize, and one
that is not valid does not become so. -/
def Conforms (registry : Registry) (render : Value -> String) (spec : GraphSpec) : Prop :=
  (spec.validate registry = .ok () ∧ spec.Finished registry) ∨
    (spec.validate registry ≠ .ok () ∧ ¬ Completes registry render spec)

theorem checked_iff {parsed : Except Error GraphSpec} {spec : GraphSpec} :
    (Engine.checked registry parsed).toOption = some spec <->
      parsed = .ok spec ∧ spec.validate registry = .ok () := by
  cases parsed with
  | error error =>
      constructor
      · intro impossible
        cases impossible
      · rintro ⟨impossible, _⟩
        cases impossible
  | ok found =>
      show (GraphSpec.validate registry found >>= fun _ => Except.ok found).toOption =
        some spec <-> _
      cases valid : found.validate registry with
      | error error =>
          constructor
          · intro impossible
            cases impossible
          · rintro ⟨same, isValid⟩
            cases same
            rw [valid] at isValid
            cases isValid
      | ok done =>
          constructor
          · intro same
            cases same
            exact ⟨rfl, valid⟩
          · rintro ⟨same, _⟩
            cases same
            rfl

theorem completes_iff (registry : Registry) (render : Value -> String) {spec : GraphSpec}
    (formed : spec.WellFormed) (noIncludes : spec.includes = []) :
    Completes registry render spec <->
      Exists fun normal => spec.checkHeader = .ok () ∧
        GraphSpec.finish registry render (GraphSpec.mergeIncluded GraphSpec.default spec)
          spec.limits = .ok normal ∧ normal.validate registry = .ok () := by
  have merged : GraphSpec.mergeIncluded GraphSpec.default spec = spec := by
    rw [GraphSpec.mergeIncluded_default formed.variableValues formed.templates, ← noIncludes]
  rw [merged]
  constructor
  · intro completes
    exact ⟨_, completes.header, GraphSpec.finish_iff.mpr
      ⟨completes.templates, rfl, completes.plain, completes.within⟩, completes.valid⟩
  · rintro ⟨normal, header, finished, valid⟩
    rcases GraphSpec.finish_iff.mp finished with ⟨known, rfl, references, within⟩
    exact ⟨header, known, references, within, valid⟩

/-- A text and a file agree on a specification exactly if it conforms, where
the file gives the normal form of it. -/
theorem conforms_iff (registry : Registry) (render : Value -> String) {spec : GraphSpec}
    (formed : spec.WellFormed) (noIncludes : spec.includes = []) {stored : Option GraphSpec}
    (isStored : forall result, stored = some result <->
      (spec.checkHeader = .ok () ∧
        GraphSpec.finish registry render (GraphSpec.mergeIncluded GraphSpec.default spec)
          spec.limits = .ok result) ∧ result.validate registry = .ok ()) :
    (Engine.checked registry (.ok spec)).toOption = stored <-> Conforms registry render spec := by
  by_cases valid : spec.validate registry = .ok ()
  · have isText : (Engine.checked registry (.ok spec)).toOption = some spec :=
      checked_iff.mpr ⟨rfl, valid⟩
    rw [isText, eq_comm, isStored, GraphSpec.finish_self_iff registry render formed noIncludes]
    constructor
    · rintro ⟨finished, _⟩
      exact Or.inl ⟨valid, finished⟩
    · rintro (⟨_, finished⟩ | ⟨notValid, _⟩)
      · exact ⟨finished, valid⟩
      · exact absurd valid notValid
  · have isText : (Engine.checked registry (.ok spec)).toOption = none := by
      refine Option.eq_none_iff_forall_ne_some.mpr fun result isResult => ?_
      rcases checked_iff.mp isResult with ⟨same, isValid⟩
      cases same
      exact valid isValid
    rw [isText, eq_comm, Option.eq_none_iff_forall_ne_some]
    have completes := completes_iff registry render formed noIncludes
    constructor
    · intro refused
      refine Or.inr ⟨valid, fun isComplete => ?_⟩
      rcases completes.mp isComplete with ⟨result, header, finished, isValid⟩
      exact refused result ((isStored result).mpr ⟨⟨header, finished⟩, isValid⟩)
    · rintro (⟨isValid, _⟩ | ⟨_, incomplete⟩) result isResult
      · exact valid isValid
      · rcases (isStored result).mp isResult with ⟨⟨header, finished⟩, isValid⟩
        exact incomplete (completes.mpr ⟨result, header, finished, isValid⟩)

/-- Texts and files agree on a text without includes exactly if what it says
conforms, where it is accepted as a text at all. -/
theorem sources_agree_iff (E T : Type) (registry : Registry) (render : Value -> String)
    (fs : FileSystem Path) (path : Path) (format : GraphFormat) (text : String) (depth : Nat)
    (stores : Stores fs path format text)
    (formed : forall spec, fs.parse format text = .ok spec -> spec.WellFormed)
    (noIncludes : forall spec, fs.parse format text = .ok spec -> spec.includes = []) :
    (Exists fun parsed =>
      fromFile fs registry render (depth + 1) ResourcePolicy.default path = some parsed ∧
        Engine.Agree E T registry (fromString fs text format) parsed) <->
      forall spec, fs.fromStrWithPolicy text format ResourcePolicy.default = .ok spec ->
        Conforms registry render spec := by
  rcases fromFile_stored registry render stores noIncludes depth with ⟨parsed, isParsed, normal⟩
  have reduced : (Exists fun parsed =>
      fromFile fs registry render (depth + 1) ResourcePolicy.default path = some parsed ∧
        Engine.Agree E T registry (fromString fs text format) parsed) <->
      (Engine.checked registry (fromString fs text format)).toOption =
        (Engine.checked registry parsed).toOption := by
    rw [isParsed]
    constructor
    · rintro ⟨other, same, agree⟩
      cases same
      exact Engine.agree_iff.mp agree
    · intro same
      exact ⟨parsed, rfl, Engine.agree_iff.mpr same⟩
  rw [reduced]
  have isFile : forall result, (Engine.checked registry parsed).toOption = some result <->
      (Exists fun spec => fs.fromStrWithPolicy text format ResourcePolicy.default = .ok spec ∧
        spec.checkHeader = .ok () ∧
        GraphSpec.finish registry render (GraphSpec.mergeIncluded GraphSpec.default spec)
          spec.limits = .ok result) ∧ result.validate registry = .ok () := by
    intro result
    rw [checked_iff, normal]
  unfold fromString
  cases accepted : fs.fromStrWithPolicy text format ResourcePolicy.default with
  | error error =>
      refine ⟨fun _ _ impossible => (by cases impossible), fun _ => ?_⟩
      refine (Option.eq_none_iff_forall_ne_some.mpr fun result isResult => ?_).symm
      rcases (isFile result).mp isResult with ⟨⟨spec, impossible, _⟩, _⟩
      rw [accepted] at impossible
      cases impossible
  | ok spec =>
      have parses := (FileSystem.fromStrWithPolicy_ok accepted).1
      have conforms : (Engine.checked registry (.ok spec)).toOption =
          (Engine.checked registry parsed).toOption <-> Conforms registry render spec := by
        refine conforms_iff registry render (formed spec parses) (noIncludes spec parses)
          fun result => ?_
        rw [isFile]
        constructor
        · rintro ⟨⟨other, isOther, finished⟩, isValid⟩
          rw [accepted] at isOther
          cases isOther
          exact ⟨finished, isValid⟩
        · rintro ⟨finished, isValid⟩
          exact ⟨⟨spec, accepted, finished⟩, isValid⟩
      refine conforms.trans ⟨?_, fun all => all spec rfl⟩
      rintro isConform other same
      cases same
      exact isConform

end Files

/-! ## A file with one node -/

/-- One file in one directory, and the parser on its text. -/
def single (text : String) (spec : GraphSpec) : FileSystem String where
  canonicalize path :=
    if path ∈ ["/g", "/g/main.yaml"] then .ok path
    else .error (.io "No such file or directory")
  open_ path :=
    if path = "/g/main.yaml" then .ok text.toUTF8.data.toList else .error (.io "Is a directory")
  parse _ content :=
    if content = text then .ok spec else .error (.yaml "unexpected text")
  extension _ := some "yaml"
  parent _ := some "/g"
  join base include_ := base ++ "/" ++ include_
  startsWith path base := base.toList.isPrefixOf path.toList
  display path := path
  directory := by
    intro file dir base parent canonical
    cases parent
    cases canonical
    exact ⟨_, rfl⟩

theorem single_stores (text : String) (spec : GraphSpec) :
    Stores (single text spec) "/g/main.yaml" .yaml text :=
  ⟨rfl, "/g/main.yaml", "/g", "/g", rfl, rfl, rfl, rfl⟩

theorem single_parse {text : String} {spec found : GraphSpec}
    (parses : (single text spec).parse .yaml text = .ok found) : found = spec := by
  have isSpec : (single text spec).parse .yaml text = .ok spec := if_pos rfl
  rw [isSpec] at parses
  exact (Except.ok.inj parses).symm

/-- A node without parameters. -/
def plainText : String := "nodes:\n- name: n\n  kind: probe\n"

def plainSpec : GraphSpec :=
  { GraphSpec.default with
    nodes := [⟨"n", "probe", none, false, none, none, none, none, .null⟩] }

/-- It can be loaded from a text and from a file. -/
theorem plain_sources_agree :
    Exists fun parsed =>
      fromFile (single plainText plainSpec) GraphSpec.probeRegistry (fun _ => "") 1
          ResourcePolicy.default "/g/main.yaml" = some parsed ∧
        Engine.Agree String Nat GraphSpec.probeRegistry
          (fromString (single plainText plainSpec) plainText .yaml) parsed := by
  refine (sources_agree_iff String Nat GraphSpec.probeRegistry (fun _ => "")
    (single plainText plainSpec) "/g/main.yaml" .yaml plainText 0 (single_stores _ _) ?_ ?_).mpr ?_
  · intro spec parses
    rw [single_parse parses]
    refine ⟨List.Pairwise.nil, List.Pairwise.nil, fun _ impossible => (by cases impossible), ?_⟩
    intro node member
    rw [List.mem_singleton.mp member]
    trivial
  · intro spec parses
    rw [single_parse parses]
    rfl
  · intro spec accepted
    rw [single_parse (FileSystem.fromStrWithPolicy_ok accepted).1]
    refine Or.inl ⟨by decide +kernel, by decide, ?_, ?_, by decide +kernel, by decide +kernel⟩
    · intro node member
      rw [List.mem_singleton.mp member]
      exact ⟨_, rfl⟩
    · intro node member
      rw [List.mem_singleton.mp member]
      decide +kernel

/-- The node refers to a variable. -/
def variableText : String :=
  "variables:\n  v: x\nnodes:\n- name: n\n  kind: probe\n  params:\n    own: ${v}\n"

def variableSpec : GraphSpec :=
  { GraphSpec.default with
    variableValues := [("v", .string "x")]
    nodes :=
      [⟨"n", "probe", none, false, none, none, none, none, .object [("own", .string "${v}")]⟩] }

/-- Both calls accept it, and only the file has the variable replaced. -/
theorem variable_kept_in_text :
    Stores (single variableText variableSpec) "/g/main.yaml" .yaml variableText ∧
      variableSpec.includes = [] ∧
      (Engine.checked GraphSpec.probeRegistry
        (fromString (single variableText variableSpec) variableText .yaml)).toOption =
          some variableSpec ∧
      ¬ Exists fun parsed =>
        fromFile (single variableText variableSpec) GraphSpec.probeRegistry (fun _ => "") 1
            ResourcePolicy.default "/g/main.yaml" = some parsed ∧
          Engine.Agree String Nat GraphSpec.probeRegistry
            (fromString (single variableText variableSpec) variableText .yaml) parsed := by
  have isText : (Engine.checked GraphSpec.probeRegistry
      (fromString (single variableText variableSpec) variableText .yaml)).toOption =
        some variableSpec := by
    decide +kernel
  have noIncludes : forall spec, (single variableText variableSpec).parse .yaml variableText =
      .ok spec -> spec.includes = [] := by
    intro spec parses
    rw [single_parse parses]
    rfl
  refine ⟨single_stores _ _, rfl, isText, ?_⟩
  rintro ⟨parsed, isParsed, agree⟩
  rcases fromFile_stored GraphSpec.probeRegistry (fun _ => "") (single_stores _ _) noIncludes 0
    with ⟨same, isSame, normal⟩
  rw [isParsed] at isSame
  cases isSame
  have isFile := Engine.agree_iff.mp agree
  rw [isText] at isFile
  rcases (normal variableSpec).mp (checked_iff.mp isFile.symm).1 with
    ⟨spec, accepted, _, finished⟩
  rw [single_parse (FileSystem.fromStrWithPolicy_ok accepted).1] at finished
  have changes : GraphSpec.finish GraphSpec.probeRegistry (fun _ => "")
      (GraphSpec.mergeIncluded GraphSpec.default variableSpec) variableSpec.limits ≠
        .ok variableSpec := by
    decide +kernel
  exact changes finished

end Capi
end DyunGu
