import DyunGu.Graph.Normalize

namespace DyunGu
namespace Graph

open DyunGu.Backend (u64Max)
open DyunGu.Core (ResourcePolicy)

/-!
# Loading a graph with its includes

A graph file may include others, relative to its own directory.  The loader
reads them depth first.  It keeps the files it is in the middle of, all files
it has met, and the bytes it has read; a file that is met again while it is
being resolved is a cycle.  The limits of each file become the policy under
which its includes are loaded.

Paths, directories, the contents of files and the three parsers are given.
The loader recurses over the include graph, so it is written with a bound on
the depth of the recursion, and `none` means that the bound was too small.
-/

inductive GraphFormat where
  | yaml
  | json
  | toml
deriving DecidableEq, Repr

/-- The directory that a path is in holds files and is not one. -/
structure FileSystem (Path : Type) where
  canonicalize : Path -> Except Error Path
  open_ : Path -> Except Error (List UInt8)
  parse : GraphFormat -> String -> Except Error GraphSpec
  extension : Path -> Option String
  parent : Path -> Option Path
  join : Path -> String -> Path
  startsWith : Path -> Path -> Bool
  display : Path -> String
  directory : forall file dir base, parent file = some dir -> canonicalize dir = .ok base ->
    Exists fun error => open_ base = .error error

/-- The errors of the loader, by the place they come from. -/
inductive LoadError (Path : Type) where
  | given (error : Error)
  | unknownFormat (path : Path)
  | fileSize (path : Path) (size maximum : Nat)
  | totalSize (path : Path) (total maximum : Nat)
  | stringSize (size maximum : Nat)
  | effectiveSize (size maximum : Nat)
  | limits (error : Core.Error)
  | includeCycle (path : Path)
  | includeDepth (maximum : Nat)
  | includeOutside (include_ : String)
  | includeCount (maximum : Nat)
  | noBase
deriving DecidableEq, Repr

namespace LoadError

variable {Path : Type}

/-- The error that the loader reports. -/
def toError (display : Path -> String) : LoadError Path -> Error
  | .given error => error
  | .unknownFormat path => .unknownFormat (display path)
  | .fileSize path size maximum => .validation (display path)
      ("config file size " ++ toString size ++ " exceeds effective maximum " ++ toString maximum)
  | .totalSize path total maximum => .validation (display path)
      ("cumulative config bytes " ++ toString total ++ " exceeds effective maximum " ++
        toString maximum)
  | .stringSize size maximum => .validation "limits.max_config_bytes"
      ("config string size " ++ toString size ++ " exceeds maximum " ++ toString maximum)
  | .effectiveSize size maximum => .validation "limits.max_config_bytes"
      ("config string size " ++ toString size ++ " exceeds effective maximum " ++
        toString maximum)
  | .limits error => .validation "limits" error.toText
  | .includeCycle path => .validation "includes" ("include cycle detected at " ++ display path)
  | .includeDepth maximum => .validation "includes"
      ("include depth exceeds maximum " ++ toString maximum)
  | .includeOutside include_ => .validation "includes"
      ("include " ++ include_ ++ " resolves outside the graph base directory")
  | .includeCount maximum => .validation "includes"
      ("include count exceeds maximum " ++ toString maximum)
  | .noBase => .validation "includes"
      "includes require loading from a file path with a base directory"

end LoadError

/-- `resolving` is a set, kept as a list without repetitions. -/
structure LoadState (Path : Type) where
  resolving : List Path
  included : List Path
  totalConfigBytes : Nat
deriving DecidableEq, Repr

def saturatingAdd (first second : Nat) : Nat := min (first + second) u64Max

namespace FileSystem

variable {Path : Type}

def formatFromPath (fs : FileSystem Path) (path : Path) : Except (LoadError Path) GraphFormat :=
  match fs.extension path with
  | some "yaml" | some "yml" => .ok .yaml
  | some "json" => .ok .json
  | some "toml" => .ok .toml
  | _ => .error (.unknownFormat path)

/-- At most so many bytes of a file, as a text. -/
def readLimited (fs : FileSystem Path) (path : Path) (limit : Nat) :
    Except (LoadError Path) String := do
  let bytes <- (fs.open_ path).mapError .given
  match String.fromUTF8? ⟨(bytes.take limit).toArray⟩ with
  | some content => .ok content
  | none => .error (.given (.io "stream did not contain valid UTF-8"))

def grant (policy : ResourcePolicy) (spec : GraphSpec) :
    Except (LoadError Path) ResourcePolicy :=
  (policy.effectiveFor spec.limits).mapError .limits

def fromStrWithPolicy (fs : FileSystem Path) (input : String) (format : GraphFormat)
    (policy : ResourcePolicy) : Except (LoadError Path) GraphSpec := do
  if policy.maxConfigBytes < input.utf8ByteSize then
    .error (.stringSize input.utf8ByteSize policy.maxConfigBytes)
  else
    let spec <- (fs.parse format input).mapError .given
    let effective <- grant policy spec
    if effective.maxConfigBytes < input.utf8ByteSize then
      .error (.effectiveSize input.utf8ByteSize effective.maxConfigBytes)
    else .ok spec

variable [DecidableEq Path]

/-- Read and parse one file, and check it against the policy and against its
own limits. -/
def readSpec (fs : FileSystem Path) (path canonicalPath : Path) (policy : ResourcePolicy)
    (state : LoadState Path) :
    Except (LoadError Path) (GraphSpec × ResourcePolicy × LoadState Path) := do
  let format <- fs.formatFromPath path
  let content <- fs.readLimited canonicalPath (saturatingAdd policy.maxConfigBytes 1)
  if policy.maxConfigBytes < content.utf8ByteSize then
    .error (.fileSize path content.utf8ByteSize policy.maxConfigBytes)
  else
    let total := saturatingAdd state.totalConfigBytes content.utf8ByteSize
    if policy.maxConfigBytes < total then
      .error (.totalSize path total policy.maxConfigBytes)
    else
      let spec <- fs.fromStrWithPolicy content format policy
      let effective <- grant policy spec
      if saturatingAdd effective.maxIncludeDepth 1 < state.resolving.length then
        .error (.includeDepth effective.maxIncludeDepth)
      else .ok (spec, effective, { state with totalConfigBytes := total })

/-- What loading one file gives: a specification and the state after it. -/
abbrev Outcome (Path : Type) := Option (Except (LoadError Path) (GraphSpec × LoadState Path))

/-- Enter an include into the files met so far.  The comparison is with the
base directory. -/
def meet (base canonicalIncluded : Path) (state : LoadState Path) : LoadState Path :=
  if base = canonicalIncluded then state
  else { state with included := state.included ++ [canonicalIncluded] }

/-- The loop over the includes of one file, with the function that loads one
of them. -/
def loadIncludes (fs : FileSystem Path) (load : Path -> LoadState Path -> Outcome Path)
    (base : Path) (policy : ResourcePolicy) :
    GraphSpec -> LoadState Path -> List String -> Outcome Path
  | merged, state, [] => some (.ok (merged, state))
  | merged, state, include_ :: includes =>
      match fs.canonicalize (fs.join base include_) with
      | .error error => some (.error (.given error))
      | .ok canonicalIncluded =>
          if fs.startsWith canonicalIncluded base = false then
            some (.error (.includeOutside include_))
          else if saturatingAdd policy.maxIncludeCount 1 <
              (meet base canonicalIncluded state).included.length then
            some (.error (.includeCount policy.maxIncludeCount))
          else
            match load (fs.join base include_) (meet base canonicalIncluded state) with
            | none => none
            | some (.error error) => some (.error error)
            | some (.ok (included, state)) =>
                loadIncludes fs load base policy (merged.mergeIncluded included) state includes

/-- Merge a file over its includes and normalize the result. -/
def finishFile (registry : Registry) (render : Value -> String) (spec merged : GraphSpec)
    (policy : ResourcePolicy) (state : LoadState Path) :
    Except (LoadError Path) (GraphSpec × LoadState Path) :=
  match GraphSpec.finish registry render (merged.mergeIncluded spec) policy with
  | .error error => .error (.given error)
  | .ok spec => .ok (spec, state)

def normalizeTracked (fs : FileSystem Path) (registry : Registry) (render : Value -> String)
    (load : ResourcePolicy -> Path -> LoadState Path -> Outcome Path) (spec : GraphSpec)
    (baseDir : Option Path) (policy : ResourcePolicy) (state : LoadState Path) : Outcome Path :=
  match spec.checkHeader with
  | .error error => some (.error (.given error))
  | .ok () =>
      match baseDir with
      | none =>
          if spec.includes ≠ [] then some (.error .noBase)
          else some (finishFile registry render spec GraphSpec.default policy state)
      | some dir =>
          match fs.canonicalize dir with
          | .error error => some (.error (.given error))
          | .ok base =>
              match fs.loadIncludes (load policy) base policy GraphSpec.default state
                  spec.includes with
              | none => none
              | some (.error error) => some (.error error)
              | some (.ok (merged, state)) =>
                  some (finishFile registry render spec merged policy state)

/-- Load one file with its includes. -/
def loadFromPathTracked (fs : FileSystem Path) (registry : Registry) (render : Value -> String) :
    Nat -> ResourcePolicy -> Path -> LoadState Path -> Outcome Path
  | 0, _, _, _ => none
  | depth + 1, policy, path, state =>
      match fs.canonicalize path with
      | .error error => some (.error (.given error))
      | .ok canonicalPath =>
          if canonicalPath ∈ state.resolving then some (.error (.includeCycle path))
          else
            match fs.readSpec path canonicalPath policy
                { state with resolving := canonicalPath :: state.resolving } with
            | .error error => some (.error error)
            | .ok (spec, effective, state) =>
                (normalizeTracked fs registry render
                  (loadFromPathTracked fs registry render depth) spec
                  (fs.parent canonicalPath) effective state).map
                  (Except.map fun (spec, state) =>
                    (spec, { state with resolving := state.resolving.erase canonicalPath }))

/-- Load a graph file. -/
def loadFromPath (fs : FileSystem Path) (registry : Registry) (render : Value -> String)
    (depth : Nat) (policy : ResourcePolicy) (path : Path) : Outcome Path :=
  match fs.canonicalize path with
  | .error error => some (.error (.given error))
  | .ok canonical =>
      fs.loadFromPathTracked registry render depth policy path ⟨[], [canonical], 0⟩

end FileSystem
end Graph
end DyunGu
