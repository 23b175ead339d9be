import Mathlib.Data.Nat.Basic

namespace DyunGu
namespace Graph

/-!
# Graph errors and their scope

The engine reads only two things off an error: its scope, which decides
whether a worker's failure stops the whole graph and which of several worker
errors is reported, and whether it is a cooperative cancellation.  The
constructors and display texts follow `dg-graph/src/error.rs`; the texts of
the wrapped foreign errors are carried as strings.
-/

/-- How far an error reaches inside one graph execution. -/
inductive ErrorScope where
  | frameLocal
  | streamLocal
  | nodeFatal
  | graphFatal
deriving DecidableEq, Repr

namespace ErrorScope

/-- The declaration order that the derived `Ord` instance compares. -/
def rank : ErrorScope -> Nat
  | .frameLocal => 0
  | .streamLocal => 1
  | .nodeFatal => 2
  | .graphFatal => 3

def isFatal : ErrorScope -> Bool
  | .nodeFatal | .graphFatal => true
  | .frameLocal | .streamLocal => false

end ErrorScope

inductive Error where
  | config (message : String)
  | validation (path message : String)
  | unknownFormat (path : String)
  | unknownNodeKind (kind : String)
  | unknownPort (node port : String)
  | portTypeMismatch (fromNode fromPort toNode toPort : String)
  | duplicateNode (name : String)
  | cycleDetected
  | element (element message : String)
  | badFrame (element message : String)
  | runtime (message : String)
  | notRunning
  | notBuilt (message : String)
  | resourceLimit (resource : String) (requested limit : Nat)
  | timeout (message : String)
  | busy (message : String)
  | cancelled
  | invalidState (message : String)
  | invariant (message : String)
  | io (message : String)
  | json (message : String)
  | yaml (message : String)
  | tomlDe (message : String)
  | tomlSer (message : String)
  | runtimeBackend (message : String)
  | core (message : String)
deriving DecidableEq, Repr

namespace Error

/-- The display text of an error, as recorded in a root cause. -/
def toText : Error -> String
  | .config message => "configuration error: " ++ message
  | .validation path message => "invalid graph spec at " ++ path ++ ": " ++ message
  | .unknownFormat path => "unknown graph format for path: " ++ path
  | .unknownNodeKind kind => "unknown node kind: " ++ kind
  | .unknownPort node port => "unknown port " ++ port ++ " on node " ++ node
  | .portTypeMismatch fromNode fromPort toNode toPort =>
      "connection type mismatch from " ++ fromNode ++ "." ++ fromPort ++ " to " ++
        toNode ++ "." ++ toPort
  | .duplicateNode name => "duplicate node name: " ++ name
  | .cycleDetected => "graph contains a cycle"
  | .element worker message => "element error in " ++ worker ++ ": " ++ message
  | .badFrame worker message => "bad frame in " ++ worker ++ ": " ++ message
  | .runtime message => "runtime error: " ++ message
  | .notRunning => "graph is not running"
  | .notBuilt message => "graph is not built: " ++ message
  | .resourceLimit resource requested limit =>
      "resource limit exceeded for " ++ resource ++ ": requested " ++ toString requested ++
        ", limit " ++ toString limit
  | .timeout message => "timeout: " ++ message
  | .busy message => "busy: " ++ message
  | .cancelled => "cancelled"
  | .invalidState message => "invalid state: " ++ message
  | .invariant message => "invariant violation: " ++ message
  | .io message | .json message | .yaml message | .tomlDe message | .tomlSer message
  | .runtimeBackend message | .core message => message

/-- Cancellation, not-running and bad frames are frame-local, invariant
violations are graph-fatal, and everything else fails the node. -/
def scope : Error -> ErrorScope
  | .cancelled | .notRunning => .frameLocal
  | .badFrame _ _ => .frameLocal
  | .invariant _ => .graphFatal
  | _ => .nodeFatal

def isCancellation : Error -> Bool
  | .cancelled | .notRunning => true
  | _ => false

end Error

/-- Keep the earlier error unless the new one has a strictly larger scope. -/
def selectError : Option Error -> Error -> Option Error
  | some existing, candidate =>
      if candidate.scope.rank <= existing.scope.rank then some existing else some candidate
  | none, candidate => some candidate

/-- Selecting among worker errors never forgets that there was one. -/
theorem selectError_isSome (current : Option Error) (candidate : Error) :
    (selectError current candidate).isSome = true := by
  cases current with
  | none => rfl
  | some existing =>
      simp only [selectError]
      split <;> rfl

end Graph
end DyunGu
