import SearchStore.Schema.Basic

/-!
What can go wrong, by origin. Options and schemas are refused before anything
is sent; the engine may be out of reach, refuse a request, or answer something
that cannot be understood; a bulk request may fail in part. Each cause has one
wording, given by `message`.
-/

namespace SearchStore

inductive OptionError where
  | missing (option : String)
  | invalid (option reason : String)
deriving DecidableEq, Repr

inductive EngineError where
  /-- No answer arrived. -/
  | transport (reason : String)
  /-- The engine refused, with a status and a reason. -/
  | response (status : Nat) (reason : String)
  /-- The answer could not be understood. -/
  | unexpected (reason : String)
deriving DecidableEq, Repr

inductive BulkError where
  /-- Items of one chunk were refused. -/
  | chunkFailed (chunk : Nat) (failedIds : List String) (reason : String)
  /-- What remained of failures at the end of a load. -/
  | aggregate (failures : List String)
deriving DecidableEq, Repr

inductive RepositoryError where
  | configuration (cause : OptionError)
  | schema (cause : SchemaError)
  | engine (cause : EngineError)
  | bulk (cause : BulkError)
  /-- A document could not be written or read. -/
  | serialization (reason : String)
  | notImplemented (operation : String)
  | cancelled
deriving DecidableEq, Repr

def OptionError.message : OptionError → String
  | .missing option => "missing required option: " ++ option
  | .invalid option reason => "invalid option " ++ option ++ ": " ++ reason

def SchemaError.message : SchemaError → String
  | .missingTypeName path => "schema declared without a type name at " ++ path
  | .missingPropertyName typeName => "property without a name in type " ++ typeName
  | .duplicateProperty typeName name => "duplicate property " ++ name ++ " in type " ++ typeName
  | .emptyAggregateOrder path => "aggregation on " ++ path ++ " has an empty order key"

def EngineError.message : EngineError → String
  | .transport reason => "transport error: " ++ reason
  | .response status reason => "engine returned status " ++ toString status ++ ": " ++ reason
  | .unexpected reason => "unexpected engine response: " ++ reason

def BulkError.message : BulkError → String
  | .chunkFailed chunk failedIds reason =>
    "bulk chunk " ++ toString chunk ++ " failed for " ++ toString failedIds.length ++ " item(s): "
      ++ reason
  | .aggregate failures => "\r\n" ++ "; \r\n".intercalate failures

namespace RepositoryError

def message : RepositoryError → String
  | .configuration cause => cause.message
  | .schema cause => cause.message
  | .engine cause => cause.message
  | .bulk cause => cause.message
  | .serialization reason => "serialization error: " ++ reason
  | .notImplemented operation => operation ++ " is not implemented"
  | .cancelled => "operation cancelled"

/-- Whether another attempt may do better: all that came from the engine, and
documents that could not be read. -/
def isRetryable : RepositoryError → Bool
  | .engine _ | .bulk _ | .serialization _ => true
  | .configuration _ | .schema _ | .notImplemented _ | .cancelled => false

/-- Whether the error looks passing: no answer, too many requests, or a fault
on the engine's side. -/
def isTransient : RepositoryError → Bool
  | .engine (.transport _) => true
  | .engine (.response status _) => status = 429 || 500 ≤ status
  | _ => false

end RepositoryError

end SearchStore
