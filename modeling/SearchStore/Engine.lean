import SearchStore.Bulk.Action
import SearchStore.Bulk.Response
import SearchStore.Retry.Basic

/-!
The search engine as its clients see it: the calls that it understands, and for
each call the kind of answer. An engine is a machine that takes a call in some
state and gives what comes of it, be it an answer or a fault, with the state
that it goes to. A call may change the state although no answer arrives.
-/

namespace SearchStore

/-- A document of an index. Documents are stored by routing and id. -/
structure DocumentRef where
  index : String
  id : String
  routing : String
deriving DecidableEq, Repr

namespace Engine

inductive Call where
  | documentExists (document : DocumentRef)
  | getDocument (document : DocumentRef)
  | count (index : String) (body : Json)
  | search (index : String) (body : Json)
  | indexDocument (document : DocumentRef) (content : Json)
  /-- Merges a part into the stored document. -/
  | updateDocument (document : DocumentRef) (part : Json)
  | deleteDocument (document : DocumentRef)
  | bulk (index : String) (actions : List BulkAction)
  | deleteByQuery (index : String) (query : Json)
  | putSettings (index : String) (settings : Json)
  | indexExists (index : String)
  | createIndex (index : String) (body : Json)
  | deleteIndex (index : String)
  /-- The names of the indices behind an alias. -/
  | getAlias (name : String)
  | deleteAlias (name : String)
  | indexStats (index : String)
  | getLifecycle (policy : String)
  | putLifecycle (policy : String) (body : Json)
  | putIndexTemplate (name : String) (body : Json)
  | clusterHealth (index : String)

@[reducible]
def Call.Answer : Call → Type
  | .documentExists _ | .indexExists _ => Bool
  | .getDocument _ | .getLifecycle _ => Option Json
  | .count .. => Nat
  | .search .. | .indexStats _ | .clusterHealth _ => Json
  | .bulk .. => BulkResponse
  | .getAlias _ => List String
  | _ => Unit

end Engine

structure Engine (σ : Type) where
  respond : (call : Engine.Call) → σ → Attempt EngineError call.Answer × σ

/-- The state of an engine and the calls made so far, the last one first, each
with the instant at which it started. -/
structure EngineState (σ : Type) where
  engine : σ
  calls : List (Nat × Engine.Call) := []

def Attempt.mapError {ε ε' α : Type} (f : ε → ε') (attempt : Attempt ε α) : Attempt ε' α :=
  { attempt with outcome := attempt.outcome.mapError f }

def Engine.attempt {σ : Type} (engine : Engine σ) (call : Engine.Call) (now : Nat)
    (state : EngineState σ) : Attempt RepositoryError call.Answer × EngineState σ :=
  let (answer, next) := engine.respond call state.engine
  (answer.mapError .engine, { engine := next, calls := (now, call) :: state.calls })

end SearchStore
