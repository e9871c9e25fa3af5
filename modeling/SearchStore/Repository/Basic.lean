import SearchStore.Engine
import SearchStore.Options.Basic
import SearchStore.Request
import SearchStore.Retry.Concurrent

/-!
Repositories of documents of one type. A repository knows its options, the
properties of its documents and how to retry; every call of the engine goes
through `call`, so that retries and cancellation are the same for all.
-/

namespace SearchStore

/-- Documents that a repository keeps: their id, and how they are written and
read. Either may fail with a reason. -/
class Document (δ : Type) where
  id : δ → String
  encode : δ → Except String Json
  decode : Json → Except String δ

structure Repository (σ : Type) where
  options : RepositoryOptions
  schema : DocumentSchema
  retry : RetryPolicy
  engine : Engine σ

namespace Repository

variable {σ : Type}

def new (options : RepositoryOptions) (types : TypeTable) (engine : Engine σ) :
    Except RepositoryError (Repository σ) := do
  options.validate.mapError .configuration
  let schema ← (DocumentSchema.build types).mapError .schema
  return { options, schema, retry := .ofAttempts options.maxAttempts, engine }

/-- The index, or the alias, that is read and written. -/
def index (repo : Repository σ) : String := repo.options.index

def requests (repo : Repository σ) : RequestBuilder :=
  ⟨repo.schema, repo.options.maxInnerResultWindow⟩

/-- A document of the repository, routed by its id. -/
def ref (repo : Repository σ) (id : String) : DocumentRef := ⟨repo.index, id, id⟩

def shouldRetry (repo : Repository σ) (error : RepositoryError) : Bool :=
  if repo.options.retryTransientOnly then error.isTransient else error.isRetryable

/-- What an operation of a repository is: it goes from session to session and
ends with a result or an error. -/
abbrev Action (σ : Type) := ExceptT RepositoryError (StateM (Session (EngineState σ)))

end Repository

def RetryFailure.toError : RetryFailure RepositoryError → RepositoryError
  | .failed error => error
  | .cancelled => .cancelled

namespace Repository

variable {σ : Type}

def call (repo : Repository σ) (call : Engine.Call) : Action σ call.Answer := fun session =>
  let (result, session) :=
    repo.retry.execute repo.shouldRetry (fun _ now => repo.engine.attempt call now) session
  (result.mapError RetryFailure.toError, session)

/-- Calls side by side, each under the retry policy. Their outcomes, good or
bad, are not looked at. -/
def callAll (repo : Repository σ) (calls : List Engine.Call) : Action σ Unit := fun session =>
  let operations : List (Operation (EngineState σ) RepositoryError Unit) :=
    calls.map fun call _ now state =>
      let (answer, state) := repo.engine.attempt call now state
      ({ answer with outcome := answer.outcome.map fun _ => () }, state)
  let (_, session) := repo.retry.executeAll repo.shouldRetry operations session
  (.ok (), session)

/-- What a call that has no retries left gives, as a value. -/
def outcome {α : Type} (action : Action σ α) : Action σ (Except RepositoryError α) := fun session =>
  let (result, session) := action session
  (.ok result, session)

def ofExcept {α : Type} (result : Except RepositoryError α) : Action σ α := fun session =>
  (result, session)

end Repository

end SearchStore
