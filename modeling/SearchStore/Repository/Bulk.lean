import SearchStore.RefreshInterval
import SearchStore.Repository.Documents
import Std.Data.HashSet.Basic

/-!
Loads of many documents. They are written in chunks, one request after the
other, while the periodic refresh is switched off; at the end it is switched on
again, however the chunks went. When the engine refuses some items of a chunk,
only those are sent again.
-/

namespace SearchStore.Repository

variable {σ δ : Type}

def setRefreshInterval (repo : Repository σ) (index : String) (interval : RefreshInterval) :
    Action σ Unit :=
  repo.call (.putSettings index
    (.obj [("index", .obj [("refresh_interval", .str interval.setting)])]))

def actionsToResend (actions : List BulkAction) (items : List BulkItem) : List BulkAction :=
  let ids := Std.HashSet.ofList (items.map (·.id))
  actions.filter fun action => ids.contains action.id

/-- Statuses with which a whole chunk is refused for good. -/
def isFinalRefusal (status : Nat) : Bool := status = 400 || status = 413

/-- What an answered chunk comes to, and which actions are left to send: a
reason if it was refused for good, nothing if all went well, else the items
that failed. -/
def chunkOutcome (chunk : Nat) (actions : List BulkAction) (response : BulkResponse) :
    Except RepositoryError (Option String) × List BulkAction :=
  if isFinalRefusal response.status then (.ok (some (response.reason.getD "")), actions)
  else if response.status ≠ 200 then
    let reason := response.reason.getD ("status " ++ toString response.status)
    (.error (.bulk (.chunkFailed chunk (actions.map (·.id)) reason)), actions)
  else
    match response.failedItems with
    | [] => (.ok none, actions)
    | first :: others =>
      let reason := first.reason.getD ("status " ++ toString first.status)
      (.error (.bulk (.chunkFailed chunk ((first :: others).map (·.id)) reason)),
        actionsToResend actions (first :: others))

def attemptChunk (repo : Repository σ) (chunk now : Nat)
    (state : EngineState σ × List BulkAction) :
    Attempt RepositoryError (Option String) × EngineState σ × List BulkAction :=
  let (answer, engine) := repo.engine.attempt (.bulk repo.index state.2) now state.1
  match answer.outcome with
  | .error error => ({ answer with outcome := .error error }, engine, state.2)
  | .ok response =>
    let (outcome, actions) := chunkOutcome chunk state.2 response
    ({ answer with outcome }, engine, actions)

/-- Sends a chunk under the retry policy. The result is the reason if it was
refused for good. -/
def sendChunk (repo : Repository σ) (chunk : Nat) (actions : List BulkAction) :
    Action σ (Option String) := fun session =>
  let (result, ended) := repo.retry.execute repo.shouldRetry
    (fun _ now => repo.attemptChunk chunk now) { session with state := (session.state, actions) }
  (result.mapError RetryFailure.toError, { ended with state := ended.state.1 })

/-- Consecutive pieces of a list, each of the given size save a shorter last
one. No piece is empty. -/
def chunks {α : Type} (size : Nat) : List α → List (List α)
  | [] => []
  | item :: rest => (item :: rest.take (size - 1)) :: chunks size (rest.drop (size - 1))
termination_by items => items.length
decreasing_by
  simp only [List.length_drop, List.length_cons]
  omega

/-- Sends chunks in order and collects what failed. Cancellation ends the load. -/
def sendChunks (repo : Repository σ) (chunk : Nat) :
    List (List BulkAction) → Action σ (List String)
  | [] => return []
  | actions :: rest => do
    if (← getThe (Session (EngineState σ))).isCancelled then throw .cancelled
    let failure ← match ← outcome (repo.sendChunk chunk actions) with
      | .ok none => pure []
      | .ok (some reason) => pure ["chunk " ++ toString chunk ++ ": " ++ reason]
      | .error .cancelled => throw .cancelled
      | .error error => pure [error.message]
    return failure ++ (← sendChunks repo (chunk + 1) rest)

/-- Writes actions chunk by chunk with the refresh switched off meanwhile. -/
def bulkWrite (repo : Repository σ) (actions : List BulkAction) : Action σ Unit := do
  if actions.isEmpty then return
  repo.setRefreshInterval repo.index .disabled
  let failures ← repo.sendChunks 0 (chunks repo.options.bulkChunkSize actions)
  let interval := RefreshInterval.ofMilliseconds repo.options.refreshIntervalMs
  let failures ← match ← outcome (repo.setRefreshInterval repo.index interval) with
    | .ok () => pure failures
    | .error error =>
      if failures.isEmpty then throw error
      else pure (failures ++ ["refresh interval: " ++ error.message])
  if !failures.isEmpty then throw (.bulk (.aggregate failures))

/-- Stores documents in place of any earlier ones. -/
def bulkInsert [Document δ] (repo : Repository σ) (documents : List δ) : Action σ Unit := do
  let actions ← ofExcept (documents.mapM fun document =>
    (encodeDocument document).map (BulkAction.index (Document.id document)))
  repo.bulkWrite actions

/-- Merges documents into the stored ones. -/
def bulkUpdate [Document δ] (repo : Repository σ) (documents : List δ) : Action σ Unit := do
  let actions ← ofExcept (documents.mapM fun document =>
    (encodeDocument document).map (BulkAction.update (Document.id document)))
  repo.bulkWrite actions

/-- Deletes documents in one request. Items that are refused are reported and
not tried again; absent documents are no failure. -/
def bulkDelete (repo : Repository σ) (ids : List String) : Action σ Unit := do
  if ids.isEmpty then return
  let response ← repo.call (.bulk repo.index (ids.map .delete))
  if !isSuccessStatus response.status then
    throw (.engine (.response response.status (response.reason.getD "")))
  let failures := response.failedItems.map fun item =>
    item.id ++ ": " ++ item.reason.getD "rejected"
  if !failures.isEmpty then throw (.bulk (.aggregate failures))

/-- Removing duplicates of documents is not offered. -/
def deleteDuplicates (_ : Repository σ) : Action σ Unit :=
  throw (.notImplemented "delete_duplicates")

end SearchStore.Repository
