import SearchStore.Error
import SearchStore.Json.Printer
import SearchStore.Json.Reader

/-!
Answers to bulk requests, and the reasons that answers give. A reason is looked
for in the answer's `error`: a text, or an object with a `reason`; anything else
is its own reason. An answer without an error is itself the reason.
-/

namespace SearchStore

def isSuccessStatus (status : Nat) : Bool := 200 ≤ status && status < 300

def errorReason : Json → String
  | .str reason => reason
  | error => ((error.get? "reason").bind Json.asString?).getD error.compact

def reasonOfBody (body : String) : String :=
  match (Json.read? body).bind (·.get? "error") with
  | some error => errorReason error
  | none => body

def responseError (status : Nat) (body : String) : EngineError :=
  .response status (reasonOfBody body)

structure BulkItem where
  id : String
  status : Nat
  reason : Option String := none
deriving DecidableEq, Repr

namespace BulkItem

/-- There was no such document, and that is all there is to say. -/
def isAbsent (item : BulkItem) : Bool := item.status = 404 && item.reason.isNone

/-- Whether nothing is left to do for the item: it was accepted, or was absent already. -/
def isSuccess (item : BulkItem) : Bool := isSuccessStatus item.status || item.isAbsent

/-- Reads the entry of an item: the outcome under the name of its action. -/
def ofJson? (item : Json) : Option BulkItem := do
  let (_, outcome) ← (← item.asObject?).head?
  return {
    id := ((outcome.get? "_id").bind Json.asString?).getD ""
    status := ((outcome.get? "status").bind (Json.asUnsigned? 16)).getD 0
    reason := (outcome.get? "error").map errorReason
  }

end BulkItem

structure BulkResponse where
  status : Nat
  items : List BulkItem := []
  reason : Option String := none
deriving DecidableEq, Repr

namespace BulkResponse

/-- A response that gives every id the same status. -/
def acknowledged (ids : List String) (status : Nat) : BulkResponse :=
  { status := 200, items := ids.map fun id => { id, status } }

def failedItems (response : BulkResponse) : List BulkItem :=
  response.items.filter (!·.isSuccess)

def ofJson (status : Nat) (body : Json) : BulkResponse where
  status := status
  items := (((body.get? "items").bind Json.asArray?).getD []).filterMap BulkItem.ofJson?
  reason :=
    if isSuccessStatus status then none
    else some (((body.get? "error").map errorReason).getD body.compact)

end BulkResponse

end SearchStore
