import SearchStore.Aggregation.Result
import SearchStore.Repository.Documents

/-!
Counting, searching and aggregating the documents that a filter asks for.
-/

namespace SearchStore

structure SearchHit (α : Type) where
  id : String
  /-- The index that holds the document, which behind an alias is not the alias. -/
  index : String
  version : Option Nat
  document : α

structure SearchResult (α : Type) where
  total : Nat
  hits : List (SearchHit α)

namespace SearchHit

def ofJson {α : Type} (decode : Json → Except String α) (hit : Json) :
    Except RepositoryError (SearchHit α) := do
  return {
    id := ((hit.get? "_id").bind Json.asString?).getD ""
    index := ((hit.get? "_index").bind Json.asString?).getD ""
    version := (hit.get? "_version").bind (Json.asUnsigned? 64)
    document := ← decodeDocument decode (sourceOf hit)
  }

end SearchHit

namespace SearchResult

/-- The number of hits: a number, or an object with a value. -/
def totalOf (hits : Json) : Nat :=
  match hits.get? "total" with
  | some (.obj members) => ((members.lookup "value").bind (Json.asUnsigned? 64)).getD 0
  | some total => (total.asUnsigned? 64).getD 0
  | none => 0

def ofResponse {α : Type} (decode : Json → Except String α) (response : Json) :
    Except RepositoryError (SearchResult α) := do
  match response.get? "hits" with
  | none => .error (.engine (.unexpected "search response without hits"))
  | some hits =>
    let entries := ((hits.get? "hits").bind Json.asArray?).getD []
    return { total := totalOf hits, hits := ← entries.mapM (SearchHit.ofJson decode) }

def documents {α : Type} (result : SearchResult α) : List α := result.hits.map (·.document)

end SearchResult

namespace Repository

variable {σ δ α : Type}

def listWindow : Nat := 10000

def count (repo : Repository σ) (filter : List FilterField) : Action σ Nat :=
  repo.call (.count repo.index (repo.requests.countBody filter))

def any (repo : Repository σ) (filter : List FilterField) : Action σ Bool := do
  return 0 < (← repo.count filter)

def search [Document δ] (repo : Repository σ) (filter : List FilterField) (paging : Paging) :
    Action σ (SearchResult δ) := do
  let response ← repo.call (.search repo.index (repo.requests.searchBody filter paging))
  ofExcept (SearchResult.ofResponse Document.decode response)

def list (repo : Repository σ) (decode : Json → Except String α) (filter : List FilterField) :
    Action σ (List α) := do
  let body := repo.requests.searchBody filter { start := 0, size := listWindow }
  let response ← repo.call (.search repo.index body)
  return (← ofExcept (SearchResult.ofResponse decode response)).documents

def aggregations (repo : Repository σ) (filter : List FilterField) :
    Action σ (List AggregateResult) := do
  let response ← repo.call (.search repo.index (repo.requests.aggregationBody filter))
  return ((response.get? "aggregations").map AggregateResult.ofAggregations).getD []

end Repository

end SearchStore
