import SearchStore.Json.Decoding

/-!
Pages of search results: where a page starts, how many results it holds and by
which property it is sorted.
-/

namespace SearchStore

structure Paging where
  start : Nat := 0
  size : Nat := 10
  sortBy : Option String := none
  descending : Bool := false
deriving DecidableEq, Repr

namespace Paging

def ascendingBy (paging : Paging) (path : String) : Paging :=
  { paging with sortBy := some path, descending := false }

def descendingBy (paging : Paging) (path : String) : Paging :=
  { paging with sortBy := some path, descending := true }

def order (paging : Paging) : String := if paging.descending then "desc" else "asc"

/-- Reads a page from a document; what is left out has its default. -/
def ofStored? (stored : Json) : Option Paging := do
  let members ← stored.asObject?
  return {
    start := ← Json.withDefault (Json.asUnsigned? 32) 0 members "from"
    size := ← Json.withDefault (Json.asUnsigned? 32) 10 members "size"
    sortBy := ← Json.optional Json.asString? members "sort_by"
    descending := ← Json.withDefault Json.asBool? false members "descending"
  }

end Paging

end SearchStore
