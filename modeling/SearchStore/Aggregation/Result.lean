import SearchStore.Binary64.Shortest
import SearchStore.Json.Decoding

/-!
Aggregations of a response. An aggregation with buckets answers with its terms
and their counts, one with a value with that value; a container stands for the
aggregations inside it, which are listed in its place.
-/

namespace SearchStore

/-- A term, in the type in which the engine holds it. -/
inductive BucketKey where
  | boolean (b : Bool)
  | long (n : Int)
  | double (x : Binary64)
  | string (s : String)
deriving DecidableEq, Repr

def BucketKey.text : BucketKey → String
  | .boolean b => if b then "true" else "false"
  | .long n => toString n
  | .double x => x.text Binary64.plainLayout
  | .string s => s

structure AggregateOption where
  key : BucketKey
  count : Nat
deriving DecidableEq, Repr

structure AggregateResult where
  key : String
  value : Option Binary64 := none
  options : List AggregateOption := []
deriving DecidableEq, Repr

namespace BucketKey

/-- The term of a bucket. A boolean may be sent as a number that carries its
text; integers beyond 64 bits with sign are doubles. -/
def ofBucket? (bucket : Json) : Option BucketKey := do
  let number (key : Json) : Option BucketKey :=
    match (bucket.get? "key_as_string").bind Json.asString? with
    | some "true" => some (.boolean true)
    | some "false" => some (.boolean false)
    | _ =>
      match key.asSigned? with
      | some n => some (.long n)
      | none => key.asDouble?.map .double
  match ← bucket.get? "key" with
  | .int i => number (.int i)
  | .double x => number (.double x)
  | .str s => some (.string s)
  | .bool b => some (.boolean b)
  | _ => none

def ofStored? : Json → Option BucketKey
  | .bool b => some (.boolean b)
  | .str s => some (.string s)
  | .int i => if Json.IsSigned64 i then some (.long i) else some (.double (.ofInt i))
  | .double x => some (.double x)
  | _ => none

end BucketKey

namespace AggregateOption

def ofBucket? (bucket : Json) : Option AggregateOption :=
  (BucketKey.ofBucket? bucket).map fun key =>
    ⟨key, ((bucket.get? "doc_count").bind (Json.asUnsigned? 64)).getD 0⟩

def ofStored? (stored : Json) : Option AggregateOption := do
  let members ← stored.asObject?
  return {
    key := ← Json.required BucketKey.ofStored? members "key"
    count := ← Json.required (Json.asUnsigned? 64) members "count"
  }

end AggregateOption

namespace AggregateResult

mutual

def ofBody (name : String) : Json → List AggregateResult
  | .obj members =>
    match (members.lookup "buckets").bind Json.asArray? with
    | some buckets => [{ key := name, options := buckets.filterMap AggregateOption.ofBucket? }]
    | none =>
      match members.lookup "value" with
      | some value => [{ key := name, value := value.asDouble? }]
      | none => if (members.lookup "doc_count").isSome then ofContainer members else []
  | _ => []

/-- The results in the objects inside a container, its metadata aside. -/
def ofContainer : List (String × Json) → List AggregateResult
  | [] => []
  | (key, .obj members) :: rest =>
    (if key = "meta" then [] else ofBody key (.obj members)) ++ ofContainer rest
  | _ :: rest => ofContainer rest

end

def ofAggregations : Json → List AggregateResult
  | .obj members => members.flatMap fun (name, body) => ofBody name body
  | _ => []

def ofStored? (stored : Json) : Option AggregateResult := do
  let members ← stored.asObject?
  return {
    key := ← Json.required Json.asString? members "key"
    value := ← Json.optional Json.asDouble? members "value"
    options := ← Json.withDefault (Json.listOf AggregateOption.ofStored?) [] members "options"
  }

end AggregateResult

end SearchStore
