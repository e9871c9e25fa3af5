import SearchStore.Json.Value

/-!
Queries as the search engine understands them. A leaf asks something of one
field; a boolean query asks for all of its `must` clauses and prefers its
`should` clauses; a nested query is asked of the objects under a path.
-/

namespace SearchStore

/-- A query. The bounds of a range are exclusive. -/
inductive Query where
  | term (field : String) (value : Json)
  | terms (field : String) (values : List Json)
  | range (field : String) (gt : Binary64) (lt : Option Binary64)
  | textMatch (field : String) (pattern : String)
  | bool (must should : List Query)
  | nested (path : String) (query : Query) (innerHitsSize : Nat)
deriving Inhabited

namespace Query

def matchAll : Query := .bool [] []

/-- Both queries. A conjunction takes the second one in, so that a fold over
many queries is one flat list in their order. -/
def and (first second : Query) : Query :=
  match first with
  | .bool must [] => .bool (must ++ [second]) []
  | first => .bool [first, second] []

/-- A bound of a range: an integer where it is one that fits 64 bits. -/
def bound (x : Binary64) : Json :=
  match x.toInt? with
  | some i => if i.natAbs < Nat.pow 2 63 then .int i else .ofDouble x
  | none => .ofDouble x

/-- A list of clauses as a member, left out when it is empty. -/
def clauseMember (key : String) (clauses : List Json) : List (String × Json) :=
  if clauses.isEmpty then [] else [(key, .arr clauses)]

mutual

def toJson : Query → Json
  | .term field value => .obj [("term", .obj [(field, value)])]
  | .terms field values => .obj [("terms", .obj [(field, .arr values)])]
  | .range field gt lt =>
    let upper := match lt with
      | some lt => [("lt", bound lt)]
      | none => []
    .obj [("range", .obj [(field, .obj (("gt", bound gt) :: upper))])]
  | .textMatch field pattern =>
    .obj [("query_string", .obj [("default_field", .str field), ("query", .str pattern)])]
  | .bool must should =>
    .obj [("bool", .obj (clauseMember "must" (listToJson must)
      ++ clauseMember "should" (listToJson should)))]
  | .nested path query innerHitsSize =>
    .obj [("nested", .obj [("path", .str path), ("query", query.toJson),
      ("inner_hits", .obj [("size", .int innerHitsSize)])])]

def listToJson : List Query → List Json
  | [] => []
  | query :: rest => query.toJson :: listToJson rest

end

end Query

end SearchStore
