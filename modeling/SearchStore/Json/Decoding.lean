import SearchStore.Json.Value

/-!
Reading records out of objects. A member is required, optional, or has a
default; unknown members are passed over. An optional member may be `null`, a
member with a default may only be left out.
-/

namespace SearchStore.Json

def required {α : Type} (decode : Json → Option α) (members : List (String × Json))
    (key : String) : Option α :=
  (members.lookup key).bind decode

/-- A member that may be left out or be `null`. -/
def optional {α : Type} (decode : Json → Option α) (members : List (String × Json))
    (key : String) : Option (Option α) :=
  match members.lookup key with
  | none | some .null => some none
  | some value => (decode value).map some

/-- A member that may be left out but not be `null`. -/
def withDefault {α : Type} (decode : Json → Option α) (default : α)
    (members : List (String × Json)) (key : String) : Option α :=
  match members.lookup key with
  | none => some default
  | some value => decode value

def listOf {α : Type} (decode : Json → Option α) (value : Json) : Option (List α) :=
  value.asArray?.bind (List.mapM decode)

end SearchStore.Json
