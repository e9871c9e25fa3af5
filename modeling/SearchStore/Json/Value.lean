import SearchStore.Binary64.Basic

/-!
JSON documents with ordered members. Integers and doubles are kept apart,
since `5` and `5.0` are written and read differently. Setting a member that is
present keeps its place and replaces its value; a new member goes to the end,
so an object built member by member has every key once.
-/

namespace SearchStore

/-- A document. Reading gives integers of at most 64 bits and finite doubles. -/
inductive Json where
  | null
  | bool (b : Bool)
  | int (i : Int)
  | double (x : Binary64)
  | str (s : String)
  | arr (elements : List Json)
  | obj (members : List (String × Json))
deriving Inhabited

namespace Json

/-- Sets a member: a present key keeps its place, a new one goes to the end. -/
def setMember {α : Type} (key : String) (value : α) : List (String × α) → List (String × α)
  | [] => [(key, value)]
  | (k, v) :: rest => if k = key then (key, value) :: rest else (k, v) :: setMember key value rest

/-- Members in the order of their first mention, each with its last value. -/
def distinctMembers {α : Type} (members : List (String × α)) : List (String × α) :=
  members.foldl (fun done (key, value) => setMember key value done) []

/-- An object from members that may repeat a key. -/
def ofMembers (members : List (String × Json)) : Json := .obj (distinctMembers members)

/-- A double, or `null` for one that is not a number or not finite. -/
def ofDouble (x : Binary64) : Json := if x.isFinite then .double x else .null

def ofOption {α : Type} (encode : α → Json) : Option α → Json
  | none => .null
  | some a => encode a

def strings (texts : List String) : Json := .arr (texts.map .str)

def get? (key : String) : Json → Option Json
  | .obj members => members.lookup key
  | _ => none

def at? (value : Json) (path : List String) : Option Json :=
  path.foldlM (fun v key => v.get? key) value

def asString? : Json → Option String
  | .str s => some s
  | _ => none

def asBool? : Json → Option Bool
  | .bool b => some b
  | _ => none

def asArray? : Json → Option (List Json)
  | .arr elements => some elements
  | _ => none

def asObject? : Json → Option (List (String × Json))
  | .obj members => some members
  | _ => none

abbrev IsSigned64 (i : Int) : Prop := -9223372036854775808 ≤ i ∧ i < 9223372036854775808

/-- An integer without sign of at most `bits` bits. A double is none, even one
with a whole value. -/
def asUnsigned? (bits : Nat) : Json → Option Nat
  | .int i => if 0 ≤ i ∧ i.toNat < Nat.pow 2 bits then some i.toNat else none
  | _ => none

def asSigned? : Json → Option Int
  | .int i => if IsSigned64 i then some i else none
  | _ => none

/-- Any number as a double, an integer rounded to the nearest one. -/
def asDouble? : Json → Option Binary64
  | .int i => some (.ofInt i)
  | .double x => some x
  | _ => none

end Json

end SearchStore
