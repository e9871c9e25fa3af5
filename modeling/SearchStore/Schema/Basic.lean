import SearchStore.Schema.Naming

/-!
Declared types. A table lists the types of a document with their properties in
order of declaration; an object type refers to an entry of the table, so types
may contain each other and themselves. The first entry is the document itself.
-/

namespace SearchStore

inductive ValueType where
  | string
  | integer
  | long
  | decimal
  | double
  | boolean
  | dateTime
  | uuid
  | optional (inner : ValueType)
  | list (element : ValueType)
  | object (entry : Nat)
deriving DecidableEq, Repr, Inhabited

/-- The wish to aggregate a property: what to group by, and the key by which
its terms are ordered. -/
structure AggregateSpec where
  groupBy : Option String := none
  order : String := "_key"
deriving DecidableEq, Repr

structure PropertySchema where
  name : String
  type : ValueType
  aggregate : Option AggregateSpec := none
deriving DecidableEq, Repr

structure TypeSchema where
  name : String := ""
  properties : List PropertySchema := []
deriving DecidableEq, Repr, Inhabited

/-- The types of a document, the document's own type first. -/
abbrev TypeTable := List TypeSchema

/-- An entry of the table; beyond its end, a type without name or properties. -/
def TypeTable.entry (table : TypeTable) (n : Nat) : TypeSchema := (table[n]?).getD {}

def TypeTable.root (table : TypeTable) : TypeSchema := table.entry 0

namespace ValueType

def unwrapped : ValueType → ValueType
  | .optional inner => inner.unwrapped
  | type => type

def isNumeric (type : ValueType) : Bool :=
  match type.unwrapped with
  | .integer | .long | .decimal | .double => true
  | _ => false

def isBoolean (type : ValueType) : Bool := type.unwrapped = .boolean

/-- Whether exact matches go through the keyword sub-field: strings, and lists
whose elements are strings. -/
def isKeyword (type : ValueType) : Bool :=
  match type.unwrapped with
  | .string => true
  | .list element => element = .string
  | _ => false

/-- The object entry under all optional and list layers, if there is one. -/
def element? : ValueType → Option Nat
  | .optional inner => inner.element?
  | .list element => element.element?
  | .object entry => some entry
  | _ => none

/-- The short name of a type; an object has that of its entry. -/
def label (table : TypeTable) : ValueType → String
  | .string => "string"
  | .integer => "integer"
  | .long => "long"
  | .decimal => "decimal"
  | .double => "double"
  | .boolean => "boolean"
  | .dateTime => "datetime"
  | .uuid => "uuid"
  | .optional inner => inner.label table ++ "?"
  | .list element => "list<" ++ element.label table ++ ">"
  | .object entry => (table.entry entry).name

end ValueType

/-- A property as it is reached from the document: its path through the types,
what it was declared as, and how it is to be aggregated. -/
structure Descriptor where
  declaringType : String
  name : String
  fullPath : String
  type : ValueType
  nestedPath : Option String
  isAggregateTarget : Bool
  groupBy : Option String
  order : Option String
deriving DecidableEq, Repr

namespace Descriptor

/-- The path as documents carry it. -/
def wireName (d : Descriptor) : String := Naming.camelPath d.fullPath

def exactField (d : Descriptor) : String :=
  if d.type.isKeyword then Naming.keywordField d.wireName else d.wireName

def wireNestedPath (d : Descriptor) : Option String :=
  (d.nestedPath.map Naming.camelPath).filter (· ≠ "")

end Descriptor

inductive SchemaError where
  | missingTypeName (path : String)
  | missingPropertyName (typeName : String)
  | duplicateProperty (typeName name : String)
  | emptyAggregateOrder (path : String)
deriving DecidableEq, Repr

end SearchStore
