import SearchStore.Text.Blank
import SearchStore.Text.LowerCase

/-!
Field names as documents carry them. A property path is declared with the
capitals of its type (`Lines.UnitPrice`) and stored with every segment starting
in lower case (`lines.unitPrice`). Blank segments of a path are left out.
-/

namespace SearchStore.Naming

def segments : List Char → List (List Char)
  | [] => [[]]
  | c :: rest =>
    if c = '.' then [] :: segments rest
    else
      match segments rest with
      | [] => [[c]]
      | piece :: pieces => (c :: piece) :: pieces

/-- Lowers the first character. -/
def camelChars : List Char → List Char
  | [] => []
  | c :: rest => Text.lowerChar c ++ rest

def camelCase (name : String) : String := String.ofList (camelChars name.toList)

/-- The segments of a path that are not blank, each camel-cased. -/
def camelSegments (path : List Char) : List (List Char) :=
  ((segments path).filter fun segment => !segment.all Text.isWhite).map camelChars

def camelPath (path : String) : String :=
  String.ofList (['.'].intercalate (camelSegments path.toList))

/-- The sub-field of a text field that holds it for exact matches. -/
def keywordField (field : String) : String := field ++ ".keyword"

end SearchStore.Naming
