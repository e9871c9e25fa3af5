import SearchStore.Binary64.Shortest
import SearchStore.Json.Value
import SearchStore.Text.Hexadecimal

/-!
The compact text of a document: no blanks, members in their order, and in
strings only what must be escaped. Every character has one written form, so a
string is written character by character.
-/

namespace SearchStore.Json

def escape (c : Char) : List Char :=
  match c with
  | '"' => ['\\', '"']
  | '\\' => ['\\', '\\']
  | '\x08' => ['\\', 'b']
  | '\x0c' => ['\\', 'f']
  | '\n' => ['\\', 'n']
  | '\r' => ['\\', 'r']
  | '\t' => ['\\', 't']
  | c =>
    if c.toNat < 0x20 then
      ['\\', 'u', '0', '0', Text.lowerHexDigit (c.toNat / 16), Text.lowerHexDigit (c.toNat % 16)]
    else [c]

def quote (s : String) : List Char := '"' :: s.toList.flatMap escape ++ ['"']

mutual

def print : Json → List Char
  | .null => "null".toList
  | .bool true => "true".toList
  | .bool false => "false".toList
  | .int i => (toString i).toList
  | .double x => if x.isFinite then (x.text Binary64.documentLayout).toList else "null".toList
  | .str s => quote s
  | .arr [] => "[]".toList
  | .arr (v :: rest) => '[' :: (print v ++ printElements rest)
  | .obj [] => ['{', '}']
  | .obj ((k, v) :: rest) => '{' :: (quote k ++ ':' :: (print v ++ printMembers rest))

/-- The elements after the first one, and the closing bracket. -/
def printElements : List Json → List Char
  | [] => [']']
  | v :: rest => ',' :: (print v ++ printElements rest)

/-- The members after the first one, and the closing brace. -/
def printMembers : List (String × Json) → List Char
  | [] => ['}']
  | (k, v) :: rest => ',' :: (quote k ++ ':' :: (print v ++ printMembers rest))

end

def compact (value : Json) : String := String.ofList (print value)

end SearchStore.Json
