import SearchStore.Text.Hexadecimal

/-!
Universally unique identifiers: thirty-two hexadecimal digits, written in
lower case in five groups.
-/

namespace SearchStore.Uuid

/-- Hyphens between groups of 8, 4, 4, 4 and 12 digits. -/
def grouped (digits : List Char) : List Char :=
  ['-'].intercalate
    [digits.take 8, (digits.drop 8).take 4, (digits.drop 12).take 4,
      (digits.drop 16).take 4, digits.drop 20]

/-- The written form of an identifier given with or without hyphens. -/
def normalize? (text : String) : Option String :=
  let chars := text.toList.map Char.toLower
  let digits := chars.filter (· ≠ '-')
  if digits.length = 32 && digits.all Text.isHexDigit
      && (chars = digits || chars = grouped digits) then
    some (String.ofList (grouped digits))
  else none

end SearchStore.Uuid
