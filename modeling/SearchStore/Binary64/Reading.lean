import SearchStore.Binary64.Basic

/-!
Numbers from decimal text, rounded to the nearest double. Besides digits with a
point and an exponent there are words for what is not a finite number.
-/

namespace SearchStore.Binary64

/-- Digits with an optional point among them: their value without the point,
and the number of digits after it. -/
def parseDigits? (text : List Char) : Option (Nat × Nat) :=
  let whole := text.takeWhile (· ≠ '.')
  let fraction := (text.dropWhile (· ≠ '.')).drop 1
  let digits := whole ++ fraction
  if digits.isEmpty || !digits.all Char.isDigit then none
  else some (digits.foldl (fun n c => n * 10 + (c.toNat - '0'.toNat)) 0, fraction.length)

def parseExponent? (text : List Char) : Option Int :=
  let (negative, digits) := match text with
    | '-' :: rest => (true, rest)
    | '+' :: rest => (false, rest)
    | rest => (false, rest)
  if digits.isEmpty || !digits.all Char.isDigit then none
  else
    let n := digits.foldl (fun n c => n * 10 + (c.toNat - '0'.toNat)) 0
    some (if negative then -(n : Int) else n)

def parseUnsigned? (negative : Bool) (text : List Char) : Option Binary64 :=
  match String.ofList (text.map Char.toLower) with
  | "nan" => some .nan
  | "inf" | "infinity" => some (.infinity negative)
  | _ =>
    let isMark (c : Char) : Bool := c = 'e' || c = 'E'
    let exponent? := match text.dropWhile (!isMark ·) with
      | [] => some 0
      | _ :: rest => parseExponent? rest
    match parseDigits? (text.takeWhile (!isMark ·)), exponent? with
    | some (digits, places), some exponent =>
      some (ofScientific negative digits (exponent - places))
    | _, _ => none

def parse? (text : String) : Option Binary64 :=
  match text.toList with
  | '-' :: rest => parseUnsigned? true rest
  | '+' :: rest => parseUnsigned? false rest
  | rest => parseUnsigned? false rest

end SearchStore.Binary64
