import SearchStore.Binary64.Basic

/-!
Fixed-point decimals: an integer coefficient and the number of places after
the point. The places are kept as they were written, so `12.50` and `12.5` are
two decimals of one value. Places for which there is no room are rounded away.
-/

namespace SearchStore

/-- The value `coefficient / 10 ^ scale`. -/
structure Decimal where
  coefficient : Int
  scale : Nat
deriving DecidableEq, Repr

namespace Decimal

def toInt? (d : Decimal) : Option Int :=
  let unit : Int := Nat.pow 10 d.scale
  if d.coefficient % unit = 0 then some (d.coefficient / unit) else none

/-- The double that stands for the decimal. The whole part and the fraction are
rounded by themselves and their sum is rounded to the places of the decimal,
which gives the nearest double or one close to it. -/
def toBinary64 (d : Decimal) : Binary64 :=
  let unit := Nat.pow 10 d.scale
  let size := d.coefficient.natAbs
  let power := Binary64.powerOfTen d.scale
  let whole := Binary64.ofNat (size / unit)
  let fraction := (Binary64.ofNat (size % unit)).div power
  let magnitude :=
    if fraction.isZero then whole else (((whole.add fraction).mul power).roundHalfAway).div power
  if d.coefficient < 0 then magnitude.negate else magnitude

def coefficientBound : Nat := Nat.pow 2 96

def maxScale : Nat := 28

/-- Appends places to a coefficient while there is room, and rounds by the first
one that is left out; a half goes up. -/
def appendPlaces (coefficient scale : Nat) : List Nat → Option (Nat × Nat)
  | [] => some (coefficient, scale)
  | place :: rest =>
    let longer := coefficient * 10 + place
    if scale < maxScale ∧ longer < coefficientBound then appendPlaces longer (scale + 1) rest
    else if place < 5 then some (coefficient, scale)
    else if coefficient + 1 < coefficientBound then some (coefficient + 1, scale)
    else if scale = 0 then none
    else some ((coefficient + 5) / 10, scale - 1)

/-- Reads an optional sign, digits, and a point with digits after it. The whole
part has to have room. -/
def parse? (text : String) : Option Decimal := do
  let (negative, digits) := match text.toList with
    | '-' :: rest => (true, rest)
    | '+' :: rest => (false, rest)
    | rest => (false, rest)
  let whole := digits.takeWhile (· ≠ '.')
  let fraction := (digits.dropWhile (· ≠ '.')).drop 1
  guard (!(whole ++ fraction).isEmpty && (whole ++ fraction).all Char.isDigit)
  let value (c : Char) : Nat := c.toNat - '0'.toNat
  let size := whole.foldl (fun n c => n * 10 + value c) 0
  guard (size < coefficientBound)
  let (size, scale) ← appendPlaces size 0 (fraction.map value)
  return ⟨if negative then -(size : Int) else size, scale⟩

/-- The digits with the point before the last `scale` of them. -/
def text (d : Decimal) : String :=
  let digits := (toString d.coefficient.natAbs).toList
  let digits := List.replicate (d.scale + 1 - digits.length) '0' ++ digits
  let whole := digits.take (digits.length - d.scale)
  let fraction := digits.drop (digits.length - d.scale)
  (if d.coefficient < 0 then "-" else "") ++ String.ofList whole
    ++ (if d.scale = 0 then "" else "." ++ String.ofList fraction)

end Decimal

end SearchStore
