import SearchStore.Binary64.Basic

/-!
The shortest decimal of a finite number: the fewest digits that round back to
it, and of those the nearest to it. The search tries one digit, then two, and
so on; with a given number of digits only the two decimals next to the value
can be the answer, and both are when the value is halfway between them. Two
layouts write the digits out: one that always shows a fraction or an exponent,
and one that is plain throughout.
-/

namespace SearchStore.Binary64

/-- The value `digits * 10 ^ exponent`. -/
structure Scientific where
  digits : Nat
  exponent : Int
deriving DecidableEq, Repr

/-- Which of two decimals stands for a value halfway between them: the one with
an even last digit, or the greater one. -/
inductive Tie where
  | toEven
  | up
deriving DecidableEq, Repr

/-- Whether `digits * 10 ^ place` lies among the reals that round to
`mantissa * 2 ^ exponent`: up to halfway to each neighbour, the ends belonging
to the even mantissa. The gap below a power of two is half as wide. -/
def roundsBack (mantissa : Nat) (exponent : Int) (decimal : Scientific) : Bool :=
  let narrow := mantissa = Nat.pow 2 52 ∧ -1074 < exponent
  let low := if narrow then 4 * mantissa - 1 else 4 * mantissa - 2
  let high := 4 * mantissa + 2
  let quarter := exponent - 2
  let scaled := decimal.digits * Nat.pow 10 decimal.exponent.toNat * Nat.pow 2 (-quarter).toNat
  let unit := Nat.pow 10 (-decimal.exponent).toNat * Nat.pow 2 quarter.toNat
  if mantissa % 2 = 0 then low * unit ≤ scaled ∧ scaled ≤ high * unit
  else low * unit < scaled ∧ scaled < high * unit

/-- The least `k` with `num / den < 10 ^ k`, found upwards from `k`. -/
def decimalPoint (num den : Nat) : (fuel : Nat) → Int → Int
  | 0, k => k
  | fuel + 1, k =>
    if num * Nat.pow 10 (-k).toNat < den * Nat.pow 10 k.toNat then k
    else decimalPoint num den fuel (k + 1)

/-- The decimal with its last place at `10 ^ place` that rounds back and is
nearest to the value. -/
def onGrid (tie : Tie) (mantissa : Nat) (exponent : Int) (place : Int) : Option Scientific :=
  let (num, den) := ratio mantissa exponent
  let num := num * Nat.pow 10 (-place).toNat
  let den := den * Nat.pow 10 place.toNat
  let below : Scientific := ⟨num / den, place⟩
  let above : Scientific := ⟨num / den + 1, place⟩
  let remainder := num % den
  match roundsBack mantissa exponent below, roundsBack mantissa exponent above with
  | true, true =>
    if 2 * remainder < den then some below
    else if den < 2 * remainder then some above
    else if tie = .toEven ∧ below.digits % 2 = 0 then some below
    else some above
  | true, false => some below
  | false, true => some above
  | false, false => none

/-- Moves trailing zeros of the digits into the exponent. -/
def Scientific.trim (decimal : Scientific) : Scientific :=
  if decimal.digits = 0 then ⟨0, 0⟩
  else if decimal.digits % 10 = 0 then Scientific.trim ⟨decimal.digits / 10, decimal.exponent + 1⟩
  else decimal
termination_by decimal.digits
decreasing_by omega

/-- The first grid with an answer, taken finer digit by digit. -/
def search (tie : Tie) (mantissa : Nat) (exponent : Int) (point : Int) :
    (count fuel : Nat) → Scientific
  | _, 0 =>
    let (num, den) := ratio mantissa exponent
    ⟨num * Nat.pow 5 den.log2, -(den.log2 : Int)⟩
  | count, fuel + 1 =>
    match onGrid tie mantissa exponent (point - count) with
    | some decimal => decimal
    | none => search tie mantissa exponent point (count + 1) fuel

def shortest (tie : Tie) (mantissa : Nat) (exponent : Int) : Scientific :=
  if mantissa = 0 then ⟨0, 0⟩
  else
    let (num, den) := ratio mantissa exponent
    let guess := floorLog num den * 30103 / 100000
    (search tie mantissa exponent (decimalPoint num den 3 guess) 1 17).trim

/-- How far before and after the first digit the point may stand in a number
that is written without an exponent, what an integer ends in, and which of two
equally near decimals is written. -/
structure Layout where
  leastPoint : Option Int
  greatestPoint : Option Int
  wholeSuffix : String
  tie : Tie

/-- Writes digits with the point where it belongs, or as one digit, the other
digits and an exponent when the point would stand too far away. -/
def Layout.write (layout : Layout) (decimal : Scientific) : String :=
  let digits := toString decimal.digits
  let count := digits.length
  let point : Int := count + decimal.exponent
  let zeros (n : Int) : String := String.ofList (List.replicate n.toNat '0')
  if layout.leastPoint.any (point ≤ ·) || layout.greatestPoint.any (· < point) then
    let head := String.ofList (digits.toList.take 1)
    let tail := String.ofList (digits.toList.drop 1)
    head ++ (if tail.isEmpty then "" else "." ++ tail) ++ "e" ++ toString (point - 1)
  else if point ≤ 0 then "0." ++ zeros (-point) ++ digits
  else if point < count then
    String.ofList (digits.toList.take point.toNat) ++ "."
      ++ String.ofList (digits.toList.drop point.toNat)
  else digits ++ zeros (point - count) ++ layout.wholeSuffix

/-- Numbers in documents: written plainly, with a fraction, while the point is
at most sixteen digits after and fewer than five before the first digit. -/
def documentLayout : Layout := ⟨some (-5), some 16, ".0", .toEven⟩

/-- Numbers in running text: always plain, an integer without a fraction. -/
def plainLayout : Layout := ⟨none, none, "", .up⟩

/-- The text of a number in a layout. A negative zero keeps its sign. -/
def text (layout : Layout) : Binary64 → String
  | .nan => "NaN"
  | .infinity negative => if negative then "-inf" else "inf"
  | .finite negative mantissa exponent =>
    (if negative then "-" else "") ++ layout.write (shortest layout.tie mantissa exponent)

end SearchStore.Binary64
