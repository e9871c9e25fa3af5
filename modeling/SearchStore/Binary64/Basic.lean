/-!
Binary floating-point numbers as exact values. A finite number is a sign and
a mantissa times a power of two; rounding takes a fraction of naturals to the
nearest such number, a half going to the even mantissa. Nothing here uses the
machine's floating-point unit, so every result can be computed in a proof.
-/

namespace SearchStore

/-- A binary64 number. The finite ones are `mantissa * 2 ^ exponent` with a
mantissa below `2 ^ 53`, and of the ways to write a value the one with the
largest mantissa and an exponent of at least `-1074`. -/
inductive Binary64 where
  | nan
  | infinity (negative : Bool)
  | finite (negative : Bool) (mantissa : Nat) (exponent : Int)
deriving DecidableEq, Repr, Inhabited

namespace Binary64

/-- The bits of precision of a floating format and the exponents that the last
place of its numbers may have. -/
structure Format where
  precision : Nat
  lowest : Int
  highest : Int

def Format.double : Format := ⟨53, -1074, 971⟩

def Format.single : Format := ⟨24, -149, 104⟩

/-- The integer nearest to `num / den`; a half goes to the even neighbour. -/
def roundHalfEven (num den : Nat) : Nat :=
  let quotient := num / den
  let remainder := num % den
  if 2 * remainder < den then quotient
  else if den < 2 * remainder then quotient + 1
  else quotient + quotient % 2

/-- The greatest `e` with `2 ^ e ≤ num / den`, for positive operands. -/
def floorLog (num den : Nat) : Int :=
  let estimate : Int := (num.log2 : Int) - den.log2
  if den * Nat.pow 2 estimate.toNat ≤ num * Nat.pow 2 (-estimate).toNat then estimate
  else estimate - 1

/-- The mantissa and exponent of the number of the format nearest to
`num / den`, or nothing when that is beyond the largest number. -/
def Format.nearest (f : Format) (num den : Nat) : Option (Nat × Int) :=
  if num = 0 then some (0, f.lowest)
  else
    let place := max (floorLog num den - (f.precision - 1)) f.lowest
    let mantissa := roundHalfEven (num * Nat.pow 2 (-place).toNat) (den * Nat.pow 2 place.toNat)
    let (mantissa, place) :=
      if mantissa = Nat.pow 2 f.precision then (Nat.pow 2 (f.precision - 1), place + 1)
      else (mantissa, place)
    if f.highest < place then none else some (mantissa, place)

/-- The number nearest to `num / den`, with an infinity beyond the largest. -/
def ofRatio (negative : Bool) (num den : Nat) : Binary64 :=
  match Format.double.nearest num den with
  | some (mantissa, exponent) => .finite negative mantissa exponent
  | none => .infinity negative

def ofNat (n : Nat) : Binary64 := ofRatio false n 1

def ofInt (i : Int) : Binary64 := ofRatio (i < 0) i.natAbs 1

def zero : Binary64 := ofNat 0

/-- The number nearest to `digits * 10 ^ exponent`. Exponents that put the
value outside the range of doubles whatever the digits are answered without
computing the power. -/
def ofScientific (negative : Bool) (digits : Nat) (exponent : Int) : Binary64 :=
  let size : Int := digits.log2
  if digits = 0 then ofRatio negative 0 1
  else if 1100 < exponent then .infinity negative
  else if exponent < -1100 - size then ofRatio negative 0 1
  else ofRatio negative (digits * Nat.pow 10 exponent.toNat) (Nat.pow 10 (-exponent).toNat)

def ratio (mantissa : Nat) (exponent : Int) : Nat × Nat :=
  (mantissa * Nat.pow 2 exponent.toNat, Nat.pow 2 (-exponent).toNat)

def isZero : Binary64 → Bool
  | .finite _ mantissa _ => mantissa == 0
  | _ => false

def isFinite : Binary64 → Bool
  | .finite .. => true
  | _ => false

def negate : Binary64 → Binary64
  | .nan => .nan
  | .infinity negative => .infinity !negative
  | .finite negative mantissa exponent => .finite (!negative) mantissa exponent

/-- The value rounded to single precision, as a double again. -/
def toSingle : Binary64 → Binary64
  | .finite negative mantissa exponent =>
    let (num, den) := ratio mantissa exponent
    match Format.single.nearest num den with
    | none => .infinity negative
    | some (mantissa, exponent) =>
      let (num, den) := ratio mantissa exponent
      ofRatio negative num den
  | x => x

/-- The product, rounded once. An infinity times zero is no number. -/
def mul : Binary64 → Binary64 → Binary64
  | .finite negative mantissa exponent, .finite negative' mantissa' exponent' =>
    let (num, den) := ratio (mantissa * mantissa') (exponent + exponent')
    ofRatio (negative != negative') num den
  | .nan, _ | _, .nan => .nan
  | .infinity negative, .infinity negative' => .infinity (negative != negative')
  | .infinity negative, .finite negative' mantissa _
  | .finite negative' mantissa _, .infinity negative =>
    if mantissa = 0 then .nan else .infinity (negative != negative')

/-- The quotient, rounded once. What is not zero gives an infinity over zero. -/
def div : Binary64 → Binary64 → Binary64
  | .finite negative mantissa exponent, .finite negative' mantissa' exponent' =>
    let (num, den) := ratio 1 (exponent - exponent')
    if mantissa' ≠ 0 then ofRatio (negative != negative') (mantissa * num) (mantissa' * den)
    else if mantissa = 0 then .nan
    else .infinity (negative != negative')
  | .nan, _ | _, .nan | .infinity _, .infinity _ => .nan
  | .infinity negative, .finite negative' _ _ => .infinity (negative != negative')
  | .finite negative _ _, .infinity negative' => ofRatio (negative != negative') 0 1

def powerOfTen (n : Nat) : Binary64 := ofNat (Nat.pow 10 n)

/-- The sum, rounded once. The sum of two opposite numbers is a zero without a
sign, save that of two negative zeros. -/
def add : Binary64 → Binary64 → Binary64
  | .finite negative mantissa exponent, .finite negative' mantissa' exponent' =>
    let place := min exponent exponent'
    let share (negative : Bool) (mantissa : Nat) (exponent : Int) : Int :=
      let size : Int := (mantissa * Nat.pow 2 (exponent - place).toNat : Nat)
      if negative then -size else size
    let sum := share negative mantissa exponent + share negative' mantissa' exponent'
    let (num, den) := ratio sum.natAbs place
    ofRatio (if sum = 0 then negative && negative' else decide (sum < 0)) num den
  | .nan, _ | _, .nan => .nan
  | .infinity negative, .infinity negative' =>
    if negative = negative' then .infinity negative else .nan
  | .infinity negative, _ | _, .infinity negative => .infinity negative

/-- The nearest integer; a half goes away from zero. -/
def roundHalfAway : Binary64 → Binary64
  | .finite negative mantissa exponent =>
    let (num, den) := ratio mantissa exponent
    ofRatio negative ((2 * num + den) / (2 * den)) 1
  | x => x

def toInt? : Binary64 → Option Int
  | .finite negative mantissa exponent =>
    let (num, den) := ratio mantissa exponent
    if num % den = 0 then
      some (if negative then -(num / den : Nat) else (num / den : Nat))
    else none
  | _ => none

end Binary64

end SearchStore
