import SearchStore.Json.Value
import SearchStore.Text.Hexadecimal

/-!
Reading a document from its text. The grammar is the strict one: no comments,
no trailing commas, no leading zeros, no control characters inside strings, and
an escaped surrogate only as half of a pair. Every reader takes an item off the
front of a text and leaves a shorter one, which is why reading ends; nesting is
bounded by a depth that each bracket and brace uses up.
-/

namespace SearchStore.Json

/-- An item taken off the front of a text, and the shorter text that is left. -/
structure Taken (s : List Char) (α : Type) where
  value : α
  rest : List Char
  shorter : rest.length < s.length

def Taken.map {s : List Char} {α β : Type} (f : α → β) (t : Taken s α) : Taken s β :=
  ⟨f t.value, t.rest, t.shorter⟩

/-- An item taken off a part of a text was taken off the text. -/
def Taken.widen {s r : List Char} {α : Type} (t : Taken r α) (h : r.length ≤ s.length) :
    Taken s α :=
  ⟨t.value, t.rest, Nat.lt_of_lt_of_le t.shorter h⟩

def isBlank (c : Char) : Bool := c = ' ' || c = '\t' || c = '\n' || c = '\r'

def skipBlanks (s : List Char) : List Char := s.dropWhile isBlank

theorem length_skipBlanks_le (s : List Char) : (skipBlanks s).length ≤ s.length :=
  (List.dropWhile_sublist isBlank).length_le

/-! Strings -/

def codeUnit? (a b c d : Char) : Option Nat := do
  let digits ← [a, b, c, d].mapM Text.hexValue?
  return digits.foldl (fun n digit => n * 16 + digit) 0

def unescape? : Char → Option Char
  | '"' => some '"'
  | '\\' => some '\\'
  | '/' => some '/'
  | 'b' => some '\x08'
  | 'f' => some '\x0c'
  | 'n' => some '\n'
  | 'r' => some '\r'
  | 't' => some '\t'
  | _ => none

/-- The rest of a string after its opening quote. -/
def stringTail (s : List Char) : Option (Taken s (List Char)) :=
  match s with
  | [] => none
  | '"' :: rest => some ⟨[], rest, by simp⟩
  | '\\' :: 'u' :: a :: b :: c :: d :: rest =>
    match codeUnit? a b c d with
    | none => none
    | some unit =>
      if 0xD800 ≤ unit ∧ unit < 0xDC00 then
        match rest with
        | '\\' :: 'u' :: e :: f :: g :: h :: rest =>
          match codeUnit? e f g h with
          | none => none
          | some low =>
            if 0xDC00 ≤ low ∧ low < 0xE000 then
              let c := Char.ofNat (0x10000 + (unit - 0xD800) * 0x400 + (low - 0xDC00))
              (stringTail rest).map fun t => (t.map (c :: ·)).widen (by simp; omega)
            else none
        | _ => none
      else if 0xDC00 ≤ unit ∧ unit < 0xE000 then none
      else (stringTail rest).map fun t => (t.map (Char.ofNat unit :: ·)).widen (by simp; omega)
  | '\\' :: c :: rest =>
    match unescape? c with
    | none => none
    | some c => (stringTail rest).map fun t => (t.map (c :: ·)).widen (by simp; omega)
  | c :: rest =>
    if c = '\\' ∨ c.toNat < 0x20 then none
    else (stringTail rest).map fun t => (t.map (c :: ·)).widen (by simp)

/-! Numbers -/

def digitValue (c : Char) : Nat := c.toNat - '0'.toNat

/-- Appends digits to a significand while it stays within 64 bits, and counts
the digits that were not taken. -/
def takeSignificand (significand : Nat) : List Char → Nat × Nat
  | [] => (significand, 0)
  | c :: rest =>
    let next := significand * 10 + digitValue c
    if next < Nat.pow 2 64 then takeSignificand next rest else (significand, rest.length + 1)

/-- Multiplies by a power of ten in one step, or for a very small result in
steps of `10 ^ 308`. Nothing when the result is beyond the largest double. -/
def scale (x : Binary64) (exponent : Int) : Option Binary64 :=
  if exponent.natAbs ≤ 308 then
    if 0 ≤ exponent then
      let y := x.mul (.powerOfTen exponent.natAbs)
      if y.isFinite then some y else none
    else some (x.div (.powerOfTen exponent.natAbs))
  else if x.isZero then some x
  else if 0 ≤ exponent then none
  else scale (x.div (.powerOfTen 308)) (exponent + 308)
termination_by exponent.natAbs
decreasing_by omega

/-- The double that integer digits, fraction digits and an exponent write: as
many digits as fit 64 bits, rounded, then scaled by a power of ten. -/
def decimalValue (negative : Bool) (whole fraction : List Char) (exponent : Int) : Option Json :=
  let (significand, dropped) := takeSignificand 0 whole
  let (significand, ignored) := takeSignificand significand fraction
  let places : Int := (dropped : Int) - (fraction.length - ignored : Nat)
  (scale (.ofNat significand) (places + exponent)).map fun x =>
    .double (if negative then x.negate else x)

/-- The integer that digits write, or a double when it is out of the range of
integers or a negative zero. -/
def integerValue (negative : Bool) (whole : List Char) : Option Json :=
  let n := whole.foldl (fun n c => n * 10 + digitValue c) 0
  if Nat.pow 2 64 ≤ n then decimalValue negative whole [] 0
  else if ¬ negative then some (.int n)
  else if 0 < n ∧ n ≤ Nat.pow 2 63 then some (.int (-n))
  else some (.double (Binary64.ofNat n).negate)

def takeDigits (s : List Char) : List Char × List Char :=
  (s.takeWhile Char.isDigit, s.dropWhile Char.isDigit)

/-- The sign and digits after the letter of an exponent. -/
def exponentTail (s : List Char) : Option (Int × List Char) :=
  let (negative, s) := match s with
    | '-' :: rest => (true, rest)
    | '+' :: rest => (false, rest)
    | s => (false, s)
  let (digits, rest) := takeDigits s
  if digits.isEmpty then none
  else
    let n := digits.foldl (fun n c => n * 10 + digitValue c) 0
    some (if negative then -(n : Int) else n, rest)

/-- The parts of a number after its sign: integer digits without a leading
zero, a fraction and an exponent that each need a digit if they are there. -/
def numberParts (s : List Char) :
    Option (List Char × Option (List Char) × Option Int × List Char) := do
  let (whole, rest) := takeDigits s
  if whole.isEmpty || (whole.head? = some '0' && 1 < whole.length) then none
  let (fraction, rest) ← match rest with
    | '.' :: rest =>
      let (digits, rest) := takeDigits rest
      if digits.isEmpty then none else some (some digits, rest)
    | rest => some (none, rest)
  match rest with
  | 'e' :: rest | 'E' :: rest => do
    let (exponent, rest) ← exponentTail rest
    return (whole, fraction, some exponent, rest)
  | rest => return (whole, fraction, none, rest)

/-- A number at the front of a text: an integer if it has neither fraction nor exponent. -/
def number (s : List Char) : Option (Json × List Char) := do
  let (negative, s) := match s with
    | '-' :: rest => (true, rest)
    | s => (false, s)
  let (whole, fraction, exponent, rest) ← numberParts s
  let value ← match fraction, exponent with
    | none, none => integerValue negative whole
    | fraction, exponent => decimalValue negative whole (fraction.getD []) (exponent.getD 0)
  return (value, rest)

/-! Values -/

def word (text : List Char) (value : Json) (s : List Char) : Option (Json × List Char) :=
  if text.isPrefixOf s then some (value, s.drop text.length) else none

/-- Keeps a reading that took something. -/
def progress {α : Type} (s : List Char) : Option (α × List Char) → Option (Taken s α)
  | none => none
  | some (value, rest) => if h : rest.length < s.length then some ⟨value, rest, h⟩ else none

def scalar (s : List Char) : Option (Taken s Json) :=
  match s with
  | [] => none
  | '"' :: rest =>
    (stringTail rest).map fun t => (t.map fun cs => .str (.ofList cs)).widen (by simp)
  | c :: rest =>
    progress (c :: rest) <|
      if c = 'n' then word "null".toList .null (c :: rest)
      else if c = 't' then word "true".toList (.bool true) (c :: rest)
      else if c = 'f' then word "false".toList (.bool false) (c :: rest)
      else number (c :: rest)

/-- Items with commas between them up to a closing character; at least one. -/
def items {α : Type} (item : (s : List Char) → Option (Taken s α)) (close : Char)
    (s : List Char) : Option (Taken s (List α)) :=
  match item s with
  | none => none
  | some first =>
    match h : skipBlanks first.rest with
    | [] => none
    | c :: rest =>
      have hrest : rest.length < s.length := by
        have hskip := length_skipBlanks_le first.rest
        have hfirst := first.shorter
        rw [h, List.length_cons] at hskip
        omega
      if c = ',' then
        (items item close rest).map fun t =>
          (t.map (first.value :: ·)).widen (Nat.le_of_lt hrest)
      else if c = close then some ⟨[first.value], rest, hrest⟩
      else none
termination_by s.length

/-- Items between brackets whose opening one has been taken. -/
def enclosed {α : Type} (item : (s : List Char) → Option (Taken s α)) (close : Char)
    (s : List Char) : Option (Taken s (List α)) :=
  match h : skipBlanks s with
  | [] => none
  | c :: rest =>
    have hrest : rest.length < s.length := by
      have hskip := length_skipBlanks_le s
      rw [h, List.length_cons] at hskip
      omega
    if c = close then some ⟨[], rest, hrest⟩ else items item close s

def member (value : (s : List Char) → Option (Taken s Json)) (s : List Char) :
    Option (Taken s (String × Json)) :=
  match h : skipBlanks s with
  | '"' :: rest =>
    match stringTail rest with
    | none => none
    | some key =>
      match h' : skipBlanks key.rest with
      | ':' :: after =>
        (value after).map fun t => (t.map (String.ofList key.value, ·)).widen (by
          have hskip := length_skipBlanks_le s
          have hskip' := length_skipBlanks_le key.rest
          have hkey := key.shorter
          rw [h, List.length_cons] at hskip
          rw [h', List.length_cons] at hskip'
          omega)
      | _ => none
  | _ => none

/-- A value with at most `depth` brackets and braces open at once. -/
def value (depth : Nat) (s : List Char) : Option (Taken s Json) :=
  match h : skipBlanks s with
  | [] => none
  | c :: rest =>
    have hrest : rest.length ≤ s.length := by
      have hskip := length_skipBlanks_le s
      rw [h, List.length_cons] at hskip
      omega
    match depth, c with
    | 0, '[' => none
    | 0, '{' => none
    | depth + 1, '[' =>
      (enclosed (value depth) ']' rest).map fun t => (t.map .arr).widen hrest
    | depth + 1, '{' =>
      (enclosed (member (value depth)) '}' rest).map fun t => (t.map ofMembers).widen hrest
    | _, _ => (scalar (skipBlanks s)).map fun t => t.widen (length_skipBlanks_le s)

def depthLimit : Nat := 127

def read? (text : String) : Option Json :=
  match value depthLimit text.toList with
  | some t => if (skipBlanks t.rest).isEmpty then some t.value else none
  | none => none

end SearchStore.Json
