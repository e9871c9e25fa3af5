import SearchStore.Text.Hexadecimal

/-!
Percent encoding: bytes that may stand for themselves do, every other byte of
the text's UTF-8 form is a percent sign and two upper-case hexadecimal digits.
Reading takes digits of either case and leaves other percent signs alone.
-/

namespace SearchStore.Text

def percentByte (b : UInt8) : List Char :=
  ['%', upperHexDigit (b.toNat / 16), upperHexDigit (b.toNat % 16)]

def isPlainByte (marks : List Char) (b : UInt8) : Bool :=
  b < 128 && ((Char.ofNat b.toNat).isAlphanum || marks.contains (Char.ofNat b.toNat))

/-- A part of a path: hyphen, underscore, point, comma and asterisk are kept. -/
def pathSegment (s : String) : String :=
  String.ofList (s.toUTF8.data.toList.flatMap fun b =>
    if isPlainByte ['_', '-', '.', ',', '*'] b then [Char.ofNat b.toNat] else percentByte b)

/-- A value of a form: asterisk, hyphen, point and underscore are kept, a blank
is a plus sign. -/
def formValue (s : String) : String :=
  String.ofList (s.toUTF8.data.toList.flatMap fun b =>
    if b = 32 then ['+']
    else if isPlainByte ['*', '-', '.', '_'] b then [Char.ofNat b.toNat]
    else percentByte b)

def percentDecode : List Char → List UInt8
  | '%' :: high :: low :: rest =>
    match hexValue? high, hexValue? low with
    | some high, some low => (high * 16 + low).toUInt8 :: percentDecode rest
    | _, _ => '%'.toUInt8 :: percentDecode (high :: low :: rest)
  | c :: rest => String.utf8EncodeChar c ++ percentDecode rest
  | [] => []

end SearchStore.Text
