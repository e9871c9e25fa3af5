import SearchStore.Text.Percent
import SearchStore.Text.PlainForm
import SearchStore.Text.Ranges

/-!
Hosts of an address. A host of the web is a name or an address of 32 bits,
written in up to four numbers; a host of another scheme is any text that holds
no separator. Both may be an address of 128 bits in brackets instead.
-/

namespace SearchStore.Http

def pieces (separator : Char) : List Char → List (List Char)
  | [] => [[]]
  | c :: rest =>
    let later := pieces separator rest
    if c = separator then [] :: later else (c :: later.headD []) :: later.tail

def decimalValue (digits : List Char) : Nat :=
  digits.foldl (fun n c => n * 10 + (c.toNat - '0'.toNat)) 0

/-! Addresses of 32 bits -/

/-- The base of a number and its digits. A leading zero stands for the base
eight, and with an `x` after it for sixteen. -/
def baseAndDigits : List Char → Nat × List Char
  | '0' :: 'x' :: digits => (16, digits)
  | '0' :: 'X' :: digits => (16, digits)
  | '0' :: digit :: digits => (8, digit :: digits)
  | digits => (10, digits)

/-- A number in an address. The base alone is a zero. -/
def addressNumber? (label : List Char) : Option Nat := do
  guard !label.isEmpty
  let (base, digits) := baseAndDigits label
  let values ← digits.mapM fun digit => (Text.hexValue? digit).filter (· < base)
  return values.foldl (fun n value => n * base + value) 0

/-- Whether numbers make up an address: each but the last is a byte, and the
last one fills the bytes that are left. -/
def areAddress (numbers : List Nat) : Bool :=
  numbers.length ≤ 4 && numbers.dropLast.all (· < 256)
    && numbers.getLastD 0 < Nat.pow 256 (5 - numbers.length)

/-! Addresses of 128 bits -/

/-- Whether a text is four bytes in decimal without leading zeros. -/
def isFourBytes (text : List Char) : Bool :=
  let numbers := pieces '.' text
  numbers.length = 4 && numbers.all fun digits =>
    !digits.isEmpty && digits.all Char.isDigit && (digits = ['0'] || digits.head? ≠ some '0')
      && decimalValue digits < 256

/-- How many groups of sixteen bits stand between the colons of a text. If they
are the last ones of an address, the last two may be written as four bytes. -/
def groupCount? (areLast : Bool) (text : List Char) : Option Nat :=
  let isGroup (digits : List Char) : Bool :=
    !digits.isEmpty && digits.length ≤ 4 && digits.all Text.isHexDigit
  let groups := pieces ':' text
  if text.isEmpty then some 0
  else if groups.all isGroup then some groups.length
  else if areLast && groups.dropLast.all isGroup && isFourBytes (groups.getLastD []) then
    some (groups.length + 1)
  else none

/-- Cuts a text in two at its first double colon. -/
def cutAtGap : List Char → Option (List Char × List Char)
  | [] => none
  | ':' :: ':' :: rest => some ([], rest)
  | c :: rest => (cutAtGap rest).map fun (before, after) => (c :: before, after)

/-- Whether a text is an address of eight groups. A double colon stands for one
group of zeros or more. -/
def isGroupAddress (text : List Char) : Bool :=
  match cutAtGap text with
  | none => groupCount? true text = some 8
  | some (before, after) =>
    match groupCount? false before, groupCount? true after with
    | some first, some last => first + last < 8
    | _, _ => false

/-! Names -/

def ignoredInName : List (Nat × Nat) := [
  (0xAD, 0xAD), (0x34F, 0x34F), (0x115F, 0x1160), (0x17B4, 0x17B5), (0x180B, 0x180F),
  (0x200B, 0x200B), (0x2060, 0x2064), (0x206A, 0x206F), (0x3164, 0x3164), (0xFE00, 0xFE0F),
  (0xFEFF, 0xFEFF), (0xFFA0, 0xFFA0), (0x1BCA0, 0x1BCA3), (0x1D173, 0x1D17A), (0xE0100, 0xE01EF)
]

/-- Characters beyond ASCII that no name has: controls and formats, separators,
private ones, code points that never are characters, and characters that are
made up of others with a blank or a separator among them. Code points that have
no character yet may get a letter and are not in it. -/
def barredFromName : List (Nat × Nat) := [
  (0x80, 0xA0), (0xA8, 0xA8), (0xAF, 0xAF), (0xB4, 0xB4), (0xB8, 0xB8), (0x2D8, 0x2DD),
  (0x37A, 0x37A), (0x384, 0x385), (0x600, 0x605), (0x61C, 0x61C), (0x6DD, 0x6DD), (0x70F, 0x70F),
  (0x890, 0x891), (0x8E2, 0x8E2), (0x1680, 0x1680), (0x1FBD, 0x1FBD), (0x1FBF, 0x1FC1),
  (0x1FCD, 0x1FCF), (0x1FDD, 0x1FDF), (0x1FED, 0x1FEE), (0x1FFD, 0x1FFE), (0x2000, 0x200A),
  (0x200E, 0x200F), (0x2017, 0x2017), (0x2024, 0x2026), (0x2028, 0x202F), (0x203E, 0x203E),
  (0x2047, 0x2049), (0x205F, 0x205F), (0x2066, 0x2069), (0x2100, 0x2101), (0x2105, 0x2106),
  (0x2488, 0x249B), (0x2A74, 0x2A74), (0x2FF0, 0x3000), (0x309B, 0x309C), (0x31EF, 0x31EF),
  (0x33C2, 0x33C2), (0x33C7, 0x33C7), (0x33D8, 0x33D8), (0xD800, 0xF8FF), (0xFC5E, 0xFC63),
  (0xFDD0, 0xFDEF), (0xFDFA, 0xFDFB), (0xFE12, 0xFE13), (0xFE16, 0xFE16), (0xFE19, 0xFE19),
  (0xFE30, 0xFE30), (0xFE47, 0xFE4C), (0xFE52, 0xFE52), (0xFE55, 0xFE56), (0xFE5F, 0xFE5F),
  (0xFE68, 0xFE68), (0xFE6A, 0xFE6B), (0xFE70, 0xFE70), (0xFE72, 0xFE72), (0xFE74, 0xFE74),
  (0xFE76, 0xFE76), (0xFE78, 0xFE78), (0xFE7A, 0xFE7A), (0xFE7C, 0xFE7C), (0xFE7E, 0xFE7E),
  (0xFFE3, 0xFFE3), (0xFFF9, 0xFFFF), (0x110BD, 0x110BD), (0x110CD, 0x110CD), (0x13430, 0x1343F),
  (0x1F100, 0x1F100), (0x1FFFE, 0x1FFFF), (0x2FFFE, 0x2FFFF), (0x3FFFE, 0x3FFFF),
  (0x4FFFE, 0x4FFFF), (0x5FFFE, 0x5FFFF), (0x6FFFE, 0x6FFFF), (0x7FFFE, 0x7FFFF),
  (0x8FFFE, 0x8FFFF), (0x9FFFE, 0x9FFFF), (0xAFFFE, 0xAFFFF), (0xBFFFE, 0xBFFFF),
  (0xCFFFE, 0xCFFFF), (0xDFFFE, 0xDFFFF), (0xE0001, 0xE0001), (0xE0020, 0xE007F),
  (0xEFFFE, 0x10FFFF)
]

/-- Marks that count as letters, and letters that count as marks: the iota below
a vowel, and the narrow signs for a voiced sound. -/
def exchangedInName : List (Char × Char) :=
  [('\u0345', 'ι'), ('\uff9e', '\u3099'), ('\uff9f', '\u309a')]

def nameForm (c : Char) : List Char :=
  if Text.inRanges ignoredInName c then []
  else
    match exchangedInName.lookup c with
    | some other => [other]
    | none => Text.plainForm c

def isInName (c : Char) : Bool :=
  if c.toNat < 0x80 then 0x20 < c.toNat && c.toNat ≠ 0x7F && !"#%/:<>?@[\\]^|".toList.contains c
  else !Text.inRanges barredFromName c

/-- Whether the marks at the front of a text put a stroke through the character
before it. -/
def isStruck (marks : List Char) : Bool :=
  (marks.dropWhile (Text.inRanges Text.afterStroke)).head? = some '\u0338'

/-- Whether a name may have the characters of a text. The less-than and the
greater-than sign may stand in it with a stroke through them, which makes each
a sign of its own. -/
def areInName : List Char → Bool
  | [] => true
  | c :: rest =>
    (isInName c || ((c = '<' || c = '>') && isStruck rest)) && areInName rest

/-- The labels of a name. A point at its end ends the last one. -/
def labels (name : List Char) : List (List Char) :=
  let all := pieces '.' name
  if all.getLast? = some [] then all.dropLast else all

/-- Whether a label makes a number of the name that it ends. -/
def isNumeric (label : List Char) : Bool :=
  (!label.isEmpty && label.all Char.isDigit) || (addressNumber? label).isSome

/-- Whether a text is a name, or an address if it ends in a number. No label
starts with a character that joins the one before it. -/
def isName (name : List Char) : Bool :=
  !name.isEmpty && areInName name
    && !(pieces '.' name).any (fun label => label.head?.any (Text.inRanges Text.joining))
    && (!((labels name).getLast?.any isNumeric)
      || ((labels name).mapM addressNumber?).any areAddress)

/-! Hosts -/

/-- Whether a text is an address of 128 bits in brackets, or else passes a test. -/
def isBracketedOr (test : List Char → Bool) : List Char → Bool
  | '[' :: rest => rest.getLast? = some ']' && isGroupAddress rest.dropLast
  | host => test host

/-- Whether a text is a host of the web. Bytes may be percent-encoded. -/
def isWebHost : List Char → Bool :=
  isBracketedOr fun host =>
    match String.fromUTF8? ⟨(Text.percentDecode host).toArray⟩ with
    | none => false
    | some name => isName (name.toList.flatMap nameForm)

/-- Whether a text is a host of another scheme, where it may be empty. -/
def isPlainHost : List Char → Bool :=
  isBracketedOr fun host => !host.any fun c => "\x00\t\n\r #/:<>?@[\\]^|".toList.contains c

end SearchStore.Http
