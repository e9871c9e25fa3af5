import SearchStore.Text.Ranges

/-!
Quoted text for diagnostics: in double quotes, with the usual escapes, and with
the code point of every character that has no glyph of its own or that would
join the one before it.
-/

namespace SearchStore.Text

def quotedChar (c : Char) : List Char :=
  match c with
  | '\x00' => ['\\', '0']
  | '\t' => ['\\', 't']
  | '\r' => ['\\', 'r']
  | '\n' => ['\\', 'n']
  | '"' => ['\\', '"']
  | '\\' => ['\\', '\\']
  | c =>
    if inRanges invisible c || inRanges joining c then
      '\\' :: 'u' :: '{' :: (Nat.toDigits 16 c.toNat ++ ['}'])
    else [c]

def quoted (s : String) : String :=
  String.ofList ('"' :: s.toList.flatMap quotedChar ++ ['"'])

end SearchStore.Text
