/-!
White space in the sense of the standard's property of that name: the ASCII
blanks and controls, the next-line control, and the space separators with the
line and paragraph separators. Zero-width characters are not in it.
-/

namespace SearchStore.Text

def isWhite (c : Char) : Bool :=
  let n := c.toNat
  0x9 ≤ n && n ≤ 0xD || n == 0x20 || n == 0x85 || n == 0xA0 || n == 0x1680
    || 0x2000 ≤ n && n ≤ 0x200A || n == 0x2028 || n == 0x2029 || n == 0x202F
    || n == 0x205F || n == 0x3000

def isBlank (s : String) : Bool := s.toList.all isWhite

end SearchStore.Text
