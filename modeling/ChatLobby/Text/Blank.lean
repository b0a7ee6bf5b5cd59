/-!
# Blank text

The characters that Unicode counts as white space, and texts that hold nothing else.
-/

namespace ChatLobby.Text

/-- Unicode's `White_Space`. -/
def isBlank (c : Char) : Bool :=
  let n := c.toNat
  (0x09 ≤ n && n ≤ 0x0D) || n == 0x20 || n == 0x85 || n == 0xA0 || n == 0x1680
    || (0x2000 ≤ n && n ≤ 0x200A) || n == 0x2028 || n == 0x2029 || n == 0x202F || n == 0x205F
    || n == 0x3000

/-- A text of white space only, the empty text included. -/
def isBlankText (s : String) : Bool := s.toList.all isBlank

/-- The text without white space around it. -/
def trimBlank (cs : List Char) : List Char :=
  ((cs.dropWhile isBlank).reverse.dropWhile isBlank).reverse

end ChatLobby.Text
