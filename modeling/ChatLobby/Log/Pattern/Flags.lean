import ChatLobby.Text.Blank

/-!
# Flags of patterns

What holds of a part of a pattern: whether letters match in either case, whether the text is one of
Unicode characters or one of bytes, and whether white space in the pattern means nothing.  Flags
are written as letters after a question mark, those behind a hyphen being turned off.

Other flags that can be written make no difference to whether a pattern can be used.
-/

namespace ChatLobby.Pattern

/-- What holds of the part of a pattern that is being read. -/
structure Flags where
  /-- Letters match in either case. -/
  ignoresCase : Bool := false
  /-- The text is one of Unicode characters, not of bytes. -/
  unicode : Bool := true
  /-- White space and remarks in the pattern mean nothing. -/
  spaced : Bool := false
  deriving DecidableEq, Repr

namespace Flags

/-! ### Changes -/

/-- Turn the flag of one letter on or off. -/
def set (value : Bool) (flags : Flags) : Char → Flags
  | 'i' => { flags with ignoresCase := value }
  | 'u' => { flags with unicode := value }
  | 'x' => { flags with spaced := value }
  | _ => flags

/-- Change the flags by their letters, each at most once, of which a hyphen turns off those behind
it; `none` if they cannot be written so. -/
def change? (flags : Flags) (letters : List Char) : Option Flags :=
  if letters.all "imsUuRx-".toList.contains && letters.eraseDups.length = letters.length
      && letters.getLast? != some '-' then
    let on := letters.takeWhile (· != '-')
    some (((letters.drop on.length).foldl (set false)) (on.foldl (set true) flags))
  else none

/-! ### White space -/

/-- The characters after white space and remarks, of which each lasts to the end of its line. -/
def dropSpace : (inRemark : Bool) → List Char → List Char
  | _, [] => []
  | true, c :: cs => dropSpace (c != '\n') cs
  | false, c :: cs =>
    if c == '#' then dropSpace true cs
    else if Text.isBlank c then dropSpace false cs
    else c :: cs

/-- The characters after what means nothing. -/
def skip (flags : Flags) (cs : List Char) : List Char :=
  if flags.spaced then dropSpace false cs else cs

/-- The next character that means something, looked for without reading on: of a remark only its
mark is passed over, and where there is nothing but white space, the first character is taken. -/
def peek? (flags : Flags) (cs : List Char) : Option Char :=
  if flags.spaced then
    let after := cs.dropWhile Text.isBlank
    let after := if after.head? == some '#' then (after.drop 1).dropWhile Text.isBlank else after
    after.head? <|> cs.head?
  else cs.head?

end Flags

end ChatLobby.Pattern
