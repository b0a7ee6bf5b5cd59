/-!
# Pieces of texts

A text cut at separators, at the ends of lines, or at a count of bytes.
-/

namespace ChatLobby.Text

/-- The pieces of a text between separators; there is one more of them than separators. -/
def pieces (separator : Char) : List Char → List (List Char)
  | [] => [[]]
  | c :: cs =>
    if c = separator then [] :: pieces separator cs
    else
      match pieces separator cs with
      | [] => [[c]]
      | piece :: rest => (c :: piece) :: rest

/-- The lines of a text.  The last one need not be ended, and a carriage return before the end of a
line belongs to it. -/
def lines (cs : List Char) : List (List Char) :=
  let ended := pieces '\n' cs
  let ended := if ended.getLast? == some [] then ended.dropLast else ended
  ended.map fun line => if line.getLast? == some '\r' then line.dropLast else line

/-- What stands before and after the first `separator`, if there is one. -/
def splitFirst? (separator : Char) : List Char → Option (List Char × List Char)
  | [] => none
  | c :: cs =>
    if c = separator then some ([], cs)
    else (splitFirst? separator cs).map fun (before, after) => (c :: before, after)

/-- How many bytes the characters take in UTF-8. -/
def byteLength : List Char → Nat
  | [] => 0
  | c :: cs => c.utf8Size + byteLength cs

/-- The first bytes of a text, as far as they make up whole characters; `none` if they do not, or
if there are not so many. -/
def takeBytes? : (count : Nat) → List Char → Option (List Char)
  | 0, _ => some []
  | _ + 1, [] => none
  | count + 1, c :: cs =>
    if c.utf8Size ≤ count + 1 then (takeBytes? (count + 1 - c.utf8Size) cs).map (c :: ·) else none

/-- What is left of a text after its first bytes; `none` if they end inside a character, or if
there are not so many. -/
def dropBytes? : (count : Nat) → List Char → Option (List Char)
  | 0, cs => some cs
  | _ + 1, [] => none
  | count + 1, c :: cs =>
    if c.utf8Size ≤ count + 1 then dropBytes? (count + 1 - c.utf8Size) cs else none

end ChatLobby.Text
