/-!
# Nesting of patterns

How high the parts of a pattern tower above each other.  A character has height zero; a group, a
class, a repetition and a row of parts are one higher than what they hold, save that a row of one
part is no more than that part.
-/

namespace ChatLobby.Pattern

/-- The height that a pattern must not exceed. -/
def maxHeight : Nat := 250

/-- Parts that stand side by side, seen by their heights. -/
structure Row where
  /-- How many there are. -/
  count : Nat := 0
  /-- The height of the highest. -/
  highest : Nat := 0
  deriving DecidableEq, Repr

namespace Row

/-- Put another part into the row. -/
def add (row : Row) (height : Nat) : Row where
  count := row.count + 1
  highest := max row.highest height

/-- Let a part of the row grow to the height. -/
def raise (row : Row) (height : Nat) : Row := { row with highest := max row.highest height }

/-- The height of the row as one part. -/
def height (row : Row) : Nat := if row.count < 2 then row.highest else row.highest + 1

end Row

end ChatLobby.Pattern
