import ChatLobby.Log.Pattern.Item
import ChatLobby.Log.Pattern.Nesting
import ChatLobby.Text.Pieces

/-!
# Classes in brackets

A class of characters in brackets lists its items: characters, ranges of characters, named classes,
and other classes in brackets.  A caret in front asks for the characters outside the class, and
`&&`, `--` and `~~` stand between two lists of which they take what is common, what is left and
what is not common.
-/

namespace ChatLobby.Pattern

/-! ### What the flags admit -/

namespace Flags

/-- Whether an item can be used in brackets, where bytes must be ASCII characters. -/
def admitsInBrackets (flags : Flags) : Item → Bool
  | .literal c _ => if flags.unicode then !flags.ignoresCase else c.toNat < 128
  | .oneOf outside => flags.admitsOneOf outside
  | .edge | .wordBoundary => false

/-- Whether a class named between colons, or what lies outside it, can be used. -/
def admitsNamed (flags : Flags) (outside : Bool) : Bool :=
  if flags.unicode then !flags.ignoresCase else !outside

/-- Whether a class in brackets, or what lies outside it, can be used. -/
def admitsBrackets (flags : Flags) (outside : Bool) : Bool := flags.unicode || !outside

end Flags

/-! ### Items in brackets -/

/-- The names of classes that stand between colons. -/
def classNames : List String :=
  ["alnum", "alpha", "ascii", "blank", "cntrl", "digit", "graph", "lower", "print", "punct",
    "space", "upper", "word", "xdigit"]

/-- Read the name of a class and its bracket, if one follows the opening bracket: whether what lies
outside it is meant, and the rest. -/
def namedClass? : List Char → Option (Bool × List Char)
  | ':' :: cs =>
    let outside := cs.head? == some '^'
    match Text.splitFirst? ':' (if outside then cs.drop 1 else cs) with
    | some (name, ']' :: rest) =>
      if classNames.contains (String.ofList name) then some (outside, rest) else none
    | _ => none
  | _ => none

/-- Read one item of a class, or one end of a range. -/
def classItem? (flags : Flags) : List Char → Option (Item × List Char)
  | [] => none
  | '\\' :: cs => escape? flags cs
  | c :: cs => some (.literal c false, cs)

/-- Whether characters are a range, which must not be empty. -/
def isRange : Item → Item → Bool
  | .literal low _, .literal high _ => low ≤ high
  | _, _ => false

/-- The rest after an item of a class or a range of characters.  A hyphen before another hyphen or
the closing bracket makes no range. -/
def afterRange? (flags : Flags) (cs : List Char) : Option (List Char) := do
  let (first, rest) ← classItem? flags cs
  if !flags.admitsInBrackets first then none
  else
    match flags.skip rest with
    | '-' :: upper =>
      if (flags.peek? upper).any fun c => c == ']' || c == '-' then return '-' :: upper
      else
        let (last, rest) ← classItem? flags (flags.skip upper)
        if flags.admitsInBrackets last && isRange first last then return rest else none
    | rest => return rest

/-! ### Whole classes -/

/-- What is remembered of the part of a class that was read. -/
structure Bracket where
  /-- Whether hyphens and, before any, a closing bracket still stand for themselves. -/
  leading : Bool := false
  /-- The height of what stands before the last operator. -/
  operand : Option Nat := none
  /-- The items since then. -/
  items : Row := {}

namespace Bracket

/-- Another item was read. -/
def add (b : Bracket) (height : Nat) : Bracket :=
  { b with items := b.items.add height, leading := false }

/-- The height of what stands between the brackets. -/
def height (b : Bracket) : Nat :=
  match b.operand with
  | none => b.items.height
  | some operand => max operand b.items.height + 1

/-- Begin a class after its opening bracket. -/
def begin? (flags : Flags) (cs : List Char) : Option (List Char) :=
  match flags.skip cs with
  | '^' :: cs => if flags.admitsBrackets true then some cs else none
  | cs => if flags.admitsBrackets false then some cs else none

/-- The height of a class and the rest after it. -/
def close? (flags : Flags) : (fuel : Nat) → Bracket → List Char → Option (Nat × List Char)
  | 0, _, _ => none
  | fuel + 1, b, cs =>
    match flags.skip cs with
    | [] => none
    | c :: cs =>
      if b.leading && (c == '-' || c == ']' && b.items.count == 0) then
        if flags.admitsInBrackets (.literal c false) then
          close? flags fuel { b with items := b.items.add 0, leading := c == '-' } cs
        else none
      else if c == ']' then some (b.height + 1, cs)
      else if c == '[' then
        match namedClass? cs with
        | some (outside, rest) =>
          if flags.admitsNamed outside then close? flags fuel (b.add 0) rest else none
        | none => do
          let (height, rest) ← close? flags fuel { leading := true } (← begin? flags cs)
          close? flags fuel (b.add height) rest
      else if "&-~".toList.contains c && cs.head? == some c then
        close? flags fuel { operand := some b.height } (cs.drop 1)
      else (afterRange? flags (c :: cs)).bind (close? flags fuel (b.add 0))

/-- Read a class after its opening bracket: its height, and the rest. -/
def read? (flags : Flags) (cs : List Char) : Option (Nat × List Char) := do
  let cs ← begin? flags cs
  close? flags (cs.length + 1) { leading := true } cs

end Bracket

end ChatLobby.Pattern
