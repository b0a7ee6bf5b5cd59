import ChatLobby.Log.Pattern.Flags
import ChatLobby.Text.Digits

/-!
# Items of patterns

The single things that a pattern names: characters, classes of characters, and places in a text.
An item that means more or less than its own characters is an escape, begun by a backslash.

Which of them can be used depends on the flags, for two reasons.  Neither the classes of Unicode
characters nor their upper and lower cases are known here.  And what is matched is always a text:
bytes that are no whole characters cannot be asked for.
-/

namespace ChatLobby.Pattern

/-- A single thing that a pattern names. -/
inductive Item where
  /-- A character, which may have been written like a byte, by two hexadecimal digits. -/
  | literal (c : Char) (likeByte : Bool)
  /-- Any character of a class, or of those outside it. -/
  | oneOf (outside : Bool)
  /-- The beginning or end of the text. -/
  | edge
  /-- The boundary of a word. -/
  | wordBoundary
  deriving DecidableEq, Repr

/-! ### Escapes -/

/-- The characters that mean something in a pattern. -/
def metaCharacters : List Char := "\\.+*?()|[]\x7b\x7d^$#&-~".toList

/-- The letters that stand for a control character, with the character. -/
def controlLetters : List (Char × Char) :=
  [('a', '\x07'), ('f', '\x0c'), ('t', '\t'), ('n', '\n'), ('r', '\r'), ('v', '\x0b')]

/-- How many hexadecimal digits follow the letter. -/
def codeDigits? : Char → Option Nat
  | 'x' => some 2
  | 'u' => some 4
  | 'U' => some 8
  | _ => none

/-- The next characters that mean something. -/
def Flags.take? (flags : Flags) : (count : Nat) → List Char → Option (List Char × List Char)
  | 0, cs => some ([], cs)
  | count + 1, cs =>
    match flags.skip cs with
    | [] => none
    | c :: cs => (flags.take? count cs).map fun (taken, rest) => (c :: taken, rest)

/-- Read what follows a backslash. -/
def escape? (flags : Flags) : List Char → Option (Item × List Char)
  | [] => none
  | c :: cs =>
    if metaCharacters.contains c then some (.literal c false, cs)
    else if let some count := codeDigits? c then do
      let (digits, rest) ← flags.take? count cs
      let code ← Text.charOfCode? (← Text.numeral? 16 digits)
      return (.literal code (c == 'x'), rest)
    else if let some control := controlLetters.lookup c then some (.literal control false, cs)
    else if "dsw".toList.contains c then some (.oneOf false, cs)
    else if "DSW".toList.contains c then some (.oneOf true, cs)
    else if "Az".toList.contains c then some (.edge, cs)
    else if "bB<>".toList.contains c then some (.wordBoundary, cs)
    else if c.toNat < 128 && !c.isAlphanum then some (.literal c false, cs)
    else none

/-! ### What the flags admit -/

namespace Flags

/-- Whether a character can be asked for: its other case must not matter, and a byte that stands
alone must be a character. -/
def admitsLiteral (flags : Flags) (c : Char) (likeByte : Bool) : Bool :=
  if flags.unicode then !flags.ignoresCase else !likeByte || c.toNat < 128

/-- Whether one character of a class, or one outside it, can be asked for. -/
def admitsOneOf (flags : Flags) (outside : Bool) : Bool := !flags.unicode && !outside

/-- Whether any character at all can be asked for. -/
def admitsAny (flags : Flags) : Bool := flags.unicode

/-- Whether an item can be used outside brackets. -/
def admits (flags : Flags) : Item → Bool
  | .literal c likeByte => flags.admitsLiteral c likeByte
  | .oneOf outside => flags.admitsOneOf outside
  | .edge | .wordBoundary => true

end Flags

end ChatLobby.Pattern
