import ChatLobby.Log.Pattern.Bracket
import ChatLobby.Log.Pattern.Group

/-!
# Patterns of field values

A log directive can ask for a field whose value matches a pattern, a regular expression.  This
module says which patterns can be used: `Pattern.error?` reads one from left to right, remembering
for each open group its flags and how high its parts tower, and answers what is wrong with it.

A directive ends a field at the first closing brace and a filter ends a directive at the first
comma, so that nothing in a pattern can be counted or named in braces.
-/

namespace ChatLobby

/-- Why a pattern cannot be used. -/
inductive PatternError where
  /-- It is no regular expression. -/
  | malformed
  /-- It asks for the boundary of a word, which only reading backwards can tell. -/
  | wordBoundary
  deriving DecidableEq, Repr

namespace PatternError

/-- The text a user reads. -/
def message : PatternError → String
  | malformed => "error building NFA"
  | wordBoundary =>
    "unsupported regex feature for DFAs: cannot build DFAs for regexes with Unicode word "
      ++ "boundaries; switch to ASCII word boundaries, or heuristically enable Unicode word "
      ++ "boundaries or use a different regex engine"

end PatternError

namespace Pattern

/-! ### Open groups -/

/-- What is remembered of the part of a group, or of the whole pattern, that was read. -/
structure Scope where
  /-- The flags that hold now. -/
  flags : Flags := {}
  /-- The choices that were read. -/
  choices : Row := {}
  /-- The parts of the choice being read. -/
  parts : Row := {}
  /-- The height of the last part, if it can be repeated. -/
  repeatable : Option Nat := none

namespace Scope

/-- Another part was read, which can be repeated. -/
def add (s : Scope) (height : Nat) : Scope :=
  { s with parts := s.parts.add height, repeatable := some height }

/-- The flags were changed, which counts as a part that cannot be repeated. -/
def change (s : Scope) (flags : Flags) : Scope :=
  { s with flags, parts := s.parts.add 0, repeatable := none }

/-- The last part is repeated, which makes it higher. -/
def repeat? (s : Scope) : Option Scope :=
  s.repeatable.map fun height =>
    { s with parts := s.parts.raise (height + 1), repeatable := some (height + 1) }

/-- The choices, of which the one being read is the last. -/
def allChoices (s : Scope) : Row := s.choices.add s.parts.height

/-- Another choice begins. -/
def choose (s : Scope) : Scope := { flags := s.flags, choices := s.allChoices }

/-- The height of what the group holds. -/
def height (s : Scope) : Nat := s.allChoices.height

end Scope

/-! ### Whole patterns -/

/-- What is remembered of the part of a pattern that was read. -/
structure Progress where
  /-- The innermost open group. -/
  scope : Scope := {}
  /-- The groups around it, the innermost first. -/
  outer : List Scope := []
  /-- The names of groups so far. -/
  names : List (List Char) := []
  /-- Whether a word's boundary between Unicode characters was asked for. -/
  wordBoundary : Bool := false

namespace Progress

/-- Another part was read. -/
def add (p : Progress) (height : Nat) : Progress := { p with scope := p.scope.add height }

/-- A group begins, in which the flags hold; `none` if there is another of its name. -/
def open? (p : Progress) (flags : Flags) (name : Option (List Char)) : Option Progress :=
  if name.any p.names.contains then none
  else
    some { p with
      scope := { flags }, outer := p.scope :: p.outer, names := name.toList ++ p.names }

/-- The innermost group ends, and the flags around it hold again. -/
def close? (p : Progress) : Option Progress :=
  match p.outer with
  | [] => none
  | around :: outer => some { p with scope := around.add (p.scope.height + 1), outer }

/-- Take an item, if it can be used. -/
def take? (p : Progress) (item : Item) : Option Progress :=
  let flags := p.scope.flags
  if flags.admits item then
    some { p.add 0 with
      wordBoundary := p.wordBoundary || flags.unicode && item == .wordBoundary }
  else none

/-- Take a character that stands for itself, or for any, or for the beginning or end of the text. -/
def takeBare? (p : Progress) : Char → Option Progress
  | '.' => if p.scope.flags.admitsAny then some (p.add 0) else none
  | '^' | '$' => p.take? .edge
  | c => p.take? (.literal c false)

end Progress

/-- Read the rest of a pattern; `none` if it is malformed. -/
def read? : (fuel : Nat) → Progress → List Char → Option Progress
  | 0, _, _ => none
  | fuel + 1, p, cs =>
    let flags := p.scope.flags
    match flags.skip cs with
    | [] => if p.outer.isEmpty then some p else none
    | '(' :: cs => do
      match ← opening? flags cs with
      | (.group inside name, rest) => read? fuel (← p.open? inside name) rest
      | (.flags changed, rest) => read? fuel { p with scope := p.scope.change changed } rest
    | ')' :: cs => do read? fuel (← p.close?) cs
    | '|' :: cs => read? fuel { p with scope := p.scope.choose } cs
    | '[' :: cs => do
      let (height, rest) ← Bracket.read? flags cs
      read? fuel (p.add height) rest
    | '\x7b' :: _ => none
    | '\\' :: cs => do
      let (item, rest) ← escape? flags cs
      read? fuel (← p.take? item) rest
    | c :: cs => do
      if "*+?".toList.contains c then
        let cs := if cs.head? == some '?' then cs.drop 1 else cs
        read? fuel { p with scope := ← p.scope.repeat? } cs
      else read? fuel (← p.takeBare? c) cs

/-- What is wrong with a pattern, if anything is. -/
def error? (cs : List Char) : Option PatternError :=
  match read? (cs.length + 1) {} cs with
  | none => some .malformed
  | some p =>
    if p.scope.height > maxHeight then some .malformed
    else if p.wordBoundary then some .wordBoundary
    else none

end Pattern

end ChatLobby
