import ChatLobby.Log.Pattern
import ChatLobby.Text.Blank

/-!
# Log levels and directives

A filter is made of directives such as `warn`, `net=debug` or `net[request]=trace`: a level, and
perhaps which targets, spans and fields it is about.

White space around a directive is not passed over where it is read: the marks that divide a
directive are looked for without it, but what they divide is the directive as it is, so that a
directive that begins with a space says something else than it seems to.
-/

namespace ChatLobby

/-- How much is logged; each level includes those before it. -/
inductive LogLevel where
  | off
  | error
  | warn
  | info
  | debug
  | trace
  deriving DecidableEq, Repr

namespace LogLevel

/-- The place of the level in the order of levels. -/
def rank : LogLevel → Nat
  | off => 0
  | error => 1
  | warn => 2
  | info => 3
  | debug => 4
  | trace => 5

/-- The levels with their names. -/
def names : List (String × LogLevel) :=
  [("off", off), ("error", error), ("warn", warn), ("info", info), ("debug", debug),
    ("trace", trace)]

/-- The name of the level. -/
def text (l : LogLevel) : String :=
  match names.find? (·.2 = l) with
  | some (name, _) => name
  | none => ""

/-- The level with the given rank. -/
def ofRank? (n : Nat) : Option LogLevel := (names.find? (·.2.rank = n)).map (·.2)

/-- Read a level: its name in letters of either case, or its rank, which may have a plus sign. -/
def ofChars? (cs : List Char) : Option LogLevel :=
  let digits := if cs.head? == some '+' then cs.drop 1 else cs
  match Text.numeral? 10 digits with
  | some n => ofRank? n
  | none => names.lookup (String.ofList (cs.map Char.toLower))

end LogLevel

/-- A directive of a log filter. -/
structure LogDirective where
  /-- What the target of an event begins with. -/
  target : Option String := none
  /-- The span around the event. -/
  span : Option String := none
  /-- The fields of the event, each with the value it must have, if any. -/
  fields : List (String × Option String) := []
  /-- Up to which level there is logging. -/
  level : LogLevel
  deriving DecidableEq, Repr

/-- Why a directive cannot be read. -/
inductive DirectiveError where
  /-- It does not have the form of a directive. -/
  | malformed
  /-- It asks for a level that there is not. -/
  | level
  /-- It asks for a field with a value that cannot be looked for. -/
  | field (cause : PatternError)
  deriving DecidableEq, Repr

namespace DirectiveError

/-- The text a user reads. -/
def message : DirectiveError → String
  | malformed => "invalid filter directive"
  | level =>
    let levels := LogLevel.names.map fun (name, _) => "\"" ++ name ++ "\""
    "error parsing level filter: expected one of " ++ ", ".intercalate levels
      ++ ", or a number 0-5"
  | field cause => s!"invalid field filter: {cause.message}"

end DirectiveError

namespace LogDirective

/-- Whether the directive is about events by themselves, and not about spans or values. -/
def isStatic (d : LogDirective) : Bool := d.span.isNone && d.fields.all (·.2.isNone)

/-- The text of the directive. -/
def text (d : LogDirective) : String :=
  let fields := if d.fields.isEmpty then "" else
    "[\x7b" ++ ",".intercalate (d.fields.map (·.1)) ++ "\x7d]"
  let scope := d.target.getD "" ++ fields
  if scope.isEmpty then d.level.text else scope ++ "=" ++ d.level.text

/-! ### Reading -/

/-- The text of a directive from one byte to another, or to the end; one that would begin or end
inside a character makes the directive malformed. -/
def part (cs : List Char) (start : Nat) (stop? : Option Nat) : Except DirectiveError (List Char) :=
  let found := (Text.dropBytes? start cs).bind fun rest =>
    match stop? with
    | some stop => Text.takeBytes? (stop - start) rest
    | none => some rest
  match found with
  | some part => .ok part
  | none => .error .malformed

/-- Read a level from a byte on; an empty one stands for everything. -/
def levelFrom (cs : List Char) (start : Nat) : Except DirectiveError LogLevel := do
  let text ← part cs start none
  if text.isEmpty then return .trace
  else
    match LogLevel.ofChars? text with
    | some level => return level
    | none => throw .level

/-- Whether the text is a number, so that values are compared with it as such. -/
def isNumber (cs : List Char) : Bool :=
  let (_, word) := Text.takeSign cs
  Text.isDecimalNumber cs
    || ["inf", "infinity", "nan"].contains (String.ofList (word.map Char.toLower))

/-- Read one field, as a name with or without a value.  A value that is no number is a pattern. -/
def readField (cs : List Char) : Except DirectiveError (String × Option String) :=
  match Text.pieces '=' cs with
  | name :: value :: _ =>
    match if isNumber value then none else Pattern.error? value with
    | some cause => .error (.field cause)
    | none => .ok (String.ofList name, some (String.ofList value))
  | _ => .ok (String.ofList cs, none)

/-- Read what follows a scope: an equals sign and a level, or nothing.  The characters `rest`
begin at the byte `start` of the directive `cs`. -/
def levelAfter (cs : List Char) (start : Nat) (rest : List Char) :
    Except DirectiveError LogLevel :=
  match rest with
  | [] => .ok .trace
  | '=' :: _ => levelFrom cs (start + 1)
  | _ => .error .malformed

/-- Read a span with its field, after the opening bracket, and the level behind it.  The
characters `rest` begin at the byte `start` of the directive `cs`. -/
def withScope (cs : List Char) (target : Option String) (start : Nat) (rest : List Char) :
    Except DirectiveError LogDirective := do
  let inScope (c : Char) : Bool := c != ']' && c != '\x7b'
  let stop := start + Text.byteLength (rest.takeWhile inScope)
  match rest.dropWhile inScope with
  | ']' :: rest =>
    let span := String.ofList (← part cs start (some stop))
    return { target, span := some span, level := ← levelAfter cs (stop + 1) rest }
  | '\x7b' :: rest =>
    let name ← part cs start (some stop)
    match Text.splitFirst? '\x7d' rest with
    | some (inner, rest) =>
      let fieldStart := stop + 1
      let fieldStop := fieldStart + Text.byteLength inner
      if inner.isEmpty then throw .malformed
      let field ← readField (← part cs fieldStart (some fieldStop))
      match rest with
      | ']' :: rest =>
        return {
          target
          span := if name.isEmpty then none else some (String.ofList name)
          fields := [field]
          level := ← levelAfter cs (fieldStop + 2) rest }
      | _ => throw .malformed
    | none => throw .malformed
  | _ => throw .malformed

/-- Whether a directive can begin with the character, if it is no bracket. -/
def startsTarget (c : Char) : Bool :=
  c == '-' || c == ':' || c == '_' || Text.isAlphanumeric c

/-- Read a directive. -/
def ofChars (cs : List Char) : Except DirectiveError LogDirective := do
  let inTarget (c : Char) : Bool := c != '=' && c != '['
  let marked := Text.trimBlank cs
  let stop := Text.byteLength (marked.takeWhile inTarget)
  if marked.head? == some '[' then withScope cs none 1 (marked.drop 1)
  else if !marked.head?.any startsTarget then throw .malformed
  else
    match marked.dropWhile inTarget with
    | '=' :: _ =>
      let target := String.ofList (← part cs 0 (some stop))
      return { target := some target, level := ← levelFrom cs (stop + 1) }
    | '[' :: rest => withScope cs (some (String.ofList (← part cs 0 (some stop)))) (stop + 1) rest
    | _ =>
      match LogLevel.ofChars? cs with
      | some level => return { level }
      | none => return { target := some (String.ofList cs), level := .trace }

end LogDirective

end ChatLobby
