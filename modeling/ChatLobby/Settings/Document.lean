import ChatLobby.Settings.Scan

/-!
# Reading the settings notation

A settings file is a value, after attributes that may switch on extensions of the notation.
Values nest only so deep: opening a container costs one unit of the nesting limit, each element
another, and what an optional value holds one as well.
-/

namespace ChatLobby.Settings

/-- The extensions of the notation that a file can switch on. -/
structure Extensions where
  /-- A value may stand for an optional one that is present. -/
  implicitSome : Bool := false
  /-- An optional value may leave out the parentheses of what it holds. -/
  unwrapVariants : Bool := false
  /-- Every record must be named. -/
  explicitNames : Bool := false
  deriving DecidableEq, Repr

namespace Extensions

/-- Switch on the extension with the given name, if there is one. -/
def enable? (e : Extensions) (name : String) : Option Extensions :=
  match name with
  | "unwrap_newtypes" => some e
  | "implicit_some" => some { e with implicitSome := true }
  | "unwrap_variant_newtypes" => some { e with unwrapVariants := true }
  | "explicit_struct_names" => some { e with explicitNames := true }
  | _ => none

end Extensions

/-! ### Lists of items -/

/-- Read items with commas between them, and perhaps one behind the last, up to `closing`. -/
def items? {α : Type} (item : Reader α) (closing : Char) : (fuel : Nat) → Reader (List α)
  | 0, _ => none
  | fuel + 1, cs => do
    match ← skipSpace cs with
    | [] => none
    | c :: rest =>
      if c = closing then some ([], rest)
      else
        let (a, cs) ← item (c :: rest)
        match ← skipSpace cs with
        | [] => none
        | c :: rest =>
          if c = ',' then (items? item closing fuel rest).map fun (as, rest) => (a :: as, rest)
          else if c = closing then some ([a], rest)
          else none

/-- Read items up to `closing`; every item but the last takes a comma, so that the length of the
text bounds their number. -/
def list? {α : Type} (item : Reader α) (closing : Char) : Reader (List α) := fun cs =>
  items? item closing (cs.length + 1) cs

/-- Read `key: value`, space allowed around the colon. -/
def pair? {α β : Type} (key : Reader α) (value : Reader β) : Reader (α × β) := fun cs => do
  let (k, cs) ← key cs
  match ← skipSpace cs with
  | ':' :: cs =>
    let (v, rest) ← value (← skipSpace cs)
    return ((k, v), rest)
  | _ => none

/-! ### Values -/

/-- Whether a name and a colon come next, as in a record. -/
def startsRecord (cs : List Char) : Bool :=
  match word? cs with
  | some (_, rest) => ((skipSpace rest).bind List.head?) == some ':'
  | none => false

/-- How the parts of a value are read, as far as the nesting limit allows any. -/
structure Nested where
  /-- Whether a container may be opened. -/
  container : Bool
  /-- How an element of a container is read. -/
  element : Reader Value
  /-- How the value inside an optional one is read; it may share the parentheses of that one. -/
  held : (shares : Bool) → Reader Value

namespace Nested

/-- Read the fields of a record, after its opening parenthesis. -/
def fields? (n : Nested) : Reader (List (String × Value)) := fun cs => do
  guard n.container
  list? (pair? name? n.element) ')' cs

/-- Read the values of a container, after its opening bracket. -/
def elements? (n : Nested) (closing : Char) : Reader Value := fun cs => do
  guard n.container
  (list? n.element closing cs).map fun (_, rest) => (.other, rest)

/-- Read what follows the opening parenthesis of a record or tuple with the given name. -/
def group? (n : Nested) (recordName? : Option String) : Reader Value := fun cs => do
  let cs ← skipSpace cs
  if startsRecord cs || cs.head? == some ')' then
    (n.fields? cs).map fun (fields, rest) => (.record recordName? fields, rest)
  else n.elements? ')' cs

/-- Read what an optional value holds, after the opening parenthesis. -/
def optional? (n : Nested) (ext : Extensions) : Reader Value := fun cs => do
  let (_, cs) ← n.held ext.unwrapVariants (← skipSpace cs)
  let cs ← skipSpace cs
  match ← skipSpace ((dropToken? "," cs).getD cs) with
  | ')' :: rest => some (.other, rest)
  | _ => none

/-- Read up to a closing parenthesis what shares it with an optional value: nothing, the fields
of a record, several values, or a single one. -/
def shared? (n : Nested) (single : Reader Value) : Reader Value := fun cs => do
  if cs.head? == some ')' then return (.other, cs)
  else if startsRecord cs then (n.fields? cs).map fun (_, rest) => (.other, ')' :: rest)
  else if ← holdsSeveral? cs then (n.elements? ')' cs).map fun (v, rest) => (v, ')' :: rest)
  else single cs

end Nested

/-- The words for numbers that are not finite. -/
def numberWords : List String := ["inf", "inff32", "inff64", "NaN", "NaNf32", "NaNf64"]

/-- Read a value, its parts as `n` says. -/
def valueWith? (ext : Extensions) (n : Nested) : Reader Value := fun cs =>
  match word? cs with
  | some (word, rest) =>
    let raw := (dropToken? "r#" cs).isSome
    if !raw && word == "true" then some (.flag true, rest)
    else if !raw && word == "false" then some (.flag false, rest)
    else if !raw && word == "None" then some (.other, rest)
    else if !raw && numberWords.contains word then numberOrRange? cs
    else do
      match ← skipSpace rest with
      | '(' :: inner =>
        if !raw && word == "Some" then n.optional? ext inner else n.group? (some word) inner
      | after =>
        if !raw && word == "Some" then
          if ext.implicitSome then n.held false after else none
        else some (.other, rest)
  | none =>
    match cs with
    | '(' :: ')' :: rest => some (.record none [], rest)
    | '(' :: inner => n.group? none inner
    | '[' :: inner => n.elements? ']' inner
    | '\x7b' :: inner => do
      guard n.container
      (list? (pair? n.element n.element) '\x7d' inner).map fun (_, rest) => (.other, rest)
    | '"' :: _ | 'r' :: _ => (text? cs).map fun (s, rest) => (.text s, rest)
    | '\'' :: _ => (quotedChar? .character cs).map fun (_, rest) => (.other, rest)
    | 'b' :: '"' :: _ | 'b' :: 'r' :: _ =>
      (byteText cs).toOption.map fun (_, rest) => (.other, rest)
    | _ => numberOrRange? cs

/-- Read a value, its parts as `n` says, which may share the parentheses of an optional one. -/
def partWith? (ext : Extensions) (n : Nested) (shares : Bool) : Reader Value :=
  if shares then n.shared? (valueWith? ext n) else valueWith? ext n

/-- Read a value that nests at most as deep as `limit` allows. -/
def value? (ext : Extensions) : (limit : Nat) → (shares : Bool) → Reader Value
  | 0 => partWith? ext ⟨false, fun _ => none, fun _ _ => none⟩
  | 1 => partWith? ext ⟨true, fun _ => none, value? ext 0⟩
  | limit + 2 => partWith? ext ⟨true, value? ext limit false, value? ext (limit + 1)⟩

/-- How deep values may nest. -/
def nestingLimit : Nat := 128

/-! ### Attributes and files -/

/-- Drop the tokens, in order, with space behind each. -/
def dropTokens? : List String → List Char → Option (List Char)
  | [], cs => some cs
  | token :: tokens, cs => do dropTokens? tokens (← skipSpace (← dropToken? token cs))

/-- Read the names of extensions up to the closing parenthesis and switch them on. -/
def extensionList? (ext : Extensions) : (fuel : Nat) → Reader Extensions
  | 0, _ => none
  | fuel + 1, cs => do
    let (name, cs) ← name? cs
    let ext ← ext.enable? name
    let cs ← skipSpace cs
    match cs with
    | ',' :: cs =>
      let cs ← skipSpace cs
      if cs.head?.any Text.continuesName then extensionList? ext fuel cs else return (ext, cs)
    | cs => return (ext, cs)

/-- Read one attribute: extensions to switch on, or the type or schema that the file follows,
which is only a note to the reader. -/
def attribute? (ext : Extensions) : Reader Extensions := fun cs => do
  let cs ← dropTokens? ["#", "!", "["] cs
  match dropTokens? ["enable", "("] cs with
  | some cs =>
    let (ext, cs) ← extensionList? ext (cs.length + 1) cs
    return (ext, ← dropTokens? [")", "]"] cs)
  | none =>
    let cs ← (dropTokens? ["type", "="] cs).or (dropTokens? ["schema", "="] cs)
    let (_, cs) ← text? cs
    return (ext, ← dropTokens? ["]"] (← skipSpace cs))

/-- Read the attributes that a file begins with. -/
def attributes? (ext : Extensions) : (fuel : Nat) → Reader Extensions
  | 0, _ => none
  | fuel + 1, cs => do
    let cs ← skipSpace cs
    if cs.head? == some '#' then
      let (ext, cs) ← attribute? ext cs
      attributes? ext fuel cs
    else return (ext, cs)

/-- Read a whole file: attributes, one value, and nothing else but space. -/
def document? (s : String) : Option (Extensions × Value) := do
  let cs := s.toList
  let (ext, cs) ← attributes? {} (cs.length + 1) cs
  let (v, rest) ← value? ext nestingLimit false cs
  guard (← skipSpace rest).isEmpty
  return (ext, v)

end ChatLobby.Settings
