import ChatLobby.Bytes
import ChatLobby.Settings.Value
import ChatLobby.Text.Identifier

/-!
# The words of the settings notation

Readers for what a settings file is made of: space and comments, names, numbers and their ranges,
characters and texts.  Each takes the characters that are left and answers what it read with the
rest, or `none` if there is nothing of its kind.
-/

namespace ChatLobby.Settings

open Text

/-- Reads something off the front of a text. -/
abbrev Reader (α : Type) := List Char → Option (α × List Char)

/-! ### Space and comments -/

/-- The characters that may stand between words: Unicode's `Pattern_White_Space`. -/
def isSpace (c : Char) : Bool :=
  let n := c.toNat
  (0x09 ≤ n && n ≤ 0x0D) || n == 0x20 || n == 0x85 || n == 0x200E || n == 0x200F || n == 0x2028
    || n == 0x2029

/-- Where skipping is: between words, in a comment up to the end of its line, or inside that
many block comments. -/
inductive SkipState where
  | between
  | line
  | block (depth : Nat)

/-- Skip space and comments; `none` if a comment is not closed or a slash begins none. -/
def skipFrom : SkipState → List Char → Option (List Char)
  | .between, '/' :: '/' :: cs => skipFrom .line cs
  | .between, '/' :: '*' :: cs => skipFrom (.block 0) cs
  | .between, '/' :: _ => none
  | .between, c :: cs => if isSpace c then skipFrom .between cs else some (c :: cs)
  | .between, [] => some []
  | .line, '\n' :: cs => skipFrom .between cs
  | .line, _ :: cs => skipFrom .line cs
  | .line, [] => some []
  | .block depth, '/' :: '*' :: cs => skipFrom (.block (depth + 1)) cs
  | .block 0, '*' :: '/' :: cs => skipFrom .between cs
  | .block (depth + 1), '*' :: '/' :: cs => skipFrom (.block depth) cs
  | .block depth, _ :: cs => skipFrom (.block depth) cs
  | .block _, [] => none

/-- Skip space and comments. -/
def skipSpace (cs : List Char) : Option (List Char) := skipFrom .between cs

/-- The rest after `token`, if the text begins with it. -/
def dropToken? (token : String) (cs : List Char) : Option (List Char) :=
  if token.toList.isPrefixOf cs then some (cs.drop token.length) else none

/-- The rest after the word `word`, if the text begins with it and the word ends there. -/
def dropWord? (word : String) (cs : List Char) : Option (List Char) :=
  (dropToken? word cs).filter fun rest => !(rest.head?.any continuesName)

/-! ### Names -/

/-- The characters of a raw name, which follow `r#`. -/
def isRawNameChar (c : Char) : Bool := c == '.' || c == '+' || c == '-' || continuesName c

/-- The first characters of a text or byte literal, which look like a name and are none. -/
def literalOpenings : List String := ["b\"", "b'", "br#", "br\"", "r\"", "r#\"", "r##"]

/-- Whether a text or byte literal begins here. -/
def opensLiteral (cs : List Char) : Bool :=
  literalOpenings.any fun opening => opening.toList.isPrefixOf cs

/-- Read a raw name, after its `r#`. -/
def rawName? : Reader String := fun cs =>
  let name := cs.takeWhile isRawNameChar
  if name.isEmpty then none else some (String.ofList name, cs.drop name.length)

/-- Read a name if there is one, as far as it goes. -/
def word? : Reader String := fun cs =>
  if opensLiteral cs then none
  else
    match cs with
    | 'r' :: '#' :: rest => rawName? rest
    | c :: rest =>
      if beginsName c then
        some (String.ofList (c :: rest.takeWhile continuesName), rest.dropWhile continuesName)
      else none
    | [] => none

/-- Read a name that must not run on into characters of raw names. -/
def name? : Reader String := fun cs =>
  match cs with
  | 'r' :: '#' :: _ => word? cs
  | _ => (word? cs).filter fun (_, rest) => !(rest.head?.any isRawNameChar)

/-! ### Numbers -/

/-- The digits of any radix, and the underscore that may stand between them. -/
def isIntegerChar (c : Char) : Bool := c == '_' || (digitValue? 16 c).isSome

/-- The characters of numbers with a fraction or an exponent. -/
def isFloatChar (c : Char) : Bool :=
  ('0' ≤ c && c ≤ '9') || c == 'e' || c == 'E' || c == '.' || c == '+' || c == '-' || c == '_'

/-- The front of a text that can belong to a number with a fraction or an exponent.  Two dots end
it: they belong to a range. -/
def floatRun : List Char → List Char
  | '.' :: '.' :: _ => []
  | c :: cs => if isFloatChar c then c :: floatRun cs else []
  | [] => []

/-- The suffixes that give an integer a type. -/
def integerTypes : List (String × IntegerType) :=
  [("i8", ⟨true, 8⟩), ("i16", ⟨true, 16⟩), ("i32", ⟨true, 32⟩), ("i64", ⟨true, 64⟩),
    ("u8", ⟨false, 8⟩), ("u16", ⟨false, 16⟩), ("u32", ⟨false, 32⟩), ("u64", ⟨false, 64⟩)]

/-- Read the suffix of an integer. -/
def integerSuffix? : Reader IntegerType := fun cs =>
  integerTypes.findSome? fun (suffix, type) => (dropWord? suffix cs).map fun rest => (type, rest)

/-- The radix that the front of an unsigned integer announces, and its digits. -/
def takeRadix (cs : List Char) : Nat × List Char :=
  match cs with
  | '0' :: 'b' :: digits => (2, digits)
  | '0' :: 'o' :: digits => (8, digits)
  | '0' :: 'x' :: digits => (16, digits)
  | _ => (10, cs)

/-- Read the digits of an integer in any radix; underscores may follow the first digit. -/
def magnitude? : Reader (Nat × Nat) := fun cs =>
  let (radix, cs) := takeRadix cs
  let digits := cs.takeWhile isIntegerChar
  if digits.head? = some '_' then none
  else (numeral? radix (digits.filter (· != '_'))).map fun n => ((radix, n), cs.drop digits.length)

/-- Read an integer with the radix it is written in.  A suffix fixes its type, and must hold
it. -/
def integer? : Reader (Nat × IntegerLiteral) := fun cs =>
  let (negative, cs) := takeSign cs
  match integerSuffix? ((takeRadix cs).2.dropWhile isIntegerChar) with
  | some (type, rest) => do
    let ((radix, n), _) ← magnitude? cs
    if type.holds negative n then some ((radix, ⟨negative, n, some type⟩), rest) else none
  | none => do
    let ((radix, n), rest) ← magnitude? cs
    return ((radix, ⟨negative, n, none⟩), rest)

/-- Whether underscores stand only behind digits and exponent marks. -/
def underscoresAllowed : (allowed : Bool) → List Char → Bool
  | _, [] => true
  | allowed, c :: cs =>
    if c == '_' then allowed && underscoresAllowed allowed cs
    else if c == '.' then underscoresAllowed false cs
    else if c == '+' || c == '-' then underscoresAllowed allowed cs
    else underscoresAllowed true cs

/-- The words for numbers that are not finite, with a sign or without. -/
def specialNumbers : List String :=
  ["", "+", "-"].flatMap fun sign =>
    ["inf", "NaN"].flatMap fun word => ["", "f32", "f64"].map fun suffix => sign ++ word ++ suffix

/-- Read a number with a fraction or an exponent, or one that is not finite. -/
def float? (cs : List Char) : Option (List Char) :=
  match specialNumbers.findSome? (dropWord? · cs) with
  | some rest => some rest
  | none =>
    let run := floatRun cs
    let rest := cs.drop run.length
    if underscoresAllowed false run && isDecimalNumber (run.filter (· != '_')) then
      some (((dropWord? "f32" rest).or (dropWord? "f64" rest)).getD rest)
    else none

/-- Whether a number here has more than the digits of an integer. -/
def looksLikeFloat (cs : List Char) : Bool :=
  let (_, cs) := takeSign cs
  (cs.takeWhile isIntegerChar).length < (floatRun cs).length

/-- The type of an integer without suffix that is read for its own sake. -/
def widestType (negative : Bool) : IntegerType := ⟨negative, 64⟩

/-- Read any number.  A decimal integer that no type holds counts as a number with a fraction. -/
def number? : Reader Value := fun cs =>
  if looksLikeFloat cs then (float? cs).map fun rest => (.other, rest)
  else
    match integer? cs with
    | some ((radix, literal), rest) =>
      if (widestType literal.negative).holds literal.negative literal.magnitude then
        some (.integer literal, rest)
      else if radix = 10 then some (.other, rest)
      else none
    | none => (float? cs).map fun rest => (.other, rest)

/-! ### Characters and texts -/

/-- Read up to `count` hexadecimal digits. -/
def hexRun : (count : Nat) → (high : Nat) → List Char → Nat × List Char
  | 0, high, cs => (high, cs)
  | _ + 1, high, [] => (high, [])
  | count + 1, high, c :: cs =>
    match digitValue? 16 c with
    | some d => hexRun count (16 * high + d) cs
    | none => (high, c :: cs)

/-- Where an escape stands. -/
inductive EscapePlace where
  /-- Between apostrophes. -/
  | character
  /-- In a text. -/
  | text
  /-- In bytes. -/
  | bytes
  deriving DecidableEq, Repr

/-- Read a byte as two hexadecimal digits. -/
def hexByte? : Reader UInt8
  | a :: b :: cs => do
    return (UInt8.ofNat (16 * (← digitValue? 16 a) + (← digitValue? 16 b)), cs)
  | _ => none

/-- Read bytes, each escaped by itself, until all of them, with those read before, are the UTF-8
form of a character; at most `count` bytes. -/
def encodedChar? : (count : Nat) → (before : Bytes) → Reader Char
  | count, before, cs =>
    match (Bytes.toString? before).map String.toList with
    | some [c] => some (c, cs)
    | _ =>
      match count, cs with
      | count + 1, '\\' :: 'x' :: cs => do
        let (b, cs) ← hexByte? cs
        encodedChar? count (before ++ [b]) cs
      | _, _ => none

/-- Read what follows the backslash of an escape.  Two hexadecimal digits give a byte: in a text a
part of the UTF-8 form of a character, between apostrophes all of it. -/
def escape? (place : EscapePlace) : Reader Char
  | 'n' :: cs => some ('\n', cs)
  | 'r' :: cs => some ('\r', cs)
  | 't' :: cs => some ('\t', cs)
  | '0' :: cs => some ('\x00', cs)
  | '\\' :: cs => some ('\\', cs)
  | '"' :: cs => some ('"', cs)
  | '\'' :: cs => some ('\'', cs)
  | 'x' :: cs => do
    let (b, cs) ← hexByte? cs
    match place with
    | .character => encodedChar? 0 [b] cs
    | .text => encodedChar? 3 [b] cs
    | .bytes => return (Char.ofNat b.toNat, cs)
  | 'u' :: '\x7b' :: digits => do
    let (n, rest) := hexRun 6 0 digits
    match rest with
    | '\x7d' :: cs => if digits.length = rest.length then none else return (← charOfCode? n, cs)
    | _ => none
  | _ => none

/-- The characters that a backslash at the end of a line skips on the next one. -/
def isIndentation (c : Char) : Bool := c == ' ' || c == '\t' || c == '\n' || c == '\r'

/-- Why a text cannot be read. -/
inductive TextError where
  /-- No text begins here. -/
  | absent
  /-- A backslash in it begins no escape. -/
  | badEscape
  /-- Its closing quotation mark is missing. -/
  | unclosed
  deriving DecidableEq, Repr

/-- Read the characters of a text up to its closing quotation mark.  Where there is none, it does
not matter what else is wrong. -/
def textBody (place : EscapePlace) :
    (fuel : Nat) → List Char → Except TextError (List Char × List Char)
  | 0, _ => .error .unclosed
  | _ + 1, [] => .error .unclosed
  | _ + 1, '"' :: cs => .ok ([], cs)
  | fuel + 1, '\\' :: '\n' :: cs => textBody place fuel (cs.dropWhile isIndentation)
  | fuel + 1, '\\' :: '\r' :: '\n' :: cs => textBody place fuel (cs.dropWhile isIndentation)
  | fuel + 1, '\\' :: cs =>
    match escape? place cs with
    | none => .error (if cs.contains '"' then .badEscape else .unclosed)
    | some (c, cs) => (textBody place fuel cs).map fun (body, rest) => (c :: body, rest)
  | fuel + 1, c :: cs => (textBody place fuel cs).map fun (body, rest) => (c :: body, rest)

/-- Read the characters of a raw text up to the first place where `closing` stands. -/
def rawBody (closing : List Char) : List Char → Except TextError (List Char × List Char)
  | [] => if closing.isEmpty then .ok ([], []) else .error .unclosed
  | c :: cs =>
    if closing.isPrefixOf (c :: cs) then .ok ([], (c :: cs).drop closing.length)
    else (rawBody closing cs).map fun (body, rest) => (c :: body, rest)

/-- Read a raw text after its `r`: hash signs, a quotation mark, and everything up to a
quotation mark with as many hash signs. -/
def rawText (cs : List Char) : Except TextError (List Char × List Char) :=
  let hashes := cs.takeWhile (· == '#')
  match cs.drop hashes.length with
  | '"' :: body => rawBody ('"' :: hashes) body
  | _ => .error .absent

/-- Read the characters of a text. -/
def text : List Char → Except TextError (List Char × List Char)
  | '"' :: cs => textBody .text (cs.length + 1) cs
  | 'r' :: cs => rawText cs
  | _ => .error .absent

/-- Read the characters that stand for the bytes of a byte text. -/
def byteText : List Char → Except TextError (List Char × List Char)
  | 'b' :: '"' :: cs => textBody .bytes (cs.length + 1) cs
  | 'b' :: 'r' :: cs => rawText cs
  | _ => .error .absent

/-- Read a text. -/
def text? : Reader String := fun cs =>
  (text cs).toOption.map fun (s, rest) => (String.ofList s, rest)

/-- Read a character between apostrophes. -/
def quotedChar? (place : EscapePlace) : Reader Char := fun cs => do
  let (c, rest) ←
    match cs with
    | '\'' :: '\\' :: cs => escape? place cs
    | '\'' :: c :: cs => some (c, cs)
    | _ => none
  match rest with
  | '\'' :: rest => some (c, rest)
  | _ => none

/-- Read a byte written as a character: an integer of eight bits.  Only an escape can give a byte
above 127, and none by its code point. -/
def byte? : Reader Value
  | 'b' :: '\'' :: '\\' :: 'u' :: _ => none
  | 'b' :: cs => do
    let (c, rest) ← quotedChar? .bytes cs
    let escaped := cs.drop 1 |>.head?.any (· == '\\')
    if c.toNat < 128 || escaped then
      some (.integer ⟨false, c.toNat, some ⟨false, 8⟩⟩, rest)
    else none
  | _ => none

/-! ### Ranges -/

/-- Read a number, also one that is written as a byte. -/
def bound? : Reader Value
  | 'b' :: '\'' :: cs => byte? ('b' :: '\'' :: cs)
  | cs => number? cs

/-- Read the dots of a range and its upper bound, which may be missing unless it belongs to the
range. -/
def rangeEnd? (cs : List Char) : Option (List Char) :=
  match dropToken? "..=" cs with
  | some cs => (bound? cs).map Prod.snd
  | none => (dropToken? ".." cs).map fun cs => ((bound? cs).map Prod.snd).getD cs

/-- Read a number or a range of numbers, whose lower bound may be missing as well. -/
def numberOrRange? : Reader Value := fun cs =>
  match bound? cs with
  | none => (rangeEnd? cs).map fun rest => (.other, rest)
  | some (v, rest) =>
    if (dropToken? ".." rest).isSome then (rangeEnd? rest).map fun rest => (.other, rest)
    else some (v, rest)

/-! ### Looking ahead -/

/-- The rest after a character, a text or bytes in quotation marks, or that none of them begins
here. -/
def afterQuoted (cs : List Char) : Except TextError (List Char) :=
  match quotedChar? .character cs with
  | some (_, rest) => .ok rest
  | none =>
    match text cs with
    | .error .absent => (byteText cs).map Prod.snd
    | result => result.map Prod.snd

/-- Whether a comma with something behind it comes before the parenthesis that closes around the
text.  Commas and brackets within quotation marks, comments and, at some `depth`, brackets do not
count.  There is no answer where a quotation mark is not closed. -/
def severalFrom? : (fuel depth : Nat) → List Char → Option Bool
  | 0, _, _ => none
  | fuel + 1, depth, cs => do
    let cs ← skipSpace cs
    match afterQuoted cs, cs with
    | .ok rest, _ => severalFrom? fuel depth rest
    | .error .unclosed, _ | _, [] => none
    | _, c :: rest =>
      if "([\x7b".toList.contains c then severalFrom? fuel (depth + 1) rest
      else if ")]\x7d".toList.contains c then
        match depth with
        | 0 => some false
        | depth + 1 => severalFrom? fuel depth rest
      else if c == ',' && depth == 0 then return (← skipSpace rest).head? != some ')'
      else severalFrom? fuel depth rest

/-- Whether several values come before the parenthesis that closes around the text. -/
def holdsSeveral? (cs : List Char) : Option Bool :=
  let rest := ((word? cs).map Prod.snd).getD cs
  severalFrom? (cs.length + 1) 0 rest

end ChatLobby.Settings
