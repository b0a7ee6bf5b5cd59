import ChatLobby.Text.Printable

/-!
# Quoted texts

A text between quotation marks, with backslash escapes for the quotation mark, the backslash,
line breaks and the like, and for every character that has no visible form of its own.
-/

namespace ChatLobby.Text

/-- How texts are quoted. -/
structure QuoteStyle where
  /-- Whether an apostrophe is escaped too. -/
  escapesApostrophe : Bool
  deriving DecidableEq, Repr

namespace QuoteStyle

/-- How messages quote a text they mention. -/
def message : QuoteStyle := ⟨false⟩

/-- How the configuration file quotes a text. -/
def file : QuoteStyle := ⟨true⟩

end QuoteStyle

/-- The lower-case hexadecimal digits of `n`, without leading zeros. -/
def hexDigits (n : Nat) : List Char := Nat.toDigits 16 n

/-- The character as its code point: `\u`, and the hexadecimal digits in braces. -/
def unicodeEscape (c : Char) : List Char :=
  ['\\', 'u', '\x7b'] ++ hexDigits c.toNat ++ ['\x7d']

/-- How a character is written between quotation marks. -/
def escapeChar (style : QuoteStyle) (c : Char) : List Char :=
  if c == '\x00' then ['\\', '0']
  else if c == '\t' then ['\\', 't']
  else if c == '\r' then ['\\', 'r']
  else if c == '\n' then ['\\', 'n']
  else if c == '\\' || c == '"' then ['\\', c]
  else if c == '\'' && style.escapesApostrophe then ['\\', c]
  else if isExtending c then unicodeEscape c
  else if isPrintable c then [c]
  else unicodeEscape c

/-- The text between quotation marks. -/
def quoted (style : QuoteStyle) (s : String) : String :=
  String.ofList (['"'] ++ s.toList.flatMap (escapeChar style) ++ ['"'])

end ChatLobby.Text
