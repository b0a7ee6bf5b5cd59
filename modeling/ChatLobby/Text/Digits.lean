/-!
# Digits

Numbers in texts: the value of a digit, numerals that must consist of digits altogether, decimal
numbers with a fraction or an exponent, and characters by their code points.
-/

namespace ChatLobby.Text

/-- The value of an ASCII digit or letter as a digit of the given radix. -/
def digitValue? (radix : Nat) (c : Char) : Option Nat :=
  let value? :=
    if '0' ≤ c ∧ c ≤ '9' then some (c.toNat - '0'.toNat)
    else if 'a' ≤ c ∧ c ≤ 'z' then some (c.toNat - 'a'.toNat + 10)
    else if 'A' ≤ c ∧ c ≤ 'Z' then some (c.toNat - 'A'.toNat + 10)
    else none
  value?.filter (· < radix)

/-- The value of digits read after the number `high`; `none` if one is no digit of the radix. -/
def digitsValue? (radix : Nat) : (high : Nat) → List Char → Option Nat
  | high, [] => some high
  | high, c :: cs => (digitValue? radix c).bind fun d => digitsValue? radix (high * radix + d) cs

/-- The value of a numeral: one digit or more, and nothing else. -/
def numeral? (radix : Nat) (cs : List Char) : Option Nat :=
  if cs.isEmpty then none else digitsValue? radix 0 cs

/-- Take a sign off a number. -/
def takeSign : List Char → Bool × List Char
  | '+' :: cs => (false, cs)
  | '-' :: cs => (true, cs)
  | cs => (false, cs)

/-- Whether the characters are a decimal number: a sign, digits with a point somewhere before,
between or behind them, and an exponent, of which only one digit is required. -/
def isDecimalNumber (cs : List Char) : Bool :=
  let isDigit := fun c => '0' ≤ c && c ≤ '9'
  let (_, cs) := takeSign cs
  let whole := cs.takeWhile isDigit
  let cs := cs.drop whole.length
  let (fraction, cs) :=
    match cs with
    | '.' :: cs => (cs.takeWhile isDigit, cs.dropWhile isDigit)
    | cs => ([], cs)
  !(whole.isEmpty && fraction.isEmpty) &&
    match cs with
    | [] => true
    | mark :: exponent =>
      let (_, digits) := takeSign exponent
      (mark == 'e' || mark == 'E') && !digits.isEmpty && digits.all isDigit

/-- The decimal digits of `n`. -/
def decimal (n : Nat) : List Char := Nat.toDigits 10 n

/-- The character with the given code point, if there is one. -/
def charOfCode? (n : Nat) : Option Char :=
  if h : n.isValidChar then some (Char.ofNatAux n h) else none

end ChatLobby.Text
