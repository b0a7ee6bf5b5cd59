import ChatLobby.Text.Digits

/-!
# Values of the settings notation

The values that a settings file can hold, as far as settings care: truth values, integers, texts
and records are told apart, everything else is one value.
-/

namespace ChatLobby.Settings

/-- The type that a suffix gives an integer. -/
structure IntegerType where
  signed : Bool
  bits : Nat
  deriving DecidableEq, Repr

/-- Whether an integer type holds the number with the given sign and magnitude. -/
def IntegerType.holds (t : IntegerType) (negative : Bool) (magnitude : Nat) : Bool :=
  if negative then
    if t.signed then magnitude ≤ 1 <<< (t.bits - 1) else magnitude == 0
  else magnitude < 1 <<< (if t.signed then t.bits - 1 else t.bits)

/-- An integer as written. -/
structure IntegerLiteral where
  negative : Bool
  magnitude : Nat
  /-- The type that a suffix asks for, if there is a suffix. -/
  suffix? : Option IntegerType
  deriving DecidableEq, Repr

/-- A value in a settings file. -/
inductive Value where
  /-- A truth value. -/
  | flag (b : Bool)
  /-- An integer. -/
  | integer (literal : IntegerLiteral)
  /-- A text. -/
  | text (s : String)
  /-- A record: its name, if it has one, and its fields in order. -/
  | record (name? : Option String) (fields : List (String × Value))
  /-- Any other value: a number with a fraction, a character, a list, a map and so on. -/
  | other

end ChatLobby.Settings
