import ChatLobby.Log.Directive

/-!
# Log records

What the program logs, as a line for the user and as a line of the log file.
-/

namespace ChatLobby

/-- Something the program logs. -/
structure LogRecord where
  /-- How important it is. -/
  level : LogLevel
  /-- Which part of the program it comes from. -/
  target : String
  /-- What happened. -/
  message : String
  deriving DecidableEq, Repr

namespace LogRecord

/-- A character inside a quoted text of the log file. -/
def escapeChar (c : Char) : List Char :=
  if c == '"' || c == '\\' then ['\\', c]
  else if c.toNat < 0x20 then
    let digits := Nat.toDigits 16 c.toNat
    ['\\', 'u'] ++ List.replicate (4 - digits.length) '0' ++ digits
  else [c]

/-- A quoted text of the log file. -/
def quoted (s : String) : String :=
  String.ofList (['"'] ++ s.toList.flatMap escapeChar ++ ['"'])

/-- The level as it is printed. -/
def levelText (r : LogRecord) : String := r.level.text.toUpper

/-- The line of the log file, for a record that was made at the given time. -/
def fileLine (r : LogRecord) (time : String) : String :=
  "\x7b\"timestamp\":" ++ quoted time ++ ",\"level\":" ++ quoted r.levelText
    ++ ",\"fields\":\x7b\"message\":" ++ quoted r.message ++ "\x7d,\"target\":" ++ quoted r.target
    ++ "\x7d"

/-- The line for the user. -/
def consoleLine (r : LogRecord) (time : String) : String :=
  s!"{time} {r.levelText} {r.target}: {r.message}"

end LogRecord

end ChatLobby
