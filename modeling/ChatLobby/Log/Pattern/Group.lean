import ChatLobby.Log.Pattern.Flags
import ChatLobby.Text.Alphanumeric
import ChatLobby.Text.Pieces

/-!
# Openings of groups

An opening parenthesis begins a group, which may have a name or flags of its own; or it changes the
flags for what follows it in the group around it.
-/

namespace ChatLobby.Pattern

/-- What an opening parenthesis begins. -/
inductive Opening where
  /-- A group in which the flags hold, with its name if it has one. -/
  | group (flags : Flags) (name : Option (List Char))
  /-- No group, but flags for what follows. -/
  | flags (flags : Flags)
  deriving DecidableEq, Repr

/-- Whether the characters are the name of a group. -/
def isGroupName : List Char → Bool
  | [] => false
  | c :: cs =>
    (c == '_' || Text.isAlphabetic c)
      && cs.all fun c => "_.[]".toList.contains c || Text.isAlphanumeric c

/-- Read the name of a group up to its closing angle. -/
def groupName? (cs : List Char) : Option (List Char × List Char) :=
  (Text.splitFirst? '>' cs).filter fun (name, _) => isGroupName name

/-- Read what follows an opening parenthesis.  A pattern cannot look ahead or back. -/
def opening? (flags : Flags) (cs : List Char) : Option (Opening × List Char) :=
  match flags.skip cs with
  | '?' :: '=' :: _ | '?' :: '!' :: _ | '?' :: '<' :: '=' :: _ | '?' :: '<' :: '!' :: _ => none
  | '?' :: 'P' :: '<' :: cs | '?' :: '<' :: cs =>
    (groupName? cs).map fun (name, rest) => (.group flags name, rest)
  | '?' :: cs => do
    let letters := cs.takeWhile fun c => c != ':' && c != ')'
    let inside ← flags.change? letters
    match cs.drop letters.length with
    | ':' :: rest => return (.group inside none, rest)
    | ')' :: rest => if letters.isEmpty then none else return (.flags inside, rest)
    | _ => none
  | cs => some (.group flags none, cs)

end ChatLobby.Pattern
