import ChatLobby.Endpoint.Address
import ChatLobby.Text.Pieces

/-!
# Reading socket addresses

The grammar of addresses with ports: `a.b.c.d:port`, or `[groups]:port` with an optional scope
number after a percent sign.  Octets are decimal without leading zeros, groups have one to four
hexadecimal digits, `::` stands for one zero group or more, and the last two groups may be given
in dotted form.
-/

namespace ChatLobby

open Text

namespace IPv4

/-- An octet: up to three decimal digits, at most 255, no leading zero. -/
def octet? (cs : List Char) : Option UInt8 :=
  if 3 < cs.length ∨ (cs.head? = some '0' ∧ 1 < cs.length) then none
  else ((numeral? 10 cs).filter (· < 256)).map UInt8.ofNat

/-- An address in dotted form. -/
def ofChars? (cs : List Char) : Option IPv4 :=
  match pieces '.' cs with
  | [a, b, c, d] => do
    return { a := ← octet? a, b := ← octet? b, c := ← octet? c, d := ← octet? d }
  | _ => none

end IPv4

namespace IPv6

/-- A group: one to four hexadecimal digits. -/
def group? (cs : List Char) : Option UInt16 :=
  if 4 < cs.length then none else (numeral? 16 cs).map UInt16.ofNat

/-- Groups from the pieces between colons.  The last piece may be in dotted form, if that is
allowed, and then counts for two groups. -/
def groupsOfPieces? (dottedTail : Bool) : List (List Char) → Option (List UInt16)
  | [] => some []
  | [piece] =>
    if dottedTail && piece.contains '.' then (IPv4.ofChars? piece).map IPv4.toGroups
    else (group? piece).map ([·])
  | piece :: rest => do
    let g ← group? piece
    let gs ← groupsOfPieces? dottedTail rest
    return g :: gs

/-- Groups with colons between them; an empty text has none. -/
def groups? (dottedTail : Bool) (cs : List Char) : Option (List UInt16) :=
  if cs.isEmpty then some [] else groupsOfPieces? dottedTail (pieces ':' cs)

/-- What stands before and after the first double colon, if there is one. -/
def splitGap? : List Char → Option (List Char × List Char)
  | ':' :: ':' :: after => some ([], after)
  | [] => none
  | c :: cs => (splitGap? cs).map fun (before, after) => (c :: before, after)

/-- The address with the given groups, if there are eight of them. -/
def ofGroups? (groups : List UInt16) : Option IPv6 :=
  if h : groups.length = 8 then some ⟨groups, h⟩ else none

/-- An address of eight groups, some of which `::` may stand for. -/
def ofChars? (cs : List Char) : Option IPv6 :=
  match splitGap? cs with
  | none => (groups? true cs).bind ofGroups?
  | some (before, after) => do
    let front ← groups? false before
    let back ← groups? true after
    if front.length + back.length < 8 then
      ofGroups? (front ++ List.replicate (8 - front.length - back.length) 0 ++ back)
    else none

end IPv6

namespace SocketAddress

/-- A port: decimal digits, at most 65535. -/
def port? (cs : List Char) : Option UInt16 :=
  ((numeral? 10 cs).filter (· < 65536)).map UInt16.ofNat

/-- A scope number: decimal digits, below 2 ^ 32. -/
def scope? (cs : List Char) : Option UInt32 :=
  ((numeral? 10 cs).filter (· < UInt32.size)).map UInt32.ofNat

/-- An address of eight groups, with or without a scope. -/
def scopedV6? (cs : List Char) : Option IPAddress :=
  match splitFirst? '%' cs with
  | none => (IPv6.ofChars? cs).map (.v6 · 0)
  | some (ip, scope) => do return .v6 (← IPv6.ofChars? ip) (← scope? scope)

/-- Read an address with its port. -/
def ofChars? : List Char → Option SocketAddress
  | '[' :: cs => do
    let (ip, after) ← splitFirst? ']' cs
    match after with
    | ':' :: port => return { ip := ← scopedV6? ip, port := ← port? port }
    | _ => none
  | cs => do
    let (ip, port) ← splitFirst? ':' cs
    return { ip := .v4 (← IPv4.ofChars? ip), port := ← port? port }

/-- Read an address with its port. -/
def ofText? (s : String) : Option SocketAddress := ofChars? s.toList

end SocketAddress

end ChatLobby
