import ChatLobby.Text.Pieces

/-!
# Paths and places

A path is a text that names something in a file system; a place is where a path leads to.  Two
paths can lead to one place, and which operations a path can be used for depends on its text as
well: a text can be too long, wherever it leads.
-/

namespace ChatLobby

/-! ### Paths -/

/-- A path, as it is written. -/
structure Path where
  /-- Names with slashes between them. -/
  text : String
  deriving DecidableEq, Repr

namespace Path

/-- Whether a path starts at the root and not at the working directory. -/
def absolute (p : Path) : Bool := p.text.toList.head? == some '/'

/-- Names without the single dots that others follow.  A dot at the end is kept: what it stays in
must be a directory already. -/
def dropInnerDots : List String → List String
  | [] => []
  | name :: names =>
    if name = "." && !names.isEmpty then dropInnerDots names else name :: dropInnerDots names

/-- The names along a path: `..` leads back up, and `.` stays.  Empty names lead nowhere. -/
def names (p : Path) : List String :=
  dropInnerDots (((Text.pieces '/' p.text.toList).map String.ofList).filter fun name => name != "")

/-- The path to `name` in the directory that `p` leads to. -/
def child (p : Path) (name : String) : Path :=
  if p.text.isEmpty || p.text.toList.getLast? == some '/' then ⟨p.text ++ name⟩
  else ⟨p.text ++ "/" ++ name⟩

/-- How many bytes the text of a path can have. -/
def longestText : Nat := 4095

/-- Whether the text of a path is short enough for the system. -/
def isShort (p : Path) : Bool := p.text.utf8ByteSize ≤ longestText

end Path

/-! ### Places -/

/-- A place in a file system. -/
structure Place where
  /-- The names that lead to it from the root, the last one first. -/
  namesUp : List String := []
  /-- How many names lead to it, by which most places can be told apart. -/
  depth : Nat := namesUp.length
  depth_eq : depth = namesUp.length := by rfl
  deriving Repr

namespace Place

@[ext]
theorem ext {a b : Place} (h : a.namesUp = b.namesUp) : a = b := by
  cases a; cases b; simp_all

instance : DecidableEq Place := fun a b =>
  if hd : a.depth = b.depth then
    if hn : a.namesUp = b.namesUp then isTrue (ext hn)
    else isFalse fun h => hn (congrArg namesUp h)
  else isFalse fun h => hd (congrArg depth h)

/-- Where absolute paths start. -/
def root : Place := {}

/-- The place of a name in the directory at a place. -/
def inside (p : Place) (name : String) : Place where
  namesUp := name :: p.namesUp
  depth := p.depth + 1
  depth_eq := by simp [p.depth_eq]

/-- The directory around a place; the root is around itself. -/
def around (p : Place) : Place where
  namesUp := p.namesUp.tail
  depth := p.depth - 1
  depth_eq := by simp [p.depth_eq]

/-- The place that a name leads to from a place. -/
def step (p : Place) (name : String) : Place :=
  if name = ".." then p.around else if name = "." then p else p.inside name

/-- The place that names lead to from a place. -/
def stepAll (p : Place) (names : List String) : Place := names.foldl step p

/-- The places that are passed on the way along names, the last one included. -/
def along : Place → List String → List Place
  | _, [] => []
  | p, name :: names => p.step name :: along (p.step name) names

/-- The names that lead to a place from the root. -/
def names (p : Place) : List String := p.namesUp.reverse

/-- The names that lead to a place from the directory at another; `none` if it does not lie
there. -/
def namesFrom? (p top : Place) : Option (List String) :=
  let below := p.depth - top.depth
  if p.namesUp.drop below = top.namesUp then some (p.namesUp.take below).reverse else none

/-- The path that leads to a place from the root. -/
def path (p : Place) : Path := ⟨"/" ++ "/".intercalate p.names⟩

end Place

end ChatLobby
