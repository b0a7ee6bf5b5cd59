import ChatLobby.Bytes
import ChatLobby.IoError
import ChatLobby.Path

/-!
# Files and directories

The part of a file system that the server touches: a tree of directories and files, and the
directory that relative paths start from.  Every operation answers with the error of the system
if it cannot be done, and a failed one changes nothing.

* `read_write`: a file that was written is read back.
-/

namespace ChatLobby

/-- What a path can lead to. -/
inductive FileEntry where
  /-- A file with its content. -/
  | file (content : Bytes)
  /-- A directory. -/
  | directory
  deriving DecidableEq, Repr

/-- A tree of files and directories below a root. -/
structure FileTree where
  /-- What there is besides the root, each with its place. -/
  entries : List (Place × FileEntry) := []
  /-- The directory that relative paths start from. -/
  workingDirectory : Place := .root
  deriving DecidableEq, Repr

namespace FileTree

/-- What is at a place. -/
def entryAt (t : FileTree) (place : Place) : Option FileEntry :=
  if place = .root then some .directory else t.entries.lookup place

/-- Put something at a place, instead of what was there. -/
def put (t : FileTree) (place : Place) (entry : FileEntry) : FileTree :=
  { t with entries := (place, entry) :: t.entries.filter (·.1 != place) }

/-- How many bytes a name can have. -/
def longestName : Nat := 255

/-- Go along names from a place.  Every place but the last must be a directory. -/
def walk (t : FileTree) : Place → (names : List String) → Except SystemError Place
  | place, [] => .ok place
  | place, name :: names =>
    match t.entryAt place with
    | none => .error .notFound
    | some (.file _) => .error .notADirectory
    | some .directory =>
      if name.utf8ByteSize ≤ longestName then t.walk (place.step name) names
      else .error .fileNameTooLong

/-- Where a path starts. -/
def startOf (t : FileTree) (p : Path) : Place := if p.absolute then .root else t.workingDirectory

/-- The place that a path leads to, whether or not there is anything. -/
def locate (t : FileTree) (p : Path) : Except SystemError Place :=
  if p.isShort then t.walk (t.startOf p) p.names else .error .fileNameTooLong

/-- What a path leads to. -/
def find (t : FileTree) (p : Path) : Except SystemError FileEntry := do
  match t.entryAt (← t.locate p) with
  | some entry => return entry
  | none => throw .notFound

/-- Whether a path leads to anything. -/
def has (t : FileTree) (p : Path) : Bool := (t.find p).toBool

/-- The content of a file. -/
def read (t : FileTree) (p : Path) : Except SystemError Bytes := do
  match ← t.find p with
  | .file content => return content
  | .directory => throw .isADirectory

/-- Write a file, over the one that was there. -/
def write (t : FileTree) (p : Path) (content : Bytes) : Except SystemError FileTree := do
  let place ← t.locate p
  match t.entryAt place with
  | some .directory => throw .isADirectory
  | _ => return t.put place (.file content)

/-- Make one directory. -/
def makeDirectory (t : FileTree) (p : Path) : Except SystemError FileTree := do
  let place ← t.locate p
  match t.entryAt place with
  | some _ => throw .alreadyExists
  | none => return t.put place .directory

/-- Make directories along names from a place, unless they exist; `made` says that one was made
before.  A file on the way is found first where all before it exist, and stands in the way of a
directory to be made otherwise.  A dot at the end makes nothing: what it stays in must exist. -/
def makeAlong (t : FileTree) : (made : Bool) → Place → List String → Except SystemError FileTree
  | _, _, [] => .ok t
  | made, place, name :: names =>
    if name.utf8ByteSize ≤ longestName then
      let place := place.step name
      match t.entryAt place with
      | some .directory => t.makeAlong made place names
      | some (.file _) =>
        .error (if names.isEmpty || made && names != ["."] then .alreadyExists else .notADirectory)
      | none =>
        if names = ["."] then .error .notFound
        else (t.put place .directory).makeAlong true place names
    else .error .fileNameTooLong

/-- Make a directory with all those on the way to it, unless they exist. -/
def makeDirectories (t : FileTree) (p : Path) : Except SystemError FileTree :=
  if p.isShort then t.makeAlong false (t.startOf p) p.names else .error .fileNameTooLong

/-- The files, as the names that lead to them from a directory. -/
def filesBelow (t : FileTree) (top : Place) : List (List String) :=
  t.entries.filterMap fun (place, entry) =>
    match entry with
    | .file _ => place.namesFrom? top
    | .directory => none

/-- What there is in a tree and was not there before, oldest first. -/
def newEntries (before after : FileTree) : List (Place × FileEntry) :=
  (after.entries.filter fun entry => !before.entries.contains entry).reverse

/-! ### What was written -/

theorem lookup_filter_ne {place other : Place} (h : other ≠ place) :
    (entries : List (Place × FileEntry)) →
      (entries.filter (·.1 != place)).lookup other = entries.lookup other
  | [] => rfl
  | (first, entry) :: entries => by
    have ih := lookup_filter_ne h entries
    by_cases hn : first = place
    · subst hn
      have : (other == first) = false := by simpa using h
      simp [List.lookup_cons, ih, this]
    · simp only [List.filter_cons, bne_iff_ne, ne_eq, hn, not_false_eq_true, ↓reduceIte,
        List.lookup_cons, ih]

theorem entryAt_put_of_ne {t : FileTree} {place other : Place} (h : other ≠ place)
    (entry : FileEntry) : (t.put place entry).entryAt other = t.entryAt other := by
  have : (other == place) = false := by simpa using h
  simp [entryAt, put, List.lookup_cons, this, lookup_filter_ne h]

theorem entryAt_put_self {t : FileTree} {place : Place} (h : place ≠ .root) (entry : FileEntry) :
    (t.put place entry).entryAt place = some entry := by
  simp [entryAt, put, h]

/-- Putting something where there is no directory leads no path astray that led past it. -/
theorem walk_put {t : FileTree} {place target : Place} (entry : FileEntry)
    (h : t.entryAt place ≠ some .directory) :
    (names : List String) → {start : Place} → t.walk start names = .ok target →
      (t.put place entry).walk start names = .ok target
  | [], _, hw => hw
  | name :: names, start, hw => by
    simp only [walk] at hw ⊢
    have hs : t.entryAt start = some .directory := by
      split at hw <;> simp_all
    have hne : start ≠ place := fun heq => h (heq ▸ hs)
    rw [entryAt_put_of_ne hne, hs]
    rw [hs] at hw
    dsimp only at hw ⊢
    split
    · next hn => exact walk_put entry h names (by simpa [hn] using hw)
    · next hn => simp [hn] at hw

/-- Putting something where there is no directory leaves a path that led anywhere as it was. -/
theorem locate_put {t : FileTree} {place target : Place} (entry : FileEntry)
    (h : t.entryAt place ≠ some .directory) {p : Path} (hl : t.locate p = .ok target) :
    (t.put place entry).locate p = .ok target := by
  unfold locate at hl ⊢
  split at hl
  · next hs =>
    rw [if_pos hs]
    exact walk_put entry h p.names hl
  · exact absurd hl (by simp)

/-- A file that was written is read back. -/
theorem read_write {t t' : FileTree} {p : Path} {content : Bytes}
    (h : t.write p content = .ok t') : t'.read p = .ok content := by
  unfold write at h
  cases hl : t.locate p with
  | error e => simp [hl, bind, Except.bind] at h
  | ok place =>
    simp only [hl, bind, Except.bind] at h
    have hd : t.entryAt place ≠ some .directory := by
      intro hd
      simp [hd, throw, throwThe, MonadExceptOf.throw] at h
    have ht : t' = t.put place (.file content) := by
      split at h
      · next hd' => exact absurd hd' hd
      · simpa [pure, Except.pure] using h.symm
    have hne : place ≠ .root := by
      rintro rfl
      exact hd (by simp [entryAt])
    subst ht
    simp [read, find, locate_put _ hd hl, bind, Except.bind, entryAt_put_self hne, pure, Except.pure]

end FileTree

end ChatLobby
