import ChatLobby.Launch

/-!
# The files of the real system

The launch works on a `FileTree`.  Here the part of the real file system that it looks at is read
into one, and what it put there is written back.
-/

namespace ChatLobby.Shell

/-- A place as the system names it. -/
def placeText (place : Place) : String := place.path.text

/-- The number of an input or output error, if it has one. -/
def errorCode? : IO.Error → Option Nat
  | .alreadyExists _ code _ | .otherError code _ | .resourceBusy code _ | .resourceVanished code _
  | .unsupportedOperation code _ | .hardwareFault code _ | .unsatisfiedConstraints code _
  | .illegalOperation code _ | .protocolError code _ | .timeExpired code _
  | .interrupted _ code _ | .noFileOrDirectory _ code _ | .invalidArgument _ code _
  | .permissionDenied _ code _ | .resourceExhausted _ code _ | .inappropriateType _ code _
  | .noSuchThing _ code _ => some code.toNat
  | .unexpectedEof | .userError _ => none

/-- The system's error behind an input or output error, if it is one that is known.  The number
may have been negated, in 32 bits. -/
def systemError? (e : IO.Error) : Option SystemError :=
  (errorCode? e).bind fun n => SystemError.ofCode? (if n < UInt32.size / 2 then n else UInt32.size - n)

/-- What a user reads about an input or output error. -/
def errorText (e : IO.Error) : String :=
  match systemError? e with
  | some cause => (IoError.system cause).message
  | none => toString e

/-- What is at a place. -/
def probe (place : Place) : IO (Option FileEntry) := do
  try
    let content ← IO.FS.readBinFile (placeText place)
    return some (.file content.toList)
  catch e =>
    match systemError? e with
    | some .isADirectory => return some .directory
    | some .notFound | some .notADirectory | some .fileNameTooLong => return none
    | _ => throw e

/-- The working directory. -/
def workingDirectory : IO Place := do
  let path : Path := ⟨toString (← IO.currentDir)⟩
  return Place.root.stepAll path.names

/-- Read what the launch looks at: everything on the way to the settings file and the log file. -/
def snapshot (directory : Path) : IO FileTree := do
  let empty : FileTree := { workingDirectory := ← workingDirectory }
  let along (p : Path) : List Place := (empty.startOf p).along p.names
  let places := Place.root.along empty.workingDirectory.names
    ++ along (directory.child Settings.fileName) ++ along (Launch.logFileIn directory)
  let mut entries := []
  for place in places.eraseDups do
    if let some entry ← probe place then entries := (place, entry) :: entries
  return { empty with entries }

/-- Write one thing that the launch put into the tree. -/
def store (place : Place) : FileEntry → IO Unit
  | .directory => IO.FS.createDir (placeText place)
  | .file content => IO.FS.writeBinFile (placeText place) ⟨content.toArray⟩

end ChatLobby.Shell
