import ChatLobby.FileTree
import ChatLobby.Settings.Parse
import ChatLobby.Settings.Written

/-!
# Settings in a directory

Settings live in one file of the configuration directory.  `loadOrCreate` writes the defaults if
there is no file yet, and `reload` says whether the file has come to differ.
-/

namespace ChatLobby.Settings

/-- The name of the settings file. -/
def fileName : String := "config.ron"

/-- Read the settings file of a directory. -/
def load (t : FileTree) (directory : Path) : Except SettingsError Settings := do
  let content ← (t.read (directory.child fileName)).mapError fun cause => .read (.system cause)
  match Bytes.toString? content with
  | none => throw (.read .invalidUtf8)
  | some text =>
    match ofText? text with
    | none => throw .parse
    | some settings => return settings

/-- Write the settings file of a directory, making the directory first if need be. -/
def save (s : Settings) (t : FileTree) (directory : Path) : Except SettingsError FileTree :=
  let written := do
    (← t.makeDirectories directory).write (directory.child fileName) (Bytes.ofString s.fileText)
  written.mapError fun cause => .write (.system cause)

/-- The settings of a directory; if there is no file, the defaults, which are then saved. -/
def loadOrCreate (t : FileTree) (directory : Path) : Except SettingsError (Settings × FileTree) :=
  if t.has (directory.child fileName) then
    (load t directory).map fun s => (s, t)
  else
    (save {} t directory).map fun t => ({}, t)

/-- Read the file again: the new settings, if they differ from `s`. -/
def reload (s : Settings) (t : FileTree) (directory : Path) :
    Except SettingsError (Option Settings) :=
  (load t directory).map fun fresh => if fresh = s then none else some fresh

end ChatLobby.Settings
