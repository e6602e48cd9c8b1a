import TableStructs.Encoding.FileLines
import TableStructs.Encoding.Names
import TableStructs.Log
import TableStructs.Settings

/-!
What tools work on: files, the encodings that there are, the environment, the settings once they have
been read, and the log. An `Action` may change all but the encodings, and what it changed before a
failure stays changed.

Settings are remembered when they have been read without a failure, and only `forgetSettings` lets
the environment in again. A file is opened before its encoding is looked at, and opening a file
for writing empties it: a failed write leaves an empty file. A path and the name of an encoding are
handed on as bytes, which comes before all else: one with a surrogate that stands for no byte fails
there.
-/
namespace TableStructs

/-- What tools work on. -/
structure Workspace where
  files : FileTree := .empty
  /-- The encodings that there are. They may be any, by any names. -/
  encodings : Encoding.Registry := Encoding.ofName Encoding.Idna.asciiOnly
  environment : Environment := []
  /-- The settings, once they have been read. -/
  settings : Option Settings := none
  /-- What has been logged, in order. -/
  log : List Log.Record := []

/-- Work that may fail; what it did before stays done. -/
abbrev Action := EStateM Failure Workspace

namespace Action

/-! ### Settings and the log -/

/-- The settings, from the environment where none are remembered. -/
def getSettings : Action Settings := do
  match (← get).settings with
  | some settings => return settings
  | none =>
    match Settings.ofEnvironment (← get).environment with
    | .ok settings =>
      modify fun w => { w with settings := some settings }
      return settings
    | .error word => throw (.setting word)

/-- Makes the next reading of the settings look at the environment. -/
def forgetSettings : Action Unit := modify fun w => { w with settings := none }

/-- The number of the least level that is logged. -/
def getLevel : Action Nat := do
  match (← getSettings).level with
  | .ok n => return n
  | .error name => throw (.unknownLevel name)

/-- Logs records. -/
def note (records : List Log.Record) : Action Unit :=
  modify fun w => { w with log := w.log ++ records }

/-! ### Files -/

/-- The result of work on the files, or its failure. -/
def ofFiles {α : Type} (r : Except FileError α) : Action α :=
  match r with
  | .ok a => return a
  | .error e => throw (.file e)

/-- Why a path cannot be handed to the files, if it cannot. -/
def pathFailure? (path : Text) : Option Failure :=
  match Path.bytes path with
  | .error e => some (.encode e)
  | .ok _ => if path.contains '\x00' then some .zeroInPath else none

/-- A path that can be handed to the files. -/
def usablePath (path : Text) : Action Text :=
  match pathFailure? path with
  | some f => throw f
  | none => return path

/-- Why no encoding can be looked for by a name, if that is so: names are handed on in UTF-8. -/
def nameFailure? (name : Text) : Option Failure :=
  match Encoding.utf8.encode name with
  | .error e => some (.encode e)
  | .ok _ => none

/-- A name that an encoding can be looked for by. -/
def usableName (name : Text) : Action Text :=
  match nameFailure? name with
  | some f => throw f
  | none => return name

/-- The encoding with a name. -/
def getEncoding (name : Text) : Action Encoding := do
  match (← get).encodings name with
  | .ok encoding => return encoding
  | .error fault => throw (.encodingName fault name)

/-- The lines of a file. -/
def readLines (path encoding : Text) : Action Lines := do
  let encoding ← usableName encoding
  let path ← usablePath path
  let bytes ← ofFiles ((← get).files.read path)
  let encoding ← getEncoding encoding
  return encoding.fileLines bytes

/-- Makes a file of the given bytes. -/
def writeBytes (path : Text) (bytes : List UInt8) : Action Unit := do
  let path ← usablePath path
  let files ← ofFiles ((← get).files.write path bytes)
  modify fun w => { w with files }

/-- Makes a file of a text. -/
def writeText (path text encoding : Text) : Action Unit := do
  let path := Path.normal path
  let encoding ← usableName encoding
  writeBytes path []
  let encoding ← getEncoding encoding
  match encoding.write text with
  | .ok bytes => writeBytes path bytes
  | .error e => throw (.encode e)

end Action
end TableStructs
