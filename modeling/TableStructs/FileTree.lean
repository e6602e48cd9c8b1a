import TableStructs.Path
import TableStructs.Text.Quoted

/-!
Files and directories, and what paths lead to. A tree says of every location whether there is a file
or a directory; relative paths begin at the tree's working directory. A path is walked step by
step, as it is given: each step, also a single dot, is taken from a directory, and a slash at the
end asks for a directory. Files go by the bytes of their names, so that two texts may name one file.

`entryAt_put_of_ne` says that putting an entry changes nothing elsewhere.
-/
namespace TableStructs

/-- The bytes of a name. -/
abbrev FileName := List UInt8

/-- The name that a part of a path stands for. -/
def FileName.ofText (part : Text) : FileName :=
  part.flatMap fun c => (Encoding.keptBytes? c).getD []

/-- A place in a tree: the names on the way from the root to it, the last one first. -/
abbrev Location := List FileName

/-- What is at a place. -/
inductive Entry
  | file (bytes : List UInt8)
  | directory
deriving DecidableEq

/-- Files and directories, with the place where relative paths begin. -/
structure FileTree where
  entryAt : Location → Option Entry
  here : Location

/-! ### What can go wrong with a path -/

/-- Why a path cannot be used. -/
inductive FileFault
  | missing
  | occupied
  | notDirectory
  | isDirectory
  | nameTooLong
deriving DecidableEq

namespace FileFault

/-- The number of the fault. -/
def number : FileFault → Nat
  | missing => 2
  | occupied => 17
  | notDirectory => 20
  | isDirectory => 21
  | nameTooLong => 36

/-- What is said about it. -/
def message : FileFault → Text
  | missing => "No such file or directory".toText
  | occupied => "File exists".toText
  | notDirectory => "Not a directory".toText
  | isDirectory => "Is a directory".toText
  | nameTooLong => "File name too long".toText

end FileFault

/-- A path that cannot be used. -/
structure FileError where
  fault : FileFault
  path : Text
deriving DecidableEq

/-- What is said about the path. -/
def FileError.message (e : FileError) : Text :=
  "[Errno ".toText ++ Text.decimal e.fault.number ++ "] ".toText ++ e.fault.message ++
    ": ".toText ++ Text.quoted e.path

namespace FileTree

/-- A tree with nothing but an empty working directory. -/
def empty : FileTree where
  here := [.ofText "work".toText]
  entryAt
    | [] => some .directory
    | [name] => if name = .ofText "work".toText then some .directory else none
    | _ => none

/-! ### Walking a path -/

/-- The number of bytes that a name may have. -/
def nameLimit : Nat := 255

/-- The number of bytes that a path has to stay below. -/
def pathLimit : Nat := 4096

/-- The place where a step from a directory leads. -/
def step (place : Location) (part : Text) : Location :=
  if part = [.char '.'] then place
  else if part = [.char '.', .char '.'] then place.tail
  else .ofText part :: place

/-- What is at a place. A name that is too long cannot be looked for. -/
def find (t : FileTree) (place : Location) : Except FileFault (Option Entry) :=
  if nameLimit < (place.headD []).length then .error .nameTooLong else .ok (t.entryAt place)

/-- The place that steps lead to from `place`. There may be nothing there, but all before it are
directories. -/
def walk (t : FileTree) (place : Location) : List Text → Except FileFault Location
  | [] => .ok place
  | part :: rest =>
    match t.find place with
    | .error fault => .error fault
    | .ok none => .error .missing
    | .ok (some (.file _)) => .error .notDirectory
    | .ok (some .directory) => t.walk (step place part) rest

/-- The place that a path leads to. An empty path leads nowhere, nor does one that has no bytes. -/
def locate (t : FileTree) (path : Text) : Except FileFault Location :=
  match Path.bytes path with
  | .error _ => .error .missing
  | .ok bytes =>
    if bytes.isEmpty then .error .missing
    else if pathLimit ≤ bytes.length then .error .nameTooLong
    else t.walk (if Path.isAbsolute path then [] else t.here) (Path.steps path)

/-! ### Reading and writing -/

/-- The tree with an entry put at a place. -/
def put (t : FileTree) (place : Location) (e : Entry) : FileTree :=
  { t with entryAt := fun l => if l = place then some e else t.entryAt l }

theorem entryAt_put_self (t : FileTree) (place : Location) (e : Entry) :
    (t.put place e).entryAt place = some e := by
  simp [put]

theorem entryAt_put_of_ne (t : FileTree) {place l : Location} (e : Entry) (h : l ≠ place) :
    (t.put place e).entryAt l = t.entryAt l := by
  simp [put, h]

/-- What is at the end of a path, which is no file if a slash ends the path. -/
def follow (t : FileTree) (path : Text) : Except FileFault (Option Entry) :=
  match (t.locate path).bind t.find with
  | .ok (some (.file bytes)) =>
    if Path.endsInSlash path then .error .notDirectory else .ok (some (.file bytes))
  | found => found

/-- What a path leads to, if it can be followed and there is something. -/
def look (t : FileTree) (path : Text) : Option Entry :=
  match t.follow path with
  | .ok entry => entry
  | .error _ => none

/-- The bytes of the file at a path. -/
def read (t : FileTree) (path : Text) : Except FileError (List UInt8) :=
  match t.follow path with
  | .error fault => .error ⟨fault, path⟩
  | .ok none => .error ⟨.missing, path⟩
  | .ok (some .directory) => .error ⟨.isDirectory, path⟩
  | .ok (some (.file bytes)) => .ok bytes

/-- The place for a file at a path. A slash at the end is refused before the place is looked at,
since a file cannot be made there. -/
def placeForFile (t : FileTree) (path : Text) : Except FileFault Location :=
  match t.locate path with
  | .error fault => .error fault
  | .ok place =>
    if Path.endsInSlash path then .error .isDirectory
    else match t.find place with
      | .error fault => .error fault
      | .ok (some .directory) => .error .isDirectory
      | .ok _ => .ok place

/-- The place for a new directory at a path, where nothing may be yet. -/
def placeForDirectory (t : FileTree) (path : Text) : Except FileFault Location :=
  match t.locate path with
  | .error fault => .error fault
  | .ok place =>
    match t.find place with
    | .error fault => .error fault
    | .ok (some _) => .error .occupied
    | .ok none => .ok place

/-- The tree with a file of the given bytes at a path, whose directory has to exist. -/
def write (t : FileTree) (path : Text) (bytes : List UInt8) : Except FileError FileTree :=
  match t.placeForFile path with
  | .error fault => .error ⟨fault, path⟩
  | .ok place => .ok (t.put place (.file bytes))

/-- The tree with a new directory at a path. -/
def makeDirectory (t : FileTree) (path : Text) : Except FileError FileTree :=
  match t.placeForDirectory path with
  | .error fault => .error ⟨fault, path⟩
  | .ok place => .ok (t.put place .directory)

end FileTree
end TableStructs
