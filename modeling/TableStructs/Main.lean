import TableStructs.Json.Parser
import TableStructs.Server

/-!
The program: it serves the tools on standard input and output, one message a line, and logs to
standard error. The files that a call may touch are looked up before it and written after it; what
happens in between is `Server.answer`.
-/
namespace TableStructs.Main

/-- A location as a path from the root. Names that are no UTF-8 cannot be handed on. -/
def pathOf? (place : Location) : Option String :=
  String.fromUTF8? ⟨(place.reverse.flatMap fun name => 0x2F :: name).toArray⟩

/-- What is at a location on the disk. -/
def entryOnDisk (place : Location) : IO (Option Entry) := do
  let some path := pathOf? place | return none
  try
    let path ← IO.FS.realPath (if path.isEmpty then "/" else path)
    if ← path.isDir then return some .directory
    else return some (.file (← IO.FS.readBinFile path).toList)
  catch _ => return none

/-- The locations that a walk visits. -/
def visited (place : Location) : List Text → List Location
  | [] => [place]
  | part :: rest => place :: visited (FileTree.step place part) rest

/-- The locations that a path leads through. -/
def locations (here : Location) (path : Text) : List Location :=
  visited (if Path.isAbsolute path then [] else here) (Path.steps path)

/-- The paths among the arguments of a message. -/
def pathsIn (message : Json.Value) : List Text :=
  let arguments :=
    ((message.get? "params".toText).bind (·.get? "arguments".toText)).getD .null
  ["input_path", "output_file"].filterMap fun name =>
    match arguments.get? name.toText with
    | some (.str path) => if path.contains '\x00' then none else some path
    | _ => none

/-- The files on the disk at the given locations. -/
def snapshot (here : Location) (places : List Location) : IO FileTree := do
  let mut tree : FileTree := { here, entryAt := fun _ => none }
  for place in places do
    if let some entry ← entryOnDisk place then
      tree := tree.put place entry
  return tree

/-- Writes the files that differ from those looked up before. -/
def store (before after : FileTree) (places : List Location) : IO Unit := do
  for place in places do
    if before.entryAt place ≠ after.entryAt place then
      if let some (.file bytes) := after.entryAt place then
        if let some path := pathOf? place then
          IO.FS.writeBinFile path ⟨bytes.toArray⟩

/-- Bytes as a text where surrogates stand for bytes that are no UTF-8, behind bytes of a code point
that have begun. -/
def keptText (begun : List UInt8) (p : Encoding.Pending) : List UInt8 → Text
  | [] => begun.map kept
  | b :: rest =>
    match p.next b with
    | .char c => .char c :: keptText [] .nothing rest
    | .more p => keptText (begun ++ [b]) p rest
    | .wrong _ _ _ =>
      -- Of the bytes begun none can begin a code point again, but `b` can.
      begun.map kept ++
        match Encoding.Pending.first b with
        | .char c => .char c :: keptText [] .nothing rest
        | .more p => keptText [b] p rest
        | .wrong _ _ _ => kept b :: keptText [] .nothing rest
where
  /-- The surrogate for a byte from 0x80 on. -/
  kept (b : UInt8) : CodePoint := .ofNat (0xDC00 + b.toNat)

/-- The environment of the program. -/
def environment : IO Environment := do
  let bytes ← IO.FS.readBinFile "/proc/self/environ"
  return (Text.split '\x00' (keptText [] .nothing bytes.toList)).filterMap fun entry =>
    (Text.after? [.char '='] entry).map fun value => (entry.takeWhile (· ≠ .char '='), value)

/-- Prints the records that matter enough. -/
def printLog (level : Nat) (log : List Log.Record) : IO Unit := do
  for r in log do
    if level ≤ r.level.number then
      IO.eprintln
        (Text.display (r.level.name ++ " ".toText ++ r.source.name ++ ": ".toText ++ r.message))

/-- The response to a call whose output file could not be written. -/
def unwritten (message : Json.Value) (e : IO.Error) : Json.Value :=
  Server.response ((message.get? "id".toText).getD .null)
    (.ok (Server.callResult e.toString.toText true))

/-- Answers one message. -/
def handle (here : Location) (level : Nat) (w : Workspace) (message : Json.Value) :
    IO Workspace := do
  let places := (pathsIn message).flatMap (locations here)
  let files ← snapshot here places
  match (Server.answer {} message).run { w with files, log := [] } with
  | .ok response after =>
    printLog level after.log
    let response ←
      try
        store files after.files places
        pure response
      catch e => pure (response.map fun _ => unwritten message e)
    if let some response := response then
      let output ← IO.getStdout
      output.putStrLn (Text.display (Json.print response))
      output.flush
    return after
  | .error _ after => return after

/-- Answers messages up to the end of the input. -/
partial def serve (here : Location) (level : Nat) (w : Workspace) : IO Unit := do
  let line ← (← IO.getStdin).getLine
  if line.isEmpty then return
  let w ←
    match Json.parse? line.toText with
    | some message => handle here level w message
    | none => pure w
  serve here level w

end TableStructs.Main

/-- Serves the tools with the settings of the environment. -/
def main : IO UInt32 := do
  let here := ((← IO.currentDir).toString.splitOn "/").filter (· ≠ "")
  let w : TableStructs.Workspace := { environment := ← TableStructs.Main.environment }
  match TableStructs.Action.getLevel.run w with
  | .error f _ =>
    IO.eprintln (TableStructs.Text.display f.message)
    return 1
  | .ok level w =>
    TableStructs.Main.serve (here.reverse.map (·.toUTF8.toList)) level w
    return 0
