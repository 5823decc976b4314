import Roleplay.CommandLine.Run
import Std.Time

/-!
# The program

The outer layer of the program. It reads the files that a run looks at, has the run made, writes
back what is different afterwards and prints what is to be printed.

The service is not reached from here: a request is a line of the error output, and the document
with which the service answers is a line of the input.
-/

namespace Roleplay.Program

/-- The name of a place on the disk. -/
def nameOf (p : Place) : String :=
  String.ofList ('/' :: Text.join ['/'] p)

/-- What stands at a place of the disk put into the tree. -/
def readPlace (fs : FileTree) (p : Place) : IO FileTree := do
  let path := (← IO.currentDir) / nameOf p
  if ← path.isDir then return fs.put p .directory
  if ← path.pathExists then return fs.put p (.file (← IO.FS.readBinFile path).toList)
  return fs

/-- The place with the names of a path of the disk. -/
def placeOf (names : List String) : Place :=
  (names.filter (· ≠ "")).map String.toList

/-- What a path leads to put into the tree, with the directories above it and, when it is a
directory itself, everything in it. -/
def readPath (fs : FileTree) (path : Path) (isWhole : Bool) : IO FileTree := do
  let place := fs.aim path
  let mut fs := fs
  for n in List.range place.length do
    fs ← readPlace fs (place.take (n + 1))
  let root := (← IO.currentDir) / nameOf place
  if isWhole && (← root.isDir) then
    for found in ← root.walkDir do
      fs ← readPlace fs (placeOf found.components)
  return fs

/-- The files that a run looks at. -/
def readFiles (environment : Environment) (arguments : List Text) : IO FileTree := do
  let mut fs : FileTree := ⟨[], placeOf (← IO.currentDir).components⟩
  fs ← readPath fs .here false
  let config := (Config.ofEnvironment environment).toOption
  for path in Surroundings.paths environment arguments do
    fs ← readPath fs path (config.all fun c => path ≠ c.database.parent)
  return fs

/-- What is different in a tree of files written to the disk. -/
def writeFiles (before after : FileTree) : IO Unit := do
  for (p, node) in after.nodes do
    if before.node? p ≠ some node then
      match node with
      | .directory => IO.FS.createDirAll (nameOf p)
      | .file content => IO.FS.writeBinFile (nameOf p) ⟨content.toArray⟩
  for (p, _) in before.nodes do
    if after.node? p = none then IO.FS.removeFile (nameOf p)

/-- The environment. -/
def readEnvironment : IO Environment := do
  let mut found := []
  for name in Surroundings.environmentNames do
    if let some value ← IO.getEnv (String.ofList name) then
      found := found ++ [(name, value.toList)]
  return found

/-- The time. -/
def now : IO Moment := do
  let time := Std.Time.PlainDateTime.ofWallTime ((← Std.Time.Timestamp.now).toWallTime .zero)
  let mark := (← IO.getRandomBytes 3).toList.map fun b => Text.hex 2 b.toNat
  let text := fun pattern => (time.format pattern).toList
  return ⟨text "uuuuMMdd'T'HHmmssSSSSSS", text "uuuu-MM-dd'T'HH:mm:ss.SSSSSS" ++ "+00:00".toList,
    mark.flatten⟩

/-- A line of the error output. -/
def tell (t : Text) : IO Unit :=
  IO.eprintln (String.ofList t)

/-- What a report tells. -/
def printReport (r : Report) : IO Unit := do
  IO.print (String.ofList r.output)
  for e in r.errors do
    tell ((LogRecord.mk "roleplay" Surroundings.errorLevel e).line "%(levelname)s - %(message)s")
  if let some e := r.unexpected then tell ("unexpected failure ".toList ++ e.message)
  match r.advice with
  | some .help => IO.println (String.ofList usage)
  | some .misuse => tell usage
  | none => return

end Roleplay.Program

open Roleplay Program in
/-- The program. A run makes one request at most, so it is made again once there is an answer. -/
def main (arguments : List String) : IO UInt32 := do
  let arguments := arguments.map String.toList
  let environment ← readEnvironment
  let files ← readFiles environment arguments
  let moment ← now
  let runWith := fun answer =>
    let connect := fun name : Text =>
      (Connector.ofEnvironment environment (some name)).map (·.gateway answer)
    Surroundings.run ⟨environment, files, moment, connect⟩ arguments
  let mut report := runWith (.error "there is no answer")
  if let some request := report.requests.head? then
    tell (Json.write .ascii request.toJson)
    report := runWith (Connector.answerOf (← (← IO.getStdin).getLine).toList)
  writeFiles files report.files
  printReport report
  return report.status.toUInt32
