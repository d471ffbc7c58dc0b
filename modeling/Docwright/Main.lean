import Docwright.Cache.Document
import Docwright.CommandLine
import Docwright.Disk.Changes
import Std.Time.DateTime.Timestamp

/-!
# The program

Takes the directory it is started in as its disk, with nothing beside the directories that lead there
from the root, carries out its command line there, and writes back what is new.  A link to a file is
taken as that file, and any other link is left out.  Databases are kept as documents.
-/

namespace Docwright

/-- What the bytes of a file are: a document is a database. -/
def contentOf (data : ByteArray) : Content :=
  let whole := data.toList
  match Text.Utf8.decode whole with
  | .ok text => ((Cache.Document.read? text).map Content.database).getD (.bytes whole)
  | .error _ => .bytes whole

/-- The bytes that a content is kept as. -/
def bytesOf : Content → ByteArray
  | .bytes data => ⟨data.toArray⟩
  | .database tables => (String.ofList ((Cache.Document.write? tables).getD [])).toUTF8

/-- A file, if it can be read. -/
def loadFile (entry : IO.FS.DirEntry) : IO (Option Node) := do
  try
    return some (.file (contentOf (← IO.FS.readBinFile entry.path)))
  catch _ => return none

/-- What a directory entry stands for, with all that is below it. -/
partial def load (entry : IO.FS.DirEntry) : IO (Option Node) := do
  match (← entry.path.symlinkMetadata).type with
  | .dir =>
    let mut entries : List (String × Node) := []
    for child in ← entry.path.readDir do
      if let some node ← load child then
        entries := (child.fileName, node) :: entries
    return some (.directory entries)
  | .file | .symlink => loadFile entry
  | .other => return none

/-- A node at the end of names that lead to nothing else. -/
def below : List String → Node → Node
  | [], node => node
  | name :: rest, node => .directory [(name, below rest node)]

/-- A path from the root. -/
def placeOf (names : List String) : String :=
  String.intercalate "/" ("" :: names)

/-- Makes a change on the disk of the machine. -/
def save : Disk.Change → IO Unit
  | .directory names => IO.FS.createDir (placeOf names)
  | .file names content => IO.FS.writeBinFile (placeOf names) (bytesOf content)

/-- A clock that goes on from the given time, a microsecond a timestamp. -/
def clockFrom (start : Std.Time.Timestamp) : CommandLine.Clock :=
  let micros := start.toNanosecondsSinceUnixEpoch.val / 1000
  fun n => (⟨⟨1970, 1, 1⟩, 0, 0, 0, 0, some 0⟩ : Timestamp).later (micros.toNat + n)

/-- The level of the diagnostic log that is shown. -/
def shownLevel : Nat := Log.Level.warning.rank

/-- Carries out a command line in the directory the program is started in. -/
def perform (argv : List String) : IO UInt32 := do
  let home := (Path.ofText (← IO.currentDir).toString).names
  let disk : Disk := ⟨below home ((← load ⟨".", "."⟩).getD (.directory [])), home⟩
  let outcome := CommandLine.run argv (clockFrom (← Std.Time.Timestamp.now)) disk
  (← IO.getStdout).putStr (String.ofList outcome.stdout)
  let stderr ← IO.getStderr
  for entry in outcome.writtenLogs shownLevel do
    stderr.putStrLn s!"{entry.level.name} {entry.text}"
  stderr.putStr outcome.stderr
  (Disk.changes disk outcome.disk).forM save
  match outcome.ending with
  | .ok code => return code.toUInt32
  | .error failure =>
    stderr.putStrLn failure.text
    return 1

end Docwright

/-- The program. -/
def main (argv : List String) : IO UInt32 :=
  Docwright.perform argv
