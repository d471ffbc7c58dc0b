import Docwright.Cache.Tables
import Docwright.Path
import Docwright.Text.Quoted

/-!
# Files and directories

The files a build works with: a tree of directories with files and symbolic links in it, and the
directory of it in which the program stands.  A path is followed name by name and through links
(`Node.resolve`): one with a root from the top of the tree, any other from where the program stands,
and the target of a link from the directory that the link is in.  Nothing is above the top.

A file holds bytes or the tables of a database.
-/

namespace Docwright

/-- What a file holds. -/
inductive Content
  | bytes (data : List UInt8)
  | database (tables : Cache.Tables)
  deriving DecidableEq, Repr

/-- The bytes that every database begins with. -/
def Content.databaseMark : List UInt8 :=
  "SQLite format 3\x00".toUTF8.toList

/-- The bytes of a file; of a database only the mark is known. -/
def Content.data : Content → List UInt8
  | bytes data => data
  | database _ => databaseMark

/-- What a name in a directory stands for. -/
inductive Node
  | file (content : Content)
  | directory (entries : List (String × Node))
  | link (target : String)

namespace Disk

/-- Why a path cannot be used. -/
inductive Fault
  | notFound
  | exists
  | notDirectory
  | isDirectory
  | nameTooLong
  | tooManyLinks
  deriving DecidableEq, Repr

/-- The number of a fault. -/
def Fault.number : Fault → Nat
  | notFound => 2
  | «exists» => 17
  | notDirectory => 20
  | isDirectory => 21
  | nameTooLong => 36
  | tooManyLinks => 40

/-- The words for a fault. -/
def Fault.message : Fault → String
  | notFound => "No such file or directory"
  | «exists» => "File exists"
  | notDirectory => "Not a directory"
  | isDirectory => "Is a directory"
  | nameTooLong => "File name too long"
  | tooManyLinks => "Too many levels of symbolic links"

/-- A fault and the path it is about, in words. -/
def Fault.describe (fault : Fault) (path : Path) : String :=
  s!"[Errno {fault.number}] {fault.message}: {String.ofList (Text.quoted path.text.toList)}"

end Disk

namespace Node

open Disk (Fault)

/-- The greatest length of a name, in bytes. -/
def nameLimit : Nat := 255

/-- The greatest length of a path, in bytes. -/
def pathLimit : Nat := 4095

/-- How many links are followed on the way to a file. -/
def linkLimit : Nat := 40

/-- What is under a name, if this is a directory. -/
def child? (name : String) : Node → Option Node
  | directory entries => entries.lookup name
  | _ => none

/-- What is at the end of names, none of which is a link or leads upwards. -/
def at? : List String → Node → Option Node
  | [], node => some node
  | name :: rest, node => (node.child? name).bind (at? rest)

/-- Whether this is a directory. -/
def isDirectory : Node → Bool
  | directory _ => true
  | _ => false

/-- Whether this is a file. -/
def isFile : Node → Bool
  | file _ => true
  | _ => false

/-- The names of entries with one entry put in, in the place of the one of the same name. -/
def putEntry (name : String) (node : Node) : List (String × Node) → List (String × Node)
  | [] => [(name, node)]
  | (n, old) :: rest => if n == name then (n, node) :: rest else (n, old) :: putEntry name node rest

/-- A tree with what is at the end of names changed; names that are not there are made, and none for
what the change leaves nothing of. -/
def alter (change : Option Node → Option Node) : List String → Node → Node
  | [name], directory entries =>
    match change (entries.lookup name) with
    | some node => directory (putEntry name node entries)
    | none => directory (entries.filter (·.1 != name))
  | name :: rest, directory entries =>
    match entries.lookup name with
    | some node => directory (putEntry name (alter change rest node) entries)
    | none => directory entries
  | _, node => node

/-- A tree with a node put at the end of names. -/
def put (top : Node) (names : List String) (node : Node) : Node :=
  alter (fun _ => some node) names top

/-! ### Following paths -/

/-- Where points lead from a directory: two of them lead upwards, but not from the top. -/
def throughPoints (name : String) (here : List String) : List String :=
  if name == ".." then here.dropLast else here

/-- The names from the top to what names lead to, from a directory on.  `follow` says what a link leads to,
from the directory that it is in and with the names that come after it. -/
def resolveWith (top : Node) (follow : Path → List String → List String → Except Fault (List String))
    (here names : List String) : Except Fault (List String) :=
  match names with
  | [] => .ok here
  | name :: rest =>
    match top.at? here with
    | some (directory entries) =>
      if Path.isPoints name then resolveWith top follow (throughPoints name here) rest
      else if nameLimit < name.utf8ByteSize then .error .nameTooLong
      else
        match entries.lookup name with
        | none => .error .notFound
        | some (link target) => follow (Path.ofTarget target) here rest
        | some _ => resolveWith top follow (here ++ [name]) rest
    | _ => .error .notDirectory

/-- The names from the top to what names lead to, from a directory on, where so many links may be
followed. -/
def resolve (top : Node) : Nat → List String → List String → Except Fault (List String)
  | 0 => resolveWith top fun _ _ _ => .error .tooManyLinks
  | links + 1 => resolveWith top fun path here rest =>
    resolve top links (path.base here) (path.names ++ rest)

end Node

/-- A disk: the tree of what is on it, and the names from the top to the directory in which the program
stands. -/
structure Disk where
  top : Node
  home : List String

namespace Disk

/-- The disk of a program that stands in a directory with these entries, which is the only one at the
top. -/
def directory (entries : List (String × Node)) : Disk :=
  ⟨.directory [("work", .directory entries)], ["work"]⟩

/-- The directory in which the program stands. -/
def here (disk : Disk) : Node :=
  (disk.top.at? disk.home).getD (.directory [])

instance : Coe Disk Node := ⟨here⟩

/-- A disk with a node put at the end of names. -/
def put (disk : Disk) (names : List String) (node : Node) : Disk :=
  { disk with top := disk.top.put names node }

/-- The names from the top to what a path leads to. -/
def locate (disk : Disk) (path : Path) : Except Fault (List String) :=
  if Node.pathLimit < path.text.utf8ByteSize then .error .nameTooLong
  else
    match disk.top.at? (path.base disk.home) with
    | some (.directory _) => disk.top.resolve Node.linkLimit (path.base disk.home) path.names
    | _ => .error .notFound

/-- What a path leads to. -/
def find (disk : Disk) (path : Path) : Except Fault Node := do
  match disk.top.at? (← disk.locate path) with
  | some node => .ok node
  | none => .error .notFound

/-- Asks about what a path leads to.  Where it leads nowhere the answer is no; only a name that is
too long is a fault. -/
def ask (disk : Disk) (path : Path) (test : Node → Bool) : Except Fault Bool :=
  if path.hasNull then .ok false
  else
    match disk.find path with
    | .ok node => .ok (test node)
    | .error .nameTooLong => .error .nameTooLong
    | .error _ => .ok false

/-- Whether a path leads to a directory. -/
def leadsToDirectory (disk : Disk) (path : Path) : Bool :=
  match disk.ask path Node.isDirectory with
  | .ok answer => answer
  | .error _ => false

/-- What the file at the end of a path holds. -/
def contentAt (disk : Disk) (path : Path) : Except Fault Content := do
  match ← disk.find path with
  | .file content => .ok content
  | .directory _ => .error .isDirectory
  | .link _ => .error .tooManyLinks

/-- The bytes of the file at the end of a path. -/
def read (disk : Disk) (path : Path) : Except Fault (List UInt8) :=
  (disk.contentAt path).map Content.data

/-! ### Changes -/

/-- The names of a new entry at the end of a path. -/
def place (disk : Disk) (path : Path) : Except Fault (List String) :=
  if Node.pathLimit < path.text.utf8ByteSize then .error .nameTooLong
  else do
    let directory ← disk.locate path.parent
    match disk.top.at? directory, path.names.getLast? with
    | some (.directory entries), some name =>
      if Node.nameLimit < name.utf8ByteSize then .error .nameTooLong
      else if Path.isPoints name || (entries.lookup name).isSome then .error .exists
      else .ok (directory ++ [name])
    | some (.directory _), none => .error .exists
    | _, _ => .error .notDirectory

/-- Where a file is opened for writing: at the file at the end of a path, or at a new one. -/
def fileForWriting (disk : Disk) (path : Path) : Except Fault (List String) :=
  match disk.locate path with
  | .ok names =>
    match disk.top.at? names with
    | some (.directory _) => .error .isDirectory
    | _ => .ok names
  | .error .notFound => disk.place path
  | .error fault => .error fault

/-- Writes a file. -/
def write (disk : Disk) (path : Path) (content : Content) : Except Fault Disk := do
  .ok (disk.put (← disk.fileForWriting path) (.file content))

/-- Makes a directory. -/
def makeDirectory (disk : Disk) (path : Path) : Except Fault Disk := do
  .ok (disk.put (← disk.place path) (.directory []))

/-- A disk after directories were to be made, and the fault that ended that, with the path it is
about.  What was made before the fault stays. -/
structure Made where
  disk : Disk
  fault : Option (Fault × Path)

/-- Makes a directory, unless it is there. -/
def makeDirectoryOnce (disk : Disk) (path : Path) : Made :=
  match disk.makeDirectory path with
  | .ok disk => ⟨disk, none⟩
  | .error fault => ⟨disk, if disk.leadsToDirectory path then none else some (fault, path)⟩

/-- Makes the directory at the end of the first `count` names of a path, and those above it as far
as they are missing. -/
def ensureDirectories (disk : Disk) (path : Path) : Nat → Made
  | 0 => makeDirectoryOnce disk ⟨path.root, []⟩
  | count + 1 =>
    let here : Path := ⟨path.root, path.names.take (count + 1)⟩
    match disk.makeDirectory here with
    | .error .notFound =>
      match ensureDirectories disk path count with
      | ⟨disk, none⟩ => makeDirectoryOnce disk here
      | stopped => stopped
    | _ => makeDirectoryOnce disk here

/-- Makes directories, all or none of which count. -/
def makeDirectories (disk : Disk) (path : Path) (count : Nat) : Except (Fault × Path) Disk :=
  match ensureDirectories disk path count with
  | ⟨disk, none⟩ => .ok disk
  | ⟨_, some fault⟩ => .error fault

/-- Writes a file, together with the directories above it. -/
def writeWithin (disk : Disk) (path : Path) (content : Content) : Except (Fault × Path) Disk := do
  let disk ← makeDirectories disk path.parent path.parent.names.length
  match disk.write path content with
  | .ok disk => .ok disk
  | .error fault => .error (fault, path)

/-- Makes a symbolic link, together with the directories above it. -/
def makeLink (disk : Disk) (path : Path) (target : String) : Except (Fault × Path) Disk := do
  let disk ← makeDirectories disk path.parent path.parent.names.length
  match disk.place path with
  | .ok names => .ok (disk.put names (.link target))
  | .error fault => .error (fault, path)

/-- Removes what is at the end of a path: a file, a link, or a directory with all it holds. -/
def remove (disk : Disk) (path : Path) : Disk :=
  match disk.locate path.parent, path.names.getLast? with
  | .ok names, some name =>
    { disk with top := Node.alter (fun _ => none) (names ++ [name]) disk.top }
  | _, _ => disk

end Disk

end Docwright
