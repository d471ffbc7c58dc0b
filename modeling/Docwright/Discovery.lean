import Docwright.Failure
import Docwright.Sorting

/-!
# Which files are built

`run` lists the files below a directory whose names end in one of the given suffixes.  Everything below
it is gone through, but only real directories are entered, and of each entry it is asked whether it is a
file or a link that leads to one.  Where an entry cannot be asked about there is no list.

The list is in the order of the characters of the whole paths, so it does not depend on the order of
the entries in a directory.
-/

namespace Docwright.Discovery

/-- A suffix, with a point in front if it has none. -/
def pointed (extension : String) : String :=
  if extension.toList.head? = some '.' then extension else "." ++ extension

mutual

/-- The names of everything below a node that is reached by the names `here`: the entries of a directory,
and then what is below each of them. -/
def entriesBelow (here : List String) : Node → List (List String)
  | .directory entries => entries.map (here ++ [·.1]) ++ entriesAmong here entries
  | _ => []

/-- The names of everything below entries. -/
def entriesAmong (here : List String) : List (String × Node) → List (List String)
  | [] => []
  | (name, node) :: rest => entriesBelow (here ++ [name]) node ++ entriesAmong here rest

end

/-- Whether the last of names has one of the suffixes. -/
def hasSuffix (suffixes names : List String) : Bool :=
  match names.getLast? with
  | some name => suffixes.contains (Path.suffix name)
  | none => false

/-- Names, joined by slashes. -/
def joined (names : List String) : String :=
  String.intercalate "/" names

/-- The path of an entry below a root. -/
def pathOf (root : Path) (names : List String) : Path :=
  root ++ (⟨"", names⟩ : Path)

/-- Whether an entry is a file or leads to one. -/
def leadsToFile (disk : Disk) (root : Path) (names : List String) : Bool :=
  match disk.ask (pathOf root names) Node.isFile with
  | .ok answer => answer
  | .error _ => false

/-- What keeps an entry from being asked about. -/
def obstacle? (disk : Disk) (root : Path) (names : List String) : Option Failure :=
  match disk.ask (pathOf root names) Node.isFile with
  | .ok _ => none
  | .error fault => some (.disk fault (pathOf root names))

/-- The paths of those entries that are files and have one of the suffixes. -/
def select (disk : Disk) (root : Path) (suffixes : List String) (entries : List (List String)) :
    List String :=
  let files := entries.filter (leadsToFile disk root)
  Sorting.sort (· ≤ ·) ((files.filter (hasSuffix suffixes)).map joined)

/-- Everything below a root, if that is a directory. -/
def entries (disk : Disk) (root : Path) : List (List String) :=
  match disk.find root with
  | .ok node => entriesBelow [] node
  | .error _ => []

/-- The files below a directory that have one of the extensions, by their paths from there, unless the
directory or something below it cannot be asked about. -/
def run (disk : Disk) (root : Path) (extensions : List String) : Except Failure (List String) :=
  match disk.ask root Node.isDirectory with
  | .error fault => .error (.disk fault root)
  | .ok false => .ok []
  | .ok true =>
    match (entries disk root).findSome? (obstacle? disk root) with
    | some failure => .error failure
    | none => .ok (select disk root (extensions.map pointed) (entries disk root))

/-- The files below a directory, and none where these cannot be told. -/
def discover (disk : Disk) (root : Path) (extensions : List String) : List String :=
  match run disk root extensions with
  | .ok paths => paths
  | .error _ => []

/-- The entry of the log for a discovery. -/
def entry (root : Path) (paths : List String) : Log.Entry :=
  ⟨.debug, .discovery, s!"Discovered files (root_path={root.text} count={paths.length})"⟩

end Docwright.Discovery
