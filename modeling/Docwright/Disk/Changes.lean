import Docwright.Disk

/-!
# What is new on a disk

`Disk.changes` lists the directories and files that one disk has and another has not, or has with
another content, each directory before what is in it.  Links are never new, and what was removed is
not listed.
-/

namespace Docwright.Disk

/-- A directory or a file, with the names that lead to it. -/
inductive Change
  | directory (names : List String)
  | file (names : List String) (content : Content)
  deriving DecidableEq, Repr

/-- A directory, if it is new. -/
def newDirectory (old : Disk) (names : List String) : List Change :=
  match old.top.at? names with
  | some (.directory _) => []
  | _ => [.directory names]

/-- A file, if it is new. -/
def newFile (old : Disk) (names : List String) (content : Content) : List Change :=
  match old.top.at? names with
  | some (.file c) => if c = content then [] else [.file names content]
  | _ => [.file names content]

mutual

/-- What is new in the node at the end of names. -/
def changesAt (old : Disk) (names : List String) : Node → List Change
  | .file content => newFile old names content
  | .directory entries => newDirectory old names ++ changesIn old names entries
  | .link _ => []

/-- What is new in the entries of the directory at the end of names. -/
def changesIn (old : Disk) (names : List String) : List (String × Node) → List Change
  | [] => []
  | (name, node) :: rest => changesAt old (names ++ [name]) node ++ changesIn old names rest

end

/-- What a disk has and an older one has not. -/
def changes (old new : Disk) : List Change :=
  changesAt old [] new.top

end Docwright.Disk
