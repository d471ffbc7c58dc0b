/-!
# Paths

A path is a sequence of names, from a root or from where one stands.  Empty names and single points
are left out when a path is read; two points stay, for what they mean depends on links.  In the target
of a link what stands at the end counts as well (`Path.ofTarget`).  Two slashes at the beginning are a
root of their own, any other number of them is one.
-/

namespace Docwright

/-- A path: its root, which is empty for a relative one, and its names. -/
structure Path where
  root : String
  names : List String
  deriving DecidableEq, Repr

namespace Path

/-- A text, cut at slashes. -/
def cut : List Char → List (List Char)
  | [] => [[]]
  | '/' :: rest => [] :: cut rest
  | c :: rest =>
    match cut rest with
    | [] => [[c]]
    | part :: parts => (c :: part) :: parts

/-- The names in a text. -/
def namesOf (text : List Char) : List String :=
  ((cut text).filter fun part => part != [] && part != ['.']).map String.ofList

/-- The root of a text. -/
def rootOf (text : List Char) : String :=
  match (text.takeWhile (· == '/')).length with
  | 0 => ""
  | 2 => "//"
  | _ => "/"

/-- Reads a path. -/
def ofText (text : String) : Path :=
  ⟨rootOf text.toList, namesOf text.toList⟩

/-- Whether a name is a single point or two, and so stands for a directory that one has come through. -/
def isPoints (name : String) : Bool :=
  name == "." || name == ".."

/-- Reads the target of a link.  A slash or a point at its end asks for a directory, and so a point stays
at the end of the names. -/
def ofTarget (target : String) : Path :=
  let path := ofText target
  match (cut target.toList).getLast? with
  | some [] | some ['.'] => ⟨path.root, path.names ++ ["."]⟩
  | _ => path

/-- The text of a path; a relative path without names is a point. -/
def text (p : Path) : String :=
  if p.root.isEmpty && p.names.isEmpty then "." else p.root ++ String.intercalate "/" p.names

/-- A path from within a directory; one with a root stands for itself. -/
def append (directory p : Path) : Path :=
  if p.root.isEmpty then ⟨directory.root, directory.names ++ p.names⟩ else p

instance : HAppend Path Path Path := ⟨append⟩

/-- The names of the directory from which a path is followed, by one who stands in a directory: a path with a
root is followed from the top. -/
def base (p : Path) (here : List String) : List String :=
  if p.root.isEmpty then here else []

/-- The path of the directory that a path is in. -/
def parent (p : Path) : Path :=
  ⟨p.root, p.names.dropLast⟩

/-- Whether a path has a null character, which no file has in its name. -/
def hasNull (p : Path) : Bool :=
  p.names.any (·.toList.contains '\x00')

/-- What is left of a name from its last point on. -/
def fromLastPoint (name : List Char) : List Char :=
  let ending := (name.reverse.takeWhile (· != '.')).reverse
  '.' :: ending

/-- The suffix of a name: from its last point on, if that is neither the first nor the last
character. -/
def suffix (name : String) : String :=
  let cs := name.toList
  let ending := fromLastPoint cs
  if cs.contains '.' && ending.length < cs.length && 1 < ending.length then String.ofList ending
  else ""

end Path

end Docwright
