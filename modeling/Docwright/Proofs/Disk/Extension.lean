import Docwright.Disk

/-!
# Trees that extend one another

`Node.Extends top top'` says that everything in a tree is also in another one, where
a file may hold something else.  Writing a file over a file or over nothing extends
the tree (`Node.extends_put`).  Disks extend one another if their trees do and the
program stands in one place (`Disk.Extends`).

Following a path looks at nothing but the kinds of what it meets.  So whatever
comes of it in a tree comes of it in an extension as well, except that what was
not found may be found there (`resolve_extends`).
-/

namespace Docwright

namespace Node

open Disk (Fault)

/-- What a node is, whatever a file or a directory holds. -/
inductive Kind
  | file
  | directory
  | link (target : String)
  deriving DecidableEq, Repr

/-- The kind of a node. -/
def kind : Node → Kind
  | file _ => .file
  | directory _ => .directory
  | link target => .link target

theorem isFile_of_kind {node node' : Node} (same : node.kind = node'.kind) :
    node.isFile = node'.isFile := by
  cases node <;> cases node' <;> first | rfl | cases same

theorem isDirectory_of_kind {node node' : Node} (same : node.kind = node'.kind) :
    node.isDirectory = node'.isDirectory := by
  cases node <;> cases node' <;> first | rfl | cases same

/-- The kind of what is at the end of names. -/
def kindAt (top : Node) (names : List String) : Option Kind :=
  (top.at? names).map kind

/-- Everything in a tree is also in another one, where files may hold something else. -/
def Extends (top top' : Node) : Prop :=
  ∀ names kind, top.kindAt names = some kind → top'.kindAt names = some kind

theorem Extends.refl (top : Node) : Extends top top := fun _ _ there => there

theorem Extends.trans {a b c : Node} (h : Extends a b) (k : Extends b c) : Extends a c :=
  fun names kind there => k names kind (h names kind there)

variable {top top' : Node} {names here : List String} {name : String}

theorem at?_append (top : Node) (here names : List String) :
    top.at? (here ++ names) = (top.at? here).bind (at? names) := by
  induction here generalizing top with
  | nil => rfl
  | cons first rest ih =>
      simp only [List.cons_append, at?]
      cases top.child? first with
      | none => rfl
      | some node => exact ih node

theorem kindAt_of_at? {node : Node} (found : top.at? names = some node) : top.kindAt names = some node.kind := by
  rw [kindAt, found]
  rfl

theorem kindAt_directory : top.kindAt here = some .directory ↔
    ∃ entries, top.at? here = some (directory entries) := by
  unfold kindAt
  cases top.at? here with
  | none => simp
  | some node => cases node <;> simp [kind]

/-- What is under a name in a directory. -/
theorem at?_snoc {entries : List (String × Node)} (there : top.at? here = some (directory entries)) :
    top.at? (here ++ [name]) = entries.lookup name := by
  rw [at?_append, there]
  simp only [Option.bind_some, at?, child?]
  cases entries.lookup name <;> rfl

theorem mem_of_lookup {entries : List (String × Node)} {node : Node}
    (found : entries.lookup name = some node) : (name, node) ∈ entries := by
  obtain ⟨front, back, rfl, -⟩ := List.lookup_eq_some_iff.mp found
  exact List.mem_append_right front List.mem_cons_self

/-- Only in a directory there is something under a name. -/
theorem kindAt_of_snoc {kind : Kind} (there : top.kindAt (here ++ [name]) = some kind) :
    top.kindAt here = some .directory := by
  rw [kindAt, at?_append] at there
  rw [kindAt_directory]
  cases at_ : top.at? here with
  | none => simp [at_] at there
  | some node =>
      cases node with
      | directory entries => exact ⟨entries, rfl⟩
      | file content => simp [at_, at?, child?] at there
      | link target => simp [at_, at?, child?] at there

/-- A tree in which something is a directory is one itself. -/
theorem kindAt_top (within : top.kindAt names = some .directory) : top.kindAt [] = some .directory := by
  cases names with
  | nil => exact within
  | cons name rest =>
      cases top with
      | directory entries => rfl
      | file content => cases within
      | link target => cases within

/-! ### Writing -/

theorem lookup_putEntry (q : String) (node : Node) (entries : List (String × Node)) :
    (putEntry name node entries).lookup q = if q = name then some node else entries.lookup q := by
  induction entries with
  | nil =>
      rw [putEntry]
      grind
  | cons entry rest ih =>
      obtain ⟨n, old⟩ := entry
      rw [putEntry]
      by_cases first : n = name <;> grind

theorem put_last (entries : List (String × Node)) (node : Node) :
    (directory entries).put [name] node = directory (putEntry name node entries) := rfl

theorem put_within {entries : List (String × Node)} {child node : Node} {next : String}
    {rest : List String} (there : entries.lookup name = some child) :
    (directory entries).put (name :: next :: rest) node =
      directory (putEntry name (child.put (next :: rest) node) entries) := by
  simp only [put, alter, there]

theorem put_nowhere {entries : List (String × Node)} {node : Node} {next : String}
    {rest : List String} (missing : entries.lookup name = none) :
    (directory entries).put (name :: next :: rest) node = directory entries := by
  simp only [put, alter, missing]

/-- Only in a directory something can be put. -/
theorem put_of_not_directory {node : Node} (other : top.kind ≠ .directory) :
    top.put names node = top := by
  cases top with
  | directory entries => exact absurd rfl other
  | file content => cases names with
    | nil => rfl
    | cons first rest => cases rest <;> rfl
  | link target => cases names with
    | nil => rfl
    | cons first rest => cases rest <;> rfl

theorem put_nil (node : Node) : top.put [] node = top := by
  cases top <;> rfl

/-- Behind a first name, nothing is put, or the tree changes below that name only: the node is put there
itself, or in what is there. -/
theorem put_cons_cases (top : Node) (first : String) (rest : List String) (node : Node) :
    top.put (first :: rest) node = top ∨ ∃ entries below, top = directory entries ∧
      top.put (first :: rest) node = directory (putEntry first below entries) ∧
      (rest = [] ∧ below = node ∨ ∃ child, entries.lookup first = some child ∧ below = child.put rest node) := by
  cases top with
  | file content => exact .inl (put_of_not_directory nofun)
  | link target => exact .inl (put_of_not_directory nofun)
  | directory entries =>
      cases rest with
      | nil => exact .inr ⟨entries, node, rfl, rfl, .inl ⟨rfl, rfl⟩⟩
      | cons next more =>
          cases found : entries.lookup first with
          | none => exact .inl (put_nowhere found)
          | some child => exact .inr ⟨entries, _, rfl, put_within found, .inr ⟨child, found, rfl⟩⟩

theorem putEntry_putEntry (old node : Node) (entries : List (String × Node)) :
    putEntry name node (putEntry name old entries) = putEntry name node entries := by
  induction entries with
  | nil => simp [putEntry]
  | cons entry rest ih =>
      obtain ⟨n, first⟩ := entry
      by_cases same : n = name <;> simp [putEntry, same, ih]

/-- Of two nodes put in one place the second one stays. -/
theorem put_put (old node : Node) : (top.put names old).put names node = top.put names node := by
  induction names generalizing top with
  | nil => simp only [put_nil]
  | cons first rest ih =>
      cases top with
      | file content =>
          have other : (file content).kind ≠ .directory := nofun
          simp only [put_of_not_directory other]
      | link target =>
          have other : (link target).kind ≠ .directory := nofun
          simp only [put_of_not_directory other]
      | directory entries =>
          cases rest with
          | nil => rw [put_last, put_last, put_last, putEntry_putEntry]
          | cons next more =>
              cases found : entries.lookup first with
              | none => rw [put_nowhere found]
              | some child =>
                  have found' : (putEntry first (child.put (next :: more) old) entries).lookup first =
                      some (child.put (next :: more) old) := by
                    rw [lookup_putEntry, if_pos rfl]
                  rw [put_within found, put_within found', put_within found, putEntry_putEntry, ih]

theorem putEntry_same {entries : List (String × Node)} {node : Node}
    (there : entries.lookup name = some node) :
    putEntry name node entries = entries := by
  induction entries with
  | nil => cases there
  | cons entry rest ih =>
      obtain ⟨n, old⟩ := entry
      by_cases same : n = name
      · subst same
        rw [List.lookup_cons, beq_self_eq_true] at there
        obtain rfl := Option.some.inj there
        rw [putEntry, beq_self_eq_true, if_pos rfl]
      · have other : (n == name) = false := by simpa using same
        have other' : (name == n) = false := by simpa using Ne.symm same
        rw [List.lookup_cons, other'] at there
        rw [putEntry, other, if_neg Bool.false_ne_true, ih there]

/-- Putting what is there changes nothing. -/
theorem put_same {node : Node} (there : top.at? names = some node) : top.put names node = top := by
  induction names generalizing top with
  | nil => exact put_nil node
  | cons first rest ih =>
      cases top with
      | file content => cases there
      | link target => cases there
      | directory entries =>
          rw [at?] at there
          obtain ⟨child, found, deeper⟩ := Option.bind_eq_some_iff.mp there
          have found : entries.lookup first = some child := found
          cases rest with
          | nil =>
              obtain rfl := Option.some.inj deeper
              rw [put_last, putEntry_same found]
          | cons next more => rw [put_within found, ih deeper, putEntry_same found]

/-- What was put in a directory is there. -/
theorem at?_put (node : Node) (there : top.kindAt here = some .directory) :
    (top.put (here ++ [name]) node).at? (here ++ [name]) = some node := by
  induction here generalizing top with
  | nil =>
      obtain ⟨entries, at_⟩ := kindAt_directory.mp there
      cases at_
      rw [List.nil_append, put_last]
      simp only [at?, child?, lookup_putEntry, if_true, Option.bind_some]
  | cons first rest ih =>
      obtain ⟨entries, at_⟩ := kindAt_directory.mp there
      cases top with
      | file content => cases at_
      | link target => cases at_
      | directory siblings =>
          simp only [at?, child?] at at_
          obtain ⟨child, found, at_⟩ := Option.bind_eq_some_iff.mp at_
          obtain ⟨next, more, split⟩ : ∃ next more, rest ++ [name] = next :: more := by
            cases rest with
            | nil => exact ⟨name, [], rfl⟩
            | cons next more => exact ⟨next, more ++ [name], rfl⟩
          have directory : child.kindAt rest = some .directory :=
            kindAt_directory.mpr ⟨entries, at_⟩
          have deeper := ih directory
          rw [List.cons_append, split, put_within found]
          rw [split] at deeper
          simp only [at?, child?, lookup_putEntry, if_true, Option.bind_some]
          exact deeper

theorem kindAt_cons {entries : List (String × Node)} :
    (directory entries).kindAt (name :: names) = (entries.lookup name).bind (·.kindAt names) := by
  simp only [kindAt, at?, child?]
  cases entries.lookup name <;> rfl

/-- Trees extend one another where they are directories and the entries do. -/
theorem extends_directory {entries entries' : List (String × Node)}
    (h : ∀ name child, entries.lookup name = some child →
      ∃ child', entries'.lookup name = some child' ∧ Extends child child') :
    Extends (directory entries) (directory entries') := by
  intro names kind there
  cases names with
  | nil => exact there
  | cons first rest =>
      rw [kindAt_cons] at there ⊢
      obtain ⟨child, found, deeper⟩ := Option.bind_eq_some_iff.mp there
      obtain ⟨child', found', further⟩ := h first child found
      rw [found', Option.bind_some]
      exact further rest kind deeper

theorem extends_file (content content' : Content) : Extends (file content) (file content') := by
  intro names kind there
  cases names with
  | nil => exact there
  | cons first rest => cases there

/-- Putting something in a directory is an extension if what is put there extends what was there. -/
theorem extends_put {node : Node} (onto : ∀ old, top.at? names = some old → Extends old node) :
    Extends top (top.put names node) := by
  induction names generalizing top with
  | nil =>
      rw [put_nil]
      exact .refl top
  | cons first rest ih =>
      obtain same | ⟨entries, below, rfl, made, put⟩ := put_cons_cases top first rest node
      · rw [same]
        exact .refl top
      · rw [made]
        -- below the first name the tree changes, under every other name it does not
        refine extends_directory fun other child found => ?_
        rw [lookup_putEntry]
        by_cases same : other = first
        · subst same
          refine ⟨below, if_pos rfl, ?_⟩
          obtain ⟨rfl, rfl⟩ | ⟨child', found', rfl⟩ := put
          · exact onto child (by simp [at?, child?, found])
          · obtain rfl := Option.some.inj (found.symm.trans found')
            refine ih fun old there => onto old ?_
            simp only [at?, child?, found, Option.bind_some]
            exact there
        · exact ⟨child, by rw [if_neg same, found], .refl child⟩

/-- Where something is put elsewhere, a file stays as it is. -/
theorem at?_put_elsewhere {content : Content} {node : Node} {others : List String}
    (there : top.at? names = some (file content)) (other : others ≠ names)
    (onto : ∀ old, top.at? others = some old → old.kind = .file) :
    (top.put others node).at? names = some (file content) := by
  induction others generalizing top names with
  | nil =>
      rw [put_nil]
      exact there
  | cons first rest ih =>
      obtain same | ⟨entries, below, rfl, made, put⟩ := put_cons_cases top first rest node
      · rw [same]
        exact there
      · rw [made]
        cases names with
        | nil => cases there
        | cons name more =>
            obtain ⟨child, found, deeper⟩ := Option.bind_eq_some_iff.mp there
            have found : entries.lookup name = some child := found
            simp only [at?, child?, lookup_putEntry]
            by_cases same : name = first
            · subst same
              rw [if_pos rfl, Option.bind_some]
              obtain ⟨rfl, rfl⟩ | ⟨child', reached, rfl⟩ := put
              · -- what is in the place is a file, so the file that stays would have to be that one
                have kind := onto child (by simp only [at?, child?, found, Option.bind_some])
                cases child with
                | directory entries' => cases kind
                | link target => cases kind
                | file content' =>
                    cases more with
                    | nil => exact absurd rfl other
                    | cons next more => cases deeper
              · obtain rfl := Option.some.inj (found.symm.trans reached)
                refine ih deeper (fun equal => other (by rw [equal])) fun old at_ => ?_
                refine onto old ?_
                rw [at?, show (directory entries).child? name = some child from found]
                exact at_
            · rw [if_neg same, found]
              exact deeper

end Node

/-! ### Disks -/

namespace Disk

variable {disk disk' : Disk} {names : List String}

/-- Everything on a disk is also on another one, where files may hold something else, and the program stands
in the same directory. -/
structure Extends (disk disk' : Disk) : Prop where
  home : disk'.home = disk.home
  top : Node.Extends disk.top disk'.top

theorem Extends.refl (disk : Disk) : Extends disk disk := ⟨rfl, .refl disk.top⟩

theorem Extends.trans {a b c : Disk} (h : Extends a b) (k : Extends b c) : Extends a c :=
  ⟨k.home.trans h.home, h.top.trans k.top⟩

@[simp] theorem put_top (disk : Disk) (names : List String) (node : Node) :
    (disk.put names node).top = disk.top.put names node := rfl

@[simp] theorem put_home (disk : Disk) (names : List String) (node : Node) :
    (disk.put names node).home = disk.home := rfl

theorem put_put (old node : Node) : (disk.put names old).put names node = disk.put names node := by
  rw [put, put_top, Node.put_put]
  rfl

theorem put_same {node : Node} (there : disk.top.at? names = some node) : disk.put names node = disk := by
  rw [put, Node.put_same there]

/-- Putting something in a directory is an extension if what is put there extends what was there. -/
theorem extends_put {node : Node} (onto : ∀ old, disk.top.at? names = some old → Node.Extends old node) :
    Extends disk (disk.put names node) :=
  ⟨rfl, Node.extends_put onto⟩

end Disk

end Docwright
