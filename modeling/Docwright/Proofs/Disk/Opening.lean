import Docwright.Proofs.Disk.Following

/-!
# Opening files for writing

A path is opened for writing at the file that it leads to, or at a new name in the
directory above it (`Opened`).  A file that is written there extends the tree, so
every path that was opened there before is opened there again
(`fileForWriting_put`), and finds what was written (`Opened.at?_put`).
-/

namespace Docwright.Disk

open Node (Real kindAt_directory)

variable {disk disk' : Disk} {path : Path} {names : List String}

/-- Where a path leads that is not too long, from a directory. -/
theorem locate_eq (fits : ¬ Node.pathLimit < path.text.utf8ByteSize)
    (within : disk.top.kindAt (path.base disk.home) = some .directory) :
    disk.locate path = disk.top.resolve Node.linkLimit (path.base disk.home) path.names := by
  obtain ⟨entries, at_⟩ := kindAt_directory.mp within
  rw [locate, if_neg fits, at_]

theorem locate_ok (located : disk.locate path = .ok names) :
    ¬ Node.pathLimit < path.text.utf8ByteSize ∧ disk.top.kindAt (path.base disk.home) = some .directory ∧
      disk.top.resolve Node.linkLimit (path.base disk.home) path.names = .ok names := by
  unfold locate at located
  split at located
  · cases located
  · next fits =>
      split at located
      · next entries at_ => exact ⟨fits, kindAt_directory.mpr ⟨entries, at_⟩, located⟩
      · cases located

/-- Where a path leads to on a disk, it leads to on an extension. -/
theorem locate_extends (grown : Extends disk disk') (found : disk.locate path ≠ .error .notFound) :
    disk'.locate path = disk.locate path := by
  by_cases fits : Node.pathLimit < path.text.utf8ByteSize
  · rw [locate, locate, if_pos fits, if_pos fits]
  · by_cases within : disk.top.kindAt (path.base disk.home) = some .directory
    · have within' : disk'.top.kindAt (path.base disk'.home) = some .directory := by
        rw [grown.home]
        exact grown.top _ _ within
      rw [locate_eq fits within] at found
      rw [locate_eq fits within, locate_eq fits within', grown.home]
      exact Node.resolve_extends grown.top (by rw [within]; exact Option.some_ne_none _) found
    · refine absurd ?_ found
      rw [locate, if_neg fits]
      split
      · next entries at_ => exact absurd (kindAt_directory.mpr ⟨entries, at_⟩) within
      · rfl

/-- A path that leads to names leads to them on an extension. -/
theorem locate_ok_extends (grown : Extends disk disk') (located : disk.locate path = .ok names) :
    disk'.locate path = .ok names := by
  rw [locate_extends grown (by rw [located]; rintro ⟨⟩), located]

/-- A path leads to a file or a directory. -/
theorem locate_real (located : disk.locate path = .ok names) : disk.top.Real names := by
  obtain ⟨-, within, resolved⟩ := locate_ok located
  exact .of_resolve (.inl within) resolved

/-- A new name in a directory, and the path whose place it is. -/
structure Placed (disk : Disk) (path : Path) (here : List String) (name : String) : Prop where
  fits : ¬ Node.pathLimit < path.text.utf8ByteSize
  parent : disk.locate path.parent = .ok here
  last : path.names.getLast? = some name
  within : disk.top.kindAt here = some .directory
  short : ¬ Node.nameLimit < name.utf8ByteSize
  down : ¬ Path.isPoints name
  nothing : disk.top.at? (here ++ [name]) = none

/-- The place of a path, from the directory above it. -/
theorem place_eq {here : List String} (fits : ¬ Node.pathLimit < path.text.utf8ByteSize)
    (parent : disk.locate path.parent = .ok here) :
    disk.place path =
      match disk.top.at? here, path.names.getLast? with
      | some (.directory entries), some name =>
        if Node.nameLimit < name.utf8ByteSize then .error .nameTooLong
        else if Path.isPoints name || (entries.lookup name).isSome then .error .exists
        else .ok (here ++ [name])
      | some (.directory _), none => .error .exists
      | _, _ => .error .notDirectory := by
  rw [place, if_neg fits, parent]
  rfl

theorem placed (h : disk.place path = .ok names) :
    ∃ here name, names = here ++ [name] ∧ Placed disk path here name := by
  by_cases fits : Node.pathLimit < path.text.utf8ByteSize
  · rw [place, if_pos fits] at h
    cases h
  · cases parent : disk.locate path.parent with
    | error fault =>
        rw [place, if_neg fits, parent] at h
        cases h
    | ok here =>
        rw [place_eq fits parent] at h
        split at h
        · next entries name at_ last =>
            split at h
            · cases h
            · next short =>
                split at h
                · cases h
                · next free =>
                    cases h
                    rw [Bool.or_eq_true, not_or] at free
                    refine ⟨here, name, rfl, fits, parent, last,
                      kindAt_directory.mpr ⟨entries, at_⟩, short, free.1, ?_⟩
                    rw [Node.at?_snoc at_]
                    exact Option.not_isSome_iff_eq_none.mp free.2
        · cases h
        · cases h

/-- How a path is opened for writing. -/
inductive Opened (disk : Disk) (path : Path) : List String → Prop
  /-- At a file. -/
  | there {names : List String} {content : Content} (located : disk.locate path = .ok names)
      (file : disk.top.at? names = some (.file content)) : Opened disk path names
  /-- At a new name in a directory. -/
  | new {here : List String} {name : String} (missing : disk.locate path = .error .notFound)
      (place : Placed disk path here name) : Opened disk path (here ++ [name])

theorem opened (h : disk.fileForWriting path = .ok names) : Opened disk path names := by
  unfold fileForWriting at h
  split at h
  · next names' located =>
      split at h
      · cases h
      · next other =>
          cases h
          obtain directory | file := locate_real located
          · obtain ⟨entries, at_⟩ := kindAt_directory.mp directory
            exact absurd at_ (other entries)
          · obtain ⟨node, at_, kind⟩ := Option.map_eq_some_iff.mp file
            cases node with
            | file content => exact .there located at_
            | directory entries => cases kind
            | link target => cases kind
  · next missing =>
      obtain ⟨here, name, rfl, place⟩ := placed h
      exact .new missing place
  · cases h

/-- What a path is opened at is a file. -/
theorem Opened.file (h : Opened disk path names) {node : Node} (at_ : disk.top.at? names = some node) :
    ∃ content, node = .file content := by
  cases h with
  | @there names content located file => exact ⟨content, Option.some.inj (at_.symm.trans file)⟩
  | new missing place => cases at_.symm.trans place.nothing

/-- What is written where a path was opened extends the disk. -/
theorem Opened.extends_put (h : Opened disk path names) (content : Content) :
    Extends disk (disk.put names (.file content)) := by
  cases h with
  | there located at_ =>
      refine Disk.extends_put fun old there => ?_
      obtain rfl := Option.some.inj (at_.symm.trans there)
      exact Node.extends_file _ _
  | new missing place => exact Disk.extends_put fun old there => nomatch there.symm.trans place.nothing

/-- A file that was opened is opened on an extension. -/
theorem fileForWriting_extends {content : Content} (h : disk.fileForWriting path = .ok names)
    (there : disk.top.at? names = some (.file content)) (grown : Extends disk disk') :
    disk'.fileForWriting path = .ok names := by
  have located : disk.locate path = .ok names := by
    cases opened h with
    | there located at_ => exact located
    | new missing place => cases there.symm.trans place.nothing
  have kind : disk'.top.kindAt names = some .file := grown.top _ _ (Node.kindAt_of_at? there)
  obtain ⟨node, at_, kind⟩ := Option.map_eq_some_iff.mp kind
  rw [fileForWriting, locate_ok_extends grown located]
  cases node with
  | file content' => simp only [at_]
  | directory entries => cases kind
  | link target => cases kind

/-- What is written where a path was opened is there. -/
theorem Opened.at?_put (h : Opened disk path names) (content : Content) :
    (disk.put names (.file content)).top.at? names = some (.file content) := by
  cases h with
  | there located at_ =>
      rcases List.eq_nil_or_concat names with rfl | ⟨here, name, rfl⟩
      · -- no path leads anywhere unless the top is a directory
        have top := Node.kindAt_top (locate_ok located).2.1
        rw [Node.kindAt, at_] at top
        cases top
      · rw [List.concat_eq_append] at at_ ⊢
        exact Node.at?_put _ (Node.kindAt_of_snoc (Node.kindAt_of_at? at_))
  | new missing place => exact Node.at?_put _ place.within

/-- A new name in a directory is found once there is a file or a directory: it is followed from where the
names before it lead. -/
theorem Placed.locate {here : List String} {name : String} (place : Placed disk path here name)
    (grown : Extends disk disk') (real : disk'.top.Real (here ++ [name])) :
    disk'.locate path = .ok (here ++ [name]) := by
  obtain ⟨before, whole⟩ := List.getLast?_eq_some_iff.mp place.last
  have names_parent : path.parent.names = before := by
    rw [Path.parent, whole, List.dropLast_concat]
  have parent' : disk'.locate path.parent = .ok here := by
    rw [locate_extends grown (by rw [place.parent]; simp), place.parent]
  obtain ⟨-, within, resolved⟩ := locate_ok parent'
  rw [names_parent] at resolved
  obtain ⟨links, onwards⟩ := Node.resolve_append [name] resolved
  have step : disk'.top.turn links here name = .goes links (here ++ [name]) [] := by
    have within : disk'.top.kindAt here = some .directory := grown.top _ _ place.within
    rw [Node.turn, if_pos within, if_neg place.down, if_neg place.short]
    rcases real with kind | kind <;> rw [kind]
  have base : path.parent.base disk'.home = path.base disk'.home := rfl
  rw [base] at within onwards
  rw [locate_eq place.fits within, whole, onwards, Node.resolve_cons, step]
  simp only [List.append_nil, Node.resolve_nil]

/-- **After a file was written, every path that was opened there is opened there again.** -/
theorem fileForWriting_put (h : disk.fileForWriting path = .ok names) (content : Content) :
    (disk.put names (.file content)).fileForWriting path = .ok names := by
  have grown := (opened h).extends_put content
  have written := (opened h).at?_put content
  have located : (disk.put names (.file content)).locate path = .ok names := by
    cases opened h with
    | there located at_ => exact locate_ok_extends grown located
    | new missing place => exact place.locate grown (.inr (Node.kindAt_of_at? written))
  rw [fileForWriting, located]
  simp only [written]

end Docwright.Disk
