import Docwright.Proofs.Disk.Opening

/-!
# Making directories

Making the directories of a path either leads there or ends with a fault, and then
the path leads to no directory (`ensure_none_iff`).  What is made extends the tree.

Doing it again changes nothing and comes to the same (`ensure_again_fault`): where the
path leads to a directory there is nothing to make, and a fault comes up again, for
the directories that were made before it do not get any further than they did.
-/

namespace Docwright

namespace Path

/-- The path of the first names of a path. -/
def first (path : Path) (count : Nat) : Path := ⟨path.root, path.names.take count⟩

variable {path : Path} {count : Nat}

theorem first_all : path.first path.names.length = path := by
  rw [first, List.take_length]

theorem first_parent (within : count < path.names.length) :
    (path.first (count + 1)).parent = path.first count := by
  have names : (path.names.take (count + 1)).dropLast = path.names.take count := by
    rw [List.dropLast_eq_take, List.length_take, List.take_take, Nat.min_eq_left within,
      Nat.succ_sub_one, Nat.min_eq_left (Nat.le_succ count)]
  rw [parent, first, first, names]

theorem first_hasNull (clean : path.hasNull = false) (count : Nat) :
    (path.first count).hasNull = false := by
  rw [hasNull, List.any_eq_false] at clean ⊢
  exact fun name member => clean name (List.mem_of_mem_take member)

/-- The text of a parent is no longer than that of the path, unless it is a point. -/
theorem parent_text_le (path : Path) :
    path.parent.text.utf8ByteSize ≤ max 1 path.text.utf8ByteSize := by
  rcases List.eq_nil_or_concat path.names with none_ | ⟨before, last, whole⟩
  · have same : path.parent = path := by
      rw [parent, none_, List.dropLast_nil, ← none_]
    rw [same]
    exact Nat.le_max_right _ _
  · rw [List.concat_eq_append] at whole
    have names : path.parent = ⟨path.root, before⟩ := by
      rw [parent, whole, List.dropLast_concat]
    have here : path.text = path.root ++ String.intercalate "/" (before ++ [last]) := by
      rw [text, whole, if_neg (by simp)]
    rw [names, here]
    cases before with
    | nil =>
        by_cases relative : path.root = ""
        · have point : Path.text ⟨path.root, []⟩ = "." := by
            rw [text, relative]
            rfl
          rw [point]
          exact Nat.le_max_left _ _
        · have root : Path.text ⟨path.root, []⟩ = path.root := by
            rw [text, if_neg (by simp [relative]), String.intercalate_nil, String.append_empty]
          rw [root, String.utf8ByteSize_append]
          omega
    | cons name rest =>
        have parent : Path.text ⟨path.root, name :: rest⟩ =
            path.root ++ String.intercalate "/" (name :: rest) := by
          rw [text, if_neg (by simp)]
        rw [parent, String.intercalate_append_of_ne_nil (List.cons_ne_nil _ _)
          (List.cons_ne_nil _ _)]
        simp only [String.utf8ByteSize_append]
        omega

end Path

namespace Disk

open Node (kindAt_directory)

variable {disk disk' : Disk} {path : Path} {count : Nat} {here names out : List String} {name : String}

/-! ### Paths that lead to directories -/

/-- A path leads to a directory. -/
def Leads (disk : Disk) (path : Path) : Prop :=
  ∃ names, disk.locate path = .ok names ∧ disk.top.kindAt names = some .directory

theorem leadsToDirectory_eq (clean : path.hasNull = false) :
    disk.leadsToDirectory path =
      match disk.find path with
      | .ok node => node.isDirectory
      | .error _ => false := by
  rw [leadsToDirectory, ask, clean, if_neg Bool.false_ne_true]
  cases disk.find path with
  | ok node => rfl
  | error fault => cases fault <;> rfl

theorem find_eq_ok_iff {node : Node} :
    disk.find path = .ok node ↔ ∃ names, disk.locate path = .ok names ∧ disk.top.at? names = some node := by
  unfold find
  cases disk.locate path with
  | error fault => simp [bind, Except.bind]
  | ok names =>
      simp only [bind, Except.bind]
      cases at_ : disk.top.at? names <;> simp [at_]

theorem leadsToDirectory_iff (clean : path.hasNull = false) :
    disk.leadsToDirectory path = true ↔ disk.Leads path := by
  rw [leadsToDirectory_eq clean]
  constructor
  · intro yes
    cases found : disk.find path with
    | error fault =>
        rw [found] at yes
        cases yes
    | ok node =>
        rw [found] at yes
        obtain ⟨names, located, at_⟩ := find_eq_ok_iff.mp found
        refine ⟨names, located, kindAt_directory.mpr ?_⟩
        cases node with
        | directory entries => exact ⟨entries, at_⟩
        | file content => cases yes
        | link target => cases yes
  · rintro ⟨names, located, within⟩
    obtain ⟨entries, at_⟩ := kindAt_directory.mp within
    rw [find_eq_ok_iff.mpr ⟨names, located, at_⟩]
    rfl

theorem Leads.extends (leads : disk.Leads path) (grown : Extends disk disk') : disk'.Leads path := by
  obtain ⟨names, located, within⟩ := leads
  exact ⟨names, locate_ok_extends grown located, grown.top _ _ within⟩

/-- A question about kinds that is answered with yes is so in an extension. -/
theorem ask_extends {test : Node → Bool}
    (byKind : ∀ node node' : Node, node.kind = node'.kind → test node = test node')
    (yes : disk.ask path test = .ok true) (grown : Extends disk disk') : disk'.ask path test = .ok true := by
  unfold ask at yes ⊢
  by_cases null : path.hasNull = true
  · rw [if_pos null] at yes
    cases yes
  · rw [if_neg null] at yes ⊢
    obtain ⟨node, found, passes⟩ : ∃ node, disk.find path = .ok node ∧ test node = true := by
      revert yes
      cases disk.find path with
      | ok node => exact fun yes => ⟨node, rfl, Except.ok.inj yes⟩
      | error fault => cases fault <;> rintro ⟨⟩
    obtain ⟨names, located, at_⟩ := find_eq_ok_iff.mp found
    have kind : disk'.top.kindAt names = some node.kind := grown.top _ _ (Node.kindAt_of_at? at_)
    obtain ⟨node', at_', same⟩ := Option.map_eq_some_iff.mp kind
    rw [find_eq_ok_iff.mpr ⟨names, locate_ok_extends grown located, at_'⟩]
    exact congrArg Except.ok ((byKind node' node same).trans passes)

/-- A path that leads somewhere from within a directory. -/
theorem leads_parent (located : disk.locate path = .ok out) (last : path.names ≠ []) :
    ∃ here links', disk.locate path.parent = .ok here ∧ disk.top.kindAt here = some .directory ∧
      disk.top.resolve links' here [path.names.getLast last] = .ok out := by
  obtain ⟨fits, within, resolved⟩ := locate_ok located
  rw [← List.dropLast_concat_getLast last] at resolved
  obtain ⟨links', here, first, onwards⟩ := Node.resolve_split resolved
  have shorter := path.parent_text_le
  have fits' : ¬ Node.pathLimit < path.parent.text.utf8ByteSize := by
    unfold Node.pathLimit at fits ⊢
    omega
  exact ⟨here, links', (locate_eq fits' within).trans first, Node.within_of_resolve onwards, onwards⟩

theorem Leads.parent (leads : disk.Leads path) : disk.Leads path.parent := by
  obtain ⟨names, located, within⟩ := leads
  by_cases whole : path.names = []
  · have same : path.parent = path := by
      rw [Path.parent, whole, List.dropLast_nil, ← whole]
    rw [same]
    exact ⟨names, located, within⟩
  · obtain ⟨here, links', located', within', -⟩ := leads_parent located whole
    exact ⟨here, located', within'⟩

/-- A new name is not found before something is put there. -/
theorem Placed.missing (place : Placed disk path here name) : disk.locate path ≠ .ok out := by
  intro located
  obtain ⟨before, whole⟩ := List.getLast?_eq_some_iff.mp place.last
  have some_ : path.names ≠ [] := by simp [whole]
  obtain ⟨here', links', parent, -, onwards⟩ := leads_parent located some_
  obtain rfl := Except.ok.inj (place.parent.symm.trans parent)
  have last : path.names.getLast some_ = name := by simp [whole]
  have ends : disk.top.turn links' here name = .ends .notFound := by
    have nothing : disk.top.kindAt (here ++ [name]) = none := by
      rw [Node.kindAt, place.nothing]
      rfl
    rw [Node.turn, if_pos place.within, if_neg place.down, if_neg place.short, nothing]
  rw [last, Node.resolve_cons, ends] at onwards
  cases onwards

/-! ### Making a directory -/

theorem makeDirectory_eq :
    disk.makeDirectory path =
      match disk.place path with
      | .ok names => .ok (disk.put names (.directory []))
      | .error fault => .error fault := by
  unfold makeDirectory
  cases disk.place path <;> rfl

/-- No new name is found for a path that leads to a directory, and that is not because anything is
missing. -/
theorem Leads.place (leads : disk.Leads path) :
    ∃ fault, disk.place path = .error fault ∧ fault ≠ .notFound := by
  cases made : disk.place path with
  | ok names =>
      obtain ⟨here, name, -, place⟩ := placed made
      obtain ⟨names, located, -⟩ := leads
      exact absurd located place.missing
  | error fault =>
      refine ⟨fault, rfl, ?_⟩
      rintro rfl
      obtain ⟨here, located, within⟩ := leads.parent
      obtain ⟨entries, at_⟩ := kindAt_directory.mp within
      have fits : ¬ Node.pathLimit < path.text.utf8ByteSize := by
        obtain ⟨names, there, -⟩ := leads
        exact (locate_ok there).1
      rw [place_eq fits located, at_] at made
      revert made
      cases path.names.getLast? with
      | none => exact nofun
      | some name =>
          dsimp only
          split
          · nofun
          · split <;> nofun

/-- What a directory is made in is extended by it. -/
theorem Placed.extends (place : Placed disk path here name) (node : Node) :
    Extends disk (disk.put (here ++ [name]) node) :=
  extends_put fun _ there => nomatch there.symm.trans place.nothing

/-- What comes of making a directory: it is there, or a fault and nothing else. -/
theorem once_cases (clean : path.hasNull = false) :
    (∃ here name, Placed disk path here name ∧
      disk.makeDirectoryOnce path = ⟨disk.put (here ++ [name]) (.directory []), none⟩) ∨
    (∃ fault, disk.place path = .error fault ∧
      (disk.Leads path ∧ disk.makeDirectoryOnce path = ⟨disk, none⟩ ∨
        ¬ disk.Leads path ∧ disk.makeDirectoryOnce path = ⟨disk, some (fault, path)⟩)) := by
  unfold makeDirectoryOnce
  rw [makeDirectory_eq]
  cases made : disk.place path with
  | ok names =>
      obtain ⟨here, name, rfl, place⟩ := placed made
      exact .inl ⟨here, name, place, rfl⟩
  | error fault =>
      refine .inr ⟨fault, rfl, ?_⟩
      by_cases leads : disk.leadsToDirectory path = true
      · exact .inl ⟨(leadsToDirectory_iff clean).mp leads, by rw [leads]; rfl⟩
      · exact .inr ⟨fun there => leads ((leadsToDirectory_iff clean).mpr there), by
          simp only [leads]; rfl⟩

theorem once_of_leads (clean : path.hasNull = false) (leads : disk.Leads path) :
    disk.makeDirectoryOnce path = ⟨disk, none⟩ := by
  obtain ⟨here, name, place, -⟩ | ⟨fault, -, ⟨-, made⟩ | ⟨other, -⟩⟩ := @once_cases disk _ clean
  · obtain ⟨names, located, -⟩ := leads
    exact absurd located place.missing
  · exact made
  · exact absurd leads other

theorem extends_once (clean : path.hasNull = false) : Extends disk (disk.makeDirectoryOnce path).disk := by
  obtain ⟨here, name, place, made⟩ | ⟨fault, -, ⟨-, made⟩ | ⟨-, made⟩⟩ :=
    @once_cases disk _ clean
  · rw [made]
    exact place.extends _
  · rw [made]
    exact .refl disk
  · rw [made]
    exact .refl disk

/-- A directory was made without a fault exactly if the path leads there. -/
theorem once_none_iff (clean : path.hasNull = false) :
    (disk.makeDirectoryOnce path).fault = none ↔ (disk.makeDirectoryOnce path).disk.Leads path := by
  obtain ⟨here, name, place, made⟩ | ⟨fault, -, ⟨leads, made⟩ | ⟨other, made⟩⟩ :=
    @once_cases disk _ clean
  · rw [made]
    have there : (disk.put (here ++ [name]) (.directory [])).top.kindAt (here ++ [name]) =
        some .directory := Node.kindAt_of_at? (Node.at?_put _ place.within)
    exact ⟨fun _ => ⟨_, place.locate (place.extends _) (.inl there), there⟩, fun _ => rfl⟩
  · rw [made]
    exact ⟨fun _ => leads, fun _ => rfl⟩
  · rw [made]
    exact ⟨by rintro ⟨⟩, fun leads => absurd leads other⟩

/-- A fault leaves the tree as it was. -/
theorem once_fault {fault : Fault × Path} (clean : path.hasNull = false)
    (failed : disk.makeDirectoryOnce path = ⟨disk', some fault⟩) : disk' = disk := by
  obtain ⟨here, name, place, made⟩ | ⟨fault, -, ⟨leads, made⟩ | ⟨other, made⟩⟩ :=
    @once_cases disk _ clean
  · cases failed.symm.trans made
  · cases failed.symm.trans made
  · cases failed.symm.trans made
    rfl

/-! ### Making all directories of a path -/

theorem ensure_zero : disk.ensureDirectories path 0 = disk.makeDirectoryOnce (path.first 0) := rfl

theorem ensure_succ :
    disk.ensureDirectories path (count + 1) =
      match disk.makeDirectory (path.first (count + 1)) with
      | .error .notFound =>
        match disk.ensureDirectories path count with
        | ⟨disk, none⟩ => disk.makeDirectoryOnce (path.first (count + 1))
        | stopped => stopped
      | _ => disk.makeDirectoryOnce (path.first (count + 1)) := rfl

/-- A directory is made at once, unless it is the ones above it that are missing. -/
theorem ensure_succ_present (present : disk.place (path.first (count + 1)) ≠ .error .notFound) :
    disk.ensureDirectories path (count + 1) = disk.makeDirectoryOnce (path.first (count + 1)) := by
  rw [ensure_succ, makeDirectory_eq]
  cases made : disk.place (path.first (count + 1)) with
  | ok names => rfl
  | error fault =>
      cases fault with
      | notFound => exact absurd made present
      | _ => rfl

theorem ensure_succ_missing (missing : disk.place (path.first (count + 1)) = .error .notFound) :
    disk.ensureDirectories path (count + 1) =
      match disk.ensureDirectories path count with
      | ⟨disk, none⟩ => disk.makeDirectoryOnce (path.first (count + 1))
      | ⟨disk, some fault⟩ => ⟨disk, some fault⟩ := by
  rw [ensure_succ, makeDirectory_eq, missing]
  generalize disk.ensureDirectories path count = made
  obtain ⟨disk, _ | fault⟩ := made <;> rfl

/-- Where a path leads to a directory there is nothing to make. -/
theorem ensure_of_leads (clean : path.hasNull = false) (leads : disk.Leads (path.first count)) :
    disk.ensureDirectories path count = ⟨disk, none⟩ := by
  cases count with
  | zero =>
      rw [ensure_zero]
      exact once_of_leads (Path.first_hasNull clean _) leads
  | succ count =>
      obtain ⟨fault, made, present⟩ := leads.place
      rw [ensure_succ_present (by rw [made]; simpa using present)]
      exact once_of_leads (Path.first_hasNull clean _) leads

/-- What making one directory keeps true of a tree, making all directories of a path keeps true. -/
theorem ensure_keeps {P : Disk → Prop} (clean : path.hasNull = false)
    (once : ∀ {disk : Disk} {path : Path}, path.hasNull = false → P disk → P (disk.makeDirectoryOnce path).disk)
    (start : P disk) (count : Nat) : P (disk.ensureDirectories path count).disk := by
  induction count with
  | zero =>
      rw [ensure_zero]
      exact once (Path.first_hasNull clean _) start
  | succ count ih =>
      by_cases missing : disk.place (path.first (count + 1)) = .error .notFound
      · rw [ensure_succ_missing missing]
        generalize disk.ensureDirectories path count = made at ih ⊢
        obtain ⟨disk', _ | fault⟩ := made
        · exact once (Path.first_hasNull clean _) ih
        · exact ih
      · rw [ensure_succ_present missing]
        exact once (Path.first_hasNull clean _) start

theorem extends_ensure (clean : path.hasNull = false) (count : Nat) :
    Extends disk (disk.ensureDirectories path count).disk :=
  ensure_keeps (P := Extends disk) clean (fun free grown => grown.trans (extends_once free)) (.refl disk) count

/-- **The directories of a path were made without a fault exactly if the path leads there.** -/
theorem ensure_none_iff (clean : path.hasNull = false) (within : count ≤ path.names.length) :
    (disk.ensureDirectories path count).fault = none ↔
      (disk.ensureDirectories path count).disk.Leads (path.first count) := by
  induction count with
  | zero =>
      rw [ensure_zero]
      exact once_none_iff (Path.first_hasNull clean _)
  | succ count ih =>
      by_cases missing : disk.place (path.first (count + 1)) = .error .notFound
      · rw [ensure_succ_missing missing]
        have above := ih (Nat.le_of_lt within)
        generalize disk.ensureDirectories path count = made at above ⊢
        obtain ⟨disk', _ | fault⟩ := made
        · exact once_none_iff (Path.first_hasNull clean _)
        · refine ⟨nofun, fun leads => ?_⟩
          have parent := leads.parent
          rw [Path.first_parent within] at parent
          exact above.mpr parent
      · rw [ensure_succ_present missing]
        exact once_none_iff (Path.first_hasNull clean _)

/-- Where the directories above a directory are not there, it cannot be made. -/
theorem once_astray (clean : path.hasNull = false) (within : count + 1 ≤ path.names.length)
    (astray : ¬ disk.Leads (path.first count)) :
    ∃ fault, disk.makeDirectoryOnce (path.first (count + 1)) = ⟨disk, some fault⟩ := by
  obtain ⟨here, name, place, -⟩ | ⟨fault, -, ⟨leads, -⟩ | ⟨-, made⟩⟩ :=
    @once_cases disk _ (Path.first_hasNull clean (count + 1))
  · refine absurd ⟨here, ?_, place.within⟩ astray
    rw [← Path.first_parent within]
    exact place.parent
  · have parent := leads.parent
    rw [Path.first_parent within] at parent
    exact absurd parent astray
  · exact ⟨_, made⟩

/-- Where a fault comes up in making the directories of a path, one comes up again, and nothing is made
then. -/
theorem ensure_again_fault {fault : Fault × Path} (clean : path.hasNull = false)
    (within : count ≤ path.names.length)
    (failed : disk.ensureDirectories path count = ⟨disk', some fault⟩) :
    ∃ fault', disk'.ensureDirectories path count = ⟨disk', some fault'⟩ := by
  induction count generalizing fault with
  | zero =>
      have whole := failed
      rw [ensure_zero] at whole
      obtain rfl := once_fault (Path.first_hasNull clean _) whole
      exact ⟨fault, failed⟩
  | succ count ih =>
      have above := @ensure_none_iff disk _ _ clean (Nat.le_of_lt within)
      have clean' := Path.first_hasNull clean (count + 1)
      by_cases missing : disk.place (path.first (count + 1)) = .error .notFound
      · have whole := failed
        rw [ensure_succ_missing missing] at whole
        cases made : disk.ensureDirectories path count with
        | mk disk₁ found =>
            rw [made] at whole above
            cases found with
            | none =>
                -- the directories above are there, and the last one cannot be made
                dsimp only at whole above
                obtain rfl := once_fault clean' whole
                have leads := above.mp rfl
                refine ⟨fault, ?_⟩
                by_cases missing' : disk'.place (path.first (count + 1)) = .error .notFound
                · rw [ensure_succ_missing missing', ensure_of_leads clean leads]
                  exact whole
                · rw [ensure_succ_present missing']
                  exact whole
            | some fault₁ =>
                -- a fault above keeps the last one from being made
                cases whole
                have astray : ¬ disk'.Leads (path.first count) := fun leads => nomatch above.mpr leads
                obtain ⟨fault', again⟩ := ih (Nat.le_of_lt within) made
                by_cases missing' : disk'.place (path.first (count + 1)) = .error .notFound
                · rw [ensure_succ_missing missing', again]
                  exact ⟨fault', rfl⟩
                · rw [ensure_succ_present missing']
                  exact once_astray clean within astray
      · have whole := failed
        rw [ensure_succ_present missing] at whole
        obtain rfl := once_fault clean' whole
        exact ⟨fault, failed⟩

/-! ### Files that stay -/

theorem at?_once {content : Content} (clean : path.hasNull = false)
    (there : disk.top.at? names = some (.file content)) :
    (disk.makeDirectoryOnce path).disk.top.at? names = some (.file content) := by
  obtain ⟨here, name, place, made⟩ | ⟨fault, -, ⟨-, made⟩ | ⟨-, made⟩⟩ :=
    @once_cases disk _ clean
  · rw [made]
    refine Node.at?_put_elsewhere there ?_ fun old at_ => nomatch at_.symm.trans place.nothing
    rintro rfl
    cases there.symm.trans place.nothing
  · rw [made]
    exact there
  · rw [made]
    exact there

/-- Directories are not made in the place of files. -/
theorem at?_ensure {content : Content} (clean : path.hasNull = false)
    (there : disk.top.at? names = some (.file content)) (count : Nat) :
    (disk.ensureDirectories path count).disk.top.at? names = some (.file content) :=
  ensure_keeps (P := fun disk => disk.top.at? names = some (.file content)) clean at?_once there count

end Disk

end Docwright
