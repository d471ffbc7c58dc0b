import Docwright.Proofs.Disk.Making

/-!
# Which files a change touches

A file that is written where a path was opened touches no other file
(`Opened.at?_put_other`), and no file comes from anywhere else: what is found after
something was put in its place was there before, or is part of what was put
(`at?_of_put`).  Making directories makes no files (`at?_of_ensure`).
-/

namespace Docwright

namespace Node

variable {top : Node} {names others : List String} {content content' : Content}

/-- A file that is found after something was put in its place was there before, or is part of it. -/
theorem at?_of_put {node : Node} (found : (top.put others node).at? names = some (file content)) :
    top.at? names = some (file content) ∨
      ∃ below, names = others ++ below ∧ node.at? below = some (file content) := by
  induction others generalizing top names with
  | nil =>
      rw [put_nil] at found
      exact .inl found
  | cons first rest ih =>
      obtain same | ⟨entries, below, rfl, made, put⟩ := put_cons_cases top first rest node
      · rw [same] at found
        exact .inl found
      · rw [made] at found
        cases names with
        | nil => cases found
        | cons name more =>
            simp only [at?, child?, lookup_putEntry] at found ⊢
            by_cases same : name = first
            · subst same
              rw [if_pos rfl, Option.bind_some] at found
              obtain ⟨rfl, rfl⟩ | ⟨child, reached, rfl⟩ := put
              · exact .inr ⟨more, rfl, found⟩
              · rw [reached, Option.bind_some]
                refine (ih found).imp_right ?_
                rintro ⟨below, rfl, deeper⟩
                exact ⟨below, rfl, deeper⟩
            · rw [if_neg same] at found
              exact .inl found

/-- A file that is found after a file was put is that file, or was there before. -/
theorem at?_of_put_file (found : (top.put others (file content')).at? names = some (file content)) :
    top.at? names = some (file content) ∨ (names = others ∧ content = content') := by
  refine (at?_of_put found).imp_right ?_
  rintro ⟨below, rfl, there⟩
  cases below with
  | nil =>
      cases there
      exact ⟨List.append_nil _, rfl⟩
  | cons name more => cases there

/-- A file that is found in a directory with one entry is found in that. -/
theorem at?_of_lone {name : String} {child : Node}
    (found : (directory [(name, child)]).at? names = some (file content)) :
    ∃ rest, child.at? rest = some (file content) := by
  cases names with
  | nil => cases found
  | cons first rest =>
      obtain ⟨reached, there, deeper⟩ := Option.bind_eq_some_iff.mp found
      obtain ⟨-, rfl⟩ := Prod.mk.inj (List.mem_singleton.mp (mem_of_lookup there))
      exact ⟨rest, deeper⟩

end Node

namespace Disk

variable {disk : Disk} {path : Path} {names others : List String} {content : Content}

/-- In a project of one file that is alone on a disk there is no other file. -/
theorem content_of_lone {project name : String} {content' : Content}
    (found : (Disk.directory [(project, .directory [(name, .file content')])]).top.at? names =
      some (.file content)) : content' = content := by
  obtain ⟨_, found⟩ := Node.at?_of_lone found
  obtain ⟨_, found⟩ := Node.at?_of_lone found
  obtain ⟨rest, found⟩ := Node.at?_of_lone found
  cases rest with
  | nil => exact Node.file.inj (Option.some.inj found)
  | cons next more => cases found

/-- What is written where a path was opened leaves every other file as it is. -/
theorem Opened.at?_put_other (h : Opened disk path names)
    (there : disk.top.at? others = some (.file content)) (other : names ≠ others) (content' : Content) :
    (disk.put names (.file content')).top.at? others = some (.file content) := by
  refine Node.at?_put_elsewhere there other fun old at_ => ?_
  cases h with
  | there located file' =>
      cases at_.symm.trans file'
      rfl
  | new missing place => cases at_.symm.trans place.nothing

theorem contentAt_eq_ok_iff : disk.contentAt path = .ok content ↔
    ∃ names, disk.locate path = .ok names ∧ disk.top.at? names = some (.file content) := by
  rw [← find_eq_ok_iff, contentAt]
  cases disk.find path with
  | error fault => simp [bind, Except.bind]
  | ok node => cases node <;> simp [bind, Except.bind]

/-- A path finds in an extension what it found before, if that file is still there. -/
theorem contentAt_of_kept {disk' : Disk} (grown : Extends disk disk') (found : disk.contentAt path = .ok content)
    (kept : ∀ {names}, disk.locate path = .ok names → disk.top.at? names = some (.file content) →
      disk'.top.at? names = some (.file content)) : disk'.contentAt path = .ok content := by
  obtain ⟨names, located, there⟩ := contentAt_eq_ok_iff.mp found
  exact contentAt_eq_ok_iff.mpr ⟨names, locate_ok_extends grown located, kept located there⟩

/-- Making a directory makes no file. -/
theorem at?_of_once (clean : path.hasNull = false)
    (found : (disk.makeDirectoryOnce path).disk.top.at? names = some (.file content)) :
    disk.top.at? names = some (.file content) := by
  obtain ⟨here, name, place, made⟩ | ⟨fault, -, ⟨-, made⟩ | ⟨-, made⟩⟩ := @once_cases disk _ clean
  · rw [made] at found
    obtain there | ⟨below, -, there⟩ := Node.at?_of_put found
    · exact there
    · cases below <;> cases there
  · rwa [made] at found
  · rwa [made] at found

/-- Making directories makes no file. -/
theorem at?_of_ensure (clean : path.hasNull = false) (count : Nat)
    (found : (disk.ensureDirectories path count).disk.top.at? names = some (.file content)) :
    disk.top.at? names = some (.file content) :=
  ensure_keeps (P := fun after => after.top.at? names = some (.file content) →
      disk.top.at? names = some (.file content))
    clean (fun free before found => before (at?_of_once free found)) id count found

end Disk

end Docwright
