import Docwright.Build
import Docwright.Discovery
import Docwright.Proofs.Disk.Making

/-!
# Writing over a file

A tree in which a file was written over holds the same files and directories as before
(`extends_rewritten`), so every path is followed as before (`locate_mutual`), every
question about kinds is answered as before (`ask_mutual`), and the same files are
discovered (`run_rewritten`).  Every other file holds what it held
(`readWithin_rewritten`).
-/

namespace Docwright

namespace Node

variable {top top' : Node} {names here : List String} {name : String} {content : Content}

/-- Whatever is in a tree is in an extension, if only of the same kind. -/
theorem at?_extends {node : Node} (grown : Extends top top') (found : top.at? names = some node) :
    ∃ node', top'.at? names = some node' ∧ node'.kind = node.kind :=
  Option.map_eq_some_iff.mp (grown names node.kind (kindAt_of_at? found))

/-- Whatever is missing in a tree is missing in those that it extends. -/
theorem at?_none_of_extends (grown : Extends top top') (missing : top'.at? names = none) :
    top.at? names = none := by
  cases found : top.at? names with
  | none => rfl
  | some node =>
      obtain ⟨node', found', -⟩ := at?_extends grown found
      exact nomatch missing.symm.trans found'

/-- What is written over a file extends the tree. -/
theorem extends_over (there : top.at? names = some (file content)) (content' : Content) :
    Extends top (top.put names (file content')) :=
  extends_put fun old found => by
    obtain rfl := Option.some.inj (there.symm.trans found)
    exact extends_file _ _

/-- Where a file was written over, everything is there that was there, and nothing else. -/
theorem extends_rewritten (there : top.at? names = some (file content)) (content' : Content) :
    Extends top (top.put names (file content')) ∧ Extends (top.put names (file content')) top := by
  rcases List.eq_nil_or_concat names with rfl | ⟨here, name, rfl⟩
  · rw [put_nil]
    exact ⟨.refl top, .refl top⟩
  · rw [List.concat_eq_append] at there ⊢
    have written := @at?_put top here name (file content') (kindAt_of_snoc (kindAt_of_at? there))
    have back := extends_over written content
    rw [put_put, put_same there] at back
    exact ⟨extends_over there content', back⟩

end Node

namespace Disk

variable {disk disk' : Disk} {path : Path} {names : List String} {content : Content}

/-! ### Disks that extend each other -/

/-- Paths are followed alike on disks that extend each other. -/
theorem locate_mutual (forth : Extends disk disk') (back : Extends disk' disk) :
    disk'.locate path = disk.locate path := by
  by_cases found : disk.locate path = .error .notFound
  · by_cases found' : disk'.locate path = .error .notFound
    · rw [found, found']
    · exact (locate_extends back found').symm
  · exact locate_extends forth found

/-- A question about kinds is answered alike on disks that extend each other. -/
theorem ask_mutual {test : Node → Bool}
    (byKind : ∀ node node' : Node, node.kind = node'.kind → test node = test node')
    (forth : Extends disk disk') (back : Extends disk' disk) : disk'.ask path test = disk.ask path test := by
  unfold ask find
  rw [locate_mutual forth back]
  cases disk.locate path with
  | error fault => rfl
  | ok names =>
      simp only [bind, Except.bind]
      cases found : disk.top.at? names with
      | none => rw [Node.at?_none_of_extends back.top found]
      | some node =>
          obtain ⟨node', found', alike⟩ := Node.at?_extends forth.top found
          rw [found']
          dsimp only
          rw [byKind node' node alike]

/-! ### What is written over a file -/

/-- Where a file was written over, everything is there that was there, and nothing else. -/
theorem extends_rewritten (there : disk.top.at? names = some (.file content)) (content' : Content) :
    Extends disk (disk.put names (.file content')) ∧ Extends (disk.put names (.file content')) disk := by
  obtain ⟨forth, back⟩ := Node.extends_rewritten there content'
  exact ⟨⟨rfl, forth⟩, ⟨rfl, back⟩⟩

/-- A path leads to what it led to, unless that is the file that was written over. -/
theorem contentAt_rewritten (there : disk.top.at? names = some (.file content)) (content' : Content)
    (other : disk.locate path ≠ .ok names) :
    (disk.put names (.file content')).contentAt path = disk.contentAt path := by
  obtain ⟨forth, back⟩ := extends_rewritten there content'
  unfold contentAt find
  rw [locate_mutual forth back]
  cases located : disk.locate path with
  | error fault => rfl
  | ok out =>
      have elsewhere : names ≠ out := by
        rintro rfl
        exact other located
      have stays : ∀ {held}, disk.top.at? out = some (.file held) →
          (disk.put names (.file content')).top.at? out = some (.file held) := by
        intro held found
        refine Node.at?_put_elsewhere found elsewhere fun old at_ => ?_
        obtain rfl := Option.some.inj (there.symm.trans at_)
        rfl
      simp only [bind, Except.bind]
      cases found : disk.top.at? out with
      | none => rw [Node.at?_none_of_extends back.top found]
      | some node =>
          obtain ⟨node', found', alike⟩ := Node.at?_extends forth.top found
          cases node with
          | file held => rw [stays found]
          | directory entries =>
              rw [found']
              cases node' <;> cases alike
              rfl
          | link target =>
              rw [found']
              cases node' <;> cases alike
              rfl

end Disk

/-! ### Discovery -/

namespace Discovery

variable {top : Node} {names here : List String} {content : Content}

/-- An entry is put in the place of one that has the same entries below it. -/
theorem entriesAmong_putEntry {name : String} {child child' : Node} {entries : List (String × Node)}
    (found : entries.lookup name = some child)
    (same : ∀ here, entriesBelow here child' = entriesBelow here child) :
    entriesBelow here (.directory (Node.putEntry name child' entries)) =
      entriesBelow here (.directory entries) := by
  have among : entriesAmong here (Node.putEntry name child' entries) = entriesAmong here entries ∧
      (Node.putEntry name child' entries).map Prod.fst = entries.map Prod.fst := by
    induction entries with
    | nil => cases found
    | cons entry rest ih =>
        obtain ⟨n, old⟩ := entry
        rw [Node.putEntry]
        by_cases first : n = name
        · subst first
          rw [List.lookup_cons, beq_self_eq_true] at found
          obtain rfl := Option.some.inj found
          rw [beq_self_eq_true, if_pos rfl, entriesAmong, entriesAmong, same]
          exact ⟨rfl, rfl⟩
        · have other : (n == name) = false := by simpa using first
          have other' : (name == n) = false := by simpa using Ne.symm first
          rw [List.lookup_cons, other'] at found
          obtain ⟨among, names⟩ := ih found
          rw [other, if_neg Bool.false_ne_true, entriesAmong, entriesAmong, among, List.map_cons, names]
          exact ⟨rfl, rfl⟩
  have map_names : ∀ entries : List (String × Node),
      entries.map (here ++ [·.1]) = (entries.map Prod.fst).map (here ++ [·]) := by
    intro entries
    rw [List.map_map]
    rfl
  rw [entriesBelow, entriesBelow, map_names, map_names, among.1, among.2]

/-- The same entries are below a node in which a file was written over. -/
theorem entriesBelow_rewritten (there : top.at? names = some (.file content)) (content' : Content)
    (here : List String) :
    entriesBelow here (top.put names (.file content')) = entriesBelow here top := by
  induction names generalizing top here with
  | nil => rw [Node.put_nil]
  | cons first rest ih =>
      cases top with
      | file held => cases there
      | link target => cases there
      | directory entries =>
          obtain ⟨child, found, deeper⟩ := Option.bind_eq_some_iff.mp there
          have found : entries.lookup first = some child := found
          cases rest with
          | nil =>
              obtain rfl := Option.some.inj deeper
              rw [Node.put_last]
              exact entriesAmong_putEntry found fun here => rfl
          | cons next more =>
              rw [Node.put_within found]
              exact entriesAmong_putEntry found (ih deeper)

/-- Whatever is in a tree stays there where a file is written over, with the same entries below it. -/
theorem at?_rewritten_below {node : Node} (there : top.at? names = some (.file content))
    (content' : Content) (found : top.at? here = some node) :
    ∃ node', (top.put names (.file content')).at? here = some node' ∧
      ∀ below, entriesBelow below node' = entriesBelow below node := by
  induction here generalizing top names with
  | nil =>
      obtain rfl := Option.some.inj found
      exact ⟨_, rfl, entriesBelow_rewritten there content'⟩
  | cons name more ih =>
      cases top with
      | file held => cases found
      | link target => cases found
      | directory siblings =>
          obtain ⟨child, at_, deeper⟩ := Option.bind_eq_some_iff.mp found
          have at_ : siblings.lookup name = some child := at_
          cases names with
          | nil => cases there
          | cons first rest =>
              obtain kept | ⟨_, below, ⟨⟩, made, put⟩ :=
                Node.put_cons_cases (.directory siblings) first rest (.file content')
              · exact ⟨node, by rw [kept, found], fun _ => rfl⟩
              · rw [made]
                simp only [Node.at?, Node.child?, Node.lookup_putEntry]
                by_cases same : name = first
                · subst same
                  obtain ⟨child', at', deeper'⟩ := Option.bind_eq_some_iff.mp there
                  obtain rfl := Option.some.inj (at_.symm.trans at')
                  simp only [if_true, Option.bind_some]
                  obtain ⟨rfl, rfl⟩ | ⟨child', at'', rfl⟩ := put
                  · obtain rfl := Option.some.inj deeper'
                    cases more with
                    | nil =>
                        obtain rfl := Option.some.inj deeper
                        exact ⟨_, rfl, fun below => rfl⟩
                    | cons next more => cases deeper
                  · obtain rfl := Option.some.inj (at_.symm.trans at'')
                    exact ih deeper' deeper
                · exact ⟨node, by rw [if_neg same, at_, Option.bind_some, deeper], fun _ => rfl⟩

/-- **Where a file is written over, the same files are discovered**, and the same is in the way. -/
theorem run_rewritten {disk : Disk} (there : disk.top.at? names = some (.file content)) (content' : Content)
    (root : Path) (extensions : List String) :
    run (disk.put names (.file content')) root extensions = run disk root extensions := by
  obtain ⟨forth, back⟩ := Disk.extends_rewritten there content'
  have leads : leadsToFile (disk.put names (.file content')) root = leadsToFile disk root := by
    funext below
    rw [leadsToFile, leadsToFile, Disk.ask_mutual (fun _ _ => Node.isFile_of_kind) forth back]
  have hinders : obstacle? (disk.put names (.file content')) root = obstacle? disk root := by
    funext below
    rw [obstacle?, obstacle?, Disk.ask_mutual (fun _ _ => Node.isFile_of_kind) forth back]
  have same : entries (disk.put names (.file content')) root = entries disk root := by
    unfold entries Disk.find
    rw [Disk.locate_mutual forth back]
    cases disk.locate root with
    | error fault => rfl
    | ok here =>
        simp only [bind, Except.bind]
        cases found : disk.top.at? here with
        | none => rw [Node.at?_none_of_extends back.top found]
        | some node =>
            obtain ⟨node', found', below⟩ := at?_rewritten_below there content' found
            rw [Disk.put_top, found']
            exact below []
  rw [run, run, Disk.ask_mutual (fun _ _ => Node.isDirectory_of_kind) forth back, same, hinders]
  simp only [select, leads]

end Discovery

/-- A file that was not written over is read as before. -/
theorem Build.readWithin_rewritten {disk : Disk} {names : List String} {content : Content} {root : Path}
    {path : String} (there : disk.top.at? names = some (.file content)) (content' : Content)
    (other : disk.locate (root ++ Path.ofText path) ≠ .ok names) :
    readWithin (disk.put names (.file content')) root path = readWithin disk root path := by
  simp only [readWithin, Disk.read, Disk.contentAt_rewritten there content' other]

end Docwright
