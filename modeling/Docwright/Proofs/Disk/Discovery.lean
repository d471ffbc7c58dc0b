import Docwright.Proofs.Disk.Names
import Docwright.Proofs.Disk.Rewriting
import Docwright.Proofs.Sorting
import Mathlib.Data.List.Nodup

/-!
# Discovery is exact

Going through a directory comes to everything that is below it and not behind a link, and
to each of it once (`mem_entries_iff`, `nodup_entriesBelow`).  So a list of files is exact
(`run_eq_ok_iff`): it has the paths of what is a file or a link that leads to one and has
one of the suffixes, in the order of their characters.

There is no list where something cannot be asked about, and this is so whatever suffix it
has (`Obstructed`).

What is listed is said by the kinds of what is in the tree, and by the set of the suffixes.
So it does not depend on the order of the entries in a directory (`Disk.Reordered`), on
which the way through the tree does depend, nor on how the suffixes are given.
-/

namespace Docwright

namespace Discovery

open Disk (Fault)
open Node (kindAt)

variable {disk : Disk} {root : Path} {extensions : List String} {failure : Failure} {node : Node}
  {here below names : List String} {entries : List (String × Node)} {paths : List String} {p : String}

/-- Where there is no list, the disk cannot be asked about a path. -/
theorem run_error (failed : run disk root extensions = .error failure) :
    ∃ fault place question, disk.ask place question = .error fault ∧ failure = .disk fault place := by
  unfold run at failed
  split at failed
  · next fault asked => exact ⟨fault, root, _, asked, (Except.error.inj failed).symm⟩
  · cases failed
  · split at failed
    · next failure' hindered =>
        obtain ⟨names, -, obstacle⟩ := List.exists_of_findSome?_eq_some hindered
        unfold obstacle? at obstacle
        split at obstacle
        · cases obstacle
        · next fault asked =>
            rw [← Except.error.inj failed, ← Option.some.inj obstacle]
            exact ⟨fault, _, _, asked, rfl⟩
    · cases failed

/-! ### The way through a tree -/

theorem mem_entriesAmong :
    names ∈ entriesAmong here entries ↔ ∃ entry ∈ entries, names ∈ entriesBelow (here ++ [entry.1]) entry.2 := by
  induction entries with
  | nil => simp [entriesAmong]
  | cons entry rest ih => rw [entriesAmong, List.mem_append, ih, List.exists_mem_cons_iff]

/-- The way comes to what is in the tree only. -/
theorem exists_of_mem_entriesBelow (sound : node.Sound) (member : names ∈ entriesBelow here node) :
    ∃ rest, rest ≠ [] ∧ names = here ++ rest ∧ node.kindAt rest ≠ none := by
  induction node using Node.child_induction generalizing here with
  | step node ih =>
      cases node with
      | file content => cases member
      | link target => cases member
      | directory entries =>
          obtain ⟨-, distinct, inner⟩ := Node.sound_directory_iff.mp sound
          rw [entriesBelow, List.mem_append, mem_entriesAmong, List.mem_map] at member
          obtain ⟨⟨name, child⟩, among, rfl⟩ | ⟨⟨name, child⟩, among, deeper⟩ := member
          · refine ⟨[name], List.cons_ne_nil _ _, rfl, ?_⟩
            rw [Node.kindAt_cons, Node.lookup_of_mem distinct among]
            exact Option.some_ne_none _
          · obtain ⟨rest, -, rfl, there⟩ := ih entries rfl (name, child) among (inner _ among) deeper
            refine ⟨name :: rest, List.cons_ne_nil _ _, by simp, ?_⟩
            rwa [Node.kindAt_cons, Node.lookup_of_mem distinct among]

/-- The way comes to everything in the tree. -/
theorem mem_entriesBelow (some_ : names ≠ []) (there : node.kindAt names ≠ none) :
    here ++ names ∈ entriesBelow here node := by
  induction names generalizing node here with
  | nil => exact absurd rfl some_
  | cons name rest ih =>
      cases node with
      | file content => exact absurd rfl there
      | link target => exact absurd rfl there
      | directory entries =>
          rw [Node.kindAt_cons] at there
          cases found : entries.lookup name with
          | none =>
              rw [found] at there
              exact absurd rfl there
          | some child =>
              rw [found] at there
              have among := Node.mem_of_lookup found
              rw [entriesBelow, List.mem_append]
              cases rest with
              | nil => exact .inl (List.mem_map_of_mem among)
              | cons next more =>
                  have deeper := @ih child (here ++ [name]) (List.cons_ne_nil _ _) there
                  rw [← List.append_cons] at deeper
                  exact .inr (mem_entriesAmong.mpr ⟨_, among, deeper⟩)

/-- The ways below entries with different names do not meet. -/
theorem nodup_entriesAmong (distinct : (entries.map Prod.fst).Nodup)
    (behind : ∀ entry ∈ entries, ∀ names ∈ entriesBelow (here ++ [entry.1]) entry.2,
      ∃ rest, names = here ++ entry.1 :: rest)
    (once : ∀ entry ∈ entries, (entriesBelow (here ++ [entry.1]) entry.2).Nodup) :
    (entriesAmong here entries).Nodup := by
  induction entries with
  | nil => exact .nil
  | cons entry rest ih =>
      obtain ⟨first, distinct⟩ := List.nodup_cons.mp distinct
      obtain ⟨own, others⟩ := List.forall_mem_cons.mp once
      obtain ⟨ownBehind, othersBehind⟩ := List.forall_mem_cons.mp behind
      rw [entriesAmong, List.nodup_append]
      refine ⟨own, ih distinct othersBehind others, fun names member names' member' same => ?_⟩
      obtain ⟨more, rfl⟩ := ownBehind names member
      obtain ⟨entry', among, deeper⟩ := mem_entriesAmong.mp member'
      obtain ⟨more', rfl⟩ := othersBehind entry' among names' deeper
      obtain ⟨same, -⟩ := List.cons.inj (List.append_cancel_left same)
      exact first (same ▸ List.mem_map_of_mem among)

/-- The way comes to everything once. -/
theorem nodup_entriesBelow (sound : node.Sound) : (entriesBelow here node).Nodup := by
  induction node using Node.child_induction generalizing here with
  | step node ih =>
      cases node with
      | file content => exact .nil
      | link target => exact .nil
      | directory entries =>
          obtain ⟨-, distinct, inner⟩ := Node.sound_directory_iff.mp sound
          -- what is below an entry goes on behind its name
          have behind : ∀ entry ∈ entries, ∀ names ∈ entriesBelow (here ++ [entry.1]) entry.2,
              ∃ rest, rest ≠ [] ∧ names = here ++ entry.1 :: rest := by
            intro entry among names member
            obtain ⟨rest, some_, rfl, -⟩ := exists_of_mem_entriesBelow (inner entry among) member
            exact ⟨rest, some_, by simp⟩
          rw [entriesBelow, List.nodup_append]
          refine ⟨?_, nodup_entriesAmong distinct
            (fun entry among names member => (behind entry among names member).imp fun _ rest => rest.2)
            (fun entry among => ih entries rfl entry among (inner entry among)), ?_⟩
          · have own : entries.map (here ++ [·.1]) = (entries.map Prod.fst).map (here ++ [·]) := by
              rw [List.map_map]
              rfl
            rw [own]
            exact distinct.map fun _ _ same => List.singleton_inj.mp (List.append_cancel_left same)
          · intro names member names' member' same
            obtain ⟨entry, -, rfl⟩ := List.mem_map.mp member
            obtain ⟨entry', among, deeper⟩ := mem_entriesAmong.mp member'
            obtain ⟨rest, some_, rfl⟩ := behind entry' among names' deeper
            exact some_ (List.cons.inj (List.append_cancel_left same)).2.symm

/-- **What is gone through below a root** is what stands there behind no link. -/
theorem mem_entries_iff (sound : disk.top.Sound) :
    names ∈ Discovery.entries disk root ↔
      ∃ here, disk.locate root = .ok here ∧ names ≠ [] ∧ disk.top.kindAt (here ++ names) ≠ none := by
  unfold Discovery.entries Disk.find
  cases located : disk.locate root with
  | error fault => simp [bind, Except.bind]
  | ok here =>
      simp only [bind, Except.bind, Except.ok.injEq, exists_eq_left']
      cases found : disk.top.at? here with
      | none => simp [Node.kindAt, Node.at?_append, found]
      | some node =>
          have below : disk.top.kindAt (here ++ names) = node.kindAt names := by
            rw [Node.kindAt, Node.at?_append, found]
            rfl
          rw [below]
          dsimp only
          constructor
          · intro member
            obtain ⟨rest, some_, rfl, there⟩ := exists_of_mem_entriesBelow (sound.of_at? found) member
            exact ⟨some_, there⟩
          · rintro ⟨some_, there⟩
            exact mem_entriesBelow some_ there

theorem nodup_entries (sound : disk.top.Sound) : (Discovery.entries disk root).Nodup := by
  unfold Discovery.entries Disk.find
  cases disk.locate root with
  | error fault => exact .nil
  | ok here =>
      simp only [bind, Except.bind]
      cases found : disk.top.at? here with
      | none => exact .nil
      | some node => exact nodup_entriesBelow (sound.of_at? found)

/-! ### Files -/

/-- At the end of names below a root there is a file, or a link that leads to one. -/
inductive IsSource (disk : Disk) (root : Path) (here names : List String) : Prop
  | file (there : disk.top.kindAt (here ++ names) = some .file)
  | link {target : String} {out : List String} (there : disk.top.kindAt (here ++ names) = some (.link target))
      (leads : disk.locate (pathOf root names) = .ok out) (file : disk.top.kindAt out = some .file)

theorem IsSource.there (source : IsSource disk root here names) : disk.top.kindAt (here ++ names) ≠ none := by
  cases source with
  | file there | link there _ _ =>
      rw [there]
      exact Option.some_ne_none _

/-- Something below a root that can be asked about leads to a file if following its path comes to one. -/
theorem leadsToFile_iff (sound : disk.top.Sound) (located : disk.locate root = .ok here)
    (there : disk.top.kindAt (here ++ names) ≠ none) :
    leadsToFile disk root names = true ↔
      ∃ out, disk.locate (pathOf root names) = .ok out ∧ disk.top.kindAt out = some .file := by
  unfold leadsToFile Disk.ask Disk.find
  rw [Disk.hasNull_pathOf sound located there, if_neg Bool.false_ne_true]
  cases disk.locate (pathOf root names) with
  | error fault => cases fault <;> simp [bind, Except.bind]
  | ok out =>
      simp only [bind, Except.bind, Except.ok.injEq, exists_eq_left', Node.kindAt]
      cases disk.top.at? out with
      | none => simp
      | some node => cases node <;> simp [Node.isFile, Node.kind]

/-- Nothing keeps from asking about something unless its path is too long to be followed. -/
theorem locate_of_obstacle?_none (sound : disk.top.Sound) (located : disk.locate root = .ok here)
    (there : disk.top.kindAt (here ++ names) ≠ none) (free : obstacle? disk root names = none) :
    disk.locate (pathOf root names) ≠ .error .nameTooLong := by
  intro long
  unfold obstacle? Disk.ask Disk.find at free
  rw [Disk.hasNull_pathOf sound located there, if_neg Bool.false_ne_true, long] at free
  cases free

/-- What is asked about and not kept from it is listed if it is a file or a link to one. -/
theorem leadsToFile_iff_isSource (sound : disk.top.Sound) (located : disk.locate root = .ok here)
    (there : disk.top.kindAt (here ++ names) ≠ none) (free : obstacle? disk root names = none) :
    leadsToFile disk root names = true ↔ IsSource disk root here names := by
  have follows : disk.top.Real (here ++ names) → disk.locate (pathOf root names) = .ok (here ++ names) :=
    fun real => (Disk.locate_below sound located real).resolve_right
      (locate_of_obstacle?_none sound located there free)
  rw [leadsToFile_iff sound located there]
  constructor
  · rintro ⟨out, leads, file⟩
    obtain ⟨kind, kinded⟩ := Option.ne_none_iff_exists'.mp there
    cases kind with
    | file => exact .file kinded
    | directory =>
        obtain rfl := Except.ok.inj (leads.symm.trans (follows (.inl kinded)))
        cases file.symm.trans kinded
    | link target => exact .link kinded leads file
  · rintro (file | ⟨-, leads, file⟩)
    · exact ⟨_, follows (.inr file), file⟩
    · exact ⟨_, leads, file⟩

/-! ### What is listed -/

/-- Names of a file that is looked for: it is reached from the root through directories, and has one of the
suffixes. -/
structure Sought (disk : Disk) (root : Path) (extensions names : List String) : Prop where
  reached : ∃ here, disk.locate root = .ok here ∧ IsSource disk root here names
  suffix : ∃ name ∈ names.getLast?, ∃ extension ∈ extensions, Path.suffix name = pointed extension

/-- The root or something below it cannot be asked about. -/
inductive Obstructed (disk : Disk) (root : Path) : Prop
  | root {fault : Fault} (asked : disk.ask root Node.isDirectory = .error fault)
  | entry {fault : Fault} {here names : List String} (located : disk.locate root = .ok here)
      (below : names ≠ []) (there : disk.top.kindAt (here ++ names) ≠ none)
      (asked : disk.ask (pathOf root names) Node.isFile = .error fault)

theorem hasSuffix_iff :
    hasSuffix (extensions.map pointed) names = true ↔
      ∃ name ∈ names.getLast?, ∃ extension ∈ extensions, Path.suffix name = pointed extension := by
  unfold hasSuffix
  cases names.getLast? with
  | none => simp
  | some name => simp [eq_comm]

theorem Sought.ne_nil (sought : Sought disk root extensions names) : names ≠ [] := by
  rintro rfl
  obtain ⟨name, last, -⟩ := sought.suffix
  cases last

theorem Sought.isName (sound : disk.top.Sound) (sought : Sought disk root extensions names) :
    ∀ name ∈ names, IsName name := by
  obtain ⟨here, -, source⟩ := sought.reached
  exact sound.isName source.there

/-- What is below a root is below a directory. -/
theorem ask_of_below (sound : disk.top.Sound) (located : disk.locate root = .ok here) (below : names ≠ [])
    (there : disk.top.kindAt (here ++ names) ≠ none) : disk.ask root Node.isDirectory = .ok true := by
  obtain ⟨name, rest, rfl⟩ := List.exists_cons_of_ne_nil below
  obtain ⟨entries, directory⟩ := Node.kindAt_directory.mp (Node.kindAt_directory_of_append there)
  unfold Disk.ask Disk.find
  rw [Disk.hasNull_of_locate sound located, if_neg Bool.false_ne_true, located]
  simp only [bind, Except.bind, directory]
  rfl

theorem obstacle?_eq_none_iff :
    obstacle? disk root names = none ↔ ∀ fault, disk.ask (pathOf root names) Node.isFile ≠ .error fault := by
  unfold obstacle?
  cases disk.ask (pathOf root names) Node.isFile <;> simp

/-- Something is in the way below a directory if an entry cannot be asked about. -/
theorem obstructed_iff (sound : disk.top.Sound) (asked : disk.ask root Node.isDirectory = .ok true) :
    ¬ Obstructed disk root ↔ ∀ names ∈ Discovery.entries disk root, obstacle? disk root names = none := by
  constructor
  · intro free names member
    obtain ⟨here, located, below, there⟩ := (mem_entries_iff sound).mp member
    exact obstacle?_eq_none_iff.mpr fun fault failed => free (.entry located below there failed)
  · rintro free (failed | ⟨located, below, there, failed⟩)
    · cases asked.symm.trans failed
    · exact obstacle?_eq_none_iff.mp (free _ ((mem_entries_iff sound).mpr ⟨_, located, below, there⟩)) _ failed

theorem mem_select (sound : disk.top.Sound) (free : ∀ names ∈ Discovery.entries disk root,
    obstacle? disk root names = none) :
    p ∈ select disk root (extensions.map pointed) (Discovery.entries disk root) ↔
      ∃ names, p = joined names ∧ Sought disk root extensions names := by
  rw [select, Sorting.mem_sort, List.mem_map]
  simp only [List.mem_filter]
  constructor
  · rintro ⟨names, ⟨⟨member, leads⟩, suffix⟩, rfl⟩
    obtain ⟨here, located, below, there⟩ := (mem_entries_iff sound).mp member
    exact ⟨names, rfl, ⟨here, located,
      (leadsToFile_iff_isSource sound located there (free names member)).mp leads⟩, hasSuffix_iff.mp suffix⟩
  · rintro ⟨names, rfl, sought⟩
    obtain ⟨here, located, source⟩ := sought.reached
    have member : names ∈ Discovery.entries disk root :=
      (mem_entries_iff sound).mpr ⟨here, located, sought.ne_nil, source.there⟩
    exact ⟨names, ⟨⟨member, (leadsToFile_iff_isSource sound located source.there (free names member)).mpr
      source⟩, hasSuffix_iff.mpr sought.suffix⟩, rfl⟩

/-- What is listed is in strict order: different entries have different paths. -/
theorem ordered_select (sound : disk.top.Sound) (suffixes : List String) :
    (select disk root suffixes (Discovery.entries disk root)).Pairwise (· < ·) := by
  have named : ∀ names ∈ Discovery.entries disk root, ∀ name ∈ names, IsName name := by
    intro names member
    obtain ⟨here, -, -, there⟩ := (mem_entries_iff sound).mp member
    exact sound.isName there
  have once : ((((Discovery.entries disk root).filter (leadsToFile disk root)).filter
      (hasSuffix suffixes)).map joined).Nodup := by
    refine (((nodup_entries sound).filter _).filter _).map_on fun names member names' member' same => ?_
    have inner := (List.mem_filter.mp (List.mem_filter.mp member).1).1
    have inner' := (List.mem_filter.mp (List.mem_filter.mp member').1).1
    exact Path.joined_injective (named names inner) (named names' inner') same
  have total : ∀ a b : String, decide (a ≤ b) = true ∨ decide (b ≤ a) = true := by
    simpa only [decide_eq_true_iff] using String.le_total
  have trans : ∀ a b c : String, decide (a ≤ b) = true → decide (b ≤ c) = true → decide (a ≤ c) = true := by
    simpa only [decide_eq_true_iff] using fun a b c => @String.le_trans a b c
  have sorted := Sorting.pairwise_sort total trans
    ((((Discovery.entries disk root).filter (leadsToFile disk root)).filter (hasSuffix suffixes)).map joined)
  have different : (select disk root suffixes (Discovery.entries disk root)).Nodup :=
    (Sorting.sort_perm _).nodup_iff.mpr once
  refine (sorted.and different).imp fun ⟨first, other⟩ => ?_
  exact Std.lt_of_le_of_ne (of_decide_eq_true first) other

/-- Below what is no directory there is nothing that could be in the way or be looked for. -/
theorem nothing_below (sound : disk.top.Sound) (asked : disk.ask root Node.isDirectory = .ok false) :
    ¬ Obstructed disk root ∧ ∀ names, ¬ Sought disk root extensions names := by
  have nothing : ∀ {here names}, disk.locate root = .ok here → names ≠ [] →
      ¬ disk.top.kindAt (here ++ names) ≠ none := by
    intro here names located below there
    cases asked.symm.trans (ask_of_below sound located below there)
  constructor
  · rintro (failed | ⟨located, below, there, -⟩)
    · cases asked.symm.trans failed
    · exact nothing located below there
  · intro names sought
    obtain ⟨here, located, source⟩ := sought.reached
    exact nothing located sought.ne_nil source.there

/-- **A list is exact**, and there is one unless something is in the way. -/
theorem run_eq_ok_iff (sound : disk.top.Sound) :
    run disk root extensions = .ok paths ↔
      ¬ Obstructed disk root ∧ paths.Pairwise (· < ·) ∧
        ∀ p, p ∈ paths ↔ ∃ names, p = joined names ∧ Sought disk root extensions names := by
  unfold run
  cases asked : disk.ask root Node.isDirectory with
  | error fault => exact iff_of_false nofun fun clear => clear.1 (.root asked)
  | ok there =>
      cases there with
      | false =>
          obtain ⟨free, unsought⟩ := @nothing_below disk root extensions sound asked
          rw [Except.ok.injEq, and_iff_right free]
          refine Sorting.eq_iff_of_mem (fun _ _ => String.lt_asymm) .nil fun p => ?_
          exact iff_of_false List.not_mem_nil fun ⟨names, _, sought⟩ => unsought names sought
      | true =>
          have obstructed := obstructed_iff sound asked
          dsimp only
          cases hindered : (Discovery.entries disk root).findSome? (obstacle? disk root) with
          | some failure =>
              obtain ⟨names, member, obstacle⟩ := List.exists_of_findSome?_eq_some hindered
              refine iff_of_false nofun fun clear => ?_
              cases (obstructed.mp clear.1 names member).symm.trans obstacle
          | none =>
              have free := List.findSome?_eq_none_iff.mp hindered
              rw [Except.ok.injEq, and_iff_right (obstructed.mpr free)]
              exact Sorting.eq_iff_of_mem (fun _ _ => String.lt_asymm) (ordered_select sound _) fun p =>
                mem_select sound free

/-- Only a path that is too long cannot be asked about. -/
theorem fault_of_ask {path : Path} {question : Node → Bool} {fault : Fault}
    (failed : disk.ask path question = .error fault) : fault = .nameTooLong := by
  unfold Disk.ask at failed
  split at failed
  · cases failed
  · split at failed
    · cases failed
    · exact (Except.error.inj failed).symm
    · cases failed

/-- There is no list exactly where something is in the way. -/
theorem run_eq_error_iff (sound : disk.top.Sound) :
    (∃ path, run disk root extensions = .error (.disk .nameTooLong path)) ↔ Obstructed disk root := by
  constructor
  · rintro ⟨path, failed⟩
    unfold run at failed
    cases asked : disk.ask root Node.isDirectory with
    | error fault => exact .root asked
    | ok there =>
        rw [asked] at failed
        cases there with
        | false => cases failed
        | true =>
            by_contra free
            rw [obstructed_iff sound asked, ← List.findSome?_eq_none_iff] at free
            dsimp only at failed
            rw [free] at failed
            cases failed
  · intro obstructed
    cases result : run disk root extensions with
    | ok paths => exact absurd obstructed ((run_eq_ok_iff sound).mp result).1
    | error failure =>
        obtain ⟨fault, place, question, asked, rfl⟩ := run_error result
        exact ⟨place, by rw [fault_of_ask asked]⟩

end Discovery

/-! ### Entries in another order -/

namespace Node

variable {top top' : Node}

/-- A tree in which the entries of directories come in another order. -/
inductive Reordered : Node → Node → Prop
  | refl (node : Node) : Reordered node node
  | here {entries entries' : List (String × Node)} (perm : entries.Perm entries') :
      Reordered (directory entries) (directory entries')
  | inside {front back : List (String × Node)} {name : String} {child child' : Node}
      (inner : Reordered child child') :
      Reordered (directory (front ++ (name, child) :: back)) (directory (front ++ (name, child') :: back))
  | trans {a b c : Node} (first : Reordered a b) (second : Reordered b c) : Reordered a c

/-- Sound directories extend one another where the entries do. -/
theorem extends_sound {entries entries' : List (String × Node)} (sound : (directory entries').Sound)
    (grown : ∀ entry ∈ entries, ∃ child', (entry.1, child') ∈ entries' ∧ Extends entry.2 child') :
    Extends (directory entries) (directory entries') := by
  refine extends_directory fun name child found => ?_
  obtain ⟨child', among, grown⟩ := grown _ (mem_of_lookup found)
  exact ⟨child', lookup_of_mem (sound_directory_iff.mp sound).2.1 among, grown⟩

theorem mem_inside {front back : List (String × Node)} {name : String} {child : Node}
    {entry : String × Node} :
    entry ∈ front ++ (name, child) :: back ↔ entry = (name, child) ∨ entry ∈ front ++ back := by
  simp only [List.mem_append, List.mem_cons]
  exact or_left_comm

/-- A sound directory stays sound with another sound child under one of its names. -/
theorem sound_inside {front back : List (String × Node)} {name : String} {child child' : Node}
    (sound : (directory (front ++ (name, child) :: back)).Sound) (inner : child'.Sound) :
    (directory (front ++ (name, child') :: back)).Sound := by
  obtain ⟨named, distinct, children⟩ := sound_directory_iff.mp sound
  refine sound_directory_iff.mpr ⟨fun entry member => ?_, ?_, fun entry member => ?_⟩
  · obtain rfl | other := mem_inside.mp member
    · exact named (name, child) (mem_inside.mpr (.inl rfl))
    · exact named entry (mem_inside.mpr (.inr other))
  · simpa only [List.map_append, List.map_cons] using distinct
  · obtain rfl | other := mem_inside.mp member
    · exact inner
    · exact children entry (mem_inside.mpr (.inr other))

/-- A directory is extended where one of its children is. -/
theorem extends_inside {front back : List (String × Node)} {name : String} {child child' : Node}
    (sound : (directory (front ++ (name, child') :: back)).Sound) (grown : Extends child child') :
    Extends (directory (front ++ (name, child) :: back)) (directory (front ++ (name, child') :: back)) := by
  refine extends_sound sound fun entry member => ?_
  obtain rfl | other := mem_inside.mp member
  · exact ⟨child', mem_inside.mpr (.inl rfl), grown⟩
  · exact ⟨entry.2, mem_inside.mpr (.inr other), .refl _⟩

/-- A sound tree in another order is sound, and everything in it is of the same kind. -/
theorem Reordered.extends (reordered : Reordered top top') (sound : top.Sound) :
    top'.Sound ∧ Extends top top' ∧ Extends top' top := by
  induction reordered with
  | refl node => exact ⟨sound, .refl node, .refl node⟩
  | @here entries entries' perm =>
      have sound' : (directory entries').Sound := by
        obtain ⟨named, distinct, inner⟩ := sound_directory_iff.mp sound
        exact sound_directory_iff.mpr ⟨fun entry member => named entry (perm.mem_iff.mpr member),
          (perm.map _).nodup_iff.mp distinct, fun entry member => inner entry (perm.mem_iff.mpr member)⟩
      exact ⟨sound',
        extends_sound sound' fun entry member => ⟨entry.2, perm.mem_iff.mp member, .refl _⟩,
        extends_sound sound fun entry member => ⟨entry.2, perm.mem_iff.mpr member, .refl _⟩⟩
  | @inside front back name child child' inner ih =>
      have childSound := (sound_directory_iff.mp sound).2.2 _ (mem_inside.mpr (.inl rfl))
      obtain ⟨childSound', forth, back_⟩ := ih childSound
      have sound' := sound_inside sound childSound'
      exact ⟨sound', extends_inside sound' forth, extends_inside sound back_⟩
  | trans first second ih ih' =>
      obtain ⟨sound', forth, back⟩ := ih sound
      obtain ⟨sound'', forth', back'⟩ := ih' sound'
      exact ⟨sound'', forth.trans forth', back'.trans back⟩

end Node

namespace Disk

variable {disk disk' : Disk}

/-- A disk on which the entries of directories come in another order. -/
structure Reordered (disk disk' : Disk) : Prop where
  home : disk'.home = disk.home
  top : Node.Reordered disk.top disk'.top

theorem Reordered.extends (reordered : Reordered disk disk') (sound : disk.top.Sound) :
    disk'.top.Sound ∧ Extends disk disk' ∧ Extends disk' disk := by
  obtain ⟨sound', forth, back⟩ := reordered.top.extends sound
  exact ⟨sound', ⟨reordered.home, forth⟩, ⟨reordered.home.symm, back⟩⟩

end Disk

namespace Discovery

open Disk (Extends Reordered)

variable {disk disk' : Disk} {root : Path} {extensions extensions' names paths paths' : List String}

/-- What is looked for is found in a tree with the same kinds. -/
theorem Sought.mutual (forth : Extends disk disk') (back : Extends disk' disk)
    (sought : Sought disk root extensions names) : Sought disk' root extensions names := by
  obtain ⟨⟨here, located, source⟩, suffix⟩ := sought
  refine ⟨⟨here, by rw [Disk.locate_mutual forth back, located], ?_⟩, suffix⟩
  cases source with
  | file there => exact .file (forth.top _ _ there)
  | link there leads file =>
      exact .link (forth.top _ _ there) (by rw [Disk.locate_mutual forth back, leads]) (forth.top _ _ file)

/-- What is in the way is in the way in a tree with the same kinds. -/
theorem Obstructed.mutual (forth : Extends disk disk') (back : Extends disk' disk)
    (obstructed : Obstructed disk root) : Obstructed disk' root := by
  cases obstructed with
  | root asked =>
      exact .root (by rw [Disk.ask_mutual (fun _ _ => Node.isDirectory_of_kind) forth back, asked])
  | entry located below there asked =>
      obtain ⟨kind, kinded⟩ := Option.ne_none_iff_exists'.mp there
      refine .entry (by rw [Disk.locate_mutual forth back, located]) below ?_
        (by rw [Disk.ask_mutual (fun _ _ => Node.isFile_of_kind) forth back, asked])
      rw [forth.top _ _ kinded]
      exact Option.some_ne_none _

/-- The list does not depend on the order of the entries. -/
theorem run_reordered (sound : disk.top.Sound) (reordered : Reordered disk disk') :
    run disk' root extensions = .ok paths ↔ run disk root extensions = .ok paths := by
  obtain ⟨sound', forth, back⟩ := reordered.extends sound
  have obstructed : Obstructed disk' root ↔ Obstructed disk root :=
    ⟨Obstructed.mutual back forth, Obstructed.mutual forth back⟩
  have sought : ∀ names, Sought disk' root extensions names ↔ Sought disk root extensions names :=
    fun names => ⟨Sought.mutual back forth, Sought.mutual forth back⟩
  simp only [run_eq_ok_iff sound, run_eq_ok_iff sound', obstructed, sought]

/-- Only the set of the suffixes matters. -/
theorem run_suffixes (same : ∀ suffix, suffix ∈ extensions'.map pointed ↔ suffix ∈ extensions.map pointed) :
    run disk root extensions' = run disk root extensions := by
  have suffixes : hasSuffix (extensions'.map pointed) = hasSuffix (extensions.map pointed) := by
    funext names
    unfold hasSuffix
    cases names.getLast? with
    | none => rfl
    | some name => simp only [List.contains_eq_mem, same]
  simp only [run, select, suffixes]

/-- More suffixes add paths. -/
theorem run_mono (sound : disk.top.Sound)
    (more : ∀ suffix ∈ extensions.map pointed, suffix ∈ extensions'.map pointed)
    (done : run disk root extensions = .ok paths) :
    ∃ paths', run disk root extensions' = .ok paths' ∧ ∀ p ∈ paths, p ∈ paths' := by
  obtain ⟨free, -, mem⟩ := (run_eq_ok_iff sound).mp done
  cases done' : run disk root extensions' with
  | error failure =>
      obtain ⟨fault, place, question, asked, rfl⟩ := run_error done'
      obtain rfl := fault_of_ask asked
      exact absurd ((run_eq_error_iff sound).mp ⟨place, done'⟩) free
  | ok paths' =>
      refine ⟨paths', rfl, fun p member => ?_⟩
      obtain ⟨names, rfl, sought⟩ := (mem p).mp member
      obtain ⟨name, last, extension, given, suffix⟩ := sought.suffix
      obtain ⟨extension', given', same⟩ := List.mem_map.mp (more _ (List.mem_map_of_mem given))
      exact (((run_eq_ok_iff sound).mp done').2.2 _).mpr
        ⟨names, rfl, sought.reached, name, last, extension', given', suffix.trans same.symm⟩

/-! ### The whole -/

/-- What a list of files says. -/
structure Lists (disk : Disk) (root : Path) (extensions paths : List String) : Prop where
  ordered : paths.Pairwise (· < ·)
  mem_iff : ∀ p, p ∈ paths ↔ ∃ names, p = joined names ∧ Sought disk root extensions names
  /-- Joined to the root a path leads to a file, which is the one that is there unless that is a link. -/
  joins : ∀ p ∈ paths, ∃ here names out, disk.locate root = .ok here ∧ p = joined names ∧
    disk.locate (root ++ Path.ofText p) = .ok out ∧ disk.top.kindAt out = some .file ∧
      (disk.top.kindAt (here ++ names) = some .file → out = here ++ names)

theorem lists_of_run (sound : disk.top.Sound) (done : run disk root extensions = .ok paths) :
    Lists disk root extensions paths := by
  obtain ⟨free, ordered, mem⟩ := (run_eq_ok_iff sound).mp done
  refine ⟨ordered, mem, fun p member => ?_⟩
  obtain ⟨names, rfl, sought⟩ := (mem p).mp member
  obtain ⟨here, located, source⟩ := sought.reached
  have path : root ++ Path.ofText (joined names) = pathOf root names := by
    rw [Path.ofText_joined (sought.isName sound)]
    rfl
  have clear : obstacle? disk root names = none := obstacle?_eq_none_iff.mpr fun fault asked =>
    free (.entry located sought.ne_nil source.there asked)
  have follows : disk.top.Real (here ++ names) → disk.locate (pathOf root names) = .ok (here ++ names) :=
    fun real => (Disk.locate_below sound located real).resolve_right
      (locate_of_obstacle?_none sound located source.there clear)
  rw [path]
  cases source with
  | file there => exact ⟨here, names, _, located, rfl, follows (.inr there), there, fun _ => rfl⟩
  | link there leads file =>
      refine ⟨here, names, _, located, rfl, leads, file, fun other => ?_⟩
      cases there.symm.trans other

/-- **Discovery is exact.**  In a sound tree a list of files has in strict order the paths of what is looked
for, and there is one unless the root or something below it cannot be asked about.  It is the same in
whatever order the entries of directories come, and in whatever order, how often and with or without their
points the extensions are given; with more of them it has what it has with fewer. -/
theorem discovery_exact (sound : disk.top.Sound) (root : Path) (extensions : List String) :
    ((∃ path, run disk root extensions = .error (.disk .nameTooLong path)) ↔ Obstructed disk root) ∧
    (¬ Obstructed disk root →
      ∃ paths, run disk root extensions = .ok paths ∧ Lists disk root extensions paths) ∧
    (∀ disk', Reordered disk disk' → ∀ paths,
      run disk' root extensions = .ok paths ↔ run disk root extensions = .ok paths) ∧
    (∀ extensions', (∀ suffix, suffix ∈ extensions'.map pointed ↔ suffix ∈ extensions.map pointed) →
      run disk root extensions' = run disk root extensions) ∧
    ∀ extensions' paths, (∀ suffix ∈ extensions.map pointed, suffix ∈ extensions'.map pointed) →
      run disk root extensions = .ok paths →
        ∃ paths', run disk root extensions' = .ok paths' ∧ ∀ p ∈ paths, p ∈ paths' := by
  refine ⟨run_eq_error_iff sound, fun free => ?_, fun _ reordered _ => run_reordered sound reordered,
    fun _ => run_suffixes, fun _ _ => run_mono sound⟩
  cases done : run disk root extensions with
  | ok paths => exact ⟨paths, rfl, lists_of_run sound done⟩
  | error failure =>
      obtain ⟨fault, place, question, asked, rfl⟩ := run_error done
      obtain rfl := fault_of_ask asked
      exact absurd ((run_eq_error_iff sound).mp ⟨place, done⟩) free

/-! ### A project with links -/

/-- Files whose whole paths are in another order than the way to them, a directory with the name of a file,
and links: to a file, to the same file from the top and from above the top, to a file that would have to be a
directory, to a directory and to nothing. -/
def linked : List (String × Node) :=
  [("b", .directory [("c.py", .file (.bytes [])), (".py", .file (.bytes []))]),
    ("b!c.py", .file (.bytes [])), ("d.py", .directory []), ("t.py", .link "b!c.py"),
    ("u.py", .link "/work/proj/b!c.py"), ("v.py", .link "../../../work/proj/b!c.py"),
    ("w.py", .link "b!c.py/"), ("x.py", .link "b!c.py/."), ("y.py", .link "b"), ("z.py", .link "nowhere")]

/-- A disk with that project. -/
def grove : Disk := .directory [("proj", .directory linked)]

theorem sound_grove : grove.top.Sound := by
  have linked_ : (Node.directory linked).Sound := by
    refine Node.sound_directory_iff.mpr ⟨by decide +kernel, by decide +kernel, ?_⟩
    simp only [linked, List.forall_mem_cons]
    refine ⟨Node.sound_directory_iff.mpr ⟨by decide +kernel, by decide +kernel, ?_⟩, Node.sound_file _,
      Node.sound_directory_iff.mpr ⟨nofun, .nil, nofun⟩, Node.sound_link _, Node.sound_link _,
      Node.sound_link _, Node.sound_link _, Node.sound_link _, Node.sound_link _, Node.sound_link _, nofun⟩
    simp only [List.forall_mem_cons]
    exact ⟨Node.sound_file _, Node.sound_file _, nofun⟩
  have around : ∀ {name : String} {node : Node}, IsName name → node.Sound → (Node.directory [(name, node)]).Sound :=
    fun named sound => Node.sound_directory_iff.mpr
      ⟨List.forall_mem_singleton.mpr named, List.nodup_singleton _, List.forall_mem_singleton.mpr sound⟩
  exact around (by decide +kernel) (around (by decide +kernel) linked_)

/-- That project, from either end of its entries. -/
theorem discovery_exact_grove :
    grove.top.Sound ∧ run grove ⟨"", ["proj"]⟩ ["py"] = .ok ["b!c.py", "b/c.py", "t.py", "u.py", "v.py"] ∧
    Lists grove ⟨"", ["proj"]⟩ ["py"] ["b!c.py", "b/c.py", "t.py", "u.py", "v.py"] ∧
    run (.directory [("proj", .directory linked.reverse)]) ⟨"", ["proj"]⟩ ["py"] =
      .ok ["b!c.py", "b/c.py", "t.py", "u.py", "v.py"] ∧
    run grove ⟨"", ["proj"]⟩ [".py", "py"] = run grove ⟨"", ["proj"]⟩ ["py"] ∧
    ∃ paths, run grove ⟨"", ["proj"]⟩ ["md", "py"] = .ok paths ∧
      ∀ p ∈ ["b!c.py", "b/c.py", "t.py", "u.py", "v.py"], p ∈ paths := by
  have done : run grove ⟨"", ["proj"]⟩ ["py"] = .ok ["b!c.py", "b/c.py", "t.py", "u.py", "v.py"] := by
    decide +kernel
  obtain ⟨fails, lists, reorders, suffixes, mono⟩ := discovery_exact sound_grove ⟨"", ["proj"]⟩ ["py"]
  have free : ¬ Obstructed grove ⟨"", ["proj"]⟩ := fun obstructed => by
    obtain ⟨path, failed⟩ := fails.mpr obstructed
    cases done.symm.trans failed
  obtain ⟨paths, done', listed⟩ := lists free
  obtain rfl := Except.ok.inj (done.symm.trans done')
  have twice : [".py", "py"].map pointed = [".py", ".py"] ∧ ["py"].map pointed = [".py"] := by
    decide +kernel
  have inside : ∀ {name : String} {child child' : Node}, Node.Reordered child child' →
      Node.Reordered (.directory [(name, child)]) (.directory [(name, child')]) :=
    fun inner => @Node.Reordered.inside [] [] _ _ _ inner
  have reversed : Reordered grove (.directory [("proj", .directory linked.reverse)]) :=
    ⟨rfl, inside (inside (.here (List.reverse_perm linked).symm))⟩
  exact ⟨sound_grove, done, listed, (reorders _ reversed _).mpr done, suffixes _ (by simp [twice]),
    mono _ _ (by decide +kernel) done⟩

/-! ### A link to a name that is too long -/

/-- A project with a file, and a link that is none. -/
def straying (target : String) : Disk :=
  .directory [("proj", .directory [("a.py", .file (.bytes [])), ("x.md", .link target)])]

/-- A link to a name that is too long cannot be asked about. -/
theorem ask_straying {target : String} (named : IsName target) (long : Node.nameLimit < target.utf8ByteSize) :
    (straying target).ask ⟨"", ["proj", "x.md"]⟩ Node.isFile = .error .nameTooLong := by
  have read : Path.ofTarget target = ⟨"", [target]⟩ := Path.ofTarget_of_isName named
  have down : ¬ Path.isPoints target := named.not_isPoints
  have within : (straying target).top.kindAt ["work", "proj"] = some .directory := rfl
  have first : (straying target).top.turn 40 ["work"] "proj" = .goes 40 ["work", "proj"] [] := rfl
  have along : (straying target).top.turn 40 ["work", "proj"] "x.md" = .goes 39 ["work", "proj"] [target] := by
    change Node.Turn.goes 39 ((Path.ofTarget target).base _) (Path.ofTarget target).names = _
    rw [read]
    rfl
  have ends : (straying target).top.turn 39 ["work", "proj"] target = .ends .nameTooLong := by
    rw [Node.turn, if_pos within, if_neg down, if_pos long]
  have located : (straying target).locate ⟨"", ["proj", "x.md"]⟩ = .error .nameTooLong := by
    change (straying target).top.resolve 40 ["work"] ["proj", "x.md"] = _
    rw [Node.resolve_cons, first]
    change (straying target).top.resolve 40 ["work", "proj"] ["x.md"] = _
    rw [Node.resolve_cons, along]
    change (straying target).top.resolve 39 ["work", "proj"] [target] = _
    rw [Node.resolve_cons, ends]
  unfold Disk.ask Disk.find
  rw [located]
  rfl

/-- Such a link ends discovery, whatever suffixes are looked for. -/
theorem run_straying {target : String} (named : IsName target) (long : Node.nameLimit < target.utf8ByteSize)
    (extensions : List String) :
    run (straying target) ⟨"", ["proj"]⟩ extensions = .error (.disk .nameTooLong ⟨"", ["proj", "x.md"]⟩) := by
  have asked : (straying target).ask ⟨"", ["proj"]⟩ Node.isDirectory = .ok true := rfl
  have first : obstacle? (straying target) ⟨"", ["proj"]⟩ ["a.py"] = none := rfl
  have second : obstacle? (straying target) ⟨"", ["proj"]⟩ ["x.md"] =
      some (.disk .nameTooLong ⟨"", ["proj", "x.md"]⟩) := by
    unfold obstacle?
    rw [show pathOf ⟨"", ["proj"]⟩ ["x.md"] = ⟨"", ["proj", "x.md"]⟩ from rfl, ask_straying named long]
  have all : entries (straying target) ⟨"", ["proj"]⟩ = [["a.py"], ["x.md"]] := rfl
  unfold run
  rw [asked, all]
  simp [first, second]

/-- A name of one letter too many. -/
def longName : String := String.ofList (List.replicate 256 'a')

theorem isName_longName : IsName longName := by
  have letters : longName.toList = List.replicate 256 'a' := String.toList_ofList
  have other : ∀ name : String, name.toList.length < 256 → longName ≠ name := by
    rintro _ short rfl
    rw [letters, List.length_replicate] at short
    exact Nat.lt_irrefl _ short
  refine ⟨other _ (by decide), other _ (by decide), other _ (by decide), ?_, ?_⟩
  · rw [letters, List.mem_replicate]
    decide
  · rw [letters, List.mem_replicate]
    decide

/-- **A link to a name that is too long ends discovery**, also where it has none of the suffixes. -/
theorem long_target_obstructs :
    run (.directory [("proj", .directory
        [("a.py", .file (.bytes [])), ("x.md", .link (String.ofList (List.replicate 256 'a')))])])
      ⟨"", ["proj"]⟩ [".py"] = .error (.disk .nameTooLong ⟨"", ["proj", "x.md"]⟩) :=
  run_straying isName_longName (by decide +kernel) [".py"]

end Discovery

end Docwright
