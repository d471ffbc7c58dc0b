import Docwright.Discovery
import Docwright.Proofs.Disk.Opening
import Mathlib.Tactic.ByContra

/-!
# Names on a disk

The names that entries of a directory can have are such that a path can be taken apart
again where its names were joined (`ofText_joined`), so different names are joined to
different paths (`joined_injective`).

In a tree with such names, each once in a directory (`Node.Sound`), names of real
directories are followed one after another, unless one of them is too long
(`resolve_real`), and a name with a null character leads nowhere (`locate_null`).
-/

namespace Docwright

/-- A name that an entry of a directory can have. -/
structure IsName (name : String) : Prop where
  nonempty : name ≠ ""
  point : name ≠ "."
  points : name ≠ ".."
  slashless : '/' ∉ name.toList
  nullless : '\x00' ∉ name.toList

instance (name : String) : Decidable (IsName name) :=
  decidable_of_iff (name ≠ "" ∧ name ≠ "." ∧ name ≠ ".." ∧ '/' ∉ name.toList ∧ '\x00' ∉ name.toList)
    ⟨fun ⟨nonempty, point, points, slashless, nullless⟩ => ⟨nonempty, point, points, slashless, nullless⟩,
      fun ⟨nonempty, point, points, slashless, nullless⟩ => ⟨nonempty, point, points, slashless, nullless⟩⟩

theorem IsName.not_isPoints {name : String} (h : IsName name) : ¬ Path.isPoints name := by
  simp [Path.isPoints, h.point, h.points]

/-! ### Paths and their names -/

namespace Path

variable {part rest : List Char} {name : String} {names : List String}

theorem cut_slashless (slashless : '/' ∉ part) : cut part = [part] := by
  induction part with
  | nil => rfl
  | cons c part ih =>
      rw [List.mem_cons, not_or] at slashless
      rw [cut, ih slashless.2]
      rintro rfl
      exact slashless.1 rfl

theorem cut_append (slashless : '/' ∉ part) : cut (part ++ '/' :: rest) = part :: cut rest := by
  induction part with
  | nil => rfl
  | cons c part ih =>
      rw [List.mem_cons, not_or] at slashless
      rw [List.cons_append, cut, ih slashless.2]
      rintro rfl
      exact slashless.1 rfl

/-- Names are found again where they were joined. -/
theorem cut_joined (all : ∀ name ∈ names, IsName name) (some_ : names ≠ []) :
    cut (Discovery.joined names).toList = names.map String.toList := by
  induction names with
  | nil => exact absurd rfl some_
  | cons name rest ih =>
      obtain ⟨first, others⟩ := List.forall_mem_cons.mp all
      cases rest with
      | nil =>
          rw [Discovery.joined, String.intercalate_singleton]
          exact cut_slashless first.slashless
      | cons next more =>
          have split : (Discovery.joined (name :: next :: more)).toList =
              name.toList ++ '/' :: (Discovery.joined (next :: more)).toList := by
            rw [Discovery.joined, String.intercalate_cons_cons, String.toList_append, String.toList_append,
              List.append_assoc]
            rfl
          rw [split, cut_append first.slashless, ih others (List.cons_ne_nil _ _)]
          rfl

/-- Joined names do not begin with a slash. -/
theorem rootOf_joined {name : String} {rest : List String} (first : IsName name) :
    rootOf (Discovery.joined (name :: rest)).toList = "" := by
  obtain ⟨nonempty, -, -, slashless, -⟩ := first
  obtain ⟨c, cs, chars⟩ := List.exists_cons_of_ne_nil (fun empty => nonempty (String.toList_eq_nil_iff.mp empty))
  obtain ⟨more, begins⟩ : ∃ more, (Discovery.joined (name :: rest)).toList = c :: more := by
    cases rest with
    | nil =>
        rw [Discovery.joined, String.intercalate_singleton]
        exact ⟨cs, chars⟩
    | cons next rest =>
        rw [Discovery.joined, String.intercalate_cons_cons, String.toList_append,
          String.toList_append, chars]
        exact ⟨_, rfl⟩
  have other : (c == '/') = false := by
    rw [chars, List.mem_cons, not_or] at slashless
    exact beq_eq_false_iff_ne.mpr (Ne.symm slashless.1)
  rw [begins, rootOf, List.takeWhile_cons, other]
  rfl

/-- A path is read as the names that it was joined of. -/
theorem ofText_joined (all : ∀ name ∈ names, IsName name) :
    ofText (Discovery.joined names) = ⟨"", names⟩ := by
  cases names with
  | nil => rfl
  | cons name rest =>
      have kept : (cut (Discovery.joined (name :: rest)).toList).filter
          (fun part => part != [] && part != ['.']) = (name :: rest).map String.toList := by
        rw [cut_joined all (List.cons_ne_nil _ _), List.filter_eq_self]
        intro part member
        obtain ⟨name', among, rfl⟩ := List.mem_map.mp member
        obtain ⟨nonempty, point, -, -, -⟩ := all name' among
        have nonempty' : name'.toList ≠ [] := by simpa using nonempty
        have point' : name'.toList ≠ ['.'] := fun same => point (String.toList_inj.mp same)
        simp [nonempty', point']
      rw [ofText, namesOf, kept, rootOf_joined (all name List.mem_cons_self), List.map_map]
      simp

/-- A link to a name leads to that name. -/
theorem ofTarget_of_isName (named : IsName name) : ofTarget name = ⟨"", [name]⟩ := by
  have one := @ofText_joined [name] (List.forall_mem_singleton.mpr named)
  rw [Discovery.joined, String.intercalate_singleton] at one
  have nonempty : name.toList ≠ [] := fun empty => named.nonempty (String.toList_eq_nil_iff.mp empty)
  have point : name.toList ≠ ['.'] := fun same => named.point (String.toList_inj.mp same)
  rw [ofTarget, cut_slashless named.slashless, List.getLast?_singleton]
  split
  · next ends => exact absurd (Option.some.inj ends) nonempty
  · next ends => exact absurd (Option.some.inj ends) point
  · exact one

/-- Different names are joined to different paths. -/
theorem joined_injective {names' : List String} (all : ∀ name ∈ names, IsName name)
    (all' : ∀ name ∈ names', IsName name) (same : Discovery.joined names = Discovery.joined names') :
    names = names' := by
  have read := ofText_joined all
  rw [same, ofText_joined all'] at read
  exact (Path.mk.inj read).2.symm

end Path

/-! ### Sound trees -/

namespace Node

open Disk (Fault)

/-- A tree as it is on a disk: entries have names, each of which is there once in a directory. -/
structure Sound (top : Node) : Prop where
  named : ∀ {here entries}, top.at? here = some (directory entries) → ∀ entry ∈ entries, IsName entry.1
  distinct : ∀ {here entries}, top.at? here = some (directory entries) → (entries.map Prod.fst).Nodup

variable {top node : Node} {here names : List String} {name : String} {links : Nat}
  {entries : List (String × Node)}

/-- What is among entries is under its name, if every name is there once. -/
theorem lookup_of_mem (distinct : (entries.map Prod.fst).Nodup) (member : (name, node) ∈ entries) :
    entries.lookup name = some node := by
  obtain ⟨front, back, rfl⟩ := List.append_of_mem member
  refine List.lookup_eq_some_iff.mpr ⟨front, back, rfl, fun entry before => ?_⟩
  rw [List.map_append, List.map_cons, List.nodup_append] at distinct
  have other := distinct.2.2 entry.1 (List.mem_map_of_mem before) name List.mem_cons_self
  exact bne_iff_ne.mpr (Ne.symm other)

/-- Induction over a tree, from what is in a directory to the directory. -/
theorem child_induction {motive : Node → Prop}
    (step : ∀ node, (∀ entries, node = directory entries → ∀ entry ∈ entries, motive entry.2) → motive node)
    (node : Node) : motive node :=
  step node fun entries same entry member =>
    have smaller : sizeOf entry.2 < sizeOf node := by
      have among := List.sizeOf_lt_of_mem member
      obtain ⟨name, child⟩ := entry
      rw [Prod.mk.sizeOf_spec] at among
      rw [same, directory.sizeOf_spec]
      show sizeOf child < _
      omega
    child_induction step entry.2
termination_by sizeOf node

/-- Names that lead to something in a sound tree. -/
theorem Sound.isName (sound : top.Sound) (there : top.kindAt (here ++ names) ≠ none) :
    ∀ name ∈ names, IsName name := by
  induction names generalizing here with
  | nil => exact nofun
  | cons first rest ih =>
      rw [List.append_cons] at there
      refine List.forall_mem_cons.mpr ⟨?_, ih there⟩
      have above : top.at? (here ++ [first]) ≠ none := by
        intro missing
        rw [kindAt, at?_append, missing] at there
        exact there rfl
      obtain ⟨node, found⟩ := Option.ne_none_iff_exists'.mp above
      obtain ⟨entries, directory⟩ := kindAt_directory.mp (kindAt_of_snoc (kindAt_of_at? found))
      rw [at?_snoc directory] at found
      exact sound.named directory _ (mem_of_lookup found)

/-- What is in a sound tree is sound. -/
theorem Sound.of_at? (sound : top.Sound) (found : top.at? here = some node) : node.Sound where
  named {more entries} directory := by
    refine @Sound.named top sound (here ++ more) entries ?_
    rwa [at?_append, found]
  distinct {more entries} directory := by
    refine @Sound.distinct top sound (here ++ more) entries ?_
    rwa [at?_append, found]

theorem sound_file (content : Content) : (file content).Sound where
  named {here _} directory := by cases here <;> cases directory
  distinct {here _} directory := by cases here <;> cases directory

theorem sound_link (target : String) : (link target).Sound where
  named {here _} directory := by cases here <;> cases directory
  distinct {here _} directory := by cases here <;> cases directory

/-- A directory is sound if its names are names, each of them once, and what it holds is sound. -/
theorem sound_directory_iff :
    (directory entries).Sound ↔
      (∀ entry ∈ entries, IsName entry.1) ∧ (entries.map Prod.fst).Nodup ∧
        ∀ entry ∈ entries, entry.2.Sound := by
  constructor
  · intro sound
    have top : (directory entries).at? [] = some (directory entries) := rfl
    refine ⟨sound.named top, sound.distinct top, fun entry member => ?_⟩
    have found : (directory entries).at? [entry.1] = some entry.2 := by
      rw [← List.nil_append [entry.1], at?_snoc top]
      exact lookup_of_mem (sound.distinct top) member
    exact sound.of_at? found
  · rintro ⟨named, distinct, inner⟩
    -- below a name it is the soundness of what is there
    have below : ∀ {name rest node}, (directory entries).at? (name :: rest) = some node →
        ∃ child : Node, child.Sound ∧ child.at? rest = some node := by
      intro name rest node found
      obtain ⟨child, there, deeper⟩ := Option.bind_eq_some_iff.mp found
      exact ⟨child, inner _ (mem_of_lookup there), deeper⟩
    constructor
    · intro here entries' found
      cases here with
      | nil =>
          cases found
          exact named
      | cons name rest =>
          obtain ⟨child, sound, deeper⟩ := below found
          exact sound.named deeper
    · intro here entries' found
      cases here with
      | nil =>
          cases found
          exact distinct
      | cons name rest =>
          obtain ⟨child, sound, deeper⟩ := below found
          exact sound.distinct deeper

/-- Something is in a directory only. -/
theorem kindAt_directory_of_append {first : String} {rest : List String}
    (there : top.kindAt (here ++ first :: rest) ≠ none) : top.kindAt here = some .directory := by
  have above : top.at? (here ++ [first]) ≠ none := by
    intro missing
    rw [List.append_cons, kindAt, at?_append, missing] at there
    exact there rfl
  obtain ⟨node, found⟩ := Option.ne_none_iff_exists'.mp above
  exact kindAt_of_snoc (kindAt_of_at? found)

/-- **Names of real directories are followed one after another**, if none is too long. -/
theorem resolve_real (sound : top.Sound) (real : top.Real (here ++ names)) :
    top.resolve links here names = .ok (here ++ names) ∨
      top.resolve links here names = .error .nameTooLong := by
  induction names generalizing here with
  | nil =>
      rw [resolve_nil, List.append_nil]
      exact .inl rfl
  | cons first rest ih =>
      have there := real.there
      have directory := kindAt_directory_of_append there
      have named := sound.isName there first List.mem_cons_self
      rw [List.append_cons] at real ⊢
      have onwards := ih real
      -- only the last name may be that of a file, and none is that of a link
      have next : ∃ kind, top.kindAt (here ++ [first]) = some kind ∧ ∀ target, kind ≠ .link target := by
        cases rest with
        | nil =>
            rw [List.append_nil] at real
            obtain inner | inner := real
            · exact ⟨_, inner, nofun⟩
            · exact ⟨_, inner, nofun⟩
        | cons second more => exact ⟨_, kindAt_directory_of_append real.there, nofun⟩
      obtain ⟨kind, kinded, unlinked⟩ := next
      rw [resolve_cons, turn, if_pos directory, if_neg named.not_isPoints]
      by_cases long : nameLimit < first.utf8ByteSize
      · rw [if_pos long]
        exact .inr rfl
      · rw [if_neg long, kinded]
        cases kind with
        | link target => exact absurd rfl (unlinked target)
        | file | directory => exact onwards

/-- A name with a null character leads nowhere. -/
theorem resolve_null (sound : top.Sound) (null : ∃ name ∈ names, '\x00' ∈ name.toList) (out : List String) :
    top.resolve links here names ≠ .ok out := by
  induction links, here, names using turn_induction top with
  | nil links here => exact absurd null (by simp)
  | cons links here name rest ih =>
      rw [resolve_cons]
      cases turned : top.turn links here name with
      | ends fault => nofun
      | goes links' here' first =>
          refine ih links' here' first turned ?_
          obtain ⟨bad, member, null⟩ := null
          obtain rfl | later := List.mem_cons.mp member
          · exfalso
            have missing : top.kindAt (here ++ [bad]) = none := by
              by_contra there
              exact (sound.isName there bad List.mem_cons_self).nullless null
            have down : ¬ Path.isPoints bad := by
              rw [Path.isPoints, Bool.or_eq_true, beq_iff_eq, beq_iff_eq]
              rintro (rfl | rfl) <;> exact absurd null (by decide)
            rw [turn, missing, if_neg down] at turned
            split at turned
            · split at turned <;> cases turned
            · cases turned
          · exact ⟨bad, List.mem_append_right first later, null⟩

end Node

/-! ### Paths below a root -/

namespace Disk

open Discovery (pathOf)

variable {disk : Disk} {here names : List String} {root : Path}

theorem hasNull_of_locate (sound : disk.top.Sound) (located : disk.locate root = .ok here) :
    root.hasNull = false := by
  by_contra null
  rw [Bool.not_eq_false, Path.hasNull, List.any_eq_true] at null
  obtain ⟨name, member, null⟩ := null
  exact Node.resolve_null sound ⟨name, member, by simpa using null⟩ here (locate_ok located).2.2

theorem pathOf_eq : pathOf root names = ⟨root.root, root.names ++ names⟩ := rfl

theorem hasNull_pathOf (sound : disk.top.Sound) (located : disk.locate root = .ok here)
    (there : disk.top.kindAt (here ++ names) ≠ none) : (pathOf root names).hasNull = false := by
  have above := hasNull_of_locate sound located
  rw [Path.hasNull] at above
  rw [pathOf_eq, Path.hasNull, List.any_append, above, Bool.false_or, List.any_eq_false]
  intro name member
  have nullless := (sound.isName there name member).nullless
  simpa using nullless

/-- What can be asked about below a root and is no link is found where it is. -/
theorem locate_below (sound : disk.top.Sound) (located : disk.locate root = .ok here)
    (real : disk.top.Real (here ++ names)) :
    disk.locate (pathOf root names) = .ok (here ++ names) ∨
      disk.locate (pathOf root names) = .error .nameTooLong := by
  obtain ⟨-, within, resolved⟩ := locate_ok located
  obtain ⟨links, onwards⟩ := Node.resolve_append names resolved
  by_cases fits : Node.pathLimit < (pathOf root names).text.utf8ByteSize
  · rw [locate, if_pos fits]
    exact .inr rfl
  · rw [locate_eq fits within]
    show disk.top.resolve Node.linkLimit (root.base disk.home) (root.names ++ names) = _ ∨
      disk.top.resolve Node.linkLimit (root.base disk.home) (root.names ++ names) = _
    rw [onwards]
    exact Node.resolve_real sound real

end Disk

end Docwright
