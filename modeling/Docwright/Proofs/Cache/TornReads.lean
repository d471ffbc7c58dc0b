import Docwright.Proofs.Cache.Clients
import Docwright.Proofs.Cache.Rows

/-!
# What a lookup finds while others write

A lookup selects twice and is in no transaction, so a change may be committed between
its two selections.  Then what it finds was never stored: the fingerprint and the time
are those of the record that stood when the row of the file was selected, and the
problems are those of the record that stood when they were selected
(`lookups_splice`).  Each part is whole, for changes are committed as a whole, and is
found with scalars in the places of members.

If nothing about the path is committed in between, both are of one record, which a
single store wrote.  That the other case does occur is `torn_lookup`: two clients and
one file are enough.
-/

namespace Docwright.Cache

variable {ι : Type} {path : String} {record : FileRecord} {cs : List Change} {t : Tables}

/-! ### The record that stands -/

/-- The records by path after a change. -/
def Change.leaves (records : String → Option FileRecord) : Change → String → Option FileRecord
  | store path record => Function.update records path (some record)
  | clear => fun _ => none

/-- The records that stand after changes, by path. -/
def standing (cs : List Change) : String → Option FileRecord :=
  cs.foldl Change.leaves fun _ => none

/-- Whether a change is about a path. -/
def Change.Concerns (path : String) : Change → Prop
  | store q _ => q = path
  | clear => True

theorem standing_concat (cs : List Change) (c : Change) :
    standing (cs ++ [c]) = c.leaves (standing cs) := by
  rw [standing, List.foldl_append]
  rfl

theorem Change.leaves_of_not_concerns {c : Change} (other : ¬ c.Concerns path)
    (records : String → Option FileRecord) : c.leaves records path = records path := by
  cases c with
  | store q record => exact Function.update_of_ne (Ne.symm other) _ _
  | clear => exact absurd trivial other

/-- Changes about other paths leave standing what stands. -/
theorem standing_append {after : List Change} (others : ∀ c ∈ after, ¬ c.Concerns path)
    (before : List Change) : standing (before ++ after) path = standing before path := by
  induction after using List.reverseRecOn with
  | nil => rw [List.append_nil]
  | append_singleton after c ih =>
      rw [← List.append_assoc, standing_concat,
        Change.leaves_of_not_concerns (others c (List.mem_append_right _ (List.mem_singleton.mpr rfl)))]
      exact ih fun d member => others d (List.mem_append_left _ member)

/-- **A record that stands was stored**, and nothing about its path came after that. -/
theorem stored_of_standing (stands : standing cs path = some record) :
    ∃ before after, cs = before ++ .store path record :: after ∧ ∀ c ∈ after, ¬ c.Concerns path := by
  induction cs using List.reverseRecOn with
  | nil => cases stands
  | append_singleton cs c ih =>
      rw [standing_concat] at stands
      by_cases concerns : c.Concerns path
      · cases c with
        | clear => cases stands
        | store q new =>
            obtain rfl : q = path := concerns
            rw [Change.leaves, Function.update_self] at stands
            obtain rfl := Option.some.inj stands
            exact ⟨cs, [], rfl, nofun⟩
      · rw [Change.leaves_of_not_concerns concerns] at stands
        obtain ⟨before, after, rfl, others⟩ := ih stands
        refine ⟨before, after ++ [c], ?_, fun d member => ?_⟩
        · rw [List.append_assoc, List.cons_append]
        · rcases List.mem_append.mp member with early | last
          · exact others d early
          · rw [List.mem_singleton.mp last]
            exact concerns

/-- The tables hold, of each path, the rows of the record that stands. -/
theorem view_of_written (written : Written cs t) (path : String) :
    match standing cs path with
    | none => t.view path = (none, [])
    | some record => ∃ rows, problemRows? path 0 record.problems = some rows ∧
        t.view path = (some (fileRow path record), rows) := by
  induction written with
  | nil => rfl
  | @concat cs t t' c written changed ih =>
      rw [standing_concat]
      cases c with
      | clear => exact congrFun (Tables.view_clearing changed) path
      | store q new =>
          obtain ⟨rows, made, view⟩ := Tables.view_storing changed
          rw [Change.leaves, view]
          by_cases same : path = q
          · subst same
            rw [Function.update_self, Function.update_self]
            exact ⟨rows, made, rfl⟩
          · rw [Function.update_of_ne same, Function.update_of_ne same]
            exact ih

/-! ### What is found -/

/-- The records that a change stores can be read back. -/
def Change.Legible : Change → Prop
  | store _ record => record.Legible
  | clear => True

/-- What two moments make together of a path: a record with the problems of another one. -/
def splice (path : String) (first second : Option FileRecord) : Option FileRecord :=
  first.map fun r => ⟨path, r.fingerprint, r.analyzed, (second.map FileRecord.problems).getD []⟩

/-- What a record and itself make together. -/
theorem splice_self (path : String) (stands : Option FileRecord) :
    splice path stands stands = stands.map fun r => { r with path := path } := by
  cases stands <;> rfl

/-- A record can be read back that stands after legible changes. -/
theorem legible_of_standing (legible : ∀ c ∈ cs, c.Legible) (stands : standing cs path = some record) :
    record.Legible := by
  obtain ⟨before, after, rfl, -⟩ := stored_of_standing stands
  exact legible (.store path record) (List.mem_append_right _ List.mem_cons_self)

/-- What a row that was written finds in tables that were written: the problems may be those of another
record, or none at all. -/
theorem found_of_written {first second : List Change} {t₁ t₂ : Tables} (written₁ : Written first t₁)
    (written₂ : Written second t₂) (legible₁ : ∀ c ∈ first, c.Legible) (legible₂ : ∀ c ∈ second, c.Legible) :
    t₂.foundWith path (t₁.file? path) =
      .ok ((splice path (standing first path) (standing second path)).map FileRecord.plain) := by
  have view₁ := view_of_written written₁ path
  have view₂ := view_of_written written₂ path
  cases stands₁ : standing first path with
  | none =>
      rw [stands₁] at view₁
      have row : t₁.file? path = none := congrArg Prod.fst view₁
      rw [row]
      rfl
  | some r =>
      rw [stands₁] at view₁
      obtain ⟨_, -, view⟩ := view₁
      have row : t₁.file? path = some (fileRow path r) := congrArg Prod.fst view
      -- the problems are those of the second moment, whatever the row says
      obtain ⟨rows, made, problems⟩ : ∃ rows, problemRows? path 0
          (((standing second path).map FileRecord.problems).getD []) = some rows ∧
            t₂.problemsOf path = rows := by
        cases stands₂ : standing second path with
        | none =>
            rw [stands₂] at view₂
            exact ⟨[], rfl, congrArg Prod.snd view₂⟩
        | some r' =>
            rw [stands₂] at view₂
            obtain ⟨rows, made, view⟩ := view₂
            exact ⟨rows, made, congrArg Prod.snd view⟩
      have values : ∀ p ∈ ((standing second path).map FileRecord.problems).getD [], ∀ v ∈ p.values,
          v.Canonical := by
        cases stands₂ : standing second path with
        | none => nofun
        | some r' => exact (legible_of_standing legible₂ stands₂).values
      have read := @recordOf_rows path
        ⟨path, r.fingerprint, r.analyzed, ((standing second path).map FileRecord.problems).getD []⟩ rows
        ⟨(legible_of_standing legible₁ stands₁).analyzed, values⟩ rfl made
      rw [row, Tables.foundWith, problems]
      exact congrArg (Except.map some) read

variable [DecidableEq ι]

/-- **A lookup finds what two moments hold.**  Whatever clients do, and in whatever order, what a lookup finds
has the fingerprint and the time of the record that stood when its first selection was made, and all of
the problems of the record that stood when its second one was.  If nothing was committed about its path in
between, it has found the one record that stood. -/
theorem lookups_splice {moves : List (Move ι)} {s : System ι} (played : System.start.play moves = some s)
    (legible : ∀ i path record, Move.ask i (.change (.store path record)) ∈ moves → record.Legible)
    {earlier later : List (Entry ι)} {i : ι} {found : Except RowFault (Option FileRecord)}
    (noted : s.history = earlier ++ .answered i path found :: later) :
    ∃ before between, earlier = before ++ .selected i path :: between ∧ (∀ e ∈ between, e.client ≠ i) ∧
      found = .ok ((splice path (standing (changesOf before) path)
        (standing (changesOf earlier) path)).map FileRecord.plain) ∧
      ((∀ c ∈ changesOf between, ¬ c.Concerns path) →
        found = .ok ((standing (changesOf before) path).map fun r => { r.plain with path := path })) := by
  have asked : ∀ i c, Move.ask i (.change c) ∈ moves → c.Legible := by
    intro i c member
    cases c with
    | store path record => exact legible i path record member
    | clear => trivial
  have inv := System.inv_start.play asked played
  -- only what was committed before the answer counts, and all of that was asked for
  have readable : ∀ c ∈ changesOf earlier, c.Legible := by
    intro c member
    refine inv.asked c ?_
    rw [noted, changesOf_append]
    exact List.mem_append_left _ member
  -- from here on the tables of both moments are known by what was written into them
  obtain ⟨row, t₂, ⟨before, between, t₁, rfl, others, written₁, rfl⟩, written₂, same⟩ :=
    inv.answers _ _ _ _ _ noted
  have changes : changesOf (before ++ .selected i path :: between) = changesOf before ++ changesOf between :=
    changesOf_append before _
  have earliest : ∀ c ∈ changesOf before, c.Legible := fun c member =>
    readable c (changes ▸ List.mem_append_left _ member)
  rw [found_of_written written₁ written₂ earliest readable] at same
  refine ⟨before, between, rfl, others, same, fun foreign => ?_⟩
  rw [same, changes, standing_append foreign, splice_self, Option.map_map]
  rfl

/-! ### A torn lookup -/

/-- A record with one problem. -/
def older : FileRecord :=
  ⟨"a.py", "1", ⟨⟨2026, 1, 2⟩, 3, 4, 5, 0, some 0⟩, [⟨.error, "older", [], some 1⟩]⟩

/-- Another record of the same file. -/
def newer : FileRecord :=
  ⟨"a.py", "2", ⟨⟨2026, 1, 3⟩, 3, 4, 5, 0, some 0⟩, [⟨.warning, "newer", [], some 2⟩]⟩

/-- The record that is found when `newer` takes the place of `older` between two selections. -/
def mingled : FileRecord :=
  ⟨"a.py", older.fingerprint, older.analyzed, newer.problems⟩

/-- One client stores a record, and then another one while the other client is between its selections. -/
def torn : List (Move Bool) :=
  .ask false (.change (.store "a.py" older)) :: List.replicate 9 (.go false) ++
    .ask true (.lookup "a.py") :: List.replicate 4 (.go true) ++
    .ask false (.change (.store "a.py" newer)) :: List.replicate 9 (.go false) ++
    [.go true]

theorem history_torn : (System.start.play torn).map System.history =
    some [.changed false (.store "a.py" older), .selected true "a.py", .changed false (.store "a.py" newer),
      .answered true "a.py" (.ok (some mingled))] := by
  decide +kernel

theorem stored_torn {i : Bool} {path : String} {record : FileRecord}
    (asked : Move.ask i (.change (.store path record)) ∈ torn) : record = older ∨ record = newer := by
  simp only [torn, List.mem_append, List.mem_cons, List.mem_replicate, Move.ask.injEq, Request.change.injEq,
    Change.store.injEq, reduceCtorEq, and_false, or_false, List.not_mem_nil] at asked
  exact asked.imp (fun same => same.2.2) fun same => same.2.2

theorem legible_torn (i : Bool) (path : String) (record : FileRecord)
    (asked : Move.ask i (.change (.store path record)) ∈ torn) : record.Legible := by
  rcases stored_torn asked with rfl | rfl
  · exact ⟨Timestamp.Valid.readsBack (by constructor <;> decide), by simp [older, Problem.values]⟩
  · exact ⟨Timestamp.Valid.readsBack (by constructor <;> decide), by simp [newer, Problem.values]⟩

theorem lookups_splice_torn : ∃ s earlier before between, System.start.play torn = some s ∧
    s.history = earlier ++ [.answered true "a.py" (.ok (some mingled))] ∧
    earlier = before ++ .selected true "a.py" :: between ∧
      (.ok (some mingled) : Except RowFault (Option FileRecord)) =
        .ok ((splice "a.py" (standing (changesOf before) "a.py")
          (standing (changesOf earlier) "a.py")).map FileRecord.plain) := by
  obtain ⟨s, played, history⟩ := Option.map_eq_some_iff.mp history_torn
  have noted : s.history = [.changed false (.store "a.py" older), .selected true "a.py",
      .changed false (.store "a.py" newer)] ++ [.answered true "a.py" (.ok (some mingled))] := history
  obtain ⟨before, between, split, -, same, -⟩ := lookups_splice played legible_torn noted
  exact ⟨s, _, before, between, played, noted, split, same⟩

/-- **A lookup can be torn.**  It finds the fingerprint and the time of one store with the problems of
another one, and nothing like that was stored. -/
theorem torn_lookup :
    (System.start.play torn).map System.history =
        some [.changed false (.store "a.py" older), .selected true "a.py",
          .changed false (.store "a.py" newer), .answered true "a.py" (.ok (some mingled))] ∧
      ∀ i path record, Move.ask i (.change (.store path record)) ∈ torn →
        ¬ (record.fingerprint = mingled.fingerprint ∧ record.problems = mingled.problems) := by
  refine ⟨history_torn, fun i path record asked => ?_⟩
  rintro ⟨first, second⟩
  rcases stored_torn asked with rfl | rfl
  · exact absurd second (by decide)
  · exact absurd first (by decide)

end Docwright.Cache
