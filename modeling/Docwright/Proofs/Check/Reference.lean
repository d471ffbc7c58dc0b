import Docwright.Proofs.Acts
import Docwright.Proofs.Check.Sites

/-!
# What an examination reports

The report on a file, written down without the way in which it is made.  A `Site` says by itself
what is reported of it (`Site.problems`): its kind is read off the innermost layer around it, its
qualified name off the names of all layers, and what its summary mentions off the text of the
summary (`Mentioned`).  A site is `Open` if no layer around it is a block.

**`result_of_tree`** then says that the report on a file that can be read is one problem for an
empty file, and otherwise that of the file itself, if it has no summary, followed by those of its
open sites in the order of the text.

The walk of the checks hands two things down, whose body it is in and what stands in front of the
names.  Both are functions of the layers around (`scopeOf`, `aboveOf`), and that they stay so at each
step down is all that the induction needs (`ofBody_eq`).
-/

namespace Docwright.Check

open Source (Stmt Parameters)

/-! ### Words of a summary -/

/-- Between two pieces of a text is the edge of a word: of the characters on both sides exactly one
is a word character. -/
def Edge (front back : List Char) : Prop :=
  Text.isWord? front.getLast? ≠ Text.isWord? back.head?

/-- A summary mentions a name if the name stands in it between two edges. -/
def Mentioned (summary name : String) : Prop :=
  ∃ front back, summary.toList = front ++ name.toList ++ back ∧ Edge front (name.toList ++ back) ∧
    Edge (front ++ name.toList) back

theorem wordAt_iff {name text : List Char} {before : Option Char} :
    Text.wordAt name before text = true ↔ ∃ back, text = name ++ back ∧
      Text.isWord? before ≠ Text.isWord? (name ++ back).head? ∧
      Text.isWord? (name.getLast?.or before) ≠ Text.isWord? back.head? := by
  simp only [Text.wordAt, Text.boundary, Bool.and_eq_true, bne_iff_ne, List.isPrefixOf_iff_prefix,
    and_assoc]
  constructor
  · rintro ⟨⟨back, rfl⟩, left, right⟩
    exact ⟨back, rfl, left, by simpa using right⟩
  · rintro ⟨back, rfl, left, right⟩
    exact ⟨List.prefix_append _ _, left, by simpa using right⟩

theorem occursAfter_iff {name text : List Char} {before : Option Char} :
    Text.occursAfter name before text = true ↔
      ∃ front rest, text = front ++ rest ∧
        Text.wordAt name (front.getLast?.or before) rest = true := by
  induction text generalizing before with
  | nil =>
      rw [Text.occursAfter]
      constructor
      · exact fun found => ⟨[], [], rfl, found⟩
      · rintro ⟨front, rest, split, found⟩
        obtain ⟨rfl, rfl⟩ := List.append_eq_nil_iff.mp split.symm
        exact found
  | cons c text ih =>
      rw [Text.occursAfter, Bool.or_eq_true, ih]
      constructor
      · rintro (found | ⟨front, rest, rfl, found⟩)
        · exact ⟨[], c :: text, rfl, found⟩
        · refine ⟨c :: front, rest, rfl, ?_⟩
          rw [List.getLast?_cons]
          cases last : front.getLast? <;> simpa [last] using found
      · rintro ⟨_ | ⟨d, front⟩, rest, split, found⟩
        · cases split
          exact .inl found
        · cases split
          refine .inr ⟨front, rest, rfl, ?_⟩
          rw [List.getLast?_cons] at found
          cases last : front.getLast? <;> simpa [last] using found

/-- The test of the checks finds what is mentioned. -/
theorem mentions_iff {summary name : String} :
    mentions summary name = true ↔ Mentioned summary name := by
  rw [mentions, Text.occursAsWord, occursAfter_iff]
  constructor
  · rintro ⟨front, rest, split, found⟩
    obtain ⟨back, rfl, left, right⟩ := wordAt_iff.mp found
    refine ⟨front, back, by rw [split, List.append_assoc], ?_, ?_⟩
    · simpa [Edge] using left
    · simpa [Edge, List.getLast?_append] using right
  · rintro ⟨front, back, split, left, right⟩
    refine ⟨front, name.toList ++ back, by rw [split, List.append_assoc],
      wordAt_iff.mpr ⟨back, rfl, ?_, ?_⟩⟩
    · simpa [Edge] using left
    · simpa [Edge, List.getLast?_append] using right

instance (summary name : String) : Decidable (Mentioned summary name) :=
  decidable_of_iff _ mentions_iff

/-! ### What is reported of a site -/

/-- The arguments of a function that a summary has to mention. -/
def explained (p : Parameters) : List String :=
  (p.positionalOnly ++ p.positional ++ p.keywordOnly ++ p.variadic.toList ++
    p.keywordVariadic.toList).filter (· ∉ ["self", "cls"])

namespace Site

/-- No statement stands around the site but classes and functions. -/
def Open (site : Site) : Prop :=
  .block ∉ site.around

instance (site : Site) : Decidable site.Open :=
  inferInstanceAs (Decidable (_ ∉ _))

/-- The word for what the definition is: a method stands directly in the body of a class. -/
def kind (site : Site) : String :=
  match site.definition.parameters?, site.around.getLast? with
  | none, _ => "class"
  | some _, some (.ofClass _) => "method"
  | some _, _ => "function"

/-- The names of the definitions around the site and its own, with points between them. -/
def qualified (site : Site) : String :=
  ".".intercalate (site.around.filterMap Layer.name? ++ [site.definition.name])

/-- The line of the definition. -/
def line (site : Site) : Option Int :=
  some (site.definition.row + 1)

/-- The report that a definition has no summary. -/
def withoutSummary (site : Site) : Problem :=
  ⟨if "_".toList <+: site.definition.name.toList then .notice else .error,
    "No summary for " ++ site.kind ++ " %s", [.text site.qualified], site.line⟩

/-- The report that the summary of a function does not mention an argument. -/
def withoutArgument (site : Site) (argument : String) : Problem :=
  ⟨.warning, "Argument %s is missing from the docstring of %s",
    [.text argument, .text site.qualified], site.line⟩

/-- All that is reported of a site. -/
def problems (site : Site) : List Problem :=
  match summary? site.definition.body, site.definition.parameters? with
  | none, _ => [site.withoutSummary]
  | some _, none => []
  | some summary, some p =>
    ((explained p).filter (¬ Mentioned summary ·)).map site.withoutArgument

end Site

/-- The report on a file itself. -/
def ownProblems (path : String) (body : List Stmt) : List Problem :=
  if summary? body = none then
    [⟨.error, "No summary was found for file %s", [.text path], some 1⟩]
  else []

/-! ### The two things that are handed down -/

/-- Whose body a statement stands in, by the layers around it. -/
def scopeOf (around : List Layer) : Scope :=
  match around.getLast? with
  | some (.ofClass _) => .ofClass
  | some (.ofFunction _) => .function
  | some .block | none => .module

/-- What stands in front of names, by the layers around them. -/
def aboveOf (around : List Layer) : String :=
  String.join ((around.filterMap Layer.name?).map within)

theorem aboveOf_append (around : List Layer) (layer : Layer) {name : String}
    (named : layer.name? = some name) :
    aboveOf (around ++ [layer]) = within (aboveOf around ++ name) := by
  apply String.toList_inj.mp
  simp [aboveOf, within, named]

theorem intercalate_concat (names : List String) (name : String) :
    ".".intercalate (names ++ [name]) = String.join (names.map within) ++ name := by
  induction names with
  | nil => simp
  | cons first rest ih =>
      have more : ∃ second others, rest ++ [name] = second :: others :=
        List.exists_cons_of_ne_nil (by simp)
      obtain ⟨second, others, split⟩ := more
      rw [List.cons_append, split, String.intercalate_cons_cons, ← split, ih]
      apply String.toList_inj.mp
      simp [within]

theorem qualified_eq (place : List Nat) (around : List Layer) (d : Definition) :
    Site.qualified ⟨place, around, d⟩ = aboveOf around ++ d.name :=
  intercalate_concat _ _

theorem missingSeverity_eq (name : String) :
    missingSeverity name = if "_".toList <+: name.toList then .notice else .error := by
  rw [missingSeverity]
  cases name.toList with
  | nil => simp
  | cons c rest => simp [eq_comm]

theorem missingTemplate_eq (kind : Kind) :
    missingTemplate kind = "No summary for " ++ kind.word ++ " %s" := rfl

theorem unmentioned_eq (p : Parameters) (summary : String) :
    unmentioned p summary = (explained p).filter (¬ Mentioned summary ·) := by
  rw [explained, List.filter_filter]
  refine List.filter_congr fun name _ => ?_
  rw [Bool.eq_iff_iff]
  simp [isReceiver, ← mentions_iff, and_comm]

theorem classProblems_eq (place : List Nat) (around : List Layer) (row : Nat) (name : String)
    (body : List Stmt) :
    classProblems (aboveOf around ++ name) name row body =
      Site.problems ⟨place, around, ⟨row, name, none, body⟩⟩ := by
  rw [classProblems, Site.problems]
  cases summary? body with
  | none => simp [missingSummary, Site.withoutSummary, missingSeverity_eq, qualified_eq,
      missingTemplate_eq, Site.kind, Kind.word, lineOf, Site.line]
  | some summary => rfl

theorem functionProblems_eq (place : List Nat) (around : List Layer) (row : Nat) (name : String)
    (p : Parameters) (body : List Stmt) :
    functionProblems (scopeOf around).functionKind (aboveOf around ++ name) name row p body =
      Site.problems ⟨place, around, ⟨row, name, some p, body⟩⟩ := by
  have kind : (scopeOf around).functionKind.word =
      Site.kind ⟨place, around, ⟨row, name, some p, body⟩⟩ := by
    rw [scopeOf, Site.kind]
    rcases around.getLast? with _ | (_ | _ | _) <;> rfl
  rw [functionProblems, Site.problems]
  cases summary? body with
  | none => simp [missingSummary, Site.withoutSummary, missingSeverity_eq, qualified_eq,
      missingTemplate_eq, kind, lineOf, Site.line]
  | some summary =>
      simp only [unmentioned_eq]
      refine List.map_congr_left fun argument _ => ?_
      simp [missingMention, Site.withoutArgument, qualified_eq, lineOf, Site.line]

/-! ### The walk of the checks -/

/-- What is reported of sites, those within blocks left out. -/
def reported (sites : List Site) : List Problem :=
  (sites.filter Site.Open).flatMap Site.problems

theorem reported_append (one other : List Site) :
    reported (one ++ other) = reported one ++ reported other := by
  rw [reported, List.filter_append, List.flatMap_append]
  rfl

theorem reported_open {around : List Layer} (visible : .block ∉ around) (place : List Nat)
    (d : Definition) (others : List Site) :
    reported (⟨place, around, d⟩ :: others) =
      Site.problems ⟨place, around, d⟩ ++ reported others := by
  have seen : decide (Site.Open ⟨place, around, d⟩) = true := decide_eq_true visible
  rw [reported, List.filter_cons, if_pos seen, List.flatMap_cons]
  rfl

theorem reported_closed {sites : List Site} (closed : ∀ site ∈ sites, ¬ site.Open) :
    reported sites = [] := by
  have hidden : sites.filter Site.Open = [] :=
    List.filter_eq_nil_iff.mpr fun site member => by simpa using closed site member
  rw [reported, hidden, List.flatMap_nil]

/-- Nothing is reported from within a block. -/
theorem reported_block {around : List Layer} (closed : .block ∈ around) (place : List Nat)
    (index : Nat) (body : List Stmt) : reported (sitesIn place around index body) = [] := by
  refine reported_closed fun site member => ?_
  obtain ⟨i, rest, inside, s, d, -, -, rfl⟩ := stands_of_mem member
  simp [Site.Open, closed]

/-- The checks of a statement report what is to be reported of its sites, if those of what it opens
do: a class and a function hand down what the layers with theirs come to, and a block is passed by
as all its sites are closed. -/
theorem ofStmt_eq_of_opened {around : List Layer} (visible : .block ∉ around) (place : List Nat)
    {s : Stmt} (opened : ∀ layer inner, opened? s = some (layer, inner) →
      ∀ {around : List Layer}, .block ∉ around → ∀ place index,
        ofBody (scopeOf around) (aboveOf around) inner =
          reported (sitesIn place around index inner)) :
    ofStmt (scopeOf around) (aboveOf around) s = reported (sitesAt place around s) := by
  cases s with
  | classDef row name inner =>
      have inside := @opened (.ofClass name) inner rfl (around ++ [.ofClass name])
        (by simpa using visible) place 0
      rw [aboveOf_append around _ rfl, scopeOf, List.getLast?_concat] at inside
      rw [ofStmt, sitesAt, reported_open visible, inside, classProblems_eq place]
  | functionDef row name p inner =>
      have inside := @opened (.ofFunction name) inner rfl (around ++ [.ofFunction name])
        (by simpa using visible) place 0
      rw [aboveOf_append around _ rfl, scopeOf, List.getLast?_concat] at inside
      rw [ofStmt, sitesAt, reported_open visible, inside, functionProblems_eq place]
  | block inner => rw [ofStmt, sitesAt, reported_block (by simp)]
  | text value | simple =>
      rw [ofStmt, sitesAt]
      rfl

/-- **The checks of a body report what is to be reported of its sites.**  The induction is on the
body, for all layers around it. -/
theorem ofBody_eq {around : List Layer} (visible : .block ∉ around) (place : List Nat) (index : Nat)
    (body : List Stmt) :
    ofBody (scopeOf around) (aboveOf around) body = reported (sitesIn place around index body) := by
  induction body using body_induction generalizing around place index with
  | step body ih =>
      have each : ∀ s ∈ body, ∀ place,
          ofStmt (scopeOf around) (aboveOf around) s = reported (sitesAt place around s) :=
        fun s member place => ofStmt_eq_of_opened visible place (ih s member)
      clear ih
      induction body generalizing index with
      | nil =>
          rw [ofBody, sitesIn]
          rfl
      | cons s rest ih =>
          rw [ofBody, sitesIn, reported_append, each s (.head _),
            ih (index + 1) fun t member => each t (.tail _ member)]

theorem fileProblems_eq (path : String) (body : List Stmt) :
    fileProblems path body = ownProblems path body := by
  rw [fileProblems, ownProblems]
  cases summary? body <;> rfl

/-- The problems of a file with statements. -/
theorem ofTree_eq (path : String) {body : List Stmt} (filled : body ≠ []) :
    ofTree path body = ownProblems path body ++ reported (sites body) := by
  have whole := @ofBody_eq [] nofun [] 0 body
  cases body with
  | nil => exact absurd rfl filled
  | cons s rest =>
      rw [sites, ← whole, ← fileProblems_eq]
      rfl

theorem run_of_tree {path source : String} {body : List Stmt}
    (parsed : tree path source = .ok body) : (run path source).result = .ok (ofTree path body) := by
  rw [run, parsed]
  rfl

/-- **What an examination reports of a file that can be read.**  Of an empty file that it is empty,
as one remark; of any other file, that it has no summary if so, and then what is to be reported of
the definitions that classes and functions alone stand around, in the order of the text. -/
theorem result_of_tree {path source : String} {body : List Stmt}
    (parsed : tree path source = .ok body) :
    (body = [] → (run path source).result =
      .ok [⟨.info, "File %s is empty", [.text path], some 1⟩]) ∧
    (body ≠ [] → ∃ sites, Lists body sites ∧
      (run path source).result =
        .ok (ownProblems path body ++ (sites.filter Site.Open).flatMap Site.problems)) := by
  refine ⟨?_, fun filled => ⟨sites body, lists_sites body, ?_⟩⟩
  · rintro rfl
    rw [run_of_tree parsed]
    rfl
  · rw [run_of_tree parsed, ofTree_eq path filled, reported]

/-- A file with a class, a method and a function, each within the one before. -/
def nested : String :=
  "class A:\n def f(self, x, *, y):\n  'y'\n  def _g(): 0\n"

/-- The report on it. -/
def nestedReport : List Problem :=
  [⟨.error, "No summary was found for file %s", [.text "a.py"], some 1⟩,
    ⟨.error, "No summary for class %s", [.text "A"], some 1⟩,
    ⟨.warning, "Argument %s is missing from the docstring of %s", [.text "x", .text "A.f"], some 2⟩,
    ⟨.notice, "No summary for function %s", [.text "A.f._g"], some 4⟩]

set_option maxRecDepth 100000 in
theorem ofTree_nested : (tree "a.py" nested).map (ofTree "a.py") = .ok nestedReport := by
  decide +kernel

theorem result_of_nested :
    ∃ body sites, tree "a.py" nested = .ok body ∧ body ≠ [] ∧ Lists body sites ∧
      (run "a.py" nested).result =
        .ok (ownProblems "a.py" body ++ (sites.filter Site.Open).flatMap Site.problems) ∧
      (run "a.py" nested).result = .ok nestedReport := by
  have report := ofTree_nested
  cases parsed : tree "a.py" nested with
  | error fault =>
      rw [parsed] at report
      cases report
  | ok body =>
      rw [parsed] at report
      have report : ofTree "a.py" body = nestedReport := Except.ok.inj report
      have filled : body ≠ [] := by
        rintro rfl
        cases report
      obtain ⟨sites, lists, result⟩ := (result_of_tree parsed).2 filled
      exact ⟨body, sites, rfl, filled, lists, result, by rw [run_of_tree parsed, report]⟩

end Docwright.Check
