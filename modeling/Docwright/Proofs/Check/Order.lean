import Docwright.Proofs.Check.Reference
import Docwright.Proofs.Source.Layout
import Mathlib.Data.List.Basic

/-!
# The problems of a file in the order of its text

The report on a file goes through its definitions in the order in which they stand in the tree, and
gives all problems of a definition the line of its first keyword.  That this is the order of the text
too, so that the lines never go down, is up to the tree: a definition must not be above the one
around it, nor above anything within what stands before it.  The parser makes no other trees
(`Source.layered_parse`).

The rows of the sites of a body are the rows of its definitions (`rows_sitesIn`), which ascend; the
problem of the file itself is on the first line and goes first.
-/

namespace Docwright.Check

open Source (Stmt)

/-- The row of the definition at the site. -/
def Site.row (site : Site) : Nat :=
  site.definition.row

/-! ### The rows of sites -/

/-- The sites of a body have the rows of its definitions. -/
theorem rows_sitesIn (place : List Nat) (around : List Layer) (index : Nat) (body : List Stmt) :
    (sitesIn place around index body).map Site.row = Stmt.rowsIn body := by
  induction body using body_induction generalizing place around index with
  | step body ih =>
      have each : ∀ s ∈ body, ∀ place, (sitesAt place around s).map Site.row = s.rows := by
        intro s member place
        cases s with
        | classDef row name inner | functionDef row name p inner =>
            rw [sitesAt, Stmt.rows, List.map_cons, ih _ member _ inner rfl]
            rfl
        | block inner => rw [sitesAt, Stmt.rows, ih _ member _ inner rfl]
        | text value | simple =>
            rw [sitesAt, Stmt.rows]
            rfl
      -- the bodies further down are settled, what is left is an induction along this one
      clear ih
      induction body generalizing index with
      | nil =>
          rw [sitesIn, Stmt.rowsIn]
          rfl
      | cons s rest ih =>
          rw [sitesIn, Stmt.rowsIn, List.map_append, each s (.head _),
            ih (index + 1) fun t member => each t (.tail _ member)]

/-- The rows of the sites of a layered body ascend. -/
theorem rows_ascend {body : List Stmt} (layered : Stmt.LayeredIn body) :
    (sites body).Pairwise fun a b => a.row ≤ b.row := by
  have ascend := Stmt.pairwise_rowsIn body layered
  rw [← rows_sitesIn [] [] 0 body] at ascend
  exact List.pairwise_map.mp ascend

/-! ### The lines of problems -/

/-- All problems of a site are on its line. -/
theorem line_of_mem {site : Site} {p : Problem} (member : p ∈ site.problems) :
    p.line = site.line := by
  unfold Site.problems at member
  split at member
  · obtain rfl := List.mem_singleton.mp member
    rfl
  · cases member
  · obtain ⟨argument, -, rfl⟩ := List.mem_map.mp member
    rfl

/-- The problems have lines, of which none is above the first, and these never go down. -/
def InOrder (problems : List Problem) : Prop :=
  ∃ lines : List Int, problems.map Problem.line = lines.map some ∧ (∀ n ∈ lines, 1 ≤ n) ∧
    lines.Pairwise (· ≤ ·)

namespace InOrder

theorem nil : InOrder [] :=
  ⟨[], rfl, nofun, .nil⟩

/-- A problem on the first line may go first. -/
theorem cons {p : Problem} {problems : List Problem} (first : p.line = some 1)
    (inOrder : InOrder problems) : InOrder (p :: problems) := by
  obtain ⟨lines, same, positive, ascend⟩ := inOrder
  refine ⟨1 :: lines, by rw [List.map_cons, List.map_cons, first, same], ?_,
    List.pairwise_cons.mpr ⟨positive, ascend⟩⟩
  rintro n (_ | ⟨_, member⟩)
  · exact Int.le_refl 1
  · exact positive n member

/-- The problems of sites are in order if the sites are. -/
theorem of_sites {sites : List Site} (ascend : sites.Pairwise fun a b => a.row ≤ b.row) :
    InOrder (sites.flatMap Site.problems) := by
  refine ⟨sites.flatMap fun site => site.problems.map fun _ => (site.row + 1 : Int), ?_, ?_, ?_⟩
  · simp only [List.map_flatMap, List.map_map]
    refine List.flatMap_congr fun site _ => List.map_congr_left fun p member => ?_
    exact line_of_mem member
  · intro n member
    obtain ⟨site, -, member⟩ := List.mem_flatMap.mp member
    obtain ⟨p, -, rfl⟩ := List.mem_map.mp member
    omega
  · refine List.pairwise_flatMap.mpr ⟨fun site _ => ?_, ascend.imp fun {a b} le m first n later => ?_⟩
    · exact List.pairwise_map.mpr (List.pairwise_of_forall fun _ _ => Int.le_refl _)
    · obtain ⟨_, -, rfl⟩ := List.mem_map.mp first
      obtain ⟨_, -, rfl⟩ := List.mem_map.mp later
      omega

end InOrder

/-- The problems of a file whose definitions are layered are in order. -/
theorem inOrder_ofTree (path : String) {body : List Stmt} (layered : Stmt.LayeredIn body) :
    InOrder (ofTree path body) := by
  by_cases filled : body = []
  · subst filled
    exact .cons rfl .nil
  · have definitions : InOrder (reported (sites body)) :=
      .of_sites ((rows_ascend layered).sublist List.filter_sublist)
    rw [ofTree_eq path filled, ownProblems]
    split
    · exact .cons rfl definitions
    · exact definitions

/-- **Around the problems of a site stand those of the other sites**: of the sites before it in front,
and of those within it and behind it at the back. -/
theorem ofTree_around (path : String) {body : List Stmt} {site : Site} (here : site.Of body)
    (visible : site.Open) : ∃ earlier later : List Site,
      ofTree path body = ownProblems path body ++ earlier.flatMap Site.problems ++ site.problems ++
        later.flatMap Site.problems ∧
      (∀ other, other ∈ earlier ↔ other.Of body ∧ other.Open ∧ other.place < site.place) ∧
      ∀ other, other ∈ later ↔ other.Of body ∧ other.Open ∧ site.place < other.place := by
  have filled : body ≠ [] := by
    rintro rfl
    obtain ⟨s, stands, -⟩ := here
    generalize site.place = place, site.around = around at stands
    cases stands <;> contradiction
  have all (other : Site) : other ∈ (sites body).filter Site.Open ↔ other.Of body ∧ other.Open := by
    rw [List.mem_filter, mem_sites, decide_eq_true_iff]
  -- the sites are listed by their places, so the two parts around this one are told apart by them
  obtain ⟨earlier, later, split⟩ := List.append_of_mem ((all site).mpr ⟨here, visible⟩)
  have ordered := (lists_sites body).ordered.sublist (List.filter_sublist (p := Site.Open))
  rw [split] at ordered all
  obtain ⟨-, behind, before⟩ := List.pairwise_append.mp ordered
  obtain ⟨after, -⟩ := List.pairwise_cons.mp behind
  have irreflexive (place : List Nat) : ¬ place < place := List.lt_irrefl place
  refine ⟨earlier, later, ?_, fun other => ?_, fun other => ?_⟩
  · rw [ofTree_eq path filled, reported, split, List.flatMap_append, List.flatMap_cons]
    simp only [List.append_assoc]
  · rw [← and_assoc, ← all, List.mem_append, List.mem_cons]
    refine ⟨fun member => ⟨.inl member, before _ member _ (.head _)⟩, ?_⟩
    rintro ⟨member | rfl | member, lt⟩
    · exact member
    · exact absurd lt (irreflexive _)
    · exact absurd (List.lt_trans lt (after _ member)) (irreflexive _)
  · rw [← and_assoc, ← all, List.mem_append, List.mem_cons]
    refine ⟨fun member => ⟨.inr (.inr member), after _ member⟩, ?_⟩
    rintro ⟨member | rfl | member, lt⟩
    · exact absurd (List.lt_trans lt (before _ member _ (.head _))) (irreflexive _)
    · exact absurd lt (irreflexive _)
    · exact member

theorem layered_tree {path source : String} {body : List Stmt}
    (parsed : tree path source = .ok body) : Stmt.LayeredIn body := by
  unfold tree at parsed
  split at parsed
  · cases parsed
  · exact Source.layered_parse parsed

/-- **The problems of a file come in the order of its text.**  For every source that can be read, each
problem has a line, which is the first one or below it, and the lines never go down.  All problems of
a definition are on its line; they stand together, behind those of the definitions before it, and
before those of any definition within it or behind it. -/
theorem problems_in_source_order {path source : String} {body : List Stmt}
    (parsed : tree path source = .ok body) :
    ∃ problems, (run path source).result = .ok problems ∧ InOrder problems ∧
      ∀ site : Site, site.Of body → site.Open →
        (∀ p ∈ site.problems, p.line = site.line) ∧
        ∃ earlier later : List Site,
          problems = ownProblems path body ++ earlier.flatMap Site.problems ++ site.problems ++
            later.flatMap Site.problems ∧
          (∀ other, other ∈ earlier ↔ other.Of body ∧ other.Open ∧ other.place < site.place) ∧
          ∀ other, other ∈ later ↔ other.Of body ∧ other.Open ∧ site.place < other.place :=
  ⟨ofTree path body, run_of_tree parsed, inOrder_ofTree path (layered_tree parsed),
    fun _ here visible => ⟨fun _ => line_of_mem, ofTree_around path here visible⟩⟩

/-- A file with a decorated class, within which an asynchronous method with two problems holds a
function and another method follows. -/
def layers : String :=
  "@d\nclass A:\n async def f(self, x, y):\n  'z'\n  def g(): 0\n @d\n def h(): 0\n"

/-- The report on it. -/
def layersReport : List Problem :=
  [⟨.error, "No summary was found for file %s", [.text "a.py"], some 1⟩,
    ⟨.error, "No summary for class %s", [.text "A"], some 2⟩,
    ⟨.warning, "Argument %s is missing from the docstring of %s", [.text "x", .text "A.f"], some 3⟩,
    ⟨.warning, "Argument %s is missing from the docstring of %s", [.text "y", .text "A.f"], some 3⟩,
    ⟨.error, "No summary for function %s", [.text "A.f.g"], some 5⟩,
    ⟨.error, "No summary for method %s", [.text "A.h"], some 7⟩]

set_option maxRecDepth 100000 in
theorem ofTree_layers :
    (tree "a.py" layers).map (fun body => (ofTree "a.py" body,
        ((sites body).filter Site.Open).map fun site => site.problems.length)) =
      .ok (layersReport, [1, 2, 1, 1]) := by
  decide +kernel

theorem layers_in_source_order :
    ∃ (body : List Stmt) (site : Site), tree "a.py" layers = .ok body ∧ site.Of body ∧ site.Open ∧
      site.problems.length = 2 ∧ (run "a.py" layers).result = .ok layersReport ∧
      InOrder layersReport ∧ (∀ p ∈ site.problems, p.line = site.line) ∧
      ∃ earlier later : List Site,
        layersReport = ownProblems "a.py" body ++ earlier.flatMap Site.problems ++ site.problems ++
          later.flatMap Site.problems := by
  have report := ofTree_layers
  cases parsed : tree "a.py" layers with
  | error fault =>
      rw [parsed] at report
      cases report
  | ok body =>
      rw [parsed] at report
      obtain ⟨report, counted⟩ := Prod.mk.inj (Except.ok.inj report)
      obtain ⟨_, rest, listed, -, counted⟩ := List.map_eq_cons_iff.mp counted
      obtain ⟨site, _, rfl, two, -⟩ := List.map_eq_cons_iff.mp counted
      have member : site ∈ (sites body).filter Site.Open := listed ▸ .tail _ (.head _)
      obtain ⟨inside, visible⟩ := List.mem_filter.mp member
      have here : site.Of body := mem_sites.mp inside
      have visible : site.Open := of_decide_eq_true visible
      obtain ⟨problems, result, inOrder, each⟩ := problems_in_source_order parsed
      obtain rfl : problems = layersReport := by
        rw [← report]
        exact Except.ok.inj (result.symm.trans (run_of_tree parsed))
      obtain ⟨line, earlier, later, split, -, -⟩ := each site here visible
      exact ⟨body, site, rfl, here, visible, two, result, inOrder, line, earlier, later, split⟩

end Docwright.Check
