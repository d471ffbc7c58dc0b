import Docwright.Proofs.Check.Reference

/-!
# Which definitions an examination reaches

A definition without a summary is reported exactly once if classes and functions alone stand around
it, and not at all if a block does (`missing_summaries`).  So a definition that is moved into a block
takes its report with it, and those of all definitions within it.

The second half is a law about a `Hole` in a file, a place for one statement at any depth.  What is
reported of the rest of the file does not depend on what stands in the hole
(`ofTree_fill`), and a block reports nothing; that the rows are others after the move changes lines
only, for rows matter to nothing but lines (`ofTree_unrowed`).
-/

namespace Docwright.Check

open Source (Stmt Parameters)

/-! ### Holes -/

/-- A statement with a body, without the body. -/
inductive Frame
  | ofClass (row : Nat) (name : String)
  | ofFunction (row : Nat) (name : String) (params : Parameters)
  | block

/-- The statement that a frame and a body make. -/
def Frame.close : Frame → List Stmt → Stmt
  | ofClass row name, body => .classDef row name body
  | ofFunction row name p, body => .functionDef row name p body
  | block, body => .block body

/-- The layer that a frame is for what stands in it. -/
def Frame.layer : Frame → Layer
  | ofClass _ name => .ofClass name
  | ofFunction _ name _ => .ofFunction name
  | block => .block

/-- A body in which one statement is left open, in the body itself or further down. -/
inductive Hole
  | here (before after : List Stmt)
  | within (before : List Stmt) (frame : Frame) (inside : Hole) (after : List Stmt)

namespace Hole

/-- The body with a statement put in. -/
def fill (s : Stmt) : Hole → List Stmt
  | here before after => before ++ s :: after
  | within before frame inside after => before ++ frame.close (inside.fill s) :: after

/-- The place of what is put in. -/
def place : Hole → List Nat
  | here before _ => [before.length]
  | within before _ inside _ => before.length :: inside.place

/-- The layers around the hole. -/
def around : Hole → List Layer
  | here _ _ => []
  | within _ frame inside _ => frame.layer :: inside.around

end Hole

/-- The statement is no bare text, so it is no summary. -/
def Mute (s : Stmt) : Prop :=
  ∀ value, s ≠ .text value

theorem mute_of_definition {s : Stmt} (defines : (definition? s).isSome) : Mute s := by
  rintro value rfl
  cases defines

theorem mute_simple : Mute .simple := nofun

theorem mute_close (frame : Frame) (body : List Stmt) : Mute (frame.close body) := by
  cases frame <;> nofun

theorem opened?_close (frame : Frame) (body : List Stmt) :
    opened? (frame.close body) = some (frame.layer, body) := by
  cases frame <;> rfl

theorem summary?_mute {before after : List Stmt} {s t : Stmt} (first : Mute s) (second : Mute t) :
    summary? (before ++ s :: after) = summary? (before ++ t :: after) := by
  cases before with
  | cons b rest => cases b <;> rfl
  | nil => cases s <;> cases t <;> first | rfl | exact absurd rfl (first _) | exact absurd rfl (second _)

/-- Whether a body has a summary does not depend on what stands in the hole. -/
theorem summary?_fill (hole : Hole) {s t : Stmt} (first : Mute s) (second : Mute t) :
    summary? (hole.fill s) = summary? (hole.fill t) := by
  cases hole with
  | here before after => exact summary?_mute first second
  | within before frame inside after => exact summary?_mute (mute_close _ _) (mute_close _ _)

theorem fill_ne_nil (hole : Hole) (s : Stmt) : hole.fill s ≠ [] := by
  cases hole <;> exact List.append_ne_nil_of_right_ne_nil _ nofun

/-! ### The rest of a file -/

theorem sitesIn_append (place : List Nat) (around : List Layer) (index : Nat)
    (one other : List Stmt) :
    sitesIn place around index (one ++ other) =
      sitesIn place around index one ++ sitesIn place around (index + one.length) other := by
  induction one generalizing index with
  | nil => rfl
  | cons s rest ih =>
      rw [List.cons_append, sitesIn, sitesIn, ih, List.append_assoc, List.length_cons,
        Nat.add_right_comm, Nat.add_assoc]

/-- What is reported of a statement itself. -/
def ownReport (place : List Nat) (around : List Layer) (s : Stmt) : List Problem :=
  reported ((definition? s).map fun d => ⟨place, around, d⟩).toList

/-- Of the body of a statement, its own report depends on the summary alone. -/
theorem ownReport_close (place : List Nat) (around : List Layer) (frame : Frame)
    {body other : List Stmt} (same : summary? body = summary? other) :
    ownReport place around (frame.close body) = ownReport place around (frame.close other) := by
  have equal (p? : Option Parameters) (row : Nat) (name : String) :
      Site.problems ⟨place, around, ⟨row, name, p?, body⟩⟩ =
        Site.problems ⟨place, around, ⟨row, name, p?, other⟩⟩ := by
    simp only [Site.problems, same]
    rfl
  cases frame with
  | block => rfl
  | ofClass row name | ofFunction row name p =>
      by_cases visible : .block ∈ around
      · exact (reported_closed (by simp [Frame.close, definition?, Site.Open, visible])).trans
          (reported_closed (by simp [Frame.close, definition?, Site.Open, visible])).symm
      · exact (reported_open visible _ _ []).trans
          ((congrArg (· ++ reported []) (equal _ row name)).trans
            (reported_open visible _ _ []).symm)

theorem reported_sitesAt_close (place : List Nat) (around : List Layer) (frame : Frame)
    (body : List Stmt) :
    reported (sitesAt place around (frame.close body)) =
      ownReport place around (frame.close body) ++
        reported (sitesIn place (around ++ [frame.layer]) 0 body) := by
  rw [sitesAt_eq, reported_append, opened?_close]
  rfl

/-- What is reported of the rest does not depend on what stands in the hole. -/
theorem reported_fill (hole : Hole) (place : List Nat) (around : List Layer) :
    ∃ front back, ∀ s, Mute s → reported (sitesIn place around 0 (hole.fill s)) =
      front ++ reported (sitesAt (place ++ hole.place) (around ++ hole.around) s) ++ back := by
  induction hole generalizing place around with
  | here before after =>
      refine ⟨reported (sitesIn place around 0 before),
        reported (sitesIn place around (before.length + 1) after), fun s _ => ?_⟩
      rw [Hole.fill, sitesIn_append, sitesIn, reported_append, reported_append, List.append_assoc,
        Nat.zero_add]
      simp [Hole.place, Hole.around]
  | within before frame inside after ih =>
      obtain ⟨front, back, same⟩ := ih (place ++ [before.length]) (around ++ [frame.layer])
      -- the frame's own report depends on the hole no more than the summary of its body does, so any
      -- statement may stand in the hole for it
      refine ⟨reported (sitesIn place around 0 before) ++
          ownReport (place ++ [before.length]) around (frame.close (inside.fill .simple)) ++ front,
        back ++ reported (sitesIn place around (before.length + 1) after), fun s mute => ?_⟩
      rw [Hole.fill, sitesIn_append, sitesIn, reported_append, reported_append, Nat.zero_add,
        reported_sitesAt_close, same s mute,
        ownReport_close _ _ frame (summary?_fill inside mute mute_simple)]
      simp [Hole.place, Hole.around]

/-- **What is reported of the rest of a file does not depend on what stands in a hole**, be it a
definition, a block or a simple statement. -/
theorem ofTree_fill (path : String) (hole : Hole) :
    ∃ front back, ∀ s, Mute s → ofTree path (hole.fill s) =
      front ++ reported (sitesAt hole.place hole.around s) ++ back := by
  obtain ⟨front, back, same⟩ := reported_fill hole [] []
  refine ⟨ownProblems path (hole.fill .simple) ++ front, back, fun s mute => ?_⟩
  have own : ownProblems path (hole.fill s) = ownProblems path (hole.fill .simple) := by
    rw [ownProblems, summary?_fill hole mute mute_simple]
    rfl
  rw [ofTree_eq path (fill_ne_nil hole s), sites, same s mute, own]
  simp

/-! ### Rows -/

mutual

/-- A statement with all rows forgotten. -/
def unrowed : Stmt → Stmt
  | .classDef _ name body => .classDef 0 name (unrowedIn body)
  | .functionDef _ name p body => .functionDef 0 name p (unrowedIn body)
  | .block body => .block (unrowedIn body)
  | .text value => .text value
  | .simple => .simple

/-- Statements with all rows forgotten. -/
def unrowedIn : List Stmt → List Stmt
  | [] => []
  | s :: rest => unrowed s :: unrowedIn rest

end

/-- A problem with its line forgotten. -/
def unlined (p : Problem) : Problem :=
  { p with line := none }

theorem summary?_unrowed (body : List Stmt) : summary? (unrowedIn body) = summary? body := by
  cases body with
  | nil => rfl
  | cons s rest => cases s <;> rfl

theorem classProblems_unrowed (qualified name : String) (row : Nat) (body : List Stmt) :
    (classProblems qualified name 0 (unrowedIn body)).map unlined =
      (classProblems qualified name row body).map unlined := by
  rw [classProblems, classProblems, summary?_unrowed]
  cases summary? body <;> rfl

theorem functionProblems_unrowed (kind : Kind) (qualified name : String) (row : Nat)
    (p : Parameters) (body : List Stmt) :
    (functionProblems kind qualified name 0 p (unrowedIn body)).map unlined =
      (functionProblems kind qualified name row p body).map unlined := by
  rw [functionProblems, functionProblems, summary?_unrowed]
  cases summary? body with
  | none => rfl
  | some summary =>
      simp only [List.map_map]
      rfl

mutual

theorem ofStmt_unrowed (scope : Scope) (above : String) (s : Stmt) :
    (ofStmt scope above (unrowed s)).map unlined = (ofStmt scope above s).map unlined := by
  cases s with
  | classDef row name body =>
      rw [unrowed, ofStmt, ofStmt, List.map_append, List.map_append, classProblems_unrowed _ _ row,
        ofBody_unrowed _ _ body]
  | functionDef row name p body =>
      rw [unrowed, ofStmt, ofStmt, List.map_append, List.map_append,
        functionProblems_unrowed _ _ _ row, ofBody_unrowed _ _ body]
  | block body => rw [unrowed, ofStmt, ofStmt]
  | text value | simple => rw [unrowed]

theorem ofBody_unrowed (scope : Scope) (above : String) (body : List Stmt) :
    (ofBody scope above (unrowedIn body)).map unlined = (ofBody scope above body).map unlined := by
  cases body with
  | nil => rw [unrowedIn]
  | cons s rest =>
      rw [unrowedIn, ofBody, ofBody, List.map_append, List.map_append, ofStmt_unrowed scope above s,
        ofBody_unrowed scope above rest]

end

/-- Rows matter to nothing but lines. -/
theorem ofTree_unrowed (path : String) (body : List Stmt) :
    (ofTree path (unrowedIn body)).map unlined = (ofTree path body).map unlined := by
  cases body with
  | nil => rfl
  | cons s rest =>
      have own : fileProblems path (unrowedIn (s :: rest)) = fileProblems path (s :: rest) := by
        rw [fileProblems, fileProblems, summary?_unrowed]
      have inner := ofBody_unrowed .module "" (s :: rest)
      rw [unrowedIn] at own inner ⊢
      rw [ofTree, ofTree, List.map_append, List.map_append, own, inner]
      · exact List.cons_ne_nil _ _
      · exact List.cons_ne_nil _ _

/-- Two files whose statements differ in their rows only are reported alike. -/
theorem unlined_ofTree (path : String) {body other : List Stmt}
    (same : unrowedIn body = unrowedIn other) :
    (ofTree path body).map unlined = (ofTree path other).map unlined := by
  rw [← ofTree_unrowed path body, same, ofTree_unrowed]

/-! ### Missing summaries -/

/-- A definition without a summary. -/
def Site.Bare (site : Site) : Prop :=
  summary? site.definition.body = none

instance (site : Site) : Decidable site.Bare :=
  inferInstanceAs (Decidable (_ = _))

/-- A problem that is the missing summary of a definition. -/
def LacksSummary (p : Problem) : Prop :=
  p.template ∈ ["No summary for class %s", "No summary for method %s", "No summary for function %s"]

instance (p : Problem) : Decidable (LacksSummary p) :=
  inferInstanceAs (Decidable (_ ∈ _))

theorem lacksSummary_withoutSummary (site : Site) : LacksSummary site.withoutSummary := by
  have kinds : site.kind = "class" ∨ site.kind = "method" ∨ site.kind = "function" := by
    rw [Site.kind]
    split <;> simp
  simp only [LacksSummary, Site.withoutSummary]
  rcases kinds with kind | kind | kind <;> rw [kind] <;> decide

theorem not_lacksSummary_own (path : String) (body : List Stmt) :
    (ownProblems path body).filter LacksSummary = [] := by
  rw [ownProblems]
  split <;> rfl

/-- Of a site, a missing summary is reported once if there is none, and not at all otherwise. -/
theorem filter_problems (site : Site) :
    site.problems.filter LacksSummary = if site.Bare then [site.withoutSummary] else [] := by
  have other (argument : String) : ¬ LacksSummary (site.withoutArgument argument) := by
    simp [LacksSummary, Site.withoutArgument]
  cases summary : summary? site.definition.body with
  | none => simp [Site.problems, Site.Bare, summary, lacksSummary_withoutSummary]
  | some text =>
      cases parameters : site.definition.parameters? with
      | none => simp [Site.problems, Site.Bare, summary, parameters]
      | some p =>
          have documented : ¬ site.Bare := by simp [Site.Bare, summary]
          rw [if_neg documented]
          simp only [Site.problems, summary, parameters]
          refine List.filter_eq_nil_iff.mpr fun problem member => ?_
          obtain ⟨argument, -, rfl⟩ := List.mem_map.mp member
          simpa using other argument

/-- The missing summaries that are reported are those of the open sites. -/
theorem filter_reported (sites : List Site) :
    (reported sites).filter LacksSummary =
      (sites.filter fun site => site.Open ∧ site.Bare).map Site.withoutSummary := by
  induction sites with
  | nil => rfl
  | cons site rest ih =>
      have apart : reported (site :: rest) = reported [site] ++ reported rest :=
        reported_append [site] rest
      rw [apart, List.filter_append, ih, List.filter_cons]
      by_cases visible : site.Open
      · rw [show reported [site] = site.problems ++ [] from reported_open visible _ _ [],
          List.append_nil, filter_problems]
        by_cases bare : site.Bare <;> simp [visible, bare]
      · rw [reported_closed (by simpa using visible)]
        simp [visible]

/-- **Which definitions an examination reaches.**  The missing summaries that it reports are, one for
one and in order, those of the definitions without a summary that no block stands around.  And where
a definition is exchanged for a block, whatever that holds, just the reports of the definition and of
those within it are gone; all other problems stay, up to their lines. -/
theorem missing_summaries {path source : String} {body : List Stmt}
    (parsed : tree path source = .ok body) :
    ∃ problems sites, (run path source).result = .ok problems ∧ Lists body sites ∧
      problems.filter LacksSummary =
        (sites.filter fun site => site.Open ∧ site.Bare).map Site.withoutSummary ∧
      ∀ (hole : Hole) (d : Stmt) (held moved : List Stmt) (later : String),
        (definition? d).isSome → body = hole.fill d →
        tree path later = .ok moved → unrowedIn moved = unrowedIn (hole.fill (.block held)) →
        ∃ front back rest,
          problems = front ++ reported (sitesAt hole.place hole.around d) ++ back ∧
          (run path later).result = .ok rest ∧
          rest.map unlined = (front ++ back).map unlined := by
  refine ⟨ofTree path body, sites body, run_of_tree parsed, lists_sites body, ?_, ?_⟩
  · by_cases filled : body = []
    · subst filled
      rfl
    · rw [ofTree_eq path filled, List.filter_append, not_lacksSummary_own, filter_reported]
      rfl
  · rintro hole d held moved later defines rfl read same
    -- in the file of the hole, a block puts nothing between what is in front and behind
    obtain ⟨front, back, rest⟩ := ofTree_fill path hole
    have emptied : ofTree path (hole.fill (.block held)) = front ++ back := by
      rw [rest _ (by nofun), sitesAt, reported_block (by simp), List.append_nil]
    exact ⟨front, back, ofTree path moved, rest d (mute_of_definition defines), run_of_tree read,
      by rw [unlined_ofTree path same, emptied]⟩

/-- A function at the top of a file, and the same function within a block. -/
def bare : String :=
  "def f(): 0\n"

@[inherit_doc bare]
def hidden : String :=
  "if x:\n def f(): 0\n"

/-- The two reports. -/
def bareReport : List Problem :=
  [⟨.error, "No summary was found for file %s", [.text "a.py"], some 1⟩,
    ⟨.error, "No summary for function %s", [.text "f"], some 1⟩]

@[inherit_doc bareReport]
def hiddenReport : List Problem :=
  [⟨.error, "No summary was found for file %s", [.text "a.py"], some 1⟩]

/-- The statements are a function without a summary. -/
def isBare : List Stmt → Bool
  | [.functionDef _ _ _ body] => (summary? body).isNone
  | _ => false

/-- The statements are a block that holds a function without a summary. -/
def isHidden : List Stmt → Bool
  | [.block held] => isBare held
  | _ => false

theorem of_isBare {body : List Stmt} (lone : isBare body = true) :
    ∃ row name p inner, body = [.functionDef row name p inner] ∧ summary? inner = none := by
  unfold isBare at lone
  split at lone
  · exact ⟨_, _, _, _, rfl, Option.isNone_iff_eq_none.mp lone⟩
  · cases lone

theorem of_isHidden {body : List Stmt} (lone : isHidden body = true) :
    ∃ held, body = [.block held] ∧ isBare held = true := by
  unfold isHidden at lone
  split at lone
  · exact ⟨_, rfl, lone⟩
  · cases lone

/-- What is known of a text once its tree was looked at. -/
theorem tree_of_map {path source : String} {look : List Stmt → Bool} {report : List Problem}
    (seen : (tree path source).map (fun body => (look body, ofTree path body)) = .ok (true, report)) :
    ∃ body, tree path source = .ok body ∧ look body = true ∧ ofTree path body = report := by
  cases parsed : tree path source with
  | error fault =>
      rw [parsed] at seen
      cases seen
  | ok body =>
      rw [parsed] at seen
      obtain ⟨looked, reports⟩ := Prod.mk.inj (Except.ok.inj seen)
      exact ⟨body, rfl, looked, reports⟩

set_option maxRecDepth 100000 in
theorem tree_bare :
    (tree "a.py" bare).map (fun body => (isBare body, ofTree "a.py" body)) =
      .ok (true, bareReport) := by
  decide +kernel

set_option maxRecDepth 100000 in
theorem tree_hidden :
    (tree "a.py" hidden).map (fun body => (isHidden body, ofTree "a.py" body)) =
      .ok (true, hiddenReport) := by
  decide +kernel

/-- The function is reported at the top of the file, and no more once it is in the block. -/
theorem missing_summaries_bare :
    ∃ body sites, tree "a.py" bare = .ok body ∧ Lists body sites ∧
      (run "a.py" bare).result = .ok bareReport ∧
      bareReport.filter LacksSummary =
        (sites.filter fun site => site.Open ∧ site.Bare).map Site.withoutSummary ∧
      (run "a.py" hidden).result = .ok hiddenReport ∧
      ∃ front lost back, bareReport = front ++ lost ++ back ∧
        hiddenReport.map unlined = (front ++ back).map unlined := by
  obtain ⟨body, parsed, lone, report⟩ := tree_of_map tree_bare
  obtain ⟨moved, read, blocked, remains⟩ := tree_of_map tree_hidden
  obtain ⟨row, name, p, inner, rfl, -⟩ := of_isBare lone
  obtain ⟨held, rfl, -⟩ := of_isHidden blocked
  obtain ⟨problems, sites, result, lists, missing, moves⟩ := missing_summaries parsed
  obtain ⟨front, back, rest, split, later, same⟩ :=
    moves (.here [] []) _ held _ hidden rfl rfl read rfl
  rw [run_of_tree parsed, report] at result
  cases result
  rw [run_of_tree read, remains] at later
  cases later
  exact ⟨_, sites, parsed, lists, by rw [run_of_tree parsed, report], missing,
    by rw [run_of_tree read, remains], front, _, back, split, same⟩

/-- **Not every definition without a summary is reported**: one within a block is not. -/
theorem not_all_reported :
    ¬ ∀ (path source : String) (body : List Stmt) (problems : List Problem) (site : Site),
      tree path source = .ok body → (run path source).result = .ok problems → site.Of body →
        site.Bare → site.withoutSummary ∈ problems := by
  intro all
  obtain ⟨body, read, blocked, report⟩ := tree_of_map tree_hidden
  obtain ⟨held, rfl, lone⟩ := of_isHidden blocked
  obtain ⟨row, name, p, inner, rfl, undocumented⟩ := of_isBare lone
  have site : Site.Of [.block [.functionDef row name p inner]]
      ⟨[0, 0], [.block], ⟨row, name, some p, inner⟩⟩ :=
    ⟨_, .within rfl rfl (.here rfl), rfl⟩
  have reported := all "a.py" hidden _ _ _ read (run_of_tree read) site undocumented
  rw [report] at reported
  simp [hiddenReport, Site.withoutSummary, Site.kind] at reported

end Docwright.Check
