import Docwright.Proofs.Check.Coverage
import Docwright.Text.Identifier
import Mathlib.Data.List.Basic

/-!
# Words and identifiers

A summary mentions an argument if its name stands there between two edges of words (`Mentioned`).  The
name is an identifier, though, and what one would call a mention is that it stands in the summary as a
`Whole` identifier: no character before or behind it with which an identifier could go on.

The two agree as long as words and identifiers are made of the same characters (`mentioned_iff_whole`).
It does not take more than that at four places, both ends of the name and the characters next to it, so
`Settled` asks for it just there.  A superscript is in words and not in identifiers, a combining mark is in
identifiers and not in words: beside such a character a whole name goes unseen, or a part of another
identifier is taken for it (`neither_direction`).
-/

namespace Docwright.Check

open Source (Stmt Parameters)

/-! ### Whole identifiers -/

/-- An identifier could go on with the character, if there is one. -/
def Continues (c : Option Char) : Prop :=
  ∃ d ∈ c, Text.isIdentifierContinue d = true

instance (c : Option Char) : Decidable (Continues c) :=
  decidable_of_iff (c.any Text.isIdentifierContinue = true) (Option.any_eq_true _ _)

/-- What holds wherever a name stands in a text holds at each number of characters in front of it. -/
theorem forall_splits_iff {text name : List Char} {P : List Char → List Char → Prop} :
    (∀ front back, text = front ++ name ++ back → P front back) ↔
      ∀ i ∈ List.range (text.length + 1), name <+: text.drop i →
        P (text.take i) (text.drop (i + name.length)) := by
  constructor
  · rintro all i - ⟨back, rest⟩
    refine all _ _ ?_
    rw [List.append_assoc, ← List.drop_drop, ← rest, List.drop_left, rest, List.take_append_drop]
  · rintro all front back rfl
    have within : front.length ∈ List.range ((front ++ name ++ back).length + 1) := by
      rw [List.mem_range, List.length_append, List.length_append]
      omega
    have here := all front.length within ⟨back, by simp⟩
    rwa [← List.length_append, List.drop_left, List.append_assoc, List.take_left] at here

/-- A name stands in a summary as a whole identifier. -/
def Whole (summary name : String) : Prop :=
  ∃ front back, summary.toList = front ++ name.toList ++ back ∧ ¬ Continues front.getLast? ∧
    ¬ Continues back.head?

instance (summary name : String) : Decidable (Whole summary name) :=
  decidable_of_iff (¬ ∀ i ∈ List.range (summary.toList.length + 1), name.toList <+: summary.toList.drop i →
      ¬ (¬ Continues (summary.toList.take i).getLast? ∧
        ¬ Continues (summary.toList.drop (i + name.toList.length)).head?)) <| by
    rw [← forall_splits_iff (P := fun front back => ¬ (¬ Continues front.getLast? ∧ ¬ Continues back.head?))]
    simp only [Whole, not_forall, not_not, exists_prop]

/-- A name is made of the characters of identifiers. -/
structure Named (name : String) : Prop where
  filled : name.toList ≠ []
  continues : ∀ c ∈ name.toList, Text.isIdentifierContinue c = true

instance (name : String) : Decidable (Named name) :=
  decidable_of_iff (name.toList ≠ [] ∧ name.toList.all Text.isIdentifierContinue = true)
    ⟨fun ⟨filled, continues⟩ => ⟨filled, List.all_eq_true.mp continues⟩,
      fun ⟨filled, continues⟩ => ⟨filled, List.all_eq_true.mpr continues⟩⟩

/-- A character is in words just if it is in identifiers. -/
def Plain (c : Char) : Prop :=
  Text.isWord c = Text.isIdentifierContinue c

instance (c : Char) : Decidable (Plain c) :=
  inferInstanceAs (Decidable (_ = _))

instance (c : Option Char) : Decidable (∀ d ∈ c, Plain d) :=
  decidable_of_iff (c.all (fun d => decide (Plain d)) = true) (by simp [Option.all_eq_true])

/-- A name has plain characters at its ends, and next to it wherever it stands in a summary. -/
structure Settled (summary name : String) : Prop where
  first : ∀ c ∈ name.toList.head?, Plain c
  last : ∀ c ∈ name.toList.getLast?, Plain c
  beside : ∀ front back, summary.toList = front ++ name.toList ++ back →
    (∀ c ∈ front.getLast?, Plain c) ∧ ∀ c ∈ back.head?, Plain c

instance (summary name : String) : Decidable (Settled summary name) :=
  decidable_of_iff ((∀ c ∈ name.toList.head?, Plain c) ∧ (∀ c ∈ name.toList.getLast?, Plain c) ∧
      ∀ i ∈ List.range (summary.toList.length + 1), name.toList <+: summary.toList.drop i →
        (∀ c ∈ (summary.toList.take i).getLast?, Plain c) ∧
          ∀ c ∈ (summary.toList.drop (i + name.toList.length)).head?, Plain c) <| by
    rw [← forall_splits_iff
      (P := fun front back => (∀ c ∈ front.getLast?, Plain c) ∧ ∀ c ∈ back.head?, Plain c)]
    exact ⟨fun ⟨first, last, beside⟩ => ⟨first, last, beside⟩,
      fun ⟨first, last, beside⟩ => ⟨first, last, beside⟩⟩

/-- Where all characters are plain, every name is settled. -/
theorem Settled.of_plain {summary name : String} (all : ∀ c ∈ summary.toList, Plain c)
    (own : ∀ c ∈ name.toList, Plain c) : Settled summary name where
  first c member := own c (List.mem_of_head? member)
  last c member := own c (List.mem_of_getLast? member)
  beside front back split := by
    rw [split] at all
    constructor
    · intro c member
      exact all c (List.mem_append_left _ (List.mem_append_left _ (List.mem_of_getLast? member)))
    · intro c member
      exact all c (List.mem_append_right _ (List.mem_of_head? member))

/-- All characters of ASCII are plain. -/
theorem plain_ascii {c : Char} (ascii : c.toNat < 128) : Plain c := by
  rw [Plain, Text.isWord, Text.isIdentifierContinue, Text.inClass, Text.inClass, if_pos ascii, if_pos ascii]

/-! ### Edges beside a name -/

theorem isWord?_eq_true_iff {c : Option Char} (plain : ∀ d ∈ c, Plain d) :
    Text.isWord? c = true ↔ Continues c := by
  cases c with
  | none => exact ⟨nofun, fun ⟨d, member, _⟩ => nomatch member⟩
  | some d =>
      have same : Text.isWord d = Text.isIdentifierContinue d := plain d rfl
      rw [Text.isWord?, same]
      constructor
      · exact fun continues => ⟨d, rfl, continues⟩
      · rintro ⟨_, ⟨⟩, continues⟩
        exact continues

/-- Next to a character of words there is an edge just where no identifier could go on. -/
theorem edge_iff {inner outer : Option Char} (word : Text.isWord? inner = true)
    (plain : ∀ d ∈ outer, Plain d) : Text.isWord? outer ≠ Text.isWord? inner ↔ ¬ Continues outer := by
  rw [word, ← isWord?_eq_true_iff plain]

section

variable {summary name : String}

theorem Named.head (named : Named name) (settled : Settled summary name) (back : List Char) :
    Text.isWord? (name.toList ++ back).head? = true := by
  obtain ⟨c, rest, chars⟩ := List.exists_cons_of_ne_nil named.filled
  have plain : Plain c := settled.first c (by rw [chars]; rfl)
  rw [chars]
  exact plain.trans (named.continues c (by rw [chars]; exact .head _))

theorem Named.last (named : Named name) (settled : Settled summary name) (front : List Char) :
    Text.isWord? (front ++ name.toList).getLast? = true := by
  have end_ := List.getLast?_eq_some_getLast named.filled
  have plain := settled.last _ end_
  rw [List.getLast?_append, end_, Option.some_or]
  exact plain.trans (named.continues _ (List.getLast_mem named.filled))

/-- **Words and identifiers come to the same** for a name that is settled. -/
theorem mentioned_iff_whole (named : Named name) (settled : Settled summary name) :
    Mentioned summary name ↔ Whole summary name := by
  refine exists_congr fun front => exists_congr fun back => and_congr_right fun split => ?_
  refine and_congr ?_ ?_
  · exact edge_iff (named.head settled back) (settled.beside front back split).1
  · exact ne_comm.trans (edge_iff (named.last settled front) (settled.beside front back split).2)

end

/-! ### Reports on arguments -/

theorem Site.withoutArgument_injective (site : Site) : Function.Injective site.withoutArgument := by
  intro one other same
  simpa [Site.withoutArgument, ContextValue.text] using same

/-- Of a function with a summary, the arguments are reported that it does not mention. -/
theorem Site.problems_eq {site : Site} {p : Parameters} {summary : String}
    (function : site.definition.parameters? = some p) (documented : summary? site.definition.body = some summary) :
    site.problems = ((explained p).filter (¬ Mentioned summary ·)).map site.withoutArgument := by
  simp only [Site.problems, function, documented]

theorem Site.mem_problems_iff {site : Site} {p : Parameters} {summary argument : String}
    (function : site.definition.parameters? = some p) (documented : summary? site.definition.body = some summary)
    (owed : argument ∈ explained p) :
    site.withoutArgument argument ∈ site.problems ↔ ¬ Mentioned summary argument := by
  rw [Site.problems_eq function documented, List.mem_map_of_injective site.withoutArgument_injective,
    List.mem_filter, decide_eq_true_iff]
  exact and_iff_right owed

/-- **Which arguments are reported.**  What is reported of the functions with a summary, those within
blocks apart, is each argument that the summary does not mention between two edges of words, in the order
of the arguments.  If the ends of its name and what stands next to it are in words just if they are in
identifiers, an argument is reported if and only if its name does not stand in the summary as a whole
identifier; and so it always is where there is nothing but ASCII. -/
theorem arguments_reported {path source : String} {body : List Stmt} (parsed : tree path source = .ok body)
    (filled : body ≠ []) :
    ∃ sites, Lists body sites ∧
      (run path source).result =
        .ok (ownProblems path body ++ (sites.filter Site.Open).flatMap Site.problems) ∧
      ∀ site ∈ sites, ∀ {p summary}, site.definition.parameters? = some p →
        summary? site.definition.body = some summary →
          site.problems = ((explained p).filter (¬ Mentioned summary ·)).map site.withoutArgument ∧
          ∀ argument ∈ explained p, Named argument →
            Settled summary argument ∨ (∀ c ∈ summary.toList ++ argument.toList, c.toNat < 128) →
              (site.withoutArgument argument ∈ site.problems ↔ ¬ Whole summary argument) := by
  obtain ⟨sites, lists, result⟩ := (result_of_tree parsed).2 filled
  refine ⟨sites, lists, result, fun site _ p summary function documented =>
    ⟨Site.problems_eq function documented, fun argument owed named plain => ?_⟩⟩
  have settled : Settled summary argument := plain.elim id fun ascii =>
    .of_plain (fun c member => plain_ascii (ascii c (List.mem_append_left _ member)))
      fun c member => plain_ascii (ascii c (List.mem_append_right _ member))
  rw [Site.mem_problems_iff function documented owed, mentioned_iff_whole named settled]

/-! ### A superscript and a bar -/

/-- A file with a summary, and a function in it with parameters and a summary. -/
def explaining (parameters summary : String) : String :=
  "'m'\ndef f(" ++ parameters ++ "): '" ++ summary ++ "'\n"

/-- The function in such a file. -/
def explainer (names : List String) (summary : String) : Site :=
  ⟨[1], [], ⟨1, "f", some { positional := names }, [.text summary]⟩⟩

/-- The statements are those of such a file. -/
def isExplaining (names : List String) (summary : String) : List Stmt → Bool
  | [.text _, .functionDef 1 "f" p [.text s]] => p == { positional := names } && s == summary
  | _ => false

theorem of_isExplaining {names : List String} {summary : String} {body : List Stmt}
    (explains : isExplaining names summary body = true) :
    body ≠ [] ∧ (explainer names summary).Of body := by
  unfold isExplaining at explains
  split at explains
  · next p s =>
      rw [Bool.and_eq_true, beq_iff_eq, beq_iff_eq] at explains
      obtain ⟨rfl, rfl⟩ := explains
      exact ⟨nofun, _, .here rfl, rfl⟩
  · cases explains

set_option maxRecDepth 100000 in
theorem tree_sized :
    (tree "a.py" (explaining "x, z" "The size² of (x).")).map
        (fun body => (isExplaining ["x", "z"] "The size² of (x)." body, ofTree "a.py" body)) =
      .ok (true, [(explainer ["x", "z"] "The size² of (x).").withoutArgument "z"]) := by
  decide +kernel

/-- A superscript does no harm that is not next to a name, and a letter of another word is no mention. -/
theorem arguments_reported_sized :
    ∃ body sites, tree "a.py" (explaining "x, z" "The size² of (x).") = .ok body ∧ Lists body sites ∧
      (run "a.py" (explaining "x, z" "The size² of (x).")).result =
        .ok (ownProblems "a.py" body ++ (sites.filter Site.Open).flatMap Site.problems) ∧
      Settled "The size² of (x)." "x" ∧ Whole "The size² of (x)." "x" ∧
      (explainer ["x", "z"] "The size² of (x).").withoutArgument "x" ∉
        (explainer ["x", "z"] "The size² of (x).").problems ∧
      Settled "The size² of (x)." "z" ∧ ¬ Whole "The size² of (x)." "z" ∧
      (explainer ["x", "z"] "The size² of (x).").withoutArgument "z" ∈
        (explainer ["x", "z"] "The size² of (x).").problems := by
  obtain ⟨body, parsed, explains, -⟩ := tree_of_map tree_sized
  obtain ⟨filled, here⟩ := of_isExplaining explains
  obtain ⟨sites, lists, result, judged⟩ := arguments_reported parsed filled
  obtain ⟨-, each⟩ := judged _ ((lists.complete _).mpr here) rfl rfl
  have settled : Settled "The size² of (x)." "x" := by decide +kernel
  have settled' : Settled "The size² of (x)." "z" := by decide +kernel
  have whole : Whole "The size² of (x)." "x" := by decide +kernel
  have hidden : ¬ Whole "The size² of (x)." "z" := by decide +kernel
  have first := each "x" (by decide +kernel) (by decide +kernel) (.inl settled)
  have second := each "z" (by decide +kernel) (by decide +kernel) (.inl settled')
  exact ⟨body, sites, parsed, lists, result, settled, whole, fun member => first.mp member whole,
    settled', hidden, second.mpr hidden⟩

/-- An argument of a function with a summary, in a file with a report, that no block stands around. -/
structure Explained (path source : String) (problems : List Problem) (site : Site)
    (summary argument : String) : Prop where
  body : ∃ body, tree path source = .ok body ∧ site.Of body
  report : (run path source).result = .ok problems
  visible : site.Open
  documented : summary? site.definition.body = some summary
  owed : ∃ p, site.definition.parameters? = some p ∧ argument ∈ explained p
  named : Named argument

theorem explained_of_tree {parameters summary argument : String} {names : List String}
    {problems : List Problem}
    (seen : (tree "a.py" (explaining parameters summary)).map
      (fun body => (isExplaining names summary body, ofTree "a.py" body)) = .ok (true, problems))
    (owed : argument ∈ explained { positional := names }) (named : Named argument) :
    Explained "a.py" (explaining parameters summary) problems (explainer names summary) summary argument := by
  obtain ⟨body, parsed, explains, report⟩ := tree_of_map seen
  exact ⟨⟨body, parsed, (of_isExplaining explains).2⟩, by rw [run_of_tree parsed, report], nofun, rfl,
    ⟨_, rfl, owed⟩, named⟩

set_option maxRecDepth 100000 in
theorem tree_squared :
    (tree "a.py" (explaining "x" "x²")).map (fun body => (isExplaining ["x"] "x²" body, ofTree "a.py" body)) =
      .ok (true, [(explainer ["x"] "x²").withoutArgument "x"]) := by
  decide +kernel

set_option maxRecDepth 100000 in
theorem tree_barred :
    (tree "a.py" (explaining "x" "x\u0331")).map
        (fun body => (isExplaining ["x"] "x\u0331" body, ofTree "a.py" body)) = .ok (true, []) := by
  decide +kernel

/-- **Neither direction holds of all arguments.**  An argument `x` is reported where the summary is `x²`,
and it is not where the summary is another identifier, an `x` with a bar below. -/
theorem neither_direction :
    (¬ ∀ {path source problems site summary argument}, Explained path source problems site summary argument →
      site.withoutArgument argument ∈ problems → ¬ Whole summary argument) ∧
    ¬ ∀ {path source problems site summary argument}, Explained path source problems site summary argument →
      ¬ Whole summary argument → site.withoutArgument argument ∈ problems := by
  constructor
  · intro sound
    have explains := @explained_of_tree "x" "x²" "x" _ _ tree_squared (by decide +kernel) (by decide +kernel)
    exact sound explains (.head _) (by decide +kernel)
  · intro complete
    have explains := @explained_of_tree "x" "x\u0331" "x" _ _ tree_barred (by decide +kernel) (by decide +kernel)
    cases complete explains (by decide +kernel)

end Docwright.Check
