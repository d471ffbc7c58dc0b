import Docwright.Proofs.Console.Shown
import Docwright.Proofs.Console.Terminal

/-!
# No tag but the own ones

A path or a message may hold anything that looks like markup.  In the line of a build it
is text all the same: the tags that count in the line are the one that begins its style
and at most the one that ends it, and none at all for the severities without a style
(`tags_markup`).  So every character of it is shown in that style and no other
(`no_markup_injected`).

What is shown of a character is said by `appearance`; a text is put together from the
fragments that it speaks of (`flatten_fragments`).  A text with an escape character of
its own is written like any other; but what a terminal makes of that character is not a
matter of markup, so the cells that a terminal shows are told for the other texts only.
-/

namespace Docwright.Console

/-- Whether a piece is the beginning or the end of a style. -/
def Piece.isTag : Piece → Bool
  | text _ => false
  | opening _ => true
  | closing .. => true

theorem filter_texts (parts : List (List Char)) : (Piece.texts parts).filter Piece.isTag = [] := by
  rw [Piece.texts, List.filter_map, List.map_eq_nil_iff, List.filter_eq_nil_iff]
  exact fun _ _ => Bool.false_ne_true

namespace Shown

/-- The code that a path or a message is shown with, if there is one. -/
def code? (line : Shown) : Option (List Char) :=
  line.styleName?.bind fun name => (Style.ofName name).code?

/-- The tags that count in a line, the last one at the given position. -/
def tags (line : Shown) (position : Nat) : List Piece :=
  match line.styleName? with
  | none => []
  | some name =>
    .opening (.ofName name) :: if Closed line.said then [.closing ('/' :: name) position] else []

/-- The cells of a line: its front, without a style, and its path or message in the style of the line. -/
def cells (line : Shown) : List Cell :=
  line.front.map (cell none) ++ (appearance line.styleName? line.said).map (cell line.code?) ++ [('\n', none)]

variable (line : Shown)

theorem markup_eq :
    line.markup = line.front ++ match line.styleName? with
      | none => escape line.said
      | some name => styled name (escape line.said) := by
  cases line with
  | file origin path => rfl
  | log severity text => rfl

/-- **The tags of a line** are its own. -/
theorem tags_markup : ∃ position, (pieces line.markup).filter Piece.isTag = line.tags position := by
  rw [markup_eq]
  unfold tags
  cases style : line.styleName? with
  | none =>
      obtain ⟨parts, made, -⟩ := pieces_unstyled line.heads_front line.said
      exact ⟨0, by rw [made, filter_texts]⟩
  | some name =>
      obtain ⟨parts, position, made, -⟩ :=
        pieces_styled line.heads_front (names_styleName? style) line.said
      refine ⟨position, ?_⟩
      rw [made, List.filter_cons_of_neg (by exact Bool.false_ne_true), List.filter_cons_of_pos rfl,
        List.filter_append, filter_texts, List.nil_append]
      split <;> rfl

theorem cells_runs : lineCells (shownRuns line.front line.styleName? line.said) = line.cells := by
  rw [cells, code?]
  unfold shownRuns
  cases line.styleName? with
  | none => simp [lineCells, Run.cells, Run.code?]
  | some name =>
      have last : (if Closed line.said then [⟨none, []⟩] else [] : List Run).flatMap Run.cells = [] := by
        split <;> rfl
      rw [lineCells, List.flatMap_cons, List.flatMap_cons, last, List.append_nil]
      rfl

/-- The runs of a line hold the characters of its text, and visible ones. -/
theorem mem_runs {run : Run} (member : run ∈ shownRuns line.front line.styleName? line.said) {c : Char}
    (inside : c ∈ run.text) : c ∈ line.said ∨ 32 ≤ c.toNat := by
  have names : ∀ name ∈ line.styleName?, Names name (.ofName name) := fun _ style => names_styleName? style
  unfold shownRuns at member
  cases style : line.styleName? with
  | none =>
      rw [style] at names member
      rw [List.mem_singleton.mp member] at inside
      rcases List.mem_append.mp inside with front | shown
      · exact .inr (line.heads_front.visible c front)
      · exact mem_appearance names shown
  | some name =>
      rw [style] at names member
      rcases List.mem_cons.mp member with rfl | member
      · exact .inr (line.heads_front.visible c inside)
      · rcases List.mem_cons.mp member with rfl | member
        · exact mem_appearance names inside
        · split at member
          · rw [List.mem_singleton.mp member] at inside
            cases inside
          · cases member

/-- **What a terminal shows of a line** are its cells, with blanks for tabs. -/
theorem display_markup (calm : '\x1b' ∉ line.said) :
    ∃ out, print line.markup = .ok out ∧ display none out = untab 0 line.cells := by
  refine ⟨_, print_of_runs line.runs_markup, ?_⟩
  rw [← cells_runs]
  refine display_lines fun run member inside => ?_
  exact (line.mem_runs member inside).elim calm (by decide)

end Shown

/-- **No markup is injected.**  For every severity, message and path, the tags that count in the line are its
own; the line has a front without a style and what is shown of the text in the style of the line, whether it
is looked at as runs, as the rows of runs that are written or, if the text holds no escape characters, as
the cells that a terminal shows. -/
theorem no_markup_injected (line : Shown) :
    (∃ position, (pieces line.markup).filter Piece.isTag = line.tags position) ∧
      (fragments line.said).flatten ++ List.replicate (endSlashes line.said) '\\' = line.said ∧
      runs line.markup = .ok (shownRuns line.front line.styleName? line.said) ∧
      ∃ rows : List (List Run),
        print line.markup = .ok (rows.flatMap fun row => row.flatMap Run.written ++ ['\n']) ∧
        rows.flatMap lineCells = untab 0 line.cells ∧
        ('\x1b' ∉ line.said →
          display none (rows.flatMap fun row => row.flatMap Run.written ++ ['\n']) = untab 0 line.cells) := by
  refine ⟨line.tags_markup, flatten_fragments line.said, line.runs_markup,
    (lines (shownRuns line.front line.styleName? line.said)).map (fillTabs 0), ?_, ?_, fun calm => ?_⟩
  · rw [print_of_runs line.runs_markup, List.flatMap_map]
    rfl
  · rw [List.flatMap_map, cells_written, line.cells_runs]
  · obtain ⟨out, printed, shown⟩ := line.display_markup calm
    rw [print_of_runs line.runs_markup] at printed
    rw [List.flatMap_map, ← shown, ← Except.ok.inj printed]
    rfl

/-- A message that would end its style, begin another one and a link, and takes the tag behind it for its
own: it is all shown in the style of an error. -/
theorem no_markup_injected_hostile :
    (pieces (logLine .error "[/error][info][link=a]b\\\\\\".toList)).filter Piece.isTag = [.opening .error] ∧
      ∃ out, print (logLine .error "[/error][info][link=a]b\\\\\\".toList) = .ok out ∧
        display none out = "  ".toList.map (·, none) ++
          "[/error][info][link=a]b\\[/error]".toList.map (·, some "1;37;41".toList) ++ [('\n', none)] := by
  obtain ⟨⟨position, tags⟩, -, -, rows, printed, -, shown⟩ :=
    no_markup_injected (.log .error "[/error][info][link=a]b\\\\\\")
  exact ⟨tags, _, printed, (shown (by decide)).trans (by decide +kernel)⟩

end Docwright.Console
