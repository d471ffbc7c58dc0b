import Docwright.Console.Screen
import Mathlib.Data.List.TakeWhile

/-!
# What a terminal shows

What is written for a line holds sequences that switch codes on and off.  A terminal
reads them and shows the other characters, each with the code that is switched on
(`display`); without the codes these are the characters themselves (`withoutCodes`).

The runs of a line are cut into lines, and filled up with blanks for tabs, before they
are written.  Neither changes the look of a character: what is shown are the cells of
the runs one after another, blanks for tabs apart (`cells_lines`, `display_lines`).
-/

namespace Docwright.Console

/-- A character on a terminal, with the code that is switched on. -/
abbrev Cell : Type := Char × Option (List Char)

/-- A character where the given code is switched on.  The end of a line has no look. -/
def cell (code? : Option (List Char)) (c : Char) : Cell :=
  (c, if c = '\n' then none else code?)

theorem map_fst_cells (code? : Option (List Char)) (text : List Char) :
    (text.map (cell code?)).map Prod.fst = text := by
  rw [List.map_map]
  exact List.map_id text

/-- The code of a run. -/
def Run.code? (run : Run) : Option (List Char) :=
  run.style.bind Style.code?

/-- The cells of a run. -/
def Run.cells (run : Run) : List Cell :=
  run.text.map (cell run.code?)

/-- The cells of a line. -/
def lineCells (line : List Run) : List Cell :=
  line.flatMap Run.cells ++ [('\n', none)]

/-- What a terminal shows of characters.  A sequence shows nothing and changes the code, and `0` switches it
off; behind a sequence that does not end nothing is shown. -/
def display (code? : Option (List Char)) (text : List Char) : List Cell :=
  match text with
  | [] => []
  | '\x1b' :: rest =>
    match _h : rest.dropWhile (· != 'm') with
    | 'm' :: rest' =>
      let code := (rest.takeWhile (· != 'm')).drop 1
      display (if code = ['0'] then none else some code) rest'
    | _ => []
  | c :: rest => cell code? c :: display code? rest
termination_by text.length
decreasing_by
  all_goals simp_all only [List.length_cons]
  all_goals first
    | omega
    | (have shorter := (List.dropWhile_suffix (l := rest) (· != 'm')).length_le
       rw [_h] at shorter
       simp only [List.length_cons] at shorter
       omega)

/-- What was written, with the codes removed. -/
def withoutCodes (text : List Char) : List Char :=
  (display none text).map Prod.fst

section

variable {code? : Option (List Char)} {code text : List Char} {rest : List Char}

theorem display_nil : display code? [] = [] := by
  rw [display]

theorem display_char {c : Char} (other : c ≠ '\x1b') :
    display code? (c :: rest) = cell code? c :: display code? rest := by
  rw [display]
  exact other

theorem display_text (calm : '\x1b' ∉ text) :
    display code? (text ++ rest) = text.map (cell code?) ++ display code? rest := by
  induction text with
  | nil => rfl
  | cons c text ih =>
      obtain ⟨other, behind⟩ := not_or.mp (List.mem_cons.not.mp calm)
      rw [List.cons_append, display_char (Ne.symm other), ih behind, List.map_cons, List.cons_append]

theorem display_sequence (within : ∀ c ∈ code, c ≠ 'm') :
    display code? (sequence code ++ rest) = display (if code = ['0'] then none else some code) rest := by
  have inner : ∀ c ∈ '[' :: code, (c != 'm') = true := by
    intro c member
    rcases List.mem_cons.mp member with rfl | member
    · rfl
    · simpa using within c member
  have text : sequence code ++ rest = '\x1b' :: ('[' :: code ++ 'm' :: rest) := by
    simp [sequence]
  have after : ('[' :: code ++ 'm' :: rest).dropWhile (· != 'm') = 'm' :: rest := by
    rw [List.dropWhile_append_of_pos inner, List.dropWhile_cons_of_neg (by decide)]
  have before : ('[' :: code ++ 'm' :: rest).takeWhile (· != 'm') = '[' :: code := by
    rw [List.takeWhile_append_of_pos inner, List.takeWhile_cons_of_neg (by decide), List.append_nil]
  rw [text, display]
  split
  · next found =>
      rw [after] at found
      obtain rfl := (List.cons.inj found).2
      rw [before, List.drop_one, List.tail_cons]
  · next other => exact absurd after (other rest)

/-- The codes of styles do not look like the end of one. -/
theorem code?_reads {style : Style} (known : style.code? = some code) :
    (∀ c ∈ code, c ≠ 'm') ∧ code ≠ ['0'] := by
  cases style with
  | info | comment | error =>
      cases known
      exact ⟨by simp, by decide⟩
  | other name => cases known

/-- **A run is shown as its cells**, and its code is off behind it. -/
theorem display_written (run : Run) (calm : '\x1b' ∉ run.text) (rest : List Char) :
    display none (run.written ++ rest) = run.cells ++ display none rest := by
  rw [Run.written, Run.cells, Run.code?]
  cases known : run.style.bind Style.code? with
  | none => exact display_text calm
  | some code =>
      obtain ⟨style, -, known⟩ := Option.bind_eq_some_iff.mp known
      obtain ⟨within, other⟩ := code?_reads known
      show display none ((if run.text.isEmpty then [] else _) ++ rest) = _
      split
      · next empty =>
          rw [List.isEmpty_iff.mp empty]
          rfl
      · rw [List.append_assoc, List.append_assoc, display_sequence within, if_neg other, display_text calm,
          display_sequence (by simp), if_pos rfl]

/-- Lines that were written are shown as their cells. -/
theorem display_runs (line : List Run) (calm : ∀ run ∈ line, '\x1b' ∉ run.text) (rest : List Char) :
    display none (line.flatMap Run.written ++ rest) = line.flatMap Run.cells ++ display none rest := by
  induction line with
  | nil => rfl
  | cons run line ih =>
      rw [List.flatMap_cons, List.append_assoc, display_written run (calm run List.mem_cons_self),
        ih fun other member => calm other (List.mem_cons_of_mem run member), List.flatMap_cons,
        List.append_assoc]

end

/-! ### Tabs -/

/-- Cells with blanks for tabs, from the given column on. -/
def untab (column : Nat) : List Cell → List Cell
  | [] => []
  | (c, code?) :: rest =>
    if c = '\t' then
      List.replicate (tabBlanks column) (' ', code?) ++ untab (column + tabBlanks column) rest
    else (c, code?) :: untab (if c = '\n' then 0 else column + Text.cells c) rest

section

variable {separator : Char} {text : List Char} {style : Option Style} {column : Nat}

theorem cutAt_same : cutAt separator (separator :: text) = [] :: cutAt separator text := by
  rw [cutAt, if_pos (beq_self_eq_true separator)]

theorem cutAt_ne_nil (separator : Char) (text : List Char) : cutAt separator text ≠ [] := by
  cases text with
  | nil => exact nofun
  | cons c text =>
      rw [cutAt]
      split
      · exact nofun
      · split <;> exact nofun

/-- A character that is no separator begins the first part. -/
theorem cutAt_other {c : Char} (other : c ≠ separator) (text : List Char) :
    ∃ part parts, cutAt separator text = part :: parts ∧ cutAt separator (c :: text) = (c :: part) :: parts := by
  obtain ⟨part, parts, cut⟩ := List.exists_cons_of_ne_nil (cutAt_ne_nil separator text)
  refine ⟨part, parts, cut, ?_⟩
  rw [cutAt, if_neg (by simpa using other), cut]

/-- The parts hold no separators. -/
theorem not_mem_cutAt (separator : Char) (text : List Char) : ∀ part ∈ cutAt separator text, separator ∉ part := by
  induction text with
  | nil => simp [cutAt]
  | cons c text ih =>
      by_cases same : c = separator
      · subst same
        rw [cutAt_same]
        exact List.forall_mem_cons.mpr ⟨List.not_mem_nil, ih⟩
      · obtain ⟨part, parts, cut, cut'⟩ := cutAt_other same text
        rw [cut] at ih
        obtain ⟨first, others⟩ := List.forall_mem_cons.mp ih
        rw [cut']
        refine List.forall_mem_cons.mpr ⟨fun member => ?_, others⟩
        exact (List.mem_cons.mp member).elim (fun same' => same same'.symm) first

theorem untab_tab (column : Nat) (code? : Option (List Char)) (rest : List Cell) :
    untab column (cell code? '\t' :: rest) =
      (List.replicate (tabBlanks column) ' ').map (cell code?) ++ untab (column + tabBlanks column) rest := by
  rw [cell, untab, if_pos rfl, List.map_replicate]
  rfl

theorem untab_newline (column : Nat) (rest : List Cell) :
    untab column (('\n', none) :: rest) = ('\n', none) :: untab 0 rest := by
  rw [untab, if_neg (by decide), if_pos rfl]

theorem untab_char {c : Char} (tab : c ≠ '\t') (newline : c ≠ '\n') (column : Nat)
    (code? : Option (List Char)) (rest : List Cell) :
    untab column (cell code? c :: rest) = cell code? c :: untab (column + Text.cells c) rest := by
  rw [cell, untab, if_neg tab, if_neg newline, if_neg newline]

theorem fillParts_next (style : Option Style) (column : Nat) (part next : List Char) (parts : List (List Char)) :
    fillParts style column (part :: next :: parts) =
      let stop := column + Text.width part
      let filled := fillParts style (stop + tabBlanks stop) (next :: parts)
      (⟨style, part ++ List.replicate (tabBlanks stop) ' '⟩ :: filled.1, filled.2) := by
  rw [fillParts]
  exact nofun

/-- One more character at the head of the first part. -/
theorem fillParts_cons (style : Option Style) (column : Nat) (c : Char) (part : List Char)
    (parts : List (List Char)) :
    (fillParts style column ((c :: part) :: parts)).1.flatMap Run.cells =
        cell (style.bind Style.code?) c ::
          (fillParts style (column + Text.cells c) (part :: parts)).1.flatMap Run.cells ∧
      (fillParts style column ((c :: part) :: parts)).2 =
        (fillParts style (column + Text.cells c) (part :: parts)).2 := by
  have width : column + Text.width (c :: part) = column + Text.cells c + Text.width part :=
    (Nat.add_assoc _ _ _).symm
  cases parts with
  | nil => exact ⟨rfl, width⟩
  | cons next parts =>
      rw [fillParts_next, fillParts_next, width]
      exact ⟨rfl, rfl⟩

/-- **Filling up with blanks** makes of the cells of a run what `untab` makes of them. -/
theorem untab_text (style : Option Style) (column : Nat) {text : List Char} (level : '\n' ∉ text)
    (rest : List Cell) :
    untab column (text.map (cell (style.bind Style.code?)) ++ rest) =
      (fillParts style column (cutAt '\t' text)).1.flatMap Run.cells ++
        untab (fillParts style column (cutAt '\t' text)).2 rest := by
  induction text generalizing column with
  | nil => rfl
  | cons c text ih =>
      obtain ⟨newline, behind⟩ := not_or.mp (List.mem_cons.not.mp level)
      rw [List.map_cons, List.cons_append]
      by_cases tab : c = '\t'
      · subst tab
        obtain ⟨part, parts, cut⟩ := List.exists_cons_of_ne_nil (cutAt_ne_nil '\t' text)
        rw [untab_tab, ih _ behind, cutAt_same, cut, fillParts_next, List.flatMap_cons, List.append_assoc]
        rfl
      · obtain ⟨part, parts, cut, cut'⟩ := cutAt_other tab text
        obtain ⟨cells, column'⟩ := fillParts_cons style column c part parts
        rw [untab_char tab (Ne.symm newline), ih _ behind, cut', cells, column', cut, List.cons_append]

theorem untab_line (column : Nat) {line : List Run} (level : ∀ run ∈ line, '\n' ∉ run.text)
    (rest : List Cell) :
    untab column (line.flatMap Run.cells ++ ('\n', none) :: rest) =
      (fillTabs column line).flatMap Run.cells ++ ('\n', none) :: untab 0 rest := by
  induction line generalizing column with
  | nil => exact untab_newline column rest
  | cons run line ih =>
      obtain ⟨first, others⟩ := List.forall_mem_cons.mp level
      rw [List.flatMap_cons, List.append_assoc, Run.cells, Run.code?, untab_text _ _ first, ih _ others,
        fillTabs, List.flatMap_append, List.append_assoc]

/-! ### Lines -/

theorem prepend_next (style : Option Style) (part next : List Char) (parts : List (List Char))
    (lines : List (List Run)) :
    prepend style (part :: next :: parts) lines = [⟨style, part⟩] :: prepend style (next :: parts) lines := by
  rw [prepend]
  · exact nofun
  · exact nofun

/-- A run in front of lines is the first part of them. -/
theorem cells_prepend (style : Option Style) (text : List Char) (line : List Run) (others : List (List Run)) :
    (prepend style (cutAt '\n' text) (line :: others)).flatMap lineCells =
      text.map (cell (style.bind Style.code?)) ++ (line :: others).flatMap lineCells := by
  induction text with
  | nil => rfl
  | cons c text ih =>
      by_cases newline : c = '\n'
      · subst newline
        obtain ⟨part, parts, cut⟩ := List.exists_cons_of_ne_nil (cutAt_ne_nil '\n' text)
        rw [cut] at ih
        rw [cutAt_same, cut, prepend_next, List.flatMap_cons, ih]
        rfl
      · obtain ⟨part, parts, cut, cut'⟩ := cutAt_other newline text
        rw [cut] at ih
        rw [cut', List.map_cons, List.cons_append, ← ih]
        cases parts with
        | nil => rfl
        | cons next parts =>
            rw [prepend_next, prepend_next]
            rfl

theorem prepend_ne_nil (style : Option Style) {parts : List (List Char)} (some_ : parts ≠ [])
    (lines : List (List Run)) : prepend style parts lines ≠ [] := by
  match parts, lines with
  | [last], [] => exact nofun
  | [last], line :: lines => exact nofun
  | part :: next :: parts, lines =>
      rw [prepend_next]
      exact nofun

theorem lines_ne_nil (runs : List Run) : lines runs ≠ [] := by
  cases runs with
  | nil => exact nofun
  | cons run runs => exact prepend_ne_nil _ (cutAt_ne_nil _ _) _

/-- **Cutting into lines** leaves the cells of the runs one after another. -/
theorem cells_lines (runs : List Run) : (lines runs).flatMap lineCells = lineCells runs := by
  induction runs with
  | nil => rfl
  | cons run runs ih =>
      obtain ⟨line, others, cut⟩ := List.exists_cons_of_ne_nil (lines_ne_nil runs)
      rw [lines, cut, cells_prepend, ← cut, ih, lineCells, lineCells, List.flatMap_cons, List.append_assoc]
      rfl

theorem level_prepend (style : Option Style) {parts : List (List Char)} {lines : List (List Run)}
    (first : ∀ part ∈ parts, '\n' ∉ part) (level : ∀ line ∈ lines, ∀ run ∈ line, '\n' ∉ run.text) :
    ∀ line ∈ prepend style parts lines, ∀ run ∈ line, '\n' ∉ run.text := by
  induction parts with
  | nil => exact level
  | cons part parts ih =>
      obtain ⟨here, others⟩ := List.forall_mem_cons.mp first
      match parts, lines with
      | [], [] => simpa [prepend] using here
      | [], line :: lines =>
          obtain ⟨next, more⟩ := List.forall_mem_cons.mp level
          exact List.forall_mem_cons.mpr ⟨List.forall_mem_cons.mpr ⟨here, next⟩, more⟩
      | next :: parts, lines =>
          rw [prepend_next]
          exact List.forall_mem_cons.mpr ⟨by simpa using here, ih others⟩

theorem level_lines (runs : List Run) : ∀ line ∈ lines runs, ∀ run ∈ line, '\n' ∉ run.text := by
  induction runs with
  | nil => simp [lines]
  | cons run runs ih => exact level_prepend _ (not_mem_cutAt _ _) ih

/-- **The cells that are written** for runs, cut into lines and with blanks for tabs. -/
theorem cells_written (runs : List Run) :
    (lines runs).flatMap (fun line => lineCells (fillTabs 0 line)) = untab 0 (lineCells runs) := by
  have level := level_lines runs
  rw [← cells_lines]
  generalize lines runs = cut at level ⊢
  induction cut with
  | nil => rfl
  | cons line others ih =>
      obtain ⟨first, behind⟩ := List.forall_mem_cons.mp level
      rw [List.flatMap_cons, List.flatMap_cons, ih behind]
      simp only [lineCells, List.append_assoc, List.singleton_append]
      rw [untab_line 0 first]

end

/-! ### What is shown -/

theorem mem_untab {column : Nat} {cells : List Cell} {shown : Cell} (member : shown ∈ untab column cells) :
    shown.1 = ' ' ∨ shown ∈ cells := by
  induction cells generalizing column with
  | nil => exact .inr member
  | cons first rest ih =>
      obtain ⟨c, code?⟩ := first
      rw [untab] at member
      split at member
      · rcases List.mem_append.mp member with blank | behind
        · exact .inl (by rw [List.eq_of_mem_replicate blank])
        · exact (ih behind).imp id (List.mem_cons_of_mem _)
      · rcases List.mem_cons.mp member with rfl | behind
        · exact .inr List.mem_cons_self
        · exact (ih behind).imp id (List.mem_cons_of_mem _)

/-- Where there are no tabs, blanks are not needed. -/
theorem untab_eq_self {cells : List Cell} (calm : ∀ shown ∈ cells, shown.1 ≠ '\t') (column : Nat) :
    untab column cells = cells := by
  induction cells generalizing column with
  | nil => rfl
  | cons first rest ih =>
      obtain ⟨here, behind⟩ := List.forall_mem_cons.mp calm
      rw [untab, if_neg here, ih behind]

/-- No sequence comes in by the runs of a line if there is none in their text. -/
theorem calm_fillTabs {runs : List Run} (calm : ∀ run ∈ runs, '\x1b' ∉ run.text) :
    ∀ line ∈ lines runs, ∀ run ∈ fillTabs 0 line, '\x1b' ∉ run.text := by
  intro line cut run filled member
  have shown : cell run.code? '\x1b' ∈ (lines runs).flatMap (fun line => lineCells (fillTabs 0 line)) :=
    List.mem_flatMap.mpr ⟨line, cut, List.mem_append_left _
      (List.mem_flatMap.mpr ⟨run, filled, List.mem_map_of_mem member⟩)⟩
  rw [cells_written] at shown
  rcases mem_untab shown with blank | shown
  · exact absurd blank (show '\x1b' ≠ ' ' by decide)
  · rcases List.mem_append.mp shown with inside | newline
    · obtain ⟨other, source, within⟩ := List.mem_flatMap.mp inside
      obtain ⟨c, here, same⟩ := List.mem_map.mp within
      obtain rfl : c = '\x1b' := congrArg Prod.fst same
      exact calm other source here
    · exact absurd (congrArg Prod.fst (List.mem_singleton.mp newline)) (show '\x1b' ≠ '\n' by decide)

/-- **What a terminal shows of runs** that were written: their cells, with blanks for tabs. -/
theorem display_lines {runs : List Run} (calm : ∀ run ∈ runs, '\x1b' ∉ run.text) :
    display none ((lines runs).flatMap writtenLine) = untab 0 (lineCells runs) := by
  have calm := calm_fillTabs calm
  rw [← cells_written]
  generalize lines runs = cut at calm ⊢
  induction cut with
  | nil => exact display_nil
  | cons line others ih =>
      obtain ⟨first, behind⟩ := List.forall_mem_cons.mp calm
      rw [List.flatMap_cons, writtenLine, List.append_assoc, display_runs _ first, List.singleton_append,
        display_char (by decide), ih behind, List.flatMap_cons, lineCells, List.append_assoc]
      rfl

end Docwright.Console
