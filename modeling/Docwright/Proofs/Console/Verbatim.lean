import Docwright.Proofs.Console.Injection
import Docwright.Text.Printable
import Mathlib.Data.List.Basic

/-!
# Texts that are shown as they are

A line is to show its path or message as it is.  It does so for a text if and only if
each of its fragments is written as it is, that is, holds no backslash in front of a
bracket and no known name between colons, and the backslashes at its end are none or a
single one where a style ends behind them, and not a single one where none does
(`Verbatim`, `shown_verbatim`).  Brackets alone, tags among them, do no harm, and
neither do any number of backslashes in front of a tag.

`escape` does not go as far as that: it escapes tags only, while the console drops a
backslash in front of any bracket and takes `:cat:` for a cat; and it makes two
backslashes of a single one at the end of a text, which is right in front of a tag, but
wrong elsewhere, and leaves two of them alone, which is wrong in front of a tag
(`not_all_verbatim`).
-/

namespace Docwright.Console

variable {name? : Option (List Char)} {text : List Char}

/-- So many backslashes at the end of a text are shown as they are. -/
def Kept (name? : Option (List Char)) (slashes : Nat) : Prop :=
  match name? with
  | none => slashes ≠ 1
  | some _ => slashes ≤ 1

instance (name? : Option (List Char)) (slashes : Nat) : Decidable (Kept name? slashes) :=
  match name? with
  | none => inferInstanceAs (Decidable (slashes ≠ 1))
  | some _ => inferInstanceAs (Decidable (slashes ≤ 1))

/-- Nothing of a text is shown as something else. -/
structure Verbatim (name? : Option (List Char)) (text : List Char) : Prop where
  brackets : ∀ part ∈ fragments text, ¬ ['\\', '['] <:+: part
  pictures : ∀ part ∈ fragments text, Emoji.replace part = part
  ending : Kept name? (endSlashes text)

instance (name? : Option (List Char)) (text : List Char) : Decidable (Verbatim name? text) :=
  decidable_of_iff ((∀ part ∈ fragments text, ¬ ['\\', '['] <:+: part) ∧
      (∀ part ∈ fragments text, Emoji.replace part = part) ∧ Kept name? (endSlashes text))
    ⟨fun ⟨brackets, pictures, ending⟩ => ⟨brackets, pictures, ending⟩,
      fun ⟨brackets, pictures, ending⟩ => ⟨brackets, pictures, ending⟩⟩

theorem fragment_within {part : List Char} (fragment : part ∈ fragments text) : part <:+: text := by
  have whole : (fragments text).flatten <+: text := ⟨_, flatten_fragments text⟩
  obtain ⟨before, after, split⟩ := List.append_of_mem fragment
  rw [split, List.flatten_append, List.flatten_cons] at whole
  exact List.IsInfix.trans ⟨before.flatten, after.flatten, by rw [List.append_assoc]⟩ whole.isInfix

/-- A text without backslashes and known names, whatever brackets and colons it holds. -/
theorem Verbatim.of_calm (slashes : '\\' ∉ text) (names : ¬ Emoji.Pictured text) (name? : Option (List Char)) :
    Verbatim name? text where
  brackets part fragment inside :=
    slashes ((fragment_within fragment).subset (inside.subset List.mem_cons_self))
  pictures part fragment := by
    refine Emoji.replace_eq_self fun ⟨front, body, back, split, known⟩ => names ?_
    obtain ⟨before, after, whole⟩ := fragment_within fragment
    exact ⟨before ++ front, body, back ++ after, by rw [← whole, split]; simp, known⟩
  ending := by
    have none_ : endSlashes text = 0 := by
      rw [endSlashes, List.length_eq_zero_iff, List.rtakeWhile_eq_nil_iff]
      intro filled last
      exact slashes (beq_iff_eq.mp last ▸ List.getLast_mem filled)
    rw [none_]
    cases name? with
    | none => exact Nat.zero_ne_one
    | some name => exact Nat.zero_le 1

/-! ### Parts and wholes -/

section

variable {α : Type} {f : List α → List α}

theorem length_flatMap_le (shorter : ∀ part, (f part).length ≤ part.length) (parts : List (List α)) :
    (parts.flatMap f).length ≤ parts.flatten.length := by
  induction parts with
  | nil => exact le_rfl
  | cons part parts ih =>
      rw [List.flatMap_cons, List.flatten_cons, List.length_append, List.length_append]
      exact Nat.add_le_add (shorter part) ih

/-- Where no part gets longer, the whole stays as it is only if every part does. -/
theorem flatMap_eq_flatten (shorter : ∀ part, (f part).length ≤ part.length) {parts : List (List α)}
    (same : parts.flatMap f = parts.flatten) : ∀ part ∈ parts, f part = part := by
  induction parts with
  | nil => exact nofun
  | cons part parts ih =>
      rw [List.flatMap_cons, List.flatten_cons] at same
      have lengths := congrArg List.length same
      rw [List.length_append, List.length_append] at lengths
      have here := shorter part
      have behind := length_flatMap_le shorter parts
      obtain ⟨first, others⟩ := List.append_inj same (by omega)
      exact List.forall_mem_cons.mpr ⟨first, ih others⟩

end

theorem last_fragments (text : List Char) : (fragments text).flatten.getLast? ≠ some '\\' := by
  rw [fragments, Token.flatten_fragments]
  refine Token.last_spelled fun last => ?_
  have filled : stem text ≠ [] := fun none_ => by rw [none_] at last; cases last
  rw [List.getLast?_eq_some_getLast filled] at last
  exact List.rdropWhile_last_not _ _ filled (beq_iff_eq.mpr (Option.some.inj last))

theorem shownEnd_of_kept {slashes : Nat} (kept : Kept name? slashes) :
    shownEnd name? slashes = List.replicate slashes '\\' := by
  cases name? with
  | none => rw [shownEnd, paired, if_neg kept]
  | some name =>
      have few : slashes ≤ 1 := kept
      obtain rfl | rfl : slashes = 0 ∨ slashes = 1 := by omega
      · rfl
      · rfl

/-- Another number of backslashes is told by the length of what is shown, or by its last character. -/
theorem kept_of_append_eq {slashes : Nat} {shown front : List Char}
    (same : shown ++ shownEnd name? slashes = front ++ List.replicate slashes '\\')
    (shorter : shown.length ≤ front.length) (last : front.getLast? ≠ some '\\') : Kept name? slashes := by
  cases name? with
  | none =>
      rintro rfl
      have one : (shown ++ ['\\']) ++ ['\\'] = front ++ ['\\'] := by simpa [shownEnd, paired] using same
      rw [← List.append_cancel_right one, List.getLast?_concat] at last
      exact last rfl
  | some name =>
      by_contra more
      obtain ⟨two, paired_eq⟩ : 2 ≤ slashes ∧ paired slashes = slashes := by
        have : ¬ slashes ≤ 1 := more
        exact ⟨by omega, if_neg (by omega)⟩
      rw [shownEnd, paired_eq, leftover] at same
      split at same
      · next odd =>
          obtain ⟨n, rfl⟩ := Nat.exists_eq_add_of_le' two
          have left : (List.replicate ((n + 2) / 2) '\\' :: [Token.bracketed ('/' :: name)]).flatten =
              (List.replicate ((n + 2) / 2) '\\' ++ '[' :: '/' :: name) ++ [']'] := by
            simp [Token.bracketed]
          rw [left, List.replicate_succ', ← List.append_assoc shown, ← List.append_assoc front] at same
          exact absurd (List.append_inj' same rfl).2 (by decide)
      · have lengths := congrArg List.length same
        simp only [List.length_append, List.flatten_cons, List.flatten_nil, List.length_replicate,
          List.length_nil] at lengths
        omega

/-- **Which texts are shown as they are.** -/
theorem appearance_eq_self_iff (still : ∀ c ∈ text, isMoving c = false) :
    appearance name? text = text ↔ Verbatim name? text := by
  constructor
  · intro same
    have whole := same.trans (flatten_fragments text).symm
    have ending := kept_of_append_eq whole (length_flatMap_le length_plain_le _) (last_fragments text)
    rw [appearance, shownEnd_of_kept ending] at whole
    have parts := flatMap_eq_flatten length_plain_le (List.append_cancel_right whole)
    exact ⟨fun part fragment => (plain_eq_self_iff.mp (parts part fragment)).1,
      fun part fragment => (plain_eq_self_iff.mp (parts part fragment)).2.1, ending⟩
  · rintro ⟨brackets, pictures, ending⟩
    have parts : ∀ part ∈ fragments text, plain part = part := fun part fragment =>
      plain_eq_self_iff.mpr ⟨brackets part fragment, pictures part fragment,
        fun c member => still c ((fragment_within fragment).subset member)⟩
    rw [appearance, shownEnd_of_kept ending, (List.flatMap_congr parts).trans List.flatMap_id',
      flatten_fragments]

theorem visible_of_printable {c : Char} (printable : Text.isPrintable c = true) : 32 ≤ c.toNat := by
  rw [Text.isPrintable, Text.inClass] at printable
  split at printable
  · simp only [Bool.and_eq_true, decide_eq_true_eq] at printable
    exact printable.1
  · omega

theorem still_of_visible {c : Char} (visible : 32 ≤ c.toNat) : isMoving c = false := by
  simp only [isMoving, Bool.or_eq_false_iff, beq_eq_false_iff_ne]
  omega

/-- Of a line with visible characters, what is written without the codes is the line itself. -/
theorem Shown.withoutCodes_markup (line : Shown) (visible : ∀ c ∈ line.said, 32 ≤ c.toNat) :
    ∃ out, print line.markup = .ok out ∧
      withoutCodes out = line.front ++ appearance line.styleName? line.said ++ ['\n'] := by
  have calm : '\x1b' ∉ line.said := fun member => absurd (visible _ member) (by decide)
  obtain ⟨out, printed, shown⟩ := line.display_markup calm
  have chars : line.cells.map Prod.fst = line.front ++ appearance line.styleName? line.said ++ ['\n'] := by
    rw [Shown.cells, List.map_append, List.map_append, map_fst_cells, map_fst_cells]
    rfl
  have level : ∀ shown ∈ line.cells, shown.1 ≠ '\t' := by
    intro shown member tab
    have inside := chars ▸ List.mem_map_of_mem (f := Prod.fst) member
    rw [tab, List.mem_append, List.mem_append] at inside
    rcases inside with (front | text) | newline
    · exact absurd (line.heads_front.visible _ front) (by decide)
    · refine (mem_appearance (fun _ style => names_styleName? style) text).elim (fun own => ?_) (by decide)
      exact absurd (visible _ own) (by decide)
    · exact absurd (List.mem_singleton.mp newline) (by decide)
  exact ⟨out, printed, by rw [withoutCodes, shown, untab_eq_self level, chars]⟩

/-- **What is shown is the message**, or the path, if it is `Verbatim`.  Of a line with a text of printable
characters, what is written without the codes is the front, what is shown of the text and the end of the
line.  That is the text itself if and only if it is verbatim, as it always is without backslashes and known
names of pictures. -/
theorem shown_verbatim (line : Shown) (printable : ∀ c ∈ line.said, Text.isPrintable c = true) :
    ∃ out, print line.markup = .ok out ∧
      withoutCodes out = line.front ++ appearance line.styleName? line.said ++ ['\n'] ∧
      (withoutCodes out = line.front ++ line.said ++ ['\n'] ↔ Verbatim line.styleName? line.said) ∧
      ('\\' ∉ line.said → ¬ Emoji.Pictured line.said →
        withoutCodes out = line.front ++ line.said ++ ['\n']) := by
  obtain ⟨out, printed, shown⟩ :=
    line.withoutCodes_markup fun c member => visible_of_printable (printable c member)
  have verbatim : withoutCodes out = line.front ++ line.said ++ ['\n'] ↔
      Verbatim line.styleName? line.said := by
    rw [shown, List.append_assoc, List.append_assoc, List.append_cancel_left_eq, List.append_cancel_right_eq]
    exact appearance_eq_self_iff fun c member =>
      still_of_visible (visible_of_printable (printable c member))
  exact ⟨out, printed, shown, verbatim, fun slashes names => verbatim.mpr (.of_calm slashes names _)⟩

/-- Tags, backslashes in front of them, times of day and one backslash at the end of a style are shown as
they are. -/
theorem shown_verbatim_bracketed :
    ∃ out, print (logLine .error "at 10:30:00 [/error] [x] \\\\[link=a]\\".toList) = .ok out ∧
      withoutCodes out = "  at 10:30:00 [/error] [x] \\\\[link=a]\\\n".toList := by
  obtain ⟨out, printed, -, verbatim, -⟩ :=
    shown_verbatim (.log .error "at 10:30:00 [/error] [x] \\\\[link=a]\\")
      (List.all_eq_true.mp (by decide +kernel))
  exact ⟨out, printed, verbatim.mpr (by decide +kernel)⟩

/-- **Not all texts are shown as they are**: two backslashes at the end of a message in a style, one at the
end of a message without a style, one in front of a bracket that begins no tag, and a path that holds the
name of a picture. -/
theorem not_all_verbatim :
    (¬ ∀ line : Shown, (∀ c ∈ line.said, Text.isPrintable c = true) →
      line.written?.map withoutCodes = some (line.front ++ line.said ++ ['\n'])) ∧
    ∀ line ∈ [Shown.log .error "a\\\\", .log .info "a\\", .log .notice "a\\[1]", .file .analyzed ":cat:.py"],
      (∀ c ∈ line.said, Text.isPrintable c = true) ∧
        line.written?.map withoutCodes ≠ some (line.front ++ line.said ++ ['\n']) := by
  have each : ∀ line ∈ [Shown.log .error "a\\\\", .log .info "a\\", .log .notice "a\\[1]",
      .file .analyzed ":cat:.py"], (∀ c ∈ line.said, Text.isPrintable c = true) ∧
        line.written?.map withoutCodes ≠ some (line.front ++ line.said ++ ['\n']) := by
    simp only [← List.all_eq_true]
    decide +kernel
  obtain ⟨printable, other⟩ := each _ (.head _)
  exact ⟨fun all => other (all _ printable), each⟩

end Docwright.Console
