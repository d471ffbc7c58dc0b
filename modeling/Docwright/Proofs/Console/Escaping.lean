import Docwright.Console.Line
import Docwright.Console.Screen
import Mathlib.Data.List.DropRight
import Mathlib.Data.List.TakeWhile

/-!
# Escaped text on a console

A text that is escaped holds no tag of its own, at the end of a line as well as in
front of a tag: what the tag scan finds in it are the tokens of the text itself, its
tags with an odd number of backslashes, which makes them text (`scan_written`).  A tag
behind it is found whatever the text ends in; but where the text ends in backslashes,
these count for that tag, so that it may become text as well.

`escape` sees to a single backslash at the end and makes it two (`scan_escape`); it
leaves two of them or more as they are.
-/

namespace Docwright.Console

namespace Token

variable {count : Nat} {text rest body tail : List Char}

/-! ### The tag scan -/

theorem scan_nil (count : Nat) : scan count [] = slashes count := by
  rw [scan]

theorem scan_slash (count : Nat) (rest : List Char) :
    scan count ('\\' :: rest) = scan (count + 1) rest := by
  rw [scan]

theorem scan_tag (split : split? text = some (body, rest)) :
    scan count ('[' :: text) = .tag count body :: scan 0 rest := by
  rw [scan]
  split
  · next found =>
      rw [split] at found
      cases found
      rfl
  · next none_ =>
      rw [split] at none_
      cases none_

theorem scan_bracket (split : split? text = none) :
    scan count ('[' :: text) = slashes count ++ .char '[' :: scan 0 text := by
  rw [scan]
  split
  · next found =>
      rw [split] at found
      cases found
  · rfl

theorem scan_char {c : Char} (slash : c ≠ '\\') (bracket : c ≠ '[') :
    scan count (c :: rest) = slashes count ++ .char c :: scan 0 rest := by
  rw [scan]
  · exact fun same => slash same
  · exact fun same => bracket same

theorem scan_replicate (n : Nat) :
    scan count (List.replicate n '\\' ++ rest) = scan (count + n) rest := by
  induction n generalizing count with
  | zero => rfl
  | succ n ih =>
      rw [List.replicate_succ, List.cons_append, scan_slash, ih, Nat.add_assoc, Nat.add_comm 1 n]

/-- Induction along the tag scan. -/
theorem scan_induction {motive : Nat → List Char → Prop} (nil : ∀ count, motive count [])
    (slash : ∀ count rest, motive (count + 1) rest → motive count ('\\' :: rest))
    (tag : ∀ count text body rest, split? text = some (body, rest) → motive 0 rest →
      motive count ('[' :: text))
    (bracket : ∀ count text, split? text = none → motive 0 text → motive count ('[' :: text))
    (char : ∀ count c rest, c ≠ '\\' → c ≠ '[' → motive 0 rest → motive count (c :: rest))
    (count : Nat) (text : List Char) : motive count text :=
  match text with
  | [] => nil count
  | c :: rest =>
    if slash_ : c = '\\' then
      slash_ ▸ slash count rest (scan_induction nil slash tag bracket char (count + 1) rest)
    else if bracket_ : c = '[' then
      match found : split? rest with
      | some (body, rest') =>
        bracket_ ▸ tag count rest body rest' found
          (scan_induction nil slash tag bracket char 0 rest')
      | none =>
        bracket_ ▸ bracket count rest found (scan_induction nil slash tag bracket char 0 rest)
    else char count c rest slash_ bracket_ (scan_induction nil slash tag bracket char 0 rest)
termination_by text.length
decreasing_by
  · simp
  · have := length_lt_of_split? found
    simp only [List.length_cons]
    omega
  · simp
  · simp

/-- What may stand between the brackets of a tag. -/
structure IsTag (body : List Char) : Prop where
  begins : (body.head?.map beginsTag).getD false = true
  within : ∀ c ∈ body, inTag c = true

theorem split?_tag (tag : IsTag body) (rest : List Char) :
    split? (body ++ ']' :: rest) = some (body, rest) := by
  have inner : ∀ c ∈ body, inTag c = true := tag.within
  have head : (body ++ ']' :: rest).head? = body.head? := by
    cases body with
    | nil => exact absurd tag.begins Bool.false_ne_true
    | cons c more => rfl
  have stop : inTag ']' = false := rfl
  rw [split?, head, if_pos tag.begins, List.dropWhile_append_of_pos inner,
    List.takeWhile_append_of_pos inner, List.dropWhile_cons, List.takeWhile_cons, stop]
  simp

theorem split?_eq_some (split : split? text = some (body, rest)) :
    text = body ++ ']' :: rest ∧ IsTag body := by
  unfold split? at split
  split at split
  · next begins =>
      split at split
      · next rest' after =>
          obtain ⟨rfl, rfl⟩ := Prod.mk.inj (Option.some.inj split)
          have whole := List.takeWhile_append_dropWhile (p := inTag) (l := text)
          rw [after] at whole
          refine ⟨whole.symm, ?_, fun c member => List.mem_takeWhile_imp member⟩
          rw [← whole] at begins
          cases inner : text.takeWhile inTag with
          | nil =>
              rw [inner] at begins
              cases begins
          | cons c more =>
              rw [inner] at begins
              exact begins
      · cases split
  · cases split

/-- A token as it is spelled. -/
def spelled : Token → List Char
  | char c => [c]
  | tag slashes body => List.replicate slashes '\\' ++ bracketed body

/-- A token as it is found in the escaped text: a tag has twice the backslashes and one more. -/
def doubled : Token → Token
  | char c => char c
  | tag slashes body => tag (2 * slashes + 1) body

theorem last_ne {α : Type} {a last_ : α} {rest : List α} (front : List α) (here : a ≠ last_)
    (behind : rest.getLast? ≠ some last_) : (front ++ a :: rest).getLast? ≠ some last_ := by
  rw [List.getLast?_append, List.getLast?_cons, Option.some_or]
  cases found : rest.getLast? with
  | none => simpa using here
  | some b => simpa [found] using behind

theorem map_doubled_slashes (n : Nat) : (slashes n).map doubled = slashes n := by
  rw [slashes, List.map_replicate, doubled]

theorem flatMap_slashes {f : Token → List Char} (slash : f (.char '\\') = ['\\']) (n : Nat) :
    (slashes n).flatMap f = List.replicate n '\\' := by
  rw [slashes, List.flatMap_replicate, slash, List.flatten_replicate_singleton]

theorem flatMap_escaped (tokens : List Token) :
    tokens.flatMap escaped = (tokens.map doubled).flatMap spelled := by
  rw [List.flatMap_map]
  congr 1
  funext t
  cases t <;> rfl

theorem last_doubled {tokens : List Token} (last : tokens.getLast? ≠ some (.char '\\')) :
    (tokens.map doubled).getLast? ≠ some (.char '\\') := by
  rw [List.getLast?_map]
  intro same
  obtain ⟨t, found, doubled⟩ := Option.map_eq_some_iff.mp same
  cases t with
  | char c => exact last (found.trans (congrArg some doubled))
  | tag n body => cases doubled

/-- The scan leaves nothing out. -/
theorem spelled_scan (count : Nat) (text : List Char) :
    (scan count text).flatMap spelled = List.replicate count '\\' ++ text := by
  induction count, text using scan_induction with
  | nil count => rw [scan_nil, flatMap_slashes rfl, List.append_nil]
  | slash count text ih =>
      rw [scan_slash, ih, List.replicate_succ', List.append_assoc, List.singleton_append]
  | tag count text body rest split ih =>
      rw [scan_tag split, List.flatMap_cons, ih, (split?_eq_some split).1, spelled, bracketed]
      simp
  | bracket count text split ih =>
      rw [scan_bracket split, List.flatMap_append, flatMap_slashes rfl, List.flatMap_cons, ih, spelled]
      rfl
  | char count c text slash bracket ih =>
      rw [scan_char slash bracket, List.flatMap_append, flatMap_slashes rfl, List.flatMap_cons, ih, spelled]
      rfl

/-- Tokens end in a backslash if their text does. -/
theorem last_spelled {tokens : List Token} (last : tokens.getLast? ≠ some (.char '\\')) :
    (tokens.flatMap spelled).getLast? ≠ some '\\' := by
  rcases List.eq_nil_or_concat tokens with rfl | ⟨front, t, rfl⟩
  · exact nofun
  · rw [List.concat_eq_append, List.getLast?_concat] at last
    rw [List.concat_eq_append, List.flatMap_append, List.flatMap_singleton]
    cases t with
    | char c =>
        rw [spelled, List.getLast?_concat]
        exact fun same => last (congrArg (some ∘ char) (Option.some.inj same))
    | tag n body =>
        rw [spelled, bracketed, ← List.append_assoc, ← List.append_assoc, List.getLast?_concat]
        decide

/-! ### Escaped text -/

/-- The text in which every tag of another one is escaped, with the backslashes that were read before
it. -/
def written (count : Nat) (text : List Char) : List Char :=
  (scan count text).flatMap escaped

theorem written_nil : written count [] = List.replicate count '\\' := by
  rw [written, scan_nil, flatMap_slashes rfl]

theorem written_slash : written count ('\\' :: rest) = written (count + 1) rest := by
  rw [written, scan_slash, written]

theorem written_tag (split : split? text = some (body, rest)) :
    written count ('[' :: text) =
      List.replicate (2 * count + 1) '\\' ++ '[' :: (body ++ ']' :: written 0 rest) := by
  rw [written, scan_tag split, List.flatMap_cons, escaped, bracketed, written]
  simp

theorem written_bracket (split : split? text = none) :
    written count ('[' :: text) = List.replicate count '\\' ++ '[' :: written 0 text := by
  rw [written, scan_bracket split, List.flatMap_append, flatMap_slashes rfl, List.flatMap_cons, written]
  rfl

theorem written_char {c : Char} (slash : c ≠ '\\') (bracket : c ≠ '[') :
    written count (c :: rest) = List.replicate count '\\' ++ c :: written 0 rest := by
  rw [written, scan_char slash bracket, List.flatMap_append, flatMap_slashes rfl, List.flatMap_cons,
    written]
  rfl

/-- Whether a text may begin a tag, from behind its opening bracket. -/
def Begins (text : List Char) : Prop := (text.head?.map beginsTag).getD false = true

/-- Whether the first bracket in a text is a closing one. -/
def Closes (text : List Char) : Prop := (text.dropWhile inTag).head? = some ']'

theorem split?_eq_none_iff : split? text = none ↔ ¬ (Begins text ∧ Closes text) := by
  unfold split? Begins Closes
  split
  · next begins =>
      cases after : text.dropWhile inTag with
      | nil => simp
      | cons c rest =>
          by_cases same : c = ']'
          · subst same
            simp [begins]
          · have other : ∀ rest', c :: rest ≠ ']' :: rest' := fun _ h => same (List.cons.inj h).1
            simp [same]
  · next idle => simp [idle]

theorem closes_append {front : List Char} (inner : ∀ c ∈ front, inTag c = true) :
    Closes (front ++ text) ↔ Closes text := by
  rw [Closes, Closes, List.dropWhile_append_of_pos inner]

theorem inTag_replicate (n : Nat) : ∀ c ∈ List.replicate n '\\', inTag c = true := by
  intro c member
  rw [List.eq_of_mem_replicate member]
  rfl

theorem not_closes_bracket : ¬ Closes ('[' :: text) := by
  have stop : inTag '[' = false := rfl
  simp [Closes, stop]

/-- What may stand behind an escaped text without making a tag with the end of it. -/
structure Dull (tail : List Char) : Prop where
  idle : ¬ Begins tail
  unclosed : ¬ Closes tail

variable {tail : List Char}

/-- A text that is escaped has a closing bracket first only if it had one. -/
theorem closes_written (dull : Dull tail) (count : Nat) (text : List Char)
    (closes : Closes (written count text ++ tail)) : Closes text := by
  induction count, text using scan_induction with
  | nil count =>
      rw [written_nil, closes_append (inTag_replicate count)] at closes
      exact absurd closes dull.unclosed
  | slash count text ih =>
      rw [written_slash] at closes
      have one : ∀ c ∈ ['\\'], inTag c = true := inTag_replicate 1
      exact (closes_append one).mpr (ih closes)
  | tag count text body' rest' split ih =>
      rw [written_tag split, List.append_assoc, closes_append (inTag_replicate _)] at closes
      exact absurd closes not_closes_bracket
  | bracket count text split ih =>
      rw [written_bracket split, List.append_assoc, closes_append (inTag_replicate _)] at closes
      exact absurd closes not_closes_bracket
  | char count c text slash bracket ih =>
      rw [written_char slash bracket, List.append_assoc,
        closes_append (inTag_replicate count)] at closes
      by_cases inner : inTag c = true
      · have one : ∀ d ∈ [c], inTag d = true := by simpa using inner
        exact (closes_append one).mpr (ih ((closes_append one).mp closes))
      · have last : Closes (c :: text) ↔ c = ']' := by
          simp [Closes, inner]
        have last' : Closes (c :: written 0 text ++ tail) ↔ c = ']' := by
          simp [Closes, inner]
        exact last.mpr (last'.mp closes)

theorem not_begins_slash : ¬ Begins ('\\' :: text) := by
  simp [Begins, beginsTag]

theorem not_begins_bracket : ¬ Begins ('[' :: text) := by
  simp [Begins, beginsTag]

/-- Backslashes that were read before a text come first. -/
theorem written_after_slash (count : Nat) (text : List Char) (some_ : 0 < count) :
    ∃ front, written count text = '\\' :: front := by
  obtain ⟨count, rfl⟩ := Nat.exists_eq_add_one_of_ne_zero some_.ne'
  induction text generalizing count with
  | nil => exact ⟨_, written_nil⟩
  | cons c text ih =>
      by_cases slash : c = '\\'
      · subst slash
        rw [written_slash]
        exact ih (count + 1) (Nat.succ_pos _)
      · by_cases bracket : c = '['
        · subst bracket
          cases split : split? text with
          | none => exact ⟨_, written_bracket split⟩
          | some found => exact ⟨_, written_tag split⟩
        · exact ⟨_, written_char slash bracket⟩

/-- It begins like a tag only if it did so before. -/
theorem begins_written (dull : Dull tail) (begins : Begins (written 0 text ++ tail)) :
    Begins text := by
  cases text with
  | nil =>
      rw [written_nil] at begins
      exact absurd begins dull.idle
  | cons c text =>
      by_cases slash : c = '\\'
      · subst slash
        obtain ⟨front, whole⟩ := written_after_slash 1 text Nat.one_pos
        rw [written_slash, whole] at begins
        exact absurd begins not_begins_slash
      · by_cases bracket : c = '['
        · subst bracket
          cases split : split? text with
          | none =>
              rw [written_bracket split] at begins
              exact absurd begins not_begins_bracket
          | some found =>
              obtain ⟨body', rest'⟩ := found
              rw [written_tag split] at begins
              exact absurd begins not_begins_slash
        · rw [written_char slash bracket] at begins
          exact begins

/-- A bracket that begins no tag begins none either where the text behind it is escaped. -/
theorem split?_written (dull : Dull tail) (split : split? text = none) :
    split? (written 0 text ++ tail) = none := by
  rw [split?_eq_none_iff] at split ⊢
  rintro ⟨begins, closes⟩
  exact split ⟨begins_written dull begins, closes_written dull 0 text closes⟩

/-- **The scan of an escaped text.**  It finds the tokens that the scan of the text itself finds, with the
backslashes of tags doubled and one more; so there is no tag among them that is not text.  The backslashes
at the end count for what is behind the text. -/
theorem scan_written (count : Nat) (text : List Char) :
    ∃ tokens ending, scan count text = tokens ++ slashes ending ∧ tokens.getLast? ≠ some (.char '\\') ∧
      ∀ {tail}, Dull tail →
        scan 0 (written count text ++ tail) = tokens.map doubled ++ scan ending tail := by
  induction count, text using scan_induction with
  | nil count =>
      refine ⟨[], count, scan_nil count, nofun, fun _ => ?_⟩
      rw [written_nil, scan_replicate, Nat.zero_add]
      rfl
  | slash count text ih =>
      rw [written_slash, scan_slash]
      exact ih
  | tag count text body' rest' split ih =>
      obtain ⟨tokens, ending, scanned, last, again⟩ := ih
      refine ⟨.tag count body' :: tokens, ending, ?_, last_ne [] nofun last, fun dull => ?_⟩
      · rw [scan_tag split, scanned, List.cons_append]
      · rw [written_tag split, List.append_assoc, scan_replicate, List.cons_append,
          List.append_assoc, List.cons_append, scan_tag (split?_tag (split?_eq_some split).2 _),
          again dull, Nat.zero_add, List.map_cons, doubled, List.cons_append]
  | bracket count text split ih =>
      obtain ⟨tokens, ending, scanned, last, again⟩ := ih
      refine ⟨slashes count ++ .char '[' :: tokens, ending, ?_, last_ne _ (by decide) last,
        fun dull => ?_⟩
      · rw [scan_bracket split, scanned, List.append_assoc, List.cons_append]
      · rw [written_bracket split, List.append_assoc, scan_replicate, List.cons_append,
          scan_bracket (split?_written dull split), again dull, Nat.zero_add, List.map_append,
          map_doubled_slashes, List.map_cons, doubled, List.append_assoc, List.cons_append]
  | char count c text slash bracket ih =>
      obtain ⟨tokens, ending, scanned, last, again⟩ := ih
      refine ⟨slashes count ++ .char c :: tokens, ending, ?_,
        last_ne _ (fun same => slash (by injection same)) last, fun dull => ?_⟩
      · rw [scan_char slash bracket, scanned, List.append_assoc, List.cons_append]
      · rw [written_char slash bracket, List.append_assoc, scan_replicate, List.cons_append,
          scan_char slash bracket, again dull, Nat.zero_add, List.map_append,
          map_doubled_slashes, List.map_cons, doubled, List.append_assoc, List.cons_append]

/-- More backslashes, and either the end of the line or a tag. -/
theorem dull_seam (more : Nat) (seam : ∀ c ∈ tail.head?, c = '[') :
    Dull (List.replicate more '\\' ++ tail) where
  idle := by
    cases more with
    | succ more => exact not_begins_slash
    | zero =>
        cases tail with
        | nil => exact Bool.false_ne_true
        | cons c tail =>
            obtain rfl := seam c rfl
            exact not_begins_bracket
  unclosed := by
    rw [closes_append (inTag_replicate more)]
    cases tail with
    | nil => exact nofun
    | cons c tail =>
        obtain rfl := seam c rfl
        exact not_closes_bracket

/-- Characters that begin neither a tag nor stand in front of one are scanned as they are. -/
theorem scan_plain {front : List Char} (plain : ∀ c ∈ front, c ≠ '\\' ∧ c ≠ '[') :
    scan 0 (front ++ text) = front.map .char ++ scan 0 text := by
  induction front with
  | nil => rfl
  | cons c front ih =>
      obtain ⟨slash, bracket⟩ := plain c List.mem_cons_self
      rw [List.cons_append, scan_char slash bracket,
        ih fun d member => plain d (List.mem_cons_of_mem _ member)]
      rfl

end Token

/-! ### The end of an escaped text -/

section

variable {α : Type} [DecidableEq α] {a : α} {front : List α}

theorem rdropWhile_replicate (last : front.getLast? ≠ some a) (n : Nat) :
    (front ++ List.replicate n a).rdropWhile (· == a) = front := by
  induction n with
  | zero =>
      rw [List.replicate_zero, List.append_nil, List.rdropWhile_eq_self_iff]
      intro filled same
      exact last (by rw [List.getLast?_eq_some_getLast filled, beq_iff_eq.mp same])
  | succ n ih =>
      rw [List.replicate_succ', ← List.append_assoc,
        List.rdropWhile_concat_pos (· == a) _ _ (beq_self_eq_true a), ih]

theorem rtakeWhile_replicate (last : front.getLast? ≠ some a) (n : Nat) :
    (front ++ List.replicate n a).rtakeWhile (· == a) = List.replicate n a := by
  have whole := List.rdropWhile_append_rtakeWhile (p := (· == a)) (l := front ++ List.replicate n a)
  rw [rdropWhile_replicate last n] at whole
  exact List.append_cancel_left whole

end

/-- How many backslashes a text ends in. -/
def endSlashes (text : List Char) : Nat :=
  (text.rtakeWhile (· == '\\')).length

/-- The tokens of a text in front of the backslashes at its end. -/
def stem (text : List Char) : List Token :=
  (Token.ofText text).rdropWhile (· == .char '\\')

/-- How many backslashes an escaped text ends in: a single one is doubled. -/
def paired (slashes : Nat) : Nat :=
  if slashes = 1 then 2 else slashes

theorem endsInSlash_replicate {front : List Char} (last : front.getLast? ≠ some '\\') (n : Nat) :
    endsInSlash (front ++ List.replicate n '\\') = decide (n = 1) := by
  have turned : (front ++ List.replicate n '\\').reverse = List.replicate n '\\' ++ front.reverse := by
    rw [List.reverse_append, List.reverse_replicate]
  rw [← List.head?_reverse] at last
  rw [endsInSlash, turned]
  match n with
  | 0 | 1 =>
      cases back : front.reverse with
      | nil => rfl
      | cons c rest =>
          rw [back, List.head?_cons, Ne, Option.some_inj] at last
          simp [List.replicate, last]
  | n + 2 => simp [List.replicate]

/-- A text is escaped by escaping its tags; a single backslash at its end becomes two. -/
theorem escape_eq {text : List Char} {tokens : List Token} {ending : Nat}
    (scanned : Token.scan 0 text = tokens ++ Token.slashes ending)
    (last : tokens.getLast? ≠ some (.char '\\')) :
    ∃ more, ending + more = paired ending ∧
      escape text = Token.written 0 text ++ List.replicate more '\\' := by
  have written : Token.written 0 text =
      (tokens.map Token.doubled).flatMap Token.spelled ++ List.replicate ending '\\' := by
    rw [Token.written, scanned, List.flatMap_append, Token.flatMap_slashes rfl, Token.flatMap_escaped]
  have ends : endsInSlash (Token.written 0 text) = decide (ending = 1) := by
    rw [written, endsInSlash_replicate (Token.last_spelled (Token.last_doubled last))]
  rw [escape, paired]
  split
  · next single =>
      refine ⟨1, ?_, ?_⟩
      · rw [single]
      · exact if_pos (ends.trans (decide_eq_true single))
  · next other =>
      refine ⟨0, Nat.add_zero _, ?_⟩
      rw [List.replicate_zero, List.append_nil]
      exact if_neg fun single => other (of_decide_eq_true (ends.symm.trans single))

open Token in
/-- **The scan of a text that was escaped**, at the end of a line or in front of a tag. -/
theorem scan_escape (text : List Char) :
    ofText text = stem text ++ slashes (endSlashes text) ∧
      ∀ tail, (∀ c ∈ tail.head?, c = '[') →
        scan 0 (escape text ++ tail) =
          (stem text).map doubled ++ scan (paired (endSlashes text)) tail := by
  obtain ⟨tokens, ending, scanned, last, again⟩ := scan_written 0 text
  have stem_eq : stem text = tokens := by
    rw [stem, ofText, scanned, slashes, rdropWhile_replicate last]
  have spelling : text = tokens.flatMap spelled ++ List.replicate ending '\\' := by
    rw [← flatMap_slashes (f := spelled) rfl, ← List.flatMap_append, ← scanned, spelled_scan]
    rfl
  have ending_eq : endSlashes text = ending := by
    rw [endSlashes, spelling, rtakeWhile_replicate (last_spelled last), List.length_replicate]
  obtain ⟨more, paired_eq, escaped⟩ := escape_eq scanned last
  rw [stem_eq, ending_eq]
  refine ⟨scanned, fun tail seam => ?_⟩
  rw [escaped, List.append_assoc, again (dull_seam more seam), scan_replicate, paired_eq]

end Docwright.Console
