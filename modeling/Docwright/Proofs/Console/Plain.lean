import Docwright.Console.Screen
import Mathlib.Data.List.Infix
import Mathlib.Data.List.TakeWhile

/-!
# What becomes of a piece of text

A piece of text is written with three things done to it: a backslash in front of an
opening bracket is left out, known names between colons become pictures, and the
characters that would move the cursor are left out.  Nothing gets longer by it
(`length_plain_le`), and a piece is written as it is if and only if none of the three
has anything to do (`plain_eq_self_iff`).

Characters that none of them is about may stand in front of a piece
(`plain_append_inert`), and backslashes may stand behind it (`plain_append_slashes`).
-/

namespace Docwright.Console

variable {text front tail rest : List Char}

/-! ### Backslashes in front of brackets -/

namespace Piece

theorem unescaped_pair (rest : List Char) : unescaped ('\\' :: '[' :: rest) = '[' :: unescaped rest := by
  rw [unescaped]

theorem unescaped_cons {c : Char} (other : ¬ ['\\', '['] <+: c :: rest) :
    unescaped (c :: rest) = c :: unescaped rest := by
  refine unescaped.eq_2 c rest fun more slash bracket => other ?_
  rw [slash, bracket]
  exact ⟨more, rfl⟩

/-- Induction along the backslashes in front of brackets. -/
theorem unescaped_induction {motive : List Char → Prop} (nil : motive [])
    (pair : ∀ rest, motive rest → motive ('\\' :: '[' :: rest))
    (cons : ∀ c rest, ¬ ['\\', '['] <+: c :: rest → motive rest → motive (c :: rest))
    (text : List Char) : motive text := by
  refine unescaped.induct motive pair (fun c rest other => cons c rest ?_) nil text
  rintro ⟨more, same⟩
  obtain ⟨slash, behind⟩ := List.cons.inj same
  exact other more slash.symm behind.symm

theorem unescaped_sublist (text : List Char) : (unescaped text).Sublist text := by
  induction text using unescaped_induction with
  | nil => exact .slnil
  | pair rest ih =>
      rw [unescaped_pair]
      exact .cons _ (.cons_cons _ ih)
  | cons c rest other ih =>
      rw [unescaped_cons other]
      exact .cons_cons _ ih

theorem unescaped_eq_self_iff : unescaped text = text ↔ ¬ ['\\', '['] <:+: text := by
  induction text using unescaped_induction with
  | nil => exact iff_of_true rfl (by decide)
  | pair rest ih =>
      rw [unescaped_pair]
      refine iff_of_false (fun same => ?_) (not_not.mpr (List.prefix_append _ rest).isInfix)
      exact absurd (List.cons.inj same).1 (by decide)
  | cons c rest other ih =>
      rw [unescaped_cons other, List.infix_cons_iff, not_or, List.cons.injEq, ih]
      simp [other]

theorem unescaped_append_front (calm : ∀ c ∈ front, c ≠ '\\') :
    unescaped (front ++ text) = front ++ unescaped text := by
  induction front with
  | nil => rfl
  | cons c front ih =>
      have other : ¬ ['\\', '['] <+: c :: (front ++ text) := fun ⟨more, same⟩ =>
        calm c List.mem_cons_self (List.cons.inj same).1.symm
      rw [List.cons_append, unescaped_cons other, ih fun d member => calm d (List.mem_cons_of_mem c member),
        List.cons_append]

/-- Where no bracket begins what is behind a text, nothing is left out at the seam. -/
theorem unescaped_append_tail (seam : tail.head? ≠ some '[') :
    unescaped (text ++ tail) = unescaped text ++ unescaped tail := by
  induction text using unescaped_induction with
  | nil => rfl
  | pair rest ih => rw [List.cons_append, List.cons_append, unescaped_pair, unescaped_pair, ih, List.cons_append]
  | cons c rest other ih =>
      have other' : ¬ ['\\', '['] <+: c :: (rest ++ tail) := by
        rintro ⟨more, same⟩
        obtain ⟨slash, behind⟩ := List.cons.inj same
        cases rest with
        | nil => exact seam (by rw [← show _ = tail from behind]; rfl)
        | cons d rest =>
            obtain ⟨bracket, -⟩ := List.cons.inj behind
            exact other ⟨rest, by rw [← slash, ← bracket]; rfl⟩
      rw [List.cons_append, unescaped_cons other', unescaped_cons other, ih, List.cons_append]

end Piece

/-! ### Names of pictures -/

namespace Emoji

theorem replace_nil : replace [] = [] := by
  rw [replace]

theorem replace_pair {rest' : List Char} (closed : rest.dropWhile inName = ':' :: rest') :
    replace (':' :: rest) =
      (picture? (rest.takeWhile inName)).getD (':' :: rest.takeWhile inName ++ [':']) ++ replace rest' := by
  rw [replace]
  split
  · next found =>
      rw [closed] at found
      obtain rfl := (List.cons.inj found).2
      rfl
  · next other => exact absurd closed (other rest')

theorem replace_colon (open_ : (rest.dropWhile inName).head? ≠ some ':') :
    replace (':' :: rest) = ':' :: replace rest := by
  rw [replace]
  split
  · next found => exact absurd (by rw [found]; rfl) open_
  · rfl

theorem replace_char {c : Char} (other : c ≠ ':') : replace (c :: rest) = c :: replace rest :=
  replace.eq_3 c rest other

/-- Induction along the names between colons. -/
theorem replace_induction {motive : List Char → Prop} (nil : motive [])
    (pair : ∀ rest rest', rest.dropWhile inName = ':' :: rest' → motive rest' → motive (':' :: rest))
    (colon : ∀ rest, (rest.dropWhile inName).head? ≠ some ':' → motive rest → motive (':' :: rest))
    (char : ∀ c rest, c ≠ ':' → motive rest → motive (c :: rest)) (text : List Char) : motive text := by
  refine replace.induct motive nil pair (fun rest open_ => colon rest fun closed => ?_) char text
  obtain ⟨rest', found⟩ := List.head?_eq_some_iff.mp closed
  exact open_ rest' found

/-- A picture takes less room than its name between colons. -/
theorem length_picture_lt {body picture : List Char} (known : picture? body = some picture) :
    picture.length < body.length + 2 := by
  have nameless : picture? [] = none := by decide
  have some_ : body ≠ [] := by
    rintro rfl
    rw [nameless] at known
    cases known
  have short : (splitForm body).2.length ≤ 1 := by
    unfold splitForm
    split <;> simp
  rw [picture?, Option.map_eq_some_iff] at known
  obtain ⟨c, -, rfl⟩ := known
  have := List.length_pos_iff.mpr some_
  rw [List.length_cons]
  omega

theorem spell_pair {rest' : List Char} (closed : rest.dropWhile inName = ':' :: rest') :
    ':' :: rest = (':' :: rest.takeWhile inName ++ [':']) ++ rest' := by
  rw [List.append_assoc, List.singleton_append, ← closed, List.cons_append, List.takeWhile_append_dropWhile]

theorem length_replace_le (text : List Char) : (replace text).length ≤ text.length := by
  induction text using replace_induction with
  | nil => rw [replace_nil]
  | pair rest rest' closed ih =>
      rw [replace_pair closed, spell_pair closed, List.length_append, List.length_append]
      refine Nat.add_le_add ?_ ih
      cases known : picture? (rest.takeWhile inName) with
      | none => exact le_rfl
      | some picture => simpa using (length_picture_lt known).le
  | colon rest open_ ih =>
      rw [replace_colon open_]
      exact Nat.succ_le_succ ih
  | char c rest other ih =>
      rw [replace_char other]
      exact Nat.succ_le_succ ih

/-- A known name stands between two colons in a text. -/
def Pictured (text : List Char) : Prop :=
  ∃ front body back, text = front ++ ':' :: body ++ ':' :: back ∧ picture? body ≠ none

theorem Pictured.append_left (front : List Char) (pictured : Pictured text) : Pictured (front ++ text) := by
  obtain ⟨before, body, back, rfl, known⟩ := pictured
  exact ⟨front ++ before, body, back, by simp, known⟩

/-- A text without known names stays as it is. -/
theorem replace_eq_self (calm : ¬ Pictured text) : replace text = text := by
  induction text using replace_induction with
  | nil => exact replace_nil
  | pair rest rest' closed ih =>
      have behind : ¬ Pictured rest' := fun pictured =>
        calm (spell_pair closed ▸ pictured.append_left _)
      have unknown : picture? (rest.takeWhile inName) = none := by
        by_contra known
        refine calm ⟨[], rest.takeWhile inName, rest', ?_, known⟩
        rw [spell_pair closed]
        simp
      rw [replace_pair closed, unknown, ih behind]
      exact (spell_pair closed).symm
  | colon rest open_ ih =>
      rw [replace_colon open_, ih fun pictured => calm (pictured.append_left [':'])]
  | char c rest other ih =>
      rw [replace_char other, ih fun pictured => calm (pictured.append_left [c])]

/-- Pictures are no characters of ASCII. -/
theorem picture_beyond {body picture : List Char} (known_ : picture? body = some picture) :
    ∀ c ∈ picture, 128 ≤ c.toNat := by
  have pictures : ∀ entry ∈ known, 128 ≤ entry.2.toNat := by decide
  have marks : ∀ entry ∈ forms, 128 ≤ entry.2.toNat := by decide
  have mark : ∀ c ∈ (splitForm body).2, 128 ≤ c.toNat := by
    rw [splitForm]
    generalize found : forms.find? _ = entry?
    cases entry? with
    | none => exact List.forall_mem_nil _
    | some entry =>
        rintro c (- | ⟨_, ⟨⟩⟩)
        exact marks entry (List.mem_of_find?_eq_some found)
  rw [picture?, Option.map_eq_some_iff] at known_
  obtain ⟨c, found, rfl⟩ := known_
  obtain ⟨before, after, split, -⟩ := List.lookup_eq_some_iff.mp found
  have listed : ((splitForm body).1.map Char.toLower, c) ∈ known := by
    rw [split]
    exact List.mem_append_right before List.mem_cons_self
  exact List.forall_mem_cons.mpr ⟨pictures _ listed, mark⟩

/-- A text gets no characters but pictures. -/
theorem mem_replace {c : Char} (member : c ∈ replace text) : c ∈ text ∨ 128 ≤ c.toNat := by
  induction text using replace_induction with
  | nil => exact .inl (replace_nil ▸ member)
  | pair rest rest' closed ih =>
      rw [spell_pair closed, List.mem_append]
      rw [replace_pair closed, List.mem_append] at member
      rcases member with here | behind
      · cases known : picture? (rest.takeWhile inName) with
        | none =>
            rw [known] at here
            exact .inl (.inl here)
        | some picture =>
            rw [known] at here
            exact .inr (picture_beyond known c here)
      · exact (ih behind).imp .inr id
  | colon rest open_ ih =>
      rw [replace_colon open_] at member
      rcases List.mem_cons.mp member with rfl | behind
      · exact .inl List.mem_cons_self
      · exact (ih behind).imp (List.mem_cons_of_mem _) id
  | char d rest other ih =>
      rw [replace_char other] at member
      rcases List.mem_cons.mp member with rfl | behind
      · exact .inl List.mem_cons_self
      · exact (ih behind).imp (List.mem_cons_of_mem _) id

theorem replace_append_front (calm : ∀ c ∈ front, c ≠ ':') :
    replace (front ++ text) = front ++ replace text := by
  induction front with
  | nil => rfl
  | cons c front ih =>
      rw [List.cons_append, replace_char (calm c List.mem_cons_self),
        ih fun d member => calm d (List.mem_cons_of_mem c member), List.cons_append]

/-- What is behind a text, and holds no colon, ends no name in it. -/
theorem replace_append_tail (calm : ∀ c ∈ tail, c ≠ ':') : replace (text ++ tail) = replace text ++ tail := by
  induction text using replace_induction with
  | nil =>
      have alone : replace (tail ++ []) = tail ++ replace [] := replace_append_front calm
      rw [replace_nil, List.append_nil] at alone
      rw [List.nil_append, alone, replace_nil, List.nil_append]
  | pair rest rest' closed ih =>
      have whole : rest = rest.takeWhile inName ++ ':' :: rest' := by
        rw [← closed, List.takeWhile_append_dropWhile]
      have within : ∀ c ∈ rest.takeWhile inName, inName c = true := fun c => List.mem_takeWhile_imp
      have stop : inName ':' = false := rfl
      have split : rest ++ tail = rest.takeWhile inName ++ ':' :: (rest' ++ tail) := by
        rw [← List.cons_append, ← List.append_assoc, ← whole]
      have closed' : (rest ++ tail).dropWhile inName = ':' :: (rest' ++ tail) := by
        rw [split, List.dropWhile_append_of_pos within, List.dropWhile_cons_of_neg (by rw [stop]; decide)]
      have body : (rest ++ tail).takeWhile inName = rest.takeWhile inName := by
        rw [split, List.takeWhile_append_of_pos within, List.takeWhile_cons_of_neg (by rw [stop]; decide),
          List.append_nil]
      rw [List.cons_append, replace_pair closed', replace_pair closed, body, ih, List.append_assoc]
  | colon rest open_ ih =>
      -- a name that the text leaves open could only be closed by a colon of the tail
      have open' : ((rest ++ tail).dropWhile inName).head? ≠ some ':' := by
        rw [List.dropWhile_append]
        split
        · intro same
          have member := List.mem_of_head? same
          exact calm ':' ((List.dropWhile_suffix inName).subset member) rfl
        · next some_ =>
            rwa [List.head?_append_of_ne_nil _ fun none_ => some_ (by rw [none_]; rfl)]
      rw [List.cons_append, replace_colon open', replace_colon open_, ih, List.cons_append]
  | char c rest other ih => rw [List.cons_append, replace_char other, replace_char other, ih, List.cons_append]

end Emoji

/-! ### All three -/

/-- A character that is written as it is, whatever is behind it. -/
def Inert (c : Char) : Prop :=
  c ≠ '\\' ∧ c ≠ ':' ∧ isMoving c = false

instance (c : Char) : Decidable (Inert c) :=
  inferInstanceAs (Decidable (_ ∧ _ ∧ _))

theorem plain_nil : plain [] = [] := by
  rw [plain, Piece.unescaped, Emoji.replace_nil, List.filter_nil]

theorem plain_append_inert (inert : ∀ c ∈ front, Inert c) : plain (front ++ text) = front ++ plain text := by
  have still : front.filter (!isMoving ·) = front :=
    List.filter_eq_self.mpr fun c member => by simp [(inert c member).2.2]
  rw [plain, Piece.unescaped_append_front fun c member => (inert c member).1,
    Emoji.replace_append_front fun c member => (inert c member).2.1, List.filter_append, still, plain]

theorem plain_of_inert (inert : ∀ c ∈ front, Inert c) : plain front = front := by
  have whole : plain (front ++ []) = front ++ plain [] := plain_append_inert inert
  rwa [plain_nil, List.append_nil] at whole

theorem plain_append_slashes (text : List Char) (n : Nat) :
    plain (text ++ List.replicate n '\\') = plain text ++ List.replicate n '\\' := by
  have seam : (List.replicate n '\\').head? ≠ some '[' := fun same =>
    absurd (List.eq_of_mem_replicate (List.mem_of_head? same)) (by decide)
  have alone : Piece.unescaped (List.replicate n '\\') = List.replicate n '\\' := by
    rw [Piece.unescaped_eq_self_iff]
    intro inside
    exact absurd (List.eq_of_mem_replicate (inside.subset (.tail _ (.head _)))) (by decide)
  have calm : ∀ c ∈ List.replicate n '\\', c ≠ ':' := fun c member =>
    List.eq_of_mem_replicate member ▸ by decide
  have still : (List.replicate n '\\').filter (!isMoving ·) = List.replicate n '\\' :=
    List.filter_eq_self.mpr fun c member => List.eq_of_mem_replicate member ▸ rfl
  rw [plain, Piece.unescaped_append_tail seam, alone, Emoji.replace_append_tail calm, List.filter_append,
    still, plain]

theorem mem_plain {c : Char} (member : c ∈ plain text) : c ∈ text ∨ 128 ≤ c.toNat :=
  (Emoji.mem_replace (List.mem_of_mem_filter member)).imp
    (fun inside => (Piece.unescaped_sublist text).subset inside) id

theorem length_plain_le (text : List Char) : (plain text).length ≤ text.length :=
  (List.length_filter_le _ _).trans
    ((Emoji.length_replace_le _).trans (Piece.unescaped_sublist _).length_le)

/-- **Which pieces are written as they are.** -/
theorem plain_eq_self_iff :
    plain text = text ↔
      ¬ ['\\', '['] <:+: text ∧ Emoji.replace text = text ∧ ∀ c ∈ text, isMoving c = false := by
  constructor
  · intro same
    -- Each step leaves the length as it is, since all three together do.
    have filtered := List.length_filter_le (!isMoving ·) (Emoji.replace (Piece.unescaped text))
    have replaced := Emoji.length_replace_le (Piece.unescaped text)
    have shorter := (Piece.unescaped_sublist text).length_le
    have whole : (plain text).length = text.length := congrArg List.length same
    rw [plain] at whole
    have unescaped : Piece.unescaped text = text :=
      (Piece.unescaped_sublist text).eq_of_length (by omega)
    rw [unescaped] at filtered replaced whole
    have kept : (Emoji.replace text).filter (!isMoving ·) = Emoji.replace text :=
      List.filter_sublist.eq_of_length (by omega)
    rw [plain, unescaped, kept] at same
    refine ⟨Piece.unescaped_eq_self_iff.mp unescaped, same, fun c member => ?_⟩
    have still := List.filter_eq_self.mp kept c (same.symm ▸ member)
    simpa using still
  · rintro ⟨brackets, pictures, still⟩
    rw [plain, Piece.unescaped_eq_self_iff.mpr brackets, pictures, List.filter_eq_self]
    exact fun c member => by simp [still c member]

end Docwright.Console
