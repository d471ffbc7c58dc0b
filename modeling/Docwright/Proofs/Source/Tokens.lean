import Docwright.Source.Lexer

/-!
# The rows of tokens

Reading never goes back a row, so the rows of tokens ascend, and what is behind a newline
is below it (`ascending_run`).  Three kinds of token say where a line begins or the text
ends and have no place of their own; these are left out (`Token.Placed`): the last of them
may be given a row above the place at which they were made.

The lemmas follow the reader: what it drops between tokens, what it reads one token from,
and then the two functions that call each other, for which one statement is carried
through the induction (`Ascending`).
-/

namespace Docwright.Source

/-- A token that stands at a place of the text. -/
def Token.Placed (t : Token) : Prop :=
  t.kind ≠ .indent ∧ t.kind ≠ .dedent ∧ t.kind ≠ .finish

/-- Of two tokens with a place the one is not below the other, and above it if it ends its line. -/
def Token.Leads (a b : Token) : Prop :=
  a.Placed → b.Placed → a.row ≤ b.row ∧ (a.kind = .newline → a.row < b.row)

/-- The tokens begin at a row or below it, and none goes back. -/
structure Ascending (row : Nat) (tokens : List Token) : Prop where
  below : ∀ t ∈ tokens, t.Placed → row ≤ t.row
  pairwise : tokens.Pairwise Token.Leads

namespace Ascending

variable {row row' : Nat} {tokens : List Token} {t : Token}

theorem nil : Ascending row [] := ⟨nofun, .nil⟩

theorem mono (le : row ≤ row') (ascending : Ascending row' tokens) : Ascending row tokens :=
  ⟨fun t member placed => Nat.le_trans le (ascending.below t member placed), ascending.pairwise⟩

/-- A token that does not end its line may be followed in its row. -/
theorem cons (inner : t.kind ≠ .newline) (here : t.row = row) (ascending : Ascending row tokens) :
    Ascending row (t :: tokens) where
  below := by
    rintro u (_ | ⟨_, member⟩) placed
    · exact Nat.le_of_eq here.symm
    · exact ascending.below u member placed
  pairwise := List.pairwise_cons.mpr ⟨fun u member _ placed =>
    ⟨here ▸ ascending.below u member placed, fun ends => absurd ends inner⟩, ascending.pairwise⟩

/-- A newline is followed further down. -/
theorem newline (ascending : Ascending (row + 1) tokens) :
    Ascending row (⟨.newline, "", row, 0⟩ :: tokens) where
  below := by
    rintro u (_ | ⟨_, member⟩) placed
    · exact Nat.le_refl row
    · exact Nat.le_of_succ_le (ascending.below u member placed)
  pairwise := List.pairwise_cons.mpr ⟨fun u member _ placed =>
    ⟨Nat.le_of_succ_le (ascending.below u member placed),
      fun _ => ascending.below u member placed⟩, ascending.pairwise⟩

/-- Tokens without a place may stand anywhere. -/
theorem append {before : List Token} (unplaced : ∀ t ∈ before, ¬ t.Placed)
    (ascending : Ascending row tokens) : Ascending row (before ++ tokens) where
  below u member placed := by
    rcases List.mem_append.mp member with old | new
    · exact absurd placed (unplaced u old)
    · exact ascending.below u new placed
  pairwise := by
    refine List.pairwise_append.mpr ⟨?_, ascending.pairwise, fun u member _ _ placed =>
      absurd placed (unplaced u member)⟩
    exact List.pairwise_iff_forall_sublist.mpr fun {a b} within placed =>
      absurd placed (unplaced a (within.subset List.mem_cons_self))

theorem finish {last : Nat} : Ascending row [⟨.finish, "", last, 0⟩] :=
  append (fun _ member placed => placed.2.2 (List.mem_singleton.mp member ▸ rfl)) nil

end Ascending

namespace Lexer

/-! ### Between tokens -/

theorem row_continuation {brackets : List (Char × Nat)} {row : Nat} {text : List Char} {c : Cursor}
    (read : continuation brackets row text = .ok c) : c.row = row + 1 := by
  unfold continuation at read
  split at read
  · cases read
  · obtain rfl := Except.ok.inj read
    rfl
  · cases read

/-- A reader that goes on behind a backslash goes on further down. -/
theorem row_behind {α : Type} {brackets : List (Char × Nat)} {row : Nat} {text : List Char}
    {further : Cursor → Except Halt α} {a : α}
    (read : (continuation brackets row text >>= further) = .ok a) :
    ∃ c, row ≤ c.row ∧ further c = .ok a := by
  cases continued : continuation brackets row text with
  | error halt =>
      rw [continued] at read
      cases read
  | ok c =>
      rw [continued] at read
      exact ⟨c, by rw [row_continuation continued]; exact Nat.le_succ row, read⟩

theorem row_margin {brackets : List (Char × Nat)} {fuel : Nat} {m m' : Margin} {c c' : Cursor}
    (read : margin brackets fuel m c = .ok (m', c')) : c.row ≤ c'.row := by
  fun_induction margin brackets fuel m c with
  | case1 m c =>
      obtain ⟨-, rfl⟩ := Prod.mk.inj (Except.ok.inj read)
      exact Nat.le_refl _
  | case2 _ _ _ _ ih | case3 _ _ _ _ ih | case4 _ _ _ _ ih => exact ih read
  | case5 fuel m rest row ih =>
      obtain ⟨c, le, read⟩ := row_behind read
      exact Nat.le_trans le (ih c read)
  | case6 fuel m c =>
      obtain ⟨-, rfl⟩ := Prod.mk.inj (Except.ok.inj read)
      exact Nat.le_refl _

theorem row_gap {brackets : List (Char × Nat)} {fuel : Nat} {c c' : Cursor}
    (read : gap brackets fuel c = .ok c') : c.row ≤ c'.row := by
  induction fuel generalizing c with
  | zero =>
      obtain rfl := Except.ok.inj read
      exact Nat.le_refl _
  | succ fuel ih =>
      obtain ⟨_ | ⟨first, rest⟩, row⟩ := c
      · obtain rfl := Except.ok.inj read
        exact Nat.le_refl row
      · rw [gap] at read
        split at read
        · exact ih (c := ⟨rest, row⟩) read
        · split at read
          · obtain rfl := Except.ok.inj read
            exact Nat.le_refl row
          · split at read
            · obtain ⟨c, le, read⟩ := row_behind read
              exact Nat.le_trans le (ih read)
            · obtain rfl := Except.ok.inj read
              exact Nat.le_refl row

/-- The tokens of an indentation have no place. -/
theorem unplaced_indentation {m : Margin} {levels levels' : List (Nat × Nat)} {row : Nat}
    {tokens : List Token} (read : indentation m levels row = .ok (tokens, levels')) :
    ∀ t ∈ tokens, ¬ t.Placed := by
  unfold indentation at read
  dsimp only at read
  generalize (if m.continued = 0 then m.columns else m.continued) = columns at read
  generalize (if m.continued = 0 then m.narrow else m.continued) = narrow at read
  intro t member placed
  split at read
  · split at read
    · obtain ⟨rfl, -⟩ := Prod.mk.inj (Except.ok.inj read)
      cases member
    · cases read
  · split at read
    · split at read
      · cases read
      · split at read
        · cases read
        · obtain ⟨rfl, -⟩ := Prod.mk.inj (Except.ok.inj read)
          obtain rfl := List.mem_singleton.mp member
          exact placed.1 rfl
    · split at read
      · cases read
      · split at read
        · cases read
        · obtain ⟨rfl, -⟩ := Prod.mk.inj (Except.ok.inj read)
          obtain ⟨-, rfl⟩ := List.mem_replicate.mp member
          exact placed.2.1 rfl

/-! ### One token -/

/-- A step reads one token, which begins in the row and ends no line, or none. -/
def Step.Begins (row : Nat) : Step → Prop
  | .next tokens s => ∃ t, tokens = [t] ∧ t.kind ≠ .newline ∧ t.row = row ∧ row ≤ s.cursor.row
  | .finish tokens | .halt tokens _ => tokens = []

theorem begins_quoted (s : State) (text body : List Char) :
    (quoted s text body).Begins s.cursor.row := by
  have found (rest : List Char) :
      Step.Begins s.cursor.row (.next
        [⟨.text, String.ofList (before text rest), s.cursor.row, s.brackets.length⟩]
        { s with cursor := ⟨rest, s.cursor.row + newlines (before text rest)⟩ }) :=
    ⟨_, rfl, nofun, rfl, Nat.le_add_right _ _⟩
  unfold quoted
  dsimp only
  repeat' split
  all_goals first | exact found _ | rfl

theorem begins_mark (s : State) (c : Char) (rest : List Char) :
    (mark s c rest).Begins s.cursor.row := by
  have went (brackets : List (Char × Nat)) :
      Step.Begins s.cursor.row (.next [⟨.mark, String.singleton c, s.cursor.row, brackets.length⟩]
        { s with cursor := ⟨rest, s.cursor.row⟩, brackets := brackets }) :=
    ⟨_, rfl, nofun, rfl, Nat.le_refl _⟩
  unfold mark
  dsimp only
  repeat' split
  all_goals first | exact went _ | rfl

theorem begins_name (s : State) (text : List Char) : (name s text).Begins s.cursor.row := by
  unfold name
  dsimp only
  split
  · rfl
  · refine ⟨_, rfl, ?_, rfl, Nat.le_refl _⟩
    dsimp only
    split <;> nofun

theorem begins_number (s : State) (text : List Char) : (number s text).Begins s.cursor.row := by
  unfold number
  dsimp only
  split
  · rfl
  · exact ⟨_, rfl, nofun, rfl, Nat.le_refl _⟩

theorem begins_token (s : State) (text : List Char) : (token s text).Begins s.cursor.row := by
  unfold token
  split
  · rfl
  · split
    · split
      · exact begins_quoted ..
      · exact begins_name ..
    · split
      · exact begins_quoted ..
      · split
        · exact begins_number ..
        · split
          · exact ⟨_, rfl, nofun, rfl, Nat.le_refl _⟩
          · exact begins_mark ..

/-! ### The text -/

/-- Reading on gives tokens that ascend from the row of the cursor. -/
theorem ascending_from (fuel : Nat) (cursor : Cursor) (levels : List (Nat × Nat))
    (brackets : List (Char × Nat)) :
    Ascending cursor.row (line fuel ⟨cursor, levels, brackets⟩).1 ∧
      Ascending cursor.row (within fuel ⟨cursor, levels, brackets⟩).1 := by
  induction fuel generalizing cursor levels brackets with
  | zero => exact ⟨.nil, .nil⟩
  | succ fuel ih =>
      refine ⟨?_, ?_⟩
      · unfold line
        split
        · exact .nil
        · next m cursor' read =>
            refine .mono (row_margin read) ?_
            dsimp only
            split
            -- a line without a token
            iterate 2
              split
              · exact .mono (Nat.le_succ _) (ih ⟨_, cursor'.row + 1⟩ levels brackets).1
              · exact .nil
            · split
              · split
                · exact .nil
                · next tokens inner indented =>
                    exact .append (unplaced_indentation indented) (ih cursor' inner brackets).2
              · exact (ih cursor' levels brackets).2
      · unfold within
        split
        · exact .nil
        · next cursor' read =>
            refine .mono (row_gap read) ?_
            dsimp only
            split
            · split
              · exact .finish
              · exact .nil
            · next rest _ =>
                have further := (ih ⟨rest, cursor'.row + 1⟩ levels brackets).1
                split
                · exact .newline further
                · exact .mono (Nat.le_succ _) further
            · have one := begins_token ⟨cursor', levels, brackets⟩ cursor'.rest
              split
              · next tokens s step =>
                  rw [step] at one
                  obtain ⟨t, rfl, inner, here, le⟩ := one
                  exact .cons inner here (.mono le (ih s.cursor s.levels s.brackets).2)
              · next tokens step =>
                  rw [step] at one
                  obtain rfl := one
                  exact .nil
              · next tokens halt step =>
                  rw [step] at one
                  obtain rfl := one
                  exact .nil

/-- **The rows of the tokens of a text ascend**, and what is behind a newline is below it. -/
theorem ascending_run (row : Nat) (text : List Char) : Ascending row (run row text).1 :=
  (ascending_from _ ⟨lines text, row⟩ [] []).1

end Lexer

end Docwright.Source
