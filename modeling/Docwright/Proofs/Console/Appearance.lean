import Docwright.Console.Line
import Docwright.Proofs.Console.Escaping
import Docwright.Proofs.Console.Plain
import Mathlib.Algebra.Ring.Parity

/-!
# What a line shows of a text

A text that was escaped comes back in fragments: the characters between its tags, and
for each tag the backslashes in front of it and the tag itself (`fragments`).  Put
together, and with the backslashes at the end, they are the text again
(`flatten_fragments`).  What a line shows of the text is what becomes of each of them
(`appearance`), in one run that has one style (`runs_styled`, `runs_unstyled`).

At the end of the text the line shows something else.  `escape` has doubled a single
backslash, and where a style ends behind the text, its tag takes the backslashes for its
own: half of them are left, and if their number is odd the tag is text.
-/

namespace Docwright.Console

variable {text front : List Char}

/-! ### Fragments -/

namespace Token

/-- The pieces of text that tokens make if none of them is a tag that counts.  The characters read so far
are `collected`, the last one first. -/
def fragments (collected : List Char) : List Token → List (List Char)
  | [] => [collected.reverse]
  | char c :: rest => fragments (c :: collected) rest
  | tag slashes body :: rest =>
    collected.reverse :: List.replicate slashes '\\' :: bracketed body :: fragments [] rest

theorem flatten_fragments (collected : List Char) (tokens : List Token) :
    (fragments collected tokens).flatten = collected.reverse ++ tokens.flatMap spelled := by
  induction tokens generalizing collected with
  | nil => simp [fragments]
  | cons t tokens ih =>
      cases t with
      | char c => simp [fragments, ih, spelled]
      | tag slashes body => simp [fragments, ih, spelled]

/-- Characters in front of tokens. -/
theorem fragments_front (collected front : List Char) (tokens : List Token) :
    fragments collected (front.map char ++ tokens) = fragments (front.reverse ++ collected) tokens := by
  induction front generalizing collected with
  | nil => rfl
  | cons c front ih =>
      rw [List.map_cons, List.cons_append, fragments, ih, List.reverse_cons, List.append_assoc,
        List.singleton_append]

/-- Inert characters that were read first are shown first. -/
theorem plain_fragments_front (inert : ∀ c ∈ front, Inert c) (collected : List Char) (tokens : List Token) :
    (fragments (collected ++ front.reverse) tokens).flatMap plain =
      front ++ (fragments collected tokens).flatMap plain := by
  have first : plain (collected ++ front.reverse).reverse = front ++ plain collected.reverse := by
    rw [List.reverse_append, List.reverse_reverse, plain_append_inert inert]
  induction tokens generalizing collected with
  | nil => simp only [fragments, List.flatMap_singleton, first]
  | cons t tokens ih =>
      cases t with
      | char c =>
          refine ih (c :: collected) ?_
          rw [List.reverse_append, List.reverse_reverse, plain_append_inert inert]
      | tag slashes body => simp only [fragments, List.flatMap_cons, first, List.append_assoc]

/-- Backslashes that were read last are shown last. -/
theorem plain_fragments_slashes (n : Nat) (collected : List Char) (tokens : List Token) :
    (fragments collected (tokens ++ slashes n)).flatMap plain =
      (fragments collected tokens).flatMap plain ++ List.replicate n '\\' := by
  induction tokens generalizing collected with
  | nil =>
      have more := fragments_front collected (List.replicate n '\\') []
      rw [List.append_nil, List.map_replicate] at more
      rw [List.nil_append, slashes, more]
      simp only [fragments, List.flatMap_singleton, List.reverse_append, List.reverse_replicate,
        plain_append_slashes]
  | cons t tokens ih =>
      cases t with
      | char c => exact ih (c :: collected)
      | tag slashes' body => simp only [List.cons_append, fragments, List.flatMap_cons, ih, List.append_assoc]

end Token

/-- The fragments of a text, without the backslashes at its end. -/
def fragments (text : List Char) : List (List Char) :=
  Token.fragments [] (stem text)

/-- **The fragments and the backslashes at the end are the text.** -/
theorem flatten_fragments (text : List Char) :
    (fragments text).flatten ++ List.replicate (endSlashes text) '\\' = text := by
  have spelling := Token.spelled_scan 0 text
  have scanned : Token.scan 0 text = _ := (scan_escape text).1
  rw [scanned, List.flatMap_append, Token.flatMap_slashes rfl] at spelling
  rw [fragments, Token.flatten_fragments]
  exact spelling

/-! ### From tokens to pieces -/

namespace Piece

/-- Pieces of text, without the empty ones. -/
def texts (parts : List (List Char)) : List Piece :=
  (parts.filter (!·.isEmpty)).map .text

theorem flush_eq (collected : List Char) : flush collected = texts [collected.reverse] := by
  cases collected <;> simp [flush, texts]

theorem ofTag_odd (position slashes : Nat) (body : List Char) :
    ofTag position (2 * slashes + 1) body = texts [List.replicate slashes '\\', Token.bracketed body] := by
  have half : (2 * slashes + 1) / 2 = slashes := by omega
  have odd : (2 * slashes + 1) % 2 = 1 := by omega
  rw [ofTag, half, if_pos odd]
  cases slashes <;> rfl

theorem ofTag_even (position slashes : Nat) (body : List Char) :
    ofTag position (2 * slashes) ('/' :: body) =
      texts [List.replicate slashes '\\'] ++ [closing ('/' :: body) (position + 2 * slashes)] := by
  have half : 2 * slashes / 2 = slashes := by omega
  have even : 2 * slashes % 2 ≠ 1 := by omega
  rw [ofTag, half, if_neg even, List.head?_cons, if_pos rfl]
  cases slashes <;> rfl

theorem texts_append (parts others : List (List Char)) : texts (parts ++ others) = texts parts ++ texts others := by
  rw [texts, List.filter_append, List.map_append, texts, texts]

/-- Tokens of an escaped text make text, and nothing else, up to the next tag. -/
theorem ofTokens_doubled (position : Nat) (collected : List Char) (tokens rest : List Token)
    (seam : ∀ t ∈ rest.head?, ∃ slashes body, t = .tag slashes body) :
    ∃ position', ofTokens position collected (tokens.map Token.doubled ++ rest) =
      texts (Token.fragments collected tokens) ++ ofTokens position' [] rest := by
  induction tokens generalizing position collected with
  | nil =>
      refine ⟨position, ?_⟩
      rw [List.map_nil, List.nil_append, Token.fragments, ← flush_eq]
      cases rest with
      | nil => rw [ofTokens, ofTokens, flush, flush]; simp
      | cons t rest =>
          obtain ⟨slashes, body, rfl⟩ := seam t rfl
          rw [ofTokens, ofTokens, List.append_assoc]
          rfl
  | cons t tokens ih =>
      cases t with
      | char c => exact ih (position + 1) (c :: collected)
      | tag slashes body =>
          obtain ⟨position', others⟩ := ih (position + (2 * slashes + 1) + body.length + 2) []
          refine ⟨position', ?_⟩
          rw [List.map_cons, Token.doubled, List.cons_append, ofTokens, flush_eq, ofTag_odd, others,
            ← texts_append, ← List.append_assoc, ← texts_append]
          rfl

end Piece

/-- A line without brackets is scanned into its characters. -/
theorem Token.scan_of_not_mem {line : List Char} (count : Nat) (none_ : '[' ∉ line) :
    scan count line = (List.replicate count '\\' ++ line).map char := by
  induction line generalizing count with
  | nil => rw [scan_nil, List.append_nil, List.map_replicate, slashes]
  | cons c line ih =>
      obtain ⟨other, behind⟩ := not_or.mp (List.mem_cons.not.mp none_)
      by_cases slash : c = '\\'
      · subst slash
        rw [scan_slash, ih _ behind, List.replicate_succ', List.append_assoc, List.singleton_append]
      · rw [scan_char slash (Ne.symm other), ih _ behind, slashes]
        simp

/-- The pieces of a line come from its tokens, brackets or not. -/
theorem pieces_eq {line : List Char} (filled : line ≠ []) :
    pieces line = Piece.ofTokens 0 [] (Token.ofText line) := by
  rw [pieces]
  split
  · rfl
  · next none_ =>
      have chars : Token.ofText line = line.map .char ++ [] := by
        rw [Token.ofText, Token.scan_of_not_mem 0 (by simpa using none_), List.append_nil]
        rfl
      have doubled : line.map Token.char = (line.map Token.char).map Token.doubled := by
        rw [List.map_map]
        rfl
      obtain ⟨position, pieces⟩ := Piece.ofTokens_doubled 0 [] (line.map .char) [] (by simp)
      rw [chars, doubled, pieces, ← List.append_nil (line.map _), Token.fragments_front]
      simp [Token.fragments, Piece.ofTokens, Piece.flush, Piece.texts, filled]

/-! ### What a line shows -/

/-- What is shown for the backslashes at the end of a text that is in a style.  Half of them are left, and
if their number is odd, the tag behind them is text. -/
def leftover (name : List Char) (slashes : Nat) : List (List Char) :=
  List.replicate (slashes / 2) '\\' :: if slashes % 2 = 1 then [Token.bracketed ('/' :: name)] else []

/-- What is shown for the backslashes at the end of a text, in the style of the given name. -/
def shownEnd (name? : Option (List Char)) (slashes : Nat) : List Char :=
  match name? with
  | none => List.replicate (paired slashes) '\\'
  | some name => (leftover name (paired slashes)).flatten

/-- **What a line shows of a text**, in the style of the given name. -/
def appearance (name? : Option (List Char)) (text : List Char) : List Char :=
  (fragments text).flatMap plain ++ shownEnd name? (endSlashes text)

/-- Whether the style of a text ends behind it. -/
def Closed (text : List Char) : Prop :=
  paired (endSlashes text) % 2 = 0

instance (text : List Char) : Decidable (Closed text) :=
  inferInstanceAs (Decidable (_ = _))

/-- What stands in front of a text in a line. -/
structure Heads (front : List Char) : Prop where
  filled : front ≠ []
  inert : ∀ c ∈ front, Inert c
  bare : ∀ c ∈ front, c ≠ '['
  visible : ∀ c ∈ front, 32 ≤ c.toNat

/-- A name that tags begin and end a style by. -/
structure Names (name : List Char) (style : Style) : Prop where
  begins : Token.IsTag name
  ends : Token.IsTag ('/' :: name)
  opening : ∀ position, Piece.ofTag position 0 name = [.opening style]
  closing : close? ('/' :: name) [style] = some []
  shown : Style.shown [style] = some style
  inert : ∀ c ∈ Token.bracketed ('/' :: name), Inert c
  visible : ∀ c ∈ Token.bracketed ('/' :: name), 32 ≤ c.toNat

/-- Whether characters are shown as they are, wherever they stand, can be found out one by one. -/
theorem shown_of_all {part : List Char}
    (all : (part.all fun c => decide (Inert c) && decide (32 ≤ c.toNat)) = true) :
    (∀ c ∈ part, Inert c) ∧ ∀ c ∈ part, 32 ≤ c.toNat := by
  simp only [List.all_eq_true, Bool.and_eq_true, decide_eq_true_eq] at all
  exact ⟨fun c member => (all c member).1, fun c member => (all c member).2⟩

theorem names_info : Names "info".toList .info :=
  ⟨⟨rfl, List.all_eq_true.mp rfl⟩, ⟨rfl, List.all_eq_true.mp rfl⟩, fun _ => rfl, by decide +kernel, rfl,
    (shown_of_all rfl).1, (shown_of_all rfl).2⟩

theorem names_comment : Names "comment".toList .comment :=
  ⟨⟨rfl, List.all_eq_true.mp rfl⟩, ⟨rfl, List.all_eq_true.mp rfl⟩, fun _ => rfl, by decide +kernel, rfl,
    (shown_of_all rfl).1, (shown_of_all rfl).2⟩

theorem names_error : Names "error".toList .error :=
  ⟨⟨rfl, List.all_eq_true.mp rfl⟩, ⟨rfl, List.all_eq_true.mp rfl⟩, fun _ => rfl, by decide +kernel, rfl,
    (shown_of_all rfl).1, (shown_of_all rfl).2⟩

theorem scan_heads (heads : Heads front) (text : List Char) :
    Token.scan 0 (front ++ text) = (front.map .char).map Token.doubled ++ Token.scan 0 text := by
  rw [Token.scan_plain fun c member => ⟨(heads.inert c member).1, heads.bare c member⟩, List.map_map]
  rfl

section

variable {name : List Char} {style : Style}

/-- **The pieces of a text without a style** are text. -/
theorem pieces_unstyled (heads : Heads front) (text : List Char) :
    ∃ parts, pieces (front ++ escape text) = Piece.texts parts ∧
      parts.flatMap plain = front ++ appearance none text := by
  have tokens : Token.ofText (front ++ escape text) =
      (front.map Token.char ++ (stem text ++ Token.slashes (paired (endSlashes text)))).map
        Token.doubled ++ [] := by
    rw [Token.ofText, scan_heads heads, ← List.append_nil (escape text), (scan_escape text).2 [] (by simp),
      Token.scan_nil, List.map_append, List.map_append, Token.map_doubled_slashes, List.append_nil]
  have filled : front ++ escape text ≠ [] := fun none_ => heads.filled (List.append_eq_nil_iff.mp none_).1
  obtain ⟨position, made⟩ := Piece.ofTokens_doubled 0 []
    (front.map .char ++ (stem text ++ Token.slashes (paired (endSlashes text)))) [] (by simp)
  refine ⟨_, (pieces_eq filled).trans (tokens ▸ made.trans (List.append_nil _)), ?_⟩
  rw [Token.fragments_front, List.append_nil, ← List.nil_append front.reverse,
    Token.plain_fragments_front heads.inert, Token.plain_fragments_slashes]
  rfl

/-- What is left at the end of a style, and the tag that ends it if it does. -/
theorem ofTag_ending (position slashes : Nat) (name : List Char) :
    Piece.ofTag position slashes ('/' :: name) = Piece.texts (leftover name slashes) ++
      if slashes % 2 = 0 then [.closing ('/' :: name) (position + slashes)] else [] := by
  obtain ⟨half, even | odd⟩ := Nat.even_or_odd' slashes
  · subst even
    have half_eq : 2 * half / 2 = half := by omega
    have even : 2 * half % 2 = 0 := by omega
    rw [Piece.ofTag_even, leftover, half_eq, even, if_pos rfl, if_neg (by decide)]
  · subst odd
    have half_eq : (2 * half + 1) / 2 = half := by omega
    have odd : (2 * half + 1) % 2 = 1 := by omega
    rw [Piece.ofTag_odd, leftover, half_eq, odd, if_pos rfl, if_neg (by decide), List.append_nil]

theorem plain_leftover (names : Names name style) (slashes : Nat) :
    (leftover name slashes).flatMap plain = (leftover name slashes).flatten := by
  have half := plain_append_slashes [] (slashes / 2)
  rw [plain_nil, List.nil_append] at half
  rw [leftover, List.flatMap_cons, half, List.flatten_cons]
  split
  · rw [List.flatMap_singleton, plain_of_inert names.inert, List.flatten_singleton]
  · rfl

/-- **The pieces of a text in a style**: the front, the tag that begins the style, text, and at most the tag
that ends it. -/
theorem pieces_styled (heads : Heads front) (names : Names name style) (text : List Char) :
    ∃ parts position, pieces (front ++ styled name (escape text)) =
        .text front :: .opening style ::
          (Piece.texts parts ++ if Closed text then [.closing ('/' :: name) position] else []) ∧
      parts.flatMap plain = appearance (some name) text := by
  have tokens : Token.ofText (front ++ styled name (escape text)) =
      (front.map Token.char).map Token.doubled ++ .tag 0 name ::
        ((stem text).map Token.doubled ++ [.tag (paired (endSlashes text)) ('/' :: name)]) := by
    have line : styled name (escape text) =
        '[' :: (name ++ ']' :: (escape text ++ '[' :: ('/' :: name ++ ']' :: []))) := by
      simp [styled]
    rw [Token.ofText, scan_heads heads, line, Token.scan_tag (Token.split?_tag names.begins _),
      (scan_escape text).2 _ (by simp), Token.scan_tag (Token.split?_tag names.ends []), Token.scan_nil]
    rfl
  have filled : front ++ styled name (escape text) ≠ [] :=
    fun none_ => heads.filled (List.append_eq_nil_iff.mp none_).1
  obtain ⟨first, before⟩ := Piece.ofTokens_doubled 0 [] (front.map Token.char)
    (.tag 0 name :: ((stem text).map Token.doubled ++ [.tag (paired (endSlashes text)) ('/' :: name)]))
    (by simp)
  obtain ⟨second, within⟩ := Piece.ofTokens_doubled (first + 0 + name.length + 2) [] (stem text)
    [.tag (paired (endSlashes text)) ('/' :: name)] (by simp)
  have head : Token.fragments [] (front.map Token.char) = [front] := by
    rw [← List.append_nil (front.map _), Token.fragments_front]
    simp [Token.fragments]
  have alone : Piece.texts [front] = [.text front] := by
    simp [Piece.texts, heads.filled]
  refine ⟨fragments text ++ leftover name (paired (endSlashes text)),
    second + paired (endSlashes text), ?_, ?_⟩
  · rw [pieces_eq filled, tokens, before, head, alone, Piece.ofTokens, names.opening, within, Piece.ofTokens,
      Piece.ofTokens, ofTag_ending, Piece.texts_append]
    simp only [Piece.flush, Closed, fragments, List.isEmpty_nil, if_true, List.nil_append, List.append_nil,
      List.append_assoc, List.singleton_append]
    rfl
  · rw [List.flatMap_append, plain_leftover names]
    rfl

/-! ### Runs -/

/-- Pieces of text make text. -/
theorem runsFrom_texts (opened : List Style) (text : List Char) (parts : List (List Char)) (rest : List Piece) :
    runsFrom opened text (Piece.texts parts ++ rest) = runsFrom opened (text ++ parts.flatMap plain) rest := by
  induction parts generalizing text with
  | nil => rw [List.flatMap_nil, List.append_nil]; rfl
  | cons part parts ih =>
      rw [← List.singleton_append, Piece.texts_append, List.append_assoc, List.flatMap_append,
        List.flatMap_singleton, ← List.append_assoc text, ← ih]
      cases part with
      | nil => rw [plain_nil, List.append_nil]; rfl
      | cons c part => rfl

/-- **The run of a text without a style.** -/
theorem runs_unstyled (heads : Heads front) (text : List Char) :
    runs (front ++ escape text) = .ok [⟨none, front ++ appearance none text⟩] := by
  obtain ⟨parts, pieces, shown⟩ := pieces_unstyled heads text
  rw [runs, pieces, ← List.append_nil (Piece.texts parts), runsFrom_texts, shown]
  rfl

/-- **The runs of a text in a style.** -/
theorem runs_styled (heads : Heads front) (names : Names name style) (text : List Char) :
    runs (front ++ styled name (escape text)) =
      .ok (⟨none, front⟩ :: ⟨some style, appearance (some name) text⟩ ::
        if Closed text then [⟨none, []⟩] else []) := by
  obtain ⟨parts, position, pieces, shown⟩ := pieces_styled heads names text
  rw [runs, pieces, runsFrom, runsFrom, runsFrom_texts, shown, plain_of_inert heads.inert]
  split
  · rw [runsFrom, names.closing]
    simp [runsFrom, names.shown]
    rfl
  · simp [runsFrom, names.shown]
    rfl

/-- What is shown of a text are its characters, pictures, backslashes and the tag that ends its style. -/
theorem mem_appearance {name? : Option (List Char)} (names : ∀ name ∈ name?, Names name (.ofName name))
    {c : Char} (member : c ∈ appearance name? text) : c ∈ text ∨ 32 ≤ c.toNat := by
  have slash {n : Nat} : c ∈ List.replicate n '\\' → 32 ≤ c.toNat := fun member =>
    List.eq_of_mem_replicate member ▸ by decide
  rcases List.mem_append.mp member with inside | ending
  · obtain ⟨part, fragment, shown⟩ := List.mem_flatMap.mp inside
    refine (mem_plain shown).imp (fun within => ?_) fun beyond => Nat.le_trans (by decide) beyond
    rw [← flatten_fragments text]
    exact List.mem_append_left _ (List.mem_flatten.mpr ⟨part, fragment, within⟩)
  · cases name? with
    | none => exact .inr (slash ending)
    | some name =>
        rw [shownEnd, leftover, List.flatten_cons, List.mem_append] at ending
        refine .inr (ending.elim slash fun tag => ?_)
        split at tag
        · exact (names name rfl).visible c (by simpa using tag)
        · cases tag

/-- The runs of a line can be written. -/
theorem print_of_runs {line : List Char} {result : List Run} (done : runs line = .ok result) :
    print line = .ok ((lines result).flatMap writtenLine) := by
  rw [print, done]
  rfl

end

/-! ### The lines of a build -/

/-- The runs of a line that shows a text, in the style of the given name. -/
def shownRuns (front : List Char) (name? : Option (List Char)) (text : List Char) : List Run :=
  match name? with
  | none => [⟨none, front ++ appearance none text⟩]
  | some name =>
    ⟨none, front⟩ :: ⟨some (.ofName name), appearance (some name) text⟩ ::
      if Closed text then [⟨none, []⟩] else []

theorem heads_of_all (filled : front ≠ []) (bare : '[' ∉ front)
    (all : (front.all fun c => decide (Inert c) && decide (32 ≤ c.toNat)) = true) : Heads front where
  filled := filled
  inert := (shown_of_all all).1
  bare _ member := ne_of_mem_of_not_mem member bare
  visible := (shown_of_all all).2

theorem heads_indent : Heads [' ', ' '] :=
  heads_of_all nofun (by decide) rfl

theorem heads_heading (origin : Origin) : Heads origin.heading := by
  cases origin with
  | cached => exact heads_of_all nofun (by decide) rfl
  | analyzed => exact heads_of_all nofun (by decide) rfl

theorem names_styleName? {severity : Severity} {name : List Char} (styled : styleName? severity = some name) :
    Names name (.ofName name) := by
  cases severity with
  | debug | notice | info => cases styled
  | warning => cases styled; exact names_comment
  | error | alert | critical | emergency => cases styled; exact names_error

theorem runs_fileLine (origin : Origin) (path : List Char) :
    runs (fileLine origin path) = .ok (shownRuns origin.heading (some "info".toList) path) :=
  runs_styled (heads_heading origin) names_info path

/-- **The line of a file is printed**, whatever its path. -/
theorem print_fileLine (origin : Origin) (path : List Char) :
    ∃ text, print (fileLine origin path) = .ok text :=
  ⟨_, print_of_runs (runs_fileLine origin path)⟩

theorem runs_logLine (severity : Severity) (message : List Char) :
    runs (logLine severity message) = .ok (shownRuns [' ', ' '] (styleName? severity) message) := by
  cases style : styleName? severity with
  | none =>
      rw [logLine, style]
      exact runs_unstyled heads_indent message
  | some name =>
      rw [logLine, style]
      exact runs_styled heads_indent (names_styleName? style) message

end Docwright.Console
