import Docwright.Proofs.Message.Filling

/-!
# Messages that say what they are given

A message of texts says its template with the texts put in for the placeholders, one
after another, and there is a placeholder for each of them (`Message.Says`).  Whatever
characters the texts have, none of them is taken for a directive, for what was put in is
not looked at again: `Template.substitute` goes on behind it.

So it is enough to look at the template (`Message.said_texts`).
-/

namespace Docwright

namespace Template

/-- A template with texts put in for its placeholders, in order. -/
def substitute : List Char → List String → List Char
  | '%' :: 's' :: rest, s :: texts => s.toList ++ substitute rest texts
  | c :: rest, texts => c :: substitute rest texts
  | [], _ => []

/-- The number of placeholders in a template. -/
def placeholders : List Char → Nat
  | '%' :: 's' :: rest => placeholders rest + 1
  | _ :: rest => placeholders rest
  | [] => 0

variable {front : List Char} {pieces : List (List Char × String)} {last : List Char}

/-- What holds no percent sign stays. -/
theorem substitute_plain (plain : ∀ c ∈ front, c ≠ '%') (rest : List Char) (texts : List String) :
    substitute (front ++ rest) texts = front ++ substitute rest texts := by
  induction front with
  | nil => rfl
  | cons c front ih =>
      obtain ⟨other, plain⟩ := List.forall_mem_cons.mp plain
      rw [List.cons_append, substitute, ih plain, List.cons_append]
      intro rest' s texts' _ same
      exact absurd same other

theorem placeholders_plain (plain : ∀ c ∈ front, c ≠ '%') (rest : List Char) :
    placeholders (front ++ rest) = placeholders rest := by
  induction front with
  | nil => rfl
  | cons c front ih =>
      obtain ⟨other, plain⟩ := List.forall_mem_cons.mp plain
      rw [List.cons_append, placeholders, ih plain]
      intro rest' same
      exact absurd same other

/-- A template of texts has a placeholder between any two of its pieces, and what is put in goes there. -/
theorem substitute_woven
    (plain : ∀ piece ∈ last :: pieces.map Prod.fst, ∀ c ∈ piece, c ≠ '%') :
    substitute (woven (pieces.map Prod.fst) last) (pieces.map Prod.snd) = filledIn pieces last ∧
      placeholders (woven (pieces.map Prod.fst) last) = pieces.length := by
  induction pieces with
  | nil =>
      have ends := plain last List.mem_cons_self
      have kept := substitute_plain ends [] []
      have none_ := placeholders_plain ends []
      rw [List.append_nil] at kept none_
      exact ⟨kept.trans (List.append_nil last), none_⟩
  | cons piece more ih =>
      obtain ⟨front, s⟩ := piece
      rw [List.map_cons, List.forall_mem_cons, List.forall_mem_cons] at plain
      obtain ⟨filled, counted⟩ := ih (List.forall_mem_cons.mpr ⟨plain.1, plain.2.2⟩)
      constructor
      · rw [List.map_cons, List.map_cons, woven, substitute_plain plain.2.1, substitute, filled, filledIn]
      · rw [List.map_cons, woven, placeholders_plain plain.2.1, placeholders, counted, List.length_cons]

end Template

namespace Message

open Template (OfTexts substitute placeholders substitute_woven)

/-- A message holds texts, as many as its template has placeholders, and says the template with these put
in. -/
structure Says (message : Message) (texts : List String) : Prop where
  values : message.values = texts.map fun s => .scalar (.text s)
  filled : placeholders message.template.toList = texts.length
  rendered : message.render = .ok (String.ofList (substitute message.template.toList texts))

/-- **A message of texts says what it is given**, whatever the texts are. -/
theorem said_texts {message : Message} {pieces : List (List Char × String)} {last : List Char}
    (template : OfTexts message.template.toList (pieces.map Prod.fst) last) (filled : pieces ≠ [])
    (values : message.values = pieces.map fun piece => .scalar (.text piece.2)) :
    message.Says (pieces.map Prod.snd) := by
  obtain ⟨put, counted⟩ := substitute_woven template.plain
  rw [← template.whole] at put counted
  refine ⟨by rw [values, List.map_map]; rfl, by rw [counted, List.length_map], ?_⟩
  rw [render_texts template filled values, put]

end Message

/-- What is put in may look like a directive, or like markup. -/
example : Template.substitute "Argument %s is missing from the docstring of %s".toList ["%s", "a%d[b]\n"] =
    "Argument %s is missing from the docstring of a%d[b]\n".toList := by
  decide

end Docwright
