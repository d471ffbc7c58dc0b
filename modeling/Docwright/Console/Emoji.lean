import Docwright.Text.Blank

/-!
# Names of pictures

A name between colons stands for a picture: `:heart:`.  The name may ask for one of two forms, by
`-text` or `-emoji` behind it.  A name that is not known stays as it is, colons and all.
-/

namespace Docwright.Console.Emoji

/-- The names and their pictures. -/
def known : List (List Char × Char) :=
  [("smile".toList, Char.ofNat 0x1f604), ("cat".toList, Char.ofNat 0x1f431),
    ("dog".toList, Char.ofNat 0x1f436), ("warning".toList, '\u26a0'),
    ("b".toList, Char.ofNat 0x1f171), ("heart".toList, '\u2764')]

/-- The forms that can be asked for. -/
def forms : List (List Char × Char) :=
  [("-emoji".toList, '\ufe0f'), ("-text".toList, '\ufe0e')]

/-- A name without the form it asks for, and the mark of the form. -/
def splitForm (body : List Char) : List Char × List Char :=
  match forms.find? fun (ending, _) => ending.isSuffixOf body with
  | some (ending, mark) => (body.take (body.length - ending.length), [mark])
  | none => (body, [])

/-- The picture of a name, which may be in capitals. -/
def picture? (body : List Char) : Option (List Char) :=
  let (name, mark) := splitForm body
  (known.lookup (name.map Char.toLower)).map (· :: mark)

/-- Whether a character may stand between two colons. -/
def inName (c : Char) : Bool :=
  c != ':' && !Text.isBlank c

/-- A text with pictures for the names in it. -/
def replace (text : List Char) : List Char :=
  match text with
  | [] => []
  | ':' :: rest =>
    match _h : rest.dropWhile inName with
    | ':' :: rest' =>
      let body := rest.takeWhile inName
      (picture? body).getD (':' :: body ++ [':']) ++ replace rest'
    | _ => ':' :: replace rest
  | c :: rest => c :: replace rest
termination_by text.length
decreasing_by
  all_goals simp_all only [List.length_cons]
  all_goals first
    | omega
    | (have shorter := (List.dropWhile_suffix (l := rest) inName).length_le
       rw [_h] at shorter
       simp only [List.length_cons] at shorter
       omega)

end Docwright.Console.Emoji
