import TemplateLint.Text.Letters
/-!
# Templates — lexemes

The source of a template cut into consecutive pieces: ERB tags, HTML tags
and the text between them. Nothing is dropped: a lexeme knows the text it
was written as. An ERB tag runs to the first closing mark that stands
after its opening mark. A `<%` with no such mark makes everything from the
last cut on one dangling piece.
-/

namespace TemplateLint

/-- A piece of template source. -/
inductive Lexeme where
  /-- Characters outside any tag. -/
  | text (content : Text)
  /-- An ERB tag: its opening mark, and what stands before the closing
  one. -/
  | erb (opening content : Text)
  /-- An HTML tag: whether it closes, its name, and what stands between
  the name and the end of the tag. -/
  | tag (closing : Bool) (name rest : Text)
  /-- Text up to an ERB tag that is never closed, and that tag with all
  after it. -/
  | dangling (lead rest : Text)
  deriving DecidableEq, Repr

namespace Lexeme

/-- The mark that ends an ERB tag. -/
def erbClosing : Text := ['%', '>']

/-- The two characters that open an HTML tag, or one. -/
def tagOpening (closing : Bool) : Text :=
  if closing then ['<', '/'] else ['<']

/-- The text a lexeme was read from. -/
def written : Lexeme → Text
  | .text content => content
  | .erb opening content => opening ++ content ++ erbClosing
  | .tag closing name rest => tagOpening closing ++ name ++ rest ++ ['>']
  | .dangling lead rest => lead ++ rest

/-- The mark after `<%`, at most two characters, and the text after
it. -/
def erbMark : Text → Text × Text
  | '#' :: t => (['#'], t)
  | '=' :: '=' :: t => (['=', '='], t)
  | '=' :: t => (['='], t)
  | '-' :: t => (['-'], t)
  | t => ([], t)

/-- A letter that a tag name may start with. -/
def isTagStart (c : Char) : Bool :=
  ('a' ≤ c && c ≤ 'z') || ('A' ≤ c && c ≤ 'Z')

/-- A character that a tag name may go on with. -/
def isTagChar (c : Char) : Bool :=
  Text.isWordChar c || c = ':' || c = '-'

/-- The tag whose name starts a text. It ends at the first `>`, and no
`<` may stand before that. -/
def tagNamed? (closing : Bool) : Text → Option Lexeme
  | [] => none
  | c :: t =>
    if isTagStart c then
      let (name, t) := t.span isTagChar
      match t.span fun c => c ≠ '<' && c ≠ '>' with
      | (rest, '>' :: _) => some (.tag closing (c :: name) rest)
      | _ => none
    else none

/-- The tag at the start of a text, or the ERB tag that is never
closed. -/
def starting? : Text → Option Lexeme
  | '<' :: '%' :: t =>
    let (mark, content) := erbMark t
    match Text.cutAt? erbClosing content with
    | some (content, _) => some (.erb ('<' :: '%' :: mark) content)
    | none => some (.dangling [] ('<' :: '%' :: t))
  | '<' :: '/' :: t => tagNamed? true t
  | '<' :: t => tagNamed? false t
  | _ => none

/-- A character before some lexemes: it joins the text that comes
first. -/
def consText (c : Char) : List Lexeme → List Lexeme
  | .text content :: lexemes => .text (c :: content) :: lexemes
  | .dangling lead rest :: lexemes => .dangling (c :: lead) rest :: lexemes
  | lexemes => .text [c] :: lexemes

/-- The lexemes of a text of which the first characters are covered by
the lexeme before; `covered` counts them. -/
def cutFrom : Nat → Text → List Lexeme
  | _, [] => []
  | covered + 1, _ :: t => cutFrom covered t
  | 0, c :: t =>
    match starting? (c :: t) with
    | some lexeme => lexeme :: cutFrom (lexeme.written.length - 1) t
    | none => consText c (cutFrom 0 t)

/-- The lexemes of a source. -/
def cut (source : Text) : List Lexeme :=
  cutFrom 0 source

end Lexeme

end TemplateLint
