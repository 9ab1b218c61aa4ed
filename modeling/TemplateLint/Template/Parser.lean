import TemplateLint.Template.Node
import TemplateLint.Template.Lexeme
/-!
# Templates — the bundled parser and printer

A document with one child per lexeme, each placed by reading the source up
to it. It builds no elements: tags stand beside the text between them. An
ERB tag that is never closed is reported once. The printer gives back the
source a document was read from.
-/

namespace TemplateLint

namespace Document

/-- The kind of the error for an ERB tag that is never closed. -/
def unclosedKind : String := "UNCLOSED_ERB_TAG_ERROR"

/-- The node of an ERB tag read from a position: three tokens, one after
the other. -/
def erbNode (p : Position) (opening content : Text) : Node :=
  let q := p.advance opening
  let r := q.advance content
  .leaf (.erb (some ⟨opening, .reading p opening⟩) (some ⟨content, .reading q content⟩)
      (some ⟨Lexeme.erbClosing, .reading r Lexeme.erbClosing⟩))
    (.reading p (opening ++ content ++ Lexeme.erbClosing)) []

/-- The node of a lexeme read from a position. -/
def nodeAt (p : Position) : Lexeme → Node
  | .text content => .leaf (.text content) (.reading p content) []
  | .dangling lead rest => .leaf (.text (lead ++ rest)) (.reading p (lead ++ rest)) []
  | .erb opening content => erbNode p opening content
  | .tag closing name rest =>
    let written := Lexeme.written (.tag closing name rest)
    let token : Token := ⟨name, .reading (p.advance (Lexeme.tagOpening closing)) name⟩
    if closing then .leaf (.closeTag (some token)) (.reading p written) []
    else .branch (.openTag (some token)) (.reading p written) [] []

/-- The nodes of consecutive lexemes, the first read from a position. -/
def nodesFrom (p : Position) : List Lexeme → List Node
  | [] => []
  | lexeme :: lexemes => nodeAt p lexeme :: nodesFrom (p.advance lexeme.written) lexemes

/-- The error of a lexeme read from a position. -/
def errorAt? (p : Position) : Lexeme → Option ParseError
  | .dangling lead rest =>
    some ⟨unclosedKind, "ERB tag is missing its closing `%>`",
      .reading (p.advance lead) (rest.take 2)⟩
  | _ => none

/-- The errors of consecutive lexemes, the first read from a position. -/
def errorsFrom (p : Position) : List Lexeme → List ParseError
  | [] => []
  | lexeme :: lexemes =>
    (errorAt? p lexeme).toList ++ errorsFrom (p.advance lexeme.written) lexemes

/-- The document of a source. -/
def parse (source : Text) : Document :=
  let lexemes := Lexeme.cut source
  { source
    root := some (.branch .document (.reading .origin source) []
      (nodesFrom .origin lexemes))
    errors := errorsFrom .origin lexemes }

/-- The source a document was read from. -/
def print (d : Document) : Text :=
  d.source

end Document

end TemplateLint
