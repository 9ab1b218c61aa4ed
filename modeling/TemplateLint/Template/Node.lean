import TemplateLint.Position
/-!
# Templates — the document tree

A template parser hands over a tree of nodes, each with its place in the
source and the errors found there. Three kinds of node hold others
(`Frame`): the document, an opening tag and an element. The rest are
leaves. The order of reading is pre-order: a node before its children,
and those from left to right.
-/

namespace TemplateLint

/-- A piece of source and where it lies. -/
structure Token where
  value : Text
  location : Location
  deriving DecidableEq, Repr

/-- An error the parser attached to a document or a node. -/
structure ParseError where
  kind : String
  message : String
  location : Location
  deriving DecidableEq, Repr

/-- What a node that holds others is. -/
inductive Frame where
  | document
  | openTag (name : Option Token)
  | element
  deriving DecidableEq, Repr

/-- What a node without children is. -/
inductive Leaf where
  | closeTag (name : Option Token)
  | erb (opening content closing : Option Token)
  | text (content : Text)
  | literal (content : Text)
  | plain
  deriving DecidableEq, Repr

/-- A node of a document tree. -/
inductive Node where
  | branch (frame : Frame) (location : Location) (errors : List ParseError)
      (children : List Node)
  | leaf (shape : Leaf) (location : Location) (errors : List ParseError)
  deriving Repr

/-- The kinds of node. -/
inductive NodeKind where
  | document
  | openTag
  | closeTag
  | element
  | erb
  | text
  | literal
  | plain
  deriving DecidableEq, Repr

/-- The name a kind of node goes by. -/
def NodeKind.label : NodeKind → String
  | .document => "AST_DOCUMENT_NODE"
  | .openTag => "AST_HTML_OPEN_TAG_NODE"
  | .closeTag => "AST_HTML_CLOSE_TAG_NODE"
  | .element => "AST_HTML_ELEMENT_NODE"
  | .erb => "AST_ERB_CONTENT_NODE"
  | .text => "AST_HTML_TEXT_NODE"
  | .literal => "AST_LITERAL_NODE"
  | .plain => "AST_NODE"

namespace Node

/-- An element: its opening tag, its body and its closing tag, in that
order. -/
def element (location : Location) (errors : List ParseError) (openTag : Option Node)
    (body : List Node) (closeTag : Option Node) : Node :=
  .branch .element location errors (openTag.toList ++ body ++ closeTag.toList)

/-- Where a node lies. -/
def location : Node → Location
  | .branch _ location _ _ => location
  | .leaf _ location _ => location

/-- The errors attached to a node itself. -/
def errors : Node → List ParseError
  | .branch _ _ errors _ => errors
  | .leaf _ _ errors => errors

/-- The nodes right below a node. -/
def children : Node → List Node
  | .branch _ _ _ children => children
  | .leaf .. => []

/-- The kind of a node. -/
def kind : Node → NodeKind
  | .branch .document .. => .document
  | .branch (.openTag _) .. => .openTag
  | .branch .element .. => .element
  | .leaf (.closeTag _) .. => .closeTag
  | .leaf (.erb ..) .. => .erb
  | .leaf (.text _) .. => .text
  | .leaf (.literal _) .. => .literal
  | .leaf .plain _ _ => .plain

mutual

/-- A node and everything below it, in the order of reading. -/
def preorder : Node → List Node
  | .branch frame location errors children =>
    .branch frame location errors children :: preorders children
  | .leaf shape location errors => [.leaf shape location errors]

/-- Some nodes and everything below them, in the order of reading. -/
def preorders : List Node → List Node
  | [] => []
  | node :: nodes => preorder node ++ preorders nodes

end

mutual

/-- The number of nodes at and below a node. -/
def size : Node → Nat
  | .branch _ _ _ children => sizes children + 1
  | .leaf .. => 1

/-- The number of nodes at and below some nodes. -/
def sizes : List Node → Nat
  | [] => 0
  | node :: nodes => size node + sizes nodes

end

theorem size_eq (node : Node) : node.size = sizes node.children + 1 := by
  cases node <;> simp [size, sizes, children]

theorem sizes_append (xs ys : List Node) : sizes (xs ++ ys) = sizes xs + sizes ys := by
  induction xs with
  | nil => simp [sizes]
  | cons x xs ih => simp [sizes, ih, Nat.add_assoc]

/-- All errors at and below a node, in the order of reading. -/
def allErrors (node : Node) : List ParseError :=
  node.preorder.flatMap errors

end Node

/-- What a parser makes of a source: the tree, if it found one, and the
errors of the document as a whole. -/
structure Document where
  source : Text
  root : Option Node
  errors : List ParseError
  deriving Repr

namespace Document

/-- A bare text, which no parser has read. -/
def ofText (source : Text) : Document :=
  ⟨source, none, []⟩

/-- All errors: those of the document, then those in the tree. -/
def allErrors (d : Document) : List ParseError :=
  d.errors ++ d.root.elim [] Node.allErrors

/-- The parser found an error. -/
def failed (d : Document) : Bool :=
  !d.allErrors.isEmpty

end Document

end TemplateLint
