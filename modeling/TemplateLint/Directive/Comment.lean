import TemplateLint.Directive.Basic
import TemplateLint.Template.Walk
/-!
# Directives — the comments of a tree

A comment is an ERB node with the opening mark of a comment. The
directives of a tree are found in two ways: by a worklist
(`Node.disableComments`), which is what suppression reads, and on a tour
(`Node.comments`), which is what the rules about comments read.
-/

namespace TemplateLint

/-- The span of a rule name inside the token that holds the content of a
comment. A name is placed on the line the content starts on. -/
def Token.nameLocation (content : Token) (span : NameSpan) : Location :=
  .columns content.location.start span.offset span.length

namespace Node

/-- The token between the marks of a comment, if the node is a comment
and has one. -/
def commentToken? : Node → Option Token
  | .leaf (.erb (some opening) content _) _ _ =>
    if opening.value = Directive.commentOpening then content else none
  | _ => none

/-- The node is a comment. -/
def isComment : Node → Bool
  | .leaf (.erb (some opening) _ _) _ _ => opening.value == Directive.commentOpening
  | _ => false

/-- The text between the marks of a comment. -/
def commentContent? (node : Node) : Option Text :=
  node.commentToken?.map (·.value)

/-- The node is a comment that excludes its document from linting. -/
def isLinterIgnore (node : Node) : Bool :=
  node.commentContent?.any Directive.isLinterIgnore

/-- The node is a comment that excludes its document from formatting. -/
def isFormatterIgnore (node : Node) : Bool :=
  node.commentContent?.any Directive.isFormatterIgnore

/-- A tour of the tree meets a comment that excludes the document from
linting. -/
def ignoresLinter (root : Node) : Bool :=
  (root.tour isLinterIgnore fun _ => false).trigger.isSome

end Node

/-- A comment with content: where it lies, and the token of its
content. -/
structure Comment where
  location : Location
  content : Token
  deriving DecidableEq, Repr

/-- A comment that suppresses rules. -/
structure DisableComment extends Comment where
  directive : Directive
  deriving DecidableEq, Repr

namespace Comment

/-- The comment as one that suppresses rules. -/
def disabling? (c : Comment) : Option DisableComment :=
  (Directive.parse? c.content.value).map fun directive => ⟨c, directive⟩

/-- The span of a rule name inside the comment. -/
def nameLocation (c : Comment) (span : NameSpan) : Location :=
  c.content.nameLocation span

end Comment

namespace Node

/-- The comment that a node is. -/
def comment? (node : Node) : Option Comment :=
  node.commentToken?.map fun content => ⟨node.location, content⟩

/-- The comments with content, in the order of a tour of the tree that
looks at ERB nodes and goes no further there. -/
def comments (root : Node) : List Comment :=
  (root.tour (fun _ => false) fun node => node.kind == .erb).skipped.filterMap
    fun visit => visit.node.comment?

/-- The comments that suppress rules, in the order a worklist reads
them. -/
def disableComments (root : Node) : List DisableComment :=
  (Node.listing [root]).filterMap fun node => node.comment?.bind Comment.disabling?

end Node

end TemplateLint
