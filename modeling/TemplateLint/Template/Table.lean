import TemplateLint.Offense.Table
import TemplateLint.Template.Parser
/-!
# Templates — documents as tables

A document may be written down instead of parsed: its source, its tree
node by node, and the errors that came with it (`Document.ofValue?`). The
other way round a node is shown as a table, with the nodes below it
(`Node.toTable`). Places stand in both as four numbers.
-/

namespace TemplateLint

/-! ## Reading -/

namespace Value

/-- The text under a key of a table value, or none. -/
def textUnder (v : Value) (key : String) : Text :=
  (((v.field? key).bind string?).getD "").toList

/-- The items under a key of a table value. -/
def itemsUnder (v : Value) (key : String) : List Value :=
  ((v.field? key).bind list?).getD []

/-- The value under a key of a table value, or nothing. -/
def under (v : Value) (key : String) : Value :=
  (v.field? key).getD .null

end Value

/-- The place under the key for it. -/
def Location.ofField? (v : Value) : Except DescriptionError Location :=
  match v.under "loc" with
  | .null => .ok .fallback
  | place => Location.ofValue? place

/-- The token that a value describes, if it describes one. -/
def Token.ofValue? : Value → Except DescriptionError (Option Token)
  | .null => .ok none
  | v => do return some ⟨v.textUnder "value", ← Location.ofField? v⟩

/-- The error that a value describes. -/
def ParseError.ofValue? (v : Value) : Except DescriptionError ParseError := do
  return ⟨String.ofList (v.textUnder "type"), String.ofList (v.textUnder "message"),
    ← Location.ofField? v⟩

namespace Node

/-- The node that a value describes, if it describes one, to a depth. -/
def ofValue? : Nat → Value → Except DescriptionError (Option Node)
  | 0, _ => .ok none
  | _, .null => .ok none
  | depth + 1, v => do
    let location ← Location.ofField? v
    let errors ← (v.itemsUnder "errors").mapM ParseError.ofValue?
    let below (key : String) : Except DescriptionError (List Node) := do
      return (← (v.itemsUnder key).mapM (ofValue? depth)).filterMap id
    let leaf (shape : Leaf) : Option Node := some (.leaf shape location errors)
    match String.ofList (v.textUnder "t") with
    | "document" => return some (.branch .document location errors (← below "children"))
    | "open" =>
      let name ← Token.ofValue? (v.under "tag")
      return some (.branch (.openTag name) location errors (← below "children"))
    | "close" => return leaf (.closeTag (← Token.ofValue? (v.under "tag")))
    | "element" =>
      let openTag ← ofValue? depth (v.under "open")
      let body ← below "body"
      return some (.element location errors openTag body (← ofValue? depth (v.under "close")))
    | "erb" =>
      let opening ← Token.ofValue? (v.under "opening")
      let content ← Token.ofValue? (v.under "content")
      return leaf (.erb opening content (← Token.ofValue? (v.under "closing")))
    | "text" => return leaf (.text (v.textUnder "content"))
    | "literal" => return leaf (.literal (v.textUnder "content"))
    | _ => return leaf .plain

end Node

/-- The greatest depth of a tree that is written down. -/
def Document.depth : Nat := 1000

/-- The document that a value describes. -/
def Document.ofValue? (v : Value) : Except DescriptionError Document := do
  return ⟨v.textUnder "source", ← Node.ofValue? Document.depth (v.under "tree"),
    ← (v.itemsUnder "errors").mapM ParseError.ofValue?⟩

/-! ## Showing -/

/-- A place as four numbers. -/
def Location.toValue (l : Location) : Value :=
  .list [.int l.start.line, .int l.start.column, .int l.stop.line, .int l.stop.column]

/-- A token with its place, if there is one. -/
def Token.toValue : Option Token → Value
  | none => .null
  | some t => .list [.str (String.ofList t.value), t.location.toValue]

/-- An error with its kind, its words and its place. -/
def ParseError.toValue (e : ParseError) : Value :=
  .list [.str e.kind, .str e.message, e.location.toValue]

namespace Node

/-- The fields of a node that holds others. -/
def frameTable : Frame → Table
  | .openTag name => [("tag", Token.toValue name)]
  | .document | .element => []

/-- The fields of a node without children. -/
def leafTable : Leaf → Table
  | .closeTag name => [("tag", Token.toValue name)]
  | .erb opening content closing =>
    [("tokens", .list ([opening, content, closing].map Token.toValue))]
  | .text content | .literal content => [("content", .str (String.ofList content))]
  | .plain => []

/-- The fields that every node has. -/
def commonTable (node : Node) : Table :=
  [("type", .str node.kind.label), ("loc", node.location.toValue)]

mutual

/-- A node as a table, with the nodes below it if there are any. -/
def toTable : Node → Table
  | .branch frame location errors children =>
    commonTable (.branch frame location errors children) ++ frameTable frame
      ++ match toValues children with
        | [] => []
        | shown => [("children", .list shown)]
  | .leaf shape location errors => commonTable (.leaf shape location errors) ++ leafTable shape

/-- Some nodes as values. -/
def toValues : List Node → List Value
  | [] => []
  | node :: nodes => .table (toTable node) :: toValues nodes

end

end Node

end TemplateLint
