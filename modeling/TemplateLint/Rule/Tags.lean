import TemplateLint.Rule.Basic
import TemplateLint.Text.Lowercase
/-!
# Rules — the case of tag names

HTML tag names are written in small letters. Inside `svg` the rule rests,
because names there have capitals by right. The nodes are read in order,
with a count of the `svg` tags that are open.
-/

namespace TemplateLint

namespace Tags

/-- The name of the rule. -/
def ruleName : String := "html-tag-name-lowercase"

/-- The tag inside which capitals are right. -/
def svg : Text := "svg".toList

/-- A tag name is `svg`, in letters of either case. -/
def isSvg (name : Token) : Bool :=
  name.value.lower == svg

/-- The words for a tag name with capitals, after what opens the tag. -/
def message (kind : String) (opening name : Text) : String :=
  let written := String.ofList (opening ++ name)
  let lowered := String.ofList (opening ++ name.lower)
  s!"{kind} tag name `{written}>` should be lowercase. Use `{lowered}>` instead."

/-- The offense of a tag name with capitals. -/
def offenses (kind : String) (opening : Text) (name : Token) : List Offense :=
  if name.value = name.value.lower then []
  else [.found ruleName (message kind opening name.value) name.location]

/-- The offenses of nodes in the order of reading, below a number of open
`svg` tags. -/
def offensesBelow (depth : Nat) : List Node → List Offense
  | [] => []
  | .branch (.openTag (some name)) _ _ _ :: nodes =>
    (if depth = 0 then offenses "Opening" ['<'] name else [])
      ++ offensesBelow (if isSvg name then depth + 1 else depth) nodes
  | .leaf (.closeTag (some name)) _ _ :: nodes =>
    let depth := if isSvg name then depth - 1 else depth
    (if depth = 0 then offenses "Closing" ['<', '/'] name else []) ++ offensesBelow depth nodes
  | _ :: nodes => offensesBelow depth nodes

/-- Tag names are written in small letters, except inside `svg`. -/
def lowercase : Rule :=
  .onDocument ruleName .error fun d _ =>
    match d.root with
    | none => []
    | some root => offensesBelow 0 root.preorder

end Tags

end TemplateLint
