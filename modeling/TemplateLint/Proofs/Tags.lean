import TemplateLint.Rule.Tags
import TemplateLint.Template.Lexeme
import TemplateLint.Proofs.Tree
/-!
# Tags — one count stands for all of svg

The rule about the case of tag names keeps no stack. It has one count of the `svg`
tags that are open, and a closing tag never takes it below zero. In a tree whose tags
are the tags of elements, and whose `svg` tags come in pairs, each node leaves the
count as it found it (`Tags.reads_of_wellTagged`): an element adds one at its opening
tag, what is inside it, or inside that tag, adds nothing, and its closing tag takes the
one away. So the count is zero exactly where no `svg` element is above, and the rule is
exact (`Tags.lowercase_exact`).
-/

namespace TemplateLint

/-- A tag of a tree, if it has a name. -/
structure Tag where
  closing : Bool
  name : Token

namespace Tag

/-- The name of a tag is written in small letters. -/
def isLower (tag : Tag) : Bool :=
  tag.name.value == tag.name.value.lower

/-- The offense of a tag, where its name is and with what to write instead. -/
def offense (tag : Tag) : Offense :=
  .found Tags.ruleName (Tags.message (if tag.closing then "Closing" else "Opening")
    (Lexeme.tagOpening tag.closing) tag.name.value) tag.name.location

end Tag

namespace Node

/-- The tag that a node is. -/
def tag? : Node → Option Tag
  | .branch (.openTag (some name)) _ _ _ => some ⟨false, name⟩
  | .leaf (.closeTag (some name)) _ _ => some ⟨true, name⟩
  | _ => none

/-- A tag opens or closes. -/
theorem exists_of_tag? {node : Node} {tag : Tag} (h : node.tag? = some tag) :
    (∃ name location errors children, tag = ⟨false, name⟩ ∧
      node = .branch (.openTag (some name)) location errors children) ∨
    ∃ name location errors, tag = ⟨true, name⟩ ∧
      node = .leaf (.closeTag (some name)) location errors := by
  unfold tag? at h
  split at h
  · exact .inl ⟨_, _, _, _, (Option.some.inj h).symm, rfl⟩
  · exact .inr ⟨_, _, _, (Option.some.inj h).symm, rfl⟩
  · cases h

/-- A tag that is named `svg`. -/
def isSvgTag (node : Node) : Bool :=
  node.tag?.any fun tag => Tags.isSvg tag.name

/-- An element with a tag that is named `svg`. -/
def isSvg (node : Node) : Bool :=
  node.kind == .element && node.children.any isSvgTag

/-- **Tags are the tags of elements**, at any depth, and if one tag of an element is
named `svg`, then it has two and both are. -/
inductive WellTagged : Node → Prop where
  | leaf {shape : Leaf} {location : Location} {errors : List ParseError} :
      (∀ name, shape ≠ .closeTag name) → WellTagged (.leaf shape location errors)
  | document {location : Location} {errors : List ParseError} {children : List Node} :
      (∀ child ∈ children, WellTagged child) →
      WellTagged (.branch .document location errors children)
  | element {location : Location} {errors : List ParseError} {openTag closeTag : Option Node}
      {body : List Node} :
      (∀ tag ∈ openTag, tag.kind = .openTag) →
      (∀ tag ∈ openTag, ∀ child ∈ tag.children, WellTagged child) →
      (∀ child ∈ body, WellTagged child) →
      (∀ tag ∈ closeTag, tag.kind = .closeTag) →
      openTag.any isSvgTag = closeTag.any isSvgTag →
      WellTagged (.element location errors openTag body closeTag)

theorem WellTagged.tag?_eq_none {node : Node} (h : node.WellTagged) : node.tag? = none := by
  cases h with
  | @leaf shape location errors hshape =>
    cases shape with
    | closeTag name => exact absurd rfl (hshape name)
    | erb | text | literal | plain => rfl
  | document | element => rfl

theorem WellTagged.isSvgTag_eq_false {node : Node} (h : node.WellTagged) :
    node.isSvgTag = false := by
  rw [isSvgTag, h.tag?_eq_none]
  rfl

theorem children_of_kind_eq_closeTag {node : Node} (h : node.kind = .closeTag) :
    node.children = [] := by
  cases node with
  | branch frame location errors children => cases frame <;> cases h
  | leaf shape location errors => rfl

/-- **A tag of a well tagged tree is a tag of an element**, the last of its ancestors. -/
theorem WellTagged.exists_element {node : Node} (h : node.WellTagged) {ancestors : List Node}
    {place : Visit} (hplace : place ∈ node.placesBelow ancestors) (htag : place.node.tag? ≠ none) :
    ∃ (above : List Node) (own : Node), place.ancestors = above ++ [own] ∧ own.kind = .element ∧
      place.node ∈ own.children := by
  induction h generalizing ancestors with
  | leaf hshape =>
    cases List.mem_singleton.1 hplace
    exact absurd (WellTagged.leaf hshape).tag?_eq_none htag
  | document hchildren ih =>
    rcases mem_placesBelow_iff.1 hplace with rfl | ⟨child, hchild, hplace⟩
    · exact absurd rfl htag
    · exact ih child hchild hplace
  | element hopen hinside hbody hclose hsvg ihinside ihbody =>
    rcases mem_placesBelow_iff.1 hplace with rfl | ⟨child, hchild, hplace⟩
    · exact absurd rfl htag
    have hmem := hchild
    rcases List.mem_append.1 hchild with hchild | hchild
    · rcases List.mem_append.1 hchild with hchild | hchild
      · rcases mem_placesBelow_iff.1 hplace with rfl | ⟨inner, hinner, hplace⟩
        · exact ⟨ancestors, _, rfl, rfl, hmem⟩
        · exact ihinside child (Option.mem_toList.1 hchild) inner hinner hplace
      · exact ihbody child hchild hplace
    · rcases mem_placesBelow_iff.1 hplace with rfl | ⟨inner, hinner, -⟩
      · exact ⟨ancestors, _, rfl, rfl, hmem⟩
      · rw [children_of_kind_eq_closeTag (hclose child (Option.mem_toList.1 hchild))] at hinner
        cases hinner

/-- A tag is no element. -/
theorem isSvg_of_kind_eq_openTag {node : Node} (h : node.kind = .openTag) : node.isSvg = false := by
  rw [isSvg, h]
  rfl

/-- The opening tag says whether an element is `svg`. -/
theorem isSvg_element {location : Location} {errors : List ParseError}
    {openTag closeTag : Option Node} {body : List Node} (hbody : ∀ child ∈ body, child.WellTagged)
    (hsvg : openTag.any isSvgTag = closeTag.any isSvgTag) :
    (element location errors openTag body closeTag).isSvg = openTag.any isSvgTag := by
  have hbody : body.any isSvgTag = false :=
    List.any_eq_false.2 fun child hchild => by simp [(hbody child hchild).isSvgTag_eq_false]
  have hopen : openTag.toList.any isSvgTag = openTag.any isSvgTag := by cases openTag <;> simp
  have hclose : closeTag.toList.any isSvgTag = openTag.any isSvgTag := by
    rw [hsvg]
    cases closeTag <;> simp
  change (true && (openTag.toList ++ body ++ closeTag.toList).any isSvgTag) = _
  rw [Bool.true_and, List.any_append, List.any_append, hopen, hbody, hclose, Bool.or_false,
    Bool.or_self]

end Node

/-- The tag at a place, if its name has capitals and no `svg` element is above the
element it is a tag of. -/
def Visit.wrongTag? (place : Visit) : Option Tag :=
  place.node.tag?.filter fun tag => !tag.isLower && !place.ancestors.dropLast.any Node.isSvg

namespace Tags

variable {depth : Nat} {ancestors nodes rest : List Node} {node : Node}

/-! ## What is due -/

/-- The offenses of some places, one for each wrong tag. -/
def due (places : List Visit) : List Offense :=
  (places.filterMap Visit.wrongTag?).map Tag.offense

theorem due_append (xs ys : List Visit) : due (xs ++ ys) = due xs ++ due ys := by
  rw [due, List.filterMap_append, List.map_append, due, due]

theorem due_cons (place : Visit) (places : List Visit) :
    due (place :: places) = due [place] ++ due places :=
  due_append [place] places

theorem due_singleton (place : Visit) : due [place] = (place.wrongTag?.map Tag.offense).toList := by
  cases h : place.wrongTag? <;> simp [due, h]

/-- Nothing is due for what is no tag. -/
theorem due_of_tag?_eq_none (h : node.tag? = none) : due [⟨node, ancestors⟩] = [] := by
  rw [due_singleton, Visit.wrongTag?, h]
  rfl

/-- **A count stands for some ancestors**: it is zero if there is no `svg` element
among them. -/
def Counts (depth : Nat) (ancestors : List Node) : Prop :=
  depth = 0 ↔ ancestors.any Node.isSvg = false

theorem Counts.concat (h : Counts depth ancestors) (node : Node) :
    Counts (if node.isSvg then depth + 1 else depth) (ancestors ++ [node]) := by
  cases hsvg : node.isSvg <;> simp_all [Counts, List.any_append]

/-- Every count stands for some ancestors. -/
theorem exists_counts (depth : Nat) : ∃ ancestors, Counts depth ancestors := by
  rcases Nat.eq_zero_or_pos depth with rfl | hpos
  · exact ⟨[], by simp [Counts]⟩
  · let tag : Node := .branch (.openTag (some ⟨svg, .fallback⟩)) .fallback [] []
    have hsvg : (Node.element .fallback [] (some tag) [] none).isSvg := by decide
    refine ⟨[.element .fallback [] (some tag) [] none], ?_⟩
    simp only [Counts, List.any_cons, hsvg]
    simpa using Nat.ne_of_gt hpos

/-- What is due for a tag, by the count outside its element. -/
theorem due_of_tag? {tag : Tag} (htag : node.tag? = some tag) (hcount : Counts depth ancestors)
    (element : Node) :
    due [⟨node, ancestors ++ [element]⟩] =
      if depth = 0 then
        offenses (if tag.closing then "Closing" else "Opening") (Lexeme.tagOpening tag.closing)
          tag.name
      else [] := by
  have habove : (!ancestors.any Node.isSvg) = decide (depth = 0) := by
    rw [Bool.eq_iff_iff, Bool.not_eq_true', decide_eq_true_iff]
    exact hcount.symm
  have hwrong : Visit.wrongTag? ⟨node, ancestors ++ [element]⟩ =
      if depth = 0 ∧ tag.name.value ≠ tag.name.value.lower then some tag else none := by
    simp only [Visit.wrongTag?, htag, Option.filter_some, List.dropLast_concat, habove,
      Tag.isLower]
    by_cases hdepth : depth = 0 <;> simp [hdepth]
  rw [due_singleton, hwrong, offenses]
  by_cases hdepth : depth = 0
  · by_cases hlower : tag.name.value = tag.name.value.lower
    · rw [if_neg fun h => h.2 hlower, if_pos hdepth, if_pos hlower]
      rfl
    · rw [if_pos ⟨hdepth, hlower⟩, if_pos hdepth, if_neg hlower]
      rfl
  · rw [if_neg fun h => hdepth h.1, if_neg hdepth]
    rfl

/-! ## One node -/

theorem offensesBelow_of_tag?_eq_none (h : node.tag? = none) :
    offensesBelow depth (node :: nodes) = offensesBelow depth nodes := by
  cases node with
  | branch frame location errors children =>
    cases frame with
    | document | element => rfl
    | openTag name =>
      cases name with
      | none => rfl
      | some name => cases h
  | leaf shape location errors =>
    cases shape with
    | erb | text | literal | plain => rfl
    | closeTag name =>
      cases name with
      | none => rfl
      | some name => cases h

/-- An opening tag is checked, and then counted. -/
theorem offensesBelow_openTag (hkind : node.kind = .openTag) (hcount : Counts depth ancestors)
    (element : Node) :
    offensesBelow depth (node :: nodes) = due [⟨node, ancestors ++ [element]⟩] ++
      offensesBelow (if node.isSvgTag then depth + 1 else depth) nodes := by
  rcases htag : node.tag? with _ | tag
  · rw [offensesBelow_of_tag?_eq_none htag, due_of_tag?_eq_none htag, Node.isSvgTag, htag]
    rfl
  · rw [due_of_tag? htag hcount, Node.isSvgTag, htag]
    obtain ⟨name, location, errors, children, rfl, rfl⟩ | ⟨name, location, errors, rfl, rfl⟩ :=
      Node.exists_of_tag? htag
    · rfl
    · cases hkind

/-- A closing tag is counted, and then checked. -/
theorem offensesBelow_closeTag (hkind : node.kind = .closeTag) (hcount : Counts depth ancestors)
    (element : Node) :
    offensesBelow (if node.isSvgTag then depth + 1 else depth) (node :: nodes) =
      due [⟨node, ancestors ++ [element]⟩] ++ offensesBelow depth nodes := by
  rcases htag : node.tag? with _ | tag
  · rw [offensesBelow_of_tag?_eq_none htag, due_of_tag?_eq_none htag, Node.isSvgTag, htag]
    rfl
  · rw [due_of_tag? htag hcount, Node.isSvgTag, htag]
    obtain ⟨name, location, errors, children, rfl, rfl⟩ | ⟨name, location, errors, rfl, rfl⟩ :=
      Node.exists_of_tag? htag
    · cases hkind
    · cases hsvg : isSvg name <;> simp [offensesBelow, hsvg, Lexeme.tagOpening]

/-! ## Whole trees -/

/-- **Reading a node, below some ancestors, comes to what is due there, and leaves the
count as it was.** -/
def Reads (depth : Nat) (ancestors : List Node) (node : Node) : Prop :=
  ∀ rest, offensesBelow depth (node.preorder ++ rest) =
    due (node.placesBelow ancestors) ++ offensesBelow depth rest

/-- One tree after the other leaves the count as it was. -/
theorem offensesBelow_preorders (h : ∀ node ∈ nodes, Reads depth ancestors node)
    (rest : List Node) :
    offensesBelow depth (Node.preorders nodes ++ rest) =
      due (Node.placesOfBelow ancestors nodes) ++ offensesBelow depth rest := by
  induction nodes with
  | nil => rfl
  | cons node nodes ih =>
    obtain ⟨hnode, hnodes⟩ := List.forall_mem_cons.1 h
    rw [Node.preorders, Node.placesOfBelow, due_append, List.append_assoc, List.append_assoc,
      hnode, ih hnodes]

/-- The opening tag of an element, with what is inside the tag. -/
theorem offensesBelow_preorders_openTag {openTag : Option Node} {element : Node}
    (hcount : Counts depth ancestors) (hkind : ∀ tag ∈ openTag, tag.kind = .openTag)
    (hsvg : element.isSvg = openTag.any Node.isSvgTag)
    (hbelow : ∀ tag ∈ openTag, ∀ child ∈ tag.children, ∀ depth ancestors,
      Counts depth ancestors → Reads depth ancestors child) (rest : List Node) :
    offensesBelow depth (Node.preorders openTag.toList ++ rest) =
      due (Node.placesOfBelow (ancestors ++ [element]) openTag.toList) ++
        offensesBelow (if element.isSvg then depth + 1 else depth) rest := by
  cases openTag with
  | none => simp [Node.preorders, Node.placesOfBelow, due, hsvg]
  | some tag =>
    -- What is inside the tag is below the element, too, and the tag itself is no element.
    have hinside := (hcount.concat element).concat tag
    rw [Node.isSvg_of_kind_eq_openTag (hkind tag rfl), if_neg Bool.false_ne_true] at hinside
    have hplaces : Node.placesOfBelow (ancestors ++ [element]) [tag] =
        ⟨tag, ancestors ++ [element]⟩ ::
          Node.placesOfBelow (ancestors ++ [element] ++ [tag]) tag.children := by
      rw [Node.placesOfBelow_eq_flatMap, List.flatMap_singleton, Node.placesBelow_eq]
    rw [hsvg, Option.any_some] at hinside ⊢
    rw [Option.toList_some, Node.preorders_singleton, Node.preorder_eq, List.cons_append, hplaces,
      due_cons, List.append_assoc, offensesBelow_openTag (hkind tag rfl) hcount element,
      offensesBelow_preorders fun child hchild => hbelow tag rfl child hchild _ _ hinside]

/-- The closing tag of an element. -/
theorem offensesBelow_preorders_closeTag {closeTag : Option Node} {element : Node}
    (hcount : Counts depth ancestors) (hkind : ∀ tag ∈ closeTag, tag.kind = .closeTag)
    (hsvg : element.isSvg = closeTag.any Node.isSvgTag) (rest : List Node) :
    offensesBelow (if element.isSvg then depth + 1 else depth)
        (Node.preorders closeTag.toList ++ rest) =
      due (Node.placesOfBelow (ancestors ++ [element]) closeTag.toList) ++
        offensesBelow depth rest := by
  cases closeTag with
  | none => simp [Node.preorders, Node.placesOfBelow, due, hsvg]
  | some tag =>
    have hnone : tag.children = [] := Node.children_of_kind_eq_closeTag (hkind tag rfl)
    rw [Option.toList_some, Node.preorders_singleton, Node.preorder_eq, hnone,
      Node.placesOfBelow_eq_flatMap, List.flatMap_singleton, Node.placesBelow_eq, hnone, hsvg,
      Option.any_some]
    exact offensesBelow_closeTag (hkind tag rfl) hcount element

/-- **Every well tagged node leaves the count as it was**, and comes to what is due. -/
theorem reads_of_wellTagged (h : node.WellTagged) (hcount : Counts depth ancestors) :
    Reads depth ancestors node := by
  induction h generalizing depth ancestors with
  | @leaf shape location errors hshape =>
    intro rest
    have htag : (Node.leaf shape location errors).tag? = none :=
      (Node.WellTagged.leaf hshape).tag?_eq_none
    rw [Node.preorder, Node.placesBelow, due_of_tag?_eq_none htag, List.singleton_append,
      offensesBelow_of_tag?_eq_none htag, List.nil_append]
  | @document location errors children hchildren ih =>
    intro rest
    have hbelow := hcount.concat (.branch .document location errors children)
    rw [Node.preorder_eq, List.cons_append, offensesBelow_of_tag?_eq_none rfl, Node.placesBelow_eq,
      due_cons, due_of_tag?_eq_none rfl, List.nil_append]
    exact offensesBelow_preorders (fun child hchild => ih child hchild hbelow) rest
  | @element location errors openTag closeTag body hopen _ hbody hclose hsvg ihinside ihbody =>
    intro rest
    generalize helement : Node.element location errors openTag body closeTag = element
    have hchildren : element.children = openTag.toList ++ body ++ closeTag.toList := by
      rw [← helement]
      rfl
    have htag : element.tag? = none := by
      rw [← helement]
      rfl
    have hown : element.isSvg = openTag.any Node.isSvgTag := by
      rw [← helement, Node.isSvg_element hbody hsvg]
    have hbelow := hcount.concat element
    rw [Node.preorder_eq, List.cons_append, offensesBelow_of_tag?_eq_none htag,
      Node.placesBelow_eq, due_cons, due_of_tag?_eq_none htag, hchildren, List.nil_append,
      Node.placesOfBelow_eq_flatMap, List.flatMap_append, List.flatMap_append, due_append,
      due_append, Node.preorders_append, Node.preorders_append]
    simp only [← Node.placesOfBelow_eq_flatMap, List.append_assoc]
    -- The opening tag adds what the closing tag takes away; between them, nothing is left over.
    rw [offensesBelow_preorders_openTag hcount hopen hown
        fun tag htag child hchild _ _ hcount => ihinside tag htag child hchild hcount,
      offensesBelow_preorders fun child hchild => ihbody child hchild hbelow,
      offensesBelow_preorders_closeTag hcount hclose (hown.trans hsvg)]

end Tags

/-! ## What stands around a node -/

/-- What stands around a node, in the node above it. -/
structure Layer where
  frame : Frame
  location : Location
  errors : List ParseError
  before : List Node
  behind : List Node

/-- A node with some layers around it, the outermost first. -/
def Node.within (node : Node) (layers : List Layer) : Node :=
  layers.foldr (fun layer inner =>
    .branch layer.frame layer.location layer.errors (layer.before ++ inner :: layer.behind)) node

namespace Tags

variable {node : Node}

/-- Well tagged nodes are checked one by one. -/
theorem offensesBelow_preorder_append (h : node.WellTagged) (depth : Nat) (rest : List Node) :
    offensesBelow depth (node.preorder ++ rest) =
      offensesBelow depth node.preorder ++ offensesBelow depth rest := by
  -- Any ancestors will do: only the count is read.
  obtain ⟨ancestors, hcount⟩ := exists_counts depth
  have hreads := reads_of_wellTagged h hcount
  have hown := hreads []
  rw [List.append_nil, offensesBelow, List.append_nil] at hown
  rw [hreads, hown]

/-- What a node comes to, and what it leaves to be counted, is settled by its tag. -/
theorem exists_offensesBelow_cons (depth : Nat) (tag? : Option Tag) :
    ∃ own after, ∀ node, node.tag? = tag? → ∀ rest,
      offensesBelow depth (node :: rest) = own ++ offensesBelow after rest := by
  match tag? with
  | none => exact ⟨[], depth, fun node h rest => offensesBelow_of_tag?_eq_none h⟩
  | some ⟨false, name⟩ =>
    refine ⟨if depth = 0 then offenses "Opening" ['<'] name else [],
      if isSvg name then depth + 1 else depth, fun node h rest => ?_⟩
    obtain ⟨name, location, errors, children, hsame, rfl⟩ | ⟨name, location, errors, hsame, rfl⟩ :=
      Node.exists_of_tag? h <;> cases hsame
    rfl
  | some ⟨true, name⟩ =>
    let after := if isSvg name then depth - 1 else depth
    refine ⟨if after = 0 then offenses "Closing" ['<', '/'] name else [], after,
      fun node h rest => ?_⟩
    obtain ⟨name, location, errors, children, hsame, rfl⟩ | ⟨name, location, errors, hsame, rfl⟩ :=
      Node.exists_of_tag? h <;> cases hsame
    rfl

theorem exists_offensesBelow_append (depth : Nat) (nodes : List Node) :
    ∃ own after, ∀ rest, offensesBelow depth (nodes ++ rest) = own ++ offensesBelow after rest := by
  induction nodes generalizing depth with
  | nil => exact ⟨[], depth, fun rest => rfl⟩
  | cons node nodes ih =>
    obtain ⟨first, middle, hfirst⟩ := exists_offensesBelow_cons depth node.tag?
    obtain ⟨second, after, hsecond⟩ := ih middle
    refine ⟨first ++ second, after, fun rest => ?_⟩
    rw [List.cons_append, hfirst node rfl, hsecond, List.append_assoc]

/-- What a node has below it is no part of its tag. -/
theorem tag?_branch (frame : Frame) (location : Location) (errors : List ParseError)
    (children : List Node) :
    (Node.branch frame location errors children).tag? =
      (Node.branch frame location errors []).tag? := by
  cases frame with
  | document | element => rfl
  | openTag name => cases name <;> rfl

/-- **What is found around a well tagged node does not depend on the node.** -/
theorem exists_offensesBelow_within (layers : List Layer) (depth : Nat) (rest : List Node) :
    ∃ before inside behind, ∀ node : Node, node.WellTagged →
      offensesBelow depth ((node.within layers).preorder ++ rest) =
        before ++ offensesBelow inside node.preorder ++ behind := by
  induction layers generalizing depth rest with
  | nil => exact ⟨[], depth, _, fun node h => offensesBelow_preorder_append h depth rest⟩
  | cons layer layers ih =>
    obtain ⟨frame, location, errors, former, later⟩ := layer
    obtain ⟨own, below, hown⟩ :=
      exists_offensesBelow_cons depth (Node.branch frame location errors []).tag?
    obtain ⟨first, middle, hfirst⟩ := exists_offensesBelow_append below (Node.preorders former)
    obtain ⟨before, inside, behind, hinner⟩ := ih middle (Node.preorders later ++ rest)
    refine ⟨own ++ first ++ before, inside, behind, fun node h => ?_⟩
    change offensesBelow depth ((Node.branch frame location errors
      (former ++ node.within layers :: later)).preorder ++ rest) = _
    rw [Node.preorder, Node.preorders_append, Node.preorders, List.cons_append,
      hown _ (tag?_branch ..), List.append_assoc, hfirst, List.append_assoc, hinner node h]
    simp only [List.append_assoc]

/-! ## The rule -/

/-- **The rule about the case of tag names is exact outside `svg`.** In a well tagged
tree it comes to one offense for each tag, in the order of reading, whose name has
capitals and whose own element, the last of its ancestors, is below no `svg` element.
What it finds around a well tagged node, an `svg` element say, stays the same whatever
well tagged node is put there. -/
theorem lowercase_exact {d : Document} {root : Node} (hroot : d.root = some root)
    (h : root.WellTagged) (context : Context) :
    lowercase.check (.document d) context =
        .ok ((root.places.filterMap Visit.wrongTag?).map Tag.offense) ∧
    (∀ place ∈ root.places, place.node.tag? ≠ none → ∃ (above : List Node) (own : Node),
      place.ancestors = above ++ [own] ∧ own.kind = .element ∧ place.node ∈ own.children) ∧
    ∀ layers : List Layer, ∃ before inside behind, ∀ node : Node, node.WellTagged →
      ∀ source errors,
        lowercase.check (.document ⟨source, some (node.within layers), errors⟩) context =
          .ok (before ++ offensesBelow inside node.preorder ++ behind) := by
  refine ⟨?_, fun place hplace htag => h.exists_element hplace htag, fun layers => ?_⟩
  · have hcount : Counts 0 [] := by simp [Counts]
    have hreads := reads_of_wellTagged h hcount []
    have hcheck : lowercase.check (.document d) context =
        .ok (d.root.elim [] fun root => offensesBelow 0 root.preorder) := by
      cases hd : d.root <;> simp [lowercase, Rule.onDocument, hd]
    rw [List.append_nil, offensesBelow, List.append_nil] at hreads
    rw [hcheck, hroot, Option.elim_some, hreads]
    rfl
  · obtain ⟨before, inside, behind, hwithin⟩ := exists_offensesBelow_within layers 0 []
    refine ⟨before, inside, behind, fun node hnode source errors => ?_⟩
    rw [← hwithin node hnode, List.append_nil]
    rfl

/-- Capitals in an `svg` element, in an element inside its opening tag, and in an `svg`
element below it, are right. Those of the outer `svg` tags themselves, and behind them,
are not. -/
theorem lowercase_exact_nested :
    let token (name : String) : Token := ⟨name.toList, .fallback⟩
    let element (name : String) (inside body : List Node) : Node :=
      .element .fallback [] (some (.branch (.openTag (some (token name))) .fallback [] inside)) body
        (some (.leaf (.closeTag (some (token name))) .fallback []))
    let root : Node := .branch .document .fallback []
      [element "SVG" [element "A" [] []] [element "svg" [] [], element "G" [] []],
        element "Div" [] []]
    root.WellTagged ∧
      lowercase.check (.document ⟨[], some root, []⟩) {} =
        .ok ([⟨false, token "SVG"⟩, ⟨true, token "SVG"⟩, ⟨false, token "Div"⟩,
          ⟨true, token "Div"⟩].map Tag.offense) := by
  intro token element root
  have helement : ∀ name (inside body : List Node), (∀ child ∈ inside, child.WellTagged) →
      (∀ child ∈ body, child.WellTagged) → (element name inside body).WellTagged := by
    intro name inside body hinside hbody
    refine .element ?_ ?_ hbody ?_ rfl
    · rintro _ ⟨⟩; rfl
    · rintro _ ⟨⟩; exact hinside
    · rintro _ ⟨⟩; rfl
  have hroot : root.WellTagged := by
    refine .document ?_
    simp [helement]
  refine ⟨hroot, ?_⟩
  rw [(lowercase_exact rfl hroot {}).1]
  rfl

end Tags

end TemplateLint
