import TemplateLint.Template.Node
/-!
# Templates — walks

Two ways to go over a tree in the order of reading. A tour (`Node.tour`)
knows the ancestors of each node it enters, does not go below a node that
is pruned, and ends at the first node that a stop condition holds of. A
worklist (`Node.listing`) keeps the nodes still to be read on a stack.
-/

namespace TemplateLint

/-- A node entered on a tour, with its ancestors from the root on. -/
structure Visit where
  node : Node
  ancestors : List Node
  deriving Repr

/-- What a tour saw and left: the nodes it entered, in order, those whose
children it skipped, the node it stopped at, and the ancestors that stood
on its stack when it came back. -/
structure Tour where
  visits : List Visit
  skipped : List Visit
  trigger : Option Node
  ancestors : List Node
  deriving Repr

namespace Node

variable (stop prune : Node → Bool)

mutual

/-- The tour of a tree, below the ancestors on the stack. The root of the
tree stands on the stack while its children are toured. -/
def tourBelow (ancestors : List Node) : Node → Tour
  | .leaf shape location errors =>
    let visit : Visit := ⟨.leaf shape location errors, ancestors⟩
    if stop visit.node then ⟨[visit], [], some visit.node, ancestors⟩
    else ⟨[visit], if prune visit.node then [visit] else [], none, ancestors⟩
  | .branch frame location errors children =>
    let visit : Visit := ⟨.branch frame location errors children, ancestors⟩
    if stop visit.node then ⟨[visit], [], some visit.node, ancestors⟩
    else if prune visit.node then ⟨[visit], [visit], none, ancestors⟩
    else
      let below := toursBelow (ancestors ++ [visit.node]) children
      ⟨visit :: below.visits, below.skipped, below.trigger, below.ancestors.dropLast⟩

/-- The tour of some trees, one after the other, below the ancestors on
the stack. Each starts with the stack that the one before left. -/
def toursBelow (ancestors : List Node) : List Node → Tour
  | [] => ⟨[], [], none, ancestors⟩
  | node :: nodes =>
    let first := tourBelow ancestors node
    match first.trigger with
    | some _ => first
    | none =>
      let rest := toursBelow first.ancestors nodes
      ⟨first.visits ++ rest.visits, first.skipped ++ rest.skipped, rest.trigger, rest.ancestors⟩

end

/-- The tour of a tree from its root. -/
def tour (root : Node) : Tour :=
  tourBelow stop prune [] root

/-- The tour of some trees from their roots. -/
def tours (roots : List Node) : Tour :=
  toursBelow stop prune [] roots

end Node

/-- The pruned nodes a tour entered before it stopped. -/
def Tour.pruned (tour : Tour) (stop prune : Node → Bool) : List Visit :=
  tour.visits.filter fun visit => prune visit.node && !stop visit.node

/-- The nodes at and below those of a stack, read off it from the top:
each time the children of the top node take its place. -/
def Node.listing : List Node → List Node
  | [] => []
  | node :: stack => node :: Node.listing (node.children ++ stack)
termination_by stack => Node.sizes stack
decreasing_by
  rw [Node.sizes_append, Node.sizes, Node.size_eq]
  omega

end TemplateLint
