import Mathlib.Data.List.Basic
import TemplateLint.Template.Walk
/-!
# Trees — two walks, one order

The worklist and the tour are compared with the pre-order of a tree. The
worklist reads exactly the pre-order of what is on its stack. A tour goes along
the nodes of the pre-order that no pruned node stands above, each with its path
from the root, and stops at the first that its stop condition holds of
(`Node.tour_follows`). That the stack of ancestors is restored is part of the
induction: the trees behind a tree are toured with the stack it left.
-/

namespace TemplateLint

namespace Node

/-! ## Pre-order -/

/-- A node comes first, and then what is below it. -/
theorem preorder_eq (node : Node) : node.preorder = node :: preorders node.children := by
  cases node <;> simp [preorder, preorders, children]

theorem preorders_append (xs ys : List Node) :
    preorders (xs ++ ys) = preorders xs ++ preorders ys := by
  induction xs with
  | nil => simp [preorders]
  | cons x xs ih => simp [preorders, ih]

theorem preorders_eq_flatMap (nodes : List Node) : preorders nodes = nodes.flatMap preorder := by
  induction nodes with
  | nil => rfl
  | cons node nodes ih => rw [preorders, ih, List.flatMap_cons]

theorem preorders_singleton (node : Node) : preorders [node] = node.preorder := by
  simp [preorders]

/-- **The worklist reads the pre-order.** Putting the children of a node in
front of the rest of the stack is what pre-order does. -/
theorem listing_eq_preorders (stack : List Node) : listing stack = preorders stack := by
  fun_induction listing stack with
  | case1 => rfl
  | case2 node stack ih => rw [ih, preorders_append, preorders, preorder_eq, List.cons_append]

/-! ## Places

A place is a node with its ancestors, from the root on. -/

mutual

/-- The places of a tree in the order of reading, below some ancestors. -/
def placesBelow (ancestors : List Node) : Node → List Visit
  | .leaf shape location errors => [⟨.leaf shape location errors, ancestors⟩]
  | .branch frame location errors children =>
    let node := Node.branch frame location errors children
    ⟨node, ancestors⟩ :: placesOfBelow (ancestors ++ [node]) children

/-- The places of some trees, one after the other, below some ancestors. -/
def placesOfBelow (ancestors : List Node) : List Node → List Visit
  | [] => []
  | node :: nodes => placesBelow ancestors node ++ placesOfBelow ancestors nodes

end

/-- The places of a tree, in the order of reading. -/
def places (root : Node) : List Visit :=
  placesBelow [] root

/-- The places of a tree that no pruned node stands above. -/
def outline (prune : Node → Bool) (root : Node) : List Visit :=
  root.places.filter fun place => !place.ancestors.any prune

/-- Some nodes lead from a root down to a node: the root is the first of them,
each is the parent of the next, and the last is the parent of the node. -/
def IsPath : Node → List Node → Node → Prop
  | root, [], node => node = root
  | root, ancestor :: path, node =>
    ancestor = root ∧ ∃ child ∈ root.children, IsPath child path node

/-- Every node of a path has a child. -/
theorem IsPath.exists_child {root node ancestor : Node} {path : List Node}
    (h : IsPath root path node) (hmem : ancestor ∈ path) : ∃ child, child ∈ ancestor.children := by
  induction path generalizing root with
  | nil => cases hmem
  | cons first path ih =>
    obtain ⟨rfl, child, hchild, hpath⟩ := h
    rcases List.mem_cons.1 hmem with rfl | hmem
    · exact ⟨child, hchild⟩
    · exact ih hpath hmem

/-- **The order of reading leaves no node out**: where a path leads, there is a node
of it. -/
theorem IsPath.mem_preorder {root node : Node} {path : List Node} (h : IsPath root path node) :
    node ∈ root.preorder := by
  induction path generalizing root with
  | nil =>
    rw [IsPath] at h
    rw [h, preorder_eq]
    exact .head _
  | cons ancestor path ih =>
    obtain ⟨-, child, hchild, hpath⟩ := h
    rw [preorder_eq, preorders_eq_flatMap]
    exact .tail _ (List.mem_flatMap.2 ⟨child, hchild, ih hpath⟩)

theorem placesOfBelow_eq_flatMap (ancestors nodes : List Node) :
    placesOfBelow ancestors nodes = nodes.flatMap (placesBelow ancestors) := by
  induction nodes with
  | nil => rfl
  | cons node nodes ih => rw [placesOfBelow, ih, List.flatMap_cons]

/-- A node comes first, and then the places below it. -/
theorem placesBelow_eq (ancestors : List Node) (node : Node) :
    placesBelow ancestors node =
      ⟨node, ancestors⟩ :: placesOfBelow (ancestors ++ [node]) node.children := by
  cases node <;> simp [placesBelow, placesOfBelow, children]

theorem mem_placesBelow_iff {ancestors : List Node} {node : Node} {place : Visit} :
    place ∈ placesBelow ancestors node ↔ place = ⟨node, ancestors⟩ ∨
      ∃ child ∈ node.children, place ∈ placesBelow (ancestors ++ [node]) child := by
  rw [placesBelow_eq, List.mem_cons, placesOfBelow_eq_flatMap, List.mem_flatMap]

mutual

/-- **The places of a tree are its nodes**, in the order of reading. -/
theorem map_node_placesBelow (ancestors : List Node) (node : Node) :
    (placesBelow ancestors node).map (·.node) = node.preorder := by
  cases node with
  | leaf shape location errors => rfl
  | branch frame location errors children =>
    rw [placesBelow_eq, preorder_eq, List.map_cons]
    exact congrArg _ (map_node_placesOfBelow _ children)

/-- The same, for trees one after the other. -/
theorem map_node_placesOfBelow (ancestors : List Node) (nodes : List Node) :
    (placesOfBelow ancestors nodes).map (·.node) = preorders nodes := by
  cases nodes with
  | nil => rfl
  | cons node nodes =>
    rw [placesOfBelow, List.map_append, map_node_placesBelow _ node,
      map_node_placesOfBelow _ nodes, preorders]

end

theorem map_node_places (root : Node) : root.places.map (·.node) = root.preorder :=
  map_node_placesBelow [] root

mutual

/-- **The ancestors of a place are a path to it.** -/
theorem exists_isPath_of_mem_placesBelow {ancestors : List Node} {node : Node} {place : Visit}
    (h : place ∈ placesBelow ancestors node) :
    ∃ path, place.ancestors = ancestors ++ path ∧ IsPath node path place.node := by
  cases node with
  | leaf shape location errors =>
    cases List.mem_singleton.1 h
    exact ⟨[], (List.append_nil _).symm, rfl⟩
  | branch frame location errors children =>
    rw [placesBelow_eq] at h
    rcases List.mem_cons.1 h with rfl | h
    · exact ⟨[], (List.append_nil _).symm, rfl⟩
    · obtain ⟨child, hchild, path, hpath, hdown⟩ := exists_isPath_of_mem_placesOfBelow h
      refine ⟨.branch frame location errors children :: path, ?_, rfl, child, hchild, hdown⟩
      rw [hpath, List.append_assoc, List.singleton_append]

/-- The same, for trees one after the other. -/
theorem exists_isPath_of_mem_placesOfBelow {ancestors nodes : List Node} {place : Visit}
    (h : place ∈ placesOfBelow ancestors nodes) :
    ∃ node ∈ nodes, ∃ path, place.ancestors = ancestors ++ path ∧ IsPath node path place.node := by
  cases nodes with
  | nil => cases h
  | cons node nodes =>
    rw [placesOfBelow] at h
    rcases List.mem_append.1 h with h | h
    · exact ⟨node, .head _, exists_isPath_of_mem_placesBelow h⟩
    · obtain ⟨node', hnode', hpath⟩ := exists_isPath_of_mem_placesOfBelow h
      exact ⟨node', .tail _ hnode', hpath⟩

end

theorem isPath_of_mem_places {root : Node} {place : Visit} (h : place ∈ root.places) :
    IsPath root place.ancestors place.node := by
  obtain ⟨path, hpath, hdown⟩ := exists_isPath_of_mem_placesBelow h
  rw [hpath]
  exact hdown

/-- Nothing is left out where nothing is pruned. -/
theorem outline_of_forall {prune : Node → Bool} {root : Node}
    (h : ∀ place ∈ root.places, ∀ ancestor ∈ place.ancestors, prune ancestor = false) :
    root.outline prune = root.places := by
  refine List.filter_eq_self.2 fun place hplace => ?_
  simpa using h place hplace

end Node

/-! ## Tours -/

/-- **A tour goes along some places**, and leaves the stack as it found it. -/
inductive Tour.Follows (stop prune : Node → Bool) (ancestors : List Node) :
    List Visit → Tour → Prop where
  /-- No node on the way stops it. It enters them all, and skips what is below the
  pruned ones. -/
  | through {path : List Visit} :
      (∀ place ∈ path, stop place.node = false) →
      Follows stop prune ancestors path
        ⟨path, path.filter fun place => prune place.node, none, ancestors⟩
  /-- The first node that stops it is the last one it enters. It skips what is below
  the pruned ones before. -/
  | stopped {before behind : List Visit} {place : Visit} :
      (∀ place ∈ before, stop place.node = false) → stop place.node = true →
      Follows stop prune ancestors (before ++ place :: behind)
        ⟨before ++ [place], before.filter fun place => prune place.node, some place.node,
          ancestors⟩

namespace Tour.Follows

variable {stop prune : Node → Bool} {ancestors : List Node} {path path' : List Visit}
  {tour tour' : Tour} {place : Visit}

theorem nil : Follows stop prune ancestors [] ⟨[], [], none, ancestors⟩ :=
  .through nofun

/-- A node that stops the tour is the last one entered. -/
theorem cons_of_stop (hstop : stop place.node = true) :
    Follows stop prune ancestors (place :: path) ⟨[place], [], some place.node, ancestors⟩ := by
  have h : Follows stop prune ancestors ([] ++ place :: path) _ := .stopped nofun hstop
  exact h

/-- A node that does not stop it is entered, and the tour goes on. -/
theorem cons (hstop : stop place.node = false) (h : Follows stop prune ancestors path tour) :
    Follows stop prune ancestors (place :: path)
      ⟨place :: tour.visits, (if prune place.node then [place] else []) ++ tour.skipped,
        tour.trigger, tour.ancestors⟩ := by
  have hskipped : ∀ places : List Visit,
      (if prune place.node then [place] else []) ++ places.filter (fun p => prune p.node) =
        (place :: places).filter fun p => prune p.node := by
    intro places
    rw [List.filter_cons]
    split <;> rfl
  cases h with
  | through hgo =>
    rw [hskipped]
    exact .through (List.forall_mem_cons.2 ⟨hstop, hgo⟩)
  | stopped hgo hstops =>
    rw [hskipped]
    exact .stopped (List.forall_mem_cons.2 ⟨hstop, hgo⟩) hstops

/-- A node that was put on the stack is taken off again. -/
theorem pop {node : Node} (h : Follows stop prune (ancestors ++ [node]) path tour) :
    Follows stop prune ancestors path
      ⟨tour.visits, tour.skipped, tour.trigger, tour.ancestors.dropLast⟩ := by
  cases h with
  | through hgo =>
    rw [List.dropLast_concat]
    exact .through hgo
  | stopped hgo hstops =>
    rw [List.dropLast_concat]
    exact .stopped hgo hstops

/-- A tour that has stopped goes no further. -/
theorem append_of_trigger {node : Node} (h : Follows stop prune ancestors path tour)
    (htrigger : tour.trigger = some node) :
    Follows stop prune ancestors (path ++ path') tour := by
  cases h with
  | through hgo => cases htrigger
  | stopped hgo hstops =>
    rw [List.append_assoc]
    exact .stopped hgo hstops

/-- A tour that has not stopped is followed by the next. -/
theorem append (h : Follows stop prune ancestors path tour) (htrigger : tour.trigger = none)
    (h' : Follows stop prune ancestors path' tour') :
    Follows stop prune ancestors (path ++ path')
      ⟨tour.visits ++ tour'.visits, tour.skipped ++ tour'.skipped, tour'.trigger,
        tour'.ancestors⟩ := by
  cases h with
  | stopped hgo hstops => cases htrigger
  | through hgo =>
    cases h' with
    | through hgo' =>
      rw [← List.filter_append]
      exact .through (List.forall_mem_append.2 ⟨hgo, hgo'⟩)
    | stopped hgo' hstops =>
      rw [← List.filter_append, ← List.append_assoc, ← List.append_assoc]
      exact .stopped (List.forall_mem_append.2 ⟨hgo, hgo'⟩) hstops

theorem ancestors_eq (h : Follows stop prune ancestors path tour) : tour.ancestors = ancestors := by
  cases h with
  | through => rfl
  | stopped => rfl

/-- The tour stops at the first node that its stop condition holds of. -/
theorem trigger_eq (h : Follows stop prune ancestors path tour) :
    tour.trigger = (path.map (·.node)).find? stop := by
  cases h with
  | through hgo =>
    refine (List.find?_eq_none.2 ?_).symm
    simpa using hgo
  | @stopped before behind place hgo hstops =>
    have hbefore : (before.map (·.node)).find? stop = none := by
      simpa using hgo
    rw [List.map_append, List.find?_append, hbefore, Option.none_or, List.map_cons,
      List.find?_cons_of_pos hstops]

/-- What it skips is below the pruned nodes it enters before it stops. -/
theorem skipped_eq (h : Follows stop prune ancestors path tour) :
    tour.skipped = tour.pruned stop prune := by
  have hkept : ∀ places : List Visit, (∀ place ∈ places, stop place.node = false) →
      places.filter (fun place => prune place.node) =
        places.filter fun place => prune place.node && !stop place.node := by
    intro places hgo
    exact List.filter_congr fun place hplace => by simp [hgo place hplace]
  cases h with
  | through hgo => exact hkept _ hgo
  | stopped hgo hstops =>
    rw [pruned, List.filter_append, ← hkept _ hgo]
    simp [hstops]

/-- Without a stop, what is below all the pruned nodes is skipped. -/
theorem skipped_of_forall (h : Follows stop prune ancestors path tour)
    (hgo : ∀ place ∈ path, stop place.node = false) :
    tour.skipped = path.filter fun place => prune place.node := by
  cases h with
  | through => rfl
  | @stopped before behind place _ hstops =>
    rw [hgo place (by simp)] at hstops
    cases hstops

end Tour.Follows

namespace Node

variable {stop prune : Node → Bool}

/-- What becomes of a node on a tour. -/
theorem tourBelow_eq (ancestors : List Node) (node : Node) :
    tourBelow stop prune ancestors node =
      if stop node then ⟨[⟨node, ancestors⟩], [], some node, ancestors⟩
      else if prune node then ⟨[⟨node, ancestors⟩], [⟨node, ancestors⟩], none, ancestors⟩
      else
        let below := toursBelow stop prune (ancestors ++ [node]) node.children
        ⟨⟨node, ancestors⟩ :: below.visits, below.skipped, below.trigger,
          below.ancestors.dropLast⟩ := by
  cases node with
  | leaf shape location errors =>
    by_cases hprune : prune (.leaf shape location errors) <;>
      simp [tourBelow, toursBelow, children, hprune]
  | branch frame location errors children => rw [tourBelow]; rfl

/-- Below a pruned node everything is left out. -/
theorem filter_placesOfBelow_eq_nil {ancestors nodes : List Node} {node : Node}
    (hprune : prune node) :
    (placesOfBelow (ancestors ++ [node]) nodes).filter (fun place => !place.ancestors.any prune) =
      [] := by
  refine List.filter_eq_nil_iff.2 fun place hplace => ?_
  obtain ⟨-, -, path, hpath, -⟩ := exists_isPath_of_mem_placesOfBelow hplace
  simp [hpath, hprune]

mutual

/-- **The tour of a tree goes along its outline**, below ancestors none of which
is pruned. -/
theorem follows_tourBelow {ancestors : List Node} (hkept : ancestors.any prune = false)
    (node : Node) :
    (tourBelow stop prune ancestors node).Follows stop prune ancestors
      ((placesBelow ancestors node).filter fun place => !place.ancestors.any prune) := by
  have hplaces : (placesBelow ancestors node).filter (fun place => !place.ancestors.any prune) =
      ⟨node, ancestors⟩ :: (placesOfBelow (ancestors ++ [node]) node.children).filter
        fun place => !place.ancestors.any prune := by
    rw [placesBelow_eq, List.filter_cons_of_pos (by simp [hkept])]
  rw [hplaces, tourBelow_eq]
  by_cases hstop : stop node
  · rw [if_pos hstop]
    exact .cons_of_stop hstop
  · rw [if_neg hstop]
    by_cases hprune : prune node
    · have h : Tour.Follows stop prune ancestors [⟨node, ancestors⟩] _ :=
        Tour.Follows.nil.cons (by simpa using hstop)
      rw [if_pos hprune, filter_placesOfBelow_eq_nil hprune]
      simpa [hprune] using h
    · have hkept' : (ancestors ++ [node]).any prune = false := by
        simp [List.any_append, hkept, hprune]
      have hbelow : (toursBelow stop prune (ancestors ++ [node]) node.children).Follows stop prune
          (ancestors ++ [node]) ((placesOfBelow (ancestors ++ [node]) node.children).filter
            fun place => !place.ancestors.any prune) := by
        cases node with
        | leaf shape location errors => exact .nil
        | branch frame location errors children => exact follows_toursBelow hkept' children
      have h : Tour.Follows stop prune ancestors (⟨node, ancestors⟩ :: _) _ :=
        hbelow.pop.cons (by simpa using hstop)
      rw [if_neg hprune]
      simpa [hprune] using h

/-- The same, for trees one after the other. -/
theorem follows_toursBelow {ancestors : List Node} (hkept : ancestors.any prune = false)
    (nodes : List Node) :
    (toursBelow stop prune ancestors nodes).Follows stop prune ancestors
      ((placesOfBelow ancestors nodes).filter fun place => !place.ancestors.any prune) := by
  cases nodes with
  | nil => exact .nil
  | cons node nodes =>
    have first := follows_tourBelow hkept node
    have rest := follows_toursBelow hkept nodes
    rw [placesOfBelow, List.filter_append, toursBelow]
    split
    · rename_i trigger htrigger
      exact first.append_of_trigger htrigger
    · rename_i htrigger
      rw [first.ancestors_eq]
      exact first.append htrigger rest

end

theorem follows_tour (root : Node) :
    (root.tour stop prune).Follows stop prune [] (root.outline prune) :=
  follows_tourBelow rfl root

theorem follows_tours (roots : List Node) :
    (tours stop prune roots).Follows stop prune [] (roots.flatMap (outline prune)) := by
  have h : (toursBelow stop prune [] roots).Follows stop prune [] _ := follows_toursBelow rfl roots
  rwa [placesOfBelow_eq_flatMap, List.filter_flatMap] at h

/-- **A tour goes along the outline of a tree.** It enters the places that no pruned
node stands above, in order, up to the first that stops it, each with its path from
the root, and skips what is below the pruned ones among them. Its stack is empty in
the end. A tour of several trees goes along one outline after the other. The places
of a tree are its nodes in the order of reading, and their ancestors lead to them. -/
theorem tour_follows (stop prune : Node → Bool) :
    (∀ root : Node, (root.tour stop prune).Follows stop prune [] (root.outline prune)) ∧
      (∀ roots : List Node,
        (tours stop prune roots).Follows stop prune [] (roots.flatMap (outline prune))) ∧
      (∀ root : Node, (root.tour stop prune).skipped = (root.tour stop prune).pruned stop prune) ∧
      ∀ root : Node, root.places.map (·.node) = root.preorder ∧
        ∀ place ∈ root.places, IsPath root place.ancestors place.node :=
  ⟨follows_tour, follows_tours, fun root => (follows_tour root).skipped_eq, fun root =>
    ⟨map_node_places root, fun _ => isPath_of_mem_places⟩⟩

/-- A tour that prunes nothing stops somewhere if its stop condition holds
of a node of the tree. -/
theorem isSome_trigger_tour {root : Node} :
    (root.tour stop fun _ => false).trigger.isSome ↔ ∃ node ∈ root.preorder, stop node := by
  rw [(follows_tour root).trigger_eq, outline_of_forall fun _ _ _ _ => rfl, map_node_places,
    List.find?_isSome]

/-- A node of a path has a child, and so it is no ERB node. -/
theorem kind_ne_erb_of_mem_places {root ancestor : Node} {place : Visit}
    (hplace : place ∈ root.places) (hancestor : ancestor ∈ place.ancestors) :
    (ancestor.kind == .erb) = false := by
  obtain ⟨child, hchild⟩ := (isPath_of_mem_places hplace).exists_child hancestor
  cases ancestor with
  | leaf shape location errors => cases hchild
  | branch frame location errors children => cases frame <;> rfl

/-- **A tour that goes no further at ERB nodes leaves nothing out**, since no node
stands below one. Whatever is read off ERB nodes only is read in the order of
reading. -/
theorem filterMap_skipped_erb {α : Type} {read : Node → Option α}
    (hread : ∀ node a, read node = some a → node.kind = .erb) (root : Node) :
    ((root.tour (fun _ => false) fun node => node.kind == .erb).skipped.filterMap
      fun visit => read visit.node) = root.preorder.filterMap read := by
  have hkind : ∀ place : Visit,
      (if (place.node.kind == .erb) = true then read place.node else none) = read place.node := by
    intro place
    rcases hplace : read place.node with _ | a
    · exact ite_self none
    · rw [hread _ _ hplace]
      rfl
  rw [(follows_tour root).skipped_of_forall fun _ _ => rfl,
    outline_of_forall fun _ hplace _ => kind_ne_erb_of_mem_places hplace, List.filterMap_filter,
    ← map_node_places, List.filterMap_map]
  exact List.filterMap_congr fun place _ => hkind place

end Node

/-- All nodes of a document, in the order of reading. -/
def Document.nodes (d : Document) : List Node :=
  d.root.elim [] Node.preorder

end TemplateLint
