import Ingest.Proofs.FanOut
import Ingest.Proofs.TreeWalk

/-!
The shape of a tree in the depths of its walk. A walk lists the nodes of a tree one after the other,
and an error propagation keeps them as such a list, with depths and paths. Nothing is lost by that: read
from the end, each node takes as its children the trees that wait one level deeper, up to the first
that does not. Main statement: the nodes and depths of a walk give back the tree; and the depths of two
walks are equal just if the paths are, which is just if the trees have as many children everywhere.
-/

namespace Ingest

open Sql

/-- How many indices a path has after that of the root. -/
def TreePath.indices (text : String) : Nat := text.toList.count '.'

namespace Tree

variable {α β : Type}

mutual
/-- The tree with each value replaced. -/
def map (f : α → β) : Tree α → Tree β
  | .node v cs => .node (f v) (forestMap f cs)

def forestMap (f : α → β) : List (Tree α) → List (Tree β)
  | [] => []
  | t :: ts => map f t :: forestMap f ts
end

/-- Whether two trees have nodes at the same addresses, each with as many children in both. -/
def SameShape (t : Tree α) (u : Tree β) : Prop :=
  ∀ is, (t.at? is).map (fun s => s.children.length) = (u.at? is).map fun s => s.children.length

/-- Whether the root of a tree, given with its depth, stands deeper than a node. -/
def isBelow (depth : Nat) (w : Tree α × Nat) : Bool := decide (depth < w.2)

/-- Puts a node before trees that wait, each with the depth of its root. The node takes as children
those below it, up to the first that is not. -/
def graft (x : α × Nat) (waiting : List (Tree α × Nat)) : List (Tree α × Nat) :=
  (.node x.1 ((waiting.takeWhile (isBelow x.2)).map Prod.fst), x.2)
    :: waiting.dropWhile (isBelow x.2)

/-- The tree whose nodes in pre-order have these values and depths. -/
def rebuild? (xs : List (α × Nat)) : Option (Tree α) := (xs.foldr graft []).head?.map Prod.fst

/-- The values of the nodes in pre-order, with their depths. -/
def leveled (t : Tree α) : List (α × Nat) := t.walk.map fun v => (v.value, v.depth)

/-! ### The tree given back -/

theorem graft_append {depth : Nat} (v : α) {children waiting : List (Tree α × Nat)}
    (hchildren : ∀ w ∈ children, depth < w.2) (hwaiting : ∀ w ∈ waiting.head?, w.2 ≤ depth) :
    graft (v, depth) (children ++ waiting) = (.node v (children.map Prod.fst), depth) :: waiting := by
  have hbelow : ∀ w ∈ children, isBelow depth w = true := fun w hw => decide_eq_true (hchildren w hw)
  have hstop : ∀ w ∈ waiting.head?, isBelow depth w = false := fun w hw => by
    simpa [isBelow] using hwaiting w hw
  obtain ⟨htake, hdrop⟩ := Text.span_append hbelow hstop
  rw [graft, htake, hdrop]

mutual
/-- The visits of a subtree make up the subtree, before trees that stand no deeper. -/
theorem foldr_graft_visits (path : TreePath) {waiting : List (Tree α × Nat)}
    (hwaiting : ∀ w ∈ waiting.head?, w.2 ≤ path.depth) : ∀ t : Tree α,
    ((t.visits path).map fun v => (v.value, v.depth)).foldr graft waiting = (t, path.depth) :: waiting
  | .node v cs => by
    have hforest := foldr_graft_forestVisits path 0
      (fun w hw => Nat.le_succ_of_le (hwaiting w hw)) cs
    rw [visits, List.map_cons, List.foldr_cons, hforest]
    refine (graft_append v (fun w hw => ?_) hwaiting).trans ?_
    · obtain ⟨t, -, rfl⟩ := List.mem_map.mp hw
      exact Nat.lt_succ_self _
    · simp [Function.comp_def]

theorem foldr_graft_forestVisits (path : TreePath) (i : Nat) {waiting : List (Tree α × Nat)}
    (hwaiting : ∀ w ∈ waiting.head?, w.2 ≤ path.depth + 1) : ∀ ts : List (Tree α),
    ((forestVisits path i ts).map fun v => (v.value, v.depth)).foldr graft waiting
      = (ts.map fun t => (t, path.depth + 1)) ++ waiting
  | [] => rfl
  | t :: ts => by
    rw [forestVisits, List.map_append, List.foldr_append,
      foldr_graft_forestVisits path (i + 1) hwaiting ts, List.map_cons, List.cons_append]
    -- What waits next is a sibling, no deeper than this tree, or what waits after the forest.
    refine foldr_graft_visits (path.child i) (fun w hw => ?_) t
    cases ts with
    | nil => exact hwaiting w hw
    | cons u us =>
      obtain rfl := Option.some.inj hw
      exact Nat.le_refl _
end

theorem rebuild?_leveled (t : Tree α) : rebuild? t.leveled = some t := by
  rw [rebuild?, leveled, walk, foldr_graft_visits .root (by simp) t]
  rfl

example : rebuild? [("a", 0), ("b", 1), ("c", 2), ("d", 1)]
    = some (.node "a" [.node "b" [.node "c" []], .node "d" []]) := rfl

/-! ### Values replaced -/

theorem forestMap_eq (f : α → β) (ts : List (Tree α)) : forestMap f ts = ts.map (map f) := by
  induction ts with
  | nil => rfl
  | cons t ts ih => rw [forestMap, ih, List.map_cons]

theorem children_map (f : α → β) (t : Tree α) : (t.map f).children = t.children.map (map f) := by
  cases t with
  | node v cs => exact forestMap_eq f cs

theorem at?_map (f : α → β) (t : Tree α) (is : Address) :
    (t.map f).at? is = (t.at? is).map (map f) := by
  induction is generalizing t with
  | nil => rfl
  | cons i is ih =>
    simp only [at?, children_map, List.getElem?_map]
    cases t.children[i]? with
    | none => rfl
    | some c => exact ih c

mutual
theorem visits_map (f : α → β) (path : TreePath) :
    ∀ t : Tree α, (t.map f).visits path = (t.visits path).map fun v => ⟨f v.value, v.path⟩
  | .node v cs => by rw [map, visits, forestVisits_forestMap f path 0 cs, visits, List.map_cons]

theorem forestVisits_forestMap (f : α → β) (path : TreePath) (i : Nat) : ∀ ts : List (Tree α),
    forestVisits path i (forestMap f ts) = (forestVisits path i ts).map fun v => ⟨f v.value, v.path⟩
  | [] => rfl
  | t :: ts => by
    rw [forestMap, forestVisits, visits_map f (path.child i) t,
      forestVisits_forestMap f path (i + 1) ts, forestVisits, List.map_append]
end

theorem leveled_map (f : α → β) (t : Tree α) :
    (t.map f).leveled = t.walk.map fun v => (f v.value, v.depth) := by
  rw [leveled, walk, visits_map, List.map_map]
  rfl

/-- The tree is given back with as much of the values as was kept. -/
theorem rebuild?_map (f : α → β) (t : Tree α) :
    rebuild? (t.walk.map fun v => (f v.value, v.depth)) = some (t.map f) := by
  rw [← leveled_map, rebuild?_leveled]

/-! ### Trees of one shape -/

/-- The tree without its values. -/
def shape (t : Tree α) : Tree Unit := t.map fun _ => ()

theorem SameShape.children {t : Tree α} {u : Tree β} (h : SameShape t u) :
    t.children.length = u.children.length ∧ ∀ (i : Nat) a b, t.children[i]? = some a →
      u.children[i]? = some b → SameShape a b := by
  refine ⟨Option.some.inj (h []), fun i a b ha hb is => ?_⟩
  simpa [at?, ha, hb] using h (i :: is)

mutual
theorem shape_eq_of_sameShape :
    ∀ (t : Tree α) (u : Tree β), SameShape t u → t.shape = u.shape
  | .node _ cs, .node _ ds, h => by
    obtain ⟨hlength, hchildren⟩ := h.children
    exact congrArg (node ()) (forestShape_eq_of_sameShape cs ds hlength hchildren)

theorem forestShape_eq_of_sameShape : ∀ (ts : List (Tree α)) (us : List (Tree β)),
    ts.length = us.length →
    (∀ (i : Nat) a b, ts[i]? = some a → us[i]? = some b → SameShape a b) →
    forestMap (fun _ => ()) ts = forestMap (fun _ => ()) us
  | [], [], _, _ => rfl
  | t :: ts, u :: us, hlength, h => by
    have hfirst : t.shape = u.shape := shape_eq_of_sameShape t u (h 0 t u rfl rfl)
    have hrest := forestShape_eq_of_sameShape ts us (Nat.succ.inj hlength)
      fun i a b ha hb => h (i + 1) a b ha hb
    rw [forestMap, forestMap, hrest]
    exact congrArg (· :: _) hfirst
end

theorem sameShape_iff {t : Tree α} {u : Tree β} : SameShape t u ↔ t.shape = u.shape := by
  refine ⟨shape_eq_of_sameShape t u, fun h is => ?_⟩
  have hlength {δ : Type} (s : Tree δ) :
      (s.shape.at? is).map (fun s => s.children.length)
        = (s.at? is).map fun s => s.children.length := by
    rw [shape, at?_map, Option.map_map]
    congr 1
    funext s
    rw [Function.comp_apply, children_map, List.length_map]
  rw [← hlength t, ← hlength u, h]

/-- The paths of a walk are those of the shape. -/
theorem SameShape.walk_paths_eq {t : Tree α} {u : Tree β} (h : SameShape t u) :
    t.walk.map (·.path) = u.walk.map (·.path) := by
  have hshape {δ : Type} (s : Tree δ) : s.shape.walk.map (·.path) = s.walk.map (·.path) := by
    rw [shape, walk, visits_map, List.map_map]
    rfl
  rw [← hshape t, ← hshape u, sameShape_iff.mp h]

theorem walk_depths_eq_iff {t : Tree α} {u : Tree β} :
    t.walk.map (·.depth) = u.walk.map (·.depth) ↔ SameShape t u := by
  have hleveled {δ : Type} (s : Tree δ) :
      s.shape.leveled = (s.walk.map (·.depth)).map fun d => ((), d) := by
    rw [shape, leveled_map, List.map_map]
    rfl
  constructor
  · intro h
    have hrebuilt : some t.shape = some u.shape := by
      rw [← rebuild?_leveled, ← rebuild?_leveled, hleveled, hleveled, h]
    exact sameShape_iff.mpr (Option.some.inj hrebuilt)
  · intro h
    have hdepths := congrArg (List.map TreePath.depth) h.walk_paths_eq
    rwa [List.map_map, List.map_map] at hdepths

/-! ### Depths and paths -/

theorem indices_text (is : Address) : TreePath.indices (Address.text is) = is.length := by
  induction is with
  | nil => rfl
  | cons i is ih =>
    have hdigits : i.repr.toList.count '.' = 0 := by
      refine List.count_eq_zero.mpr fun hdot => ?_
      exact absurd (Text.isDigit_of_mem_repr hdot) (by decide)
    have htail : (Address.text is).toList.tail.count '.' = is.length := by
      rw [← ih, TreePath.indices, Address.toList_text]
      rfl
    rw [TreePath.indices, Address.toList_text_cons, List.count_cons_of_ne (by decide),
      List.count_cons_self, List.count_append, hdigits, htail, Nat.zero_add, List.length_cons]

/-- The depth of a visit is told by its path. -/
theorem depth_of_mem_walk {t : Tree α} {v : Visit α} (hv : v ∈ t.walk) :
    v.depth = TreePath.indices v.path.text := by
  rw [walk_eq, List.mem_map] at hv
  obtain ⟨x, -, rfl⟩ := hv
  rw [TreePath.text_follow_root, indices_text]
  exact (TreePath.depth_follow .root x.1).trans (Nat.zero_add _)

theorem walk_depths_eq (t : Tree α) :
    t.walk.map (·.depth) = (t.walk.map (·.path.text)).map TreePath.indices := by
  rw [List.map_map]
  exact List.map_congr_left fun v hv => depth_of_mem_walk hv

theorem walk_texts_eq_iff {t : Tree α} {u : Tree β} :
    t.walk.map (·.path.text) = u.walk.map (·.path.text) ↔ SameShape t u := by
  constructor
  · intro h
    rw [← walk_depths_eq_iff, walk_depths_eq, walk_depths_eq, h]
  · intro h
    have htexts := congrArg (List.map TreePath.text) h.walk_paths_eq
    rwa [List.map_map, List.map_map] at htexts

end Tree

/-! ### Propagations -/

/-- A node of a propagation without where it stands. -/
def PropagationNode.alone (n : PropagationNode) : PropagationNode := { n with depth := 0, path := "" }

/-- What a propagation keeps of a node of a call tree. -/
def CallNode.kept (c : CallNode) : PropagationNode := (PropagationNode.ofVisit ⟨c, .root⟩).alone

theorem ErrorReport.nodes_of_propagation {r : ErrorReport} {p : ErrorPropagation}
    (h : p ∈ r.propagation?) :
    ∃ t, r.relationTree = some t ∧ p.nodes = t.walk.map PropagationNode.ofVisit := by
  rw [propagation?] at h
  split at h
  · cases h
  · obtain ⟨t, ht, rfl⟩ := Option.map_eq_some_iff.mp h
    exact ⟨t, ht, rfl⟩

/-- The nodes of a call tree with their depths, as a walk lists them, give back the tree. Of two call
trees the walks have the same depths just if they have the same paths, and just if the trees have as
many children at each address. So in the row of a propagation the depths are those that the paths
tell, and the nodes with their depths give back the tree of the report, with all of each node that
a propagation keeps. -/
theorem flattened_trees_keep_shape :
    (∀ t : CallTree, Tree.rebuild? (t.walk.map fun v => (v.value, v.depth)) = some t) ∧
    (∀ t u : CallTree,
      (t.walk.map (·.depth) = u.walk.map (·.depth) ↔ t.SameShape u) ∧
      (t.walk.map (·.path.text) = u.walk.map (·.path.text) ↔ t.SameShape u)) ∧
    ∀ r : ErrorReport, ∀ p ∈ r.propagation?, ∀ row ∈ p.rows,
      let depths := p.nodes.map (·.depth)
      let paths := p.nodes.map (·.path)
      Row.under .errorPropagation row "nodes.depth" = some (.list (depths.map .nat)) ∧
      Row.under .errorPropagation row "nodes.path" = some (.list (paths.map .text)) ∧
      depths = paths.map TreePath.indices ∧
      ∃ t, r.relationTree = some t ∧ paths = t.walk.map (·.path.text) ∧
        Tree.rebuild? (p.nodes.map fun n => (n.alone, n.depth)) = some (t.map CallNode.kept) := by
  refine ⟨Tree.rebuild?_leveled,
    fun t u => ⟨Tree.walk_depths_eq_iff, Tree.walk_texts_eq_iff⟩, fun r p hp row hrow => ?_⟩
  intro depths paths
  obtain rfl : row = renderTuple p.values := List.mem_singleton.mp hrow
  obtain ⟨t, ht, hnodes⟩ := ErrorReport.nodes_of_propagation hp
  have hdepths : depths = t.walk.map (·.depth) := by
    simp only [depths, hnodes, List.map_map]
    rfl
  have hpaths : paths = t.walk.map (·.path.text) := by
    simp only [paths, hnodes, List.map_map]
    rfl
  refine ⟨?_, ?_, ?_, t, ht, hpaths, ?_⟩
  · rw [Row.under_renderTuple]
    simp [depths, Kind.columns, ErrorPropagation.values, List.lookup_cons]
  · rw [Row.under_renderTuple]
    simp [paths, Kind.columns, ErrorPropagation.values, List.lookup_cons, textsValue]
  · rw [hdepths, hpaths]
    exact t.walk_depths_eq
  · rw [hnodes, List.map_map]
    exact t.rebuild?_map CallNode.kept

end Ingest
