/-!
Rose trees and their two traversals. `walk` lists every node in depth-first pre-order with its depth
and the path that leads to it; `edges` lists every edge from a parent to a child in the same order.
Both carry the path along as text and write the index of each child at its end. The two are defined
apart from each other: an error propagation is written from the walk, a service relationship from
the edges.
-/

namespace Ingest

inductive Tree (α : Type) where
  | node (value : α) (children : List (Tree α))
  deriving Inhabited

/-- The path from the root down to a node, as a traversal carries it along. -/
structure TreePath where
  depth : Nat
  text : String
  deriving DecidableEq, Repr

namespace TreePath

def root : TreePath := ⟨0, "0"⟩

/-- The path to a child, with a dot and its index at the end. -/
def child (path : TreePath) (i : Nat) : TreePath :=
  ⟨path.depth + 1, path.text ++ "." ++ i.repr⟩

end TreePath

/-- One node met on a walk. -/
structure Visit (α : Type) where
  value : α
  path : TreePath
  deriving DecidableEq, Repr

def Visit.depth {α : Type} (v : Visit α) : Nat := v.path.depth

/-- One edge of a tree, with the path of the child. -/
structure Edge (α : Type) where
  parent : α
  child : α
  path : TreePath
  deriving DecidableEq, Repr

namespace Tree

variable {α : Type}

def value : Tree α → α
  | .node v _ => v

def children : Tree α → List (Tree α)
  | .node _ cs => cs

mutual
/-- The visits of the subtree that stands at `path`. -/
def visits (path : TreePath) : Tree α → List (Visit α)
  | .node v cs => ⟨v, path⟩ :: forestVisits path 0 cs

/-- The visits of the children from index `i` on of the node at `path`. -/
def forestVisits (path : TreePath) (i : Nat) : List (Tree α) → List (Visit α)
  | [] => []
  | t :: ts => visits (path.child i) t ++ forestVisits path (i + 1) ts
end

/-- Every node of the tree in depth-first pre-order. -/
def walk (t : Tree α) : List (Visit α) := t.visits .root

mutual
/-- The edges below the node at `path`. -/
def edgesAt (path : TreePath) : Tree α → List (Edge α)
  | .node v cs => forestEdges v path 0 cs

/-- The edges from `parent`, at `path`, to its children from index `i` on, and below these. -/
def forestEdges (parent : α) (path : TreePath) (i : Nat) : List (Tree α) → List (Edge α)
  | [] => []
  | t :: ts =>
    ⟨parent, t.value, path.child i⟩ :: edgesAt (path.child i) t ++ forestEdges parent path (i + 1) ts
end

/-- Every edge of the tree in depth-first pre-order. -/
def edges (t : Tree α) : List (Edge α) := t.edgesAt .root

end Tree

end Ingest
