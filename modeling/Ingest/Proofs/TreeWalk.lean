import Mathlib.Data.List.Forall2
import Ingest.Proofs.Decimal
import Ingest.Tree

/-!
The nodes of a tree by their addresses. An address is the list of the child indices on the way from
the root, and the tree is taken apart here by addresses alone, apart from any traversal. Main
statement: a walk meets every node once and in pre-order, which is the order of the addresses; it
gives each node its address as text and the length of its address as depth; and no two nodes of a
tree have one text, however wide and deep the tree is.
-/

namespace Ingest

/-- The child indices on the way from the root of a tree to one of its nodes. -/
abbrev Address := List Nat

/-- An address as text: `0` for the root, then `.i` for each index. -/
def Address.text (is : Address) : String := "0" ++ String.join (is.map fun i => "." ++ i.repr)

/-! ### Addresses as text -/

namespace Address

theorem toList_text_cons (i : Nat) (is : Address) :
    (Address.text (i :: is)).toList
      = '0' :: '.' :: (i.repr.toList ++ (Address.text is).toList.tail) := by
  simp [text]

theorem toList_text (is : Address) :
    (Address.text is).toList = '0' :: (Address.text is).toList.tail := by
  simp [text]

/-- A number in an address ends where the address goes on or ends. -/
theorem ends_tail_text (is : Address) : Text.Ends (Address.text is).toList.tail := by
  cases is with
  | nil => exact Text.ends_nil
  | cons i is =>
    rw [toList_text_cons]
    exact Text.ends_cons (by decide)

/-- Numbers and dots are read back in one way only, so that child 10 is not child 0 of child 1. -/
theorem text_injective : ∀ {is js : Address}, Address.text is = Address.text js → is = js
  | [], [], _ => rfl
  | [], j :: js, h => by
    have h := congrArg String.toList h
    rw [toList_text_cons] at h
    simp [text] at h
  | i :: is, [], h => by
    have h := congrArg String.toList h
    rw [toList_text_cons] at h
    simp [text] at h
  | i :: is, j :: js, h => by
    have hchars : i.repr.toList ++ (Address.text is).toList.tail
        = j.repr.toList ++ (Address.text js).toList.tail := by
      simpa only [toList_text_cons, List.cons.injEq, true_and] using congrArg String.toList h
    have hread := congrArg Text.readNat hchars
    rw [Text.readNat_repr i (ends_tail_text is), Text.readNat_repr j (ends_tail_text js)] at hread
    simp only [Option.some.injEq, Prod.mk.injEq] at hread
    obtain ⟨rfl, htail⟩ := hread
    have htext : Address.text is = Address.text js := by
      rw [← String.toList_inj, toList_text is, toList_text js, htail]
    rw [text_injective htext]

end Address

namespace TreePath

/-- The path that a traversal carries once it has gone down an address. -/
def follow (path : TreePath) (is : Address) : TreePath := is.foldl child path

theorem depth_follow (path : TreePath) (is : Address) :
    (path.follow is).depth = path.depth + is.length := by
  induction is generalizing path with
  | nil => rfl
  | cons i is ih =>
    rw [follow, List.foldl_cons, ← follow, ih]
    simp only [child, List.length_cons]
    omega

theorem text_follow (path : TreePath) (is : Address) :
    (path.follow is).text = path.text ++ String.join (is.map fun i => "." ++ i.repr) := by
  induction is generalizing path with
  | nil => simp [follow]
  | cons i is ih =>
    rw [follow, List.foldl_cons, ← follow, ih, child, List.map_cons, String.join_cons]
    simp only [String.append_assoc]

theorem text_follow_root (is : Address) : (root.follow is).text = Address.text is :=
  text_follow root is

end TreePath

namespace Tree

variable {α : Type}

/-! ### Nodes and their addresses -/

/-- The subtree to which an address leads. -/
def at? (t : Tree α) : Address → Option (Tree α)
  | [] => some t
  | i :: is => t.children[i]?.bind fun c => c.at? is

mutual
/-- The values of all nodes, each before those of its children, one child after the other. -/
def preorder : Tree α → List α
  | .node v cs => v :: forestPreorder cs

def forestPreorder : List (Tree α) → List α
  | [] => []
  | t :: ts => preorder t ++ forestPreorder ts
end

mutual
/-- The values of all nodes with their addresses. -/
def addressed : Tree α → List (Address × α)
  | .node v cs => ([], v) :: forestAddressed 0 cs

/-- The nodes below one whose children, from index `i` on, are these. -/
def forestAddressed (i : Nat) : List (Tree α) → List (Address × α)
  | [] => []
  | t :: ts => (addressed t).map (fun x => (i :: x.1, x.2)) ++ forestAddressed (i + 1) ts
end

theorem mem_forestAddressed {i : Nat} {ts : List (Tree α)} {x : Address × α} :
    x ∈ forestAddressed i ts
      ↔ ∃ j is t, x.1 = (i + j) :: is ∧ ts[j]? = some t ∧ (is, x.2) ∈ t.addressed := by
  induction ts generalizing i with
  | nil => simp [forestAddressed]
  | cons t ts ih =>
    rw [forestAddressed, List.mem_append, List.mem_map, ih]
    constructor
    · rintro (⟨y, hy, rfl⟩ | ⟨j, is, u, hx, hu, hmem⟩)
      · exact ⟨0, y.1, t, rfl, rfl, hy⟩
      · exact ⟨j + 1, is, u, by rw [hx]; congr 1; omega, hu, hmem⟩
    · rintro ⟨j, is, u, hx, hu, hmem⟩
      cases j with
      | zero =>
        obtain rfl : t = u := by simpa using hu
        exact .inl ⟨(is, x.2), hmem, Prod.ext hx.symm rfl⟩
      | succ j => exact .inr ⟨j, is, u, by rw [hx]; congr 1; omega, hu, hmem⟩

/-- The nodes are those to which addresses lead. -/
theorem mem_addressed {t : Tree α} {is : Address} {v : α} :
    (is, v) ∈ t.addressed ↔ (t.at? is).map value = some v := by
  induction is generalizing t with
  | nil =>
    cases t with
    | node w cs =>
      have hbelow : ([], v) ∉ forestAddressed 0 cs := by
        intro hmem
        obtain ⟨j, is, c, h, -⟩ := mem_forestAddressed.mp hmem
        cases h
      simp [addressed, at?, value, hbelow, eq_comm]
  | cons i is ih =>
    cases t with
    | node w cs =>
      have hat : (node w cs).at? (i :: is) = cs[i]?.bind fun c => c.at? is := rfl
      rw [addressed, List.mem_cons, mem_forestAddressed, hat]
      constructor
      · rintro (h | ⟨j, js, c, h, hc, hmem⟩)
        · cases h
        · obtain ⟨rfl, rfl⟩ : i = j ∧ is = js := by simpa using h
          rw [hc, Option.bind_some]
          exact ih.mp hmem
      · intro h
        cases hc : cs[i]? with
        | none => simp [hc] at h
        | some c =>
          rw [hc, Option.bind_some] at h
          exact .inr ⟨i, is, c, by simp, hc, ih.mpr h⟩

mutual
/-- The nodes stand in the order of their addresses. -/
theorem pairwise_addressed : ∀ t : Tree α, t.addressed.Pairwise fun x y => x.1 < y.1
  | .node v cs => by
    rw [addressed, List.pairwise_cons]
    refine ⟨fun x hx => ?_, pairwise_forestAddressed 0 cs⟩
    obtain ⟨j, is, c, h, -⟩ := mem_forestAddressed.mp hx
    rw [h]
    exact List.nil_lt_cons _ _

theorem pairwise_forestAddressed (i : Nat) :
    ∀ ts : List (Tree α), (forestAddressed i ts).Pairwise fun x y => x.1 < y.1
  | [] => .nil
  | t :: ts => by
    rw [forestAddressed, List.pairwise_append, List.pairwise_map]
    refine ⟨(pairwise_addressed t).imp fun h => ?_, pairwise_forestAddressed (i + 1) ts, ?_⟩
    · exact List.cons_lt_cons_iff.mpr (.inr ⟨rfl, h⟩)
    · intro x hx y hy
      obtain ⟨z, -, rfl⟩ := List.mem_map.mp hx
      obtain ⟨j, is, c, h, -⟩ := mem_forestAddressed.mp hy
      rw [h]
      exact List.cons_lt_cons_iff.mpr (.inl (by omega))
end

mutual
theorem map_snd_addressed : ∀ t : Tree α, t.addressed.map Prod.snd = t.preorder
  | .node v cs => by rw [addressed, List.map_cons, map_snd_forestAddressed 0 cs, preorder]

theorem map_snd_forestAddressed (i : Nat) :
    ∀ ts : List (Tree α), (forestAddressed i ts).map Prod.snd = forestPreorder ts
  | [] => rfl
  | t :: ts => by
    have hmap : ((addressed t).map fun x => (i :: x.1, x.2)).map Prod.snd = t.preorder := by
      rw [List.map_map]
      exact map_snd_addressed t
    rw [forestAddressed, List.map_append, hmap, map_snd_forestAddressed (i + 1) ts, forestPreorder]
end

/-! ### The walk -/

mutual
/-- The visits of a subtree, from the path at which it stands on. -/
theorem visits_eq (path : TreePath) :
    ∀ t : Tree α, t.visits path = t.addressed.map fun x => ⟨x.2, path.follow x.1⟩
  | .node v cs => by rw [visits, forestVisits_eq path 0 cs, addressed, List.map_cons]; rfl

theorem forestVisits_eq (path : TreePath) (i : Nat) : ∀ ts : List (Tree α),
    forestVisits path i ts = (forestAddressed i ts).map fun x => ⟨x.2, path.follow x.1⟩
  | [] => rfl
  | t :: ts => by
    rw [forestVisits, visits_eq (path.child i) t, forestVisits_eq path (i + 1) ts, forestAddressed,
      List.map_append, List.map_map]
    rfl
end

theorem walk_eq (t : Tree α) :
    t.walk = t.addressed.map fun x => ⟨x.2, TreePath.root.follow x.1⟩ := visits_eq .root t

/-- No two visits of a walk have one text. -/
theorem nodup_texts_walk (t : Tree α) : (t.walk.map (·.path.text)).Nodup := by
  have hdistinct : t.addressed.Pairwise fun x y => Address.text x.1 ≠ Address.text y.1 :=
    (pairwise_addressed t).imp fun {x y} hlt htext => by
      rw [Address.text_injective htext] at hlt
      exact List.lt_irrefl y.1 hlt
  rw [walk_eq, List.map_map, List.Nodup, List.pairwise_map]
  simpa only [Function.comp_apply, TreePath.text_follow_root] using hdistinct

/-- A walk meets every node of a tree once: its visits answer one by one to the addresses of the
tree in strictly increasing order, which is pre-order. A visit is of the node to which its address
leads; its path is the address as text, its depth the length of the address; and the paths differ
from each other as texts. -/
theorem walk_meets_every_address (t : Tree α) :
    ∃ addresses : List Address,
      addresses.Pairwise (· < ·) ∧ (∀ is, is ∈ addresses ↔ (t.at? is).isSome) ∧
      List.Forall₂ (fun is v => (t.at? is).map value = some v.value ∧
        v.path.text = Address.text is ∧ v.depth = is.length) addresses t.walk ∧
      t.walk.map (·.value) = t.preorder ∧ (t.walk.map (·.path.text)).Nodup := by
  refine ⟨t.addressed.map Prod.fst, List.pairwise_map.mpr (pairwise_addressed t), fun is => ?_, ?_,
    ?_, nodup_texts_walk t⟩
  · rw [List.mem_map]
    constructor
    · rintro ⟨x, hx, rfl⟩
      rw [← Option.isSome_map (f := value), mem_addressed.mp hx]
      rfl
    · intro h
      obtain ⟨u, hu⟩ := Option.isSome_iff_exists.mp h
      exact ⟨(is, u.value), mem_addressed.mpr (by rw [hu]; rfl), rfl⟩
  · rw [walk_eq, List.forall₂_map_left_iff, List.forall₂_map_right_iff, List.forall₂_same]
    intro x hx
    exact ⟨mem_addressed.mp hx, TreePath.text_follow_root x.1,
      (TreePath.depth_follow .root x.1).trans (Nat.zero_add _)⟩
  · rw [walk_eq, List.map_map]
    exact map_snd_addressed t

end Tree

end Ingest
