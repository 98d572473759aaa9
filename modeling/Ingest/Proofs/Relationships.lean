import Mathlib.Data.List.DropRight
import Ingest.Proofs.FanOut
import Ingest.Proofs.TreeWalk

/-!
The relationships of a relation and the walk of its tree. The one are written from the edges, a
traversal of its own, and the other is what error propagations are written from. Main statement: the
relationships are the visits of the walk after the first, told in the same order, and name as parent
the visit whose path is one index shorter; the calls to dependencies are those of the relationships
whose end is not traced and was reached by a call; and the rows of a relation are one fewer than the
nodes of its tree.
-/

namespace Ingest

/-! ### Edges and visits -/

/-- The visit at the end of an edge. -/
def Edge.arrival {α : Type} (e : Edge α) : Visit α := ⟨e.child, e.path⟩

namespace Tree

variable {α : Type}

mutual
/-- After its root, the visits of a subtree are the ends of its edges. -/
theorem visits_eq_cons (path : TreePath) :
    ∀ t : Tree α, t.visits path = ⟨t.value, path⟩ :: (t.edgesAt path).map Edge.arrival
  | .node v cs => by rw [visits, forestVisits_eq_map v path 0 cs, edgesAt, value]

theorem forestVisits_eq_map (parent : α) (path : TreePath) (i : Nat) : ∀ ts : List (Tree α),
    forestVisits path i ts = (forestEdges parent path i ts).map Edge.arrival
  | [] => rfl
  | t :: ts => by
    rw [forestVisits, visits_eq_cons (path.child i) t, forestVisits_eq_map parent path (i + 1) ts,
      forestEdges, List.map_append, List.map_cons]
    rfl
end

theorem walk_eq_cons (t : Tree α) : t.walk = ⟨t.value, .root⟩ :: t.edges.map Edge.arrival :=
  visits_eq_cons .root t

theorem tail_walk (t : Tree α) : t.walk.tail = t.edges.map Edge.arrival := by
  rw [walk_eq_cons, List.tail_cons]

mutual
/-- An edge starts at a visit, and its path goes on from there by one index. -/
theorem exists_visit_of_mem_edgesAt (path : TreePath) {e : Edge α} :
    ∀ t : Tree α, e ∈ t.edgesAt path →
      ∃ p ∈ t.visits path, p.value = e.parent ∧ ∃ i, e.path = p.path.child i
  | .node v cs, he => by
    rw [edgesAt] at he
    rw [visits]
    rcases exists_visit_of_mem_forestEdges v path 0 cs he with ⟨hparent, hpath⟩ | ⟨p, hp, hstart⟩
    · exact ⟨⟨v, path⟩, List.mem_cons_self, hparent, hpath⟩
    · exact ⟨p, List.mem_cons_of_mem _ hp, hstart⟩

theorem exists_visit_of_mem_forestEdges (parent : α) (path : TreePath) (i : Nat) {e : Edge α} :
    ∀ ts : List (Tree α), e ∈ forestEdges parent path i ts →
      (parent = e.parent ∧ ∃ j, e.path = path.child j) ∨
        ∃ p ∈ forestVisits path i ts, p.value = e.parent ∧ ∃ j, e.path = p.path.child j
  | [], he => absurd he List.not_mem_nil
  | t :: ts, he => by
    rw [forestEdges, List.mem_append, List.mem_cons] at he
    rw [forestVisits]
    rcases he with (rfl | he) | he
    · exact .inl ⟨rfl, i, rfl⟩
    · obtain ⟨p, hp, hstart⟩ := exists_visit_of_mem_edgesAt (path.child i) t he
      exact .inr ⟨p, List.mem_append_left _ hp, hstart⟩
    · rcases exists_visit_of_mem_forestEdges parent path (i + 1) ts he with h | ⟨p, hp, hstart⟩
      · exact .inl h
      · exact .inr ⟨p, List.mem_append_right _ hp, hstart⟩
end

theorem exists_visit_of_mem_edges {t : Tree α} {e : Edge α} (he : e ∈ t.edges) :
    ∃ p ∈ t.walk, p.value = e.parent ∧ ∃ i, e.path = p.path.child i :=
  exists_visit_of_mem_edgesAt .root t he

end Tree

/-! ### Paths one index shorter -/

namespace TreePath

/-- The text of a path without the last dot and what follows it. -/
def above (text : String) : String :=
  String.ofList (text.toList.rdropWhile (· != '.')).dropLast

theorem rdropWhile_digits (cs : List Char) {ds : List Char} (hds : ∀ c ∈ ds, c.isDigit = true) :
    (cs ++ '.' :: ds).rdropWhile (· != '.') = cs ++ ['.'] := by
  induction ds using List.reverseRecOn with
  | nil => exact List.rdropWhile_concat_neg (· != '.') cs '.' (by simp)
  | append_singleton ds d ih =>
    have hd : (d != '.') = true := by
      have hdigit := hds d (by simp)
      rw [bne_iff_ne]
      rintro rfl
      exact absurd hdigit (by decide)
    have hsplit : cs ++ '.' :: (ds ++ [d]) = cs ++ '.' :: ds ++ [d] := by simp
    rw [hsplit, List.rdropWhile_concat_pos (· != '.') _ d hd]
    exact ih fun c hc => hds c (List.mem_append_left _ hc)

theorem above_child (path : TreePath) (i : Nat) : above (path.child i).text = path.text := by
  have hchars : (path.child i).text.toList = path.text.toList ++ '.' :: i.repr.toList := by
    simp [child]
  rw [above, hchars, rdropWhile_digits _ fun c hc => Text.isDigit_of_mem_repr hc,
    List.dropLast_concat, String.ofList_toList]

end TreePath

/-! ### Relationships and calls -/

/-- What a visit tells of the call by which its node was reached, empty without a call. -/
def Visit.ofCall (v : Visit CallNode) (field : ClientCall → String) : String :=
  (v.value.client.map field).getD ""

/-- Whether the node of a visit is a dependency: not traced itself and reached by a call. -/
def Visit.isDependency (v : Visit CallNode) : Bool := !v.value.isTraced && v.value.client.isSome

/-- Whether a relationship tells of a visit of a walk. Its parent is the one visit of the walk whose
path is that of the relationship without the last index. -/
structure Relationship.TellsOf (e : Relationship) (walk : List (Visit CallNode))
    (v : Visit CallNode) : Prop where
  path : e.path = v.path.text
  service : e.service = v.value.serviceName
  url : e.url = v.value.url
  isAsync : e.isAsync = v.value.isAsync
  isTraced : e.isTraced = v.value.isTraced
  clientGroup : e.clientGroup = v.ofCall (·.group)
  clientType : e.clientType = v.ofCall (·.clientType)
  clientPeer : e.clientPeer = v.ofCall (·.peer)
  clientKey : e.clientKey = v.ofCall (·.key)
  parent : ∃ p ∈ walk, (∀ q ∈ walk, q.path.text = TreePath.above e.path ↔ q = p) ∧
    e.parentService = p.value.serviceName ∧ e.parentUrl = p.value.url ∧
    e.parentTraced = p.value.isTraced

/-- Whether the call of a service is that of a relationship and of the visit that it tells of. -/
structure ServiceClient.TellsOf (c : ServiceClient) (traceId : String)
    (x : Relationship × Visit CallNode) : Prop where
  timestampNs : c.timestampNs = x.2.value.startTimeNs
  traceId : c.traceId = traceId
  service : c.service = x.1.parentService
  url : c.url = x.1.parentUrl
  call : x.2.value.client
    = some ⟨c.clientGroup, c.clientType, c.clientPeer, c.clientKey, c.durationNs, c.isError⟩

namespace Relation

theorem getD_client (field : ClientCall → String) (e : Edge CallNode)
    (habsent : field ClientCall.absent = "") :
    field (e.child.client.getD ClientCall.absent) = e.arrival.ofCall field := by
  cases h : e.child.client <;> simp [Visit.ofCall, Edge.arrival, h, habsent]

theorem tellsOf_relationshipOf {t : CallTree} {e : Edge CallNode} (he : e ∈ t.edges) :
    (relationshipOf e).TellsOf t.walk e.arrival where
  path := rfl
  service := rfl
  url := rfl
  isAsync := rfl
  isTraced := rfl
  clientGroup := getD_client (·.group) e rfl
  clientType := getD_client (·.clientType) e rfl
  clientPeer := getD_client (·.peer) e rfl
  clientKey := getD_client (·.key) e rfl
  parent := by
    obtain ⟨p, hp, hvalue, i, hpath⟩ := Tree.exists_visit_of_mem_edges he
    have habove : TreePath.above (relationshipOf e).path = p.path.text := by
      rw [relationshipOf, hpath, TreePath.above_child]
    refine ⟨p, hp, fun q hq => ?_, by rw [hvalue]; rfl, by rw [hvalue]; rfl, by rw [hvalue]; rfl⟩
    rw [habove]
    exact ⟨fun h => List.inj_on_of_nodup_map (Tree.nodup_texts_walk t) hq hp h, fun h => by rw [h]⟩

/-- An edge has a call exactly if it ends at a dependency. -/
theorem clientOf?_cases (traceId : String) (e : Edge CallNode) :
    (e.arrival.isDependency = false ∧ clientOf? traceId e = none) ∨
      (e.arrival.isDependency = true ∧ ∃ c, clientOf? traceId e = some c ∧
        c.TellsOf traceId (relationshipOf e, e.arrival)) := by
  cases htraced : e.child.isTraced with
  | true => simp [clientOf?, Visit.isDependency, Edge.arrival, htraced]
  | false =>
    cases hclient : e.child.client with
    | none => simp [clientOf?, Visit.isDependency, Edge.arrival, htraced, hclient]
    | some call =>
      have hends : e.arrival.isDependency = true := by
        simp [Visit.isDependency, Edge.arrival, htraced, hclient]
      obtain ⟨c, hc⟩ : ∃ c, clientOf? traceId e = some c :=
        Option.isSome_iff_exists.mp (by simp [clientOf?, htraced, hclient])
      refine .inr ⟨hends, c, hc, ?_⟩
      rw [clientOf?, htraced, hclient] at hc
      obtain rfl := Option.some.inj hc
      exact ⟨rfl, rfl, rfl, rfl, hclient⟩

theorem forall₂_clientOf? (traceId : String) : ∀ es : List (Edge CallNode),
    List.Forall₂ (fun c x => ServiceClient.TellsOf c traceId x) (es.filterMap (clientOf? traceId))
      ((es.map fun e => (relationshipOf e, e.arrival)).filter fun x => x.2.isDependency)
  | [] => .nil
  | e :: es => by
    have ih := forall₂_clientOf? traceId es
    rw [List.map_cons]
    rcases clientOf?_cases traceId e with ⟨hnot, hnone⟩ | ⟨hends, c, hsome, htells⟩
    · rwa [List.filterMap_cons_none hnone, List.filter_cons_of_neg (by simp [hnot])]
    · rw [List.filterMap_cons_some hsome, List.filter_cons_of_pos (by simp [hends])]
      exact .cons htells ih

/-- The relationships of a relation tell one by one of the visits of the walk of its tree after the
first, each with the visit one index above as its parent. The calls to dependencies tell, in the same
order, of those relationships whose end is a dependency. And the relation has a row for each node of
its tree but one. -/
theorem relationships_follow_walk (r : Relation) :
    let arrivals := r.root.walk.tail
    List.Forall₂ (fun e v => Relationship.TellsOf e r.root.walk v) r.relationships arrivals ∧
    List.Forall₂ (fun c x => ServiceClient.TellsOf c r.traceId x) r.serviceClients
      ((r.relationships.zip arrivals).filter fun x => x.2.isDependency) ∧
    (Event.relation r).rows.length + 1 = r.root.size := by
  intro arrivals
  have harrivals : arrivals = r.root.edges.map Edge.arrival := r.root.tail_walk
  refine ⟨?_, ?_, ?_⟩
  · rw [harrivals, relationships, List.forall₂_map_left_iff, List.forall₂_map_right_iff,
      List.forall₂_same]
    exact fun e he => tellsOf_relationshipOf he
  · rw [harrivals, relationships, List.zip_map', serviceClients]
    exact forall₂_clientOf? r.traceId r.root.edges
  · have hrows : (Event.relation r).rows.length = r.root.edges.length := by
      simp [Event.rows, Event.tuples, relationships]
    rw [hrows, ← Tree.length_walk, Tree.walk_eq_cons, List.length_cons, List.length_map]

end Relation

end Ingest
