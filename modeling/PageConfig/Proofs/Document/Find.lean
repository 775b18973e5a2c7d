import Mathlib.Data.List.Nodup
import PageConfig.Proofs.Document.Order

/-!
# Nodes by their ids

A node is found by its id as the first one with it, parents before their children. With
distinct ids it is the only one, and what belongs to one tree belongs to no other.
-/

set_option autoImplicit false

namespace PageConfig

namespace Node

def idsOf (ns : List Node) : List String := (nodesOf ns).map id

theorem idsOf_cons (n : Node) (ns : List Node) :
    idsOf (n :: ns) = n.id :: (idsOf n.children ++ idsOf ns) := by
  rw [idsOf, nodesOf, nodes_eq, List.map_append, List.map_cons, List.cons_append]
  rfl

theorem mem_idsOf {id : String} {ns : List Node} :
    id ∈ idsOf ns ↔ ∃ m ∈ nodesOf ns, m.id = id := List.mem_map

theorem forall_idsOf_cons {P : String → Prop} {n : Node} {ns : List Node} :
    (∀ id ∈ idsOf (n :: ns), P id) ↔
      P n.id ∧ (∀ id ∈ idsOf n.children, P id) ∧ ∀ id ∈ idsOf ns, P id := by
  rw [idsOf_cons, List.forall_mem_cons, List.forall_mem_append]

theorem nodup_idsOf_cons {n : Node} {ns : List Node} : (idsOf (n :: ns)).Nodup ↔
    (n.id ∉ idsOf n.children ∧ n.id ∉ idsOf ns) ∧ (idsOf n.children).Nodup ∧ (idsOf ns).Nodup ∧
      ∀ id ∈ idsOf n.children, ∀ other ∈ idsOf ns, id ≠ other := by
  rw [idsOf_cons, List.nodup_cons, List.mem_append, not_or, List.nodup_append]

mutual

theorem ids_arranged : ∀ n : Node, (n.arranged.nodes.map id).Perm (n.nodes.map id)
  | .mk nodeId type props order children conditions responsive styles animation accessibility
      errorFallback => by
    rw [arranged, nodes_eq, nodes_eq, List.map_cons, List.map_cons]
    refine List.Perm.cons nodeId ?_
    have hsorted : (sorted (arrangedAll children)).Perm (arrangedAll children) := by
      rw [sorted_eq_byOrder]
      exact byOrder_perm _
    exact ((nodesOf_perm hsorted).map id).trans (ids_arrangedAll children)

theorem ids_arrangedAll : ∀ ns : List Node, (idsOf (arrangedAll ns)).Perm (idsOf ns)
  | [] => .refl _
  | n :: ns => by
    rw [arrangedAll, idsOf, idsOf, nodesOf, nodesOf, List.map_append, List.map_append]
    exact (ids_arranged n).append (ids_arrangedAll ns)

end

mutual

theorem find?_eq (id : String) : ∀ n : Node, find? id n = n.nodes.find? (·.id = id)
  | .mk nodeId type props order children conditions responsive styles animation accessibility
      errorFallback => by
    rw [find?, nodes_eq, List.find?_cons, findAmong?_eq id children]
    dsimp only [Node.id, Node.children]
    by_cases hid : nodeId = id
    · rw [if_pos hid, decide_eq_true hid]
    · rw [if_neg hid, decide_eq_false hid]

theorem findAmong?_eq (id : String) : ∀ ns : List Node,
    findAmong? id ns = (nodesOf ns).find? (·.id = id)
  | [] => rfl
  | n :: ns => by
    rw [findAmong?, nodesOf, List.find?_append, find?_eq id n, findAmong?_eq id ns]
    cases n.nodes.find? (·.id = id) <;> rfl

end

end Node

end PageConfig
