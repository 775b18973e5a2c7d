import PageConfig.Proofs.Document.Nodes

/-!
# Nodes in order

Placing nodes one at a time is the stable sort by order. An arranged tree is
sorted so at every level, and its nodes are otherwise as they were.
-/

set_option autoImplicit false

namespace PageConfig.Node

def byOrder (ns : List Node) : List Node := ns.mergeSort fun m n => m.order ≤ n.order

theorem place_append {n : Node} {front rest : List Node} (h : ∀ m ∈ front, m.order < n.order) :
    place n (front ++ rest) = front ++ place n rest := by
  induction front with
  | nil => rfl
  | cons m front ih =>
    obtain ⟨hm, hfront⟩ := List.forall_mem_cons.1 h
    rw [List.cons_append, place, if_neg (Int.not_le.2 hm), ih hfront, List.cons_append]

theorem place_of_le {n : Node} {ns : List Node} (h : ∀ m ∈ ns, n.order ≤ m.order) :
    place n ns = n :: ns := by
  cases ns with
  | nil => rfl
  | cons m ns => rw [place, if_pos (h m List.mem_cons_self)]

theorem sorted_eq_byOrder (ns : List Node) : sorted ns = byOrder ns := by
  have htrans (a b c : Node) (hab : decide (a.order ≤ b.order) = true)
      (hbc : decide (b.order ≤ c.order) = true) : decide (a.order ≤ c.order) = true := by
    simp only [decide_eq_true_eq] at *
    omega
  have htotal (a b : Node) : (decide (a.order ≤ b.order) || decide (b.order ≤ a.order)) = true := by
    simp only [Bool.or_eq_true, decide_eq_true_eq]
    omega
  induction ns with
  | nil => exact List.mergeSort_nil.symm
  | cons n ns ih =>
    -- the sort of the rest is cut where the node goes
    obtain ⟨front, rest, hall, hrest, hfront⟩ := List.mergeSort_cons htrans htotal n ns
    have hpairwise := List.pairwise_mergeSort htrans htotal (n :: ns)
    rw [hall] at hpairwise
    have hle : ∀ m ∈ rest, n.order ≤ m.order := fun m hm =>
      of_decide_eq_true ((List.pairwise_cons.1 (List.pairwise_append.1 hpairwise).2.1).1 m hm)
    have hlt : ∀ m ∈ front, m.order < n.order := fun m hm => by simpa using hfront m hm
    rw [sorted, ih, byOrder, byOrder, hall, hrest, place_append hlt, place_of_le hle]

theorem byOrder_perm (ns : List Node) : (byOrder ns).Perm ns := List.mergeSort_perm ns _

theorem nodesOf_eq_flatMap (ns : List Node) : nodesOf ns = ns.flatMap nodes := by
  induction ns with
  | nil => rfl
  | cons n ns ih => rw [nodesOf, ih, List.flatMap_cons]

theorem nodesOf_perm {ms ns : List Node} (h : ms.Perm ns) : (nodesOf ms).Perm (nodesOf ns) := by
  rw [nodesOf_eq_flatMap, nodesOf_eq_flatMap]
  exact h.flatMap_right nodes

@[simp] theorem arranged_type (n : Node) : n.arranged.type = n.type := by
  cases n
  rfl

@[simp] theorem arranged_conditions (n : Node) : n.arranged.conditions = n.conditions := by
  cases n
  rfl

@[simp] theorem arranged_errorFallback (n : Node) : n.arranged.errorFallback = n.errorFallback := by
  cases n
  rfl

@[simp] theorem arranged_order (n : Node) : n.arranged.order = n.order := by
  cases n
  rfl

theorem arrangedAll_eq_map (ns : List Node) : arrangedAll ns = ns.map arranged := by
  induction ns with
  | nil => rfl
  | cons n ns ih => rw [arrangedAll, ih, List.map_cons]

theorem sorted_arrangedAll (ns : List Node) :
    sorted (arrangedAll ns) = (byOrder ns).map arranged := by
  rw [sorted_eq_byOrder, arrangedAll_eq_map, byOrder, byOrder]
  exact (List.map_mergeSort fun a _ b _ => by rw [arranged_order, arranged_order]).symm

theorem arranged_children (n : Node) :
    n.arranged.children = (byOrder n.children).map arranged := by
  cases n with
  | mk => exact sorted_arrangedAll _

end PageConfig.Node
