import PageConfig.Proofs.Props.Texts
import PageConfig.Proofs.ReadBack.Document
import PageConfig.Raw.Report

/-!
# The nodes of a document

All nodes of the tree, however deep, raw and typed. What a typed node has for its props
stood in the value that the document was decoded from, and arranging the tree only
changes the sequence of children.
-/

set_option autoImplicit false

namespace PageConfig

theorem Record.texts_field? {v w : Value} {r : Record v} {i : Nat} {key : String}
    (h : r.field? i key = some w) : w.texts ⊆ v.texts := by
  cases v with
  | object fields => exact Value.texts_of_get? h
  | list items => exact Value.texts_of_item (List.mem_of_getElem? h)
  | _ => cases h

namespace Value

mutual

def preorder : Value → List Value
  | .object fields => .object fields :: preorderChildren fields
  | v => [v]

def preorderChildren : List (String × Value) → List Value
  | [] => []
  | (k, .list items) :: fields =>
    if k = "children" then preorderAll items else preorderChildren fields
  | (k, _) :: fields => if k = "children" then [] else preorderChildren fields

def preorderAll : List Value → List Value
  | [] => []
  | v :: items => v.preorder ++ preorderAll items

end

theorem preorderChildren_eq (fields : Props) :
    preorderChildren fields = preorderAll (fields.itemsAt "children") := by
  rw [Props.itemsAt]
  induction fields with
  | nil => rfl
  | cons e fields ih =>
    obtain ⟨k, v⟩ := e
    by_cases hk : k = "children"
    · cases v <;> simp [preorderChildren, preorderAll, Table.get?, hk]
    · cases v <;> simp [preorderChildren, Table.get?, hk, ih]

theorem preorder_object (fields : Props) : (object fields).preorder =
    .object fields :: preorderAll (fields.itemsAt "children") := by
  rw [preorder, preorderChildren_eq]

theorem preorder_eq (v : Value) : v.preorder = v :: preorderAll v.childNodes := by
  cases v with
  | object fields => exact preorder_object fields
  | _ => rfl

theorem preorderAll_append (vs ws : List Value) :
    preorderAll (vs ++ ws) = preorderAll vs ++ preorderAll ws := by
  induction vs with
  | nil => rfl
  | cons v vs ih => rw [List.cons_append, preorderAll, preorderAll, ih, List.append_assoc]

/-- What is pending is walked through one tree after another. -/
theorem walk_eq_preorderAll (pending : List Value) : walk pending = preorderAll pending := by
  fun_induction walk pending with
  | case1 => rfl
  | case2 v pending ih =>
    calc v :: walk (v.childNodes ++ pending)
      _ = v :: (preorderAll v.childNodes ++ preorderAll pending) := by rw [ih, preorderAll_append]
      _ = preorderAll (v :: pending) := by rw [preorderAll, preorder_eq, List.cons_append]

theorem mem_preorder_self (v : Value) : v ∈ v.preorder := by
  cases v <;> simp [preorder]

theorem preorder_subset_preorderAll {v : Value} {items : List Value} (h : v ∈ items) :
    v.preorder ⊆ preorderAll items := by
  induction items with
  | nil => cases h
  | cons w items ih =>
    rw [preorderAll]
    rcases List.mem_cons.1 h with rfl | h
    · exact List.subset_append_left _ _
    · exact List.Subset.trans (ih h) (List.subset_append_right _ _)

/-- The raw nodes of a document, so far as its components are a list. -/
def nodes : Value → List Value
  | .object fields => preorderAll (Props.itemsAt fields "components")
  | _ => []

end Value

section Items

variable {α : Type} {fields : Props} {r : Record (.object fields)} {i : Nat} {key : String}
  {decode : Decoder α} {as : List α}

theorem Record.items_of_nullDefault (h : r.nullDefault i key [] (Decode.list decode) = .ok as) :
    (fields.itemsAt key).mapM decode = .ok as := by
  rw [Props.itemsAt]
  rcases nullDefault_eq_ok.1 h with ⟨hnone | hnull, rfl⟩ | ⟨w, hw, -, hd⟩
  · have hnone : fields.get? key = none := hnone
    rw [hnone]
    rfl
  · have hnull : fields.get? key = some .null := hnull
    rw [hnull]
    rfl
  · have hw : fields.get? key = some w := hw
    rw [hw]
    cases w with
    | list items => exact hd
    | _ => cases hd

end Items

namespace Decode

theorem texts_table {v : Value} {t : Props} (h : table v = .ok t) :
    (Value.object t).texts ⊆ v.texts := by
  cases v with
  | object fields =>
    cases h
    exact List.Subset.refl _
  | _ => cases h

theorem mem_list {α : Type} {decode : Decoder α} {v : Value} {as : List α}
    (h : list decode v = .ok as) {a : α} (ha : a ∈ as) :
    ∃ w, w.texts ⊆ v.texts ∧ sizeOf w < sizeOf v ∧ decode w = .ok a := by
  cases v with
  | list items =>
    obtain ⟨w, hw, hd⟩ := mem_of_mapM_eq_ok h ha
    exact ⟨w, Value.texts_of_item hw, Value.sizeOf_item hw, hd⟩
  | _ => cases h

end Decode

theorem Responsive.texts_decode {v : Value} {o : Responsive} (h : decode v = .ok o) :
    o.texts ⊆ v.texts := by
  have htier : ∀ {r : Record v} {i : Nat} {key : String} {t : Option Props},
      r.optional i key Decode.table = .ok t → (Value.object (t.getD [])).texts ⊆ v.texts := by
    intro r i key t ht
    rcases Record.optional_eq_ok.1 ht with ⟨-, rfl⟩ | ⟨w, u, hw, -, hd, rfl⟩
    · exact fun s hs => nomatch hs
    · exact List.Subset.trans (Decode.texts_table hd) (Record.texts_field? hw)
  have hread := Record.read_of_decode h
  obtain ⟨mobile, tablet, desktop, wide⟩ := o
  simp only [Attempt.seq_eq_ok, Attempt.map_eq_ok, mk.injEq, ↓existsAndEq, and_true,
    and_assoc] at hread
  obtain ⟨hmobile, htablet, hdesktop, hwide⟩ := hread
  intro s hs
  obtain ⟨t, ht, htexts⟩ := List.mem_flatMap.1 hs
  simp only [List.mem_cons, List.not_mem_nil, or_false] at ht
  rcases ht with rfl | rfl | rfl | rfl
  · exact htier hmobile htexts
  · exact htier htablet htexts
  · exact htier hdesktop htexts
  · exact htier hwide htexts

namespace Node

mutual

/-- The node and those below it, a node before its children. -/
def nodes : Node → List Node
  | n@(.mk _ _ _ _ children _ _ _ _ _ _) => n :: nodesOf children

def nodesOf : List Node → List Node
  | [] => []
  | n :: ns => n.nodes ++ nodesOf ns

end

theorem nodes_eq (n : Node) : n.nodes = n :: nodesOf n.children := by
  cases n with
  | mk => rw [nodes]

theorem mem_nodes_self (n : Node) : n ∈ n.nodes := by
  rw [nodes_eq]
  exact List.mem_cons_self

theorem mem_nodesOf {m : Node} {ns : List Node} : m ∈ nodesOf ns ↔ ∃ n ∈ ns, m ∈ n.nodes := by
  induction ns with
  | nil => simp [nodesOf]
  | cons n ns ih => simp [nodesOf, ih]

theorem texts_decode {v : Value} {n : Node} (h : decode v = .ok n) :
    ∀ m ∈ n.nodes, m.texts ⊆ v.texts := by
  induction hsize : sizeOf v using Nat.strongRecOn generalizing v n with
  | ind k ih =>
    subst hsize
    rw [decode_eq] at h
    have hread := Record.read_of_decode h
    obtain ⟨id, type, props, order, children, conditions, responsive, styles, animation,
      accessibility, errorFallback⟩ := n
    simp only [Attempt.seq_eq_ok, Attempt.map_eq_ok, mk.injEq, ↓existsAndEq, and_true,
      and_assoc] at hread
    obtain ⟨-, -, hprops, -, hchildren, -, hresponsive, -⟩ := hread
    intro m hm
    rw [nodes_eq] at hm
    rcases List.mem_cons.1 hm with rfl | hm
    · intro s hs
      rcases List.mem_append.1 hs with hs | hs
      · rcases Record.nullDefault_eq_ok.1 hprops with ⟨-, rfl⟩ | ⟨w, hw, -, hd⟩
        · cases hs
        · exact Record.texts_field? hw (Decode.texts_table hd hs)
      · rcases Record.optional_eq_ok.1 hresponsive with ⟨-, rfl⟩ | ⟨w, r, hw, -, hd, rfl⟩
        · cases hs
        · exact Record.texts_field? hw (Responsive.texts_decode hd hs)
    · obtain ⟨c, hc, hm⟩ := mem_nodesOf.1 hm
      rcases Record.nullDefault_eq_ok.1 hchildren with ⟨-, hnil⟩ | ⟨w, hw, -, hd⟩
      · exact absurd hc (hnil ▸ List.not_mem_nil)
      · obtain ⟨u, hu, hsize, hc⟩ := Decode.mem_list hd hc
        have hsizes := Record.sizeOf_field? hw
        intro s hs
        exact Record.texts_field? hw (hu (ih (sizeOf u) (by omega) hc rfl m hm hs))

theorem children_of_decode {fields : Props} {n : Node} (h : decode (.object fields) = .ok n) :
    (fields.itemsAt "children").mapM decode = .ok n.children := by
  rw [decode_eq] at h
  have hread := Record.read_of_decode h
  obtain ⟨id, type, props, order, children, conditions, responsive, styles, animation,
    accessibility, errorFallback⟩ := n
  simp only [Attempt.seq_eq_ok, Attempt.map_eq_ok, mk.injEq, ↓existsAndEq, and_true,
    and_assoc] at hread
  obtain ⟨-, -, -, -, hchildren, -⟩ := hread
  exact Record.items_of_nullDefault hchildren

theorem mem_place {m n : Node} {ns : List Node} : m ∈ place n ns ↔ m = n ∨ m ∈ ns := by
  induction ns with
  | nil => simp [place]
  | cons k ns ih =>
    by_cases hk : n.order ≤ k.order
    · simp [place, hk]
    · simp only [place, hk, if_false, List.mem_cons, ih]
      exact or_left_comm

theorem mem_sorted {m : Node} {ns : List Node} : m ∈ sorted ns ↔ m ∈ ns := by
  induction ns with
  | nil => simp [sorted]
  | cons n ns ih => rw [sorted, mem_place, ih, List.mem_cons]

mutual

theorem mem_nodes_arranged {m : Node} :
    ∀ n : Node, m ∈ n.arranged.nodes → ∃ l ∈ n.nodes, m = l.arranged
  | .mk _ _ _ _ children _ _ _ _ _ _ => by
    intro hm
    rw [nodes_eq] at hm ⊢
    rcases List.mem_cons.1 hm with rfl | hm
    · exact ⟨_, List.mem_cons_self, rfl⟩
    · rw [arranged] at hm
      obtain ⟨c, hc, hm⟩ := mem_nodesOf.1 hm
      obtain ⟨l, hl, rfl⟩ := mem_nodesOf_arrangedAll children c (mem_sorted.1 hc) hm
      exact ⟨l, List.mem_cons_of_mem _ hl, rfl⟩

theorem mem_nodesOf_arrangedAll {m : Node} :
    ∀ ns : List Node, ∀ c ∈ arrangedAll ns, m ∈ c.nodes → ∃ l ∈ nodesOf ns, m = l.arranged
  | [] => fun _ hc => nomatch hc
  | n :: ns => by
    intro c hc hm
    rw [arrangedAll] at hc
    rcases List.mem_cons.1 hc with rfl | hc
    · obtain ⟨l, hl, rfl⟩ := mem_nodes_arranged n hm
      exact ⟨l, List.mem_append_left _ hl, rfl⟩
    · obtain ⟨l, hl, rfl⟩ := mem_nodesOf_arrangedAll ns c hc hm
      exact ⟨l, List.mem_append_right _ hl, rfl⟩

end

@[simp] theorem arranged_id (n : Node) : n.arranged.id = n.id := by
  cases n
  rfl

@[simp] theorem arranged_resolvedProps (n : Node) (s : Scene) :
    n.arranged.resolvedProps s = n.resolvedProps s := by
  cases n
  rfl

end Node

namespace Document

def nodes (d : Document) : List Node := Node.nodesOf d.components

theorem texts_decode {v : Value} {d : Document} (h : decode v = .ok d) :
    ∀ m ∈ d.nodes, m.texts ⊆ v.texts := by
  have hread := Record.read_of_decode h
  obtain ⟨id, version, layout, theme, metadata, components, errorBoundary, loading,
    animations⟩ := d
  simp only [Attempt.seq_eq_ok, Attempt.map_eq_ok, mk.injEq, ↓existsAndEq, and_true,
    and_assoc] at hread
  obtain ⟨-, -, -, -, -, hcomponents, -⟩ := hread
  intro m hm
  obtain ⟨c, hc, hm⟩ := Node.mem_nodesOf.1 hm
  rcases Record.nullDefault_eq_ok.1 hcomponents with ⟨-, hnil⟩ | ⟨w, hw, -, hd⟩
  · exact absurd hc (hnil ▸ List.not_mem_nil)
  · obtain ⟨u, hu, -, hc⟩ := Decode.mem_list hd hc
    intro s hs
    exact Record.texts_field? hw (hu (Node.texts_decode hc m hm hs))

theorem get?_withComponentList {fields : Props} {key : String} (h : key ≠ "components") :
    (withComponentList fields).get? key = fields.get? key := by
  unfold withComponentList
  split
  · rfl
  · rfl
  · rfl
  · rw [Table.get?_insert, if_neg h.symm]

theorem itemsAt_withComponentList (fields : Props) :
    (withComponentList fields).itemsAt "components" = fields.itemsAt "components" := by
  unfold withComponentList
  split
  · rfl
  · rfl
  · rfl
  · rename_i v hnull hlist hget
    rw [Props.itemsAt, Props.itemsAt, Table.get?_insert, if_pos rfl, hget]
    cases v with
    | list items => exact absurd rfl (hlist items)
    | _ => rfl

theorem components_of_decode {fields : Props} {d : Document} (h : decode (.object fields) = .ok d) :
    (fields.itemsAt "components").mapM Node.decode = .ok d.components := by
  have hread := Record.read_of_decode h
  obtain ⟨id, version, layout, theme, metadata, components, errorBoundary, loading,
    animations⟩ := d
  simp only [Attempt.seq_eq_ok, Attempt.map_eq_ok, mk.injEq, ↓existsAndEq, and_true,
    and_assoc] at hread
  obtain ⟨-, -, -, -, -, hcomponents, -⟩ := hread
  exact Record.items_of_nullDefault hcomponents

theorem components_of_ofValue {fields : Props} {d : Document}
    (h : ofValue (.object fields) = .ok d) :
    (fields.itemsAt "components").mapM Node.decode = .ok d.components := by
  obtain ⟨_, heq, hd⟩ := ofValue_eq_ok h
  cases heq
  rw [← itemsAt_withComponentList]
  exact components_of_decode hd

theorem texts_ofValue {v : Value} {d : Document} (h : ofValue v = .ok d) :
    ∀ m ∈ d.nodes, m.texts ⊆ v.texts := by
  obtain ⟨fields, rfl, hd⟩ := ofValue_eq_ok h
  intro m hm s hs
  have hs := texts_decode hd m hm hs
  unfold withComponentList at hs
  split at hs
  · exact hs
  · exact hs
  · exact hs
  · rcases Props.mem_texts_insert hs with hs | hs
    · exact hs
    · cases hs

end Document

end PageConfig
