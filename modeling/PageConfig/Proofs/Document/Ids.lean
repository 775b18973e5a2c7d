import Mathlib.Data.List.Nodup
import PageConfig.Proofs.Document.Nodes
import PageConfig.Raw.Report

/-!
# The ids of a document

The examination of a raw document reads the id of a node as text before the node is
typed. On nodes that are objects it reads what the typed node gets, so a document
without findings has no id twice, except that all nodes without an id share the
empty one.
-/

set_option autoImplicit false

namespace PageConfig

namespace Value

theorem isObject_of_hasType {v : Value} (h : v.hasType) : v.asObject?.isSome := by
  cases v with
  | object fields => rfl
  | _ => cases h

end Value

namespace Node

theorem id_of_decode {v : Value} {n : Node} (hobject : v.asObject?.isSome)
    (h : decode v = .ok n) : n.id = v.idText := by
  obtain ⟨fields, rfl⟩ : ∃ fields, v = .object fields := by
    cases v with
    | object fields => exact ⟨fields, rfl⟩
    | _ => cases hobject
  rw [decode_eq] at h
  have hread := Record.read_of_decode h
  obtain ⟨id, type, props, order, children, conditions, responsive, styles, animation,
    accessibility, errorFallback⟩ := n
  simp only [Attempt.seq_eq_ok, Attempt.map_eq_ok, mk.injEq, ↓existsAndEq, and_true,
    and_assoc] at hread
  obtain ⟨hid, -⟩ := hread
  change id = Value.idText (.object fields)
  rcases Record.withDefault_eq_ok.1 hid with ⟨hnone, rfl⟩ | ⟨w, hw, hd⟩
  · have hnone : (Value.object fields).field? "id" = none := hnone
    rw [Value.idText, hnone]
  · have hw : (Value.object fields).field? "id" = some w := hw
    rw [Value.idText, hw]
    cases w <;> exact (Except.ok.inj hd).symm

theorem ids_of_mapM {items : List Value} {ns : List Node} (h : items.mapM decode = .ok ns)
    (hids : ∀ v ∈ items, ∀ n, decode v = .ok n →
      n.nodes.map Node.id = v.preorder.map Value.idText) :
    (nodesOf ns).map Node.id = (Value.preorderAll items).map Value.idText := by
  induction items generalizing ns with
  | nil =>
    cases h
    rfl
  | cons v items ih =>
    rw [List.mapM_cons] at h
    obtain ⟨n, hn, h⟩ := bind_eq_ok.1 h
    obtain ⟨ms, hms, h⟩ := bind_eq_ok.1 h
    obtain rfl := Except.ok.inj h
    rw [nodesOf, Value.preorderAll, List.map_append, List.map_append,
      hids v List.mem_cons_self n hn, ih hms fun w hw => hids w (List.mem_cons_of_mem _ hw)]

/-- The ids of the typed nodes are those read off the raw ones, where these are objects. -/
theorem ids_of_decode (v : Value) : (∀ u ∈ v.preorder, u.asObject?.isSome) →
    ∀ n, decode v = .ok n → n.nodes.map Node.id = v.preorder.map Value.idText := by
  induction v using Value.induct_below "children" with
  | object fields ih =>
    intro hobjects n hn
    have hid := id_of_decode (hobjects _ (Value.mem_preorder_self _)) hn
    rw [Value.preorder_object] at hobjects ⊢
    rw [nodes_eq, List.map_cons, List.map_cons, hid]
    congr 1
    apply ids_of_mapM (children_of_decode hn)
    intro u hu
    apply ih u hu fun w hw => hobjects w ?_
    exact List.mem_cons_of_mem _ (Value.preorder_subset_preorderAll hu hw)
  | other v hv =>
    intro hobjects
    rw [← Option.not_isSome_iff_eq_none] at hv
    exact absurd (hobjects v v.mem_preorder_self) hv

end Node

namespace Document

theorem ids_of_ofValue {v : Value} {d : Document} {items : List Value}
    (h : ofValue v = .ok d) (hitems : v.field? "components" = some (.list items))
    (hobjects : ∀ u ∈ Value.preorderAll items, u.asObject?.isSome) :
    d.nodes.map Node.id = (Value.preorderAll items).map Value.idText := by
  obtain ⟨fields, rfl, -⟩ := ofValue_eq_ok h
  have hitems : Table.get? fields "components" = some (.list items) := hitems
  have hdecoded := components_of_ofValue h
  rw [Props.itemsAt, hitems] at hdecoded
  apply Node.ids_of_mapM hdecoded
  intro u hu
  exact Node.ids_of_decode u fun w hw => hobjects w (Value.preorder_subset_preorderAll hu hw)

end Document

namespace Value

theorem of_nodeWarnings_eq_nil {seen : List String} {nodes : List Value}
    (h : nodeWarnings seen nodes = []) :
    (∀ v ∈ nodes, v.hasType) ∧ ((nodes.map idText).filter (· ≠ "")).Nodup ∧
      ∀ v ∈ nodes, v.idText ≠ "" → v.idText ∉ seen := by
  induction nodes generalizing seen with
  | nil => simp
  | cons v nodes ih =>
    simp only [nodeWarnings, List.append_eq_nil_iff] at h
    obtain ⟨⟨hrepeated, htyped⟩, hrest⟩ := h
    obtain ⟨htypes, hnodup, hfresh⟩ := ih hrest
    have htype : v.hasType := by
      by_contra hnone
      simp [hnone] at htyped
    have hself : v.idText ≠ "" → v.idText ∉ seen := by
      intro hid hseen
      simp [hid, hseen] at hrepeated
    refine ⟨List.forall_mem_cons.2 ⟨htype, htypes⟩, ?_, List.forall_mem_cons.2 ⟨hself, ?_⟩⟩
    · by_cases hid : v.idText = ""
      · simpa [hid] using hnodup
      · rw [List.map_cons, List.filter_cons_of_pos (by simpa using hid)]
        refine List.nodup_cons.2 ⟨fun hmem => ?_, hnodup⟩
        obtain ⟨w, hw, hsame⟩ := List.mem_map.1 (List.mem_of_mem_filter hmem)
        exact hfresh w hw (hsame ▸ hid) (hsame ▸ List.mem_cons_self)
    · intro w hw hid hseen
      exact hfresh w hw hid (List.mem_cons_of_mem _ hseen)

theorem of_examine_clean {document : Value} (herrors : document.examine.errors = [])
    (hwarnings : document.examine.warnings = []) :
    ∃ items, document.field? "components" = some (.list items) ∧
      nodeWarnings [] (preorderAll items) = [] := by
  simp only [examine, List.append_eq_nil_iff] at herrors hwarnings
  obtain ⟨⟨-, hcomponents⟩, -⟩ := herrors
  obtain ⟨-, hnodes⟩ := hwarnings
  cases hfield : document.field? "components" with
  | none => simp [hfield] at hcomponents
  | some w =>
    cases w with
    | list items =>
      simp only [hfield, walk_eq_preorderAll] at hnodes
      exact ⟨items, rfl, hnodes⟩
    | _ => simp [hfield, asList?] at hcomponents

end Value

namespace Document

/-- Where nothing is found in a raw document, no id but the empty one occurs twice in the
typed document. -/
theorem ids_nodup_of_validate {raw : Value} {d : Document}
    (herrors : raw.validate.errors = []) (hwarnings : raw.validate.warnings = [])
    (hd : ofValue raw.validate.repaired = .ok d) :
    ((d.nodes.map Node.id).filter (· ≠ "")).Nodup := by
  obtain ⟨items, hitems, hclean⟩ := Value.of_examine_clean herrors hwarnings
  obtain ⟨htypes, hnodup, -⟩ := Value.of_nodeWarnings_eq_nil hclean
  have hids := ids_of_ofValue hd hitems fun u hu => Value.isObject_of_hasType (htypes u hu)
  rw [hids]
  exact hnodup

def pageValue (components : List Value) : Value := .object [
  ("components", .list components),
  ("id", .text "page"),
  ("layout", .object []),
  ("version", .text "1")]

def pageOf (components : List Node) : Document where
  id := "page"
  version := some "1"
  components

def bareValue : Value := .object [("type", .text "Text")]

theorem ids_nodup_beside_nameless :
    let raw := pageValue [
      .object [
        ("children", .list [.object [("id", .whole 7), ("type", .text "Text")], bareValue]),
        ("id", .text "a"),
        ("type", .text "Grid")],
      bareValue]
    let d := pageOf [
      { id := "a", type := "Grid",
        children := [{ id := "7", type := "Text" }, { type := "Text" }] },
      { type := "Text" }]
    raw.validate.errors = [] ∧ raw.validate.warnings = [] ∧
      ofValue raw.validate.repaired = .ok d ∧ d.nodes.map Node.id = ["a", "7", "", ""] ∧
      ((d.nodes.map Node.id).filter (· ≠ "")).Nodup := by
  intro raw d
  have herrors : raw.validate.errors = [] := rfl
  have hwarnings : raw.validate.warnings = [] := rfl
  have hd : ofValue raw.validate.repaired = .ok d := by
    unfold ofValue decode
    rw [Node.decode_eq, Node.decode_eq]
    rfl
  exact ⟨herrors, hwarnings, hd, rfl, ids_nodup_of_validate herrors hwarnings hd⟩

theorem ids_not_always_nodup :
    ¬ ∀ (raw : Value) (d : Document), raw.validate.errors = [] → raw.validate.warnings = [] →
      ofValue raw.validate.repaired = .ok d → (d.nodes.map Node.id).Nodup := by
  intro h
  have hd : ofValue (pageValue [bareValue, bareValue]).validate.repaired =
      .ok (pageOf [{ type := "Text" }, { type := "Text" }]) := by
    unfold ofValue decode
    rw [Node.decode_eq]
    rfl
  have hnodup := h _ _ rfl rfl hd
  have hids : (pageOf [{ type := "Text" }, { type := "Text" }]).nodes.map Node.id = ["", ""] := rfl
  rw [hids] at hnodup
  exact absurd hnodup (by decide)

end Document

end PageConfig
