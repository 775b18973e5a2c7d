import PageConfig.Proofs.Document.Nodes
import PageConfig.Proofs.Raw.Slim

/-!
# Slim documents, typed

To slim a raw document and to type it is to type it and to slim the typed document,
as long as its nodes are objects. A node that is written as a list is not slimmed, so
it is typed as it was.
-/

set_option autoImplicit false

namespace PageConfig

section Fields

variable {α : Type} {v w : Value} {r : Record v} {s : Record w} {i j : Nat} {key key' : String}

theorem Record.withDefault_congr {decode : Decoder α} {default a : α}
    (hs : s.field? j key' = r.field? i key) (hr : r.withDefault i key default decode = .ok a) :
    s.withDefault j key' default decode = .ok a := by
  rw [withDefault_eq_ok, hs]
  exact withDefault_eq_ok.1 hr

theorem Record.optional_absent {decode : Decoder α} (hs : s.field? j key' = none) :
    s.optional j key' decode = .ok none :=
  optional_eq_ok.2 (.inl ⟨.inl hs, rfl⟩)

theorem Record.nullDefault_present {u : Value} {decode : Decoder α} {default a : α}
    (hs : s.field? j key' = some u) (hu : u ≠ .null) (hd : decode u = .ok a) :
    s.nullDefault j key' default decode = .ok a :=
  nullDefault_eq_ok.2 (.inr ⟨u, hs, hu, hd⟩)

theorem Record.nullDefault_listed {decode : Decoder α} {items : List Value} {as : List α}
    (hs : s.field? j key' = Props.listed items) (hd : items.mapM decode = .ok as) :
    s.nullDefault j key' [] (Decode.list decode) = .ok as := by
  cases items with
  | nil =>
    cases hd
    exact nullDefault_eq_ok.2 (.inl ⟨.inl hs, rfl⟩)
  | cons item items => exact nullDefault_present hs (by simp) hd

theorem Record.table_of_nullDefault {fields : Props} {r : Record (.object fields)} {t : Props}
    (h : r.nullDefault i key [] Decode.table = .ok t) : fields.tableAt key = t := by
  rw [Props.tableAt]
  rcases nullDefault_eq_ok.1 h with ⟨hnone | hnull, rfl⟩ | ⟨u, hu, -, hd⟩
  · have hnone : fields.get? key = none := hnone
    rw [hnone]
  · have hnull : fields.get? key = some .null := hnull
    rw [hnull]
  · have hu : fields.get? key = some u := hu
    rw [hu]
    cases u with
    | object table => exact Except.ok.inj hd
    | _ => cases hd

section Slim

variable {fields : Props} {s : Record (.object (Props.ofFields (Value.slimFields fields)))}

theorem Record.field?_slim {v? : Option Value}
    (h : Table.get? (Value.slimFields fields) key = some v?) : s.field? i key = v? :=
  Value.get?_slimFields h

theorem Record.field?_slim_none (h : Table.get? (Value.slimFields fields) key = none) :
    s.field? i key = none :=
  Value.get?_slimFields_none h

end Slim

end Fields

namespace Node

mutual

def slim : Node → Node
  | .mk id type props order children conditions _ _ _ _ _ =>
    { id, type, props, order, children := slimAll children, conditions }

def slimAll : List Node → List Node
  | [] => []
  | n :: ns => n.slim :: slimAll ns

end

mutual

/-- `SlimOf m n`: the node `n` is `m`, or it is slimmed in `m` but for what is kept among its
children. -/
inductive SlimOf : Node → Node → Prop
  | kept (n : Node) : SlimOf n n
  | slimmed {id type : String} {props : Props} {order : Int} {ms ns : List Node}
    {conditions : List Condition} {responsive : Option Responsive} {styles : Option Styles}
    {animation : Option NodeAnimation} {accessibility : Option Accessibility}
    {errorFallback : Option Node} : SlimOfAll ms ns →
    SlimOf { id, type, props, order, children := ms, conditions }
      (.mk id type props order ns conditions responsive styles animation accessibility
        errorFallback)

inductive SlimOfAll : List Node → List Node → Prop
  | nil : SlimOfAll [] []
  | cons {m n : Node} {ms ns : List Node} : SlimOf m n → SlimOfAll ms ns →
    SlimOfAll (m :: ms) (n :: ns)

end

/-- The slim node is typed, as the slim one if all nodes there are objects. -/
def TypesSlim (v : Value) (n : Node) : Prop :=
  ∃ m, decode v.slimNode = .ok m ∧ SlimOf m n ∧
    ((∀ u ∈ v.preorder, u.asObject?.isSome) → m = n.slim)

theorem mapM_slimNode {items : List Value} {ns : List Node} (h : items.mapM decode = .ok ns)
    (hitems : ∀ v ∈ items, ∀ n, decode v = .ok n → TypesSlim v n) :
    ∃ ms, (items.map Value.slimNode).mapM decode = .ok ms ∧ SlimOfAll ms ns ∧
      ((∀ u ∈ Value.preorderAll items, u.asObject?.isSome) → ms = slimAll ns) := by
  induction items generalizing ns with
  | nil =>
    cases h
    exact ⟨[], rfl, .nil, fun _ => rfl⟩
  | cons v items ih =>
    rw [List.mapM_cons] at h
    obtain ⟨n, hn, h⟩ := bind_eq_ok.1 h
    obtain ⟨ns, hns, h⟩ := bind_eq_ok.1 h
    obtain rfl := Except.ok.inj h
    obtain ⟨m, hm, hslim, hobject⟩ := hitems v List.mem_cons_self n hn
    obtain ⟨ms, hms, hslims, hobjects⟩ := ih hns fun w hw => hitems w (List.mem_cons_of_mem v hw)
    refine ⟨m :: ms, ?_, .cons hslim hslims, fun hall => ?_⟩
    · rw [List.map_cons, List.mapM_cons, hm, hms]
      rfl
    · rw [Value.preorderAll] at hall
      rw [slimAll, hobject fun u hu => hall u (List.mem_append_left _ hu),
        hobjects fun u hu => hall u (List.mem_append_right _ hu)]

theorem decode_slimNode {fields : Props} {n : Node} {ms : List Node}
    (h : decode (.object fields) = .ok n)
    (hms : ((fields.itemsAt "children").map Value.slimNode).mapM decode = .ok ms) :
    decode (Value.object fields).slimNode = .ok
      { id := n.id, type := n.type, props := n.props, order := n.order, children := ms,
        conditions := n.conditions } := by
  rw [decode_eq] at h ⊢
  have hread := Record.read_of_decode h
  obtain ⟨id, type, props, order, children, conditions, responsive, styles, animation,
    accessibility, errorFallback⟩ := n
  simp only [Attempt.seq_eq_ok, Attempt.map_eq_ok, mk.injEq, ↓existsAndEq, and_true,
    and_assoc] at hread
  obtain ⟨hid, htype, hprops, horder, -, hconditions, -⟩ := hread
  have hconditions := Record.items_of_nullDefault hconditions
  rw [Value.slimNode_object, Value.ofFields]
  apply Record.decode_object.2
  simp only [Attempt.seq_eq_ok, Attempt.map_eq_ok, mk.injEq, ↓existsAndEq, and_true, and_assoc]
  refine ⟨Record.withDefault_congr (Record.field?_slim rfl) hid,
    Record.withDefault_congr (Record.field?_slim rfl) htype, ?_,
    Record.withDefault_congr (Record.field?_slim rfl) horder,
    Record.nullDefault_listed (Record.field?_slim rfl) hms,
    Record.nullDefault_listed (Record.field?_slim rfl) hconditions,
    Record.optional_absent (Record.field?_slim_none rfl),
    Record.optional_absent (Record.field?_slim_none rfl),
    Record.optional_absent (Record.field?_slim_none rfl),
    Record.optional_absent (Record.field?_slim_none rfl),
    Record.optional_absent (Record.field?_slim_none rfl)⟩
  apply Record.nullDefault_present (Record.field?_slim rfl) (by simp)
  exact congrArg Except.ok (Record.table_of_nullDefault hprops)

/-- Wherever a node can be typed, the slim one can. -/
theorem typesSlim_of_decode (v : Value) : ∀ n, decode v = .ok n → TypesSlim v n := by
  induction v using Value.induct_below "children" with
  | object fields ih =>
    intro n h
    obtain ⟨ms, hms, hslims, hobjects⟩ := mapM_slimNode (children_of_decode h) ih
    obtain ⟨id, type, props, order, children, conditions, responsive, styles, animation,
      accessibility, errorFallback⟩ := n
    refine ⟨_, decode_slimNode h hms, .slimmed hslims, fun hall => ?_⟩
    rw [Value.preorder_object] at hall
    rw [slim, hobjects fun u hu => hall u (List.mem_cons_of_mem _ hu)]
  | other v hv =>
    intro n h
    refine ⟨n, by rwa [Value.slimNode_of_not_object hv], .kept n, fun hall => ?_⟩
    rw [← Option.not_isSome_iff_eq_none] at hv
    exact absurd (hall v v.mem_preorder_self) hv

theorem nullDefault_slimComponents {w c : Value} {s : Record w} {i : Nat} {key : String}
    {fields : Props} {ms : List Node} (hget : fields.get? key = some c)
    (hs : s.field? i key = some c.slimComponents)
    (hms : ((fields.itemsAt key).map Value.slimNode).mapM decode = .ok ms) :
    s.nullDefault i key [] (Decode.list decode) = .ok ms := by
  rw [Props.itemsAt, hget] at hms
  cases c with
  | null =>
    cases hms
    exact Record.nullDefault_eq_ok.2 (.inl ⟨.inr hs, rfl⟩)
  | list items =>
    rw [Value.slimComponents, Value.slimNodes_eq_map] at hs
    exact Record.nullDefault_present hs (by simp) hms
  | _ =>
    cases hms
    exact Record.nullDefault_present hs (by simp [Value.slimComponents]) rfl

end Node

namespace Document

def slim (d : Document) : Document := { d with components := Node.slimAll d.components }

theorem decode_components {fields fields' : Props} {d : Document} {ms : List Node}
    (h : decode (.object fields) = .ok d)
    (hsame : ∀ key, key ≠ "components" → fields'.get? key = fields.get? key)
    (hms : ∀ s : Record (.object fields'),
      s.nullDefault 5 "components" [] (Decode.list Node.decode) = .ok ms) :
    decode (.object fields') = .ok { d with components := ms } := by
  have hread := Record.read_of_decode h
  obtain ⟨id, version, layout, theme, metadata, components, errorBoundary, loading,
    animations⟩ := d
  simp only [Attempt.seq_eq_ok, Attempt.map_eq_ok, mk.injEq, ↓existsAndEq, and_true,
    and_assoc] at hread
  obtain ⟨hid, hversion, hlayout, htheme, hmetadata, -, herrorBoundary, hloading,
    hanimations⟩ := hread
  have same {r : Record (.object fields)} {s : Record (.object fields')} {i : Nat} {key : String}
      (hkey : key ≠ "components") : s.field? i key = r.field? i key := hsame key hkey
  apply Record.decode_object.2
  simp only [Attempt.seq_eq_ok, Attempt.map_eq_ok, mk.injEq, ↓existsAndEq, and_true, and_assoc]
  exact ⟨Record.withDefault_congr (same (by decide)) hid,
    Record.withDefault_congr (same (by decide)) hversion,
    Record.withDefault_congr (same (by decide)) hlayout,
    Record.withDefault_congr (same (by decide)) htheme,
    Record.withDefault_congr (same (by decide)) hmetadata, hms _,
    Record.withDefault_congr (same (by decide)) herrorBoundary,
    Record.withDefault_congr (same (by decide)) hloading,
    Record.withDefault_congr (same (by decide)) hanimations⟩

theorem ofValue_of_decode {fields : Props} {d : Document}
    (hlist : withComponentList fields = fields)
    (h : decode (.object fields) = .ok d) : ofValue (.object fields) = .ok d := by
  rw [ofValue, hlist, h]

theorem ofValue_slimmed {v : Value} {d : Document} (h : ofValue v = .ok d) :
    ∃ ms, ofValue v.slimmed = .ok { d with components := ms } ∧
      Node.SlimOfAll ms d.components ∧
      ((∀ u ∈ v.nodes, u.asObject?.isSome) → ms = Node.slimAll d.components) := by
  obtain ⟨fields, rfl, hd⟩ := ofValue_eq_ok h
  have hcomponents := components_of_ofValue h
  obtain ⟨ms, hms, hslims, hobjects⟩ :=
    Node.mapM_slimNode hcomponents fun u _ => Node.typesSlim_of_decode u
  refine ⟨ms, ?_, hslims, hobjects⟩
  cases hget : Table.get? fields "components" with
  | none =>
    rw [Props.itemsAt, hget] at hms hcomponents
    obtain rfl : ms = d.components := Except.ok.inj (hms.symm.trans hcomponents)
    simp only [Value.slimmed, hget, h]
  | some c =>
    simp only [Value.slimmed, hget]
    have hfield : (Table.insert fields "components" c.slimComponents).get? "components" =
        some c.slimComponents := by
      rw [Table.get?_insert, if_pos rfl]
    apply ofValue_of_decode
    · unfold withComponentList
      rw [hfield]
      cases c <;> rfl
    · apply decode_components hd
      · intro key hkey
        rw [get?_withComponentList hkey, Table.get?_insert, if_neg hkey.symm]
      · exact fun s => Node.nullDefault_slimComponents hget hfield hms

/-- To slim a document and to type it is to type it and to slim what it is typed as, if all
its nodes are objects. -/
theorem ofValue_optimize {raw : Value} {d : Document} (h : ofValue raw.repair = .ok d)
    (hobjects : ∀ u ∈ raw.repair.nodes, u.asObject?.isSome) :
    ofValue raw.optimize = .ok d.slim := by
  obtain ⟨ms, hms, -, hslim⟩ := ofValue_slimmed h
  rw [Value.optimize_eq, hms, hslim hobjects, slim]

def ladenValue : Value := .object [
  ("components", .object [("0", .object [
    ("accessibility", .object [("role", .text "list")]),
    ("children", .list [.object [
      ("id", .whole 7),
      ("props", .null),
      ("styles", .object [("className", .text "wide")]),
      ("type", .text "Text")]]),
    ("conditions", .list [.object [("operator", .text "exists")]]),
    ("errorFallback", .object [("type", .text "Text")]),
    ("id", .text "a"),
    ("order", .whole 2),
    ("responsive", .object [("mobile", .object [("columns", .whole 1)])]),
    ("type", .text "Grid")])]),
  ("theme", .object [])]

def ladenNode : Node where
  id := "a"
  type := "Grid"
  order := 2
  children := [{ id := "7", type := "Text", styles := some { className := some "wide" } }]
  conditions := [.test "" .exists .null]
  responsive := some { mobile := some [("columns", .whole 1)] }
  accessibility := some { role := some "list" }
  errorFallback := some { type := "Text" }

theorem ladenValue_slim :
    ofValue ladenValue.repair = .ok { components := [ladenNode], theme := some {} } ∧
    (∀ u ∈ ladenValue.repair.nodes, u.asObject?.isSome) ∧
    ofValue ladenValue.optimize = .ok {
      components := [{
        id := "a"
        type := "Grid"
        order := 2
        children := [{ id := "7", type := "Text" }]
        conditions := [.test "" .exists .null] }]
      theme := some {} } := by
  have hd : ofValue ladenValue.repair = .ok { components := [ladenNode], theme := some {} } := by
    unfold ofValue decode
    rw [Node.decode_eq, Node.decode_eq, Condition.decode_eq]
    rfl
  have hobjects : ∀ u ∈ ladenValue.repair.nodes, u.asObject?.isSome :=
    List.all_eq_true.1 rfl
  exact ⟨hd, hobjects, ofValue_optimize hd hobjects⟩

end Document

end PageConfig
