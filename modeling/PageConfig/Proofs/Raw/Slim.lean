import PageConfig.Proofs.Raw.Texts
import PageConfig.Proofs.Value.Path

/-!
# Slim documents and the other stages

A slim node has six fields, and each of them is looked up in the node. So slimming a
slim node changes nothing, a node may be cleaned before or after it is slimmed, and
no slim node looks like a list.
-/

set_option autoImplicit false

namespace PageConfig

section Tables

variable {α β : Type}

theorem Table.insert_insert (t : Table α) (key : String) (v w : α) :
    (t.insert key v).insert key w = t.insert key w := by
  induction t with
  | nil => simp [insert]
  | cons e t ih =>
    obtain ⟨k, u⟩ := e
    by_cases hlt : key < k
    · simp [insert, hlt]
    · by_cases heq : key = k
      · subst heq
        simp [insert]
      · simp [insert, hlt, heq, ih]

theorem Table.mapValues_ofList (f : α → β) (entries : List (String × α)) :
    (Table.ofList entries).mapValues f = Table.ofList (Table.mapValues f entries) := by
  suffices h : ∀ t : Table α, Table.mapValues f (entries.foldl (fun t e => t.insert e.1 e.2) t) =
      (Table.mapValues f entries).foldl (fun t e => t.insert e.1 e.2) (t.mapValues f) from h []
  induction entries with
  | nil => exact fun t => rfl
  | cons e entries ih =>
    intro t
    rw [List.foldl_cons, ih, mapValues_insert]
    rfl

theorem Props.mapValues_ofFields (f : Value → Value) (fields : List (String × Option Value)) :
    (Props.ofFields fields).mapValues f =
      Props.ofFields (Table.mapValues (Option.map f) fields) := by
  rw [ofFields, ofFields, Table.mapValues_ofList]
  apply congrArg Table.ofList
  simp only [Table.mapValues, List.map_filterMap, List.filterMap_map]
  congr 1
  funext e
  obtain ⟨k, v⟩ := e
  cases v <;> rfl

end Tables

theorem toString_ne_of_not_digit {key : String} {c : Char} (hc : c ∈ key.toList)
    (hdigit : c.isDigit = false) (n : Nat) : toString n ≠ key := by
  intro h
  rw [← h] at hc
  have hdigit' := isDigit_of_mem_toString hc
  rw [hdigit] at hdigit'
  cases hdigit'

theorem not_hasIndexKeys {fields : Table Value} {key : String} {c : Char}
    (hkey : (fields.get? key).isSome) (hc : c ∈ key.toList) (hdigit : c.isDigit = false) :
    ¬ HasIndexKeys fields := by
  rintro ⟨n, -, hperm⟩
  have hmem : key ∈ indexKeys n := hperm.mem_iff.1 (Table.get?_isSome_iff.1 hkey)
  obtain ⟨i, -, hi⟩ := List.mem_map.1 hmem
  exact toString_ne_of_not_digit hc hdigit i hi

namespace Value

theorem cleanItems_eq_map (items : List Value) : cleanItems items = items.map cleanTexts := by
  induction items with
  | nil => rfl
  | cons v items ih => rw [cleanItems, ih, List.map_cons]

theorem cleanFields_eq_mapValues (fields : List (String × Value)) :
    cleanFields fields = Table.mapValues cleanTexts fields := by
  induction fields with
  | nil => rfl
  | cons e fields ih => rw [cleanFields, ih, Table.mapValues, Table.mapValues, List.map_cons]

theorem cleanTexts_object (fields : Props) :
    (object fields).cleanTexts = .object (fields.mapValues cleanTexts) := by
  rw [cleanTexts, cleanFields_eq_mapValues]

theorem cleanTexts_list (items : List Value) :
    (list items).cleanTexts = .list (items.map cleanTexts) := by
  rw [cleanTexts, cleanItems_eq_map]

theorem slimNodes_eq_map (items : List Value) : slimNodes items = items.map slimNode := by
  induction items with
  | nil => rfl
  | cons v items ih => rw [slimNodes, ih, List.map_cons]

end Value

namespace Props

theorem listed_cleanTexts (items : List Value) :
    listed (items.map Value.cleanTexts) = (listed items).map Value.cleanTexts := by
  cases items with
  | nil => rfl
  | cons v items => simp [listed, Value.cleanTexts, Value.cleanItems_eq_map]

theorem itemsAt_mapValues (fields : Props) (key : String) :
    itemsAt (fields.mapValues Value.cleanTexts) key =
      (fields.itemsAt key).map Value.cleanTexts := by
  rw [itemsAt, itemsAt, Table.get?_mapValues]
  cases fields.get? key with
  | none => rfl
  | some v => cases v <;> simp [Value.cleanTexts, Value.cleanItems_eq_map]

theorem tableAt_mapValues (fields : Props) (key : String) :
    tableAt (fields.mapValues Value.cleanTexts) key =
      (fields.tableAt key).mapValues Value.cleanTexts := by
  rw [tableAt, tableAt, Table.get?_mapValues]
  cases fields.get? key with
  | none => rfl
  | some v => cases v <;> simp [Value.cleanTexts, Value.cleanFields_eq_mapValues, Table.mapValues]

end Props

namespace Value

open Props

theorem slimChildren_eq (fields : Props) :
    slimChildren fields = (fields.itemsAt "children").map slimNode := by
  rw [itemsAt]
  induction fields with
  | nil => rfl
  | cons e fields ih =>
    obtain ⟨k, v⟩ := e
    by_cases hk : k = "children"
    · cases v <;> simp [slimChildren, Table.get?, hk, slimNodes_eq_map]
    · cases v <;> simp [slimChildren, Table.get?, hk, ih]

def slimFields (fields : Props) : List (String × Option Value) := [
  ("id", fields.get? "id"),
  ("type", fields.get? "type"),
  ("props", some (.object (fields.tableAt "props"))),
  ("order", fields.get? "order"),
  ("children", listed ((fields.itemsAt "children").map slimNode)),
  ("conditions", listed (fields.itemsAt "conditions"))]

theorem slimNode_object (fields : Props) :
    (object fields).slimNode = .ofFields (slimFields fields) := by
  rw [slimNode, slimChildren_eq]
  apply congrArg Value.ofFields
  simp only [slimFields, List.cons.injEq, Prod.mk.injEq, true_and, and_true, Option.some.injEq]
  refine ⟨?_, ?_, ?_⟩
  · unfold tableAt
    cases fields.get? "props" with
    | none => rfl
    | some v => cases v <;> rfl
  · cases (fields.itemsAt "children").map slimNode <;> rfl
  · unfold itemsAt
    cases fields.get? "conditions" with
    | none => rfl
    | some v =>
      cases v with
      | list items => cases items <;> rfl
      | _ => rfl

theorem get?_slimFields {fields : Props} {key : String} {v? : Option Value}
    (h : Table.get? (slimFields fields) key = some v?) :
    (Props.ofFields (slimFields fields)).get? key = v? := by
  rw [get?_ofFields (by simp [slimFields]), h]
  rfl

theorem get?_slimFields_none {fields : Props} {key : String}
    (h : Table.get? (slimFields fields) key = none) :
    (Props.ofFields (slimFields fields)).get? key = none := by
  rw [get?_ofFields (by simp [slimFields]), h]
  rfl

theorem slimFields_slim {fields : Props}
    (h : ∀ v ∈ fields.itemsAt "children", v.slimNode.slimNode = v.slimNode) :
    slimFields (Props.ofFields (slimFields fields)) = slimFields fields := by
  have hprops : tableAt (Props.ofFields (slimFields fields)) "props" = fields.tableAt "props" := by
    rw [tableAt, get?_slimFields rfl]
  have hchildren : itemsAt (Props.ofFields (slimFields fields)) "children" =
      (fields.itemsAt "children").map slimNode := itemsAt_of_get? (get?_slimFields rfl)
  have hconditions : itemsAt (Props.ofFields (slimFields fields)) "conditions" =
      fields.itemsAt "conditions" := itemsAt_of_get? (get?_slimFields rfl)
  have hagain : ((fields.itemsAt "children").map slimNode).map slimNode =
      (fields.itemsAt "children").map slimNode := by
    rw [List.map_map]
    exact List.map_congr_left h
  rw [slimFields, hprops, hchildren, hconditions, hagain, get?_slimFields rfl,
    get?_slimFields rfl, get?_slimFields rfl, ← slimFields]

theorem slimNode_of_not_object {v : Value} (h : v.asObject? = none) : v.slimNode = v := by
  cases v with
  | object fields => cases h
  | _ => rfl

theorem slimNode_slimNode (v : Value) : v.slimNode.slimNode = v.slimNode := by
  induction v using Value.induct_below "children" with
  | object fields ih =>
    rw [slimNode_object, Value.ofFields, slimNode_object, slimFields_slim ih, Value.ofFields]
  | other v hv => rw [slimNode_of_not_object hv, slimNode_of_not_object hv]

theorem slimFields_cleanTexts {fields : Props}
    (h : ∀ v ∈ fields.itemsAt "children", v.cleanTexts.slimNode = v.slimNode.cleanTexts) :
    slimFields (fields.mapValues cleanTexts) =
      Table.mapValues (Option.map cleanTexts) (slimFields fields) := by
  have hchildren : (itemsAt (fields.mapValues cleanTexts) "children").map slimNode =
      ((fields.itemsAt "children").map slimNode).map cleanTexts := by
    rw [itemsAt_mapValues, List.map_map, List.map_map]
    exact List.map_congr_left h
  rw [slimFields, hchildren, itemsAt_mapValues, tableAt_mapValues, listed_cleanTexts,
    listed_cleanTexts, Table.get?_mapValues, Table.get?_mapValues, Table.get?_mapValues,
    ← cleanTexts_object]
  rfl

theorem slimNode_cleanTexts (v : Value) : v.cleanTexts.slimNode = v.slimNode.cleanTexts := by
  induction v using Value.induct_below "children" with
  | object fields ih =>
    rw [cleanTexts_object, slimNode_object, slimFields_cleanTexts ih, slimNode_object,
      Value.ofFields, Value.ofFields, cleanTexts_object, mapValues_ofFields]
  | other v hv =>
    cases v with
    | object fields => cases hv
    | _ => rfl

theorem normal_get? {fields : Props} {key : String} (h : (object fields).Normal) {v : Value}
    (hv : fields.get? key = some v) : v.Normal :=
  normalFields_iff.1 h.2 _ (Table.mem_of_get? hv)

theorem normal_itemsAt {fields : Props} {key : String} (h : (object fields).Normal) {v : Value}
    (hv : v ∈ fields.itemsAt key) : v.Normal := by
  unfold itemsAt at hv
  split at hv
  · rename_i items hget
    exact normalItems_iff.1 (normal_get? h hget) v hv
  · cases hv

theorem normal_ofFields {fields : List (String × Option Value)} {key : String} {c : Char}
    (hkey : ((Props.ofFields fields).get? key).isSome) (hc : c ∈ key.toList)
    (hdigit : c.isDigit = false) (h : ∀ f ∈ fields, ∀ v, f.2 = some v → v.Normal) :
    (Value.ofFields fields).Normal := by
  refine ⟨not_hasIndexKeys hkey hc hdigit, normalFields_iff.2 fun e he => ?_⟩
  rcases Table.mem_foldl_insert he with he | he
  · cases he
  · obtain ⟨f, hf, he⟩ := List.mem_filterMap.1 he
    obtain ⟨v, hv, rfl⟩ := Option.map_eq_some_iff.1 he
    exact h f hf v hv

theorem normal_listed {items : List Value} (h : ∀ v ∈ items, v.Normal) {v : Value}
    (hv : listed items = some v) : v.Normal := by
  cases items with
  | nil => cases hv
  | cons u items =>
    obtain rfl := Option.some.inj hv
    exact normalItems_iff.2 h

theorem normal_tableAt {fields : Props} (h : (object fields).Normal) (key : String) :
    (object (fields.tableAt key)).Normal := by
  unfold tableAt
  split
  · rename_i table hget
    exact normal_get? h hget
  · exact repair_normal (.object [])

/-- A slim node has props, so it never looks like a list. -/
theorem normal_slimNode (v : Value) (h : v.Normal) : v.slimNode.Normal := by
  induction v using Value.induct_below "children" with
  | object fields ih =>
    rw [slimNode_object]
    have hprops : ((Props.ofFields (slimFields fields)).get? "props").isSome := by
      rw [get?_slimFields rfl]
      rfl
    apply normal_ofFields (c := 'p') hprops (by decide) (by decide)
    simp only [slimFields, List.forall_mem_cons, List.not_mem_nil, false_implies, implies_true,
      and_true]
    refine ⟨fun w => normal_get? h, fun w => normal_get? h, fun w hw => ?_,
      fun w => normal_get? h, fun w => normal_listed ?_,
      fun w => normal_listed fun u hu => normal_itemsAt h hu⟩
    · obtain rfl := Option.some.inj hw
      exact normal_tableAt h "props"
    · intro u hu
      obtain ⟨c, hc, rfl⟩ := List.mem_map.1 hu
      exact ih c hc (normal_itemsAt h hc)
  | other v hv => rwa [slimNode_of_not_object hv]

theorem slimComponents_slimComponents (v : Value) :
    v.slimComponents.slimComponents = v.slimComponents := by
  cases v with
  | list nodes =>
    rw [slimComponents, slimComponents, slimNodes_eq_map, slimNodes_eq_map, List.map_map]
    exact congrArg Value.list (List.map_congr_left fun u _ => slimNode_slimNode u)
  | _ => rfl

theorem slimComponents_cleanTexts (v : Value) :
    v.cleanTexts.slimComponents = v.slimComponents.cleanTexts := by
  cases v with
  | list nodes =>
    rw [cleanTexts_list, slimComponents, slimComponents, cleanTexts_list, slimNodes_eq_map,
      slimNodes_eq_map, List.map_map, List.map_map]
    exact congrArg Value.list (List.map_congr_left fun u _ => slimNode_cleanTexts u)
  | _ => rfl

theorem normal_slimComponents {v : Value} (h : v.Normal) : v.slimComponents.Normal := by
  cases v with
  | list nodes =>
    rw [slimComponents, slimNodes_eq_map, Normal, normalItems_iff]
    intro w hw
    obtain ⟨u, hu, rfl⟩ := List.mem_map.1 hw
    exact normal_slimNode u (normalItems_iff.1 h u hu)
  | _ => trivial

def slimmed : Value → Value
  | .object fields =>
    match Table.get? fields "components" with
    | some components => .object (Table.insert fields "components" components.slimComponents)
    | none => .object fields
  | v => v

theorem optimize_eq (v : Value) : v.optimize = v.repair.slimmed := by
  rw [optimize]
  cases v.repair <;> rfl

theorem slimmed_slimmed (v : Value) : v.slimmed.slimmed = v.slimmed := by
  cases v with
  | object fields =>
    cases hget : Table.get? fields "components" with
    | none => simp only [slimmed, hget]
    | some components =>
      simp only [slimmed, hget, Table.get?_insert, if_true, Table.insert_insert,
        slimComponents_slimComponents]
  | _ => rfl

theorem slimmed_cleanTexts (v : Value) : v.cleanTexts.slimmed = v.slimmed.cleanTexts := by
  cases v with
  | object fields =>
    rw [cleanTexts_object, slimmed, slimmed, Table.get?_mapValues]
    cases Table.get? fields "components" with
    | none => exact (cleanTexts_object fields).symm
    | some components =>
      simp only [Option.map_some]
      rw [cleanTexts_object, Table.mapValues_insert, slimComponents_cleanTexts]
  | _ => rfl

theorem normal_slimmed {v : Value} (h : v.Normal) : v.slimmed.Normal := by
  cases v with
  | object fields =>
    cases hget : Table.get? fields "components" with
    | none => simpa only [slimmed, hget] using h
    | some components =>
      simp only [slimmed, hget]
      have hkey : ((Table.insert fields "components" components.slimComponents).get?
          "components").isSome := by
        rw [Table.get?_insert, if_pos rfl]
        rfl
      refine ⟨not_hasIndexKeys (c := 'c') hkey (by decide) (by decide),
        normalFields_iff.2 fun e he => ?_⟩
      rcases Table.mem_insert he with rfl | he
      · exact normal_slimComponents (normal_get? h hget)
      · exact normalFields_iff.1 h.2 e he
  | _ => exact h

theorem normal_cleanTexts (v : Value) (h : v.Normal) : v.cleanTexts.Normal := by
  induction v using Value.induct with
  | list items ih =>
    rw [cleanTexts_list, Normal, normalItems_iff]
    intro w hw
    obtain ⟨u, hu, rfl⟩ := List.mem_map.1 hw
    exact ih u hu (normalItems_iff.1 h u hu)
  | object fields ih =>
    rw [cleanTexts_object, Normal, hasIndexKeys_mapValues, normalFields_iff]
    refine ⟨h.1, fun e he => ?_⟩
    obtain ⟨d, hd, rfl⟩ := List.mem_map.1 he
    exact ih d hd (normalFields_iff.1 h.2 d hd)
  | _ => trivial

end Value

end PageConfig
