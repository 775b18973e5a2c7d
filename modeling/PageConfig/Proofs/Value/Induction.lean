import PageConfig.Proofs.Value.Table

/-!
# Induction on values

A property of all values follows from one step for each kind, where the items of a
list and the fields of an object may be assumed to have it. Where a value is looked at as
a node only the items below one key count.
-/

set_option autoImplicit false

namespace PageConfig

namespace Value

theorem sizeOf_item {items : List Value} {v : Value} (h : v ∈ items) :
    sizeOf v < sizeOf (Value.list items) := by
  have := List.sizeOf_lt_of_mem h
  simp only [list.sizeOf_spec]
  omega

theorem sizeOf_entry {fields : List (String × Value)} {e : String × Value} (h : e ∈ fields) :
    sizeOf e.2 < sizeOf (Value.object fields) := by
  have := List.sizeOf_lt_of_mem h
  obtain ⟨k, v⟩ := e
  simp only [Prod.mk.sizeOf_spec] at this
  simp only [object.sizeOf_spec]
  omega

@[elab_as_elim]
theorem induct {P : Value → Prop} (null : P null) (bool : ∀ b, P (bool b))
    (number : ∀ n, P (number n)) (text : ∀ s, P (text s))
    (list : ∀ items, (∀ v ∈ items, P v) → P (list items))
    (object : ∀ fields, (∀ e ∈ fields, P e.2) → P (object fields)) (v : Value) : P v := by
  induction h : sizeOf v using Nat.strongRecOn generalizing v with
  | ind n ih =>
    subst h
    cases v with
    | null => exact null
    | bool b => exact bool b
    | number n => exact number n
    | text s => exact text s
    | list items => exact list items fun v hv => ih _ (sizeOf_item hv) v rfl
    | object fields => exact object fields fun e he => ih _ (sizeOf_entry he) e.2 rfl

end Value

theorem Props.sizeOf_itemsAt {fields : Props} {key : String} {v : Value}
    (h : v ∈ fields.itemsAt key) : sizeOf v < sizeOf (Value.object fields) := by
  unfold itemsAt at h
  split at h
  · rename_i items hget
    exact Nat.lt_trans (Value.sizeOf_item h) (Value.sizeOf_entry (Table.mem_of_get? hget))
  · cases h

/-- For trees of objects whose children are the items below the key. -/
@[elab_as_elim]
theorem Value.induct_below {P : Value → Prop} (key : String)
    (object : ∀ fields : Props, (∀ v ∈ fields.itemsAt key, P v) → P (.object fields))
    (other : ∀ v, v.asObject? = none → P v) (v : Value) : P v := by
  induction h : sizeOf v using Nat.strongRecOn generalizing v with
  | ind n ih =>
    subst h
    cases v with
    | object fields => exact object fields fun u hu => ih _ (Props.sizeOf_itemsAt hu) u rfl
    | _ => exact other _ rfl

end PageConfig
