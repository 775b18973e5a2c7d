import PageConfig.Proofs.Value.Table
import PageConfig.Value.Merge

/-!
# Merged tables as maps

What a key holds after a merge depends only on what it held on the two sides. The overlay
has to name each key once.
-/

set_option autoImplicit false

namespace PageConfig

namespace Props

variable {base overlay : Props}

theorem get?_mergeShallow (h : (Table.keys overlay).Nodup) (key : String) :
    (base.mergeShallow overlay).get? key = (overlay.get? key).or (base.get? key) := by
  induction overlay generalizing base with
  | nil => rfl
  | cons e overlay ih =>
    obtain ⟨k, v⟩ := e
    obtain ⟨hk, hoverlay⟩ := List.nodup_cons.1 h
    have hrest : (mergeShallow (base.insert k v) overlay).get? key = _ := ih hoverlay
    rw [Table.get?_insert] at hrest
    refine hrest.trans ?_
    by_cases hkey : k = key
    · subst hkey
      simp [Table.get?, Table.get?_eq_none_iff.2 hk]
    · simp [Table.get?, hkey]

theorem ascending_mergeShallow (h : base.Ascending) : (base.mergeShallow overlay).Ascending :=
  Table.ascending_foldl_insert h overlay

section Shallow

variable {a b c : Props} (ha : a.Ascending) (hb : b.Ascending)

include ha hb

theorem mergeShallow_assoc (hc : c.Ascending) :
    (a.mergeShallow b).mergeShallow c = a.mergeShallow (b.mergeShallow c) := by
  have hbc : (b.mergeShallow c).Ascending := ascending_mergeShallow hb
  apply Table.ext_of_ascending (ascending_mergeShallow (ascending_mergeShallow ha))
    (ascending_mergeShallow ha)
  intro key
  rw [get?_mergeShallow (Table.keys_nodup_of_ascending hc),
    get?_mergeShallow (Table.keys_nodup_of_ascending hb),
    get?_mergeShallow (Table.keys_nodup_of_ascending hbc),
    get?_mergeShallow (Table.keys_nodup_of_ascending hc), Option.or_assoc]

theorem mergeShallow_mergeShallow :
    (a.mergeShallow b).mergeShallow b = a.mergeShallow b := by
  have hkeys := Table.keys_nodup_of_ascending hb
  apply Table.ext_of_ascending (ascending_mergeShallow (ascending_mergeShallow ha))
    (ascending_mergeShallow ha)
  intro key
  rw [get?_mergeShallow hkeys, get?_mergeShallow hkeys, ← Option.or_assoc, Option.or_self]

end Shallow

theorem get?_mergeDeep (h : (Table.keys overlay).Nodup) (key : String) :
    (base.mergeDeep overlay).get? key =
      ((overlay.get? key).map (mergeValue (base.get? key))).or (base.get? key) := by
  unfold mergeDeep
  induction overlay generalizing base with
  | nil => rw [mergeFields]; rfl
  | cons e overlay ih =>
    obtain ⟨k, v⟩ := e
    obtain ⟨hk, hoverlay⟩ := List.nodup_cons.1 h
    rw [mergeFields, ih hoverlay, Table.get?_insert]
    by_cases hkey : k = key
    · subst hkey
      simp [Table.get?, Table.get?_eq_none_iff.2 hk]
    · simp [Table.get?, hkey]

/-- Only where both sides hold objects is anything of the base left below the key. -/
theorem mergeValue_of_plain {v : Value} (h : v.asObject? = none) (b : Option Value) :
    mergeValue b v = v := by
  cases v with
  | object fields => cases h
  | _ => rw [mergeValue]; simp

theorem mergeValue_none (v : Value) : mergeValue none v = v := by
  cases v <;> rw [mergeValue] <;> simp

theorem mergeValue_object (b : Option Value) (fields : Props) : mergeValue b (.object fields) =
    .object (((b.bind Value.asObject?).map (·.mergeDeep fields)).getD fields) := by
  match b with
  | some (.object base) =>
    rw [mergeValue]
    rfl
  | none | some .null | some (.bool _) | some (.number _) | some (.text _) | some (.list _) =>
    rw [mergeValue] <;> simp [Value.asObject?]

theorem canonical_insert {v : Value} (h : (Value.object base).Canonical) (hv : v.Canonical)
    (key : String) : (Value.object (base.insert key v)).Canonical := by
  simp only [Value.Canonical, Value.canonicalFields_iff] at h ⊢
  refine ⟨Table.ascending_insert h.1 key v, fun e he => ?_⟩
  rcases Table.mem_insert he with rfl | he
  · exact hv
  · exact h.2 e he

mutual

theorem canonical_mergeValue : ∀ {b : Option Value} {v : Value}, (∀ w ∈ b, w.Canonical) →
    v.Canonical → (mergeValue b v).Canonical
  | some (.object base), .object overlay => by
    intro hb hv
    simp only [Value.Canonical] at hv
    rw [mergeValue]
    exact canonical_mergeFields (hb _ rfl) overlay hv.2
  | none, .object _ | some .null, .object _ | some (.bool _), .object _
  | some (.number _), .object _ | some (.text _), .object _ | some (.list _), .object _
  | _, .null | _, .bool _ | _, .number _ | _, .text _ | _, .list _ => by
    intro _ hv
    rw [mergeValue] <;> simp [hv]

theorem canonical_mergeFields {base : Props} (hbase : (Value.object base).Canonical) :
    ∀ overlay : List (String × Value), Value.CanonicalFields overlay →
      (Value.object (mergeFields base overlay)).Canonical
  | [] => by
    intro _
    rwa [mergeFields]
  | (k, v) :: overlay => by
    intro hoverlay
    simp only [Value.CanonicalFields] at hoverlay
    have hhead : ∀ w ∈ base.get? k, w.Canonical := fun w hw => Value.canonical_field? hbase hw
    rw [mergeFields]
    exact canonical_mergeFields
      (canonical_insert hbase (canonical_mergeValue hhead hoverlay.1) k) overlay hoverlay.2

end

theorem canonical_mergeDeep (hbase : (Value.object base).Canonical)
    (hoverlay : (Value.object overlay).Canonical) :
    (Value.object (base.mergeDeep overlay)).Canonical := by
  simp only [Value.Canonical] at hoverlay
  exact canonical_mergeFields hbase overlay hoverlay.2

end Props

end PageConfig
