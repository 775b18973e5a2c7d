import PageConfig.Value.Basic

/-!
# Canonical values

Tables with ascending keys at every depth. Every value read from text is
canonical, and on canonical values equality of lists is equality of tables.
-/

set_option autoImplicit false

namespace PageConfig

namespace Table

variable {α : Type}

theorem mem_insert {t : Table α} {key : String} {v : α} {e : String × α}
    (h : e ∈ t.insert key v) : e = (key, v) ∨ e ∈ t := by
  induction t with
  | nil => simpa [insert] using h
  | cons f t ih =>
    obtain ⟨k, w⟩ := f
    simp only [insert] at h
    split at h
    · simpa using h
    · split at h
      · rcases List.mem_cons.1 h with h | h
        · exact .inl h
        · exact .inr (List.mem_cons_of_mem _ h)
      · rcases List.mem_cons.1 h with h | h
        · exact .inr (by simp [h])
        · rcases ih h with h | h
          · exact .inl h
          · exact .inr (List.mem_cons_of_mem _ h)

theorem ascending_insert {t : Table α} (h : t.Ascending) (key : String) (v : α) :
    (t.insert key v).Ascending := by
  induction t with
  | nil => simp [insert, Ascending]
  | cons f t ih =>
    obtain ⟨k, w⟩ := f
    obtain ⟨hk, ht⟩ := List.pairwise_cons.1 h
    simp only [insert]
    split
    · rename_i hlt
      refine List.pairwise_cons.2 ⟨fun e he => ?_, h⟩
      rcases List.mem_cons.1 he with rfl | he
      · exact hlt
      · exact String.lt_trans hlt (hk e he)
    · split
      · rename_i heq
        subst heq
        exact List.pairwise_cons.2 ⟨hk, ht⟩
      · rename_i hlt heq
        refine List.pairwise_cons.2 ⟨fun e he => ?_, ih ht⟩
        rcases mem_insert he with rfl | he
        · exact Std.lt_of_le_of_ne (String.not_lt.1 hlt) (Ne.symm heq)
        · exact hk e he

theorem ascending_foldl_insert {t : Table α} (h : t.Ascending) (entries : List (String × α)) :
    (entries.foldl (fun t e => t.insert e.1 e.2) t).Ascending := by
  induction entries generalizing t with
  | nil => exact h
  | cons e entries ih => exact ih (ascending_insert h _ _)

theorem ascending_mapValues {β : Type} {t : Table α} (h : t.Ascending) (f : α → β) :
    (t.mapValues f).Ascending := List.pairwise_map.2 h

theorem erase_sublist (t : Table α) (key : String) : (t.erase key).Sublist t := by
  induction t with
  | nil => exact .refl []
  | cons e t ih =>
    obtain ⟨k, v⟩ := e
    rw [erase]
    split
    · exact List.sublist_cons_self _ t
    · exact ih.cons_cons _

theorem ascending_erase {t : Table α} (h : t.Ascending) (key : String) :
    (t.erase key).Ascending := List.Pairwise.sublist (erase_sublist t key) h

theorem ascending_ofList (entries : List (String × α)) : (ofList entries).Ascending :=
  ascending_foldl_insert List.Pairwise.nil entries

end Table

namespace Value

mutual

/-- Every table in the value has ascending keys. -/
def Canonical : Value → Prop
  | .list items => CanonicalItems items
  | .object fields => Table.Ascending fields ∧ CanonicalFields fields
  | _ => True

def CanonicalItems : List Value → Prop
  | [] => True
  | v :: items => Canonical v ∧ CanonicalItems items

def CanonicalFields : List (String × Value) → Prop
  | [] => True
  | (_, v) :: fields => Canonical v ∧ CanonicalFields fields

end

theorem canonicalItems_iff {items : List Value} :
    CanonicalItems items ↔ ∀ v ∈ items, v.Canonical := by
  induction items with
  | nil => simp [CanonicalItems]
  | cons v items ih => simp [CanonicalItems, ih]

theorem canonicalFields_iff {fields : List (String × Value)} :
    CanonicalFields fields ↔ ∀ e ∈ fields, e.2.Canonical := by
  induction fields with
  | nil => simp [CanonicalFields]
  | cons e fields ih => simp [CanonicalFields, ih]

end Value

end PageConfig
