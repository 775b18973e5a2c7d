import Mathlib.Data.List.Perm.Subperm
import PageConfig.Value.Dictionary

/-!
# Tables as maps

A table with distinct keys is determined by its look-ups up to the order of its
entries, and an ascending table altogether.
-/

set_option autoImplicit false

namespace PageConfig

namespace Table

variable {α β : Type}

def keys (t : Table α) : List String := t.map Prod.fst

@[simp] theorem keys_nil : keys ([] : Table α) = [] := rfl

@[simp] theorem keys_cons (e : String × α) (t : Table α) : keys (e :: t) = e.1 :: keys t := rfl

theorem keys_mapValues (f : α → β) (t : Table α) : keys (t.mapValues f) = keys t := by
  simp [keys, mapValues]

theorem mapValues_insert (f : α → β) (t : Table α) (key : String) (v : α) :
    (t.insert key v).mapValues f = (t.mapValues f).insert key (f v) := by
  induction t with
  | nil => rfl
  | cons e t ih =>
    obtain ⟨k, w⟩ := e
    by_cases hlt : key < k
    · simp [insert, mapValues, hlt]
    · by_cases heq : key = k
      · subst heq
        simp only [insert, mapValues, hlt, ↓reduceIte, List.map_cons]
      · simpa [insert, mapValues, hlt, heq] using ih

theorem keys_append (t u : Table α) : keys (t ++ u) = keys t ++ keys u := List.map_append

theorem get?_isSome_iff {t : Table α} {key : String} : (t.get? key).isSome ↔ key ∈ t.keys := by
  induction t with
  | nil => simp
  | cons e t ih =>
    obtain ⟨k, v⟩ := e
    by_cases hk : k = key
    · simp [get?, hk]
    · simp [get?, hk, ih, Ne.symm hk]

theorem get?_eq_none_iff {t : Table α} {key : String} : t.get? key = none ↔ key ∉ t.keys := by
  rw [← get?_isSome_iff, Option.not_isSome_iff_eq_none]

theorem get?_eq_some_iff {t : Table α} (h : t.keys.Nodup) {key : String} {v : α} :
    t.get? key = some v ↔ (key, v) ∈ t := by
  refine ⟨mem_of_get?, fun hm => ?_⟩
  induction t with
  | nil => simp at hm
  | cons e t ih =>
    obtain ⟨k, w⟩ := e
    obtain ⟨hk, ht⟩ := List.nodup_cons.1 h
    rcases List.mem_cons.1 hm with heq | hm
    · cases heq
      simp [get?]
    · have hne : k ≠ key := fun heq => hk (heq ▸ List.mem_map.2 ⟨_, hm, rfl⟩)
      simpa [get?, hne] using ih ht hm

theorem nodup_of_ascending {t : Table α} (h : t.Ascending) : t.Nodup := by
  refine List.Pairwise.imp (fun {a b} hab heq => ?_) h
  exact String.lt_irrefl a.1 (heq ▸ hab)

theorem keys_nodup_of_ascending {t : Table α} (h : t.Ascending) : t.keys.Nodup := by
  refine List.pairwise_map.2 (h.imp fun {a b} hab heq => ?_)
  exact String.lt_irrefl a.1 (heq ▸ hab)

theorem mem_foldl_insert {entries : List (String × α)} {t : Table α} {e : String × α}
    (h : e ∈ entries.foldl (fun t e => t.insert e.1 e.2) t) : e ∈ t ∨ e ∈ entries := by
  induction entries generalizing t with
  | nil => exact .inl h
  | cons f entries ih =>
    rcases ih h with h | h
    · rcases mem_insert h with rfl | h
      · exact .inr List.mem_cons_self
      · exact .inl h
    · exact .inr (List.mem_cons_of_mem f h)

theorem perm_insert {t : Table α} {key : String} (v : α) (h : key ∉ t.keys) :
    (t.insert key v).Perm ((key, v) :: t) := by
  induction t with
  | nil => exact List.Perm.refl _
  | cons e t ih =>
    obtain ⟨k, w⟩ := e
    simp only [keys_cons, List.mem_cons, not_or] at h
    by_cases hlt : key < k
    · simp [insert, hlt]
    · rw [insert, if_neg hlt, if_neg h.1]
      exact ((ih h.2).cons (k, w)).trans (List.Perm.swap _ _ t)

theorem perm_foldl_insert {entries : List (String × α)} {t : Table α}
    (h : (keys entries).Nodup) (hnew : ∀ key ∈ keys entries, key ∉ t.keys) :
    (entries.foldl (fun t e => t.insert e.1 e.2) t).Perm (entries ++ t) := by
  induction entries generalizing t with
  | nil => exact List.Perm.refl t
  | cons e entries ih =>
    obtain ⟨hkey, hentries⟩ := List.nodup_cons.1 h
    obtain ⟨hhead, hrest⟩ := List.forall_mem_cons.1 hnew
    have hp := perm_insert e.2 hhead
    have hmid : (entries ++ insert t e.1 e.2).Perm (e :: (entries ++ t)) :=
      (hp.append_left entries).trans List.perm_middle
    refine (ih hentries fun key hmem hold => ?_).trans hmid
    rcases List.mem_cons.1 ((hp.map Prod.fst).mem_iff.1 hold) with rfl | hold
    · exact hkey hmem
    · exact hrest key hmem hold

theorem perm_ofList {entries : List (String × α)} (h : (keys entries).Nodup) :
    (ofList entries).Perm entries := by
  have hp := perm_foldl_insert (t := []) h fun _ _ => List.not_mem_nil
  rwa [List.append_nil] at hp

/-- With distinct keys, the look-ups in a table are those in the list it was made of. -/
theorem get?_ofList {entries : List (String × α)} (h : (keys entries).Nodup) (key : String) :
    (ofList entries).get? key = get? entries key := by
  have hp := perm_ofList h
  have hn : (ofList entries).keys.Nodup := ((hp.map Prod.fst).nodup_iff).2 h
  refine Option.ext fun v => ?_
  rw [get?_eq_some_iff hn, get?_eq_some_iff h, hp.mem_iff]

theorem ext_of_ascending {t u : Table α} (ht : t.Ascending) (hu : u.Ascending)
    (h : ∀ key, t.get? key = u.get? key) : t = u := by
  have hp : t.Perm u := by
    rw [List.perm_ext_iff_of_nodup (nodup_of_ascending ht) (nodup_of_ascending hu)]
    intro e
    obtain ⟨k, v⟩ := e
    rw [← get?_eq_some_iff (keys_nodup_of_ascending ht),
      ← get?_eq_some_iff (keys_nodup_of_ascending hu), h]
  refine hp.eq_of_pairwise (fun a b _ _ hab hba => ?_) ht hu
  exact absurd (String.lt_trans hab hba) (String.lt_irrefl a.1)

theorem get?_append (t u : Table α) (key : String) :
    get? (t ++ u) key = (t.get? key).or (u.get? key) := by
  induction t with
  | nil => rfl
  | cons e t ih =>
    obtain ⟨k, v⟩ := e
    by_cases hk : k = key
    · simp [get?, hk]
    · simp [get?, hk, ih]

theorem get?_filter (p : String → Bool) (t : Table α) (key : String) :
    get? (t.filter fun e => p e.1) key = if p key then t.get? key else none := by
  induction t with
  | nil => simp
  | cons e t ih =>
    obtain ⟨k, v⟩ := e
    by_cases hp : p k = true
    · by_cases hk : k = key
      · simp [get?, hp, ← hk]
      · simp [get?, hp, hk, ih]
    · by_cases hk : k = key
      · subst hk
        simpa [hp] using ih
      · simp [get?, hp, hk, ih]

theorem get?_erase {t : Table α} (h : t.Ascending) (key other : String) :
    (t.erase key).get? other = if key = other then none else t.get? other := by
  induction t with
  | nil => simp [erase]
  | cons e t ih =>
    obtain ⟨k, v⟩ := e
    have hkey := (List.nodup_cons.1 (keys_nodup_of_ascending h)).1
    have ih := ih (List.pairwise_cons.1 h).2
    by_cases hk : k = key
    · subst hk
      by_cases ho : k = other
      · subst ho
        simpa [erase] using get?_eq_none_iff.2 hkey
      · simp [erase, get?, ho]
    · by_cases ho : k = other
      · subst ho
        simp [erase, get?, hk, Ne.symm hk]
      · simp [erase, get?, hk, ho, ih]

theorem ascending_filter {t : Table α} (h : t.Ascending) (p : String × α → Bool) :
    Ascending (t.filter p) := List.Pairwise.filter p h

end Table

namespace Dictionary

variable {α : Type}

theorem get?_erase (d : Dictionary α) (key other : String) :
    (d.erase key).get? other = if key = other then none else d.get? other :=
  Table.get?_erase d.ascending key other

theorem keys_nodup (d : Dictionary α) : d.table.keys.Nodup :=
  Table.keys_nodup_of_ascending d.ascending

theorem has_iff {d : Dictionary α} {key : String} : d.has key ↔ key ∈ d.table.keys :=
  Table.get?_isSome_iff

end Dictionary

theorem Value.field?_eq (v : Value) (key : String) :
    v.field? key = v.asObject?.bind (·.get? key) := by
  cases v <;> rfl

theorem Value.canonical_field? {v w : Value} (hv : v.Canonical) {key : String}
    (h : v.field? key = some w) : w.Canonical := by
  cases v with
  | object fields =>
    simp only [Canonical, canonicalFields_iff] at hv
    exact hv.2 _ (Table.mem_of_get? h)
  | _ => cases h

namespace Props

theorem ascending_of_canonical {table : Props} (h : (Value.object table).Canonical) :
    table.Ascending := by
  simp only [Value.Canonical] at h
  exact h.1

theorem keys_nodup_of_canonical {table : Props} (h : (Value.object table).Canonical) :
    (Table.keys table).Nodup := Table.keys_nodup_of_ascending (ascending_of_canonical h)

theorem keys_filterMap_sublist (fields : List (String × Option Value)) :
    (Table.keys (fields.filterMap fun f => f.2.map (f.1, ·))).Sublist (Table.keys fields) := by
  induction fields with
  | nil => simp
  | cons f fields ih =>
    obtain ⟨k, v⟩ := f
    cases v with
    | none => simpa using ih.cons k
    | some v => simpa using ih

/-- Fields that are left out are absent, the others are as given. -/
theorem get?_ofFields {fields : List (String × Option Value)} (h : (Table.keys fields).Nodup)
    (key : String) : (ofFields fields).get? key = (Table.get? fields key).join := by
  rw [ofFields, Table.get?_ofList ((keys_filterMap_sublist fields).nodup h)]
  induction fields with
  | nil => rfl
  | cons f fields ih =>
    obtain ⟨k, v⟩ := f
    obtain ⟨hk, hf⟩ := List.nodup_cons.1 h
    by_cases hkey : k = key
    · subst hkey
      cases v with
      | none =>
        simp only [List.filterMap_cons, Option.map_none, Table.get?, if_true, Option.join_some]
        refine Table.get?_eq_none_iff.2 fun hm => hk ((keys_filterMap_sublist fields).subset hm)
      | some v => simp [Table.get?]
    · cases v with
      | none => simpa [Table.get?, hkey] using ih hf
      | some v => simpa [Table.get?, hkey] using ih hf

def tableAt (fields : Props) (key : String) : Props :=
  match fields.get? key with
  | some (.object table) => table
  | _ => []

def itemsAt (fields : Props) (key : String) : List Value :=
  match fields.get? key with
  | some (.list items) => items
  | _ => []

def listed : List Value → Option Value
  | [] => none
  | items => some (.list items)

theorem itemsAt_of_get? {fields : Props} {key : String} {items : List Value}
    (h : fields.get? key = listed items) : fields.itemsAt key = items := by
  rw [itemsAt, h]
  cases items <;> rfl

def without (table : Props) (keys : List String) : Props :=
  table.filter fun e => !keys.contains e.1

theorem ascending_without {table : Props} (h : table.Ascending) (keys : List String) :
    (table.without keys).Ascending := Table.ascending_filter h _

theorem get?_without (table : Props) (keys : List String) (key : String) :
    (table.without keys).get? key = if key ∈ keys then none else table.get? key := by
  rw [without, Table.get?_filter fun k => !keys.contains k]
  by_cases hkey : key ∈ keys <;> simp [hkey]

section Without

variable {known : List (String × Option Value)} (distinct : (Table.keys known).Nodup)
  {table : Props} (htable : table.Ascending)

include distinct htable

theorem keys_append_without_nodup :
    (Table.keys (known ++ (table.without (Table.keys known)).mapValues some)).Nodup := by
  rw [Table.keys_append, Table.keys_mapValues]
  apply List.nodup_append.2
  refine ⟨distinct, Table.keys_nodup_of_ascending (ascending_without htable _), ?_⟩
  rintro key hknown _ hextra rfl
  have hsome := Table.get?_isSome_iff.2 hextra
  simp [get?_without, hknown] at hsome

theorem get?_ofFields_without (key : String) :
    (ofFields (known ++ (table.without (Table.keys known)).mapValues some)).get? key =
      if key ∈ Table.keys known then (Table.get? known key).join else table.get? key := by
  rw [get?_ofFields (keys_append_without_nodup distinct htable), Table.get?_append,
    Table.get?_mapValues, get?_without]
  by_cases hkey : key ∈ Table.keys known
  · obtain ⟨x?, hx⟩ := Option.isSome_iff_exists.1 (Table.get?_isSome_iff.2 hkey)
    simp [hkey, hx]
  · cases hget : table.get? key <;> simp [hkey, Table.get?_eq_none_iff.2 hkey]

theorem without_ofFields :
    (ofFields (known ++ (table.without (Table.keys known)).mapValues some)).without
      (Table.keys known) = table.without (Table.keys known) := by
  have hwritten :
      (ofFields (known ++ (table.without (Table.keys known)).mapValues some)).Ascending :=
    Table.ascending_ofList _
  apply Table.ext_of_ascending (ascending_without hwritten _) (ascending_without htable _)
  intro key
  rw [get?_without, get?_without, get?_ofFields_without distinct htable]
  by_cases hkey : key ∈ Table.keys known <;> simp [hkey]

end Without

end Props

end PageConfig
