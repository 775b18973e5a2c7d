import PageConfig.Proofs.Value.Induction
import PageConfig.Proofs.Value.Table
import PageConfig.Raw.Process

/-!
# Repair undoes index keys

A value is normal when no object in it has the keys of a list. Repair yields a normal
value and changes nothing else, and it takes a value whose lists were written as objects,
wherever they stand, to what it takes the value itself to.
-/

set_option autoImplicit false

namespace PageConfig

def indexKeys (n : Nat) : List String := (List.range n).map toString

theorem toString_injective {m n : Nat} (h : toString m = toString n) : m = n := by
  have hdigits : Nat.toDigits 10 m = Nat.toDigits 10 n := by
    rw [← Nat.toList_repr, ← Nat.toList_repr]
    exact congrArg String.toList h
  rw [← Nat.ofDigitChars_ten_toDigits (n := m), hdigits, Nat.ofDigitChars_ten_toDigits]

theorem indexKeys_nodup (n : Nat) : (indexKeys n).Nodup :=
  List.pairwise_map.2 (List.nodup_range.imp fun hne h => hne (toString_injective h))

/-- The keys are those of a list that is not empty. -/
def HasIndexKeys (fields : Table Value) : Prop :=
  ∃ n, 0 < n ∧ (Table.keys fields).Perm (indexKeys n)

section Choice

variable {α β : Type} {f : α → Option β} {as : List α}

theorem mapM_eq_some_iff {bs : List β} : as.mapM f = some bs ↔ as.map f = bs.map some := by
  induction as generalizing bs with
  | nil => cases bs <;> simp
  | cons a as ih => cases bs <;> simp [List.mapM_cons, Option.bind_eq_some_iff, ih]

theorem mapM_isSome_iff : (as.mapM f).isSome ↔ ∀ a ∈ as, (f a).isSome := by
  induction as with
  | nil => simp
  | cons a as ih =>
    rw [List.forall_mem_cons, ← ih, List.mapM_cons]
    cases f a <;> cases as.mapM f <;> simp

theorem mapM_map_option {γ : Type} (g : β → γ) :
    as.mapM (fun a => (f a).map g) = (as.mapM f).map (List.map g) := by
  induction as with
  | nil => rfl
  | cons a as ih =>
    rw [List.mapM_cons, List.mapM_cons, ih]
    cases f a <;> cases as.mapM f <;> rfl

end Choice

theorem indexed?_eq_some_iff {fields : Table Value} {items : List Value} :
    indexed? fields = some items ↔ fields ≠ [] ∧
      (List.range fields.length).map (fun i => fields.get? (toString i)) = items.map some := by
  cases fields with
  | nil => simp [indexed?]
  | cons e fields =>
    rw [indexed?, if_neg (by simp), mapM_eq_some_iff]
    simp

theorem indexed?_isSome_iff {fields : Table Value} :
    (indexed? fields).isSome ↔ HasIndexKeys fields := by
  cases hf : fields with
  | nil =>
    refine iff_of_false (by simp [indexed?]) ?_
    rintro ⟨n, hn, hp⟩
    have := hp.length_eq
    simp [Table.keys, indexKeys] at this
    omega
  | cons e rest =>
    rw [← hf, indexed?, if_neg (by simp [hf]), mapM_isSome_iff]
    constructor
    · intro h
      have hsub : indexKeys fields.length ⊆ Table.keys fields := by
        intro k hk
        obtain ⟨i, hi, rfl⟩ := List.mem_map.1 hk
        exact Table.get?_isSome_iff.1 (h i hi)
      have hperm := (List.subperm_of_subset (indexKeys_nodup _) hsub).perm_of_length_le
        (by simp [Table.keys, indexKeys])
      exact ⟨fields.length, by simp [hf], hperm.symm⟩
    · rintro ⟨n, _, hp⟩ i hi
      have hlen : fields.length = n := by simpa [Table.keys, indexKeys] using hp.length_eq
      refine Table.get?_isSome_iff.2 (hp.mem_iff.2 (List.mem_map.2 ⟨i, ?_, rfl⟩))
      exact hlen ▸ hi

namespace Value

mutual

/-- No object in the value has the keys of a list. -/
def Normal : Value → Prop
  | .list items => NormalItems items
  | .object fields => ¬ HasIndexKeys fields ∧ NormalFields fields
  | _ => True

def NormalItems : List Value → Prop
  | [] => True
  | v :: items => Normal v ∧ NormalItems items

def NormalFields : List (String × Value) → Prop
  | [] => True
  | (_, v) :: fields => Normal v ∧ NormalFields fields

end

theorem normalItems_iff {items : List Value} : NormalItems items ↔ ∀ v ∈ items, v.Normal := by
  induction items with
  | nil => simp [NormalItems]
  | cons v items ih => simp [NormalItems, ih]

theorem normalFields_iff {fields : List (String × Value)} :
    NormalFields fields ↔ ∀ e ∈ fields, e.2.Normal := by
  induction fields with
  | nil => simp [NormalFields]
  | cons e fields ih => simp [NormalFields, ih]

theorem repairItems_eq_map (items : List Value) : repairItems items = items.map repair := by
  induction items with
  | nil => rfl
  | cons v items ih => rw [repairItems, ih, List.map_cons]

theorem repairFields_eq_mapValues (fields : List (String × Value)) :
    repairFields fields = Table.mapValues repair fields := by
  induction fields with
  | nil => rfl
  | cons e fields ih => rw [repairFields, ih, Table.mapValues, Table.mapValues, List.map_cons]

end Value

theorem indexed?_mapValues (f : Value → Value) (fields : Table Value) :
    indexed? (fields.mapValues f) = (indexed? fields).map (List.map f) := by
  cases hf : fields with
  | nil => rfl
  | cons e rest =>
    rw [← hf, indexed?, indexed?, if_neg (by simp [hf, Table.mapValues]), if_neg (by simp [hf])]
    have hlen : (fields.mapValues f).length = fields.length := List.length_map _
    simp only [hlen, Table.get?_mapValues, mapM_map_option]

theorem mem_of_indexed? {fields : Table Value} {items : List Value}
    (h : indexed? fields = some items) {v : Value} (hv : v ∈ items) :
    ∃ e ∈ fields, e.2 = v := by
  have hmem : some v ∈ items.map some := List.mem_map.2 ⟨v, hv, rfl⟩
  rw [← (indexed?_eq_some_iff.1 h).2] at hmem
  obtain ⟨i, _, hi⟩ := List.mem_map.1 hmem
  exact ⟨_, Table.mem_of_get? hi, rfl⟩

namespace Value

theorem repair_list (items : List Value) : (list items).repair = .list (items.map repair) := by
  rw [repair, repairItems_eq_map]

theorem repair_indexed {fields : Table Value} {items : List Value}
    (h : indexed? fields = some items) :
    (object fields).repair = .list (items.map repair) := by
  rw [repair, repairFields_eq_mapValues, indexed?_mapValues, h]
  rfl

theorem repair_object {fields : Table Value} (h : ¬ HasIndexKeys fields) :
    (object fields).repair = .object (fields.mapValues repair) := by
  rw [← indexed?_isSome_iff, Option.not_isSome_iff_eq_none] at h
  rw [repair, repairFields_eq_mapValues, indexed?_mapValues, h]
  rfl

theorem hasIndexKeys_mapValues (f : Value → Value) {fields : Table Value} :
    HasIndexKeys (fields.mapValues f) ↔ HasIndexKeys fields := by
  rw [HasIndexKeys, Table.keys_mapValues, HasIndexKeys]

theorem repair_normal (v : Value) : v.repair.Normal := by
  induction v using Value.induct with
  | null => trivial
  | bool b => trivial
  | number n => trivial
  | text s => trivial
  | list items ih =>
    rw [repair_list, Normal, normalItems_iff]
    intro w hw
    obtain ⟨v, hv, rfl⟩ := List.mem_map.1 hw
    exact ih v hv
  | object fields ih =>
    by_cases hk : HasIndexKeys fields
    · obtain ⟨items, hitems⟩ := Option.isSome_iff_exists.1 (indexed?_isSome_iff.2 hk)
      rw [repair_indexed hitems, Normal, normalItems_iff]
      intro w hw
      obtain ⟨v, hv, rfl⟩ := List.mem_map.1 hw
      obtain ⟨e, he, rfl⟩ := mem_of_indexed? hitems hv
      exact ih e he
    · rw [repair_object hk, Normal, hasIndexKeys_mapValues, normalFields_iff]
      refine ⟨hk, fun e he => ?_⟩
      obtain ⟨d, hd, rfl⟩ := List.mem_map.1 he
      exact ih d hd

theorem repair_of_normal {v : Value} (h : v.Normal) : v.repair = v := by
  induction v using Value.induct with
  | null => rfl
  | bool b => rfl
  | number n => rfl
  | text s => rfl
  | list items ih =>
    rw [Normal, normalItems_iff] at h
    rw [repair_list, List.map_congr_left fun v hv => ih v hv (h v hv), List.map_id']
  | object fields ih =>
    rw [Normal, normalFields_iff] at h
    have hfields : Table.mapValues repair fields = fields := by
      refine (List.map_congr_left fun e he => ?_).trans (List.map_id fields)
      rw [ih e he (h.2 e he)]
      rfl
    rw [repair_object h.1, hfields]

theorem repair_eq_self_iff (v : Value) : v.repair = v ↔ v.Normal :=
  ⟨fun h => h ▸ repair_normal v, repair_of_normal⟩

end Value

def indexEntries (items : List Value) : List (String × Value) :=
  items.mapIdx fun i v => (toString i, v)

/-- The object that a list is written as. Its keys ascend as texts, `"10"` before `"2"`. -/
def indexTable (items : List Value) : Table Value := Table.ofList (indexEntries items)

theorem keys_indexEntries (items : List Value) :
    Table.keys (indexEntries items) = indexKeys items.length := by
  refine List.ext_getElem ?_ fun i _ _ => ?_
  · simp [Table.keys, indexEntries, indexKeys]
  · simp [Table.keys, indexEntries, indexKeys]

theorem indexed?_indexTable {items : List Value} (h : items ≠ []) :
    indexed? (indexTable items) = some items := by
  have hnodup : (Table.keys (indexEntries items)).Nodup :=
    keys_indexEntries items ▸ indexKeys_nodup items.length
  have hperm : (indexTable items).Perm (indexEntries items) := Table.perm_ofList hnodup
  have hlen : (indexTable items).length = items.length := by
    rw [hperm.length_eq, indexEntries, List.length_mapIdx]
  refine indexed?_eq_some_iff.2 ⟨?_, ?_⟩
  · exact List.length_pos_iff.1 (hlen ▸ List.length_pos_iff.2 h)
  · refine List.ext_getElem (by simp [hlen]) fun i hi _ => ?_
    have hi : i < items.length := by simpa [hlen] using hi
    have hmem : (toString i, items[i]) ∈ indexEntries items := List.mem_mapIdx.2 ⟨i, hi, rfl⟩
    rw [List.getElem_map, List.getElem_range, List.getElem_map, indexTable,
      Table.get?_ofList hnodup, (Table.get?_eq_some_iff hnodup).2 hmem]

mutual

/-- `TransportedAs v w`: some of the lists in `v`, at any depth, are objects with index
keys in `w`, and everything else is the same. -/
inductive TransportedAs : Value → Value → Prop
  | same (v : Value) : TransportedAs v v
  | list {items sent : List Value} :
    ItemsTransportedAs items sent → TransportedAs (.list items) (.list sent)
  | indexed {items sent : List Value} : items ≠ [] →
    ItemsTransportedAs items sent → TransportedAs (.list items) (.object (indexTable sent))
  | object {fields sent : Table Value} :
    FieldsTransportedAs fields sent → TransportedAs (.object fields) (.object sent)

inductive ItemsTransportedAs : List Value → List Value → Prop
  | nil : ItemsTransportedAs [] []
  | cons {v w : Value} {items sent : List Value} : TransportedAs v w →
    ItemsTransportedAs items sent → ItemsTransportedAs (v :: items) (w :: sent)

inductive FieldsTransportedAs : Table Value → Table Value → Prop
  | nil : FieldsTransportedAs [] []
  | cons {v w : Value} {fields sent : Table Value} (key : String) : TransportedAs v w →
    FieldsTransportedAs fields sent → FieldsTransportedAs ((key, v) :: fields) ((key, w) :: sent)

end

namespace Value

mutual

theorem repair_transported {v w : Value} : TransportedAs v w → w.repair = v.repair
  | .same _ => rfl
  | .list h => by rw [repair_list, repair_list, repairItems_transported h]
  | .indexed hne h => by
    have hmap := repairItems_transported h
    rw [repair_indexed (indexed?_indexTable _), repair_list, hmap]
    intro hnil
    rw [hnil] at hmap
    exact hne (List.map_eq_nil_iff.1 hmap.symm)
  | .object h => by
    rw [repair, repair, repairFields_eq_mapValues, repairFields_eq_mapValues,
      repairFields_transported h]

theorem repairItems_transported {items sent : List Value} :
    ItemsTransportedAs items sent → sent.map repair = items.map repair
  | .nil => rfl
  | .cons h hs => by
    rw [List.map_cons, List.map_cons, repair_transported h, repairItems_transported hs]

theorem repairFields_transported {fields sent : Table Value} :
    FieldsTransportedAs fields sent → sent.mapValues repair = fields.mapValues repair
  | .nil => rfl
  | .cons key h hs => by
    have ih := repairFields_transported hs
    rw [Table.mapValues, Table.mapValues] at ih ⊢
    rw [List.map_cons, List.map_cons, repair_transported h, ih]

end

/-- Repair normalizes, changes no normal value, and undoes what transport did to the lists
of a value, so that every stage of the processing is blind to it. -/
theorem repair_normalizes (v : Value) :
    v.repair.Normal ∧ (v.repair = v ↔ v.Normal) ∧ v.repair.repair = v.repair ∧
    ∀ w, TransportedAs v w → w.repair = v.repair ∧ (v.Normal → w.repair = v) ∧
      w.sanitize = v.sanitize ∧ w.validate = v.validate ∧ w.optimize = v.optimize ∧
      ∀ options, w.process options = v.process options := by
  refine ⟨repair_normal v, repair_eq_self_iff v, repair_of_normal (repair_normal v), ?_⟩
  intro w hw
  have hrepair := repair_transported hw
  have hsanitize : w.sanitize = v.sanitize := by rw [sanitize, hrepair, sanitize]
  refine ⟨hrepair, fun hv => hrepair.trans (repair_of_normal hv), hsanitize, ?_, ?_, ?_⟩
  · rw [validate, hrepair, validate]
  · rw [optimize, hrepair, optimize]
  · intro options
    rw [process, hsanitize, process]

end Value

end PageConfig
