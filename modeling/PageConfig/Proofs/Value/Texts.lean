import PageConfig.Proofs.Value.Induction
import PageConfig.Proofs.Value.Table
import PageConfig.Value.Merge
import PageConfig.Value.Path

/-!
# The texts of a value

The texts that stand anywhere in a value, keys not counted. Looking up, setting
and merging bring in no text from elsewhere.
-/

set_option autoImplicit false

namespace PageConfig

namespace Value

mutual

def texts : Value → List String
  | .text s => [s]
  | .list items => textsOfItems items
  | .object fields => textsOfFields fields
  | _ => []

def textsOfItems : List Value → List String
  | [] => []
  | v :: items => v.texts ++ textsOfItems items

def textsOfFields : List (String × Value) → List String
  | [] => []
  | (_, v) :: fields => v.texts ++ textsOfFields fields

end

theorem mem_texts_list {items : List Value} {s : String} :
    s ∈ (Value.list items).texts ↔ ∃ v ∈ items, s ∈ v.texts := by
  rw [texts]
  induction items with
  | nil => simp [textsOfItems]
  | cons v items ih => simp [textsOfItems, ih]

theorem mem_texts_object {fields : List (String × Value)} {s : String} :
    s ∈ (Value.object fields).texts ↔ ∃ e ∈ fields, s ∈ e.2.texts := by
  rw [texts]
  induction fields with
  | nil => simp [textsOfFields]
  | cons e fields ih => simp [textsOfFields, ih]

theorem texts_list_cons (v : Value) (items : List Value) :
    (Value.list (v :: items)).texts = v.texts ++ (Value.list items).texts := rfl

theorem texts_object_cons (e : String × Value) (fields : List (String × Value)) :
    (Value.object (e :: fields)).texts = e.2.texts ++ (Value.object fields).texts := rfl

theorem texts_of_item {items : List Value} {v : Value} (h : v ∈ items) :
    v.texts ⊆ (Value.list items).texts := fun _ hs => mem_texts_list.2 ⟨v, h, hs⟩

theorem texts_of_get? {fields : Props} {key : String} {v : Value} (h : fields.get? key = some v) :
    v.texts ⊆ (Value.object fields).texts :=
  fun _ hs => mem_texts_object.2 ⟨(key, v), Table.mem_of_get? h, hs⟩

theorem texts_step? {v w : Value} {segment : String} (h : v.step? segment = some w) :
    w.texts ⊆ v.texts := by
  cases v with
  | object fields => exact texts_of_get? h
  | list items =>
    obtain ⟨i, -, hi⟩ := Option.bind_eq_some_iff.1 h
    exact texts_of_item (List.mem_of_getElem? hi)
  | _ => cases h

theorem texts_follow? {v w : Value} {path : List String} (h : v.follow? path = some w) :
    w.texts ⊆ v.texts := by
  induction path generalizing v with
  | nil =>
    cases h
    exact List.Subset.refl w.texts
  | cons segment path ih =>
    obtain ⟨u, hu, hw⟩ := Option.bind_eq_some_iff.1 h
    exact List.Subset.trans (ih hw) (texts_step? hu)

theorem texts_present? {v w : Value} {path : String} (h : v.present? path = some w) :
    w.texts ⊆ v.texts := by
  have hlookup := (Option.filter_eq_some_iff.1 h).1
  unfold lookup? at hlookup
  split at hlookup
  · cases hlookup
  · exact texts_follow? hlookup

end Value

namespace Props

open Value

theorem mem_texts_insert {t : Props} {key : String} {v : Value} {s : String}
    (h : s ∈ (Value.object (t.insert key v)).texts) :
    s ∈ (Value.object t).texts ∨ s ∈ v.texts := by
  obtain ⟨e, he, hs⟩ := mem_texts_object.1 h
  rcases Table.mem_insert he with rfl | he
  · exact .inr hs
  · exact .inl (mem_texts_object.2 ⟨e, he, hs⟩)

theorem mem_texts_mergeShallow {base overlay : Props} {s : String}
    (h : s ∈ (Value.object (base.mergeShallow overlay)).texts) :
    s ∈ (Value.object base).texts ∨ s ∈ (Value.object overlay).texts := by
  obtain ⟨e, he, hs⟩ := mem_texts_object.1 h
  rcases Table.mem_foldl_insert he with he | he
  · exact .inl (mem_texts_object.2 ⟨e, he, hs⟩)
  · exact .inr (mem_texts_object.2 ⟨e, he, hs⟩)

theorem mem_texts_mergeFields {overlay : Props}
    (ih : ∀ e ∈ overlay, ∀ (base : Option Value) (s : String),
      s ∈ (mergeValue base e.2).texts → (∃ b, base = some b ∧ s ∈ b.texts) ∨ s ∈ e.2.texts)
    {base : Props} {s : String} (h : s ∈ (Value.object (mergeFields base overlay)).texts) :
    s ∈ (Value.object base).texts ∨ s ∈ (Value.object overlay).texts := by
  induction overlay generalizing base with
  | nil => exact .inl h
  | cons e overlay ihs =>
    rw [texts_object_cons, List.mem_append]
    rcases ihs (fun f hf => ih f (List.mem_cons_of_mem e hf)) h with hs | hs
    · rcases mem_texts_insert hs with hs | hs
      · exact .inl hs
      · rcases ih e List.mem_cons_self _ s hs with ⟨b, hb, hs⟩ | hs
        · exact .inl (texts_of_get? hb hs)
        · exact .inr (.inl hs)
    · exact .inr (.inr hs)

theorem mem_texts_mergeValue {base : Option Value} {v : Value} {s : String}
    (h : s ∈ (mergeValue base v).texts) :
    (∃ b, base = some b ∧ s ∈ b.texts) ∨ s ∈ v.texts := by
  induction v using Value.induct generalizing base s with
  | object fields ih =>
    unfold mergeValue at h
    split at h
    · rename_i fields' overlay heq
      cases heq
      rcases mem_texts_mergeFields (fun e he base s => ih e he) h with hs | hs
      · exact .inl ⟨_, rfl, hs⟩
      · exact .inr hs
    · exact .inr h
  | _ =>
    unfold mergeValue at h
    split at h
    · contradiction
    · exact .inr h

theorem mem_texts_mergeDeep {base overlay : Props} {s : String}
    (h : s ∈ (Value.object (base.mergeDeep overlay)).texts) :
    s ∈ (Value.object base).texts ∨ s ∈ (Value.object overlay).texts :=
  mem_texts_mergeFields (fun _ _ _ _ => mem_texts_mergeValue) h

end Props

theorem Value.texts_ofFields {fields : List (String × Option Value)} {ss : List String}
    (h : ∀ f ∈ fields, ∀ v, f.2 = some v → v.texts ⊆ ss) : (Value.ofFields fields).texts ⊆ ss := by
  intro s hs
  obtain ⟨e, he, hs⟩ := mem_texts_object.1 hs
  rcases Table.mem_foldl_insert he with he | he
  · cases he
  · obtain ⟨f, hf, he⟩ := List.mem_filterMap.1 he
    obtain ⟨v, hv, rfl⟩ := Option.map_eq_some_iff.1 he
    exact h f hf v hv hs

end PageConfig
