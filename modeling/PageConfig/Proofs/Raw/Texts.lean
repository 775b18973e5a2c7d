import PageConfig.Proofs.Raw.IndexKeys
import PageConfig.Proofs.Raw.ScriptFree
import PageConfig.Proofs.Value.Texts
import PageConfig.Raw.Process

/-!
# The texts of a processed document

Repair and slimming drop texts and bring in none, and cleaning frees each of them
of script. So every text of a processed document is free of script.
-/

set_option autoImplicit false

namespace PageConfig.Value

theorem texts_repair (v : Value) : v.repair.texts ⊆ v.texts := by
  induction v using Value.induct with
  | list items ih =>
    intro s hs
    rw [repair_list, mem_texts_list] at hs
    obtain ⟨_, hw, hs⟩ := hs
    obtain ⟨v, hv, rfl⟩ := List.mem_map.1 hw
    exact texts_of_item hv (ih v hv hs)
  | object fields ih =>
    intro s hs
    by_cases hk : HasIndexKeys fields
    · obtain ⟨items, hitems⟩ := Option.isSome_iff_exists.1 (indexed?_isSome_iff.2 hk)
      rw [repair_indexed hitems, mem_texts_list] at hs
      obtain ⟨_, hw, hs⟩ := hs
      obtain ⟨v, hv, rfl⟩ := List.mem_map.1 hw
      obtain ⟨e, he, rfl⟩ := mem_of_indexed? hitems hv
      exact mem_texts_object.2 ⟨e, he, ih e he hs⟩
    · rw [repair_object hk, mem_texts_object] at hs
      obtain ⟨_, hd, hs⟩ := hs
      obtain ⟨e, he, rfl⟩ := List.mem_map.1 hd
      exact mem_texts_object.2 ⟨e, he, ih e he hs⟩
  | _ => exact List.Subset.refl _

mutual

theorem texts_cleanTexts : ∀ v : Value, v.cleanTexts.texts = v.texts.map sanitizeText
  | .null | .bool _ | .number _ | .text _ => rfl
  | .list items => texts_cleanItems items
  | .object fields => texts_cleanFields fields

theorem texts_cleanItems : ∀ items : List Value,
    textsOfItems (cleanItems items) = (textsOfItems items).map sanitizeText
  | [] => rfl
  | v :: items => by
    rw [cleanItems, textsOfItems, textsOfItems, List.map_append, texts_cleanTexts v,
      texts_cleanItems items]

theorem texts_cleanFields : ∀ fields : List (String × Value),
    textsOfFields (cleanFields fields) = (textsOfFields fields).map sanitizeText
  | [] => rfl
  | (_, v) :: fields => by
    rw [cleanFields, textsOfFields, textsOfFields, List.map_append, texts_cleanTexts v,
      texts_cleanFields fields]

end

mutual

theorem cleanTexts_eq_self : ∀ v : Value, (∀ s ∈ v.texts, ScriptFree s) → v.cleanTexts = v
  | .null | .bool _ | .number _ => fun _ => rfl
  | .text s => fun h => by
    rw [cleanTexts, (sanitizeText_eq_self_iff s).2 (h s List.mem_cons_self)]
  | .list items => fun h => by rw [cleanTexts, cleanItems_eq_self items h]
  | .object fields => fun h => by rw [cleanTexts, cleanFields_eq_self fields h]

theorem cleanItems_eq_self : ∀ items : List Value,
    (∀ s ∈ textsOfItems items, ScriptFree s) → cleanItems items = items
  | [] => fun _ => rfl
  | v :: items => fun h => by
    rw [cleanItems, cleanTexts_eq_self v fun s hs => h s (List.mem_append_left _ hs),
      cleanItems_eq_self items fun s hs => h s (List.mem_append_right _ hs)]

theorem cleanFields_eq_self : ∀ fields : List (String × Value),
    (∀ s ∈ textsOfFields fields, ScriptFree s) → cleanFields fields = fields
  | [] => fun _ => rfl
  | (k, v) :: fields => fun h => by
    rw [cleanFields, cleanTexts_eq_self v fun s hs => h s (List.mem_append_left _ hs),
      cleanFields_eq_self fields fun s hs => h s (List.mem_append_right _ hs)]

end

mutual

theorem texts_slimNode : ∀ v : Value, v.slimNode.texts ⊆ v.texts
  | .object fields => by
    rw [slimNode]
    apply texts_ofFields
    simp only [List.forall_mem_cons, List.not_mem_nil, false_implies, implies_true, and_true]
    refine ⟨fun w hw => texts_of_get? hw, fun w hw => texts_of_get? hw, fun w hw => ?_,
      fun w hw => texts_of_get? hw, fun w hw => ?_, fun w hw => ?_⟩
    · obtain rfl := Option.some.inj hw
      split
      · rename_i props hprops
        exact texts_of_get? hprops
      · exact fun s hs => nomatch hs
    · split at hw
      · cases hw
      · obtain rfl := Option.some.inj hw
        intro s hs
        obtain ⟨c, hc, hs⟩ := mem_texts_list.1 hs
        exact texts_slimChildren fields c hc hs
    · split at hw
      · rename_i c cs hconditions
        obtain rfl := Option.some.inj hw
        exact texts_of_get? hconditions
      · cases hw
  | .null | .bool _ | .number _ | .text _ | .list _ => List.Subset.refl _

theorem texts_slimChildren : ∀ fields : List (String × Value),
    ∀ c ∈ slimChildren fields, c.texts ⊆ (Value.object fields).texts
  | [] => fun c hc => nomatch hc
  | (k, .list items) :: fields => by
    intro c hc
    rw [texts_object_cons]
    rw [slimChildren] at hc
    split at hc
    · exact List.Subset.trans (texts_slimNodes items c hc) (List.subset_append_left _ _)
    · exact List.Subset.trans (texts_slimChildren fields c hc) (List.subset_append_right _ _)
  | (k, .null) :: fields | (k, .bool _) :: fields | (k, .number _) :: fields
  | (k, .text _) :: fields | (k, .object _) :: fields => by
    intro c hc
    rw [texts_object_cons]
    rw [slimChildren] at hc
    · split at hc
      · cases hc
      · exact List.Subset.trans (texts_slimChildren fields c hc) (List.subset_append_right _ _)
    · exact nofun

theorem texts_slimNodes : ∀ items : List Value,
    ∀ c ∈ slimNodes items, c.texts ⊆ (Value.list items).texts
  | [] => fun c hc => nomatch hc
  | v :: items => by
    intro c hc s hs
    rw [texts_list_cons, List.mem_append]
    rcases List.mem_cons.1 hc with rfl | hc
    · exact .inl (texts_slimNode v hs)
    · exact .inr (texts_slimNodes items c hc hs)

end

theorem texts_slimComponents (v : Value) : v.slimComponents.texts ⊆ v.texts := by
  cases v with
  | list items =>
    intro s hs
    obtain ⟨c, hc, hs⟩ := mem_texts_list.1 hs
    exact texts_slimNodes items c hc hs
  | _ => exact fun s hs => nomatch hs

theorem texts_optimize (v : Value) : v.optimize.texts ⊆ v.texts := by
  intro s hs
  apply texts_repair v
  unfold optimize at hs
  split at hs
  · rename_i fields hrepair
    rw [hrepair]
    split at hs
    · rename_i components hget
      rcases Props.mem_texts_insert hs with hs | hs
      · exact hs
      · exact texts_of_get? hget (texts_slimComponents components hs)
    · exact hs
  · exact hs

theorem texts_iterate_optimize (n : Nat) (v : Value) : (optimize^[n] v).texts ⊆ v.texts := by
  induction n with
  | zero => exact List.Subset.refl v.texts
  | succ n ih =>
    rw [Function.iterate_succ_apply']
    exact List.Subset.trans (texts_optimize _) ih

theorem texts_process (raw : Value) (options : ProcessOptions) :
    (raw.process options).document.texts ⊆ raw.sanitize.texts := by
  have hexamined : (((if options.validate then some raw.sanitize.validate else none).map
      (·.repaired)).getD raw.sanitize).texts ⊆ raw.sanitize.texts := by
    split
    · exact texts_repair raw.sanitize
    · exact List.Subset.refl _
  intro s hs
  unfold process at hs
  simp only at hs
  split at hs
  · exact hexamined (texts_optimize _ hs)
  · exact hexamined hs

theorem sanitize_script_free {raw : Value} {s : String} (h : s ∈ raw.sanitize.texts) :
    ScriptFree s := by
  rw [sanitize, texts_cleanTexts] at h
  obtain ⟨t, -, rfl⟩ := List.mem_map.1 h
  exact sanitizeText_free t

theorem processed_script_free {raw : Value} {options : ProcessOptions} {n : Nat} {s : String}
    (h : s ∈ (optimize^[n] (raw.process options).document).texts) : ScriptFree s :=
  sanitize_script_free (texts_process raw options (texts_iterate_optimize n _ h))

end PageConfig.Value
