import PageConfig.Proofs.Props.ThemeReference
import PageConfig.Proofs.Raw.ScriptFree
import PageConfig.Proofs.Value.Texts
import PageConfig.View.NodeProps

/-!
# The texts of resolved props

Overrides and templates take every text from the node or from the context. Only
theme references write new texts, by putting tokens into those outside of lists.
-/

set_option autoImplicit false

namespace PageConfig

namespace Value

mutual

def outerTexts : Value → List String
  | .text s => [s]
  | .object fields => outerTextsOfFields fields
  | _ => []

def outerTextsOfFields : List (String × Value) → List String
  | [] => []
  | (_, v) :: fields => v.outerTexts ++ outerTextsOfFields fields

end

end Value

namespace Props

open Value

mutual

theorem texts_fillValue (context : Value) :
    ∀ v : Value, (fillValue context v).texts ⊆ v.texts ++ context.texts
  | .text s => by
    rw [fillValue]
    cases h : (templatePath? s).bind context.present? with
    | none => exact List.subset_append_left _ _
    | some w =>
      obtain ⟨path, -, hpath⟩ := Option.bind_eq_some_iff.1 h
      exact List.Subset.trans (texts_present? hpath) (List.subset_append_right _ _)
  | .object fields => texts_fillFields context fields
  | .null | .bool _ | .number _ | .list _ => List.subset_append_left _ _

theorem texts_fillFields (context : Value) : ∀ fields : List (String × Value),
    (Value.object (fillFields context fields)).texts ⊆ (Value.object fields).texts ++ context.texts
  | [] => fun s hs => nomatch hs
  | (k, v) :: fields => by
    intro s hs
    rw [fillFields, texts_object_cons, List.mem_append] at hs
    rw [texts_object_cons, List.append_assoc, List.mem_append]
    rcases hs with hs | hs
    · rcases List.mem_append.1 (texts_fillValue context v hs) with hs | hs
      · exact .inl hs
      · exact .inr (List.mem_append_right _ hs)
    · exact .inr (texts_fillFields context fields hs)

end

mutual

theorem mem_texts_themeValue (theme : Value) {s : String} : ∀ v : Value,
    s ∈ (themeValue theme v).texts →
      s ∈ v.outerTexts.map (resolveTheme · theme) ∨ s ∈ v.texts
  | .text _ => .inl
  | .object fields => mem_texts_themeFields theme fields
  | .null | .bool _ | .number _ | .list _ => .inr

theorem mem_texts_themeFields (theme : Value) {s : String} : ∀ fields : List (String × Value),
    s ∈ (Value.object (themeFields theme fields)).texts →
      s ∈ (Value.object fields).outerTexts.map (resolveTheme · theme) ∨
        s ∈ (Value.object fields).texts
  | [] => fun hs => nomatch hs
  | (k, v) :: fields => by
    intro hs
    rw [themeFields, texts_object_cons, List.mem_append] at hs
    rw [outerTexts, outerTextsOfFields, List.map_append, texts_object_cons, List.mem_append,
      List.mem_append]
    rcases hs with hs | hs
    · rcases mem_texts_themeValue theme v hs with hs | hs
      · exact .inl (.inl hs)
      · exact .inr (.inl hs)
    · rcases mem_texts_themeFields theme fields hs with hs | hs
      · exact .inl (.inr hs)
      · exact .inr (.inr hs)

end

mutual

theorem outerTexts_themeValue (theme : Value) : ∀ v : Value,
    v.outerTexts.map (resolveTheme · theme) ⊆ (themeValue theme v).texts
  | .text _ => List.Subset.refl _
  | .object fields => outerTexts_themeFields theme fields
  | .null | .bool _ | .number _ | .list _ => fun _ hs => nomatch hs

theorem outerTexts_themeFields (theme : Value) : ∀ fields : List (String × Value),
    (Value.object fields).outerTexts.map (resolveTheme · theme) ⊆
      (Value.object (themeFields theme fields)).texts
  | [] => fun _ hs => nomatch hs
  | (k, v) :: fields => by
    intro s hs
    rw [outerTexts, outerTextsOfFields, List.map_append, List.mem_append] at hs
    rw [themeFields, texts_object_cons, List.mem_append]
    rcases hs with hs | hs
    · exact .inl (outerTexts_themeValue theme v hs)
    · exact .inr (outerTexts_themeFields theme fields hs)

end

theorem fillTheme_script_free_iff {props : Props} (theme : Value)
    (h : ∀ s ∈ (Value.object props).texts, ScriptFree s) :
    (∀ s ∈ (Value.object (props.fillTheme theme)).texts, ScriptFree s) ↔
      ∀ s ∈ (Value.object props).outerTexts, ScriptFree (resolveTheme s theme) := by
  constructor
  · intro hfree s hs
    exact hfree _ (outerTexts_themeFields theme props (List.mem_map_of_mem hs))
  · intro hfree s hs
    rcases mem_texts_themeFields theme props hs with hs | hs
    · obtain ⟨t, ht, rfl⟩ := List.mem_map.1 hs
      exact hfree t ht
    · exact h s hs

theorem mapValues_mergeShallow (f : Value → Value) (base overlay : Props) :
    (base.mergeShallow overlay).mapValues f =
      mergeShallow (base.mapValues f) (overlay.mapValues f) := by
  induction overlay generalizing base with
  | nil => rfl
  | cons e overlay ih =>
    have h := ih (base.insert e.1 e.2)
    rw [Table.mapValues_insert] at h
    exact h

end Props

def Responsive.texts (r : Responsive) : List String :=
  [r.mobile, r.tablet, r.desktop, r.wide].flatMap fun t => (Value.object (t.getD [])).texts

namespace Responsive

theorem texts_of_tier {r : Responsive} {t : Option Props}
    (h : t ∈ [r.mobile, r.tablet, r.desktop, r.wide]) :
    (Value.object (t.getD [])).texts ⊆ r.texts :=
  fun _ hs => List.mem_flatMap.2 ⟨t, h, hs⟩

theorem texts_tier (r : Responsive) (viewport : Viewport) :
    (Value.object (r.tier viewport)).texts ⊆ r.texts := by
  unfold tier
  apply texts_of_tier
  split
  · simp
  · split <;> simp

theorem texts_overrides (r : Responsive) (viewport : Viewport) :
    (Value.object (r.overrides viewport)).texts ⊆ r.texts := by
  unfold overrides
  split
  · rename_i wide _ hwide
    intro s hs
    rcases Props.mem_texts_mergeDeep hs with hs | hs
    · exact texts_tier r viewport hs
    · have hmem : r.wide ∈ [r.mobile, r.tablet, r.desktop, r.wide] := by simp
      apply texts_of_tier hmem
      rw [hwide]
      exact hs
  · exact texts_tier r viewport

end Responsive

namespace Node

def texts (n : Node) : List String :=
  (Value.object n.props).texts ++ (n.responsive.map Responsive.texts).getD []

theorem texts_bucket (r : Responsive) (viewport : Viewport) :
    (Value.object (bucket r viewport)).texts ⊆ r.texts := by
  apply List.Subset.trans _ (Responsive.texts_overrides r viewport)
  unfold bucket
  simp only
  split
  · rename_i inner hinner
    exact Value.texts_of_get? hinner
  · exact List.Subset.refl _

theorem texts_baseProps (n : Node) (viewport : Viewport) :
    (Value.object (n.baseProps viewport)).texts ⊆ n.texts := by
  unfold baseProps texts
  split
  · rename_i r hr
    intro s hs
    rw [hr, List.mem_append]
    rcases Props.mem_texts_mergeShallow hs with hs | hs
    · exact .inl hs
    · exact .inr (texts_bucket r viewport hs)
  · exact List.subset_append_left _ _

end Node

end PageConfig
