import PageConfig.Document.Visibility
import PageConfig.Proofs.Document.Nodes

/-!
# The paths that a document addresses

A condition addresses the context at its field, and a text that is a template at its path.
Where two contexts hold the same at the paths that are addressed, the same conditions hold and
templates stand for the same.
-/

set_option autoImplicit false

namespace PageConfig

namespace Condition

mutual

def fields : Condition → List String
  | .mk field _ _ _ nested => field :: fieldsOf nested

def fieldsOf : List Condition → List String
  | [] => []
  | c :: cs => c.fields ++ fieldsOf cs

end

variable {context context' : Value}

mutual

theorem holds_congr : ∀ c : Condition,
    (∀ path ∈ c.fields, context'.present? path = context.present? path) →
      c.holds context' = c.holds context
  | .mk field operator value connective nested => by
    intro h
    rw [fields] at h
    obtain ⟨hfield, hnested⟩ := List.forall_mem_cons.1 h
    rw [holds, holds, holdsAlone, holdsAlone, hfield, allHold_congr nested hnested,
      anyHolds_congr nested hnested]

theorem allHold_congr : ∀ cs : List Condition,
    (∀ path ∈ fieldsOf cs, context'.present? path = context.present? path) →
      allHold context' cs = allHold context cs
  | [] => fun _ => by rw [allHold, allHold]
  | c :: cs => by
    intro h
    rw [fieldsOf] at h
    obtain ⟨hc, hcs⟩ := List.forall_mem_append.1 h
    rw [allHold, allHold, holds_congr c hc, allHold_congr cs hcs]

theorem anyHolds_congr : ∀ cs : List Condition,
    (∀ path ∈ fieldsOf cs, context'.present? path = context.present? path) →
      anyHolds context' cs = anyHolds context cs
  | [] => fun _ => by rw [anyHolds, anyHolds]
  | c :: cs => by
    intro h
    rw [fieldsOf] at h
    obtain ⟨hc, hcs⟩ := List.forall_mem_append.1 h
    rw [anyHolds, anyHolds, holds_congr c hc, anyHolds_congr cs hcs]

end

end Condition

def templatePaths (texts : List String) : List String := texts.filterMap templatePath?

theorem templatePaths_append (ss ts : List String) :
    templatePaths (ss ++ ts) = templatePaths ss ++ templatePaths ts := List.filterMap_append

namespace Props

variable {context context' : Value}

mutual

theorem fillValue_congr : ∀ v : Value,
    (∀ path ∈ templatePaths v.texts, context'.present? path = context.present? path) →
      fillValue context' v = fillValue context v
  | .text s => by
    intro h
    rw [fillValue, fillValue]
    cases hpath : templatePath? s with
    | none => rfl
    | some path =>
      have hmem : path ∈ templatePaths (Value.text s).texts :=
        List.mem_filterMap.2 ⟨s, List.mem_singleton.2 rfl, hpath⟩
      rw [Option.bind_some, Option.bind_some, h path hmem]
  | .object fields => by
    intro h
    rw [fillValue, fillValue, fillFields_congr fields h]
  | .null | .bool _ | .number _ | .list _ => fun _ => by rw [fillValue, fillValue] <;> simp

theorem fillFields_congr : ∀ fields : List (String × Value),
    (∀ path ∈ templatePaths (Value.object fields).texts,
      context'.present? path = context.present? path) →
      fillFields context' fields = fillFields context fields
  | [] => fun _ => by rw [fillFields, fillFields]
  | (k, v) :: fields => by
    intro h
    rw [Value.texts_object_cons, templatePaths_append] at h
    obtain ⟨hv, hfields⟩ := List.forall_mem_append.1 h
    rw [fillFields, fillFields, fillValue_congr v hv, fillFields_congr fields hfields]

end

end Props

/-- The scenes differ only in what the context holds, and hold the same at the paths. -/
structure Scene.SameAt (paths : List String) (s s' : Scene) : Prop where
  theme : s'.theme = s.theme
  retryButton : s'.retryButton = s.retryButton
  viewport : s'.viewport = s.viewport
  present : ∀ path ∈ paths, s'.data.present? path = s.data.present? path

theorem Scene.SameAt.mono {paths paths' : List String} {s s' : Scene} (h : s.SameAt paths s')
    (hpaths : paths' ⊆ paths) : s.SameAt paths' s' :=
  ⟨h.theme, h.retryButton, h.viewport, fun path hpath => h.present path (hpaths hpath)⟩

namespace Node

theorem resolvedProps_of_sameAt {n : Node} {s s' : Scene}
    (h : s.SameAt (templatePaths n.texts) s') :
    n.resolvedProps s' = n.resolvedProps s := by
  have hfill : (n.baseProps s.viewport).fillTemplates s'.data =
      (n.baseProps s.viewport).fillTemplates s.data :=
    Props.fillFields_congr _ fun path hpath =>
      h.present path (List.filterMap_subset _ (n.texts_baseProps s.viewport) hpath)
  rw [resolvedProps, resolvedProps, h.viewport, h.theme, hfill]

def paths (n : Node) : List String :=
  Condition.fieldsOf n.conditions ++ templatePaths n.texts ++
    templatePaths ((n.errorFallback.map texts).getD [])

section

variable {n : Node} {s s' : Scene} (h : s.SameAt n.paths s')

include h

theorem allHold_of_sameAt :
    Condition.allHold s'.data n.conditions = Condition.allHold s.data n.conditions :=
  Condition.allHold_congr n.conditions fun path hpath => h.present path
    (List.mem_append_left _ (List.mem_append_left _ hpath))

theorem sameAt_texts : s.SameAt (templatePaths n.texts) s' :=
  h.mono fun _ hpath => List.mem_append_left _ (List.mem_append_right _ hpath)

theorem sameAt_fallback : s.SameAt (templatePaths ((n.errorFallback.map texts).getD [])) s' :=
  h.mono (List.subset_append_right _ _)

end

@[simp] theorem paths_arranged (n : Node) : n.arranged.paths = n.paths := by
  cases n
  rfl

end Node

def Document.paths (d : Document) : List String := d.nodes.flatMap Node.paths

end PageConfig
