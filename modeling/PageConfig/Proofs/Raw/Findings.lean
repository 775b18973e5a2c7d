import PageConfig.Proofs.Document.Nodes
import PageConfig.Proofs.Raw.Stages

/-!
# What is found in slim documents

Slimming keeps the id and the type of every node and all fields of a document but its
components, so what was found before is found again. There is one exception: components
that are written as anything but a list are missing, and a slim document lists none instead.
-/

set_option autoImplicit false

namespace PageConfig

namespace Value

open Props

def label (v : Value) : String × Bool := (v.idText, v.hasType)

theorem nodeWarnings_congr {nodes others : List Value} (h : nodes.map label = others.map label)
    (seen : List String) : nodeWarnings seen nodes = nodeWarnings seen others := by
  induction nodes generalizing others seen with
  | nil =>
    obtain rfl := List.map_eq_nil_iff.1 h.symm
    rfl
  | cons v nodes ih =>
    cases others with
    | nil => cases h
    | cons w others =>
      obtain ⟨hlabel, hrest⟩ := List.cons.inj h
      obtain ⟨hid, htype⟩ := Prod.mk.inj hlabel
      simp only [nodeWarnings, hid, htype, ih hrest]

theorem label_slimNode (v : Value) : v.slimNode.label = v.label := by
  cases v with
  | object fields =>
    have hid : (object fields).slimNode.field? "id" = (object fields).field? "id" := by
      rw [slimNode_object]
      exact get?_slimFields rfl
    have htype : (object fields).slimNode.field? "type" = (object fields).field? "type" := by
      rw [slimNode_object]
      exact get?_slimFields rfl
    simp only [label, idText, hasType, hid, htype]
  | _ => rfl

theorem labels_preorderAll_slim {items : List Value}
    (h : ∀ v ∈ items, v.slimNode.preorder.map label = v.preorder.map label) :
    (preorderAll (items.map slimNode)).map label = (preorderAll items).map label := by
  induction items with
  | nil => rfl
  | cons v items ih =>
    obtain ⟨hv, hitems⟩ := List.forall_mem_cons.1 h
    rw [List.map_cons, preorderAll, preorderAll, List.map_append, List.map_append, hv, ih hitems]

theorem labels_preorder_slim (v : Value) :
    v.slimNode.preorder.map label = v.preorder.map label := by
  induction v using Value.induct_below "children" with
  | object fields ih =>
    have hlabel := label_slimNode (.object fields)
    have hchildren : itemsAt (Props.ofFields (slimFields fields)) "children" =
        (fields.itemsAt "children").map slimNode := itemsAt_of_get? (get?_slimFields rfl)
    rw [slimNode_object, Value.ofFields] at hlabel ⊢
    rw [preorder_object, preorder_object, List.map_cons, List.map_cons, hlabel, hchildren,
      labels_preorderAll_slim ih]
  | other v hv => rw [slimNode_of_not_object hv]

theorem field?_slimmed (v : Value) {key : String} (h : key ≠ "components") :
    v.slimmed.field? key = v.field? key := by
  cases v with
  | object fields =>
    cases hget : Table.get? fields "components" with
    | none => simp only [slimmed, hget]
    | some c => simp only [slimmed, hget, field?, Table.get?_insert, if_neg h.symm]
  | _ => rfl

theorem field?_slimmed_components (v : Value) :
    v.slimmed.field? "components" = (v.field? "components").map slimComponents := by
  cases v with
  | object fields =>
    cases hget : Table.get? fields "components" with
    | none => simp only [slimmed, hget, field?, Option.map_none]
    | some c => simp only [slimmed, hget, field?, Table.get?_insert, if_true, Option.map_some]
  | _ => rfl

/-- Slimming gives no warning and takes none away. -/
theorem warnings_slimmed (v : Value) : v.slimmed.examine.warnings = v.examine.warnings := by
  simp only [examine, field?_slimmed v (by decide : "version" ≠ "components"),
    field?_slimmed_components, walk_eq_preorderAll]
  cases v.field? "components" with
  | none => rfl
  | some c =>
    cases c with
    | list nodes =>
      have hlabels := labels_preorderAll_slim fun u (_ : u ∈ nodes) => labels_preorder_slim u
      simp only [Option.map_some, slimComponents, slimNodes_eq_map, nodeWarnings_congr hlabels]
    | _ => rfl

def listsComponents (document : Value) : Bool :=
  (document.field? "components").any (·.asList?.isSome)

def MiswritesComponents (document : Value) : Prop :=
  ∃ c, document.field? "components" = some c ∧ c ≠ .null ∧ c.asList? = none

theorem listsComponents_slimmed (v : Value) :
    v.slimmed.listsComponents ↔ v.listsComponents ∨ v.MiswritesComponents := by
  unfold listsComponents MiswritesComponents
  rw [field?_slimmed_components]
  cases v.field? "components" with
  | none => simp
  | some c => cases c <;> simp [slimComponents, asList?]

theorem not_listsComponents {v : Value} (h : v.MiswritesComponents) : ¬ v.listsComponents := by
  obtain ⟨c, hc, -, hlist⟩ := h
  simp [listsComponents, hc, hlist]

theorem hasError_examine (v : Value) :
    v.examine.hasError .missingComponents = !v.listsComponents := by
  simp only [Findings.hasError, examine, listsComponents, List.any_append]
  cases (v.field? "id").any isSet <;> cases (v.field? "components").any (·.asList?.isSome) <;>
    cases (v.field? "layout").any (·.asObject?.isSome) <;> rfl

theorem validate_of_normal {v : Value} (h : v.Normal) : v.validate = v.examine := by
  rw [validate, repair_of_normal h]

theorem optimize_of_normal {v : Value} (h : v.Normal) : v.optimize = v.slimmed := by
  rw [optimize_eq, repair_of_normal h]

/-- The document is the one that was examined, or that one once it is slim. -/
def ShapeOf (document examined : Value) : Prop :=
  document = examined ∨ document = examined.optimize

theorem ShapeOf.normal {document examined : Value} (h : document.ShapeOf examined)
    (hnormal : examined.Normal) : document.Normal := by
  rcases h with rfl | rfl
  · exact hnormal
  · exact examined.normal_optimize

theorem ShapeOf.optimize {document examined : Value} (h : document.ShapeOf examined) :
    document.optimize.ShapeOf examined := by
  rcases h with rfl | rfl
  · exact .inr rfl
  · exact .inr examined.optimize_optimize

end Value

namespace Findings

theorem eq_of_fields {f g : Findings} (herrors : f.errors = g.errors)
    (hwarnings : f.warnings = g.warnings) : f = g := by
  cases f
  cases g
  cases herrors
  cases hwarnings
  rfl

/-- Components were missing that the document lists by now. -/
def Outdated (f : Findings) (document : Value) : Prop :=
  f.hasError .missingComponents ∧ document.listsComponents

/-- The errors without missing components, where the document lists some by now. -/
def remaining (f : Findings) (document : Value) : List ValidationError :=
  f.errors.filter fun e => !(e.code = .missingComponents && document.listsComponents)

theorem remaining_eq_self_iff {f : Findings} {document : Value} :
    f.remaining document = f.errors ↔ ¬ f.Outdated document := by
  rw [remaining, List.filter_eq_self, Outdated, hasError, List.any_eq_true]
  simp only [Bool.not_eq_true', Bool.and_eq_false_iff, decide_eq_false_iff_not, decide_eq_true_eq,
    not_and, Bool.not_eq_true, forall_exists_index, and_imp]
  exact forall₂_congr fun e _ => imp_iff_not_or.symm

/-- The findings say what examining the document again finds, but for missing components. -/
structure Describe (f : Findings) (document : Value) : Prop where
  warnings : document.validate.warnings = f.warnings
  errors : document.validate.errors = f.remaining document

namespace Describe

variable {f : Findings} {document : Value} (h : f.Describe document)

include h

theorem current_iff : f = document.validate.toFindings ↔ ¬ f.Outdated document := by
  rw [← remaining_eq_self_iff, ← h.errors]
  refine ⟨fun hf => congrArg Findings.errors hf.symm, fun herrors => ?_⟩
  exact eq_of_fields herrors.symm h.warnings.symm

theorem valid (hvalid : f.isValid) : document.validate.isValid := by
  rw [isValid, List.isEmpty_iff] at hvalid ⊢
  rw [h.errors, remaining, hvalid, List.filter_nil]

end Describe

theorem outdated_iff {document examined : Value} (hnormal : examined.Normal)
    (h : document.ShapeOf examined) : examined.validate.toFindings.Outdated document ↔
      examined.MiswritesComponents ∧ document = examined.optimize := by
  rw [Outdated, Value.validate_of_normal hnormal, Value.hasError_examine, Bool.not_eq_true',
    ← Bool.not_eq_true, Value.optimize_of_normal hnormal]
  have hslimmed := examined.listsComponents_slimmed
  constructor
  · rintro ⟨hmissing, hlists⟩
    rcases h with rfl | rfl
    · exact absurd hlists hmissing
    · rw [Value.optimize_of_normal hnormal] at hlists ⊢
      exact ⟨(hslimmed.1 hlists).resolve_left hmissing, rfl⟩
  · rintro ⟨hmiswrites, rfl⟩
    exact ⟨Value.not_listsComponents hmiswrites, hslimmed.2 (.inr hmiswrites)⟩

theorem describe_self {v : Value} (h : v.Normal) : v.validate.toFindings.Describe v := by
  refine ⟨rfl, (remaining_eq_self_iff.2 fun houtdated => ?_).symm⟩
  rw [Outdated, Value.validate_of_normal h, Value.hasError_examine] at houtdated
  simp [houtdated.2] at houtdated

theorem describe_optimize {v : Value} (h : v.Normal) :
    v.validate.toFindings.Describe v.optimize := by
  rw [Value.validate_of_normal h, Value.optimize_of_normal h]
  have hslim : v.slimmed.validate = v.slimmed.examine :=
    Value.validate_of_normal (Value.normal_slimmed h)
  refine ⟨hslim ▸ v.warnings_slimmed, ?_⟩
  have hkept : v.listsComponents → v.slimmed.listsComponents :=
    fun hlists => v.listsComponents_slimmed.2 (.inl hlists)
  rw [hslim, remaining]
  unfold Value.listsComponents at hkept ⊢
  simp only [Value.examine, v.field?_slimmed (by decide : "id" ≠ "components"),
    v.field?_slimmed (by decide : "layout" ≠ "components"), List.filter_append]
  -- the components are the only field whose error may go
  generalize (v.field? "components").any _ = before at hkept ⊢
  generalize (v.slimmed.field? "components").any _ = after at hkept ⊢
  cases (v.field? "id").any Value.isSet <;> cases (v.field? "layout").any (·.asObject?.isSome) <;>
    cases before <;> cases after <;> simp at hkept ⊢

theorem describe_of_shape {document examined : Value} (hnormal : examined.Normal)
    (h : document.ShapeOf examined) : examined.validate.toFindings.Describe document := by
  rcases h with rfl | rfl
  · exact describe_self hnormal
  · exact describe_optimize hnormal

end Findings

namespace Value

/-- The errors other than missing components are found again, and so are missing components
unless they are there, but miswritten. -/
theorem optimize_validate (v : Value) :
    v.optimize.validate.warnings = v.validate.warnings ∧
    (v.repair.MiswritesComponents ↔ v.validate.hasError .missingComponents ∧
      ¬ v.optimize.validate.hasError .missingComponents) ∧
    (v.repair.MiswritesComponents → v.optimize.validate.errors =
      v.validate.errors.filter (·.code ≠ .missingComponents)) ∧
    (¬ v.repair.MiswritesComponents → v.optimize.validate.errors = v.validate.errors) ∧
    (v.validate.isValid → v.optimize.validate.isValid) := by
  have hnormal := repair_normal v
  have hvalidate : v.repair.validate = v.validate := validate_of_normal hnormal
  have hoptimize : v.repair.optimize = v.optimize := by
    rw [optimize_eq v, optimize_of_normal hnormal]
  have hdescribe := Findings.describe_optimize hnormal
  have houtdated := Findings.outdated_iff hnormal (.inr rfl)
  rw [hvalidate, hoptimize] at hdescribe houtdated
  simp only [and_true] at houtdated
  have hlists : v.optimize.validate.hasError .missingComponents =
      !v.optimize.listsComponents := by
    rw [validate_of_normal (normal_optimize v), hasError_examine]
  refine ⟨hdescribe.warnings, ?_, fun hmiswrites => ?_, fun hwritten => ?_, hdescribe.valid⟩
  · rw [← houtdated, Findings.Outdated, hlists, Bool.not_eq_true', Bool.not_eq_false]
  · obtain ⟨-, hnow⟩ := houtdated.2 hmiswrites
    rw [hdescribe.errors, Findings.remaining]
    simp only [hnow, Bool.and_true, decide_not]
  · rw [← houtdated, ← Findings.remaining_eq_self_iff] at hwritten
    rw [hdescribe.errors, hwritten]

def strayPage (components : Value) : Value := .object [
  ("components", components),
  ("id", .text "page")]

theorem optimize_validate_strayPage :
    let miswritten := strayPage (.text "none")
    let listed := strayPage (.list [
      .object [("children", .text "none"), ("id", .text "a"), ("type", .text "Grid")],
      .whole 7,
      .object [("children", .list []), ("id", .text "a"), ("type", .text "Text")]])
    miswritten.repair.MiswritesComponents ∧
    miswritten.validate.errors.map (·.code) = [.missingComponents, .missingLayout] ∧
    miswritten.optimize.validate.errors.map (·.code) = [.missingLayout] ∧
    ¬ listed.repair.MiswritesComponents ∧
    listed.optimize = strayPage (.list [
      .object [("id", .text "a"), ("props", .object []), ("type", .text "Grid")],
      .whole 7,
      .object [("id", .text "a"), ("props", .object []), ("type", .text "Text")]]) ∧
    listed.validate.errors.map (·.code) = [.missingLayout] ∧
    listed.optimize.validate.errors = listed.validate.errors ∧
    listed.validate.warnings.map (·.message) = ["Config should have a version for better tracking",
      "Component '' has no type and will not render", "Duplicate component id 'a'"] ∧
    listed.optimize.validate.warnings = listed.validate.warnings := by
  intro miswritten listed
  have hmiswritten : miswritten.repair.MiswritesComponents :=
    ⟨.text "none", rfl, by simp, rfl⟩
  have hlisted : ¬ listed.repair.MiswritesComponents := by
    rintro ⟨c, hc, -, hlist⟩
    cases hc
    cases hlist
  have hcodes : miswritten.validate.errors.map (·.code) = [.missingComponents, .missingLayout] := by
    decide
  obtain ⟨-, -, hfilter, -, -⟩ := optimize_validate miswritten
  obtain ⟨hwarnings, -, -, herrors, -⟩ := optimize_validate listed
  refine ⟨hmiswritten, hcodes, ?_, hlisted, rfl, by decide, herrors hlisted, by decide,
    hwarnings⟩
  rw [hfilter hmiswritten]
  decide

end Value

end PageConfig
