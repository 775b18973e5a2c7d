import Mathlib.Data.Finset.SDiff
import Mathlib.Data.Finset.Card
import Mathlib.Tactic.FinCases
import PageConfig.Proofs.Document.Ids

/-!
# The warnings about the components

The walk with pending nodes and a growing set of ids gives, node by node in preorder,
what a node earns on account of those before it. There are as many warnings about
repeated ids as there are ids beyond the distinct ones.
-/

set_option autoImplicit false

namespace PageConfig

namespace ValidationWarning

def repeatedId (id : String) : ValidationWarning where
  field := "components"
  message := "Duplicate component id '" ++ id ++ "'"
  suggestion := some "Give every component a unique id"

def untyped (id : String) : ValidationWarning where
  field := "components"
  message := "Component '" ++ id ++ "' has no type and will not render"
  suggestion := some "Set type to a registered component name"

def IsRepetition (w : ValidationWarning) : Prop :=
  w.suggestion = some "Give every component a unique id"

instance : DecidablePred IsRepetition := fun w =>
  inferInstanceAs (Decidable (w.suggestion = some "Give every component a unique id"))

theorem isRepetition_repeatedId (id : String) : (repeatedId id).IsRepetition := rfl

theorem not_isRepetition_untyped (id : String) : ¬ (untyped id).IsRepetition := by
  simp [IsRepetition, untyped]

end ValidationWarning

namespace Value

open ValidationWarning

/-- What a node is warned about when the walk came to others earlier. -/
def warningsAfter (earlier : List Value) (v : Value) : List ValidationWarning :=
  (if v.idText ≠ "" ∧ v.idText ∈ earlier.map idText then [repeatedId v.idText] else []) ++
    if v.hasType then [] else [untyped v.idText]

def comparedIds (nodes : List Value) : List String := (nodes.map idText).filter (· ≠ "")

section Seen

variable {earlier : List Value} {seen : List String}
  (hseen : ∀ id, id ∈ seen ↔ id ∈ earlier.map idText)

include hseen

theorem mem_seen_cons (v : Value) (id : String) :
    id ∈ v.idText :: seen ↔ id ∈ (earlier ++ [v]).map idText := by
  rw [List.map_append, List.mem_append, ← hseen, List.mem_cons, or_comm, List.map_singleton,
    List.mem_singleton]

theorem nodeWarnings_cons (v : Value) (nodes : List Value) : nodeWarnings seen (v :: nodes) =
      v.warningsAfter earlier ++ nodeWarnings (v.idText :: seen) nodes := by
  simp only [nodeWarnings, warningsAfter, repeatedId, untyped, ← hseen, Bool.and_eq_true,
    Bool.not_eq_true', String.isEmpty_eq_false_iff, List.contains_iff_mem]

/-- The ids seen are those of the earlier nodes, all through the walk. -/
theorem nodeWarnings_eq_flatMap (nodes : List Value) :
    nodeWarnings seen nodes = (nodes.zipIdx earlier.length).flatMap fun e =>
      e.1.warningsAfter ((earlier ++ nodes).take e.2) := by
  induction nodes generalizing earlier seen with
  | nil => rfl
  | cons v nodes ih =>
    rw [nodeWarnings_cons hseen, ih (mem_seen_cons hseen v), List.zipIdx_cons, List.flatMap_cons,
      List.take_left, List.append_assoc, List.singleton_append, List.length_append,
      List.length_singleton]

theorem countP_warningsAfter (v : Value) : (v.warningsAfter earlier).countP (·.IsRepetition) =
    if v.idText ≠ "" ∧ v.idText ∈ seen then 1 else 0 := by
  have huntyped : (if v.hasType then [] else [untyped v.idText]).countP
      (·.IsRepetition) = 0 := by
    split
    · rfl
    · simp [not_isRepetition_untyped]
  simp only [warningsAfter, List.countP_append, huntyped, ← hseen]
  split <;> simp [isRepetition_repeatedId]

theorem countP_nodeWarnings (nodes : List Value) :
    (nodeWarnings seen nodes).countP (·.IsRepetition) +
      ((comparedIds nodes).toFinset \ seen.toFinset).card = (comparedIds nodes).length := by
  induction nodes generalizing earlier seen with
  | nil => simp [nodeWarnings, comparedIds]
  | cons v nodes ih =>
    have hrest := ih (mem_seen_cons hseen v)
    rw [nodeWarnings_cons hseen, List.countP_append, countP_warningsAfter hseen]
    rw [List.toFinset_cons, Finset.sdiff_insert] at hrest
    by_cases hid : v.idText = ""
    · -- an empty id is not compared, so it does not matter that it counts as seen
      have hids : comparedIds (v :: nodes) = comparedIds nodes := by simp [comparedIds, hid]
      have hempty : v.idText ∉ (comparedIds nodes).toFinset \ seen.toFinset := by
        simp [comparedIds, hid]
      rw [Finset.erase_eq_of_notMem hempty] at hrest
      simpa [hids, hid] using hrest
    · have hids : comparedIds (v :: nodes) = v.idText :: comparedIds nodes := by
        simp [comparedIds, hid]
      rw [hids, List.toFinset_cons, List.length_cons, ← hrest]
      by_cases hrepeated : v.idText ∈ seen
      · have hseen' : v.idText ∉ (comparedIds nodes).toFinset \ seen.toFinset := by
          simp [hrepeated]
        rw [Finset.insert_sdiff_of_mem _ (List.mem_toFinset.2 hrepeated),
          Finset.erase_eq_of_notMem hseen', if_pos ⟨hid, hrepeated⟩]
        omega
      · have hfresh : v.idText ∉ seen.toFinset := fun h => hrepeated (List.mem_toFinset.1 h)
        have hcard := Finset.card_erase_add_one
          (Finset.mem_insert_self v.idText ((comparedIds nodes).toFinset \ seen.toFinset))
        rw [Finset.erase_insert_eq_erase] at hcard
        rw [Finset.insert_sdiff_of_notMem _ hfresh, if_neg fun h => hrepeated h.2, ← hcard]
        omega

end Seen

theorem field_of_mem_warningsAfter {w : ValidationWarning} {v : Value} {earlier : List Value}
    (h : w ∈ v.warningsAfter earlier) : w.field = "components" := by
  rcases List.mem_append.1 h with h | h
  · split at h
    · rw [List.mem_singleton.1 h, repeatedId]
    · cases h
  · split at h
    · cases h
    · rw [List.mem_singleton.1 h, untyped]

theorem examine_warnings {document : Value} {items : List Value}
    (hitems : document.field? "components" = some (.list items)) :
    ∃ version : List ValidationWarning,
      (∀ w ∈ version, w.field ≠ "components" ∧ ¬ w.IsRepetition) ∧
        document.examine.warnings = version ++ nodeWarnings [] (preorderAll items) := by
  simp only [examine, hitems, walk_eq_preorderAll]
  refine ⟨_, fun w hw => ?_, rfl⟩
  split at hw
  · cases hw
  · rw [List.mem_singleton.1 hw]
    decide

/-- The components are walked through in preorder. A node is warned about if an earlier one
has its id, empty ids apart, and then if it has no type. So an id is warned about as often
as it occurs, less once; and what is compared are the ids that the typed nodes get. -/
theorem component_warnings {raw : Value} {items : List Value}
    (hitems : raw.repair.field? "components" = some (.list items)) :
    let nodes := preorderAll items
    raw.validate.warnings.filter (·.field = "components") =
      nodes.zipIdx.flatMap (fun e => e.1.warningsAfter (nodes.take e.2)) ∧
    raw.validate.warnings.countP (·.IsRepetition) + (comparedIds nodes).toFinset.card =
      (comparedIds nodes).length ∧
    ∀ d, Document.ofValue raw.repair = .ok d → (∀ u ∈ nodes, u.asObject?.isSome) →
      d.nodes.map Node.id = nodes.map idText := by
  intro nodes
  have hunseen : ∀ id, id ∈ ([] : List String) ↔ id ∈ ([] : List Value).map idText :=
    fun _ => Iff.rfl
  obtain ⟨version, hversion, hwarnings⟩ := examine_warnings hitems
  rw [← validate] at hwarnings
  refine ⟨?_, ?_, fun d hd hobjects => Document.ids_of_ofValue hd hitems hobjects⟩
  · have hnone : version.filter (·.field = "components") = [] :=
      List.filter_eq_nil_iff.2 fun w hw => by simpa using (hversion w hw).1
    rw [hwarnings, List.filter_append, hnone, List.nil_append, nodeWarnings_eq_flatMap hunseen,
      List.filter_eq_self.2]
    · rfl
    · intro w hw
      obtain ⟨e, -, he⟩ := List.mem_flatMap.1 hw
      exact decide_eq_true (field_of_mem_warningsAfter he)
  · have hnone : version.countP (·.IsRepetition) = 0 :=
      List.countP_eq_zero.2 fun w hw => by simpa using (hversion w hw).2
    have hcount := countP_nodeWarnings hunseen nodes
    rw [List.toFinset_nil, Finset.sdiff_empty] at hcount
    rw [hwarnings, List.countP_append, hnone, Nat.zero_add, hcount]

theorem component_warnings_indexed :
    let below : Value := .object [("id", .text "7")]
    let first : Value := .object [
      ("children", .list [below]), ("id", .whole 7), ("type", .text "Grid")]
    let raw : Value := .object [
      ("components", .object [("0", first), ("1", Document.bareValue)]),
      ("id", .text "page"),
      ("layout", .object []),
      ("version", .text "1")]
    let d := Document.pageOf [
      { id := "7", type := "Grid", children := [{ id := "7" }] }, { type := "Text" }]
    raw.repair.field? "components" = some (.list [first, Document.bareValue]) ∧
    raw.validate.warnings.filter (·.field = "components") = [repeatedId "7", untyped "7"] ∧
    raw.validate.warnings.countP (·.IsRepetition) + 1 = ["7", "7"].length ∧
    Document.ofValue raw.repair = .ok d ∧
    d.nodes.map Node.id = [first, below, Document.bareValue].map idText := by
  intro below first raw d
  have hitems : raw.repair.field? "components" = some (.list [first, Document.bareValue]) := rfl
  have hd : Document.ofValue raw.repair = .ok d := by
    unfold Document.ofValue Document.decode
    rw [Node.decode_eq, Node.decode_eq]
    rfl
  obtain ⟨hwarnings, hcount, hids⟩ := component_warnings hitems
  refine ⟨hitems, ?_, hcount, hd, hids d hd ?_⟩
  · rw [hwarnings]
    decide
  · intro u hu
    have hnodes : preorderAll [first, Document.bareValue] =
        [first, below, Document.bareValue] := rfl
    rw [hnodes] at hu
    fin_cases hu <;> rfl

end Value

end PageConfig
