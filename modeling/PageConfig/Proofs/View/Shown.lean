import Mathlib.Data.List.Permutation
import PageConfig.Proofs.Document.Order
import PageConfig.Proofs.View.Visits

/-!
# The nodes that are shown

Which nodes of a level have a block, and in which sequence, is decided by their order,
their conditions and the types that are registered. Neither what units do nor what
failed before has a say in it.
-/

set_option autoImplicit false

namespace PageConfig

open Effect

variable {σ : Type}

namespace Node

def isShown (data : Value) (known : String → Bool) (n : Node) : Bool :=
  Condition.allHold data n.conditions && known n.type

def isMissing (data : Value) (known : String → Bool) (n : Node) : Bool :=
  Condition.allHold data n.conditions && !known n.type

def shown (data : Value) (known : String → Bool) (ns : List Node) : List Node :=
  (byOrder ns).filter (isShown data known)

def misses (data : Value) (known : String → Bool) (ns : List Node) : List Diagnostic :=
  (ns.filter (isMissing data known)).map fun n => .missingComponent n.id n.type

theorem misses_append (data : Value) (known : String → Bool) (ms ns : List Node) :
    misses data known (ms ++ ns) = misses data known ms ++ misses data known ns := by
  rw [misses, List.filter_append, List.map_append]
  rfl

theorem misses_cons (data : Value) (known : String → Bool) (n : Node) (ns : List Node) :
    misses data known (n :: ns) =
      if isMissing data known n then .missingComponent n.id n.type :: misses data known ns
      else misses data known ns := by
  rw [misses, List.filter_cons]
  split <;> rfl

theorem misses_perm {ms ns : List Node} (h : ms.Perm ns) (data : Value) (known : String → Bool) :
    (misses data known ms).Perm (misses data known ns) := (h.filter _).map _

end Node

def Diagnostic.isMissing : Diagnostic → Bool
  | .missingComponent _ _ => true
  | .instantiationFailed _ _ _ => false

namespace Block

mutual

/-- The block has the id and the type of the node, and its children stand for the shown
children of the node. A fallback has no children. -/
def StandsFor (data : Value) (known : String → Bool) : Block → Node → Prop
  | component id type _ _ _ _ _ _ children, n =>
    id = n.id ∧ type = n.type ∧ StandFor data known children (Node.shown data known n.children)
  | fallback id type _ _ _, n => id = n.id ∧ type = n.type

def StandFor (data : Value) (known : String → Bool) : List Block → List Node → Prop
  | [], [] => True
  | b :: bs, n :: ns => StandsFor data known b n ∧ StandFor data known bs ns
  | _, _ => False

end

mutual

/-- The nodes visited below a node: its children and the nodes below them, if it has a
component block. -/
def visitedBelow (data : Value) (known : String → Bool) : Block → Node → List Node
  | component _ _ _ _ _ _ _ _ children, n =>
    n.children ++ visitedBelowAll data known children (Node.shown data known n.children)
  | fallback .., _ => []

def visitedBelowAll (data : Value) (known : String → Bool) : List Block → List Node → List Node
  | b :: bs, n :: ns => visitedBelow data known b n ++ visitedBelowAll data known bs ns
  | _, _ => []

end

theorem StandsFor.id_eq {data : Value} {known : String → Bool} {b : Block} {n : Node}
    (h : b.StandsFor data known n) : b.id = n.id := by
  cases b with
  | component => exact h.1
  | fallback => exact h.1

theorem StandFor.map_id {data : Value} {known : String → Bool} {bs : List Block} {ns : List Node}
    (h : StandFor data known bs ns) : bs.map Block.id = ns.map Node.id := by
  induction bs generalizing ns with
  | nil =>
    cases ns with
    | nil => rfl
    | cons n ns => exact h.elim
  | cons b bs ih =>
    cases ns with
    | nil => exact h.elim
    | cons n ns => rw [List.map_cons, List.map_cons, h.1.id_eq, ih h.2]

end Block

namespace Pass

open Node Block

structure Ready (known : String → Bool) (p : Pass σ) : Prop where
  calm : p.Calm
  known : ∀ type, p.registry.has type = known type

theorem Becomes.ready {known : String → Bool} {p q : Pass σ} {r : Renderer σ}
    {ds : List Diagnostic} {ms : List Metric} (h : p.Becomes r ds ms q) (hp : p.Ready known)
    (hoptions : r.options = p.renderer.options) : q.Ready known where
  calm := h.calm hp.calm hoptions
  known type := (h.registry.has type).trans (hp.known type)

theorem Ready.known_eq {known : String → Bool} {p q : Pass σ} {n : Node}
    {c? : Option (Component σ)} (hp : p.Ready known)
    (h : (component? n.arranged.type).outcome p = (.ok c?, q)) : known n.type = c?.isSome := by
  rw [(component?_becomes h).2, hp.known, arranged_type]

/-- What stands for nodes, and what is noticed of nodes that have no registered type. -/
structure Covers (data : Value) (known : String → Bool) (ns : List Node) (vs : List Visit)
    (bs : List Block) : Prop where
  stand : StandFor data known bs (ns.filter (isShown data known))
  misses : ((vs.flatMap Visit.diagnostics).filter Diagnostic.isMissing).Perm
    (misses data known (ns ++ visitedBelowAll data known bs (ns.filter (isShown data known))))

section

variable {data : Value} {known : String → Bool} {n : Node} {ns : List Node} {v : Visit}
  {vs : List Visit} {b : Block} {bs : List Block}

theorem Covers.hidden (h : Covers data known ns vs bs)
    (hhidden : Condition.allHold data n.conditions = false) :
    Covers data known (n :: ns) vs bs := by
  have hshown : isShown data known n = false := by rw [isShown, hhidden, Bool.false_and]
  have hmissing : isMissing data known n = false := by rw [isMissing, hhidden, Bool.false_and]
  constructor
  · rw [List.filter_cons_of_neg (by simp [hshown])]
    exact h.stand
  · rw [List.filter_cons_of_neg (by simp [hshown]), List.cons_append, misses_cons, hmissing]
    exact h.misses

theorem Covers.missing (h : Covers data known ns vs bs)
    (hshown : Condition.allHold data n.conditions = true) (hknown : known n.type = false)
    (hv : v.diagnostics = [.missingComponent n.id n.type]) :
    Covers data known (n :: ns) (v :: vs) bs := by
  have hnot : isShown data known n = false := by rw [isShown, hknown, Bool.and_false]
  have hmissing : isMissing data known n = true := by rw [isMissing, hshown, hknown]; rfl
  constructor
  · rw [List.filter_cons_of_neg (by simp [hnot])]
    exact h.stand
  · rw [List.filter_cons_of_neg (by simp [hnot]), List.cons_append, misses_cons, hmissing,
      List.flatMap_cons, hv]
    exact h.misses.cons _

theorem Covers.shown (us : List Visit) (h : Covers data known ns vs bs)
    (hshown : Condition.allHold data n.conditions = true) (hknown : known n.type = true)
    (hb : StandsFor data known b n)
    (hmisses : ((us.flatMap Visit.diagnostics).filter Diagnostic.isMissing).Perm
      (Node.misses data known (visitedBelow data known b n))) :
    Covers data known (n :: ns) (us ++ vs) (b :: bs) := by
  have hyes : isShown data known n = true := by rw [isShown, hshown, hknown]; rfl
  have hnot : isMissing data known n = false := by rw [isMissing, hknown]; simp
  constructor
  · rw [List.filter_cons_of_pos hyes]
    exact ⟨hb, h.stand⟩
  · rw [List.filter_cons_of_pos hyes, List.cons_append, misses_cons, hnot, visitedBelowAll,
      List.flatMap_append, List.filter_append]
    refine (hmisses.append h.misses).trans ?_
    simp only [misses_append, Bool.false_eq_true, if_false]
    exact List.perm_append_comm_assoc _ _ _

end

theorem Visits.covers [Clock σ] {scene : Scene} {known : String → Bool} {p q : Pass σ}
    {ms ns : List Node} {vs : List Visit} {bs : List Block} (h : Visits scene p ns vs bs q)
    (hns : ms.map arranged = ns) (hp : p.Ready known) : Covers scene.data known ms vs bs := by
  -- over the steps of the pass; whatever a node did, the pass after it is ready again
  induction h generalizing ms with
  | done p =>
    obtain rfl := List.map_eq_nil_iff.1 hns
    exact ⟨trivial, .refl _⟩
  | hidden hhidden _ ih =>
    obtain ⟨m, ms, rfl, rfl, rfl⟩ := List.map_eq_cons_iff.1 hns
    rw [arranged_conditions] at hhidden
    exact (ih rfl hp).hidden hhidden
  | missing hshown hmissing hnote _ ih =>
    obtain ⟨m, ms, rfl, rfl, rfl⟩ := List.map_eq_cons_iff.1 hns
    rw [arranged_conditions] at hshown
    have hr := missing_becomes hmissing hnote
    refine (ih rfl (hr.ready hp rfl)).missing hshown (hp.known_eq hmissing) ?_
    rw [Visit.diagnostics, arranged_id, arranged_type]
  | kept hshown hfound hfailed hblock _ ih =>
    obtain ⟨m, ms, rfl, rfl, rfl⟩ := List.map_eq_cons_iff.1 hns
    rw [arranged_conditions] at hshown
    obtain ⟨hr, output, rfl⟩ := kept_becomes hp.calm hfound hblock
    refine Covers.shown [_] (ih rfl (hr.ready hp rfl)) hshown (hp.known_eq hfound) ?_ ?_
    · exact ⟨arranged_id m, arranged_type m⟩
    · exact .refl _
  | made hshown hfound hfresh hmade hmetric hbelow _ ihbelow ih =>
    obtain ⟨m, ms, rfl, rfl, rfl⟩ := List.map_eq_cons_iff.1 hns
    rw [arranged_conditions] at hshown
    have hr := made_becomes hp.calm hfound hmade
    have hready := hr.ready hp rfl
    have hs := (hbelow.becomes hready.calm).2.ready hready (Visit.foldl_act_options _ _)
    have hchildren := ihbelow (arranged_children m).symm hready
    refine Covers.shown (_ :: _) (ih rfl hs) hshown (hp.known_eq hfound) ?_ ?_
    · exact ⟨arranged_id m, arranged_type m, hchildren.stand⟩
    · refine hchildren.misses.trans ?_
      exact misses_perm ((byOrder_perm _).append_right _) _ _
  | failed hshown hfound hfresh hmade hmetric hblock _ ih =>
    obtain ⟨m, ms, rfl, rfl, rfl⟩ := List.map_eq_cons_iff.1 hns
    rw [arranged_conditions] at hshown
    obtain ⟨hs, output, rfl⟩ := failed_becomes hp.calm hfound hmade hblock
    refine Covers.shown [_] (ih rfl (hs.ready hp rfl)) hshown (hp.known_eq hfound) ?_ ?_
    · exact ⟨arranged_id m, arranged_type m⟩
    · exact .refl _

end Pass

namespace Stage

open Node Block

section

variable [Clock σ]

theorem render_covers (d : Document) (c : Context) {s : Stage σ} (hcalm : s.Calm) :
    (render d c).Yields s fun output _ => ∃ vs,
      output.diagnostics = vs.flatMap Visit.diagnostics ∧
        Pass.Covers (s.scene d c).data (s.registry.has) (byOrder d.components) vs
          output.blocks := by
  apply (render_visits d c hcalm).imp
  rintro output t ⟨vs, q, hvs, hdiagnostics, -, rfl⟩
  have hready : Pass.Ready (s.registry.has) { s with } := ⟨hcalm, fun _ => rfl⟩
  refine ⟨vs, ?_, hvs.covers (sorted_arrangedAll d.components).symm hready⟩
  exact hdiagnostics.trans (hvs.becomes hcalm).2.diagnostics

/-- Where no callback and no loader panics, a document is shown, and which of its nodes have a
block is decided by their order, their conditions and the registered types alone. -/
theorem render_shown (d : Document) (c : Context) {s : Stage σ} (hcalm : s.Calm) :
    (render d c).Yields s fun output _ =>
      let data := (s.scene d c).data
      let known := s.registry.has
      output.ids = (shown data known d.components).map Node.id ∧
        StandFor data known output.blocks (shown data known d.components) ∧
        (output.diagnostics.filter Diagnostic.isMissing).Perm (misses data known
          (d.components ++
            visitedBelowAll data known output.blocks (shown data known d.components))) := by
  apply (render_covers d c hcalm).imp
  rintro output t ⟨vs, hdiagnostics, hcovers⟩
  rw [hdiagnostics]
  refine ⟨hcovers.stand.map_id, hcovers.stand, hcovers.misses.trans ?_⟩
  exact misses_perm ((byOrder_perm _).append_right _) _ _

end

def mixedDocument : Document where
  components := [
    { id := "text", type := "Text", order := 2 },
    { id := "gone", type := "Text", conditions := [.test "user.role" .equals (.text "admin")] },
    { id := "bad", type := "Bad", order := 1 },
    { id := "odd", type := "Other", order := 1 },
    { id := "late", type := "Late", order := 1 },
    { id := "old", type := "Text", order := -1 }]

def mixedStage : Stage Unit where
  world := ()
  registry := { table := [
    ("Bad", { displayName := "Bad", defaults := [], source := .ready fun _ => throw ⟨none⟩ }),
    ("Late", { displayName := "Late", defaults := [],
               source := .lazy
                 (pure (.error (.loaderFailed "Late" "offline")) : Effect Unit _) none }),
    ("Text", { displayName := "Text", defaults := [],
               source := .ready fun props => return .ok (.object props) })] }
  renderer := {
    options := { onError := some fun _ => pure () }
    failures := { table := [("old", "earlier")] } }

theorem mixedStage_calm : mixedStage.Calm where
  options := by
    refine ⟨fun f hf failure => ?_, nofun, nofun⟩
    cases hf
    exact returns_pure ()
  registry := Registry.calm_of_forall_mem
    (List.forall_mem_cons.2 ⟨trivial, List.forall_mem_cons.2 ⟨returns_pure _,
      List.forall_mem_singleton.2 trivial⟩⟩)

theorem mixedStage_shown : ∃ output t, (render mixedDocument {}).outcome mixedStage =
    (.ok output, t) ∧ output.ids = ["old", "bad", "late", "text"] := by
  obtain ⟨output, t, ht, hids, -⟩ := render_shown mixedDocument {} mixedStage_calm
  refine ⟨output, t, ht, hids.trans ?_⟩
  rw [shown, ← sorted_eq_byOrder]
  rfl

end Stage

end PageConfig
