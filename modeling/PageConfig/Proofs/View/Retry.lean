import PageConfig.Proofs.Document.Find
import PageConfig.Proofs.View.Calls
import PageConfig.Proofs.View.History

/-!
# What a retry leaves alone

A retry forgets one failure, counts itself and shows one node. What is remembered of ids
outside the tree of that node stays, and nothing is called that this tree does not ask for.
-/

set_option autoImplicit false

namespace PageConfig

open Effect Relation

variable {σ : Type}

theorem Renderer.toNat_retryCount_retrying {r : Renderer σ} {id : String}
    (h : (r.retryCount id).toNat + 1 < 2 ^ 32) :
    ((r.retrying id).retryCount id).toNat = (r.retryCount id).toNat + 1 := by
  rw [retryCount_retrying, if_pos rfl, UInt32.toNat_add]
  exact Nat.mod_eq_of_lt h

theorem Pass.Visits.id_mem [Clock σ] {scene : Scene} {p q : Pass σ} {n : Node} {vs : List Visit}
    {bs : List Block} (h : Visits scene p [n.arranged] vs bs q) {v : Visit} (hv : v ∈ vs) :
    ∃ m ∈ n.nodes, m.id = v.node.id := by
  have hmem := h.node_mem v hv
  rw [Node.nodesOf, Node.nodesOf, List.append_nil] at hmem
  obtain ⟨m, hm, heq⟩ := Node.mem_nodes_arranged n hmem
  exact ⟨m, hm, by rw [heq, Node.arranged_id]⟩

theorem Asks.of_arranged {scene : Scene} {n : Node} {type : String} {given : Props → Props}
    (h : Asks scene n.arranged.nodes type given) : Asks scene n.nodes type given := by
  cases h with
  | node hmem =>
    obtain ⟨m, hm, rfl⟩ := Node.mem_nodes_arranged n hmem
    simpa only [Node.arranged_type, Node.arranged_resolvedProps] using Asks.node hm
  | fallback hmem hf error =>
    obtain ⟨m, hm, rfl⟩ := Node.mem_nodes_arranged n hmem
    rw [Node.arranged_errorFallback] at hf
    exact .fallback hm hf error

theorem Node.fault_arranged (n : Node) (scene : Scene) (error : String) :
    n.arranged.fault scene error = n.fault scene error := by
  rw [fault, fault, arranged_id, arranged_type]

theorem Calls.of_arranged [Clock σ] {o : RenderOptions σ} {r : Registry σ} {scene : Scene}
    {n : Node}
    {v w : σ} (h : Calls o r scene n.arranged.nodes v w) : Calls o r scene n.nodes v w := by
  cases h with
  | load hasks hentry => exact .load hasks.of_arranged hentry v
  | unit hasks hentry hunit => exact .unit hasks.of_arranged hentry hunit v
  | onMetric hmem hf updateCount =>
    obtain ⟨m, hm, rfl⟩ := Node.mem_nodes_arranged n hmem
    rw [Node.arranged_id, Node.arranged_type]
    exact .onMetric hm hf updateCount v
  | onError hmem hf error time =>
    obtain ⟨m, hm, rfl⟩ := Node.mem_nodes_arranged n hmem
    rw [Node.fault_arranged]
    exact .onError hm hf error time v
  | fallback hmem hf error time =>
    obtain ⟨m, hm, rfl⟩ := Node.mem_nodes_arranged n hmem
    rw [Node.fault_arranged]
    exact .fallback hm hf error time v
  | clock => exact .clock v

namespace Stage

section

variable [Clock σ]

theorem retry_of_find {d : Document} {id : String} {n : Node} (h : d.findNode? id = some n)
    (c : Context) (s : Stage σ) : (retry d c id).outcome s =
      (((Pass.node? (s.scene d c) n.arranged).outcome
          { s with renderer := s.renderer.retrying id }).1,
        ((Pass.node? (s.scene d c) n.arranged).outcome
          { s with renderer := s.renderer.retrying id }).2.toStage) := by
  rw [retry, h]
  rfl

/-- All that a retry calls is what the tree of its node asks for, also where it panics. -/
theorem retry_calls {d : Document} {id : String} {n : Node} (h : d.findNode? id = some n)
    (c : Context) (s : Stage σ) :
    ReflTransGen (Calls s.renderer.options s.registry (s.scene d c) n.nodes) s.world
      ((retry d c id).outcome s).2.world := by
  rw [retry_of_find h]
  have hconfined := Pass.node?_confined s.renderer.options s.registry (s.scene d c)
    n.arranged.nodes s.world n.arranged (List.Subset.refl _)
    { s with renderer := s.renderer.retrying id } ⟨rfl, .refl _, .refl⟩
  exact ReflTransGen.mono (fun _ _ => Calls.of_arranged) _ _ hconfined.1.world

/-- A retry is counted for its id and for no other. If the document has no node with the id,
nothing else changes but that the failure of the id is forgotten. Otherwise the first such
node is shown: failures and counts of ids that do not occur in its tree stay as they are, and
the units that are called are those of nodes in the tree and of their own fallbacks. -/
theorem retry_frame (d : Document) (c : Context) (id : String) {s : Stage σ} (hcalm : s.Calm)
    (hcount : (s.renderer.retryCount id).toNat + 1 < 2 ^ 32) :
    (retry d c id).Yields s fun b? t =>
      (t.renderer.retryCount id).toNat = (s.renderer.retryCount id).toNat + 1 ∧
      (∀ other, other ≠ id →
        t.renderer.retries.get? other = s.renderer.retries.get? other) ∧
      match d.nodes.find? (·.id = id) with
      | none => b? = none ∧
        (∃ failures retries, t = { s with renderer := { s.renderer with failures, retries } }) ∧
        ∀ other, t.renderer.failures.get? other =
          if id = other then none else s.renderer.failures.get? other
      | some n =>
        (∀ other, (∀ m ∈ n.nodes, m.id ≠ other) →
          t.renderer.failures.get? other = s.renderer.failures.get? other ∧
          t.renderer.updates.get? other = s.renderer.updates.get? other) ∧
        ReflTransGen (Calls s.renderer.options s.registry (s.scene d c) n.nodes) s.world
          t.world := by
  obtain ⟨b?, t, hretry, vs, q, hvisits, rfl⟩ := retry_visits d c id hcalm
  have hq : q.renderer = vs.foldl Visit.act (s.renderer.retrying id) :=
    (hvisits.becomes ⟨hcalm.options, hcalm.registry⟩).2.renderer
  have hretries : q.renderer.retries = (s.renderer.retrying id).retries := by
    rw [hq, Visit.foldl_act_retries]
  refine ⟨b?, q.toStage, hretry, ?_, fun other hother => ?_, ?_⟩
  · rw [Renderer.retryCount, hretries]
    exact Renderer.toNat_retryCount_retrying hcount
  · rw [hretries, Renderer.retrying, Dictionary.get?_insert, if_neg hother.symm]
  have hfind : d.nodes.find? (·.id = id) = d.findNode? id :=
    (Node.findAmong?_eq id d.components).symm
  cases hfound : d.findNode? id with
  | none =>
    rw [hfind, hfound]
    simp only [hfound, Option.toList_none, List.map_nil] at hvisits
    cases b? with
    | some b => cases hvisits
    | none =>
      cases hvisits
      exact ⟨rfl, ⟨_, _, rfl⟩, Dictionary.get?_erase s.renderer.failures id⟩
  | some n =>
    rw [hfind, hfound]
    rw [hfound] at hvisits
    have hid : n.id = id := by
      rw [hfound] at hfind
      simpa using List.find?_some hfind
    refine ⟨fun other hother => ?_, ?_⟩
    · have haway : ∀ v ∈ vs, v.node.id ≠ other := by
        intro v hv hid
        obtain ⟨m, hm, hmid⟩ := hvisits.id_mem hv
        exact hother m hm (hmid.trans hid)
      rw [hq, Visit.foldl_act_failures haway, Visit.foldl_act_updates haway]
      refine ⟨?_, rfl⟩
      rw [Renderer.retrying, Dictionary.get?_erase, if_neg]
      exact hid ▸ hother n n.mem_nodes_self
    · have hcalls := retry_calls hfound c s
      rwa [hretry] at hcalls

end

instance : Clock (List Value) := .still (List Value)

def labelUnit : Factory (List Value) := fun props => do
  modify fun labels => labels ++ (Table.get? props "label").toList
  return .ok .null

def labelled (id : String) (children : List Node) : Node :=
  { id, type := "Text", props := [("label", .text id)], children }

def failedDocument : Document where
  components := [labelled "menu" [labelled "item" []], labelled "news" []]

def failedStage : Stage (List Value) where
  world := []
  registry := { table :=
    [("Text", { displayName := "Text", defaults := [], source := .ready labelUnit })] }
  renderer := {
    options := {}
    failures := { table := [("menu", "no data"), ("news", "no data")] }
    updates := { table := [("menu", 1), ("news", 3)] } }

theorem retry_failedStage :
    ((retry failedDocument {} "menu").Yields failedStage fun _ t =>
      (t.renderer.retryCount "menu").toNat = 1 ∧
      t.renderer.failures.get? "news" = some "no data" ∧
      t.renderer.updates.get? "news" = some 3 ∧
      t.world.map Value.plainText = ["menu", "item"]) ∧
    (retry failedDocument {} "table").Yields failedStage fun b? t =>
      b? = none ∧ (t.renderer.retryCount "table").toNat = 1 ∧
      t.renderer.failures.get? "news" = some "no data" := by
  have hcalm : failedStage.Calm :=
    ⟨⟨nofun, nofun, nofun⟩, Registry.calm_of_forall_mem (List.forall_mem_singleton.2 trivial)⟩
  have hfound : failedDocument.nodes.find? (·.id = "menu") =
      some (labelled "menu" [labelled "item" []]) := rfl
  have hmissing : failedDocument.nodes.find? (·.id = "table") = none := rfl
  constructor
  · have hlabels : ((retry failedDocument {} "menu").outcome failedStage).2.world.map
        Value.plainText = ["menu", "item"] := rfl
    obtain ⟨b?, t, hretry, hcount, -, hrest⟩ :=
      retry_frame failedDocument {} "menu" hcalm (by decide)
    rw [hfound] at hrest
    obtain ⟨haway, -⟩ := hrest
    obtain ⟨hfailure, hupdates⟩ := haway "news" (by decide)
    rw [hretry] at hlabels
    exact ⟨b?, t, hretry, hcount, hfailure, hupdates, hlabels⟩
  · obtain ⟨b?, t, hretry, hcount, -, hrest⟩ :=
      retry_frame failedDocument {} "table" hcalm (by decide)
    rw [hmissing] at hrest
    obtain ⟨hnone, -, hkept⟩ := hrest
    exact ⟨b?, t, hretry, hnone, hcount, hkept "news"⟩

end Stage

end PageConfig
