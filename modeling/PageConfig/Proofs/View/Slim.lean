import PageConfig.Proofs.Document.Slim
import PageConfig.Proofs.View.Plain

/-!
# What is shown of a slim document

Slimming takes away the overrides of a node along with its styling, though a pass reads
them. So a slim document is plainly shown like the full one just where no override
changes what the units are given.
-/

set_option autoImplicit false

namespace PageConfig

open Effect

variable {σ : Type}

namespace Node

theorem resolvedProps_congr {m n : Node} {scene : Scene}
    (h : m.baseProps scene.viewport = n.baseProps scene.viewport) :
    m.resolvedProps scene = n.resolvedProps scene := by
  rw [resolvedProps, resolvedProps, h]

theorem SlimOf.order_eq {m n : Node} (h : SlimOf m n) : m.order = n.order := by
  cases h <;> rfl

theorem SlimOfAll.place {m n : Node} {ms ns : List Node} (h : SlimOf m n)
    (hs : SlimOfAll ms ns) : SlimOfAll (Node.place m ms) (Node.place n ns) := by
  induction ns generalizing ms with
  | nil =>
    cases hs
    exact .cons h .nil
  | cons k ns ih =>
    cases hs with
    | cons hhead hrest =>
      rw [Node.place, Node.place, h.order_eq, hhead.order_eq]
      split
      · exact .cons h (.cons hhead hrest)
      · exact .cons hhead (ih hrest)

theorem SlimOfAll.sorted : ∀ {ms ns : List Node}, SlimOfAll ms ns →
    SlimOfAll (Node.sorted ms) (Node.sorted ns)
  | _, _, .nil => .nil
  | _, _, .cons hhead hrest => SlimOfAll.place hhead hrest.sorted

mutual

theorem SlimOf.arranged : ∀ {m n : Node}, SlimOf m n → SlimOf m.arranged n.arranged
  | _, _, .kept n => .kept n.arranged
  | _, _, .slimmed h => .slimmed h.arrangedAll.sorted

theorem SlimOfAll.arrangedAll : ∀ {ms ns : List Node}, SlimOfAll ms ns →
    SlimOfAll (Node.arrangedAll ms) (Node.arrangedAll ns)
  | _, _, .nil => .nil
  | _, _, .cons hhead hrest => .cons hhead.arranged hrest.arrangedAll

end

mutual

theorem SlimOf.like : ∀ {m n : Node}, SlimOf m n → Like m n
  | _, _, .kept n => Like.refl n
  | _, _, .slimmed h => ⟨rfl, rfl, rfl, h.likeAll⟩

theorem SlimOfAll.likeAll : ∀ {ms ns : List Node}, SlimOfAll ms ns → LikeAll ms ns
  | _, _, .nil => trivial
  | _, _, .cons hhead hrest => ⟨hhead.like, hrest.likeAll⟩

end

section

variable {scene : Scene} (defaults : String → Option Props)

mutual

theorem SlimOf.givenAlike : ∀ {m n : Node}, SlimOf m n →
    (∀ k ∈ n.nodes, k.baseProps scene.viewport = k.props) → GivenAlike scene defaults m n
  | _, _, .kept n => fun _ => GivenAlike.refl scene defaults n
  | _, _, .slimmed h => fun hprops _ _ _ => by
    rw [nodes_eq] at hprops
    obtain ⟨hhead, hbelow⟩ := List.forall_mem_cons.1 hprops
    exact ⟨congrArg _ (resolvedProps_congr hhead.symm), h.givenAlikeAll hbelow⟩

theorem SlimOfAll.givenAlikeAll : ∀ {ms ns : List Node}, SlimOfAll ms ns →
    (∀ k ∈ nodesOf ns, k.baseProps scene.viewport = k.props) → GivenAlikeAll scene defaults ms ns
  | _, _, .nil => fun _ => trivial
  | _, _, .cons hhead hrest => fun hprops =>
    ⟨hhead.givenAlike fun k hk => hprops k (List.mem_append_left _ hk),
      hrest.givenAlikeAll fun k hk => hprops k (List.mem_append_right _ hk)⟩

end

end

end Node

namespace Pass

open Node

theorem slimOfAll_top {d : Document} {ms : List Node} (h : SlimOfAll ms d.components) :
    SlimOfAll (top { d with components := ms }) (top d) := h.arrangedAll.sorted

end Pass

namespace Stage

open Node Pass

variable [Clock σ]

theorem render_tandem {d : Document} {ns : List Node} {c : Context} {s : Stage σ}
    {defaults : String → Option Props}
    (hlike : LikeAll (top { d with components := ns }) (top d))
    (h : Pass.Fresh defaults { s with }) :
    Tandem (render { d with components := ns } c) (render d c) s fun o o' _ =>
      GivenAlikeAll (s.scene d c) defaults (top { d with components := ns }) (top d) →
        o.plain = o'.plain := by
  unfold render pass
  apply Tandem.within (R := fun o o' _ =>
    GivenAlikeAll (s.scene d c) defaults (top { d with components := ns }) (top d) →
      o.plain = o'.plain)
  · apply tandem_get_bind
    apply (page_tandem hlike h).bind
    intro as bs q hplain
    apply tandem_get_bind
    apply tandem_pure
    intro halike
    simp only [Output.plain, hplain halike]
    rfl
  · exact fun _ _ _ hplain => hplain

section

variable {s : Stage σ} {d : Document} {ns : List Node}
  (hlike : LikeAll (top { d with components := ns }) (top d)) (hpure : s.registry.Pure)
  (o : RenderOptions σ) (c : Context)

include hlike hpure

theorem renderOnce_tandem : Tandem (renderOnce o { d with components := ns } c) (renderOnce o d c)
    s fun slim full _ =>
      GivenAlikeAll (.ofDocument d c o.host) s.registry.defaults
        (top { d with components := ns }) (top d) → slim.plain = full.plain := by
  unfold renderOnce
  apply Tandem.within (render_tandem hlike ⟨rfl, hpure, fun _ => rfl⟩)
  exact fun _ _ _ hplain => hplain

theorem renderOnce_blocks_iff (hcalm : o.Calm) : ∃ slim full t,
    (renderOnce o { d with components := ns } c).outcome s = (.ok slim, t) ∧
    (renderOnce o d c).outcome s = (.ok full, t) ∧
    (Block.plainAll slim.blocks = Block.plainAll full.blocks ↔ GivenAlikeAll
      (.ofDocument d c o.host) s.registry.defaults (top { d with components := ns }) (top d)) := by
  let u : Stage σ := { s with renderer := { options := o } }
  obtain ⟨as, q, has, -⟩ := nodes_visits (u.scene d c) (top { d with components := ns }) { u with }
    ⟨hcalm, hpure.calm⟩
  obtain ⟨bs, hbs, hshow⟩ := (nodes_tandem (u.scene d c) (top d) _ { u with } hlike
    ⟨rfl, hpure, fun _ => rfl⟩).of_outcome has
  refine ⟨u.output { d with components := ns } c as q, u.output d c bs q,
    { q.toStage with renderer := s.renderer }, ?_, ?_, ?_⟩
  · rw [renderOnce, outcome_within, render_of_nodes (s := u) has]
  · rw [renderOnce, outcome_within, render_of_nodes (s := u) hbs]
  · exact hshow.plain

end

/-- Slimmed, a document is plainly shown as it was just where no override changes what a unit
is given. -/
theorem renderOnce_slim {raw : Value} {d : Document} {s : Stage σ}
    (hd : Document.ofValue raw.repair = .ok d) (hpure : s.registry.Pure) :
    ∃ e, Document.ofValue raw.optimize = .ok e ∧ ∀ (o : RenderOptions σ) (c : Context),
      let scene := Scene.ofDocument d c o.host
      let alike := GivenAlikeAll scene s.registry.defaults (top e) (top d)
      Tandem (renderOnce o e c) (renderOnce o d c) s
        (fun slim full _ => alike → slim.plain = full.plain) ∧
      (o.Calm → ∃ slim full t, (renderOnce o e c).outcome s = (.ok slim, t) ∧
        (renderOnce o d c).outcome s = (.ok full, t) ∧
        (Block.plainAll slim.blocks = Block.plainAll full.blocks ↔ alike)) ∧
      ((∀ n ∈ d.nodes, n.baseProps scene.viewport = n.props) → alike) := by
  obtain ⟨ms, hms, hslim, -⟩ := Document.ofValue_slimmed hd
  have htop := slimOfAll_top hslim
  refine ⟨{ d with components := ms }, ?_, fun o c => ⟨?_, fun hcalm => ?_, fun hprops => ?_⟩⟩
  · rw [Value.optimize_eq, hms]
  · exact renderOnce_tandem htop.likeAll hpure o c
  · exact renderOnce_blocks_iff htop.likeAll hpure o c hcalm
  · apply htop.givenAlikeAll
    intro k hk
    obtain ⟨n, hn, rfl⟩ := mem_nodesOf_top hk
    have hn := hprops n hn
    cases n
    exact hn

def listNode : Node where
  id := "list"
  type := "List"
  props := [("limit", .whole 10)]
  responsive := some { mobile := some [("props", .object [("limit", .whole 4)])] }

def listValue : Value := .object [
  ("components", .list [.object [
    ("id", .text "list"),
    ("props", .object [("limit", .whole 10)]),
    ("responsive", .object [("mobile", .object [("props", .object [("limit", .whole 4)])])]),
    ("type", .text "List")]])]

def listStage : Stage Unit where
  world := ()
  registry := { table := [
    ("List", { displayName := "List", defaults := [],
               source := .ready (Factory.computing .object) })] }
  renderer := { options := {} }

theorem listStage_pure : listStage.registry.Pure := by
  intro type entry hentry
  simp only [listStage, Dictionary.get?, Table.get?] at hentry
  split at hentry
  · cases hentry
    exact ⟨.object, fun _ => yields_pure rfl⟩
  · cases hentry

theorem ofValue_listValue :
    Document.ofValue listValue.repair = .ok { components := [listNode] } := by
  unfold Document.ofValue Document.decode
  rw [Node.decode_eq]
  rfl

theorem ofValue_slim_listValue : Document.ofValue listValue.optimize =
    .ok { components := [{ id := "list", type := "List", props := [("limit", .whole 10)] }] } := by
  unfold Document.ofValue Document.decode
  rw [Node.decode_eq]
  rfl

theorem listStage_slim : ∃ e slim full t, Document.ofValue listValue.optimize = .ok e ∧
    (renderOnce {} e {}).outcome listStage = (.ok slim, t) ∧
    (renderOnce {} { components := [listNode] } {}).outcome listStage = (.ok full, t) ∧
    Block.plainAll slim.blocks = Block.plainAll full.blocks := by
  obtain ⟨e, he, hall⟩ := renderOnce_slim ofValue_listValue listStage_pure
  obtain ⟨-, hiff, halike⟩ := hall {} {}
  obtain ⟨slim, full, t, hslim, hfull, hiff⟩ := hiff ⟨nofun, nofun, nofun⟩
  refine ⟨e, slim, full, t, he, hslim, hfull, hiff.2 (halike ?_)⟩
  have hnodes : Document.nodes { components := [listNode] } = [listNode] := rfl
  rw [hnodes]
  exact List.forall_mem_singleton.2 rfl

theorem slim_not_always_shown_alike :
    ¬ ∀ (raw : Value) (d e : Document) (s : Stage Unit) (o : RenderOptions Unit) (c : Context)
      (slim full : Output) (t u : Stage Unit), Document.ofValue raw.repair = .ok d →
      Document.ofValue raw.optimize = .ok e → s.registry.Pure →
      (renderOnce o e c).outcome s = (.ok slim, t) →
      (renderOnce o d c).outcome s = (.ok full, u) →
      Block.plainAll slim.blocks = Block.plainAll full.blocks := by
  intro h
  have hpage : SlimOfAll [{ id := "list", type := "List", props := [("limit", .whole 10)] }]
      (Document.components { components := [listNode] }) := .cons (.slimmed .nil) .nil
  obtain ⟨slim, full, t, hslim, hfull, hiff⟩ := renderOnce_blocks_iff
    (slimOfAll_top hpage).likeAll listStage_pure { host := { width := 400 } } {}
    ⟨nofun, nofun, nofun⟩
  have hblocks := h listValue _ _ listStage _ {} slim full t t ofValue_listValue
    ofValue_slim_listValue listStage_pure hslim hfull
  obtain ⟨hnode, -⟩ := hiff.1 hblocks
  obtain ⟨hgiven, -⟩ := hnode rfl [] rfl
  cases hgiven

end Stage

end PageConfig
