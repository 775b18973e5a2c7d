import PageConfig.Proofs.Document.Nodes
import PageConfig.Proofs.View.Invariant

/-!
# The props that are shown

Units without defaults get the resolved props of their nodes. The invariant of a
pass is that the registry holds only such units; callbacks and factories act on
the outside and cannot break it.
-/

set_option autoImplicit false

namespace PageConfig

open Effect

variable {σ : Type}

namespace Block

mutual

def components : Block → List (String × Props)
  | component id _ _ props _ _ _ _ children => (id, props) :: componentsOf children
  | fallback .. => []

def componentsOf : List Block → List (String × Props)
  | [] => []
  | b :: bs => b.components ++ componentsOf bs

end

theorem componentsOf_append (bs cs : List Block) :
    componentsOf (bs ++ cs) = componentsOf bs ++ componentsOf cs := by
  induction bs with
  | nil => rfl
  | cons b bs ih => simp [componentsOf, ih]

end Block

/-- No unit has default props. -/
def Registry.Plain (r : Registry σ) : Prop :=
  ∀ type entry, r.get? type = some entry → entry.defaults = []

theorem Registry.Finds.plain {r s : Registry σ} {type : String} {c? : Option (Component σ)}
    {v w : σ} (h : r.Finds type v c? s w) (hr : r.Plain) : s.Plain := by
  intro other f hf
  obtain ⟨e, he, hload⟩ := h.loads.before hf
  exact hload.defaults.trans (hr other e he)

namespace Pass

def Plain (p : Pass σ) : Prop := p.registry.Plain

theorem plain_invariant : Invariant (Plain (σ := σ)) where
  outside _ _ h := h
  lookUp _ := fun hfinds h => hfinds.plain h
  count _ _ h := h
  failing _ _ h := h
  noticed _ _ _ h := h

theorem component?_ensures (type : String) :
    Ensures (Plain (σ := σ)) (component? type) fun c? => ∀ c, c? = some c → c.defaults = [] := by
  intro p hp
  refine ⟨(plain_invariant.component? type p hp).1, fun c? hc? => ?_⟩
  have hfinds := (component?_finds (Prod.ext hc? rfl)).1
  rintro c rfl
  generalize ((component? type).outcome p).2.registry = r at hfinds
  generalize ((component? type).outcome p).2.world = w at hfinds
  cases hfinds with
  | found hentry _ => exact hp type _ hentry

/-- The blocks of nodes show the resolved props of nodes below. -/
def Shows (scene : Scene) (ns : List Node) (bs : List Block) : Prop :=
  ∀ e ∈ Block.componentsOf bs,
    ∃ n ∈ ns, e = (n.id, Props.mergeShallow [] (n.resolvedProps scene))

theorem shows_fallback (scene : Scene) (ns : List Node) (id type error : String)
    (retries : UInt32) (output : Value) :
    Shows scene ns [.fallback id type error retries output] := by
  intro e he
  rw [Block.componentsOf, Block.components] at he
  cases he

variable [Clock σ]

theorem node?_ensures_of {scene : Scene} {n : Node}
    (hbelow : Ensures (Plain (σ := σ)) (nodes scene n.children)
      fun bs => Shows scene (Node.nodesOf n.children) bs) :
    Ensures (Plain (σ := σ)) (node? scene n) fun b? => Shows scene n.nodes b?.toList := by
  rw [node?_eq]
  split
  · exact ensures_pure nofun
  apply (component?_ensures n.type).bind
  intro c? hc
  cases c? with
  | none => exact (plain_invariant.note _).bind fun _ _ => ensures_pure nofun
  | some component =>
    apply ensures_get.bind
    intro p _
    split
    · apply (plain_invariant.keep scene n _).bind
      rintro b ⟨error, retries, output, rfl⟩
      exact ensures_pure (shows_fallback scene _ n.id n.type error retries output)
    apply (plain_invariant.instantiate n.id n.type _ _).bind
    intro result _
    cases result with
    | ok output =>
      apply ensures_get.bind
      intro q _
      apply hbelow.bind
      intro blocks hblocks
      apply ensures_pure
      intro e he
      rw [Option.toList, Block.componentsOf, Node.block, Block.components, Node.givenProps,
        hc component rfl, List.cons_append, List.mem_cons, Block.componentsOf,
        List.append_nil] at he
      rw [Node.nodes_eq]
      rcases he with rfl | he
      · exact ⟨n, List.mem_cons_self, rfl⟩
      · obtain ⟨m, hm, heq⟩ := hblocks e he
        exact ⟨m, List.mem_cons_of_mem _ hm, heq⟩
    | error e =>
      apply (plain_invariant.fail scene n e.message).bind
      rintro b ⟨error, retries, output, rfl⟩
      exact ensures_pure (shows_fallback scene _ n.id n.type error retries output)

mutual

theorem node?_ensures (scene : Scene) : ∀ n : Node, Ensures (Plain (σ := σ)) (node? scene n)
    fun b? => Shows scene n.nodes b?.toList
  | .mk _ _ _ _ children _ _ _ _ _ _ => node?_ensures_of (nodes_ensures scene children)

theorem nodes_ensures (scene : Scene) : ∀ ns : List Node, Ensures (Plain (σ := σ))
    (nodes scene ns) fun bs => Shows scene (Node.nodesOf ns) bs
  | [] => by
    rw [nodes]
    exact ensures_pure nofun
  | n :: ns => by
    rw [nodes]
    apply (node?_ensures scene n).bind
    intro b? hb
    apply (nodes_ensures scene ns).bind
    intro bs hbs
    apply ensures_pure
    intro e he
    rw [Block.componentsOf_append, List.mem_append] at he
    rcases he with he | he
    · obtain ⟨m, hm, heq⟩ := hb e he
      exact ⟨m, List.mem_append_left _ hm, heq⟩
    · obtain ⟨m, hm, heq⟩ := hbs e he
      exact ⟨m, List.mem_append_right _ hm, heq⟩

end

theorem page_ensures (scene : Scene) (d : Document) :
    Ensures (Plain (σ := σ)) (page scene d) fun bs => Shows scene d.nodes bs := by
  have hnodes : Ensures (Plain (σ := σ)) (nodes scene (Node.sorted (Node.arrangedAll d.components)))
      fun bs => Shows scene d.nodes bs := by
    apply (nodes_ensures scene _).imp
    intro bs hbs e he
    obtain ⟨m, hm, heq⟩ := hbs e he
    obtain ⟨n, hn, hm⟩ := Node.mem_nodesOf.1 hm
    obtain ⟨l, hl, rfl⟩ := Node.mem_nodesOf_arrangedAll _ n (Node.mem_sorted.1 hn) hm
    rw [Node.arranged_id, Node.arranged_resolvedProps] at heq
    exact ⟨l, hl, heq⟩
  unfold page
  dsimp only
  split
  · apply hnodes.attempt.bind
    intro result hresult
    cases result with
    | ok blocks => exact ensures_pure (hresult blocks rfl)
    | error p =>
      apply (plain_invariant.documentFallback scene d p).bind
      rintro b ⟨error, output, rfl⟩
      exact ensures_pure (shows_fallback scene _ d.id boundaryType error 0 output)
  · exact hnodes

end Pass

theorem Stage.render_shows [Clock σ] {d : Document} {c : Context} {s : Stage σ}
    (hs : s.registry.Plain)
    {output : Output} (h : ((render d c).outcome s).1 = .ok output) :
    Pass.Shows (s.scene d c) d.nodes output.blocks := by
  unfold render pass at h
  rw [outcome_within] at h
  obtain ⟨start, p, hstart, h⟩ := outcome_bind_eq_ok h
  cases hstart
  obtain ⟨blocks, p, hblocks, h⟩ := outcome_bind_eq_ok h
  obtain ⟨q, r, -, h⟩ := outcome_bind_eq_ok h
  rw [outcome_pure] at h
  obtain rfl := Except.ok.inj h
  have hstart : Pass.Plain { s with } := hs
  exact (Pass.page_ensures _ d { s with } hstart).2 blocks (congrArg Prod.fst hblocks)

end PageConfig
