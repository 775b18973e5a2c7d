import PageConfig.Proofs.Document.Addressed
import PageConfig.Proofs.View.Repeated

/-!
# What a pass reads of the context

Two passes over one document in contexts that hold the same at the paths which the document
addresses. A failure is told with its context, so callbacks and through them the outside can
go apart; what is shown does not, as units are functions of their props.
-/

set_option autoImplicit false

namespace PageConfig

open Effect

variable {σ : Type}

namespace Pass

/-- The passes are the same but for the outside, and call on nobody else to show a failure. -/
structure Same (p q : Pass σ) : Prop where
  calm : p.renderer.options.Calm
  fallback : p.renderer.options.fallback = none
  renderer : q.renderer = p.renderer
  diagnostics : q.diagnostics = p.diagnostics
  metrics : q.metrics = p.metrics
  registries : ∀ type, p.registry.AlikeBut type q.registry

variable {scene scene' : Scene}

theorem call_same {α β : Type} {P : α → β → Prop} {e : Effect σ α} {f : Effect σ β}
    (hends : ∀ s t, Matched P (e.outcome s).1 (f.outcome t).1) :
    Agree Same (call e) (call f) P :=
  agree_within (fun _ _ _ _ h =>
    ⟨h.calm, h.fallback, h.renderer, h.diagnostics, h.metrics, h.registries⟩) hends

theorem component?_same (type : String) : Agree (Same (σ := σ)) (component? type)
    (component? type) fun c? c?' => c? = c?' ∧ ∀ c, c? = some c → c.factory.Steady := by
  intro p q h
  obtain ⟨other, hother⟩ := exists_ne type
  have hget := (h.registries other).get hother.symm p.world q.world
  rw [component?_outcome, component?_outcome]
  rcases hp : (p.registry.get type).outcome p.world with ⟨r, v⟩
  rcases hq : (q.registry.get type).outcome q.world with ⟨r', w⟩
  rw [hp, hq] at hget
  cases hget with
  | panics e =>
    exact ⟨.panics e, h.calm, h.fallback, h.renderer, h.diagnostics, h.metrics, h.registries⟩
  | returns hfound =>
    obtain ⟨hsame, hsteady, -⟩ := hfound
    refine ⟨.returns ⟨hsame, hsteady⟩, h.calm, h.fallback, h.renderer, h.diagnostics,
      h.metrics, fun other => ?_⟩
    exact (h.registries other).loads (Registry.get_finds hp).loads (Registry.get_finds hq).loads

theorem note_same (d : Diagnostic) :
    Agree (Same (σ := σ)) (note d) (note d) fun _ _ => True :=
  agree_modify fun _ _ h => ⟨h.calm, h.fallback, h.renderer,
    congrArg (· ++ [d]) h.diagnostics, h.metrics, h.registries⟩

theorem instantiate_same (id type : String) {factory : Factory σ} (h : factory.Steady)
    (props : Props) : Agree Same (instantiate id type factory props)
      (instantiate id type factory props) Eq := by
  apply (call_same (h.contained props).matched).bind
  rintro result _ rfl
  apply agree_get_bind
  intro p q hpq
  rw [hpq.renderer]
  apply Agree.bind (agree_modify ?_)
  · intro _ _ _
    have hsample (metric : Metric) : Agree (Same (σ := σ))
        (do modify fun p => { p with metrics := p.metrics ++ [metric] }
            return result)
        (do modify fun p => { p with metrics := p.metrics ++ [metric] }
            return result) Eq := by
      apply Agree.bind (agree_modify ?_)
      · intro _ _ _
        exact agree_pure rfl
      · exact fun _ _ h => ⟨h.calm, h.fallback, h.renderer, h.diagnostics,
          congrArg (· ++ [metric]) h.metrics, h.registries⟩
    split
    · rename_i onMetric honMetric
      have hreturns := hpq.calm.onMetric onMetric honMetric
      apply (call_same ((hreturns _).gives.matched (hreturns _).gives)).bind
      intro _ _ _
      exact hsample _
    · exact hsample _
  · intro p' q' h
    exact ⟨hpq.calm, hpq.fallback, rfl, h.diagnostics, h.metrics, h.registries⟩

theorem presentation_same (hretry : scene'.retryButton = scene.retryButton)
    {failure failure' : Failure} (herror : failure'.error = failure.error) :
    Agree (Same (σ := σ)) (presentation scene failure) (presentation scene' failure') Eq := by
  apply agree_get_bind
  intro p q hpq
  rw [hpq.renderer, hpq.fallback, hretry, herror]
  exact agree_pure rfl

theorem ownFallback?_same {fallback : Node}
    (h : scene.SameAt (templatePaths fallback.texts) scene') (error : String) :
    Agree (Same (σ := σ)) (ownFallback? scene fallback error) (ownFallback? scene' fallback error)
      Eq := by
  apply (component?_same fallback.type).bind
  rintro c? _ ⟨rfl, hc⟩
  cases c? with
  | none => exact agree_pure rfl
  | some component =>
    rw [Node.resolvedProps_of_sameAt h]
    apply (call_same ((hc component rfl).contained _).matched).bind
    rintro result _ rfl
    cases result <;> exact agree_pure rfl

theorem fallbackBlock_same (id type : String) {errorFallback : Option Node}
    (h : scene.SameAt (templatePaths ((errorFallback.map Node.texts).getD [])) scene')
    {failure failure' : Failure} (herror : failure'.error = failure.error) :
    Agree (Same (σ := σ)) (fallbackBlock scene id type errorFallback failure)
      (fallbackBlock scene' id type errorFallback failure') Eq := by
  have hblock (output : Value) : Agree (Same (σ := σ))
      (do return Block.fallback id type failure.error ((← get).renderer.retryCount id) output)
      (do return Block.fallback id type failure'.error ((← get).renderer.retryCount id) output)
      Eq := by
    apply agree_get_bind
    intro p q hpq
    rw [hpq.renderer, herror]
    exact agree_pure rfl
  have hpresented : Agree (Same (σ := σ))
      (do
        let output ← presentation scene failure
        return Block.fallback id type failure.error ((← get).renderer.retryCount id) output)
      (do
        let output ← presentation scene' failure'
        return Block.fallback id type failure'.error ((← get).renderer.retryCount id) output)
      Eq := by
    apply (presentation_same h.retryButton herror).bind
    rintro output _ rfl
    exact hblock output
  unfold fallbackBlock
  cases errorFallback with
  | none => exact hpresented
  | some fallback =>
    dsimp only
    rw [herror]
    rw [herror] at hpresented
    apply (ownFallback?_same h failure.error).bind
    rintro own _ rfl
    cases own with
    | none => exact hpresented
    | some output => exact herror ▸ hblock output

variable [Clock σ]

theorem toldNow_same {x y : Fault} (herror : y.error = x.error) :
    Agree (Same (σ := σ)) (toldNow x) (toldNow y)
      fun failure failure' => failure.error = x.error ∧ failure'.error = x.error := by
  have hnow (s t : σ) : Matched (fun _ _ => True)
      ((Effect.now : Effect σ UInt64).outcome s).1 ((Effect.now : Effect σ UInt64).outcome t).1 :=
    .returns trivial
  apply (call_same hnow).bind
  intro _ _ _
  exact agree_pure ⟨rfl, herror⟩

theorem report_same {x y : Fault} (herror : y.error = x.error) :
    Agree (Same (σ := σ)) (report x) (report y)
      fun failure failure' => failure.error = x.error ∧ failure'.error = x.error := by
  apply (toldNow_same herror).bind
  intro failure failure' herrors
  apply agree_get_bind
  intro p q hpq
  rw [hpq.renderer]
  have htell (failure : Failure) := (hpq.calm.tell failure).gives
  apply (call_same ((htell failure).matched (htell failure'))).bind
  intro _ _ _
  exact agree_pure herrors

section

variable {n : Node} (h : scene.SameAt n.paths scene') (message : String)

include h

theorem keep_same : Agree (Same (σ := σ)) (keep scene n message) (keep scene' n message) Eq := by
  have herror : (n.fault scene' message).error = (n.fault scene message).error := rfl
  apply (toldNow_same herror).bind
  rintro failure failure' ⟨herror, herror'⟩
  exact fallbackBlock_same n.id n.type (Node.sameAt_fallback h) (herror'.trans herror.symm)

theorem fail_same : Agree (Same (σ := σ)) (fail scene n message) (fail scene' n message) Eq := by
  apply Agree.bind (agree_modify ?_)
  · intro _ _ _
    apply (note_same _).bind
    intro _ _ _
    have herror : (n.fault scene' message).error = (n.fault scene message).error := rfl
    apply (report_same herror).bind
    rintro failure failure' ⟨herror, herror'⟩
    exact fallbackBlock_same n.id n.type (Node.sameAt_fallback h) (herror'.trans herror.symm)
  · exact fun p q hpq => ⟨hpq.calm, hpq.fallback, by rw [hpq.renderer], hpq.diagnostics,
      hpq.metrics, hpq.registries⟩

end

theorem node?_same_of {n : Node} (h : scene.SameAt n.paths scene')
    (hbelow : Agree (Same (σ := σ)) (nodes scene n.children) (nodes scene' n.children) Eq) :
    Agree (Same (σ := σ)) (node? scene n) (node? scene' n) Eq := by
  have hprops (component : Component σ) :
      n.givenProps scene' component = n.givenProps scene component := by
    rw [Node.givenProps, Node.givenProps, Node.resolvedProps_of_sameAt (Node.sameAt_texts h)]
  rw [node?_eq, node?_eq, Node.allHold_of_sameAt h]
  split
  · exact agree_pure rfl
  apply (component?_same n.type).bind
  rintro c? _ ⟨rfl, hc⟩
  cases c? with
  | none => exact (note_same _).bind fun _ _ _ => agree_pure rfl
  | some component =>
    apply agree_get_bind
    intro p q hpq
    rw [hpq.renderer]
    split
    · rename_i message _
      apply (keep_same h message).bind
      rintro block _ rfl
      exact agree_pure rfl
    · rw [hprops component]
      apply (instantiate_same n.id n.type (hc component rfl) _).bind
      rintro result _ rfl
      cases result with
      | ok output =>
        apply agree_get_bind
        intro p q hpq
        rw [hpq.renderer]
        apply hbelow.bind
        rintro blocks _ rfl
        rw [Node.block, Node.block, hprops component]
        exact agree_pure rfl
      | error e =>
        apply (fail_same h e.message).bind
        rintro block _ rfl
        exact agree_pure rfl

mutual

theorem node?_same : ∀ n : Node, scene.SameAt (n.nodes.flatMap Node.paths) scene' →
    Agree (Same (σ := σ)) (node? scene n) (node? scene' n) Eq
  | .mk _ _ _ _ children _ _ _ _ _ _ => by
    intro h
    rw [Node.nodes_eq, List.flatMap_cons] at h
    exact node?_same_of (h.mono (List.subset_append_left _ _))
      (nodes_same children (h.mono (List.subset_append_right _ _)))

theorem nodes_same : ∀ ns : List Node, scene.SameAt ((Node.nodesOf ns).flatMap Node.paths) scene' →
    Agree (Same (σ := σ)) (nodes scene ns) (nodes scene' ns) Eq
  | [] => by
    intro _
    rw [nodes, nodes]
    exact agree_pure rfl
  | n :: ns => by
    intro h
    rw [Node.nodesOf, List.flatMap_append] at h
    rw [nodes, nodes]
    apply (node?_same n (h.mono (List.subset_append_left _ _))).bind
    rintro b? _ rfl
    apply (nodes_same ns (h.mono (List.subset_append_right _ _))).bind
    rintro bs _ rfl
    exact agree_pure rfl

end

end Pass

theorem Scene.ofDocument_sameAt {d : Document} {c c' : Context} {host : Host} {paths : List String}
    (h : ∀ path ∈ paths, (c'.effective host).toValue.present? path =
      (c.effective host).toValue.present? path) :
    (Scene.ofDocument d c host).SameAt paths (.ofDocument d c' host) := ⟨rfl, rfl, rfl, h⟩

theorem Document.paths_top (d : Document) :
    (Node.nodesOf (Pass.top d)).flatMap Node.paths ⊆ d.paths := by
  intro path hpath
  obtain ⟨m, hm, hpath⟩ := List.mem_flatMap.1 hpath
  obtain ⟨l, hl, rfl⟩ := Pass.mem_nodesOf_top hm
  rw [Node.paths_arranged] at hpath
  exact List.mem_flatMap.2 ⟨l, hl, hpath⟩

namespace Stage

/-- What a pass shows, and what its renderer is left with, depends on the context only
through the paths that the document addresses, whatever the outside is. -/
theorem render_addressed [Clock σ] (d : Document) {c c' : Context} {s : Stage σ}
    (hcalm : s.renderer.options.Calm) (hfallback : s.renderer.options.fallback = none)
    (hsteady : s.registry.Steady)
    (hpaths : ∀ path ∈ d.paths, (c'.effective s.renderer.options.host).toValue.present? path =
      (c.effective s.renderer.options.host).toValue.present? path) (world : σ) :
    (render d c).Yields s fun output t => (render d c').Yields { s with world } fun output' t' =>
      output' = output ∧ t'.renderer = t.renderer := by
  have hscene : (s.scene d c).SameAt d.paths (s.scene d c') := Scene.ofDocument_sameAt hpaths
  have hsame : Pass.Same { s with } { s with world } :=
    ⟨hcalm, hfallback, rfl, rfl, rfl, fun type => hsteady.alikeBut (.refl _) type⟩
  obtain ⟨bs, p, hbs, -⟩ :=
    Pass.nodes_visits (s.scene d c) (Pass.top d) { s with } ⟨hcalm, hsteady.calm⟩
  obtain ⟨_, q, hbs', hpq, rfl⟩ :=
    (Pass.nodes_same (Pass.top d) (hscene.mono d.paths_top)).of_outcome hsame hbs
  refine ⟨_, _, render_of_nodes hbs, _, _, @render_of_nodes _ _ d c' { s with world } bs q hbs', ?_,
    hpq.renderer⟩
  rw [output, output, hpq.diagnostics, hpq.metrics]
  rfl

def greeting : Document where
  components := [
    { id := "text", type := "Text", props := [("text", .text "\x7b\x7buser.name\x7d\x7d")],
      conditions := [.test "user.name" .exists .null] },
    { id := "chart", type := "Chart",
      errorFallback := some {
        type := "Text", props := [("note", .text "\x7b\x7b user.name \x7d\x7d")] } }]

def greetingStage : Stage UInt64 :=
  { boardStage fun _ => .null with renderer := { options := {} } }

def visitor (visits : Nat) (theme : ThemeMode) : Context where
  user := some (.object [("name", .text "Ada"), ("visits", .whole visits)])
  theme := some theme

theorem greeting_paths : greeting.paths = ["user.name", "user.name", "user.name"] := by
  decide

theorem greeting_shown : ∃ output t t',
    (render greeting (visitor 1 .light)).outcome greetingStage = (.ok output, t) ∧
    (render greeting (visitor 2 .dark)).outcome greetingStage = (.ok output, t') ∧
    output.blocks.map Block.id = ["text", "chart"] ∧
    t'.renderer.failures = t.renderer.failures := by
  have hpaths : ∀ path ∈ greeting.paths,
      ((visitor 2 .dark).effective {}).toValue.present? path =
        ((visitor 1 .light).effective {}).toValue.present? path := by
    intro path hpath
    obtain rfl : path = "user.name" := by simpa [greeting_paths] using hpath
    rfl
  obtain ⟨_, t, ht, output, t', ht', rfl, hrenderer⟩ := render_addressed greeting
    (s := greetingStage) ⟨nofun, nofun, nofun⟩ rfl (boardStage_steady fun _ => .null) hpaths 0
  have hids : ((render greeting (visitor 1 .light)).outcome greetingStage).1.toOption.map
      (·.blocks.map Block.id) = some ["text", "chart"] := by decide +kernel
  rw [ht] at hids
  exact ⟨output, t, t', ht, ht', Option.some.inj hids, congrArg Renderer.failures hrenderer⟩

end Stage

end PageConfig
