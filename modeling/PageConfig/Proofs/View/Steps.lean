import PageConfig.Proofs.Component.Registry
import PageConfig.Proofs.Effect.Yields
import PageConfig.View.Renderer

/-!
# The steps of a pass

With callbacks and loaders that do not panic, each step of a pass returns. Here is said
once what each step does to the renderer and adds to what was noticed; whatever it does
to the outside, the registry only loads more.
-/

set_option autoImplicit false

namespace PageConfig

open Effect

variable {σ : Type}

/-- No callback panics. -/
structure RenderOptions.Calm (o : RenderOptions σ) : Prop where
  onError : ∀ f, o.onError = some f → ∀ failure, (f failure).Returns
  onMetric : ∀ f, o.onMetric = some f → ∀ metric, (f metric).Returns
  fallback : ∀ f, o.fallback = some f → ∀ failure, (f failure).Returns

theorem RenderOptions.Calm.tell {o : RenderOptions σ} (h : o.Calm) (failure : Failure) :
    (o.tell failure).Returns := by
  unfold RenderOptions.tell
  split
  · rename_i onError honError
    exact h.onError onError honError failure
  · exact returns_pure ()

structure Stage.Calm (s : Stage σ) : Prop where
  options : s.renderer.options.Calm
  registry : s.registry.Calm

namespace Renderer

def counted (r : Renderer σ) (id : String) : Renderer σ :=
  { r with updates := r.updates.insert id (r.updateCount id + 1) }

def failing (r : Renderer σ) (id message : String) : Renderer σ :=
  { r with failures := r.failures.insert id message }

def retrying (r : Renderer σ) (id : String) : Renderer σ :=
  { r with
    failures := r.failures.erase id
    retries := r.retries.insert id (r.retryCount id + 1) }

end Renderer

namespace Node

def sample (n : Node) (r : Renderer σ) : Metric where
  componentId := n.id
  componentType := n.type
  updateCount := r.updateCount n.id + 1

def fault (n : Node) (scene : Scene) (error : String) : Fault where
  componentId := n.id
  componentType := n.type
  error
  context := scene.context

def givenProps (n : Node) (scene : Scene) (c : Component σ) : Props :=
  c.defaults.mergeShallow (n.resolvedProps scene)

def block (n : Node) (scene : Scene) (c : Component σ) (output : Value) (animated : Bool)
    (children : List Block) : Block :=
  .component n.id n.type c.displayName (n.givenProps scene c) output
    (n.styles.bind (·.className)) n.accessibility (if animated then n.animation else none) children

end Node

namespace Pass

/-- The pass went on to `q`, with the renderer `r` and with what was noticed on the way.
The outside is left open, and the registry may have loaded more. -/
structure Becomes (p : Pass σ) (r : Renderer σ) (ds : List Diagnostic) (ms : List Metric)
    (q : Pass σ) : Prop where
  renderer : q.renderer = r
  registry : p.registry.Loads q.registry
  diagnostics : q.diagnostics = p.diagnostics ++ ds
  metrics : q.metrics = p.metrics ++ ms

theorem Becomes.refl (p : Pass σ) : p.Becomes p.renderer [] [] p :=
  ⟨rfl, .refl _, (List.append_nil _).symm, (List.append_nil _).symm⟩

theorem Becomes.trans {p q t : Pass σ} {r r' : Renderer σ} {ds ds' : List Diagnostic}
    {ms ms' : List Metric} (h : p.Becomes r ds ms q) (h' : q.Becomes r' ds' ms' t) :
    p.Becomes r' (ds ++ ds') (ms ++ ms') t where
  renderer := h'.renderer
  registry := h.registry.trans h'.registry
  diagnostics := by rw [h'.diagnostics, h.diagnostics, List.append_assoc]
  metrics := by rw [h'.metrics, h.metrics, List.append_assoc]

theorem Becomes.after {p q t : Pass σ} {r : Renderer σ} {ds : List Diagnostic}
    {ms : List Metric} (h' : q.Becomes r ds ms t) (h : p.Becomes p.renderer [] [] q) :
    p.Becomes r ds ms t := h.trans h'

theorem call_yields {α : Type} {e : Effect σ α} (h : e.Returns) (p : Pass σ) :
    (call e).Yields p fun _ q => p.Becomes p.renderer [] [] q := by
  unfold call
  apply Yields.within
  · exact h p.world
  · exact fun _ _ _ => ⟨rfl, .refl _, (List.append_nil _).symm, (List.append_nil _).symm⟩

theorem Becomes.calm {p q : Pass σ} {r : Renderer σ} {ds : List Diagnostic} {ms : List Metric}
    (h : p.Becomes r ds ms q) (hp : p.Calm) (hoptions : r.options = p.renderer.options) :
    q.Calm where
  options := by
    rw [h.renderer, hoptions]
    exact hp.options
  registry := h.registry.calm hp.registry

theorem component?_outcome (type : String) (p : Pass σ) : (component? type).outcome p =
    match (p.registry.get type).outcome p.world with
      | (.ok (c?, registry), world) => (.ok c?, { p with registry, world })
      | (.error e, world) => (.error e, { p with world }) := by
  unfold component? call
  rw [outcome_bind, outcome_get]
  dsimp only
  rw [outcome_bind, outcome_within]
  rcases (p.registry.get type).outcome p.world with ⟨e | ⟨c?, registry⟩, world⟩ <;> rfl

section

variable {p q : Pass σ} {type : String} {c? : Option (Component σ)}

theorem component?_finds (h : (component? type).outcome p = (.ok c?, q)) :
    p.registry.Finds type p.world c? q.registry q.world ∧
      q = { p with registry := q.registry, world := q.world } := by
  rw [component?_outcome] at h
  rcases hget : (p.registry.get type).outcome p.world with ⟨e | ⟨c?, registry⟩, world⟩ <;>
    rw [hget] at h <;> cases h
  exact ⟨Registry.get_finds hget, rfl⟩

theorem component?_becomes (h : (component? type).outcome p = (.ok c?, q)) :
    p.Becomes p.renderer [] [] q ∧ c?.isSome = p.registry.has type := by
  obtain ⟨hfinds, hq⟩ := component?_finds h
  refine ⟨⟨?_, hfinds.loads, ?_, ?_⟩, hfinds.isSome⟩
  · rw [hq]
  · rw [hq, List.append_nil]
  · rw [hq, List.append_nil]

end

theorem component?_yields {p : Pass σ} (h : p.registry.Calm) (type : String) :
    (component? type).Yields p fun c? q =>
      p.Becomes p.renderer [] [] q ∧ c?.isSome = p.registry.has type := by
  obtain ⟨⟨c?, registry⟩, world, hget, -⟩ := h.get_returns type p.world
  have hq : (component? type).outcome p = (.ok c?, { p with registry, world }) := by
    rw [component?_outcome, hget]
  exact ⟨c?, _, hq, component?_becomes hq⟩

theorem note_yields (d : Diagnostic) (p : Pass σ) :
    (note d).Yields p fun _ q => p.Becomes p.renderer [d] [] q :=
  ⟨_, _, rfl, rfl, .refl _, rfl, (List.append_nil _).symm⟩

theorem instantiate_yields {p : Pass σ} (h : p.Calm) (n : Node)
    (factory : Factory σ) (props : Props) : (instantiate n.id n.type factory props).Yields p
      fun _ q => p.Becomes (p.renderer.counted n.id) [] [n.sample p.renderer] q := by
  apply (call_yields (factory.contained_returns props) p).bind
  intro result q _ hq
  apply yields_get_bind
  apply yields_modify_bind
  rw [hq.renderer]
  have hcounted (t : Pass σ) (ht : Becomes { q with renderer := p.renderer.counted n.id }
      (p.renderer.counted n.id) [] [] t) : Effect.Yields (do
        modify fun p' => { p' with metrics := p'.metrics ++ [n.sample p.renderer] }
        return result) t
      fun _ q => p.Becomes (p.renderer.counted n.id) [] [n.sample p.renderer] q := by
    apply yields_modify_bind
    apply yields_pure
    refine ⟨ht.renderer, hq.registry.trans ht.registry, ?_, ?_⟩
    · rw [ht.diagnostics, List.append_nil]
      exact hq.diagnostics
    · rw [ht.metrics, List.append_nil, ← List.append_nil p.metrics]
      exact congrArg (· ++ [n.sample p.renderer]) hq.metrics
  split
  · rename_i onMetric honMetric
    apply (call_yields (h.options.onMetric onMetric honMetric _) _).bind
    intro _ t _ ht
    exact hcounted t ht
  · exact hcounted _ (.refl _)

theorem toldNow_yields [Clock σ] (x : Fault) (p : Pass σ) :
    (toldNow x).Yields p fun failure q =>
      p.Becomes p.renderer [] [] q ∧ failure.toFault = x := by
  apply (call_yields returns_now p).bind
  intro time q _ hq
  exact yields_pure ⟨hq, rfl⟩

theorem report_yields [Clock σ] {p : Pass σ} (h : p.Calm) (x : Fault) :
    (report x).Yields p fun failure q =>
      p.Becomes p.renderer [] [] q ∧ failure.toFault = x := by
  apply (toldNow_yields x p).bind
  rintro failure q - ⟨hq, rfl⟩
  apply yields_get_bind
  rw [hq.renderer]
  apply (call_yields (h.options.tell failure) q).bind
  intro _ t _ ht
  rw [hq.renderer] at ht
  exact yields_pure ⟨ht.after hq, rfl⟩

theorem ownFallback?_yields {p : Pass σ} (h : p.registry.Calm) (scene : Scene) (fallback : Node)
    (error : String) :
    (ownFallback? scene fallback error).Yields p fun _ q => p.Becomes p.renderer [] [] q := by
  apply (component?_yields h fallback.type).bind
  intro c? q _ hq
  cases c? with
  | none => exact yields_pure hq.1
  | some component =>
    apply (call_yields (component.factory.contained_returns _) q).bind
    intro result t _ ht
    have ht : p.Becomes p.renderer [] [] t := by
      rw [← hq.1.renderer]
      exact ht.after hq.1
    cases result <;> exact yields_pure ht

theorem presentation_yields {p : Pass σ} (h : p.Calm) (scene : Scene) (failure : Failure) :
    (presentation scene failure).Yields p fun _ q => p.Becomes p.renderer [] [] q := by
  apply yields_get_bind
  split
  · rename_i fallback hfallback
    exact call_yields (h.options.fallback fallback hfallback failure) p
  · exact yields_pure (.refl p)

theorem fallbackBlock_yields {p : Pass σ} (h : p.Calm) (scene : Scene)
    (id type : String) (errorFallback : Option Node) (failure : Failure) :
    (fallbackBlock scene id type errorFallback failure).Yields p fun b q =>
      p.Becomes p.renderer [] [] q ∧
        ∃ output, b = .fallback id type failure.error (p.renderer.retryCount id) output := by
  have hblock (output : Value) (q : Pass σ) (hq : p.Becomes p.renderer [] [] q) :
      Effect.Yields (do
        return Block.fallback id type failure.error ((← get).renderer.retryCount id) output) q
        fun b t => p.Becomes p.renderer [] [] t ∧
          ∃ output, b = .fallback id type failure.error (p.renderer.retryCount id) output := by
    apply yields_get_bind
    apply yields_pure
    rw [hq.renderer]
    exact ⟨hq, output, rfl⟩
  have hpresented (q : Pass σ) (hq : p.Becomes p.renderer [] [] q) :
      Effect.Yields (do
        let output ← presentation scene failure
        return Block.fallback id type failure.error ((← get).renderer.retryCount id) output) q
        fun b t => p.Becomes p.renderer [] [] t ∧
          ∃ output, b = .fallback id type failure.error (p.renderer.retryCount id) output := by
    apply (presentation_yields (hq.calm h rfl) scene failure).bind
    intro output t _ ht
    rw [hq.renderer] at ht
    exact hblock output t (ht.after hq)
  unfold fallbackBlock
  cases errorFallback with
  | none => exact hpresented p (.refl p)
  | some fallback =>
    apply (ownFallback?_yields h.registry scene fallback failure.error).bind
    intro own q _ hq
    cases own with
    | none => exact hpresented q hq
    | some output => exact hblock output q hq

section

variable [Clock σ]

def fail (scene : Scene) (n : Node) (message : String) : Effect (Pass σ) Block := do
  modify fun p => { p with renderer := p.renderer.failing n.id message }
  note (.instantiationFailed n.id n.type message)
  let failure ← report (n.fault scene message)
  fallbackBlock scene n.id n.type n.errorFallback failure

def keep (scene : Scene) (n : Node) (message : String) : Effect (Pass σ) Block := do
  let failure ← toldNow (n.fault scene message)
  fallbackBlock scene n.id n.type n.errorFallback failure

theorem keep_yields {p : Pass σ} (h : p.Calm) (scene : Scene) (n : Node) (message : String) :
    (keep scene n message).Yields p fun b q => p.Becomes p.renderer [] [] q ∧
      ∃ output, b = .fallback n.id n.type message (p.renderer.retryCount n.id) output := by
  apply (toldNow_yields _ p).bind
  rintro failure q - ⟨hq, hfault⟩
  apply (fallbackBlock_yields (hq.calm h rfl) scene n.id n.type n.errorFallback failure).imp
  intro b t ht
  rw [hq.renderer, hfault] at ht
  exact ⟨ht.1.after hq, ht.2⟩

theorem fail_yields {p : Pass σ} (h : p.Calm) (scene : Scene) (n : Node) (message : String) :
    (fail scene n message).Yields p fun b q =>
      p.Becomes (p.renderer.failing n.id message) [.instantiationFailed n.id n.type message] [] q ∧
        ∃ output, b = .fallback n.id n.type message (p.renderer.retryCount n.id) output := by
  apply yields_modify_bind
  have hcalm : Stage.Calm { p.toStage with renderer := p.renderer.failing n.id message } :=
    ⟨h.options, h.registry⟩
  apply (note_yields _ _).bind
  intro _ q _ hq
  apply (report_yields (hq.calm hcalm rfl) _).bind
  rintro failure t - ⟨ht, hfault⟩
  rw [hq.renderer] at ht
  have ht := hq.trans ht
  apply (fallbackBlock_yields (ht.calm hcalm rfl) scene n.id n.type n.errorFallback failure).imp
  intro b u hu
  rw [ht.renderer, hfault] at hu
  have hu' := ht.trans hu.1
  exact ⟨⟨hu'.renderer, hu'.registry, hu'.diagnostics, hu'.metrics⟩, hu.2⟩

end

end Pass

end PageConfig
