import PageConfig.Proofs.View.Visits

/-!
# Invariants of a pass

Calls to the outside, look-ups, counts, failures and what is noticed are all that a pass
acts by. A property that each of these keeps is kept by the whole pass, also where a
callback or a loader panics.
-/

set_option autoImplicit false

namespace PageConfig

open Effect

variable {σ : Type}

namespace Pass

/-- A property that everything a pass acts by keeps. -/
structure Invariant (I : Pass σ → Prop) : Prop where
  outside (p : Pass σ) (world : σ) (h : I p) : I { p with world }
  lookUp (p : Pass σ) {type : String} {c? : Option (Component σ)} {registry : Registry σ}
    {world : σ} (hfinds : p.registry.Finds type p.world c? registry world) (h : I p) :
    I { p with registry, world }
  count (p : Pass σ) (updates : Dictionary UInt32) (h : I p) :
    I { p with renderer := { p.renderer with updates } }
  failing (p : Pass σ) (failures : Dictionary String) (h : I p) :
    I { p with renderer := { p.renderer with failures } }
  noticed (p : Pass σ) (diagnostics : List Diagnostic) (metrics : List Metric) (h : I p) :
    I { p with diagnostics, metrics }

namespace Invariant

variable {I : Pass σ → Prop}

theorem call (h : Invariant I) {α : Type} (e : Effect σ α) :
    Ensures I (Pass.call e) fun _ => True :=
  ensures_within h.outside e

theorem component? (h : Invariant I) (type : String) :
    Ensures I (Pass.component? type) fun _ => True := by
  intro p hp
  refine ⟨?_, fun _ _ => trivial⟩
  rw [component?_outcome]
  rcases hget : (p.registry.get type).outcome p.world with ⟨panic | ⟨c?, registry⟩, world⟩
  · exact h.outside p world hp
  · exact h.lookUp p (Registry.get_finds hget) hp

theorem note (h : Invariant I) (d : Diagnostic) : Ensures I (Pass.note d) fun _ => True :=
  ensures_modify fun p hp => h.noticed p _ p.metrics hp

theorem instantiate (h : Invariant I) (id type : String) (factory : Factory σ) (props : Props) :
    Ensures I (Pass.instantiate id type factory props) fun _ => True := by
  apply (h.call _).bind
  intro result _
  have hsample (metric : Metric) : Ensures I
      (do modify fun p => { p with metrics := p.metrics ++ [metric] }
          return result) fun _ => True := by
    apply Ensures.bind (ensures_modify fun q hq => h.noticed q q.diagnostics _ hq)
    intro _ _
    exact ensures_pure trivial
  -- the renderer that is counted in is the one of this very state
  apply ensures_get_modify_bind fun p hp => h.count p _ hp
  intro p _
  split
  · exact (h.call _).bind fun _ _ => hsample _
  · exact hsample _

theorem output? (h : Invariant I) (factory : Factory σ) (props : Props) :
    Ensures I (do
      match ← Pass.call (factory.contained props) with
      | .ok output => return some output
      | .error _ => return none) fun _ => True := by
  apply (h.call _).bind
  intro result _
  cases result <;> exact ensures_pure trivial

theorem ownFallback? (h : Invariant I) (scene : Scene) (fallback : Node) (error : String) :
    Ensures I (Pass.ownFallback? scene fallback error) fun _ => True := by
  apply (h.component? _).bind
  intro c? _
  cases c? with
  | none => exact ensures_pure trivial
  | some component => exact h.output? _ _

theorem namedFallback? (h : Invariant I) (scene : Scene) (type error : String) :
    Ensures I (Pass.namedFallback? scene type error) fun _ => True := by
  apply (h.component? type).bind
  intro c? _
  cases c? with
  | none => exact ensures_pure trivial
  | some component => exact h.output? _ _

theorem presentation (h : Invariant I) (scene : Scene) (failure : Failure) :
    Ensures I (Pass.presentation scene failure) fun _ => True := by
  apply ensures_get.bind
  intro p _
  split
  · exact h.call _
  · exact ensures_pure trivial

theorem fallbackBlock (h : Invariant I) (scene : Scene) (id type : String)
    (errorFallback : Option Node) (failure : Failure) :
    Ensures I (Pass.fallbackBlock scene id type errorFallback failure)
      fun b => ∃ error retries output, b = .fallback id type error retries output := by
  have hblock (output : Value) : Ensures I (do
      return Block.fallback id type failure.error ((← get).renderer.retryCount id) output)
      fun b => ∃ error retries output, b = .fallback id type error retries output := by
    apply ensures_get.bind
    intro p _
    exact ensures_pure ⟨_, _, _, rfl⟩
  have hpresented : Ensures I (do
      let output ← Pass.presentation scene failure
      return Block.fallback id type failure.error ((← get).renderer.retryCount id) output)
      fun b => ∃ error retries output, b = .fallback id type error retries output :=
    (h.presentation scene failure).bind fun output _ => hblock output
  unfold Pass.fallbackBlock
  cases errorFallback with
  | none => exact hpresented
  | some fallback =>
    apply (h.ownFallback? scene fallback failure.error).bind
    intro own _
    cases own with
    | none => exact hpresented
    | some output => exact hblock output

variable [Clock σ]

theorem toldNow (h : Invariant I) (x : Fault) : Ensures I (Pass.toldNow x) fun _ => True :=
  (h.call Effect.now).bind fun _ _ => ensures_pure trivial

theorem report (h : Invariant I) (x : Fault) : Ensures I (Pass.report x) fun _ => True := by
  apply (h.toldNow x).bind
  intro failure _
  apply ensures_get.bind
  intro p _
  exact (h.call _).bind fun _ _ => ensures_pure trivial

theorem keep (h : Invariant I) (scene : Scene) (n : Node) (message : String) :
    Ensures I (Pass.keep scene n message)
      fun b => ∃ error retries output, b = .fallback n.id n.type error retries output := by
  apply (h.toldNow _).bind
  intro failure _
  exact h.fallbackBlock scene n.id n.type n.errorFallback failure

theorem fail (h : Invariant I) (scene : Scene) (n : Node) (message : String) :
    Ensures I (Pass.fail scene n message)
      fun b => ∃ error retries output, b = .fallback n.id n.type error retries output := by
  apply Ensures.bind (ensures_modify fun p hp => h.failing p _ hp)
  intro _ _
  apply (h.note _).bind
  intro _ _
  apply (h.report _).bind
  intro failure _
  exact h.fallbackBlock scene n.id n.type n.errorFallback failure

theorem documentFallback (h : Invariant I) (scene : Scene) (d : Document) (panic : Panic) :
    Ensures I (Pass.documentFallback scene d panic)
      fun b => ∃ error output, b = .fallback d.id boundaryType error 0 output := by
  have hblock (error : String) (output : Value) : Ensures I
      (pure (Block.fallback d.id boundaryType error 0 output))
      fun b => ∃ error output, b = .fallback d.id boundaryType error 0 output :=
    ensures_pure ⟨error, output, rfl⟩
  unfold Pass.documentFallback
  apply (h.report _).bind
  intro _ _
  split
  · apply (h.namedFallback? scene _ _).bind
    intro named _
    cases named with
    | some output => exact hblock _ output
    | none =>
      apply (h.presentation scene _).attempt.bind
      intro result _
      cases result <;> exact hblock _ _
  · rw [pure_bind]
    apply (h.presentation scene _).attempt.bind
    intro result _
    cases result <;> exact hblock _ _

theorem node?_of (h : Invariant I) {scene : Scene} {n : Node}
    (hbelow : Ensures I (Pass.nodes scene n.children) fun _ => True) :
    Ensures I (Pass.node? scene n) fun _ => True := by
  rw [node?_eq]
  split
  · exact ensures_pure trivial
  apply (h.component? n.type).bind
  intro c? _
  cases c? with
  | none => exact (h.note _).bind fun _ _ => ensures_pure trivial
  | some component =>
    apply ensures_get.bind
    intro p _
    split
    · apply (h.keep scene n _).bind
      intro b _
      exact ensures_pure trivial
    apply (h.instantiate n.id n.type _ _).bind
    intro result _
    cases result with
    | ok output =>
      apply ensures_get.bind
      intro q _
      exact hbelow.bind fun blocks _ => ensures_pure trivial
    | error e => exact (h.fail scene n e.message).bind fun _ _ => ensures_pure trivial

mutual

theorem node? (h : Invariant I) (scene : Scene) : ∀ n : Node,
    Ensures I (Pass.node? scene n) fun _ => True
  | .mk _ _ _ _ children _ _ _ _ _ _ => h.node?_of (h.nodes scene children)

theorem nodes (h : Invariant I) (scene : Scene) : ∀ ns : List Node,
    Ensures I (Pass.nodes scene ns) fun _ => True
  | [] => by
    rw [Pass.nodes]
    exact ensures_pure trivial
  | n :: ns => by
    rw [Pass.nodes]
    apply (h.node? scene n).bind
    intro b? _
    exact (h.nodes scene ns).bind fun bs _ => ensures_pure trivial

end

end Invariant

end Pass

end PageConfig
