import PageConfig.Proofs.View.Invariant
import PageConfig.Proofs.View.Visits

/-!
# The boundary of a page

A boundary contains every panic of a pass, but is itself not contained in two steps: the
callback that is told of the panic may panic, and so may the loader of the fallback component
that the document names. Where neither callbacks nor loaders panic, a boundary makes no
difference.
-/

set_option autoImplicit false

namespace PageConfig

open Effect

variable {σ : Type}

/-- Tells the caller of a fault, if the caller is to be told, by the clock. -/
def RenderOptions.report [Clock σ] (o : RenderOptions σ) (x : Fault) : Effect σ Failure := do
  let failure := x.told (← Effect.now)
  o.tell failure
  return failure

namespace Pass

def boundaryFault (scene : Scene) (d : Document) (p : Panic) : Fault where
  componentId := d.id
  componentType := boundaryType
  error := (RenderError.panicked p.message).message
  context := scene.context

theorem component?_yields_iff (type : String) (p : Pass σ) :
    ((component? type).Yields p fun _ _ => True) ↔
      (p.registry.get type).Yields p.world fun _ _ => True := by
  have hrest (found : Option (Component σ) × Registry σ) : Returns (do
      modify fun q : Pass σ => { q with registry := found.2 }
      return found.1) := (returns_modify _).bind fun _ => returns_pure _
  have hcall : ((do
      let found ← call (p.registry.get type)
      modify fun q : Pass σ => { q with registry := found.2 }
      return found.1 : Effect (Pass σ) (Option (Component σ))).Yields p fun _ _ => True) ↔
        (p.registry.get type).Yields p.world fun _ _ => True :=
    (Returns.yields_bind_iff hrest).trans yields_within_iff
  exact hcall

theorem call_returns {α : Type} {e : Effect σ α} (h : e.Returns) : (call e).Returns :=
  fun p => (call_yields h p).imp fun _ _ _ => trivial

theorem namedFallback?_yields_iff (scene : Scene) (type error : String) (p : Pass σ) :
    ((namedFallback? scene type error).Yields p fun _ _ => True) ↔
      (p.registry.get type).Yields p.world fun _ _ => True := by
  unfold namedFallback?
  refine Iff.trans (Returns.yields_bind_iff fun c? => ?_) (component?_yields_iff type p)
  cases c? with
  | none => exact returns_pure _
  | some component =>
    apply (call_returns (component.factory.contained_returns _)).bind
    intro result
    cases result <;> exact returns_pure _

theorem report_outcome [Clock σ] (x : Fault) (p : Pass σ) :
    (report x).outcome p = (call (p.renderer.options.report x)).outcome p := by
  unfold report toldNow call RenderOptions.report
  simp only [outcome_bind, outcome_within, outcome_pure, outcome_get, outcome_now]
  rcases (p.renderer.options.tell (x.told (Clock.now.run p.world).1)).outcome
    (Clock.now.run p.world).2 with ⟨panic | _, world⟩ <;> rfl

theorem report_yields_iff [Clock σ] {x : Fault} {p : Pass σ}
    {P : Failure → Pass σ → Prop} : (report x).Yields p P ↔
      (p.renderer.options.report x).Yields p.world fun failure world =>
        P failure { p with world } := by
  rw [Effect.Yields, report_outcome]
  exact yields_within_iff

theorem options_invariant (o : RenderOptions σ) :
    Invariant fun p : Pass σ => p.renderer.options = o where
  outside _ _ h := h
  lookUp _ := fun _ h => h
  count _ _ h := h
  failing _ _ h := h
  noticed _ _ _ h := h

variable [Clock σ]

theorem nodes_options (scene : Scene) (ns : List Node) (p : Pass σ) :
    ((nodes scene ns).outcome p).2.renderer.options = p.renderer.options :=
  ((options_invariant p.renderer.options).nodes scene ns p rfl).1

/-- Neither the callback that is told of the panic nor the loader of the component that the
document names panics at it. -/
def Presentable (o : RenderOptions σ) (r : Registry σ) (scene : Scene) (d : Document)
    (panic : Panic) (world : σ) : Prop :=
  (o.report (boundaryFault scene d panic)).Yields world fun _ after =>
    ∀ type, d.errorBoundary.bind (·.fallbackComponent) = some type →
      (r.get type).Yields after fun _ _ => True

theorem documentFallback_yields_iff (scene : Scene) (d : Document) (panic : Panic) (p : Pass σ) :
    ((documentFallback scene d panic).Yields p fun _ _ => True) ↔
      Presentable p.renderer.options p.registry scene d panic p.world := by
  unfold documentFallback Presentable
  rw [yields_bind_iff]
  refine report_yields_iff.trans (yields_congr fun failure world => ?_)
  extract_lets last shown
  have hshown (named : Option Value) : (shown named).Returns := by
    cases named with
    | some output => exact returns_pure _
    | none =>
      apply (returns_attempt _).bind
      intro result
      cases result <;> exact returns_pure _
  split
  · rename_i type hnamed
    refine (Returns.yields_bind_iff hshown).trans
      ((namedFallback?_yields_iff scene type _ _).trans ?_)
    exact ⟨fun h _ hsome => Option.some.inj (hnamed.symm.trans hsome) ▸ h, fun h => h type hnamed⟩
  · rename_i hnamed
    refine ⟨fun _ type hsome => ?_, fun _ => (returns_pure none).bind hshown _⟩
    cases hnamed.symm.trans hsome

theorem page_yields_iff {d : Document} (hbounded : d.errorBoundary.any (·.enabled))
    (scene : Scene) (p : Pass σ) : ((page scene d).Yields p fun _ _ => True) ↔
      ∀ panic q, (nodes scene (top d)).outcome p = (.error panic, q) →
        Presentable p.renderer.options q.registry scene d panic q.world := by
  obtain ⟨b, hb, henabled⟩ := (Option.any_eq_true _ _).1 hbounded
  have henabled' : (d.errorBoundary.map (·.enabled)).getD false = true := by
    rw [hb]
    exact henabled
  have hoptions := nodes_options scene (top d) p
  unfold page
  unfold top at hoptions ⊢
  dsimp only
  rw [if_pos henabled', Effect.Yields, outcome_bind, outcome_attempt]
  rcases hnodes : (nodes scene (Node.sorted (Node.arrangedAll d.components))).outcome p with
    ⟨panic | blocks, q⟩
  · rw [hnodes] at hoptions
    have hrest : (Effect.Yields (σ := Pass σ)
        (do return [← documentFallback scene d panic]) q fun _ _ => True) ↔
        Presentable q.renderer.options q.registry scene d panic q.world :=
      (Returns.yields_bind_iff fun _ => returns_pure _).trans
        (documentFallback_yields_iff scene d panic q)
    rw [hoptions] at hrest
    refine hrest.trans ⟨fun h _ _ heq => ?_, fun h => h panic q rfl⟩
    cases heq
    exact h
  · refine ⟨fun _ _ _ heq => ?_, fun _ => ⟨blocks, q, rfl, trivial⟩⟩
    cases heq

end Pass

namespace Stage

section

variable [Clock σ]

theorem render_yields_iff (d : Document) (c : Context) (s : Stage σ) :
    ((render d c).Yields s fun _ _ => True) ↔
      (Pass.page (s.scene d c) d).Yields { s with } fun _ _ => True := by
  constructor
  · rintro ⟨output, t, h, -⟩
    rw [render_outcome] at h
    rcases hpage : (Pass.page (s.scene d c) d).outcome { s with } with ⟨panic | bs, q⟩
    · rw [hpage] at h
      cases congrArg Prod.fst h
    · exact ⟨bs, q, hpage, trivial⟩
  · rintro ⟨bs, q, hpage, -⟩
    refine ⟨s.output d c bs q, q.toStage, ?_, trivial⟩
    rw [render_outcome, hpage]

/-- A page with a boundary is shown whatever units, callbacks and loaders do, unless a panic
reaches the boundary and then the callback that is told of it panics, or the loader of the
fallback component that the document names. -/
theorem render_contained_iff {d : Document} (hbounded : d.errorBoundary.any (·.enabled))
    (c : Context) (s : Stage σ) : ((render d c).Yields s fun _ _ => True) ↔
      ∀ panic q, (Pass.nodes (s.scene d c) (Pass.top d)).outcome { s with } = (.error panic, q) →
        (s.renderer.options.report (Pass.boundaryFault (s.scene d c) d panic)).Yields q.world
          fun _ world => ∀ type, d.errorBoundary.bind (·.fallbackComponent) = some type →
            (q.registry.get type).Yields world fun _ _ => True := by
  rw [render_yields_iff]
  exact Pass.page_yields_iff hbounded (s.scene d c) { s with }

end

def boundedPage : Document where
  components := [{ id := "chart", type := "Chart" }]
  errorBoundary := some { enabled := true }

def explodingStage (onError : Failure → Effect Unit Unit) : Stage Unit where
  world := ()
  registry := Registry.register ∅ "Chart"
    (.ready fun _ => return .error (.failed "no data")) [] none
  renderer := { options := {
    onError := some onError
    fallback := some fun _ => throw ⟨some "fallback exploded"⟩ } }

theorem explodingStage_contained :
    boundedPage.errorBoundary.any (·.enabled) ∧
      (∃ q, (Pass.nodes ((explodingStage fun _ => pure ()).scene boundedPage {})
        (Pass.top boundedPage)).outcome { explodingStage fun _ => pure () with } =
          (.error ⟨some "fallback exploded"⟩, q)) ∧
      (render boundedPage {}).Yields (explodingStage fun _ => pure ()) fun _ _ => True := by
  have hbounded : boundedPage.errorBoundary.any (·.enabled) := rfl
  refine ⟨hbounded, ⟨_, rfl⟩, (render_contained_iff hbounded {} _).2 ?_⟩
  intro panic q _
  exact ⟨_, _, rfl, nofun⟩

theorem boundary_not_always_contains : ¬ ∀ (d : Document) (c : Context) (s : Stage Unit),
    d.errorBoundary.any (·.enabled) → (render d c).Yields s fun _ _ => True := by
  intro h
  obtain ⟨output, t, ht, -⟩ :=
    h boundedPage {} (explodingStage fun _ => throw ⟨some "reporter down"⟩) rfl
  have hpanic : ((render boundedPage {}).outcome
      (explodingStage fun _ => throw ⟨some "reporter down"⟩)).1 =
    .error ⟨some "reporter down"⟩ := rfl
  rw [ht] at hpanic
  cases hpanic

def brokenLoader : Effect Unit (Except PageError (Factory Unit)) := throw ⟨some "no module"⟩

def brokenStage : Stage Unit where
  world := ()
  registry := { table := [("Chart", {
    displayName := "Chart"
    defaults := []
    source := .lazy brokenLoader none })] }
  renderer := { options := {} }

/-- Nor is it enough that no callback panics: the component that the document names for the
place of the page may be the one that could not be loaded. -/
theorem calm_boundary_not_always_contains : ¬ ∀ (d : Document) (c : Context) (s : Stage Unit),
    d.errorBoundary.any (·.enabled) → s.renderer.options.Calm →
      (render d c).Yields s fun _ _ => True := by
  intro h
  let page := { boundedPage with
    errorBoundary := some { enabled := true, fallbackComponent := some "Chart" } }
  obtain ⟨output, t, ht, -⟩ := h page {} brokenStage rfl ⟨nofun, nofun, nofun⟩
  have hpanic : ((render page {}).outcome brokenStage).1 = .error ⟨some "no module"⟩ := rfl
  rw [ht] at hpanic
  cases hpanic

/-- Where no callback and no loader panics, whatever units do, a document is shown with and
without a boundary, and no difference can be told: not in what is given back, not in the calls
to the outside, and not in the renderer that is left. -/
theorem render_boundary_transparent [Clock σ] (d : Document) (c : Context)
    {b b' : Option Boundary} (hretry : b.bind (·.retryButton) = b'.bind (·.retryButton))
    {s : Stage σ} (hcalm : s.Calm) :
    (render { d with errorBoundary := b } c).Yields s fun output t =>
      (render { d with errorBoundary := b' } c).outcome s = (.ok output, t) := by
  have hscene : s.scene { d with errorBoundary := b } c =
      s.scene { d with errorBoundary := b' } c := by
    simp only [scene, Scene.ofDocument, hretry]
  have houtput (bs : List Block) (q : Pass σ) :
      s.output { d with errorBoundary := b } c bs q =
        s.output { d with errorBoundary := b' } c bs q := by
    simp only [output, hscene]
  obtain ⟨bs, q, hbs, -⟩ := Pass.nodes_visits (s.scene { d with errorBoundary := b } c)
    (Pass.top d) { s with } hcalm
  refine ⟨_, _, render_of_nodes (d := { d with errorBoundary := b }) hbs, ?_⟩
  rw [hscene] at hbs
  rw [houtput]
  exact render_of_nodes (d := { d with errorBoundary := b' }) hbs

instance : Clock (List String) := .still (List String)

def recordingStage : Stage (List String) where
  world := []
  registry := { table := [("Chart", {
    displayName := "Chart"
    defaults := []
    source := .ready fun _ => throw ⟨some "bad state"⟩ })] }
  renderer := { options := {
    onError := some fun failure => modify (failure.error :: ·) } }

theorem recordingStage_transparent : ∃ output t,
    (render { boundedPage with errorBoundary := some { enabled := true } } {}).outcome
      recordingStage = (.ok output, t) ∧
    (render { boundedPage with errorBoundary := some { enabled := false } } {}).outcome
      recordingStage = (.ok output, t) ∧
    t.world = ["Component panicked: bad state"] := by
  have hcalm : recordingStage.Calm := by
    refine ⟨⟨fun onError honError failure => ?_, nofun, nofun⟩, ?_⟩
    · cases honError
      exact returns_modify _
    · exact Registry.calm_of_forall_mem (List.forall_mem_singleton.2 trivial)
  obtain ⟨output, t, ht, ht'⟩ := @render_boundary_transparent _ _ boundedPage {}
    (some { enabled := true }) (some { enabled := false }) rfl _ hcalm
  refine ⟨output, t, ht, ht', ?_⟩
  have hworld : ((render { boundedPage with errorBoundary := some { enabled := true } } {}).outcome
    recordingStage).2.world = ["Component panicked: bad state"] := by rfl
  rw [ht] at hworld
  exact hworld

end Stage

end PageConfig
