import PageConfig.Proofs.Page.Course

/-!
# The samples that a page keeps

Of all samples since a document was last taken in, a page keeps the latest one of each node,
in the sequence in which they came. A page that does not track keeps none.
-/

set_option autoImplicit false

namespace PageConfig

open Effect

variable {σ : Type}

namespace Page

variable {q : Page σ}

section Untracked

def Untracked (q : Page σ) : Prop :=
  q.controller.options.enablePerformanceTracking = false ∧ q.controller.metrics = []

theorem recordMetric_untracked (m : Metric) :
    Ensures (Untracked (σ := σ)) (recordMetric m) fun _ => True := by
  apply ensures_get.bind
  intro q hq
  dsimp only
  rw [hq.1]
  exact ensures_pure trivial

theorem render_untracked [Clock σ] : Ensures (Untracked (σ := σ)) render fun _ => True := by
  apply ensures_get.bind
  intro q _
  dsimp only
  split
  · have hstage {α : Type} (e : Effect (Stage σ) α) :
        Ensures Untracked (onStage e) fun _ => True := ensures_within (fun _ _ h => h) e
    apply (hstage _).bind
    intro output _
    exact (ensures_forM recordMetric_untracked _).bind fun _ _ => ensures_pure trivial
  · exact ensures_pure trivial

theorem after_untracked [Clock σ] (hq : q.Untracked) (c : Call σ) : (q.after c).Untracked := by
  have hoptions : (q.after c).controller.options.enablePerformanceTracking = false := by
    rw [options_after]
    exact hq.1
  refine ⟨hoptions, ?_⟩
  cases q.does c with
  | takes h hread =>
    rcases h.begins_or_keeps with ⟨_, _, hbegins⟩ | hmetrics
    · exact hbegins.metrics
    · exact hmetrics.trans hq.2
  | clears h => exact h.leaves.2.1.trans hq.2
  | idles h => exact h.rests.1.trans hq.2
  | shows h => exact (render_untracked q hq).1.2
  | retries hdocument id =>
    rw [after_retryNode hdocument]
    exact hq.2
  | records m => exact (recordMetric_untracked m q hq).1.2

end Untracked

theorem Reachable.untracked [Clock σ] (h : q.Reachable)
    (htracking : q.controller.options.enablePerformanceTracking = false) :
    q.controller.metrics = [] := by
  suffices hall : q.controller.options.enablePerformanceTracking = false → q.Untracked from
    (hall htracking).2
  clear htracking
  induction h with
  | start options context initial h =>
    exact fun htracking => ⟨htracking, (start_fresh h).2.1⟩
  | @call q c _ _ ih =>
    intro htracking
    rw [options_after] at htracking
    exact after_untracked (ih htracking) c
  | outside world registry _ ih => exact ih

/-- A page that tracks keeps of each node the last of its samples since a document was last
taken in, and keeps these in the sequence in which they came. A page that does not track
keeps none. -/
theorem kept_samples [Clock σ] (h : q.Reachable) :
    (q.controller.options.enablePerformanceTracking = false → q.controller.metrics = []) ∧
    (q.controller.options.Calm →
      (q.ReachableWith Registry.Calm → ∃ course, Reached course q) ∧
      ∀ course, Reached course q → q.controller.options.enablePerformanceTracking = true →
        q.controller.metrics = Metric.latest course.stream ∧
        (q.controller.metrics.map (·.componentId)).Nodup ∧
        q.controller.metrics.Sublist course.stream ∧
        ∀ m, m ∈ q.controller.metrics ↔ m.IsLatest course.stream) := by
  refine ⟨h.untracked, fun hcalm => ⟨fun hloaders => hloaders.exists_course hcalm,
    fun course hcourse htracking => ?_⟩⟩
  have hmetrics := (hcourse.follows hcalm).metrics htracking
  rw [hmetrics]
  exact ⟨rfl, Metric.nodup_latest _, Metric.latest_sublist _, Metric.mem_latest_iff _⟩

def trackedPage : Page Unit where
  world := ()
  registry := { table := [("Text", {
    displayName := "Text"
    defaults := []
    source := .ready fun _ => return .ok .null })] }
  controller := { Controller.empty { enablePerformanceTracking := true } {} with
    input := some sentPage
    value := some cleanPage
    document := some sentDocument
    findings := cleanPage.validate.toFindings
    status := .ready }

theorem trackedPage_start :
    (start { enablePerformanceTracking := true } {} (some sentPage)).outcome
      { trackedPage with controller := .empty { enablePerformanceTracking := true } {} } =
        (.ok (), trackedPage) := by
  rw [outcome_start]
  exact process_eq_ok
    (q := { trackedPage with controller := .empty { enablePerformanceTracking := true } {} }) rfl
    (process_sentPage false) ofValue_cleanPage

theorem trackedPage_reachable (allowed : Registry Unit → Prop) :
    trackedPage.ReachableWith allowed := .start _ _ _ trackedPage_start

theorem trackedPage_loaders : trackedPage.registry.Calm :=
  Registry.calm_of_forall_mem (List.forall_mem_singleton.2 trivial)

theorem trackedPage_reached : Reached [] trackedPage := .start _ _ _ trackedPage_start

theorem trackedPage_calm : trackedPage.controller.options.Calm where
  render := ⟨nofun, nofun, nofun⟩
  onError := nofun
  onValidationError := nofun
  onMetric := nofun

def sentNode : Node := { id := "a", type := "Text", styles := some {} }

theorem sentNode_made {scene : Scene} {p q r : Pass Unit} {component : Component Unit}
    {output : Value} {metric : Metric}
    (hfound : (Pass.component? "Text").outcome p = (.ok (some component), q))
    (hfresh : q.renderer.failures.get? "a" = none)
    (hmade : (Pass.instantiate "a" "Text" component.factory
      (sentNode.givenProps scene component)).outcome q = (.ok (.ok output), r))
    (hmetric : r.metrics = q.metrics ++ [metric]) :
    Pass.Visits scene p [sentNode] [.made sentNode metric]
      [sentNode.block scene component output r.renderer.options.enableAnimations []] r :=
  @Pass.Visits.made _ _ scene p q r r r sentNode [] [] [] [] [] component output metric rfl hfound
    hfresh hmade hmetric (.done r) (.done r)

theorem trackedPage_shown : ∃ output,
    trackedPage.Tells .render
      [.shown output ([.made sentNode ⟨"a", "Text", 1⟩].map .visit)] ∧
      output.metrics = [⟨"a", "Text", 1⟩] :=
  ⟨_, .shown trackedPage_loaders rfl rfl
    (.render rfl (sentNode_made rfl rfl rfl rfl) rfl), rfl⟩

theorem trackedPage_keeps : ∃ (q : Page Unit) (course : Course), Reached course q ∧
    q.controller.options.Calm ∧ q.controller.options.enablePerformanceTracking = true ∧
    course.stream = [⟨"a", "Text", 1⟩, ⟨"b", "Text", 5⟩, ⟨"a", "Text", 9⟩] ∧
    q.controller.metrics = [⟨"b", "Text", 5⟩, ⟨"a", "Text", 9⟩] := by
  obtain ⟨output, hshown, hmetrics⟩ := trackedPage_shown
  have hreached := ((trackedPage_reached.call hshown).call
    (.recorded ⟨"b", "Text", 5⟩)).call (.recorded ⟨"a", "Text", 9⟩)
  have hreachable : Reachable _ :=
    (((trackedPage_reachable _).call .render trivial).call
      (.recordMetric ⟨"b", "Text", 5⟩) trivial).call (.recordMetric ⟨"a", "Text", 9⟩) trivial
  have hcalm : (((trackedPage.after .render).after (.recordMetric ⟨"b", "Text", 5⟩)).after
      (.recordMetric ⟨"a", "Text", 9⟩)).controller.options.Calm :=
    calm_after (calm_after (calm_after trackedPage_calm _) _) _
  have hstream : Course.stream ([] ++ [.shown output ([.made sentNode ⟨"a", "Text", 1⟩].map .visit)]
      ++ [.recorded ⟨"b", "Text", 5⟩] ++ [.recorded ⟨"a", "Text", 9⟩]) =
        [⟨"a", "Text", 1⟩, ⟨"b", "Text", 5⟩, ⟨"a", "Text", 9⟩] := by
    rw [Course.stream_concat _ rfl, Course.stream_concat _ rfl, Course.stream_concat _ rfl]
    dsimp only [Episode.samples]
    rw [hmetrics]
    rfl
  obtain ⟨hkept, -⟩ := ((kept_samples hreachable).2 hcalm).2 _ hreached rfl
  refine ⟨_, _, hreached, hcalm, rfl, hstream, ?_⟩
  rw [hkept, hstream]
  decide

end Page

end PageConfig
