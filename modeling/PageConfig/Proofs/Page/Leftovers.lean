import PageConfig.Proofs.Page.Samples

/-!
# What is left over of a document

What is known of the nodes of a document goes when another one is taken in. When the document
is put away it stays: the page then has samples, failures and retries of nodes that it does
not hold.
-/

set_option autoImplicit false

namespace PageConfig

open Effect

variable {σ : Type}

/-- No sample is kept, no node has failed, and none was retried. -/
structure Controller.Blank (c : Controller σ) : Prop where
  metrics : c.metrics = []
  failures : ∀ id, c.renderer.hasFailed id = false
  retries : ∀ id, c.renderer.retryCount id = 0

theorem Controller.Begins.blank {c : Controller σ} {held : Held} {findings : Findings}
    (h : c.Begins held findings) : c.Blank where
  metrics := h.metrics
  failures id := by
    rw [Renderer.hasFailed, h.failures]
    rfl
  retries id := by
    rw [Renderer.retryCount, h.retries]
    rfl

/-- Since a document was last taken in, no sample was kept, no failure stands, and no node
was retried. -/
structure Course.Quiet (course : Course) (tracking : Bool) : Prop where
  stream : tracking = true → course.stream = []
  standing : ∀ id, course.events.standing id = none
  retries : ∀ id, course.retries id = 0

namespace Page

variable [Clock σ] {q : Page σ} {course : Course}

theorem Reached.blank_iff (h : Reached course q) (hreach : q.Reachable)
    (hcalm : q.controller.options.Calm) (hbound : ∀ id, course.retries id < 2 ^ 32) :
    q.controller.Blank ↔ course.Quiet q.controller.options.enablePerformanceTracking := by
  have hfollows := h.follows hcalm
  have hmetrics : q.controller.metrics = [] ↔
      (q.controller.options.enablePerformanceTracking = true → course.stream = []) := by
    cases htracking : q.controller.options.enablePerformanceTracking with
    | false => exact ⟨fun _ => nofun, fun _ => hreach.untracked htracking⟩
    | true => rw [hfollows.metrics htracking, Metric.latest_eq_nil_iff, forall_prop_of_true rfl]
  have hfailures (id : String) :
      q.controller.renderer.hasFailed id = false ↔ course.events.standing id = none := by
    rw [← Bool.not_eq_true, hfollows.remembers.hasFailed_iff, Option.not_isSome_iff_eq_none]
  have hretries (id : String) :
      q.controller.renderer.retryCount id = 0 ↔ course.retries id = 0 := by
    rw [hfollows.remembers.retries, ← UInt32.toNat_inj, UInt32.toNat_ofNat']
    exact (Nat.mod_eq_of_lt (hbound id)) ▸ Iff.rfl
  constructor
  · exact fun hblank => ⟨hmetrics.1 hblank.metrics, fun id => (hfailures id).1 (hblank.failures id),
      fun id => (hretries id).1 (hblank.retries id)⟩
  · exact fun hquiet => ⟨hmetrics.2 hquiet.stream, fun id => (hfailures id).2 (hquiet.standing id),
      fun id => (hretries id).2 (hquiet.retries id)⟩

/-- A page is blank once a document is taken in, by whatever call. To put the document away
leaves the samples and the renderer as they are, so a page without a document is blank just
where nothing of the last document was left. -/
theorem blank_once_taken (h : q.Reachable) (hcalm : q.controller.options.Calm) :
    (∀ c given found, q.Supplies c given → q.controller.read given = .ok found →
      (q.after c).controller.Blank) ∧
    (∀ c, q.Clears c → (q.after c).controller.document = none ∧
      (q.after c).controller.metrics = q.controller.metrics ∧
      (q.after c).controller.renderer = q.controller.renderer) ∧
    (q.ReachableWith Registry.Calm → ∃ course, Reached course q) ∧
    ∀ course, Reached course q → (∀ id, course.retries id < 2 ^ 32) →
      (q.controller.Blank ↔ course.Quiet q.controller.options.enablePerformanceTracking) :=
  ⟨fun _ _ _ hsupplies hread => (hsupplies.begins hcalm hread).1.blank,
    fun _ hclears => hclears.leaves, fun hloaders => hloaders.exists_course hcalm,
    fun _ hcourse hbound => hcourse.blank_iff h hcalm hbound⟩

theorem trackedPage_put_away : ∃ q : Page Unit, q.Reachable ∧ q.controller.options.Calm ∧
    (q.after (.setDocument none)).controller.document = none ∧
    (q.after (.setDocument none)).controller.metrics = [⟨"a", "Text", 1⟩] ∧
    q.Supplies .retry (.ok sentPage) ∧ (q.after .retry).controller.Blank := by
  have hreachable : (trackedPage.after .render).Reachable :=
    (trackedPage_reachable _).call .render trivial
  have hcalm : (trackedPage.after .render).controller.options.Calm :=
    calm_after trackedPage_calm _
  obtain ⟨htaken, hcleared, -⟩ := blank_once_taken hreachable hcalm
  obtain ⟨hdocument, hmetrics, -⟩ := hcleared _ .setDocument
  have hsupplies : (trackedPage.after .render).Supplies .retry (.ok sentPage) := .retry _ rfl
  have hprocess : sentPage.process (trackedPage.after .render).controller.options.processing =
      { document := cleanPage, report := some cleanPage.validate } := by
    rw [options_after]
    exact process_sentPage false
  have hread := @Controller.read_eq_ok _ (trackedPage.after .render).controller sentPage
    sentDocument (hprocess ▸ ofValue_cleanPage)
  exact ⟨_, hreachable, hcalm, hdocument, hmetrics, hsupplies, htaken _ _ _ hsupplies hread⟩

theorem put_away_not_always_blank : ¬ ∀ (q : Page Unit) (course : Course), Reached course q →
    q.controller.options.Calm → (∀ m, .recorded m ∉ course) → q.controller.document = none →
      q.controller.Blank := by
  intro h
  obtain ⟨output, hshown, -⟩ := trackedPage_shown
  have hreached := (trackedPage_reached.call hshown).call (.cleared .setDocument)
  have hcalm : ((trackedPage.after .render).after (.setDocument none)).controller.options.Calm :=
    calm_after (calm_after trackedPage_calm _) _
  have hblank := h _ _ hreached hcalm (by simp) rfl
  have hmetrics : ((trackedPage.after .render).after (.setDocument none)).controller.metrics =
    [⟨"a", "Text", 1⟩] := rfl
  exact absurd (hmetrics.symm.trans hblank.metrics) nofun

end Page

end PageConfig
