import PageConfig.Proofs.Page.Samples

/-!
# What the kept samples count

A sample tells how often the component of its node was attempted. To show the whole page
hands the page its samples, to show one node once more does not: the kept sample of a node
tells the count just where the node was last attempted as the whole page was shown.
-/

set_option autoImplicit false

namespace PageConfig

open Effect

variable {σ : Type}

namespace Episode

def tries (id : String) (e : Episode) : Bool := decide (0 < e.events.attempts id)

theorem tries_iff {id : String} {e : Episode} : e.tries id = true ↔ 0 < e.events.attempts id :=
  decide_eq_true_iff

def isShown : Episode → Bool
  | shown _ _ => true
  | _ => false

end Episode

namespace Course

/-- The whole page was shown when the component of the node was last attempted. -/
def lastShown (course : Course) (id : String) : Bool :=
  (course.filter (·.tries id)).getLast?.any Episode.isShown

variable (course : Course) {e : Episode} (id : String)

theorem lastShown_concat : lastShown (course ++ [e]) id =
    if e.tries id then e.isShown else course.lastShown id := by
  rw [lastShown, List.filter_append]
  by_cases he : e.tries id
  · rw [List.filter_cons_of_pos he, List.filter_nil, List.getLast?_concat, if_pos he]
    rfl
  · rw [List.filter_cons_of_neg he, List.filter_nil, List.append_nil, if_neg he]
    rfl

theorem attempts_concat (he : ∀ event ∈ e.events, event.isReset = false) :
    attempts (course ++ [e]) id = course.attempts id + e.events.attempts id := by
  rw [attempts, events_concat, History.sinceReset_append _ he, History.attempts_append]
  rfl

theorem attempts_taken : attempts (course ++ [.taken]) id = 0 := by
  rw [attempts, events_concat]
  exact congrArg (History.attempts · id) (History.sinceReset_reset course.events)

end Course

/-- What the kept samples of a node tell, after the course. -/
structure Controller.Counts (c : Controller σ) (course : Course) (id : String) : Prop where
  told : ∀ m ∈ c.metrics, m.componentId = id → ∃ k, m.updateCount = UInt32.ofNat k ∧
    0 < k ∧ k ≤ course.attempts id ∧ (k = course.attempts id ↔ course.lastShown id)
  kept : course.lastShown id → 0 < course.attempts id → ∃ m ∈ c.metrics, m.componentId = id

namespace Controller.Counts

variable {c c' : Controller σ} {course : Course} {id : String} {e : Episode}

theorem of_empty (h : c.metrics = []) (hnone : course.attempts id = 0) : c.Counts course id where
  told := by
    rw [h]
    exact nofun
  kept _ hattempted := absurd hattempted (by rw [hnone]; decide)

theorem untried (h : c.Counts course id) (he : ∀ event ∈ e.events, event.isReset = false)
    (htries : e.tries id = false)
    (hmetrics : ∀ m, m.componentId = id → (m ∈ c'.metrics ↔ m ∈ c.metrics)) :
    c'.Counts (course ++ [e]) id := by
  have hnone : e.events.attempts id = 0 := by
    rw [← Bool.not_eq_true, Episode.tries_iff] at htries
    exact Nat.eq_zero_of_not_pos htries
  have hattempts : (course ++ [e] : Course).attempts id = course.attempts id := by
    rw [Course.attempts_concat _ _ he, hnone, Nat.add_zero]
  have hlast : (course ++ [e] : Course).lastShown id = course.lastShown id := by
    rw [Course.lastShown_concat, htries]
    rfl
  constructor
  · intro m hm hid
    rw [hattempts, hlast]
    exact h.told m ((hmetrics m hid).1 hm) hid
  · rw [hattempts, hlast]
    intro hshown hattempted
    obtain ⟨m, hm, hid⟩ := h.kept hshown hattempted
    exact ⟨m, (hmetrics m hid).2 hm, hid⟩

/-- An attempt of which the page gets no sample leaves the kept one behind. -/
theorem unsampled (h : c.Counts course id) (he : ∀ event ∈ e.events, event.isReset = false)
    (htries : e.tries id = true) (hshown : e.isShown = false) (hmetrics : c'.metrics = c.metrics) :
    c'.Counts (course ++ [e]) id := by
  have hmore := Episode.tries_iff.1 htries
  have hlast : (course ++ [e] : Course).lastShown id = false := by
    rw [Course.lastShown_concat, htries, hshown]
    rfl
  constructor
  · intro m hm hid
    rw [hmetrics] at hm
    obtain ⟨k, hk, hpos, hle, -⟩ := h.told m hm hid
    rw [hlast, Course.attempts_concat _ _ he]
    exact ⟨k, hk, hpos, by omega, fun heq => by omega, nofun⟩
  · rw [hlast]
    exact nofun

theorem sampled (htries : e.tries id = true) (hshown : e.isShown = true)
    (hattempted : 0 < (course ++ [e] : Course).attempts id)
    (hkept : ∃ m ∈ c'.metrics, m.componentId = id)
    (htold : ∀ m ∈ c'.metrics, m.componentId = id →
      m.updateCount = UInt32.ofNat ((course ++ [e] : Course).attempts id)) :
    c'.Counts (course ++ [e]) id where
  told m hm hid := by
    rw [Course.lastShown_concat, htries, hshown]
    exact ⟨_, htold m hm hid, hattempted, le_rfl, fun _ => rfl, fun _ => rfl⟩
  kept _ _ := hkept

theorem shown (h : c.Counts course id) {output : Output} {vs : List Visit}
    (hfit : Visit.AllFit c.renderer vs) (hsamples : output.metrics = vs.filterMap Visit.metric?)
    (hmetrics : c'.metrics = output.metrics.foldl Metric.keep c.metrics)
    (hrenderer : c'.renderer = vs.foldl Visit.act c.renderer)
    (hremembers : c'.renderer.Remembers
      (course ++ [.shown output (vs.map .visit)] : Course).events) :
    c'.Counts (course ++ [.shown output (vs.map .visit)]) id := by
  have hunreset : ∀ event ∈ (Episode.shown output (vs.map .visit)).events,
      event.isReset = false := by simp [Episode.events, Event.isReset]
  have hsampled : (∃ m ∈ output.metrics, m.componentId = id) ↔
      (Episode.shown output (vs.map .visit)).tries id = true := by
    rw [hsamples, hfit.sampled_iff id, Episode.tries_iff]
    rfl
  cases htries : (Episode.shown output (vs.map .visit)).tries id with
  | false =>
    apply h.untried hunreset htries
    intro m hid
    have hnone : ∀ n ∈ output.metrics, n.componentId ≠ id := fun n hn hn' =>
      Bool.false_ne_true (htries.symm.trans (hsampled.1 ⟨n, hn, hn'⟩))
    rw [hmetrics, Metric.mem_foldl_keep]
    constructor
    · rintro (hm | ⟨hm, -⟩)
      · exact absurd hid (hnone m ((Metric.latest_sublist _).subset hm))
      · exact hm
    · exact fun hm => .inr ⟨hm, fun n hn => hid ▸ hnone n hn⟩
  | true =>
    obtain ⟨n, hn, hn'⟩ := hsampled.2 htries
    have hmem (m : Metric) (hid : m.componentId = id) :
        m ∈ c'.metrics ↔ m ∈ Metric.latest output.metrics := by
      rw [hmetrics, Metric.mem_foldl_keep]
      refine ⟨?_, .inl⟩
      rintro (hm | ⟨-, hother⟩)
      · exact hm
      · exact absurd (hn'.trans hid.symm) (hother n hn)
    apply sampled htries rfl
    · rw [Course.attempts_concat _ _ hunreset]
      exact Nat.add_pos_right _ (Episode.tries_iff.1 htries)
    · obtain ⟨m, hm, hid⟩ := Metric.exists_mem_latest.2 ⟨n, hn, hn'⟩
      exact ⟨m, (hmem m hid).2 hm, hid⟩
    · intro m hm hid
      have hm := (hmem m hid).1 hm
      rw [hsamples] at hm
      rw [hfit.latest_counts m hm, ← hrenderer, hremembers.updates, hid]
      rfl

end Controller.Counts

namespace Renderer

theorem Records.unreset [Clock σ] {r : Renderer σ} {a : Act σ} {es : History} (h : r.Records a es)
    (ha : a ≠ .reset) : ∀ e ∈ es, e.isReset = false := by
  cases h with
  | render => simp [Event.isReset]
  | retry => simp [Event.isReset]
  | setOptions => exact List.forall_mem_nil _
  | setHost => exact List.forall_mem_nil _
  | resize => exact List.forall_mem_nil _
  | reset => exact absurd rfl ha

end Renderer

namespace Page

variable [Clock σ] {q : Page σ} {c : Call σ} {course told : Course} {id : String}

theorem Tells.counts (h : q.Tells c told) (hcalm : q.controller.options.Calm)
    (htracking : q.controller.options.enablePerformanceTracking = true)
    (hfollows : q.controller.Follows course) (hnone : ∀ m, .recorded m ∉ told)
    (hcounts : q.controller.Counts course id) :
    (q.after c).controller.Counts (course ++ told) id := by
  have hafter := (h.follows hcalm hfollows).remembers
  cases h with
  | taken hsupplies hread =>
    obtain ⟨hbegins, -⟩ := hsupplies.begins hcalm hread
    exact .of_empty hbegins.metrics (Course.attempts_taken course id)
  | cleared hclears =>
    obtain ⟨-, hmetrics, -⟩ := hclears.leaves
    exact hcounts.untried nofun rfl fun m _ => by rw [hmetrics]
  | idle hidles =>
    obtain ⟨hmetrics, -⟩ := hidles.rests
    rw [List.append_nil]
    exact ⟨hmetrics ▸ hcounts.told, hmetrics ▸ hcounts.kept⟩
  | @shown d output es hloaders hdocument hanswer hes =>
    obtain ⟨hcontroller, vs, rfl, hfit, hacted, hsamples⟩ :=
      after_render hdocument hcalm hfollows.calm hloaders hanswer hes
    refine hcounts.shown hfit hsamples ?_ ?_ hafter
    · rw [hcontroller]
      exact congrArg Controller.metrics (Controller.handed_tracked htracking _)
    · rw [hcontroller]
      exact hacted
  | @retried d es id' hloaders hdocument hes =>
    have hunreset := hes.unreset nofun
    have hmetrics : (q.after (.retryNode id')).controller.metrics = q.controller.metrics := by
      rw [after_retryNode hdocument]
    cases htries : (Episode.retried es).tries id with
    | false => exact hcounts.untried hunreset htries fun m _ => by rw [hmetrics]
    | true => exact hcounts.unsampled hunreset htries rfl hmetrics
  | recorded m => exact absurd (List.mem_singleton.2 rfl) (hnone m)

theorem Reached.counts (h : Reached course q) (hcalm : q.controller.options.Calm)
    (htracking : q.controller.options.enablePerformanceTracking = true)
    (hnone : ∀ m, .recorded m ∉ course) (id : String) : q.controller.Counts course id := by
  induction h with
  | start options context initial h => exact .of_empty (start_fresh h).2.1 rfl
  | call hreached htold ih =>
    rw [options_after] at hcalm htracking
    have hbefore := ih hcalm htracking fun m hm => hnone m (List.mem_append_left _ hm)
    exact htold.counts hcalm htracking (hreached.follows hcalm)
      (fun m hm => hnone m (List.mem_append_right _ hm)) hbefore
  | outside world registry _ ih => exact ih hcalm htracking hnone

/-- On a page that tracks, the kept sample of a node tells how often its component was
attempted since a document was last taken in, unless it was last attempted as the node was
shown once more: then the page keeps an earlier sample, or none. -/
theorem kept_counts (hcalm : q.controller.options.Calm)
    (htracking : q.controller.options.enablePerformanceTracking = true) :
    (q.ReachableWith Registry.Calm → ∃ course, Reached course q) ∧
    ∀ course, Reached course q → (∀ m, .recorded m ∉ course) → ∀ id,
      course.attempts id < 2 ^ 32 →
        (q.controller.renderer.updateCount id).toNat = course.attempts id ∧
        (∀ m ∈ q.controller.metrics, m.componentId = id →
          0 < m.updateCount.toNat ∧ m.updateCount.toNat ≤ course.attempts id) ∧
        (0 < course.attempts id →
          ((∃ m ∈ q.controller.metrics, m.componentId = id ∧
            m.updateCount.toNat = course.attempts id) ↔ course.lastShown id)) := by
  refine ⟨fun hloaders => hloaders.exists_course hcalm,
    fun course hcourse hnone id hbound => ?_⟩
  have hcounts := hcourse.counts hcalm htracking hnone id
  have hnat {k : Nat} (hk : k ≤ course.attempts id) : (UInt32.ofNat k).toNat = k := by
    rw [UInt32.toNat_ofNat']
    exact Nat.mod_eq_of_lt (Nat.lt_of_le_of_lt hk hbound)
  refine ⟨?_, fun m hm hid => ?_, fun hattempted => ⟨?_, fun hshown => ?_⟩⟩
  · rw [(hcourse.follows hcalm).remembers.updates]
    exact hnat le_rfl
  · obtain ⟨k, hk, hpos, hle, -⟩ := hcounts.told m hm hid
    rw [hk, hnat hle]
    exact ⟨hpos, hle⟩
  · rintro ⟨m, hm, hid, hcount⟩
    obtain ⟨k, hk, -, hle, hiff⟩ := hcounts.told m hm hid
    rw [hk, hnat hle] at hcount
    exact hiff.1 hcount
  · obtain ⟨m, hm, hid⟩ := hcounts.kept hshown hattempted
    obtain ⟨k, hk, -, hle, hiff⟩ := hcounts.told m hm hid
    refine ⟨m, hm, hid, ?_⟩
    rw [hk, hnat hle]
    exact hiff.2 hshown

theorem trackedPage_retried : (trackedPage.after .render).Tells (.retryNode "a")
    [.retried (.retry "a" :: [.made sentNode ⟨"a", "Text", 2⟩].map .visit)] :=
  .retried trackedPage_loaders rfl (.retry rfl (sentNode_made rfl rfl rfl rfl))

theorem trackedPage_shown_again : ∃ output,
    ((trackedPage.after .render).after (.retryNode "a")).Tells .render
      [.shown output ([.made sentNode ⟨"a", "Text", 3⟩].map .visit)] :=
  ⟨_, .shown trackedPage_loaders rfl rfl (.render rfl (sentNode_made rfl rfl rfl rfl) rfl)⟩

def twiceTried (first : Output) : Course := [
  .shown first ([.made sentNode ⟨"a", "Text", 1⟩].map .visit),
  .retried (.retry "a" :: [.made sentNode ⟨"a", "Text", 2⟩].map .visit)]

def thriceTried (first last : Output) : Course :=
  twiceTried first ++ [.shown last ([.made sentNode ⟨"a", "Text", 3⟩].map .visit)]

theorem trackedPage_counts : ∃ (q : Page Unit) (course : Course),
    q.ReachableWith Registry.Calm ∧
    q.controller.options.Calm ∧ q.controller.options.enablePerformanceTracking = true ∧
    Reached course q ∧ (∀ m, .recorded m ∉ course) ∧ course.attempts "a" = 3 ∧
    ∃ m ∈ q.controller.metrics, m.componentId = "a" ∧ m.updateCount.toNat = 3 := by
  obtain ⟨first, hfirst, -⟩ := trackedPage_shown
  obtain ⟨last, hlast⟩ := trackedPage_shown_again
  have hreached : Reached (thriceTried first last) _ :=
    ((trackedPage_reached.call hfirst).call trackedPage_retried).call hlast
  have hreachable : (((trackedPage.after .render).after (.retryNode "a")).after
      .render).ReachableWith Registry.Calm :=
    (((trackedPage_reachable _).call .render trackedPage_loaders).call (.retryNode "a")
      trackedPage_loaders).call .render trackedPage_loaders
  have hcalm : (((trackedPage.after .render).after (.retryNode "a")).after
      .render).controller.options.Calm :=
    calm_after (calm_after (calm_after trackedPage_calm _) _) _
  have hnone : ∀ m, .recorded m ∉ thriceTried first last := by simp [thriceTried, twiceTried]
  have hattempts : (thriceTried first last).attempts "a" = 3 := rfl
  obtain ⟨-, -, hiff⟩ := (kept_counts hcalm rfl).2 _ hreached hnone "a"
    (by rw [hattempts]; decide)
  rw [hattempts] at hiff
  exact ⟨_, _, hreachable, hcalm, rfl, hreached, hnone, hattempts, (hiff (by decide)).2 rfl⟩

theorem counts_not_always_kept : ¬ ∀ (q : Page Unit) (course : Course), Reached course q →
    q.controller.options.Calm → q.controller.options.enablePerformanceTracking = true →
    (∀ m, .recorded m ∉ course) → ∀ id, 0 < course.attempts id →
      ∃ m ∈ q.controller.metrics, m.componentId = id ∧
        m.updateCount.toNat = course.attempts id := by
  intro h
  obtain ⟨output, hshown, -⟩ := trackedPage_shown
  have hreached : Reached (twiceTried output) _ :=
    (trackedPage_reached.call hshown).call trackedPage_retried
  have hcalm : ((trackedPage.after .render).after (.retryNode "a")).controller.options.Calm :=
    calm_after (calm_after trackedPage_calm _) _
  have hattempts : (twiceTried output).attempts "a" = 2 := rfl
  have hmetrics : ((trackedPage.after .render).after (.retryNode "a")).controller.metrics =
    [⟨"a", "Text", 1⟩] := rfl
  obtain ⟨m, hm, -, hcount⟩ := h _ _ hreached hcalm rfl (by simp [twiceTried]) "a"
    (by rw [hattempts]; decide)
  rw [hmetrics] at hm
  obtain rfl := List.mem_singleton.1 hm
  rw [hattempts] at hcount
  exact absurd hcount (by decide)

end Page

end PageConfig
