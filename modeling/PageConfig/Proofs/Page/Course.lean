import PageConfig.Proofs.Page.Findings
import PageConfig.Proofs.View.Latest

/-!
# The course of a page

What a page has been through is told by its episodes: a document is taken in or put away,
the page or one node of it is shown, a sample is handed in. Each call has one episode or
none, and what the renderer remembers and which samples are kept is what these did.
-/

set_option autoImplicit false

namespace PageConfig

open Effect

variable {σ : Type}

structure ControllerOptions.Calm (o : ControllerOptions σ) : Prop where
  render : o.render.Calm
  onError : ∀ f, o.onError = some f → ∀ failure, (f failure).Returns
  onValidationError : ∀ f, o.onValidationError = some f → ∀ errors, (f errors).Returns
  onMetric : ∀ f, o.onMetric = some f → ∀ metric, (f metric).Returns

theorem ControllerOptions.Calm.rendering {o : ControllerOptions σ} (h : o.Calm) :
    o.rendering.Calm where
  onError f hf := by
    cases honError : o.render.onError with
    | none =>
      apply h.onError f
      simpa [ControllerOptions.rendering, honError] using hf
    | some g =>
      apply h.render.onError f
      simpa [ControllerOptions.rendering, honError] using hf
  onMetric := h.render.onMetric
  fallback := h.render.fallback

theorem Controller.tell_returns [Clock σ] {c : Controller σ} (h : c.options.Calm)
    (found : Except PageError (Held × Findings)) : (c.tell found).Returns := by
  rcases found with e | ⟨held, findings⟩
  · unfold Controller.tell
    cases honError : c.options.onError with
    | none => exact returns_pure ()
    | some f => exact returns_now.bind fun time => h.onError f honError _
  · unfold Controller.tell
    dsimp only
    split
    · exact returns_pure ()
    · cases honError : c.options.onValidationError with
      | none => exact returns_pure ()
      | some f => exact h.onValidationError f honError _

namespace Controller

def handed (c : Controller σ) (ms : List Metric) : Controller σ :=
  { c with
    metrics := if c.options.enablePerformanceTracking then ms.foldl Metric.keep c.metrics
      else c.metrics }

variable {c : Controller σ}

theorem handed_tracked (h : c.options.enablePerformanceTracking = true) (ms : List Metric) :
    c.handed ms = { c with metrics := ms.foldl Metric.keep c.metrics } := by
  rw [handed, h]
  rfl

theorem handed_untracked (h : c.options.enablePerformanceTracking = false) (ms : List Metric) :
    c.handed ms = c := by
  rw [handed, h]
  rfl

theorem handed_nil (c : Controller σ) : c.handed [] = c := by
  rw [handed, List.foldl_nil, ite_self]

theorem handed_cons (c : Controller σ) (m : Metric) (ms : List Metric) :
    c.handed (m :: ms) = (c.handed [m]).handed ms := by
  cases h : c.options.enablePerformanceTracking with
  | false => rw [handed_untracked h, handed_untracked h, handed_untracked h]
  | true =>
    have h' : (c.handed [m]).options.enablePerformanceTracking = true := h
    rw [handed_tracked h, handed_tracked h', handed_tracked h]
    rfl

end Controller

namespace History

theorem sinceReset_append (log : History) {es : History} (h : ∀ e ∈ es, e.isReset = false) :
    sinceReset (log ++ es) = log.sinceReset ++ es := by
  induction es generalizing log with
  | nil => rw [List.append_nil, List.append_nil]
  | cons e es ih =>
    obtain ⟨he, hes⟩ := List.forall_mem_cons.1 h
    rw [List.append_cons, ih _ hes, sinceReset_concat _ he, ← List.append_cons]

theorem attempts_append (log es : History) (id : String) :
    attempts (log ++ es) id = log.attempts id + es.attempts id := List.countP_append

end History

/-- What a call is to the nodes of a page and to their samples. -/
inductive Episode where
  | taken
  | cleared
  | shown (output : Output) (events : History)
  | retried (events : History)
  | recorded (m : Metric)

namespace Episode

def events : Episode → History
  | taken => [.reset]
  | shown _ events | retried events => events
  | _ => []

def samples : Episode → List Metric
  | shown output _ => output.metrics
  | recorded m => [m]
  | _ => []

def isTaken : Episode → Bool
  | taken => true
  | _ => false

end Episode

abbrev Course := List Episode

namespace Course

def events (course : Course) : History := course.flatMap Episode.events

def stream (course : Course) : List Metric :=
  (course.rtakeWhile fun e => !e.isTaken).flatMap Episode.samples

def attempts (course : Course) (id : String) : Nat := course.events.sinceReset.attempts id

def retries (course : Course) (id : String) : Nat := course.events.sinceReset.retries id

variable (course : Course) (e : Episode)

theorem events_concat : events (course ++ [e]) = course.events ++ e.events := by
  rw [events, List.flatMap_append, List.flatMap_singleton]
  rfl

theorem stream_concat {e : Episode} (h : e.isTaken = false) :
    stream (course ++ [e]) = course.stream ++ e.samples := by
  have hstill : (course ++ [e]).rtakeWhile (fun e => !e.isTaken) =
      course.rtakeWhile (fun e => !e.isTaken) ++ [e] :=
    List.rtakeWhile_concat_pos _ _ _ (by rw [h]; rfl)
  rw [stream, hstill, List.flatMap_append, List.flatMap_singleton]
  rfl

theorem stream_taken : stream (course ++ [.taken]) = [] := by
  rw [stream, List.rtakeWhile_concat_neg _ _ _ Bool.false_ne_true]
  rfl

end Course

namespace Page

def stage (q : Page σ) : Stage σ where
  world := q.world
  registry := q.registry
  renderer := q.controller.renderer

def staged (q : Page σ) (s : Stage σ) : Page σ where
  world := s.world
  registry := s.registry
  controller := { q.controller with renderer := s.renderer }

theorem onStage_outcome {α : Type} (e : Effect (Stage σ) α) (q : Page σ) :
    (onStage e).outcome q = ((e.outcome q.stage).1, q.staged (e.outcome q.stage).2) := rfl

/-- The call puts the held document away. -/
inductive Clears (q : Page σ) : Call σ → Prop
  | setDocument : Clears q (.setDocument none)
  | retry (h : q.controller.input = none) : Clears q .retry

/-- The call is nothing to the nodes of the page. -/
inductive Idles (q : Page σ) : Call σ → Prop
  | refused {c : Call σ} {given : Except PageError Value} {e : PageError} (h : q.Supplies c given)
    (hread : q.controller.read given = .error e) : Idles q c
  | stale {ticket : LoadTicket} (h : q.controller.pending ≠ some ticket)
    (result : Except PageError Value) : Idles q (.finishLoad ticket result)
  | beginLoad : Idles q .beginLoad
  | revalidate : Idles q .revalidate
  | optimize : Idles q .optimize
  | render (h : q.controller.document = none) : Idles q .render
  | retryNode (h : q.controller.document = none) (id : String) : Idles q (.retryNode id)
  | updateContext (update : Context) : Idles q (.updateContext update)
  | resize (width height : Nat) : Idles q (.resize width height)
  | setHost (host : Host) : Idles q (.setHost host)

inductive Does (q : Page σ) : Call σ → Prop
  | takes {c : Call σ} {given : Except PageError Value} {found : Held × Findings}
    (h : q.Supplies c given) (hread : q.controller.read given = .ok found) : Does q c
  | clears {c : Call σ} (h : q.Clears c) : Does q c
  | idles {c : Call σ} (h : q.Idles c) : Does q c
  | shows {d : Document} (h : q.controller.document = some d) : Does q .render
  | retries {d : Document} (h : q.controller.document = some d) (id : String) :
    Does q (.retryNode id)
  | records (m : Metric) : Does q (.recordMetric m)

theorem Supplies.does {q : Page σ} {c : Call σ} {given : Except PageError Value}
    (h : q.Supplies c given) : q.Does c := by
  cases hread : q.controller.read given with
  | error e => exact .idles (.refused h hread)
  | ok found => exact .takes h hread

theorem does (q : Page σ) (c : Call σ) : q.Does c := by
  cases c with
  | setDocument raw =>
    cases raw with
    | none => exact .clears .setDocument
    | some raw => exact (Supplies.setDocument raw).does
  | beginLoad => exact .idles .beginLoad
  | finishLoad ticket result =>
    by_cases h : q.controller.pending = some ticket
    · exact (Supplies.finishLoad ticket result h).does
    · exact .idles (.stale h result)
  | revalidate => exact .idles .revalidate
  | optimize => exact .idles .optimize
  | retry =>
    cases h : q.controller.input with
    | none => exact .clears (.retry h)
    | some raw => exact (Supplies.retry raw h).does
  | recordMetric m => exact .records m
  | render =>
    cases h : q.controller.document with
    | none => exact .idles (.render h)
    | some d => exact .shows h
  | retryNode id =>
    cases h : q.controller.document with
    | none => exact .idles (.retryNode h id)
    | some d => exact .retries h id
  | updateContext update => exact .idles (.updateContext update)
  | resize width height => exact .idles (.resize width height)
  | setHost host => exact .idles (.setHost host)

variable [Clock σ]

/-- The episodes of a call. Where nodes are shown, no loader panics. -/
inductive Tells (q : Page σ) : Call σ → Course → Prop
  | taken {c : Call σ} {given : Except PageError Value} {found : Held × Findings}
    (h : q.Supplies c given) (hread : q.controller.read given = .ok found) : Tells q c [.taken]
  | cleared {c : Call σ} (h : q.Clears c) : Tells q c [.cleared]
  | idle {c : Call σ} (h : q.Idles c) : Tells q c []
  | shown {d : Document} {output : Output} {es : List Event} (hloaders : q.registry.Calm)
    (hdocument : q.controller.document = some d)
    (hanswer : (render.outcome q).1 = .ok (some output))
    (hes : q.controller.renderer.Records
      (.render q.world q.registry d q.controller.context) es) : Tells q .render [.shown output es]
  | retried {d : Document} {es : List Event} {id : String} (hloaders : q.registry.Calm)
    (hdocument : q.controller.document = some d)
    (hes : q.controller.renderer.Records
      (.retry q.world q.registry d q.controller.context id) es) :
    Tells q (.retryNode id) [.retried es]
  | recorded (m : Metric) : Tells q (.recordMetric m) [.recorded m]

/-- The page was reached on this course. -/
inductive Reached : Course → Page σ → Prop
  | start {p q : Page σ} (options : ControllerOptions σ) (context : Context)
    (initial : Option Value) (h : (Page.start options context initial).outcome p = (.ok (), q)) :
    Reached [] q
  | call {course told : Course} {q : Page σ} {c : Call σ} (h : Reached course q)
    (htold : q.Tells c told) : Reached (course ++ told) (q.after c)
  | outside {course : Course} {q : Page σ} (world : σ) (registry : Registry σ)
    (h : Reached course q) : Reached course { q with world, registry }

theorem options_after (q : Page σ) (c : Call σ) :
    (q.after c).controller.options = q.controller.options :=
  after_invariant (Controller.options_invariant q.controller.options) (fun _ _ _ _ h => h) rfl c

variable {q : Page σ} {c : Call σ}

theorem calm_after (h : q.controller.options.Calm) (c : Call σ) :
    (q.after c).controller.options.Calm := by
  rw [options_after]
  exact h

theorem fail_keeps (q : Page σ) (e : PageError) :
    q.controller.Keeps ((fail e.message).outcome q).2.controller := by
  rw [fail_outcome (Controller.read_error _ e)]
  exact intake_keeps (.inl ⟨e, Controller.read_error _ e⟩)

theorem optimize_rests (q : Page σ) :
    (optimize.outcome q).2.controller.metrics = q.controller.metrics ∧
      (optimize.outcome q).2.controller.renderer = q.controller.renderer := by
  cases hvalue : q.controller.value with
  | none =>
    rw [optimize_nothing hvalue]
    exact ⟨rfl, rfl⟩
  | some value =>
    cases hslim : Document.ofValue value.optimize with
    | ok slim =>
      rw [optimize_held hvalue hslim]
      exact ⟨rfl, rfl⟩
    | error e =>
      rw [optimize_fails hvalue hslim]
      exact ⟨(fail_keeps q e).metrics, (fail_keeps q e).renderer⟩

omit [Clock σ] in
theorem revalidate_rests (q : Page σ) :
    (revalidate.outcome q).2.controller.metrics = q.controller.metrics ∧
      (revalidate.outcome q).2.controller.renderer = q.controller.renderer := by
  cases hvalue : q.controller.value with
  | none =>
    unfold revalidate
    rw [outcome_bind, outcome_get]
    dsimp only
    rw [hvalue]
    exact ⟨rfl, rfl⟩
  | some value =>
    rw [revalidate_held hvalue]
    cases (revalidate.outcome q).1 <;> exact ⟨rfl, rfl⟩

theorem render_nothing (h : q.controller.document = none) : render.outcome q = (.ok none, q) := by
  unfold render
  rw [outcome_bind, outcome_get]
  dsimp only
  rw [h]
  rfl

theorem retryNode_nothing (h : q.controller.document = none) (id : String) :
    (retryNode id).outcome q = (.ok none, q) := by
  unfold retryNode
  rw [outcome_bind, outcome_get]
  dsimp only
  rw [h]
  rfl

theorem retry_nothing (h : q.controller.input = none) :
    retry.outcome q = (process none).outcome q := by
  unfold retry
  rw [outcome_bind, outcome_get]
  dsimp only
  rw [h]

/-- Only the host can be another one after a call that is nothing to the nodes. -/
theorem Idles.rests (h : q.Idles c) :
    (q.after c).controller.metrics = q.controller.metrics ∧
      ∃ host, (q.after c).controller.renderer = q.controller.renderer.setHost host := by
  have hsame {c' : Controller σ} (hmetrics : c'.metrics = q.controller.metrics)
      (hrenderer : c'.renderer = q.controller.renderer) :
      c'.metrics = q.controller.metrics ∧
        ∃ host, c'.renderer = q.controller.renderer.setHost host :=
    ⟨hmetrics, q.controller.renderer.options.host, hrenderer⟩
  cases h with
  | refused h hread =>
    obtain ⟨pending, input, hafter⟩ := after_supplied h
    have hkeeps := intake_keeps (q := q.noting pending input) (.inl ⟨_, hread⟩)
    rw [hafter]
    exact hsame hkeeps.metrics hkeeps.renderer
  | stale h result =>
    have hafter : q.after (.finishLoad _ result) = q :=
      congrArg Prod.snd (finishLoad_stale h result)
    rw [hafter]
    exact hsame rfl rfl
  | beginLoad => exact hsame rfl rfl
  | revalidate => exact hsame (revalidate_rests q).1 (revalidate_rests q).2
  | optimize => exact hsame (optimize_rests q).1 (optimize_rests q).2
  | render h =>
    rw [after, render_nothing h]
    exact hsame rfl rfl
  | retryNode h id =>
    rw [after, retryNode_nothing h id]
    exact hsame rfl rfl
  | updateContext update => exact hsame rfl rfl
  | resize width height => exact ⟨rfl, _, rfl⟩
  | setHost host => exact ⟨rfl, host, rfl⟩

theorem Clears.leaves (h : q.Clears c) : (q.after c).controller.document = none ∧
    (q.after c).controller.metrics = q.controller.metrics ∧
    (q.after c).controller.renderer = q.controller.renderer := by
  cases h with
  | setDocument => exact ⟨rfl, rfl, rfl⟩
  | retry h =>
    rw [after, retry_nothing h]
    exact ⟨rfl, rfl, rfl⟩

theorem Supplies.begins_or_keeps {given : Except PageError Value} (h : q.Supplies c given) :
    (∃ held findings, (q.after c).controller.Begins held findings) ∨
      (q.after c).controller.metrics = q.controller.metrics := by
  obtain ⟨pending, input, hafter⟩ := after_supplied h
  rw [hafter]
  by_cases hrefuses : (q.noting pending input).Refuses given
  · exact .inr (intake_keeps hrefuses).metrics
  · obtain ⟨held, findings, -, hbegins⟩ := intake_begins hrefuses
    exact .inl ⟨held, findings, hbegins⟩

theorem Supplies.begins {given : Except PageError Value} {held : Held} {findings : Findings}
    (h : q.Supplies c given) (hcalm : q.controller.options.Calm)
    (hread : q.controller.read given = .ok (held, findings)) :
    (q.after c).controller.Begins held findings ∧
      (q.after c).controller.renderer = q.controller.renderer.reset := by
  obtain ⟨pending, input, hafter⟩ := after_supplied h
  have htold := intake_told (q := q.noting pending input) hread
    (Controller.tell_returns hcalm (.ok (held, findings)) q.world)
  rw [hafter, htold]
  exact ⟨Controller.taken_begins _ held findings, rfl⟩

omit [Clock σ] in
theorem recordMetric_yields (hcalm : q.controller.options.Calm) (m : Metric) :
    (recordMetric m).Yields q fun _ t =>
      ∃ world, t = { q with world, controller := q.controller.handed [m] } := by
  unfold recordMetric
  apply yields_get_bind
  dsimp only
  cases htracking : q.controller.options.enablePerformanceTracking with
  | false => exact yields_pure ⟨q.world, by rw [Controller.handed_untracked htracking]⟩
  | true =>
    have hkeep (world : σ) : (adjust (·.keepMetric m)).Yields { q with world }
        fun _ t => ∃ world, t = { q with world, controller := q.controller.handed [m] } :=
      ⟨(), _, rfl, world, by rw [Controller.handed_tracked htracking]; rfl⟩
    rw [if_neg (by decide)]
    split
    · rename_i onMetric honMetric
      have hcall : (call (onMetric m)).Yields q fun _ t => ∃ world, t = { q with world } :=
        (hcalm.onMetric onMetric honMetric m q.world).within fun _ world _ => ⟨world, rfl⟩
      apply hcall.bind
      rintro _ _ - ⟨world, rfl⟩
      exact hkeep world
    · exact hkeep q.world

omit [Clock σ] in
theorem forM_recordMetric_yields (hcalm : q.controller.options.Calm) (ms : List Metric) :
    (ms.forM recordMetric).Yields q fun _ t =>
      ∃ world, t = { q with world, controller := q.controller.handed ms } := by
  induction ms generalizing q with
  | nil => exact yields_pure ⟨q.world, by rw [Controller.handed_nil]⟩
  | cons m ms ih =>
    apply (recordMetric_yields hcalm m).bind
    rintro _ _ - ⟨world, rfl⟩
    rw [Controller.handed_cons q.controller m ms]
    exact ih (q := { q with world, controller := q.controller.handed [m] }) hcalm

theorem render_yields {d : Document} {output : Output} {s : Stage σ}
    (hdocument : q.controller.document = some d) (hcalm : q.controller.options.Calm)
    (hstage : (Stage.render d q.controller.context).outcome q.stage = (.ok output, s)) :
    render.Yields q fun answer t => answer = some output ∧
      t.controller = (q.staged s).controller.handed output.metrics := by
  have hshown : (onStage (Stage.render d q.controller.context)).outcome q =
      (.ok output, q.staged s) := by
    rw [onStage_outcome, hstage]
  have hsteps : render.outcome q = (do
      let output ← onStage (Stage.render d q.controller.context)
      output.metrics.forM recordMetric
      return some output).outcome q := by
    unfold render
    rw [outcome_bind, outcome_get]
    dsimp only
    rw [hdocument]
  have hhanded : Effect.Yields (do
      output.metrics.forM recordMetric
      return some output) (q.staged s) fun answer t => answer = some output ∧
        t.controller = (q.staged s).controller.handed output.metrics := by
    apply (forM_recordMetric_yields (q := q.staged s) hcalm output.metrics).bind
    rintro _ _ - ⟨world, rfl⟩
    exact yields_pure ⟨rfl, rfl⟩
  rw [Yields, hsteps, outcome_bind_of_ok hshown]
  exact hhanded

theorem retryNode_outcome {d : Document} (hdocument : q.controller.document = some d)
    (id : String) : ((retryNode id).outcome q).2 =
      q.staged ((Stage.retry d q.controller.context id).outcome q.stage).2 := by
  have hsteps : (retryNode id).outcome q =
      (onStage (Stage.retry d q.controller.context id)).outcome q := by
    unfold retryNode
    rw [outcome_bind, outcome_get]
    dsimp only
    rw [hdocument]
  rw [hsteps, onStage_outcome]

theorem start_fresh {p : Page σ} {options : ControllerOptions σ} {context : Context}
    {initial : Option Value} (h : (start options context initial).outcome p = (.ok (), q)) :
    q.controller.options = options ∧ q.controller.metrics = [] ∧
      q.controller.renderer = { options := options.rendering } := by
  rw [outcome_start] at h
  have hq : q.controller =
      ((process initial).outcome { p with controller := .empty options context }).2.controller := by
    rw [h]
  rw [hq]
  cases initial with
  | none => exact ⟨rfl, rfl, rfl⟩
  | some raw =>
    rw [process_outcome, intake_outcome]
    rcases (Controller.tell _ _).outcome _ with ⟨panic | _, world⟩
    · exact ⟨rfl, rfl, rfl⟩
    · rcases Controller.read _ (.ok raw) with e | ⟨held, findings⟩ <;> exact ⟨rfl, rfl, rfl⟩

end Page

/-- The renderer remembers the course, and of the samples the latest ones are kept. -/
structure Controller.Follows (c : Controller σ) (course : Course) : Prop where
  calm : c.renderer.options.Calm
  remembers : c.renderer.Remembers course.events
  fits : course.events.Fits σ
  metrics : c.options.enablePerformanceTracking → c.metrics = Metric.latest course.stream

namespace Controller.Follows

variable {c c' : Controller σ} {course : Course}

theorem of_idle (h : c.Follows course) (hoptions : c'.options = c.options)
    (hmetrics : c'.metrics = c.metrics) {host : Host}
    (hrenderer : c'.renderer = c.renderer.setHost host) : c'.Follows course where
  calm := by
    rw [hrenderer]
    exact ⟨h.calm.onError, h.calm.onMetric, h.calm.fallback⟩
  remembers := by
    rw [hrenderer]
    exact h.remembers.withOptions _
  fits := h.fits
  metrics := by
    rw [hoptions, hmetrics]
    exact h.metrics

theorem concat (h : c.Follows course) {e : Episode} (he : e.isTaken = false)
    (hoptions : c'.options = c.options) (hcalm : c'.renderer.options.Calm)
    (hremembers : c'.renderer.Remembers (course.events ++ e.events))
    (hfits : History.Fits σ (course.events ++ e.events))
    (hmetrics : c.options.enablePerformanceTracking →
      c'.metrics = e.samples.foldl Metric.keep c.metrics) : c'.Follows (course ++ [e]) where
  calm := hcalm
  remembers := Course.events_concat course e ▸ hremembers
  fits := Course.events_concat course e ▸ hfits
  metrics := by
    intro htracking
    rw [hoptions] at htracking
    rw [hmetrics htracking, h.metrics htracking, Course.stream_concat _ he, Metric.latest_append]

theorem of_quiet (h : c.Follows course) {e : Episode} (he : e.isTaken = false)
    (hevents : e.events = []) (hoptions : c'.options = c.options)
    (hrenderer : c'.renderer = c.renderer)
    (hmetrics : c.options.enablePerformanceTracking →
      c'.metrics = e.samples.foldl Metric.keep c.metrics) : c'.Follows (course ++ [e]) := by
  have hnone : course.events ++ e.events = course.events := by rw [hevents, List.append_nil]
  apply h.concat he hoptions _ _ _ hmetrics
  · rw [hrenderer]
    exact h.calm
  · rw [hrenderer, hnone]
    exact h.remembers
  · rw [hnone]
    exact h.fits

theorem of_taken (h : c.Follows course) (hmetrics : c'.metrics = [])
    (hrenderer : c'.renderer = c.renderer.reset) : c'.Follows (course ++ [.taken]) where
  calm := by
    rw [hrenderer]
    exact h.calm
  remembers := by
    rw [hrenderer, Course.events_concat]
    exact Renderer.Remembers.reset _ _
  fits := by
    rw [Course.events_concat]
    exact h.fits.concat nofun
  metrics := by
    intro _
    rw [hmetrics, Course.stream_taken]
    rfl

end Controller.Follows

namespace Page

variable [Clock σ] {q : Page σ} {c : Call σ} {course told : Course} {d : Document}

theorem after_render {output : Output} {es : List Event}
    (hdocument : q.controller.document = some d) (hcalm : q.controller.options.Calm)
    (hrenderer : q.controller.renderer.options.Calm) (hloaders : q.registry.Calm)
    (hanswer : (render.outcome q).1 = .ok (some output))
    (hes : q.controller.renderer.Records
      (.render q.world q.registry d q.controller.context) es) :
    (q.after .render).controller = Controller.handed { q.controller with
      renderer := q.controller.renderer.after
        (.render q.world q.registry d q.controller.context) } output.metrics ∧
    ∃ vs, es = vs.map .visit ∧ Visit.AllFit q.controller.renderer vs ∧
      q.controller.renderer.after (.render q.world q.registry d q.controller.context) =
        vs.foldl Visit.act q.controller.renderer ∧
      output.metrics = vs.filterMap Visit.metric? := by
  cases hes with
  | @render _ _ _ _ output' vs t hrender hvisits hmetrics =>
    obtain ⟨houtput, hcontroller⟩ := (render_yields hdocument hcalm hrender).of_outcome
      (Prod.ext hanswer rfl)
    obtain rfl := Option.some.inj houtput
    obtain ⟨hfit, hbecomes⟩ := hvisits.becomes ⟨hrenderer, hloaders⟩
    have hafter : q.controller.renderer.after
        (.render q.world q.registry d q.controller.context) = t.renderer := by
      rw [Renderer.after, hrender]
    refine ⟨?_, vs, rfl, hfit, ?_, ?_⟩
    · rw [hafter]
      exact hcontroller
    · rw [hafter]
      exact hbecomes.renderer
    · rw [hmetrics]
      exact hbecomes.metrics

theorem after_retryNode (hdocument : q.controller.document = some d) (id : String) :
    (q.after (.retryNode id)).controller = { q.controller with
      renderer := q.controller.renderer.after
        (.retry q.world q.registry d q.controller.context id) } := by
  rw [after, retryNode_outcome hdocument]
  rfl

theorem after_recordMetric (hcalm : q.controller.options.Calm) (m : Metric) :
    (q.after (.recordMetric m)).controller = q.controller.handed [m] := by
  obtain ⟨_, _, hrecord, world, rfl⟩ := recordMetric_yields hcalm m
  rw [after, hrecord]

theorem Tells.follows (h : q.Tells c told) (hcalm : q.controller.options.Calm)
    (hfollows : q.controller.Follows course) : (q.after c).controller.Follows (course ++ told) := by
  have hoptions := options_after q c
  cases h with
  | taken hsupplies hread =>
    obtain ⟨hbegins, hrenderer⟩ := hsupplies.begins hcalm hread
    exact hfollows.of_taken hbegins.metrics hrenderer
  | cleared hclears =>
    obtain ⟨-, hmetrics, hrenderer⟩ := hclears.leaves
    exact hfollows.of_quiet rfl rfl hoptions hrenderer fun _ => hmetrics
  | idle hidles =>
    obtain ⟨hmetrics, host, hrenderer⟩ := hidles.rests
    rw [List.append_nil]
    exact hfollows.of_idle hoptions hmetrics hrenderer
  | @shown d output es hloaders hdocument hanswer hes =>
    have hact : (Renderer.Act.render q.world q.registry d q.controller.context).Calm := hloaders
    obtain ⟨hremembers, hfits⟩ := hfollows.remembers.act hfollows.fits hfollows.calm hact hes
    obtain ⟨-, hstill⟩ := Renderer.exists_records hfollows.calm hact
    obtain ⟨hcontroller, -⟩ := after_render hdocument hcalm hfollows.calm hloaders hanswer hes
    rw [hcontroller] at hoptions ⊢
    apply hfollows.concat (e := .shown output es) rfl hoptions hstill hremembers hfits
    intro htracking
    exact congrArg Controller.metrics (Controller.handed_tracked htracking _)
  | @retried d es id hloaders hdocument hes =>
    have hact : (Renderer.Act.retry q.world q.registry d q.controller.context id).Calm := hloaders
    obtain ⟨hremembers, hfits⟩ := hfollows.remembers.act hfollows.fits hfollows.calm hact hes
    obtain ⟨-, hstill⟩ := Renderer.exists_records hfollows.calm hact
    rw [after_retryNode hdocument] at hoptions ⊢
    exact hfollows.concat (e := .retried es) rfl hoptions hstill hremembers hfits fun _ => rfl
  | recorded m =>
    rw [after_recordMetric hcalm] at hoptions ⊢
    apply hfollows.of_quiet rfl rfl hoptions rfl
    intro htracking
    exact congrArg Controller.metrics (Controller.handed_tracked htracking _)

theorem Reached.follows (h : Reached course q) (hcalm : q.controller.options.Calm) :
    q.controller.Follows course := by
  induction h with
  | start options context initial h =>
    obtain ⟨hoptions, hmetrics, hrenderer⟩ := start_fresh h
    rw [hoptions] at hcalm
    refine ⟨?_, ?_, .nil, fun _ => hmetrics⟩
    · rw [hrenderer]
      exact hcalm.rendering
    · rw [hrenderer]
      exact .new _
  | @call course told q c hreached htold ih =>
    rw [options_after] at hcalm
    exact htold.follows hcalm (ih hcalm)
  | outside world registry _ ih => exact ih hcalm

theorem exists_tells (hcalm : q.controller.options.Calm)
    (hrenderer : q.controller.renderer.options.Calm) (hloaders : q.registry.Calm) (c : Call σ) :
    ∃ told, q.Tells c told := by
  cases q.does c with
  | takes h hread => exact ⟨_, .taken h hread⟩
  | clears h => exact ⟨_, .cleared h⟩
  | idles h => exact ⟨_, .idle h⟩
  | @shows d hdocument =>
    obtain ⟨⟨es, hes⟩, -⟩ := Renderer.exists_records hrenderer
      (a := .render q.world q.registry d q.controller.context) hloaders
    cases id hes with
    | render hrender =>
      obtain ⟨_, _, hanswer, rfl, -⟩ := render_yields hdocument hcalm hrender
      exact ⟨_, .shown hloaders hdocument (congrArg Prod.fst hanswer) hes⟩
  | @retries d hdocument id =>
    obtain ⟨⟨es, hes⟩, -⟩ := Renderer.exists_records hrenderer
      (a := .retry q.world q.registry d q.controller.context id) hloaders
    exact ⟨_, .retried hloaders hdocument hes⟩
  | records m => exact ⟨_, .recorded m⟩

/-- Where neither a callback nor a loader panics, the course of a page can be told. -/
theorem ReachableWith.exists_course (h : q.ReachableWith Registry.Calm)
    (hcalm : q.controller.options.Calm) : ∃ course, Reached course q := by
  induction h with
  | start options context initial h => exact ⟨[], .start options context initial h⟩
  | @call q c _ hloaders ih =>
    rw [options_after] at hcalm
    obtain ⟨course, hcourse⟩ := ih hcalm
    obtain ⟨told, htold⟩ := exists_tells hcalm (hcourse.follows hcalm).calm hloaders c
    exact ⟨_, hcourse.call htold⟩
  | outside world registry _ ih =>
    obtain ⟨course, hcourse⟩ := ih hcalm
    exact ⟨course, hcourse.outside world registry⟩

end Page

end PageConfig
