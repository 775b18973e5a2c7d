import PageConfig.Page.Controller
import PageConfig.Proofs.Effect

/-!
# Invariants of a controller

What a page does to its controller is one of a few changes. A property that each of these
keeps is kept by every action of a page, also where a callback panics. The load that is
awaited is left out: only what gives a page its documents changes that. So is the context,
which no action changes.
-/

set_option autoImplicit false

namespace PageConfig

open Effect

variable {σ : Type}

/-- A property that each change to a controller keeps which leaves alone the held document and
what was found in it. -/
structure Controller.PeripheralInvariant (I : Controller σ → Prop) : Prop where
  shown (c : Controller σ) (renderer : Renderer σ) (h : I c) : I { c with renderer }
  given (c : Controller σ) (input : Option Value) (h : I c) : I { c with input }
  failed (c : Controller σ) (message : String) (h : I c) : I { c with status := .failed message }
  sampled (c : Controller σ) (metrics : List Metric) (h : I c) : I { c with metrics }

/-- A property that each change to a controller keeps, but for those of loads. -/
structure Controller.Invariant (I : Controller σ → Prop) : Prop
    extends Controller.PeripheralInvariant I where
  emptied (c : Controller σ) (h : I c) :
    I { c with value := none, document := none, findings := {}, status := .idle }
  replaced (c : Controller σ) (raw : Value) (options : ProcessOptions) (document : Document)
    (findings : Findings) (h : I c)
    (hdocument : Document.ofValue (raw.process options).document = .ok document) :
    I { c with
      value := some (raw.process options).document
      document := some document
      findings
      metrics := []
      status := .ready
      renderer := c.renderer.reset }
  slimmed (c : Controller σ) (value : Value) (document : Document) (h : I c)
    (hvalue : c.value = some value)
    (hdocument : Document.ofValue value.optimize = .ok document) :
    I { c with value := some value.optimize, document := some document }
  examined (c : Controller σ) (findings : Findings) (h : I c) : I { c with findings }

theorem Controller.untouched_invariant
    (I : ControllerOptions σ → Context → Option LoadTicket → UInt64 → Prop) :
    Controller.Invariant fun c : Controller σ => I c.options c.context c.pending c.issued where
  shown _ _ h := h
  given _ _ h := h
  failed _ _ h := h
  sampled _ _ h := h
  emptied _ h := h
  replaced _ _ _ _ _ h _ := h
  slimmed _ _ _ h _ _ := h
  examined _ _ h := h

namespace Controller.PeripheralInvariant

variable {I : Controller σ → Prop}

theorem adjust {f : Controller σ → Controller σ} (h : ∀ c, I c → I (f c)) :
    Ensures (fun q => I q.controller) (Page.adjust f) fun _ => True :=
  ensures_modify fun q hq => h q.controller hq

theorem call {α : Type} (e : Effect σ α) :
    Ensures (fun q => I q.controller) (Page.call e) fun _ => True :=
  ensures_within (fun _ _ hq => hq) e

theorem report (findings : Findings) :
    Ensures (fun q : Page σ => I q.controller) (Page.report findings) fun _ => True := by
  unfold Page.report
  split
  · exact ensures_pure trivial
  · apply ensures_get.bind
    intro q _
    split
    · exact call _
    · exact ensures_pure trivial

theorem onStage (h : PeripheralInvariant I) {α : Type} (e : Effect (Stage σ) α) :
    Ensures (fun q => I q.controller) (Page.onStage e) fun _ => True :=
  ensures_within (fun q s hq => h.shown q.controller s.renderer hq) e

theorem recordMetric (h : PeripheralInvariant I) (m : Metric) :
    Ensures (fun q => I q.controller) (Page.recordMetric m) fun _ => True := by
  have hkeep := adjust fun c => h.sampled c (c.keepMetric m).metrics
  apply ensures_get.bind
  intro q _
  dsimp only
  split
  · exact ensures_pure trivial
  · split
    · exact (call _).bind fun _ _ => hkeep
    · exact hkeep

variable [Clock σ]

theorem fail (h : PeripheralInvariant I) (message : String) :
    Ensures (fun q => I q.controller) (Page.fail message) fun _ => True := by
  have hstatus := adjust fun c => h.failed c message
  apply ensures_get.bind
  intro q _
  dsimp only
  split
  · apply (call _).bind
    intro time _
    exact (call _).bind fun _ _ => hstatus
  · exact hstatus

theorem render (h : PeripheralInvariant I) :
    Ensures (fun q => I q.controller) Page.render fun _ => True := by
  apply ensures_get.bind
  intro q _
  dsimp only
  split
  · apply (h.onStage _).bind
    intro output _
    exact (ensures_forM h.recordMetric _).bind fun _ _ => ensures_pure trivial
  · exact ensures_pure trivial

theorem retryNode (h : PeripheralInvariant I) (id : String) :
    Ensures (fun q => I q.controller) (Page.retryNode id) fun _ => True := by
  apply ensures_get.bind
  intro q _
  dsimp only
  split
  · exact h.onStage _
  · exact ensures_pure trivial

end Controller.PeripheralInvariant

namespace Controller.Invariant

open PeripheralInvariant

variable {I : Controller σ → Prop}

theorem revalidate (h : Invariant I) :
    Ensures (fun q => I q.controller) Page.revalidate fun _ => True := by
  apply ensures_get.bind
  intro q _
  split
  · exact (report _).bind fun _ _ => adjust fun c => h.examined c _
  · exact ensures_pure trivial

variable [Clock σ]

theorem process (h : Invariant I) (raw : Option Value) :
    Ensures (fun q => I q.controller) (Page.process raw) fun _ => True := by
  unfold Page.process
  apply (adjust fun c => h.given c raw).bind
  intro _ _
  cases raw with
  | none => exact adjust h.emptied
  | some v =>
    apply ensures_get.bind
    intro q _
    rw [ControllerOptions.prepare_eq]
    cases hdocument : Document.ofValue (v.process q.controller.options.processing).document with
    | ok document =>
      apply (report _).bind
      intro _ _
      exact adjust fun c hc => h.replaced c v _ document _ hc hdocument
    | error e => exact h.fail _

theorem optimize (h : Invariant I) :
    Ensures (fun q => I q.controller) Page.optimize fun _ => True := by
  -- what is slimmed is what is held in this very state
  intro q hq
  unfold Page.optimize
  rw [outcome_bind, outcome_get]
  dsimp only
  split
  · rename_i value hvalue
    split
    · rename_i document hdocument
      exact ⟨h.slimmed q.controller value document hq hvalue hdocument, fun _ _ => trivial⟩
    · exact h.fail _ q hq
  · exact ⟨hq, fun _ _ => trivial⟩

theorem retry (h : Invariant I) : Ensures (fun q => I q.controller) Page.retry fun _ => True :=
  ensures_get.bind fun q _ => h.process q.controller.input

section Loads

variable (hload : ∀ (c : Controller σ) (pending : Option LoadTicket) (issued : UInt64),
  I c → I { c with pending, issued })

include hload

theorem setDocument (h : Invariant I) (raw : Option Value) :
    Ensures (fun q => I q.controller) (Page.setDocument raw) fun _ => True :=
  (adjust fun c => hload c none c.issued).bind fun _ _ => h.process raw

omit [Clock σ] in
theorem beginLoad : Ensures (fun q : Page σ => I q.controller) Page.beginLoad fun _ => True :=
  fun q hq => ⟨hload q.controller _ _ hq, fun _ _ => trivial⟩

theorem finishLoad (h : Invariant I) (ticket : LoadTicket) (result : Except PageError Value) :
    Ensures (fun q => I q.controller) (Page.finishLoad ticket result) fun _ => True := by
  apply ensures_get.bind
  intro q _
  split
  · exact ensures_pure trivial
  · apply (adjust fun c => hload c none c.issued).bind
    intro _ _
    cases result with
    | ok raw => exact (h.process _).bind fun _ _ => ensures_pure trivial
    | error e => exact (h.fail _).bind fun _ _ => ensures_pure trivial

end Loads

end Controller.Invariant

end PageConfig
