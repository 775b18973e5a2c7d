import PageConfig.Proofs.Effect.Yields
import PageConfig.Proofs.Page.Reachable

/-!
# Taking documents in

What a page is given is read, the caller is told how that went, and only then does the
page change, as a whole. A panic of the callback that tells the caller comes before the
change, so it leaves the page as it was.
-/

set_option autoImplicit false

namespace PageConfig

open Effect

variable {σ : Type}

namespace Controller

def read (c : Controller σ) (given : Except PageError Value) :
    Except PageError (Held × Findings) := do
  let raw ← given
  let processed := raw.process c.options.processing
  let document ← Document.ofValue processed.document
  return ({ value := processed.document, document },
    (processed.report.map (·.toFindings)).getD {})

theorem read_error (c : Controller σ) (e : PageError) : c.read (.error e) = .error e := rfl

theorem read_eq_ok {c : Controller σ} {raw : Value} {document : Document}
    (h : Document.ofValue (raw.process c.options.processing).document = .ok document) :
    c.read (.ok raw) = .ok ({ value := (raw.process c.options.processing).document, document },
      ((raw.process c.options.processing).report.map (·.toFindings)).getD {}) := by
  change Document.ofValue _ >>= _ = _
  rw [h]
  rfl

theorem read_eq_error {c : Controller σ} {raw : Value} {e : PageError}
    (h : Document.ofValue (raw.process c.options.processing).document = .error e) :
    c.read (.ok raw) = .error e := by
  change Document.ofValue _ >>= _ = _
  rw [h]
  rfl

def tell [Clock σ] (c : Controller σ) : Except PageError (Held × Findings) → Effect σ Unit
  | .ok (_, findings) =>
    if findings.isValid then return
    else match c.options.onValidationError with
      | some onValidationError => onValidationError findings.errors
      | none => return
  | .error e =>
    match c.options.onError with
    | some onError => do onError ((c.fault e.message).told (← now))
    | none => return

theorem tell_ok [Clock σ] {c : Controller σ} (h : c.options.onValidationError = none)
    (found : Held × Findings) : c.tell (.ok found) = pure () := by
  unfold tell
  rw [h]
  exact ite_self _

def taken (c : Controller σ) : Except PageError (Held × Findings) → Controller σ
  | .ok (held, findings) =>
    { c with
      value := some held.value
      document := some held.document
      findings
      metrics := []
      status := .ready
      renderer := c.renderer.reset }
  | .error e => { c with status := .failed e.message }

/-- All that belongs to the held document is as it was. -/
structure Keeps (c c' : Controller σ) : Prop where
  value : c'.value = c.value
  document : c'.document = c.document
  findings : c'.findings = c.findings
  metrics : c'.metrics = c.metrics
  renderer : c'.renderer = c.renderer

/-- A document is held that nothing has been done with yet. -/
structure Begins (c : Controller σ) (held : Held) (findings : Findings) : Prop where
  value : c.value = some held.value
  document : c.document = some held.document
  findings : c.findings = findings
  metrics : c.metrics = []
  failures : c.renderer.failures = ∅
  retries : c.renderer.retries = ∅
  updates : c.renderer.updates = ∅
  status : c.status = .ready

theorem taken_begins (c : Controller σ) (held : Held) (findings : Findings) :
    (c.taken (.ok (held, findings))).Begins held findings :=
  ⟨rfl, rfl, rfl, rfl, rfl, rfl, rfl, rfl⟩

end Controller

namespace Page

theorem outcome_adjust (f : Controller σ → Controller σ) (q : Page σ) :
    (adjust f).outcome q = (.ok (), { q with controller := f q.controller }) := rfl

variable [Clock σ]

def intake (given : Except PageError Value) : Effect (Page σ) Unit := do
  let c := (← get).controller
  call (c.tell (c.read given))
  adjust (·.taken (c.read given))

theorem intake_outcome (given : Except PageError Value) (q : Page σ) :
    (intake given).outcome q =
      match (q.controller.tell (q.controller.read given)).outcome q.world with
      | (.ok (), world) =>
        (.ok (), { q with world, controller := q.controller.taken (q.controller.read given) })
      | (.error panic, world) => (.error panic, { q with world }) := by
  unfold intake call
  rw [outcome_bind, outcome_get]
  dsimp only
  rw [outcome_bind, outcome_within]
  rcases (q.controller.tell (q.controller.read given)).outcome q.world with ⟨panic | _, world⟩ <;>
    rfl

theorem intake_answer (given : Except PageError Value) (q : Page σ) :
    ((intake given).outcome q).1 =
      ((q.controller.tell (q.controller.read given)).outcome q.world).1 := by
  rw [intake_outcome]
  rcases (q.controller.tell (q.controller.read given)).outcome q.world with ⟨panic | _, world⟩ <;>
    rfl

theorem report_outcome (held : Held) (findings : Findings) (q : Page σ) :
    (report findings).outcome q = (call (q.controller.tell (.ok (held, findings)))).outcome q := by
  unfold report Controller.tell
  dsimp only
  split
  · rfl
  · rw [outcome_bind, outcome_get]
    dsimp only
    cases q.controller.options.onValidationError <;> rfl

theorem fail_outcome {given : Except PageError Value} {e : PageError} {q : Page σ}
    (h : q.controller.read given = .error e) :
    (fail e.message).outcome q = (intake given).outcome q := by
  unfold fail intake
  rw [outcome_bind, outcome_bind, outcome_get]
  simp only [h, Controller.tell]
  cases q.controller.options.onError <;> rfl

def noting (q : Page σ) (pending : Option LoadTicket) (input : Option Value) : Page σ :=
  { q with controller := { q.controller with pending, input } }

/-- To process a document is to note it down and to take it in. -/
theorem process_outcome (raw : Value) (q : Page σ) : (process (some raw)).outcome q =
    (intake (.ok raw)).outcome (q.noting q.controller.pending (some raw)) := by
  unfold process
  rw [outcome_bind, outcome_adjust]
  dsimp only
  rw [outcome_bind, outcome_get]
  dsimp only
  rw [ControllerOptions.prepare_eq]
  cases h : Document.ofValue (raw.process q.controller.options.processing).document with
  | ok document =>
    dsimp only [Except.map]
    unfold intake
    rw [outcome_bind, outcome_bind, outcome_get]
    dsimp only
    have hread := @Controller.read_eq_ok _ (q.noting q.controller.pending (some raw)).controller
      raw document h
    rw [hread, outcome_bind, report_outcome]
    rfl
  | error e => exact fail_outcome (Controller.read_eq_error h)

/-- The call gives the page something to take in: a document, what came of the load that is
awaited, or the document that was given last. -/
inductive Supplies (q : Page σ) : Call σ → Except PageError Value → Prop
  | setDocument (raw : Value) : Supplies q (.setDocument (some raw)) (.ok raw)
  | finishLoad (ticket : LoadTicket) (result : Except PageError Value)
    (h : q.controller.pending = some ticket) : Supplies q (.finishLoad ticket result) result
  | retry (raw : Value) (h : q.controller.input = some raw) : Supplies q .retry (.ok raw)

theorem process_eq_ok {q : Page σ} {raw : Value} {processed : Processed} {document : Document}
    (hcallback : q.controller.options.onValidationError = none)
    (hprocessed : raw.process q.controller.options.processing = processed)
    (hdocument : Document.ofValue processed.document = .ok document) :
    (process (some raw)).outcome q = (.ok (), { q with
      controller := { q.controller with
        input := some raw
        value := some processed.document
        document := some document
        findings := (processed.report.map (·.toFindings)).getD {}
        metrics := []
        status := .ready
        renderer := q.controller.renderer.reset } }) := by
  subst hprocessed
  have hread := @Controller.read_eq_ok _ (q.noting q.controller.pending (some raw)).controller
    raw document hdocument
  have htell := Controller.tell_ok
    (c := (q.noting q.controller.pending (some raw)).controller) hcallback
  rw [process_outcome, intake_outcome, hread, htell]
  rfl

theorem finishLoad_stale {q : Page σ} {ticket : LoadTicket}
    (h : q.controller.pending ≠ some ticket) (result : Except PageError Value) :
    (finishLoad ticket result).outcome q = (.ok false, q) := by
  unfold finishLoad
  rw [outcome_bind, outcome_get]
  dsimp only
  rw [if_pos h]
  rfl

theorem finishLoad_awaited {q : Page σ} {ticket : LoadTicket}
    (h : q.controller.pending = some ticket) (result : Except PageError Value) :
    ∃ input, (finishLoad ticket result).outcome q =
      (do intake result; return true).outcome (q.noting none input) := by
  unfold finishLoad
  rw [outcome_bind, outcome_get]
  dsimp only
  rw [if_neg (not_not_intro h), outcome_bind, outcome_adjust]
  cases result with
  | ok raw =>
    refine ⟨some raw, ?_⟩
    dsimp only
    rw [outcome_bind, outcome_bind, process_outcome]
    rfl
  | error e =>
    refine ⟨q.controller.input, ?_⟩
    dsimp only
    rw [outcome_bind, outcome_bind, fail_outcome (Controller.read_error _ e)]
    rfl

theorem after_supplied {q : Page σ} {c : Call σ} {given : Except PageError Value}
    (h : q.Supplies c given) : ∃ pending input, q.after c =
      ((intake given).outcome (q.noting pending input)).2 := by
  cases h with
  | setDocument raw =>
    refine ⟨none, some raw, ?_⟩
    change ((setDocument (some raw)).outcome q).2 = _
    unfold setDocument
    rw [outcome_bind, outcome_adjust]
    dsimp only
    rw [process_outcome]
    rfl
  | finishLoad ticket result hpending =>
    obtain ⟨input, hfinish⟩ := finishLoad_awaited hpending given
    refine ⟨none, input, ?_⟩
    change ((finishLoad ticket given).outcome q).2 = _
    rw [hfinish, outcome_bind]
    rcases (intake given).outcome _ with ⟨panic | _, q'⟩ <;> rfl
  | retry raw hinput =>
    refine ⟨q.controller.pending, some raw, ?_⟩
    change (retry.outcome q).2 = _
    unfold retry
    rw [outcome_bind, outcome_get]
    dsimp only
    rw [hinput, process_outcome]

/-- Nothing of what was given is taken in: it could not be loaded or read, or the callback
that is told what is wrong with it panics. -/
def Refuses (q : Page σ) (given : Except PageError Value) : Prop :=
  (∃ e, q.controller.read given = .error e) ∨
  ∃ found, q.controller.read given = .ok found ∧
    ¬ (q.controller.tell (.ok found)).Yields q.world fun _ _ => True

variable {q : Page σ} {given : Except PageError Value}

theorem intake_told {found : Except PageError (Held × Findings)}
    (hread : q.controller.read given = found)
    (h : (q.controller.tell found).Yields q.world fun _ _ => True) :
    ((intake given).outcome q).2.controller = q.controller.taken found := by
  obtain ⟨_, world, htell, -⟩ := h
  rw [intake_outcome, hread, htell]

theorem intake_untold {found : Except PageError (Held × Findings)}
    (hread : q.controller.read given = found)
    (h : ¬ (q.controller.tell found).Yields q.world fun _ _ => True) :
    ((intake given).outcome q).2.controller = q.controller := by
  rw [intake_outcome, hread]
  rcases htell : (q.controller.tell found).outcome q.world with ⟨panic | _, world⟩
  · rfl
  · exact absurd ⟨(), world, htell, trivial⟩ h

theorem intake_keeps (h : q.Refuses given) :
    q.controller.Keeps ((intake given).outcome q).2.controller := by
  rcases h with ⟨e, hread⟩ | ⟨found, hread, hpanic⟩
  · by_cases htold : (q.controller.tell (.error e)).Yields q.world fun _ _ => True
    · rw [intake_told hread htold]
      exact ⟨rfl, rfl, rfl, rfl, rfl⟩
    · rw [intake_untold hread htold]
      exact ⟨rfl, rfl, rfl, rfl, rfl⟩
  · rw [intake_untold hread hpanic]
    exact ⟨rfl, rfl, rfl, rfl, rfl⟩

theorem intake_begins (h : ¬ q.Refuses given) : ∃ held findings,
    q.controller.read given = .ok (held, findings) ∧
      ((intake given).outcome q).2.controller.Begins held findings := by
  obtain ⟨hread, htold⟩ := not_or.1 h
  rcases hfound : q.controller.read given with e | ⟨held, findings⟩
  · exact absurd ⟨e, hfound⟩ hread
  · refine ⟨held, findings, rfl, ?_⟩
    rw [intake_told hfound (not_not.1 fun hpanic => htold ⟨_, hfound, hpanic⟩)]
    exact q.controller.taken_begins held findings

/-- A page takes a document in as a whole or not at all, whatever the callbacks do. -/
theorem supplied_as_a_whole {c : Call σ} (h : q.Supplies c given) :
    (q.Refuses given → q.controller.Keeps (q.after c).controller) ∧
    (¬ q.Refuses given → ∃ held findings, q.controller.read given = .ok (held, findings) ∧
      (q.after c).controller.Begins held findings) ∧
    ∀ e, q.controller.read given = .error e →
      ((q.controller.tell (.error e)).Yields q.world (fun _ _ => True) →
        (q.after c).controller.status = .failed e.message) ∧
      (¬ (q.controller.tell (.error e)).Yields q.world (fun _ _ => True) →
        (q.after c).controller.status = q.controller.status) := by
  obtain ⟨pending, input, hafter⟩ := after_supplied h
  rw [hafter]
  -- neither reading nor telling looks at what is awaited or noted down
  refine ⟨fun hrefuses => ?_, fun haccepts => ?_,
    fun e hread => ⟨fun htold => ?_, fun hpanic => ?_⟩⟩
  · obtain ⟨hvalue, hdocument, hfindings, hmetrics, hrenderer⟩ :=
      intake_keeps (q := q.noting pending input) hrefuses
    exact ⟨hvalue, hdocument, hfindings, hmetrics, hrenderer⟩
  · exact intake_begins (q := q.noting pending input) haccepts
  · rw [intake_told (q := q.noting pending input) hread htold]
    rfl
  · rw [intake_untold (q := q.noting pending input) hread hpanic]
    rfl

def awaitingPage (onError : Failure → Effect Unit Unit) : Page Unit where
  world := ()
  registry := ∅
  controller :=
    { Controller.empty { onError := some onError } {} with
      value := some (.object [])
      document := some {}
      status := .ready
      pending := some ⟨1⟩
      issued := 1 }

theorem awaitingPage_keeps :
    (awaitingPage fun _ => throw ⟨some "reporter down"⟩).Supplies
      (.finishLoad ⟨1⟩ (.error (.internal "timeout"))) (.error (.internal "timeout")) ∧
    ∃ c', ((awaitingPage fun _ => throw ⟨some "reporter down"⟩).after
        (.finishLoad ⟨1⟩ (.error (.internal "timeout")))).controller = c' ∧
      c'.held.isSome ∧ c'.status = .ready := by
  have hsupplies : (awaitingPage fun _ => throw ⟨some "reporter down"⟩).Supplies
      (.finishLoad ⟨1⟩ (.error (.internal "timeout"))) (.error (.internal "timeout")) :=
    .finishLoad ⟨1⟩ _ rfl
  obtain ⟨hkeeps, -, hstatus⟩ := supplied_as_a_whole hsupplies
  refine ⟨hsupplies, _, rfl, ?_, ?_⟩
  · have hkept := hkeeps (.inl ⟨_, rfl⟩)
    rw [Controller.held, hkept.value, hkept.document]
    rfl
  · refine (hstatus _ rfl).2 ?_
    rintro ⟨_, _, htold, -⟩
    cases htold

end Page

end PageConfig
