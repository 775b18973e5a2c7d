import PageConfig.Proofs.Page.Held
import PageConfig.Proofs.Raw.Findings

/-!
# What a page has found in the document it holds

A document is examined when it is taken in, before it is slimmed, and again when the page is
asked to. Slimming does not examine again: what was found may be out of date from then on,
but only where the components were written as neither a list nor null.
-/

set_option autoImplicit false

namespace PageConfig

open Effect

variable {σ : Type}

namespace Controller

inductive Turns (c c' : Controller σ) : Prop
  | kept (hvalue : c'.value = c.value) (hfindings : c'.findings = c.findings)
  | emptied (hvalue : c'.value = none)
  | replaced (raw : Value) (hvalue : c'.value = some (raw.process c.options.processing).document)
    (hfindings : c'.findings =
      ((raw.process c.options.processing).report.map (·.toFindings)).getD {})
  | examined (value : Value) (hheld : c.value = some value) (hvalue : c'.value = some value)
    (hfindings : c'.findings = value.validate.toFindings)
  | slimmed (value : Value) (hheld : c.value = some value)
    (hvalue : c'.value = some value.optimize) (hfindings : c'.findings = c.findings)

theorem keeps_invariant (value : Option Value) (findings : Findings) :
    PeripheralInvariant fun c : Controller σ => c.value = value ∧ c.findings = findings where
  shown _ _ h := h
  given _ _ h := h
  failed _ _ h := h
  sampled _ _ h := h

theorem options_invariant (options : ControllerOptions σ) :
    Invariant fun c : Controller σ => c.options = options :=
  untouched_invariant fun o _ _ _ => o = options

end Controller

namespace Page

theorem turns_of_keeps {α : Type} {e : Effect (Page σ) α} (q : Page σ)
    (h : ∀ value findings, Ensures (fun q : Page σ => q.controller.value = value ∧
      q.controller.findings = findings) e fun _ => True) :
    q.controller.Turns (e.outcome q).2.controller := by
  obtain ⟨⟨hvalue, hfindings⟩, -⟩ := h q.controller.value q.controller.findings q ⟨rfl, rfl⟩
  exact .kept hvalue hfindings

/-- Unless the callback that is told of the errors panics, the held document is examined again. -/
theorem revalidate_held {q : Page σ} {value : Value} (hvalue : q.controller.value = some value) :
    (revalidate.outcome q).2.controller = match (revalidate.outcome q).1 with
      | .ok () => { q.controller with findings := value.validate.toFindings }
      | .error _ => q.controller := by
  have hreport := (Controller.PeripheralInvariant.report (I := fun c => c = q.controller)
    value.validate.toFindings q rfl).1
  have hsteps : revalidate.outcome q = (do
      report value.validate.toFindings
      adjust fun c => { c with findings := value.validate.toFindings }).outcome q := by
    unfold revalidate
    rw [outcome_bind, outcome_get]
    dsimp only
    rw [hvalue]
  rw [hsteps, outcome_bind]
  rcases houtcome : (report value.validate.toFindings).outcome q with ⟨panic | ⟨⟩, t⟩
  · rw [houtcome] at hreport
    exact hreport
  · rw [houtcome] at hreport
    exact congrArg (fun c => { c with findings := value.validate.toFindings }) hreport

theorem revalidate_turns (q : Page σ) :
    q.controller.Turns (revalidate.outcome q).2.controller := by
  cases hvalue : q.controller.value with
  | none =>
    unfold revalidate
    rw [outcome_bind, outcome_get]
    dsimp only
    rw [hvalue]
    exact .kept rfl rfl
  | some value =>
    rw [revalidate_held hvalue]
    cases (revalidate.outcome q).1 with
    | ok => exact .examined value hvalue hvalue rfl
    | error panic => exact .kept rfl rfl

variable [Clock σ]

theorem intake_turns (given : Except PageError Value) (q : Page σ) (pending : Option LoadTicket)
    (input : Option Value) :
    q.controller.Turns ((intake given).outcome (q.noting pending input)).2.controller := by
  -- what is noted down is not looked at
  have hread : (q.noting pending input).controller.read given = q.controller.read given := rfl
  rw [intake_outcome, hread]
  rcases ((q.noting pending input).controller.tell (q.controller.read given)).outcome
    (q.noting pending input).world with ⟨panic | _, world⟩
  · exact .kept rfl rfl
  · dsimp only
    rcases given with e | raw
    · exact .kept rfl rfl
    · cases hdocument : Document.ofValue (raw.process q.controller.options.processing).document with
      | ok document =>
        rw [Controller.read_eq_ok hdocument]
        exact .replaced raw rfl rfl
      | error e =>
        rw [Controller.read_eq_error hdocument]
        exact .kept rfl rfl

theorem process_turns (raw : Option Value) (q : Page σ) :
    q.controller.Turns ((process raw).outcome q).2.controller := by
  cases raw with
  | none => exact .emptied rfl
  | some v =>
    rw [process_outcome]
    exact intake_turns (.ok v) q q.controller.pending (some v)

theorem optimize_turns (q : Page σ) : q.controller.Turns (optimize.outcome q).2.controller := by
  cases hvalue : q.controller.value with
  | none =>
    rw [optimize_nothing hvalue]
    exact .kept rfl rfl
  | some value =>
    cases hslim : Document.ofValue value.optimize with
    | ok slim =>
      rw [optimize_held hvalue hslim]
      exact .slimmed value hvalue rfl rfl
    | error e =>
      rw [optimize_fails hvalue hslim]
      exact turns_of_keeps q fun _ _ => (Controller.keeps_invariant _ _).fail _

theorem supplied_turns {q : Page σ} {c : Call σ} {given : Except PageError Value}
    (h : q.Supplies c given) : q.controller.Turns (q.after c).controller := by
  obtain ⟨pending, input, hafter⟩ := after_supplied h
  rw [hafter]
  exact intake_turns given q pending input

theorem after_turns (q : Page σ) (c : Call σ) : q.controller.Turns (q.after c).controller := by
  cases c with
  | setDocument raw =>
    cases raw with
    | none => exact .emptied rfl
    | some raw => exact supplied_turns (.setDocument raw)
  | beginLoad => exact .kept rfl rfl
  | finishLoad ticket result =>
    by_cases hpending : q.controller.pending = some ticket
    · exact supplied_turns (.finishLoad ticket result hpending)
    · have hstale : q.after (.finishLoad ticket result) = q :=
        congrArg Prod.snd (finishLoad_stale hpending result)
      rw [hstale]
      exact .kept rfl rfl
  | revalidate => exact revalidate_turns q
  | optimize => exact optimize_turns q
  | retry => exact process_turns q.controller.input q
  | recordMetric m =>
    exact turns_of_keeps q fun _ _ => (Controller.keeps_invariant _ _).recordMetric m
  | render => exact turns_of_keeps q fun _ _ => (Controller.keeps_invariant _ _).render
  | retryNode id =>
    exact turns_of_keeps q fun _ _ => (Controller.keeps_invariant _ _).retryNode id
  | updateContext update => exact .kept rfl rfl
  | resize width height => exact .kept rfl rfl
  | setHost host => exact .kept rfl rfl

end Page

/-- The document was examined in the shape it is held in, or before it was slimmed. -/
def Controller.Examined (c : Controller σ) : Prop :=
  ∀ value, c.value = some value → ∃ examined : Value, examined.Normal ∧
    c.findings = examined.validate.toFindings ∧ value.ShapeOf examined

theorem Controller.Turns.examined_of_examined {c c' : Controller σ} (h : c.Turns c')
    (hvalidation : c.options.enableValidation) (hc : c.Examined) : c'.Examined := by
  intro value' hvalue'
  cases h with
  | kept hvalue hfindings =>
    rw [hfindings]
    exact hc value' (hvalue ▸ hvalue')
  | emptied hvalue => exact absurd (hvalue.symm.trans hvalue') nofun
  | replaced raw hvalue hfindings =>
    obtain rfl := Option.some.inj (hvalue.symm.trans hvalue')
    have hreport : (raw.process c.options.processing).report = some raw.sanitize.validate :=
      if_pos hvalidation
    rw [hreport] at hfindings
    refine ⟨raw.sanitize, raw.normal_sanitize, hfindings, ?_⟩
    rw [Value.process_document]
    split
    · exact .inr rfl
    · exact .inl rfl
  | examined value hheld hvalue hfindings =>
    obtain rfl := Option.some.inj (hvalue.symm.trans hvalue')
    obtain ⟨examined, hnormal, -, hshape⟩ := hc _ hheld
    exact ⟨value, hshape.normal hnormal, hfindings, .inl rfl⟩
  | slimmed value hheld hvalue hfindings =>
    obtain rfl := Option.some.inj (hvalue.symm.trans hvalue')
    obtain ⟨examined, hnormal, hfound, hshape⟩ := hc _ hheld
    exact ⟨examined, hnormal, hfindings.trans hfound, hshape.optimize⟩

namespace Page

variable [Clock σ]

theorem Reachable.examined {q : Page σ} (h : q.Reachable)
    (hvalidation : q.controller.options.enableValidation) : q.controller.Examined := by
  induction h with
  | @start p q options context initial hstart =>
    have hturns := process_turns initial { p with controller := .empty options context }
    have hoptions := ((Controller.options_invariant options).process initial
      { p with controller := .empty options context } rfl).1
    rw [← outcome_start, hstart] at hturns hoptions
    exact hturns.examined_of_examined (hoptions ▸ hvalidation) nofun
  | @call q c _ _ ih =>
    have hoptions := after_invariant (Controller.options_invariant q.controller.options)
      (fun _ _ _ _ h => h) rfl c
    rw [hoptions] at hvalidation
    exact (after_turns q c).examined_of_examined hvalidation (ih hvalidation)
  | outside _ _ _ ih => exact ih hvalidation

/-- What was found on a page that can be reached is what there is to be found, except that
components which were written as neither a list nor null are still missing once the document
is slim. To examine the document again puts that right, and changes nothing otherwise. -/
theorem findings_current_iff {q : Page σ} {value : Value} (h : q.Reachable)
    (hvalidation : q.controller.options.enableValidation)
    (hvalue : q.controller.value = some value) :
    (q.controller.findings = value.validate.toFindings ↔
      ¬ q.controller.findings.Outdated value) ∧
    value.validate.warnings = q.controller.findings.warnings ∧
    value.validate.errors = q.controller.findings.remaining value ∧
    (q.controller.findings.isValid → value.validate.isValid) ∧
    (∃ examined : Value, examined.Normal ∧
      q.controller.findings = examined.validate.toFindings ∧
      value.ShapeOf examined ∧
      (q.controller.findings.Outdated value ↔
        examined.MiswritesComponents ∧ value = examined.optimize)) ∧
    (¬ q.controller.findings.Outdated value →
      (revalidate.outcome q).2.controller = q.controller) ∧
    ∀ q', revalidate.outcome q = (.ok (), q') →
      q'.controller = { q.controller with findings := value.validate.toFindings } := by
  obtain ⟨examined, hnormal, hfound, hshape⟩ := h.examined hvalidation value hvalue
  have hdescribe := Findings.describe_of_shape hnormal hshape
  rw [← hfound] at hdescribe
  refine ⟨hdescribe.current_iff, hdescribe.warnings, hdescribe.errors, hdescribe.valid,
    ⟨examined, hnormal, hfound, hshape, ?_⟩, fun hcurrent => ?_, fun q' hq' => ?_⟩
  · rw [hfound]
    exact Findings.outdated_iff hnormal hshape
  · rw [revalidate_held hvalue, ← hdescribe.current_iff.2 hcurrent]
    cases (revalidate.outcome q).1 <;> rfl
  · have hheld := revalidate_held hvalue
    rw [hq'] at hheld
    exact hheld

def miswrittenPage : Value := .object [
  ("components", .text "none"),
  ("id", .text "page"),
  ("layout", .object []),
  ("version", .text "1.0.0")]

def emptyPage : Value := .object [
  ("components", .list []),
  ("id", .text "page"),
  ("layout", .object []),
  ("version", .text "1.0.0")]

theorem process_miswrittenPage : miswrittenPage.process { optimize := true } =
    { document := emptyPage, report := some miswrittenPage.validate } := by
  have hclean : miswrittenPage.sanitize = miswrittenPage := by
    have hrepair : miswrittenPage.repair = miswrittenPage := rfl
    rw [Value.sanitize, hrepair]
    apply Value.cleanTexts_eq_self
    have htexts : miswrittenPage.texts = ["none", "page", "1.0.0"] := rfl
    rw [htexts]
    simp only [List.forall_mem_cons, List.not_mem_nil, false_implies, implies_true, and_true]
    exact ⟨Script.free_of_unmarked (by simp), Script.free_of_unmarked (by simp),
      Script.free_of_unmarked (by simp)⟩
  rw [Value.process, hclean]
  rfl

def slimmingPage : Page Unit where
  world := ()
  registry := ∅
  controller := { Controller.empty { enableOptimization := true } {} with
    input := some miswrittenPage
    value := some emptyPage
    document := some { id := "page", version := some "1.0.0" }
    findings := miswrittenPage.validate.toFindings
    status := .ready }

theorem slimmingPage_reachable : slimmingPage.Reachable := by
  have hdocument : Document.ofValue emptyPage =
      .ok { id := "page", version := some "1.0.0" } := by
    unfold Document.ofValue Document.decode
    rw [Node.decode_eq]
    rfl
  apply ReachableWith.start { enableOptimization := true } {} (some miswrittenPage)
    (p := { slimmingPage with controller := .empty { enableOptimization := true } {} })
  rw [outcome_start]
  exact process_eq_ok
    (q := { slimmingPage with controller := .empty { enableOptimization := true } {} }) rfl
    process_miswrittenPage hdocument

theorem slimmingPage_outdated : slimmingPage.Reachable ∧
    slimmingPage.controller.options.enableValidation ∧
    slimmingPage.controller.value = some emptyPage ∧
    slimmingPage.controller.findings.errors.map (·.code) = [.missingComponents] ∧
    slimmingPage.controller.findings ≠ emptyPage.validate.toFindings ∧
    (revalidate.outcome slimmingPage).2.controller.findings = {} := by
  have hcurrent : emptyPage.validate.toFindings = {} := by decide
  obtain ⟨hiff, -, -, -, -, -, hagain⟩ := findings_current_iff slimmingPage_reachable rfl rfl
  have houtdated : miswrittenPage.validate.toFindings.Outdated emptyPage := ⟨by decide, by decide⟩
  refine ⟨slimmingPage_reachable, rfl, rfl, by decide, fun h => hiff.1 h houtdated, ?_⟩
  have hreturns : revalidate.outcome slimmingPage =
      (.ok (), (revalidate.outcome slimmingPage).2) := rfl
  rw [hagain _ hreturns]
  exact hcurrent

theorem findings_not_always_current : ¬ ∀ (q : Page Unit) (value : Value), q.Reachable →
    q.controller.options.enableValidation → q.controller.value = some value →
      q.controller.findings = value.validate.toFindings := by
  intro h
  have hcurrent := h slimmingPage emptyPage slimmingPage_reachable rfl rfl
  have hvalid : miswrittenPage.validate.isValid = emptyPage.validate.isValid :=
    congrArg Findings.isValid hcurrent
  have hinvalid : miswrittenPage.validate.isValid = false := by decide
  have hempty : emptyPage.validate.isValid = true := by decide
  rw [hinvalid, hempty] at hvalid
  cases hvalid

end Page

end PageConfig
