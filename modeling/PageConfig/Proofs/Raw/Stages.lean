import PageConfig.Page.Controller
import PageConfig.Proofs.Raw.Slim
import PageConfig.Proofs.ReadBack.Node

/-!
# The stages of processing

Cleaning and slimming keep a value normal, so no stage undoes what an earlier one did:
they commute, and to process a processed document changes nothing. Examining only looks.
-/

set_option autoImplicit false

namespace PageConfig

variable {σ : Type}

namespace Value

theorem normal_sanitize (v : Value) : v.sanitize.Normal :=
  normal_cleanTexts v.repair (repair_normal v)

theorem normal_optimize (v : Value) : v.optimize.Normal := by
  rw [optimize_eq]
  exact normal_slimmed (repair_normal v)

theorem sanitize_sanitize (v : Value) : v.sanitize.sanitize = v.sanitize := by
  calc v.sanitize.sanitize
    _ = v.sanitize.cleanTexts := by rw [sanitize, repair_of_normal (normal_sanitize v)]
    _ = v.sanitize := cleanTexts_eq_self _ fun _ hs => sanitize_script_free hs

theorem optimize_optimize (v : Value) : v.optimize.optimize = v.optimize := by
  calc v.optimize.optimize
    _ = v.optimize.slimmed := by rw [optimize_eq, repair_of_normal (normal_optimize v)]
    _ = v.optimize := by rw [optimize_eq, slimmed_slimmed]

theorem optimize_sanitize (v : Value) : v.optimize.sanitize = v.sanitize.optimize := by
  calc v.optimize.sanitize
    _ = v.optimize.cleanTexts := by rw [sanitize, repair_of_normal (normal_optimize v)]
    _ = v.repair.cleanTexts.slimmed := by rw [optimize_eq, slimmed_cleanTexts]
    _ = v.sanitize.optimize := by
      rw [optimize_eq v.sanitize, repair_of_normal (normal_sanitize v), sanitize]

theorem process_document (raw : Value) (options : ProcessOptions) :
    (raw.process options).document =
      if options.optimize then raw.sanitize.optimize else raw.sanitize := by
  have hexamined : raw.sanitize.validate.repaired = raw.sanitize :=
    repair_of_normal (normal_sanitize raw)
  cases hvalidate : options.validate
  · simp [process, hvalidate]
  · simp [process, hvalidate, hexamined]

theorem process_process (raw : Value) (options : ProcessOptions) :
    ((raw.process options).document.process options).document =
      (raw.process options).document := by
  simp only [process_document]
  split
  · rw [optimize_sanitize, sanitize_sanitize, optimize_optimize]
  · rw [sanitize_sanitize]

end Value

/-- The stages commute and each is done once for all, whatever is examined on the way.
A controller that takes a document in holds what the processing makes of it, and finds
what the processing reports. -/
theorem process_coherent (raw : Value) (options : ProcessOptions) :
    (∀ validate, (raw.process { options with validate }).document =
      (raw.process options).document) ∧
    ((raw.process options).document.process options).document = (raw.process options).document ∧
    raw.optimize.sanitize = raw.sanitize.optimize ∧
    raw.sanitize.sanitize = raw.sanitize ∧
    raw.optimize.optimize = raw.optimize ∧
    ∀ (o : ControllerOptions σ) (held : Held) (findings : Findings), o.processing = options →
      o.prepare raw = .ok (held, findings) →
        held.value = (raw.process options).document ∧
        Document.ofValue held.value = .ok held.document ∧
        match (raw.process options).report with
        | some report => findings = report.toFindings
        | none => findings.isValid ∧ findings.errors = [] ∧ findings.warnings = [] := by
  refine ⟨fun validate => ?_, Value.process_process raw options, Value.optimize_sanitize raw,
    Value.sanitize_sanitize raw, Value.optimize_optimize raw, ?_⟩
  · rw [Value.process_document, Value.process_document]
  · rintro o held findings rfl hprepare
    rw [ControllerOptions.prepare_eq] at hprepare
    obtain ⟨document, hdocument, heq⟩ := map_eq_ok.1 hprepare
    cases heq
    refine ⟨rfl, hdocument, ?_⟩
    cases (raw.process o.processing).report with
    | none => exact ⟨rfl, rfl, rfl⟩
    | some report => rfl

def sentPage : Value := .object [
  ("components", .object [("0", .object [
    ("id", .text "a"),
    ("styles", .object []),
    ("type", .text "Text")])]),
  ("layout", .object [])]

def cleanPage : Value := .object [
  ("components", .list [.object [
    ("id", .text "a"),
    ("styles", .object []),
    ("type", .text "Text")]]),
  ("layout", .object [])]

def slimPage : Value := .object [
  ("components", .list [.object [
    ("id", .text "a"),
    ("props", .object []),
    ("type", .text "Text")]]),
  ("layout", .object [])]

theorem sanitize_sentPage : sentPage.sanitize = cleanPage := by
  have hrepair : sentPage.repair = cleanPage := rfl
  rw [Value.sanitize, hrepair]
  apply Value.cleanTexts_eq_self
  have htexts : cleanPage.texts = ["a", "Text"] := rfl
  intro s hs
  rw [htexts] at hs
  simp only [List.mem_cons, List.not_mem_nil, or_false] at hs
  rcases hs with rfl | rfl
  · exact Script.free_of_unmarked (by simp)
  · exact Script.free_of_unmarked (by simp)

theorem process_sentPage (optimize : Bool) : sentPage.process { optimize } =
    { document := if optimize then slimPage else cleanPage
      report := some cleanPage.validate } := by
  rw [Value.process, sanitize_sentPage]
  cases optimize <;> rfl

theorem sentPage_coherent :
    let o : ControllerOptions Unit := { enableOptimization := true }
    ∃ held findings, o.prepare sentPage = .ok (held, findings) ∧ held.value = slimPage ∧
      findings.errors.map (·.code) = [.missingId] ∧
      (slimPage.process o.processing).document = slimPage := by
  intro o
  have hprocess : sentPage.process o.processing =
      { document := slimPage, report := some cleanPage.validate } := process_sentPage true
  obtain ⟨document, hdocument⟩ : ∃ d, Document.ofValue slimPage = .ok d := by
    refine ⟨{ components := [{ id := "a", type := "Text" }] }, ?_⟩
    unfold Document.ofValue Document.decode
    rw [Node.decode_eq]
    rfl
  have hprepare : o.prepare sentPage =
      .ok ({ value := slimPage, document }, cleanPage.validate.toFindings) := by
    rw [ControllerOptions.prepare_eq, hprocess, hdocument]
    rfl
  obtain ⟨-, hagain, -, -, -, hheld⟩ := process_coherent (σ := Unit) sentPage o.processing
  obtain ⟨hvalue, -, hfindings⟩ := hheld o _ _ rfl hprepare
  rw [hprocess] at hagain hvalue hfindings
  refine ⟨_, _, hprepare, hvalue, ?_, hagain⟩
  rw [hfindings]
  rfl

end PageConfig
