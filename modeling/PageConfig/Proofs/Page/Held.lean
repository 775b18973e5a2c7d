import PageConfig.Proofs.Document.Slim
import PageConfig.Proofs.Page.Intake
import PageConfig.Proofs.Raw.Stages

/-!
# What a page holds

A page holds one document in two forms. Whatever it is called to do, the typed form is
what the raw one is typed as, and the raw one is clean. So the held document can always
be slimmed, and the status says whether there is one.
-/

set_option autoImplicit false

namespace PageConfig

open Effect

variable {σ : Type}

namespace Value

theorem normal_of_sanitize_eq {v : Value} (h : v.sanitize = v) : v.Normal :=
  h ▸ normal_sanitize v

theorem sanitize_process (raw : Value) (options : ProcessOptions) :
    (raw.process options).document.sanitize = (raw.process options).document := by
  rw [process_document]
  split
  · rw [optimize_sanitize, sanitize_sanitize]
  · rw [sanitize_sanitize]

theorem sanitize_iterate_optimize {v : Value} (h : v.sanitize = v) (n : Nat) :
    (optimize^[n] v).sanitize = optimize^[n] v := by
  induction n with
  | zero => exact h
  | succ n ih => rw [Function.iterate_succ_apply', optimize_sanitize, ih]

end Value

namespace Held

/-- The typed form belongs to the raw one, which is clean. -/
structure Sound (held : Held) : Prop where
  typed : Document.ofValue held.value = .ok held.document
  clean : held.value.sanitize = held.value

theorem Processed.sound {held : Held} (h : held.Processed) : held.Sound := by
  obtain ⟨raw, options, n, hvalue⟩ := h.processed
  refine ⟨h.typed, ?_⟩
  rw [hvalue]
  exact Value.sanitize_iterate_optimize (Value.sanitize_process raw options) n

namespace Sound

variable {held : Held} (h : held.Sound)

include h

theorem normal : held.value.Normal := Value.normal_of_sanitize_eq h.clean

theorem script_free {s : String} (hs : s ∈ held.value.texts) : ScriptFree s :=
  Value.sanitize_script_free (h.clean ▸ hs)

/-- Slimming changes nothing but the nodes, and leaves them what they are typed as. -/
theorem typed_optimize : ∃ ms, Node.SlimOfAll ms held.document.components ∧
    Document.ofValue held.value.optimize = .ok { held.document with components := ms } := by
  obtain ⟨ms, hms, hslim, -⟩ := Document.ofValue_slimmed h.typed
  refine ⟨ms, hslim, ?_⟩
  rw [Value.optimize_eq, Value.repair_of_normal h.normal, hms]

end Sound

end Held

structure Controller.Settled (c : Controller σ) : Prop where
  ready : c.status = .ready → c.document.isSome
  idle : c.status = .idle → c.value = none ∧ c.document = none

namespace Page

theorem settled_invariant : Controller.Invariant fun c : Controller σ => c.Settled where
  shown _ _ h := ⟨h.ready, h.idle⟩
  given _ _ h := ⟨h.ready, h.idle⟩
  emptied _ _ := ⟨nofun, fun _ => ⟨rfl, rfl⟩⟩
  replaced _ _ _ _ _ _ _ := ⟨fun _ => rfl, nofun⟩
  slimmed _ _ _ h hvalue _ :=
    ⟨fun _ => rfl, fun hidle => absurd ((h.idle hidle).1.symm.trans hvalue) nofun⟩
  failed _ _ _ := ⟨nofun, nofun⟩
  examined _ _ h := ⟨h.ready, h.idle⟩
  sampled _ _ h := ⟨h.ready, h.idle⟩

variable [Clock σ]

theorem Reachable.settled {q : Page σ} (h : q.Reachable) : q.controller.Settled :=
  h.invariant settled_invariant (fun _ _ _ _ hc => ⟨hc.ready, hc.idle⟩)
    fun _ _ => ⟨nofun, fun _ => ⟨rfl, rfl⟩⟩

theorem optimize_nothing {q : Page σ} (h : q.controller.value = none) :
    optimize.outcome q = (.ok (), q) := by
  unfold optimize
  rw [outcome_bind, outcome_get]
  dsimp only
  rw [h]
  rfl

theorem optimize_held {q : Page σ} {value : Value} {slim : Document}
    (hvalue : q.controller.value = some value)
    (hslim : Document.ofValue value.optimize = .ok slim) :
    optimize.outcome q = (.ok (), { q with
      controller := { q.controller with
        value := some value.optimize
        document := some slim } }) := by
  unfold optimize
  rw [outcome_bind, outcome_get]
  dsimp only
  rw [hvalue]
  dsimp only
  rw [hslim]
  rfl

theorem optimize_fails {q : Page σ} {value : Value} {e : PageError}
    (hvalue : q.controller.value = some value)
    (hslim : Document.ofValue value.optimize = .error e) :
    optimize.outcome q = (fail e.message).outcome q := by
  unfold optimize
  rw [outcome_bind, outcome_get]
  dsimp only
  rw [hvalue]
  dsimp only
  rw [hslim]

/-- On every page that can be reached, the two forms of the held document belong together,
the status says whether one is held, and slimming it neither fails nor calls anyone. -/
theorem held_sound {q : Page σ} (h : q.Reachable) :
    (q.controller.value = none ∧ q.controller.document = none ∨
      ∃ value document, q.controller.value = some value ∧
        q.controller.document = some document ∧ Document.ofValue value = .ok document ∧
        value.sanitize = value ∧ value.Normal ∧ (∀ s ∈ value.texts, ScriptFree s) ∧
        ∃ ms, Node.SlimOfAll ms document.components ∧
          Document.ofValue value.optimize = .ok { document with components := ms }) ∧
    (q.controller.status = .ready → q.controller.document.isSome) ∧
    (q.controller.status = .idle → q.controller.document = none) ∧
    ∃ document, optimize.outcome q = (.ok (), { q with
      controller := { q.controller with
        value := q.controller.value.map Value.optimize
        document } }) := by
  obtain ⟨hready, hidle⟩ := h.settled
  rcases h.holdsProcessed with ⟨hvalue, hdocument⟩ | ⟨held, hheld, hprocessed⟩
  · refine ⟨.inl ⟨hvalue, hdocument⟩, hready, fun hstatus => (hidle hstatus).2,
      q.controller.document, ?_⟩
    have hkept : q.controller.value.map Value.optimize = q.controller.value := by
      rw [hvalue]
      rfl
    rw [optimize_nothing hvalue, hkept]
  · obtain ⟨hvalue, hdocument⟩ := Controller.held_eq_some_iff.1 hheld
    have hsound := hprocessed.sound
    obtain ⟨ms, hms, hslim⟩ := hsound.typed_optimize
    refine ⟨.inr ⟨held.value, held.document, hvalue, hdocument, hsound.typed, hsound.clean,
      hsound.normal, fun s => hsound.script_free, ms, hms, hslim⟩, hready,
      fun hstatus => (hidle hstatus).2, some { held.document with components := ms }, ?_⟩
    rw [optimize_held hvalue hslim, hvalue]
    rfl

def sentDocument : Document where
  components := [{ id := "a", type := "Text", styles := some {} }]

theorem ofValue_cleanPage : Document.ofValue cleanPage = .ok sentDocument := by
  unfold Document.ofValue Document.decode
  rw [Node.decode_eq]
  rfl

def holdingPage : Page Unit where
  world := ()
  registry := ∅
  controller := { Controller.empty {} {} with
    input := some sentPage
    value := some cleanPage
    document := some sentDocument
    findings := cleanPage.validate.toFindings
    status := .ready }

theorem holdingPage_reachable : holdingPage.Reachable := by
  apply ReachableWith.start {} {} (some sentPage)
    (p := { holdingPage with controller := .empty {} {} })
  rw [outcome_start]
  exact process_eq_ok (q := { holdingPage with controller := .empty {} {} }) rfl
    (process_sentPage false) ofValue_cleanPage

theorem holdingPage_sound : holdingPage.Reachable ∧ holdingPage.controller.document.isSome ∧
    cleanPage.sanitize = cleanPage ∧
    ∃ document, optimize.outcome holdingPage = (.ok (), { holdingPage with
      controller := { holdingPage.controller with value := some slimPage, document } }) := by
  obtain ⟨hheld, hready, -, hoptimize⟩ := held_sound holdingPage_reachable
  refine ⟨holdingPage_reachable, hready rfl, ?_, hoptimize⟩
  rcases hheld with ⟨hnone, -⟩ | ⟨value, _, hvalue, -, -, hclean, -⟩
  · cases hnone
  · obtain rfl : cleanPage = value := Option.some.inj hvalue
    exact hclean

end Page

end PageConfig
