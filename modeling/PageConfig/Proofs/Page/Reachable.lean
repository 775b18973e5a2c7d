import Mathlib.Logic.Function.Iterate
import PageConfig.Proofs.Page.Invariant

/-!
# The pages that can be reached

A page is started and then called from outside, in any order, and the outside may
change between the calls. What a page holds comes from a raw document at every time:
a call replaces it by a processed document, slims it, or leaves it alone.
-/

set_option autoImplicit false

namespace PageConfig

open Effect

variable {σ : Type}

namespace Page

inductive Call (σ : Type) where
  | setDocument (raw : Option Value)
  | beginLoad
  | finishLoad (ticket : LoadTicket) (result : Except PageError Value)
  | revalidate
  | optimize
  | retry
  | recordMetric (m : Metric)
  | render
  | retryNode (id : String)
  | updateContext (update : Context)
  | resize (width height : Nat)
  | setHost (host : Host)

variable [Clock σ]

def after (q : Page σ) : Call σ → Page σ
  | .setDocument raw => ((setDocument raw).outcome q).2
  | .beginLoad => (beginLoad.outcome q).2
  | .finishLoad ticket result => ((finishLoad ticket result).outcome q).2
  | .revalidate => (revalidate.outcome q).2
  | .optimize => (optimize.outcome q).2
  | .retry => (retry.outcome q).2
  | .recordMetric m => ((recordMetric m).outcome q).2
  | .render => (render.outcome q).2
  | .retryNode id => ((retryNode id).outcome q).2
  | .updateContext update => { q with controller := q.controller.updateContext update }
  | .resize width height => { q with controller := q.controller.resize width height }
  | .setHost host => { q with controller := q.controller.setHost host }

/-- The page can be reached by calls that are made with registries as allowed. -/
inductive ReachableWith (allowed : Registry σ → Prop) : Page σ → Prop
  | start {p q : Page σ} (options : ControllerOptions σ) (context : Context)
    (initial : Option Value) (h : (Page.start options context initial).outcome p = (.ok (), q)) :
    ReachableWith allowed q
  | call {q : Page σ} (c : Call σ) (h : ReachableWith allowed q)
    (hregistry : allowed q.registry) : ReachableWith allowed (q.after c)
  | outside {q : Page σ} (world : σ) (registry : Registry σ) (h : ReachableWith allowed q) :
    ReachableWith allowed { q with world, registry }

abbrev Reachable : Page σ → Prop := ReachableWith fun _ => True

theorem outcome_start (options : ControllerOptions σ) (context : Context)
    (initial : Option Value) (p : Page σ) : (start options context initial).outcome p =
      (process initial).outcome { p with controller := .empty options context } := rfl

section Invariant

variable {I : Controller σ → Prop} (h : Controller.Invariant I)
  (hgiven : ∀ (c : Controller σ) (context : Context) (pending : Option LoadTicket)
    (issued : UInt64), I c → I { c with context, pending, issued })

include h hgiven

theorem after_invariant {q : Page σ} (hq : I q.controller) (c : Call σ) :
    I (q.after c).controller := by
  have hload (c : Controller σ) := hgiven c c.context
  cases c with
  | setDocument raw => exact (h.setDocument hload raw q hq).1
  | beginLoad => exact (Controller.Invariant.beginLoad hload q hq).1
  | finishLoad ticket result => exact (h.finishLoad hload ticket result q hq).1
  | revalidate => exact (h.revalidate q hq).1
  | optimize => exact (h.optimize q hq).1
  | retry => exact (h.retry q hq).1
  | recordMetric m => exact (h.recordMetric m q hq).1
  | render => exact (h.render q hq).1
  | retryNode id => exact (h.retryNode id q hq).1
  | updateContext update => exact hgiven q.controller _ _ _ hq
  | resize width height => exact h.shown q.controller _ hq
  | setHost host => exact h.shown q.controller _ hq

/-- An invariant of an empty controller holds on every page that can be reached. -/
theorem ReachableWith.invariant {allowed : Registry σ → Prop}
    (hempty : ∀ options context, I (.empty options context)) {q : Page σ}
    (hreach : q.ReachableWith allowed) : I q.controller := by
  induction hreach with
  | @start p q options context initial hstart =>
    have hprocess := h.process initial { p with controller := .empty options context }
      (hempty options context)
    rw [← outcome_start, hstart] at hprocess
    exact hprocess.1
  | call c _ _ ih => exact after_invariant h hgiven ih c
  | outside _ _ _ ih => exact ih

end Invariant

end Page

/-- The value is a processed document, perhaps slimmed again, and is typed as the document. -/
structure Held.Processed (held : Held) : Prop where
  typed : Document.ofValue held.value = .ok held.document
  processed : ∃ (raw : Value) (options : ProcessOptions) (n : Nat),
    held.value = Value.optimize^[n] (raw.process options).document

def Controller.HoldsProcessed (c : Controller σ) : Prop :=
  c.value = none ∧ c.document = none ∨ ∃ held, c.held = some held ∧ held.Processed

namespace Page

def HoldsProcessed (q : Page σ) : Prop := ∀ held, q.controller.held = some held → held.Processed

theorem processed_invariant :
    Controller.Invariant fun c : Controller σ => c.HoldsProcessed where
  shown _ _ h := h
  given _ _ h := h
  emptied _ _ := .inl ⟨rfl, rfl⟩
  replaced _ raw options _ _ _ hdocument :=
    .inr ⟨⟨_, _⟩, rfl, hdocument, raw, options, 0, rfl⟩
  slimmed c value _ h hvalue hdocument := by
    rcases h with ⟨hnone, -⟩ | ⟨held, hheld, hprocessed⟩
    · exact absurd (hnone.symm.trans hvalue) nofun
    · obtain ⟨raw, options, n, hraw⟩ := hprocessed.processed
      obtain rfl : held.value = value :=
        Option.some.inj ((Controller.held_eq_some_iff.1 hheld).1.symm.trans hvalue)
      refine .inr ⟨⟨_, _⟩, rfl, hdocument, raw, options, n + 1, ?_⟩
      rw [Function.iterate_succ_apply', ← hraw]
  failed _ _ h := h
  examined _ _ h := h
  sampled _ _ h := h

variable [Clock σ]

theorem Reachable.holdsProcessed {q : Page σ} (h : q.Reachable) : q.controller.HoldsProcessed :=
  h.invariant processed_invariant (fun _ _ _ _ hc => hc) fun _ _ => .inl ⟨rfl, rfl⟩

/-- What a page holds is a processed document, whatever calls led there. -/
theorem reachable_holds {q : Page σ} (h : q.Reachable) : q.HoldsProcessed := by
  intro held hheld
  rcases h.holdsProcessed with ⟨hnone, -⟩ | ⟨held', hheld', hprocessed⟩
  · exact absurd (hnone.symm.trans (Controller.held_eq_some_iff.1 hheld).1) nofun
  · obtain rfl : held' = held := Option.some.inj (hheld'.symm.trans hheld)
    exact hprocessed

end Page

end PageConfig
