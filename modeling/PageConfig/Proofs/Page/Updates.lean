import PageConfig.Proofs.Context.Merge
import PageConfig.Proofs.Page.Reachable

/-!
# Updates of the context

The context of a page is the one it was started with and what it was told since. No other call
has a say in it, and a key is at what the last update with that key said.
-/

set_option autoImplicit false

namespace PageConfig

variable {σ : Type}

namespace Page

def Call.updates : Call σ → List Context
  | .updateContext update => [update]
  | _ => []

theorem context_invariant (context : Context) :
    Controller.Invariant fun c : Controller σ => c.context = context :=
  Controller.untouched_invariant fun _ given _ _ => given = context

variable [Clock σ]

/-- A call merges what it tells into the context, and changes nothing else about it. -/
theorem after_context (q : Page σ) (c : Call σ) :
    (q.after c).controller.context = c.updates.foldl Context.merge q.controller.context := by
  have hkeeps := context_invariant (σ := σ) q.controller.context
  cases c with
  | setDocument raw => exact (hkeeps.setDocument (fun _ _ _ h => h) raw q rfl).1
  | beginLoad => rfl
  | finishLoad ticket result =>
    exact (hkeeps.finishLoad (fun _ _ _ h => h) ticket result q rfl).1
  | revalidate => exact (hkeeps.revalidate q rfl).1
  | optimize => exact (hkeeps.optimize q rfl).1
  | retry => exact (hkeeps.retry q rfl).1
  | recordMetric m => exact (hkeeps.recordMetric m q rfl).1
  | render => exact (hkeeps.render q rfl).1
  | retryNode id => exact (hkeeps.retryNode id q rfl).1
  | updateContext update => rfl
  | resize width height => rfl
  | setHost host => rfl

/-- The page was started with a context and told of these updates, one after the other. -/
inductive Informed (context : Context) : List Context → Page σ → Prop
  | start {p q : Page σ} (options : ControllerOptions σ) (initial : Option Value)
    (h : (Page.start options context initial).outcome p = (.ok (), q)) : Informed context [] q
  | call {updates : List Context} {q : Page σ} (c : Call σ) (h : Informed context updates q) :
    Informed context (updates ++ c.updates) (q.after c)
  | outside {updates : List Context} {q : Page σ} (world : σ) (registry : Registry σ)
    (h : Informed context updates q) : Informed context updates { q with world, registry }

theorem reachable_iff_informed (q : Page σ) :
    q.Reachable ↔ ∃ context updates, Informed context updates q := by
  constructor
  · intro h
    induction h with
    | start options context initial h => exact ⟨context, [], .start options initial h⟩
    | call c _ _ ih =>
      obtain ⟨context, updates, h⟩ := ih
      exact ⟨context, _, h.call c⟩
    | outside world registry _ ih =>
      obtain ⟨context, updates, h⟩ := ih
      exact ⟨context, updates, h.outside world registry⟩
  · rintro ⟨context, updates, h⟩
    induction h with
    | start options initial h => exact .start options context initial h
    | call c _ ih => exact ih.call c trivial
    | outside world registry _ ih => exact ih.outside world registry

theorem Informed.context_eq {context : Context} {updates : List Context} {q : Page σ}
    (h : Informed context updates q) :
    q.controller.context = updates.foldl Context.merge context := by
  induction h with
  | @start p q options initial h =>
    have hprocess := (context_invariant (σ := σ) context).process initial
      { p with controller := .empty options context } rfl
    rw [← outcome_start, h] at hprocess
    exact hprocess.1
  | call c _ ih => rw [after_context, ih, List.foldl_append]
  | outside _ _ _ ih => exact ih

/-- To merge contexts is to merge the tables they are written as: in any grouping, as often as
one likes, and after any calls each key of a page's context is at what the last update that
set it has there. An update sets the keys it has, but none of the known ones to null. -/
theorem updates_merge_shallowly {c u : Context} (hc : c.Decoded) {v : Value} (hv : v.Canonical)
    (hu : Context.ofValue v = .ok u) :
    (∃ base update : Props, c.toValue = .object base ∧ u.toValue = .object update ∧
      (c.merge u).toValue = .object (base.mergeShallow update)) ∧
    (∀ w : Context, w.Decoded → (c.merge u).merge w = c.merge (u.merge w)) ∧
    (c.merge u).merge u = c.merge u ∧
    (∀ key, (u.toValue.field? key).isSome ↔
      ∃ x, v.field? key = some x ∧ (key ∈ Context.fieldNames → x ≠ .null)) ∧
    ∀ (updates : List Context) (q : Page σ), (∀ w ∈ updates, w.Decoded) → Informed c updates q →
      ∀ key, q.controller.context.toValue.field? key =
        (updates.reverse.findSome? (·.toValue.field? key)).or (c.toValue.field? key) := by
  have hctidy := hc.tidy
  have hutidy := Context.Decoded.tidy ⟨v, hv, hu⟩
  refine ⟨⟨c.written, u.written, rfl, rfl, ?_⟩, fun w hw => ?_, ?_, fun key => ?_,
    fun updates q hupdates hinformed key => ?_⟩
  · rw [Context.toValue_eq, hctidy.written_merge hutidy]
  · exact hctidy.merge_assoc hutidy hw.tidy
  · exact hctidy.merge_merge hutidy
  · obtain ⟨fields, rfl, hreads⟩ := Context.reads_of_ofValue hu
    exact hreads.get?_written_isSome_iff (Props.ascending_of_canonical hv) key
  · rw [hinformed.context_eq]
    exact Context.get?_written_foldl_merge hctidy (fun w hw => (hupdates w hw).tidy) key

def shop : Context where
  theme := some .dark
  extra := [("cart", .whole 1)]

def filledCart : Value := .object [("cart", .whole 2), ("theme", .null)]

theorem shop_updated : shop.Decoded ∧ filledCart.Canonical ∧
    ∃ u, Context.ofValue filledCart = .ok u ∧ (shop.merge u).merge u = shop.merge u ∧
      ∃ q : Page Unit, Informed shop [u] q ∧
        q.controller.context.toValue.field? "cart" = some (.whole 2) ∧
        q.controller.context.toValue.field? "theme" = some (.text "dark") := by
  have hshop : shop.Decoded := by
    refine ⟨.object [("cart", .whole 1), ("theme", .text "dark")], ?_, rfl⟩
    simp only [Value.Canonical, Value.CanonicalFields, Value.whole, and_true]
    decide
  have hcart : filledCart.Canonical := by
    simp only [filledCart, Value.Canonical, Value.CanonicalFields, Value.whole, and_true]
    decide
  have hu : Context.ofValue filledCart = .ok { extra := [("cart", .whole 2)] } := rfl
  obtain ⟨-, -, htwice, -, hkeys⟩ := updates_merge_shallowly (σ := Unit) hshop hcart hu
  have hstart : Informed (σ := Unit) shop [] ⟨(), ∅, .empty {} shop⟩ :=
    .start (p := ⟨(), ∅, .empty {} {}⟩) {} none rfl
  have hinformed := hstart.call (.updateContext { extra := [("cart", .whole 2)] })
  have hupdate := hkeys _ _ (List.forall_mem_singleton.2 ⟨_, hcart, hu⟩) hinformed
  exact ⟨hshop, hcart, _, hu, htwice, _, hinformed, (hupdate "cart").trans rfl,
    (hupdate "theme").trans rfl⟩

end Page

end PageConfig
