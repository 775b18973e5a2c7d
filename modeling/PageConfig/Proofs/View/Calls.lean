import Mathlib.Logic.Relation
import PageConfig.Proofs.Effect
import PageConfig.Proofs.View.Visits

/-!
# What a pass calls

A pass over nodes acts on the outside by calls that these nodes ask for: units of their own
types and of the types of their fallbacks, with props that are theirs, and callbacks that are
told about them. Each step of a pass keeps to such calls, also where a callback panics.
-/

set_option autoImplicit false

namespace PageConfig

open Effect Relation

variable {σ : Type}

namespace Source

def Supplies (source : Source σ) (unit : Factory σ) : Prop :=
  ∃ world, source.resolve.Yields world fun found _ => found.1 = unit

theorem Loads.supplies {a b : Source σ} (h : a.Loads b) {unit : Factory σ}
    (hb : b.Supplies unit) : a.Supplies unit := by
  cases h with
  | same => exact hb
  | @loaded loader factory world hload =>
    obtain ⟨w, found, v, hfound, rfl⟩ := hb
    cases hfound
    have hresolve := outcome_resolve_lazy loader world
    rcases hrun : loader.outcome world with ⟨r, v⟩
    rw [hrun] at hload hresolve
    obtain rfl : r = .ok (.ok factory) := hload
    exact ⟨world, _, v, hresolve, rfl⟩

theorem Loads.world {a b : Source σ} (h : a.Loads b) (w : σ) :
    (b.resolve.outcome w).2 = w ∨ (b.resolve.outcome w).2 = (a.resolve.outcome w).2 := by
  cases h with
  | same => exact .inr rfl
  | loaded => exact .inl rfl

end Source

/-- One of the nodes asks for a component of the type, for itself or for its own fallback,
and this is what that is given beside the defaults. -/
inductive Asks (scene : Scene) (ns : List Node) : String → (Props → Props) → Prop
  | node {m : Node} (hm : m ∈ ns) :
    Asks scene ns m.type fun defaults => defaults.mergeShallow (m.resolvedProps scene)
  | fallback {m f : Node} (hm : m ∈ ns) (hf : m.errorFallback = some f) (error : String) :
    Asks scene ns f.type fun defaults =>
      (defaults.mergeShallow (f.resolvedProps scene)).insert "error" (.text error)

/-- The outside goes over from one state to the other by a call that the nodes ask for, or as
the clock is read. -/
inductive Calls [Clock σ] (o : RenderOptions σ) (r : Registry σ) (scene : Scene) (ns : List Node) :
    σ → σ → Prop
  | load {type : String} {given : Props → Props} {entry : Entry σ}
    (hasks : Asks scene ns type given) (hentry : r.get? type = some entry) (w : σ) :
    Calls o r scene ns w (entry.source.resolve.outcome w).2
  | unit {type : String} {given : Props → Props} {entry : Entry σ} {unit : Factory σ}
    (hasks : Asks scene ns type given) (hentry : r.get? type = some entry)
    (hunit : entry.source.Supplies unit) (w : σ) :
    Calls o r scene ns w ((unit (given entry.defaults)).outcome w).2
  | onMetric {m : Node} {f : Metric → Effect σ Unit} (hm : m ∈ ns) (hf : o.onMetric = some f)
    (updateCount : UInt32) (w : σ) :
    Calls o r scene ns w ((f ⟨m.id, m.type, updateCount⟩).outcome w).2
  | onError {m : Node} {f : Failure → Effect σ Unit} (hm : m ∈ ns) (hf : o.onError = some f)
    (error : String) (time : UInt64) (w : σ) :
    Calls o r scene ns w ((f ((m.fault scene error).told time)).outcome w).2
  | fallback {m : Node} {f : Failure → Effect σ Value} (hm : m ∈ ns) (hf : o.fallback = some f)
    (error : String) (time : UInt64) (w : σ) :
    Calls o r scene ns w ((f ((m.fault scene error).told time)).outcome w).2
  | clock (w : σ) : Calls o r scene ns w (Clock.now.run w).2

structure Pass.Confined [Clock σ] (o : RenderOptions σ) (r : Registry σ) (scene : Scene)
    (ns : List Node) (start : σ) (p : Pass σ) : Prop where
  options : p.renderer.options = o
  registry : r.Loads p.registry
  world : ReflTransGen (Calls o r scene ns) start p.world

namespace Pass

variable [Clock σ]

section

variable {o : RenderOptions σ} {r : Registry σ} {scene : Scene} {ns : List Node} {start : σ}

theorem call_confined {α : Type} {e : Effect σ α}
    (h : ∀ w, Calls o r scene ns w (e.outcome w).2) :
    Ensures (Confined o r scene ns start) (call e) fun _ => True :=
  fun p hp => ⟨⟨hp.options, hp.registry, hp.world.tail (h p.world)⟩, fun _ _ => trivial⟩

theorem get_calls {q : Registry σ} (hq : r.Loads q) {type : String} {given : Props → Props}
    (h : Asks scene ns type given) (w : σ) :
    ReflTransGen (Calls o r scene ns) w ((q.get type).outcome w).2 ∧
      ∀ found, ((q.get type).outcome w).1 = .ok found → ∀ c, found.1 = some c →
        ∀ v, Calls o r scene ns v ((c.factory (given c.defaults)).outcome v).2 := by
  cases hentry : q.get? type with
  | none =>
    rw [Registry.outcome_get_of_none hentry]
    refine ⟨.refl, fun found hfound c hc => ?_⟩
    cases hfound
    cases hc
  | some entry =>
    obtain ⟨first, hfirst, hload⟩ := hq.before hentry
    have hworld : ReflTransGen (Calls o r scene ns) w (entry.source.resolve.outcome w).2 := by
      rcases hload.source.world w with hworld | hworld
      · rw [hworld]
      · rw [hworld]
        exact .single (.load h hfirst w)
    rw [Registry.outcome_get_of_some hentry]
    rcases hresolve : entry.source.resolve.outcome w with ⟨p | ⟨factory, source⟩, u⟩
    · rw [hresolve] at hworld
      exact ⟨hworld, nofun⟩
    · rw [hresolve] at hworld
      refine ⟨hworld, fun found hfound c hc v => ?_⟩
      cases hfound
      cases hc
      rw [hload.defaults]
      exact .unit h hfirst (hload.source.supplies ⟨w, _, _, hresolve, rfl⟩) v

theorem component?_confined {type : String} {given : Props → Props}
    (h : Asks scene ns type given) :
    Ensures (Confined o r scene ns start) (component? type) fun c? => ∀ c, c? = some c →
      ∀ w, Calls o r scene ns w ((c.factory (given c.defaults)).outcome w).2 := by
  intro p hp
  obtain ⟨hcalls, hunit⟩ := get_calls (o := o) hp.registry h p.world
  rw [component?_outcome]
  rcases hget : (p.registry.get type).outcome p.world with ⟨panic | ⟨c?, registry⟩, world⟩ <;>
    rw [hget] at hcalls hunit
  · exact ⟨⟨hp.options, hp.registry, hp.world.trans hcalls⟩, nofun⟩
  · have hloads := hp.registry.trans (Registry.get_finds hget).loads
    refine ⟨⟨hp.options, hloads, hp.world.trans hcalls⟩, fun c? hc => ?_⟩
    cases hc
    exact hunit _ rfl

theorem unit_confined {unit : Factory σ} {props : Props}
    (h : ∀ w, Calls o r scene ns w ((unit props).outcome w).2) :
    Ensures (Confined o r scene ns start) (call (unit.contained props)) fun _ => True :=
  call_confined fun w => unit.contained_world props w ▸ h w

theorem modify_bind_confined {α : Type} {f : Pass σ → Pass σ} {e : PUnit → Effect (Pass σ) α}
    {Q : α → Prop} (hf : ∀ p, (f p).renderer.options = p.renderer.options ∧
      (f p).registry = p.registry ∧ (f p).world = p.world)
    (he : Ensures (Confined o r scene ns start) (e ⟨⟩) Q) :
    Ensures (Confined o r scene ns start) (modify f >>= e) Q := by
  refine (ensures_modify fun p hp => ?_).bind fun _ _ => he
  obtain ⟨hoptions, hregistry, hworld⟩ := hf p
  exact ⟨hoptions.trans hp.options, hregistry ▸ hp.registry, hworld ▸ hp.world⟩

theorem note_confined (d : Diagnostic) :
    Ensures (Confined o r scene ns start) (note d) fun _ => True :=
  ensures_modify fun _ hp => ⟨hp.options, hp.registry, hp.world⟩

theorem toldNow_confined (x : Fault) : Ensures (Confined o r scene ns start) (toldNow x)
    fun failure => ∃ time, failure = x.told time :=
  (call_confined fun w => .clock w).bind fun time _ => ensures_pure ⟨time, rfl⟩

variable {m : Node} (hm : m ∈ ns)

include hm

theorem instantiate_confined {unit : Factory σ} {props : Props}
    (h : ∀ w, Calls o r scene ns w ((unit props).outcome w).2) :
    Ensures (Confined o r scene ns start) (instantiate m.id m.type unit props)
      fun _ => True := by
  apply (unit_confined h).bind
  intro result _
  have hsample (metric : Metric) : Ensures (Confined o r scene ns start)
      (do modify fun p => { p with metrics := p.metrics ++ [metric] }
          return result) fun _ => True :=
    modify_bind_confined (fun _ => ⟨rfl, rfl, rfl⟩) (ensures_pure trivial)
  apply ensures_get_modify_bind fun p hp => ⟨hp.options, hp.registry, hp.world⟩
  intro p hp
  rw [hp.options]
  split
  · rename_i f hf
    apply (call_confined fun w => .onMetric hm hf _ w).bind
    intro _ _
    exact hsample _
  · exact hsample _

theorem report_confined (error : String) :
    Ensures (Confined o r scene ns start) (report (m.fault scene error))
      fun failure => ∃ time, failure = (m.fault scene error).told time := by
  apply (toldNow_confined _).bind
  rintro _ ⟨time, rfl⟩
  apply ensures_get.bind
  intro p hp
  rw [hp.options]
  have htell : Ensures (Confined o r scene ns start)
      (call (o.tell ((m.fault scene error).told time))) fun _ => True := by
    unfold RenderOptions.tell
    split
    · rename_i f hf
      exact call_confined fun w => .onError hm hf error time w
    · exact fun p hp => ⟨⟨hp.options, hp.registry, hp.world⟩, fun _ _ => trivial⟩
  exact htell.bind fun _ _ => ensures_pure ⟨time, rfl⟩

theorem ownFallback?_confined {f : Node} (hf : m.errorFallback = some f) (error : String) :
    Ensures (Confined o r scene ns start) (ownFallback? scene f error) fun _ => True := by
  apply (component?_confined (.fallback hm hf error)).bind
  intro c? hc
  cases c? with
  | none => exact ensures_pure trivial
  | some component =>
    apply (unit_confined (hc component rfl)).bind
    intro result _
    cases result <;> exact ensures_pure trivial

theorem presentation_confined (error : String) (time : UInt64) :
    Ensures (Confined o r scene ns start)
      (presentation scene ((m.fault scene error).told time)) fun _ => True := by
  apply ensures_get.bind
  intro p hp
  rw [hp.options]
  split
  · rename_i f hf
    exact call_confined fun w => .fallback hm hf error time w
  · exact ensures_pure trivial

theorem fallbackBlock_confined (error : String) (time : UInt64) :
    Ensures (Confined o r scene ns start)
      (fallbackBlock scene m.id m.type m.errorFallback ((m.fault scene error).told time))
      fun _ => True := by
  have hblock (output : Value) : Ensures (Confined o r scene ns start) (do
      return Block.fallback m.id m.type error ((← get).renderer.retryCount m.id) output)
      fun _ => True := by
    apply ensures_get.bind
    intro p _
    exact ensures_pure trivial
  have hpresented : Ensures (Confined o r scene ns start) (do
      let output ← presentation scene ((m.fault scene error).told time)
      return Block.fallback m.id m.type error ((← get).renderer.retryCount m.id) output)
      fun _ => True := (presentation_confined hm error time).bind fun output _ => hblock output
  unfold fallbackBlock
  cases hf : m.errorFallback with
  | none => exact hpresented
  | some f =>
    apply (ownFallback?_confined hm hf error).bind
    intro own _
    cases own with
    | none => exact hpresented
    | some output => exact hblock output

theorem keep_confined (message : String) :
    Ensures (Confined o r scene ns start) (keep scene m message) fun _ => True := by
  apply (toldNow_confined _).bind
  rintro _ ⟨time, rfl⟩
  exact fallbackBlock_confined hm message time

theorem fail_confined (message : String) :
    Ensures (Confined o r scene ns start) (fail scene m message) fun _ => True := by
  refine modify_bind_confined (fun _ => ⟨rfl, rfl, rfl⟩) ?_
  apply (note_confined _).bind
  intro _ _
  apply (report_confined hm message).bind
  rintro _ ⟨time, rfl⟩
  exact fallbackBlock_confined hm message time

theorem node?_confined_of
    (hbelow : Ensures (Confined o r scene ns start) (nodes scene m.children) fun _ => True) :
    Ensures (Confined o r scene ns start) (node? scene m) fun _ => True := by
  rw [node?_eq]
  split
  · exact ensures_pure trivial
  apply (component?_confined (.node hm)).bind
  intro c? hc
  cases c? with
  | none => exact (note_confined _).bind fun _ _ => ensures_pure trivial
  | some component =>
    apply ensures_get.bind
    intro p _
    split
    · apply (keep_confined hm _).bind
      intro _ _
      exact ensures_pure trivial
    apply (instantiate_confined hm (hc component rfl)).bind
    intro result _
    cases result with
    | ok output =>
      apply ensures_get.bind
      intro q _
      apply hbelow.bind
      intro _ _
      exact ensures_pure trivial
    | error e =>
      apply (fail_confined hm e.message).bind
      intro _ _
      exact ensures_pure trivial

end

section

variable (o : RenderOptions σ) (r : Registry σ) (scene : Scene) (ns : List Node) (start : σ)

mutual

theorem node?_confined : ∀ n : Node, n.nodes ⊆ ns →
    Ensures (Confined o r scene ns start) (node? scene n) fun _ => True
  | .mk id type props order children conditions responsive styles animation accessibility
      errorFallback => by
    intro hn
    rw [Node.nodes_eq] at hn
    obtain ⟨hself, hbelow⟩ := List.cons_subset.1 hn
    exact node?_confined_of hself (nodes_confined children hbelow)

/-- A pass over nodes calls only what the nodes in their trees ask for. -/
theorem nodes_confined : ∀ ms : List Node, Node.nodesOf ms ⊆ ns →
    Ensures (Confined o r scene ns start) (nodes scene ms) fun _ => True
  | [] => by
    intro _
    rw [nodes]
    exact ensures_pure trivial
  | m :: ms => by
    intro hms
    obtain ⟨hm, hms⟩ := List.append_subset.1 hms
    rw [nodes]
    apply (node?_confined m hm).bind
    intro b? _
    apply (nodes_confined ms hms).bind
    intro bs _
    exact ensures_pure trivial

end

end

end Pass

end PageConfig
