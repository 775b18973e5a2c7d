import PageConfig.Proofs.View.Visits

/-!
# What callbacks are told

A watch reads off the outside which samples and which faults callbacks were told of.
Where a callback leaves what it is told there, and units, loaders and the clock leave it
alone, the watch shows in sequence the samples and the faults of the visits of a pass.
-/

set_option autoImplicit false

namespace PageConfig

open Effect

variable {σ α : Type}

/-- What the outside keeps of what callbacks were told. -/
structure Watch (σ : Type) where
  samples : σ → List Metric
  faults : σ → List Fault

namespace Watch

variable (watch : Watch σ)

/-- From one state of the outside to the other, callbacks were told of just these. -/
structure Told (v : σ) (ms : List Metric) (fs : List Fault) (w : σ) : Prop where
  samples : watch.samples w = watch.samples v ++ ms
  faults : watch.faults w = watch.faults v ++ fs

def Tells (e : Effect σ α) (ms : List Metric) (fs : List Fault) : Prop :=
  ∀ w, watch.Told w ms fs (e.outcome w).2

def Silent (unit : Factory σ) : Prop := ∀ props, watch.Tells (unit props) [] []

inductive SilentSource : Source σ → Prop
  | ready {unit : Factory σ} (h : watch.Silent unit) : SilentSource (.ready unit)
  | lazy {loader : Loader σ} {loaded : Option (Factory σ)}
    (hloader : watch.Tells loader [] [])
    (hsupplied : ∀ w unit, (loader.outcome w).1 = .ok (.ok unit) → watch.Silent unit)
    (hloaded : ∀ unit, loaded = some unit → watch.Silent unit) :
    SilentSource (.lazy loader loaded)

/-- Callbacks leave what they are told where the watch sees it, and nothing else does. -/
structure Sees [Clock σ] (options : RenderOptions σ) (registry : Registry σ) : Prop where
  onMetric : ∀ f, options.onMetric = some f → ∀ metric, watch.Tells (f metric) [metric] []
  onError : ∀ f, options.onError = some f → ∀ failure, watch.Tells (f failure) [] [failure.toFault]
  fallback : ∀ f, options.fallback = some f → ∀ failure, watch.Tells (f failure) [] []
  sources : ∀ type entry, registry.get? type = some entry → watch.SilentSource entry.source
  clock : watch.Tells Effect.now [] []

end Watch

namespace RenderOptions

def toldSamples (o : RenderOptions σ) (ms : List Metric) : List Metric :=
  if o.onMetric.isSome then ms else []

def toldFaults (o : RenderOptions σ) (fs : List Fault) : List Fault :=
  if o.onError.isSome then fs else []

theorem toldSamples_nil (o : RenderOptions σ) : o.toldSamples [] = [] := ite_self []

theorem toldFaults_nil (o : RenderOptions σ) : o.toldFaults [] = [] := ite_self []

theorem toldSamples_append (o : RenderOptions σ) (ms ms' : List Metric) :
    o.toldSamples (ms ++ ms') = o.toldSamples ms ++ o.toldSamples ms' := by
  unfold toldSamples
  split <;> rfl

theorem toldFaults_append (o : RenderOptions σ) (fs fs' : List Fault) :
    o.toldFaults (fs ++ fs') = o.toldFaults fs ++ o.toldFaults fs' := by
  unfold toldFaults
  split <;> rfl

end RenderOptions

def Visit.fault? (scene : Scene) : Visit → Option Fault
  | .failed n _ message _ => some (n.fault scene message)
  | _ => none

namespace Watch

variable {watch : Watch σ} {u v w : σ} {ms ms' : List Metric} {fs fs' : List Fault}

theorem Told.refl (w : σ) : watch.Told w [] [] w :=
  ⟨(List.append_nil _).symm, (List.append_nil _).symm⟩

theorem Told.trans (h : watch.Told u ms fs v) (h' : watch.Told v ms' fs' w) :
    watch.Told u (ms ++ ms') (fs ++ fs') w where
  samples := by rw [h'.samples, h.samples, List.append_assoc]
  faults := by rw [h'.faults, h.faults, List.append_assoc]

theorem Silent.contained {unit : Factory σ} (h : watch.Silent unit) :
    watch.Silent unit.contained := by
  intro props w
  rw [unit.contained_world]
  exact h props w

theorem SilentSource.loads {a b : Source σ} (h : watch.SilentSource a) (hab : a.Loads b) :
    watch.SilentSource b := by
  cases hab with
  | same => exact h
  | @loaded loader unit world hunit =>
    cases h with
    | lazy hloader hsupplied _ =>
      refine .lazy hloader hsupplied fun other hother => ?_
      obtain rfl := Option.some.inj hother
      exact hsupplied world unit hunit

theorem SilentSource.resolve {source next : Source σ} {unit : Factory σ}
    (h : watch.SilentSource source) (hresolve : source.resolve.outcome v = (.ok (unit, next), w)) :
    watch.Told v [] [] w ∧ watch.Silent unit := by
  cases h with
  | ready h =>
    cases hresolve
    exact ⟨.refl v, h⟩
  | @lazy loader loaded hloader hsupplied hloaded =>
    cases loaded with
    | some unit =>
      cases hresolve
      exact ⟨.refl v, hloaded unit rfl⟩
    | none =>
      have htold := hloader v
      have hunit := hsupplied v
      rw [Source.outcome_resolve_lazy] at hresolve
      rcases hload : loader.outcome v with ⟨p | e | unit, u⟩ <;>
        rw [hload] at hresolve htold hunit <;>
        cases hresolve
      · exact ⟨htold, fun _ _ => .refl _⟩
      · exact ⟨htold, hunit unit rfl⟩

section

variable [Clock σ]

theorem Sees.loads {o : RenderOptions σ} {r s : Registry σ} (h : watch.Sees o r)
    (hrs : r.Loads s) : watch.Sees o s where
  onMetric := h.onMetric
  onError := h.onError
  fallback := h.fallback
  sources type entry hentry := by
    obtain ⟨before, hbefore, hload⟩ := hrs.before hentry
    exact (h.sources type before hbefore).loads hload.source
  clock := h.clock

theorem Sees.finds {o : RenderOptions σ} {r s : Registry σ} {type : String}
    {c? : Option (Component σ)} (h : watch.Sees o r) (hfinds : r.Finds type v c? s w) :
    watch.Told v [] [] w ∧ ∀ c, c? = some c → watch.Silent c.factory := by
  cases hfinds with
  | absent => exact ⟨.refl v, nofun⟩
  | found hentry hresolve =>
    obtain ⟨htold, hunit⟩ := (h.sources type _ hentry).resolve hresolve
    refine ⟨htold, fun c hc => ?_⟩
    cases hc
    exact hunit

def SeesPass (watch : Watch σ) (p : Pass σ) : Prop := watch.Sees p.renderer.options p.registry

theorem SeesPass.becomes {p q : Pass σ} {r : Renderer σ} {ds : List Diagnostic}
    {ms : List Metric} (h : watch.SeesPass p) (hq : p.Becomes r ds ms q)
    (hoptions : r.options = p.renderer.options) : watch.SeesPass q := by
  rw [SeesPass, hq.renderer, hoptions]
  exact Sees.loads h hq.registry

end

section

variable {p : Pass σ}

theorem call_told {e : Effect σ α} (he : e.Returns) (h : watch.Tells e ms fs) :
    (Pass.call e).Yields p fun _ q => watch.Told p.world ms fs q.world := by
  obtain ⟨a, w, hw, -⟩ := he p.world
  have htold := h p.world
  rw [hw] at htold
  unfold Pass.call
  exact Yields.within ⟨a, w, hw, htold⟩ fun _ _ ht => ht

theorem unit_told {unit : Factory σ} (h : watch.Silent unit) (props : Props) :
    (Pass.call (unit.contained props)).Yields p fun _ q => watch.Told p.world [] [] q.world :=
  call_told (unit.contained_returns props) (h.contained props)

variable [Clock σ]

theorem component?_told (h : watch.SeesPass p) {type : String} {c? : Option (Component σ)}
    {q : Pass σ} (hfound : (Pass.component? type).outcome p = (.ok c?, q)) :
    watch.Told p.world [] [] q.world ∧ ∀ c, c? = some c → watch.Silent c.factory :=
  Sees.finds h (Pass.component?_finds hfound).1

theorem instantiate_told (h : watch.SeesPass p) (hcalm : p.Calm) (n : Node)
    {unit : Factory σ} (hunit : watch.Silent unit) (props : Props) :
    (Pass.instantiate n.id n.type unit props).Yields p fun _ q =>
      watch.Told p.world (p.renderer.options.toldSamples [n.sample p.renderer]) [] q.world := by
  apply (unit_told hunit props).bind
  intro result q hresult hq
  have hbecomes := (Pass.call_yields (unit.contained_returns props) p).of_outcome hresult
  apply yields_get_bind
  apply yields_modify_bind
  rw [hbecomes.renderer]
  cases honMetric : p.renderer.options.onMetric with
  | none =>
    apply yields_modify_bind
    apply yields_pure
    rw [RenderOptions.toldSamples, honMetric]
    exact hq
  | some onMetric =>
    apply (call_told (hcalm.options.onMetric onMetric honMetric _)
      (h.onMetric onMetric honMetric _)).bind
    intro _ t _ ht
    apply yields_modify_bind
    apply yields_pure
    rw [RenderOptions.toldSamples, honMetric]
    exact hq.trans ht

theorem toldNow_told (h : watch.SeesPass p) (x : Fault) :
    (Pass.toldNow x).Yields p fun _ q => watch.Told p.world [] [] q.world := by
  apply (call_told returns_now h.clock).bind
  intro time q _ hq
  exact yields_pure hq

theorem report_told (h : watch.SeesPass p) (hcalm : p.Calm) (x : Fault) :
    (Pass.report x).Yields p fun _ q =>
      watch.Told p.world [] (p.renderer.options.toldFaults [x]) q.world := by
  apply (toldNow_told h x).bind
  intro failure q hfailure hq
  obtain ⟨hbecomes, rfl⟩ := (Pass.toldNow_yields x p).of_outcome hfailure
  apply yields_get_bind
  rw [hbecomes.renderer]
  have htell : watch.Tells (p.renderer.options.tell failure) []
      (p.renderer.options.toldFaults [failure.toFault]) := by
    unfold RenderOptions.tell RenderOptions.toldFaults
    cases honError : p.renderer.options.onError with
    | none => exact .refl
    | some onError => exact h.onError onError honError failure
  apply (call_told (hcalm.options.tell failure) htell).bind
  intro _ t _ ht
  exact yields_pure (hq.trans ht)

theorem ownFallback?_told (h : watch.SeesPass p) (hcalm : p.registry.Calm) (scene : Scene)
    (fallback : Node) (error : String) :
    (Pass.ownFallback? scene fallback error).Yields p fun _ q =>
      watch.Told p.world [] [] q.world := by
  apply (Pass.component?_yields hcalm fallback.type).bind
  intro c? q hfound _
  obtain ⟨hq, hsilent⟩ := component?_told h hfound
  cases c? with
  | none => exact yields_pure hq
  | some component =>
    apply (unit_told (hsilent component rfl) _).bind
    intro result t _ ht
    cases result <;> exact yields_pure (hq.trans ht)

theorem presentation_told (h : watch.SeesPass p) (hcalm : p.Calm) (scene : Scene)
    (failure : Failure) : (Pass.presentation scene failure).Yields p fun _ q =>
      watch.Told p.world [] [] q.world := by
  apply yields_get_bind
  split
  · rename_i fallback hfallback
    exact call_told (hcalm.options.fallback fallback hfallback failure)
      (h.fallback fallback hfallback failure)
  · exact yields_pure (.refl p.world)

theorem fallbackBlock_told (h : watch.SeesPass p) (hcalm : p.Calm)
    (scene : Scene) (id type : String) (errorFallback : Option Node) (failure : Failure) :
    (Pass.fallbackBlock scene id type errorFallback failure).Yields p fun _ q =>
      watch.Told p.world [] [] q.world := by
  have hpresented (q : Pass σ) (hq : p.Becomes p.renderer [] [] q)
      (htold : watch.Told p.world [] [] q.world) : Effect.Yields (do
        let output ← Pass.presentation scene failure
        return Block.fallback id type failure.error ((← get).renderer.retryCount id) output) q
        fun _ t => watch.Told p.world [] [] t.world := by
    apply (presentation_told (h.becomes hq rfl) (hq.calm hcalm rfl) scene failure).bind
    intro output t _ ht
    exact yields_get_bind (yields_pure (htold.trans ht))
  unfold Pass.fallbackBlock
  cases errorFallback with
  | none => exact hpresented p (.refl p) (.refl p.world)
  | some fallback =>
    apply (ownFallback?_told h hcalm.registry scene fallback failure.error).bind
    intro own q hown hq
    have hbecomes := (Pass.ownFallback?_yields hcalm.registry scene fallback _).of_outcome hown
    cases own with
    | none => exact hpresented q hbecomes hq
    | some output => exact yields_get_bind (yields_pure hq)

theorem keep_told (h : watch.SeesPass p) (hcalm : p.Calm) (scene : Scene) (n : Node)
    (message : String) : (Pass.keep scene n message).Yields p fun _ q =>
      watch.Told p.world [] [] q.world := by
  apply (toldNow_told h _).bind
  intro failure q hfailure hq
  have hbecomes := ((Pass.toldNow_yields _ p).of_outcome hfailure).1
  apply (fallbackBlock_told (h.becomes hbecomes rfl) (hbecomes.calm hcalm rfl) scene n.id n.type
    n.errorFallback failure).imp
  exact fun _ _ ht => hq.trans ht

theorem fail_told (h : watch.SeesPass p) (hcalm : p.Calm) (scene : Scene)
    (n : Node) (message : String) : (Pass.fail scene n message).Yields p fun _ q =>
      watch.Told p.world [] (p.renderer.options.toldFaults [n.fault scene message])
        q.world := by
  apply yields_modify_bind
  apply yields_modify_bind
  -- what is remembered and noted is nothing that the watch looks at
  let f : Pass σ := { p with
    renderer := p.renderer.failing n.id message
    diagnostics := p.diagnostics ++ [.instantiationFailed n.id n.type message] }
  have hf : watch.SeesPass f := h
  have hcalmf : f.Calm := ⟨hcalm.options, hcalm.registry⟩
  refine Yields.bind (report_told hf hcalmf _) ?_
  intro failure t hreport ht
  have hbecomes := ((Pass.report_yields hcalmf _).of_outcome hreport).1
  apply (fallbackBlock_told (hf.becomes hbecomes rfl) (hbecomes.calm hcalmf rfl) scene n.id n.type
    n.errorFallback failure).imp
  intro _ u hu
  have hu := ht.trans hu
  rwa [List.append_nil, List.append_nil] at hu

end

variable [Clock σ]

/-- The pass went on to `q`, where the watch sees on, and the callbacks that there are were
told of these samples and faults. -/
structure Shows (watch : Watch σ) (p : Pass σ) (ms : List Metric) (fs : List Fault)
    (q : Pass σ) : Prop where
  options : q.renderer.options = p.renderer.options
  sees : watch.SeesPass q
  told : watch.Told p.world (p.renderer.options.toldSamples ms)
    (p.renderer.options.toldFaults fs) q.world

theorem Shows.refl {p : Pass σ} (h : watch.SeesPass p) : watch.Shows p [] [] p := by
  refine ⟨rfl, h, ?_⟩
  rw [RenderOptions.toldSamples_nil, RenderOptions.toldFaults_nil]
  exact .refl p.world

theorem Shows.trans {p q r : Pass σ} (h : watch.Shows p ms fs q) (h' : watch.Shows q ms' fs' r) :
    watch.Shows p (ms ++ ms') (fs ++ fs') r where
  options := h'.options.trans h.options
  sees := h'.sees
  told := by
    have hall := h.told.trans (h.options ▸ h'.told)
    rwa [← RenderOptions.toldSamples_append, ← RenderOptions.toldFaults_append] at hall

theorem Shows.quiet {p q : Pass σ} {ds : List Diagnostic} (h : watch.SeesPass p)
    (hq : p.Becomes p.renderer ds ms q) (htold : watch.Told p.world [] [] q.world) :
    watch.Shows p [] [] q := by
  refine ⟨by rw [hq.renderer], h.becomes hq rfl, ?_⟩
  rwa [RenderOptions.toldSamples_nil, RenderOptions.toldFaults_nil]

section

variable {scene : Scene} {p q r s : Pass σ} {n : Node} {component : Component σ}

theorem missing_shows (h : watch.SeesPass p)
    (hmissing : (Pass.component? n.type).outcome p = (.ok none, q))
    (hnote : (Pass.note (.missingComponent n.id n.type)).outcome q = (.ok (), r)) :
    watch.Shows p [] [] r := by
  have hq := (component?_told h hmissing).1
  refine .quiet h (Pass.missing_becomes hmissing hnote) ?_
  cases hnote
  exact hq

theorem kept_shows {message : String} {block : Block} (h : watch.SeesPass p) (hcalm : p.Calm)
    (hfound : (Pass.component? n.type).outcome p = (.ok (some component), q))
    (hblock : (Pass.keep scene n message).outcome q = (.ok block, r)) :
    watch.Shows p [] [] r := by
  have hq := (Pass.component?_becomes hfound).1
  have hkept := keep_told (h.becomes hq rfl) (hq.calm hcalm rfl) scene n message
  refine .quiet h (Pass.kept_becomes hcalm hfound hblock).1 ?_
  exact (component?_told h hfound).1.trans (hkept.of_outcome hblock)

theorem made_shows {result : Except RenderError Value} (h : watch.SeesPass p) (hcalm : p.Calm)
    (hfound : (Pass.component? n.type).outcome p = (.ok (some component), q))
    (hmade : (Pass.instantiate n.id n.type component.factory
      (n.givenProps scene component)).outcome q = (.ok result, r)) :
    watch.Shows p [n.sample p.renderer] [] r := by
  have hq := (Pass.component?_becomes hfound).1
  have hr := Pass.made_becomes hcalm hfound hmade
  obtain ⟨hcalled, hunit⟩ := component?_told h hfound
  have htold := (instantiate_told (h.becomes hq rfl) (hq.calm hcalm rfl) n
    (hunit component rfl) _).of_outcome hmade
  rw [hq.renderer] at htold
  refine ⟨by rw [hr.renderer]; rfl, h.becomes hr rfl, ?_⟩
  rw [RenderOptions.toldFaults_nil]
  exact hcalled.trans htold

theorem failed_shows {message : String} {block : Block} (h : watch.SeesPass r) (hcalm : r.Calm)
    (hblock : (Pass.fail scene n message).outcome r = (.ok block, s)) :
    watch.Shows r [] [n.fault scene message] s := by
  have hs := ((Pass.fail_yields hcalm scene n message).of_outcome hblock).1
  refine ⟨by rw [hs.renderer]; rfl, h.becomes hs rfl, ?_⟩
  rw [RenderOptions.toldSamples_nil]
  exact (fail_told h hcalm scene n message).of_outcome hblock

end

/-- Over the visits of a pass, callbacks are told of the samples and faults of the visits. -/
theorem visits_shows {scene : Scene} {p q : Pass σ} {ns : List Node} {vs : List Visit}
    {bs : List Block} (hvs : Pass.Visits scene p ns vs bs q) (h : watch.SeesPass p)
    (hcalm : p.Calm) :
    watch.Shows p (vs.filterMap Visit.metric?) (vs.filterMap (Visit.fault? scene)) q := by
  induction hvs with
  | done p => exact .refl h
  | hidden _ _ ih => exact ih h hcalm
  | missing _ hmissing hnote _ ih =>
    have hr := missing_shows h hmissing hnote
    exact hr.trans (ih hr.sees ((Pass.missing_becomes hmissing hnote).calm hcalm rfl))
  | kept _ hfound hfailed hblock _ ih =>
    have hr := kept_shows h hcalm hfound hblock
    exact hr.trans (ih hr.sees ((Pass.kept_becomes hcalm hfound hblock).1.calm hcalm rfl))
  | made _ hfound _ hmade hmetric hbelow _ ihbelow ih =>
    have hr := made_shows h hcalm hfound hmade
    have hcalmr := (Pass.made_becomes hcalm hfound hmade).calm hcalm rfl
    have hs := hr.trans (ihbelow hr.sees hcalmr)
    have ht := hs.trans (ih hs.sees (hbelow.calm hcalmr))
    obtain rfl := Pass.sample_eq hcalm hfound hmade hmetric
    rw [List.cons_append, List.filterMap_cons, List.filterMap_cons, List.filterMap_append,
      List.filterMap_append]
    exact ht
  | failed _ hfound _ hmade hmetric hblock _ ih =>
    have hr := made_shows h hcalm hfound hmade
    have hcalmr := (Pass.made_becomes hcalm hfound hmade).calm hcalm rfl
    have hs := hr.trans (failed_shows hr.sees hcalmr hblock)
    have hcalms := (Pass.failed_becomes hcalm hfound hmade hblock).1.calm hcalm rfl
    obtain rfl := Pass.sample_eq hcalm hfound hmade hmetric
    exact hs.trans (ih hs.sees hcalms)

end Watch

end PageConfig
