import PageConfig.Proofs.View.Retimed
import PageConfig.Proofs.View.Shown

/-!
# Isolation

Two passes over one document with registries that differ in the unit of one type. Up to
that type the passes agree, and a node that uses it acts on no more than the failures of
the ids in its own tree. With distinct ids, nothing of it reaches the other nodes, but for
the time: a node that fails takes its time, and what fails later is told later.
-/

set_option autoImplicit false

namespace PageConfig

open Effect

variable {σ : Type}

/-- The source gives the unit, whatever the outside is. -/
def Source.Gives (source : Source σ) (unit : Factory σ) : Prop :=
  ∀ world, source.resolve.Yields world fun found _ => found.1 = unit

theorem Source.Gives.loads {a b : Source σ} {unit : Factory σ} (h : a.Gives unit)
    (hab : a.Loads b) : b.Gives unit := by
  cases hab with
  | same => exact h
  | @loaded loader factory world hload =>
    have hresolve := outcome_resolve_lazy loader world
    rcases hrun : loader.outcome world with ⟨r, w⟩
    rw [hrun] at hload hresolve
    obtain rfl : r = .ok (.ok factory) := hload
    have hunit : factory = unit := (h world).of_outcome hresolve
    exact fun _ => yields_pure hunit

theorem Source.Gives.calm {source : Source σ} {unit : Factory σ} (h : source.Gives unit) :
    source.Calm := by
  cases source with
  | ready factory => trivial
  | lazy loader loaded =>
    cases loaded with
    | some factory => trivial
    | none =>
      intro world
      apply (yields_bind_iff.1 (h world)).imp
      exact fun _ _ _ => trivial

/-- The entries give one unit, which is a function of its props. -/
structure Entry.Alike (e f : Entry σ) : Prop where
  displayName : e.displayName = f.displayName
  defaults : e.defaults = f.defaults
  unit : ∃ unit : Factory σ, unit.Steady ∧ e.source.Gives unit ∧ f.source.Gives unit

theorem Entry.Alike.loads {e f e' f' : Entry σ} (h : e.Alike f) (he : e.Loads e')
    (hf : f.Loads f') : e'.Alike f' := by
  obtain ⟨unit, hunit, heunit, hfunit⟩ := h.unit
  refine ⟨?_, ?_, unit, hunit, heunit.loads he.source, hfunit.loads hf.source⟩
  · rw [he.displayName, hf.displayName, h.displayName]
  · rw [he.defaults, hf.defaults, h.defaults]

/-- The registries have the same types, and alike entries for all types but one. -/
structure Registry.AlikeBut (type : String) (r s : Registry σ) : Prop where
  has : ∀ other, r.has other = s.has other
  entries : ∀ other, other ≠ type → Option.Rel Entry.Alike (r.get? other) (s.get? other)

theorem Registry.AlikeBut.loads {type : String} {r s r' s' : Registry σ} (h : r.AlikeBut type s)
    (hr : r.Loads r') (hs : s.Loads s') : r'.AlikeBut type s' where
  has other := by rw [hr.has, hs.has, h.has]
  entries other hother := by
    have h := h.entries other hother
    have hr := hr other
    have hs := hs other
    revert h hr hs
    rcases r.get? other with _ | e <;> rcases s.get? other with _ | f <;>
      rcases r'.get? other with _ | e' <;> rcases s'.get? other with _ | f' <;>
      rintro (h | _) (hr | _) (hs | _)
    · exact .none
    · exact .some (h.loads hr hs)

theorem Registry.AlikeBut.get {type other : String} {r s : Registry σ} (h : r.AlikeBut type s)
    (hother : other ≠ type) (v w : σ) :
    Matched (fun found found' => found.1 = found'.1 ∧
        (∀ c, found.1 = some c → c.factory.Steady) ∧ found.2.AlikeBut type found'.2)
      ((r.get other).outcome v).1 ((s.get other).outcome w).1 := by
  have hentries := h.entries other hother
  rcases he : r.get? other with _ | e <;> rcases hf : s.get? other with _ | f <;>
    rw [he, hf] at hentries <;> rcases hentries with hef | _
  · rw [outcome_get_of_none he, outcome_get_of_none hf]
    exact .returns ⟨rfl, nofun, h⟩
  · obtain ⟨unit, hunit, heunit, hfunit⟩ := hef.unit
    obtain ⟨⟨_, next⟩, v', hv, rfl⟩ := heunit v
    obtain ⟨⟨_, next'⟩, w', hw, rfl⟩ := hfunit w
    have hr := outcome_get_of_some he v
    have hs := outcome_get_of_some hf w
    rw [hv] at hr
    rw [hw] at hs
    rw [hr, hs]
    refine .returns ⟨?_, fun c hc => ?_, h.loads (get_finds hr).loads (get_finds hs).loads⟩
    · rw [hef.displayName, hef.defaults]
    · cases hc
      exact hunit

namespace Node

/-- Neither a node of the tree nor the fallback of one has the type. -/
def Avoids (type : String) (n : Node) : Prop :=
  ∀ m ∈ n.nodes, m.type ≠ type ∧ ∀ f, m.errorFallback = some f → f.type ≠ type

theorem Avoids.child {type : String} {n : Node} (h : n.Avoids type) :
    ∀ c ∈ n.children, c.Avoids type := by
  intro c hc m hm
  apply h m
  rw [nodes_eq]
  exact List.mem_cons_of_mem _ (mem_nodesOf.2 ⟨c, hc, hm⟩)

theorem Avoids.arranged {type : String} {n : Node} (h : n.Avoids type) :
    n.arranged.Avoids type := by
  intro m hm
  obtain ⟨l, hl, rfl⟩ := mem_nodes_arranged n hm
  rw [arranged_type, arranged_errorFallback]
  exact h l hl

end Node

namespace Pass

/-- The passes agree on what a pass reads of nodes with these ids that avoid the type. -/
structure Alike (o : RenderOptions σ) (type : String) (ids : String → Prop) (p q : Pass σ) :
    Prop where
  pure : o.Pure
  left : p.renderer.options = o
  right : q.renderer.options = o
  retries : q.renderer.retries = p.renderer.retries
  failures : ∀ id, ids id → q.renderer.failures.get? id = p.renderer.failures.get? id
  registries : p.registry.AlikeBut type q.registry

section

variable {o : RenderOptions σ} {type : String} {ids : String → Prop}

theorem Alike.ofParts {p q p' q' : Pass σ} (h : Alike o type ids p q)
    (hp : p'.renderer = p.renderer) (hq : q'.renderer = q.renderer)
    (hregistries : p'.registry.AlikeBut type q'.registry) : Alike o type ids p' q' where
  pure := h.pure
  left := hp ▸ h.left
  right := hq ▸ h.right
  retries := by rw [hp, hq, h.retries]
  failures := by rw [hp, hq]; exact h.failures
  registries := hregistries

theorem call_agree {α β : Type} {P : α → β → Prop} {e : Effect σ α} {f : Effect σ β}
    (hends : ∀ s t, Matched P (e.outcome s).1 (f.outcome t).1) :
    Agree (Alike o type ids) (call e) (call f) P :=
  agree_within (fun _ _ _ _ hpq => hpq.ofParts rfl rfl hpq.registries) hends

theorem component?_agree {other : String} (hother : other ≠ type) :
    Agree (Alike o type ids) (component? other) (component? other)
      fun c? c?' => c? = c?' ∧ ∀ c, c? = some c → c.factory.Steady := by
  intro p q hpq
  have hget := hpq.registries.get hother p.world q.world
  rw [component?_outcome, component?_outcome]
  rcases hp : (p.registry.get other).outcome p.world with ⟨r, v⟩
  rcases hq : (q.registry.get other).outcome q.world with ⟨r', w⟩
  rw [hp, hq] at hget
  cases hget with
  | panics e => exact ⟨.panics e, hpq.ofParts rfl rfl hpq.registries⟩
  | returns hfound =>
    obtain ⟨hsame, hsteady, hregistries⟩ := hfound
    exact ⟨.returns ⟨hsame, hsteady⟩, hpq.ofParts rfl rfl hregistries⟩

theorem note_agree (d : Diagnostic) :
    Agree (Alike (σ := σ) o type ids) (note d) (note d) fun _ _ => True :=
  agree_modify fun _ _ hpq => hpq.ofParts rfl rfl hpq.registries

theorem instantiate_agree (id other : String) {factory : Factory σ} (h : factory.Steady)
    (props : Props) : Agree (Alike o type ids) (instantiate id other factory props)
      (instantiate id other factory props) Eq := by
  apply (call_agree (h.contained props).matched).bind
  rintro result _ rfl
  apply agree_get_bind
  intro p q hpq
  apply Agree.bind (agree_modify ?_)
  · intro _ _ _
    have hsample (metric metric' : Metric) : Agree (Alike (σ := σ) o type ids)
        (do modify fun p => { p with metrics := p.metrics ++ [metric] }
            return result)
        (do modify fun p => { p with metrics := p.metrics ++ [metric'] }
            return result) Eq := by
      apply Agree.bind (agree_modify ?_)
      · intro _ _ _
        exact agree_pure rfl
      · exact fun _ _ h => h.ofParts rfl rfl h.registries
    rw [hpq.left, hpq.right]
    -- the counts differ, what the callback returns does not
    split
    · rename_i onMetric honMetric
      have hreturns := hpq.pure.onMetric onMetric honMetric
      apply (call_agree ((hreturns _).gives.matched (hreturns _).gives)).bind
      intro _ _ _
      exact hsample _ _
    · exact hsample _ _
  · intro p' q' h
    exact ⟨hpq.pure, hpq.left, hpq.right, hpq.retries, hpq.failures, h.registries⟩

theorem ownFallback?_agree (scene : Scene) {fallback : Node} (h : fallback.type ≠ type)
    (error : String) : Agree (Alike o type ids) (ownFallback? scene fallback error)
      (ownFallback? scene fallback error) Eq := by
  apply (component?_agree h).bind
  rintro c? _ ⟨rfl, hc⟩
  cases c? with
  | none => exact agree_pure rfl
  | some component =>
    apply (call_agree ((hc component rfl).contained _).matched).bind
    rintro result _ rfl
    cases result <;> exact agree_pure rfl

variable [Clock σ]

theorem toldNow_agree (x : Fault) : Agree (Alike o type ids) (toldNow x) (toldNow x)
    fun failure failure' => x.Timed σ failure ∧ x.Timed σ failure' := by
  have hnow (s t : σ) : Matched (fun time time' => Clock.Shows σ time ∧ Clock.Shows σ time')
      ((Effect.now : Effect σ UInt64).outcome s).1 ((Effect.now : Effect σ UInt64).outcome t).1 :=
    .returns ⟨⟨s, rfl⟩, t, rfl⟩
  apply (call_agree hnow).bind
  rintro time time' ⟨htime, htime'⟩
  exact agree_pure ⟨⟨time, htime, rfl⟩, time', htime', rfl⟩

theorem report_agree (x : Fault) : Agree (Alike o type ids) (report x) (report x)
    fun failure failure' => x.Timed σ failure ∧ x.Timed σ failure' := by
  apply (toldNow_agree x).bind
  intro failure failure' htimed
  apply agree_get_bind
  intro p q hpq
  rw [hpq.left, hpq.right]
  have htell (failure : Failure) := (hpq.pure.toCalm.tell failure).gives
  apply (call_agree ((htell failure).matched (htell failure'))).bind
  intro _ _ _
  exact agree_pure htimed

section

variable {id other error : String} {context : Context} {failure failure' : Failure}
  (hx : Fault.Timed σ ⟨id, other, error, context⟩ failure)
  (hx' : Fault.Timed σ ⟨id, other, error, context⟩ failure')

include hx hx'

theorem presentation_agree (scene : Scene) : Agree (Alike o type ids) (presentation scene failure)
    (presentation scene failure') (o.Retold ⟨id, other, error, context⟩) := by
  apply agree_get_bind
  intro p q hpq
  rw [hpq.left, hpq.right]
  split
  · rename_i fallback hfallback
    exact call_agree (hpq.pure.retold hfallback hx hx')
  · obtain ⟨time, -, rfl⟩ := hx
    obtain ⟨time', -, rfl⟩ := hx'
    exact agree_pure (.inl rfl)

theorem fallbackBlock_agree (scene : Scene) {errorFallback : Option Node}
    (h : ∀ f, errorFallback = some f → f.type ≠ type) :
    Agree (Alike o type ids) (fallbackBlock scene id other errorFallback failure)
      (fallbackBlock scene id other errorFallback failure') (Block.Retimed o context) := by
  have hpresentation : Agree (Alike o type ids) (presentation scene failure)
      (presentation scene failure') (o.Retold _) := presentation_agree hx hx' scene
  obtain ⟨time, -, rfl⟩ := hx
  obtain ⟨time', -, rfl⟩ := hx'
  have hblock (v w : Value) (hvw : o.Retold ⟨id, other, error, context⟩ v w) :
      Agree (Alike o type ids)
        (do return Block.fallback id other error ((← get).renderer.retryCount id) v)
        (do return Block.fallback id other error ((← get).renderer.retryCount id) w)
        (Block.Retimed o context) := by
    apply agree_get_bind
    intro p q hpq
    rw [Renderer.retryCount, Renderer.retryCount, hpq.retries]
    exact agree_pure (.fallback hvw)
  unfold fallbackBlock
  cases errorFallback with
  | none => exact hpresentation.bind hblock
  | some fallback =>
    apply (ownFallback?_agree scene (h fallback rfl) error).bind
    rintro own _ rfl
    cases own with
    | none => exact hpresentation.bind hblock
    | some output => exact hblock output output (.inl rfl)

end

section

variable (scene : Scene) {n : Node} (h : ∀ f, n.errorFallback = some f → f.type ≠ type)
  (message : String)

include h

theorem keep_agree : Agree (Alike o type ids) (keep scene n message) (keep scene n message)
    (Block.Retimed o scene.context) := by
  apply (toldNow_agree _).bind
  rintro failure failure' ⟨hx, hx'⟩
  exact fallbackBlock_agree hx hx' scene h

theorem fallbackBlock_keep_agree {failure : Failure}
    (hx : (n.fault scene message).Timed σ failure) :
    Agree (Alike o type ids) (fallbackBlock scene n.id n.type n.errorFallback failure)
      (keep scene n message) (Block.Retimed o scene.context) := by
  have hnow : Agree (Alike o type ids) (pure failure) (toldNow (n.fault scene message))
      fun told told' => told = failure ∧ (n.fault scene message).Timed σ told' := fun p q hpq =>
    ⟨.returns ⟨rfl, _, ⟨q.world, rfl⟩, rfl⟩, hpq.ofParts rfl rfl hpq.registries⟩
  have hboth : Agree (Alike o type ids)
      (pure failure >>= fallbackBlock scene n.id n.type n.errorFallback) (keep scene n message)
      (Block.Retimed o scene.context) := by
    apply hnow.bind
    rintro _ failure' ⟨rfl, hx'⟩
    exact fallbackBlock_agree hx hx' scene h
  rwa [pure_bind] at hboth

theorem fail_agree : Agree (Alike o type ids) (fail scene n message) (fail scene n message)
    (Block.Retimed o scene.context) := by
  apply Agree.bind (agree_modify ?_)
  · intro _ _ _
    apply (note_agree _).bind
    intro _ _ _
    apply (report_agree _).bind
    rintro failure failure' ⟨hx, hx'⟩
    exact fallbackBlock_agree hx hx' scene h
  · intro p q hpq
    refine ⟨hpq.pure, hpq.left, hpq.right, hpq.retries, fun id hid => ?_, hpq.registries⟩
    simp only [Renderer.failing, Dictionary.get?_insert, hpq.failures id hid]

end

abbrev ShowRetimed (o : RenderOptions σ) (type : String) (ids : String → Prop) (scene : Scene)
    (ns : List Node) : Prop :=
  Agree (Alike o type ids) (nodes scene ns) (nodes scene ns) (Block.RetimedAll o scene.context)

theorem node?_agree_of {scene : Scene} {n : Node} (havoids : n.Avoids type)
    (hids : ∀ m ∈ n.nodes, ids m.id)
    (hbelow : (∀ c ∈ n.children, c.Avoids type) → (∀ m ∈ Node.nodesOf n.children, ids m.id) →
      ShowRetimed o type ids scene n.children) :
    Agree (Alike o type ids) (node? scene n) (node? scene n)
      fun b? c? => Block.RetimedAll o scene.context b?.toList c?.toList := by
  rw [Node.nodes_eq] at hids
  obtain ⟨hid, hids⟩ := List.forall_mem_cons.1 hids
  obtain ⟨htype, hfallback⟩ := havoids n n.mem_nodes_self
  have hbelow := hbelow havoids.child hids
  rw [node?_eq]
  split
  · exact agree_pure .nil
  apply (component?_agree htype).bind
  rintro c? _ ⟨rfl, hc⟩
  cases c? with
  | none => exact (note_agree _).bind fun _ _ _ => agree_pure .nil
  | some component =>
    apply agree_get_bind
    intro p q hpq
    rw [hpq.failures n.id hid]
    split
    · apply (keep_agree scene hfallback _).bind
      intro b c hbc
      exact agree_pure (.cons hbc .nil)
    · apply (instantiate_agree n.id n.type (hc component rfl) _).bind
      rintro result _ rfl
      cases result with
      | ok output =>
        apply agree_get_bind
        intro p q hpq
        rw [hpq.left, hpq.right]
        apply hbelow.bind
        intro bs cs hbs
        exact agree_pure (.cons (.component hbs) .nil)
      | error e =>
        apply (fail_agree scene hfallback e.message).bind
        intro b c hbc
        exact agree_pure (.cons hbc .nil)

mutual

theorem node?_agree (scene : Scene) : ∀ n : Node, n.Avoids type → (∀ m ∈ n.nodes, ids m.id) →
    Agree (Alike o type ids) (node? scene n) (node? scene n)
      fun b? c? => Block.RetimedAll o scene.context b?.toList c?.toList
  | .mk _ _ _ _ children _ _ _ _ _ _ => fun havoids hids =>
    node?_agree_of havoids hids (nodes_agree scene children)

theorem nodes_agree (scene : Scene) : ∀ ns : List Node, (∀ n ∈ ns, n.Avoids type) →
    (∀ m ∈ Node.nodesOf ns, ids m.id) → ShowRetimed o type ids scene ns
  | [] => by
    intro _ _
    unfold ShowRetimed
    rw [nodes]
    exact agree_pure .nil
  | n :: ns => by
    intro havoids hids
    obtain ⟨hn, hns⟩ := List.forall_mem_cons.1 havoids
    unfold ShowRetimed
    rw [nodes]
    apply (node?_agree scene n hn fun m hm => hids m (List.mem_append_left _ hm)).bind
    intro b? c? hhead
    apply (nodes_agree scene ns hns fun m hm => hids m (List.mem_append_right _ hm)).bind
    intro bs cs hrest
    exact agree_pure (hhead.append hrest)

end

variable {known : String → Bool}

theorem nodes_cons_outcome {scene : Scene} {n : Node} {ns : List Node} {p q t : Pass σ}
    {b? : Option Block} {bs : List Block} (hb : (node? scene n).outcome p = (.ok b?, q))
    (hbs : (nodes scene ns).outcome q = (.ok bs, t)) :
    (nodes scene (n :: ns)).outcome p = (.ok (b?.toList ++ bs), t) := by
  rw [nodes, outcome_bind, hb]
  dsimp only
  rw [outcome_bind, hbs]
  rfl

end

end Pass

namespace Stage

end Stage

end PageConfig
