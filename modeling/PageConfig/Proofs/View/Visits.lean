import PageConfig.Proofs.Document.Nodes
import PageConfig.Proofs.View.Steps

/-!
# The visits of a pass

A pass over nodes, told as the sequence of its visits. A node whose conditions hide
it is not visited; a visited node has no registered type, keeps the fallback of an
earlier failure, or has its component made or fails at it. Each case names the steps
that the pass takes, so that the steps it does not name are not taken.
-/

set_option autoImplicit false

namespace PageConfig

open Effect

variable {σ : Type}

/-- A visit of a node whose conditions hold. -/
inductive Visit where
  | missing (n : Node)
  | kept (n : Node) (block : Block)
  | made (n : Node) (metric : Metric)
  | failed (n : Node) (metric : Metric) (message : String) (block : Block)

namespace Visit

def node : Visit → Node
  | missing n | kept n _ | made n _ | failed n _ _ _ => n

def metric? : Visit → Option Metric
  | made _ metric | failed _ metric _ _ => some metric
  | _ => none

def diagnostics : Visit → List Diagnostic
  | missing n => [.missingComponent n.id n.type]
  | failed n _ message _ => [.instantiationFailed n.id n.type message]
  | _ => []

def fallback? : Visit → Option Block
  | kept _ block | failed _ _ _ block => some block
  | _ => none

def act (r : Renderer σ) : Visit → Renderer σ
  | missing _ | kept _ _ => r
  | made n _ => r.counted n.id
  | failed n _ message _ => (r.counted n.id).failing n.id message

/-- What the renderer says of a visit: an attempt is made just where the node has not
failed, is counted, and a fallback shows the failure with the retries so far. -/
def Fits (r : Renderer σ) : Visit → Prop
  | missing _ => True
  | kept n block => ∃ message output, r.failures.get? n.id = some message ∧
    block = .fallback n.id n.type message (r.retryCount n.id) output
  | made n metric => r.failures.get? n.id = none ∧ metric = n.sample r
  | failed n metric message block => r.failures.get? n.id = none ∧ metric = n.sample r ∧
    ∃ output, block = .fallback n.id n.type message (r.retryCount n.id) output

@[simp] theorem act_options (r : Renderer σ) (v : Visit) : (v.act r).options = r.options := by
  cases v <;> rfl

@[simp] theorem act_retries (r : Renderer σ) (v : Visit) : (v.act r).retries = r.retries := by
  cases v <;> rfl

def AllFit : Renderer σ → List Visit → Prop
  | _, [] => True
  | r, v :: vs => v.Fits r ∧ AllFit (v.act r) vs

theorem allFit_append {r : Renderer σ} {vs ws : List Visit} :
    AllFit r (vs ++ ws) ↔ AllFit r vs ∧ AllFit (vs.foldl act r) ws := by
  induction vs generalizing r with
  | nil => simp [AllFit]
  | cons v vs ih => simp [AllFit, ih, and_assoc]

@[simp] theorem foldl_act_options (r : Renderer σ) (vs : List Visit) :
    (vs.foldl act r).options = r.options := by
  induction vs generalizing r with
  | nil => rfl
  | cons v vs ih => rw [List.foldl_cons, ih, act_options]

@[simp] theorem foldl_act_retries (r : Renderer σ) (vs : List Visit) :
    (vs.foldl act r).retries = r.retries := by
  induction vs generalizing r with
  | nil => rfl
  | cons v vs ih => rw [List.foldl_cons, ih, act_retries]

theorem foldl_act_failures {r : Renderer σ} {vs : List Visit} {id : String}
    (h : ∀ v ∈ vs, v.node.id ≠ id) :
    (vs.foldl act r).failures.get? id = r.failures.get? id := by
  induction vs generalizing r with
  | nil => rfl
  | cons v vs ih =>
    obtain ⟨hv, hvs⟩ := List.forall_mem_cons.1 h
    rw [List.foldl_cons, ih hvs]
    cases v with
    | failed n metric message block =>
      have hv : n.id ≠ id := hv
      rw [act, Renderer.failing, Dictionary.get?_insert, if_neg hv]
      rfl
    | _ => rfl

theorem foldl_act_updates {r : Renderer σ} {vs : List Visit} {id : String}
    (h : ∀ v ∈ vs, v.node.id ≠ id) :
    (vs.foldl act r).updates.get? id = r.updates.get? id := by
  have hcounted (r : Renderer σ) (n : Node) (hn : n.id ≠ id) :
      (r.counted n.id).updates.get? id = r.updates.get? id := by
    rw [Renderer.counted, Dictionary.get?_insert, if_neg hn]
  induction vs generalizing r with
  | nil => rfl
  | cons v vs ih =>
    obtain ⟨hv, hvs⟩ := List.forall_mem_cons.1 h
    rw [List.foldl_cons, ih hvs]
    cases v with
    | made n metric => exact hcounted r n hv
    | failed n metric message block => exact hcounted r n hv
    | _ => rfl

end Visit

namespace Pass

section

variable {scene : Scene} {p q r s : Pass σ} {n : Node} {component : Component σ}

theorem missing_becomes (hmissing : (component? n.type).outcome p = (.ok none, q))
    (hnote : (note (.missingComponent n.id n.type)).outcome q = (.ok (), r)) :
    p.Becomes p.renderer [.missingComponent n.id n.type] [] r := by
  have hq := (component?_becomes hmissing).1
  have hr := (note_yields _ q).of_outcome hnote
  rw [hq.renderer] at hr
  exact hr.after hq

theorem made_becomes {result : Except RenderError Value} (hcalm : p.Calm)
    (hfound : (component? n.type).outcome p = (.ok (some component), q))
    (hmade : (instantiate n.id n.type component.factory (n.givenProps scene component)).outcome q
      = (.ok result, r)) :
    p.Becomes (p.renderer.counted n.id) [] [n.sample p.renderer] r := by
  have hq := (component?_becomes hfound).1
  have hr := (instantiate_yields (hq.calm hcalm rfl) n _ _).of_outcome hmade
  rw [hq.renderer] at hr
  exact hr.after hq

theorem sample_eq {metric : Metric} (hcalm : p.Calm)
    (hfound : (component? n.type).outcome p = (.ok (some component), q))
    {result : Except RenderError Value}
    (hmade : (instantiate n.id n.type component.factory (n.givenProps scene component)).outcome q
      = (.ok result, r)) (hmetric : r.metrics = q.metrics ++ [metric]) :
    metric = n.sample p.renderer := by
  have hq := (component?_becomes hfound).1
  have hr := made_becomes hcalm hfound hmade
  rw [hq.metrics, List.append_nil] at hmetric
  exact List.singleton_inj.1 (List.append_cancel_left (hmetric.symm.trans hr.metrics))

end

variable [Clock σ]

/-- The pass over the nodes from `p` to `q`, with its visits and blocks in sequence. -/
inductive Visits (scene : Scene) :
    Pass σ → List Node → List Visit → List Block → Pass σ → Prop
  | done (p : Pass σ) : Visits scene p [] [] [] p
  | hidden {p t : Pass σ} {n : Node} {ns : List Node} {vs : List Visit} {bs : List Block}
    (hhidden : Condition.allHold scene.data n.conditions = false)
    (hrest : Visits scene p ns vs bs t) : Visits scene p (n :: ns) vs bs t
  | missing {p q r t : Pass σ} {n : Node} {ns : List Node} {vs : List Visit} {bs : List Block}
    (hshown : Condition.allHold scene.data n.conditions = true)
    (hmissing : (component? n.type).outcome p = (.ok none, q))
    (hnote : (note (.missingComponent n.id n.type)).outcome q = (.ok (), r))
    (hrest : Visits scene r ns vs bs t) : Visits scene p (n :: ns) (.missing n :: vs) bs t
  | kept {p q r t : Pass σ} {n : Node} {ns : List Node} {vs : List Visit} {bs : List Block}
    {component : Component σ} {message : String} {block : Block}
    (hshown : Condition.allHold scene.data n.conditions = true)
    (hfound : (component? n.type).outcome p = (.ok (some component), q))
    (hfailed : q.renderer.failures.get? n.id = some message)
    (hblock : (keep scene n message).outcome q = (.ok block, r))
    (hrest : Visits scene r ns vs bs t) :
    Visits scene p (n :: ns) (.kept n block :: vs) (block :: bs) t
  | made {p q r s t : Pass σ} {n : Node} {ns : List Node} {below vs : List Visit}
    {children bs : List Block} {component : Component σ} {output : Value} {metric : Metric}
    (hshown : Condition.allHold scene.data n.conditions = true)
    (hfound : (component? n.type).outcome p = (.ok (some component), q))
    (hfresh : q.renderer.failures.get? n.id = none)
    (hmade : (instantiate n.id n.type component.factory (n.givenProps scene component)).outcome q
      = (.ok (.ok output), r))
    (hmetric : r.metrics = q.metrics ++ [metric])
    (hbelow : Visits scene r n.children below children s)
    (hrest : Visits scene s ns vs bs t) :
    Visits scene p (n :: ns) (.made n metric :: below ++ vs)
      (n.block scene component output r.renderer.options.enableAnimations children :: bs) t
  | failed {p q r s t : Pass σ} {n : Node} {ns : List Node} {vs : List Visit} {bs : List Block}
    {component : Component σ} {e : RenderError} {metric : Metric} {block : Block}
    (hshown : Condition.allHold scene.data n.conditions = true)
    (hfound : (component? n.type).outcome p = (.ok (some component), q))
    (hfresh : q.renderer.failures.get? n.id = none)
    (hmade : (instantiate n.id n.type component.factory (n.givenProps scene component)).outcome q
      = (.ok (.error e), r))
    (hmetric : r.metrics = q.metrics ++ [metric])
    (hblock : (fail scene n e.message).outcome r = (.ok block, s))
    (hrest : Visits scene s ns vs bs t) :
    Visits scene p (n :: ns) (.failed n metric e.message block :: vs) (block :: bs) t

theorem Visits.append {scene : Scene} {p q t : Pass σ} {ms ns : List Node} {us vs : List Visit}
    {as bs : List Block} (h : Visits scene p ms us as q) (h' : Visits scene q ns vs bs t) :
    Visits scene p (ms ++ ns) (us ++ vs) (as ++ bs) t := by
  induction h with
  | done p => exact h'
  | hidden hhidden _ ih => exact .hidden hhidden (ih h')
  | missing hshown hmissing hnote _ ih => exact .missing hshown hmissing hnote (ih h')
  | kept hshown hfound hfailed hblock _ ih => exact .kept hshown hfound hfailed hblock (ih h')
  | made hshown hfound hfresh hmade hmetric hbelow _ _ ih =>
    rw [List.cons_append, List.append_assoc, List.cons_append, List.cons_append]
    exact .made hshown hfound hfresh hmade hmetric hbelow (ih h')
  | failed hshown hfound hfresh hmade hmetric hblock _ ih =>
    exact .failed hshown hfound hfresh hmade hmetric hblock (ih h')

theorem Visits.node_mem {scene : Scene} {p q : Pass σ} {ns : List Node} {vs : List Visit}
    {bs : List Block} (h : Visits scene p ns vs bs q) : ∀ v ∈ vs, v.node ∈ Node.nodesOf ns := by
  have hhead (n : Node) (ns : List Node) : n ∈ Node.nodesOf (n :: ns) := by
    rw [Node.nodesOf, Node.nodes_eq]
    exact List.mem_cons_self
  have hrest {m : Node} (n : Node) {ns : List Node} (hm : m ∈ Node.nodesOf ns) :
      m ∈ Node.nodesOf (n :: ns) := List.mem_append_right _ hm
  induction h with
  | done p => exact List.forall_mem_nil _
  | hidden _ _ ih => exact fun v hv => hrest _ (ih v hv)
  | missing _ _ _ _ ih =>
    exact List.forall_mem_cons.2 ⟨hhead _ _, fun v hv => hrest _ (ih v hv)⟩
  | kept _ _ _ _ _ ih =>
    exact List.forall_mem_cons.2 ⟨hhead _ _, fun v hv => hrest _ (ih v hv)⟩
  | made _ _ _ _ _ _ _ ihbelow ih =>
    refine List.forall_mem_cons.2 ⟨hhead _ _, fun v hv => ?_⟩
    rcases List.mem_append.1 hv with hv | hv
    · rw [Node.nodesOf, Node.nodes_eq]
      exact List.mem_cons_of_mem _ (List.mem_append_left _ (ihbelow v hv))
    · exact hrest _ (ih v hv)
  | failed _ _ _ _ _ _ _ ih =>
    exact List.forall_mem_cons.2 ⟨hhead _ _, fun v hv => hrest _ (ih v hv)⟩

section

variable {scene : Scene} {p q r s : Pass σ} {n : Node} {component : Component σ}

theorem kept_becomes {message : String} {block : Block} (hcalm : p.Calm)
    (hfound : (component? n.type).outcome p = (.ok (some component), q))
    (hblock : (keep scene n message).outcome q = (.ok block, r)) :
    p.Becomes p.renderer [] [] r ∧
      ∃ output, block = .fallback n.id n.type message (p.renderer.retryCount n.id) output := by
  have hq := (component?_becomes hfound).1
  have hr := (keep_yields (hq.calm hcalm rfl) scene n message).of_outcome hblock
  rw [hq.renderer] at hr
  exact ⟨hr.1.after hq, hr.2⟩

theorem failed_becomes {e : RenderError} {block : Block} (hcalm : p.Calm)
    (hfound : (component? n.type).outcome p = (.ok (some component), q))
    (hmade : (instantiate n.id n.type component.factory (n.givenProps scene component)).outcome q
      = (.ok (.error e), r))
    (hblock : (fail scene n e.message).outcome r = (.ok block, s)) :
    p.Becomes ((p.renderer.counted n.id).failing n.id e.message)
      [.instantiationFailed n.id n.type e.message] [n.sample p.renderer] s ∧
      ∃ output, block = .fallback n.id n.type e.message (p.renderer.retryCount n.id) output := by
  have hr := made_becomes hcalm hfound hmade
  obtain ⟨hs, hblock⟩ := (fail_yields (hr.calm hcalm rfl) scene n e.message).of_outcome hblock
  rw [hr.renderer] at hs hblock
  exact ⟨hr.trans hs, hblock⟩

end

/-- What the visits say is what they did to the renderer and what they noticed. -/
theorem Visits.becomes {scene : Scene} {p q : Pass σ} {ns : List Node} {vs : List Visit}
    {bs : List Block} (h : Visits scene p ns vs bs q) (hcalm : p.Calm) :
    Visit.AllFit p.renderer vs ∧ p.Becomes (vs.foldl Visit.act p.renderer)
      (vs.flatMap Visit.diagnostics) (vs.filterMap Visit.metric?) q := by
  induction h with
  | done p => exact ⟨trivial, .refl p⟩
  | hidden _ _ ih => exact ih hcalm
  | missing _ hmissing hnote _ ih =>
    have hr := missing_becomes hmissing hnote
    obtain ⟨hfit, hrest⟩ := ih (hr.calm hcalm rfl)
    rw [hr.renderer] at hfit hrest
    exact ⟨⟨trivial, hfit⟩, hr.trans hrest⟩
  | kept _ hfound hfailed hblock _ ih =>
    obtain ⟨hr, output, rfl⟩ := kept_becomes hcalm hfound hblock
    rw [(component?_becomes hfound).1.renderer] at hfailed
    obtain ⟨hfit, hrest⟩ := ih (hr.calm hcalm rfl)
    rw [hr.renderer] at hfit hrest
    exact ⟨⟨⟨_, output, hfailed, rfl⟩, hfit⟩, hr.trans hrest⟩
  | made _ hfound hfresh hmade hmetric _ _ ihbelow ih =>
    have hr := made_becomes hcalm hfound hmade
    have hcalmr := hr.calm hcalm rfl
    obtain rfl := sample_eq hcalm hfound hmade hmetric
    rw [(component?_becomes hfound).1.renderer] at hfresh
    obtain ⟨hfitbelow, hs⟩ := ihbelow hcalmr
    obtain ⟨hfit, hrest⟩ := ih (hs.calm hcalmr (Visit.foldl_act_options _ _))
    rw [hr.renderer] at hfitbelow hs
    have hs := hr.trans hs
    rw [hs.renderer] at hfit hrest
    have hrest := hs.trans hrest
    refine ⟨⟨⟨hfresh, rfl⟩, Visit.allFit_append.2 ⟨hfitbelow, hfit⟩⟩, ?_⟩
    simpa [Visit.act, Visit.diagnostics, Visit.metric?, List.filterMap_append] using hrest
  | failed _ hfound hfresh hmade hmetric hblock _ ih =>
    obtain ⟨hs, output, rfl⟩ := failed_becomes hcalm hfound hmade hblock
    obtain rfl := sample_eq hcalm hfound hmade hmetric
    rw [(component?_becomes hfound).1.renderer] at hfresh
    obtain ⟨hfit, hrest⟩ := ih (hs.calm hcalm rfl)
    rw [hs.renderer] at hfit hrest
    exact ⟨⟨⟨hfresh, rfl, output, rfl⟩, hfit⟩, hs.trans hrest⟩

theorem Visits.calm {scene : Scene} {p q : Pass σ} {ns : List Node} {vs : List Visit}
    {bs : List Block} (h : Visits scene p ns vs bs q) (hcalm : p.Calm) : q.Calm :=
  (h.becomes hcalm).2.calm hcalm (Visit.foldl_act_options _ _)

theorem node?_eq (scene : Scene) (n : Node) : node? (σ := σ) scene n = do
    if !Condition.allHold scene.data n.conditions then return none
    let some component ← component? n.type
      | note (.missingComponent n.id n.type)
        return none
    if let some message := (← get).renderer.failures.get? n.id then
      return some (← keep scene n message)
    match ← instantiate n.id n.type component.factory (n.givenProps scene component) with
    | .ok output =>
      let animated := (← get).renderer.options.enableAnimations
      return some (n.block scene component output animated (← nodes scene n.children))
    | .error e => return some (← fail scene n e.message) := by
  cases n with
  | mk id type props order children conditions responsive styles animation accessibility
      errorFallback =>
    rw [node?]
    simp only [fail, keep, bind_assoc]
    rfl

def Told (scene : Scene) (ns : List Node) (e : Effect (Pass σ) (List Block)) : Prop :=
  ∀ p : Pass σ, p.Calm → e.Yields p fun bs q => ∃ vs, Visits scene p ns vs bs q

theorem node?_told {scene : Scene} {n : Node}
    (hbelow : Told scene n.children (nodes (σ := σ) scene n.children)) {p : Pass σ}
    (hcalm : p.Calm) :
    (node? scene n).Yields p fun b? q => ∃ vs, Visits scene p [n] vs b?.toList q := by
  rw [node?_eq]
  split
  · rename_i hhidden
    rw [Bool.not_eq_true'] at hhidden
    exact yields_pure ⟨[], .hidden hhidden (.done p)⟩
  rename_i hshown
  rw [Bool.not_eq_true', Bool.not_eq_false] at hshown
  apply (component?_yields hcalm.registry n.type).bind
  rintro (_ | component) q hfound ⟨hq, -⟩
  · apply (note_yields _ q).bind
    intro _ r hnote _
    exact yields_pure ⟨_, .missing hshown hfound hnote (.done r)⟩
  have hcalmq := hq.calm hcalm rfl
  apply yields_get_bind
  split
  · rename_i message hfailed
    apply (keep_yields hcalmq scene n message).bind
    intro block r hblock _
    exact yields_pure ⟨_, .kept hshown hfound hfailed hblock (.done r)⟩
  rename_i hfresh
  have hfresh := Option.eq_none_iff_forall_ne_some.2 hfresh
  apply (instantiate_yields hcalmq n component.factory _).bind
  intro result r hmade hr
  have hcalmr := hr.calm hcalmq rfl
  cases result with
  | ok output =>
    apply yields_get_bind
    apply (hbelow r hcalmr).bind
    rintro blocks t - ⟨below, hbelow⟩
    exact yields_pure ⟨_, .made hshown hfound hfresh hmade hr.metrics hbelow (.done t)⟩
  | error e =>
    apply (fail_yields hcalmr scene n e.message).bind
    intro block t hblock _
    exact yields_pure ⟨_, .failed hshown hfound hfresh hmade hr.metrics hblock (.done t)⟩

mutual

theorem node?_visits (scene : Scene) : ∀ (n : Node) (p : Pass σ), p.Calm →
    (node? scene n).Yields p fun b? q => ∃ vs, Visits scene p [n] vs b?.toList q
  | .mk _ _ _ _ children _ _ _ _ _ _, _, hcalm => node?_told (nodes_visits scene children) hcalm

theorem nodes_visits (scene : Scene) : ∀ ns : List Node, Told scene ns (nodes (σ := σ) scene ns)
  | [], p, _ => by
    rw [nodes]
    exact yields_pure ⟨[], .done p⟩
  | n :: ns, p, hcalm => by
    rw [nodes]
    apply (node?_visits scene n p hcalm).bind
    rintro b? q - ⟨us, hus⟩
    apply (nodes_visits scene ns q (hus.calm hcalm)).bind
    rintro bs t - ⟨vs, hvs⟩
    exact yields_pure ⟨us ++ vs, hus.append hvs⟩

end

def top (d : Document) : List Node := Node.sorted (Node.arrangedAll d.components)

theorem mem_nodesOf_top {d : Document} {k : Node} (h : k ∈ Node.nodesOf (top d)) :
    ∃ n ∈ d.nodes, k = n.arranged := by
  obtain ⟨c, hc, hk⟩ := Node.mem_nodesOf.1 h
  exact Node.mem_nodesOf_arrangedAll d.components c (Node.mem_sorted.1 hc) hk

/-- A boundary has no say where no panic reaches it. -/
theorem page_outcome {scene : Scene} {d : Document} {p q : Pass σ} {bs : List Block}
    (h : (nodes scene (top d)).outcome p = (.ok bs, q)) :
    (page scene d).outcome p = (.ok bs, q) := by
  unfold page
  dsimp only
  split
  · rw [outcome_bind, outcome_attempt]
    have h : (nodes scene (Node.sorted (Node.arrangedAll d.components))).outcome p =
      (.ok bs, q) := h
    rw [h]
    rfl
  · exact h

end Pass

namespace Stage

theorem pass_yields {α : Type} {e : Effect (Pass σ) α} {s : Stage σ} {P : α → Pass σ → Prop}
    {Q : α → Stage σ → Prop} (h : e.Yields { s with } P) (hq : ∀ a p, P a p → Q a p.toStage) :
    (pass e).Yields s Q := by
  unfold pass
  exact Yields.within h hq

def output (s : Stage σ) (d : Document) (c : Context) (bs : List Block) (q : Pass σ) :
    Output where
  layout := d.layout.style d.theme (s.scene d c).viewport s.renderer.options.className
    s.renderer.options.enableAnimations
  blocks := bs
  diagnostics := q.diagnostics
  metrics := q.metrics
  loadingBoundary := (d.loading.map (·.enabled)).getD false

variable [Clock σ]

theorem render_outcome (d : Document) (c : Context) (s : Stage σ) : (render d c).outcome s =
    match (Pass.page (s.scene d c) d).outcome { s with } with
      | (.ok bs, q) => (.ok (s.output d c bs q), q.toStage)
      | (.error p, q) => (.error p, q.toStage) := by
  unfold render pass
  rw [outcome_within, outcome_bind, outcome_get]
  dsimp only
  rw [outcome_bind]
  rcases (Pass.page (s.scene d c) d).outcome { s with } with ⟨p | bs, q⟩ <;> rfl

theorem render_of_nodes {d : Document} {c : Context} {s : Stage σ} {bs : List Block} {q : Pass σ}
    (h : (Pass.nodes (s.scene d c) (Pass.top d)).outcome { s with } = (.ok bs, q)) :
    (render d c).outcome s = (.ok (s.output d c bs q), q.toStage) := by
  rw [render_outcome, Pass.page_outcome h]

theorem render_yields {d : Document} {c : Context} {s : Stage σ} {bs : List Block} {q : Pass σ}
    (h : (Pass.nodes (s.scene d c) (Pass.top d)).outcome { s with } = (.ok bs, q)) :
    (render d c).Yields s fun output t => output.blocks = bs ∧
      output.diagnostics = q.diagnostics ∧ output.metrics = q.metrics ∧ t = q.toStage :=
  ⟨s.output d c bs q, q.toStage, render_of_nodes h, rfl, rfl, rfl, rfl⟩

theorem render_visits (d : Document) (c : Context) {s : Stage σ} (hcalm : s.Calm) :
    (render d c).Yields s fun output t =>
      ∃ vs q, Pass.Visits (s.scene d c) { s with } (Pass.top d) vs output.blocks q ∧
        output.diagnostics = q.diagnostics ∧ output.metrics = q.metrics ∧ t = q.toStage := by
  obtain ⟨bs, q, hbs, vs, hvs⟩ := Pass.nodes_visits (s.scene d c) (Pass.top d) { s with } hcalm
  apply (render_yields hbs).imp
  rintro output t ⟨rfl, h⟩
  exact ⟨vs, q, hvs, h⟩

theorem retry_visits (d : Document) (c : Context) (id : String) {s : Stage σ} (hcalm : s.Calm) :
    (retry d c id).Yields s fun b? t =>
      ∃ vs q, Pass.Visits (s.scene d c) { s with renderer := s.renderer.retrying id }
        ((d.findNode? id).toList.map Node.arranged) vs b?.toList q ∧ t = q.toStage := by
  apply yields_modify_bind
  cases d.findNode? id with
  | none => exact yields_pure ⟨[], { s with renderer := s.renderer.retrying id }, .done _, rfl⟩
  | some n =>
    apply pass_yields (P := fun b? q => ∃ vs, Pass.Visits (s.scene d c)
      { s with renderer := s.renderer.retrying id } [n.arranged] vs b?.toList q)
    · apply yields_get_bind
      exact Pass.node?_visits _ n.arranged _ ⟨hcalm.options, hcalm.registry⟩
    · rintro b? q ⟨vs, hvs⟩
      exact ⟨vs, q, hvs, rfl⟩

end Stage

end PageConfig
