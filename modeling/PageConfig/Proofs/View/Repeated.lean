import Mathlib.Data.Fintype.EquivFin
import PageConfig.Proofs.Document.Find
import PageConfig.Proofs.View.Isolation
import PageConfig.Proofs.View.Watch

/-!
# Repeated passes

A failed node is shown by a fresh failure, by the failure that is remembered, and by a
retry, each in its own way. With distinct ids and units that are functions of their props,
a pass that starts with the failures another one ended with shows the same blocks, and in
it nothing fails. What is shown of a remembered failure may tell the time again.
-/

set_option autoImplicit false

namespace PageConfig

open Effect

variable {σ : Type}

/-- Each entry gives one unit, which is a function of its props. -/
def Registry.Steady (r : Registry σ) : Prop :=
  ∀ type entry, r.get? type = some entry →
    ∃ unit : Factory σ, unit.Steady ∧ entry.source.Gives unit

theorem Registry.Steady.calm {r : Registry σ} (h : r.Steady) : r.Calm := by
  intro type entry hentry
  obtain ⟨unit, -, hgives⟩ := h type entry hentry
  exact hgives.calm

theorem Registry.Steady.alikeBut {r s : Registry σ} (h : r.Steady) (hs : r.Loads s)
    (type : String) : r.AlikeBut type s := by
  have hself : r.AlikeBut type r := by
    refine ⟨fun _ => rfl, fun other _ => ?_⟩
    cases hentry : r.get? other with
    | none => exact .none
    | some entry =>
      obtain ⟨unit, hunit, hgives⟩ := h other entry hentry
      exact .some ⟨rfl, rfl, unit, hunit, hgives, hgives⟩
  exact hself.loads (.refl r) hs

namespace Pass

structure Keeps (p q : Pass σ) : Prop where
  options : q.renderer.options = p.renderer.options
  retries : q.renderer.retries = p.renderer.retries
  registry : p.registry.Loads q.registry

theorem Keeps.refl (p : Pass σ) : p.Keeps p := ⟨rfl, rfl, .refl _⟩

theorem Keeps.stage {p q : Pass σ} (h : p.Keeps q) : p.Keeps { q.toStage with } :=
  ⟨h.options, h.retries, h.registry⟩

theorem Keeps.trans {p q r : Pass σ} (h : p.Keeps q) (h' : q.Keeps r) : p.Keeps r where
  options := h'.options.trans h.options
  retries := h'.retries.trans h.retries
  registry := h.registry.trans h'.registry

theorem Keeps.calm {p q : Pass σ} (h : p.Keeps q) (hp : p.Calm) : q.Calm where
  options := by
    rw [h.options]
    exact hp.options
  registry := h.registry.calm hp.registry

theorem Becomes.keeps {p q : Pass σ} {r : Renderer σ} {ds : List Diagnostic} {ms : List Metric}
    (h : p.Becomes r ds ms q) (hoptions : r.options = p.renderer.options)
    (hretries : r.retries = p.renderer.retries) : p.Keeps q where
  options := by rw [h.renderer, hoptions]
  retries := by rw [h.renderer, hretries]
  registry := h.registry

variable [Clock σ]

theorem Visits.outcome {scene : Scene} {p q : Pass σ} {ns : List Node} {vs : List Visit}
    {bs : List Block} (h : Visits scene p ns vs bs q) :
    (nodes scene ns).outcome p = (.ok bs, q) := by
  induction h with
  | done p =>
    rw [nodes]
    rfl
  | @hidden p t n ns vs bs hhidden _ ih =>
    have hnode : (node? scene n).outcome p = (.ok none, p) := by
      rw [node?_eq, hhidden]
      rfl
    exact nodes_cons_outcome hnode ih
  | @missing p q r t n ns vs bs hshown hmissing hnote _ ih =>
    have hnode : (node? scene n).outcome p = (.ok none, r) := by
      rw [node?_eq, hshown]
      refine (outcome_bind_of_ok hmissing _).trans ?_
      exact outcome_bind_of_ok hnote _
    exact nodes_cons_outcome hnode ih
  | @kept p q r t n ns vs bs component message block hshown hfound hfailed hblock _ ih =>
    have hnode : (node? scene n).outcome p = (.ok (some block), r) := by
      rw [node?_eq, hshown]
      refine (outcome_bind_of_ok hfound _).trans ?_
      refine (outcome_bind_of_ok (outcome_get q) _).trans ?_
      rw [hfailed]
      exact outcome_bind_of_ok hblock _
    exact nodes_cons_outcome hnode ih
  | @made p q r s t n ns below vs children bs component output metric hshown hfound hfresh hmade
      _ _ _ ihbelow ih =>
    have hnode : (node? scene n).outcome p = (.ok (some (n.block scene component output
        r.renderer.options.enableAnimations children)), s) := by
      rw [node?_eq, hshown]
      refine (outcome_bind_of_ok hfound _).trans ?_
      refine (outcome_bind_of_ok (outcome_get q) _).trans ?_
      rw [hfresh]
      refine (outcome_bind_of_ok hmade _).trans ?_
      refine (outcome_bind_of_ok (outcome_get r) _).trans ?_
      exact outcome_bind_of_ok ihbelow _
    exact nodes_cons_outcome hnode ih
  | @failed p q r s t n ns vs bs component e metric block hshown hfound hfresh hmade _ hblock _
      ih =>
    have hnode : (node? scene n).outcome p = (.ok (some block), s) := by
      rw [node?_eq, hshown]
      refine (outcome_bind_of_ok hfound _).trans ?_
      refine (outcome_bind_of_ok (outcome_get q) _).trans ?_
      rw [hfresh]
      refine (outcome_bind_of_ok hmade _).trans ?_
      exact outcome_bind_of_ok hblock _
    exact nodes_cons_outcome hnode ih

theorem Visits.keeps {scene : Scene} {p q : Pass σ} {ns : List Node} {vs : List Visit}
    {bs : List Block} (h : Visits scene p ns vs bs q) (hcalm : p.Calm) : p.Keeps q :=
  (h.becomes hcalm).2.keeps (Visit.foldl_act_options _ _) (Visit.foldl_act_retries _ _)

theorem Visits.frame {scene : Scene} {p q : Pass σ} {ns : List Node} {vs : List Visit}
    {bs : List Block} (h : Visits scene p ns vs bs q) (hcalm : p.Calm) {id : String}
    (hid : id ∉ Node.idsOf ns) :
    q.renderer.failures.get? id = p.renderer.failures.get? id := by
  rw [(h.becomes hcalm).2.renderer]
  apply Visit.foldl_act_failures
  intro v hv heq
  exact hid (Node.mem_idsOf.2 ⟨v.node, h.node_mem v hv, heq⟩)

theorem report_timed {x : Fault} {p : Pass σ} {failure : Failure}
    (h : ((report x).outcome p).1 = .ok failure) : x.Timed σ failure := by
  obtain ⟨told, q, htold, h⟩ := outcome_bind_eq_ok h
  obtain ⟨_, _, -, h⟩ := outcome_bind_eq_ok h
  obtain ⟨_, _, -, h⟩ := outcome_bind_eq_ok h
  cases h
  cases htold
  exact ⟨_, ⟨p.world, rfl⟩, rfl⟩

/-- After a failure is told, its fallback is made as for a failure that is remembered. -/
theorem fail_outcome {p : Pass σ} (hcalm : p.Calm) (scene : Scene) (n : Node)
    (message : String) : ∃ failure q, (n.fault scene message).Timed σ failure ∧
      p.Becomes (p.renderer.failing n.id message) [.instantiationFailed n.id n.type message] [] q ∧
      (fail scene n message).outcome p =
        (fallbackBlock scene n.id n.type n.errorFallback failure).outcome q := by
  let f : Pass σ := { p with
    renderer := p.renderer.failing n.id message
    diagnostics := p.diagnostics ++ [.instantiationFailed n.id n.type message] }
  have hf : p.Becomes f.renderer [.instantiationFailed n.id n.type message] [] f :=
    ⟨rfl, .refl _, rfl, (List.append_nil _).symm⟩
  have hcalmf : f.Calm := ⟨hcalm.options, hcalm.registry⟩
  obtain ⟨failure, q, hreport, hq, -⟩ := report_yields hcalmf (n.fault scene message)
  exact ⟨failure, q, report_timed (congrArg Prod.fst hreport), hf.trans hq,
    outcome_bind_of_ok hreport _⟩

structure Kin (o : RenderOptions σ) (type : String) (p p' : Pass σ) : Prop where
  alike : Alike o type (fun _ => False) p p'
  calm : p.Calm
  calm' : p'.Calm

omit [Clock σ] in
theorem Kin.later {o : RenderOptions σ} {type : String} {p q p' q' : Pass σ}
    (h : Kin o type p p') (hq : p.Keeps q) (hq' : p'.Keeps q') : Kin o type q q' where
  alike := {
    pure := h.alike.pure
    left := hq.options.trans h.alike.left
    right := hq'.options.trans h.alike.right
    retries := by rw [hq.retries, hq'.retries, h.alike.retries]
    failures := fun _ => False.elim
    registries := h.alike.registries.loads hq.registry hq'.registry }
  calm := hq.calm h.calm
  calm' := hq'.calm h.calm'

/-- From `p` the pass over the nodes shows the blocks but for the time, and nothing fails in
it. -/
def Again (o : RenderOptions σ) (scene : Scene) (ns : List Node) (bs : List Block) (p : Pass σ) :
    Prop :=
  ∃ vs cs q, Visits scene p ns vs cs q ∧ (∀ v ∈ vs, v.fault? scene = none) ∧
    Block.RetimedAll o scene.context bs cs

/-- A pass like that from `p` shows the blocks again if it starts with the failures that `t`
has of the nodes. -/
def Repeats (o : RenderOptions σ) (type : String) (scene : Scene) (ns : List Node)
    (bs : List Block) (p t : Pass σ) : Prop :=
  ∀ p', Kin o type p p' →
    (∀ id ∈ Node.idsOf ns, p'.renderer.failures.get? id = t.renderer.failures.get? id) →
      Again o scene ns bs p'

section

variable {o : RenderOptions σ} {type : String} {scene : Scene} {p q r s t p' q' r' : Pass σ}
  {n : Node} {ns : List Node} {bs : List Block} {component : Component σ}

theorem Repeats.hidden (hhidden : Condition.allHold scene.data n.conditions = false)
    (hrest : Repeats o type scene ns bs p t) : Repeats o type scene (n :: ns) bs p t := by
  intro p' hkin hfailures
  obtain ⟨-, -, hfailures⟩ := Node.forall_idsOf_cons.1 hfailures
  obtain ⟨us, cs, t', hus, hcalm, hretimed⟩ := hrest p' hkin hfailures
  exact ⟨us, cs, t', .hidden hhidden hus, hcalm, hretimed⟩

theorem Repeats.missing (hshown : Condition.allHold scene.data n.conditions = true)
    (htype : n.type ≠ type) (hmissing : (component? n.type).outcome p = (.ok none, q))
    (hnote : (note (.missingComponent n.id n.type)).outcome q = (.ok (), r))
    (hrest : Repeats o type scene ns bs r t) : Repeats o type scene (n :: ns) bs p t := by
  intro p' hkin hfailures
  obtain ⟨-, -, hfailures⟩ := Node.forall_idsOf_cons.1 hfailures
  obtain ⟨_, q', hmissing', -, rfl, -⟩ := (component?_agree htype).of_outcome hkin.alike hmissing
  have hr' := missing_becomes hmissing' rfl
  rw [← hr'.renderer] at hfailures
  have hkin := hkin.later ((missing_becomes hmissing hnote).keeps rfl rfl) (hr'.keeps rfl rfl)
  obtain ⟨us, cs, t', hus, hnone, hretimed⟩ := hrest _ hkin hfailures
  exact ⟨_, cs, t', .missing hshown hmissing' rfl hus, List.forall_mem_cons.2 ⟨rfl, hnone⟩,
    hretimed⟩

theorem Again.kept {message : String} {block block' : Block}
    (hshown : Condition.allHold scene.data n.conditions = true)
    (hfound : (component? n.type).outcome p = (.ok (some component), q))
    (hfailed : p.renderer.failures.get? n.id = some message)
    (hkept : (keep scene n message).outcome q = (.ok block', r))
    (hblock : Block.Retimed o scene.context block block') (hrest : Again o scene ns bs r) :
    Again o scene (n :: ns) (block :: bs) p := by
  obtain ⟨us, cs, t, hus, hnone, hretimed⟩ := hrest
  rw [← (component?_becomes hfound).1.renderer] at hfailed
  exact ⟨_, _, t, .kept hshown hfound hfailed hkept hus, List.forall_mem_cons.2 ⟨rfl, hnone⟩,
    .cons hblock hretimed⟩

theorem Repeats.kept {message : String} {block : Block}
    (hshown : Condition.allHold scene.data n.conditions = true)
    (havoids : n.type ≠ type ∧ ∀ f, n.errorFallback = some f → f.type ≠ type)
    (hfound : (component? n.type).outcome p = (.ok (some component), q))
    (hblock : (keep scene n message).outcome q = (.ok block, r))
    (hfailed : t.renderer.failures.get? n.id = some message)
    (hrest : Repeats o type scene ns bs r t) :
    Repeats o type scene (n :: ns) (block :: bs) p t := by
  intro p' hkin hfailures
  obtain ⟨hself, -, hfailures⟩ := Node.forall_idsOf_cons.1 hfailures
  obtain ⟨_, q', hfound', hq, rfl, -⟩ :=
    (component?_agree havoids.1).of_outcome hkin.alike hfound
  obtain ⟨block', r', hblock', -, hretimed⟩ :=
    (keep_agree scene havoids.2 message).of_outcome hq hblock
  have hr := (kept_becomes hkin.calm hfound hblock).1
  have hr' := (kept_becomes hkin.calm' hfound' hblock').1
  rw [← hr'.renderer] at hfailures
  apply Again.kept hshown hfound' (hself.trans hfailed) hblock' hretimed
  exact hrest r' (hkin.later (hr.keeps rfl rfl) (hr'.keeps rfl rfl)) hfailures

theorem Repeats.failed {e : RenderError} {block : Block}
    (hshown : Condition.allHold scene.data n.conditions = true)
    (havoids : n.type ≠ type ∧ ∀ f, n.errorFallback = some f → f.type ≠ type)
    (hfound : (component? n.type).outcome p = (.ok (some component), q))
    (hmade : (instantiate n.id n.type component.factory (n.givenProps scene component)).outcome q
      = (.ok (.error e), r))
    (hblock : (fail scene n e.message).outcome r = (.ok block, s))
    (hfailed : t.renderer.failures.get? n.id = some e.message)
    (hrest : Repeats o type scene ns bs s t) :
    Repeats o type scene (n :: ns) (block :: bs) p t := by
  intro p' hkin hfailures
  obtain ⟨hself, -, hfailures⟩ := Node.forall_idsOf_cons.1 hfailures
  obtain ⟨_, q', hfound', -, rfl, -⟩ :=
    (component?_agree havoids.1).of_outcome hkin.alike hfound
  have hr := made_becomes hkin.calm hfound hmade
  have hq' := (component?_becomes hfound').1
  obtain ⟨failure, f, hx, hf, hfblock⟩ :=
    fail_outcome (hr.calm hkin.calm rfl) scene n e.message
  rw [hr.renderer] at hf
  have hkinf := hkin.later ((hr.trans hf).keeps rfl rfl) (hq'.keeps rfl rfl)
  obtain ⟨block', r', hblock', -, hretimed⟩ :=
    (fallbackBlock_keep_agree scene havoids.2 _ hx).of_outcome hkinf.alike
      (hfblock.symm.trans hblock)
  have hs := (failed_becomes hkin.calm hfound hmade hblock).1
  have hr' := (kept_becomes hkin.calm' hfound' hblock').1
  rw [← hr'.renderer] at hfailures
  apply Again.kept hshown hfound' (hself.trans hfailed) hblock' hretimed
  exact hrest r' (hkin.later (hs.keeps rfl rfl) (hr'.keeps rfl rfl)) hfailures

theorem Repeats.made {output : Value} {children : List Block} {below : List Visit}
    (hshown : Condition.allHold scene.data n.conditions = true) (htype : n.type ≠ type)
    (hdisjoint : ∀ id ∈ Node.idsOf n.children, id ∉ Node.idsOf ns)
    (hfound : (component? n.type).outcome p = (.ok (some component), q))
    (hmade : (instantiate n.id n.type component.factory (n.givenProps scene component)).outcome q
      = (.ok (.ok output), r)) (hbelow : Visits scene r n.children below children s)
    (hfresh : t.renderer.failures.get? n.id = none)
    (hlater : ∀ id ∈ Node.idsOf n.children,
      t.renderer.failures.get? id = s.renderer.failures.get? id)
    (hagain : Repeats o type scene n.children children r s)
    (hrest : Repeats o type scene ns bs s t) : Repeats o type scene (n :: ns)
      (n.block scene component output r.renderer.options.enableAnimations children :: bs) p t := by
  intro p' hkin hfailures
  obtain ⟨hself, hfailbelow, hfailures⟩ := Node.forall_idsOf_cons.1 hfailures
  obtain ⟨_, q', hfound', hq, rfl, hsteady⟩ :=
    (component?_agree htype).of_outcome hkin.alike hfound
  obtain ⟨_, r', hmade', -, rfl⟩ :=
    (instantiate_agree n.id n.type (hsteady component rfl) _).of_outcome hq hmade
  have hq' := (component?_becomes hfound').1
  have hr' := made_becomes hkin.calm' hfound' hmade'
  have hkinr := hkin.later ((made_becomes hkin.calm hfound hmade).keeps rfl rfl)
    (hr'.keeps rfl rfl)
  obtain ⟨below', children', s', hbelow', hnonebelow, hchildren⟩ := hagain r' hkinr fun id hid => by
    rw [hr'.renderer, ← hlater id hid]
    exact hfailbelow id hid
  have hkins := hkinr.later (hbelow.keeps hkinr.calm) (hbelow'.keeps hkinr.calm')
  obtain ⟨us, cs, t', hus, hnone, hretimed⟩ := hrest s' hkins fun id hid => by
    rw [hbelow'.frame hkinr.calm' fun hmem => hdisjoint id hmem hid, hr'.renderer]
    exact hfailures id hid
  have hmetric : r'.metrics = q'.metrics ++ [n.sample p'.renderer] := by
    rw [hr'.metrics, hq'.metrics, List.append_nil]
  rw [hfresh, ← hq'.renderer] at hself
  rw [hkinr.alike.left.trans hkinr.alike.right.symm]
  refine ⟨_, _, t', .made hshown hfound' hself hmade' hmetric hbelow' hus, ?_,
    .cons (.component hchildren) hretimed⟩
  exact List.forall_mem_append.2 ⟨List.forall_mem_cons.2 ⟨rfl, hnonebelow⟩, hnone⟩

end

/-- A pass that starts with the failures another one ended with goes as that one, with each
failure a remembered one. -/
theorem Visits.repeats {o : RenderOptions σ} {type : String} {scene : Scene} {p t : Pass σ}
    {ns : List Node} {vs : List Visit} {bs : List Block} (h : Visits scene p ns vs bs t)
    (hcalm : p.Calm) (hids : (Node.idsOf ns).Nodup) (havoids : ∀ n ∈ ns, n.Avoids type) :
    Repeats o type scene ns bs p t := by
  induction h with
  | done p => exact fun p' _ _ => ⟨[], [], p', .done p', List.forall_mem_nil _, .nil⟩
  | hidden hhidden _ ih =>
    obtain ⟨-, -, hrest, -⟩ := Node.nodup_idsOf_cons.1 hids
    exact .hidden hhidden (ih hcalm hrest (List.forall_mem_cons.1 havoids).2)
  | @missing p q r t n ns vs bs hshown hmissing hnote _ ih =>
    obtain ⟨-, -, hrest, -⟩ := Node.nodup_idsOf_cons.1 hids
    obtain ⟨hn, hns⟩ := List.forall_mem_cons.1 havoids
    have hr := (missing_becomes hmissing hnote).calm hcalm rfl
    exact .missing hshown (hn n n.mem_nodes_self).1 hmissing hnote (ih hr hrest hns)
  | @kept p q r t n ns vs bs component message block hshown hfound hfailed hblock hvs ih =>
    obtain ⟨⟨-, hid⟩, -, hrest, -⟩ := Node.nodup_idsOf_cons.1 hids
    obtain ⟨hn, hns⟩ := List.forall_mem_cons.1 havoids
    have hr := (kept_becomes hcalm hfound hblock).1
    have hcalmr := hr.calm hcalm rfl
    -- the failure stands until the end
    rw [(component?_becomes hfound).1.renderer, ← hr.renderer, ← hvs.frame hcalmr hid] at hfailed
    exact .kept hshown (hn n n.mem_nodes_self) hfound hblock hfailed (ih hcalmr hrest hns)
  | @made p q r s t n ns below vs children bs component output metric hshown hfound hfresh hmade
      hmetric hbelow hvs ihbelow ih =>
    obtain ⟨⟨hidbelow, hid⟩, hchildren, hrest, hdisjoint⟩ := Node.nodup_idsOf_cons.1 hids
    obtain ⟨hn, hns⟩ := List.forall_mem_cons.1 havoids
    have hr := made_becomes hcalm hfound hmade
    have hcalmr := hr.calm hcalm rfl
    have hcalms := hbelow.calm hcalmr
    have hcounted : r.renderer.failures.get? n.id = p.renderer.failures.get? n.id := by
      rw [hr.renderer]
      rfl
    rw [(component?_becomes hfound).1.renderer, ← hcounted, ← hbelow.frame hcalmr hidbelow,
      ← hvs.frame hcalms hid] at hfresh
    exact .made hshown (hn n n.mem_nodes_self).1 (fun id h h' => hdisjoint id h id h' rfl) hfound
      hmade hbelow hfresh
      (fun id hmem => hvs.frame hcalms fun hmem' => hdisjoint id hmem id hmem' rfl)
      (ihbelow hcalmr hchildren hn.child) (ih hcalms hrest hns)
  | @failed p q r s t n ns vs bs component e metric block hshown hfound hfresh hmade hmetric hblock
      hvs ih =>
    obtain ⟨⟨-, hid⟩, -, hrest, -⟩ := Node.nodup_idsOf_cons.1 hids
    obtain ⟨hn, hns⟩ := List.forall_mem_cons.1 havoids
    have hs := (failed_becomes hcalm hfound hmade hblock).1
    have hcalms := hs.calm hcalm rfl
    have hfailed : t.renderer.failures.get? n.id = some e.message := by
      rw [hvs.frame hcalms hid, hs.renderer, Renderer.failing, Dictionary.get?_insert, if_pos rfl]
    exact .failed hshown (hn n n.mem_nodes_self) hfound hmade hblock hfailed (ih hcalms hrest hns)

end Pass

namespace Node

theorem exists_avoided (ns : List Node) : ∃ type, ∀ n ∈ ns, n.Avoids type := by
  let types := (nodesOf ns).flatMap fun m => m.type :: (m.errorFallback.map Node.type).toList
  obtain ⟨type, htype⟩ := Infinite.exists_notMem_finset types.toFinset
  rw [List.mem_toFinset] at htype
  refine ⟨type, fun n hn m hm => ⟨fun heq => ?_, fun f hf heq => ?_⟩⟩
  · exact htype (List.mem_flatMap.2 ⟨m, mem_nodesOf.2 ⟨n, hn, hm⟩, by simp [heq]⟩)
  · exact htype (List.mem_flatMap.2 ⟨m, mem_nodesOf.2 ⟨n, hn, hm⟩, by simp [hf, heq]⟩)

theorem nodup_arranged {ns : List Node} (h : (idsOf ns).Nodup) :
    (idsOf (ns.map arranged)).Nodup := by
  rw [← arrangedAll_eq_map]
  exact (ids_arrangedAll ns).nodup_iff.2 h

end Node

namespace Stage

open Pass

theorem scene_congr {s t : Stage σ} (h : t.renderer.options = s.renderer.options) (d : Document)
    (c : Context) : t.scene d c = s.scene d c := by rw [scene, scene, h]

theorem layout_congr {s t : Stage σ} (h : t.renderer.options = s.renderer.options) (d : Document)
    (c : Context) (bs cs : List Block) (p q : Pass σ) :
    (t.output d c bs p).layout = (s.output d c cs q).layout := by
  simp only [output, scene_congr h, h]

theorem top_eq (d : Document) : top d = (Node.byOrder d.components).map Node.arranged :=
  Node.sorted_arrangedAll _

theorem nodup_top {d : Document} (hids : (d.nodes.map Node.id).Nodup) :
    (Node.idsOf (top d)).Nodup := by
  rw [top_eq]
  apply Node.nodup_arranged
  exact ((Node.nodesOf_perm (Node.byOrder_perm d.components)).map Node.id).nodup_iff.2 hids

theorem missing_of_unfailed {scene : Scene} {vs : List Visit}
    (h : ∀ v ∈ vs, v.fault? scene = none) :
    ∀ x ∈ vs.flatMap Visit.diagnostics, x.isMissing := by
  intro x hx
  obtain ⟨v, hv, hx⟩ := List.mem_flatMap.1 hx
  have hv := h v hv
  cases v with
  | failed => cases hv
  | missing n =>
    rw [List.mem_singleton.1 hx]
    rfl
  | kept => cases hx
  | made => cases hx

section

variable {d : Document} {c : Context} {s : Stage σ}

theorem calm_of_steady (hpure : s.renderer.options.Pure) (hsteady : s.registry.Steady) : s.Calm :=
  ⟨hpure.toCalm, hsteady.calm⟩

theorem kin_self {type : String} {p : Pass σ} (hpure : p.renderer.options.Pure)
    (hsteady : p.registry.Steady) : Kin p.renderer.options type p p where
  alike := ⟨hpure, rfl, rfl, rfl, fun _ => False.elim, hsteady.alikeBut (.refl _) type⟩
  calm := ⟨hpure.toCalm, hsteady.calm⟩
  calm' := ⟨hpure.toCalm, hsteady.calm⟩

variable [Clock σ] (hids : (d.nodes.map Node.id).Nodup) (hpure : s.renderer.options.Pure)
  (hsteady : s.registry.Steady)

include hids hpure hsteady

theorem render_again : (render d c).Yields s fun output t =>
    (render d c).Yields t fun output' t' => output'.layout = output.layout ∧
      Block.RetimedAll s.renderer.options (s.scene d c).context output.blocks output'.blocks ∧
      (∀ x ∈ output'.diagnostics, x.isMissing) ∧
      ∀ watch : Watch σ, watch.Sees s.renderer.options s.registry →
        watch.faults t'.world = watch.faults t.world := by
  have hcalm := calm_of_steady hpure hsteady
  obtain ⟨type, havoids⟩ := Node.exists_avoided (top d)
  obtain ⟨bs, q, hbs, vs, hvs⟩ := nodes_visits (s.scene d c) (top d) { s with } hcalm
  have hkeeps : Keeps { s with } { q.toStage with } := (hvs.keeps hcalm).stage
  have hkin : Kin s.renderer.options type { s with } { q.toStage with } :=
    (kin_self hpure hsteady).later (.refl _) hkeeps
  obtain ⟨us, cs, q', hus, hnone, hretimed⟩ :=
    hvs.repeats hcalm (nodup_top hids) havoids _ hkin fun _ _ => rfl
  refine ⟨_, _, render_of_nodes hbs, ?_⟩
  have hus' := hus.outcome
  rw [← scene_congr hkeeps.options d c] at hus'
  refine ⟨_, _, render_of_nodes hus', layout_congr hkeeps.options d c _ _ _ _, hretimed, ?_, ?_⟩
  · have hdiagnostics : q'.diagnostics = us.flatMap Visit.diagnostics :=
      (hus.becomes hkin.calm').2.diagnostics
    intro x (hx : x ∈ q'.diagnostics)
    rw [hdiagnostics] at hx
    exact missing_of_unfailed hnone x hx
  · intro watch hsees
    have hsees' : watch.SeesPass { q.toStage with } := by
      rw [Watch.SeesPass, hkeeps.options]
      exact hsees.loads hkeeps.registry
    have htold := (Watch.visits_shows hus hsees' hkin.calm').told.faults
    rw [List.filterMap_eq_nil_iff.2 hnone, RenderOptions.toldFaults_nil, List.append_nil] at htold
    exact htold

end

def textLoader : Effect UInt64 (Except PageError (Factory UInt64)) :=
  return .ok fun props => return .ok (.object props)

def boardStage (fallback : Failure → Value) : Stage UInt64 where
  world := 0
  registry := ⟨[
    ("Chart", { displayName := "Chart", defaults := [],
                source := .ready fun _ => return .error (.failed "no data") }),
    ("Text", { displayName := "Text", defaults := [], source := .lazy textLoader none })],
    by decide⟩
  renderer := { options := { fallback := some fun failure => pure (fallback failure) } }

def board : Document where
  components := [
    { id := "chart", type := "Chart", errorFallback := some { type := "Chart" } },
    { id := "panel", type := "Text", children := [{ id := "inner", type := "Chart" }] }]

theorem boardStage_pure (fallback : Failure → Value) :
    (boardStage fallback).renderer.options.Pure := by
  refine ⟨⟨nofun, nofun, fun f hf failure => ?_⟩, fun f hf failure => ?_⟩ <;> cases hf
  · exact returns_pure _
  · exact steady_pure _

theorem boardStage_steady (fallback : Failure → Value) :
    (boardStage fallback).registry.Steady := by
  intro type entry h
  simp only [boardStage, Dictionary.get?, Table.get?] at h
  split at h
  · cases h
    exact ⟨_, fun _ => steady_pure _, fun _ => yields_pure rfl⟩
  · split at h
    · cases h
      exact ⟨_, fun _ => steady_pure _, fun _ => ⟨_, _, rfl, rfl⟩⟩
    · cases h

def firstTime? (output : Output) : Option ℤ :=
  match output.blocks with
  | .fallback _ _ _ _ (.number (.whole time)) :: _ => some time
  | _ => none

/-- A fallback that shows the time is pure, and shows another time in the next pass. -/
theorem dated_board_not_repeated : ∃ s : Stage UInt64, s.renderer.options.Pure ∧
    s.registry.Steady ∧ ∃ output t output' t', (render board {}).outcome s = (.ok output, t) ∧
      (render board {}).outcome t = (.ok output', t') ∧ output'.blocks ≠ output.blocks := by
  let fallback (failure : Failure) : Value := .whole failure.timestamp.toNat
  obtain ⟨output, t, ht, output', t', ht', -⟩ :=
    render_again (d := board) (c := {}) (by decide) (boardStage_pure fallback)
      (boardStage_steady _)
  have hfirst : ((render board {}).outcome (boardStage fallback)).1.toOption.bind firstTime? =
      some 0 := by decide +kernel
  have hnext : ((render board {}).outcome
      ((render board {}).outcome (boardStage fallback)).2).1.toOption.bind firstTime? =
      some 2 := by decide +kernel
  rw [ht] at hfirst hnext
  rw [ht'] at hnext
  refine ⟨_, boardStage_pure fallback, boardStage_steady _, output, t, output', t', ht, ht', ?_⟩
  intro hsame
  have htime : firstTime? output' = firstTime? output := by rw [firstTime?, hsame, firstTime?]
  cases (Option.some.inj (hnext.symm.trans (htime.trans hfirst)))

end Stage

end PageConfig
