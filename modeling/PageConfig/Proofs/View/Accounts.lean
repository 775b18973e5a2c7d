import PageConfig.Proofs.View.Shown
import PageConfig.Proofs.View.Watch

/-!
# The account of a pass

The samples, the failures that are noted and reported, and the failures that the renderer
remembers are kept apart from each other and from the blocks. All of them are told by the
blocks alone: the list of the blocks, each before its children, shows which attempts the
pass made.
-/

set_option autoImplicit false

namespace PageConfig

open Effect

variable {σ : Type}

namespace Block

def isFallback : Block → Bool
  | component .. => false
  | fallback .. => true

def type : Block → String
  | component _ type .. | fallback _ type .. => type

def fault? (context : Context) : Block → Option Fault
  | component .. => none
  | fallback id type error _ _ =>
    some { componentId := id, componentType := type, error, context }

mutual

def preorder : Block → List Block
  | component id type displayName props output className accessibility animation children =>
    component id type displayName props output className accessibility animation children ::
      preorderAll children
  | fallback id type error retries output => [fallback id type error retries output]

def preorderAll : List Block → List Block
  | [] => []
  | b :: bs => b.preorder ++ preorderAll bs

end

def showFailure (bs : List Block) (id : String) : Bool :=
  bs.any fun b => b.isFallback && b.id == id

/-- A fallback whose id had not failed, and that no earlier fallback has. -/
def isFresh (failed : String → Bool) (earlier : List Block) (b : Block) : Bool :=
  b.isFallback && !failed b.id && !showFailure earlier b.id

/-- The blocks of components and the fresh fallbacks in a list of blocks. -/
def attempts (failed : String → Bool) (earlier : List Block) : List Block → List Block
  | [] => []
  | b :: bs =>
    let rest := attempts failed (earlier ++ [b]) bs
    if !b.isFallback || b.isFresh failed earlier then b :: rest else rest

theorem preorderAll_cons_fallback (id type error : String) (retries : UInt32) (output : Value)
    (bs : List Block) : preorderAll (fallback id type error retries output :: bs) =
      fallback id type error retries output :: preorderAll bs := by
  rw [preorderAll, preorder, List.singleton_append]

theorem preorderAll_cons_block (n : Node) (scene : Scene) (c : Component σ) (output : Value)
    (animated : Bool) (children bs : List Block) :
    preorderAll (n.block scene c output animated children :: bs) =
      n.block scene c output animated children :: (preorderAll children ++ preorderAll bs) := by
  rw [preorderAll, Node.block, preorder, List.cons_append]

theorem showFailure_concat (bs : List Block) (b : Block) (id : String) :
    showFailure (bs ++ [b]) id = (showFailure bs id || b.isFallback && b.id == id) := by
  rw [showFailure, List.any_append]
  simp [showFailure]

variable {failed : String → Bool}

theorem attempts_fresh {earlier bs : List Block} : ∀ b ∈ attempts failed earlier bs,
    b.isFallback → failed b.id = false ∧ showFailure earlier b.id = false := by
  induction bs generalizing earlier with
  | nil => exact List.forall_mem_nil _
  | cons b bs ih =>
    have hrest : ∀ c ∈ attempts failed (earlier ++ [b]) bs, c.isFallback →
        failed c.id = false ∧ showFailure earlier c.id = false := by
      intro c hc hfallback
      obtain ⟨hfailed, hearlier⟩ := ih c hc hfallback
      rw [showFailure_concat, Bool.or_eq_false_iff] at hearlier
      exact ⟨hfailed, hearlier.1⟩
    rw [attempts]
    split
    · rename_i hb
      refine List.forall_mem_cons.2 ⟨fun hfallback => ?_, hrest⟩
      simpa [isFresh, hfallback] using hb
    · exact hrest

theorem attempts_nodup {earlier bs : List Block} :
    (((attempts failed earlier bs).filter isFallback).map id).Nodup := by
  induction bs generalizing earlier with
  | nil => exact List.nodup_nil
  | cons b bs ih =>
    rw [attempts]
    split
    · rw [List.filter_cons]
      split
      · rename_i hfallback
        refine List.nodup_cons.2 ⟨fun hmem => ?_, ih⟩
        obtain ⟨c, hc, hid⟩ := List.mem_map.1 hmem
        obtain ⟨hc, hcfallback⟩ := List.mem_filter.1 hc
        have hlater := (attempts_fresh c hc hcfallback).2
        rw [showFailure_concat, hfallback, hid] at hlater
        simp at hlater
      · exact ih
    · exact ih

theorem faults_ids (context : Context) (bs : List Block) :
    (bs.filterMap (fault? context)).map Fault.componentId = (bs.filter isFallback).map id := by
  induction bs with
  | nil => rfl
  | cons b bs ih =>
    cases b with
    | component => exact ih
    | fallback bid type error retries output => exact congrArg (bid :: ·) ih

end Block

def Fault.diagnostic (f : Fault) : Diagnostic :=
  .instantiationFailed f.componentId f.componentType f.error

namespace Visit

/-- The blocks that the visits show, in sequence. -/
inductive ShownBy : List Visit → List Block → Prop
  | nil : ShownBy [] []
  | missing {n : Node} {vs : List Visit} {bs : List Block} (h : ShownBy vs bs) :
    ShownBy (.missing n :: vs) bs
  | kept {n : Node} {block : Block} {vs : List Visit} {bs : List Block} (h : ShownBy vs bs) :
    ShownBy (.kept n block :: vs) (block :: bs)
  | made {n : Node} {metric : Metric} {block : Block} {vs : List Visit} {bs : List Block}
    (hcomponent : block.isFallback = false) (hid : block.id = n.id) (htype : block.type = n.type)
    (h : ShownBy vs bs) : ShownBy (.made n metric :: vs) (block :: bs)
  | failed {n : Node} {metric : Metric} {message : String} {block : Block} {vs : List Visit}
    {bs : List Block} (h : ShownBy vs bs) :
    ShownBy (.failed n metric message block :: vs) (block :: bs)

theorem ShownBy.append {us vs : List Visit} {as bs : List Block} (h : ShownBy us as)
    (h' : ShownBy vs bs) : ShownBy (us ++ vs) (as ++ bs) := by
  induction h with
  | nil => exact h'
  | missing _ ih => exact .missing ih
  | kept _ ih => exact .kept ih
  | made hcomponent hid htype _ ih => exact .made hcomponent hid htype ih
  | failed _ ih => exact .failed ih

theorem noted_faults (scene : Scene) (vs : List Visit) :
    (vs.flatMap diagnostics).filter (!·.isMissing) =
      (vs.filterMap (fault? scene)).map Fault.diagnostic := by
  induction vs with
  | nil => rfl
  | cons v vs ih =>
    rw [List.flatMap_cons, List.filter_append, ih]
    cases v <;> rfl

theorem foldl_act_failing (scene : Scene) (r : Renderer σ) (vs : List Visit) :
    (vs.foldl act r).failures.table = ((vs.filterMap (fault? scene)).map
      fun f => (f.componentId, f.error)).foldl (fun t e => t.insert e.1 e.2) r.failures.table := by
  induction vs generalizing r with
  | nil => rfl
  | cons v vs ih =>
    rw [List.foldl_cons, ih]
    cases v <;> rfl

/-- The renderer's failures are those from before the pass and those shown since. -/
def Knows (r : Renderer σ) (failed : String → Bool) (earlier : List Block) : Prop :=
  ∀ id, r.hasFailed id = (failed id || Block.showFailure earlier id)

section

variable {r : Renderer σ} {failed : String → Bool} {earlier : List Block} {b : Block}

theorem Knows.isFresh (h : Knows r failed earlier) (hb : b.isFallback) :
    b.isFresh failed earlier = !r.hasFailed b.id := by
  rw [Block.isFresh, hb, h b.id, Bool.not_or, Bool.true_and]

theorem Knows.concat (h : Knows r failed earlier) (hb : b.isFallback → r.hasFailed b.id) :
    Knows r failed (earlier ++ [b]) := by
  intro id
  rw [Block.showFailure_concat, ← Bool.or_assoc, ← h id]
  by_cases hfallback : b.isFallback && b.id == id
  · obtain ⟨hfallback', hid⟩ := Bool.and_eq_true_iff.1 hfallback
    have hfailed := hb hfallback'
    rw [beq_iff_eq.1 hid] at hfailed
    rw [hfailed]
    rfl
  · rw [Bool.eq_false_iff.2 hfallback, Bool.or_false]

theorem Knows.failing (h : Knows r failed earlier) (id type message : String) (retries : UInt32)
    (output : Value) : Knows ((r.counted id).failing id message) failed
      (earlier ++ [.fallback id type message retries output]) := by
  intro other
  rw [Block.showFailure_concat, ← Bool.or_assoc, ← h other, Renderer.hasFailed, Dictionary.has,
    Renderer.failing, Dictionary.get?_insert]
  by_cases hid : id = other
  · subst hid
    simp [Block.isFallback, Block.id]
  · simp [Block.isFallback, Block.id, hid, Renderer.hasFailed, Dictionary.has, Renderer.counted]

/-- The step from block to block: each record grows just where the block is an attempt. -/
theorem accounts {vs : List Visit} {bs : List Block} (scene : Scene) (hvs : ShownBy vs bs)
    (hfit : AllFit r vs) (h : Knows r failed earlier) :
    (vs.filterMap metric?).map (fun m => (m.componentId, m.componentType)) =
        (Block.attempts failed earlier bs).map (fun b => (b.id, b.type)) ∧
      vs.filterMap (fault? scene) =
        (Block.attempts failed earlier bs).filterMap (Block.fault? scene.context) := by
  induction hvs generalizing r earlier with
  | nil => exact ⟨rfl, rfl⟩
  | missing _ ih => exact ih hfit.2 h
  | @kept n block vs bs _ ih =>
    obtain ⟨⟨message, output, hfailed, rfl⟩, hfit⟩ := hfit
    let b : Block := .fallback n.id n.type message (r.retryCount n.id) output
    have hfailed : r.hasFailed b.id = true := congrArg Option.isSome hfailed
    have hfresh : b.isFresh failed earlier = false :=
      (h.isFresh rfl).trans (congrArg (!·) hfailed)
    have hattempts : Block.attempts failed earlier (b :: bs) =
        Block.attempts failed (earlier ++ [b]) bs := if_neg (by rw [hfresh]; exact nofun)
    rw [hattempts]
    exact ih hfit (h.concat fun _ => hfailed)
  | @made n metric b vs bs hcomponent hid htype _ ih =>
    obtain ⟨⟨hnone, rfl⟩, hfit⟩ := hfit
    have hnot : ¬b.isFallback := by rw [hcomponent]; exact nofun
    have hattempts : Block.attempts failed earlier (b :: bs) =
        b :: Block.attempts failed (earlier ++ [b]) bs := if_pos (by rw [hcomponent]; rfl)
    have hknows : Knows (r.counted n.id) failed (earlier ++ [b]) :=
      h.concat fun hfallback => absurd hfallback hnot
    obtain ⟨hmetrics, hfailures⟩ := ih hfit hknows
    have hfailure : b.fault? scene.context = none := by
      cases b with
      | component => rfl
      | fallback => exact absurd rfl hnot
    rw [hattempts, List.map_cons, hid, htype, List.filterMap_cons_none hfailure, ← hmetrics]
    exact ⟨rfl, hfailures⟩
  | @failed n metric message block vs bs _ ih =>
    obtain ⟨⟨hnone, rfl, output, rfl⟩, hfit⟩ := hfit
    let b : Block := .fallback n.id n.type message (r.retryCount n.id) output
    have hfailed : r.hasFailed b.id = false := congrArg Option.isSome hnone
    have hfresh : b.isFresh failed earlier = true :=
      (h.isFresh rfl).trans (congrArg (!·) hfailed)
    have hattempts : Block.attempts failed earlier (b :: bs) =
        b :: Block.attempts failed (earlier ++ [b]) bs :=
      if_pos (by rw [hfresh]; exact Bool.or_true _)
    obtain ⟨hmetrics, hfailures⟩ := ih hfit (h.failing n.id n.type message _ output)
    rw [hattempts, List.map_cons, ← hmetrics]
    exact ⟨rfl, congrArg (n.fault scene message :: ·) hfailures⟩

end

end Visit

namespace Pass

theorem Visits.shownBy [Clock σ] {scene : Scene} {p q : Pass σ} {ns : List Node}
    {vs : List Visit} {bs : List Block} (h : Visits scene p ns vs bs q) (hcalm : p.Calm) :
    Visit.ShownBy vs (Block.preorderAll bs) := by
  induction h with
  | done p => exact .nil
  | hidden _ _ ih => exact ih hcalm
  | missing _ hmissing hnote _ ih =>
    exact .missing (ih ((missing_becomes hmissing hnote).calm hcalm rfl))
  | kept _ hfound hfailed hblock _ ih =>
    obtain ⟨hr, output, rfl⟩ := kept_becomes hcalm hfound hblock
    rw [Block.preorderAll_cons_fallback]
    exact .kept (ih (hr.calm hcalm rfl))
  | made _ hfound hfresh hmade hmetric hbelow _ ihbelow ih =>
    have hcalmr := (made_becomes hcalm hfound hmade).calm hcalm rfl
    rw [Block.preorderAll_cons_block]
    exact .made rfl rfl rfl ((ihbelow hcalmr).append (ih (hbelow.calm hcalmr)))
  | failed _ hfound hfresh hmade hmetric hblock _ ih =>
    obtain ⟨hs, output, rfl⟩ := failed_becomes hcalm hfound hmade hblock
    rw [Block.preorderAll_cons_fallback]
    exact .failed (ih (hs.calm hcalm rfl))

end Pass

namespace Stage

/-- What the four records of a pass have in common. The blocks of the output, each before its
children, tell which attempts were made: those for the blocks of components and for the fresh
fallbacks. There is one sample for each attempt, one note, one report and one failure
remembered for each fresh fallback, and callbacks are told in this sequence. -/
theorem render_accounts [Clock σ] (d : Document) (c : Context) {s : Stage σ} (hcalm : s.Calm) :
    (render d c).Yields s fun output t =>
      let attempts := Block.attempts s.renderer.hasFailed [] (Block.preorderAll output.blocks)
      let faults := attempts.filterMap (Block.fault? (s.scene d c).context)
      output.metrics.map (fun m => (m.componentId, m.componentType)) =
          attempts.map (fun b => (b.id, b.type)) ∧
        output.diagnostics.filter (!·.isMissing) = faults.map Fault.diagnostic ∧
        t.renderer.failures.table.Perm
          (faults.map (fun f => (f.componentId, f.error)) ++ s.renderer.failures.table) ∧
        ∀ watch : Watch σ, watch.Sees s.renderer.options s.registry →
          watch.Told s.world (s.renderer.options.toldSamples output.metrics)
            (s.renderer.options.toldFaults faults) t.world := by
  apply (render_visits d c hcalm).imp
  rintro output t ⟨vs, q, hvs, hdiagnostics, hmetrics, rfl⟩
  obtain ⟨hfit, hq⟩ := hvs.becomes hcalm
  have hmetrics : output.metrics = vs.filterMap Visit.metric? := hmetrics.trans hq.metrics
  have hdiagnostics : output.diagnostics = vs.flatMap Visit.diagnostics :=
    hdiagnostics.trans hq.diagnostics
  have hknows : Visit.Knows s.renderer s.renderer.hasFailed [] := fun _ => (Bool.or_false _).symm
  obtain ⟨hsamples, hfailures⟩ :=
    Visit.accounts (s.scene d c) (hvs.shownBy hcalm) hfit hknows
  dsimp only
  refine ⟨?_, ?_, ?_, fun watch hsees => ?_⟩
  · rw [hmetrics]
    exact hsamples
  · rw [hdiagnostics, Visit.noted_faults (s.scene d c), hfailures]
  · rw [hq.renderer, Visit.foldl_act_failing (s.scene d c), hfailures]
    have hids := Block.faults_ids (s.scene d c).context
      (Block.attempts s.renderer.hasFailed [] (Block.preorderAll output.blocks))
    have hkeys (fs : List Fault) : Table.keys (fs.map fun f => (f.componentId, f.error)) =
        fs.map Fault.componentId := List.map_map
    refine Table.perm_foldl_insert ?_ fun id hid hold => ?_
    · rw [hkeys, hids]
      exact Block.attempts_nodup
    · rw [hkeys, hids] at hid
      obtain ⟨b, hb, rfl⟩ := List.mem_map.1 hid
      obtain ⟨hb, hfallback⟩ := List.mem_filter.1 hb
      have hfailed : s.renderer.hasFailed b.id = true := Table.get?_isSome_iff.2 hold
      rw [(Block.attempts_fresh b hb hfallback).1] at hfailed
      cases hfailed
  · rw [hmetrics, ← hfailures]
    exact (Watch.visits_shows hvs hsees hcalm).told

/-- An outside with a clock, where what is told is written down. -/
structure Journal where
  time : UInt64 := 0
  samples : List Metric := []
  failures : List Failure := []

instance : Clock Journal := ⟨modifyGet fun j => (j.time, { j with time := j.time + 1 })⟩

def Journal.watch : Watch Journal where
  samples := Journal.samples
  faults j := j.failures.map Failure.toFault

def journalStage : Stage Journal where
  world := {}
  registry := { table := [
    ("Chart", { displayName := "Chart", defaults := [], source := .ready fun _ => throw ⟨none⟩ }),
    ("Text", { displayName := "Text", defaults := [],
               source := .ready fun props => return .ok (.object props) })] }
  renderer := {
    options := {
      onError := some fun failure => modify fun j =>
        { j with failures := j.failures ++ [failure] }
      onMetric := some fun metric => modify fun j =>
        { j with samples := j.samples ++ [metric] } }
    failures := (∅ : Dictionary String).insert "old" "earlier" }

def journalDocument : Document where
  components := [
    { id := "panel", type := "Text", children := [{ id := "chart", type := "Chart" }] },
    { id := "chart", type := "Text" },
    { id := "old", type := "Text" }]

theorem journalStage_calm : journalStage.Calm where
  options := by
    refine ⟨fun f hf failure => ?_, fun f hf metric => ?_, nofun⟩ <;> cases hf <;>
      exact returns_modify _
  registry := Registry.calm_of_forall_mem
    (List.forall_mem_cons.2 ⟨trivial, List.forall_mem_singleton.2 trivial⟩)

theorem journalStage_sees :
    Journal.watch.Sees journalStage.renderer.options journalStage.registry := by
  refine ⟨fun f hf metric w => ?_, fun f hf failure w => ?_, nofun, fun type entry h => ?_,
    fun w => ⟨(List.append_nil _).symm, (List.append_nil _).symm⟩⟩
  · cases hf
    exact ⟨rfl, (List.append_nil _).symm⟩
  · cases hf
    exact ⟨(List.append_nil _).symm, List.map_append⟩
  · simp only [journalStage, Dictionary.get?, Table.get?] at h
    split at h
    · cases h
      exact .ready fun props w => .refl w
    · split at h
      · cases h
        exact .ready fun props w => .refl w
      · cases h

theorem journalStage_accounts : ∃ output t,
    (render journalDocument {}).outcome journalStage = (.ok output, t) ∧
      (Block.preorderAll output.blocks).map Block.id = ["panel", "chart", "chart", "old"] ∧
      output.metrics.map Metric.componentId = ["panel", "chart"] ∧
      t.world.samples = output.metrics ∧
      (Journal.watch.faults t.world).map Fault.componentId = ["chart"] ∧
      t.renderer.failures.size = 2 := by
  obtain ⟨output, t, ht, hmetrics, -, hfailures, htold⟩ :=
    render_accounts journalDocument {} journalStage_calm
  let attempts (bs : List Block) : List Block :=
    Block.attempts journalStage.renderer.hasFailed [] (Block.preorderAll bs)
  have hblocks : ((render journalDocument {}).outcome journalStage).1.toOption.map (fun o =>
      ((Block.preorderAll o.blocks).map Block.id, (attempts o.blocks).map Block.id,
        ((attempts o.blocks).filter Block.isFallback).map Block.id)) =
      some (["panel", "chart", "chart", "old"], ["panel", "chart"], ["chart"]) := by decide +kernel
  rw [ht] at hblocks
  obtain ⟨hids, hblocks⟩ := Prod.mk.inj (Option.some.inj hblocks)
  obtain ⟨hattempts, hfallbacks⟩ := Prod.mk.inj hblocks
  have htold := htold Journal.watch journalStage_sees
  rw [← Block.faults_ids (journalStage.scene journalDocument {}).context] at hfallbacks
  refine ⟨output, t, ht, hids, ?_, htold.samples, ?_, ?_⟩
  · have hsamples := congrArg (List.map Prod.fst) hmetrics
    rw [List.map_map, List.map_map] at hsamples
    exact hsamples.trans hattempts
  · rw [← hfallbacks]
    exact congrArg (List.map Fault.componentId) htold.faults
  · have hlength := congrArg List.length hfallbacks
    rw [List.length_map] at hlength
    rw [Dictionary.size, hfailures.length_eq, List.length_append, List.length_map, hlength]
    rfl

end Stage

end PageConfig
