import PageConfig.Page.Controller
import PageConfig.Proofs.Page.Intake
import PageConfig.Proofs.Raw.Texts
import PageConfig.Proofs.View.ShownProps

/-!
# Script in what a page shows

Cleaning comes before the props are resolved. In the default context every step of
the resolution keeps texts free of script but the last: a token of the theme is
put inside a text, and the two together can be script though neither is.
-/

set_option autoImplicit false

namespace PageConfig

variable {σ : Type}

namespace Node

/-- The props of a node with everything put in but the tokens of the theme. -/
def unthemedProps (n : Node) (s : Scene) : Props :=
  Props.mergeShallow [] ((n.baseProps s.viewport).fillTemplates s.data)

theorem mergeShallow_resolvedProps (n : Node) (s : Scene) :
    Props.mergeShallow [] (n.resolvedProps s) = match s.theme with
      | some theme => (n.unthemedProps s).fillTheme theme
      | none => n.unthemedProps s := by
  unfold resolvedProps unthemedProps
  cases s.theme with
  | none => rfl
  | some theme =>
    simp only [Props.fillTheme_eq_mapValues, Props.mapValues_mergeShallow]
    rfl

theorem texts_unthemedProps (n : Node) (s : Scene) :
    (Value.object (n.unthemedProps s)).texts ⊆ n.texts ++ s.data.texts := by
  intro t ht
  rcases Props.mem_texts_mergeShallow ht with ht | ht
  · cases ht
  · rcases List.mem_append.1 (Props.texts_fillFields s.data _ ht) with ht | ht
    · exact List.mem_append_left _ (texts_baseProps n s.viewport ht)
    · exact List.mem_append_right _ ht

theorem resolvedProps_script_free_iff (n : Node) (s : Scene)
    (h : ∀ t ∈ (Value.object (n.unthemedProps s)).texts, ScriptFree t) :
    (∀ t ∈ (Value.object (Props.mergeShallow [] (n.resolvedProps s))).texts, ScriptFree t) ↔
      ∀ theme ∈ s.theme, ∀ t ∈ (Value.object (n.unthemedProps s)).outerTexts,
        ScriptFree (resolveTheme t theme) := by
  rw [mergeShallow_resolvedProps]
  cases s.theme with
  | none => exact ⟨fun _ => nofun, fun _ => h⟩
  | some theme =>
    simp only [Option.mem_def, Option.some.injEq, forall_eq']
    exact Props.fillTheme_script_free_iff theme h

end Node

theorem Viewport.texts_toValue (v : Viewport) : v.toValue.texts ⊆ [] := by
  apply Value.texts_ofFields
  simp [Value.whole, Value.texts]

theorem Performance.texts_toValue (p : Performance) : p.toValue.texts ⊆ ["slow", "fast"] := by
  apply Value.texts_ofFields
  simp only [List.forall_mem_cons, List.not_mem_nil, false_implies, implies_true, and_true]
  constructor
  · intro v hv
    obtain ⟨b, -, rfl⟩ := Option.map_eq_some_iff.1 hv
    exact List.nil_subset _
  · intro v hv
    obtain ⟨c, -, rfl⟩ := Option.map_eq_some_iff.1 hv
    cases c <;> simp [Connection.name, Value.texts]

theorem Context.texts_effective_default (host : Host) :
    (Context.effective {} host).toValue.texts ⊆ ["light", "slow", "fast"] := by
  apply Value.texts_ofFields
  simp only [effective, List.map_nil, List.append_nil, List.forall_mem_cons, List.not_mem_nil,
    false_implies, implies_true, and_true]
  refine ⟨fun v hv => ?_, ?_, ?_, fun v hv => ?_, fun v hv => ?_, fun v hv => ?_, ?_⟩
  case refine_1 | refine_4 | refine_5 | refine_6 => cases hv
  · intro v hv
    cases hv
    simp [ThemeMode.name, Value.texts]
  · intro v hv
    cases hv
    exact List.Subset.trans (Viewport.texts_toValue _) (List.nil_subset _)
  · intro v hv
    cases hv
    exact List.Subset.trans (Performance.texts_toValue _) (List.subset_cons_self _ _)

theorem Context.effective_default_script_free (host : Host) :
    ∀ s ∈ (Context.effective {} host).toValue.texts, ScriptFree s := by
  intro s hs
  have hmem := texts_effective_default host hs
  simp only [List.mem_cons, List.not_mem_nil, or_false] at hmem
  rcases hmem with rfl | rfl | rfl <;> exact Script.free_of_unmarked (by simp)

variable [Clock σ]

namespace Page

theorem render_shows {q : Page σ} {held : Held} {output : Output}
    (hheld : q.controller.held = some held) (hplain : q.registry.Plain)
    (hrender : (render.outcome q).1 = .ok (some output)) :
    Pass.Shows (.ofDocument held.document q.controller.context q.controller.renderer.options.host)
      held.document.nodes output.blocks := by
  unfold render at hrender
  obtain ⟨q₁, q₂, hget, hrender⟩ := Effect.outcome_bind_eq_ok hrender
  have hq := Except.ok.inj (congrArg Prod.fst hget)
  have hq' : q = q₂ := congrArg Prod.snd hget
  subst hq hq'
  simp only [(Controller.held_eq_some_iff.1 hheld).2] at hrender
  obtain ⟨shown, q₃, hstage, hrender⟩ := Effect.outcome_bind_eq_ok hrender
  obtain ⟨_, q₄, -, hrender⟩ := Effect.outcome_bind_eq_ok hrender
  rw [Effect.outcome_pure] at hrender
  obtain rfl := Option.some.inj (Except.ok.inj hrender)
  have hstage : ((onStage (Stage.render held.document q.controller.context)).outcome q).1 =
      .ok shown := congrArg Prod.fst hstage
  exact Stage.render_shows (s := ⟨q.world, q.registry, q.controller.renderer⟩) hplain hstage

end Page

/-- In every page that can be reached, with the default context and units without defaults,
each unit is given the resolved props of a node. Up to the theme their texts are free of
script; with the theme they are just when no text outside of lists turns into script by
the tokens put in. -/
theorem shown_props_script_free_iff {q : Page σ} {held : Held} {output : Output}
    (hreach : q.Reachable) (hheld : q.controller.held = some held)
    (hcontext : q.controller.context = {}) (hplain : q.registry.Plain)
    (hrender : (Page.render.outcome q).1 = .ok (some output)) :
    let scene : Scene := .ofDocument held.document {} q.controller.renderer.options.host
    ∀ shown ∈ Block.componentsOf output.blocks, ∃ m ∈ held.document.nodes,
      shown = (m.id, Props.mergeShallow [] (m.resolvedProps scene)) ∧
      (∀ s ∈ (Value.object (m.unthemedProps scene)).texts, ScriptFree s) ∧
      ((∀ s ∈ (Value.object shown.2).texts, ScriptFree s) ↔
        ∀ theme ∈ scene.theme, ∀ s ∈ (Value.object (m.unthemedProps scene)).outerTexts,
          ScriptFree (resolveTheme s theme)) := by
  intro scene shown hshown
  obtain ⟨hdocument, raw, options, n, hvalue⟩ := Page.reachable_holds hreach held hheld
  have hshows := Page.render_shows hheld hplain hrender
  rw [hcontext] at hshows
  obtain ⟨m, hm, rfl⟩ := hshows shown hshown
  have hunthemed : ∀ s ∈ (Value.object (m.unthemedProps scene)).texts, ScriptFree s := by
    intro s hs
    rcases List.mem_append.1 (Node.texts_unthemedProps m scene hs) with hs | hs
    · have hs := Document.texts_ofValue hdocument m hm hs
      rw [hvalue] at hs
      exact Value.processed_script_free hs
    · exact Context.effective_default_script_free _ s hs
  exact ⟨m, hm, rfl, hunthemed, Node.resolvedProps_script_free_iff m scene hunthemed⟩

def linkValue (token : String) : Value := .object [
  ("components", .list [.object [
    ("id", .text "link"),
    ("props", .object [("href", .text "javatheme(a)")]),
    ("type", .text "Link")]]),
  ("theme", .object [("a", .text token)])]

def linkNode : Node := { id := "link", type := "Link", props := [("href", .text "javatheme(a)")] }

def linkDocument (token : String) : Document where
  components := [linkNode]
  theme := some { extra := [("a", .text token)] }

def linkRegistry : Registry Unit := { table := [("Link", {
  displayName := "Link"
  defaults := []
  source := .ready fun props => return .ok (.object props) })] }

def linkPage (token : String) : Page Unit where
  world := ()
  registry := linkRegistry
  controller := { Controller.empty {} {} with
    input := some (linkValue token)
    value := some (linkValue token)
    document := some (linkDocument token)
    findings := (linkValue token).validate.toFindings
    status := .ready }

theorem ofValue_linkValue (token : String) :
    Document.ofValue (linkValue token) = .ok (linkDocument token) := by
  unfold Document.ofValue Document.decode
  rw [Node.decode_eq]
  rfl

theorem repair_linkValue (token : String) : (linkValue token).repair = linkValue token := rfl

theorem sanitize_linkValue {token : String} (h : ScriptFree token) :
    (linkValue token).sanitize = linkValue token := by
  rw [Value.sanitize, repair_linkValue]
  apply Value.cleanTexts_eq_self
  have htexts : (linkValue token).texts = ["link", "javatheme(a)", "Link", token] := rfl
  intro s hs
  rw [htexts] at hs
  simp only [List.mem_cons, List.not_mem_nil, or_false] at hs
  rcases hs with rfl | rfl | rfl | rfl
  · exact Script.free_of_unmarked (by simp)
  · exact Script.free_of_unmarked (by simp)
  · exact Script.free_of_unmarked (by simp)
  · exact h

theorem process_linkValue {token : String} (h : ScriptFree token) :
    (linkValue token).process {} =
      { document := linkValue token, report := some (linkValue token).validate } := by
  rw [Value.process, sanitize_linkValue h]
  change Processed.mk (linkValue token).repair _ = _
  rw [repair_linkValue]
  rfl

theorem linkPage_reachable {token : String} (h : ScriptFree token) :
    (linkPage token).Reachable := by
  apply Page.ReachableWith.start {} {} (some (linkValue token))
    (p := { linkPage token with controller := .empty {} {} })
  rw [Page.outcome_start]
  exact Page.process_eq_ok (q := { linkPage token with controller := .empty {} {} }) rfl
    (process_linkValue h) (ofValue_linkValue token)

theorem linkRegistry_plain : linkRegistry.Plain := by
  intro type e he
  simp only [linkRegistry, Dictionary.get?, Table.get?] at he
  split at he <;> cases he
  rfl

def shownProps (q : Page Unit) : Option (List (String × Props)) :=
  match (Page.render.outcome q).1 with
  | .ok (some output) => some (Block.componentsOf output.blocks)
  | _ => none

theorem exists_output_of_shownProps {q : Page Unit} {ps : List (String × Props)}
    (h : shownProps q = some ps) : ∃ output, (Page.render.outcome q).1 = .ok (some output) ∧
      Block.componentsOf output.blocks = ps := by
  unfold shownProps at h
  split at h
  · rename_i output houtput
    exact ⟨output, houtput, Option.some.inj h⟩
  · cases h

theorem shownProps_linkPage {token href : String}
    (h : resolveTheme "javatheme(a)" (Theme.toValue { extra := [("a", .text token)] }) = href) :
    shownProps (linkPage token) = some [("link", [("href", .text href)])] := by
  rw [← h]
  rfl

theorem linkPage_script_free :
    (linkPage "bean").Reachable ∧
      ∃ output, (Page.render.outcome (linkPage "bean")).1 = .ok (some output) ∧
        Block.componentsOf output.blocks = [("link", [("href", .text "javabean")])] ∧
        ∀ shown ∈ Block.componentsOf output.blocks,
          ∀ s ∈ (Value.object shown.2).texts, ScriptFree s := by
  have hreach : (linkPage "bean").Reachable :=
    linkPage_reachable (Script.free_of_unmarked (by simp))
  have hresolved : resolveTheme "javatheme(a)" (Theme.toValue { extra := [("a", .text "bean")] }) =
      "javabean" := by decide +kernel
  obtain ⟨output, hrender, hprops⟩ :=
    exists_output_of_shownProps (shownProps_linkPage hresolved)
  refine ⟨hreach, output, hrender, hprops, fun shown hshown => ?_⟩
  obtain ⟨m, hm, -, -, hiff⟩ := shown_props_script_free_iff hreach rfl rfl linkRegistry_plain
    hrender shown hshown
  apply hiff.2
  intro theme htheme s hs
  have hnodes : (linkDocument "bean").nodes = [linkNode] := rfl
  obtain rfl : m = linkNode := List.mem_singleton.1 (hnodes ▸ hm)
  have houter : (Value.object (linkNode.unthemedProps
      (.ofDocument (linkDocument "bean") {} {}))).outerTexts = ["javatheme(a)"] := rfl
  obtain rfl : s = "javatheme(a)" := List.mem_singleton.1 (houter ▸ hs)
  have htoken : some (Theme.toValue { extra := [("a", .text "bean")] }) = some theme := htheme
  rw [← Option.some.inj htoken, hresolved]
  exact Script.free_of_unmarked (by simp)

theorem shown_props_not_always_script_free :
    ¬ ∀ (q : Page Unit) (output : Output), q.Reachable → q.controller.context = {} →
      q.registry.Plain → (Page.render.outcome q).1 = .ok (some output) →
      ∀ shown ∈ Block.componentsOf output.blocks,
        ∀ s ∈ (Value.object shown.2).texts, ScriptFree s := by
  intro h
  have htoken : ScriptFree "script:alert(1)" :=
    (Script.round_eq_self_iff _).1 (by decide +kernel)
  have hresolved : resolveTheme "javatheme(a)"
      (Theme.toValue { extra := [("a", .text "script:alert(1)")] }) = "javascript:alert(1)" := by
    decide +kernel
  obtain ⟨output, hrender, hprops⟩ :=
    exists_output_of_shownProps (shownProps_linkPage hresolved)
  have hfree := h _ output (linkPage_reachable htoken) rfl linkRegistry_plain hrender
  rw [hprops] at hfree
  have hlink : ScriptFree "javascript:alert(1)" :=
    hfree _ List.mem_cons_self _ List.mem_cons_self
  have hround : Script.round "javascript:alert(1)".toList = "alert(1)".toList := by
    decide +kernel
  have hself := (Script.round_eq_self_iff _).2 hlink
  rw [hround] at hself
  revert hself
  decide

end PageConfig
