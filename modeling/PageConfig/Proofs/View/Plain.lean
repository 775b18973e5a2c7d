import PageConfig.Proofs.Effect.Tandem
import PageConfig.Proofs.View.Isolation

/-!
# What is shown but for styling

Two trees of nodes with the same ids, types and conditions, shown by units that are
functions of their props and always succeed. The passes over them panic alike or both
return, and apart from styling they show the same just where the units are given the
same props.
-/

set_option autoImplicit false

namespace PageConfig

open Effect

variable {σ : Type}

namespace Block

mutual

def plain : Block → Block
  | component id type displayName props output _ _ _ children =>
    component id type displayName props output none none none (plainAll children)
  | fallback id type error retryCount output => fallback id type error retryCount output

def plainAll : List Block → List Block
  | [] => []
  | b :: bs => b.plain :: plainAll bs

end

theorem plainAll_eq_map (bs : List Block) : plainAll bs = bs.map plain := by
  induction bs with
  | nil => rfl
  | cons b bs ih => rw [plainAll, ih, List.map_cons]

theorem plainAll_append (as bs : List Block) :
    plainAll (as ++ bs) = plainAll as ++ plainAll bs := by
  rw [plainAll_eq_map, plainAll_eq_map, plainAll_eq_map, List.map_append]

theorem plainAll_singleton (b : Block) : plainAll [b] = [b.plain] := rfl

/-- Plainly, the blocks of nodes with one id and type are the same just where what the units
were given and what is below them is. -/
theorem plain_block_inj {scene : Scene} {m n : Node} {c : Component σ} {x y : Value}
    {animated : Bool} {as bs : List Block} (hid : m.id = n.id) (htype : m.type = n.type)
    (hxy : m.givenProps scene c = n.givenProps scene c → x = y) :
    (m.block scene c x animated as).plain = (n.block scene c y animated bs).plain ↔
      m.givenProps scene c = n.givenProps scene c ∧ plainAll as = plainAll bs := by
  simp only [Node.block, plain, component.injEq, hid, htype, true_and]
  constructor
  · exact fun ⟨hgiven, _, hchildren⟩ => ⟨hgiven, hchildren⟩
  · exact fun ⟨hgiven, hchildren⟩ => ⟨hgiven, hxy hgiven, hchildren⟩

end Block

def Output.plain (o : Output) : Output := { o with blocks := Block.plainAll o.blocks }

/-- A unit that does nothing but compute an output from its props. -/
def Factory.computing (output : Props → Value) : Factory σ := fun props => pure (.ok (output props))

namespace Registry

def Pure (r : Registry σ) : Prop :=
  ∀ type entry, r.get? type = some entry →
    ∃ output, entry.source.Gives (Factory.computing output)

theorem Pure.calm {r : Registry σ} (h : r.Pure) : r.Calm := by
  intro type entry hentry
  obtain ⟨output, hgives⟩ := h type entry hentry
  exact hgives.calm

def defaults (r : Registry σ) (type : String) : Option Props := (r.get? type).map (·.defaults)

theorem Pure.loads {r s : Registry σ} (h : r.Pure) (hrs : r.Loads s) : s.Pure := by
  intro type entry hentry
  have hrs := hrs type
  rw [hentry] at hrs
  cases hr : r.get? type with
  | none =>
    rw [hr] at hrs
    cases hrs
  | some e =>
    rw [hr] at hrs
    cases hrs with
    | some hloads =>
      obtain ⟨output, hgives⟩ := h type e hr
      exact ⟨output, hgives.loads hloads.source⟩

theorem Loads.defaults {r s : Registry σ} (h : r.Loads s) (type : String) :
    s.defaults type = r.defaults type := by
  have h := h type
  unfold Registry.defaults
  revert h
  rcases r.get? type with _ | e <;> rcases s.get? type with _ | f <;> rintro (h | _)
  · rfl
  · exact congrArg some h.defaults

theorem Pure.finds {r s : Registry σ} {type : String} {c? : Option (Component σ)} {v w : σ}
    (h : r.Pure) (hfinds : r.Finds type v c? s w) :
    c?.map (·.defaults) = r.defaults type ∧
      ∀ c, c? = some c → ∃ output, c.factory = Factory.computing output := by
  unfold Registry.defaults
  cases hfinds with
  | absent hentry =>
    rw [hentry]
    exact ⟨rfl, nofun⟩
  | found hentry hresolve =>
    rw [hentry]
    refine ⟨rfl, fun c hc => ?_⟩
    cases hc
    obtain ⟨output, hgives⟩ := h type _ hentry
    exact ⟨output, (hgives v).of_outcome hresolve⟩

end Registry

namespace Node

mutual

/-- The nodes have the same ids, types and conditions, and so have their children. -/
def Like : Node → Node → Prop
  | m, .mk id type _ _ children conditions _ _ _ _ _ =>
    m.id = id ∧ m.type = type ∧ m.conditions = conditions ∧ LikeAll m.children children

def LikeAll : List Node → List Node → Prop
  | [], [] => True
  | m :: ms, n :: ns => Like m n ∧ LikeAll ms ns
  | _, _ => False

end

mutual

/-- Where the nodes are shown, their units are given the same props, and so it is with
their children. -/
def GivenAlike (scene : Scene) (defaults : String → Option Props) : Node → Node → Prop
  | m, n@(.mk _ type _ _ children conditions _ _ _ _ _) =>
    Condition.allHold scene.data conditions = true → ∀ base, defaults type = some base →
      base.mergeShallow (m.resolvedProps scene) = base.mergeShallow (n.resolvedProps scene) ∧
        GivenAlikeAll scene defaults m.children children

def GivenAlikeAll (scene : Scene) (defaults : String → Option Props) :
    List Node → List Node → Prop
  | [], [] => True
  | m :: ms, n :: ns => GivenAlike scene defaults m n ∧ GivenAlikeAll scene defaults ms ns
  | _, _ => False

end

mutual

theorem Like.refl : ∀ n : Node, Like n n
  | .mk _ _ _ _ children _ _ _ _ _ _ => ⟨rfl, rfl, rfl, LikeAll.refl children⟩

theorem LikeAll.refl : ∀ ns : List Node, LikeAll ns ns
  | [] => trivial
  | n :: ns => ⟨Like.refl n, LikeAll.refl ns⟩

end

mutual

theorem GivenAlike.refl (scene : Scene) (defaults : String → Option Props) :
    ∀ n : Node, GivenAlike scene defaults n n
  | .mk _ _ _ _ children _ _ _ _ _ _ => fun _ _ _ =>
    ⟨rfl, GivenAlikeAll.refl scene defaults children⟩

theorem GivenAlikeAll.refl (scene : Scene) (defaults : String → Option Props) :
    ∀ ns : List Node, GivenAlikeAll scene defaults ns ns
  | [] => trivial
  | n :: ns => ⟨GivenAlike.refl scene defaults n, GivenAlikeAll.refl scene defaults ns⟩

end

end Node

namespace Pass

open Node Block

structure Fresh (defaults : String → Option Props) (p : Pass σ) : Prop where
  failures : p.renderer.failures = ∅
  pure : p.registry.Pure
  defaults : ∀ type, p.registry.defaults type = defaults type

section

variable {defaults : String → Option Props} {p q : Pass σ}

theorem Fresh.ofParts (h : p.Fresh defaults) (hfailures : q.renderer.failures = p.renderer.failures)
    (hregistry : q.registry = p.registry) : q.Fresh defaults where
  failures := hfailures.trans h.failures
  pure := hregistry ▸ h.pure
  defaults := hregistry ▸ h.defaults

theorem Fresh.component? {type : String} {c? : Option (Component σ)} (h : p.Fresh defaults)
    (hc : (Pass.component? type).outcome p = (.ok c?, q)) :
    q.Fresh defaults ∧ c?.map (·.defaults) = defaults type ∧
      ∀ c, c? = some c → ∃ output, c.factory = Factory.computing output := by
  have hq := (component?_becomes hc).1
  obtain ⟨hdefaults, hcomputing⟩ := h.pure.finds (component?_finds hc).1
  refine ⟨⟨?_, h.pure.loads hq.registry, fun other => ?_⟩, ?_, hcomputing⟩
  · rw [hq.renderer, h.failures]
  · rw [hq.registry.defaults, h.defaults]
  · rw [hdefaults, h.defaults]

theorem Fresh.call {α : Type} {e : Effect σ α} {a : α} (h : p.Fresh defaults)
    (hcall : (Pass.call e).outcome p = (.ok a, q)) : q.Fresh defaults := by
  unfold Pass.call at hcall
  rw [outcome_within] at hcall
  cases congrArg Prod.snd hcall
  exact h.ofParts rfl rfl

theorem instantiate_tandem (h : p.Fresh defaults) (id type : String) (output : Props → Value)
    (given given' : Props) : Tandem (instantiate id type (Factory.computing output) given)
      (instantiate id type (Factory.computing output) given') p fun a b q =>
        q.Fresh defaults ∧ a = .ok (output given) ∧ b = .ok (output given') := by
  unfold instantiate
  apply Tandem.bind (P := fun a b q => p = q ∧ a = .ok (output given) ∧ b = .ok (output given'))
  · exact .returns rfl rfl ⟨rfl, rfl, rfl⟩
  rintro _ _ _ ⟨rfl, rfl, rfl⟩
  apply tandem_get_bind
  apply tandem_modify_bind
  have hsampled (t : Pass σ) (ht : t.Fresh defaults) (metric : Metric) :
      Tandem (do
          modify fun p' : Pass σ => { p' with metrics := p'.metrics ++ [metric] }
          return .ok (output given))
        (do
          modify fun p' : Pass σ => { p' with metrics := p'.metrics ++ [metric] }
          return .ok (output given')) t
        fun (a b : Except RenderError Value) q =>
          q.Fresh defaults ∧ a = .ok (output given) ∧ b = .ok (output given') := by
    apply tandem_modify_bind
    exact tandem_pure ⟨ht.ofParts rfl rfl, rfl, rfl⟩
  have hcounted : Fresh defaults { p with renderer := p.renderer.counted id } := h.ofParts rfl rfl
  dsimp only
  cases p.renderer.options.onMetric with
  | none => exact hsampled _ hcounted _
  | some onMetric =>
    apply (tandem_self _ _).bind
    rintro _ _ t ⟨rfl, ht⟩
    exact hsampled t (hcounted.call ht) _

/-- As many blocks are shown by one pass as by the other, and they are plainly the same just
where `alike` holds. -/
structure ShowAlike (defaults : String → Option Props) (alike : Prop) (as bs : List Block)
    (q : Pass σ) : Prop where
  fresh : q.Fresh defaults
  length : as.length = bs.length
  plain : plainAll as = plainAll bs ↔ alike

theorem ShowAlike.append {alike alike' : Prop} {as bs as' bs' : List Block}
    (h : ShowAlike defaults alike as bs p) (h' : ShowAlike defaults alike' as' bs' q) :
    ShowAlike defaults (alike ∧ alike') (as ++ as') (bs ++ bs') q where
  fresh := h'.fresh
  length := by rw [List.length_append, List.length_append, h.length, h'.length]
  plain := by
    have hlength : (plainAll as).length = (plainAll bs).length := by
      rw [plainAll_eq_map, plainAll_eq_map, List.length_map, List.length_map, h.length]
    rw [plainAll_append, plainAll_append, ← h.plain, ← h'.plain]
    exact ⟨fun happend => List.append_inj happend hlength, fun ⟨ha, hb⟩ => by rw [ha, hb]⟩

variable [Clock σ]

theorem node?_tandem_of {scene : Scene} {m n : Node} (hid : m.id = n.id) (htype : m.type = n.type)
    (hconditions : m.conditions = n.conditions)
    (hbelow : ∀ q : Pass σ, q.Fresh defaults → Tandem (nodes scene m.children)
      (nodes scene n.children) q
      (ShowAlike defaults (GivenAlikeAll scene defaults m.children n.children)))
    (h : p.Fresh defaults) : Tandem (node? scene m) (node? scene n) p fun a? b? =>
      ShowAlike defaults (GivenAlike scene defaults m n) a?.toList b?.toList := by
  obtain ⟨id, type, props, order, children, conditions, responsive, styles, animation,
    accessibility, errorFallback⟩ := n
  dsimp only at hid htype hconditions hbelow
  rw [node?_eq, node?_eq, hid, htype, hconditions]
  dsimp only
  split
  · rename_i hhidden
    rw [Bool.not_eq_true'] at hhidden
    refine tandem_pure ⟨h, rfl, iff_of_true rfl fun hshown => ?_⟩
    rw [hhidden] at hshown
    cases hshown
  rename_i hshown
  rw [Bool.not_eq_true', Bool.not_eq_false] at hshown
  apply (tandem_self _ _).bind
  rintro c? _ q ⟨rfl, hc⟩
  obtain ⟨hq, hdefaults, hcomputing⟩ := h.component? hc
  cases c? with
  | none =>
    apply (tandem_self _ _).bind
    rintro _ _ t ⟨-, ht⟩
    cases ht
    have ht : Fresh defaults
        { q with diagnostics := q.diagnostics ++ [.missingComponent id type] } :=
      hq.ofParts rfl rfl
    refine tandem_pure ⟨ht, rfl, iff_of_true rfl fun _ base hbase => ?_⟩
    cases hdefaults.trans hbase
  | some c =>
    apply tandem_get_bind
    obtain ⟨output, houtput⟩ := hcomputing c rfl
    rw [hq.failures, houtput]
    apply (instantiate_tandem hq id type output _ _).bind
    rintro _ _ t ⟨ht, rfl, rfl⟩
    apply tandem_get_bind
    apply (hbelow t ht).bind
    rintro as bs u ⟨hu, -, hiff⟩
    refine tandem_pure ⟨hu, rfl, ?_⟩
    rw [Option.toList_some, Option.toList_some, plainAll_singleton, plainAll_singleton,
      List.singleton_inj, plain_block_inj hid htype (congrArg output), hiff]
    constructor
    · rintro halike - base hbase
      obtain rfl : c.defaults = base := Option.some.inj (hdefaults.trans hbase)
      exact halike
    · exact fun halike => halike hshown c.defaults hdefaults.symm

mutual

theorem node?_tandem (scene : Scene) : ∀ (n m : Node) (p : Pass σ), Like m n → p.Fresh defaults →
    Tandem (node? scene m) (node? scene n) p fun a? b? =>
      ShowAlike defaults (GivenAlike scene defaults m n) a?.toList b?.toList
  | .mk _ _ _ _ children _ _ _ _ _ _, m, _ => fun ⟨hid, htype, hconditions, hchildren⟩ h =>
    node?_tandem_of hid htype hconditions
      (fun q hq => nodes_tandem scene children m.children q hchildren hq) h

theorem nodes_tandem (scene : Scene) : ∀ (ns ms : List Node) (p : Pass σ), LikeAll ms ns →
    p.Fresh defaults → Tandem (nodes scene ms) (nodes scene ns) p
      (ShowAlike defaults (GivenAlikeAll scene defaults ms ns))
  | [], [], _ => fun _ h => by
    rw [nodes]
    exact tandem_pure ⟨h, rfl, iff_of_true rfl trivial⟩
  | n :: ns, m :: ms, p => fun ⟨hlike, hlikes⟩ h => by
    rw [nodes, nodes]
    apply (node?_tandem scene n m p hlike h).bind
    rintro a? b? q hhead
    apply (nodes_tandem scene ns ms q hlikes hhead.fresh).bind
    rintro as bs t hrest
    exact tandem_pure (hhead.append hrest)
  | [], _ :: _, _ => fun hlike => hlike.elim
  | _ :: _, [], _ => fun hlike => hlike.elim

end

theorem page_tandem {scene : Scene} {d : Document} {ns : List Node}
    (hlike : LikeAll (top { d with components := ns }) (top d)) (h : p.Fresh defaults) :
    Tandem (page scene { d with components := ns }) (page scene d) p fun as bs _ =>
      GivenAlikeAll scene defaults (top { d with components := ns }) (top d) →
        plainAll as = plainAll bs := by
  have hnodes := nodes_tandem scene _ _ p hlike h
  unfold page
  dsimp only
  by_cases hbounded : (d.errorBoundary.map (·.enabled)).getD false = true
  · simp only [hbounded, if_true]
    apply hnodes.attempt.bind
    rintro _ _ q (⟨panic, rfl, rfl⟩ | ⟨as, bs, rfl, rfl, hshow⟩)
    · apply (tandem_self _ _).bind
      rintro block _ t ⟨rfl, -⟩
      exact tandem_pure fun _ => rfl
    · exact tandem_pure hshow.plain.2
  · simp only [hbounded]
    exact hnodes.imp fun _ _ _ hshow => hshow.plain.2

end

end Pass

end PageConfig
