import Mathlib.Data.List.DropRight
import PageConfig.Proofs.Component.Registry
import PageConfig.Proofs.Value.Table

/-!
# The log of a registry

What a registry answers is told by the log of what it was asked. Of a type only the last
renewal counts, and of what came after it only the look-ups that loaded a factory. An op
is one step, so what the registry holds of the log carries over runs. A look-up passes a
panic of its loader on; the log tells of it, and the ops go on after it.
-/

set_option autoImplicit false

namespace PageConfig

open Effect

variable {σ : Type}

abbrev LoadEnd (σ : Type) := Except Panic (Except PageError (Factory σ))

def LoadEnd.factory? : LoadEnd σ → Option (Factory σ)
  | .ok (.ok factory) => some factory
  | _ => none

inductive Origin (σ : Type) where
  | ready (factory : Factory σ)
  | lazy (loader : Loader σ)

namespace Origin

variable (supplied : Option (Factory σ))

def source : Origin σ → Source σ
  | ready factory => .ready factory
  | lazy loader => .lazy loader supplied

def factory? : Origin σ → Option (Factory σ)
  | ready factory => some factory
  | lazy _ => supplied

theorem isLoaded_source (o : Origin σ) :
    (o.source supplied).isLoaded = (o.factory? supplied).isSome := by
  cases o <;> rfl

variable {supplied}

theorem outcome_resolve_held {o : Origin σ} {factory : Factory σ}
    (h : o.factory? supplied = some factory) (world : σ) :
    (o.source supplied).resolve.outcome world = (.ok (factory, o.source supplied), world) := by
  cases o with
  | ready other =>
    cases h
    rfl
  | lazy loader =>
    obtain rfl : supplied = some factory := h
    rfl

theorem eq_lazy_of_unheld {o : Origin σ} (h : o.factory? supplied = none) :
    supplied = none ∧ ∃ loader, o = .lazy loader := by
  cases o with
  | ready factory => cases h
  | lazy loader => exact ⟨h, loader, rfl⟩

end Origin

structure Registration (σ : Type) where
  origin : Origin σ
  defaults : Props
  displayName : Option String

namespace Registration

variable (new : Registration σ) (type : String) (supplied : Option (Factory σ))

def entry : Entry σ where
  displayName := new.displayName.getD type
  defaults := new.defaults
  source := new.origin.source supplied

def component (factory : Factory σ) : Component σ where
  displayName := new.displayName.getD type
  defaults := new.defaults
  factory := factory

def info : EntryInfo where
  displayName := new.displayName.getD type
  defaults := new.defaults
  isLazy := (new.origin.source none).isLazy
  isLoaded := (new.origin.factory? supplied).isSome

end Registration

namespace Registry

inductive Op (σ : Type) where
  | register (type : String) (new : Registration σ)
  | unregister (type : String)
  | clear
  | get (type : String)
  | has (type : String)
  | infos
  | size

inductive Answer (σ : Type) where
  | done
  | component (component? : Option (Component σ))
  | panicked (p : Panic)
  | known (b : Bool)
  | infos (infos : Dictionary EntryInfo)
  | size (n : Nat)

namespace Op

/-- After the op, nothing from before it is in force for the type. -/
def renews (type : String) : Op σ → Bool
  | register other _ => other == type
  | unregister other => other == type
  | clear => true
  | _ => false

def registration? : Op σ → Option (Registration σ)
  | register _ new => some new
  | _ => none

def isAbout (type : String) : Op σ → Bool
  | get other => other == type
  | op => op.renews type

end Op

/-- The answer to an op, and the registry after it. A panic leaves the registry as it was. -/
def perform (r : Registry σ) : Op σ → StateM σ (Answer σ × Registry σ)
  | .register type new => return (.done,
      r.register type (new.origin.source none) new.defaults new.displayName)
  | .unregister type => return (.done, r.unregister type)
  | .clear => return (.done, ∅)
  | .get type => do
    match ← (r.get type).run with
    | .ok (component?, r) => return (.component component?, r)
    | .error p => return (.panicked p, r)
  | .has type => return (.known (r.has type), r)
  | .infos => return (.infos r.infos, r)
  | .size => return (.size r.size, r)

theorem run_perform_get (r : Registry σ) (type : String) (world : σ) :
    (r.perform (.get type)).run world = match (r.get type).outcome world with
      | (.ok (component?, s), w) => ((.component component?, s), w)
      | (.error p, w) => ((.panicked p, r), w) := by
  rw [perform, StateT.run_bind]
  unfold outcome
  rcases (r.get type).run.run world with ⟨p | found, w⟩ <;> rfl

/-- An op with its answer, and the loader that was run for it with what that ended in. -/
structure Moment (σ : Type) where
  op : Op σ
  answer : Answer σ
  load : Option (Loader σ × LoadEnd σ)

def Moment.supplied? (m : Moment σ) (type : String) : Option (Factory σ) :=
  match m.op with
  | .get other => if other = type then m.load.bind (·.2.factory?) else none
  | _ => none

abbrev Log (σ : Type) := List (Moment σ)

namespace Log

/-- The registration of the type that is in force: the last one, unless it was taken back. -/
def live (log : Log σ) (type : String) : Option (Registration σ) :=
  (log.filter (·.op.renews type)).getLast?.bind (·.op.registration?)

/-- The first factory that was loaded for the type since it was last renewed. -/
def supplied (log : Log σ) (type : String) : Option (Factory σ) :=
  (log.rtakeWhile fun m => !m.op.renews type).findSome? (·.supplied? type)

def held? (log : Log σ) (type : String) : Option (Entry σ) :=
  (log.live type).map (·.entry type (log.supplied type))

variable (log : Log σ) (m : Moment σ) (type : String)

theorem live_concat : live (log ++ [m]) type =
    if m.op.renews type then m.op.registration? else log.live type := by
  rw [live, List.filter_append, List.filter_singleton]
  cases m.op.renews type with
  | true => rw [cond_true, List.getLast?_concat, if_pos rfl, Option.bind_some]
  | false =>
    rw [cond_false, List.append_nil, if_neg Bool.false_ne_true]
    rfl

theorem supplied_concat : supplied (log ++ [m]) type =
    if m.op.renews type then none else (log.supplied type).or (m.supplied? type) := by
  rw [supplied]
  by_cases hm : m.op.renews type
  · rw [List.rtakeWhile_concat_neg _ _ _ (by simp [hm]), if_pos hm]
    rfl
  · rw [List.rtakeWhile_concat_pos _ _ _ (by simp [hm]), if_neg hm, List.findSome?_append,
      List.findSome?_singleton]
    rfl

theorem held?_eq_none_iff : log.held? type = none ↔ log.live type = none := Option.map_eq_none_iff

theorem isSome_held? : (log.held? type).isSome = (log.live type).isSome := Option.isSome_map

variable {log m type}

theorem held?_concat_of_quiet (hrenews : m.op.renews type = false)
    (hquiet : m.supplied? type = none) : held? (log ++ [m]) type = log.held? type := by
  rw [held?, live_concat, supplied_concat, if_neg (by simp [hrenews]), if_neg (by simp [hrenews]),
    hquiet, Option.or_none]
  rfl

/-- The moments that the log allows next. Only a look-up of a type runs a loader: the one
that is in force for the type, and only while it has supplied nothing. -/
inductive Follows (past : Log σ) : Moment σ → Prop
  | register (type : String) (new : Registration σ) :
    Follows past ⟨.register type new, .done, none⟩
  | unregister (type : String) : Follows past ⟨.unregister type, .done, none⟩
  | clear : Follows past ⟨.clear, .done, none⟩
  | absent {type : String} (hlive : past.live type = none) :
    Follows past ⟨.get type, .component none, none⟩
  | held {type : String} {new : Registration σ} {factory : Factory σ}
    (hlive : past.live type = some new)
    (hheld : new.origin.factory? (past.supplied type) = some factory) :
    Follows past ⟨.get type, .component (some (new.component type factory)), none⟩
  | loaded {type : String} {new : Registration σ} {loader : Loader σ} {factory : Factory σ}
    (hlive : past.live type = some new) (hlazy : new.origin = .lazy loader)
    (hunsupplied : past.supplied type = none) :
    Follows past ⟨.get type, .component (some (new.component type factory)),
      some (loader, .ok (.ok factory))⟩
  | failed {type : String} {new : Registration σ} {loader : Loader σ} {e : PageError}
    (hlive : past.live type = some new) (hlazy : new.origin = .lazy loader)
    (hunsupplied : past.supplied type = none) :
    Follows past ⟨.get type, .component (some (new.component type (.failing e.message))),
      some (loader, .ok (.error e))⟩
  | panicked {type : String} {new : Registration σ} {loader : Loader σ} {p : Panic}
    (hlive : past.live type = some new) (hlazy : new.origin = .lazy loader)
    (hunsupplied : past.supplied type = none) :
    Follows past ⟨.get type, .panicked p, some (loader, .error p)⟩
  | has (type : String) : Follows past ⟨.has type, .known (past.live type).isSome, none⟩
  | infos {infos : Dictionary EntryInfo} (hinfos : ∀ type, infos.get? type =
      (past.live type).map (·.info type (past.supplied type))) :
    Follows past ⟨.infos, .infos infos, none⟩
  | size {types : List String} (hnodup : types.Nodup)
    (hlive : ∀ type, type ∈ types ↔ (past.live type).isSome) :
    Follows past ⟨.size, .size types.length, none⟩

end Log

/-- The op is performed as the moment tells, and the world is changed by the loader alone. -/
structure Performs (r : Registry σ) (world : σ) (m : Moment σ) (s : Registry σ) (next : σ) :
    Prop where
  answer : (r.perform m.op).run world = ((m.answer, s), next)
  load : match m.load with
    | none => next = world
    | some (loader, result) => loader.outcome world = (result, next)

/-- The log of a run from an empty registry, with the registry and the world it ends in. -/
inductive Recorded (world : σ) : Log σ → Registry σ → σ → Prop
  | nil : Recorded world [] ∅ world
  | concat {log : Log σ} {r s : Registry σ} {v w : σ} {m : Moment σ}
    (hlog : Recorded world log r v) (hm : r.Performs v m s w) : Recorded world (log ++ [m]) s w

/-- The registry holds of each type what the log tells. -/
def Holds (r : Registry σ) (log : Log σ) : Prop := ∀ type, r.get? type = log.held? type

namespace Holds

variable {r : Registry σ} {log : Log σ}

theorem empty : Holds (∅ : Registry σ) [] := fun _ => rfl

theorem get?_eq_none_iff (h : r.Holds log) {type : String} :
    r.get? type = none ↔ log.live type = none := by
  rw [h, Log.held?_eq_none_iff]

theorem get?_eq_some (h : r.Holds log) {type : String} {new : Registration σ}
    (hlive : log.live type = some new) :
    r.get? type = some (new.entry type (log.supplied type)) := by
  rw [h, Log.held?, hlive]
  rfl

theorem has_eq (h : r.Holds log) (type : String) : r.has type = (log.live type).isSome := by
  rw [Dictionary.has, h, Log.isSome_held?]

theorem quiet (h : r.Holds log) {m : Moment σ} (hrenews : ∀ type, m.op.renews type = false)
    (hquiet : ∀ type, m.supplied? type = none) : r.Holds (log ++ [m]) := by
  intro type
  rw [h, Log.held?_concat_of_quiet (hrenews type) (hquiet type)]

theorem register (h : r.Holds log) (type : String) (new : Registration σ) :
    Holds (r.register type (new.origin.source none) new.defaults new.displayName)
      (log ++ [⟨.register type new, .done, none⟩]) := by
  intro other
  rw [Registry.register, Dictionary.get?_insert, Log.held?, Log.live_concat, Log.supplied_concat,
    h]
  by_cases hother : type = other
  · subst hother
    simp [Op.renews, Op.registration?, Registration.entry]
  · simp [Op.renews, Moment.supplied?, hother, Log.held?]

theorem unregister (h : r.Holds log) (type : String) :
    Holds (r.unregister type) (log ++ [⟨.unregister type, .done, none⟩]) := by
  intro other
  rw [Registry.unregister, Dictionary.get?_erase, Log.held?, Log.live_concat, Log.supplied_concat,
    h]
  by_cases hother : type = other
  · simp [Op.renews, Op.registration?, hother]
  · simp [Op.renews, Moment.supplied?, hother, Log.held?]

theorem clear (log : Log σ) : Holds (∅ : Registry σ) (log ++ [⟨.clear, .done, none⟩]) := by
  intro type
  rw [Log.held?, Log.live_concat]
  rfl

theorem lookUp (h : r.Holds log) {type : String} {new : Registration σ} {factory : Factory σ}
    (load : Option (Loader σ × LoadEnd σ)) {world next : σ} (hlive : log.live type = some new)
    (hresolve : (new.origin.source (log.supplied type)).resolve.outcome world =
      (.ok (factory, new.origin.source ((log.supplied type).or (load.bind (·.2.factory?)))),
        next)) :
    ∃ s, (r.perform (.get type)).run world =
        ((.component (some (new.component type factory)), s), next) ∧
      s.Holds (log ++ [⟨.get type, .component (some (new.component type factory)), load⟩]) := by
  refine ⟨r.insert type (new.entry type ((log.supplied type).or (load.bind (·.2.factory?)))),
    ?_, fun other => ?_⟩
  · rw [run_perform_get, outcome_get_of_some (h.get?_eq_some hlive), Registration.entry, hresolve]
    rfl
  · rw [Dictionary.get?_insert]
    by_cases hother : type = other
    · subst hother
      simp [Log.held?, Log.live_concat, Log.supplied_concat, Op.renews, Moment.supplied?, hlive]
    · rw [if_neg hother, h]
      refine (Log.held?_concat_of_quiet rfl ?_).symm
      exact if_neg hother

theorem infos_eq (h : r.Holds log) (type : String) :
    r.infos.get? type = (log.live type).map (·.info type (log.supplied type)) := by
  rw [Registry.infos, Dictionary.get?_mapValues, h, Log.held?, Option.map_map]
  refine congrArg (fun f => (log.live type).map f) (funext fun new => ?_)
  have hlazy : (new.origin.source (log.supplied type)).isLazy =
      (new.origin.source none).isLazy := by cases new.origin <;> rfl
  simp [Registration.entry, Registration.info, Origin.isLoaded_source, hlazy]

theorem get (h : r.Holds log) (type : String) (world : σ) :
    ∃ m s next, m.op = .get type ∧ r.Performs world m s next ∧ log.Follows m ∧
      s.Holds (log ++ [m]) := by
  cases hlive : log.live type with
  | none =>
    refine ⟨⟨.get type, .component none, none⟩, r, world, rfl, ⟨?_, rfl⟩, .absent hlive, ?_⟩
    · rw [run_perform_get, outcome_get_of_none (h.get?_eq_none_iff.2 hlive)]
    · exact h.quiet (fun _ => rfl) fun _ => ite_self none
  | some new =>
    cases hheld : new.origin.factory? (log.supplied type) with
    | some factory =>
      obtain ⟨s, hs, hholds⟩ := h.lookUp none hlive (by
        rw [Option.bind_none, Option.or_none]
        exact Origin.outcome_resolve_held hheld world)
      exact ⟨_, s, world, rfl, ⟨hs, rfl⟩, .held hlive hheld, hholds⟩
    | none =>
      obtain ⟨hunsupplied, loader, hlazy⟩ := Origin.eq_lazy_of_unheld hheld
      have hresolve := Source.outcome_resolve_lazy loader world
      rcases hload : loader.outcome world with ⟨p | e | factory, next⟩ <;> rw [hload] at hresolve
      · refine ⟨⟨.get type, .panicked p, some (loader, .error p)⟩, r, next, rfl, ⟨?_, hload⟩,
          .panicked hlive hlazy hunsupplied, h.quiet (fun _ => rfl) fun _ => ite_self none⟩
        rw [run_perform_get, outcome_get_of_some (h.get?_eq_some hlive), Registration.entry,
          hunsupplied, hlazy, Origin.source, hresolve]
      · obtain ⟨s, hs, hholds⟩ := h.lookUp (some (loader, .ok (.error e))) hlive (by
          rw [hunsupplied, hlazy]
          exact hresolve)
        exact ⟨_, s, next, rfl, ⟨hs, hload⟩, .failed hlive hlazy hunsupplied, hholds⟩
      · obtain ⟨s, hs, hholds⟩ := h.lookUp (some (loader, .ok (.ok factory))) hlive (by
          rw [hunsupplied, hlazy]
          exact hresolve)
        exact ⟨_, s, next, rfl, ⟨hs, hload⟩, .loaded hlive hlazy hunsupplied, hholds⟩

/-- A look-up returns, and tells whether the type is registered, unless it runs a loader
that panics. -/
theorem get_yields (h : r.Holds log) (type : String) (world : σ) :
    (r.get type).Yields world (fun found _ => found.1.isSome = (log.live type).isSome) ∨
      ∃ new loader p, log.live type = some new ∧ new.origin = .lazy loader ∧
        log.supplied type = none ∧ (loader.outcome world).1 = .error p := by
  obtain ⟨m, s, next, hop, hm, hfollows, -⟩ := h.get type world
  have hanswer := hm.answer
  rw [hop, run_perform_get] at hanswer
  rcases hget : (r.get type).outcome world with ⟨p | ⟨c?, s'⟩, w⟩ <;> rw [hget] at hanswer
  · obtain ⟨op, answer, load⟩ := m
    obtain rfl : op = .get type := hop
    cases hanswer
    cases hfollows with
    | @panicked _ new loader _ hlive hlazy hunsupplied =>
      exact .inr ⟨new, loader, p, hlive, hlazy, hunsupplied, congrArg Prod.fst hm.load⟩
  · exact .inl ⟨_, _, hget, (get_finds hget).isSome.trans (h.has_eq type)⟩

theorem size_eq (h : r.Holds log) : ∃ types : List String, types.Nodup ∧
    (∀ type, type ∈ types ↔ (log.live type).isSome) ∧ r.size = types.length := by
  refine ⟨r.table.keys, r.keys_nodup, fun type => ?_, (List.length_map Prod.fst).symm⟩
  rw [← Dictionary.has_iff, h.has_eq]

theorem step (h : r.Holds log) (op : Op σ) (world : σ) :
    ∃ m s next, m.op = op ∧ r.Performs world m s next ∧ log.Follows m ∧ s.Holds (log ++ [m]) := by
  cases op with
  | register type new =>
    exact ⟨⟨.register type new, .done, none⟩, _, world, rfl, ⟨rfl, rfl⟩, .register type new,
      h.register type new⟩
  | unregister type =>
    exact ⟨⟨.unregister type, .done, none⟩, _, world, rfl, ⟨rfl, rfl⟩, .unregister type,
      h.unregister type⟩
  | clear => exact ⟨⟨.clear, .done, none⟩, _, world, rfl, ⟨rfl, rfl⟩, .clear, .clear log⟩
  | get type => exact h.get type world
  | has type =>
    refine ⟨⟨.has type, .known (log.live type).isSome, none⟩, r, world, rfl, ⟨?_, rfl⟩, .has type,
      h.quiet (fun _ => rfl) fun _ => rfl⟩
    rw [← h.has_eq]
    rfl
  | infos =>
    exact ⟨⟨.infos, .infos r.infos, none⟩, r, world, rfl, ⟨rfl, rfl⟩,
      .infos h.infos_eq, h.quiet (fun _ => rfl) fun _ => rfl⟩
  | size =>
    obtain ⟨types, hnodup, hlive, hsize⟩ := h.size_eq
    refine ⟨⟨.size, .size types.length, none⟩, r, world, rfl, ⟨?_, rfl⟩, .size hnodup hlive,
      h.quiet (fun _ => rfl) fun _ => rfl⟩
    rw [← hsize]
    rfl

end Holds

theorem exists_recorded (ops : List (Op σ)) (world : σ) :
    ∃ log r w, Recorded world log r w ∧ log.map Moment.op = ops ∧ r.Holds log ∧
      ∀ past m, past ++ [m] <+: log → Log.Follows past m := by
  induction ops using List.reverseRecOn with
  | nil =>
    refine ⟨[], ∅, world, .nil, rfl, .empty, fun past m h => ?_⟩
    simp at h
  | append_singleton ops op ih =>
    obtain ⟨log, r, v, hlog, hops, hholds, hfollows⟩ := ih
    obtain ⟨m, s, w, hop, hm, hfollow, hs⟩ := hholds.step op v
    refine ⟨log ++ [m], s, w, .concat hlog hm, by simp [hops, hop], hs, fun past n h => ?_⟩
    rcases List.prefix_concat_iff.1 h with heq | h
    · obtain ⟨rfl, hn⟩ := List.append_inj' heq rfl
      obtain rfl := List.singleton_inj.1 hn
      exact hfollow
    · exact hfollows past n h

/-- In a world that counts the calls of its loaders, each load of the log is one call. -/
theorem Recorded.tally {world w : σ} {log : Log σ} {r : Registry σ} (h : Recorded world log r w)
    {tally : σ → Nat} (htally : ∀ m ∈ log, ∀ load, m.load = some load → ∀ v,
      tally (load.1.outcome v).2 = tally v + 1) :
    tally w = tally world + log.countP (·.load.isSome) := by
  induction h with
  | nil => rfl
  | @concat log r s v w m hlog hm ih =>
    obtain ⟨hpast, hnow⟩ := List.forall_mem_append.1 htally
    rw [List.countP_append, List.countP_singleton, ← Nat.add_assoc, ← ih hpast]
    have hload := hm.load
    cases hm : m.load with
    | none =>
      rw [hm] at hload
      rw [hload]
      rfl
    | some load =>
      rw [hm] at hload
      have hcall := hnow m (List.mem_singleton_self m) load hm v
      rw [hload] at hcall
      exact hcall

theorem get?_perform (r : Registry σ) (op : Op σ) {type : String}
    (hop : op.isAbout type = false) (world : σ) :
    ((r.perform op).run world).1.2.get? type = r.get? type := by
  cases op with
  | register other new =>
    have hother : other ≠ type := by simpa [Op.isAbout, Op.renews] using hop
    exact (Dictionary.get?_insert r other type _).trans (if_neg hother)
  | unregister other =>
    have hother : other ≠ type := by simpa [Op.isAbout, Op.renews] using hop
    exact (Dictionary.get?_erase r other type).trans (if_neg hother)
  | clear => cases hop
  | get other =>
    have hother : other ≠ type := by simpa [Op.isAbout] using hop
    rw [run_perform_get]
    rcases hget : (r.get other).outcome world with ⟨p | ⟨c?, s⟩, w⟩
    · rfl
    · exact (get_finds hget).get?_other hother
  | has other => rfl
  | infos => rfl
  | size => rfl

/-- A registry answers every sequence of ops as the log of the ops tells. The world is changed
by the loads of the log alone, and these are as the log allows; in a world that counts the
calls of its loaders there is one call for each. -/
theorem answers_follow_log (ops : List (Op σ)) (world : σ) :
    ∃ log r w, Recorded world log r w ∧ log.map Moment.op = ops ∧
      (∀ past m, past ++ [m] <+: log → Log.Follows past m) ∧
      (∀ type, r.has type = (log.live type).isSome ∧
        ∀ v, (r.get type).Yields v (fun found _ => found.1.isSome = (log.live type).isSome) ∨
          ∃ new loader p, log.live type = some new ∧ new.origin = .lazy loader ∧
            log.supplied type = none ∧ (loader.outcome v).1 = .error p) ∧
      (∀ op type v, op.isAbout type = false →
        ((r.perform op).run v).1.2.get? type = r.get? type) ∧
      ∀ tally : σ → Nat, (∀ m ∈ log, ∀ load, m.load = some load → ∀ v,
          tally (load.1.outcome v).2 = tally v + 1) →
        tally w = tally world + log.countP (·.load.isSome) := by
  obtain ⟨log, r, w, hlog, hops, hholds, hfollows⟩ := exists_recorded ops world
  exact ⟨log, r, w, hlog, hops, hfollows,
    fun type => ⟨hholds.has_eq type, hholds.get_yields type⟩,
    fun op type v hop => get?_perform r op hop v, fun tally => hlog.tally⟩

end Registry

end PageConfig
