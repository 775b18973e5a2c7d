import PageConfig.Component.Registry
import PageConfig.Proofs.Effect.Yields

/-!
# Registries over time

Looking a component up may load it. A registry later on has the same types with
the same names and defaults, and some of its lazy sources are loaded. Only the
loader of the type that is looked up can panic.
-/

set_option autoImplicit false

namespace PageConfig

open Effect

variable {σ : Type}

namespace Source

/-- The source as it is, or once its loader has supplied a factory. -/
inductive Loads : Source σ → Source σ → Prop
  | same (source : Source σ) : Loads source source
  | loaded {loader : Loader σ} {factory : Factory σ} {world : σ}
    (h : (loader.outcome world).1 = .ok (.ok factory)) :
    Loads (.lazy loader none) (.lazy loader (some factory))

theorem Loads.trans {a b c : Source σ} (hab : a.Loads b) (hbc : b.Loads c) : a.Loads c := by
  cases hab with
  | same => exact hbc
  | loaded h =>
    cases hbc with
    | same => exact .loaded h

theorem outcome_resolve_lazy (loader : Loader σ) (world : σ) :
    (resolve (.lazy loader none)).outcome world = match loader.outcome world with
      | (.ok (.ok factory), w) => (.ok (factory, .lazy loader (some factory)), w)
      | (.ok (.error e), w) => (.ok (.failing e.message, .lazy loader none), w)
      | (.error p, w) => (.error p, w) := by
  rw [resolve, outcome_bind]
  rcases loader.outcome world with ⟨p | e | factory, w⟩ <;> rfl

theorem resolve_loads {source next : Source σ} {factory : Factory σ} {v w : σ}
    (h : source.resolve.outcome v = (.ok (factory, next), w)) : source.Loads next := by
  cases source with
  | ready factory =>
    cases h
    exact .same _
  | lazy loader loaded =>
    cases loaded with
    | some factory =>
      cases h
      exact .same _
    | none =>
      rw [outcome_resolve_lazy] at h
      rcases hload : loader.outcome v with ⟨p | e | factory, u⟩ <;> rw [hload] at h <;> cases h
      · exact .same _
      · exact .loaded (congrArg Prod.fst hload)

def Calm : Source σ → Prop
  | .lazy loader none => loader.Returns
  | _ => True

theorem Calm.resolve_returns {source : Source σ} (h : source.Calm) : source.resolve.Returns := by
  cases source with
  | ready factory => exact returns_pure _
  | lazy loader loaded =>
    cases loaded with
    | some factory => exact returns_pure _
    | none =>
      refine Returns.bind h fun result => ?_
      cases result <;> exact returns_pure _

theorem Loads.calm {a b : Source σ} (h : a.Loads b) (ha : a.Calm) : b.Calm := by
  cases h with
  | same => exact ha
  | loaded => trivial

end Source

/-- The entry as it is but for what its source has loaded. -/
structure Entry.Loads (e f : Entry σ) : Prop where
  displayName : f.displayName = e.displayName
  defaults : f.defaults = e.defaults
  source : e.source.Loads f.source

namespace Registry

/-- The registry as it is but for what its sources have loaded. -/
def Loads (r s : Registry σ) : Prop :=
  ∀ type, Option.Rel Entry.Loads (r.get? type) (s.get? type)

def Calm (r : Registry σ) : Prop := ∀ type entry, r.get? type = some entry → entry.source.Calm

theorem calm_of_forall_mem {r : Registry σ} (h : ∀ e ∈ r.table, e.2.source.Calm) : r.Calm :=
  fun _ _ hentry => h _ (Table.mem_of_get? hentry)

theorem Loads.refl (r : Registry σ) : r.Loads r := by
  intro type
  cases r.get? type with
  | none => exact .none
  | some e => exact .some ⟨rfl, rfl, .same _⟩

theorem Loads.trans {r s t : Registry σ} (hrs : r.Loads s) (hst : s.Loads t) : r.Loads t := by
  intro type
  have hrs := hrs type
  have hst := hst type
  revert hrs hst
  rcases r.get? type with _ | e <;> rcases s.get? type with _ | f <;>
    rcases t.get? type with _ | g <;> rintro (hef | _) (hfg | _)
  · exact .none
  · exact .some ⟨hfg.displayName.trans hef.displayName, hfg.defaults.trans hef.defaults,
      hef.source.trans hfg.source⟩

theorem Loads.before {r s : Registry σ} (h : r.Loads s) {type : String} {f : Entry σ}
    (hf : s.get? type = some f) : ∃ e, r.get? type = some e ∧ e.Loads f := by
  have h := h type
  rw [hf] at h
  cases he : r.get? type with
  | none =>
    rw [he] at h
    cases h
  | some e =>
    rw [he] at h
    cases h with
    | some h => exact ⟨e, rfl, h⟩

theorem Loads.has {r s : Registry σ} (h : r.Loads s) (type : String) :
    s.has type = r.has type := by
  have h := h type
  unfold Dictionary.has
  revert h
  rcases r.get? type with _ | e <;> rcases s.get? type with _ | f <;> rintro (_ | _) <;> rfl

theorem Loads.calm {r s : Registry σ} (h : r.Loads s) (hr : r.Calm) : s.Calm := by
  intro type f hf
  obtain ⟨e, he, hload⟩ := h.before hf
  exact hload.source.calm (hr type e he)

/-- A look-up that returns: there is no entry, or its factory is there, and the entry is put
back as it is from then on. -/
inductive Finds (r : Registry σ) (type : String) (v : σ) :
    Option (Component σ) → Registry σ → σ → Prop
  | absent (hentry : r.get? type = none) : Finds r type v none r v
  | found {entry : Entry σ} {factory : Factory σ} {source : Source σ} {w : σ}
    (hentry : r.get? type = some entry)
    (hresolve : entry.source.resolve.outcome v = (.ok (factory, source), w)) :
    Finds r type v (some ⟨entry.displayName, entry.defaults, factory⟩)
      (r.insert type { entry with source }) w

section

variable {r s : Registry σ} {type : String} {c? : Option (Component σ)} {v w : σ}

theorem outcome_get_of_none (h : r.get? type = none) (world : σ) :
    (r.get type).outcome world = (.ok (none, r), world) := by
  rw [get, h]
  rfl

theorem outcome_get_of_some {entry : Entry σ} (h : r.get? type = some entry) (world : σ) :
    (r.get type).outcome world = match entry.source.resolve.outcome world with
      | (.ok (factory, source), w) =>
        (.ok (some ⟨entry.displayName, entry.defaults, factory⟩,
          r.insert type { entry with source }), w)
      | (.error p, w) => (.error p, w) := by
  rw [get, h]
  dsimp only
  rw [outcome_bind]
  rcases entry.source.resolve.outcome world with ⟨p | found, w⟩ <;> rfl

theorem get_finds (h : (r.get type).outcome v = (.ok (c?, s), w)) : r.Finds type v c? s w := by
  cases hentry : r.get? type with
  | none =>
    rw [outcome_get_of_none hentry] at h
    cases h
    exact .absent hentry
  | some entry =>
    rw [outcome_get_of_some hentry] at h
    rcases hresolve : entry.source.resolve.outcome v with ⟨p | ⟨factory, source⟩, u⟩ <;>
      rw [hresolve] at h <;> cases h
    exact .found hentry hresolve

theorem Finds.loads (h : r.Finds type v c? s w) : r.Loads s := by
  cases h with
  | absent => exact .refl r
  | found hentry hresolve =>
    intro other
    rw [Dictionary.get?_insert]
    split
    · rename_i hother
      rw [← hother, hentry]
      exact .some ⟨rfl, rfl, Source.resolve_loads hresolve⟩
    · exact Loads.refl r other

theorem Finds.isSome (h : r.Finds type v c? s w) : c?.isSome = r.has type := by
  unfold Dictionary.has
  cases h with
  | absent hentry => rw [hentry]; rfl
  | found hentry _ => rw [hentry]; rfl

theorem Finds.get?_other (h : r.Finds type v c? s w) {other : String} (hother : type ≠ other) :
    s.get? other = r.get? other := by
  cases h with
  | absent => rfl
  | found => rw [Dictionary.get?_insert, if_neg hother]

theorem Calm.get_returns (h : r.Calm) (type : String) : (r.get type).Returns := by
  rw [get]
  cases hentry : r.get? type with
  | none => exact returns_pure _
  | some entry =>
    exact (h type entry hentry).resolve_returns.bind fun _ => returns_pure _

end

end Registry

end PageConfig
