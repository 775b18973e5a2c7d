import PageConfig.Component.Basic
import PageConfig.Proofs.Effect

/-!
# What an action yields

Total correctness: from a given state the action returns, and its result and the
state it leaves are related as said. An action that returns from every state never
panics.
-/

set_option autoImplicit false

namespace PageConfig.Effect

variable {σ τ α β : Type} {s : σ} {Q : α → σ → Prop} {R : β → σ → Prop}

/-- From `s` the action returns, with a result and a state that satisfy `Q`. -/
def Yields (e : Effect σ α) (s : σ) (Q : α → σ → Prop) : Prop :=
  ∃ a t, e.outcome s = (.ok a, t) ∧ Q a t

/-- The action panics in no state. -/
def Returns (e : Effect σ α) : Prop := ∀ s, e.Yields s fun _ _ => True

theorem Yields.of_outcome {e : Effect σ α} (h : e.Yields s Q) {a : α} {t : σ}
    (ha : e.outcome s = (.ok a, t)) : Q a t := by
  obtain ⟨b, u, hb, hq⟩ := h
  rw [ha] at hb
  cases hb
  exact hq

theorem yields_pure {a : α} (h : Q a s) : (pure a : Effect σ α).Yields s Q := ⟨a, s, rfl, h⟩

theorem Yields.bind {e : Effect σ α} {f : α → Effect σ β} (he : e.Yields s Q)
    (hf : ∀ a t, e.outcome s = (.ok a, t) → Q a t → (f a).Yields t R) : (e >>= f).Yields s R := by
  obtain ⟨a, t, ha, hq⟩ := he
  obtain ⟨b, u, hb, hr⟩ := hf a t ha hq
  refine ⟨b, u, ?_, hr⟩
  rw [outcome_bind, ha]
  exact hb

theorem yields_get_bind {f : σ → Effect σ β} (h : (f s).Yields s R) :
    ((get : Effect σ σ) >>= f).Yields s R := h

theorem yields_modify_bind {g : σ → σ} {f : PUnit → Effect σ β} (h : (f ⟨⟩).Yields (g s) R) :
    ((modify g : Effect σ PUnit) >>= f).Yields s R := h

theorem Yields.imp {e : Effect σ α} {P : α → σ → Prop} (h : e.Yields s Q)
    (hq : ∀ a t, Q a t → P a t) : e.Yields s P := by
  obtain ⟨a, t, ha, hqt⟩ := h
  exact ⟨a, t, ha, hq a t hqt⟩

theorem yields_congr {e : Effect σ α} {P : α → σ → Prop} (h : ∀ a t, Q a t ↔ P a t) :
    e.Yields s Q ↔ e.Yields s P :=
  ⟨fun he => he.imp fun a t => (h a t).1, fun he => he.imp fun a t => (h a t).2⟩

theorem yields_attempt (e : Effect σ α) (s : σ) :
    e.attempt.Yields s fun r t => (r, t) = e.outcome s := ⟨_, _, outcome_attempt e s, rfl⟩

theorem Yields.within {part : σ → τ} {replace : σ → τ → σ} {e : Effect τ α} {P : α → τ → Prop}
    (h : e.Yields (part s) P) (hq : ∀ a t, P a t → Q a (replace s t)) :
    (e.within part replace).Yields s Q := by
  obtain ⟨a, t, ha, hp⟩ := h
  refine ⟨a, replace s t, ?_, hq a t hp⟩
  rw [outcome_within, ha]

theorem yields_within_iff {part : σ → τ} {replace : σ → τ → σ} {e : Effect τ α} :
    (e.within part replace).Yields s Q ↔ e.Yields (part s) fun a t => Q a (replace s t) := by
  refine ⟨fun ⟨a, u, ha, hq⟩ => ?_, fun h => h.within fun _ _ hq => hq⟩
  rw [outcome_within] at ha
  obtain ⟨hresult, rfl⟩ := Prod.mk.inj ha
  exact ⟨a, _, Prod.ext hresult rfl, hq⟩

theorem returns_pure (a : α) : (pure a : Effect σ α).Returns := fun _ => yields_pure trivial

theorem returns_modify (f : σ → σ) : (modify f : Effect σ PUnit).Returns :=
  fun s => ⟨⟨⟩, f s, rfl, trivial⟩

theorem returns_now [Clock σ] : (now : Effect σ UInt64).Returns :=
  fun s => ⟨_, _, outcome_now s, trivial⟩

theorem returns_attempt (e : Effect σ α) : e.attempt.Returns :=
  fun s => (yields_attempt e s).imp fun _ _ _ => trivial

theorem Returns.bind {e : Effect σ α} {f : α → Effect σ β} (he : e.Returns)
    (hf : ∀ a, (f a).Returns) : (e >>= f).Returns :=
  fun s => (he s).bind fun a t _ _ => hf a t

theorem yields_bind_iff {e : Effect σ α} {f : α → Effect σ β} :
    (e >>= f).Yields s R ↔ e.Yields s fun a t => (f a).Yields t R := by
  constructor
  · rintro ⟨b, u, hb, hr⟩
    obtain ⟨a, t, ha, -⟩ := outcome_bind_eq_ok (congrArg Prod.fst hb)
    rw [outcome_bind_of_ok ha] at hb
    exact ⟨a, t, ha, b, u, hb, hr⟩
  · exact fun he => he.bind fun a t _ hf => hf

/-- Where the rest always returns, it is the first action that decides. -/
theorem Returns.yields_bind_iff {e : Effect σ α} {f : α → Effect σ β} (hf : ∀ a, (f a).Returns) :
    ((e >>= f).Yields s fun _ _ => True) ↔ e.Yields s fun _ _ => True :=
  Effect.yields_bind_iff.trans
    ⟨fun he => he.imp fun _ _ _ => trivial, fun he => he.imp fun a t _ => hf a t⟩

end PageConfig.Effect

namespace PageConfig

theorem Factory.contained_returns {σ : Type} (f : Factory σ) (props : Props) :
    (f.contained props).Returns := by
  refine (Effect.returns_attempt (f props)).bind fun result => ?_
  cases result <;> exact Effect.returns_pure _

theorem Factory.contained_world {σ : Type} (f : Factory σ) (props : Props) (w : σ) :
    ((f.contained props).outcome w).2 = ((f props).outcome w).2 := by
  rw [contained, Effect.outcome_bind, Effect.outcome_attempt]
  dsimp only
  split <;> rfl

end PageConfig
