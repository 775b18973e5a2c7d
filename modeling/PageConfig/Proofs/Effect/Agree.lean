import PageConfig.Proofs.Effect.Yields

/-!
# Actions that agree

Two runs side by side: from related states the actions panic alike or both return, and leave
related states. The relation says which part of the state matters, and an action whose result
does not depend on its state may act on the other part.
-/

set_option autoImplicit false

namespace PageConfig

namespace Effect

variable {σ τ α β γ δ : Type} {R : σ → σ → Prop} {P : α → β → Prop} {Q : γ → δ → Prop}

def Gives (e : Effect σ α) (r : Except Panic α) : Prop := ∀ s, (e.outcome s).1 = r

/-- The state has no say in the result. -/
def Steady (e : Effect σ α) : Prop := ∃ r, e.Gives r

/-- The same panic, or results that are related as said. -/
inductive Matched (P : α → β → Prop) : Except Panic α → Except Panic β → Prop
  | panics (p : Panic) : Matched P (.error p) (.error p)
  | returns {a : α} {b : β} (h : P a b) : Matched P (.ok a) (.ok b)

/-- From related states the ends match, and the states that are left are related. -/
def Agree (R : σ → σ → Prop) (e : Effect σ α) (f : Effect σ β) (P : α → β → Prop) : Prop :=
  ∀ s t, R s t → Matched P (e.outcome s).1 (f.outcome t).1 ∧ R (e.outcome s).2 (f.outcome t).2

theorem Agree.of_outcome {e : Effect σ α} {f : Effect σ β} (h : Agree R e f P) {s t u : σ}
    (hst : R s t) {a : α} (he : e.outcome s = (.ok a, u)) :
    ∃ b v, f.outcome t = (.ok b, v) ∧ R u v ∧ P a b := by
  obtain ⟨hends, hstate⟩ := h s t hst
  rw [he] at hends hstate
  rcases hf : f.outcome t with ⟨r, v⟩
  rw [hf] at hends hstate
  cases hends with
  | returns hab => exact ⟨_, v, rfl, hstate, hab⟩

theorem steady_pure (a : α) : (pure a : Effect σ α).Steady := ⟨.ok a, fun _ => rfl⟩

theorem Steady.attempt {e : Effect σ α} (h : e.Steady) : e.attempt.Steady := by
  obtain ⟨r, hr⟩ := h
  refine ⟨.ok r, fun s => ?_⟩
  rw [outcome_attempt, hr]

theorem Steady.bind {e : Effect σ α} {f : α → Effect σ γ} (he : e.Steady)
    (hf : ∀ a, (f a).Steady) : (e >>= f).Steady := by
  obtain ⟨r, hr⟩ := he
  cases r with
  | error p =>
    refine ⟨.error p, fun s => ?_⟩
    have hs := hr s
    rw [outcome_bind]
    rcases h : e.outcome s with ⟨q | a, t⟩ <;> rw [h] at hs <;> cases hs
    rfl
  | ok a =>
    obtain ⟨r, hr'⟩ := hf a
    refine ⟨r, fun s => ?_⟩
    have hs := hr s
    rw [outcome_bind]
    rcases h : e.outcome s with ⟨q | b, t⟩ <;> rw [h] at hs <;> cases hs
    exact hr' t

theorem Returns.gives {e : Effect σ Unit} (h : e.Returns) : e.Gives (.ok ()) := by
  intro s
  obtain ⟨a, t, ha, -⟩ := h s
  rw [ha]

theorem Gives.matched {e f : Effect σ α} {r : Except Panic α} (he : e.Gives r) (hf : f.Gives r)
    (s t : σ) : Matched Eq (e.outcome s).1 (f.outcome t).1 := by
  rw [he s, hf t]
  cases r with
  | error p => exact .panics p
  | ok a => exact .returns rfl

theorem Steady.matched {e : Effect σ α} (h : e.Steady) (s t : σ) :
    Matched Eq (e.outcome s).1 (e.outcome t).1 := by
  obtain ⟨r, hr⟩ := h
  exact hr.matched hr s t

theorem agree_pure {a : α} {b : β} (h : P a b) :
    Agree R (pure a : Effect σ α) (pure b : Effect σ β) P :=
  fun _ _ hst => ⟨.returns h, hst⟩

theorem agree_get_bind {f : σ → Effect σ γ} {g : σ → Effect σ δ}
    (h : ∀ s t, R s t → Agree R (f s) (g t) Q) :
    Agree R ((get : Effect σ σ) >>= f) ((get : Effect σ σ) >>= g) Q :=
  fun s t hst => h s t hst s t hst

theorem agree_modify {f g : σ → σ} (h : ∀ s t, R s t → R (f s) (g t)) :
    Agree R (modify f : Effect σ PUnit) (modify g) fun _ _ => True :=
  fun s t hst => ⟨.returns trivial, h s t hst⟩

theorem Agree.bind {e : Effect σ α} {e' : Effect σ β} {f : α → Effect σ γ} {f' : β → Effect σ δ}
    (he : Agree R e e' P) (hf : ∀ a b, P a b → Agree R (f a) (f' b) Q) :
    Agree R (e >>= f) (e' >>= f') Q := by
  intro s t hst
  obtain ⟨hends, hstate⟩ := he s t hst
  rw [outcome_bind, outcome_bind]
  rcases h : e.outcome s with ⟨r, u⟩
  rcases h' : e'.outcome t with ⟨r', v⟩
  rw [h, h'] at hends hstate
  cases hends with
  | panics p => exact ⟨.panics p, hstate⟩
  | returns hab => exact hf _ _ hab u v hstate

theorem agree_within {part : σ → τ} {replace : σ → τ → σ}
    (h : ∀ s t a b, R s t → R (replace s a) (replace t b)) {e : Effect τ α} {f : Effect τ β}
    (hends : ∀ s t, Matched P (e.outcome s).1 (f.outcome t).1) :
    Agree R (e.within part replace) (f.within part replace) P := by
  intro s t hst
  rw [outcome_within, outcome_within]
  exact ⟨hends _ _, h s t _ _ hst⟩

end Effect

/-- What the factory does is a function of the props. -/
def Factory.Steady {σ : Type} (f : Factory σ) : Prop := ∀ props, (f props).Steady

theorem Factory.Steady.contained {σ : Type} {f : Factory σ} (h : f.Steady) :
    f.contained.Steady := by
  intro props
  refine (h props).attempt.bind fun result => ?_
  cases result <;> exact Effect.steady_pure _

end PageConfig
