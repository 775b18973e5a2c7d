import PageConfig.Proofs.Effect

/-!
# Actions in tandem

Two actions that start in one state and end in one state. They panic alike, or both
return, and then their results are related as said.
-/

set_option autoImplicit false

namespace PageConfig.Effect

variable {σ τ α β γ δ : Type}

/-- From `s` the actions panic alike or both return, and leave the same state either way.
The results they return satisfy `P` there. -/
inductive Tandem (e : Effect σ α) (f : Effect σ β) (s : σ) (P : α → β → σ → Prop) : Prop
  | panics {p : Panic} {t : σ} (he : e.outcome s = (.error p, t))
    (hf : f.outcome s = (.error p, t))
  | returns {a : α} {b : β} {t : σ} (he : e.outcome s = (.ok a, t))
    (hf : f.outcome s = (.ok b, t)) (h : P a b t)

variable {s : σ} {e : Effect σ α} {f : Effect σ β} {P : α → β → σ → Prop} {Q : γ → δ → σ → Prop}

theorem tandem_pure {a : α} {b : β} (h : P a b s) :
    Tandem (pure a : Effect σ α) (pure b : Effect σ β) s P := .returns rfl rfl h

theorem tandem_self (e : Effect σ α) (s : σ) :
    Tandem e e s fun a b t => a = b ∧ e.outcome s = (.ok a, t) := by
  rcases h : e.outcome s with ⟨p | a, t⟩
  · exact .panics h h
  · exact .returns h h ⟨rfl, rfl⟩

theorem Tandem.imp {R : α → β → σ → Prop} (h : Tandem e f s P)
    (hr : ∀ a b t, P a b t → R a b t) : Tandem e f s R := by
  cases h with
  | panics he hf => exact .panics he hf
  | returns he hf h => exact .returns he hf (hr _ _ _ h)

theorem Tandem.bind {g : α → Effect σ γ} {k : β → Effect σ δ} (h : Tandem e f s P)
    (hrest : ∀ a b t, P a b t → Tandem (g a) (k b) t Q) : Tandem (e >>= g) (f >>= k) s Q := by
  cases h with
  | panics he hf => exact .panics (by rw [outcome_bind, he]) (by rw [outcome_bind, hf])
  | @returns a b t he hf h =>
    cases hrest a b t h with
    | panics hg hk =>
      exact .panics (by rw [outcome_bind, he]; exact hg) (by rw [outcome_bind, hf]; exact hk)
    | returns hg hk hq =>
      exact .returns (by rw [outcome_bind, he]; exact hg) (by rw [outcome_bind, hf]; exact hk) hq

theorem tandem_get_bind {g : σ → Effect σ γ} {k : σ → Effect σ δ} (h : Tandem (g s) (k s) s Q) :
    Tandem ((get : Effect σ σ) >>= g) ((get : Effect σ σ) >>= k) s Q :=
  (tandem_self get s).bind fun a b t ⟨hab, hget⟩ => by
    subst hab
    cases hget
    exact h

theorem tandem_modify_bind {u : σ → σ} {g : PUnit → Effect σ γ} {k : PUnit → Effect σ δ}
    (h : Tandem (g ⟨⟩) (k ⟨⟩) (u s) Q) :
    Tandem ((modify u : Effect σ PUnit) >>= g) ((modify u : Effect σ PUnit) >>= k) s Q :=
  (tandem_self (modify u) s).bind fun a b t ⟨hab, hmodify⟩ => by
    subst hab
    cases hmodify
    exact h

theorem Tandem.of_outcome (h : Tandem e f s P) {a : α} {t : σ} (ha : e.outcome s = (.ok a, t)) :
    ∃ b, f.outcome s = (.ok b, t) ∧ P a b t := by
  cases h with
  | panics he hf => cases ha.symm.trans he
  | @returns a' b t' he hf h =>
    cases ha.symm.trans he
    exact ⟨b, hf, h⟩

theorem Tandem.attempt (h : Tandem e f s P) : Tandem e.attempt f.attempt s fun x y t =>
    (∃ p, x = .error p ∧ y = .error p) ∨ ∃ a b, x = .ok a ∧ y = .ok b ∧ P a b t := by
  cases h with
  | panics he hf =>
    refine .returns (by rw [outcome_attempt, he]) (by rw [outcome_attempt, hf]) ?_
    exact .inl ⟨_, rfl, rfl⟩
  | returns he hf h =>
    refine .returns (by rw [outcome_attempt, he]) (by rw [outcome_attempt, hf]) ?_
    exact .inr ⟨_, _, rfl, rfl, h⟩

theorem Tandem.within {part : σ → τ} {replace : σ → τ → σ} {e : Effect τ γ} {f : Effect τ δ}
    {R : γ → δ → τ → Prop} (h : Tandem e f (part s) R)
    (hq : ∀ a b t, R a b t → Q a b (replace s t)) :
    Tandem (e.within part replace) (f.within part replace) s Q := by
  cases h with
  | panics he hf => exact .panics (by rw [outcome_within, he]) (by rw [outcome_within, hf])
  | returns he hf h =>
    exact .returns (by rw [outcome_within, he]) (by rw [outcome_within, hf]) (hq _ _ _ h)

end PageConfig.Effect
