import PageConfig.Effect

/-!
# What an action ensures

An action ensures a property of its results from states with an invariant if it
keeps the invariant, also where it panics. Each way to put actions together has
its rule.
-/

set_option autoImplicit false

namespace PageConfig.Effect

variable {σ τ α β : Type} {I : σ → Prop} {Q : α → Prop} {R : β → Prop}

/-- In states with `I`, the action keeps `I` and its results satisfy `Q`. -/
def Ensures (I : σ → Prop) (e : Effect σ α) (Q : α → Prop) : Prop :=
  ∀ s, I s → I (e.outcome s).2 ∧ ∀ a, (e.outcome s).1 = .ok a → Q a

theorem outcome_pure (a : α) (s : σ) : (pure a : Effect σ α).outcome s = (.ok a, s) := rfl

theorem outcome_get (s : σ) : (get : Effect σ σ).outcome s = (.ok s, s) := rfl

theorem outcome_now [Clock σ] (s : σ) :
    (now : Effect σ UInt64).outcome s = (.ok (Clock.now.run s).1, (Clock.now.run s).2) := rfl

theorem outcome_bind (e : Effect σ α) (f : α → Effect σ β) (s : σ) :
    (e >>= f).outcome s = match e.outcome s with
      | (.ok a, t) => (f a).outcome t
      | (.error p, t) => (.error p, t) := by
  have hbind : (e >>= f).outcome s =
      (ExceptT.bindCont f (e.outcome s).1).run (e.outcome s).2 := rfl
  rw [hbind]
  rcases e.outcome s with ⟨p | a, t⟩ <;> rfl

theorem outcome_bind_of_ok {e : Effect σ α} {s t : σ} {a : α} (h : e.outcome s = (.ok a, t))
    (f : α → Effect σ β) : (e >>= f).outcome s = (f a).outcome t := by
  rw [outcome_bind, h]

theorem outcome_bind_eq_ok {e : Effect σ α} {f : α → Effect σ β} {s : σ} {b : β}
    (h : ((e >>= f).outcome s).1 = .ok b) :
    ∃ a t, e.outcome s = (.ok a, t) ∧ ((f a).outcome t).1 = .ok b := by
  rw [outcome_bind] at h
  rcases he : e.outcome s with ⟨p | a, t⟩
  · rw [he] at h
    cases h
  · rw [he] at h
    exact ⟨a, t, rfl, h⟩

theorem outcome_within (e : Effect τ α) (part : σ → τ) (replace : σ → τ → σ) (s : σ) :
    (e.within part replace).outcome s =
      ((e.outcome (part s)).1, replace s (e.outcome (part s)).2) := rfl

theorem ensures_pure {a : α} (h : Q a) : Ensures I (pure a) Q := by
  intro s hs
  refine ⟨hs, fun b hb => ?_⟩
  cases hb
  exact h

theorem ensures_get : Ensures I (get : Effect σ σ) I := by
  intro s hs
  refine ⟨hs, fun b hb => ?_⟩
  cases hb
  exact hs

theorem ensures_modify {f : σ → σ} (h : ∀ s, I s → I (f s)) :
    Ensures I (modify f : Effect σ PUnit) fun _ => True :=
  fun s hs => ⟨h s hs, fun _ _ => trivial⟩

theorem Ensures.imp {e : Effect σ α} {P : α → Prop} (h : Ensures I e Q) (hq : ∀ a, Q a → P a) :
    Ensures I e P :=
  fun s hs => ⟨(h s hs).1, fun a ha => hq a ((h s hs).2 a ha)⟩

theorem Ensures.bind {e : Effect σ α} {f : α → Effect σ β} (he : Ensures I e Q)
    (hf : ∀ a, Q a → Ensures I (f a) R) : Ensures I (e >>= f) R := by
  intro s hs
  obtain ⟨hkeep, hresult⟩ := he s hs
  rw [outcome_bind]
  rcases h : e.outcome s with ⟨p | a, t⟩
  · rw [h] at hkeep
    exact ⟨hkeep, nofun⟩
  · rw [h] at hkeep hresult
    exact hf a (hresult a rfl) t hkeep

theorem ensures_get_modify_bind {g : σ → σ → σ} {f : σ → Effect σ β} (hg : ∀ s, I s → I (g s s))
    (hf : ∀ s, I s → Ensures I (f s) R) :
    Ensures I ((get : Effect σ σ) >>= fun s => modify (g s) >>= fun _ => f s) R :=
  fun s hs => hf s hs (g s s) (hg s hs)

theorem ensures_forM {f : α → Effect σ PUnit} (h : ∀ a, Ensures I (f a) fun _ => True)
    (as : List α) : Ensures I (as.forM f) fun _ => True := by
  induction as with
  | nil => exact ensures_pure trivial
  | cons a as ih => exact (h a).bind fun _ _ => ih

theorem Ensures.attempt {e : Effect σ α} (h : Ensures I e Q) :
    Ensures I e.attempt fun r => ∀ a, r = .ok a → Q a := by
  intro s hs
  rw [outcome_attempt]
  refine ⟨(h s hs).1, fun r hr a ha => ?_⟩
  cases hr
  exact (h s hs).2 a ha

theorem ensures_within {part : σ → τ} {replace : σ → τ → σ} (h : ∀ s t, I s → I (replace s t))
    (e : Effect τ α) : Ensures I (e.within part replace) fun _ => True := by
  intro s hs
  rw [outcome_within]
  exact ⟨h s _ hs, fun _ _ => trivial⟩

end PageConfig.Effect
