import PageConfig.Proofs.Effect.Agree
import PageConfig.Proofs.View.Steps

/-!
# What the time changes

A caller's fallback is told of a failure with the time, so one that shows the time shows
something else later on. Blocks are the same but for the time if they differ at most in what
the caller's fallback shows for one fault at one time and at another. Where the clock stands
still, or a fault is shown in one way at all times, such blocks are the same.
-/

set_option autoImplicit false

namespace PageConfig

open Effect

variable {σ : Type}

/-- Some state of the outside is at this time. -/
def Clock.Shows (σ : Type) [Clock σ] (time : UInt64) : Prop :=
  ∃ world : σ, (Clock.now.run world).1 = time

/-- The outside is nothing but a clock, which goes on whenever it is read. -/
instance : Clock UInt64 := ⟨modifyGet fun time => (time, time + 1)⟩

/-- The failure is the fault with a time of the clock. -/
def Fault.Timed (σ : Type) [Clock σ] (x : Fault) (failure : Failure) : Prop :=
  ∃ time, Clock.Shows σ time ∧ x.told time = failure

namespace RenderOptions

/-- No callback panics, and what the fallback shows is a function of the failure, which
includes the time. -/
structure Pure (o : RenderOptions σ) : Prop extends o.Calm where
  steady : ∀ f, o.fallback = some f → ∀ failure, (f failure).Steady

variable [Clock σ] {o : RenderOptions σ} {x : Fault} {v w : Value}

/-- At some time the caller's fallback shows this for the fault. -/
def Presents (o : RenderOptions σ) (x : Fault) (v : Value) : Prop :=
  ∃ f failure, o.fallback = some f ∧ x.Timed σ failure ∧ (f failure).Gives (.ok v)

/-- What the caller's fallback shows for a fault, it shows at all times. -/
def Timeless (o : RenderOptions σ) : Prop := ∀ x v w, o.Presents x v → o.Presents x w → v = w

/-- Both are the same, or the caller's fallback shows the one and the other for the fault. -/
def Retold (o : RenderOptions σ) (x : Fault) (v w : Value) : Prop :=
  v = w ∨ o.Presents x v ∧ o.Presents x w

theorem Timeless.eq_of_retold (h : o.Timeless) (hvw : o.Retold x v w) : v = w := by
  rcases hvw with hvw | ⟨hv, hw⟩
  · exact hvw
  · exact h x v w hv hw

omit [Clock σ] in
theorem Pure.gives (h : o.Pure) {f : Failure → Effect σ Value} (hf : o.fallback = some f)
    (failure : Failure) (s : σ) : ∃ v, (f failure).Gives (.ok v) := by
  obtain ⟨v, t, hv, -⟩ := h.fallback f hf failure s
  obtain ⟨r, hr⟩ := h.steady f hf failure
  obtain rfl : .ok v = r := (congrArg Prod.fst hv).symm.trans (hr s)
  exact ⟨v, hr⟩

theorem Pure.retold (h : o.Pure) {f : Failure → Effect σ Value} (hf : o.fallback = some f)
    {failure failure' : Failure} (hx : x.Timed σ failure) (hx' : x.Timed σ failure') (s t : σ) :
    Matched (o.Retold x) ((f failure).outcome s).1 ((f failure').outcome t).1 := by
  obtain ⟨v, hv⟩ := h.gives hf failure s
  obtain ⟨w, hw⟩ := h.gives hf failure' t
  rw [hv s, hw t]
  exact .returns (.inr ⟨⟨f, failure, hf, hx, hv⟩, f, failure', hf, hx', hw⟩)

end RenderOptions

namespace Block

variable [Clock σ]

mutual

/-- The blocks are the same, but for what the caller's fallback shows at one time and at
another for a fault told with the context. -/
inductive Retimed (o : RenderOptions σ) (context : Context) : Block → Block → Prop
  | component {id type displayName : String} {props : Props} {output : Value}
    {className : Option String} {accessibility : Option Accessibility}
    {animation : Option NodeAnimation} {bs cs : List Block}
    (hchildren : RetimedAll o context bs cs) :
    Retimed o context
      (.component id type displayName props output className accessibility animation bs)
      (.component id type displayName props output className accessibility animation cs)
  | fallback {id type error : String} {retries : UInt32} {v w : Value}
    (houtput : o.Retold ⟨id, type, error, context⟩ v w) :
    Retimed o context (.fallback id type error retries v) (.fallback id type error retries w)

inductive RetimedAll (o : RenderOptions σ) (context : Context) : List Block → List Block → Prop
  | nil : RetimedAll o context [] []
  | cons {b c : Block} {bs cs : List Block} (hhead : Retimed o context b c)
    (hrest : RetimedAll o context bs cs) : RetimedAll o context (b :: bs) (c :: cs)

end

variable {o : RenderOptions σ} {context : Context}

theorem RetimedAll.append {as bs cs ds : List Block} (h : RetimedAll o context as bs)
    (h' : RetimedAll o context cs ds) : RetimedAll o context (as ++ cs) (bs ++ ds) := by
  induction as generalizing bs with
  | nil =>
    cases h
    exact h'
  | cons a as ih =>
    cases h with
    | cons hhead hrest => exact .cons hhead (ih hrest)

mutual

theorem Retimed.eq (ho : o.Timeless) : ∀ {b c : Block}, Retimed o context b c → b = c
  | _, _, .component hchildren => by rw [RetimedAll.eq ho hchildren]
  | _, _, .fallback houtput => by rw [ho.eq_of_retold houtput]

theorem RetimedAll.eq (ho : o.Timeless) : ∀ {bs cs : List Block},
    RetimedAll o context bs cs → bs = cs
  | _, _, .nil => rfl
  | _, _, .cons hhead hrest => by rw [Retimed.eq ho hhead, RetimedAll.eq ho hrest]

end

end Block

end PageConfig
