/-!
# Foreign calls

Units, loaders and callbacks are supplied from outside. A call to one acts on
a state and either returns or panics; what it did to the state before a panic
stays done. Containing a panic turns it into an ordinary failure. The outside
also has a clock.
-/

set_option autoImplicit false

namespace PageConfig

structure Panic where
  text : Option String
  deriving DecidableEq

def Panic.message (p : Panic) : String := p.text.getD "unknown panic payload"

/-- An action on a state that returns a result or panics. -/
abbrev Effect (σ α : Type) := ExceptT Panic (StateM σ) α

namespace Effect

variable {σ τ α : Type}

def outcome (e : Effect σ α) (s : σ) : Except Panic α × σ := (ExceptT.run e).run s

def ofOutcome (f : σ → Except Panic α × σ) : Effect σ α := ExceptT.mk f

def attempt (e : Effect σ α) : Effect σ (Except Panic α) :=
  ofOutcome fun s => match e.outcome s with
    | (r, s) => (.ok r, s)

theorem outcome_attempt (e : Effect σ α) (s : σ) :
    e.attempt.outcome s = (.ok (e.outcome s).1, (e.outcome s).2) := rfl

def within (e : Effect τ α) (part : σ → τ) (replace : σ → τ → σ) : Effect σ α :=
  ofOutcome fun s => match e.outcome (part s) with
    | (r, t) => (r, replace s t)

end Effect

/-- The clock of the outside, in milliseconds. Time goes on: to read the clock may leave
another state of the outside behind. -/
class Clock (σ : Type) where
  now : StateM σ UInt64

abbrev Clock.still (σ : Type) : Clock σ := ⟨return 0⟩

instance : Clock Unit := .still Unit

def Effect.now {σ : Type} [Clock σ] : Effect σ UInt64 := ExceptT.lift Clock.now

end PageConfig
