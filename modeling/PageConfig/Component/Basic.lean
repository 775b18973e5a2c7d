import PageConfig.Effect
import PageConfig.Error
import PageConfig.Value.Basic

/-!
# Components

A factory makes the output of a component from its props. It is supplied from
outside and may fail or panic.
-/

set_option autoImplicit false

namespace PageConfig

inductive RenderError where
  | failed (message : String)
  | panicked (message : String)
  | load (cause : PageError)

def RenderError.message : RenderError → String
  | .failed message => message
  | .panicked message => "Component panicked: " ++ message
  | .load cause => cause.message

/-- Makes the output of a component, acting on the state `σ` of the outside. -/
abbrev Factory (σ : Type) := Props → Effect σ (Except RenderError Value)

abbrev Loader (σ : Type) := Effect σ (Except PageError (Factory σ))

def Factory.failing {σ : Type} (message : String) : Factory σ :=
  fun _ => return .error (.failed message)

def Factory.contained {σ : Type} (f : Factory σ) : Factory σ := fun props => do
  match ← (f props).attempt with
  | .ok result => return result
  | .error p => return .error (.panicked p.message)

structure Component (σ : Type) where
  displayName : String
  defaults : Props
  factory : Factory σ

end PageConfig
