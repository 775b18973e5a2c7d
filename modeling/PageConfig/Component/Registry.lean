import PageConfig.Component.Basic
import PageConfig.Value.Dictionary

/-!
# The registry

The components by type name; a later registration replaces an earlier one. A
lazy entry calls its loader whenever it is needed, until a call succeeds. A
panic of a loader leaves the registry as it was.
-/

set_option autoImplicit false

namespace PageConfig

variable {σ : Type}

inductive Source (σ : Type) where
  | ready (factory : Factory σ)
  | lazy (loader : Loader σ) (loaded : Option (Factory σ))

namespace Source

def isLazy : Source σ → Bool
  | ready _ => false
  | lazy _ _ => true

def isLoaded : Source σ → Bool
  | ready _ => true
  | lazy _ loaded => loaded.isSome

/-- The factory, loaded if need be, and the source as it is from then on. A
failed load leaves a factory that fails with the text of its failure. -/
def resolve : Source σ → Effect σ (Factory σ × Source σ)
  | ready factory => return (factory, ready factory)
  | lazy loader (some factory) => return (factory, lazy loader (some factory))
  | lazy loader none => do
    match ← loader with
    | .ok factory => return (factory, lazy loader (some factory))
    | .error e => return (.failing e.message, lazy loader none)

end Source

structure Entry (σ : Type) where
  displayName : String
  defaults : Props
  source : Source σ

abbrev Registry (σ : Type) := Dictionary (Entry σ)

structure EntryInfo where
  displayName : String
  defaults : Props
  isLazy : Bool
  isLoaded : Bool

namespace EntryInfo

def toValue (i : EntryInfo) : Value :=
  .ofFields [
    ("displayName", some (.text i.displayName)),
    ("defaultProps", some (.object i.defaults)),
    ("lazy", some (.bool i.isLazy)),
    ("loaded", some (.bool i.isLoaded))]

end EntryInfo

namespace Registry

def register (r : Registry σ) (type : String) (source : Source σ) (defaults : Props)
    (displayName : Option String) : Registry σ :=
  r.insert type { displayName := displayName.getD type, defaults, source }

def unregister (r : Registry σ) (type : String) : Registry σ := r.erase type

def get (r : Registry σ) (type : String) : Effect σ (Option (Component σ) × Registry σ) := do
  match r.get? type with
  | none => return (none, r)
  | some entry =>
    let (factory, source) ← entry.source.resolve
    return (some { displayName := entry.displayName, defaults := entry.defaults, factory },
      r.insert type { entry with source })

def infos (r : Registry σ) : Dictionary EntryInfo :=
  r.mapValues fun e => ⟨e.displayName, e.defaults, e.source.isLazy, e.source.isLoaded⟩

end Registry

end PageConfig
