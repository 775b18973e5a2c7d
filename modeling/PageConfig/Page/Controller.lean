import PageConfig.Raw.Process
import PageConfig.View.Renderer

/-!
# Controllers

A controller holds one processed document with its context and renderer, and
replaces the document as new ones arrive. A replacement takes place as a whole
or not at all. Of several loads under way only the latest is accepted.
-/

set_option autoImplicit false

namespace PageConfig

variable {σ : Type}

structure ControllerOptions (σ : Type) where
  enableValidation : Bool := true
  enableOptimization : Bool := false
  enablePerformanceTracking : Bool := false
  render : RenderOptions σ := {}
  onError : Option (Failure → Effect σ Unit) := none
  onValidationError : Option (List ValidationError → Effect σ Unit) := none
  onMetric : Option (Metric → Effect σ Unit) := none

namespace ControllerOptions

def decode : Decoder (ControllerOptions σ) := fun v => Record.decode "ControllerOptions" 4 v fun r =>
  (fun enableValidation enableOptimization enablePerformanceTracking render =>
      { enableValidation, enableOptimization, enablePerformanceTracking, render })
    <$> r.withDefault 0 "enableValidation" true Decode.bool
    <*> r.withDefault 1 "enableOptimization" false Decode.bool
    <*> r.withDefault 2 "enablePerformanceTracking" false Decode.bool
    <*> r.withDefault 3 "render" {} RenderOptions.decode

def toValue (o : ControllerOptions σ) : Value :=
  .ofFields [
    ("enableValidation", some (.bool o.enableValidation)),
    ("enableOptimization", some (.bool o.enableOptimization)),
    ("enablePerformanceTracking", some (.bool o.enablePerformanceTracking)),
    ("render", some o.render.toValue)]

def processing (o : ControllerOptions σ) : ProcessOptions :=
  { validate := o.enableValidation, optimize := o.enableOptimization }

/-- The renderer reports failures of nodes to the controller's callback unless
it has one of its own. -/
def rendering (o : ControllerOptions σ) : RenderOptions σ :=
  { o.render with onError := o.render.onError <|> o.onError }

end ControllerOptions

inductive Status where
  | idle
  | ready
  | failed (message : String)
  deriving DecidableEq, Repr

def Status.toValue : Status → Value
  | .idle => .text "idle"
  | .ready => .text "ready"
  | .failed message => .ofFields [("failed", some (.text message))]

structure LoadTicket where
  number : UInt64
  deriving DecidableEq, Repr

structure Held where
  value : Value
  document : Document

/-- What there is to be held of a raw document, with what is found in it. Nothing is found
where the document is not examined. -/
def ControllerOptions.prepare (o : ControllerOptions σ) (raw : Value) :
    Except PageError (Held × Findings) := do
  let clean := raw.sanitize
  let (examined, findings) :=
    if o.enableValidation then (clean.validate.repaired, clean.validate.toFindings)
    else (clean, {})
  let value := if o.enableOptimization then examined.optimize else examined
  let document ← Document.ofValue value
  return ({ value, document }, findings)

theorem ControllerOptions.prepare_eq (o : ControllerOptions σ) (raw : Value) :
    o.prepare raw = (Document.ofValue (raw.process o.processing).document).map fun document =>
      ({ value := (raw.process o.processing).document, document },
        ((raw.process o.processing).report.map (·.toFindings)).getD {}) := by
  unfold prepare Value.process processing
  cases o.enableValidation <;> cases o.enableOptimization <;>
  · dsimp only
    rfl

structure Controller (σ : Type) where
  options : ControllerOptions σ
  context : Context
  renderer : Renderer σ
  /-- The document last given, before processing. -/
  input : Option Value := none
  value : Option Value := none
  document : Option Document := none
  findings : Findings := {}
  /-- The latest sample of each node, in the sequence in which they were taken. -/
  metrics : List Metric := []
  status : Status := .idle
  pending : Option LoadTicket := none
  issued : UInt64 := 0

namespace Controller

def empty (options : ControllerOptions σ) (context : Context) : Controller σ :=
  { options, context, renderer := { options := options.rendering } }

def held (c : Controller σ) : Option Held :=
  c.value.bind fun value => c.document.map fun document => { value, document }

theorem held_eq_some_iff {c : Controller σ} {held : Held} :
    c.held = some held ↔ c.value = some held.value ∧ c.document = some held.document := by
  obtain ⟨value, document⟩ := held
  unfold Controller.held
  cases c.value <;> cases c.document <;> simp

def isLoading (c : Controller σ) : Bool := c.pending.isSome

def effectiveContext (c : Controller σ) : Context := c.renderer.effectiveContext c.context

def updateContext (c : Controller σ) (update : Context) : Controller σ :=
  { c with context := c.context.merge update }

def resize (c : Controller σ) (width height : Nat) : Controller σ :=
  { c with renderer := c.renderer.resize width height }

def setHost (c : Controller σ) (host : Host) : Controller σ :=
  { c with renderer := c.renderer.setHost host }

/-- Starts a load, which takes the place of one under way. -/
def beginLoad (c : Controller σ) : LoadTicket × Controller σ :=
  let ticket : LoadTicket := ⟨c.issued + 1⟩
  (ticket, { c with pending := some ticket, issued := c.issued + 1 })

def keepMetric (c : Controller σ) (m : Metric) : Controller σ :=
  { c with metrics := c.metrics.filter (·.componentId != m.componentId) ++ [m] }

def fault (c : Controller σ) (error : String) : Fault where
  componentId := "config-processor"
  componentType := "ConfigProcessor"
  error := error
  context := c.effectiveContext

end Controller

structure Page (σ : Type) where
  world : σ
  registry : Registry σ
  controller : Controller σ

namespace Page

def call {α : Type} (e : Effect σ α) : Effect (Page σ) α :=
  e.within (·.world) fun p world => { p with world }

def adjust (f : Controller σ → Controller σ) : Effect (Page σ) Unit :=
  modify fun p => { p with controller := f p.controller }

def onStage {α : Type} (e : Effect (Stage σ) α) : Effect (Page σ) α :=
  e.within (fun p => { world := p.world, registry := p.registry, renderer := p.controller.renderer })
    fun p s => { p with
      world := s.world
      registry := s.registry
      controller := { p.controller with renderer := s.renderer } }

def report (findings : Findings) : Effect (Page σ) Unit := do
  if findings.isValid then return
  if let some onValidationError := (← get).controller.options.onValidationError then
    call (onValidationError findings.errors)

variable [Clock σ]

/-- The clock is read only where there is a callback to be told the time. -/
def fail (message : String) : Effect (Page σ) Unit := do
  let c := (← get).controller
  if let some onError := c.options.onError then
    let failure := (c.fault message).told (← call Effect.now)
    call (onError failure)
  adjust fun c => { c with status := .failed message }

/-- Takes a raw document in, or puts the held one away. A document that cannot
be typed leaves the held one in place. -/
def process (raw : Option Value) : Effect (Page σ) Unit := do
  adjust fun c => { c with input := raw }
  match raw with
  | none => adjust fun c =>
    { c with value := none, document := none, findings := {}, status := .idle }
  | some v =>
    match (← get).controller.options.prepare v with
    | .ok (held, findings) =>
      report findings
      adjust fun c => { c with
        value := some held.value
        document := some held.document
        findings
        metrics := []
        status := .ready
        renderer := c.renderer.reset }
    | .error e => fail e.message

def start (options : ControllerOptions σ) (context : Context) (initial : Option Value) :
    Effect (Page σ) Unit := do
  adjust fun _ => .empty options context
  process initial

/-- A document given directly makes a load under way stale. -/
def setDocument (raw : Option Value) : Effect (Page σ) Unit := do
  adjust fun c => { c with pending := none }
  process raw

def beginLoad : Effect (Page σ) LoadTicket := do
  let p ← get
  let (ticket, controller) := p.controller.beginLoad
  set { p with controller }
  return ticket

/-- Takes the result of a load in, unless its ticket is stale. -/
def finishLoad (ticket : LoadTicket) (result : Except PageError Value) : Effect (Page σ) Bool := do
  if (← get).controller.pending ≠ some ticket then return false
  adjust fun c => { c with pending := none }
  match result with
  | .ok raw => process (some raw)
  | .error e => fail e.message
  return true

def revalidate : Effect (Page σ) Unit := do
  if let some value := (← get).controller.value then
    let findings := value.validate.toFindings
    report findings
    adjust fun c => { c with findings }

def optimize : Effect (Page σ) Unit := do
  if let some value := (← get).controller.value then
    match Document.ofValue value.optimize with
    | .ok document =>
      adjust fun c => { c with value := some value.optimize, document := some document }
    | .error e => fail e.message

def retry : Effect (Page σ) Unit := do
  process (← get).controller.input

def recordMetric (m : Metric) : Effect (Page σ) Unit := do
  let options := (← get).controller.options
  if !options.enablePerformanceTracking then return
  if let some onMetric := options.onMetric then call (onMetric m)
  adjust (·.keepMetric m)

def render : Effect (Page σ) (Option Output) := do
  let c := (← get).controller
  let some document := c.document | return none
  let output ← onStage (Stage.render document c.context)
  output.metrics.forM recordMetric
  return some output

def retryNode (id : String) : Effect (Page σ) (Option Block) := do
  let c := (← get).controller
  let some document := c.document | return none
  onStage (Stage.retry document c.context id)

end Page

end PageConfig
