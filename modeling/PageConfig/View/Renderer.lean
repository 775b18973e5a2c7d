import PageConfig.Component.Registry
import PageConfig.Document.Visibility
import PageConfig.View.Block
import PageConfig.View.NodeProps

/-!
# Rendering

A renderer shows documents over time. A node that failed keeps its fallback on
later passes until it is retried. Panics of units never leave the pass; those
of callbacks do, unless the document has a boundary.
-/

set_option autoImplicit false

namespace PageConfig

variable {σ : Type}

structure RenderOptions (σ : Type) where
  enableAnimations : Bool := true
  className : Option String := none
  host : Host := {}
  onError : Option (Failure → Effect σ Unit) := none
  onMetric : Option (Metric → Effect σ Unit) := none
  fallback : Option (Failure → Effect σ Value) := none

namespace RenderOptions

def tell (o : RenderOptions σ) (failure : Failure) : Effect σ Unit :=
  match o.onError with
  | some onError => onError failure
  | none => return ()

def decode : Decoder (RenderOptions σ) := fun v => Record.decode "RenderOptions" 3 v fun r =>
  (fun enableAnimations className host => { enableAnimations, className, host })
    <$> r.withDefault 0 "enableAnimations" true Decode.bool
    <*> r.optional 1 "className" Decode.text
    <*> r.withDefault 2 "host" {} Host.decode

def toValue (o : RenderOptions σ) : Value :=
  .ofFields [
    ("enableAnimations", some (.bool o.enableAnimations)),
    ("className", some ((o.className.map .text).getD .null)),
    ("host", some o.host.toValue)]

end RenderOptions

structure Renderer (σ : Type) where
  options : RenderOptions σ
  /-- The failed nodes, each with the message of its failure. -/
  failures : Dictionary String := ∅
  retries : Dictionary UInt32 := ∅
  updates : Dictionary UInt32 := ∅

namespace Renderer

def hasFailed (r : Renderer σ) (id : String) : Bool := r.failures.has id

def retryCount (r : Renderer σ) (id : String) : UInt32 := (r.retries.get? id).getD 0

def updateCount (r : Renderer σ) (id : String) : UInt32 := (r.updates.get? id).getD 0

def setOptions (r : Renderer σ) (options : RenderOptions σ) : Renderer σ := { r with options }

def setHost (r : Renderer σ) (host : Host) : Renderer σ :=
  { r with options := { r.options with host } }

def resize (r : Renderer σ) (width height : Nat) : Renderer σ :=
  r.setHost { r.options.host with width, height }

def reset (r : Renderer σ) : Renderer σ := { options := r.options }

def effectiveContext (r : Renderer σ) (c : Context) : Context := c.effective r.options.host

end Renderer

structure Stage (σ : Type) where
  world : σ
  registry : Registry σ
  renderer : Renderer σ

/-- A stage during a pass, with what the pass noticed so far. -/
structure Pass (σ : Type) extends Stage σ where
  diagnostics : List Diagnostic := []
  metrics : List Metric := []

namespace Pass

def call {α : Type} (e : Effect σ α) : Effect (Pass σ) α :=
  e.within (·.world) fun p world => { p with world }

def component? (type : String) : Effect (Pass σ) (Option (Component σ)) := do
  let (component, registry) ← call ((← get).registry.get type)
  modify fun p => { p with registry }
  return component

def note (d : Diagnostic) : Effect (Pass σ) Unit :=
  modify fun p => { p with diagnostics := p.diagnostics ++ [d] }

/-- Makes the output of a node and takes a sample of it. -/
def instantiate (id type : String) (factory : Factory σ) (props : Props) :
    Effect (Pass σ) (Except RenderError Value) := do
  let result ← call (factory.contained props)
  let renderer := (← get).renderer
  let updateCount := renderer.updateCount id + 1
  modify fun p =>
    { p with renderer := { renderer with updates := renderer.updates.insert id updateCount } }
  let metric : Metric := { componentId := id, componentType := type, updateCount }
  if let some onMetric := renderer.options.onMetric then call (onMetric metric)
  modify fun p => { p with metrics := p.metrics ++ [metric] }
  return result

section

variable [Clock σ]

def toldNow (x : Fault) : Effect (Pass σ) Failure := return x.told (← call Effect.now)

def report (x : Fault) : Effect (Pass σ) Failure := do
  let failure ← toldNow x
  call ((← get).renderer.options.tell failure)
  return failure

end

def ownFallback? (scene : Scene) (fallback : Node) (error : String) :
    Effect (Pass σ) (Option Value) := do
  let some component ← component? fallback.type | return none
  let props := component.defaults.mergeShallow (fallback.resolvedProps scene)
  match ← call (component.factory.contained (props.insert "error" (.text error))) with
  | .ok output => return some output
  | .error _ => return none

def presentation (scene : Scene) (failure : Failure) : Effect (Pass σ) Value := do
  match (← get).renderer.options.fallback with
  | some fallback => call (fallback failure)
  | none => return standardFallback failure.error scene.retryButton

def fallbackBlock (scene : Scene) (id type : String) (errorFallback : Option Node)
    (failure : Failure) : Effect (Pass σ) Block := do
  let own ← match errorFallback with
    | some fallback => ownFallback? scene fallback failure.error
    | none => pure none
  let output ← match own with
    | some output => pure output
    | none => presentation scene failure
  return .fallback id type failure.error ((← get).renderer.retryCount id) output

variable [Clock σ]

mutual

/-- The block of a node, unless its conditions hide it or its type is not
registered. Children are shown only below a node that has an output. -/
def node? (scene : Scene) : Node → Effect (Pass σ) (Option Block)
  | n@(.mk id type _ _ children conditions _ styles animation accessibility errorFallback) => do
    if !Condition.allHold scene.data conditions then return none
    let some component ← component? type
      | note (.missingComponent id type)
        return none
    let fault (error : String) : Fault :=
      { componentId := id, componentType := type, error, context := scene.context }
    if let some message := (← get).renderer.failures.get? id then
      let failure ← toldNow (fault message)
      return some (← fallbackBlock scene id type errorFallback failure)
    let props := component.defaults.mergeShallow (n.resolvedProps scene)
    match ← instantiate id type component.factory props with
    | .ok output =>
      let animated := (← get).renderer.options.enableAnimations
      let blocks ← nodes scene children
      return some (.component id type component.displayName props output
        (styles.bind (·.className)) accessibility (if animated then animation else none) blocks)
    | .error e =>
      let message := e.message
      modify fun p => { p with renderer :=
        { p.renderer with failures := p.renderer.failures.insert id message } }
      note (.instantiationFailed id type message)
      let failure ← report (fault message)
      return some (← fallbackBlock scene id type errorFallback failure)

def nodes (scene : Scene) : List Node → Effect (Pass σ) (List Block)
  | [] => return []
  | n :: ns => do
    let block ← node? scene n
    let blocks ← nodes scene ns
    return block.toList ++ blocks

end

def boundaryType : String := "ConfigRenderer"

def namedFallback? (scene : Scene) (type error : String) : Effect (Pass σ) (Option Value) := do
  let some component ← component? type | return none
  let props := (component.defaults.insert "error" (.text error)).insert "retry"
    (.bool scene.retryButton)
  match ← call (component.factory.contained props) with
  | .ok output => return some output
  | .error _ => return none

/-- What is shown in place of the page when a panic reached its boundary. The report of the
panic and the look-up of the named component are not contained. -/
def documentFallback (scene : Scene) (d : Document) (p : Panic) : Effect (Pass σ) Block := do
  let error := (RenderError.panicked p.message).message
  let failure ← report
    { componentId := d.id, componentType := boundaryType, error, context := scene.context }
  let named ← match d.errorBoundary.bind (·.fallbackComponent) with
    | some type => namedFallback? scene type error
    | none => pure none
  let output ← match named with
    | some output => pure output
    | none =>
      match ← (presentation scene failure).attempt with
      | .ok output => pure output
      | .error _ => pure (standardFallback error scene.retryButton)
  return .fallback d.id boundaryType error 0 output

/-- The blocks of the page. With a boundary a panic leaves one block for the
whole page. -/
def page (scene : Scene) (d : Document) : Effect (Pass σ) (List Block) := do
  let components := Node.sorted (Node.arrangedAll d.components)
  if (d.errorBoundary.map (·.enabled)).getD false then
    match ← (nodes scene components).attempt with
    | .ok blocks => return blocks
    | .error p => return [← documentFallback scene d p]
  else nodes scene components

end Pass

namespace Stage

def pass {α : Type} (e : Effect (Pass σ) α) : Effect (Stage σ) α :=
  e.within (fun s => { s with }) fun _ p => p.toStage

def scene (s : Stage σ) (d : Document) (c : Context) : Scene :=
  .ofDocument d c s.renderer.options.host

variable [Clock σ]

def render (d : Document) (c : Context) : Effect (Stage σ) Output := pass do
  let start ← get
  let scene := start.scene d c
  let options := start.renderer.options
  let layout := d.layout.style d.theme scene.viewport options.className options.enableAnimations
  let blocks ← Pass.page scene d
  let p ← get
  return {
    layout
    blocks
    diagnostics := p.diagnostics
    metrics := p.metrics
    loadingBoundary := (d.loading.map (·.enabled)).getD false }

def retry (d : Document) (c : Context) (id : String) : Effect (Stage σ) (Option Block) := do
  modify fun s => { s with renderer := { s.renderer with
    failures := s.renderer.failures.erase id
    retries := s.renderer.retries.insert id (s.renderer.retryCount id + 1) } }
  match d.findNode? id with
  | none => return none
  | some n => pass do
    let scene := (← get).scene d c
    Pass.node? scene n.arranged

def renderOnce (options : RenderOptions σ) (d : Document) (c : Context) : Effect (Stage σ) Output :=
  (render d c).within (fun s => { s with renderer := { options } })
    fun s t => { t with renderer := s.renderer }

end Stage

end PageConfig
