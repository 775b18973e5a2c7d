import PageConfig.Component.Basic
import PageConfig.Context.Basic
import PageConfig.Document.Node
import PageConfig.View.Style

/-!
# What a pass yields

The blocks shown for the nodes, what was noticed on the way, and the samples
taken of each instantiation.
-/

set_option autoImplicit false

namespace PageConfig

inductive Block where
  | component (id type displayName : String) (props : Props) (output : Value)
      (className : Option String) (accessibility : Option Accessibility)
      (animation : Option NodeAnimation) (children : List Block)
  | fallback (id type error : String) (retryCount : UInt32) (output : Value)

namespace Block

def id : Block → String
  | component id .. => id
  | fallback id .. => id

mutual

def toValue : Block → Value
  | component id type displayName props output className accessibility animation children =>
    .ofFields [
      ("type", some (.text "component")),
      ("id", some (.text id)),
      ("component", some (.text type)),
      ("displayName", some (.text displayName)),
      ("props", some (.object props)),
      ("output", some output),
      ("className", className.map .text),
      ("accessibility", accessibility.map Accessibility.toValue),
      ("animation", animation.map NodeAnimation.toValue),
      ("children", if children.isEmpty then none else some (.list (toValues children)))]
  | fallback id type error retryCount output =>
    .ofFields [
      ("type", some (.text "fallback")),
      ("id", some (.text id)),
      ("component", some (.text type)),
      ("error", some (.text error)),
      ("retryCount", some (.whole retryCount.toNat)),
      ("output", some output)]

def toValues : List Block → List Value
  | [] => []
  | b :: bs => b.toValue :: toValues bs

end

end Block

inductive Diagnostic where
  | missingComponent (nodeId type : String)
  | instantiationFailed (nodeId type message : String)
  deriving DecidableEq

namespace Diagnostic

def toValue : Diagnostic → Value
  | missingComponent nodeId type =>
    .ofFields [
      ("kind", some (.text "missingComponent")),
      ("nodeId", some (.text nodeId)),
      ("componentType", some (.text type))]
  | instantiationFailed nodeId type message =>
    .ofFields [
      ("kind", some (.text "instantiationFailed")),
      ("nodeId", some (.text nodeId)),
      ("componentType", some (.text type)),
      ("message", some (.text message))]

end Diagnostic

/-- One instantiation of a node, counted from one. When it was and how long it took is left
out: no pass and no controller looks at either. -/
structure Metric where
  componentId : String
  componentType : String
  updateCount : UInt32
  deriving DecidableEq

namespace Metric

def toValue (m : Metric) : Value :=
  .ofFields [
    ("componentId", some (.text m.componentId)),
    ("componentType", some (.text m.componentType)),
    ("updateCount", some (.whole m.updateCount.toNat))]

end Metric

structure Fault where
  componentId : String
  componentType : String
  error : String
  context : Context

/-- A fault as callbacks are told of it, with the time at which it is told. -/
structure Failure extends Fault where
  timestamp : UInt64

def Fault.told (x : Fault) (timestamp : UInt64) : Failure := { x with timestamp }

structure Output where
  layout : LayoutStyle
  blocks : List Block
  diagnostics : List Diagnostic
  metrics : List Metric
  loadingBoundary : Bool

namespace Output

def ids (o : Output) : List String := o.blocks.map Block.id

def toValue (o : Output) : Value :=
  .ofFields [
    ("layout", some o.layout.toValue),
    ("blocks", some (.list (Block.toValues o.blocks))),
    ("diagnostics", some (.list (o.diagnostics.map Diagnostic.toValue))),
    ("metrics", some (.list (o.metrics.map Metric.toValue))),
    ("loadingBoundary", some (.bool o.loadingBoundary)),
    ("ids", some (.list (o.ids.map .text)))]

end Output

def standardFallback (error : String) (retry : Bool) : Value :=
  .ofFields [
    ("className", some (.text "config-ui-error-boundary")),
    ("title", some (.text "Something went wrong")),
    ("error", some (.text error)),
    ("retry", some (.bool retry))]

end PageConfig
