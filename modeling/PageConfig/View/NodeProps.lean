import PageConfig.Context.Basic
import PageConfig.Document.Basic
import PageConfig.Props.Responsive
import PageConfig.Props.Template
import PageConfig.Props.ThemeReference

/-!
# The props of a node

What a node's component is given: the node's props, overridden for the
viewport, with templates and theme references put in.
-/

set_option autoImplicit false

namespace PageConfig

/-- What stays fixed during a pass. -/
structure Scene where
  context : Context
  theme : Option Value
  retryButton : Bool

namespace Scene

def ofDocument (d : Document) (c : Context) (host : Host) : Scene where
  context := c.effective host
  theme := d.theme.map Theme.toValue
  retryButton := (d.errorBoundary.bind (·.retryButton)).getD true

def data (s : Scene) : Value := s.context.toValue

def viewport (s : Scene) : Viewport := s.context.viewportOrStandard

end Scene

namespace Node

/-- The overrides for a viewport, taken from inside `props` if that is an object. -/
def bucket (r : Responsive) (viewport : Viewport) : Props :=
  let overrides := r.overrides viewport
  match overrides.get? "props" with
  | some (.object inner) => inner
  | _ => overrides

def baseProps (n : Node) (viewport : Viewport) : Props :=
  match n.responsive with
  | some r => n.props.mergeShallow (bucket r viewport)
  | none => n.props

def resolvedProps (n : Node) (s : Scene) : Props :=
  let props := (n.baseProps s.viewport).fillTemplates s.data
  match s.theme with
  | some theme => props.fillTheme theme
  | none => props

end Node

end PageConfig
