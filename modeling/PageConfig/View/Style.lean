import PageConfig.Document.Theme
import PageConfig.Props.Responsive
import PageConfig.Props.ThemeReference

/-!
# Layout styles

The style of a page's layout for a viewport: responsive overrides merged in
and theme references resolved.
-/

set_option autoImplicit false

namespace PageConfig

structure LayoutStyle where
  className : String
  display : String
  flexDirection : Option String
  gap : Option Value
  padding : Option Value
  margin : Option Value
  justifyContent : Option String
  alignItems : Option String
  backgroundColor : Option String
  backgroundImage : Option String
  color : Option String
  transition : Option String

namespace LayoutStyle

def toValue (s : LayoutStyle) : Value :=
  .ofFields [
    ("className", some (.text s.className)),
    ("display", some (.text s.display)),
    ("flexDirection", s.flexDirection.map .text),
    ("gap", s.gap),
    ("padding", s.padding),
    ("margin", s.margin),
    ("justifyContent", s.justifyContent.map .text),
    ("alignItems", s.alignItems.map .text),
    ("backgroundColor", s.backgroundColor.map .text),
    ("backgroundImage", s.backgroundImage.map .text),
    ("color", s.color.map .text),
    ("transition", s.transition.map .text)]

end LayoutStyle

namespace Layout

def display (kind : LayoutKind) : String :=
  match kind with
  | .flex => "flex"
  | .grid => "grid"
  | _ => "block"

def classNames (kind : LayoutKind) (own caller : Option String) : String :=
  let names := ["config-ui-layout", "config-ui-layout--" ++ kind.name, own.getD "", caller.getD ""]
  String.intercalate " " ((names.map trim).filter (!·.isEmpty))

def mergedFields (l : Layout) (overrides : Props) (theme : Option Theme) : Props :=
  let fields := Props.mergeDeep { l with responsive := none }.fields overrides
  match theme with
  | some t => Props.fillTheme fields t.toValue
  | none => fields

/-- The layout that applies to a viewport. Overrides that do not make a layout
are left out, and the theme with them. -/
def effective (l : Layout) (theme : Option Theme) (viewport : Viewport) : Layout :=
  let overrides := (l.responsive.map (·.overrides viewport)).getD []
  if overrides.isEmpty && theme.isNone then l
  else match decode (.object (l.mergedFields overrides theme)) with
    | .ok merged => merged
    | .error _ => l

def style (layout : Layout) (theme : Option Theme) (viewport : Viewport)
    (callerClass : Option String) (animated : Bool) : LayoutStyle :=
  let l := layout.effective theme viewport
  { className := classNames l.kind l.className callerClass
    display := display l.kind
    flexDirection := l.direction
    gap := l.gap
    padding := l.padding
    margin := l.margin
    justifyContent := l.alignment.bind (·.justify)
    alignItems := l.alignment.bind (·.align)
    backgroundColor :=
      l.background.bind (·.color) <|> theme.bind (·.backgroundColor?)
    backgroundImage := l.background.bind (·.image)
    color := theme.bind (·.textColor?)
    transition := if animated then some "all 0.3s ease-in-out" else none }

end Layout

end PageConfig
