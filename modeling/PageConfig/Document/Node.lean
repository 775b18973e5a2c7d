import PageConfig.Document.Condition
import PageConfig.Document.Layout

/-!
# Nodes

A node of the component tree: the type it shows, its props and when it shows,
its children, and the node that stands in for it when it fails.
-/

set_option autoImplicit false

namespace PageConfig

structure Styles where
  className : Option String := none
  css : Option Props := none
  hover : Option Props := none
  focus : Option Props := none
  active : Option Props := none

namespace Styles

def decode : Decoder Styles := fun v => Record.decode "StyleConfig" 5 v fun r =>
  Styles.mk
    <$> r.optional 0 "className" Decode.text
    <*> r.optional 1 "css" Decode.table
    <*> r.optional 2 "hover" Decode.table
    <*> r.optional 3 "focus" Decode.table
    <*> r.optional 4 "active" Decode.table

def toValue (s : Styles) : Value :=
  .ofFields [
    ("className", s.className.map .text),
    ("css", s.css.map .object),
    ("hover", s.hover.map .object),
    ("focus", s.focus.map .object),
    ("active", s.active.map .object)]

end Styles

structure NodeAnimation where
  entrance : Option String := none
  exit : Option String := none
  duration : Option Float := none
  delay : Option Float := none
  easing : Option String := none

namespace NodeAnimation

def decode : Decoder NodeAnimation := fun v => Record.decode "ComponentAnimation" 5 v fun r =>
  NodeAnimation.mk
    <$> r.optional 0 "entrance" Decode.text
    <*> r.optional 1 "exit" Decode.text
    <*> r.optional 2 "duration" Decode.real
    <*> r.optional 3 "delay" Decode.real
    <*> r.optional 4 "easing" Decode.text

def toValue (a : NodeAnimation) : Value :=
  .ofFields [
    ("entrance", a.entrance.map .text),
    ("exit", a.exit.map .text),
    ("duration", a.duration.map .real),
    ("delay", a.delay.map .real),
    ("easing", a.easing.map .text)]

end NodeAnimation

structure Accessibility where
  ariaLabel : Option String := none
  ariaDescribedBy : Option String := none
  role : Option String := none
  tabIndex : Option Int := none
  focusable : Option Bool := none
  screenReaderOnly : Option Bool := none

namespace Accessibility

def decode : Decoder Accessibility := fun v => Record.decode "AccessibilityConfig" 6 v fun r =>
  Accessibility.mk
    <$> r.optional 0 "ariaLabel" Decode.text
    <*> r.optional 1 "ariaDescribedBy" Decode.text
    <*> r.optional 2 "role" Decode.text
    <*> r.optional 3 "tabIndex" (Decode.integer .signed32)
    <*> r.optional 4 "focusable" Decode.bool
    <*> r.optional 5 "screenReaderOnly" Decode.bool

def toValue (a : Accessibility) : Value :=
  .ofFields [
    ("ariaLabel", a.ariaLabel.map .text),
    ("ariaDescribedBy", a.ariaDescribedBy.map .text),
    ("role", a.role.map .text),
    ("tabIndex", a.tabIndex.map .whole),
    ("focusable", a.focusable.map .bool),
    ("screenReaderOnly", a.screenReaderOnly.map .bool)]

end Accessibility

structure Node where
  id : String := ""
  type : String := ""
  props : Props := []
  order : Int := 0
  children : List Node := []
  conditions : List Condition := []
  responsive : Option Responsive := none
  styles : Option Styles := none
  animation : Option NodeAnimation := none
  accessibility : Option Accessibility := none
  errorFallback : Option Node := none
  deriving Inhabited

namespace Node

def decode (v : Value) : Except DecodeError Node :=
  Record.decode "ComponentNode" 11 v fun r =>
    Node.mk
      <$> r.withDefault 0 "id" "" (fun w => (Decode.scalarText w).map (·.getD ""))
      <*> r.nullDefault 1 "type" "" Decode.text
      <*> r.nullDefault 2 "props" [] Decode.table
      <*> r.nullDefault 3 "order" 0 (Decode.integer .signed64)
      <*> r.below 4 "children" (pure []) (fun
        | .null, _ => .ok []
        | w, _h => Decode.listBelow w fun u _hu => decode u)
      <*> r.nullDefault 5 "conditions" [] (Decode.list Condition.decode)
      <*> r.optional 6 "responsive" Responsive.decode
      <*> r.optional 7 "styles" Styles.decode
      <*> r.optional 8 "animation" NodeAnimation.decode
      <*> r.optional 9 "accessibility" Accessibility.decode
      <*> r.below 10 "errorFallback" (pure none) fun
        | .null, _ => .ok none
        | w, _h => (decode w).map some
termination_by sizeOf v

mutual

def toValue : Node → Value
  | .mk id type props order children conditions responsive styles animation accessibility
      errorFallback =>
    .ofFields [
      ("id", some (.text id)),
      ("type", some (.text type)),
      ("props", some (.object props)),
      ("order", some (.whole order)),
      ("children", if children.isEmpty then none else some (.list (toValues children))),
      ("conditions",
        if conditions.isEmpty then none else some (.list (conditions.map Condition.toValue))),
      ("responsive", responsive.map Responsive.toValue),
      ("styles", styles.map Styles.toValue),
      ("animation", animation.map NodeAnimation.toValue),
      ("accessibility", accessibility.map Accessibility.toValue),
      ("errorFallback", toValue? errorFallback)]

def toValues : List Node → List Value
  | [] => []
  | n :: ns => n.toValue :: toValues ns

def toValue? : Option Node → Option Value
  | none => none
  | some n => some n.toValue

end

mutual

def find? (id : String) : Node → Option Node
  | n@(.mk nodeId _ _ _ children _ _ _ _ _ _) =>
    if nodeId = id then some n else findAmong? id children

def findAmong? (id : String) : List Node → Option Node
  | [] => none
  | n :: ns => (find? id n).orElse fun _ => findAmong? id ns

end

def place (n : Node) : List Node → List Node
  | [] => [n]
  | m :: ns => if n.order ≤ m.order then n :: m :: ns else m :: place n ns

/-- By ascending order; nodes of one order keep their sequence. -/
def sorted : List Node → List Node
  | [] => []
  | n :: ns => place n (sorted ns)

mutual

def arranged : Node → Node
  | .mk id type props order children conditions responsive styles animation accessibility
      errorFallback =>
    .mk id type props order (sorted (arrangedAll children)) conditions responsive styles animation
      accessibility errorFallback

def arrangedAll : List Node → List Node
  | [] => []
  | n :: ns => n.arranged :: arrangedAll ns

end

end Node

end PageConfig
