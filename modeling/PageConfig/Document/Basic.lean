import PageConfig.Document.Node
import PageConfig.Document.Theme
import PageConfig.Error

/-!
# Documents

The typed form of a page document. Raw documents are values; `Document.ofValue`
types one, and `Document.toValue` writes it back.
-/

set_option autoImplicit false

namespace PageConfig

structure Metadata where
  name : Option String := none
  description : Option String := none
  tags : List String := []
  author : Option String := none
  createdAt : Option String := none
  updatedAt : Option String := none
  performance : Option Props := none

namespace Metadata

def decode : Decoder Metadata := fun v => Record.decode "ConfigMetadata" 7 v fun r =>
  Metadata.mk
    <$> r.optional 0 "name" Decode.text
    <*> r.optional 1 "description" Decode.text
    <*> r.withDefault 2 "tags" [] (Decode.list Decode.text)
    <*> r.optional 3 "author" Decode.text
    <*> r.optional 4 "createdAt" Decode.text
    <*> r.optional 5 "updatedAt" Decode.text
    <*> r.optional 6 "performance" Decode.table

def toValue (m : Metadata) : Value :=
  .ofFields [
    ("name", m.name.map .text),
    ("description", m.description.map .text),
    ("tags", if m.tags.isEmpty then none else some (.list (m.tags.map .text))),
    ("author", m.author.map .text),
    ("createdAt", m.createdAt.map .text),
    ("updatedAt", m.updatedAt.map .text),
    ("performance", m.performance.map .object)]

end Metadata

structure Boundary where
  enabled : Bool := false
  fallbackComponent : Option String := none
  onError : Option String := none
  retryButton : Option Bool := none

namespace Boundary

def decode : Decoder Boundary := fun v => Record.decode "ErrorBoundaryConfig" 4 v fun r =>
  Boundary.mk
    <$> r.withDefault 0 "enabled" false Decode.bool
    <*> r.optional 1 "fallbackComponent" Decode.text
    <*> r.optional 2 "onError" Decode.text
    <*> r.optional 3 "retryButton" Decode.bool

def toValue (b : Boundary) : Value :=
  .ofFields [
    ("enabled", some (.bool b.enabled)),
    ("fallbackComponent", b.fallbackComponent.map .text),
    ("onError", b.onError.map .text),
    ("retryButton", b.retryButton.map .bool)]

end Boundary

structure Loading where
  enabled : Bool := false
  component : Option String := none
  delay : Option Nat := none
  minDuration : Option Nat := none

namespace Loading

def decode : Decoder Loading := fun v => Record.decode "LoadingConfig" 4 v fun r =>
  Loading.mk
    <$> r.withDefault 0 "enabled" false Decode.bool
    <*> r.optional 1 "component" Decode.text
    <*> r.optional 2 "delay" (Decode.natural .unsigned64)
    <*> r.optional 3 "minDuration" (Decode.natural .unsigned64)

def toValue (l : Loading) : Value :=
  .ofFields [
    ("enabled", some (.bool l.enabled)),
    ("component", l.component.map .text),
    ("delay", l.delay.map fun n => .whole n),
    ("minDuration", l.minDuration.map fun n => .whole n)]

end Loading

structure Animations where
  enabled : Bool := false
  duration : Option Float := none
  easing : Option String := none
  stagger : Option Float := none
  presets : Option Props := none

namespace Animations

def decode : Decoder Animations := fun v => Record.decode "AnimationConfig" 5 v fun r =>
  Animations.mk
    <$> r.withDefault 0 "enabled" false Decode.bool
    <*> r.optional 1 "duration" Decode.real
    <*> r.optional 2 "easing" Decode.text
    <*> r.optional 3 "stagger" Decode.real
    <*> r.optional 4 "presets" Decode.table

def toValue (a : Animations) : Value :=
  .ofFields [
    ("enabled", some (.bool a.enabled)),
    ("duration", a.duration.map .real),
    ("easing", a.easing.map .text),
    ("stagger", a.stagger.map .real),
    ("presets", a.presets.map .object)]

end Animations

structure Document where
  id : String := ""
  version : Option String := none
  layout : Layout := {}
  theme : Option Theme := none
  metadata : Option Metadata := none
  components : List Node := []
  errorBoundary : Option Boundary := none
  loading : Option Loading := none
  animations : Option Animations := none

namespace Document

def decode : Decoder Document := fun v => Record.decode "ConfigDocument" 9 v fun r =>
  Document.mk
    <$> r.withDefault 0 "id" "" (fun w => (Decode.scalarText w).map (·.getD ""))
    <*> r.withDefault 1 "version" none Decode.scalarText
    <*> r.nullDefault 2 "layout" {} Layout.decode
    <*> r.optional 3 "theme" Theme.decode
    <*> r.optional 4 "metadata" Metadata.decode
    <*> r.nullDefault 5 "components" [] (Decode.list Node.decode)
    <*> r.optional 6 "errorBoundary" Boundary.decode
    <*> r.optional 7 "loading" Loading.decode
    <*> r.optional 8 "animations" Animations.decode

/-- Components that are neither a list nor null count as an empty list. -/
def withComponentList (fields : Props) : Props :=
  match fields.get? "components" with
  | none | some .null | some (.list _) => fields
  | some _ => fields.insert "components" (.list [])

def ofValue : Value → Except PageError Document
  | .object fields =>
    match decode (.object (withComponentList fields)) with
    | .ok d => .ok d
    | .error e => .error (.invalidDocument "document" e.message)
  | _ => .error (.invalidDocument "document" "expected an object")

def toValue (d : Document) : Value :=
  .ofFields [
    ("id", some (.text d.id)),
    ("version", d.version.map .text),
    ("layout", some d.layout.toValue),
    ("theme", d.theme.map Theme.toValue),
    ("metadata", d.metadata.map Metadata.toValue),
    ("components", some (.list (d.components.map Node.toValue))),
    ("errorBoundary", d.errorBoundary.map Boundary.toValue),
    ("loading", d.loading.map Loading.toValue),
    ("animations", d.animations.map Animations.toValue)]

def sortedComponents (d : Document) : List Node := Node.sorted d.components

/-- The first node with the id in the whole tree, a node before its children. -/
def findNode? (d : Document) (id : String) : Option Node := Node.findAmong? id d.components

end Document

end PageConfig
