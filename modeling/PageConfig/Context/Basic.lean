import PageConfig.Context.Viewport
import PageConfig.Error
import PageConfig.Value.Merge

/-!
# Contexts

The environment that a page is shown in: user, data and state as the author
names them, and the facts about theme, viewport and device. The effective
context is the one that conditions and templates see.
-/

set_option autoImplicit false

namespace PageConfig

inductive ThemeMode where
  | light
  | dark
  | auto
  deriving DecidableEq, Repr

namespace ThemeMode

def name : ThemeMode → String
  | light => "light"
  | dark => "dark"
  | auto => "auto"

def decode : Decoder ThemeMode :=
  Decode.choice ([light, dark, auto].map fun m => (m.name, m)) none

end ThemeMode

structure Context where
  user : Option Value := none
  theme : Option ThemeMode := none
  viewport : Option Viewport := none
  feature : Option Props := none
  data : Option Props := none
  state : Option Props := none
  performance : Option Performance := none
  extra : Props := []

namespace Context

def fieldNames : List String :=
  ["user", "theme", "viewport", "feature", "data", "state", "performance"]

def decode : Decoder Context := fun v =>
  Record.decodeOpen "RenderContext" v fieldNames fun r extra =>
    Context.mk
      <$> r.optional 0 "user" Decode.value
      <*> r.optional 1 "theme" ThemeMode.decode
      <*> r.optional 2 "viewport" Viewport.decode
      <*> r.optional 3 "feature" Decode.table
      <*> r.optional 4 "data" Decode.table
      <*> r.optional 5 "state" Decode.table
      <*> r.optional 6 "performance" Performance.decode
      <*> pure extra

def ofValue (v : Value) : Except PageError Context :=
  match decode v with
  | .ok c => .ok c
  | .error e => .error (.undecodable e)

def toValue (c : Context) : Value :=
  .ofFields ([
    ("user", c.user),
    ("theme", c.theme.map fun m => .text m.name),
    ("viewport", c.viewport.map Viewport.toValue),
    ("feature", c.feature.map .object),
    ("data", c.data.map .object),
    ("state", c.state.map .object),
    ("performance", c.performance.map Performance.toValue)] ++ c.extra.map fun e => (e.1, some e.2))

/-- An update replaces the fields that it sets, each as a whole. -/
def merge (c update : Context) : Context where
  user := update.user <|> c.user
  theme := update.theme <|> c.theme
  viewport := update.viewport <|> c.viewport
  feature := update.feature <|> c.feature
  data := update.data <|> c.data
  state := update.state <|> c.state
  performance := update.performance <|> c.performance
  extra := Props.mergeShallow c.extra update.extra

def effective (c : Context) (host : Host) : Context :=
  { c with
    viewport := some host.viewport
    performance := some ((c.performance.getD {}).orElse host.performance)
    theme := some (c.theme.getD .light) }

def viewportOrStandard (c : Context) : Viewport := c.viewport.getD .standard

end Context

end PageConfig
