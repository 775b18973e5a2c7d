import PageConfig.Decode.Scalar

/-!
# Themes

The theme of a page. Sections and colors that it does not name are kept as
they are, so that every token stays addressable.
-/

set_option autoImplicit false

namespace PageConfig

structure TextColors where
  primary : Option String := none
  secondary : Option String := none
  muted : Option String := none

namespace TextColors

def decode : Decoder TextColors := fun v => Record.decode "TextColors" 3 v fun r =>
  TextColors.mk
    <$> r.optional 0 "primary" Decode.text
    <*> r.optional 1 "secondary" Decode.text
    <*> r.optional 2 "muted" Decode.text

def toValue (c : TextColors) : Value :=
  .ofFields [
    ("primary", c.primary.map .text),
    ("secondary", c.secondary.map .text),
    ("muted", c.muted.map .text)]

end TextColors

structure ThemeColors where
  primary : Option String := none
  secondary : Option String := none
  accent : Option String := none
  background : Option String := none
  surface : Option String := none
  text : Option TextColors := none
  border : Option String := none
  error : Option String := none
  warning : Option String := none
  success : Option String := none
  info : Option String := none
  extra : Props := []

namespace ThemeColors

def fieldNames : List String :=
  ["primary", "secondary", "accent", "background", "surface", "text", "border", "error", "warning",
    "success", "info"]

def decode : Decoder ThemeColors := fun v =>
  Record.decodeOpen "ThemeColors" v fieldNames fun r extra =>
    ThemeColors.mk
      <$> r.optional 0 "primary" Decode.text
      <*> r.optional 1 "secondary" Decode.text
      <*> r.optional 2 "accent" Decode.text
      <*> r.optional 3 "background" Decode.text
      <*> r.optional 4 "surface" Decode.text
      <*> r.optional 5 "text" TextColors.decode
      <*> r.optional 6 "border" Decode.text
      <*> r.optional 7 "error" Decode.text
      <*> r.optional 8 "warning" Decode.text
      <*> r.optional 9 "success" Decode.text
      <*> r.optional 10 "info" Decode.text
      <*> pure extra

def toValue (c : ThemeColors) : Value :=
  .ofFields ([
    ("primary", c.primary.map .text),
    ("secondary", c.secondary.map .text),
    ("accent", c.accent.map .text),
    ("background", c.background.map .text),
    ("surface", c.surface.map .text),
    ("text", c.text.map TextColors.toValue),
    ("border", c.border.map .text),
    ("error", c.error.map .text),
    ("warning", c.warning.map .text),
    ("success", c.success.map .text),
    ("info", c.info.map .text)] ++ c.extra.map fun e => (e.1, some e.2))

end ThemeColors

structure Theme where
  colors : Option ThemeColors := none
  spacing : Option Props := none
  typography : Option Props := none
  borderRadius : Option Props := none
  shadows : Option Props := none
  breakpoints : Option Props := none
  extra : Props := []

namespace Theme

def fieldNames : List String :=
  ["colors", "spacing", "typography", "borderRadius", "shadows", "breakpoints"]

def decode : Decoder Theme := fun v =>
  Record.decodeOpen "ThemeConfig" v fieldNames fun r extra =>
    Theme.mk
      <$> r.optional 0 "colors" ThemeColors.decode
      <*> r.optional 1 "spacing" Decode.table
      <*> r.optional 2 "typography" Decode.table
      <*> r.optional 3 "borderRadius" Decode.table
      <*> r.optional 4 "shadows" Decode.table
      <*> r.optional 5 "breakpoints" Decode.table
      <*> pure extra

def toValue (t : Theme) : Value :=
  .ofFields ([
    ("colors", t.colors.map ThemeColors.toValue),
    ("spacing", t.spacing.map .object),
    ("typography", t.typography.map .object),
    ("borderRadius", t.borderRadius.map .object),
    ("shadows", t.shadows.map .object),
    ("breakpoints", t.breakpoints.map .object)] ++ t.extra.map fun e => (e.1, some e.2))

def backgroundColor? (t : Theme) : Option String := t.colors.bind (·.background)

def textColor? (t : Theme) : Option String := (t.colors.bind (·.text)).bind (·.primary)

end Theme

end PageConfig
