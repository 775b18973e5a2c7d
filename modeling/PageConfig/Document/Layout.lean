import PageConfig.Decode.Scalar

/-!
# Layouts

The layout of a page with its responsive overrides, as decoded and as written
back.
-/

set_option autoImplicit false

namespace PageConfig

inductive LayoutKind where
  | flex
  | grid
  | stack
  | masonry
  | auto
  deriving DecidableEq, Inhabited, Repr

namespace LayoutKind

def name : LayoutKind → String
  | flex => "flex"
  | grid => "grid"
  | stack => "stack"
  | masonry => "masonry"
  | auto => "auto"

def decode : Decoder LayoutKind :=
  Decode.choice ([flex, grid, stack, masonry, auto].map fun k => (k.name, k)) (some auto)

end LayoutKind

structure Alignment where
  justify : Option String := none
  align : Option String := none

namespace Alignment

def decode : Decoder Alignment := fun v => Record.decode "Alignment" 2 v fun r =>
  Alignment.mk <$> r.optional 0 "justify" Decode.text <*> r.optional 1 "align" Decode.text

def toValue (a : Alignment) : Value :=
  .ofFields [("justify", a.justify.map .text), ("align", a.align.map .text)]

end Alignment

structure Gradient where
  kind : String := ""
  colors : List String := []
  direction : Option String := none

namespace Gradient

def decode : Decoder Gradient := fun v => Record.decode "Gradient" 3 v fun r =>
  Gradient.mk
    <$> r.withDefault 0 "type" "" Decode.text
    <*> r.withDefault 1 "colors" [] (Decode.list Decode.text)
    <*> r.optional 2 "direction" Decode.text

def toValue (g : Gradient) : Value :=
  .ofFields [
    ("type", some (.text g.kind)),
    ("colors", some (.list (g.colors.map .text))),
    ("direction", g.direction.map .text)]

end Gradient

structure Overlay where
  color : String
  opacity : Float

namespace Overlay

def decode : Decoder Overlay := fun v => Record.decode "Overlay" 2 v fun r =>
  Overlay.mk <$> r.required 0 "color" Decode.text <*> r.required 1 "opacity" Decode.real

def toValue (o : Overlay) : Value :=
  .ofFields [("color", some (.text o.color)), ("opacity", some (.real o.opacity))]

end Overlay

structure Background where
  color : Option String := none
  image : Option String := none
  gradient : Option Gradient := none
  pattern : Option String := none
  overlay : Option Overlay := none

namespace Background

def decode : Decoder Background := fun v => Record.decode "BackgroundConfig" 5 v fun r =>
  Background.mk
    <$> r.optional 0 "color" Decode.text
    <*> r.optional 1 "image" Decode.text
    <*> r.optional 2 "gradient" Gradient.decode
    <*> r.optional 3 "pattern" Decode.text
    <*> r.optional 4 "overlay" Overlay.decode

def toValue (b : Background) : Value :=
  .ofFields [
    ("color", b.color.map .text),
    ("image", b.image.map .text),
    ("gradient", b.gradient.map Gradient.toValue),
    ("pattern", b.pattern.map .text),
    ("overlay", b.overlay.map Overlay.toValue)]

end Background

/-- Overrides per viewport tier, and on top of them those for wide screens. -/
structure Responsive where
  mobile : Option Props := none
  tablet : Option Props := none
  desktop : Option Props := none
  wide : Option Props := none

namespace Responsive

def decode : Decoder Responsive := fun v => Record.decode "ResponsiveConfig" 4 v fun r =>
  Responsive.mk
    <$> r.optional 0 "mobile" Decode.table
    <*> r.optional 1 "tablet" Decode.table
    <*> r.optional 2 "desktop" Decode.table
    <*> r.optional 3 "wide" Decode.table

def toValue (o : Responsive) : Value :=
  .ofFields [
    ("mobile", o.mobile.map .object),
    ("tablet", o.tablet.map .object),
    ("desktop", o.desktop.map .object),
    ("wide", o.wide.map .object)]

end Responsive

structure Layout where
  kind : LayoutKind := .auto
  direction : Option String := none
  gap : Option Value := none
  padding : Option Value := none
  margin : Option Value := none
  className : Option String := none
  responsive : Option Responsive := none
  alignment : Option Alignment := none
  background : Option Background := none

namespace Layout

def decode : Decoder Layout := fun v => Record.decode "LayoutConfig" 9 v fun r =>
  Layout.mk
    <$> r.withDefault 0 "type" .auto LayoutKind.decode
    <*> r.optional 1 "direction" Decode.text
    <*> r.optional 2 "gap" Decode.value
    <*> r.optional 3 "padding" Decode.value
    <*> r.optional 4 "margin" Decode.value
    <*> r.optional 5 "className" Decode.text
    <*> r.optional 6 "responsive" Responsive.decode
    <*> r.optional 7 "alignment" Alignment.decode
    <*> r.optional 8 "background" Background.decode

def fields (l : Layout) : Props :=
  .ofFields [
    ("type", some (.text l.kind.name)),
    ("direction", l.direction.map .text),
    ("gap", l.gap),
    ("padding", l.padding),
    ("margin", l.margin),
    ("className", l.className.map .text),
    ("responsive", l.responsive.map Responsive.toValue),
    ("alignment", l.alignment.map Alignment.toValue),
    ("background", l.background.map Background.toValue)]

def toValue (l : Layout) : Value := .object l.fields

end Layout

end PageConfig
