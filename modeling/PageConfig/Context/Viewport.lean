import PageConfig.Decode.Scalar
import PageConfig.Text.Occurrence

/-!
# Viewports and hosts

The size of the window, its tier, and what the hosting device says about its
speed.
-/

set_option autoImplicit false

namespace PageConfig

structure Viewport where
  width : Nat
  height : Nat
  isMobile : Bool
  isTablet : Bool
  isDesktop : Bool
  deriving DecidableEq, Repr

namespace Viewport

def tabletWidth : Nat := 768
def desktopWidth : Nat := 1024
def wideWidth : Nat := 1440

def ofSize (width height : Nat) : Viewport where
  width := width
  height := height
  isMobile := width < tabletWidth
  isTablet := tabletWidth ≤ width && width < desktopWidth
  isDesktop := desktopWidth ≤ width

def isWide (v : Viewport) : Bool := wideWidth ≤ v.width

def standard : Viewport := ofSize 1200 800

def decode : Decoder Viewport := fun v => Record.decode "Viewport" 5 v fun r =>
  Viewport.mk
    <$> r.required 0 "width" (Decode.natural .unsigned32)
    <*> r.required 1 "height" (Decode.natural .unsigned32)
    <*> r.required 2 "isMobile" Decode.bool
    <*> r.required 3 "isTablet" Decode.bool
    <*> r.required 4 "isDesktop" Decode.bool

def toValue (v : Viewport) : Value :=
  .ofFields [
    ("width", some (.whole v.width)),
    ("height", some (.whole v.height)),
    ("isMobile", some (.bool v.isMobile)),
    ("isTablet", some (.bool v.isTablet)),
    ("isDesktop", some (.bool v.isDesktop))]

end Viewport

inductive Connection where
  | slow
  | fast
  deriving DecidableEq, Repr

namespace Connection

def name : Connection → String
  | slow => "slow"
  | fast => "fast"

def decode : Decoder Connection := Decode.choice ([slow, fast].map fun c => (c.name, c)) none

end Connection

structure Performance where
  isSlowDevice : Option Bool := none
  connection : Option Connection := none
  deriving DecidableEq, Repr

namespace Performance

def orElse (given other : Performance) : Performance where
  isSlowDevice := given.isSlowDevice <|> other.isSlowDevice
  connection := given.connection <|> other.connection

def decode : Decoder Performance := fun v => Record.decode "PerformanceHint" 2 v fun r =>
  Performance.mk
    <$> r.optional 0 "isSlowDevice" Decode.bool
    <*> r.optional 1 "connection" Connection.decode

def toValue (p : Performance) : Value :=
  .ofFields [
    ("isSlowDevice", p.isSlowDevice.map .bool),
    ("connection", p.connection.map fun c => .text c.name)]

end Performance

structure Host where
  width : Nat := 1200
  height : Nat := 800
  hardwareConcurrency : Option Nat := none
  effectiveConnection : Option String := none

namespace Host

def decode : Decoder Host := fun v => Record.decode "HostEnvironment" 4 v fun r =>
  Host.mk
    <$> r.required 0 "width" (Decode.natural .unsigned32)
    <*> r.required 1 "height" (Decode.natural .unsigned32)
    <*> r.optional 2 "hardwareConcurrency" (Decode.natural .size)
    <*> r.optional 3 "effectiveConnection" Decode.text

def toValue (h : Host) : Value :=
  .ofFields [
    ("width", some (.whole h.width)),
    ("height", some (.whole h.height)),
    ("hardwareConcurrency",
      some (match h.hardwareConcurrency with | some n => .whole n | none => .null)),
    ("effectiveConnection",
      some (match h.effectiveConnection with | some s => .text s | none => .null))]

def viewport (h : Host) : Viewport := .ofSize h.width h.height

/-- A device with two cores or fewer is slow, and so is a second-generation network. -/
def performance (h : Host) : Performance where
  isSlowDevice := some (match h.hardwareConcurrency with | some n => n ≤ 2 | none => false)
  connection := some (match h.effectiveConnection with
    | some kind => if occurs "2g".toList kind.toList then .slow else .fast
    | none => .fast)

end Host

end PageConfig
