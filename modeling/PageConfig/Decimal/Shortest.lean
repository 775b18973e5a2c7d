/-!
# Shortest decimals

A finite double is a dyadic number together with the interval of reals that
round to it. `Dyadic.shortest` walks the decimal grids from coarse to fine
and stops at the first one with a point in that interval, in exact integer
arithmetic. The layout of the digits belongs to the format that prints them.
-/

set_option autoImplicit false

namespace PageConfig

structure Decimal where
  digits : Nat
  exponent : Int
  deriving DecidableEq, Repr

/-- The number `mantissa * 2 ^ exponent`. The reals that round to it reach
half a unit up and half a unit down, or a quarter down when `narrowBelow`. -/
structure Dyadic where
  mantissa : Nat
  exponent : Int
  narrowBelow : Bool
  deriving DecidableEq, Repr

namespace Dyadic

def ofBits (bits : UInt64) : Dyadic :=
  let biased := ((bits >>> 52) &&& 0x7ff).toNat
  let fraction := (bits &&& 0xfffffffffffff).toNat
  if biased = 0 then ⟨fraction, -1074, false⟩
  else ⟨Nat.pow 2 52 + fraction, biased - 1075, fraction = 0 && biased > 1⟩

def scales (x : Dyadic) (p : Int) : Nat × Nat :=
  let e := x.exponent - 2
  (Nat.pow 10 p.toNat * Nat.pow 2 (-e).toNat, Nat.pow 2 e.toNat * Nat.pow 10 (-p).toNat)

def readsBack (x : Dyadic) (p : Int) (d : Nat) : Bool :=
  let (grid, quarter) := x.scales p
  let low := (4 * x.mantissa - if x.narrowBelow then 1 else 2) * quarter
  let high := (4 * x.mantissa + 2) * quarter
  let point := d * grid
  if x.mantissa % 2 = 0 then low ≤ point && point ≤ high else low < point && point < high

/-- The point of the grid `10 ^ p` next to `x` that reads back; of two the
nearer, and the even one when `x` lies halfway. -/
def onGrid? (x : Dyadic) (p : Int) : Option Nat :=
  let (grid, quarter) := x.scales p
  let below := 4 * x.mantissa * quarter / grid
  match x.readsBack p below, x.readsBack p (below + 1) with
  | false, false => none
  | true, false => some below
  | false, true => some (below + 1)
  | true, true =>
    match compare (2 * (4 * x.mantissa * quarter)) ((2 * below + 1) * grid) with
    | .lt => some below
    | .gt => some (below + 1)
    | .eq => some (if below % 2 = 0 then below else below + 1)

/-- The first of the grids `10 ^ p, 10 ^ (p - 1), …` with a point that reads
back. Seventeen digits identify a double, so the bound is never reached. -/
def search (x : Dyadic) : Nat → Int → Decimal
  | 0, p => ⟨(4 * x.mantissa * (x.scales p).2) / (x.scales p).1, p⟩
  | steps + 1, p =>
    match x.onGrid? p with
    | some d => ⟨d, p⟩
    | none => search x steps (p - 1)

/-- The decimal with the fewest digits among those that round to `x`. The
search starts above the leading digit: `30103 / 100000` exceeds `log 2`. -/
def shortest (x : Dyadic) : Decimal :=
  let bits : Int := x.mantissa.log2 + 1 + x.exponent
  x.search 24 (bits * 30103 / 100000 + 1)

end Dyadic

end PageConfig
