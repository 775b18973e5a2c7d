import PageConfig.Decimal.Shortest

/-!
# Reading decimals

`Decimal.nearest` is the double nearest to a decimal. `Decimal.scaled` is the
cheaper reading of number tokens: the digits are converted once and scaled
once. `readReal?` is the grammar of number texts in author data.
-/

set_option autoImplicit false

namespace PageConfig

def digitsValue (cs : List Char) : Nat :=
  cs.foldl (fun n c => 10 * n + (c.toNat - '0'.toNat)) 0

namespace Decimal

/-- The double nearest to the decimal, ties to even. Exponents that leave the
range of doubles by far are answered without computing the power. -/
def nearest (d : Decimal) : Float :=
  let top : Int := d.digits.log2 / 3 + d.exponent
  if d.digits = 0 || top < -400 then 0.0
  else if 800 < d.exponent then 1.0 / 0.0
  else Float.ofScientific d.digits (d.exponent < 0) d.exponent.natAbs

def power (n : Nat) : Float := Float.ofScientific 1 false n

/-- A number token read by one conversion of its digits and one scaling, each
rounded; `none` when the result exceeds the range of doubles. Exponents below
`-308` are scaled in two or more steps. -/
def scaled (d : Decimal) : Option Float :=
  let x := Float.ofNat d.digits
  if 0 ≤ d.exponent then
    if d.digits = 0 then some 0.0
    else if 308 < d.exponent then none
    else
      let y := x * power d.exponent.toNat
      if y.isInf then none else some y
  else some (shrink (-d.exponent).toNat 4 x)
where
  shrink : Nat → Nat → Float → Float
    | n, 0, x => if n ≤ 308 then x / power n else 0.0
    | n, steps + 1, x =>
      if n ≤ 308 then x / power n else shrink (n - 308) steps (x / power 308)

end Decimal

def splitSign : List Char → Bool × List Char
  | '+' :: cs => (false, cs)
  | '-' :: cs => (true, cs)
  | cs => (false, cs)

def readExponent? : List Char → Option Int
  | [] => some 0
  | c :: cs =>
    let (negative, ds) := splitSign cs
    if (c = 'e' || c = 'E') && !ds.isEmpty && ds.all Char.isDigit then
      some (if negative then -digitsValue ds else digitsValue ds)
    else none

def readMagnitude? (cs : List Char) : Option Decimal :=
  let whole := cs.takeWhile Char.isDigit
  let rest := cs.dropWhile Char.isDigit
  let (fraction, rest) := match rest with
    | '.' :: r => (r.takeWhile Char.isDigit, r.dropWhile Char.isDigit)
    | r => ([], r)
  if whole.isEmpty && fraction.isEmpty then none
  else (readExponent? rest).map fun e => ⟨digitsValue (whole ++ fraction), e - fraction.length⟩

def readReal? (s : String) : Option Float :=
  let (negative, cs) := splitSign s.toList
  let name := String.ofList (cs.map Char.toLower)
  let magnitude :=
    if name = "inf" || name = "infinity" then some (1.0 / 0.0)
    else if name = "nan" then some (0.0 / 0.0)
    else (readMagnitude? cs).map Decimal.nearest
  magnitude.map fun x => if negative then -x else x

end PageConfig
