/-!
# Ranges of characters

Sets of characters as ascending closed ranges of code points. In tables a set
is written as numbers: how many code points are passed over, how many belong
to the set, and so on in turn.
-/

set_option autoImplicit false

namespace PageConfig

def inRanges (ranges : List (Nat × Nat)) (c : Char) : Bool :=
  ranges.any fun r => r.1 ≤ c.toNat && c.toNat ≤ r.2

def rangesFrom (start : Nat) : List Nat → List (Nat × Nat)
  | gap :: length :: rest =>
    (start + gap, start + gap + length - 1) :: rangesFrom (start + gap + length) rest
  | _ => []

def numbers (n : Nat) : List Char → List Nat
  | [] => [n]
  | ' ' :: cs => n :: numbers 0 cs
  | c :: cs => numbers (10 * n + (c.toNat - '0'.toNat)) cs

def readRanges (lines : List String) : List (Nat × Nat) :=
  rangesFrom 0 (lines.flatMap fun line => numbers 0 line.toList)

end PageConfig
