import PageConfig.Decimal.Reading
import PageConfig.Text.Blank
import PageConfig.Value.Printer

/-!
# Numeric and text readings, and equality

Comparison operators read values as numbers or as texts. `Value.same` is
equality of structure, in which `2` and `2.0` differ; `Value.equalTo` compares
two numbers by their value.
-/

set_option autoImplicit false

namespace PageConfig

def Number.same : Number → Number → Bool
  | .whole a, .whole b => a == b
  | .real a, .real b => a == b
  | _, _ => false

namespace Value

mutual

def same : Value → Value → Bool
  | .null, .null => true
  | .bool a, .bool b => a == b
  | .number a, .number b => a.same b
  | .text a, .text b => a == b
  | .list a, .list b => sameItems a b
  | .object a, .object b => sameFields a b
  | _, _ => false

def sameItems : List Value → List Value → Bool
  | [], [] => true
  | v :: a, w :: b => v.same w && sameItems a b
  | _, _ => false

def sameFields : List (String × Value) → List (String × Value) → Bool
  | [], [] => true
  | (k, v) :: a, (l, w) :: b => k == l && v.same w && sameFields a b
  | _, _ => false

end

/-- Equality in which two numbers are compared as doubles. -/
def equalTo : Value → Value → Bool
  | .number a, .number b => a.toReal == b.toReal
  | a, b => a.same b

/-- The numeric reading. Blank text reads as zero; lists and objects have none. -/
def toReal? (v : Value) : Option Float :=
  let reading := match v with
    | .number n => some n.toReal
    | .bool b => some (if b then 1.0 else 0.0)
    | .null => some 0.0
    | .text s => if (trim s).isEmpty then some 0.0 else readReal? (trim s)
    | .list _ | .object _ => none
  reading.filter (!·.isNaN)

def plainText : Value → String
  | .text s => s
  | v => v.render

end Value

end PageConfig
