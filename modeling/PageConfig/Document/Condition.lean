import PageConfig.Decode.Scalar

/-!
# Conditions

A condition tests one field of the context. Nested conditions join its own
result through a connective, conjunction unless it says otherwise.
-/

set_option autoImplicit false

namespace PageConfig

/-- The tests of a field. Names that no test has are kept. -/
inductive Operator where
  | equals
  | contains
  | greaterThan
  | lessThan
  | isIn
  | exists
  | isMatch
  | unknown (name : String)
  deriving DecidableEq

namespace Operator

def name : Operator → String
  | equals => "equals"
  | contains => "contains"
  | greaterThan => "greaterThan"
  | lessThan => "lessThan"
  | isIn => "in"
  | .exists => "exists"
  | isMatch => "matches"
  | unknown name => name

def ofName (name : String) : Operator :=
  (([equals, contains, greaterThan, lessThan, isIn, .exists, isMatch] : List Operator).find?
    fun o => o.name = name).getD (unknown name)

def decode : Decoder Operator := fun v => (Decode.text v).map ofName

end Operator

inductive Connective where
  | and
  | or
  deriving DecidableEq

namespace Connective

def name : Connective → String
  | and => "and"
  | or => "or"

def decode : Decoder Connective :=
  Decode.choice ([and, or].map fun c => (c.name, c)) none

end Connective

structure Condition where
  field : String
  operator : Operator
  value : Value
  connective : Option Connective := none
  nested : List Condition := []

namespace Condition

def test (field : String) (operator : Operator) (value : Value) : Condition :=
  { field, operator, value }

def decode (v : Value) : Except DecodeError Condition :=
  Record.decode "Condition" 5 v fun r =>
    Condition.mk
      <$> r.withDefault 0 "field" "" Decode.text
      <*> r.required 1 "operator" Operator.decode
      <*> r.withDefault 2 "value" .null Decode.value
      <*> r.optional 3 "logicalOperator" Connective.decode
      <*> r.below 4 "nested" (pure []) fun
        | .null, _ => .ok []
        | w, _h => Decode.listBelow w fun u _hu => decode u
termination_by sizeOf v

mutual

def toValue : Condition → Value
  | .mk field operator value connective nested =>
    .ofFields [
      ("field", some (.text field)),
      ("operator", some (.text operator.name)),
      ("value", some value),
      ("logicalOperator", connective.map fun c => .text c.name),
      ("nested", if nested.isEmpty then none else some (.list (toValues nested)))]

def toValues : List Condition → List Value
  | [] => []
  | c :: cs => c.toValue :: toValues cs

end

end Condition

end PageConfig
