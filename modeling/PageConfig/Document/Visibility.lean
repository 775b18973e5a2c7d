import PageConfig.Document.Condition
import PageConfig.Pattern.Meaning
import PageConfig.Text.Occurrence
import PageConfig.Value.Coercion
import PageConfig.Value.Path

/-!
# Visibility

When conditions hold in a context. An operator without a test holds, so that a
condition this library does not know never hides anything.
-/

set_option autoImplicit false

namespace PageConfig

def compareReals (holds : Float → Float → Bool) (actual : Option Value) (expected : Value) : Bool :=
  match actual.bind Value.toReal?, expected.toReal? with
  | some a, some b => holds a b
  | _, _ => false

namespace Operator

def test (o : Operator) (actual : Option Value) (expected : Value) : Bool :=
  match o with
  | equals => actual.any (·.equalTo expected)
  | contains =>
    match actual with
    | some (.list items) => items.any (·.equalTo expected)
    | some (.text s) => occurs expected.plainText.toList s.toList
    | _ => false
  | greaterThan => compareReals (fun a b => a > b) actual expected
  | lessThan => compareReals (fun a b => a < b) actual expected
  | isIn =>
    match expected, actual with
    | .list items, some v => items.any (·.equalTo v)
    | _, _ => false
  | .exists => actual.isSome
  | isMatch =>
    match actual, expected with
    | some v, .text s => (Pattern.ofText? s).any fun p => p.occursIn v.plainText
    | _, _ => false
  | unknown _ => true

end Operator

namespace Condition

/-- The condition's own result, without its nested conditions. -/
def holdsAlone (context : Value) (field : String) (o : Operator) (value : Value) : Bool :=
  o.test (context.present? field) value

mutual

def holds (context : Value) : Condition → Bool
  | .mk field operator value connective nested =>
    let own := holdsAlone context field operator value
    if nested.isEmpty then own
    else match connective.getD .and with
      | .and => own && allHold context nested
      | .or => own || anyHolds context nested

def allHold (context : Value) : List Condition → Bool
  | [] => true
  | c :: cs => c.holds context && allHold context cs

def anyHolds (context : Value) : List Condition → Bool
  | [] => false
  | c :: cs => c.holds context || anyHolds context cs

end

theorem allHold_eq_all (context : Value) (cs : List Condition) :
    allHold context cs = cs.all (·.holds context) := by
  induction cs with
  | nil => rfl
  | cons c cs ih => simp [allHold, ih]

end Condition

end PageConfig
