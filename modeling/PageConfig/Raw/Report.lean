import PageConfig.Decode.Scalar
import PageConfig.Raw.Shape
import PageConfig.Value.Coercion

/-!
# Reports on raw documents

Errors stand for missing structure, warnings for weak points; neither stops
the processing. The components are looked at in the order of a walk that
visits a node before its children.
-/

set_option autoImplicit false

namespace PageConfig

inductive ErrorCode where
  | missingId
  | missingComponents
  | missingLayout
  deriving DecidableEq, Repr

namespace ErrorCode

def name : ErrorCode → String
  | missingId => "MISSING_ID"
  | missingComponents => "MISSING_COMPONENTS"
  | missingLayout => "MISSING_LAYOUT"

def decode : Decoder ErrorCode :=
  Decode.choice ([missingId, missingComponents, missingLayout].map fun c => (c.name, c)) none

end ErrorCode

inductive Severity where
  | error
  | warning
  deriving DecidableEq, Repr

namespace Severity

def name : Severity → String
  | error => "error"
  | warning => "warning"

def decode : Decoder Severity := Decode.choice ([error, warning].map fun s => (s.name, s)) none

end Severity

structure ValidationError where
  field : String
  message : String
  severity : Severity := .error
  code : ErrorCode
  deriving DecidableEq, Repr

namespace ValidationError

def decode : Decoder ValidationError := fun v => Record.decode "ValidationError" 4 v fun r =>
  ValidationError.mk
    <$> r.required 0 "field" Decode.text
    <*> r.required 1 "message" Decode.text
    <*> r.required 2 "severity" Severity.decode
    <*> r.required 3 "code" ErrorCode.decode

def toValue (e : ValidationError) : Value :=
  .ofFields [
    ("field", some (.text e.field)),
    ("message", some (.text e.message)),
    ("severity", some (.text e.severity.name)),
    ("code", some (.text e.code.name))]

def describe (e : ValidationError) : String :=
  "[" ++ e.code.name ++ "] " ++ e.field ++ ": " ++ e.message

end ValidationError

structure ValidationWarning where
  field : String
  message : String
  suggestion : Option String := none
  deriving DecidableEq, Repr

namespace ValidationWarning

def decode : Decoder ValidationWarning := fun v => Record.decode "ValidationWarning" 3 v fun r =>
  ValidationWarning.mk
    <$> r.required 0 "field" Decode.text
    <*> r.required 1 "message" Decode.text
    <*> r.named 2 "suggestion" Decode.text

def toValue (w : ValidationWarning) : Value :=
  .ofFields [
    ("field", some (.text w.field)),
    ("message", some (.text w.message)),
    ("suggestion", w.suggestion.map .text)]

def describe (w : ValidationWarning) : String :=
  w.field ++ ": " ++ w.message ++ match w.suggestion with
    | some s => " (" ++ s ++ ")"
    | none => ""

end ValidationWarning

structure Findings where
  errors : List ValidationError := []
  warnings : List ValidationWarning := []
  deriving DecidableEq, Repr

namespace Findings

def isValid (f : Findings) : Bool := f.errors.isEmpty

def hasError (f : Findings) (code : ErrorCode) : Bool := f.errors.any (·.code = code)

end Findings

structure Report extends Findings where
  repaired : Value

namespace Report

def toValue (r : Report) : Value :=
  .ofFields [
    ("isValid", some (.bool r.isValid)),
    ("errors", some (.list (r.errors.map ValidationError.toValue))),
    ("warnings", some (.list (r.warnings.map ValidationWarning.toValue))),
    ("repairedDocument", some r.repaired)]

end Report

namespace Value

def childNodes (v : Value) : List Value :=
  match v.field? "children" with
  | some (.list items) => items
  | _ => []

theorem sizeOf_childNodes_le (v : Value) : sizeOf v.childNodes ≤ sizeOf v := by
  unfold childNodes
  split
  · rename_i items hitems
    have hfield := sizeOf_field? hitems
    simp only [list.sizeOf_spec] at hfield
    omega
  · cases v <;> simp +arith

theorem sizeOf_append (vs ws : List Value) : sizeOf (vs ++ ws) + 1 = sizeOf vs + sizeOf ws := by
  induction vs with
  | nil =>
    simp only [List.nil_append, List.nil.sizeOf_spec]
    omega
  | cons v vs ih =>
    simp only [List.cons_append, List.cons.sizeOf_spec]
    omega

/-- The nodes that a walk comes to. It takes the first of the pending nodes, and the
children of that node go in front of the others. -/
@[semireducible]
def walk : List Value → List Value
  | [] => []
  | v :: pending => v :: walk (v.childNodes ++ pending)
termination_by pending => sizeOf pending
decreasing_by
  have hchildren := sizeOf_childNodes_le v
  have happend := sizeOf_append v.childNodes pending
  simp only [List.cons.sizeOf_spec]
  omega

/-- A field counts as set unless it is null, false, zero or empty text. -/
def isSet : Value → Bool
  | .null => false
  | .bool b => b
  | .number n => n.toReal != 0.0
  | .text s => !s.isEmpty
  | .list _ | .object _ => true

def idText (v : Value) : String :=
  match v.field? "id" with
  | none | some .null => ""
  | some id => id.plainText

def hasType (v : Value) : Bool :=
  match v.field? "type" with
  | some (.text s) => !s.isEmpty
  | _ => false

def nodeWarnings : List String → List Value → List ValidationWarning
  | _, [] => []
  | seen, v :: nodes =>
    let id := v.idText
    let repeated : List ValidationWarning :=
      if !id.isEmpty && seen.contains id then
        [⟨"components", "Duplicate component id '" ++ id ++ "'",
          some "Give every component a unique id"⟩]
      else []
    let untyped : List ValidationWarning :=
      if v.hasType then []
      else
        [⟨"components", "Component '" ++ id ++ "' has no type and will not render",
          some "Set type to a registered component name"⟩]
    repeated ++ untyped ++ nodeWarnings (id :: seen) nodes

def examine (document : Value) : Report where
  errors :=
    (if (document.field? "id").any isSet then []
      else [{ field := "id", message := "Config must have an id", code := .missingId }]) ++
    (if (document.field? "components").any (·.asList?.isSome) then []
      else [{ field := "components", message := "Config must have a components array"
              code := .missingComponents }]) ++
    (if (document.field? "layout").any (·.asObject?.isSome) then []
      else [{ field := "layout", message := "Config must have a layout configuration"
              code := .missingLayout }])
  warnings :=
    (if (document.field? "version").any isSet then []
      else [⟨"version", "Config should have a version for better tracking",
        some "Add a version field like \"1.0.0\""⟩]) ++
    match document.field? "components" with
    | some (.list nodes) => nodeWarnings [] (walk nodes)
    | _ => []
  repaired := document

def validate (document : Value) : Report := document.repair.examine

end Value

end PageConfig
