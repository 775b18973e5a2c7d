import PageConfig.Raw.Report
import PageConfig.Raw.Script
import PageConfig.Raw.Slim

/-!
# Processing raw documents

A raw document is cleaned, then examined and slimmed as the options say. Every
stage repairs the shape first, so each can be used on its own.
-/

set_option autoImplicit false

namespace PageConfig

structure ProcessOptions where
  validate : Bool := true
  optimize : Bool := false
  deriving DecidableEq, Repr

namespace ProcessOptions

def decode : Decoder ProcessOptions := fun v => Record.decode "PipelineOptions" 2 v fun r =>
  ProcessOptions.mk
    <$> r.withDefault 0 "validate" true Decode.bool
    <*> r.withDefault 1 "optimize" false Decode.bool

def toValue (o : ProcessOptions) : Value :=
  .ofFields [("validate", some (.bool o.validate)), ("optimize", some (.bool o.optimize))]

end ProcessOptions

structure Processed where
  document : Value
  report : Option Report

def Processed.toValue (p : Processed) : Value :=
  .ofFields [("document", some p.document), ("validation", p.report.map Report.toValue)]

namespace Value

def process (raw : Value) (options : ProcessOptions) : Processed :=
  let clean := raw.sanitize
  let report := if options.validate then some clean.validate else none
  let document := (report.map (·.repaired)).getD clean
  { document := if options.optimize then document.optimize else document
    report }

end Value

end PageConfig
