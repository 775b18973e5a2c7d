import PageConfig.Value.Path

/-!
# Templates

A text that is a path in double braces stands for what the context holds there.
-/

set_option autoImplicit false

namespace PageConfig

def templatePath? (s : String) : Option String :=
  match s.toList with
  | '\x7b' :: '\x7b' :: rest =>
    match rest.reverse with
    | '\x7d' :: '\x7d' :: inner => some (trim (String.ofList inner.reverse))
    | _ => none
  | _ => none

namespace Props

mutual

/-- Templates whose path is absent keep their text, and lists pass through. -/
def fillValue (context : Value) : Value → Value
  | .text s => ((templatePath? s).bind context.present?).getD (.text s)
  | .object fields => .object (fillFields context fields)
  | v => v

def fillFields (context : Value) : List (String × Value) → Table Value
  | [] => []
  | (k, v) :: fields => (k, fillValue context v) :: fillFields context fields

end

def fillTemplates (props : Props) (context : Value) : Props := fillFields context props

end Props

end PageConfig
