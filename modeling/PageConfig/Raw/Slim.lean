import PageConfig.Raw.Shape

/-!
# Slim documents

A slim node keeps what rendering needs: its id, type, props and order, and its
children and conditions unless they are empty.
-/

set_option autoImplicit false

namespace PageConfig.Value

mutual

/-- The node without what rendering can do without, at every depth. -/
def slimNode : Value → Value
  | .object fields =>
    .ofFields [
      ("id", Table.get? fields "id"),
      ("type", Table.get? fields "type"),
      ("props", some (match Table.get? fields "props" with
        | some (.object props) => .object props
        | _ => .object [])),
      ("order", Table.get? fields "order"),
      ("children", match slimChildren fields with
        | [] => none
        | children => some (.list children)),
      ("conditions", match Table.get? fields "conditions" with
        | some (.list (c :: cs)) => some (.list (c :: cs))
        | _ => none)]
  | v => v

def slimChildren : List (String × Value) → List Value
  | [] => []
  | (k, .list items) :: fields =>
    if k = "children" then slimNodes items else slimChildren fields
  | (k, _) :: fields => if k = "children" then [] else slimChildren fields

def slimNodes : List Value → List Value
  | [] => []
  | v :: items => v.slimNode :: slimNodes items

end

/-- The components of a slim document; what is no list becomes an empty one. -/
def slimComponents : Value → Value
  | .list nodes => .list (slimNodes nodes)
  | .null => .null
  | _ => .list []

def optimize (document : Value) : Value :=
  match document.repair with
  | .object fields =>
    match Table.get? fields "components" with
    | some components => .object (Table.insert fields "components" (slimComponents components))
    | none => .object fields
  | v => v

end PageConfig.Value
