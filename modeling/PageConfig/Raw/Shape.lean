import PageConfig.Value.Basic

/-!
# Lists written as objects

Some transports write a list as an object with the keys `"0"`, `"1"` and so
on. Any object with exactly those keys is taken for a list, at every depth; a
genuine object of that shape cannot be told apart.
-/

set_option autoImplicit false

namespace PageConfig

/-- The values in index order, if the keys are exactly the indices of a list
that is not empty. -/
def indexed? (fields : Table Value) : Option (List Value) :=
  if fields.isEmpty then none
  else (List.range fields.length).mapM fun i => fields.get? (toString i)

namespace Value

mutual

def repair : Value → Value
  | .list items => .list (repairItems items)
  | .object fields =>
    let fields := repairFields fields
    match indexed? fields with
    | some items => .list items
    | none => .object fields
  | v => v

def repairItems : List Value → List Value
  | [] => []
  | v :: items => v.repair :: repairItems items

def repairFields : List (String × Value) → Table Value
  | [] => []
  | (k, v) :: fields => (k, v.repair) :: repairFields fields

end

end Value

end PageConfig
