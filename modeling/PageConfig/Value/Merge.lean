import PageConfig.Value.Basic

/-!
# Merging props

`mergeShallow` replaces field by field. `mergeDeep` descends where both sides
hold objects and replaces everywhere else.
-/

set_option autoImplicit false

namespace PageConfig

namespace Props

def mergeShallow (base overlay : Props) : Props :=
  overlay.foldl (fun t e => t.insert e.1 e.2) base

mutual

def mergeValue : Option Value → Value → Value
  | some (.object base), .object overlay => .object (mergeFields base overlay)
  | _, v => v

def mergeFields : Table Value → List (String × Value) → Table Value
  | base, [] => base
  | base, (k, v) :: overlay => mergeFields (base.insert k (mergeValue (base.get? k) v)) overlay

end

def mergeDeep (base overlay : Props) : Props := mergeFields base overlay

end Props

end PageConfig
