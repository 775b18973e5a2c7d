/-!
# Occurrences

Whether one text stands somewhere inside another.
-/

set_option autoImplicit false

namespace PageConfig

def occurs (needle : List Char) : List Char → Bool
  | [] => needle.isEmpty
  | c :: cs => needle.isPrefixOf (c :: cs) || occurs needle cs

end PageConfig
