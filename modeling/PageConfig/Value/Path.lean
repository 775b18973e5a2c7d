import PageConfig.Decimal.Reading
import PageConfig.Text.Blank
import PageConfig.Value.Basic

/-!
# Paths

A dotted path addresses a place inside a value: a segment names a field of an
object or, written in digits, an element of a list.
-/

set_option autoImplicit false

namespace PageConfig

def splitDots : List Char → List (List Char)
  | [] => [[]]
  | c :: cs =>
    if c = '.' then [] :: splitDots cs
    else match splitDots cs with
      | [] => [[c]]
      | piece :: pieces => (c :: piece) :: pieces

theorem splitDots_ne_nil (cs : List Char) : splitDots cs ≠ [] := by
  cases cs with
  | nil => simp [splitDots]
  | cons c cs =>
    unfold splitDots
    split
    · simp
    · split <;> simp

theorem splitDots_append (p q : List Char) :
    splitDots (p ++ '.' :: q) = splitDots p ++ splitDots q := by
  induction p with
  | nil => simp [splitDots]
  | cons c p ih =>
    by_cases h : c = '.'
    · simp [splitDots, h, ih]
    · obtain ⟨piece, pieces, hp⟩ := List.exists_cons_of_ne_nil (splitDots_ne_nil p)
      simp [splitDots, h, ih, hp]

/-- The segments of a path, blanks around it set aside. A blank path has none
and addresses nothing. -/
def segments (path : String) : List String :=
  match trimBlanks path.toList with
  | [] => []
  | cs => (splitDots cs).map String.ofList

/-- The index that a segment writes: digits with an optional plus, below `2 ^ 64`. -/
def index? (segment : String) : Option Nat :=
  let digits := match segment.toList with
    | '+' :: cs => cs
    | cs => cs
  let n := digitsValue digits
  if digits.isEmpty || !digits.all Char.isDigit || Nat.pow 2 64 ≤ n then none else some n

namespace Value

def step? : Value → String → Option Value
  | .object fields, segment => Table.get? fields segment
  | .list items, segment => (index? segment).bind (items[·]?)
  | _, _ => none

def follow? : Value → List String → Option Value
  | v, [] => some v
  | v, segment :: rest => (v.step? segment).bind (follow? · rest)

theorem follow?_append (v : Value) (p q : List String) :
    v.follow? (p ++ q) = (v.follow? p).bind (follow? · q) := by
  induction p generalizing v with
  | nil => rfl
  | cons segment p ih =>
    cases h : v.step? segment with
    | none => simp [follow?, h]
    | some w => simp [follow?, h, ih]

def lookup? (root : Value) (path : String) : Option Value :=
  match segments path with
  | [] => none
  | s => root.follow? s

def isNull : Value → Bool
  | .null => true
  | _ => false

def present? (root : Value) (path : String) : Option Value :=
  (root.lookup? path).filter (!·.isNull)

end Value

end PageConfig
