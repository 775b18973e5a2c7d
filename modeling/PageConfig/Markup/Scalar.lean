import PageConfig.Decimal.Reading
import PageConfig.Value.Parser

/-!
# Scalars of markup

What a plain scalar stands for: null, a truth value, a number or its own text.
A tag can ask for one of them.
-/

set_option autoImplicit false

namespace PageConfig.Markup

def isNullText (s : String) : Bool := ["null", "Null", "NULL", "~"].contains s

def bool? (s : String) : Option Bool :=
  if ["true", "True", "TRUE"].contains s then some true
  else if ["false", "False", "FALSE"].contains s then some false
  else none

def digits? (base : Nat) (cs : List Char) : Option Nat :=
  if cs.isEmpty then none
  else cs.foldlM (fun n c => do
    let d ← Value.Reader.hexValue? c
    if d < base then some (base * n + d) else none) 0

def magnitude? : List Char → Option Nat
  | '0' :: 'x' :: cs => digits? 16 cs
  | '0' :: 'o' :: cs => digits? 8 cs
  | '0' :: 'b' :: cs => digits? 2 cs
  | cs => digits? 10 cs

/-- Digits after a zero, with or without a sign: a text and no number. -/
def isPadded (s : String) : Bool :=
  match (splitSign s.toList).2 with
  | '0' :: cs => !cs.isEmpty && cs.all Char.isDigit
  | _ => false

def fits (bits : Nat) (negative : Bool) (n : Nat) : Bool :=
  if negative then n ≤ Nat.pow 2 (bits - 1) else n < Nat.pow 2 bits

/-- The text of a whole number. Numbers of more than 128 bits are no whole
numbers; those of more than 64 bits are, but there is no value for them. -/
def whole? (s : String) : Option (Option Value) := do
  if isPadded s then none
  let (negative, cs) := splitSign s.toList
  let n ← magnitude? cs
  if fits 64 negative n then some (some (.whole (if negative then -n else n)))
  else if fits 128 negative n then some none
  else none

/-- The text of a double. The infinities and the undefined number have names
of their own, but no value other than null. -/
def real? (s : String) : Option Value :=
  let cs := s.toList
  let unsigned := match cs with
    | '+' :: cs => cs
    | cs => cs
  if cs.head? = some '+' && unsigned.head?.any "+-".toList.contains then none
  else if [".inf", ".Inf", ".INF"].contains (String.ofList unsigned) ||
      ["-.inf", "-.Inf", "-.INF", ".nan", ".NaN", ".NAN"].contains s then
    some .null
  else match readReal? (String.ofList unsigned) with
    | some x => if x.isFinite then some (.real x) else none
    | none => none

def plainValue? (s : String) : Option Value :=
  if s.isEmpty || isNullText s then some .null
  else match bool? s, whole? s, real? s with
    | some b, _, _ => some (.bool b)
    | none, some w, _ => w
    | none, none, some r => if isPadded s then some (.text s) else some r
    | none, none, none => some (.text s)

def scalarValue? (tag : Option String) (plain : Bool) (s : String) : Option Value :=
  match tag with
  | none => if plain then plainValue? s else some (.text s)
  | some tag =>
    if tag.startsWith "!" then none
    else if tag = "tag:yaml.org,2002:bool" then (bool? s).map .bool
    else if tag = "tag:yaml.org,2002:int" then (whole? s).join
    else if tag = "tag:yaml.org,2002:float" then real? s
    else if tag = "tag:yaml.org,2002:null" then if isNullText s then some .null else none
    else some (.text s)

end PageConfig.Markup
