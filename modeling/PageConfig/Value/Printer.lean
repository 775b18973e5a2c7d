import PageConfig.Decimal.Shortest
import PageConfig.Value.Basic

/-!
# Values as text

The compact text of a value. Doubles always show a point or an exponent, so
that the text keeps whole numbers and doubles apart.
-/

set_option autoImplicit false

namespace PageConfig

def zeros (n : Nat) : String := String.ofList (List.replicate n '0')

/-- Positional while the leading digit stands for `10 ^ -5` to `10 ^ 15`,
otherwise one digit before the point and a bare exponent. -/
def Decimal.layout (d : Decimal) : String :=
  let digits := (toString d.digits).toList
  let point : Int := digits.length + d.exponent
  if 0 ≤ d.exponent && point ≤ 16 then
    String.ofList digits ++ zeros d.exponent.toNat ++ ".0"
  else if 0 < point && point ≤ 16 then
    String.ofList (digits.take point.toNat) ++ "." ++ String.ofList (digits.drop point.toNat)
  else if -5 < point && point ≤ 0 then
    "0." ++ zeros (-point).toNat ++ String.ofList digits
  else
    let fraction := if digits.length = 1 then "" else "." ++ String.ofList (digits.drop 1)
    String.ofList (digits.take 1) ++ fraction ++ "e" ++ toString (point - 1)

/-- The fewest digits that read back. A double that is no number is `null`. -/
def realText (x : Float) : String :=
  if x.isNaN || x.isInf then "null"
  else
    let magnitude := Dyadic.ofBits x.toBits
    let sign := if x.toBits >>> 63 = 1 then "-" else ""
    sign ++ if magnitude.mantissa = 0 then "0.0" else magnitude.shortest.layout

def Number.render : Number → String
  | .whole n => toString n
  | .real x => realText x

def hexDigit (n : Nat) : Char :=
  if n < 10 then Char.ofNat ('0'.toNat + n) else Char.ofNat ('a'.toNat + (n - 10))

def escapeChar (c : Char) : List Char :=
  match c with
  | '"' => ['\\', '"']
  | '\\' => ['\\', '\\']
  | '\n' => ['\\', 'n']
  | '\r' => ['\\', 'r']
  | '\t' => ['\\', 't']
  | '\x08' => ['\\', 'b']
  | '\x0c' => ['\\', 'f']
  | c =>
    if c.toNat < 0x20 then ['\\', 'u', '0', '0', hexDigit (c.toNat / 16), hexDigit (c.toNat % 16)]
    else [c]

def quoted (s : String) : String :=
  String.ofList ('"' :: s.toList.flatMap escapeChar ++ ['"'])

namespace Value

mutual

def render : Value → String
  | .null => "null"
  | .bool b => if b then "true" else "false"
  | .number n => n.render
  | .text s => quoted s
  | .list items => "[" ++ renderItems items ++ "]"
  | .object fields => "\x7b" ++ renderFields fields ++ "\x7d"

def renderItems : List Value → String
  | [] => ""
  | [v] => v.render
  | v :: items => v.render ++ "," ++ renderItems items

def renderFields : List (String × Value) → String
  | [] => ""
  | [(k, v)] => quoted k ++ ":" ++ v.render
  | (k, v) :: fields => quoted k ++ ":" ++ v.render ++ "," ++ renderFields fields

end

end Value

end PageConfig
