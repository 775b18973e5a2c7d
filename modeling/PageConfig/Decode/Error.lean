import PageConfig.Text.Class
import PageConfig.Value.Printer

/-!
# Decoding failures

Why a value is not of the type that a place asks for, and the wording of each
reason. What was found is told apart by kind only for lists and objects.
-/

set_option autoImplicit false

namespace PageConfig

inductive Found where
  | null
  | bool (b : Bool)
  | whole (n : Int)
  | real (x : Float)
  | text (s : String)
  | list
  | object

def Value.found : Value → Found
  | .null => .null
  | .bool b => .bool b
  | .number (.whole n) => .whole n
  | .number (.real x) => .real x
  | .text s => .text s
  | .list _ => .list
  | .object _ => .object

inductive Wanted where
  | text
  | bool
  | whole (kind : String)
  | real
  | list
  | table
  | record (name : String)
  | choice
  | nothing
  deriving DecidableEq

inductive DecodeError where
  | wrongType (found : Found) (wanted : Wanted)
  | outOfRange (n : Int) (wanted : Wanted)
  | missingField (name : String)
  | unknownName (name : String) (known : List String)
  | notSingleKey
  | tooShort (length : Nat) (record : String) (fields : Nat)
  | tooLong (length : Nat)

def hexDigits (n : Nat) : String := String.ofList (Nat.toDigits 16 n)

def shownChar (c : Char) : String :=
  match c with
  | '"' => "\\\""
  | '\\' => "\\\\"
  | '\n' => "\\n"
  | '\r' => "\\r"
  | '\t' => "\\t"
  | '\x00' => "\\0"
  | c => if isPrintable c then c.toString else "\\u\x7b" ++ hexDigits c.toNat ++ "\x7d"

def shownText (s : String) : String :=
  "\"" ++ String.join (s.toList.map shownChar) ++ "\""

def ticked (s : String) : String := "`" ++ s ++ "`"

def Found.describe : Found → String
  | .null => "null"
  | .bool b => "boolean " ++ ticked (if b then "true" else "false")
  | .whole n => "integer " ++ ticked (toString n)
  | .real x => "floating point " ++ ticked (realText x)
  | .text s => "string " ++ shownText s
  | .list => "sequence"
  | .object => "map"

def Wanted.describe : Wanted → String
  | .text => "a string"
  | .bool => "a boolean"
  | .whole kind => kind
  | .real => "f64"
  | .list => "a sequence"
  | .table => "a map"
  | .record name => "struct " ++ name
  | .choice => "string or map"
  | .nothing => "unit"

def knownNames : List String → String
  | [a] => "expected " ++ ticked a
  | [a, b] => "expected " ++ ticked a ++ " or " ++ ticked b
  | names => "expected one of " ++ String.intercalate ", " (names.map ticked)

def DecodeError.message : DecodeError → String
  | .wrongType found wanted =>
    "invalid type: " ++ found.describe ++ ", expected " ++ wanted.describe
  | .outOfRange n wanted =>
    "invalid value: integer " ++ ticked (toString n) ++ ", expected " ++ wanted.describe
  | .missingField name => "missing field " ++ ticked name
  | .unknownName name known => "unknown variant " ++ ticked name ++ ", " ++ knownNames known
  | .notSingleKey => "invalid value: map, expected map with a single key"
  | .tooShort length record fields =>
    "invalid length " ++ toString length ++ ", expected struct " ++ record ++ " with " ++
      toString fields ++ " elements"
  | .tooLong length =>
    "invalid length " ++ toString length ++ ", expected fewer elements in array"

end PageConfig
