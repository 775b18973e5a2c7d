import PageConfig.Decode.Record

/-!
# Decoding single values

The decoders for texts, numbers, lists, tables and choices among names.
-/

set_option autoImplicit false

namespace PageConfig

inductive IntegerKind where
  | signed32
  | unsigned32
  | signed64
  | unsigned64
  | size

namespace IntegerKind

def name : IntegerKind → String
  | signed32 => "i32"
  | unsigned32 => "u32"
  | signed64 => "i64"
  | unsigned64 => "u64"
  | size => "usize"

def least : IntegerKind → Int
  | signed32 => -2147483648
  | signed64 => -9223372036854775808
  | _ => 0

def greatest : IntegerKind → Int
  | signed32 => 2147483647
  | unsigned32 => 4294967295
  | signed64 => 9223372036854775807
  | unsigned64 | size => 18446744073709551615

end IntegerKind

namespace Decode

variable {α : Type}

def value : Decoder Value := .ok

def text : Decoder String
  | .text s => .ok s
  | v => .error (.wrongType v.found .text)

def bool : Decoder Bool
  | .bool b => .ok b
  | v => .error (.wrongType v.found .bool)

def integer (kind : IntegerKind) : Decoder Int
  | .number (.whole n) =>
    if kind.least ≤ n && n ≤ kind.greatest then .ok n
    else .error (.outOfRange n (.whole kind.name))
  | v => .error (.wrongType v.found (.whole kind.name))

def natural (kind : IntegerKind) : Decoder Nat := fun v => (integer kind v).map Int.toNat

def real : Decoder Float
  | .number n => .ok n.toReal
  | v => .error (.wrongType v.found .real)

def table : Decoder Props
  | .object fields => .ok fields
  | v => .error (.wrongType v.found .table)

def listBelow (v : Value) (decode : (w : Value) → sizeOf w < sizeOf v → Except DecodeError α) :
    Except DecodeError (List α) :=
  match v with
  | .list items =>
    items.attach.mapM fun ⟨w, h⟩ => decode w (by
      have := List.sizeOf_lt_of_mem h
      simp only [Value.list.sizeOf_spec]
      omega)
  | v => .error (.wrongType v.found .list)

def list (decode : Decoder α) : Decoder (List α)
  | .list items => items.mapM decode
  | v => .error (.wrongType v.found .list)

/-- A scalar's text; null has none. Lists and objects give their compact form. -/
def scalarText : Decoder (Option String)
  | .null => .ok none
  | .text s => .ok (some s)
  | v => .ok (some v.render)

/-- A name from a list of choices, alone or as the one key of an object that
holds null. `other?` is what unknown names stand for, if anything. -/
def choice (names : List (String × α)) (other? : Option α) : Decoder α
  | .text s => find s
  | .object [(k, v)] => do
    let a ← find k
    match v with
    | .null => .ok a
    | v => .error (.wrongType v.found .nothing)
  | .object _ => .error .notSingleKey
  | v => .error (.wrongType v.found .choice)
where
  find (s : String) : Except DecodeError α :=
    match (names.lookup s).orElse fun _ => other? with
    | some a => .ok a
    | none => .error (.unknownName s (names.map Prod.fst))

end Decode

end PageConfig
