import PageConfig.Decode.Error

/-!
# Decoding records

A record is written as an object, field by name, or as a list, field by
position. Every field is decoded on its own, and of several faults one is
reported: inside an object the one at the least key, before any missing field;
otherwise the one whose field is declared first. A field's decoder may recurse,
since the values it sees are smaller than the record.
-/

set_option autoImplicit false

namespace PageConfig

abbrev Decoder (α : Type) := Value → Except DecodeError α

/-- Where a fault lies. -/
inductive Site where
  | key (name : String)
  | position (i : Nat)
  deriving DecidableEq

def Site.before : Site → Site → Bool
  | .key a, .key b => a < b
  | .key _, .position _ => true
  | .position _, .key _ => false
  | .position i, .position j => i < j

/-- The fields read so far, or the fault that is reported among theirs. -/
def Attempt (α : Type) := Except (Site × DecodeError) α

namespace Attempt

variable {α β : Type}

def both (f : Attempt (α → β)) (a : Attempt α) : Attempt β :=
  match f, a with
  | .ok f, .ok a => .ok (f a)
  | .error e, .ok _ => .error e
  | .ok _, .error e => .error e
  | .error e, .error d => if d.1.before e.1 then .error d else .error e

instance : Applicative Attempt where
  pure a := .ok a
  seq f a := both f (a ())

def result : Attempt α → Except DecodeError α
  | .ok a => .ok a
  | .error e => .error e.2

end Attempt

/-- The value `v` read as a record with `arity` fields. -/
structure Record (v : Value) where
  name : String
  arity : Nat

namespace Record

variable {α : Type} {v : Value}

def field? (_ : Record v) (i : Nat) (key : String) : Option Value :=
  match v with
  | .object fields => Table.get? fields key
  | .list items => items[i]?
  | _ => none

theorem sizeOf_field? {r : Record v} {i : Nat} {key : String} {w : Value}
    (h : r.field? i key = some w) : sizeOf w < sizeOf v := by
  cases v with
  | object fields => exact Value.sizeOf_field? (v := .object fields) h
  | list items =>
    have := List.sizeOf_lt_of_mem (List.mem_of_getElem? h)
    simp only [Value.list.sizeOf_spec]
    omega
  | _ => simp [field?] at h

def site (_ : Record v) (i : Nat) (key : String) : Site :=
  match v with
  | .object _ => .key key
  | _ => .position i

def below (r : Record v) (i : Nat) (key : String) (absent : Attempt α)
    (decode : (w : Value) → sizeOf w < sizeOf v → Except DecodeError α) : Attempt α :=
  match h : r.field? i key with
  | none => absent
  | some w =>
    match decode w (sizeOf_field? h) with
    | .ok a => .ok a
    | .error e => .error (r.site i key, e)

def required (r : Record v) (i : Nat) (key : String) (decode : Decoder α) : Attempt α :=
  let absent : DecodeError := match v with
    | .object _ => .missingField key
    | _ => .tooShort i r.name r.arity
  r.below i key (.error (.position i, absent)) fun w _ => decode w

def withDefault (r : Record v) (i : Nat) (key : String) (default : α) (decode : Decoder α) :
    Attempt α :=
  r.below i key (.ok default) fun w _ => decode w

def optional (r : Record v) (i : Nat) (key : String) (decode : Decoder α) : Attempt (Option α) :=
  r.withDefault i key none fun
    | .null => .ok none
    | w => (decode w).map some

/-- A field that may be absent from an object, though not from a list, or null. -/
def named (r : Record v) (i : Nat) (key : String) (decode : Decoder α) : Attempt (Option α) :=
  match v with
  | .list _ => r.required i key fun
    | .null => .ok none
    | w => (decode w).map some
  | _ => r.optional i key decode

def nullDefault (r : Record v) (i : Nat) (key : String) (default : α) (decode : Decoder α) :
    Attempt α :=
  r.withDefault i key default fun
    | .null => .ok default
    | w => decode w

def decode (name : String) (arity : Nat) (v : Value) (read : Record v → Attempt α) :
    Except DecodeError α :=
  match v.found with
  | .object => (read ⟨name, arity⟩).result
  | .list => do
    let a ← (read ⟨name, arity⟩).result
    let length := (v.asList?.getD []).length
    if arity < length then .error (.tooLong length) else .ok a
  | found => .error (.wrongType found (.record name))

/-- Decodes a record that keeps the fields it does not know, so that only an
object will do. -/
def decodeOpen (name : String) (v : Value) (known : List String)
    (read : Record v → Props → Attempt α) : Except DecodeError α :=
  match v.asObject? with
  | some fields =>
    (read ⟨name, known.length⟩ (fields.filter fun e => !known.contains e.1)).result
  | none => .error (.wrongType v.found (.record name))

end Record

end PageConfig
