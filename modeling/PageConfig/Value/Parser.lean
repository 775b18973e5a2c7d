import PageConfig.Decimal.Reading
import PageConfig.Value.Basic

/-!
# Reading values

A strict recursive-descent reader for value texts. Each step returns what is
left of the text with a proof that it is shorter, or not longer, which is what
makes the reader total.
-/

set_option autoImplicit false

namespace PageConfig

abbrev Shorter (α : Type) (s : List Char) := Option (α × { r : List Char // r.length < s.length })

namespace Value.Reader

def depthLimit : Nat := 127

def isSpace (c : Char) : Bool := c = ' ' || c = '\n' || c = '\t' || c = '\r'

def skipSpace (s : List Char) : { r : List Char // r.length ≤ s.length } :=
  ⟨s.dropWhile isSpace, (List.dropWhile_suffix isSpace).length_le⟩

def hexValue? (c : Char) : Option Nat :=
  if '0' ≤ c && c ≤ '9' then some (c.toNat - '0'.toNat)
  else if 'a' ≤ c && c ≤ 'f' then some (c.toNat - 'a'.toNat + 10)
  else if 'A' ≤ c && c ≤ 'F' then some (c.toNat - 'A'.toNat + 10)
  else none

def hexRun? (cs : List Char) : Option Nat :=
  cs.foldlM (fun n c => (hexValue? c).map (16 * n + ·)) 0

def unit? : List Char → Option (Nat × List Char)
  | a :: b :: c :: d :: r => (hexRun? [a, b, c, d]).map (·, r)
  | _ => none

def escape? : List Char → Option (Char × List Char)
  | '"' :: r => some ('"', r)
  | '\\' :: r => some ('\\', r)
  | '/' :: r => some ('/', r)
  | 'b' :: r => some ('\x08', r)
  | 'f' :: r => some ('\x0c', r)
  | 'n' :: r => some ('\n', r)
  | 'r' :: r => some ('\r', r)
  | 't' :: r => some ('\t', r)
  | 'u' :: r => do
    let (high, r) ← unit? r
    if 0xd800 ≤ high && high < 0xdc00 then
      match r with
      | '\\' :: 'u' :: r =>
        let (low, r) ← unit? r
        if 0xdc00 ≤ low && low < 0xe000 then
          some (Char.ofNat (0x10000 + (high - 0xd800) * 0x400 + (low - 0xdc00)), r)
        else none
      | _ => none
    else if 0xdc00 ≤ high && high < 0xe000 then none
    else some (Char.ofNat high, r)
  | _ => none

/-- The rest of a text after its opening quote. The fuel is the length of
what is left, of which every step takes a character. -/
def textBody? : Nat → List Char → List Char → Option (String × List Char)
  | 0, _, _ => none
  | _ + 1, _, [] => none
  | fuel + 1, done, c :: r =>
    if c = '"' then some (String.ofList done.reverse, r)
    else if c = '\\' then
      match escape? r with
      | some (c, r) => textBody? fuel (c :: done) r
      | none => none
    else if c.toNat < 0x20 then none
    else textBody? fuel (c :: done) r

def gather : Nat → List Char → Nat × Nat
  | n, [] => (n, 0)
  | n, c :: cs =>
    let m := 10 * n + (c.toNat - '0'.toNat)
    if m < Nat.pow 2 64 then gather m cs else (n, cs.length + 1)

/-- A number token with neither fraction nor exponent is whole if it fits 64
bits. Minus zero and everything else is a double. -/
def number? (negative : Bool) (whole : List Char) (fraction : Option (List Char))
    (exponent : Option Int) : Option Number :=
  let (n, beyond) := gather 0 whole
  let signed (x : Float) : Number := .real (if negative then -x else x)
  match fraction, exponent with
  | none, none =>
    if beyond = 0 then
      if !negative then some (.whole n)
      else if 0 < n && n ≤ Nat.pow 2 63 then some (.whole (-n))
      else some (signed (Float.ofNat n))
    else (Decimal.scaled ⟨n, beyond⟩).map signed
  | fraction, exponent =>
    let (m, dropped) := gather n (fraction.getD [])
    let taken := (fraction.getD []).length - dropped
    (Decimal.scaled ⟨m, beyond - taken + exponent.getD 0⟩).map signed

def magnitude? (negative : Bool) (s : List Char) : Option (Number × List Char) := do
  let whole := s.takeWhile Char.isDigit
  let r := s.dropWhile Char.isDigit
  if whole.isEmpty || (whole.head? = some '0' && whole.length > 1) then none
  let (fraction, r) ← match r with
    | '.' :: r =>
      let ds := r.takeWhile Char.isDigit
      if ds.isEmpty then none else some (some ds, r.dropWhile Char.isDigit)
    | r => some (none, r)
  let (exponent, r) ← match r with
    | [] => some (none, r)
    | c :: t =>
      if c = 'e' || c = 'E' then
        let (down, t) := splitSign t
        let ds := t.takeWhile Char.isDigit
        if ds.isEmpty then none
        else
          let e : Int := digitsValue ds
          some (some (if down then -e else e), t.dropWhile Char.isDigit)
      else some (none, r)
  let n ← number? negative whole fraction exponent
  return (n, r)

def scalar? : List Char → Option (Value × List Char)
  | '"' :: r => (textBody? (r.length + 1) [] r).map fun (s, r) => (.text s, r)
  | 'n' :: 'u' :: 'l' :: 'l' :: r => some (.null, r)
  | 't' :: 'r' :: 'u' :: 'e' :: r => some (.bool true, r)
  | 'f' :: 'a' :: 'l' :: 's' :: 'e' :: r => some (.bool false, r)
  | '-' :: r => (magnitude? true r).map fun (n, r) => (.number n, r)
  | r => (magnitude? false r).map fun (n, r) => (.number n, r)

def shorter? {α : Type} (s : List Char) (result : Option (α × List Char)) : Shorter α s :=
  result.bind fun (a, r) => if h : r.length < s.length then some (a, ⟨r, h⟩) else none

theorem length_lt_of_skipSpace {s r : List Char} {d : Char} (h : (skipSpace s).val = d :: r) :
    r.length < s.length := by
  have := (skipSpace s).property
  rw [h, List.length_cons] at this
  omega

def expect? (c : Char) (s : List Char) : Option { r : List Char // r.length < s.length } :=
  match h : (skipSpace s).val with
  | [] => none
  | d :: r =>
    if c = d then
      some ⟨r, length_lt_of_skipSpace h⟩
    else none

def key? (s : List Char) : Shorter String s :=
  match expect? '"' s with
  | none => none
  | some ⟨r, h⟩ =>
    (shorter? r (textBody? (r.length + 1) [] r)).map fun (k, ⟨t, ht⟩) => (k, ⟨t, by omega⟩)

mutual

/-- The value at the start of a text, with `depth` containers still allowed. -/
def value? (depth : Nat) (s : List Char) : Shorter Value s :=
  match expect? '[' s, expect? '\x7b' s, depth with
  | some ⟨r, h⟩, _, depth + 1 =>
    match expect? ']' r with
    | some ⟨t, ht⟩ => some (.list [], ⟨t, by omega⟩)
    | none => (items? depth [] r).map fun (vs, ⟨t, ht⟩) => (.list vs, ⟨t, by omega⟩)
  | none, some ⟨r, h⟩, depth + 1 =>
    match expect? '\x7d' r with
    | some ⟨t, ht⟩ => some (.object [], ⟨t, by omega⟩)
    | none => (fields? depth [] r).map fun (fs, ⟨t, ht⟩) => (.object fs, ⟨t, by omega⟩)
  | none, none, _ =>
    match skipSpace s with
    | ⟨r, h⟩ => (shorter? r (scalar? r)).map fun (v, ⟨t, ht⟩) => (v, ⟨t, by omega⟩)
  | _, _, 0 => none
termination_by (s.length, 0)

def items? (depth : Nat) (done : List Value) (s : List Char) : Shorter (List Value) s :=
  match value? depth s with
  | none => none
  | some (v, ⟨r, h⟩) =>
    match expect? ',' r with
    | some ⟨t, ht⟩ => (items? depth (v :: done) t).map fun (vs, ⟨u, hu⟩) => (vs, ⟨u, by omega⟩)
    | none => (expect? ']' r).map fun ⟨t, ht⟩ => ((v :: done).reverse, ⟨t, by omega⟩)
termination_by (s.length, 1)

def fields? (depth : Nat) (done : Table Value) (s : List Char) : Shorter (Table Value) s :=
  match key? s with
  | none => none
  | some (k, ⟨r, h⟩) =>
    match expect? ':' r with
    | none => none
    | some ⟨t, ht⟩ =>
      match value? depth t with
      | none => none
      | some (v, ⟨u, hu⟩) =>
        let table := done.insert k v
        match expect? ',' u with
        | some ⟨w, hw⟩ =>
          (fields? depth table w).map fun (fs, ⟨x, hx⟩) => (fs, ⟨x, by omega⟩)
        | none => (expect? '\x7d' u).map fun ⟨w, hw⟩ => (table, ⟨w, by omega⟩)
termination_by (s.length, 1)

end

end Value.Reader

def Value.parse? (s : String) : Option Value :=
  match Value.Reader.value? Value.Reader.depthLimit s.toList with
  | some (v, ⟨r, _⟩) => if r.all Value.Reader.isSpace then some v else none
  | none => none

end PageConfig
