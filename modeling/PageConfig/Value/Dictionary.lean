import PageConfig.Value.Canonical

/-!
# Dictionaries

A table together with the order of its keys. What is kept by type or by id is kept in a
dictionary, so nothing about the order is left to those who use it. Objects inside of
values are plain tables: a value cannot carry a property of values, which is what
`Value.Canonical` is for.
-/

set_option autoImplicit false

namespace PageConfig

structure Dictionary (α : Type) where
  table : Table α
  ascending : table.Ascending := by decide

namespace Dictionary

variable {α β : Type}

instance : EmptyCollection (Dictionary α) := ⟨⟨[], .nil⟩⟩

def get? (d : Dictionary α) (key : String) : Option α := d.table.get? key

def has (d : Dictionary α) (key : String) : Bool := (d.get? key).isSome

def size (d : Dictionary α) : Nat := d.table.length

def insert (d : Dictionary α) (key : String) (v : α) : Dictionary α where
  table := d.table.insert key v
  ascending := Table.ascending_insert d.ascending key v

def erase (d : Dictionary α) (key : String) : Dictionary α where
  table := d.table.erase key
  ascending := Table.ascending_erase d.ascending key

def mapValues (f : α → β) (d : Dictionary α) : Dictionary β where
  table := d.table.mapValues f
  ascending := Table.ascending_mapValues d.ascending f

@[simp] theorem get?_empty (key : String) : (∅ : Dictionary α).get? key = none := rfl

theorem get?_insert (d : Dictionary α) (key other : String) (v : α) :
    (d.insert key v).get? other = if key = other then some v else d.get? other :=
  Table.get?_insert d.table key other v

theorem get?_mapValues (f : α → β) (d : Dictionary α) (key : String) :
    (d.mapValues f).get? key = (d.get? key).map f := Table.get?_mapValues f d.table key

end Dictionary

end PageConfig
