import PageConfig.Document.Visibility
import PageConfig.Proofs.Value.Equality

/-!
# What conditions take for equal

The operators that look for a value, as the whole field, among its items or among those of the
condition, share one relation. It is that of being alike, but for numbers that rounding makes
equal and for whole numbers that stand for doubles inside lists and objects.
-/

set_option autoImplicit false

namespace PageConfig

open Value

theorem Value.any_equalTo_iff {items : List Value} {b : Value} :
    items.any (·.equalTo b) = true ↔ ∃ v ∈ items, v.Equated b := by
  simp only [List.any_eq_true, equalTo_iff]

namespace Condition

variable {context a : Value} {field : String}

theorem holdsAlone_equals_iff (h : context.present? field = some a) (b : Value) :
    holdsAlone context field .equals b = true ↔ a.Equated b := by
  rw [holdsAlone, h, ← equalTo_iff]
  rfl

theorem holdsAlone_contains_iff {items : List Value}
    (h : context.present? field = some (.list items)) (b : Value) :
    holdsAlone context field .contains b = true ↔ ∃ v ∈ items, v.Equated b := by
  rw [holdsAlone, h, ← any_equalTo_iff]
  rfl

theorem holdsAlone_isIn_iff (h : context.present? field = some a) (items : List Value) :
    holdsAlone context field .isIn (.list items) = true ↔ ∃ v ∈ items, v.Equated a := by
  rw [holdsAlone, h, ← any_equalTo_iff]
  rfl

/-- A field and a value that are not misjudged are taken for equal just when they are alike, and
the items of a list are compared as the whole is. -/
theorem compared_by_value_iff (h : context.present? field = some a) (b : Value) :
    ((holdsAlone context field .equals b = true ↔ a.Alike b) ↔ ¬ a.Misjudged b) ∧
      (holdsAlone context field .equals b = true ↔ a.Equated b) ∧
      (∀ items, a = .list items →
        (holdsAlone context field .contains b = true ↔ ∃ v ∈ items, v.Equated b)) ∧
      (∀ items, b = .list items →
        (holdsAlone context field .isIn b = true ↔ ∃ v ∈ items, v.Equated a)) ∧
      ∀ v w : Value, (v.Equated w ↔ v.Alike w) ↔ ¬ v.Misjudged w := by
  have hequals := holdsAlone_equals_iff h b
  refine ⟨?_, hequals, ?_, ?_, fun v w => equated_iff_alike⟩
  · rw [hequals]
    exact equated_iff_alike
  · rintro items rfl
    exact holdsAlone_contains_iff h b
  · rintro items rfl
    exact holdsAlone_isIn_iff h items

def sizes : Value := .list [.whole 2, .object [("width", .real 3)]]

theorem sizes_compared :
    let context := Value.object [("cart", .object [("sizes", sizes)])]
    context.present? "cart.sizes" = some sizes ∧ sizes.Alike sizes ∧
      holdsAlone context "cart.sizes" .equals sizes = true ∧
      holdsAlone context "cart.sizes" .contains (.real 2) = true ∧
      holdsAlone context "cart.sizes" .isIn (.list [.text "any", sizes]) = true := by
  intro context
  have hpresent : context.present? "cart.sizes" = some sizes := rfl
  have hkind : sizes.Matches Number.SameKind sizes := ⟨trivial, ⟨rfl, trivial, trivial⟩, trivial⟩
  obtain ⟨_, -, hthree⟩ := Number.sameQuantity_toReal (i := 3) (by decide)
  have halike : sizes.Alike sizes :=
    ⟨⟨.finite 2, rfl, rfl⟩, ⟨rfl, ⟨_, hthree, hthree⟩, trivial⟩, trivial⟩
  have hjudged : ¬ sizes.Misjudged sizes := fun h => h.2 hkind
  have htwo : (Value.whole 2).Equated (.real 2) := equalTo_iff.1 (by decide)
  have hequals := (compared_by_value_iff hpresent sizes).1
  obtain ⟨-, -, hcontains, -, -⟩ := compared_by_value_iff hpresent (.real 2)
  obtain ⟨-, -, -, hisIn, -⟩ := compared_by_value_iff hpresent (.list [.text "any", sizes])
  refine ⟨hpresent, halike, (hequals.2 hjudged).2 halike, (hcontains _ rfl).2 ?_,
    (hisIn _ rfl).2 ?_⟩
  · exact ⟨_, List.mem_cons_self, htwo⟩
  · exact ⟨sizes, by simp, halike, hkind⟩

theorem not_always_compared_by_value :
    ¬ ∀ (context a b : Value) (field : String), context.present? field = some a →
      (holdsAlone context field .equals b = true ↔ a.Alike b) := by
  intro h
  have hpresent : (Value.object [("n", .list [.whole 2])]).present? "n" =
      some (.list [.whole 2]) := rfl
  have halike : (Value.list [.whole 2]).Alike (.list [.real 2]) :=
    ⟨Number.sameQuantity_toReal (by decide), trivial⟩
  have hholds := (h _ _ (.list [.real 2]) _ hpresent).2 halike
  exact absurd hholds (by decide)

end Condition

end PageConfig
