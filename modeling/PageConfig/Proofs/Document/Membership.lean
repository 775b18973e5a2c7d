import PageConfig.Proofs.Document.Comparison
import PageConfig.Proofs.Document.Visibility
import PageConfig.Proofs.Value.Path

/-!
# Membership as equality

A field is in a list if it equals one of the items, which a disjunction of conditions says as
well. A list contains what equals one of its items at the path of the item. Null alone is told
apart: nothing is present at the path of an item that is null, yet the list contains it.
-/

set_option autoImplicit false

namespace PageConfig

open Value

namespace Condition

variable {context : Value} {field : String}

section Disjunction

theorem holdsAlone_isIn (items : List Value) :
    holdsAlone context field .isIn (.list items) =
      items.any (holdsAlone context field .equals) := by
  unfold holdsAlone
  cases context.present? field with
  | none => simp [Operator.test]
  | some a => simp [Operator.test, equalTo_comm a]

theorem joined_or_map_test (o : Operator) (values : List Value) :
    joined context .or (values.map (test field o)) = values.any (holdsAlone context field o) := by
  induction values with
  | nil => rfl
  | cons x xs ih =>
    rw [List.map_cons, joined_cons, holds_test, ih, List.any_cons]
    rfl

theorem holds_isIn_cons (x : Value) (xs : List Value) :
    (test field .isIn (.list (x :: xs))).holds context =
      (mk field .equals x (some .or) (xs.map (test field .equals))).holds context := by
  rw [holds_test, holdsAlone_isIn, List.any_cons, holds_mk, Option.getD_some, joined_or_map_test]
  rfl

theorem holds_isIn_nil : (test field .isIn (.list [])).holds context = false := by
  rw [holds_test, holdsAlone_isIn, List.any_nil]

end Disjunction

section Items

variable {items : List Value}

theorem holdsAlone_equals_item_iff (htrimmed : Trimmed field)
    (hpresent : context.present? field = some (.list items)) (i : ℕ) (b : Value) :
    holdsAlone context (field ++ "." ++ toString i) .equals b = true ↔
      i < 2 ^ 64 ∧ ∃ v, items[i]? = some v ∧ v ≠ .null ∧ v.Equated b := by
  have hitem := htrimmed.lookup?_item (Option.filter_eq_some_iff.1 hpresent).1 i
  rw [holdsAlone, present?, hitem]
  by_cases hi : i < 2 ^ 64
  · rw [if_pos hi, and_iff_right hi]
    cases items[i]? with
    | none => simp [Operator.test]
    | some v => simp [Operator.test, equalTo_iff, isNull_eq_false_iff]
  · rw [if_neg hi]
    exact iff_of_false Bool.false_ne_true fun h => hi h.1

theorem holdsAlone_contains_iff_item (htrimmed : Trimmed field)
    (hpresent : context.present? field = some (.list items)) (b : Value) :
    holdsAlone context field .contains b = true ↔
      (∃ i : ℕ, holdsAlone context (field ++ "." ++ toString i) .equals b = true) ∨
        (b = .null ∧ .null ∈ items) ∨ ∃ v ∈ items.drop (2 ^ 64), v.Equated b := by
  have hequals := fun i => holdsAlone_equals_item_iff htrimmed hpresent i b
  rw [holdsAlone_contains_iff hpresent]
  constructor
  · rintro ⟨v, hv, hb⟩
    obtain ⟨i, hi⟩ := List.mem_iff_getElem?.1 hv
    by_cases hnull : v = .null
    · subst hnull
      exact .inr (.inl ⟨null_equated_iff.1 hb, hv⟩)
    by_cases hreach : i < 2 ^ 64
    · exact .inl ⟨i, (hequals i).2 ⟨hreach, v, hi, hnull, hb⟩⟩
    · have hdrop : (items.drop (2 ^ 64))[i - 2 ^ 64]? = some v := by
        rw [List.getElem?_drop, Nat.add_sub_cancel' (Nat.not_lt.1 hreach), hi]
      exact .inr (.inr ⟨v, List.mem_of_getElem? hdrop, hb⟩)
  · rintro (⟨i, hi⟩ | ⟨rfl, hnull⟩ | ⟨v, hv, hb⟩)
    · obtain ⟨-, v, hv, -, hb⟩ := (hequals i).1 hi
      exact ⟨v, List.mem_of_getElem? hv, hb⟩
    · exact ⟨.null, hnull, null_equated_iff.2 rfl⟩
    · exact ⟨v, List.mem_of_mem_drop hv, hb⟩

end Items

/-- To be in a list is a disjunction of being equal to its items. A list contains what equals an
item at the path of the item, and null if one of them is null. No path leads to items past the
`2 ^ 64` that have an index. -/
theorem membership_by_equality :
    (∀ (x : Value) (xs : List Value), (test field .isIn (.list (x :: xs))).holds context =
      (mk field .equals x (some .or) (xs.map (test field .equals))).holds context) ∧
    (test field .isIn (.list [])).holds context = false ∧
    ∀ items, Trimmed field → context.present? field = some (.list items) → ∀ b : Value,
      (items.length ≤ 2 ^ 64 → ((test field .contains b).holds context = true ↔
        (∃ i : ℕ, (test (field ++ "." ++ toString i) .equals b).holds context = true) ∨
          (b = .null ∧ .null ∈ items))) ∧
      ((test field .contains b).holds context = true ↔
        (∃ i : ℕ, (test (field ++ "." ++ toString i) .equals b).holds context = true) ∨
          (b = .null ∧ .null ∈ items) ∨ ∃ v ∈ items.drop (2 ^ 64), v.Equated b) := by
  refine ⟨holds_isIn_cons, holds_isIn_nil, fun items htrimmed hpresent b => ?_⟩
  simp only [holds_test]
  have hitems := holdsAlone_contains_iff_item htrimmed hpresent b
  refine ⟨fun hlength => ?_, hitems⟩
  rw [hitems, List.drop_eq_nil_of_le hlength]
  simp only [List.not_mem_nil, false_and, exists_false, or_false]

def tags : List Value := [.text "new", .null, .list [.whole 2]]

theorem tags_membership :
    let context := Value.object [("user", .object [("tags", .list tags)])]
    Trimmed "user.tags" ∧ context.present? "user.tags" = some (.list tags) ∧
      tags.length ≤ 2 ^ 64 ∧
      (test "user.tags" .isIn (.list [.text "new", .null, .list tags])).holds context = true ∧
      (test "user.tags" .contains .null).holds context = true ∧
      ∃ i : ℕ, (test ("user.tags" ++ "." ++ toString i) .equals (.list [.whole 2])).holds context =
        true := by
  intro context
  have htrimmed : Trimmed "user.tags" := ⟨by decide, by rintro _ ⟨⟩; rfl, by rintro _ ⟨⟩; rfl⟩
  have hpresent : context.present? "user.tags" = some (.list tags) := rfl
  have hlength : tags.length ≤ 2 ^ 64 := by decide
  have hcontains := fun b => (membership_by_equality.2.2 tags htrimmed hpresent b).1 hlength
  have hlist : (test "user.tags" .contains (.list [.whole 2])).holds context = true := by decide
  refine ⟨htrimmed, hpresent, hlength, ?_, (hcontains .null).2 (.inr ⟨rfl, by simp [tags]⟩), ?_⟩
  · rw [membership_by_equality.1]
    decide
  · exact ((hcontains _).1 hlist).resolve_right fun h => nomatch h.1

end Condition

end PageConfig
