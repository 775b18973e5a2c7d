import Mathlib.Algebra.Group.Nat.Defs
import PageConfig.Value.Path

/-!
# What stands at a path

Scalars stand at the ends of paths: nothing is below them, and they are not null. A dotted path
leads where its parts lead, one after the other, and with a number for its last part to that item
of a list.
-/

set_option autoImplicit false

namespace PageConfig

namespace Value

def isScalar : Value → Bool
  | .bool _ | .number _ | .text _ => true
  | _ => false

theorem isNull_eq_false_iff {v : Value} : v.isNull = false ↔ v ≠ .null := by
  cases v <;> simp [isNull]

theorem filter_some_of_ne_null {v : Value} (h : v ≠ .null) :
    (some v).filter (!·.isNull) = some v := by
  rw [Option.filter_some, isNull_eq_false_iff.2 h]
  rfl

@[simp] theorem follow?_nil (v : Value) : v.follow? [] = some v := rfl

@[simp] theorem follow?_cons (v : Value) (segment : String) (rest : List String) :
    v.follow? (segment :: rest) = (v.step? segment).bind (follow? · rest) := rfl

variable {v x : Value}

theorem ne_null_of_isScalar (hx : x.isScalar) : x ≠ .null := by
  rintro rfl
  cases hx

theorem ne_null_of_follow? (hx : x.isScalar) {path : List String} (h : v.follow? path = some x) :
    v ≠ .null := by
  cases path with
  | nil => exact Option.some.inj h ▸ ne_null_of_isScalar hx
  | cons segment rest =>
    rintro rfl
    cases h

/-- A path to a scalar has a first step into anything that is not the scalar itself. -/
theorem exists_step?_of_follow? (hx : x.isScalar) (hv : v.isScalar = false) {path : List String}
    (h : v.follow? path = some x) : ∃ segment rest u, path = segment :: rest ∧
      v.step? segment = some u ∧ u ≠ .null ∧ u.follow? rest = some x := by
  cases path with
  | nil =>
    cases h
    rw [hv] at hx
    cases hx
  | cons segment rest =>
    obtain ⟨u, hu, hrest⟩ := Option.bind_eq_some_iff.1 h
    exact ⟨segment, rest, u, rfl, hu, ne_null_of_follow? hx hrest, hrest⟩

theorem lookup?_eq_some_iff {path : String} :
    v.lookup? path = some x ↔ segments path ≠ [] ∧ v.follow? (segments path) = some x := by
  unfold lookup?
  cases segments path <;> simp

theorem present?_eq_some_iff (hx : x.isScalar) {path : String} :
    v.present? path = some x ↔ segments path ≠ [] ∧ v.follow? (segments path) = some x := by
  simp [present?, ← lookup?_eq_some_iff, isNull_eq_false_iff.2 (ne_null_of_isScalar hx),
    Option.filter_eq_some_iff]

theorem filter_bind_follow? (w? : Option Value) (path : List String) :
    ((w?.filter (!·.isNull)).bind (·.follow? path)).filter (!·.isNull) =
      (w?.bind (·.follow? path)).filter (!·.isNull) := by
  cases w? with
  | none => rfl
  | some w =>
    cases w with
    | null => cases path <;> rfl
    | _ => rfl

theorem present?_congr {path : String} (h : ∀ key ∈ (segments path).head?,
    (v.step? key).filter (!·.isNull) = (x.step? key).filter (!·.isNull)) :
    v.present? path = x.present? path := by
  unfold present? lookup?
  cases hpath : segments path with
  | nil => rfl
  | cons key rest =>
    have hkey := h key (by rw [hpath]; rfl)
    dsimp only
    rw [follow?_cons, follow?_cons, ← filter_bind_follow?, hkey, filter_bind_follow?]

end Value

section Dotted

structure Trimmed (path : String) : Prop where
  ne_empty : path ≠ ""
  first : ∀ c ∈ path.toList.head?, isBlank c = false
  last : ∀ c ∈ path.toList.getLast?, isBlank c = false

theorem dropWhile_isBlank_of_head? {cs : List Char} (h : ∀ c ∈ cs.head?, isBlank c = false) :
    cs.dropWhile isBlank = cs := by
  cases cs with
  | nil => rfl
  | cons c cs => rw [List.dropWhile_cons, h c rfl, if_neg Bool.false_ne_true]

theorem trimBlanks_eq_self {cs : List Char} (hfirst : ∀ c ∈ cs.head?, isBlank c = false)
    (hlast : ∀ c ∈ cs.getLast?, isBlank c = false) : trimBlanks cs = cs := by
  have hreverse : ∀ c ∈ cs.reverse.head?, isBlank c = false := by
    rwa [List.head?_reverse]
  rw [trimBlanks, dropWhile_isBlank_of_head? hfirst, dropWhile_isBlank_of_head? hreverse,
    List.reverse_reverse]

theorem splitDots_of_no_dot {cs : List Char} (h : '.' ∉ cs) : splitDots cs = [cs] := by
  induction cs with
  | nil => rfl
  | cons c cs ih =>
    rw [List.mem_cons, not_or] at h
    rw [splitDots, if_neg (Ne.symm h.1), ih h.2]

namespace Trimmed

variable {p q : String}

theorem toList_ne_nil (h : Trimmed p) : p.toList ≠ [] :=
  fun hnil => h.ne_empty (String.toList_eq_nil_iff.1 hnil)

theorem segments_eq (h : Trimmed p) : segments p = (splitDots p.toList).map String.ofList := by
  rw [segments, trimBlanks_eq_self h.first h.last]
  split
  · rename_i hnil
    exact absurd hnil h.toList_ne_nil
  · rfl

theorem segments_ne_nil (h : Trimmed p) : segments p ≠ [] := by
  rw [h.segments_eq]
  exact fun hnil => splitDots_ne_nil _ (List.map_eq_nil_iff.1 hnil)

theorem dotted (hp : Trimmed p) (hq : Trimmed q) : Trimmed (p ++ "." ++ q) := by
  have hlist : (p ++ "." ++ q).toList = p.toList ++ '.' :: q.toList := by simp
  obtain ⟨c, cs, hcs⟩ := List.exists_cons_of_ne_nil hp.toList_ne_nil
  obtain ⟨d, ds, hds⟩ := List.exists_cons_of_ne_nil hq.toList_ne_nil
  constructor
  · intro h
    simp [h] at hlist
  · have hfirst := hp.first
    rw [hcs] at hfirst
    rw [hlist, hcs]
    exact hfirst
  · have hlast := hq.last
    rw [hds] at hlast
    rw [hlist, hds, List.getLast?_append, List.getLast?_cons_cons]
    simpa using hlast

theorem segments_dotted (hp : Trimmed p) (hq : Trimmed q) :
    segments (p ++ "." ++ q) = segments p ++ segments q := by
  have hlist : (p ++ "." ++ q).toList = p.toList ++ '.' :: q.toList := by simp
  rw [(hp.dotted hq).segments_eq, hlist, splitDots_append, List.map_append, ← hp.segments_eq,
    ← hq.segments_eq]

theorem lookup?_eq (h : Trimmed p) (v : Value) : v.lookup? p = v.follow? (segments p) := by
  unfold Value.lookup?
  split
  · rename_i hnil
    exact absurd hnil h.segments_ne_nil
  · rfl

end Trimmed

theorem Trimmed.lookup?_of_no_dot {p : String} (h : Trimmed p) (hdot : '.' ∉ p.toList)
    (v : Value) : v.lookup? p = v.step? p := by
  rw [h.lookup?_eq, h.segments_eq, splitDots_of_no_dot hdot, List.map_singleton,
    String.ofList_toList, Value.follow?_cons]
  cases v.step? p <;> rfl

section Index

theorem isDigit_of_mem_toString {i : Nat} {c : Char} (h : c ∈ (toString i).toList) :
    c.isDigit = true :=
  Nat.isDigit_of_mem_toDigits (by decide) (by decide) (Nat.toList_repr ▸ h)

theorem isBlank_of_isDigit {c : Char} (h : c.isDigit = true) : isBlank c = false := by
  have hrange : 0x30 ≤ c.toNat ∧ c.toNat ≤ 0x39 := by
    simpa [Char.isDigit, UInt32.le_iff_toNat_le] using h
  simp only [isBlank, blankRanges, List.any_cons, List.any_nil, Bool.or_eq_false_iff,
    Bool.and_eq_false_iff, decide_eq_false_iff_not, and_true]
  omega

theorem toList_toString_ne_nil (i : Nat) : (toString i).toList ≠ [] := by
  rw [Nat.toString_eq_repr, Nat.toList_repr]
  exact Nat.toDigits_ne_nil

theorem trimmed_toString (i : Nat) : Trimmed (toString i) where
  ne_empty h := toList_toString_ne_nil i (String.toList_eq_nil_iff.2 h)
  first _ hc := isBlank_of_isDigit (isDigit_of_mem_toString (List.mem_of_mem_head? hc))
  last _ hc := isBlank_of_isDigit (isDigit_of_mem_toString (List.mem_of_getLast? hc))

theorem digitsValue_toString (i : Nat) : digitsValue (toString i).toList = i := by
  rw [Nat.toString_eq_repr, Nat.toList_repr]
  exact Nat.ofDigitChars_ten_toDigits

theorem index?_toString (i : Nat) :
    index? (toString i) = if i < 2 ^ 64 then some i else none := by
  have hdigits : ∀ c ∈ (toString i).toList, c.isDigit = true := fun _ => isDigit_of_mem_toString
  have hreach : Nat.pow 2 64 ≤ i ↔ ¬ i < 2 ^ 64 := Nat.not_lt.symm
  unfold index?
  split
  · rename_i cs hplus
    have hsign := hdigits '+' (by rw [hplus]; exact List.mem_cons_self)
    cases hsign
  · dsimp only
    rw [digitsValue_toString, List.all_eq_true.2 hdigits,
      List.isEmpty_eq_false_iff.2 (toList_toString_ne_nil i)]
    simp only [Bool.not_true, Bool.or_false, Bool.false_or, decide_eq_true_eq, hreach, ite_not]

theorem Trimmed.lookup?_item {path : String} (h : Trimmed path) {root : Value}
    {items : List Value} (hlist : root.lookup? path = some (.list items)) (i : Nat) :
    root.lookup? (path ++ "." ++ toString i) = if i < 2 ^ 64 then items[i]? else none := by
  have hi := trimmed_toString i
  have hdot : '.' ∉ (toString i).toList := fun hmem => by
    cases isDigit_of_mem_toString hmem
  calc root.lookup? (path ++ "." ++ toString i)
      = (root.lookup? path).bind (·.follow? (segments (toString i))) := by
        rw [(h.dotted hi).lookup?_eq, h.segments_dotted hi, Value.follow?_append, h.lookup?_eq]
    _ = (Value.list items).step? (toString i) := by
        rw [hlist, Option.bind_some, ← hi.lookup?_eq, hi.lookup?_of_no_dot hdot]
    _ = if i < 2 ^ 64 then items[i]? else none := by
        rw [Value.step?, index?_toString]
        split <;> rfl

end Index

/-- To look up a path is to look up its parts, one in what stands at the other, down to those
without a dot, each of which is one step. -/
theorem Value.lookup_dotted (root : Value) {p q : String} (hp : Trimmed p) (hq : Trimmed q) :
    root.lookup? (p ++ "." ++ q) = (root.lookup? p).bind (·.lookup? q) ∧
      ('.' ∉ p.toList → root.lookup? p = root.step? p) := by
  refine ⟨?_, fun hdot => hp.lookup?_of_no_dot hdot root⟩
  calc root.lookup? (p ++ "." ++ q)
      = root.follow? (segments p ++ segments q) := by
        rw [(hp.dotted hq).lookup?_eq, hp.segments_dotted hq]
    _ = (root.follow? (segments p)).bind (·.follow? (segments q)) := follow?_append root _ _
    _ = (root.lookup? p).bind (·.lookup? q) := by
        simp only [hp.lookup?_eq, hq.lookup?_eq]

def shelf : Value := .object [
  ("items", .list [.null, .object [("", .object [("title", .text "b")])]])]

theorem shelf_lookup : Trimmed "items.1" ∧ Trimmed ".title" ∧
    shelf.lookup? "items.1" = some (.object [("", .object [("title", .text "b")])]) ∧
    shelf.lookup? ("items.1" ++ "." ++ ".title") = some (.text "b") := by
  have hitem : Trimmed "items.1" := ⟨by decide, by rintro _ ⟨⟩; rfl, by rintro _ ⟨⟩; rfl⟩
  have htitle : Trimmed ".title" := ⟨by decide, by rintro _ ⟨⟩; rfl, by rintro _ ⟨⟩; rfl⟩
  have hlookup : shelf.lookup? "items.1" =
      some (.object [("", .object [("title", .text "b")])]) := rfl
  refine ⟨hitem, htitle, hlookup, ?_⟩
  rw [(Value.lookup_dotted shelf hitem htitle).1, hlookup]
  rfl

end Dotted

end PageConfig
