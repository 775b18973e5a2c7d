import PageConfig.Proofs.Value.Induction
import PageConfig.Proofs.Value.Merge

/-!
# What a deep merge keeps

At a path of keys the merged table holds what the overlay has there, merged over what the base
has there. Where the overlay lacks a key of the path the base shows, and where a plain value of
the overlay is in the way there is nothing.
-/

set_option autoImplicit false

namespace PageConfig

namespace Value

/-- What stands at a path of keys, through objects alone. -/
def below? : Value → List String → Option Value
  | v, [] => some v
  | v, key :: keys => (v.field? key).bind (below? · keys)

/-- The path comes to an object that does not have its next key. -/
def Lacks (v : Value) (path : List String) : Prop :=
  ∃ above key rest fields, path = above ++ key :: rest ∧
    v.below? above = some (.object fields) ∧ Table.get? fields key = none

/-- Something other than an object stands at the path before its end. -/
def Blocks (v : Value) (path : List String) : Prop :=
  ∃ above key rest w, path = above ++ key :: rest ∧ v.below? above = some w ∧ w.asObject? = none

theorem below?_append (v : Value) (p q : List String) :
    v.below? (p ++ q) = (v.below? p).bind (below? · q) := by
  induction p generalizing v with
  | nil => rfl
  | cons key p ih =>
    cases h : v.field? key with
    | none => simp [below?, h]
    | some w => simp [below?, h, ih]

theorem field?_of_plain {v : Value} (h : v.asObject? = none) (key : String) :
    v.field? key = none := by
  rw [field?_eq, h]
  rfl

theorem below?_cases (v : Value) (path : List String) :
    (v.below? path).isSome ∨ v.Lacks path ∨ v.Blocks path := by
  induction path generalizing v with
  | nil => exact .inl rfl
  | cons key path ih =>
    cases hv : v.asObject? with
    | none => exact .inr (.inr ⟨[], key, path, v, rfl, rfl, hv⟩)
    | some fields =>
      obtain rfl : v = .object fields := by
        cases v with
        | object => exact congrArg Value.object (Option.some.inj hv)
        | _ => cases hv
      cases hkey : Table.get? fields key with
      | none => exact .inr (.inl ⟨[], key, path, fields, rfl, rfl, hkey⟩)
      | some w =>
        have hbelow (p : List String) : (Value.object fields).below? (key :: p) = w.below? p :=
          congrArg (Option.bind · (below? · p)) hkey
        rcases ih w with h | ⟨above, k, rest, t, rfl, h⟩ | ⟨above, k, rest, u, rfl, h⟩
        · exact .inl (by rwa [hbelow])
        · exact .inr (.inl ⟨key :: above, k, rest, t, rfl, by rwa [hbelow]⟩)
        · exact .inr (.inr ⟨key :: above, k, rest, u, rfl, by rwa [hbelow]⟩)

theorem canonical_below? {v w : Value} (hv : v.Canonical) {path : List String}
    (h : v.below? path = some w) : w.Canonical := by
  induction path generalizing v with
  | nil => exact Option.some.inj h ▸ hv
  | cons key path ih =>
    obtain ⟨u, hu, hw⟩ := Option.bind_eq_some_iff.1 h
    exact ih (canonical_field? hv hu) hw

end Value

namespace Props

open Value

variable {x : Option Value} {v w : Value} {path : List String}

theorem field?_mergeValue (x : Option Value) {fields : Props} (h : (Table.keys fields).Nodup)
    (key : String) : (mergeValue x (.object fields)).field? key =
      ((fields.get? key).map (mergeValue (x.bind (·.field? key)))).or (x.bind (·.field? key)) := by
  have hbase : x.bind (·.field? key) = (x.bind asObject?).bind (·.get? key) := by
    simp only [field?_eq, Option.bind_assoc]
  rw [mergeValue_object, hbase]
  cases x.bind asObject? with
  | some base => exact get?_mergeDeep h key
  | none => cases hget : fields.get? key <;> simp [field?, hget, mergeValue_none]

theorem below?_mergeValue (hv : v.Canonical) (h : v.below? path = some w) :
    (mergeValue x v).below? path = some (mergeValue (x.bind (·.below? path)) w) := by
  -- the base goes down by the same keys as the overlay, and may end before it
  induction path generalizing x v with
  | nil =>
    cases h
    cases x <;> rfl
  | cons key path ih =>
    obtain ⟨u, hu, hw⟩ := Option.bind_eq_some_iff.1 h
    cases v with
    | object fields =>
      have hget : Table.get? fields key = some u := hu
      have hfield : (mergeValue x (.object fields)).field? key =
          some (mergeValue (x.bind (·.field? key)) u) := by
        rw [field?_mergeValue x (keys_nodup_of_canonical hv), hget]
        rfl
      rw [below?, hfield, Option.bind_some, ih (canonical_field? hv hu) hw, Option.bind_assoc]
      rfl
    | _ => cases hu

theorem below?_mergeValue_of_lacks (hv : v.Canonical) (h : v.Lacks path) :
    (mergeValue x v).below? path = x.bind (·.below? path) := by
  obtain ⟨above, key, rest, fields, rfl, hfields, hkey⟩ := h
  have hkeys := keys_nodup_of_canonical (canonical_below? hv hfields)
  calc (mergeValue x v).below? (above ++ key :: rest)
      = ((mergeValue (x.bind (·.below? above)) (.object fields)).field? key).bind
          (·.below? rest) := by
        rw [below?_append, below?_mergeValue hv hfields]
        rfl
    _ = ((x.bind (·.below? above)).bind (·.field? key)).bind (·.below? rest) := by
        rw [field?_mergeValue _ hkeys, hkey]
        rfl
    _ = x.bind (·.below? (above ++ key :: rest)) := by
        simp only [below?_append, below?, Option.bind_assoc]

theorem below?_mergeValue_of_blocks (hv : v.Canonical) (h : v.Blocks path) :
    (mergeValue x v).below? path = none := by
  obtain ⟨above, key, rest, w, rfl, hw, hplain⟩ := h
  rw [below?_append, below?_mergeValue hv hw, mergeValue_of_plain hplain, Option.bind_some, below?,
    field?_of_plain hplain]
  rfl

theorem mergeValue_mergeValue (hx : ∀ w ∈ x, w.Canonical) (hv : v.Canonical) :
    mergeValue (some (mergeValue x v)) v = mergeValue x v := by
  induction v using Value.induct generalizing x with
  | object fields ih =>
    obtain ⟨merged, hmerged⟩ : ∃ merged, mergeValue x (.object fields) = .object merged :=
      ⟨_, mergeValue_object x fields⟩
    have hcanonical : (Value.object merged).Canonical := hmerged ▸ canonical_mergeValue hx hv
    have hfields := keys_nodup_of_canonical hv
    rw [hmerged, mergeValue]
    apply congrArg Value.object
    -- both tables ascend, so that it is enough to look up each key
    apply Table.ext_of_ascending (ascending_of_canonical (canonical_mergeDeep hcanonical hv))
      (ascending_of_canonical hcanonical)
    intro key
    have hget : Table.get? merged key = _ := hmerged ▸ field?_mergeValue x hfields key
    refine (get?_mergeDeep hfields key).trans ?_
    cases hkey : Table.get? fields key with
    | none => rfl
    | some w =>
      have hbelow : ∀ u ∈ x.bind (·.field? key), u.Canonical := by
        intro u hu
        obtain ⟨b, hb, hu⟩ := Option.bind_eq_some_iff.1 hu
        exact canonical_field? (hx b hb) hu
      have hw : w.Canonical := canonical_field? hv hkey
      rw [hget, hkey]
      exact congrArg some (ih (key, w) (Table.mem_of_get? hkey) hbelow hw)
  | _ => rw [mergeValue_of_plain rfl, mergeValue_of_plain rfl]

section Laws

variable {a b : Props}

theorem mergeDeep_nil (a : Props) : a.mergeDeep [] = a := by rw [mergeDeep, mergeFields]

theorem nil_mergeDeep (hb : (Value.object b).Canonical) : mergeDeep [] b = b := by
  have hnil : (Value.object []).Canonical := ⟨List.Pairwise.nil, trivial⟩
  apply Table.ext_of_ascending (ascending_of_canonical (canonical_mergeDeep hnil hb))
    (ascending_of_canonical hb)
  intro key
  rw [get?_mergeDeep (keys_nodup_of_canonical hb)]
  cases Table.get? b key <;> simp [mergeValue_none]

theorem mergeDeep_mergeDeep (ha : (Value.object a).Canonical) (hb : (Value.object b).Canonical) :
    (a.mergeDeep b).mergeDeep b = a.mergeDeep b := by
  have h := mergeValue_mergeValue (x := some (.object a)) (fun w hw => Option.some.inj hw ▸ ha) hb
  rw [mergeValue, mergeValue] at h
  exact Value.object.inj h

theorem mergeDeep_self (ha : (Value.object a).Canonical) : a.mergeDeep a = a := by
  have h := mergeDeep_mergeDeep (a := []) ⟨List.Pairwise.nil, trivial⟩ ha
  rwa [nil_mergeDeep ha] at h

/-- Just the right leaves are kept. At each path the merged table has what the overlay has there,
an object where that is one, what the base has where the overlay lacks a key, and nothing where
the overlay is in the way; one of these is the case at every path. -/
theorem leaves_kept (ha : (Value.object a).Canonical) (hb : (Value.object b).Canonical) :
    let base := Value.object a
    let overlay := Value.object b
    let merged := Value.object (a.mergeDeep b)
    (∀ path,
      (∀ v, overlay.below? path = some v → v.asObject? = none → merged.below? path = some v) ∧
      (∀ fields, overlay.below? path = some (.object fields) →
        ∃ fields', merged.below? path = some (.object fields')) ∧
      (overlay.Lacks path → merged.below? path = base.below? path) ∧
      (overlay.Blocks path → merged.below? path = none) ∧
      ((overlay.below? path).isSome ∨ overlay.Lacks path ∨ overlay.Blocks path)) ∧
    a.mergeDeep [] = a ∧ mergeDeep [] b = b ∧ a.mergeDeep a = a ∧
      (a.mergeDeep b).mergeDeep b = a.mergeDeep b := by
  intro base overlay merged
  have hmerged : merged = mergeValue (some base) overlay := by
    rw [mergeValue]
    rfl
  refine ⟨fun path => ⟨fun v hv hplain => ?_, fun fields hfields => ?_, fun h => ?_, fun h => ?_,
    below?_cases overlay path⟩, mergeDeep_nil a, nil_mergeDeep hb, mergeDeep_self ha,
    mergeDeep_mergeDeep ha hb⟩
  · rw [hmerged, below?_mergeValue hb hv, mergeValue_of_plain hplain]
  · have hobject := mergeValue_object (base.below? path) fields
    exact ⟨_, by rw [hmerged, below?_mergeValue hb hfields, ← hobject]; rfl⟩
  · rw [hmerged, below?_mergeValue_of_lacks hb h]
    rfl
  · rw [hmerged, below?_mergeValue_of_blocks hb h]

def cardProps : Props := [
  ("cta", .object [("label", .text "Buy"), ("style", .object [("color", .text "red")])]),
  ("title", .object [("size", .whole 2)])]

def wideCardProps : Props := [
  ("cta", .object [("label", .object []), ("style", .object [("gap", .whole 4)])]),
  ("title", .null)]

theorem cardProps_leaves :
    (Value.object cardProps).Canonical ∧ (Value.object wideCardProps).Canonical ∧
    let merged := Value.object (cardProps.mergeDeep wideCardProps)
    merged.below? ["cta", "style", "gap"] = some (.whole 4) ∧
    (∃ fields, merged.below? ["cta", "label"] = some (.object fields)) ∧
    merged.below? ["cta", "style", "color"] = some (.text "red") ∧
    merged.below? ["title", "size"] = none ∧
    (cardProps.mergeDeep wideCardProps).mergeDeep wideCardProps =
      cardProps.mergeDeep wideCardProps := by
  have hcard : (Value.object cardProps).Canonical := by
    simp only [cardProps, Canonical, CanonicalFields, Value.whole, and_true]
    exact ⟨by decide, ⟨by decide, by decide⟩, by decide⟩
  have hwide : (Value.object wideCardProps).Canonical := by
    simp only [wideCardProps, Canonical, CanonicalFields, Value.whole, and_true]
    exact ⟨by decide, by decide, by decide, by decide⟩
  obtain ⟨hpaths, -, -, -, htwice⟩ := leaves_kept hcard hwide
  obtain ⟨hgap, -⟩ := hpaths ["cta", "style", "gap"]
  obtain ⟨-, hlabel, -⟩ := hpaths ["cta", "label"]
  obtain ⟨-, -, hcolor, -⟩ := hpaths ["cta", "style", "color"]
  obtain ⟨-, -, -, hsize, -⟩ := hpaths ["title", "size"]
  exact ⟨hcard, hwide, hgap _ rfl rfl, hlabel _ rfl,
    hcolor ⟨["cta", "style"], "color", [], _, rfl, rfl, rfl⟩,
    hsize ⟨["title"], "size", [], _, rfl, rfl, rfl⟩, htwice⟩

end Laws

end Props

end PageConfig
