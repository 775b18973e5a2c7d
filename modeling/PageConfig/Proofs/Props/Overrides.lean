import PageConfig.Proofs.Decode.Record
import PageConfig.Proofs.Value.Merge
import PageConfig.View.NodeProps

/-!
# Overrides on wide screens

A bucket writes its overrides inside `props` or bare. On a wide screen the tier's bucket and
the wide one are merged first and one form is taken for both, so that of two buckets in
different forms one hides the other. What is hidden of which is said here exactly.
-/

set_option autoImplicit false

namespace PageConfig

namespace Responsive

def inner? (bucket : Props) : Option Props := (bucket.get? "props").bind Value.asObject?

def own (bucket : Props) : Props := (inner? bucket).getD bucket

def around (bucket : Props) : Props := if (inner? bucket).isSome then bucket else []

/-- The wide bucket is bare and the tier's is not, so that only the tier's is seen. -/
def WideHidden (tier wide : Props) : Prop := (inner? tier).isSome ∧ wide.get? "props" = none

/-- The wide bucket brings the form, and what the tier's has in the other is not seen. -/
def TierHidden (tier wide : Props) : Prop :=
  (inner? tier).isSome ≠ (inner? wide).isSome ∧ (wide.get? "props").isSome

/-- Wide overrides come first and the tier's after them, each bucket taken in its own form.
Objects may have been merged and are left out. -/
structure Applied (tier wide shown : Props) : Prop where
  of_wide : ∀ k v, (own wide).get? k = some v → v.asObject? = none → shown.get? k = some v
  of_tier : ∀ k v, (own tier).get? k = some v → (own wide).get? k = none → shown.get? k = some v

/-- The buckets have distinct keys, at every depth. -/
def Canonical (r : Responsive) : Prop :=
  ∀ bucket ∈ [r.mobile, r.tablet, r.desktop, r.wide], (Value.object (bucket.getD [])).Canonical

theorem inner?_eq_some_iff {bucket inner : Props} :
    inner? bucket = some inner ↔ bucket.get? "props" = some (.object inner) := by
  unfold inner?
  cases h : bucket.get? "props" with
  | none => simp
  | some v => cases v <;> simp [Value.asObject?]

theorem inner?_eq_none_iff {bucket : Props} :
    inner? bucket = none ↔ ∀ v, bucket.get? "props" = some v → v.asObject? = none := by
  unfold inner?
  cases h : bucket.get? "props" <;> simp

theorem WideHidden.inner?_eq_none {tier wide : Props} (h : WideHidden tier wide) :
    inner? wide = none := by
  rw [inner?, h.2]
  rfl

theorem WideHidden.not_tierHidden {tier wide : Props} (h : WideHidden tier wide) :
    ¬ TierHidden tier wide := by
  intro h'
  have hprops := h'.2
  rw [h.2] at hprops
  exact Bool.false_ne_true hprops

theorem hidden_cases (tier wide : Props) :
    WideHidden tier wide ∨ (inner? tier).isSome = (inner? wide).isSome ∨ TierHidden tier wide := by
  by_cases hsame : (inner? tier).isSome = (inner? wide).isSome
  · exact .inr (.inl hsame)
  cases hprops : wide.get? "props" with
  | some v => exact .inr (.inr ⟨hsame, by rw [hprops]; rfl⟩)
  | none =>
    have hwide : inner? wide = none := by rw [inner?, hprops]; rfl
    rw [hwide] at hsame
    exact .inl ⟨Option.isSome_iff_ne_none.2 (by simpa using hsame), hprops⟩

section Merged

variable {tier wide : Props} (hkeys : (Table.keys wide).Nodup)

include hkeys

theorem own_merged_of_wideHidden (h : WideHidden tier wide) :
    own (tier.mergeDeep wide) = own tier := by
  obtain ⟨i, hi⟩ := Option.isSome_iff_exists.1 h.1
  have hmerged : inner? (tier.mergeDeep wide) = some i := by
    rw [inner?_eq_some_iff, Props.get?_mergeDeep hkeys, h.2]
    exact inner?_eq_some_iff.1 hi
  rw [own, hmerged, own, hi]
  rfl

theorem own_merged_of_bare (hwide : inner? wide = none)
    (h : inner? tier = none ∨ (wide.get? "props").isSome) :
    own (tier.mergeDeep wide) = tier.mergeDeep wide := by
  have hmerged : inner? (tier.mergeDeep wide) = none := by
    rw [inner?_eq_none_iff]
    intro v hv
    rw [Props.get?_mergeDeep hkeys] at hv
    cases hprops : wide.get? "props" with
    | some w =>
      have hplain := inner?_eq_none_iff.1 hwide w hprops
      rw [hprops, Option.map_some, Props.mergeValue_of_plain hplain] at hv
      cases hv
      exact hplain
    | none =>
      rw [hprops] at hv h
      exact inner?_eq_none_iff.1 (h.resolve_right Bool.false_ne_true) v hv
  rw [own, hmerged]
  rfl

theorem own_merged_of_inner {j : Props} (hwide : inner? wide = some j) :
    own (tier.mergeDeep wide) = ((inner? tier).map (·.mergeDeep j)).getD j := by
  have hprops := inner?_eq_some_iff.1 hwide
  have hmerged : inner? (tier.mergeDeep wide) =
      some (((inner? tier).map (·.mergeDeep j)).getD j) := by
    rw [inner?_eq_some_iff, Props.get?_mergeDeep hkeys, hprops, Option.map_some,
      Props.mergeValue_object]
    rfl
  rw [own, hmerged]
  rfl

theorem get?_own_merged_of_same (hown : (Table.keys (own wide)).Nodup)
    (hsame : (inner? tier).isSome = (inner? wide).isSome) (key : String) :
    (own (tier.mergeDeep wide)).get? key =
      (((own wide).get? key).map (Props.mergeValue ((own tier).get? key))).or
        ((own tier).get? key) := by
  cases hwide : inner? wide with
  | some j =>
    rw [hwide] at hsame
    obtain ⟨i, hi⟩ := Option.isSome_iff_exists.1 hsame
    rw [own, hwide, Option.getD_some] at hown
    rw [own_merged_of_inner hkeys hwide, own, own, hwide, hi]
    exact Props.get?_mergeDeep hown key
  | none =>
    have htier : inner? tier = none := by simpa [hwide] using hsame
    rw [own_merged_of_bare hkeys hwide (.inl htier), own, own, hwide, htier]
    exact Props.get?_mergeDeep hkeys key

theorem get?_own_merged_of_tierHidden (h : TierHidden tier wide) (key : String) :
    (own (tier.mergeDeep wide)).get? key =
      (((own wide).get? key).map (Props.mergeValue ((around tier).get? key))).or
        ((around tier).get? key) := by
  cases hwide : inner? wide with
  | some j =>
    have htier : inner? tier = none := by simpa [hwide] using h.1
    rw [own_merged_of_inner hkeys hwide, own, hwide, around, htier]
    cases hget : Table.get? j key <;> simp [hget, Props.mergeValue_none]
  | none =>
    have htier : (inner? tier).isSome := by
      rw [Option.isSome_iff_ne_none]
      simpa [hwide] using h.1
    rw [own_merged_of_bare hkeys hwide (.inr h.2), own, hwide, around, if_pos htier]
    exact Props.get?_mergeDeep hkeys key

end Merged

theorem canonical_own {bucket : Props} (h : (Value.object bucket).Canonical) :
    (Value.object (own bucket)).Canonical := by
  unfold own
  cases hinner : inner? bucket with
  | none => exact h
  | some inner => exact Value.canonical_field? h (inner?_eq_some_iff.1 hinner)

theorem canonical_around {bucket : Props} (h : (Value.object bucket).Canonical) :
    (Value.object (around bucket)).Canonical := by
  unfold around
  split
  · exact h
  · simp [Value.Canonical, Table.Ascending, Value.CanonicalFields]

section Applied

variable {tier wide : Props} (htier : (Value.object tier).Canonical)
  (hwide : (Value.object wide).Canonical) (base : Props)

include htier hwide

theorem get?_shown (key : String) :
    (base.mergeShallow (own (tier.mergeDeep wide))).get? key =
      ((own (tier.mergeDeep wide)).get? key).or (base.get? key) :=
  Props.get?_mergeShallow
    (Props.keys_nodup_of_canonical (canonical_own (Props.canonical_mergeDeep htier hwide))) key

theorem applied_of_same (hsame : (inner? tier).isSome = (inner? wide).isSome) :
    Applied tier wide (base.mergeShallow (own (tier.mergeDeep wide))) := by
  have hget := fun key => get?_own_merged_of_same (Props.keys_nodup_of_canonical hwide)
    (Props.keys_nodup_of_canonical (canonical_own hwide)) hsame key
  constructor
  · intro k v hv hplain
    rw [get?_shown htier hwide, hget, hv, Option.map_some, Props.mergeValue_of_plain hplain]
    rfl
  · intro k v hv hnone
    rw [get?_shown htier hwide, hget, hnone, hv]
    rfl

theorem applied_iff_of_wideHidden (h : WideHidden tier wide) :
    Applied tier wide (base.mergeShallow (own (tier.mergeDeep wide))) ↔
      ∀ k v, wide.get? k = some v → v.asObject? = none →
        (base.mergeShallow (own tier)).get? k = some v := by
  have hown : own wide = wide := by rw [own, h.inner?_eq_none]; rfl
  have htiers := Props.keys_nodup_of_canonical (canonical_own htier)
  rw [own_merged_of_wideHidden (Props.keys_nodup_of_canonical hwide) h]
  constructor
  · intro happlied k v hv
    exact happlied.of_wide k v (by rwa [hown])
  · intro hthere
    refine ⟨fun k v hv => hthere k v (by rwa [hown] at hv), fun k v hv _ => ?_⟩
    rw [Props.get?_mergeShallow htiers, hv]
    rfl

theorem applied_iff_of_tierHidden (h : TierHidden tier wide) :
    Applied tier wide (base.mergeShallow (own (tier.mergeDeep wide))) ↔
      ∀ k v, (own tier).get? k = some v → (own wide).get? k = none →
        (base.mergeShallow (around tier)).get? k = some v := by
  have hget := fun key => get?_own_merged_of_tierHidden (Props.keys_nodup_of_canonical hwide) h key
  have hunseen : ∀ k, (own wide).get? k = none →
      (base.mergeShallow (own (tier.mergeDeep wide))).get? k =
        (base.mergeShallow (around tier)).get? k := by
    intro k hk
    rw [get?_shown htier hwide, hget, hk,
      Props.get?_mergeShallow (Props.keys_nodup_of_canonical (canonical_around htier))]
    rfl
  constructor
  · intro happlied k v hv hk
    exact hunseen k hk ▸ happlied.of_tier k v hv hk
  · intro hthere
    refine ⟨fun k v hv hplain => ?_, fun k v hv hk => (hunseen k hk).trans (hthere k v hv hk)⟩
    rw [get?_shown htier hwide, hget, hv, Option.map_some, Props.mergeValue_of_plain hplain]
    rfl

/-- Overrides apply just when each that is hidden is among the props in any case. -/
theorem applied_iff :
    Applied tier wide (base.mergeShallow (own (tier.mergeDeep wide))) ↔
      (WideHidden tier wide → ∀ k v, wide.get? k = some v → v.asObject? = none →
        (base.mergeShallow (own tier)).get? k = some v) ∧
      (TierHidden tier wide → ∀ k v, (own tier).get? k = some v → (own wide).get? k = none →
        (base.mergeShallow (around tier)).get? k = some v) := by
  rcases hidden_cases tier wide with h | hsame | h
  · simp only [applied_iff_of_wideHidden htier hwide base h, h, h.not_tierHidden, true_imp_iff,
      false_imp_iff, and_true]
  · have happlied := applied_of_same htier hwide base hsame
    have hwideSeen : ¬ WideHidden tier wide := fun h' => by
      rw [h'.inner?_eq_none, h'.1] at hsame
      cases hsame
    have htierSeen : ¬ TierHidden tier wide := fun h' => h'.1 hsame
    simp only [happlied, hwideSeen, htierSeen, false_imp_iff, and_true]
  · have hwideSeen : ¬ WideHidden tier wide := fun h' => h'.not_tierHidden h
    simp only [applied_iff_of_tierHidden htier hwide base h, h, hwideSeen, true_imp_iff,
      false_imp_iff, true_and]

end Applied

theorem Canonical.tier {r : Responsive} (h : r.Canonical) (viewport : Viewport) :
    (Value.object (r.tier viewport)).Canonical := by
  unfold Responsive.tier
  apply h
  split
  · simp
  · split <;> simp

theorem Canonical.wide {r : Responsive} (h : r.Canonical) :
    (Value.object (r.wide.getD [])).Canonical := h r.wide (by simp)

theorem overrides_of_wide (r : Responsive) {viewport : Viewport} (h : viewport.isWide = true) :
    r.overrides viewport = (r.tier viewport).mergeDeep (r.wide.getD []) := by
  unfold overrides
  rw [h]
  cases r.wide with
  | none => rw [Option.getD_none, Props.mergeDeep, Props.mergeFields]
  | some wide => rfl

end Responsive

namespace Node

open Responsive

theorem bucket_eq_own (r : Responsive) (viewport : Viewport) :
    bucket r viewport = own (r.overrides viewport) := by
  unfold bucket own inner?
  cases h : (r.overrides viewport).get? "props" with
  | none => simp [h]
  | some v => cases v <;> simp [h, Value.asObject?]

theorem baseProps_of_wide {n : Node} {r : Responsive} (hr : n.responsive = some r)
    {viewport : Viewport} (h : viewport.isWide = true) :
    n.baseProps viewport =
      n.props.mergeShallow (own ((r.tier viewport).mergeDeep (r.wide.getD []))) := by
  unfold baseProps
  rw [hr]
  simp only [bucket_eq_own, overrides_of_wide r h]

/-- On a host that is wide enough the overrides of a node apply just when each that is hidden,
for want of a common form, is among the props in any case. -/
theorem wide_overrides_apply_iff {n : Node} {r : Responsive} (hr : n.responsive = some r)
    (hcanonical : r.Canonical) (d : Document) (c : Context) (host : Host)
    (hhost : Viewport.wideWidth ≤ host.width) :
    let viewport := (Scene.ofDocument d c host).viewport
    let tier := r.tier viewport
    let wide := r.wide.getD []
    Applied tier wide (n.baseProps viewport) ↔
      (WideHidden tier wide → ∀ k v, wide.get? k = some v → v.asObject? = none →
        (n.props.mergeShallow (own tier)).get? k = some v) ∧
      (TierHidden tier wide → ∀ k v, (own tier).get? k = some v → (own wide).get? k = none →
        (n.props.mergeShallow (around tier)).get? k = some v) := by
  intro viewport tier wide
  have hwide : viewport.isWide = true := decide_eq_true hhost
  rw [baseProps_of_wide hr hwide]
  exact applied_iff (hcanonical.tier viewport) hcanonical.wide n.props

def gridNode : Node where
  id := "grid"
  type := "Grid"
  props := [("dense", .bool true), ("limit", .whole 4)]
  responsive := some {
    desktop := some [("dense", .bool true), ("limit", .whole 8)]
    wide := some [("props", .object [("limit", .whole 10)])] }

theorem gridNode_applied : ∃ r, gridNode.responsive = some r ∧ r.Canonical ∧
    let viewport := (Scene.ofDocument {} {} { width := 1500, height := 900 }).viewport
    TierHidden (r.tier viewport) (r.wide.getD []) ∧
      Applied (r.tier viewport) (r.wide.getD []) (gridNode.baseProps viewport) := by
  have hcanonical : Canonical (gridNode.responsive.getD {}) := by
    simp only [gridNode, Canonical, Value.Canonical, Value.CanonicalFields, Value.whole,
      List.forall_mem_cons, List.not_mem_nil, false_imp_iff, implies_true, Option.getD_some,
      Option.getD_none, and_true]
    exact ⟨by decide, by decide, by decide, by decide, by decide⟩
  have hiff := wide_overrides_apply_iff (n := gridNode) rfl hcanonical {} {}
    { width := 1500, height := 900 } (by decide)
  refine ⟨_, rfl, hcanonical, ⟨Bool.false_ne_true, rfl⟩, hiff.2 ⟨?_, ?_⟩⟩
  · rintro ⟨htier, -⟩
    cases htier
  · rintro - k v hv hk
    change Table.get? [("dense", .bool true), ("limit", .whole 8)] k = some v at hv
    change Table.get? [("limit", Value.whole 10)] k = none at hk
    change Table.get? [("dense", .bool true), ("limit", .whole 4)] k = some v
    by_cases hdense : "dense" = k
    · simpa [Table.get?, hdense] using hv
    · by_cases hlimit : "limit" = k
      · simp [Table.get?, hlimit] at hk
      · simp [Table.get?, hdense, hlimit] at hv

def shortGridNode : Node where
  id := "grid"
  type := "Grid"
  responsive := some {
    desktop := some [("props", .object [("limit", .whole 8)])]
    wide := some [("limit", .whole 10)] }

theorem wide_overrides_not_always_apply :
    ¬ ∀ (n : Node) (r : Responsive) (d : Document) (c : Context) (host : Host),
      n.responsive = some r → r.Canonical → Viewport.wideWidth ≤ host.width →
        let viewport := (Scene.ofDocument d c host).viewport
        Applied (r.tier viewport) (r.wide.getD []) (n.baseProps viewport) := by
  intro h
  have hcanonical : Canonical (shortGridNode.responsive.getD {}) := by
    simp only [shortGridNode, Canonical, Value.Canonical, Value.CanonicalFields, Value.whole,
      List.forall_mem_cons, List.not_mem_nil, false_imp_iff, implies_true, Option.getD_some,
      Option.getD_none, and_true]
    exact ⟨by decide, by decide, ⟨by decide, by decide⟩, by decide⟩
  have happlied := h shortGridNode _ {} {} { width := 1500, height := 900 } rfl hcanonical
    (by decide)
  have hlimit := happlied.of_wide "limit" (.whole 10) rfl rfl
  cases hlimit

end Node

end PageConfig
