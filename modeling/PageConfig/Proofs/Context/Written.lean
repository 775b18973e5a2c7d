import PageConfig.Proofs.Decode.Record
import PageConfig.Proofs.ReadBack.Context

/-!
# What a context is written as

A context is written field by field, the known ones beside those it does not know. Whatever it
was decoded from holds the same at every key but the three that a host has a say in, where null
is left out of the known fields.
-/

set_option autoImplicit false

namespace PageConfig

open Value

namespace Context

def known (c : Context) : List (String × Option Value) := [
  ("user", c.user),
  ("theme", c.theme.map fun m => .text m.name),
  ("viewport", c.viewport.map Viewport.toValue),
  ("feature", c.feature.map .object),
  ("data", c.data.map .object),
  ("state", c.state.map .object),
  ("performance", c.performance.map Performance.toValue)]

theorem keys_known (c : Context) : Table.keys c.known = fieldNames := rfl

theorem exists_known (c : Context) {key : String} (h : key ∈ fieldNames) :
    ∃ x?, Table.get? c.known key = some x? :=
  Option.isSome_iff_exists.1 (Table.get?_isSome_iff.2 (c.keys_known ▸ h))

def written (c : Context) : Props := Props.ofFields (c.known ++ c.extra.mapValues some)

theorem toValue_eq (c : Context) : c.toValue = .object c.written := rfl

theorem ascending_written (c : Context) : c.written.Ascending := Table.ascending_ofList _

def hostNames : List String := ["theme", "viewport", "performance"]

/-- None of the extra fields has the name of a known one. -/
structure Tidy (c : Context) : Prop where
  ascending : c.extra.Ascending
  unknown : ∀ key ∈ fieldNames, c.extra.get? key = none

theorem Tidy.get?_written {c : Context} (h : c.Tidy) (key : String) :
    c.written.get? key =
      if key ∈ fieldNames then (Table.get? c.known key).join else c.extra.get? key := by
  have hextra : c.extra.without fieldNames = c.extra := by
    apply Table.ext_of_ascending (Props.ascending_without h.ascending _) h.ascending
    intro key
    rw [Props.get?_without]
    split
    · rename_i hkey
      exact (h.unknown key hkey).symm
    · rfl
  have hdistinct : (Table.keys c.known).Nodup := by simp [known]
  have hget := Props.get?_ofFields_without hdistinct h.ascending key
  rwa [keys_known, hextra] at hget

/-- The extra fields are those of an object, and so are the known ones that a host has no say
in, unless they are null. -/
structure Carries (c : Context) (fields : Props) : Prop where
  extra : c.extra = fields.without fieldNames
  kept : ∀ e ∈ c.known, e.1 ∉ hostNames → e.2 = (fields.get? e.1).filter (!·.isNull)

structure Reads (c : Context) (fields : Props) : Prop extends Carries c fields where
  absent : ∀ e ∈ c.known, e.2 = none ↔ (fields.get? e.1).filter (!·.isNull) = none

theorem reads_of_ofValue {v : Value} {c : Context} (h : ofValue v = .ok c) :
    ∃ fields, v = .object fields ∧ c.Reads fields := by
  obtain ⟨fields, rfl, hread⟩ := Record.fields_of_decodeOpen (ofValue_eq_ok_iff.1 h)
  refine ⟨fields, rfl, ?_⟩
  obtain ⟨user, theme, viewport, feature, data, state, performance, extra⟩ := c
  simp only [Attempt.seq_eq_ok, Attempt.map_eq_ok, Attempt.pure_eq_ok, mk.injEq, ↓existsAndEq,
    and_true, true_and, and_assoc] at hread
  obtain ⟨huser, htheme, hviewport, hfeature, hdata, hstate, hperformance, rfl⟩ := hread
  have kept := fun {i name} {s? : Option Props} {r : Record (.object fields)}
    (hr : r.optional i name Decode.table = .ok s?) (_ : name ∉ hostNames) =>
      Record.written_of_optional Decode.table_eq_ok.1 hr
  have huser' : user.map id = _ := Record.written_of_optional Except.ok.inj huser
  rw [Option.map_id] at huser'
  have absent := fun {α i name} {decode : Decoder α} {a? : Option α} {encode : α → Value}
    {r : Record (.object fields)} (hr : r.optional i name decode = .ok a?) =>
      Option.map_eq_none_iff (f := encode).trans (Record.optional_eq_none_iff hr)
  refine ⟨⟨rfl, ?_⟩, ?_⟩
  -- field by field, and of the three that a host has its say in nothing is to be shown
  · simp only [known, List.forall_mem_cons]
    exact ⟨fun _ => huser', fun h => absurd (by decide) h, fun h => absurd (by decide) h,
      kept hfeature, kept hdata, kept hstate, fun h => absurd (by decide) h, nofun⟩
  · simp only [known, List.forall_mem_cons]
    exact ⟨Record.optional_eq_none_iff huser, absent htheme, absent hviewport, absent hfeature,
      absent hdata, absent hstate, absent hperformance, nofun⟩

namespace Carries

variable {c : Context} {fields : Props} (h : c.Carries fields) (hfields : fields.Ascending)

include h

theorem effective (host : Host) : (c.effective host).Carries fields := by
  refine ⟨h.extra, ?_⟩
  have hkept := h.kept
  simp only [known, List.forall_mem_cons] at hkept ⊢
  obtain ⟨huser, -, -, hfeature, hdata, hstate, -⟩ := hkept
  exact ⟨huser, fun h => absurd (by decide) h, fun h => absurd (by decide) h, hfeature, hdata,
    hstate, fun h => absurd (by decide) h, nofun⟩

include hfields

theorem tidy : c.Tidy := by
  constructor
  · rw [h.extra]
    exact Props.ascending_without hfields _
  · intro key hkey
    rw [h.extra, Props.get?_without, if_pos hkey]

theorem get?_written {key : String} (hkey : key ∉ hostNames) : c.written.get? key =
    if key ∈ fieldNames then (fields.get? key).filter (!·.isNull) else fields.get? key := by
  rw [(h.tidy hfields).get?_written]
  split
  · rename_i hknown
    obtain ⟨x?, hx⟩ := c.exists_known hknown
    rw [hx, Option.join_some]
    exact h.kept (key, x?) (Table.mem_of_get? hx) hkey
  · rename_i hunknown
    rw [h.extra, Props.get?_without, if_neg hunknown]

end Carries

theorem Reads.get?_written_isSome_iff {c : Context} {fields : Props} (h : c.Reads fields)
    (hfields : fields.Ascending) (key : String) : (c.written.get? key).isSome ↔
      ∃ x, fields.get? key = some x ∧ (key ∈ fieldNames → x ≠ .null) := by
  rw [(h.tidy hfields).get?_written]
  split
  · rename_i hknown
    obtain ⟨x?, hx⟩ := c.exists_known hknown
    rw [hx, Option.join_some, ← Option.ne_none_iff_isSome, ne_eq,
      h.absent (key, x?) (Table.mem_of_get? hx), ← ne_eq, Option.ne_none_iff_exists']
    simp only [Option.filter_eq_some_iff, Bool.not_eq_true', isNull_eq_false_iff]
    exact exists_congr fun x => and_congr_right fun _ => ⟨fun hx _ => hx, fun hx => hx hknown⟩
  · rename_i hunknown
    rw [h.extra, Props.get?_without, if_neg hunknown, Option.isSome_iff_exists]
    exact exists_congr fun x => ⟨fun hx => ⟨hx, fun h => absurd h hunknown⟩, And.left⟩

/-- What the author wrote is found again in the effective context, on any host, unless the path
begins with one of the fields whose values a host can change. -/
theorem effective_addressed {v : Value} (hv : v.Canonical) {c : Context} (hc : ofValue v = .ok c)
    (host : Host) {path : String} (h : ∀ key ∈ (segments path).head?, key ∉ hostNames) :
    (c.effective host).toValue.present? path = v.present? path := by
  obtain ⟨fields, rfl, hreads⟩ := reads_of_ofValue hc
  apply present?_congr
  intro key hkey
  have hstep : (c.effective host).toValue.step? key = _ :=
    (hreads.effective host).get?_written (Props.ascending_of_canonical hv) (h key hkey)
  rw [hstep]
  split
  · simp only [Option.filter_filter, Bool.and_self]
    rfl
  · rfl

def cartContext : Value := .object [
  ("cart", .list [.object [("count", .whole 2)]]),
  ("feature", .object [("beta", .bool true)]),
  ("theme", .text "dark"),
  ("user", .null)]

theorem cartContext_addressed : cartContext.Canonical ∧ ∃ c, ofValue cartContext = .ok c ∧
    (∀ key ∈ (segments " cart.0.count ").head?, key ∉ hostNames) ∧
    (c.effective {}).toValue.present? " cart.0.count " = some (.whole 2) := by
  have hv : cartContext.Canonical := by
    simp only [cartContext, Canonical, CanonicalItems, CanonicalFields, Value.whole, and_true]
    exact ⟨by decide, by decide, by decide⟩
  obtain ⟨c, hc⟩ := exists_of_isOk (x := ofValue cartContext) rfl
  have hpath : ∀ key ∈ (segments " cart.0.count ").head?, key ∉ hostNames := by decide
  exact ⟨hv, c, hc, hpath, (effective_addressed hv hc {} hpath).trans rfl⟩

end Context

end PageConfig
