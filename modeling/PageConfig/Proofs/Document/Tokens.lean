import PageConfig.Document.Theme
import PageConfig.Proofs.Decode.Record
import PageConfig.Proofs.Props.ThemeReference
import PageConfig.Proofs.Value.Path

/-!
# The tokens of a theme

References look for tokens in what a theme is written as. A theme and its colors keep the
fields that they do not know, the text colors do not: of what the author wrote just the
tokens below `colors.text` that have no name there are dropped.
-/

set_option autoImplicit false

namespace PageConfig

open Value

section Fields

variable {known : List (String × Option Value)} {fields : Props} {key : String}
  (hkept : ∀ e ∈ known, e.1 = key → e.2 = (fields.get? key).filter (!·.isNull))
  {u : Value} (hu : fields.get? key = some u) (hnull : u ≠ .null)

include hkept hu hnull

theorem get?_known (hknown : key ∈ Table.keys known) : (Table.get? known key).join = some u := by
  obtain ⟨x?, hx⟩ := Option.isSome_iff_exists.1 (Table.get?_isSome_iff.2 hknown)
  have hentry : x? = (fields.get? key).filter (!·.isNull) := hkept _ (Table.mem_of_get? hx) rfl
  rw [hx, Option.join_some, hentry, hu, filter_some_of_ne_null hnull]

theorem step?_kept (distinct : (Table.keys known).Nodup) (hfields : fields.Ascending) :
    (Value.ofFields (known ++ (fields.without (Table.keys known)).mapValues some)).step? key =
      some u := by
  refine (Props.get?_ofFields_without distinct hfields key).trans ?_
  split
  · rename_i hknown
    exact get?_known hkept hu hnull hknown
  · exact hu

end Fields

namespace TextColors

def fieldNames : List String := ["primary", "secondary", "muted"]

theorem index?_eq_none {key : String} (h : key ∈ fieldNames) : index? key = none := by
  simp only [fieldNames, List.mem_cons, List.not_mem_nil, or_false] at h
  rcases h with rfl | rfl | rfl <;> rfl

theorem step?_toValue {v : Value} {c : TextColors} (hd : decode v = .ok c) {key : String}
    {u : Value} (hu : v.step? key = some u) (hnull : u ≠ .null) :
    c.toValue.step? key = if key ∈ fieldNames then some u else none := by
  have hread := Record.read_of_decode hd
  obtain ⟨primary, secondary, muted⟩ := c
  simp only [Attempt.seq_eq_ok, Attempt.map_eq_ok, mk.injEq, ↓existsAndEq, and_true,
    and_assoc] at hread
  obtain ⟨hprimary, hsecondary, hmuted⟩ := hread
  let known := [("primary", primary.map Value.text), ("secondary", secondary.map .text),
    ("muted", muted.map .text)]
  have hwritten : (Props.ofFields known).get? key = (Table.get? known key).join :=
    Props.get?_ofFields (by simp [known]) key
  refine hwritten.trans ?_
  by_cases hkey : key ∈ fieldNames
  · rw [if_pos hkey]
    cases v with
    | object fields =>
      have hkept : ∀ e ∈ known, e.1 = key → e.2 = (Table.get? fields key).filter (!·.isNull) := by
        simp only [known, List.forall_mem_cons]
        exact ⟨fun h => h ▸ Record.written_of_optional Decode.text_eq_ok.1 hprimary,
          fun h => h ▸ Record.written_of_optional Decode.text_eq_ok.1 hsecondary,
          fun h => h ▸ Record.written_of_optional Decode.text_eq_ok.1 hmuted, nofun⟩
      exact get?_known hkept hu hnull hkey
    | list items =>
      rw [Value.step?, index?_eq_none hkey] at hu
      cases hu
    | _ => cases hu
  · rw [if_neg hkey, Table.get?_eq_none_iff.2 hkey]
    rfl

def Dropped (path : List String) : Prop := ∃ key rest, path = key :: rest ∧ key ∉ fieldNames

theorem follow?_toValue {v : Value} {c : TextColors} (hd : decode v = .ok c) {x : Value}
    (hx : x.isScalar) {path : List String} (h : v.follow? path = some x) :
    c.toValue.follow? path = some x ↔ ¬ Dropped path := by
  have hv : v.isScalar = false := by
    cases v with
    | null | object | list => rfl
    | number n => cases n <;> cases hd
    | _ => cases hd
  obtain ⟨key, rest, u, rfl, hu, hnull, hrest⟩ := exists_step?_of_follow? hx hv h
  rw [follow?_cons, step?_toValue hd hu hnull]
  by_cases hkey : key ∈ fieldNames <;> simp [Dropped, hkey, hrest]

end TextColors

namespace ThemeColors

theorem step?_toValue {v : Value} (hv : v.Canonical) {c : ThemeColors} (hd : decode v = .ok c)
    {key : String} {u : Value} (hu : v.step? key = some u) (hnull : u ≠ .null) :
    (key ≠ "text" → c.toValue.step? key = some u) ∧
      (key = "text" → ∃ t, TextColors.decode u = .ok t ∧ c.toValue.step? key = some t.toValue) := by
  obtain ⟨fields, rfl, hread⟩ := Record.fields_of_decodeOpen hd
  simp only [Canonical] at hv
  obtain ⟨primary, secondary, accent, background, surface, text, border, error, warning, success,
    info, extra⟩ := c
  simp only [Attempt.seq_eq_ok, Attempt.map_eq_ok, Attempt.pure_eq_ok, mk.injEq, ↓existsAndEq,
    and_true, true_and, and_assoc] at hread
  obtain ⟨hprimary, hsecondary, haccent, hbackground, hsurface, htext, hborder, herror, hwarning,
    hsuccess, hinfo, rfl⟩ := hread
  constructor
  · intro hkey
    refine step?_kept ?_ hu hnull (by simp) hv.1
    simp only [List.forall_mem_cons]
    have kept := fun {i name} {s? : Option String} {r : Record (.object fields)}
      (h : r.optional i name Decode.text = .ok s?) (hname : name = key) =>
        hname ▸ Record.written_of_optional Decode.text_eq_ok.1 h
    exact ⟨kept hprimary, kept hsecondary, kept haccent, kept hbackground, kept hsurface,
      fun h => absurd h.symm hkey, kept hborder, kept herror, kept hwarning, kept hsuccess,
      kept hinfo, nofun⟩
  · rintro rfl
    obtain ⟨t, ht, rfl⟩ := Record.decode_of_optional htext hu hnull
    refine ⟨t, ht, ?_⟩
    exact Props.get?_ofFields_without (by simp) hv.1 "text"

def Dropped (path : List String) : Prop := ∃ rest, path = "text" :: rest ∧ TextColors.Dropped rest

theorem follow?_toValue {v : Value} (hv : v.Canonical) {c : ThemeColors} (hd : decode v = .ok c)
    {x : Value} (hx : x.isScalar) {path : List String} (h : v.follow? path = some x) :
    c.toValue.follow? path = some x ↔ ¬ Dropped path := by
  obtain ⟨fields, rfl, -⟩ := Record.fields_of_decodeOpen hd
  obtain ⟨key, rest, u, rfl, hu, hnull, hrest⟩ := exists_step?_of_follow? hx rfl h
  obtain ⟨hother, htext⟩ := step?_toValue hv hd hu hnull
  by_cases hkey : key = "text"
  · obtain ⟨t, ht, hstep⟩ := htext hkey
    rw [follow?_cons, hstep, Option.bind_some, TextColors.follow?_toValue ht hx hrest]
    simp [Dropped, hkey]
  · simp [Dropped, hother hkey, hrest, hkey]

end ThemeColors

namespace Theme

theorem step?_toValue {v : Value} (hv : v.Canonical) {t : Theme} (hd : decode v = .ok t)
    {key : String} {u : Value} (hu : v.step? key = some u) (hnull : u ≠ .null) :
    (key ≠ "colors" → t.toValue.step? key = some u) ∧
      (key = "colors" →
        ∃ c, ThemeColors.decode u = .ok c ∧ t.toValue.step? key = some c.toValue) := by
  obtain ⟨fields, rfl, hread⟩ := Record.fields_of_decodeOpen hd
  simp only [Canonical] at hv
  obtain ⟨colors, spacing, typography, borderRadius, shadows, breakpoints, extra⟩ := t
  simp only [Attempt.seq_eq_ok, Attempt.map_eq_ok, Attempt.pure_eq_ok, mk.injEq, ↓existsAndEq,
    and_true, true_and, and_assoc] at hread
  obtain ⟨hcolors, hspacing, htypography, hborderRadius, hshadows, hbreakpoints, rfl⟩ := hread
  constructor
  · intro hkey
    refine step?_kept ?_ hu hnull (by simp) hv.1
    simp only [List.forall_mem_cons]
    have kept := fun {i name} {s? : Option Props} {r : Record (.object fields)}
      (h : r.optional i name Decode.table = .ok s?) (hname : name = key) =>
        hname ▸ Record.written_of_optional Decode.table_eq_ok.1 h
    exact ⟨fun h => absurd h.symm hkey, kept hspacing, kept htypography, kept hborderRadius,
      kept hshadows, kept hbreakpoints, nofun⟩
  · rintro rfl
    obtain ⟨c, hc, rfl⟩ := Record.decode_of_optional hcolors hu hnull
    refine ⟨c, hc, ?_⟩
    exact Props.get?_ofFields_without (by simp) hv.1 "colors"

def Dropped (path : List String) : Prop :=
  ∃ rest, path = "colors" :: rest ∧ ThemeColors.Dropped rest

theorem follow?_toValue {v : Value} (hv : v.Canonical) {t : Theme} (hd : decode v = .ok t)
    {x : Value} (hx : x.isScalar) {path : List String} (h : v.follow? path = some x) :
    t.toValue.follow? path = some x ↔ ¬ Dropped path := by
  obtain ⟨fields, rfl, -⟩ := Record.fields_of_decodeOpen hd
  obtain ⟨key, rest, u, rfl, hu, hnull, hrest⟩ := exists_step?_of_follow? hx rfl h
  obtain ⟨hother, hcolors⟩ := step?_toValue hv hd hu hnull
  by_cases hkey : key = "colors"
  · obtain ⟨c, hc, hstep⟩ := hcolors hkey
    have hcanonical : u.Canonical := canonical_field? hv hu
    rw [follow?_cons, hstep, Option.bind_some,
      ThemeColors.follow?_toValue hcanonical hc hx hrest]
    simp [Dropped, hkey]
  · simp [Dropped, hother hkey, hrest, hkey]

/-- What a theme is written as holds a token where the author wrote it, and references to it
stand for its text, just when it is not dropped. -/
theorem token_kept_iff {v : Value} (hv : v.Canonical) {t : Theme} (hd : decode v = .ok t)
    {path : String} {x : Value} (hx : x.isScalar) (h : v.present? path = some x) :
    (t.toValue.present? path = v.present? path ↔ ¬ Dropped (segments path)) ∧
      (¬ Dropped (segments path) → ')' ∉ path.toList →
        resolveTheme (String.ofList (reference path.toList)) t.toValue = x.plainText) := by
  obtain ⟨hne, hfollow⟩ := (present?_eq_some_iff hx).1 h
  have hkept : t.toValue.present? path = some x ↔ ¬ Dropped (segments path) := by
    rw [present?_eq_some_iff hx, follow?_toValue hv hd hx hfollow]
    exact and_iff_right hne
  have hpath : path ≠ "" := by
    rintro rfl
    exact hne rfl
  exact ⟨h ▸ hkept, fun hdropped hclose =>
    resolveTheme_reference hpath hclose (themeToken?_of_scalar hx (hkept.2 hdropped))⟩

def brandTheme : Value := .object [
  ("brand", .object [("grid", .object [("columns", .whole 12)])]),
  ("colors", .object [
    ("ink", .text "navy"),
    ("text", .object [("inverse", .text "white"), ("muted", .text "gray")])])]

theorem brandTheme_canonical : brandTheme.Canonical := by
  simp only [brandTheme, Canonical, CanonicalFields, Value.whole, and_true]
  exact ⟨by decide, ⟨by decide, by decide⟩, by decide, by decide⟩

theorem brandTheme_tokens : ∃ t, decode brandTheme = .ok t ∧
    brandTheme.present? "brand.grid.columns" = some (.whole 12) ∧
    t.toValue.present? "brand.grid.columns" = some (.whole 12) ∧
    resolveTheme (String.ofList (reference "brand.grid.columns".toList)) t.toValue = "12" := by
  obtain ⟨t, ht⟩ := exists_of_isOk (x := decode brandTheme) rfl
  have hpresent : brandTheme.present? "brand.grid.columns" = some (.whole 12) := rfl
  have hkept : ¬ Dropped (segments "brand.grid.columns") := by
    have hpath : segments "brand.grid.columns" = ["brand", "grid", "columns"] := rfl
    rw [hpath]
    rintro ⟨rest, h, -⟩
    simp at h
  obtain ⟨hsame, htext⟩ := token_kept_iff brandTheme_canonical ht rfl hpresent
  exact ⟨t, ht, hpresent, (hsame.2 hkept).trans hpresent, htext hkept (by decide)⟩

theorem token_not_always_kept :
    ¬ ∀ (v : Value) (t : Theme) (path : String) (x : Value), v.Canonical → decode v = .ok t →
      x.isScalar → v.present? path = some x → t.toValue.present? path = v.present? path := by
  intro h
  obtain ⟨t, ht⟩ := exists_of_isOk (x := decode brandTheme) rfl
  have hpresent : brandTheme.present? "colors.text.inverse" = some (.text "white") := rfl
  have hwritten := (h brandTheme t _ _ brandTheme_canonical ht rfl hpresent).trans hpresent
  have hraw := ((present?_eq_some_iff rfl).1 hpresent).2
  have hkept := (follow?_toValue brandTheme_canonical ht rfl hraw).1
    ((present?_eq_some_iff rfl).1 hwritten).2
  have hpath : segments "colors.text.inverse" = ["colors", "text", "inverse"] := rfl
  rw [hpath] at hkept
  exact hkept ⟨_, rfl, _, rfl, _, _, rfl, by decide⟩

end Theme

end PageConfig
