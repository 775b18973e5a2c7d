import PageConfig.Proofs.Document.Layout
import PageConfig.Proofs.Value.Merge
import PageConfig.View.Style

/-!
# Which layout is shown

A layout is shown with its overrides and its tokens put in, or as it was written where the
overrides make no layout of it. Without a theme and without overrides nothing is put in,
which is what an empty theme puts in.
-/

set_option autoImplicit false

namespace PageConfig

open Props

section Classes

def spaced (name : String) : String := if name = "" then "" else " " ++ name

theorem spaced_inj {a b : String} : spaced a = spaced b ↔ a = b := by
  refine ⟨fun h => ?_, congrArg spaced⟩
  have hblank : ∀ s, " " ++ s ≠ "" := fun s hs => by
    simpa using (String.append_eq_empty_iff.1 hs).1
  unfold spaced at h
  split at h <;> split at h
  · simp_all
  · exact absurd h.symm (hblank b)
  · exact absurd h (hblank a)
  · exact (String.append_right_inj " ").1 h

theorem intercalate_cons (name : String) (names : List String) :
    String.intercalate " " (name :: names) = name ++ String.join (names.map (" " ++ ·)) := by
  induction names generalizing name with
  | nil => simp
  | cons other names ih =>
    rw [String.intercalate_cons_cons, ih, List.map_cons, String.join_cons]
    simp only [String.append_assoc]

theorem join_filter (names : List String) :
    String.join ((names.filter (!·.isEmpty)).map (" " ++ ·)) = String.join (names.map spaced) := by
  induction names with
  | nil => rfl
  | cons name names ih =>
    by_cases hname : name = ""
    · simp [hname, spaced, ih]
    · simp [hname, spaced, ih]

end Classes

namespace Layout

theorem classNames_eq (kind : LayoutKind) (own caller : Option String) :
    classNames kind own caller =
      trim "config-ui-layout" ++ (spaced (trim ("config-ui-layout--" ++ kind.name)) ++
        (spaced (trim (own.getD "")) ++ spaced (trim (caller.getD "")))) := by
  have hfirst : (!(trim "config-ui-layout").isEmpty) = true := by decide
  rw [classNames, List.map_cons, List.filter_cons, if_pos hfirst, intercalate_cons, join_filter]
  simp only [List.map_cons, List.map_nil, String.join_cons, String.join_nil, String.append_empty]

theorem classNames_inj {kind : LayoutKind} {own other caller : Option String} :
    classNames kind own caller = classNames kind other caller ↔
      trim (own.getD "") = trim (other.getD "") := by
  simp only [classNames_eq, String.append_right_inj, String.append_left_inj, spaced_inj]

def shown (l : Layout) (theme : Option Theme) (caller : Option String) (animated : Bool) :
    LayoutStyle where
  className := classNames l.kind l.className caller
  display := display l.kind
  flexDirection := l.direction
  gap := l.gap
  padding := l.padding
  margin := l.margin
  justifyContent := l.alignment.bind (·.justify)
  alignItems := l.alignment.bind (·.align)
  backgroundColor := l.background.bind (·.color) <|> theme.bind (·.backgroundColor?)
  backgroundImage := l.background.bind (·.image)
  color := theme.bind (·.textColor?)
  transition := if animated then some "all 0.3s ease-in-out" else none

theorem style_eq_shown (l : Layout) (theme : Option Theme) (viewport : Viewport)
    (caller : Option String) (animated : Bool) :
    l.style theme viewport caller animated =
      (l.effective theme viewport).shown theme caller animated := rfl

/-- Tokens change no field that is shown, but for blanks around the class. -/
structure Untouched (l : Layout) (theme : Value) : Prop where
  className : ∀ s ∈ l.className, trim (resolveTheme s theme) = trim s
  direction : ∀ s ∈ l.direction, resolveTheme s theme = s
  gap : ∀ v ∈ l.gap, themeValue theme v = v
  padding : ∀ v ∈ l.padding, themeValue theme v = v
  margin : ∀ v ∈ l.margin, themeValue theme v = v
  justify : ∀ s ∈ l.alignment.bind (·.justify), resolveTheme s theme = s
  align : ∀ s ∈ l.alignment.bind (·.align), resolveTheme s theme = s
  color : ∀ s ∈ l.background.bind (·.color), resolveTheme s theme = s
  image : ∀ s ∈ l.background.bind (·.image), resolveTheme s theme = s

theorem map_eq_self_iff {α : Type} {f : α → α} {x? : Option α} :
    x? = x?.map f ↔ ∀ x ∈ x?, f x = x := by
  cases x? <;> simp [eq_comm]

theorem map_orElse_eq_iff {α : Type} {f : α → α} {x? y? : Option α} :
    (x? <|> y?) = (x?.map f <|> y?) ↔ ∀ x ∈ x?, f x = x := by
  cases x? <;> simp [eq_comm]

/-- A style tells whether tokens were put in just by the fields that they change. -/
theorem shown_themed_iff {l : Layout} {value : Value} {theme : Option Theme}
    {caller : Option String} {animated : Bool} :
    l.shown theme caller animated = (l.themed value).shown theme caller animated ↔
      l.Untouched value := by
  have hclass : trim (l.className.getD "") =
      trim ((l.className.map (resolveTheme · value)).getD "") ↔
        ∀ s ∈ l.className, trim (resolveTheme s value) = trim s := by
    cases l.className <;> simp [eq_comm]
  have hjustify : (l.alignment.map (·.themed value)).bind (·.justify) =
      (l.alignment.bind (·.justify)).map (resolveTheme · value) := by
    cases l.alignment <;> rfl
  have halign : (l.alignment.map (·.themed value)).bind (·.align) =
      (l.alignment.bind (·.align)).map (resolveTheme · value) := by
    cases l.alignment <;> rfl
  have hcolor : (l.background.map (·.themed value)).bind (·.color) =
      (l.background.bind (·.color)).map (resolveTheme · value) := by
    cases l.background <;> rfl
  have himage : (l.background.map (·.themed value)).bind (·.image) =
      (l.background.bind (·.image)).map (resolveTheme · value) := by
    cases l.background <;> rfl
  simp only [shown, themed, LayoutStyle.mk.injEq, classNames_inj, hclass, hjustify, halign,
    hcolor, himage, map_eq_self_iff, map_orElse_eq_iff, true_and, and_true]
  constructor
  · rintro ⟨className, direction, gap, padding, margin, justify, align, color, image⟩
    exact ⟨className, direction, gap, padding, margin, justify, align, color, image⟩
  · rintro ⟨className, direction, gap, padding, margin, justify, align, color, image⟩
    exact ⟨className, direction, gap, padding, margin, justify, align, color, image⟩

def overrides (l : Layout) (viewport : Viewport) : Props :=
  (l.responsive.map (·.overrides viewport)).getD []

theorem effective_eq (l : Layout) (theme : Option Theme) (viewport : Viewport) :
    l.effective theme viewport =
      if (l.overrides viewport).isEmpty && theme.isNone then l
      else match decode (.object (l.mergedFields (l.overrides viewport) theme)) with
        | .ok merged => merged
        | .error _ => l := rfl

theorem mergedFields_some (l : Layout) (overrides : Props) (t : Theme) :
    Value.object (l.mergedFields overrides (some t)) =
      themeValue t.toValue (.object (l.mergedFields overrides none)) := rfl

theorem mergedFields_nil (l : Layout) :
    Value.object (l.mergedFields [] none) = { l with responsive := none }.toValue := by
  rw [mergedFields, mergeDeep, mergeFields]
  rfl

theorem exists_decode_mergedFields_iff (l : Layout) (overrides : Props) (theme : Option Theme) :
    (∃ m, decode (.object (l.mergedFields overrides theme)) = .ok m) ↔
      ∃ m, decode (.object (l.mergedFields overrides none)) = .ok m := by
  cases theme with
  | none => rfl
  | some t =>
    rw [mergedFields_some]
    exact ignores_theme t.toValue _

theorem effective_of_no_layout {l : Layout} {viewport : Viewport}
    (h : ∀ m, decode (.object (l.mergedFields (l.overrides viewport) none)) ≠ .ok m)
    (theme : Option Theme) : l.effective theme viewport = l := by
  have hfails : ∀ m, decode (.object (l.mergedFields (l.overrides viewport) theme)) ≠ .ok m :=
    fun m hm => by
      obtain ⟨m', hm'⟩ := (exists_decode_mergedFields_iff l _ theme).1 ⟨m, hm⟩
      exact h m' hm'
  rw [effective_eq]
  split
  · rfl
  · split
    · rename_i m hm
      exact absurd hm (hfails m)
    · rfl

theorem effective_of_not_responsive {l : Layout} (hnull : l.NullFree) (hr : l.responsive = none)
    (theme : Option Theme) (viewport : Viewport) :
    l.effective theme viewport = (theme.map fun t => l.themed t.toValue).getD l := by
  have hoverrides : l.overrides viewport = [] := by rw [overrides, hr]; rfl
  have hsame : { l with responsive := none } = l := by rw [← hr]
  rw [effective_eq, hoverrides]
  cases theme with
  | none => rfl
  | some t =>
    rw [mergedFields_some, mergedFields_nil, hsame, decode_themed hnull]
    rfl

theorem style_without_responsive {l : Layout} (hnull : l.NullFree) (theme : Option Theme)
    (viewport : Viewport) (caller : Option String) (animated : Bool) :
    { l with responsive := none }.style theme viewport caller animated =
      ((theme.map fun t => l.themed t.toValue).getD l).shown theme caller animated := by
  rw [style_eq_shown, effective_of_not_responsive hnull.without_responsive rfl]
  cases theme <;> rfl

/-- Where the overrides make no layout, the style is that of the layout without them just when
the tokens of the theme change no field that is shown. -/
theorem bad_overrides_ignored_iff {v : Value} {l : Layout} (hd : decode v = .ok l)
    {viewport : Viewport}
    (hbad : ∀ m, decode (.object (l.mergedFields (l.overrides viewport) none)) ≠ .ok m)
    (theme : Option Theme) (caller : Option String) (animated : Bool) :
    l.style theme viewport caller animated =
        { l with responsive := none }.style theme viewport caller animated ↔
      ∀ t ∈ theme, l.Untouched t.toValue := by
  rw [style_without_responsive (nullFree_of_decode hd), style_eq_shown,
    effective_of_no_layout hbad]
  cases theme with
  | none => simp
  | some t => simpa using shown_themed_iff

def misdirected (gap : String) : Layout where
  gap := some (.text gap)
  responsive := some { desktop := some [("direction", .whole 5)] }

theorem decode_misdirected (gap : String) :
    decode (misdirected gap).toValue = .ok (misdirected gap) :=
  decode_toValue ⟨nofun, nofun, nofun⟩

theorem decode_ne_ok_of_direction {fields : Props} {n : Number}
    (h : fields.get? "direction" = some (.number n)) (m : Layout) :
    decode (.object fields) ≠ .ok m := by
  intro hm
  have hread := Record.read_of_decode hm
  obtain ⟨kind, direction, gap, padding, margin, className, responsive, alignment, background⟩ := m
  simp only [Attempt.seq_eq_ok, Attempt.map_eq_ok, mk.injEq, ↓existsAndEq, and_true,
    and_assoc] at hread
  obtain ⟨-, hdirection, -⟩ := hread
  obtain ⟨s, hs, -⟩ := Record.decode_of_optional hdirection h nofun
  cases Decode.text_eq_ok.1 hs

theorem misdirected_no_layout (gap : String) (m : Layout) :
    decode (.object ((misdirected gap).mergedFields ((misdirected gap).overrides .standard) none)) ≠
      .ok m := by
  have hoverrides : (misdirected gap).overrides .standard = [("direction", .whole 5)] := rfl
  refine decode_ne_ok_of_direction (n := .whole 5) ?_ m
  rw [hoverrides]
  refine (get?_mergeDeep (by simp) "direction").trans ?_
  exact congrArg some (mergeValue_of_plain rfl _)

def spacedTheme : Theme where
  spacing := some [("md", .text "1rem")]

theorem spacedTheme_gap : resolveTheme "theme(spacing.md)" spacedTheme.toValue = "1rem" := by
  have hpresent : spacedTheme.toValue.present? "spacing.md" = some (.text "1rem") := rfl
  have hreference : "theme(spacing.md)" = String.ofList (reference "spacing.md".toList) := by decide
  rw [hreference]
  exact resolveTheme_reference (by decide) (by decide) (themeToken?_of_scalar rfl hpresent)

theorem misdirected_ignored :
    decode (misdirected "1rem").toValue = .ok (misdirected "1rem") ∧
    (∀ m, decode (.object ((misdirected "1rem").mergedFields
      ((misdirected "1rem").overrides .standard) none)) ≠ .ok m) ∧
    (misdirected "1rem").style (some spacedTheme) .standard none true =
      { misdirected "1rem" with responsive := none }.style (some spacedTheme) .standard none true := by
  have hdecode := decode_misdirected "1rem"
  have hbad := misdirected_no_layout "1rem"
  refine ⟨hdecode, hbad, (bad_overrides_ignored_iff hdecode hbad _ none true).2 fun t _ => ?_⟩
  have hgap : resolveTheme "1rem" t.toValue = "1rem" := by
    rw [resolveTheme, fillReferences_of_no_paren (by decide), String.ofList_toList]
  constructor
  case gap =>
    intro v hv
    obtain rfl : Value.text "1rem" = v := Option.some.inj hv
    rw [themeValue, hgap]
  all_goals exact fun x hx => absurd hx (Option.not_mem_none x)

theorem bad_overrides_not_always_ignored :
    ¬ ∀ (v : Value) (l : Layout), decode v = .ok l → ∀ viewport : Viewport,
      (∀ m, decode (.object (l.mergedFields (l.overrides viewport) none)) ≠ .ok m) →
        ∀ theme caller animated, l.style theme viewport caller animated =
          { l with responsive := none }.style theme viewport caller animated := by
  intro h
  have hstyle := h _ _ (decode_misdirected "theme(spacing.md)") .standard (misdirected_no_layout _)
    (some spacedTheme) none true
  rw [style_without_responsive (nullFree_of_decode (decode_misdirected _)), style_eq_shown,
    effective_of_no_layout (misdirected_no_layout _)] at hstyle
  have hgap := congrArg LayoutStyle.gap hstyle
  change some (Value.text "theme(spacing.md)") =
    some (.text (resolveTheme "theme(spacing.md)" spacedTheme.toValue)) at hgap
  rw [spacedTheme_gap] at hgap
  simp at hgap

theorem mergedFields_nothing (l : Layout) (overrides : Props) :
    l.mergedFields overrides (some {}) = l.mergedFields overrides none := by
  have hempty : ({} : Theme).toValue = .object [] := rfl
  have hfields := mergedFields_some l overrides {}
  rw [hempty, themeValue_of_no_token themeToken?_nothing] at hfields
  exact Value.object.inj hfields

/-- Without a theme a layout is shown as with an empty one. -/
theorem style_none_eq_style_empty {v : Value} {l : Layout} (hd : decode v = .ok l)
    (viewport : Viewport) (caller : Option String) (animated : Bool) :
    l.style none viewport caller animated = l.style (some {}) viewport caller animated := by
  rw [style_eq_shown, style_eq_shown, effective_eq, effective_eq, mergedFields_nothing]
  cases hoverrides : l.overrides viewport with
  | nil =>
    rw [mergedFields_nil, decode_toValue (nullFree_of_decode hd).without_responsive]
    rfl
  | cons e overrides => rfl

theorem misdirected_style_none :
    decode (misdirected "theme(spacing.md)").toValue = .ok (misdirected "theme(spacing.md)") ∧
    (misdirected "theme(spacing.md)").style none .standard none true =
      (misdirected "theme(spacing.md)").style (some {}) .standard none true :=
  ⟨decode_misdirected _, style_none_eq_style_empty (decode_misdirected _) .standard none true⟩

end Layout

end PageConfig
