import PageConfig.Document.Layout
import PageConfig.Proofs.Decode.Themed

/-!
# Layouts with tokens put in

Whether a layout decodes does not depend on the theme. A layout that is written, with the
tokens put in, and read again has the tokens in its own texts.
-/

set_option autoImplicit false

namespace PageConfig

open Props

variable {theme : Value}

theorem LayoutKind.ignores_theme : IgnoresTheme LayoutKind.decode :=
  IgnoresTheme.choice _ _

theorem LayoutKind.fills_theme : FillsTheme theme LayoutKind.decode (fun k => .text k.name) id := by
  refine ⟨fun k => ?_, fun _ => nofun⟩
  have hname : '(' ∉ k.name.toList := by cases k <;> decide
  rw [themeValue, resolveTheme, fillReferences_of_no_paren hname, String.ofList_toList]
  cases k <;> rfl

namespace Alignment

theorem ignores_theme : IgnoresTheme decode := by
  apply IgnoresTheme.record
  intro theme v w r s hs
  simp only [Attempt.exists_seq_eq_ok, Attempt.exists_map_eq_ok, IgnoresTheme.text.optional hs]

def themed (theme : Value) (a : Alignment) : Alignment where
  justify := a.justify.map (resolveTheme · theme)
  align := a.align.map (resolveTheme · theme)

theorem fills_theme : FillsTheme theme decode toValue (themed theme) := by
  apply FillsTheme.record
  · intro a
    simp
  · intro w a s look
    simp only [Attempt.seq_eq_ok, Attempt.map_eq_ok, themed, mk.injEq, ↓existsAndEq, and_true]
    exact ⟨FillsTheme.text.optional (look rfl), FillsTheme.text.optional (look rfl)⟩

end Alignment

namespace Gradient

theorem ignores_theme : IgnoresTheme decode := by
  apply IgnoresTheme.record
  intro theme v w r s hs
  simp only [Attempt.exists_seq_eq_ok, Attempt.exists_map_eq_ok, IgnoresTheme.text.optional hs,
    IgnoresTheme.text.withDefault hs, (IgnoresTheme.list Decode.text).withDefault hs]

def themed (theme : Value) (g : Gradient) : Gradient where
  kind := resolveTheme g.kind theme
  colors := g.colors
  direction := g.direction.map (resolveTheme · theme)

theorem fills_theme : FillsTheme theme decode toValue (themed theme) := by
  apply FillsTheme.record
  · intro g
    simp
  · intro w g s look
    simp only [Attempt.seq_eq_ok, Attempt.map_eq_ok, themed, mk.injEq, ↓existsAndEq, and_true,
      and_assoc]
    exact ⟨FillsTheme.text.withDefault (look rfl), FillsTheme.texts.withDefault (look rfl),
      FillsTheme.text.optional (look rfl)⟩

end Gradient

namespace Overlay

theorem ignores_theme : IgnoresTheme decode := by
  apply IgnoresTheme.record
  intro theme v w r s hs
  simp only [Attempt.exists_seq_eq_ok, Attempt.exists_map_eq_ok, IgnoresTheme.text.required hs,
    IgnoresTheme.real.required hs]

def themed (theme : Value) (o : Overlay) : Overlay where
  color := resolveTheme o.color theme
  opacity := o.opacity

theorem fills_theme : FillsTheme theme decode toValue (themed theme) := by
  apply FillsTheme.record
  · intro o
    simp
  · intro w o s look
    simp only [Attempt.seq_eq_ok, Attempt.map_eq_ok, themed, mk.injEq, ↓existsAndEq, and_true]
    exact ⟨FillsTheme.text.required (look rfl), FillsTheme.real.required (look rfl)⟩

end Overlay

namespace Background

theorem ignores_theme : IgnoresTheme decode := by
  apply IgnoresTheme.record
  intro theme v w r s hs
  simp only [Attempt.exists_seq_eq_ok, Attempt.exists_map_eq_ok, IgnoresTheme.text.optional hs,
    Gradient.ignores_theme.optional hs, Overlay.ignores_theme.optional hs]

def themed (theme : Value) (b : Background) : Background where
  color := b.color.map (resolveTheme · theme)
  image := b.image.map (resolveTheme · theme)
  gradient := b.gradient.map (·.themed theme)
  pattern := b.pattern.map (resolveTheme · theme)
  overlay := b.overlay.map (·.themed theme)

theorem fills_theme : FillsTheme theme decode toValue (themed theme) := by
  apply FillsTheme.record
  · intro b
    simp
  · intro w b s look
    simp only [Attempt.seq_eq_ok, Attempt.map_eq_ok, themed, mk.injEq, ↓existsAndEq, and_true,
      and_assoc]
    exact ⟨FillsTheme.text.optional (look rfl), FillsTheme.text.optional (look rfl),
      Gradient.fills_theme.optional (look rfl), FillsTheme.text.optional (look rfl),
      Overlay.fills_theme.optional (look rfl)⟩

end Background

namespace Responsive

theorem ignores_theme : IgnoresTheme decode := by
  apply IgnoresTheme.record
  intro theme v w r s hs
  simp only [Attempt.exists_seq_eq_ok, Attempt.exists_map_eq_ok, IgnoresTheme.table.optional hs]

def themed (theme : Value) (o : Responsive) : Responsive where
  mobile := o.mobile.map (fillTheme · theme)
  tablet := o.tablet.map (fillTheme · theme)
  desktop := o.desktop.map (fillTheme · theme)
  wide := o.wide.map (fillTheme · theme)

theorem fills_theme : FillsTheme theme decode toValue (themed theme) := by
  apply FillsTheme.record
  · intro o
    simp
  · intro w o s look
    simp only [Attempt.seq_eq_ok, Attempt.map_eq_ok, themed, mk.injEq, ↓existsAndEq, and_true,
      and_assoc]
    exact ⟨FillsTheme.table.optional (look rfl), FillsTheme.table.optional (look rfl),
      FillsTheme.table.optional (look rfl), FillsTheme.table.optional (look rfl)⟩

end Responsive

namespace Layout

theorem ignores_theme : IgnoresTheme decode := by
  apply IgnoresTheme.record
  intro theme v w r s hs
  simp only [Attempt.exists_seq_eq_ok, Attempt.exists_map_eq_ok,
    LayoutKind.ignores_theme.withDefault hs, IgnoresTheme.text.optional hs,
    IgnoresTheme.value.optional hs, Responsive.ignores_theme.optional hs,
    Alignment.ignores_theme.optional hs, Background.ignores_theme.optional hs]

def themed (theme : Value) (l : Layout) : Layout where
  kind := l.kind
  direction := l.direction.map (resolveTheme · theme)
  gap := l.gap.map (themeValue theme)
  padding := l.padding.map (themeValue theme)
  margin := l.margin.map (themeValue theme)
  className := l.className.map (resolveTheme · theme)
  responsive := l.responsive.map (·.themed theme)
  alignment := l.alignment.map (·.themed theme)
  background := l.background.map (·.themed theme)

structure NullFree (l : Layout) : Prop where
  gap : l.gap ≠ some .null
  padding : l.padding ≠ some .null
  margin : l.margin ≠ some .null

theorem NullFree.without_responsive {l : Layout} (h : l.NullFree) :
    NullFree { l with responsive := none } := ⟨h.gap, h.padding, h.margin⟩

theorem nullFree_of_decode {v : Value} {l : Layout} (hd : decode v = .ok l) : l.NullFree := by
  have given : ∀ {i key} {a? : Option Value},
      (⟨"LayoutConfig", 9⟩ : Record v).optional i key Decode.value = .ok a? → a? ≠ some .null := by
    intro i key a? h hnull
    rcases Record.optional_eq_ok.1 h with ⟨-, rfl⟩ | ⟨w, a, -, hw, ha, rfl⟩
    · cases hnull
    · exact hw ((Except.ok.inj ha).trans (Option.some.inj hnull))
  have hread := Record.read_of_decode hd
  obtain ⟨kind, direction, gap, padding, margin, className, responsive, alignment, background⟩ := l
  simp only [Attempt.seq_eq_ok, Attempt.map_eq_ok, mk.injEq, ↓existsAndEq, and_true,
    and_assoc] at hread
  obtain ⟨-, -, hgap, hpadding, hmargin, -, -, -, -⟩ := hread
  exact ⟨given hgap, given hpadding, given hmargin⟩

theorem decode_themed {l : Layout} (h : l.NullFree) (theme : Value) :
    decode (themeValue theme l.toValue) = .ok (l.themed theme) := by
  apply FillsTheme.decode_written
  · exact fun _ => rfl
  · simp
  · intro w s look
    simp only [Attempt.seq_eq_ok, Attempt.map_eq_ok, themed, mk.injEq, ↓existsAndEq, and_true,
      and_assoc]
    exact ⟨LayoutKind.fills_theme.withDefault (look rfl), FillsTheme.text.optional (look rfl),
      FillsTheme.optionalValue h.gap (look rfl), FillsTheme.optionalValue h.padding (look rfl),
      FillsTheme.optionalValue h.margin (look rfl), FillsTheme.text.optional (look rfl),
      Responsive.fills_theme.optional (look rfl), Alignment.fills_theme.optional (look rfl),
      Background.fills_theme.optional (look rfl)⟩

end Layout

section NoToken

variable (h : ∀ path, themeToken? theme path = none)

include h

theorem Alignment.themed_eq_self (a : Alignment) : a.themed theme = a := by
  simp [themed, resolveTheme_of_no_token h]

theorem Gradient.themed_eq_self (g : Gradient) : g.themed theme = g := by
  simp [themed, resolveTheme_of_no_token h]

theorem Overlay.themed_eq_self (o : Overlay) : o.themed theme = o := by
  simp [themed, resolveTheme_of_no_token h]

theorem Background.themed_eq_self (b : Background) : b.themed theme = b := by
  simp [themed, resolveTheme_of_no_token h, Gradient.themed_eq_self h, Overlay.themed_eq_self h]

theorem Responsive.themed_eq_self (o : Responsive) : o.themed theme = o := by
  have hfill : ∀ props : Props, props.fillTheme theme = props :=
    fun props => Value.object.inj (themeValue_of_no_token h (.object props))
  simp [themed, hfill]

theorem Layout.themed_eq_self (l : Layout) : l.themed theme = l := by
  have hvalue : themeValue theme = id := funext (themeValue_of_no_token h)
  simp [themed, resolveTheme_of_no_token h, hvalue, Responsive.themed_eq_self h,
    Alignment.themed_eq_self h, Background.themed_eq_self h]

end NoToken

theorem Layout.decode_toValue {l : Layout} (h : l.NullFree) : decode l.toValue = .ok l := by
  have hback := decode_themed h (.object [])
  rwa [themeValue_of_no_token themeToken?_nothing, themed_eq_self themeToken?_nothing] at hback

end PageConfig
