import PageConfig.Document.Layout
import PageConfig.Proofs.ReadBack.Basic

/-!
# Layouts read back

What was decoded as a layout, or as a part of one, is decoded again from what is
written for it.
-/

set_option autoImplicit false

namespace PageConfig

variable {n : Nat}

theorem LayoutKind.reads_back : ReadsBack n LayoutKind.decode fun k => .text k.name := by
  apply ReadsBack.choice
  intro k
  cases k <;> rfl

theorem Alignment.reads_back : ReadsBack n Alignment.decode Alignment.toValue := by
  apply ReadsBack.record
  · intro a
    simp
  · rintro v w ⟨justify, align⟩ r s hn hv look h
    simp only [Attempt.seq_eq_ok, Attempt.map_eq_ok, mk.injEq, ↓existsAndEq, and_true] at h ⊢
    obtain ⟨hjustify, halign⟩ := h
    exact ⟨ReadsBack.text.optional hv hjustify (look rfl),
      ReadsBack.text.optional hv halign (look rfl)⟩

theorem Gradient.reads_back : ReadsBack n Gradient.decode Gradient.toValue := by
  apply ReadsBack.record
  · intro g
    simp
  · rintro v w ⟨kind, colors, direction⟩ r s hn hv look h
    simp only [Attempt.seq_eq_ok, Attempt.map_eq_ok, mk.injEq, ↓existsAndEq, and_true,
      and_assoc] at h ⊢
    obtain ⟨hkind, hcolors, hdirection⟩ := h
    exact ⟨ReadsBack.text.withDefault hv rfl hkind (look rfl),
      ReadsBack.text.list.withDefault hv rfl hcolors (look rfl),
      ReadsBack.text.optional hv hdirection (look rfl)⟩

theorem Overlay.reads_back : ReadsBack n Overlay.decode Overlay.toValue := by
  apply ReadsBack.record
  · intro o
    simp
  · rintro v w ⟨color, opacity⟩ r s hn hv look h
    simp only [Attempt.seq_eq_ok, Attempt.map_eq_ok, mk.injEq, ↓existsAndEq, and_true] at h ⊢
    obtain ⟨hcolor, hopacity⟩ := h
    exact ⟨ReadsBack.text.required hv hcolor (look rfl),
      ReadsBack.real.required hv hopacity (look rfl)⟩

theorem Background.reads_back : ReadsBack n Background.decode Background.toValue := by
  apply ReadsBack.record
  · intro b
    simp
  · rintro v w ⟨color, image, gradient, pattern, overlay⟩ r s hn hv look h
    simp only [Attempt.seq_eq_ok, Attempt.map_eq_ok, mk.injEq, ↓existsAndEq, and_true,
      and_assoc] at h ⊢
    obtain ⟨hcolor, himage, hgradient, hpattern, hoverlay⟩ := h
    exact ⟨ReadsBack.text.optional hv hcolor (look rfl),
      ReadsBack.text.optional hv himage (look rfl),
      Gradient.reads_back.optional hv hgradient (look rfl),
      ReadsBack.text.optional hv hpattern (look rfl),
      Overlay.reads_back.optional hv hoverlay (look rfl)⟩

theorem Responsive.reads_back : ReadsBack n Responsive.decode Responsive.toValue := by
  apply ReadsBack.record
  · intro o
    simp
  · rintro v w ⟨mobile, tablet, desktop, wide⟩ r s hn hv look h
    simp only [Attempt.seq_eq_ok, Attempt.map_eq_ok, mk.injEq, ↓existsAndEq, and_true,
      and_assoc] at h ⊢
    obtain ⟨hmobile, htablet, hdesktop, hwide⟩ := h
    exact ⟨ReadsBack.table.optional hv hmobile (look rfl),
      ReadsBack.table.optional hv htablet (look rfl),
      ReadsBack.table.optional hv hdesktop (look rfl),
      ReadsBack.table.optional hv hwide (look rfl)⟩

theorem Layout.reads_back : ReadsBack n Layout.decode Layout.toValue := by
  apply ReadsBack.record
  · intro l
    simp
  · rintro v w ⟨kind, direction, gap, padding, margin, className, responsive, alignment,
      background⟩ r s hn hv look h
    simp only [Attempt.seq_eq_ok, Attempt.map_eq_ok, mk.injEq, ↓existsAndEq, and_true,
      and_assoc] at h ⊢
    obtain ⟨hkind, hdirection, hgap, hpadding, hmargin, hclassName, hresponsive, halignment,
      hbackground⟩ := h
    exact ⟨LayoutKind.reads_back.withDefault hv rfl hkind (look rfl),
      ReadsBack.text.optional hv hdirection (look rfl),
      ReadsBack.optionalValue hv hgap (look rfl),
      ReadsBack.optionalValue hv hpadding (look rfl),
      ReadsBack.optionalValue hv hmargin (look rfl),
      ReadsBack.text.optional hv hclassName (look rfl),
      Responsive.reads_back.optional hv hresponsive (look rfl),
      Alignment.reads_back.optional hv halignment (look rfl),
      Background.reads_back.optional hv hbackground (look rfl)⟩

end PageConfig
