import PageConfig.Document.Theme
import PageConfig.Proofs.ReadBack.Basic

/-!
# Themes read back

Sections and colors that a theme does not name come back with the others.
-/

set_option autoImplicit false

namespace PageConfig

variable {n : Nat}

theorem TextColors.reads_back : ReadsBack n TextColors.decode TextColors.toValue := by
  apply ReadsBack.record
  · intro c
    simp
  · rintro v w ⟨primary, secondary, muted⟩ r s hn hv look h
    simp only [Attempt.seq_eq_ok, Attempt.map_eq_ok, mk.injEq, ↓existsAndEq, and_true,
      and_assoc] at h ⊢
    obtain ⟨hprimary, hsecondary, hmuted⟩ := h
    exact ⟨ReadsBack.text.optional hv hprimary (look rfl),
      ReadsBack.text.optional hv hsecondary (look rfl),
      ReadsBack.text.optional hv hmuted (look rfl)⟩

theorem ThemeColors.reads_back : ReadsBack n ThemeColors.decode ThemeColors.toValue := by
  apply ReadsBack.openRecord
  · decide
  · intro c
    rfl
  · rintro v ⟨primary, secondary, accent, background, surface, text, border, error, warning,
      success, info, extra⟩ r rest hn hv h
    simp only [Attempt.seq_eq_ok, Attempt.map_eq_ok, Attempt.pure_eq_ok, mk.injEq, ↓existsAndEq,
      and_true, true_and, and_assoc] at h ⊢
    obtain ⟨hprimary, hsecondary, haccent, hbackground, hsurface, htext, hborder, herror, hwarning,
      hsuccess, hinfo, hrest⟩ := h
    refine ⟨hrest, fun look => ?_⟩
    exact ⟨ReadsBack.text.optional hv hprimary (look rfl),
      ReadsBack.text.optional hv hsecondary (look rfl),
      ReadsBack.text.optional hv haccent (look rfl),
      ReadsBack.text.optional hv hbackground (look rfl),
      ReadsBack.text.optional hv hsurface (look rfl),
      TextColors.reads_back.optional hv htext (look rfl),
      ReadsBack.text.optional hv hborder (look rfl),
      ReadsBack.text.optional hv herror (look rfl),
      ReadsBack.text.optional hv hwarning (look rfl),
      ReadsBack.text.optional hv hsuccess (look rfl),
      ReadsBack.text.optional hv hinfo (look rfl), hrest⟩

theorem Theme.reads_back : ReadsBack n Theme.decode Theme.toValue := by
  apply ReadsBack.openRecord
  · decide
  · intro t
    rfl
  · rintro v ⟨colors, spacing, typography, borderRadius, shadows, breakpoints, extra⟩ r rest hn
      hv h
    simp only [Attempt.seq_eq_ok, Attempt.map_eq_ok, Attempt.pure_eq_ok, mk.injEq, ↓existsAndEq,
      and_true, true_and, and_assoc] at h ⊢
    obtain ⟨hcolors, hspacing, htypography, hborderRadius, hshadows, hbreakpoints, hrest⟩ := h
    refine ⟨hrest, fun look => ?_⟩
    exact ⟨ThemeColors.reads_back.optional hv hcolors (look rfl),
      ReadsBack.table.optional hv hspacing (look rfl),
      ReadsBack.table.optional hv htypography (look rfl),
      ReadsBack.table.optional hv hborderRadius (look rfl),
      ReadsBack.table.optional hv hshadows (look rfl),
      ReadsBack.table.optional hv hbreakpoints (look rfl), hrest⟩

end PageConfig
