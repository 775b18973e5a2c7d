import PageConfig.Context.Basic
import PageConfig.Proofs.ReadBack.Document

/-!
# Contexts read back

With contexts, everything that is decoded from raw data has its law: a document,
a context or a theme that came from a canonical value comes back from its own
written form.
-/

set_option autoImplicit false

namespace PageConfig

variable {n : Nat}

theorem ThemeMode.reads_back : ReadsBack n ThemeMode.decode fun m => .text m.name := by
  apply ReadsBack.choice
  intro m
  cases m <;> rfl

theorem Connection.reads_back : ReadsBack n Connection.decode fun c => .text c.name := by
  apply ReadsBack.choice
  intro c
  cases c <;> rfl

theorem Performance.reads_back : ReadsBack n Performance.decode Performance.toValue := by
  apply ReadsBack.record
  · intro p
    simp
  · rintro v w ⟨isSlowDevice, connection⟩ r s hn hv look h
    simp only [Attempt.seq_eq_ok, Attempt.map_eq_ok, mk.injEq, ↓existsAndEq, and_true] at h ⊢
    obtain ⟨hisSlowDevice, hconnection⟩ := h
    exact ⟨ReadsBack.bool.optional hv hisSlowDevice (look rfl),
      Connection.reads_back.optional hv hconnection (look rfl)⟩

theorem Viewport.reads_back : ReadsBack n Viewport.decode Viewport.toValue := by
  apply ReadsBack.record
  · intro p
    simp
  · rintro v w ⟨width, height, isMobile, isTablet, isDesktop⟩ r s hn hv look h
    simp only [Attempt.seq_eq_ok, Attempt.map_eq_ok, mk.injEq, ↓existsAndEq, and_true,
      and_assoc] at h ⊢
    obtain ⟨hwidth, hheight, hisMobile, hisTablet, hisDesktop⟩ := h
    exact ⟨(ReadsBack.natural rfl).required hv hwidth (look rfl),
      (ReadsBack.natural rfl).required hv hheight (look rfl),
      ReadsBack.bool.required hv hisMobile (look rfl),
      ReadsBack.bool.required hv hisTablet (look rfl),
      ReadsBack.bool.required hv hisDesktop (look rfl)⟩

namespace Context

theorem reads_back : ReadsBack n decode toValue := by
  apply ReadsBack.openRecord
  · decide
  · intro c
    rfl
  · rintro v ⟨user, theme, viewport, feature, data, state, performance, extra⟩ r rest hn hv h
    simp only [Attempt.seq_eq_ok, Attempt.map_eq_ok, Attempt.pure_eq_ok, mk.injEq, ↓existsAndEq,
      and_true, true_and, and_assoc] at h ⊢
    obtain ⟨huser, htheme, hviewport, hfeature, hdata, hstate, hperformance, hrest⟩ := h
    refine ⟨hrest, fun look => ?_⟩
    exact ⟨ReadsBack.optionalValue hv huser (look rfl),
      ThemeMode.reads_back.optional hv htheme (look rfl),
      Viewport.reads_back.optional hv hviewport (look rfl),
      ReadsBack.table.optional hv hfeature (look rfl),
      ReadsBack.table.optional hv hdata (look rfl),
      ReadsBack.table.optional hv hstate (look rfl),
      Performance.reads_back.optional hv hperformance (look rfl), hrest⟩

theorem ofValue_eq_ok_iff {v : Value} {c : Context} : ofValue v = .ok c ↔ decode v = .ok c := by
  unfold ofValue
  cases decode v with
  | ok e => exact ⟨fun h => congrArg Except.ok (Except.ok.inj h),
      fun h => congrArg Except.ok (Except.ok.inj h)⟩
  | error e => exact ⟨nofun, nofun⟩

end Context

/-- Whatever a canonical value decodes to comes back from its written form. -/
theorem decoded_reads_back (v : Value) (hv : v.Canonical) :
    (∀ d, Document.ofValue v = .ok d → Document.ofValue d.toValue = .ok d) ∧
      (∀ c, Context.ofValue v = .ok c → Context.ofValue c.toValue = .ok c) ∧
      ∀ t, Theme.decode v = .ok t → Theme.decode t.toValue = .ok t := by
  refine ⟨fun d h => ?_, fun c h => ?_, fun t h => ?_⟩
  · obtain ⟨fields, rfl, hd⟩ := Document.ofValue_eq_ok h
    apply Document.ofValue_toValue
    exact Document.reads_back.again (Nat.lt_succ_self _)
      (Document.canonical_withComponentList hv) hd
  · apply Context.ofValue_eq_ok_iff.2
    exact Context.reads_back.again (Nat.lt_succ_self _) hv (Context.ofValue_eq_ok_iff.1 h)
  · exact Theme.reads_back.again (Nat.lt_succ_self _) hv h

def mixedSettings : Value := .object [
  ("accent", .text "red"),
  ("colors", .object [("brand", .whole 3), ("primary", .text "blue")]),
  ("components", .list [.list [.whole 7, .text "card", .null, .null, .list [.object [
    ("conditions", .list [.object [
      ("nested", .list [.object [("operator", .text "exists")]]),
      ("operator", .text "startsWith")]])]]]]),
  ("layout", .null),
  ("version", .bool true),
  ("viewport", .list [.whole 800, .whole 600, .bool false, .bool true, .bool false])]

theorem mixedSettings_reads_back :
    mixedSettings.Canonical ∧
      (∃ d, Document.ofValue mixedSettings = .ok d ∧ Document.ofValue d.toValue = .ok d) ∧
      (∃ c, Context.ofValue mixedSettings = .ok c ∧ Context.ofValue c.toValue = .ok c) ∧
      ∃ t, Theme.decode mixedSettings = .ok t ∧ Theme.decode t.toValue = .ok t := by
  have hv : mixedSettings.Canonical := by
    simp only [mixedSettings, Value.Canonical, Value.CanonicalItems, Value.CanonicalFields,
      Value.whole, and_true, true_and]
    exact ⟨by decide, by decide, by decide, by decide, by decide⟩
  obtain ⟨hdocument, hcontext, htheme⟩ := decoded_reads_back mixedSettings hv
  obtain ⟨d, hd⟩ := exists_of_isOk (x := Document.ofValue mixedSettings) (by decide +kernel)
  obtain ⟨c, hc⟩ := exists_of_isOk (x := Context.ofValue mixedSettings) rfl
  obtain ⟨t, ht⟩ := exists_of_isOk (x := Theme.decode mixedSettings) rfl
  exact ⟨hv, ⟨d, hd, hdocument d hd⟩, ⟨c, hc, hcontext c hc⟩, ⟨t, ht, htheme t ht⟩⟩

end PageConfig
