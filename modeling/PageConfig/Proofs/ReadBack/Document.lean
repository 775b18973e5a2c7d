import PageConfig.Document.Basic
import PageConfig.Proofs.ReadBack.Node
import PageConfig.Proofs.ReadBack.Theme

/-!
# Documents read back

A document that is written has a list of components, so its components are taken
as they are when it is read back.
-/

set_option autoImplicit false

namespace PageConfig

variable {n : Nat}

theorem Metadata.reads_back : ReadsBack n Metadata.decode Metadata.toValue := by
  apply ReadsBack.record
  · intro m
    simp
  · rintro v w ⟨name, description, tags, author, createdAt, updatedAt, performance⟩ r s hn hv look h
    simp only [Attempt.seq_eq_ok, Attempt.map_eq_ok, mk.injEq, ↓existsAndEq, and_true,
      and_assoc] at h ⊢
    obtain ⟨hname, hdescription, htags, hauthor, hcreatedAt, hupdatedAt, hperformance⟩ := h
    exact ⟨ReadsBack.text.optional hv hname (look rfl),
      ReadsBack.text.optional hv hdescription (look rfl),
      ReadsBack.text.list.withDefault_omitted hv rfl htags (look rfl),
      ReadsBack.text.optional hv hauthor (look rfl),
      ReadsBack.text.optional hv hcreatedAt (look rfl),
      ReadsBack.text.optional hv hupdatedAt (look rfl),
      ReadsBack.table.optional hv hperformance (look rfl)⟩

theorem Boundary.reads_back : ReadsBack n Boundary.decode Boundary.toValue := by
  apply ReadsBack.record
  · intro b
    simp
  · rintro v w ⟨enabled, fallbackComponent, onError, retryButton⟩ r s hn hv look h
    simp only [Attempt.seq_eq_ok, Attempt.map_eq_ok, mk.injEq, ↓existsAndEq, and_true,
      and_assoc] at h ⊢
    obtain ⟨henabled, hfallbackComponent, honError, hretryButton⟩ := h
    exact ⟨ReadsBack.bool.withDefault hv rfl henabled (look rfl),
      ReadsBack.text.optional hv hfallbackComponent (look rfl),
      ReadsBack.text.optional hv honError (look rfl),
      ReadsBack.bool.optional hv hretryButton (look rfl)⟩

theorem Loading.reads_back : ReadsBack n Loading.decode Loading.toValue := by
  apply ReadsBack.record
  · intro l
    simp
  · rintro v w ⟨enabled, component, delay, minDuration⟩ r s hn hv look h
    simp only [Attempt.seq_eq_ok, Attempt.map_eq_ok, mk.injEq, ↓existsAndEq, and_true,
      and_assoc] at h ⊢
    obtain ⟨henabled, hcomponent, hdelay, hminDuration⟩ := h
    exact ⟨ReadsBack.bool.withDefault hv rfl henabled (look rfl),
      ReadsBack.text.optional hv hcomponent (look rfl),
      (ReadsBack.natural rfl).optional hv hdelay (look (by cases delay <;> rfl)),
      (ReadsBack.natural rfl).optional hv hminDuration (look (by cases minDuration <;> rfl))⟩

theorem Animations.reads_back : ReadsBack n Animations.decode Animations.toValue := by
  apply ReadsBack.record
  · intro a
    simp
  · rintro v w ⟨enabled, duration, easing, stagger, presets⟩ r s hn hv look h
    simp only [Attempt.seq_eq_ok, Attempt.map_eq_ok, mk.injEq, ↓existsAndEq, and_true,
      and_assoc] at h ⊢
    obtain ⟨henabled, hduration, heasing, hstagger, hpresets⟩ := h
    exact ⟨ReadsBack.bool.withDefault hv rfl henabled (look rfl),
      ReadsBack.real.optional hv hduration (look rfl),
      ReadsBack.text.optional hv heasing (look rfl),
      ReadsBack.real.optional hv hstagger (look rfl),
      ReadsBack.table.optional hv hpresets (look rfl)⟩

namespace Document

theorem reads_back : ReadsBack n decode toValue := by
  apply ReadsBack.record
  · intro d
    simp
  · rintro v w ⟨id, version, layout, theme, metadata, components, errorBoundary, loading,
      animations⟩ r s hn hv look h
    simp only [Attempt.seq_eq_ok, Attempt.map_eq_ok, mk.injEq, ↓existsAndEq, and_true,
      and_assoc] at h ⊢
    obtain ⟨hid, hversion, hlayout, htheme, hmetadata, hcomponents, herrorBoundary, hloading,
      hanimations⟩ := h
    have hplain : Layout.decode (Layout.toValue {}) = .ok {} :=
      Layout.reads_back.again (Nat.lt_succ_self (sizeOf (Value.object []))) ⟨.nil, trivial⟩ rfl
    exact ⟨ReadsBack.scalarText.withDefault hv rfl hid (look rfl),
      ReadsBack.optionalScalar (look rfl),
      Layout.reads_back.nullDefault hv hplain hlayout (look rfl),
      Theme.reads_back.optional hv htheme (look rfl),
      Metadata.reads_back.optional hv hmetadata (look rfl),
      Node.reads_back.list.nullDefault hv rfl hcomponents (look rfl),
      Boundary.reads_back.optional hv herrorBoundary (look rfl),
      Loading.reads_back.optional hv hloading (look rfl),
      Animations.reads_back.optional hv hanimations (look rfl)⟩

theorem canonical_withComponentList {fields : Props} (h : (Value.object fields).Canonical) :
    (Value.object (withComponentList fields)).Canonical := by
  unfold withComponentList
  simp only [Value.Canonical] at h
  split
  · simpa only [Value.Canonical] using h
  · simpa only [Value.Canonical] using h
  · simpa only [Value.Canonical] using h
  · simp only [Value.Canonical]
    refine ⟨Table.ascending_insert h.1 _ _, Value.canonicalFields_iff.2 ?_⟩
    intro e he
    rcases Table.mem_insert he with rfl | he
    · trivial
    · exact Value.canonicalFields_iff.1 h.2 e he

theorem ofValue_eq_ok {v : Value} {d : Document} (h : ofValue v = .ok d) :
    ∃ fields, v = .object fields ∧ decode (.object (withComponentList fields)) = .ok d := by
  cases v with
  | object fields =>
    refine ⟨fields, rfl, ?_⟩
    cases hd : decode (.object (withComponentList fields)) with
    | ok e =>
      simp only [ofValue, hd] at h
      exact congrArg Except.ok (Except.ok.inj h)
    | error e =>
      simp only [ofValue, hd] at h
      cases h
  | _ => cases h

theorem ofValue_toValue {d : Document} (h : decode d.toValue = .ok d) :
    ofValue d.toValue = .ok d := by
  have hcomponents (fields : Props) (hfields : d.toValue = .object fields) :
      withComponentList fields = fields := by
    have hget : fields.get? "components" = some (.list (d.components.map Node.toValue)) := by
      rw [← Value.object.inj hfields, Props.get?_ofFields]
      · rfl
      · simp
    unfold withComponentList
    rw [hget]
  rw [toValue, Value.ofFields, ofValue, hcomponents _ rfl]
  rw [toValue, Value.ofFields] at h
  rw [h]

end Document

end PageConfig
