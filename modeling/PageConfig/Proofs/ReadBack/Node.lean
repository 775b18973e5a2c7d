import PageConfig.Document.Node
import PageConfig.Proofs.ReadBack.Layout

/-!
# Nodes read back

Conditions nest in conditions and nodes in nodes, so both laws are inductions on
the size of the value that was decoded.
-/

set_option autoImplicit false

namespace PageConfig

variable {n : Nat}

theorem Operator.name_ofName (name : String) : (ofName name).name = name := by
  unfold ofName
  cases hfind : ([equals, contains, greaterThan, lessThan, isIn, .exists, isMatch] :
      List Operator).find? fun o => o.name = name with
  | none => rfl
  | some o => simpa using List.find?_some hfind

theorem Operator.reads_back : ReadsBack n Operator.decode fun o => .text o.name := by
  constructor
  · intro v o hn hv h
    obtain ⟨name, -, rfl⟩ := map_eq_ok.1 h
    rw [name_ofName]
    rfl
  · intro v o hn hv h
    exact nofun

theorem Connective.reads_back : ReadsBack n Connective.decode fun c => .text c.name := by
  apply ReadsBack.choice
  intro c
  cases c <;> rfl

namespace Condition

theorem decode_eq : decode = fun v => Record.decode "Condition" 5 v fun r =>
    Condition.mk
      <$> r.withDefault 0 "field" "" Decode.text
      <*> r.required 1 "operator" Operator.decode
      <*> r.withDefault 2 "value" .null Decode.value
      <*> r.optional 3 "logicalOperator" Connective.decode
      <*> r.nullDefault 4 "nested" [] (Decode.list decode) := by
  funext v
  rw [decode]
  apply congrArg (Record.decode _ _ v)
  funext r
  rw [Record.below_eq_nullDefault (Decode.list decode)]
  · intro h
    rfl
  · intro w h hw
    cases w with
    | null => exact absurd rfl hw
    | _ => exact Decode.listBelow_eq_list decode

theorem toValues_eq (cs : List Condition) : toValues cs = cs.map toValue := by
  induction cs with
  | nil => rfl
  | cons c cs ih => rw [toValues, ih, List.map_cons]

theorem toValue_eq : toValue = fun c => .ofFields [
    ("field", some (.text c.field)),
    ("operator", some (.text c.operator.name)),
    ("value", some c.value),
    ("logicalOperator", c.connective.map fun c => .text c.name),
    ("nested", if c.nested.isEmpty then none else some (.list (c.nested.map toValue)))] := by
  funext c
  cases c with
  | mk field operator value connective nested => rw [toValue, toValues_eq]

theorem reads_back : ReadsBack n decode toValue := by
  induction n with
  | zero => exact ReadsBack.zero
  | succ n ih =>
    rw [decode_eq, toValue_eq]
    apply ReadsBack.record
    · intro c
      simp
    · rintro v w ⟨field, operator, value, connective, nested⟩ r s hn hv look h
      simp only [Attempt.seq_eq_ok, Attempt.map_eq_ok, mk.injEq, ↓existsAndEq, and_true,
        and_assoc] at h ⊢
      obtain ⟨hfield, hoperator, hvalue, hconnective, hnested⟩ := h
      have hbelow : ReadsBack (sizeOf v) decode toValue := ih.mono (by omega)
      exact ⟨ReadsBack.text.withDefault hv rfl hfield (look rfl),
        Operator.reads_back.required hv hoperator (look rfl),
        ReadsBack.value.withDefault hv rfl hvalue (look rfl),
        Connective.reads_back.optional hv hconnective (look rfl),
        hbelow.list.nullDefault_omitted hv rfl hnested (look rfl)⟩

end Condition

theorem Styles.reads_back : ReadsBack n Styles.decode Styles.toValue := by
  apply ReadsBack.record
  · intro t
    simp
  · rintro v w ⟨className, css, hover, focus, active⟩ r s hn hv look h
    simp only [Attempt.seq_eq_ok, Attempt.map_eq_ok, mk.injEq, ↓existsAndEq, and_true,
      and_assoc] at h ⊢
    obtain ⟨hclassName, hcss, hhover, hfocus, hactive⟩ := h
    exact ⟨ReadsBack.text.optional hv hclassName (look rfl),
      ReadsBack.table.optional hv hcss (look rfl),
      ReadsBack.table.optional hv hhover (look rfl),
      ReadsBack.table.optional hv hfocus (look rfl),
      ReadsBack.table.optional hv hactive (look rfl)⟩

theorem NodeAnimation.reads_back : ReadsBack n NodeAnimation.decode NodeAnimation.toValue := by
  apply ReadsBack.record
  · intro a
    simp
  · rintro v w ⟨entrance, exit, duration, delay, easing⟩ r s hn hv look h
    simp only [Attempt.seq_eq_ok, Attempt.map_eq_ok, mk.injEq, ↓existsAndEq, and_true,
      and_assoc] at h ⊢
    obtain ⟨hentrance, hexit, hduration, hdelay, heasing⟩ := h
    exact ⟨ReadsBack.text.optional hv hentrance (look rfl),
      ReadsBack.text.optional hv hexit (look rfl),
      ReadsBack.real.optional hv hduration (look rfl),
      ReadsBack.real.optional hv hdelay (look rfl),
      ReadsBack.text.optional hv heasing (look rfl)⟩

theorem Accessibility.reads_back : ReadsBack n Accessibility.decode Accessibility.toValue := by
  apply ReadsBack.record
  · intro a
    simp
  · rintro v w ⟨ariaLabel, ariaDescribedBy, role, tabIndex, focusable, screenReaderOnly⟩ r s hn hv
      look h
    simp only [Attempt.seq_eq_ok, Attempt.map_eq_ok, mk.injEq, ↓existsAndEq, and_true,
      and_assoc] at h ⊢
    obtain ⟨hariaLabel, hariaDescribedBy, hrole, htabIndex, hfocusable, hscreenReaderOnly⟩ := h
    exact ⟨ReadsBack.text.optional hv hariaLabel (look rfl),
      ReadsBack.text.optional hv hariaDescribedBy (look rfl),
      ReadsBack.text.optional hv hrole (look rfl),
      ReadsBack.integer.optional hv htabIndex (look rfl),
      ReadsBack.bool.optional hv hfocusable (look rfl),
      ReadsBack.bool.optional hv hscreenReaderOnly (look rfl)⟩

namespace Node

theorem decode_eq : decode = fun v => Record.decode "ComponentNode" 11 v fun r =>
    Node.mk
      <$> r.withDefault 0 "id" "" (fun w => (Decode.scalarText w).map (·.getD ""))
      <*> r.nullDefault 1 "type" "" Decode.text
      <*> r.nullDefault 2 "props" [] Decode.table
      <*> r.nullDefault 3 "order" 0 (Decode.integer .signed64)
      <*> r.nullDefault 4 "children" [] (Decode.list decode)
      <*> r.nullDefault 5 "conditions" [] (Decode.list Condition.decode)
      <*> r.optional 6 "responsive" Responsive.decode
      <*> r.optional 7 "styles" Styles.decode
      <*> r.optional 8 "animation" NodeAnimation.decode
      <*> r.optional 9 "accessibility" Accessibility.decode
      <*> r.optional 10 "errorFallback" decode := by
  funext v
  rw [decode]
  apply congrArg (Record.decode _ _ v)
  funext r
  rw [Record.below_eq_nullDefault (Decode.list decode), Record.below_eq_optional decode]
  · intro h
    rfl
  · intro w h hw
    cases w with
    | null => exact absurd rfl hw
    | _ => rfl
  · intro h
    rfl
  · intro w h hw
    cases w with
    | null => exact absurd rfl hw
    | _ => exact Decode.listBelow_eq_list decode

theorem toValues_eq (ns : List Node) : toValues ns = ns.map toValue := by
  induction ns with
  | nil => rfl
  | cons m ns ih => rw [toValues, ih, List.map_cons]

theorem toValue_eq : toValue = fun m => .ofFields [
    ("id", some (.text m.id)),
    ("type", some (.text m.type)),
    ("props", some (.object m.props)),
    ("order", some (.whole m.order)),
    ("children", if m.children.isEmpty then none else some (.list (m.children.map toValue))),
    ("conditions",
      if m.conditions.isEmpty then none else some (.list (m.conditions.map Condition.toValue))),
    ("responsive", m.responsive.map Responsive.toValue),
    ("styles", m.styles.map Styles.toValue),
    ("animation", m.animation.map NodeAnimation.toValue),
    ("accessibility", m.accessibility.map Accessibility.toValue),
    ("errorFallback", m.errorFallback.map toValue)] := by
  funext m
  cases m with
  | mk id type props order children conditions responsive styles animation accessibility
      errorFallback =>
    rw [toValue, toValues_eq]
    cases errorFallback <;> rfl

theorem reads_back : ReadsBack n decode toValue := by
  induction n with
  | zero => exact ReadsBack.zero
  | succ n ih =>
    rw [decode_eq, toValue_eq]
    apply ReadsBack.record
    · intro m
      simp
    · rintro v w ⟨id, type, props, order, children, conditions, responsive, styles, animation,
        accessibility, errorFallback⟩ r s hn hv look h
      simp only [Attempt.seq_eq_ok, Attempt.map_eq_ok, mk.injEq, ↓existsAndEq, and_true,
        and_assoc] at h ⊢
      obtain ⟨hid, htype, hprops, horder, hchildren, hconditions, hresponsive, hstyles, hanimation,
        haccessibility, herrorFallback⟩ := h
      have hbelow : ReadsBack (sizeOf v) decode toValue := ih.mono (by omega)
      exact ⟨ReadsBack.scalarText.withDefault hv rfl hid (look rfl),
        ReadsBack.text.nullDefault hv rfl htype (look rfl),
        ReadsBack.table.nullDefault hv rfl hprops (look rfl),
        ReadsBack.integer.nullDefault hv rfl horder (look rfl),
        hbelow.list.nullDefault_omitted hv rfl hchildren (look rfl),
        Condition.reads_back.list.nullDefault_omitted hv rfl hconditions (look rfl),
        Responsive.reads_back.optional hv hresponsive (look rfl),
        Styles.reads_back.optional hv hstyles (look rfl),
        NodeAnimation.reads_back.optional hv hanimation (look rfl),
        Accessibility.reads_back.optional hv haccessibility (look rfl),
        hbelow.optional hv herrorFallback (look rfl)⟩

end Node

end PageConfig
