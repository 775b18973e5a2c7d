import PageConfig.Decode.Scalar
import PageConfig.Proofs.Value.Path
import PageConfig.Proofs.Value.Table

/-!
# Records that decode

A record decodes exactly when each of its fields does. The laws of the field
readers say which values a field may have had.
-/

set_option autoImplicit false

namespace PageConfig

section Outcome

variable {ε α β : Type} {x : Except ε α} {b : β}

theorem bind_eq_ok {f : α → Except ε β} : x >>= f = .ok b ↔ ∃ a, x = .ok a ∧ f a = .ok b := by
  cases x with
  | ok a => exact ⟨fun h => ⟨a, rfl, h⟩, fun ⟨_, ha, h⟩ => Except.ok.inj ha ▸ h⟩
  | error e => exact ⟨nofun, fun ⟨_, ha, _⟩ => nomatch ha⟩

theorem map_eq_ok {f : α → β} : x.map f = .ok b ↔ ∃ a, x = .ok a ∧ f a = b := by
  cases x <;> simp [Except.map]

theorem exists_of_isOk (h : x.isOk = true) : ∃ a, x = .ok a := by
  cases x with
  | ok a => exact ⟨a, rfl⟩
  | error e => cases h

end Outcome

namespace Attempt

variable {α β : Type}

theorem ok_inj {a b : α} : (.ok a : Attempt α) = .ok b ↔ a = b :=
  ⟨fun h => Except.ok.inj h, fun h => h ▸ rfl⟩

theorem error_ne_ok {e : Site × DecodeError} {a : α} : (.error e : Attempt α) ≠ .ok a := nofun

theorem pure_eq_ok {a b : α} : (pure a : Attempt α) = .ok b ↔ a = b := ok_inj

theorem seq_eq_ok {f : Attempt (α → β)} {a : Attempt α} {b : β} :
    f <*> a = .ok b ↔ ∃ g x, f = .ok g ∧ a = .ok x ∧ g x = b := by
  change both f a = .ok b ↔ _
  constructor
  · intro h
    rcases f with e | g <;> rcases a with d | x
    · by_cases hb : d.1.before e.1 = true
      · exact absurd ((if_pos hb).symm.trans h) error_ne_ok
      · exact absurd ((if_neg hb).symm.trans h) error_ne_ok
    · exact absurd h error_ne_ok
    · exact absurd h error_ne_ok
    · exact ⟨g, x, rfl, rfl, ok_inj.1 h⟩
  · rintro ⟨g, x, rfl, rfl, rfl⟩
    rfl

theorem map_eq_ok {f : α → β} {a : Attempt α} {b : β} :
    f <$> a = .ok b ↔ ∃ x, a = .ok x ∧ f x = b := by
  change (pure f : Attempt (α → β)) <*> a = .ok b ↔ _
  rw [seq_eq_ok]
  constructor
  · rintro ⟨g, x, hg, hx, hb⟩
    exact ⟨x, hx, by rw [pure_eq_ok.1 hg, hb]⟩
  · rintro ⟨x, hx, hb⟩
    exact ⟨f, x, rfl, hx, hb⟩

theorem exists_seq_eq_ok {f : Attempt (α → β)} {a : Attempt α} :
    (∃ b, f <*> a = .ok b) ↔ (∃ g, f = .ok g) ∧ ∃ x, a = .ok x := by
  simp only [seq_eq_ok]
  constructor
  · rintro ⟨b, g, x, hg, hx, -⟩
    exact ⟨⟨g, hg⟩, x, hx⟩
  · rintro ⟨⟨g, hg⟩, x, hx⟩
    exact ⟨g x, g, x, hg, hx, rfl⟩

theorem exists_map_eq_ok {f : α → β} {a : Attempt α} :
    (∃ b, f <$> a = .ok b) ↔ ∃ x, a = .ok x := by
  simp only [map_eq_ok]
  exact ⟨fun ⟨_, x, hx, _⟩ => ⟨x, hx⟩, fun ⟨x, hx⟩ => ⟨f x, x, hx, rfl⟩⟩

theorem result_eq_ok {a : Attempt α} {x : α} : a.result = .ok x ↔ a = .ok x := by
  rcases a with e | y
  · exact ⟨fun h => absurd h nofun, fun h => absurd h error_ne_ok⟩
  · exact ⟨fun h => ok_inj.2 (Except.ok.inj h), fun h => congrArg Except.ok (ok_inj.1 h)⟩

end Attempt

namespace Record

variable {α : Type} {v : Value} {r : Record v} {i : Nat} {key : String} {a : α}

theorem canonical_field? (hv : v.Canonical) {w : Value} (h : r.field? i key = some w) :
    w.Canonical := by
  cases v with
  | object fields => exact Value.canonical_field? hv h
  | list items =>
    simp only [Value.Canonical] at hv
    exact Value.canonicalItems_iff.1 hv _ (List.mem_of_getElem? h)
  | _ => simp [field?] at h

theorem below_eq_ok {absent : Attempt α}
    {decode : (w : Value) → sizeOf w < sizeOf v → Except DecodeError α} :
    r.below i key absent decode = .ok a ↔
      r.field? i key = none ∧ absent = .ok a ∨
        ∃ (w : Value) (h : r.field? i key = some w), decode w (sizeOf_field? h) = .ok a := by
  unfold below
  split
  · rename_i hnone
    simp [hnone]
  · rename_i w hsome
    constructor
    · intro h
      refine .inr ⟨w, hsome, ?_⟩
      split at h
      · rename_i b hb
        rw [hb, Attempt.ok_inj.1 h]
      · exact absurd h Attempt.error_ne_ok
    · rintro (⟨hnone, -⟩ | ⟨u, hu, hd⟩)
      · rw [hnone] at hsome
        cases hsome
      · obtain rfl : w = u := Option.some.inj (hsome.symm.trans hu)
        rw [hd]

theorem required_eq_ok {decode : Decoder α} :
    r.required i key decode = .ok a ↔ ∃ w, r.field? i key = some w ∧ decode w = .ok a := by
  unfold required
  refine below_eq_ok.trans ?_
  constructor
  · rintro (⟨-, h⟩ | ⟨w, hw, hd⟩)
    · exact absurd h Attempt.error_ne_ok
    · exact ⟨w, hw, hd⟩
  · rintro ⟨w, hw, hd⟩
    exact .inr ⟨w, hw, hd⟩

theorem withDefault_eq_ok {decode : Decoder α} {default : α} :
    r.withDefault i key default decode = .ok a ↔
      r.field? i key = none ∧ default = a ∨
        ∃ w, r.field? i key = some w ∧ decode w = .ok a := by
  refine below_eq_ok.trans (or_congr (and_congr_right fun _ => Attempt.ok_inj) ?_)
  simp only [exists_prop]

theorem nullDefault_eq_ok {decode : Decoder α} {default : α} :
    r.nullDefault i key default decode = .ok a ↔
      (r.field? i key = none ∨ r.field? i key = some .null) ∧ default = a ∨
        ∃ w, r.field? i key = some w ∧ w ≠ .null ∧ decode w = .ok a := by
  rw [nullDefault, withDefault_eq_ok]
  constructor
  · rintro (⟨hn, hd⟩ | ⟨w, hw, hd⟩)
    · exact .inl ⟨.inl hn, hd⟩
    · by_cases hnull : w = .null
      · subst hnull
        exact .inl ⟨.inr hw, Except.ok.inj hd⟩
      · exact .inr ⟨w, hw, hnull, by simpa only [hnull] using hd⟩
  · rintro (⟨hn | hn, hd⟩ | ⟨w, hw, hnull, hd⟩)
    · exact .inl ⟨hn, hd⟩
    · exact .inr ⟨.null, hn, congrArg Except.ok hd⟩
    · exact .inr ⟨w, hw, by simpa only [hnull] using hd⟩

theorem optional_eq_ok {decode : Decoder α} {a? : Option α} :
    r.optional i key decode = .ok a? ↔
      (r.field? i key = none ∨ r.field? i key = some .null) ∧ a? = none ∨
        ∃ w a, r.field? i key = some w ∧ w ≠ .null ∧ decode w = .ok a ∧ a? = some a := by
  rw [optional, withDefault_eq_ok]
  constructor
  · rintro (⟨hn, hd⟩ | ⟨w, hw, hd⟩)
    · exact .inl ⟨.inl hn, hd.symm⟩
    · by_cases hnull : w = .null
      · subst hnull
        exact .inl ⟨.inr hw, (Except.ok.inj hd).symm⟩
      · simp only at hd
        obtain ⟨a, ha, hs⟩ := map_eq_ok.1 hd
        exact .inr ⟨w, a, hw, hnull, ha, hs.symm⟩
  · rintro (⟨hn | hn, rfl⟩ | ⟨w, a, hw, hnull, hd, rfl⟩)
    · exact .inl ⟨hn, rfl⟩
    · exact .inr ⟨.null, hn, rfl⟩
    · exact .inr ⟨w, hw, by simp only [hd, Except.map]⟩

theorem exists_required_eq_ok {decode : Decoder α} :
    (∃ a, r.required i key decode = .ok a) ↔
      ∃ w, r.field? i key = some w ∧ ∃ a, decode w = .ok a := by
  simp only [required_eq_ok]
  exact ⟨fun ⟨a, w, hw, hd⟩ => ⟨w, hw, a, hd⟩, fun ⟨w, hw, a, hd⟩ => ⟨a, w, hw, hd⟩⟩

theorem exists_withDefault_eq_ok {decode : Decoder α} {default : α} :
    (∃ a, r.withDefault i key default decode = .ok a) ↔
      ∀ w, r.field? i key = some w → ∃ a, decode w = .ok a := by
  simp only [withDefault_eq_ok]
  cases r.field? i key <;> simp

theorem decode_of_optional {decode : Decoder α} {a? : Option α}
    (hr : r.optional i key decode = .ok a?) {w : Value} (hw : r.field? i key = some w)
    (hnull : w ≠ .null) : ∃ a, decode w = .ok a ∧ a? = some a := by
  rcases optional_eq_ok.1 hr with ⟨hn | hn, -⟩ | ⟨u, a, hu, -, hd, ha⟩
  · rw [hn] at hw
    cases hw
  · exact absurd (Option.some.inj (hw.symm.trans hn)) hnull
  · exact ⟨a, Option.some.inj (hu.symm.trans hw) ▸ hd, ha⟩

theorem exists_optional_eq_ok {decode : Decoder α} :
    (∃ a?, r.optional i key decode = .ok a?) ↔
      ∀ w, r.field? i key = some w → w ≠ .null → ∃ a, decode w = .ok a := by
  constructor
  · rintro ⟨a?, h⟩ w hw hnull
    obtain ⟨a, ha, -⟩ := decode_of_optional h hw hnull
    exact ⟨a, ha⟩
  · intro h
    cases hfield : r.field? i key with
    | none => exact ⟨none, optional_eq_ok.2 (.inl ⟨.inl hfield, rfl⟩)⟩
    | some w =>
      by_cases hnull : w = .null
      · exact ⟨none, optional_eq_ok.2 (.inl ⟨.inr (hnull ▸ hfield), rfl⟩)⟩
      · obtain ⟨a, ha⟩ := h w hfield hnull
        exact ⟨some a, optional_eq_ok.2 (.inr ⟨w, a, hfield, hnull, ha, rfl⟩)⟩

/-- A decoder that is told the sizes of its values need not look at them. -/
theorem below_eq_nullDefault (decode : Decoder α) {default : α}
    {step : (w : Value) → sizeOf w < sizeOf v → Except DecodeError α}
    (hnull : ∀ h, step .null h = .ok default) (hstep : ∀ w h, w ≠ .null → step w h = decode w) :
    r.below i key (pure default) step = r.nullDefault i key default decode := by
  unfold nullDefault withDefault
  apply congrArg (r.below i key (.ok default))
  funext w h
  cases w with
  | null => exact hnull h
  | _ => exact hstep _ h nofun

theorem below_eq_optional (decode : Decoder α)
    {step : (w : Value) → sizeOf w < sizeOf v → Except DecodeError (Option α)}
    (hnull : ∀ h, step .null h = .ok none)
    (hstep : ∀ w h, w ≠ .null → step w h = (decode w).map some) :
    r.below i key (pure none) step = r.optional i key decode := by
  unfold optional withDefault
  apply congrArg (r.below i key (.ok none))
  funext w h
  cases w with
  | null => exact hnull h
  | _ => exact hstep _ h nofun

theorem read_of_decode {name : String} {arity : Nat} {read : Record v → Attempt α}
    (h : Record.decode name arity v read = .ok a) : read ⟨name, arity⟩ = .ok a := by
  cases v with
  | object fields => exact Attempt.result_eq_ok.1 h
  | list items =>
    simp only [Record.decode, Value.found] at h
    obtain ⟨b, hb, hlen⟩ := bind_eq_ok.1 h
    split at hlen
    · cases hlen
    · rw [← Except.ok.inj hlen]
      exact Attempt.result_eq_ok.1 hb
  | number n => cases n <;> cases h
  | _ => cases h

theorem decode_object {name : String} {arity : Nat} {fields : Props}
    {read : Record (.object fields) → Attempt α} :
    Record.decode name arity (.object fields) read = .ok a ↔ read ⟨name, arity⟩ = .ok a :=
  Attempt.result_eq_ok

theorem fields_of_decodeOpen {name : String} {known : List String}
    {read : Record v → Props → Attempt α} (h : decodeOpen name v known read = .ok a) :
    ∃ fields, v = .object fields ∧
      read ⟨name, known.length⟩ (fields.filter fun e => !known.contains e.1) = .ok a := by
  cases v with
  | object fields => exact ⟨fields, rfl, Attempt.result_eq_ok.1 h⟩
  | _ => cases h

end Record

namespace Decode

theorem text_eq_ok {v : Value} {s : String} : text v = .ok s ↔ v = .text s := by
  cases v <;> simp [text]

theorem table_eq_ok {v : Value} {fields : Props} : table v = .ok fields ↔ v = .object fields := by
  cases v <;> simp [table]

end Decode

theorem Record.written_of_optional {α : Type} {v : Value} {r : Record v} {i : Nat} {key : String}
    {decode : Decoder α} {encode : α → Value} (h : ∀ {w a}, decode w = .ok a → w = encode a)
    {a? : Option α} (hr : r.optional i key decode = .ok a?) :
    a?.map encode = (r.field? i key).filter (!·.isNull) := by
  rcases optional_eq_ok.1 hr with ⟨hnone | hnull, rfl⟩ | ⟨w, a, hw, hnull, hd, rfl⟩
  · rw [hnone]
    rfl
  · rw [hnull]
    rfl
  · rw [hw, Value.filter_some_of_ne_null hnull, h hd]
    rfl

theorem Record.optional_eq_none_iff {α : Type} {v : Value} {r : Record v} {i : Nat} {key : String}
    {decode : Decoder α} {a? : Option α} (hr : r.optional i key decode = .ok a?) :
    a? = none ↔ (r.field? i key).filter (!·.isNull) = none := by
  rcases optional_eq_ok.1 hr with ⟨hnone | hnull, rfl⟩ | ⟨w, a, hw, hnull, -, rfl⟩
  · rw [hnone]
    exact iff_of_true rfl rfl
  · rw [hnull]
    exact iff_of_true rfl rfl
  · rw [hw, Value.filter_some_of_ne_null hnull]
    exact iff_of_false nofun nofun

theorem Decode.listBelow_eq_list {α : Type} {v : Value} (decode : Decoder α) :
    Decode.listBelow v (fun w _ => decode w) = Decode.list decode v := by
  cases v with
  | list items =>
    simp only [listBelow, list]
    rw [List.mapM_subtype fun _ _ => rfl, List.unattach_attach]
  | _ => rfl

end PageConfig
