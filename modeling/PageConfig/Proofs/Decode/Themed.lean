import PageConfig.Proofs.Decode.Record
import PageConfig.Proofs.Props.ThemeReference
import PageConfig.Proofs.ReadBack.Basic

/-!
# Decoding with tokens put in

Theme references put texts in the place of texts and leave lists alone, so for most decoders
they do not tell what decodes. What is made of a written record with its tokens put in is the
record with the tokens in its own texts.
-/

set_option autoImplicit false

namespace PageConfig

open Props

variable {α : Type}

def Record.Themed (theme : Value) {v w : Value} (r : Record v) (s : Record w) : Prop :=
  ∀ i key, s.field? i key = (r.field? i key).map (themeValue theme)

def IgnoresTheme (decode : Decoder α) : Prop :=
  ∀ theme v, (∃ a, decode (themeValue theme v) = .ok a) ↔ ∃ a, decode v = .ok a

namespace IgnoresTheme

theorem value : IgnoresTheme Decode.value := fun _ _ => ⟨fun _ => ⟨_, rfl⟩, fun _ => ⟨_, rfl⟩⟩

theorem text : IgnoresTheme Decode.text := by
  intro theme v
  cases v <;> simp [themeValue, Decode.text]

theorem real : IgnoresTheme Decode.real := by
  intro theme v
  cases v <;> simp [themeValue, Decode.real]

theorem table : IgnoresTheme Decode.table := by
  intro theme v
  cases v <;> simp [themeValue, Decode.table]

theorem list (decode : Decoder α) : IgnoresTheme (Decode.list decode) := by
  intro theme v
  cases v <;> simp [themeValue, Decode.list]

theorem choice (names : List (String × α)) (other : α) :
    IgnoresTheme (Decode.choice names (some other)) := by
  have hfind : ∀ s, ∃ a, Decode.choice.find names (some other) s = .ok a := by
    intro s
    unfold Decode.choice.find
    cases names.lookup s <;> exact ⟨_, rfl⟩
  intro theme v
  match v with
  | .text s => simp only [themeValue, Decode.choice, hfind]
  | .object [(k, w)] =>
    obtain ⟨a, ha⟩ := hfind k
    simp only [themeValue, themeFields, Decode.choice, bind_eq_ok, ha]
    cases w <;> simp [themeValue]
  | .object [] => rfl
  | .object (_ :: _ :: _) => simp [themeValue, themeFields, Decode.choice]
  | .null | .bool _ | .number _ | .list _ => simp [themeValue]

section Fields

variable {theme v w : Value} {r : Record v} {s : Record w} {decode : Decoder α}

theorem required (h : IgnoresTheme decode) (hs : r.Themed theme s) (i : Nat) (key : String) :
    (∃ a, s.required i key decode = .ok a) ↔ ∃ a, r.required i key decode = .ok a := by
  rw [Record.exists_required_eq_ok, Record.exists_required_eq_ok, hs i key]
  cases r.field? i key <;> simp [h theme]

theorem withDefault (h : IgnoresTheme decode) (hs : r.Themed theme s) (i : Nat) (key : String)
    (default : α) : (∃ a, s.withDefault i key default decode = .ok a) ↔
      ∃ a, r.withDefault i key default decode = .ok a := by
  rw [Record.exists_withDefault_eq_ok, Record.exists_withDefault_eq_ok, hs i key]
  cases r.field? i key <;> simp [h theme]

theorem optional (h : IgnoresTheme decode) (hs : r.Themed theme s) (i : Nat) (key : String) :
    (∃ a, s.optional i key decode = .ok a) ↔ ∃ a, r.optional i key decode = .ok a := by
  rw [Record.exists_optional_eq_ok, Record.exists_optional_eq_ok, hs i key]
  cases r.field? i key <;> simp [h theme, themeValue_eq_null_iff]

end Fields

theorem record {name : String} {arity : Nat} {read : (v : Value) → Record v → Attempt α}
    (h : ∀ {theme v w} {r : Record v} {s : Record w}, r.Themed theme s →
      ((∃ a, read w s = .ok a) ↔ ∃ a, read v r = .ok a)) :
    IgnoresTheme fun v => Record.decode name arity v (read v) := by
  intro theme v
  cases v with
  | object fields =>
    rw [themeValue_object]
    simp only [Record.decode_object]
    apply h
    intro i key
    exact Table.get?_mapValues _ fields key
  | text s => simp [themeValue, Record.decode, Value.found]
  | _ => simp [themeValue]

end IgnoresTheme

/-- With the tokens put into what `encode` writes, `decode` makes of it what `fill` makes of
what was written. -/
structure FillsTheme (theme : Value) (decode : Decoder α) (encode : α → Value) (fill : α → α) :
    Prop where
  fills : ∀ a, decode (themeValue theme (encode a)) = .ok (fill a)
  ne_null : ∀ a, encode a ≠ .null

namespace FillsTheme

variable {theme : Value} {decode : Decoder α} {encode : α → Value} {fill : α → α}

theorem text : FillsTheme theme Decode.text .text (resolveTheme · theme) :=
  ⟨fun _ => rfl, fun _ => nofun⟩

theorem real : FillsTheme theme Decode.real .real id := ⟨fun _ => rfl, fun _ => nofun⟩

theorem table : FillsTheme theme Decode.table .object (fillTheme · theme) :=
  ⟨fun _ => rfl, fun _ => nofun⟩

theorem texts : FillsTheme theme (Decode.list Decode.text) (fun as => .list (as.map .text)) id :=
  ⟨fun _ => mapM_map_eq_ok fun _ _ => rfl, fun _ => nofun⟩

section Fields

variable {w : Value} {s : Record w} {i : Nat} {key : String}

theorem required (h : FillsTheme theme decode encode fill) {a : α}
    (hs : s.field? i key = (some (encode a)).map (themeValue theme)) :
    s.required i key decode = .ok (fill a) :=
  Record.required_eq_ok.2 ⟨_, hs, h.fills a⟩

theorem withDefault (h : FillsTheme theme decode encode fill) {a default : α}
    (hs : s.field? i key = (some (encode a)).map (themeValue theme)) :
    s.withDefault i key default decode = .ok (fill a) :=
  Record.withDefault_eq_ok.2 (.inr ⟨_, hs, h.fills a⟩)

theorem optional (h : FillsTheme theme decode encode fill) {a? : Option α}
    (hs : s.field? i key = (a?.map encode).map (themeValue theme)) :
    s.optional i key decode = .ok (a?.map fill) := by
  cases a? with
  | none => exact Record.optional_eq_ok.2 (.inl ⟨.inl hs, rfl⟩)
  | some a =>
    have hne : themeValue theme (encode a) ≠ .null :=
      fun hnull => h.ne_null a (themeValue_eq_null_iff.1 hnull)
    exact Record.optional_eq_ok.2 (.inr ⟨_, _, hs, hne, h.fills a, rfl⟩)

theorem optionalValue {a? : Option Value} (hnull : a? ≠ some .null)
    (hs : s.field? i key = a?.map (themeValue theme)) :
    s.optional i key Decode.value = .ok (a?.map (themeValue theme)) := by
  cases a? with
  | none => exact Record.optional_eq_ok.2 (.inl ⟨.inl hs, rfl⟩)
  | some a =>
    have hne : themeValue theme a ≠ .null :=
      fun h => hnull (congrArg some (themeValue_eq_null_iff.1 h))
    exact Record.optional_eq_ok.2 (.inr ⟨_, _, hs, hne, rfl, rfl⟩)

end Fields

section Records

variable {name : String} {arity : Nat} {read : (v : Value) → Record v → Attempt α}

/-- It is enough that the record is read from any that holds just what was written, with the
tokens put in. -/
theorem decode_written (hdecode : ∀ v, decode v = Record.decode name arity v (read v))
    {fields : List (String × Option Value)} (distinct : (Table.keys fields).Nodup) {b : α}
    (kept : ∀ {w} {s : Record w}, (∀ {i key x?}, Table.get? fields key = some x? →
      s.field? i key = x?.map (themeValue theme)) → read w s = .ok b) :
    decode (themeValue theme (.ofFields fields)) = .ok b := by
  rw [hdecode, Value.ofFields, themeValue_object]
  apply Record.decode_object.2
  apply kept
  intro i key x? hx
  have hget := Table.get?_mapValues (themeValue theme) (Props.ofFields fields) key
  rw [Props.get?_ofFields distinct, hx] at hget
  exact hget

theorem record {fields : α → List (String × Option Value)}
    (distinct : ∀ a, (Table.keys (fields a)).Nodup)
    (kept : ∀ {w a} {s : Record w}, (∀ {i key x?}, Table.get? (fields a) key = some x? →
      s.field? i key = x?.map (themeValue theme)) → read w s = .ok (fill a)) :
    FillsTheme theme (fun v => Record.decode name arity v (read v)) (fun a => .ofFields (fields a))
      fill :=
  ⟨fun a => decode_written (fun _ => rfl) (distinct a) kept, fun _ => nofun⟩

end Records

end FillsTheme

end PageConfig
