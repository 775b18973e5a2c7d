import PageConfig.Proofs.Decode.Record
import PageConfig.Proofs.Value.Induction
import PageConfig.Proofs.Value.Table

/-!
# Reading back what was written

A decoder and a writer agree when whatever was decoded from a value is decoded
again from what is written for it. Scalars, lists and choices agree; a record
agrees when its fields do. The bound on sizes lets a record nest itself.
-/

set_option autoImplicit false

namespace PageConfig

/-- Of what `encode` writes, `decode` makes again what it made of a canonical
value smaller than `n`. Null alone may be written as null. -/
structure ReadsBack {α : Type} (n : Nat) (decode : Decoder α) (encode : α → Value) : Prop where
  again : ∀ {v a}, sizeOf v < n → v.Canonical → decode v = .ok a → decode (encode a) = .ok a
  ne_null : ∀ {v a}, sizeOf v < n → v ≠ .null → decode v = .ok a → encode a ≠ .null

section Items

variable {ε α β : Type} {f : α → Except ε β}

theorem mem_of_mapM_eq_ok {xs : List α} {ys : List β} (h : xs.mapM f = .ok ys) {y : β}
    (hy : y ∈ ys) : ∃ x ∈ xs, f x = .ok y := by
  induction xs generalizing ys with
  | nil =>
    cases h
    cases hy
  | cons x xs ih =>
    rw [List.mapM_cons] at h
    obtain ⟨z, hz, h⟩ := bind_eq_ok.1 h
    obtain ⟨zs, hzs, h⟩ := bind_eq_ok.1 h
    cases h
    rcases List.mem_cons.1 hy with rfl | hy
    · exact ⟨x, List.mem_cons_self, hz⟩
    · obtain ⟨u, hu, hf⟩ := ih hzs hy
      exact ⟨u, List.mem_cons_of_mem x hu, hf⟩

theorem mapM_map_eq_ok {g : β → α} {ys : List β} (h : ∀ y ∈ ys, f (g y) = .ok y) :
    (ys.map g).mapM f = .ok ys := by
  induction ys with
  | nil => rfl
  | cons y ys ih =>
    have hy := h y List.mem_cons_self
    have hys := ih fun z hz => h z (List.mem_cons_of_mem y hz)
    rw [List.map_cons, List.mapM_cons, hy, hys]
    rfl

end Items

namespace ReadsBack

section Scalars

variable {α : Type} {n : Nat}

theorem mono {m : Nat} {decode : Decoder α} {encode : α → Value} (h : ReadsBack n decode encode)
    (hm : m ≤ n) : ReadsBack m decode encode :=
  ⟨fun hv => h.again (by omega), fun hv => h.ne_null (by omega)⟩

theorem zero {decode : Decoder α} {encode : α → Value} : ReadsBack 0 decode encode :=
  ⟨fun hv => absurd hv (Nat.not_lt_zero _), fun hv => absurd hv (Nat.not_lt_zero _)⟩

theorem of_forall {decode : Decoder α} {encode : α → Value}
    (h : ∀ a, decode (encode a) = .ok a) (hne : ∀ a, encode a ≠ .null) :
    ReadsBack n decode encode :=
  ⟨fun _ _ _ => h _, fun _ _ _ => hne _⟩

theorem value : ReadsBack n Decode.value id :=
  ⟨fun _ _ _ => rfl, fun _ hv h => Except.ok.inj h ▸ hv⟩

theorem text : ReadsBack n Decode.text .text := of_forall (fun _ => rfl) nofun

theorem bool : ReadsBack n Decode.bool .bool := of_forall (fun _ => rfl) nofun

theorem real : ReadsBack n Decode.real .real := of_forall (fun _ => rfl) nofun

theorem table : ReadsBack n Decode.table .object := of_forall (fun _ => rfl) nofun

theorem integer_in_range {kind : IntegerKind} {v : Value} {k : Int}
    (h : Decode.integer kind v = .ok k) : kind.least ≤ k ∧ k ≤ kind.greatest := by
  unfold Decode.integer at h
  split at h
  · split at h
    · rename_i hk
      cases h
      simpa using hk
    · cases h
  · cases h

theorem integer_whole {kind : IntegerKind} {k : Int} (h : kind.least ≤ k ∧ k ≤ kind.greatest) :
    Decode.integer kind (.whole k) = .ok k := by
  simp [Decode.integer, Value.whole, h]

theorem integer {kind : IntegerKind} : ReadsBack n (Decode.integer kind) .whole :=
  ⟨fun _ _ h => integer_whole (integer_in_range h), fun _ _ _ => nofun⟩

theorem natural {kind : IntegerKind} (hleast : kind.least = 0) :
    ReadsBack n (Decode.natural kind) fun k => .whole k := by
  refine ⟨fun _ _ h => ?_, fun _ _ _ => nofun⟩
  obtain ⟨k, hk, rfl⟩ := map_eq_ok.1 h
  have hrange := integer_in_range hk
  have hcast : (k.toNat : Int) = k := by omega
  rw [Decode.natural, hcast, integer_whole hrange]
  rfl

theorem scalarText :
    ReadsBack n (fun v => (Decode.scalarText v).map (·.getD "")) .text :=
  of_forall (fun _ => rfl) nofun

theorem choice {names : List (String × α)} {other? : Option α} {name : α → String}
    (h : ∀ a, ((names.lookup (name a)).orElse fun _ => other?) = some a) :
    ReadsBack n (Decode.choice names other?) fun a => .text (name a) := by
  refine of_forall (fun a => ?_) nofun
  simp only [Decode.choice, Decode.choice.find, h]

theorem list {decode : Decoder α} {encode : α → Value} (h : ReadsBack n decode encode) :
    ReadsBack n (Decode.list decode) fun as => .list (as.map encode) := by
  refine ⟨fun {v as} hn hv hd => ?_, fun _ _ _ => nofun⟩
  cases v with
  | list items =>
    simp only [Value.Canonical] at hv
    apply mapM_map_eq_ok
    intro a ha
    obtain ⟨w, hw, hd⟩ := mem_of_mapM_eq_ok hd ha
    have hsize := Value.sizeOf_item hw
    exact h.again (by omega) (Value.canonicalItems_iff.1 hv w hw) hd
  | _ => cases hd

end Scalars

section Fields

variable {α : Type} {n : Nat} {v w : Value} {r : Record v} {s : Record w} {i : Nat} {key : String}
  {decode : Decoder α} {encode : α → Value}

theorem at_field (h : ReadsBack (sizeOf v) decode encode) (hv : v.Canonical) {u : Value} {a : α}
    (hu : r.field? i key = some u) (hd : decode u = .ok a) : decode (encode a) = .ok a :=
  h.again (Record.sizeOf_field? hu) (Record.canonical_field? hv hu) hd

theorem required (h : ReadsBack (sizeOf v) decode encode) (hv : v.Canonical) {a : α}
    (hr : r.required i key decode = .ok a) (hs : s.field? i key = some (encode a)) :
    s.required i key decode = .ok a := by
  obtain ⟨u, hu, hd⟩ := Record.required_eq_ok.1 hr
  exact Record.required_eq_ok.2 ⟨encode a, hs, h.at_field hv hu hd⟩

theorem withDefault (h : ReadsBack (sizeOf v) decode encode) (hv : v.Canonical) {a default : α}
    (hdefault : decode (encode default) = .ok default)
    (hr : r.withDefault i key default decode = .ok a) (hs : s.field? i key = some (encode a)) :
    s.withDefault i key default decode = .ok a := by
  have again : decode (encode a) = .ok a := by
    rcases Record.withDefault_eq_ok.1 hr with ⟨-, rfl⟩ | ⟨u, hu, hd⟩
    · exact hdefault
    · exact h.at_field hv hu hd
  exact Record.withDefault_eq_ok.2 (.inr ⟨encode a, hs, again⟩)

theorem nullDefault (h : ReadsBack (sizeOf v) decode encode) (hv : v.Canonical) {a default : α}
    (hdefault : decode (encode default) = .ok default)
    (hr : r.nullDefault i key default decode = .ok a) (hs : s.field? i key = some (encode a)) :
    s.nullDefault i key default decode = .ok a := by
  rw [Record.nullDefault_eq_ok]
  rcases Record.nullDefault_eq_ok.1 hr with ⟨-, rfl⟩ | ⟨u, hu, hnull, hd⟩
  · by_cases hnull : encode default = .null
    · exact .inl ⟨.inr (hnull ▸ hs), rfl⟩
    · exact .inr ⟨encode default, hs, hnull, hdefault⟩
  · exact .inr ⟨encode a, hs, h.ne_null (Record.sizeOf_field? hu) hnull hd, h.at_field hv hu hd⟩

theorem optional (h : ReadsBack (sizeOf v) decode encode) (hv : v.Canonical) {a? : Option α}
    (hr : r.optional i key decode = .ok a?) (hs : s.field? i key = a?.map encode) :
    s.optional i key decode = .ok a? := by
  rw [Record.optional_eq_ok]
  rcases Record.optional_eq_ok.1 hr with ⟨-, rfl⟩ | ⟨u, a, hu, hnull, hd, rfl⟩
  · exact .inl ⟨.inl hs, rfl⟩
  · have hwritten : encode a ≠ .null := h.ne_null (Record.sizeOf_field? hu) hnull hd
    exact .inr ⟨encode a, a, hs, hwritten, h.at_field hv hu hd, rfl⟩

theorem withDefault_omitted {decode : Decoder (List α)} {encode : List α → Value}
    (h : ReadsBack (sizeOf v) decode encode) (hv : v.Canonical) {as : List α}
    (hdefault : decode (encode []) = .ok []) (hr : r.withDefault i key [] decode = .ok as)
    (hs : s.field? i key = if as.isEmpty then none else some (encode as)) :
    s.withDefault i key [] decode = .ok as := by
  cases as with
  | nil => exact Record.withDefault_eq_ok.2 (.inl ⟨hs, rfl⟩)
  | cons a as => exact h.withDefault hv hdefault hr hs

theorem nullDefault_omitted {decode : Decoder (List α)} {encode : List α → Value}
    (h : ReadsBack (sizeOf v) decode encode) (hv : v.Canonical) {as : List α}
    (hdefault : decode (encode []) = .ok []) (hr : r.nullDefault i key [] decode = .ok as)
    (hs : s.field? i key = if as.isEmpty then none else some (encode as)) :
    s.nullDefault i key [] decode = .ok as := by
  cases as with
  | nil => exact Record.nullDefault_eq_ok.2 (.inl ⟨.inl hs, rfl⟩)
  | cons a as => exact h.nullDefault hv hdefault hr hs

theorem optionalScalar {a? : Option String} (hs : s.field? i key = a?.map .text) :
    s.withDefault i key none Decode.scalarText = .ok a? := by
  cases a? with
  | none => exact Record.withDefault_eq_ok.2 (.inl ⟨hs, rfl⟩)
  | some a => exact Record.withDefault_eq_ok.2 (.inr ⟨.text a, hs, rfl⟩)

theorem optionalValue (hv : v.Canonical) {a? : Option Value}
    (hr : r.optional i key Decode.value = .ok a?) (hs : s.field? i key = a?) :
    s.optional i key Decode.value = .ok a? := by
  apply value.optional hv hr
  rw [Option.map_id]
  exact hs

end Fields

section Records

variable {α : Type} {n : Nat} {name : String}

theorem field?_ofFields {fields : List (String × Option Value)}
    (distinct : (Table.keys fields).Nodup) {s : Record (.ofFields fields)} {i : Nat} {key : String}
    {x? : Option Value} (hx : Table.get? fields key = some x?) : s.field? i key = x? := by
  have hget := Props.get?_ofFields distinct key
  rw [hx] at hget
  exact hget

/-- A record written field by field. It is enough that its fields are read from
any record that holds just what was written. -/
theorem record {arity : Nat} {read : (v : Value) → Record v → Attempt α}
    {fields : α → List (String × Option Value)} (distinct : ∀ a, (Table.keys (fields a)).Nodup)
    (kept : ∀ {v w a} {r : Record v} {s : Record w}, sizeOf v < n → v.Canonical →
      (∀ {i key x?}, Table.get? (fields a) key = some x? → s.field? i key = x?) →
        read v r = .ok a → read w s = .ok a) :
    ReadsBack n (fun v => Record.decode name arity v (read v)) fun a => .ofFields (fields a) := by
  constructor
  · intro v a hn hv hd
    apply Record.decode_object.2
    apply kept hn hv _ (Record.read_of_decode hd)
    intro i key x? hx
    exact field?_ofFields (distinct a) hx
  · intro v a hn hv hd
    exact nofun

theorem openRecord {known : List String} {read : (v : Value) → Record v → Props → Attempt α}
    {fields : α → List (String × Option Value)} {extra : α → Props} (distinct : known.Nodup)
    (names : ∀ a, Table.keys (fields a) = known)
    (kept : ∀ {v a} {r : Record v} {rest : Props}, sizeOf v < n → v.Canonical →
      read v r rest = .ok a → rest = extra a ∧ ∀ {w} {s : Record w},
        (∀ {i key x?}, Table.get? (fields a) key = some x? → s.field? i key = x?) →
          read w s rest = .ok a) :
    ReadsBack n (fun v => Record.decodeOpen name v known (read v)) fun a =>
      .ofFields (fields a ++ (extra a).mapValues some) := by
  constructor
  · intro v a hn hv hd
    obtain ⟨table, rfl, hread⟩ := Record.fields_of_decodeOpen hd
    obtain ⟨hrest, hwritten⟩ := kept hn hv hread
    simp only [Value.Canonical] at hv
    rw [← names a] at distinct hrest hwritten ⊢
    apply Attempt.result_eq_ok.2
    rw [← hrest]
    refine (congrArg (read _ _) (Props.without_ofFields distinct hv.1)).trans (hwritten ?_)
    intro i key x? hx
    apply field?_ofFields (Props.keys_append_without_nodup distinct hv.1)
    rw [Table.get?_append, hx]
    rfl
  · intro v a hn hv hd hnull
    cases hnull

end Records

end ReadsBack

end PageConfig
