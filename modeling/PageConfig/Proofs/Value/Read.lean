import PageConfig.Markup.Reader
import PageConfig.Proofs.Value.Merge
import PageConfig.Value.Parser

/-!
# What is read is canonical

Both readers build an object by inserting its fields one by one, so the tables
of a value read from text are ascending at every depth. A theorem about
canonical values is a theorem about every value that was read.
-/

set_option autoImplicit false

namespace PageConfig

namespace Value.Reader

theorem canonical_scalar? (s : List Char) : ∀ x ∈ scalar? s, x.1.Canonical := by
  intro x h
  unfold scalar? at h
  split at h
  · obtain ⟨_, _, rfl⟩ := Option.map_eq_some_iff.1 h
    trivial
  · cases h
    trivial
  · cases h
    trivial
  · cases h
    trivial
  · obtain ⟨_, _, rfl⟩ := Option.map_eq_some_iff.1 h
    trivial
  · obtain ⟨_, _, rfl⟩ := Option.map_eq_some_iff.1 h
    trivial

theorem mem_of_shorter? {α : Type} {s : List Char} {result : Option (α × List Char)}
    {x : α × { r : List Char // r.length < s.length }} (h : x ∈ shorter? s result) :
    (x.1, x.2.val) ∈ result := by
  obtain ⟨⟨a, r⟩, hresult, hx⟩ := Option.bind_eq_some_iff.1 h
  dsimp only at hx
  split at hx
  · cases hx
    exact hresult
  · cases hx

mutual

-- The induction is on what is left of the text, as in the reader itself; what
-- a list or an object has gathered so far is canonical.
theorem canonical_value? (depth : Nat) (s : List Char) :
    ∀ x ∈ value? depth s, x.1.Canonical := by
  intro x hx
  unfold value? at hx
  split at hx
  · rename_i r h depth _
    split at hx
    · cases hx
      trivial
    · obtain ⟨y, hy, rfl⟩ := Option.map_eq_some_iff.1 hx
      exact canonical_items? depth [] r trivial y hy
  · rename_i r h depth _ _
    split at hx
    · cases hx
      exact ⟨.nil, trivial⟩
    · obtain ⟨y, hy, rfl⟩ := Option.map_eq_some_iff.1 hx
      exact canonical_fields? depth [] r ⟨.nil, trivial⟩ y hy
  · split at hx
    obtain ⟨y, hy, rfl⟩ := Option.map_eq_some_iff.1 hx
    exact canonical_scalar? _ _ (mem_of_shorter? hy)
  · cases hx
termination_by (s.length, 0)

theorem canonical_items? (depth : Nat) (done : List Value) (s : List Char)
    (hdone : (Value.list done).Canonical) :
    ∀ x ∈ items? depth done s, (Value.list x.1).Canonical := by
  intro x hx
  unfold items? at hx
  split at hx
  · cases hx
  · rename_i v r h hv
    have hgrown : (Value.list (v :: done)).Canonical :=
      ⟨canonical_value? depth s _ hv, hdone⟩
    split at hx
    · rename_i t ht _
      obtain ⟨y, hy, rfl⟩ := Option.map_eq_some_iff.1 hx
      exact canonical_items? depth (v :: done) t hgrown y hy
    · obtain ⟨y, _, rfl⟩ := Option.map_eq_some_iff.1 hx
      simp only [Value.Canonical, canonicalItems_iff, List.mem_reverse] at hgrown ⊢
      exact hgrown
termination_by (s.length, 1)

theorem canonical_fields? (depth : Nat) (done : Table Value) (s : List Char)
    (hdone : (Value.object done).Canonical) :
    ∀ x ∈ fields? depth done s, (Value.object x.1).Canonical := by
  intro x hx
  unfold fields? at hx
  split at hx
  · cases hx
  · rename_i k r h _
    split at hx
    · cases hx
    · rename_i t ht _
      split at hx
      · cases hx
      · rename_i v u hu hv
        have hgrown : (Value.object (done.insert k v)).Canonical :=
          Props.canonical_insert hdone (canonical_value? depth t _ hv) k
        dsimp only at hx
        split at hx
        · rename_i w hw _
          obtain ⟨y, hy, rfl⟩ := Option.map_eq_some_iff.1 hx
          exact canonical_fields? depth (done.insert k v) w hgrown y hy
        · obtain ⟨y, _, rfl⟩ := Option.map_eq_some_iff.1 hx
          exact hgrown
termination_by (s.length, 1)

end

end Value.Reader

theorem Value.canonical_of_parse? {s : String} {v : Value} (h : Value.parse? s = some v) :
    v.Canonical := by
  unfold Value.parse? at h
  split at h
  · rename_i w r _ hw
    split at h
    · cases h
      exact Value.Reader.canonical_value? _ _ _ hw
    · cases h
  · cases h

namespace Markup

theorem canonical_whole? {s : String} {v : Value} (h : whole? s = some (some v)) :
    v.Canonical := by
  unfold whole? at h
  by_cases hpadded : isPadded s = true
  · rw [if_pos hpadded] at h
    cases h
  · rw [if_neg hpadded] at h
    rcases hsigned : splitSign s.toList with ⟨negative, cs⟩
    simp only [hsigned] at h
    obtain ⟨n, _, h⟩ := Option.bind_eq_some_iff.1 h
    by_cases hnarrow : fits 64 negative n = true
    · rw [if_pos hnarrow] at h
      cases h
      trivial
    · rw [if_neg hnarrow] at h
      split at h <;> cases h

theorem canonical_real? {s : String} {v : Value} (h : real? s = some v) : v.Canonical := by
  unfold real? at h
  extract_lets cs unsigned at h
  by_cases hsigns : (decide (cs.head? = some '+') &&
      unsigned.head?.any "+-".toList.contains) = true
  · rw [if_pos hsigns] at h
    cases h
  · rw [if_neg hsigns] at h
    by_cases hnamed : ([".inf", ".Inf", ".INF"].contains (String.ofList unsigned) ||
        ["-.inf", "-.Inf", "-.INF", ".nan", ".NaN", ".NAN"].contains s) = true
    · rw [if_pos hnamed] at h
      cases h
      trivial
    · rw [if_neg hnamed] at h
      cases hread : readReal? (String.ofList unsigned) with
      | none =>
        rw [hread] at h
        cases h
      | some x =>
        simp only [hread, Option.ite_none_right_eq_some] at h
        obtain ⟨_, ⟨⟩⟩ := h
        trivial

theorem canonical_plainValue? {s : String} {v : Value} (h : plainValue? s = some v) :
    v.Canonical := by
  unfold plainValue? at h
  split at h
  · cases h
    trivial
  · split at h
    · cases h
      trivial
    · rename_i w _ hw
      exact canonical_whole? (hw.trans (congrArg some h))
    · rename_i r _ hr
      split at h <;> cases h
      · trivial
      · exact canonical_real? hr
    · cases h
      trivial

theorem canonical_scalarValue? {tag : Option String} {plain : Bool} {s : String} {v : Value}
    (h : scalarValue? tag plain s = some v) : v.Canonical := by
  unfold scalarValue? at h
  cases tag with
  | none =>
    cases plain with
    | false =>
      cases h
      trivial
    | true => exact canonical_plainValue? h
  | some tag =>
    dsimp only at h
    by_cases hcustom : tag.startsWith "!" = true
    · rw [if_pos hcustom] at h
      cases h
    rw [if_neg hcustom] at h
    split_ifs at h
    · obtain ⟨_, _, rfl⟩ := Option.map_eq_some_iff.1 h
      trivial
    · exact canonical_whole? (Option.join_eq_some_iff.1 h)
    · exact canonical_real? h
    · cases h
      trivial
    · cases h
      trivial

namespace Tree

/-- Whatever a reading ends with has the property. -/
def Following.Ends {α : Type} (e : Following α) (P : α → Prop) : Prop :=
  ∀ n x, e.run n = some x → P x.1

namespace Following

variable {α β : Type} {P : α → Prop} {Q : β → Prop}

theorem ends_pure {a : α} (h : P a) : (pure a : Following α).Ends P := by
  rintro n _ ⟨⟩
  exact h

theorem ends_failure : (failure : Following α).Ends P := nofun

theorem ends_lift {a? : Option α} (h : ∀ a ∈ a?, P a) : (liftM a? : Following α).Ends P := by
  rintro n x hx
  cases a? with
  | none => cases hx
  | some a =>
    cases hx
    exact h a rfl

theorem Ends.bind {e : Following α} {f : α → Following β} (h : e.Ends P)
    (hf : ∀ a, P a → (f a).Ends Q) : (e >>= f).Ends Q := by
  intro n y hy
  rw [StateT.run_bind] at hy
  obtain ⟨x, hx, hy⟩ := Option.bind_eq_some_iff.1 hy
  exact hf x.1 (h n x hx) x.2 y hy

theorem ends_true (e : Following α) : e.Ends fun _ => True := fun _ _ _ => trivial

theorem ends_mapM {f : α → Following β} {l : List α} (h : ∀ a ∈ l, (f a).Ends Q) :
    (l.mapM f).Ends fun bs => ∀ b ∈ bs, Q b := by
  induction l with
  | nil => exact ends_pure (P := fun bs => ∀ b ∈ bs, Q b) nofun
  | cons a l ih =>
    obtain ⟨ha, hl⟩ := List.forall_mem_cons.1 h
    rw [List.mapM_cons]
    exact ha.bind fun b hb => (ih hl).bind fun bs hbs =>
      ends_pure (P := fun bs => ∀ b ∈ bs, Q b) (List.forall_mem_cons.2 ⟨hb, hbs⟩)

theorem ends_foldlM {f : β → α → Following β} {l : List α} {b : β} (hb : Q b)
    (h : ∀ a ∈ l, ∀ b, Q b → (f b a).Ends Q) : (l.foldlM f b).Ends Q := by
  induction l generalizing b with
  | nil => exact ends_pure hb
  | cons a l ih =>
    obtain ⟨ha, hl⟩ := List.forall_mem_cons.1 h
    rw [List.foldlM_cons]
    exact (ha b hb).bind fun c hc => ih hc hl

end Following

open Following

theorem value_ends (anchors : List (Nat × Tree)) (depth : Nat) (t : Tree) :
    (t.value anchors depth).Ends Value.Canonical := by
  induction depth generalizing t with
  | zero =>
    rw [value]
    refine Ends.bind (ends_true _) fun u _ => ?_
    cases u with
    | scalar m plain text => exact ends_lift fun v hv => canonical_scalarValue? hv
    | _ => exact ends_failure
  | succ depth ih =>
    rw [value]
    refine Ends.bind (ends_true _) fun u _ => ?_
    cases u with
    | reference n => exact ends_failure
    | scalar m plain text => exact ends_lift fun v hv => canonical_scalarValue? hv
    | sequence m items =>
      refine Ends.bind (ends_true _) fun _ _ => ?_
      refine Ends.bind (ends_mapM fun u _ => ih u) fun vs hvs => ?_
      exact ends_pure (Value.canonicalItems_iff.2 hvs)
    | mapping m entries =>
      refine Ends.bind (ends_true _) fun _ _ => ?_
      refine Ends.bind (ends_foldlM (Q := fun fields => (Value.object fields).Canonical)
        ⟨.nil, trivial⟩ fun e _ fields hfields => ?_) fun fields hfields => ends_pure hfields
      refine Ends.bind (ends_true _) fun key _ => ?_
      refine Ends.bind (ih e.2) fun v hv => ?_
      exact ends_pure (Props.canonical_insert hfields hv key)

theorem canonical_of_value? {t : Tree} {v : Value} (h : t.value? = some v) : v.Canonical := by
  obtain ⟨x, hx, rfl⟩ := Option.map_eq_some_iff.1 h
  exact value_ends _ _ _ _ x hx

end Tree

end Markup

theorem Value.canonical_of_parseMarkup? {s : String} {v : Value}
    (h : Value.parseMarkup? s = some v) : v.Canonical := by
  obtain ⟨tokens, _, h⟩ := Option.bind_eq_some_iff.1 h
  obtain ⟨t?, _, h⟩ := Option.bind_eq_some_iff.1 h
  cases t? with
  | none =>
    cases h
    trivial
  | some t => exact Markup.Tree.canonical_of_value? h

end PageConfig
