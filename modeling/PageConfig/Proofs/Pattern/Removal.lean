import PageConfig.Proofs.Pattern.Search

/-!
# When a removal changes nothing

A pattern that always takes something is removed from a text without a trace exactly
when it does not occur there.
-/

set_option autoImplicit false

namespace PageConfig

namespace Cursor

theorem next?_of_rest {c : Cursor} {ch : Char} {rest : List Char} (h : c.rest = ch :: rest) :
    c.next? = some (ch, ⟨some ch, rest, c.index + 1⟩) := by
  rw [next?, h]

theorem leads_cons {c b : Cursor} {ch : Char} {rest : List Char} (hrest : c.rest = ch :: rest) :
    c.Leads b ↔ b = c ∨ Leads ⟨some ch, rest, c.index + 1⟩ b := by
  constructor
  · rintro ⟨s, hs, hi, hb⟩
    cases s with
    | nil =>
      refine .inl (leads_unique ⟨[], hs, hi, hb⟩ c.leads_refl (by simpa using hi))
    | cons a s =>
      rw [hrest, List.cons_append, List.cons.injEq] at hs
      refine .inr ⟨s, hs.2, by simp only [hi, List.length_cons]; omega, ?_⟩
      rw [hb, List.getLast?_cons, hs.1]
      cases s.getLast? <;> rfl
  · rintro (rfl | h)
    · exact leads_refl b
    · exact leads_trans (leads_next (next?_of_rest hrest)) h

end Cursor

namespace Pattern

def Occurs (p : Pattern) (s : List Char) : Prop :=
  ∃ c d, (Cursor.start s).Leads c ∧ p.Spans c d

theorem not_spans_of_needs {p : Pattern} {ch : Char} {c : Cursor} (h : p.Needs ch)
    (hc : ch ∉ c.rest) (b d : Cursor) (hb : c.Leads b) : ¬ p.Spans b d := by
  intro hd
  obtain ⟨s, hs, -⟩ := hb
  rw [hs] at hc
  exact hc (List.mem_append_right s (h b d hd))

theorem not_occurs_of_needs {p : Pattern} {ch : Char} {s : List Char} (h : p.Needs ch)
    (hs : ch ∉ s) : ¬ p.Occurs s :=
  fun ⟨b, d, hb, hd⟩ => not_spans_of_needs (c := .start s) h hs b d hb hd

def Consuming (p : Pattern) : Prop := ∀ c d, p.Spans c d → c.index < d.index

theorem one_consuming (set : Char → Bool) : (one set).Consuming := by
  rintro ⟨before, rest, index⟩ d ⟨ch, h, _⟩
  cases rest with
  | nil => simp [Cursor.next?] at h
  | cons a rest =>
    simp only [Cursor.next?, Option.some.injEq, Prod.mk.injEq] at h
    rw [← h.2]
    exact Nat.lt_succ_self index

theorem sequence_consuming {p : Pattern} (hp : p.Consuming) (ps : List Pattern) :
    (sequence (p :: ps)).Consuming := by
  intro c e h
  obtain ⟨d, hd, he⟩ := spans_sequence_cons.1 h
  exact Nat.lt_of_lt_of_le (hp c d hd) (Cursor.leads_index (spans_leads _ d e he))

theorem removeFrom_eq_rest_iff {p : Pattern} (hp : p.Consuming) (c : Cursor) :
    p.removeFrom c = c.rest ↔ ∀ b d, c.Leads b → ¬ p.Spans b d := by
  fun_induction removeFrom p c with
  | case1 c h =>
    refine ⟨fun _ b d hb hd => ?_, fun _ => h.symm⟩
    have hlen := Cursor.leads_length hb
    rw [h, List.length_nil] at hlen
    have := Cursor.leads_index hb
    have := Cursor.leads_length (spans_leads p b d hd)
    have := hp b d hd
    omega
  | case2 c ch rest h d hd hlt ih =>
    have hmem := (mem_ends_iff p c d).1 (List.mem_of_mem_head? hd)
    refine ⟨fun heq => ?_, fun hno => absurd hmem (hno c d c.leads_refl)⟩
    have := (removeFrom_sublist p d).length_le
    rw [heq] at this
    omega
  | case3 c ch rest h d hd hlt ih =>
    have hspan := (mem_ends_iff p c d).1 (List.mem_of_mem_head? hd)
    have := Cursor.leads_length (spans_leads p c d hspan)
    have := hp c d hspan
    omega
  | case4 c ch rest h hd ih =>
    have hnone : ∀ d, ¬ p.Spans c d := by
      intro d hspan
      have := (mem_ends_iff p c d).2 hspan
      rw [List.head?_eq_none_iff.1 hd] at this
      simp at this
    rw [h, List.cons.injEq, and_iff_right rfl, ih]
    simp only [Cursor.leads_cons h]
    constructor
    · rintro hno b d (rfl | hb)
      · exact hnone d
      · exact hno b d hb
    · exact fun hno b d hb => hno b d (.inr hb)

theorem remove_eq_self_iff {p : Pattern} (hp : p.Consuming) (s : List Char) :
    p.remove s = s ↔ ¬ p.Occurs s := by
  rw [remove, Occurs, not_exists]
  refine (removeFrom_eq_rest_iff hp (.start s)).trans (forall_congr' fun b => ?_)
  simp only [not_exists, not_and]

end Pattern

end PageConfig
