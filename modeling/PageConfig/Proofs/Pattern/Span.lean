import PageConfig.Pattern.Suffix

/-!
# Spans of a pattern

What a pattern matches, said without any order of preference: `p.Spans c d` holds
when some way through `p` leads from `c` to `d`. A pattern occurs in a text when it
spans some part of it.
-/

set_option autoImplicit false

namespace PageConfig

namespace Cursor

/-- `d` is `c` or a later place of the same text. -/
def Leads (c d : Cursor) : Prop :=
  ∃ s, c.rest = s ++ d.rest ∧ d.index = c.index + s.length ∧ d.before = s.getLast?.or c.before

theorem leads_refl (c : Cursor) : c.Leads c := ⟨[], by simp⟩

theorem leads_trans {c d e : Cursor} (hcd : c.Leads d) (hde : d.Leads e) : c.Leads e := by
  obtain ⟨s, hs, hi, hb⟩ := hcd
  obtain ⟨t, ht, hj, ha⟩ := hde
  refine ⟨s ++ t, by rw [hs, ht, List.append_assoc], by rw [hj, hi, List.length_append]; omega, ?_⟩
  rw [ha, hb, List.getLast?_append, Option.or_assoc]

theorem leads_next {c d : Cursor} {ch : Char} (h : c.next? = some (ch, d)) : c.Leads d := by
  obtain ⟨before, rest, index⟩ := c
  cases rest with
  | nil => simp [next?] at h
  | cons a rest =>
    simp only [next?, Option.some.injEq, Prod.mk.injEq] at h
    obtain ⟨rfl, rfl⟩ := h
    exact ⟨[a], by simp⟩

theorem leads_unique {c d e : Cursor} (hd : c.Leads d) (he : c.Leads e) (h : d.index = e.index) :
    d = e := by
  obtain ⟨s, hs, hi, hb⟩ := hd
  obtain ⟨t, ht, hj, ha⟩ := he
  have hlen : s.length = t.length := by omega
  obtain ⟨rfl, hrest⟩ := List.append_inj (hs.symm.trans ht) hlen
  cases d
  cases e
  simp_all

theorem leads_index {c d : Cursor} (h : c.Leads d) : c.index ≤ d.index := by
  obtain ⟨s, _, hi, _⟩ := h
  omega

theorem leads_length {c d : Cursor} (h : c.Leads d) :
    c.index + c.rest.length = d.index + d.rest.length := by
  obtain ⟨s, hs, hi, _⟩ := h
  rw [hs, hi, List.length_append]
  omega

end Cursor

namespace Pattern

/-- `n` steps of a relation. -/
def Steps (R : Cursor → Cursor → Prop) : Nat → Cursor → Cursor → Prop
  | 0, c, d => d = c
  | n + 1, c, e => ∃ d, R c d ∧ Steps R n d e

/-- Some way through the pattern leads from `c` to `d`. -/
def Spans : Pattern → Cursor → Cursor → Prop
  | empty, c, d => d = c
  | one set, c, d => ∃ ch, c.next? = some (ch, d) ∧ set ch = true
  | look holds, c, d => holds c.before c.rest.head? = true ∧ d = c
  | cat p q, c, e => ∃ d, p.Spans c d ∧ q.Spans d e
  | alt p q, c, d => p.Spans c d ∨ q.Spans c d
  | rep least most _ p, c, d =>
    ∃ n, least ≤ n ∧ (∀ m, most = some m → n ≤ max least m) ∧ Steps p.Spans n c d

theorem steps_add {R : Cursor → Cursor → Prop} {m n : Nat} {c e : Cursor} :
    Steps R (m + n) c e ↔ ∃ d, Steps R m c d ∧ Steps R n d e := by
  induction m generalizing c with
  | zero => simp [Steps]
  | succ m ih =>
    rw [Nat.succ_add]
    simp only [Steps, ih]
    constructor
    · rintro ⟨d, hd, f, hf, he⟩
      exact ⟨f, ⟨d, hd, hf⟩, he⟩
    · rintro ⟨f, ⟨d, hd, hf⟩, he⟩
      exact ⟨d, hd, f, hf, he⟩

theorem steps_mono {R S : Cursor → Cursor → Prop} (h : ∀ c d, R c d → S c d) {n : Nat}
    {c d : Cursor} (hs : Steps R n c d) : Steps S n c d := by
  induction n generalizing c with
  | zero => exact hs
  | succ n ih =>
    obtain ⟨e, he, hd⟩ := hs
    exact ⟨e, h c e he, ih hd⟩

theorem steps_leads {R : Cursor → Cursor → Prop} (h : ∀ c d, R c d → c.Leads d) {n : Nat}
    {c d : Cursor} (hs : Steps R n c d) : c.Leads d := by
  induction n generalizing c with
  | zero => exact hs ▸ c.leads_refl
  | succ n ih =>
    obtain ⟨e, he, hd⟩ := hs
    exact Cursor.leads_trans (h c e he) (ih hd)

theorem spans_leads (p : Pattern) : ∀ c d, p.Spans c d → c.Leads d := by
  induction p with
  | empty => exact fun c d h => h ▸ c.leads_refl
  | one set => exact fun c d ⟨_, h, _⟩ => Cursor.leads_next h
  | look holds => exact fun c d h => h.2 ▸ c.leads_refl
  | cat p q hp hq => exact fun c e ⟨d, hd, he⟩ => Cursor.leads_trans (hp c d hd) (hq d e he)
  | alt p q hp hq => exact fun c d h => h.elim (hp c d) (hq c d)
  | rep least most greedy p hp => exact fun c d ⟨_, _, _, h⟩ => steps_leads hp h

theorem spans_sequence_cons {p : Pattern} {ps : List Pattern} {c d : Cursor} :
    (sequence (p :: ps)).Spans c d ↔ ∃ e, p.Spans c e ∧ (sequence ps).Spans e d := by
  have hfold : ∀ (ps : List Pattern) (p : Pattern) {c d : Cursor},
      (ps.foldl cat p).Spans c d ↔ ∃ e, p.Spans c e ∧ (sequence ps).Spans e d := by
    intro ps
    induction ps with
    | nil => simp [sequence, Spans]
    | cons q ps ih =>
      intro p c d
      simp only [List.foldl_cons, sequence, ih, Spans]
      constructor
      · rintro ⟨f, ⟨e, he, hf⟩, hd⟩
        exact ⟨e, he, f, hf, hd⟩
      · rintro ⟨e, he, f, hf, hd⟩
        exact ⟨f, ⟨e, he, hf⟩, hd⟩
  exact hfold ps p

def Needs (ch : Char) (p : Pattern) : Prop := ∀ c d, p.Spans c d → ch ∈ c.rest

theorem oneOf_needs (ch : Char) : (oneOf [ch]).Needs ch := by
  rintro ⟨before, rest, index⟩ d ⟨a, h, ha⟩
  cases rest with
  | nil => simp [Cursor.next?] at h
  | cons b rest =>
    simp only [Cursor.next?, Option.some.injEq, Prod.mk.injEq] at h
    obtain ⟨rfl, -⟩ := h
    simp at ha
    simp [ha]

theorem sequence_needs {ch : Char} {ps : List Pattern} {p : Pattern} (hp : p ∈ ps)
    (h : p.Needs ch) : (sequence ps).Needs ch := by
  induction ps with
  | nil => cases hp
  | cons q ps ih =>
    intro c d hd
    obtain ⟨e, he, hd⟩ := spans_sequence_cons.1 hd
    rcases List.mem_cons.1 hp with rfl | hp
    · exact h c e he
    · obtain ⟨s, hs, -⟩ := spans_leads q c e he
      rw [hs]
      exact List.mem_append_right s (ih hp e d hd)

end Pattern

end PageConfig
