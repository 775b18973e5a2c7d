import PageConfig.Proofs.Pattern.Removal

/-!
# What a span reads

A span reads the characters between its places. Where a pattern never looks at its
surroundings, it spans the same characters wherever they stand.
-/

set_option autoImplicit false

namespace PageConfig

namespace Cursor

/-- The characters that lead from one place of a text to another. -/
structure Reads (c : Cursor) (s : List Char) (d : Cursor) : Prop where
  rest : c.rest = s ++ d.rest
  index : d.index = c.index + s.length
  before : d.before = s.getLast?.or c.before

theorem leads_iff_reads {c d : Cursor} : c.Leads d ↔ ∃ s, c.Reads s d :=
  ⟨fun ⟨s, hrest, hindex, hbefore⟩ => ⟨s, hrest, hindex, hbefore⟩,
    fun ⟨s, h⟩ => ⟨s, h.rest, h.index, h.before⟩⟩

theorem Reads.leads {c d : Cursor} {s : List Char} (h : c.Reads s d) : c.Leads d :=
  leads_iff_reads.2 ⟨s, h⟩

theorem Reads.unique {c d e : Cursor} {s : List Char} (hd : c.Reads s d) (he : c.Reads s e) :
    d = e := leads_unique hd.leads he.leads (by rw [hd.index, he.index])

theorem reads_nil {c d : Cursor} : c.Reads [] d ↔ d = c := by
  constructor
  · exact fun h => h.unique ⟨rfl, rfl, rfl⟩
  · rintro rfl
    exact ⟨rfl, rfl, rfl⟩

theorem reads_singleton {c d : Cursor} {ch : Char} : c.Reads [ch] d ↔ c.next? = some (ch, d) := by
  constructor
  · intro h
    have hnext : c.Reads [ch] ⟨some ch, d.rest, c.index + 1⟩ := ⟨h.rest, rfl, rfl⟩
    rw [next?_of_rest h.rest]
    exact congrArg (fun d => some (ch, d)) (h.unique hnext).symm
  · intro h
    obtain ⟨before, rest, index⟩ := c
    cases rest with
    | nil => cases h
    | cons a rest =>
      cases h
      exact ⟨rfl, rfl, rfl⟩

theorem exists_reads {c : Cursor} {s rest : List Char} (h : c.rest = s ++ rest) :
    ∃ d, c.Reads s d ∧ d.rest = rest :=
  ⟨⟨s.getLast?.or c.before, rest, c.index + s.length⟩, ⟨h, rfl, rfl⟩, rfl⟩

theorem Reads.trans {c d e : Cursor} {s t : List Char} (hd : c.Reads s d) (he : d.Reads t e) :
    c.Reads (s ++ t) e where
  rest := by rw [hd.rest, he.rest, List.append_assoc]
  index := by rw [he.index, hd.index, List.length_append, Nat.add_assoc]
  before := by rw [he.before, hd.before, List.getLast?_append, Option.or_assoc]

theorem reads_append {c e : Cursor} {s t : List Char} :
    c.Reads (s ++ t) e ↔ ∃ d, c.Reads s d ∧ d.Reads t e := by
  constructor
  · intro h
    obtain ⟨d, hd, hrest⟩ := exists_reads (s := s) (h.rest.trans (List.append_assoc ..))
    obtain ⟨f, hf, -⟩ := exists_reads hrest
    exact ⟨d, hd, h.unique (hd.trans hf) ▸ hf⟩
  · rintro ⟨d, hd, he⟩
    exact hd.trans he

theorem Reads.head_eq {c d e : Cursor} {a b : Char} {s : List Char} (h : c.Reads (a :: s) d)
    (hb : c.Reads [b] e) : b = a := by
  have hrest := h.rest.symm.trans hb.rest
  exact (List.cons.inj hrest).1.symm

theorem reads_cons {c e : Cursor} {ch : Char} {s : List Char} :
    c.Reads (ch :: s) e ↔ ∃ d, c.Reads [ch] d ∧ d.Reads s e := by
  rw [← List.singleton_append, reads_append]

theorem Reads.split {c d e : Cursor} {s t : List Char} (hd : c.Reads s d) (he : c.Reads t e) :
    (∃ u, t = s ++ u ∧ d.Reads u e) ∨ ∃ u, s = t ++ u ∧ e.Reads u d := by
  have hrest : s ++ d.rest = t ++ e.rest := hd.rest.symm.trans he.rest
  rcases List.append_eq_append_iff.1 hrest with ⟨u, rfl, -⟩ | ⟨u, rfl, -⟩
  · obtain ⟨m, hm, hu⟩ := reads_append.1 he
    exact .inl ⟨u, rfl, hd.unique hm ▸ hu⟩
  · obtain ⟨m, hm, hu⟩ := reads_append.1 hd
    exact .inr ⟨u, rfl, he.unique hm ▸ hu⟩

theorem Reads.text_unique {c d : Cursor} {s t : List Char} (hs : c.Reads s d)
    (ht : c.Reads t d) : s = t := List.append_cancel_right (hs.rest.symm.trans ht.rest)

def Amid (c : Cursor) (s : List Char) (e : Cursor) : Prop :=
  ∃ t ch u, s = t ++ ch :: u ∧ c.Reads t e

theorem amid_self (c : Cursor) (ch : Char) (s : List Char) : c.Amid (ch :: s) c :=
  ⟨[], ch, s, rfl, reads_nil.2 rfl⟩

theorem Amid.cons {c d e : Cursor} {ch : Char} {s : List Char} (h : d.Amid s e)
    (hd : c.Reads [ch] d) : c.Amid (ch :: s) e := by
  obtain ⟨t, a, u, rfl, ht⟩ := h
  exact ⟨ch :: t, a, u, rfl, hd.trans ht⟩

theorem Amid.reads {c d e : Cursor} {s : List Char} (h : c.Amid s e) (hd : c.Reads s d) :
    ∃ ch u, ch ∈ s ∧ e.Reads (ch :: u) d ∧ (ch :: u) <:+ s := by
  obtain ⟨t, ch, u, rfl, ht⟩ := h
  obtain ⟨f, hf, hu⟩ := reads_append.1 hd
  exact ⟨ch, u, by simp, ht.unique hf ▸ hu, List.suffix_append _ _⟩

end Cursor

namespace Pattern

open Cursor

theorem Spans.reads {p : Pattern} {c d : Cursor} (h : p.Spans c d) : ∃ s, c.Reads s d :=
  leads_iff_reads.1 (spans_leads p c d h)

theorem spans_one {set : Char → Bool} {c d : Cursor} :
    (one set).Spans c d ↔ ∃ ch, set ch = true ∧ c.Reads [ch] d := by
  simp only [Spans, reads_singleton, and_comm]

theorem spans_oneOf {a : Char} {c d : Cursor} : (oneOf [a]).Spans c d ↔ c.Reads [a] d := by
  rw [oneOf, spans_one]
  constructor
  · rintro ⟨ch, hch, hd⟩
    rw [List.contains_cons, List.contains_nil, Bool.or_false, beq_iff_eq] at hch
    exact hch ▸ hd
  · exact fun h => ⟨a, by simp, h⟩

theorem steps_one {set : Char → Bool} {n : Nat} {c d : Cursor} :
    Steps (one set).Spans n c d ↔
      ∃ s, s.length = n ∧ (∀ ch ∈ s, set ch = true) ∧ c.Reads s d := by
  induction n generalizing c with
  | zero => simp [Steps, reads_nil]
  | succ n ih =>
    simp only [Steps, ih, spans_one]
    constructor
    · rintro ⟨e, ⟨ch, hch, he⟩, s, rfl, hs, hd⟩
      exact ⟨ch :: s, rfl, List.forall_mem_cons.2 ⟨hch, hs⟩, he.trans hd⟩
    · rintro ⟨s, hlen, hs, hd⟩
      cases s with
      | nil => cases hlen
      | cons ch s =>
        obtain ⟨hch, hs⟩ := List.forall_mem_cons.1 hs
        obtain ⟨e, he, hd⟩ := reads_cons.1 hd
        exact ⟨e, ⟨ch, hch, he⟩, s, Nat.succ.inj hlen, hs, hd⟩

theorem spans_many_one {set : Char → Bool} {c d : Cursor} :
    (many (one set)).Spans c d ↔ ∃ s, (∀ ch ∈ s, set ch = true) ∧ c.Reads s d := by
  constructor
  · rintro ⟨n, -, -, hsteps⟩
    obtain ⟨s, -, hs⟩ := steps_one.1 hsteps
    exact ⟨s, hs⟩
  · rintro ⟨s, hs⟩
    exact ⟨s.length, Nat.zero_le _, nofun, steps_one.2 ⟨s, rfl, hs⟩⟩

/-- The same characters make up a step wherever they stand. -/
def Portable (R : Cursor → Cursor → Prop) : Prop := ∀ {c d c' d' : Cursor} {s : List Char},
  R c d → c.Reads s d → c'.Reads s d' → R c' d'

theorem portable_comp {R S : Cursor → Cursor → Prop} (hR : Portable R) (hS : Portable S)
    (hleads : ∀ c d, R c d → c.Leads d) (hleads' : ∀ c d, S c d → c.Leads d) :
    Portable fun c e => ∃ d, R c d ∧ S d e := by
  rintro c e c' e' u ⟨d, hd, he⟩ hu hu'
  obtain ⟨s, hs⟩ := leads_iff_reads.1 (hleads c d hd)
  obtain ⟨t, ht⟩ := leads_iff_reads.1 (hleads' d e he)
  rw [hu.text_unique (hs.trans ht)] at hu'
  obtain ⟨d', hs', ht'⟩ := reads_append.1 hu'
  exact ⟨d', hR hd hs hs', hS he ht ht'⟩

theorem portable_eq : Portable fun c d => d = c := by
  rintro c d c' d' s rfl hs hs'
  rw [hs.text_unique (reads_nil.2 rfl)] at hs'
  exact reads_nil.1 hs'

theorem portable_steps {R : Cursor → Cursor → Prop} (hR : Portable R)
    (hleads : ∀ c d, R c d → c.Leads d) (n : Nat) : Portable (Steps R n) := by
  induction n with
  | zero => exact portable_eq
  | succ n ih => exact portable_comp hR ih hleads fun _ _ h => steps_leads hleads h

/-- The pattern looks at nothing but the characters that it takes. -/
def Blind : Pattern → Prop
  | empty | one _ => True
  | look _ => False
  | cat p q | alt p q => p.Blind ∧ q.Blind
  | rep _ _ _ p => p.Blind

theorem Blind.portable {p : Pattern} (h : p.Blind) : Portable p.Spans := by
  induction p with
  | empty => exact portable_eq
  | one set =>
    intro c d c' d' s hd hs hs'
    obtain ⟨ch, hch, hd⟩ := spans_one.1 hd
    rw [hs.text_unique hd] at hs'
    exact spans_one.2 ⟨ch, hch, hs'⟩
  | look holds => cases h
  | cat p q hp hq => exact portable_comp (hp h.1) (hq h.2) (spans_leads p) (spans_leads q)
  | alt p q hp hq =>
    rintro c d c' d' s (hd | hd) hs hs'
    · exact .inl (hp h.1 hd hs hs')
    · exact .inr (hq h.2 hd hs hs')
  | rep least most greedy p hp =>
    rintro c d c' d' s ⟨n, hleast, hmost, hd⟩ hs hs'
    exact ⟨n, hleast, hmost, portable_steps (hp h) (spans_leads p) n hd hs hs'⟩

theorem blind_sequence {ps : List Pattern} (h : ∀ p ∈ ps, p.Blind) : (sequence ps).Blind := by
  have hfold : ∀ (ps : List Pattern) (p : Pattern), p.Blind → (∀ q ∈ ps, q.Blind) →
      (ps.foldl cat p).Blind := by
    intro ps
    induction ps with
    | nil => exact fun p hp _ => hp
    | cons q ps ih =>
      intro p hp hps
      obtain ⟨hq, hps⟩ := List.forall_mem_cons.1 hps
      exact ih _ ⟨hp, hq⟩ hps
  cases ps with
  | nil => trivial
  | cons p ps =>
    obtain ⟨hp, hps⟩ := List.forall_mem_cons.1 h
    exact hfold ps p hp hps

def Avoids (ch : Char) (p : Pattern) : Prop :=
  ∀ {c d : Cursor} {s : List Char}, p.Spans c d → c.Reads s d → ch ∉ s

theorem avoids_one {ch : Char} {set : Char → Bool} (h : set ch = false) :
    (one set).Avoids ch := by
  intro c d s hd hs hmem
  obtain ⟨a, ha, hd⟩ := spans_one.1 hd
  rw [hs.text_unique hd, List.mem_singleton] at hmem
  rw [← hmem, h] at ha
  cases ha

theorem avoids_oneOf {ch a : Char} (h : ch ≠ a) : (oneOf [a]).Avoids ch :=
  avoids_one (by simp [h])

theorem avoids_many_one {ch : Char} {set : Char → Bool} (h : set ch = false) :
    (many (one set)).Avoids ch := by
  intro c d s hd hs hmem
  obtain ⟨t, ht, hd⟩ := spans_many_one.1 hd
  rw [hs.text_unique hd] at hmem
  rw [ht ch hmem] at h
  cases h

theorem avoids_sequence {ch : Char} {ps : List Pattern} (h : ∀ p ∈ ps, p.Avoids ch) :
    (sequence ps).Avoids ch := by
  induction ps with
  | nil =>
    intro c d s hd hs
    rw [hs.text_unique (reads_nil.2 hd)]
    exact List.not_mem_nil
  | cons p ps ih =>
    intro c d u hd hu hmem
    obtain ⟨hp, hps⟩ := List.forall_mem_cons.1 h
    obtain ⟨e, he, hd⟩ := spans_sequence_cons.1 hd
    obtain ⟨s, hs⟩ := he.reads
    obtain ⟨t, ht⟩ := hd.reads
    rw [hu.text_unique (hs.trans ht)] at hmem
    rcases List.mem_append.1 hmem with hmem | hmem
    · exact hp he hs hmem
    · exact ih hps hd ht hmem

end Pattern

end PageConfig
