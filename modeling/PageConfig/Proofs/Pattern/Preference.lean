import PageConfig.Proofs.Pattern.Reading

/-!
# The preferred way through a pattern

What comes after a pattern is tried at its ends in order of preference, and the first
success counts. In these terms a sequence is searched part by part, and a lazy repetition
tries one place after another.
-/

set_option autoImplicit false

namespace PageConfig

variable {β : Type}

namespace Cursor

theorem findSome?_distinct {after : Cursor → Option β} {seen : Nat} {cs : List Cursor}
    (hseen : ∀ c ∈ cs, seen.testBit c.index → after c = none)
    (hunique : ∀ c ∈ cs, ∀ d ∈ cs, c.index = d.index → c = d) :
    (distinct seen cs).findSome? after = cs.findSome? after := by
  induction cs generalizing seen with
  | nil => rfl
  | cons c cs ih =>
    obtain ⟨hc, hcs⟩ := List.forall_mem_cons.1 hseen
    have hunique' : ∀ d ∈ cs, ∀ e ∈ cs, d.index = e.index → d = e := fun d hd e he =>
      hunique d (List.mem_cons_of_mem _ hd) e (List.mem_cons_of_mem _ he)
    rw [distinct]
    split
    · rename_i hbit
      rw [ih hcs hunique', List.findSome?_cons, hc hbit]
    · rw [List.findSome?_cons, List.findSome?_cons]
      cases hafter : after c with
      | some b => rfl
      | none =>
        refine ih (fun d hd hbit => ?_) hunique'
        by_cases hindex : c.index = d.index
        · rw [← hunique c List.mem_cons_self d (List.mem_cons_of_mem _ hd) hindex, hafter]
        · exact hcs d hd (by simpa [Nat.testBit_or, Nat.one_shiftLeft, hindex] using hbit)

end Cursor

namespace Pattern

open Cursor

/-- What comes after the pattern, at the first of its ends where that succeeds. -/
def search (p : Pattern) (after : Cursor → Option β) (c : Cursor) : Option β :=
  (p.ends c).findSome? after

variable {after : Cursor → Option β}

theorem leads_of_mem_ends {p : Pattern} {c d : Cursor} (h : d ∈ p.ends c) : c.Leads d :=
  spans_leads p c d ((mem_ends_iff p c d).1 h)

theorem head?_ends (p : Pattern) (c : Cursor) : (p.ends c).head? = p.search some c := by
  rw [search]
  cases p.ends c <;> rfl

theorem search_eq_none_iff {p : Pattern} {c : Cursor} :
    p.search after c = none ↔ ∀ d, p.Spans c d → after d = none := by
  simp only [search, List.findSome?_eq_none_iff, mem_ends_iff]

theorem findSome?_ends {cs : List Cursor} {c : Cursor} (h : ∀ d ∈ cs, c.Leads d) :
    (distinct 0 cs).findSome? after = cs.findSome? after := by
  apply findSome?_distinct
  · intro d _ hbit
    rw [Nat.zero_testBit] at hbit
    cases hbit
  · exact fun d hd e he hindex => leads_unique (h d hd) (h e he) hindex

theorem findSome?_flatMap {α γ : Type} {f : α → List γ} {g : γ → Option β} (as : List α) :
    (as.flatMap f).findSome? g = as.findSome? fun a => (f a).findSome? g := by
  induction as with
  | nil => rfl
  | cons a as ih =>
    rw [List.flatMap_cons, List.findSome?_append, ih, List.findSome?_cons]
    cases (f a).findSome? g <;> rfl

theorem search_cat (p q : Pattern) : (cat p q).search after = p.search (q.search after) := by
  funext c
  rw [search, ends, findSome?_ends (c := c), findSome?_flatMap]
  · rfl
  · intro d hd
    obtain ⟨e, he, hd⟩ := List.mem_flatMap.1 hd
    exact leads_trans (leads_of_mem_ends he) (leads_of_mem_ends hd)

theorem search_sequence (ps : List Pattern) :
    (sequence ps).search after = ps.foldr (fun p after => p.search after) after := by
  have hfold : ∀ (ps : List Pattern) (p : Pattern),
      (ps.foldl cat p).search after =
        p.search (ps.foldr (fun p after => p.search after) after) := by
    intro ps
    induction ps with
    | nil => exact fun p => rfl
    | cons q ps ih =>
      intro p
      rw [List.foldl_cons, ih, search_cat, List.foldr_cons]
  cases ps with
  | nil =>
    funext c
    cases hafter : after c <;> simp [sequence, search, ends, hafter]
  | cons p ps => exact hfold ps p

theorem search_one {set : Char → Bool} {c d : Cursor} {ch : Char} (h : c.Reads [ch] d) :
    (one set).search after c = if set ch then after d else none := by
  rw [search, ends, reads_singleton.1 h]
  cases hafter : after d <;> cases hset : set ch <;> simp [hafter, hset]

theorem search_oneOf {c d : Cursor} {ch : Char} (h : c.Reads [ch] d) :
    (oneOf [ch]).search after c = after d := by
  rw [oneOf, search_one h, List.contains_cons, beq_self_eq_true, Bool.true_or, if_pos rfl]

theorem search_look {holds : Option Char → Option Char → Bool} {c : Cursor}
    (h : holds c.before c.rest.head? = true) : (look holds).search after c = after c := by
  rw [search, ends, if_pos h]
  cases hafter : after c <;> simp [hafter]

/-- What comes after succeeds nowhere but at the given end. -/
theorem search_of_only {p : Pattern} {c d : Cursor} (hd : p.Spans c d)
    (honly : ∀ e, p.Spans c e → e ≠ d → after e = none) : p.search after c = after d := by
  cases hsearch : p.search after c with
  | none => exact (search_eq_none_iff.1 hsearch d hd).symm
  | some b =>
    obtain ⟨e, he, hb⟩ := List.exists_of_findSome?_eq_some hsearch
    by_cases hed : e = d
    · rw [← hed, hb]
    · rw [honly e ((mem_ends_iff p c e).1 he) hed] at hb
      cases hb

/-- A run of characters of a set is taken whole, if what comes after cannot start with
any of them. -/
theorem search_many {set : Char → Bool} {c d : Cursor} {s : List Char} (hs : c.Reads s d)
    (hset : ∀ ch ∈ s, set ch = true) (hend : ∀ ch e, d.Reads [ch] e → set ch = false)
    (hafter : ∀ ch ∈ s, ∀ e f, e.Reads [ch] f → after e = none) :
    (many (one set)).search after c = after d := by
  apply search_of_only (spans_many_one.2 ⟨s, hset, hs⟩)
  intro e he hed
  obtain ⟨t, ht, he⟩ := spans_many_one.1 he
  rcases hs.split he with ⟨u, rfl, hu⟩ | ⟨u, rfl, hu⟩
  · cases u with
    | nil => exact absurd (reads_nil.1 hu) hed
    | cons ch u =>
      obtain ⟨f, hf, -⟩ := reads_cons.1 hu
      have hin := ht ch (by simp)
      rw [hend ch f hf] at hin
      cases hin
  · cases u with
    | nil => exact absurd (reads_nil.1 hu).symm hed
    | cons ch u =>
      obtain ⟨f, hf, -⟩ := reads_cons.1 hu
      exact hafter ch (by simp) e f hf

def places (before : Option Char) (index : Nat) : List Char → List Cursor
  | [] => [⟨before, [], index⟩]
  | ch :: rest => ⟨before, ch :: rest, index⟩ :: places (some ch) (index + 1) rest

theorem leads_of_mem_places {c d : Cursor} (h : d ∈ places c.before c.index c.rest) :
    c.Leads d := by
  obtain ⟨before, rest, index⟩ := c
  induction rest generalizing before index with
  | nil =>
    rw [List.mem_singleton.1 h]
    exact leads_refl _
  | cons ch rest ih =>
    rcases List.mem_cons.1 h with rfl | h
    · exact leads_refl _
    · exact leads_trans (leads_next rfl) (ih _ _ h)

def anything : Pattern := rep 0 none false (one fun _ => true)

theorem climb_anything {before : Option Char} {index : Nat} {rest : List Char}
    {done : List (Cursor × Option Nat)} (hdone : ∀ e ∈ done, e.1.index < index) :
    climb (one fun _ => true).ends false rest.length none done ⟨before, rest, index⟩ =
      ((places before index rest).map fun c => (c, none)).reverse ++ done := by
  induction rest generalizing before index done with
  | nil => rfl
  | cons ch rest ih =>
    have hnew : (done.any fun d => d.1.index = index && climb.enough d.2 none) = false := by
      rw [List.any_eq_false]
      intro e he h
      simp only [Bool.and_eq_true, decide_eq_true_eq] at h
      exact absurd h.1 (Nat.ne_of_lt (hdone e he))
    have hgrown : ∀ e ∈ (⟨before, ch :: rest, index⟩, none) :: done, e.1.index < index + 1 :=
      List.forall_mem_cons.2 ⟨Nat.lt_succ_self index, fun e he => Nat.lt_succ_of_lt (hdone e he)⟩
    have hstep : (one fun _ => true).ends ⟨before, ch :: rest, index⟩ =
        [⟨some ch, rest, index + 1⟩] := rfl
    rw [List.length_cons, climb, hnew, hstep]
    simp [ih hgrown, places]

theorem search_anything_eq (c : Cursor) :
    anything.search after c = (places c.before c.index c.rest).findSome? after := by
  have hclimb : climb (one fun _ => true).ends false c.rest.length none [] c =
      ((places c.before c.index c.rest).map fun d => (d, none)).reverse ++ [] :=
    climb_anything nofun
  have hends : anything.ends c = distinct 0 (places c.before c.index c.rest) := by
    rw [anything, ends, turns]
    simp only [Option.map_none, List.foldl_cons, List.foldl_nil, hclimb, List.append_nil,
      List.reverse_reverse, List.map_map, Function.comp_def, List.map_id']
  rw [search, hends, findSome?_ends fun d hd => leads_of_mem_places hd]

theorem search_anything_of_some {c : Cursor} {b : β} (h : after c = some b) :
    anything.search after c = some b := by
  obtain ⟨before, rest, index⟩ := c
  rw [search_anything_eq]
  cases rest <;> rw [places, List.findSome?_cons, h]

theorem search_anything_cons {c d : Cursor} {ch : Char} (hd : c.Reads [ch] d)
    (hc : after c = none) : anything.search after c = anything.search after d := by
  obtain ⟨before, rest, index⟩ := c
  obtain ⟨later, rfl⟩ : ∃ later, rest = ch :: later := ⟨d.rest, hd.rest⟩
  obtain rfl := hd.unique (reads_singleton.2 rfl)
  rw [search_anything_eq, search_anything_eq, places, List.findSome?_cons, hc]

theorem search_anything {c d : Cursor} {s : List Char} {b : β} (hs : c.Reads s d)
    (hamid : ∀ e, c.Amid s e → after e = none) (hd : after d = some b) :
    anything.search after c = some b := by
  induction s generalizing c with
  | nil => exact search_anything_of_some (reads_nil.1 hs ▸ hd)
  | cons ch s ih =>
    obtain ⟨e, he, hs⟩ := reads_cons.1 hs
    rw [search_anything_cons he (hamid c (amid_self c ch s))]
    exact ih hs fun f hf => hamid f (hf.cons he)

theorem removeFrom_cons {p : Pattern} {c d : Cursor} {ch : Char} (hd : c.Reads [ch] d)
    (hnone : ∀ e, ¬ p.Spans c e) : p.removeFrom c = ch :: p.removeFrom d := by
  have hends : (p.ends c).head? = none := by
    rw [head?_ends, search_eq_none_iff]
    exact fun e he => absurd he (hnone e)
  obtain ⟨before, rest, index⟩ := c
  obtain ⟨later, rfl⟩ : ∃ later, rest = ch :: later := ⟨d.rest, hd.rest⟩
  obtain rfl := hd.unique (reads_singleton.2 rfl)
  rw [removeFrom]
  simp only [hends]

theorem removeFrom_reads {p : Pattern} {c d : Cursor} {s : List Char} (hs : c.Reads s d)
    (hamid : ∀ e, c.Amid s e → ∀ f, ¬ p.Spans e f) :
    p.removeFrom c = s ++ p.removeFrom d := by
  induction s generalizing c with
  | nil => rw [reads_nil.1 hs, List.nil_append]
  | cons ch s ih =>
    obtain ⟨e, he, hs⟩ := reads_cons.1 hs
    rw [removeFrom_cons he (hamid c (amid_self c ch s)), ih hs fun f hf => hamid f (hf.cons he),
      List.cons_append]

theorem removeFrom_of_search {p : Pattern} (hp : p.Consuming) {c d : Cursor}
    (h : p.search some c = some d) : p.removeFrom c = p.removeFrom d := by
  rw [← head?_ends] at h
  have hspan := (mem_ends_iff p c d).1 (List.mem_of_mem_head? h)
  have hindex := hp c d hspan
  have hlength := leads_length (spans_leads p c d hspan)
  have hshorter : d.rest.length < c.rest.length := by omega
  obtain ⟨before, rest, index⟩ := c
  cases rest with
  | nil => cases hshorter
  | cons ch rest =>
    rw [removeFrom]
    simp only [h, if_pos hshorter]

end Pattern

end PageConfig
